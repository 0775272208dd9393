import UpSetProse.Proofs.Double.Approximation
import UpSetProse.Statistics.Comparison

/-!
# The bands of divergence

The share of the largest size goes through a quotient, a product and two rounded decimal bounds.
Unless the exact share is closer to a bound than all of these roundings, it is put in its own band.
For sizes of up to 38 bits a share that is not exactly a bound is never that close, and the share
that is computed depends on nothing but the ratio of the sizes, so that one pair of sizes decides
what happens at each bound: 26.67 and 53.35 percent are rounded to less than the bound, and only 80
percent are put in the band above.
-/

namespace UpSetProse.Divergence

/-- The band of the exact share, where a bound is not part of the band that it ends. -/
def band (smallest largest : Nat) : Divergence :=
  if 10000 * smallest < 2667 * largest then .strong
  else if 10000 * smallest < 5335 * largest then .moderate
  else if 100 * smallest < 80 * largest then .slight
  else .identical

/-- The exact share of the largest size in percent. -/
def percentage (smallest largest : Nat) : ℚ := smallest / largest * 100

/-- The share of the largest size as it is computed. -/
def share (smallest largest : Nat) : Double := .ofNat smallest / .ofNat largest * 100

variable {smallest largest : Nat}

/-- Sizes are judged by comparing the computed share with the bounds. -/
theorem ofSizes_eq_share {smallest largest : Size} (hlargest : largest ≠ 0) :
    ofSizes smallest largest =
      if (share smallest.toNat largest.toNat).lt bounds.1 then .strong
      else if (share smallest.toNat largest.toNat).lt bounds.2.1 then .moderate
      else if (share smallest.toNat largest.toNat).lt bounds.2.2 then .slight
      else .identical :=
  if_neg hlargest

/-! ## Shares that are not close to a bound -/

/-- The exact share is below a number of hundredths of a percent. -/
theorem percentage_lt_iff (hlargest : 0 < largest) (digits : Nat) :
    percentage smallest largest < digits / 100 ↔ 10000 * smallest < digits * largest := by
  have hpos : (0 : ℚ) < largest := Nat.cast_pos.mpr hlargest
  have hhundredths : (100 * smallest * 100 : ℚ) = (10000 * smallest : Nat) := by
    push_cast
    ring
  rw [percentage, div_mul_eq_mul_div, div_lt_div_iff₀ hpos (by norm_num), mul_comm (smallest : ℚ),
    hhundredths]
  exact_mod_cast Iff.rfl

theorem share_zero (hlargest : 0 < largest) (hlargest' : largest ≤ 2 ^ 64) :
    share 0 largest = .signedZero false := by
  have hzero : Double.ofNat 0 = .signedZero false := by
    unfold Double.ofNat Double.ofInteger
    rw [Nat.zero_mul, Double.ofUnits_zero]
  have hhundred : (100 : Double) = .ofNat 100 := rfl
  obtain ⟨n, hn, hpos, -, hl⟩ := (Double.approximates_ofNat hlargest hlargest').exists_finite
    (Nat.cast_pos.mpr hlargest)
  obtain ⟨_, hm⟩ := Double.ofNat_eq_finite_of_le (n := 100) (by decide)
  rw [share, hhundred, hzero, hl, hm, Double.signedZero, Double.div_finite _ _ _ _ hpos,
    Nat.zero_mul, Double.ofUnits_zero, Double.signedZero, Double.mul_finite, Nat.zero_mul,
    Double.ofUnits_zero]
  rfl

theorem approximates_share (hlargest : 0 < largest) (hsmallest' : smallest ≤ 2 ^ 64)
    (hlargest' : largest ≤ 2 ^ 64) :
    (share smallest largest).Approximates 5 (percentage smallest largest) := by
  rcases Nat.eq_zero_or_pos smallest with rfl | hsmallest
  · have hpercentage : percentage 0 largest = 0 := by
      unfold percentage
      rw [Nat.cast_zero, zero_div, zero_mul]
    have hnear : Near 5 0 ((0 : Nat) / Double.one) := by
      rw [Nat.cast_zero, zero_div]
      exact .refl le_rfl 5
    rw [share_zero hlargest hlargest', hpercentage]
    exact .finite hnear
  · obtain ⟨hlow, hhigh⟩ := Double.ratio_bounds hsmallest hlargest hsmallest' hlargest'
    have hpos : (0 : ℚ) < smallest / largest := lt_of_lt_of_le (by norm_num) hlow
    have hmoderate : Moderate (smallest / largest * (100 : Nat)) := by
      constructor <;> push_cast <;> linarith
    have hquotient := Double.approximates_ofNat_div hsmallest hlargest hsmallest' hlargest'
    have hhundred := Double.approximates_ofNat (n := 100) (by decide) (by decide)
    have hproduct := hquotient.mul hhundred hpos (by norm_num) hmoderate (by decide)
    exact_mod_cast hproduct

/-- A share that is apart from a bound is compared with it as the exact share is. -/
theorem share_lt_iff {bound : Double} {digits : Nat} (hbound : bound.Approximates 1 (digits / 100))
    (hlargest : 0 < largest) (hsmallest' : smallest ≤ 2 ^ 64) (hlargest' : largest ≤ 2 ^ 64)
    (hapart : Apart (percentage smallest largest) (digits / 100)) :
    (share smallest largest).lt bound = true ↔ 10000 * smallest < digits * largest := by
  have hshare := approximates_share hlargest hsmallest' hlargest'
  have hpercentage : 0 ≤ percentage smallest largest := by
    unfold percentage
    positivity
  have hdigits : (0 : ℚ) ≤ digits / 100 := by positivity
  rw [hshare.lt_iff hbound hpercentage hdigits hapart (by decide), percentage_lt_iff hlargest]

/-- The exact share is further from all three bounds than roundings go. -/
def Clear (smallest largest : Nat) : Prop :=
  ∀ bound ∈ [(2667 / 100 : ℚ), 5335 / 100, 80], Apart (percentage smallest largest) bound

/-- A share that is clear of the bounds is in its own band. -/
theorem ofSizes_eq_band {smallest largest : Size} (hlargest : largest ≠ 0)
    (hclear : Clear smallest.toNat largest.toNat) :
    ofSizes smallest largest = band smallest.toNat largest.toNat := by
  have hpos : 0 < largest.toNat := Nat.pos_of_ne_zero fun h => hlargest (UInt64.toNat.inj h)
  have hs := smallest.toNat_lt.le
  have hl := largest.toNat_lt.le
  obtain ⟨hstrong, hmoderate, hslight⟩ : _ ∧ _ ∧ _ := by simpa [Clear] using hclear
  have hfirst := share_lt_iff (Double.approximates_hundredths 2667 (by decide) (by decide))
    hpos hs hl (by exact_mod_cast hstrong)
  have hsecond := share_lt_iff (Double.approximates_hundredths 5335 (by decide) (by decide))
    hpos hs hl (by exact_mod_cast hmoderate)
  have heighty : (80 : Double).Approximates 1 ((8000 : Nat) / 100) := by
    have happrox := Double.approximates_ofNat (n := 80) (by decide) (by decide)
    norm_num at happrox ⊢
    exact happrox
  have hthird := share_lt_iff heighty hpos hs hl (by norm_num; exact hslight)
  have hpercent : 10000 * smallest.toNat < 8000 * largest.toNat ↔
      100 * smallest.toNat < 80 * largest.toNat := by omega
  rw [hpercent] at hthird
  rw [ofSizes_eq_share hlargest, band]
  simp only [bounds, hfirst, hsecond, hthird]

/-! ## Shares of small sizes -/

/-- A share of not too large a size is a fraction or apart from it. -/
theorem apart_percentage (num den : Nat) (hden : 0 < den) (hlargest : 0 < largest)
    (hsmall : num * largest < 2 ^ 50 - 1) (hne : den * smallest ≠ num * largest) :
    Apart (percentage smallest largest) (num / den * 100) := by
  have hden' : (den : ℚ) ≠ 0 := Nat.cast_ne_zero.mpr hden.ne'
  have hlargest' : (largest : ℚ) ≠ 0 := Nat.cast_ne_zero.mpr hlargest.ne'
  have hscale : (0 : ℚ) < 100 / (den * largest) := by positivity
  have hshare : percentage smallest largest = (den * smallest : Nat) * (100 / (den * largest)) := by
    unfold percentage
    push_cast
    field_simp
  have hbound : (num / den * 100 : ℚ) = (num * largest : Nat) * (100 / (den * largest)) := by
    push_cast
    field_simp
  rw [hshare, hbound]
  exact (apart_natCast hne hsmall).mul_right hscale

/-- Sizes of up to 53 bits are judged by their ratio alone. -/
theorem ofSizes_of_ratio {smallest largest : Size} (num den : Size) (hlargest : largest ≠ 0)
    (hden : den ≠ 0) (hl : largest.toNat ≤ 2 ^ 53) (hd : den.toNat ≤ 2 ^ 53) (hnum : num ≤ den)
    (h : den.toNat * smallest.toNat = num.toNat * largest.toNat) :
    ofSizes smallest largest = ofSizes num den := by
  have hpos : 0 < largest.toNat := Nat.pos_of_ne_zero fun h => hlargest (UInt64.toNat.inj h)
  have hpos' : 0 < den.toNat := Nat.pos_of_ne_zero fun h => hden (UInt64.toNat.inj h)
  have hn : num.toNat ≤ den.toNat := UInt64.le_iff_toNat_le.mp hnum
  have hs : smallest.toNat ≤ largest.toNat := by
    have hle : den.toNat * smallest.toNat ≤ den.toNat * largest.toNat :=
      h.trans_le (Nat.mul_le_mul_right _ hn)
    exact Nat.le_of_mul_le_mul_left hle hpos'
  have hratio : smallest.toNat * Double.one * den.toNat =
      num.toNat * Double.one * largest.toNat := by
    calc smallest.toNat * Double.one * den.toNat
      _ = den.toNat * smallest.toNat * Double.one := by ring
      _ = num.toNat * largest.toNat * Double.one := by rw [h]
      _ = num.toNat * Double.one * largest.toNat := by ring
  have hshare : share smallest.toNat largest.toNat = share num.toNat den.toNat := by
    unfold share
    rw [Double.ofNat_div_ofNat (hs.trans hl) hl hpos, Double.ofNat_div_ofNat (hn.trans hd) hd hpos',
      Double.ofUnits_congr false hpos hpos' hratio]
  rw [ofSizes_eq_share hlargest, ofSizes_eq_share hden, hshare]

/-- A share that is exactly one of the first two bounds is put in the band that the bound ends, and
one that is exactly the third in the band above. -/
theorem ofSizes_bounds : ofSizes 2667 10000 = .strong ∧ ofSizes 1067 2000 = .moderate ∧
    ofSizes 4 5 = .identical := by
  decide +kernel

/-- Among sizes of up to 38 bits, a share that is not one of the bounds is clear of them. -/
theorem clear_of_ne (hlargest : 0 < largest) (hsmall : largest ≤ 2 ^ 38)
    (hfirst : 10000 * smallest ≠ 2667 * largest) (hsecond : 10000 * smallest ≠ 5335 * largest)
    (hthird : 5 * smallest ≠ 4 * largest) : Clear smallest largest := by
  have hreduced : 2000 * smallest ≠ 1067 * largest := by omega
  have hlow := apart_percentage 2667 10000 (by decide) hlargest (by omega) hfirst
  have hmiddle := apart_percentage 1067 2000 (by decide) hlargest (by omega) hreduced
  have hhigh := apart_percentage 4 5 (by decide) hlargest (by omega) hthird
  norm_num at hlow hmiddle hhigh
  simp only [Clear, List.forall_mem_cons, List.not_mem_nil]
  norm_num
  exact ⟨hlow, hmiddle, hhigh⟩

/-- A pair of sizes that is clear of the bounds is in the band of its exact share. Of sizes of up to
38 bits these are all, except for shares of exactly 26.67 or 53.35 percent. -/
theorem ofSizes_eq_band_iff {largest : Size} (hlargest : largest ≠ 0) (smallest : Size) :
    (Clear smallest.toNat largest.toNat →
      ofSizes smallest largest = band smallest.toNat largest.toNat) ∧
    (largest.toNat ≤ 2 ^ 38 →
      (ofSizes smallest largest = band smallest.toNat largest.toNat ↔
        10000 * smallest.toNat ≠ 2667 * largest.toNat ∧
          10000 * smallest.toNat ≠ 5335 * largest.toNat)) := by
  refine ⟨ofSizes_eq_band hlargest, fun hsmall => ?_⟩
  have hpos : 0 < largest.toNat := Nat.pos_of_ne_zero fun h => hlargest (UInt64.toNat.inj h)
  have hl : largest.toNat ≤ 2 ^ 53 := hsmall.trans (by decide)
  obtain ⟨hlow, hmiddle, hhigh⟩ := ofSizes_bounds
  by_cases hfirst : 10000 * smallest.toNat = 2667 * largest.toNat
  · have hcode : ofSizes smallest largest = .strong :=
      (ofSizes_of_ratio 2667 10000 hlargest (by decide) hl (by decide) (by decide) hfirst).trans
        hlow
    have hband : band smallest.toNat largest.toNat = .moderate := by
      rw [band, if_neg (by omega), if_pos (by omega)]
    rw [hcode, hband]
    exact iff_of_false (by decide) fun h => h.1 hfirst
  by_cases hsecond : 10000 * smallest.toNat = 5335 * largest.toNat
  · have hratio : (2000 : Size).toNat * smallest.toNat = (1067 : Size).toNat * largest.toNat := by
      change 2000 * smallest.toNat = 1067 * largest.toNat
      omega
    have hcode : ofSizes smallest largest = .moderate :=
      (ofSizes_of_ratio 1067 2000 hlargest (by decide) hl (by decide) (by decide) hratio).trans
        hmiddle
    have hband : band smallest.toNat largest.toNat = .slight := by
      rw [band, if_neg (by omega), if_neg (by omega), if_pos (by omega)]
    rw [hcode, hband]
    exact iff_of_false (by decide) fun h => h.2 hsecond
  refine iff_of_true ?_ ⟨hfirst, hsecond⟩
  by_cases hthird : 5 * smallest.toNat = 4 * largest.toNat
  · have hcode : ofSizes smallest largest = .identical :=
      (ofSizes_of_ratio 4 5 hlargest (by decide) hl (by decide) (by decide) hthird).trans hhigh
    have hband : band smallest.toNat largest.toNat = .identical := by
      rw [band, if_neg (by omega), if_neg (by omega), if_neg (by omega)]
    rw [hcode, hband]
  · exact ofSizes_eq_band hlargest (clear_of_ne hpos hsmall hfirst hsecond hthird)

/-- Just below the first bound the band is that of the exact share. -/
theorem ofSizes_below_first_bound : (100000000 : Size) ≠ 0 ∧
    ofSizes 26669999 100000000 = band 26669999 100000000 ∧ band 26669999 100000000 = .strong := by
  have hlargest : (100000000 : Size) ≠ 0 := by decide
  have hband := ((ofSizes_eq_band_iff hlargest 26669999).2 (by decide)).mpr ⟨by decide, by decide⟩
  exact ⟨hlargest, hband, by decide⟩

/-- A share of exactly 26.67 percent is not below the first bound, but is judged as if it were. -/
theorem not_forall_ofSizes_eq_band : ¬ ∀ smallest largest : Size, largest ≠ 0 →
    ofSizes smallest largest = band smallest.toNat largest.toNat := by
  intro h
  have hband := h 2667 10000 (by decide)
  rw [ofSizes_bounds.1] at hband
  exact absurd hband (by decide)

end UpSetProse.Divergence
