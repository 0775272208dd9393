import UpSetProse.Proofs.Double.Error
import UpSetProse.Proofs.Double.Order

/-!
# Running sums of copies

Copies of a number are added up one after the other, and every sum is rounded. Up to five copies, or
as long as the exact sums have at most 53 bits, the sum has the value of the rounded product. Later
the two may differ, by no more than a `2 ^ 53`-th of the number for every sum that was rounded.
-/

namespace UpSetProse

/-- The running sum of `k + 1` copies of a number of units, as if no number were too large. -/
def copiesUnits (units : Nat) : Nat → Nat
  | 0 => units
  | k + 1 => nearestUnits (copiesUnits units k + units) 1

section rounding

variable {n k : Nat}

theorem bitLength_mul_two_pow (hpos : 0 < n) (k : Nat) :
    bitLength (n * 2 ^ k) = bitLength n + k := by
  obtain ⟨length, hlength⟩ := exists_bitLength_eq_succ hpos
  obtain ⟨hlow, hhigh⟩ := bitLength_eq_succ_iff.mp hlength
  rw [hlength, Nat.add_right_comm, bitLength_eq_succ_iff, Nat.pow_add, Nat.add_right_comm,
    Nat.pow_add]
  exact ⟨Nat.mul_le_mul_right _ hlow, Nat.mul_lt_mul_of_pos_right hhigh (Nat.two_pow_pos k)⟩

/-- Numbers with more than 53 digits are rounded to a multiple of the power they are short of. -/
theorem nearestUnits_of_bitLength (dropped : Nat) (h : bitLength n = 53 + dropped) :
    nearestUnits n 1 = roundQuotient n (2 ^ dropped) * 2 ^ dropped := by
  have hdropped : bitLength n - 53 = dropped := by omega
  unfold nearestUnits
  dsimp only
  rw [Nat.div_one, hdropped, Nat.one_mul, Nat.pow_eq]

/-- Shifted numbers are rounded to shifted numbers. -/
theorem nearestUnits_mul_two_pow (n k : Nat) :
    nearestUnits (n * 2 ^ k) 1 = nearestUnits n 1 * 2 ^ k := by
  rcases Nat.lt_or_ge (2 ^ 53) n with hlarge | hsmall
  · obtain ⟨dropped, hlength⟩ : ∃ dropped, bitLength n = 53 + dropped := by
      have hnot : ¬ bitLength n ≤ 53 := by
        rw [bitLength_le_iff]
        omega
      exact ⟨bitLength n - 53, by omega⟩
    have hshifted : bitLength (n * 2 ^ k) = 53 + (dropped + k) := by
      rw [bitLength_mul_two_pow (Nat.zero_lt_of_lt hlarge), hlength, Nat.add_assoc]
    rw [nearestUnits_of_bitLength _ hlength, nearestUnits_of_bitLength _ hshifted, Nat.pow_add,
      roundQuotient_mul_right _ _ (Nat.two_pow_pos k), Nat.mul_assoc]
  · have hsignificant := significant_of_le hsmall
    rw [nearestUnits_one hsignificant, nearestUnits_one (hsignificant.mul_two_pow k)]

theorem nearestUnits_of_54_bits (hlow : 2 ^ 53 ≤ n) (hhigh : n < 2 ^ 54) :
    nearestUnits n 1 = roundQuotient n 2 * 2 :=
  nearestUnits_of_bitLength 1 (bitLength_eq_succ_iff.mpr ⟨hlow, hhigh⟩)

theorem nearestUnits_of_55_bits (hlow : 2 ^ 54 ≤ n) (hhigh : n < 2 ^ 55) :
    nearestUnits n 1 = roundQuotient n 4 * 4 :=
  nearestUnits_of_bitLength 2 (bitLength_eq_succ_iff.mpr ⟨hlow, hhigh⟩)

/-- Numbers next to a multiple of four are rounded to it, with 55 bits also those halfway to the
next multiples, if its quarter is even. -/
theorem nearestUnits_eq_four_mul {quarter : Nat} (hlow : 2 ^ 53 ≤ n) (hhigh : n < 2 ^ 55)
    (hnear : n ≤ 4 * quarter + 1 ∧ 4 * quarter ≤ n + 1 ∨
      2 ^ 54 ≤ n ∧ quarter % 2 = 0 ∧ n ≤ 4 * quarter + 2 ∧ 4 * quarter ≤ n + 2) :
    nearestUnits n 1 = 4 * quarter := by
  rcases Nat.lt_or_ge n (2 ^ 54) with hshort | hlong
  · rw [nearestUnits_of_54_bits hlow hshort]
    unfold roundQuotient
    dsimp only
    split_ifs <;> omega
  · rw [nearestUnits_of_55_bits hlong hhigh]
    unfold roundQuotient
    dsimp only
    split_ifs <;> omega

/-- Whatever is lost when a number is taken three times, the fourth makes up for it. -/
theorem nearestUnits_add_three (h : n < 2 ^ 53) :
    nearestUnits (nearestUnits (3 * n) 1 + n) 1 = 4 * n := by
  rcases Nat.lt_or_ge (3 * n) (2 ^ 53) with hexact | hlarge
  · have hsum : 3 * n + n = 4 * n := by omega
    rw [nearestUnits_one (significant_of_le hexact.le), hsum]
    exact nearestUnits_one ⟨n, 2, h, Nat.mul_comm 4 n⟩
  rcases Nat.lt_or_ge (3 * n) (2 ^ 54) with hshort | hlong
  · have herror : nearestUnits (3 * n) 1 ≤ 3 * n + 1 ∧ 3 * n ≤ nearestUnits (3 * n) 1 + 1 := by
      rw [nearestUnits_of_54_bits hlarge hshort]
      unfold roundQuotient
      dsimp only
      split_ifs <;> omega
    generalize nearestUnits (3 * n) 1 = three at herror ⊢
    exact nearestUnits_eq_four_mul (by omega) (by omega) (.inl (by omega))
  · have herror : nearestUnits (3 * n) 1 ≤ 3 * n + 1 ∧ 3 * n ≤ nearestUnits (3 * n) 1 + 1 ∨
        n % 2 = 0 ∧ nearestUnits (3 * n) 1 ≤ 3 * n + 2 ∧ 3 * n ≤ nearestUnits (3 * n) 1 + 2 := by
      rw [nearestUnits_of_55_bits hlong (by omega)]
      unfold roundQuotient
      dsimp only
      split_ifs <;> omega
    generalize nearestUnits (3 * n) 1 = three at herror ⊢
    refine nearestUnits_eq_four_mul (by omega) (by omega) (herror.imp ?_ ?_)
    · omega
    · rintro ⟨heven, hhigh, hlow⟩
      exact ⟨by omega, heven, by omega, by omega⟩

end rounding

/-! ## Copies that add up to their product -/

section copiesUnits

variable {units : Nat}

theorem copiesUnits_mul_two_pow (units shift k : Nat) :
    copiesUnits (units * 2 ^ shift) k = copiesUnits units k * 2 ^ shift := by
  induction k with
  | zero => rfl
  | succ k ih =>
    rw [copiesUnits, ih, ← Nat.add_mul, nearestUnits_mul_two_pow, copiesUnits]

theorem significant_copiesUnits (h : Significant units) (k : Nat) :
    Significant (copiesUnits units k) := by
  cases k with
  | zero => exact h
  | succ k => exact significant_nearestUnits _ 1

/-- Sums of up to 53 bits are exact. -/
theorem copiesUnits_of_le {k : Nat} (h : (k + 1) * units ≤ 2 ^ 53) :
    copiesUnits units k = (k + 1) * units := by
  induction k with
  | zero => exact (Nat.one_mul units).symm
  | succ k ih =>
    rw [Nat.succ_mul] at h ⊢
    rw [copiesUnits, ih (Nat.le_of_add_right_le h), nearestUnits_one (significant_of_le h)]

/-- Up to five copies add up to the rounded product. -/
theorem copiesUnits_of_lt_five (hunits : Significant units) {k : Nat} (hk : k < 5) :
    copiesUnits units k = nearestUnits ((k + 1) * units) 1 := by
  obtain ⟨significand, shift, hlt, rfl⟩ := hunits
  rw [copiesUnits_mul_two_pow, ← Nat.mul_assoc, nearestUnits_mul_two_pow]
  congr 1
  have hone : nearestUnits significand 1 = significand :=
    nearestUnits_one (significant_of_le hlt.le)
  have htwo : copiesUnits significand 1 = 2 * significand := by
    have hsignificant : Significant (significand + significand) :=
      ⟨significand, 1, hlt, by omega⟩
    rw [copiesUnits, copiesUnits, nearestUnits_one hsignificant, Nat.two_mul]
  have hthree : copiesUnits significand 2 = nearestUnits (3 * significand) 1 := by
    have hsum : 2 * significand + significand = 3 * significand := by omega
    rw [copiesUnits, htwo, hsum]
  have hfour : copiesUnits significand 3 = 4 * significand := by
    rw [copiesUnits, hthree, nearestUnits_add_three hlt]
  match k with
  | 0 => rw [Nat.zero_add, Nat.one_mul, hone, copiesUnits]
  | 1 =>
    have hsignificant : Significant (2 * significand) := ⟨significand, 1, hlt, by omega⟩
    rw [htwo, nearestUnits_one hsignificant]
  | 2 => exact hthree
  | 3 =>
    have hsignificant : Significant (4 * significand) := ⟨significand, 2, hlt, by omega⟩
    rw [hfour, nearestUnits_one hsignificant]
  | 4 =>
    have hsum : 4 * significand + significand = 5 * significand := by omega
    rw [copiesUnits, hfour, hsum]

/-- Each sum adds at most a `2 ^ 53`-th of itself to the error. -/
theorem abs_copiesUnits_sub_le (units : Nat) {k : Nat} (hk : k < 2 ^ 20) :
    2 ^ 53 * |(copiesUnits units k - (k + 1) * units : Int)| ≤ (k + 1) * (k + 2) * units := by
  induction k with
  | zero =>
    have hexact : (copiesUnits units 0 : Int) - ((0 : Nat) + 1) * units = 0 := by
      rw [copiesUnits]
      ring
    rw [hexact, abs_zero, mul_zero]
    positivity
  | succ k ih =>
    have hprevious := ih (Nat.lt_of_succ_lt hk)
    have hround := abs_nearestUnits_one_sub_le (copiesUnits units k + units)
    rw [copiesUnits]
    generalize copiesUnits units k = sum at hprevious hround ⊢
    generalize nearestUnits (sum + units) 1 = next at hround ⊢
    have hunits : (0 : Int) ≤ units := Int.natCast_nonneg units
    have hsmall : ((k : Int) + 1) * (k + 2) ≤ 2 ^ 53 := by
      have hlt : (k : Int) + 1 < 2 ^ 20 := by exact_mod_cast hk
      nlinarith
    -- The error so far is at most one more copy.
    have herror : |(sum - (k + 1) * units : Int)| ≤ units := by
      have hscaled := hprevious.trans (mul_le_mul_of_nonneg_right hsmall hunits)
      exact le_of_mul_le_mul_left hscaled (by norm_num)
    have hsum := (le_abs_self _).trans herror
    have hsplit : (next - ((k : Int) + 1 + 1) * units) =
        (next - (sum + units)) + (sum - (k + 1) * units) := by ring
    have htriangle := abs_add_le (next - (sum + units) : Int) (sum - (k + 1) * units)
    push_cast at hround ⊢
    rw [hsplit]
    calc 2 ^ 53 * |(next - (sum + units) : Int) + (sum - (k + 1) * units)|
      _ ≤ 2 ^ 53 * (|(next - (sum + units) : Int)| + |(sum - (k + 1) * units : Int)|) :=
        mul_le_mul_of_nonneg_left htriangle (by norm_num)
      _ ≤ (sum + units) + (k + 1) * (k + 2) * units := by linarith
      _ ≤ (k + 3) * units + (k + 1) * (k + 2) * units := by linarith
      _ ≤ (k + 1 + 1) * (k + 1 + 2) * units := by nlinarith

/-- By how much the running sum of copies misses the rounded product. -/
def missedUnits (units k : Nat) : Nat :=
  (nearestUnits ((k + 1) * units) 1 - copiesUnits units k : Int).natAbs

/-- A running sum of up to `2 ^ 16` copies misses the product by little more than a millionth of one
copy. -/
theorem missedUnits_mul_le (units : Nat) {k : Nat} (hk : k < 2 ^ 16) :
    missedUnits units k * 2 ^ 20 ≤ units := by
  have hsum := abs_copiesUnits_sub_le units (hk.trans (by decide))
  have hproduct := abs_nearestUnits_one_sub_le ((k + 1) * units)
  have htriangle := abs_sub_le (nearestUnits ((k + 1) * units) 1 : Int) ((k + 1) * units)
    (copiesUnits units k)
  rw [abs_sub_comm ((k + 1) * units : Int)] at htriangle
  push_cast at hproduct
  have hcount : ((k : Int) + 1) * (k + 3) ≤ 2 ^ 33 := by
    have hlt : (k : Int) < 2 ^ 16 := by exact_mod_cast hk
    nlinarith
  have hunits : (0 : Int) ≤ units := Int.natCast_nonneg units
  have hmissed : 2 ^ 53 * |(nearestUnits ((k + 1) * units) 1 - copiesUnits units k : Int)| ≤
      2 ^ 33 * units := by
    calc 2 ^ 53 * |(nearestUnits ((k + 1) * units) 1 - copiesUnits units k : Int)|
      _ ≤ (k + 1) * units + (k + 1) * (k + 2) * units := by linarith
      _ = (k + 1) * (k + 3) * units := by ring
      _ ≤ 2 ^ 33 * units := mul_le_mul_of_nonneg_right hcount hunits
  rw [Int.abs_eq_natAbs] at hmissed
  unfold missedUnits
  omega

/-- What a running sum misses the product by has no digits that the number itself does not have. -/
theorem le_missedUnits {significand shift k : Nat}
    (hmissed : missedUnits (significand * 2 ^ shift) k ≠ 0) :
    2 ^ shift ≤ missedUnits (significand * 2 ^ shift) k := by
  have hfactor : missedUnits (significand * 2 ^ shift) k =
      missedUnits significand k * 2 ^ shift := by
    unfold missedUnits
    rw [copiesUnits_mul_two_pow, ← Nat.mul_assoc, nearestUnits_mul_two_pow, Nat.cast_mul,
      Nat.cast_mul, ← sub_mul, Int.natAbs_mul, Int.natAbs_natCast]
  rw [hfactor] at hmissed ⊢
  exact Nat.le_mul_of_pos_left _ (Nat.pos_of_ne_zero (Nat.ne_zero_of_mul_ne_zero_left hmissed))

end copiesUnits

/-! ## Sums and products of doubles -/

namespace Double

variable {n : Nat} {h : Representable n}

theorem ofUnits_nearestUnits (negative : Bool) (num den : Nat) :
    ofUnits negative (nearestUnits num den) 1 = ofUnits negative num den := by
  have hexact := nearestUnits_one (significant_nearestUnits num den)
  unfold ofUnits
  simp only [hexact]

theorem ofUnits_infinite {num den : Nat} (negative : Bool)
    (hinfinite : infiniteUnits ≤ nearestUnits num den) :
    ofUnits negative num den = infinity negative :=
  dif_neg (Nat.not_lt.mpr hinfinite)

/-- The running sum of copies of a double. -/
theorem iterate_add_finite (negative : Bool) (h : Representable n) (k : Nat) :
    (· + finite negative n h)^[k] (finite negative n h) = ofUnits negative (copiesUnits n k) 1 := by
  induction k with
  | zero => exact (ofUnits_one h negative).symm
  | succ k ih =>
    rw [Function.iterate_succ_apply', ih, copiesUnits, ofUnits_nearestUnits]
    have hexact : nearestUnits (copiesUnits n k) 1 = copiesUnits n k :=
      nearestUnits_one (significant_copiesUnits h.significant k)
    rcases Nat.lt_or_ge (copiesUnits n k) infiniteUnits with hfinite | hinfinite
    · have hsum : Representable (copiesUnits n k) :=
        ⟨hfinite, significant_copiesUnits h.significant k⟩
      rw [ofUnits_one hsum, add_same_sign]
    · have hsum : infiniteUnits ≤ nearestUnits (copiesUnits n k) 1 := hinfinite.trans_eq hexact.symm
      have hnext : infiniteUnits ≤ nearestUnits (copiesUnits n k + n) 1 :=
        hsum.trans (nearestUnits_mono Nat.one_pos (Nat.le_add_right _ _))
      rw [ofUnits_infinite negative hsum, ofUnits_infinite negative hnext]
      rfl

theorem ofNat_mul_finite (negative : Bool) (h : Representable n) {k : Nat} (hk : k ≤ 2 ^ 53) :
    ofNat k * finite negative n h = ofUnits negative (k * n) 1 := by
  obtain ⟨hk, heq⟩ := ofNat_eq_finite_of_le hk
  have hcancel : k * one * n * 1 = k * n * one := by ring
  rw [heq, mul_finite, Bool.false_bne]
  exact ofUnits_congr negative one_pos Nat.one_pos hcancel

/-- Numbers of one sign have a finite difference, which is rounded without regard to it. -/
theorem sub_same_sign (negative : Bool) {m n : Nat} (hm : Representable m) (hn : Representable n) :
    ∃ sign, ∃ h : Representable (nearestUnits (m - n : Int).natAbs 1),
      finite negative m hm - finite negative n hn =
        finite sign (nearestUnits (m - n : Int).natAbs 1) h := by
  have hbound : nearestUnits (m - n : Int).natAbs 1 < infiniteUnits := by
    rcases Nat.le_total n m with hle | hle
    · exact (nearestUnits_le Nat.one_pos hm.significant (by omega)).trans_lt hm.1
    · exact (nearestUnits_le Nat.one_pos hn.significant (by omega)).trans_lt hn.1
  have habs : (signedUnits negative m + signedUnits (!negative) n).natAbs =
      (m - n : Int).natAbs := by
    cases negative <;>
      simp only [signedUnits, if_true, Bool.false_eq_true, if_false, Bool.not_true,
        Bool.not_false] <;> omega
  change ∃ sign h, finite negative m hm + finite (!negative) n hn = _
  rw [add_finite, habs]
  split
  · rename_i hzero
    have hunits : nearestUnits (m - n : Int).natAbs 1 = 0 := by
      rw [← habs, hzero, Int.natAbs_zero, nearestUnits_zero]
    simp only [hunits]
    exact ⟨_, representable_zero, rfl⟩
  · unfold ofUnits
    rw [dif_pos hbound]
    exact ⟨_, representable_nearestUnits hbound, rfl⟩

/-- The product less the running sum is what the sum misses, as long as both are finite. -/
theorem exists_product_sub_sum (negative : Bool) (h : Representable n) {k : Nat} (hk : k < 2 ^ 16)
    (hfinite : n * 2 ^ 17 < infiniteUnits) :
    ∃ sign, ∃ hmissed : Representable (nearestUnits (missedUnits n k) 1),
      ofNat (k + 1) * finite negative n h - (· + finite negative n h)^[k] (finite negative n h) =
        finite sign (nearestUnits (missedUnits n k) 1) hmissed := by
  have hproduct : nearestUnits ((k + 1) * n) 1 ≤ n * 2 ^ 16 := by
    refine nearestUnits_le Nat.one_pos (h.significant.mul_two_pow 16) ?_
    rw [Nat.mul_one, Nat.mul_comm]
    exact Nat.mul_le_mul_left n hk
  have hsum : copiesUnits n k ≤ n * 2 ^ 17 := by
    have hmissed := missedUnits_mul_le n hk
    unfold missedUnits at hmissed
    omega
  have hproduct' : Representable (nearestUnits ((k + 1) * n) 1) :=
    representable_nearestUnits (by omega)
  have hsum' : Representable (copiesUnits n k) :=
    ⟨hsum.trans_lt hfinite, significant_copiesUnits h.significant k⟩
  rw [iterate_add_finite, ofNat_mul_finite negative h (by omega), ← ofUnits_nearestUnits,
    ofUnits_one hproduct', ofUnits_one hsum']
  exact sub_same_sign negative hproduct' hsum'

/-- Adding copies one after the other gives the value of the product by their number, every time. -/
def AddsUp (x : Double) (n : Nat) : Prop :=
  ∀ k < n, ((· + x)^[k] x).value = (ofNat (k + 1) * x).value

/-- A finite double is the rounding of its own units. -/
theorem eq_finite_of_isFinite {x : Double} (hx : x.isFinite = true) :
    ∃ negative units, ∃ h : Representable units,
      x.value.natAbs = units ∧ x = finite negative units h := by
  cases x with
  | nan => cases hx
  | infinity negative => cases hx
  | finite negative units h =>
    refine ⟨negative, units, h, ?_, rfl⟩
    cases negative
    · exact Int.natAbs_natCast units
    · exact (Int.natAbs_neg _).trans (Int.natAbs_natCast units)

section AddsUp

variable {count : Nat}

theorem addsUp_of_copiesUnits (negative : Bool) (h : Representable n) (hcount : count ≤ 2 ^ 53)
    (hcopies : ∀ k < count, copiesUnits n k = nearestUnits ((k + 1) * n) 1) :
    (finite negative n h).AddsUp count := by
  intro k hk
  rw [iterate_add_finite, ofNat_mul_finite negative h (hk.trans_le hcount), hcopies k hk,
    ofUnits_nearestUnits]

/-- Up to five copies of any number add up. -/
theorem addsUp_of_le_five {x : Double} (hx : x.isFinite = true) (hcount : count ≤ 5) :
    x.AddsUp count := by
  obtain ⟨negative, units, h, -, rfl⟩ := eq_finite_of_isFinite hx
  exact addsUp_of_copiesUnits negative h (hcount.trans (by decide))
    fun k hk => copiesUnits_of_lt_five h.significant (hk.trans_le hcount)

/-- Copies of a number add up as long as their number leaves room for its digits. -/
theorem addsUp_of_short {x : Double} (hx : x.isFinite = true) {significand shift : Nat}
    (hdigits : x.value.natAbs = significand * 2 ^ shift) (hcount : count ≤ 2 ^ 53)
    (hroom : count * significand ≤ 2 ^ 53) : x.AddsUp count := by
  obtain ⟨negative, units, h, hunits, rfl⟩ := eq_finite_of_isFinite hx
  obtain rfl := hunits.symm.trans hdigits
  refine addsUp_of_copiesUnits negative h hcount fun k hk => ?_
  have hsum : (k + 1) * significand ≤ 2 ^ 53 := (Nat.mul_le_mul_right _ hk).trans hroom
  rw [copiesUnits_mul_two_pow, copiesUnits_of_le hsum, ← Nat.mul_assoc,
    nearestUnits_one ((significant_of_le hsum).mul_two_pow shift)]

/-- Copies that do not add up miss the product somewhere after the first. -/
theorem exists_missedUnits {negative : Bool} {h : Representable n} (hcount : count ≤ 2 ^ 53)
    (hnot : ¬ (finite negative n h).AddsUp count) :
    ∃ k, k + 1 < count ∧ missedUnits n (k + 1) ≠ 0 := by
  by_contra hnone
  refine hnot (addsUp_of_copiesUnits negative h hcount fun k hk => ?_)
  cases k with
  | zero => rw [copiesUnits, Nat.zero_add, Nat.one_mul, nearestUnits_one h.significant]
  | succ k =>
    by_contra hne
    refine hnone ⟨k, hk, fun hzero => hne ?_⟩
    unfold missedUnits at hzero
    omega

end AddsUp

end Double
end UpSetProse
