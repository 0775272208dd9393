import UpSetProse.Proofs.Double.Approximation
import UpSetProse.Proofs.Double.Whole
import UpSetProse.Proofs.Statistics.TwoLargest

/-!
# How many times the largest size holds the second largest

The exact rule rounds the quotient of the two largest sizes up if its fraction is above 0.78. The
quotient is rounded before its whole part is taken off, so that the fraction has fewer binary places
the longer the whole part is, while 0.78 alone has all of them. Unless the quotient is closer to a
threshold than the roundings go, that makes no difference. A quotient that is exactly a threshold is
rounded up if 0.78 is rounded to more in the places that are left, which only the length of the
whole part decides.
-/

namespace UpSetProse

/-! ## Rounding above a part -/

/-- The whole part of a quotient, and one more if it leaves more than the part over. -/
def roundedAbove (num den part : Nat) : Nat := num / den + if part < num % den then 1 else 0

theorem lt_roundedAbove_iff {num den part q : Nat} (h : part < den) :
    q < roundedAbove num den part ↔ q * den + part < num := by
  have hsplit := Nat.div_add_mod' num den
  have hrest := Nat.mod_lt num (part.zero_le.trans_lt h)
  unfold roundedAbove
  rcases Nat.lt_trichotomy q (num / den) with hlt | rfl | hgt
  · have hmul : (q + 1) * den ≤ num / den * den := Nat.mul_le_mul_right den hlt
    rw [Nat.succ_mul] at hmul
    exact iff_of_true (hlt.trans_le (Nat.le_add_right _ _)) (by omega)
  · split <;> omega
  · have hmul : (num / den + 1) * den ≤ q * den := Nat.mul_le_mul_right den hgt
    rw [Nat.succ_mul] at hmul
    refine iff_of_false ?_ (by omega)
    split <;> omega

/-- The factor by the exact rule: a fraction above 0.78 is rounded up, any other down. -/
def exactFactor (largest second : Nat) : Nat :=
  largest / second + if 78 * second < 100 * (largest % second) then 1 else 0

section exactFactor

variable {largest second : Nat}

theorem lt_exactFactor_iff {q : Nat} (hsecond : 0 < second) :
    q < exactFactor largest second ↔ (50 * q + 39) * second < 50 * largest := by
  have hfactor : exactFactor largest second =
      roundedAbove (50 * largest) (50 * second) (39 * second) := by
    have hthreshold : 78 * second < 100 * (largest % second) ↔
        39 * second < 50 * (largest % second) := by omega
    simp only [exactFactor, roundedAbove, Nat.mul_div_mul_left _ _ (Nat.succ_pos 49),
      Nat.mul_mod_mul_left, hthreshold]
  have hbound : q * (50 * second) + 39 * second = (50 * q + 39) * second := by ring
  rw [hfactor, lt_roundedAbove_iff (by omega), hbound]

/-- A factor is no larger than the largest size, so no factor is brought to the end. -/
theorem exactFactor_le (hsecond : 0 < second) : exactFactor largest second ≤ largest := by
  by_contra hgt
  have hlt := (lt_exactFactor_iff hsecond).mp (not_le.mp hgt)
  have hle : 50 * largest + 39 ≤ (50 * largest + 39) * second := Nat.le_mul_of_pos_right _ hsecond
  omega

end exactFactor

/-! ## The computed factor -/

/-- The units of the double next to 0.78. -/
def thresholdUnits : Nat := nearestUnits (39 * Double.one) 50

theorem thresholdUnits_lt_one : thresholdUnits < Double.one := by decide +kernel

theorem roundUpAbove_eq : ∃ h, roundUpAbove = .finite false thresholdUnits h := by
  have hread : roundUpAbove = .ofUnits false (39 * Double.one) 50 := by decide +kernel
  have hfinite : nearestUnits (39 * Double.one) 50 < infiniteUnits := by decide +kernel
  rw [hread, Double.ofUnits, dif_pos hfinite]
  exact ⟨representable_nearestUnits hfinite, rfl⟩

theorem largestFactor_eq {sizes : List Size} {largest second : Size} {n : Nat}
    {h : Representable n} (hleads : Leads largest second sizes) (hsecond : second ≠ 0)
    (hratio : Double.ofNat largest.toNat / .ofNat second.toNat = .finite false n h) :
    largestFactor sizes =
      some (min (roundedAbove n Double.one thresholdUnits) (UInt64.size - 1)) := by
  obtain ⟨hthreshold, heq⟩ := roundUpAbove_eq
  have hbelow : roundUpAbove.lt (Double.finite false n h).fract = true ↔
      thresholdUnits < n % Double.one := by
    rw [heq, Double.fract_finite, Double.lt_finite_iff]
  unfold largestFactor
  rw [twoLargest?_eq_some_iff.mpr hleads, Option.bind_some]
  dsimp only
  rw [if_neg hsecond, hratio]
  unfold roundedAbove
  by_cases habove : thresholdUnits < n % Double.one
  · have hrest : n % Double.one ≠ 0 := Nat.ne_of_gt (Nat.zero_lt_of_lt habove)
    rw [if_pos (hbelow.mpr habove), if_pos habove, Double.ceil_finite hrest,
      Double.toNatSaturating_finite]
  · rw [if_neg (hbelow.not.mpr habove), if_neg habove, Double.floor_finite,
      Double.toNatSaturating_finite, Nat.add_zero]

/-! ## Quotients that are not close to a threshold -/

theorem near_thresholdUnits : Near 1 (39 / 50) (thresholdUnits / Double.one) := by
  have happrox : roundUpAbove.Approximates 1 ((78 : Nat) / 100) :=
    Double.approximates_hundredths 78 (by decide) (by decide)
  have hreduced : ((78 : Nat) / 100 : ℚ) = 39 / 50 := by norm_num
  obtain ⟨_, heq⟩ := roundUpAbove_eq
  rw [heq, hreduced] at happrox
  exact happrox.near

/-- A quotient that no threshold is close to has the factor of the exact rule. -/
theorem roundedAbove_eq_exactFactor {largest second n : Nat} (hsecond : 0 < second)
    (hnear : Near 3 (largest / second) (n / Double.one))
    (hapart : ∀ q : Nat, Apart (largest / second) (q + 39 / 50)) :
    roundedAbove n Double.one thresholdUnits = exactFactor largest second := by
  have hpos : (0 : ℚ) < second := Nat.cast_pos.mpr hsecond
  refine eq_of_forall_lt_iff fun q => ?_
  have hcode : (q + thresholdUnits / Double.one : ℚ) < n / Double.one ↔
      q * Double.one + thresholdUnits < n := by
    have hsum : (q + thresholdUnits / Double.one : ℚ) =
        (q * Double.one + thresholdUnits : Nat) / Double.one := by
      rw [Nat.cast_add, Nat.cast_mul, add_div,
        mul_div_cancel_right₀ _ Double.one_cast_pos.ne']
    rw [hsum, div_lt_div_iff_of_pos_right Double.one_cast_pos, Nat.cast_lt]
  have hrule : (q + 39 / 50 : ℚ) < largest / second ↔ (50 * q + 39) * second < 50 * largest := by
    have hsum : (q + 39 / 50 : ℚ) = (50 * q + 39 : Nat) / (50 : Nat) := by
      push_cast
      field_simp
    rw [hsum, div_lt_div_iff₀ (by norm_num) hpos, mul_comm (largest : ℚ)]
    exact_mod_cast Iff.rfl
  have horder := (hapart q).symm.lt_iff_lt (by positivity) (by positivity)
    (near_thresholdUnits.add_left (Nat.cast_nonneg q)) hnear (by decide)
  rw [lt_roundedAbove_iff thresholdUnits_lt_one, lt_exactFactor_iff hsecond, ← hcode, horder, hrule]

/-! ## Quotients that are exactly a threshold -/

/-- The units of 0.78 with the binary places that a double has beside a whole part. -/
def besideWhole (length : Nat) : Nat :=
  roundQuotient (39 * 2 ^ (53 - length)) 50 * 2 ^ (unitScale - 53 + length)

/-- The binary lengths of whole parts beside which 0.78 is rounded to more than alone. -/
def raisedLengths : List Nat := [3, 5, 6, 7, 8, 12, 14, 19, 20, 21, 23, 25, 26, 27, 28, 32, 34, 39]

theorem bitLength_threshold (q : Nat) :
    bitLength ((50 * q + 39) * Double.one / 50) = bitLength q + unitScale := by
  obtain ⟨k, hk⟩ : ∃ k, unitScale = k + 1 := ⟨1073, rfl⟩
  have hbelow : q < 2 ^ bitLength q := bitLength_le_iff.mp le_rfl
  have habove : 50 * 2 ^ bitLength q ≤ 2 * (50 * q + 39) := by
    cases hlength : bitLength q with
    | zero => omega
    | succ length =>
      have hpower := (bitLength_eq_succ_iff.mp hlength).1
      rw [Nat.pow_succ]
      omega
  apply le_antisymm
  · rw [bitLength_le_iff, Nat.pow_add, ← Double.one_eq]
    apply Nat.div_lt_of_lt_mul
    rw [← Nat.mul_assoc]
    exact Nat.mul_lt_mul_of_pos_right (by omega) Double.one_pos
  · have hpower : 2 ^ (bitLength q + k) ≤ (50 * q + 39) * Double.one / 50 := by
      rw [Nat.le_div_iff_mul_le (by decide), Double.one_eq, hk, Nat.pow_add, Nat.pow_succ]
      calc 2 ^ bitLength q * 2 ^ k * 50
        _ = 50 * 2 ^ bitLength q * 2 ^ k := by ring
        _ ≤ 2 * (50 * q + 39) * 2 ^ k := Nat.mul_le_mul_right _ habove
        _ = (50 * q + 39) * (2 ^ k * 2) := by ring
    rw [← Nat.not_lt, ← bitLength_le_iff] at hpower
    omega

theorem nearestUnits_threshold {q : Nat} (h : bitLength q ≤ 52) :
    nearestUnits ((50 * q + 39) * Double.one) 50 = q * Double.one + besideWhole (bitLength q) := by
  have hlength := bitLength_threshold q
  obtain ⟨k, hk⟩ : ∃ k, unitScale = k + 53 := ⟨1021, rfl⟩
  generalize bitLength q = b at h hlength ⊢
  obtain ⟨j, hj⟩ : ∃ j, 53 - b = j + 1 := ⟨52 - b, by omega⟩
  have hone : Double.one = 2 ^ (53 - b) * 2 ^ (k + b) := by
    rw [Double.one_eq, hk, ← Nat.pow_add]
    congr 1
    omega
  have hdropped : b + unitScale - 53 = k + b := by omega
  have hplace : unitScale - 53 + b = k + b := by omega
  have hnum : (50 * q + 39) * Double.one =
      (q * 2 ^ (53 - b) * 50 + 39 * 2 ^ (53 - b)) * 2 ^ (k + b) := by
    rw [hone]
    ring
  have heven : q * 2 ^ (53 - b) % 2 = 0 := by
    rw [hj, Nat.pow_succ, ← Nat.mul_assoc, Nat.mul_mod_left]
  unfold nearestUnits besideWhole
  dsimp only
  rw [hlength, hdropped, hplace, hnum, Nat.pow_eq, roundQuotient_mul_right _ _ (Nat.two_pow_pos _),
    roundQuotient_add_mul (by decide) heven, hone]
  ring

/-- Beside a whole part of up to 39 digits, 0.78 is below one and compared by its places. -/
theorem besideWhole_bounds {length : Nat} (h : length ≤ 39) :
    besideWhole length < Double.one ∧
      (thresholdUnits < besideWhole length ↔ length ∈ raisedLengths) := by
  have hthreshold : thresholdUnits = besideWhole 0 := by
    have hzero := nearestUnits_threshold (q := 0) (by decide)
    simpa [thresholdUnits, bitLength] using hzero
  obtain ⟨k, hk⟩ : ∃ k, unitScale = k + 53 := ⟨1021, rfl⟩
  have hunits (length : Nat) : besideWhole length =
      roundQuotient (39 * 2 ^ (53 - length)) 50 * 2 ^ length * 2 ^ k := by
    have hplace : unitScale - 53 + length = length + k := by omega
    unfold besideWhole
    rw [hplace, Nat.pow_add, ← Nat.mul_assoc]
  have hplaces : ∀ length ≤ 39, roundQuotient (39 * 2 ^ (53 - length)) 50 * 2 ^ length < 2 ^ 53 ∧
      (roundQuotient (39 * 2 ^ 53) 50 < roundQuotient (39 * 2 ^ (53 - length)) 50 * 2 ^ length ↔
        length ∈ raisedLengths) := by decide
  obtain ⟨hbelow, hraised⟩ := hplaces length h
  constructor
  · rw [hunits, Double.one_eq, hk, Nat.add_comm, Nat.pow_add]
    exact Nat.mul_lt_mul_of_pos_right hbelow (Nat.two_pow_pos k)
  · rw [hthreshold, hunits, hunits, Nat.mul_lt_mul_right (Nat.two_pow_pos k)]
    simpa using hraised

/-- The factor of a quotient that is exactly a threshold. -/
theorem roundedAbove_threshold {q : Nat} (h : bitLength q ≤ 39) :
    roundedAbove (nearestUnits ((50 * q + 39) * Double.one) 50) Double.one thresholdUnits =
      q + if bitLength q ∈ raisedLengths then 1 else 0 := by
  obtain ⟨hbelow, hraised⟩ := besideWhole_bounds h
  have hquotient : (q * Double.one + besideWhole (bitLength q)) / Double.one = q := by
    rw [Nat.add_comm, Nat.add_mul_div_right _ _ Double.one_pos, Nat.div_eq_of_lt hbelow,
      Nat.zero_add]
  have hrest : (q * Double.one + besideWhole (bitLength q)) % Double.one =
      besideWhole (bitLength q) := by
    rw [Nat.add_comm, Nat.add_mul_mod_self_right, Nat.mod_eq_of_lt hbelow]
  rw [nearestUnits_threshold (h.trans (by decide))]
  simp only [roundedAbove, hquotient, hrest, hraised]

section thresholds

variable {largest second : Nat}

/-- A quotient is a threshold if its rest is, beside its whole part. -/
theorem eq_threshold_iff (hsecond : 0 < second) (q : Nat) :
    50 * largest = (50 * q + 39) * second ↔
      largest / second = q ∧ 50 * (largest % second) = 39 * second := by
  have hsplit := Nat.div_add_mod' largest second
  have hrest := Nat.mod_lt largest hsecond
  have hproduct : (50 * q + 39) * second = 50 * (q * second) + 39 * second := by ring
  constructor
  · intro heq
    have hquotient : largest / second = q := by
      refine Nat.div_eq_of_lt_le (by omega) ?_
      rw [Nat.succ_mul]
      omega
    rw [hquotient] at hsplit
    exact ⟨hquotient, by omega⟩
  · rintro ⟨rfl, heq⟩
    omega

/-- A quotient of not too large a size is a threshold or apart from all of them. -/
theorem apart_threshold (hsecond : 0 < second) (hsmall : largest ≤ 2 ^ 44)
    (hne : 50 * (largest % second) ≠ 39 * second) (q : Nat) :
    Apart (largest / second) (q + 39 / 50) := by
  have hdiffer : (50 * q + 39) * second ≠ 50 * largest := fun heq =>
    hne ((eq_threshold_iff hsecond q).mp heq.symm).2
  have hpos : (0 : ℚ) < second := Nat.cast_pos.mpr hsecond
  have hscale : (0 : ℚ) < 1 / (50 * second) := by positivity
  have hquotient : (largest / second : ℚ) = (50 * largest : Nat) * (1 / (50 * second)) := by
    push_cast
    field_simp
  have hbound : (q + 39 / 50 : ℚ) = ((50 * q + 39) * second : Nat) * (1 / (50 * second)) := by
    push_cast
    field_simp
  rw [hquotient, hbound]
  exact ((apart_natCast hdiffer (by omega)).mul_right hscale).symm

end thresholds

/-! ## The factor of a list of sizes -/

section largestFactor

variable {sizes : List Size} {largest second : Size}

theorem largestFactor_eq_none_iff :
    largestFactor sizes = none ↔ sizes.length < 2 ∨ ∃ largest, Leads largest 0 sizes := by
  cases htwo : twoLargest? sizes with
  | none =>
    have hnone : largestFactor sizes = none := by
      rw [largestFactor, htwo, Option.bind_none]
    exact iff_of_true hnone (.inl (twoLargest?_eq_none_iff.mp htwo))
  | some pair =>
    obtain ⟨largest, second⟩ := pair
    have hleads := twoLargest?_eq_some_iff.mp htwo
    have hlong : ¬ sizes.length < 2 := by
      rw [← twoLargest?_eq_none_iff, htwo]
      exact Option.some_ne_none _
    have hzero : (∃ largest, Leads largest 0 sizes) ↔ second = 0 := by
      constructor
      · rintro ⟨largest', hleads'⟩
        exact (hleads.unique hleads').2
      · rintro rfl
        exact ⟨largest, hleads⟩
    rw [or_iff_right hlong, hzero, largestFactor, htwo, Option.bind_some]
    dsimp only
    by_cases hsecond : second = 0
    · rw [if_pos hsecond]
      exact iff_of_true rfl hsecond
    · rw [if_neg hsecond]
      exact iff_of_false (Option.some_ne_none _) hsecond

/-- Sizes whose quotient no threshold is close to have the factor of the exact rule. -/
theorem largestFactor_of_apart (hleads : Leads largest second sizes) (hsecond : second ≠ 0)
    (hapart : ∀ q : Nat, Apart (largest.toNat / second.toNat) (q + 39 / 50)) :
    largestFactor sizes = some (exactFactor largest.toNat second.toNat) := by
  have hpos : 0 < second.toNat := Nat.pos_of_ne_zero fun h => hsecond (UInt64.toNat.inj h)
  have hlargest := hpos.trans_le hleads.second_le
  have happrox := Double.approximates_ofNat_div hlargest hpos largest.toNat_lt.le
    second.toNat_lt.le
  obtain ⟨n, hn, -, hnear, hratio⟩ := happrox.exists_finite (by positivity)
  have hbound : exactFactor largest.toNat second.toNat ≤ UInt64.size - 1 :=
    (exactFactor_le hpos).trans (Nat.le_pred_of_lt largest.toNat_lt)
  rw [largestFactor_eq hleads hsecond hratio, roundedAbove_eq_exactFactor hpos hnear hapart,
    Nat.min_eq_left hbound]

/-- Sizes whose quotient is a threshold have one more than its whole part in the raised cases. -/
theorem largestFactor_of_threshold (hleads : Leads largest second sizes) (hsecond : second ≠ 0)
    (hsmall : largest.toNat ≤ 2 ^ 44)
    (hthreshold : 50 * (largest.toNat % second.toNat) = 39 * second.toNat) :
    largestFactor sizes = some (largest.toNat / second.toNat +
      if bitLength (largest.toNat / second.toNat) ∈ raisedLengths then 1 else 0) := by
  have hpos : 0 < second.toNat := Nat.pos_of_ne_zero fun h => hsecond (UInt64.toNat.inj h)
  generalize hq : largest.toNat / second.toNat = q
  have hfraction : 50 * largest.toNat = (50 * q + 39) * second.toNat :=
    (eq_threshold_iff hpos q).mpr ⟨hq, hthreshold⟩
  -- The rest is a part of fifty, so the second size is not below fifty.
  have hfifty : 50 ≤ second.toNat := by omega
  have hlength : bitLength q ≤ 39 := by
    have hle : q * 50 ≤ largest.toNat :=
      (Nat.mul_le_mul_left q hfifty).trans (hq ▸ Nat.div_mul_le_self _ _)
    rw [bitLength_le_iff]
    omega
  have hratio : Double.ofNat largest.toNat / .ofNat second.toNat =
      .ofUnits false ((50 * q + 39) * Double.one) 50 := by
    have hlargest : largest.toNat ≤ 2 ^ 53 := hsmall.trans (by decide)
    have hcross : largest.toNat * Double.one * 50 =
        (50 * q + 39) * Double.one * second.toNat := by
      calc largest.toNat * Double.one * 50
        _ = 50 * largest.toNat * Double.one := by ring
        _ = (50 * q + 39) * second.toNat * Double.one := by rw [hfraction]
        _ = (50 * q + 39) * Double.one * second.toNat := by ring
    rw [Double.ofNat_div_ofNat hlargest (hleads.second_le.trans hlargest) hpos]
    exact Double.ofUnits_congr false hpos (by decide) hcross
  have hq : q < 2 ^ 39 := bitLength_le_iff.mp hlength
  have hfinite : nearestUnits ((50 * q + 39) * Double.one) 50 < infiniteUnits := by
    have hlargest : 2 ^ 39 * Double.one < infiniteUnits := by decide +kernel
    have hone : (q + 1) * Double.one ≤ 2 ^ 39 * Double.one := Nat.mul_le_mul_right _ hq
    have hbelow := (besideWhole_bounds hlength).1
    rw [nearestUnits_threshold (hlength.trans (by decide))]
    rw [Nat.succ_mul] at hone
    omega
  rw [Double.ofUnits, dif_pos hfinite] at hratio
  have hbound : (q + if bitLength q ∈ raisedLengths then 1 else 0) ≤ UInt64.size - 1 := by
    have hsize : UInt64.size = 2 ^ 64 := rfl
    split <;> omega
  rw [largestFactor_eq hleads hsecond hratio, roundedAbove_threshold hlength,
    Nat.min_eq_left hbound]

/-- There is no factor exactly if there are fewer than two sizes or the second largest is zero. Any
other list has two largest sizes, and the factor of the exact rule if no threshold is close to their
quotient. For sizes of up to 44 bits these are all, except for quotients that are a threshold beside
a whole part of one of the raised lengths. -/
theorem largestFactor_spec (sizes : List Size) :
    (largestFactor sizes = none ↔ sizes.length < 2 ∨ ∃ largest, Leads largest 0 sizes) ∧
    ((∃ largest second, Leads largest second sizes) ↔ 2 ≤ sizes.length) ∧
    ∀ largest second, Leads largest second sizes → second ≠ 0 →
      ((∀ q : Nat, Apart (largest.toNat / second.toNat) (q + 39 / 50)) →
        largestFactor sizes = some (exactFactor largest.toNat second.toNat)) ∧
      (largest.toNat ≤ 2 ^ 44 →
        (largestFactor sizes = some (exactFactor largest.toNat second.toNat) ↔
          ¬ (50 * (largest.toNat % second.toNat) = 39 * second.toNat ∧
            bitLength (largest.toNat / second.toNat) ∈ raisedLengths))) := by
  refine ⟨largestFactor_eq_none_iff, exists_leads_iff, fun largest second hleads hsecond => ?_⟩
  refine ⟨largestFactor_of_apart hleads hsecond, fun hsmall => ?_⟩
  have hpos : 0 < second.toNat := Nat.pos_of_ne_zero fun h => hsecond (UInt64.toNat.inj h)
  by_cases hthreshold : 50 * (largest.toNat % second.toNat) = 39 * second.toNat
  · have hrule : exactFactor largest.toNat second.toNat = largest.toNat / second.toNat := by
      have hdown : ¬ 78 * second.toNat < 100 * (largest.toNat % second.toNat) := by omega
      rw [exactFactor, if_neg hdown, Nat.add_zero]
    rw [largestFactor_of_threshold hleads hsecond hsmall hthreshold, hrule, Option.some_inj]
    by_cases hraised : bitLength (largest.toNat / second.toNat) ∈ raisedLengths
    · rw [if_pos hraised]
      exact iff_of_false (Nat.succ_ne_self _) fun h => h ⟨hthreshold, hraised⟩
    · rw [if_neg hraised, Nat.add_zero]
      exact iff_of_true rfl fun h => hraised h.2
  · have hapart := apart_threshold hpos hsmall hthreshold
    exact iff_of_true (largestFactor_of_apart hleads hsecond hapart) fun h => hthreshold h.1

/-- A quotient of 0.78 beside one is rounded down, as the exact rule has it. -/
theorem largestFactor_eightyNine_fifty :
    Leads 89 50 [50, 89] ∧ (50 : Size) ≠ 0 ∧ largestFactor [50, 89] = some 1 := by
  have hleads : Leads 89 50 [50, 89] :=
    ⟨[], List.Perm.swap 89 50 [], by decide, List.forall_mem_nil _⟩
  have hsecond : (50 : Size) ≠ 0 := by decide
  have hfactor := (((largestFactor_spec [50, 89]).2.2 89 50 hleads hsecond).2 (by decide)).mpr
    (by decide)
  exact ⟨hleads, hsecond, hfactor⟩

/-- A quotient of exactly 4.78 has a fraction that is not above 0.78, but is rounded up. -/
theorem not_forall_largestFactor_eq_exactFactor : ¬ ∀ (sizes : List Size) (largest second : Size),
    Leads largest second sizes → second ≠ 0 →
      largestFactor sizes = some (exactFactor largest.toNat second.toNat) := by
  intro h
  have hleads : Leads 239 50 [239, 50] := ⟨[], .refl _, by decide, List.forall_mem_nil _⟩
  have hfactor := h [239, 50] 239 50 hleads (by decide)
  have hcode : largestFactor [239, 50] = some 5 := by decide +kernel
  rw [hcode] at hfactor
  exact absurd hfactor (by decide)

end largestFactor
end UpSetProse
