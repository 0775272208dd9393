import UpSetProse.Proofs.Double.Bounds
import UpSetProse.Proofs.Double.Error

/-!
# Whole and fractional parts

The whole part of a double and what it leaves over have no more significant bits than the double
itself, so that both are taken without any rounding. A double with a fractional part is below
`2 ^ 53`, and the whole number above it is a double as well.
-/

namespace UpSetProse

namespace Significant

variable {n : Nat}

/-- A number stays significant when digits are cut off at its end. -/
theorem div_two_pow (h : Significant n) (k : Nat) : Significant (n / 2 ^ k) := by
  obtain ⟨significand, shift, hlt, rfl⟩ := h
  rcases Nat.le_total k shift with hle | hle
  · obtain ⟨j, rfl⟩ := Nat.exists_eq_add_of_le' hle
    rw [Nat.pow_add, ← Nat.mul_assoc, Nat.mul_div_cancel _ (Nat.two_pow_pos k)]
    exact ⟨significand, j, hlt, rfl⟩
  · obtain ⟨j, rfl⟩ := Nat.exists_eq_add_of_le' hle
    rw [Nat.pow_add, Nat.mul_div_mul_right _ _ (Nat.two_pow_pos shift)]
    exact significant_of_le ((Nat.div_le_self _ _).trans hlt.le)

/-- The digits that are cut off are a significant number themselves. -/
theorem mod_two_pow (h : Significant n) (k : Nat) : Significant (n % 2 ^ k) := by
  obtain ⟨significand, shift, hlt, rfl⟩ := h
  rcases Nat.le_total k shift with hle | hle
  · obtain ⟨j, rfl⟩ := Nat.exists_eq_add_of_le' hle
    rw [Nat.pow_add, ← Nat.mul_assoc, Nat.mul_mod_left]
    exact significant_of_le (Nat.zero_le _)
  · obtain ⟨j, rfl⟩ := Nat.exists_eq_add_of_le' hle
    rw [Nat.pow_add, Nat.mul_mod_mul_right]
    exact ⟨_, shift, (Nat.mod_le _ _).trans_lt hlt, rfl⟩

/-- A number that is not a multiple of a power of two has less than 53 digits above the power. -/
theorem div_two_pow_lt (h : Significant n) {k : Nat} (hrest : n % 2 ^ k ≠ 0) :
    n / 2 ^ k < 2 ^ 53 := by
  obtain ⟨significand, shift, hlt, rfl⟩ := h
  rcases Nat.le_total k shift with hle | hle
  · obtain ⟨j, rfl⟩ := Nat.exists_eq_add_of_le' hle
    rw [Nat.pow_add, ← Nat.mul_assoc, Nat.mul_mod_left] at hrest
    exact absurd rfl hrest
  · obtain ⟨j, rfl⟩ := Nat.exists_eq_add_of_le' hle
    rw [Nat.pow_add, Nat.mul_div_mul_right _ _ (Nat.two_pow_pos shift)]
    exact (Nat.div_le_self _ _).trans_lt hlt

end Significant

namespace Double

variable {n : Nat} {h : Representable n}

theorem representable_div_one (h : Representable n) : Representable (n / one * one) := by
  have hsignificant : Significant (n / one) := by
    rw [one_eq]
    exact h.significant.div_two_pow unitScale
  exact ⟨(Nat.div_mul_le_self n one).trans_lt h.1, significant_mul_one hsignificant⟩

theorem representable_mod_one (h : Representable n) : Representable (n % one) := by
  have hsignificant : Significant (n % one) := by
    rw [one_eq]
    exact h.significant.mod_two_pow unitScale
  exact ⟨(Nat.mod_le n one).trans_lt h.1, hsignificant⟩

/-- The whole number above a double that is not whole. -/
theorem representable_succ_div_one (h : Representable n) (hrest : n % one ≠ 0) :
    Representable ((n / one + 1) * one) := by
  have hwhole : n / one + 1 ≤ 2 ^ 53 := by
    rw [one_eq] at hrest ⊢
    exact h.significant.div_two_pow_lt hrest
  have hlargest : 2 ^ 53 * one < infiniteUnits := by decide +kernel
  exact ⟨(Nat.mul_le_mul_right one hwhole).trans_lt hlargest,
    significant_mul_one (significant_of_le hwhole)⟩

/-- A positive number is rounded down to its whole part. -/
theorem floor_finite :
    (finite false n h).floor = finite false (n / one * one) (representable_div_one h) :=
  ofUnits_one (representable_div_one h) false

/-- A number that is not whole is rounded up to the next whole number. -/
theorem ceil_finite (hrest : n % one ≠ 0) :
    (finite false n h).ceil = finite false ((n / one + 1) * one)
      (representable_succ_div_one h hrest) := by
  have hround : (!false && n % one != 0) = true := by simpa using hrest
  unfold ceil toWhole
  dsimp only
  rw [hround, if_pos rfl]
  exact ofUnits_one (representable_succ_div_one h hrest) false

/-- What truncation leaves over is exact. -/
theorem fract_finite :
    (finite false n h).fract = finite false (n % one) (representable_mod_one h) := by
  have htruncate : (finite false n h).truncate =
      finite false (n / one * one) (representable_div_one h) :=
    ofUnits_one (representable_div_one h) false
  have hrest : n - n / one * one = n % one := by
    have hsplit := Nat.div_add_mod' n one
    omega
  unfold fract
  rw [htruncate, sub_of_le _ _ (Nat.div_mul_le_self n one), hrest]
  exact ofUnits_one (representable_mod_one h) false

/-- A whole number is taken over as it is, unless it is brought to the end. -/
theorem toNatSaturating_finite {whole limit : Nat} (h : Representable (whole * one)) :
    (finite false (whole * one) h).toNatSaturating limit = Min.min whole (limit - 1) := by
  have hwhole : whole * one / one = whole := Nat.mul_div_cancel _ one_pos
  simp only [toNatSaturating, Bool.false_eq_true, if_false, hwhole]

/-! ## Whole parts of quotients -/

section quotients

variable {m n : Nat} (hm : m < 2 ^ 53) (hn : n ≤ 2 ^ 53) (hpos : 0 < n)
include hm hn hpos

/-- A quotient of numbers of up to 53 bits is not rounded up to the next whole number. -/
theorem nearestUnits_lt_succ_div : nearestUnits (m * one) n < (m / n + 1) * one := by
  rcases Nat.eq_zero_or_pos m with rfl | hmpos
  · rw [Nat.zero_mul, nearestUnits_zero]
    exact Nat.mul_pos (Nat.succ_pos _) one_pos
  · have hnormal : 2 ^ 52 * n ≤ m * one := by
      calc 2 ^ 52 * n
        _ ≤ 2 ^ 52 * 2 ^ 53 := Nat.mul_le_mul_left _ hn
        _ = 2 ^ 105 := (Nat.pow_add 2 52 53).symm
        _ ≤ 2 ^ unitScale := Nat.pow_le_pow_right (by decide) (by decide)
        _ = one := one_eq.symm
        _ ≤ m * one := Nat.le_mul_of_pos_left one hmpos
    -- The rounding is off by less than the `n`-th part of one, which is the least that can be
    -- missing to a whole number.
    have hclose : |(nearestUnits (m * one) n * n - (m * one : Nat) : Int)| < one := by
      have herror := abs_nearestUnits_sub_le hpos hnormal
      have hlarge : ((m * one : Nat) : Int) < 2 ^ 53 * one :=
        mod_cast Nat.mul_lt_mul_of_pos_right hm one_pos
      exact lt_of_mul_lt_mul_left (herror.trans_lt hlarge) (by positivity)
    have hbelow : nearestUnits (m * one) n * n < (m + 1) * one := by
      rw [Nat.succ_mul]
      exact_mod_cast sub_lt_iff_lt_add'.mp (abs_lt.mp hclose).2
    have hnext : m + 1 ≤ (m / n + 1) * n := by
      rw [Nat.succ_mul]
      exact Nat.lt_div_mul_add hpos
    refine lt_of_mul_lt_mul_right (hbelow.trans_le ?_) (Nat.zero_le n)
    rw [Nat.mul_right_comm]
    exact Nat.mul_le_mul_right one hnext

/-- Numbers of up to 53 bits have the whole part of their quotient when they are divided as
doubles. -/
theorem floor_ofNat_div_ofNat : (ofNat m / ofNat n).floor = ofNat (m / n) := by
  have hquotient : m / n < 2 ^ 53 := (Nat.div_le_self m n).trans_lt hm
  have hbelow := nearestUnits_lt_succ_div hm hn hpos
  have hfinite : nearestUnits (m * one) n < infiniteUnits := by
    have hlargest : 2 ^ 53 * one < infiniteUnits := by decide +kernel
    exact hbelow.trans ((Nat.mul_le_mul_right one hquotient).trans_lt hlargest)
  have hwhole : nearestUnits (m * one) n / one = m / n := by
    refine Nat.div_eq_of_lt_le ?_ hbelow
    refine le_nearestUnits hpos (significant_mul_one (significant_of_le hquotient.le)) ?_
    rw [Nat.mul_right_comm]
    exact Nat.mul_le_mul_right one (Nat.div_mul_le_self m n)
  obtain ⟨hunits, hofNat⟩ := ofNat_eq_finite_of_le hquotient.le
  rw [ofNat_div_ofNat hm.le hn hpos, ofUnits, dif_pos hfinite, floor_finite, hofNat]
  simp only [hwhole]

end quotients

end Double
end UpSetProse
