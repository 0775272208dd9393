import Mathlib.Algebra.Order.Group.Nat
import UpSetProse.Double.Rounding

/-!
# Rounding keeps the order

A rounded quotient does not pass a number with at most 53 significant bits: it stays on the side on
which the quotient was. Such numbers are therefore rounded to themselves, and of two quotients by
the same number the larger one is not rounded to less.
-/

namespace UpSetProse

/-- A number with at most 53 significant bits. -/
def Significant (n : Nat) : Prop :=
  ∃ significand shift, significand < 2 ^ 53 ∧ n = significand * 2 ^ shift

theorem significant_two_pow (k : Nat) : Significant (2 ^ k) :=
  ⟨1, k, by decide, (Nat.one_mul _).symm⟩

/-- Up to 53 bits, every number is significant. -/
theorem significant_of_le {n : Nat} (h : n ≤ 2 ^ 53) : Significant n := by
  rcases h.lt_or_eq with hlt | rfl
  · exact ⟨n, 0, hlt, (Nat.mul_one n).symm⟩
  · exact significant_two_pow 53

theorem Representable.significant {n : Nat} (h : Representable n) : Significant n := h.2

/-- Rounding leaves a significant number. -/
theorem significant_nearestUnits (num den : Nat) : Significant (nearestUnits num den) :=
  nearestUnits_significand num den

/-- Shifting a number keeps its significant bits. -/
theorem Significant.mul_two_pow {n : Nat} (h : Significant n) (k : Nat) :
    Significant (n * 2 ^ k) := by
  obtain ⟨significand, shift, hlt, rfl⟩ := h
  exact ⟨significand, shift + k, hlt, by rw [Nat.mul_assoc, ← Nat.pow_add]⟩

/-- A number has at most `k` binary digits if it is below the power of two. -/
theorem bitLength_le_iff {n k : Nat} : bitLength n ≤ k ↔ n < 2 ^ k := by
  unfold bitLength
  split
  · rename_i hzero
    rw [hzero]
    exact iff_of_true (Nat.zero_le k) (Nat.two_pow_pos k)
  · rename_i hpos
    rw [Nat.succ_le_iff, Nat.log2_lt hpos]

/-- A larger number does not take fewer bits. -/
theorem bitLength_mono {m n : Nat} (h : m ≤ n) : bitLength m ≤ bitLength n :=
  bitLength_le_iff.mpr (h.trans_lt (bitLength_le_iff.mp le_rfl))

/-- A number with a first digit lies between two powers of two. -/
theorem bitLength_eq_succ_iff {n k : Nat} : bitLength n = k + 1 ↔ 2 ^ k ≤ n ∧ n < 2 ^ (k + 1) := by
  rw [← bitLength_le_iff, ← Nat.not_lt, ← bitLength_le_iff]
  omega

theorem exists_bitLength_eq_succ {n : Nat} (h : 0 < n) : ∃ k, bitLength n = k + 1 := by
  have hnot : ¬ bitLength n ≤ 0 := by
    rw [bitLength_le_iff]
    omega
  exact ⟨bitLength n - 1, by omega⟩

/-! ## Rounding to a whole number -/

section roundQuotient

variable {num num' den whole : Nat}

/-- A quotient is not rounded below its whole part. -/
theorem div_le_roundQuotient (num den : Nat) : num / den ≤ roundQuotient num den := by
  unfold roundQuotient
  dsimp only
  split
  · exact le_rfl
  · split <;> omega

/-- Rounding to a whole number crosses no whole number from below. -/
theorem roundQuotient_le_of_le (hden : 0 < den) (h : num ≤ whole * den) :
    roundQuotient num den ≤ whole := by
  rcases (Nat.div_le_of_le_mul (Nat.mul_comm whole den ▸ h)).lt_or_eq with hlt | heq
  · exact (roundQuotient_le num den).trans hlt
  · -- The quotient is exact, so there is no rest that could be rounded up.
    have hrest : num % den = 0 := by
      have hsplit := Nat.div_add_mod num den
      rw [heq, Nat.mul_comm] at hsplit
      omega
    unfold roundQuotient
    dsimp only
    rw [hrest, heq, if_pos (by omega)]

/-- Rounding to a whole number crosses no whole number from above. -/
theorem le_roundQuotient_of_le (hden : 0 < den) (h : whole * den ≤ num) :
    whole ≤ roundQuotient num den :=
  ((Nat.le_div_iff_mul_le hden).mpr h).trans (div_le_roundQuotient num den)

theorem roundQuotient_mono (h : num ≤ num') : roundQuotient num den ≤ roundQuotient num' den := by
  rcases (Nat.div_le_div_right (c := den) h).lt_or_eq with hlt | heq
  · exact ((roundQuotient_le num den).trans hlt).trans (div_le_roundQuotient num' den)
  · -- With the same whole part, the rests are in the order of the numerators.
    have hrest : num % den ≤ num' % den := by
      have hnum := Nat.div_add_mod num den
      have hnum' := Nat.div_add_mod num' den
      rw [heq] at hnum
      omega
    unfold roundQuotient
    dsimp only
    rw [heq]
    split_ifs <;> omega

/-- A quotient is rounded alike whether or not it is reduced. -/
theorem roundQuotient_mul_right (num den : Nat) {k : Nat} (hk : 0 < k) :
    roundQuotient (num * k) (den * k) = roundQuotient num den := by
  have hrest (a b : Nat) : 2 * (a * k) < b * k ↔ 2 * a < b := by
    rw [← Nat.mul_assoc]
    exact Nat.mul_lt_mul_right hk
  have hrest' (a b : Nat) : b * k < 2 * (a * k) ↔ b < 2 * a := by
    rw [← Nat.mul_assoc]
    exact Nat.mul_lt_mul_right hk
  unfold roundQuotient
  simp only [Nat.mul_div_mul_right _ _ hk, Nat.mul_mod_mul_right, hrest, hrest']

/-- An even whole part stays out of the rounding. -/
theorem roundQuotient_add_mul (hden : 0 < den) (heven : whole % 2 = 0) (num : Nat) :
    roundQuotient (whole * den + num) den = whole + roundQuotient num den := by
  have hquotient : (whole * den + num) / den = whole + num / den := by
    rw [Nat.add_comm, Nat.add_mul_div_right _ _ hden, Nat.add_comm]
  unfold roundQuotient
  dsimp only
  rw [hquotient, Nat.add_comm (whole * den), Nat.add_mul_mod_self_right]
  split_ifs <;> omega

end roundQuotient

/-! ## Rounding to 53 bits -/

section nearestUnits

variable {num num' den bound : Nat}

/-- Digits are dropped only from quotients with more than 53 of them. -/
theorem two_pow_le_of_dropped {q dropped : Nat} (h : bitLength q - 53 = dropped)
    (hpos : 0 < dropped) : 2 ^ (52 + dropped) ≤ q := by
  rw [← Nat.not_lt, ← bitLength_le_iff]
  omega

/-- Numbers that have digits below the ones that are kept are smaller than the quotient. -/
theorem mul_two_pow_lt_of_dropped {q dropped significand shift : Nat}
    (h : bitLength q - 53 = dropped) (hlt : significand < 2 ^ 53) (hshift : shift < dropped) :
    significand * 2 ^ shift < q := by
  calc significand * 2 ^ shift
    _ < 2 ^ 53 * 2 ^ shift := Nat.mul_lt_mul_of_pos_right hlt (Nat.two_pow_pos shift)
    _ = 2 ^ (53 + shift) := (Nat.pow_add 2 53 shift).symm
    _ ≤ 2 ^ (52 + dropped) := Nat.pow_le_pow_right (by decide) (by omega)
    _ ≤ q := two_pow_le_of_dropped h (by omega)

/-- Rounding crosses no significant number from below, however many digits are dropped. -/
theorem nearestUnits_le (hden : 0 < den) (hbound : Significant bound) (h : num ≤ bound * den) :
    nearestUnits num den ≤ bound := by
  obtain ⟨significand, shift, hlt, rfl⟩ := hbound
  unfold nearestUnits
  dsimp only
  generalize hdropped : bitLength (num / den) - 53 = dropped
  rcases Nat.lt_or_ge shift dropped with hshift | hshift
  · refine absurd (Nat.div_le_of_le_mul (Nat.mul_comm _ den ▸ h)) (Nat.not_le.mpr ?_)
    exact mul_two_pow_lt_of_dropped hdropped hlt hshift
  · obtain ⟨k, rfl⟩ := Nat.exists_eq_add_of_le' hshift
    rw [Nat.pow_add, ← Nat.mul_assoc] at h ⊢
    refine Nat.mul_le_mul_right _ (roundQuotient_le_of_le ?_ ?_)
    · exact Nat.mul_pos hden (Nat.two_pow_pos dropped)
    · rw [Nat.pow_eq, Nat.mul_comm den, ← Nat.mul_assoc]
      exact h

/-- Rounding crosses no significant number from above. -/
theorem le_nearestUnits (hden : 0 < den) (hbound : Significant bound) (h : bound * den ≤ num) :
    bound ≤ nearestUnits num den := by
  obtain ⟨significand, shift, hlt, rfl⟩ := hbound
  unfold nearestUnits
  dsimp only
  generalize hdropped : bitLength (num / den) - 53 = dropped
  have hpos : 0 < den * 2 ^ dropped := Nat.mul_pos hden (Nat.two_pow_pos dropped)
  rcases Nat.lt_or_ge shift dropped with hshift | hshift
  · -- The quotient has 53 digits before the dropped ones, and all of the bound lies below them.
    have hq := two_pow_le_of_dropped hdropped (by omega)
    have hwhole : 2 ^ 52 ≤ roundQuotient num (den * 2 ^ dropped) := by
      refine le_roundQuotient_of_le hpos ?_
      rw [Nat.mul_comm den, ← Nat.mul_assoc, ← Nat.pow_add]
      exact (Nat.le_div_iff_mul_le hden).mp hq
    calc significand * 2 ^ shift
      _ ≤ 2 ^ 53 * 2 ^ shift := Nat.mul_le_mul_right _ hlt.le
      _ = 2 ^ (53 + shift) := (Nat.pow_add 2 53 shift).symm
      _ ≤ 2 ^ (52 + dropped) := Nat.pow_le_pow_right (by decide) (by omega)
      _ = 2 ^ 52 * 2 ^ dropped := Nat.pow_add 2 52 dropped
      _ ≤ _ := Nat.mul_le_mul_right _ hwhole
  · obtain ⟨k, rfl⟩ := Nat.exists_eq_add_of_le' hshift
    rw [Nat.pow_add, ← Nat.mul_assoc] at h ⊢
    refine Nat.mul_le_mul_right _ (le_roundQuotient_of_le hpos ?_)
    rw [Nat.mul_comm den, ← Nat.mul_assoc]
    exact h

/-- Numbers with at most 53 significant bits are rounded to themselves. -/
theorem nearestUnits_mul {n : Nat} (hden : 0 < den) (h : Significant n) :
    nearestUnits (n * den) den = n :=
  le_antisymm (nearestUnits_le hden h le_rfl) (le_nearestUnits hden h le_rfl)

/-- A significant number is not rounded. -/
theorem nearestUnits_one {n : Nat} (h : Significant n) : nearestUnits n 1 = n := by
  simpa using nearestUnits_mul Nat.one_pos h

/-- Rounding keeps the order of quotients by the same number. -/
theorem nearestUnits_mono (hden : 0 < den) (h : num ≤ num') :
    nearestUnits num den ≤ nearestUnits num' den := by
  have hlength := bitLength_mono (Nat.div_le_div_right (c := den) h)
  rcases hlength.lt_or_eq with hlt | heq
  · -- A power of two with at most 53 significant bits lies between quotients of other lengths.
    have hpower := significant_two_pow (bitLength (num / den))
    have hbelow : num < 2 ^ bitLength (num / den) * den :=
      (Nat.div_lt_iff_lt_mul hden).mp (bitLength_le_iff.mp le_rfl)
    have habove : 2 ^ bitLength (num / den) * den ≤ num' := by
      rw [← Nat.le_div_iff_mul_le hden, ← Nat.not_lt, ← bitLength_le_iff]
      exact Nat.not_le.mpr hlt
    exact (nearestUnits_le hden hpower hbelow.le).trans (le_nearestUnits hden hpower habove)
  · unfold nearestUnits
    rw [heq]
    exact Nat.mul_le_mul_right _ (roundQuotient_mono h)

/-- Rounding to units also sees the quotient only. -/
theorem nearestUnits_mul_right (num den : Nat) {k : Nat} (hk : 0 < k) :
    nearestUnits (num * k) (den * k) = nearestUnits num den := by
  unfold nearestUnits
  dsimp only
  rw [Nat.mul_div_mul_right _ _ hk, Nat.mul_right_comm, roundQuotient_mul_right _ _ hk]

/-- Equal quotients are rounded to the same number. -/
theorem nearestUnits_congr {den' : Nat} (hden : 0 < den) (hden' : 0 < den')
    (h : num * den' = num' * den) : nearestUnits num den = nearestUnits num' den' := by
  rw [← nearestUnits_mul_right num den hden', h, Nat.mul_comm den,
    nearestUnits_mul_right num' den' hden]

theorem nearestUnits_zero (den : Nat) : nearestUnits 0 den = 0 := by
  unfold nearestUnits roundQuotient
  simp

end nearestUnits
end UpSetProse
