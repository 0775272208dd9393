import Mathlib.Algebra.Order.Ring.Abs
import Mathlib.Tactic.Linarith
import Mathlib.Tactic.Positivity
import Mathlib.Tactic.Ring
import UpSetProse.Proofs.Double.Rounding

/-!
# How far rounding goes

Rounding to a whole number misses a quotient by at most half, and rounding to 53 significant bits by
at most half of the last digit that is kept. A quotient that has all 53 digits is therefore missed
by at most a `2 ^ 53`-th of itself, and so is every whole number, which is either that large or
rounded to itself. Differences are taken in the integers and multiplied by the denominators.
-/

namespace UpSetProse

variable {num den : Nat}

/-- A quotient is rounded by at most a half. -/
theorem abs_roundQuotient_sub_le (num : Nat) (hden : 0 < den) :
    2 * |(roundQuotient num den * den - num : Int)| ≤ den := by
  have hsplit : (den : Int) * (num / den : Nat) + (num % den : Nat) = num := by
    exact_mod_cast Nat.div_add_mod num den
  have hrest := Nat.mod_lt num hden
  have hdown : ((num / den : Nat) * den - num : Int) = -(num % den : Nat) := by linarith
  have hup : (((num / den : Nat) + 1 : Int) * den - num : Int) = den - (num % den : Nat) := by
    linarith
  unfold roundQuotient
  dsimp only
  split
  · rw [hdown, abs_neg, Nat.abs_cast]
    omega
  · split
    · rw [Nat.cast_add, Nat.cast_one, hup, abs_of_nonneg (by omega)]
      omega
    · -- A half goes either way.
      rcases Nat.mod_two_eq_zero_or_one (num / den) with heven | hodd
      · rw [heven, Nat.add_zero, hdown, abs_neg, Nat.abs_cast]
        omega
      · rw [hodd, Nat.cast_add, Nat.cast_one, hup, abs_of_nonneg (by omega)]
        omega

/-- The digits dropped in rounding to 53 bits are those behind the first 53. -/
theorem exists_abs_nearestUnits_sub_le (num : Nat) (hden : 0 < den) :
    ∃ dropped, (dropped = 0 ∨ 2 ^ (52 + dropped) * den ≤ num) ∧
      2 * |(nearestUnits num den * den - num : Int)| ≤ den * 2 ^ dropped := by
  unfold nearestUnits
  dsimp only
  generalize hdropped : bitLength (num / den) - 53 = dropped
  refine ⟨dropped, ?_, ?_⟩
  · rcases Nat.eq_zero_or_pos dropped with hzero | hpos
    · exact .inl hzero
    · exact .inr ((Nat.le_div_iff_mul_le hden).mp (two_pow_le_of_dropped hdropped hpos))
  · have hstep : 0 < den * 2 ^ dropped := Nat.mul_pos hden (Nat.two_pow_pos dropped)
    have hround := abs_roundQuotient_sub_le num hstep
    rw [Nat.pow_eq]
    push_cast at hround ⊢
    rw [mul_comm (den : Int), ← mul_assoc] at hround
    rwa [mul_comm (den : Int)]

/-- A quotient with all of the digits is rounded by at most a `2 ^ 53`-th. -/
theorem abs_nearestUnits_sub_le (hden : 0 < den) (h : 2 ^ 52 * den ≤ num) :
    2 ^ 53 * |(nearestUnits num den * den - num : Int)| ≤ num := by
  obtain ⟨dropped, hlarge, herror⟩ := exists_abs_nearestUnits_sub_le num hden
  have hkept : 2 ^ (52 + dropped) * den ≤ num := by
    rcases hlarge with rfl | hlarge
    · exact h
    · exact hlarge
  calc (2 : Int) ^ 53 * |(nearestUnits num den * den - num : Int)|
    _ = 2 ^ 52 * (2 * |(nearestUnits num den * den - num : Int)|) := by ring
    _ ≤ 2 ^ 52 * (den * 2 ^ dropped) := mul_le_mul_of_nonneg_left herror (by positivity)
    _ = (2 ^ (52 + dropped) * den : Nat) := by push_cast; ring
    _ ≤ num := Int.ofNat_le.mpr hkept

/-- A whole number is rounded by at most a `2 ^ 53`-th, since a smaller one is kept. -/
theorem abs_nearestUnits_one_sub_le (n : Nat) :
    2 ^ 53 * |(nearestUnits n 1 - n : Int)| ≤ n := by
  rcases Nat.lt_or_ge n (2 ^ 52) with hsmall | hlarge
  · have hsignificant : Significant n := ⟨n, 0, hsmall.trans (by decide), (Nat.mul_one n).symm⟩
    rw [nearestUnits_one hsignificant, sub_self, abs_zero, mul_zero]
    exact Int.natCast_nonneg n
  · have hnormal : 2 ^ 52 * 1 ≤ n := by rwa [Nat.mul_one]
    have herror := abs_nearestUnits_sub_le Nat.one_pos hnormal
    rwa [Nat.cast_one, mul_one] at herror

end UpSetProse
