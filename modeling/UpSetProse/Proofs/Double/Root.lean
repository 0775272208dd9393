import UpSetProse.Proofs.Double.Bounds

/-!
# Square roots

The digits of a square root are found from the front, each step keeping the largest number whose
square is not too large. The rounded root of a positive number is positive, and it is at most twice
a power of two that the number is at most the square of.
-/

namespace UpSetProse

/-- The digits make up the largest number whose square is not too large. -/
theorem squareRootDigits_spec {digits n : Nat} (h : n < 4 ^ digits) :
    squareRootDigits digits n * squareRootDigits digits n ≤ n ∧
      n < (squareRootDigits digits n + 1) * (squareRootDigits digits n + 1) := by
  induction digits generalizing n with
  | zero =>
    obtain rfl : n = 0 := by omega
    decide
  | succ digits ih =>
    rw [Nat.pow_succ] at h
    obtain ⟨hlow, hhigh⟩ := ih (n := n / 4) (by omega)
    unfold squareRootDigits
    generalize squareRootDigits digits (n / 4) = root at hlow hhigh ⊢
    have hdouble : 2 * root * (2 * root) = 4 * (root * root) := by ring
    have hnext : (2 * root + 1 + 1) * (2 * root + 1 + 1) = 4 * ((root + 1) * (root + 1)) := by ring
    dsimp only
    split
    · omega
    · omega

/-- The square root is rounded down. -/
theorem squareRoot_spec (n : Nat) :
    squareRoot n * squareRoot n ≤ n ∧ n < (squareRoot n + 1) * (squareRoot n + 1) := by
  refine squareRootDigits_spec ((bitLength_le_iff.mp le_rfl).trans_le ?_)
  exact Nat.pow_le_pow_left (by decide) _

/-- Every number whose square is large enough is at least the root. -/
theorem squareRoot_le {n root : Nat} (h : n ≤ root * root) : squareRoot n ≤ root := by
  rw [← Nat.mul_self_le_mul_self_iff]
  exact (squareRoot_spec n).1.trans h

/-- Every number whose square is small enough is at most the root. -/
theorem le_squareRoot {n root : Nat} (h : root * root ≤ n) : root ≤ squareRoot n := by
  rw [← Nat.lt_succ_iff, ← Nat.mul_self_lt_mul_self_iff]
  exact h.trans_lt (squareRoot_spec n).2

/-- Rounding takes the root of the leading digits or the number after it. -/
theorem exists_nearestRootUnits_eq (n : Nat) :
    ∃ dropped rounded, bitLength (squareRoot n) - 53 = dropped ∧
      squareRoot (n / 4 ^ dropped) ≤ rounded ∧ rounded ≤ squareRoot (n / 4 ^ dropped) + 1 ∧
      nearestRootUnits n = rounded * 2 ^ dropped := by
  refine ⟨_, _, rfl, ?_, ?_, rfl⟩
  · rw [Nat.pow_eq]
    split_ifs <;> omega
  · rw [Nat.pow_eq]
    split_ifs <;> omega

theorem four_pow (k : Nat) : 4 ^ k = 2 ^ k * 2 ^ k := Nat.mul_pow 2 2 k

theorem nearestRootUnits_pos {n : Nat} (h : 0 < n) : 0 < nearestRootUnits n := by
  obtain ⟨dropped, rounded, hdropped, hlow, -, heq⟩ := exists_nearestRootUnits_eq n
  have hone : 1 ≤ squareRoot n := le_squareRoot h
  obtain ⟨length, hlength⟩ := exists_bitLength_eq_succ hone
  -- No more digits are dropped than leave the first one.
  have hpower : 2 ^ dropped ≤ squareRoot n :=
    (Nat.pow_le_pow_right (by decide) (by omega)).trans (bitLength_eq_succ_iff.mp hlength).1
  have hkept : 1 * 1 ≤ n / 4 ^ dropped := by
    rw [Nat.le_div_iff_mul_le (Nat.pow_pos (by decide)), four_pow]
    calc 1 * 1 * (2 ^ dropped * 2 ^ dropped)
      _ = 2 ^ dropped * 2 ^ dropped := by ring
      _ ≤ squareRoot n * squareRoot n := Nat.mul_le_mul hpower hpower
      _ ≤ n := (squareRoot_spec n).1
  rw [heq]
  exact Nat.mul_pos ((le_squareRoot hkept).trans hlow) (Nat.two_pow_pos dropped)

/-- Rounding takes a root to at most twice the power of two that bounds it. -/
theorem nearestRootUnits_le {n k : Nat} (h : n ≤ 4 ^ k) : nearestRootUnits n ≤ 2 ^ (k + 1) := by
  obtain ⟨dropped, rounded, hdropped, -, hhigh, heq⟩ := exists_nearestRootUnits_eq n
  have hroot : squareRoot n ≤ 2 ^ k := squareRoot_le (h.trans_eq (four_pow k))
  have hle : dropped ≤ k := by
    have hlength := bitLength_mono hroot
    have hpower : bitLength (2 ^ k) ≤ k + 1 := by
      rw [bitLength_le_iff]
      exact Nat.pow_lt_pow_right (by decide) (Nat.lt_succ_self k)
    omega
  obtain ⟨rest, rfl⟩ := Nat.exists_eq_add_of_le' hle
  have hkept : n / 4 ^ dropped ≤ 2 ^ rest * 2 ^ rest := by
    rw [← four_pow]
    refine Nat.div_le_of_le_mul (h.trans_eq ?_)
    rw [Nat.pow_add, Nat.mul_comm]
  have hrounded : rounded ≤ 2 ^ rest + 1 := hhigh.trans (Nat.succ_le_succ (squareRoot_le hkept))
  have hpos := Nat.two_pow_pos rest
  calc nearestRootUnits n
    _ = rounded * 2 ^ dropped := heq
    _ ≤ (2 ^ rest * 2) * 2 ^ dropped := Nat.mul_le_mul_right _ (by omega)
    _ = 2 ^ (rest + dropped + 1) := by rw [Nat.pow_succ, Nat.pow_add]; ring

/-- The root of a positive number is rounded once, from the root of its units. -/
theorem Double.sqrt_finite {n : Nat} (h : Representable n) (hpos : 0 < n) :
    (finite false n h).sqrt = ofUnits false (nearestRootUnits (n * one)) 1 :=
  (if_neg hpos.ne').trans (if_neg Bool.false_ne_true)

end UpSetProse
