import Mathlib.Data.Int.Order.Basic
import Mathlib.Order.Compare
import UpSetProse.Proofs.Double.Bounds

/-!
# The order of doubles by their values

Doubles other than not-a-number are ordered like their values in units, where the infinities stand
for the first whole numbers that are too large. Only the two zeros share a value, so doubles without
a sign, which natural numbers are turned into, have values of their own. Of two natural numbers the
larger one is not turned into less, but beyond 53 bits it can be turned into the same double.
-/

namespace UpSetProse.Double

/-- The value in units; not-a-number is put with the infinity below. -/
def value : Double → Int
  | nan => signedUnits true infiniteUnits
  | infinity negative => signedUnits negative infiniteUnits
  | finite negative n _ => signedUnits negative n

/-- Every finite value lies between the infinities. -/
theorem signedUnits_bounds {n : Nat} (h : Representable n) (negative : Bool) :
    signedUnits true infiniteUnits < signedUnits negative n ∧
      signedUnits negative n < signedUnits false infiniteUnits := by
  have hn : n < infiniteUnits := h.1
  cases negative <;> simp only [signedUnits, if_true, Bool.false_eq_true, if_false] <;> omega

/-- Doubles are compared by their values. -/
theorem compare?_eq_compare {x y : Double} (hx : x.isNaN = false) (hy : y.isNaN = false) :
    compare? x y = some (compare x.value y.value) := by
  cases x with
  | nan => cases hx
  | infinity a =>
    cases y with
    | nan => cases hy
    | infinity b =>
      obtain ⟨hlow, hhigh⟩ := signedUnits_bounds representable_zero false
      simp only [compare?, value, Option.some.injEq]
      cases a <;> cases b
      case false.true => exact (compare_gt_iff_gt.mpr (hlow.trans hhigh)).symm
      case true.false => exact (compare_lt_iff_lt.mpr (hlow.trans hhigh)).symm
      all_goals exact (compare_eq_iff_eq.mpr rfl).symm
    | finite b n h =>
      obtain ⟨hlow, hhigh⟩ := signedUnits_bounds h b
      simp only [compare?, value, Option.some.injEq]
      cases a
      case false => exact (compare_gt_iff_gt.mpr hhigh).symm
      case true => exact (compare_lt_iff_lt.mpr hlow).symm
  | finite a m h =>
    cases y with
    | nan => cases hy
    | infinity b =>
      obtain ⟨hlow, hhigh⟩ := signedUnits_bounds h a
      simp only [compare?, value, Option.some.injEq]
      cases b
      case false => exact (compare_lt_iff_lt.mpr hhigh).symm
      case true => exact (compare_gt_iff_gt.mpr hlow).symm
    | finite b n h => rfl

section

variable {x y : Double} (hx : x.isNaN = false) (hy : y.isNaN = false)
include hx hy

/-- Numbers are ordered like their values. -/
theorem order_eq_compare : order x y = compare x.value y.value := by
  rw [order, compare?_eq_compare hx hy, Option.getD_some]

theorem lt_iff_value_lt : x.lt y = true ↔ x.value < y.value := by
  rw [lt, compare?_eq_compare hx hy, beq_iff_eq, Option.some.injEq, compare_lt_iff_lt]

theorem le_iff_value_le : x.le y = true ↔ x.value ≤ y.value := by
  rw [le, compare?_eq_compare hx hy, Bool.or_eq_true, beq_iff_eq, beq_iff_eq, Option.some.injEq,
    Option.some.injEq, compare_lt_iff_lt, compare_eq_iff_eq, le_iff_lt_or_eq]

end

/-- Numbers that are not negative are compared by their units. -/
theorem lt_finite_iff {m n : Nat} {hm : Representable m} {hn : Representable n} :
    (finite false m hm).lt (finite false n hn) = true ↔ m < n :=
  (lt_iff_value_lt rfl rfl).trans Int.ofNat_lt

/-- Neither negative nor undefined. -/
inductive Unsigned : Double → Prop
  | infinity : Unsigned (.infinity false)
  | finite {n : Nat} {h : Representable n} : Unsigned (.finite false n h)

theorem Unsigned.isNaN {x : Double} (h : x.Unsigned) : x.isNaN = false := by
  cases h <;> rfl

/-- Doubles without a sign are told apart by their values. -/
theorem Unsigned.eq_of_value {x y : Double} (hx : x.Unsigned) (hy : y.Unsigned)
    (h : x.value = y.value) : x = y := by
  cases hx with
  | infinity =>
    cases hy with
    | infinity => rfl
    | @finite n hn => exact absurd h (signedUnits_bounds hn false).2.ne'
  | @finite n hn =>
    cases hy with
    | infinity => exact absurd h (signedUnits_bounds hn false).2.ne
    | finite =>
      obtain rfl := Int.ofNat.inj h
      rfl

/-- The double of a natural number has no sign. -/
theorem unsigned_ofNat (n : Nat) : (ofNat n).Unsigned := by
  unfold ofNat ofInteger ofUnits
  by_cases h : nearestUnits (n * one) 1 < infiniteUnits
  · rw [dif_pos h]
    exact .finite
  · rw [dif_neg h]
    exact .infinity

/-! ## Natural numbers -/

/-- A natural number is rounded once, and one that is too large is infinite. -/
theorem value_ofNat (n : Nat) :
    (ofNat n).value = (Min.min (nearestUnits (n * one) 1) infiniteUnits : Nat) := by
  unfold ofNat ofInteger ofUnits
  split
  · rename_i hfinite
    rw [Nat.min_eq_left hfinite.le]
    simp only [value, signedUnits, Bool.false_eq_true, if_false]
  · rename_i hinfinite
    rw [Nat.min_eq_right (Nat.not_lt.mp hinfinite)]
    simp only [value, signedUnits, Bool.false_eq_true, if_false]

/-- Rounding keeps natural numbers in order, but may make them equal. -/
theorem value_ofNat_mono {m n : Nat} (h : m ≤ n) : (ofNat m).value ≤ (ofNat n).value := by
  have hunits := nearestUnits_mono Nat.one_pos (Nat.mul_le_mul_right one h)
  rw [value_ofNat, value_ofNat]
  exact Int.ofNat_le.mpr (min_le_min_right infiniteUnits hunits)

/-- Natural numbers are told apart as doubles exactly if their values are. -/
theorem ofNat_ne_iff_value_lt {m n : Nat} (h : m ≤ n) :
    ofNat m ≠ ofNat n ↔ (ofNat m).value < (ofNat n).value := by
  rw [(value_ofNat_mono h).lt_iff_ne]
  exact not_congr ⟨congrArg value, (unsigned_ofNat m).eq_of_value (unsigned_ofNat n)⟩

/-- Numbers of up to 53 bits are doubles. -/
theorem value_ofNat_of_le {n : Nat} (h : n ≤ 2 ^ 53) : (ofNat n).value = (n * one : Nat) := by
  obtain ⟨hn, heq⟩ := ofNat_eq_finite_of_le h
  rw [heq]
  simp only [value, signedUnits, Bool.false_eq_true, if_false]

/-- Up to 53 bits, natural numbers are told apart. -/
theorem ofNat_ne_of_lt {m n : Nat} (h : m < n) (hn : n ≤ 2 ^ 53) : ofNat m ≠ ofNat n := by
  rw [ofNat_ne_iff_value_lt h.le, value_ofNat_of_le (h.le.trans hn), value_ofNat_of_le hn]
  exact Int.ofNat_lt.mpr (Nat.mul_lt_mul_of_pos_right h one_pos)

end UpSetProse.Double
