import Mathlib.Algebra.Order.Field.Basic
import Mathlib.Algebra.Order.Ring.Pow
import Mathlib.Data.Rat.Cast.Order
import Mathlib.Tactic.FieldSimp
import Mathlib.Tactic.NormNum
import UpSetProse.Double.Decimal
import UpSetProse.Proofs.Double.Error
import UpSetProse.Proofs.Double.Order

/-!
# Approximating rational numbers by doubles

Two rational numbers are near if each keeps all but a `2 ^ 53`-th of the other, a few times over.
Nearness passes through sums, and through products and quotients, where the numbers of roundings add
up, and one more is counted for a rounded sum, product or quotient of doubles that is neither huge
nor tiny. Numbers that are further apart than all the roundings are compared as their approximations
are.
-/

namespace UpSetProse

/-- What a rounding keeps of a number at least. -/
def kept : ℚ := 1 - 1 / 2 ^ 53

theorem kept_pos : 0 < kept := by
  unfold kept
  norm_num

/-- Each rounding keeps at most the whole value. -/
theorem kept_le_one : kept ≤ 1 := by
  unfold kept
  norm_num

theorem kept_pow_pos (k : Nat) : 0 < kept ^ k := pow_pos kept_pos k

theorem kept_pow_le_one (k : Nat) : kept ^ k ≤ 1 := pow_le_one₀ kept_pos.le kept_le_one

/-- Eight roundings lose at most a `2 ^ 50`-th. -/
theorem le_kept_pow {k : Nat} (h : k ≤ 8) : 1 - 1 / 2 ^ 50 ≤ kept ^ k := by
  have hbernoulli := one_add_mul_sub_le_pow (neg_one_lt_zero.le.trans kept_pos.le) 8
  calc 1 - 1 / 2 ^ 50
    _ ≤ 1 + (8 : Nat) * (kept - 1) := by unfold kept; norm_num
    _ ≤ kept ^ 8 := hbernoulli
    _ ≤ kept ^ k := pow_le_pow_of_le_one kept_pos.le kept_le_one h

/-- No further from each other than `k` roundings. -/
def Near (k : Nat) (r v : ℚ) : Prop := r * kept ^ k ≤ v ∧ v * kept ^ k ≤ r

namespace Near

variable {k l : Nat} {r s t v w : ℚ}

/-- A number that is not negative is near itself. -/
theorem refl (h : 0 ≤ r) (k : Nat) : Near k r r :=
  ⟨mul_le_of_le_one_right h (kept_pow_le_one k), mul_le_of_le_one_right h (kept_pow_le_one k)⟩

/-- Nearness goes both ways, since it is measured by factors. -/
theorem symm (h : Near k r v) : Near k v r := ⟨h.2, h.1⟩

/-- What is near a number that is not negative is not negative either. -/
theorem nonneg (h : Near k r v) (hr : 0 ≤ r) : 0 ≤ v :=
  (mul_nonneg hr (kept_pow_pos k).le).trans h.1

/-- The roundings on the way from one number to another add up. -/
theorem trans (h : Near k r v) (h' : Near l v w) : Near (k + l) r w := by
  constructor
  · calc r * kept ^ (k + l)
      _ = r * kept ^ k * kept ^ l := by rw [pow_add, mul_assoc]
      _ ≤ v * kept ^ l := mul_le_mul_of_nonneg_right h.1 (kept_pow_pos l).le
      _ ≤ w := h'.1
  · calc w * kept ^ (k + l)
      _ = w * kept ^ l * kept ^ k := by rw [add_comm, pow_add, mul_assoc]
      _ ≤ v * kept ^ k := mul_le_mul_of_nonneg_right h'.2 (kept_pow_pos k).le
      _ ≤ r := h.2

/-- The roundings of two factors add up in their product. -/
theorem mul (h : Near k r v) (h' : Near l s w) (hr : 0 ≤ r) (hs : 0 ≤ s) :
    Near (k + l) (r * s) (v * w) := by
  have hk := (kept_pow_pos k).le
  have hl := (kept_pow_pos l).le
  constructor
  · calc r * s * kept ^ (k + l)
      _ = r * kept ^ k * (s * kept ^ l) := by rw [pow_add]; ring
      _ ≤ v * w := mul_le_mul h.1 h'.1 (mul_nonneg hs hl) (h.nonneg hr)
  · calc v * w * kept ^ (k + l)
      _ = v * kept ^ k * (w * kept ^ l) := by rw [pow_add]; ring
      _ ≤ r * s := mul_le_mul h.2 h'.2 (mul_nonneg (h'.nonneg hs) hl) hr

/-- Nearness carries over to reciprocals. -/
theorem inv (h : Near k r v) (hr : 0 < r) (hv : 0 < v) : Near k r⁻¹ v⁻¹ := by
  constructor
  · rw [inv_mul_le_iff₀ hr, ← div_eq_mul_inv, le_div_iff₀ hv, mul_comm]
    exact h.2
  · rw [inv_mul_le_iff₀ hv, ← div_eq_mul_inv, le_div_iff₀ hr, mul_comm]
    exact h.1

/-- The roundings of two numbers add up in their quotient. -/
theorem div (h : Near k r v) (h' : Near l s w) (hr : 0 ≤ r) (hs : 0 < s) (hw : 0 < w) :
    Near (k + l) (r / s) (v / w) := by
  rw [div_eq_mul_inv, div_eq_mul_inv]
  exact h.mul (h'.inv hs hw) hr (inv_nonneg.mpr hs.le)

/-- Sums are as near to each other as their summands are. -/
theorem add (h : Near k r v) (h' : Near k s w) : Near k (r + s) (v + w) := by
  constructor
  · rw [add_mul]
    exact add_le_add h.1 h'.1
  · rw [add_mul]
    exact add_le_add h.2 h'.2

/-- A common part lessens the relative distance. -/
theorem add_left (h : Near k r v) (ht : 0 ≤ t) : Near k (t + r) (t + v) := (refl ht k).add h

/-- Numbers that are further apart than the roundings are in the order of the rounded ones. -/
theorem lt_of_lt (h : Near k r v) (h' : Near l s w) (hlt : r < s * kept ^ (k + l)) : v < w := by
  have hkept : v * kept ^ k < w * kept ^ k := by
    calc v * kept ^ k
      _ ≤ r := h.2
      _ < s * kept ^ (k + l) := hlt
      _ = s * kept ^ l * kept ^ k := by rw [add_comm, pow_add, mul_assoc]
      _ ≤ w * kept ^ k := mul_le_mul_of_nonneg_right h'.1 (kept_pow_pos k).le
  exact lt_of_mul_lt_mul_right hkept (kept_pow_pos k).le

end Near

/-- Further apart than a `2 ^ 50`-th of the larger number. -/
def Apart (r s : ℚ) : Prop := r < s * (1 - 1 / 2 ^ 50) ∨ s < r * (1 - 1 / 2 ^ 50)

/-- Up to eight roundings do not change the order of numbers that are apart. -/
theorem Apart.lt_iff_lt {k l : Nat} {r s v w : ℚ} (h : Apart r s) (hr : 0 ≤ r) (hs : 0 ≤ s)
    (hv : Near k r v) (hw : Near l s w) (hkl : k + l ≤ 8) : v < w ↔ r < s := by
  have hkept := le_kept_pow hkl
  rcases h with hlt | hgt
  · have hvw : v < w := hv.lt_of_lt hw (hlt.trans_le (mul_le_mul_of_nonneg_left hkept hs))
    have hrs : r < s := hlt.trans_le (mul_le_of_le_one_right hs (by norm_num))
    exact iff_of_true hvw hrs
  · rw [add_comm] at hkept
    have hwv : w < v := hw.lt_of_lt hv (hgt.trans_le (mul_le_mul_of_nonneg_left hkept hr))
    have hsr : s < r := hgt.trans_le (mul_le_of_le_one_right hr (by norm_num))
    exact iff_of_false hwv.not_gt hsr.not_gt

/-- Different whole numbers are apart, unless both are large. -/
theorem apart_natCast {a b : Nat} (hne : a ≠ b) (hsmall : b < 2 ^ 50 - 1) :
    Apart (a : ℚ) b := by
  have hb : (b : ℚ) + 1 < 2 ^ 50 := by
    have hsucc : b + 1 < 2 ^ 50 := by omega
    exact_mod_cast hsucc
  rcases hne.lt_or_gt with hlt | hgt
  · have hstep : (a + 1 : ℚ) ≤ b := by exact_mod_cast hlt
    refine .inl ?_
    linarith
  · have hstep : (b + 1 : ℚ) ≤ a := by exact_mod_cast hgt
    refine .inr ?_
    linarith

theorem Apart.symm {r s : ℚ} (h : Apart r s) : Apart s r := Or.symm h

/-- Numbers that are apart stay so when both are scaled. -/
theorem Apart.mul_right {r s c : ℚ} (h : Apart r s) (hc : 0 < c) : Apart (r * c) (s * c) := by
  unfold Apart
  rw [mul_right_comm, mul_lt_mul_iff_of_pos_right hc, mul_right_comm,
    mul_lt_mul_iff_of_pos_right hc]
  exact h

/-- A `2 ^ 53`-th of a number is what one rounding may add to it or take from it. -/
theorem near_of_abs_sub_le {a b : Nat} (h : 2 ^ 53 * |(a - b : Int)| ≤ b) : Near 1 (b : ℚ) a := by
  have hcast : (2 : ℚ) ^ 53 * |(a - b : ℚ)| ≤ b := by exact_mod_cast h
  have hlow := neg_abs_le (a - b : ℚ)
  have hhigh := le_abs_self (a - b : ℚ)
  have hb : (0 : ℚ) ≤ b := Nat.cast_nonneg b
  rw [Near, pow_one, kept]
  constructor <;> linarith

/-- Nearness is kept when both numbers are divided by a third. -/
theorem Near.div_right {k : Nat} {r v t : ℚ} (h : Near k r v) (ht : 0 ≤ t) :
    Near k (r / t) (v / t) := by
  have hinv := inv_nonneg.mpr ht
  rw [div_eq_mul_inv, div_eq_mul_inv]
  constructor
  · rw [mul_right_comm]
    exact mul_le_mul_of_nonneg_right h.1 hinv
  · rw [mul_right_comm]
    exact mul_le_mul_of_nonneg_right h.2 hinv

/-- Neither huge nor tiny. -/
def Moderate (r : ℚ) : Prop := 1 ≤ r * 2 ^ 200 ∧ r ≤ 2 ^ 200

theorem Moderate.pos {r : ℚ} (h : Moderate r) : 0 < r := by
  have hone := h.1
  by_contra hr
  have hle : r * 2 ^ 200 ≤ 0 := mul_nonpos_of_nonpos_of_nonneg (not_lt.mp hr) (by positivity)
  linarith

/-- A quotient near a moderate number is moderate. -/
theorem Moderate.le_of_near {k a b : Nat} {r : ℚ} (h : Moderate r) (hk : k ≤ 8)
    (hnear : Near k r (a / b)) (hb : 0 < b) : b ≤ a * 2 ^ 201 ∧ a ≤ b * 2 ^ 201 := by
  have hbpos : (0 : ℚ) < b := Nat.cast_pos.mpr hb
  have hhalf : (1 : ℚ) / 2 ≤ kept ^ k := le_trans (by norm_num) (le_kept_pow hk)
  obtain ⟨hlow, hhigh⟩ := hnear
  have hquotient : (0 : ℚ) ≤ a / b := div_nonneg (Nat.cast_nonneg a) hbpos.le
  have hlow' : r * (1 / 2) ≤ a / b := (mul_le_mul_of_nonneg_left hhalf h.pos.le).trans hlow
  have hhigh' : (a / b : ℚ) * (1 / 2) ≤ r :=
    (mul_le_mul_of_nonneg_left hhalf hquotient).trans hhigh
  obtain ⟨hone, hmost⟩ := h
  constructor
  · have hscaled : (1 : ℚ) ≤ a / b * 2 ^ 201 := by linarith
    rw [div_mul_eq_mul_div, le_div_iff₀ hbpos, one_mul] at hscaled
    exact_mod_cast hscaled
  · have hscaled : (a / b : ℚ) ≤ 2 ^ 201 := by linarith
    rw [div_le_iff₀ hbpos, mul_comm] at hscaled
    exact_mod_cast hscaled

namespace Double

/-- A finite double, not negative, that is near a rational number. -/
inductive Approximates (k : Nat) (r : ℚ) : Double → Prop
  | finite {n : Nat} {h : Representable n} (hnear : Near k r (n / one)) :
    Approximates k r (.finite false n h)

variable {k l num den : Nat} {r s : ℚ} {x y : Double}

/-- A double that approximates a number has a value that is near the number. -/
theorem Approximates.near {n : Nat} {h : Representable n}
    (hx : (Double.finite false n h).Approximates k r) : Near k r (n / one) := by
  obtain ⟨hnear⟩ := hx
  exact hnear

/-- A double approximates what is near the number that it approximates. -/
theorem Approximates.of_near (hx : x.Approximates k s) (h : Near l r s) :
    x.Approximates (l + k) r := by
  obtain ⟨hx⟩ := hx
  exact .finite (h.trans hx)

/-- More roundings may be granted than are made. -/
theorem Approximates.mono (hx : x.Approximates k r) (hr : 0 ≤ r) (hkl : k ≤ l) :
    x.Approximates l r := by
  have hmore := hx.of_near (.refl hr (l - k))
  rwa [Nat.sub_add_cancel hkl] at hmore

theorem one_cast_pos : (0 : ℚ) < one := Nat.cast_pos.mpr one_pos

theorem two_pow_le_one : 2 ^ 253 ≤ one := by
  rw [one_eq]
  exact Nat.pow_le_pow_right (by decide) (by decide)

/-- A quotient between the smallest and the largest doubles is rounded once. -/
theorem approximates_ofUnits (hden : 0 < den) (hlow : 2 ^ 52 * den ≤ num)
    (hhigh : num ≤ one * 2 ^ 201 * den) :
    (ofUnits false num den).Approximates 1 (num / den / one) := by
  have hdenpos : (0 : ℚ) < den := Nat.cast_pos.mpr hden
  have hbound := nearestUnits_le hden (significant_one.mul_two_pow 201) hhigh
  have hfinite : nearestUnits num den < infiniteUnits := hbound.trans_lt (by decide +kernel)
  have herror := abs_nearestUnits_sub_le hden hlow
  have hnear : Near 1 (num / den) (nearestUnits num den) := by
    have hscaled := (near_of_abs_sub_le (by exact_mod_cast herror)).div_right hdenpos.le
    rwa [Nat.cast_mul, mul_div_cancel_right₀ _ hdenpos.ne'] at hscaled
  unfold ofUnits
  rw [dif_pos hfinite]
  exact .finite (hnear.div_right one_cast_pos.le)

/-- A number of up to 64 bits is rounded once when it becomes a double. -/
theorem approximates_ofNat {n : Nat} (hpos : 0 < n) (hle : n ≤ 2 ^ 64) :
    (ofNat n).Approximates 1 n := by
  have hlow : 2 ^ 52 * 1 ≤ n * one := by
    have hone : 2 ^ 52 ≤ one := le_trans (by decide) two_pow_le_one
    exact (Nat.mul_one _).trans_le (hone.trans (Nat.le_mul_of_pos_left one hpos))
  have hhigh : n * one ≤ one * 2 ^ 201 * 1 := by
    rw [Nat.mul_one, Nat.mul_comm]
    exact Nat.mul_le_mul_left one (hle.trans (by decide))
  have happrox := approximates_ofUnits Nat.one_pos hlow hhigh
  rwa [Nat.cast_one, div_one, Nat.cast_mul, mul_div_cancel_right₀ _ one_cast_pos.ne'] at happrox

/-- Natural numbers of up to 53 bits are not rounded. -/
theorem approximates_ofNat_of_le {n : Nat} (h : n ≤ 2 ^ 53) : (ofNat n).Approximates 0 n := by
  obtain ⟨hn, heq⟩ := ofNat_eq_finite_of_le h
  have hexact : (n : ℚ) = (n * one : Nat) / one := by
    rw [Nat.cast_mul, mul_div_cancel_right₀ _ one_cast_pos.ne']
  rw [heq]
  refine .finite ?_
  rw [← hexact]
  exact .refl (Nat.cast_nonneg n) 0

/-- A number of hundredths is read as the double next to it. -/
theorem approximates_hundredths (digits : Nat) (hpos : 0 < digits) (hle : digits ≤ 2 ^ 64) :
    (Decimal.toDouble false ⟨digits, -2⟩).Approximates 1 (digits / 100) := by
  have htiny : Decimal.isTiny ⟨digits, -2⟩ = false := by
    have hdigits : (digits == 0) = false := beq_false_of_ne hpos.ne'
    have hexponent : ¬ (-2 : Int) < -400 - bitLength digits := by omega
    simp only [Decimal.isTiny, hdigits, hexponent, decide_false, Bool.or_self]
  have hhuge : Decimal.isHuge ⟨digits, -2⟩ = false := Bool.and_false _
  have hread : Decimal.toDouble false ⟨digits, -2⟩ = ofUnits false (digits * one) 100 := by
    simp only [Decimal.toDouble, htiny, hhuge, Bool.false_eq_true, if_false]
    rfl
  have hlow : 2 ^ 52 * 100 ≤ digits * one := by
    have hone : 2 ^ 52 * 100 ≤ one := le_trans (by decide) two_pow_le_one
    exact hone.trans (Nat.le_mul_of_pos_left one hpos)
  have hhigh : digits * one ≤ one * 2 ^ 201 * 100 := by
    rw [Nat.mul_comm, Nat.mul_assoc]
    exact Nat.mul_le_mul_left one (hle.trans (by decide))
  have happrox := approximates_ofUnits (by decide) hlow hhigh
  rw [Nat.cast_mul, div_right_comm, mul_div_cancel_right₀ _ one_cast_pos.ne'] at happrox
  rw [hread]
  exact_mod_cast happrox

/-- What approximates a positive number is not zero. -/
theorem Approximates.exists_finite (hx : x.Approximates k r) (hr : 0 < r) :
    ∃ n, ∃ hn : Representable n, 0 < n ∧ Near k r (n / one) ∧
      x = Double.finite false n hn := by
  obtain @⟨n, hn, hx⟩ := hx
  have hpos : (0 : ℚ) < n / one := (mul_pos hr (kept_pow_pos k)).trans_le hx.1
  have hunits : 0 < n := Nat.cast_pos.mp ((div_pos_iff_of_pos_right one_cast_pos).mp hpos)
  exact ⟨n, hn, hunits, hx, rfl⟩

/-- A quotient is rounded once more. -/
theorem Approximates.div (hx : x.Approximates k r) (hy : y.Approximates l s) (hr : 0 < r)
    (hs : 0 < s) (hmoderate : Moderate (r / s)) (hkl : k + l ≤ 8) :
    (x / y).Approximates (k + l + 1) (r / s) := by
  obtain @⟨m, hm, hx⟩ := hx
  obtain ⟨n, hn, hnpos, hdivisor, rfl⟩ := hy.exists_finite hs
  have hypos : (0 : ℚ) < n / one := div_pos (Nat.cast_pos.mpr hnpos) one_cast_pos
  have hexact : (m / one / (n / one) : ℚ) = m / n := div_div_div_cancel_right₀ one_cast_pos.ne' _ _
  have hnear : Near (k + l) (r / s) (m / n) := hexact ▸ hx.div hdivisor hr.le hs hypos
  obtain ⟨hlow, hhigh⟩ := hmoderate.le_of_near hkl hnear hnpos
  have hround : (ofUnits false (m * one) n).Approximates 1 (m / n) := by
    have hnormal : 2 ^ 52 * n ≤ m * one := by
      calc 2 ^ 52 * n
        _ ≤ 2 ^ 52 * (m * 2 ^ 201) := Nat.mul_le_mul_left _ hlow
        _ = m * 2 ^ 253 := by ring
        _ ≤ m * one := Nat.mul_le_mul_left m two_pow_le_one
    have hbound : m * one ≤ one * 2 ^ 201 * n := by
      calc m * one
        _ ≤ n * 2 ^ 201 * one := Nat.mul_le_mul_right one hhigh
        _ = one * 2 ^ 201 * n := by ring
    have happrox := approximates_ofUnits hnpos hnormal hbound
    rwa [Nat.cast_mul, div_right_comm, mul_div_cancel_right₀ _ one_cast_pos.ne'] at happrox
  rw [div_finite _ _ _ _ hnpos]
  exact hround.of_near hnear

/-- A product is rounded once more. -/
theorem Approximates.mul (hx : x.Approximates k r) (hy : y.Approximates l s) (hr : 0 < r)
    (hs : 0 < s) (hmoderate : Moderate (r * s)) (hkl : k + l ≤ 8) :
    (x * y).Approximates (k + l + 1) (r * s) := by
  obtain @⟨m, hm, hx⟩ := hx
  obtain @⟨n, hn, hy⟩ := hy
  have hexact : (m / one * (n / one) : ℚ) = (m * n : Nat) / (one * one : Nat) := by
    rw [div_mul_div_comm, Nat.cast_mul, Nat.cast_mul]
  have hnear : Near (k + l) (r * s) ((m * n : Nat) / (one * one : Nat)) :=
    hexact ▸ hx.mul hy hr.le hs.le
  obtain ⟨hlow, hhigh⟩ := hmoderate.le_of_near hkl hnear (Nat.mul_pos one_pos one_pos)
  have hround : (ofUnits false (m * n) one).Approximates 1 ((m * n : Nat) / (one * one : Nat)) := by
    have hscaled : 2 ^ 52 * one * 2 ^ 201 ≤ m * n * 2 ^ 201 := by
      calc 2 ^ 52 * one * 2 ^ 201
        _ = one * 2 ^ 253 := by ring
        _ ≤ one * one := Nat.mul_le_mul_left one two_pow_le_one
        _ ≤ m * n * 2 ^ 201 := hlow
    rw [Nat.mul_right_comm] at hhigh
    rw [Nat.cast_mul one, ← div_div]
    exact approximates_ofUnits one_pos
      (Nat.le_of_mul_le_mul_right hscaled (Nat.two_pow_pos 201)) hhigh
  rw [mul_finite]
  exact hround.of_near hnear

/-- A sum is rounded once more. -/
theorem Approximates.add (hx : x.Approximates k r) (hy : y.Approximates k s)
    (hmoderate : Moderate (r + s)) (hk : k ≤ 8) : (x + y).Approximates (k + 1) (r + s) := by
  obtain @⟨m, hm, hx⟩ := hx
  obtain @⟨n, hn, hy⟩ := hy
  have hnear : Near k (r + s) ((m + n : Nat) / one) := by
    rw [Nat.cast_add, add_div]
    exact hx.add hy
  obtain ⟨hlow, hhigh⟩ := hmoderate.le_of_near hk hnear one_pos
  have hnormal : 2 ^ 52 * 1 ≤ m + n := by
    have hscaled : 2 ^ 52 * 2 ^ 201 ≤ (m + n) * 2 ^ 201 := by
      rw [← pow_add]
      exact (Nat.pow_le_pow_right (by decide) (by decide)).trans (two_pow_le_one.trans hlow)
    exact Nat.le_of_mul_le_mul_right hscaled (Nat.two_pow_pos 201)
  have hround := approximates_ofUnits Nat.one_pos hnormal (hhigh.trans_eq (Nat.mul_one _).symm)
  rw [Nat.cast_one, div_one] at hround
  rw [add_same_sign]
  exact hround.of_near hnear

/-! ## Sums, halves and products of natural numbers -/

/-- A sum of natural numbers that has up to 53 bits is not rounded. -/
theorem ofNat_add_ofNat {m n : Nat} (h : m + n ≤ 2 ^ 53) : ofNat m + ofNat n = ofNat (m + n) := by
  obtain ⟨_, hm⟩ := ofNat_eq_finite_of_le ((Nat.le_add_right m n).trans h)
  obtain ⟨_, hn⟩ := ofNat_eq_finite_of_le ((Nat.le_add_left n m).trans h)
  rw [hm, hn, add_same_sign, ← Nat.add_mul]
  rfl

/-- Nor is half of such a number. -/
theorem approximates_half {n : Nat} (h : n ≤ 2 ^ 53) : (ofNat n / 2).Approximates 0 (n / 2) := by
  have hone : one = 2 ^ (unitScale - 1) * 2 := by
    rw [one_eq, ← pow_succ, Nat.sub_add_cancel (by decide)]
  obtain ⟨hrepresentable, -⟩ := ofNat_eq_finite_of_le h
  have hle : n * 2 ^ (unitScale - 1) ≤ n * one := by
    rw [hone, ← Nat.mul_assoc]
    exact Nat.le_mul_of_pos_right _ (by decide)
  have hunits : Representable (n * 2 ^ (unitScale - 1)) :=
    ⟨hle.trans_lt hrepresentable.1, (significant_of_le h).mul_two_pow _⟩
  have hquotient : ofNat n / 2 = finite false (n * 2 ^ (unitScale - 1)) hunits := by
    change ofNat n / ofNat 2 = _
    rw [ofNat_div_ofNat h (by decide) (by decide), ← ofUnits_one hunits]
    refine ofUnits_congr false (by decide) Nat.one_pos ?_
    rw [hone]
    ring
  have hexact : (n / 2 : ℚ) = (n * 2 ^ (unitScale - 1) : Nat) / one := by
    rw [hone]
    push_cast
    rw [mul_comm (n : ℚ), mul_div_mul_left _ _ (by positivity)]
  have hnonneg : (0 : ℚ) ≤ n / 2 := div_nonneg (Nat.cast_nonneg n) zero_le_two
  rw [hquotient]
  refine .finite ?_
  rw [← hexact]
  exact .refl hnonneg 0

/-- A product of natural numbers that are doubles is rounded as their exact product is. -/
theorem ofNat_mul_ofNat {m n : Nat} (hm : m ≤ 2 ^ 53) (hn : n ≤ 2 ^ 53) :
    ofNat m * ofNat n = ofNat (m * n) := by
  obtain ⟨_, hm⟩ := ofNat_eq_finite_of_le hm
  obtain ⟨_, hn⟩ := ofNat_eq_finite_of_le hn
  have hcancel : m * one * (n * one) * 1 = m * n * one * one := by ring
  rw [hm, hn, mul_finite, Bool.bne_false, ofNat, ofInteger]
  exact ofUnits_congr false one_pos Nat.one_pos hcancel

/-! ## Quotients of natural numbers -/

/-- Quotients of sizes are far from the smallest and the largest doubles. -/
theorem ratio_bounds {m n : Nat} (hm : 0 < m) (hn : 0 < n) (hm' : m ≤ 2 ^ 64) (hn' : n ≤ 2 ^ 64) :
    (1 : ℚ) / 2 ^ 64 ≤ m / n ∧ (m / n : ℚ) ≤ 2 ^ 64 := by
  have hmone : (1 : ℚ) ≤ m := Nat.one_le_cast.mpr hm
  have hnone : (1 : ℚ) ≤ n := Nat.one_le_cast.mpr hn
  have hmlast : (m : ℚ) ≤ 2 ^ 64 := by exact_mod_cast hm'
  have hnlast : (n : ℚ) ≤ 2 ^ 64 := by exact_mod_cast hn'
  have hlow : (1 : ℚ) / 2 ^ 64 ≤ m / n :=
    div_le_div₀ (zero_le_one.trans hmone) hmone (zero_lt_one.trans_le hnone) hnlast
  have hhigh : (m / n : ℚ) ≤ 2 ^ 64 / 1 := div_le_div₀ (by norm_num) hmlast zero_lt_one hnone
  exact ⟨hlow, hhigh.trans_eq (div_one _)⟩

/-- Both numbers and the quotient are rounded. -/
theorem approximates_ofNat_div {m n : Nat} (hm : 0 < m) (hn : 0 < n) (hm' : m ≤ 2 ^ 64)
    (hn' : n ≤ 2 ^ 64) : (ofNat m / ofNat n).Approximates 3 (m / n) := by
  obtain ⟨hlow, hhigh⟩ := ratio_bounds hm hn hm' hn'
  have hmoderate : Moderate (m / n) := ⟨by linarith, by linarith⟩
  exact (approximates_ofNat hm hm').div (approximates_ofNat hn hn') (Nat.cast_pos.mpr hm)
    (Nat.cast_pos.mpr hn) hmoderate (by decide)

/-! ## Comparisons -/

/-- Numbers that are apart are compared as their approximations are. -/
theorem Approximates.lt_iff (hx : x.Approximates k r) (hy : y.Approximates l s) (hr : 0 ≤ r)
    (hs : 0 ≤ s) (hapart : Apart r s) (hkl : k + l ≤ 8) : x.lt y = true ↔ r < s := by
  obtain @⟨m, hm, hx⟩ := hx
  obtain @⟨n, hn, hy⟩ := hy
  rw [lt_finite_iff, ← hapart.lt_iff_lt hr hs hx hy hkl, div_lt_div_iff_of_pos_right one_cast_pos,
    Nat.cast_lt]

end Double
end UpSetProse
