import UpSetProse.Proofs.Double.Order

/-!
# What running sums keep

A running sum of numbers that are zero or not finite is again zero or not finite, and so is whatever
else a deviation is computed with. A running sum of numbers that are not negative is at least any of
them.
-/

namespace UpSetProse.Double

variable {x y : Double} {bound other : Nat}

/-! ## Zero or not finite -/

/-- Zero or not finite. -/
inductive Idle : Double → Prop
  | nan : Idle nan
  | infinity (negative : Bool) : Idle (infinity negative)
  | zero (negative : Bool) : Idle (signedZero negative)

/-- A difference of numbers with the same value is zero or not finite. -/
theorem idle_sub_of_value (h : x.value = y.value) : (x - y).Idle := by
  cases x with
  | nan => exact .nan
  | infinity a =>
    cases y with
    | nan => exact .nan
    | infinity b =>
      obtain rfl : a = b := by
        have hpos : infiniteUnits ≠ 0 := by decide +kernel
        cases a <;> cases b <;>
          simp only [value, signedUnits, if_true, Bool.false_eq_true, if_false] at h ⊢ <;> omega
      change (if a = !a then infinity a else nan).Idle
      cases a <;> exact .nan
    | finite b n hn => exact .infinity a
  | finite a m hm =>
    cases y with
    | nan => exact .nan
    | infinity b => exact .infinity (!b)
    | finite b n hn =>
      have htotal : signedUnits a m + signedUnits (!b) n = 0 := by
        cases a <;> cases b <;>
          simp only [value, signedUnits, if_true, Bool.false_eq_true, if_false, Bool.not_true,
            Bool.not_false] at h ⊢ <;> omega
      change (finite a m hm + finite (!b) n hn).Idle
      rw [add_finite, if_pos htotal]
      exact .zero _

/-- Idle numbers have an idle sum. -/
theorem Idle.add (hx : x.Idle) (hy : y.Idle) : (x + y).Idle := by
  cases hx with
  | nan => exact .nan
  | infinity a =>
    cases hy with
    | nan => exact .nan
    | infinity b =>
      change (if a = b then Double.infinity a else Double.nan).Idle
      split
      · exact .infinity a
      · exact .nan
    | zero b => exact .infinity a
  | zero a =>
    cases hy with
    | nan => exact .nan
    | infinity b => exact .infinity b
    | zero b => cases a <;> cases b <;> exact .zero _

/-- A product with an idle factor is idle. -/
theorem Idle.mul_left (hy : y.Idle) (x : Double) : (x * y).Idle := by
  cases hy with
  | nan => cases x <;> exact .nan
  | infinity b =>
    cases x with
    | nan => exact .nan
    | infinity a => exact .infinity (a != b)
    | finite a m hm =>
      change (if m = 0 then Double.nan else Double.infinity (a != b)).Idle
      split
      · exact .nan
      · exact .infinity (a != b)
  | zero b =>
    cases x with
    | nan => exact .nan
    | infinity a => exact .nan
    | finite a m hm =>
      rw [signedZero, mul_finite, Nat.mul_zero, ofUnits_zero]
      exact .zero (a != b)

theorem Idle.square (hx : x.Idle) : (x * x).Idle := hx.mul_left x

/-- An idle number stays idle when it is divided. -/
theorem Idle.div (hx : x.Idle) (y : Double) : (x / y).Idle := by
  cases hx with
  | nan => exact .nan
  | infinity a =>
    cases y with
    | nan => exact .nan
    | infinity b => exact .nan
    | finite b n hn => exact .infinity (a != b)
  | zero a =>
    cases y with
    | nan => exact .nan
    | infinity b => exact .zero (a != b)
    | finite b n hn =>
      rcases Nat.eq_zero_or_pos n with rfl | hpos
      · exact .nan
      · rw [signedZero, div_finite _ _ _ _ hpos, Nat.zero_mul, ofUnits_zero]
        exact .zero _

/-- The root of an idle number is idle. -/
theorem Idle.sqrt (hx : x.Idle) : x.sqrt.Idle := by
  cases hx with
  | nan => exact .nan
  | infinity negative =>
    cases negative
    · exact .infinity false
    · exact .nan
  | zero negative => exact .zero negative

theorem Idle.floor (hx : x.Idle) : x.floor.Idle := by
  cases hx with
  | nan => exact .nan
  | infinity negative => exact .infinity negative
  | zero negative =>
    have hzero : (signedZero negative).floor = signedZero negative := by
      cases negative <;> decide +kernel
    rw [hzero]
    exact .zero negative

/-- A running sum of idle numbers never becomes anything else. -/
theorem Idle.foldl_add {xs : List Double} (h : ∀ x ∈ xs, x.Idle) {start : Double}
    (hstart : start.Idle) : (xs.foldl (· + ·) start).Idle := by
  induction xs generalizing start with
  | nil => exact hstart
  | cons x rest ih =>
    obtain ⟨hx, hrest⟩ := List.forall_mem_cons.mp h
    exact ih hrest (hstart.add hx)

/-- Idle numbers fail the test for numbers that are finite and not zero. -/
theorem Idle.eq_true (hx : x.Idle) : (!x.isFinite || x.isZero) = true := by
  cases hx with
  | nan => rfl
  | infinity negative => rfl
  | zero negative => cases negative <;> decide +kernel

/-- They fail the test for numbers that are finite and positive as well. -/
theorem Idle.eq_false (hx : x.Idle) : (x.isFinite && Double.lt 0 x) = false := by
  cases hx with
  | nan => rfl
  | infinity negative => rfl
  | zero negative => cases negative <;> decide +kernel

theorem idle_of_isZero (h : x.isZero = true) : x.Idle := by
  cases x with
  | nan => exact .nan
  | infinity negative => exact .infinity negative
  | finite negative n hn =>
    obtain rfl := isZero_finite_iff.mp h
    exact .zero negative

theorem idle_of_not_isFinite (h : x.isFinite = false) : x.Idle := by
  cases x with
  | nan => exact .nan
  | infinity negative => exact .infinity negative
  | finite negative n hn => cases h

/-! ## Lower bounds -/

/-- Not negative and not less than so many units, possibly infinite. -/
inductive AtLeast (bound : Nat) : Double → Prop
  | infinity : AtLeast bound (.infinity false)
  | finite {n : Nat} {h : Representable n} (hle : bound ≤ n) : AtLeast bound (.finite false n h)

/-- A quotient that is not below a representable bound is not rounded below it. -/
theorem atLeast_ofUnits {num den : Nat} (hden : 0 < den) (hbound : Significant bound)
    (h : bound * den ≤ num) : (ofUnits false num den).AtLeast bound := by
  have hle := le_nearestUnits hden hbound h
  unfold ofUnits
  split
  · exact .finite hle
  · exact .infinity

/-- The sum of two numbers is not rounded below a representable number that the sum of their bounds
reaches. -/
theorem AtLeast.add (hx : x.AtLeast bound) (hy : y.AtLeast other) {sum : Nat}
    (hsum : Significant sum) (hle : sum ≤ bound + other) : (x + y).AtLeast sum := by
  cases hx with
  | infinity => cases hy <;> exact .infinity
  | finite hx =>
    cases hy with
    | infinity => exact .infinity
    | finite hy =>
      rw [add_same_sign]
      exact atLeast_ofUnits Nat.one_pos hsum (by omega)

/-- A running sum of numbers that are not negative is at least any of them. -/
theorem atLeast_foldl_add (hbound : Significant bound) {xs : List Double}
    (hxs : ∀ x ∈ xs, x.AtLeast 0) {start : Double} (hstart : start.AtLeast 0)
    (hsome : start.AtLeast bound ∨ ∃ x ∈ xs, x.AtLeast bound) :
    (xs.foldl (· + ·) start).AtLeast bound := by
  induction xs generalizing start with
  | nil => exact hsome.resolve_right fun ⟨_, hmem, _⟩ => absurd hmem List.not_mem_nil
  | cons x rest ih =>
    obtain ⟨hx, hrest⟩ := List.forall_mem_cons.mp hxs
    refine ih hrest (hstart.add hx (significant_of_le (Nat.zero_le _)) le_rfl) ?_
    rcases hsome with hsome | ⟨y, hmem, hy⟩
    · exact .inl (hsome.add hx hbound le_rfl)
    · rcases List.mem_cons.mp hmem with rfl | hmem
      · exact .inl (hstart.add hy hbound (Nat.le_add_left _ _))
      · exact .inr ⟨y, hmem, hy⟩

/-- Between a bound from below and one from above, a number is finite, with units between the
two. -/
theorem AtLeast.exists_finite (hx : x.AtLeast bound) (hfinite : x.Within other) :
    ∃ n, ∃ h : Representable n, bound ≤ n ∧ n ≤ other ∧ x = Double.finite false n h := by
  cases hx with
  | infinity => cases hfinite
  | finite hlow =>
    cases hfinite with
    | finite hhigh => exact ⟨_, _, hlow, hhigh, rfl⟩

end UpSetProse.Double
