import Mathlib.Tactic.Ring
import UpSetProse.Double.Arithmetic
import UpSetProse.Proofs.Double.Rounding

/-!
# Finite numbers that stay finite

A bound on magnitudes passes from the terms of a sum to its running sum, since no addition rounds
past a bound that is a double itself. Quotients by a natural number are finite exactly if what they
are taken of is, and rounding to decimal places leaves room below the largest double.
-/

namespace UpSetProse.Double

/-- Finite, with a magnitude of at most so many units. -/
inductive Within (bound : Nat) : Double → Prop
  | finite {negative : Bool} {n : Nat} {h : Representable n} (hle : n ≤ bound) :
    Within bound (.finite negative n h)

variable {bound : Nat} {x y : Double}

/-- Numbers within a bound are finite. -/
theorem Within.isFinite (h : x.Within bound) : x.isFinite = true := by
  cases h
  rfl

theorem within_signedZero (bound : Nat) (negative : Bool) : (signedZero negative).Within bound :=
  .finite (Nat.zero_le bound)

/-- The number one is a power of two in units. -/
theorem one_eq : one = 2 ^ unitScale := by
  unfold one
  generalize unitScale = k
  exact Nat.pow_eq

/-- The first number that is too large is a power of two in units as well. -/
theorem infiniteUnits_eq : infiniteUnits = 2 ^ (unitScale + 1024) := by
  unfold infiniteUnits
  generalize unitScale + 1024 = k
  exact Nat.pow_eq

theorem two_pow_lt_infiniteUnits {k : Nat} (h : k < unitScale + 1024) : 2 ^ k < infiniteUnits := by
  rw [infiniteUnits_eq]
  exact Nat.pow_lt_pow_right (by decide) h

theorem one_pos : 0 < one := by
  rw [one_eq]
  exact Nat.two_pow_pos unitScale

theorem significant_one : Significant one := by
  rw [one_eq]
  exact significant_two_pow unitScale

theorem significant_mul_one {n : Nat} (h : Significant n) : Significant (n * one) := by
  rw [one_eq]
  exact h.mul_two_pow unitScale

/-- Zero keeps the sign that it is given. -/
theorem ofUnits_zero (negative : Bool) (den : Nat) :
    ofUnits negative 0 den = signedZero negative := by
  have hfinite : nearestUnits 0 den < infiniteUnits := by
    rw [nearestUnits_zero]
    exact representable_zero.1
  unfold ofUnits signedZero
  rw [dif_pos hfinite]
  simp only [nearestUnits_zero]

theorem zero_eq : (0 : Double) = signedZero false := by decide +kernel

/-- Equal quotients are rounded to the same double. -/
theorem ofUnits_congr {num den num' den' : Nat} (negative : Bool) (hden : 0 < den)
    (hden' : 0 < den') (h : num * den' = num' * den) :
    ofUnits negative num den = ofUnits negative num' den' := by
  unfold ofUnits
  simp only [nearestUnits_congr hden hden' h]

/-- The units of a double are rounded to themselves. -/
theorem ofUnits_one {n : Nat} (h : Representable n) (negative : Bool) :
    ofUnits negative n 1 = finite negative n h := by
  have hexact : nearestUnits n 1 = n := nearestUnits_one h.significant
  have hfinite : nearestUnits n 1 < infiniteUnits := by
    rw [hexact]
    exact h.1
  unfold ofUnits
  rw [dif_pos hfinite]
  simp only [hexact]

/-- A quotient is rounded within a bound that it does not pass. -/
theorem within_ofUnits {num den : Nat} (hden : 0 < den) (hbound : Significant bound)
    (hfinite : bound < infiniteUnits) (h : num ≤ bound * den) (negative : Bool) :
    (ofUnits negative num den).Within bound := by
  have hle := nearestUnits_le hden hbound h
  unfold ofUnits
  rw [dif_pos (hle.trans_lt hfinite)]
  exact .finite hle

/-- Finite numbers are added exactly and rounded once. A sum of zero is negative only if both
summands are. -/
theorem add_finite (a b : Bool) {m n : Nat} (hm : Representable m) (hn : Representable n) :
    finite a m hm + finite b n hn =
      if signedUnits a m + signedUnits b n = 0 then signedZero (a && b)
      else ofUnits (signedUnits a m + signedUnits b n < 0)
        (signedUnits a m + signedUnits b n).natAbs 1 :=
  rfl

/-- The sign and the units of a total are those of the total. -/
theorem ofUnits_signedUnits (negative : Bool) {n : Nat} (hn : n ≠ 0) :
    signedUnits negative n ≠ 0 ∧
      ofUnits (signedUnits negative n < 0) (signedUnits negative n).natAbs 1 =
        ofUnits negative n 1 := by
  have hunits : signedUnits negative n ≠ 0 := by
    cases negative <;> simp only [signedUnits, if_true, Bool.false_eq_true, if_false] <;> omega
  have hsign : decide (signedUnits negative n < 0) = negative := by
    cases negative
    · exact decide_eq_false (Int.natCast_nonneg n).not_gt
    · exact decide_eq_true (Int.neg_neg_of_pos (by omega))
  have habs : (signedUnits negative n).natAbs = n := by
    cases negative
    · exact Int.natAbs_natCast _
    · exact (Int.natAbs_neg _).trans (Int.natAbs_natCast _)
  rw [hsign, habs]
  exact ⟨hunits, rfl⟩

/-- Numbers of one sign are added without regard to it. -/
theorem add_same_sign (negative : Bool) {m n : Nat} (hm : Representable m) (hn : Representable n) :
    finite negative m hm + finite negative n hn = ofUnits negative (m + n) 1 := by
  have htotal : signedUnits negative m + signedUnits negative n = signedUnits negative (m + n) := by
    cases negative <;> simp only [signedUnits, if_true, Bool.false_eq_true, if_false] <;> omega
  rw [add_finite, htotal]
  by_cases hzero : m + n = 0
  · have hunits : signedUnits negative (m + n) = 0 := by
      rw [hzero]
      cases negative <;> rfl
    rw [if_pos hunits, hzero, Bool.and_self, ofUnits_zero]
  · obtain ⟨hunits, heq⟩ := ofUnits_signedUnits negative hzero
    rw [if_neg hunits, heq]

/-- A zero does not change a number that is not zero. -/
theorem add_signedZero (negative sign : Bool) {n : Nat} (h : Representable n) (hpos : 0 < n) :
    finite negative n h + signedZero sign = finite negative n h ∧
      signedZero sign + finite negative n h = finite negative n h := by
  obtain ⟨hunits, heq⟩ := ofUnits_signedUnits negative hpos.ne'
  have hzero : signedUnits sign 0 = 0 := by cases sign <;> rfl
  unfold signedZero
  rw [add_finite, add_finite, hzero, Int.add_zero, Int.zero_add, if_neg hunits, if_neg hunits, heq]
  exact ⟨ofUnits_one h negative, ofUnits_one h negative⟩

/-- A number that is not larger is taken off without regard to signs. -/
theorem sub_of_le {m n : Nat} (hm : Representable m) (hn : Representable n) (hle : n ≤ m) :
    finite false m hm - finite false n hn = ofUnits false (m - n) 1 := by
  have htotal : signedUnits false m + signedUnits true n = signedUnits false (m - n) := by
    simp only [signedUnits, if_true, Bool.false_eq_true, if_false]
    omega
  change finite false m hm + finite true n hn = _
  rw [add_finite, htotal]
  by_cases hzero : m - n = 0
  · rw [hzero, ofUnits_zero]
    rfl
  · obtain ⟨hunits, heq⟩ := ofUnits_signedUnits false hzero
    rw [if_neg hunits, heq]

/-- Finite numbers are divided exactly and rounded once. -/
theorem div_finite (a b : Bool) {m n : Nat} (hm : Representable m) (hn : Representable n)
    (hpos : 0 < n) : finite a m hm / finite b n hn = ofUnits (a != b) (m * one) n :=
  if_neg hpos.ne'

/-- Finite numbers are multiplied exactly and rounded once. -/
theorem mul_finite (a b : Bool) {m n : Nat} (hm : Representable m) (hn : Representable n) :
    finite a m hm * finite b n hn = ofUnits (a != b) (m * n) one := by
  change mul (finite a m hm) (finite b n hn) = _
  rw [mul]

/-- A sum lies within the sum of the bounds, if no rounding can take it past that. -/
theorem Within.add {other : Nat} (hx : x.Within bound) (hy : y.Within other)
    (hsum : Significant (bound + other)) (hfinite : bound + other < infiniteUnits) :
    (x + y).Within (bound + other) := by
  obtain @⟨a, m, hm, hx⟩ := hx
  obtain @⟨b, n, hn, hy⟩ := hy
  have hunits : (signedUnits a m + signedUnits b n).natAbs ≤ (bound + other) * 1 := by
    cases a <;> cases b <;> simp only [signedUnits, if_true, Bool.false_eq_true, if_false] <;> omega
  rw [add_finite]
  split
  · exact within_signedZero _ _
  · exact within_ofUnits Nat.one_pos hsum hfinite hunits _

/-! ## Running sums -/

/-- A running sum grows by at most the bound with every term. -/
theorem within_foldl_add {xs : List Double} (h : ∀ x ∈ xs, x.Within bound) {before : Nat}
    {start : Double} (hstart : start.Within (before * bound))
    (hsum : ∀ k ≤ before + xs.length, Significant (k * bound))
    (hfinite : (before + xs.length) * bound < infiniteUnits) :
    (xs.foldl (· + ·) start).Within ((before + xs.length) * bound) := by
  induction xs generalizing before start with
  | nil => exact hstart
  | cons x rest ih =>
    obtain ⟨hx, hrest⟩ := List.forall_mem_cons.mp h
    have hlength : before + (x :: rest).length = before + 1 + rest.length := by
      rw [List.length_cons]
      omega
    rw [hlength] at hsum hfinite ⊢
    refine ih hrest ?_ hsum hfinite
    -- The first term is added to a sum of the terms before it.
    have hstep : (before + 1) * bound = before * bound + bound := Nat.succ_mul before bound
    have hle : (before + 1) * bound ≤ (before + 1 + rest.length) * bound :=
      Nat.mul_le_mul_right bound (Nat.le_add_right _ _)
    rw [hstep] at hle ⊢
    refine hstart.add hx ?_ (hle.trans_lt hfinite)
    rw [← hstep]
    exact hsum _ (Nat.le_add_right _ _)

/-- A running sum lies within as many times the bound as there are summands, if every multiple of
the bound on the way is representable. -/
theorem within_sum {xs : List Double} (h : ∀ x ∈ xs, x.Within bound)
    (hsum : ∀ k ≤ xs.length, Significant (k * bound))
    (hfinite : xs.length * bound < infiniteUnits) : (sum xs).Within (xs.length * bound) := by
  have hstart : (0 : Double).Within (0 * bound) := by
    rw [zero_eq]
    exact within_signedZero _ _
  have hrun := within_foldl_add h hstart (by simpa using hsum) (by simpa using hfinite)
  rwa [Nat.zero_add] at hrun

/-! ## Quotients -/

/-- Natural numbers with few significant bits are doubles. -/
theorem ofNat_eq_finite {n : Nat} (h : Significant n) (hfinite : n * one < infiniteUnits) :
    ∃ hn, ofNat n = finite false (n * one) hn := by
  have hn : Representable (n * one) := ⟨hfinite, significant_mul_one h⟩
  exact ⟨hn, ofUnits_one hn false⟩

/-- Natural numbers of up to 53 bits are doubles. -/
theorem ofNat_eq_finite_of_le {n : Nat} (h : n ≤ 2 ^ 53) :
    ∃ hn, ofNat n = finite false (n * one) hn := by
  have hlargest : 2 ^ 53 * one < infiniteUnits := by decide +kernel
  exact ofNat_eq_finite (significant_of_le h) ((Nat.mul_le_mul_right one h).trans_lt hlargest)

/-- A natural number lies within a bound that is a number itself. -/
theorem within_ofNat {n : Nat} (hbound : Significant bound) (hfinite : bound * one < infiniteUnits)
    (h : n ≤ bound) : (ofNat n).Within (bound * one) :=
  within_ofUnits Nat.one_pos (significant_mul_one hbound) hfinite
    ((Nat.mul_le_mul_right one h).trans_eq (Nat.mul_one _).symm) false

/-- A positive natural number is at least one as a double, if it is not too large for one. -/
theorem ofNat_of_pos {n : Nat} (h : 0 < n) :
    ofNat n = infinity false ∨
      ∃ units hunits, one ≤ units ∧ ofNat n = finite false units hunits := by
  have hone : one ≤ nearestUnits (n * one) 1 := by
    refine le_nearestUnits Nat.one_pos significant_one ?_
    rw [Nat.mul_one]
    exact Nat.le_mul_of_pos_left _ h
  unfold ofNat ofInteger ofUnits
  split
  · rename_i hfinite
    exact .inr ⟨_, representable_nearestUnits hfinite, hone, rfl⟩
  · exact .inl rfl

theorem isZero_finite_iff {negative : Bool} {n : Nat} {h : Representable n} :
    (finite negative n h).isZero = true ↔ n = 0 := by
  have hcompare : compare (signedUnits negative n) (signedUnits false 0) = .eq ↔ n = 0 := by
    rw [compare_eq_iff_eq]
    cases negative <;> simp only [signedUnits, if_true, Bool.false_eq_true, if_false] <;> omega
  simp only [isZero, same, compare?, signedZero, beq_iff_eq, Option.some.injEq, hcompare]

theorem isZero_ofNat_iff {n : Nat} : (ofNat n).isZero = true ↔ n = 0 := by
  constructor
  · intro hzero
    by_contra hn
    rcases ofNat_of_pos (Nat.pos_of_ne_zero hn) with hinfinite | ⟨units, hunits, hone, hfinite⟩
    · rw [hinfinite] at hzero
      cases hzero
    · rw [hfinite, isZero_finite_iff] at hzero
      have hpos := one_pos
      omega
  · rintro rfl
    decide +kernel

/-- Zero stays zero when it is divided by a positive number. -/
theorem signedZero_div_ofNat (negative : Bool) {n : Nat} (h : 0 < n) :
    signedZero negative / ofNat n = signedZero negative := by
  rcases ofNat_of_pos h with hinfinite | ⟨units, hunits, hone, hfinite⟩
  · rw [hinfinite]
    exact congrArg signedZero (Bool.bne_false negative)
  · rw [hfinite, signedZero, div_finite _ _ _ _ (one_pos.trans_le hone), Nat.zero_mul,
      ofUnits_zero, Bool.bne_false]
    rfl

/-- A quotient by a natural number that is not zero is finite exactly if what is divided is. -/
theorem isFinite_div_ofNat (x : Double) {n : Nat} (h : 0 < n) :
    (x / ofNat n).isFinite = x.isFinite := by
  rcases ofNat_of_pos h with hinfinite | ⟨units, hunits, hone, hfinite⟩
  · rw [hinfinite]
    cases x <;> rfl
  · have hpos : 0 < units := one_pos.trans_le hone
    rw [hfinite]
    cases x with
    | nan => rfl
    | infinity s => rfl
    | finite s m hm =>
      rw [div_finite _ _ _ _ hpos]
      exact (within_ofUnits hpos hm.significant hm.1 (Nat.mul_le_mul_left m hone) _).isFinite

/-- A quotient by a natural number of up to 53 bits is rounded once. -/
theorem div_ofNat (negative : Bool) {m n : Nat} (hm : Representable m) (hn : n ≤ 2 ^ 53)
    (hpos : 0 < n) : finite negative m hm / ofNat n = ofUnits negative m n := by
  have hunits := Nat.mul_pos hpos one_pos
  have hratio : m * one * n = m * (n * one) := by ring
  obtain ⟨_, hn⟩ := ofNat_eq_finite_of_le hn
  rw [hn, div_finite _ _ _ _ hunits, Bool.bne_false]
  exact ofUnits_congr negative hunits hpos hratio

/-- Numbers of up to 53 bits are exact, so that only their quotient is rounded. -/
theorem ofNat_div_ofNat {m n : Nat} (hm : m ≤ 2 ^ 53) (hn : n ≤ 2 ^ 53) (hpos : 0 < n) :
    ofNat m / ofNat n = ofUnits false (m * one) n := by
  obtain ⟨hm, heq⟩ := ofNat_eq_finite_of_le hm
  rw [heq, div_ofNat false hm hn hpos]

/-- Nothing is divided by a count of zero. -/
theorem quotientOrZero_ofNat (x : Double) (n : Nat) :
    quotientOrZero x (ofNat n) = if n = 0 then signedZero false else x / ofNat n := by
  unfold quotientOrZero
  simp only [isZero_ofNat_iff]

/-- Dividing by a count does not lead out of the finite numbers. -/
theorem isFinite_quotientOrZero (n : Nat) (h : x.isFinite = true) :
    (quotientOrZero x (ofNat n)).isFinite = true := by
  rw [quotientOrZero_ofNat]
  split
  · rfl
  · rename_i hn
    rw [isFinite_div_ofNat x (Nat.pos_of_ne_zero hn)]
    exact h

/-- The larger of two numbers is one of them. -/
theorem max_eq_or (x y : Double) : x.max y = x ∨ x.max y = y := by
  unfold Double.max
  split_ifs <;> simp

/-- The smaller of two numbers is one of them. -/
theorem min_eq_or (x y : Double) : x.min y = x ∨ x.min y = y := by
  unfold Double.min
  split_ifs <;> simp

/-! ## Rounding to decimal places -/

/-- Two decimal places are kept by a factor of a hundred. Numbers that are finite after the rounding
were so after the multiplication, so that a hundredth of the largest double bounds them. -/
theorem within_roundTo_two (h : (x.roundTo 2).isFinite = true) (hbound : Significant bound)
    (hfinite : bound < infiniteUnits) (hhundred : infiniteUnits ≤ bound * 100) :
    (x.roundTo 2).Within bound := by
  have hscale : power 10 2 = ofNat 100 := by decide +kernel
  have hsignificant : Significant 100 := ⟨100, 0, by decide, rfl⟩
  have hlarge : 100 * one < infiniteUnits := by decide +kernel
  obtain ⟨hn, hofNat⟩ := ofNat_eq_finite hsignificant hlarge
  simp only [roundTo, hscale] at h ⊢
  generalize round (x * ofNat 100) = y at h ⊢
  rw [isFinite_div_ofNat y (by decide)] at h
  cases y with
  | nan => cases h
  | infinity s => cases h
  | finite s m hm =>
    have hpos : 0 < 100 * one := Nat.mul_pos (by decide) one_pos
    rw [hofNat, div_finite _ _ _ _ hpos]
    refine within_ofUnits hpos hbound hfinite ?_ _
    rw [← Nat.mul_assoc]
    exact Nat.mul_le_mul_right one (hm.1.le.trans hhundred)

end UpSetProse.Double
