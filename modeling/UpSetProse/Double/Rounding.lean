/-!
# Rounding to a 53-bit significand

Magnitudes of doubles are counted in units of `2 ^ (-1074)`, the smallest positive double, so that
every finite double is a whole number of units. Rounding a quotient keeps its 53 leading binary
digits and goes to the nearest such number, a tie to the even one. The closing statement is that
every rounded quotient has at most 53 significant bits. Powers are spelled `Nat.pow`, which no other
notion of power can take the place of.
-/

namespace UpSetProse

/-- The number of binary digits of a natural number, none for zero. -/
def bitLength (n : Nat) : Nat := if n = 0 then 0 else n.log2 + 1

theorem lt_two_pow_bitLength (n : Nat) : n < Nat.pow 2 (bitLength n) := by
  unfold bitLength
  split
  · rename_i hzero
    rw [hzero]
    decide
  · exact Nat.lt_log2_self

/-- The quotient rounded to the nearest natural number, a half going to the even neighbour. -/
def roundQuotient (num den : Nat) : Nat :=
  let whole := num / den
  let rest := num % den
  if 2 * rest < den then whole
  else if den < 2 * rest then whole + 1
  else whole + whole % 2

theorem roundQuotient_le (num den : Nat) : roundQuotient num den ≤ num / den + 1 := by
  unfold roundQuotient
  have := Nat.mod_two_eq_zero_or_one (num / den)
  dsimp only
  split
  · omega
  · split <;> omega

/-- The nearest number with at most 53 significant bits to a quotient. -/
def nearestUnits (num den : Nat) : Nat :=
  let dropped := bitLength (num / den) - 53
  roundQuotient num (den * Nat.pow 2 dropped) * Nat.pow 2 dropped

/-- One is two to this power of units. -/
def unitScale : Nat := 1074

/-- The least number of units too large for a finite double. -/
def infiniteUnits : Nat := Nat.pow 2 (unitScale + 1024)

/-- A whole number of units that some finite double has as its magnitude. -/
def Representable (units : Nat) : Prop :=
  units < infiniteUnits ∧
    ∃ significand shift, significand < Nat.pow 2 53 ∧ units = significand * Nat.pow 2 shift

theorem nearestUnits_significand (num den : Nat) :
    ∃ significand shift, significand < Nat.pow 2 53 ∧
      nearestUnits num den = significand * Nat.pow 2 shift := by
  unfold nearestUnits
  dsimp only
  generalize hd : bitLength (num / den) - 53 = dropped
  have hbound : num / (den * Nat.pow 2 dropped) < Nat.pow 2 53 := by
    rw [← Nat.div_div_eq_div_mul]
    apply Nat.div_lt_of_lt_mul
    rw [Nat.pow_eq, Nat.pow_eq, ← Nat.pow_add]
    exact Nat.lt_of_lt_of_le (lt_two_pow_bitLength _)
      (Nat.pow_le_pow_right (by decide) (by omega))
  have hround := roundQuotient_le num (den * Nat.pow 2 dropped)
  by_cases hcarry : roundQuotient num (den * Nat.pow 2 dropped) < Nat.pow 2 53
  · exact ⟨_, dropped, hcarry, rfl⟩
  · have hexact : roundQuotient num (den * Nat.pow 2 dropped) = Nat.pow 2 53 := by omega
    exact ⟨1, 53 + dropped, by decide, by rw [hexact, Nat.one_mul]; exact (Nat.pow_add 2 53 _).symm⟩

theorem representable_nearestUnits {num den : Nat} (h : nearestUnits num den < infiniteUnits) :
    Representable (nearestUnits num den) :=
  ⟨h, nearestUnits_significand num den⟩

theorem representable_zero : Representable 0 :=
  ⟨by decide +kernel, 0, 0, by decide, rfl⟩

/-- The square root rounded down, found digit by digit in base four. -/
def squareRootDigits : (digits : Nat) → Nat → Nat
  | 0, _ => 0
  | digits + 1, n =>
    let root := 2 * squareRootDigits digits (n / 4)
    if (root + 1) * (root + 1) ≤ n then root + 1 else root

/-- The square root rounded down. -/
def squareRoot (n : Nat) : Nat := squareRootDigits (bitLength n) n

/-- The nearest number with at most 53 significant bits to the square root of `n`. -/
def nearestRootUnits (n : Nat) : Nat :=
  let dropped := bitLength (squareRoot n) - 53
  let root := squareRoot (n / Nat.pow 4 dropped)
  let middle := (2 * root + 1) * (2 * root + 1) * Nat.pow 4 dropped
  let rounded :=
    if 4 * n < middle then root
    else if middle < 4 * n then root + 1
    else root + root % 2
  rounded * Nat.pow 2 dropped

end UpSetProse
