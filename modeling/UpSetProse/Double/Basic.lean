import UpSetProse.Double.Rounding

/-!
# Binary64 numbers

A double is not a number, an infinity, or a signed whole number of units of `2 ^ (-1074)` with at
most 53 significant bits. Order and equality are those of the values, so the two zeros compare
equal and nothing compares with not-a-number.
-/

namespace UpSetProse

/-- A binary64 number; the representation is unique, and the two zeros differ in sign. -/
inductive Double where
  /-- Not a number. -/
  | nan
  /-- Plus or minus infinity. -/
  | infinity (negative : Bool)
  /-- A finite number whose magnitude is `units * 2 ^ (-1074)`. -/
  | finite (negative : Bool) (units : Nat) (representable : Representable units)
  deriving DecidableEq

namespace Double

/-- How many units make one. -/
def one : Nat := Nat.pow 2 unitScale

/-- Zero with the given sign. -/
def signedZero (negative : Bool) : Double := .finite negative 0 representable_zero

/-- The double nearest to `num / den` units, infinite when that is too large. -/
def ofUnits (negative : Bool) (num den : Nat) : Double :=
  if h : nearestUnits num den < infiniteUnits then
    .finite negative (nearestUnits num den) (representable_nearestUnits h)
  else .infinity negative

/-- The double nearest to a natural number with the given sign. -/
def ofInteger (negative : Bool) (n : Nat) : Double := ofUnits negative (n * one) 1

/-- The double nearest to a natural number. -/
def ofNat (n : Nat) : Double := ofInteger false n

instance (n : Nat) : OfNat Double n := ⟨ofNat n⟩

instance : Inhabited Double := ⟨signedZero false⟩

def isNaN : Double → Bool
  | nan => true
  | _ => false

def isFinite : Double → Bool
  | finite .. => true
  | _ => false

/-- The signed number of units of a finite double. -/
def signedUnits (negative : Bool) (units : Nat) : Int := if negative then -units else units

/-- The order of the values; not-a-number compares with nothing. -/
def compare? : Double → Double → Option Ordering
  | nan, _ => none
  | _, nan => none
  | infinity a, infinity b => some (compare (!a) (!b))
  | infinity a, finite .. => some (if a then .lt else .gt)
  | finite .., infinity b => some (if b then .gt else .lt)
  | finite a m _, finite b n _ => some (compare (signedUnits a m) (signedUnits b n))

/-- The order of the values with incomparable numbers counted as equal. -/
def order (x y : Double) : Ordering := (compare? x y).getD .eq

def lt (x y : Double) : Bool := compare? x y == some .lt

def le (x y : Double) : Bool := compare? x y == some .lt || compare? x y == some .eq

/-- Equality of the values: true for two zeros of either sign. -/
def same (x y : Double) : Bool := compare? x y == some .eq

def isZero (x : Double) : Bool := same x (signedZero false)

/-- The larger of two numbers; not-a-number gives way. Of two zeros it is the second, whatever their
signs. -/
def max (x y : Double) : Double :=
  if x.isNaN then y else if y.isNaN then x else if lt y x then x else y

/-- The smaller of two numbers; not-a-number gives way. Of two zeros it is the second, whatever
their signs. -/
def min (x y : Double) : Double :=
  if x.isNaN then y else if y.isNaN then x else if lt x y then x else y

end Double
end UpSetProse
