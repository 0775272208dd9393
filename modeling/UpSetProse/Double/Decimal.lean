import UpSetProse.Double.Basic

/-!
# Doubles as decimal numerals

A numeral is read as the double nearest to its exact value. A double is written with the fewest
decimal digits that read back as the same double; of two such numerals the nearer one is taken, and
a tie goes to the larger.
-/

namespace UpSetProse

/-- The magnitude `digits * 10 ^ exponent`. -/
structure Decimal where
  digits : Nat
  exponent : Int
  deriving DecidableEq, Repr

namespace Decimal

/-- The exact value in units, as a quotient. -/
def unitQuotient (d : Decimal) : Nat × Nat :=
  if 0 ≤ d.exponent then (d.digits * Nat.pow 10 d.exponent.toNat * Double.one, 1)
  else (d.digits * Double.one, Nat.pow 10 (-d.exponent).toNat)

/-- A numeral above every finite double, whatever its digits. -/
def isHuge (d : Decimal) : Bool := d.digits != 0 && 400 < d.exponent

/-- A numeral below half of the smallest positive double, as `digits < 10 ^ bitLength digits`. -/
def isTiny (d : Decimal) : Bool := d.digits == 0 || d.exponent < -400 - bitLength d.digits

/-- The double nearest to a numeral; the extremes are settled without writing out the power. -/
def toDouble (negative : Bool) (d : Decimal) : Double :=
  if d.isTiny then .signedZero negative
  else if d.isHuge then .infinity negative
  else .ofUnits negative d.unitQuotient.1 d.unitQuotient.2

/-- Whether the numeral is nearest to the double of that many units. -/
def readsBack (units : Nat) (d : Decimal) : Bool :=
  nearestUnits d.unitQuotient.1 d.unitQuotient.2 == units

/-- How many decimal digits a natural number is written with. -/
def digitCount (n : Nat) : Nat := (Nat.toDigits 10 n).length

/-- The power of ten at the leading digit of a positive number of units. -/
def leadingPlace (units : Nat) : Int :=
  if Double.one ≤ units then digitCount (units / Double.one) - 1
  else -digitCount ((Double.one - 1) / units)

/-- The number of units as whole steps of `10 ^ place`, the rest, and what the rest is a part of. -/
def onGrid (units : Nat) (place : Int) : Nat × Nat × Nat :=
  if 0 ≤ place then
    let step := Double.one * Nat.pow 10 place.toNat
    (units / step, units % step, step)
  else
    let scaled := units * Nat.pow 10 (-place).toNat
    (scaled / Double.one, scaled % Double.one, Double.one)

/-- The nearer of the two neighbours on the grid of `10 ^ place` that read back. -/
def onGrid? (units : Nat) (place : Int) : Option Decimal :=
  let (whole, rest, step) := onGrid units place
  let below : Decimal := ⟨whole, place⟩
  let above : Decimal := ⟨whole + 1, place⟩
  match readsBack units below, readsBack units above with
  | true, true => some (if 2 * rest < step then below else above)
  | true, false => some below
  | false, true => some above
  | false, false => none

/-- Moves trailing zeros of the digits into the exponent, at most `limit` of them. -/
def dropZeros : (limit : Nat) → Decimal → Decimal
  | 0, d => d
  | limit + 1, d =>
    if d.digits % 10 = 0 then dropZeros limit ⟨d.digits / 10, d.exponent + 1⟩ else d

/-- The numeral with the fewest digits that reads back; seventeen digits always do. -/
def shortest (units : Nat) : Decimal :=
  let places := (List.range 17).map fun (n : Nat) => leadingPlace units - n
  let found := places.findSome? (onGrid? units)
  dropZeros 17 (found.getD ⟨(onGrid units (leadingPlace units - 16)).1, leadingPlace units - 16⟩)

/-- The numeral written out without an exponent. -/
def positional (d : Decimal) : List Char :=
  let written := Nat.toDigits 10 d.digits
  if 0 ≤ d.exponent then written ++ List.replicate d.exponent.toNat '0'
  else
    let places := (-d.exponent).toNat
    let padded := List.replicate (places + 1 - written.length) '0' ++ written
    padded.take (padded.length - places) ++ '.' :: padded.drop (padded.length - places)

end Decimal

namespace Double

/-- The sign of a negative number. -/
def signText (negative : Bool) : String := if negative then "-" else ""

/-- The shortest text that reads back as the same double, never with an exponent. -/
def toText : Double → String
  | nan => "NaN"
  | infinity s => signText s ++ "inf"
  | finite s n _ =>
    signText s ++ (if n = 0 then "0" else String.ofList (Decimal.shortest n).positional)

instance : ToString Double := ⟨toText⟩

instance : Repr Double := ⟨fun x _ => toText x⟩

end Double
end UpSetProse
