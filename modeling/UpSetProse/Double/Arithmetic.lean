import UpSetProse.Double.Basic

/-!
# Arithmetic on binary64 numbers

Every operation forms the exact result in units and rounds it once. Sums of opposite numbers are
`+0`, products and quotients take the sign of both operands, and an undefined result is
not-a-number.
-/

namespace UpSetProse.Double

def neg : Double → Double
  | nan => nan
  | infinity s => infinity (!s)
  | finite s n h => finite (!s) n h

def abs : Double → Double
  | nan => nan
  | infinity _ => infinity false
  | finite _ n h => finite false n h

def add : Double → Double → Double
  | nan, _ => nan
  | _, nan => nan
  | infinity a, infinity b => if a = b then infinity a else nan
  | infinity a, finite .. => infinity a
  | finite .., infinity b => infinity b
  | finite a m _, finite b n _ =>
    let total := signedUnits a m + signedUnits b n
    if total = 0 then signedZero (a && b) else ofUnits (total < 0) total.natAbs 1

def sub (x y : Double) : Double := add x (neg y)

def mul : Double → Double → Double
  | nan, _ => nan
  | _, nan => nan
  | infinity a, infinity b => infinity (a != b)
  | infinity a, finite b n _ => if n = 0 then nan else infinity (a != b)
  | finite a m _, infinity b => if m = 0 then nan else infinity (a != b)
  | finite a m _, finite b n _ => ofUnits (a != b) (m * n) one

def div : Double → Double → Double
  | nan, _ => nan
  | _, nan => nan
  | infinity _, infinity _ => nan
  | infinity a, finite b _ _ => infinity (a != b)
  | finite a _ _, infinity b => signedZero (a != b)
  | finite a m _, finite b n _ =>
    if n = 0 then (if m = 0 then nan else infinity (a != b))
    else ofUnits (a != b) (m * one) n

/-- The square root, not-a-number for a negative number other than `-0`. -/
def sqrt : Double → Double
  | nan => nan
  | infinity s => if s then nan else infinity false
  | finite s n h =>
    if n = 0 then finite s n h
    else if s then nan
    else ofUnits false (nearestRootUnits (n * one)) 1

instance : Neg Double := ⟨neg⟩
instance : Add Double := ⟨add⟩
instance : Sub Double := ⟨sub⟩
instance : Mul Double := ⟨mul⟩
instance : Div Double := ⟨div⟩

/-- Applies a rounding of the magnitude, given its whole part and the units beyond it. -/
def toWhole (round : (negative : Bool) → (whole rest : Nat) → Nat) : Double → Double
  | finite s n _ => ofInteger s (round s (n / one) (n % one))
  | x => x

/-- The largest whole number that is not larger. -/
def floor : Double → Double :=
  toWhole fun negative whole rest => if negative && rest != 0 then whole + 1 else whole

/-- The smallest whole number that is not smaller. -/
def ceil : Double → Double :=
  toWhole fun negative whole rest => if !negative && rest != 0 then whole + 1 else whole

/-- The whole number next to it towards zero. -/
def truncate : Double → Double := toWhole fun _ whole _ => whole

/-- The nearest whole number, a half going away from zero. -/
def round : Double → Double :=
  toWhole fun _ whole rest => if one ≤ 2 * rest then whole + 1 else whole

/-- What truncation leaves over; not-a-number for an infinity. -/
def fract (x : Double) : Double := x - truncate x

/-- The whole part as a natural number below `limit`, with everything else brought to an end. -/
def toNatSaturating (limit : Nat) : Double → Nat
  | nan => 0
  | infinity s => if s then 0 else limit - 1
  | finite s n _ => if s then 0 else Nat.min (n / one) (limit - 1)

/-- A power by repeated squaring, with `steps` bounding the binary digits of the exponent. -/
def powerSteps : (steps : Nat) → (base result : Double) → (exponent : Nat) → Double
  | 0, _, result, _ => result
  | steps + 1, base, result, exponent =>
    let result := if exponent % 2 = 1 then result * base else result
    if exponent / 2 = 0 then result else powerSteps steps (base * base) result (exponent / 2)

/-- An integer power; a negative exponent takes the reciprocal of the positive power. -/
def power (base : Double) (exponent : Int) : Double :=
  let positive := powerSteps (bitLength exponent.natAbs + 1) base 1 exponent.natAbs
  if exponent < 0 then 1 / positive else positive

/-- Rounds to `places` decimal places, a half going away from zero. -/
def roundTo (x : Double) (places : Int) : Double :=
  let scale := power 10 places
  round (x * scale) / scale

/-- A quotient, or zero when the denominator is zero. -/
def quotientOrZero (num den : Double) : Double := if den.isZero then signedZero false else num / den

/-- The sum of a list from the left, starting with zero. -/
def sum (xs : List Double) : Double := xs.foldl (· + ·) 0

end UpSetProse.Double
