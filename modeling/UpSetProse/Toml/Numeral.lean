import UpSetProse.Text.Characters
import UpSetProse.Toml.Basic

/-!
# Numbers, dates and times in TOML

These values are written in one run of letters, digits and signs, except that a date and a time may
have a space between them. A run is a value if one of the forms fits all of it.
-/

namespace UpSetProse.Toml

/-- Digits of a base with single underscores between some of them. -/
def isGrouped (base : Nat) : List Char → Bool
  | [] => false
  | [c] => Text.isDigitOf base c
  | c :: '_' :: rest => Text.isDigitOf base c && isGrouped base rest
  | c :: rest => Text.isDigitOf base c && isGrouped base rest

/-- The number that grouped digits write. -/
def grouped? (base : Nat) (run : List Char) : Option Nat :=
  if isGrouped base run then some (Text.natural base (run.filter (· != '_'))) else none

/-- A decimal number in which no zero leads. -/
def decimal? (run : List Char) : Option Nat :=
  if run.head? = some '0' ∧ run ≠ ['0'] then none else grouped? 10 run

/-- Whether a run begins with a minus sign, and the run without its sign. -/
def unsigned : List Char → Bool × List Char
  | '-' :: rest => (true, rest)
  | '+' :: rest => (false, rest)
  | run => (false, run)

/-- An integer that fits into 64 bits with a sign. -/
def inRange? (n : Int) : Option Int :=
  if Int64.minValue.toInt ≤ n ∧ n ≤ Int64.maxValue.toInt then some n else none

/-- An integer in decimal with an optional sign, or in one of three other bases without. -/
def integer? : List Char → Option Int
  | '0' :: 'x' :: run => (grouped? 16 run).bind fun n => inRange? n
  | '0' :: 'o' :: run => (grouped? 8 run).bind fun n => inRange? n
  | '0' :: 'b' :: run => (grouped? 2 run).bind fun n => inRange? n
  | run =>
    let (negative, run) := unsigned run
    (decimal? run).bind fun n => inRange? (if negative then -n else n)

/-- The digits behind a point, none if there is no point. -/
def places? : List Char → Option (List Char)
  | [] => some []
  | '.' :: run => if isGrouped 10 run then some (run.filter (· != '_')) else none
  | _ => none

/-- The power of ten behind a letter, zero if there is none. -/
def exponent? : List Char → Option Int
  | [] => some 0
  | _ :: run =>
    let (negative, run) := unsigned run
    (grouped? 10 run).map fun n => if negative then -n else n

/-- A number with a point or an exponent. -/
def fractional? (negative : Bool) (run : List Char) : Option Double := do
  let (mantissa, power) := run.span fun c => c != 'e' && c != 'E'
  let (whole, fraction) := mantissa.span (· != '.')
  if fraction.isEmpty && power.isEmpty then none
  let n ← decimal? whole
  let places ← places? fraction
  let exponent ← exponent? power
  let digits := n * Nat.pow 10 places.length + Text.natural 10 places
  return Decimal.toDouble negative ⟨digits, exponent - places.length⟩

/-- A float: a fractional number, an infinity or not-a-number. Only a minus sign lets a number
overflow. -/
def float? (run : List Char) : Option Double :=
  let (negative, run) := unsigned run
  if run = "inf".toList then some (.infinity negative)
  else if run = "nan".toList then some .nan
  else (fractional? negative run).filter fun x => x != .infinity false

/-- Two digits that write at most `limit`. -/
def pairUpTo (limit : Nat) (a b : Char) : Bool :=
  Text.isDigit a && Text.isDigit b && Text.natural 10 [a, b] ≤ limit

/-- The number of days of a month. -/
def daysOf (year month : Nat) : Nat :=
  if month = 2 then
    if year % 4 = 0 ∧ (year % 100 ≠ 0 ∨ year % 400 = 0) then 29 else 28
  else if month = 4 ∨ month = 6 ∨ month = 9 ∨ month = 11 then 30
  else 31

def isDate : List Char → Bool
  | [y₁, y₂, y₃, y₄, '-', m₁, m₂, '-', d₁, d₂] =>
    let month := Text.natural 10 [m₁, m₂]
    [y₁, y₂, y₃, y₄, d₁, d₂].all Text.isDigit && pairUpTo 12 m₁ m₂ && 1 ≤ month &&
      1 ≤ Text.natural 10 [d₁, d₂] &&
      Text.natural 10 [d₁, d₂] ≤ daysOf (Text.natural 10 [y₁, y₂, y₃, y₄]) month
  | _ => false

/-- What follows a time of day to the second and its decimal places. -/
def afterTime? : List Char → Option (List Char)
  | h₁ :: h₂ :: ':' :: m₁ :: m₂ :: ':' :: s₁ :: s₂ :: rest =>
    if pairUpTo 23 h₁ h₂ && pairUpTo 59 m₁ m₂ && pairUpTo 60 s₁ s₂ then
      match rest with
      | '.' :: places =>
        let (digits, rest) := places.span Text.isDigit
        if digits.isEmpty then none else some rest
      | rest => some rest
    else none
  | _ => none

/-- The distance from universal time, which may be left open. -/
def isOffset : List Char → Bool
  | [] => true
  | ['Z'] => true
  | ['z'] => true
  | [sign, h₁, h₂, ':', m₁, m₂] =>
    (sign == '+' || sign == '-') && pairUpTo 23 h₁ h₂ && pairUpTo 59 m₁ m₂
  | _ => false

/-- A time of day without an offset. -/
def isTime (run : List Char) : Bool := afterTime? run == some []

/-- A time of day that may have an offset. -/
def isOffsetTime (run : List Char) : Bool := (afterTime? run).any isOffset

/-- A date, a time, or both with a letter between them. -/
def isDateTime (run : List Char) : Bool :=
  isTime run || isDate run ||
    (isDate (run.take 10) &&
      match run.drop 10 with
      | 'T' :: time => isOffsetTime time
      | 't' :: time => isOffsetTime time
      | _ => false)

/-- The characters of which numbers, dates and times consist. -/
def isRunChar (c : Char) : Bool :=
  c.isAlphanum || c == '_' || c == '+' || c == '-' || c == '.' || c == ':'

/-- The value of a run. -/
def runValue? (run : List Char) : Option Toml :=
  if isDateTime run then some (.dateTime (String.ofList run))
  else (float? run).map .float <|> (integer? run).map .integer

/-- Whether a digit follows a single space. -/
def continuesTime : List Char → Bool
  | ' ' :: c :: _ => Text.isDigit c
  | _ => false

/-- Reads a number, a date or a time. -/
def readRun (cs : List Char) : Option (Toml × List Char) :=
  let (run, rest) := cs.span isRunChar
  if isDate run && continuesTime rest then
    let (time, rest) := (rest.drop 1).span isRunChar
    if isOffsetTime time then some (.dateTime (String.ofList (run ++ ' ' :: time)), rest) else none
  else (runValue? run).map fun value => (value, rest)

end UpSetProse.Toml
