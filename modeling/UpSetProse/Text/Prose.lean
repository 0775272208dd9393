import UpSetProse.Double.Arithmetic
import UpSetProse.Double.Decimal

/-!
# What prose is composed of

Items are listed as `a`, `a and b`, `a, b and c`, and a noun takes its singular after the number
one. Figures have at most two decimal places, and whole ones show one zero place; halves are rounded
away from zero. Text from outside is kept from being read as a template: line breaks become spaces,
and each pair of equal brackets is split by a space. Pairs are taken from the left and do not
overlap, one kind of bracket after the other.
-/

namespace UpSetProse.Text

/-! ## Enumerations and counted nouns -/

/-- Appends the items after the first, with commas between them and a conjunction before the last
one. -/
def joinAfter (first : String) : List String → String
  | [] => first
  | [last] => first ++ " and " ++ last
  | second :: rest => first ++ ", " ++ joinAfter second rest

/-- Lists items as prose. -/
def joinList : List String → String
  | [] => ""
  | first :: rest => joinAfter first rest

/-- A number followed by the noun in the form that fits it. -/
def countNoun (count : Nat) (singular plural : String) : String :=
  toString count ++ " " ++ (if count = 1 then singular else plural)

/-! ## Figures -/

/-- The number of decimal places that figures and deviations keep. -/
def decimalPlaces : Int := 2

/-- A whole number written in full with one zero place; other numbers in their shortest form. -/
def plainFigure : Double → String
  | .finite negative units h =>
    if units % Double.one = 0 then
      Double.signText negative ++ toString (units / Double.one) ++ ".0"
    else (Double.finite negative units h).toText
  | x => x.toText

/-- A number rounded to two decimal places. -/
def figure (x : Double) : String := plainFigure (x.roundTo decimalPlaces)

/-- A part as a percentage of a whole; nothing is a share of zero. -/
def percent (part whole : Double) : String :=
  figure (if whole.isZero then 0 else 100 * part / whole) ++ "%"

/-! ## Text that holds no markers -/

/-- The brackets whose pairs mark template symbols, in the order in which they are split. -/
def markerBrackets : List Char := ['\x7b', '\x7d', '[', ']']

/-- Puts a space between the two characters of every pair of `bracket`, read from the left. -/
def splitPairs (bracket : Char) : List Char → List Char
  | a :: b :: rest =>
    if a = bracket ∧ b = bracket then a :: ' ' :: b :: splitPairs bracket rest
    else a :: splitPairs bracket (b :: rest)
  | rest => rest

/-- A carriage return or line feed becomes a space. -/
def flattenBreak (c : Char) : Char := if c = '\r' ∨ c = '\n' then ' ' else c

/-- Takes line breaks and doubled brackets out of a text without losing a visible character. -/
def sanitizeChars (text : List Char) : List Char :=
  markerBrackets.foldl (fun t bracket => splitPairs bracket t) (text.map flattenBreak)

/-- Takes line breaks and doubled brackets out of a text without losing a visible character. -/
def sanitize (text : String) : String := String.ofList (sanitizeChars text.toList)

end UpSetProse.Text
