import UpSetProse.Double.Decimal

/-!
# JSON values

Values as they are written: an object keeps its members in order, also those of one name, and a
number keeps its numeral. Escapes can give a string half of a surrogate pair; such a string has no
text, and where its text is needed it is refused.
-/

namespace UpSetProse

/-- The text of a string, if its escapes give one. -/
abbrev JsonText := Option String

/-- A numeral: a sign, a magnitude, and whether it has neither a point nor an exponent. -/
structure JsonNumber where
  negative : Bool
  magnitude : Decimal
  isInteger : Bool
  deriving DecidableEq, Repr

inductive Json where
  | null
  | bool (value : Bool)
  | number (value : JsonNumber)
  | string (text : JsonText)
  | array (items : List Json)
  | object (members : List (JsonText × Json))

namespace Json

/-- A string with a text. -/
def text (t : String) : Json := .string (some t)

/-- A natural number. -/
def natural (n : Nat) : Json := .number ⟨false, ⟨n, 0⟩, true⟩

/-- An integer. -/
def integer (n : Int) : Json := .number ⟨decide (n < 0), ⟨n.natAbs, 0⟩, true⟩

/-- An object whose names all have a text. -/
def record (members : List (String × Json)) : Json :=
  .object (members.map fun (name, value) => (some name, value))

end Json
end UpSetProse
