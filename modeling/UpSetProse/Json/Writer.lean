import UpSetProse.Json.Basic

/-!
# Writing JSON documents

Values are written without white space and in ASCII. In strings, quotation marks and backslashes are
escaped, and control characters and all beyond ASCII are written as the codes of their units of 16
bits. A string without a text is written as an empty one.
-/

namespace UpSetProse.Json

/-- The escape of a unit in four digits of base sixteen. -/
def escapeUnit (code : Nat) : List Char :=
  let digits := Nat.toDigits 16 code
  '\\' :: 'u' :: (List.replicate (4 - digits.length) '0' ++ digits)

/-- The units of 16 bits of a code point, two for a code point that one does not hold. -/
def units (code : Nat) : List Nat :=
  if code < 0x10000 then [code]
  else [0xD800 + (code - 0x10000) / 0x400, 0xDC00 + (code - 0x10000) % 0x400]

/-- A character as it stands in a string. -/
def escapeChar (c : Char) : List Char :=
  if c = '"' then ['\\', '"']
  else if c = '\\' then ['\\', '\\']
  else if 0x20 ≤ c.toNat ∧ c.toNat < 0x7F then [c]
  else (units c.toNat).flatMap escapeUnit

/-- A text between quotation marks. -/
def writeText (text : String) : String :=
  String.ofList ('"' :: text.toList.flatMap escapeChar ++ ['"'])

/-- A string, empty if it has no text. -/
def writeString (text : JsonText) : String := writeText (text.getD "")

def writeNumber (n : JsonNumber) : String :=
  (if n.negative then "-" else "") ++ toString n.magnitude.digits ++
    if n.isInteger then "" else "e" ++ toString n.magnitude.exponent

mutual

/-- The document of a value. -/
def write : Json → String
  | null => "null"
  | bool value => if value then "true" else "false"
  | number value => writeNumber value
  | string text => writeString text
  | array items => "[" ++ ",".intercalate (writeItems items) ++ "]"
  | object members => "\x7b" ++ ",".intercalate (writeMembers members) ++ "\x7d"

def writeItems : List Json → List String
  | [] => []
  | item :: rest => write item :: writeItems rest

def writeMembers : List (JsonText × Json) → List String
  | [] => []
  | (name, value) :: rest => (writeString name ++ ":" ++ write value) :: writeMembers rest

end

end UpSetProse.Json
