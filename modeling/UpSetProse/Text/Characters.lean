/-!
# Classes of characters

Classes of characters and case mappings are tables of spans: code points from a first to a last one
at a fixed step, all of them in the class, or all of them shifted by the same amount. Texts are
trimmed and cut into words at white space, and digits are read as the numbers that they write.
-/

namespace UpSetProse

/-! ## Spans of code points -/

/-- The code points `first`, `first + step`, … up to `last`. -/
structure CodeSpan where
  first : Nat
  last : Nat
  step : Nat
  deriving DecidableEq, Repr

namespace CodeSpan

def contains (s : CodeSpan) (code : Nat) : Bool :=
  s.first ≤ code && code ≤ s.last && (code - s.first) % s.step == 0

/-- Whether some span of a table holds the character. -/
def holds (table : List CodeSpan) (c : Char) : Bool := table.any (·.contains c.toNat)

end CodeSpan

/-- The code points of a span, each mapped to the one `shift` places further. -/
structure CodeShift extends CodeSpan where
  shift : Int
  deriving DecidableEq, Repr

namespace CodeShift

/-- The image of a character under the first span of a table that holds it. -/
def find? (table : List CodeShift) (c : Char) : Option Char :=
  (table.find? (·.contains c.toNat)).map fun s => Char.ofNat ((c.toNat : Int) + s.shift).toNat

end CodeShift

namespace Text

/-! ## White space -/

/-- The characters with the property `White_Space`. -/
def blankSpans : List CodeSpan :=
  [⟨0x9, 0xD, 1⟩, ⟨0x20, 0x20, 1⟩, ⟨0x85, 0x85, 1⟩, ⟨0xA0, 0xA0, 1⟩, ⟨0x1680, 0x1680, 1⟩,
   ⟨0x2000, 0x200A, 1⟩, ⟨0x2028, 0x2029, 1⟩, ⟨0x202F, 0x202F, 1⟩, ⟨0x205F, 0x205F, 1⟩,
   ⟨0x3000, 0x3000, 1⟩]

def isBlank (c : Char) : Bool := CodeSpan.holds blankSpans c

/-- Drops white space at both ends. -/
def trim (text : List Char) : List Char :=
  ((text.dropWhile isBlank).reverse.dropWhile isBlank).reverse

/-- The words of a text that continues a word begun before it, which is given reversed. -/
def wordsAfter : (begun : List Char) → (text : List Char) → List (List Char)
  | begun, [] => if begun.isEmpty then [] else [begun.reverse]
  | begun, c :: rest =>
    if isBlank c then
      if begun.isEmpty then wordsAfter [] rest else begun.reverse :: wordsAfter [] rest
    else wordsAfter (c :: begun) rest

/-- The longest runs without white space, in order. -/
def words (text : List Char) : List (List Char) := wordsAfter [] text

/-! ## Numerals, with digits in bases up to sixteen -/

/-- The value of an ASCII digit or letter, counting letters of either case from ten on. -/
def digitValue? (c : Char) : Option Nat :=
  if '0' ≤ c ∧ c ≤ '9' then some (c.toNat - '0'.toNat)
  else if 'a' ≤ c ∧ c ≤ 'z' then some (c.toNat - 'a'.toNat + 10)
  else if 'A' ≤ c ∧ c ≤ 'Z' then some (c.toNat - 'A'.toNat + 10)
  else none

/-- Whether a character is a digit of a base. -/
def isDigitOf (base : Nat) (c : Char) : Bool := (digitValue? c).any (· < base)

/-- Whether a character is a decimal digit. -/
def isDigit (c : Char) : Bool := isDigitOf 10 c

/-- The number that digits write, the first one being the most significant. -/
def natural (base : Nat) (digits : List Char) : Nat :=
  digits.foldl (fun n c => n * base + (digitValue? c).getD 0) 0

/-- The number written by one or more decimal digits and nothing else. -/
def natural? (digits : List Char) : Option Nat :=
  if digits ≠ [] ∧ digits.all isDigit then some (natural 10 digits) else none

end Text
end UpSetProse
