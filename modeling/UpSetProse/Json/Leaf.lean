import UpSetProse.Json.Basic
import UpSetProse.Text.Characters

/-!
# Reading the leaves of a JSON document

Strings, with their escapes joined to characters, and numerals. A reader takes what it needs from
the front of a text and gives back the rest.
-/

namespace UpSetProse.Json

/-- A piece of a string: a character, or an escaped unit of 16 bits. -/
inductive StringPiece where
  | char (c : Char)
  | unit (code : Nat)
  deriving DecidableEq, Repr

/-- The characters that an escape of one letter stands for. -/
def escaped? : Char → Option Char
  | '"' => some '"'
  | '\\' => some '\\'
  | '/' => some '/'
  | 'b' => some '\x08'
  | 'f' => some '\x0c'
  | 'n' => some '\n'
  | 'r' => some '\r'
  | 't' => some '\t'
  | _ => none

/-- The code of an escape with digits in base sixteen. -/
def unit? (digits : List Char) : Option Nat :=
  if digits.all (Text.isDigitOf 16) then some (Text.natural 16 digits) else none

/-- Reads a string up to and with its closing quotation mark. -/
def readPieces : List Char → Option (List StringPiece × List Char)
  | [] => none
  | '"' :: rest => some ([], rest)
  | '\\' :: 'u' :: a :: b :: c :: d :: rest => do
    let code ← unit? [a, b, c, d]
    let (pieces, rest) ← readPieces rest
    return (.unit code :: pieces, rest)
  | '\\' :: letter :: rest => do
    let c ← escaped? letter
    let (pieces, rest) ← readPieces rest
    return (.char c :: pieces, rest)
  | c :: rest => do
    if c.toNat < 0x20 || c == '\\' then none
    let (pieces, rest) ← readPieces rest
    return (.char c :: pieces, rest)

def isHighSurrogate (code : Nat) : Bool := 0xD800 ≤ code && code < 0xDC00

def isLowSurrogate (code : Nat) : Bool := 0xDC00 ≤ code && code < 0xE000

/-- The character that a surrogate pair stands for. -/
def paired (high low : Nat) : Char :=
  Char.ofNat (0x10000 + (high - 0xD800) * 0x400 + (low - 0xDC00))

/-- The characters of a string; none if a surrogate has no partner. -/
def joinPieces : List StringPiece → Option (List Char)
  | [] => some []
  | .char c :: rest => (joinPieces rest).map (c :: ·)
  | .unit code :: rest =>
    if isHighSurrogate code then
      match rest with
      | .unit low :: rest =>
        if isLowSurrogate low then (joinPieces rest).map (paired code low :: ·) else none
      | _ => none
    else if isLowSurrogate code then none
    else (joinPieces rest).map (Char.ofNat code :: ·)

/-- Reads a string after its opening quotation mark. -/
def readString (cs : List Char) : Option (JsonText × List Char) :=
  (readPieces cs).map fun (pieces, rest) => ((joinPieces pieces).map String.ofList, rest)

/-- Reads one or more digits. -/
def readDigits (cs : List Char) : Option (List Char × List Char) :=
  let (digits, rest) := cs.span Text.isDigit
  if digits.isEmpty then none else some (digits, rest)

/-- Reads the whole part of a numeral, in which no zero leads. -/
def readWhole : List Char → Option (List Char × List Char)
  | '0' :: rest => some (['0'], rest)
  | cs => readDigits cs

/-- Reads the decimal places of a numeral, if there are any. -/
def readFraction : List Char → Option (List Char × List Char)
  | '.' :: rest => readDigits rest
  | cs => some ([], cs)

/-- Reads digits with an optional sign. -/
def readSigned : List Char → Option (Int × List Char)
  | '-' :: rest => (readDigits rest).map fun (digits, rest) => (-Text.natural 10 digits, rest)
  | '+' :: rest => (readDigits rest).map fun (digits, rest) => (Text.natural 10 digits, rest)
  | cs => (readDigits cs).map fun (digits, rest) => (Text.natural 10 digits, rest)

/-- Reads the exponent of a numeral, if there is one. -/
def readExponent : List Char → Option (Option Int × List Char)
  | 'e' :: rest => (readSigned rest).map fun (exponent, rest) => (some exponent, rest)
  | 'E' :: rest => (readSigned rest).map fun (exponent, rest) => (some exponent, rest)
  | cs => some (none, cs)

/-- Reads a numeral without its sign. -/
def readMagnitude (negative : Bool) (cs : List Char) : Option (JsonNumber × List Char) := do
  let (whole, rest) ← readWhole cs
  let (places, rest) ← readFraction rest
  let (exponent, rest) ← readExponent rest
  let magnitude : Decimal :=
    ⟨Text.natural 10 (whole ++ places), exponent.getD 0 - places.length⟩
  return (⟨negative, magnitude, places.isEmpty && exponent.isNone⟩, rest)

/-- Reads a numeral. -/
def readNumber : List Char → Option (JsonNumber × List Char)
  | '-' :: rest => readMagnitude true rest
  | cs => readMagnitude false cs

end UpSetProse.Json
