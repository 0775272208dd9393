import UpSetProse.Toml.Document
import UpSetProse.Toml.Numeral
import UpSetProse.Toml.Text

/-!
# Reading TOML documents

A document is read into statements, from which its entries are built. The readers of values call
each other within a number of steps, of which a document never needs more than two for each of its
characters, and within the number of levels to which values may be nested.
-/

namespace UpSetProse.Toml

/-- How deep values may be nested, and of how many parts a key may consist. -/
def maxLevels : Nat := 79

def skipSpace (cs : List Char) : List Char := cs.dropWhile isSpace

/-- The rest behind a line break. -/
def lineBreak? : List Char → Option (List Char)
  | '\n' :: rest => some rest
  | '\r' :: '\n' :: rest => some rest
  | _ => none

/-- The text behind a comment, if there is one. -/
def skipComment : List Char → List Char
  | '#' :: rest => rest.dropWhile isPlain
  | cs => cs

/-- Ends a line, which may hold a comment and may be the last one. -/
def finishLine (cs : List Char) : Option (List Char) :=
  match skipComment (skipSpace cs) with
  | [] => some []
  | rest => lineBreak? rest

/-- Skips white space, line breaks and comments between the items of an array. -/
def skipGap (comment : Bool) : List Char → Option (List Char)
  | [] => if comment then none else some []
  | '\n' :: rest => skipGap false rest
  | '\r' :: '\n' :: rest => skipGap false rest
  | c :: rest =>
    if comment then if isPlain c then skipGap true rest else none
    else if isSpace c then skipGap false rest
    else if c == '#' then skipGap true rest
    else some (c :: rest)

def isBareKeyChar (c : Char) : Bool := c.isAlphanum || c == '_' || c == '-'

/-- Reads one part of a key with white space around it. -/
def readKeyPart (cs : List Char) : Option (String × List Char) :=
  let cs := skipSpace cs
  let (bare, rest) := cs.span isBareKeyChar
  if bare.isEmpty then
    (readLine cs).map fun (text, rest) => (String.ofList text, skipSpace rest)
  else some (String.ofList bare, skipSpace rest)

/-- Reads a key of at most as many parts, with points between them. -/
def readKeyParts : (parts : Nat) → List Char → Option (Place × List Char)
  | 0, _ => none
  | parts + 1, cs => do
    let (first, rest) ← readKeyPart cs
    match rest with
    | '.' :: rest =>
      let (place, rest) ← readKeyParts parts rest
      return ({ place with path := first :: place.path }, rest)
    | rest => return (⟨[], first⟩, rest)

/-- Reads a key. -/
def readKey (cs : List Char) : Option (Place × List Char) := readKeyParts maxLevels cs

/-- Reads a key and the equals sign after it. -/
def readKeyEquals (cs : List Char) : Option (Place × List Char) := do
  let (place, rest) ← readKey cs
  match rest with
  | '=' :: rest => return (place, skipSpace rest)
  | _ => none

mutual

/-- Reads a value. -/
def readValue : (steps levels : Nat) → List Char → Option (Toml × List Char)
  | 0, _, _ => none
  | steps + 1, levels, cs =>
    match cs with
    | 't' :: 'r' :: 'u' :: 'e' :: rest => some (.boolean true, rest)
    | 'f' :: 'a' :: 'l' :: 's' :: 'e' :: rest => some (.boolean false, rest)
    | '[' :: rest =>
      match levels with
      | 0 => none
      | levels + 1 => (readItems steps levels rest).map fun (items, rest) => (.array items, rest)
    | '\x7b' :: rest =>
      match levels with
      | 0 => none
      | levels + 1 => do
        let (assignments, rest) ← readAssignments steps levels rest
        let entries ← assignAll assignments []
        return (.table .inline entries, rest)
    | '"' :: _ => (readString cs).map fun (text, rest) => (.string (String.ofList text), rest)
    | '\'' :: _ => (readString cs).map fun (text, rest) => (.string (String.ofList text), rest)
    | cs => readRun cs

/-- Reads the items of an array up to and with its closing bracket; a comma may follow the last. -/
def readItems : (steps levels : Nat) → List Char → Option (List Toml × List Char)
  | 0, _, _ => none
  | steps + 1, levels, cs => do
    match ← skipGap false cs with
    | ']' :: rest => return ([], rest)
    | cs =>
      let (item, rest) ← readValue steps levels cs
      match ← skipGap false rest with
      | ']' :: rest => return ([item], rest)
      | ',' :: rest =>
        let (items, rest) ← readItems steps levels rest
        return (item :: items, rest)
      | _ => none

/-- Reads the assignments of a table on one line up to and with its closing brace. -/
def readAssignments : (steps levels : Nat) → List Char →
    Option (List (Place × Toml) × List Char)
  | 0, _, _ => none
  | steps + 1, levels, cs =>
    match skipSpace cs with
    | '\x7d' :: rest => some ([], rest)
    | cs => readFurther steps levels cs

/-- Reads one or more assignments of a table on one line. -/
def readFurther : (steps levels : Nat) → List Char → Option (List (Place × Toml) × List Char)
  | 0, _, _ => none
  | steps + 1, levels, cs => do
    let (place, rest) ← readKeyEquals cs
    let (value, rest) ← readValue steps levels rest
    match skipSpace rest with
    | '\x7d' :: rest => return ([(place, value)], rest)
    | ',' :: rest =>
      let (assignments, rest) ← readFurther steps levels rest
      return ((place, value) :: assignments, rest)
    | _ => none

end

/-- Reads the header of a table after its opening bracket. -/
def readHeader (cs : List Char) : Option (Statement × List Char) :=
  match cs with
  | '[' :: cs => do
    let (place, rest) ← readKey cs
    match rest with
    | ']' :: ']' :: rest => return (.appendTable place, rest)
    | _ => none
  | cs => do
    let (place, rest) ← readKey cs
    match rest with
    | ']' :: rest => return (.openTable place, rest)
    | _ => none

/-- Reads a statement. -/
def readStatement (steps : Nat) (cs : List Char) : Option (Statement × List Char) :=
  match cs with
  | '[' :: rest => readHeader rest
  | cs => do
    let (place, rest) ← readKeyEquals cs
    let (value, rest) ← readValue steps maxLevels rest
    return (.assign place value, rest)

/-- Whether there is nothing on a line but white space and a comment. -/
def isBlankLine (cs : List Char) : Bool :=
  match cs with
  | '#' :: _ => true
  | cs => (lineBreak? cs).isSome

/-- Reads the lines of a document, at most as many as there are steps. -/
def readLines : (steps : Nat) → List Char → Option (List Statement)
  | 0, _ => none
  | steps + 1, cs =>
    match skipSpace cs with
    | [] => some []
    | cs =>
      if isBlankLine cs then (finishLine cs).bind (readLines steps)
      else do
        let (statement, rest) ← readStatement (2 * cs.length) cs
        let statements ← (finishLine rest).bind (readLines steps)
        return statement :: statements

/-- A document without the mark of its byte order. -/
def dropMark : List Char → List Char
  | '\ufeff' :: rest => rest
  | cs => cs

/-- Reads a document to its entries. -/
def read (document : String) : Option Entries :=
  let cs := dropMark document.toList
  (readLines (cs.length + 1) cs).bind build

end UpSetProse.Toml
