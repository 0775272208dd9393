import UpSetProse.Json.Leaf

/-!
# Reading JSON documents

A document is one value with white space around it, as in RFC 8259. The readers of values call each
other; every call takes a step, and two steps for each character are enough for any document.
-/

namespace UpSetProse.Json

/-- White space between the parts of a document. -/
def isSpace (c : Char) : Bool := c == ' ' || c == '\t' || c == '\n' || c == '\r'

def skipSpace (cs : List Char) : List Char := cs.dropWhile isSpace

/-- Reads a string after white space, with its opening quotation mark. -/
def readName (cs : List Char) : Option (JsonText × List Char) :=
  match skipSpace cs with
  | '"' :: rest => readString rest
  | _ => none

/-- Reads a colon after white space. -/
def skipColon (cs : List Char) : Option (List Char) :=
  match skipSpace cs with
  | ':' :: rest => some rest
  | _ => none

mutual

/-- Reads a value within a number of steps. -/
def readValue : (steps : Nat) → List Char → Option (Json × List Char)
  | 0, _ => none
  | steps + 1, cs =>
    match skipSpace cs with
    | 'n' :: 'u' :: 'l' :: 'l' :: rest => some (.null, rest)
    | 't' :: 'r' :: 'u' :: 'e' :: rest => some (.bool true, rest)
    | 'f' :: 'a' :: 'l' :: 's' :: 'e' :: rest => some (.bool false, rest)
    | '"' :: rest => (readString rest).map fun (text, rest) => (.string text, rest)
    | '[' :: rest =>
      match skipSpace rest with
      | ']' :: rest => some (.array [], rest)
      | rest => (readItems steps rest).map fun (items, rest) => (.array items, rest)
    | '\x7b' :: rest =>
      match skipSpace rest with
      | '\x7d' :: rest => some (.object [], rest)
      | rest => (readMembers steps rest).map fun (members, rest) => (.object members, rest)
    | cs => (readNumber cs).map fun (value, rest) => (.number value, rest)

/-- Reads the items of an array up to and with its closing bracket. -/
def readItems : (steps : Nat) → List Char → Option (List Json × List Char)
  | 0, _ => none
  | steps + 1, cs => do
    let (item, rest) ← readValue steps cs
    match skipSpace rest with
    | ']' :: rest => return ([item], rest)
    | ',' :: rest =>
      let (items, rest) ← readItems steps rest
      return (item :: items, rest)
    | _ => none

/-- Reads the members of an object up to and with its closing bracket. -/
def readMembers : (steps : Nat) → List Char → Option (List (JsonText × Json) × List Char)
  | 0, _ => none
  | steps + 1, cs => do
    let (name, rest) ← readName cs
    let rest ← skipColon rest
    let (value, rest) ← readValue steps rest
    match skipSpace rest with
    | '\x7d' :: rest => return ([(name, value)], rest)
    | ',' :: rest =>
      let (members, rest) ← readMembers steps rest
      return ((name, value) :: members, rest)
    | _ => none

end

/-- Reads a document. -/
def read (document : String) : Option Json := do
  let cs := document.toList
  let (value, rest) ← readValue (2 * cs.length + 2) cs
  if (skipSpace rest).isEmpty then some value else none

end UpSetProse.Json
