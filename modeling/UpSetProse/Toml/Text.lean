import UpSetProse.Text.Characters

/-!
# Strings in TOML

The four kinds of strings. Each reader takes a string from behind its opening quotation marks up to
and with the closing ones, and gives back the rest. Three closing marks may have two more in front
of them, which belong to the string.
-/

namespace UpSetProse.Toml

/-- Characters that stand for themselves: tabs and all that are not control characters of ASCII. -/
def isPlain (c : Char) : Bool := c == '\t' || (0x20 ≤ c.toNat && c.toNat != 0x7F)

def isSpace (c : Char) : Bool := c == ' ' || c == '\t'

/-- The characters that an escape of one letter stands for. -/
def escaped? : Char → Option Char
  | 'b' => some '\x08'
  | 't' => some '\t'
  | 'n' => some '\n'
  | 'f' => some '\x0c'
  | 'r' => some '\r'
  | '"' => some '"'
  | '\\' => some '\\'
  | _ => none

/-- The character with a code in base sixteen, which is neither too large nor a surrogate. -/
def coded? (digits : List Char) : Option Char :=
  let code := Text.natural 16 digits
  if digits.all (Text.isDigitOf 16) && (code < 0xD800 || (0xE000 ≤ code && code < 0x110000)) then
    some (Char.ofNat code)
  else none

/-- Puts a character before a text that was read. -/
def prepend (c : Char) (read : List Char × List Char) : List Char × List Char :=
  (c :: read.1, read.2)

/-- Reads a string on one line, in which a backslash escapes. -/
def readBasic : List Char → Option (List Char × List Char)
  | [] => none
  | '"' :: rest => some ([], rest)
  | '\\' :: 'u' :: a :: b :: c :: d :: rest => do
    let code ← coded? [a, b, c, d]
    return prepend code (← readBasic rest)
  | '\\' :: 'U' :: a :: b :: c :: d :: e :: f :: g :: h :: rest => do
    let code ← coded? [a, b, c, d, e, f, g, h]
    return prepend code (← readBasic rest)
  | '\\' :: letter :: rest => do
    let c ← escaped? letter
    return prepend c (← readBasic rest)
  | c :: rest => if isPlain c && c != '\\' then (readBasic rest).map (prepend c) else none

/-- Reads a string on one line without escapes. -/
def readLiteral : List Char → Option (List Char × List Char)
  | [] => none
  | '\'' :: rest => some ([], rest)
  | c :: rest => if isPlain c then (readLiteral rest).map (prepend c) else none

/-- Whether the rest of a line is blank and another line follows. -/
def endsLine (cs : List Char) : Bool :=
  match cs.dropWhile isSpace with
  | '\n' :: _ => true
  | '\r' :: '\n' :: _ => true
  | _ => false

/-- Further quotation marks directly after three of them. -/
def closingMarks (mark : Char) : List Char → List Char × List Char
  | a :: b :: rest =>
    if a == mark && b == mark then ([mark, mark], rest)
    else if a == mark then ([mark], b :: rest)
    else ([], a :: b :: rest)
  | [a] => if a == mark then ([mark], []) else ([], [a])
  | [] => ([], [])

/-- Reads a string over several lines. A backslash at the end of a line skips white space up to the
next character; `skipping` says that this is going on. -/
def readBasicLines (skipping : Bool) : List Char → Option (List Char × List Char)
  | [] => none
  | first :: rest =>
    if skipping && (isSpace first || first == '\n') then readBasicLines true rest
    else
      match first, rest with
      | '\r', '\n' :: rest =>
        if skipping then readBasicLines true rest
        else (readBasicLines false rest).map (prepend '\n')
      | '"', '"' :: '"' :: rest => some (closingMarks '"' rest)
      | '\\', 'u' :: a :: b :: c :: d :: rest => do
        let code ← coded? [a, b, c, d]
        return prepend code (← readBasicLines false rest)
      | '\\', 'U' :: a :: b :: c :: d :: e :: f :: g :: h :: rest => do
        let code ← coded? [a, b, c, d, e, f, g, h]
        return prepend code (← readBasicLines false rest)
      | '\\', letter :: rest =>
        if endsLine (letter :: rest) then readBasicLines true (letter :: rest)
        else do
          let c ← escaped? letter
          return prepend c (← readBasicLines false rest)
      | c, rest =>
        if (isPlain c && c != '\\') || c == '\n' then
          (readBasicLines false rest).map (prepend c)
        else none

/-- Reads a string over several lines without escapes. -/
def readLiteralLines : List Char → Option (List Char × List Char)
  | [] => none
  | '\'' :: '\'' :: '\'' :: rest => some (closingMarks '\'' rest)
  | '\r' :: '\n' :: rest => (readLiteralLines rest).map (prepend '\n')
  | c :: rest =>
    if isPlain c || c == '\n' then (readLiteralLines rest).map (prepend c) else none

/-- A text without a line break at its beginning. -/
def dropBreak : List Char → List Char
  | '\n' :: rest => rest
  | '\r' :: '\n' :: rest => rest
  | cs => cs

/-- Reads a string on one line, with its opening quotation mark. -/
def readLine : List Char → Option (List Char × List Char)
  | '"' :: rest => readBasic rest
  | '\'' :: rest => readLiteral rest
  | _ => none

/-- Reads a string of any kind, with its opening quotation marks. -/
def readString : List Char → Option (List Char × List Char)
  | '"' :: '"' :: '"' :: rest => readBasicLines false (dropBreak rest)
  | '\'' :: '\'' :: '\'' :: rest => readLiteralLines (dropBreak rest)
  | cs => readLine cs

end UpSetProse.Toml
