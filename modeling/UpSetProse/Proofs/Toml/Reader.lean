import UpSetProse.Proofs.Toml.Numeral
import UpSetProse.Toml.Reader

/-!
# Reading a TOML document line by line

A document whose lines are headers of bare keys, assignments to bare keys and blank lines is read
line by line into the statements that its lines make.
-/

namespace UpSetProse.Toml

/-- A value with a text that is read as this value at the end of a line. -/
structure Written where
  text : List Char
  value : Toml
  /-- The text does not begin with white space. -/
  skipSpace_text : ∀ rest, skipSpace (text ++ '\n' :: rest) = text ++ '\n' :: rest
  readValue_text : ∀ steps levels rest,
    readValue (steps + 1) levels (text ++ '\n' :: rest) = some (value, '\n' :: rest)

namespace Written

/-- Characters that stand for themselves between quotation marks. -/
def Quotable (text : String) : Prop := ∀ c ∈ text.toList, isPlain c = true ∧ c ≠ '"' ∧ c ≠ '\\'

instance (text : String) : Decidable (Quotable text) := List.decidableBAll _ text.toList

/-- A text without quotation marks and escapes ends at the next quotation mark. -/
private theorem readBasic_append {text : List Char}
    (h : ∀ c ∈ text, isPlain c = true ∧ c ≠ '"' ∧ c ≠ '\\') (rest : List Char) :
    readBasic (text ++ '"' :: rest) = some (text, rest) := by
  induction text with
  | nil => rfl
  | cons c text ih =>
    obtain ⟨⟨hplain, hquote, hescape⟩, htext⟩ := List.forall_mem_cons.mp h
    rw [List.cons_append, readBasic, ih htext]
    · simp [hplain, hescape, prepend]
    all_goals simp [hquote, hescape]

/-- A quotable text is read from between its quotation marks. -/
private theorem readString_quoted {text : String} (h : Quotable text) (rest : List Char) :
    readString ('"' :: (text.toList ++ '"' :: '\n' :: rest)) =
      some (text.toList, '\n' :: rest) := by
  have hbasic := readBasic_append h ('\n' :: rest)
  unfold readString
  split
  · -- Neither an empty text nor another one brings three quotation marks together.
    rename_i more heq
    cases htext : text.toList with
    | nil =>
      rw [htext] at heq
      cases heq
    | cons c chars =>
      rw [htext] at heq
      have hc : c = '"' := (List.cons.inj (List.cons.inj heq).2).1
      exact absurd hc (h c (htext ▸ List.mem_cons_self)).2.1
  · exact absurd (List.cons.inj ‹_›).1 (by decide)
  · exact hbasic

/-- A text in quotation marks. -/
def quoted (text : String) (h : Quotable text) : Written where
  text := '"' :: (text.toList ++ ['"'])
  value := .string text
  skipSpace_text _ := rfl
  readValue_text steps levels rest := by
    rw [List.cons_append, List.append_assoc, readValue]
    change (readString ('"' :: (text.toList ++ '"' :: '\n' :: rest))).map _ = _
    simp only [readString_quoted h, Option.map_some, String.ofList_toList]

/-- A truth value. -/
def boolean (b : Bool) : Written where
  text := (toString b).toList
  value := .boolean b
  skipSpace_text _ := by cases b <;> rfl
  readValue_text steps levels rest := by
    cases b with
    | false =>
      change readValue (steps + 1) levels ('f' :: 'a' :: 'l' :: 's' :: 'e' :: '\n' :: rest) = _
      rw [readValue]
    | true =>
      change readValue (steps + 1) levels ('t' :: 'r' :: 'u' :: 'e' :: '\n' :: rest) = _
      rw [readValue]

/-- A value that begins with a digit is read as a run of digits and what may stand between them. -/
private theorem readValue_digit {c : Char} (h : Text.isDigit c = true) (steps levels : Nat)
    (rest : List Char) : readValue (steps + 1) levels (c :: rest) = readRun (c :: rest) := by
  rw [readValue]
  all_goals
    rintro _ ⟨⟩
    exact absurd h (by decide)

private theorem exists_digit_cons (n : Nat) :
    ∃ c digits, Nat.toDigits 10 n = c :: digits ∧ Text.isDigit c = true := by
  obtain ⟨c, digits, hcons⟩ := List.exists_cons_of_ne_nil (digits_toDigits n).ne_nil
  exact ⟨c, digits, hcons, (digits_toDigits n).isDigit c (hcons ▸ List.mem_cons_self)⟩

/-- A natural number that fits into 64 bits with a sign. -/
def natural (n : Nat) (h : n ≤ Int64.maxValue.toInt) : Written where
  text := Nat.toDigits 10 n
  value := .integer n
  skipSpace_text rest := by
    obtain ⟨c, digits, hcons, hc⟩ := exists_digit_cons n
    have hblank : c ≠ ' ' := Text.ne_of_isDigit hc (by decide)
    have htab : c ≠ '\t' := Text.ne_of_isDigit hc (by decide)
    simp [hcons, skipSpace, isSpace, hblank, htab]
  readValue_text steps levels rest := by
    obtain ⟨c, digits, hcons, hc⟩ := exists_digit_cons n
    have hrun : readRun (Nat.toDigits 10 n ++ '\n' :: rest) = some (.integer n, '\n' :: rest) :=
      readRun_toDigits h (by simp; decide)
    rw [hcons, List.cons_append] at hrun ⊢
    rw [readValue_digit hc, hrun]

end Written

/-- A key that needs no quotation marks. -/
structure BareKey where
  name : String
  ne_nil : name.toList ≠ []
  bare : name.toList.all isBareKeyChar = true

namespace BareKey

variable (key : BareKey)

/-- A bare key does not begin with what cannot stand in it. -/
theorem append_ne_cons {d : Char} (hd : isBareKeyChar d = false) (rest more : List Char) :
    key.name.toList ++ rest ≠ d :: more := by
  intro heq
  obtain ⟨c, cs, hcons⟩ := List.exists_cons_of_ne_nil key.ne_nil
  have hc := List.all_eq_true.mp key.bare c (hcons ▸ List.mem_cons_self)
  rw [hcons, List.cons_append] at heq
  rw [(List.cons.inj heq).1, hd] at hc
  cases hc

/-- No space stands before a key. -/
theorem skipSpace_append (rest : List Char) :
    skipSpace (key.name.toList ++ rest) = key.name.toList ++ rest := by
  generalize htext : key.name.toList ++ rest = text
  cases text with
  | nil => rfl
  | cons c text =>
    have hblank : c ≠ ' ' := by
      rintro rfl
      exact key.append_ne_cons (by decide) rest text htext
    have htab : c ≠ '\t' := by
      rintro rfl
      exact key.append_ne_cons (by decide) rest text htext
    simp [skipSpace, isSpace, hblank, htab]

/-- A bare key ends before the first character that none has. -/
private theorem readKeyPart_append {rest : List Char}
    (hrest : ∀ c, rest.head? = some c → isBareKeyChar c = false) :
    readKeyPart (key.name.toList ++ rest) = some (key.name, skipSpace rest) := by
  have hempty : key.name.toList.isEmpty = false := by simpa using key.ne_nil
  have hspan := span_append (List.all_eq_true.mp key.bare) hrest
  simp only [readKeyPart, key.skipSpace_append, hspan, hempty, String.ofList_toList]
  rfl

/-- A key of one part is read up to what follows it. -/
private theorem readKeyParts_append {rest : List Char}
    (hrest : ∀ c, rest.head? = some c → isBareKeyChar c = false)
    (hpoint : ∀ more, skipSpace rest ≠ '.' :: more) (parts : Nat) :
    readKeyParts (parts + 1) (key.name.toList ++ rest) =
      some (⟨[], key.name⟩, skipSpace rest) := by
  simp only [readKeyParts, key.readKeyPart_append hrest, Option.bind_eq_bind, Option.bind_some]
  rfl

/-- A key that no point follows has no parents. -/
theorem readKey_append {rest : List Char}
    (hrest : ∀ c, rest.head? = some c → isBareKeyChar c = false)
    (hpoint : ∀ more, skipSpace rest ≠ '.' :: more) :
    readKey (key.name.toList ++ rest) = some (⟨[], key.name⟩, skipSpace rest) :=
  key.readKeyParts_append hrest hpoint 78

end BareKey

/-- A line of a document. -/
inductive Line where
  | blank
  | header (key : BareKey)
  | assignment (key : BareKey) (value : Written)

namespace Line

/-- The characters of a line, with the line feed that ends it. -/
def text : Line → List Char
  | blank => ['\n']
  | header key => '[' :: key.name.toList ++ [']', '\n']
  | assignment key value => key.name.toList ++ [' ', '=', ' '] ++ value.text ++ ['\n']

/-- What a line says, if it is not blank. -/
def statement? : Line → Option Statement
  | blank => none
  | header key => some (.openTable ⟨[], key.name⟩)
  | assignment key value => some (.assign ⟨[], key.name⟩ value.value)

/-- A header is read from behind its first bracket. -/
theorem readHeader_append (key : BareKey) (rest : List Char) :
    readHeader (key.name.toList ++ ']' :: rest) = some (.openTable ⟨[], key.name⟩, rest) := by
  have hkey : readKey (key.name.toList ++ ']' :: rest) = some (⟨[], key.name⟩, ']' :: rest) :=
    key.readKey_append (by simp; decide) (by simp [skipSpace, isSpace])
  unfold readHeader
  split
  · exact absurd ‹_› (key.append_ne_cons (by decide) _ _)
  · simp only [hkey, Option.bind_eq_bind, Option.bind_some]
    rfl

theorem readKeyEquals_append (key : BareKey) (value : Written) (rest : List Char) :
    readKeyEquals (key.name.toList ++ ' ' :: '=' :: ' ' :: (value.text ++ '\n' :: rest)) =
      some (⟨[], key.name⟩, value.text ++ '\n' :: rest) := by
  have hkey : readKey (key.name.toList ++ ' ' :: '=' :: ' ' :: (value.text ++ '\n' :: rest)) =
      some (⟨[], key.name⟩, '=' :: ' ' :: (value.text ++ '\n' :: rest)) :=
    key.readKey_append (by simp; decide) (by simp [skipSpace, isSpace])
  have hspace : skipSpace (' ' :: (value.text ++ '\n' :: rest)) = value.text ++ '\n' :: rest :=
    value.skipSpace_text rest
  simp only [readKeyEquals, hkey, Option.bind_eq_bind, Option.bind_some, hspace]
  rfl

/-- An assignment is read up to the end of its line. -/
theorem readStatement_append (key : BareKey) (value : Written) (rest : List Char) (steps : Nat) :
    readStatement (steps + 1)
        (key.name.toList ++ ' ' :: '=' :: ' ' :: (value.text ++ '\n' :: rest)) =
      some (.assign ⟨[], key.name⟩ value.value, '\n' :: rest) := by
  unfold readStatement
  split
  · exact absurd ‹_› (key.append_ne_cons (by decide) _ _)
  · simp only [readKeyEquals_append, value.readValue_text, Option.bind_eq_bind, Option.bind_some]
    rfl

/-- A line that begins with a key is not blank. -/
theorem isBlankLine_append (key : BareKey) (rest : List Char) :
    isBlankLine (key.name.toList ++ rest) = false := by
  unfold isBlankLine
  split
  · exact absurd ‹_› (key.append_ne_cons (by decide) _ _)
  · unfold lineBreak?
    split
    · exact absurd ‹_› (key.append_ne_cons (by decide) _ _)
    · exact absurd ‹_› (key.append_ne_cons (by decide) _ _)
    · rfl

/-- A line with a statement is read, and then the lines below it. -/
private theorem readLines_statement {cs rest : List Char} {statement : Statement} (hne : cs ≠ [])
    (hspace : skipSpace cs = cs) (hblank : isBlankLine cs = false)
    (h : ∀ steps, readStatement (steps + 1) cs = some (statement, '\n' :: rest)) (steps : Nat) :
    readLines (steps + 1) cs = (readLines steps rest).map (statement :: ·) := by
  obtain ⟨c, cs, rfl⟩ := List.exists_cons_of_ne_nil hne
  have hstatement : readStatement (2 * (c :: cs).length) (c :: cs) =
      some (statement, '\n' :: rest) :=
    h (2 * cs.length + 1)
  have hfinish : finishLine ('\n' :: rest) = some rest := rfl
  simp only [readLines, hspace, hblank, hstatement, hfinish, Option.bind_eq_bind,
    Option.bind_some]
  cases readLines steps rest <;> rfl

/-- One line is read, whatever follows it. -/
theorem readLines_line (line : Line) (steps : Nat) (rest : List Char) :
    readLines (steps + 1) (line.text ++ rest) =
      (readLines steps rest).map (line.statement?.toList ++ ·) := by
  cases line with
  | blank =>
    have hblank : readLines (steps + 1) ('\n' :: rest) = readLines steps rest := rfl
    change readLines (steps + 1) ('\n' :: rest) = _
    rw [hblank]
    cases readLines steps rest <;> rfl
  | header key =>
    have htext : (header key).text ++ rest = '[' :: (key.name.toList ++ ']' :: '\n' :: rest) := by
      simp [text]
    have hstatement : ∀ steps,
        readStatement (steps + 1) ('[' :: (key.name.toList ++ ']' :: '\n' :: rest)) =
          some (.openTable ⟨[], key.name⟩, '\n' :: rest) :=
      fun _ => readHeader_append key ('\n' :: rest)
    rw [htext]
    exact readLines_statement (List.cons_ne_nil _ _) rfl rfl hstatement steps
  | assignment key value =>
    have htext : (assignment key value).text ++ rest =
        key.name.toList ++ ' ' :: '=' :: ' ' :: (value.text ++ '\n' :: rest) := by
      simp [text]
    rw [htext]
    exact readLines_statement (by simp) (key.skipSpace_append _) (isBlankLine_append key _)
      (readStatement_append key value rest) steps

/-- A document is read to the statements of its lines. -/
theorem readLines_flatMap {lines : List Line} {steps : Nat} (h : lines.length < steps) :
    readLines steps (lines.flatMap text) = some (lines.filterMap statement?) := by
  induction lines generalizing steps with
  | nil =>
    obtain ⟨steps, rfl⟩ := Nat.exists_eq_add_one_of_ne_zero (Nat.ne_of_gt h)
    rfl
  | cons line lines ih =>
    obtain ⟨steps, rfl⟩ := Nat.exists_eq_add_one_of_ne_zero (Nat.ne_of_gt (Nat.zero_lt_of_lt h))
    rw [List.flatMap_cons, readLines_line, ih (Nat.lt_of_succ_lt_succ h), Option.map_some,
      List.filterMap_cons]
    cases line.statement? <;> rfl

/-- There are no more lines than characters, so the steps that are granted are enough. -/
theorem length_le_length_flatMap (lines : List Line) :
    lines.length ≤ (lines.flatMap text).length := by
  induction lines with
  | nil => exact Nat.le_refl 0
  | cons line lines ih =>
    have hline : 0 < line.text.length := by
      cases line with
      | blank | header | assignment =>
        simp only [text, List.length_append, List.length_cons]
        omega
    rw [List.flatMap_cons, List.length_append, List.length_cons]
    omega

/-- No line begins with the mark of a byte order. -/
theorem dropMark_flatMap (lines : List Line) :
    dropMark (lines.flatMap text) = lines.flatMap text := by
  unfold dropMark
  split
  · rename_i rest heq
    exfalso
    cases lines with
    | nil => cases heq
    | cons line lines =>
      cases line with
      | blank => cases heq
      | header key => cases heq
      | assignment key value =>
        simp only [List.flatMap_cons, text, List.append_assoc] at heq
        exact key.append_ne_cons (by decide) _ _ heq
  · rfl

end Line

/-- A document is built from the statements of its lines. -/
theorem read_lines {lines : List Line} {document : String}
    (h : document.toList = lines.flatMap Line.text) :
    read document = build (lines.filterMap Line.statement?) := by
  have hlength := Line.length_le_length_flatMap lines
  rw [read, h, Line.dropMark_flatMap, Line.readLines_flatMap (by omega), Option.bind_some]

end UpSetProse.Toml
