import UpSetProse.NameTable
import UpSetProse.Report
import UpSetProse.Template.Segment
import UpSetProse.Text.Sentence

/-!
# Expansion of templates

A template is expanded in two phases: symbols are replaced by phrases until none is left, then
tokens by their values. Each phase replaces all symbols of the text at once, pass by pass, and fails
after a number of passes in which a table without cycles always comes to an end. The result is
trimmed and gets its sentence capitals.
-/

namespace UpSetProse

/-- What the symbols of one phase stand for. -/
structure Substitution where
  replace : String → String
  /-- How many symbols are defined, which bounds the depth of a table without cycles. -/
  size : Nat

namespace Phase

/-- The markers of a phase. -/
def markers : Phase → Markers
  | nonTerminal => .square
  | terminal => .curly

end Phase

/-- Replaces every symbol of a text once. -/
def replaceOnce (markers : Markers) (replace : List Char → List Char) (text : List Char) :
    List Char :=
  (Segment.ofText markers text).flatMap (Segment.replaceWith replace)

/-- The last symbol of a text. -/
def lastSymbol? (markers : Markers) (text : List Char) : Option (List Char) :=
  ((Segment.ofText markers text).filterMap Segment.name?).getLast?

/-- Replaces symbols until no symbol is left; the error is the last symbol after `passes` passes. -/
def replaceWithin (markers : Markers) (replace : List Char → List Char) :
    (passes : Nat) → (text : List Char) → Except (List Char) (List Char)
  | 0, text =>
    match lastSymbol? markers text with
    | none => .ok text
    | some name => .error name
  | passes + 1, text =>
    match lastSymbol? markers text with
    | none => .ok text
    | some _ => replaceWithin markers replace passes (replaceOnce markers replace text)

namespace Substitution

/-- The replacement as a function on lists of characters. -/
def replaceChars (substitution : Substitution) (name : List Char) : List Char :=
  (substitution.replace (String.ofList name)).toList

/-- At least as many passes as asked for, and more than there are definitions. -/
def passLimit (substitution : Substitution) (minPasses : Nat) : Nat :=
  Nat.max minPasses (substitution.size + 1)

/-- Runs one phase of the expansion. -/
def run (substitution : Substitution) (phase : Phase) (minPasses : Nat) (text : String) :
    Except CycleError String :=
  let passes := substitution.passLimit minPasses
  match replaceWithin phase.markers substitution.replaceChars passes text.toList with
  | .ok result => .ok (String.ofList result)
  | .error symbol => .error { phase, passes, symbol := String.ofList symbol }

end Substitution

/-- The phrases that symbols stand for. -/
abbrev PhraseTable := NameTable String

namespace PhraseTable

/-- An undefined symbol stands for nothing. -/
def substitution (phrases : PhraseTable) : Substitution where
  replace symbol := (phrases.get? symbol).getD ""
  size := phrases.entries.length

end PhraseTable

/-- The passes that each phase is granted unless something else is asked for. -/
def defaultMinPasses : Nat := 16

/-- Replaces the symbols of a template by phrases until none is left. -/
def expandNonTerminals (phrases : PhraseTable) (minPasses : Nat) (template : String) :
    Except CycleError String :=
  phrases.substitution.run .nonTerminal minPasses template

/-- Replaces the tokens of a text by their values until none is left. -/
def expandTerminals (tokens : Substitution) (minPasses : Nat) (text : String) :
    Except CycleError String :=
  tokens.run .terminal minPasses text

/-- Expands a template to prose. -/
def expand (phrases : PhraseTable) (tokens : Substitution) (minPasses : Nat) (template : String) :
    Except CycleError String := do
  let phrased ← expandNonTerminals phrases minPasses template
  let resolved ← expandTerminals tokens minPasses phrased
  return String.ofList (Text.capitalizeSentences resolved.toList)

end UpSetProse
