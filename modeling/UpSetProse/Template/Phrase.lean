import UpSetProse.Template.Segment
import UpSetProse.Template.Symbol
import UpSetProse.Token.Basic

/-!
# Phrases

A phrase is made up of text, tokens and the symbols of other phrases. It mentions only tokens and
symbols that exist; its written form marks tokens with curly and symbols with square brackets.
-/

namespace UpSetProse

/-- A piece of a phrase. -/
inductive PhrasePiece where
  | text (text : String)
  | token (token : Token)
  | symbol (symbol : Symbol)
  deriving DecidableEq, Repr

instance : Coe String PhrasePiece := ⟨.text⟩
instance : Coe Token PhrasePiece := ⟨.token⟩
instance : Coe Symbol PhrasePiece := ⟨.symbol⟩

/-- A sequence of pieces. -/
abbrev Phrase := List PhrasePiece

namespace PhrasePiece

/-- A piece as it stands in a template. -/
def write : PhrasePiece → String
  | text t => t
  | token t => String.ofList (Markers.curly.mark t.name.toList)
  | symbol s => String.ofList (Markers.square.mark s.name.toList)

end PhrasePiece

namespace Phrase

/-- The written form of a phrase. -/
def write (phrase : Phrase) : String := String.join (phrase.map PhrasePiece.write)

/-- One sentence for each symbol. -/
def sentences : List Symbol → Phrase
  | [] => []
  | [last] => [last, "."]
  | first :: rest => .symbol first :: .text ". " :: sentences rest

/-- What stands between two sentences. -/
def space : Phrase := [" "]

end Phrase
end UpSetProse
