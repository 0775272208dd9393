import Mathlib.Data.List.Chain
import UpSetProse.Proofs.Template.FullExpansion
import UpSetProse.Proofs.Text.Composed
import UpSetProse.Proofs.Token.Map
import UpSetProse.Template.Choice

/-!
# Written phrases and what passes make of them

A phrase is read back from its written form piece by piece, and a pass of the first phase over the
standard table unfolds its symbols. Standard phrases separate their tokens and symbols by text,
which unfolding preserves, and three unfoldings leave no symbol.
-/

namespace UpSetProse

open Segment (names)

/-- A plain text has no brackets of either kind. -/
theorem Text.Plain.free {text : String} (h : Text.Plain text) (markers : Markers) :
    markers.Free text.toList := by
  cases markers
  · exact ⟨h _ (by decide), h _ (by decide)⟩
  · exact ⟨h _ (by decide), h _ (by decide)⟩

theorem Symbol.mem_all (symbol : Symbol) : symbol ∈ Symbol.all := by
  cases symbol with
  | levelOne verbosity => cases verbosity <;> decide
  | levelTwo sortBy verbosity => cases sortBy <;> cases verbosity <;> decide
  | _ => decide

/-- The name of a symbol holds no brackets. -/
theorem Symbol.plain_name (symbol : Symbol) : Text.Plain symbol.name := by
  cases symbol with
  | levelOne verbosity => cases verbosity <;> decide
  | levelTwo sortBy verbosity => cases sortBy <;> cases verbosity <;> decide
  | _ => exact Text.plain_ofList (by decide +kernel)

/-- The name of a token holds no brackets. -/
theorem Token.plain_name (token : Token) : Text.Plain token.name := by
  cases token <;> exact Text.plain_ofList (by decide +kernel)

namespace PhrasePiece

/-- A piece as it is read for one kind of markers. -/
def segment : Markers → PhrasePiece → Segment
  | _, text t => .literal t.toList
  | .curly, token t => .symbol t.name.toList
  | .square, symbol s => .symbol s.name.toList
  | _, piece => .literal piece.write.toList

/-- The piece is text. -/
def IsText : PhrasePiece → Prop
  | text _ => True
  | _ => False

instance : DecidablePred IsText
  | text _ => .isTrue trivial
  | token _ => .isFalse id
  | symbol _ => .isFalse id

/-- Pieces whose text, if they are text, is plain and not empty. -/
inductive Sound : PhrasePiece → Prop where
  | text {t : String} (hplain : Text.Plain t) (hne : t ≠ "") : Sound (.text t)
  | token (t : Token) : Sound (.token t)
  | symbol (s : Symbol) : Sound (.symbol s)

/-- A text is sound if it is spelled without reserved characters. -/
theorem sound_text {chars : List Char} (h : chars ≠ [] ∧ Text.Unreserved chars) :
    (PhrasePiece.text (String.ofList chars)).Sound :=
  .text (Text.plain_ofList h.2) fun hempty => h.1 (String.ofList_eq_empty_iff.mp hempty)

/-- A piece that is read is written as it was. -/
theorem write_segment (markers : Markers) (piece : PhrasePiece) :
    (piece.segment markers).write markers = piece.write.toList := by
  cases markers <;> cases piece <;>
    simp [segment, Segment.write, PhrasePiece.write, String.toList_ofList]

/-- The markers of one kind hold no brackets of the other kind. -/
theorem free_mark {markers other : Markers} (hne : markers ≠ other) {name : String}
    (h : Text.Plain name) : markers.Free (other.mark name.toList) := by
  have hname := h.free markers
  cases markers <;> cases other <;>
    simp_all [Markers.Free, Markers.mark, Markers.opener, Markers.closer]

/-- A sound piece is read as text or as a symbol without brackets of its own. -/
theorem Sound.free_segment {piece : PhrasePiece} (h : piece.Sound) (markers : Markers) :
    (piece.segment markers).Free markers := by
  cases h with
  | text hplain => exact hplain.free markers
  | token t =>
    cases markers with
    | square =>
      simp only [Segment.Free, segment, write, String.toList_ofList]
      exact free_mark (by decide) t.plain_name
    | curly => exact t.plain_name.free .curly
  | symbol s =>
    cases markers with
    | square => exact s.plain_name.free .square
    | curly =>
      simp only [Segment.Free, segment, write, String.toList_ofList]
      exact free_mark (by decide) s.plain_name

end PhrasePiece

namespace Phrase

/-- Texts are plain and not empty, and of two neighbours one is text. -/
structure Separated (phrase : Phrase) : Prop where
  sound : ∀ piece ∈ phrase, piece.Sound
  chain : phrase.IsChain fun piece next => piece.IsText ∨ next.IsText

/-- A written phrase is its written pieces in a row. -/
theorem toList_write (phrase : Phrase) :
    phrase.write.toList = phrase.flatMap fun piece => piece.write.toList := by
  rw [write, String.toList_join, List.flatMap_map]

/-- A written phrase is read as its pieces in a row. -/
theorem toList_write_segments (phrase : Phrase) (markers : Markers) :
    phrase.write.toList =
      (phrase.map (PhrasePiece.segment markers)).flatMap (Segment.write markers) := by
  rw [toList_write, List.flatMap_map]
  exact List.flatMap_congr fun piece _ => (piece.write_segment markers).symm

namespace Separated

variable {phrase : Phrase}

theorem free_segments (h : phrase.Separated) (markers : Markers) :
    ∀ part ∈ phrase.map (PhrasePiece.segment markers), part.Free markers := by
  intro part hpart
  obtain ⟨piece, hpiece, rfl⟩ := List.mem_map.mp hpart
  exact (h.sound piece hpiece).free_segment markers

/-- A written phrase is marked with either kind of brackets. -/
theorem marked_write (h : phrase.Separated) (markers : Markers) :
    markers.Marked phrase.write.toList := by
  rw [toList_write_segments phrase markers]
  exact Segment.marked_flatMap_write (h.free_segments markers)

/-- The names in a written phrase are those of its marked pieces. -/
theorem names_write (h : phrase.Separated) (markers : Markers) :
    names markers phrase.write.toList =
      phrase.filterMap fun piece => (piece.segment markers).name? := by
  rw [toList_write_segments phrase markers, Segment.names_flatMap_write (h.free_segments markers),
    List.filterMap_map]
  rfl

/-- A pass replaces the marked pieces of a written phrase. -/
theorem replaceOnce_write (h : phrase.Separated) (markers : Markers)
    (replace : List Char → List Char) :
    replaceOnce markers replace phrase.write.toList =
      phrase.flatMap fun piece => (piece.segment markers).replaceWith replace := by
  rw [toList_write_segments phrase markers,
    Segment.replaceOnce_flatMap_write (h.free_segments markers), List.flatMap_map]

theorem tail {piece : PhrasePiece} (h : Separated (piece :: phrase)) : phrase.Separated :=
  ⟨(List.forall_mem_cons.mp h.sound).2, h.chain.tail⟩

/-- Behind a token there is text, unless the phrase ends there. -/
theorem behind_token {token : Token} (h : Separated (.token token :: phrase)) :
    phrase = [] ∨ ∃ text rest, phrase = .text text :: rest ∧ Text.Plain text ∧ text ≠ "" := by
  cases phrase with
  | nil => exact .inl rfl
  | cons piece rest =>
    have htext : piece.IsText := (List.isChain_cons_cons.mp h.chain).1.resolve_left id
    cases h.sound piece (List.mem_cons_of_mem _ List.mem_cons_self) with
    | text hplain hne => exact .inr ⟨_, rest, rfl, hplain, hne⟩
    | token | symbol => exact htext.elim

/-- A sound text can stand in front of any separated phrase. -/
theorem text_cons {text : String} (htext : (PhrasePiece.text text).Sound) (h : phrase.Separated) :
    Separated (.text text :: phrase) := by
  refine ⟨List.forall_mem_cons.mpr ⟨htext, h.sound⟩, ?_⟩
  cases phrase with
  | nil => exact .singleton _
  | cons piece rest => exact List.isChain_cons_cons.mpr ⟨.inl trivial, h.chain⟩

/-- A symbol can stand in front of a separated phrase that begins with a text. -/
theorem symbol_cons_text_cons {text : String} (symbol : Symbol)
    (h : Separated (.text text :: phrase)) : Separated (.symbol symbol :: .text text :: phrase) :=
  ⟨List.forall_mem_cons.mpr ⟨.symbol symbol, h.sound⟩,
    List.isChain_cons_cons.mpr ⟨.inr trivial, h.chain⟩⟩

theorem sound_space : (PhrasePiece.text " ").Sound := PhrasePiece.sound_text (by decide +kernel)

/-- A space keeps separated phrases apart. -/
theorem append_space {first second : Phrase} (hfirst : first.Separated)
    (hsecond : second.Separated) : (first ++ space ++ second).Separated := by
  have hlast := hsecond.text_cons sound_space
  rw [List.append_assoc]
  constructor
  · intro piece hpiece
    rcases List.mem_append.mp hpiece with hpiece | hpiece
    · exact hfirst.sound piece hpiece
    · exact hlast.sound piece hpiece
  · refine List.isChain_append.mpr ⟨hfirst.chain, hlast.chain, fun piece _ next hnext => ?_⟩
    obtain rfl := Option.mem_some.mp hnext
    exact .inr trivial

theorem nil : Separated [] := ⟨by simp, .nil⟩

/-- A single symbol is separated. -/
theorem singleton_symbol (symbol : Symbol) : Separated [.symbol symbol] :=
  ⟨List.forall_mem_singleton.mpr (.symbol symbol), .singleton _⟩

/-- Sentences are separated, whatever their symbols are. -/
theorem of_sentences (symbols : List Symbol) : (sentences symbols).Separated := by
  fun_induction sentences symbols with
  | case1 => exact nil
  | case2 last =>
    exact (nil.text_cons (PhrasePiece.sound_text (by decide +kernel))).symbol_cons_text_cons last
  | case3 first rest hrest ih =>
    exact (ih.text_cons (PhrasePiece.sound_text (by decide +kernel))).symbol_cons_text_cons first

end Separated
end Phrase

open Phrase Phrase.Separated

theorem Symbol.separated_levelOnePhrase (verbosity : Verbosity) :
    (Symbol.levelOnePhrase verbosity).Separated := by
  cases verbosity <;> exact of_sentences _

theorem Symbol.separated_levelTwoPhrase (sortBy : SortKey) (verbosity : Verbosity) :
    (Symbol.levelTwoPhrase sortBy verbosity).Separated := by
  cases sortBy <;> cases verbosity <;>
    first
    | exact of_sentences _
    | exact (singleton_symbol _).append_space (of_sentences _)

/-- The tokens and symbols of the standard phrases are separated. -/
theorem Symbol.separated_phrase (symbol : Symbol) : symbol.phrase.Separated := by
  cases symbol with
  | levelOne verbosity => exact Symbol.separated_levelOnePhrase verbosity
  | levelTwo sortBy verbosity => exact Symbol.separated_levelTwoPhrase sortBy verbosity
  | _ =>
    refine ⟨?_, by decide⟩
    rw [phrase]
    simp only [List.forall_mem_cons]
    and_intros <;>
      first
      | exact PhrasePiece.sound_text (by decide +kernel)
      | exact .token _
      | exact List.forall_mem_nil _

namespace Template

theorem separated_trends (verbosity : Verbosity) : (trends verbosity).Separated := by
  cases verbosity <;> exact of_sentences _

/-- Whatever levels are asked for, their template is separated. -/
theorem separated_levels (sortBy : SortKey) (verbosity : Verbosity) (level : Level) :
    (levels sortBy verbosity level).Separated := by
  have hone : (levelOne verbosity).Separated := singleton_symbol _
  have htwo : (levelTwo sortBy verbosity).Separated := singleton_symbol _
  cases level with
  | one => exact hone
  | two => exact htwo
  | combined => exact (hone.append_space htwo).append_space (separated_trends verbosity)

/-- An explanation keeps apart from the phrase behind it. -/
theorem separated_explanation_append (explain : Explanation) {phrase : Phrase}
    (h : phrase.Separated) : (explanation explain ++ phrase).Separated := by
  cases explain with
  | none => exact h
  | simple | full => exact (of_sentences _).append_space h

end Template
end UpSetProse
