import UpSetProse.Proofs.Template.Unfolding
import UpSetProse.Proofs.Token.Values

/-!
# Filling in the tokens

The first pass of the second phase replaces every token of a phrase without symbols by its value.
Since the phrase separates its tokens by plain text, what results is composed of wording and of
quotations, like the values themselves.
-/

namespace UpSetProse

open Text

/-- The result is the text with every token in it replaced once. -/
inductive TokenMap.Fills (map : TokenMap) : List Char → List Char → Prop where
  | nil : Fills map [] []
  | char {c : Char} {rest result : List Char} (hc : Markers.curly.Free [c]) :
    Fills map rest result → Fills map (c :: rest) (c :: result)
  | token {name rest result : List Char} (hname : Markers.curly.Free name) :
    Fills map rest result → Fills map (Markers.curly.mark name ++ rest)
      ((map.resolve (String.ofList name)).toList ++ result)

namespace TokenMap

/-- Filling in is what one pass does to a marked text. -/
theorem fills_iff {map : TokenMap} {text result : List Char} :
    map.Fills text result ↔ Markers.curly.Marked text ∧
      result = replaceOnce .curly map.substitution.replaceChars text := by
  constructor
  · intro h
    induction h with
    | nil => exact ⟨.nil, by rw [replaceOnce_nil]⟩
    | char hc _ ih =>
      refine ⟨.char hc ih.1, ?_⟩
      rw [replaceOnce_cons hc.ne_opener, ← ih.2]
    | token hname _ ih =>
      refine ⟨.marker hname ih.1, ?_⟩
      rw [replaceOnce_mark hname.2, ← ih.2]
      rfl
  · rintro ⟨hmarked, rfl⟩
    induction hmarked with
    | nil =>
      rw [replaceOnce_nil]
      exact .nil
    | char hc _ ih =>
      rw [replaceOnce_cons hc.ne_opener]
      exact .char hc ih
    | marker hname _ ih =>
      rw [replaceOnce_mark hname.2]
      exact .token hname ih

end TokenMap

/-- A piece with its token replaced. -/
def PhrasePiece.fill (map : TokenMap) : PhrasePiece → String
  | token t => map.resolve t.name
  | piece => piece.write

namespace Phrase

/-- A phrase with its tokens replaced. -/
def fill (map : TokenMap) (phrase : Phrase) : String :=
  String.join (phrase.map (PhrasePiece.fill map))

@[simp] theorem fill_nil (map : TokenMap) : fill map [] = "" := rfl

theorem fill_cons (map : TokenMap) (piece : PhrasePiece) (phrase : Phrase) :
    fill map (piece :: phrase) = piece.fill map ++ fill map phrase := by
  rw [fill, List.map_cons, String.join_cons, ← fill]

theorem fill_append (map : TokenMap) (first second : Phrase) :
    fill map (first ++ second) = fill map first ++ fill map second := by
  rw [fill, List.map_append, String.join_append, ← fill, ← fill]

/-- The first character of a phrase that begins with text. -/
def first? : Phrase → Option Char
  | .text t :: _ => t.toList.head?
  | _ => none

/-- The last character of a phrase that ends with text. -/
def last? (phrase : Phrase) : Option Char :=
  match phrase.getLast? with
  | some (.text t) => t.toList.getLast?
  | _ => none

/-- A phrase that begins with text begins so whatever is filled in. -/
theorem head?_fill (map : TokenMap) {phrase : Phrase} {c : Char} (h : phrase.first? = some c) :
    (phrase.fill map).toList.head? = some c := by
  match phrase, h with
  | .text t :: rest, h =>
    rw [fill_cons, String.toList_append, List.head?_append]
    exact Option.or_eq_some_iff.mpr (.inl h)

/-- A phrase that ends with text ends so whatever is filled in. -/
theorem getLast?_fill (map : TokenMap) {phrase : Phrase} {c : Char} (h : phrase.last? = some c) :
    (phrase.fill map).toList.getLast? = some c := by
  unfold last? at h
  split at h
  · rename_i t hlast
    obtain ⟨before, rfl⟩ := List.getLast?_eq_some_iff.mp hlast
    rw [fill_append, String.toList_append, List.getLast?_append, fill_cons, fill_nil,
      String.append_empty]
    exact Option.or_eq_some_iff.mpr (.inl h)
  · cases h

/-- A pass of the second phase fills in the tokens of a written phrase. -/
theorem Separated.replaceOnce_curly {phrase : Phrase} (h : phrase.Separated) (map : TokenMap) :
    replaceOnce .curly map.substitution.replaceChars phrase.write.toList =
      (phrase.fill map).toList := by
  rw [h.replaceOnce_write, fill, String.toList_join, List.flatMap_map]
  refine List.flatMap_congr fun piece _ => ?_
  cases piece with
  | text t => rfl
  | token t =>
    simp only [PhrasePiece.segment, Segment.replaceWith, Substitution.replaceChars,
      String.ofList_toList]
    rfl
  | symbol s => rfl

/-- A written phrase is filled in as the phrase is. -/
theorem Separated.fills {phrase : Phrase} (h : phrase.Separated) (map : TokenMap) :
    map.Fills phrase.write.toList (phrase.fill map).toList :=
  TokenMap.fills_iff.mpr ⟨h.marked_write .curly, (h.replaceOnce_curly map).symm⟩

end Phrase

namespace TokenMap.IsStandard

variable {map : TokenMap} {totals : Totals}

/-- The text of a standard token is composed of wording and of the texts that are quoted. -/
theorem composed_resolve (h : map.IsStandard totals) (token : Token) :
    Composed map.analysis.texts (map.resolve token.name) := by
  rw [h.resolve_name]
  exact token.composed_render map.analysis totals

/-- No name resolves to a text with line breaks unless it has some itself. -/
theorem unbroken_resolve (h : map.IsStandard totals) {name : String}
    (hname : Unbroken name.toList) : Unbroken (map.resolve name).toList := by
  by_cases hstandard : ∃ token : Token, name = token.name
  · obtain ⟨token, rfl⟩ := hstandard
    exact (h.composed_resolve token).unbroken
  · rw [h.resolve_of_ne (not_exists.mp hstandard), String.toList_append, String.toList_append]
    exact unbroken_append.mpr ⟨unbroken_append.mpr ⟨by decide, hname⟩, by decide⟩

/-- A separated phrase without symbols is filled in to a composed text. -/
theorem composed_fill (h : map.IsStandard totals) {phrase : Phrase} (hseparated : phrase.Separated)
    (hsymbols : phrase.symbols = []) : Composed map.analysis.texts (phrase.fill map) := by
  -- The tail goes along because the text behind a token is needed on its own.
  suffices Composed map.analysis.texts (phrase.fill map) ∧
      Composed map.analysis.texts (Phrase.fill map phrase.tail) from this.1
  have hempty : Plain "" := by decide
  induction phrase with
  | nil => exact ⟨.plain hempty, .plain hempty⟩
  | cons piece phrase ih =>
    cases piece with
    | symbol s => cases hsymbols
    | text t =>
      have hrest := ih hseparated.tail hsymbols
      refine ⟨?_, hrest.1⟩
      cases hseparated.sound _ List.mem_cons_self with
      | text hplain =>
        rw [Phrase.fill_cons]
        exact hrest.1.after hplain
    | token t =>
      have hrest := ih hseparated.tail hsymbols
      refine ⟨?_, hrest.1⟩
      have hvalue := h.composed_resolve t
      rw [Phrase.fill_cons]
      rcases hseparated.behind_token with rfl | ⟨text, rest, rfl, hplain, hne⟩
      · exact hvalue.before hempty
      · rw [Phrase.fill_cons, ← String.append_assoc]
        exact .append hplain hne hvalue hrest.2

end TokenMap.IsStandard
end UpSetProse
