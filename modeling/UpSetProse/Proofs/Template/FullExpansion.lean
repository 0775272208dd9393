import UpSetProse.Proofs.Template.Passes
import UpSetProse.Proofs.Template.References

/-!
# The full expansion of a template

What a template means is a recursion on its symbols: each stands for the full expansion of its
phrase, an undefined one for nothing. One pass keeps this meaning, so a run that comes to an end
yields it, and a run comes to an end exactly when no cycle of references can be reached.
-/

namespace UpSetProse.PhraseTable

open Relation
open Segment (names)

/-- The text expands fully to the result: symbols give way to their fully expanded phrases. -/
inductive Expands (phrases : PhraseTable) : List Char → List Char → Prop where
  | nil : Expands phrases [] []
  | char {c : Char} {rest result : List Char} (hc : Markers.square.Free [c]) :
      Expands phrases rest result → Expands phrases (c :: rest) (c :: result)
  | defined {name rest inserted result : List Char} {phrase : String}
      (hname : Markers.square.Free name)
      (hphrase : phrases.get? (String.ofList name) = some phrase) :
      Expands phrases phrase.toList inserted → Expands phrases rest result →
      Expands phrases (Markers.square.mark name ++ rest) (inserted ++ result)
  | undefined {name rest result : List Char} (hname : Markers.square.Free name)
      (hphrase : phrases.get? (String.ofList name) = none) :
      Expands phrases rest result → Expands phrases (Markers.square.mark name ++ rest) result

/-- Every phrase of the table is a marked text. -/
def WellFormed (phrases : PhraseTable) : Prop :=
  ∀ phrase ∈ phrases.values, Markers.square.Marked phrase.toList

theorem replaceChars_of_some {phrases : PhraseTable} {name : List Char} {phrase : String}
    (h : phrases.get? (String.ofList name) = some phrase) :
    phrases.substitution.replaceChars name = phrase.toList := by
  simp [Substitution.replaceChars, substitution, h]

theorem replaceChars_of_none {phrases : PhraseTable} {name : List Char}
    (h : phrases.get? (String.ofList name) = none) :
    phrases.substitution.replaceChars name = [] := by
  simp [Substitution.replaceChars, substitution, h]

/-- Whatever a name stands for in a well-formed table is a marked text. -/
theorem WellFormed.marked_replaceChars {phrases : PhraseTable} (h : phrases.WellFormed)
    (name : List Char) : Markers.square.Marked (phrases.substitution.replaceChars name) := by
  cases hphrase : phrases.get? (String.ofList name) with
  | none =>
    rw [replaceChars_of_none hphrase]
    exact .nil
  | some phrase =>
    rw [replaceChars_of_some hphrase]
    exact h phrase (List.mem_map.mpr ⟨_, NameTable.get?_eq_some_iff.mp hphrase, rfl⟩)

/-- References are the names in what a symbol stands for. -/
theorem WellFormed.refers_iff {phrases : PhraseTable} (h : phrases.WellFormed)
    (symbol other : String) :
    phrases.Refers symbol other ↔
      other.toList ∈ names .square (phrases.substitution.replaceChars symbol.toList) := by
  rw [← (h.marked_replaceChars symbol.toList).mentions_iff]
  unfold Refers
  cases hphrase : phrases.get? symbol with
  | none =>
    rw [replaceChars_of_none (by rw [String.ofList_toList, hphrase])]
    simp [Markers.Mentions, Markers.mark]
  | some phrase =>
    rw [replaceChars_of_some (by rw [String.ofList_toList, hphrase])]
    simp

/-- No symbol is on a cycle if the names in every phrase rank below its symbol. -/
theorem WellFormed.not_onCycle {phrases : PhraseTable} (h : phrases.WellFormed)
    (rank : String → Nat) (hrank : ∀ entry ∈ phrases.entries,
      ∀ name ∈ names .square entry.2.toList, rank (String.ofList name) < rank entry.1)
    (symbol : String) : ¬ phrases.OnCycle symbol := by
  refine not_onCycle_of_rank rank (fun symbol other hrefers => ?_) symbol
  obtain ⟨phrase, hphrase, hmentions⟩ := hrefers
  have hentry := NameTable.get?_eq_some_iff.mp hphrase
  have hmarked := h phrase (List.mem_map.mpr ⟨_, hentry, rfl⟩)
  simpa using hrank _ hentry _ ((hmarked.mentions_iff _).mp hmentions)

namespace Expands

/-- A symbol expands to the expansion of what it stands for. -/
theorem marker {phrases : PhraseTable} {name rest inserted result : List Char}
    (hname : Markers.square.Free name)
    (hinserted : phrases.Expands (phrases.substitution.replaceChars name) inserted)
    (hrest : phrases.Expands rest result) :
    phrases.Expands (Markers.square.mark name ++ rest) (inserted ++ result) := by
  cases hphrase : phrases.get? (String.ofList name) with
  | none =>
    rw [replaceChars_of_none hphrase] at hinserted
    cases hinserted
    exact .undefined hname hphrase hrest
  | some phrase =>
    rw [replaceChars_of_some hphrase] at hinserted
    exact .defined hname hphrase hinserted hrest

/-- An ordinary character expands to itself only. -/
theorem of_char {phrases : PhraseTable} {c : Char} {rest result : List Char}
    (hc : Markers.square.Free [c]) (h : phrases.Expands (c :: rest) result) :
    ∃ result', result = c :: result' ∧ phrases.Expands rest result' := by
  generalize htext : c :: rest = text at h
  cases h with
  | nil => cases htext
  | char _ hrest =>
    cases htext
    exact ⟨_, rfl, hrest⟩
  | defined => exact absurd (List.cons.inj htext).1 hc.ne_opener
  | undefined => exact absurd (List.cons.inj htext).1 hc.ne_opener

/-- A symbol expands to nothing but expansions of what it stands for. -/
theorem of_marker {phrases : PhraseTable} {name rest result : List Char}
    (hname : Markers.square.Free name)
    (h : phrases.Expands (Markers.square.mark name ++ rest) result) :
    ∃ inserted result', result = inserted ++ result' ∧
      phrases.Expands (phrases.substitution.replaceChars name) inserted ∧
      phrases.Expands rest result' := by
  generalize htext : Markers.square.mark name ++ rest = text at h
  cases h with
  | nil => cases htext
  | char hc => exact absurd (List.cons.inj htext).1.symm hc.ne_opener
  | @defined other _ inserted result' phrase hother hphrase hinserted hrest =>
    obtain ⟨rfl, rfl⟩ := Markers.eq_of_mark_append hname hother htext
    rw [replaceChars_of_some hphrase]
    exact ⟨_, _, rfl, hinserted, hrest⟩
  | @undefined other _ _ hother hphrase hrest =>
    obtain ⟨rfl, rfl⟩ := Markers.eq_of_mark_append hname hother htext
    rw [replaceChars_of_none hphrase]
    exact ⟨[], _, rfl, .nil, hrest⟩

/-- A text has at most one full expansion. -/
theorem unique {phrases : PhraseTable} {text result other : List Char}
    (h : phrases.Expands text result) (h' : phrases.Expands text other) : result = other := by
  induction h generalizing other with
  | nil =>
    cases h'
    rfl
  | char hc _ ih =>
    obtain ⟨_, rfl, hrest⟩ := h'.of_char hc
    rw [ih hrest]
  | defined hname hphrase _ _ ihinserted ihrest =>
    obtain ⟨inserted', _, rfl, hinserted', hrest'⟩ := h'.of_marker hname
    rw [replaceChars_of_some hphrase] at hinserted'
    rw [ihinserted hinserted', ihrest hrest']
  | undefined hname hphrase _ ih =>
    obtain ⟨inserted', _, rfl, hinserted', hrest'⟩ := h'.of_marker hname
    rw [replaceChars_of_none hphrase] at hinserted'
    cases hinserted'
    exact ih hrest'

/-- The expansion of a marked text followed by another one falls into their expansions. -/
theorem of_append {phrases : PhraseTable} {left right result : List Char}
    (hleft : Markers.square.Marked left) (h : phrases.Expands (left ++ right) result) :
    ∃ first second, result = first ++ second ∧ phrases.Expands left first ∧
      phrases.Expands right second := by
  induction hleft generalizing result with
  | nil => exact ⟨[], result, rfl, .nil, h⟩
  | char hc _ ih =>
    obtain ⟨_, rfl, hrest⟩ := h.of_char hc
    obtain ⟨first, second, rfl, hfirst, hsecond⟩ := ih hrest
    exact ⟨_, second, rfl, .char hc hfirst, hsecond⟩
  | marker hname _ ih =>
    rw [List.append_assoc] at h
    obtain ⟨inserted, _, rfl, hinserted, hrest⟩ := h.of_marker hname
    obtain ⟨first, second, rfl, hfirst, hsecond⟩ := ih hrest
    exact ⟨inserted ++ first, second, by rw [List.append_assoc],
      .marker hname hinserted hfirst, hsecond⟩

/-- A marked text without symbols is its own expansion. -/
theorem of_names_eq_nil {phrases : PhraseTable} {text : List Char}
    (h : Markers.square.Marked text) (hnames : names .square text = []) :
    phrases.Expands text text := by
  induction h with
  | nil => exact .nil
  | char hc _ ih =>
    rw [Segment.names_cons hc.ne_opener] at hnames
    exact .char hc (ih hnames)
  | marker hname =>
    rw [Segment.names_mark hname.2] at hnames
    cases hnames

/-- One pass keeps the meaning of a text. -/
theorem of_replaceOnce {phrases : PhraseTable} (hphrases : phrases.WellFormed)
    {text result : List Char} (htext : Markers.square.Marked text)
    (h : phrases.Expands (replaceOnce .square phrases.substitution.replaceChars text) result) :
    phrases.Expands text result := by
  induction htext generalizing result with
  | nil => simpa using h
  | char hc _ ih =>
    rw [replaceOnce_cons hc.ne_opener] at h
    obtain ⟨_, rfl, hrest⟩ := h.of_char hc
    exact .char hc (ih hrest)
  | @marker name rest hname _ ih =>
    rw [replaceOnce_mark hname.2] at h
    obtain ⟨inserted, _, rfl, hinserted, hrest⟩ :=
      of_append (hphrases.marked_replaceChars name) h
    exact .marker hname hinserted (ih hrest)

end Expands
end UpSetProse.PhraseTable
