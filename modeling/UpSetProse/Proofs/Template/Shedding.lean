import UpSetProse.Proofs.Template.PassLimits
import UpSetProse.Proofs.Template.Reading
import UpSetProse.Proofs.Token.Map

/-!
# Passes that shed brackets

A marker has four brackets of its own. If every name gives way to a text with at most two brackets
more than the name itself, each pass that finds a marker takes at least two brackets off the text,
whatever markers form anew, so that a text comes to an end in at most half as many passes as it has
brackets. Token maps replace names in this way if no registered token has a value with a brace: an
unknown name keeps its own braces and is put between two more.
-/

namespace UpSetProse

open Segment (names)

namespace Markers

/-- How many brackets a text has, opening and closing ones together. -/
def bracketCount (markers : Markers) (text : List Char) : Nat :=
  text.countP fun c => c = markers.opener ∨ c = markers.closer

@[simp] theorem bracketCount_nil (markers : Markers) : markers.bracketCount [] = 0 := rfl

@[simp] theorem bracketCount_append (markers : Markers) (left right : List Char) :
    markers.bracketCount (left ++ right) =
      markers.bracketCount left + markers.bracketCount right :=
  List.countP_append

@[simp] theorem bracketCount_opener_cons (markers : Markers) (text : List Char) :
    markers.bracketCount (markers.opener :: text) = markers.bracketCount text + 1 :=
  List.countP_cons_of_pos (by simp)

@[simp] theorem bracketCount_closer_cons (markers : Markers) (text : List Char) :
    markers.bracketCount (markers.closer :: text) = markers.bracketCount text + 1 :=
  List.countP_cons_of_pos (by simp)

@[simp] theorem bracketCount_mark (markers : Markers) (name : List Char) :
    markers.bracketCount (markers.mark name) = markers.bracketCount name + 4 := by
  simp [mark]

theorem Free.bracketCount {markers : Markers} {text : List Char} (h : markers.Free text) :
    markers.bracketCount text = 0 := by
  refine List.countP_eq_zero.mpr fun c hc => ?_
  rw [decide_eq_true_iff]
  rintro (rfl | rfl)
  · exact h.1 hc
  · exact h.2 hc

/-- A text without brackets marks no names. -/
theorem names_eq_nil_of_bracketCount {markers : Markers} {text : List Char}
    (h : markers.bracketCount text = 0) : names markers text = [] := by
  refine Segment.names_eq_nil_of_not_infix fun hfound => ?_
  have hopener := List.countP_eq_zero.mp h _ (hfound.subset List.mem_cons_self)
  simp at hopener

/-- What stands for a name has at most two brackets more than the name. -/
def Sheds (markers : Markers) (replace : List Char → List Char) : Prop :=
  ∀ name, markers.bracketCount (replace name) ≤ markers.bracketCount name + 2

/-- Every marker that is replaced takes two brackets off the text. -/
theorem Sheds.bracketCount_replaceOnce {markers : Markers} {replace : List Char → List Char}
    (h : markers.Sheds replace) (text : List Char) :
    markers.bracketCount (replaceOnce markers replace text) + 2 * (names markers text).length ≤
      markers.bracketCount text := by
  suffices ∀ parts : List Segment,
      markers.bracketCount (parts.flatMap (Segment.replaceWith replace)) +
        2 * (parts.filterMap Segment.name?).length ≤
      markers.bracketCount (parts.flatMap (Segment.write markers)) by
    have htext := this (Segment.ofText markers text)
    rwa [Segment.flatMap_write_ofText] at htext
  intro parts
  induction parts with
  | nil => exact Nat.le_refl 0
  | cons part parts ih =>
    rw [List.flatMap_cons, List.flatMap_cons, bracketCount_append, bracketCount_append]
    cases part with
    | literal literal =>
      simp only [List.filterMap_cons, Segment.name?, Segment.replaceWith, Segment.write]
      omega
    | symbol name =>
      have hname := h name
      simp only [List.filterMap_cons, Segment.name?, List.length_cons, Segment.replaceWith,
        Segment.write, bracketCount_mark]
      omega

end Markers

namespace Substitution

variable {substitution : Substitution} {phase : Phase}

/-- As long as markers are left, the passes made have taken two brackets each. -/
theorem bracketCount_after (h : phase.markers.Sheds substitution.replaceChars) {passes : Nat}
    {text : List Char} (hleft : names phase.markers (substitution.after phase passes text) ≠ []) :
    phase.markers.bracketCount (substitution.after phase passes text) + 2 * passes ≤
      phase.markers.bracketCount text := by
  induction passes with
  | zero => exact Nat.le_refl _
  | succ passes ih =>
    have hbefore : names phase.markers (substitution.after phase passes text) ≠ [] := by
      intro hnil
      rw [after_of_names_eq_nil hnil (Nat.le_succ passes)] at hleft
      exact hleft hnil
    have hstep := h.bracketCount_replaceOnce (substitution.after phase passes text)
    have hpos := List.length_pos_iff.mpr hbefore
    have hearlier := ih hbefore
    rw [after_succ]
    omega

/-- After half as many passes as a text has brackets, no marker is left. -/
theorem names_after_eq_nil (h : phase.markers.Sheds substitution.replaceChars) {passes : Nat}
    {text : List Char} (hpasses : phase.markers.bracketCount text ≤ 2 * passes) :
    names phase.markers (substitution.after phase passes text) = [] := by
  by_contra hleft
  have hcount := bracketCount_after h hleft
  exact hleft (Markers.names_eq_nil_of_bracketCount (by omega))

/-- The result of a phase marks no name. -/
theorem not_infix_mark_of_run {minPasses : Nat} {text result : String}
    (h : substitution.run phase minPasses text = .ok result) (name : List Char) :
    ¬ phase.markers.mark name <:+: result.toList := by
  obtain ⟨hnames, rfl⟩ := run_eq_ok_iff.mp h
  rw [String.toList_ofList]
  intro hfound
  obtain ⟨_, _, first, _, hopen, hclose⟩ := Segment.exists_cut_of_infix_mark hfound
  rw [names, Segment.ofText_of_marker hopen hclose] at hnames
  simp [Segment.name?] at hnames

end Substitution

namespace TokenMap

variable {map : TokenMap}

/-- Without braces in the values of the registered tokens, every replacement sheds two braces. -/
theorem sheds_of_free
    (h : ∀ name, map.contains name = true → Markers.curly.Free (map.resolve name).toList) :
    Markers.curly.Sheds map.substitution.replaceChars := by
  intro name
  change Markers.curly.bracketCount (map.resolve (String.ofList name)).toList ≤ _
  cases hregistered : map.contains (String.ofList name) with
  | true =>
    rw [(h _ hregistered).bracketCount]
    exact Nat.zero_le _
  | false =>
    rw [contains, Option.isSome_eq_false_iff, Option.isNone_iff_eq_none] at hregistered
    have hbraced : (map.resolve (String.ofList name)).toList =
        Markers.curly.opener :: (name ++ [Markers.curly.closer]) := by
      rw [resolve_of_get?_eq_none hregistered]
      simp [Markers.opener, Markers.closer]
    rw [hbraced]
    simp

/-- If the values of the registered tokens have no braces, a text with at most twice as many braces
as passes are permitted is rewritten to a text in which no opening pair of braces has a closing pair
behind it, and every text is if enough passes are asked for. -/
theorem expandTerminals_of_free_values
    (h : ∀ name, map.contains name = true → Markers.curly.Free (map.resolve name).toList)
    (text : String) :
    (∀ minPasses, Markers.curly.bracketCount text.toList ≤ 2 * max minPasses (map.size + 1) →
      ∃ result, expandTerminals map.substitution minPasses text = .ok result ∧
        ∀ name, ¬ Markers.curly.mark name <:+: result.toList) ∧
    ∃ enough result, (∀ name, ¬ Markers.curly.mark name <:+: result.toList) ∧
      ∀ minPasses ≥ enough, expandTerminals map.substitution minPasses text = .ok result := by
  have hsheds : Phase.terminal.markers.Sheds map.substitution.replaceChars := sheds_of_free h
  have hexpands (minPasses : Nat)
      (hcount : Markers.curly.bracketCount text.toList ≤ 2 * max minPasses (map.size + 1)) :
      ∃ result, expandTerminals map.substitution minPasses text = .ok result ∧
        ∀ name, ¬ Markers.curly.mark name <:+: result.toList := by
    have hrun := Substitution.run_of_names_eq_nil map.substitution .terminal minPasses text
      (Substitution.names_after_eq_nil hsheds hcount)
    exact ⟨_, hrun, Substitution.not_infix_mark_of_run hrun⟩
  refine ⟨hexpands, ?_⟩
  obtain ⟨result, hresult, hmarks⟩ := hexpands (Markers.curly.bracketCount text.toList) (by omega)
  exact ⟨_, result, hmarks, fun minPasses hle => Substitution.run_of_le hle hresult⟩

/-- A text of stray and nested braces around a token and an unknown name. -/
theorem expandTerminals_of_free_values_nested :
    let text := "\x7b\x7b\x7b\x7ba\x7d\x7d\x7d\x7d \x7b\x7bb\x7b\x7ba\x7d\x7d\x7d \x7b\x7b"
    ∃ map : TokenMap, map.contains "a" = true ∧
      (∀ name, map.contains name = true → Markers.curly.Free (map.resolve name).toList) ∧
      Markers.curly.bracketCount text.toList ≤ 2 * max 9 (map.size + 1) ∧
      ∃ result, expandTerminals map.substitution 9 text = .ok result ∧
        ∀ name, ¬ Markers.curly.mark name <:+: result.toList := by
  intro text
  obtain ⟨a, -⟩ : ∃ a, Analysis.ofPlot .empty default = .ok a := exists_eq_ok (by decide +kernel)
  let map : TokenMap := ⟨a, .insert .empty "a" (.text "x")⟩
  have hvalues : ∀ name, map.contains name = true →
      Markers.curly.Free (map.resolve name).toList := by
    intro name hname
    rw [contains, NameTable.get?_insert] at hname
    split at hname
    · rename_i heq
      rw [heq]
      exact (by decide : Markers.curly.Free "x".toList)
    · cases hname
  have hcount : Markers.curly.bracketCount text.toList ≤ 2 * max 9 (map.size + 1) :=
    (by decide +kernel : Markers.curly.bracketCount text.toList ≤ 2 * max 9 (1 + 1))
  have hexpands := (expandTerminals_of_free_values hvalues text).1 9 hcount
  exact ⟨map, rfl, hvalues, hcount, hexpands⟩

end TokenMap
end UpSetProse
