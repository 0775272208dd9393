import Mathlib.Logic.Function.Iterate
import UpSetProse.Proofs.Template.Marked

/-!
# Runs of passes

A text without symbols is a fixed point of replacement, so a run that stops early ends where all of
the permitted passes would have ended. Every statement about a whole run is thereby one about an
iterate: the run succeeds exactly when the last iterate holds no symbol.
-/

namespace UpSetProse

open Segment (names)

/-- The last symbol of a text is the last name read in it. -/
theorem lastSymbol?_eq (markers : Markers) (text : List Char) :
    lastSymbol? markers text = (names markers text).getLast? := rfl

/-- Further passes leave a text without symbols as it is. -/
theorem iterate_replaceOnce_of_names_eq_nil {markers : Markers} {text : List Char}
    (h : names markers text = []) (replace : List Char → List Char) (passes : Nat) :
    (replaceOnce markers replace)^[passes] text = text :=
  Function.iterate_fixed (replaceOnce_of_names_eq_nil h replace) passes

/-- A run is decided by the text that all of its passes lead to. -/
theorem replaceWithin_eq (markers : Markers) (replace : List Char → List Char) (passes : Nat)
    (text : List Char) :
    replaceWithin markers replace passes text =
      match (names markers ((replaceOnce markers replace)^[passes] text)).getLast? with
      | none => .ok ((replaceOnce markers replace)^[passes] text)
      | some name => .error name := by
  induction passes generalizing text with
  | zero => rfl
  | succ passes ih =>
    unfold replaceWithin
    rw [lastSymbol?_eq]
    cases hlast : (names markers text).getLast? with
    | none =>
      have hnames := List.getLast?_eq_none_iff.mp hlast
      rw [iterate_replaceOnce_of_names_eq_nil hnames, hlast]
    | some name => exact ih (replaceOnce markers replace text)

/-- What holds of the characters of a text, and of those that its names give way to, holds of all
characters after a pass. -/
theorem forall_mem_replaceOnce {markers : Markers} {replace : List Char → List Char}
    {p : Char → Prop} (hreplace : ∀ name, (∀ c ∈ name, p c) → ∀ c ∈ replace name, p c)
    {text : List Char} (h : ∀ c ∈ text, p c) : ∀ c ∈ replaceOnce markers replace text, p c := by
  intro c hc
  obtain ⟨part, hpart, hc⟩ := List.mem_flatMap.mp hc
  have hwritten : ∀ d ∈ part.write markers, p d := by
    rw [← Segment.flatMap_write_ofText markers text] at h
    exact fun d hd => h d (List.mem_flatMap.mpr ⟨part, hpart, hd⟩)
  cases part with
  | literal => exact hwritten c hc
  | symbol name =>
    refine hreplace name (fun d hd => hwritten d ?_) c hc
    exact List.mem_append_left _ (List.mem_cons_of_mem _ (List.mem_cons_of_mem _ hd))

namespace Substitution

/-- The text after a number of passes of one phase. -/
def after (substitution : Substitution) (phase : Phase) (passes : Nat) (text : List Char) :
    List Char := (replaceOnce phase.markers substitution.replaceChars)^[passes] text

@[simp] theorem after_zero (substitution : Substitution) (phase : Phase) (text : List Char) :
    substitution.after phase 0 text = text := rfl

/-- The last pass is made on what the passes before it leave. -/
theorem after_succ (substitution : Substitution) (phase : Phase) (passes : Nat)
    (text : List Char) :
    substitution.after phase (passes + 1) text =
      replaceOnce phase.markers substitution.replaceChars
        (substitution.after phase passes text) :=
  Function.iterate_succ_apply' _ _ _

/-- The passes after the first are made on what the first one leaves. -/
theorem after_succ' (substitution : Substitution) (phase : Phase) (passes : Nat)
    (text : List Char) :
    substitution.after phase (passes + 1) text =
      substitution.after phase passes
        (replaceOnce phase.markers substitution.replaceChars text) :=
  Function.iterate_succ_apply _ _ _

/-- What holds of all characters of a text, and is kept by replacement, holds after every pass. -/
theorem forall_mem_after {substitution : Substitution} {p : Char → Prop}
    (hreplace : ∀ name, (∀ c ∈ name, p c) → ∀ c ∈ substitution.replaceChars name, p c)
    (phase : Phase) (passes : Nat) {text : List Char} (h : ∀ c ∈ text, p c) :
    ∀ c ∈ substitution.after phase passes text, p c := by
  induction passes with
  | zero => exact h
  | succ passes ih =>
    rw [after_succ]
    exact forall_mem_replaceOnce hreplace ih

/-- A first character that opens no marker stays in front. -/
theorem head?_after (substitution : Substitution) {phase : Phase} (passes : Nat) {text : List Char}
    {c : Char} (hhead : text.head? = some c) (h : c ≠ phase.markers.opener) :
    (substitution.after phase passes text).head? = some c := by
  induction passes with
  | zero => exact hhead
  | succ passes ih =>
    obtain ⟨rest, hrest⟩ := List.head?_eq_some_iff.mp ih
    rw [after_succ, hrest, replaceOnce_cons h, List.head?_cons]

/-- A phase succeeds when the permitted passes lead to a text without symbols. -/
theorem run_of_names_eq_nil (substitution : Substitution) (phase : Phase) (minPasses : Nat)
    (text : String) (h : names phase.markers
      (substitution.after phase (substitution.passLimit minPasses) text.toList) = []) :
    substitution.run phase minPasses text =
      .ok (String.ofList
        (substitution.after phase (substitution.passLimit minPasses) text.toList)) := by
  unfold after at *
  simp only [run, replaceWithin_eq, h, List.getLast?_nil]

/-- A phase fails, naming a symbol that is left, when some symbol is left. -/
theorem run_of_names_ne_nil (substitution : Substitution) (phase : Phase) (minPasses : Nat)
    (text : String) (h : names phase.markers
      (substitution.after phase (substitution.passLimit minPasses) text.toList) ≠ []) :
    ∃ name ∈ names phase.markers
        (substitution.after phase (substitution.passLimit minPasses) text.toList),
      substitution.run phase minPasses text =
        .error ⟨phase, substitution.passLimit minPasses, String.ofList name⟩ := by
  refine ⟨_, List.getLast_mem h, ?_⟩
  unfold after at *
  simp only [run, replaceWithin_eq, List.getLast?_eq_some_getLast h]

/-- A phase succeeds exactly when the permitted passes lead to a text without symbols. -/
theorem run_eq_ok_iff {substitution : Substitution} {phase : Phase} {minPasses : Nat}
    {text result : String} :
    substitution.run phase minPasses text = .ok result ↔
      names phase.markers
        (substitution.after phase (substitution.passLimit minPasses) text.toList) = [] ∧
      String.ofList
        (substitution.after phase (substitution.passLimit minPasses) text.toList) = result := by
  by_cases hnames : names phase.markers
      (substitution.after phase (substitution.passLimit minPasses) text.toList) = []
  · rw [run_of_names_eq_nil substitution phase minPasses text hnames, Except.ok.injEq]
    exact (and_iff_right hnames).symm
  · obtain ⟨name, _, hrun⟩ := run_of_names_ne_nil substitution phase minPasses text hnames
    rw [hrun]
    exact iff_of_false (fun h => by cases h) fun h => hnames h.1

/-- At least one pass is permitted. -/
theorem passLimit_pos (substitution : Substitution) (minPasses : Nat) :
    0 < substitution.passLimit minPasses :=
  Nat.lt_of_lt_of_le (Nat.succ_pos _) (Nat.le_max_right _ _)

/-- Which passes are permitted beyond those that a table needs makes no difference. -/
theorem after_of_names_eq_nil {substitution : Substitution} {phase : Phase} {fewer passes : Nat}
    {text : List Char} (h : names phase.markers (substitution.after phase fewer text) = [])
    (hle : fewer ≤ passes) :
    substitution.after phase passes text = substitution.after phase fewer text := by
  obtain ⟨more, rfl⟩ := Nat.exists_eq_add_of_le' hle
  unfold after at *
  rw [Function.iterate_add_apply, iterate_replaceOnce_of_names_eq_nil h]

end Substitution
end UpSetProse
