import UpSetProse.Proofs.Outcomes
import UpSetProse.Proofs.Template.Passes

/-!
# Limits on passes

A limit on passes can cut an expansion short, but it does not change what is computed: passes beyond
those that a text takes find nothing to replace. An expansion that succeeds therefore gives the same
prose however many more passes are asked for, and one that fails has made all the passes that its
phase is permitted, which it reports.
-/

namespace UpSetProse

namespace Substitution

variable {substitution : Substitution} {phase : Phase} {text : String}

/-- Who asks for more passes is not permitted fewer. -/
theorem passLimit_mono (substitution : Substitution) {fewer passes : Nat} (h : fewer ≤ passes) :
    substitution.passLimit fewer ≤ substitution.passLimit passes :=
  Nat.max_le.mpr ⟨h.trans (Nat.le_max_left _ _), Nat.le_max_right _ _⟩

/-- A phase that succeeds gives the same text when more passes are asked for. -/
theorem run_of_le {fewer passes : Nat} (hle : fewer ≤ passes) {result : String}
    (h : substitution.run phase fewer text = .ok result) :
    substitution.run phase passes text = .ok result := by
  rw [run_eq_ok_iff] at h ⊢
  obtain ⟨hnames, hresult⟩ := h
  have hsame := after_of_names_eq_nil hnames (substitution.passLimit_mono hle)
  rw [hsame]
  exact ⟨hnames, hresult⟩

/-- A phase that fails reports itself and all the passes that it is permitted. -/
theorem phase_and_passes_of_run {minPasses : Nat} {e : CycleError}
    (h : substitution.run phase minPasses text = .error e) :
    e.phase = phase ∧ e.passes = max minPasses (substitution.size + 1) := by
  simp only [run] at h
  split at h
  · cases h
  · cases h
    exact ⟨rfl, rfl⟩

end Substitution

/-- The number of definitions that a phase draws on: phrases first, then the values of tokens. -/
def Phase.tableSize (phrases : PhraseTable) (tokens : Substitution) : Phase → Nat
  | nonTerminal => phrases.entries.length
  | terminal => tokens.size

section expand

variable {phrases : PhraseTable} {tokens : Substitution} {template : String}

/-- An expansion that succeeds gives the same prose when more passes are asked for. -/
theorem expand_of_le {fewer passes : Nat} (hle : fewer ≤ passes) {result : String}
    (h : expand phrases tokens fewer template = .ok result) :
    expand phrases tokens passes template = .ok result := by
  obtain ⟨phrased, hphrased, h⟩ := bind_eq_ok.mp h
  obtain ⟨resolved, hresolved, h⟩ := bind_eq_ok.mp h
  exact bind_eq_ok.mpr ⟨phrased, Substitution.run_of_le hle hphrased,
    bind_eq_ok.mpr ⟨resolved, Substitution.run_of_le hle hresolved, h⟩⟩

/-- An expansion fails in one of its phases, with all the passes that this phase is permitted. -/
theorem passes_of_expand_eq_error {minPasses : Nat} {e : CycleError}
    (h : expand phrases tokens minPasses template = .error e) :
    e.passes = max minPasses (e.phase.tableSize phrases tokens + 1) := by
  rcases bind_eq_error.mp h with hphrased | ⟨phrased, _, h⟩
  · obtain ⟨hphase, hpasses⟩ := Substitution.phase_and_passes_of_run hphrased
    rw [hphase, hpasses]
    rfl
  · rcases bind_eq_error.mp h with hresolved | ⟨resolved, _, h⟩
    · obtain ⟨hphase, hpasses⟩ := Substitution.phase_and_passes_of_run hresolved
      rw [hphase, hpasses]
      rfl
    · cases h

end expand

/-- Whatever tables and template are expanded, asking for more passes keeps every success with its
prose, so that a failure with more passes is one with fewer, and all successes agree. Every failure,
of an expansion or of one of its phases alone, reports the larger one of the passes asked for and of
one more than the table of its phase has definitions. -/
theorem expand_indifferent_to_passes (phrases : PhraseTable) (tokens : Substitution)
    (template : String) :
    (∀ fewer passes result, fewer ≤ passes →
      expand phrases tokens fewer template = .ok result →
        expand phrases tokens passes template = .ok result) ∧
    (∀ fewer passes e, fewer ≤ passes → expand phrases tokens passes template = .error e →
      ∃ e', expand phrases tokens fewer template = .error e') ∧
    (∀ first second result result', expand phrases tokens first template = .ok result →
      expand phrases tokens second template = .ok result' → result = result') ∧
    (∀ minPasses e, expand phrases tokens minPasses template = .error e →
      e.passes = max minPasses (e.phase.tableSize phrases tokens + 1)) ∧
    (∀ minPasses e, expandNonTerminals phrases minPasses template = .error e →
      e.phase = .nonTerminal ∧ e.passes = max minPasses (phrases.entries.length + 1)) ∧
    (∀ minPasses e, expandTerminals tokens minPasses template = .error e →
      e.phase = .terminal ∧ e.passes = max minPasses (tokens.size + 1)) := by
  refine ⟨fun fewer passes result hle => expand_of_le hle, fun fewer passes e hle herror => ?_,
    fun first second result result' hfirst hsecond => ?_, fun _ _ => passes_of_expand_eq_error,
    fun _ _ => Substitution.phase_and_passes_of_run,
    fun _ _ => Substitution.phase_and_passes_of_run⟩
  · cases hfewer : expand phrases tokens fewer template with
    | error e' => exact ⟨e', rfl⟩
    | ok result => cases herror.symm.trans (expand_of_le hle hfewer)
  · have hfirst := expand_of_le (Nat.le_max_left first second) hfirst
    have hsecond := expand_of_le (Nat.le_max_right first second) hsecond
    exact Except.ok.inj (hfirst.symm.trans hsecond)

/-- Without tokens, each pass takes away one of the braces on either side. -/
theorem expand_indifferent_to_passes_nested :
    let tokens : Substitution := ⟨fun name => "\x7b" ++ name ++ "\x7d", 0⟩
    let template := "\x7b\x7b\x7b\x7ba\x7d\x7d\x7d\x7d"
    (expand .empty tokens 0 template = .error ⟨.terminal, 1, "\x7ba"⟩ ∧
      expand .empty tokens 3 template = .ok "\x7ba\x7d") ∧
    ∀ passes ≥ 3, expand .empty tokens passes template = .ok "\x7ba\x7d" := by
  intro tokens template
  have hthree : expand .empty tokens 3 template = .ok "\x7ba\x7d" := by decide +kernel
  refine ⟨⟨by decide +kernel, hthree⟩, fun passes hle => ?_⟩
  exact (expand_indifferent_to_passes .empty tokens template).1 3 passes _ hle hthree

end UpSetProse
