import UpSetProse.Proofs.Template.FullExpansion

/-!
# Convergence of the first phase

After a number of passes, the symbols in a text are those to which exactly as many references lead
from the symbols of the template. The permitted passes are more than the table has entries, so they
tell templates that reach a cycle from all others: these end in their full expansion, those in an
error whose symbol a cycle leads to.
-/

namespace UpSetProse

open Relation
open Segment (names)

namespace PhraseTable

variable {phrases : PhraseTable}

/-- A phase over a well-formed table keeps a text marked. -/
theorem WellFormed.marked_after (h : phrases.WellFormed) {text : List Char}
    (htext : Markers.square.Marked text) (passes : Nat) :
    Markers.square.Marked (phrases.substitution.after .nonTerminal passes text) := by
  induction passes with
  | zero => exact htext
  | succ passes ih =>
    rw [Substitution.after_succ]
    exact ih.replaced h.marked_replaceChars

/-- The symbols after some passes are those that as many references lead to. -/
theorem WellFormed.mem_names_after_iff (h : phrases.WellFormed) {template : String}
    (htemplate : Markers.square.Marked template.toList) (passes : Nat) (symbol : String) :
    symbol.toList ∈ names .square
        (phrases.substitution.after .nonTerminal passes template.toList) ↔
      ∃ start, Markers.square.Mentions template.toList start.toList ∧
        phrases.RefersIn start passes symbol := by
  induction passes generalizing symbol with
  | zero =>
    refine (htemplate.mentions_iff symbol.toList).symm.trans ⟨fun hsymbol => ?_, ?_⟩
    · exact ⟨symbol, hsymbol, .refl⟩
    · rintro ⟨start, hstart, hchain⟩
      cases hchain
      exact hstart
  | succ passes ih =>
    have hnames := (h.marked_after htemplate passes).names_replaceOnce h.marked_replaceChars
    rw [Substitution.after_succ, Phase.markers, hnames, List.mem_flatMap]
    constructor
    · rintro ⟨before, hbefore, hsymbol⟩
      rw [← String.toList_ofList (l := before)] at hbefore hsymbol
      obtain ⟨start, hstart, hchain⟩ := (ih _).mp hbefore
      exact ⟨start, hstart, hchain.tail ((h.refers_iff _ _).mpr hsymbol)⟩
    · rintro ⟨start, hstart, hchain⟩
      cases hchain with
      | tail hchain hrefers =>
        exact ⟨_, (ih _).mpr ⟨start, hstart, hchain⟩, (h.refers_iff _ _).mp hrefers⟩

/-- What passes make of a text without further symbols is its full expansion. -/
theorem WellFormed.expands_after (h : phrases.WellFormed) {text : List Char}
    (htext : Markers.square.Marked text) {passes : Nat}
    (hnames : names .square (phrases.substitution.after .nonTerminal passes text) = []) :
    phrases.Expands text (phrases.substitution.after .nonTerminal passes text) := by
  induction passes generalizing text with
  | zero => exact .of_names_eq_nil htext hnames
  | succ passes ih =>
    rw [Substitution.after_succ'] at hnames ⊢
    exact (ih (htext.replaced h.marked_replaceChars) hnames).of_replaceOnce h htext

/-- Without a cycle in reach, no symbol survives more passes than the table has entries. -/
theorem WellFormed.names_after_eq_nil (h : phrases.WellFormed) {template : String}
    (htemplate : Markers.square.Marked template.toList)
    (hacyclic : ∀ symbol, phrases.Reachable template symbol → ¬ phrases.OnCycle symbol)
    {passes : Nat} (hlong : phrases.entries.length < passes) :
    names .square (phrases.substitution.after .nonTerminal passes template.toList) = [] := by
  refine List.eq_nil_iff_forall_not_mem.mpr fun name hname => ?_
  rw [← String.toList_ofList (l := name)] at hname
  obtain ⟨start, hstart, hchain⟩ := (h.mem_names_after_iff htemplate passes _).mp hname
  obtain ⟨cyclic, hto, hcycle, _⟩ := hchain.exists_onCycle hlong
  exact hacyclic cyclic ⟨start, hstart, hto⟩ hcycle

/-- A symbol on a cycle leads to symbols on cycles at every later distance. -/
theorem RefersIn.exists_onCycle_at {start cyclic : String} {steps : Nat}
    (h : phrases.RefersIn start steps cyclic) (hcycle : phrases.OnCycle cyclic) (more : Nat) :
    ∃ symbol, phrases.RefersIn start (steps + more) symbol ∧ phrases.OnCycle symbol := by
  induction more with
  | zero => exact ⟨cyclic, h, hcycle⟩
  | succ more ih =>
    obtain ⟨symbol, hchain, hsymbol⟩ := ih
    exact hsymbol.exists_refersIn hchain

/-- With a cycle in reach, some symbol survives every number of passes. -/
theorem WellFormed.names_after_ne_nil (h : phrases.WellFormed) {template : String}
    (htemplate : Markers.square.Marked template.toList) {cyclic : String}
    (hreach : phrases.Reachable template cyclic) (hcycle : phrases.OnCycle cyclic)
    (passes : Nat) :
    names .square (phrases.substitution.after .nonTerminal passes template.toList) ≠ [] := by
  intro hnil
  obtain ⟨start, hstart, hpath⟩ := hreach
  obtain ⟨steps, hchain⟩ := exists_refersIn hpath
  obtain ⟨symbol, hlater, _⟩ := hchain.exists_onCycle_at hcycle passes
  have hmem := (h.mem_names_after_iff htemplate _ symbol).mpr ⟨start, hstart, hlater⟩
  have hfixed : phrases.substitution.after .nonTerminal (steps + passes) template.toList =
      phrases.substitution.after .nonTerminal passes template.toList :=
    Substitution.after_of_names_eq_nil hnil (Nat.le_add_left passes steps)
  rw [hfixed, hnil] at hmem
  exact List.not_mem_nil hmem

/-- A template that reaches no cycle ends in its full expansion, whatever passes are asked for. -/
theorem WellFormed.expandNonTerminals_of_acyclic (h : phrases.WellFormed) {template : String}
    (htemplate : Markers.square.Marked template.toList)
    (hacyclic : ∀ symbol, phrases.Reachable template symbol → ¬ phrases.OnCycle symbol)
    (minPasses : Nat) :
    ∃ result, expandNonTerminals phrases minPasses template = .ok result ∧
      phrases.Expands template.toList result.toList := by
  have hlong : phrases.entries.length < phrases.substitution.passLimit minPasses :=
    Nat.lt_of_succ_le (Nat.le_max_right _ _)
  have hnames := h.names_after_eq_nil htemplate hacyclic hlong
  refine ⟨_, Substitution.run_of_names_eq_nil _ .nonTerminal minPasses template hnames, ?_⟩
  rw [String.toList_ofList]
  exact h.expands_after htemplate hnames

/-- A template that reaches a cycle ends in an error after all permitted passes. -/
theorem WellFormed.expandNonTerminals_of_cyclic (h : phrases.WellFormed) {template : String}
    (htemplate : Markers.square.Marked template.toList) {cyclic : String}
    (hreach : phrases.Reachable template cyclic) (hcycle : phrases.OnCycle cyclic)
    (minPasses : Nat) :
    ∃ symbol origin, expandNonTerminals phrases minPasses template =
        .error ⟨.nonTerminal, max minPasses (phrases.entries.length + 1), symbol⟩ ∧
      phrases.OnCycle origin ∧ ReflTransGen phrases.Refers origin symbol := by
  have hlong : phrases.entries.length < phrases.substitution.passLimit minPasses :=
    Nat.lt_of_succ_le (Nat.le_max_right _ _)
  have hnames := h.names_after_ne_nil htemplate hreach hcycle
    (phrases.substitution.passLimit minPasses)
  obtain ⟨name, hname, herror⟩ : ∃ name ∈ names .square (phrases.substitution.after .nonTerminal
        (phrases.substitution.passLimit minPasses) template.toList),
      expandNonTerminals phrases minPasses template = .error
        ⟨.nonTerminal, phrases.substitution.passLimit minPasses, String.ofList name⟩ :=
    Substitution.run_of_names_ne_nil _ .nonTerminal minPasses template hnames
  rw [← String.toList_ofList (l := name)] at hname
  obtain ⟨start, hstart, hchain⟩ := (h.mem_names_after_iff htemplate _ _).mp hname
  obtain ⟨origin, _, horigin, hfrom⟩ := hchain.exists_onCycle hlong
  exact ⟨_, origin, herror, horigin, hfrom⟩

end PhraseTable

/-- The first phase decides whether a template reaches a cycle. If it reaches none, the result is
the full expansion; if it does, the error names a symbol that a cycle leads to. -/
theorem expandNonTerminals_decides_cycles {phrases : PhraseTable} (hphrases : phrases.WellFormed)
    {template : String} (htemplate : Markers.square.Marked template.toList) (minPasses : Nat) :
    ((∀ symbol, phrases.Reachable template symbol → ¬ phrases.OnCycle symbol) →
      ∃ result, expandNonTerminals phrases minPasses template = .ok result ∧
        ∀ text, phrases.Expands template.toList text ↔ text = result.toList) ∧
    ((∃ symbol, phrases.Reachable template symbol ∧ phrases.OnCycle symbol) →
      ∃ symbol origin, expandNonTerminals phrases minPasses template =
          .error ⟨.nonTerminal, max minPasses (phrases.entries.length + 1), symbol⟩ ∧
        phrases.OnCycle origin ∧ ReflTransGen phrases.Refers origin symbol) := by
  constructor
  · intro hacyclic
    obtain ⟨result, hok, hexpands⟩ :=
      hphrases.expandNonTerminals_of_acyclic htemplate hacyclic minPasses
    refine ⟨result, hok, fun text => ⟨fun htext => htext.unique hexpands, ?_⟩⟩
    rintro rfl
    exact hexpands
  · rintro ⟨symbol, hreach, hcycle⟩
    exact hphrases.expandNonTerminals_of_cyclic htemplate hreach hcycle minPasses

/-- Phrases of a greeting, which mentions one symbol that is undefined. -/
def PhraseTable.greetings : PhraseTable :=
  .ofList [("greeting", "hello [[name]][[mark]]"), ("name", "world")]

/-- Phrases of a call, which mentions a symbol that mentions itself. -/
def PhraseTable.echoes : PhraseTable :=
  .ofList [("call", "call [[echo]]"), ("echo", "[[echo]]!")]

theorem expandNonTerminals_greetings_and_echoes :
    PhraseTable.greetings.WellFormed ∧ PhraseTable.echoes.WellFormed ∧
    Markers.square.Marked "[[greeting]].".toList ∧ Markers.square.Marked "[[call]]".toList ∧
    (∃ result, expandNonTerminals .greetings 0 "[[greeting]]." = .ok result ∧
      ∀ text, PhraseTable.greetings.Expands "[[greeting]].".toList text ↔
        text = result.toList) ∧
    (∃ symbol origin, expandNonTerminals .echoes 0 "[[call]]" = .error ⟨.nonTerminal, 3, symbol⟩ ∧
      PhraseTable.echoes.OnCycle origin ∧
      ReflTransGen PhraseTable.echoes.Refers origin symbol) := by
  have hgreetings : PhraseTable.greetings.WellFormed := fun phrase hphrase =>
    Segment.marked_of_ofText ((by decide +kernel : ∀ phrase ∈ PhraseTable.greetings.values,
      ∀ part ∈ Segment.ofText .square phrase.toList, part.Free .square) phrase hphrase)
  have hechoes : PhraseTable.echoes.WellFormed := fun phrase hphrase =>
    Segment.marked_of_ofText ((by decide +kernel : ∀ phrase ∈ PhraseTable.echoes.values,
      ∀ part ∈ Segment.ofText .square phrase.toList, part.Free .square) phrase hphrase)
  have hgreeting : Markers.square.Marked "[[greeting]].".toList :=
    Segment.marked_of_ofText (by decide +kernel)
  have hcall : Markers.square.Marked "[[call]]".toList :=
    Segment.marked_of_ofText (by decide +kernel)
  have hacyclic (symbol : String) : ¬ PhraseTable.greetings.OnCycle symbol :=
    hgreetings.not_onCycle (fun symbol => if symbol = "greeting" then 1 else 0)
      (by decide +kernel) symbol
  have hecho : PhraseTable.echoes.Refers "echo" "echo" :=
    ⟨"[[echo]]!", by decide +kernel, by decide +kernel⟩
  have hto : PhraseTable.echoes.Refers "call" "echo" :=
    ⟨"call [[echo]]", by decide +kernel, by decide +kernel⟩
  have hreach : PhraseTable.echoes.Reachable "[[call]]" "echo" :=
    ⟨"call", by decide +kernel, .single hto⟩
  exact ⟨hgreetings, hechoes, hgreeting, hcall,
    (expandNonTerminals_decides_cycles hgreetings hgreeting 0).1 fun symbol _ => hacyclic symbol,
    (expandNonTerminals_decides_cycles hechoes hcall 0).2 ⟨"echo", hreach, .single hecho⟩⟩

end UpSetProse
