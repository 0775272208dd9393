import Mathlib.Data.Finset.Card
import Mathlib.Logic.Relation
import UpSetProse.Proofs.NameTable
import UpSetProse.Proofs.Template.Marked

/-!
# References between symbols

A symbol refers to the symbols that its phrase mentions. A chain of references that is longer than
the table has entries passes some symbol twice: the closing statement points out such a symbol on
the way.
-/

namespace UpSetProse.PhraseTable

open Relation

/-- The phrase of a symbol mentions the other symbol. -/
def Refers (phrases : PhraseTable) (symbol other : String) : Prop :=
  ∃ phrase, phrases.get? symbol = some phrase ∧
    Markers.square.Mentions phrase.toList other.toList

/-- References lead from a symbol back to itself. -/
def OnCycle (phrases : PhraseTable) (symbol : String) : Prop :=
  TransGen phrases.Refers symbol symbol

/-- References lead from a symbol that the text mentions to this one. -/
def Reachable (phrases : PhraseTable) (text symbol : String) : Prop :=
  ∃ start, Markers.square.Mentions text.toList start.toList ∧
    ReflTransGen phrases.Refers start symbol

/-- A chain of exactly that many references leads from one symbol to the other. -/
inductive RefersIn (phrases : PhraseTable) (start : String) : Nat → String → Prop where
  | refl : RefersIn phrases start 0 start
  | tail {steps : Nat} {symbol other : String} :
      RefersIn phrases start steps symbol → phrases.Refers symbol other →
      RefersIn phrases start (steps + 1) other

/-- A symbol that refers to anything is one that the table defines. -/
theorem Refers.mem_names {phrases : PhraseTable} {symbol other : String}
    (h : phrases.Refers symbol other) : symbol ∈ phrases.names := by
  obtain ⟨phrase, hphrase, _⟩ := h
  exact NameTable.mem_names_of_get? hphrase

theorem RefersIn.reflTransGen {phrases : PhraseTable} {start symbol : String} {steps : Nat}
    (h : phrases.RefersIn start steps symbol) : ReflTransGen phrases.Refers start symbol := by
  induction h with
  | refl => exact .refl
  | tail _ hrefers ih => exact ih.tail hrefers

theorem exists_refersIn {phrases : PhraseTable} {start symbol : String}
    (h : ReflTransGen phrases.Refers start symbol) :
    ∃ steps, phrases.RefersIn start steps symbol := by
  induction h with
  | refl => exact ⟨0, .refl⟩
  | tail _ hrefers ih =>
    obtain ⟨steps, hsteps⟩ := ih
    exact ⟨steps + 1, hsteps.tail hrefers⟩

/-- A symbol on a cycle begins chains of references of every length. -/
theorem OnCycle.exists_refersIn {phrases : PhraseTable} {start symbol : String} {steps : Nat}
    (hcycle : phrases.OnCycle symbol) (h : phrases.RefersIn start steps symbol) :
    ∃ other, phrases.RefersIn start (steps + 1) other ∧ phrases.OnCycle other := by
  obtain ⟨other, hrefers, hback⟩ := TransGen.head'_iff.mp hcycle
  exact ⟨other, h.tail hrefers, TransGen.tail' hback hrefers⟩

/-- Where every reference descends, no symbol is on a cycle. -/
theorem not_onCycle_of_rank {phrases : PhraseTable} (rank : String → Nat)
    (h : ∀ symbol other, phrases.Refers symbol other → rank other < rank symbol)
    (symbol : String) : ¬ phrases.OnCycle symbol := by
  have hdescends : ∀ other, TransGen phrases.Refers symbol other → rank other < rank symbol := by
    intro other hpath
    induction hpath with
    | single hrefers => exact h _ _ hrefers
    | tail _ hrefers ih => exact (h _ _ hrefers).trans ih
  exact fun hcycle => Nat.lt_irrefl _ (hdescends symbol hcycle)

/-- A chain of references either meets a cycle or has passed as many symbols as it has steps. -/
theorem RefersIn.exists_onCycle_or_passed {phrases : PhraseTable} {start symbol : String}
    {steps : Nat} (h : phrases.RefersIn start steps symbol) :
    (∃ cyclic, ReflTransGen phrases.Refers start cyclic ∧ phrases.OnCycle cyclic ∧
      ReflTransGen phrases.Refers cyclic symbol) ∨
    ∃ passed : Finset String, passed.card = steps ∧ ∀ earlier ∈ passed,
      earlier ∈ phrases.names ∧ TransGen phrases.Refers earlier symbol := by
  induction h with
  | refl => exact .inr ⟨∅, rfl, by simp⟩
  | @tail steps symbol other hchain hrefers ih =>
    rcases ih with ⟨cyclic, hto, hcycle, hfrom⟩ | ⟨passed, hcard, hpassed⟩
    · exact .inl ⟨cyclic, hto, hcycle, hfrom.tail hrefers⟩
    · by_cases hmem : symbol ∈ passed
      · exact .inl ⟨symbol, hchain.reflTransGen, (hpassed symbol hmem).2, .single hrefers⟩
      · refine .inr ⟨insert symbol passed, by rw [Finset.card_insert_of_notMem hmem, hcard], ?_⟩
        intro earlier hearlier
        rcases Finset.mem_insert.mp hearlier with rfl | hearlier
        · exact ⟨hrefers.mem_names, .single hrefers⟩
        · exact ⟨(hpassed earlier hearlier).1, (hpassed earlier hearlier).2.tail hrefers⟩

/-- A chain with more steps than the table has entries meets a cycle. -/
theorem RefersIn.exists_onCycle {phrases : PhraseTable} {start symbol : String} {steps : Nat}
    (h : phrases.RefersIn start steps symbol) (hlong : phrases.entries.length < steps) :
    ∃ cyclic, ReflTransGen phrases.Refers start cyclic ∧ phrases.OnCycle cyclic ∧
      ReflTransGen phrases.Refers cyclic symbol := by
  rcases h.exists_onCycle_or_passed with hcycle | ⟨passed, hcard, hpassed⟩
  · exact hcycle
  · have hsubset : passed ⊆ phrases.names.toFinset := fun earlier hearlier =>
      List.mem_toFinset.mpr (hpassed earlier hearlier).1
    have hle := (Finset.card_le_card hsubset).trans (List.toFinset_card_le _)
    rw [hcard, NameTable.names, List.length_map] at hle
    omega

end UpSetProse.PhraseTable
