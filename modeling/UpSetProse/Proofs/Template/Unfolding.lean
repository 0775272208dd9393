import UpSetProse.Proofs.Template.Convergence
import UpSetProse.Proofs.Template.Phrase

/-!
# Unfolding the standard phrases

A pass of the first phase over the standard table does to a written phrase what unfolding does to
the phrase. Unfolding keeps phrases separated, and since no standard phrase nests deeper, three
unfoldings leave no symbol in any phrase. Every symbol met on the way is defined.
-/

namespace UpSetProse

open Relation
open Segment (names)

namespace PhrasePiece

/-- A symbol gives way to the pieces of its phrase. -/
def unfold : PhrasePiece → Phrase
  | symbol s => s.phrase
  | piece => [piece]

/-- The symbol that a piece is. -/
def symbol? : PhrasePiece → Option Symbol
  | symbol s => some s
  | _ => none

theorem unfold_ne_nil (piece : PhrasePiece) : piece.unfold ≠ [] := by
  cases piece with
  | symbol s => exact (by decide : ∀ s ∈ Symbol.all, s.phrase ≠ []) s s.mem_all
  | text => exact List.cons_ne_nil _ _
  | token => exact List.cons_ne_nil _ _

theorem Sound.separated_unfold {piece : PhrasePiece} (h : piece.Sound) :
    piece.unfold.Separated := by
  cases piece with
  | symbol s => exact s.separated_phrase
  | text t => exact ⟨List.forall_mem_singleton.mpr h, .singleton _⟩
  | token t => exact ⟨List.forall_mem_singleton.mpr h, .singleton _⟩

end PhrasePiece

namespace Phrase

/-- The symbols of a phrase give way to their phrases. -/
def unfold (phrase : Phrase) : Phrase := phrase.flatMap PhrasePiece.unfold

/-- The symbols in a phrase. -/
def symbols (phrase : Phrase) : List Symbol := phrase.filterMap PhrasePiece.symbol?

namespace Separated

variable {phrase : Phrase}

/-- Unfolding keeps a phrase separated, since it leaves the text on either side of a symbol. -/
theorem unfold (h : phrase.Separated) : phrase.unfold.Separated := by
  constructor
  · intro piece hpiece
    obtain ⟨origin, horigin, hpiece⟩ := List.mem_flatMap.mp hpiece
    exact (h.sound origin horigin).separated_unfold.sound piece hpiece
  · have hne : [] ∉ phrase.map PhrasePiece.unfold := by
      simp [PhrasePiece.unfold_ne_nil]
    rw [Phrase.unfold, List.flatMap_def, List.isChain_flatten hne]
    constructor
    · intro part hpart
      obtain ⟨piece, hpiece, rfl⟩ := List.mem_map.mp hpart
      exact (h.sound piece hpiece).separated_unfold.chain
    · rw [List.isChain_map]
      refine h.chain.imp fun piece next hmeet last hlast first hfirst => hmeet.imp ?_ ?_
      · intro htext
        cases piece with
        | text t =>
          obtain rfl := Option.mem_some.mp hlast
          trivial
        | token | symbol => exact htext.elim
      · intro htext
        cases next with
        | text t =>
          obtain rfl := Option.mem_some.mp hfirst
          trivial
        | token | symbol => exact htext.elim

theorem iterate_unfold (h : phrase.Separated) (times : Nat) :
    (Phrase.unfold^[times] phrase).Separated := by
  induction times with
  | zero => exact h
  | succ times ih =>
    rw [Function.iterate_succ_apply']
    exact ih.unfold

end Separated

theorem iterate_unfold_append (times : Nat) (first second : Phrase) :
    unfold^[times] (first ++ second) = unfold^[times] first ++ unfold^[times] second := by
  induction times with
  | zero => rfl
  | succ times ih =>
    simp only [Function.iterate_succ_apply', ih]
    exact List.flatMap_append

/-- The symbols of an unfolded phrase are those in the phrases of its symbols. -/
theorem symbols_unfold (phrase : Phrase) :
    phrase.unfold.symbols = phrase.symbols.flatMap fun symbol => symbol.phrase.symbols := by
  induction phrase with
  | nil => rfl
  | cons piece phrase ih =>
    have hsplit : unfold (piece :: phrase) = piece.unfold ++ unfold phrase := List.flatMap_cons
    rw [hsplit, symbols, List.filterMap_append, ← symbols, ← symbols, ih]
    cases piece <;> rfl

/-- No symbol is left after three unfoldings. -/
theorem symbols_iterate_unfold (phrase : Phrase) : (unfold^[3] phrase).symbols = [] := by
  have hdepth : ∀ symbol ∈ Symbol.all, (symbol.phrase.symbols.flatMap fun symbol =>
      symbol.phrase.symbols).flatMap (fun symbol => symbol.phrase.symbols) = [] := by decide
  simp only [Function.iterate_succ_apply', Function.iterate_zero_apply, symbols_unfold]
  rw [List.flatMap_assoc, List.flatMap_assoc, List.flatMap_eq_nil_iff]
  intro symbol _
  rw [← List.flatMap_assoc]
  exact hdepth symbol symbol.mem_all

/-- The names of symbols in a written phrase are those of its symbols. -/
theorem Separated.names_square {phrase : Phrase} (h : phrase.Separated) :
    names .square phrase.write.toList = phrase.symbols.map fun symbol => symbol.name.toList := by
  rw [h.names_write, symbols, List.map_filterMap]
  refine List.filterMap_congr fun piece _ => ?_
  cases piece <;> rfl

end Phrase

namespace PhraseTable

/-- The names of the symbols are distinct. -/
theorem nodup_standard :
    ((Symbol.all.map fun symbol => (symbol.name, symbol.phrase.write)).map (·.1)).Nodup := by
  rw [List.map_map]
  exact (by decide +kernel : (Symbol.all.map Symbol.name).Nodup)

/-- The standard table holds the written phrase of every symbol and nothing else. -/
theorem get?_standard {name phrase : String} :
    standard.get? name = some phrase ↔
      ∃ symbol : Symbol, name = symbol.name ∧ phrase = symbol.phrase.write := by
  rw [standard, NameTable.get?_ofList_eq_some_iff nodup_standard, List.mem_map]
  constructor
  · rintro ⟨symbol, _, hentry⟩
    cases hentry
    exact ⟨symbol, rfl, rfl⟩
  · rintro ⟨symbol, rfl, rfl⟩
    exact ⟨symbol, symbol.mem_all, rfl⟩

/-- The standard phrases are marked texts. -/
theorem wellFormed_standard : standard.WellFormed := by
  intro phrase hphrase
  obtain ⟨⟨name, _⟩, hentry, rfl⟩ := List.mem_map.mp hphrase
  obtain ⟨symbol, _, rfl⟩ := get?_standard.mp (NameTable.get?_eq_some_iff.mpr hentry)
  exact symbol.separated_phrase.marked_write .square

/-- A pass of the first phase unfolds a written phrase. -/
theorem replaceOnce_standard {phrase : Phrase} (h : phrase.Separated) :
    replaceOnce .square standard.substitution.replaceChars phrase.write.toList =
      phrase.unfold.write.toList := by
  rw [h.replaceOnce_write, Phrase.toList_write, Phrase.unfold, List.flatMap_assoc]
  refine List.flatMap_congr fun piece _ => ?_
  cases piece with
  | text t => simp [PhrasePiece.segment, PhrasePiece.unfold, Segment.replaceWith, PhrasePiece.write]
  | token t => simp [PhrasePiece.segment, PhrasePiece.unfold, Segment.replaceWith]
  | symbol s =>
    have hphrase : standard.get? (String.ofList s.name.toList) = some s.phrase.write := by
      rw [String.ofList_toList]
      exact get?_standard.mpr ⟨s, rfl, rfl⟩
    rw [PhrasePiece.unfold, ← Phrase.toList_write]
    exact replaceChars_of_some hphrase

/-- Passes of the first phase unfold a written phrase as many times. -/
theorem after_standard {phrase : Phrase} (h : phrase.Separated) (passes : Nat) :
    standard.substitution.after .nonTerminal passes phrase.write.toList =
      (Phrase.unfold^[passes] phrase).write.toList := by
  induction passes with
  | zero => rfl
  | succ passes ih =>
    rw [Substitution.after_succ, ih, Function.iterate_succ_apply']
    exact replaceOnce_standard (h.iterate_unfold passes)

/-- The first phase ends with the phrase in which all symbols are unfolded, and that is the full
expansion of the template. -/
theorem expandNonTerminals_standard {phrase : Phrase} (h : phrase.Separated) (minPasses : Nat) :
    expandNonTerminals standard minPasses phrase.write = .ok (Phrase.unfold^[3] phrase).write ∧
      standard.Expands phrase.write.toList (Phrase.unfold^[3] phrase).write.toList := by
  have hsize : 3 ≤ standard.substitution.passLimit minPasses := by
    have hlength : standard.entries.length = Symbol.all.length := by
      rw [standard, NameTable.length_entries_ofList nodup_standard, List.length_map]
    refine Nat.le_trans ?_ (Nat.le_max_right minPasses (standard.entries.length + 1))
    rw [hlength]
    decide
  have hnames : names .square (standard.substitution.after .nonTerminal 3 phrase.write.toList) =
      [] := by
    rw [after_standard h, (h.iterate_unfold 3).names_square, Phrase.symbols_iterate_unfold]
    rfl
  have hafter : standard.substitution.after .nonTerminal
        (standard.substitution.passLimit minPasses) phrase.write.toList =
      standard.substitution.after .nonTerminal 3 phrase.write.toList :=
    Substitution.after_of_names_eq_nil hnames hsize
  have hexpands := wellFormed_standard.expands_after (h.marked_write .square) hnames
  rw [after_standard h] at hexpands
  refine ⟨?_, hexpands⟩
  rw [expandNonTerminals, Substitution.run_of_names_eq_nil _ _ _ _ (hafter ▸ hnames), hafter,
    after_standard h, String.ofList_toList]

/-- Every symbol that the standard phrases lead to is defined. -/
theorem exists_symbol_of_reachable {phrase : Phrase} (h : phrase.Separated) {name : String}
    (hreach : standard.Reachable phrase.write name) : ∃ symbol : Symbol, name = symbol.name := by
  have hmentions {phrase : Phrase} (h : phrase.Separated) {name : String}
      (hname : Markers.square.Mentions phrase.write.toList name.toList) :
      ∃ symbol : Symbol, name = symbol.name := by
    rw [(h.marked_write .square).mentions_iff, h.names_square, List.mem_map] at hname
    obtain ⟨symbol, _, hsymbol⟩ := hname
    exact ⟨symbol, String.toList_inj.mp hsymbol.symm⟩
  obtain ⟨start, hstart, hpath⟩ := hreach
  induction hpath with
  | refl => exact hmentions h hstart
  | tail _ hrefers _ =>
    obtain ⟨phrase', hphrase, hname⟩ := hrefers
    obtain ⟨symbol, _, rfl⟩ := get?_standard.mp hphrase
    exact hmentions symbol.separated_phrase hname

end PhraseTable
end UpSetProse
