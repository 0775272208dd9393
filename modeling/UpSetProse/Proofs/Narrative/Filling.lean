import UpSetProse.Narrative.Basic
import UpSetProse.Proofs.Token.Filling

/-!
# Descriptions as filled templates

Over the standard phrases, a narrator unfolds its template, fills in the tokens with the first pass
of the second phase, and goes on only if that brings markers about. No value does so whose quoted
texts are free of tripled braces: the description is then the filled template itself.
-/

namespace UpSetProse

open Relation
open Segment (names)

namespace Narrator

/-- The unfolded template with the tokens of the narrator filled in. -/
def filling (n : Narrator) (template : Phrase) : String :=
  (Phrase.unfold^[3] template).fill n.tokens

/-- The filling of a template as prose. -/
def prose (n : Narrator) (template : Phrase) : String :=
  String.ofList (Text.capitalizeSentences (n.filling template).toList)

/-- The template that the options choose is separated. -/
theorem separated_template (n : Narrator) : n.template.Separated :=
  Template.separated_explanation_append _ (Template.separated_levels _ _ _)

/-- What the passes after the first make of the filled template. -/
def settled (n : Narrator) (template : Phrase) : List Char :=
  n.tokens.substitution.after .terminal
    (n.tokens.substitution.passLimit n.options.minPasses.toNat - 1) (n.filling template).toList

/-- The second phase fills in the template with its first pass and then settles it. -/
theorem after_unfold (n : Narrator) {template : Phrase} (h : template.Separated) :
    n.tokens.substitution.after .terminal
        (n.tokens.substitution.passLimit n.options.minPasses.toNat)
        (Phrase.unfold^[3] template).write.toList = n.settled template := by
  have hpos := n.tokens.substitution.passLimit_pos n.options.minPasses.toNat
  obtain ⟨passes, hpasses⟩ := Nat.exists_eq_succ_of_ne_zero hpos.ne'
  rw [settled, hpasses, Substitution.after_succ']
  exact congrArg _ ((h.iterate_unfold 3).replaceOnce_curly n.tokens)

/-- A template is expanded exactly when no token is left in the settled text. -/
theorem expand_eq_ok_iff {n : Narrator} (hphrases : n.phrases = .standard) {template : Phrase}
    (h : template.Separated) {text : String} :
    n.expand template = .ok text ↔ names .curly (n.settled template) = [] ∧
      String.ofList (Text.capitalizeSentences (n.settled template)) = text := by
  have hphrased := (PhraseTable.expandNonTerminals_standard h n.options.minPasses.toNat).1
  rw [expand, mapError_eq_ok, UpSetProse.expand, hphrases, bind_eq_ok, ← n.after_unfold h]
  constructor
  · rintro ⟨phrased, hfirst, hsecond⟩
    obtain rfl := Except.ok.inj (hfirst.symm.trans hphrased)
    obtain ⟨resolved, hrun, hpure⟩ := bind_eq_ok.mp hsecond
    obtain ⟨hnames, rfl⟩ := Substitution.run_eq_ok_iff.mp hrun
    rw [String.toList_ofList] at hpure
    exact ⟨hnames, pure_eq_ok.mp hpure⟩
  · rintro ⟨hnames, rfl⟩
    refine ⟨_, hphrased, bind_eq_ok.mpr ⟨_, Substitution.run_eq_ok_iff.mpr ⟨hnames, rfl⟩, ?_⟩⟩
    rw [String.toList_ofList]
    rfl

/-- A filled template without further tokens is settled. -/
theorem settled_of_names_eq_nil {n : Narrator} {template : Phrase}
    (h : names .curly (n.filling template).toList = []) :
    n.settled template = (n.filling template).toList := by
  change n.settled template =
    n.tokens.substitution.after .terminal 0 (n.filling template).toList
  exact Substitution.after_of_names_eq_nil h (Nat.zero_le _)

section Standard

variable {n : Narrator} {plot : Plot} {presentation : Presentation}

/-- A filled template is composed of wording and of the quoted texts. -/
theorem composed_filling (htokens : TokenMap.standard plot presentation = .ok n.tokens)
    {template : Phrase} (h : template.Separated) :
    Text.Composed (plot.texts ++ presentation.texts) (n.filling template) := by
  obtain ⟨rfl, rfl, totals, -, hstandard⟩ := TokenMap.standard_eq_ok htokens
  exact hstandard.composed_fill (h.iterate_unfold 3) (Phrase.symbols_iterate_unfold template)

/-- Without tripled braces in the quoted texts, no doubled brace is in a filled template. -/
theorem not_infix_filling (htokens : TokenMap.standard plot presentation = .ok n.tokens)
    {brace : Char} (hbrace : brace ∈ Text.markerBrackets)
    (htexts : ∀ text ∈ plot.texts ++ presentation.texts,
      ¬ [brace, brace, brace] <:+: text.toList)
    {template : Phrase} (h : template.Separated) :
    ¬ [brace, brace] <:+: (n.filling template).toList :=
  (composed_filling htokens h).free_of_pair hbrace htexts

/-- Without tripled braces, nothing is left to replace in a filled template. -/
theorem expand_of_untripled (hphrases : n.phrases = .standard)
    (htokens : TokenMap.standard plot presentation = .ok n.tokens)
    (htexts : ∀ text ∈ plot.texts ++ presentation.texts,
      ¬ ['\x7b', '\x7b', '\x7b'] <:+: text.toList)
    {template : Phrase} (h : template.Separated) : n.expand template = .ok (n.prose template) := by
  have hnames : names .curly (n.filling template).toList = [] :=
    Segment.names_eq_nil_of_not_infix (not_infix_filling htokens (by decide) htexts h)
  rw [expand_eq_ok_iff hphrases h, settled_of_names_eq_nil hnames]
  exact ⟨hnames, rfl⟩

/-- Every name that the unfolded template mentions is one of the standard tokens. -/
theorem contains_of_mentions (htokens : TokenMap.standard plot presentation = .ok n.tokens)
    {template : Phrase} (h : template.Separated) {name : String}
    (hname : Markers.curly.Mentions (Phrase.unfold^[3] template).write.toList name.toList) :
    n.tokens.contains name := by
  obtain ⟨-, -, totals, -, hstandard⟩ := TokenMap.standard_eq_ok htokens
  have hunfold := h.iterate_unfold 3
  rw [(hunfold.marked_write .curly).mentions_iff, hunfold.names_write, List.mem_filterMap] at hname
  obtain ⟨piece, _, hpiece⟩ := hname
  cases piece with
  | text t => cases hpiece
  | symbol s => cases hpiece
  | token t =>
    obtain rfl := String.toList_inj.mp (Option.some.inj hpiece)
    rw [TokenMap.contains, (hstandard.get? _ _).mpr ⟨t, rfl, rfl⟩]
    rfl

/-- If no quoted text has three equal braces in a row, the description is the full expansion of the
template with every token replaced once: all names that come up are defined, and nothing that was
filled in is read as a template again. -/
theorem text_eq_filled (hphrases : n.phrases = .standard)
    (htokens : TokenMap.standard plot presentation = .ok n.tokens)
    (htexts : ∀ text ∈ plot.texts ++ presentation.texts, ∀ brace ∈ ['\x7b', '\x7d'],
      ¬ [brace, brace, brace] <:+: text.toList) :
    ∃ phrased filled : String,
      n.phrases.Expands n.template.write.toList phrased.toList ∧
      n.tokens.Fills phrased.toList filled.toList ∧
      n.text = .ok (String.ofList (Text.capitalizeSentences filled.toList)) ∧
      (∀ brace ∈ ['\x7b', '\x7d'], ¬ [brace, brace] <:+: filled.toList) ∧
      (∀ name : String, Markers.curly.Mentions phrased.toList name.toList →
        n.tokens.contains name) ∧
      ∀ symbol, n.phrases.Reachable n.template.write symbol → (n.phrases.get? symbol).isSome := by
  have hseparated := n.separated_template
  have hpairs : ∀ brace ∈ ['\x7b', '\x7d'],
      ¬ [brace, brace] <:+: (n.filling n.template).toList := by
    intro brace hbrace
    have hmarker : brace ∈ Text.markerBrackets := List.mem_append_left ['[', ']'] hbrace
    exact not_infix_filling htokens hmarker
      (fun text htext => htexts text htext brace hbrace) hseparated
  have hnames : names .curly (n.filling n.template).toList = [] :=
    Segment.names_eq_nil_of_not_infix (hpairs _ List.mem_cons_self)
  have hsettled := settled_of_names_eq_nil hnames
  refine ⟨(Phrase.unfold^[3] n.template).write, n.filling n.template, ?_, ?_, ?_, hpairs,
    fun name hname => contains_of_mentions htokens hseparated hname, fun symbol hreach => ?_⟩
  · rw [hphrases]
    exact (PhraseTable.expandNonTerminals_standard hseparated 0).2
  · exact (hseparated.iterate_unfold 3).fills n.tokens
  · refine (expand_eq_ok_iff hphrases hseparated).mpr ⟨?_, ?_⟩
    · rw [hsettled, hnames]
    · rw [hsettled]
  · rw [hphrases] at hreach ⊢
    obtain ⟨standardSymbol, rfl⟩ := PhraseTable.exists_symbol_of_reachable hseparated hreach
    rw [PhraseTable.get?_standard.mpr ⟨standardSymbol, rfl, rfl⟩]
    rfl

end Standard
end Narrator

/-- A row in the first set alone, which has the name of the set. -/
def Row.bracketed : Row where
  name := "\x7b\x7btitle\x7d\x7d"
  size := 3
  deviation := 0
  degree := 1
  kind := .individual
  members := .ofNames ["\x7b\x7btitle\x7d\x7d"]
  classifiedWith := 2

/-- A plot with a set that is named like a token. -/
def Plot.bracketed : Plot where
  sets := ["\x7b\x7btitle\x7d\x7d", "b"]
  sizes := .ofList [("\x7b\x7btitle\x7d\x7d", 3), ("b", 1)]
  visible := [.bracketed]
  rows := [.bracketed]
  faultless := by decide +kernel

/-- A presentation with nothing but a title. -/
def Presentation.titled (title : String) : Presentation :=
  { (default : Presentation) with metadata := { (default : Metadata) with title } }

/-- A presentation whose title names a symbol and a token. -/
def Presentation.bracketed : Presentation := .titled "[[title_line]]\x7b\x7btitle\x7d\x7d"

theorem TokenMap.exists_standard_bracketed :
    ∃ tokens, TokenMap.standard .bracketed .bracketed = .ok tokens :=
  exists_eq_ok (by decide +kernel)

theorem Narrator.text_eq_filled_bracketed :
    ∃ n : Narrator, n.phrases = .standard ∧
      TokenMap.standard .bracketed .bracketed = .ok n.tokens ∧
      (∀ text ∈ Plot.bracketed.texts ++ Presentation.bracketed.texts,
        ∀ brace ∈ ['\x7b', '\x7d'], ¬ [brace, brace, brace] <:+: text.toList) ∧
      ∃ phrased filled : String,
        n.phrases.Expands n.template.write.toList phrased.toList ∧
        n.tokens.Fills phrased.toList filled.toList ∧
        n.text = .ok (String.ofList (Text.capitalizeSentences filled.toList)) ∧
        (∀ brace ∈ ['\x7b', '\x7d'], ¬ [brace, brace] <:+: filled.toList) ∧
        (∀ name : String, Markers.curly.Mentions phrased.toList name.toList →
          n.tokens.contains name) ∧
        ∀ symbol, n.phrases.Reachable n.template.write symbol →
          (n.phrases.get? symbol).isSome := by
  obtain ⟨tokens, htokens⟩ := TokenMap.exists_standard_bracketed
  have hopen : ∀ text ∈ Plot.bracketed.texts ++ Presentation.bracketed.texts,
      ¬ ['\x7b', '\x7b', '\x7b'] <:+: text.toList := by decide +kernel
  have hclose : ∀ text ∈ Plot.bracketed.texts ++ Presentation.bracketed.texts,
      ¬ ['\x7d', '\x7d', '\x7d'] <:+: text.toList := by decide +kernel
  have htexts : ∀ text ∈ Plot.bracketed.texts ++ Presentation.bracketed.texts,
      ∀ brace ∈ ['\x7b', '\x7d'], ¬ [brace, brace, brace] <:+: text.toList := fun text htext =>
    List.forall_mem_cons.mpr ⟨hopen text htext, List.forall_mem_singleton.mpr (hclose text htext)⟩
  have hfilled := Narrator.text_eq_filled
    (n := ⟨default, tokens, .standard⟩) rfl htokens htexts
  exact ⟨⟨default, tokens, .standard⟩, rfl, htokens, htexts, hfilled⟩

end UpSetProse
