import UpSetProse.Proofs.Narrative.Filling
import UpSetProse.Proofs.Template.Loosening

/-!
# When descriptions converge

No name that a quotation brings about is one of a token, so it stands for itself in single braces
and every pass settles the innermost of the doubled braces. A template therefore expands exactly if
the doubled braces of its filling nest less deep than passes are permitted, and a description is
made exactly if all of its templates expand.
-/

namespace UpSetProse

open Segment (names)

/-- No token has a space in its name. -/
theorem Token.space_not_mem_name (token : Token) : ' ' ∉ token.name.toList := by
  have hspelled {chars : List Char} (h : ' ' ∉ chars) : ' ' ∉ (String.ofList chars).toList := by
    rwa [String.toList_ofList]
  cases token <;> exact hspelled (by decide +kernel)

/-- A standard map keeps names that end in spaces. -/
theorem TokenMap.IsStandard.keeps {map : TokenMap} {totals : Totals}
    (h : map.IsStandard totals) : Markers.curly.Keeps map.substitution.replaceChars := by
  intro name hname
  have hne : ∀ token : Token, String.ofList name ≠ token.name := by
    intro token htoken
    refine token.space_not_mem_name ?_
    rw [← htoken, String.toList_ofList]
    exact List.mem_of_getLast? hname
  have hresolve := h.resolve_of_ne hne
  rw [Substitution.replaceChars]
  change (map.resolve (String.ofList name)).toList = _
  rw [hresolve]
  simp [Markers.opener, Markers.closer]

namespace Phrase.Separated

variable {map : TokenMap} {phrase : Phrase}

/-- Behind a token, a filled phrase does not go on with a bracket. -/
theorem not_prefix_fill {token : Token} (h : Separated (.token token :: phrase)) {bracket : Char}
    (hbracket : bracket ∈ Text.markerBrackets) : ¬ [bracket] <+: (fill map phrase).toList := by
  rcases h.behind_token with rfl | ⟨text, rest, rfl, hplain, hne⟩
  · simp
  · have hspelled : text.toList ≠ [] := mt String.toList_eq_nil_iff.mp hne
    obtain ⟨first, chars, hfirst⟩ := List.exists_cons_of_ne_nil hspelled
    have hfilled : (PhrasePiece.fill map (.text text)).toList = first :: chars := hfirst
    have hmissing := hplain.not_mem_bracket hbracket
    rw [hfirst] at hmissing
    rw [fill_cons, String.toList_append, hfilled, List.cons_append, List.cons_prefix_cons]
    rintro ⟨rfl, _⟩
    exact hmissing List.mem_cons_self

/-- The doubled braces of a filled phrase are those of its pieces, one piece after the other. -/
theorem doubled_fill (h : phrase.Separated) (hsymbols : phrase.symbols = []) :
    Markers.curly.doubled (phrase.fill map).toList =
      phrase.flatMap fun piece => Markers.curly.doubled (piece.fill map).toList := by
  induction phrase with
  | nil => rfl
  | cons piece phrase ih =>
    have hmeet {bracket : Char} (hbracket : bracket ∈ Text.markerBrackets)
        (hend : [bracket] <:+ (piece.fill map).toList) :
        ¬ [bracket] <+: (fill map phrase).toList := by
      cases piece with
      | symbol s => cases hsymbols
      | token t => exact h.not_prefix_fill hbracket
      | text t =>
        cases h.sound _ List.mem_cons_self with
        | text hplain =>
          exact absurd (hend.subset List.mem_cons_self) (hplain.not_mem_bracket hbracket)
    have hrest : Phrase.symbols phrase = [] := by
      cases piece with
      | symbol s => cases hsymbols
      | text | token => exact hsymbols
    rw [fill_cons, String.toList_append, List.flatMap_cons, ← ih h.tail hrest]
    exact Markers.doubled_append_of_meet (hmeet (by decide)) (hmeet (by decide))

end Phrase.Separated

namespace Narrator

/-- In the filled template, doubled braces nest less deep than passes are permitted. -/
def Converges (n : Narrator) (template : Phrase) : Prop :=
  ∃ phrased filled : String, n.phrases.Expands template.write.toList phrased.toList ∧
    n.tokens.Fills phrased.toList filled.toList ∧
    Doubled.nesting (Markers.curly.doubled filled.toList) <
      max n.options.minPasses.toNat (Token.all.length + 1)

/-- The templates of a structured description. -/
def structuredTemplates : List Phrase :=
  [Template.shortDescription, Template.techniqueDescription] ++ Section.all.map Section.template

theorem separated_of_mem_structuredTemplates {template : Phrase}
    (h : template ∈ structuredTemplates) : template.Separated := by
  simp only [structuredTemplates, List.mem_append, List.mem_cons, List.not_mem_nil, or_false,
    List.mem_map] at h
  rcases h with (rfl | rfl) | ⟨part, _, rfl⟩ <;> exact Phrase.Separated.of_sentences _

variable {n : Narrator} {plot : Plot} {presentation : Presentation}

/-- Convergence is a matter of the one text that the template is filled to. -/
theorem converges_iff (hphrases : n.phrases = .standard) {template : Phrase}
    (h : template.Separated) :
    n.Converges template ↔ Doubled.nesting (Markers.curly.doubled (n.filling template).toList) <
      max n.options.minPasses.toNat (Token.all.length + 1) := by
  have hexpands := (PhraseTable.expandNonTerminals_standard h 0).2
  have hfills := (h.iterate_unfold 3).fills n.tokens
  constructor
  · rintro ⟨phrased, filled, hphrased, hfilled, hnesting⟩
    rw [hphrases] at hphrased
    rw [hphrased.unique hexpands] at hfilled
    rw [TokenMap.fills_iff] at hfilled hfills
    rwa [filling, hfills.2, ← hfilled.2]
  · intro hnesting
    exact ⟨_, _, hphrases ▸ hexpands, hfills, hnesting⟩

/-- A template expands exactly if it converges. -/
theorem exists_expand_iff (hphrases : n.phrases = .standard)
    (htokens : TokenMap.standard plot presentation = .ok n.tokens) {template : Phrase}
    (h : template.Separated) :
    (∃ text, n.expand template = .ok text) ↔ n.Converges template := by
  have hcomposed := composed_filling htokens h
  have hspaced : Phase.terminal.markers.Spaced (n.filling template).toList :=
    ⟨hcomposed.spaced (by decide), hcomposed.spaced (by decide)⟩
  obtain ⟨-, -, totals, -, hstandard⟩ := TokenMap.standard_eq_ok htokens
  have hpasses : n.tokens.substitution.passLimit n.options.minPasses.toNat =
      max n.options.minPasses.toNat (Token.all.length + 1) :=
    congrArg (fun size => max n.options.minPasses.toNat (size + 1)) hstandard.size
  have hpos := n.tokens.substitution.passLimit_pos n.options.minPasses.toNat
  have hkeeps : Phase.terminal.markers.Keeps n.tokens.substitution.replaceChars :=
    hstandard.keeps
  have hnames : names .curly (n.settled template) = [] ↔
      Doubled.nesting (Markers.curly.doubled (n.filling template).toList) ≤
        n.tokens.substitution.passLimit n.options.minPasses.toNat - 1 :=
    Substitution.names_after_eq_nil_iff hkeeps hspaced _
  rw [converges_iff hphrases h, ← hpasses]
  constructor
  · rintro ⟨text, htext⟩
    have hle := hnames.mp ((expand_eq_ok_iff hphrases h).mp htext).1
    omega
  · intro hless
    exact ⟨_, (expand_eq_ok_iff hphrases h).mpr ⟨hnames.mpr (by omega), rfl⟩⟩

/-- A structured description is made exactly if all of its templates expand. -/
theorem exists_structured_iff :
    (∃ description, n.structured = .ok description) ↔
      ∀ template ∈ structuredTemplates, ∃ text, n.expand template = .ok text := by
  have hsections : (∃ sections, Section.all.mapM n.sectionText = .ok sections) ↔
      ∀ part ∈ Section.all, ∃ text, n.expand part.template = .ok text := by
    rw [exists_mapM_eq_ok]
    refine forall₂_congr fun part _ => ?_
    simp only [sectionText, map_eq_ok]
    exact ⟨fun ⟨_, text, htext, _⟩ => ⟨text, htext⟩, fun ⟨text, htext⟩ => ⟨_, text, htext, rfl⟩⟩
  rw [structuredTemplates, List.forall_mem_append, List.forall_mem_cons, List.forall_mem_cons,
    List.forall_mem_map, ← hsections]
  constructor
  · rintro ⟨description, h⟩
    obtain ⟨short, hshort, h⟩ := bind_eq_ok.mp h
    obtain ⟨technique, htechnique, h⟩ := bind_eq_ok.mp h
    obtain ⟨sections, hall, _⟩ := bind_eq_ok.mp h
    exact ⟨⟨⟨short, hshort⟩, ⟨technique, htechnique⟩, List.forall_mem_nil _⟩, ⟨sections, hall⟩⟩
  · rintro ⟨⟨⟨short, hshort⟩, ⟨technique, htechnique⟩, _⟩, ⟨sections, hall⟩⟩
    exact ⟨_, bind_eq_ok.mpr ⟨short, hshort, bind_eq_ok.mpr ⟨technique, htechnique,
      bind_eq_ok.mpr ⟨sections, hall, rfl⟩⟩⟩⟩

/-- A description is made exactly if the templates that it needs converge. -/
theorem describes_iff_converges (hphrases : n.phrases = .standard)
    (htokens : TokenMap.standard plot presentation = .ok n.tokens) :
    ((∃ text, n.text = .ok text) ↔ n.Converges n.template) ∧
    ((∃ description, n.structured = .ok description) ↔
      ∀ template ∈ structuredTemplates, n.Converges template) ∧
    ((∃ narrative, n.generate = .ok narrative) ↔
      if n.options.structured ∧ n.options.level = .combined
      then ∀ template ∈ structuredTemplates, n.Converges template
      else n.Converges n.template) := by
  have htext : (∃ text, n.text = .ok text) ↔ n.Converges n.template :=
    exists_expand_iff hphrases htokens n.separated_template
  have hstructured : (∃ description, n.structured = .ok description) ↔
      ∀ template ∈ structuredTemplates, n.Converges template := by
    rw [exists_structured_iff]
    exact forall₂_congr fun template htemplate =>
      exists_expand_iff hphrases htokens (separated_of_mem_structuredTemplates htemplate)
  refine ⟨htext, hstructured, ?_⟩
  have hform : (n.options.structured && n.options.level == .combined) = true ↔
      n.options.structured ∧ n.options.level = .combined := by simp
  simp only [generate, hform]
  split
  · rw [← hstructured]
    simp only [map_eq_ok]
    exact ⟨fun ⟨_, description, h, _⟩ => ⟨description, h⟩,
      fun ⟨description, h⟩ => ⟨_, description, h, rfl⟩⟩
  · rw [← htext]
    simp only [map_eq_ok]
    exact ⟨fun ⟨_, text, h, _⟩ => ⟨text, h⟩, fun ⟨text, h⟩ => ⟨_, text, h, rfl⟩⟩

/-- A filled template nests as deep as the value of each token in it at least. -/
theorem nesting_le_filling {template : Phrase} (h : template.Separated) {token : Token}
    (htoken : .token token ∈ Phrase.unfold^[3] template) :
    Doubled.nesting (Markers.curly.doubled (n.tokens.resolve token.name).toList) ≤
      Doubled.nesting (Markers.curly.doubled (n.filling template).toList) := by
  rw [filling, (h.iterate_unfold 3).doubled_fill (Phrase.symbols_iterate_unfold template)]
  obtain ⟨before, after, hsplit⟩ := List.append_of_mem htoken
  rw [hsplit, List.flatMap_append, List.flatMap_cons, ← List.append_assoc]
  exact Doubled.nesting_le_append _ _ _

/-- If no quoted text has three opening braces in a row, every template converges. -/
theorem converges_of_untripled (hphrases : n.phrases = .standard)
    (htokens : TokenMap.standard plot presentation = .ok n.tokens)
    (htexts : ∀ text ∈ plot.texts ++ presentation.texts,
      ¬ ['\x7b', '\x7b', '\x7b'] <:+: text.toList)
    {template : Phrase} (h : template.Separated) : n.Converges template := by
  have hpairs : ¬ [Markers.curly.opener, Markers.curly.opener] <:+: (n.filling template).toList :=
    not_infix_filling htokens (by decide) htexts h
  rw [converges_iff hphrases h, Doubled.nesting_eq_zero (Markers.opening_not_mem_doubled hpairs)]
  exact Nat.lt_of_lt_of_le (Nat.succ_pos _) (Nat.le_max_right _ _)

/-- The default template names the title. -/
theorem title_mem_unfold_template (hoptions : n.options = default) :
    .token .title ∈ Phrase.unfold^[3] n.template := by
  have hlevels (sortBy : SortKey) : Template.levels sortBy .medium .one =
      Template.levelOne .medium := rfl
  have htemplate : n.template = Template.explanation .none ++ Template.levelOne .medium := by
    rw [template, hoptions]
    exact congrArg _ (hlevels _)
  rw [htemplate]
  decide

/-- A title that nests too deep keeps the default description from being made. -/
theorem not_text_of_title (hphrases : n.phrases = .standard)
    (htokens : TokenMap.standard plot presentation = .ok n.tokens) (hoptions : n.options = default)
    {title : String} (htitle : presentation.metadata.title = some title)
    (hnesting : Token.all.length < Doubled.nesting (Markers.curly.doubled
      (Text.sanitizeChars title.toList))) :
    ¬ ∃ text, n.text = .ok text := by
  have hseparated := n.separated_template
  obtain ⟨-, rfl, totals, -, hstandard⟩ := TokenMap.standard_eq_ok htokens
  have hresolve : (n.tokens.resolve Token.title.name).toList =
      Text.sanitizeChars title.toList := by
    rw [hstandard.resolve_name]
    change (orMissing n.tokens.analysis.presentation.metadata.title).toList = _
    rw [htitle, orMissing, Option.map_some, Option.getD_some, Text.sanitize, String.toList_ofList]
  have hle := nesting_le_filling (n := n) hseparated (title_mem_unfold_template hoptions)
  rw [hresolve] at hle
  have hlimit : max (default : Options).minPasses.toNat (Token.all.length + 1) =
      Token.all.length + 1 := by decide
  rw [text, exists_expand_iff hphrases htokens hseparated, converges_iff hphrases hseparated,
    hoptions, hlimit]
  omega

end Narrator

theorem Narrator.describes_iff_converges_bracketed :
    ∃ n : Narrator, n.phrases = .standard ∧
      TokenMap.standard .bracketed .bracketed = .ok n.tokens ∧
      ((∃ text, n.text = .ok text) ↔ n.Converges n.template) ∧
      ((∃ description, n.structured = .ok description) ↔
        ∀ template ∈ structuredTemplates, n.Converges template) ∧
      ((∃ narrative, n.generate = .ok narrative) ↔
        if n.options.structured ∧ n.options.level = .combined
        then ∀ template ∈ structuredTemplates, n.Converges template
        else n.Converges n.template) := by
  obtain ⟨tokens, htokens⟩ := TokenMap.exists_standard_bracketed
  exact ⟨⟨default, tokens, .standard⟩, rfl, htokens,
    Narrator.describes_iff_converges (n := ⟨default, tokens, .standard⟩) rfl htokens⟩

/-- A title of 117 opening and as many closing braces nests deeper than passes are permitted, so
not every plot can be described. -/
theorem Narrator.not_forall_text_eq_ok :
    ¬ ∀ (n : Narrator) (plot : Plot) (presentation : Presentation), n.phrases = .standard →
      TokenMap.standard plot presentation = .ok n.tokens → ∃ text, n.text = .ok text := by
  intro hall
  let braces := List.replicate 117 '\x7b' ++ List.replicate 117 '\x7d'
  have hnesting : Token.all.length < Doubled.nesting (Markers.curly.doubled
      (Text.sanitizeChars braces)) := by decide +kernel
  obtain ⟨tokens, htokens⟩ : ∃ tokens,
      TokenMap.standard .empty (.titled (String.ofList braces)) = .ok tokens :=
    exists_eq_ok (by decide +kernel)
  rw [← String.toList_ofList (l := braces)] at hnesting
  exact not_text_of_title (n := ⟨default, tokens, .standard⟩) rfl htokens rfl rfl hnesting
    (hall ⟨default, tokens, .standard⟩ .empty (.titled (String.ofList braces)) rfl htokens)

end UpSetProse
