import UpSetProse.Proofs.Narrative.Convergence
import UpSetProse.Proofs.Narrative.Document
import UpSetProse.Proofs.Text.Sentence

/-!
# The headings of a long description

Nothing that is said about a plot breaks a line, however often a text is replaced, and every section
begins with fixed wording. The lines of a long description are therefore those that its document was
made of, and whatever the texts of the plot are, no line of them becomes a heading.
-/

namespace UpSetProse

open Text

theorem Section.mem_all (part : Section) : part ∈ Section.all := by
  cases part <;> decide

/-- Every section begins with fixed wording. -/
theorem Section.first?_unfold (part : Section) :
    (Phrase.unfold^[3] part.template).first? = some 't' ∨
      (Phrase.unfold^[3] part.template).first? = some 'a' := by
  cases part <;> decide +kernel

namespace Narrator

variable {n : Narrator} {plot : Plot} {presentation : Presentation}

/-- Settling brings no line breaks about. -/
theorem unbroken_settled (htokens : TokenMap.standard plot presentation = .ok n.tokens)
    {template : Phrase} (h : template.Separated) : Unbroken (n.settled template) := by
  have hcomposed := composed_filling htokens h
  obtain ⟨-, -, totals, -, hstandard⟩ := TokenMap.standard_eq_ok htokens
  refine Substitution.forall_mem_after (fun name hname => ?_) _ _ hcomposed.unbroken
  rw [← String.toList_ofList (l := name)] at hname
  exact hstandard.unbroken_resolve hname

/-- A template that begins with text begins so after settling, unless it begins with a brace. -/
theorem head?_settled {template : Phrase} {c : Char}
    (h : (Phrase.unfold^[3] template).first? = some c) (hbrace : c ≠ '\x7b') :
    (n.settled template).head? = some c :=
  Substitution.head?_after _ _ (Phrase.head?_fill n.tokens h) hbrace

/-- An expanded template is without line breaks. -/
theorem unbroken_of_expand (hphrases : n.phrases = .standard)
    (htokens : TokenMap.standard plot presentation = .ok n.tokens) {template : Phrase}
    (h : template.Separated) {text : String} (htext : n.expand template = .ok text) :
    Unbroken text.toList := by
  obtain ⟨_, rfl⟩ := (expand_eq_ok_iff hphrases h).mp htext
  rw [String.toList_ofList]
  exact (unbroken_settled htokens h).capitalizeSentences

/-- The text of a section does not begin with a number sign. -/
theorem head?_section (hphrases : n.phrases = .standard) {part : Section} {text : String}
    (htext : n.expand part.template = .ok text) : (trim text.toList).head? ≠ some '#' := by
  obtain ⟨c, capital, hfirst, hvisible, hbrace, hwritten, hcapital, hsign⟩ : ∃ c capital,
      (Phrase.unfold^[3] part.template).first? = some c ∧ isBlank c = false ∧ c ≠ '\x7b' ∧
      SentencePlace.start.write c = [capital] ∧ isBlank capital = false ∧ capital ≠ '#' := by
    rcases part.first?_unfold with hfirst | hfirst
    · exact ⟨'t', 'T', hfirst, by decide +kernel⟩
    · exact ⟨'a', 'A', hfirst, by decide +kernel⟩
  have hseparated : part.template.Separated := .of_sentences part.symbols
  obtain ⟨_, rfl⟩ := (expand_eq_ok_iff hphrases hseparated).mp htext
  have hsettled : (n.settled part.template).head? = some c := head?_settled hfirst hbrace
  have hhead := write_prefix_capitalizeSentences hsettled hvisible
  rw [hwritten, List.singleton_prefix_iff_head?_eq_some] at hhead
  rw [String.toList_ofList, head?_trim hhead hcapital]
  exact mt Option.some.inj hsign

/-- The document of a long description with a text for each section. -/
def document (n : Narrator) (text : Section → String) : Document where
  title := n.tokens.resolve Token.title.name
  sections := Section.all.map fun part => (part.heading, text part)

/-- A long description is printed from the title and the expanded sections. -/
theorem long_of_structured {description : StructuredDescription}
    (h : n.structured = .ok description) : ∃ text : Section → String,
      (∀ part, n.expand part.template = .ok (text part)) ∧
      description.long = (n.document text).render := by
  obtain ⟨short, hshort, h⟩ := bind_eq_ok.mp h
  obtain ⟨technique, htechnique, h⟩ := bind_eq_ok.mp h
  obtain ⟨sections, hsections, h⟩ := bind_eq_ok.mp h
  have hexpand : ∀ part : Section, ∃ text, n.expand part.template = .ok text := fun part => by
    obtain ⟨result, hresult⟩ := exists_mapM_eq_ok.mp ⟨sections, hsections⟩ part part.mem_all
    obtain ⟨text, htext, _⟩ := map_eq_ok.mp hresult
    exact ⟨text, htext⟩
  choose text htext using hexpand
  have hresults : Section.all.mapM n.sectionText =
      .ok (Section.all.map fun part => (part.heading, text part)) :=
    mapM_eq_ok_map fun part _ => map_eq_ok.mpr ⟨text part, htext part, rfl⟩
  obtain rfl := Except.ok.inj (hsections.symm.trans hresults)
  obtain rfl := pure_eq_ok.mp h
  exact ⟨text, htext, rfl⟩

/-- A long description line by line, with a text for each section. -/
structure Outlined (n : Narrator) (text : Section → String) (long : String) : Prop where
  /-- The text of a section is its expanded template. -/
  expanded : ∀ part, n.expand part.template = .ok (text part)
  /-- The body of a section is a single line. -/
  single : ∀ part, Unbroken (trim (text part).toList)
  lines : Text.lines long =
    ["# " ++ Document.headingText (n.tokens.resolve Token.title.name), ""] ++
      Section.all.flatMap (fun part =>
        ["## " ++ part.heading, "", String.ofList (trim (text part).toList), ""]) ++
      Document.glossaryLines ++ [""]
  headings : (Text.lines long).filter (fun line => IsHeading line) =
    ["# " ++ Document.headingText (n.tokens.resolve Token.title.name), "## Introduction",
      "## Dataset Properties", "## Set Properties", "## Intersection Properties",
      "## Statistical Information", "## Trend Analysis", "## Glossary"]
  /-- In the title, a backslash stands before every number sign that is not the first. -/
  escaped : ("# " ++ Document.headingText (n.tokens.resolve Token.title.name)).toList.IsChain
    fun before sign => sign = '#' → before = '\\'

/-- Whatever the texts of a plot are, a long description has one line for each of its headings and
one for the body of each section, and no other line is a heading. -/
theorem structured_outlined (hphrases : n.phrases = .standard)
    (htokens : TokenMap.standard plot presentation = .ok n.tokens)
    {description : StructuredDescription} (h : n.structured = .ok description) :
    ∃ text : Section → String, n.Outlined text description.long := by
  obtain ⟨text, htext, hlong⟩ := long_of_structured h
  have hsingle (part : Section) : Unbroken (trim (text part).toList) := fun c hc =>
    unbroken_of_expand hphrases htokens (.of_sentences part.symbols) (htext part) c
      ((trim_isInfix _).subset hc)
  have hheading (part : Section) : Document.headingText part.heading = part.heading := by
    cases part <;> decide +kernel
  have hlines : Text.lines description.long = (n.document text).lines ++ [""] :=
    hlong ▸ Document.lines_render (List.forall_mem_map.mpr fun part _ => hsingle part)
  have hheadings : (n.document text).lines.filter (fun line => IsHeading line) = _ :=
    Document.headings_lines
      (List.forall_mem_map.mpr fun part _ => head?_section hphrases (htext part))
  refine ⟨text, htext, hsingle, ?_, ?_, Document.isChain_title _⟩
  · rw [hlines, Document.lines, document, List.flatMap_map]
    simp only [Document.sectionLines, hheading]
  · rw [hlines, List.filter_append, hheadings, document, List.map_map]
    simp only [Function.comp_def, hheading]
    rfl

end Narrator

/-- A presentation whose title holds lines that look like headings. -/
def Presentation.forged : Presentation := .titled "Sets\n\n## Injected\r\n# Bad"

theorem TokenMap.exists_standard_forged :
    ∃ tokens, TokenMap.standard .bracketed .forged = .ok tokens :=
  exists_eq_ok (by decide +kernel)

theorem Narrator.structured_outlined_forged :
    ∃ (n : Narrator) (description : StructuredDescription), n.phrases = .standard ∧
      TokenMap.standard .bracketed .forged = .ok n.tokens ∧
      n.structured = .ok description ∧
      ∃ text : Section → String, n.Outlined text description.long := by
  obtain ⟨tokens, htokens⟩ := TokenMap.exists_standard_forged
  have htexts : ∀ text ∈ Plot.bracketed.texts ++ Presentation.forged.texts,
      ¬ ['\x7b', '\x7b', '\x7b'] <:+: text.toList := by decide +kernel
  let n : Narrator := ⟨default, tokens, .standard⟩
  have hexpand : ∀ template ∈ structuredTemplates, ∃ text, n.expand template = .ok text :=
    fun template htemplate => ⟨n.prose template,
      expand_of_untripled rfl htokens htexts (separated_of_mem_structuredTemplates htemplate)⟩
  obtain ⟨description, hdescription⟩ := exists_structured_iff.mpr hexpand
  exact ⟨n, description, rfl, htokens, hdescription,
    Narrator.structured_outlined rfl htokens hdescription⟩

end UpSetProse
