import Mathlib.Data.List.Chain
import UpSetProse.Narrative.Document
import UpSetProse.Proofs.Text.Plain

/-!
# The lines of a document

A document is printed line by line. A title becomes a single line in which every further number sign
is escaped, and as long as the sections hold no line breaks, the lines read back from the printed
document are those that were printed. None of them is a heading unless it was printed as one.
-/

namespace UpSetProse

namespace Text

/-- The lines of a text, between its line feeds. -/
def lines (text : String) : List String := (text.toList.splitOn '\n').map String.ofList

/-- Lines as a text in which each of them is ended by a line feed. -/
def endLines (written : List String) : String := String.join (written.map (· ++ "\n"))

theorem endLines_append (first second : List String) :
    endLines (first ++ second) = endLines first ++ endLines second := by
  rw [endLines, List.map_append, String.join_append, ← endLines, ← endLines]

/-- Ended lines are read back, with nothing behind the last line feed. -/
theorem lines_endLines {written : List String} (h : ∀ line ∈ written, Unbroken line.toList) :
    lines (endLines written) = written ++ [""] := by
  induction written with
  | nil => decide
  | cons line rest ih =>
    obtain ⟨hline, hrest⟩ := List.forall_mem_cons.mp h
    have hfeed : '\n' ∉ line.toList := fun hmem => hline _ hmem (by decide)
    have hchars : (endLines (line :: rest)).toList =
        line.toList ++ '\n' :: (endLines rest).toList := by
      rw [endLines, List.map_cons, String.join_cons, ← endLines, String.toList_append,
        String.toList_append, List.append_assoc]
      rfl
    rw [lines, hchars, List.splitOn_append_cons_self_of_not_mem hfeed, List.map_cons,
      String.ofList_toList, ← lines, ih hrest, List.cons_append]

/-- A line that begins with a number sign. -/
def IsHeading (line : String) : Prop := line.toList.head? = some '#'

instance : DecidablePred IsHeading := fun line =>
  inferInstanceAs (Decidable (line.toList.head? = some '#'))

/-- Texts without line breaks are joined to one. -/
theorem unbroken_intercalate {separator : List Char} (hseparator : Unbroken separator)
    {parts : List (List Char)} (h : ∀ part ∈ parts, Unbroken part) :
    Unbroken (separator.intercalate parts) := by
  induction parts with
  | nil => simp [Unbroken]
  | cons first rest ih =>
    obtain ⟨hfirst, hrest⟩ := List.forall_mem_cons.mp h
    cases rest with
    | nil => rwa [List.intercalate_singleton]
    | cons second rest =>
      rw [List.intercalate_cons_cons, unbroken_append, unbroken_append]
      exact ⟨⟨hfirst, hseparator⟩, ih hrest⟩

theorem isBlank_of_mem_breaks {c : Char} (h : c ∈ breaks) : isBlank c := by
  rcases List.mem_pair.mp h with rfl | rfl <;> decide

/-- White space belongs to no word. -/
theorem isBlank_of_mem_wordsAfter {begun text word : List Char} (hbegun : ∀ c ∈ begun, ¬ isBlank c)
    (hword : word ∈ wordsAfter begun text) : ∀ c ∈ word, ¬ isBlank c := by
  induction text generalizing begun with
  | nil =>
    unfold wordsAfter at hword
    split at hword
    · cases hword
    · rw [List.mem_singleton.mp hword]
      simpa using hbegun
  | cons c rest ih =>
    unfold wordsAfter at hword
    split at hword
    · split at hword
      · exact ih (by simp) hword
      · rcases List.mem_cons.mp hword with rfl | hrest
        · simpa using hbegun
        · exact ih (by simp) hrest
    · rename_i hvisible
      exact ih (List.forall_mem_cons.mpr ⟨hvisible, hbegun⟩) hword

end Text

namespace Document

open Text

/-- Escaping brings no line breaks about. -/
theorem unbroken_escapeNumberSign {c : Char} (h : c ∉ breaks) : Unbroken (escapeNumberSign c) := by
  unfold escapeNumberSign
  split
  · decide
  · exact List.forall_mem_singleton.mpr h

theorem toList_headingText (raw : String) : (headingText raw).toList =
    ([' '].intercalate (words raw.toList)).flatMap escapeNumberSign :=
  String.toList_ofList

/-- A title is one line. -/
theorem unbroken_headingText (raw : String) : Unbroken (headingText raw).toList := by
  have hwords : ∀ word ∈ words raw.toList, Unbroken word := fun word hword c hc hbreak =>
    isBlank_of_mem_wordsAfter (by simp) hword c hc (isBlank_of_mem_breaks hbreak)
  rw [toList_headingText]
  intro c hc
  obtain ⟨d, hd, hc⟩ := List.mem_flatMap.mp hc
  exact unbroken_escapeNumberSign (unbroken_intercalate (by decide) hwords d hd) c hc

/-- Behind any character, escaped number signs have a backslash before them. -/
theorem isChain_cons_flatMap_escape (c : Char) (text : List Char) :
    (c :: text.flatMap escapeNumberSign).IsChain fun before sign => sign = '#' → before = '\\' := by
  induction text generalizing c with
  | nil => exact .singleton c
  | cons d rest ih =>
    rw [List.flatMap_cons, escapeNumberSign]
    split
    · refine List.isChain_cons_cons.mpr ⟨fun h => absurd h (by decide), ?_⟩
      exact List.isChain_cons_cons.mpr ⟨fun _ => rfl, ih '#'⟩
    · rename_i hplain
      exact List.isChain_cons_cons.mpr ⟨fun h => absurd h hplain, ih d⟩

/-- In the line of a title, every number sign but the first has a backslash before it. -/
theorem isChain_title (raw : String) : ("# " ++ headingText raw).toList.IsChain
    fun before sign => sign = '#' → before = '\\' := by
  rw [String.toList_append, toList_headingText]
  exact List.isChain_cons_cons.mpr
    ⟨fun h => absurd h (by decide), isChain_cons_flatMap_escape ' ' _⟩

/-- The lines of a section. -/
def sectionLines (part : String × String) : List String :=
  ["## " ++ headingText part.1, "", String.ofList (trim part.2.toList), ""]

/-- The line of a glossary entry. -/
def entryLine (entry : String × String) : String := "- **" ++ entry.1 ++ "**: " ++ entry.2

/-- The lines that the glossary ends a document with. -/
def glossaryLines : List String := ["## Glossary", ""] ++ Glossary.entries.map entryLine

/-- The lines that a document is printed as. -/
def lines (document : Document) : List String :=
  ["# " ++ headingText document.title, ""] ++ document.sections.flatMap sectionLines ++
    glossaryLines

theorem renderSection_eq (part : String × String) :
    renderSection part = endLines (sectionLines part) := by
  simp [renderSection, endLines, sectionLines, ← String.toList_inj]

theorem renderGlossary_eq : renderGlossary = endLines glossaryLines := by
  have hentries : Glossary.entries.map renderEntry =
      (Glossary.entries.map entryLine).map (· ++ "\n") := by
    rw [List.map_map]
    rfl
  rw [renderGlossary, hentries, glossaryLines, endLines_append]
  rfl

/-- A document is printed line by line. -/
theorem render_eq (document : Document) : document.render = endLines document.lines := by
  have hsections : String.join (document.sections.map renderSection) =
      endLines (document.sections.flatMap sectionLines) := by
    induction document.sections with
    | nil => rfl
    | cons part rest ih =>
      rw [List.map_cons, String.join_cons, List.flatMap_cons, endLines_append, renderSection_eq, ih]
  rw [lines, endLines_append, endLines_append, ← hsections, ← renderGlossary_eq, render]
  simp [endLines, ← String.toList_inj]

/-- The glossary is plain wording. -/
theorem plain_entries : ∀ entry ∈ Glossary.entries, Plain entry.1 ∧ Plain entry.2 := by
  rw [Glossary.entries]
  simp only [List.forall_mem_cons, plain_append]
  and_intros <;>
    first
    | exact plain_ofList (by decide +kernel)
    | exact List.forall_mem_nil _

theorem unbroken_entryLine {entry : String × String} (h : entry ∈ Glossary.entries) :
    Unbroken (entryLine entry).toList := by
  obtain ⟨hterm, hdefinition⟩ := plain_entries entry h
  have hline : Plain (entryLine entry) :=
    (((by decide : Plain "- **").append hterm).append (by decide)).append hdefinition
  exact hline.unbroken

/-- Marked with a plain mark, a title is one line. -/
theorem unbroken_mark_headingText {mark : String} (hmark : Plain mark) (raw : String) :
    Unbroken (mark ++ headingText raw).toList := by
  rw [String.toList_append]
  exact unbroken_append.mpr ⟨hmark.unbroken, unbroken_headingText raw⟩

theorem unbroken_sectionLines {part : String × String} (h : Unbroken (trim part.2.toList)) :
    ∀ line ∈ sectionLines part, Unbroken line.toList := by
  rw [← String.toList_ofList (l := trim part.2.toList)] at h
  have hempty : Unbroken "".toList := by decide
  simp only [sectionLines, List.forall_mem_cons]
  exact ⟨unbroken_mark_headingText (by decide) _, hempty, h, hempty, List.forall_mem_nil _⟩

/-- The lines of a printed document are read back if no section has line breaks inside. -/
theorem lines_render {document : Document}
    (h : ∀ part ∈ document.sections, Unbroken (trim part.2.toList)) :
    Text.lines document.render = document.lines ++ [""] := by
  have hempty : Unbroken "".toList := by decide
  rw [render_eq]
  refine lines_endLines (List.forall_mem_append.mpr ⟨List.forall_mem_append.mpr ⟨?_, ?_⟩, ?_⟩)
  · simp only [List.forall_mem_cons]
    exact ⟨unbroken_mark_headingText (by decide) _, hempty, List.forall_mem_nil _⟩
  · intro line hline
    obtain ⟨part, hpart, hline⟩ := List.mem_flatMap.mp hline
    exact unbroken_sectionLines (h part hpart) line hline
  · simp only [glossaryLines, List.forall_mem_append, List.forall_mem_cons, List.forall_mem_map]
    exact ⟨⟨by decide, hempty, List.forall_mem_nil _⟩, fun entry => unbroken_entryLine⟩

/-- Only the first line of a section is a heading, unless its text begins like one. -/
theorem headings_sectionLines {part : String × String}
    (h : (trim part.2.toList).head? ≠ some '#') :
    (sectionLines part).filter (fun line => IsHeading line) = ["## " ++ headingText part.1] := by
  have hheading : IsHeading ("## " ++ headingText part.1) := by
    rw [IsHeading, String.toList_append]
    rfl
  have hempty : ¬ IsHeading "" := by decide
  have hbody : ¬ IsHeading (String.ofList (trim part.2.toList)) := by
    rwa [IsHeading, String.toList_ofList]
  simp [sectionLines, hheading, hempty, hbody]

theorem headings_glossaryLines :
    glossaryLines.filter (fun line => IsHeading line) = ["## Glossary"] := by
  have hentry (entry : String × String) : ¬ IsHeading (entryLine entry) := by
    rw [IsHeading, entryLine, String.append_assoc, String.append_assoc, String.toList_append]
    exact (by decide : some '-' ≠ some '#')
  have hentries : (Glossary.entries.map entryLine).filter (fun line => IsHeading line) = [] := by
    rw [List.filter_eq_nil_iff, List.forall_mem_map]
    exact fun entry _ => by simpa using hentry entry
  rw [glossaryLines, List.filter_append, hentries]
  decide

/-- The headings among the lines of a document are those that it was given, if no section begins
like one. -/
theorem headings_lines {document : Document}
    (h : ∀ part ∈ document.sections, (trim part.2.toList).head? ≠ some '#') :
    document.lines.filter (fun line => IsHeading line) =
      ("# " ++ headingText document.title) ::
        document.sections.map (fun part => "## " ++ headingText part.1) ++ ["## Glossary"] := by
  have hsections : (document.sections.flatMap sectionLines).filter (fun line => IsHeading line) =
      document.sections.map (fun part => "## " ++ headingText part.1) := by
    rw [List.filter_flatMap, List.map_eq_flatMap]
    exact List.flatMap_congr fun part hpart => headings_sectionLines (h part hpart)
  have htitle : IsHeading ("# " ++ headingText document.title) := by
    rw [IsHeading, String.toList_append]
    rfl
  have hempty : ¬ IsHeading "" := by decide
  rw [lines, List.filter_append, List.filter_append, hsections, headings_glossaryLines]
  simp [htitle, hempty]

end Document
end UpSetProse
