import UpSetProse.Proofs.NameTable
import UpSetProse.Proofs.Settings.Decoding
import UpSetProse.Proofs.Settings.Layers
import UpSetProse.Proofs.Toml.Document
import UpSetProse.Proofs.Toml.Reader

/-!
# Settings survive their document

The document of settings has a line for each key that is set, and no other assignment. It is read
back as the same settings: the same keys are set, to the same values.
-/

namespace UpSetProse

open Toml (BareKey Line Written)

/-- A vocabulary whose keywords stand for themselves between quotation marks. -/
class QuotableKeyword (α : Type) [Keyword α] : Prop where
  quotable (a : α) : Written.Quotable (keyword a)

instance : QuotableKeyword Level where
  quotable level := by cases level <;> decide

instance : QuotableKeyword Verbosity where
  quotable verbosity := by cases verbosity <;> decide

instance : QuotableKeyword Explanation where
  quotable explanation := by cases explanation <;> decide

/-- A keyword as it is written. -/
def Toml.Written.keyword {α : Type} [Keyword α] [QuotableKeyword α] (a : α) : Written :=
  .quoted (UpSetProse.keyword a) (QuotableKeyword.quotable a)

namespace Settings

/-- A table whose keys may be left out. -/
abbrev Fields := List (BareKey × Option Written)

namespace Fields

/-- The lines of the keys that are set. -/
def lines (fields : Fields) : List Line :=
  fields.filterMap fun (key, value) => value.map (Line.assignment key)

/-- The entries of the keys that are set. -/
def entries (fields : Fields) : Toml.Entries :=
  fields.filterMap fun (key, value) => value.map fun written => (key.name, written.value)

/-- The lines of the keys that are set are assignments of their entries. -/
theorem filterMap_lines (fields : Fields) :
    fields.lines.filterMap Line.statement? =
      fields.entries.map fun entry => .assign ⟨[], entry.1⟩ entry.2 := by
  rw [lines, entries, List.filterMap_filterMap, List.map_filterMap]
  congr 1
  funext ⟨key, value⟩
  cases value <;> rfl

/-- The keys that are set are in the order of the fields. -/
theorem names_sublist (fields : Fields) :
    (fields.entries.map (·.1)).Sublist (fields.map (·.1.name)) := by
  induction fields with
  | nil => exact .slnil
  | cons field fields ih =>
    obtain ⟨key, value⟩ := field
    cases value with
    | none => exact ih.cons _
    | some written => exact ih.cons_cons _

/-- A key has the value that is written for it, if there is one. -/
theorem lookup_entries {fields : Fields} (h : (fields.map (·.1.name)).Nodup) {key : BareKey}
    {value : Option Written} (hmem : (key, value) ∈ fields) :
    fields.entries.lookup key.name = value.map (·.value) := by
  induction fields with
  | nil => cases hmem
  | cons field fields ih =>
    rw [List.map_cons, List.nodup_cons] at h
    obtain ⟨hnew, hnodup⟩ := h
    rcases List.mem_cons.mp hmem with rfl | hrest
    · cases value with
      | none =>
        have hnone : key.name ∉ (entries fields).map (·.1) :=
          fun hname => hnew ((names_sublist fields).subset hname)
        change (entries fields).lookup key.name = none
        rw [List.lookup_eq_none_iff]
        intro entry hentry
        exact bne_iff_ne.mpr fun heq : key.name = entry.1 =>
          hnone (heq ▸ List.mem_map_of_mem hentry)
      | some written => exact List.lookup_cons_self
    · have hne : key.name ≠ field.1.name :=
        fun heq => hnew (heq ▸ List.mem_map_of_mem (f := fun field => field.1.name) hrest)
      obtain ⟨other, given⟩ := field
      cases given with
      | none => exact ih hnodup hrest
      | some written =>
        change ((other.name, written.value) :: entries fields).lookup key.name = _
        rw [NameTable.lookup_entry, if_neg hne]
        exact ih hnodup hrest

end Fields

def levelKey : BareKey := ⟨"level", by decide, by decide⟩
def verbosityKey : BareKey := ⟨"verbosity", by decide, by decide⟩
def explainKey : BareKey := ⟨"explain", by decide, by decide⟩
def structuredKey : BareKey := ⟨"structured", by decide, by decide⟩
def passesKey : BareKey := ⟨"min_passes", by decide, by decide⟩

/-- The fields of the table of what is generated. -/
def generationFields (settings : Settings) : Fields :=
  [(levelKey, settings.level.map Written.keyword),
   (verbosityKey, settings.verbosity.map Written.keyword),
   (explainKey, settings.explain.map Written.keyword),
   (structuredKey, settings.structured.map Written.boolean)]

/-- Passes that fit into 64 bits with a sign. -/
def Writable (settings : Settings) : Prop :=
  ∀ n ∈ settings.minPasses, (n.toNat : Int) ≤ Int64.maxValue.toInt

/-- The field of the table of how templates are expanded. -/
def expansionFields (settings : Settings) (h : settings.Writable) : Fields :=
  [(passesKey, settings.minPasses.pmap (fun n hn => Written.natural n.toNat hn) h)]

/-- The lines of the document of settings. -/
def lines (settings : Settings) (h : settings.Writable) : List Line :=
  .header ⟨"generation", by decide, by decide⟩ :: settings.generationFields.lines ++
    .blank :: .header ⟨"expansion", by decide, by decide⟩ :: (settings.expansionFields h).lines

/-- A key and a value that is written as given make up one line of the document. -/
private theorem toList_writeLine {key : BareKey} {value : Written} {text : String}
    (h : text.toList = value.text) :
    (writeLine key.name text).toList = (Line.assignment key value).text := by
  simp [writeLine, Line.text, h]

/-- A field has its line if it is set, and none otherwise. -/
private theorem flatMap_lines_cons {α : Type} {key : BareKey} {text : α → String}
    {written : α → Written} (h : ∀ a, (text a).toList = (written a).text) (value : Option α)
    (fields : Fields) :
    (Fields.lines ((key, value.map written) :: fields)).flatMap Line.text =
      ((value.map fun a => writeLine key.name (text a)).getD "").toList ++
        (Fields.lines fields).flatMap Line.text := by
  cases value with
  | none => rfl
  | some a =>
    rw [Option.map_some, Option.map_some, Option.getD_some, toList_writeLine (h a)]
    rfl

private theorem keyword_text {α : Type} [Keyword α] [QuotableKeyword α] (a : α) :
    ("\"" ++ keyword a ++ "\"").toList = (Written.keyword a).text := by
  simp [Written.keyword, Written.quoted]

private theorem flatMap_expansionFields {settings : Settings} (h : settings.Writable) :
    (Fields.lines (settings.expansionFields h)).flatMap Line.text =
      ((settings.minPasses.map fun n =>
        writeLine passesKey.name (toString n.toNat)).getD "").toList := by
  obtain ⟨level, verbosity, explain, structured, minPasses⟩ := settings
  cases minPasses with
  | none => rfl
  | some n =>
    have htext : (toString n.toNat).toList = (Written.natural n.toNat (h n rfl)).text := by
      rw [Nat.toString_eq_repr, Nat.toList_repr]
      rfl
    rw [Option.map_some, Option.getD_some, toList_writeLine htext]
    exact List.append_nil _

/-- Writable settings have a document of these lines. -/
theorem exists_toToml {settings : Settings} (h : settings.Writable) :
    ∃ document, settings.toToml = .ok document ∧
      document.toList = (settings.lines h).flatMap Line.text := by
  have hfits : ¬settings.minPasses.any (fun n => Int64.maxValue.toInt < n.toNat) = true := by
    rw [Option.any_eq_true]
    rintro ⟨n, hn, hlarge⟩
    have hle := h n hn
    simp only [decide_eq_true_eq] at hlarge
    omega
  have hgeneration : (Fields.lines settings.generationFields).flatMap Line.text =
      (writeKeyword "level" settings.level).toList ++
        ((writeKeyword "verbosity" settings.verbosity).toList ++
          ((writeKeyword "explain" settings.explain).toList ++
            ((settings.structured.map fun b =>
              writeLine "structured" (toString b)).getD "").toList)) := by
    rw [generationFields, flatMap_lines_cons keyword_text, flatMap_lines_cons keyword_text,
      flatMap_lines_cons keyword_text, flatMap_lines_cons fun _ => rfl]
    change _ ++ (_ ++ (_ ++ (_ ++ []))) = _
    rw [List.append_nil]
    rfl
  refine ⟨_, if_neg hfits, ?_⟩
  simp only [String.toList_append, lines, List.flatMap_append, List.flatMap_cons, hgeneration,
    flatMap_expansionFields, List.append_assoc]
  rfl

/-- The document assigns nothing but the keys of its two tables. -/
private theorem filterMap_statement_lines {settings : Settings} (h : settings.Writable) :
    (settings.lines h).filterMap Line.statement? =
      Toml.statements [("generation", Fields.entries settings.generationFields),
        ("expansion", Fields.entries (settings.expansionFields h))] := by
  simp [lines, Line.statement?, List.filterMap_cons, Fields.filterMap_lines, Toml.statements]

/-! ### Decoding -/

/-- A key that is written as one of the fields is decoded as it was set, or it is not there. -/
private theorem map_lookup_entries {α : Type} {fields : Fields}
    (hnodup : (fields.map (·.1.name)).Nodup) (key : BareKey) {written : α → Written}
    {value : Option α} (hmem : (key, value.map written) ∈ fields) {decode : Toml → Option α}
    (hdecode : ∀ a, decode (written a).value = some a) :
    ((Fields.entries fields).lookup key.name).map decode = value.map some := by
  rw [Fields.lookup_entries hnodup hmem]
  cases value with
  | none => rfl
  | some a => exact congrArg some (hdecode a)

private theorem keyword?_value {α : Type} [Keyword α] [QuotableKeyword α] [LawfulKeyword α]
    (a : α) : keyword? (Written.keyword a).value = some a :=
  keyword?_eq_some_iff.mpr (.inl rfl)

private theorem nodup_generationFields (settings : Settings) :
    (settings.generationFields.map (·.1.name)).Nodup := by
  simp [generationFields, levelKey, verbosityKey, explainKey, structuredKey]

private theorem nodup_expansionFields {settings : Settings} (h : settings.Writable) :
    ((settings.expansionFields h).map (·.1.name)).Nodup :=
  List.nodup_singleton passesKey.name

/-- What is written under the first header is what the settings set there. -/
private theorem generationSays_entries (settings : Settings) :
    GenerationSays (some (.table .header (Fields.entries settings.generationFields))) settings := by
  have hnodup := nodup_generationFields settings
  exact {
    isTable := by rintro _ ⟨⟩; trivial
    level := map_lookup_entries hnodup levelKey (by simp [generationFields]) keyword?_value
    verbosity := map_lookup_entries hnodup verbosityKey (by simp [generationFields]) keyword?_value
    explain := map_lookup_entries hnodup explainKey (by simp [generationFields]) keyword?_value
    structured := map_lookup_entries hnodup structuredKey (by simp [generationFields])
      fun b => boolean?_eq_some_iff.mpr (rfl : (Written.boolean b).value = .boolean b) }

/-- Passes that fit into 64 bits with a sign are decoded as they were. -/
private theorem map_passes {minPasses : Option UInt64}
    (h : ∀ n ∈ minPasses, (n.toNat : Int) ≤ Int64.maxValue.toInt) :
    ((minPasses.pmap (fun n hn => Written.natural n.toNat hn) h).map (·.value)).map passes? =
      minPasses.map some := by
  cases minPasses with
  | none => rfl
  | some n => exact congrArg some (passes?_eq_some_iff.mpr rfl)

/-- What is written under the second header is what the settings set there. -/
private theorem expansionSays_entries {settings : Settings} (h : settings.Writable) :
    ExpansionSays (some (.table .header (Fields.entries (settings.expansionFields h))))
      settings where
  isTable := by rintro _ ⟨⟩; trivial
  minPasses :=
    have hlookup := Fields.lookup_entries (nodup_expansionFields h) List.mem_cons_self
    (congrArg (Option.map passes?) hlookup).trans (map_passes h)

/-- The document is read back, wherever it lies. -/
private theorem parse_document {settings : Settings} (h : settings.Writable) {document : String}
    (hdocument : document.toList = (settings.lines h).flatMap Line.text) (path : String) :
    parse path document = .ok settings := by
  have hkeys : ∀ table ∈ [("generation", Fields.entries settings.generationFields),
      ("expansion", Fields.entries (settings.expansionFields h))], (table.2.map (·.1)).Nodup := by
    rw [List.forall_mem_cons, List.forall_mem_singleton]
    exact ⟨(nodup_generationFields settings).sublist (Fields.names_sublist _),
      (nodup_expansionFields h).sublist (Fields.names_sublist _)⟩
  have hread : Toml.read document =
      some [("generation", .table .header (Fields.entries settings.generationFields)),
        ("expansion", .table .header (Fields.entries (settings.expansionFields h)))] := by
    rw [Toml.read_lines hdocument, filterMap_statement_lines,
      Toml.build_statements (by simp) hkeys]
    rfl
  have hsettings : ofEntries?
      [("generation", .table .header (Fields.entries settings.generationFields)),
        ("expansion", .table .header (Fields.entries (settings.expansionFields h)))] =
          some settings :=
    ofEntries?_eq_some_iff.mpr ⟨generationSays_entries settings, expansionSays_entries h⟩
  exact parse_eq_ok_iff.mpr (by rw [hread, Option.bind_some, hsettings])

/-- Settings that were checked and whose passes fit into 64 bits with a sign have a document, from
which the same settings are read. -/
theorem ofToml_toToml {settings : Settings} (hvalid : settings.validated = .ok settings)
    (hpasses : ∀ n ∈ settings.minPasses, n.toNat ≤ 0x7FFFFFFFFFFFFFFF) :
    ∃ document, settings.toToml = .ok document ∧ ofToml document = .ok settings := by
  have hwritable : settings.Writable := by
    intro n hn
    have hle := hpasses n hn
    have hmax : Int64.maxValue.toInt = 0x7FFFFFFFFFFFFFFF := by decide
    omega
  obtain ⟨document, hdocument, hlines⟩ := exists_toToml hwritable
  refine ⟨document, hdocument, ?_⟩
  rw [ofToml, parse_document hwritable hlines]
  exact hvalid

/-- All keys set, the passes to the largest number that is written. -/
theorem ofToml_toToml_largest :
    ∃ settings : Settings, settings.validated = .ok settings ∧
      settings.minPasses = some 0x7FFFFFFFFFFFFFFF ∧
      ∃ document, settings.toToml = .ok document ∧ ofToml document = .ok settings := by
  have hpasses : ∀ n ∈ some (0x7FFFFFFFFFFFFFFF : UInt64), n.toNat ≤ 0x7FFFFFFFFFFFFFFF := by
    intro n hn
    cases hn
    decide
  exact ⟨⟨some .combined, some .high, some .simple, some false, some 0x7FFFFFFFFFFFFFFF⟩,
    rfl, rfl, ofToml_toToml rfl hpasses⟩

end Settings

end UpSetProse
