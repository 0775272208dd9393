import Mathlib.Data.List.Nodup
import UpSetProse.Settings.Document

/-!
# What a document sets, key by key

Each key of a document decodes by itself: a key that is missing is left unset, and one that is given
has to have a value of its kind. A document is one of settings exactly if this holds of every key
that settings have; other keys are passed over.
-/

namespace UpSetProse.Settings

/-! ## Values -/

/-- A keyword is written as a string, or as the only key of a table with nothing under it. -/
theorem keyword?_eq_some_iff {α : Type} [Keyword α] [LawfulKeyword α] {value : Toml} {a : α} :
    keyword? value = some a ↔
      value = .string (keyword a) ∨
        ∃ origin content, isEmptyValue content = true ∧
          value = .table origin [(keyword a, content)] := by
  constructor
  · intro h
    unfold keyword? at h
    split at h
    · exact .inl (congrArg Toml.string (Keyword.ofKeyword?_eq_some_iff.mp h))
    · rename_i origin name content
      obtain ⟨hempty, hname⟩ := Option.ite_none_right_eq_some.mp h
      rw [Keyword.ofKeyword?_eq_some_iff.mp hname]
      exact .inr ⟨origin, content, hempty, rfl⟩
    · cases h
  · rintro (rfl | ⟨origin, content, hempty, rfl⟩)
    · exact ofKeyword?_keyword a
    · exact (if_pos hempty).trans (ofKeyword?_keyword a)

/-- Nothing but the two literals is a truth value. -/
theorem boolean?_eq_some_iff {value : Toml} {b : Bool} :
    boolean? value = some b ↔ value = .boolean b := by
  cases value <;> simp [boolean?]

/-- Passes are a whole number that is not negative and fits into 64 bits. -/
theorem passes?_eq_some_iff {value : Toml} {n : UInt64} :
    passes? value = some n ↔ value = .integer n.toNat := by
  cases value with
  | integer i =>
    have hlt := n.toNat_lt_size
    simp only [passes?, Option.ite_none_right_eq_some, Option.some.injEq, Toml.integer.injEq]
    constructor
    · rintro ⟨⟨hnonneg, hsize⟩, rfl⟩
      rw [UInt64.toNat_ofNat_of_lt' (by omega)]
      omega
    · rintro rfl
      exact ⟨by omega, by rw [Int.toNat_natCast, UInt64.ofNat_toNat]⟩
  | _ => simp [passes?]

/-- A key is unset if its value is missing, and otherwise set to what the value decodes to. -/
theorem optional_eq_some_iff {α : Type} {decode : Toml → Option α} {value? : Option Toml}
    {result : Option α} :
    optional decode value? = some result ↔ value?.map decode = result.map some := by
  cases value? with
  | none => cases result <;> simp [optional]
  | some value => cases result <;> simp [optional]

/-! ## Tables -/

/-- What may stand where a table is expected: a table, the list of its values, or a date, which sets
nothing. -/
def StandsForTable : Toml → Prop
  | .table .. | .array _ | .tables _ | .dateTime _ => True
  | _ => False

/-- The value of a key of a table: by name from a table, and by the place of the key from a list. -/
def field? (keys : List String) (key : String) : Option Toml → Option Toml
  | some (.table _ entries) => entries.lookup key
  | some (.array items) => items[keys.idxOf key]?
  | some (.tables items) => (items[keys.idxOf key]?).map (.table .header)
  | _ => none

private theorem map_range_eq_map_idxOf {α : Type} {keys : List String} (h : keys.Nodup)
    (f : Nat → α) : (List.range keys.length).map f = keys.map fun key => f (keys.idxOf key) := by
  apply List.ext_getElem (by simp)
  intro i _ _
  simp [h.idxOf_getElem]

/-- The fields that are read are the values of the keys, in the order of the keys. -/
theorem fieldsOf?_eq_some_iff {keys : List String} (h : keys.Nodup) {value : Toml}
    {fields : List (Option Toml)} :
    fieldsOf? keys value = some fields ↔
      StandsForTable value ∧ (keys.map fun key => field? keys key (some value)) = fields := by
  cases value <;> simp [fieldsOf?, StandsForTable, field?, map_range_eq_map_idxOf h]

/-- What the table of what is generated says of its keys: each is set exactly if it is given, to
what its value decodes to. -/
structure GenerationSays (table : Option Toml) (settings : Settings) : Prop where
  isTable : ∀ value ∈ table, StandsForTable value
  level : (field? generationKeys "level" table).map keyword? = settings.level.map some
  verbosity : (field? generationKeys "verbosity" table).map keyword? = settings.verbosity.map some
  explain : (field? generationKeys "explain" table).map keyword? = settings.explain.map some
  structured :
    (field? generationKeys "structured" table).map boolean? = settings.structured.map some

/-- What the table of how templates are expanded says of its key. -/
structure ExpansionSays (table : Option Toml) (settings : Settings) : Prop where
  isTable : ∀ value ∈ table, StandsForTable value
  minPasses : (field? ["min_passes"] "min_passes" table).map passes? = settings.minPasses.map some

/-- The settings that a document sets. -/
structure Says (entries : Toml.Entries) (settings : Settings) : Prop where
  generation : GenerationSays (entries.lookup "generation") settings
  expansion : ExpansionSays (entries.lookup "expansion") settings

/-- The first table sets the keys that it says, and not the passes. -/
private theorem generation?_eq_some_iff {value : Toml} {settings : Settings} :
    generation? value = some settings ↔
      GenerationSays (some value) settings ∧ settings.minPasses = none := by
  have hkeys : generationKeys.Nodup := by decide
  constructor
  · intro h
    obtain ⟨fields, hfields, h⟩ := Option.bind_eq_some_iff.mp h
    obtain ⟨htable, rfl⟩ := (fieldsOf?_eq_some_iff hkeys).mp hfields
    obtain ⟨level, hlevel, h⟩ := Option.bind_eq_some_iff.mp h
    obtain ⟨verbosity, hverbosity, h⟩ := Option.bind_eq_some_iff.mp h
    obtain ⟨explain, hexplain, h⟩ := Option.bind_eq_some_iff.mp h
    obtain ⟨structured, hstructured, h⟩ := Option.bind_eq_some_iff.mp h
    cases h
    exact ⟨⟨by simpa using htable, optional_eq_some_iff.mp hlevel,
      optional_eq_some_iff.mp hverbosity, optional_eq_some_iff.mp hexplain,
      optional_eq_some_iff.mp hstructured⟩, rfl⟩
  · obtain ⟨level, verbosity, explain, structured, minPasses⟩ := settings
    rintro ⟨⟨htable, hlevel, hverbosity, hexplain, hstructured⟩, rfl⟩
    refine Option.bind_eq_some_iff.mpr
      ⟨_, (fieldsOf?_eq_some_iff hkeys).mpr ⟨htable value rfl, rfl⟩, ?_⟩
    exact Option.bind_eq_some_iff.mpr ⟨level, optional_eq_some_iff.mpr hlevel,
      Option.bind_eq_some_iff.mpr ⟨verbosity, optional_eq_some_iff.mpr hverbosity,
        Option.bind_eq_some_iff.mpr ⟨explain, optional_eq_some_iff.mpr hexplain,
          Option.bind_eq_some_iff.mpr ⟨structured, optional_eq_some_iff.mpr hstructured, rfl⟩⟩⟩⟩

/-- The second table sets the passes, and no other key. -/
private theorem expansion?_eq_some_iff {value : Toml} {settings : Settings} :
    expansion? value = some settings ↔
      ExpansionSays (some value) settings ∧
        settings = { unset with minPasses := settings.minPasses } := by
  have hkeys : ["min_passes"].Nodup := by decide
  constructor
  · intro h
    obtain ⟨fields, hfields, h⟩ := Option.bind_eq_some_iff.mp h
    obtain ⟨htable, rfl⟩ := (fieldsOf?_eq_some_iff hkeys).mp hfields
    obtain ⟨minPasses, hpasses, h⟩ := Option.bind_eq_some_iff.mp h
    cases h
    exact ⟨⟨by simpa using htable, optional_eq_some_iff.mp hpasses⟩, rfl⟩
  · rintro ⟨⟨htable, hpasses⟩, hsettings⟩
    refine Option.bind_eq_some_iff.mpr
      ⟨_, (fieldsOf?_eq_some_iff hkeys).mpr ⟨htable value rfl, rfl⟩, ?_⟩
    exact Option.bind_eq_some_iff.mpr
      ⟨settings.minPasses, optional_eq_some_iff.mpr hpasses, congrArg some hsettings.symm⟩

/-- A table that is missing says that no key is set. -/
private theorem tableSettings_generation {table : Option Toml} {settings : Settings} :
    tableSettings generation? table = some settings ↔
      GenerationSays table settings ∧ settings.minPasses = none := by
  cases table with
  | some value => exact generation?_eq_some_iff
  | none =>
    constructor
    · rintro ⟨⟩
      exact ⟨⟨nofun, rfl, rfl, rfl, rfl⟩, rfl⟩
    · obtain ⟨level, verbosity, explain, structured, minPasses⟩ := settings
      rintro ⟨⟨-, hlevel, hverbosity, hexplain, hstructured⟩, rfl⟩
      obtain rfl := Option.map_eq_none_iff.mp hlevel.symm
      obtain rfl := Option.map_eq_none_iff.mp hverbosity.symm
      obtain rfl := Option.map_eq_none_iff.mp hexplain.symm
      obtain rfl := Option.map_eq_none_iff.mp hstructured.symm
      rfl

private theorem tableSettings_expansion {table : Option Toml} {settings : Settings} :
    tableSettings expansion? table = some settings ↔
      ExpansionSays table settings ∧
        settings = { unset with minPasses := settings.minPasses } := by
  cases table with
  | some value => exact expansion?_eq_some_iff
  | none =>
    constructor
    · rintro ⟨⟩
      exact ⟨⟨nofun, rfl⟩, rfl⟩
    · rintro ⟨⟨-, hpasses⟩, hsettings⟩
      rw [hsettings, Option.map_eq_none_iff.mp hpasses.symm]
      rfl

/-- A document is read as settings exactly if it says them, key by key. -/
theorem ofEntries?_eq_some_iff {entries : Toml.Entries} {settings : Settings} :
    ofEntries? entries = some settings ↔ Says entries settings := by
  constructor
  · intro h
    obtain ⟨generation, hgeneration, h⟩ := Option.bind_eq_some_iff.mp h
    obtain ⟨expansion, hexpansion, h⟩ := Option.bind_eq_some_iff.mp h
    cases h
    obtain ⟨⟨htable, hlevel, hverbosity, hexplain, hstructured⟩, hnone⟩ :=
      tableSettings_generation.mp hgeneration
    obtain ⟨⟨htable', hpasses⟩, hunset⟩ := tableSettings_expansion.mp hexpansion
    have hoverlay : generation.overlay expansion =
        { generation with minPasses := expansion.minPasses } := by
      rw [hunset]
      simp [overlay, unset, hnone]
    rw [hoverlay]
    exact ⟨⟨htable, hlevel, hverbosity, hexplain, hstructured⟩, ⟨htable', hpasses⟩⟩
  · rintro ⟨⟨htable, hlevel, hverbosity, hexplain, hstructured⟩, ⟨htable', hpasses⟩⟩
    have hgeneration : tableSettings generation? (entries.lookup "generation") =
        some { settings with minPasses := none } :=
      tableSettings_generation.mpr ⟨⟨htable, hlevel, hverbosity, hexplain, hstructured⟩, rfl⟩
    have hexpansion : tableSettings expansion? (entries.lookup "expansion") =
        some { unset with minPasses := settings.minPasses } :=
      tableSettings_expansion.mpr ⟨⟨htable', hpasses⟩, rfl⟩
    refine Option.bind_eq_some_iff.mpr ⟨_, hgeneration, Option.bind_eq_some_iff.mpr
      ⟨_, hexpansion, ?_⟩⟩
    simp [overlay, unset]

end UpSetProse.Settings
