import UpSetProse.Proofs.Outcomes
import UpSetProse.Proofs.Settings.Decoding
import UpSetProse.Settings.Layers

/-!
# Which layer decides a setting

What the files say and which of their faults are errors is said without the readers, and what is
resolved from the layers is said key by key: the uppermost layer that sets a key decides it.
Settings are resolved in exactly this way, the first fault counts, and the passes are checked last.
Flags can as well be laid over settings that were resolved without them.
-/

namespace UpSetProse

theorem Settings.parse_eq_ok_iff {path content : String} {settings : Settings} :
    parse path content = .ok settings ↔
      (Toml.read content).bind ofEntries? = some settings := by
  unfold parse
  cases (Toml.read content).bind ofEntries? <;> simp

theorem Settings.parse_eq_error_iff {path content : String} {e : SettingsError} :
    parse path content = .error e ↔
      (Toml.read content).bind ofEntries? = none ∧ e = .malformed path none := by
  unfold parse
  cases (Toml.read content).bind ofEntries? <;> simp [eq_comm]

namespace SettingsFile

/-- A file that is there and whose text is not a settings document. -/
def Malformed (file : SettingsFile) : Prop :=
  ∃ content, file.state = .text content ∧ (Toml.read content).bind Settings.ofEntries? = none

/-- What a file sets: nothing if there is none, and otherwise what its text says. -/
inductive Sets (file : SettingsFile) : Settings → Prop
  | absent (hstate : file.state = .absent) : Sets file .unset
  | text {content : String} {settings : Settings} (hstate : file.state = .text content)
    (hread : (Toml.read content).bind Settings.ofEntries? = some settings) : Sets file settings

/-- A file sets what its document says, key by key. -/
theorem sets_text_iff {file : SettingsFile} {content : String} {settings : Settings}
    (hstate : file.state = .text content) :
    file.Sets settings ↔
      ∃ entries, Toml.read content = some entries ∧ Settings.Says entries settings := by
  simp only [← Settings.ofEntries?_eq_some_iff, ← Option.bind_eq_some_iff]
  constructor
  · intro h
    cases h with
    | absent habsent => cases hstate.symm.trans habsent
    | text htext hread =>
      cases hstate.symm.trans htext
      exact hread
  · exact .text hstate

/-- A file is malformed if its text is no document or one that says no settings. -/
theorem malformed_iff {file : SettingsFile} :
    file.Malformed ↔ ∃ content, file.state = .text content ∧
      ¬ ∃ entries settings, Toml.read content = some entries ∧ Settings.Says entries settings := by
  refine exists_congr fun content => and_congr_right fun _ => ?_
  cases Toml.read content with
  | none => simp
  | some entries =>
    simp [← Settings.ofEntries?_eq_some_iff, Option.eq_none_iff_forall_ne_some]

/-- The error of a malformed file, which names the file. -/
def malformedError (file : SettingsFile) : SettingsError := .malformed file.path none

theorem read_eq_ok_iff {file : SettingsFile} {settings : Settings} :
    file.read = .ok settings ↔ file.Sets settings := by
  unfold read
  constructor
  · intro h
    split at h
    · rename_i hstate
      cases h
      exact .absent hstate
    · cases h
    · rename_i hstate
      exact .text hstate (Settings.parse_eq_ok_iff.mp h)
  · intro h
    cases h with
    | absent hstate => rw [hstate]
    | text hstate hread =>
      rw [hstate]
      exact Settings.parse_eq_ok_iff.mpr hread

theorem read_eq_error_iff {file : SettingsFile} {e : SettingsError} :
    file.read = .error e ↔
      (∃ cause, file.state = .unreadable cause ∧ e = .unreadable file.path cause) ∨
        file.Malformed ∧ e = file.malformedError := by
  unfold read Malformed malformedError
  cases file.state with
  | absent => simp
  | unreadable cause => simp [eq_comm]
  | text content => simp [Settings.parse_eq_error_iff]

/-- A file that cannot be read sets nothing where it is passed over. -/
theorem readIfReadable_eq_ok_iff {file : SettingsFile} {settings : Settings} :
    file.readIfReadable = .ok settings ↔
      file.Sets settings ∨ (∃ cause, file.state = .unreadable cause) ∧ settings = .unset := by
  unfold readIfReadable
  rw [← read_eq_ok_iff, read]
  cases file.state <;> simp [eq_comm]

theorem readIfReadable_eq_error_iff {file : SettingsFile} {e : SettingsError} :
    file.readIfReadable = .error e ↔ file.Malformed ∧ e = file.malformedError := by
  unfold readIfReadable
  split
  · rename_i cause hstate
    simp [Malformed, hstate]
  · rename_i hreadable
    rw [read_eq_error_iff, or_iff_right]
    rintro ⟨cause, hstate, -⟩
    exact hreadable cause hstate

/-- What is passed over or read is whatever is not malformed. -/
theorem exists_readIfReadable_iff {file : SettingsFile} :
    (∃ settings, file.readIfReadable = .ok settings) ↔ ¬ file.Malformed := by
  cases h : file.readIfReadable with
  | ok settings =>
    refine iff_of_true ⟨settings, rfl⟩ fun hmalformed => ?_
    cases h.symm.trans (readIfReadable_eq_error_iff.mpr ⟨hmalformed, rfl⟩)
  | error e =>
    refine iff_of_false nofun fun hnot => ?_
    exact hnot (readIfReadable_eq_error_iff.mp h).1

end SettingsFile

namespace Settings

/-! ## Layers, key by key -/

/-- The value that the uppermost layer gives to a key; the layers are listed from above. -/
def uppermost {α : Type} (layers : List (Option α)) : Option α := layers.findSome? id

/-- Each key has the value of the uppermost layer that sets it: the flags, which do not set the
passes, the variables that can be understood, the project's file, the user's file. -/
structure DecidedBy (flags : Option Flags) (environment : Variables) (project user : Settings)
    (settings : Settings) : Prop where
  level : settings.level = uppermost [flags.bind (·.level),
    environment.level.bind Variables.keyword?, project.level, user.level]
  verbosity : settings.verbosity = uppermost [flags.bind (·.verbosity),
    environment.verbosity.bind Variables.keyword?, project.verbosity, user.verbosity]
  explain : settings.explain = uppermost [flags.bind (·.explain),
    environment.explain.bind Variables.keyword?, project.explain, user.explain]
  structured : settings.structured = uppermost [flags.bind (·.structured),
    environment.structured.bind Variables.boolean?, project.structured, user.structured]
  minPasses : settings.minPasses = uppermost [environment.minPasses.bind Variables.passes?,
    project.minPasses, user.minPasses]

@[simp] theorem uppermost_nil {α : Type} : uppermost ([] : List (Option α)) = none := rfl

@[simp] theorem uppermost_cons {α : Type} (layer : Option α) (rest : List (Option α)) :
    uppermost (layer :: rest) = layer.or (uppermost rest) := by
  cases layer <;> rfl

/-- Laying the layers over each other from the lowest up decides every key, and in one way only. -/
theorem decidedBy_iff {flags : Option Flags} {environment : Variables}
    {project user settings : Settings} :
    DecidedBy flags environment project user settings ↔
      ((user.overlay project).overlay environment.toSettings).overlay
        ((flags.map Flags.toSettings).getD unset) = settings := by
  constructor
  · rintro ⟨hlevel, hverbosity, hexplain, hstructured, hpasses⟩
    obtain ⟨level, verbosity, explain, structured, minPasses⟩ := settings
    simp only at hlevel hverbosity hexplain hstructured hpasses
    subst hlevel hverbosity hexplain hstructured hpasses
    cases flags <;> simp [overlay, Variables.toSettings, Flags.toSettings, unset]
  · rintro rfl
    constructor <;> cases flags <;>
      simp [overlay, Variables.toSettings, Flags.toSettings, unset]

@[simp] theorem overlay_unset (settings : Settings) : settings.overlay unset = settings := by
  simp [overlay, unset]

/-- Flags do not set the passes. -/
theorem minPasses_overlay_flags (settings : Settings) (flags : Flags) :
    (settings.overlay flags.toSettings).minPasses = settings.minPasses := by
  simp [overlay, Flags.toSettings]

/-! ## The check of the passes -/

/-- The error of passes that are set to zero. -/
def passesError : SettingsError := .outOfRange "expansion.min_passes" "must be at least 1"

theorem validated_eq_ok_iff {settings result : Settings} :
    settings.validated = .ok result ↔ settings.minPasses ≠ some 0 ∧ settings = result := by
  unfold validated fault?
  by_cases h : settings.minPasses = some 0 <;> simp [h]

theorem validated_eq_error_iff {settings : Settings} {e : SettingsError} :
    settings.validated = .error e ↔ settings.minPasses = some 0 ∧ e = passesError := by
  unfold validated fault? passesError minPassesKey
  by_cases h : settings.minPasses = some 0 <;> simp [h, eq_comm]

/-- Settings under flags are checked as they are without. -/
theorem validated_overlay_flags (settings : Settings) (flags : Flags) :
    (settings.overlay flags.toSettings).validated =
      (·.overlay flags.toSettings) <$> settings.validated := by
  simp only [validated, fault?, minPasses_overlay_flags]
  by_cases h : settings.minPasses = some 0
  · rw [if_pos h]
    rfl
  · rw [if_neg h]
    rfl

end Settings

namespace SettingsSources

/-- The settings that the layers decide on, if no file has a fault that counts. A user's file that
cannot be read sets nothing. -/
def Decides (sources : SettingsSources) (settings : Settings) : Prop :=
  ∃ user project,
    (sources.user.Sets user ∨ (∃ cause, sources.user.state = .unreadable cause) ∧ user = .unset) ∧
      sources.project.Sets project ∧
      Settings.DecidedBy sources.flags sources.environment project user settings

/-- What comes of the sources. The faults count in this order: a malformed user's file, a project's
file that is unreadable or malformed, and passes that are zero once all layers have decided. -/
inductive Outcome (sources : SettingsSources) : Except SettingsError Settings → Prop
  | userMalformed (huser : sources.user.Malformed) :
    Outcome sources (.error sources.user.malformedError)
  | projectUnreadable {cause : String} (huser : ¬ sources.user.Malformed)
    (hproject : sources.project.state = .unreadable cause) :
    Outcome sources (.error (.unreadable sources.project.path cause))
  | projectMalformed (huser : ¬ sources.user.Malformed) (hproject : sources.project.Malformed) :
    Outcome sources (.error sources.project.malformedError)
  | outOfRange {settings : Settings} (hdecides : sources.Decides settings)
    (hpasses : settings.minPasses = some 0) : Outcome sources (.error Settings.passesError)
  | resolved {settings : Settings} (hdecides : sources.Decides settings)
    (hpasses : settings.minPasses ≠ some 0) : Outcome sources (.ok settings)

end SettingsSources

namespace Settings

open SettingsSources

variable {sources : SettingsSources}

/-- The layers decide on settings once both files were read. -/
theorem decides_iff {settings : Settings} :
    sources.Decides settings ↔ ∃ user, sources.user.readIfReadable = .ok user ∧
      ∃ project, sources.project.read = .ok project ∧
        ((user.overlay project).overlay sources.environment.toSettings).overlay
          ((sources.flags.map Flags.toSettings).getD unset) = settings := by
  simp only [Decides, ← decidedBy_iff, SettingsFile.readIfReadable_eq_ok_iff,
    SettingsFile.read_eq_ok_iff]
  exact ⟨fun ⟨user, project, huser, h⟩ => ⟨user, huser, project, h⟩,
    fun ⟨user, huser, project, h⟩ => ⟨user, project, huser, h⟩⟩

theorem load_eq_ok_iff {settings : Settings} :
    load sources = .ok settings ↔ sources.Decides settings ∧ settings.minPasses ≠ some 0 := by
  rw [decides_iff]
  constructor
  · intro h
    obtain ⟨user, huser, h⟩ := bind_eq_ok.mp h
    obtain ⟨project, hproject, h⟩ := bind_eq_ok.mp h
    obtain ⟨hpasses, rfl⟩ := validated_eq_ok_iff.mp h
    exact ⟨⟨user, huser, project, hproject, rfl⟩, hpasses⟩
  · rintro ⟨⟨user, huser, project, hproject, rfl⟩, hpasses⟩
    exact bind_eq_ok.mpr ⟨user, huser, bind_eq_ok.mpr ⟨project, hproject,
      validated_eq_ok_iff.mpr ⟨hpasses, rfl⟩⟩⟩

theorem load_eq_error_iff {e : SettingsError} :
    load sources = .error e ↔ sources.user.readIfReadable = .error e ∨
      (∃ user, sources.user.readIfReadable = .ok user) ∧ sources.project.read = .error e ∨
        ∃ settings, sources.Decides settings ∧ settings.minPasses = some 0 ∧ e = passesError := by
  simp only [decides_iff]
  constructor
  · intro h
    rcases bind_eq_error.mp h with huser | ⟨user, huser, h⟩
    · exact .inl huser
    rcases bind_eq_error.mp h with hproject | ⟨project, hproject, h⟩
    · exact .inr (.inl ⟨⟨user, huser⟩, hproject⟩)
    · exact .inr (.inr ⟨_, ⟨user, huser, project, hproject, rfl⟩, validated_eq_error_iff.mp h⟩)
  · rintro (huser | ⟨⟨user, huser⟩, hproject⟩ |
      ⟨_, ⟨user, huser, project, hproject, rfl⟩, hpasses⟩)
    · exact bind_eq_error.mpr (.inl huser)
    · exact bind_eq_error.mpr (.inr ⟨user, huser, bind_eq_error.mpr (.inl hproject)⟩)
    · exact bind_eq_error.mpr (.inr ⟨user, huser, bind_eq_error.mpr
        (.inr ⟨project, hproject, validated_eq_error_iff.mpr hpasses⟩)⟩)

/-- Flags that are laid over settings resolved without them are like flags among the layers. -/
theorem load_flags (sources : SettingsSources) (flags : Flags) :
    load { sources with flags := some flags } =
      (·.overlay flags.toSettings) <$> load { sources with flags := none } := by
  cases huser : sources.user.readIfReadable with
  | error e => simp only [load, huser]; rfl
  | ok user =>
    cases hproject : sources.project.read with
    | error e => simp only [load, huser, hproject]; rfl
    | ok project =>
      have hload (flags? : Option Flags) : load { sources with flags := flags? } =
          (((user.overlay project).overlay sources.environment.toSettings).overlay
            ((flags?.map Flags.toSettings).getD unset)).validated := by
        simp only [load, huser, hproject]
        rfl
      rw [hload, hload]
      exact (validated_overlay_flags _ flags).trans (by rw [Option.map_none, Option.getD_none,
        overlay_unset])

/-- Settings are resolved from any sources in exactly one way: the first fault that counts is
reported, and without one every key has the value of the uppermost layer that sets it. Flags can be
laid over afterwards. -/
theorem load_decided (sources : SettingsSources) :
    (∀ outcome, load sources = outcome ↔ sources.Outcome outcome) ∧
      ∀ flags, load { sources with flags := some flags } =
        (·.overlay flags.toSettings) <$> load { sources with flags := none } := by
  refine ⟨fun outcome => ?_, load_flags sources⟩
  cases outcome with
  | ok settings =>
    rw [load_eq_ok_iff]
    constructor
    · rintro ⟨hdecides, hpasses⟩
      exact .resolved hdecides hpasses
    · intro h
      cases h with
      | resolved hdecides hpasses => exact ⟨hdecides, hpasses⟩
  | error e =>
    rw [load_eq_error_iff, SettingsFile.readIfReadable_eq_error_iff,
      SettingsFile.exists_readIfReadable_iff, SettingsFile.read_eq_error_iff]
    constructor
    · rintro (⟨huser, rfl⟩ | ⟨huser, ⟨cause, hproject, rfl⟩ | ⟨hproject, rfl⟩⟩ |
        ⟨settings, hdecides, hpasses, rfl⟩)
      · exact .userMalformed huser
      · exact .projectUnreadable huser hproject
      · exact .projectMalformed huser hproject
      · exact .outOfRange hdecides hpasses
    · intro h
      cases h with
      | userMalformed huser => exact .inl ⟨huser, rfl⟩
      | projectUnreadable huser hproject => exact .inr (.inl ⟨huser, .inl ⟨_, hproject, rfl⟩⟩)
      | projectMalformed huser hproject => exact .inr (.inl ⟨huser, .inr ⟨hproject, rfl⟩⟩)
      | outOfRange hdecides hpasses => exact .inr (.inr ⟨_, hdecides, hpasses, rfl⟩)

/-- A key of the project's file gets through where the variable above it cannot be understood, and
passes that are zero there are not an error if a layer above sets them. -/
example : (load ⟨⟨"user", .unreadable "is a directory"⟩,
    ⟨"project",
      .text "expansion.min_passes = 0\n[generation]\nlevel = '2'\nverbosity = 'high'"⟩,
    ⟨some " Default ", some "loud", none, none, some "+3"⟩, none⟩).toOption =
      some ⟨some .combined, some .high, none, none, some 3⟩ := by
  decide +kernel

end Settings

end UpSetProse
