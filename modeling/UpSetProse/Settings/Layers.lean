import UpSetProse.Settings.Document

/-!
# Layers of settings

Settings are resolved from the lowest layer up: the user's file, the project's file, variables of
the environment, and flags. A user's file that cannot be read is passed over, and so is a variable
whose value cannot be understood; every other fault of a file is an error. Only the result is
checked, so an upper layer can mend what a lower one sets.
-/

namespace UpSetProse

/-- What is found at the path of a settings file. -/
inductive FileState where
  | absent
  | unreadable (cause : String)
  | text (content : String)
  deriving DecidableEq, Repr

/-- A settings file. -/
structure SettingsFile where
  path : String
  state : FileState
  deriving DecidableEq, Repr

/-- The texts of the variables that are set in the environment. -/
structure Variables where
  level : Option String
  verbosity : Option String
  explain : Option String
  structured : Option String
  minPasses : Option String
  deriving DecidableEq, Repr

/-- Everything that settings are resolved from. -/
structure SettingsSources where
  user : SettingsFile
  project : SettingsFile
  environment : Variables
  flags : Option Flags
  deriving DecidableEq, Repr

namespace SettingsFile

/-- The settings of a file, none set if there is no file. -/
def read (file : SettingsFile) : Except SettingsError Settings :=
  match file.state with
  | .absent => .ok .unset
  | .unreadable cause => .error (.unreadable file.path cause)
  | .text content => Settings.parse file.path content

/-- The settings of a file, none set if it cannot be read. -/
def readIfReadable (file : SettingsFile) : Except SettingsError Settings :=
  match file.state with
  | .unreadable _ => .ok .unset
  | _ => file.read

end SettingsFile

namespace Variables

/-- A keyword, in any case and with white space around it. -/
def keyword? {α : Type} [Keyword α] (text : String) : Option α := (Keyword.parse text).toOption

def boolean? (text : String) : Option Bool :=
  if text = "true" then some true else if text = "false" then some false else none

/-- Decimal digits after an optional plus sign, in the range of 64 bits. -/
def passes? (text : String) : Option UInt64 :=
  let digits :=
    match text.toList with
    | '+' :: digits => digits
    | digits => digits
  ((Text.natural? digits).filter (· < UInt64.size)).map UInt64.ofNat

/-- The settings of the variables that can be understood. -/
def toSettings (values : Variables) : Settings where
  level := values.level.bind keyword?
  verbosity := values.verbosity.bind keyword?
  explain := values.explain.bind keyword?
  structured := values.structured.bind boolean?
  minPasses := values.minPasses.bind passes?

end Variables

namespace Settings

/-- Resolves settings from all layers. -/
def load (sources : SettingsSources) : Except SettingsError Settings := do
  let user ← sources.user.readIfReadable
  let project ← sources.project.read
  let flags := (sources.flags.map Flags.toSettings).getD unset
  (((user.overlay project).overlay sources.environment.toSettings).overlay flags).validated

end Settings
end UpSetProse
