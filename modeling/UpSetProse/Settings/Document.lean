import UpSetProse.Settings.Basic
import UpSetProse.Toml.Reader

/-!
# Settings as TOML documents

A document has two tables, each of which may also be written as the list of its values. Keys that
are not known are passed over. Settings are written with the keys that are set, and only those.
-/

namespace UpSetProse.Settings

/-- The values of the named fields, which may be missing: by name from a table, by position from a
list. A date in place of a table has no fields. -/
def fieldsOf? (names : List String) : Toml → Option (List (Option Toml))
  | .table _ entries => some (names.map fun name => entries.lookup name)
  | .array items => some ((List.range names.length).map fun i => items[i]?)
  | .tables items => some ((List.range names.length).map fun i => (items[i]?).map (.table .header))
  | .dateTime _ => some (names.map fun _ => none)
  | _ => none

def isEmptyValue : Toml → Bool
  | .table _ entries => entries.isEmpty
  | .array items => items.isEmpty
  | _ => false

/-- A keyword as a string, or as the only key of a table, with an empty value. -/
def keyword? {α : Type} [Keyword α] : Toml → Option α
  | .string text => Keyword.ofKeyword? text
  | .table _ [(name, value)] => if isEmptyValue value then Keyword.ofKeyword? name else none
  | _ => none

def boolean? : Toml → Option Bool
  | .boolean value => some value
  | _ => none

def passes? : Toml → Option UInt64
  | .integer n => if 0 ≤ n ∧ n < UInt64.size then some (UInt64.ofNat n.toNat) else none
  | _ => none

/-- Decodes a field that may be missing. -/
def optional {α : Type} (decode : Toml → Option α) : Option Toml → Option (Option α)
  | none => some none
  | some value => (decode value).map some

/-- The keys of the table of what is generated. -/
def generationKeys : List String := ["level", "verbosity", "explain", "structured"]

/-- Decodes the table of what is generated. -/
def generation? (value : Toml) : Option Settings := do
  match ← fieldsOf? generationKeys value with
  | [level, verbosity, explain, structured] =>
    return {
      level := ← optional keyword? level
      verbosity := ← optional keyword? verbosity
      explain := ← optional keyword? explain
      structured := ← optional boolean? structured
      minPasses := none }
  | _ => none

/-- Decodes the table of how templates are expanded. -/
def expansion? (value : Toml) : Option Settings := do
  match ← fieldsOf? ["min_passes"] value with
  | [minPasses] => return { unset with minPasses := ← optional passes? minPasses }
  | _ => none

/-- The settings in a table, which may be missing. -/
def tableSettings (decode : Toml → Option Settings) (table : Option Toml) : Option Settings :=
  (table.map decode).getD (some unset)

/-- The settings of a document. -/
def ofEntries? (entries : Toml.Entries) : Option Settings := do
  let generation ← tableSettings generation? (entries.lookup "generation")
  let expansion ← tableSettings expansion? (entries.lookup "expansion")
  return generation.overlay expansion

/-- Reads settings without checking them. -/
def parse (path text : String) : Except SettingsError Settings :=
  match (Toml.read text).bind ofEntries? with
  | some settings => .ok settings
  | none => .error (.malformed path none)

/-- What stands for the path of a document that is held in memory. -/
def memoryPath : String := "<string>"

/-- Reads and checks settings. -/
def ofToml (text : String) : Except SettingsError Settings := do
  (← parse memoryPath text).validated

/-- A line that gives a value to a key. -/
def writeLine (key value : String) : String := key ++ " = " ++ value ++ "\n"

/-- The line of a keyword that is set. -/
def writeKeyword {α : Type} [Keyword α] (key : String) (value : Option α) : String :=
  (value.map fun a => writeLine key ("\"" ++ keyword a ++ "\"")).getD ""

/-- The document of settings; the passes have to fit into 64 bits with a sign. -/
def toToml (settings : Settings) : Except SettingsError String :=
  if settings.minPasses.any (fun n => Int64.maxValue.toInt < n.toNat) then
    .error (.unwritable "out-of-range value for u64 type")
  else
    .ok ("[generation]\n" ++
      writeKeyword "level" settings.level ++
      writeKeyword "verbosity" settings.verbosity ++
      writeKeyword "explain" settings.explain ++
      (settings.structured.map fun b => writeLine "structured" (toString b)).getD "" ++
      "\n[expansion]\n" ++
      (settings.minPasses.map fun n => writeLine "min_passes" (toString n.toNat)).getD "")

end UpSetProse.Settings
