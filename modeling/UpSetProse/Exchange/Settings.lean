import UpSetProse.Exchange.Presentation
import UpSetProse.Settings.Basic

/-!
# Settings as JSON

Two objects hold the keys of what is generated and of how templates are expanded; a key that is not
set is null or left out.
-/

namespace UpSetProse.Settings

open Json (fields? withDefault)

/-- Settings as a value. -/
def toJson (settings : Settings) : Json :=
  .record
    [("generation", .record
      [("level", .ofOption (fun a => .text (keyword a)) settings.level),
       ("verbosity", .ofOption (fun a => .text (keyword a)) settings.verbosity),
       ("explain", .ofOption (fun a => .text (keyword a)) settings.explain),
       ("structured", .ofOption .bool settings.structured)]),
     ("expansion", .record
      [("min_passes", .ofOption (fun n => .natural n.toNat) settings.minPasses)])]

/-- Reads what is generated. -/
def generationOfJson? (value : Json) : Option Settings := do
  match ← fields? [["level"], ["verbosity"], ["explain"], ["structured"]] value with
  | [level, verbosity, explain, structured] =>
    return {
      level := ← withDefault none level
      verbosity := ← withDefault none verbosity
      explain := ← withDefault none explain
      structured := ← withDefault none structured
      minPasses := none }
  | _ => none

/-- Reads how templates are expanded. -/
def expansionOfJson? (value : Json) : Option Settings := do
  match ← fields? [["min_passes"]] value with
  | [minPasses] => return { unset with minPasses := ← withDefault none minPasses }
  | _ => none

/-- Reads settings without checking them. -/
def ofJson? (value : Json) : Option Settings := do
  match ← fields? [["generation"], ["expansion"]] value with
  | [generation, expansion] =>
    let generation ← (generation.map generationOfJson?).getD (some unset)
    let expansion ← (expansion.map expansionOfJson?).getD (some unset)
    return generation.overlay expansion
  | _ => none

end UpSetProse.Settings

namespace UpSetProse

instance : JsonDecode Settings := ⟨Settings.ofJson?⟩

end UpSetProse
