import UpSetProse.Template.Expansion
import UpSetProse.Vocabulary

/-!
# Options and settings

Options are everything that is asked of one description. Settings leave open what they do not set.
They come in layers: an upper layer takes precedence key by key, and what no layer sets has a
default.
-/

namespace UpSetProse

/-- What a description is asked to be. -/
structure Options where
  level : Level
  verbosity : Verbosity
  explain : Explanation
  /-- Whether a combined description has separate parts. -/
  structured : Bool
  /-- The passes that each phase of the expansion is granted at least. -/
  minPasses : UInt64
  deriving DecidableEq, Repr

instance : Inhabited Options :=
  ⟨⟨default, default, default, false, UInt64.ofNat defaultMinPasses⟩⟩

/-- The five keys of a layer of settings, each of which may be unset. -/
structure Settings where
  level : Option Level
  verbosity : Option Verbosity
  explain : Option Explanation
  structured : Option Bool
  minPasses : Option UInt64
  deriving DecidableEq, Repr

/-- What is asked for on the command line, where the passes cannot be set. -/
structure Flags where
  level : Option Level
  verbosity : Option Verbosity
  explain : Option Explanation
  structured : Option Bool
  deriving DecidableEq, Repr

namespace Settings

/-- Settings that set nothing. -/
def unset : Settings := ⟨none, none, none, none, none⟩

instance : Inhabited Settings := ⟨unset⟩

/-- The settings of a lower layer under those of an upper one. -/
def overlay (lower upper : Settings) : Settings where
  level := upper.level <|> lower.level
  verbosity := upper.verbosity <|> lower.verbosity
  explain := upper.explain <|> lower.explain
  structured := upper.structured <|> lower.structured
  minPasses := upper.minPasses <|> lower.minPasses

/-- The name of the key of the passes in messages. -/
def minPassesKey : String := "expansion.min_passes"

/-- Passes that are set have to be positive. -/
def fault? (settings : Settings) : Option SettingsError :=
  if settings.minPasses = some 0 then some (.outOfRange minPassesKey "must be at least 1")
  else none

/-- Settings that were checked. -/
def validated (settings : Settings) : Except SettingsError Settings :=
  match settings.fault? with
  | none => .ok settings
  | some fault => .error fault

/-- The options with defaults for what is unset. -/
def toOptions (settings : Settings) : Options where
  level := settings.level.getD default
  verbosity := settings.verbosity.getD default
  explain := settings.explain.getD default
  structured := settings.structured.getD false
  minPasses := settings.minPasses.getD (UInt64.ofNat defaultMinPasses)

end Settings

/-- Flags as the uppermost layer. -/
def Flags.toSettings (flags : Flags) : Settings where
  level := flags.level
  verbosity := flags.verbosity
  explain := flags.explain
  structured := flags.structured
  minPasses := none

end UpSetProse
