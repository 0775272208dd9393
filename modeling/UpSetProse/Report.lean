/-!
# What can go wrong, and how it is reported

One type of error per part of the library, and one above them for a whole run. Every error has a
message, a stable code, and a source: either the input was inconsistent, or the tables that drive
the text are.
-/

namespace UpSetProse

/-- Which side an error comes from. -/
inductive ErrorSource where
  /-- The plot or the settings are malformed or inconsistent. -/
  | input
  /-- The library's own tables are inconsistent. -/
  | programming
  deriving DecidableEq, Repr

/-- What is reported about an error. -/
class Reported (ε : Type) where
  message : ε → String
  code : ε → String
  source : ε → ErrorSource

/-- The code in brackets before the message. -/
def Reported.tagged {ε : Type} [Reported ε] (e : ε) : String :=
  "[" ++ code e ++ "] " ++ message e

/-- Why the parts of a plot do not fit together. -/
inductive PlotError where
  | duplicateSet (name : String)
  | sizeMismatch (detail : String)
  | degreeOutOfRange (name : String) (degree setCount : Nat)
  | nonFiniteDeviation (name : String)
  | unknownVisibleRow (name : String)
  | classificationMismatch (name : String) (classifiedWith setCount : Nat)
  deriving DecidableEq, Repr

instance : Reported PlotError where
  message
    | .duplicateSet name => "Set " ++ name ++ " is listed more than once"
    | .sizeMismatch detail => "Size table does not match set list: " ++ detail
    | .degreeOutOfRange name degree setCount =>
      "Subset " ++ name ++ " has degree " ++ toString degree ++ ", but only " ++
        toString setCount ++ " sets exist"
    | .nonFiniteDeviation name =>
      "Subset " ++ name ++ " has a deviation that is not a finite number"
    | .unknownVisibleRow name =>
      "Visible subset " ++ name ++ " is missing from the unfiltered subset list"
    | .classificationMismatch name classifiedWith setCount =>
      "Subset " ++ name ++ " was classified against " ++ toString classifiedWith ++
        " sets, model has " ++ toString setCount
  code _ := "MODEL_ERROR"
  source _ := .input

/-- Why a token was not registered. -/
inductive TokenError where
  | duplicate (name : String)
  | invalidLiteral (name value : String)
  deriving DecidableEq, Repr

instance : Reported TokenError where
  message
    | .duplicate name => "Token " ++ name ++ " is registered twice"
    | .invalidLiteral name value =>
      "Token " ++ name ++ " has an unrepresentable literal: " ++ value
  code _ := "TOKEN_ERROR"
  source _ := .programming

/-- The two phases of expanding a template. -/
inductive Phase where
  /-- Symbols are replaced by phrases. -/
  | nonTerminal
  /-- Tokens are replaced by their values. -/
  | terminal
  deriving DecidableEq, Repr

def Phase.name : Phase → String
  | nonTerminal => "non-terminal"
  | terminal => "terminal"

/-- A template still held a symbol after the last permitted pass. -/
structure CycleError where
  phase : Phase
  /-- How many passes were made. -/
  passes : Nat
  /-- The last symbol in the text. -/
  symbol : String
  deriving DecidableEq, Repr

instance : Reported CycleError where
  message e :=
    "Template did not converge in " ++ e.phase.name ++ " phase after " ++ toString e.passes ++
      " passes (last symbol: " ++ e.symbol ++ ")"
  code _ := "TEMPLATE_CYCLE"
  source _ := .programming

/-- Why settings were not read, accepted or written. -/
inductive SettingsError where
  | unreadable (path cause : String)
  /-- The detail is what the reader of the document says, which the library leaves open. -/
  | malformed (path : String) (detail : Option String)
  | outOfRange (field detail : String)
  | unknownVariant (field detail : String)
  | unwritable (detail : String)
  deriving DecidableEq, Repr

instance : Reported SettingsError where
  message
    | .unreadable path cause => "Cannot read config " ++ path ++ ": " ++ cause
    | .malformed path detail =>
      "Malformed config " ++ path ++ ((detail.map fun text => ": " ++ text).getD "")
    | .outOfRange field detail => field ++ " is out of range: " ++ detail
    | .unknownVariant field detail => "Unknown " ++ field ++ " value: " ++ detail
    | .unwritable detail => "Cannot serialize config: " ++ detail
  code _ := "CONFIG_ERROR"
  source _ := .input

/-- Why a run that turns a plot into text failed. -/
inductive NarrativeError where
  | plot (error : PlotError)
  | token (error : TokenError)
  | template (error : CycleError)
  | settings (error : SettingsError)
  deriving DecidableEq, Repr

instance : Reported NarrativeError where
  message
    | .plot e => "Model error: " ++ Reported.message e
    | .token e => "Token error: " ++ Reported.message e
    | .template e => "Grammar error: " ++ Reported.message e
    | .settings e => "Configuration error: " ++ Reported.message e
  code
    | .plot e => Reported.code e
    | .token e => Reported.code e
    | .template e => Reported.code e
    | .settings e => Reported.code e
  source
    | .plot e => Reported.source e
    | .token e => Reported.source e
    | .template e => Reported.source e
    | .settings e => Reported.source e

end UpSetProse
