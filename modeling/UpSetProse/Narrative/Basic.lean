import UpSetProse.Narrative.Document
import UpSetProse.Settings.Basic
import UpSetProse.Template.Choice
import UpSetProse.Token.Standard

/-!
# Narratives

A narrator has the tokens of a plot, the phrases and the options. It expands the template that the
options choose: to plain text, or to a structured description with a document of sections.
-/

namespace UpSetProse

/-- A description in separate parts. -/
structure StructuredDescription where
  short : String
  technique : String
  /-- A document in Markdown. -/
  long : String
  deriving DecidableEq, Repr

/-- The description of a plot. -/
inductive Narrative where
  | plain (text : String)
  | structured (description : StructuredDescription)
  deriving DecidableEq, Repr

/-- All that a description is made from. -/
structure Narrator where
  options : Options
  tokens : TokenMap
  phrases : PhraseTable := .standard

namespace Narrator

/-- The template that the options choose. -/
def template (n : Narrator) : Phrase :=
  Template.explanation n.options.explain ++
    Template.levels n.tokens.analysis.presentation.sortBy n.options.verbosity n.options.level

/-- Expands a template with the phrases and tokens of the narrator. -/
def expand (n : Narrator) (template : Phrase) : Except NarrativeError String :=
  (UpSetProse.expand n.phrases n.tokens.substitution n.options.minPasses.toNat
    template.write).mapError .template

/-- The description as plain text. -/
def text (n : Narrator) : Except NarrativeError String := n.expand n.template

/-- A section of the long description, with its heading. -/
def sectionText (n : Narrator) (part : Section) : Except NarrativeError (String × String) :=
  (part.heading, ·) <$> n.expand part.template

/-- The description in separate parts. -/
def structured (n : Narrator) : Except NarrativeError StructuredDescription := do
  let short ← n.expand Template.shortDescription
  let technique ← n.expand Template.techniqueDescription
  let sections ← Section.all.mapM n.sectionText
  let document : Document := { title := n.tokens.resolve Token.title.name, sections }
  return { short, technique, long := document.render }

/-- The description in the form that the options ask for; only a combined one has parts. -/
def generate (n : Narrator) : Except NarrativeError Narrative :=
  if n.options.structured && n.options.level == .combined then .structured <$> n.structured
  else .plain <$> n.text

end Narrator
end UpSetProse
