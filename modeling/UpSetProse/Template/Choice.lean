import UpSetProse.Template.Standard

/-!
# The choice of templates

Which template starts the expansion, by level, verbosity, sort key and explanation, and the sections
of a structured description.
-/

namespace UpSetProse

open Phrase (sentences space)

namespace Template

/-- The explanation of the technique, which is followed by a space. -/
def explanation : Explanation → Phrase
  | .none => []
  | .simple => sentences [.technique] ++ space
  | .full => sentences [.technique, .matrix, .bars] ++ space

/-- What the plot shows. -/
def levelOne (verbosity : Verbosity) : Phrase := [Symbol.levelOne verbosity]

/-- What the data says, beginning with what the rows are sorted by. -/
def levelTwo (sortBy : SortKey) (verbosity : Verbosity) : Phrase :=
  [Symbol.levelTwo sortBy verbosity]

/-- How the sizes change. -/
def trends : Verbosity → Phrase
  | .low => sentences [.sizeTrend]
  | .medium => sentences [.sizeTrend, .degreeTrend]
  | .high => sentences [.sizeTrend, .degreeTrend, .regions]

/-- The levels that are asked for. -/
def levels (sortBy : SortKey) (verbosity : Verbosity) : Level → Phrase
  | .one => levelOne verbosity
  | .two => levelTwo sortBy verbosity
  | .combined =>
    levelOne verbosity ++ space ++ levelTwo sortBy verbosity ++ space ++ trends verbosity

/-- The short description of a structured answer. -/
def shortDescription : Phrase := sentences [.summary]

/-- The description of the technique in a structured answer. -/
def techniqueDescription : Phrase := sentences [.technique, .matrix, .bars]

end Template

/-- A section of the long description. -/
inductive Section where
  | introduction | dataset | sets | intersections | statistics | trends
  deriving DecidableEq, Repr

namespace Section

/-- The sections in their order. -/
def all : List Section := [introduction, dataset, sets, intersections, statistics, trends]

def heading : Section → String
  | introduction => "Introduction"
  | dataset => "Dataset Properties"
  | sets => "Set Properties"
  | intersections => "Intersection Properties"
  | statistics => "Statistical Information"
  | trends => "Trend Analysis"

/-- What a section talks about, one sentence for each symbol. -/
def symbols : Section → List Symbol
  | introduction => [.titleAndCaption, .technique, .descriptionLine]
  | dataset => [.labels, .setList, .visibleRows, .sorting, .filters, .attributes]
  | sets => [.setSizes, .setSizeList, .setExtremes]
  | intersections =>
    [.extremes, .factor, .top, .degrees, .kinds, .specialRows, .bookmarks, .setQuery]
  | statistics => [.statistics, .deviationExtremes, .deviationSplit]
  | trends => [.sizeTrend, .degreeTrend, .regions]

def template (part : Section) : Phrase := sentences part.symbols

end Section
end UpSetProse
