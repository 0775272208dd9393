import UpSetProse.Plot.Classification

/-!
# Plots

A plot has sets with their sizes, all of its rows, and the rows that are visible. It is built
through a check of its parts, so that the analyses need not look for inconsistencies again: the
first fault found is the error, sets before sizes before rows before visibility.
-/

namespace UpSetProse

/-- The parts that a plot is built from. -/
structure PlotParts where
  /-- The names of the sets in plot order. -/
  sets : List String
  sizes : NameTable Size
  /-- The rows that pass the filters. -/
  visible : List Row
  /-- The unfiltered rows. -/
  rows : List Row
  deriving DecidableEq

namespace PlotParts

/-- The first name that is also among the names before it. -/
def firstRepeated? : (before : List String) → List String → Option String
  | _, [] => none
  | before, name :: rest =>
    if name ∈ before then some name else firstRepeated? (name :: before) rest

/-- A set that is listed twice. -/
def duplicateFault? (parts : PlotParts) : Option PlotError :=
  (firstRepeated? [] parts.sets).map .duplicateSet

/-- The sets without a size, in order of their names. -/
def unsized (parts : PlotParts) : List String :=
  (NameSet.ofNames parts.sets).names.filter fun name => !parts.sizes.names.contains name

/-- The names with a size that are no sets, in order. -/
def unlisted (parts : PlotParts) : List String :=
  parts.sizes.names.filter fun name => !parts.sets.contains name

/-- A size table that is not about exactly the sets. -/
def sizeFault? (parts : PlotParts) : Option PlotError :=
  if parts.unsized.isEmpty && parts.unlisted.isEmpty then none
  else some (.sizeMismatch ("missing sizes for " ++ Text.quotedList parts.unsized ++
    ", sizes for unknown sets " ++ Text.quotedList parts.unlisted))

/-- A row that does not fit the number of sets or has no finite deviation. -/
def rowFault? (setCount : Nat) (row : Row) : Option PlotError :=
  if setCount < row.degree.toNat then
    some (.degreeOutOfRange row.name row.degree.toNat setCount)
  else if !row.deviation.isFinite then some (.nonFiniteDeviation row.name)
  else if row.classifiedWith ≠ setCount then
    some (.classificationMismatch row.name row.classifiedWith setCount)
  else none

/-- The first faulty row, unfiltered rows before visible ones. -/
def rowsFault? (parts : PlotParts) : Option PlotError :=
  (parts.rows ++ parts.visible).findSome? (rowFault? parts.sets.length)

/-- Names of rows are compared in lower case. -/
def foldedName (row : Row) : String := String.ofList (Text.lowerCase row.name.toList)

/-- A visible row that no unfiltered row is named like. -/
def visibilityFault? (parts : PlotParts) : Option PlotError :=
  let known := parts.rows.map foldedName
  (parts.visible.find? fun row => !known.contains (foldedName row)).map
    fun row => .unknownVisibleRow row.name

/-- The first fault of the parts, if they do not make a plot. -/
def fault? (parts : PlotParts) : Option PlotError :=
  parts.duplicateFault? <|> parts.sizeFault? <|> parts.rowsFault? <|> parts.visibilityFault?

end PlotParts

/-- Parts without a fault. -/
structure Plot extends PlotParts where
  faultless : toPlotParts.fault? = none
  deriving DecidableEq

namespace Plot

/-- Checks the parts of a plot. -/
def build (parts : PlotParts) : Except PlotError Plot :=
  match h : parts.fault? with
  | none => .ok ⟨parts, h⟩
  | some fault => .error fault

/-- The plot without sets and rows. -/
def empty : Plot := ⟨⟨[], .empty, [], []⟩, rfl⟩

instance : Inhabited Plot := ⟨empty⟩

/-- The number of sets. -/
def setCount (plot : Plot) : Nat := plot.sets.length

/-- The size of a set. -/
def setSize? (plot : Plot) (name : String) : Option Size := plot.sizes.get? name

/-- The sizes of the unfiltered rows in their order. -/
def rowSizes (plot : Plot) : List Size := plot.rows.map (·.size)

end Plot
end UpSetProse
