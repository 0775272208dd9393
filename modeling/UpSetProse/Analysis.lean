import UpSetProse.Plot.Basic
import UpSetProse.Presentation
import UpSetProse.Regions.Map
import UpSetProse.Statistics.Comparison
import UpSetProse.Statistics.Degrees
import UpSetProse.Statistics.Deviations

/-!
# Analysed plots

A plot and its presentation together with what is derived from the visible rows: where each kind of
row lies, the rows by degree, and the rows by the sign of their deviation.
-/

namespace UpSetProse

/-- A plot with the analyses that its description draws on. -/
structure Analysis where
  plot : Plot
  presentation : Presentation
  regions : RegionMap
  degrees : DegreeSummaries
  deviations : DeviationSplit

namespace Analysis

/-- The highest degree that is summarized. -/
def maxSummarizedDegree : Nat := 50

/-- Analyses the visible rows of a plot. -/
def ofPlot (plot : Plot) (presentation : Presentation) : Except Overflow Analysis := do
  let regions ← RegionMap.ofRows plot.visible
  let degrees ← DegreeSummaries.ofRows plot.visible maxSummarizedDegree
  let deviations ← DeviationSplit.ofRows plot.visible
  return { plot, presentation, regions, degrees, deviations }

/-- The rows that the plot shows. -/
def visible (a : Analysis) : List Row := a.plot.visible

/-- The special rows, looked up among all rows, so that hiding them does not deny them. -/
def specialRows (a : Analysis) : SpecialRows := .find a.plot.rows a.plot.setCount

/-- The total of all set sizes, which counts an element once for each of its sets. -/
def universalSetSize (a : Analysis) : Except Overflow Size := Size.total a.plot.sizes.values

/-- The total size of the visible rows. -/
def visibleSize (a : Analysis) : Except Overflow Size := Size.total (a.visible.map (·.size))

/-- The sets with their sizes, in plot order. -/
def sizedSets (a : Analysis) : List (String × Size) :=
  a.plot.sets.map fun name => (name, (a.plot.setSize? name).getD 0)

/-- The first entry that no entry improves on. -/
def firstBest? (improves : Size → Size → Bool) : List (String × Size) → Option (String × Size)
  | [] => none
  | first :: rest =>
    some (rest.foldl (fun best next => if improves next.2 best.2 then next else best) first)

/-- The first set of the largest size. -/
def largestSet? (a : Analysis) : Option (String × Size) :=
  firstBest? (fun size best => best < size) a.sizedSets

/-- The first set of the smallest size. -/
def smallestSet? (a : Analysis) : Option (String × Size) :=
  firstBest? (fun size best => size < best) a.sizedSets

end Analysis

/-- The two totals of a plot. -/
structure Totals where
  /-- The total of all set sizes. -/
  sets : Size
  /-- The total size of the visible rows. -/
  visible : Size
  deriving DecidableEq

/-- Computes the totals of an analysed plot. -/
def Analysis.totals (a : Analysis) : Except Overflow Totals := do
  let sets ← a.universalSetSize
  let visible ← a.visibleSize
  return { sets, visible }

end UpSetProse
