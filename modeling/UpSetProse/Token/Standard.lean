import UpSetProse.Facts.Regions
import UpSetProse.Facts.State
import UpSetProse.Token.Basic
import UpSetProse.Token.Map

/-!
# The standard token map

Every standard token has a value for every analysed plot. Plain quantities and keywords are fixed
when the map is built; texts are produced when they are resolved. The only sums taken are two
totals, so a map is built unless one of those, or an analysis before them, overflows. Four of the
texts are shares, which take their total once more.
-/

namespace UpSetProse

namespace Token

/-- The value of a token for an analysed plot with the given totals. -/
def value (a : Analysis) (totals : Totals) : Token → TokenValue
  | setCount => .ofNat a.plot.setCount
  | visibleSetCount => .ofNat a.visibleSetCount
  | universalSetSize => .ofNat totals.sets.toNat
  | rowCount => .ofNat a.visible.length
  | unfilteredRowCount => .ofNat a.plot.rows.length
  | nonEmptyRowCount => .ofNat (a.visible.countP fun row => 0 < row.size)
  | maxSize => .ofNat (Row.largestSize a.visible).toNat
  | minSize => .ofNat (Row.smallestSize a.visible).toNat
  | averageSize => .number (totals.visible.mean a.visible.length)
  | maxDeviation => .number (Row.greatestDeviation a.visible)
  | minDeviation => .number (Row.leastDeviation a.visible)
  | positiveCount => .ofNat a.deviations.positive.count
  | positiveSize => .ofNat a.deviations.positive.totalSize.toNat
  | positiveAverage => .number a.deviations.positive.averageDeviation
  | negativeCount => .ofNat a.deviations.negative.count
  | negativeSize => .ofNat a.deviations.negative.totalSize.toNat
  | negativeAverage => .number a.deviations.negative.averageDeviation
  | sortBy => .text (keyword a.presentation.sortBy)
  | sortOrder => .text (keyword a.presentation.sortOrder)
  | title => .computed Analysis.title
  | caption => .computed Analysis.caption
  | description => .computed Analysis.description
  | setsLabel => .computed Analysis.setsLabel
  | itemsLabel => .computed Analysis.itemsLabel
  | setNames => .computed Analysis.setNames
  | setSizes => .computed Analysis.setSizes
  | maxSetName => .computed fun a => Analysis.nameOf a.largestSet?
  | minSetName => .computed fun a => Analysis.nameOf a.smallestSet?
  | maxSetSize => .computed fun a => Analysis.sizeOf a.largestSet?
  | minSetSize => .computed fun a => Analysis.sizeOf a.smallestSet?
  | maxSetShare => .totalled fun a => a.setShare a.largestSet?
  | minSetShare => .totalled fun a => a.setShare a.smallestSet?
  | setDivergence => .computed fun a => keyword a.setDivergence
  | maxMembership => .computed fun a => a.leadingMembership .size .descending
  | minMembership => .computed fun a => a.leadingMembership .size .ascending
  | maxShare => .totalled fun a => a.visibleShare a.leadingSize
  | minShare => .totalled fun a => a.visibleShare (Row.smallestSize a.visible)
  | topCount => .computed fun a => toString (Nat.min a.visible.length Analysis.topLimit)
  | topRows => .computed Analysis.topRows
  | largestFactor => .computed Analysis.factorPhrase
  | degreeInfo => .computed Analysis.degreeInfo
  | kindSummary => .computed Analysis.kindSummary
  | medianSize => .computed fun a => Text.figure (UpSetProse.medianSize a.visible)
  | lowerQuartile => .computed fun a => a.sizeAt 25
  | upperQuartile => .computed fun a => a.sizeAt 75
  | maxDeviationMembership => .computed fun a => a.leadingMembership .deviation .descending
  | minDeviationMembership => .computed fun a => a.leadingMembership .deviation .ascending
  | sizeChange => .computed fun a => keyword a.sizeChange
  | degreeTrend => .computed fun a => a.degrees.trend.verb
  | degreeChange => .computed fun a => keyword a.degreeChange
  | regionSummary => .computed Analysis.regionSummary
  | emptyPhrase => .computed Analysis.emptyPhrase
  | allSetsPhrase => .computed Analysis.allSetsPhrase
  | bookmarkPhrase => .computed fun a => a.presentation.bookmarkPhrase
  | filterPhrase => .computed fun a => a.presentation.filterPhrase
  | setQueryPhrase => .computed fun a => a.presentation.setQueryPhrase
  | attributePhrase => .computed fun a => a.presentation.attributePhrase

end Token

/-- Why a standard token map was not built. -/
inductive TokenMapError where
  | overflow (error : Overflow)
  | token (error : TokenError)
  deriving DecidableEq, Repr

namespace TokenMap

/-- The map of all standard tokens over a plot. -/
def standard (plot : Plot) (presentation : Presentation) : Except TokenMapError TokenMap := do
  let a ← (Analysis.ofPlot plot presentation).mapError .overflow
  let totals ← a.totals.mapError .overflow
  let tokens := Token.all.map fun token => (token.name, token.value a totals)
  ((empty a).registerAll tokens).mapError .token

end TokenMap
end UpSetProse
