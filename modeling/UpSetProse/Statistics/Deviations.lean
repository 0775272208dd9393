import UpSetProse.Double.Arithmetic
import UpSetProse.Plot.Row

/-!
# Rows larger and smaller than expected

Rows are split by the sign of their deviation; a row without deviation is on neither side.
-/

namespace UpSetProse

/-- The rows on one side. -/
structure DeviationSide where
  count : Nat
  totalSize : Size
  averageDeviation : Double
  deriving DecidableEq

/-- The rows above and the rows below their expected size. -/
structure DeviationSplit where
  positive : DeviationSide
  negative : DeviationSide
  deriving DecidableEq

/-- Summarizes the rows of one side. -/
def DeviationSide.ofRows (members : List Row) : Except Overflow DeviationSide := do
  let total ← Size.total (members.map (·.size))
  return {
    count := members.length
    totalSize := total
    averageDeviation :=
      .quotientOrZero (.sum (members.map (·.deviation))) (.ofNat members.length) }

namespace Row

def isAboveExpected (row : Row) : Bool := Double.lt 0 row.deviation

def isBelowExpected (row : Row) : Bool := Double.lt row.deviation 0

end Row

/-- Splits rows by the sign of their deviation. -/
def DeviationSplit.ofRows (rows : List Row) : Except Overflow DeviationSplit := do
  let positive ← DeviationSide.ofRows (rows.filter (·.isAboveExpected))
  let negative ← DeviationSide.ofRows (rows.filter (·.isBelowExpected))
  return { positive, negative }

end UpSetProse
