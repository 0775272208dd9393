import UpSetProse.Double.Arithmetic
import UpSetProse.Plot.Row

/-!
# Rows by degree

Counts, sizes and deviations of the rows of each degree up to a highest one. Degree zero always
counts as one row, whether the plot lists it or not.
-/

namespace UpSetProse

/-- What the rows of one degree amount to. -/
structure DegreeSummary where
  count : Nat
  totalSize : Size
  averageSize : Double
  averageDeviation : Double
  deriving DecidableEq

/-- Summaries of the degrees from zero on. -/
structure DegreeSummaries where
  byDegree : List DegreeSummary
  deriving DecidableEq

namespace DegreeSummary

/-- The rows of one degree. -/
def members (rows : List Row) (degree : Nat) : List Row :=
  rows.filter fun row => row.degree.toNat == degree

/-- Degree zero counts as one row, other degrees as many as there are. -/
def countOf (rows : List Row) (degree : Nat) : Nat :=
  if degree = 0 then 1 else (members rows degree).length

/-- Summarizes the rows of one degree. -/
def ofRows (rows : List Row) (degree : Nat) : Except Overflow DegreeSummary := do
  let members := members rows degree
  let count := countOf rows degree
  let total ← Size.total (members.map (·.size))
  return {
    count
    totalSize := total
    averageSize := .quotientOrZero (.ofNat total.toNat) (.ofNat count)
    averageDeviation := .quotientOrZero (.sum (members.map (·.deviation))) (.ofNat count) }

end DegreeSummary

/-- Where the average size goes as the degree grows. -/
inductive DegreeTrend where
  | increasing | decreasing | varying | flat
  deriving DecidableEq, Repr

/-- The verb for a trend of the average size. -/
def DegreeTrend.verb : DegreeTrend → String
  | increasing => "increases"
  | decreasing => "decreases"
  | varying => "fluctuates"
  | flat => "stays the same"

namespace DegreeSummaries

/-- Summarizes the rows of every degree up to `maxDegree`; rows of higher degree are left out. -/
def ofRows (rows : List Row) (maxDegree : Nat) : Except Overflow DegreeSummaries := do
  return ⟨← (List.range (maxDegree + 1)).mapM (DegreeSummary.ofRows rows)⟩

/-- The highest degree summarized. -/
def maxDegree (s : DegreeSummaries) : Nat := s.byDegree.length - 1

/-- The degrees from one on that have rows, with their summaries. -/
def populated (s : DegreeSummaries) : List (Nat × DegreeSummary) :=
  (s.byDegree.zipIdx.map fun (summary, degree) => (degree, summary)).filter
    fun (degree, summary) => 0 < degree && 0 < summary.count

/-- The average sizes of the populated degrees, by degree. -/
def averageSizes (s : DegreeSummaries) : List Double := s.populated.map (·.2.averageSize)

/-- The comparisons of neighbouring values. -/
def steps : List Double → List (Option Ordering)
  | a :: b :: rest => Double.compare? b a :: steps (b :: rest)
  | _ => []

/-- The trend of a sequence of averages. -/
def trendOf (averages : List Double) : DegreeTrend :=
  let steps := steps averages
  match steps.contains (some .gt), steps.contains (some .lt) with
  | true, false => .increasing
  | false, true => .decreasing
  | true, true => .varying
  | false, false => .flat

/-- The trend of the average size over the populated degrees. -/
def trend (s : DegreeSummaries) : DegreeTrend := trendOf s.averageSizes

end DegreeSummaries
end UpSetProse
