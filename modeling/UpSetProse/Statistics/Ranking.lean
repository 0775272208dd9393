import UpSetProse.Plot.Row
import UpSetProse.StableSort

/-!
# Rankings

Rows are ranked by a field in either order. The sort is stable, so rows that compare equal keep
their places relative to each other in both orders.
-/

namespace UpSetProse

namespace Row

/-- The order of two rows by a field: names by code points, other fields as numbers. -/
def compareBy (field : RowField) (a b : Row) : Ordering :=
  match field with
  | .name => compare a.name b.name
  | field => (a.numeric field).order (b.numeric field)

end Row

/-- Whether the first of two things, so compared, has to stand before the second. -/
def SortOrder.puts (order : SortOrder) (comparison : Ordering) : Bool :=
  match order with
  | .ascending => comparison == .lt
  | .descending => comparison == .gt

/-- The rows sorted by a field, ties in their given order. -/
def rankBy (rows : List Row) (field : RowField) (order : SortOrder) : List Row :=
  stableSort (fun a b => order.puts (a.compareBy field b)) rows

/-- Doubles from small to large. -/
def ascending (values : List Double) : List Double :=
  stableSort (fun a b => a.order b == .lt) values

/-- The middle value, or the mean of the two middle ones; zero for no values. -/
def median (values : List Double) : Double :=
  let sorted := ascending values
  let middle := sorted.length / 2
  if sorted.isEmpty then 0
  else if sorted.length % 2 = 0 then
    (sorted.getD (middle - 1) 0 + sorted.getD middle 0) / 2
  else sorted.getD middle 0

namespace Row

/-- The sizes of rows as doubles. -/
def doubleSizes (rows : List Row) : List Double := rows.map fun row => .ofNat row.size.toNat

/-- The sizes are taken out of the rows before or after they are made doubles. -/
theorem map_sizes_ofNat (rows : List Row) :
    (rows.map (·.size)).map (fun size => Double.ofNat size.toNat) = doubleSizes rows := by
  simp only [doubleSizes, List.map_map, Function.comp_def]

end Row

/-- The median size of rows. -/
def medianSize (rows : List Row) : Double := median (Row.doubleSizes rows)

/-- The index of a percentile: the rounded-down share of the length, kept within the list. -/
def percentileIndex (length : Nat) (percentage : Double) : Nat :=
  let position := (Double.ofNat length * percentage / 100).floor
  if position.isFinite && Double.lt 0 position then
    Nat.min (position.toNatSaturating UInt64.size) (length - 1)
  else 0

/-- The value of a field at a percentile of the rows ranked by it; none without rows. -/
def percentile (rows : List Row) (field : RowField) (percentage : Double) : Option Double :=
  (rankBy rows field .ascending)[percentileIndex rows.length percentage]?.map (·.numeric field)

end UpSetProse
