import UpSetProse.Statistics.Ranking

/-!
# Rows by relative size

The row of largest size is a region of its own. The others are compared with the median of their
sizes: rows within a fifth of it are of medium size, and the rest are large or small. Regions list
their rows by decreasing size, rows of equal size in their given order.
-/

namespace UpSetProse

/-- The rows of each region. -/
structure RegionRows where
  largest : Option Row
  large : List Row
  medium : List Row
  small : List Row
  /-- The median size of all rows but the largest. -/
  median : Double
  deriving DecidableEq

namespace RegionRows

/-- The rows of a region. -/
def members (regions : RegionRows) : Region → List Row
  | .largest => regions.largest.toList
  | .large => regions.large
  | .medium => regions.medium
  | .small => regions.small

/-- Rows by decreasing size, rows of equal size in their given order. -/
def bySize (rows : List Row) : List Row := stableSort (fun a b => b.size < a.size) rows

/-- Medium sizes are this close to the median, as a multiple of it. -/
def closeness : Double := Decimal.toDouble false ⟨12, -1⟩

/-- How far a medium size may be from the median. -/
def margin (median : Double) : Double := (median - median * closeness).abs

/-- The region of a size that is not the largest. -/
def regionOf (median : Double) (size : Size) : Region :=
  let deviation := Double.ofNat size.toNat - median
  if deviation.lt 0 && (margin median).lt deviation.abs then .small
  else if deviation.abs.le (margin median) then .medium
  else .large

/-- Splits rows by relative size. -/
def ofRows (rows : List Row) : RegionRows :=
  match bySize rows with
  | [] => ⟨none, [], [], [], 0⟩
  | largest :: rest =>
    let median := medianSize rest
    let within (region : Region) := rest.filter fun row => regionOf median row.size == region
    ⟨some largest, within .large, within .medium, within .small, median⟩

end RegionRows
end UpSetProse
