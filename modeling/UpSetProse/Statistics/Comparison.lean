import UpSetProse.Double.Decimal
import UpSetProse.Plot.Row
import UpSetProse.StableSort

/-!
# Comparisons of sizes

How far two sizes are apart, how strongly a sequence changes, how many times the largest size holds
the second largest, and the mean size. All of them are doubles in the order of evaluation given.
-/

namespace UpSetProse

namespace Divergence

/-- The shares of the largest size, in percent, that end the first three bands. -/
def bounds : Double × Double × Double :=
  (Decimal.toDouble false ⟨2667, -2⟩, Decimal.toDouble false ⟨5335, -2⟩, 80)

/-- The band of the smallest size as a share of the largest; equal when the largest is zero. -/
def ofSizes (smallest largest : Size) : Divergence :=
  if largest = 0 then .identical
  else
    let share := Double.ofNat smallest.toNat / .ofNat largest.toNat * 100
    if share.lt bounds.1 then .strong
    else if share.lt bounds.2.1 then .moderate
    else if share.lt bounds.2.2 then .slight
    else .identical

end Divergence

namespace Double

/-- The mean, from a running update by each value's share of the difference. -/
def runningMean (values : List Double) : Double :=
  (values.foldl (fun (mean, i) x => (mean + (x - mean) / .ofNat i, i + 1)) ((0 : Double), 1)).1

/-- The sum of squared differences, updated with each value after the first. -/
def runningSquares : (sum squares : Double) → (i : Nat) → List Double → Double
  | _, squares, _, [] => squares
  | sum, squares, i, x :: rest =>
    let sum := sum + x
    let difference := .ofNat i * x - sum
    let weight := Double.ofNat i * (.ofNat i - 1)
    runningSquares sum (squares + difference * difference / weight) (i + 1) rest

/-- The sample standard deviation of at least two values. -/
def sampleDeviation : List Double → Double
  | [] => nan
  | [_] => nan
  | first :: rest => (runningSquares first 0 2 rest / .ofNat rest.length).sqrt

end Double

namespace Change

/-- The relative deviation from which on a change is drastic. -/
def drasticFrom : Double := 1 / 2

/-- Judges a sequence by its standard deviation relative to its mean. -/
def ofSizes (sizes : List Double) : Change :=
  if sizes.length < 2 then .constant
  else
    let mean := Double.runningMean sizes
    let deviation := Double.sampleDeviation sizes
    if !deviation.isFinite || deviation.isZero || mean.isZero then .constant
    else if (deviation / mean.abs).lt drasticFrom then .gradual
    else .drastic

end Change

/-- The fraction above which a factor is rounded up. -/
def roundUpAbove : Double := Decimal.toDouble false ⟨78, -2⟩

/-- The two largest sizes, the largest first. -/
def twoLargest? (sizes : List Size) : Option (Size × Size) :=
  match stableSort (fun a b => b < a) sizes with
  | largest :: second :: _ => some (largest, second)
  | _ => none

/-- How many times the largest size holds the second largest, rounded mostly down. -/
def largestFactor (sizes : List Size) : Option Nat :=
  (twoLargest? sizes).bind fun (largest, second) =>
    if second = 0 then none
    else
      let ratio := Double.ofNat largest.toNat / .ofNat second.toNat
      let factor := if roundUpAbove.lt ratio.fract then ratio.ceil else ratio.floor
      some (factor.toNatSaturating UInt64.size)

/-- The mean of `count` sizes with the given total, zero for none. -/
def Size.mean (total : Size) (count : Nat) : Double :=
  .quotientOrZero (.ofNat total.toNat) (.ofNat count)

/-- The mean size of rows, zero for none. -/
def averageSize (rows : List Row) : Except Overflow Double :=
  (Size.mean · rows.length) <$> Size.total (rows.map (·.size))

end UpSetProse
