import UpSetProse.Proofs.Double.Sums
import UpSetProse.Proofs.Double.Whole
import UpSetProse.Proofs.Statistics.Median

/-!
# Percentiles of sizes

A percentile is taken at an index of the sizes in order. The index stays within the list whatever
the percentage is, and it is the first one for percentages that are zero or not finite. A whole
percentage of a length is rounded down exactly as long as their product has less than 53 bits, which
is how a hundred percent of a length comes to the length itself and is moved back to the last index.
-/

namespace UpSetProse

/-! ## The index -/

section percentileIndex

variable {length whole : Nat} {percentage : Double}

theorem percentileIndex_lt (h : 0 < length) (percentage : Double) :
    percentileIndex length percentage < length := by
  unfold percentileIndex
  dsimp only
  split
  · exact (Nat.min_le_right _ _).trans_lt (Nat.sub_lt h Nat.one_pos)
  · exact h

/-- Percentages that are zero or not finite stand for the first index. -/
theorem percentileIndex_of_idle (h : percentage.Idle) (length : Nat) :
    percentileIndex length percentage = 0 := by
  have hposition : (Double.ofNat length * percentage / 100).floor.Idle :=
    ((h.mul_left _).div 100).floor
  simp only [percentileIndex, hposition.eq_false, Bool.false_eq_true, if_false]

/-- A whole percentage stands for its share of the length, rounded down. -/
theorem percentileIndex_ofNat (hlength : length ≤ 2 ^ 53) (hwhole : whole ≤ 2 ^ 53)
    (hproduct : length * whole < 2 ^ 53) :
    percentileIndex length (.ofNat whole) = min (length * whole / 100) (length - 1) := by
  have hposition : (Double.ofNat length * Double.ofNat whole / 100).floor =
      .ofNat (length * whole / 100) := by
    rw [Double.ofNat_mul_ofNat hlength hwhole]
    exact Double.floor_ofNat_div_ofNat hproduct (by decide) (by decide)
  have hshare : length * whole / 100 < 2 ^ 53 := (Nat.div_le_self _ _).trans_lt hproduct
  unfold percentileIndex
  dsimp only
  rw [hposition]
  generalize length * whole / 100 = share at hshare ⊢
  obtain ⟨hunits, hofNat⟩ := Double.ofNat_eq_finite_of_le hshare.le
  have hpositive : Double.lt 0 (.finite false (share * Double.one) hunits) = true ↔ 0 < share := by
    rw [Double.zero_eq, Double.signedZero, Double.lt_finite_iff]
    exact Nat.mul_pos_iff_of_pos_right Double.one_pos
  have hbelow : share ≤ UInt64.size - 1 := hshare.le.trans (by decide)
  rw [hofNat, Double.toNatSaturating_finite, Nat.min_eq_left hbelow, Double.isFinite,
    Bool.true_and]
  by_cases hpos : 0 < share
  · exact if_pos (hpositive.mpr hpos)
  · rw [if_neg (mt hpositive.mp hpos)]
    omega

/-- A hundred percent stand for the last index. -/
theorem percentileIndex_hundred (hlength : length < 2 ^ 46) :
    percentileIndex length 100 = length - 1 := by
  have hindex : percentileIndex length (.ofNat 100) = min (length * 100 / 100) (length - 1) :=
    percentileIndex_ofNat (by omega) (by decide) (by omega)
  rw [Nat.mul_div_cancel _ (by decide), Nat.min_eq_right (Nat.sub_le _ _)] at hindex
  exact hindex

end percentileIndex

/-! ## Sizes in order -/

namespace Row

/-- Larger sizes are not smaller as doubles. -/
theorem le_numeric_size {a b : Row} (h : a.size ≤ b.size) :
    (a.numeric .size).le (b.numeric .size) = true := by
  have ha := Double.unsigned_ofNat a.size.toNat
  have hb := Double.unsigned_ofNat b.size.toNat
  have hvalue := Double.value_ofNat_mono (UInt64.le_iff_toNat_le.mp h)
  exact (Double.le_iff_value_le ha.isNaN hb.isNaN).mpr hvalue

/-- The sizes of rows in order, of which percentiles are taken as doubles. -/
structure SizesInOrder (rows : List Row) (sorted : List Size) : Prop where
  perm : sorted.Perm (rows.map (·.size))
  ordered : sorted.Pairwise (· ≤ ·)
  percentile_eq : ∀ percentage, percentile rows .size percentage =
    sorted[percentileIndex rows.length percentage]?.map fun size => .ofNat size.toNat

theorem exists_sizesInOrder (rows : List Row) : ∃ sorted, SizesInOrder rows sorted := by
  obtain ⟨sorted, hperm, hordered, hdoubles⟩ := Size.exists_sorted (rows.map (·.size))
  have hranked : (rankBy rows .size .ascending).map (fun row => Double.ofNat row.size.toNat) =
      ascending (doubleSizes rows) := map_rankBy_size rows .ascending
  have hnumeric : (fun row : Row => row.numeric .size) = fun row => .ofNat row.size.toNat := rfl
  refine ⟨sorted, hperm, hordered, fun percentage => ?_⟩
  rw [percentile, ← List.getElem?_map, hnumeric, hranked, ← map_sizes_ofNat, hdoubles,
    List.getElem?_map]

namespace SizesInOrder

variable {rows : List Row} {sorted : List Size} (h : SizesInOrder rows sorted)
include h

theorem length_eq : sorted.length = rows.length := h.perm.length_eq.trans (List.length_map _)

theorem exists_row {i : Nat} (hi : i < sorted.length) : ∃ row ∈ rows, row.size = sorted[i] :=
  List.mem_map.mp (h.perm.subset (List.getElem_mem hi))

/-- No row is smaller than the first size or larger than the last one. -/
theorem bounds (hpos : 0 < sorted.length) {row : Row} (hrow : row ∈ rows) :
    sorted[0] ≤ row.size ∧ row.size ≤ sorted[sorted.length - 1] := by
  obtain ⟨i, hi, hsize⟩ := List.getElem_of_mem (h.perm.symm.subset (List.mem_map_of_mem hrow))
  have hlast : sorted.length - 1 < sorted.length := Nat.sub_lt hpos Nat.one_pos
  rw [← hsize]
  constructor
  · exact h.ordered.rel_get_of_le (a := ⟨0, hpos⟩) (b := ⟨i, hi⟩) (Nat.zero_le i)
  · exact h.ordered.rel_get_of_le (a := ⟨i, hi⟩) (b := ⟨_, hlast⟩) (Nat.le_pred_of_lt hi)

/-- The row with the size at the index of a percentile has the percentile as its size. -/
theorem percentile_of_index {percentage : Double} {i : Nat} (hi : i < sorted.length)
    (hindex : percentileIndex rows.length percentage = i) {row : Row}
    (hsize : row.size = sorted[i]) :
    percentile rows .size percentage = some (row.numeric .size) := by
  rw [h.percentile_eq, hindex, List.getElem?_eq_getElem hi, Option.map_some, ← hsize, numeric]

end SizesInOrder

/-! ## From the smallest to the largest size -/

/-- The percentiles by size go from the size of one row to that of another. -/
structure PercentilesSpan (rows : List Row) (smallest largest : Row) : Prop where
  smallest_mem : smallest ∈ rows
  largest_mem : largest ∈ rows
  extreme : ∀ row ∈ rows, smallest.size ≤ row.size ∧ row.size ≤ largest.size
  /-- Every percentage, of whatever sign or size, gives the size of a row. -/
  within : ∀ percentage, ∃ row ∈ rows, percentile rows .size percentage = some (row.numeric .size) ∧
    (smallest.numeric .size).le (row.numeric .size) = true ∧
    (row.numeric .size).le (largest.numeric .size) = true
  zero : ∀ percentage : Double, percentage.isZero = true →
    percentile rows .size percentage = some (smallest.numeric .size)
  /-- A percentage that is not finite counts as zero. -/
  infinite : ∀ percentage : Double, percentage.isFinite = false →
    percentile rows .size percentage = some (smallest.numeric .size)
  hundred : percentile rows .size 100 = some (largest.numeric .size)

/-- Percentiles by size of fewer than `2 ^ 46` rows are sizes of rows, from the smallest one at zero
to the largest one at a hundred. Without rows there are none. -/
theorem percentiles_span_sizes (rows : List Row) (hlength : rows.length < 2 ^ 46) :
    (rows = [] → ∀ percentage, percentile rows .size percentage = none) ∧
    (rows ≠ [] → ∃ smallest largest, PercentilesSpan rows smallest largest) := by
  constructor
  · rintro rfl percentage
    rfl
  · intro hnil
    obtain ⟨sorted, h⟩ := exists_sizesInOrder rows
    have hpos : 0 < rows.length := List.length_pos_iff.mpr hnil
    have hfirst : 0 < sorted.length := h.length_eq ▸ hpos
    have hlast : sorted.length - 1 < sorted.length := Nat.sub_lt hfirst Nat.one_pos
    obtain ⟨smallest, hsmallest, hlow⟩ := h.exists_row hfirst
    obtain ⟨largest, hlargest, hhigh⟩ := h.exists_row hlast
    have hextreme : ∀ row ∈ rows, smallest.size ≤ row.size ∧ row.size ≤ largest.size := by
      intro row hrow
      rw [hlow, hhigh]
      exact h.bounds hfirst hrow
    have hidle {percentage : Double} (hpercentage : percentage.Idle) :
        percentile rows .size percentage = some (smallest.numeric .size) :=
      h.percentile_of_index hfirst (percentileIndex_of_idle hpercentage _) hlow
    refine ⟨smallest, largest, hsmallest, hlargest, hextreme, ?_, ?_, ?_, ?_⟩
    · intro percentage
      have hindex := percentileIndex_lt hpos percentage
      rw [← h.length_eq] at hindex
      obtain ⟨row, hrow, hsize⟩ := h.exists_row hindex
      obtain ⟨hle, hge⟩ := hextreme row hrow
      refine ⟨row, hrow, ?_, le_numeric_size hle, le_numeric_size hge⟩
      exact h.percentile_of_index hindex (by rw [h.length_eq]) hsize
    · exact fun _ hzero => hidle (Double.idle_of_isZero hzero)
    · exact fun _ hinfinite => hidle (Double.idle_of_not_isFinite hinfinite)
    · refine h.percentile_of_index hlast ?_ hhigh
      rw [percentileIndex_hundred hlength, h.length_eq]

/-- Three rows, of which the two larger ones have the same size as a double. -/
def closeRows : List Row :=
  [⟨"a", 9007199254740993, 0, 1, .individual, .ofNames ["a"], 3⟩,
    ⟨"b", 7, 0, 1, .individual, .ofNames ["b"], 3⟩,
    ⟨"c", 9007199254740992, 0, 1, .individual, .ofNames ["c"], 3⟩]

/-- An infinite percentage gives the smallest size, a large finite one the largest. -/
theorem percentiles_span_sizes_close :
    (closeRows.length < 2 ^ 46 ∧ closeRows ≠ []) ∧
    ([.nan, .infinity false, -50, 0, 40, 100, 1000].map (percentile closeRows .size) =
      [some 7, some 7, some 7, some 7, some 9007199254740992, some 9007199254740992,
        some 9007199254740992]) ∧
    ∃ smallest largest, PercentilesSpan closeRows smallest largest := by
  have hlength : closeRows.length < 2 ^ 46 := by decide
  have hnil : closeRows ≠ [] := List.cons_ne_nil _ _
  exact ⟨⟨hlength, hnil⟩, by decide +kernel, (percentiles_span_sizes closeRows hlength).2 hnil⟩

end Row
end UpSetProse
