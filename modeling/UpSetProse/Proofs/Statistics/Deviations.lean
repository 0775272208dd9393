import UpSetProse.Facts.Rows
import UpSetProse.Proofs.Double.Bounds
import UpSetProse.Proofs.Outcomes
import UpSetProse.Statistics.Deviations

/-!
# Deviations that stay finite

The deviations of a plot are finite one by one, and so are the extreme ones, but their running sum
may pass the largest double. The average on a side is finite exactly if the running sum on that side
is. Deviations that were rounded to two decimal places are at most about a hundredth of the largest
double, so the sum of up to 99 of them is always finite.
-/

namespace UpSetProse

namespace Row

variable {rows : List Row}

/-- The running sum of deviations. -/
def deviationSum (rows : List Row) : Double := .sum (rows.map (·.deviation))

/-- No fold that keeps one of two numbers leaves the finite numbers. -/
theorem isFinite_foldl_choice {choose : Double → Double → Double}
    (hchoose : ∀ x y, choose x y = x ∨ choose x y = y) {first : Double}
    (hfirst : first.isFinite = true) (h : ∀ row ∈ rows, row.deviation.isFinite = true) :
    (rows.foldl (fun best row => choose best row.deviation) first).isFinite = true := by
  induction rows generalizing first with
  | nil => exact hfirst
  | cons row rest ih =>
    obtain ⟨hrow, hrest⟩ := List.forall_mem_cons.mp h
    refine ih ?_ hrest
    dsimp only
    rcases hchoose first row.deviation with heq | heq
    · rw [heq]
      exact hfirst
    · rw [heq]
      exact hrow

theorem isFinite_greatestDeviation (h : ∀ row ∈ rows, row.deviation.isFinite = true) :
    (greatestDeviation rows).isFinite = true := by
  cases rows with
  | nil => decide +kernel
  | cons first rest =>
    obtain ⟨hfirst, hrest⟩ := List.forall_mem_cons.mp h
    exact isFinite_foldl_choice Double.max_eq_or hfirst hrest

theorem isFinite_leastDeviation (h : ∀ row ∈ rows, row.deviation.isFinite = true) :
    (leastDeviation rows).isFinite = true := by
  cases rows with
  | nil => decide +kernel
  | cons first rest =>
    obtain ⟨hfirst, hrest⟩ := List.forall_mem_cons.mp h
    exact isFinite_foldl_choice Double.min_eq_or hfirst hrest

/-! ## Recorded deviations -/

/-- A hundredth of the first number too large for a double, rounded up to seven binary digits. -/
def recordedBound : Nat := 82 * 2 ^ 2085

theorem significant_mul_recordedBound {k : Nat} (h : k ≤ 99) :
    Significant (k * recordedBound) := by
  have hsmall : k * 82 < 2 ^ 53 := (Nat.mul_le_mul_right 82 h).trans_lt (by decide)
  have hproduct : k * recordedBound = k * 82 * 2 ^ 2085 := (Nat.mul_assoc k 82 _).symm
  rw [hproduct]
  exact Significant.mul_two_pow ⟨k * 82, 0, hsmall, (Nat.mul_one _).symm⟩ 2085

/-- The deviation of a row is rounded when the row is made of a record. -/
theorem within_deviation_ofRecord {record : RowRecord} {kind : Kind} {setCount : Nat}
    (h : (ofRecord record kind setCount).deviation.isFinite = true) :
    (ofRecord record kind setCount).deviation.Within recordedBound := by
  have hsignificant := significant_mul_recordedBound (k := 1) (by decide)
  rw [Nat.one_mul] at hsignificant
  exact Double.within_roundTo_two h hsignificant (by decide +kernel) (by decide +kernel)

/-- Up to 99 recorded deviations have a finite sum. -/
theorem isFinite_deviationSum (hlength : rows.length ≤ 99)
    (h : ∀ row ∈ rows, row.deviation.Within recordedBound) :
    (deviationSum rows).isFinite = true := by
  have hmap : (rows.map (·.deviation)).length ≤ 99 := by
    rw [List.length_map]
    exact hlength
  have hfinite : 99 * recordedBound < infiniteUnits := by decide +kernel
  refine Double.Within.isFinite (Double.within_sum (List.forall_mem_map.mpr h) (fun k hk => ?_)
    ((Nat.mul_le_mul_right recordedBound hmap).trans_lt hfinite))
  exact significant_mul_recordedBound (hk.trans hmap)

end Row

namespace DeviationSide

/-- An average deviation is finite exactly if the sum it is taken of is. -/
theorem isFinite_averageDeviation {members : List Row} {side : DeviationSide}
    (h : ofRows members = .ok side) :
    side.averageDeviation.isFinite = (Row.deviationSum members).isFinite := by
  obtain ⟨total, _, h⟩ := bind_eq_ok.mp h
  obtain rfl := pure_eq_ok.mp h
  cases members with
  | nil =>
    simp only [Double.quotientOrZero_ofNat, List.length_nil, if_true]
    decide +kernel
  | cons first rest =>
    simp only [Double.quotientOrZero_ofNat, List.length_cons, Nat.succ_ne_zero, if_false]
    exact Double.isFinite_div_ofNat _ (Nat.succ_pos _)

end DeviationSide
end UpSetProse
