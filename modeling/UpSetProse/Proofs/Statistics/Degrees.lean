import Mathlib.Algebra.GroupWithZero.Nat
import Mathlib.Data.List.Nodup
import UpSetProse.Proofs.Outcomes
import UpSetProse.Statistics.Degrees

/-!
# Rows counted by degree

The summaries of the degrees count the rows of each degree, except for degree zero. The populated
degrees are those from one up to the highest summarized one that some row has, in ascending order,
and together they count every row of such a degree once.
-/

namespace UpSetProse

/-- Counts of different kinds of elements sum up to the number of elements of any of these kinds. -/
theorem sum_map_countP {α κ : Type} [DecidableEq κ] {keys : List κ} (h : keys.Nodup) (key : α → κ)
    (xs : List α) : (keys.map fun k => xs.countP fun x => key x == k).sum =
      xs.countP fun x => key x ∈ keys := by
  induction keys with
  | nil => simp
  | cons k keys ih =>
    obtain ⟨hk, hkeys⟩ := List.nodup_cons.mp h
    rw [List.map_cons, List.sum_cons, ih hkeys]
    clear ih
    induction xs with
    | nil => rfl
    | cons x xs ih =>
      simp only [List.countP_cons, ← ih]
      by_cases hx : key x = k
      · simp only [hx, hk, List.mem_cons_self, beq_self_eq_true, decide_true, decide_false]
        grind
      · simp only [hx, List.mem_cons, false_or, beq_false_of_ne hx]
        grind

namespace DegreeSummary

variable {rows : List Row} {degree : Nat}

theorem count_of_ofRows {summary : DegreeSummary} (h : ofRows rows degree = .ok summary) :
    summary.count = countOf rows degree := by
  obtain ⟨total, _, h⟩ := bind_eq_ok.mp h
  obtain rfl := pure_eq_ok.mp h
  rfl

/-- Only for degree zero the count is not that of the rows. -/
theorem countOf_of_pos (h : 0 < degree) :
    countOf rows degree = rows.countP fun row => row.degree.toNat == degree := by
  rw [countOf, if_neg (Nat.ne_of_gt h), members, List.countP_eq_length_filter]

end DegreeSummary

/-- The degrees from one to a highest one that some of the rows have, in ascending order. -/
structure Row.DegreesListed (rows : List Row) (maxDegree : Nat) (degrees : List Nat) : Prop where
  increasing : degrees.Pairwise (· < ·)
  mem_iff : ∀ degree, degree ∈ degrees ↔
    (1 ≤ degree ∧ degree ≤ maxDegree) ∧ ∃ row ∈ rows, row.degree.toNat = degree

/-- There is only one such list. -/
theorem Row.DegreesListed.unique {rows : List Row} {maxDegree : Nat} {degrees others : List Nat}
    (h : Row.DegreesListed rows maxDegree degrees)
    (hothers : Row.DegreesListed rows maxDegree others) : degrees = others := by
  have hmem (degree : Nat) : degree ∈ degrees ↔ degree ∈ others :=
    (h.mem_iff degree).trans (hothers.mem_iff degree).symm
  have hperm : degrees.Perm others :=
    (List.perm_ext_iff_of_nodup (h.increasing.imp Nat.ne_of_lt)
      (hothers.increasing.imp Nat.ne_of_lt)).mpr hmem
  exact hperm.eq_of_pairwise (fun _ _ _ _ hlt hgt => absurd hlt (Nat.lt_asymm hgt)) h.increasing
    hothers.increasing

/-- Every row of a listed degree is counted once. -/
theorem Row.DegreesListed.sum_countP {rows : List Row} {maxDegree : Nat} {degrees : List Nat}
    (h : Row.DegreesListed rows maxDegree degrees) :
    (degrees.map fun degree => rows.countP fun row => row.degree.toNat == degree).sum =
      rows.countP fun row => 1 ≤ row.degree.toNat ∧ row.degree.toNat ≤ maxDegree := by
  rw [sum_map_countP (h.increasing.imp Nat.ne_of_lt)]
  refine List.countP_congr fun row hrow => ?_
  rw [decide_eq_true_iff, decide_eq_true_iff, h.mem_iff]
  exact and_iff_left ⟨row, hrow, rfl⟩

namespace DegreeSummaries

variable {rows : List Row} {maxDegree : Nat} {s : DegreeSummaries}

/-- Which degrees are populated is seen from whatever shows the counts of the summaries. -/
theorem map_populated {γ : Type} {view : DegreeSummary → γ} {count : γ → Nat}
    (hcount : ∀ summary, count (view summary) = summary.count) (s : DegreeSummaries) :
    (s.populated.map fun (degree, summary) => (degree, view summary)) =
      ((s.byDegree.map view).zipIdx.map fun (shown, degree) => (degree, shown)).filter
        fun (degree, shown) => 0 < degree && 0 < count shown := by
  rw [List.zipIdx_map, List.map_map, populated, List.filter_map, List.filter_map, List.map_map]
  simp only [Function.comp_def, Prod.map_fst, Prod.map_snd, hcount]
  rfl

/-- The populated degrees with their counts. -/
def populatedCounts (s : DegreeSummaries) : List (Nat × Nat) :=
  s.populated.map fun (degree, summary) => (degree, summary.count)

/-- The degrees that rows have are listed, each with the number of its rows. -/
theorem populatedCounts_eq (h : ofRows rows maxDegree = .ok s) :
    ∃ degrees, Row.DegreesListed rows maxDegree degrees ∧
      s.populatedCounts = degrees.map fun degree =>
        (degree, rows.countP fun row => row.degree.toNat == degree) := by
  obtain ⟨summaries, hsummaries, h⟩ := bind_eq_ok.mp h
  obtain rfl := pure_eq_ok.mp h
  have hcounts : summaries.map (·.count) =
      (List.range (maxDegree + 1)).map (DegreeSummary.countOf rows) :=
    map_eq_map_of_mapM (fun _ _ => DegreeSummary.count_of_ofRows) hsummaries
  have hindexed : ((List.range (maxDegree + 1)).map (DegreeSummary.countOf rows)).zipIdx.map
      (fun (count, degree) => (degree, count)) =
        (List.range (maxDegree + 1)).map fun degree =>
          (degree, DegreeSummary.countOf rows degree) :=
    List.ext_getElem (by simp) (by simp)
  have hpopulated := map_populated (fun summary => (rfl : id summary.count = summary.count))
    ⟨summaries⟩
  refine ⟨(List.range (maxDegree + 1)).filter fun degree =>
    0 < degree && 0 < DegreeSummary.countOf rows degree, ⟨?_, fun degree => ?_⟩, ?_⟩
  · exact List.pairwise_lt_range.filter _
  · rw [List.mem_filter, List.mem_range, Bool.and_eq_true, decide_eq_true_iff, decide_eq_true_iff]
    constructor
    · rintro ⟨hle, hpos, hcount⟩
      rw [DegreeSummary.countOf_of_pos hpos, List.countP_pos_iff] at hcount
      exact ⟨⟨hpos, Nat.le_of_lt_succ hle⟩, by simpa using hcount⟩
    · rintro ⟨⟨hpos, hle⟩, hrow⟩
      rw [DegreeSummary.countOf_of_pos hpos, List.countP_pos_iff]
      exact ⟨Nat.lt_succ_of_le hle, hpos, by simpa using hrow⟩
  · rw [populatedCounts, hpopulated, hcounts, hindexed, List.filter_map]
    refine List.map_congr_left fun degree hdegree => ?_
    have hpos : (decide (0 < degree) && decide (0 < DegreeSummary.countOf rows degree)) = true :=
      (List.mem_filter.mp hdegree).2
    rw [Bool.and_eq_true, decide_eq_true_iff] at hpos
    rw [DegreeSummary.countOf_of_pos hpos.1]

end DegreeSummaries
end UpSetProse
