import UpSetProse.Proofs.Facts.LargestRow
import UpSetProse.Proofs.Statistics.Median

/-!
# What the regions make of the rows

The rows are split without loss: the first of the largest rows is a region of its own, and the rows
given before and after it are divided among the others. Each region lists its rows from the largest
down, rows of one size in their given order, and all rows of one size are in the same region.
-/

namespace UpSetProse

/-- The first of the largest rows, between the rows that are given before and after it. -/
structure Row.FirstLargest (rows before : List Row) (largest : Row) (after : List Row) : Prop where
  split : rows = before ++ largest :: after
  larger : ∀ row ∈ before, row.size < largest.size
  atLeast : ∀ row ∈ after, row.size ≤ largest.size

namespace RegionRows

/-- How the rows other than the largest one are divided among the regions. -/
structure Divides (regions : RegionRows) (others : List Row) : Prop where
  perm : (regions.large ++ regions.medium ++ regions.small).Perm others
  decreasing : ∀ region, (regions.members region).Pairwise fun earlier later =>
    later.size ≤ earlier.size
  /-- The rows of one size are in one region, in their given order. -/
  stable : ∀ region ≠ .largest, ∀ size, (regions.members region).filter (·.size == size) =
    if regionOf regions.median size = region then others.filter (·.size == size) else []
  /-- At every size, the rows are split at the double that is taken of the median: that of the size
  in the middle, or the mean of the doubles of the two sizes there. It is rounded three times at
  most, and for sizes of up to 52 bits not at all. -/
  median : ∃ exact, Size.Median (others.map (·.size)) exact regions.median ∧
    regions.median.Approximates 3 exact ∧
    ((∀ row ∈ others, row.size.toNat ≤ 2 ^ 52) → regions.median.Approximates 0 exact)

variable {rows : List Row}

/-- Rows that are told apart by three regions are those of the three. -/
theorem perm_filter_regions {regionOf : Row → Region} (h : ∀ row, regionOf row ≠ .largest)
    (rows : List Row) :
    (rows.filter (regionOf · == .large) ++ rows.filter (regionOf · == .medium) ++
      rows.filter (regionOf · == .small)).Perm rows := by
  induction rows with
  | nil => exact .refl _
  | cons row rows ih =>
    cases hregion : regionOf row with
    | largest => exact absurd hregion (h row)
    | large => simpa [hregion] using ih
    | medium =>
      simp only [List.filter_cons, hregion, List.append_assoc] at ih ⊢
      exact List.perm_middle.trans (ih.cons row)
    | small =>
      simp only [List.filter_cons, hregion]
      exact List.perm_middle.trans (ih.cons row)

/-- The largest row of the regions is the first of the largest rows. -/
theorem exists_firstLargest {largest : Row} (h : (ofRows rows).largest = some largest) :
    ∃ before after, Row.FirstLargest rows before largest after := by
  rw [Row.largest_ofRows, List.find?_eq_some_iff_append] at h
  obtain ⟨hsize, before, after, hsplit, hbefore⟩ := h
  rw [beq_iff_eq] at hsize
  have hmem : largest ∈ rows := by rw [hsplit]; simp
  obtain ⟨-, hlargest⟩ := Row.largestSize_spec (List.ne_nil_of_mem hmem)
  rw [← hsize] at hlargest hbefore
  refine ⟨before, after, hsplit, fun row hrow => ?_, fun row hrow => hlargest row ?_⟩
  · have hne : row.size ≠ largest.size := by simpa using hbefore row hrow
    have hle := hlargest row (by rw [hsplit]; simp [hrow])
    exact UInt64.lt_of_le_of_ne hle hne
  · rw [hsplit]
    simp [hrow]

/-- Without the largest row, the order by size ranks the rows before it and after it. -/
theorem rankedBySize_rest {before after rest : List Row} {largest : Row}
    (hfirst : Row.FirstLargest rows before largest after) (h : bySize rows = largest :: rest) :
    Row.RankedBySize (before ++ after) rest := by
  obtain ⟨hperm, hdecreasing, hstable⟩ := rankedBySize_bySize rows
  rw [h] at hperm hdecreasing hstable
  rw [hfirst.split] at hperm hstable
  refine ⟨(hperm.trans List.perm_middle).cons_inv, hdecreasing.of_cons, fun size => ?_⟩
  have hsame := hstable size
  rw [List.filter_append] at hsame ⊢
  by_cases hsize : largest.size = size
  · have hnone : before.filter (·.size == size) = [] := by
      rw [List.filter_eq_nil_iff]
      intro row hrow heq
      rw [beq_iff_eq, ← hsize] at heq
      exact UInt64.lt_irrefl _ (heq ▸ hfirst.larger row hrow)
    simpa [hsize, hnone] using hsame
  · simpa [hsize] using hsame

/-- The rows that are ranked after the largest are divided among the other regions. -/
theorem divides_of_ranked {others rest : List Row} {largest : Row}
    (hranked : Row.RankedBySize others rest) (h : bySize rows = largest :: rest) :
    (ofRows rows).Divides others := by
  have hmembers := members_of_bySize_cons h
  have hmedian : (ofRows rows).median = medianSize rest := by
    unfold ofRows
    rw [h]
  refine ⟨?_, fun region => ?_, fun region hregion size => ?_, ?_⟩
  · have hlarge := hmembers .large
    have hmedium := hmembers .medium
    have hsmall := hmembers .small
    simp only [members, reduceCtorEq, if_false] at hlarge hmedium hsmall
    rw [hlarge, hmedium, hsmall]
    exact (perm_filter_regions (fun _ => regionOf_ne_largest _ _) rest).trans hranked.perm
  · rw [hmembers]
    split
    · exact List.pairwise_singleton _ largest
    · exact hranked.decreasing.filter _
  · rw [hmembers, if_neg hregion, ← hranked.stable, hmedian, List.filter_filter]
    have hsame (row : Row) : (row.size == size && regionOf (medianSize rest) row.size == region) =
        (row.size == size && regionOf (medianSize rest) size == region) := by
      by_cases hsize : row.size = size
      · rw [hsize]
      · rw [beq_false_of_ne hsize, Bool.false_and, Bool.false_and]
    simp only [hsame]
    split
    · rename_i heq
      simp [heq]
    · rename_i hne
      simp [hne]
  · obtain ⟨exact, hexact⟩ := Row.exists_median others
    rw [hmedian, Row.medianSize_of_perm hranked.perm]
    refine ⟨exact, hexact, hexact.approximates, fun hsmall => hexact.approximates_of_le ?_⟩
    rw [List.forall_mem_map]
    exact hsmall

theorem ofRows_nil : ofRows [] = ⟨none, [], [], [], 0⟩ := rfl

/-- There is a largest row exactly if there are rows, and the order by size starts with it. -/
theorem largest_eq_some_iff {largest : Row} :
    (ofRows rows).largest = some largest ↔ ∃ rest, bySize rows = largest :: rest := by
  unfold ofRows
  cases bySize rows with
  | nil => simp
  | cons first rest => simp

theorem largest_eq_none_iff : (ofRows rows).largest = none ↔ rows = [] := by
  constructor
  · intro h
    have hperm := perm_bySize rows
    cases hsorted : bySize rows with
    | nil =>
      rw [hsorted] at hperm
      exact hperm.nil_eq.symm
    | cons first rest =>
      rw [largest_eq_some_iff.mpr ⟨rest, hsorted⟩] at h
      cases h
  · rintro rfl
    rw [ofRows_nil]

/-- The rows given before and after the largest one are divided among the other regions. -/
theorem exists_divides {largest : Row} (h : (ofRows rows).largest = some largest) :
    ∃ before after, Row.FirstLargest rows before largest after ∧
      (ofRows rows).Divides (before ++ after) := by
  obtain ⟨before, after, hfirst⟩ := exists_firstLargest h
  obtain ⟨rest, hsorted⟩ := largest_eq_some_iff.mp h
  exact ⟨before, after, hfirst, divides_of_ranked (rankedBySize_rest hfirst hsorted) hsorted⟩

theorem perm_regions (rows : List Row) :
    ((ofRows rows).largest.toList ++ (ofRows rows).large ++ (ofRows rows).medium ++
      (ofRows rows).small).Perm rows := by
  cases hlargest : (ofRows rows).largest with
  | none =>
    obtain rfl := largest_eq_none_iff.mp hlargest
    rw [ofRows_nil]
    exact .refl _
  | some largest =>
    obtain ⟨before, after, hfirst, hdivides⟩ := exists_divides hlargest
    have hall := (hdivides.perm.cons largest).trans List.perm_middle.symm
    rw [← hfirst.split] at hall
    exact hall

/-- The regions hold the given rows, none of them lost or repeated. The largest one is the first of
the largest rows, and the others are divided by their size. -/
theorem split_of_rows (rows : List Row) :
    ((ofRows rows).largest.toList ++ (ofRows rows).large ++ (ofRows rows).medium ++
      (ofRows rows).small).Perm rows ∧
    ((ofRows rows).largest = none ↔ rows = []) ∧
    (ofRows []).median = 0 ∧
    ∀ largest, (ofRows rows).largest = some largest → ∃ before after,
      Row.FirstLargest rows before largest after ∧ (ofRows rows).Divides (before ++ after) := by
  have hmedian : (ofRows []).median = 0 := by rw [ofRows_nil]
  exact ⟨perm_regions rows, largest_eq_none_iff, hmedian, fun _ => exists_divides⟩

/-- Of two largest rows the first one is the region, and the other is listed with the rest. -/
theorem split_of_rows_tied :
    ∃ before after, Row.FirstLargest
      [.sole "a" 4, .sole "b" 9, .sole "c" 9, .sole "d" 4] before (.sole "b" 9) after ∧
      (ofRows [.sole "a" 4, .sole "b" 9, .sole "c" 9, .sole "d" 4]).Divides (before ++ after) :=
  (split_of_rows _).2.2.2 _ (by decide +kernel)

end RegionRows
end UpSetProse
