import UpSetProse.Facts.Rows
import UpSetProse.Proofs.Double.Order
import UpSetProse.Proofs.StableSort
import UpSetProse.Proofs.Statistics.Degrees
import UpSetProse.Proofs.Totals

/-!
# Statistics of rows in any order

Sizes, unlike the rows that have them, are told apart by their order. Whatever is computed from the
sorted sizes, from their exact totals or from numbers of rows is therefore the same for rows in
another order: rows that change places in a ranking by size have the same size in it.
-/

namespace UpSetProse

/-! ## Sorted sizes -/

/-- Doubles without a sign are sorted to the same list in whatever order they are given. -/
theorem SortOrder.sorted_eq_of_perm (order : SortOrder) {xs ys : List Double}
    (hsign : ∀ x ∈ xs, x.Unsigned) (h : xs.Perm ys) :
    stableSort (fun a b => order.puts (a.order b)) xs =
      stableSort (fun a b => order.puts (a.order b)) ys := by
  have hkey : ∀ a ∈ xs, ∀ b ∈ xs, a.value = b.value → a = b := fun a ha b hb =>
    (hsign a ha).eq_of_value (hsign b hb)
  cases order with
  | ascending =>
    refine stableSort_eq_of_perm Double.value (fun a ha b hb => ?_) hkey h
    rw [Double.order_eq_compare (hsign a ha).isNaN (hsign b hb).isNaN]
    exact beq_iff_eq.trans compare_lt_iff_lt
  | descending =>
    refine stableSort_eq_of_perm (fun a => OrderDual.toDual a.value) (fun a ha b hb => ?_) hkey h
    rw [Double.order_eq_compare (hsign a ha).isNaN (hsign b hb).isNaN,
      OrderDual.toDual_lt_toDual]
    exact beq_iff_eq.trans compare_gt_iff_gt

/-! ## The best of a list -/

namespace Size

variable {α : Type}

/-- Keeping the better of two things at each step leaves one that none is better than. -/
theorem foldl_best (measure : α → Size) (better : Size → Size → Prop)
    [DecidableRel better] (hasymm : ∀ a b, better a b → ¬ better b a)
    (htrans : ∀ a b c, ¬ better a b → ¬ better b c → ¬ better a c) (first : α) (rest : List α) :
    let best := rest.foldl (fun best next =>
      if better (measure next) (measure best) then next else best) first
    best ∈ first :: rest ∧ ∀ other ∈ first :: rest, ¬ better (measure other) (measure best) := by
  induction rest generalizing first with
  | nil =>
    exact ⟨List.mem_singleton_self first, List.forall_mem_singleton.mpr fun h => hasymm _ _ h h⟩
  | cons next rest ih =>
    dsimp only [List.foldl_cons] at ih ⊢
    rw [List.forall_mem_cons]
    by_cases hbetter : better (measure next) (measure first)
    · rw [if_pos hbetter]
      obtain ⟨hmem, hall⟩ := ih next
      have hfirst := htrans _ _ _ (hasymm _ _ hbetter) (List.forall_mem_cons.mp hall).1
      exact ⟨List.mem_cons_of_mem first hmem, hfirst, hall⟩
    · rw [if_neg hbetter]
      obtain ⟨hmem, hall⟩ := ih first
      obtain ⟨hfirst, hrest⟩ := List.forall_mem_cons.mp hall
      refine ⟨?_, hfirst, List.forall_mem_cons.mpr ⟨htrans _ _ _ hbetter hfirst, hrest⟩⟩
      exact List.cons_subset_cons first (List.subset_cons_self next rest) hmem

/-- No size is above the one that is left if the larger one is kept. -/
theorem foldl_larger (measure : α → Size) (first : α) (rest : List α) :
    let best := rest.foldl (fun best next =>
      if measure best < measure next then next else best) first
    best ∈ first :: rest ∧ ∀ other ∈ first :: rest, measure other ≤ measure best := by
  obtain ⟨hmem, hbest⟩ := foldl_best measure (fun size best => best < size)
    (fun _ _ => UInt64.lt_asymm) (fun _ _ _ hab hbc => UInt64.not_lt.mpr
      (UInt64.le_trans (UInt64.not_lt.mp hab) (UInt64.not_lt.mp hbc))) first rest
  exact ⟨hmem, fun other hother => UInt64.not_lt.mp (hbest other hother)⟩

/-- No size is below the one that is left if the smaller one is kept. -/
theorem foldl_smaller (measure : α → Size) (first : α) (rest : List α) :
    let best := rest.foldl (fun best next =>
      if measure next < measure best then next else best) first
    best ∈ first :: rest ∧ ∀ other ∈ first :: rest, measure best ≤ measure other := by
  obtain ⟨hmem, hbest⟩ := foldl_best measure (fun size best => size < best)
    (fun _ _ => UInt64.lt_asymm) (fun _ _ _ hab hbc => UInt64.not_lt.mpr
      (UInt64.le_trans (UInt64.not_lt.mp hbc) (UInt64.not_lt.mp hab))) first rest
  exact ⟨hmem, fun other hother => UInt64.not_lt.mp (hbest other hother)⟩

end Size

namespace Row

variable {rows others : List Row}

theorem unsigned_of_mem_doubleSizes {x : Double} (h : x ∈ doubleSizes rows) : x.Unsigned := by
  obtain ⟨row, _, rfl⟩ := List.mem_map.mp h
  exact Double.unsigned_ofNat _

/-- The sizes in a ranking by size are the sorted sizes. -/
theorem map_rankBy_size (rows : List Row) (order : SortOrder) :
    (rankBy rows .size order).map (fun row => Double.ofNat row.size.toNat) =
      stableSort (fun a b => order.puts (a.order b)) (doubleSizes rows) :=
  map_stableSort (fun a b => order.puts (Double.order a b)) _ rows

/-- A ranking by size shows the same sizes for rows in another order. -/
theorem map_rankBy_size_of_perm (h : rows.Perm others) (order : SortOrder) :
    (rankBy rows .size order).map (fun row => Double.ofNat row.size.toNat) =
      (rankBy others .size order).map (fun row => Double.ofNat row.size.toNat) := by
  rw [map_rankBy_size, map_rankBy_size]
  exact order.sorted_eq_of_perm (fun _ => unsigned_of_mem_doubleSizes) (h.map _)

theorem medianSize_of_perm (h : rows.Perm others) : medianSize rows = medianSize others := by
  have hsorted : ascending (doubleSizes rows) = ascending (doubleSizes others) :=
    SortOrder.ascending.sorted_eq_of_perm (fun _ => unsigned_of_mem_doubleSizes) (h.map _)
  unfold medianSize median
  rw [hsorted]

theorem percentile_size_of_perm (h : rows.Perm others) (percentage : Double) :
    percentile rows .size percentage = percentile others .size percentage := by
  have hnumeric : (fun row : Row => row.numeric .size) = fun row => .ofNat row.size.toNat := rfl
  unfold percentile
  rw [← List.getElem?_map, ← List.getElem?_map, hnumeric, map_rankBy_size_of_perm h, h.length_eq]

/-- The two largest sizes do not depend on the order. -/
theorem twoLargest?_of_perm {sizes sizes' : List Size} (h : sizes.Perm sizes') :
    twoLargest? sizes = twoLargest? sizes' := by
  unfold twoLargest?
  rw [stableSort_eq_of_perm (fun size : Size => OrderDual.toDual size.toNat) (fun a _ b _ => ?_)
    (fun a _ b _ heq => UInt64.toNat.inj heq) h]
  rw [OrderDual.toDual_lt_toDual, decide_eq_true_iff]
  exact UInt64.lt_iff_toNat_lt

/-! ## Extreme sizes -/

/-- The largest size is that of a row, and no row has a larger one. -/
theorem largestSize_spec (h : rows ≠ []) :
    (∃ row ∈ rows, row.size = largestSize rows) ∧ ∀ row ∈ rows, row.size ≤ largestSize rows := by
  have hsizes : largestSize rows = (rows.map (·.size)).foldl
      (fun best size => if best < size then size else best) 0 := by
    rw [List.foldl_map, largestSize]
  obtain ⟨hmem, hlargest⟩ := Size.foldl_larger id 0 (rows.map (·.size))
  simp only [id_eq, ← hsizes] at hmem hlargest
  have hrows : ∀ row ∈ rows, row.size ≤ largestSize rows := fun row hrow =>
    hlargest row.size (List.mem_cons_of_mem 0 (List.mem_map_of_mem hrow))
  refine ⟨?_, hrows⟩
  rcases List.mem_cons.mp hmem with hzero | hmem
  · obtain ⟨row, hrow⟩ := List.exists_mem_of_ne_nil rows h
    refine ⟨row, hrow, UInt64.le_antisymm (hrows row hrow) ?_⟩
    rw [hzero]
    exact UInt64.zero_le
  · exact List.mem_map.mp hmem

/-- The smallest size is that of a row, and no row has a smaller one. -/
theorem smallestSize_spec (h : rows ≠ []) :
    (∃ row ∈ rows, row.size = smallestSize rows) ∧ ∀ row ∈ rows, smallestSize rows ≤ row.size := by
  cases rows with
  | nil => exact absurd rfl h
  | cons first rest =>
    have hsizes : smallestSize (first :: rest) = (rest.map (·.size)).foldl
        (fun best size => if size < best then size else best) first.size := by
      rw [List.foldl_map, smallestSize]
    obtain ⟨hmem, hsmallest⟩ := Size.foldl_smaller id first.size (rest.map (·.size))
    simp only [id_eq, ← hsizes, ← List.map_cons] at hmem hsmallest
    exact ⟨List.mem_map.mp hmem, fun row hrow => hsmallest row.size (List.mem_map_of_mem hrow)⟩

theorem largestSize_le_of_subset (h : rows ⊆ others) : largestSize rows ≤ largestSize others := by
  by_cases hnil : rows = []
  · rw [hnil]
    exact UInt64.zero_le
  · obtain ⟨⟨row, hrow, heq⟩, -⟩ := largestSize_spec hnil
    rw [← heq]
    exact (largestSize_spec (List.ne_nil_of_mem (h hrow))).2 row (h hrow)

theorem smallestSize_le_of_subset (hnil : rows ≠ []) (h : rows ⊆ others) :
    smallestSize others ≤ smallestSize rows := by
  obtain ⟨⟨row, hrow, heq⟩, -⟩ := smallestSize_spec hnil
  rw [← heq]
  exact (smallestSize_spec (List.ne_nil_of_mem (h hrow))).2 row (h hrow)

theorem largestSize_of_perm (h : rows.Perm others) : largestSize rows = largestSize others :=
  UInt64.le_antisymm (largestSize_le_of_subset h.subset) (largestSize_le_of_subset h.symm.subset)

theorem smallestSize_of_perm (h : rows.Perm others) : smallestSize rows = smallestSize others := by
  by_cases hnil : rows = []
  · subst hnil
    rw [h.nil_eq]
  · have hother : others ≠ [] := fun hother => hnil (hother ▸ h).eq_nil
    exact UInt64.le_antisymm (smallestSize_le_of_subset hother h.symm.subset)
      (smallestSize_le_of_subset hnil h.subset)

/-! ## Totals -/

/-- A total that is taken of rows in another order is the same, or overflows as well. -/
theorem total_of_perm (h : rows.Perm others) :
    Size.total (rows.map (·.size)) = Size.total (others.map (·.size)) := by
  have hexact : Size.exactTotal (rows.map (·.size)) = Size.exactTotal (others.map (·.size)) :=
    exactSize_of_perm h
  unfold Size.total
  rw [hexact]

end Row

/-- What the summary of a degree says about sizes. -/
def DegreeSummary.sizes (summary : DegreeSummary) : Nat × Double :=
  (summary.count, summary.averageSize)

namespace DegreeSummary

variable {rows others : List Row}

/-- Rows in another order have the same number and the same mean size for each degree. -/
theorem sizes_of_perm (h : rows.Perm others) {degree : Nat} {summary other : DegreeSummary}
    (hsummary : ofRows rows degree = .ok summary) (hother : ofRows others degree = .ok other) :
    summary.sizes = other.sizes := by
  have hmembers : (members rows degree).Perm (members others degree) := h.filter _
  have hcount : countOf rows degree = countOf others degree := by
    unfold countOf
    rw [hmembers.length_eq]
  obtain ⟨total, htotal, hsummary⟩ := bind_eq_ok.mp hsummary
  obtain ⟨total', htotal', hother⟩ := bind_eq_ok.mp hother
  obtain rfl := pure_eq_ok.mp hsummary
  obtain rfl := pure_eq_ok.mp hother
  rw [Row.total_of_perm hmembers, htotal'] at htotal
  obtain rfl := Except.ok.inj htotal
  simp only [sizes, hcount]

end DegreeSummary

namespace DegreeSummaries

variable {rows others : List Row}

/-- The populated degrees with what their summaries say about sizes. -/
def populatedSizes (s : DegreeSummaries) : List (Nat × Nat × Double) :=
  s.populated.map fun (degree, summary) => (degree, summary.sizes)

/-- Which degrees are populated is seen from what the summaries say about sizes. -/
theorem populatedSizes_eq (s : DegreeSummaries) :
    s.populatedSizes = ((s.byDegree.map DegreeSummary.sizes).zipIdx.map
      fun (sizes, degree) => (degree, sizes)).filter
        fun (degree, sizes) => 0 < degree && 0 < sizes.1 :=
  map_populated (fun summary => (rfl : summary.sizes.1 = summary.count)) s

theorem averageSizes_eq (s : DegreeSummaries) : s.averageSizes = s.populatedSizes.map (·.2.2) := by
  rw [populatedSizes, List.map_map]
  rfl

theorem populatedSizes_of_perm (h : rows.Perm others) {maxDegree : Nat} {s s' : DegreeSummaries}
    (hs : ofRows rows maxDegree = .ok s) (hs' : ofRows others maxDegree = .ok s') :
    s.populatedSizes = s'.populatedSizes := by
  obtain ⟨summaries, hsummaries, hs⟩ := bind_eq_ok.mp hs
  obtain ⟨summaries', hsummaries', hs'⟩ := bind_eq_ok.mp hs'
  obtain rfl := pure_eq_ok.mp hs
  obtain rfl := pure_eq_ok.mp hs'
  have hsizes : summaries.map DegreeSummary.sizes = summaries'.map DegreeSummary.sizes :=
    map_eq_of_mapM (fun degree _ _ => DegreeSummary.sizes_of_perm h) hsummaries hsummaries'
  rw [populatedSizes_eq, populatedSizes_eq, hsizes]

end DegreeSummaries

/-- Rows in another order have the same number and the same total size on a side. -/
theorem DeviationSide.sizes_of_perm {members others : List Row} (h : members.Perm others)
    {side side' : DeviationSide} (hside : ofRows members = .ok side)
    (hside' : ofRows others = .ok side') :
    side.count = side'.count ∧ side.totalSize = side'.totalSize := by
  obtain ⟨hcount, hsize⟩ := ofRows_eq_ok hside
  obtain ⟨hcount', hsize'⟩ := ofRows_eq_ok hside'
  rw [hcount, hcount', ← UInt64.toNat_inj, hsize, hsize']
  exact ⟨h.length_eq, Row.exactSize_of_perm h⟩

end UpSetProse
