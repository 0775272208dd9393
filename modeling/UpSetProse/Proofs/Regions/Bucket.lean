import Mathlib.Data.List.Sublists
import UpSetProse.Regions.Bucket

/-!
# How regions split rows

The rows by decreasing size are the rows again. The first of them is the region of the largest row,
and each other row is in the one region that its size belongs to, so that the regions together hold
every row and no row twice.
-/

namespace UpSetProse.RegionRows

theorem perm_bySize (rows : List Row) : (bySize rows).Perm rows := perm_stableSort _ rows

theorem members_of_bySize_nil {rows : List Row} (h : bySize rows = []) (region : Region) :
    (ofRows rows).members region = [] := by
  unfold ofRows
  rw [h]
  cases region <;> rfl

/-- The rows of each region, by the size of the rows. -/
theorem members_of_bySize_cons {rows rest : List Row} {largest : Row}
    (h : bySize rows = largest :: rest) (region : Region) :
    (ofRows rows).members region = if region = .largest then [largest] else
      rest.filter fun row => regionOf (medianSize rest) row.size == region := by
  unfold ofRows
  rw [h]
  cases region <;> rfl

/-- Only the first row of all is in the region of the largest. -/
theorem regionOf_ne_largest (median : Double) (size : Size) : regionOf median size ≠ .largest := by
  simp only [regionOf]
  split_ifs <;> exact nofun

/-- A region holds some of the rows, none of them twice. -/
theorem subperm_members (rows : List Row) (region : Region) :
    ((ofRows rows).members region).Subperm rows := by
  refine List.Subperm.trans ?_ (perm_bySize rows).subperm
  cases hsorted : bySize rows with
  | nil => rw [members_of_bySize_nil hsorted]
  | cons largest rest =>
    rw [members_of_bySize_cons hsorted]
    split
    · exact (List.singleton_sublist.mpr List.mem_cons_self).subperm
    · exact (List.filter_sublist.trans (List.sublist_cons_self largest rest)).subperm

/-- The regions together hold the rows and nothing else. -/
theorem exists_mem_members_iff {rows : List Row} {row : Row} :
    (∃ region, row ∈ (ofRows rows).members region) ↔ row ∈ rows := by
  constructor
  · rintro ⟨region, hrow⟩
    exact (subperm_members rows region).subset hrow
  · intro hrow
    rw [← (perm_bySize rows).mem_iff] at hrow
    cases hsorted : bySize rows with
    | nil =>
      rw [hsorted] at hrow
      cases hrow
    | cons largest rest =>
      rw [hsorted] at hrow
      rcases List.mem_cons.mp hrow with rfl | hrest
      · refine ⟨.largest, ?_⟩
        rw [members_of_bySize_cons hsorted, if_pos rfl]
        exact List.mem_singleton_self _
      · refine ⟨regionOf (medianSize rest) row.size, ?_⟩
        rw [members_of_bySize_cons hsorted, if_neg (regionOf_ne_largest _ _)]
        exact List.mem_filter.mpr ⟨hrest, beq_self_eq_true _⟩

end UpSetProse.RegionRows
