import UpSetProse.Proofs.StableSort
import UpSetProse.Statistics.Comparison

/-!
# The two largest sizes

The two largest sizes of a list are the first two of it in descending order, so that a size that
occurs twice may be both. There is one such pair in every list of at least two sizes, and sorting
finds it.
-/

namespace UpSetProse

/-- The first two sizes of a list in descending order, counted with repetition. -/
def Leads (largest second : Size) (sizes : List Size) : Prop :=
  ∃ rest, sizes.Perm (largest :: second :: rest) ∧ second ≤ largest ∧ ∀ size ∈ rest, size ≤ second

variable {largest second largest' second' : Size} {sizes : List Size}

/-- A size that the others do not exceed is the largest of all. -/
theorem le_of_mem_cons {first size : Size} {rest : List Size} (h : ∀ size ∈ rest, size ≤ first)
    (hmem : size ∈ first :: rest) : size ≤ first := by
  rcases List.mem_cons.mp hmem with rfl | hmem
  · exact UInt64.le_refl _
  · exact h size hmem

/-- No size is larger than the largest one. -/
theorem Leads.le_largest (h : Leads largest second sizes) {size : Size} (hmem : size ∈ sizes) :
    size ≤ largest := by
  obtain ⟨rest, hperm, hle, hrest⟩ := h
  have hothers : ∀ size ∈ second :: rest, size ≤ largest := fun size hmem =>
    UInt64.le_trans (le_of_mem_cons hrest hmem) hle
  exact le_of_mem_cons hothers (hperm.subset hmem)

/-- The largest size is one of the sizes. -/
theorem Leads.largest_mem (h : Leads largest second sizes) : largest ∈ sizes := by
  obtain ⟨rest, hperm, -, -⟩ := h
  exact hperm.mem_iff.mpr List.mem_cons_self

theorem Leads.second_le (h : Leads largest second sizes) : second.toNat ≤ largest.toNat := by
  obtain ⟨rest, -, hle, -⟩ := h
  exact UInt64.le_iff_toNat_le.mp hle

/-- A list has at most one pair of two largest sizes. -/
theorem Leads.unique (h : Leads largest second sizes) (h' : Leads largest' second' sizes) :
    largest = largest' ∧ second = second' := by
  obtain rfl : largest = largest' :=
    UInt64.le_antisymm (h'.le_largest h.largest_mem) (h.le_largest h'.largest_mem)
  obtain ⟨rest, hperm, -, hrest⟩ := h
  obtain ⟨rest', hperm', -, hrest'⟩ := h'
  have hsame : (second :: rest).Perm (second' :: rest') := (hperm.symm.trans hperm').cons_inv
  have hle : second ≤ second' := le_of_mem_cons hrest' (hsame.subset List.mem_cons_self)
  have hle' : second' ≤ second := le_of_mem_cons hrest (hsame.symm.subset List.mem_cons_self)
  exact ⟨rfl, UInt64.le_antisymm hle hle'⟩

/-- Whether a size is larger ranks sizes by their numbers, from above. -/
theorem ranks_descending (sizes : List Size) : Ranks (fun a b : Size => b < a) sizes where
  asymm a _ b _ hless := decide_eq_false (UInt64.lt_asymm (of_decide_eq_true hless))
  trans a _ b _ c _ hab hbc := by
    have hab := UInt64.not_lt.mp (of_decide_eq_false hab)
    have hbc := UInt64.not_lt.mp (of_decide_eq_false hbc)
    exact decide_eq_false (UInt64.not_lt.mpr (UInt64.le_trans hab hbc))

/-- Sorting brings the two largest sizes to the front. -/
theorem leads_of_twoLargest? (h : twoLargest? sizes = some (largest, second)) :
    Leads largest second sizes := by
  have hsorted := sorted_stableSort (ranks_descending sizes)
  have hperm := perm_stableSort (fun a b : Size => b < a) sizes
  unfold twoLargest? at h
  split at h
  · rename_i first next rest heq
    obtain ⟨rfl, rfl⟩ := Prod.mk.inj (Option.some.inj h)
    rw [heq] at hsorted hperm
    obtain ⟨hfirst, hnext⟩ := List.pairwise_cons.mp hsorted
    have hle := hfirst next List.mem_cons_self
    refine ⟨rest, hperm.symm, UInt64.not_lt.mp (of_decide_eq_false hle), fun size hmem => ?_⟩
    have hsize := (List.pairwise_cons.mp hnext).1 size hmem
    exact UInt64.not_lt.mp (of_decide_eq_false hsize)
  · cases h

/-- Fewer than two sizes have no two largest ones. -/
theorem twoLargest?_eq_none_iff : twoLargest? sizes = none ↔ sizes.length < 2 := by
  have hlength := (perm_stableSort (fun a b : Size => b < a) sizes).length_eq
  unfold twoLargest?
  split
  · rename_i heq
    rw [heq] at hlength
    simp only [List.length_cons] at hlength
    exact iff_of_false (Option.some_ne_none _) (by omega)
  · rename_i hnot
    refine iff_of_true rfl ?_
    by_contra htwo
    rw [not_lt, ← hlength] at htwo
    match hsort : stableSort (fun a b : Size => b < a) sizes with
    | [] => simp [hsort] at htwo
    | [_] => simp [hsort] at htwo
    | largest :: second :: rest => exact hnot largest second rest hsort

/-- The two largest sizes are those that lead, and no others. -/
theorem twoLargest?_eq_some_iff :
    twoLargest? sizes = some (largest, second) ↔ Leads largest second sizes := by
  refine ⟨leads_of_twoLargest?, fun h => ?_⟩
  cases htwo : twoLargest? sizes with
  | none =>
    obtain ⟨rest, hperm, -⟩ := h
    have hshort := twoLargest?_eq_none_iff.mp htwo
    rw [hperm.length_eq, List.length_cons, List.length_cons] at hshort
    omega
  | some pair =>
    obtain ⟨rfl, rfl⟩ := (leads_of_twoLargest? htwo).unique h
    rfl

theorem exists_leads_iff : (∃ largest second, Leads largest second sizes) ↔ 2 ≤ sizes.length := by
  rw [← Nat.not_lt, ← twoLargest?_eq_none_iff]
  constructor
  · rintro ⟨largest, second, hleads⟩
    rw [twoLargest?_eq_some_iff.mpr hleads]
    exact Option.some_ne_none _
  · intro hsome
    obtain ⟨⟨largest, second⟩, htwo⟩ := Option.ne_none_iff_exists'.mp hsome
    exact ⟨largest, second, twoLargest?_eq_some_iff.mp htwo⟩

end UpSetProse
