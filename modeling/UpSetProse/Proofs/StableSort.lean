import Mathlib.Data.List.Basic
import Mathlib.Order.Lattice
import UpSetProse.StableSort

/-!
# What a stable sort makes of a list

Sorting by a comparison that ranks the elements of a list leaves none before one that it would have
to follow, and elements of which none is less than another stay in the order that the list was given
in. If the ranks tell all elements apart, the sorted list no longer shows that order.
-/

namespace UpSetProse

variable {α β : Type}

/-- The comparison ranks the elements: it is asymmetric, and what is not less passes on. -/
structure Ranks (less : α → α → Bool) (xs : List α) : Prop where
  asymm : ∀ a ∈ xs, ∀ b ∈ xs, less a b = true → less b a = false
  trans : ∀ a ∈ xs, ∀ b ∈ xs, ∀ c ∈ xs, less a b = false → less b c = false → less a c = false

namespace Ranks

variable {less : α → α → Bool} {xs ys : List α}

theorem mono (h : Ranks less xs) (hsub : ys ⊆ xs) : Ranks less ys where
  asymm a ha b hb := h.asymm a (hsub ha) b (hsub hb)
  trans a ha b hb c hc := h.trans a (hsub ha) b (hsub hb) c (hsub hc)

/-- Elements are ranked by values in a linear order. -/
theorem of_key {κ : Type} [LinearOrder κ] {key : α → κ}
    (h : ∀ a ∈ xs, ∀ b ∈ xs, (less a b = true ↔ key a < key b)) : Ranks less xs where
  asymm a ha b hb hless := by
    rw [← Bool.not_eq_true, h b hb a ha]
    exact ((h a ha b hb).mp hless).asymm
  trans a ha b hb c hc hab hbc := by
    rw [← Bool.not_eq_true, h a ha b hb, not_lt] at hab
    rw [← Bool.not_eq_true, h b hb c hc, not_lt] at hbc
    rw [← Bool.not_eq_true, h a ha c hc, not_lt]
    exact hbc.trans hab

end Ranks

/-- Elements in the order of a comparison: none is less than one before it. -/
def Sorted (less : α → α → Bool) (xs : List α) : Prop :=
  xs.Pairwise fun earlier later => less later earlier = false

/-- An element that is inserted into a reversed sorted list finds its place there. -/
theorem pairwise_insertFromEnd {less : α → α → Bool} {x : α} {xs : List α}
    (h : Ranks less (x :: xs))
    (hsorted : xs.Pairwise fun later earlier => less later earlier = false) :
    (insertFromEnd less x xs).Pairwise fun later earlier => less later earlier = false := by
  induction xs with
  | nil => exact List.pairwise_singleton _ x
  | cons last rest ih =>
    obtain ⟨hlast, hrest⟩ := List.pairwise_cons.mp hsorted
    have hx : x ∈ x :: last :: rest := List.mem_cons_self
    have hmem : last ∈ x :: last :: rest := List.mem_cons_of_mem x List.mem_cons_self
    unfold insertFromEnd
    split
    · rename_i hless
      refine List.pairwise_cons.mpr ⟨fun earlier hearlier => ?_, ih (h.mono ?_) hrest⟩
      · rcases List.mem_cons.mp ((perm_insertFromEnd less x rest).subset hearlier) with rfl | hother
        · exact h.asymm _ hx _ hmem hless
        · exact hlast earlier hother
      · exact List.cons_subset_cons x (List.subset_cons_self last rest)
    · rename_i hnotLess
      rw [Bool.not_eq_true] at hnotLess
      refine List.pairwise_cons.mpr ⟨fun earlier hearlier => ?_, hsorted⟩
      rcases List.mem_cons.mp hearlier with rfl | hother
      · exact hnotLess
      · have hearlier := List.mem_cons_of_mem x (List.mem_cons_of_mem last hother)
        exact h.trans x hx last hmem earlier hearlier hnotLess (hlast earlier hother)

/-- Sorting by a comparison that ranks the elements sorts them. -/
theorem sorted_stableSort {less : α → α → Bool} {xs : List α} (h : Ranks less xs) :
    Sorted less (stableSort less xs) := by
  suffices ∀ sorted, Ranks less (xs ++ sorted) →
      (sorted.Pairwise fun later earlier => less later earlier = false) →
      (xs.foldl (fun sorted x => insertFromEnd less x sorted) sorted).Pairwise
        fun later earlier => less later earlier = false by
    rw [Sorted, stableSort, List.pairwise_reverse]
    exact this [] (h.mono (by simp)) .nil
  clear h
  induction xs with
  | nil => exact fun sorted _ hsorted => hsorted
  | cons x rest ih =>
    intro sorted hranks hsorted
    have hperm := perm_insertFromEnd less x sorted
    refine ih _ (hranks.mono ?_) (pairwise_insertFromEnd (hranks.mono ?_) hsorted)
    · intro y hy
      rcases List.mem_append.mp hy with hy | hy
      · simp [hy]
      · rcases List.mem_cons.mp (hperm.subset hy) with rfl | hy
        · simp
        · simp [hy]
    · exact List.cons_subset_cons x (List.subset_append_right rest sorted)

/-- Sorting the values of a function sorts the arguments by their values. -/
theorem map_stableSort (less : β → β → Bool) (f : α → β) (xs : List α) :
    (stableSort (fun a b => less (f a) (f b)) xs).map f = stableSort less (xs.map f) := by
  have hinsert (x : α) (sorted : List α) :
      (insertFromEnd (fun a b => less (f a) (f b)) x sorted).map f =
        insertFromEnd less (f x) (sorted.map f) := by
    induction sorted with
    | nil => rfl
    | cons last rest ih =>
      rw [List.map_cons, insertFromEnd, insertFromEnd]
      split
      · rw [List.map_cons, ih]
      · rfl
  suffices ∀ sorted : List α,
      (xs.foldl (fun sorted x =>
          insertFromEnd (fun a b => less (f a) (f b)) x sorted) sorted).map f =
        (xs.map f).foldl (fun sorted x => insertFromEnd less x sorted) (sorted.map f) by
    rw [stableSort, stableSort, List.map_reverse, this []]
    rfl
  induction xs with
  | nil => exact fun sorted => rfl
  | cons x rest ih =>
    intro sorted
    rw [List.foldl_cons, ih, hinsert, List.map_cons, List.foldl_cons]

/-- Elements that are ranked by values of their own are sorted to the one list of them that is in
order. -/
theorem stableSort_eq_of_sorted {κ : Type} [LinearOrder κ] (key : α → κ) {less : α → α → Bool}
    {xs ys : List α} (hless : ∀ a ∈ xs, ∀ b ∈ xs, (less a b = true ↔ key a < key b))
    (hkey : ∀ a ∈ xs, ∀ b ∈ xs, key a = key b → a = b) (hperm : ys.Perm xs)
    (hsorted : Sorted less ys) : stableSort less xs = ys := by
  have hx := perm_stableSort less xs
  refine List.Perm.eq_of_pairwise (fun a b ha hb hba hab => ?_) (sorted_stableSort (.of_key hless))
    hsorted (hx.trans hperm.symm)
  have ha := hx.subset ha
  have hb := hperm.subset hb
  rw [← Bool.not_eq_true, hless a ha b hb, not_lt] at hab
  rw [← Bool.not_eq_true, hless b hb a ha, not_lt] at hba
  exact hkey a ha b hb (hba.antisymm hab)

/-- Such elements are sorted to the same list in whatever order they are given. -/
theorem stableSort_eq_of_perm {κ : Type} [LinearOrder κ] (key : α → κ) {less : α → α → Bool}
    {xs ys : List α} (hless : ∀ a ∈ xs, ∀ b ∈ xs, (less a b = true ↔ key a < key b))
    (hkey : ∀ a ∈ xs, ∀ b ∈ xs, key a = key b → a = b) (hperm : xs.Perm ys) :
    stableSort less xs = stableSort less ys := by
  have hranks : Ranks less xs := .of_key hless
  exact stableSort_eq_of_sorted key hless hkey ((perm_stableSort less ys).trans hperm.symm)
    (sorted_stableSort (hranks.mono hperm.symm.subset))

/-! ## Stability -/

/-- An element that is inserted comes before all others that it is not less than, also when only
some of the elements are looked at. -/
theorem filter_insertFromEnd {less : α → α → Bool} {keep : α → Bool} {x : α} {sorted : List α}
    (h : keep x = true → ∀ y ∈ sorted, keep y = true → less x y = false) :
    (insertFromEnd less x sorted).filter keep = (x :: sorted).filter keep := by
  induction sorted with
  | nil => rfl
  | cons last rest ih =>
    have hrest := ih fun hx y hy => h hx y (List.mem_cons_of_mem last hy)
    unfold insertFromEnd
    split
    · rename_i hless
      by_cases hx : keep x
      · -- What is passed is not looked at.
        have hlast : keep last = false := by
          by_contra hlast
          rw [Bool.not_eq_false] at hlast
          rw [h hx last List.mem_cons_self hlast] at hless
          cases hless
        simp [hx, hlast, hrest]
      · simp [hx, hrest, List.filter_cons]
    · rfl

/-- Elements of which none is less than another keep their order. -/
theorem filter_stableSort {less : α → α → Bool} {keep : α → Bool} {xs : List α}
    (h : ∀ a ∈ xs, ∀ b ∈ xs, keep a = true → keep b = true → less a b = false) :
    (stableSort less xs).filter keep = xs.filter keep := by
  suffices ∀ sorted, (∀ a ∈ xs, ∀ b ∈ xs ++ sorted, keep a = true → keep b = true →
      less a b = false) →
      (xs.foldl (fun sorted x => insertFromEnd less x sorted) sorted).filter keep =
        (xs.filter keep).reverse ++ sorted.filter keep by
    rw [stableSort, List.filter_reverse, this [] (by simpa using h)]
    simp
  clear h
  induction xs with
  | nil => exact fun sorted _ => rfl
  | cons x rest ih =>
    intro sorted h
    obtain ⟨hx, hrest⟩ := List.forall_mem_cons.mp h
    have hinsert : (insertFromEnd less x sorted).filter keep = (x :: sorted).filter keep :=
      filter_insertFromEnd fun hkeep y hy => hx y (by simp [hy]) hkeep
    rw [List.foldl_cons, ih, hinsert]
    · by_cases hkeep : keep x <;> simp [hkeep]
    · intro a ha b hb
      refine hrest a ha b ?_
      rw [List.mem_append, (perm_insertFromEnd less x sorted).mem_iff] at hb
      simp only [List.cons_append, List.mem_cons, List.mem_append] at hb ⊢
      exact or_left_comm.mp hb

/-- If no chosen element comes after another one, the list is its chosen elements and then the
others. -/
theorem filter_append_filter_not {chosen : α → Bool} {xs : List α}
    (h : xs.Pairwise fun earlier later => chosen later = true → chosen earlier = true) :
    xs.filter chosen ++ xs.filter (!chosen ·) = xs := by
  induction xs with
  | nil => rfl
  | cons x rest ih =>
    obtain ⟨hx, hrest⟩ := List.pairwise_cons.mp h
    by_cases hchosen : chosen x = true
    · simpa [hchosen] using ih hrest
    · have hnone : ∀ y ∈ rest, chosen y = false := fun y hy =>
        Bool.eq_false_iff.mpr (mt (hx y hy) hchosen)
      have hnil : rest.filter chosen = [] := by simpa using hnone
      have hall : rest.filter (!chosen ·) = rest := by simpa using hnone
      simp [hchosen, hnil, hall]

/-- A list in the order of its keys goes through the keys and lists the elements of each of them. -/
theorem eq_flatMap_filter_of_pairwise {κ : Type} [DecidableEq κ] {key : α → κ}
    {allowed : κ → κ → Prop} {keys : List κ} {xs : List α} (hnodup : keys.Nodup)
    (hkeys : keys.Pairwise fun earlier later => ¬ allowed later earlier)
    (hxs : xs.Pairwise fun earlier later => allowed (key earlier) (key later))
    (hmem : ∀ x ∈ xs, key x ∈ keys) : xs = keys.flatMap fun k => xs.filter (key · == k) := by
  induction keys generalizing xs with
  | nil => exact List.eq_nil_iff_forall_not_mem.mpr fun x hx => List.not_mem_nil (hmem x hx)
  | cons first keys ih =>
    obtain ⟨hfirst, hkeys⟩ := List.pairwise_cons.mp hkeys
    obtain ⟨hnew, hnodup⟩ := List.nodup_cons.mp hnodup
    have hsplit : xs.filter (key · == first) ++ xs.filter (!key · == first) = xs := by
      refine filter_append_filter_not (hxs.imp_of_mem fun {x y} hx _ hallowed hy => ?_)
      by_contra hne
      rw [beq_iff_eq] at hy hne
      exact hfirst _ (List.mem_of_ne_of_mem hne (hmem x hx)) (hy ▸ hallowed)
    have hothers : ∀ x ∈ xs.filter (!key · == first), key x ∈ keys := by
      intro x hx
      obtain ⟨hx, hne⟩ := List.mem_filter.mp hx
      exact List.mem_of_ne_of_mem (by simpa using hne) (hmem x hx)
    have hsame : ∀ k ∈ keys, (xs.filter (!key · == first)).filter (key · == k) =
        xs.filter (key · == k) := by
      intro k hk
      have hne : k ≠ first := ne_of_mem_of_not_mem hk hnew
      rw [List.filter_filter]
      refine List.filter_congr fun x _ => ?_
      by_cases hx : key x = k <;> simp [hx, hne]
    rw [List.flatMap_cons, ← List.flatMap_congr hsame, ← ih hnodup hkeys (hxs.filter _) hothers,
      hsplit]

/-- Only comparisons of elements with those before them matter. -/
theorem stableSort_congr {less less' : α → α → Bool} {xs : List α}
    (h : xs.Pairwise fun earlier later => less later earlier = less' later earlier) :
    stableSort less xs = stableSort less' xs := by
  have hinsert {x : α} {sorted : List α} (h : ∀ y ∈ sorted, less x y = less' x y) :
      insertFromEnd less x sorted = insertFromEnd less' x sorted := by
    induction sorted with
    | nil => rfl
    | cons last rest ih =>
      obtain ⟨hlast, hrest⟩ := List.forall_mem_cons.mp h
      rw [insertFromEnd, insertFromEnd, hlast, ih hrest]
  suffices ∀ sorted, (∀ x ∈ xs, ∀ y ∈ sorted, less x y = less' x y) →
      xs.foldl (fun sorted x => insertFromEnd less x sorted) sorted =
        xs.foldl (fun sorted x => insertFromEnd less' x sorted) sorted by
    rw [stableSort, stableSort, this [] (by simp)]
  induction xs with
  | nil => exact fun sorted _ => rfl
  | cons x rest ih =>
    intro sorted hsorted
    obtain ⟨hx, hrest⟩ := List.pairwise_cons.mp h
    obtain ⟨hfirst, hothers⟩ := List.forall_mem_cons.mp hsorted
    rw [List.foldl_cons, List.foldl_cons, hinsert hfirst]
    refine ih hrest _ fun later hlater y hy => ?_
    rcases List.mem_cons.mp ((perm_insertFromEnd less' x sorted).subset hy) with rfl | hy
    · exact hx later hlater
    · exact hothers later hlater y hy

end UpSetProse
