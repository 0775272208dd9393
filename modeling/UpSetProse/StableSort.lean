/-!
# Stable sorting by insertion

Each element in turn moves from the end of the sorted part past the elements it is less than. Equal
elements therefore keep their order, and so do elements that are comparable in neither direction.
-/

namespace UpSetProse

/-- Inserts an element into a reversed sorted list, behind all elements it is not less than. -/
def insertFromEnd {α : Type} (less : α → α → Bool) (x : α) : List α → List α
  | [] => [x]
  | last :: rest => if less x last then last :: insertFromEnd less x rest else x :: last :: rest

/-- The list sorted by a strict comparison. -/
def stableSort {α : Type} (less : α → α → Bool) (xs : List α) : List α :=
  (xs.foldl (fun sorted x => insertFromEnd less x sorted) []).reverse

theorem perm_insertFromEnd {α : Type} (less : α → α → Bool) (x : α) (xs : List α) :
    (insertFromEnd less x xs).Perm (x :: xs) := by
  induction xs with
  | nil => exact .refl _
  | cons last rest ih =>
    unfold insertFromEnd
    split
    · exact (ih.cons last).trans (.swap x last rest)
    · exact .refl _

/-- Sorting rearranges a list. -/
theorem perm_stableSort {α : Type} (less : α → α → Bool) (xs : List α) :
    (stableSort less xs).Perm xs := by
  suffices ∀ sorted, (xs.foldl (fun sorted x => insertFromEnd less x sorted) sorted).Perm
      (xs ++ sorted) by
    simpa [stableSort] using (List.reverse_perm _).trans (this [])
  induction xs with
  | nil => exact fun sorted => .refl _
  | cons x rest ih =>
    intro sorted
    exact (ih _).trans (((perm_insertFromEnd less x sorted).append_left rest).trans
      List.perm_middle)

end UpSetProse
