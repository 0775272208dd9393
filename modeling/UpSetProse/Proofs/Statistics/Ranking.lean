import Mathlib.Data.Finset.Sort
import Mathlib.Data.String.Basic
import UpSetProse.Proofs.Double.Order
import UpSetProse.Proofs.StableSort
import UpSetProse.Statistics.Ranking

/-!
# What a ranking makes of rows

Rows without not-a-number in the field they are ranked by are compared by keys in a linear order. A
ranking is the rows in the order of their keys, those of the same key in their given order. It goes
through groups of rows of the same key, and the two orders go through the same groups, one forward
and one backward, without turning a group itself around.
-/

namespace UpSetProse

/-- What rows are ranked by: the name as a text, other fields by their values. -/
def RowField.Key : RowField → Type
  | .name => String
  | .size | .deviation | .degree => Int

/-- Texts are ordered by code points. -/
instance : (field : RowField) → LinearOrder field.Key
  | .name => inferInstanceAs (LinearOrder String)
  | .size | .deviation | .degree => inferInstanceAs (LinearOrder Int)

namespace SortOrder

variable {κ : Type} [LinearOrder κ]

/-- A ranking in this order may have the first key before the second. -/
def Allows (order : SortOrder) (earlier later : κ) : Prop :=
  match order with
  | .ascending => earlier ≤ later
  | .descending => later ≤ earlier

/-- Keys from the one that a ranking in this order starts with. -/
def arrange (order : SortOrder) {α : Type} (ascending : List α) : List α :=
  match order with
  | .ascending => ascending
  | .descending => ascending.reverse

theorem allows_refl (order : SortOrder) (a : κ) : order.Allows a a := by
  cases order <;> exact le_refl a

theorem allows_total (order : SortOrder) (a b : κ) : order.Allows a b ∨ order.Allows b a := by
  cases order with
  | ascending => exact le_total a b
  | descending => exact le_total b a

theorem Allows.trans {order : SortOrder} {a b c : κ} (hab : order.Allows a b)
    (hbc : order.Allows b c) : order.Allows a c := by
  cases order with
  | ascending => exact le_trans hab hbc
  | descending => exact le_trans hbc hab

theorem puts_compare_iff {order : SortOrder} {a b : κ} :
    order.puts (compare a b) = true ↔ ¬ order.Allows b a := by
  cases order with
  | ascending => exact beq_iff_eq.trans (compare_lt_iff_lt.trans not_le.symm)
  | descending => exact beq_iff_eq.trans (compare_gt_iff_gt.trans not_le.symm)

theorem puts_compare_eq_false_iff {order : SortOrder} {a b : κ} :
    order.puts (compare a b) = false ↔ order.Allows b a := by
  rw [← Bool.not_eq_true, puts_compare_iff, not_not]

/-- A comparison of keys ranks the rows. -/
theorem ranks {α : Type} (order : SortOrder) (key : α → κ) (xs : List α) :
    Ranks (fun a b => order.puts (compare (key a) (key b))) xs where
  asymm a _ b _ h := by
    rw [puts_compare_iff] at h
    rw [puts_compare_eq_false_iff]
    exact (order.allows_total _ _).resolve_left h
  trans a _ b _ c _ hab hbc := by
    rw [puts_compare_eq_false_iff] at hab hbc ⊢
    exact hbc.trans hab

end SortOrder

namespace Row

/-- The key of a row in a ranking by a field. -/
def key (row : Row) : (field : RowField) → field.Key
  | .name => row.name
  | .size => (row.numeric .size).value
  | .deviation => (row.numeric .deviation).value
  | .degree => (row.numeric .degree).value

/-- Rows are compared by their keys. -/
theorem compareBy_eq_compare {field : RowField} {a b : Row} (ha : (a.numeric field).isNaN = false)
    (hb : (b.numeric field).isNaN = false) :
    a.compareBy field b = compare (a.key field) (b.key field) := by
  cases field with
  | name => rfl
  | size | deviation | degree => exact Double.order_eq_compare ha hb

variable {rows : List Row} {field : RowField}

/-- The rows in the order of their keys, those of the same key in their given order. -/
structure Ranked (rows : List Row) (field : RowField) (order : SortOrder) (ranked : List Row) :
    Prop where
  perm : ranked.Perm rows
  ordered : ranked.Pairwise fun earlier later => order.Allows (earlier.key field) (later.key field)
  stable : ∀ key, ranked.filter (·.key field == key) = rows.filter (·.key field == key)

theorem ranked_rankBy (h : ∀ row ∈ rows, (row.numeric field).isNaN = false) (order : SortOrder) :
    Ranked rows field order (rankBy rows field order) := by
  have hkeys : rankBy rows field order =
      stableSort (fun a b => order.puts (compare (a.key field) (b.key field))) rows := by
    refine stableSort_congr (List.pairwise_of_forall_mem_list ?_)
    intro earlier hearlier later hlater
    rw [compareBy_eq_compare (h later hlater) (h earlier hearlier)]
  rw [hkeys]
  refine ⟨perm_stableSort _ rows, ?_, fun key => filter_stableSort fun a _ b _ ha hb => ?_⟩
  · have hsorted := sorted_stableSort (order.ranks (fun row : Row => row.key field) rows)
    exact hsorted.imp SortOrder.puts_compare_eq_false_iff.mp
  · rw [beq_iff_eq] at ha hb
    rw [SortOrder.puts_compare_eq_false_iff, ha, hb]
    exact order.allows_refl key

/-! ## Groups of rows -/

/-- Groups of rows of the same key, from the smallest key up. -/
structure Groups (field : RowField) (groups : List (List Row)) : Prop where
  nonempty : ∀ group ∈ groups, group ≠ []
  same : ∀ group ∈ groups, ∀ a ∈ group, ∀ b ∈ group, a.key field = b.key field
  increasing : groups.Pairwise fun smaller larger =>
    ∀ a ∈ smaller, ∀ b ∈ larger, a.key field < b.key field

/-- A ranking goes through the keys and lists the rows of each key in their given order. -/
theorem Ranked.eq_flatMap {order : SortOrder} {ranked : List Row}
    (h : Ranked rows field order ranked) {keys : List field.Key} (hkeys : keys.SortedLT)
    (hmem : ∀ row ∈ rows, row.key field ∈ keys) :
    ranked = (order.arrange keys).flatMap fun key => rows.filter (·.key field == key) := by
  have hpairwise : (order.arrange keys).Pairwise fun earlier later =>
      ¬ order.Allows later earlier := by
    cases order with
    | ascending => exact hkeys.pairwise.imp not_le.mpr
    | descending => exact List.pairwise_reverse.mpr (hkeys.pairwise.imp not_le.mpr)
  have hnodup : (order.arrange keys).Nodup := by
    cases order with
    | ascending => exact hkeys.nodup
    | descending => exact List.nodup_reverse.mpr hkeys.nodup
  have hlisted : ∀ row ∈ ranked, row.key field ∈ order.arrange keys := by
    intro row hrow
    have hkey := hmem row (h.perm.subset hrow)
    cases order with
    | ascending => exact hkey
    | descending => exact List.mem_reverse.mpr hkey
  have heq := eq_flatMap_filter_of_pairwise hnodup hpairwise h.ordered hlisted
  simp only [h.stable] at heq
  exact heq

/-- The rows of each key that occurs, by increasing keys. -/
theorem exists_groups (h : ∀ row ∈ rows, (row.numeric field).isNaN = false) :
    ∃ groups, Groups field groups ∧
      ∀ order, rankBy rows field order = (order.arrange groups).flatten := by
  let keys := (rows.map (·.key field)).toFinset.sort
  have hkeys : keys.SortedLT := Finset.sortedLT_sort _
  have hmem {key : field.Key} : key ∈ keys ↔ ∃ row ∈ rows, row.key field = key := by
    rw [Finset.mem_sort, List.mem_toFinset, List.mem_map]
  refine ⟨keys.map fun key => rows.filter (·.key field == key), ⟨?_, ?_, ?_⟩, fun order => ?_⟩
  · rw [List.forall_mem_map]
    intro key hkey
    obtain ⟨row, hrow, rfl⟩ := hmem.mp hkey
    exact List.ne_nil_of_mem (List.mem_filter.mpr ⟨hrow, beq_self_eq_true _⟩)
  · rw [List.forall_mem_map]
    intro key _ a ha b hb
    rw [List.mem_filter, beq_iff_eq] at ha hb
    exact ha.2.trans hb.2.symm
  · refine List.pairwise_map.mpr (hkeys.pairwise.imp fun hlt a ha b hb => ?_)
    rw [List.mem_filter, beq_iff_eq] at ha hb
    rw [ha.2, hb.2]
    exact hlt
  · rw [(ranked_rankBy h order).eq_flatMap hkeys fun row hrow => hmem.mpr ⟨row, hrow, rfl⟩,
      List.flatMap_def]
    cases order with
    | ascending => rfl
    | descending => rw [SortOrder.arrange, SortOrder.arrange, List.map_reverse]

/-- Only a deviation can be not-a-number. -/
theorem isNaN_numeric {row : Row} (h : row.deviation.isNaN = false) (field : RowField) :
    (row.numeric field).isNaN = false := by
  cases field with
  | name => exact (Double.unsigned_ofNat 0).isNaN
  | size => exact (Double.unsigned_ofNat _).isNaN
  | deviation => exact h
  | degree => exact (Double.unsigned_ofNat _).isNaN

/-- A ranking is the rows in the order of the field, rows that are equal in it in their given order.
The descending one has the groups of equal rows in reverse, but no group reversed. -/
theorem rankBy_ranks (hrows : ∀ row ∈ rows, row.deviation.isNaN = false) (field : RowField) :
    (∀ order, Ranked rows field order (rankBy rows field order)) ∧
    ∃ groups, Groups field groups ∧ rankBy rows field .ascending = groups.flatten ∧
      rankBy rows field .descending = groups.reverse.flatten := by
  have hnumbers : ∀ row ∈ rows, (row.numeric field).isNaN = false := fun row hrow =>
    isNaN_numeric (hrows row hrow) field
  obtain ⟨groups, hgroups, hflatten⟩ := exists_groups hnumbers
  exact ⟨ranked_rankBy hnumbers, groups, hgroups, hflatten .ascending, hflatten .descending⟩

/-- Four rows, two of them with zeros of different signs as deviations. -/
def unevenRows : List Row :=
  [⟨"a", 4, 1, 1, .individual, .ofNames ["a"], 3⟩, ⟨"b", 3, 0, 1, .individual, .ofNames ["b"], 3⟩,
    ⟨"c", 2, .signedZero true, 0, .empty, .ofNames [], 3⟩,
    ⟨"d", 1, 1, 1, .individual, .ofNames ["d"], 3⟩]

/-- Both orders have the second row before the third, and the first before the fourth. -/
theorem rankBy_ranks_uneven :
    (∀ row ∈ unevenRows, row.deviation.isNaN = false) ∧
    ((rankBy unevenRows .deviation .ascending).map (·.name) = ["b", "c", "a", "d"] ∧
      (rankBy unevenRows .deviation .descending).map (·.name) = ["a", "d", "b", "c"]) ∧
    (∀ order, Ranked unevenRows .deviation order (rankBy unevenRows .deviation order)) ∧
    ∃ groups, Groups .deviation groups ∧
      rankBy unevenRows .deviation .ascending = groups.flatten ∧
      rankBy unevenRows .deviation .descending = groups.reverse.flatten := by
  have hrows : ∀ row ∈ unevenRows, row.deviation.isNaN = false := by decide +kernel
  exact ⟨hrows, by decide +kernel, rankBy_ranks hrows .deviation⟩

end Row
end UpSetProse
