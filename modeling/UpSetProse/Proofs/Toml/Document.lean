import Mathlib.Data.List.Nodup
import UpSetProse.Toml.Document

/-!
# Building a TOML document from tables

When no key is written twice, the statements of a sequence of tables build a document that has these
tables in this order, each with its entries in their order.
-/

namespace UpSetProse.Toml

/-- A new key comes last. -/
theorem modifyEntry_of_not_mem {key : String} {entries : Entries}
    (h : key ∉ entries.map (·.1)) {change : Option Toml → Option Toml} {value : Toml}
    (hchange : change none = some value) :
    modifyEntry key change entries = some (entries ++ [(key, value)]) := by
  induction entries with
  | nil => simp [modifyEntry, hchange]
  | cons entry entries ih =>
    rw [List.map_cons, List.mem_cons, not_or] at h
    obtain ⟨hne, hrest⟩ := h
    rw [modifyEntry, if_neg (Ne.symm hne), ih hrest]
    rfl

/-- Steps that add entries one by one add all of them, if no key comes twice. -/
private theorem foldlM_add {α : Type} {add : Entries → α → Option Entries}
    {entry : α → String × Toml} {items : List α}
    (hadd : ∀ item ∈ items, ∀ before : Entries, (entry item).1 ∉ before.map (·.1) →
      add before item = some (before ++ [entry item]))
    (before : Entries) (h : ((before ++ items.map entry).map (·.1)).Nodup) :
    items.foldlM add before = some (before ++ items.map entry) := by
  induction items generalizing before with
  | nil => simp
  | cons item items ih =>
    obtain ⟨hitem, hitems⟩ := List.forall_mem_cons.mp hadd
    have hnew : (entry item).1 ∉ before.map (·.1) := by
      rw [List.map_append, List.map_cons] at h
      exact fun hmem => List.disjoint_of_nodup_append h hmem List.mem_cons_self
    rw [List.map_cons, List.append_cons before (entry item)] at h ⊢
    rw [List.foldlM_cons, hitem before hnew]
    exact ih hitems _ h

/-- The assignments of some entries. -/
def assignments (entries : Entries) : List (Place × Toml) :=
  entries.map fun entry => (⟨[], entry.1⟩, entry.2)

/-- A table is filled with its entries, if no key is given twice. -/
theorem assignAll_assignments {entries : Entries} (h : (entries.map (·.1)).Nodup) :
    assignAll (assignments entries) [] = some entries := by
  have hadd : ∀ entry ∈ entries, ∀ before : Entries, (id entry).1 ∉ before.map (·.1) →
      assign [] entry.1 entry.2 before = some (before ++ [id entry]) := by
    intro entry _ before hnew
    exact modifyEntry_of_not_mem hnew rfl
  have hall := foldlM_add hadd [] (by simpa using h)
  rw [List.map_id, List.nil_append] at hall
  rw [assignAll, assignments, List.foldlM_map]
  exact hall

/-- The statements of tables, each under its header. -/
def statements (tables : List (String × Entries)) : List Statement :=
  tables.flatMap fun (name, entries) =>
    .openTable ⟨[], name⟩ :: entries.map fun entry => .assign ⟨[], entry.1⟩ entry.2

/-- Assignments that come first belong to the table that is open. -/
theorem leadingAssignments_append (entries : Entries) (rest : List Statement) :
    leadingAssignments ((entries.map fun entry => .assign ⟨[], entry.1⟩ entry.2) ++ rest) =
      (assignments entries ++ (leadingAssignments rest).1, (leadingAssignments rest).2) := by
  induction entries with
  | nil => rfl
  | cons entry entries ih =>
    rw [List.map_cons, List.cons_append, leadingAssignments, ih]
    rfl

/-- Assignments that come first belong to no header. -/
theorem headed_append (entries : Entries) (rest : List Statement) :
    headed ((entries.map fun entry => .assign ⟨[], entry.1⟩ entry.2) ++ rest) = headed rest := by
  induction entries with
  | nil => rfl
  | cons entry entries ih => exact ih

theorem leadingAssignments_statements (tables : List (String × Entries)) :
    leadingAssignments (statements tables) = ([], statements tables) := by
  cases tables <;> rfl

/-- Every header is given the assignments below it. -/
theorem headed_statements (tables : List (String × Entries)) :
    headed (statements tables) =
      tables.map fun (name, entries) => (.openTable ⟨[], name⟩, assignments entries) := by
  induction tables with
  | nil => rfl
  | cons first tables ih =>
    obtain ⟨name, entries⟩ := first
    have hfirst : statements ((name, entries) :: tables) =
        .openTable ⟨[], name⟩ ::
          ((entries.map fun entry => .assign ⟨[], entry.1⟩ entry.2) ++ statements tables) := rfl
    rw [hfirst, headed, leadingAssignments_append, leadingAssignments_statements, headed_append,
      List.append_nil, ih, List.map_cons]
    intro place value heq
    cases heq

/-- Tables with different names and with different keys in each build a document. -/
theorem build_statements {tables : List (String × Entries)} (hnames : (tables.map (·.1)).Nodup)
    (hkeys : ∀ table ∈ tables, (table.2.map (·.1)).Nodup) :
    build (statements tables) =
      some (tables.map fun (name, entries) => (name, .table .header entries)) := by
  have hadd : ∀ table ∈ tables, ∀ before : Entries,
      (table.1, Toml.table .header table.2).1 ∉ before.map (·.1) →
        addHeaded before (.openTable ⟨[], table.1⟩, assignments table.2) =
          some (before ++ [(table.1, .table .header table.2)]) := by
    intro table htable before hnew
    have hfill : fillTable (assignments table.2) none = some (.table .header table.2) := by
      rw [fillTable, assignAll_assignments (hkeys table htable), Option.map_some]
    exact modifyEntry_of_not_mem hnew hfill
  have hall := foldlM_add hadd [] (by simpa [Function.comp_def] using hnames)
  have htop : assignAll [] [] = some [] := rfl
  rw [build, leadingAssignments_statements, htop, headed_statements, Option.bind_eq_bind,
    Option.bind_some, List.foldlM_map]
  exact hall

end UpSetProse.Toml
