import UpSetProse.Toml.Basic

/-!
# Building TOML documents

A document is a sequence of statements: headers open tables, and assignments give values to keys of
the open table. Nothing is defined twice: a header may open a table that so far was only implied,
a dotted key may extend tables that no header has opened, and neither enters a value between braces
or brackets.
-/

namespace UpSetProse.Toml

/-- A key with the keys that lead to it. -/
structure Place where
  path : List String
  key : String
  deriving DecidableEq, Repr

/-- A line of a document. -/
inductive Statement where
  | assign (place : Place) (value : Toml)
  /-- The header of a table. -/
  | openTable (place : Place)
  /-- The header of one more table of an array. -/
  | appendTable (place : Place)

/-- Changes what a key stands for, which may be nothing so far. -/
def modifyEntry (key : String) (change : Option Toml → Option Toml) : Entries → Option Entries
  | [] => (change none).map fun value => [(key, value)]
  | entry :: rest =>
    if entry.1 = key then (change (some entry.2)).map fun value => (key, value) :: rest
    else (modifyEntry key change rest).map (entry :: ·)

/-- Changes the last of several tables. -/
def modifyLast (change : Entries → Option Entries) (items : List Entries) : Option Toml := do
  let last ← items.getLast?
  let changed ← change last
  return .tables (items.dropLast ++ [changed])

/-- Gives a value to a key that has none, in the table that a dotted key leads to. -/
def assign : (path : List String) → (key : String) → Toml → Entries → Option Entries
  | [], key, value, entries =>
    modifyEntry key (fun existing => if existing.isNone then some value else none) entries
  | parent :: path, key, value, entries =>
    modifyEntry parent (fun existing =>
      match existing with
      | none => (assign path key value []).map (.table .dotted)
      | some (.table .dotted inner) => (assign path key value inner).map (.table .dotted)
      | some (.table .implied inner) =>
        if path.isEmpty then none else (assign path key value inner).map (.table .implied)
      | some (.tables items) =>
        if path.isEmpty then none else modifyLast (assign path key value) items
      | some _ => none) entries

/-- Changes what the last key of a header stands for; its parents are implied. -/
def modifyAt (change : Option Toml → Option Toml) (key : String) :
    (path : List String) → Entries → Option Entries
  | [], entries => modifyEntry key change entries
  | parent :: path, entries =>
    modifyEntry parent (fun existing =>
      match existing with
      | none => (modifyAt change key path []).map (.table .implied)
      | some (.table .inline _) => none
      | some (.table origin inner) => (modifyAt change key path inner).map (.table origin)
      | some (.tables items) => modifyLast (modifyAt change key path) items
      | some _ => none) entries

/-- Carries out assignments in order. -/
def assignAll (assignments : List (Place × Toml)) (entries : Entries) : Option Entries :=
  assignments.foldlM (fun entries (place, value) => assign place.path place.key value entries)
    entries

/-- Opens a table that does not exist or was only implied, and fills it. -/
def fillTable (assignments : List (Place × Toml)) : Option Toml → Option Toml
  | none => (assignAll assignments []).map (.table .header)
  | some (.table .implied entries) => (assignAll assignments entries).map (.table .header)
  | some _ => none

/-- Adds a filled table to those of the same header. -/
def fillNext (assignments : List (Place × Toml)) : Option Toml → Option Toml
  | none => (assignAll assignments []).map fun entries => .tables [entries]
  | some (.tables items) =>
    (assignAll assignments []).map fun entries => .tables (items ++ [entries])
  | some _ => none

/-- The assignments before the next header, and the statements from there on. -/
def leadingAssignments : List Statement → List (Place × Toml) × List Statement
  | .assign place value :: rest =>
    let (assignments, rest) := leadingAssignments rest
    ((place, value) :: assignments, rest)
  | rest => ([], rest)

/-- The statements that begin with headers, each header with the assignments below it. -/
def headed : List Statement → List (Statement × List (Place × Toml))
  | [] => []
  | .assign _ _ :: rest => headed rest
  | header :: rest => (header, (leadingAssignments rest).1) :: headed rest

/-- Adds what stands under a header to a document. -/
def addHeaded (entries : Entries) : Statement × List (Place × Toml) → Option Entries
  | (.openTable place, assignments) =>
    modifyAt (fillTable assignments) place.key place.path entries
  | (.appendTable place, assignments) =>
    modifyAt (fillNext assignments) place.key place.path entries
  | (.assign _ _, _) => some entries

/-- The entries of the document with the given statements. -/
def build (statements : List Statement) : Option Entries := do
  let top ← assignAll (leadingAssignments statements).1 []
  (headed statements).foldlM addHeaded top

end UpSetProse.Toml
