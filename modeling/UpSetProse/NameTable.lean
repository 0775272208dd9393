/-!
# Tables keyed by names

A table holds one value for each of finitely many names and lists them in the order of their code
points. Its representation is unique: it is the strictly increasing list of its entries. A set of
names is a table without values.
-/

namespace UpSetProse

/-- Values for finitely many names, in increasing order of the names. -/
structure NameTable (α : Type) where
  entries : List (String × α)
  /-- The names increase strictly, so each occurs once. -/
  increasing : entries.Pairwise fun a b => a.1 < b.1
  deriving DecidableEq

namespace NameTable

variable {α : Type}

/-- Puts an entry at its place in an increasing list, over an earlier entry of the name. -/
def insertEntry (name : String) (value : α) : List (String × α) → List (String × α)
  | [] => [(name, value)]
  | entry :: rest =>
    if name < entry.1 then (name, value) :: entry :: rest
    else if name = entry.1 then (name, value) :: rest
    else entry :: insertEntry name value rest

theorem fst_of_mem_insertEntry {name : String} {value : α} {entries : List (String × α)}
    {entry : String × α} (h : entry ∈ insertEntry name value entries) :
    entry.1 = name ∨ entry ∈ entries := by
  induction entries with
  | nil => simp_all [insertEntry]
  | cons first rest ih =>
    unfold insertEntry at h
    split at h
    · rcases List.mem_cons.1 h with rfl | h
      · exact .inl rfl
      · exact .inr h
    · split at h
      · rcases List.mem_cons.1 h with rfl | h
        · exact .inl rfl
        · exact .inr (List.mem_cons_of_mem _ h)
      · rcases List.mem_cons.1 h with rfl | h
        · exact .inr List.mem_cons_self
        · exact (ih h).imp id (List.mem_cons_of_mem _)

theorem pairwise_insertEntry {name : String} {value : α} {entries : List (String × α)}
    (h : entries.Pairwise fun a b => a.1 < b.1) :
    (insertEntry name value entries).Pairwise fun a b => a.1 < b.1 := by
  induction entries with
  | nil => simp [insertEntry]
  | cons first rest ih =>
    obtain ⟨hfirst, hrest⟩ := List.pairwise_cons.1 h
    unfold insertEntry
    split
    · rename_i hlt
      refine List.pairwise_cons.2 ⟨fun entry hentry => ?_, h⟩
      rcases List.mem_cons.1 hentry with rfl | hentry
      · exact hlt
      · exact String.lt_trans hlt (hfirst entry hentry)
    · split
      · rename_i heq
        exact List.pairwise_cons.2 ⟨fun entry hentry => heq ▸ hfirst entry hentry, hrest⟩
      · rename_i hge hne
        refine List.pairwise_cons.2 ⟨fun entry hentry => ?_, ih hrest⟩
        rcases fst_of_mem_insertEntry hentry with heq | hmem
        · rw [heq]
          exact String.not_le.1 fun hle =>
            hne (String.le_antisymm hle (String.not_lt.1 hge))
        · exact hfirst entry hmem

/-- The table without entries. -/
def empty : NameTable α := ⟨[], .nil⟩

instance : Inhabited (NameTable α) := ⟨empty⟩

/-- Sets the value of a name. -/
def insert (table : NameTable α) (name : String) (value : α) : NameTable α :=
  ⟨insertEntry name value table.entries, pairwise_insertEntry table.increasing⟩

/-- The table of a list of entries, in which the last entry of a name counts. -/
def ofList (entries : List (String × α)) : NameTable α :=
  entries.foldl (fun table entry => table.insert entry.1 entry.2) empty

/-- The value of a name. -/
def get? (table : NameTable α) (name : String) : Option α := table.entries.lookup name

/-- The names in increasing order. -/
def names (table : NameTable α) : List String := table.entries.map (·.1)

/-- The values in the order of their names. -/
def values (table : NameTable α) : List α := table.entries.map (·.2)

end NameTable

/-- A finite set of names. -/
abbrev NameSet := NameTable Unit

/-- The set of the names in a list. -/
def NameSet.ofNames (names : List String) : NameSet := NameTable.ofList (names.map (·, ()))

end UpSetProse
