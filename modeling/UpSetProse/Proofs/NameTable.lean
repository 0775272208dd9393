import UpSetProse.NameTable

/-!
# Look-up in tables keyed by names

A name is looked up exactly when it has an entry. Setting a value changes the value of its own name
only, so a table built from entries with distinct names holds each of them and nothing else.
-/

namespace UpSetProse.NameTable

variable {α : Type}

/-- Looking up a name finds the value of its entry. -/
theorem get?_eq_some_iff {table : NameTable α} {name : String} {value : α} :
    table.get? name = some value ↔ (name, value) ∈ table.entries := by
  unfold get?
  constructor
  · intro h
    obtain ⟨before, after, hsplit, _⟩ := List.lookup_eq_some_iff.mp h
    rw [hsplit]
    simp
  · intro h
    obtain ⟨before, after, hsplit⟩ := List.append_of_mem h
    refine List.lookup_eq_some_iff.mpr ⟨before, after, hsplit, fun entry hentry => ?_⟩
    have hlt := table.increasing
    rw [hsplit, List.pairwise_append] at hlt
    have hless := hlt.2.2 entry hentry _ List.mem_cons_self
    simpa using (String.ne_of_lt hless).symm

/-- A name that is looked up is one of the names. -/
theorem mem_names_of_get? {table : NameTable α} {name : String} {value : α}
    (h : table.get? name = some value) : name ∈ table.names :=
  List.mem_map.mpr ⟨_, get?_eq_some_iff.mp h, rfl⟩

/-- The names are those that have a value. -/
theorem mem_names_iff {table : NameTable α} {name : String} :
    name ∈ table.names ↔ ∃ value, table.get? name = some value := by
  constructor
  · intro h
    obtain ⟨entry, hentry, rfl⟩ := List.mem_map.mp h
    exact ⟨entry.2, get?_eq_some_iff.mpr hentry⟩
  · rintro ⟨value, h⟩
    exact mem_names_of_get? h

/-- A look-up stops at the first entry if that has the name. -/
theorem lookup_entry (name : String) (entry : String × α) (rest : List (String × α)) :
    (entry :: rest).lookup name = if name = entry.1 then some entry.2 else rest.lookup name := by
  obtain ⟨key, value⟩ := entry
  rw [List.lookup_cons]
  by_cases h : name = key
  · simp [h]
  · simp only [beq_eq_false_iff_ne.mpr h, h, ite_false]

private theorem lookup_insertEntry (name other : String) (value : α)
    (entries : List (String × α)) :
    (insertEntry name value entries).lookup other =
      if other = name then some value else entries.lookup other := by
  induction entries with
  | nil => simp [insertEntry, lookup_entry]
  | cons entry rest ih =>
    unfold insertEntry
    split
    · rw [lookup_entry]
    · split
      · rename_i heq
        subst heq
        rw [lookup_entry, lookup_entry]
        split <;> rfl
      · rename_i hne
        rw [lookup_entry, ih, lookup_entry]
        by_cases he : other = entry.1
        · simp only [he, Ne.symm hne, ite_true, ite_false]
        · simp only [he, ite_false]

/-- Setting a value changes what its own name stands for and nothing else. -/
theorem get?_insert (table : NameTable α) (name other : String) (value : α) :
    (table.insert name value).get? other =
      if other = name then some value else table.get? other :=
  lookup_insertEntry name other value table.entries

private theorem length_insertEntry {name : String} {entries : List (String × α)}
    (h : ∀ entry ∈ entries, name ≠ entry.1) (value : α) :
    (insertEntry name value entries).length = entries.length + 1 := by
  induction entries with
  | nil => rfl
  | cons entry rest ih =>
    have hlength := ih fun other hother => h other (List.mem_cons_of_mem _ hother)
    unfold insertEntry
    split
    · rfl
    · split
      · rename_i heq
        exact absurd heq (h entry List.mem_cons_self)
      · rw [List.length_cons, hlength, List.length_cons]

/-- A new name makes a table longer by one entry. -/
theorem length_entries_insert {table : NameTable α} {name : String}
    (h : table.get? name = none) (value : α) :
    (table.insert name value).entries.length = table.entries.length + 1 :=
  length_insertEntry (by simpa [get?, List.lookup_eq_none_iff] using h) value

private theorem get?_foldl_insert {entries : List (String × α)}
    (hnodup : (entries.map (·.1)).Nodup) (table : NameTable α) (name : String) :
    (entries.foldl (fun table entry => table.insert entry.1 entry.2) table).get? name =
      (entries.lookup name).or (table.get? name) := by
  induction entries generalizing table with
  | nil => simp
  | cons entry rest ih =>
    simp only [List.map_cons, List.nodup_cons] at hnodup
    rw [List.foldl_cons, ih hnodup.2, get?_insert, lookup_entry]
    by_cases he : name = entry.1
    · have hnone : rest.lookup name = none := by
        rw [List.lookup_eq_none_iff]
        intro other hother
        simpa using fun heq : name = other.1 =>
          hnodup.1 (he.symm.trans heq ▸ List.mem_map_of_mem hother)
      rw [hnone, Option.none_or, if_pos he, if_pos he, Option.some_or]
    · simp [he]

/-- A table of entries with distinct names holds exactly these entries. -/
theorem get?_ofList {entries : List (String × α)} (h : (entries.map (·.1)).Nodup)
    (name : String) : (ofList entries).get? name = entries.lookup name := by
  rw [ofList, get?_foldl_insert h]
  exact Option.or_none

/-- Looking up a name in such a table finds the value that it is listed with. -/
theorem get?_ofList_eq_some_iff {entries : List (String × α)} (h : (entries.map (·.1)).Nodup)
    {name : String} {value : α} :
    (ofList entries).get? name = some value ↔ (name, value) ∈ entries := by
  rw [get?_ofList h]
  induction entries generalizing value with
  | nil => simp
  | cons entry rest ih =>
    rw [List.map_cons, List.nodup_cons] at h
    rw [lookup_entry, List.mem_cons, ← ih h.2]
    by_cases he : name = entry.1
    · have hnone : ∀ other, rest.lookup name ≠ some other := fun other hother =>
        h.1 (he ▸ List.mem_map_of_mem ((ih h.2).mp hother))
      grind
    · grind

private theorem length_foldl_insert {entries : List (String × α)}
    (hnodup : (entries.map (·.1)).Nodup) {table : NameTable α}
    (hnew : ∀ entry ∈ entries, table.get? entry.1 = none) :
    (entries.foldl (fun table entry => table.insert entry.1 entry.2) table).entries.length =
      table.entries.length + entries.length := by
  induction entries generalizing table with
  | nil => rfl
  | cons entry rest ih =>
    rw [List.map_cons, List.nodup_cons] at hnodup
    rw [List.foldl_cons, ih hnodup.2, length_entries_insert (hnew entry List.mem_cons_self),
      List.length_cons]
    · omega
    · intro other hother
      have hne : other.1 ≠ entry.1 := fun heq => hnodup.1 (heq ▸ List.mem_map_of_mem hother)
      rw [get?_insert, if_neg hne]
      exact hnew other (List.mem_cons_of_mem entry hother)

/-- Such a table has as many entries as are listed. -/
theorem length_entries_ofList {entries : List (String × α)} (h : (entries.map (·.1)).Nodup) :
    (ofList entries).entries.length = entries.length := by
  rw [ofList, length_foldl_insert h fun _ _ => rfl]
  exact Nat.zero_add _

private theorem insertEntry_eq_append {name : String} {entries : List (String × α)}
    (h : ∀ entry ∈ entries, entry.1 < name) (value : α) :
    insertEntry name value entries = entries ++ [(name, value)] := by
  induction entries with
  | nil => rfl
  | cons entry rest ih =>
    have hlt := h entry List.mem_cons_self
    have hrest := ih fun other hother => h other (List.mem_cons_of_mem _ hother)
    rw [insertEntry, if_neg (String.lt_asymm hlt), if_neg (String.ne_of_lt hlt).symm, hrest,
      List.cons_append]

private theorem entries_foldl_insert {entries : List (String × α)} {table : NameTable α}
    (h : (table.entries ++ entries).Pairwise fun a b => a.1 < b.1) :
    (entries.foldl (fun table entry => table.insert entry.1 entry.2) table).entries =
      table.entries ++ entries := by
  induction entries generalizing table with
  | nil => exact (List.append_nil _).symm
  | cons entry rest ih =>
    -- Each name is larger than those before it, so its entry goes to the end.
    have hentries : (table.insert entry.1 entry.2).entries = table.entries ++ [entry] :=
      insertEntry_eq_append
        (fun other hother => (List.pairwise_append.mp h).2.2 other hother _ List.mem_cons_self) _
    rw [List.append_cons, ← hentries] at h
    rw [List.foldl_cons, ih h, hentries, List.append_assoc, List.singleton_append]

/-- A table is the table of its own entries. -/
theorem ofList_entries (table : NameTable α) : ofList table.entries = table := by
  have hentries : (ofList table.entries).entries = table.entries :=
    entries_foldl_insert table.increasing
  obtain ⟨entries, increasing⟩ := table
  simp only [ofList] at hentries ⊢
  generalize List.foldl _ _ _ = built at hentries ⊢
  obtain ⟨_, _⟩ := built
  cases hentries
  rfl

/-- The names are listed in increasing order. -/
theorem pairwise_names (table : NameTable α) : table.names.Pairwise (· < ·) :=
  List.pairwise_map.mpr table.increasing

/-- Setting a value adds its name and no other. -/
theorem mem_names_insert {table : NameTable α} {name other : String} {value : α} :
    other ∈ (table.insert name value).names ↔ other = name ∨ other ∈ table.names := by
  simp only [mem_names_iff, get?_insert]
  by_cases h : other = name
  · simp [h]
  · simp [h]

end UpSetProse.NameTable

/-- The set of the names in a list holds these names. -/
theorem UpSetProse.NameSet.mem_names_ofNames {names : List String} {name : String} :
    name ∈ (ofNames names).names ↔ name ∈ names := by
  suffices ∀ table : NameSet, name ∈ ((names.map (·, ())).foldl
      (fun table entry => table.insert entry.1 entry.2) table).names ↔
        name ∈ names ∨ name ∈ table.names by
    exact (this .empty).trans (or_iff_left List.not_mem_nil)
  induction names with
  | nil => simp
  | cons first rest ih =>
    intro table
    rw [List.map_cons, List.foldl_cons, ih, NameTable.mem_names_insert, List.mem_cons]
    exact or_left_comm.trans or_assoc.symm
