import Mathlib.Data.List.Nodup
import UpSetProse.Json.Decoding
import UpSetProse.Proofs.NameTable

/-!
# Decoding what was encoded

A way to write the values of a type as JSON is legible if decoding gives every value back. Options,
lists and tables of values are written legibly if the values are, and a record is read field by
field, whichever of its names each field is written with.
-/

namespace UpSetProse.Json

variable {α : Type} [JsonDecode α]

/-- Values that are written in this way are decoded. -/
def Legible (encode : α → Json) : Prop := ∀ value, decode (encode value) = some value

theorem legible_text : Legible text := fun _ => rfl

theorem legible_bool : Legible Json.bool := fun _ => rfl

/-- A natural number below the limit is written without a sign or an exponent, and read back. -/
private theorem naturalBelow?_natural {n limit : Nat} (h : n < limit) :
    naturalBelow? limit (natural n) = some n := by
  simp [naturalBelow?, natural, h]

theorem legible_uint32 : Legible fun n : UInt32 => natural n.toNat := by
  intro n
  change (naturalBelow? UInt32.size (natural n.toNat)).map UInt32.ofNat = some n
  rw [naturalBelow?_natural n.toNat_lt_size, Option.map_some, UInt32.ofNat_toNat]

/-- Numbers of 64 bits are written as they are, and not as the doubles next to them. -/
theorem legible_uint64 : Legible fun n : UInt64 => natural n.toNat := by
  intro n
  change (naturalBelow? UInt64.size (natural n.toNat)).map UInt64.ofNat = some n
  rw [naturalBelow?_natural n.toNat_lt_size, Option.map_some, UInt64.ofNat_toNat]

/-- A keyword stands for its value. -/
theorem legible_keyword {κ : Type} [Keyword κ] [LawfulKeyword κ] :
    Legible fun a : κ => text (keyword a) :=
  ofKeyword?_keyword

/-- What is not null is decoded as a value that is present. -/
private theorem decode_of_ne_null {value : Json} (h : value ≠ .null) :
    (decode value : Option (Option α)) = (decode value).map some := by
  cases value with
  | null => exact absurd rfl h
  | bool | number | string | array | object => rfl

/-- `null` is left for values that are absent. -/
theorem Legible.option {encode : α → Json} (h : Legible encode)
    (hnull : ∀ value, encode value ≠ .null) :
    Legible fun value : Option α => (value.map encode).getD .null := by
  intro value
  cases value with
  | none => rfl
  | some value =>
    change decode (encode value) = some (some value)
    rw [decode_of_ne_null (hnull value), h value, Option.map_some]

private theorem mapM_map_of_legible {encode : α → Json} (h : Legible encode) (values : List α) :
    (values.map encode).mapM (decode : Json → Option α) = some values := by
  induction values with
  | nil => rfl
  | cons value values ih =>
    rw [List.map_cons, List.mapM_cons, h value, ih]
    rfl

/-- A list is read element by element. -/
theorem Legible.list {encode : α → Json} (h : Legible encode) :
    Legible fun values : List α => .array (values.map encode) :=
  mapM_map_of_legible h

/-- Every member of a table is read with its own name. -/
private theorem mapM_decodeMember {encode : String → α → Json} (h : ∀ name, Legible (encode name))
    (entries : List (String × α)) :
    (entries.map fun (name, value) => (some name, encode name value)).mapM decodeMember =
      some entries := by
  induction entries with
  | nil => rfl
  | cons entry entries ih =>
    obtain ⟨name, value⟩ := entry
    rw [List.map_cons, List.mapM_cons, ih, decodeMember, h name value]
    rfl

/-- The values of a table may be written in a way that depends on their names. -/
theorem Legible.table {encode : String → α → Json} (h : ∀ name, Legible (encode name)) :
    Legible fun table : NameTable α =>
      .record (table.entries.map fun (name, value) => (name, encode name value)) := by
  intro table
  change (List.mapM decodeMember _).map NameTable.ofList = some table
  rw [List.map_map]
  change Option.map _ (List.mapM decodeMember
    (table.entries.map fun (name, value) => (some name, encode name value))) = _
  rw [mapM_decodeMember h, Option.map_some, NameTable.ofList_entries]

section Fields

variable {table : List (List String)} {members : List (String × Json)}

/-- The members of a record, each under one of the names of its field. -/
def NamedAs (table : List (List String)) (members : List (String × Json)) : Prop :=
  List.Forall₂ (fun names member => member.1 ∈ names) table members

private theorem valuesOf_append (names : List String) (before after : List (JsonText × Json)) :
    valuesOf names (before ++ after) = valuesOf names before ++ valuesOf names after := by
  simp [valuesOf]

private theorem valuesOf_cons (names : List String) (name : String) (value : Json)
    (rest : List (JsonText × Json)) :
    valuesOf names ((some name, value) :: rest) =
      if name ∈ names then value :: valuesOf names rest else valuesOf names rest := by
  simp only [valuesOf, List.filter_cons, Option.any_some, List.contains_iff_mem]
  split
  · rfl
  · rfl

/-- Members of other fields give no value to a field whose names they do not share. -/
private theorem valuesOf_eq_nil {names : List String} (h : NamedAs table members)
    (hdisjoint : ∀ others ∈ table, names.Disjoint others) :
    valuesOf names (members.map fun (name, value) => (some name, value)) = [] := by
  induction h with
  | nil => rfl
  | @cons others member table members hmember _ ih =>
    obtain ⟨hothers, hdisjoint⟩ := List.forall_mem_cons.mp hdisjoint
    rw [List.map_cons, valuesOf_cons, if_neg fun h => hothers h hmember, ih hdisjoint]

/-- Every field finds the value of its member, whatever members of other fields stand before. -/
private theorem mapM_onlyValue? (h : NamedAs table members)
    (hdisjoint : table.Pairwise List.Disjoint)
    (before : List (JsonText × Json)) (hbefore : ∀ names ∈ table, valuesOf names before = []) :
    table.mapM (onlyValue? · (before ++ members.map fun (name, value) => (some name, value))) =
      some (members.map fun member => some member.2) := by
  -- Members of other fields stand before and after that of the first field in question.
  induction h generalizing before with
  | nil => rfl
  | @cons names member table members hmember h ih =>
    obtain ⟨hnames, hdisjoint⟩ := List.pairwise_cons.mp hdisjoint
    obtain ⟨hfirst, hrest⟩ := List.forall_mem_cons.mp hbefore
    have hvalue : onlyValue? names
        (before ++ (member :: members).map fun (name, value) => (some name, value)) =
          some (some member.2) := by
      rw [onlyValue?, List.map_cons, valuesOf_append, valuesOf_cons, hfirst, if_pos hmember,
        valuesOf_eq_nil h hnames]
      rfl
    have hpassed : ∀ others ∈ table,
        valuesOf others (before ++ [(some member.1, member.2)]) = [] := by
      intro others hothers
      rw [valuesOf_append, hrest others hothers, valuesOf_cons,
        if_neg fun h => hnames others hothers hmember h]
      rfl
    rw [List.mapM_cons, hvalue, List.map_cons, List.append_cons, ih hdisjoint _ hpassed]
    rfl

/-- Every field of a record has the value of its member. -/
theorem fields?_record (h : NamedAs table members) (hnodup : table.flatten.Nodup) :
    fields? table (.record members) = some (members.map fun member => some member.2) := by
  have hsome : (members.map fun (name, value) => ((some name : JsonText), value)).all
      (·.1.isSome) := by
    simp
  have hdisjoint := (List.nodup_flatten.mp hnodup).2
  exact (if_pos hsome).trans (mapM_onlyValue? h hdisjoint [] fun _ _ => rfl)

end Fields

end UpSetProse.Json
