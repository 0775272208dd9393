import UpSetProse.Json.Basic
import UpSetProse.NameTable
import UpSetProse.Vocabulary

/-!
# Decoding JSON values

A type that can be exchanged says how a value of it is decoded. Numbers are exact: natural numbers
come from integer numerals in range, doubles from any numeral that does not overflow. A record is an
object whose members are found by their names, or an array of them in order; members of unknown
names are passed over, and a member given twice, also under two of its names, is refused.
-/

namespace UpSetProse

/-- Types that are decoded from JSON values. -/
class JsonDecode (α : Type) where
  decode : Json → Option α

namespace Json

export JsonDecode (decode)

/-- The natural number of an integer numeral without a sign. -/
def naturalBelow? (limit : Nat) : Json → Option Nat
  | .number n =>
    if n.isInteger && !n.negative && n.magnitude.digits < limit then some n.magnitude.digits
    else none
  | _ => none

/-- The integer of an integer numeral. -/
def integer? : Json → Option Int
  | .number n =>
    if n.isInteger then
      some (if n.negative then -n.magnitude.digits else n.magnitude.digits)
    else none
  | _ => none

instance : JsonDecode String where
  decode
    | .string text => text
    | _ => none

instance : JsonDecode Bool where
  decode
    | .bool value => some value
    | _ => none

instance : JsonDecode UInt32 where
  decode value := (naturalBelow? UInt32.size value).map UInt32.ofNat

instance : JsonDecode UInt64 where
  decode value := (naturalBelow? UInt64.size value).map UInt64.ofNat

instance : JsonDecode Double where
  decode
    | .number n =>
      let x := n.magnitude.toDouble n.negative
      if x.isFinite then some x else none
    | _ => none

instance {α : Type} [JsonDecode α] : JsonDecode (Option α) where
  decode
    | .null => some none
    | value => (decode value).map some

instance {α : Type} [JsonDecode α] : JsonDecode (List α) where
  decode
    | .array items => items.mapM decode
    | _ => none

/-- A member with its name. -/
def decodeMember {α : Type} [JsonDecode α] : JsonText × Json → Option (String × α)
  | (some name, value) => (decode value).map (name, ·)
  | (none, _) => none

/-- A table is an object, in which the last member of a name counts. -/
instance {α : Type} [JsonDecode α] : JsonDecode (NameTable α) where
  decode
    | .object members => (members.mapM decodeMember).map NameTable.ofList
    | _ => none

/-- A set of names is an array of them. -/
instance : JsonDecode NameSet where
  decode value := (decode value : Option (List String)).map NameSet.ofNames

/-- The name of a variant: a string, or an object that has it as the name of `null`. -/
def variant? : Json → Option String
  | .string text => text
  | .object [(name, .null)] => name
  | _ => none

instance (priority := low) {α : Type} [Keyword α] : JsonDecode α where
  decode value := (variant? value).bind Keyword.ofKeyword?

/-- The values of the members that have one of the names of a field. -/
def valuesOf (names : List String) (members : List (JsonText × Json)) : List Json :=
  (members.filter fun member => member.1.any names.contains).map (·.2)

/-- The value of a field, which may be missing, from members that have it at most once. -/
def onlyValue? (names : List String) (members : List (JsonText × Json)) : Option (Option Json) :=
  match valuesOf names members with
  | [] => some none
  | [value] => some (some value)
  | _ => none

/-- The values of the fields of a record, each field being given by its names. -/
def fields? (table : List (List String)) : Json → Option (List (Option Json))
  | .object members =>
    if members.all (·.1.isSome) then table.mapM (onlyValue? · members) else none
  | .array items =>
    if items.length ≤ table.length then
      some (items.map some ++ List.replicate (table.length - items.length) none)
    else none
  | _ => none

/-- A field that has to be there. -/
def required {α : Type} [JsonDecode α] (field : Option Json) : Option α := field.bind decode

/-- A field that stands for something when it is missing. -/
def withDefault {α : Type} [JsonDecode α] (value : α) : Option Json → Option α
  | none => some value
  | some given => decode given

end Json
end UpSetProse
