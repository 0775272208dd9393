import UpSetProse.Json.Decoding
import UpSetProse.Presentation

/-!
# Rows, bookmarks and queries as JSON

A row is exported with all its fields; the deviation has a second name, and a row without members
may leave them out. A bookmark marks a row, and a query asks for rows by their members; neither
leaves a field out.
-/

namespace UpSetProse

open Json (fields? required withDefault)

namespace Json

/-- A value that may be absent. -/
def ofOption {α : Type} (encode : α → Json) (value : Option α) : Json :=
  (value.map encode).getD .null

/-- The array of some texts. -/
def ofTexts (texts : List String) : Json := .array (texts.map text)

end Json

/-- Reads a row as it is exported. -/
def RowRecord.ofJson? (value : Json) : Option RowRecord := do
  match ← fields? [["name"], ["size"], ["dev", "deviation"], ["degree"], ["setMembership"]]
      value with
  | [name, size, deviation, degree, members] =>
    return {
      name := ← required name
      size := ← required size
      deviation := ← required deviation
      degree := ← required degree
      members := ← withDefault .empty members }
  | _ => none

instance : JsonDecode RowRecord := ⟨RowRecord.ofJson?⟩

namespace Bookmark

/-- A bookmark as a value. -/
def toJson (bookmark : Bookmark) : Json :=
  .record
    [("id", .text bookmark.id), ("label", .text bookmark.label),
     ("size", .natural bookmark.size.toNat)]

def ofJson? (value : Json) : Option Bookmark := do
  match ← fields? [["id"], ["label"], ["size"]] value with
  | [id, label, size] =>
    return { id := ← required id, label := ← required label, size := ← required size }
  | _ => none

end Bookmark

instance : JsonDecode Bookmark := ⟨Bookmark.ofJson?⟩

namespace QueryMembership

/-- The name of a membership. -/
def exportName : QueryMembership → String
  | yes => "Yes"
  | no => "No"
  | may => "May"

/-- The name of a membership, which may also be written in lower case. -/
def ofName? (name : String) : Option QueryMembership :=
  if name = "Yes" ∨ name = "yes" then some yes
  else if name = "No" ∨ name = "no" then some no
  else if name = "May" ∨ name = "may" then some may
  else none

end QueryMembership

instance : JsonDecode QueryMembership where
  decode value := (Json.variant? value).bind QueryMembership.ofName?

namespace SetQuery

/-- A query as a value. -/
def toJson (query : SetQuery) : Json :=
  .record
    [("name", .text query.name),
     ("query", .record (query.memberships.entries.map fun (name, membership) =>
       (name, .text membership.exportName)))]

def ofJson? (value : Json) : Option SetQuery := do
  match ← fields? [["name"], ["query"]] value with
  | [name, memberships] =>
    return { name := ← required name, memberships := ← required memberships }
  | _ => none

end SetQuery

instance : JsonDecode SetQuery := ⟨SetQuery.ofJson?⟩

end UpSetProse
