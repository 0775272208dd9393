import UpSetProse.Exchange.Row

/-!
# Presentations as JSON

The form in which plots are exported. Fields that are missing have their defaults, except for the
fields of bookmarks and queries; some fields have a second name.
-/

namespace UpSetProse

open Json (fields? required withDefault)

namespace Filters

/-- The filters as a value. -/
def toJson (filters : Filters) : Json :=
  .record
    [("maxVisible", .ofOption (fun n => .natural n.toNat) filters.maxVisible),
     ("minVisible", .ofOption (fun n => .natural n.toNat) filters.minVisible),
     ("hideEmpty", .bool filters.hideEmpty)]

def ofJson? (value : Json) : Option Filters := do
  match ← fields? [["maxVisible"], ["minVisible"], ["hideEmpty"]] value with
  | [maxVisible, minVisible, hideEmpty] =>
    return {
      maxVisible := ← withDefault none maxVisible
      minVisible := ← withDefault none minVisible
      hideEmpty := ← withDefault false hideEmpty }
  | _ => none

end Filters

instance : JsonDecode Filters := ⟨Filters.ofJson?⟩

namespace Metadata

/-- The metadata as a value. -/
def toJson (metadata : Metadata) : Json :=
  .record
    [("title", .ofOption .text metadata.title),
     ("caption", .ofOption .text metadata.caption),
     ("description", .ofOption .text metadata.description),
     ("sets", .ofOption .text metadata.setsLabel),
     ("items", .ofOption .text metadata.itemsLabel)]

def ofJson? (value : Json) : Option Metadata := do
  match ← fields? [["title"], ["caption"], ["description"], ["sets"], ["items"]] value with
  | [title, caption, description, sets, items] =>
    return {
      title := ← withDefault none title
      caption := ← withDefault none caption
      description := ← withDefault none description
      setsLabel := ← withDefault none sets
      itemsLabel := ← withDefault none items }
  | _ => none

end Metadata

instance : JsonDecode Metadata := ⟨Metadata.ofJson?⟩

namespace Presentation

/-- A presentation as a value. -/
def toJson (p : Presentation) : Json :=
  .record
    [("sortBy", .text (keyword p.sortBy)),
     ("sortOrder", .text (keyword p.sortOrder)),
     ("visibleSets", .ofTexts p.visibleSets),
     ("visibleSetSizes", .record (p.visibleSetSizes.entries.map fun (name, size) =>
       (name, .natural size.toNat))),
     ("visibleAtts", .ofTexts p.visibleAttributes),
     ("filters", p.filters.toJson),
     ("metaData", p.metadata.toJson),
     ("bookmarkedIntersections", .array (p.bookmarks.map Bookmark.toJson)),
     ("setQuery", .ofOption SetQuery.toJson p.setQuery)]

/-- The names of the fields of a presentation. -/
def fieldNames : List (List String) :=
  [["sortBy"], ["sortOrder", "sortByOrder"], ["visibleSets"], ["visibleSetSizes"],
   ["visibleAtts", "visibleAttributes"], ["filters"], ["metaData"], ["bookmarkedIntersections"],
   ["setQuery"]]

def ofJson? (value : Json) : Option Presentation := do
  match ← fields? fieldNames value with
  | [sortBy, sortOrder, sets, sizes, attributes, filters, metadata, bookmarks, setQuery] =>
    return {
      sortBy := ← withDefault default sortBy
      sortOrder := ← withDefault default sortOrder
      visibleSets := ← withDefault [] sets
      visibleSetSizes := ← withDefault .empty sizes
      visibleAttributes := ← withDefault [] attributes
      filters := ← withDefault default filters
      metadata := ← withDefault default metadata
      bookmarks := ← withDefault [] bookmarks
      setQuery := ← withDefault none setQuery }
  | _ => none

end Presentation

instance : JsonDecode Presentation := ⟨Presentation.ofJson?⟩

end UpSetProse
