import UpSetProse.Facts.Sets

/-!
# What is said about the state of the plot

Bookmarks, filters, the set query and the attributes, each as one clause.
-/

namespace UpSetProse

namespace Presentation

/-- Lists the bookmarks with their sizes. -/
def bookmarkEntries (p : Presentation) : List String :=
  p.bookmarks.map fun bookmark =>
    Text.sanitize bookmark.label ++ " (" ++
      Text.countNoun bookmark.size.toNat "element" "elements" ++ ")"

/-- The bookmarks as one clause, in the number that fits them. -/
def bookmarkPhrase (p : Presentation) : String :=
  match p.bookmarkEntries with
  | [] => "no intersections are bookmarked"
  | [entry] => "the bookmarked intersection is " ++ entry
  | entries => "the bookmarked intersections are " ++ Text.joinList entries

/-- Which degrees are shown; nothing when all of them are. -/
def degreeClause? (filters : Filters) : Option String :=
  match filters.minVisible, filters.maxVisible with
  | some least, some most =>
    some ("only intersections of degree " ++ toString least.toNat ++ " to " ++
      toString most.toNat ++ " are shown")
  | some least, none =>
    some ("intersections below degree " ++ toString least.toNat ++ " are hidden")
  | none, some most =>
    some ("intersections above degree " ++ toString most.toNat ++ " are hidden")
  | none, none => none

/-- Whether empty rows are shown, and the degrees that are. -/
def filterPhrase (p : Presentation) : String :=
  Text.joinList
    ((if p.filters.hideEmpty then "empty intersections are hidden"
      else "empty intersections are shown") :: (degreeClause? p.filters).toList)

end Presentation

namespace SetQuery

/-- The sets of which the query asks the same, by name. -/
def setsWith (query : SetQuery) (wanted : QueryMembership) : List String :=
  (query.memberships.entries.filter (·.2 == wanted)).map fun entry => Text.sanitize entry.1

/-- A verb with the sets it applies to; nothing without sets. -/
def condition? (verb : String) (sets : List String) : Option String :=
  if sets.isEmpty then none else some (verb ++ " " ++ Text.joinList sets)

/-- What the query asks of a row. -/
def conditions (query : SetQuery) : List String :=
  (condition? "include" (query.setsWith .yes)).toList ++
    (condition? "exclude" (query.setsWith .no)).toList

/-- The name of a query with what it asks. -/
def phrase (query : SetQuery) : String :=
  "the set query " ++ Text.sanitize query.name ++ " is applied" ++
    if query.conditions.isEmpty then " without membership constraints"
    else ", keeping intersections that " ++ Text.joinList query.conditions

end SetQuery

namespace Presentation

/-- The query of the plot, or that there is none. -/
def setQueryPhrase (p : Presentation) : String :=
  (p.setQuery.map SetQuery.phrase).getD "no set query is applied"

/-- The attributes that are shown next to the rows, counted and listed. -/
def attributePhrase (p : Presentation) : String :=
  match p.visibleAttributes.length with
  | 0 => "no attributes are visualized"
  | n =>
    Text.countNoun n "attribute is" "attributes are" ++ " visualized: " ++
      Text.joinList (p.visibleAttributes.map Text.sanitize)

end Presentation
end UpSetProse
