import UpSetProse.Plot.Row

/-!
# Presentation of a plot

How a plot is shown and what its author wrote about it: sorting, visible sets and attributes,
filters, metadata, bookmarks and a set query. None of it changes the rows.
-/

namespace UpSetProse

/-- Which rows the plot hides. -/
structure Filters where
  /-- The largest degree shown. -/
  maxVisible : Option UInt32
  /-- The smallest degree shown. -/
  minVisible : Option UInt32
  hideEmpty : Bool
  deriving DecidableEq, Inhabited

/-- What the author wrote about the plot. -/
structure Metadata where
  title : Option String
  caption : Option String
  description : Option String
  /-- What the sets stand for. -/
  setsLabel : Option String
  /-- What the elements stand for. -/
  itemsLabel : Option String
  deriving DecidableEq, Inhabited

/-- A row that a reader marked. -/
structure Bookmark where
  id : String
  label : String
  size : Size
  deriving DecidableEq

/-- What a set query asks of a set. -/
inductive QueryMembership where
  | yes | no | may
  deriving DecidableEq, Repr

/-- A named condition on the sets of a row. -/
structure SetQuery where
  name : String
  memberships : NameTable QueryMembership
  deriving DecidableEq

/-- How a plot is shown. -/
structure Presentation where
  sortBy : SortKey
  sortOrder : SortOrder
  visibleSets : List String
  visibleSetSizes : NameTable Size
  visibleAttributes : List String
  filters : Filters
  metadata : Metadata
  bookmarks : List Bookmark
  setQuery : Option SetQuery
  deriving DecidableEq, Inhabited

end UpSetProse
