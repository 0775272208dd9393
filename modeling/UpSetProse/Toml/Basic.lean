import UpSetProse.Double.Decimal

/-!
# TOML values

A table remembers how it came about, since that decides what the rest of a document may still add
to it. Dates and times are kept as they are written.
-/

namespace UpSetProse

/-- How a table came about. -/
inductive TableOrigin where
  /-- By a header of its own, or as the document itself. -/
  | header
  /-- As a parent in the header of another table. -/
  | implied
  /-- As a parent in a dotted key. -/
  | dotted
  /-- Between braces. -/
  | inline
  deriving DecidableEq, Repr

inductive Toml where
  | string (text : String)
  | integer (value : Int)
  | float (value : Double)
  | boolean (value : Bool)
  | dateTime (text : String)
  | array (items : List Toml)
  | table (origin : TableOrigin) (entries : List (String × Toml))
  /-- Tables under repeated headers, each given by its entries. -/
  | tables (items : List (List (String × Toml)))

namespace Toml

/-- The entries of a table in the order in which they came. -/
abbrev Entries := List (String × Toml)

end Toml
end UpSetProse
