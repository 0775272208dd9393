import UpSetProse.Facts.Sets

/-!
# What is said about the rows

The extreme rows with their shares, the largest rows, the rows by degree and by kind, and the
distribution of sizes and deviations. All of it is about the visible rows.
-/

namespace UpSetProse

namespace Row

/-- Lists the member sets of a row, or names the row if it has none. -/
def membership (row : Row) : String :=
  if row.members.names.isEmpty then Text.sanitize row.name
  else Text.joinList (row.members.names.map Text.sanitize)

/-- The largest size of rows, zero for none. -/
def largestSize (rows : List Row) : Size :=
  rows.foldl (fun best row => if best < row.size then row.size else best) 0

/-- The smallest size of rows, zero for none. -/
def smallestSize : List Row → Size
  | [] => 0
  | first :: rest =>
    rest.foldl (fun best row => if row.size < best then row.size else best) first.size

/-- The greatest deviation of rows, zero for none. -/
def greatestDeviation : List Row → Double
  | [] => 0
  | first :: rest => rest.foldl (fun best row => best.max row.deviation) first.deviation

/-- The least deviation of rows, zero for none. -/
def leastDeviation : List Row → Double
  | [] => 0
  | first :: rest => rest.foldl (fun best row => best.min row.deviation) first.deviation

end Row

namespace Analysis

/-- The member sets of the first row of a ranking. -/
def leadingMembership (a : Analysis) (field : RowField) (order : SortOrder) : String :=
  orMissing ((rankBy a.visible field order).head?.map Row.membership)

/-- The visible rows from the largest down. -/
def bySize (a : Analysis) : List Row := rankBy a.visible .size .descending

/-- The size of the first row by size. -/
def leadingSize (a : Analysis) : Size := (a.bySize.head?.map (·.size)).getD 0

/-- The number of rows that count as the largest ones. -/
def topLimit : Nat := 5

/-- Lists the largest rows with their sizes. -/
def topRows (a : Analysis) : String :=
  Text.joinList ((a.bySize.take topLimit).map fun row => sized row.name row.size)

/-- How much larger the largest row is than the next one. -/
def factorPhrase (a : Analysis) : String :=
  match largestFactor (a.visible.map (·.size)) with
  | none => "there is no non-empty second intersection to compare the largest with"
  | some 1 => "the largest intersection is about as large as the second largest"
  | some factor =>
    "the largest intersection is about " ++ toString factor ++
      " times as large as the second largest"

/-- How many rows there are of each populated degree. -/
def degreeEntries (a : Analysis) : List String :=
  a.degrees.populated.map fun (degree, summary) =>
    Text.countNoun summary.count "intersection" "intersections" ++ " of degree " ++ toString degree

def degreeInfo (a : Analysis) : String :=
  if a.degreeEntries.isEmpty then "no intersections of degree one or more"
  else Text.joinList a.degreeEntries

/-- The kinds that are summarized, which leaves out the two special rows. -/
def summarizedKinds : List Kind := [.individual, .low, .medium, .highOrder]

/-- The number of rows of a kind that are named. -/
def namedLimit : Nat := 3

/-- Names the first rows of a kind and counts the others. -/
def namedRows (members : List Row) : List String :=
  let others := members.length - namedLimit
  (members.take namedLimit).map (fun row => Text.sanitize row.name) ++
    (if others = 0 then [] else [Text.countNoun others "other" "others"])

/-- How many rows there are of a kind, and which; none without such rows. -/
def kindEntry? (a : Analysis) (kind : Kind) : Option String :=
  let members := a.visible.filter fun row => row.kind == kind
  if members.isEmpty then none
  else some (Text.countNoun members.length (kind.label ++ " intersection")
      (kind.label ++ " intersections") ++ " (" ++ Text.joinList (namedRows members) ++ ")")

def kindEntries (a : Analysis) : List String := summarizedKinds.filterMap a.kindEntry?

def kindSummary (a : Analysis) : String :=
  if a.kindEntries.isEmpty then "no non-empty intersection types"
  else Text.joinList a.kindEntries

/-- The size at a percentile. -/
def sizeAt (a : Analysis) (percentage : Double) : String :=
  ((percentile a.visible .size percentage).map fun x =>
    toString (x.toNatSaturating UInt64.size)).getD missingField

/-- How strongly the sizes change from row to row. -/
def sizeChange (a : Analysis) : Change := .ofSizes (Row.doubleSizes a.visible)

/-- How strongly the average sizes change from degree to degree. -/
def degreeChange (a : Analysis) : Change := .ofSizes a.degrees.averageSizes

end Analysis
end UpSetProse
