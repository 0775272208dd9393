import UpSetProse.Facts.Rows

/-!
# What is said about regions and special rows

Where the rows of each kind lie, and how many elements are in no set or in all of them.
-/

namespace UpSetProse

/-- Names regions: the largest row by itself, the others by the size they stand for. -/
def Region.phrase (regions : List Region) : String :=
  let bySize := (regions.filter (· != .largest)).map keyword
  Text.joinList
    ((if regions.contains .largest then ["the largest intersection"] else []) ++
      (if bySize.isEmpty then [] else [Text.joinList bySize ++ "-sized intersections"]))

namespace Analysis

/-- A sentence for every kind but the empty intersection that lies somewhere. -/
def regionSentences (a : Analysis) : List String :=
  (a.regions.assignments.filter (·.1 != .empty)).map fun (kind, regions) =>
    "the " ++ kind.label ++ " intersections lie in " ++ Region.phrase regions

def regionSummary (a : Analysis) : String :=
  if a.regionSentences.isEmpty then "no size regions could be determined"
  else ". ".intercalate a.regionSentences

/-- A number of elements with the verb for where they belong. -/
def elementsBelong (count : Size) : String :=
  if count = 1 then "1 element belongs" else toString count.toNat ++ " elements belong"

/-- The size of a special row that has elements. -/
def populatedSize? (row? : Option Row) : Option Size :=
  (row?.map (·.size)).filter (· > 0)

/-- How many elements are in no set. -/
def emptyPhrase (a : Analysis) : String :=
  match populatedSize? a.specialRows.empty with
  | some size => elementsBelong size ++ " to none of the sets"
  | none => "every element belongs to at least one set"

/-- How the sets are called together; nothing for no sets. -/
def allSetsName? : (setCount : Nat) → Option String
  | 0 => none
  | 1 => some "the only set"
  | n => some ("all " ++ toString n ++ " sets")

/-- How many elements are in all sets. -/
def allSetsPhrase (a : Analysis) : String :=
  match allSetsName? a.plot.setCount, populatedSize? a.specialRows.allSets with
  | none, _ => "the plot has no sets"
  | some sets, some size => elementsBelong size ++ " to " ++ sets
  | some sets, none => "no element belongs to " ++ sets

end Analysis
end UpSetProse
