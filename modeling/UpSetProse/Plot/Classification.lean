import UpSetProse.Plot.Row

/-!
# Kinds of rows by degree

The kind of a row follows from its degree and the number of sets: an ordered list of degree ranges,
of which the first that holds the degree decides. Degrees beyond the number of sets are of high
order. A row of all sets is of high order too; whether a plot has such a row is found by degree.
-/

namespace UpSetProse

/-- All degrees from `first` to `last` are of one kind. -/
structure DegreeRule where
  first : Nat
  last : Nat
  kind : Kind
  deriving DecidableEq, Repr

namespace DegreeRule

def holds (rule : DegreeRule) (degree : Nat) : Bool := rule.first ≤ degree && degree ≤ rule.last

/-- The rule for a single degree. -/
def exactly (degree : Nat) (kind : Kind) : DegreeRule := ⟨degree, degree, kind⟩

end DegreeRule

namespace Kind

/-- The largest degree that a row can have. -/
def maxDegree : Nat := UInt32.size - 1

/-- The rules between one set and all sets, by the number of sets. -/
def middleRules (setCount top : Nat) : List DegreeRule :=
  match setCount with
  | 3 => [.exactly 2 .medium]
  | 4 => [.exactly 2 .low, .exactly 3 .medium]
  | 5 => [.exactly 2 .low, .exactly 3 .medium, .exactly 4 .highOrder]
  | 6 => [.exactly 2 .low, ⟨3, 4, .medium⟩, .exactly 5 .highOrder]
  | _ => [⟨2, 3, .low⟩, ⟨4, top / 2, .medium⟩]

/-- The rules for a number of sets, in order; the last one holds every degree. -/
def degreeRules (setCount : Nat) : List DegreeRule :=
  let top := Nat.min setCount maxDegree
  [.exactly 1 .individual, .exactly 0 .empty, .exactly top .highOrder] ++
    middleRules setCount top ++ [⟨0, maxDegree, .highOrder⟩]

/-- The kind that the first fitting rule gives to a degree. -/
def byRules (setCount degree : Nat) : Kind :=
  ((degreeRules setCount).find? (·.holds degree)).elim .highOrder (·.kind)

/-- The highest degree to which the rules apply; a number of sets beyond 32 bits wraps around. -/
def lastRuled (setCount : Nat) : Nat := setCount % UInt32.size

/-- The kind of a degree among a number of sets. -/
def classify (degree : UInt32) (setCount : Nat) : Kind :=
  if degree.toNat ≤ lastRuled setCount then byRules setCount degree.toNat else .highOrder

end Kind

/-- The row of a record, classified for a number of sets. -/
def Row.classified (record : RowRecord) (setCount : Nat) : Row :=
  .ofRecord record (.classify record.degree setCount) setCount

/-- The rows of no set and of all sets, found by degree and not by kind. -/
structure SpecialRows where
  /-- The first row of degree zero. -/
  empty : Option Row
  /-- The first row of all sets, if there are sets. -/
  allSets : Option Row
  deriving DecidableEq

/-- Looks for the special rows among the rows of a plot with some number of sets. -/
def SpecialRows.find (rows : List Row) (setCount : Nat) : SpecialRows where
  empty := rows.find? fun row => row.degree == 0
  allSets := rows.find? fun row => setCount > 0 && row.degree.toNat == setCount

end UpSetProse
