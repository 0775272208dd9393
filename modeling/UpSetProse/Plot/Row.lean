import UpSetProse.Double.Decimal
import UpSetProse.NameTable
import UpSetProse.Text.Prose
import UpSetProse.Vocabulary

/-!
# Rows of an UpSet plot

A row is one intersection of sets: its elements are in exactly its member sets. A record is a row
as exported; a row has a kind as well, fixed against the number of sets it was classified with.

Sizes of rows and of sets are 64-bit numbers. A total that does not fit into 64 bits is an overflow;
since no summand is negative, adding them one after the other overflows exactly then.
-/

namespace UpSetProse

/-- The size of a set or intersection. -/
abbrev Size := UInt64

/-- A total of sizes that does not fit into 64 bits. -/
inductive Overflow where
  | addition
  deriving DecidableEq, Repr

namespace Overflow

/-- How an overflow is reported. -/
def message : Overflow → String
  | addition => "attempt to add with overflow"

/-- A text, or the report of the overflow that it failed with. -/
def shown : Except Overflow String → String
  | .ok text => text
  | .error overflow => overflow.message

end Overflow

namespace Size

/-- The exact total of a list of sizes. -/
def exactTotal (sizes : List Size) : Nat := (sizes.map UInt64.toNat).foldr Nat.add 0

/-- The total of a list of sizes, if it fits into 64 bits. -/
def total (sizes : List Size) : Except Overflow Size :=
  if exactTotal sizes < UInt64.size then .ok (UInt64.ofNat (exactTotal sizes)) else .error .addition

end Size

/-- A row as exported. -/
structure RowRecord where
  name : String
  size : Size
  /-- How far the size is above or below the expected one. -/
  deviation : Double
  /-- How many sets take part. -/
  degree : UInt32
  members : NameSet
  deriving DecidableEq

/-- A classified row. -/
structure Row where
  name : String
  size : Size
  deviation : Double
  degree : UInt32
  kind : Kind
  members : NameSet
  /-- The number of sets that the kind was determined for. -/
  classifiedWith : Nat
  deriving DecidableEq

namespace Row

/-- The name given to the row of the elements that are in no set. -/
def emptyName : String := "the empty intersection"

/-- The exported name of that row, in any case. -/
def isUnincluded (name : String) : Bool :=
  Text.asciiLowerCase name.toList == "unincluded".toList

/-- A row of the given kind: the unincluded row is renamed, the deviation is rounded. -/
def ofRecord (record : RowRecord) (kind : Kind) (setCount : Nat) : Row where
  name := if isUnincluded record.name then emptyName else record.name
  size := record.size
  deviation := record.deviation.roundTo Text.decimalPlaces
  degree := record.degree
  kind := kind
  members := record.members
  classifiedWith := setCount

/-- A field as a number; a name counts as zero. -/
def numeric (row : Row) : RowField → Double
  | .name => 0
  | .size => .ofNat row.size.toNat
  | .deviation => row.deviation
  | .degree => .ofNat row.degree.toNat

end Row
end UpSetProse
