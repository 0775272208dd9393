import UpSetProse.Analysis
import UpSetProse.Text.Prose

/-!
# What is said about the plot and its sets

Names and texts of the plot's author are sanitized before they are quoted, and what the author left
out is named as missing.
-/

namespace UpSetProse

/-- Stands for whatever the plot does not provide. -/
def missingField : String := "(field not available)"

/-- A sanitized text, or the note that it is missing. -/
def orMissing (text : Option String) : String := (text.map Text.sanitize).getD missingField

namespace Analysis

def title (a : Analysis) : String := orMissing a.presentation.metadata.title

def caption (a : Analysis) : String := orMissing a.presentation.metadata.caption

def description (a : Analysis) : String := orMissing a.presentation.metadata.description

def setsLabel (a : Analysis) : String := orMissing a.presentation.metadata.setsLabel

def itemsLabel (a : Analysis) : String := orMissing a.presentation.metadata.itemsLabel

/-- The number of sets shown; all of them unless some are chosen. -/
def visibleSetCount (a : Analysis) : Nat :=
  if a.presentation.visibleSets.isEmpty then a.plot.setCount
  else a.presentation.visibleSets.length

/-- Lists the names of the sets in plot order. -/
def setNames (a : Analysis) : String := Text.joinList (a.plot.sets.map Text.sanitize)

/-- A name with a size in parentheses. -/
def sized (name : String) (size : Size) : String :=
  Text.sanitize name ++ " (" ++ toString size.toNat ++ ")"

/-- Lists the sets with their sizes in plot order. -/
def setSizes (a : Analysis) : String :=
  Text.joinList (a.sizedSets.map fun (name, size) => sized name size)

/-- The name of a set that was looked for. -/
def nameOf (set? : Option (String × Size)) : String := orMissing (set?.map (·.1))

/-- The size of a set that was looked for. -/
def sizeOf (set? : Option (String × Size)) : String :=
  (set?.map fun set => toString set.2.toNat).getD missingField

/-- The size of a set that was looked for, zero if there is none. -/
def sizeOrZero (set? : Option (String × Size)) : Size := (set?.map (·.2)).getD 0

/-- A size as a percentage of a total. -/
def shareOf (size total : Size) : String :=
  Text.percent (.ofNat size.toNat) (.ofNat total.toNat)

/-- The size of a set that was looked for, as a share of all set sizes. -/
def setShare (a : Analysis) (set? : Option (String × Size)) : Except Overflow String :=
  shareOf (sizeOrZero set?) <$> a.universalSetSize

/-- A size as a share of the total size of the visible rows. -/
def visibleShare (a : Analysis) (size : Size) : Except Overflow String :=
  shareOf size <$> a.visibleSize

/-- How far the sizes of the sets are apart. -/
def setDivergence (a : Analysis) : Divergence :=
  .ofSizes (sizeOrZero a.smallestSet?) (sizeOrZero a.largestSet?)

end Analysis
end UpSetProse
