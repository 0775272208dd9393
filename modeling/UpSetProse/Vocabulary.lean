import UpSetProse.Report
import UpSetProse.Text.Characters
import UpSetProse.Text.LowerCase
import UpSetProse.Text.Quoted

/-!
# The closed vocabularies

Plot state, options and results of the analysis are drawn from small closed vocabularies. Every
value has one lower-case keyword, by which it is exported, read from settings and shown in text. In
the vocabularies that are read back, the keyword tells which value it is.
-/

namespace UpSetProse

/-- A closed vocabulary whose values are written as keywords. -/
class Keyword (α : Type) where
  /-- What the vocabulary is called in messages. -/
  field : String
  /-- Every value, in order. -/
  all : List α
  keyword : α → String

namespace Keyword

variable {α : Type} [Keyword α]

/-- The value with exactly this keyword. -/
def ofKeyword? (text : String) : Option α := (all : List α).find? fun a => keyword a == text

/-- Reads a keyword, ignoring white space around it and the case of ASCII letters. -/
def parse (text : String) : Except SettingsError α :=
  let wanted := String.ofList (Text.asciiLowerCase (Text.trim text.toList))
  match ofKeyword? wanted with
  | some a => .ok a
  | none =>
    .error (.unknownVariant (field α)
      ("expected one of [" ++ ", ".intercalate ((all : List α).map keyword) ++ "], got " ++
        Text.quoted text))

end Keyword

export Keyword (keyword)

/-- A vocabulary whose values are known by their keywords. -/
class LawfulKeyword (α : Type) [Keyword α] : Prop where
  ofKeyword?_keyword (a : α) : Keyword.ofKeyword? (keyword a) = some a

export LawfulKeyword (ofKeyword?_keyword)

theorem Keyword.ofKeyword?_eq_some_iff {α : Type} [Keyword α] [LawfulKeyword α] {text : String}
    {a : α} : ofKeyword? text = some a ↔ text = keyword a := by
  constructor
  · intro h
    unfold ofKeyword? at h
    have hfound := List.find?_some h
    exact (eq_of_beq hfound).symm
  · rintro rfl
    exact ofKeyword?_keyword a

/-- How deep the description goes. -/
inductive Level where
  /-- What the plot shows. -/
  | one
  /-- What the data says. -/
  | two
  /-- Levels one and two and the trends together. -/
  | combined
  deriving DecidableEq, Repr

instance : Keyword Level where
  field := "level"
  all := [.one, .two, .combined]
  keyword
    | .one => "1"
    | .two => "2"
    | .combined => "default"

instance : LawfulKeyword Level where
  ofKeyword?_keyword level := by cases level <;> rfl

instance : Inhabited Level := ⟨.one⟩

/-- How much detail each level includes. -/
inductive Verbosity where
  | low | medium | high
  deriving DecidableEq, Repr

instance : Keyword Verbosity where
  field := "verbosity"
  all := [.low, .medium, .high]
  keyword
    | .low => "low"
    | .medium => "medium"
    | .high => "high"

instance : LawfulKeyword Verbosity where
  ofKeyword?_keyword verbosity := by cases verbosity <;> rfl

instance : Inhabited Verbosity := ⟨.medium⟩

/-- How much is said about UpSet plots in general. -/
inductive Explanation where
  | none | simple | full
  deriving DecidableEq, Repr

instance : Keyword Explanation where
  field := "explain"
  all := [.none, .simple, .full]
  keyword
    | .none => "none"
    | .simple => "simple"
    | .full => "full"

instance : LawfulKeyword Explanation where
  ofKeyword?_keyword explanation := by cases explanation <;> rfl

instance : Inhabited Explanation := ⟨.none⟩

/-- What the rows of the plot are sorted by. -/
inductive SortKey where
  | degree | size | deviation
  deriving DecidableEq, Repr

instance : Keyword SortKey where
  field := "sort_by"
  all := [.degree, .size, .deviation]
  keyword
    | .degree => "degree"
    | .size => "size"
    | .deviation => "deviation"

instance : LawfulKeyword SortKey where
  ofKeyword?_keyword key := by cases key <;> rfl

instance : Inhabited SortKey := ⟨.size⟩

inductive SortOrder where
  | ascending | descending
  deriving DecidableEq, Repr

instance : Keyword SortOrder where
  field := "sort_order"
  all := [.ascending, .descending]
  keyword
    | .ascending => "ascending"
    | .descending => "descending"

instance : LawfulKeyword SortOrder where
  ofKeyword?_keyword order := by cases order <;> rfl

instance : Inhabited SortOrder := ⟨.descending⟩

/-- The attributes of a row by which rows can be ranked. -/
inductive RowField where
  | name | size | deviation | degree
  deriving DecidableEq, Repr

instance : Keyword RowField where
  field := "field"
  all := [.name, .size, .deviation, .degree]
  keyword
    | .name => "name"
    | .size => "size"
    | .deviation => "dev"
    | .degree => "degree"

/-- What kind of intersection a row is, by its degree among the sets of the plot. -/
inductive Kind where
  | empty | individual | low | medium | highOrder | allSets
  deriving DecidableEq, Repr

instance : Keyword Kind where
  field := "intersection_type"
  all := [.empty, .individual, .low, .medium, .highOrder, .allSets]
  keyword
    | .empty => "empty"
    | .individual => "individual"
    | .low => "low_set"
    | .medium => "medium_set"
    | .highOrder => "highorder_set"
    | .allSets => "all_set"

/-- How a kind is called in text. -/
def Kind.label : Kind → String
  | empty => "the empty intersection"
  | individual => "individual set"
  | low => "low set"
  | medium => "medium set"
  | highOrder => "high order set"
  | allSets => "all set"

/-- How far the smallest and the largest set size are apart. -/
inductive Divergence where
  | strong | moderate | slight | identical
  deriving DecidableEq, Repr

instance : Keyword Divergence where
  field := "divergence"
  all := [.strong, .moderate, .slight, .identical]
  keyword
    | .strong => "diverging a lot"
    | .moderate => "moderately diverging"
    | .slight => "roughly equal"
    | .identical => "nearly identical"

/-- How strongly a sequence of sizes changes. -/
inductive Change where
  | constant | gradual | drastic
  deriving DecidableEq, Repr

instance : Keyword Change where
  field := "trend"
  all := [.constant, .gradual, .drastic]
  keyword
    | .constant => "constant"
    | .gradual => "gradual"
    | .drastic => "drastic"

/-- Where the size of a row lies relative to the other rows, from large to small. -/
inductive Region where
  | largest | large | medium | small
  deriving DecidableEq, Repr

instance : Keyword Region where
  field := "region"
  all := [.largest, .large, .medium, .small]
  keyword
    | .largest => "largest"
    | .large => "large"
    | .medium => "medium"
    | .small => "small"

end UpSetProse
