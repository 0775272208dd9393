import Mathlib.Data.List.Sort
import UpSetProse.Plot.Basic
import UpSetProse.Proofs.NameTable

/-!
# Which parts make a plot

Consistency of the parts, and the first fault of inconsistent ones, are said without the checks that
look for them. Building a plot succeeds on exactly the consistent parts, which it keeps as they are,
and otherwise reports exactly the first fault: sets before sizes before rows before visibility.
-/

namespace UpSetProse

/-- What a number of sets asks of each row. -/
structure Row.Fits (setCount : Nat) (row : Row) : Prop where
  degree : row.degree.toNat ≤ setCount
  deviation : row.deviation.isFinite = true
  classified : row.classifiedWith = setCount

/-- What is wrong with a row that does not fit; the degree comes before the deviation, and that
before the classification. -/
inductive Row.Fault (setCount : Nat) (row : Row) : PlotError → Prop
  | degree (hdegree : setCount < row.degree.toNat) :
    Fault setCount row (.degreeOutOfRange row.name row.degree.toNat setCount)
  | deviation (hdegree : row.degree.toNat ≤ setCount)
      (hdeviation : row.deviation.isFinite = false) :
    Fault setCount row (.nonFiniteDeviation row.name)
  | classification (hdegree : row.degree.toNat ≤ setCount)
    (hdeviation : row.deviation.isFinite = true) (hclassified : row.classifiedWith ≠ setCount) :
    Fault setCount row (.classificationMismatch row.name row.classifiedWith setCount)

/-- The names of one list that are not in another, in the order of their code points. -/
structure NameTable.Difference (names others difference : List String) : Prop where
  increasing : difference.Pairwise (· < ·)
  mem_iff : ∀ name, name ∈ difference ↔ name ∈ names ∧ name ∉ others

/-- A difference is determined by the lists. -/
theorem NameTable.Difference.unique {names others first second : List String}
    (hfirst : Difference names others first) (hsecond : Difference names others second) :
    first = second :=
  hfirst.increasing.eq_of_mem_iff hsecond.increasing fun name =>
    (hfirst.mem_iff name).trans (hsecond.mem_iff name).symm

namespace PlotParts

/-- Exactly the sets have sizes. -/
def Sized (parts : PlotParts) : Prop := ∀ name, name ∈ parts.sizes.names ↔ name ∈ parts.sets

/-- All rows, the unfiltered ones first, fit the number of sets. -/
def RowsFit (parts : PlotParts) : Prop :=
  ∀ row ∈ parts.rows ++ parts.visible, row.Fits parts.sets.length

/-- Some unfiltered row has the name of this row, in whatever case. -/
def Lists (parts : PlotParts) (row : Row) : Prop :=
  ∃ known ∈ parts.rows, foldedName known = foldedName row

/-- Parts that fit together. -/
structure Consistent (parts : PlotParts) : Prop where
  nodup : parts.sets.Nodup
  sized : parts.Sized
  rowsFit : parts.RowsFit
  lists : ∀ row ∈ parts.visible, parts.Lists row

/-- What is wrong first with parts that do not fit together. -/
inductive FirstFault (parts : PlotParts) : PlotError → Prop
  | duplicateSet {before after : List String} {name : String}
    (hsplit : parts.sets = before ++ name :: after) (hbefore : before.Nodup)
    (hrepeated : name ∈ before) : FirstFault parts (.duplicateSet name)
  | sizeMismatch {missing extra : List String} (hnodup : parts.sets.Nodup)
    (hmissing : NameTable.Difference parts.sets parts.sizes.names missing)
    (hextra : NameTable.Difference parts.sizes.names parts.sets extra)
    (hsome : missing ≠ [] ∨ extra ≠ []) :
    FirstFault parts (.sizeMismatch ("missing sizes for " ++ Text.quotedList missing ++
      ", sizes for unknown sets " ++ Text.quotedList extra))
  | row {before after : List Row} {row : Row} {error : PlotError} (hnodup : parts.sets.Nodup)
    (hsized : parts.Sized) (hsplit : parts.rows ++ parts.visible = before ++ row :: after)
    (hbefore : ∀ earlier ∈ before, earlier.Fits parts.sets.length)
    (hfault : row.Fault parts.sets.length error) : FirstFault parts error
  | unknownVisibleRow {before after : List Row} {row : Row} (hnodup : parts.sets.Nodup)
    (hsized : parts.Sized) (hfit : parts.RowsFit)
    (hsplit : parts.visible = before ++ row :: after)
    (hbefore : ∀ earlier ∈ before, parts.Lists earlier) (hunlisted : ¬ parts.Lists row) :
    FirstFault parts (.unknownVisibleRow row.name)

/-! ## Sets -/

/-- Nothing is repeated exactly if all names are new. -/
theorem firstRepeated?_eq_none_iff {before names : List String} :
    firstRepeated? before names = none ↔ names.Nodup ∧ ∀ name ∈ names, name ∉ before := by
  induction names generalizing before with
  | nil => simp [firstRepeated?]
  | cons first rest ih =>
    unfold firstRepeated?
    split
    · rename_i hrepeated
      exact iff_of_false nofun fun h => h.2 first List.mem_cons_self hrepeated
    · rename_i hnew
      rw [ih, List.nodup_cons]
      grind

/-- The name that is repeated first has only new names before it. -/
theorem firstRepeated?_eq_some_iff {seen names : List String} {name : String} :
    firstRepeated? seen names = some name ↔ ∃ before after, names = before ++ name :: after ∧
      before.Nodup ∧ (∀ earlier ∈ before, earlier ∉ seen) ∧ (name ∈ before ∨ name ∈ seen) := by
  induction names generalizing seen with
  | nil => simp [firstRepeated?]
  | cons first rest ih =>
    unfold firstRepeated?
    split
    · rename_i hrepeated
      constructor
      · intro h
        obtain rfl := Option.some.inj h
        exact ⟨[], rest, rfl, .nil, nofun, .inr hrepeated⟩
      · rintro ⟨before, after, hsplit, _, hnew, _⟩
        cases before with
        | nil => rw [(List.cons.inj hsplit).1]
        | cons _ _ =>
          obtain ⟨rfl, _⟩ := List.cons.inj hsplit
          exact absurd hrepeated (hnew _ List.mem_cons_self)
    · rename_i hfirst
      rw [ih]
      constructor
      · rintro ⟨before, after, rfl, hnodup, hnew, hrepeated⟩
        refine ⟨first :: before, after, rfl, ?_, ?_, ?_⟩ <;> grind
      · rintro ⟨before, after, hsplit, hnodup, hnew, hrepeated⟩
        cases before with
        | nil => grind
        | cons _ before =>
          obtain ⟨rfl, rfl⟩ := List.cons.inj hsplit
          refine ⟨before, after, rfl, ?_, ?_, ?_⟩ <;> grind

/-- The first check finds nothing exactly if no set is listed twice. -/
theorem duplicateFault?_eq_none_iff {parts : PlotParts} :
    parts.duplicateFault? = none ↔ parts.sets.Nodup := by
  simp [duplicateFault?, firstRepeated?_eq_none_iff]

/-- The first check reports the first set that is listed before. -/
theorem duplicateFault?_eq_some_iff {parts : PlotParts} {error : PlotError} :
    parts.duplicateFault? = some error ↔ ∃ before name after,
      parts.sets = before ++ name :: after ∧ before.Nodup ∧ name ∈ before ∧
        .duplicateSet name = error := by
  simp only [duplicateFault?, Option.map_eq_some_iff, firstRepeated?_eq_some_iff]
  constructor
  · rintro ⟨name, ⟨before, after, hsplit, hnodup, _, hrepeated⟩, rfl⟩
    exact ⟨before, name, after, hsplit, hnodup, by simpa using hrepeated, rfl⟩
  · rintro ⟨before, name, after, hsplit, hnodup, hrepeated, rfl⟩
    exact ⟨name, ⟨before, after, hsplit, hnodup, by simp, .inl hrepeated⟩, rfl⟩

/-! ## Sizes -/

/-- The sets without a size are named in the order of their names, each once. -/
theorem difference_unsized (parts : PlotParts) :
    NameTable.Difference parts.sets parts.sizes.names parts.unsized where
  increasing := (NameTable.pairwise_names _).filter _
  mem_iff name := by simp [unsized, NameSet.mem_names_ofNames]

/-- So are the names with a size that are no sets. -/
theorem difference_unlisted (parts : PlotParts) :
    NameTable.Difference parts.sizes.names parts.sets parts.unlisted where
  increasing := (NameTable.pairwise_names _).filter _
  mem_iff name := by simp [unlisted]

/-- Names without a size and sizes without a set are missing exactly if the sizes are of the
sets. -/
theorem sized_iff {parts : PlotParts} {missing extra : List String}
    (hmissing : NameTable.Difference parts.sets parts.sizes.names missing)
    (hextra : NameTable.Difference parts.sizes.names parts.sets extra) :
    parts.Sized ↔ missing = [] ∧ extra = [] := by
  simp only [Sized, List.eq_nil_iff_forall_not_mem, hmissing.mem_iff, hextra.mem_iff]
  grind

/-- The second check finds nothing exactly if there is one size for each set. -/
theorem sizeFault?_eq_none_iff {parts : PlotParts} :
    parts.sizeFault? = none ↔ parts.Sized := by
  rw [sized_iff parts.difference_unsized parts.difference_unlisted]
  simp [sizeFault?]

/-- The second check reports all sets without a size and all sizes without a set at once. -/
theorem sizeFault?_eq_some_iff {parts : PlotParts} {error : PlotError} :
    parts.sizeFault? = some error ↔ ∃ missing extra,
      NameTable.Difference parts.sets parts.sizes.names missing ∧
        NameTable.Difference parts.sizes.names parts.sets extra ∧
        (missing ≠ [] ∨ extra ≠ []) ∧
        .sizeMismatch ("missing sizes for " ++ Text.quotedList missing ++
          ", sizes for unknown sets " ++ Text.quotedList extra) = error := by
  constructor
  · intro h
    refine ⟨parts.unsized, parts.unlisted, parts.difference_unsized, parts.difference_unlisted, ?_⟩
    unfold sizeFault? at h
    split at h
    · cases h
    · rename_i hmismatch
      exact ⟨by simpa [imp_iff_not_or] using hmismatch, Option.some.inj h⟩
  · rintro ⟨missing, extra, hmissing, hextra, hsome, rfl⟩
    obtain rfl := hmissing.unique parts.difference_unsized
    obtain rfl := hextra.unique parts.difference_unlisted
    refine if_neg ?_
    simpa [imp_iff_not_or] using hsome

/-! ## Rows -/

/-- A row has no fault exactly if its degree, its deviation and its classification fit the plot. -/
theorem rowFault?_eq_none_iff {setCount : Nat} {row : Row} :
    rowFault? setCount row = none ↔ row.Fits setCount := by
  unfold rowFault?
  constructor
  · intro h
    split_ifs at h with hdegree hdeviation hclassified
    exact ⟨Nat.not_lt.mp hdegree, by simpa using hdeviation, not_not.mp hclassified⟩
  · rintro ⟨hdegree, hdeviation, hclassified⟩
    simp [Nat.not_lt.mpr hdegree, hdeviation, hclassified]

/-- A row is reported for the first of its faults. -/
theorem rowFault?_eq_some_iff {setCount : Nat} {row : Row} {error : PlotError} :
    rowFault? setCount row = some error ↔ row.Fault setCount error := by
  unfold rowFault?
  constructor
  · intro h
    split_ifs at h with hdegree hdeviation hclassified <;> obtain rfl := Option.some.inj h
    · exact .degree hdegree
    · exact .deviation (Nat.not_lt.mp hdegree) (by simpa using hdeviation)
    · exact .classification (Nat.not_lt.mp hdegree) (by simpa using hdeviation) hclassified
  · intro h
    cases h with
    | degree hdegree => simp [hdegree]
    | deviation hdegree hdeviation => simp [Nat.not_lt.mpr hdegree, hdeviation]
    | classification hdegree hdeviation hclassified =>
      simp [Nat.not_lt.mpr hdegree, hdeviation, hclassified]

theorem rowsFault?_eq_none_iff {parts : PlotParts} :
    parts.rowsFault? = none ↔ parts.RowsFit := by
  simp only [rowsFault?, RowsFit, List.findSome?_eq_none_iff, rowFault?_eq_none_iff]

/-- The third check reports the first row that does not fit, all rows before the visible ones. -/
theorem rowsFault?_eq_some_iff {parts : PlotParts} {error : PlotError} :
    parts.rowsFault? = some error ↔ ∃ before row after,
      parts.rows ++ parts.visible = before ++ row :: after ∧
        row.Fault parts.sets.length error ∧
        ∀ earlier ∈ before, earlier.Fits parts.sets.length := by
  simp only [rowsFault?, List.findSome?_eq_some_iff, rowFault?_eq_some_iff, rowFault?_eq_none_iff]

/-! ## Visibility -/

/-- Names are compared in lower case. -/
theorem contains_foldedName_iff {parts : PlotParts} {row : Row} :
    (parts.rows.map foldedName).contains (foldedName row) = true ↔ parts.Lists row := by
  simp [Lists]

theorem visibilityFault?_eq_none_iff {parts : PlotParts} :
    parts.visibilityFault? = none ↔ ∀ row ∈ parts.visible, parts.Lists row := by
  simp only [visibilityFault?, Option.map_eq_none_iff, List.find?_eq_none, Bool.not_eq_true',
    Bool.not_eq_false, contains_foldedName_iff]

/-- The last check reports the first visible row that is not among all rows. -/
theorem visibilityFault?_eq_some_iff {parts : PlotParts} {error : PlotError} :
    parts.visibilityFault? = some error ↔ ∃ before row after,
      parts.visible = before ++ row :: after ∧ ¬ parts.Lists row ∧
        (∀ earlier ∈ before, parts.Lists earlier) ∧ .unknownVisibleRow row.name = error := by
  simp only [visibilityFault?, Option.map_eq_some_iff, List.find?_eq_some_iff_append,
    ← contains_foldedName_iff, Bool.not_eq_true, Bool.not_eq_true', Bool.not_not]
  constructor
  · rintro ⟨row, ⟨hunlisted, before, after, hsplit, hbefore⟩, rfl⟩
    exact ⟨before, row, after, hsplit, hunlisted, hbefore, rfl⟩
  · rintro ⟨before, row, after, hsplit, hunlisted, hbefore, rfl⟩
    exact ⟨row, ⟨hunlisted, before, after, hsplit, hbefore⟩, rfl⟩

/-! ## All checks together -/

/-- The checks together find nothing exactly if the parts fit together. -/
theorem fault?_eq_none_iff {parts : PlotParts} : parts.fault? = none ↔ parts.Consistent := by
  simp only [fault?, Option.orElse_eq_orElse, Option.orElse_eq_or, Option.or_eq_none_iff,
    duplicateFault?_eq_none_iff, sizeFault?_eq_none_iff, rowsFault?_eq_none_iff,
    visibilityFault?_eq_none_iff]
  exact ⟨fun ⟨hnodup, hsized, hfit, hlists⟩ => ⟨hnodup, hsized, hfit, hlists⟩,
    fun ⟨hnodup, hsized, hfit, hlists⟩ => ⟨hnodup, hsized, hfit, hlists⟩⟩

/-- The checks together report the first fault there is. -/
theorem fault?_eq_some_iff {parts : PlotParts} {error : PlotError} :
    parts.fault? = some error ↔ parts.FirstFault error := by
  simp only [fault?, Option.orElse_eq_orElse, Option.orElse_eq_or, Option.or_eq_some_iff,
    duplicateFault?_eq_none_iff, sizeFault?_eq_none_iff, rowsFault?_eq_none_iff,
    duplicateFault?_eq_some_iff, sizeFault?_eq_some_iff, rowsFault?_eq_some_iff,
    visibilityFault?_eq_some_iff]
  constructor
  · rintro (⟨before, name, after, hsplit, hbefore, hrepeated, rfl⟩ | ⟨hnodup, hlater⟩)
    · exact .duplicateSet hsplit hbefore hrepeated
    rcases hlater with ⟨missing, extra, hmissing, hextra, hsome, rfl⟩ | ⟨hsized, hlater⟩
    · exact .sizeMismatch hnodup hmissing hextra hsome
    rcases hlater with ⟨before, row, after, hsplit, hfault, hbefore⟩ | ⟨hfit, hlater⟩
    · exact .row hnodup hsized hsplit hbefore hfault
    obtain ⟨before, row, after, hsplit, hunlisted, hbefore, rfl⟩ := hlater
    exact .unknownVisibleRow hnodup hsized hfit hsplit hbefore hunlisted
  · intro h
    cases h with
    | duplicateSet hsplit hbefore hrepeated =>
      exact .inl ⟨_, _, _, hsplit, hbefore, hrepeated, rfl⟩
    | sizeMismatch hnodup hmissing hextra hsome =>
      exact .inr ⟨hnodup, .inl ⟨_, _, hmissing, hextra, hsome, rfl⟩⟩
    | row hnodup hsized hsplit hbefore hfault =>
      exact .inr ⟨hnodup, .inr ⟨hsized, .inl ⟨_, _, _, hsplit, hfault, hbefore⟩⟩⟩
    | unknownVisibleRow hnodup hsized hfit hsplit hbefore hunlisted =>
      exact .inr ⟨hnodup, .inr ⟨hsized, .inr ⟨hfit, _, _, _, hsplit, hunlisted, hbefore, rfl⟩⟩⟩

end PlotParts

namespace Plot

open PlotParts

/-- The rows that a plot shows fit its number of sets. -/
theorem fits_of_mem_visible {plot : Plot} {row : Row} (h : row ∈ plot.visible) :
    row.Fits plot.setCount :=
  (fault?_eq_none_iff.mp plot.faultless).rowsFit row (List.mem_append_right _ h)

/-- A plot is built of exactly the parts that are given. -/
theorem build_eq_ok_iff {parts : PlotParts} {plot : Plot} :
    build parts = .ok plot ↔ parts.fault? = none ∧ plot.toPlotParts = parts := by
  unfold build
  split
  · rename_i hnone
    simp only [hnone, true_and, Except.ok.injEq]
    constructor
    · rintro rfl
      rfl
    · rintro rfl
      rfl
  · rename_i hsome
    simp [hsome]

/-- A plot is refused for the fault that the checks report. -/
theorem build_eq_error_iff {parts : PlotParts} {error : PlotError} :
    build parts = .error error ↔ parts.fault? = some error := by
  unfold build
  split
  · rename_i hnone
    simp [hnone]
  · rename_i hsome
    simp [hsome]

/-- A plot is built of consistent parts and of no others; it has these very parts, and with them the
sizes of the rows in their order and the number of sets. The error of other parts is exactly what is
wrong with them first. -/
theorem build_decides_consistency (parts : PlotParts) :
    ((∃ plot, build parts = .ok plot) ↔ parts.Consistent) ∧
      (∀ plot, build parts = .ok plot ↔ parts.Consistent ∧ plot.toPlotParts = parts ∧
        plot.rowSizes = parts.rows.map (·.size) ∧ plot.setCount = parts.sets.length) ∧
      ∀ error, build parts = .error error ↔ parts.FirstFault error := by
  refine ⟨?_, fun plot => ?_, fun error => ?_⟩
  · simp only [build_eq_ok_iff, ← fault?_eq_none_iff]
    exact ⟨fun ⟨_, hnone, _⟩ => hnone, fun hnone => ⟨⟨parts, hnone⟩, hnone, rfl⟩⟩
  · rw [build_eq_ok_iff, fault?_eq_none_iff]
    refine and_congr_right fun _ => ⟨?_, fun h => h.1⟩
    rintro rfl
    exact ⟨rfl, rfl, rfl⟩
  · rw [build_eq_error_iff, fault?_eq_some_iff]

end Plot
end UpSetProse
