import UpSetProse.Proofs.Plot.Consistency
import UpSetProse.Proofs.Statistics.Degrees
import UpSetProse.Proofs.Text.Prose
import UpSetProse.Proofs.Token.Refusal

/-!
# The rows by degree

The text about the degrees has one clause for every degree from one up to the highest summarized one
that some visible row has, in ascending order, and the counts in the clauses sum up to the number of
such rows. Rows of a higher degree are left out of the listing. Without a row of positive degree the
text says that there is none, and next to a listed row it does not.
-/

namespace UpSetProse

/-- How many of the rows are of a degree. -/
def Row.degreeClause (rows : List Row) (degree : Nat) : String :=
  Text.countNoun (rows.countP fun row => row.degree.toNat == degree) "intersection"
    "intersections" ++ " of degree " ++ toString degree

/-- What is said if no degree is listed. -/
def Row.noDegrees : String := "no intersections of degree one or more"

/-- Whether the degree of a row is one of those that are summarized. -/
def Row.HasSummarizedDegree (row : Row) : Prop :=
  1 ≤ row.degree.toNat ∧ row.degree.toNat ≤ Analysis.maxSummarizedDegree

instance (row : Row) : Decidable row.HasSummarizedDegree := inferInstanceAs (Decidable (_ ∧ _))

namespace Analysis

variable {a : Analysis} {degrees : List Nat}

/-- There is one entry for each listed degree. -/
theorem exists_degreeEntries_eq
    (h : DegreeSummaries.ofRows a.visible maxSummarizedDegree = .ok a.degrees) :
    ∃ degrees, Row.DegreesListed a.visible maxSummarizedDegree degrees ∧
      a.degreeEntries = degrees.map (Row.degreeClause a.visible) := by
  obtain ⟨degrees, hdegrees, hcounts⟩ := DegreeSummaries.populatedCounts_eq h
  have hentries : a.degreeEntries = a.degrees.populatedCounts.map fun (degree, count) =>
      Text.countNoun count "intersection" "intersections" ++ " of degree " ++ toString degree := by
    rw [DegreeSummaries.populatedCounts, List.map_map]
    rfl
  refine ⟨degrees, hdegrees, ?_⟩
  rw [hentries, hcounts, List.map_map]
  rfl

/-- The text lists the clauses if there are any. -/
theorem degreeInfo_of_ne_nil (h : a.degreeEntries = degrees.map (Row.degreeClause a.visible))
    (hne : degrees ≠ []) :
    a.degreeInfo = Text.joinList (degrees.map (Row.degreeClause a.visible)) := by
  unfold degreeInfo
  rw [h]
  cases degrees with
  | nil => exact absurd rfl hne
  | cons degree degrees => rfl

/-- Without clauses it says that there are no such rows. -/
theorem degreeInfo_of_nil (h : a.degreeEntries = []) : a.degreeInfo = Row.noDegrees := by
  unfold degreeInfo
  rw [h]
  rfl

end Analysis

namespace Row

variable {rows : List Row} {degrees : List Nat}

/-- A list of the populated degrees is empty exactly if no row has such a degree. -/
theorem DegreesListed.eq_nil_iff (h : DegreesListed rows Analysis.maxSummarizedDegree degrees) :
    degrees = [] ↔ ∀ row ∈ rows, ¬ row.HasSummarizedDegree := by
  simp only [List.eq_nil_iff_forall_not_mem, h.mem_iff]
  constructor
  · intro hnone row hrow hdegree
    exact hnone _ ⟨hdegree, row, hrow, rfl⟩
  · rintro hnone degree ⟨hdegree, row, hrow, rfl⟩
    exact hnone row hrow hdegree

/-- Every clause begins with a count. -/
theorem leadsWithDigit_degreeClause (rows : List Row) (degree : Nat) :
    Text.LeadsWithDigit (degreeClause rows degree) :=
  ((Text.LeadsWithDigit.countNoun _ _ _).append _).append _

/-- A listing does not read like the denial. -/
theorem joinList_degreeClause_ne_noDegrees (hne : degrees ≠ []) :
    Text.joinList (degrees.map (degreeClause rows)) ≠ noDegrees := by
  have hclauses : degrees.map (degreeClause rows) ≠ [] := by simpa using hne
  have hdigit : Text.LeadsWithDigit (Text.joinList (degrees.map (degreeClause rows))) := by
    refine .joinList hclauses fun clause hclause => ?_
    obtain ⟨degree, -, rfl⟩ := List.mem_map.mp hclause
    exact leadsWithDigit_degreeClause rows degree
  exact hdigit.ne_of_head? (c := 'n') rfl (by decide)

end Row

namespace TokenMap

variable {plot : Plot} {presentation : Presentation} {map : TokenMap}

/-- The text about the degrees has one clause for each degree from one to fifty that some visible
row has, in ascending order, and together they count each such row once. It is denied that there are
any rows if all are of degree zero, and it is not if one of those rows is shown. If there are at
most fifty sets, these are all rows of positive degree. -/
theorem resolve_degreeInfo (h : standard plot presentation = .ok map) :
    ∃ degrees, Row.DegreesListed plot.visible Analysis.maxSummarizedDegree degrees ∧
      (degrees ≠ [] → map.resolve Token.degreeInfo.name =
        Text.joinList (degrees.map (Row.degreeClause plot.visible))) ∧
      ((∀ row ∈ plot.visible, row.degree.toNat = 0) →
        map.resolve Token.degreeInfo.name = Row.noDegrees) ∧
      ((∃ row ∈ plot.visible, row.HasSummarizedDegree) →
        map.resolve Token.degreeInfo.name ≠ Row.noDegrees) ∧
      (degrees.map fun degree => plot.visible.countP fun row => row.degree.toNat == degree).sum =
        plot.visible.countP (·.HasSummarizedDegree) ∧
      (plot.setCount ≤ Analysis.maxSummarizedDegree →
        ∀ row ∈ plot.visible, row.HasSummarizedDegree ↔ 1 ≤ row.degree.toNat) := by
  obtain ⟨rfl, -⟩ := standard_eq_ok h
  obtain ⟨-, hsummaries, -⟩ := Analysis.parts_of_ofPlot (ofPlot_of_standard h)
  obtain ⟨degrees, hdegrees, hentries⟩ := Analysis.exists_degreeEntries_eq hsummaries
  rw [resolve_of_computed h fun _ _ => rfl]
  have hlisted : degrees ≠ [] → map.analysis.degreeInfo = _ :=
    Analysis.degreeInfo_of_ne_nil hentries
  refine ⟨degrees, hdegrees, hlisted, ?_, ?_, hdegrees.sum_countP, ?_⟩
  · intro hzero
    have hnil : degrees = [] := by
      refine hdegrees.eq_nil_iff.mpr fun row hrow hsummarized => ?_
      exact Nat.ne_of_gt hsummarized.1 (hzero row hrow)
    exact Analysis.degreeInfo_of_nil (by rw [hentries, hnil, List.map_nil])
  · rintro ⟨row, hrow, hsummarized⟩
    have hne : degrees ≠ [] := fun hnil => hdegrees.eq_nil_iff.mp hnil row hrow hsummarized
    rw [hlisted hne]
    exact Row.joinList_degreeClause_ne_noDegrees hne
  · intro hsets row hrow
    exact and_iff_left ((Plot.fits_of_mem_visible hrow).degree.trans hsets)

end TokenMap

namespace Plot

/-- A row of the given degree among 51 sets. -/
def wideRow (degree : UInt32) : Row := .classified ⟨"x", 1, 0, degree, .ofNames []⟩ 51

/-- The sizes of 51 sets. -/
def wideSizes : NameTable Size := .ofList ((List.range 51).map fun n => (toString n, 1))

theorem exactTotal_wideSizes : Size.exactTotal wideSizes.values < UInt64.size := by decide +kernel

/-- A plot of these sets that shows a row of all of them and three of fewer sets. -/
def wide : Plot where
  sets := (List.range 51).map toString
  sizes := wideSizes
  visible := [wideRow 51, wideRow 1, wideRow 3, wideRow 1]
  rows := [wideRow 51, wideRow 1, wideRow 3, wideRow 1]
  faultless := by decide +kernel

/-- The rows are of three degrees, of which the last one is not summarized. -/
theorem degreesListed_wide : Row.DegreesListed wide.visible wide.setCount [1, 3, 51] where
  increasing := by decide
  mem_iff degree := by
    have hrow (degree : UInt32) : (wideRow degree).degree = degree := rfl
    have hcount : wide.setCount = 51 := by decide +kernel
    have hvisible : wide.visible = [wideRow 51, wideRow 1, wideRow 3, wideRow 1] := rfl
    simp only [hvisible, hcount, hrow, List.mem_cons, List.not_mem_nil, or_false, exists_eq_or_imp,
      exists_eq_left]
    constructor
    · rintro (rfl | rfl | rfl) <;> decide
    · rintro ⟨-, rfl | rfl | rfl | rfl⟩ <;> decide

/-- The tokens of the plot are registered. -/
theorem exists_standard_wide : ∃ map, TokenMap.standard wide default = .ok map := by
  refine (TokenMap.exists_standard_iff ?_ exactTotal_wideSizes).mpr ?_ <;> decide +kernel

end Plot

namespace TokenMap

/-- Its text has a clause for each of the two smaller degrees. -/
theorem resolve_degreeInfo_wide :
    ∃ map, standard .wide default = .ok map ∧ map.resolve Token.degreeInfo.name =
        "2 intersections of degree 1 and 1 intersection of degree 3" ∧
      ∃ degrees, Row.DegreesListed Plot.wide.visible Analysis.maxSummarizedDegree degrees ∧
        map.resolve Token.degreeInfo.name =
          Text.joinList (degrees.map (Row.degreeClause Plot.wide.visible)) := by
  obtain ⟨map, hmap⟩ := Plot.exists_standard_wide
  obtain ⟨degrees, hdegrees, htext, -⟩ := resolve_degreeInfo hmap
  have hshown : ¬ ∀ row ∈ Plot.wide.visible, ¬ row.HasSummarizedDegree := by decide +kernel
  rw [← hdegrees.eq_nil_iff] at hshown
  exact ⟨map, hmap, resolve_of_ofPlot hmap (fun _ _ => rfl) (by decide +kernel), degrees, hdegrees,
    htext hshown⟩

/-- Not every degree that a row can have is listed: the row of all 51 sets is left out. -/
theorem not_forall_resolve_degreeInfo_eq :
    ¬ ∀ plot presentation map, standard plot presentation = .ok map →
      ∃ degrees, Row.DegreesListed plot.visible plot.setCount degrees ∧
        map.resolve Token.degreeInfo.name = (if degrees = [] then Row.noDegrees
          else Text.joinList (degrees.map (Row.degreeClause plot.visible))) := by
  intro hall
  obtain ⟨map, hmap⟩ := Plot.exists_standard_wide
  obtain ⟨degrees, hdegrees, htext⟩ := hall _ _ map hmap
  obtain rfl := hdegrees.unique Plot.degreesListed_wide
  have hresolved : map.resolve Token.degreeInfo.name =
      "2 intersections of degree 1 and 1 intersection of degree 3" :=
    resolve_of_ofPlot hmap (fun _ _ => rfl) (by decide +kernel)
  rw [hresolved] at htext
  revert htext
  decide +kernel

end TokenMap
end UpSetProse
