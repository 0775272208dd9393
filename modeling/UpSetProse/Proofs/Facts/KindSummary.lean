import UpSetProse.Proofs.Plot.Classification
import UpSetProse.Proofs.Regions.Location
import UpSetProse.Proofs.Statistics.Degrees
import UpSetProse.Proofs.Token.Refusal

/-!
# The rows by kind

The rows of every kind that occurs are told in one entry: how many there are, the names of the first
of them and the number of the others. The entries follow the order of the kinds, and sentences about
regions are about the same kinds in the same order. Since every classified row in a set is of one of
these kinds, the entries count each of them once.
-/

namespace UpSetProse

/-- What is told of the rows of one kind. -/
structure KindAccount where
  kind : Kind
  count : Nat
  named : List Row
  others : Nat

namespace KindAccount

/-- The account as text; others are only mentioned if there are any. -/
def text (account : KindAccount) : String :=
  Text.countNoun account.count (account.kind.label ++ " intersection")
      (account.kind.label ++ " intersections") ++
    " (" ++ Text.joinList ((account.named.map fun row => Text.sanitize row.name) ++
      if account.others = 0 then [] else [Text.countNoun account.others "other" "others"]) ++ ")"

/-- The sentence about the regions of the kind. -/
def regionText (account : KindAccount) (regions : RegionMap) : String :=
  "the " ++ account.kind.label ++ " intersections lie in " ++
    Region.phrase (regions.regions account.kind)

/-- The account is true of some rows: it counts the rows of its kind and names the first of them, up
to three, in their order. -/
structure Of (account : KindAccount) (rows : List Row) : Prop where
  count : account.count = rows.countP (·.kind == account.kind)
  named : account.named <+: rows.filter (·.kind == account.kind)
  length : account.named.length = min 3 account.count
  others : account.others = account.count - 3

/-- The account of a kind. -/
def ofRows (rows : List Row) (kind : Kind) : KindAccount :=
  let members := rows.filter (·.kind == kind)
  ⟨kind, members.length, members.take Analysis.namedLimit, members.length - Analysis.namedLimit⟩

theorem of_ofRows (rows : List Row) (kind : Kind) : (ofRows rows kind).Of rows where
  count := (List.countP_eq_length_filter).symm
  named := List.take_prefix _ _
  length := List.length_take
  others := rfl

end KindAccount

/-- The summarized kinds of some rows, in order. -/
def Kind.told (rows : List Row) : List Kind :=
  Analysis.summarizedKinds.filter fun kind => rows.any (·.kind == kind)

theorem Kind.mem_told_iff {rows : List Row} {kind : Kind} :
    kind ∈ told rows ↔ kind ∈ Analysis.summarizedKinds ∧ kind.OccursIn rows := by
  simp [told, OccursIn]

namespace KindAccount

/-- The accounts of all kinds that are told. -/
def all (rows : List Row) : List KindAccount := (Kind.told rows).map (ofRows rows)

theorem map_kind_all (rows : List Row) : (all rows).map (·.kind) = Kind.told rows := by
  rw [all, List.map_map]
  exact List.map_id _

theorem of_of_mem_all {rows : List Row} : ∀ account ∈ all rows, account.Of rows :=
  List.forall_mem_map.mpr fun kind _ => of_ofRows rows kind

end KindAccount

/-! ## Classified rows -/

namespace Row

variable {rows : List Row} {setCount : Nat}

theorem kind_ne_allSets (h : ∀ row ∈ rows, ∃ record, row = .classified record setCount) :
    ∀ row ∈ rows, row.kind ≠ .allSets := by
  intro row hrow
  obtain ⟨record, rfl⟩ := h row hrow
  exact Kind.classify_ne_allSets _ _

/-- All kinds but that of the empty intersection are told. -/
theorem mem_told_iff_of_classified
    (h : ∀ row ∈ rows, ∃ record, row = .classified record setCount) {kind : Kind} :
    kind ∈ Kind.told rows ↔ kind ≠ .empty ∧ kind.OccursIn rows := by
  rw [Kind.mem_told_iff, Kind.mem_summarizedKinds_iff]
  refine and_congr_left fun ⟨row, hrow, hkind⟩ => and_iff_left ?_
  rw [← hkind]
  exact kind_ne_allSets h row hrow

/-- The accounts count every row of positive degree once. -/
theorem sum_count_all (h : ∀ row ∈ rows, ∃ record, row = .classified record setCount) :
    ((KindAccount.all rows).map (·.count)).sum =
      rows.countP fun row => 1 ≤ row.degree.toNat := by
  have hcounts : (KindAccount.all rows).map (·.count) =
      (Kind.told rows).map fun kind => rows.countP (·.kind == kind) := by
    rw [KindAccount.all, List.map_map]
    exact List.map_congr_left fun kind _ => List.countP_eq_length_filter.symm
  have hnodup : (Kind.told rows).Nodup := (by decide : Analysis.summarizedKinds.Nodup).filter _
  rw [hcounts, sum_map_countP hnodup Row.kind]
  refine List.countP_congr fun row hrow => ?_
  rw [decide_eq_true_iff, decide_eq_true_iff, Kind.mem_told_iff]
  refine (and_iff_left ⟨row, hrow, rfl⟩).trans ?_
  obtain ⟨record, rfl⟩ := h row hrow
  exact Kind.classify_mem_summarizedKinds_iff

end Row

namespace Analysis

variable {a : Analysis}

/-- There is one entry for each kind that is told. -/
theorem kindEntries_eq (a : Analysis) :
    a.kindEntries = (KindAccount.all a.visible).map (·.text) := by
  have hentry (kind : Kind) : a.kindEntry? kind = if a.visible.any (·.kind == kind) then
      some (KindAccount.ofRows a.visible kind).text else none := by
    have hempty : (a.visible.filter (·.kind == kind)).isEmpty =
        !a.visible.any (·.kind == kind) := by
      rw [Bool.eq_iff_iff]
      simp
    unfold kindEntry?
    simp only [hempty]
    cases a.visible.any (·.kind == kind) <;> rfl
  unfold kindEntries KindAccount.all Kind.told
  rw [List.map_map]
  induction summarizedKinds with
  | nil => rfl
  | cons kind kinds ih =>
    rw [List.filterMap_cons, List.filter_cons, ih, hentry]
    cases a.visible.any (·.kind == kind) <;> rfl

/-- Without rows of the kind of all sets, there is a sentence for each kind that is told. -/
theorem regionSentences_eq (hregions : RegionMap.ofRows a.visible = .ok a.regions)
    (hkinds : ∀ row ∈ a.visible, row.kind ≠ .allSets) :
    a.regionSentences = (KindAccount.all a.visible).map (·.regionText a.regions) := by
  have hlies (kind : Kind) : (a.regions.regions? kind).isSome =
      a.visible.any (·.kind == kind) := by
    rw [Bool.eq_iff_iff, RegionMap.isSome_regions?_iff hregions]
    simp [Kind.OccursIn]
  have hallSets : a.visible.any (·.kind == .allSets) = false := by
    simpa using hkinds
  have htold : (Keyword.all : List Kind).filter (fun kind =>
      kind != .empty && a.visible.any (·.kind == kind)) = Kind.told a.visible := by
    have hall : (Keyword.all : List Kind) = .empty :: (summarizedKinds ++ [.allSets]) := rfl
    have hsummarized : ∀ kind ∈ summarizedKinds, (kind != .empty) = true := by decide
    have hlast : [Kind.allSets].filter (fun kind =>
        kind != .empty && a.visible.any (·.kind == kind)) = [] :=
      List.filter_eq_nil_iff.mpr (by simpa using hallSets)
    rw [hall, List.filter_cons, List.filter_append, hlast, List.append_nil]
    exact List.filter_congr fun kind hkind => by rw [hsummarized kind hkind, Bool.true_and]
  rw [regionSentences, RegionMap.assignments_eq, KindAccount.all, List.filter_map,
    List.filter_filter, List.map_map, ← htold, List.map_map]
  simp only [Function.comp_def, hlies]
  rfl

end Analysis

namespace TokenMap

variable {plot : Plot} {presentation : Presentation} {map : TokenMap}

/-- Over classified rows, the text about the kinds has one true account for each kind but that of
the empty intersection that some visible row is of, in the order of the kinds. The accounts count
every row of positive degree once, and exactly their kinds have a sentence about their regions. -/
theorem resolve_kindSummary (h : standard plot presentation = .ok map)
    (hrows : ∀ row ∈ plot.visible, ∃ record, row = .classified record plot.setCount) :
    ∃ accounts : List KindAccount,
      (accounts.map (·.kind)).Sublist [.individual, .low, .medium, .highOrder] ∧
      (∀ kind, kind ∈ accounts.map (·.kind) ↔ kind ≠ .empty ∧ kind.OccursIn plot.visible) ∧
      (∀ account ∈ accounts, account.Of plot.visible) ∧
      (accounts.map (·.count)).sum = plot.visible.countP (fun row => 1 ≤ row.degree.toNat) ∧
      map.resolve Token.kindSummary.name = (if accounts = [] then "no non-empty intersection types"
        else Text.joinList (accounts.map (·.text))) ∧
      map.resolve Token.regionSummary.name =
        (if accounts = [] then "no size regions could be determined"
          else ". ".intercalate (accounts.map (·.regionText map.analysis.regions))) := by
  obtain ⟨rfl, -⟩ := standard_eq_ok h
  obtain ⟨hregions, -, -⟩ := Analysis.parts_of_ofPlot (ofPlot_of_standard h)
  refine ⟨KindAccount.all map.analysis.visible, ?_, fun kind => ?_, KindAccount.of_of_mem_all,
    Row.sum_count_all hrows, ?_, ?_⟩
  · rw [KindAccount.map_kind_all]
    exact List.filter_sublist
  · rw [KindAccount.map_kind_all]
    exact Row.mem_told_iff_of_classified hrows
  · rw [resolve_of_computed h fun _ _ => rfl, Analysis.kindSummary, Analysis.kindEntries_eq]
    simp only [List.isEmpty_iff, List.map_eq_nil_iff]
  · rw [resolve_of_computed h fun _ _ => rfl, Analysis.regionSummary,
      Analysis.regionSentences_eq hregions (Row.kind_ne_allSets hrows)]
    simp only [List.isEmpty_iff, List.map_eq_nil_iff]

end TokenMap

namespace Plot

/-- Rows of four sets, each with the name of its members: four in one set, one in three sets and one
in none. -/
def foursomeRows : List Row :=
  [("d", 3), ("abc", 2), ("a", 9), ("", 4), ("b", 3), ("c", 5)].map fun (name, size) =>
    .classified ⟨name, size, 0, .ofNat name.length, .ofNames (name.toList.map .singleton)⟩ 4

/-- A plot of these rows. -/
def foursome : Plot where
  sets := ["a", "b", "c", "d"]
  sizes := .ofList [("a", 11), ("b", 5), ("c", 7), ("d", 3)]
  visible := foursomeRows
  rows := foursomeRows
  faultless := by decide +kernel

end Plot

theorem TokenMap.resolve_kindSummary_foursome :
    (∀ row ∈ Plot.foursome.visible, ∃ record, row = .classified record Plot.foursome.setCount) ∧
    ∃ map, standard .foursome default = .ok map ∧
      map.resolve Token.kindSummary.name =
        "4 individual set intersections (d, a, b and 1 other) and 1 medium set intersection (abc)" ∧
      ∃ accounts : List KindAccount, (accounts.map (·.count)).sum = 5 ∧
        (∀ account ∈ accounts, account.Of Plot.foursome.visible) ∧
        map.resolve Token.kindSummary.name = Text.joinList (accounts.map (·.text)) ∧
        map.resolve Token.regionSummary.name =
          ". ".intercalate (accounts.map (·.regionText map.analysis.regions)) := by
  have hrows : ∀ row ∈ Plot.foursome.visible,
      ∃ record, row = .classified record Plot.foursome.setCount :=
    List.forall_mem_map.mpr fun entry _ => ⟨_, rfl⟩
  obtain ⟨map, hmap⟩ : ∃ map, standard .foursome default = .ok map := by
    refine (exists_standard_iff ?_ ?_).mpr ?_ <;> decide +kernel
  obtain ⟨accounts, -, -, hof, hcount, hkinds, hregions⟩ := resolve_kindSummary hmap hrows
  have hfive : (accounts.map (·.count)).sum = 5 := hcount.trans (by decide +kernel)
  have hcons : accounts ≠ [] := by
    rintro rfl
    cases hfive
  rw [if_neg hcons] at hkinds hregions
  exact ⟨hrows, map, hmap, resolve_of_ofPlot hmap (fun _ _ => rfl) (by decide +kernel), accounts,
    hfive, hof, hkinds, hregions⟩

end UpSetProse
