import Mathlib.Algebra.GroupWithZero.Nat
import Mathlib.Algebra.Order.BigOperators.Group.List
import Mathlib.Algebra.Order.Group.Nat
import UpSetProse.Proofs.Outcomes
import UpSetProse.Proofs.Regions.Bucket
import UpSetProse.Proofs.Token.Map

/-!
# Totals that fit

All sizes that an analysis adds up belong to a part of the visible rows in which no row is counted
twice. No such total overflows unless the one of all visible rows does, which a token map takes as
well. So the two totals that percentages are taken of decide whether a map can be built at all, and
whoever takes them again later cannot fail.
-/

namespace UpSetProse

namespace Size

theorem exactTotal_eq_sum (sizes : List Size) :
    exactTotal sizes = (sizes.map UInt64.toNat).sum := rfl

/-- A total is returned exactly if it is the exact one. -/
theorem total_eq_ok_iff {sizes : List Size} {sum : Size} :
    total sizes = .ok sum ↔ sum.toNat = exactTotal sizes := by
  unfold total
  split
  · rename_i hfits
    rw [Except.ok.injEq, ← UInt64.toNat_inj, UInt64.toNat_ofNat_of_lt' hfits]
    exact eq_comm
  · rename_i hover
    refine iff_of_false nofun fun heq => hover ?_
    rw [← heq]
    exact sum.toNat_lt

/-- A total that fits is returned. -/
theorem exists_total_eq_ok {sizes : List Size} (h : exactTotal sizes < UInt64.size) :
    ∃ sum, total sizes = .ok sum ∧ sum.toNat = exactTotal sizes := by
  have htotal := total_eq_ok_iff.mpr (UInt64.toNat_ofNat_of_lt' h)
  exact ⟨_, htotal, total_eq_ok_iff.mp htotal⟩

end Size

namespace Row

/-- The exact total size of rows. -/
def exactSize (rows : List Row) : Nat := Size.exactTotal (rows.map (·.size))

theorem exactSize_cons (row : Row) (rows : List Row) :
    exactSize (row :: rows) = row.size.toNat + exactSize rows := rfl

theorem exactSize_of_perm {rows others : List Row} (h : rows.Perm others) :
    exactSize rows = exactSize others := by
  simp only [exactSize, Size.exactTotal_eq_sum]
  exact ((h.map _).map _).sum_eq

/-- Some of the rows, in whatever order, have no larger total. -/
theorem exactSize_le_of_subperm {part rows : List Row} (h : part.Subperm rows) :
    exactSize part ≤ exactSize rows := by
  obtain ⟨same, hperm, hsublist⟩ := h
  calc exactSize part
    _ = exactSize same := (exactSize_of_perm hperm).symm
    _ ≤ exactSize rows := by
      simp only [exactSize, Size.exactTotal_eq_sum]
      exact ((hsublist.map _).map _).sum_le_sum fun _ _ => Nat.zero_le _

theorem exactSize_filter_le (keep : Row → Bool) (rows : List Row) :
    exactSize (rows.filter keep) ≤ exactSize rows :=
  exactSize_le_of_subperm List.filter_sublist.subperm

/-- The total of the rows of one kind or of several others is that of the one and of the others. -/
theorem exactSize_filter_kind_cons {kind : Kind} {kinds : List Kind} (h : kind ∉ kinds)
    (rows : List Row) :
    exactSize (rows.filter fun row => row.kind ∈ kind :: kinds) =
      exactSize (RegionShare.ofKind rows kind) +
        exactSize (rows.filter fun row => row.kind ∈ kinds) := by
  induction rows with
  | nil => rfl
  | cons row rows ih =>
    simp only [RegionShare.ofKind, List.mem_cons, Bool.decide_or] at ih ⊢
    by_cases hkind : row.kind = kind
    · subst hkind
      simp [h, exactSize_cons, ih, Nat.add_assoc]
    · by_cases hmem : row.kind ∈ kinds
      · simp [hkind, hmem, exactSize_cons, ih, Nat.add_left_comm]
      · simp [hkind, hmem, ih]

end Row

open Row (exactSize)

namespace RegionShare

/-- The total of a kind is the exact one; there is none exactly without a row of the kind. -/
theorem kindTotal_eq_ok {rows : List Row} {kind : Kind} {sum : Option Size}
    (h : kindTotal rows kind = .ok sum) :
    sum.elim 0 UInt64.toNat = exactSize (ofKind rows kind) := by
  simp only [kindTotal] at h
  split at h
  · rename_i hempty
    cases h
    rw [List.isEmpty_iff.mp hempty]
    rfl
  · obtain ⟨total, htotal, rfl⟩ := map_eq_ok.mp h
    exact Size.total_eq_ok_iff.mp htotal

/-- The total of a kind is taken exactly if it fits. -/
theorem exists_kindTotal_iff {rows : List Row} {kind : Kind} :
    (∃ sum, kindTotal rows kind = .ok sum) ↔ exactSize (ofKind rows kind) < UInt64.size := by
  constructor
  · rintro ⟨sum, hsum⟩
    rw [← kindTotal_eq_ok hsum]
    cases sum with
    | none => decide
    | some sum => exact sum.toNat_lt
  · intro h
    simp only [kindTotal]
    split
    · exact ⟨none, rfl⟩
    · obtain ⟨sum, hsum, _⟩ := Size.exists_total_eq_ok h
      exact ⟨some sum, map_eq_ok.mpr ⟨sum, hsum, rfl⟩⟩

/-- The totals of distinct kinds add up to the total of the rows of these kinds. -/
theorem exactTotal_pool {rows : List Row} {kinds : List Kind} (hnodup : kinds.Nodup)
    {totals : List (Kind × Option Size)}
    (h : kinds.mapM (fun kind => do return (kind, ← kindTotal rows kind)) = .ok totals) :
    Size.exactTotal (totals.filterMap (·.2)) =
      exactSize (rows.filter fun row => row.kind ∈ kinds) := by
  induction kinds generalizing totals with
  | nil =>
    obtain rfl := pure_eq_ok.mp h
    simp [exactSize]
  | cons kind kinds ih =>
    rw [List.nodup_cons] at hnodup
    rw [List.mapM_cons] at h
    obtain ⟨entry, hentry, h⟩ := bind_eq_ok.mp h
    obtain ⟨rest, hrest, h⟩ := bind_eq_ok.mp h
    obtain rfl := pure_eq_ok.mp h
    obtain ⟨sum, hsum, hentry⟩ := bind_eq_ok.mp hentry
    obtain rfl := pure_eq_ok.mp hentry
    rw [Row.exactSize_filter_kind_cons hnodup.1, ← kindTotal_eq_ok hsum, ← ih hnodup.2 hrest]
    cases sum with
    | none => simp
    | some sum => rfl

/-- The two totals that the shares of some rows need: that of the empty intersections, and that of
the other rows, which bounds the one of each kind. -/
def SumsFit (rows : List Row) : Prop :=
  exactSize (ofKind rows .empty) < UInt64.size ∧
    exactSize (rows.filter fun row => row.kind ∈ sharingKinds) < UInt64.size

/-- The rows of a kind are among those of several kinds. -/
theorem exactSize_ofKind_le {kind : Kind} {kinds : List Kind} (h : kind ∈ kinds)
    (rows : List Row) :
    exactSize (ofKind rows kind) ≤ exactSize (rows.filter fun row => row.kind ∈ kinds) := by
  refine Row.exactSize_le_of_subperm (List.Sublist.subperm ?_)
  refine List.monotone_filter_right rows fun row hrow => ?_
  rw [beq_iff_eq.mp hrow]
  exact decide_eq_true h

/-- The shares of rows are determined exactly if these totals fit. -/
theorem exists_ofRows_iff {rows : List Row} :
    (∃ share, ofRows rows = .ok share) ↔ SumsFit rows := by
  constructor
  · rintro ⟨share, h⟩
    obtain ⟨emptySize, hempty, h⟩ := bind_eq_ok.mp h
    obtain ⟨totals, htotals, h⟩ := bind_eq_ok.mp h
    obtain ⟨pool, hpool, _⟩ := bind_eq_ok.mp h
    refine ⟨exists_kindTotal_iff.mp ⟨emptySize, hempty⟩, ?_⟩
    rw [← exactTotal_pool (by decide) htotals, ← Size.total_eq_ok_iff.mp hpool]
    exact pool.toNat_lt
  · rintro ⟨hempty, hothers⟩
    obtain ⟨emptySize, hempty⟩ := exists_kindTotal_iff.mpr hempty
    obtain ⟨totals, htotals⟩ : ∃ totals, sharingKinds.mapM
        (fun kind => do return (kind, ← kindTotal rows kind)) = .ok totals := by
      refine exists_mapM_eq_ok.mpr fun kind hkind => ?_
      obtain ⟨sum, hsum⟩ := exists_kindTotal_iff.mpr
        (Nat.lt_of_le_of_lt (exactSize_ofKind_le hkind rows) hothers)
      exact ⟨_, bind_eq_ok.mpr ⟨sum, hsum, rfl⟩⟩
    rw [← exactTotal_pool (by decide) htotals] at hothers
    obtain ⟨pool, hpool, _⟩ := Size.exists_total_eq_ok hothers
    exact ⟨_, bind_eq_ok.mpr ⟨emptySize, hempty, bind_eq_ok.mpr ⟨totals, htotals,
      bind_eq_ok.mpr ⟨pool, hpool, rfl⟩⟩⟩⟩

/-- They do if the total of all rows fits. -/
theorem sumsFit_of_lt {rows : List Row} (h : exactSize rows < UInt64.size) : SumsFit rows :=
  ⟨Nat.lt_of_le_of_lt (Row.exactSize_filter_le _ rows) h,
    Nat.lt_of_le_of_lt (Row.exactSize_filter_le _ rows) h⟩

end RegionShare

theorem Region.mem_all (region : Region) : region ∈ (Keyword.all : List Region) := by
  cases region <;> decide

/-- The regions have shares exactly if each of them has. -/
theorem RegionRows.exists_shares_iff {regions : RegionRows} :
    (∃ shares, regions.shares = .ok shares) ↔
      ∀ region, ∃ share, RegionShare.ofRows (regions.members region) = .ok share := by
  constructor
  · rintro ⟨shares, h⟩ region
    obtain ⟨entries, hentries, _⟩ := bind_eq_ok.mp h
    obtain ⟨entry, hentry⟩ := exists_mapM_eq_ok.mp ⟨entries, hentries⟩ region region.mem_all
    obtain ⟨share, hshare, _⟩ := bind_eq_ok.mp hentry
    exact ⟨share, hshare⟩
  · intro h
    obtain ⟨entries, hentries⟩ : ∃ entries, (Keyword.all : List Region).mapM (fun region => do
        return (region, ← RegionShare.ofRows (regions.members region))) = .ok entries := by
      refine exists_mapM_eq_ok.mpr fun region _ => ?_
      obtain ⟨share, hshare⟩ := h region
      exact ⟨_, bind_eq_ok.mpr ⟨share, hshare, rfl⟩⟩
    exact ⟨_, bind_eq_ok.mpr ⟨entries, hentries, rfl⟩⟩

/-- A side has the rows that it was made of. -/
theorem DeviationSide.ofRows_eq_ok {members : List Row} {side : DeviationSide}
    (h : ofRows members = .ok side) :
    side.count = members.length ∧ side.totalSize.toNat = exactSize members := by
  obtain ⟨total, htotal, h⟩ := bind_eq_ok.mp h
  obtain rfl := pure_eq_ok.mp h
  exact ⟨rfl, Size.total_eq_ok_iff.mp htotal⟩

/-- Every sum of sizes that the analyses of some rows take fits, and those that are kept are exact:
by degree, by the sign of the deviation, and by kind in each region (where the empty intersection is
a kind as well), with the pool that the kinds of a region share. -/
structure Row.Totalled (rows : List Row) : Prop where
  degree : ∀ degree, ∃ summary, DegreeSummary.ofRows rows degree = .ok summary ∧
    summary.totalSize.toNat = exactSize (DegreeSummary.members rows degree)
  deviation : ∃ split, DeviationSplit.ofRows rows = .ok split ∧
    split.positive.totalSize.toNat = exactSize (rows.filter (·.isAboveExpected)) ∧
    split.negative.totalSize.toNat = exactSize (rows.filter (·.isBelowExpected))
  kind : ∀ region kind, ∃ sum,
    RegionShare.kindTotal ((RegionRows.ofRows rows).members region) kind = .ok sum ∧
    sum.elim 0 UInt64.toNat =
      exactSize (RegionShare.ofKind ((RegionRows.ofRows rows).members region) kind)
  pool : ∀ region, exactSize (((RegionRows.ofRows rows).members region).filter fun row =>
    row.kind ∈ RegionShare.sharingKinds) < UInt64.size
  share : ∀ region, ∃ share,
    RegionShare.ofRows ((RegionRows.ofRows rows).members region) = .ok share

namespace Row

variable {rows : List Row}

theorem exists_degreeSummary (h : exactSize rows < UInt64.size) (degree : Nat) :
    ∃ summary, DegreeSummary.ofRows rows degree = .ok summary ∧
      summary.totalSize.toNat = exactSize (DegreeSummary.members rows degree) := by
  obtain ⟨sum, hsum, hexact⟩ := Size.exists_total_eq_ok (Nat.lt_of_le_of_lt
    (exactSize_filter_le (fun row => row.degree.toNat == degree) rows) h)
  exact ⟨_, bind_eq_ok.mpr ⟨sum, hsum, rfl⟩, hexact⟩

theorem exists_deviationSide (h : exactSize rows < UInt64.size) (keep : Row → Bool) :
    ∃ side, DeviationSide.ofRows (rows.filter keep) = .ok side ∧
      side.totalSize.toNat = exactSize (rows.filter keep) := by
  obtain ⟨sum, hsum, hexact⟩ := Size.exists_total_eq_ok
    (Nat.lt_of_le_of_lt (exactSize_filter_le keep rows) h)
  exact ⟨_, bind_eq_ok.mpr ⟨sum, hsum, rfl⟩, hexact⟩

/-- If the total of all rows fits, so does every total that an analysis takes of them. -/
theorem totalled_of_lt (h : exactSize rows < UInt64.size) : Totalled rows := by
  have hregion (region : Region) :
      exactSize ((RegionRows.ofRows rows).members region) < UInt64.size :=
    Nat.lt_of_le_of_lt (exactSize_le_of_subperm (RegionRows.subperm_members rows region)) h
  constructor
  case degree => exact exists_degreeSummary h
  case deviation =>
    obtain ⟨positive, hpositive, hpositiveSize⟩ := exists_deviationSide h (·.isAboveExpected)
    obtain ⟨negative, hnegative, hnegativeSize⟩ := exists_deviationSide h (·.isBelowExpected)
    exact ⟨_, bind_eq_ok.mpr ⟨positive, hpositive, bind_eq_ok.mpr ⟨negative, hnegative, rfl⟩⟩,
      hpositiveSize, hnegativeSize⟩
  case kind =>
    intro region kind
    obtain ⟨sum, hsum⟩ := RegionShare.exists_kindTotal_iff.mpr
      (Nat.lt_of_le_of_lt (exactSize_filter_le _ _) (hregion region))
    exact ⟨sum, hsum, RegionShare.kindTotal_eq_ok hsum⟩
  case pool => exact fun region => Nat.lt_of_le_of_lt (exactSize_filter_le _ _) (hregion region)
  case share =>
    exact fun region => RegionShare.exists_ofRows_iff.mpr
      (RegionShare.sumsFit_of_lt (hregion region))

/-- Rows with all their totals can be analysed. -/
theorem Totalled.exists_ofPlot {plot : Plot} (h : Totalled plot.visible)
    (presentation : Presentation) : ∃ a, Analysis.ofPlot plot presentation = .ok a := by
  obtain ⟨shares, hshares⟩ := RegionRows.exists_shares_iff.mpr h.share
  obtain ⟨summaries, hsummaries⟩ : ∃ summaries, (List.range (Analysis.maxSummarizedDegree + 1)).mapM
      (DegreeSummary.ofRows plot.visible) = .ok summaries := by
    refine exists_mapM_eq_ok.mpr fun degree _ => ?_
    obtain ⟨summary, hsummary, _⟩ := h.degree degree
    exact ⟨summary, hsummary⟩
  obtain ⟨split, hsplit, _⟩ := h.deviation
  exact ⟨_, bind_eq_ok.mpr ⟨_, map_eq_ok.mpr ⟨shares, hshares, rfl⟩,
    bind_eq_ok.mpr ⟨_, bind_eq_ok.mpr ⟨summaries, hsummaries, rfl⟩,
      bind_eq_ok.mpr ⟨split, hsplit, rfl⟩⟩⟩⟩

end Row

/-- The two totals are taken exactly if both of them fit. -/
theorem Analysis.exists_totals_iff (a : Analysis) :
    (∃ totals, a.totals = .ok totals) ↔
      exactSize a.visible < UInt64.size ∧ Size.exactTotal a.plot.sizes.values < UInt64.size := by
  constructor
  · rintro ⟨totals, h⟩
    obtain ⟨sets, hsets, h⟩ := bind_eq_ok.mp h
    obtain ⟨visible, hvisible, _⟩ := bind_eq_ok.mp h
    rw [exactSize, ← Size.total_eq_ok_iff.mp hvisible, ← Size.total_eq_ok_iff.mp hsets]
    exact ⟨visible.toNat_lt, sets.toNat_lt⟩
  · rintro ⟨hvisible, hsets⟩
    obtain ⟨visible, hvisible, _⟩ := Size.exists_total_eq_ok hvisible
    obtain ⟨sets, hsets, _⟩ := Size.exists_total_eq_ok hsets
    exact ⟨_, bind_eq_ok.mpr ⟨sets, hsets, bind_eq_ok.mpr ⟨visible, hvisible, rfl⟩⟩⟩

/-- Once the totals were taken, no share overflows that takes one of them anew. -/
theorem Token.exists_evaluate {a : Analysis} {totals : Totals} (h : a.totals = .ok totals)
    (token : Token) : ∃ text, (token.value a totals).evaluate a = .ok text := by
  obtain ⟨sets, hsets, h⟩ := bind_eq_ok.mp h
  obtain ⟨visible, hvisible, -⟩ := bind_eq_ok.mp h
  have hset (set? : Option (String × Size)) : ∃ text, a.setShare set? = .ok text :=
    ⟨_, map_eq_ok.mpr ⟨sets, hsets, rfl⟩⟩
  have hrow (size : Size) : ∃ text, a.visibleShare size = .ok text :=
    ⟨_, map_eq_ok.mpr ⟨visible, hvisible, rfl⟩⟩
  cases token
  case maxSetShare => exact hset a.largestSet?
  case minSetShare => exact hset a.smallestSet?
  case maxShare => exact hrow a.leadingSize
  case minShare => exact hrow (Row.smallestSize a.visible)
  -- The other values have no total in them.
  all_goals exact ⟨_, rfl⟩

namespace TokenMap

/-- Over a standard map, every token has a text, and this is what is shown for it. -/
theorem evaluate_eq_resolve {plot : Plot} {presentation : Presentation} {map : TokenMap}
    (h : standard plot presentation = .ok map) (name : String) :
    map.evaluate name = .ok (map.resolve name) := by
  obtain ⟨-, -, totals, htotals, hstandard⟩ := standard_eq_ok h
  obtain ⟨text, htext⟩ : ∃ text, map.evaluate name = .ok text := by
    cases hvalue : map.values.get? name with
    | none =>
      refine ⟨"\x7b" ++ name ++ "\x7d", ?_⟩
      simp only [evaluate, hvalue]
    | some value =>
      obtain ⟨token, -, rfl⟩ := (hstandard.get? name value).mp hvalue
      obtain ⟨text, htext⟩ := token.exists_evaluate htotals
      refine ⟨text, ?_⟩
      simp only [evaluate, hvalue, htext]
  rw [resolve, htext, Overflow.shown]

/-- An overflow on the way to a standard map is one of the two totals. -/
theorem standard_eq_overflow_iff {plot : Plot} {presentation : Presentation} :
    standard plot presentation = .error (.overflow .addition) ↔
      UInt64.size ≤ exactSize plot.visible ∨ UInt64.size ≤ Size.exactTotal plot.sizes.values := by
  constructor
  · intro h
    rw [← Nat.not_lt, ← Nat.not_lt, ← not_and_or]
    intro hfits
    rcases bind_eq_error.mp h with hanalysis | ⟨a, ha, htail⟩
    · obtain ⟨overflow, herror, _⟩ := mapError_eq_error.mp hanalysis
      obtain ⟨a, hok⟩ := (Row.totalled_of_lt hfits.1).exists_ofPlot presentation
      cases hok.symm.trans herror
    · obtain ⟨rfl, rfl⟩ := Analysis.ofPlot_eq_ok (mapError_eq_ok.mp ha)
      rcases bind_eq_error.mp htail with htotals | ⟨totals, _, hregister⟩
      · obtain ⟨overflow, herror, _⟩ := mapError_eq_error.mp htotals
        obtain ⟨totals, hok⟩ := a.exists_totals_iff.mpr hfits
        cases hok.symm.trans herror
      · obtain ⟨refused, _, herror⟩ := mapError_eq_error.mp hregister
        cases herror
  · intro hover
    cases ha : Analysis.ofPlot plot presentation with
    | error overflow =>
      cases overflow
      exact bind_eq_error.mpr (.inl (mapError_eq_error.mpr ⟨_, ha, rfl⟩))
    | ok a =>
      obtain ⟨rfl, rfl⟩ := Analysis.ofPlot_eq_ok ha
      refine bind_eq_error.mpr (.inr ⟨a, mapError_eq_ok.mpr ha, ?_⟩)
      cases hsum : a.totals with
      | error overflow =>
        cases overflow
        exact bind_eq_error.mpr (.inl rfl)
      | ok totals =>
        obtain ⟨hvisible, hsets⟩ := a.exists_totals_iff.mp ⟨totals, hsum⟩
        rcases hover with hover | hover
        · exact absurd hvisible (Nat.not_lt.mpr hover)
        · exact absurd hsets (Nat.not_lt.mpr hover)

/-- Building a map overflows exactly if the total of the visible rows or that of the sets does not
fit into 64 bits. Otherwise no other total overflows, neither in an analysis nor in a token that is
resolved later. -/
theorem standard_overflow (plot : Plot) (presentation : Presentation) :
    (standard plot presentation = .error (.overflow .addition) ↔
      UInt64.size ≤ exactSize plot.visible ∨ UInt64.size ≤ Size.exactTotal plot.sizes.values) ∧
    (standard plot presentation ≠ .error (.overflow .addition) → Row.Totalled plot.visible ∧
      ∀ map, standard plot presentation = .ok map →
        ∀ name, map.evaluate name = .ok (map.resolve name)) := by
  refine ⟨standard_eq_overflow_iff, fun hfits => ?_⟩
  rw [Ne, standard_eq_overflow_iff, not_or, Nat.not_le] at hfits
  exact ⟨Row.totalled_of_lt hfits.1, fun map hmap => evaluate_eq_resolve hmap⟩

end TokenMap

/-- A row in one of two sets, which has the name of the set. -/
def Row.sole (name : String) (size : Size) : Row where
  name := name
  size := size
  deviation := 0
  degree := 1
  kind := .individual
  members := .ofNames [name]
  classifiedWith := 2

/-- A plot whose totals are the largest that fit into 64 bits. -/
def Plot.brimful : Plot where
  sets := ["a", "b"]
  sizes := .ofList [("a", 9223372036854775808), ("b", 9223372036854775807)]
  visible := [.sole "a" 9223372036854775808, .sole "b" 9223372036854775807]
  rows := [.sole "a" 9223372036854775808, .sole "b" 9223372036854775807]
  faultless := by decide +kernel

theorem TokenMap.standard_overflow_brimful :
    (standard .brimful default ≠ .error (.overflow .addition) ∧
      Row.exactSize Plot.brimful.visible + 1 = UInt64.size) ∧
    Row.Totalled Plot.brimful.visible ∧
    ∃ map, standard .brimful default = .ok map ∧
      ∀ name, map.evaluate name = .ok (map.resolve name) := by
  obtain ⟨map, hmap⟩ : ∃ map, standard .brimful default = .ok map :=
    exists_eq_ok (by decide +kernel)
  have hfits : standard .brimful default ≠ .error (.overflow .addition) := by
    rw [hmap]
    exact nofun
  obtain ⟨htotalled, hresolve⟩ := (standard_overflow .brimful default).2 hfits
  exact ⟨⟨hfits, by decide +kernel⟩, htotalled, map, hmap, hresolve map hmap⟩

end UpSetProse
