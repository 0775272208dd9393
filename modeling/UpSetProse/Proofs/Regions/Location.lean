import UpSetProse.Proofs.Totals

/-!
# Where kinds of rows are located

Rows are not lost on the way from their region to the regions of their kind: a region has a share of
a kind exactly if it holds a row of it, and a kind is given some of the regions that have a share of
it, whatever the percentages. So the kinds that lie somewhere are the kinds of the rows.
-/

namespace UpSetProse

/-- Some row is of the kind. -/
def Kind.OccursIn (kind : Kind) (rows : List Row) : Prop := ∃ row ∈ rows, row.kind = kind

namespace RegionRows

/-- A kind is one of the rows exactly if some region holds a row of it. -/
theorem exists_occursIn_members_iff {rows : List Row} {kind : Kind} :
    (∃ region, kind.OccursIn ((ofRows rows).members region)) ↔ kind.OccursIn rows := by
  constructor
  · rintro ⟨region, row, hrow, hkind⟩
    exact ⟨row, exists_mem_members_iff.mp ⟨region, hrow⟩, hkind⟩
  · rintro ⟨row, hrow, hkind⟩
    obtain ⟨region, hregion⟩ := exists_mem_members_iff.mpr hrow
    exact ⟨region, row, hregion, hkind⟩

end RegionRows

namespace RegionShare

/-- A kind has a total exactly if there is a row of it, be its size zero. -/
theorem isSome_of_kindTotal {rows : List Row} {kind : Kind} {sum : Option Size}
    (h : kindTotal rows kind = .ok sum) : sum.isSome = true ↔ kind.OccursIn rows := by
  have hnone : (ofKind rows kind).isEmpty = true ↔ ¬ kind.OccursIn rows := by
    simp [ofKind, Kind.OccursIn]
  simp only [kindTotal] at h
  split at h
  · rename_i hempty
    cases h
    exact iff_of_false Bool.false_ne_true (hnone.mp hempty)
  · rename_i hoccurs
    obtain ⟨total, _, rfl⟩ := map_eq_ok.mp h
    exact iff_of_true rfl (not_not.mp (mt hnone.mpr hoccurs))

theorem mem_sharingKinds_iff {kind : Kind} : kind ∈ sharingKinds ↔ kind ≠ .empty := by
  cases kind <;> decide

/-- What the shares of some rows list. -/
theorem lists_of_ofRows {rows : List Row} {share : RegionShare} (h : ofRows rows = .ok share) :
    (∀ kind, (share.percentage kind).isSome = true ↔ kind ≠ .empty ∧ kind.OccursIn rows) ∧
      (share.emptySize.isSome = true ↔ Kind.empty.OccursIn rows) := by
  obtain ⟨emptySize, hempty, h⟩ := bind_eq_ok.mp h
  obtain ⟨totals, htotals, h⟩ := bind_eq_ok.mp h
  obtain ⟨pool, _, h⟩ := bind_eq_ok.mp h
  obtain rfl := pure_eq_ok.mp h
  refine ⟨fun kind => ?_, isSome_of_kindTotal hempty⟩
  rw [Option.isSome_map, ← mem_sharingKinds_iff]
  constructor
  · intro hsome
    obtain ⟨total, htotal⟩ := Option.isSome_iff_exists.mp hsome
    obtain ⟨hkind, hsum⟩ :=
      (lookup_eq_some_iff_of_mapM htotals).mp (Option.join_eq_some_iff.mp htotal)
    exact ⟨hkind, (isSome_of_kindTotal hsum).mp rfl⟩
  · rintro ⟨hkind, hoccurs⟩
    obtain ⟨entry, hentry⟩ := exists_mapM_eq_ok.mp ⟨totals, htotals⟩ kind hkind
    obtain ⟨sum, hsum, _⟩ := bind_eq_ok.mp hentry
    rw [(lookup_eq_some_iff_of_mapM htotals).mpr ⟨hkind, hsum⟩]
    exact (isSome_of_kindTotal hsum).mpr hoccurs

end RegionShare

theorem Kind.mem_all (kind : Kind) : kind ∈ (Keyword.all : List Kind) := by
  cases kind <;> decide

/-- A share is left out if it lists nothing. -/
theorem RegionShare.isEmpty_iff {share : RegionShare} :
    share.isEmpty = true ↔ (∀ kind, share.percentage kind = none) ∧ share.emptySize = none := by
  simp [isEmpty, Kind.mem_all]

/-- The shares of the regions list the kinds of the rows in each region. -/
theorem RegionRows.lists_of_shares {regions : RegionRows} {shares : RegionShares}
    (h : regions.shares = .ok shares) (region : Region) :
    (∀ kind, (shares region).any (fun share => (share.percentage kind).isSome) = true ↔
      kind ≠ .empty ∧ kind.OccursIn (regions.members region)) ∧
    ((shares region).any (fun share => share.emptySize.isSome) = true ↔
      Kind.empty.OccursIn (regions.members region)) := by
  obtain ⟨entries, hentries, h⟩ := bind_eq_ok.mp h
  obtain rfl := pure_eq_ok.mp h
  obtain ⟨entry, hentry⟩ := exists_mapM_eq_ok.mp ⟨entries, hentries⟩ region region.mem_all
  obtain ⟨share, hshare, _⟩ := bind_eq_ok.mp hentry
  obtain ⟨hkinds, hempty⟩ := RegionShare.lists_of_ofRows hshare
  have hlookup : entries.lookup region = some share :=
    (lookup_eq_some_iff_of_mapM hentries).mpr ⟨region.mem_all, hshare⟩
  simp only [hlookup, ← hkinds, ← hempty]
  cases hlists : share.isEmpty with
  | false => simp [hlists]
  | true =>
    obtain ⟨hnoKind, hnoEmpty⟩ := RegionShare.isEmpty_iff.mp hlists
    simp [hlists, hnoKind, hnoEmpty]

namespace RegionMap

/-- The first region with the greatest percentage is one of them. -/
theorem mem_of_best? {present : List (Region × Double)} {best : Region × Double}
    (h : best? present = some best) : best ∈ present := by
  cases present with
  | nil => cases h
  | cons first rest =>
    obtain rfl := Option.some.inj h
    clear h
    induction rest generalizing first with
    | nil => exact List.mem_cons_self
    | cons next rest ih =>
      rw [List.foldl_cons]
      rcases List.mem_cons.mp (ih (better first next)) with heq | hrest
      · rw [heq]
        unfold better
        split <;> simp
      · exact List.mem_cons_of_mem _ (List.mem_cons_of_mem _ hrest)

/-- The regions given to a kind are some of those where it is present, in the same order. -/
theorem chosen_sublist (present : List (Region × Double)) :
    (chosen present).Sublist (present.map (·.1)) := by
  unfold chosen
  dsimp only
  split
  · cases hbest : best? present with
    | none => exact List.nil_sublist _
    | some best => exact List.singleton_sublist.mpr (List.mem_map_of_mem (mem_of_best? hbest))
  · exact List.filter_sublist.map _

/-- There are such regions if the kind is present anywhere. -/
theorem chosen_eq_nil_iff {present : List (Region × Double)} :
    chosen present = [] ↔ present = [] := by
  constructor
  · intro h
    unfold chosen at h
    dsimp only at h
    split at h
    · cases present with
      | nil => rfl
      | cons first rest => cases h
    · rename_i hdominated
      exact absurd (List.isEmpty_iff.mpr (List.map_eq_nil_iff.mp h)) hdominated
  · rintro rfl
    rfl

/-- A kind is present in the regions that list it, in their order. -/
theorem map_fst_present (shares : RegionShares) (kind : Kind) :
    (present shares kind).map (·.1) = (Keyword.all : List Region).filter fun region =>
      (shares region).any fun share => (share.percentage kind).isSome := by
  unfold present
  induction (Keyword.all : List Region) with
  | nil => rfl
  | cons region regions ih =>
    rw [List.filterMap_cons, List.filter_cons, ← ih]
    cases shares region with
    | none => rfl
    | some share =>
      cases hkind : share.percentage kind <;> simp [hkind]

/-- The empty intersection is assigned to the regions that hold one, if there are any. -/
theorem regions?_select_empty (shares : RegionShares) :
    (select shares).regions? .empty =
      if holdingEmpty shares = [] then none else some (holdingEmpty shares) := by
  simp only [select, List.isEmpty_iff]

/-- Any other kind is assigned to those that are chosen, if it is present anywhere. -/
theorem regions?_select {shares : RegionShares} {kind : Kind} (h : kind ≠ .empty) :
    (select shares).regions? kind =
      if present shares kind = [] then none else some (chosen (present shares kind)) := by
  cases kind with
  | empty => exact absurd rfl h
  | individual | low | medium | highOrder | allSets => simp only [select, List.isEmpty_iff]

/-- An assignment has the regions that the map has for its kind. -/
theorem mem_assignments_iff {map : RegionMap} {kind : Kind} {regions : List Region} :
    (kind, regions) ∈ map.assignments ↔ map.regions? kind = some regions := by
  simp only [assignments, List.mem_filterMap, Option.map_eq_some_iff, Prod.mk.injEq, Kind.mem_all,
    true_and]
  constructor
  · rintro ⟨_, _, h, rfl, rfl⟩
    exact h
  · intro h
    exact ⟨kind, regions, h, rfl, rfl⟩

/-- The kinds with an assignment are those that the map has regions for. -/
theorem mem_map_fst_assignments_iff {map : RegionMap} {kind : Kind} :
    kind ∈ map.assignments.map (·.1) ↔ (map.regions? kind).isSome = true := by
  rw [Option.isSome_iff_exists, List.mem_map]
  constructor
  · rintro ⟨⟨_, regions⟩, hmem, rfl⟩
    exact ⟨regions, mem_assignments_iff.mp hmem⟩
  · rintro ⟨regions, hregions⟩
    exact ⟨(kind, regions), mem_assignments_iff.mpr hregions, rfl⟩

/-- Assignments are listed in the order of their kinds. -/
theorem assignments_eq (map : RegionMap) :
    map.assignments = ((Keyword.all : List Kind).filter fun kind =>
      (map.regions? kind).isSome).map fun kind => (kind, map.regions kind) := by
  unfold assignments regions
  induction (Keyword.all : List Kind) with
  | nil => rfl
  | cons kind kinds ih =>
    rw [List.filterMap_cons, List.filter_cons, ih]
    cases h : map.regions? kind with
    | none => rfl
    | some regions => simp [h]

variable {rows : List Row} {map : RegionMap}

/-- A kind is assigned to some of the regions that hold a row of it, to one at least, and it is not
assigned if there are none; the empty intersection is assigned to all of them. -/
theorem regions?_of_ofRows (h : ofRows rows = .ok map) (kind : Kind) :
    ∃ occupied, occupied.Sublist (Keyword.all : List Region) ∧
      (∀ region, region ∈ occupied ↔ kind.OccursIn ((RegionRows.ofRows rows).members region)) ∧
      (map.regions? kind = none ∧ occupied = [] ∨ ∃ regions, map.regions? kind = some regions ∧
        regions ≠ [] ∧ regions.Sublist occupied ∧ (kind = .empty → regions = occupied)) := by
  obtain ⟨shares, hshares, rfl⟩ := map_eq_ok.mp h
  by_cases hkind : kind = .empty
  · subst hkind
    refine ⟨holdingEmpty shares, List.filter_sublist, fun region => ?_, ?_⟩
    · simp only [holdingEmpty, List.mem_filter, region.mem_all, true_and]
      exact (RegionRows.lists_of_shares hshares region).2
    · rw [regions?_select_empty]
      by_cases hnil : holdingEmpty shares = []
      · exact .inl ⟨if_pos hnil, hnil⟩
      · exact .inr ⟨_, if_neg hnil, hnil, .refl _, fun _ => rfl⟩
  · refine ⟨(present shares kind).map (·.1), ?_, fun region => ?_, ?_⟩
    · rw [map_fst_present]
      exact List.filter_sublist
    · simp only [map_fst_present, List.mem_filter, region.mem_all, true_and]
      exact ((RegionRows.lists_of_shares hshares region).1 kind).trans (and_iff_right hkind)
    · rw [regions?_select hkind]
      by_cases hnil : present shares kind = []
      · exact .inl ⟨if_pos hnil, List.map_eq_nil_iff.mpr hnil⟩
      · exact .inr ⟨_, if_neg hnil, mt chosen_eq_nil_iff.mp hnil, chosen_sublist _,
          fun hempty => absurd hempty hkind⟩

/-- How the kinds of some rows are located. -/
structure Located (rows : List Row) (map : RegionMap) : Prop where
  /-- The kinds that lie somewhere are exactly those of the rows. -/
  kinds : ∀ kind, kind ∈ map.assignments.map (·.1) ↔ kind.OccursIn rows
  /-- They lie in one or more regions, listed once and in order, that hold a row of the kind. -/
  regions : ∀ kind regions, (kind, regions) ∈ map.assignments →
    regions ≠ [] ∧ regions.Sublist Keyword.all ∧
      ∀ region ∈ regions, kind.OccursIn ((RegionRows.ofRows rows).members region)
  /-- A kind whose rows are all in one region lies in just this region. -/
  single : ∀ kind region, kind.OccursIn rows →
    (∀ other, kind.OccursIn ((RegionRows.ofRows rows).members other) → other = region) →
    (kind, [region]) ∈ map.assignments
  /-- The empty intersection lies in every region that holds one. -/
  empty : ∀ region, region ∈ map.regions .empty ↔
    Kind.empty.OccursIn ((RegionRows.ofRows rows).members region)
  /-- Nothing lies anywhere exactly if there are no rows. -/
  isEmpty : map.isEmpty = true ↔ rows = []

/-- A kind is assigned exactly if there is a row of it. -/
theorem isSome_regions?_iff (h : ofRows rows = .ok map) (kind : Kind) :
    (map.regions? kind).isSome = true ↔ kind.OccursIn rows := by
  obtain ⟨occupied, -, hoccupied, hassigned⟩ := regions?_of_ofRows h kind
  rw [← RegionRows.exists_occursIn_members_iff]
  simp only [← hoccupied]
  rcases hassigned with ⟨hnone, rfl⟩ | ⟨regions, hsome, hne, hsublist, -⟩
  · rw [hnone]
    simp
  · obtain ⟨region, hregion⟩ := List.exists_mem_of_ne_nil _ hne
    rw [hsome]
    exact iff_of_true rfl ⟨region, hsublist.subset hregion⟩

/-- The regions that a kind is assigned to hold a row of it. -/
theorem occupied_of_regions? (h : ofRows rows = .ok map) {kind : Kind} {regions : List Region}
    (hregions : map.regions? kind = some regions) :
    regions ≠ [] ∧ regions.Sublist Keyword.all ∧
      ∀ region ∈ regions, kind.OccursIn ((RegionRows.ofRows rows).members region) := by
  obtain ⟨occupied, hall, hoccupied, hassigned⟩ := regions?_of_ofRows h kind
  rcases hassigned with ⟨hnone, -⟩ | ⟨_, hsome, hne, hsublist, -⟩
  · cases hnone.symm.trans hregions
  · obtain rfl := Option.some.inj (hsome.symm.trans hregions)
    exact ⟨hne, hsublist.trans hall,
      fun region hregion => (hoccupied region).mp (hsublist.subset hregion)⟩

/-- Rows that are analysed without an overflow are located. -/
theorem located_of_ofRows (h : ofRows rows = .ok map) : map.Located rows := by
  have hkinds (kind : Kind) : kind ∈ map.assignments.map (·.1) ↔ kind.OccursIn rows :=
    mem_map_fst_assignments_iff.trans (isSome_regions?_iff h kind)
  constructor
  case kinds => exact hkinds
  case regions =>
    intro kind regions hmem
    exact occupied_of_regions? h (mem_assignments_iff.mp hmem)
  case single =>
    intro kind region hoccurs honly
    obtain ⟨regions, hregions⟩ :=
      Option.isSome_iff_exists.mp ((isSome_regions?_iff h kind).mpr hoccurs)
    obtain ⟨hne, hall, hheld⟩ := occupied_of_regions? h hregions
    have hnodup : regions.Nodup := hall.nodup (by decide)
    rw [mem_assignments_iff, hregions]
    -- Regions are listed once, so there is only one that they are all equal to.
    cases regions with
    | nil => exact absurd rfl hne
    | cons first others =>
      obtain rfl := honly first (hheld first List.mem_cons_self)
      have hnil : others = [] := by
        refine List.eq_nil_iff_forall_not_mem.mpr fun other hother => ?_
        obtain rfl := honly other (hheld other (List.mem_cons_of_mem _ hother))
        exact (List.nodup_cons.mp hnodup).1 hother
      rw [hnil]
  case empty =>
    intro region
    obtain ⟨occupied, -, hoccupied, hassigned⟩ := regions?_of_ofRows h .empty
    rw [← hoccupied region, RegionMap.regions]
    rcases hassigned with ⟨hnone, rfl⟩ | ⟨regions, hsome, -, -, heq⟩
    · rw [hnone, Option.getD_none]
    · rw [hsome, Option.getD_some, heq rfl]
  case isEmpty =>
    rw [isEmpty, List.isEmpty_iff, ← List.map_eq_nil_iff (f := (·.1))]
    simp only [List.eq_nil_iff_forall_not_mem, hkinds]
    exact ⟨fun hnone row hrow => hnone row.kind ⟨row, hrow, rfl⟩,
      fun hnone kind ⟨row, hrow, _⟩ => hnone row hrow⟩

/-- The kinds of rows are located unless a total of a region does not fit into 64 bits: that of the
empty intersections, or that of all its other rows. -/
theorem ofRows_locates (rows : List Row) :
    ((∃ map, ofRows rows = .ok map) ↔
      ∀ region, RegionShare.SumsFit ((RegionRows.ofRows rows).members region)) ∧
    ∀ map, ofRows rows = .ok map → map.Located rows := by
  refine ⟨?_, fun map hmap => located_of_ofRows hmap⟩
  simp only [← RegionShare.exists_ofRows_iff]
  rw [← RegionRows.exists_shares_iff]
  constructor
  · rintro ⟨map, hmap⟩
    obtain ⟨shares, hshares, _⟩ := map_eq_ok.mp hmap
    exact ⟨shares, hshares⟩
  · rintro ⟨shares, hshares⟩
    exact ⟨_, map_eq_ok.mpr ⟨shares, hshares, rfl⟩⟩

/-- Rows without elements, one of them of all sets and one of none. -/
def weightless : List Row :=
  [⟨"both", 0, 0, 2, .allSets, .ofNames ["a", "b"], 2⟩,
    ⟨"a", 0, 0, 1, .individual, .ofNames ["a"], 2⟩, ⟨"none", 0, 0, 0, .empty, .empty, 2⟩]

theorem ofRows_locates_weightless :
    ∃ map, ofRows weightless = .ok map ∧ map.Located weightless := by
  obtain ⟨map, hmap⟩ : ∃ map, ofRows weightless = .ok map := exists_eq_ok (by decide +kernel)
  exact ⟨map, hmap, (ofRows_locates weightless).2 map hmap⟩

end RegionMap

end UpSetProse
