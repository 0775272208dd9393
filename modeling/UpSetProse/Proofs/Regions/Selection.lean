import UpSetProse.Proofs.Double.Order
import UpSetProse.Proofs.Regions.Location

/-!
# Which regions a kind is assigned to

Shares without not-a-number are compared by their values. A kind that some region lists at 35
percent or more is assigned to all such regions. Otherwise the regions that list it are gone through
from the one of larger sizes on, keeping the better one at each step, and what is left is the first
of those with the greatest percentage.
-/

namespace UpSetProse

/-- The first region is the one of larger sizes. -/
def Region.Above (larger smaller : Region) : Prop :=
  [larger, smaller].Sublist (Keyword.all : List Region)

namespace RegionShares

/-- The region lists the kind at this percentage. -/
def Lists (shares : RegionShares) (kind : Kind) (region : Region) (percentage : Double) : Prop :=
  ∃ share, shares region = some share ∧ share.percentage kind = some percentage

/-- The region lists the kind at 35 percent or more. -/
def Dominates (shares : RegionShares) (kind : Kind) (region : Region) : Prop :=
  ∃ percentage, shares.Lists kind region percentage ∧ (35 * Double.one : Nat) ≤ percentage.value

/-- No percentage of the shares is not-a-number. -/
def Numbered (shares : RegionShares) : Prop :=
  ∀ kind region percentage, shares.Lists kind region percentage → percentage.isNaN = false

end RegionShares

namespace RegionMap

/-- The kind is assigned, and these are its regions. -/
def Assigns (map : RegionMap) (kind : Kind) (regions : List Region) : Prop :=
  ∀ others, (kind, others) ∈ map.assignments ↔ others = regions

theorem assigns_of_regions? {map : RegionMap} {kind : Kind} {regions : List Region}
    (h : map.regions? kind = some regions) : map.Assigns kind regions := by
  intro others
  rw [mem_assignments_iff, h, Option.some.injEq, eq_comm]

/-! ## The best entry -/

/-- The first entry with the greatest percentage, between the entries before it and after it. -/
structure FirstGreatest (entries before : List (Region × Double)) (best : Region × Double)
    (after : List (Region × Double)) : Prop where
  split : entries = before ++ best :: after
  less : ∀ entry ∈ before, entry.2.value < best.2.value
  atMost : ∀ entry ∈ after, entry.2.value ≤ best.2.value

namespace FirstGreatest

variable {entries before after : List (Region × Double)} {best next : Region × Double}

theorem singleton (entry : Region × Double) : FirstGreatest [entry] [] entry [] :=
  ⟨rfl, by simp, by simp⟩

theorem le (h : FirstGreatest entries before best after) {entry : Region × Double}
    (hentry : entry ∈ entries) : entry.2.value ≤ best.2.value := by
  rw [h.split, List.mem_append, List.mem_cons] at hentry
  rcases hentry with hbefore | rfl | hafter
  · exact (h.less entry hbefore).le
  · exact le_rfl
  · exact h.atMost entry hafter

/-- A step on to the next entry keeps the best one, or takes the next one if it is better. -/
theorem better (h : FirstGreatest entries before best after) (hbest : best.2.isNaN = false)
    (hnext : next.2.isNaN = false) :
    ∃ before after, FirstGreatest (entries ++ [next]) before (better best next) after := by
  unfold RegionMap.better
  split
  · rename_i hlt
    rw [Double.lt_iff_value_lt hbest hnext] at hlt
    exact ⟨entries, [], rfl, fun entry hentry => (h.le hentry).trans_lt hlt, by simp⟩
  · rename_i hlt
    rw [Double.lt_iff_value_lt hbest hnext, not_lt] at hlt
    refine ⟨before, after ++ [next], ?_, h.less, ?_⟩
    · rw [h.split, List.append_assoc, List.cons_append]
    · rw [List.forall_mem_append, List.forall_mem_singleton]
      exact ⟨h.atMost, hlt⟩

end FirstGreatest

/-- What is left of entries after all steps is the first of the greatest. -/
theorem exists_firstGreatest {entries : List (Region × Double)} {best : Region × Double}
    (hnumbers : ∀ entry ∈ entries, entry.2.isNaN = false) (h : best? entries = some best) :
    ∃ before after, FirstGreatest entries before best after := by
  cases entries with
  | nil => cases h
  | cons first rest =>
    obtain rfl := Option.some.inj h
    clear h
    -- The last entry is the last one to be compared, so the induction is from the right.
    induction rest using List.reverseRecOn with
    | nil => exact ⟨[], [], .singleton first⟩
    | append_singleton rest next ih =>
      rw [← List.cons_append, List.forall_mem_append, List.forall_mem_singleton] at hnumbers
      obtain ⟨before, after, hgreatest⟩ := ih hnumbers.1
      have hmem : rest.foldl better first ∈ first :: rest := mem_of_best? rfl
      rw [List.foldl_append, List.foldl_cons, List.foldl_nil]
      exact hgreatest.better (hnumbers.1 _ hmem) hnumbers.2

/-! ## The regions that list a kind -/

section

variable {shares : RegionShares} {kind : Kind} {region : Region} {percentage : Double}

theorem mem_present_iff :
    (region, percentage) ∈ present shares kind ↔ shares.Lists kind region percentage := by
  simp only [present, List.mem_filterMap, Option.bind_eq_some_iff,
    Option.map_eq_some_iff, Prod.mk.injEq, RegionShares.Lists]
  constructor
  · rintro ⟨_, _, share, hshare, _, hlists, rfl, rfl⟩
    exact ⟨share, hshare, hlists⟩
  · rintro ⟨share, hshare, hlists⟩
    exact ⟨region, region.mem_all, share, hshare, percentage, hlists, rfl, rfl⟩

/-- They are listed from the one of larger sizes on. -/
theorem pairwise_present (shares : RegionShares) (kind : Kind) :
    (present shares kind).Pairwise fun earlier later => earlier.1.Above later.1 := by
  have hall : (Keyword.all : List Region).Pairwise Region.Above :=
    List.pairwise_iff_forall_sublist.mpr id
  have hregions : ((present shares kind).map (·.1)).Sublist (Keyword.all : List Region) := by
    rw [map_fst_present]
    exact List.filter_sublist
  exact List.pairwise_map.mp (hall.sublist hregions)

theorem assignedFrom_le_iff (h : percentage.isNaN = false) :
    assignedFrom.le percentage = true ↔ (35 * Double.one : Nat) ≤ percentage.value := by
  have hfrom : assignedFrom = Double.ofNat 35 := rfl
  rw [hfrom, Double.le_iff_value_le (Double.unsigned_ofNat 35).isNaN h,
    Double.value_ofNat_of_le (by decide)]

/-- The entries that are kept by the threshold are those of the regions that the kind dominates. -/
theorem mem_dominated_iff (hnumbers : shares.Numbered) :
    region ∈ ((present shares kind).filter fun entry => assignedFrom.le entry.2).map (·.1) ↔
      shares.Dominates kind region := by
  simp only [List.mem_map, List.mem_filter, RegionShares.Dominates]
  constructor
  · rintro ⟨⟨_, percentage⟩, ⟨hmem, hle⟩, rfl⟩
    have hlists := mem_present_iff.mp hmem
    exact ⟨percentage, hlists, (assignedFrom_le_iff (hnumbers _ _ _ hlists)).mp hle⟩
  · rintro ⟨percentage, hlists, hle⟩
    have hkept := (assignedFrom_le_iff (hnumbers _ _ _ hlists)).mpr hle
    exact ⟨(region, percentage), ⟨mem_present_iff.mpr hlists, hkept⟩, rfl⟩

/-- Regions of larger sizes list the kind at less than the first of the greatest does. -/
theorem FirstGreatest.lt_of_above {before after : List (Region × Double)}
    {best : Region × Double} (h : FirstGreatest (present shares kind) before best after)
    {earlier : Region} (habove : earlier.Above best.1)
    (hlists : shares.Lists kind earlier percentage) : percentage.value < best.2.value := by
  have hasymm : ∀ a b : Region, a.Above b → ¬ b.Above a ∧ a ≠ b := by
    unfold Region.Above
    intro a b
    cases a <;> cases b <;> decide
  obtain ⟨hnotBelow, hne⟩ := hasymm _ _ habove
  have hpairwise := pairwise_present shares kind
  have hmem := mem_present_iff.mpr hlists
  rw [h.split] at hpairwise hmem
  rcases List.mem_append.mp hmem with hbefore | hrest
  · exact h.less _ hbefore
  · rcases List.mem_cons.mp hrest with rfl | hafter
    · exact absurd rfl hne
    · obtain ⟨-, hbelow, -⟩ := List.pairwise_append.mp hpairwise
      exact absurd (List.rel_of_pairwise_cons hbelow hafter) hnotBelow

theorem chosen_of_dominates (hnumbers : shares.Numbered) (h : shares.Dominates kind region) :
    chosen (present shares kind) =
      ((present shares kind).filter fun entry => assignedFrom.le entry.2).map (·.1) := by
  have hkept := List.map_eq_nil_iff.not.mp (List.ne_nil_of_mem ((mem_dominated_iff hnumbers).mpr h))
  unfold chosen
  dsimp only
  rw [if_neg (List.isEmpty_iff.not.mpr hkept)]

theorem chosen_of_not_dominates (hnumbers : shares.Numbered)
    (h : ∀ region, ¬ shares.Dominates kind region) :
    chosen (present shares kind) = (best? (present shares kind)).toList.map (·.1) := by
  have hnone : ((present shares kind).filter fun entry => assignedFrom.le entry.2).map (·.1) = [] :=
    List.eq_nil_iff_forall_not_mem.mpr fun region hregion =>
      h region ((mem_dominated_iff hnumbers).mp hregion)
  unfold chosen
  dsimp only
  rw [if_pos (List.isEmpty_iff.mpr (List.map_eq_nil_iff.mp hnone))]

/-- A kind that some region lists is assigned to the regions chosen for it. -/
theorem select_assigns_chosen (hkind : kind ≠ .empty) (hpresent : present shares kind ≠ []) :
    (select shares).Assigns kind (chosen (present shares kind)) := by
  refine assigns_of_regions? ?_
  rw [regions?_select hkind, if_neg hpresent]

/-- A kind that some region dominates is assigned to all such regions. -/
theorem assigns_of_dominates (hnumbers : shares.Numbered) (hkind : kind ≠ .empty)
    (h : ∃ region, shares.Dominates kind region) :
    ∃ regions, (select shares).Assigns kind regions ∧
      regions.Sublist (Keyword.all : List Region) ∧
      ∀ region, region ∈ regions ↔ shares.Dominates kind region := by
  obtain ⟨region, hregion⟩ := h
  have hmem (other : Region) :
      other ∈ chosen (present shares kind) ↔ shares.Dominates kind other := by
    rw [chosen_of_dominates hnumbers hregion]
    exact mem_dominated_iff hnumbers
  have hpresent : present shares kind ≠ [] :=
    mt chosen_eq_nil_iff.mpr (List.ne_nil_of_mem ((hmem region).mpr hregion))
  refine ⟨_, select_assigns_chosen hkind hpresent, ?_, hmem⟩
  refine (chosen_sublist _).trans ?_
  rw [map_fst_present]
  exact List.filter_sublist

/-- A kind that is listed but dominated by no region is assigned to the first of the regions with
the greatest percentage. -/
theorem assigns_of_not_dominates (hnumbers : shares.Numbered) (hkind : kind ≠ .empty)
    (hlisted : shares.Lists kind region percentage)
    (h : ∀ region, ¬ shares.Dominates kind region) :
    ∃ best greatest, (select shares).Assigns kind [best] ∧ shares.Lists kind best greatest ∧
      (∀ other percentage, shares.Lists kind other percentage →
        percentage.value ≤ greatest.value) ∧
      ∀ earlier percentage, earlier.Above best → shares.Lists kind earlier percentage →
        percentage.value < greatest.value := by
  have hchosen := chosen_of_not_dominates hnumbers h
  have hmem := mem_present_iff.mpr hlisted
  have hassigns := select_assigns_chosen hkind (List.ne_nil_of_mem hmem)
  cases hbest : best? (present shares kind) with
  | none =>
    rw [hbest] at hchosen
    rw [chosen_eq_nil_iff.mp hchosen] at hmem
    cases hmem
  | some best =>
    rw [hchosen, hbest] at hassigns
    have hnumbered : ∀ entry ∈ present shares kind, entry.2.isNaN = false := fun entry hentry =>
      hnumbers _ _ _ (mem_present_iff.mp hentry)
    obtain ⟨before, after, hgreatest⟩ := exists_firstGreatest hnumbered hbest
    refine ⟨best.1, best.2, hassigns, mem_present_iff.mp (mem_of_best? hbest), ?_, ?_⟩
    · intro other percentage hlists
      exact hgreatest.le (mem_present_iff.mpr hlists)
    · intro earlier percentage habove hlists
      exact hgreatest.lt_of_above habove hlists

end

/-- A kind other than the empty intersection is assigned to no region if none lists it, otherwise to
all regions that list it at 35 percent or more, or, without any such region, to the one that lists
it at the greatest percentage, of several the one of the largest sizes. -/
theorem select_assigns {shares : RegionShares} (hnumbers : shares.Numbered) {kind : Kind}
    (hkind : kind ≠ .empty) :
    ((∀ region percentage, ¬ shares.Lists kind region percentage) →
      ∀ regions, (kind, regions) ∉ (select shares).assignments) ∧
    ((∃ region, shares.Dominates kind region) →
      ∃ regions, (select shares).Assigns kind regions ∧
        regions.Sublist (Keyword.all : List Region) ∧
        ∀ region, region ∈ regions ↔ shares.Dominates kind region) ∧
    (∀ region percentage, shares.Lists kind region percentage →
      (∀ region, ¬ shares.Dominates kind region) →
      ∃ best greatest, (select shares).Assigns kind [best] ∧ shares.Lists kind best greatest ∧
        (∀ other percentage, shares.Lists kind other percentage →
          percentage.value ≤ greatest.value) ∧
        ∀ earlier percentage, earlier.Above best → shares.Lists kind earlier percentage →
          percentage.value < greatest.value) := by
  refine ⟨fun hnowhere regions hassigned => ?_, assigns_of_dominates hnumbers hkind,
    fun _ _ => assigns_of_not_dominates hnumbers hkind⟩
  have hnil : present shares kind = [] := by
    refine List.eq_nil_iff_forall_not_mem.mpr fun entry hentry => ?_
    exact hnowhere entry.1 entry.2 (mem_present_iff.mp hentry)
  rw [mem_assignments_iff, regions?_select hkind, if_pos hnil] at hassigned
  cases hassigned

/-- Three regions that list low sets below the threshold, two of them at the same percentage. -/
def tiedShares : RegionShares
  | .largest => none
  | .large => some ⟨fun | .individual => some 90 | .low => some 10 | _ => none, none⟩
  | .medium => some ⟨fun | .individual => some 80 | .low => some 20 | _ => none, none⟩
  | .small => some ⟨fun | .medium => some 80 | .low => some 20 | _ => none, some 0⟩

theorem numbered_tiedShares : tiedShares.Numbered := by
  rintro kind region percentage ⟨share, hshare, hlists⟩
  cases region <;> cases hshare <;> cases kind <;>
    simp only [Option.some.injEq, reduceCtorEq] at hlists <;> subst hlists <;>
    exact (Double.unsigned_ofNat _).isNaN

/-- Of the two regions with the same percentage it is the one of larger sizes. -/
theorem select_assigns_tied :
    (tiedShares.Numbered ∧ Kind.low ≠ .empty ∧ tiedShares.Lists .low .small 20 ∧
      ∀ region, ¬ tiedShares.Dominates .low region) ∧
    (select tiedShares).Assigns .low [.medium] ∧
    ∃ greatest, tiedShares.Lists .low .medium greatest ∧
      ∀ earlier percentage, earlier.Above .medium → tiedShares.Lists .low earlier percentage →
        percentage.value < greatest.value := by
  have hlists : tiedShares.Lists .low .small 20 := ⟨_, rfl, rfl⟩
  have hdominates : ∀ region, ¬ tiedShares.Dominates .low region := by
    rintro region ⟨percentage, ⟨share, hshare, hlists⟩, hle⟩
    cases region <;> cases hshare <;> simp only [Option.some.injEq] at hlists <;> subst hlists <;>
      revert hle <;> decide +kernel
  obtain ⟨-, -, hbest⟩ := select_assigns numbered_tiedShares (show Kind.low ≠ .empty by decide)
  obtain ⟨best, greatest, hassigns, hlistsBest, -, habove⟩ := hbest _ _ hlists hdominates
  have hmedium : (Kind.low, [Region.medium]) ∈ (select tiedShares).assignments := by decide +kernel
  obtain rfl : Region.medium = best := List.singleton_inj.mp ((hassigns _).mp hmedium)
  exact ⟨⟨numbered_tiedShares, by decide, hlists, hdominates⟩, hassigns, greatest, hlistsBest,
    habove⟩

end RegionMap
end UpSetProse
