import UpSetProse.Proofs.Regions.Bucket
import UpSetProse.Proofs.Statistics.Ranking
import UpSetProse.Proofs.Statistics.Reordering
import UpSetProse.Proofs.Token.Refusal

/-!
# The largest row

Regions are split by exact sizes, but a ranking by size compares sizes as doubles, which cannot tell
all large sizes apart. The ranking is the order by decreasing size exactly if no row is given after
a smaller one of the same size as a double; otherwise it starts with a row of the largest size as a
double, which need not be the largest row. Where the two orders agree, all that a description says
of the largest row is about the row that the regions take it to be.
-/

namespace UpSetProse

namespace Row

variable {rows : List Row}

/-- The rows in the order of their exact sizes from the largest down, rows of equal size in their
given order. -/
structure RankedBySize (rows ranked : List Row) : Prop where
  perm : ranked.Perm rows
  decreasing : ranked.Pairwise fun earlier later => later.size ≤ earlier.size
  stable : ∀ size, ranked.filter (·.size == size) = rows.filter (·.size == size)

/-- No row is given after a smaller one that has the same size as a double. -/
def SizesToldApart (rows : List Row) : Prop :=
  rows.Pairwise fun earlier later =>
    earlier.size < later.size → Double.ofNat earlier.size.toNat ≠ Double.ofNat later.size.toNat

instance (rows : List Row) : Decidable (SizesToldApart rows) :=
  inferInstanceAs (Decidable (List.Pairwise _ _))

/-- Sizes of up to 53 bits are told apart. -/
theorem sizesToldApart_of_le (h : ∀ row ∈ rows, row.size.toNat ≤ 2 ^ 53) : SizesToldApart rows :=
  List.pairwise_of_forall_mem_list fun _ _ later hlater hlt =>
    Double.ofNat_ne_of_lt (UInt64.lt_iff_toNat_lt.mp hlt) (h later hlater)

end Row

namespace RegionRows

/-- The regions are split from the order by exact sizes. -/
theorem rankedBySize_bySize (rows : List Row) : Row.RankedBySize rows (bySize rows) where
  perm := perm_bySize rows
  decreasing := by
    have hless : ∀ a ∈ rows, ∀ b ∈ rows, decide (b.size < a.size) = true ↔
        OrderDual.toDual a.size.toNat < OrderDual.toDual b.size.toNat := by
      intro a _ b _
      rw [decide_eq_true_iff, OrderDual.toDual_lt_toDual]
      exact UInt64.lt_iff_toNat_lt
    refine (sorted_stableSort (.of_key hless)).imp fun {earlier later} hnotLess => ?_
    exact UInt64.not_lt.mp (of_decide_eq_false hnotLess)
  stable size := by
    refine filter_stableSort fun a _ b _ ha hb => ?_
    rw [beq_iff_eq] at ha hb
    rw [ha, hb]
    exact decide_eq_false (UInt64.lt_irrefl size)

end RegionRows

namespace Row

variable {rows : List Row}

/-- The largest row of the regions is the first given one of the largest size. -/
theorem largest_ofRows (rows : List Row) :
    (RegionRows.ofRows rows).largest = rows.find? (·.size == largestSize rows) := by
  obtain ⟨hperm, hdecreasing, hstable⟩ := RegionRows.rankedBySize_bySize rows
  rw [← List.head?_filter, ← hstable]
  unfold RegionRows.ofRows
  cases hsorted : RegionRows.bySize rows with
  | nil => rfl
  | cons first rest =>
    rw [hsorted] at hperm hdecreasing
    have hfirst : first ∈ rows := hperm.subset List.mem_cons_self
    obtain ⟨⟨row, hrow, heq⟩, hlargest⟩ := largestSize_spec (List.ne_nil_of_mem hfirst)
    have hle : row.size ≤ first.size := by
      rcases List.mem_cons.mp (hperm.symm.subset hrow) with rfl | hrest
      · exact UInt64.le_refl _
      · exact List.rel_of_pairwise_cons hdecreasing hrest
    have hsize : first.size = largestSize rows :=
      UInt64.le_antisymm (hlargest first hfirst) (heq ▸ hle)
    rw [List.filter_cons, if_pos (beq_iff_eq.mpr hsize)]
    rfl

/-! ## The ranking by size -/

theorem isNaN_numeric_size (row : Row) : (row.numeric .size).isNaN = false :=
  (Double.unsigned_ofNat row.size.toNat).isNaN

/-- A ranking by decreasing size puts a row before another one if it is larger as a double. -/
theorem puts_size_iff (a b : Row) :
    SortOrder.descending.puts (a.compareBy .size b) = true ↔
      (Double.ofNat b.size.toNat).value < (Double.ofNat a.size.toNat).value := by
  rw [compareBy_eq_compare a.isNaN_numeric_size b.isNaN_numeric_size, SortOrder.puts_compare_iff]
  exact not_le

theorem ranked_rankBy_size (rows : List Row) :
    Ranked rows .size .descending (rankBy rows .size .descending) :=
  ranked_rankBy (fun row _ => row.isNaN_numeric_size) .descending

/-- The sizes in a ranking do not increase as doubles. -/
theorem pairwise_rankBy_size (rows : List Row) :
    (rankBy rows .size .descending).Pairwise fun earlier later =>
      (Double.ofNat later.size.toNat).value ≤ (Double.ofNat earlier.size.toNat).value :=
  (ranked_rankBy_size rows).ordered

/-- A ranking by size starts with a row of the largest size, as a double. -/
theorem ofNat_size_of_rankBy {first : Row} {rest : List Row}
    (h : rankBy rows .size .descending = first :: rest) :
    Double.ofNat first.size.toNat = Double.ofNat (largestSize rows).toNat := by
  have hperm := (ranked_rankBy_size rows).perm
  have hsorted := pairwise_rankBy_size rows
  rw [h] at hperm hsorted
  have hfirst : first ∈ rows := hperm.subset List.mem_cons_self
  obtain ⟨⟨row, hrow, heq⟩, hlargest⟩ := largestSize_spec (List.ne_nil_of_mem hfirst)
  have hle : (Double.ofNat row.size.toNat).value ≤ (Double.ofNat first.size.toNat).value := by
    rcases List.mem_cons.mp (hperm.symm.subset hrow) with rfl | hrest
    · exact le_rfl
    · exact List.rel_of_pairwise_cons hsorted hrest
  rw [← heq] at hlargest ⊢
  have hge := Double.value_ofNat_mono (UInt64.le_iff_toNat_le.mp (hlargest first hfirst))
  exact (Double.unsigned_ofNat _).eq_of_value (Double.unsigned_ofNat _) (hge.antisymm hle)

/-- The ranking is the order by exact sizes exactly if sizes are told apart where it matters. -/
theorem rankBy_size_eq_bySize_iff (rows : List Row) :
    rankBy rows .size .descending = RegionRows.bySize rows ↔ SizesToldApart rows := by
  constructor
  · intro heq
    -- Two rows of the same double are in their given order in both lists.
    refine List.pairwise_iff_forall_sublist.mpr fun {earlier later} hsub hlt hsame => ?_
    have hkeys : earlier.key .size = later.key .size := by
      rw [key, key, numeric, numeric, hsame]
    have hkept : [earlier, later].Sublist (rows.filter (·.key .size == later.key .size)) := by
      simpa [hkeys] using hsub.filter (·.key .size == later.key .size)
    rw [← (ranked_rankBy_size rows).stable, heq] at hkept
    have hle := List.pairwise_iff_forall_sublist.mp
      (RegionRows.rankedBySize_bySize rows).decreasing (hkept.trans List.filter_sublist)
    exact UInt64.not_lt.mpr hle hlt
  · intro htold
    refine stableSort_congr (htold.imp fun {earlier later} hne => ?_)
    rw [Bool.eq_iff_iff, puts_size_iff, decide_eq_true_iff]
    constructor
    · intro hlt
      refine UInt64.not_le.mp fun hle => not_le.mpr hlt ?_
      exact Double.value_ofNat_mono (UInt64.le_iff_toNat_le.mp hle)
    · intro hlt
      exact (Double.ofNat_ne_iff_value_lt (UInt64.lt_iff_toNat_lt.mp hlt).le).mp (hne hlt)

end Row

/-- What a map says of the largest row and of the rows after it. -/
structure TokenMap.TellsLargest (map : TokenMap) (largest : Row) (rest : List Row) : Prop where
  /-- The rows are told from the largest exact size down. -/
  ranked : Row.RankedBySize map.analysis.visible (largest :: rest)
  /-- The regions have the same largest row. -/
  region : (RegionRows.ofRows map.analysis.visible).largest = some largest
  size : largest.size = Row.largestSize map.analysis.visible
  maxSize : map.resolve Token.maxSize.name =
    toString (Nat.min largest.size.toNat TokenValue.maxInteger)
  membership : map.resolve Token.maxMembership.name = Text.sanitize largest.membership
  top : map.resolve Token.topRows.name =
    Text.joinAfter (Analysis.sized largest.name largest.size)
      ((rest.take (Analysis.topLimit - 1)).map fun row => Analysis.sized row.name row.size)

namespace TokenMap

/-- A map over rows whose sizes are told apart tells the largest of them. -/
theorem exists_tellsLargest {plot : Plot} {presentation : Presentation} {map : TokenMap}
    (h : standard plot presentation = .ok map) (hnil : plot.visible ≠ [])
    (htold : Row.SizesToldApart plot.visible) : ∃ largest rest, map.TellsLargest largest rest := by
  obtain ⟨rfl, -, totals, -, hstandard⟩ := standard_eq_ok h
  have hbySize : map.analysis.bySize = RegionRows.bySize map.analysis.visible :=
    (Row.rankBy_size_eq_bySize_iff _).mpr htold
  have hranked := RegionRows.rankedBySize_bySize map.analysis.visible
  cases hsorted : RegionRows.bySize map.analysis.visible with
  | nil =>
    rw [hsorted] at hranked
    exact absurd hranked.perm.nil_eq.symm hnil
  | cons largest rest =>
    rw [hsorted] at hbySize hranked
    have hregion : (RegionRows.ofRows map.analysis.visible).largest = some largest := by
      unfold RegionRows.ofRows
      rw [hsorted]
    have hsize : largest.size = Row.largestSize map.analysis.visible := by
      rw [Row.largest_ofRows] at hregion
      simpa using List.find?_some hregion
    refine ⟨largest, rest, hranked, hregion, hsize, ?_, ?_, ?_⟩
    · rw [hstandard.resolve_name, hsize]
      rfl
    · rw [resolve_of_computed h fun _ _ => rfl, Analysis.leadingMembership, ← Analysis.bySize,
        hbySize]
      rfl
    · rw [resolve_of_computed h fun _ _ => rfl, Analysis.topRows, hbySize]
      rfl

/-- The ranking by size is the order by exact sizes exactly if sizes are told apart, as they are up
to 53 bits; it always starts with the largest size as a double. Over rows whose sizes are told
apart, a map tells the largest row of the regions as the largest one. -/
theorem largest_row_of_told_apart (rows : List Row) :
    Row.RankedBySize rows (RegionRows.bySize rows) ∧
    (rankBy rows .size .descending = RegionRows.bySize rows ↔ Row.SizesToldApart rows) ∧
    ((∀ row ∈ rows, row.size.toNat ≤ 2 ^ 53) → Row.SizesToldApart rows) ∧
    (∀ first rest, rankBy rows .size .descending = first :: rest →
      Double.ofNat first.size.toNat = Double.ofNat (Row.largestSize rows).toNat) ∧
    ∀ plot presentation map, standard plot presentation = .ok map → plot.visible = rows →
      rows ≠ [] → Row.SizesToldApart rows → ∃ largest rest, map.TellsLargest largest rest := by
  refine ⟨RegionRows.rankedBySize_bySize rows, Row.rankBy_size_eq_bySize_iff rows,
    Row.sizesToldApart_of_le, fun _ _ => Row.ofNat_size_of_rankBy, ?_⟩
  rintro plot presentation map hmap rfl hnil htold
  exact exists_tellsLargest hmap hnil htold

/-- The two sizes are the same double, but the larger one is given first. -/
theorem largest_row_of_told_apart_brimful :
    (Row.SizesToldApart Plot.brimful.visible ∧
      Double.ofNat 9223372036854775808 = Double.ofNat 9223372036854775807) ∧
    ∃ map, standard .brimful default = .ok map ∧ ∃ rest,
      map.TellsLargest (.sole "a" 9223372036854775808) rest := by
  have htold : Row.SizesToldApart Plot.brimful.visible := by decide +kernel
  obtain ⟨map, hmap⟩ : ∃ map, standard .brimful default = .ok map := by
    refine (exists_standard_iff ?_ ?_).mpr ?_ <;> decide +kernel
  obtain ⟨-, -, -, -, htells⟩ := largest_row_of_told_apart Plot.brimful.visible
  obtain ⟨largest, rest, htells⟩ := htells _ _ map hmap rfl (by decide) htold
  have hlargest : (RegionRows.ofRows Plot.brimful.visible).largest =
      some (.sole "a" 9223372036854775808) := by decide +kernel
  have hregion := htells.region
  rw [Analysis.visible, (standard_eq_ok hmap).1, hlargest] at hregion
  obtain rfl := Option.some.inj hregion
  exact ⟨⟨htold, by decide +kernel⟩, map, hmap, rest, htells⟩

end TokenMap

/-- Beyond 53 bits a ranking can put a row before a larger one. -/
theorem Row.not_forall_rankBy_size_eq_bySize :
    ¬ ∀ rows, rankBy rows .size .descending = RegionRows.bySize rows := by
  intro h
  exact absurd (h [.sole "a" 9007199254740992, .sole "b" 9007199254740993]) (by decide +kernel)

end UpSetProse
