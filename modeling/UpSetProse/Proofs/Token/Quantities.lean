import UpSetProse.Proofs.Statistics.Reordering
import UpSetProse.Proofs.Text.Numeral
import UpSetProse.Proofs.Token.Refusal

/-!
# Whole numbers in a description

A token that stands for a whole number tells a quantity of the plot. A quantity is kept as a signed
64-bit number, so the text is its decimal numeral up to the largest of these and that of the largest
one beyond it. The size of a single set is never brought down: from there on a description can tell
a set that is larger than all sets together.
-/

namespace UpSetProse

/-! ## The sizes of the sets -/

namespace Plot

/-- The sizes of the sets in plot order. -/
def setSizes (plot : Plot) : List Size :=
  plot.sets.map fun name => (plot.setSize? name).getD 0

/-- The largest of the set sizes. -/
structure LargestSetSize (plot : Plot) (size : Size) : Prop where
  mem : size ∈ plot.setSizes
  largest : ∀ other ∈ plot.setSizes, other ≤ size

/-- The sizes of the sets are the values of the size table. -/
theorem perm_setSizes (plot : Plot) : plot.setSizes.Perm plot.sizes.values := by
  obtain ⟨hnodup, hsized, -, -⟩ := PlotParts.fault?_eq_none_iff.mp plot.faultless
  have hnames : plot.sizes.names.Nodup :=
    plot.sizes.pairwise_names.imp fun hlt => String.ne_of_lt hlt
  have hvalues : plot.sizes.names.map (fun name => (plot.setSize? name).getD 0) =
      plot.sizes.values := by
    rw [NameTable.names, NameTable.values, List.map_map]
    refine List.map_congr_left fun entry hentry => ?_
    have hget : plot.setSize? entry.1 = some entry.2 := NameTable.get?_eq_some_iff.mpr hentry
    simp only [Function.comp_apply, hget, Option.getD_some]
  rw [← hvalues]
  exact ((List.perm_ext_iff_of_nodup hnodup hnames).mpr fun name => (hsized name).symm).map _

theorem exactTotal_setSizes (plot : Plot) :
    Size.exactTotal plot.setSizes = Size.exactTotal plot.sizes.values := by
  rw [Size.exactTotal_eq_sum, Size.exactTotal_eq_sum]
  exact (plot.perm_setSizes.map _).sum_eq

end Plot

namespace Analysis

variable {a : Analysis}

/-- The set that is told as the largest has the largest size. -/
theorem size_of_largestSet? {size : Size} (h : a.plot.LargestSetSize size) :
    ∃ name, a.largestSet? = some (name, size) := by
  have hsizes : a.sizedSets.map (·.2) = a.plot.setSizes := List.map_map
  obtain ⟨hmem, hlargest⟩ := h
  rw [← hsizes] at hmem hlargest
  unfold largestSet?
  cases hsets : a.sizedSets with
  | nil =>
    rw [hsets] at hmem
    cases hmem
  | cons first rest =>
    rw [hsets] at hmem hlargest
    obtain ⟨hbest, hall⟩ := Size.foldl_larger (·.2) first rest
    have hlargest? : firstBest? (fun size best => best < size) (first :: rest) =
        some (rest.foldl (fun best next => if best.2 < next.2 then next else best) first) := by
      simp only [firstBest?, decide_eq_true_eq]
    obtain ⟨set, hset, hsize⟩ := List.mem_map.mp hmem
    rw [hlargest?]
    generalize rest.foldl _ first = best at hbest hall ⊢
    have hle : best.2 ≤ size := hlargest best.2 (List.mem_map_of_mem hbest)
    have heq : best.2 = size := UInt64.le_antisymm hle (hsize ▸ hall set hset)
    exact ⟨best.1, by rw [← heq]⟩

end Analysis

/-! ## What the tokens tell -/

namespace TokenValue

theorem render_ofNat (a : Analysis) (n : Nat) :
    (ofNat n).render a = toString (min n maxInteger) := rfl

/-- Quantities up to the largest integer are told exactly, and no others. -/
theorem toString_min_eq_iff (n : Nat) :
    toString (min n maxInteger) = toString n ↔ n ≤ maxInteger :=
  Text.toString_inj.trans min_eq_left_iff

end TokenValue

/-- The quantity that a token names. -/
inductive Token.Tells (plot : Plot) (presentation : Presentation) : Token → Nat → Prop
  | setCount : Tells plot presentation .setCount plot.sets.length
  | allSets (hall : presentation.visibleSets = []) :
    Tells plot presentation .visibleSetCount plot.sets.length
  | chosenSets (hsome : presentation.visibleSets ≠ []) :
    Tells plot presentation .visibleSetCount presentation.visibleSets.length
  | universalSetSize : Tells plot presentation .universalSetSize (Size.exactTotal plot.setSizes)
  | rowCount : Tells plot presentation .rowCount plot.visible.length
  | unfilteredRowCount : Tells plot presentation .unfilteredRowCount plot.rows.length
  | nonEmptyRowCount :
    Tells plot presentation .nonEmptyRowCount (plot.visible.filter (0 < ·.size)).length
  | noMaxSize (hnone : plot.visible = []) : Tells plot presentation .maxSize 0
  | maxSize {row : Row} (hrow : row ∈ plot.visible)
    (hlargest : ∀ other ∈ plot.visible, other.size ≤ row.size) :
    Tells plot presentation .maxSize row.size.toNat
  | noMinSize (hnone : plot.visible = []) : Tells plot presentation .minSize 0
  | minSize {row : Row} (hrow : row ∈ plot.visible)
    (hsmallest : ∀ other ∈ plot.visible, row.size ≤ other.size) :
    Tells plot presentation .minSize row.size.toNat
  | positiveCount :
    Tells plot presentation .positiveCount (plot.visible.filter (·.isAboveExpected)).length
  | positiveSize :
    Tells plot presentation .positiveSize (Row.exactSize (plot.visible.filter (·.isAboveExpected)))
  | negativeCount :
    Tells plot presentation .negativeCount (plot.visible.filter (·.isBelowExpected)).length
  | negativeSize :
    Tells plot presentation .negativeSize (Row.exactSize (plot.visible.filter (·.isBelowExpected)))

/-- Both sides of an analysed plot have all of the visible rows on that side. -/
theorem Analysis.deviations_of_ofPlot {plot : Plot} {presentation : Presentation} {a : Analysis}
    (h : Analysis.ofPlot plot presentation = .ok a) :
    (a.deviations.positive.count = (plot.visible.filter (·.isAboveExpected)).length ∧
      a.deviations.positive.totalSize.toNat =
        Row.exactSize (plot.visible.filter (·.isAboveExpected))) ∧
    a.deviations.negative.count = (plot.visible.filter (·.isBelowExpected)).length ∧
      a.deviations.negative.totalSize.toNat =
        Row.exactSize (plot.visible.filter (·.isBelowExpected)) := by
  obtain ⟨-, -, h⟩ := Analysis.parts_of_ofPlot h
  obtain ⟨positive, hpositive, h⟩ := bind_eq_ok.mp h
  obtain ⟨negative, hnegative, h⟩ := bind_eq_ok.mp h
  rw [← pure_eq_ok.mp h]
  exact ⟨DeviationSide.ofRows_eq_ok hpositive, DeviationSide.ofRows_eq_ok hnegative⟩

namespace Token

variable {plot : Plot} {presentation : Presentation} {a : Analysis} {totals : Totals}
  {token : Token}

/-- The value of a token over an analysed plot is the quantity that it names. -/
theorem Tells.value_eq {n : Nat} (htells : Tells plot presentation token n)
    (ha : Analysis.ofPlot plot presentation = .ok a) (htotals : a.totals = .ok totals) :
    token.value a totals = .ofNat n := by
  obtain ⟨⟨hpositiveCount, hpositiveSize⟩, hnegativeCount, hnegativeSize⟩ :=
    Analysis.deviations_of_ofPlot ha
  obtain ⟨rfl, rfl⟩ := Analysis.ofPlot_eq_ok ha
  cases htells with
  | setCount | rowCount | unfilteredRowCount => rfl
  | allSets hall =>
    have hempty : a.presentation.visibleSets.isEmpty = true := by rw [hall]; rfl
    simp only [value, Analysis.visibleSetCount, hempty, if_true]
    rfl
  | chosenSets hsome =>
    have hempty : a.presentation.visibleSets.isEmpty = false := by simpa using hsome
    simp only [value, Analysis.visibleSetCount, hempty, Bool.false_eq_true, if_false]
  | universalSetSize =>
    obtain ⟨sets, hsets, htotals⟩ := bind_eq_ok.mp htotals
    obtain ⟨visible, hvisible, htotals⟩ := bind_eq_ok.mp htotals
    obtain rfl := pure_eq_ok.mp htotals
    rw [a.plot.exactTotal_setSizes, ← Size.total_eq_ok_iff.mp hsets]
    rfl
  | nonEmptyRowCount =>
    rw [← List.countP_eq_length_filter]
    rfl
  | noMaxSize hnone =>
    simp only [value, Analysis.visible, hnone]
    rfl
  | maxSize hrow hlargest =>
    obtain ⟨⟨other, hother, heq⟩, hbest⟩ := Row.largestSize_spec (List.ne_nil_of_mem hrow)
    have hsize := UInt64.le_antisymm (hbest _ hrow) (heq ▸ hlargest other hother)
    rw [hsize]
    rfl
  | noMinSize hnone =>
    simp only [value, Analysis.visible, hnone]
    rfl
  | minSize hrow hsmallest =>
    obtain ⟨⟨other, hother, heq⟩, hbest⟩ := Row.smallestSize_spec (List.ne_nil_of_mem hrow)
    have hsize := UInt64.le_antisymm (heq ▸ hsmallest other hother) (hbest _ hrow)
    rw [hsize]
    rfl
  | positiveCount => exact congrArg TokenValue.ofNat hpositiveCount
  | positiveSize => exact congrArg TokenValue.ofNat hpositiveSize
  | negativeCount => exact congrArg TokenValue.ofNat hnegativeCount
  | negativeSize => exact congrArg TokenValue.ofNat hnegativeSize

/-- Every token that is kept as an integer names a quantity. -/
theorem exists_tells {k : Int} (h : token.value a totals = .integer k) :
    ∃ n, Tells a.plot a.presentation token n := by
  cases token
  case setCount => exact ⟨_, .setCount⟩
  case visibleSetCount =>
    by_cases hall : a.presentation.visibleSets = []
    · exact ⟨_, .allSets hall⟩
    · exact ⟨_, .chosenSets hall⟩
  case universalSetSize => exact ⟨_, .universalSetSize⟩
  case rowCount => exact ⟨_, .rowCount⟩
  case unfilteredRowCount => exact ⟨_, .unfilteredRowCount⟩
  case nonEmptyRowCount => exact ⟨_, .nonEmptyRowCount⟩
  case maxSize =>
    by_cases hnone : a.plot.visible = []
    · exact ⟨_, .noMaxSize hnone⟩
    · obtain ⟨⟨row, hrow, heq⟩, hlargest⟩ := Row.largestSize_spec hnone
      exact ⟨_, .maxSize hrow (heq ▸ hlargest)⟩
  case minSize =>
    by_cases hnone : a.plot.visible = []
    · exact ⟨_, .noMinSize hnone⟩
    · obtain ⟨⟨row, hrow, heq⟩, hsmallest⟩ := Row.smallestSize_spec hnone
      exact ⟨_, .minSize hrow (heq ▸ hsmallest)⟩
  case positiveCount => exact ⟨_, .positiveCount⟩
  case positiveSize => exact ⟨_, .positiveSize⟩
  case negativeCount => exact ⟨_, .negativeCount⟩
  case negativeSize => exact ⟨_, .negativeSize⟩
  -- The other tokens are no integers.
  all_goals cases h

end Token
/-- The size of the largest set is part of the total. -/
theorem Plot.LargestSetSize.le_exactTotal {plot : Plot} {size : Size}
    (h : plot.LargestSetSize size) : size.toNat ≤ Size.exactTotal plot.setSizes := by
  rw [Size.exactTotal_eq_sum]
  exact List.single_le_sum (fun _ _ => Nat.zero_le _) _ (List.mem_map_of_mem h.mem)

namespace TokenMap

variable {plot : Plot} {presentation : Presentation} {map : TokenMap}

/-- A quantity is told up to the largest integer. -/
theorem resolve_of_tells (h : standard plot presentation = .ok map) {token : Token} {n : Nat}
    (htells : Token.Tells plot presentation token n) :
    map.resolve token.name = toString (min n TokenValue.maxInteger) := by
  obtain ⟨-, -, totals, htotals, hstandard⟩ := standard_eq_ok h
  rw [hstandard.resolve_name, htells.value_eq (ofPlot_of_standard h) htotals,
    TokenValue.render_ofNat]

/-- The size of the largest set is told exactly. -/
theorem resolve_maxSetSize (h : standard plot presentation = .ok map) {size : Size}
    (hsize : plot.LargestSetSize size) :
    map.resolve Token.maxSetSize.name = toString size.toNat := by
  obtain ⟨rfl, -⟩ := standard_eq_ok h
  obtain ⟨name, hlargest⟩ := Analysis.size_of_largestSet? hsize
  rw [resolve_of_computed h fun _ _ => rfl, hlargest]
  rfl

/-- The tokens that are kept as integers name quantities of the plot, and each of them is told
exactly if it is at most the largest integer, which is told in place of a larger one. The largest
set is told with its exact size, so the total of the set sizes is told to be smaller just if that
size is larger than the largest integer. -/
theorem resolve_quantities (h : standard plot presentation = .ok map) :
    (∀ name k, map.values.get? name = some (.integer k) →
      ∃ token n, name = token.name ∧ Token.Tells plot presentation token n) ∧
    (∀ token n, Token.Tells plot presentation token n →
      map.resolve token.name = toString (min n TokenValue.maxInteger) ∧
      (map.resolve token.name = toString n ↔ n ≤ TokenValue.maxInteger)) ∧
    ∀ size, plot.LargestSetSize size →
      map.resolve Token.maxSetSize.name = toString size.toNat ∧
      ∃ told, map.resolve Token.universalSetSize.name = toString told ∧
        (size.toNat ≤ told ↔ size.toNat ≤ TokenValue.maxInteger) := by
  refine ⟨fun name k hvalue => ?_, fun token n htells => ?_, fun size hsize => ?_⟩
  · obtain ⟨hplot, hpresentation, totals, -, hstandard⟩ := standard_eq_ok h
    rw [hstandard.get?] at hvalue
    obtain ⟨token, rfl, hvalue⟩ := hvalue
    obtain ⟨n, htells⟩ := Token.exists_tells hvalue.symm
    rw [hplot, hpresentation] at htells
    exact ⟨token, n, rfl, htells⟩
  · have htold := resolve_of_tells h htells
    rw [htold]
    exact ⟨rfl, TokenValue.toString_min_eq_iff n⟩
  · refine ⟨resolve_maxSetSize h hsize, _, resolve_of_tells h .universalSetSize, ?_⟩
    rw [le_min_iff]
    exact and_iff_right hsize.le_exactTotal

end TokenMap

theorem Plot.largestSetSize_brimful : Plot.brimful.LargestSetSize 9223372036854775808 := by
  have hsizes : Plot.brimful.setSizes = [9223372036854775808, 9223372036854775807] := by
    decide +kernel
  constructor
  · rw [hsizes]
    exact List.mem_cons_self
  · rw [hsizes, List.forall_mem_cons, List.forall_mem_singleton]
    exact ⟨UInt64.le_refl _, by decide +kernel⟩

namespace TokenMap

theorem exists_standard_brimful : ∃ map, standard .brimful default = .ok map := by
  refine (exists_standard_iff ?_ ?_).mpr ?_ <;> decide +kernel

theorem resolve_quantities_brimful :
    ∃ map, standard .brimful default = .ok map ∧
      map.resolve Token.maxSetSize.name = "9223372036854775808" ∧
      map.resolve Token.universalSetSize.name = "9223372036854775807" := by
  obtain ⟨map, hmap⟩ := exists_standard_brimful
  obtain ⟨-, hquantities, hlargest⟩ := resolve_quantities hmap
  have htotal : min (Size.exactTotal Plot.brimful.setSizes) TokenValue.maxInteger =
      9223372036854775807 := by decide +kernel
  have htold := (hquantities _ _ .universalSetSize).1
  rw [htotal] at htold
  exact ⟨map, hmap, (hlargest _ Plot.largestSetSize_brimful).1, htold⟩

/-- Quantities beyond the largest integer are not told exactly, and the total of the set sizes can
be told to be smaller than the largest of them. -/
theorem not_forall_resolve_quantities :
    (¬ ∀ plot presentation map, standard plot presentation = .ok map →
      ∀ token n, Token.Tells plot presentation token n →
        map.resolve token.name = toString n) ∧
    ¬ ∀ plot presentation map, standard plot presentation = .ok map →
      ∀ largest total : Nat, map.resolve Token.maxSetSize.name = toString largest →
        map.resolve Token.universalSetSize.name = toString total → largest ≤ total := by
  obtain ⟨map, hmap⟩ := exists_standard_brimful
  have htold := resolve_of_tells hmap .universalSetSize
  constructor
  · intro h
    have hexact := h _ _ map hmap _ _ .universalSetSize
    rw [htold, TokenValue.toString_min_eq_iff] at hexact
    exact absurd hexact (by decide +kernel)
  · intro h
    have hle := h _ _ map hmap _ _ (resolve_maxSetSize hmap Plot.largestSetSize_brimful) htold
    exact absurd hle (by decide +kernel)

end TokenMap
end UpSetProse
