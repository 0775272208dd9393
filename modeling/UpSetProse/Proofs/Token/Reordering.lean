import UpSetProse.Proofs.Statistics.Reordering
import UpSetProse.Proofs.Totals

/-!
# Tokens of rows in any order

Tokens that tell numbers of rows, sizes or facts by degree have the same text for every order of the
visible rows. Tokens that name rows do not: of rows that rank alike, they name the ones given first.
-/

namespace UpSetProse

/-- What analyses of the same rows in different orders have in common. -/
structure Analysis.SameSizes (a b : Analysis) : Prop where
  visible : a.visible.Perm b.visible
  degrees : a.degrees.populatedSizes = b.degrees.populatedSizes
  positive : a.deviations.positive.count = b.deviations.positive.count ∧
    a.deviations.positive.totalSize = b.deviations.positive.totalSize
  negative : a.deviations.negative.count = b.deviations.negative.count ∧
    a.deviations.negative.totalSize = b.deviations.negative.totalSize

namespace Analysis

variable {a b : Analysis}

/-- The analyses of plots with the same visible rows see the same sizes. -/
theorem sameSizes_of_perm {p q : Plot} {presentation : Presentation}
    (h : p.visible.Perm q.visible) (ha : ofPlot p presentation = .ok a)
    (hb : ofPlot q presentation = .ok b) : a.SameSizes b := by
  obtain ⟨-, hdegrees, hdeviations⟩ := parts_of_ofPlot ha
  obtain ⟨-, hdegrees', hdeviations'⟩ := parts_of_ofPlot hb
  obtain ⟨positive, hpositive, hdeviations⟩ := bind_eq_ok.mp hdeviations
  obtain ⟨negative, hnegative, hdeviations⟩ := bind_eq_ok.mp hdeviations
  obtain ⟨positive', hpositive', hdeviations'⟩ := bind_eq_ok.mp hdeviations'
  obtain ⟨negative', hnegative', hdeviations'⟩ := bind_eq_ok.mp hdeviations'
  constructor
  case visible =>
    rw [visible, visible, (ofPlot_eq_ok ha).1, (ofPlot_eq_ok hb).1]
    exact h
  case degrees => exact DegreeSummaries.populatedSizes_of_perm h hdegrees hdegrees'
  case positive =>
    rw [← pure_eq_ok.mp hdeviations, ← pure_eq_ok.mp hdeviations']
    exact DeviationSide.sizes_of_perm (h.filter _) hpositive hpositive'
  case negative =>
    rw [← pure_eq_ok.mp hdeviations, ← pure_eq_ok.mp hdeviations']
    exact DeviationSide.sizes_of_perm (h.filter _) hnegative hnegative'

/-- The first row by size can be another one, but only one of the same size as a double. -/
theorem leadingSize_of_perm (h : a.visible.Perm b.visible) :
    Double.ofNat a.leadingSize.toNat = Double.ofNat b.leadingSize.toNat := by
  have hleading (c : Analysis) : Double.ofNat c.leadingSize.toNat =
      (c.bySize.map fun row => Double.ofNat row.size.toNat).head?.getD
        (Double.ofNat (0 : Size).toNat) := by
    rw [List.head?_map, leadingSize, ← Option.getD_map (fun size : Size => Double.ofNat size.toNat),
      Option.map_map, Function.comp_def]
  rw [hleading, hleading, bySize, bySize, Row.map_rankBy_size_of_perm h]

/-- Only sizes are compared, and they are sorted first. -/
theorem factorPhrase_of_perm (h : a.visible.Perm b.visible) : a.factorPhrase = b.factorPhrase := by
  unfold factorPhrase largestFactor
  rw [Row.twoLargest?_of_perm (h.map _)]

/-- The visible rows have the same total in any order. -/
theorem visibleSize_of_perm (h : a.visible.Perm b.visible) : a.visibleSize = b.visibleSize :=
  Row.total_of_perm h

/-- Percentiles are taken of the sorted rows. -/
theorem sizeAt_of_perm (h : a.visible.Perm b.visible) (percentage : Double) :
    a.sizeAt percentage = b.sizeAt percentage := by
  unfold sizeAt
  rw [Row.percentile_size_of_perm h]

/-- The rows of a degree are counted, and the degrees are in their own order. -/
theorem degreeInfo_of_sameSizes (h : a.SameSizes b) : a.degreeInfo = b.degreeInfo := by
  have hentries (c : Analysis) : c.degreeEntries = c.degrees.populatedSizes.map
      fun (degree, count, _) =>
        Text.countNoun count "intersection" "intersections" ++ " of degree " ++
          toString degree := by
    rw [DegreeSummaries.populatedSizes, List.map_map]
    rfl
  unfold degreeInfo
  rw [hentries, hentries, h.degrees]

theorem averageSizes_of_sameSizes (h : a.SameSizes b) :
    a.degrees.averageSizes = b.degrees.averageSizes := by
  rw [DegreeSummaries.averageSizes_eq, DegreeSummaries.averageSizes_eq, h.degrees]

end Analysis

namespace Token

/-- The tokens that do not tell in which order the visible rows are given. -/
def unordered : List Token :=
  [.rowCount, .nonEmptyRowCount, .maxSize, .minSize, .averageSize, .medianSize, .lowerQuartile,
   .upperQuartile, .maxShare, .minShare, .topCount, .largestFactor, .positiveCount, .positiveSize,
   .negativeCount, .negativeSize, .degreeInfo, .degreeTrend, .degreeChange]

/-- A token of which the order makes no difference is told in the same words. -/
theorem render_of_sameSizes {a b : Analysis} (h : a.SameSizes b) {totals totals' : Totals}
    (hvisible : totals.visible = totals'.visible) {token : Token} (ht : token ∈ unordered) :
    (token.value a totals).render a = (token.value b totals').render b := by
  have hcount {m n : Nat} (heq : m = n) :
      (TokenValue.ofNat m).render a = (TokenValue.ofNat n).render b := by
    rw [heq]
    rfl
  cases token
  case rowCount => exact hcount h.visible.length_eq
  case nonEmptyRowCount => exact hcount (h.visible.countP_eq _)
  case maxSize => exact hcount (congrArg _ (Row.largestSize_of_perm h.visible))
  case minSize => exact hcount (congrArg _ (Row.smallestSize_of_perm h.visible))
  case positiveCount => exact hcount h.positive.1
  case positiveSize => exact hcount (congrArg _ h.positive.2)
  case negativeCount => exact hcount h.negative.1
  case negativeSize => exact hcount (congrArg _ h.negative.2)
  case averageSize =>
    simp only [value, TokenValue.render, TokenValue.evaluate, hvisible, h.visible.length_eq]
  case medianSize => exact congrArg Text.figure (Row.medianSize_of_perm h.visible)
  case lowerQuartile => exact Analysis.sizeAt_of_perm h.visible 25
  case upperQuartile => exact Analysis.sizeAt_of_perm h.visible 75
  case maxShare =>
    have hshare : a.visibleShare a.leadingSize = b.visibleShare b.leadingSize := by
      unfold Analysis.visibleShare Analysis.shareOf
      rw [Analysis.visibleSize_of_perm h.visible, Analysis.leadingSize_of_perm h.visible]
    exact congrArg Overflow.shown hshare
  case minShare =>
    have hshare : a.visibleShare (Row.smallestSize a.visible) =
        b.visibleShare (Row.smallestSize b.visible) := by
      unfold Analysis.visibleShare
      rw [Analysis.visibleSize_of_perm h.visible, Row.smallestSize_of_perm h.visible]
    exact congrArg Overflow.shown hshare
  case topCount =>
    simp only [value, TokenValue.render, TokenValue.evaluate, h.visible.length_eq]
  case largestFactor => exact Analysis.factorPhrase_of_perm h.visible
  case degreeInfo => exact Analysis.degreeInfo_of_sameSizes h
  case degreeTrend =>
    simp only [value, TokenValue.render, TokenValue.evaluate, DegreeSummaries.trend,
      Analysis.averageSizes_of_sameSizes h]
  case degreeChange =>
    simp only [value, TokenValue.render, TokenValue.evaluate, Analysis.degreeChange,
      Analysis.averageSizes_of_sameSizes h]
  all_goals exact absurd ht (by decide)

end Token

namespace TokenMap

/-- Standard maps over the same visible rows in different orders give these tokens the same text. -/
theorem resolve_unordered {p q : Plot} {presentation : Presentation} {map map' : TokenMap}
    (h : p.visible.Perm q.visible) (hmap : standard p presentation = .ok map)
    (hmap' : standard q presentation = .ok map') :
    ∀ token ∈ Token.unordered, map.resolve token.name = map'.resolve token.name := by
  intro token ht
  obtain ⟨-, -, totals, htotals, hstandard⟩ := standard_eq_ok hmap
  obtain ⟨-, -, totals', htotals', hstandard'⟩ := standard_eq_ok hmap'
  have hsame := Analysis.sameSizes_of_perm h (ofPlot_of_standard hmap) (ofPlot_of_standard hmap')
  obtain ⟨_, _, htotals⟩ := bind_eq_ok.mp htotals
  obtain ⟨visible, hvisible, htotals⟩ := bind_eq_ok.mp htotals
  obtain ⟨_, _, htotals'⟩ := bind_eq_ok.mp htotals'
  obtain ⟨visible', hvisible', htotals'⟩ := bind_eq_ok.mp htotals'
  have heq : visible = visible' := by
    rw [Analysis.visibleSize, Row.total_of_perm hsame.visible] at hvisible
    exact Except.ok.inj (hvisible.symm.trans hvisible')
  rw [hstandard.resolve_name, hstandard'.resolve_name]
  refine Token.render_of_sameSizes hsame ?_ ht
  rw [← pure_eq_ok.mp htotals, ← pure_eq_ok.mp htotals']
  exact heq

end TokenMap

/-- A plot with two rows of the same size. -/
def Plot.tied : Plot where
  sets := ["a", "b"]
  sizes := .ofList [("a", 5), ("b", 5)]
  visible := [.sole "a" 5, .sole "b" 5]
  rows := [.sole "a" 5, .sole "b" 5]
  faultless := by decide +kernel

/-- The same plot with its visible rows in the other order. -/
def Plot.tiedSwapped : Plot :=
  { Plot.tied with visible := [.sole "b" 5, .sole "a" 5], faultless := by decide +kernel }

/-- Two rows of one size, given in either order: the tokens agree, but which of the rows is called
the largest differs. -/
theorem TokenMap.resolve_unordered_tied :
    Plot.tied.visible.Perm Plot.tiedSwapped.visible ∧
    ∃ map map', standard .tied default = .ok map ∧ standard .tiedSwapped default = .ok map' ∧
      (∀ token ∈ Token.unordered, map.resolve token.name = map'.resolve token.name) ∧
      map.resolve Token.maxMembership.name ≠ map'.resolve Token.maxMembership.name := by
  have hperm : Plot.tied.visible.Perm Plot.tiedSwapped.visible := .swap _ _ _
  obtain ⟨map, hmap⟩ : ∃ map, standard .tied default = .ok map :=
    exists_standard (by decide +kernel)
  obtain ⟨map', hmap'⟩ : ∃ map, standard .tiedSwapped default = .ok map :=
    exists_standard (by decide +kernel)
  refine ⟨hperm, map, map', hmap, hmap', resolve_unordered hperm hmap hmap', ?_⟩
  obtain ⟨hplot, -, totals, -, hstandard⟩ := standard_eq_ok hmap
  obtain ⟨hplot', -, totals', -, hstandard'⟩ := standard_eq_ok hmap'
  rw [hstandard.resolve_name, hstandard'.resolve_name]
  change map.analysis.leadingMembership .size .descending ≠
    map'.analysis.leadingMembership .size .descending
  rw [Analysis.leadingMembership, Analysis.leadingMembership, Analysis.visible, Analysis.visible,
    hplot, hplot']
  decide +kernel

end UpSetProse
