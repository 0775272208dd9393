import UpSetProse.Proofs.Text.Composed
import UpSetProse.Token.Standard

/-!
# What token values are made of

The texts from outside that descriptions quote are listed for a plot and for its presentation. The
value of every token is composed of them: whatever is not the library's own wording or a numeral
has been sanitized, and stands apart from other quotations.
-/

namespace UpSetProse

open Text

/-- The texts that descriptions quote from a plot: its sets, and its visible rows with their
members. -/
def Plot.texts (plot : Plot) : List String :=
  plot.sets ++ plot.visible.flatMap fun row => row.name :: row.members.names

/-- What the author wrote about the plot, as far as it is there. -/
def Metadata.texts (metadata : Metadata) : List String :=
  [metadata.title, metadata.caption, metadata.description, metadata.setsLabel,
    metadata.itemsLabel].flatMap Option.toList

/-- The texts that descriptions quote from a presentation. -/
def Presentation.texts (presentation : Presentation) : List String :=
  presentation.metadata.texts ++ presentation.bookmarks.map (·.label) ++
    (presentation.setQuery.toList.flatMap fun query =>
      query.name :: query.memberships.names) ++
    presentation.visibleAttributes

namespace Analysis

/-- The texts that descriptions quote. -/
def texts (a : Analysis) : List String := a.plot.texts ++ a.presentation.texts

/-- A missing text is named in plain wording. -/
theorem composed_orMissing {texts : List String} {text? : Option String}
    (h : ∀ text ∈ text?, text ∈ texts) : Composed texts (orMissing text?) := by
  cases text? with
  | none => exact .plain (by decide)
  | some text => exact .sanitized (h text rfl)

theorem mem_texts_of_set {a : Analysis} {name : String} (h : name ∈ a.plot.sets) :
    name ∈ a.texts :=
  List.mem_append_left _ (List.mem_append_left _ h)

/-- The name and the members of a visible row are among the texts of the plot. -/
theorem mem_texts_of_row {a : Analysis} {row : Row} (hrow : row ∈ a.visible) {text : String}
    (h : text = row.name ∨ text ∈ row.members.names) : text ∈ a.texts := by
  refine List.mem_append_left _ (List.mem_append_right _ (List.mem_flatMap.mpr ⟨row, hrow, ?_⟩))
  exact List.mem_cons.mpr h

/-- The texts of the author are among those of the analysis. -/
theorem mem_texts_of_metadata {a : Analysis} {text : String}
    (h : text ∈ a.presentation.metadata.texts) : text ∈ a.texts := by
  simp only [texts, Presentation.texts, List.mem_append]
  exact .inr (.inl (.inl (.inl h)))

/-- A set that is looked for is one of the sets of the plot. -/
theorem mem_of_firstBest? {improves : Size → Size → Bool} {entries : List (String × Size)}
    {best : String × Size} (h : firstBest? improves entries = some best) : best ∈ entries := by
  cases entries with
  | nil => cases h
  | cons first rest =>
    obtain rfl := Option.some.inj h
    clear h
    induction rest generalizing first with
    | nil => simp
    | cons next rest ih =>
      rw [List.foldl_cons]
      split
      · have := ih next
        grind
      · have := ih first
        grind

/-- The name of the largest or smallest set is that of a set of the plot, or it is missing. -/
theorem composed_nameOf {a : Analysis} {improves : Size → Size → Bool} :
    Composed a.texts (nameOf (firstBest? improves a.sizedSets)) := by
  refine composed_orMissing fun name hname => ?_
  obtain ⟨best, hbest, rfl⟩ := Option.map_eq_some_iff.mp hname
  obtain ⟨set, hset, rfl⟩ := List.mem_map.mp (mem_of_firstBest? hbest)
  exact mem_texts_of_set hset

/-- The list of the sets is composed of their names. -/
theorem composed_setNames (a : Analysis) : Composed a.texts a.setNames := by
  refine .joinList fun item hitem => ?_
  obtain ⟨name, hname, rfl⟩ := List.mem_map.mp hitem
  exact .sanitized (mem_texts_of_set hname)

/-- A name with its size is composed. -/
theorem composed_sized {texts : List String} {name : String} (h : name ∈ texts) (size : Size) :
    Composed texts (sized name size) :=
  (((Composed.sanitized h).before (by decide)).before (plain_toString_nat _)).before (by decide)

/-- The list of the sets with their sizes is composed of their names and of figures. -/
theorem composed_setSizes (a : Analysis) : Composed a.texts a.setSizes := by
  refine .joinList fun item hitem => ?_
  obtain ⟨entry, hentry, rfl⟩ := List.mem_map.mp hitem
  obtain ⟨name, hname, rfl⟩ := List.mem_map.mp hentry
  exact composed_sized (mem_texts_of_set hname) _

/-- A size is a numeral, also for a set that is missing. -/
theorem plain_sizeOf (set? : Option (String × Size)) : Plain (sizeOf set?) := by
  cases set? with
  | none => decide
  | some set => exact plain_toString_nat _

/-- The members of a visible row, or its name, are quoted. -/
theorem composed_membership {a : Analysis} {row : Row} (h : row ∈ a.visible) :
    Composed a.texts row.membership := by
  unfold Row.membership
  split
  · exact .sanitized (mem_texts_of_row h (.inl rfl))
  · refine .joinList fun item hitem => ?_
    obtain ⟨name, hname, rfl⟩ := List.mem_map.mp hitem
    exact .sanitized (mem_texts_of_row h (.inr hname))

/-- Ranking brings in no rows. -/
theorem mem_of_mem_rankBy {rows : List Row} {field : RowField} {order : SortOrder} {row : Row}
    (h : row ∈ rankBy rows field order) : row ∈ rows :=
  (perm_stableSort _ rows).mem_iff.mp h

/-- The members of a leading row are sanitized once more as a whole. -/
theorem composed_leadingMembership (a : Analysis) (field : RowField) (order : SortOrder) :
    Composed a.texts (a.leadingMembership field order) := by
  unfold leadingMembership
  cases hhead : (rankBy a.visible field order).head? with
  | none => exact .plain (by decide)
  | some row =>
    exact (composed_membership (mem_of_mem_rankBy (List.mem_of_head? hhead))).again

/-- The list of the largest rows is composed of their names and sizes. -/
theorem composed_topRows (a : Analysis) : Composed a.texts a.topRows := by
  refine .joinList fun item hitem => ?_
  obtain ⟨row, hrow, rfl⟩ := List.mem_map.mp hitem
  have hvisible := mem_of_mem_rankBy (List.mem_of_mem_take hrow)
  exact composed_sized (mem_texts_of_row hvisible (.inl rfl)) _

theorem plain_factorPhrase (a : Analysis) : Plain a.factorPhrase := by
  unfold factorPhrase
  split
  · exact plain_ofList (by decide +kernel)
  · exact plain_ofList (by decide +kernel)
  · exact (Plain.append (by decide) (plain_toString_nat _)).append (by decide)

/-- The text about the degrees counts rows and names none. -/
theorem composed_degreeInfo (a : Analysis) : Composed a.texts a.degreeInfo := by
  unfold degreeInfo
  split
  · exact .plain (by decide)
  · refine .joinList fun item hitem => .plain ?_
    obtain ⟨⟨degree, summary⟩, _, rfl⟩ := List.mem_map.mp hitem
    exact ((plain_countNoun _ (by decide) (by decide)).append (by decide)).append
      (plain_toString_nat _)

theorem plain_label (kind : Kind) : Plain kind.label := by
  cases kind <;> decide

/-- A kind is counted in plain wording, and its first rows are quoted. -/
theorem composed_kindEntry? {a : Analysis} {kind : Kind} {entry : String}
    (h : a.kindEntry? kind = some entry) : Composed a.texts entry := by
  have hlabel := plain_label kind
  simp only [ kindEntry?] at h
  split at h
  · cases h
  · obtain rfl := Option.some.inj h
    refine .before (by decide) (.after ?_ (.joinList fun item hitem => ?_))
    · exact (plain_countNoun _ (hlabel.append (by decide)) (hlabel.append (by decide))).append
        (by decide)
    · rcases List.mem_append.mp hitem with hnamed | hothers
      · obtain ⟨row, hrow, rfl⟩ := List.mem_map.mp hnamed
        have hvisible := (List.mem_filter.mp (List.mem_of_mem_take hrow)).1
        exact .sanitized (mem_texts_of_row hvisible (.inl rfl))
      · split at hothers
        · cases hothers
        · rw [List.mem_singleton.mp hothers]
          exact .plain (plain_countNoun _ (by decide) (by decide))

/-- The summary of the kinds is composed of the names of rows and of numbers. -/
theorem composed_kindSummary (a : Analysis) : Composed a.texts a.kindSummary := by
  unfold kindSummary
  split
  · exact .plain (by decide)
  · refine .joinList fun item hitem => ?_
    obtain ⟨kind, _, hentry⟩ := List.mem_filterMap.mp hitem
    exact composed_kindEntry? hentry

theorem plain_sizeAt (a : Analysis) (percentage : Double) : Plain (a.sizeAt percentage) := by
  unfold sizeAt
  cases percentile a.visible .size percentage with
  | none => decide
  | some x => exact plain_toString_nat _

/-- The regions of a kind are named in plain wording. -/
theorem plain_phrase (regions : List Region) : Plain (Region.phrase regions) := by
  have hsizes : ∀ item ∈ (regions.filter (· != .largest)).map keyword, Plain item := by
    intro item hitem
    obtain ⟨region, _, rfl⟩ := List.mem_map.mp hitem
    cases region <;> decide
  refine plain_joinList fun item hitem => ?_
  rcases List.mem_append.mp hitem with hlargest | hothers
  · split at hlargest
    · rw [List.mem_singleton.mp hlargest]
      decide
    · cases hlargest
  · split at hothers
    · cases hothers
    · rw [List.mem_singleton.mp hothers]
      exact (plain_joinList hsizes).append (by decide)

/-- The text about the regions names kinds and regions, and no rows. -/
theorem plain_regionSummary (a : Analysis) : Plain a.regionSummary := by
  unfold regionSummary
  split
  · exact plain_ofList (by decide +kernel)
  · refine plain_intercalate (by decide) fun sentence hsentence => ?_
    obtain ⟨⟨kind, regions⟩, _, rfl⟩ := List.mem_map.mp hsentence
    exact ((Plain.append (by decide) (plain_label kind)).append (by decide)).append
      (plain_phrase regions)

theorem plain_elementsBelong (count : Size) : Plain (elementsBelong count) := by
  unfold elementsBelong
  split
  · decide
  · exact (plain_toString_nat _).append (by decide)

/-- How many elements are in no set is said without a text of the author. -/
theorem plain_emptyPhrase (a : Analysis) : Plain a.emptyPhrase := by
  unfold emptyPhrase
  split
  · exact (plain_elementsBelong _).append (by decide)
  · exact plain_ofList (by decide +kernel)

/-- All sets together are called by their number. -/
theorem plain_of_allSetsName? {setCount : Nat} {name : String}
    (h : allSetsName? setCount = some name) : Plain name := by
  unfold allSetsName? at h
  split at h
  · cases h
  · cases h
    decide
  · cases h
    exact (Plain.append (by decide) (plain_toString_nat _)).append (by decide)

theorem plain_allSetsPhrase (a : Analysis) : Plain a.allSetsPhrase := by
  unfold allSetsPhrase
  split
  · exact plain_ofList (by decide +kernel)
  · rename_i hsets _
    exact ((plain_elementsBelong _).append (by decide)).append (plain_of_allSetsName? hsets)
  · rename_i hsets _
    exact Plain.append (by decide) (plain_of_allSetsName? hsets)

end Analysis

namespace Presentation

/-- Bookmarks are listed by their labels. -/
theorem composed_bookmarkPhrase (p : Presentation) : Composed p.texts p.bookmarkPhrase := by
  have hentries : ∀ entry ∈ p.bookmarkEntries, Composed p.texts entry := by
    intro entry hentry
    obtain ⟨bookmark, hbookmark, rfl⟩ := List.mem_map.mp hentry
    have hlabel : bookmark.label ∈ p.texts := by
      simp only [texts, List.mem_append]
      exact .inl (.inl (.inr (List.mem_map_of_mem hbookmark)))
    exact (((Composed.sanitized hlabel).before (by decide)).before
      (plain_countNoun _ (by decide) (by decide))).before (by decide)
  unfold bookmarkPhrase
  split
  · exact .plain (by decide)
  · rename_i entry hentry
    exact .after (by decide) (hentries entry (hentry ▸ List.mem_singleton_self entry))
  · exact .after (by decide) (.joinList hentries)

/-- A filter of degrees is spoken of by its bounds. -/
theorem plain_of_degreeClause? {filters : Filters} {clause : String}
    (h : degreeClause? filters = some clause) : Plain clause := by
  unfold degreeClause? at h
  split at h <;> cases h
  · exact (((Plain.append (by decide) (plain_toString_nat _)).append (by decide)).append
      (plain_toString_nat _)).append (by decide)
  · exact (Plain.append (by decide) (plain_toString_nat _)).append (by decide)
  · exact (Plain.append (by decide) (plain_toString_nat _)).append (by decide)

/-- The filters are spoken of without any text of the author. -/
theorem plain_filterPhrase (p : Presentation) : Plain p.filterPhrase := by
  refine plain_joinList fun item hitem => ?_
  rcases List.mem_cons.mp hitem with rfl | hclause
  · split <;> decide
  · exact plain_of_degreeClause? (Option.mem_toList.mp hclause)

end Presentation

namespace SetQuery

/-- The texts that descriptions quote from a set query. -/
theorem composed_condition? {texts : List String} {verb clause : String} {sets : List String}
    (hverb : Plain verb) (hsets : ∀ set ∈ sets, Composed texts set)
    (h : condition? verb sets = some clause) : Composed texts clause := by
  unfold condition? at h
  split at h
  · cases h
  · obtain rfl := Option.some.inj h
    exact .after (hverb.append (by decide)) (.joinList hsets)

/-- A query is written with its name and the names of its sets. -/
theorem composed_phrase {texts : List String} {query : SetQuery}
    (h : ∀ text ∈ query.name :: query.memberships.names, text ∈ texts) :
    Composed texts query.phrase := by
  have hsets (wanted : QueryMembership) : ∀ set ∈ query.setsWith wanted, Composed texts set := by
    intro set hset
    obtain ⟨entry, hentry, rfl⟩ := List.mem_map.mp hset
    have hname : entry.1 ∈ query.memberships.names :=
      List.mem_map_of_mem (List.mem_filter.mp hentry).1
    exact .sanitized (h _ (List.mem_cons_of_mem _ hname))
  have hconditions : ∀ clause ∈ query.conditions, Composed texts clause := by
    intro clause hclause
    rcases List.mem_append.mp hclause with hyes | hno
    · exact composed_condition? (by decide) (hsets .yes) (Option.mem_toList.mp hyes)
    · exact composed_condition? (by decide) (hsets .no) (Option.mem_toList.mp hno)
  have hname : Composed texts (sanitize query.name) := .sanitized (h _ List.mem_cons_self)
  unfold phrase
  split
  · exact ((hname.after (by decide)).before (by decide)).before (by decide)
  · exact .append (by decide) (by decide) (hname.after (by decide))
      (.after (by decide) (.joinList hconditions))

end SetQuery

namespace Presentation

/-- The text about the query is composed of the texts of the presentation. -/
theorem composed_setQueryPhrase (p : Presentation) : Composed p.texts p.setQueryPhrase := by
  unfold setQueryPhrase
  cases hquery : p.setQuery with
  | none => exact .plain (by decide)
  | some query =>
    refine SetQuery.composed_phrase fun text htext => ?_
    simp only [texts, List.mem_append, hquery]
    exact .inl (.inr (by simpa using htext))

/-- The attributes are listed by their names. -/
theorem composed_attributePhrase (p : Presentation) : Composed p.texts p.attributePhrase := by
  unfold attributePhrase
  split
  · exact .plain (by decide)
  · refine .after ((plain_countNoun _ (by decide) (by decide)).append (by decide))
      (.joinList fun item hitem => ?_)
    obtain ⟨name, hname, rfl⟩ := List.mem_map.mp hitem
    exact .sanitized (List.mem_append_right _ hname)

end Presentation

theorem SortKey.plain_keyword (key : SortKey) : Plain (keyword key) := by
  cases key <;> decide

theorem SortOrder.plain_keyword (order : SortOrder) : Plain (keyword order) := by
  cases order <;> decide

theorem Divergence.plain_keyword (divergence : Divergence) : Plain (keyword divergence) := by
  cases divergence <;> decide

theorem Change.plain_keyword (change : Change) : Plain (keyword change) := by
  cases change <;> decide

theorem DegreeTrend.plain_verb (trend : DegreeTrend) : Plain trend.verb := by
  cases trend <;> decide

theorem TokenValue.plain_render_ofNat (a : Analysis) (n : Nat) :
    Plain ((TokenValue.ofNat n).render a) :=
  plain_toString_int _

/-- A figure has neither brackets nor line breaks, whatever number it is of. -/
theorem TokenValue.plain_render_number (a : Analysis) (x : Double) :
    Plain ((TokenValue.number x).render a) :=
  plain_figure x

/-- A share is plain, be its total taken or not. -/
theorem Analysis.plain_share (size : Size) (total : Except Overflow Size) :
    Plain (Overflow.shown (shareOf size <$> total)) := by
  cases total with
  | ok total => exact plain_percent _ _
  | error overflow =>
    cases overflow
    exact (by decide : Plain Overflow.addition.message)

namespace Token

/-- The text of every standard token is composed of wording and of the texts that are quoted. -/
theorem composed_render (a : Analysis) (totals : Totals) (token : Token) :
    Composed a.texts ((token.value a totals).render a) := by
  have hmetadata {text? : Option String} (h : ∀ text ∈ text?,
      text ∈ a.presentation.metadata.texts) : Composed a.texts (orMissing text?) :=
    Analysis.composed_orMissing fun text htext => Analysis.mem_texts_of_metadata (h text htext)
  have hpresentation {text : String} (h : Composed a.presentation.texts text) :
      Composed a.texts text := h.mono (List.subset_append_right _ _)
  cases token
  case title | caption | description | setsLabel | itemsLabel =>
    exact hmetadata fun text htext => by simp [Metadata.texts, Option.mem_def.mp htext]
  case setNames => exact a.composed_setNames
  case setSizes => exact a.composed_setSizes
  case maxSetName | minSetName => exact Analysis.composed_nameOf
  case maxMembership | minMembership | maxDeviationMembership | minDeviationMembership =>
    exact a.composed_leadingMembership _ _
  case topRows => exact a.composed_topRows
  case degreeInfo => exact a.composed_degreeInfo
  case kindSummary => exact a.composed_kindSummary
  case bookmarkPhrase => exact hpresentation a.presentation.composed_bookmarkPhrase
  case setQueryPhrase => exact hpresentation a.presentation.composed_setQueryPhrase
  case attributePhrase => exact hpresentation a.presentation.composed_attributePhrase
  case filterPhrase => exact .plain a.presentation.plain_filterPhrase
  case largestFactor => exact .plain a.plain_factorPhrase
  case lowerQuartile | upperQuartile => exact .plain (a.plain_sizeAt _)
  case regionSummary => exact .plain a.plain_regionSummary
  case emptyPhrase => exact .plain a.plain_emptyPhrase
  case allSetsPhrase => exact .plain a.plain_allSetsPhrase
  case maxSetShare | minSetShare | maxShare | minShare => exact .plain (Analysis.plain_share _ _)
  case averageSize | maxDeviation | minDeviation | positiveAverage | negativeAverage =>
    exact .plain (TokenValue.plain_render_number a _)
  case medianSize => exact .plain (plain_figure (UpSetProse.medianSize a.visible))
  case topCount => exact .plain (plain_toString_nat _)
  case maxSetSize | minSetSize => exact .plain (Analysis.plain_sizeOf _)
  case sortBy => exact .plain (SortKey.plain_keyword _)
  case sortOrder => exact .plain (SortOrder.plain_keyword _)
  case setDivergence => exact .plain (Divergence.plain_keyword _)
  case sizeChange | degreeChange => exact .plain (Change.plain_keyword _)
  case degreeTrend => exact .plain (DegreeTrend.plain_verb _)
  -- The remaining tokens are counts.
  all_goals exact .plain (TokenValue.plain_render_ofNat a _)

end Token
end UpSetProse
