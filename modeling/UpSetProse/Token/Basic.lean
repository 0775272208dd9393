/-!
# The standard tokens

The facts that the phrases of the library mention, each under the name by which templates mark it.
-/

namespace UpSetProse

/-- A fact about a plot that phrases can mention. -/
inductive Token where
  | setCount | visibleSetCount | universalSetSize
  | rowCount | unfilteredRowCount | nonEmptyRowCount
  | maxSize | minSize | averageSize
  | maxDeviation | minDeviation
  | positiveCount | positiveSize | positiveAverage
  | negativeCount | negativeSize | negativeAverage
  | sortBy | sortOrder
  | title | caption | description | setsLabel | itemsLabel
  | setNames | setSizes
  | maxSetName | minSetName | maxSetSize | minSetSize | maxSetShare | minSetShare | setDivergence
  | maxMembership | minMembership | maxShare | minShare
  | topCount | topRows | largestFactor | degreeInfo | kindSummary
  | medianSize | lowerQuartile | upperQuartile
  | maxDeviationMembership | minDeviationMembership
  | sizeChange | degreeTrend | degreeChange | regionSummary
  | emptyPhrase | allSetsPhrase
  | bookmarkPhrase | filterPhrase | setQueryPhrase | attributePhrase
  deriving DecidableEq, Repr

namespace Token

/-- The name by which templates mark a token. -/
def name : Token → String
  | setCount => "set_count"
  | visibleSetCount => "visible_set_count"
  | universalSetSize => "universal_set_size"
  | rowCount => "subset_count"
  | unfilteredRowCount => "all_intersect_count"
  | nonEmptyRowCount => "pop_intersect_count"
  | maxSize => "max_size"
  | minSize => "min_size"
  | averageSize => "avg_size"
  | maxDeviation => "max_dev"
  | minDeviation => "min_dev"
  | positiveCount => "pos_dev_count"
  | positiveSize => "pos_dev_size"
  | positiveAverage => "pos_dev_avg"
  | negativeCount => "neg_dev_count"
  | negativeSize => "neg_dev_size"
  | negativeAverage => "neg_dev_avg"
  | sortBy => "sort_by"
  | sortOrder => "sort_order"
  | title => "title"
  | caption => "caption"
  | description => "description"
  | setsLabel => "sets_label"
  | itemsLabel => "items_label"
  | setNames => "list_set_names"
  | setSizes => "list_set_sizes"
  | maxSetName => "max_set_name"
  | minSetName => "min_set_name"
  | maxSetSize => "max_set_size"
  | minSetSize => "min_set_size"
  | maxSetShare => "max_set_perc"
  | minSetShare => "min_set_perc"
  | setDivergence => "set_divergence"
  | maxMembership => "list_max_membership"
  | minMembership => "list_min_membership"
  | maxShare => "max_perc"
  | minShare => "min_perc"
  | topCount => "top_count"
  | topRows => "list_max_5int"
  | largestFactor => "largest_factor_phrase"
  | degreeInfo => "list_degree_info"
  | kindSummary => "list_type_summary"
  | medianSize => "median_size"
  | lowerQuartile => "25perc_size"
  | upperQuartile => "75perc_size"
  | maxDeviationMembership => "list_max_dev_membership"
  | minDeviationMembership => "list_min_dev_membership"
  | sizeChange => "size_change_trend"
  | degreeTrend => "degree_trend"
  | degreeChange => "degree_change_trend"
  | regionSummary => "region_summary"
  | emptyPhrase => "empty_phrase"
  | allSetsPhrase => "all_set_phrase"
  | bookmarkPhrase => "bookmark_phrase"
  | filterPhrase => "filter_phrase"
  | setQueryPhrase => "set_query_phrase"
  | attributePhrase => "attribute_phrase"

/-- Every token, in the order of registration. -/
def all : List Token :=
  [.setCount, .visibleSetCount, .universalSetSize, .rowCount, .unfilteredRowCount,
   .nonEmptyRowCount, .maxSize, .minSize, .averageSize, .maxDeviation, .minDeviation,
   .positiveCount, .positiveSize, .positiveAverage, .negativeCount, .negativeSize,
   .negativeAverage, .sortBy, .sortOrder, .title, .caption, .description, .setsLabel, .itemsLabel,
   .setNames, .setSizes, .maxSetName, .minSetName, .maxSetSize, .minSetSize, .maxSetShare,
   .minSetShare, .setDivergence, .maxMembership, .minMembership, .maxShare, .minShare, .topCount,
   .topRows, .largestFactor, .degreeInfo, .kindSummary, .medianSize, .lowerQuartile,
   .upperQuartile, .maxDeviationMembership, .minDeviationMembership, .sizeChange, .degreeTrend,
   .degreeChange, .regionSummary, .emptyPhrase, .allSetsPhrase, .bookmarkPhrase, .filterPhrase,
   .setQueryPhrase, .attributePhrase]

end Token
end UpSetProse
