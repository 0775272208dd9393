import UpSetProse.Template.Expansion
import UpSetProse.Template.Phrase

/-!
# The standard phrases

Every symbol has one phrase. Phrases of a level consist of sentences, one for each symbol; the other
phrases are single clauses in which the tokens stand.
-/

namespace UpSetProse

open Phrase (sentences space)

namespace Symbol

/-- The sentences of the first level. -/
def levelOnePhrase : Verbosity → Phrase
  | .low => sentences [titleLine, setList]
  | .medium => sentences [titleLine, setList, setSizes, visibleRows]
  | .high =>
    sentences [titleAndCaption, labels, setList, setSizes, setSizeList, visibleRows, sorting,
      filters, attributes]

/-- The sentences of the second level; high verbosity continues those of medium verbosity. -/
def levelTwoPhrase : SortKey → Verbosity → Phrase
  | .size, .low => sentences [extremes, kinds]
  | .size, .medium => sentences [extremes, factor, top, kinds, setExtremes]
  | .size, .high =>
    [PhrasePiece.symbol (levelTwo .size .medium)] ++ space ++
      sentences [statistics, regions, specialRows, bookmarks]
  | .degree, .low => sentences [degrees, kinds]
  | .degree, .medium => sentences [degrees, kinds, extremes, setExtremes]
  | .degree, .high =>
    [PhrasePiece.symbol (levelTwo .degree .medium)] ++ space ++
      sentences [statistics, regions, specialRows, bookmarks]
  | .deviation, .low => sentences [deviationExtremes, kinds]
  | .deviation, .medium => sentences [deviationExtremes, deviationSplit, kinds, setExtremes]
  | .deviation, .high =>
    [PhrasePiece.symbol (levelTwo .deviation .medium)] ++ space ++
      sentences [extremes, statistics, regions, specialRows, bookmarks]

/-- The phrase of a symbol. -/
def phrase : Symbol → Phrase
  | technique =>
    ["this is an UpSet plot, a visualization technique for set intersections that shows ",
     "how many elements each combination of sets has in common"]
  | matrix =>
    ["each column of the plot is an intersection. A matrix of dots shows which sets take ",
     "part in it: a filled dot means the set is included, and the filled dots of an ",
     "intersection are connected by a line"]
  | bars =>
    ["a bar above each column shows the size of the intersection, that is, the number of ",
     "elements that are in exactly these sets and in no other set. The deviation shows how ",
     "much larger or smaller an intersection is than expected if the sets were independent"]
  | levelOne verbosity => levelOnePhrase verbosity
  | titleLine => ["this UpSet plot is titled ", Token.title]
  | titleAndCaption =>
    ["this UpSet plot is titled ", Token.title, " and captioned ", Token.caption]
  | descriptionLine => ["the plot is described as follows: ", Token.description]
  | setList =>
    ["the plot shows the intersections of ", Token.setCount, " sets: ", Token.setNames]
  | setSizes =>
    ["the set sizes range from ", Token.minSetSize, " (", Token.minSetName, ") to ",
     Token.maxSetSize, " (", Token.maxSetName, "), and together the sets hold ",
     Token.universalSetSize, " elements, counting an element once per set"]
  | labels =>
    ["the sets represent ", Token.setsLabel, " and the elements represent ", Token.itemsLabel]
  | setSizeList => ["the set sizes are ", Token.setSizes]
  | visibleRows =>
    [Token.rowCount, " of the ", Token.unfilteredRowCount, " intersections and ",
     Token.visibleSetCount, " of the ", Token.setCount, " sets are visible. ",
     Token.nonEmptyRowCount, " of the visible intersections are non-empty, ",
     "ranging in size from ", Token.minSize, " to ", Token.maxSize, " elements"]
  | sorting =>
    ["the intersections are sorted by ", Token.sortBy, " in ", Token.sortOrder, " order"]
  | filters => [Token.filterPhrase]
  | attributes => [Token.attributePhrase]
  | bookmarks => [Token.bookmarkPhrase]
  | setQuery => [Token.setQueryPhrase]
  | levelTwo sortBy verbosity => levelTwoPhrase sortBy verbosity
  | extremes =>
    ["the largest intersection is ", Token.maxMembership, " with ", Token.maxSize,
     " elements (", Token.maxShare, " of the elements shown), and the smallest is ",
     Token.minMembership, " with ", Token.minSize, " elements (", Token.minShare, ")"]
  | factor => [Token.largestFactor]
  | top => ["the ", Token.topCount, " largest intersections are ", Token.topRows]
  | degrees => ["the plot contains ", Token.degreeInfo]
  | kinds => ["by degree, there are ", Token.kindSummary]
  | setExtremes =>
    ["the largest set is ", Token.maxSetName, " with ", Token.maxSetShare,
     " of all set memberships, and the smallest set is ", Token.minSetName, " with ",
     Token.minSetShare, ". The set sizes are ", Token.setDivergence]
  | deviationExtremes =>
    [Token.maxDeviationMembership,
     " rises the furthest above its expected size with a deviation of ", Token.maxDeviation,
     ", while ", Token.minDeviationMembership,
     " falls the furthest below it with a deviation of ", Token.minDeviation]
  | deviationSplit =>
    [Token.positiveCount, " intersections are larger than expected, holding ",
     Token.positiveSize, " elements with an average deviation of ", Token.positiveAverage,
     ", and ", Token.negativeCount, " are smaller than expected, holding ", Token.negativeSize,
     " elements with an average deviation of ", Token.negativeAverage]
  | statistics =>
    ["the average intersection size is ", Token.averageSize, " and the median is ",
     Token.medianSize, ". Half of the intersections hold between ", Token.lowerQuartile, " and ",
     Token.upperQuartile, " elements"]
  | regions => [Token.regionSummary]
  | specialRows => [Token.emptyPhrase, ". ", Token.allSetsPhrase]
  | sizeTrend =>
    ["across the visible intersections, the change in size is ", Token.sizeChange]
  | degreeTrend =>
    ["as the degree grows, the average intersection size ", Token.degreeTrend,
     ", and the change between degrees is ", Token.degreeChange]
  | summary =>
    ["an UpSet plot titled ", Token.title, " showing the intersections of ", Token.setCount,
     " sets: ", Token.setNames, ". The largest intersection is ", Token.maxMembership, " with ",
     Token.maxSize, " elements"]

end Symbol

/-- The written phrases of all symbols. -/
def PhraseTable.standard : PhraseTable :=
  .ofList (Symbol.all.map fun symbol => (symbol.name, symbol.phrase.write))

end UpSetProse
