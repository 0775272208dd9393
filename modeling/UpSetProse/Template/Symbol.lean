import UpSetProse.Vocabulary

/-!
# The symbols of the standard phrases

Templates are put together from named phrases. Each phrase has a symbol, and the choice of a phrase
by verbosity or sort key is a family of symbols.
-/

namespace UpSetProse

/-- A symbol of the standard phrases. -/
inductive Symbol where
  -- What an UpSet plot is.
  | technique | matrix | bars
  -- What this plot shows.
  | levelOne (verbosity : Verbosity)
  | titleLine | titleAndCaption | descriptionLine
  | setList | setSizes | labels | setSizeList
  | visibleRows | sorting | filters | attributes | bookmarks | setQuery
  -- What its data says.
  | levelTwo (sortBy : SortKey) (verbosity : Verbosity)
  | extremes | factor | top | degrees | kinds | setExtremes
  | deviationExtremes | deviationSplit | statistics | regions | specialRows
  -- How its sizes change.
  | sizeTrend | degreeTrend
  -- The plot in short.
  | summary
  deriving DecidableEq, Repr

namespace Symbol

/-- The name by which templates mark a symbol. -/
def name : Symbol → String
  | technique => "upset_intro"
  | matrix => "upset_matrix"
  | bars => "upset_bars"
  | levelOne verbosity => "l1_" ++ keyword verbosity
  | titleLine => "title_line"
  | titleAndCaption => "title_capt"
  | descriptionLine => "description_line"
  | setList => "set_list"
  | setSizes => "set_sizes"
  | labels => "labels"
  | setSizeList => "set_size_list"
  | visibleRows => "pop_intersections"
  | sorting => "sort_phrase"
  | filters => "filters"
  | attributes => "list_vars"
  | bookmarks => "bookmarks"
  | setQuery => "set_query"
  | levelTwo sortBy verbosity => "l2_" ++ keyword sortBy ++ "_" ++ keyword verbosity
  | extremes => "largest"
  | factor => "factor"
  | top => "top"
  | degrees => "degrees"
  | kinds => "types"
  | setExtremes => "set_extremes"
  | deviationExtremes => "dev_extremes"
  | deviationSplit => "dev_split"
  | statistics => "stats"
  | regions => "regions"
  | specialRows => "special"
  | sizeTrend => "trend_sizes"
  | degreeTrend => "trend_degree"
  | summary => "short_desc"

/-- Every symbol. -/
def all : List Symbol :=
  [technique, matrix, bars] ++ (Keyword.all : List Verbosity).map levelOne ++
  [titleLine, titleAndCaption, descriptionLine, setList, setSizes, labels, setSizeList,
   visibleRows, sorting, filters, attributes, bookmarks, setQuery] ++
  (Keyword.all : List SortKey).flatMap (fun sortBy =>
    (Keyword.all : List Verbosity).map (levelTwo sortBy)) ++
  [extremes, factor, top, degrees, kinds, setExtremes, deviationExtremes, deviationSplit,
   statistics, regions, specialRows, sizeTrend, degreeTrend, summary]

end Symbol
end UpSetProse
