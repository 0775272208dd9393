import UpSetProse.Narrative.Basic
import UpSetProse.Proofs.Token.Map
import UpSetProse.Proofs.Totals

/-!
# Rows that are not shown

The rows that filters hide are told from three tokens only: the number of all rows, and the phrases
on the elements in no set and in all sets. All other tokens are about the sets, the visible rows and
the presentation, so that plots which differ in hidden rows are described alike unless one of the
three tells them apart.
-/

namespace UpSetProse

/-- Plots that show the same; their unfiltered rows can differ. -/
structure Plot.SameView (p q : Plot) : Prop where
  sets : p.sets = q.sets
  sizes : p.sizes = q.sizes
  visible : p.visible = q.visible

theorem Plot.SameView.symm {p q : Plot} (h : p.SameView q) : q.SameView p :=
  ⟨h.sets.symm, h.sizes.symm, h.visible.symm⟩

namespace Analysis

/-- The same analysis is made of a plot that shows the same. -/
theorem ofPlot_of_sameView {p q : Plot} (h : p.SameView q) (presentation : Presentation) :
    ofPlot q presentation = (fun a => { a with plot := q }) <$> ofPlot p presentation := by
  unfold ofPlot
  rw [h.visible]
  simp only [map_bind, map_pure]

/-- No total is taken of hidden rows. -/
theorem totals_of_sameView {a : Analysis} {q : Plot} (h : a.plot.SameView q) :
    { a with plot := q }.totals = a.totals := by
  unfold totals universalSetSize visibleSize visible
  rw [h.sizes, h.visible]

end Analysis

namespace Token

/-- The tokens that are about all rows, hidden ones included. -/
def ofAllRows : List Token := [.unfilteredRowCount, .emptyPhrase, .allSetsPhrase]

variable {a : Analysis} {q : Plot} {token : Token}

/-- No other token reads the unfiltered rows of the plot, so that its text is the same whatever
they are. -/
theorem render_of_sameView (h : a.plot.SameView q) (totals : Totals) (ht : token ∉ ofAllRows) :
    (token.value { a with plot := q } totals).render { a with plot := q } =
      (token.value a totals).render a := by
  obtain ⟨⟨⟨sets, sizes, visible, rows⟩, _⟩, presentation, regions, degrees, deviations⟩ := a
  obtain ⟨⟨sets', sizes', visible', rows'⟩, _⟩ := q
  obtain ⟨rfl, rfl, rfl⟩ := h
  cases token
  case unfilteredRowCount | emptyPhrase | allSetsPhrase => exact absurd (by decide) ht
  all_goals rfl

/-- The number of unfiltered rows is an integer, so that no token is a number for one plot only. -/
theorem unrepresentable?_of_sameView (h : a.plot.SameView q) (totals : Totals) (token : Token) :
    (token.value { a with plot := q } totals).unrepresentable? =
      (token.value a totals).unrepresentable? := by
  obtain ⟨⟨⟨sets, sizes, visible, rows⟩, _⟩, presentation, regions, degrees, deviations⟩ := a
  obtain ⟨⟨sets', sizes', visible', rows'⟩, _⟩ := q
  obtain ⟨rfl, rfl, rfl⟩ := h
  cases token <;> rfl

end Token

namespace TokenMap

variable {p q : Plot} {presentation : Presentation} {map map' : TokenMap}

theorem standard_eq_error_of_sameView (h : p.SameView q) {error : TokenMapError}
    (herror : standard p presentation = .error error) :
    standard q presentation = .error error := by
  have hofPlot := Analysis.ofPlot_of_sameView h presentation
  rcases bind_eq_error.mp herror with hanalysis | ⟨a, hanalysis, hrest⟩
  · obtain ⟨overflow, ha, rfl⟩ := mapError_eq_error.mp hanalysis
    rw [ha] at hofPlot
    exact bind_eq_error.mpr (.inl (mapError_eq_error.mpr ⟨overflow, hofPlot, rfl⟩))
  · have ha := mapError_eq_ok.mp hanalysis
    obtain ⟨rfl, -⟩ := Analysis.ofPlot_eq_ok ha
    rw [ha] at hofPlot
    refine bind_eq_error.mpr (.inr ⟨{ a with plot := q }, mapError_eq_ok.mpr hofPlot, ?_⟩)
    rw [Analysis.totals_of_sameView h]
    rcases bind_eq_error.mp hrest with htotals | ⟨totals, htotals, htokens⟩
    · exact bind_eq_error.mpr (.inl htotals)
    · obtain ⟨refused, hregister, rfl⟩ := mapError_eq_error.mp htokens
      refine bind_eq_error.mpr
        (.inr ⟨totals, htotals, mapError_eq_error.mpr ⟨refused, ?_, rfl⟩⟩)
      exact registerAll_eq_error_of_alike hregister (fun _ => rfl)
        fun token _ => (Token.unrepresentable?_of_sameView h totals token).symm

theorem exists_standard_of_sameView (h : p.SameView q)
    (hmap : ∃ map, standard p presentation = .ok map) :
    ∃ map, standard q presentation = .ok map := by
  obtain ⟨map, hmap⟩ := hmap
  cases hq : standard q presentation with
  | ok map' => exact ⟨map', rfl⟩
  | error error => cases hmap.symm.trans (standard_eq_error_of_sameView h.symm hq)

theorem resolve_of_sameView (h : p.SameView q) (hmap : standard p presentation = .ok map)
    (hmap' : standard q presentation = .ok map') {name : String}
    (hname : name ∉ Token.ofAllRows.map Token.name) : map.resolve name = map'.resolve name := by
  obtain ⟨rfl, -, totals, htotals, hstandard⟩ := standard_eq_ok hmap
  obtain ⟨-, -, totals', htotals', hstandard'⟩ := standard_eq_ok hmap'
  have hanalysis : map'.analysis = { map.analysis with plot := q } := by
    have hq := ofPlot_of_standard hmap'
    rw [Analysis.ofPlot_of_sameView h, ofPlot_of_standard hmap] at hq
    exact (Except.ok.inj hq).symm
  obtain rfl : totals = totals' := by
    rw [hanalysis, Analysis.totals_of_sameView h] at htotals'
    exact Except.ok.inj (htotals.symm.trans htotals')
  by_cases hknown : ∃ token : Token, name = token.name
  · obtain ⟨token, rfl⟩ := hknown
    rw [hstandard.resolve_name, hstandard'.resolve_name, hanalysis]
    exact (Token.render_of_sameView h totals fun ht => hname (List.mem_map_of_mem ht)).symm
  · rw [not_exists] at hknown
    rw [hstandard.resolve_of_ne hknown, hstandard'.resolve_of_ne hknown]

/-- The three tokens tell how many unfiltered rows there are, and which of them are special. -/
theorem resolve_ofAllRows (h : p.SameView q) (hcount : p.rows.length = q.rows.length)
    (hspecial : SpecialRows.find p.rows p.setCount = SpecialRows.find q.rows p.setCount)
    (hmap : standard p presentation = .ok map) (hmap' : standard q presentation = .ok map') :
    ∀ token ∈ Token.ofAllRows, map.resolve token.name = map'.resolve token.name := by
  obtain ⟨rfl, -, _, -, hstandard⟩ := standard_eq_ok hmap
  obtain ⟨rfl, -, _, -, hstandard'⟩ := standard_eq_ok hmap'
  have hsets : map.analysis.plot.setCount = map'.analysis.plot.setCount :=
    congrArg List.length h.sets
  have hrows : map.analysis.specialRows = map'.analysis.specialRows := by
    rw [Analysis.specialRows, Analysis.specialRows, hspecial, hsets]
  intro token ht
  rw [hstandard.resolve_name, hstandard'.resolve_name]
  cases token
  case unfilteredRowCount =>
    simp only [Token.value, TokenValue.ofNat, TokenValue.render, TokenValue.evaluate, hcount]
  case emptyPhrase =>
    simp only [Token.value, TokenValue.render, TokenValue.evaluate, Analysis.emptyPhrase, hrows]
  case allSetsPhrase =>
    simp only [Token.value, TokenValue.render, TokenValue.evaluate, Analysis.allSetsPhrase, hrows,
      hsets]
  all_goals exact absurd ht (by decide)

end TokenMap

namespace Narrator

/-- The descriptions that narrators give agree: as plain text, in parts, and in the form asked
for. -/
structure Agree (m n : Narrator) : Prop where
  text : m.text = n.text
  structured : m.structured = n.structured
  generate : m.generate = n.generate

/-- Of the plot, a narrator sees the texts of tokens and by what the plot is sorted. -/
theorem agree_of_resolve {m n : Narrator} (hoptions : m.options = n.options)
    (hphrases : m.phrases = n.phrases)
    (hresolve : ∀ name, m.tokens.resolve name = n.tokens.resolve name)
    (hsize : m.tokens.size = n.tokens.size)
    (hpresentation : m.tokens.analysis.presentation = n.tokens.analysis.presentation) :
    m.Agree n := by
  have hsubstitution : m.tokens.substitution = n.tokens.substitution := by
    unfold TokenMap.substitution
    rw [funext hresolve, hsize]
  have hexpand (template : Phrase) : m.expand template = n.expand template := by
    unfold expand
    rw [hsubstitution, hoptions, hphrases]
  have htext : m.text = n.text := by
    unfold text template
    rw [hexpand, hoptions, hpresentation]
  have hstructured : m.structured = n.structured := by
    unfold structured sectionText
    simp only [hexpand, hresolve]
  refine ⟨htext, hstructured, ?_⟩
  unfold generate
  rw [htext, hstructured, hoptions]

end Narrator

namespace TokenMap

/-- Hidden rows neither let a map be built nor keep it from being built, and no text but those of
three tokens depends on them. If these tell two plots that show the same not apart, no description
does. -/
theorem hiddenRows_confined {p q : Plot} (h : p.SameView q) (presentation : Presentation) :
    ((∃ map, standard p presentation = .ok map) ↔ ∃ map, standard q presentation = .ok map) ∧
    (∀ error, standard p presentation = .error error ↔ standard q presentation = .error error) ∧
    ∀ map map', standard p presentation = .ok map → standard q presentation = .ok map' →
      (∀ name, name ∉ Token.ofAllRows.map Token.name → map.resolve name = map'.resolve name) ∧
      ((∀ token ∈ Token.ofAllRows, map.resolve token.name = map'.resolve token.name) →
        ∀ options phrases, Narrator.Agree ⟨options, map, phrases⟩ ⟨options, map', phrases⟩) := by
  refine ⟨⟨exists_standard_of_sameView h, exists_standard_of_sameView h.symm⟩, fun error =>
    ⟨standard_eq_error_of_sameView h, standard_eq_error_of_sameView h.symm⟩,
    fun map map' hmap hmap' => ?_⟩
  have hconfined (name : String) : name ∉ Token.ofAllRows.map Token.name →
      map.resolve name = map'.resolve name := resolve_of_sameView h hmap hmap'
  refine ⟨hconfined, fun halike options phrases => ?_⟩
  obtain ⟨-, hpresentation, _, -, hstandard⟩ := standard_eq_ok hmap
  obtain ⟨-, hpresentation', _, -, hstandard'⟩ := standard_eq_ok hmap'
  refine Narrator.agree_of_resolve rfl rfl (fun name => ?_)
    (hstandard.size.trans hstandard'.size.symm) (hpresentation.trans hpresentation'.symm)
  by_cases hname : name ∈ Token.ofAllRows.map Token.name
  · obtain ⟨token, ht, rfl⟩ := List.mem_map.mp hname
    exact halike token ht
  · exact hconfined name hname

end TokenMap

/-- A plot that hides a row. -/
def Plot.hiding : Plot where
  sets := ["a", "b"]
  sizes := .ofList [("a", 5), ("b", 9)]
  visible := [.sole "a" 5]
  rows := [.sole "a" 5, .sole "b" 7]
  faultless := by decide +kernel

/-- The same plot with a larger row in place of the hidden one. -/
def Plot.hidingLarger : Plot :=
  { Plot.hiding with rows := [.sole "a" 5, .sole "b" 9], faultless := by decide +kernel }

theorem TokenMap.hiddenRows_confined_larger :
    Plot.hiding.SameView .hidingLarger ∧
    ∃ map map', standard .hiding default = .ok map ∧ standard .hidingLarger default = .ok map' ∧
      map.resolve "max_size" = map'.resolve "max_size" ∧
      ∀ options phrases, Narrator.Agree ⟨options, map, phrases⟩ ⟨options, map', phrases⟩ := by
  have hview : Plot.hiding.SameView .hidingLarger := ⟨rfl, rfl, rfl⟩
  obtain ⟨hbuilt, -, hconfined⟩ := hiddenRows_confined hview default
  obtain ⟨map, hmap⟩ : ∃ map, standard .hiding default = .ok map :=
    exists_standard (by decide +kernel)
  obtain ⟨map', hmap'⟩ := hbuilt.mp ⟨map, hmap⟩
  obtain ⟨hothers, hagree⟩ := hconfined map map' hmap hmap'
  exact ⟨hview, map, map', hmap, hmap', hothers "max_size" (by decide),
    hagree (resolve_ofAllRows hview rfl rfl hmap hmap')⟩

end UpSetProse
