import UpSetProse.Proofs.NameTable
import UpSetProse.Proofs.Outcomes
import UpSetProse.Token.Standard

/-!
# What a token map holds

Registration either fails or adds one token under a new name. A map is thereby exactly the list of
tokens that it was built from; the standard map holds every standard token with its value over the
analysed plot, and no other name.
-/

namespace UpSetProse.TokenMap

/-- A call is refused for a name that is taken, and changes nothing. -/
theorem attempt_of_contains {map : TokenMap} {name : String} (h : map.contains name)
    (value : TokenValue) : map.attempt name value = (.error (.duplicate name), map) := by
  simp [attempt, h]

/-- A call is refused for a number that is not finite, and changes nothing. -/
theorem attempt_of_unrepresentable {map : TokenMap} {name : String} {value : TokenValue}
    {x : Double} (hnew : ¬ map.contains name) (hx : value.unrepresentable? = some x) :
    map.attempt name value = (.error (.invalidLiteral name x.toText), map) := by
  simp [attempt, hnew, hx]

/-- Any other call is accepted, and adds one token. -/
theorem attempt_of_representable {map : TokenMap} {name : String} {value : TokenValue}
    (hnew : ¬ map.contains name) (hvalue : value.unrepresentable? = none) :
    map.attempt name value = (.ok (), ⟨map.analysis, map.values.insert name value⟩) := by
  simp [attempt, hnew, hvalue]

/-- What a successful registration is given and what it leaves. -/
theorem register_eq_ok {map map' : TokenMap} {name : String} {value : TokenValue}
    (h : map.register name value = .ok map') :
    map.values.get? name = none ∧ map' = ⟨map.analysis, map.values.insert name value⟩ := by
  unfold register at h
  by_cases htaken : map.contains name
  · rw [attempt_of_contains htaken] at h
    cases h
  · cases hvalue : value.unrepresentable? with
    | some x =>
      rw [attempt_of_unrepresentable htaken hvalue] at h
      cases h
    | none =>
      rw [attempt_of_representable htaken hvalue] at h
      cases h
      exact ⟨by simpa [contains] using htaken, rfl⟩

/-- A registration is refused for a name that is taken, or else for a number that is not finite. -/
theorem register_eq_error_iff {map : TokenMap} {name : String} {value : TokenValue}
    {e : TokenError} :
    map.register name value = .error e ↔
      map.contains name ∧ .duplicate name = e ∨
        ¬ map.contains name ∧ ∃ x, value.unrepresentable? = some x ∧
          .invalidLiteral name x.toText = e := by
  unfold register
  by_cases htaken : map.contains name
  · simp [attempt_of_contains htaken, htaken, Except.map]
  · cases hvalue : value.unrepresentable? with
    | some x => simp [attempt_of_unrepresentable htaken hvalue, htaken, Except.map]
    | none => simp [attempt_of_representable htaken hvalue, htaken, Except.map]

/-- Two maps with the same names refuse tokens that are representable alike for the same reason. -/
theorem registerAll_eq_error_of_alike {ι : Type} {name : ι → String} {value value' : ι → TokenValue}
    {items : List ι} {map map' : TokenMap} {e : TokenError}
    (h : map.registerAll (items.map fun item => (name item, value item)) = .error e)
    (hnames : ∀ name, map.contains name = map'.contains name)
    (hvalues : ∀ item ∈ items, (value item).unrepresentable? = (value' item).unrepresentable?) :
    map'.registerAll (items.map fun item => (name item, value' item)) = .error e := by
  induction items generalizing map map' with
  | nil => cases h
  | cons item items ih =>
    obtain ⟨hvalue, hvalues⟩ := List.forall_mem_cons.mp hvalues
    have hrefused {e : TokenError} : map.register (name item) (value item) = .error e ↔
        map'.register (name item) (value' item) = .error e := by
      rw [register_eq_error_iff, register_eq_error_iff, hnames, hvalue]
    rw [List.map_cons, registerAll, List.foldlM_cons, bind_eq_error] at h ⊢
    rcases h with hfirst | ⟨next, hfirst, hrest⟩
    · exact .inl (hrefused.mp hfirst)
    · refine .inr ?_
      cases hfirst' : map'.register (name item) (value' item) with
      | error e' => cases hfirst.symm.trans (hrefused.mpr hfirst')
      | ok next' =>
        obtain ⟨-, rfl⟩ := register_eq_ok hfirst
        obtain ⟨-, rfl⟩ := register_eq_ok hfirst'
        refine ⟨_, rfl, ih hrest (fun other => ?_) hvalues⟩
        have hother := hnames other
        unfold contains at hother ⊢
        rw [NameTable.get?_insert, NameTable.get?_insert]
        split
        · rfl
        · exact hother

/-- Tokens with new names are registered, each name once, if all their numbers are finite. -/
theorem exists_registerAll {map : TokenMap} {tokens : List (String × TokenValue)}
    (hnodup : (tokens.map (·.1)).Nodup) (hnew : ∀ token ∈ tokens, map.values.get? token.1 = none)
    (hvalues : ∀ token ∈ tokens, token.2.unrepresentable? = none) :
    ∃ map', map.registerAll tokens = .ok map' := by
  induction tokens generalizing map with
  | nil => exact ⟨map, rfl⟩
  | cons token tokens ih =>
    obtain ⟨hname, hnodup⟩ := List.nodup_cons.mp hnodup
    obtain ⟨hfirst, hnew⟩ := List.forall_mem_cons.mp hnew
    obtain ⟨hvalue, hvalues⟩ := List.forall_mem_cons.mp hvalues
    have hregister : map.register token.1 token.2 =
        .ok ⟨map.analysis, map.values.insert token.1 token.2⟩ := by
      have hfree : ¬ map.contains token.1 := by simp [contains, hfirst]
      rw [register, attempt_of_representable hfree hvalue]
      rfl
    have hrest : ∀ other ∈ tokens, (map.values.insert token.1 token.2).get? other.1 = none := by
      intro other hother
      have hne : other.1 ≠ token.1 := fun heq => hname (List.mem_map.mpr ⟨other, hother, heq⟩)
      rw [NameTable.get?_insert, if_neg hne]
      exact hnew other hother
    obtain ⟨map', hmap'⟩ : ∃ map', registerAll ⟨map.analysis, _⟩ tokens = .ok map' :=
      ih hnodup hrest hvalues
    exact ⟨map', bind_eq_ok.mpr ⟨_, hregister, hmap'⟩⟩

/-- Registered tokens are held in addition to those before, and nothing else is. -/
theorem get?_registerAll {map map' : TokenMap} {tokens : List (String × TokenValue)}
    (h : map.registerAll tokens = .ok map') (name : String) (value : TokenValue) :
    map'.values.get? name = some value ↔
      (name, value) ∈ tokens ∨ map.values.get? name = some value := by
  induction tokens generalizing map with
  | nil =>
    cases h
    simp
  | cons token tokens ih =>
    obtain ⟨next, hregister, hrest⟩ := bind_eq_ok.mp h
    obtain ⟨hnew, rfl⟩ := register_eq_ok hregister
    rw [ih hrest, NameTable.get?_insert, List.mem_cons]
    by_cases heq : name = token.1
    · subst heq
      rw [if_pos rfl, hnew]
      grind
    · rw [if_neg heq]
      grind

/-- Registration adds one token at a time and does not touch the analysed plot. -/
theorem size_registerAll {map map' : TokenMap} {tokens : List (String × TokenValue)}
    (h : map.registerAll tokens = .ok map') :
    map'.analysis = map.analysis ∧ map'.size = map.size + tokens.length := by
  induction tokens generalizing map with
  | nil =>
    cases h
    simp
  | cons token tokens ih =>
    obtain ⟨next, hregister, hrest⟩ := bind_eq_ok.mp h
    obtain ⟨hnew, rfl⟩ := register_eq_ok hregister
    obtain ⟨hanalysis, hsize⟩ := ih hrest
    refine ⟨hanalysis, ?_⟩
    rw [hsize, size, NameTable.length_entries_insert hnew, size, List.length_cons]
    omega

end UpSetProse.TokenMap

namespace UpSetProse

/-- Every token is registered. -/
theorem Token.mem_all (token : Token) : token ∈ Token.all := by
  cases token <;> decide

/-- No two tokens have the same name. -/
theorem Token.nodup_names : (Token.all.map Token.name).Nodup := by decide +kernel

theorem Token.nodup_entries (value : Token → TokenValue) :
    ((Token.all.map fun token => (token.name, value token)).map (·.1)).Nodup := by
  rw [List.map_map]
  exact Token.nodup_names

/-- An analysis is about the plot and the presentation that it was made of. -/
theorem Analysis.ofPlot_eq_ok {plot : Plot} {presentation : Presentation} {a : Analysis}
    (h : Analysis.ofPlot plot presentation = .ok a) :
    a.plot = plot ∧ a.presentation = presentation := by
  obtain ⟨regions, _, h⟩ := bind_eq_ok.mp h
  obtain ⟨degrees, _, h⟩ := bind_eq_ok.mp h
  obtain ⟨deviations, _, h⟩ := bind_eq_ok.mp h
  obtain rfl := pure_eq_ok.mp h
  exact ⟨rfl, rfl⟩

/-- The parts of an analysis are those of the visible rows. -/
theorem Analysis.parts_of_ofPlot {plot : Plot} {presentation : Presentation} {a : Analysis}
    (h : Analysis.ofPlot plot presentation = .ok a) :
    RegionMap.ofRows plot.visible = .ok a.regions ∧
      DegreeSummaries.ofRows plot.visible maxSummarizedDegree = .ok a.degrees ∧
      DeviationSplit.ofRows plot.visible = .ok a.deviations := by
  obtain ⟨regions, hregions, h⟩ := bind_eq_ok.mp h
  obtain ⟨degrees, hdegrees, h⟩ := bind_eq_ok.mp h
  obtain ⟨deviations, hdeviations, h⟩ := bind_eq_ok.mp h
  obtain rfl := pure_eq_ok.mp h
  exact ⟨hregions, hdegrees, hdeviations⟩

namespace TokenMap

/-- A standard map is built once its analysis and its totals are, if all their numbers are
finite. -/
theorem exists_standard {plot : Plot} {presentation : Presentation}
    (h : ∃ a ∈ (Analysis.ofPlot plot presentation).toOption, ∃ totals ∈ a.totals.toOption,
      ∀ token ∈ Token.all, (token.value a totals).unrepresentable? = none) :
    ∃ map, standard plot presentation = .ok map := by
  obtain ⟨a, ha, totals, htotals, hvalues⟩ := h
  obtain ⟨map, hmap⟩ : ∃ map, (empty a).registerAll _ = .ok map :=
    exists_registerAll (Token.nodup_entries _) (fun _ _ => rfl) (List.forall_mem_map.mpr hvalues)
  exact ⟨map, bind_eq_ok.mpr ⟨a, mapError_eq_ok.mpr (mem_toOption.mp ha), bind_eq_ok.mpr
    ⟨totals, mapError_eq_ok.mpr (mem_toOption.mp htotals), mapError_eq_ok.mpr hmap⟩⟩⟩

/-- A standard map is over the analysis of its plot. -/
theorem ofPlot_of_standard {plot : Plot} {presentation : Presentation} {map : TokenMap}
    (h : standard plot presentation = .ok map) :
    Analysis.ofPlot plot presentation = .ok map.analysis := by
  obtain ⟨a, ha, h⟩ := bind_eq_ok.mp h
  obtain ⟨totals, _, h⟩ := bind_eq_ok.mp h
  rw [(size_registerAll (mapError_eq_ok.mp h)).1]
  exact mapError_eq_ok.mp ha

/-- A registered name resolves to the text of its value. -/
theorem resolve_of_get?_eq_some {map : TokenMap} {name : String} {value : TokenValue}
    (h : map.values.get? name = some value) : map.resolve name = value.render map.analysis := by
  simp only [resolve, evaluate, h, TokenValue.render]

/-- A name that is not registered resolves to itself in single braces. -/
theorem resolve_of_get?_eq_none {map : TokenMap} {name : String}
    (h : map.values.get? name = none) : map.resolve name = "\x7b" ++ name ++ "\x7d" := by
  simp only [resolve, evaluate, h, Overflow.shown]

/-- A map holds exactly the standard tokens, each with its value for some totals. -/
structure IsStandard (map : TokenMap) (totals : Totals) : Prop where
  size : map.size = Token.all.length
  get? : ∀ (name : String) (value : TokenValue), map.values.get? name = some value ↔
    ∃ token : Token, name = token.name ∧ value = token.value map.analysis totals

/-- A standard map is one, over the plot and the presentation that it was built for. -/
theorem standard_eq_ok {plot : Plot} {presentation : Presentation} {map : TokenMap}
    (h : standard plot presentation = .ok map) :
    map.analysis.plot = plot ∧ map.analysis.presentation = presentation ∧
      ∃ totals, map.analysis.totals = .ok totals ∧ map.IsStandard totals := by
  obtain ⟨a, ha, h⟩ := bind_eq_ok.mp h
  obtain ⟨totals, htotals, h⟩ := bind_eq_ok.mp h
  have hregister := mapError_eq_ok.mp h
  obtain ⟨hanalysis, hsize⟩ := size_registerAll hregister
  obtain ⟨hplot, hpresentation⟩ := Analysis.ofPlot_eq_ok (mapError_eq_ok.mp ha)
  rw [hanalysis]
  refine ⟨hplot, hpresentation, totals, mapError_eq_ok.mp htotals, ?_, fun name value => ?_⟩
  · simpa [size, empty, NameTable.empty] using hsize
  · rw [get?_registerAll hregister, hanalysis]
    simp only [List.mem_map, Prod.mk.injEq, empty]
    constructor
    · rintro (⟨token, _, rfl, rfl⟩ | hempty)
      · exact ⟨token, rfl, rfl⟩
      · cases hempty
    · rintro ⟨token, rfl, rfl⟩
      exact .inl ⟨token, token.mem_all, rfl, rfl⟩

namespace IsStandard

variable {map : TokenMap} {totals : Totals}

/-- A standard token resolves to the text of its value. -/
theorem resolve_name (h : map.IsStandard totals) (token : Token) :
    map.resolve token.name = (token.value map.analysis totals).render map.analysis :=
  resolve_of_get?_eq_some ((h.get? _ _).mpr ⟨token, rfl, rfl⟩)

/-- Any other name resolves to itself in single braces. -/
theorem resolve_of_ne (h : map.IsStandard totals) {name : String}
    (hname : ∀ token : Token, name ≠ token.name) :
    map.resolve name = "\x7b" ++ name ++ "\x7d" := by
  have hnone : map.values.get? name = none := by
    refine Option.eq_none_iff_forall_ne_some.mpr fun value hvalue => ?_
    obtain ⟨token, htoken, _⟩ := (h.get? name value).mp hvalue
    exact hname token htoken
  exact resolve_of_get?_eq_none hnone

end IsStandard

section Computed

variable {plot : Plot} {presentation : Presentation} {map : TokenMap} {token : Token}
  {produce : Analysis → String}

/-- A token whose text is computed resolves to what is computed from the analysis. -/
theorem resolve_of_computed (h : standard plot presentation = .ok map)
    (htoken : ∀ a totals, token.value a totals = .computed produce) :
    map.resolve token.name = produce map.analysis := by
  obtain ⟨-, -, totals, -, hstandard⟩ := standard_eq_ok h
  rw [hstandard.resolve_name, htoken]
  rfl

/-- Its text is seen from the analysis of the plot alone. -/
theorem resolve_of_ofPlot (h : standard plot presentation = .ok map)
    (htoken : ∀ a totals, token.value a totals = .computed produce) {text : String}
    (htext : (Analysis.ofPlot plot presentation).toOption.map produce = some text) :
    map.resolve token.name = text := by
  rw [ofPlot_of_standard h] at htext
  rw [resolve_of_computed h htoken]
  exact Option.some.inj htext

end Computed

end TokenMap
end UpSetProse
