import UpSetProse.Proofs.Plot.Consistency
import UpSetProse.Proofs.Statistics.Deviations
import UpSetProse.Proofs.Token.Registration
import UpSetProse.Proofs.Totals

/-!
# Plots that no token map is built for

Where no total of sizes overflows, all standard tokens are representable but two: the average
deviations above and below the expected sizes, whose running sums may leave the finite doubles. A
standard map is built exactly if neither sum does, and otherwise the average above is refused before
the one below. With at most 99 rows on each side, as they are made of records, neither sum does; a
hundred rows can be too many.
-/

namespace UpSetProse

/-- Which of two averages is refused, and how that is reported. -/
inductive DeviationSplit.Refused (split : DeviationSplit) : TokenError → Prop
  | positive (hpositive : split.positive.averageDeviation.isFinite = false) :
    Refused split (.invalidLiteral Token.positiveAverage.name
      split.positive.averageDeviation.toText)
  | negative (hpositive : split.positive.averageDeviation.isFinite = true)
    (hnegative : split.negative.averageDeviation.isFinite = false) :
    Refused split (.invalidLiteral Token.negativeAverage.name
      split.negative.averageDeviation.toText)

theorem DeviationSplit.exists_refused_iff (split : DeviationSplit) :
    (∃ e, split.Refused e) ↔ ¬ (split.positive.averageDeviation.isFinite = true ∧
      split.negative.averageDeviation.isFinite = true) := by
  rw [not_and, Bool.not_eq_true]
  constructor
  · rintro ⟨e, hrefused | ⟨_, hrefused⟩⟩ hpositive
    · cases hpositive.symm.trans hrefused
    · exact hrefused
  · intro h
    cases hpositive : split.positive.averageDeviation.isFinite with
    | false => exact ⟨_, .positive hpositive⟩
    | true => exact ⟨_, .negative hpositive (h hpositive)⟩

theorem Size.isFinite_mean (total : Size) (count : Nat) : (total.mean count).isFinite = true :=
  Double.isFinite_quotientOrZero count
    (Double.within_ofNat (significant_two_pow 64) (by decide +kernel) total.toNat_lt.le).isFinite

namespace Token

variable {a : Analysis} {totals : Totals}

/-- The two averages are the only tokens that can be unrepresentable. -/
theorem unrepresentable?_value {token : Token}
    (hfinite : ∀ row ∈ a.visible, row.deviation.isFinite = true)
    (hpositive : token ≠ positiveAverage) (hnegative : token ≠ negativeAverage) :
    (token.value a totals).unrepresentable? = none := by
  cases token
  case positiveAverage => exact absurd rfl hpositive
  case negativeAverage => exact absurd rfl hnegative
  case averageSize =>
    exact TokenValue.unrepresentable?_number_eq_none_iff.mpr (Size.isFinite_mean _ _)
  case maxDeviation =>
    exact TokenValue.unrepresentable?_number_eq_none_iff.mpr
      (Row.isFinite_greatestDeviation hfinite)
  case minDeviation =>
    exact TokenValue.unrepresentable?_number_eq_none_iff.mpr (Row.isFinite_leastDeviation hfinite)
  all_goals rfl

end Token

namespace TokenMap

/-- Registration of new names stops at the first number that is not finite. -/
theorem registerAll_eq_invalidLiteral {map : TokenMap} {before after : List (String × TokenValue)}
    {name : String} {value : TokenValue} {x : Double}
    (hnodup : ((before ++ (name, value) :: after).map (·.1)).Nodup)
    (hnew : ∀ name, map.values.get? name = none)
    (hbefore : ∀ token ∈ before, token.2.unrepresentable? = none)
    (hx : value.unrepresentable? = some x) :
    map.registerAll (before ++ (name, value) :: after) =
      .error (.invalidLiteral name x.toText) := by
  rw [List.map_append, List.map_cons, List.nodup_append'] at hnodup
  obtain ⟨hbeforeNodup, -, hdisjoint⟩ := hnodup
  obtain ⟨next, hnext⟩ := exists_registerAll hbeforeNodup (fun token _ => hnew token.1) hbefore
  have hfree : ¬ next.contains name := by
    rw [not_contains_iff]
    refine Option.eq_none_iff_forall_ne_some.mpr fun held hheld => ?_
    rcases (get?_registerAll hnext name held).mp hheld with hmem | hbefore
    · exact hdisjoint (List.mem_map.mpr ⟨_, hmem, rfl⟩) List.mem_cons_self
    · cases (hnew name).symm.trans hbefore
  rw [registerAll, List.foldlM_append]
  exact bind_eq_error.mpr (.inr ⟨next, hnext, bind_eq_error.mpr
    (.inl (register_eq_error_iff.mpr (.inr ⟨hfree, x, hx, rfl⟩)))⟩)

variable {a : Analysis} {totals : Totals}

/-- The standard tokens are registered up to the first that is unrepresentable. -/
theorem registerAll_standard_eq_error {before after : List Token} {token : Token} {x : Double}
    (hsplit : Token.all = before ++ token :: after)
    (hbefore : ∀ earlier ∈ before, (earlier.value a totals).unrepresentable? = none)
    (hx : (token.value a totals).unrepresentable? = some x) :
    (empty a).registerAll (Token.all.map fun token => (token.name, token.value a totals)) =
      .error (.invalidLiteral token.name x.toText) := by
  have hnodup := Token.nodup_entries fun token => token.value a totals
  rw [hsplit, List.map_append, List.map_cons] at hnodup ⊢
  exact registerAll_eq_invalidLiteral hnodup (fun _ => rfl) (List.forall_mem_map.mpr hbefore) hx

/-- An average that is refused ends the registration: the tokens before it are representable. -/
theorem registerAll_standard_of_refused
    (hfinite : ∀ row ∈ a.visible, row.deviation.isFinite = true) {e : TokenError}
    (h : a.deviations.Refused e) :
    (empty a).registerAll (Token.all.map fun token => (token.name, token.value a totals)) =
      .error e := by
  cases h with
  | positive hpositive =>
    have hsplit : Token.all = Token.all.takeWhile (· != .positiveAverage) ++ .positiveAverage ::
        (Token.all.dropWhile (· != .positiveAverage)).tail := by decide
    have hbefore : ∀ earlier ∈ Token.all.takeWhile (· != .positiveAverage),
        earlier ≠ .positiveAverage ∧ earlier ≠ .negativeAverage := by decide
    refine registerAll_standard_eq_error hsplit (fun earlier hearlier => ?_)
      (TokenValue.unrepresentable?_eq_some_iff.mpr ⟨rfl, hpositive⟩)
    exact Token.unrepresentable?_value hfinite (hbefore earlier hearlier).1
      (hbefore earlier hearlier).2
  | negative hpositive hnegative =>
    have hsplit : Token.all = Token.all.takeWhile (· != .negativeAverage) ++ .negativeAverage ::
        (Token.all.dropWhile (· != .negativeAverage)).tail := by decide
    have hbefore : ∀ earlier ∈ Token.all.takeWhile (· != .negativeAverage),
        earlier ≠ .negativeAverage := by decide
    refine registerAll_standard_eq_error hsplit (fun earlier hearlier => ?_)
      (TokenValue.unrepresentable?_eq_some_iff.mpr ⟨rfl, hnegative⟩)
    by_cases heq : earlier = .positiveAverage
    · rw [heq]
      exact TokenValue.unrepresentable?_number_eq_none_iff.mpr hpositive
    · exact Token.unrepresentable?_value hfinite heq (hbefore earlier hearlier)

/-- With both averages finite all tokens are registered. -/
theorem exists_registerAll_standard
    (hfinite : ∀ row ∈ a.visible, row.deviation.isFinite = true)
    (hpositive : a.deviations.positive.averageDeviation.isFinite = true)
    (hnegative : a.deviations.negative.averageDeviation.isFinite = true) :
    ∃ map, (empty a).registerAll
      (Token.all.map fun token => (token.name, token.value a totals)) = .ok map := by
  refine exists_registerAll (Token.nodup_entries _) (fun _ _ => rfl)
    (List.forall_mem_map.mpr fun token _ => ?_)
  by_cases habove : token = .positiveAverage
  · rw [habove]
    exact TokenValue.unrepresentable?_number_eq_none_iff.mpr hpositive
  by_cases hbelow : token = .negativeAverage
  · rw [hbelow]
    exact TokenValue.unrepresentable?_number_eq_none_iff.mpr hnegative
  exact Token.unrepresentable?_value hfinite habove hbelow

/-- Registration of the standard tokens fails exactly if an average is refused. -/
theorem registerAll_standard_eq_error_iff
    (hfinite : ∀ row ∈ a.visible, row.deviation.isFinite = true) {e : TokenError} :
    (empty a).registerAll (Token.all.map fun token => (token.name, token.value a totals)) =
      .error e ↔ a.deviations.Refused e := by
  refine ⟨fun herror => ?_, registerAll_standard_of_refused hfinite⟩
  by_cases hrefused : ∃ e, a.deviations.Refused e
  · obtain ⟨other, hother⟩ := hrefused
    obtain rfl := Except.error.inj
      (herror.symm.trans (registerAll_standard_of_refused hfinite hother))
    exact hother
  · rw [DeviationSplit.exists_refused_iff, not_not] at hrefused
    obtain ⟨map, hmap⟩ := exists_registerAll_standard hfinite hrefused.1 hrefused.2
    cases herror.symm.trans hmap

/-! ## Whole plots -/

variable {plot : Plot} {presentation : Presentation}

/-- Where no total overflows, a standard map fails exactly for an average that is refused. -/
theorem standard_eq_error_iff (hvisible : Row.exactSize plot.visible < UInt64.size)
    (hsets : Size.exactTotal plot.sizes.values < UInt64.size) {split : DeviationSplit}
    (hsplit : DeviationSplit.ofRows plot.visible = .ok split) {e : TokenMapError} :
    standard plot presentation = .error e ↔
      ∃ refused, split.Refused refused ∧ .token refused = e := by
  obtain ⟨a, ha⟩ : ∃ a, Analysis.ofPlot plot presentation = .ok a :=
    (Row.totalled_of_lt hvisible).exists_ofPlot presentation
  obtain ⟨rfl, -⟩ := Analysis.ofPlot_eq_ok ha
  obtain ⟨totals, htotals⟩ := a.exists_totals_iff.mpr ⟨hvisible, hsets⟩
  obtain ⟨-, -, hdeviations⟩ := Analysis.parts_of_ofPlot ha
  obtain rfl := Except.ok.inj (hsplit.symm.trans hdeviations)
  rw [standard, bind_of_eq_ok (mapError_eq_ok.mpr ha), bind_of_eq_ok (mapError_eq_ok.mpr htotals),
    mapError_eq_error]
  simp only [registerAll_standard_eq_error_iff fun row (hrow : row ∈ a.visible) =>
    (Plot.fits_of_mem_visible hrow).deviation]

/-- Where no total overflows, a standard map is built exactly if both running sums are finite. -/
theorem exists_standard_iff (hvisible : Row.exactSize plot.visible < UInt64.size)
    (hsets : Size.exactTotal plot.sizes.values < UInt64.size) :
    (∃ map, standard plot presentation = .ok map) ↔
      (Row.deviationSum (plot.visible.filter (·.isAboveExpected))).isFinite = true ∧
        (Row.deviationSum (plot.visible.filter (·.isBelowExpected))).isFinite = true := by
  obtain ⟨split, hsplit, -⟩ := (Row.totalled_of_lt hvisible).deviation
  have herror : (∃ e, standard plot presentation = .error e) ↔ ∃ e, split.Refused e := by
    simp only [standard_eq_error_iff hvisible hsets hsplit]
    exact ⟨fun ⟨_, e, he, _⟩ => ⟨e, he⟩, fun ⟨e, he⟩ => ⟨_, e, he, rfl⟩⟩
  rw [exists_eq_ok_iff, herror, split.exists_refused_iff, not_not]
  obtain ⟨positive, hpositive, hsplit⟩ := bind_eq_ok.mp hsplit
  obtain ⟨negative, hnegative, hsplit⟩ := bind_eq_ok.mp hsplit
  obtain rfl := pure_eq_ok.mp hsplit
  rw [← DeviationSide.isFinite_averageDeviation hpositive,
    ← DeviationSide.isFinite_averageDeviation hnegative]

/-- Rows that are made of records, at most 99 of them on a side, have a finite running sum. -/
theorem isFinite_deviationSum_of_records {keep : Row → Bool}
    (hrecords : ∀ row ∈ plot.visible, ∃ record kind, row = .ofRecord record kind plot.setCount)
    (hcount : plot.visible.countP keep ≤ 99) :
    (Row.deviationSum (plot.visible.filter keep)).isFinite = true := by
  rw [List.countP_eq_length_filter] at hcount
  refine Row.isFinite_deviationSum hcount fun row hrow => ?_
  have hvisible := (List.mem_filter.mp hrow).1
  obtain ⟨record, kind, rfl⟩ := hrecords row hvisible
  exact Row.within_deviation_ofRecord (Plot.fits_of_mem_visible hvisible).deviation

/-- Where no total of sizes overflows, a standard map is built exactly if the running sums of the
deviations above and below the expected sizes are finite, as they are for up to 99 rows made of
records on each side. The only other outcome is that one of the two averages is refused. -/
theorem standard_refuses_only_averages
    (hvisible : Row.exactSize plot.visible < UInt64.size)
    (hsets : Size.exactTotal plot.sizes.values < UInt64.size) :
    ((∃ map, standard plot presentation = .ok map) ↔
      (Row.deviationSum (plot.visible.filter (·.isAboveExpected))).isFinite = true ∧
        (Row.deviationSum (plot.visible.filter (·.isBelowExpected))).isFinite = true) ∧
    (∃ split, DeviationSplit.ofRows plot.visible = .ok split ∧
      ∀ e, standard plot presentation = .error e ↔
        ∃ refused, split.Refused refused ∧ .token refused = e) ∧
    ((∀ row ∈ plot.visible, ∃ record kind, row = .ofRecord record kind plot.setCount) →
      plot.visible.countP (·.isAboveExpected) ≤ 99 → plot.visible.countP (·.isBelowExpected) ≤ 99 →
        ∃ map, standard plot presentation = .ok map) := by
  obtain ⟨split, hsplit, -⟩ := (Row.totalled_of_lt hvisible).deviation
  refine ⟨exists_standard_iff hvisible hsets, ⟨split, hsplit, fun e =>
    standard_eq_error_iff hvisible hsets hsplit⟩, fun hrecords habove hbelow => ?_⟩
  exact (exists_standard_iff hvisible hsets).mpr
    ⟨isFinite_deviationSum_of_records hrecords habove,
      isFinite_deviationSum_of_records hrecords hbelow⟩

end TokenMap

/-- A row that exceeds its expected size by a hundredth of the largest double. -/
def Row.extreme : Row :=
  .classified ⟨"a", 1, Decimal.toDouble false ⟨17976931348623157, 290⟩, 1, .ofNames ["a"]⟩ 1

/-- A plot with so many such rows in its only set. -/
def Plot.extreme (count : Nat) : Plot where
  sets := ["a"]
  sizes := .ofList [("a", 100)]
  visible := .replicate count .extreme
  rows := .replicate count .extreme
  faultless := by
    have hsized : PlotParts.sizeFault? ⟨["a"], .ofList [("a", 100)], [], []⟩ = none := by
      decide +kernel
    refine PlotParts.fault?_eq_none_iff.mpr
      ⟨List.nodup_singleton _, PlotParts.sizeFault?_eq_none_iff.mp hsized, fun row hrow => ?_,
        fun row hrow => ⟨row, hrow, rfl⟩⟩
    have hfits : Row.extreme.Fits 1 := PlotParts.rowFault?_eq_none_iff.mp (by decide +kernel)
    have heq : row = .extreme :=
      (List.mem_append.mp hrow).elim List.eq_of_mem_replicate List.eq_of_mem_replicate
    rw [heq]
    exact hfits

namespace TokenMap

theorem standard_refuses_only_averages_extreme :
    (Row.exactSize (Plot.extreme 99).visible < UInt64.size ∧
      Size.exactTotal (Plot.extreme 99).sizes.values < UInt64.size) ∧
    (Plot.extreme 99).visible.countP (·.isAboveExpected) = 99 ∧
    ∃ map, standard (.extreme 99) default = .ok map := by
  have hvisible : Row.exactSize (Plot.extreme 99).visible < UInt64.size := by decide +kernel
  have hsets : Size.exactTotal (Plot.extreme 99).sizes.values < UInt64.size := by decide +kernel
  have habove : (Plot.extreme 99).visible.countP (·.isAboveExpected) = 99 := by
    rw [Plot.extreme, List.countP_replicate, if_pos (by decide +kernel)]
  have hbelow : (Plot.extreme 99).visible.countP (·.isBelowExpected) = 0 := by
    rw [Plot.extreme, List.countP_replicate, if_neg (by decide +kernel)]
  refine ⟨⟨hvisible, hsets⟩, habove, (standard_refuses_only_averages hvisible hsets).2.2
    (fun row hrow => ?_) habove.le (hbelow.le.trans (by decide))⟩
  exact ⟨_, _, List.eq_of_mem_replicate hrow⟩

/-- A hundred such rows are too many. -/
theorem not_forall_exists_standard :
    ¬ ∀ plot presentation, Row.exactSize plot.visible < UInt64.size →
      Size.exactTotal plot.sizes.values < UInt64.size →
        ∃ map, standard plot presentation = .ok map := by
  intro h
  have hvisible : Row.exactSize (Plot.extreme 100).visible < UInt64.size := by decide +kernel
  have hsets : Size.exactTotal (Plot.extreme 100).sizes.values < UInt64.size := by decide +kernel
  have hsum := ((exists_standard_iff hvisible hsets).mp (h _ default hvisible hsets)).1
  have habove : Row.extreme.isAboveExpected = true := by decide +kernel
  have hoverflow : (Row.deviationSum (.replicate 100 .extreme)).isFinite = false := by
    decide +kernel
  rw [Plot.extreme, List.filter_replicate, if_pos habove, hoverflow] at hsum
  cases hsum

end TokenMap
end UpSetProse
