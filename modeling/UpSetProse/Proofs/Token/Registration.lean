import UpSetProse.Proofs.Token.Map

/-!
# Histories of registrations

A call that is refused leaves a token map as it was; one that is accepted adds its own name and
changes nothing else. After any sequence of calls a map holds, under each name, the first value that
was accepted for it, and it has grown by one with every call that was accepted.
-/

namespace UpSetProse

/-- A number is representable if it is finite. -/
theorem TokenValue.unrepresentable?_number_eq_none_iff {x : Double} :
    (number x).unrepresentable? = none ↔ x.isFinite := by
  simp [unrepresentable?]

/-- Only a number can be unrepresentable, and it is if it is not finite. -/
theorem TokenValue.unrepresentable?_eq_some_iff {value : TokenValue} {x : Double} :
    value.unrepresentable? = some x ↔ value = .number x ∧ x.isFinite = false := by
  cases value with
  | number y =>
    simp only [unrepresentable?, number.injEq]
    by_cases hy : y.isFinite
    · simp only [hy, ite_true, reduceCtorEq, false_iff, not_and, Bool.not_eq_false]
      rintro rfl
      exact hy
    · simp only [hy, Bool.false_eq_true, ite_false, Option.some.injEq]
      refine ⟨?_, fun h => h.1⟩
      rintro rfl
      exact ⟨rfl, Bool.eq_false_iff.mpr hy⟩
  | _ => simp [unrepresentable?]

namespace TokenMap

/-- Why a map refuses a value under a name: the name is taken, or else the value is a number that is
not finite. -/
inductive Refuses (map : TokenMap) (name : String) : TokenValue → TokenError → Prop
  | duplicate {value : TokenValue} (htaken : map.contains name) :
    Refuses map name value (.duplicate name)
  | invalidLiteral {x : Double} (hnew : ¬ map.contains name) (hx : x.isFinite = false) :
    Refuses map name (.number x) (.invalidLiteral name x.toText)

/-- The map after calls that are made one after the other. -/
def attemptAll (map : TokenMap) (calls : List (String × TokenValue)) : TokenMap :=
  calls.foldl (fun map call => (map.attempt call.1 call.2).2) map

/-- The calls that are accepted when all are made one after the other. -/
def accepted (map : TokenMap) : List (String × TokenValue) → List (String × TokenValue)
  | [] => []
  | call :: rest =>
    let (answer, next) := map.attempt call.1 call.2
    if answer.isOk then call :: next.accepted rest else next.accepted rest

variable {map : TokenMap}

/-! ## One call -/

theorem contains_iff {name : String} :
    map.contains name ↔ ∃ value, map.values.get? name = some value := by
  rw [contains, Option.isSome_iff_exists]

theorem not_contains_iff {name : String} : ¬ map.contains name ↔ map.values.get? name = none := by
  simp [contains]

/-- An accepted call gives a representable value to a new name. -/
structure Accepts (map : TokenMap) (name : String) (value : TokenValue) (next : TokenMap) :
    Prop where
  attempt : map.attempt name value = (.ok (), next)
  new : map.values.get? name = none
  representable : value.unrepresentable? = none
  next_eq : next = ⟨map.analysis, map.values.insert name value⟩

/-- All that a call can do: it is accepted, or it is refused for a reason and leaves the same
map. -/
theorem accepts_or_refuses (map : TokenMap) (name : String) (value : TokenValue) :
    (∃ next, map.Accepts name value next) ∨
      ∃ e, map.attempt name value = (.error e, map) ∧ map.Refuses name value e := by
  by_cases htaken : map.contains name
  · exact .inr ⟨_, attempt_of_contains htaken value, .duplicate htaken⟩
  · cases hvalue : value.unrepresentable? with
    | some x =>
      obtain ⟨rfl, hx⟩ := TokenValue.unrepresentable?_eq_some_iff.mp hvalue
      exact .inr ⟨_, attempt_of_unrepresentable htaken hvalue, .invalidLiteral htaken hx⟩
    | none =>
      exact .inl
        ⟨_, attempt_of_representable htaken hvalue, not_contains_iff.mp htaken, hvalue, rfl⟩

/-- A call that is accepted is not refused for any reason. -/
theorem Accepts.not_refuses {name : String} {value : TokenValue} {next : TokenMap}
    (h : map.Accepts name value next) (e : TokenError) : ¬ map.Refuses name value e := by
  intro hrefuses
  cases hrefuses with
  | duplicate htaken => exact not_contains_iff.mpr h.new htaken
  | invalidLiteral _ hx =>
    cases h.representable.symm.trans (TokenValue.unrepresentable?_eq_some_iff.mpr ⟨rfl, hx⟩)

/-- There is only one reason to refuse a call. -/
theorem Refuses.unique {name : String} {value : TokenValue} {e e' : TokenError}
    (h : map.Refuses name value e) (h' : map.Refuses name value e') : e = e' := by
  cases h with
  | duplicate htaken =>
    cases h' with
    | duplicate => rfl
    | invalidLiteral hnew => exact absurd htaken hnew
  | invalidLiteral hnew =>
    cases h' with
    | duplicate htaken => exact absurd htaken hnew
    | invalidLiteral => rfl

namespace Accepts

variable {name : String} {value : TokenValue} {next : TokenMap}

theorem get? (h : map.Accepts name value next) (other : String) :
    next.values.get? other = if other = name then some value else map.values.get? other := by
  rw [h.next_eq]
  exact NameTable.get?_insert map.values name other value

theorem size (h : map.Accepts name value next) : next.size = map.size + 1 := by
  rw [h.next_eq]
  exact NameTable.length_entries_insert h.new value

theorem contains (h : map.Accepts name value next) (other : String) :
    next.contains other ↔ other = name ∨ map.contains other := by
  rw [contains_iff, contains_iff]
  simp only [h.get? other]
  by_cases hother : other = name <;> simp [hother]

theorem resolve (h : map.Accepts name value next) (other : String) :
    next.resolve other = if other = name then value.render map.analysis else map.resolve other := by
  have hanalysis : next.analysis = map.analysis := by rw [h.next_eq]
  by_cases hother : other = name
  · rw [if_pos hother, ← hanalysis]
    exact resolve_of_get?_eq_some ((h.get? other).trans (if_pos hother))
  · simp only [TokenMap.resolve, evaluate, h.get? other, hanalysis, hother, ite_false]

end Accepts

/-! ## All calls -/

theorem attemptAll_cons (map : TokenMap) (call : String × TokenValue)
    (rest : List (String × TokenValue)) :
    map.attemptAll (call :: rest) = (map.attempt call.1 call.2).2.attemptAll rest :=
  rfl

section Cons

variable {call : String × TokenValue} (rest : List (String × TokenValue))

theorem attemptAll_of_accepts {next : TokenMap} (h : map.Accepts call.1 call.2 next) :
    map.attemptAll (call :: rest) = next.attemptAll rest := by
  rw [attemptAll_cons, h.attempt]

theorem attemptAll_of_refused {e : TokenError} (h : map.attempt call.1 call.2 = (.error e, map)) :
    map.attemptAll (call :: rest) = map.attemptAll rest := by
  rw [attemptAll_cons, h]

theorem accepted_of_accepts {next : TokenMap} (h : map.Accepts call.1 call.2 next) :
    map.accepted (call :: rest) = call :: next.accepted rest := by
  rw [accepted, h.attempt]
  rfl

theorem accepted_of_refused {e : TokenError} (h : map.attempt call.1 call.2 = (.error e, map)) :
    map.accepted (call :: rest) = map.accepted rest := by
  rw [accepted, h]
  rfl

end Cons

/-- What a map holds after calls: what it held before, and else the first value that was
accepted. -/
theorem get?_attemptAll (map : TokenMap) (calls : List (String × TokenValue)) (name : String) :
    (map.attemptAll calls).values.get? name =
      (map.values.get? name).or ((map.accepted calls).lookup name) := by
  induction calls generalizing map with
  | nil => exact Option.or_none.symm
  | cons call rest ih =>
    rcases map.accepts_or_refuses call.1 call.2 with ⟨next, h⟩ | ⟨e, h, -⟩
    · rw [attemptAll_of_accepts rest h, accepted_of_accepts rest h, ih, h.get? name,
        NameTable.lookup_entry]
      by_cases hname : name = call.1
      · subst hname
        rw [h.new, if_pos rfl, if_pos rfl, Option.some_or, Option.none_or]
      · rw [if_neg hname, if_neg hname]
    · rw [attemptAll_of_refused rest h, accepted_of_refused rest h, ih]

/-- Calls do not touch the analysed plot. -/
theorem analysis_attemptAll (map : TokenMap) (calls : List (String × TokenValue)) :
    (map.attemptAll calls).analysis = map.analysis := by
  induction calls generalizing map with
  | nil => rfl
  | cons call rest ih =>
    rcases map.accepts_or_refuses call.1 call.2 with ⟨next, h⟩ | ⟨e, h, -⟩
    · rw [attemptAll_of_accepts rest h, ih, h.next_eq]
    · rw [attemptAll_of_refused rest h, ih]

/-- A map grows by one with every accepted call. -/
theorem size_attemptAll (map : TokenMap) (calls : List (String × TokenValue)) :
    (map.attemptAll calls).size = map.size + (map.accepted calls).length := by
  induction calls generalizing map with
  | nil => rfl
  | cons call rest ih =>
    rcases map.accepts_or_refuses call.1 call.2 with ⟨next, h⟩ | ⟨e, h, -⟩
    · rw [attemptAll_of_accepts rest h, accepted_of_accepts rest h, ih, h.size, List.length_cons]
      omega
    · rw [attemptAll_of_refused rest h, accepted_of_refused rest h, ih]

/-- Only representable values are accepted. -/
theorem representable_of_mem_accepted {calls : List (String × TokenValue)}
    {call : String × TokenValue} (hmem : call ∈ map.accepted calls) :
    call.2.unrepresentable? = none := by
  induction calls generalizing map with
  | nil => cases hmem
  | cons first rest ih =>
    rcases map.accepts_or_refuses first.1 first.2 with ⟨next, h⟩ | ⟨e, h, -⟩
    · rw [accepted_of_accepts rest h] at hmem
      rcases List.mem_cons.mp hmem with rfl | hmem
      · exact h.representable
      · exact ih hmem
    · rw [accepted_of_refused rest h] at hmem
      exact ih hmem

/-- The first value that is accepted for a new name is the first representable one given for it. -/
theorem lookup_accepted {name : String} (hnew : ¬ map.contains name)
    (calls : List (String × TokenValue)) :
    (map.accepted calls).lookup name =
      (calls.filter fun call => call.2.unrepresentable?.isNone).lookup name := by
  induction calls generalizing map with
  | nil => rfl
  | cons call rest ih =>
    rcases map.accepts_or_refuses call.1 call.2 with ⟨next, h⟩ | ⟨e, h, hrefuses⟩
    · have hkept : call.2.unrepresentable?.isNone = true := by
        rw [h.representable]
        rfl
      rw [accepted_of_accepts rest h, List.filter_cons, if_pos hkept, NameTable.lookup_entry,
        NameTable.lookup_entry]
      by_cases hname : name = call.1
      · rw [if_pos hname, if_pos hname]
      · rw [if_neg hname, if_neg hname]
        apply ih
        intro hcontains
        exact ((h.contains name).mp hcontains).elim hname hnew
    · rw [accepted_of_refused rest h, ih hnew, List.filter_cons]
      obtain ⟨given, value⟩ := call
      cases hrefuses with
      | duplicate htaken =>
        have hname : name ≠ given := by
          rintro rfl
          exact hnew htaken
        split
        · rw [NameTable.lookup_entry, if_neg hname]
        · rfl
      | invalidLiteral _ hx => simp [TokenValue.unrepresentable?, hx]

/-! ## The account -/

/-- What one call answers and which map it leaves. -/
structure Answered (map : TokenMap) (name : String) (value : TokenValue) : Prop where
  /-- The call fails exactly for a reason to refuse it. -/
  error_iff : ∀ e, (map.attempt name value).1 = .error e ↔ map.Refuses name value e
  /-- A call that fails leaves the map as it was. -/
  unchanged : ∀ e, (map.attempt name value).1 = .error e → (map.attempt name value).2 = map
  /-- A call that succeeds adds one token. -/
  size : (map.attempt name value).1 = .ok () → (map.attempt name value).2.size = map.size + 1
  contains : (map.attempt name value).1 = .ok () → ∀ other,
    (map.attempt name value).2.contains other ↔ other = name ∨ map.contains other
  resolve : (map.attempt name value).1 = .ok () → ∀ other,
    (map.attempt name value).2.resolve other =
      if other = name then value.render map.analysis else map.resolve other

/-- What a map is after a whole history of calls. -/
structure Accounted (map : TokenMap) (calls : List (String × TokenValue)) : Prop where
  /-- What was held before keeps its text. -/
  resolve_held : ∀ name, map.contains name → (map.attemptAll calls).resolve name = map.resolve name
  /-- A new name has the text of the first value that was accepted for it, and stands for itself in
  single braces if there is none. -/
  resolve_new : ∀ name, ¬ map.contains name → (map.attemptAll calls).resolve name =
    ((map.accepted calls).lookup name).elim ("\x7b" ++ name ++ "\x7d") (·.render map.analysis)
  /-- The first value that is accepted is the first representable one. -/
  first : ∀ name, ¬ map.contains name → (map.accepted calls).lookup name =
    (calls.filter fun call => call.2.unrepresentable?.isNone).lookup name
  /-- Every accepted call adds one token, and no other does. -/
  size : (map.attemptAll calls).size = map.size + (map.accepted calls).length
  /-- Numbers that are held stay finite. -/
  finite : (∀ name x, map.values.get? name = some (.number x) → x.isFinite) →
    ∀ name x, (map.attemptAll calls).values.get? name = some (.number x) → x.isFinite

/-- Every call is answered in this way. -/
theorem answered (map : TokenMap) (name : String) (value : TokenValue) :
    map.Answered name value := by
  rcases map.accepts_or_refuses name value with ⟨next, h⟩ | ⟨e, h, hrefuses⟩
  · have herror (e : TokenError) : (map.attempt name value).1 ≠ .error e := by
      rw [h.attempt]
      exact nofun
    constructor
    case error_iff => exact fun e => iff_of_false (herror e) (h.not_refuses e)
    case unchanged => exact fun e he => absurd he (herror e)
    all_goals
      rw [h.attempt]
      intro _
    case size => exact h.size
    case contains => exact h.contains
    case resolve => exact h.resolve
  · have hok : (map.attempt name value).1 ≠ .ok () := by
      rw [h]
      exact nofun
    constructor
    case error_iff =>
      intro other
      rw [h]
      constructor
      · intro heq
        exact Except.error.inj heq ▸ hrefuses
      · intro hother
        rw [hrefuses.unique hother]
    case unchanged =>
      intro _ _
      rw [h]
    all_goals exact fun haccepted => absurd haccepted hok

/-- Every history is accounted for in this way. -/
theorem accounted (map : TokenMap) (calls : List (String × TokenValue)) :
    map.Accounted calls where
  resolve_held name hheld := by
    obtain ⟨value, hvalue⟩ := contains_iff.mp hheld
    simp only [resolve, evaluate, get?_attemptAll, analysis_attemptAll, hvalue, Option.some_or]
  resolve_new name hnew := by
    simp only [resolve, evaluate, get?_attemptAll, analysis_attemptAll, not_contains_iff.mp hnew,
      Option.none_or]
    cases (map.accepted calls).lookup name <;> rfl
  first name hnew := lookup_accepted hnew calls
  size := size_attemptAll map calls
  finite hfinite name x hx := by
    rw [get?_attemptAll, Option.or_eq_some_iff] at hx
    rcases hx with hheld | ⟨-, haccepted⟩
    · exact hfinite name x hheld
    · obtain ⟨before, after, hsplit, -⟩ := List.lookup_eq_some_iff.mp haccepted
      have hmem : (name, .number x) ∈ map.accepted calls := by simp [hsplit]
      exact TokenValue.unrepresentable?_number_eq_none_iff.mp (representable_of_mem_accepted hmem)

/-- Every call in a history is answered by the map that the calls before it left, and the map after
the whole history is accounted for by the calls that were accepted. -/
theorem registration_histories (map : TokenMap) (calls : List (String × TokenValue)) :
    (∀ before name value after, calls = before ++ (name, value) :: after →
      (map.attemptAll before).Answered name value) ∧ map.Accounted calls :=
  ⟨fun before name value _ _ => (map.attemptAll before).answered name value, map.accounted calls⟩

/-- A name that was refused for its value is free, and is taken once a value was accepted. -/
example (a : Analysis) : ((empty a).attemptAll [("size", .number .nan), ("size", .integer 3),
    ("size", .text "again")]).resolve "size" = "3" := by
  rfl

end TokenMap
end UpSetProse
