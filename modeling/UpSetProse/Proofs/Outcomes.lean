/-!
# Outcomes of steps that can fail

When a sequence of such steps succeeds, each step did, on what the steps before it returned.
-/

namespace UpSetProse

variable {ε ε' α β γ : Type}

/-- Two steps succeed if the first does, and the second on its result. -/
theorem bind_eq_ok {step : Except ε α} {next : α → Except ε β} {result : β} :
    step >>= next = .ok result ↔ ∃ a, step = .ok a ∧ next a = .ok result := by
  cases step with
  | ok a => exact ⟨fun h => ⟨a, rfl, h⟩, fun ⟨_, ha, h⟩ => by cases ha; exact h⟩
  | error e => exact ⟨fun h => (by cases h), fun ⟨_, ha, _⟩ => (by cases ha)⟩

theorem bind_of_eq_ok {step : Except ε α} {a : α} (h : step = .ok a) (next : α → Except ε β) :
    step >>= next = next a := by
  rw [h]
  rfl

/-- Two steps fail if the first does, or else the second on the result of the first. -/
theorem bind_eq_error {step : Except ε α} {next : α → Except ε β} {e : ε} :
    step >>= next = .error e ↔ step = .error e ∨ ∃ a, step = .ok a ∧ next a = .error e := by
  cases step with
  | ok a =>
    constructor
    · exact fun h => .inr ⟨a, rfl, h⟩
    · rintro (h | ⟨_, ha, h⟩)
      · cases h
      · cases ha
        exact h
  | error e' =>
    constructor
    · intro h
      cases h
      exact .inl rfl
    · rintro (h | ⟨_, ha, _⟩)
      · cases h
        rfl
      · cases ha

/-- What is made of the result of a step does not decide whether the step succeeds. -/
theorem map_eq_ok {step : Except ε α} {f : α → β} {result : β} :
    f <$> step = .ok result ↔ ∃ a, step = .ok a ∧ f a = result := by
  cases step with
  | ok a =>
    refine ⟨fun h => ⟨a, rfl, ?_⟩, fun ⟨_, ha, h⟩ => ?_⟩
    · cases h
      rfl
    · cases ha
      rw [← h]
      rfl
  | error e => exact ⟨fun h => (by cases h), fun ⟨_, ha, _⟩ => (by cases ha)⟩

/-- Renaming errors leaves results alone. -/
theorem mapError_eq_ok {step : Except ε α} {f : ε → ε'} {result : α} :
    step.mapError f = .ok result ↔ step = .ok result := by
  cases step with
  | ok a => exact ⟨fun h => by cases h; rfl, fun h => by cases h; rfl⟩
  | error e => exact ⟨fun h => (by cases h), fun h => (by cases h)⟩

/-- Every error that comes of renaming has a cause. -/
theorem mapError_eq_error {step : Except ε α} {f : ε → ε'} {e : ε'} :
    step.mapError f = .error e ↔ ∃ cause, step = .error cause ∧ f cause = e := by
  cases step with
  | ok a => exact ⟨fun h => (by cases h), fun ⟨_, h, _⟩ => (by cases h)⟩
  | error cause =>
    refine ⟨fun h => ⟨cause, rfl, ?_⟩, fun ⟨_, hcause, h⟩ => ?_⟩
    · cases h
      rfl
    · cases hcause
      rw [← h]
      rfl

theorem pure_eq_ok {a result : α} : (pure a : Except ε α) = .ok result ↔ a = result :=
  ⟨fun h => by cases h; rfl, fun h => by cases h; rfl⟩

theorem exists_eq_ok {step : Except ε α} (h : step.isOk = true) : ∃ a, step = .ok a := by
  cases step with
  | ok a => exact ⟨a, rfl⟩
  | error e => cases h

/-- A step that does not fail succeeds. -/
theorem exists_eq_ok_iff {step : Except ε α} :
    (∃ a, step = .ok a) ↔ ¬ ∃ e, step = .error e := by
  cases step <;> simp

/-- The result that is kept when errors are dropped is that of the step. -/
theorem mem_toOption {step : Except ε α} {a : α} : a ∈ step.toOption ↔ step = .ok a := by
  cases step <;> simp [Except.toOption]

/-- A step is made for every element of a list exactly when it succeeds on each of them. -/
theorem exists_mapM_eq_ok {step : α → Except ε β} {items : List α} :
    (∃ results, items.mapM step = .ok results) ↔
      ∀ item ∈ items, ∃ result, step item = .ok result := by
  induction items with
  | nil => exact iff_of_true ⟨[], rfl⟩ (by simp)
  | cons item items ih =>
    rw [List.forall_mem_cons, ← ih, List.mapM_cons]
    constructor
    · rintro ⟨results, h⟩
      obtain ⟨result, hitem, h⟩ := bind_eq_ok.mp h
      obtain ⟨rest, hitems, _⟩ := bind_eq_ok.mp h
      exact ⟨⟨result, hitem⟩, ⟨rest, hitems⟩⟩
    · rintro ⟨⟨result, hitem⟩, ⟨rest, hitems⟩⟩
      exact ⟨result :: rest, bind_eq_ok.mpr ⟨result, hitem, bind_eq_ok.mpr ⟨rest, hitems, rfl⟩⟩⟩

/-- Steps that all succeed return their results in order. -/
theorem mapM_eq_ok_map {step : α → Except ε β} {result : α → β} {items : List α}
    (h : ∀ item ∈ items, step item = .ok (result item)) :
    items.mapM step = .ok (items.map result) := by
  induction items with
  | nil => rfl
  | cons item items ih =>
    obtain ⟨hitem, hitems⟩ := List.forall_mem_cons.mp h
    rw [List.mapM_cons, hitem, ih hitems]
    rfl

/-- Steps whose results look as expected one by one return a list that does. -/
theorem map_eq_map_of_mapM {step : α → Except ε β} {view : β → γ} {expected : α → γ}
    {items : List α} {results : List β}
    (hstep : ∀ item result, step item = .ok result → view result = expected item)
    (h : items.mapM step = .ok results) : results.map view = items.map expected := by
  induction items generalizing results with
  | nil =>
    obtain rfl := pure_eq_ok.mp h
    rfl
  | cons item items ih =>
    rw [List.mapM_cons] at h
    obtain ⟨first, hfirst, h⟩ := bind_eq_ok.mp h
    obtain ⟨rest, hrest, h⟩ := bind_eq_ok.mp h
    obtain rfl := pure_eq_ok.mp h
    rw [List.map_cons, List.map_cons, hstep item first hfirst, ih hrest]

/-- Two sequences of steps whose results look alike one by one return lists that look alike. -/
theorem map_eq_of_mapM {step step' : α → Except ε β} {view : β → γ} {items : List α}
    {results results' : List β}
    (hstep : ∀ item result result', step item = .ok result → step' item = .ok result' →
      view result = view result')
    (h : items.mapM step = .ok results) (h' : items.mapM step' = .ok results') :
    results.map view = results'.map view := by
  induction items generalizing results results' with
  | nil =>
    obtain rfl := pure_eq_ok.mp h
    obtain rfl := pure_eq_ok.mp h'
    rfl
  | cons item items ih =>
    rw [List.mapM_cons] at h h'
    obtain ⟨first, hfirst, h⟩ := bind_eq_ok.mp h
    obtain ⟨rest, hrest, h⟩ := bind_eq_ok.mp h
    obtain rfl := pure_eq_ok.mp h
    obtain ⟨first', hfirst', h'⟩ := bind_eq_ok.mp h'
    obtain ⟨rest', hrest', h'⟩ := bind_eq_ok.mp h'
    obtain rfl := pure_eq_ok.mp h'
    rw [List.map_cons, List.map_cons, hstep item first first' hfirst hfirst', ih hrest hrest']

/-- Results that are listed with the elements they are of are looked up by them. -/
theorem lookup_eq_some_iff_of_mapM [BEq α] [LawfulBEq α] {step : α → Except ε β} {items : List α}
    {entries : List (α × β)}
    (h : items.mapM (fun item => do return (item, ← step item)) = .ok entries)
    {item : α} {result : β} :
    entries.lookup item = some result ↔ item ∈ items ∧ step item = .ok result := by
  induction items generalizing entries with
  | nil =>
    obtain rfl := pure_eq_ok.mp h
    simp
  | cons first items ih =>
    rw [List.mapM_cons] at h
    obtain ⟨entry, hentry, h⟩ := bind_eq_ok.mp h
    obtain ⟨rest, hrest, h⟩ := bind_eq_ok.mp h
    obtain rfl := pure_eq_ok.mp h
    obtain ⟨value, hvalue, hentry⟩ := bind_eq_ok.mp hentry
    obtain rfl := pure_eq_ok.mp hentry
    rw [List.lookup_cons]
    by_cases heq : item = first
    · subst heq
      simp [hvalue]
    · simp only [beq_false_of_ne heq, List.mem_cons, heq, false_or, ih hrest]

end UpSetProse
