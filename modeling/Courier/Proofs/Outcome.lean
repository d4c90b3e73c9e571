import Mathlib.Data.List.Forall2
/-! Outcomes of steps that may fail. Taking the steps of a list one after another succeeds when each
of them does, and otherwise fails as the first that fails. -/

namespace Courier.Outcome

variable {α β ε : Type}

/-- Outcomes with the same value are the same, which spares a comparison of errors. -/
theorem eq_ok_of_toOption {outcome : Except ε α} {value : α}
    (given : outcome.toOption = some value) : outcome = .ok value := by
  cases outcome with
  | error error => cases given
  | ok other => exact congrArg Except.ok (Option.some.inj given)

theorem bind_eq_ok_iff (outcome : Except ε α) (next : α → Except ε β) (value : β) :
    (outcome >>= next) = .ok value ↔ ∃ middle, outcome = .ok middle ∧ next middle = .ok value := by
  cases outcome with
  | error error => simp [bind, Except.bind]
  | ok middle => simp [bind, Except.bind]

theorem map_eq_ok_iff (outcome : Except ε α) (made : α → β) (value : β) :
    outcome.map made = .ok value ↔ ∃ middle, outcome = .ok middle ∧ made middle = value := by
  cases outcome <;> simp [Except.map]

theorem mapError_eq_ok_iff {ε' : Type} (outcome : Except ε α) (other : ε → ε') (value : α) :
    outcome.mapError other = .ok value ↔ outcome = .ok value := by
  cases outcome <;> simp [Except.mapError]

theorem mapM_cons_ok {step : α → Except ε β} {first : α} {value : β}
    (succeeds : step first = .ok value) (rest : List α) :
    (first :: rest).mapM step = (rest.mapM step).map (value :: ·) := by
  rw [List.mapM_cons, succeeds]
  cases rest.mapM step <;> rfl

theorem mapM_cons_error {step : α → Except ε β} {first : α} {error : ε}
    (fails : step first = .error error) (rest : List α) :
    (first :: rest).mapM step = .error error := by
  rw [List.mapM_cons, fails]
  rfl

theorem mapM_eq_ok_iff (step : α → Except ε β) (items : List α) (values : List β) :
    items.mapM step = .ok values ↔ List.Forall₂ (fun item value => step item = .ok value) items values := by
  induction items generalizing values with
  | nil =>
    rw [List.mapM_nil, List.forall₂_nil_left_iff]
    exact ⟨fun same => (Except.ok.inj same).symm, fun same => congrArg Except.ok same.symm⟩
  | cons first rest ih =>
    rw [List.forall₂_cons_left_iff]
    cases taken : step first with
    | error error =>
      simp [mapM_cons_error taken]
    | ok value =>
      rw [mapM_cons_ok taken]
      cases others : rest.mapM step with
      | error error =>
        simp only [Except.map, reduceCtorEq, Except.ok.injEq, false_iff, not_exists, not_and]
        intro _ more _ steps
        rw [(ih more).mpr steps] at others
        cases others
      | ok more =>
        simp only [Except.map, Except.ok.injEq]
        constructor
        · rintro rfl
          exact ⟨value, more, rfl, (ih more).mp others, rfl⟩
        · rintro ⟨_, other, rfl, steps, rfl⟩
          rw [Except.ok.inj (others.symm.trans ((ih other).mpr steps))]

theorem mapM_eq_some_iff (step : α → Option β) (items : List α) (values : List β) :
    items.mapM step = some values ↔
      List.Forall₂ (fun item value => step item = some value) items values := by
  induction items generalizing values with
  | nil => simp [List.mapM_nil, eq_comm]
  | cons first rest ih =>
    rw [List.forall₂_cons_left_iff]
    simp only [List.mapM_cons, Option.bind_eq_bind, Option.bind_eq_some_iff, Option.pure_def,
      Option.some.injEq, ih]
    constructor
    · rintro ⟨value, taken, more, steps, rfl⟩
      exact ⟨value, more, taken, steps, rfl⟩
    · rintro ⟨value, more, taken, steps, rfl⟩
      exact ⟨value, taken, more, steps, rfl⟩

theorem exists_of_mem_forall₂ {related : α → β → Prop} {items : List α} {values : List β}
    (each : List.Forall₂ related items values) {item : α} (member : item ∈ items) :
    ∃ value ∈ values, related item value := by
  induction each with
  | nil => cases member
  | cons here _ ih =>
    rcases List.mem_cons.mp member with rfl | later
    · exact ⟨_, List.mem_cons_self, here⟩
    · obtain ⟨value, own, found⟩ := ih later
      exact ⟨value, List.mem_cons_of_mem _ own, found⟩

theorem exists_of_mem_mapM {step : α → Except ε β} {items : List α} {values : List β}
    (taken : items.mapM step = .ok values) :
    ∀ value ∈ values, ∃ item ∈ items, step item = .ok value := by
  have each := (mapM_eq_ok_iff step items values).mp taken
  clear taken
  induction each with
  | nil => simp
  | cons here _ ih =>
    intro value member
    rcases List.mem_cons.mp member with rfl | later
    · exact ⟨_, List.mem_cons_self, here⟩
    · obtain ⟨item, own, made⟩ := ih value later
      exact ⟨item, List.mem_cons_of_mem _ own, made⟩

/-- The first step that fails decides, whatever comes after it. -/
theorem mapM_first_error {step : α → Except ε β} {before after : List α} {item : α} {error : ε}
    (succeed : ∀ earlier ∈ before, ∃ value, step earlier = .ok value)
    (fails : step item = .error error) :
    (before ++ item :: after).mapM step = .error error := by
  induction before with
  | nil => exact mapM_cons_error fails after
  | cons first rest ih =>
    obtain ⟨value, taken⟩ := succeed first (by simp)
    rw [List.cons_append, mapM_cons_ok taken,
      ih fun earlier member => succeed earlier (List.mem_cons_of_mem _ member)]
    rfl

theorem exists_first_error {step : α → Except ε β} {items : List α} {error : ε}
    (fails : items.mapM step = .error error) :
    ∃ before item after, items = before ++ item :: after ∧
      (∀ earlier ∈ before, ∃ value, step earlier = .ok value) ∧ step item = .error error := by
  induction items with
  | nil => cases fails
  | cons first rest ih =>
    cases taken : step first with
    | error other =>
      rw [mapM_cons_error taken] at fails
      obtain rfl := Except.error.inj fails
      exact ⟨[], first, rest, rfl, by simp, taken⟩
    | ok value =>
      rw [mapM_cons_ok taken] at fails
      cases others : rest.mapM step with
      | ok values =>
        rw [others] at fails
        cases fails
      | error other =>
        rw [others] at fails
        obtain rfl := Except.error.inj fails
        obtain ⟨before, item, after, rfl, succeed, failed⟩ := ih others
        exact ⟨first :: before, item, after, rfl,
          List.forall_mem_cons.mpr ⟨⟨value, taken⟩, succeed⟩, failed⟩

/-! ### Two runs -/

inductive Rel (related : α → α → Prop) : Except ε α → Except ε α → Prop where
  | error (error : ε) : Rel related (.error error) (.error error)
  | ok {one other : α} (values : related one other) : Rel related (.ok one) (.ok other)

section

variable {related : α → α → Prop} {one other : Except ε α}

theorem Rel.refl (outcome : Except ε α) : Rel Eq outcome outcome := by
  cases outcome with
  | error error => exact .error error
  | ok value => exact .ok rfl

theorem Rel.elim (same : Rel related one other) :
    (∃ error, one = .error error ∧ other = .error error) ∨
      ∃ left right, one = .ok left ∧ other = .ok right ∧ related left right := by
  cases same with
  | error error => exact Or.inl ⟨error, rfl, rfl⟩
  | ok values => exact Or.inr ⟨_, _, rfl, rfl, values⟩

theorem Rel.bind {further : β → β → Prop} (same : Rel related one other)
    {next after : α → Except ε β}
    (goes : ∀ left right, related left right → Rel further (next left) (after right)) :
    Rel further (one >>= next) (other >>= after) := by
  cases same with
  | error error => exact .error error
  | ok values => exact goes _ _ values

end

/-- Whether two runs come to the same and leave states that are related. -/
structure Agree {σ : Type} (related : σ → σ → Prop) (one other : α × σ) : Prop where
  outcome : one.1 = other.1
  state : related one.2 other.2

theorem Agree.refl {σ : Type} {related : σ → σ → Prop} (reflexive : ∀ state, related state state)
    (run : α × σ) : Agree related run run := ⟨rfl, reflexive run.2⟩

theorem Agree.exists {σ : Type} {related : σ → σ → Prop} {one other : α × σ}
    (agree : Agree related one other) :
    ∃ outcome left right, one = (outcome, left) ∧ other = (outcome, right) ∧ related left right :=
  ⟨other.1, one.2, other.2, Prod.ext agree.outcome rfl, rfl, agree.state⟩

end Courier.Outcome
