/-!
Computations that may fail. A chain of steps succeeds when each of them does, so a chain that succeeded
is taken apart into its steps; the error of a chain is that of the step that fails.
-/
namespace TypeBridge

variable {ε α β : Type}

theorem bind_eq_ok {first : Except ε α} {next : α → Except ε β} {result : β} :
    first >>= next = .ok result ↔ ∃ value, first = .ok value ∧ next value = .ok result := by
  cases first with
  | error =>
    constructor
    · intro h
      cases h
    · rintro ⟨_, h, _⟩
      cases h
  | ok value =>
    constructor
    · intro h
      exact ⟨value, rfl, h⟩
    · rintro ⟨_, same, h⟩
      cases same
      exact h

theorem bind_eq_error {first : Except ε α} {next : α → Except ε β} {cause : ε} :
    first >>= next = .error cause ↔
      first = .error cause ∨ ∃ value, first = .ok value ∧ next value = .error cause := by
  cases first with
  | error other =>
    constructor
    · intro h
      cases h
      exact .inl rfl
    · rintro (same | ⟨_, h, _⟩)
      · cases same
        rfl
      · cases h
  | ok value =>
    constructor
    · intro h
      exact .inr ⟨value, rfl, h⟩
    · rintro (h | ⟨_, same, h⟩)
      · cases h
      · cases same
        exact h

theorem map_eq_ok {first : Except ε α} {function : α → β} {result : β} :
    function <$> first = .ok result ↔ ∃ value, first = .ok value ∧ function value = result := by
  cases first with
  | error =>
    constructor
    · intro h
      cases h
    · rintro ⟨_, h, _⟩
      cases h
  | ok value =>
    constructor
    · intro h
      cases h
      exact ⟨value, rfl, rfl⟩
    · rintro ⟨_, same, rfl⟩
      cases same
      rfl

/-- A computation that fails with an allowed error, if it fails at all. -/
def FailsOnly (allowed : ε → Prop) (result : Except ε α) : Prop :=
  ∀ cause, result = .error cause → allowed cause

theorem failsOnly_ok {allowed : ε → Prop} (value : α) : FailsOnly allowed (.ok value) := by
  intro _ h
  cases h

theorem failsOnly_error {allowed : ε → Prop} {cause : ε} (known : allowed cause) :
    FailsOnly allowed (.error cause : Except ε α) := by
  intro _ h
  cases h
  exact known

theorem failsOnly_bind {allowed : ε → Prop} {first : Except ε α} {next : α → Except ε β}
    (former : FailsOnly allowed first) (later : ∀ value, FailsOnly allowed (next value)) :
    FailsOnly allowed (first >>= next) := by
  intro cause h
  rcases bind_eq_error.mp h with failed | ⟨value, -, failed⟩
  · exact former cause failed
  · exact later value cause failed

theorem failsOnly_map {allowed : ε → Prop} {first : Except ε α} (function : α → β)
    (former : FailsOnly allowed first) : FailsOnly allowed (function <$> first) := by
  cases first with
  | ok value => exact failsOnly_ok _
  | error cause => exact failsOnly_error (former cause rfl)

theorem map_mapError (function : ε → ε) (first : Except ε α) (next : α → β) :
    (first.mapError function).map next = (first.map next).mapError function := by
  cases first <;> rfl

theorem mapError_bind {function : ε → ε} {first second : Except ε α} {next later : α → Except ε β}
    (former : second = first.mapError function)
    (latter : ∀ value, first = .ok value → later value = (next value).mapError function) :
    second >>= later = (first >>= next).mapError function := by
  subst former
  cases first with
  | error => rfl
  | ok value => exact latter value rfl

theorem mapM_pairs {γ : Type} {first : α → Except ε β} {second : α → Except ε γ}
    {related : β → γ → Prop} {items : List α}
    (each : ∀ item ∈ items, ∀ result, first item = .ok result →
      ∃ other, second item = .ok other ∧ related result other)
    {results : List β} (h : items.mapM first = .ok results) :
    ∃ pairs : List (β × γ), results = pairs.map (·.1) ∧ items.mapM second = .ok (pairs.map (·.2)) ∧
      ∀ pair ∈ pairs, related pair.1 pair.2 := by
  induction items generalizing results with
  | nil =>
    cases h
    exact ⟨[], rfl, rfl, by simp⟩
  | cons item items ih =>
    rw [List.mapM_cons] at h
    obtain ⟨result, done, h⟩ := bind_eq_ok.mp h
    obtain ⟨rest, restDone, h⟩ := bind_eq_ok.mp h
    cases h
    obtain ⟨other, otherDone, fits⟩ := each item (List.mem_cons_self ..) result done
    obtain ⟨pairs, rfl, others, all⟩ :=
      ih (fun item member => each item (List.mem_cons_of_mem _ member)) restDone
    refine ⟨(result, other) :: pairs, rfl, ?_, ?_⟩
    · rw [List.mapM_cons, otherDone, others]
      rfl
    · intro pair member
      rcases List.mem_cons.mp member with rfl | later
      · exact fits
      · exact all pair later

end TypeBridge
