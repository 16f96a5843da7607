import CrossChainVault.Base.Unsigned

set_option autoImplicit false

/- Inversion of fallible code written as a `do` block over `Except`. -/

namespace Result

variable {ε α β : Type}

/-- A guard: stop with `failure` when `bad` holds. -/
def rejectIf (bad : Prop) [Decidable bad] (failure : ε) : Except ε Unit :=
  if bad then .error failure else .ok ()

/-- The value of an option, or `failure` when there is none. -/
def okOr (value : Option α) (failure : ε) : Except ε α :=
  match value with
  | some a => .ok a
  | none => .error failure

@[simp] theorem rejectIf_eq_ok {bad : Prop} [Decidable bad] {failure : ε} {u : Unit} :
    rejectIf bad failure = .ok u ↔ ¬bad := by
  unfold rejectIf
  split
  · rename_i holds
    simp [holds]
  · rename_i holds
    simp [holds]

@[simp] theorem okOr_eq_ok {value : Option α} {failure : ε} {a : α} :
    okOr value failure = .ok a ↔ value = some a := by
  cases value <;> simp [okOr]

@[simp] theorem bind_eq_ok {x : Except ε α} {f : α → Except ε β} {b : β} :
    (x >>= f) = .ok b ↔ ∃ a, x = .ok a ∧ f a = .ok b := by
  cases x with
  | error failure => simp [bind, Except.bind]
  | ok a => simp [bind, Except.bind]

theorem ok_bind (a : α) (f : α → Except ε β) : (.ok a >>= f) = f a := rfl

@[simp] theorem pure_eq_ok {a b : α} : (pure a : Except ε α) = .ok b ↔ a = b := by
  simp [pure, Except.pure]

theorem bind_eq_error {x : Except ε α} {f : α → Except ε β} {failure : ε} :
    (x >>= f) = .error failure ↔ x = .error failure ∨ ∃ a, x = .ok a ∧ f a = .error failure := by
  cases x with
  | error other => simp [bind, Except.bind]
  | ok a => simp [bind, Except.bind]

theorem rejectIf_eq_error {bad : Prop} [Decidable bad] {failure other : ε} :
    rejectIf bad failure = .error other ↔ bad ∧ failure = other := by
  unfold rejectIf
  split
  · rename_i holds
    simp [holds]
  · rename_i holds
    simp [holds]

theorem okOr_eq_error {value : Option α} {failure other : ε} :
    okOr value failure = .error other ↔ value = none ∧ failure = other := by
  cases value <;> simp [okOr]

@[simp] theorem map_eq_ok {x : Except ε α} {f : α → β} {b : β} :
    (f <$> x) = .ok b ↔ ∃ a, x = .ok a ∧ f a = b := by
  cases x with
  | error failure => simp [Functor.map, Except.map]
  | ok a => simp [Functor.map, Except.map]

@[simp] theorem mapError_eq_ok {δ : Type} {x : Except ε α} {f : ε → δ} {a : α} :
    x.mapError f = .ok a ↔ x = .ok a := by
  cases x with
  | error failure => simp [Except.mapError]
  | ok a => simp [Except.mapError]

theorem mapError_eq_error {δ : Type} {x : Except ε α} {f : ε → δ} {other : δ} :
    x.mapError f = .error other ↔ ∃ failure, x = .error failure ∧ f failure = other := by
  cases x with
  | error failure => simp [Except.mapError]
  | ok a => simp [Except.mapError]

theorem foldlM_ne_error {f : β → α → Except ε β} {failure : ε}
    (never : ∀ state a, f state a ≠ .error failure) (inputs : List α) (start : β) :
    inputs.foldlM f start ≠ .error failure := by
  induction inputs generalizing start with
  | nil =>
      intro failed
      cases failed
  | cons input inputs ih =>
      rw [List.foldlM_cons]
      intro failed
      rcases bind_eq_error.mp failed with first | ⟨middle, -, rest⟩
      · exact never start input first
      · exact ih middle rest

/-- The code runs through, whatever its result. -/
def Succeeds (x : Except ε α) : Prop := ∃ a, x = .ok a

theorem succeeds_bind {x : Except ε α} {f : α → Except ε β} :
    Succeeds (x >>= f) ↔ ∃ a, x = .ok a ∧ Succeeds (f a) := by
  simp only [Succeeds, bind_eq_ok]
  constructor
  · rintro ⟨b, a, first, rest⟩
    exact ⟨a, first, b, rest⟩
  · rintro ⟨a, first, b, rest⟩
    exact ⟨b, a, first, rest⟩

theorem succeeds_pure {a : α} : Succeeds (pure a : Except ε α) := ⟨a, rfl⟩

/-- A test on the result that passes means there is a result. -/
theorem ok_of_any {x : Except ε α} {test : α → Bool} (passes : x.toOption.any test = true) :
    ∃ a, x = .ok a ∧ test a = true := by
  cases x with
  | error failure => cases passes
  | ok a => exact ⟨a, rfl, passes⟩

/-- The code stops with exactly this failure. -/
def failsWith [DecidableEq ε] (x : Except ε α) (failure : ε) : Bool :=
  match x with
  | .ok _ => false
  | .error other => decide (other = failure)

theorem failsWith_iff [DecidableEq ε] {x : Except ε α} {failure : ε} :
    failsWith x failure = true ↔ x = .error failure := by
  cases x <;> simp [failsWith]

end Result
