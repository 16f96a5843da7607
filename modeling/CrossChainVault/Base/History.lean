import CrossChainVault.Base.Result

set_option autoImplicit false

/- Runs in which a refused input leaves the state as it was: the accepted steps in order, and what
holds of each of them and between an earlier and a later one. -/

namespace History

variable {σ α ε : Type}

/-- One accepted step. -/
structure Entry (σ α : Type) where
  before : σ
  input : α
  after : σ

/-- The accepted steps of a run. -/
def history (step : σ → α → Except ε σ) : σ → List α → List (Entry σ α)
  | _, [] => []
  | s, input :: inputs =>
      match step s input with
      | .ok next => ⟨s, input, next⟩ :: history step next inputs
      | .error _ => history step s inputs

variable {step : σ → α → Except ε σ}

/-- What the start has and every accepted step keeps holds around every entry. -/
theorem entries_of (Inv : σ → Prop)
    (preserved : ∀ s input s', step s input = .ok s' → Inv s → Inv s') (inputs : List α) :
    ∀ start, Inv start → ∀ entry ∈ history step start inputs,
      Inv entry.before ∧ step entry.before entry.input = .ok entry.after := by
  induction inputs with
  | nil =>
      intro start _ entry member
      cases member
  | cons input inputs ih =>
      intro start holds entry member
      unfold history at member
      split at member
      · rename_i next success
        cases member with
        | head => exact ⟨holds, success⟩
        | tail _ later => exact ih next (preserved start input next success holds) entry later
      · exact ih start holds entry member

/-- A preorder that every accepted step follows relates every state to all later ones. -/
theorem entries_follow (Follows : σ → σ → Prop) (refl : ∀ s, Follows s s)
    (trans : ∀ s s' s'', Follows s s' → Follows s' s'' → Follows s s'')
    (forward : ∀ s input s', step s input = .ok s' → Follows s s') (inputs : List α) :
    ∀ start, (∀ entry ∈ history step start inputs, Follows start entry.before) ∧
      (history step start inputs).Pairwise fun earlier later =>
        Follows earlier.after later.before := by
  induction inputs with
  | nil =>
      intro start
      exact ⟨List.forall_mem_nil _, List.Pairwise.nil⟩
  | cons input inputs ih =>
      intro start
      unfold history
      split
      · rename_i next success
        obtain ⟨reach, pairwise⟩ := ih next
        refine ⟨?_, .cons reach pairwise⟩
        intro entry member
        cases member with
        | head => exact refl start
        | tail _ later =>
            exact trans _ _ _ (forward start input next success) (reach entry later)
      · exact ih start

end History
