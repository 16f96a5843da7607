import CrossChainVault.Base.Result

set_option autoImplicit false

/- Methods that change a state in place and may return an error halfway: what has been written by
then stays written, so an error says nothing about the state by itself. -/

namespace InPlace

open Result

variable {σ ε α β : Type}

/-- A check that only reads: its failure is returned at once. -/
def check : Except ε α → EStateM ε σ α
  | .ok a => pure a
  | .error failure => throw failure

/-- From `s` the method either succeeds as `post` says or fails and leaves `s` as it was. -/
def Does (method : EStateM ε σ α) (s : σ) (post : α → σ → Prop) : Prop :=
  match method s with
  | .ok a after => post a after
  | .error _ after => after = s

variable {s : σ} {post : α → σ → Prop} {postNext : β → σ → Prop}

theorem Does.of_ok {method : EStateM ε σ α} {a : α} {after : σ} (result : method s = .ok a after)
    (holds : post a after) : Does method s post := by
  unfold Does
  rw [result]
  exact holds

theorem does_set {after : σ} {post : PUnit → σ → Prop} :
    Does (set after : EStateM ε σ PUnit) s post ↔ post ⟨⟩ after := Iff.rfl

theorem does_modify {change : σ → σ} {post : PUnit → σ → Prop} :
    Does (modify change : EStateM ε σ PUnit) s post ↔ post ⟨⟩ (change s) := Iff.rfl

theorem does_get_bind {next : σ → EStateM ε σ β} :
    Does (get >>= next) s postNext ↔ Does (next s) s postNext := Iff.rfl

theorem does_map {method : EStateM ε σ α} {f : α → β} :
    Does (f <$> method) s postNext ↔ Does method s fun a after => postNext (f a) after := by
  change (match EStateM.map f method s with
    | .ok b after => postNext b after
    | .error _ after => after = s) ↔ _
  unfold EStateM.map Does
  cases method s <;> exact Iff.rfl

/-- A failed check changes nothing, and a passed one hands its value on. -/
theorem does_check_bind {checked : Except ε α} {next : α → EStateM ε σ β} :
    Does (check checked >>= next) s postNext ↔
      ∀ a, checked = .ok a → Does (next a) s postNext := by
  cases checked with
  | ok a =>
      constructor
      · intro holds b same
        cases same
        exact holds
      · intro holds
        exact holds a rfl
  | error failure =>
      constructor
      · intro _ a same
        cases same
      · intro _
        rfl

/-- What follows a change must succeed, for nothing takes the change back. -/
theorem Does.bind_ok {method : EStateM ε σ α} {next : α → EStateM ε σ β} (first : Does method s post)
    (rest : ∀ a middle, post a middle → ∃ b after, next a middle = .ok b after ∧ postNext b after) :
    Does (method >>= next) s postNext := by
  unfold Does at first
  change match EStateM.bind method next s with
    | .ok b after => postNext b after
    | .error _ after => after = s
  unfold EStateM.bind
  cases result : method s with
  | ok a middle =>
      rw [result] at first
      obtain ⟨b, after, done, holds⟩ := rest a middle first
      dsimp only
      rw [done]
      exact holds
  | error failure after =>
      rw [result] at first
      exact first

theorem Does.imp {method : EStateM ε σ α} {weaker : α → σ → Prop} (holds : Does method s post)
    (implies : ∀ a after, post a after → weaker a after) : Does method s weaker := by
  unfold Does at holds ⊢
  split
  · rename_i a after result
    rw [result] at holds
    exact implies a after holds
  · rename_i failure after result
    rw [result] at holds
    exact holds

/-- The state after a method, whether it succeeded or failed. -/
def after (method : EStateM ε σ α) (s : σ) : σ :=
  match method s with
  | .ok _ s' => s'
  | .error _ s' => s'

/-- What holds before a method and after it succeeds holds after it in either case. -/
theorem Does.after {method : EStateM ε σ α} {Inv : σ → Prop} (holds : Inv s)
    (does : Does method s fun _ s' => Inv s') : Inv (InPlace.after method s) := by
  unfold Does at does
  unfold InPlace.after
  split
  · rename_i result
    rw [result] at does
    exact does
  · rename_i result
    rw [result] at does
    rw [does]
    exact holds

end InPlace
