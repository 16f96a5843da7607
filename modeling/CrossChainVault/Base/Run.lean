import CrossChainVault.Base.Result

set_option autoImplicit false

/- Finite runs of a fallible step function, and what holds along them. -/

namespace Run

open Result

variable {σ α ε : Type}

/-- Feeds the inputs one after another and stops at the first failure. -/
def run (step : σ → α → Except ε σ) (start : σ) (inputs : List α) : Except ε σ :=
  inputs.foldlM step start

variable {step : σ → α → Except ε σ} {start final : σ}

@[simp] theorem run_nil : run step start [] = .ok final ↔ start = final := pure_eq_ok

@[simp] theorem run_cons {input : α} {inputs : List α} :
    run step start (input :: inputs) = .ok final ↔
      ∃ middle, step start input = .ok middle ∧ run step middle inputs = .ok final := bind_eq_ok

theorem run_one {input : α} : run step start [input] = .ok final ↔ step start input = .ok final := by
  simp

theorem run_append {before after : List α} :
    run step start (before ++ after) = .ok final ↔
      ∃ middle, run step start before = .ok middle ∧ run step middle after = .ok final := by
  have split : run step start (before ++ after) = run step start before >>= (run step · after) :=
    List.foldlM_append
  rw [split, bind_eq_ok]

/-- What every accepted step of these inputs keeps, an accepted run of them keeps. -/
theorem run_preserves_of (Inv : σ → Prop) (inputs : List α)
    (preserved : ∀ input ∈ inputs, ∀ s s', step s input = .ok s' → Inv s → Inv s') :
    ∀ start, run step start inputs = .ok final → Inv start → Inv final := by
  induction inputs with
  | nil =>
      intro start finished holds
      rwa [← run_nil.mp finished]
  | cons input inputs ih =>
      intro start finished holds
      obtain ⟨middle, first, rest⟩ := run_cons.mp finished
      have here := preserved input List.mem_cons_self start middle first holds
      exact ih (fun later member => preserved later (List.mem_cons_of_mem input member)) middle rest
        here

/-- What every accepted step keeps, every accepted run keeps. -/
theorem run_preserves (Inv : σ → Prop)
    (preserved : ∀ s input s', step s input = .ok s' → Inv s → Inv s') (inputs : List α) :
    ∀ start, run step start inputs = .ok final → Inv start → Inv final :=
  run_preserves_of Inv inputs fun input _ s s' => preserved s input s'

/-- Inputs that can trade places with their neighbour can be fed in any order. -/
theorem run_perm (Inv : σ → Prop) (fit : α → Prop)
    (preserved : ∀ s input s', step s input = .ok s' → Inv s → Inv s')
    (swap : ∀ s s' s'' a b, Inv s → fit a → fit b → step s a = .ok s' → step s' b = .ok s'' →
      ∃ other, step s b = .ok other ∧ step other a = .ok s'')
    {inputs shuffled : List α} (perm : inputs.Perm shuffled) :
    (∀ input ∈ inputs, fit input) → ∀ start, Inv start → run step start inputs = .ok final →
      run step start shuffled = .ok final := by
  induction perm with
  | nil =>
      intro _ start _ finished
      exact finished
  | cons input _ ih =>
      intro fits start holds finished
      obtain ⟨middle, first, rest⟩ := run_cons.mp finished
      have here := preserved start input middle first holds
      have later := ih (fun next member => fits next (List.mem_cons_of_mem input member)) middle here
        rest
      exact run_cons.mpr ⟨middle, first, later⟩
  | swap a b inputs =>
      intro fits start holds finished
      obtain ⟨middle, first, rest⟩ := run_cons.mp finished
      obtain ⟨next, second, rest⟩ := run_cons.mp rest
      have fitB := fits b List.mem_cons_self
      have fitA := fits a (List.mem_cons_of_mem b List.mem_cons_self)
      obtain ⟨other, sooner, later⟩ := swap start middle next b a holds fitB fitA first second
      exact run_cons.mpr ⟨other, sooner, run_cons.mpr ⟨next, later, rest⟩⟩
  | trans one two ihOne ihTwo =>
      intro fits start holds finished
      have half := ihOne fits start holds finished
      exact ihTwo (fun next member => fits next (one.mem_iff.mpr member)) start holds half

/-- Two counters whose difference grows by what each input brings and falls by what it takes, along
a whole run of inputs that keep an invariant. -/
theorem run_balance_of (Inv : σ → Prop) (plus minus : σ → Nat) (gain loss : α → Nat)
    (inputs : List α)
    (preserved : ∀ input ∈ inputs, ∀ s s', step s input = .ok s' → Inv s → Inv s')
    (balanced : ∀ input ∈ inputs, ∀ s s', step s input = .ok s' → Inv s →
      plus s' + minus s + loss input = plus s + minus s' + gain input) :
    ∀ start, run step start inputs = .ok final → Inv start →
      plus final + minus start + (inputs.map loss).sum =
        plus start + minus final + (inputs.map gain).sum := by
  induction inputs with
  | nil =>
      intro start finished _
      cases run_nil.mp finished
      rfl
  | cons input inputs ih =>
      intro start finished holds
      obtain ⟨middle, first, rest⟩ := run_cons.mp finished
      have here := balanced input List.mem_cons_self start middle first holds
      have later := ih (fun next member => preserved next (List.mem_cons_of_mem input member))
        (fun next member => balanced next (List.mem_cons_of_mem input member)) middle rest
        (preserved input List.mem_cons_self start middle first holds)
      rw [List.map_cons, List.sum_cons, List.map_cons, List.sum_cons]
      omega

/-- The same where nothing is taken, whatever the state. -/
theorem run_balance (plus minus : σ → Nat) (gain : α → Nat)
    (balanced : ∀ s input s', step s input = .ok s' →
      plus s' + minus s = plus s + minus s' + gain input) (inputs : List α) (start : σ)
    (finished : run step start inputs = .ok final) :
    plus final + minus start = plus start + minus final + (inputs.map gain).sum := by
  have whole := run_balance_of (fun _ => True) plus minus gain (fun _ => 0) inputs
    (fun _ _ _ _ _ _ => trivial) (fun input _ s s' success _ => balanced s input s' success) start
    finished trivial
  have nothing : (inputs.map fun _ => 0).sum = 0 := by simp
  omega

/-- How many inputs of a run meet a condition on the state they are fed to. -/
def countAlong (step : σ → α → Except ε σ) (test : σ → α → Bool) : σ → List α → Nat
  | _, [] => 0
  | s, input :: inputs =>
      match step s input with
      | .ok next => (test s input).toNat + countAlong step test next inputs
      | .error _ => 0

/-- A measure that every counted input spends and only `refills` restores bounds the count. -/
theorem countAlong_le (Inv : σ → Prop)
    (preserved : ∀ s input s', step s input = .ok s' → Inv s → Inv s') (measure : σ → Nat)
    (test refills : σ → α → Bool)
    (spends : ∀ s input s', step s input = .ok s' → Inv s →
      measure s' + (test s input).toNat ≤ measure s + (refills s input).toNat) (inputs : List α) :
    ∀ start, run step start inputs = .ok final → Inv start →
      countAlong step test start inputs ≤ measure start + countAlong step refills start inputs := by
  induction inputs with
  | nil =>
      intro start _ _
      exact Nat.zero_le _
  | cons input inputs ih =>
      intro start finished holds
      obtain ⟨middle, first, rest⟩ := run_cons.mp finished
      have here := spends start input middle first holds
      have later := ih middle rest (preserved start input middle first holds)
      simp only [countAlong, first]
      omega

/-- Without a look at the state, an accepted run counts the list. -/
theorem countAlong_const {test : α → Bool} (inputs : List α) :
    ∀ start, run step start inputs = .ok final →
      countAlong step (fun _ => test) start inputs = inputs.countP test := by
  induction inputs with
  | nil =>
      intro start _
      rfl
  | cons input inputs ih =>
      intro start finished
      obtain ⟨middle, first, rest⟩ := run_cons.mp finished
      simp only [countAlong, first, ih middle rest, List.countP_cons]
      cases test input <;> simp [Nat.add_comm]

/-- A run whose every step also meets a condition on its state and input. -/
inductive RunWhen (step : σ → α → Except ε σ) (good : σ → α → Prop) : σ → List α → σ → Prop
  | nil (s : σ) : RunWhen step good s [] s
  | cons {s middle final : σ} {input : α} {inputs : List α} (meets : good s input)
      (first : step s input = .ok middle) (rest : RunWhen step good middle inputs final) :
      RunWhen step good s (input :: inputs) final

theorem RunWhen.preserves {good : σ → α → Prop} (Inv : σ → Prop)
    (preserved : ∀ s input s', good s input → step s input = .ok s' → Inv s → Inv s')
    {inputs : List α} (run : RunWhen step good start inputs final) (holds : Inv start) :
    Inv final := by
  induction run with
  | nil => exact holds
  | cons meets first _ ih => exact ih (preserved _ _ _ meets first holds)

theorem RunWhen.accepted {good : σ → α → Prop} {inputs : List α}
    (whole : RunWhen step good start inputs final) : run step start inputs = .ok final := by
  induction whole with
  | nil => exact run_nil.mpr rfl
  | cons _ first _ ih => exact run_cons.mpr ⟨_, first, ih⟩

/-- The step function that also fails when the condition does not hold. -/
def guarded (step : σ → α → Except ε σ) (good : σ → α → Bool) (failure : ε) (s : σ) (input : α) :
    Except ε σ :=
  if good s input then step s input else .error failure

theorem RunWhen.of_guarded {good : σ → α → Bool} {failure : ε} (inputs : List α) :
    ∀ start, run (guarded step good failure) start inputs = .ok final →
      RunWhen step (fun s input => good s input = true) start inputs final := by
  induction inputs with
  | nil =>
      intro start finished
      cases run_nil.mp finished
      exact .nil _
  | cons input inputs ih =>
      intro start finished
      obtain ⟨middle, first, rest⟩ := run_cons.mp finished
      unfold guarded at first
      split at first
      · rename_i meets
        exact .cons meets first (ih middle rest)
      · cases first

/-- What each step adds to a list, the whole run adds in order. -/
theorem run_collects {β : Type} (read : σ → List β) (adds : α → List β)
    (each : ∀ s input s', step s input = .ok s' → read s' = read s ++ adds input) (inputs : List α) :
    ∀ start, run step start inputs = .ok final → read final = read start ++ inputs.flatMap adds := by
  induction inputs with
  | nil =>
      intro start finished
      cases run_nil.mp finished
      exact (List.append_nil _).symm
  | cons input inputs ih =>
      intro start finished
      obtain ⟨middle, first, rest⟩ := run_cons.mp finished
      rw [ih middle rest, each start input middle first, List.flatMap_cons, List.append_assoc]

/-- The step that an accepted run takes at an index, between the worlds around it. -/
structure StepAt (step : σ → α → Except ε σ) (start : σ) (inputs : List α) (final : σ) (index : Nat)
    (input : α) (before after : σ) : Prop where
  found : inputs[index]? = some input
  reached : run step start (inputs.take index) = .ok before
  taken : step before input = .ok after
  rest : run step after (inputs.drop (index + 1)) = .ok final

namespace StepAt

variable {inputs : List α} {index : Nat} {input : α} {before after : σ}

/-- An accepted run takes a step for each of its inputs. -/
theorem of_run (finished : run step start inputs = .ok final) (found : inputs[index]? = some input) :
    ∃ before after, StepAt step start inputs final index input before after := by
  obtain ⟨short, rfl⟩ := List.getElem?_eq_some_iff.mp found
  rw [← List.take_append_drop index inputs, List.drop_eq_getElem_cons short] at finished
  obtain ⟨before, reached, later⟩ := run_append.mp finished
  obtain ⟨after, taken, rest⟩ := run_cons.mp later
  exact ⟨before, after, found, reached, taken, rest⟩

theorem reached_next (here : StepAt step start inputs final index input before after) :
    run step start (inputs.take (index + 1)) = .ok after := by
  have more : inputs.take (index + 1) = inputs.take index ++ [input] := by
    rw [List.take_add_one, here.found, Option.toList_some]
  rw [more]
  exact run_append.mpr ⟨before, here.reached, run_one.mpr here.taken⟩

theorem finished (here : StepAt step start inputs final index input before after) :
    run step start inputs = .ok final := by
  rw [← List.take_append_drop (index + 1) inputs]
  exact run_append.mpr ⟨after, here.reached_next, here.rest⟩

/-- The next step starts where this one ended. -/
theorem next (here : StepAt step start inputs final index input before after) {input' : α}
    (found : inputs[index + 1]? = some input') :
    ∃ later, StepAt step start inputs final (index + 1) input' after later := by
  obtain ⟨middle, later, there⟩ := of_run here.finished found
  cases here.reached_next.symm.trans there.reached
  exact ⟨later, there⟩

/-- The step before this one ended where this one starts. -/
theorem previous (here : StepAt step start inputs final (index + 1) input before after) :
    ∃ input' earlier, StepAt step start inputs final index input' earlier before := by
  have short : index < inputs.length := by
    have := (List.getElem?_eq_some_iff.mp here.found).1
    omega
  obtain ⟨earlier, middle, there⟩ := of_run here.finished (List.getElem?_eq_getElem short)
  cases here.reached.symm.trans there.reached_next
  exact ⟨inputs[index], earlier, there⟩

end StepAt

/-- What an accepted run brings about, one of its steps brings about. -/
theorem stepAt_of_turn (P : σ → Prop) (inputs : List α) :
    ∀ start, run step start inputs = .ok final → ¬P start → P final →
      ∃ index input before after, StepAt step start inputs final index input before after ∧
        ¬P before ∧ P after := by
  induction inputs with
  | nil =>
      intro start finished fails holds
      cases run_nil.mp finished
      exact absurd holds fails
  | cons input inputs ih =>
      intro start finished fails holds
      obtain ⟨middle, first, rest⟩ := run_cons.mp finished
      by_cases turned : P middle
      · exact ⟨0, input, start, middle, ⟨rfl, run_nil.mpr rfl, first, rest⟩, fails, turned⟩
      · obtain ⟨index, later, before, after, there, was, is⟩ := ih middle rest turned holds
        have reached : run step start ((input :: inputs).take (index + 1)) = .ok before :=
          run_cons.mpr ⟨middle, first, there.reached⟩
        exact ⟨index + 1, later, before, after, ⟨there.found, reached, there.taken, there.rest⟩, was,
          is⟩

end Run
