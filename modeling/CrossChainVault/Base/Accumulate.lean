import CrossChainVault.Base.Result

set_option autoImplicit false

/- Loops that add up bounded totals and stop at the first total that does not fit. -/

namespace Result

variable {ε α β ι : Type} {f : β → α → Except ε β} (total : ι → β → Nat) (weight : ι → α → Nat)

/-- Every completed loop has added the weights of all its inputs. -/
theorem foldlM_added (inputs : List α)
    (step : ∀ state next, ∀ a ∈ inputs, f state a = .ok next →
      ∀ i, total i next = total i state + weight i a) :
    ∀ start final, inputs.foldlM f start = .ok final →
      ∀ i, total i final = total i start + (inputs.map (weight i)).sum := by
  induction inputs with
  | nil =>
      intro start final finished i
      cases pure_eq_ok.mp finished
      rfl
  | cons a inputs ih =>
      intro start final finished i
      obtain ⟨middle, first, rest⟩ := bind_eq_ok.mp finished
      have head := step start middle a List.mem_cons_self first i
      have tail := ih (fun state next b member => step state next b (List.mem_cons_of_mem a member))
        middle final rest i
      simp only [List.map_cons, List.sum_cons]
      omega

/-- A loop whose steps go through while the totals fit goes through when the final totals fit. -/
theorem foldlM_adds (limit : Nat) (inputs : List α)
    (step : ∀ state, ∀ a ∈ inputs, (∀ i, total i state + weight i a < limit) →
      ∃ next, f state a = .ok next ∧ ∀ i, total i next = total i state + weight i a) :
    ∀ start, (∀ i, total i start + (inputs.map (weight i)).sum < limit) →
      ∃ final, inputs.foldlM f start = .ok final ∧
        ∀ i, total i final = total i start + (inputs.map (weight i)).sum := by
  induction inputs with
  | nil => exact fun start _ => ⟨start, rfl, fun _ => rfl⟩
  | cons a inputs ih =>
      intro start fits
      simp only [List.map_cons, List.sum_cons] at fits ⊢
      obtain ⟨middle, first, added⟩ := step start a List.mem_cons_self fun i => by
        have := fits i
        omega
      obtain ⟨final, rest, totals⟩ :=
        ih (fun state b member => step state b (List.mem_cons_of_mem a member)) middle fun i => by
          have := fits i
          have := added i
          omega
      refine ⟨final, bind_eq_ok.mpr ⟨middle, first, rest⟩, fun i => ?_⟩
      have := added i
      have := totals i
      omega

/-- A loop that only checks its inputs passes when each of them does. -/
theorem forM_eq_ok {check : α → Except ε Unit} (inputs : List α) :
    forM inputs check = .ok () ↔ ∀ a ∈ inputs, check a = .ok () := by
  induction inputs with
  | nil => simp [pure, Except.pure]
  | cons a inputs ih =>
      simp only [List.forM_cons, bind_eq_ok, ih, List.mem_cons, forall_eq_or_imp]
      constructor
      · rintro ⟨⟨⟩, first, rest⟩
        exact ⟨first, rest⟩
      · intro both
        exact ⟨(), both.1, both.2⟩

/-- Bounded totals: what a state reads as, and the state that reads as given amounts. -/
structure Counters (ι β : Type) where
  limit : Nat
  read : β → ι → Nat
  write : (amounts : ι → Nat) → (∀ i, amounts i < limit) → β
  bounded : ∀ state i, read state i < limit
  read_write : ∀ amounts fits i, read (write amounts fits) i = amounts i
  ext : ∀ state other, (∀ i, read state i = read other i) → state = other

namespace Counters

def one (bits : Nat) : Counters Unit (Unsigned bits) where
  limit := 2 ^ bits
  read a _ := a.raw
  write amounts fits := ⟨amounts (), fits ()⟩
  bounded a _ := a.bound
  read_write _ _ _ := rfl
  ext _ _ same := Unsigned.ext (same ())

/-- A pair of totals, the second one under `true`. -/
def two (bits : Nat) : Counters Bool (Unsigned bits × Unsigned bits) where
  limit := 2 ^ bits
  read pair second := if second then pair.2.raw else pair.1.raw
  write amounts fits := (⟨amounts false, fits false⟩, ⟨amounts true, fits true⟩)
  bounded pair second := by
    cases second
    · exact pair.1.bound
    · exact pair.2.bound
  read_write amounts fits second := by cases second <;> rfl
  ext a b same := Prod.ext (Unsigned.ext (same false)) (Unsigned.ext (same true))

/-- A loop whose every turn checks its input and adds exact weights goes through exactly when all
inputs pass and the final totals are the sums. -/
theorem foldlM_ok (counters : Counters ι β) {fit : α → Prop} {weight : α → ι → Nat}
    (inputs : List α) (step : ∀ state a next, a ∈ inputs → (f state a = .ok next ↔
      fit a ∧ ∀ i, counters.read next i = counters.read state i + weight a i)) :
    ∀ start final, inputs.foldlM f start = .ok final ↔ (∀ a ∈ inputs, fit a) ∧
      ∀ i, counters.read final i = counters.read start i + (inputs.map (weight · i)).sum := by
  induction inputs with
  | nil =>
      intro start final
      rw [List.foldlM_nil, pure_eq_ok]
      constructor
      · rintro rfl
        exact ⟨by simp, fun i => rfl⟩
      · rintro ⟨-, same⟩
        exact counters.ext _ _ fun i => (same i).symm
  | cons a inputs ih =>
      intro start final
      have later := ih fun state b next member => step state b next (List.mem_cons_of_mem a member)
      simp only [List.foldlM_cons, bind_eq_ok, List.mem_cons, forall_eq_or_imp, List.map_cons,
        List.sum_cons]
      constructor
      · rintro ⟨middle, first, rest⟩
        obtain ⟨here, added⟩ := (step start a middle List.mem_cons_self).mp first
        obtain ⟨others, totals⟩ := (later middle final).mp rest
        refine ⟨⟨here, others⟩, fun i => ?_⟩
        rw [totals i, added i, Nat.add_assoc]
      · rintro ⟨⟨here, others⟩, totals⟩
        have fits (i : ι) : counters.read start i + weight a i < counters.limit := by
          have bounded := counters.bounded final i
          have total := totals i
          omega
        have written := counters.read_write _ fits
        refine ⟨counters.write _ fits, (step start a _ List.mem_cons_self).mpr ⟨here, written⟩,
          (later _ final).mpr ⟨others, fun i => ?_⟩⟩
        rw [written i, totals i, Nat.add_assoc]

end Counters

end Result
