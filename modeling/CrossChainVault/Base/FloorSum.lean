import Mathlib.Algebra.BigOperators.Group.List.Basic
import Mathlib.Algebra.Ring.Nat

set_option autoImplicit false

/- Pricing a total at a rational rate and pricing its parts one by one, both rounded down. -/

/-- A rational rate. -/
structure Rate where
  numerator : Nat
  denominator : Nat
deriving DecidableEq

namespace Rate

variable {α : Type} (rate : Rate)

/-- The amount at this rate, rounded down. -/
def floor (amount : Nat) : Nat := amount * rate.numerator / rate.denominator

@[simp] theorem floor_zero : rate.floor 0 = 0 := by
  simp [floor]

theorem floor_mono {a b : Nat} (le : a ≤ b) : rate.floor a ≤ rate.floor b :=
  Nat.div_le_div_right (Nat.mul_le_mul_right _ le)

theorem floor_add_le (a b : Nat) : rate.floor a + rate.floor b ≤ rate.floor (a + b) := by
  unfold floor
  rw [Nat.add_mul]
  exact Nat.div_add_div_le_add_div

theorem floor_add_le_succ (a b : Nat) : rate.floor (a + b) ≤ rate.floor a + rate.floor b + 1 := by
  unfold floor
  rw [Nat.add_mul]
  rcases Nat.eq_zero_or_pos rate.denominator with zero | positive
  · simp [zero]
  · rw [Nat.add_div positive]
    split <;> omega

/-- Pricing the parts never exceeds pricing the whole. -/
theorem sum_floor_le (amount : α → Nat) (parts : List α) :
    (parts.map fun x => rate.floor (amount x)).sum ≤ rate.floor (parts.map amount).sum := by
  induction parts with
  | nil => simp
  | cons part parts ih =>
      simp only [List.map_cons, List.sum_cons]
      have whole := rate.floor_add_le (amount part) (parts.map amount).sum
      omega

/-- Each counted part loses less than one unit, and the last one loses none on its own. -/
theorem floor_sum_le (amount count : α → Nat) (parts : List α)
    (counted : ∀ x ∈ parts, count x = 0 → amount x = 0) :
    rate.floor (parts.map amount).sum ≤
      (parts.map fun x => rate.floor (amount x)).sum + ((parts.map count).sum - 1) := by
  suffices strict : (parts.map count).sum = 0 ∧ (parts.map amount).sum = 0 ∨
      rate.floor (parts.map amount).sum + 1 ≤
        (parts.map fun x => rate.floor (amount x)).sum + (parts.map count).sum by
    rcases strict with ⟨-, zero⟩ | strict
    · simp [zero]
    · omega
  induction parts with
  | nil => simp
  | cons part parts ih =>
      have rest := ih fun x member => counted x (List.mem_cons_of_mem part member)
      have head := counted part List.mem_cons_self
      simp only [List.map_cons, List.sum_cons]
      rcases rest with ⟨noCount, noAmount⟩ | rest
      · rw [noCount, noAmount]
        have bound := rate.sum_floor_le amount parts
        rw [noAmount, floor_zero] at bound
        rcases Nat.eq_zero_or_pos (count part) with none | some
        · exact .inl ⟨by omega, by simp [head none]⟩
        · right
          simp only [Nat.add_zero]
          omega
      · have step := rate.floor_add_le_succ (amount part) (parts.map amount).sum
        rcases Nat.eq_zero_or_pos (count part) with none | some
        · rw [head none, floor_zero]
          right
          simp only [Nat.zero_add]
          omega
        · right
          omega

end Rate

/-- Comparing prices by cross multiplication is transitive. -/
theorem price_trans {a₁ s₁ a₂ s₂ a₃ s₃ : Nat} (positive : 0 < s₂) (first : a₁ * s₂ ≤ a₂ * s₁)
    (second : a₂ * s₃ ≤ a₃ * s₂) : a₁ * s₃ ≤ a₃ * s₁ := by
  refine Nat.le_of_mul_le_mul_right ?_ positive
  calc a₁ * s₃ * s₂ = a₁ * s₂ * s₃ := Nat.mul_right_comm ..
    _ ≤ a₂ * s₁ * s₃ := Nat.mul_le_mul_right _ first
    _ = a₂ * s₃ * s₁ := Nat.mul_right_comm ..
    _ ≤ a₃ * s₂ * s₁ := Nat.mul_le_mul_right _ second
    _ = a₃ * s₁ * s₂ := Nat.mul_right_comm ..

/-- Minting and paying out at one price, both rounded down, never lowers the price: `paid` leaves
the assets, `minted` and `burned` move the shares. -/
theorem settlement_price {assets shares deposit minted burned paid before after supply : Nat}
    (mint : minted * assets ≤ deposit * shares) (pay : paid * shares ≤ burned * assets)
    (backed : assets ≤ before) (left : after + paid = before + deposit)
    (moved : supply + burned = shares + minted) : assets * supply ≤ after * shares := by
  have supplied : assets * supply + burned * assets = assets * shares + minted * assets := by
    have := congrArg (assets * ·) moved
    simp only [Nat.mul_add] at this
    rw [Nat.mul_comm burned, Nat.mul_comm minted]
    exact this
  have kept : after * shares + paid * shares = before * shares + deposit * shares := by
    rw [← Nat.add_mul, ← Nat.add_mul, left]
  have whole : assets * shares ≤ before * shares := Nat.mul_le_mul_right _ backed
  omega
