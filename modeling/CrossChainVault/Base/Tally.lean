import CrossChainVault.Base.Unsigned
import Mathlib.Algebra.BigOperators.Group.Finset.Basic
import Mathlib.Algebra.Order.BigOperators.Group.Finset
import Mathlib.Data.Fintype.BigOperators

set_option autoImplicit false

/- Sums over all entries of a mapping whose keys are machine integers. -/

noncomputable instance Unsigned.instFintype {bits : Nat} : Fintype (Unsigned bits) :=
  Fintype.ofInjective (fun a : Unsigned bits => (⟨a.raw, a.bound⟩ : Fin (2 ^ bits)))
    (fun _ _ same => Unsigned.ext (Fin.mk.inj same))

namespace Tally

variable {K V : Type} [Fintype K]

/-- What all entries weigh together. -/
noncomputable def tally (weight : K → Nat) : Nat := ∑ k, weight k

variable {f g : K → Nat}

theorem tally_congr (same : ∀ k, f k = g k) : tally f = tally g :=
  Finset.sum_congr rfl fun k _ => same k

theorem tally_eq_zero (none : ∀ k, f k = 0) : tally f = 0 :=
  Finset.sum_eq_zero fun k _ => none k

theorem le_tally (k : K) : f k ≤ tally f :=
  Finset.single_le_sum (fun _ _ => Nat.zero_le _) (Finset.mem_univ k)

/-- Only the listed keys weigh anything. -/
theorem tally_listed [DecidableEq K] {keys : List K} (distinct : keys.Nodup)
    (others : ∀ k, k ∉ keys → f k = 0) : tally f = (keys.map f).sum := by
  rw [← List.sum_toFinset f distinct]
  symm
  apply Finset.sum_subset (Finset.subset_univ _)
  intro k _ absent
  exact others k (mt List.mem_toFinset.mpr absent)

/-- Only one entry changed its weight. -/
theorem tally_changed [DecidableEq K] (k : K) (others : ∀ other, other ≠ k → f other = g other) :
    tally f + g k = tally g + f k := by
  have first : f k + ∑ x ∈ Finset.univ.erase k, f x = tally f :=
    Finset.add_sum_erase _ f (Finset.mem_univ k)
  have second : g k + ∑ x ∈ Finset.univ.erase k, g x = tally g :=
    Finset.add_sum_erase _ g (Finset.mem_univ k)
  have rest : ∑ x ∈ Finset.univ.erase k, f x = ∑ x ∈ Finset.univ.erase k, g x :=
    Finset.sum_congr rfl fun x member => others x (Finset.ne_of_mem_erase member)
  omega

theorem tally_update [DecidableEq K] (weight : V → Nat) (m : K → V) (k : K) (v : V) :
    tally (fun x => weight (Function.update m k v x)) + weight (m k) =
      tally (fun x => weight (m x)) + weight v := by
  have changed := tally_changed k (f := fun x => weight (Function.update m k v x))
    (g := fun x => weight (m x)) fun other apart => by
      show weight (Function.update m k v other) = weight (m other)
      rw [Function.update_of_ne apart]
  simpa only [Function.update_self] using changed

end Tally
