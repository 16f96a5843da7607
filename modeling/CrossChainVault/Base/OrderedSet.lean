import Mathlib.Algebra.BigOperators.Group.List.Basic
import Mathlib.Algebra.Order.BigOperators.Group.List
import Mathlib.Algebra.Order.Ring.Nat
import Mathlib.Data.List.Nodup
import Mathlib.Data.List.Perm.Subperm
import CrossChainVault.Base.Unsigned

set_option autoImplicit false

/- Finite ordered sets: membership after an update, the first element, and the sum of a weight over
the elements. -/

/-- A finite set that iterates in order. -/
abbrev OrderedSet (K : Type) [Ord K] := Std.ExtTreeSet K compare

namespace OrderedSet

variable {K : Type} [Ord K] [Std.TransOrd K] [Std.LawfulEqOrd K]

theorem mem_insert {s : OrderedSet K} {k a : K} : a ∈ s.insert k ↔ a = k ∨ a ∈ s := by
  rw [Std.ExtTreeSet.mem_insert, Std.LawfulEqCmp.compare_eq_iff_eq, eq_comm]

theorem mem_erase {s : OrderedSet K} {k a : K} : a ∈ s.erase k ↔ a ≠ k ∧ a ∈ s := by
  rw [Std.ExtTreeSet.mem_erase, ne_eq, Std.LawfulEqCmp.compare_eq_iff_eq, ne_comm]

/-- The smallest element. -/
def first (s : OrderedSet K) : Option K := s.toList.head?

/-- The first element is one, and none comes before it. -/
theorem of_first {s : OrderedSet K} {k : K} (found : first s = some k) :
    k ∈ s ∧ ∀ a ∈ s, (compare k a).isLE := by
  unfold first at found
  obtain ⟨rest, listed⟩ := List.head?_eq_some_iff.mp found
  have ordered := s.ordered_toList
  rw [listed, List.pairwise_cons] at ordered
  refine ⟨?_, ?_⟩
  · rw [← Std.ExtTreeSet.mem_toList, listed]
    exact List.mem_cons_self
  · intro a inside
    rw [← Std.ExtTreeSet.mem_toList, listed, List.mem_cons] at inside
    rcases inside with same | later
    · have equal : compare k k = .eq := Std.ReflCmp.compare_self
      rw [same, equal]
      rfl
    · rw [ordered.1 a later]
      rfl

theorem not_mem_of_first {s : OrderedSet K} (empty : first s = none) (k : K) : k ∉ s := by
  unfold first at empty
  rw [List.head?_eq_none_iff] at empty
  rw [← Std.ExtTreeSet.mem_toList, empty]
  exact List.not_mem_nil

theorem nodup_toList (s : OrderedSet K) : s.toList.Nodup := by
  apply s.distinct_toList.imp
  intro a b distinct same
  exact distinct (same ▸ Std.ReflCmp.compare_self)

/-- Sets that list the same elements are equal. -/
theorem eq_of_toList {s s' : OrderedSet K} (same : s.toList = s'.toList) : s = s' := by
  apply Std.ExtTreeSet.ext_mem
  intro a
  rw [← Std.ExtTreeSet.mem_toList, same, Std.ExtTreeSet.mem_toList]

/-- Erasing an element removes exactly it. -/
theorem toList_erase_perm {s : OrderedSet K} {k : K} (present : k ∈ s) :
    s.toList.Perm (k :: (s.erase k).toList) := by
  apply (List.perm_ext_iff_of_nodup (nodup_toList _) _).mpr
  · intro a
    rw [Std.ExtTreeSet.mem_toList, List.mem_cons, Std.ExtTreeSet.mem_toList, mem_erase]
    by_cases same : a = k
    · simp [same, present]
    · simp [same]
  · apply List.nodup_cons.mpr
    rw [Std.ExtTreeSet.mem_toList, mem_erase]
    exact ⟨fun erased => erased.1 rfl, nodup_toList _⟩

/-- The sum of a weight over all elements. -/
def sumOf (s : OrderedSet K) (f : K → Nat) : Nat := (s.toList.map f).sum

theorem sumOf_erase {s : OrderedSet K} {k : K} (f : K → Nat) (present : k ∈ s) :
    sumOf (s.erase k) f + f k = sumOf s f := by
  unfold sumOf
  rw [((toList_erase_perm present).map f).sum_eq, List.map_cons, List.sum_cons, Nat.add_comm]

/-- A set that holds nothing but some listed elements and those of another one. -/
theorem sumOf_le_of_subset {s s' : OrderedSet K} (listed : List K) (f : K → Nat)
    (covered : ∀ k ∈ s', k ∈ listed ∨ k ∈ s) : sumOf s' f ≤ (listed.map f).sum + sumOf s f := by
  have inside : s'.toList ⊆ listed ++ s.toList := by
    intro k member
    rw [Std.ExtTreeSet.mem_toList] at member
    rw [List.mem_append, Std.ExtTreeSet.mem_toList]
    exact covered k member
  obtain ⟨part, same, within⟩ := (nodup_toList s').subperm inside
  unfold sumOf
  rw [← (same.map f).sum_eq, ← List.sum_append, ← List.map_append]
  exact (within.map f).sum_le_sum fun _ _ => Nat.zero_le _

end OrderedSet
