import Mathlib.Data.List.Nodup
import Mathlib.Logic.Function.Basic

set_option autoImplicit false

/- A list of distinct entries with a position map, so that an entry leaves in constant time:
the last entry takes its place. -/

/-- Positions count from one; zero means that the entry is absent. -/
structure Registry (α : Type) where
  entries : List α
  slot : α → Nat

namespace Registry

variable {α : Type}

def empty : Registry α := ⟨[], fun _ => 0⟩

instance : Inhabited (Registry α) := ⟨empty⟩

section Operations

variable [DecidableEq α]

def push (r : Registry α) (a : α) : Registry α where
  entries := r.entries ++ [a]
  slot := Function.update r.slot a (r.entries.length + 1)

/-- Moves the last entry over the removed one. Fails on a position outside the list. -/
def remove (r : Registry α) (a : α) : Option (Registry α) :=
  match r.entries.getLast? with
  | none => none
  | some moved =>
      if r.slot a = r.entries.length then
        some ⟨r.entries.dropLast, Function.update r.slot a 0⟩
      else if r.entries.length < r.slot a ∨ r.slot a = 0 then none
      else
        some ⟨(r.entries.set (r.slot a - 1) moved).dropLast,
          Function.update (Function.update r.slot moved (r.slot a)) a 0⟩

end Operations

/-- The position map is the inverse of the list. -/
def WellFormed (r : Registry α) : Prop :=
  ∀ (a : α) (i : Nat), r.slot a = i + 1 ↔ r.entries[i]? = some a

variable {r r' : Registry α} {a : α}

theorem wellFormed_empty : (empty : Registry α).WellFormed := by
  intro a i
  simp [empty]

namespace WellFormed

theorem nodup (wf : r.WellFormed) : r.entries.Nodup := by
  rw [List.nodup_iff_getElem?_ne_getElem?]
  intro i j before inside same
  have first : r.entries[i]? = some r.entries[i] := List.getElem?_eq_getElem (by omega)
  have second := same ▸ first
  have := (wf _ _).mpr first
  have := (wf _ _).mpr second
  omega

theorem slot_eq_zero (wf : r.WellFormed) : r.slot a = 0 ↔ a ∉ r.entries := by
  constructor
  · intro absent member
    obtain ⟨i, at_i⟩ := List.mem_iff_getElem?.mp member
    have := (wf a i).mpr at_i
    omega
  · intro absent
    by_contra present
    have found := (wf a (r.slot a - 1)).mp (by omega)
    exact absent (List.mem_of_getElem? found)

theorem slot_le (wf : r.WellFormed) : r.slot a ≤ r.entries.length := by
  by_cases absent : r.slot a = 0
  · omega
  · have found := (wf a (r.slot a - 1)).mp (by omega)
    have := (List.getElem?_eq_some_iff.mp found).1
    omega

theorem push [DecidableEq α] (wf : r.WellFormed) (absent : r.slot a = 0) : (r.push a).WellFormed := by
  intro b i
  have aboveA := (wf.slot_eq_zero).mp absent
  show Function.update r.slot a _ b = _ ↔ (r.entries ++ [a])[i]? = _
  rw [List.getElem?_append]
  by_cases same : b = a
  · subst same
    rw [Function.update_self]
    split
    · rename_i inside
      have : r.entries[i]? ≠ some b := fun found => aboveA (List.mem_of_getElem? found)
      simp only [this, iff_false]
      omega
    · rename_i outside
      rw [List.getElem?_singleton]
      split
      · simp only [iff_true]
        omega
      · simp only [reduceCtorEq, iff_false]
        omega
  · rw [Function.update_of_ne same, wf b i]
    split
    · rfl
    · rename_i outside
      rw [List.getElem?_singleton, List.getElem?_eq_none (by omega)]
      split
      · simp only [reduceCtorEq, Option.some.injEq, false_iff]
        exact fun other => same other.symm
      · rfl

end WellFormed

theorem mem_push [DecidableEq α] {b : α} : b ∈ (r.push a).entries ↔ b ∈ r.entries ∨ b = a := by
  simp [push]

section Remove

variable [DecidableEq α]

theorem length_remove (removed : r.remove a = some r') :
    r'.entries.length + 1 = r.entries.length := by
  unfold remove at removed
  split at removed
  · cases removed
  rename_i moved last
  rw [List.getLast?_eq_getElem?] at last
  have inside := (List.getElem?_eq_some_iff.mp last).1
  split at removed
  · cases removed
    rw [List.length_dropLast]
    omega
  · split at removed
    · cases removed
    · cases removed
      rw [List.length_dropLast, List.length_set]
      omega

/-- What removal leaves: every other entry in place, and the last one where `a` was. -/
theorem remove_some (wf : r.WellFormed) (removed : r.remove a = some r') :
    ∃ moved, r.entries[r.entries.length - 1]? = some moved ∧ r.slot a ≠ 0 ∧
      (∀ i, r'.entries[i]? = if i + 1 < r.entries.length then
        (if i + 1 = r.slot a then some moved else r.entries[i]?) else none) ∧
      (∀ b, r'.slot b = if b = a then 0 else if b = moved then r.slot a else r.slot b) := by
  unfold remove at removed
  split at removed
  · cases removed
  rename_i moved last
  rw [List.getLast?_eq_getElem?] at last
  have inside := (List.getElem?_eq_some_iff.mp last).1
  refine ⟨moved, last, ?_⟩
  split at removed
  · rename_i atEnd
    cases removed
    refine ⟨by omega, ?_, ?_⟩
    · intro i
      rw [List.getElem?_dropLast]
      split
      · rw [if_pos (by omega), if_neg (by omega)]
      · rw [if_neg (by omega)]
    · intro b
      -- The removed entry is the last one, so nothing else moves.
      have same : moved = a := by
        have found := (wf a (r.entries.length - 1)).mp (by omega)
        exact Option.some.inj (last.symm.trans found)
      by_cases eq : b = a
      · simp [eq]
      · show Function.update r.slot a 0 b = _
        rw [Function.update_of_ne eq, if_neg eq, if_neg (same ▸ eq)]
  · rename_i inner
    split at removed
    · cases removed
    rename_i bounds
    cases removed
    refine ⟨by omega, ?_, ?_⟩
    · intro i
      rw [List.getElem?_dropLast, List.length_set]
      split
      · rw [if_pos (by omega), List.getElem?_set]
        by_cases here : i + 1 = r.slot a
        · rw [if_pos (by omega), if_pos (by omega), if_pos here]
        · rw [if_neg (by omega), if_neg here]
      · rw [if_neg (by omega)]
    · intro b
      by_cases eq : b = a
      · simp [eq]
      · show Function.update (Function.update r.slot moved (r.slot a)) a 0 b = _
        rw [Function.update_of_ne eq, if_neg eq]
        by_cases eq' : b = moved
        · simp [eq']
        · rw [Function.update_of_ne eq', if_neg eq']

theorem WellFormed.remove (wf : r.WellFormed) (removed : r.remove a = some r') :
    r'.WellFormed := by
  obtain ⟨moved, last, present, entries, slots⟩ := remove_some wf removed
  have slotMoved := (wf moved (r.entries.length - 1)).mpr last
  have inside := (List.getElem?_eq_some_iff.mp last).1
  have bound := wf.slot_le (a := a)
  intro b i
  rw [entries i, slots b]
  have slotB := wf b i
  by_cases isA : b = a
  · subst isA
    rw [if_pos rfl]
    constructor
    · omega
    · intro found
      split at found
      · split at found
        · rename_i _ here
          cases found
          omega
        · have := slotB.mpr found
          omega
      · cases found
  rw [if_neg isA]
  by_cases isMoved : b = moved
  · subst isMoved
    rw [if_pos rfl]
    constructor
    · intro here
      -- The moved entry sits where `a` was; that is not the end, or `a` would be it.
      have : r.slot a ≠ r.entries.length := by
        intro atEnd
        have found := (wf a (r.entries.length - 1)).mp (by omega)
        exact isA (Option.some.inj (last.symm.trans found))
      rw [if_pos (by omega), if_pos (by omega)]
    · intro found
      split at found
      · split at found
        · omega
        · have := slotB.mpr found
          omega
      · cases found
  rw [if_neg isMoved]
  constructor
  · intro here
    have found := slotB.mp here
    have := (List.getElem?_eq_some_iff.mp found).1
    have : i ≠ r.entries.length - 1 := by
      intro atEnd
      subst atEnd
      exact isMoved (Option.some.inj (found.symm.trans last))
    have : i + 1 ≠ r.slot a := by
      intro atA
      exact isA (Option.some.inj (found.symm.trans ((wf a i).mp atA.symm)))
    rw [if_pos (by omega), if_neg this]
    exact found
  · intro found
    split at found
    · split at found
      · cases found
        exact absurd rfl isMoved
      · exact slotB.mpr found
    · cases found

theorem mem_remove (wf : r.WellFormed) (removed : r.remove a = some r') {b : α} :
    b ∈ r'.entries ↔ b ∈ r.entries ∧ b ≠ a := by
  obtain ⟨moved, last, present, entries, slots⟩ := remove_some wf removed
  have slotMoved := (wf moved (r.entries.length - 1)).mpr last
  have after := (wf.remove removed).slot_eq_zero (a := b)
  have before := wf.slot_eq_zero (a := b)
  rw [slots b] at after
  by_cases isA : b = a
  · rw [if_pos isA] at after
    simp [isA ▸ after.mp rfl, isA]
  · rw [if_neg isA] at after
    by_cases isMoved : b = moved
    · rw [if_pos isMoved] at after
      have inOld : b ∈ r.entries := isMoved ▸ List.mem_of_getElem? last
      have inNew : b ∈ r'.entries := by
        by_contra absent
        exact present (after.mpr absent)
      simp [inOld, inNew, isA]
    · rw [if_neg isMoved] at after
      have : b ∉ r'.entries ↔ b ∉ r.entries := after.symm.trans before
      simp [isA, not_iff_not.mp this]

end Remove

end Registry
