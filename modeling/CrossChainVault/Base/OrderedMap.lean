import Mathlib.Algebra.BigOperators.Ring.List
import Mathlib.Algebra.Order.BigOperators.Group.List
import Mathlib.Algebra.Order.Group.Nat
import Mathlib.Data.List.Nodup
import CrossChainVault.Base.Unsigned

set_option autoImplicit false

/- Sums over the entries of a finite ordered map, and how one insertion moves them. -/

/-- A finite map that iterates in key order. -/
abbrev OrderedMap (K V : Type) [Ord K] := Std.ExtTreeMap K V compare

namespace OrderedMap

variable {K V : Type} [Ord K] [Std.TransOrd K] [Std.LawfulEqOrd K]

theorem getElem?_insert (m : OrderedMap K V) (k a : K) (v : V) [DecidableEq K] :
    (m.insert k v)[a]? = if k = a then some v else m[a]? := by
  rw [Std.ExtTreeMap.getElem?_insert]
  simp only [Std.LawfulEqCmp.compare_eq_iff_eq]

@[simp] theorem getElem?_insert_same (m : OrderedMap K V) (k : K) (v : V) :
    (m.insert k v)[k]? = some v := by
  rw [Std.ExtTreeMap.getElem?_insert, if_pos Std.ReflCmp.compare_self]

theorem getElem?_insert_other (m : OrderedMap K V) {k a : K} (v : V) (other : k ≠ a) :
    (m.insert k v)[a]? = m[a]? := by
  rw [Std.ExtTreeMap.getElem?_insert, if_neg]
  rwa [Std.LawfulEqCmp.compare_eq_iff_eq]

/-- The values in the order of their keys. -/
def values (m : OrderedMap K V) : List V := m.toList.map Prod.snd

omit [Std.LawfulEqOrd K] in
@[simp] theorem length_values (m : OrderedMap K V) : (values m).length = m.size := by
  rw [values, List.length_map, Std.ExtTreeMap.length_toList]

theorem mem_values {m : OrderedMap K V} {v : V} : v ∈ values m ↔ ∃ k : K, m[k]? = some v := by
  rw [values, List.mem_map]
  constructor
  · rintro ⟨⟨k, found⟩, member, rfl⟩
    exact ⟨k, Std.ExtTreeMap.mem_toList_iff_getElem?_eq_some.mp member⟩
  · rintro ⟨k, found⟩
    exact ⟨(k, v), Std.ExtTreeMap.mem_toList_iff_getElem?_eq_some.mpr found, rfl⟩

theorem forall_mem_values {m : OrderedMap K V} {P : V → Prop} :
    (∀ v ∈ values m, P v) ↔ ∀ (k : K) (v : V), m[k]? = some v → P v := by
  constructor
  · intro each k v found
    exact each v (mem_values.mpr ⟨k, found⟩)
  · intro each v member
    obtain ⟨k, found⟩ := mem_values.mp member
    exact each k v found

theorem forall_mem_toList {m : OrderedMap K V} {P : K × V → Prop} :
    (∀ entry ∈ m.toList, P entry) ↔ ∀ (k : K) (v : V), m[k]? = some v → P (k, v) := by
  constructor
  · intro each k v found
    exact each (k, v) (Std.ExtTreeMap.mem_toList_iff_getElem?_eq_some.mpr found)
  · intro each entry member
    exact each entry.1 entry.2 (Std.ExtTreeMap.mem_toList_iff_getElem?_eq_some.mp member)

/-- Values that name their own keys determine the map they stand in. -/
theorem eq_of_values {m m' : OrderedMap K V} (name : V → K)
    (named : ∀ (k : K) (v : V), m[k]? = some v → name v = k)
    (named' : ∀ (k : K) (v : V), m'[k]? = some v → name v = k)
    (same : values m = values m') : m = m' := by
  have within : ∀ {m m' : OrderedMap K V}, (∀ (k : K) (v : V), m[k]? = some v → name v = k) →
      (∀ (k : K) (v : V), m'[k]? = some v → name v = k) → values m = values m' →
      ∀ (k : K) (v : V), m[k]? = some v → m'[k]? = some v := by
    intro m m' named named' same k v found
    have member : v ∈ values m' := same ▸ mem_values.mpr ⟨k, found⟩
    obtain ⟨k', found'⟩ := mem_values.mp member
    have here : k' = k := (named' k' v found').symm.trans (named k v found)
    rw [← here]
    exact found'
  apply Std.ExtTreeMap.ext_getElem?
  intro k
  apply Option.ext
  intro v
  exact ⟨within named named' same k v, within named' named same.symm k v⟩

/-- Rewrites the entry of one key, which starts from `absent` when there is none. -/
def revise (m : OrderedMap K V) (absent : V) (k : K) (f : V → V) : OrderedMap K V :=
  m.insert k (f (m[k]?.getD absent))

theorem insert_insert_same (m : OrderedMap K V) (k : K) (v w : V) :
    (m.insert k v).insert k w = m.insert k w := by
  classical
  refine Std.ExtTreeMap.ext_getElem? ?_
  intro a
  rw [getElem?_insert, getElem?_insert, getElem?_insert]
  split <;> rfl

theorem insert_insert_comm (m : OrderedMap K V) {k a : K} (v w : V) (apart : k ≠ a) :
    (m.insert k v).insert a w = (m.insert a w).insert k v := by
  classical
  refine Std.ExtTreeMap.ext_getElem? ?_
  intro b
  simp only [getElem?_insert]
  by_cases here : a = b
  · have other : k ≠ b := by
      rw [← here]
      exact apart
    simp only [if_pos here, if_neg other]
  · simp only [if_neg here]

/-- Revisions of two keys trade places, and so do commuting revisions of one key. -/
theorem revise_comm (m : OrderedMap K V) (absent : V) {k a : K} {f g : V → V}
    (commute : k = a → ∀ v, f (g v) = g (f v)) :
    (m.revise absent k f).revise absent a g = (m.revise absent a g).revise absent k f := by
  unfold revise
  by_cases same : k = a
  · subst same
    rw [insert_insert_same, insert_insert_same, getElem?_insert_same, getElem?_insert_same,
      Option.getD_some, Option.getD_some, commute rfl]
  · rw [getElem?_insert_other _ _ same, getElem?_insert_other _ _ (Ne.symm same),
      insert_insert_comm _ _ _ same]

theorem toList_nodup (m : OrderedMap K V) : m.toList.Nodup := by
  refine m.distinct_keys_toList.imp ?_
  intro p q distinct same
  exact distinct (same ▸ Std.ReflCmp.compare_self)

/-- Inserting replaces the entry of its key and keeps every other one. -/
theorem toList_insert_perm [DecidableEq K] (m : OrderedMap K V) (k : K) (v : V) :
    (m.insert k v).toList.Perm ((k, v) :: m.toList.filter fun p => p.1 ≠ k) := by
  refine (List.perm_ext_iff_of_nodup (toList_nodup _) ?_).mpr ?_
  · refine List.nodup_cons.mpr ⟨?_, (toList_nodup m).filter _⟩
    simp
  · rintro ⟨a, w⟩
    rw [Std.ExtTreeMap.mem_toList_iff_getElem?_eq_some, getElem?_insert, List.mem_cons,
      List.mem_filter, Std.ExtTreeMap.mem_toList_iff_getElem?_eq_some]
    by_cases same : k = a
    · subst same
      simp [eq_comm]
    · have swapped : ¬a = k := fun h => same h.symm
      simp [same, swapped]

/-- The sum of a weight over all entries. -/
def sumOf (m : OrderedMap K V) (f : K → V → Nat) : Nat :=
  (m.toList.map fun p => f p.1 p.2).sum

omit [Std.LawfulEqOrd K] in
@[simp] theorem sumOf_empty (f : K → V → Nat) : sumOf (∅ : OrderedMap K V) f = 0 := by
  have empty : (∅ : OrderedMap K V).toList = [] := by
    rw [← List.isEmpty_iff, Std.ExtTreeMap.isEmpty_toList, Std.ExtTreeMap.isEmpty_empty]
  simp [sumOf, empty]

omit [Ord K] [Std.TransOrd K] [Std.LawfulEqOrd K] in
private theorem sum_filter_key [DecidableEq K] (f : K → V → Nat) (k : K) (entries : List (K × V))
    (distinct : entries.Pairwise fun p q => p.1 ≠ q.1) (v : V) (member : (k, v) ∈ entries) :
    ((entries.filter fun p => p.1 ≠ k).map fun p => f p.1 p.2).sum + f k v =
      (entries.map fun p => f p.1 p.2).sum := by
  induction entries with
  | nil => simp at member
  | cons entry rest ih =>
      obtain ⟨others, tail⟩ := List.pairwise_cons.mp distinct
      rcases List.mem_cons.mp member with rfl | inTail
      · have untouched : (rest.filter fun p => p.1 ≠ k) = rest := by
          rw [List.filter_eq_self]
          intro p inRest
          exact decide_eq_true (others p inRest).symm
        rw [List.filter_cons, if_neg (by simp), untouched, List.map_cons, List.sum_cons]
        exact Nat.add_comm _ _
      · have apart : entry.1 ≠ k := others (k, v) inTail
        have step := ih tail inTail
        simp only [List.filter_cons, decide_eq_true_eq, if_pos apart, List.map_cons,
          List.sum_cons]
        omega

private theorem filter_absent [DecidableEq K] (k : K) (m : OrderedMap K V) (absent : m[k]? = none) :
    (m.toList.filter fun p => p.1 ≠ k) = m.toList := by
  rw [List.filter_eq_self]
  rintro ⟨a, w⟩ member
  rw [Std.ExtTreeMap.mem_toList_iff_getElem?_eq_some] at member
  rw [decide_eq_true_eq]
  rintro rfl
  simp [absent] at member

theorem sumOf_insert_new [DecidableEq K] (m : OrderedMap K V) (f : K → V → Nat) (k : K) (v : V)
    (absent : m[k]? = none) : sumOf (m.insert k v) f = sumOf m f + f k v := by
  unfold sumOf
  rw [((toList_insert_perm m k v).map _).sum_eq, filter_absent k m absent]
  simp only [List.map_cons, List.sum_cons]
  omega

theorem sumOf_insert_replace [DecidableEq K] (m : OrderedMap K V) (f : K → V → Nat) (k : K)
    (v old : V) (present : m[k]? = some old) :
    sumOf (m.insert k v) f + f k old = sumOf m f + f k v := by
  have distinct : m.toList.Pairwise fun p q => p.1 ≠ q.1 := by
    refine m.distinct_keys_toList.imp ?_
    intro p q apart same
    exact apart (same ▸ Std.ReflCmp.compare_self)
  have member : (k, old) ∈ m.toList := Std.ExtTreeMap.mem_toList_iff_getElem?_eq_some.mpr present
  have split := sum_filter_key f k m.toList distinct old member
  unfold sumOf
  rw [((toList_insert_perm m k v).map _).sum_eq]
  simp only [List.map_cons, List.sum_cons]
  omega

/-- One insertion moves the sum by the weight it adds less the weight it replaces. -/
theorem sumOf_insert [DecidableEq K] (m : OrderedMap K V) (f : K → V → Nat) (k : K) (v : V) :
    sumOf (m.insert k v) f + (m[k]?).elim 0 (f k) = sumOf m f + f k v := by
  cases present : m[k]? with
  | none => simpa using sumOf_insert_new m f k v present
  | some old => simpa using sumOf_insert_replace m f k v old present

theorem sumOf_congr (m : OrderedMap K V) (f g : K → V → Nat)
    (same : ∀ k v, m[k]? = some v → f k v = g k v) : sumOf m f = sumOf m g := by
  unfold sumOf
  refine congrArg List.sum (List.map_congr_left ?_)
  rintro ⟨k, v⟩ member
  exact same k v (Std.ExtTreeMap.mem_toList_iff_getElem?_eq_some.mp member)

omit [Std.LawfulEqOrd K] in
theorem sumOf_add (m : OrderedMap K V) (f g : K → V → Nat) :
    sumOf m (fun k v => f k v + g k v) = sumOf m f + sumOf m g := by
  unfold sumOf
  exact List.sum_map_add

/-- Every single entry is covered by the sum. -/
theorem le_sumOf (m : OrderedMap K V) (f : K → V → Nat) {k : K} {v : V}
    (present : m[k]? = some v) : f k v ≤ sumOf m f := by
  unfold sumOf
  refine List.single_le_sum (fun _ _ => Nat.zero_le _) _ ?_
  exact List.mem_map.mpr ⟨(k, v), Std.ExtTreeMap.mem_toList_iff_getElem?_eq_some.mpr present, rfl⟩

theorem sumOf_eq_zero (m : OrderedMap K V) (f : K → V → Nat)
    (zero : ∀ k v, m[k]? = some v → f k v = 0) : sumOf m f = 0 := by
  rw [sumOf_congr m f (fun _ _ => 0) zero]
  simp [sumOf]

/-- Two weights that differ on one present key only. -/
theorem sumOf_update [DecidableEq K] (m : OrderedMap K V) (f g : K → V → Nat) {k : K} {v : V}
    (present : m[k]? = some v) (same : ∀ a w, a ≠ k → m[a]? = some w → f a w = g a w) :
    sumOf m f + g k v = sumOf m g + f k v := by
  have unchanged : m.insert k v = m := by
    refine Std.ExtTreeMap.ext_getElem? fun a => ?_
    rw [getElem?_insert]
    split
    · rename_i here
      rw [← here, present]
    · rfl
  have entries := toList_insert_perm m k v
  rw [unchanged] at entries
  have others : ((m.toList.filter fun p => p.1 ≠ k).map fun p => f p.1 p.2) =
      (m.toList.filter fun p => p.1 ≠ k).map fun p => g p.1 p.2 := by
    refine List.map_congr_left ?_
    rintro ⟨a, w⟩ member
    obtain ⟨inside, apart⟩ := List.mem_filter.mp member
    exact same a w (of_decide_eq_true apart)
      (Std.ExtTreeMap.mem_toList_iff_getElem?_eq_some.mp inside)
  unfold sumOf
  rw [(entries.map _).sum_eq, (entries.map _).sum_eq]
  simp only [List.map_cons, List.sum_cons, others]
  omega

/-- A map extended by some new entries, each under its own name. -/
theorem sumOf_extend [DecidableEq K] (name : V → K) (f : K → V → Nat) (entries : List V) :
    ∀ m m' : OrderedMap K V,
      (∀ k, m'[k]? = (entries.find? fun v => name v = k).or m[k]?) →
      (∀ v ∈ entries, m[name v]? = none) → (entries.map name).Nodup →
      sumOf m' f = sumOf m f + (entries.map fun v => f (name v) v).sum := by
  induction entries with
  | nil =>
      intro m m' same _ _
      have equal : m' = m := Std.ExtTreeMap.ext_getElem? same
      rw [equal, List.map_nil, List.sum_nil, Nat.add_zero]
  | cons v rest ih =>
      intro m m' same fresh distinct
      rw [List.forall_mem_cons] at fresh
      rw [List.map_cons, List.nodup_cons] at distinct
      rw [ih (m.insert (name v) v) m' ?_ ?_ distinct.2, sumOf_insert_new m f _ _ fresh.1,
        List.map_cons, List.sum_cons, Nat.add_assoc]
      · intro k
        rw [same, getElem?_insert, List.find?_cons]
        by_cases here : name v = k
        · have later : (rest.find? fun w => name w = k) = none := by
            rw [List.find?_eq_none]
            intro w member again
            rw [decide_eq_true_eq] at again
            exact distinct.1 (List.mem_map.mpr ⟨w, member, again.trans here.symm⟩)
          simp [here, later]
        · simp [here]
      · intro w member
        have apart : name v ≠ name w := by
          intro again
          exact distinct.1 (List.mem_map.mpr ⟨w, member, again.symm⟩)
        rw [getElem?_insert, if_neg apart]
        exact fresh.2 w member

theorem sumOf_le (m : OrderedMap K V) (f g : K → V → Nat)
    (below : ∀ k v, m[k]? = some v → f k v ≤ g k v) : sumOf m f ≤ sumOf m g := by
  unfold sumOf
  apply List.sum_le_sum
  intro p member
  exact below p.1 p.2 (Std.ExtTreeMap.mem_toList_iff_getElem?_eq_some.mp member)

omit [Std.LawfulEqOrd K] in
theorem sumOf_mul (m : OrderedMap K V) (f : K → V → Nat) (factor : Nat) :
    sumOf m (fun k v => f k v * factor) = sumOf m f * factor := by
  unfold sumOf
  exact List.sum_map_mul_right m.toList (fun p => f p.1 p.2) factor

omit [Std.LawfulEqOrd K] in
theorem sumOf_one (m : OrderedMap K V) : sumOf m (fun _ _ => 1) = m.size := by
  unfold sumOf
  rw [List.map_const', List.sum_replicate_nat, Std.ExtTreeMap.length_toList, Nat.mul_one]

/-- Two different entries are covered together. -/
theorem add_le_sumOf [DecidableEq K] (m : OrderedMap K V) (f : K → V → Nat) {k a : K} {v w : V}
    (present : m[k]? = some v) (present' : m[a]? = some w) (apart : a ≠ k) :
    f k v + f a w ≤ sumOf m f := by
  let others : K → V → Nat := fun b u => if b = k then 0 else f b u
  have moved := sumOf_update m f others present fun b u away _ => (if_neg away).symm
  have covered := le_sumOf m others present'
  have here : others k v = 0 := if_pos rfl
  have there : others a w = f a w := if_neg apart
  omega

/-- The sum over the selected entries, read along a list that names each of them once. -/
theorem sumOf_eq_sum_names {B : Type} (m : OrderedMap K V) (f : K → V → Nat)
    (selected : K → V → Bool) (name : K → B) (names : List B) (weight : B → Nat)
    (distinct : names.Nodup)
    (others : ∀ k v, m[k]? = some v → selected k v = false → f k v = 0)
    (named : ∀ k v, m[k]? = some v → selected k v = true →
      name k ∈ names ∧ weight (name k) = f k v)
    (covered : ∀ b ∈ names, ∃ k v, m[k]? = some v ∧ selected k v = true ∧ name k = b)
    (apart : ∀ k v a w, m[k]? = some v → selected k v = true → m[a]? = some w →
      selected a w = true → name k = name a → k = a) :
    sumOf m f = (names.map weight).sum := by
  have members : ∀ p ∈ m.toList.filter (fun p => selected p.1 p.2),
      m[p.1]? = some p.2 ∧ selected p.1 p.2 = true := by
    rintro ⟨k, v⟩ member
    obtain ⟨inside, chosen⟩ := List.mem_filter.mp member
    exact ⟨Std.ExtTreeMap.mem_toList_iff_getElem?_eq_some.mp inside, chosen⟩
  -- The selected entries carry the whole sum.
  have split : ∀ entries : List (K × V), (∀ p ∈ entries, m[p.1]? = some p.2) →
      (entries.map fun p => f p.1 p.2).sum =
        ((entries.filter fun p => selected p.1 p.2).map fun p => f p.1 p.2).sum := by
    intro entries present
    induction entries with
    | nil => rfl
    | cons entry rest ih =>
        have tail := ih fun p inRest => present p (List.mem_cons_of_mem _ inRest)
        rw [List.filter_cons]
        split
        · simp only [List.map_cons, List.sum_cons, tail]
        · rename_i unchosen
          have zero := others entry.1 entry.2 (present entry List.mem_cons_self) (by simpa using unchosen)
          simp only [List.map_cons, List.sum_cons, tail, zero]
          omega
  have weights : ((m.toList.filter fun p => selected p.1 p.2).map fun p => f p.1 p.2) =
      ((m.toList.filter fun p => selected p.1 p.2).map fun p => name p.1).map weight := by
    rw [List.map_map]
    refine List.map_congr_left ?_
    intro p member
    obtain ⟨present, chosen⟩ := members p member
    exact (named p.1 p.2 present chosen).2.symm
  have perm : ((m.toList.filter fun p => selected p.1 p.2).map fun p => name p.1).Perm names := by
    refine (List.perm_ext_iff_of_nodup ?_ distinct).mpr ?_
    · refine List.Nodup.map_on ?_ ((toList_nodup m).filter _)
      rintro ⟨k, v⟩ inside ⟨a, w⟩ inside' same
      obtain ⟨present, chosen⟩ := members _ inside
      obtain ⟨present', chosen'⟩ := members _ inside'
      have keys : k = a := apart k v a w present chosen present' chosen' same
      subst keys
      have values : some v = some w := present.symm.trans present'
      cases values
      rfl
    · intro b
      rw [List.mem_map]
      constructor
      · rintro ⟨p, member, rfl⟩
        obtain ⟨present, chosen⟩ := members p member
        exact (named p.1 p.2 present chosen).1
      · intro member
        obtain ⟨k, v, present, chosen, rfl⟩ := covered b member
        exact ⟨(k, v), List.mem_filter.mpr
          ⟨Std.ExtTreeMap.mem_toList_iff_getElem?_eq_some.mpr present, chosen⟩, rfl⟩
  have present : ∀ p ∈ m.toList, m[p.1]? = some p.2 := by
    rintro ⟨k, v⟩ member
    exact Std.ExtTreeMap.mem_toList_iff_getElem?_eq_some.mp member
  unfold sumOf
  rw [split m.toList present, weights, (perm.map weight).sum_eq]

theorem map_insert {W : Type} (m : OrderedMap K V) (f : K → V → W) (k : K) (v : V) :
    (m.insert k v).map f = (m.map f).insert k (f k v) := by
  refine Std.ExtTreeMap.ext_getElem? fun a => ?_
  rw [Std.ExtTreeMap.getElem?_map, Std.ExtTreeMap.getElem?_insert, Std.ExtTreeMap.getElem?_insert,
    Std.ExtTreeMap.getElem?_map]
  split
  · rename_i same
    rw [Std.LawfulEqCmp.compare_eq_iff_eq] at same
    rw [same, Option.map_some]
  · rfl

omit [Std.LawfulEqOrd K] in
theorem sumOf_map {W : Type} (m : OrderedMap K V) (f : K → V → W) (g : K → W → Nat) :
    sumOf (m.map f) g = sumOf m fun k v => g k (f k v) := by
  unfold sumOf
  rw [Std.ExtTreeMap.toList_map, List.map_map]
  rfl

end OrderedMap
