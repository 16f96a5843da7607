import Mathlib.Algebra.Group.Action.Defs
import CrossChainVault.Simulator.InTurn
import CrossChainVault.Simulator.Round

set_option autoImplicit false

/- The delivery loops end and drain the queue, whatever the faults in force. Three measures carry
the argument: the attempts one event may still get, the events that may still be added, and the
pending work. One attempt lowers all of them. -/

namespace XchainSim

open Protocol (Bytes32)
open InPlace
open Result

namespace Simulator

variable {s s' s'' : Simulator} {e e' : Event} {made : List Event}

/-- How many attempts one event may still get before a caller releases it. -/
def budget (s : Simulator) (id : EventId) : Nat :=
  match s.events[id]? with
  | none => 2
  | some e => if e.status = .scheduled then (if id ∈ s.resolved then 1 else 2) else 0

theorem budget_le (s : Simulator) (id : EventId) : s.budget id ≤ 2 := by
  unfold budget
  split
  · exact Nat.le_refl 2
  · split
    · split
      · exact Nat.le_succ 1
      · exact Nat.le_refl 2
    · exact Nat.zero_le 2

/-- How many events the faults declare for one event that no attempt has decided yet. An event a
fault made is promised none. -/
def promise (s : Simulator) (id : EventId) (e : Event) : Nat :=
  if id ∈ s.resolved ∨ e.madeByFault = true then 0 else s.declared e

def promised (s : Simulator) : Nat := OrderedMap.sumOf s.events s.promise

/-- What a list of attempts used up. -/
structure Spends (s : Simulator) (ids : List EventId) (s' : Simulator) : Prop where
  attempts : ∀ id, ids.count id + s'.budget id ≤ s.budget id
  added : s'.events.size + s'.promised ≤ s.events.size + s.promised
  work : ids.length + s'.work ≤ s.work

namespace Spends

theorem refl (s : Simulator) : Spends s [] s where
  attempts id := by rw [List.count_nil, Nat.zero_add]
  added := Nat.le_refl _
  work := by rw [List.length_nil, Nat.zero_add]

theorem trans {ids ids' : List EventId} (first : Spends s ids s') (second : Spends s' ids' s'') :
    Spends s (ids ++ ids') s'' where
  attempts id := by
    have left := first.attempts id
    have right := second.attempts id
    rw [List.count_append]
    omega
  added := Nat.le_trans second.added first.added
  work := by
    have left := first.work
    have right := second.work
    rw [List.length_append]
    omega

/-- Nothing the measures look at changed. -/
theorem of_eq (events : s'.events = s.events) (queue : s'.queue = s.queue)
    (resolved : s'.resolved = s.resolved) (plan : s'.plan = s.plan) : Spends s [] s' where
  attempts id := by
    unfold budget
    rw [events, resolved, List.count_nil, Nat.zero_add]
  added := by
    unfold promised promise declared
    rw [events, resolved, plan]
  work := by
    unfold Simulator.work weight planFanout
    rw [events, queue, resolved, plan, List.length_nil, Nat.zero_add]

end Spends

namespace Attempted

variable (attempt : Attempted s s' e e' made) (present : s.events[e.id]? = some e)

include attempt present in
/-- A sum over the table after the attempt: the event in hand and the made ones are counted anew. -/
theorem sumOf_events (f g : EventId → Event → Nat)
    (others : ∀ id other, id ≠ e.id → s.events[id]? = some other → f id other = g id other) :
    OrderedMap.sumOf s'.events g + f e.id e =
      OrderedMap.sumOf s.events f + g e.id e' + (made.map fun m => g m.id m).sum := by
  have back := OrderedMap.sumOf_insert_replace s'.events g e.id e e' attempt.own
  have extended : OrderedMap.sumOf (s'.events.insert e.id e) g =
      OrderedMap.sumOf s.events g + (made.map fun m => g m.id m).sum := by
    refine OrderedMap.sumOf_extend Event.id g made s.events _ ?_ attempt.fresh attempt.distinct
    intro id
    rw [OrderedMap.getElem?_insert]
    by_cases here : e.id = id
    · have absent : (made.find? fun m => m.id = id) = none := by
        rw [here] at present
        exact attempt.not_made present
      rw [if_pos here, absent, Option.none_or, ← here, present]
    · rw [if_neg here, attempt.events id (Ne.symm here)]
  have changed := OrderedMap.sumOf_update s.events f g present others
  omega

include attempt in
theorem declared_eq (other : Event) : s'.declared other = s.declared other := by
  unfold declared
  rw [attempt.plan]

include attempt in
/-- An attempt adds at most what was promised for the event. -/
theorem made_le_promise : made.length ≤ s.promise e.id e := by
  have bounded := attempt.bounded
  unfold batch at bounded
  unfold promise
  by_cases decided : e.id ∈ s.resolved
  · rw [if_pos decided] at bounded
    rw [if_pos (.inl decided)]
    exact bounded
  · rw [if_neg decided] at bounded
    by_cases spawned : e.madeByFault = true
    · rw [pendingFaults_fanout_of_made spawned] at bounded
      rw [if_pos (.inr spawned)]
      exact bounded
    · rw [if_neg (not_or.mpr ⟨decided, spawned⟩)]
      exact Nat.le_trans bounded (pendingFaults_fanout_le s e)

include attempt present in
theorem size_events : s'.events.size = s.events.size + made.length := by
  have counted := attempt.sumOf_events present (fun _ _ => 1) (fun _ _ => 1) fun _ _ _ _ => rfl
  rw [OrderedMap.sumOf_one, OrderedMap.sumOf_one, List.map_const', List.sum_replicate_nat,
    Nat.mul_one] at counted
  omega

include attempt in
theorem mem_resolved {id : EventId} (apart : id ≠ e.id) : id ∈ s'.resolved ↔ id ∈ s.resolved := by
  rw [attempt.resolved]
  simp [apart]

include attempt present in
theorem promised_le : s'.promised + s.promise e.id e = s.promised := by
  have counted := attempt.sumOf_events present s.promise s'.promise ?_
  · have own : s'.promise e.id e' = 0 := if_pos (.inl ((attempt.resolved e.id).mpr (.inl rfl)))
    have none : (made.map fun m => s'.promise m.id m).sum = 0 := by
      rw [List.sum_eq_zero_iff]
      intro weight member
      obtain ⟨m, inside, rfl⟩ := List.mem_map.mp member
      exact if_pos (.inr (attempt.spawns m inside).madeByFault)
    rw [own, none] at counted
    exact counted
  · intro id other apart _
    unfold promise
    rw [attempt.declared_eq]
    simp only [attempt.mem_resolved apart]

include attempt present in
theorem budget_le (waiting : e.status = .scheduled) (id : EventId) :
    [e.id].count id + s'.budget id ≤ s.budget id := by
  by_cases here : e.id = id
  · have decided : id ∈ s'.resolved := (attempt.resolved id).mpr (.inl here.symm)
    rw [← here] at decided ⊢
    unfold budget
    rw [attempt.own, present]
    dsimp only
    rw [List.count_singleton_self, if_pos decided, if_pos waiting]
    by_cases again : e'.status = .scheduled
    · rw [if_pos again, if_neg (attempt.once again)]
    · rw [if_neg again]
      split
      · exact Nat.le_refl 1
      · exact Nat.le_succ 1
  · rw [List.count_singleton, beq_eq_false_iff_ne.mpr here, if_neg Bool.false_ne_true, Nat.zero_add]
    have table := attempt.events id (Ne.symm here)
    cases found : made.find? fun m => m.id = id with
    | none =>
        rw [found, Option.none_or] at table
        unfold budget
        rw [table]
        simp only [attempt.mem_resolved (Ne.symm here), Nat.le_refl]
    | some m =>
        have named : m.id = id := by simpa using List.find?_some found
        have absent := attempt.fresh m (List.mem_of_find?_eq_some found)
        rw [named] at absent
        have full : s.budget id = 2 := by
          unfold budget
          rw [absent]
        rw [full]
        exact Simulator.budget_le s' id

include attempt in
theorem planFanout_eq : s'.planFanout = s.planFanout := by
  unfold planFanout
  rw [attempt.plan]

/- The pending work: a decided event leaves, one a fault made comes back at most once, and one the
caller made pays for everything it adds. -/

include attempt in
theorem weight_other {key : QueueKey} (known : key.event ∈ s.events) (apart : key.event ≠ e.id) :
    s'.weight key = s.weight key := by
  obtain ⟨other, found⟩ := Option.isSome_iff_exists.mp
    (Std.ExtTreeMap.mem_iff_isSome_getElem?.mp known)
  unfold weight
  rw [attempt.kept found apart, found, attempt.planFanout_eq]
  simp only [attempt.mem_resolved apart]

include attempt present in
theorem weight_made {m : Event} (member : m ∈ made) : s'.weight m.key ≤ 2 := by
  unfold weight
  rw [Event.key_event, attempt.made_known present member, Option.any_some,
    (attempt.spawns m member).madeByFault]
  split
  · exact Nat.le_succ 1
  · exact Nat.le_refl 2

include attempt present in
/-- What the event weighed covers the attempt, its return and the events it added. -/
theorem weight_own : (if e'.status = .scheduled then 1 else 0) + 2 * made.length + 1 ≤
    s.weight e.key := by
  have bounded := attempt.made_le_promise
  unfold promise at bounded
  unfold weight
  rw [Event.key_event, present, Option.any_some]
  by_cases decided : e.id ∈ s.resolved
  · have gone : ¬e'.status = .scheduled := fun again => attempt.once again decided
    rw [if_pos (.inl decided)] at bounded
    rw [if_pos decided, if_neg gone]
    omega
  · rw [if_neg decided]
    by_cases spawned : e.madeByFault = true
    · rw [if_pos (.inr spawned)] at bounded
      rw [if_pos spawned]
      split <;> omega
    · have covered := declared_le_planFanout s e
      rw [if_neg (not_or.mpr ⟨decided, spawned⟩)] at bounded
      rw [if_neg spawned]
      split <;> omega

include attempt present in
theorem work_lt (queued : e.key ∈ s.queue) (known : ∀ key ∈ s.queue, key.event ∈ s.events)
    (alone : ∀ key ∈ s.queue, key.event = e.id → key = e.key) : 1 + s'.work ≤ s.work := by
  have whole := OrderedSet.sumOf_erase s.weight queued
  have own := attempt.weight_own present
  have others : OrderedSet.sumOf (s.queue.erase e.key) s'.weight =
      OrderedSet.sumOf (s.queue.erase e.key) s.weight := by
    unfold OrderedSet.sumOf
    refine congrArg List.sum (List.map_congr_left ?_)
    intro key member
    obtain ⟨apart, inside⟩ := OrderedSet.mem_erase.mp (Std.ExtTreeSet.mem_toList.mp member)
    exact attempt.weight_other (known key inside) fun same => apart (alone key inside same)
  have back : s'.weight e'.key = 1 := by
    unfold weight
    rw [Event.key_event, attempt.id, if_pos ((attempt.resolved e.id).mpr (.inl rfl))]
  have spawned : ((made.map Event.key).map s'.weight).sum ≤ 2 * made.length := by
    have each : ∀ w ∈ (made.map Event.key).map s'.weight, w ≤ 2 := by
      intro w member
      obtain ⟨key, inside, rfl⟩ := List.mem_map.mp member
      obtain ⟨m, inMade, rfl⟩ := List.mem_map.mp inside
      exact attempt.weight_made present inMade
    have total := List.sum_le_card_nsmul _ 2 each
    rw [List.length_map, List.length_map, smul_eq_mul] at total
    omega
  have covered : ∀ key ∈ s'.queue,
      key ∈ (if e'.status = .scheduled then [e'.key] else []) ++ made.map Event.key ∨
        key ∈ s.queue.erase e.key := by
    intro key member
    rw [List.mem_append, OrderedSet.mem_erase]
    rcases (attempt.queue key).mp member with ⟨m, inside, same⟩ | ⟨again, same⟩ | ⟨inside, apart⟩
    · exact .inl (.inr (List.mem_map.mpr ⟨m, inside, same.symm⟩))
    · rw [if_pos again, same]
      exact .inl (.inl List.mem_cons_self)
    · exact .inr ⟨apart, inside⟩
  have listed := OrderedSet.sumOf_le_of_subset _ s'.weight covered
  rw [others, List.map_append, List.sum_append] at listed
  unfold Simulator.work
  split at listed
  · rename_i again
    rw [if_pos again] at own
    rw [List.map_singleton, List.sum_singleton, back] at listed
    omega
  · rename_i gone
    rw [if_neg gone] at own
    rw [List.map_nil, List.sum_nil] at listed
    omega

end Attempted

/-- The queue is sorted by tick first. -/
theorem deliverAt_le_of_compare {a b : QueueKey} (before : (compare a b).isLE) :
    a.deliverAt ≤ b.deliverAt := by
  have first : compare a.deliverAt b.deliverAt ≠ .gt := by
    intro after
    have late : compare a b = .gt := by
      change compareLex (compareOn QueueKey.deliverAt) _ a b = .gt
      unfold compareLex compareOn
      rw [after]
      rfl
    rw [late] at before
    cases before
  exact Nat.compare_ne_gt.mp first

theorem peek_first {key other : QueueKey} (next : EventQueue.peek s.queue = some key)
    (member : other ∈ s.queue) : key.deliverAt ≤ other.deliverAt :=
  deliverAt_le_of_compare ((OrderedSet.of_first next).2 other member)

section

variable (keccak256 : Bytes → Bytes32)

/-- Either nothing is due, or the attempt on the first due event takes its share of the measures. -/
theorem Valid.deliverNext_cases (valid : s.Valid) :
    (s.deliverNext keccak256 = (none, s) ∧ ∀ key ∈ s.queue, s.now < key.deliverAt) ∨
    ∃ id s', s.deliverNext keccak256 = (some id, s') ∧ Spends s [id] s' ∧
      ((s.events[id]?).any Event.madeByFault = true → s'.events.size = s.events.size) := by
  unfold Simulator.deliverNext
  cases next : EventQueue.peek s.queue with
  | none =>
      refine .inl ⟨rfl, ?_⟩
      intro key member
      exact absurd member (OrderedSet.not_mem_of_first next key)
  | some key =>
      dsimp only
      by_cases early : s.now < key.deliverAt
      · rw [if_pos early]
        refine .inl ⟨rfl, ?_⟩
        intro other member
        exact Nat.lt_of_lt_of_le early (peek_first next member)
      · rw [if_neg early]
        have member := peek_member next
        obtain ⟨e, e', made, found, named, own, waiting, attempt⟩ :=
          valid.attempted keccak256 member
        have present : s.events[e.id]? = some e := by
          rw [named]
          exact found
        have added := attempt.size_events present
        have bounded := attempt.made_le_promise
        have left := attempt.promised_le present
        have place := valid.inTurn
        refine .inr ⟨_, _, rfl, ⟨?_, by omega, ?_⟩, ?_⟩
        · intro id
          have spent := attempt.budget_le present waiting id
          rw [named] at spent
          exact spent
        · refine attempt.work_lt present (own ▸ member) place.known.1 ?_
          intro other inside same
          exact ((place.scheduled e.id e present waiting).1 other).mp ⟨inside, same⟩
        · intro spawned
          rw [found, Option.any_some] at spawned
          unfold promise at bounded
          rw [if_pos (.inr spawned)] at bounded
          omega

/-- The loop of `deliverReady`: one attempt after another until nothing is due. -/
inductive Ready : Simulator → List EventId → Simulator → Prop
  | stop {s : Simulator} (idle : s.deliverNext keccak256 = (none, s)) : Ready s [] s
  | next {s s' s'' : Simulator} {id : EventId} {ids : List EventId}
      (attempt : s.deliverNext keccak256 = (some id, s')) (rest : Ready s' ids s'') :
      Ready s (id :: ids) s''

/-- With as many rounds as there is work, the loop ends by itself. -/
theorem Valid.deliverReadyFrom_ready (fuel : Nat) : ∀ (count : Unsigned 32) (s : Simulator),
    s.Valid → s.work ≤ fuel → ∃ ids,
      Ready keccak256 s ids (Simulator.deliverReadyFrom keccak256 fuel count s).2 ∧
      Spends s ids (Simulator.deliverReadyFrom keccak256 fuel count s).2 ∧
      ∀ key ∈ (Simulator.deliverReadyFrom keccak256 fuel count s).2.queue, s.now < key.deliverAt := by
  induction fuel with
  | zero =>
      intro count s valid enough
      rcases valid.deliverNext_cases keccak256 with ⟨idle, later⟩ | ⟨id, s', _, spends, _⟩
      · exact ⟨[], .stop idle, Spends.refl s, later⟩
      · have less := spends.work
        rw [List.length_singleton] at less
        omega
  | succ fuel ih =>
      intro count s valid enough
      have kept := valid.deliverNext keccak256
      have clock := deliverNext_now keccak256 s
      rcases valid.deliverNext_cases keccak256 with ⟨idle, later⟩ | ⟨id, s', attempt, spends, _⟩
      · unfold Simulator.deliverReadyFrom
        rw [idle]
        exact ⟨[], .stop idle, Spends.refl s, later⟩
      · rw [attempt] at kept clock
        have less := spends.work
        rw [List.length_singleton] at less
        obtain ⟨ids, ready, spends', later⟩ := ih (count.saturatingAdd 1) s' kept.1 (by omega)
        unfold Simulator.deliverReadyFrom
        rw [attempt]
        refine ⟨id :: ids, .next attempt ready, spends.trans spends', ?_⟩
        rw [← clock]
        exact later

theorem Valid.deliverReady_ready (valid : s.Valid) : ∃ ids,
    Ready keccak256 s ids (s.deliverReady keccak256).2 ∧
    Spends s ids (s.deliverReady keccak256).2 ∧
    ∀ key ∈ (s.deliverReady keccak256).2.queue, s.now < key.deliverAt :=
  Valid.deliverReadyFrom_ready keccak256 s.work 0 s valid (Nat.le_refl _)

/-- The loop of `runUntilIdle` and `runUntil`: the clock moves to the next pending tick and what is
due there is delivered, until nothing is pending or the next tick is out of range. -/
inductive Rounds (past : Tick → Prop) : Simulator → List EventId → Simulator → Prop
  | stop {s : Simulator} (idle : ∀ tick, EventQueue.nextTick s.queue = some tick → past tick) :
      Rounds past s [] s
  | round {s moved s' s'' : Simulator} {tick : Tick} {ids ids' : List EventId}
      (pending : EventQueue.nextTick s.queue = some tick) (within : ¬past tick)
      (advanced : advanceTo (maxTick tick s.now) s = .ok () moved)
      (ready : Ready keccak256 moved ids s') (rest : Rounds past s' ids' s'') :
      Rounds past s (ids ++ ids') s''

omit keccak256 in
theorem Valid.of_advanceTo (valid : s.Valid) {target : Tick}
    (advanced : Simulator.advanceTo target s = .ok () s') : s'.Valid := by
  have kept := valid.advanceTo target
  unfold Does at kept
  rw [advanced] at kept
  exact kept.1

/-- What every attempt keeps, a series of them keeps. -/
theorem Ready.keeps {P : Simulator → Prop} {ids : List EventId}
    (next : ∀ (s : Simulator) (id : EventId) (s' : Simulator), s.Valid → P s →
      s.deliverNext keccak256 = (some id, s') → P s')
    (ready : Ready keccak256 s ids s') : s.Valid → P s → s'.Valid ∧ P s' := by
  induction ready with
  | stop idle =>
      intro valid holds
      exact ⟨valid, holds⟩
  | next attempt _ ih =>
      intro valid holds
      have kept := valid.deliverNext keccak256
      rw [attempt] at kept
      exact ih kept.1 (next _ _ _ valid holds attempt)

theorem Rounds.keeps {P : Simulator → Prop} {past : Tick → Prop} {ids : List EventId}
    (next : ∀ (s : Simulator) (id : EventId) (s' : Simulator), s.Valid → P s →
      s.deliverNext keccak256 = (some id, s') → P s')
    (clock : ∀ (s : Simulator) (target : Tick) (s' : Simulator), P s →
      advanceTo target s = .ok () s' → P s')
    (rounds : Rounds keccak256 past s ids s') : s.Valid → P s → s'.Valid ∧ P s' := by
  induction rounds with
  | stop idle =>
      intro valid holds
      exact ⟨valid, holds⟩
  | round _ _ advanced ready _ ih =>
      intro valid holds
      obtain ⟨valid', holds'⟩ := ready.keeps keccak256 next (valid.of_advanceTo advanced)
        (clock _ _ _ holds advanced)
      exact ih valid' holds'

theorem advanceTo_spends {target : Tick} (advanced : advanceTo target s = .ok () s') :
    Spends s [] s' := by
  have moved : Does (advanceTo target) s fun _ s' => Spends s [] s' := by
    unfold advanceTo
    rw [does_get_bind, does_check_bind]
    intro _ _
    rw [does_set]
    split
    · exact Spends.refl s
    · exact Spends.of_eq rfl rfl rfl rfl
  unfold Does at moved
  rw [advanced] at moved
  exact moved

/-- One round makes at least one attempt. -/
theorem Valid.round (valid : s.Valid) {tick : Tick}
    (pending : EventQueue.nextTick s.queue = some tick) : ∃ moved ids,
      Simulator.advanceTo (maxTick tick s.now) s = .ok () moved ∧ moved.Valid ∧
      moved.now = maxTick tick s.now ∧
      Ready keccak256 moved ids (moved.deliverReady keccak256).2 ∧
      Spends s ids (moved.deliverReady keccak256).2 ∧ ids ≠ [] := by
  obtain ⟨moved, advanced, clock, queue, _⟩ := advanceTo_ok (le_maxTick_right tick s.now)
  have valid' := valid.of_advanceTo advanced
  obtain ⟨ids, ready, spends, later⟩ := valid'.deliverReady_ready keccak256
  refine ⟨moved, ids, advanced, valid', clock, ready, (advanceTo_spends advanced).trans spends, ?_⟩
  intro none
  obtain ⟨key, next, due⟩ := Option.map_eq_some_iff.mp pending
  -- Without an attempt the first key would still be there, and it is due.
  have still : key ∈ (moved.deliverReady keccak256).2.queue := by
    rw [none] at ready
    generalize (moved.deliverReady keccak256).2 = final at ready ⊢
    cases ready
    rw [queue]
    exact peek_member next
  have early := later key still
  rw [clock, due] at early
  exact absurd (le_maxTick_left tick s.now) (Nat.not_le.mpr early)

theorem nextTick_le {tick : Tick} (pending : EventQueue.nextTick s.queue = some tick)
    {key : QueueKey} (member : key ∈ s.queue) : tick ≤ key.deliverAt := by
  obtain ⟨first, next, due⟩ := Option.map_eq_some_iff.mp pending
  rw [← due]
  exact peek_first next member

theorem not_mem_of_nextTick (empty : EventQueue.nextTick s.queue = none) (key : QueueKey) :
    key ∉ s.queue :=
  OrderedSet.not_mem_of_first (Option.map_eq_none_iff.mp empty) key

/-- Running until idle empties the queue. -/
theorem Valid.runUntilIdleFrom_rounds (fuel : Nat) : ∀ (count : Unsigned 32) (s : Simulator),
    s.Valid → s.work ≤ fuel → ∃ ids,
      Rounds keccak256 (fun _ => False) s ids
        (Simulator.runUntilIdleFrom keccak256 fuel count s).2 ∧
      Spends s ids (Simulator.runUntilIdleFrom keccak256 fuel count s).2 ∧
      ∀ key, key ∉ (Simulator.runUntilIdleFrom keccak256 fuel count s).2.queue := by
  have ended : ∀ s : Simulator, EventQueue.nextTick s.queue = none → ∃ ids,
      Rounds keccak256 (fun _ => False) s ids s ∧ Spends s ids s ∧ ∀ key, key ∉ s.queue := by
    intro s empty
    refine ⟨[], .stop ?_, Spends.refl s, not_mem_of_nextTick empty⟩
    intro tick pending
    rw [empty] at pending
    cases pending
  induction fuel with
  | zero =>
      intro count s valid enough
      cases pending : EventQueue.nextTick s.queue with
      | none => exact ended s pending
      | some tick =>
          obtain ⟨moved, ids, _, _, _, _, spends, some⟩ := valid.round keccak256 pending
          have less := spends.work
          have positive := List.length_pos_iff.mpr some
          omega
  | succ fuel ih =>
      intro count s valid enough
      unfold Simulator.runUntilIdleFrom
      cases pending : EventQueue.nextTick s.queue with
      | none => exact ended s pending
      | some tick =>
          obtain ⟨moved, ids, advanced, valid', _, ready, spends, some⟩ :=
            valid.round keccak256 pending
          have less := spends.work
          have positive := List.length_pos_iff.mpr some
          dsimp only
          rw [advanced]
          dsimp only
          obtain ⟨ids', rounds, spends', empty⟩ :=
            ih (count.saturatingAdd (moved.deliverReady keccak256).1) _
              (valid'.deliverReady keccak256).1 (by omega)
          exact ⟨ids ++ ids', .round pending id advanced ready rounds, spends.trans spends', empty⟩

/-- A run to a tick leaves nothing pending up to it. -/
theorem Valid.runUntilFrom_rounds {target : Tick} (fuel : Nat) :
    ∀ (count : Unsigned 32) (s : Simulator), s.Valid → s.now ≤ target → s.work ≤ fuel →
      ∃ ids total last, Simulator.runUntilFrom keccak256 target fuel count s = .ok total last ∧
        last.now ≤ target ∧ Rounds keccak256 (fun tick => target < tick) s ids last ∧
        Spends s ids last ∧ ∀ key ∈ last.queue, target < key.deliverAt := by
  have ended : ∀ s : Simulator, s.now ≤ target →
      (∀ tick, EventQueue.nextTick s.queue = some tick → target < tick) →
      s.now ≤ target ∧ Rounds keccak256 (fun tick => target < tick) s [] s ∧ Spends s [] s ∧
        ∀ key ∈ s.queue, target < key.deliverAt := by
    intro s early idle
    refine ⟨early, .stop idle, Spends.refl s, ?_⟩
    intro key member
    cases pending : EventQueue.nextTick s.queue with
    | none => exact absurd member (not_mem_of_nextTick pending key)
    | some tick => exact Nat.lt_of_lt_of_le (idle tick pending) (nextTick_le pending member)
  induction fuel with
  | zero =>
      intro count s valid early enough
      refine ⟨[], count, s, rfl, ended s early ?_⟩
      intro tick pending
      obtain ⟨moved, ids, _, _, _, _, spends, some⟩ := valid.round keccak256 pending
      have less := spends.work
      have positive := List.length_pos_iff.mpr some
      omega
  | succ fuel ih =>
      intro count s valid early enough
      rw [runUntilFrom_succ]
      cases pending : EventQueue.nextTick s.queue with
      | none =>
          refine ⟨[], count, s, rfl, ended s early ?_⟩
          intro tick found
          rw [pending] at found
          cases found
      | some tick =>
          dsimp only
          by_cases past : target < tick
          · rw [if_pos past]
            refine ⟨[], count, s, rfl, ended s early ?_⟩
            intro other found
            rw [pending] at found
            cases found
            exact past
          · rw [if_neg past]
            obtain ⟨moved, ids, advanced, valid', clock, ready, spends, some⟩ :=
              valid.round keccak256 pending
            have less := spends.work
            have positive := List.length_pos_iff.mpr some
            have early' : (moved.deliverReady keccak256).2.now ≤ target := by
              have kept := deliverReadyFrom_now keccak256 moved.work 0 moved
              have bound := maxTick_le (Nat.le_of_not_lt past) early
              rw [← clock, ← kept] at bound
              exact bound
            obtain ⟨ids', total, last, result, final, rounds, spends', later⟩ :=
              ih (count.saturatingAdd (moved.deliverReady keccak256).1) _
                (valid'.deliverReady keccak256).1 early' (by omega)
            refine ⟨ids ++ ids', total, last, ?_, final, .round pending past advanced ready rounds,
              spends.trans spends', later⟩
            rw [← result]
            change EStateM.bind (Simulator.advanceTo (maxTick tick s.now)) _ s = _
            unfold EStateM.bind
            rw [advanced]
            rfl

/-- What every attempt and every move of the clock keep, from one settled state to the next. -/
structure Kept (P : Simulator → Prop) : Prop where
  next : ∀ (s : Simulator) (id : EventId) (s' : Simulator), s.Valid → P s →
    s.deliverNext keccak256 = (some id, s') → P s'
  clock : ∀ (s : Simulator) (target : Tick) (s' : Simulator), P s →
    Simulator.advanceTo target s = .ok () s' → P s'

namespace Kept

variable {keccak256} {P : Simulator → Prop} (kept : Kept keccak256 P) (valid : s.Valid)
  (holds : P s)

include kept valid holds

theorem advanceTo (target : Tick) : Does (Simulator.advanceTo target) s fun _ s' => P s' := by
  have moved := valid.advanceTo target
  unfold Does at moved ⊢
  cases result : Simulator.advanceTo target s with
  | ok _ after => exact kept.clock s target after holds result
  | error failure after =>
      rw [result] at moved
      exact moved

theorem deliverNext : P (s.deliverNext keccak256).2 := by
  rcases valid.deliverNext_cases keccak256 with ⟨idle, _⟩ | ⟨id, s', attempt, _⟩
  · rw [idle]
    exact holds
  · rw [attempt]
    exact kept.next s id s' valid holds attempt

theorem deliverReady : P (s.deliverReady keccak256).2 := by
  obtain ⟨_, ready, _⟩ := valid.deliverReady_ready keccak256
  exact (ready.keeps keccak256 kept.next valid holds).2

theorem runUntilIdle : P (s.runUntilIdle keccak256).2 := by
  obtain ⟨_, rounds, _⟩ :=
    Valid.runUntilIdleFrom_rounds keccak256 s.work 0 s valid (Nat.le_refl _)
  exact (rounds.keeps keccak256 kept.next kept.clock valid holds).2

theorem runUntil (target : Tick) :
    Does (Simulator.runUntil keccak256 target) s fun _ s' => P s' := by
  by_cases forward : s.now ≤ target
  · obtain ⟨_, _, last, looped, early, rounds, _⟩ :=
      Valid.runUntilFrom_rounds keccak256 s.work 0 s valid forward (Nat.le_refl _)
    obtain ⟨after, moved, _⟩ := advanceTo_ok early
    have last' := (rounds.keeps keccak256 kept.next kept.clock valid holds).2
    exact Does.of_ok (runUntil_of_loop keccak256 forward looped moved)
      (kept.clock last target after last' moved)
  · unfold Simulator.runUntil
    rw [does_get_bind, does_check_bind]
    intro _ allowed
    rw [rejectIf_eq_ok] at allowed
    exact absurd (Nat.le_of_not_lt allowed) forward

end Kept

/-- What every delivery loop keeps to: two attempts for each event, and no more new events than the
faults declare for the events that were not decided yet. -/
structure WithinBounds (s : Simulator) (ids : List EventId) (s' : Simulator) : Prop where
  twice : ∀ id, ids.count id ≤ 2
  added : s'.events.size ≤ s.events.size + s.promised

theorem Spends.withinBounds {ids : List EventId} (spends : Spends s ids s') :
    WithinBounds s ids s' where
  twice id := by
    have spent := spends.attempts id
    have full := budget_le s id
    omega
  added := by
    have total := spends.added
    omega

/-- Where nothing is queued, every event is finished or waits on a path that is not clear. -/
theorem Valid.settled (valid : s.Valid) (empty : ∀ key, key ∉ s.queue) {id : EventId}
    (found : s.events[id]? = some e) :
    e.status.isTerminal = true ∨ e.status = .blocked ∧ s.pathIsClear id = false := by
  have placed := valid.placed id
  rw [found] at placed
  obtain ⟨_, _, place⟩ := placed
  cases status : e.status with
  | scheduled =>
      rw [status] at place
      exact absurd ((place.1 e.key).mpr rfl).1 (empty e.key)
  | ready =>
      rw [status] at place
      exact False.elim place
  | blocked =>
      rw [status] at place
      rw [pathIsClear_eq found]
      exact .inr ⟨rfl, place.2.2.1⟩
  | delivered | dropped | expired | rejectedBySimulator => exact .inl rfl

/-- From a new network, after any calls: the delivery loops end by themselves, within their bounds;
an event a fault made adds none; a run until idle leaves nothing pending and only finished events or
events on a path that is not clear; and a run to a tick ends exactly there with nothing left that was
due. -/
theorem deliveries_drain {config : SimulatorConfig} {endpoints : List EndpointId}
    {start : Simulator} (built : withConfig config endpoints = .ok start) (calls : List Call)
    (s : Simulator) (reached : s = start.run keccak256 calls) :
    (∃ ids, Ready keccak256 s ids (s.deliverReady keccak256).2 ∧
      WithinBounds s ids (s.deliverReady keccak256).2) ∧
    (∃ ids, Rounds keccak256 (fun _ => False) s ids (s.runUntilIdle keccak256).2 ∧
      WithinBounds s ids (s.runUntilIdle keccak256).2 ∧
      (∀ key, key ∉ (s.runUntilIdle keccak256).2.queue) ∧
      ∀ (id : EventId) (e : Event), (s.runUntilIdle keccak256).2.events[id]? = some e →
        e.status.isTerminal = true ∨
          e.status = .blocked ∧ (s.runUntilIdle keccak256).2.pathIsClear id = false) ∧
    (∀ target, s.now ≤ target → ∃ ids count last after,
      Rounds keccak256 (fun tick => target < tick) s ids last ∧
      advanceTo target last = .ok () after ∧ runUntil keccak256 target s = .ok count after ∧
      WithinBounds s ids after ∧ after.now = target ∧ ∀ key ∈ after.queue, target < key.deliverAt) ∧
    ∀ id after, s.deliverNext keccak256 = (some id, after) →
      (s.events[id]?).any Event.madeByFault = true → after.events.size = s.events.size := by
  have valid : s.Valid := by
    rw [reached]
    exact Valid.run keccak256 calls start (withConfig_valid built)
  refine ⟨?_, ?_, ?_, ?_⟩
  · obtain ⟨ids, ready, spends, _⟩ := valid.deliverReady_ready keccak256
    exact ⟨ids, ready, spends.withinBounds⟩
  · obtain ⟨ids, rounds, spends, empty⟩ :=
      Valid.runUntilIdleFrom_rounds keccak256 s.work 0 s valid (Nat.le_refl _)
    have valid' := (Valid.runUntilIdleFrom keccak256 s.work 0 s valid).1
    exact ⟨ids, rounds, spends.withinBounds, empty, fun id e found => valid'.settled empty found⟩
  · intro target forward
    obtain ⟨ids, count, last, looped, early, rounds, spends, later⟩ :=
      Valid.runUntilFrom_rounds keccak256 s.work 0 s valid forward (Nat.le_refl _)
    obtain ⟨after, moved, clock, queue, _⟩ := advanceTo_ok early
    refine ⟨ids, count, last, after, rounds, moved,
      runUntil_of_loop keccak256 forward looped moved, ?_, clock, ?_⟩
    · have all := spends.trans (advanceTo_spends moved)
      rw [List.append_nil] at all
      exact all.withinBounds
    · rw [queue]
      exact later
  · intro id after attempt spawned
    rcases valid.deliverNext_cases keccak256 with ⟨idle, _⟩ | ⟨other, s', result, _, none⟩
    · rw [idle] at attempt
      cases attempt
    · rw [result] at attempt
      cases attempt
      exact none spawned

end

/-- A transfer that is split and a message that is copied, both at the tick they are due. -/
def sampleFanout : List Call :=
  [.operation (.addFault ⟨1, .lane .asset, .split [60, 40] 0⟩),
    .operation (.addFault ⟨2, .lane .control, .duplicate 2 0⟩),
    .operation (.addFault ⟨3, .lane .control, .delay 0⟩),
    .operation (.scheduleAsset ⟨none, 7, 1, 2, 100, 3, none⟩),
    .operation (.scheduleControl ⟨none, 1, 2, [1, 2, 3], 3, none⟩)]

theorem deliveries_drain_fanout :
    ∃ start, withConfig sampleConfig [1, 2] = .ok start ∧
      ((start.run sampleDigest sampleFanout).runUntilIdle sampleDigest).2.inboxSizes 2 =
        some (3, 2) ∧
      ∃ ids, Rounds sampleDigest (fun _ => False) (start.run sampleDigest sampleFanout) ids
          ((start.run sampleDigest sampleFanout).runUntilIdle sampleDigest).2 ∧
        WithinBounds (start.run sampleDigest sampleFanout) ids
          ((start.run sampleDigest sampleFanout).runUntilIdle sampleDigest).2 := by
  have passes : (withConfig sampleConfig [1, 2]).toOption.any (fun start =>
      ((start.run sampleDigest sampleFanout).runUntilIdle sampleDigest).2.inboxSizes 2 ==
        some (3, 2)) = true := by
    decide +kernel
  obtain ⟨start, built, sizes⟩ := ok_of_any passes
  obtain ⟨_, ⟨ids, rounds, bounds, _⟩, _⟩ :=
    deliveries_drain sampleDigest built sampleFanout _ rfl
  exact ⟨start, built, eq_of_beq sizes, ids, rounds, bounds⟩

end Simulator

end XchainSim
