import CrossChainVault.Simulator.Calls

set_option autoImplicit false

/- One delivery attempt as a whole: the event it takes out of the queue, what becomes of it, and the
events it adds. -/

namespace XchainSim

open Protocol (Bytes32)

namespace Event

/-- The setters of an attempt leave the event's kin and its amount alone. -/
structure Marks (e e' : Event) : Prop extends Kin e e' where
  id : e'.id = e.id
  madeByFault : e'.madeByFault = e.madeByFault
  moved : e'.moved = e.moved
  overDelivered : e'.overDelivered = e.overDelivered

theorem Marks.trans {e e' e'' : Event} (first : Marks e e') (second : Marks e' e'') :
    Marks e e'' where
  toKin := first.toKin.trans second.toKin
  id := second.id.trans first.id
  madeByFault := second.madeByFault.trans first.madeByFault
  moved := second.moved.trans first.moved
  overDelivered := second.overDelivered.trans first.overDelivered

theorem marks_setStatus (e : Event) (status : EventStatus) : Marks e (e.setStatus status) := by
  cases e <;> exact ⟨⟨rfl, rfl, rfl, rfl, rfl, rfl⟩, rfl, rfl, rfl, rfl⟩

theorem marks_setDeliverAt (e : Event) (tick : Tick) : Marks e (e.setDeliverAt tick) := by
  cases e <;> exact ⟨⟨rfl, rfl, rfl, rfl, rfl, rfl⟩, rfl, rfl, rfl, rfl⟩

theorem marks_bumpAttempts (e : Event) : Marks e e.bumpAttempts := by
  cases e <;> exact ⟨⟨rfl, rfl, rfl, rfl, rfl, rfl⟩, rfl, rfl, rfl, rfl⟩

/-- The event as an attempt works on it. -/
def readied (e : Event) : Event := e.bumpAttempts.setStatus .ready

theorem marks_readied (e : Event) : Marks e e.readied :=
  (marks_bumpAttempts e).trans (marks_setStatus _ _)

end Event

namespace Simulator

variable {s s' : Simulator} {e e' : Event} {made : List Event}

theorem pendingFaults_readied (s : Simulator) (e : Event) :
    s.pendingFaults e.readied = s.pendingFaults e := by
  cases e <;> rfl

theorem checkAction_readied (s : Simulator) (action : FaultAction) (e : Event) :
    s.checkAction action e.readied = s.checkAction action e := by
  cases action <;> cases e <;> rfl

/-- The pairs of a split event and a piece of it, as the trace lists them. -/
def links (s : Simulator) : List (EventId × EventId) := s.actions.filterMap TraceAction.pieceLink

/-- How the end of an attempt writes the event back. -/
structure Concludes (s : Simulator) (e : Event) (outcome : Outcome) (s' : Simulator) (e' : Event) :
    Prop where
  marks : Event.Marks e e'
  plan : s'.plan = s.plan
  resolved : s'.resolved = s.resolved
  events : s'.events = s.events.insert e.id e'
  links : s'.links = s.links
  queue : (e'.status ≠ .scheduled ∧ s'.queue = s.queue) ∨
    ((∃ target, outcome = .delayed target) ∧ e'.status = .scheduled ∧
      s'.queue = s.queue.insert e'.key)

theorem links_record {action : TraceAction} (unlinked : action.pieceLink = none) :
    (s.record action).links = s.links := by
  unfold links
  rw [actions_record, List.filterMap_append, List.filterMap_cons_none unlinked, List.filterMap_nil,
    List.append_nil]

theorem changeEndpoint_frame (s : Simulator) (p : EndpointId) (change : Endpoint → Endpoint) :
    (s.changeEndpoint p change).plan = s.plan ∧ (s.changeEndpoint p change).resolved = s.resolved ∧
      (s.changeEndpoint p change).events = s.events ∧
      (s.changeEndpoint p change).queue = s.queue ∧
      (s.changeEndpoint p change).trace = s.trace := by
  unfold changeEndpoint
  split
  · exact ⟨rfl, rfl, rfl, rfl, rfl⟩
  · exact ⟨rfl, rfl, rfl, rfl, rfl⟩

theorem finish_concludes {status : EventStatus} {action : TraceAction} {outcome : Outcome}
    (closed : status ≠ .scheduled) (unlinked : action.pieceLink = none) :
    Concludes s e outcome (s.finish e status action) (e.setStatus status) where
  marks := Event.marks_setStatus e status
  plan := rfl
  resolved := rfl
  events := rfl
  links := links_record unlinked
  queue := by
    refine .inl ⟨?_, rfl⟩
    rw [Event.status_setStatus]
    exact closed

theorem conclude_concludes (s : Simulator) (e : Event) (outcome : Outcome) :
    ∃ e', Concludes s e outcome (s.conclude e outcome) e' := by
  rcases conclude_cases s e outcome with ⟨status, action, closed, _, _, unlinked, result⟩ |
    ⟨reason, result⟩ | ⟨late, result⟩ | ⟨target, delayed, result⟩
  · rw [result]
    refine ⟨e.setStatus status, finish_concludes ?_ unlinked⟩
    intro same
    rw [same] at closed
    cases closed
  · rw [result]
    refine ⟨e.setStatus .blocked, ⟨Event.marks_setStatus e _, rfl, rfl, rfl, links_record rfl, ?_⟩⟩
    refine .inl ⟨?_, rfl⟩
    rw [Event.status_setStatus]
    decide
  · rw [result]
    obtain ⟨plan, resolved, events, queue, trace⟩ := changeEndpoint_frame s e.destination
      fun endpoint => endpoint.receive e s.now late
    have written : Concludes (s.changeEndpoint e.destination fun endpoint =>
        endpoint.receive e s.now late) e outcome (s.handOver e late) (e.setStatus .delivered) :=
      finish_concludes (by decide) rfl
    have same : (s.changeEndpoint e.destination fun endpoint =>
        endpoint.receive e s.now late).links = s.links := by
      unfold links actions
      rw [trace]
    refine ⟨e.setStatus .delivered, ⟨written.marks, written.plan.trans plan,
      written.resolved.trans resolved, ?_, written.links.trans same, ?_⟩⟩
    · rw [← events]
      exact written.events
    · rw [← queue]
      exact written.queue
  · rw [result]
    refine ⟨(e.setStatus .scheduled).setDeliverAt target, ⟨?_, rfl, rfl, ?_, rfl, ?_⟩⟩
    · exact (Event.marks_setStatus e _).trans (Event.marks_setDeliverAt _ target)
    · rw [← Event.id_setStatus e .scheduled, ← Event.id_setDeliverAt (e.setStatus .scheduled) target]
      rfl
    · refine .inr ⟨⟨target, delayed⟩, ?_, rfl⟩
      rw [Event.status_setDeliverAt, Event.status_setStatus]

theorem Shares.marked {Acts : Fault → Prop} {start final : Event}
    (shares : Shares Acts e e' made) (before : Event.Marks start e) (after : Event.Marks e' final) :
    Shares Acts start final made := by
  cases shares with
  | unchanged alone moved marked =>
      exact .unchanged alone ((after.moved.trans moved).trans before.moved)
        ((after.overDelivered.trans marked).trans before.overDelivered)
  | part fault acts amount action alone moved marked =>
      exact .part fault acts amount action alone (after.moved.trans moved)
        (after.overDelivered.trans marked)
  | pieces fault acts first rest spacing action moved marked amounts alike =>
      refine .pieces fault acts first rest spacing action (after.moved.trans moved)
        ((after.overDelivered.trans marked).trans before.overDelivered) amounts ?_
      intro m member
      exact (alike m member).trans before.overDelivered
  | beyond fault acts amount action => exact .beyond fault acts amount action

/-- The faults an attempt on this event decides. -/
def batch (s : Simulator) (e : Event) : List Fault :=
  if e.id ∈ s.resolved then [] else s.pendingFaults e

/-- One attempt on the event `e` of `s`, which it leaves as `e'`, with the events it made from it. -/
structure Attempted (s s' : Simulator) (e e' : Event) (made : List Event) : Prop where
  kin : Event.Kin e e'
  id : e'.id = e.id
  madeByFault : e'.madeByFault = e.madeByFault
  plan : s'.plan = s.plan
  resolved : ∀ id, id ∈ s'.resolved ↔ id = e.id ∨ id ∈ s.resolved
  own : s'.events[e.id]? = some e'
  events : ∀ id, id ≠ e.id → s'.events[id]? = (made.find? fun m => m.id = id).or s.events[id]?
  queue : ∀ key, key ∈ s'.queue ↔
    (∃ m ∈ made, key = m.key) ∨ (e'.status = .scheduled ∧ key = e'.key) ∨
      (key ∈ s.queue ∧ key ≠ e.key)
  -- Only the attempt that decides its faults can put the event back.
  once : e'.status = .scheduled → e.id ∉ s.resolved
  spawns : ∀ m ∈ made, Event.Spawns e m
  fresh : ∀ m ∈ made, s.events[m.id]? = none
  distinct : (made.map Event.id).Nodup
  bounded : made.length ≤ ((s.batch e).map fun fault => fault.action.fanout).sum
  links : (∀ fault ∈ s.batch e, fault.action.group ≠ .fanout) →
    s'.links = s.links ++ made.map fun m => (e.id, m.id)
  shares : e.lane = .asset → (∀ fault ∈ s.batch e, fault.action.group ≠ .fanout) →
    Shares (s.Acting (s.batch e) e) e e' made

/-- The part of an attempt that decides the faults. -/
structure Decides (s : Simulator) (e : Event) (outcome : Outcome) (s' : Simulator) (e' : Event)
    (made : List Event) : Prop where
  bends : Event.Bends e e'
  plan : s'.plan = s.plan
  resolved : ∀ id, id ∈ s'.resolved ↔ id = e.id ∨ id ∈ s.resolved
  events : ∀ id, s'.events[id]? = (made.find? fun m => m.id = id).or s.events[id]?
  queue : ∀ key, key ∈ s'.queue ↔ (∃ m ∈ made, key = m.key) ∨ key ∈ s.queue
  once : ∀ target, outcome = .delayed target → e.id ∉ s.resolved
  spawns : ∀ m ∈ made, Event.Spawns e m
  fresh : ∀ m ∈ made, s.events[m.id]? = none
  distinct : (made.map Event.id).Nodup
  bounded : made.length ≤ ((s.batch e).map fun fault => fault.action.fanout).sum
  links : (∀ fault ∈ s.batch e, fault.action.group ≠ .fanout) →
    s'.links = s.links ++ made.map fun m => (e.id, m.id)
  shares : e.lane = .asset → (∀ fault ∈ s.batch e, fault.action.group ≠ .fanout) →
    Shares (s.Acting (s.batch e) e) e e' made

theorem compose_decides (keccak256 : Bytes → Bytes32) (s : Simulator) (e : Event) :
    ∃ made, Decides s e (compose keccak256 s e).1 (compose keccak256 s e).2.1
      (compose keccak256 s e).2.2 made := by
  by_cases decided : e.id ∈ s.resolved
  · rcases compose_cases keccak256 s e with ⟨_, result⟩ | ⟨undecided, _⟩ | ⟨undecided, _⟩
    · rw [result]
      refine ⟨[], ?_⟩
      exact {
        bends := Event.Bends.refl e
        plan := rfl
        resolved := by
          intro id
          rw [iff_or_self]
          intro same
          rw [same]
          exact decided
        events := fun _ => rfl
        queue := fun key => by simp
        once := fun _ delayed => by cases delayed
        spawns := List.forall_mem_nil _
        fresh := List.forall_mem_nil _
        distinct := List.nodup_nil
        bounded := Nat.zero_le _
        links := fun _ => (List.append_nil _).symm
        shares := fun _ _ => .unchanged rfl rfl rfl }
    · exact absurd decided undecided
    · exact absurd decided undecided
  · obtain ⟨made, logged, delayed, dropped, composed, shares⟩ :=
      compose_composed keccak256 decided trivial fun _ _ => trivial
    have deciding : s.batch e = (s.deciding e).pendingFaults e := if_neg decided
    have grows := composed.grows
    refine ⟨made, ?_⟩
    exact {
      bends := composed.bends
      plan := grows.plan
      resolved := by
        intro id
        rw [grows.resolved]
        exact OrderedSet.mem_insert
      events := grows.events
      queue := grows.queue
      once := fun _ _ => decided
      spawns := composed.spawns
      fresh := grows.fresh
      distinct := grows.distinct
      bounded := by
        rw [deciding]
        exact composed.bounded
      links := by
        intro single
        rw [deciding] at single
        unfold Simulator.links
        rw [grows.actions, List.filterMap_append, composed.linked single]
        rfl
      shares := by
        rw [deciding]
        exact shares }

/-- An attempt on a queued event. -/
theorem Valid.attempted (keccak256 : Bytes → Bytes32) (valid : s.Valid) {key : QueueKey}
    (member : key ∈ s.queue) :
    ∃ e e' made, s.events[key.event]? = some e ∧ e.id = key.event ∧ key = e.key ∧
      e.status = .scheduled ∧
      Attempted s (Simulator.attempt keccak256 { s with queue := s.queue.erase key } key.event) e e' made := by
  obtain ⟨e, found, status, named, _, own⟩ := valid.of_queued member
  have opened : Simulator.attempt keccak256 { s with queue := s.queue.erase key } key.event =
      (compose keccak256 (record { s with queue := s.queue.erase key }
        (.deliveryAttempted key.event e.readied.destination e.readied.attempts)) e.readied).2.1.conclude
        (compose keccak256 (record { s with queue := s.queue.erase key }
          (.deliveryAttempted key.event e.readied.destination e.readied.attempts)) e.readied).2.2
        (compose keccak256 (record { s with queue := s.queue.erase key }
          (.deliveryAttempted key.event e.readied.destination e.readied.attempts)) e.readied).1 := by
    unfold Simulator.attempt
    rw [found]
    dsimp only
    rw [status, if_neg (by decide)]
    rfl
  rw [opened]
  generalize trying : record { s with queue := s.queue.erase key }
    (.deliveryAttempted key.event e.readied.destination e.readied.attempts) = start
  obtain ⟨made, decides⟩ := compose_decides keccak256 start e.readied
  obtain ⟨e', concludes⟩ := conclude_concludes (compose keccak256 start e.readied).2.1
    (compose keccak256 start e.readied).2.2 (compose keccak256 start e.readied).1
  have ready := Event.marks_readied e
  have id' : (compose keccak256 start e.readied).2.2.id = e.id := decides.bends.id.trans ready.id
  have batch' : start.batch e.readied = s.batch e := by
    rw [← trying]
    unfold batch
    rw [ready.id]
    exact congrArg _ (pendingFaults_readied s e)
  have startLinks : start.links = s.links := by
    rw [← trying]
    exact links_record rfl
  refine ⟨e, e', made, found, named, own, status, ?_⟩
  exact {
    kin := (ready.toKin.trans decides.bends.toKin).trans concludes.marks.toKin
    id := concludes.marks.id.trans id'
    madeByFault := (concludes.marks.madeByFault.trans decides.bends.madeByFault).trans
      ready.madeByFault
    plan := by
      rw [concludes.plan, decides.plan, ← trying]
      rfl
    resolved := by
      intro id
      rw [concludes.resolved, decides.resolved, ready.id, ← trying]
      exact Iff.rfl
    own := by
      rw [concludes.events, id', OrderedMap.getElem?_insert, if_pos rfl]
    events := by
      intro id apart
      rw [concludes.events, id', OrderedMap.getElem?_insert, if_neg (Ne.symm apart), decides.events,
        ← trying]
      rfl
    queue := by
      intro waiting
      have middle : waiting ∈ (compose keccak256 start e.readied).2.1.queue ↔
          (∃ m ∈ made, waiting = m.key) ∨ (waiting ∈ s.queue ∧ waiting ≠ e.key) := by
        rw [decides.queue, ← trying, ← own, and_comm, ← OrderedSet.mem_erase]
        exact Iff.rfl
      rcases concludes.queue with ⟨closed, same⟩ | ⟨_, again, inserted⟩
      · rw [same, middle]
        simp only [closed, false_and, false_or]
      · rw [inserted, OrderedSet.mem_insert, middle]
        simp only [again, true_and]
        exact or_left_comm
    once := by
      intro again
      rcases concludes.queue with ⟨closed, _⟩ | ⟨⟨target, delayed⟩, _⟩
      · exact absurd again closed
      · have undecided := decides.once target delayed
        rw [ready.id, ← trying] at undecided
        exact undecided
    spawns := by
      intro m inside
      have spawned := decides.spawns m inside
      exact ⟨ready.toKin.trans spawned.toKin, spawned.status, spawned.madeByFault⟩
    fresh := by
      intro m inside
      have absent := decides.fresh m inside
      rw [← trying] at absent
      exact absent
    distinct := decides.distinct
    bounded := by
      rw [← batch']
      exact decides.bounded
    links := by
      rw [← batch', ← startLinks, concludes.links, ← ready.id]
      exact decides.links
    shares := by
      intro lane single
      rw [← batch'] at single ⊢
      refine ((decides.shares (ready.lane.trans lane) single).marked ready concludes.marks).imp ?_
      intro fault acting
      have fits := acting.fits
      rw [checkAction_readied, ← trying] at fits
      exact ⟨acting.member, fits, acting.single⟩ }

namespace Attempted

variable (attempt : Attempted s s' e e' made)

include attempt

/-- No made event takes the number of an old one. -/
theorem not_made {id : EventId} {other : Event} (found : s.events[id]? = some other) :
    (made.find? fun m => m.id = id) = none := by
  rw [List.find?_eq_none]
  intro m member same
  rw [decide_eq_true_eq] at same
  have fresh := attempt.fresh m member
  rw [same, found] at fresh
  cases fresh

theorem kept {id : EventId} {other : Event} (found : s.events[id]? = some other)
    (apart : id ≠ e.id) : s'.events[id]? = some other := by
  rw [attempt.events id apart, attempt.not_made found, Option.none_or, found]

/-- An entry of the table after is the event in hand, one that was made, or an old one. -/
theorem entry {id : EventId} {other : Event} (found : s'.events[id]? = some other) :
    (id = e.id ∧ other = e') ∨ (other ∈ made ∧ other.id = id) ∨
      (id ≠ e.id ∧ s.events[id]? = some other) := by
  by_cases here : id = e.id
  · rw [here, attempt.own] at found
    cases found
    exact .inl ⟨here, rfl⟩
  · have table := attempt.events id here
    rw [found] at table
    cases looked : made.find? fun m => m.id = id with
    | none =>
        rw [looked, Option.none_or] at table
        exact .inr (.inr ⟨here, table.symm⟩)
    | some m =>
        rw [looked, Option.some_or] at table
        cases table
        exact .inr (.inl ⟨List.mem_of_find?_eq_some looked, by simpa using List.find?_some looked⟩)

theorem made_known (present : s.events[e.id]? = some e) {m : Event} (member : m ∈ made) :
    s'.events[m.id]? = some m := by
  have apart : m.id ≠ e.id := by
    intro same
    have absent := attempt.fresh m member
    rw [same, present] at absent
    cases absent
  rw [attempt.events m.id apart, find?_of_distinct attempt.distinct member, Option.some_or]

end Attempted

end Simulator

end XchainSim
