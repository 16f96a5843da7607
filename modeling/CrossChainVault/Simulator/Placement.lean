import CrossChainVault.Simulator.Growth

set_option autoImplicit false

/- Where an event is: in the queue under its own key, held on a path that is not clear, or finished,
with one record in the inbox of its destination exactly when it was delivered. -/

namespace XchainSim

open Protocol (Bytes32)

/-- A delivery at this tick was due, and marked late exactly when the deadline had passed. -/
structure Timely (config : SimulatorConfig) (e : Event) (moment : Tick) (late : Bool) : Prop where
  due : e.deliverAt ≤ moment
  marked : late = e.deadline.any fun deadline => decide (deadline < moment)
  unexpired : config.policy e.lane = .expire → late = false

namespace Endpoint

/-- How many records of one event the two inboxes hold. -/
def recordCount (endpoint : Endpoint) (id : EventId) : Nat :=
  endpoint.controlInbox.countP (fun entry => entry.event = id) +
    endpoint.assetInbox.countP (fun entry => entry.event = id)

/-- The record of the event is in the inbox of its lane. -/
def Keeps (endpoint : Endpoint) (e : Event) (moment : Tick) (late : Bool) : Prop :=
  match e with
  | .control sent => sent.deliveredRecord moment late ∈ endpoint.controlInbox
  | .asset moving => moving.deliveredRecord moment late ∈ endpoint.assetInbox

/-- Deliveries are listed in the order of their ticks, none of them later than the clock. -/
structure Ordered (endpoint : Endpoint) (now : Tick) : Prop where
  control : endpoint.controlInbox.Pairwise fun a b => a.deliveredAt ≤ b.deliveredAt
  asset : endpoint.assetInbox.Pairwise fun a b => a.deliveredAt ≤ b.deliveredAt
  controlPast : ∀ entry ∈ endpoint.controlInbox, entry.deliveredAt ≤ now
  assetPast : ∀ entry ∈ endpoint.assetInbox, entry.deliveredAt ≤ now

theorem Ordered.mono {endpoint : Endpoint} {now later : Tick} (ordered : endpoint.Ordered now)
    (forward : now ≤ later) : endpoint.Ordered later where
  control := ordered.control
  asset := ordered.asset
  controlPast entry member := Nat.le_trans (ordered.controlPast entry member) forward
  assetPast entry member := Nat.le_trans (ordered.assetPast entry member) forward

theorem ordered_new (id : EndpointId) (now : Tick) : (Endpoint.new id).Ordered now where
  control := List.Pairwise.nil
  asset := List.Pairwise.nil
  controlPast := List.forall_mem_nil _
  assetPast := List.forall_mem_nil _

@[simp] theorem recordCount_new (id : EndpointId) (event : EventId) :
    (Endpoint.new id).recordCount event = 0 := rfl

@[simp] theorem isHalted_receive (endpoint : Endpoint) (e : Event) (now : Tick) (late : Bool) :
    (endpoint.receive e now late).isHalted = endpoint.isHalted := by
  cases e <;> rfl

theorem recordCount_receive (endpoint : Endpoint) (e : Event) (now : Tick) (late : Bool)
    (id : EventId) : (endpoint.receive e now late).recordCount id =
      endpoint.recordCount id + if e.id = id then 1 else 0 := by
  by_cases same : e.id = id
  · rw [if_pos same]
    cases e with
    | control sent =>
        have here : (sent.deliveredRecord now late).event = id := same
        simp only [receive, pushControl, recordCount, List.countP_append, List.countP_singleton,
          here, decide_true, if_true]
        omega
    | asset moving =>
        have here : (moving.deliveredRecord now late).event = id := same
        simp only [receive, pushAsset, recordCount, List.countP_append, List.countP_singleton,
          here, decide_true, if_true]
        omega
  · rw [if_neg same]
    cases e with
    | control sent =>
        have apart : ¬(sent.deliveredRecord now late).event = id := same
        simp [receive, pushControl, recordCount, apart]
    | asset moving =>
        have apart : ¬(moving.deliveredRecord now late).event = id := same
        simp [receive, pushAsset, recordCount, apart]

theorem keeps_receive (endpoint : Endpoint) (e : Event) (now : Tick) (late : Bool) :
    (endpoint.receive e now late).Keeps e now late := by
  cases e with
  | control sent => exact List.mem_append_right _ List.mem_cons_self
  | asset moving => exact List.mem_append_right _ List.mem_cons_self

theorem Keeps.receive {endpoint : Endpoint} {e : Event} {moment : Tick} {late : Bool}
    (keeps : endpoint.Keeps e moment late) (other : Event) (now : Tick) (marked : Bool) :
    (endpoint.receive other now marked).Keeps e moment late := by
  cases e with
  | control sent =>
      cases other with
      | control _ => exact List.mem_append_left _ keeps
      | asset _ => exact keeps
  | asset moving =>
      cases other with
      | control _ => exact keeps
      | asset _ => exact List.mem_append_left _ keeps

/-- An entry stamped no earlier than all others goes to the end. -/
theorem sorted_concat {α : Type} (stamp : α → Tick) {entries : List α} {last : α}
    (sorted : entries.Pairwise fun a b => stamp a ≤ stamp b)
    (past : ∀ entry ∈ entries, stamp entry ≤ stamp last) :
    (entries ++ [last]).Pairwise fun a b => stamp a ≤ stamp b := by
  apply List.pairwise_append.mpr
  refine ⟨sorted, List.pairwise_singleton _ _, ?_⟩
  intro entry member final here
  rw [List.mem_singleton] at here
  rw [here]
  exact past entry member

theorem Ordered.receive {endpoint : Endpoint} {now : Tick} (ordered : endpoint.Ordered now)
    (e : Event) (late : Bool) : (endpoint.receive e now late).Ordered now := by
  cases e with
  | control sent =>
      refine ⟨sorted_concat DeliveredControl.deliveredAt ordered.control ordered.controlPast,
        ordered.asset, ?_, ordered.assetPast⟩
      intro entry member
      rcases List.mem_append.mp member with inside | last
      · exact ordered.controlPast entry inside
      · rw [List.mem_singleton.mp last]
        exact Nat.le_refl _
  | asset moving =>
      refine ⟨ordered.control,
        sorted_concat DeliveredAsset.deliveredAt ordered.asset ordered.assetPast,
        ordered.controlPast, ?_⟩
      intro entry member
      rcases List.mem_append.mp member with inside | last
      · exact ordered.assetPast entry inside
      · rw [List.mem_singleton.mp last]
        exact Nat.le_refl _

end Endpoint

namespace Simulator

/-- How many records of one event all inboxes hold. -/
def recordCount (s : Simulator) (id : EventId) : Nat :=
  OrderedMap.sumOf s.endpoints fun _ endpoint => endpoint.recordCount id

/-- The lane runs and the destination takes deliveries. -/
def clear (s : Simulator) (e : Event) : Bool :=
  !(s.laneState e.lane).isPaused &&
    (s.endpoints[e.destination]?).any fun endpoint => !endpoint.isHalted

/-- The destination has the record of a delivery that was due and in time. -/
def Recorded (s : Simulator) (e : Event) : Prop :=
  ∃ endpoint moment late, s.endpoints[e.destination]? = some endpoint ∧
    endpoint.Keeps e moment late ∧ Timely s.config e moment late ∧ moment ≤ s.now

/-- The event waits nowhere and was delivered nowhere. -/
structure Loose (s : Simulator) (id : EventId) : Prop where
  unqueued : ∀ key ∈ s.queue, key.event ≠ id
  unheld : id ∉ s.held
  unrecorded : s.recordCount id = 0

/-- The one place of an event, by its status. -/
def PlacedBy (s : Simulator) (id : EventId) (e : Event) : EventStatus → Prop
  | .scheduled => (∀ key, key ∈ s.queue ∧ key.event = id ↔ key = e.key) ∧ id ∉ s.held ∧
      s.recordCount id = 0
  | .ready => False
  | .blocked => (∀ key ∈ s.queue, key.event ≠ id) ∧ id ∈ s.held ∧ s.clear e = false ∧
      s.recordCount id = 0
  | .delivered => (∀ key ∈ s.queue, key.event ≠ id) ∧ id ∉ s.held ∧ s.recordCount id = 1 ∧
      s.Recorded e
  | .dropped | .expired | .rejectedBySimulator => s.Loose id

/-- The one place of a number: none when no event has it. -/
def Placed (s : Simulator) (id : EventId) : Option Event → Prop
  | none => s.Loose id
  | some e => e.id = id ∧ e.destination ∈ s.endpoints ∧ s.PlacedBy id e e.status

/-- Every event is in its one place, and the inboxes are in order. -/
structure Valid (s : Simulator) : Prop where
  placed : ∀ id, s.Placed id s.events[id]?
  ordered : ∀ (p : EndpointId) (endpoint : Endpoint), s.endpoints[p]? = some endpoint →
    endpoint.Ordered s.now

/-- The same, apart from one event that an attempt has taken out of its place. -/
structure InHand (s : Simulator) (id : EventId) : Prop where
  others : ∀ other, other ≠ id → s.Placed other s.events[other]?
  loose : s.Loose id
  ordered : ∀ (p : EndpointId) (endpoint : Endpoint), s.endpoints[p]? = some endpoint →
    endpoint.Ordered s.now

/-- The network side of a place stays: endpoints, stopped paths and records. -/
structure Carries (s s' : Simulator) : Prop where
  known : ∀ p, p ∈ s.endpoints → p ∈ s'.endpoints
  stopped : ∀ e : Event, e.destination ∈ s.endpoints → s.clear e = false → s'.clear e = false
  recorded : ∀ e, s.Recorded e → s'.Recorded e

/-- The places of one number stay. -/
structure Undisturbed (s s' : Simulator) (id : EventId) : Prop where
  queue : ∀ key : QueueKey, key.event = id → (key ∈ s'.queue ↔ key ∈ s.queue)
  held : id ∈ s'.held ↔ id ∈ s.held
  counted : s'.recordCount id = s.recordCount id

variable {s s' : Simulator} {id : EventId}

theorem Undisturbed.unqueued (same : Undisturbed s s' id)
    (unqueued : ∀ key ∈ s.queue, key.event ≠ id) : ∀ key ∈ s'.queue, key.event ≠ id := by
  intro key member named
  exact unqueued key ((same.queue key named).mp member) named

theorem Loose.frame (loose : s.Loose id) (same : Undisturbed s s' id) : s'.Loose id where
  unqueued := same.unqueued loose.unqueued
  unheld held := loose.unheld (same.held.mp held)
  unrecorded := same.counted.trans loose.unrecorded

/-- What a place rests on: the number's own places, a known destination, the record of a delivery
and, for a held event, a path that is not clear. -/
theorem Placed.transfer (same : Undisturbed s s' id) {found : Option Event}
    (known : ∀ p, p ∈ s.endpoints → p ∈ s'.endpoints)
    (recorded : ∀ e, s.Recorded e → s'.Recorded e)
    (stopped : ∀ e, found = some e → e.status = .blocked → e.destination ∈ s.endpoints →
      s.clear e = false → s'.clear e = false)
    (placed : s.Placed id found) : s'.Placed id found := by
  cases found with
  | none => exact Loose.frame placed same
  | some e =>
      obtain ⟨named, aimed, place⟩ := placed
      refine ⟨named, known _ aimed, ?_⟩
      cases status : e.status with
      | scheduled =>
          rw [status] at place
          obtain ⟨keys, unheld, count⟩ := place
          refine ⟨?_, fun held => unheld (same.held.mp held), same.counted.trans count⟩
          intro key
          rw [← keys key]
          constructor
          · rintro ⟨member, named⟩
            exact ⟨(same.queue key named).mp member, named⟩
          · rintro ⟨member, named⟩
            exact ⟨(same.queue key named).mpr member, named⟩
      | ready =>
          rw [status] at place
          exact place
      | blocked =>
          rw [status] at place
          obtain ⟨unqueued, held, blocked, count⟩ := place
          exact ⟨same.unqueued unqueued, same.held.mpr held, stopped e rfl status aimed blocked,
            same.counted.trans count⟩
      | delivered =>
          rw [status] at place
          obtain ⟨unqueued, unheld, count, kept⟩ := place
          exact ⟨same.unqueued unqueued, fun held => unheld (same.held.mp held),
            same.counted.trans count, recorded e kept⟩
      | dropped | expired | rejectedBySimulator =>
          rw [status] at place
          exact Loose.frame place same

theorem Placed.frame (net : Carries s s') (same : Undisturbed s s' id) {found : Option Event}
    (placed : s.Placed id found) : s'.Placed id found :=
  placed.transfer same net.known net.recorded fun e _ _ aimed blocked => net.stopped e aimed blocked

/-- Nothing on the network side changed, and the clock did not move back. -/
theorem Carries.of_eq (config : s'.config = s.config) (endpoints : s'.endpoints = s.endpoints)
    (lanes : s'.lanes = s.lanes) (forward : s.now ≤ s'.now) : Carries s s' where
  known p member := by rwa [endpoints]
  stopped e _ blocked := by
    unfold clear laneState at blocked ⊢
    rwa [lanes, endpoints]
  recorded e := by
    rintro ⟨endpoint, moment, late, found, keeps, timely, past⟩
    refine ⟨endpoint, moment, late, ?_, keeps, ?_, Nat.le_trans past forward⟩
    · rw [endpoints]
      exact found
    · rw [config]
      exact timely

theorem recordCount_of_eq (endpoints : s'.endpoints = s.endpoints) (id : EventId) :
    s'.recordCount id = s.recordCount id := by
  unfold recordCount
  rw [endpoints]

/-- A queue key belongs to a scheduled event and is its own. -/
theorem Valid.of_queued (valid : s.Valid) {key : QueueKey} (member : key ∈ s.queue) :
    ∃ e, s.events[key.event]? = some e ∧ e.status = .scheduled ∧ e.id = key.event ∧
      e.destination ∈ s.endpoints ∧ key = e.key := by
  have placed := valid.placed key.event
  cases found : s.events[key.event]? with
  | none =>
      rw [found] at placed
      exact absurd rfl (placed.unqueued key member)
  | some e =>
      rw [found] at placed
      obtain ⟨named, known, place⟩ := placed
      cases status : e.status with
      | scheduled =>
          rw [status] at place
          exact ⟨e, rfl, status, named, known, (place.1 key).mp ⟨member, rfl⟩⟩
      | ready =>
          rw [status] at place
          exact absurd place id
      | blocked | delivered =>
          rw [status] at place
          exact absurd rfl (place.1 key member)
      | dropped | expired | rejectedBySimulator =>
          rw [status] at place
          exact absurd rfl (place.unqueued key member)

/-- Taking the key of an event out of the queue takes the event in hand. -/
theorem Valid.take (valid : s.Valid) {key : QueueKey} (member : key ∈ s.queue) :
    InHand { s with queue := s.queue.erase key } key.event := by
  obtain ⟨e, found, status, _, _, own⟩ := valid.of_queued member
  have placed := valid.placed key.event
  rw [found] at placed
  obtain ⟨_, _, place⟩ := placed
  rw [status] at place
  obtain ⟨keys, unheld, count⟩ := place
  have net : Carries s { s with queue := s.queue.erase key } :=
    Carries.of_eq rfl rfl rfl (Nat.le_refl _)
  refine ⟨?_, ⟨?_, unheld, count⟩, valid.ordered⟩
  · intro other apart
    refine Placed.frame net ⟨?_, Iff.rfl, rfl⟩ (valid.placed other)
    intro waiting named
    have distinct : waiting ≠ key := by
      intro same
      exact apart (named.symm.trans (congrArg QueueKey.event same))
    exact OrderedSet.mem_erase.trans (and_iff_right distinct)
  · intro waiting inside named
    obtain ⟨distinct, inside⟩ := OrderedSet.mem_erase.mp inside
    exact distinct (((keys waiting).mp ⟨inside, named⟩).trans own.symm)

end Simulator

end XchainSim
