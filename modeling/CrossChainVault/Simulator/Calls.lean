import CrossChainVault.Simulator.Attempt

set_option autoImplicit false

/- Every call keeps the events in their places. -/

namespace XchainSim

open Protocol (Bytes32)
open InPlace
open Result

/-- A held event on its way again, at once or when it is due. -/
def Event.released (now : Tick) (e : Event) : Event :=
  (e.setStatus .scheduled).setDeliverAt (Simulator.maxTick now e.deliverAt)

namespace Simulator

variable {s s' : Simulator} {id : EventId} {e : Event} (keccak256 : Bytes → Bytes32)

/- Delivery. -/

theorem peek_member {key : QueueKey} (next : EventQueue.peek s.queue = some key) :
    key ∈ s.queue :=
  (OrderedSet.of_first next).1

theorem Valid.deliverNext (valid : s.Valid) :
    (s.deliverNext keccak256).2.Valid ∧ Delivers s (s.deliverNext keccak256).2 := by
  have still : s.Valid ∧ Delivers s s := ⟨valid, Delivers.of_eq rfl rfl rfl (Nat.le_refl _)⟩
  unfold Simulator.deliverNext
  split
  · exact still
  · rename_i key next
    split
    · exact still
    · rename_i due
      exact valid.attempt keccak256 (peek_member next) (Nat.le_of_not_lt due)

theorem Valid.deliverReadyFrom (fuel : Nat) : ∀ (count : Unsigned 32) (s : Simulator), s.Valid →
    (deliverReadyFrom keccak256 fuel count s).2.Valid ∧
      Delivers s (deliverReadyFrom keccak256 fuel count s).2 := by
  induction fuel with
  | zero =>
      intro count s valid
      exact ⟨valid, Delivers.of_eq rfl rfl rfl (Nat.le_refl _)⟩
  | succ fuel ih =>
      intro count s valid
      have next := valid.deliverNext keccak256
      unfold Simulator.deliverReadyFrom
      split
      · rename_i after result
        rw [result] at next
        exact next
      · rename_i attempted after result
        rw [result] at next
        obtain ⟨valid', delivers⟩ := ih (count.saturatingAdd 1) after next.1
        exact ⟨valid', next.2.trans delivers⟩

theorem Valid.deliverReady (valid : s.Valid) :
    (s.deliverReady keccak256).2.Valid ∧ Delivers s (s.deliverReady keccak256).2 :=
  Valid.deliverReadyFrom keccak256 s.work 0 s valid

/-- The clock may move forward. -/
theorem Valid.moveClock (valid : s.Valid) {target : Tick} (forward : s.now ≤ target)
    (trace : Trace) : Valid { s with now := target, trace } ∧
      Delivers s { s with now := target, trace } := by
  have net : Carries s { s with now := target, trace } := Carries.of_eq rfl rfl rfl forward
  refine ⟨⟨?_, ?_⟩, Delivers.of_eq rfl rfl rfl forward⟩
  · intro id
    exact Placed.frame net ⟨fun _ _ => Iff.rfl, Iff.rfl, rfl⟩ (valid.placed id)
  · intro p endpoint found
    exact (valid.ordered p endpoint found).mono forward

theorem Valid.advanceTo (valid : s.Valid) (target : Tick) :
    Does (advanceTo target) s fun _ s' => s'.Valid ∧ Delivers s s' ∧ s'.now = target := by
  unfold Simulator.advanceTo
  rw [does_get_bind, does_check_bind]
  intro _ allowed
  rw [rejectIf_eq_ok, Unsigned.lt_def] at allowed
  rw [does_set]
  split
  · rename_i same
    exact ⟨valid, Delivers.of_eq rfl rfl rfl (Nat.le_refl _), same.symm⟩
  · obtain ⟨valid', delivers⟩ := valid.moveClock (Nat.le_of_not_lt allowed)
      (Trace.push s.trace target (.tickAdvanced s.now target))
    exact ⟨valid', delivers, rfl⟩

/-- Moving the clock forward is never refused. -/
theorem advanceTo_ok {target : Tick} (forward : s.now ≤ target) :
    ∃ s', advanceTo target s = .ok () s' ∧ s'.now = target ∧ s'.queue = s.queue ∧
      s'.work = s.work := by
  have allowed : rejectIf (target < s.now) (SimError.timeMovesBackwards s.now target) = .ok () := by
    rw [rejectIf_eq_ok]
    exact Nat.not_lt.mpr forward
  have result : advanceTo target s = .ok () (if target = s.now then s
      else { s with
        now := target
        trace := Trace.push s.trace target (.tickAdvanced s.now target) }) := by
    have unfolded : advanceTo target s = (do
        check (rejectIf (target < s.now) (SimError.timeMovesBackwards s.now target))
        set (if target = s.now then s
          else { s with
            now := target
            trace := Trace.push s.trace target (.tickAdvanced s.now target) }) :
        Update Unit) s := rfl
    rw [unfolded, allowed]
    rfl
  refine ⟨_, result, ?_, ?_, ?_⟩
  · split
    · rename_i same
      exact same.symm
    · rfl
  · split <;> rfl
  · split <;> rfl

theorem deliverNext_now (s : Simulator) : (s.deliverNext keccak256).2.now = s.now := by
  unfold Simulator.deliverNext
  split
  · rfl
  · split
    · rfl
    · exact attempt_now keccak256 _ _

theorem deliverReadyFrom_now (fuel : Nat) : ∀ (count : Unsigned 32) (s : Simulator),
    (deliverReadyFrom keccak256 fuel count s).2.now = s.now := by
  induction fuel with
  | zero =>
      intro count s
      rfl
  | succ fuel ih =>
      intro count s
      have next := deliverNext_now keccak256 s
      unfold Simulator.deliverReadyFrom
      split
      · rename_i after result
        rw [result] at next
        exact next
      · rename_i attempted after result
        rw [result] at next
        rw [ih, next]

theorem Valid.runUntilIdleFrom (fuel : Nat) : ∀ (count : Unsigned 32) (s : Simulator), s.Valid →
    (runUntilIdleFrom keccak256 fuel count s).2.Valid ∧
      Delivers s (runUntilIdleFrom keccak256 fuel count s).2 := by
  induction fuel with
  | zero =>
      intro count s valid
      exact ⟨valid, Delivers.of_eq rfl rfl rfl (Nat.le_refl _)⟩
  | succ fuel ih =>
      intro count s valid
      unfold Simulator.runUntilIdleFrom
      split
      · exact ⟨valid, Delivers.of_eq rfl rfl rfl (Nat.le_refl _)⟩
      · rename_i tick _
        have moved := valid.advanceTo (maxTick tick s.now)
        unfold Does at moved
        split
        · rename_i failure after result
          rw [result] at moved
          rw [moved]
          exact ⟨valid, Delivers.of_eq rfl rfl rfl (Nat.le_refl _)⟩
        · rename_i done after result
          rw [result] at moved
          obtain ⟨valid', delivers, _⟩ := moved
          obtain ⟨valid'', delivers'⟩ := valid'.deliverReady keccak256
          obtain ⟨last, delivers''⟩ := ih _ _ valid''
          exact ⟨last, delivers.trans (delivers'.trans delivers'')⟩

theorem le_maxTick_left (a b : Tick) : a ≤ maxTick a b := by
  unfold maxTick
  split
  · rename_i less
    exact Nat.le_of_lt less
  · exact Nat.le_refl _

theorem le_maxTick_right (a b : Tick) : b ≤ maxTick a b := by
  unfold maxTick
  split
  · exact Nat.le_refl _
  · rename_i less
    exact Nat.le_of_not_lt less

theorem maxTick_le {a b c : Tick} (left : a ≤ c) (right : b ≤ c) : maxTick a b ≤ c := by
  unfold maxTick
  split
  · exact right
  · exact left

/-- One turn of the loop of `runUntil`. -/
theorem runUntilFrom_succ {target : Tick} (fuel : Nat) (count : Unsigned 32) (s : Simulator) :
    runUntilFrom keccak256 target (fuel + 1) count s =
      (match EventQueue.nextTick s.queue with
        | none => pure count
        | some tick =>
            if target < tick then pure count
            else do
              advanceTo (maxTick tick s.now)
              let delivered ← modifyGet (deliverReady keccak256)
              runUntilFrom keccak256 target fuel (count.saturatingAdd delivered) :
        Update (Unsigned 32)) s := rfl

/-- The loop of `runUntil` never fails, and stays before its target. -/
theorem Valid.runUntilFrom {target : Tick} (fuel : Nat) : ∀ (count : Unsigned 32) (s : Simulator),
    s.Valid → s.now ≤ target → ∃ total s', runUntilFrom keccak256 target fuel count s = .ok total s' ∧
      s'.Valid ∧ Delivers s s' ∧ s'.now ≤ target := by
  induction fuel with
  | zero =>
      intro count s valid early
      exact ⟨count, s, rfl, valid, Delivers.of_eq rfl rfl rfl (Nat.le_refl _), early⟩
  | succ fuel ih =>
      intro count s valid early
      have stop : s.Valid ∧ Delivers s s ∧ s.now ≤ target :=
        ⟨valid, Delivers.of_eq rfl rfl rfl (Nat.le_refl _), early⟩
      rw [runUntilFrom_succ]
      cases next : EventQueue.nextTick s.queue with
      | none => exact ⟨count, s, rfl, stop⟩
      | some tick =>
          dsimp only
          by_cases past : target < tick
          · rw [if_pos past]
            exact ⟨count, s, rfl, stop⟩
          · rw [if_neg past]
            obtain ⟨moved, result, clock, _⟩ := advanceTo_ok (le_maxTick_right tick s.now)
            have advanced := valid.advanceTo (maxTick tick s.now)
            unfold Does at advanced
            rw [result] at advanced
            obtain ⟨valid', delivers, _⟩ := advanced
            obtain ⟨valid'', delivers'⟩ := valid'.deliverReady keccak256
            have early' : (moved.deliverReady keccak256).2.now ≤ target := by
              have kept := deliverReadyFrom_now keccak256 moved.work 0 moved
              have bound := maxTick_le (Nat.le_of_not_lt past) early
              rw [← clock, ← kept] at bound
              exact bound
            obtain ⟨total, last, rest, valid''', delivers'', final⟩ :=
              ih (count.saturatingAdd (moved.deliverReady keccak256).1) _ valid'' early'
            refine ⟨total, last, ?_, valid''', delivers.trans (delivers'.trans delivers''), final⟩
            rw [← rest]
            change EStateM.bind (Simulator.advanceTo (maxTick tick s.now)) _ s = _
            unfold EStateM.bind
            rw [result]
            rfl

/- What a call may add to the inboxes. -/

/-- The lane runs and the endpoint takes deliveries. -/
def Open (s : Simulator) (p : EndpointId) (lane : Lane) : Prop :=
  (s.laneState lane).isPaused = false ∧
    ∃ endpoint, s.endpoints[p]? = some endpoint ∧ endpoint.isHalted = false

/-- From `s` to `s'` the inboxes only grew, and every new record was added between the two clocks on
a path that was open all the time. -/
structure Adds (s s' : Simulator) : Prop where
  config : s'.config = s.config
  forward : s.now ≤ s'.now
  inboxes : ∀ (p : EndpointId) (endpoint : Endpoint), s.endpoints[p]? = some endpoint →
    ∃ (endpoint' : Endpoint) (controls : List DeliveredControl) (assets : List DeliveredAsset),
      s'.endpoints[p]? = some endpoint' ∧
      endpoint'.controlInbox = endpoint.controlInbox ++ controls ∧
      endpoint'.assetInbox = endpoint.assetInbox ++ assets ∧
      (∀ entry ∈ controls, s.now ≤ entry.deliveredAt ∧ entry.deliveredAt ≤ s'.now ∧
        s.Open p .control ∧ s'.Open p .control) ∧
      ∀ entry ∈ assets, s.now ≤ entry.deliveredAt ∧ entry.deliveredAt ≤ s'.now ∧
        s.Open p .asset ∧ s'.Open p .asset
  fresh : ∀ (p : EndpointId) (endpoint' : Endpoint), s.endpoints[p]? = none →
    s'.endpoints[p]? = some endpoint' → endpoint'.controlInbox = [] ∧ endpoint'.assetInbox = []

theorem Delivers.adds (delivers : Delivers s s') (valid : s'.Valid) : Adds s s' where
  config := delivers.config
  forward := delivers.forward
  inboxes p endpoint found := by
    obtain ⟨endpoint', controls, assets, found', halted, control, asset, open₁, open₂⟩ :=
      delivers.inboxes p endpoint found
    have ordered := valid.ordered p endpoint' found'
    have lane : ∀ way, s'.laneState way = s.laneState way := by
      intro way
      unfold laneState
      rw [delivers.lanes]
    refine ⟨endpoint', controls, assets, found', control, asset, ?_, ?_⟩
    · intro entry member
      obtain ⟨after, active, runs⟩ := open₁ entry member
      refine ⟨after, ordered.controlPast entry ?_, ⟨runs, endpoint, found, active⟩,
        ⟨?_, endpoint', found', halted.trans active⟩⟩
      · rw [control]
        exact List.mem_append_right _ member
      · rw [lane]
        exact runs
    · intro entry member
      obtain ⟨after, active, runs⟩ := open₂ entry member
      refine ⟨after, ordered.assetPast entry ?_, ⟨runs, endpoint, found, active⟩,
        ⟨?_, endpoint', found', halted.trans active⟩⟩
      · rw [asset]
        exact List.mem_append_right _ member
      · rw [lane]
        exact runs
  fresh p endpoint' absent found := by
    have member : p ∈ s'.endpoints := by
      rw [Std.ExtTreeMap.mem_iff_isSome_getElem?, found]
      rfl
    rw [delivers.known, Std.ExtTreeMap.mem_iff_isSome_getElem?, absent] at member
    cases member

/-- A call that touches no inbox. -/
theorem Adds.quiet (config : s'.config = s.config) (now : s'.now = s.now)
    (inboxes : ∀ (p : EndpointId) (endpoint : Endpoint), s.endpoints[p]? = some endpoint →
      ∃ endpoint', s'.endpoints[p]? = some endpoint' ∧
        endpoint'.controlInbox = endpoint.controlInbox ∧
        endpoint'.assetInbox = endpoint.assetInbox)
    (fresh : ∀ (p : EndpointId) (endpoint' : Endpoint), s.endpoints[p]? = none →
      s'.endpoints[p]? = some endpoint' →
      endpoint'.controlInbox = [] ∧ endpoint'.assetInbox = []) : Adds s s' where
  config := config
  forward := Nat.le_of_eq (by rw [now])
  inboxes p endpoint found := by
    obtain ⟨endpoint', found', control, asset⟩ := inboxes p endpoint found
    refine ⟨endpoint', [], [], found', ?_, ?_, List.forall_mem_nil _, List.forall_mem_nil _⟩
    · rw [control, List.append_nil]
    · rw [asset, List.append_nil]
  fresh := fresh

/-- The endpoints are the same. -/
theorem Adds.of_eq (config : s'.config = s.config) (now : s'.now = s.now)
    (endpoints : s'.endpoints = s.endpoints) : Adds s s' := by
  refine Adds.quiet config now ?_ ?_
  · intro p endpoint found
    exact ⟨endpoint, by rw [endpoints, found], rfl, rfl⟩
  · intro p endpoint' absent found
    rw [endpoints, absent] at found
    cases found

/-- One endpoint changed its state and kept its inboxes. -/
theorem Adds.of_endpoint (config : s'.config = s.config) (now : s'.now = s.now) {p : EndpointId}
    {endpoint endpoint' : Endpoint} (found : s.endpoints[p]? = some endpoint)
    (endpoints : s'.endpoints = s.endpoints.insert p endpoint')
    (control : endpoint'.controlInbox = endpoint.controlInbox)
    (asset : endpoint'.assetInbox = endpoint.assetInbox) : Adds s s' := by
  refine Adds.quiet config now ?_ ?_
  · intro q holder there
    rw [endpoints, OrderedMap.getElem?_insert]
    by_cases here : p = q
    · rw [← here, found] at there
      cases there
      rw [if_pos here]
      exact ⟨endpoint', rfl, control, asset⟩
    · rw [if_neg here]
      exact ⟨holder, there, rfl, rfl⟩
  · intro q holder absent there
    rw [endpoints, OrderedMap.getElem?_insert] at there
    split at there
    · rename_i here
      rw [← here, found] at absent
      cases absent
    · rw [absent] at there
      cases there

/- Scheduling and faults. -/

/-- A number no event has is as good as an event in hand. -/
theorem Valid.free (valid : s.Valid) (absent : s.events[id]? = none) : s.InHand id where
  others other _ := valid.placed other
  loose := by
    have placed := valid.placed id
    rw [absent] at placed
    exact placed
  ordered := valid.ordered

theorem reserveEventId_does (wanted : Option EventId) :
    Does (reserveEventId wanted) s fun id s' => Alike s s' ∧ s.events[id]? = none ∧
      s'.plan = s.plan ∧ s'.resolved = s.resolved ∧ s'.trace = s.trace := by
  unfold reserveEventId
  rw [does_get_bind, does_check_bind]
  intro _ absent
  rw [does_check_bind]
  intro next _
  refine ⟨⟨rfl, rfl, rfl, rfl, rfl, rfl, rfl⟩, ?_, rfl, rfl, rfl⟩
  rw [rejectIf_eq_ok, Std.ExtTreeMap.contains_eq_isSome_getElem?] at absent
  simpa using absent

theorem Valid.insertScheduled (valid : s.Valid) (absent : s.events[e.id]? = none)
    (known : e.destination ∈ s.endpoints) (scheduled : e.status = .scheduled) (subject : Subject) :
    (s.insertScheduled e subject).Valid := by
  have hand := (alike_record s (.eventScheduled e.id e.lane e.source e.destination subject
    e.deliverAt)).inHand (valid.free absent)
  exact hand.requeue rfl known scheduled

theorem checkRoute_ok {source destination : EndpointId}
    (checked : s.checkRoute source destination = .ok ()) : destination ∈ s.endpoints := by
  unfold checkRoute requireEndpoint at checked
  simp only [bind_eq_ok, rejectIf_eq_ok, not_not] at checked
  obtain ⟨_, _, _, known, _⟩ := checked
  exact Std.ExtTreeMap.contains_iff_mem.mp known

theorem Valid.scheduleControl (valid : s.Valid) (request : ControlRequest) :
    Does (scheduleControl keccak256 request) s fun _ s' => s'.Valid ∧ Adds s s' := by
  unfold Simulator.scheduleControl
  rw [does_get_bind, does_check_bind]
  intro _ route
  rw [does_check_bind]
  intro _ _
  rw [does_check_bind]
  intro _ _
  refine (reserveEventId_does request.id).bind_ok ?_
  rintro id middle ⟨alike, absent, _⟩
  refine ⟨id, _, rfl, ?_, Adds.of_eq alike.config alike.now alike.endpoints⟩
  refine (alike.valid valid).insertScheduled ?_ ?_ rfl _
  · rw [alike.events]
    exact absent
  · rw [alike.endpoints]
    exact checkRoute_ok route

theorem Valid.scheduleAsset (valid : s.Valid) (request : AssetRequest) :
    Does (scheduleAsset request) s fun _ s' => s'.Valid ∧ Adds s s' := by
  unfold Simulator.scheduleAsset
  rw [does_get_bind, does_check_bind]
  intro _ route
  rw [does_check_bind]
  intro _ _
  rw [does_check_bind]
  intro _ _
  refine (reserveEventId_does request.id).bind_ok ?_
  rintro id middle ⟨alike, absent, _⟩
  refine ⟨id, _, rfl, ?_, Adds.of_eq alike.config alike.now alike.endpoints⟩
  refine (alike.valid valid).insertScheduled ?_ ?_ rfl _
  · rw [alike.events]
    exact absent
  · rw [alike.endpoints]
    exact checkRoute_ok route

theorem Valid.addFault (valid : s.Valid) (fault : Fault) :
    Does (addFault fault) s fun _ s' => s'.Valid ∧ Adds s s' := by
  unfold Simulator.addFault
  rw [does_get_bind, does_check_bind]
  intro _ _
  rw [does_set]
  have alike : Alike s { s with plan := s.plan.insert fault.id fault } :=
    ⟨rfl, rfl, rfl, rfl, rfl, rfl, rfl⟩
  exact ⟨alike.valid valid, Adds.of_eq rfl rfl rfl⟩

/- Endpoints and lanes. -/

/-- The state after a change on the network side that stops no fewer paths. -/
theorem Valid.carry (valid : s.Valid) (net : Carries s s') (events : s'.events = s.events)
    (queue : s'.queue = s.queue) (held : s'.held = s.held)
    (counts : ∀ id, s'.recordCount id = s.recordCount id)
    (ordered : ∀ (p : EndpointId) (endpoint : Endpoint), s'.endpoints[p]? = some endpoint →
      endpoint.Ordered s'.now) : s'.Valid where
  placed id := by
    rw [events]
    refine Placed.frame net ⟨?_, ?_, counts id⟩ (valid.placed id)
    · intro key _
      rw [queue]
    · rw [held]
  ordered := ordered

theorem Valid.addEndpoint (valid : s.Valid) (p : EndpointId) :
    Does (addEndpoint p) s fun _ s' => s'.Valid ∧ Adds s s' := by
  unfold Simulator.addEndpoint
  rw [does_get_bind, does_check_bind]
  intro _ checked
  rw [rejectIf_eq_ok, Std.ExtTreeMap.contains_eq_isSome_getElem?] at checked
  have absent : s.endpoints[p]? = none := by simpa using checked
  rw [does_set]
  let s' : Simulator := { s with endpoints := s.endpoints.insert p (Endpoint.new p) }
  have other : ∀ (q : EndpointId) (endpoint : Endpoint), s.endpoints[q]? = some endpoint →
      s'.endpoints[q]? = some endpoint := by
    intro q endpoint found
    have apart : p ≠ q := by
      rintro rfl
      rw [absent] at found
      cases found
    exact (OrderedMap.getElem?_insert_other _ _ apart).trans found
  have fresh : ∀ (q : EndpointId) (endpoint' : Endpoint), s.endpoints[q]? = none →
      s'.endpoints[q]? = some endpoint' → endpoint' = Endpoint.new p := by
    intro q endpoint' missing found
    have inserted : s'.endpoints[q]? = if p = q then some (Endpoint.new p) else s.endpoints[q]? :=
      OrderedMap.getElem?_insert _ _ _ _
    rw [found] at inserted
    split at inserted
    · exact Option.some.inj inserted
    · rw [missing] at inserted
      cases inserted
  have net : Carries s s' := by
    refine ⟨?_, ?_, ?_⟩
    · intro q member
      exact mem_endpoints_insert.mpr (.inr member)
    · intro e known stopped
      rw [Std.ExtTreeMap.mem_iff_isSome_getElem?, Option.isSome_iff_exists] at known
      obtain ⟨endpoint, found⟩ := known
      unfold clear at stopped ⊢
      rw [found] at stopped
      rw [other _ _ found]
      exact stopped
    · rintro e ⟨endpoint, moment, late, found, keeps, timely, past⟩
      exact ⟨endpoint, moment, late, other _ _ found, keeps, timely, past⟩
  refine ⟨valid.carry net rfl rfl rfl ?_ ?_, Adds.quiet rfl rfl ?_ ?_⟩
  · intro id
    have added := OrderedMap.sumOf_insert_new s.endpoints (fun _ endpoint => endpoint.recordCount id)
      p (Endpoint.new p) absent
    rw [Endpoint.recordCount_new, Nat.add_zero] at added
    exact added
  · intro q endpoint found
    cases old : s.endpoints[q]? with
    | none =>
        rw [fresh q endpoint old found]
        exact Endpoint.ordered_new p _
    | some holder =>
        have kept := other q holder old
        cases kept.symm.trans found
        exact valid.ordered q endpoint old
  · intro q endpoint found
    exact ⟨endpoint, other q endpoint found, rfl, rfl⟩
  · intro q endpoint' missing found
    rw [fresh q endpoint' missing found]
    exact ⟨rfl, rfl⟩

theorem recordCount_setState {p : EndpointId} {endpoint : Endpoint}
    (found : s.endpoints[p]? = some endpoint) (state : EndpointState)
    (network : s'.endpoints = s.endpoints.insert p (endpoint.setState state)) (id : EventId) :
    s'.recordCount id = s.recordCount id := by
  have balance := OrderedMap.sumOf_insert_replace s.endpoints
    (fun _ endpoint => endpoint.recordCount id) p (endpoint.setState state) endpoint found
  have same : (endpoint.setState state).recordCount id = endpoint.recordCount id := rfl
  unfold recordCount
  rw [network]
  omega

theorem ordered_setState (valid : s.Valid) {p : EndpointId} {endpoint : Endpoint}
    (found : s.endpoints[p]? = some endpoint) (state : EndpointState) (q : EndpointId)
    (holder : Endpoint) (there : (s.endpoints.insert p (endpoint.setState state))[q]? = some holder) :
    holder.Ordered s.now := by
  rw [OrderedMap.getElem?_insert] at there
  split at there
  · cases there
    have ordered := valid.ordered p endpoint found
    exact ⟨ordered.control, ordered.asset, ordered.controlPast, ordered.assetPast⟩
  · exact valid.ordered q holder there

theorem Valid.haltEndpoint (valid : s.Valid) (p : EndpointId) :
    Does (haltEndpoint p) s fun _ s' => s'.Valid ∧ Adds s s' := by
  unfold Simulator.haltEndpoint
  rw [does_get_bind, does_check_bind]
  intro endpoint found
  rw [okOr_eq_ok] at found
  rw [does_set]
  refine ⟨valid.carry (Carries.of_endpoint found (fun _ => rfl) ?_ rfl rfl rfl rfl) rfl rfl rfl
    (recordCount_setState found .halted rfl) (ordered_setState valid found .halted), ?_⟩
  · intro e moment late keeps
    cases e <;> exact keeps
  · exact Adds.of_endpoint rfl rfl found rfl rfl rfl

theorem Valid.pauseLane (valid : s.Valid) (lane : Lane) :
    (s.pauseLane lane).Valid ∧ Adds s (s.pauseLane lane) := by
  refine ⟨valid.carry ⟨fun _ known => known, ?_, fun _ recorded => recorded⟩ rfl rfl rfl
    (fun _ => rfl) valid.ordered, Adds.of_eq rfl rfl rfl⟩
  intro e _ stopped
  have lanes : (s.pauseLane lane).laneState e.lane =
      if lane = e.lane then .paused else s.laneState e.lane := by
    unfold laneState
    have paused : (s.pauseLane lane).lanes = s.lanes.insert lane .paused := rfl
    rw [paused, OrderedMap.getElem?_insert]
    split <;> rfl
  unfold clear at stopped ⊢
  rw [lanes]
  split
  · rfl
  · exact stopped

/- Releasing held events. -/

/-- The events with these numbers left the held set for the queue. -/
structure Releases (s s' : Simulator) (ids : List EventId) : Prop where
  config : s'.config = s.config
  now : s'.now = s.now
  endpoints : s'.endpoints = s.endpoints
  lanes : s'.lanes = s.lanes
  events : ∀ id, s'.events[id]? =
    if id ∈ ids then s.events[id]?.map (Event.released s.now) else s.events[id]?
  queue : ∀ key, key ∈ s'.queue ↔ key ∈ s.queue ∨
    ∃ id e, id ∈ ids ∧ s.events[id]? = some e ∧
      key = QueueKey.new (e.released s.now).deliverAt e.lane id
  held : ∀ id, id ∈ s'.held ↔ id ∈ s.held ∧ id ∉ ids

theorem release_none (absent : s.events[id]? = none) :
    s.release id = { s with held := s.held.erase id } := by
  simp only [release, absent]

theorem release_some (found : s.events[id]? = some e) :
    s.release id =
      { s with
        held := s.held.erase id
        events := s.events.insert id (e.released s.now)
        queue := s.queue.insert (QueueKey.new (e.released s.now).deliverAt e.lane id) } := by
  have lane : (e.released s.now).lane = e.lane := by
    rw [Event.released, Event.lane_setDeliverAt, Event.lane_setStatus]
  rw [← lane]
  simp only [release, found]
  rfl

theorem release_releases (s : Simulator) (id : EventId) : Releases s (s.release id) [id] := by
  have unheld : ∀ other, other ∈ s.held.erase id ↔ other ∈ s.held ∧ other ∉ [id] := by
    intro other
    rw [List.mem_singleton]
    exact OrderedSet.mem_erase.trans and_comm
  cases found : s.events[id]? with
  | none =>
      rw [release_none found]
      refine ⟨rfl, rfl, rfl, rfl, ?_, ?_, unheld⟩
      · intro other
        by_cases here : other = id
        · rw [if_pos (List.mem_singleton.mpr here), here, found]
          rfl
        · rw [if_neg fun member => here (List.mem_singleton.mp member)]
      · intro key
        refine (or_iff_left ?_).symm
        rintro ⟨other, e, here, there, _⟩
        rw [List.mem_singleton.mp here, found] at there
        cases there
  | some e =>
      rw [release_some found]
      refine ⟨rfl, rfl, rfl, rfl, ?_, ?_, unheld⟩
      · intro other
        refine (OrderedMap.getElem?_insert _ _ _ _).trans ?_
        by_cases here : id = other
        · rw [if_pos here, if_pos (List.mem_singleton.mpr here.symm), ← here, found]
          rfl
        · rw [if_neg here, if_neg fun member => here (List.mem_singleton.mp member).symm]
      · intro key
        refine OrderedSet.mem_insert.trans ?_
        rw [or_comm]
        refine or_congr Iff.rfl ⟨?_, ?_⟩
        · intro same
          exact ⟨id, e, List.mem_cons_self, found, same⟩
        · rintro ⟨other, e', here, there, same⟩
          rw [List.mem_singleton] at here
          rw [here, found] at there
          cases there
          rw [same, here]

/-- Releasing a list of different events, one after another. -/
theorem releaseAll_releases (ids : List EventId) : ∀ (released : Unsigned 32) (s : Simulator),
    ids.Nodup → Releases s (releaseAll released s ids).2 ids := by
  induction ids with
  | nil =>
      intro released s _
      refine ⟨rfl, rfl, rfl, rfl, fun _ => rfl, ?_, ?_⟩
      · intro key
        exact (or_iff_left fun ⟨_, _, here, _⟩ => List.not_mem_nil here).symm
      · intro id
        exact (and_iff_left List.not_mem_nil).symm
  | cons id rest ih =>
      intro released s distinct
      obtain ⟨apart, distinct⟩ := List.nodup_cons.mp distinct
      unfold releaseAll
      have first := release_releases s id
      have later := ih (if s.events.contains id then released.saturatingAdd 1 else released)
        (s.release id) distinct
      -- The later events are not the one released first, so their entries are still the old ones.
      have same : ∀ other ∈ rest, (s.release id).events[other]? = s.events[other]? := by
        intro other member
        rw [first.events, if_neg]
        intro here
        rw [List.mem_singleton.mp here] at member
        exact apart member
      refine ⟨later.config.trans first.config, later.now.trans first.now,
        later.endpoints.trans first.endpoints, later.lanes.trans first.lanes, ?_, ?_, ?_⟩
      · intro other
        rw [later.events, first.now]
        by_cases inRest : other ∈ rest
        · rw [if_pos inRest, if_pos (List.mem_cons_of_mem id inRest), same other inRest]
        · rw [if_neg inRest, first.events]
          by_cases here : other = id
          · rw [if_pos (List.mem_singleton.mpr here), if_pos (List.mem_cons.mpr (.inl here))]
          · rw [if_neg fun member => here (List.mem_singleton.mp member), if_neg]
            intro member
            rcases List.mem_cons.mp member with same | inside
            · exact here same
            · exact inRest inside
      · intro key
        rw [later.queue, first.queue, first.now]
        constructor
        · rintro ((waiting | ⟨other, e, here, found, made⟩) | ⟨other, e, inside, found, made⟩)
          · exact .inl waiting
          · rw [List.mem_singleton] at here
            exact .inr ⟨other, e, List.mem_cons.mpr (.inl here), found, made⟩
          · rw [same other inside] at found
            exact .inr ⟨other, e, List.mem_cons_of_mem id inside, found, made⟩
        · rintro (waiting | ⟨other, e, member, found, made⟩)
          · exact .inl (.inl waiting)
          · rcases List.mem_cons.mp member with here | inside
            · exact .inl (.inr ⟨other, e, List.mem_singleton.mpr here, found, made⟩)
            · refine .inr ⟨other, e, inside, ?_, made⟩
              rw [same other inside]
              exact found
      · intro other
        rw [later.held, first.held, List.mem_singleton, List.mem_cons, not_or, and_assoc]

theorem pathIsClear_eq (found : s.events[id]? = some e) : s.pathIsClear id = s.clear e := by
  unfold pathIsClear
  rw [found]
  rfl

/-- Resuming opens paths; once the held events with a clear path are released, every event is in
its place again. -/
theorem Valid.releaseHeld (valid : s.Valid) (resumed : Simulator)
    (known : ∀ p, p ∈ s.endpoints → p ∈ resumed.endpoints)
    (recorded : ∀ e, s.Recorded e → resumed.Recorded e) (events : resumed.events = s.events)
    (queue : resumed.queue = s.queue) (held : resumed.held = s.held)
    (counts : ∀ id, resumed.recordCount id = s.recordCount id)
    (ordered : ∀ (p : EndpointId) (endpoint : Endpoint), resumed.endpoints[p]? = some endpoint →
      endpoint.Ordered resumed.now) : resumed.releaseHeld.2.Valid ∧ Releases resumed resumed.releaseHeld.2
        (resumed.held.toList.filter resumed.pathIsClear) := by
  have releases : Releases resumed resumed.releaseHeld.2 (resumed.held.toList.filter resumed.pathIsClear) :=
    releaseAll_releases _ 0 resumed ((OrderedSet.nodup_toList resumed.held).filter _)
  refine ⟨⟨?_, ?_⟩, releases⟩
  swap
  · intro p endpoint found
    rw [releases.endpoints] at found
    rw [releases.now]
    exact ordered p endpoint found
  intro id
  have placed := valid.placed id
  have count : resumed.releaseHeld.2.recordCount id = s.recordCount id :=
    (recordCount_of_eq releases.endpoints id).trans (counts id)
  have heldIff : id ∈ resumed.held.toList.filter resumed.pathIsClear ↔
      id ∈ s.held ∧ resumed.pathIsClear id = true := by
    rw [List.mem_filter, Std.ExtTreeSet.mem_toList, held]
  rw [releases.events, events]
  by_cases ready : id ∈ resumed.held.toList.filter resumed.pathIsClear
  · -- A released event was blocked, and now waits under its own key.
    rw [if_pos ready]
    have inHeld := (heldIff.mp ready).1
    cases found : s.events[id]? with
    | none =>
        rw [found] at placed
        exact absurd inHeld placed.unheld
    | some e =>
        rw [found] at placed
        obtain ⟨named, aimed, place⟩ := placed
        have blocked : e.status = .blocked := by
          cases status : e.status with
          | blocked => rfl
          | scheduled =>
              rw [status] at place
              exact absurd inHeld place.2.1
          | ready =>
              rw [status] at place
              exact False.elim place
          | delivered =>
              rw [status] at place
              exact absurd inHeld place.2.1
          | dropped | expired | rejectedBySimulator =>
              rw [status] at place
              exact absurd inHeld place.unheld
        rw [blocked] at place
        obtain ⟨unqueued, _, _, unrecorded⟩ := place
        have name : (e.released resumed.now).id = id := by
          rw [Event.released, Event.id_setDeliverAt, Event.id_setStatus, named]
        have lane : (e.released resumed.now).lane = e.lane := by
          rw [Event.released, Event.lane_setDeliverAt, Event.lane_setStatus]
        refine ⟨name, ?_, ?_⟩
        · rw [Event.released, Event.destination_setDeliverAt, Event.destination_setStatus,
            releases.endpoints]
          exact known _ aimed
        · have status : (e.released resumed.now).status = .scheduled := by
            rw [Event.released, Event.status_setDeliverAt, Event.status_setStatus]
          rw [status]
          refine ⟨?_, ?_, count.trans unrecorded⟩
          · intro key
            rw [releases.queue, queue, Event.key, name, lane]
            constructor
            · rintro ⟨waiting | ⟨other, e', _, there, made⟩, numbered⟩
              · exact absurd numbered (unqueued key waiting)
              · have same : other = id := by
                  rw [made] at numbered
                  exact numbered
                rw [events, same, found] at there
                cases there
                rw [made, same]
            · rintro rfl
              refine ⟨.inr ⟨id, e, ready, ?_, rfl⟩, rfl⟩
              rw [events]
              exact found
          · rw [releases.held]
            exact fun ⟨_, outside⟩ => outside ready
  · rw [if_neg ready]
    refine placed.transfer ⟨?_, ?_, count⟩ ?_ ?_ ?_
    · intro key numbered
      rw [releases.queue, queue]
      apply or_iff_left
      rintro ⟨other, e, inside, _, made⟩
      have same : other = id := by
        rw [made] at numbered
        exact numbered
      rw [same] at inside
      exact ready inside
    · refine (releases.held id).trans ((and_iff_left ready).trans ?_)
      rw [held]
    · intro p member
      rw [releases.endpoints]
      exact known p member
    · intro e kept
      obtain ⟨endpoint, moment, late, found, keeps, timely, past⟩ := recorded e kept
      refine ⟨endpoint, moment, late, ?_, keeps, ?_, ?_⟩
      · rw [releases.endpoints]
        exact found
      · rw [releases.config]
        exact timely
      · rw [releases.now]
        exact past
    · -- A held event that stays has a path that is still not clear.
      intro e found status _ _
      rw [found] at placed
      obtain ⟨_, _, place⟩ := placed
      rw [status] at place
      have stays : resumed.pathIsClear id = false := by
        rw [heldIff] at ready
        cases clear : resumed.pathIsClear id with
        | false => rfl
        | true => exact absurd ⟨place.2.1, clear⟩ ready
      rw [pathIsClear_eq (by rw [events]; exact found)] at stays
      unfold clear laneState at stays ⊢
      rw [releases.lanes, releases.endpoints]
      exact stays

theorem Valid.resumeEndpoint (valid : s.Valid) (p : EndpointId) :
    Does (resumeEndpoint p) s fun _ s' => s'.Valid ∧ Adds s s' := by
  unfold Simulator.resumeEndpoint
  rw [does_get_bind, does_check_bind]
  intro endpoint found
  rw [okOr_eq_ok] at found
  let resumed : Simulator := { s with endpoints := s.endpoints.insert p (endpoint.setState .active) }
  have keeps : ∀ e moment late, endpoint.Keeps e moment late →
      (endpoint.setState .active).Keeps e moment late := by
    intro e moment late kept
    cases e <;> exact kept
  have recorded : ∀ e, s.Recorded e → resumed.Recorded e := by
    rintro e ⟨holder, moment, late, there, kept, timely, past⟩
    by_cases here : p = e.destination
    · rw [← here, found] at there
      cases there
      refine ⟨endpoint.setState .active, moment, late, ?_, keeps e moment late kept, timely, past⟩
      rw [← here]
      exact OrderedMap.getElem?_insert_same _ _ _
    · refine ⟨holder, moment, late, ?_, kept, timely, past⟩
      exact (OrderedMap.getElem?_insert_other _ _ here).trans there
  have known : ∀ q, q ∈ s.endpoints → q ∈ resumed.endpoints := by
    intro q member
    exact mem_endpoints_insert.mpr (.inr member)
  obtain ⟨valid', releases⟩ := valid.releaseHeld resumed known recorded rfl rfl rfl
    (recordCount_setState found .active rfl) (ordered_setState valid found .active)
  rw [does_set]
  exact ⟨(alike_record _ _).valid valid',
    Adds.of_endpoint releases.config releases.now found releases.endpoints rfl rfl⟩

theorem Valid.resumeLane (valid : s.Valid) (lane : Lane) :
    (s.resumeLane lane).Valid ∧ Adds s (s.resumeLane lane) := by
  let resumed : Simulator := { s with lanes := s.lanes.insert lane .running }
  obtain ⟨valid', releases⟩ := valid.releaseHeld resumed (fun _ known => known)
    (fun _ recorded => recorded) rfl rfl rfl (fun _ => rfl) valid.ordered
  exact ⟨(alike_record _ _).valid valid',
    Adds.of_eq releases.config releases.now releases.endpoints⟩

/- Reordering. -/

theorem pendingKey_ok {key : QueueKey} (pending : s.pendingKey id = .ok key) :
    key ∈ s.queue ∧ key.event = id := by
  unfold pendingKey at pending
  simp only [bind_eq_ok, rejectIf_eq_ok, okOr_eq_ok] at pending
  obtain ⟨_, _, found⟩ := pending
  unfold EventQueue.find at found
  refine ⟨Std.ExtTreeSet.mem_toList.mp (List.mem_of_find?_eq_some found), ?_⟩
  simpa using List.find?_some found

/-- Moving a pending event changes its tick in the table and in its key alike. -/
theorem moveTo_eq {key : QueueKey} {target : Tick} (apart : key.deliverAt ≠ target)
    (found : s.events[key.event]? = some e) (named : e.id = key.event) :
    s.moveTo key target = (insertMade { s with queue := s.queue.erase key }
      (e.setDeliverAt target)).record (.eventReordered key.event key.deliverAt target) := by
  unfold moveTo
  rw [if_neg apart]
  dsimp only
  rw [found]
  dsimp only
  unfold insertMade
  rw [Event.id_setDeliverAt, Event.deliverAt_setDeliverAt, named]

theorem Valid.moveTo (valid : s.Valid) {key : QueueKey} (member : key ∈ s.queue) (target : Tick) :
    (s.moveTo key target).Valid := by
  by_cases here : key.deliverAt = target
  · have same : s.moveTo key target = s := if_pos here
    rw [same]
    exact valid
  · obtain ⟨e, found, status, named, known, _⟩ := valid.of_queued member
    rw [moveTo_eq here found named]
    refine (alike_record _ _).valid ((valid.take member).requeue ?_ ?_ ?_)
    · rw [Event.id_setDeliverAt, named]
    · rw [Event.destination_setDeliverAt]
      exact known
    · rw [Event.status_setDeliverAt, status]

/-- Moving a pending event leaves the network side alone. -/
theorem moveTo_network (s : Simulator) (key : QueueKey) (target : Tick) :
    (s.moveTo key target).config = s.config ∧ (s.moveTo key target).now = s.now ∧
      (s.moveTo key target).endpoints = s.endpoints := by
  unfold Simulator.moveTo
  split
  · exact ⟨rfl, rfl, rfl⟩
  · dsimp only
    split
    · exact ⟨rfl, rfl, rfl⟩
    · exact ⟨rfl, rfl, rfl⟩

theorem moveTo_adds (s : Simulator) (key : QueueKey) (target : Tick) :
    Adds s (s.moveTo key target) := by
  obtain ⟨config, now, endpoints⟩ := moveTo_network s key target
  exact Adds.of_eq config now endpoints

/-- Moving one key leaves every other key in the queue. -/
theorem moveTo_member {key other : QueueKey} {target : Tick} (apart : other ≠ key)
    (member : other ∈ s.queue) : other ∈ (s.moveTo key target).queue := by
  have erased : other ∈ s.queue.erase key := OrderedSet.mem_erase.mpr ⟨apart, member⟩
  unfold Simulator.moveTo
  split
  · exact member
  · dsimp only
    split
    · exact erased
    · exact OrderedSet.mem_insert.mpr (.inr erased)

theorem Valid.swapDeliveryTicks (valid : s.Valid) (left right : EventId) :
    Does (swapDeliveryTicks left right) s fun _ s' => s'.Valid ∧ Adds s s' := by
  unfold Simulator.swapDeliveryTicks
  rw [does_get_bind, does_check_bind]
  intro leftKey foundLeft
  rw [does_check_bind]
  intro rightKey foundRight
  rw [does_set]
  obtain ⟨config, now, endpoints⟩ := moveTo_network s leftKey rightKey.deliverAt
  obtain ⟨config', now', endpoints'⟩ := moveTo_network (s.moveTo leftKey rightKey.deliverAt)
    rightKey leftKey.deliverAt
  refine ⟨?_, Adds.of_eq (config'.trans config) (now'.trans now) (endpoints'.trans endpoints)⟩
  have moved := valid.moveTo (pendingKey_ok foundLeft).1 rightKey.deliverAt
  refine moved.moveTo ?_ leftKey.deliverAt
  by_cases same : rightKey = leftKey
  · -- An event swapped with itself does not move.
    have still : s.moveTo leftKey rightKey.deliverAt = s := if_pos (by rw [same])
    rw [still]
    exact (pendingKey_ok foundRight).1
  · exact moveTo_member same (pendingKey_ok foundRight).1

theorem Valid.moveBefore (valid : s.Valid) (event other : EventId) :
    Does (moveBefore event other) s fun _ s' => s'.Valid ∧ Adds s s' := by
  unfold Simulator.moveBefore
  rw [does_get_bind, does_check_bind]
  intro key found
  rw [does_check_bind]
  intro anchor _
  rw [does_set]
  exact ⟨valid.moveTo (pendingKey_ok found).1 _, moveTo_adds s key _⟩

theorem Valid.moveAfter (valid : s.Valid) (event other : EventId) :
    Does (moveAfter event other) s fun _ s' => s'.Valid ∧ Adds s s' := by
  unfold Simulator.moveAfter
  rw [does_get_bind, does_check_bind]
  intro key found
  rw [does_check_bind]
  intro anchor _
  rw [does_check_bind]
  intro target _
  rw [does_set]
  exact ⟨valid.moveTo (pendingKey_ok found).1 target, moveTo_adds s key target⟩

/- Every call. -/

/-- A run to a tick is its loop, then the rest of the way. -/
theorem runUntil_of_loop {target : Tick} {count : Unsigned 32} {middle last : Simulator}
    (forward : s.now ≤ target) (looped : runUntilFrom keccak256 target s.work 0 s = .ok count middle)
    (moved : advanceTo target middle = .ok () last) :
    runUntil keccak256 target s = .ok count last := by
  have allowed : rejectIf (target < s.now) (SimError.timeMovesBackwards s.now target) = .ok () := by
    rw [rejectIf_eq_ok]
    exact Nat.not_lt.mpr forward
  have unfolded : runUntil keccak256 target s = (do
      check (rejectIf (target < s.now) (SimError.timeMovesBackwards s.now target))
      let count ← runUntilFrom keccak256 target s.work 0
      advanceTo target
      return count : Update (Unsigned 32)) s := rfl
  rw [unfolded, allowed]
  change EStateM.bind (runUntilFrom keccak256 target s.work 0) _ s = _
  unfold EStateM.bind
  rw [looped]
  change EStateM.bind (advanceTo target) _ middle = _
  unfold EStateM.bind
  rw [moved]
  rfl

/-- A run to a tick that is not past ends there and never fails. -/
theorem Valid.runUntil_ok (valid : s.Valid) {target : Tick} (forward : s.now ≤ target) :
    ∃ count s', runUntil keccak256 target s = .ok count s' ∧ s'.Valid ∧ Delivers s s' ∧
      s'.now = target := by
  obtain ⟨count, middle, looped, valid', delivers, early⟩ :=
    Valid.runUntilFrom keccak256 s.work 0 s valid forward
  obtain ⟨last, moved, clock, _⟩ := advanceTo_ok early
  have advanced := valid'.advanceTo target
  unfold Does at advanced
  rw [moved] at advanced
  obtain ⟨valid'', delivers', _⟩ := advanced
  exact ⟨count, last, runUntil_of_loop keccak256 forward looped moved, valid'',
    delivers.trans delivers', clock⟩

theorem Valid.runUntil (valid : s.Valid) (target : Tick) :
    Does (runUntil keccak256 target) s fun _ s' => s'.Valid ∧ Adds s s' := by
  by_cases forward : s.now ≤ target
  · obtain ⟨count, s', result, valid', delivers, _⟩ := valid.runUntil_ok keccak256 forward
    exact Does.of_ok result ⟨valid', delivers.adds valid'⟩
  · unfold Simulator.runUntil
    rw [does_get_bind, does_check_bind]
    intro _ allowed
    rw [rejectIf_eq_ok] at allowed
    exact absurd (Nat.le_of_not_lt allowed) forward

theorem Valid.apply (valid : s.Valid) (operation : Operation) :
    Does (apply keccak256 operation) s fun _ s' => s'.Valid ∧ Adds s s' := by
  have delivering : ∀ {s' : Simulator}, s'.Valid ∧ Delivers s s' → s'.Valid ∧ Adds s s' := by
    rintro s' ⟨valid', delivers⟩
    exact ⟨valid', delivers.adds valid'⟩
  cases operation with
  | scheduleControl request => exact does_map.mpr (valid.scheduleControl keccak256 request)
  | scheduleAsset request => exact does_map.mpr (valid.scheduleAsset request)
  | addFault fault => exact valid.addFault fault
  | advanceBy ticks =>
      unfold Simulator.apply Simulator.advanceBy
      rw [does_get_bind, does_check_bind]
      intro target _
      refine (valid.advanceTo target).imp ?_
      rintro _ s' ⟨valid', delivers, _⟩
      exact delivering ⟨valid', delivers⟩
  | advanceTo tick =>
      refine (valid.advanceTo tick).imp ?_
      rintro _ s' ⟨valid', delivers, _⟩
      exact delivering ⟨valid', delivers⟩
  | deliverNext => exact does_modify.mpr (delivering (valid.deliverNext keccak256))
  | deliverReady => exact does_modify.mpr (delivering (valid.deliverReady keccak256))
  | runUntilIdle =>
      exact does_modify.mpr (delivering (Valid.runUntilIdleFrom keccak256 s.work 0 s valid))
  | runUntil tick => exact does_map.mpr (valid.runUntil keccak256 tick)
  | haltEndpoint p => exact valid.haltEndpoint p
  | resumeEndpoint p => exact valid.resumeEndpoint p
  | pauseLane lane => exact does_modify.mpr (valid.pauseLane lane)
  | resumeLane lane => exact does_modify.mpr (valid.resumeLane lane)
  | swapDeliveryTicks left right => exact valid.swapDeliveryTicks left right
  | moveBefore event other => exact valid.moveBefore event other
  | moveAfter event other => exact valid.moveAfter event other

theorem Valid.call (valid : s.Valid) (c : Call) :
    Does (call keccak256 c) s fun _ s' => s'.Valid ∧ Adds s s' := by
  cases c with
  | operation operation => exact valid.apply keccak256 operation
  | addEndpoint p => exact valid.addEndpoint p

end Simulator

end XchainSim
