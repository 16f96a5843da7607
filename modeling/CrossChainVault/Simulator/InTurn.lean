import CrossChainVault.Simulator.Calls

set_option autoImplicit false

/- Deliveries are never lost, doubled or made out of turn, whatever the calls and their order. -/

namespace XchainSim

open Protocol (Bytes32)
open InPlace
open Result

namespace Simulator

variable {s : Simulator} {id : EventId} {e : Event}

/-- What a new network is made of. -/
theorem withConfig_ok {config : SimulatorConfig} {endpoints : List EndpointId}
    (built : withConfig config endpoints = .ok s) :
    ∃ map, endpoints.foldlM (fun (map : OrderedMap EndpointId Endpoint) id => do
        rejectIf (map.contains id) (SimError.duplicateEndpoint id)
        return map.insert id (Endpoint.new id)) ∅ = .ok map ∧
      s = {
        config
        now := 0
        endpoints := map
        events := ∅
        queue := ∅
        held := ∅
        lanes := ((∅ : OrderedMap Lane LaneState).insert .control .running).insert .asset .running
        plan := ∅
        resolved := ∅
        trace := []
        nextEvent := 1 } := by
  unfold withConfig at built
  simp only [bind_eq_ok, rejectIf_eq_ok, pure_eq_ok] at built
  obtain ⟨_, _, map, folded, made⟩ := built
  exact ⟨map, folded, made.symm⟩

/-- The endpoints of a new network are all empty. -/
theorem withConfig_fresh {config : SimulatorConfig} {endpoints : List EndpointId}
    (built : withConfig config endpoints = .ok s) :
    ∀ (p : EndpointId) (endpoint : Endpoint), s.endpoints[p]? = some endpoint →
      endpoint = Endpoint.new p := by
  obtain ⟨map, folded, rfl⟩ := withConfig_ok built
  have empty : ∀ (ids : List EndpointId) (start final : OrderedMap EndpointId Endpoint),
      ids.foldlM (fun (map : OrderedMap EndpointId Endpoint) id => do
        rejectIf (map.contains id) (SimError.duplicateEndpoint id)
        return map.insert id (Endpoint.new id)) start = .ok final →
      (∀ (p : EndpointId) (endpoint : Endpoint), start[p]? = some endpoint →
        endpoint = Endpoint.new p) →
      ∀ (p : EndpointId) (endpoint : Endpoint), final[p]? = some endpoint →
        endpoint = Endpoint.new p := by
    intro ids
    induction ids with
    | nil =>
        intro start final same fresh
        rw [List.foldlM_nil, pure_eq_ok] at same
        rw [← same]
        exact fresh
    | cons id rest ih =>
        intro start final same fresh
        rw [List.foldlM_cons] at same
        simp only [bind_eq_ok, rejectIf_eq_ok, pure_eq_ok] at same
        obtain ⟨next, ⟨_, _, rfl⟩, later⟩ := same
        refine ih _ final later ?_
        intro p endpoint found
        rw [OrderedMap.getElem?_insert] at found
        split at found
        · rename_i here
          cases found
          rw [here]
        · exact fresh p endpoint found
  refine empty endpoints ∅ map folded ?_
  intro p endpoint found
  simp at found

/-- A new network has its endpoints and nothing else. -/
theorem withConfig_valid {config : SimulatorConfig} {endpoints : List EndpointId}
    (built : withConfig config endpoints = .ok s) : s.Valid := by
  have fresh := withConfig_fresh built
  obtain ⟨map, _, rfl⟩ := withConfig_ok built
  refine ⟨?_, ?_⟩
  · intro id
    have absent : (∅ : OrderedMap EventId Event)[id]? = none := by simp
    change Placed _ id (∅ : OrderedMap EventId Event)[id]?
    rw [absent]
    refine ⟨?_, ?_, ?_⟩
    · intro key member
      exact absurd member Std.ExtTreeSet.not_mem_empty
    · exact Std.ExtTreeSet.not_mem_empty
    · refine OrderedMap.sumOf_eq_zero _ _ ?_
      intro p endpoint found
      rw [fresh p endpoint found]
      exact Endpoint.recordCount_new p id
  · intro p endpoint found
    rw [fresh p endpoint found]
    exact Endpoint.ordered_new p _

theorem Valid.run (keccak256 : Bytes → Bytes32) (calls : List Call) :
    ∀ s : Simulator, s.Valid → (s.run keccak256 calls).Valid := by
  induction calls with
  | nil =>
      intro s valid
      exact valid
  | cons c rest ih =>
      intro s valid
      refine ih _ (Does.after valid ((valid.call keccak256 c).imp ?_))
      intro _ _ kept
      exact kept.1

/- Which record an inbox entry is. -/

theorem eq_of_countP_one {α : Type} {test : α → Bool} {entries : List α} {a b : α}
    (single : entries.countP test = 1) (inA : a ∈ entries) (inB : b ∈ entries)
    (passA : test a = true) (passB : test b = true) : a = b := by
  rw [List.countP_eq_length_filter, List.length_eq_one_iff] at single
  obtain ⟨only, filtered⟩ := single
  have first : a ∈ entries.filter test := List.mem_filter.mpr ⟨inA, passA⟩
  have second : b ∈ entries.filter test := List.mem_filter.mpr ⟨inB, passB⟩
  rw [filtered, List.mem_singleton] at first second
  rw [first, second]

/-- An endpoint that holds a record of an event is its destination, and the event was delivered. -/
theorem Valid.of_record (valid : s.Valid) {p : EndpointId} {endpoint : Endpoint}
    (found : s.endpoints[p]? = some endpoint) (holds : 0 < endpoint.recordCount id) :
    ∃ e, s.events[id]? = some e ∧ e.id = id ∧ e.status = .delivered ∧ e.destination = p ∧
      s.recordCount id = 1 ∧ s.Recorded e := by
  have covered := OrderedMap.le_sumOf s.endpoints (fun _ endpoint => endpoint.recordCount id) found
  have some : s.recordCount id ≠ 0 := by
    unfold recordCount
    omega
  have placed := valid.placed id
  cases known : s.events[id]? with
  | none =>
      rw [known] at placed
      exact absurd placed.unrecorded some
  | some e =>
      rw [known] at placed
      obtain ⟨named, _, place⟩ := placed
      cases status : e.status with
      | scheduled =>
          rw [status] at place
          exact absurd place.2.2 some
      | ready =>
          rw [status] at place
          exact False.elim place
      | blocked =>
          rw [status] at place
          exact absurd place.2.2.2 some
      | dropped | expired | rejectedBySimulator =>
          rw [status] at place
          exact absurd place.unrecorded some
      | delivered =>
          rw [status] at place
          obtain ⟨_, _, single, recorded⟩ := place
          refine ⟨e, rfl, named, status, ?_, single, recorded⟩
          obtain ⟨holder, moment, late, there, keeps, _, _⟩ := recorded
          by_cases same : e.destination = p
          · exact same
          · have both := OrderedMap.add_le_sumOf s.endpoints
              (fun _ endpoint => endpoint.recordCount id) found there same
            have other : 0 < holder.recordCount id := by
              unfold Endpoint.recordCount
              cases e with
              | control sent =>
                  have positive : 0 < holder.controlInbox.countP fun entry => entry.event = id :=
                    List.countP_pos_iff.mpr ⟨_, keeps, decide_eq_true named⟩
                  omega
              | asset moving =>
                  have positive : 0 < holder.assetInbox.countP fun entry => entry.event = id :=
                    List.countP_pos_iff.mpr ⟨_, keeps, decide_eq_true named⟩
                  omega
            unfold recordCount at single
            omega

theorem recordCount_pos_of_control {endpoint : Endpoint} {entry : DeliveredControl}
    (member : entry ∈ endpoint.controlInbox) :
    0 < endpoint.controlInbox.countP fun other => other.event = entry.event :=
  List.countP_pos_iff.mpr ⟨entry, member, decide_eq_true rfl⟩

theorem recordCount_pos_of_asset {endpoint : Endpoint} {entry : DeliveredAsset}
    (member : entry ∈ endpoint.assetInbox) :
    0 < endpoint.assetInbox.countP fun other => other.event = entry.event :=
  List.countP_pos_iff.mpr ⟨entry, member, decide_eq_true rfl⟩

/-- A control record is the one record of an event that was delivered there in time. -/
theorem Valid.control_record (valid : s.Valid) {p : EndpointId} {endpoint : Endpoint}
    (found : s.endpoints[p]? = some endpoint) {entry : DeliveredControl}
    (member : entry ∈ endpoint.controlInbox) :
    ∃ sent : ControlEvent, s.events[entry.event]? = some (.control sent) ∧
      sent.status = .delivered ∧ sent.destination = p ∧
      entry = sent.deliveredRecord entry.deliveredAt entry.afterDeadline ∧
      Timely s.config (.control sent) entry.deliveredAt entry.afterDeadline := by
  have listed := recordCount_pos_of_control member
  have holds : 0 < endpoint.recordCount entry.event := by
    unfold Endpoint.recordCount
    omega
  obtain ⟨e, known, named, status, destination, single, recorded⟩ := valid.of_record found holds
  obtain ⟨holder, moment, late, there, keeps, timely, _⟩ := recorded
  rw [destination, found] at there
  cases there
  have covered := OrderedMap.le_sumOf s.endpoints
    (fun _ endpoint => endpoint.recordCount entry.event) found
  have both : endpoint.recordCount entry.event =
      (endpoint.controlInbox.countP fun other => other.event = entry.event) +
        endpoint.assetInbox.countP fun other => other.event = entry.event := rfl
  unfold recordCount at single
  cases e with
  | asset moving =>
      have other := recordCount_pos_of_asset keeps
      have same : (moving.deliveredRecord moment late).event = entry.event := named
      rw [same] at other
      omega
  | control sent =>
      have only : endpoint.controlInbox.countP (fun other => other.event = entry.event) = 1 := by
        omega
      have same : entry = sent.deliveredRecord moment late :=
        eq_of_countP_one only member keeps (decide_eq_true rfl) (decide_eq_true named)
      refine ⟨sent, known, status, destination, ?_, ?_⟩
      · rw [same]
        rfl
      · rw [same]
        exact timely

/-- An asset record is the one record of an event that was delivered there in time. -/
theorem Valid.asset_record (valid : s.Valid) {p : EndpointId} {endpoint : Endpoint}
    (found : s.endpoints[p]? = some endpoint) {entry : DeliveredAsset}
    (member : entry ∈ endpoint.assetInbox) :
    ∃ moving : AssetEvent, s.events[entry.event]? = some (.asset moving) ∧
      moving.status = .delivered ∧ moving.destination = p ∧
      entry = moving.deliveredRecord entry.deliveredAt entry.afterTimeout ∧
      Timely s.config (.asset moving) entry.deliveredAt entry.afterTimeout := by
  have listed := recordCount_pos_of_asset member
  have holds : 0 < endpoint.recordCount entry.event := by
    unfold Endpoint.recordCount
    omega
  obtain ⟨e, known, named, status, destination, single, recorded⟩ := valid.of_record found holds
  obtain ⟨holder, moment, late, there, keeps, timely, _⟩ := recorded
  rw [destination, found] at there
  cases there
  have covered := OrderedMap.le_sumOf s.endpoints
    (fun _ endpoint => endpoint.recordCount entry.event) found
  have both : endpoint.recordCount entry.event =
      (endpoint.controlInbox.countP fun other => other.event = entry.event) +
        endpoint.assetInbox.countP fun other => other.event = entry.event := rfl
  unfold recordCount at single
  cases e with
  | control sent =>
      have other := recordCount_pos_of_control keeps
      have same : (sent.deliveredRecord moment late).event = entry.event := named
      rw [same] at other
      omega
  | asset moving =>
      have only : endpoint.assetInbox.countP (fun other => other.event = entry.event) = 1 := by
        omega
      have same : entry = moving.deliveredRecord moment late :=
        eq_of_countP_one only member keeps (decide_eq_true rfl) (decide_eq_true named)
      refine ⟨moving, known, status, destination, ?_, ?_⟩
      · rw [same]
        rfl
      · rw [same]
        exact timely

/-- What holds of the deliveries in every state. -/
structure InTurn (s : Simulator) : Prop where
  -- A scheduled event has exactly one queue key, made of its own tick and lane.
  scheduled : ∀ (id : EventId) (e : Event), s.events[id]? = some e → e.status = .scheduled →
    (∀ key, key ∈ s.queue ∧ key.event = id ↔ key = QueueKey.new e.deliverAt e.lane id) ∧ id ∉ s.held
  blocked : ∀ (id : EventId) (e : Event), s.events[id]? = some e → e.status = .blocked →
    id ∈ s.held ∧ (∀ key ∈ s.queue, key.event ≠ id) ∧
      ((s.laneState e.lane).isPaused = true ∨
        ∃ endpoint, s.endpoints[e.destination]? = some endpoint ∧ endpoint.isHalted = true)
  terminal : ∀ (id : EventId) (e : Event), s.events[id]? = some e → e.status.isTerminal = true →
    (∀ key ∈ s.queue, key.event ≠ id) ∧ id ∉ s.held
  settled : ∀ (id : EventId) (e : Event), s.events[id]? = some e → e.status ≠ .ready
  known : (∀ key ∈ s.queue, key.event ∈ s.events) ∧ ∀ id ∈ s.held, id ∈ s.events
  -- One record over all inboxes, at the current destination and with the event's own content.
  delivered : ∀ (id : EventId) (e : Event), s.events[id]? = some e → e.status = .delivered →
    s.recordCount id = 1 ∧ ∃ endpoint moment late, s.endpoints[e.destination]? = some endpoint ∧
      endpoint.Keeps e moment late
  undelivered : ∀ id : EventId, (∀ e, s.events[id]? = some e → e.status ≠ .delivered) →
    s.recordCount id = 0
  control : ∀ (p : EndpointId) (endpoint : Endpoint), s.endpoints[p]? = some endpoint →
    ∀ entry ∈ endpoint.controlInbox, ∃ sent : ControlEvent,
      s.events[entry.event]? = some (.control sent) ∧ sent.status = .delivered ∧
      sent.destination = p ∧
      entry = sent.deliveredRecord entry.deliveredAt entry.afterDeadline ∧
      Timely s.config (.control sent) entry.deliveredAt entry.afterDeadline
  asset : ∀ (p : EndpointId) (endpoint : Endpoint), s.endpoints[p]? = some endpoint →
    ∀ entry ∈ endpoint.assetInbox, ∃ moving : AssetEvent,
      s.events[entry.event]? = some (.asset moving) ∧ moving.status = .delivered ∧
      moving.destination = p ∧
      entry = moving.deliveredRecord entry.deliveredAt entry.afterTimeout ∧
      Timely s.config (.asset moving) entry.deliveredAt entry.afterTimeout
  ordered : ∀ (p : EndpointId) (endpoint : Endpoint), s.endpoints[p]? = some endpoint →
    endpoint.Ordered s.now

theorem Valid.inTurn (valid : s.Valid) : s.InTurn where
  scheduled id e found status := by
    have placed := valid.placed id
    rw [found] at placed
    obtain ⟨named, _, place⟩ := placed
    rw [status] at place
    refine ⟨?_, place.2.1⟩
    intro key
    rw [place.1 key, Event.key, named]
  blocked id e found status := by
    have placed := valid.placed id
    rw [found] at placed
    obtain ⟨_, known, place⟩ := placed
    rw [status] at place
    obtain ⟨unqueued, held, stopped, _⟩ := place
    refine ⟨held, unqueued, ?_⟩
    rw [Std.ExtTreeMap.mem_iff_isSome_getElem?, Option.isSome_iff_exists] at known
    obtain ⟨endpoint, there⟩ := known
    unfold clear at stopped
    rw [there, Option.any_some, Bool.and_eq_false_iff, Bool.not_eq_false', Bool.not_eq_false']
      at stopped
    rcases stopped with paused | halted
    · exact .inl paused
    · exact .inr ⟨endpoint, there, halted⟩
  terminal id e found closed := by
    have placed := valid.placed id
    rw [found] at placed
    obtain ⟨_, _, place⟩ := placed
    cases status : e.status with
    | delivered =>
        rw [status] at place
        exact ⟨place.1, place.2.1⟩
    | dropped | expired | rejectedBySimulator =>
        rw [status] at place
        exact ⟨place.unqueued, place.unheld⟩
    | scheduled | ready | blocked =>
        rw [status] at closed
        cases closed
  settled id e found ready := by
    have placed := valid.placed id
    rw [found] at placed
    obtain ⟨_, _, place⟩ := placed
    rw [ready] at place
    exact place
  known := by
    refine ⟨?_, ?_⟩
    · intro key member
      obtain ⟨e, found, _⟩ := valid.of_queued member
      rw [Std.ExtTreeMap.mem_iff_isSome_getElem?, found]
      rfl
    · intro id held
      have placed := valid.placed id
      rw [Std.ExtTreeMap.mem_iff_isSome_getElem?]
      cases found : s.events[id]? with
      | none =>
          rw [found] at placed
          exact absurd held placed.unheld
      | some e => rfl
  delivered id e found status := by
    have placed := valid.placed id
    rw [found] at placed
    obtain ⟨_, _, place⟩ := placed
    rw [status] at place
    obtain ⟨_, _, single, endpoint, moment, late, there, keeps, _, _⟩ := place
    exact ⟨single, endpoint, moment, late, there, keeps⟩
  undelivered id unsent := by
    have placed := valid.placed id
    cases found : s.events[id]? with
    | none =>
        rw [found] at placed
        exact placed.unrecorded
    | some e =>
        rw [found] at placed
        obtain ⟨_, _, place⟩ := placed
        cases status : e.status with
        | delivered => exact absurd status (unsent e found)
        | scheduled =>
            rw [status] at place
            exact place.2.2
        | ready =>
            rw [status] at place
            exact False.elim place
        | blocked =>
            rw [status] at place
            exact place.2.2.2
        | dropped | expired | rejectedBySimulator =>
            rw [status] at place
            exact place.unrecorded
  control _ _ found _ member := valid.control_record found member
  asset _ _ found _ member := valid.asset_record found member
  ordered := valid.ordered

theorem run_concat (keccak256 : Bytes → Bytes32) (s : Simulator) (calls : List Call) (next : Call) :
    s.run keccak256 (calls ++ [next]) =
      InPlace.after (call keccak256 next) (s.run keccak256 calls) := by
  unfold Simulator.run
  rw [List.foldl_append]
  rfl

theorem Adds.refl (s : Simulator) : Adds s s := Adds.of_eq rfl rfl rfl

/-- A checksum in place of the hash. -/
def sampleDigest (bytes : Bytes) : Bytes32 :=
  .ofNat bytes.fromBigEndian

def sampleConfig : SimulatorConfig := ⟨.deliverWithMarker, .expire⟩

/-- Two transfers and a message to one endpoint, the transfers delayed. -/
def sampleRequests : List Call :=
  [.operation (.addFault ⟨1, .lane .asset, .delay 2⟩),
    .operation (.scheduleAsset ⟨none, 7, 1, 2, 100, 3, none⟩),
    .operation (.scheduleAsset ⟨none, 8, 1, 2, 40, 3, some 4⟩),
    .operation (.scheduleControl ⟨none, 1, 2, [1, 2, 3], 4, none⟩)]

/-- The message waits for its halted destination, and one transfer comes too late. -/
def sampleHalt : List Call :=
  sampleRequests ++ [.operation (.haltEndpoint 2), .operation (.runUntil 4),
    .operation (.resumeEndpoint 2), .operation .runUntilIdle]

/-- How many records of each lane an endpoint has. -/
def inboxSizes (s : Simulator) (p : EndpointId) : Option (Nat × Nat) :=
  s.endpoints[p]?.map fun endpoint => (endpoint.controlInbox.length, endpoint.assetInbox.length)

/-- From a new network, after any calls, accepted or refused: every event is in exactly one place,
delivered events have exactly one record and no others have any, and each further call adds records
only to open paths, at their time and in order. -/
theorem deliveries_in_turn (keccak256 : Bytes → Bytes32) {config : SimulatorConfig}
    {endpoints : List EndpointId} {start : Simulator}
    (built : withConfig config endpoints = .ok start) (calls : List Call) :
    (start.run keccak256 calls).InTurn ∧
      ∀ next : Call, Adds (start.run keccak256 calls) (start.run keccak256 (calls ++ [next])) := by
  have valid := Valid.run keccak256 calls start (withConfig_valid built)
  refine ⟨valid.inTurn, ?_⟩
  intro next
  rw [run_concat]
  refine Does.after (Adds.refl _) ((valid.call keccak256 next).imp ?_)
  intro _ _ kept
  exact kept.2

theorem deliveries_in_turn_after_halt :
    ∃ start, withConfig sampleConfig [1, 2] = .ok start ∧
      (start.run sampleDigest sampleHalt).inboxSizes 2 = some (1, 1) ∧
      (start.run sampleDigest sampleHalt).InTurn ∧
      ∀ next : Call, Adds (start.run sampleDigest sampleHalt)
        (start.run sampleDigest (sampleHalt ++ [next])) := by
  have passes : (withConfig sampleConfig [1, 2]).toOption.any (fun start =>
      (start.run sampleDigest sampleHalt).inboxSizes 2 == some (1, 1)) = true := by
    decide +kernel
  obtain ⟨start, built, sizes⟩ := ok_of_any passes
  exact ⟨start, built, eq_of_beq sizes, deliveries_in_turn sampleDigest built sampleHalt⟩

/-- A refused step changes nothing: whatever it had written it wrote back. -/
theorem refused_step_changes_nothing (keccak256 : Bytes → Bytes32) {config : SimulatorConfig}
    {endpoints : List EndpointId} {start : Simulator}
    (built : withConfig config endpoints = .ok start) (calls : List Call) :
    (∀ (operation : Operation) (failure : SimError) (after : Simulator),
      apply keccak256 operation (start.run keccak256 calls) = .error failure after →
      after = start.run keccak256 calls) ∧
    (∀ target : Tick, (start.run keccak256 calls).now ≤ target →
      ∃ count after, runUntil keccak256 target (start.run keccak256 calls) = .ok count after) ∧
    ∀ (wanted : Option EventId) (failure : SimError) (after : Simulator),
      reserveEventId wanted (start.run keccak256 calls) = .error failure after →
      after.nextEvent = (start.run keccak256 calls).nextEvent := by
  have valid := Valid.run keccak256 calls start (withConfig_valid built)
  refine ⟨?_, ?_, ?_⟩
  · intro operation failure after refused
    have does := valid.apply keccak256 operation
    unfold Does at does
    rw [refused] at does
    exact does
  · intro target forward
    obtain ⟨count, after, result, _⟩ := valid.runUntil_ok keccak256 forward
    exact ⟨count, after, result⟩
  · intro wanted failure after refused
    have does := reserveEventId_does (s := start.run keccak256 calls) wanted
    unfold Does at does
    rw [refused] at does
    rw [does]

theorem refused_step_changes_nothing_when_late :
    ∃ start, withConfig sampleConfig [1, 2] = .ok start ∧
      (∃ failure after, apply sampleDigest (.runUntil 1) (start.run sampleDigest sampleHalt) =
        .error failure after) ∧
      (∀ (operation : Operation) (failure : SimError) (after : Simulator),
        apply sampleDigest operation (start.run sampleDigest sampleHalt) = .error failure after →
        after = start.run sampleDigest sampleHalt) := by
  have passes : (withConfig sampleConfig [1, 2]).toOption.any (fun start =>
      match apply sampleDigest (.runUntil 1) (start.run sampleDigest sampleHalt) with
      | .ok _ _ => false
      | .error _ _ => true) = true := by
    decide +kernel
  obtain ⟨start, built, refused⟩ := ok_of_any passes
  refine ⟨start, built, ?_, (refused_step_changes_nothing sampleDigest built sampleHalt).1⟩
  split at refused
  · cases refused
  · rename_i failure after result
    exact ⟨failure, after, result⟩

end Simulator

end XchainSim
