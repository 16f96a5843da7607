import CrossChainVault.Simulator.Journal

set_option autoImplicit false

/- Every attempt and every call writes to the trace whatever it changes in the journal, so the trace
of every run rebuilds it. -/

namespace XchainSim

open Protocol (Bytes32)
open InPlace
open Result

namespace Simulator

variable {keccak256 : Bytes → Bytes32} {s s' : Simulator} {j : Journal} {id : EventId} {e : Event}
  {status : EventStatus}

/- One attempt. The table does not have the event in hand as it is now, but the trace tells it. -/

/-- The trace tells the state and, on top of it, the event in hand. -/
structure Shown (s : Simulator) (e : Event) (status : EventStatus) : Prop where
  tells : s.Tells (s.journal.note e.id (e.sighting.setStatus status))
  known : s.events[e.id]?.isSome

/-- A fault bends the event in hand. -/
theorem Shown.bend (shown : s.Shown e status) {e' : Event} (id : e'.id = e.id) (fault : FaultId)
    {effect : FaultEffect} {status' : EventStatus} (bent : e'.sighting.setStatus status' =
      Sighting.bend effect (e.sighting.setStatus status)) :
    (s.recordEffect fault e.id effect).Shown e' status' where
  tells := by
    have told := shown.tells.record (.faultApplied fault e.id effect)
    rw [Journal.read, Journal.change_note, ← bent, ← id] at told
    rw [← id]
    exact told
  known := by
    rw [id]
    exact shown.known

/-- A fault makes an event from the one in hand. -/
theorem Shown.spawn (shown : s.Shown e status) (taken : s.takeGeneratedId = some (id, s'))
    {made : Event} (named : made.id = id) {action : TraceAction} {f : Sighting → Sighting}
    (reads : ∀ (j : Journal) (tick : Tick), j.read tick action = j.spawn e.id id f)
    (copied : made.sighting = f (e.sighting.setStatus status)) :
    ((s'.insertMade made).record action).Shown e status := by
  unfold Simulator.takeGeneratedId at taken
  obtain ⟨⟨free, next⟩, found, same⟩ := Option.map_eq_some_iff.mp taken
  have absent := freeFrom_absent _ _ found
  cases same
  have apart : id ≠ e.id := by
    intro here
    have known := shown.known
    rw [← here, absent] at known
    cases known
  constructor
  · have told := shown.tells.record action
    rw [reads, Journal.spawn_note _ apart, ← copied] at told
    have wrote : ((insertMade { s with nextEvent := next } made).record action).journal =
        s.journal.note id made.sighting := by
      have table : ((insertMade { s with nextEvent := next } made).record action).events =
          s.events.insert id made := by
        rw [← named]
        rfl
      exact journal_insertEvent rfl table rfl rfl
    rw [wrote]
    exact told.of_eq rfl (Nat.le_refl _)
  · have table : ((insertMade { s with nextEvent := next } made).record action).events =
        s.events.insert made.id made := rfl
    rw [table, OrderedMap.getElem?_insert_other _ _ (named.trans_ne apart)]
    exact shown.known

theorem duplicateRest_shown (spacing : Unsigned 64) (rest : List Nat) : ∀ s : Simulator,
    s.Shown e status → (duplicateRest e spacing s rest).Shown e status := by
  induction rest with
  | nil =>
      intro s shown
      exact shown
  | cons index rest ih =>
      intro s shown
      unfold duplicateRest
      cases taken : s.takeGeneratedId with
      | none => exact shown
      | some found =>
          apply ih
          apply shown.spawn taken (Event.id_cloneForDuplicate e _ _) (fun _ _ => rfl)
          exact Event.sighting_cloneForDuplicate e _ _

theorem splitRest_shown (origin : AssetEvent) (spacing : Unsigned 64)
    (rest : List (AssetAmount × Nat)) : ∀ s : Simulator, s.Shown (.asset origin) status →
      (splitRest origin spacing s rest).Shown (.asset origin) status := by
  induction rest with
  | nil =>
      intro s shown
      exact shown
  | cons entry rest ih =>
      intro s shown
      unfold splitRest
      cases taken : s.takeGeneratedId with
      | none => exact shown
      | some found =>
          apply ih
          apply shown.spawn taken
          · rfl
          · exact fun _ _ => rfl
          · rfl

/-- A composition as the trace tells it: an event that a fault delayed is back in the queue. -/
def Composition.Shown (c : Composition) : Prop :=
  c.sim.Shown c.event (if c.delayed.isSome then .scheduled else .ready)

theorem corrupt_shown (shown : s.Shown e status) (fault : FaultId) (offset : Unsigned 64)
    (mask : UInt8) : (corrupt keccak256 s fault e offset mask).1.Shown
      (corrupt keccak256 s fault e offset mask).2 status := by
  unfold corrupt
  cases e with
  | asset moving => exact shown
  | control sent =>
      dsimp only
      split
      · exact shown
      · refine shown.bend ?_ fault ?_
        · rfl
        simp only [Event.sighting, Event.sentAs, Sighting.bend, Sighting.setStatus]
        cases sent.mutation <;> rfl

theorem split_shown (shown : s.Shown e status) (fault : FaultId) (pieces : List AssetAmount)
    (spacing : Unsigned 64) :
    (s.split fault e pieces spacing).1.Shown (s.split fault e pieces spacing).2 status := by
  unfold Simulator.split
  split
  · apply splitRest_shown
    refine shown.bend ?_ fault ?_
    · rfl
    · rfl
  · exact shown

/-- One fault pass. -/
theorem applyFault_shown {c : Composition} (shown : c.Shown) (fault : Fault) :
    (applyFault keccak256 c fault).Shown := by
  unfold Composition.Shown at shown ⊢
  unfold applyFault
  cases fault.action with
  | delay ticks => exact shown.bend rfl fault.id rfl
  | drop => exact shown.bend rfl fault.id rfl
  | duplicate copies spacing => exact duplicateRest_shown _ _ _ (shown.bend rfl fault.id rfl)
  | replaceDestination endpoint =>
      apply shown.bend (Event.id_setDestination _ _)
      rw [Event.sighting_setDestination]
      rfl
  | corruptByte offset mask => exact corrupt_shown shown fault.id offset mask
  | partialAmount amount =>
      apply shown.bend (Event.bends_setDelivered _ _ _).id
      rw [Event.sighting_setDelivered]
      rfl
  | overDeliver amount =>
      apply shown.bend (Event.bends_setDelivered _ _ _).id
      rw [Event.sighting_setDelivered]
      rfl
  | split pieces spacing => exact split_shown shown fault.id pieces spacing

theorem applyFaults_shown (batch : List Fault) : ∀ c : Composition, c.Shown →
    (batch.foldl (applyFault keccak256) c).Shown := by
  induction batch with
  | nil =>
      intro c shown
      exact shown
  | cons fault rest ih =>
      intro c shown
      exact ih _ (applyFault_shown shown fault)

/-- What the faults decide: a delay is told already, everything else is still to come. -/
theorem compose_shown (shown : s.Shown e .ready) :
    ∃ status, (compose keccak256 s e).2.1.Shown (compose keccak256 s e).2.2 status ∧
      ∀ target, (compose keccak256 s e).1 = .delayed target → status = .scheduled := by
  have deciding : (s.deciding e).Shown e .ready :=
    ⟨shown.tells.of_eq rfl (Nat.le_refl _), shown.known⟩
  rcases compose_cases keccak256 s e with ⟨_, result⟩ | ⟨_, fault, reason, _, result⟩ |
    ⟨_, _, result⟩
  · rw [result]
    refine ⟨.ready, shown, ?_⟩
    intro target delayed
    cases delayed
  · rw [result]
    refine ⟨.ready, ⟨deciding.tells.record _, shown.known⟩, ?_⟩
    intro target delayed
    cases delayed
  · rw [result]
    refine ⟨_, applyFaults_shown _ _ deciding, ?_⟩
    intro target delayed
    have late : (composition keccak256 s e).delayed.isSome = true := by
      unfold Composition.outcome at delayed
      split at delayed
      · cases delayed
      · rename_i waits
        rw [waits]
        rfl
      · cases delayed
    exact if_pos late

/-- The event in hand goes to the table as the trace tells it. -/
theorem Shown.close (shown : s.Shown e status) (trace : s'.trace = s.trace)
    (now : s'.now = s.now) (written : s'.journal = s.journal.note e.id
      (e.sighting.setStatus status)) : s'.Told := by
  unfold Told
  rw [written]
  apply shown.tells.of_eq trace
  rw [now]
  exact Nat.le_refl _

/-- The event in hand goes to the table with the status of its last record. -/
theorem Shown.write (shown : s.Shown e status) {last : EventStatus} {action : TraceAction}
    (reads : ∀ (j : Journal) (tick : Tick), j.read tick action =
      j.change e.id (Sighting.setStatus last)) (trace : s'.trace = (s.record action).trace)
    (now : s'.now = s.now) (events : s'.events = s.events.insert e.id (e.setStatus last))
    (lanes : s'.lanes = s.lanes) (endpoints : s'.endpoints = s.endpoints) : s'.Told := by
  have told := shown.tells.record action
  rw [reads, Journal.change_note, Sighting.setStatus_setStatus] at told
  unfold Told
  rw [journal_insertEvent now events lanes endpoints, Event.sighting_setStatus]
  apply told.of_eq trace
  rw [now]
  exact Nat.le_refl _

theorem Shown.finish (shown : s.Shown e status) {last : EventStatus} {action : TraceAction}
    (reads : ∀ (j : Journal) (tick : Tick), j.read tick action =
      j.change e.id (Sighting.setStatus last)) : (s.finish e last action).Told :=
  shown.write reads rfl rfl rfl rfl rfl

theorem Shown.block (shown : s.Shown e status) (reason : BlockReason) :
    (s.block e reason).Told := by
  have reads : ∀ (j : Journal) (tick : Tick),
      j.read tick (.deliveryBlocked e.id e.destination reason) =
        j.change e.id (Sighting.setStatus .blocked) := fun _ _ => rfl
  exact shown.write reads rfl rfl rfl rfl rfl

theorem Shown.handOver (shown : s.Shown e status) {endpoint : Endpoint}
    (found : s.endpoints[e.destination]? = some endpoint) (late : Bool) :
    (s.handOver e late).Told := by
  have told := shown.tells.record (.eventDelivered e.id e.destination e.subject late)
  rw [Journal.read, Journal.change_note, Sighting.setStatus_setStatus] at told
  unfold Simulator.handOver
  rw [changeEndpoint_some _ found]
  have received := journal_receive found e s.now late
  generalize written : ({ s with
    endpoints := s.endpoints.insert e.destination (endpoint.receive e s.now late) } :
      Simulator) = middle at received ⊢
  have wrote : (middle.finish e .delivered
      (.eventDelivered e.id e.destination e.subject late)).journal =
        middle.journal.note e.id (e.setStatus .delivered).sighting :=
    journal_insertEvent rfl rfl rfl rfl
  unfold Told
  rw [wrote, received, Event.sighting_setStatus]
  apply told.of_eq
  · rw [← written]
    rfl
  · rw [← written]
    exact Nat.le_refl _

theorem Shown.arrive (shown : s.Shown e status) : (s.arrive e).Told := by
  unfold Simulator.arrive
  by_cases paused : (s.laneState e.lane).isPaused = true
  · rw [if_pos paused]
    exact shown.block .lanePaused
  · rw [if_neg paused]
    split
    · exact shown.finish fun _ _ => rfl
    · rename_i endpoint found
      by_cases halted : endpoint.isHalted = true
      · rw [if_pos halted]
        exact shown.block .endpointHalted
      · rw [if_neg halted]
        split
        · exact shown.handOver found false
        · rename_i deadline _
          by_cases passed : deadline < s.now
          · rw [if_pos passed]
            split
            · exact shown.finish fun _ _ => rfl
            · exact shown.handOver found true
          · rw [if_neg passed]
            exact shown.handOver found false

theorem Shown.conclude (shown : s.Shown e status) {outcome : Outcome}
    (delayed : ∀ target, outcome = .delayed target → status = .scheduled) :
    (s.conclude e outcome).Told := by
  cases outcome with
  | rejected reason => exact shown.finish fun _ _ => rfl
  | dropped fault => exact shown.finish fun _ _ => rfl
  | proceed => exact shown.arrive
  | delayed target =>
      have waits := delayed target rfl
      subst waits
      have table : (s.insertMade ((e.setStatus .scheduled).setDeliverAt target)).events =
          s.events.insert e.id ((e.setStatus .scheduled).setDeliverAt target) := by
        have named : ((e.setStatus .scheduled).setDeliverAt target).id = e.id := by
          rw [Event.id_setDeliverAt, Event.id_setStatus]
        rw [← named]
        rfl
      have wrote : (s.insertMade ((e.setStatus .scheduled).setDeliverAt target)).journal =
          s.journal.note e.id ((e.setStatus .scheduled).setDeliverAt target).sighting :=
        journal_insertEvent rfl table rfl rfl
      rw [Event.sighting_setDeliverAt, Event.sighting_setStatus] at wrote
      exact shown.close rfl rfl wrote

/-- An attempt on an event of the table. -/
theorem Told.attempt (told : s.Told) (found : s.events[id]? = some e) (named : e.id = id)
    (waiting : e.status.isTerminal = false) : (s.attempt keccak256 id).Told := by
  unfold Simulator.attempt
  rw [found]
  dsimp only
  rw [waiting, if_neg Bool.false_ne_true]
  have shown : (s.record (.deliveryAttempted id (e.bumpAttempts.setStatus .ready).destination
      (e.bumpAttempts.setStatus .ready).attempts)).Shown (e.bumpAttempts.setStatus .ready)
        .ready := by
    constructor
    · have tells := Tells.record told (.deliveryAttempted id
        (e.bumpAttempts.setStatus .ready).destination (e.bumpAttempts.setStatus .ready).attempts)
      rw [Journal.read, Journal.change_known (journal_known found)] at tells
      rw [Event.id_setStatus, Event.id_bumpAttempts, named]
      have same : (e.bumpAttempts.setStatus .ready).sighting.setStatus .ready =
          { e.sighting with
            attempts := (e.bumpAttempts.setStatus .ready).attempts
            status := .ready } := by
        cases e <;> rfl
      rw [same]
      exact tells
    · rw [Event.id_setStatus, Event.id_bumpAttempts, named]
      exact Option.isSome_iff_exists.mpr ⟨e, found⟩
  obtain ⟨status, shown', delayed⟩ := compose_shown shown
  exact shown'.conclude delayed

theorem told_kept (keccak256 : Bytes → Bytes32) : Kept keccak256 Told where
  next s id s' valid told attempted := by
    unfold Simulator.deliverNext at attempted
    split at attempted
    · cases attempted
    · rename_i key next
      split at attempted
      · cases attempted
      · cases attempted
        obtain ⟨e, found, status, named, _⟩ := valid.of_queued (peek_member next)
        have taken : ({ s with queue := s.queue.erase key } : Simulator).Told :=
          Tells.of_eq told rfl (Nat.le_refl _)
        apply taken.attempt found named
        rw [status]
        rfl
  clock s target s' told advanced := by
    have moved : Does (advanceTo target) s fun _ s' => s'.Told := by
      unfold advanceTo
      rw [does_get_bind, does_check_bind]
      intro _ allowed
      rw [does_set]
      rw [rejectIf_eq_ok] at allowed
      split
      · exact told
      · exact Tells.read told target (.tickAdvanced s.now target) rfl
          (Nat.le_of_not_lt allowed) rfl
    unfold Does at moved
    rw [advanced] at moved
    exact moved

/- The calls. -/

/-- The held events are the blocked ones. -/
theorem Valid.held_iff (valid : s.Valid) (found : s.events[id]? = some e) :
    id ∈ s.held ↔ e.status = .blocked := by
  have placed := valid.placed id
  rw [found] at placed
  obtain ⟨_, _, place⟩ := placed
  cases status : e.status with
  | blocked =>
      rw [status] at place
      exact iff_of_true place.2.1 rfl
  | scheduled | delivered =>
      rw [status] at place
      exact iff_of_false place.2.1 (by decide)
  | ready =>
      rw [status] at place
      exact False.elim place
  | dropped | expired | rejectedBySimulator =>
      rw [status] at place
      exact iff_of_false place.unheld (by decide)

theorem Valid.destination_known (valid : s.Valid) (found : s.events[id]? = some e) :
    e.destination ∈ s.endpoints := by
  have placed := valid.placed id
  rw [found] at placed
  exact placed.2.1

/-- A path is clear for the reader of the journal exactly when it is clear. -/
theorem freed_journal (known : e.destination ∈ s.endpoints) :
    s.journal.freed e.sighting = (decide (e.status = .blocked) && s.clear e) := by
  rw [Std.ExtTreeMap.mem_iff_isSome_getElem?] at known
  obtain ⟨endpoint, found⟩ := Option.isSome_iff_exists.mp known
  have lane : e.sighting.subject.lane = e.lane := e.lane_sentAs
  have halted : s.journal.halted e.sighting.destination = endpoint.isHalted :=
    haltedAt_found found
  have paused : s.journal.paused e.lane = (s.laneState e.lane).isPaused := rfl
  unfold Journal.freed clear
  rw [lane, halted, paused, found, Option.any_some, Bool.and_assoc]
  rfl

theorem trace_release (s : Simulator) (id : EventId) : (s.release id).trace = s.trace := by
  cases found : s.events[id]? with
  | none => rw [release_none found]
  | some e => rw [release_some found]

theorem trace_releaseAll (ids : List EventId) : ∀ (released : Unsigned 32) (s : Simulator),
    (releaseAll released s ids).2.trace = s.trace := by
  induction ids with
  | nil =>
      intro released s
      rfl
  | cons id rest ih =>
      intro released s
      unfold releaseAll
      rw [ih]
      exact trace_release s id

/-- Whatever was resumed, the reader releases the same events. -/
theorem Valid.journal_releaseHeld (valid : s.Valid) {resumed : Simulator}
    (events : resumed.events = s.events) (held : resumed.held = s.held)
    (known : ∀ p, p ∈ s.endpoints → p ∈ resumed.endpoints) :
    resumed.releaseHeld.2.journal = resumed.journal.release := by
  have releases : Releases resumed resumed.releaseHeld.2
      (resumed.held.toList.filter resumed.pathIsClear) :=
    releaseAll_releases _ 0 resumed ((OrderedSet.nodup_toList resumed.held).filter _)
  have table : resumed.releaseHeld.2.journal.events = resumed.journal.release.events := by
    funext id
    rw [journal_events, releases.events, Journal.release]
    dsimp only
    rw [journal_events]
    cases found : resumed.events[id]? with
    | none =>
        rw [Option.map_none, ite_self]
        rfl
    | some e =>
        have before : s.events[id]? = some e := by
          rw [← events]
          exact found
        have listed : id ∈ resumed.held.toList.filter resumed.pathIsClear ↔
            resumed.journal.freed e.sighting = true := by
          rw [List.mem_filter, Std.ExtTreeSet.mem_toList, held, valid.held_iff before,
            pathIsClear_eq found, freed_journal (known _ (valid.destination_known before)),
            Bool.and_eq_true, decide_eq_true_iff]
        rw [Option.map_some, Option.map_some, Option.map_some]
        by_cases ready : id ∈ resumed.held.toList.filter resumed.pathIsClear
        · rw [if_pos ready, if_pos (listed.mp ready), Option.map_some, Event.released,
            Event.sighting_setDeliverAt, Event.sighting_setStatus]
        · rw [if_neg ready, if_neg fun freed => ready (listed.mpr freed), Option.map_some]
  have same : resumed.releaseHeld.2.journal = { resumed.journal with
      events := resumed.releaseHeld.2.journal.events } := by
    unfold journal laneState
    rw [releases.now, releases.lanes, releases.endpoints]
  rw [same, table]
  rfl

namespace Told

variable (told : s.Told)

include told

/-- The trace tells a change of the network that one record stands for. -/
theorem write {action : TraceAction} (trace : s'.trace = (s.record action).trace)
    (now : s'.now = s.now) (written : s'.journal = s.journal.read s.now action) : s'.Told := by
  unfold Simulator.Told
  rw [written]
  apply (Tells.record told action).of_eq trace
  rw [now]
  exact Nat.le_refl _

theorem of_eq (trace : s'.trace = s.trace) (now : s'.now = s.now)
    (events : s'.events = s.events) (lanes : s'.lanes = s.lanes)
    (endpoints : s'.endpoints = s.endpoints) : s'.Told := by
  unfold Simulator.Told
  rw [journal_of_eq now events lanes endpoints]
  apply Tells.of_eq told trace
  rw [now]
  exact Nat.le_refl _

theorem resume (valid : s.Valid) {resumed : Simulator} {action : TraceAction}
    (events : resumed.events = s.events) (held : resumed.held = s.held)
    (known : ∀ p, p ∈ s.endpoints → p ∈ resumed.endpoints) (trace : resumed.trace = s.trace)
    (now : resumed.now = s.now) (reads : s.journal.read s.now action = resumed.journal.release) :
    (resumed.releaseHeld.2.record action).Told := by
  have kept : resumed.releaseHeld.2.trace = s.trace := (trace_releaseAll _ 0 _).trans trace
  have clock : resumed.releaseHeld.2.now = s.now :=
    (releaseAll_releases _ 0 resumed ((OrderedSet.nodup_toList resumed.held).filter _)).now.trans
      now
  apply told.write
  · unfold record
    rw [kept, clock]
  · exact clock
  · rw [reads, ← valid.journal_releaseHeld events held known]
    rfl

theorem insertScheduled {middle : Simulator} (alike : Alike s middle)
    (trace : middle.trace = s.trace) {subject : Subject}
    (fresh : e.sighting = ⟨subject, e.source, e.destination, e.destination, Unsigned.zero, none,
      none, none, false, .scheduled⟩) : (middle.insertScheduled e subject).Told := by
  have kept : middle.Told := told.of_eq trace alike.now alike.events alike.lanes alike.endpoints
  refine kept.write rfl rfl ?_
  have wrote : (middle.insertScheduled e subject).journal = middle.journal.note e.id e.sighting :=
    journal_insertEvent rfl rfl rfl rfl
  rw [wrote, fresh]
  rfl

theorem scheduleControl (request : ControlRequest) :
    Does (scheduleControl keccak256 request) s fun _ s' => s'.Told := by
  unfold Simulator.scheduleControl
  rw [does_get_bind, does_check_bind]
  intro _ _
  rw [does_check_bind]
  intro _ _
  rw [does_check_bind]
  intro _ _
  refine (reserveEventId_does request.id).bind_ok ?_
  intro id middle reserved
  obtain ⟨alike, _, _, _, trace⟩ := reserved
  exact ⟨id, _, rfl, told.insertScheduled alike trace rfl⟩

theorem scheduleAsset (request : AssetRequest) :
    Does (scheduleAsset request) s fun _ s' => s'.Told := by
  unfold Simulator.scheduleAsset
  rw [does_get_bind, does_check_bind]
  intro _ _
  rw [does_check_bind]
  intro _ _
  rw [does_check_bind]
  intro _ _
  refine (reserveEventId_does request.id).bind_ok ?_
  intro id middle reserved
  obtain ⟨alike, _, _, _, trace⟩ := reserved
  exact ⟨id, _, rfl, told.insertScheduled alike trace rfl⟩

theorem haltEndpoint (p : EndpointId) :
    Does (haltEndpoint p) s fun _ s' => s'.Told := by
  unfold Simulator.haltEndpoint
  rw [does_get_bind, does_check_bind]
  intro endpoint found
  rw [okOr_eq_ok] at found
  rw [does_set]
  refine told.write rfl rfl ?_
  exact journal_setState found .halted

theorem resumeEndpoint (valid : s.Valid) (p : EndpointId) :
    Does (resumeEndpoint p) s fun _ s' => s'.Told := by
  unfold Simulator.resumeEndpoint
  rw [does_get_bind, does_check_bind]
  intro endpoint found
  rw [okOr_eq_ok] at found
  rw [does_set]
  refine told.resume valid rfl rfl ?_ rfl rfl ?_
  · intro q member
    exact mem_endpoints_insert.mpr (.inr member)
  · rw [journal_setState found .active]
    rfl

theorem resumeLane (valid : s.Valid) (lane : Lane) : (s.resumeLane lane).Told := by
  unfold Simulator.resumeLane
  refine told.resume valid rfl rfl ?_ rfl rfl ?_
  · intro p member
    exact member
  · rw [journal_setLane s lane .running]
    rfl

theorem pauseLane (lane : Lane) : (s.pauseLane lane).Told := by
  unfold Simulator.pauseLane
  refine told.write rfl rfl ?_
  exact journal_setLane s lane .paused

/-- A new endpoint runs and has empty inboxes, which is what the reader takes for granted. -/
theorem addEndpoint (p : EndpointId) : Does (addEndpoint p) s fun _ s' => s'.Told := by
  unfold Simulator.addEndpoint
  rw [does_get_bind, does_check_bind]
  intro _ absent
  rw [does_set]
  rw [rejectIf_eq_ok, Std.ExtTreeMap.contains_eq_isSome_getElem?] at absent
  have unknown : s.endpoints[p]? = none := by simpa using absent
  have halted : haltedAt (s.endpoints.insert p (Endpoint.new p)) = haltedAt s.endpoints := by
    have runs : (Endpoint.new p).isHalted = haltedAt s.endpoints p := by
      rw [haltedAt, unknown]
      rfl
    rw [haltedAt_insert, runs, Function.update_eq_self]
  have inboxes : receiptsAt (s.endpoints.insert p (Endpoint.new p)) = receiptsAt s.endpoints := by
    have empty : (Endpoint.new p).receipts = receiptsAt s.endpoints p := by
      funext lane
      rw [receiptsAt, unknown]
      cases lane <;> rfl
    rw [receiptsAt_insert, empty, Function.update_eq_self]
  have same : ({ s with endpoints := s.endpoints.insert p (Endpoint.new p) } : Simulator).journal =
      s.journal := by
    unfold journal laneState
    rw [halted, inboxes]
  unfold Simulator.Told
  rw [same]
  exact Tells.of_eq told rfl (Nat.le_refl _)

theorem moveTo (key : QueueKey) (target : Tick) : (s.moveTo key target).Told := by
  unfold Simulator.moveTo
  split
  · exact told
  · dsimp only
    split
    · exact told.of_eq rfl rfl rfl rfl rfl
    · rename_i e found
      refine told.write rfl rfl ?_
      have wrote : (record { s with
          events := s.events.insert key.event (e.setDeliverAt target)
          queue := (s.queue.erase key).insert
            (QueueKey.new target (e.setDeliverAt target).lane key.event) }
          (.eventReordered key.event key.deliverAt target)).journal =
          s.journal.note key.event (e.setDeliverAt target).sighting :=
        journal_insertEvent rfl rfl rfl rfl
      refine wrote.trans ?_
      rw [Event.sighting_setDeliverAt, Journal.note_known (journal_known found)]
      rfl

theorem apply (valid : s.Valid) (operation : Operation) :
    Does (apply keccak256 operation) s fun _ s' => s'.Told := by
  have kept := told_kept keccak256
  cases operation with
  | scheduleControl request => exact does_map.mpr (told.scheduleControl request)
  | scheduleAsset request => exact does_map.mpr (told.scheduleAsset request)
  | addFault fault =>
      unfold Simulator.apply Simulator.addFault
      rw [does_get_bind, does_check_bind]
      intro _ _
      exact told.of_eq rfl rfl rfl rfl rfl
  | advanceBy ticks =>
      unfold Simulator.apply Simulator.advanceBy
      rw [does_get_bind, does_check_bind]
      intro target _
      exact kept.advanceTo valid told target
  | advanceTo tick => exact kept.advanceTo valid told tick
  | deliverNext => exact does_modify.mpr (kept.deliverNext valid told)
  | deliverReady => exact does_modify.mpr (kept.deliverReady valid told)
  | runUntilIdle => exact does_modify.mpr (kept.runUntilIdle valid told)
  | runUntil tick => exact does_map.mpr (kept.runUntil valid told tick)
  | haltEndpoint p => exact told.haltEndpoint p
  | resumeEndpoint p => exact told.resumeEndpoint valid p
  | pauseLane lane => exact does_modify.mpr (told.pauseLane lane)
  | resumeLane lane => exact does_modify.mpr (told.resumeLane valid lane)
  | swapDeliveryTicks left right =>
      unfold Simulator.apply Simulator.swapDeliveryTicks
      rw [does_get_bind, does_check_bind]
      intro leftKey _
      rw [does_check_bind]
      intro rightKey _
      exact (told.moveTo _ _).moveTo _ _
  | moveBefore event other =>
      unfold Simulator.apply Simulator.moveBefore
      rw [does_get_bind, does_check_bind]
      intro key _
      rw [does_check_bind]
      intro anchor _
      exact told.moveTo key _
  | moveAfter event other =>
      unfold Simulator.apply Simulator.moveAfter
      rw [does_get_bind, does_check_bind]
      intro key _
      rw [does_check_bind]
      intro anchor _
      rw [does_check_bind]
      intro target _
      exact told.moveTo key target

theorem call (valid : s.Valid) (c : Call) :
    Does (call keccak256 c) s fun _ s' => s'.Told := by
  cases c with
  | operation operation => exact told.apply valid operation
  | addEndpoint p => exact told.addEndpoint p

end Told

theorem withConfig_told {config : SimulatorConfig} {endpoints : List EndpointId}
    (built : withConfig config endpoints = .ok s) : s.Told := by
  have fresh := withConfig_fresh built
  obtain ⟨map, _, made⟩ := withConfig_ok built
  have halted : haltedAt s.endpoints = fun _ => false := by
    funext p
    unfold haltedAt
    cases found : s.endpoints[p]? with
    | none => rfl
    | some endpoint =>
        rw [fresh p endpoint found]
        rfl
  have inboxes : receiptsAt s.endpoints = fun _ _ => [] := by
    funext p lane
    unfold receiptsAt
    cases found : s.endpoints[p]? with
    | none => rfl
    | some endpoint =>
        rw [fresh p endpoint found]
        cases lane <;> rfl
  have lanes : ∀ lane, (s.laneState lane).isPaused = false := by
    intro lane
    rw [made]
    change ((((∅ : OrderedMap Lane LaneState).insert .control .running).insert .asset
      .running)[lane]?.getD .running).isPaused = false
    cases lane <;> decide
  have same : s.journal = Journal.start := by
    unfold journal Journal.start
    rw [halted, inboxes]
    simp only [lanes]
    rw [made]
    simp
  have empty : s.trace = [] := by rw [made]
  unfold Told
  rw [same]
  constructor
  · rw [empty]
    rfl
  · intro i record found
    rw [empty] at found
    cases found
  · rw [empty]
    exact List.Pairwise.nil
  · intro record member
    rw [empty] at member
    cases member

theorem Told.run (calls : List Call) : ∀ s : Simulator, s.Valid → s.Told →
    (s.run keccak256 calls).Told := by
  induction calls with
  | nil =>
      intro s _ told
      exact told
  | cons c rest ih =>
      intro s valid told
      have next := Valid.run keccak256 [c] s valid
      exact ih _ next (Does.after told (told.call valid c))

/-- The numbers are the positions for as long as these fit in 32 bits. -/
theorem Tells.contiguous_iff (tells : s.Tells j) :
    s.trace.indicesAreContiguous = true ↔ s.trace.length ≤ 2 ^ 32 := by
  unfold Trace.indicesAreContiguous
  rw [List.all_eq_true]
  constructor
  · intro contiguous
    by_contra long
    have inside : 2 ^ 32 < s.trace.length := Nat.lt_of_not_le long
    have found : s.trace[2 ^ 32]? = some s.trace[2 ^ 32] := List.getElem?_eq_getElem inside
    have placed := contiguous (s.trace[2 ^ 32], 2 ^ 32) (List.mem_zipIdx_iff_getElem?.mpr found)
    rw [decide_eq_true_iff] at placed
    exact Nat.lt_irrefl _ placed.1
  · intro short entry member
    have found : s.trace[entry.2]? = some entry.1 := List.mem_zipIdx_iff_getElem?.mp member
    have inside := (List.getElem?_eq_some_iff.mp found).1
    have fits : entry.2 < 2 ^ 32 := Nat.lt_of_lt_of_le inside short
    rw [decide_eq_true_iff, tells.numbered _ _ found, saturated, dif_pos fits]
    exact ⟨fits, rfl⟩

/-- The trace is the whole history. From a new network and after any calls, accepted or refused,
reading the trace alone rebuilds every event's route, edits, attempts and status, every stopped lane
and endpoint and every inbox; the records are in the order of time, and they pass the check of their
own numbers until there are more of them than 32 bits can number. -/
theorem trace_rebuilds (keccak256 : Bytes → Bytes32) {config : SimulatorConfig}
    {endpoints : List EndpointId} {start : Simulator}
    (built : withConfig config endpoints = .ok start) (calls : List Call) :
    Journal.replay (start.run keccak256 calls).trace = (start.run keccak256 calls).journal ∧
      ((start.run keccak256 calls).trace.Pairwise fun a b => a.tick ≤ b.tick) ∧
      (∀ record ∈ (start.run keccak256 calls).trace,
        record.tick ≤ (start.run keccak256 calls).now) ∧
      ((start.run keccak256 calls).trace.indicesAreContiguous = true ↔
        (start.run keccak256 calls).trace.length ≤ 2 ^ 32) := by
  have told : (start.run keccak256 calls).Told :=
    Told.run calls start (withConfig_valid built) (withConfig_told built)
  exact ⟨told.replay, told.ordered, told.past, told.contiguous_iff⟩

/-- A transfer is split and rerouted to an endpoint that is halted for a while, with copies. -/
def sampleHistory : List Call :=
  [.operation (.scheduleAsset ⟨none, 7, 1, 2, 100, 3, none⟩),
    .operation (.addFault ⟨1, .event 1, .replaceDestination 3⟩),
    .operation (.addFault ⟨2, .event 1, .split [60, 40] 1⟩),
    .operation (.addFault ⟨3, .event 1, .duplicate 1 0⟩),
    .operation (.haltEndpoint 3), .operation (.runUntil 5), .operation (.resumeEndpoint 3),
    .operation .runUntilIdle]

/-- What the reader finds in the inbox of the endpoint and about the piece. -/
theorem trace_rebuilds_history :
    ∃ start, withConfig sampleConfig [1, 2, 3] = .ok start ∧
      ((start.run sampleDigest sampleHistory).journal.inbox 3 .asset).map Receipt.event =
        [1, 2, 3] ∧
      Journal.replay (start.run sampleDigest sampleHistory).trace =
        (start.run sampleDigest sampleHistory).journal ∧
      ((start.run sampleDigest sampleHistory).trace.Pairwise fun a b => a.tick ≤ b.tick) ∧
      (∀ record ∈ (start.run sampleDigest sampleHistory).trace,
        record.tick ≤ (start.run sampleDigest sampleHistory).now) ∧
      ((start.run sampleDigest sampleHistory).trace.indicesAreContiguous = true ↔
        (start.run sampleDigest sampleHistory).trace.length ≤ 2 ^ 32) := by
  have passes : (withConfig sampleConfig [1, 2, 3]).toOption.any (fun start =>
      decide (((start.run sampleDigest sampleHistory).journal.inbox 3 .asset).map Receipt.event =
        [1, 2, 3])) = true := by
    decide +kernel
  obtain ⟨start, built, inbox⟩ := ok_of_any passes
  exact ⟨start, built, of_decide_eq_true inbox, trace_rebuilds sampleDigest built sampleHistory⟩

end Simulator

end XchainSim
