import CrossChainVault.Simulator.Digest
import CrossChainVault.Simulator.Drain

set_option autoImplicit false

/- Every reachable state is truthful, so its digest identifies it. One event carries one edit at
most, and the bytes it wrote over say which message was there before. -/

namespace XchainSim

open Protocol (Bytes32)
open InPlace
open Result

/-- The edit an event carries, if any. -/
def Event.mutation : Event → Option ByteMutation
  | .control sent => sent.mutation
  | .asset _ => none

namespace Event.Honest

variable {keccak256 : Bytes → Bytes32} {e : Event}

theorem setStatus (honest : e.Honest keccak256) (status : EventStatus) :
    (e.setStatus status).Honest keccak256 := by
  cases e with
  | control sent => exact ⟨honest.identity, honest.original⟩
  | asset moving => exact trivial

theorem setDeliverAt (honest : e.Honest keccak256) (tick : Tick) :
    (e.setDeliverAt tick).Honest keccak256 := by
  cases e with
  | control sent => exact ⟨honest.identity, honest.original⟩
  | asset moving => exact trivial

theorem setDestination (honest : e.Honest keccak256) (endpoint : EndpointId) :
    (e.setDestination endpoint).Honest keccak256 := by
  cases e with
  | control sent => exact ⟨honest.identity, honest.original⟩
  | asset moving => exact trivial

theorem bumpAttempts (honest : e.Honest keccak256) : e.bumpAttempts.Honest keccak256 := by
  cases e with
  | control sent => exact ⟨honest.identity, honest.original⟩
  | asset moving => exact trivial

theorem setDelivered (honest : e.Honest keccak256) (amount : AssetAmount) (overDelivered : Bool) :
    (XchainSim.setDelivered e amount overDelivered).Honest keccak256 := by
  cases e with
  | control sent => exact honest
  | asset moving => exact trivial

theorem cloneForDuplicate (honest : e.Honest keccak256) (id : EventId) (deliverAt : Tick) :
    (XchainSim.cloneForDuplicate e id deliverAt).Honest keccak256 := by
  cases e with
  | control sent => exact ⟨honest.identity, honest.original⟩
  | asset moving => exact trivial

end Event.Honest

theorem mutation_setDestination (e : Event) (endpoint : EndpointId) :
    (e.setDestination endpoint).mutation = e.mutation := by
  cases e <;> rfl

namespace Simulator

variable {keccak256 : Bytes → Bytes32} {s s' : Simulator} {e : Event}

namespace Truthful

variable (truthful : s.Truthful keccak256)

include truthful

theorem of_eq (endpoints : s'.endpoints = s.endpoints) (events : s'.events = s.events)
    (plan : s'.plan = s.plan) : s'.Truthful keccak256 where
  endpoints := by
    rw [endpoints]
    exact truthful.endpoints
  events := by
    rw [events]
    exact truthful.events
  plan := by
    rw [plan]
    exact truthful.plan

theorem insertEvent {id : EventId} (named : e.id = id) (honest : e.Honest keccak256)
    (endpoints : s'.endpoints = s.endpoints) (events : s'.events = s.events.insert id e)
    (plan : s'.plan = s.plan) : s'.Truthful keccak256 where
  endpoints := by
    rw [endpoints]
    exact truthful.endpoints
  events other found := by
    rw [events]
    intro here
    rw [OrderedMap.getElem?_insert] at here
    split at here
    · rename_i same
      cases here
      exact ⟨named.trans same, honest⟩
    · exact truthful.events other found here
  plan := by
    rw [plan]
    exact truthful.plan

theorem insertEndpoint {p : EndpointId} {endpoint : Endpoint} (named : endpoint.id = p)
    (endpoints : s'.endpoints = s.endpoints.insert p endpoint)
    (events : s'.events = s.events) (plan : s'.plan = s.plan) : s'.Truthful keccak256 where
  endpoints q found := by
    rw [endpoints]
    intro here
    rw [OrderedMap.getElem?_insert] at here
    split at here
    · rename_i same
      cases here
      exact named.trans same
    · exact truthful.endpoints q found here
  events := by
    rw [events]
    exact truthful.events
  plan := by
    rw [plan]
    exact truthful.plan

theorem record (action : TraceAction) : (s.record action).Truthful keccak256 :=
  truthful.of_eq rfl rfl rfl

theorem insertMade (honest : e.Honest keccak256) : (s.insertMade e).Truthful keccak256 :=
  truthful.insertEvent rfl honest rfl rfl rfl

theorem finish (honest : e.Honest keccak256) (status : EventStatus) (action : TraceAction) :
    (s.finish e status action).Truthful keccak256 := by
  exact truthful.insertEvent (Event.id_setStatus e status) (honest.setStatus status) rfl rfl rfl

theorem takeGeneratedId {id : EventId} (taken : s.takeGeneratedId = some (id, s')) :
    s'.Truthful keccak256 := by
  unfold Simulator.takeGeneratedId at taken
  obtain ⟨⟨free, next⟩, _, same⟩ := Option.map_eq_some_iff.mp taken
  cases same
  exact truthful.of_eq rfl rfl rfl

end Truthful

/- One attempt. -/

theorem duplicateRest_truthful (honest : e.Honest keccak256) (spacing : Unsigned 64)
    (rest : List Nat) : ∀ s : Simulator, s.Truthful keccak256 →
      (duplicateRest e spacing s rest).Truthful keccak256 := by
  induction rest with
  | nil =>
      intro s truthful
      exact truthful
  | cons index rest ih =>
      intro s truthful
      unfold duplicateRest
      cases taken : s.takeGeneratedId with
      | none => exact truthful
      | some found =>
          exact ih _ (((truthful.takeGeneratedId taken).insertMade
            (honest.cloneForDuplicate _ _)).record _)

theorem splitRest_truthful (origin : AssetEvent) (spacing : Unsigned 64)
    (rest : List (AssetAmount × Nat)) : ∀ s : Simulator, s.Truthful keccak256 →
      (splitRest origin spacing s rest).Truthful keccak256 := by
  have honest : ∀ piece : AssetEvent, (Event.asset piece).Honest keccak256 := fun _ => trivial
  induction rest with
  | nil =>
      intro s truthful
      exact truthful
  | cons entry rest ih =>
      intro s truthful
      unfold splitRest
      cases taken : s.takeGeneratedId with
      | none => exact truthful
      | some found =>
          exact ih _ (((truthful.takeGeneratedId taken).insertMade (honest _)).record _)

/-- A first edit keeps a message honest: putting the old byte back restores what was identified. -/
theorem corrupt_truthful (truthful : s.Truthful keccak256) (honest : e.Honest keccak256)
    (unedited : e.mutation = none) (fault : FaultId) (offset : Unsigned 64) (mask : UInt8) :
    (corrupt keccak256 s fault e offset mask).1.Truthful keccak256 ∧
      (corrupt keccak256 s fault e offset mask).2.Honest keccak256 := by
  unfold corrupt
  cases e with
  | asset moving => exact ⟨truthful, trivial⟩
  | control sent =>
      dsimp only
      split
      · exact ⟨truthful, honest⟩
      · rename_i old found
        refine ⟨truthful.record _, rfl, ?_⟩
        intro mutation carried
        cases carried
        have before : sent.mutation = none := unedited
        have restored : (sent.bytes.set offset.raw (old ^^^ mask)).set offset.raw old =
            sent.bytes := by
          obtain ⟨inside, same⟩ := List.getElem?_eq_some_iff.mp found
          rw [List.set_set, ← same, List.set_getElem_self]
        dsimp only
        rw [before, restored]
        exact honest.identity

theorem split_truthful (truthful : s.Truthful keccak256) (honest : e.Honest keccak256)
    (fault : FaultId) (pieces : List AssetAmount) (spacing : Unsigned 64) :
    (s.split fault e pieces spacing).1.Truthful keccak256 ∧
      (s.split fault e pieces spacing).2.Honest keccak256 := by
  unfold Simulator.split
  split
  · exact ⟨splitRest_truthful _ _ _ _ (truthful.record _), trivial⟩
  · exact ⟨truthful, honest⟩

/-- One fault pass. An edit has to be the first one of its event. -/
theorem applyFault_truthful {c : Composition} {fault : Fault} (truthful : c.sim.Truthful keccak256)
    (honest : c.event.Honest keccak256)
    (unedited : ∀ offset mask, fault.action = .corruptByte offset mask → c.event.mutation = none) :
    (applyFault keccak256 c fault).sim.Truthful keccak256 ∧
      (applyFault keccak256 c fault).event.Honest keccak256 ∧
      (fault.action.group ≠ .content →
        (applyFault keccak256 c fault).event.mutation = c.event.mutation) := by
  unfold applyFault
  cases action : fault.action with
  | delay ticks | drop => exact ⟨truthful.record _, honest, fun _ => rfl⟩
  | duplicate copies spacing =>
      exact ⟨duplicateRest_truthful honest spacing _ _ (truthful.record _), honest, fun _ => rfl⟩
  | replaceDestination endpoint =>
      exact ⟨truthful.record _, honest.setDestination endpoint,
        fun _ => mutation_setDestination _ endpoint⟩
  | corruptByte offset mask =>
      obtain ⟨kept, honest'⟩ :=
        corrupt_truthful truthful honest (unedited offset mask action) fault.id offset mask
      exact ⟨kept, honest', fun other => absurd rfl other⟩
  | partialAmount amount =>
      exact ⟨truthful.record _, honest.setDelivered amount false, fun other => absurd rfl other⟩
  | overDeliver amount =>
      exact ⟨truthful.record _, honest.setDelivered amount true, fun other => absurd rfl other⟩
  | split pieces spacing =>
      obtain ⟨kept, honest'⟩ := split_truthful truthful honest fault.id pieces spacing
      exact ⟨kept, honest', fun other => absurd rfl other⟩

/-- The passes of a batch in which no two faults change the content. -/
theorem applyFaults_truthful (batch : List Fault) : ∀ c : Composition,
    c.sim.Truthful keccak256 → c.event.Honest keccak256 →
    (batch.Pairwise fun a b => a.action.group ≠ b.action.group) →
    (∀ fault ∈ batch, ∀ offset mask, fault.action = .corruptByte offset mask →
      c.event.mutation = none) →
    (batch.foldl (applyFault keccak256) c).sim.Truthful keccak256 ∧
      (batch.foldl (applyFault keccak256) c).event.Honest keccak256 := by
  induction batch with
  | nil =>
      intro c truthful honest _ _
      exact ⟨truthful, honest⟩
  | cons fault rest ih =>
      intro c truthful honest apart unedited
      rw [List.pairwise_cons] at apart
      rw [List.forall_mem_cons] at unedited
      obtain ⟨truthful', honest', same⟩ := applyFault_truthful truthful honest unedited.1
      refine ih _ truthful' honest' apart.2 ?_
      intro later member offset mask action
      have content : later.action.group = .content := by
        rw [action]
        rfl
      have other : fault.action.group ≠ .content := by
        rw [← content]
        exact apart.1 later member
      rw [same other]
      exact unedited.2 later member offset mask action

theorem checkAction_corruptByte {offset : Unsigned 64} {mask : UInt8}
    (passed : s.checkAction (.corruptByte offset mask) e = none) : e.mutation = none := by
  cases e with
  | asset moving => rfl
  | control sent =>
      unfold checkAction at passed
      dsimp only at passed
      split at passed
      · cases passed
      · split at passed
        · cases passed
        · rename_i fresh
          simpa [Event.mutation] using fresh

theorem compose_truthful (truthful : s.Truthful keccak256) (honest : e.Honest keccak256) :
    (compose keccak256 s e).2.1.Truthful keccak256 ∧
      (compose keccak256 s e).2.2.Honest keccak256 := by
  have deciding : (s.deciding e).Truthful keccak256 := truthful.of_eq rfl rfl rfl
  rcases compose_cases keccak256 s e with ⟨_, result⟩ | ⟨_, fault, reason, _, result⟩ |
    ⟨_, passed, result⟩
  · rw [result]
    exact ⟨truthful, honest⟩
  · rw [result]
    exact ⟨deciding.record _, honest⟩
  · rw [result]
    obtain ⟨members, apart⟩ := checkBatchFrom_none _ [] passed
    apply applyFaults_truthful _ _ deciding honest apart
    intro fault member offset mask action
    have fits := (members fault member).2
    rw [action] at fits
    exact checkAction_corruptByte fits

theorem conclude_truthful (truthful : s.Truthful keccak256) (honest : e.Honest keccak256)
    (outcome : Outcome) : (s.conclude e outcome).Truthful keccak256 := by
  rcases conclude_cases s e outcome with ⟨status, action, _, _, _, _, result⟩ | ⟨reason, result⟩ |
    ⟨late, result⟩ | ⟨target, _, result⟩
  · rw [result]
    exact truthful.finish honest status action
  · rw [result]
    exact (truthful.finish honest .blocked (.deliveryBlocked e.id e.destination reason)).of_eq
      rfl rfl rfl
  · rw [result]
    have changed : (s.changeEndpoint e.destination fun endpoint =>
        endpoint.receive e s.now late).Truthful keccak256 := by
      unfold changeEndpoint
      split
      · exact truthful
      · rename_i endpoint found
        have named := truthful.endpoints e.destination endpoint found
        have same : (endpoint.receive e s.now late).id = e.destination := by
          cases e <;> exact named
        exact truthful.insertEndpoint same rfl rfl rfl
    exact changed.finish honest .delivered _
  · rw [result]
    exact truthful.insertMade ((honest.setStatus .scheduled).setDeliverAt target)

theorem attempt_truthful (truthful : s.Truthful keccak256) (id : EventId) :
    (s.attempt keccak256 id).Truthful keccak256 := by
  unfold Simulator.attempt
  split
  · exact truthful
  · rename_i e found
    split
    · exact truthful
    · have ready := ((truthful.events id e found).2.bumpAttempts.setStatus .ready)
      obtain ⟨composed, honest⟩ := compose_truthful (truthful.record _) ready
      exact conclude_truthful composed honest _

theorem truthful_kept (keccak256 : Bytes → Bytes32) : Kept keccak256 (Truthful keccak256) where
  next s id s' _ truthful attempt := by
    unfold Simulator.deliverNext at attempt
    split at attempt
    · cases attempt
    · rename_i key _
      split at attempt
      · cases attempt
      · cases attempt
        have taken : ({ s with queue := s.queue.erase key } : Simulator).Truthful keccak256 :=
          truthful.of_eq rfl rfl rfl
        exact attempt_truthful taken key.event
  clock s target s' truthful advanced := by
    have moved : Does (advanceTo target) s fun _ s' => s'.Truthful keccak256 := by
      unfold advanceTo
      rw [does_get_bind, does_check_bind]
      intro _ _
      rw [does_set]
      split
      · exact truthful
      · exact truthful.of_eq rfl rfl rfl
    unfold Does at moved
    rw [advanced] at moved
    exact moved

/- The calls. -/

theorem release_truthful (truthful : s.Truthful keccak256) (id : EventId) :
    (s.release id).Truthful keccak256 := by
  cases found : s.events[id]? with
  | none =>
      rw [release_none found]
      exact truthful.of_eq rfl rfl rfl
  | some e =>
      rw [release_some found]
      obtain ⟨named, honest⟩ := truthful.events id e found
      have same : (e.released s.now).id = id := by
        rw [Event.released, Event.id_setDeliverAt, Event.id_setStatus]
        exact named
      have honest' : (e.released s.now).Honest keccak256 :=
        (honest.setStatus .scheduled).setDeliverAt _
      exact truthful.insertEvent same honest' rfl rfl rfl

theorem releaseAll_truthful (ids : List EventId) : ∀ (released : Unsigned 32) (s : Simulator),
    s.Truthful keccak256 → (releaseAll released s ids).2.Truthful keccak256 := by
  induction ids with
  | nil =>
      intro released s truthful
      exact truthful
  | cons id rest ih =>
      intro released s truthful
      exact ih _ (s.release id) (release_truthful truthful id)

theorem moveTo_truthful (truthful : s.Truthful keccak256) (key : QueueKey) (target : Tick) :
    (s.moveTo key target).Truthful keccak256 := by
  unfold moveTo
  split
  · exact truthful
  · dsimp only
    split
    · exact truthful.of_eq rfl rfl rfl
    · rename_i e found
      obtain ⟨named, honest⟩ := truthful.events key.event e found
      have same : (e.setDeliverAt target).id = key.event := by
        rw [Event.id_setDeliverAt]
        exact named
      exact truthful.insertEvent same (honest.setDeliverAt target) rfl rfl rfl

namespace Truthful

variable (truthful : s.Truthful keccak256)

include truthful

theorem insertScheduled {middle : Simulator} (alike : Alike s middle)
    (plan : middle.plan = s.plan) (honest : e.Honest keccak256) (subject : Subject) :
    (middle.insertScheduled e subject).Truthful keccak256 :=
  (truthful.of_eq alike.endpoints alike.events plan).insertEvent rfl honest rfl rfl rfl

theorem scheduleControl (request : ControlRequest) :
    Does (scheduleControl keccak256 request) s fun _ s' => s'.Truthful keccak256 := by
  unfold Simulator.scheduleControl
  rw [does_get_bind, does_check_bind]
  intro _ _
  rw [does_check_bind]
  intro _ _
  rw [does_check_bind]
  intro _ _
  refine (reserveEventId_does request.id).bind_ok ?_
  rintro id middle ⟨alike, _, plan, _⟩
  refine ⟨id, _, rfl, truthful.insertScheduled alike plan ?_ _⟩
  refine ⟨rfl, ?_⟩
  intro mutation carried
  cases carried

theorem scheduleAsset (request : AssetRequest) :
    Does (scheduleAsset request) s fun _ s' => s'.Truthful keccak256 := by
  unfold Simulator.scheduleAsset
  rw [does_get_bind, does_check_bind]
  intro _ _
  rw [does_check_bind]
  intro _ _
  rw [does_check_bind]
  intro _ _
  refine (reserveEventId_does request.id).bind_ok ?_
  rintro id middle ⟨alike, _, plan, _⟩
  refine ⟨id, _, rfl, truthful.insertScheduled alike plan ?_ _⟩
  exact trivial

theorem addFault (fault : Fault) :
    Does (addFault fault) s fun _ s' => s'.Truthful keccak256 := by
  unfold Simulator.addFault
  rw [does_get_bind, does_check_bind]
  intro _ _
  rw [does_set]
  refine ⟨truthful.endpoints, truthful.events, ?_⟩
  intro id other found
  rw [OrderedMap.getElem?_insert] at found
  split at found
  · rename_i named
    cases found
    exact named
  · exact truthful.plan id other found

theorem setState {p : EndpointId} {endpoint : Endpoint} (found : s.endpoints[p]? = some endpoint)
    (state : EndpointState) :
    ({ s with endpoints := s.endpoints.insert p (endpoint.setState state) } :
      Simulator).Truthful keccak256 := by
  have named : (endpoint.setState state).id = p := truthful.endpoints p endpoint found
  exact truthful.insertEndpoint named rfl rfl rfl

theorem apply (valid : s.Valid) (operation : Operation) :
    Does (apply keccak256 operation) s fun _ s' => s'.Truthful keccak256 := by
  have kept := truthful_kept keccak256
  cases operation with
  | scheduleControl request => exact does_map.mpr (truthful.scheduleControl request)
  | scheduleAsset request => exact does_map.mpr (truthful.scheduleAsset request)
  | addFault fault => exact truthful.addFault fault
  | advanceBy ticks =>
      unfold Simulator.apply Simulator.advanceBy
      rw [does_get_bind, does_check_bind]
      intro target _
      exact kept.advanceTo valid truthful target
  | advanceTo tick => exact kept.advanceTo valid truthful tick
  | deliverNext => exact does_modify.mpr (kept.deliverNext valid truthful)
  | deliverReady => exact does_modify.mpr (kept.deliverReady valid truthful)
  | runUntilIdle => exact does_modify.mpr (kept.runUntilIdle valid truthful)
  | runUntil tick => exact does_map.mpr (kept.runUntil valid truthful tick)
  | haltEndpoint p =>
      unfold Simulator.apply Simulator.haltEndpoint
      rw [does_get_bind, does_check_bind]
      intro endpoint found
      rw [okOr_eq_ok] at found
      exact (truthful.setState found .halted).record _
  | resumeEndpoint p =>
      unfold Simulator.apply Simulator.resumeEndpoint
      rw [does_get_bind, does_check_bind]
      intro endpoint found
      rw [okOr_eq_ok] at found
      exact (releaseAll_truthful _ 0 _ (truthful.setState found .active)).record _
  | pauseLane lane => exact does_modify.mpr (truthful.of_eq rfl rfl rfl)
  | resumeLane lane =>
      have resumed : ({ s with lanes := s.lanes.insert lane .running } : Simulator).Truthful
          keccak256 := truthful.of_eq rfl rfl rfl
      exact does_modify.mpr ((releaseAll_truthful _ 0 _ resumed).record _)
  | swapDeliveryTicks left right =>
      unfold Simulator.apply Simulator.swapDeliveryTicks
      rw [does_get_bind, does_check_bind]
      intro leftKey _
      rw [does_check_bind]
      intro rightKey _
      exact moveTo_truthful (moveTo_truthful truthful _ _) _ _
  | moveBefore event other =>
      unfold Simulator.apply Simulator.moveBefore
      rw [does_get_bind, does_check_bind]
      intro key _
      rw [does_check_bind]
      intro anchor _
      exact moveTo_truthful truthful key _
  | moveAfter event other =>
      unfold Simulator.apply Simulator.moveAfter
      rw [does_get_bind, does_check_bind]
      intro key _
      rw [does_check_bind]
      intro anchor _
      rw [does_check_bind]
      intro target _
      exact moveTo_truthful truthful key target

theorem call (valid : s.Valid) (c : Call) :
    Does (call keccak256 c) s fun _ s' => s'.Truthful keccak256 := by
  cases c with
  | operation operation => exact truthful.apply valid operation
  | addEndpoint p =>
      unfold Simulator.call Simulator.addEndpoint
      rw [does_get_bind, does_check_bind]
      intro _ _
      have named : (Endpoint.new p).id = p := rfl
      exact truthful.insertEndpoint named rfl rfl rfl

end Truthful

theorem withConfig_truthful {config : SimulatorConfig} {endpoints : List EndpointId}
    (built : withConfig config endpoints = .ok s) : s.Truthful keccak256 where
  endpoints p endpoint found := by
    rw [withConfig_fresh built p endpoint found]
    rfl
  events id e found := by
    obtain ⟨map, _, rfl⟩ := withConfig_ok built
    simp at found
  plan id fault found := by
    obtain ⟨map, _, rfl⟩ := withConfig_ok built
    simp at found

theorem Truthful.run (calls : List Call) : ∀ s : Simulator, s.Valid → s.Truthful keccak256 →
    (s.run keccak256 calls).Truthful keccak256 := by
  induction calls with
  | nil =>
      intro s _ truthful
      exact truthful
  | cons c rest ih =>
      intro s valid truthful
      have next := Valid.run keccak256 [c] s valid
      exact ih _ next (Does.after truthful (truthful.call valid c))

/-- A digest without collisions identifies the state. From any two new networks and after any calls,
as long as a count can hold every length, equal digests mean equal states up to the records of the
traces: nothing is lost in the canonical bytes, and the identity a message had before an edit, which
they leave out, is that of the bytes they hold. -/
theorem stateHash_identifies {H : Type} {digest : Bytes → H}
    (injective : Function.Injective digest) (keccak256 : Bytes → Bytes32)
    {config config' : SimulatorConfig} {endpoints endpoints' : List EndpointId}
    {start start' : Simulator} (built : withConfig config endpoints = .ok start)
    (built' : withConfig config' endpoints' = .ok start') (calls calls' : List Call)
    (short : (start.run keccak256 calls).Countable)
    (short' : (start'.run keccak256 calls').Countable)
    (same : (start.run keccak256 calls).stateHash digest =
      (start'.run keccak256 calls').stateHash digest) :
    Agrees (start.run keccak256 calls) (start'.run keccak256 calls') := by
  have truthful : (start.run keccak256 calls).Truthful keccak256 :=
    Truthful.run calls start (withConfig_valid built) (withConfig_truthful built)
  have truthful' : (start'.run keccak256 calls').Truthful keccak256 :=
    Truthful.run calls' start' (withConfig_valid built') (withConfig_truthful built')
  exact (encodeState_tells keccak256).alone ⟨short, truthful⟩ ⟨short', truthful'⟩ (injective same)

/-- A message is edited and delayed, and then a lane is closed for a moment. -/
def sampleEdited (lane : Lane) : List Call :=
  [.operation (.scheduleControl ⟨none, 1, 2, [10, 20, 30], 3, none⟩),
    .operation (.addFault ⟨1, .event 1, .corruptByte 1 255⟩),
    .operation (.addFault ⟨2, .event 1, .delay 4⟩),
    .operation (.runUntil 3), .operation (.pauseLane lane), .operation (.resumeLane lane)]

/-- Which lane was closed is told by the trace only. -/
theorem stateHash_identifies_edited :
    ∃ start, withConfig sampleConfig [1, 2] = .ok start ∧
      ((start.run sampleDigest (sampleEdited .control)).events[(1 : EventId)]?.bind
        Event.mutation).map ByteMutation.edit = some (1, 20, 235) ∧
      (start.run sampleDigest (sampleEdited .control)).trace ≠
        (start.run sampleDigest (sampleEdited .asset)).trace ∧
      Agrees (start.run sampleDigest (sampleEdited .control))
        (start.run sampleDigest (sampleEdited .asset)) := by
  have passes : (withConfig sampleConfig [1, 2]).toOption.any (fun start =>
      decide (((start.run sampleDigest (sampleEdited .control)).events[(1 : EventId)]?.bind
          Event.mutation).map ByteMutation.edit = some (1, 20, 235) ∧
        (start.run sampleDigest (sampleEdited .control)).trace ≠
          (start.run sampleDigest (sampleEdited .asset)).trace ∧
        (start.run sampleDigest (sampleEdited .control)).Countable ∧
        (start.run sampleDigest (sampleEdited .asset)).Countable ∧
        (start.run sampleDigest (sampleEdited .control)).stateHash id =
          (start.run sampleDigest (sampleEdited .asset)).stateHash id)) = true := by
    decide +kernel
  obtain ⟨start, built, facts⟩ := ok_of_any passes
  obtain ⟨edited, apart, short, short', same⟩ := of_decide_eq_true facts
  exact ⟨start, built, edited, apart, stateHash_identifies Function.injective_id sampleDigest built
    built (sampleEdited .control) (sampleEdited .asset) short short' same⟩

end Simulator

end XchainSim
