import CrossChainVault.Simulator.Delivery

set_option autoImplicit false

/- What a caller can ask the simulator to do: scheduling, faults, time, delivery, endpoint and lane
control, and reordering. -/

namespace XchainSim

open Protocol (Bytes32)
open InPlace (check)
open Result (rejectIf okOr)

namespace Simulator

/-- Builds a network from a list of endpoint identifiers. -/
def withConfig (config : SimulatorConfig) (endpoints : List EndpointId) :
    Except SimError Simulator := do
  rejectIf endpoints.isEmpty (.invalidConfiguration .noEndpoints)
  let map ← endpoints.foldlM
    (fun (map : OrderedMap EndpointId Endpoint) id => do
      rejectIf (map.contains id) (.duplicateEndpoint id)
      return map.insert id (Endpoint.new id)) ∅
  return {
    config
    now := 0
    endpoints := map
    events := ∅
    queue := ∅
    held := ∅
    lanes := ((∅ : OrderedMap Lane LaneState).insert .control .running).insert .asset .running
    plan := ∅
    resolved := ∅
    trace := []
    nextEvent := 1 }

def addEndpoint (id : EndpointId) : Update Unit := do
  let s ← get
  check (rejectIf (s.endpoints.contains id) (.duplicateEndpoint id))
  set { s with endpoints := s.endpoints.insert id (Endpoint.new id) }

/- Scheduling. -/

def requireEndpoint (s : Simulator) (id : EndpointId) : Except SimError Unit :=
  rejectIf (¬s.endpoints.contains id) (.unknownEndpoint id)

def checkRoute (s : Simulator) (source destination : EndpointId) : Except SimError Unit := do
  s.requireEndpoint source
  s.requireEndpoint destination
  rejectIf (source = destination) (.invalidConfiguration .sameEndpointRoute)

def checkDeliveryTick (s : Simulator) (tick : Tick) : Except SimError Unit :=
  rejectIf (tick < s.now) (.deliveryTickInPast s.now tick)

def reserveEventId (wanted : Option EventId) : Update EventId := do
  let s ← get
  let id := wanted.getD s.nextEvent
  check (rejectIf (s.events.contains id) (.duplicateEventId id))
  let next ← check (id.checkedAdd 1 .arithmeticOverflow)
  set { s with nextEvent := maxTick next s.nextEvent }
  return id

def insertScheduled (s : Simulator) (event : Event) (subject : Subject) : Simulator :=
  (s.record (.eventScheduled event.id event.lane event.source event.destination subject
    event.deliverAt)).insertMade event

def scheduleControl (keccak256 : Bytes → Bytes32) (request : ControlRequest) : Update EventId := do
  let s ← get
  check (s.checkRoute request.source request.destination)
  check (rejectIf request.bytes.isEmpty (.invalidConfiguration .emptyMessage))
  check (s.checkDeliveryTick request.deliverAt)
  let id ← reserveEventId request.id
  let messageId := messageIdentity keccak256 request.bytes
  let event : Event := .control
    { id
      source := request.source
      destination := request.destination
      intendedDestination := request.destination
      bytes := request.bytes
      messageId
      deliverAt := request.deliverAt
      attempts := 0
      duplicateOf := none
      mutation := none
      expiresAt := request.expiresAt
      fromFault := false
      status := .scheduled }
  modify fun s => s.insertScheduled event (.message messageId)
  return id

def scheduleAsset (request : AssetRequest) : Update EventId := do
  let s ← get
  check (s.checkRoute request.source request.destination)
  check (rejectIf request.amount.isZero .zeroAssetAmount)
  check (s.checkDeliveryTick request.deliverAt)
  let id ← reserveEventId request.id
  let event : Event := .asset
    { id
      transfer := request.transfer
      source := request.source
      destination := request.destination
      intendedDestination := request.destination
      requested := request.amount
      delivered := request.amount
      deliverAt := request.deliverAt
      attempts := 0
      duplicateOf := none
      piece := none
      overDelivered := false
      timeoutAt := request.timeoutAt
      fromFault := false
      status := .scheduled }
  modify fun s => s.insertScheduled event (.transfer request.transfer)
  return id

/- Faults. -/

def targetLane (s : Simulator) (fault : Fault) : Except SimError Lane :=
  match fault.target with
  | .event id => okOr (s.events[id]?.map Event.lane) (.unknownEvent id)
  | other => okOr other.laneHint (.unknownFaultTarget fault.id)

def checkTargetEndpoints (s : Simulator) (fault : Fault) : Except SimError Unit := do
  match fault.target with
  | .route source destination _ =>
      s.requireEndpoint source
      s.requireEndpoint destination
  | _ => pure ()
  match fault.action with
  | .replaceDestination endpoint => s.requireEndpoint endpoint
  | _ => pure ()

def checkActionShape (action : FaultAction) : Except SimError Unit :=
  match action with
  | .duplicate copies _ => rejectIf copies.isZero (.invalidConfiguration .noDuplicateCopies)
  | .corruptByte _ mask => rejectIf (mask = 0) (.invalidConfiguration .noByteChange)
  | .partialAmount amount => rejectIf amount.isZero .zeroAssetAmount
  | .overDeliver amount => rejectIf amount.isZero .zeroAssetAmount
  | .split pieces _ => do
      rejectIf (pieces.isEmpty ∨ pieces.any Unsigned.isZero) .invalidPartialSplit
      discard (okOr (sumPieces pieces) .arithmeticOverflow)
  | _ => pure ()

/-- The amount an event was asked to move, zero for a message. -/
def requestedOf (event : Event) : Unsigned 128 := (event.asAsset.map AssetEvent.requested).getD 0

def checkAgainstNamedEvent (s : Simulator) (id : EventId) (action : FaultAction) :
    Except SimError Unit := do
  let event ← okOr s.events[id]? (.unknownEvent id)
  rejectIf event.status.isTerminal (.eventAlreadyTerminal id)
  rejectIf (s.resolved.contains id) (.faultsAlreadyBound id)
  match action with
  | .corruptByte offset _ =>
      let width := (event.asControl.map fun control => control.bytes.length).getD 0
      rejectIf (width ≤ offset.raw) (.invalidConfiguration .corruptOffsetOutOfRange)
  | .partialAmount amount =>
      rejectIf (requestedOf event < amount) (.partialSumExceedsRequest (requestedOf event) amount)
  | .split pieces _ =>
      let offered ← okOr (sumPieces pieces) .arithmeticOverflow
      rejectIf (requestedOf event < offered)
        (.partialSumExceedsRequest (requestedOf event) offered)
  | _ => pure ()

def sameGroupOnSameTarget (s : Simulator) (fault : Fault) : Option FaultId :=
  ((FaultPlan.iter s.plan).find? fun existing =>
    existing.target == fault.target && existing.action.group == fault.action.group).map Fault.id

/-- Everything `addFault` looks at before it writes. -/
def checkFault (s : Simulator) (fault : Fault) : Except SimError Unit := do
  rejectIf (s.plan.contains fault.id) (.duplicateFaultId fault.id)
  let lane ← s.targetLane fault
  rejectIf (fault.action.requiredLane.any fun required => required ≠ lane)
    (.invalidConfiguration .actionLaneMismatch)
  s.checkTargetEndpoints fault
  checkActionShape fault.action
  match fault.target with
  | .event id => s.checkAgainstNamedEvent id fault.action
  | _ => pure ()
  match s.sameGroupOnSameTarget fault with
  | some first => throw (.conflictingFaults first fault.id)
  | none => pure ()

/-- Registers a fault, refusing anything that cannot combine safely. -/
def addFault (fault : Fault) : Update Unit := do
  let s ← get
  check (s.checkFault fault)
  set { s with plan := s.plan.insert fault.id fault }

/- Endpoint and lane control. -/

def pathIsClear (s : Simulator) (id : EventId) : Bool :=
  match s.events[id]? with
  | none => false
  | some event =>
      !(s.laneState event.lane).isPaused &&
        (s.endpoints[event.destination]?).any fun endpoint => !endpoint.isHalted

/-- Puts one held event back into the queue. -/
def release (s : Simulator) (id : EventId) : Simulator :=
  let s := { s with held := s.held.erase id }
  match s.events[id]? with
  | none => s
  | some event =>
      let event := (event.setStatus .scheduled).setDeliverAt (maxTick s.now event.deliverAt)
      { s with
        events := s.events.insert id event
        queue := s.queue.insert (QueueKey.new event.deliverAt event.lane id) }

/-- Releases the events in order and counts those the table knows. -/
def releaseAll : Unsigned 32 → Simulator → List EventId → Unsigned 32 × Simulator
  | released, s, [] => (released, s)
  | released, s, id :: rest =>
      let count := if s.events.contains id then released.saturatingAdd 1 else released
      releaseAll count (s.release id) rest

/-- Puts every held event whose path is clear back into the queue. -/
def releaseHeld (s : Simulator) : Unsigned 32 × Simulator :=
  releaseAll 0 s (s.held.toList.filter s.pathIsClear)

def haltEndpoint (id : EndpointId) : Update Unit := do
  let s ← get
  let endpoint ← check (okOr s.endpoints[id]? (.unknownEndpoint id))
  set ({ s with endpoints := s.endpoints.insert id (endpoint.setState .halted) }.record
    (.endpointHalted id))

def resumeEndpoint (id : EndpointId) : Update Unit := do
  let s ← get
  let endpoint ← check (okOr s.endpoints[id]? (.unknownEndpoint id))
  let (released, s) :=
    { s with endpoints := s.endpoints.insert id (endpoint.setState .active) }.releaseHeld
  set (s.record (.endpointResumed id released))

def pauseLane (s : Simulator) (lane : Lane) : Simulator :=
  { s with lanes := s.lanes.insert lane .paused }.record (.lanePaused lane)

def resumeLane (s : Simulator) (lane : Lane) : Simulator :=
  let (released, s) := { s with lanes := s.lanes.insert lane .running }.releaseHeld
  s.record (.laneResumed lane released)

/- Reordering. -/

def pendingKey (s : Simulator) (event : EventId) : Except SimError QueueKey := do
  rejectIf (¬s.events.contains event) (.unknownEvent event)
  okOr (EventQueue.find s.queue event) (.eventAlreadyTerminal event)

def moveTo (s : Simulator) (key : QueueKey) (target : Tick) : Simulator :=
  if key.deliverAt = target then s
  else
    let s := { s with queue := s.queue.erase key }
    match s.events[key.event]? with
    | none => s
    | some event =>
        let event := event.setDeliverAt target
        { s with
          events := s.events.insert key.event event
          queue := s.queue.insert (QueueKey.new target event.lane key.event) }.record
            (.eventReordered key.event key.deliverAt target)

/-- Swaps the delivery ticks of two pending events. -/
def swapDeliveryTicks (left right : EventId) : Update Unit := do
  let s ← get
  let leftKey ← check (s.pendingKey left)
  let rightKey ← check (s.pendingKey right)
  set ((s.moveTo leftKey rightKey.deliverAt).moveTo rightKey leftKey.deliverAt)

/-- Moves one pending event one tick ahead of another. -/
def moveBefore (event other : EventId) : Update Unit := do
  let s ← get
  let key ← check (s.pendingKey event)
  let anchor ← check (s.pendingKey other)
  set (s.moveTo key (maxTick (anchor.deliverAt.saturatingSub 1) s.now))

/-- Moves one pending event one tick behind another. -/
def moveAfter (event other : EventId) : Update Unit := do
  let s ← get
  let key ← check (s.pendingKey event)
  let anchor ← check (s.pendingKey other)
  let target ← check (anchor.deliverAt.checkedAdd 1 .arithmeticOverflow)
  set (s.moveTo key target)

end Simulator

/-- Something a caller can ask the simulator to do. -/
inductive Operation
  | scheduleControl (request : ControlRequest)
  | scheduleAsset (request : AssetRequest)
  | addFault (fault : Fault)
  | advanceBy (ticks : Unsigned 64)
  | advanceTo (tick : Tick)
  | deliverNext
  | deliverReady
  | runUntilIdle
  | runUntil (tick : Tick)
  | haltEndpoint (id : EndpointId)
  | resumeEndpoint (id : EndpointId)
  | pauseLane (lane : Lane)
  | resumeLane (lane : Lane)
  | swapDeliveryTicks (left right : EventId)
  | moveBefore (event other : EventId)
  | moveAfter (event other : EventId)
deriving DecidableEq

namespace Simulator

/-- Runs one step. -/
def apply (keccak256 : Bytes → Bytes32) : Operation → Update Unit
  | .scheduleControl request => (fun _ => ()) <$> scheduleControl keccak256 request
  | .scheduleAsset request => (fun _ => ()) <$> scheduleAsset request
  | .addFault fault => addFault fault
  | .advanceBy ticks => advanceBy ticks
  | .advanceTo tick => advanceTo tick
  | .deliverNext => modify fun s => (s.deliverNext keccak256).2
  | .deliverReady => modify fun s => (s.deliverReady keccak256).2
  | .runUntilIdle => modify fun s => (s.runUntilIdle keccak256).2
  | .runUntil tick => (fun _ => ()) <$> runUntil keccak256 tick
  | .haltEndpoint id => haltEndpoint id
  | .resumeEndpoint id => resumeEndpoint id
  | .pauseLane lane => modify fun s => s.pauseLane lane
  | .resumeLane lane => modify fun s => s.resumeLane lane
  | .swapDeliveryTicks left right => swapDeliveryTicks left right
  | .moveBefore event other => moveBefore event other
  | .moveAfter event other => moveAfter event other

end Simulator

/-- One call of a run: a step, or a new endpoint. -/
inductive Call
  | operation (operation : Operation)
  | addEndpoint (id : EndpointId)
deriving DecidableEq

namespace Simulator

def call (keccak256 : Bytes → Bytes32) : Call → Update Unit
  | .operation operation => apply keccak256 operation
  | .addEndpoint id => addEndpoint id

/-- The state after a list of calls, accepted or refused. -/
def run (keccak256 : Bytes → Bytes32) (s : Simulator) (calls : List Call) : Simulator :=
  calls.foldl (fun s c => InPlace.after (call keccak256 c) s) s

end Simulator

end XchainSim
