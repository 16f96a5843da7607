import CrossChainVault.Base.InPlace
import CrossChainVault.Simulator.Compose

set_option autoImplicit false

/- Delivery attempts and the loops that drain the queue. A loop takes as many rounds as the pending
work allows, which is always enough for it to end by itself. -/

namespace XchainSim

open Protocol (Bytes32)
open InPlace (check)
open Result (rejectIf)

/-- A method that changes the simulator in place and may refuse. -/
abbrev Update (α : Type) := EStateM SimError Simulator α

/-- The record an endpoint keeps of a control event. -/
def ControlEvent.deliveredRecord (control : ControlEvent) (now : Tick) (late : Bool) :
    DeliveredControl :=
  { event := control.id
    source := control.source
    intendedDestination := control.intendedDestination
    bytes := control.bytes
    messageId := control.messageId
    deliveredAt := now
    duplicateOf := control.duplicateOf
    mutation := control.mutation
    afterDeadline := late }

/-- The record an endpoint keeps of an asset event. -/
def AssetEvent.deliveredRecord (asset : AssetEvent) (now : Tick) (late : Bool) : DeliveredAsset :=
  { event := asset.id
    transfer := asset.transfer
    source := asset.source
    intendedDestination := asset.intendedDestination
    requested := asset.requested
    delivered := asset.delivered
    deliveredAt := now
    duplicateOf := asset.duplicateOf
    piece := asset.piece
    overDelivered := asset.overDelivered
    afterTimeout := late }

/-- Pushes the record of an event to the inbox of its lane. -/
def Endpoint.receive (endpoint : Endpoint) (event : Event) (now : Tick) (late : Bool) : Endpoint :=
  match event with
  | .control control => endpoint.pushControl (control.deliveredRecord now late)
  | .asset asset => endpoint.pushAsset (asset.deliveredRecord now late)

def Event.subject : Event → Subject
  | .control sent => .message sent.messageId
  | .asset moved => .transfer moved.transfer

/-- How many events an action can add. -/
def FaultAction.fanout : FaultAction → Nat
  | duplicate copies _ => copies.raw
  | split pieces _ => pieces.length
  | _ => 0

namespace Simulator

/-- The endpoints after a change of one of them, if it is registered. -/
def changeEndpoint (s : Simulator) (id : EndpointId) (change : Endpoint → Endpoint) : Simulator :=
  match s.endpoints[id]? with
  | none => s
  | some endpoint => { s with endpoints := s.endpoints.insert id (change endpoint) }

/-- Writes an event that reached a status it will keep. -/
def finish (s : Simulator) (event : Event) (status : EventStatus) (action : TraceAction) :
    Simulator :=
  { s with events := s.events.insert event.id (event.setStatus status) }.record action

def block (s : Simulator) (event : Event) (reason : BlockReason) : Simulator :=
  { s with
    events := s.events.insert event.id (event.setStatus .blocked)
    held := s.held.insert event.id }.record (.deliveryBlocked event.id event.destination reason)

def handOver (s : Simulator) (event : Event) (late : Bool) : Simulator :=
  (s.changeEndpoint event.destination fun endpoint => endpoint.receive event s.now late).finish
    event .delivered (.eventDelivered event.id event.destination event.subject late)

/-- The end of an attempt that no fault stopped: the path, then the deadline. -/
def arrive (s : Simulator) (event : Event) : Simulator :=
  if (s.laneState event.lane).isPaused then s.block event .lanePaused
  else match s.endpoints[event.destination]? with
    | none => s.finish event .rejectedBySimulator (.eventRejected event.id .unknownEndpoint)
    | some endpoint =>
        if endpoint.isHalted then s.block event .endpointHalted
        else match event.deadline with
          | none => s.handOver event false
          | some deadline =>
              if deadline < s.now then
                match s.config.policy event.lane with
                | .expire => s.finish event .expired (.eventExpired event.id deadline)
                | .deliverWithMarker => s.handOver event true
              else s.handOver event false

/-- What follows the decision of the fault passes. -/
def conclude (s : Simulator) (event : Event) : Outcome → Simulator
  | .rejected reason => s.finish event .rejectedBySimulator (.eventRejected event.id reason)
  | .dropped fault => s.finish event .dropped (.eventDropped event.id (some fault))
  | .delayed target => s.insertMade ((event.setStatus .scheduled).setDeliverAt target)
  | .proceed => s.arrive event

def attempt (keccak256 : Bytes → Bytes32) (s : Simulator) (id : EventId) : Simulator :=
  match s.events[id]? with
  | none => s
  | some event =>
      if event.status.isTerminal then s
      else
        let event := event.bumpAttempts.setStatus .ready
        let s := s.record (.deliveryAttempted id event.destination event.attempts)
        let (outcome, s, event) := compose keccak256 s event
        s.conclude event outcome

/-- Attempts the earliest event that is due, if any. -/
def deliverNext (keccak256 : Bytes → Bytes32) (s : Simulator) : Option EventId × Simulator :=
  match EventQueue.peek s.queue with
  | none => (none, s)
  | some key =>
      if s.now < key.deliverAt then (none, s)
      else (some key.event, attempt keccak256 { s with queue := s.queue.erase key } key.event)

/- The work that is left. An event whose faults are decided has one attempt to come; one whose
faults are not can come back once, and if the caller made it, every event it may add counts too. -/

/-- How many events the plan can add to one event. -/
def planFanout (s : Simulator) : Nat :=
  ((FaultPlan.iter s.plan).map fun fault => fault.action.fanout).sum

def weight (s : Simulator) (key : QueueKey) : Nat :=
  if key.event ∈ s.resolved then 1
  else if (s.events[key.event]?).any Event.madeByFault then 2
  else 2 + 2 * s.planFanout

def work (s : Simulator) : Nat := OrderedSet.sumOf s.queue s.weight

def deliverReadyFrom (keccak256 : Bytes → Bytes32) :
    Nat → Unsigned 32 → Simulator → Unsigned 32 × Simulator
  | 0, count, s => (count, s)
  | fuel + 1, count, s =>
      match s.deliverNext keccak256 with
      | (none, s) => (count, s)
      | (some _, s) => deliverReadyFrom keccak256 fuel (count.saturatingAdd 1) s

/-- Attempts every event that is due at the current tick. -/
def deliverReady (keccak256 : Bytes → Bytes32) (s : Simulator) : Unsigned 32 × Simulator :=
  deliverReadyFrom keccak256 s.work 0 s

def advanceTo (target : Tick) : Update Unit := do
  let s ← get
  check (rejectIf (target < s.now) (.timeMovesBackwards s.now target))
  set (if target = s.now then s
    else { s with
      now := target
      trace := Trace.push s.trace target (.tickAdvanced s.now target) })

def advanceBy (ticks : Unsigned 64) : Update Unit := do
  let s ← get
  let target ← check (s.now.checkedAdd ticks .arithmeticOverflow)
  advanceTo target

/-- The later of two ticks. -/
def maxTick (a b : Tick) : Tick := if a < b then b else a

def runUntilIdleFrom (keccak256 : Bytes → Bytes32) :
    Nat → Unsigned 32 → Simulator → Unsigned 32 × Simulator
  | 0, count, s => (count, s)
  | fuel + 1, count, s =>
      match EventQueue.nextTick s.queue with
      | none => (count, s)
      | some tick =>
          match advanceTo (maxTick tick s.now) s with
          | .error _ s => (count, s)
          | .ok _ s =>
              let (delivered, s) := s.deliverReady keccak256
              runUntilIdleFrom keccak256 fuel (count.saturatingAdd delivered) s

/-- Runs until the queue holds nothing, moving time to each due tick. -/
def runUntilIdle (keccak256 : Bytes → Bytes32) (s : Simulator) : Unsigned 32 × Simulator :=
  runUntilIdleFrom keccak256 s.work 0 s

def runUntilFrom (keccak256 : Bytes → Bytes32) (target : Tick) :
    Nat → Unsigned 32 → Update (Unsigned 32)
  | 0, count => return count
  | fuel + 1, count => do
      let s ← get
      match EventQueue.nextTick s.queue with
      | none => return count
      | some tick =>
          if target < tick then return count
          else
            advanceTo (maxTick tick s.now)
            let delivered ← modifyGet (deliverReady keccak256)
            runUntilFrom keccak256 target fuel (count.saturatingAdd delivered)

/-- Runs up to and including one tick, then leaves time there. -/
def runUntil (keccak256 : Bytes → Bytes32) (target : Tick) : Update (Unsigned 32) := do
  let s ← get
  check (rejectIf (target < s.now) (.timeMovesBackwards s.now target))
  let count ← runUntilFrom keccak256 target s.work 0
  advanceTo target
  return count

end Simulator

end XchainSim
