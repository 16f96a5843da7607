import CrossChainVault.Protocol.Codec
import CrossChainVault.Simulator.Trace

set_option autoImplicit false

/- The state of the simulated network: endpoints with their inboxes, the event table, the queue of
pending deliveries, the held events and the fault plan. -/

namespace XchainSim

/-- Why a fault or a schedule request does not describe a usable setup. -/
inductive ConfigProblem
  | emptyMessage
  | actionLaneMismatch
  | sameEndpointRoute
  | noDuplicateCopies
  | noEndpoints
  | corruptOffsetOutOfRange
  | noByteChange
deriving DecidableEq, Repr

/-- Everything a caller can do wrong, plus the limits the simulator enforces. -/
inductive SimError
  | duplicateEndpoint (endpoint : EndpointId)
  | unknownEndpoint (endpoint : EndpointId)
  | duplicateEventId (event : EventId)
  | unknownEvent (event : EventId)
  | duplicateFaultId (fault : FaultId)
  | unknownFaultTarget (fault : FaultId)
  | timeMovesBackwards (now requested : Tick)
  | deliveryTickInPast (now requested : Tick)
  | zeroAssetAmount
  | invalidPartialSplit
  | partialSumExceedsRequest (requested offered : Unsigned 128)
  | conflictingFaults (first second : FaultId)
  | endpointHalted (endpoint : EndpointId)
  | lanePaused (lane : Lane)
  | decode (error : Protocol.DecodeError)
  | arithmeticOverflow
  | invalidConfiguration (problem : ConfigProblem)
  | eventAlreadyTerminal (event : EventId)
  | faultsAlreadyBound (event : EventId)
deriving DecidableEq

inductive EndpointState
  | active
  | halted
deriving DecidableEq, Repr

def EndpointState.isHalted : EndpointState → Bool
  | active => false
  | halted => true

/-- One control message that reached an endpoint. -/
structure DeliveredControl where
  event : EventId
  source : EndpointId
  intendedDestination : EndpointId
  bytes : Bytes
  messageId : MessageId
  deliveredAt : Tick
  duplicateOf : Option EventId
  mutation : Option ByteMutation
  afterDeadline : Bool
deriving DecidableEq

/-- One asset movement that reached an endpoint. -/
structure DeliveredAsset where
  event : EventId
  transfer : TransferId
  source : EndpointId
  intendedDestination : EndpointId
  requested : AssetAmount
  delivered : AssetAmount
  deliveredAt : Tick
  duplicateOf : Option EventId
  piece : Option (Unsigned 16)
  overDelivered : Bool
  afterTimeout : Bool
deriving DecidableEq

/-- A mailbox pair plus a running state. -/
structure Endpoint where
  id : EndpointId
  state : EndpointState
  controlInbox : List DeliveredControl
  assetInbox : List DeliveredAsset
deriving DecidableEq

namespace Endpoint

def new (id : EndpointId) : Endpoint := ⟨id, .active, [], []⟩

def isHalted (endpoint : Endpoint) : Bool := endpoint.state.isHalted

def setState (endpoint : Endpoint) (state : EndpointState) : Endpoint := { endpoint with state }

def pushControl (endpoint : Endpoint) (delivered : DeliveredControl) : Endpoint :=
  { endpoint with controlInbox := endpoint.controlInbox ++ [delivered] }

def pushAsset (endpoint : Endpoint) (delivered : DeliveredAsset) : Endpoint :=
  { endpoint with assetInbox := endpoint.assetInbox ++ [delivered] }

end Endpoint

/-- Sort key of one pending delivery: tick first, then lane, then event id. -/
structure QueueKey where
  deliverAt : Tick
  lanePriority : Unsigned 8
  event : EventId
deriving DecidableEq

namespace QueueKey

def new (deliverAt : Tick) (lane : Lane) (event : EventId) : QueueKey :=
  ⟨deliverAt, lane.priority, event⟩

instance : Ord QueueKey :=
  ⟨compareLex (compareOn deliverAt) (compareLex (compareOn lanePriority) (compareOn event))⟩

instance : Std.TransOrd QueueKey :=
  inferInstanceAs (Std.TransCmp
    (compareLex (compareOn deliverAt) (compareLex (compareOn lanePriority) (compareOn event))))

instance : Std.LawfulEqOrd QueueKey where
  eq_of_compare {a b} same := by
    obtain ⟨first, rest⟩ := compareLex_eq_eq.mp same
    obtain ⟨second, third⟩ := compareLex_eq_eq.mp rest
    have ticks : compare a.deliverAt b.deliverAt = .eq := first
    have lanes : compare a.lanePriority b.lanePriority = .eq := second
    have ids : compare a.event b.event = .eq := third
    rw [Std.LawfulEqCmp.compare_eq_iff_eq] at ticks lanes ids
    cases a
    cases b
    cases ticks
    cases lanes
    cases ids
    rfl

end QueueKey

/-- A deterministic set of pending deliveries. -/
abbrev EventQueue := OrderedSet QueueKey

namespace EventQueue

/-- The entry that should be attempted next. -/
def peek (queue : EventQueue) : Option QueueKey := OrderedSet.first queue

/-- The key of one event, when it is still pending. -/
def find (queue : EventQueue) (event : EventId) : Option QueueKey :=
  queue.toList.find? fun key => key.event == event

/-- The earliest tick that still holds work. -/
def nextTick (queue : EventQueue) : Option Tick := (peek queue).map QueueKey.deliverAt

end EventQueue

/-- What to do with a delivery that arrives past its deadline. -/
inductive LatePolicy
  | deliverWithMarker
  | expire
deriving DecidableEq, Repr

/-- Per lane policy the caller picks before a run. -/
structure SimulatorConfig where
  controlLatePolicy : LatePolicy
  assetLatePolicy : LatePolicy
deriving DecidableEq

def SimulatorConfig.policy (config : SimulatorConfig) : Lane → LatePolicy
  | .control => config.controlLatePolicy
  | .asset => config.assetLatePolicy

/-- A control message the caller wants delivered. -/
structure ControlRequest where
  id : Option EventId
  source : EndpointId
  destination : EndpointId
  bytes : Bytes
  deliverAt : Tick
  expiresAt : Option Tick
deriving DecidableEq

/-- An asset movement the caller wants delivered. -/
structure AssetRequest where
  id : Option EventId
  transfer : TransferId
  source : EndpointId
  destination : EndpointId
  amount : AssetAmount
  deliverAt : Tick
  timeoutAt : Option Tick
deriving DecidableEq

/-- The whole simulated network. -/
structure Simulator where
  config : SimulatorConfig
  now : Tick
  endpoints : OrderedMap EndpointId Endpoint
  events : OrderedMap EventId Event
  queue : EventQueue
  held : OrderedSet EventId
  lanes : OrderedMap Lane LaneState
  plan : FaultPlan
  resolved : OrderedSet EventId
  trace : Trace
  nextEvent : Unsigned 64

end XchainSim
