import CrossChainVault.Base.OrderedMap
import CrossChainVault.Base.OrderedSet
import CrossChainVault.Base.Bytes
import CrossChainVault.Protocol.Message

set_option autoImplicit false

/- Scheduled control messages and asset movements. A control event carries bytes the simulator
never interprets, and an asset event carries value with no link back to any message. -/

namespace XchainSim

open Protocol (Bytes32)

/-- A point on the simulated timeline. -/
abbrev Tick := Unsigned 64

abbrev EventId := Unsigned 64

abbrev EndpointId := Unsigned 32

abbrev MessageId := Bytes32

abbrev TransferId := Bytes32

abbrev AssetAmount := Unsigned 128

/-- Control messages and asset value move on separate lanes. -/
inductive Lane
  | control
  | asset
deriving DecidableEq, Repr

namespace Lane

/-- Breaks ties between lanes at the same tick. Control sorts first. -/
def priority : Lane → Unsigned 8
  | control => 0
  | asset => 1

theorem priority_injective {a b : Lane} (same : a.priority = b.priority) : a = b := by
  cases a <;> cases b <;> first | rfl | cases same

instance : Ord Lane := ⟨fun a b => compare a.priority b.priority⟩

instance : Std.TransOrd Lane where
  eq_swap {a b} := @Std.OrientedCmp.eq_swap (Unsigned 8) compare _ a.priority b.priority
  isLE_trans {a b c} :=
    @Std.TransCmp.isLE_trans (Unsigned 8) compare _ a.priority b.priority c.priority

instance : Std.LawfulEqOrd Lane where
  eq_of_compare same :=
    priority_injective (@Std.LawfulEqCmp.eq_of_compare (Unsigned 8) compare _ _ _ same)

end Lane

inductive LaneState
  | running
  | paused
deriving DecidableEq, Repr

def LaneState.isPaused : LaneState → Bool
  | running => false
  | paused => true

/-- Where an event sits in its life. `blocked` is not final: a blocked event waits for a resume and
then goes back into the queue. -/
inductive EventStatus
  | scheduled
  | ready
  | delivered
  | dropped
  | blocked
  | expired
  | rejectedBySimulator
deriving DecidableEq, Repr

/-- No later attempt can change this event. -/
def EventStatus.isTerminal : EventStatus → Bool
  | delivered | dropped | expired | rejectedBySimulator => true
  | scheduled | ready | blocked => false

/-- The single byte edit a corruption fault made. -/
structure ByteMutation where
  offset : Unsigned 64
  old : UInt8
  new : UInt8
  originalMessageId : MessageId
deriving DecidableEq

/-- A control message waiting to be delivered. -/
structure ControlEvent where
  id : EventId
  source : EndpointId
  destination : EndpointId
  -- Where the sender aimed before any reroute fault.
  intendedDestination : EndpointId
  bytes : Bytes
  messageId : MessageId
  deliverAt : Tick
  attempts : Unsigned 32
  duplicateOf : Option EventId
  mutation : Option ByteMutation
  expiresAt : Option Tick
  fromFault : Bool
  status : EventStatus
deriving DecidableEq

/-- An asset movement waiting to be delivered. -/
structure AssetEvent where
  id : EventId
  transfer : TransferId
  source : EndpointId
  destination : EndpointId
  intendedDestination : EndpointId
  requested : AssetAmount
  delivered : AssetAmount
  deliverAt : Tick
  attempts : Unsigned 32
  duplicateOf : Option EventId
  piece : Option (Unsigned 16)
  overDelivered : Bool
  timeoutAt : Option Tick
  fromFault : Bool
  status : EventStatus
deriving DecidableEq

/-- One entry of the event table, on either lane. -/
inductive Event
  | control (event : ControlEvent)
  | asset (event : AssetEvent)
deriving DecidableEq

namespace Event

def id : Event → EventId
  | control event => event.id
  | asset event => event.id

def lane : Event → Lane
  | control _ => .control
  | asset _ => .asset

def source : Event → EndpointId
  | control event => event.source
  | asset event => event.source

def destination : Event → EndpointId
  | control event => event.destination
  | asset event => event.destination

def intendedDestination : Event → EndpointId
  | control event => event.intendedDestination
  | asset event => event.intendedDestination

def deliverAt : Event → Tick
  | control event => event.deliverAt
  | asset event => event.deliverAt

def status : Event → EventStatus
  | control event => event.status
  | asset event => event.status

def attempts : Event → Unsigned 32
  | control event => event.attempts
  | asset event => event.attempts

/-- The simulator made this event from another one. -/
def madeByFault : Event → Bool
  | control event => event.fromFault
  | asset event => event.fromFault

/-- The deadline the caller attached, if any. -/
def deadline : Event → Option Tick
  | control event => event.expiresAt
  | asset event => event.timeoutAt

def messageId : Event → Option MessageId
  | control event => some event.messageId
  | asset _ => none

def transferId : Event → Option TransferId
  | control _ => none
  | asset event => some event.transfer

def asControl : Event → Option ControlEvent
  | control event => some event
  | asset _ => none

def asAsset : Event → Option AssetEvent
  | control _ => none
  | asset event => some event

def setStatus (status : EventStatus) : Event → Event
  | control event => control { event with status }
  | asset event => asset { event with status }

def setDeliverAt (tick : Tick) : Event → Event
  | control event => control { event with deliverAt := tick }
  | asset event => asset { event with deliverAt := tick }

def setDestination (endpoint : EndpointId) : Event → Event
  | control event => control { event with destination := endpoint }
  | asset event => asset { event with destination := endpoint }

def bumpAttempts : Event → Event
  | control event => control { event with attempts := event.attempts.saturatingAdd 1 }
  | asset event => asset { event with attempts := event.attempts.saturatingAdd 1 }

/- What the setters leave alone. -/

section

variable (event : Event)

@[simp] theorem id_setStatus (status : EventStatus) : (event.setStatus status).id = event.id := by
  cases event <;> rfl

@[simp] theorem lane_setStatus (status : EventStatus) :
    (event.setStatus status).lane = event.lane := by
  cases event <;> rfl

@[simp] theorem destination_setStatus (status : EventStatus) :
    (event.setStatus status).destination = event.destination := by
  cases event <;> rfl

@[simp] theorem deliverAt_setStatus (status : EventStatus) :
    (event.setStatus status).deliverAt = event.deliverAt := by
  cases event <;> rfl

@[simp] theorem status_setStatus (status : EventStatus) :
    (event.setStatus status).status = status := by
  cases event <;> rfl

@[simp] theorem deadline_setStatus (status : EventStatus) :
    (event.setStatus status).deadline = event.deadline := by
  cases event <;> rfl

@[simp] theorem id_setDeliverAt (tick : Tick) : (event.setDeliverAt tick).id = event.id := by
  cases event <;> rfl

@[simp] theorem lane_setDeliverAt (tick : Tick) :
    (event.setDeliverAt tick).lane = event.lane := by
  cases event <;> rfl

@[simp] theorem destination_setDeliverAt (tick : Tick) :
    (event.setDeliverAt tick).destination = event.destination := by
  cases event <;> rfl

@[simp] theorem deliverAt_setDeliverAt (tick : Tick) :
    (event.setDeliverAt tick).deliverAt = tick := by
  cases event <;> rfl

@[simp] theorem status_setDeliverAt (tick : Tick) :
    (event.setDeliverAt tick).status = event.status := by
  cases event <;> rfl

@[simp] theorem id_setDestination (endpoint : EndpointId) :
    (event.setDestination endpoint).id = event.id := by
  cases event <;> rfl

@[simp] theorem destination_setDestination (endpoint : EndpointId) :
    (event.setDestination endpoint).destination = endpoint := by
  cases event <;> rfl

@[simp] theorem id_bumpAttempts : event.bumpAttempts.id = event.id := by
  cases event <;> rfl

@[simp] theorem destination_bumpAttempts : event.bumpAttempts.destination = event.destination := by
  cases event <;> rfl

@[simp] theorem deliverAt_bumpAttempts : event.bumpAttempts.deliverAt = event.deliverAt := by
  cases event <;> rfl

end

end Event

end XchainSim
