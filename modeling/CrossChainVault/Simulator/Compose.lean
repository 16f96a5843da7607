import CrossChainVault.Simulator.State

set_option autoImplicit false

/- How the declared faults bend one delivery attempt: the batch of faults in force, the checks on
it, and the passes that reroute, edit, fan out, delay or drop. -/

namespace XchainSim

open Protocol (Bytes32)

/-- The tick this much later, or the last one when the sum would wrap. -/
def Tick.later (now : Tick) (ticks : Unsigned 64) : Tick :=
  (now.checkedAdd ticks ()).toOption.getD Unsigned.max

/-- The distance of the event with this index from the one it was made from. -/
def spaced (spacing : Unsigned 64) (index : Unsigned 16) : Unsigned 64 :=
  saturated 64 (spacing.raw * index.raw)

def messageIdDomain : Bytes :=
  ['S', 'O', 'L', 'E', 'V', 'M', '_', 'M', 'E', 'S', 'S', 'A', 'G', 'E', '_', 'I', 'D', '_', 'V',
    '1'].map fun letter => UInt8.ofNat letter.toNat

/-- Canonical identifier of any byte string on the control lane. -/
def messageIdentity (keccak256 : Bytes → Bytes32) (bytes : Bytes) : MessageId :=
  keccak256 (messageIdDomain ++ bytes)

def sumPieces (pieces : List AssetAmount) : Option (Unsigned 128) :=
  pieces.foldlM (fun total piece => (total.checkedAdd piece ()).toOption) Unsigned.zero

def setDelivered (event : Event) (amount : AssetAmount) (overDelivered : Bool) : Event :=
  match event with
  | .control _ => event
  | .asset asset => .asset { asset with delivered := amount, overDelivered := overDelivered }

/-- An exact copy of one event under a new identifier. -/
def cloneForDuplicate (event : Event) (id : EventId) (deliverAt : Tick) : Event :=
  match event with
  | .control control =>
      .control
        { id
          source := control.source
          destination := control.destination
          intendedDestination := control.intendedDestination
          bytes := control.bytes
          messageId := control.messageId
          deliverAt
          attempts := Unsigned.zero
          duplicateOf := some control.id
          mutation := control.mutation
          expiresAt := control.expiresAt
          fromFault := true
          status := .scheduled }
  | .asset asset =>
      .asset
        { asset with
          id
          deliverAt
          attempts := Unsigned.zero
          duplicateOf := some asset.id
          fromFault := true
          status := .scheduled }

/-- What the fault passes decided about one attempt. -/
inductive Outcome
  | proceed
  | delayed (target : Tick)
  | dropped (fault : FaultId)
  | rejected (reason : RejectReason)

namespace Simulator

def laneState (s : Simulator) (lane : Lane) : LaneState := s.lanes[lane]?.getD .running

/-- Writes one trace record at the current tick. -/
def record (s : Simulator) (action : TraceAction) : Simulator :=
  { s with trace := Trace.push s.trace s.now action }

def recordEffect (s : Simulator) (fault : FaultId) (event : EventId) (effect : FaultEffect) :
    Simulator :=
  s.record (.faultApplied fault event effect)

/-- The first free number at or after the candidate, with the one that follows it. The search stops
where the numbers end, so `tries` never runs out before it does. -/
def freeFrom (events : OrderedMap EventId Event) : Nat → Unsigned 64 → Option (EventId × Unsigned 64)
  | 0, _ => none
  | tries + 1, candidate =>
      match candidate.checkedAdd 1 () with
      | .error _ => none
      | .ok next => if events.contains candidate then freeFrom events tries next
          else some (candidate, next)

def takeGeneratedId (s : Simulator) : Option (EventId × Simulator) :=
  (freeFrom s.events (2 ^ 64 - s.nextEvent.raw) s.nextEvent).map fun (id, next) =>
    (id, { s with nextEvent := next })

/-- Puts an event the simulator made into the table and the queue. -/
def insertMade (s : Simulator) (event : Event) : Simulator :=
  { s with
    events := s.events.insert event.id event
    queue := s.queue.insert (QueueKey.new event.deliverAt event.lane event.id) }

def corrupt (keccak256 : Bytes → Bytes32) (s : Simulator) (fault : FaultId) (event : Event)
    (offset : Unsigned 64) (mask : UInt8) : Simulator × Event :=
  match event with
  | .asset _ => (s, event)
  | .control control =>
      match control.bytes[offset.raw]? with
      | none => (s, event)
      | some old =>
          let new := old ^^^ mask
          let bytes := control.bytes.set offset.raw new
          let originalMessageId := match control.mutation with
            | some previous => previous.originalMessageId
            | none => control.messageId
          (s.recordEffect fault control.id (.corrupted offset old new),
            .control
              { control with
                bytes
                messageId := messageIdentity keccak256 bytes
                mutation := some ⟨offset, old, new, originalMessageId⟩ })

/-- The pieces after the first one, each under a new identifier. -/
def splitRest (origin : AssetEvent) (spacing : Unsigned 64) :
    Simulator → List (AssetAmount × Nat) → Simulator
  | s, [] => s
  | s, (amount, position) :: rest =>
      match s.takeGeneratedId with
      | none => s
      | some (id, s) =>
          let index := saturated 16 position
          let deliverAt := Tick.later s.now (spaced spacing index)
          let piece : AssetEvent :=
            { origin with
              id
              deliverAt
              attempts := Unsigned.zero
              delivered := amount
              piece := some index
              fromFault := true
              status := .scheduled }
          let s := s.insertMade (.asset piece)
          splitRest origin spacing
            (s.record (.partialDeliveryCreated origin.id id origin.transfer amount index)) rest

def split (s : Simulator) (fault : FaultId) (event : Event) (pieces : List AssetAmount)
    (spacing : Unsigned 64) : Simulator × Event :=
  match event, pieces with
  | .asset asset, first :: _ =>
      let origin := { asset with delivered := first, piece := some Unsigned.zero }
      let s := s.recordEffect fault origin.id (.splitInto (saturated 16 pieces.length))
      (splitRest origin spacing s (pieces.zipIdx.drop 1), .asset origin)
  | _, _ => (s, event)

/-- The copies with the remaining indices. -/
def duplicateRest (event : Event) (spacing : Unsigned 64) : Simulator → List Nat → Simulator
  | s, [] => s
  | s, index :: rest =>
      match s.takeGeneratedId with
      | none => s
      | some (id, s) =>
          let deliverAt := Tick.later s.now (spaced spacing (saturated 16 index))
          let s := s.insertMade (cloneForDuplicate event id deliverAt)
          duplicateRest event spacing (s.record (.duplicateCreated event.id id deliverAt)) rest

def duplicate (s : Simulator) (fault : FaultId) (event : Event) (copies : Unsigned 16)
    (spacing : Unsigned 64) : Simulator :=
  duplicateRest event spacing (s.recordEffect fault event.id (.duplicated copies))
    (List.range' 1 copies.raw)

def checkAction (s : Simulator) (action : FaultAction) (event : Event) : Option RejectReason :=
  match action, event with
  | .replaceDestination endpoint, _ =>
      if s.endpoints.contains endpoint then none else some .unknownEndpoint
  | .duplicate copies _, _ => if copies.isZero then some .duplicateCopiesIsZero else none
  | .corruptByte offset mask, .control control =>
      if mask = 0 then some .corruptMaskIsZero
      -- One event carries one edit, so the record stays truthful.
      else if control.mutation.isSome then some .alreadyCorrupted
      else if control.bytes.length ≤ offset.raw then some .corruptOffsetOutOfRange
      else none
  | .partialAmount amount, .asset asset =>
      if amount.isZero then some .amountIsZero
      else if asset.requested < amount then some .amountExceedsRequest
      else none
  | .overDeliver amount, .asset asset =>
      if amount ≤ asset.requested then some .overDeliveryNotAboveRequest else none
  | .split pieces _, .asset asset =>
      if pieces.isEmpty then some .splitHasNoPieces
      else if pieces.any Unsigned.isZero then some .splitPieceIsZero
      else match sumPieces pieces with
        | none => some .splitExceedsRequest
        | some total => if asset.requested < total then some .splitExceedsRequest else none
  | .corruptByte _ _, .asset _ | .partialAmount _, .control _ | .overDeliver _, .control _
  | .split _ _, .control _ => none
  | .delay _, _ | .drop, _ => none

def checkBatchFrom (s : Simulator) (event : Event) :
    List ExclusionGroup → List Fault → Option (FaultId × RejectReason)
  | _, [] => none
  | groups, fault :: rest =>
      if groups.contains fault.action.group then some (fault.id, .conflictingGroup)
      else match s.checkAction fault.action event with
        | some reason => some (fault.id, reason)
        | none => checkBatchFrom s event (groups ++ [fault.action.group]) rest

def checkBatch (s : Simulator) (batch : List Fault) (event : Event) :
    Option (FaultId × RejectReason) :=
  checkBatchFrom s event [] batch

def pendingFaults (s : Simulator) (event : Event) : List Fault :=
  (FaultPlan.matching s.plan event).filter fun fault =>
    !(event.madeByFault && fault.action.createsEvents)

/-- What the passes have done so far. -/
structure Composition where
  sim : Simulator
  event : Event
  delayed : Option Tick
  dropped : Option FaultId

def applyFault (keccak256 : Bytes → Bytes32) (c : Composition) (fault : Fault) : Composition :=
  match fault.action with
  | .replaceDestination endpoint =>
      { c with
        event := c.event.setDestination endpoint
        sim := c.sim.recordEffect fault.id c.event.id (.rerouted endpoint) }
  | .corruptByte offset mask =>
      let (sim, event) := corrupt keccak256 c.sim fault.id c.event offset mask
      { c with sim, event }
  | .partialAmount amount =>
      { c with
        event := setDelivered c.event amount false
        sim := c.sim.recordEffect fault.id c.event.id (.amountSet amount) }
  | .overDeliver amount =>
      { c with
        event := setDelivered c.event amount true
        sim := c.sim.recordEffect fault.id c.event.id (.amountSet amount) }
  | .split pieces spacing =>
      let (sim, event) := c.sim.split fault.id c.event pieces spacing
      { c with sim, event }
  | .duplicate copies spacing =>
      { c with sim := c.sim.duplicate fault.id c.event copies spacing }
  | .delay ticks =>
      let target := Tick.later c.sim.now ticks
      { c with
        delayed := some target
        sim := c.sim.recordEffect fault.id c.event.id (.delayed target) }
  | .drop =>
      { c with
        dropped := some fault.id
        sim := c.sim.recordEffect fault.id c.event.id .dropped }

def Composition.outcome (c : Composition) : Outcome :=
  match c.dropped, c.delayed with
  | some fault, _ => .dropped fault
  | none, some tick => .delayed tick
  | none, none => .proceed

/-- Runs the faults in force on one event, on its first attempt only. -/
def compose (keccak256 : Bytes → Bytes32) (s : Simulator) (event : Event) :
    Outcome × Simulator × Event :=
  if s.resolved.contains event.id then (.proceed, s, event)
  else
    let s := { s with resolved := s.resolved.insert event.id }
    let batch := s.pendingFaults event
    if batch.isEmpty then (.proceed, s, event)
    else match s.checkBatch batch event with
      | some (fault, reason) =>
          (.rejected reason, s.record (.faultRejected fault event.id reason), event)
      | none =>
          let c := batch.foldl (applyFault keccak256) ⟨s, event, none, none⟩
          (c.outcome, c.sim, c.event)

end Simulator

end XchainSim
