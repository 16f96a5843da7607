import CrossChainVault.Simulator.Fault

set_option autoImplicit false

/- Typed record of everything the simulator did. -/

namespace XchainSim

/-- What a message or transfer is about, when the record names one. -/
inductive Subject
  | message (id : MessageId)
  | transfer (id : TransferId)
deriving DecidableEq

/-- Why a delivery attempt could not finish. -/
inductive BlockReason
  | endpointHalted
  | lanePaused
deriving DecidableEq, Repr

/-- Why the simulator refused to apply a declared fault. -/
inductive RejectReason
  | corruptOffsetOutOfRange
  | corruptMaskIsZero
  | alreadyCorrupted
  | splitExceedsRequest
  | splitPieceIsZero
  | splitHasNoPieces
  | amountIsZero
  | amountExceedsRequest
  | overDeliveryNotAboveRequest
  | duplicateCopiesIsZero
  | conflictingGroup
  | unknownEndpoint
deriving DecidableEq, Repr

/-- The concrete change a fault made. -/
inductive FaultEffect
  | delayed (target : Tick)
  | dropped
  | duplicated (copies : Unsigned 16)
  | rerouted (target : EndpointId)
  | corrupted (offset : Unsigned 64) (old new : UInt8)
  | amountSet (target : AssetAmount)
  | splitInto (pieces : Unsigned 16)
deriving DecidableEq

/-- One thing that happened. -/
inductive TraceAction
  | eventScheduled (event : EventId) (lane : Lane) (source destination : EndpointId)
      (subject : Subject) (deliverAt : Tick)
  | faultApplied (fault : FaultId) (event : EventId) (effect : FaultEffect)
  | faultRejected (fault : FaultId) (event : EventId) (reason : RejectReason)
  | tickAdvanced (start target : Tick)
  | endpointHalted (endpoint : EndpointId)
  | endpointResumed (endpoint : EndpointId) (released : Unsigned 32)
  | deliveryAttempted (event : EventId) (destination : EndpointId) (attempt : Unsigned 32)
  | deliveryBlocked (event : EventId) (destination : EndpointId) (reason : BlockReason)
  | eventDelivered (event : EventId) (destination : EndpointId) (subject : Subject)
      (afterDeadline : Bool)
  | eventDropped (event : EventId) (fault : Option FaultId)
  | eventExpired (event : EventId) (deadline : Tick)
  | eventRejected (event : EventId) (reason : RejectReason)
  | duplicateCreated (original duplicate : EventId) (deliverAt : Tick)
  | partialDeliveryCreated (original pieceEvent : EventId) (transfer : TransferId)
      (amount : AssetAmount) (piece : Unsigned 16)
  | eventReordered (event : EventId) (start target : Tick)
  | lanePaused (lane : Lane)
  | laneResumed (lane : Lane) (released : Unsigned 32)
deriving DecidableEq

/-- One trace record with its position and the tick it happened on. -/
structure TraceRecord where
  index : Unsigned 32
  tick : Tick
  action : TraceAction
deriving DecidableEq

/-- Every record in the order it was written. -/
abbrev Trace := List TraceRecord

/-- A length as a 32-bit number, or the largest one when it does not fit. -/
def saturated (bits count : Nat) : Unsigned bits :=
  if fits : count < 2 ^ bits then ⟨count, fits⟩ else Unsigned.max

def Trace.push (trace : Trace) (tick : Tick) (action : TraceAction) : Trace :=
  trace ++ [⟨saturated 32 trace.length, tick, action⟩]

end XchainSim
