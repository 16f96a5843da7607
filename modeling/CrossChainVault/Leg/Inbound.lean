import CrossChainVault.Leg.State
import Mathlib.Logic.Function.Basic

set_option autoImplicit false

/- The control lane: validation of an arriving message, and the instructions that accept an
allocation, a recall, an admission or new risk limits. -/

namespace Leg

open Result Protocol

/-- A validation failure of the shared codec, as one program error. -/
def mapInvalid {α : Type} (result : Except ValidationError α) (failure : RemoteLegError) :
    Except RemoteLegError α :=
  match result with
  | .ok value => .ok value
  | .error _ => .error failure

/-- The class whose instruction accepts a message, if any does. -/
def classOf (message : Message) : Option MessageClass :=
  match message.body with
  | .allocate _ => some .allocate
  | .recall _ => some .recall
  | .configUpdate _ => some .configUpdate
  | .resolve _ => some .resolve
  | _ => none

/-- Binds a header to the configured domain of this deployment. -/
def checkDomains (header : Header) (config : RemoteConfig) (lane : ReplayLane) :
    Except RemoteLegError Unit := do
  rejectIf (header.sourceChain ≠ config.sourceChainId) .invalidSourceDomain
  rejectIf (header.destinationChain ≠ config.destinationChainId) .invalidDestinationDomain
  rejectIf (header.sourceApplication ≠ config.sourceApplicationId) .invalidApplication
  rejectIf (header.destinationApplication ≠ config.localApplicationId) .invalidApplication
  rejectIf (header.deploymentId ≠ config.deploymentId) .invalidDeployment
  rejectIf (header.vaultId ≠ config.vaultId) .invalidVault
  rejectIf (header.laneId ≠ lane.laneId) .invalidLane

/-- True while the chain clock has not passed the expiry. -/
def isFresh (header : Header) (now : U64) : Bool := now ≤ header.expiresAt

/-- The control lane accepts only the next sequence. -/
def ReplayLane.checkNext (lane : ReplayLane) (sequence : U64) : Except RemoteLegError Unit := do
  let expected ← checkedIncrement lane.highestConsumedSequence
  rejectIf (sequence ≠ expected) .invalidSequence

/-- Every rule that does not depend on the body. Expiry is judged by the caller, so only an
authentic message that is next on the lane is ever stale. -/
def validateInbound (message : Message) (messageClass : MessageClass) (config : RemoteConfig)
    (lane : ReplayLane) (now : U64) : Except RemoteLegError Unit := do
  mapInvalid message.validate .invalidMessage
  rejectIf (classOf message ≠ some messageClass) .unsupportedMessageType
  checkDomains message.header config lane
  rejectIf (now < message.header.publishedAt) .invalidTimestamp
  rejectIf (message.header.sequence < lane.minimumAcceptableSequence) .sequenceBelowWatermark
  lane.checkNext message.header.sequence
  rejectIf (message.header.previousCommitment ≠ lane.messageCommitment) .invalidPreviousCommitment

namespace Accounts

variable (hashing : Hashing)

def checkControlLane (a : Accounts) : Except RemoteLegError Unit :=
  rejectIf (a.control.laneId ≠ a.config.controlLaneId) .invalidLane

def checkConfigVersion (a : Accounts) (version : U64) : Except RemoteLegError Unit :=
  rejectIf (version ≠ a.config.configVersion) .invalidConfigVersion

/-- The record of a transfer, which has to exist. -/
def loadRecord (a : Accounts) (transferId : Bytes32) : Except RemoteLegError TransferRecord :=
  okOr (a.transferRecords transferId) .invalidTransferRecord

def storeRecord (a : Accounts) (transferId : Bytes32) (record : TransferRecord) : Accounts :=
  { a with transferRecords := Function.update a.transferRecords transferId (some record) }

/-- Leaves the replay record of an accepted message and moves the lane on. -/
def consume (a : Accounts) (messageClass : MessageClass) (message : Message) : Accounts :=
  { a with
    consumedMessages := Function.update a.consumedMessages message.header.sequence
      (some ⟨messageClass, a.config.controlLaneId, message.header.sequence,
        hashing.messageId message⟩)
    control := { a.control with
      highestConsumedSequence := message.header.sequence
      messageCommitment := hashing.extend a.control.messageCommitment message } }

/-- The basis points carry no vault total, so the ceiling is an absolute one. -/
def allocationFits (a : Accounts) (authorizedAmount : U64) : Except RemoteLegError Bool := do
  let accepted ← a.position.acceptedPrincipal
  let projected ← checkedAdd accepted authorizedAmount
  pure (projected ≤ a.maxRemotePrincipal)

/-- Why an allocation may not run, if it may not. -/
def quarantineReason (a : Accounts) (fresh : Bool) (authorizedAmount : U64) :
    Except RemoteLegError (Option QuarantineReason) :=
  if fresh = false then pure (some .expired)
  else if a.config.frozen then pure (some .frozen)
  else do
    let fits ← a.allocationFits authorizedAmount
    pure (if fits then none else some .allocationLimit)

/-- Accepting the message only authorises assets. It never counts them. An allocation that may
not run is consumed and held as quarantined instead. -/
def processAllocate (a : Accounts) (ctx : Context) (message : Message) :
    Except RemoteLegError Accounts := do
  ctx.requireVerifier
  a.checkControlLane
  let now ← ctx.currentTime
  validateInbound message .allocate a.config a.control now
  match message.body with
  | .allocate body => do
      a.checkConfigVersion body.configVersion
      rejectIf body.transferId.isZero .invalidTransferRecord
      checkAvailable (a.transferRecords body.transferId) .transferAlreadyExists
      a.position.checkNoActiveTransfer
      let authorizedAmount ← narrowAmount body.amount
      let minimumAmount ← narrowAmount body.minimumDestinationAmount
      rejectIf authorizedAmount.isZero .invalidTransferRecord
      rejectIf minimumAmount.isZero .invalidMinimumDestinationAmount
      rejectIf (authorizedAmount < minimumAmount) .invalidMinimumDestinationAmount
      let quarantine ← a.quarantineReason (isFresh message.header now) authorizedAmount
      let sequence := message.header.sequence
      checkAvailable (a.consumedMessages sequence) .replayDetected
      let transfer := TransferRecord.newAllocation body.transferId sequence authorizedAmount
        minimumAmount body.expectedSourceBalance ctx.clock
      let consumed := a.consume hashing .allocate message
      if quarantine.isSome then
        pure { consumed.storeRecord body.transferId transfer.quarantined with
          position := a.position.quarantineTransfer .allocate body.transferId sequence }
      else
        pure { consumed.storeRecord body.transferId transfer with
          position := a.position.openTransfer .allocate body.transferId sequence }
  | _ => .error .unsupportedMessageType

/-- Rejects a request for more principal than the leg accepted. -/
def checkRecallable (a : Accounts) (requestedAmount : U64) : Except RemoteLegError Unit := do
  let accepted ← a.position.acceptedPrincipal
  rejectIf (accepted < requestedAmount) .insufficientRemotePrincipal

/-- Reserving only reclassifies a bucket. An expired recall is consumed and held as quarantined,
with nothing reserved. -/
def processRecall (a : Accounts) (ctx : Context) (message : Message) :
    Except RemoteLegError Accounts := do
  ctx.requireVerifier
  a.checkControlLane
  ctx.requireConsent a.config
  let now ← ctx.currentTime
  validateInbound message .recall a.config a.control now
  match message.body with
  | .recall body => do
      a.checkConfigVersion body.configVersion
      rejectIf body.transferId.isZero .invalidTransferRecord
      checkAvailable (a.transferRecords body.transferId) .transferAlreadyExists
      a.position.checkNoActiveTransfer
      let requestedAmount ← narrowAmount body.requestedAmount
      let minimumAmount ← narrowAmount body.minimumReturnAmount
      rejectIf requestedAmount.isZero .invalidRecallAmount
      rejectIf minimumAmount.isZero .invalidMinimumReturn
      rejectIf (requestedAmount < minimumAmount) .invalidMinimumReturn
      let sequence := message.header.sequence
      let transfer := TransferRecord.newRecall body.transferId sequence requestedAmount
        minimumAmount .zero ctx.clock
      let consumed := a.consume hashing .recall message
      if isFresh message.header now then do
        a.checkRecallable requestedAmount
        checkAvailable (a.consumedMessages sequence) .replayDetected
        let reserved ← reserveRecallCustody transfer a.position
        pure { consumed.storeRecord body.transferId reserved.1 with
          position := reserved.2.openTransfer .recall body.transferId sequence }
      else do
        checkAvailable (a.consumedMessages sequence) .replayDetected
        pure { consumed.storeRecord body.transferId transfer.quarantined with
          position := a.position.quarantineTransfer .recall body.transferId sequence }
  | _ => .error .unsupportedMessageType

/-- Lets the quarantined cycle run when its original terms still hold. A term that no longer
holds leaves everything untouched. Only an actual admission needs the guardian. -/
def admitTransfer (a : Accounts) (ctx : Context) (transferId : Bytes32) :
    Except RemoteLegError (Accounts × ResolveOutcome) := do
  let record ← a.loadRecord transferId
  record.checkQuarantined a.position
  match record.transferKind with
  | .allocate => do
      record.checkAllocationShape
      let fits ← a.allocationFits record.authorizedAmount
      if fits then do
        ctx.requireConsent a.config
        pure ({ a.storeRecord transferId { record with status := .pending } with
          position := a.position.admitTransfer }, .admitted)
      else pure (a, .allocationLimit)
  | .recall => do
      record.checkRecallShape
      let accepted ← a.position.acceptedPrincipal
      if accepted < record.requestedRecallAmount then pure (a, .insufficientPrincipal)
      else do
        ctx.requireConsent a.config
        let reserved ← reserveRecallCustody record a.position
        let _ ← reserved.1.unresolvedRecallPrincipal
        pure ({ a.storeRecord transferId { reserved.1 with status := .pending } with
          position := reserved.2.admitTransfer }, .admitted)
  | _ => .error .invalidTransferKind

/-- What an admission comes to: stale and misdirected ones change nothing. -/
def resolve (a : Accounts) (ctx : Context) (fresh : Bool) (body : ResolveBody) :
    Except RemoteLegError (Accounts × ResolveOutcome) :=
  if fresh = false then pure (a, .expired)
  else if a.position.holdsQuarantined body.transferId body.targetSequence = false then
    pure (a, .notQuarantined)
  else a.admitTransfer ctx body.transferId

def processResolve (a : Accounts) (ctx : Context) (message : Message) :
    Except RemoteLegError Accounts := do
  ctx.requireVerifier
  a.checkControlLane
  let now ← ctx.currentTime
  validateInbound message .resolve a.config a.control now
  match message.body with
  | .resolve body => do
      rejectIf (body.action ≠ .admitTransfer) .wrongResolveInstruction
      a.checkConfigVersion body.configVersion
      checkAvailable (a.consumedMessages message.header.sequence) .replayDetected
      let resolved ← a.resolve ctx (isFresh message.header now) body
      pure (resolved.1.consume hashing .resolve message)
  | _ => .error .unsupportedMessageType

/-- New risk limits, applied on top of exactly the version they replace. An expired update is
consumed and leaves every limit unchanged. -/
def processConfigUpdate (a : Accounts) (ctx : Context) (message : Message) :
    Except RemoteLegError Accounts := do
  ctx.requireVerifier
  a.checkControlLane
  rejectIf (a.risk.configVersion ≠ a.config.configVersion) .invalidRiskConfig
  rejectIf a.config.frozen .frozen
  let now ← ctx.currentTime
  validateInbound message .configUpdate a.config a.control now
  match message.body with
  | .configUpdate body => do
      checkAvailable (a.consumedMessages message.header.sequence) .replayDetected
      let consumed := a.consume hashing .configUpdate message
      if isFresh message.header now then do
        rejectIf (body.previousConfigVersion ≠ a.config.configVersion) .invalidConfigVersion
        rejectIf (body.configVersion ≤ a.config.configVersion) .invalidConfigVersion
        rejectIf (now < body.effectiveTimestamp) .configNotEffective
        let risk : RiskConfig := {
          maxRemoteAllocationBps := body.maxRemoteAllocationBps
          maxUpwardDeviationBps := body.maxUpwardDeviationBps
          maxDownwardDeviationBps := body.maxDownwardDeviationBps
          maxReportAge := body.maxReportAge
          configVersion := body.configVersion
          configCommitment := body.configCommitment }
        risk.checkParameters
        pure { consumed with
          risk := risk, config := { a.config with configVersion := body.configVersion } }
      else pure consumed
  | _ => .error .unsupportedMessageType

/-- The watermark may reach the open sequence but never pass it. -/
def checkObligation (p : RemotePosition) (newMinimumSequence : U64) :
    Except RemoteLegError Unit :=
  rejectIf (p.hasActiveTransfer ∧ p.activeTransferSequence < newMinimumSequence)
    .financialObligationBlocksWatermark

def advanceReplayWatermark (a : Accounts) (ctx : Context) (newMinimumSequence : U64) :
    Except RemoteLegError Accounts := do
  rejectIf (ctx.administrator = false) .unauthorized
  a.checkControlLane
  rejectIf (newMinimumSequence ≤ a.control.minimumAcceptableSequence) .invalidWatermark
  rejectIf (a.control.highestConsumedSequence < newMinimumSequence) .invalidWatermark
  let lowestAllowedHighest ← checkedAdd newMinimumSequence a.control.mandatoryWatermarkLag
  rejectIf (a.control.highestConsumedSequence < lowestAllowedHighest) .watermarkLagViolation
  checkObligation a.position newMinimumSequence
  pure { a with control := { a.control with minimumAcceptableSequence := newMinimumSequence } }

def closeConsumedMessage (a : Accounts) (sequence : U64) : Except RemoteLegError Accounts := do
  let record ← okOr (a.consumedMessages sequence) .recordNotClosable
  rejectIf (record.laneId ≠ a.control.laneId) .invalidConsumedMessage
  a.checkControlLane
  rejectIf (a.control.minimumAcceptableSequence ≤ record.sequence) .recordNotClosable
  pure { a with consumedMessages := Function.update a.consumedMessages sequence none }

/-- One way emergency stop. -/
def freeze (a : Accounts) (ctx : Context) : Except RemoteLegError Accounts := do
  rejectIf (ctx.administrator = false ∧ ctx.emergencyGuardian = false) .unauthorized
  rejectIf a.config.frozen .alreadyFrozen
  pure { a with config := { a.config with frozen := true } }

end Accounts

end Leg
