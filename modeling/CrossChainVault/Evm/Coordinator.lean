import CrossChainVault.Evm.Vault

set_option autoImplicit false

/- The remote-leg coordinator: message lanes, transfer identity and the reports it applies. -/

namespace Evm

open Result Protocol

/- Rules that decide whether a message is well formed. -/

namespace ProtocolCodec

def validateHeader (header : Header) : Except Revert Unit := do
  rejectIf (header.sourceChain.isZero ∨ header.destinationChain.isZero) .zeroIdentifier
  rejectIf (header.sourceChain = header.destinationChain) .sourceEqualsDestinationChain
  rejectIf (header.sourceApplication.isZero ∨ header.destinationApplication.isZero) .zeroIdentifier
  rejectIf (header.sourceApplication = header.destinationApplication)
    .sourceEqualsDestinationApplication
  rejectIf (header.deploymentId.isZero ∨ header.vaultId.isZero) .zeroIdentifier
  rejectIf (header.laneId.isZero ∨ header.sequence.isZero) .zeroIdentifier
  rejectIf (header.publishedAt < header.observedAt) .publicationBeforeObservation
  rejectIf (header.expiresAt < header.publishedAt) .expirationBeforePublication

def validateAllocate (body : AllocateBody) (publishedAt : Uint64) : Except Revert Unit := do
  rejectIf (body.transferId.isZero ∨ body.configVersion.isZero) .zeroIdentifier
  rejectIf (body.amount.isZero ∨ body.minimumDestinationAmount.isZero) .zeroAmount
  rejectIf (body.amount < body.minimumDestinationAmount) .minimumAboveAmount
  rejectIf (body.deadline < publishedAt) .deadlineBeforePublication

def validateRecall (body : RecallBody) (publishedAt : Uint64) : Except Revert Unit := do
  rejectIf (body.transferId.isZero ∨ body.configVersion.isZero) .zeroIdentifier
  rejectIf (body.requestedAmount.isZero ∨ body.minimumReturnAmount.isZero) .zeroAmount
  rejectIf (body.requestedAmount < body.minimumReturnAmount) .minimumAboveAmount
  rejectIf (body.deadline < publishedAt) .deadlineBeforePublication

def validateResolve (body : ResolveBody) (sequence : Uint64) : Except Revert Unit := do
  rejectIf (body.transferId.isZero ∨ body.configVersion.isZero) .zeroIdentifier
  rejectIf body.targetSequence.isZero .zeroIdentifier
  rejectIf (sequence ≤ body.targetSequence) .targetNotBeforeResolution

def validateRemoteReport (body : RemoteReportBody) (observedAt : Uint64) : Except Revert Unit := do
  rejectIf (body.epochId.isZero ∨ body.configVersion.isZero) .zeroIdentifier
  rejectIf body.remoteStateCommitment.isZero .zeroIdentifier
  rejectIf (observedAt < body.probeTimestamp) .probeTimestampAfterObservation
  rejectIf (body.probeStatus = .fresh ∧ body.probeTimestamp.isZero) .missingProbeTimestamp

def validateRecallSent (body : RecallSentBody) (observedAt : Uint64) : Except Revert Unit := do
  rejectIf (body.transferId.isZero ∨ body.configVersion.isZero) .zeroIdentifier
  rejectIf body.destinationReference.isZero .zeroIdentifier
  rejectIf body.principalSent.isZero .zeroAmount
  rejectIf (body.principalSent < body.realizedLoss) .realizedLossAbovePrincipal
  rejectIf (observedAt < body.sentTimestamp) .sentTimestampAfterObservation

/-- A close adds its shortfall to the pool. A recovery leaves exactly the uncredited part of
the pool behind. -/
def validateTransportSettlement (body : TransportSettlementBody) : Except Revert Unit := do
  rejectIf (body.transferId.isZero ∨ body.configVersion.isZero) .zeroIdentifier
  rejectIf body.claimAmount.isZero .zeroAmount
  rejectIf (body.claimAmount < body.creditedAmount) .creditAboveClaim
  let shortfall ← sub body.claimAmount body.creditedAmount
  match body.kind with
  | .closed => rejectIf (body.impairedOutstanding < shortfall) .impairmentBelowShortfall
  | .recovered => rejectIf (body.impairedOutstanding ≠ shortfall) .recoveryImpairmentMismatch

end ProtocolCodec

inductive CycleKind
  | none
  | allocate
  | recall
  | recover
deriving DecidableEq, Repr

/-- Why an authentic, in-order report advanced the lane without pricing. -/
inductive ReportSkipReason
  | none
  | expired
  | wrongEpoch
  | staleObservation
  | valuationFixed
  | settlementPending
deriving DecidableEq, Repr

structure Identities where
  evmChainId : Unsigned 32
  solanaChainId : Unsigned 32
  evmApplication : Bytes32
  solanaApplication : Bytes32
  deploymentId : Bytes32
  vaultId : Bytes32
  outboundLaneId : Unsigned 32
  inboundLaneId : Unsigned 32
  expectedDestinationReference : Bytes32
deriving DecidableEq

def Identities.validate (identities : Identities) : Except Revert Unit :=
  rejectIf (identities.evmChainId.isZero ∨ identities.solanaChainId.isZero ∨
    identities.evmChainId = identities.solanaChainId ∨
    identities.evmApplication.isZero ∨ identities.solanaApplication.isZero ∨
    identities.evmApplication = identities.solanaApplication ∨
    identities.deploymentId.isZero ∨ identities.vaultId.isZero ∨
    identities.outboundLaneId.isZero ∨ identities.inboundLaneId.isZero ∨
    identities.outboundLaneId = identities.inboundLaneId ∨
    identities.expectedDestinationReference.isZero) .invalidIdentities

/-- Storage of the coordinator. The first fields are immutable. -/
structure Coordinator where
  self : Address
  outboundSink : Address
  identities : Identities
  outboundNextSequence : Uint64
  outboundLatestCommitment : Bytes32
  inboundExpectedSequence : Uint64
  inboundLatestCommitment : Bytes32
  lastInboundCumulativeLoss : Uint128
  activeCycleKind : CycleKind
  activeTransferId : Bytes32
  activeAmount : Uint128
  /-- Outbound sequence of the message that opened the active cycle. -/
  activeSequence : Uint64
  activeDeadline : Uint64
  /-- Only the transport settlement ends a closing allocation; reports skip until it arrives. -/
  closeRequested : Bool
  /-- Outbound sequence of the last allocation closed with a shortfall. -/
  lastImpairedSequence : Uint64
  /-- Accepted remote value and acknowledged cumulative loss when the active recall began. -/
  recallBaselineValue : Uint128
  recallBaselineLoss : Uint128
  usedTransferIds : Bytes32 → Bool
  /-- The messages published so far, oldest first: one event each. -/
  published : List Message

def Coordinator.create (self vault authenticator outboundSink : Address)
    (identities : Identities) : Except Revert Coordinator := do
  rejectIf (vault.isZero ∨ authenticator.isZero) .invalidAddress
  rejectIf (outboundSink.isZero ∨ outboundSink = vault) .invalidAddress
  identities.validate
  pure {
    self := self
    outboundSink := outboundSink
    identities := identities
    outboundNextSequence := 1
    outboundLatestCommitment := .zero
    inboundExpectedSequence := 1
    inboundLatestCommitment := .zero
    lastInboundCumulativeLoss := .zero
    activeCycleKind := .none
    activeTransferId := .zero
    activeAmount := .zero
    activeSequence := .zero
    activeDeadline := .zero
    closeRequested := false
    lastImpairedSequence := .zero
    recallBaselineValue := .zero
    recallBaselineLoss := .zero
    usedTransferIds := fun _ => false
    published := [] }

/-- The asset's ledger, the vault and its coordinator. -/
structure World where
  asset : Asset
  vault : Vault
  coordinator : Coordinator

/-- The timestamps a caller stamps an outbound message with. -/
structure Stamps where
  observedAt : Uint64
  publishedAt : Uint64
  expiresAt : Uint64
deriving DecidableEq

namespace Coordinator

variable (hashing : Hashing)

def outboundHeader (c : Coordinator) (stamps : Stamps) : Header where
  sourceChain := c.identities.evmChainId
  destinationChain := c.identities.solanaChainId
  sourceApplication := c.identities.evmApplication
  destinationApplication := c.identities.solanaApplication
  deploymentId := c.identities.deploymentId
  vaultId := c.identities.vaultId
  laneId := c.identities.outboundLaneId
  sequence := c.outboundNextSequence
  previousCommitment := c.outboundLatestCommitment
  observedAt := stamps.observedAt
  publishedAt := stamps.publishedAt
  expiresAt := stamps.expiresAt

def publishOutbound (c : Coordinator) (message : Message) : Except Revert Coordinator := do
  let nextSequence ← add c.outboundNextSequence 1
  pure { c with
    outboundLatestCommitment := hashing.extend c.outboundLatestCommitment message
    outboundNextSequence := nextSequence
    published := c.published ++ [message] }

def consumeOutbound (c : Coordinator) (transferId : Bytes32) (kind : CycleKind) (amount : Uint128)
    (deadline : Uint64) (message : Message) : Except Revert Coordinator := do
  let published ← c.publishOutbound hashing message
  pure { published with
    usedTransferIds := Function.update c.usedTransferIds transferId true
    activeCycleKind := kind
    activeTransferId := transferId
    activeAmount := amount
    activeDeadline := deadline
    activeSequence := c.outboundNextSequence }

def clearCycle (c : Coordinator) : Coordinator :=
  { c with
    activeCycleKind := .none
    activeTransferId := .zero
    activeAmount := .zero
    activeSequence := .zero
    activeDeadline := .zero
    closeRequested := false }

def requireNoActiveCycle (c : Coordinator) : Except Revert Unit :=
  rejectIf (c.activeCycleKind ≠ .none) (.activeTransferExists c.activeTransferId)

def requireFreshTransfer (c : Coordinator) (transferId : Bytes32) : Except Revert Unit := do
  rejectIf transferId.isZero .zeroTransferId
  rejectIf (c.usedTransferIds transferId) (.transferIdReused transferId)

def requireInboundEnvelope (c : Coordinator) (header : Header) : Except Revert Unit := do
  rejectIf (header.sourceChain ≠ c.identities.solanaChainId ∨
    header.sourceApplication ≠ c.identities.solanaApplication) .wrongSource
  rejectIf (header.destinationChain ≠ c.identities.evmChainId ∨
    header.destinationApplication ≠ c.identities.evmApplication) .wrongDestination
  rejectIf (header.deploymentId ≠ c.identities.deploymentId) .wrongDeployment
  rejectIf (header.vaultId ≠ c.identities.vaultId) .wrongVault
  rejectIf (header.laneId ≠ c.identities.inboundLaneId)
    (.wrongLane c.identities.inboundLaneId header.laneId)
  rejectIf (header.sequence < c.inboundExpectedSequence) (.replay header.sequence)
  rejectIf (header.sequence ≠ c.inboundExpectedSequence)
    (.wrongSequence c.inboundExpectedSequence header.sequence)
  rejectIf (header.previousCommitment ≠ c.inboundLatestCommitment)
    (.wrongCommitment c.inboundLatestCommitment header.previousCommitment)

def advanceInbound (c : Coordinator) (message : Message) : Except Revert Coordinator := do
  let nextSequence ← add c.inboundExpectedSequence 1
  pure { c with
    inboundLatestCommitment := hashing.extend c.inboundLatestCommitment message
    inboundExpectedSequence := nextSequence }

/-- The reported value already excludes recalled principal the leg has sent but the vault has
not settled, so during a recall only the loss since it began moves the pre-recall value. -/
def valueDuringRecall (c : Coordinator) (cumulativeLoss : Uint128) : Uint128 :=
  c.recallBaselineValue.saturatingSub (cumulativeLoss.saturatingSub c.recallBaselineLoss)

end Coordinator

namespace World

variable (hashing : Hashing)

def toU128 (value : Uint256) : Except Revert Uint128 :=
  if fits : value.raw < 2 ^ 128 then .ok ⟨value.raw, fits⟩ else .error .amountTooLarge

def configVersion (w : World) : Uint64 :=
  ⟨w.vault.configVersion.raw, Nat.lt_of_lt_of_le w.vault.configVersion.bound (by decide)⟩

def requireCanAllocate (w : World) : Except Revert Unit := do
  rejectIf (w.vault.vaultStatus ≠ .active) .allocateNotAllowed
  rejectIf (w.vault.epochOpen = false ∨ w.vault.currentEpochPhase ≠ .opened) .allocateNotAllowed
  w.coordinator.requireNoActiveCycle

/- Outbound calls. -/

def allocate (w : World) (msg : Msg) (transferId : Bytes32)
    (amount minimumDestinationAmount : Uint128) (deadline : Uint64) (stamps : Stamps) :
    Except Revert World := do
  w.vault.requireAdmin msg.sender
  w.requireCanAllocate
  w.coordinator.requireFreshTransfer transferId
  let idle := w.vault.idleBacking
  rejectIf (idle < toUint256 amount) (.insufficientLiquidity idle (toUint256 amount))
  let expectedSourceBalance ← toU128 idle
  let header := w.coordinator.outboundHeader stamps
  let body : AllocateBody := {
    transferId := transferId
    amount := amount
    expectedSourceBalance := expectedSourceBalance
    minimumDestinationAmount := minimumDestinationAmount
    deadline := deadline
    configVersion := w.configVersion }
  ProtocolCodec.validateHeader header
  ProtocolCodec.validateAllocate body header.publishedAt
  let moved ← w.vault.beginOutbound w.asset w.coordinator.self (toUint256 amount)
    w.coordinator.outboundSink
  let coordinator ← w.coordinator.consumeOutbound hashing transferId .allocate amount deadline
    ⟨header, .allocate body⟩
  pure ⟨moved.2, moved.1, coordinator⟩

def «recall» (w : World) (msg : Msg) (transferId : Bytes32)
    (requestedAmount minimumReturnAmount : Uint128) (deadline : Uint64) (stamps : Stamps) :
    Except Revert World := do
  w.vault.requireAdmin msg.sender
  w.coordinator.requireNoActiveCycle
  w.coordinator.requireFreshTransfer transferId
  rejectIf requestedAmount.isZero .zeroAmount
  rejectIf (w.vault.remotePrincipalCap < toUint256 requestedAmount)
    (.insufficientRemotePrincipal w.vault.remotePrincipalCap (toUint256 requestedAmount))
  let header := w.coordinator.outboundHeader stamps
  let body : RecallBody := {
    transferId := transferId
    requestedAmount := requestedAmount
    minimumReturnAmount := minimumReturnAmount
    deadline := deadline
    configVersion := w.configVersion }
  ProtocolCodec.validateHeader header
  ProtocolCodec.validateRecall body header.publishedAt
  let baselineValue ← toU128 w.vault.acceptedRemoteValue
  let vault ← w.vault.beginRecall w.coordinator.self transferId (toUint256 requestedAmount)
  let coordinator ← { w.coordinator with
      recallBaselineValue := baselineValue
      recallBaselineLoss := w.coordinator.lastInboundCumulativeLoss }.consumeOutbound hashing
    transferId .recall requestedAmount deadline ⟨header, .recall body⟩
  pure { w with vault := vault, coordinator := coordinator }

/-- The resolution of a transfer, checked and ready to publish. -/
def resolution (w : World) (transferId : Bytes32) (targetSequence : Uint64)
    (action : ResolveAction) (stamps : Stamps) : Except Revert Message := do
  let header := w.coordinator.outboundHeader stamps
  let body : ResolveBody := {
    transferId := transferId
    targetSequence := targetSequence
    action := action
    configVersion := w.configVersion }
  ProtocolCodec.validateHeader header
  ProtocolCodec.validateResolve body header.sequence
  pure ⟨header, .resolve body⟩

/-- Asks the remote leg to run the active transfer on its original terms after the leg held it
back. Vault accounting does not change. -/
def admitTransfer (w : World) (msg : Msg) (transferId : Bytes32) (stamps : Stamps) :
    Except Revert World := do
  w.vault.requireAdmin msg.sender
  rejectIf (w.coordinator.activeCycleKind ≠ .allocate ∧ w.coordinator.activeCycleKind ≠ .recall)
    .noActiveTransfer
  rejectIf (transferId ≠ w.coordinator.activeTransferId)
    (.wrongTransferId w.coordinator.activeTransferId transferId)
  rejectIf w.coordinator.closeRequested .closeAlreadyRequested
  rejectIf (w.coordinator.activeCycleKind = .allocate ∧ w.vault.vaultStatus ≠ .active)
    .allocateNotAllowed
  let message ← w.resolution transferId w.coordinator.activeSequence .admitTransfer stamps
  let coordinator ← w.coordinator.publishOutbound hashing message
  pure { w with coordinator := coordinator }

/-- Asks the remote leg to end the active allocation after its deadline. A timeout alone proves
no loss, so nothing else changes here. -/
def close (w : World) (msg : Msg) (transferId : Bytes32) (stamps : Stamps) :
    Except Revert World := do
  w.vault.requireAdmin msg.sender
  rejectIf (w.coordinator.activeCycleKind ≠ .allocate) .noActiveTransfer
  rejectIf (transferId ≠ w.coordinator.activeTransferId)
    (.wrongTransferId w.coordinator.activeTransferId transferId)
  rejectIf w.coordinator.closeRequested .closeAlreadyRequested
  rejectIf (msg.timestamp ≤ w.coordinator.activeDeadline)
    (.deadlineNotPassed w.coordinator.activeDeadline msg.timestamp)
  let message ← w.resolution transferId w.coordinator.activeSequence .close stamps
  let coordinator ← { w.coordinator with closeRequested := true }.publishOutbound hashing message
  pure { w with coordinator := coordinator }

/-- Asks the remote leg to credit unattributed custody against the pooled impairment. -/
def recover (w : World) (msg : Msg) (recoveryId : Bytes32) (stamps : Stamps) :
    Except Revert World := do
  w.vault.requireAdmin msg.sender
  w.coordinator.requireNoActiveCycle
  w.coordinator.requireFreshTransfer recoveryId
  rejectIf w.vault.impairedTransport.isZero .nothingToRecover
  let message ← w.resolution recoveryId w.coordinator.lastImpairedSequence .recover stamps
  let coordinator ← w.coordinator.consumeOutbound hashing recoveryId .recover .zero .zero message
  pure { w with coordinator := coordinator }

/- Reports. -/

/-- The report completes the open allocation. -/
def completes (w : World) (body : RemoteReportBody) : Bool :=
  w.coordinator.activeCycleKind = .allocate &&
    body.latestCompletedTransferId = w.coordinator.activeTransferId &&
    !w.coordinator.activeTransferId.isZero

def atCutoff (w : World) : Bool := w.vault.epochOpen && w.vault.currentEpochPhase = .cutOff

def locked (w : World) : Bool := w.vault.epochRemoteValuationLocked w.vault.currentEpochId

def completeAllocation (w : World) (reportedValue : Uint128) : Except Revert World := do
  let vault ← w.vault.completeAllocation w.coordinator.self (toUint256 w.coordinator.activeAmount)
    (toUint256 reportedValue)
  pure { w with vault := vault, coordinator := w.coordinator.clearCycle }

/-- Completion moves the open amount from outbound transit into remote value, so NAV is
unchanged only if the report carries it in full. -/
def completionKeepsNav (w : World) (reportedValue : Uint128) : Except Revert Bool := do
  let cap ← add w.vault.remotePrincipalCap (toUint256 w.coordinator.activeAmount)
  let value := if toUint256 reportedValue < cap then toUint256 reportedValue else cap
  let carried ← add w.vault.acceptedRemoteValue (toUint256 w.coordinator.activeAmount)
  pure (value = carried)

/-- Completes the open allocation when the report names it. -/
def completeIfNamed (w : World) (body : RemoteReportBody) : Except Revert World :=
  if w.completes body then w.completeAllocation body.reportedValue else pure w

def applyRemoteValuation (w : World) (body : RemoteReportBody) : Except Revert World := do
  let vault ← w.vault.applyRemoteValuation w.coordinator.self (toUint256
    (if w.coordinator.activeCycleKind = .recall then w.coordinator.valueDuringRecall body.realizedLoss
      else body.reportedValue))
  pure { w with vault := vault }

/-- Prices the report, or names why it cannot price anything. A report that cannot be applied
still advances the lane. -/
def applyReport (w : World) (msg : Msg) (header : Header) (body : RemoteReportBody) :
    Except Revert (World × ReportSkipReason) :=
  -- The settlement is the only path for an allocation being closed.
  if w.coordinator.closeRequested then pure (w, .settlementPending)
  else if header.expiresAt < msg.timestamp then pure (w, .expired)
  else if w.atCutoff && w.locked then
    if w.completes body then do
      let keepsNav ← w.completionKeepsNav body.reportedValue
      if keepsNav then do
        let w ← w.completeAllocation body.reportedValue
        pure (w, .none)
      else pure (w, .valuationFixed)
    else pure (w, .valuationFixed)
  else if w.atCutoff && body.epochId ≠ w.vault.currentEpochId then pure (w, .wrongEpoch)
  else if w.atCutoff && header.observedAt < w.vault.currentEpochCutoffAt then
    pure (w, .staleObservation)
  else do
    let completed ← w.completeIfNamed body
    let valued ← completed.applyRemoteValuation body
    if w.atCutoff then do
      let vault ← valued.vault.lockRemoteValuation w.coordinator.self w.vault.currentEpochId
      pure ({ valued with vault := vault }, .none)
    else pure (valued, .none)

def requireConfigVersion (w : World) (version : Uint64) : Except Revert Unit :=
  rejectIf (version ≠ w.configVersion) (.wrongConfigVersion w.configVersion version)

/-- `authentic` is the authenticator's answer for the encoded message. -/
def processRemoteReport (w : World) (msg : Msg) (authentic : Bool) (header : Header)
    (body : RemoteReportBody) : Except Revert World := do
  rejectIf (authentic = false) .unauthenticatedMessage
  ProtocolCodec.validateHeader header
  ProtocolCodec.validateRemoteReport body header.observedAt
  w.coordinator.requireInboundEnvelope header
  w.requireConfigVersion body.configVersion
  rejectIf (body.realizedLoss < w.coordinator.lastInboundCumulativeLoss) .staleValuation
  let coordinator ← { w.coordinator with
    lastInboundCumulativeLoss := body.realizedLoss }.advanceInbound hashing
      ⟨header, .remoteReport body⟩
  let applied ← { w with coordinator := coordinator }.applyReport msg header body
  pure applied.1

/-- Reports during the recall deducted only its loss; the notice settles from the pre-recall
value so that the loss is not deducted twice. -/
def restoreBaseline (w : World) : Except Revert Vault :=
  let baseline := toUint256 w.coordinator.recallBaselineValue
  if w.vault.acceptedRemoteValue = baseline then pure w.vault
  else w.vault.applyRemoteValuation w.coordinator.self baseline

def processRecallSent (w : World) (authentic : Bool) (header : Header) (body : RecallSentBody) :
    Except Revert World := do
  rejectIf (authentic = false) .unauthenticatedMessage
  ProtocolCodec.validateHeader header
  ProtocolCodec.validateRecallSent body header.observedAt
  let c := w.coordinator
  c.requireInboundEnvelope header
  w.requireConfigVersion body.configVersion
  rejectIf (c.activeCycleKind ≠ .recall) .noActiveTransfer
  rejectIf (body.transferId ≠ c.activeTransferId)
    (.wrongTransferId c.activeTransferId body.transferId)
  rejectIf (c.activeAmount < body.principalSent) .recallIdentityMismatch
  rejectIf (body.destinationReference ≠ c.identities.expectedDestinationReference)
    .recallIdentityMismatch
  rejectIf (body.actualAmountSent.raw + body.realizedLoss.raw ≠ body.principalSent.raw)
    (.invalidRecallSentAmounts body.principalSent body.actualAmountSent body.realizedLoss)
  let settledLoss ← add c.recallBaselineLoss body.realizedLoss
  let coordinator ← ({ c with
    lastInboundCumulativeLoss :=
      if c.lastInboundCumulativeLoss < settledLoss then settledLoss else c.lastInboundCumulativeLoss
    recallBaselineValue := .zero
    recallBaselineLoss := .zero }.clearCycle).advanceInbound hashing ⟨header, .recallSent body⟩
  let vault ← w.restoreBaseline
  let vault ← vault.applyRecallSent c.self (toUint256 body.principalSent)
    (toUint256 body.actualAmountSent) (toUint256 body.realizedLoss)
  pure { w with vault := vault, coordinator := coordinator }

/-- Applies the one settlement of a close or a recovery. Its expiry does not void it; any
disagreement with the cycle it settles reverts instead. -/
def processTransportSettlement (w : World) (authentic : Bool) (header : Header)
    (body : TransportSettlementBody) : Except Revert World := do
  rejectIf (authentic = false) .unauthenticatedMessage
  ProtocolCodec.validateHeader header
  ProtocolCodec.validateTransportSettlement body
  let c := w.coordinator
  c.requireInboundEnvelope header
  w.requireConfigVersion body.configVersion
  rejectIf (body.transferId ≠ c.activeTransferId)
    (.wrongTransferId c.activeTransferId body.transferId)
  let claim := toUint256 body.claimAmount
  let credited := toUint256 body.creditedAmount
  match body.kind with
  | .closed => do
      rejectIf (c.activeCycleKind ≠ .allocate ∨ c.closeRequested = false) .noPendingSettlement
      let shortfall ← sub claim credited
      let impaired ← add w.vault.impairedTransport shortfall
      rejectIf (body.claimAmount ≠ c.activeAmount ∨ toUint256 body.impairedOutstanding ≠ impaired)
        .settlementMismatch
      let coordinator ← ({ c.clearCycle with
        lastImpairedSequence :=
          if shortfall.isZero then c.lastImpairedSequence
          else c.activeSequence }).advanceInbound hashing ⟨header, .transportSettlement body⟩
      let vault ← w.vault.closeAllocation c.self claim credited
      pure { w with vault := vault, coordinator := coordinator }
  | .recovered => do
      rejectIf (c.activeCycleKind ≠ .recover) .noPendingSettlement
      rejectIf (claim ≠ w.vault.impairedTransport) .settlementMismatch
      let coordinator ← c.clearCycle.advanceInbound hashing ⟨header, .transportSettlement body⟩
      let vault ← w.vault.recoverImpairment c.self credited
      pure { w with vault := vault, coordinator := coordinator }

end World

end Evm
