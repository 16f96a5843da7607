import CrossChainVault.Leg.Assets

set_option autoImplicit false

/- The report lane: building and publishing messages, and the close and recovery that publish
their settlement in the same instruction. -/

namespace Leg

open Result Protocol

/-- Everything the remote state commitment covers. -/
structure RemoteStateView where
  configVersion : U64
  frozen : Bool
  position : RemotePosition
  custodyBalance : U64
  adapterPrincipal : U64
deriving DecidableEq

/-- The digests the leg computes. -/
structure Digests extends Hashing where
  remoteState : RemoteStateView → Bytes32

/-- The leg runs no liquidity probe, so every report says so. -/
def noProbeStatus : ProbeStatus := .notRequired

namespace Accounts

variable (digests : Digests)

/-- Builds the header that sends a message back the way it came. -/
def outboundHeader (a : Accounts) (now : U64) : Except RemoteLegError Header := do
  let expiresAt ← checkedAdd now a.risk.maxReportAge
  pure {
    sourceChain := a.config.destinationChainId
    destinationChain := a.config.sourceChainId
    sourceApplication := a.config.localApplicationId
    destinationApplication := a.config.sourceApplicationId
    deploymentId := a.config.deploymentId
    vaultId := a.config.vaultId
    laneId := a.config.reportLaneId
    sequence := a.outbound.nextSequence
    previousCommitment := a.outbound.currentCommitment
    observedAt := now
    publishedAt := now
    expiresAt := expiresAt }

def build (a : Accounts) (now : U64) (body : Body) : Except RemoteLegError Message := do
  let header ← a.outboundHeader now
  let message : Message := ⟨header, body⟩
  mapInvalid message.validate .invalidOutboundMessage
  pure message

def checkOutboundLane (a : Accounts) : Except RemoteLegError Unit :=
  rejectIf (a.outbound.laneId ≠ a.config.reportLaneId) .invalidLane

/-- Leaves the record of a built message and moves the lane on. -/
def publish (a : Accounts) (message : Message) (reportType : ReportType)
    (relatedTransferId : Bytes32) (epochId : U64) (publishedAt : UnixTimestamp) :
    Except RemoteLegError Accounts := do
  let sequence := a.outbound.nextSequence
  let nextCommitment := digests.toHashing.extend a.outbound.currentCommitment message
  checkAvailable (a.reportRecords sequence) .reportAlreadyPublished
  let outbound ← a.outbound.advance reportType nextCommitment
  pure { a with
    reportRecords := Function.update a.reportRecords sequence (some {
      reportType := reportType
      laneId := a.outbound.laneId
      sequence := sequence
      messageId := digests.messageId message
      previousCommitment := a.outbound.currentCommitment
      nextCommitment := nextCommitment
      publishedAt := publishedAt
      relatedTransferId := relatedTransferId
      epochId := epochId })
    outbound := outbound
    published := a.published ++ [message] }

/- Reports. -/

/-- Accepted principal the leg still holds on this chain. -/
def remotePrincipal (p : RemotePosition) : Except RemoteLegError U64 := do
  let total ← checkedAdd p.attributedPrincipal p.deployedPrincipal
  checkedAdd total p.recalledCustody

/-- Attribution the open allocation already received but has not settled. The vault counts an
allocation only when it settles. `supplied` says that the caller passed the record. -/
def inFlightAttribution (a : Accounts) (supplied : Bool) : Except RemoteLegError U64 :=
  if a.position.activeTransferKind ≠ .allocate then pure .zero
  else do
    rejectIf (supplied = false) .missingActiveTransferRecord
    let record ← a.loadRecord a.position.activeTransferId
    rejectIf (¬(record.transferKind = .allocate ∧
      record.transferId = a.position.activeTransferId)) .invalidTransferRecord
    pure record.attributedAmount

/-- Schema version one never reports more than the principal it holds. -/
def reportBody (a : Accounts) (epochId principal : U64) (commitment : Bytes32) :
    RemoteReportBody where
  epochId := epochId
  remotePrincipal := widen principal
  reportedValue := widen principal
  realizedLoss := widen a.position.cumulativeRealizedLoss
  unattributedBalance := widen a.position.unattributedCustody
  latestCompletedTransferId := a.position.latestCompletedTransferId
  probeStatus := noProbeStatus
  probeTimestamp := .zero
  configVersion := a.config.configVersion
  remoteStateCommitment := commitment

/-- `adapterPrincipal` is what the adapter's account shows, `layoutKept` that it still has the
pinned layout. -/
def publishRemoteReport (a : Accounts) (ctx : Context) (epochId adapterPrincipal : U64)
    (layoutKept supplied : Bool) : Except RemoteLegError Accounts := do
  a.checkOutboundLane
  rejectIf (layoutKept = false) .adapterStateMismatch
  let a ← a.reconcileCustody
  checkDeployed a.position adapterPrincipal
  let inFlight ← a.inFlightAttribution supplied
  let principal ← remotePrincipal a.position
  let commitment := digests.remoteState {
    configVersion := a.config.configVersion
    frozen := a.config.frozen
    position := a.position
    custodyBalance := a.custody
    adapterPrincipal := adapterPrincipal }
  let now ← ctx.currentTime
  let message ← a.build now
    (.remoteReport (a.reportBody epochId (principal.saturatingSub inFlight) commitment))
  a.publish digests message .remoteReport a.position.latestCompletedTransferId epochId ctx.clock

/-- Accepts only a recall that has fully unwound, and returns its send time. -/
def checkEligible (record : TransferRecord) (now : U64) : Except RemoteLegError U64 := do
  rejectIf (record.transferKind ≠ .recall) .invalidRecallIdentity
  rejectIf (record.status ≠ .complete) .recallNotComplete
  let settled ← checkedAdd record.assetsSent record.realizedLoss
  rejectIf (settled ≠ record.requestedRecallAmount) .recallNotComplete
  rejectIf (record.completedAt.seconds = 0) .invalidPublicationTimestamp
  let sentTimestamp ← record.completedAt.toU64 .invalidPublicationTimestamp
  rejectIf (now < sentTimestamp) .invalidPublicationTimestamp
  pure sentTimestamp

def recallSentBody (a : Accounts) (record : TransferRecord) (sentTimestamp : U64) :
    RecallSentBody where
  transferId := record.transferId
  principalSent := widen record.requestedRecallAmount
  actualAmountSent := widen record.assetsSent
  realizedLoss := widen record.realizedLoss
  destinationReference := a.config.outboundEscrow
  sentTimestamp := sentTimestamp
  configVersion := a.config.configVersion

/-- The terminal notice of one recall, published once. -/
def publishRecallSent (a : Accounts) (ctx : Context) (transferId : Bytes32) :
    Except RemoteLegError Accounts := do
  let record ← a.loadRecord transferId
  a.checkOutboundLane
  let now ← ctx.currentTime
  let sentTimestamp ← checkEligible record now
  checkAvailable (a.recallMarkers record.transferId) .recallSentAlreadyPublished
  let message ← a.build now (.recallSent (a.recallSentBody record sentTimestamp))
  let published ← a.publish digests message .recallSent record.transferId .zero ctx.clock
  pure { published with
    recallMarkers := Function.update a.recallMarkers record.transferId
      (some ⟨record.transferId, a.outbound.nextSequence, digests.messageId message, ctx.clock⟩) }

/- Settlements. -/

/-- What one close or recovery settled. -/
structure Settlement where
  kind : SettlementKind
  claimAmount : U128
  creditedAmount : U64
  ledger : TransportLedger
deriving DecidableEq

/-- Ends the open allocation and takes any custody that already arrived, as an attribution
would. A quarantined one was never admitted, so it takes nothing. A complete one already settled
here and is only settled towards the vault. -/
def endAllocation (a : Accounts) (record : TransferRecord) (now : UnixTimestamp) :
    Except RemoteLegError (TransferRecord × RemotePosition) :=
  let held := a.position.holdsAllocation record.transferId record.messageSequence
  match record.status with
  | .pending => do
      rejectIf (¬(held ∧ a.position.activeTransferStatus = .pending)) .invalidTransferRecord
      let position ← reconcile a.position a.custody
      let outstanding ← record.outstandingAllocation
      let attributedNow := minimum outstanding position.unattributedCustody
      let position ← position.attributeNow attributedNow
      let attributed ← checkedAdd record.attributedAmount attributedNow
      checkIdentity position a.custody
      pure ({ record with attributedAmount := attributed, completedAt := now },
        position.closeTransfer)
  | .quarantined => do
      rejectIf (¬(held ∧ a.position.activeTransferStatus = .quarantined)) .invalidTransferRecord
      rejectIf (record.attributedAmount.isZero = false) .invalidTransferRecord
      pure ({ record with completedAt := now }, a.position.closeTransfer)
  | .complete => do
      a.position.checkNoActiveTransfer
      rejectIf (a.position.latestCompletedTransferId ≠ record.transferId) .invalidTransferRecord
      rejectIf (record.attributedAmount ≠ record.authorizedAmount) .invalidTransferRecord
      pure (record, a.position)
  | _ => .error .transferNotClosable

/-- Ends the named allocation and credits exactly what custody explains. -/
def close (a : Accounts) (body : ResolveBody) (ledger : TransportLedger) (now : UnixTimestamp) :
    Except RemoteLegError (Accounts × Settlement) := do
  let record ← a.loadRecord body.transferId
  rejectIf (record.transferKind ≠ .allocate) .invalidTransferKind
  rejectIf (¬(record.transferId = body.transferId ∧
    record.messageSequence = body.targetSequence)) .invalidTransferRecord
  record.checkAllocationShape
  let ended ← a.endAllocation record now
  let record := ended.1
  rejectIf (record.authorizedAmount < record.attributedAmount) .attributionExceedsAuthorization
  let ledger ← ledger.recordClose record.authorizedAmount record.attributedAmount
    record.messageSequence
  pure ({ a.storeRecord body.transferId { record with status := .closed } with
      position := ended.2 },
    ⟨.closed, widen record.authorizedAmount, record.attributedAmount, ledger⟩)

/-- The pool, narrowed to the token amount type. -/
def narrowPool (impaired : U128) : U64 :=
  if fits : impaired.raw < 2 ^ 64 then ⟨impaired.raw, fits⟩ else .max

/-- Credits verified unattributed custody against the impaired pool. The credit is capped by the
pool and by the principal ceiling. -/
def recover (a : Accounts) (body : ResolveBody) (sequence : U64) (ledger : TransportLedger)
    (now : UnixTimestamp) : Except RemoteLegError (Accounts × Settlement) := do
  rejectIf (¬(ledger.impairedOutstanding.isZero = false ∧
    body.targetSequence = ledger.lastImpairedSequence)) .recoveryStateMismatch
  a.position.checkNoActiveTransfer
  checkAvailable (a.transferRecords body.transferId) .transferAlreadyExists
  let position ← reconcile a.position a.custody
  let committed ← position.committedPrincipal
  let headroom := a.maxRemotePrincipal.saturatingSub committed
  let credited := minimum (minimum position.unattributedCustody
    (narrowPool ledger.impairedOutstanding)) headroom
  let position ← position.attributeNow credited
  checkIdentity position a.custody
  let drawn ← ledger.recordRecovery credited
  pure ({ a.storeRecord body.transferId
        (.newRecovery body.transferId sequence credited now) with
      position := position },
    ⟨.recovered, ledger.impairedOutstanding, credited, drawn⟩)

/-- The ledger as loaded, empty while no close created it. -/
def loadLedger (a : Accounts) : Except RemoteLegError TransportLedger :=
  match a.ledger with
  | some ledger => do
      ledger.checkBalanced
      pure ledger
  | none => pure .empty

def settlementBody (a : Accounts) (transferId : Bytes32) (settlement : Settlement) :
    TransportSettlementBody where
  transferId := transferId
  kind := settlement.kind
  claimAmount := settlement.claimAmount
  creditedAmount := widen settlement.creditedAmount
  impairedOutstanding := settlement.ledger.impairedOutstanding
  configVersion := a.config.configVersion

/-- The close or the recovery the resolution asks for. -/
def settle (a : Accounts) (body : ResolveBody) (sequence : U64) (now : UnixTimestamp) :
    Except RemoteLegError (Accounts × Settlement) := do
  let ledger ← a.loadLedger
  match body.action with
  | .close => a.close body ledger now
  | .recover => do
      rejectIf a.ledger.isNone .recoveryStateMismatch
      a.recover body sequence ledger now
  | .admitTransfer => .error .wrongResolveInstruction

/-- Publishing here puts the settlement ahead of every later report on the outbound lane. A late
resolution still binds: skipping it would strand the vault's cycle. -/
def processSettlement (a : Accounts) (ctx : Context) (message : Message) :
    Except RemoteLegError Accounts := do
  ctx.requireVerifier
  a.checkControlLane
  a.checkOutboundLane
  let now ← ctx.currentTime
  validateInbound message .resolve a.config a.control now
  match message.body with
  | .resolve body => do
      rejectIf (body.action = .admitTransfer) .wrongResolveInstruction
      a.checkConfigVersion body.configVersion
      checkAvailable (a.consumedMessages message.header.sequence) .replayDetected
      ctx.requireConsent a.config
      let settled ← a.settle body message.header.sequence ctx.clock
      let a := { settled.1 with ledger := some settled.2.ledger }
      let notice ← a.build now
        (.transportSettlement (a.settlementBody body.transferId settled.2))
      let a ← a.publish digests notice .transportSettlement body.transferId .zero ctx.clock
      pure (a.consume digests.toHashing .resolve message)
  | _ => .error .unsupportedMessageType

end Accounts

end Leg
