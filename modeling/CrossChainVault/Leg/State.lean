import CrossChainVault.Protocol.Validation

set_option autoImplicit false

/- The accounts of the remote leg and the operations on each of them alone. -/

namespace Leg

open Result Protocol

abbrev U64 := Unsigned 64

abbrev U128 := Unsigned 128

/-- Why an instruction failed. A failed instruction leaves every account as it was. -/
inductive RemoteLegError
  | unauthorized
  | frozen
  | alreadyFrozen
  | invalidSourceDomain
  | invalidDestinationDomain
  | invalidApplication
  | invalidDeployment
  | invalidVault
  | invalidLane
  | invalidConfigVersion
  | invalidRiskConfig
  | invalidBasisPoints
  | invalidReportAge
  | invalidConfigCommitment
  | configNotEffective
  | invalidStrategyConfig
  | arithmeticOverflow
  | invalidMessage
  | messageTooLarge
  | invalidProtocolVersion
  | invalidSchemaVersion
  | invalidConsumedMessage
  | unsupportedMessageType
  | invalidTimestamp
  | invalidSequence
  | sequenceBelowWatermark
  | invalidPreviousCommitment
  | replayDetected
  | invalidWatermark
  | watermarkLagViolation
  | recordNotClosable
  | invalidTransferRecord
  | invalidTransferKind
  | invalidTransferStatus
  | transferAlreadyExists
  | unresolvedCycle
  | noActiveTransfer
  | attributionExceedsAuthorization
  | noAttributableAssets
  | invalidMinimumDestinationAmount
  | insufficientAttributedCustody
  | insufficientRemotePrincipal
  | insufficientStrategyLiquidity
  | invalidBalanceDelta
  | invalidPrincipalDelta
  | invalidRealizedLoss
  | invalidRecallAmount
  | invalidMinimumReturn
  | noRecalledCustody
  | financialObligationBlocksWatermark
  | accountingDeficit
  | amountTooLarge
  | invalidPublicationTimestamp
  | reportAlreadyPublished
  | recallNotComplete
  | recallSentAlreadyPublished
  | invalidRecallIdentity
  | adapterStateMismatch
  | invalidOutboundMessage
  | invalidEncodedLength
  | reportTooLarge
  | custodyControlChanged
  | wrongResolveInstruction
  | transferNotClosable
  | recoveryStateMismatch
  | transportLedgerImbalance
  | missingActiveTransferRecord
  | deploymentAuthorizationRequired
  -- The token program's own failures.
  | insufficientFunds
  | tokenOverflow
deriving DecidableEq, Repr

/-- The chain clock: a signed 64-bit count of seconds. -/
structure UnixTimestamp where
  seconds : Int
  lower : -2 ^ 63 ≤ seconds
  upper : seconds < 2 ^ 63
deriving DecidableEq

theorem UnixTimestamp.ext {time other : UnixTimestamp} (same : time.seconds = other.seconds) :
    time = other := by
  cases time
  cases other
  cases same
  rfl

def UnixTimestamp.zero : UnixTimestamp := ⟨0, by decide, by decide⟩

/-- The protocol time of a clock reading, or `failure` before the epoch. -/
def UnixTimestamp.toU64 (time : UnixTimestamp) (failure : RemoteLegError) :
    Except RemoteLegError U64 :=
  if 0 ≤ time.seconds then
    .ok ⟨time.seconds.toNat, by have := time.upper; omega⟩
  else .error failure

def checkedAdd {bits : Nat} (a b : Unsigned bits) : Except RemoteLegError (Unsigned bits) :=
  a.checkedAdd b .arithmeticOverflow

def checkedIncrement (a : U64) : Except RemoteLegError U64 := checkedAdd a 1

def widen (amount : U64) : U128 :=
  ⟨amount.raw, Nat.lt_of_lt_of_le amount.bound (by decide)⟩

def minimum {bits : Nat} (a b : Unsigned bits) : Unsigned bits := if a ≤ b then a else b

/-- Narrows a protocol amount to the token amount this chain uses. -/
def narrowAmount (amount : U128) : Except RemoteLegError U64 :=
  if fits : amount.raw < 2 ^ 64 then .ok ⟨amount.raw, fits⟩ else .error .amountTooLarge

/-- Inbound control message classes that share one protocol lane. -/
inductive MessageClass
  | allocate
  | recall
  | configUpdate
  | resolve
deriving DecidableEq, Repr

inductive TransferKind
  | none
  | allocate
  | recall
  /-- Settles in the instruction that creates it, so it is never open. -/
  | recover
deriving DecidableEq, Repr

inductive TransferStatus
  | none
  | pending
  | complete
  /-- Consumed in order but not allowed to run. -/
  | quarantined
  /-- Ended after its deadline by an explicit close. -/
  | closed
deriving DecidableEq, Repr

inductive QuarantineReason
  | expired
  | frozen
  | allocationLimit
deriving DecidableEq, Repr

/-- What one resolution did to the transfer it names. -/
inductive ResolveOutcome
  | admitted
  | expired
  | notQuarantined
  | allocationLimit
  | insufficientPrincipal
deriving DecidableEq, Repr

/-- Deployment settings plus the one freeze flag. -/
structure RemoteConfig where
  frozen : Bool
  outboundEscrow : Bytes32
  sourceChainId : Unsigned 32
  destinationChainId : Unsigned 32
  sourceApplicationId : Bytes32
  localApplicationId : Bytes32
  deploymentId : Bytes32
  vaultId : Bytes32
  controlLaneId : Unsigned 32
  reportLaneId : Unsigned 32
  configVersion : U64
deriving DecidableEq

/-- Risk limits the canonical vault controls through config messages. -/
structure RiskConfig where
  maxRemoteAllocationBps : Unsigned 16
  maxUpwardDeviationBps : Unsigned 16
  maxDownwardDeviationBps : Unsigned 16
  maxReportAge : U64
  configVersion : U64
  configCommitment : Bytes32
deriving DecidableEq

/-- Rejects any risk parameter outside its documented range. -/
def RiskConfig.checkParameters (risk : RiskConfig) : Except RemoteLegError Unit := do
  rejectIf (maxBasisPoints < risk.maxRemoteAllocationBps) .invalidBasisPoints
  rejectIf (maxBasisPoints < risk.maxUpwardDeviationBps) .invalidBasisPoints
  rejectIf (maxBasisPoints < risk.maxDownwardDeviationBps) .invalidBasisPoints
  rejectIf risk.maxReportAge.isZero .invalidReportAge
  rejectIf risk.configCommitment.isZero .invalidConfigCommitment

/-- Every asset bucket the leg tracks, plus the one open transfer. -/
structure RemotePosition where
  attributedPrincipal : U64
  deployedPrincipal : U64
  recalledCustody : U64
  unattributedCustody : U64
  cumulativeRealizedLoss : U64
  activeTransferId : Bytes32
  activeTransferKind : TransferKind
  activeTransferSequence : U64
  activeTransferStatus : TransferStatus
  latestCompletedTransferId : Bytes32
  latestCompletionAt : UnixTimestamp
deriving DecidableEq

namespace RemotePosition

def empty : RemotePosition where
  attributedPrincipal := .zero
  deployedPrincipal := .zero
  recalledCustody := .zero
  unattributedCustody := .zero
  cumulativeRealizedLoss := .zero
  activeTransferId := .zero
  activeTransferKind := .none
  activeTransferSequence := .zero
  activeTransferStatus := .none
  latestCompletedTransferId := .zero
  latestCompletionAt := .zero

def hasActiveTransfer (p : RemotePosition) : Bool := p.activeTransferKind ≠ .none

def checkNoActiveTransfer (p : RemotePosition) : Except RemoteLegError Unit :=
  rejectIf p.hasActiveTransfer .unresolvedCycle

/-- Custody tokens the leg has already explained. -/
def accountedCustody (p : RemotePosition) : Except RemoteLegError U64 := do
  let total ← checkedAdd p.attributedPrincipal p.recalledCustody
  checkedAdd total p.unattributedCustody

/-- Principal the vault has accepted on this chain. -/
def acceptedPrincipal (p : RemotePosition) : Except RemoteLegError U64 :=
  checkedAdd p.attributedPrincipal p.deployedPrincipal

/-- Principal the leg already holds or owes back, wherever it sits. -/
def committedPrincipal (p : RemotePosition) : Except RemoteLegError U64 := do
  let accepted ← p.acceptedPrincipal
  checkedAdd accepted p.recalledCustody

def openTransfer (p : RemotePosition) (kind : TransferKind) (transferId : Bytes32)
    (sequence : U64) : RemotePosition :=
  { p with
    activeTransferKind := kind
    activeTransferId := transferId
    activeTransferSequence := sequence
    activeTransferStatus := .pending }

/-- Opens one cycle that holds its place without being allowed to run. -/
def quarantineTransfer (p : RemotePosition) (kind : TransferKind) (transferId : Bytes32)
    (sequence : U64) : RemotePosition :=
  { p.openTransfer kind transferId sequence with activeTransferStatus := .quarantined }

def admitTransfer (p : RemotePosition) : RemotePosition :=
  { p with activeTransferStatus := .pending }

def holdsQuarantined (p : RemotePosition) (transferId : Bytes32) (sequence : U64) : Bool :=
  p.hasActiveTransfer && p.activeTransferStatus = .quarantined &&
    p.activeTransferId = transferId && p.activeTransferSequence = sequence

/-- Ends the open cycle without naming it as completed. -/
def closeTransfer (p : RemotePosition) : RemotePosition :=
  { p with
    activeTransferKind := .none
    activeTransferId := .zero
    activeTransferSequence := .zero
    activeTransferStatus := .none }

def holdsAllocation (p : RemotePosition) (transferId : Bytes32) (sequence : U64) : Bool :=
  p.activeTransferKind = .allocate && p.activeTransferId = transferId &&
    p.activeTransferSequence = sequence

def completeTransfer (p : RemotePosition) (transferId : Bytes32) (completedAt : UnixTimestamp) :
    RemotePosition :=
  { p.closeTransfer with
    latestCompletedTransferId := transferId
    latestCompletionAt := completedAt }

end RemotePosition

/- Custody against the buckets that explain it. -/

/-- Moves any unexplained custody surplus into the unattributed bucket. -/
def reconcile (p : RemotePosition) (custodyAmount : U64) : Except RemoteLegError RemotePosition := do
  let accounted ← p.accountedCustody
  rejectIf (custodyAmount < accounted) .accountingDeficit
  let surplus ← custodyAmount.checkedSub accounted .accountingDeficit
  let unattributed ← checkedAdd p.unattributedCustody surplus
  pure { p with unattributedCustody := unattributed }

/-- Requires the buckets to add up to the custody balance exactly. -/
def checkIdentity (p : RemotePosition) (custodyAmount : U64) : Except RemoteLegError Unit := do
  let accounted ← p.accountedCustody
  rejectIf (custodyAmount ≠ accounted) .accountingDeficit

/-- Requires the adapter to hold exactly the principal the leg deployed. -/
def checkDeployed (p : RemotePosition) (adapterPrincipal : U64) : Except RemoteLegError Unit :=
  rejectIf (adapterPrincipal ≠ p.deployedPrincipal) .invalidPrincipalDelta

/-- Takes the waiting custody an allocation still misses, as much as there is. -/
def RemotePosition.attributeNow (p : RemotePosition) (attributedNow : U64) :
    Except RemoteLegError RemotePosition := do
  let unattributed ← p.unattributedCustody.checkedSub attributedNow .arithmeticOverflow
  let attributed ← checkedAdd p.attributedPrincipal attributedNow
  pure { p with unattributedCustody := unattributed, attributedPrincipal := attributed }

/-- One allocation or recall, from arrival to completion. Fields the kind does not use stay
zero. -/
structure TransferRecord where
  transferKind : TransferKind
  messageClass : MessageClass
  status : TransferStatus
  transferId : Bytes32
  messageSequence : U64
  authorizedAmount : U64
  attributedAmount : U64
  requestedRecallAmount : U64
  minimumAmount : U64
  custodyPrincipalReserved : U64
  strategyPrincipalResolved : U64
  assetsWithdrawn : U64
  assetsSent : U64
  realizedLoss : U64
  /-- Reported by the source chain, never verified here. -/
  expectedSourceBalance : U128
  createdAt : UnixTimestamp
  completedAt : UnixTimestamp
deriving DecidableEq

namespace TransferRecord

def newAllocation (transferId : Bytes32) (messageSequence authorizedAmount minimumAmount : U64)
    (expectedSourceBalance : U128) (createdAt : UnixTimestamp) : TransferRecord where
  transferKind := .allocate
  messageClass := .allocate
  status := .pending
  transferId := transferId
  messageSequence := messageSequence
  authorizedAmount := authorizedAmount
  attributedAmount := .zero
  requestedRecallAmount := .zero
  minimumAmount := minimumAmount
  custodyPrincipalReserved := .zero
  strategyPrincipalResolved := .zero
  assetsWithdrawn := .zero
  assetsSent := .zero
  realizedLoss := .zero
  expectedSourceBalance := expectedSourceBalance
  createdAt := createdAt
  completedAt := .zero

def newRecall (transferId : Bytes32) (messageSequence requestedRecallAmount minimumAmount
    custodyPrincipalReserved : U64) (createdAt : UnixTimestamp) : TransferRecord where
  transferKind := .recall
  messageClass := .recall
  status := .pending
  transferId := transferId
  messageSequence := messageSequence
  authorizedAmount := .zero
  attributedAmount := .zero
  requestedRecallAmount := requestedRecallAmount
  minimumAmount := minimumAmount
  custodyPrincipalReserved := custodyPrincipalReserved
  strategyPrincipalResolved := .zero
  assetsWithdrawn := .zero
  assetsSent := .zero
  realizedLoss := .zero
  expectedSourceBalance := .zero
  createdAt := createdAt
  completedAt := .zero

/-- The record of one pooled recovery, settled as it is created. -/
def newRecovery (transferId : Bytes32) (messageSequence creditedAmount : U64)
    (createdAt : UnixTimestamp) : TransferRecord where
  transferKind := .recover
  messageClass := .resolve
  status := .complete
  transferId := transferId
  messageSequence := messageSequence
  authorizedAmount := creditedAmount
  attributedAmount := creditedAmount
  requestedRecallAmount := .zero
  minimumAmount := .zero
  custodyPrincipalReserved := .zero
  strategyPrincipalResolved := .zero
  assetsWithdrawn := .zero
  assetsSent := .zero
  realizedLoss := .zero
  expectedSourceBalance := .zero
  createdAt := createdAt
  completedAt := createdAt

def quarantined (record : TransferRecord) : TransferRecord :=
  { record with status := .quarantined }

/-- Rejects a record that is not the quarantined open cycle. -/
def checkQuarantined (record : TransferRecord) (p : RemotePosition) :
    Except RemoteLegError Unit := do
  rejectIf (record.status ≠ .quarantined) .invalidTransferStatus
  rejectIf (record.transferKind ≠ p.activeTransferKind) .invalidTransferKind
  rejectIf (¬(record.transferId = p.activeTransferId ∧
    record.messageSequence = p.activeTransferSequence)) .invalidTransferRecord

/-- Rejects a record that is not the open transfer of the wanted kind. -/
def checkActive (record : TransferRecord) (kind : TransferKind) (p : RemotePosition) :
    Except RemoteLegError Unit := do
  rejectIf (record.transferKind ≠ kind) .invalidTransferKind
  rejectIf (record.status ≠ .pending) .invalidTransferStatus
  rejectIf (p.activeTransferKind ≠ kind) .noActiveTransfer
  rejectIf (p.activeTransferId ≠ record.transferId) .invalidTransferRecord

/-- Fields an allocation never uses must stay at zero. -/
def checkAllocationShape (record : TransferRecord) : Except RemoteLegError Unit :=
  rejectIf (¬(record.requestedRecallAmount.isZero ∧ record.custodyPrincipalReserved.isZero ∧
    record.strategyPrincipalResolved.isZero ∧ record.assetsWithdrawn.isZero ∧
    record.assetsSent.isZero ∧ record.realizedLoss.isZero)) .invalidTransferRecord

/-- Fields a recall never uses must stay at zero. -/
def checkRecallShape (record : TransferRecord) : Except RemoteLegError Unit :=
  rejectIf (¬(record.authorizedAmount.isZero ∧ record.attributedAmount.isZero ∧
    record.expectedSourceBalance.isZero)) .invalidTransferRecord

/-- Amount of the authorization that is still waiting for assets. -/
def outstandingAllocation (record : TransferRecord) : Except RemoteLegError U64 :=
  record.authorizedAmount.checkedSub record.attributedAmount .attributionExceedsAuthorization

/-- Recall principal that is neither reserved from custody nor withdrawn. -/
def unresolvedRecallPrincipal (record : TransferRecord) : Except RemoteLegError U64 := do
  let resolved ← checkedAdd record.custodyPrincipalReserved record.strategyPrincipalResolved
  record.requestedRecallAmount.checkedSub resolved .invalidRecallAmount

end TransferRecord

/-- Reserves the attributed custody a recall can already cover. -/
def reserveRecallCustody (record : TransferRecord) (p : RemotePosition) :
    Except RemoteLegError (TransferRecord × RemotePosition) := do
  let reserved := minimum record.requestedRecallAmount p.attributedPrincipal
  let attributed ← p.attributedPrincipal.checkedSub reserved .insufficientAttributedCustody
  let recalled ← checkedAdd p.recalledCustody reserved
  pure ({ record with custodyPrincipalReserved := reserved },
    { p with attributedPrincipal := attributed, recalledCustody := recalled })

/-- Closes a recall once sent assets plus realized loss match the request. -/
def settleRecall (record : TransferRecord) (p : RemotePosition) (now : UnixTimestamp) :
    Except RemoteLegError (TransferRecord × RemotePosition) := do
  let settled ← checkedAdd record.assetsSent record.realizedLoss
  rejectIf (record.requestedRecallAmount < settled) .invalidRecallAmount
  if settled ≠ record.requestedRecallAmount then pure (record, p)
  else pure ({ record with status := .complete, completedAt := now },
    p.completeTransfer record.transferId now)

/-- Every closed claim, split into what was credited, what is still impaired and what was later
recovered. -/
structure TransportLedger where
  impairedOutstanding : U128
  cumulativeClosedClaim : U128
  cumulativeClosedCredit : U128
  cumulativeRecovered : U128
  /-- Message sequence of the last allocation closed with a shortfall. -/
  lastImpairedSequence : U64
  totalClosed : U64
  totalRecoveries : U64
deriving DecidableEq

namespace TransportLedger

def empty : TransportLedger := ⟨.zero, .zero, .zero, .zero, .zero, .zero, .zero⟩

/-- Every closed claim is credited, still impaired or recovered, exactly once. -/
def checkBalanced (ledger : TransportLedger) : Except RemoteLegError Unit := do
  let total ← checkedAdd ledger.cumulativeClosedCredit ledger.impairedOutstanding
  let explained ← checkedAdd total ledger.cumulativeRecovered
  rejectIf (explained ≠ ledger.cumulativeClosedClaim) .transportLedgerImbalance

/-- Adds one closed allocation. -/
def recordClose (ledger : TransportLedger) (claim credited sequence : U64) :
    Except RemoteLegError TransportLedger := do
  let shortfall ← claim.checkedSub credited .attributionExceedsAuthorization
  let closedClaim ← checkedAdd ledger.cumulativeClosedClaim (widen claim)
  let closedCredit ← checkedAdd ledger.cumulativeClosedCredit (widen credited)
  let impaired ← checkedAdd ledger.impairedOutstanding (widen shortfall)
  let totalClosed ← checkedIncrement ledger.totalClosed
  let closed := { ledger with
    cumulativeClosedClaim := closedClaim
    cumulativeClosedCredit := closedCredit
    impairedOutstanding := impaired
    lastImpairedSequence := if shortfall.isZero then ledger.lastImpairedSequence else sequence
    totalClosed := totalClosed }
  closed.checkBalanced
  pure closed

/-- Moves recovered assets out of the impaired pool. -/
def recordRecovery (ledger : TransportLedger) (credited : U64) :
    Except RemoteLegError TransportLedger := do
  let impaired ← ledger.impairedOutstanding.checkedSub (widen credited) .recoveryStateMismatch
  let recovered ← checkedAdd ledger.cumulativeRecovered (widen credited)
  let totalRecoveries ← checkedIncrement ledger.totalRecoveries
  let drawn := { ledger with
    impairedOutstanding := impaired
    cumulativeRecovered := recovered
    totalRecoveries := totalRecoveries }
  drawn.checkBalanced
  pure drawn

end TransportLedger

/-- Replay state of the inbound control lane. -/
structure ReplayLane where
  laneId : Unsigned 32
  minimumAcceptableSequence : U64
  highestConsumedSequence : U64
  messageCommitment : Bytes32
  mandatoryWatermarkLag : U64
deriving DecidableEq

/-- Proof that one exact message was already applied. -/
structure ConsumedMessage where
  messageClass : MessageClass
  laneId : Unsigned 32
  sequence : U64
  messageId : Bytes32
deriving DecidableEq

inductive ReportType
  | remoteReport
  | recallSent
  | transportSettlement
deriving DecidableEq, Repr

/-- One total order shared by every outbound message. -/
structure OutboundLane where
  laneId : Unsigned 32
  nextSequence : U64
  currentCommitment : Bytes32
  totalReports : U64
  totalRecallNotifications : U64
deriving DecidableEq

/-- Moves the lane on by one accepted message. Settlements are counted on the ledger instead. -/
def OutboundLane.advance (lane : OutboundLane) (reportType : ReportType)
    (nextCommitment : Bytes32) : Except RemoteLegError OutboundLane := do
  let nextSequence ← checkedIncrement lane.nextSequence
  let moved := { lane with nextSequence := nextSequence, currentCommitment := nextCommitment }
  match reportType with
  | .remoteReport => do
      let total ← checkedIncrement lane.totalReports
      pure { moved with totalReports := total }
  | .recallSent => do
      let total ← checkedIncrement lane.totalRecallNotifications
      pure { moved with totalRecallNotifications := total }
  | .transportSettlement => pure moved

/-- Proof that one exact message left the leg at one exact sequence. -/
structure ReportRecord where
  reportType : ReportType
  laneId : Unsigned 32
  sequence : U64
  messageId : Bytes32
  previousCommitment : Bytes32
  nextCommitment : Bytes32
  publishedAt : UnixTimestamp
  relatedTransferId : Bytes32
  epochId : U64
deriving DecidableEq

/-- Records that one recall already produced its terminal notice. -/
structure RecallSentMarker where
  transferId : Bytes32
  reportSequence : U64
  messageId : Bytes32
  publishedAt : UnixTimestamp
deriving DecidableEq

/-- Everything the leg owns: its program accounts, keyed by what their addresses derive from,
and its two token accounts. -/
structure Accounts where
  config : RemoteConfig
  risk : RiskConfig
  maxRemotePrincipal : U64
  position : RemotePosition
  control : ReplayLane
  outbound : OutboundLane
  /-- Created by the first close. -/
  ledger : Option TransportLedger
  transferRecords : Bytes32 → Option TransferRecord
  consumedMessages : U64 → Option ConsumedMessage
  reportRecords : U64 → Option ReportRecord
  recallMarkers : Bytes32 → Option RecallSentMarker
  custody : U64
  escrow : U64
  /-- The messages published so far, oldest first: one event each. -/
  published : List Message

/-- Who signed, and what the chain clock shows. -/
structure Context where
  clock : UnixTimestamp
  transportVerifier : Bool
  administrator : Bool
  emergencyGuardian : Bool
deriving DecidableEq

/-- Reads the chain clock and narrows it to the protocol time type. -/
def Context.currentTime (ctx : Context) : Except RemoteLegError U64 :=
  ctx.clock.toU64 .invalidTimestamp

def Context.requireVerifier (ctx : Context) : Except RemoteLegError Unit :=
  rejectIf (ctx.transportVerifier = false) .unauthorized

/-- While frozen, principal moves only with the guardian's consent. -/
def Context.requireConsent (ctx : Context) (config : RemoteConfig) : Except RemoteLegError Unit :=
  rejectIf (¬(config.frozen = false ∨ ctx.emergencyGuardian = true)) .frozen

/-- Rejects an account that already exists. -/
def checkAvailable {α : Type} (account : Option α) (alreadyUsed : RemoteLegError) :
    Except RemoteLegError Unit :=
  rejectIf account.isSome alreadyUsed

end Leg
