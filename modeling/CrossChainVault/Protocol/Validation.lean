import CrossChainVault.Protocol.Message

set_option autoImplicit false

/- The shared codec's stateless rules. Both the encoder and the decoder apply them. -/

namespace Protocol

open Result

inductive IdentifierField
  | sourceChain
  | destinationChain
  | sourceApplication
  | destinationApplication
  | deployment
  | vault
  | lane
  | sequence
  | transfer
  | targetSequence
  | epoch
  | configVersion
  | remoteStateCommitment
  | destinationReference
  | configCommitment
deriving DecidableEq, Repr

inductive AmountField
  | amount
  | minimumDestinationAmount
  | requestedAmount
  | minimumReturnAmount
  | principalSent
  | claimAmount
  | maxReportAge
deriving DecidableEq, Repr

inductive ValidationError
  | zeroIdentifier (field : IdentifierField)
  | zeroAmount (field : AmountField)
  | reservedFlagsSet
  | sourceEqualsDestinationChain
  | sourceEqualsDestinationApplication
  | publicationBeforeObservation
  | expirationBeforePublication
  | minimumAboveAmount
  | deadlineBeforePublication
  | targetNotBeforeResolution
  | probeTimestampAfterObservation
  | missingProbeTimestamp
  | realizedLossAbovePrincipal
  | sentTimestampAfterObservation
  | creditAboveClaim
  | impairmentBelowShortfall
  | recoveryImpairmentMismatch
  | configVersionNotIncreasing
  | basisPointsOutOfRange
  | effectiveTimestampBeforePublication
deriving DecidableEq, Repr

def Header.validate (header : Header) : Except ValidationError Unit := do
  rejectIf header.sourceChain.isZero (.zeroIdentifier .sourceChain)
  rejectIf header.destinationChain.isZero (.zeroIdentifier .destinationChain)
  rejectIf (header.sourceChain = header.destinationChain) .sourceEqualsDestinationChain
  rejectIf header.sourceApplication.isZero (.zeroIdentifier .sourceApplication)
  rejectIf header.destinationApplication.isZero (.zeroIdentifier .destinationApplication)
  rejectIf (header.sourceApplication = header.destinationApplication)
    .sourceEqualsDestinationApplication
  rejectIf header.deploymentId.isZero (.zeroIdentifier .deployment)
  rejectIf header.vaultId.isZero (.zeroIdentifier .vault)
  rejectIf header.laneId.isZero (.zeroIdentifier .lane)
  rejectIf header.sequence.isZero (.zeroIdentifier .sequence)
  rejectIf (header.publishedAt < header.observedAt) .publicationBeforeObservation
  rejectIf (header.expiresAt < header.publishedAt) .expirationBeforePublication

def AllocateBody.validate (body : AllocateBody) (publishedAt : Unsigned 64) :
    Except ValidationError Unit := do
  rejectIf body.transferId.isZero (.zeroIdentifier .transfer)
  rejectIf body.amount.isZero (.zeroAmount .amount)
  rejectIf body.minimumDestinationAmount.isZero (.zeroAmount .minimumDestinationAmount)
  rejectIf (body.amount < body.minimumDestinationAmount) .minimumAboveAmount
  rejectIf (body.deadline < publishedAt) .deadlineBeforePublication
  rejectIf body.configVersion.isZero (.zeroIdentifier .configVersion)

def RecallBody.validate (body : RecallBody) (publishedAt : Unsigned 64) :
    Except ValidationError Unit := do
  rejectIf body.transferId.isZero (.zeroIdentifier .transfer)
  rejectIf body.requestedAmount.isZero (.zeroAmount .requestedAmount)
  rejectIf body.minimumReturnAmount.isZero (.zeroAmount .minimumReturnAmount)
  rejectIf (body.requestedAmount < body.minimumReturnAmount) .minimumAboveAmount
  rejectIf (body.deadline < publishedAt) .deadlineBeforePublication
  rejectIf body.configVersion.isZero (.zeroIdentifier .configVersion)

def RemoteReportBody.validate (body : RemoteReportBody) (observedAt : Unsigned 64) :
    Except ValidationError Unit := do
  rejectIf body.epochId.isZero (.zeroIdentifier .epoch)
  rejectIf body.configVersion.isZero (.zeroIdentifier .configVersion)
  rejectIf body.remoteStateCommitment.isZero (.zeroIdentifier .remoteStateCommitment)
  rejectIf (observedAt < body.probeTimestamp) .probeTimestampAfterObservation
  rejectIf (body.probeStatus = .fresh ∧ body.probeTimestamp.isZero) .missingProbeTimestamp

/-- A total loss sends nothing back, so a zero amount is a real result. -/
def RecallSentBody.validate (body : RecallSentBody) (observedAt : Unsigned 64) :
    Except ValidationError Unit := do
  rejectIf body.transferId.isZero (.zeroIdentifier .transfer)
  rejectIf body.principalSent.isZero (.zeroAmount .principalSent)
  rejectIf (body.principalSent < body.realizedLoss) .realizedLossAbovePrincipal
  rejectIf body.destinationReference.isZero (.zeroIdentifier .destinationReference)
  rejectIf (observedAt < body.sentTimestamp) .sentTimestampAfterObservation
  rejectIf body.configVersion.isZero (.zeroIdentifier .configVersion)

/-- Largest basis point value the protocol accepts. -/
def maxBasisPoints : Unsigned 16 := 10000

def ConfigUpdateBody.validate (body : ConfigUpdateBody) (publishedAt : Unsigned 64) :
    Except ValidationError Unit := do
  rejectIf body.configVersion.isZero (.zeroIdentifier .configVersion)
  rejectIf (body.configVersion ≤ body.previousConfigVersion) .configVersionNotIncreasing
  rejectIf (maxBasisPoints < body.maxRemoteAllocationBps ∨
    maxBasisPoints < body.maxUpwardDeviationBps ∨
    maxBasisPoints < body.maxDownwardDeviationBps) .basisPointsOutOfRange
  rejectIf body.maxReportAge.isZero (.zeroAmount .maxReportAge)
  rejectIf (body.effectiveTimestamp < publishedAt) .effectiveTimestampBeforePublication
  rejectIf body.configCommitment.isZero (.zeroIdentifier .configCommitment)

def ResolveBody.validate (body : ResolveBody) (sequence : Unsigned 64) :
    Except ValidationError Unit := do
  rejectIf body.transferId.isZero (.zeroIdentifier .transfer)
  rejectIf body.targetSequence.isZero (.zeroIdentifier .targetSequence)
  rejectIf (sequence ≤ body.targetSequence) .targetNotBeforeResolution
  rejectIf body.configVersion.isZero (.zeroIdentifier .configVersion)

/-- The uncredited part of the claim. -/
def TransportSettlementBody.shortfall (body : TransportSettlementBody) : Unsigned 128 :=
  body.claimAmount.saturatingSub body.creditedAmount

def TransportSettlementBody.validate (body : TransportSettlementBody) :
    Except ValidationError Unit := do
  rejectIf body.transferId.isZero (.zeroIdentifier .transfer)
  rejectIf body.claimAmount.isZero (.zeroAmount .claimAmount)
  rejectIf (body.claimAmount < body.creditedAmount) .creditAboveClaim
  match body.kind with
  | .closed => rejectIf (body.impairedOutstanding < body.shortfall) .impairmentBelowShortfall
  | .recovered =>
      rejectIf (body.impairedOutstanding ≠ body.shortfall) .recoveryImpairmentMismatch
  rejectIf body.configVersion.isZero (.zeroIdentifier .configVersion)

def Message.validate (message : Message) : Except ValidationError Unit := do
  message.header.validate
  match message.body with
  | .allocate body => body.validate message.header.publishedAt
  | .recall body => body.validate message.header.publishedAt
  | .remoteReport body => body.validate message.header.observedAt
  | .recallSent body => body.validate message.header.observedAt
  | .configUpdate body => body.validate message.header.publishedAt
  | .resolve body => body.validate message.header.sequence
  | .transportSettlement body => body.validate

end Protocol
