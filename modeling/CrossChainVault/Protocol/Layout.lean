import CrossChainVault.Protocol.Message

set_option autoImplicit false

/- Every byte offset and length of the wire format. Fields are packed with no padding. -/

namespace Protocol.Layout

/-- Width of a wide identifier. -/
def wide : Nat := 32

-- Header field offsets.

def magicOffset : Nat := 0
def magicLen : Nat := 4
def protocolVersionOffset : Nat := magicOffset + magicLen
def schemaVersionOffset : Nat := protocolVersionOffset + 2
def messageTypeOffset : Nat := schemaVersionOffset + 2
def flagsOffset : Nat := messageTypeOffset + 1
def sourceChainOffset : Nat := flagsOffset + 2
def destinationChainOffset : Nat := sourceChainOffset + 4
def sourceApplicationOffset : Nat := destinationChainOffset + 4
def destinationApplicationOffset : Nat := sourceApplicationOffset + wide
def deploymentIdOffset : Nat := destinationApplicationOffset + wide
def vaultIdOffset : Nat := deploymentIdOffset + wide
def laneIdOffset : Nat := vaultIdOffset + wide
def sequenceOffset : Nat := laneIdOffset + 4
def previousCommitmentOffset : Nat := sequenceOffset + 8
def observedAtOffset : Nat := previousCommitmentOffset + wide
def publishedAtOffset : Nat := observedAtOffset + 8
def expiresAtOffset : Nat := publishedAtOffset + 8
def bodyHashOffset : Nat := expiresAtOffset + 8

/-- Bytes before the body starts. -/
def headerLen : Nat := bodyHashOffset + wide

-- Allocate body.

def allocateTransferIdOffset : Nat := 0
def allocateAmountOffset : Nat := allocateTransferIdOffset + wide
def allocateExpectedSourceBalanceOffset : Nat := allocateAmountOffset + 16
def allocateMinimumDestinationAmountOffset : Nat := allocateExpectedSourceBalanceOffset + 16
def allocateDeadlineOffset : Nat := allocateMinimumDestinationAmountOffset + 16
def allocateConfigVersionOffset : Nat := allocateDeadlineOffset + 8
def allocateBodyLen : Nat := allocateConfigVersionOffset + 8

-- Recall body.

def recallTransferIdOffset : Nat := 0
def recallRequestedAmountOffset : Nat := recallTransferIdOffset + wide
def recallMinimumReturnAmountOffset : Nat := recallRequestedAmountOffset + 16
def recallDeadlineOffset : Nat := recallMinimumReturnAmountOffset + 16
def recallConfigVersionOffset : Nat := recallDeadlineOffset + 8
def recallBodyLen : Nat := recallConfigVersionOffset + 8

-- Remote report body.

def reportEpochIdOffset : Nat := 0
def reportRemotePrincipalOffset : Nat := reportEpochIdOffset + 8
def reportReportedValueOffset : Nat := reportRemotePrincipalOffset + 16
def reportRealizedLossOffset : Nat := reportReportedValueOffset + 16
def reportUnattributedBalanceOffset : Nat := reportRealizedLossOffset + 16
def reportLatestCompletedTransferIdOffset : Nat := reportUnattributedBalanceOffset + 16
def reportProbeStatusOffset : Nat := reportLatestCompletedTransferIdOffset + wide
def reportProbeTimestampOffset : Nat := reportProbeStatusOffset + 1
def reportConfigVersionOffset : Nat := reportProbeTimestampOffset + 8
def reportRemoteStateCommitmentOffset : Nat := reportConfigVersionOffset + 8
def remoteReportBodyLen : Nat := reportRemoteStateCommitmentOffset + wide

-- Recall sent body.

def recallSentTransferIdOffset : Nat := 0
def recallSentPrincipalSentOffset : Nat := recallSentTransferIdOffset + wide
def recallSentActualAmountSentOffset : Nat := recallSentPrincipalSentOffset + 16
def recallSentRealizedLossOffset : Nat := recallSentActualAmountSentOffset + 16
def recallSentDestinationReferenceOffset : Nat := recallSentRealizedLossOffset + 16
def recallSentSentTimestampOffset : Nat := recallSentDestinationReferenceOffset + wide
def recallSentConfigVersionOffset : Nat := recallSentSentTimestampOffset + 8
def recallSentBodyLen : Nat := recallSentConfigVersionOffset + 8

-- Config update body.

def configVersionOffset : Nat := 0
def configPreviousVersionOffset : Nat := configVersionOffset + 8
def configMaxRemoteAllocationBpsOffset : Nat := configPreviousVersionOffset + 8
def configMaxUpwardDeviationBpsOffset : Nat := configMaxRemoteAllocationBpsOffset + 2
def configMaxDownwardDeviationBpsOffset : Nat := configMaxUpwardDeviationBpsOffset + 2
def configMaxReportAgeOffset : Nat := configMaxDownwardDeviationBpsOffset + 2
def configEffectiveTimestampOffset : Nat := configMaxReportAgeOffset + 8
def configCommitmentOffset : Nat := configEffectiveTimestampOffset + 8
def configUpdateBodyLen : Nat := configCommitmentOffset + wide

-- Resolve body.

def resolveTransferIdOffset : Nat := 0
def resolveTargetSequenceOffset : Nat := resolveTransferIdOffset + wide
def resolveActionOffset : Nat := resolveTargetSequenceOffset + 8
def resolveConfigVersionOffset : Nat := resolveActionOffset + 1
def resolveBodyLen : Nat := resolveConfigVersionOffset + 8

-- Transport settlement body.

def settlementTransferIdOffset : Nat := 0
def settlementKindOffset : Nat := settlementTransferIdOffset + wide
def settlementClaimAmountOffset : Nat := settlementKindOffset + 1
def settlementCreditedAmountOffset : Nat := settlementClaimAmountOffset + 16
def settlementImpairedOutstandingOffset : Nat := settlementCreditedAmountOffset + 16
def settlementConfigVersionOffset : Nat := settlementImpairedOutstandingOffset + 16
def transportSettlementBodyLen : Nat := settlementConfigVersionOffset + 8

-- Whole message lengths.

def allocateMessageLen : Nat := headerLen + allocateBodyLen
def recallMessageLen : Nat := headerLen + recallBodyLen
def remoteReportMessageLen : Nat := headerLen + remoteReportBodyLen
def recallSentMessageLen : Nat := headerLen + recallSentBodyLen
def configUpdateMessageLen : Nat := headerLen + configUpdateBodyLen
def resolveMessageLen : Nat := headerLen + resolveBodyLen
def transportSettlementMessageLen : Nat := headerLen + transportSettlementBodyLen

/-- Largest body across every message type. -/
def maxBodyLen : Nat := remoteReportBodyLen

/-- Largest whole message across every message type. -/
def maxMessageLen : Nat := headerLen + maxBodyLen

end Protocol.Layout

namespace Protocol

inductive MessageType
  | allocate
  | recall
  | remoteReport
  | recallSent
  | configUpdate
  | resolve
  | transportSettlement
deriving DecidableEq, Repr

/-- Bytes the body of this kind always occupies. -/
def MessageType.bodyLen : MessageType → Nat
  | .allocate => Layout.allocateBodyLen
  | .recall => Layout.recallBodyLen
  | .remoteReport => Layout.remoteReportBodyLen
  | .recallSent => Layout.recallSentBodyLen
  | .configUpdate => Layout.configUpdateBodyLen
  | .resolve => Layout.resolveBodyLen
  | .transportSettlement => Layout.transportSettlementBodyLen

/-- Bytes a whole message of this kind always occupies. -/
def MessageType.messageLen : MessageType → Nat
  | .allocate => Layout.allocateMessageLen
  | .recall => Layout.recallMessageLen
  | .remoteReport => Layout.remoteReportMessageLen
  | .recallSent => Layout.recallSentMessageLen
  | .configUpdate => Layout.configUpdateMessageLen
  | .resolve => Layout.resolveMessageLen
  | .transportSettlement => Layout.transportSettlementMessageLen

theorem MessageType.messageLen_eq (kind : MessageType) :
    kind.messageLen = Layout.headerLen + kind.bodyLen := by
  cases kind <;> rfl

theorem MessageType.messageLen_le (kind : MessageType) :
    kind.messageLen ≤ Layout.maxMessageLen := by
  cases kind <;> decide

/-- Distinct widths are what make a swapped message type fail on total length. -/
theorem MessageType.bodyLen_inj {a b : MessageType} (same : a.bodyLen = b.bodyLen) : a = b := by
  revert same
  cases a <;> cases b <;> decide

end Protocol
