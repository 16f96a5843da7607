import CrossChainVault.Evm.Coordinator
import CrossChainVault.Evm.Memory

set_option autoImplicit false

/- The contracts' codec with its own offsets, over bodies that still hold raw bytes. -/

namespace Evm.ProtocolCodec

open Result
open Protocol (Header AllocateBody RecallBody RecallSentBody)

/-- "SVE1". -/
def magic : Unsigned 32 := ⟨0x53564531, by decide⟩

def protocolVersion : Unsigned 16 := 1
def schemaVersion : Unsigned 16 := 1

def typeAllocate : Unsigned 8 := 1
def typeRecall : Unsigned 8 := 2
def typeRemoteReport : Unsigned 8 := 3
def typeRecallSent : Unsigned 8 := 4
def typeResolve : Unsigned 8 := 6
def typeTransportSettlement : Unsigned 8 := 7

def headerLen : Nat := 247
def allocateBodyLen : Nat := 96
def recallBodyLen : Nat := 80
def resolveBodyLen : Nat := 49

def allocateMessageLen : Nat := 343
def recallMessageLen : Nat := 327
def remoteReportMessageLen : Nat := 400
def recallSentMessageLen : Nat := 375
def resolveMessageLen : Nat := 296
def transportSettlementMessageLen : Nat := 336

def resolveRecover : Unsigned 8 := 3
def settlementClosed : Unsigned 8 := 1
def settlementRecovered : Unsigned 8 := 2
def probeFresh : Unsigned 8 := 1
def probeFailed : Unsigned 8 := 3

/-- A report whose probe status is the byte on the wire. -/
structure RawRemoteReportBody where
  epochId : Uint64
  remotePrincipal : Uint128
  reportedValue : Uint128
  realizedLoss : Uint128
  unattributedBalance : Uint128
  latestCompletedTransferId : Bytes32
  probeStatus : Unsigned 8
  probeTimestamp : Uint64
  configVersion : Uint64
  remoteStateCommitment : Bytes32
deriving DecidableEq

/-- A resolution whose action is the byte on the wire. -/
structure RawResolveBody where
  transferId : Bytes32
  targetSequence : Uint64
  action : Unsigned 8
  configVersion : Uint64
deriving DecidableEq

/-- A settlement whose kind is the byte on the wire. -/
structure RawTransportSettlementBody where
  transferId : Bytes32
  kind : Unsigned 8
  claimAmount : Uint128
  creditedAmount : Uint128
  impairedOutstanding : Uint128
  configVersion : Uint64
deriving DecidableEq

def validateRawResolve (body : RawResolveBody) (sequence : Uint64) : Except Revert Unit := do
  rejectIf (body.transferId.isZero ∨ body.configVersion.isZero) .zeroIdentifier
  rejectIf body.targetSequence.isZero .zeroIdentifier
  rejectIf (sequence ≤ body.targetSequence) .targetNotBeforeResolution
  rejectIf (body.action.isZero ∨ resolveRecover < body.action) (.unknownResolveAction body.action)

def validateRawTransportSettlement (body : RawTransportSettlementBody) : Except Revert Unit := do
  rejectIf (body.transferId.isZero ∨ body.configVersion.isZero) .zeroIdentifier
  rejectIf (body.kind ≠ settlementClosed ∧ body.kind ≠ settlementRecovered)
    (.unknownSettlementKind body.kind)
  rejectIf body.claimAmount.isZero .zeroAmount
  rejectIf (body.claimAmount < body.creditedAmount) .creditAboveClaim
  let shortfall ← sub body.claimAmount body.creditedAmount
  if body.kind = settlementClosed then
    rejectIf (body.impairedOutstanding < shortfall) .impairmentBelowShortfall
  else
    rejectIf (body.impairedOutstanding ≠ shortfall) .recoveryImpairmentMismatch

def validateRawRemoteReport (body : RawRemoteReportBody) (observedAt : Uint64) :
    Except Revert Unit := do
  rejectIf (body.epochId.isZero ∨ body.configVersion.isZero) .zeroIdentifier
  rejectIf body.remoteStateCommitment.isZero .zeroIdentifier
  rejectIf (probeFailed < body.probeStatus) (.invalidProbeStatus body.probeStatus)
  rejectIf (observedAt < body.probeTimestamp) .probeTimestampAfterObservation
  rejectIf (body.probeStatus = probeFresh ∧ body.probeTimestamp.isZero) .missingProbeTimestamp

-- Regions.

def writeHeader (encoded : Bytes) (header : Header) (messageType : Unsigned 8)
    (bodyHash : Bytes32) : Except Revert Bytes := do
  let encoded ← writeBytes4 encoded 0 magic
  let encoded ← writeU16 encoded 4 protocolVersion
  let encoded ← writeU16 encoded 6 schemaVersion
  let encoded ← writeU8 encoded 8 messageType
  let encoded ← writeU16 encoded 9 Unsigned.zero
  let encoded ← writeU32 encoded 11 header.sourceChain
  let encoded ← writeU32 encoded 15 header.destinationChain
  let encoded ← writeBytes32 encoded 19 header.sourceApplication
  let encoded ← writeBytes32 encoded 51 header.destinationApplication
  let encoded ← writeBytes32 encoded 83 header.deploymentId
  let encoded ← writeBytes32 encoded 115 header.vaultId
  let encoded ← writeU32 encoded 147 header.laneId
  let encoded ← writeU64 encoded 151 header.sequence
  let encoded ← writeBytes32 encoded 159 header.previousCommitment
  let encoded ← writeU64 encoded 191 header.observedAt
  let encoded ← writeU64 encoded 199 header.publishedAt
  let encoded ← writeU64 encoded 207 header.expiresAt
  writeBytes32 encoded 215 bodyHash

def readHeader (encoded : Bytes) : Except Revert Header := do
  let flags ← readU16 encoded 9
  rejectIf (flags ≠ Unsigned.zero) (.reservedFlagsSet flags)
  let sourceChain ← readU32 encoded 11
  let destinationChain ← readU32 encoded 15
  let sourceApplication ← readBytes32 encoded 19
  let destinationApplication ← readBytes32 encoded 51
  let deploymentId ← readBytes32 encoded 83
  let vaultId ← readBytes32 encoded 115
  let laneId ← readU32 encoded 147
  let sequence ← readU64 encoded 151
  let previousCommitment ← readBytes32 encoded 159
  let observedAt ← readU64 encoded 191
  let publishedAt ← readU64 encoded 199
  let expiresAt ← readU64 encoded 207
  pure { sourceChain, destinationChain, sourceApplication, destinationApplication, deploymentId,
         vaultId, laneId, sequence, previousCommitment, observedAt, publishedAt, expiresAt }

def writeAllocateBody (encoded : Bytes) (off : Nat) (body : AllocateBody) :
    Except Revert Bytes := do
  let encoded ← writeBytes32 encoded off body.transferId
  let encoded ← writeU128 encoded (off + 32) body.amount
  let encoded ← writeU128 encoded (off + 48) body.expectedSourceBalance
  let encoded ← writeU128 encoded (off + 64) body.minimumDestinationAmount
  let encoded ← writeU64 encoded (off + 80) body.deadline
  writeU64 encoded (off + 88) body.configVersion

def writeRecallBody (encoded : Bytes) (off : Nat) (body : RecallBody) : Except Revert Bytes := do
  let encoded ← writeBytes32 encoded off body.transferId
  let encoded ← writeU128 encoded (off + 32) body.requestedAmount
  let encoded ← writeU128 encoded (off + 48) body.minimumReturnAmount
  let encoded ← writeU64 encoded (off + 64) body.deadline
  writeU64 encoded (off + 72) body.configVersion

def writeResolveBody (encoded : Bytes) (off : Nat) (body : RawResolveBody) :
    Except Revert Bytes := do
  let encoded ← writeBytes32 encoded off body.transferId
  let encoded ← writeU64 encoded (off + 32) body.targetSequence
  let encoded ← writeU8 encoded (off + 40) body.action
  writeU64 encoded (off + 41) body.configVersion

def readTransportSettlementBody (encoded : Bytes) (off : Nat) :
    Except Revert RawTransportSettlementBody := do
  let transferId ← readBytes32 encoded off
  let kind ← readU8 encoded (off + 32)
  let claimAmount ← readU128 encoded (off + 33)
  let creditedAmount ← readU128 encoded (off + 49)
  let impairedOutstanding ← readU128 encoded (off + 65)
  let configVersion ← readU64 encoded (off + 81)
  pure { transferId, kind, claimAmount, creditedAmount, impairedOutstanding, configVersion }

def readRemoteReportBody (encoded : Bytes) (off : Nat) : Except Revert RawRemoteReportBody := do
  let epochId ← readU64 encoded off
  let remotePrincipal ← readU128 encoded (off + 8)
  let reportedValue ← readU128 encoded (off + 24)
  let realizedLoss ← readU128 encoded (off + 40)
  let unattributedBalance ← readU128 encoded (off + 56)
  let latestCompletedTransferId ← readBytes32 encoded (off + 72)
  let probeStatus ← readU8 encoded (off + 104)
  let probeTimestamp ← readU64 encoded (off + 105)
  let configVersion ← readU64 encoded (off + 113)
  let remoteStateCommitment ← readBytes32 encoded (off + 121)
  pure { epochId, remotePrincipal, reportedValue, realizedLoss, unattributedBalance,
         latestCompletedTransferId, probeStatus, probeTimestamp, configVersion,
         remoteStateCommitment }

def readRecallSentBody (encoded : Bytes) (off : Nat) : Except Revert RecallSentBody := do
  let transferId ← readBytes32 encoded off
  let principalSent ← readU128 encoded (off + 32)
  let actualAmountSent ← readU128 encoded (off + 48)
  let realizedLoss ← readU128 encoded (off + 64)
  let destinationReference ← readBytes32 encoded (off + 80)
  let sentTimestamp ← readU64 encoded (off + 112)
  let configVersion ← readU64 encoded (off + 120)
  pure { transferId, principalSent, actualAmountSent, realizedLoss, destinationReference,
         sentTimestamp, configVersion }

-- The entry points.

section Hash

variable (keccak256 : Bytes → Bytes32)

def sealMessage (encoded : Bytes) (header : Header) (messageType : Unsigned 8) (bodyLen : Nat) :
    Except Revert Bytes := do
  let body ← slice encoded headerLen bodyLen
  writeHeader encoded header messageType (keccak256 body)

def inspectFrame (encoded : Bytes) (expectedType : Unsigned 8) (expectedLen : Nat) :
    Except Revert Unit := do
  rejectIf (encoded.length < headerLen) (.truncatedMessage headerLen encoded.length)
  let found ← readBytes4 encoded 0
  rejectIf (found ≠ magic) .invalidMagic
  let protocol ← readU16 encoded 4
  rejectIf (protocol ≠ protocolVersion) (.unsupportedProtocolVersion protocol)
  let schema ← readU16 encoded 6
  rejectIf (schema ≠ schemaVersion) (.unsupportedSchemaVersion schema)
  let messageType ← readU8 encoded 8
  rejectIf (messageType ≠ expectedType) (.invalidMessageType messageType)
  rejectIf (encoded.length < expectedLen) (.truncatedMessage expectedLen encoded.length)
  rejectIf (expectedLen < encoded.length) (.trailingBytes expectedLen encoded.length)
  let body ← slice encoded headerLen (expectedLen - headerLen)
  let actualHash ← readBytes32 encoded 215
  rejectIf (keccak256 body ≠ actualHash) (.invalidBodyHash (keccak256 body) actualHash)

def encodeAllocate (header : Header) (body : AllocateBody) : Except Revert Bytes := do
  validateHeader header
  validateAllocate body header.publishedAt
  let encoded ← writeAllocateBody (List.replicate allocateMessageLen 0) headerLen body
  sealMessage keccak256 encoded header typeAllocate allocateBodyLen

def encodeRecall (header : Header) (body : RecallBody) : Except Revert Bytes := do
  validateHeader header
  validateRecall body header.publishedAt
  let encoded ← writeRecallBody (List.replicate recallMessageLen 0) headerLen body
  sealMessage keccak256 encoded header typeRecall recallBodyLen

def encodeResolve (header : Header) (body : RawResolveBody) : Except Revert Bytes := do
  validateHeader header
  validateRawResolve body header.sequence
  let encoded ← writeResolveBody (List.replicate resolveMessageLen 0) headerLen body
  sealMessage keccak256 encoded header typeResolve resolveBodyLen

def decodeRemoteReport (encoded : Bytes) : Except Revert (Header × RawRemoteReportBody) := do
  inspectFrame keccak256 encoded typeRemoteReport remoteReportMessageLen
  let header ← readHeader encoded
  validateHeader header
  let body ← readRemoteReportBody encoded headerLen
  validateRawRemoteReport body header.observedAt
  pure (header, body)

def decodeRecallSent (encoded : Bytes) : Except Revert (Header × RecallSentBody) := do
  inspectFrame keccak256 encoded typeRecallSent recallSentMessageLen
  let header ← readHeader encoded
  validateHeader header
  let body ← readRecallSentBody encoded headerLen
  validateRecallSent body header.observedAt
  pure (header, body)

def decodeTransportSettlement (encoded : Bytes) :
    Except Revert (Header × RawTransportSettlementBody) := do
  inspectFrame keccak256 encoded typeTransportSettlement transportSettlementMessageLen
  let header ← readHeader encoded
  validateHeader header
  let body ← readTransportSettlementBody encoded headerLen
  validateRawTransportSettlement body
  pure (header, body)

end Hash

end Evm.ProtocolCodec
