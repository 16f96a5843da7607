import CrossChainVault.Base.Bytes
import CrossChainVault.Protocol.Layout
import CrossChainVault.Protocol.Validation

set_option autoImplicit false

/- Byte level reads and writes of the shared crate, then its two entry points. -/

namespace Protocol

open Result

/-- A header as it is on the wire: with its versions and its flags. -/
structure WireHeader extends Header where
  protocolVersion : Unsigned 16
  schemaVersion : Unsigned 16
  flags : Unsigned 16
deriving DecidableEq

structure WireMessage where
  header : WireHeader
  body : Body
deriving DecidableEq

inductive DecodeError
  | truncated (needed found : Unsigned 32)
  | trailingBytes (expected found : Unsigned 32)
  | invalidMagic
  | unsupportedProtocolVersion (version : Unsigned 16)
  | unsupportedSchemaVersion (version : Unsigned 16)
  | unknownMessageType (value : Unsigned 8)
  | invalidProbeStatus (value : Unsigned 8)
  | unknownResolveAction (value : Unsigned 8)
  | unknownSettlementKind (value : Unsigned 8)
  | bodyHashMismatch
  | lengthOverflow
  | invalid (reason : ValidationError)
deriving DecidableEq, Repr

inductive EncodeError
  | bufferTooSmall (needed available : Unsigned 32)
  | unsupportedProtocolVersion (version : Unsigned 16)
  | unsupportedSchemaVersion (version : Unsigned 16)
  | invalid (reason : ValidationError)
deriving DecidableEq, Repr

/-- The bytes of "SVE1". -/
def magic : Bytes := [0x53, 0x56, 0x45, 0x31]

def protocolVersion : Unsigned 16 := 1

def schemaVersion : Unsigned 16 := 1

-- The kinds a byte of the wire stands for.

def MessageType.toU8 : MessageType → Unsigned 8
  | .allocate => 1
  | .recall => 2
  | .remoteReport => 3
  | .recallSent => 4
  | .configUpdate => 5
  | .resolve => 6
  | .transportSettlement => 7

/-- Rejects zero, reserved and future discriminants. -/
def MessageType.fromU8 (value : Unsigned 8) : Except DecodeError MessageType :=
  match value.raw with
  | 1 => .ok .allocate
  | 2 => .ok .recall
  | 3 => .ok .remoteReport
  | 4 => .ok .recallSent
  | 5 => .ok .configUpdate
  | 6 => .ok .resolve
  | 7 => .ok .transportSettlement
  | _ => .error (.unknownMessageType value)

def ResolveAction.toU8 : ResolveAction → Unsigned 8
  | .admitTransfer => 1
  | .close => 2
  | .recover => 3

def ResolveAction.fromU8 (value : Unsigned 8) : Except DecodeError ResolveAction :=
  match value.raw with
  | 1 => .ok .admitTransfer
  | 2 => .ok .close
  | 3 => .ok .recover
  | _ => .error (.unknownResolveAction value)

def ProbeStatus.toU8 : ProbeStatus → Unsigned 8
  | .notRequired => 0
  | .fresh => 1
  | .stale => 2
  | .failed => 3

def ProbeStatus.fromU8 (value : Unsigned 8) : Except DecodeError ProbeStatus :=
  match value.raw with
  | 0 => .ok .notRequired
  | 1 => .ok .fresh
  | 2 => .ok .stale
  | 3 => .ok .failed
  | _ => .error (.invalidProbeStatus value)

def SettlementKind.toU8 : SettlementKind → Unsigned 8
  | .closed => 1
  | .recovered => 2

def SettlementKind.fromU8 (value : Unsigned 8) : Except DecodeError SettlementKind :=
  match value.raw with
  | 1 => .ok .closed
  | 2 => .ok .recovered
  | _ => .error (.unknownSettlementKind value)

def Body.messageType : Body → MessageType
  | .allocate _ => .allocate
  | .recall _ => .recall
  | .remoteReport _ => .remoteReport
  | .recallSent _ => .recallSent
  | .configUpdate _ => .configUpdate
  | .resolve _ => .resolve
  | .transportSettlement _ => .transportSettlement

-- Reads and writes.

/-- Narrows a length for an error field without ever wrapping. -/
def saturatingU32 (value : Nat) : Unsigned 32 :=
  if fits : value < 2 ^ 32 then ⟨value, fits⟩ else Unsigned.max

/-- The sum of two machine-word lengths, when it does not wrap. -/
def checkedAddLength (a b : Nat) : Option Nat :=
  if a + b < 2 ^ 64 then some (a + b) else none

def window (bytes : Bytes) (offset width : Nat) : Except DecodeError Bytes := do
  let stop ← okOr (checkedAddLength offset width) .lengthOverflow
  if stop ≤ bytes.length then .ok (bytes.slice offset width)
  else .error (.truncated (saturatingU32 stop) (saturatingU32 bytes.length))

def readArray (width : Nat) (bytes : Bytes) (offset : Nat) : Except DecodeError Bytes := do
  let piece ← window bytes offset width
  if piece.length = width then .ok piece else .error .lengthOverflow

/-- A big-endian number of `width` bytes. -/
def readNumber (width : Nat) (bytes : Bytes) (offset : Nat) :
    Except DecodeError (Unsigned (8 * width)) := do
  let piece ← window bytes offset width
  if sized : piece.length = width then
    .ok ⟨piece.fromBigEndian, by rw [← sized]; exact piece.fromBigEndian_lt⟩
  else .error .lengthOverflow

def readU8 : Bytes → Nat → Except DecodeError (Unsigned 8) := readNumber 1
def readU16 : Bytes → Nat → Except DecodeError (Unsigned 16) := readNumber 2
def readU32 : Bytes → Nat → Except DecodeError (Unsigned 32) := readNumber 4
def readU64 : Bytes → Nat → Except DecodeError (Unsigned 64) := readNumber 8
def readU128 : Bytes → Nat → Except DecodeError (Unsigned 128) := readNumber 16

/-- A wide identifier is thirty-two bytes, held as the number they spell. -/
def readWide : Bytes → Nat → Except DecodeError Bytes32 := readNumber Layout.wide

def writeBytes (out : Bytes) (offset : Nat) (value : Bytes) : Except EncodeError Bytes := do
  let available := saturatingU32 out.length
  let stop ← okOr (checkedAddLength offset value.length) (.bufferTooSmall Unsigned.max available)
  if stop ≤ out.length then .ok (out.overwrite offset value)
  else .error (.bufferTooSmall (saturatingU32 stop) available)

def writeNumber (width : Nat) (out : Bytes) (offset : Nat) (value : Unsigned (8 * width)) :
    Except EncodeError Bytes :=
  writeBytes out offset (Bytes.toBigEndian width value.raw)

def writeU8 : Bytes → Nat → Unsigned 8 → Except EncodeError Bytes := writeNumber 1
def writeU16 : Bytes → Nat → Unsigned 16 → Except EncodeError Bytes := writeNumber 2
def writeU32 : Bytes → Nat → Unsigned 32 → Except EncodeError Bytes := writeNumber 4
def writeU64 : Bytes → Nat → Unsigned 64 → Except EncodeError Bytes := writeNumber 8
def writeU128 : Bytes → Nat → Unsigned 128 → Except EncodeError Bytes := writeNumber 16
def writeWide : Bytes → Nat → Bytes32 → Except EncodeError Bytes := writeNumber Layout.wide

-- The bodies.

open Layout

def AllocateBody.encodeInto (body : AllocateBody) (out : Bytes) : Except EncodeError Bytes := do
  let out ← writeWide out allocateTransferIdOffset body.transferId
  let out ← writeU128 out allocateAmountOffset body.amount
  let out ← writeU128 out allocateExpectedSourceBalanceOffset body.expectedSourceBalance
  let out ← writeU128 out allocateMinimumDestinationAmountOffset body.minimumDestinationAmount
  let out ← writeU64 out allocateDeadlineOffset body.deadline
  writeU64 out allocateConfigVersionOffset body.configVersion

def AllocateBody.decode (bytes : Bytes) : Except DecodeError AllocateBody := do
  let transferId ← readWide bytes allocateTransferIdOffset
  let amount ← readU128 bytes allocateAmountOffset
  let expectedSourceBalance ← readU128 bytes allocateExpectedSourceBalanceOffset
  let minimumDestinationAmount ← readU128 bytes allocateMinimumDestinationAmountOffset
  let deadline ← readU64 bytes allocateDeadlineOffset
  let configVersion ← readU64 bytes allocateConfigVersionOffset
  pure { transferId, amount, expectedSourceBalance, minimumDestinationAmount, deadline,
         configVersion }

def RecallBody.encodeInto (body : RecallBody) (out : Bytes) : Except EncodeError Bytes := do
  let out ← writeWide out recallTransferIdOffset body.transferId
  let out ← writeU128 out recallRequestedAmountOffset body.requestedAmount
  let out ← writeU128 out recallMinimumReturnAmountOffset body.minimumReturnAmount
  let out ← writeU64 out recallDeadlineOffset body.deadline
  writeU64 out recallConfigVersionOffset body.configVersion

def RecallBody.decode (bytes : Bytes) : Except DecodeError RecallBody := do
  let transferId ← readWide bytes recallTransferIdOffset
  let requestedAmount ← readU128 bytes recallRequestedAmountOffset
  let minimumReturnAmount ← readU128 bytes recallMinimumReturnAmountOffset
  let deadline ← readU64 bytes recallDeadlineOffset
  let configVersion ← readU64 bytes recallConfigVersionOffset
  pure { transferId, requestedAmount, minimumReturnAmount, deadline, configVersion }

def RemoteReportBody.encodeInto (body : RemoteReportBody) (out : Bytes) :
    Except EncodeError Bytes := do
  let out ← writeU64 out reportEpochIdOffset body.epochId
  let out ← writeU128 out reportRemotePrincipalOffset body.remotePrincipal
  let out ← writeU128 out reportReportedValueOffset body.reportedValue
  let out ← writeU128 out reportRealizedLossOffset body.realizedLoss
  let out ← writeU128 out reportUnattributedBalanceOffset body.unattributedBalance
  let out ← writeWide out reportLatestCompletedTransferIdOffset body.latestCompletedTransferId
  let out ← writeU8 out reportProbeStatusOffset body.probeStatus.toU8
  let out ← writeU64 out reportProbeTimestampOffset body.probeTimestamp
  let out ← writeU64 out reportConfigVersionOffset body.configVersion
  writeWide out reportRemoteStateCommitmentOffset body.remoteStateCommitment

def RemoteReportBody.decode (bytes : Bytes) : Except DecodeError RemoteReportBody := do
  let epochId ← readU64 bytes reportEpochIdOffset
  let remotePrincipal ← readU128 bytes reportRemotePrincipalOffset
  let reportedValue ← readU128 bytes reportReportedValueOffset
  let realizedLoss ← readU128 bytes reportRealizedLossOffset
  let unattributedBalance ← readU128 bytes reportUnattributedBalanceOffset
  let latestCompletedTransferId ← readWide bytes reportLatestCompletedTransferIdOffset
  let probeStatus ← ProbeStatus.fromU8 (← readU8 bytes reportProbeStatusOffset)
  let probeTimestamp ← readU64 bytes reportProbeTimestampOffset
  let configVersion ← readU64 bytes reportConfigVersionOffset
  let remoteStateCommitment ← readWide bytes reportRemoteStateCommitmentOffset
  pure { epochId, remotePrincipal, reportedValue, realizedLoss, unattributedBalance,
         latestCompletedTransferId, probeStatus, probeTimestamp, configVersion,
         remoteStateCommitment }

def RecallSentBody.encodeInto (body : RecallSentBody) (out : Bytes) :
    Except EncodeError Bytes := do
  let out ← writeWide out recallSentTransferIdOffset body.transferId
  let out ← writeU128 out recallSentPrincipalSentOffset body.principalSent
  let out ← writeU128 out recallSentActualAmountSentOffset body.actualAmountSent
  let out ← writeU128 out recallSentRealizedLossOffset body.realizedLoss
  let out ← writeWide out recallSentDestinationReferenceOffset body.destinationReference
  let out ← writeU64 out recallSentSentTimestampOffset body.sentTimestamp
  writeU64 out recallSentConfigVersionOffset body.configVersion

def RecallSentBody.decode (bytes : Bytes) : Except DecodeError RecallSentBody := do
  let transferId ← readWide bytes recallSentTransferIdOffset
  let principalSent ← readU128 bytes recallSentPrincipalSentOffset
  let actualAmountSent ← readU128 bytes recallSentActualAmountSentOffset
  let realizedLoss ← readU128 bytes recallSentRealizedLossOffset
  let destinationReference ← readWide bytes recallSentDestinationReferenceOffset
  let sentTimestamp ← readU64 bytes recallSentSentTimestampOffset
  let configVersion ← readU64 bytes recallSentConfigVersionOffset
  pure { transferId, principalSent, actualAmountSent, realizedLoss, destinationReference,
         sentTimestamp, configVersion }

def ConfigUpdateBody.encodeInto (body : ConfigUpdateBody) (out : Bytes) :
    Except EncodeError Bytes := do
  let out ← writeU64 out configVersionOffset body.configVersion
  let out ← writeU64 out configPreviousVersionOffset body.previousConfigVersion
  let out ← writeU16 out configMaxRemoteAllocationBpsOffset body.maxRemoteAllocationBps
  let out ← writeU16 out configMaxUpwardDeviationBpsOffset body.maxUpwardDeviationBps
  let out ← writeU16 out configMaxDownwardDeviationBpsOffset body.maxDownwardDeviationBps
  let out ← writeU64 out configMaxReportAgeOffset body.maxReportAge
  let out ← writeU64 out configEffectiveTimestampOffset body.effectiveTimestamp
  writeWide out configCommitmentOffset body.configCommitment

def ConfigUpdateBody.decode (bytes : Bytes) : Except DecodeError ConfigUpdateBody := do
  let configVersion ← readU64 bytes configVersionOffset
  let previousConfigVersion ← readU64 bytes configPreviousVersionOffset
  let maxRemoteAllocationBps ← readU16 bytes configMaxRemoteAllocationBpsOffset
  let maxUpwardDeviationBps ← readU16 bytes configMaxUpwardDeviationBpsOffset
  let maxDownwardDeviationBps ← readU16 bytes configMaxDownwardDeviationBpsOffset
  let maxReportAge ← readU64 bytes configMaxReportAgeOffset
  let effectiveTimestamp ← readU64 bytes configEffectiveTimestampOffset
  let configCommitment ← readWide bytes configCommitmentOffset
  pure { configVersion, previousConfigVersion, maxRemoteAllocationBps, maxUpwardDeviationBps,
         maxDownwardDeviationBps, maxReportAge, effectiveTimestamp, configCommitment }

def ResolveBody.encodeInto (body : ResolveBody) (out : Bytes) : Except EncodeError Bytes := do
  let out ← writeWide out resolveTransferIdOffset body.transferId
  let out ← writeU64 out resolveTargetSequenceOffset body.targetSequence
  let out ← writeU8 out resolveActionOffset body.action.toU8
  writeU64 out resolveConfigVersionOffset body.configVersion

def ResolveBody.decode (bytes : Bytes) : Except DecodeError ResolveBody := do
  let transferId ← readWide bytes resolveTransferIdOffset
  let targetSequence ← readU64 bytes resolveTargetSequenceOffset
  let action ← ResolveAction.fromU8 (← readU8 bytes resolveActionOffset)
  let configVersion ← readU64 bytes resolveConfigVersionOffset
  pure { transferId, targetSequence, action, configVersion }

def TransportSettlementBody.encodeInto (body : TransportSettlementBody) (out : Bytes) :
    Except EncodeError Bytes := do
  let out ← writeWide out settlementTransferIdOffset body.transferId
  let out ← writeU8 out settlementKindOffset body.kind.toU8
  let out ← writeU128 out settlementClaimAmountOffset body.claimAmount
  let out ← writeU128 out settlementCreditedAmountOffset body.creditedAmount
  let out ← writeU128 out settlementImpairedOutstandingOffset body.impairedOutstanding
  writeU64 out settlementConfigVersionOffset body.configVersion

def TransportSettlementBody.decode (bytes : Bytes) :
    Except DecodeError TransportSettlementBody := do
  let transferId ← readWide bytes settlementTransferIdOffset
  let kind ← SettlementKind.fromU8 (← readU8 bytes settlementKindOffset)
  let claimAmount ← readU128 bytes settlementClaimAmountOffset
  let creditedAmount ← readU128 bytes settlementCreditedAmountOffset
  let impairedOutstanding ← readU128 bytes settlementImpairedOutstandingOffset
  let configVersion ← readU64 bytes settlementConfigVersionOffset
  pure { transferId, kind, claimAmount, creditedAmount, impairedOutstanding, configVersion }

def Body.encodeInto (body : Body) (out : Bytes) : Except EncodeError Bytes :=
  match body with
  | .allocate body => body.encodeInto out
  | .recall body => body.encodeInto out
  | .remoteReport body => body.encodeInto out
  | .recallSent body => body.encodeInto out
  | .configUpdate body => body.encodeInto out
  | .resolve body => body.encodeInto out
  | .transportSettlement body => body.encodeInto out

def Body.decode (kind : MessageType) (bytes : Bytes) : Except DecodeError Body :=
  match kind with
  | .allocate => .allocate <$> AllocateBody.decode bytes
  | .recall => .recall <$> RecallBody.decode bytes
  | .remoteReport => .remoteReport <$> RemoteReportBody.decode bytes
  | .recallSent => .recallSent <$> RecallSentBody.decode bytes
  | .configUpdate => .configUpdate <$> ConfigUpdateBody.decode bytes
  | .resolve => .resolve <$> ResolveBody.decode bytes
  | .transportSettlement => .transportSettlement <$> TransportSettlementBody.decode bytes

/-- Envelope times a body is checked against. -/
structure EnvelopeTimes where
  observedAt : Unsigned 64
  publishedAt : Unsigned 64

/-- The sequence is the one in the header, so a body can name earlier messages. -/
def Body.validate (body : Body) (times : EnvelopeTimes) (sequence : Unsigned 64) :
    Except ValidationError Unit :=
  match body with
  | .allocate body => body.validate times.publishedAt
  | .recall body => body.validate times.publishedAt
  | .remoteReport body => body.validate times.observedAt
  | .recallSent body => body.validate times.observedAt
  | .configUpdate body => body.validate times.publishedAt
  | .resolve body => body.validate sequence
  | .transportSettlement body => body.validate

-- The header.

/-- No flag bit is defined yet, so every bit must stay clear. -/
def hasReservedBits (flags : Unsigned 16) : Bool :=
  flags.raw &&& (Unsigned.max : Unsigned 16).raw ≠ 0

/-- Field rules that hold for every message kind. -/
def WireHeader.validate (header : WireHeader) : Except ValidationError Unit := do
  rejectIf (hasReservedBits header.flags) .reservedFlagsSet
  header.toHeader.validate

def WireHeader.envelopeTimes (header : WireHeader) : EnvelopeTimes where
  observedAt := header.observedAt
  publishedAt := header.publishedAt

def readHeader (bytes : Bytes) : Except DecodeError WireHeader := do
  let protocolVersion ← readU16 bytes protocolVersionOffset
  let schemaVersion ← readU16 bytes schemaVersionOffset
  let flags ← readU16 bytes flagsOffset
  let sourceChain ← readU32 bytes sourceChainOffset
  let destinationChain ← readU32 bytes destinationChainOffset
  let sourceApplication ← readWide bytes sourceApplicationOffset
  let destinationApplication ← readWide bytes destinationApplicationOffset
  let deploymentId ← readWide bytes deploymentIdOffset
  let vaultId ← readWide bytes vaultIdOffset
  let laneId ← readU32 bytes laneIdOffset
  let sequence ← readU64 bytes sequenceOffset
  let previousCommitment ← readWide bytes previousCommitmentOffset
  let observedAt ← readU64 bytes observedAtOffset
  let publishedAt ← readU64 bytes publishedAtOffset
  let expiresAt ← readU64 bytes expiresAtOffset
  pure { protocolVersion, schemaVersion, flags, sourceChain, destinationChain, sourceApplication,
         destinationApplication, deploymentId, vaultId, laneId, sequence, previousCommitment,
         observedAt, publishedAt, expiresAt }

def writeHeader (out : Bytes) (header : WireHeader) (messageType : MessageType)
    (bodyHash : Bytes32) : Except EncodeError Bytes := do
  let out ← writeBytes out magicOffset magic
  let out ← writeU16 out protocolVersionOffset header.protocolVersion
  let out ← writeU16 out schemaVersionOffset header.schemaVersion
  let out ← writeU8 out messageTypeOffset messageType.toU8
  let out ← writeU16 out flagsOffset header.flags
  let out ← writeU32 out sourceChainOffset header.sourceChain
  let out ← writeU32 out destinationChainOffset header.destinationChain
  let out ← writeWide out sourceApplicationOffset header.sourceApplication
  let out ← writeWide out destinationApplicationOffset header.destinationApplication
  let out ← writeWide out deploymentIdOffset header.deploymentId
  let out ← writeWide out vaultIdOffset header.vaultId
  let out ← writeU32 out laneIdOffset header.laneId
  let out ← writeU64 out sequenceOffset header.sequence
  let out ← writeWide out previousCommitmentOffset header.previousCommitment
  let out ← writeU64 out observedAtOffset header.observedAt
  let out ← writeU64 out publishedAtOffset header.publishedAt
  let out ← writeU64 out expiresAtOffset header.expiresAt
  writeWide out bodyHashOffset bodyHash

-- The entry points.

/-- What structural inspection learned before any field was parsed. -/
structure Frame where
  messageType : MessageType
  bodyLen : Nat

/-- Settles the magic, the versions, the kind and the exact total width. The kind alone fixes
the body width, so no length is carried on the wire. -/
def inspectFrame (bytes : Bytes) : Except DecodeError Frame := do
  rejectIf (bytes.length < headerLen)
    (.truncated (saturatingU32 headerLen) (saturatingU32 bytes.length))
  let found ← readArray magicLen bytes magicOffset
  rejectIf (found ≠ magic) .invalidMagic
  let protocol ← readU16 bytes protocolVersionOffset
  rejectIf (protocol ≠ protocolVersion) (.unsupportedProtocolVersion protocol)
  let schema ← readU16 bytes schemaVersionOffset
  rejectIf (schema ≠ schemaVersion) (.unsupportedSchemaVersion schema)
  let messageType ← MessageType.fromU8 (← readU8 bytes messageTypeOffset)
  let total ← okOr (checkedAddLength headerLen messageType.bodyLen) .lengthOverflow
  rejectIf (bytes.length < total) (.truncated (saturatingU32 total) (saturatingU32 bytes.length))
  rejectIf (total < bytes.length)
    (.trailingBytes (saturatingU32 total) (saturatingU32 bytes.length))
  pure { messageType, bodyLen := messageType.bodyLen }

/-- Refuses to encode a header that names a version this build cannot read. -/
def WireHeader.validateSupportedVersionsForEncode (header : WireHeader) :
    Except EncodeError Unit := do
  rejectIf (header.protocolVersion ≠ Protocol.protocolVersion)
    (.unsupportedProtocolVersion header.protocolVersion)
  rejectIf (header.schemaVersion ≠ Protocol.schemaVersion)
    (.unsupportedSchemaVersion header.schemaVersion)

def WireMessage.messageType (message : WireMessage) : MessageType := message.body.messageType

/-- Bytes this message occupies once encoded. -/
def WireMessage.encodedLen (message : WireMessage) : Nat := message.messageType.messageLen

section Hash

variable (keccak256 : Bytes → Bytes32)

/-- Writes the canonical bytes of a valid message and returns the buffer with the width used. -/
def WireMessage.encodeInto (message : WireMessage) (out : Bytes) :
    Except EncodeError (Bytes × Nat) := do
  message.header.validateSupportedVersionsForEncode
  message.header.validate.mapError .invalid
  (message.body.validate message.header.envelopeTimes message.header.sequence).mapError .invalid
  let width := message.encodedLen
  rejectIf (out.length < width) (.bufferTooSmall (saturatingU32 width) (saturatingU32 out.length))
  let frame := out.take width
  let body ← message.body.encodeInto (frame.drop headerLen)
  let head ← writeHeader (frame.take headerLen) message.header message.messageType (keccak256 body)
  pure (head ++ body ++ out.drop width, width)

/-- A canonical message held in a buffer sized for the largest message. -/
structure EncodedMessage where
  bytes : Bytes
  len : Unsigned 16

/-- The canonical bytes. -/
def EncodedMessage.asBytes (encoded : EncodedMessage) : Bytes :=
  if encoded.len.raw ≤ encoded.bytes.length then encoded.bytes.take encoded.len.raw else []

/-- Validates the message, then writes its canonical bytes. -/
def WireMessage.encode (message : WireMessage) : Except EncodeError EncodedMessage := do
  let (bytes, written) ← message.encodeInto keccak256 (List.replicate maxMessageLen 0)
  pure { bytes, len := if fits : written < 2 ^ 16 then ⟨written, fits⟩ else Unsigned.max }

/-- Nothing is returned unless every structural and field rule holds. -/
def decodeMessage (bytes : Bytes) : Except DecodeError WireMessage := do
  let frame ← inspectFrame bytes
  let bodyBytes ← window bytes headerLen frame.bodyLen
  let declared ← readWide bytes bodyHashOffset
  rejectIf (declared ≠ keccak256 bodyBytes) .bodyHashMismatch
  let header ← readHeader bytes
  let body ← Body.decode frame.messageType bodyBytes
  header.validate.mapError .invalid
  (body.validate header.envelopeTimes header.sequence).mapError .invalid
  pure { header, body }

end Hash

end Protocol
