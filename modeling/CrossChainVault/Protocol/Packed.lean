import CrossChainVault.Protocol.Codec

set_option autoImplicit false

/- The regions of a message as lists of packed fields, and what the codec does to them. -/

namespace Protocol

open Result Bytes Layout

/-- A number of `width` bytes at `offset`. -/
def numberField (offset width value : Nat) : Field := ⟨offset, toBigEndian width value⟩

@[simp] theorem numberField_length (offset width value : Nat) :
    (numberField offset width value).bytes.length = width := length_toBigEndian width value

@[simp] theorem numberField_offset (offset width value : Nat) :
    (numberField offset width value).offset = offset := rfl

theorem window_ok {bytes piece : Bytes} {offset width : Nat} (small : offset + width < 2 ^ 64) :
    window bytes offset width = .ok piece ↔
      offset + width ≤ bytes.length ∧ bytes.slice offset width = piece := by
  simp only [window, checkedAddLength, if_pos small, okOr, bind, Except.bind]
  split
  · rename_i inside
    simp [inside]
  · rename_i outside
    simp [outside]

theorem readArray_ok {bytes piece : Bytes} {offset : Nat}
    (small : offset + piece.length < 2 ^ 64) :
    readArray piece.length bytes offset = .ok piece ↔ Holds bytes ⟨offset, piece⟩ := by
  simp only [readArray, bind_eq_ok, window_ok small, Holds]
  constructor
  · rintro ⟨found, ⟨inside, same⟩, sized⟩
    split at sized
    · cases sized
      exact ⟨inside, same⟩
    · cases sized
  · rintro ⟨inside, same⟩
    exact ⟨piece, ⟨inside, same⟩, if_pos rfl⟩

section Reads

variable {bytes : Bytes} {offset : Nat}

theorem readNumber_ok {width : Nat} {value : Unsigned (8 * width)}
    (small : offset + width < 2 ^ 64) :
    readNumber width bytes offset = .ok value ↔
      Holds bytes (numberField offset width value.raw) := by
  simp only [readNumber, bind_eq_ok, window_ok small, numberField, holds_number value.bound]
  constructor
  · rintro ⟨piece, ⟨inside, rfl⟩, sized⟩
    rw [dif_pos (length_slice inside), Except.ok.injEq, ← Unsigned.raw_inj] at sized
    exact ⟨inside, sized⟩
  · rintro ⟨inside, same⟩
    refine ⟨_, ⟨inside, rfl⟩, ?_⟩
    rw [dif_pos (length_slice inside), Except.ok.injEq, ← Unsigned.raw_inj]
    exact same

theorem readU8_ok {value : Unsigned 8} (small : offset + 1 < 2 ^ 64) :
    readU8 bytes offset = .ok value ↔ Holds bytes (numberField offset 1 value.raw) :=
  readNumber_ok small

theorem readU16_ok {value : Unsigned 16} (small : offset + 2 < 2 ^ 64) :
    readU16 bytes offset = .ok value ↔ Holds bytes (numberField offset 2 value.raw) :=
  readNumber_ok small

theorem readU32_ok {value : Unsigned 32} (small : offset + 4 < 2 ^ 64) :
    readU32 bytes offset = .ok value ↔ Holds bytes (numberField offset 4 value.raw) :=
  readNumber_ok small

theorem readU64_ok {value : Unsigned 64} (small : offset + 8 < 2 ^ 64) :
    readU64 bytes offset = .ok value ↔ Holds bytes (numberField offset 8 value.raw) :=
  readNumber_ok small

theorem readU128_ok {value : Unsigned 128} (small : offset + 16 < 2 ^ 64) :
    readU128 bytes offset = .ok value ↔ Holds bytes (numberField offset 16 value.raw) :=
  readNumber_ok small

theorem readWide_ok {value : Bytes32} (small : offset + wide < 2 ^ 64) :
    readWide bytes offset = .ok value ↔ Holds bytes (numberField offset wide value.raw) :=
  readNumber_ok small

end Reads

-- A byte of the wire stands for one kind at most.

theorem MessageType.fromU8_ok {value : Unsigned 8} {kind : MessageType} :
    MessageType.fromU8 value = .ok kind ↔ value = kind.toU8 := by
  rw [← Unsigned.raw_inj]
  unfold MessageType.fromU8
  split <;> cases kind <;> simp_all [MessageType.toU8]

theorem ResolveAction.fromU8_ok {value : Unsigned 8} {action : ResolveAction} :
    ResolveAction.fromU8 value = .ok action ↔ value = action.toU8 := by
  rw [← Unsigned.raw_inj]
  unfold ResolveAction.fromU8
  split <;> cases action <;> simp_all [ResolveAction.toU8]

theorem ProbeStatus.fromU8_ok {value : Unsigned 8} {status : ProbeStatus} :
    ProbeStatus.fromU8 value = .ok status ↔ value = status.toU8 := by
  rw [← Unsigned.raw_inj]
  unfold ProbeStatus.fromU8
  split <;> cases status <;> simp_all [ProbeStatus.toU8]

theorem SettlementKind.fromU8_ok {value : Unsigned 8} {kind : SettlementKind} :
    SettlementKind.fromU8 value = .ok kind ↔ value = kind.toU8 := by
  rw [← Unsigned.raw_inj]
  unfold SettlementKind.fromU8
  split <;> cases kind <;> simp_all [SettlementKind.toU8]

theorem MessageType.kindByte_inj {a b : MessageType}
    (same : UInt8.ofNat a.toU8.raw = UInt8.ofNat b.toU8.raw) : a = b := by
  revert same
  cases a <;> cases b <;> decide

-- The fields of each body, in wire order.

def AllocateBody.fields (body : AllocateBody) : List Field :=
  [numberField allocateTransferIdOffset wide body.transferId.raw,
   numberField allocateAmountOffset 16 body.amount.raw,
   numberField allocateExpectedSourceBalanceOffset 16 body.expectedSourceBalance.raw,
   numberField allocateMinimumDestinationAmountOffset 16 body.minimumDestinationAmount.raw,
   numberField allocateDeadlineOffset 8 body.deadline.raw,
   numberField allocateConfigVersionOffset 8 body.configVersion.raw]

def RecallBody.fields (body : RecallBody) : List Field :=
  [numberField recallTransferIdOffset wide body.transferId.raw,
   numberField recallRequestedAmountOffset 16 body.requestedAmount.raw,
   numberField recallMinimumReturnAmountOffset 16 body.minimumReturnAmount.raw,
   numberField recallDeadlineOffset 8 body.deadline.raw,
   numberField recallConfigVersionOffset 8 body.configVersion.raw]

def RemoteReportBody.fields (body : RemoteReportBody) : List Field :=
  [numberField reportEpochIdOffset 8 body.epochId.raw,
   numberField reportRemotePrincipalOffset 16 body.remotePrincipal.raw,
   numberField reportReportedValueOffset 16 body.reportedValue.raw,
   numberField reportRealizedLossOffset 16 body.realizedLoss.raw,
   numberField reportUnattributedBalanceOffset 16 body.unattributedBalance.raw,
   numberField reportLatestCompletedTransferIdOffset wide body.latestCompletedTransferId.raw,
   numberField reportProbeStatusOffset 1 body.probeStatus.toU8.raw,
   numberField reportProbeTimestampOffset 8 body.probeTimestamp.raw,
   numberField reportConfigVersionOffset 8 body.configVersion.raw,
   numberField reportRemoteStateCommitmentOffset wide body.remoteStateCommitment.raw]

def RecallSentBody.fields (body : RecallSentBody) : List Field :=
  [numberField recallSentTransferIdOffset wide body.transferId.raw,
   numberField recallSentPrincipalSentOffset 16 body.principalSent.raw,
   numberField recallSentActualAmountSentOffset 16 body.actualAmountSent.raw,
   numberField recallSentRealizedLossOffset 16 body.realizedLoss.raw,
   numberField recallSentDestinationReferenceOffset wide body.destinationReference.raw,
   numberField recallSentSentTimestampOffset 8 body.sentTimestamp.raw,
   numberField recallSentConfigVersionOffset 8 body.configVersion.raw]

def ConfigUpdateBody.fields (body : ConfigUpdateBody) : List Field :=
  [numberField configVersionOffset 8 body.configVersion.raw,
   numberField configPreviousVersionOffset 8 body.previousConfigVersion.raw,
   numberField configMaxRemoteAllocationBpsOffset 2 body.maxRemoteAllocationBps.raw,
   numberField configMaxUpwardDeviationBpsOffset 2 body.maxUpwardDeviationBps.raw,
   numberField configMaxDownwardDeviationBpsOffset 2 body.maxDownwardDeviationBps.raw,
   numberField configMaxReportAgeOffset 8 body.maxReportAge.raw,
   numberField configEffectiveTimestampOffset 8 body.effectiveTimestamp.raw,
   numberField configCommitmentOffset wide body.configCommitment.raw]

def ResolveBody.fields (body : ResolveBody) : List Field :=
  [numberField resolveTransferIdOffset wide body.transferId.raw,
   numberField resolveTargetSequenceOffset 8 body.targetSequence.raw,
   numberField resolveActionOffset 1 body.action.toU8.raw,
   numberField resolveConfigVersionOffset 8 body.configVersion.raw]

def TransportSettlementBody.fields (body : TransportSettlementBody) : List Field :=
  [numberField settlementTransferIdOffset wide body.transferId.raw,
   numberField settlementKindOffset 1 body.kind.toU8.raw,
   numberField settlementClaimAmountOffset 16 body.claimAmount.raw,
   numberField settlementCreditedAmountOffset 16 body.creditedAmount.raw,
   numberField settlementImpairedOutstandingOffset 16 body.impairedOutstanding.raw,
   numberField settlementConfigVersionOffset 8 body.configVersion.raw]

def Body.fields : Body → List Field
  | .allocate body => body.fields
  | .recall body => body.fields
  | .remoteReport body => body.fields
  | .recallSent body => body.fields
  | .configUpdate body => body.fields
  | .resolve body => body.fields
  | .transportSettlement body => body.fields

/-- The fields of a header that declares `messageType` and `bodyHash`. -/
def WireHeader.fields (header : WireHeader) (messageType : MessageType) (bodyHash : Bytes32) :
    List Field :=
  [⟨magicOffset, magic⟩,
   numberField protocolVersionOffset 2 header.protocolVersion.raw,
   numberField schemaVersionOffset 2 header.schemaVersion.raw,
   numberField messageTypeOffset 1 messageType.toU8.raw,
   numberField flagsOffset 2 header.flags.raw,
   numberField sourceChainOffset 4 header.sourceChain.raw,
   numberField destinationChainOffset 4 header.destinationChain.raw,
   numberField sourceApplicationOffset wide header.sourceApplication.raw,
   numberField destinationApplicationOffset wide header.destinationApplication.raw,
   numberField deploymentIdOffset wide header.deploymentId.raw,
   numberField vaultIdOffset wide header.vaultId.raw,
   numberField laneIdOffset 4 header.laneId.raw,
   numberField sequenceOffset 8 header.sequence.raw,
   numberField previousCommitmentOffset wide header.previousCommitment.raw,
   numberField observedAtOffset 8 header.observedAt.raw,
   numberField publishedAtOffset 8 header.publishedAt.raw,
   numberField expiresAtOffset 8 header.expiresAt.raw,
   numberField bodyHashOffset wide bodyHash.raw]

/-- One write of the encoder. -/
def writeField (out : Bytes) (field : Field) : Except EncodeError Bytes :=
  writeBytes out field.offset field.bytes

theorem writeField_ok {out : Bytes} {field : Field} (small : out.length < 2 ^ 64)
    (inside : field.offset + field.bytes.length ≤ out.length) :
    writeField out field = .ok (out.overwrite field.offset field.bytes) := by
  have fits : field.offset + field.bytes.length < 2 ^ 64 := Nat.lt_of_le_of_lt inside small
  simp only [writeField, writeBytes, checkedAddLength, if_pos fits, okOr, bind, Except.bind,
    if_pos inside]

/-- A body's layout: its fields fill `length` bytes, encoding writes them in order, and decoding
finds them at their offsets. -/
structure PackedAs {β : Type} (fields : β → List Field) (length : Nat)
    (encodeInto : β → Bytes → Except EncodeError Bytes)
    (decode : Bytes → Except DecodeError β) : Prop where
  spans : ∀ body, Spans 0 (fields body) length
  encodes : ∀ body out, encodeInto body out = (fields body).foldlM writeField out
  decodes : ∀ {bytes body}, decode bytes = .ok body ↔ Placed bytes (fields body)

theorem AllocateBody.packed :
    PackedAs AllocateBody.fields allocateBodyLen AllocateBody.encodeInto AllocateBody.decode where
  spans body := by
    simp only [AllocateBody.fields, spans_cons, spans_nil, numberField_offset,
      numberField_length]
    decide
  encodes body out := by
    simp only [AllocateBody.fields, List.foldlM_cons, List.foldlM_nil, bind_pure]
    rfl
  decodes := by
    intro bytes body
    simp (disch := decide) only [AllocateBody.decode, bind_eq_ok, readWide_ok, readU128_ok,
      readU64_ok, pure_eq_ok, AllocateBody.fields, placed_cons, placed_nil, and_true]
    constructor
    · rintro ⟨_, transferId, _, amount, _, balance, _, minimum, _, deadline, _, version, rfl⟩
      exact ⟨transferId, amount, balance, minimum, deadline, version⟩
    · rintro ⟨transferId, amount, balance, minimum, deadline, version⟩
      exact ⟨_, transferId, _, amount, _, balance, _, minimum, _, deadline, _, version, rfl⟩

theorem RecallBody.packed :
    PackedAs RecallBody.fields recallBodyLen RecallBody.encodeInto RecallBody.decode where
  spans body := by
    simp only [RecallBody.fields, spans_cons, spans_nil, numberField_offset,
      numberField_length]
    decide
  encodes body out := by
    simp only [RecallBody.fields, List.foldlM_cons, List.foldlM_nil, bind_pure]
    rfl
  decodes := by
    intro bytes body
    simp (disch := decide) only [RecallBody.decode, bind_eq_ok, readWide_ok, readU128_ok,
      readU64_ok, pure_eq_ok, RecallBody.fields, placed_cons, placed_nil, and_true]
    constructor
    · rintro ⟨_, transferId, _, amount, _, minimum, _, deadline, _, version, rfl⟩
      exact ⟨transferId, amount, minimum, deadline, version⟩
    · rintro ⟨transferId, amount, minimum, deadline, version⟩
      exact ⟨_, transferId, _, amount, _, minimum, _, deadline, _, version, rfl⟩

theorem RemoteReportBody.packed :
    PackedAs RemoteReportBody.fields remoteReportBodyLen
      RemoteReportBody.encodeInto RemoteReportBody.decode where
  spans body := by
    simp only [RemoteReportBody.fields, spans_cons, spans_nil, numberField_offset,
      numberField_length]
    decide
  encodes body out := by
    simp only [RemoteReportBody.fields, List.foldlM_cons, List.foldlM_nil, bind_pure]
    rfl
  decodes := by
    intro bytes body
    simp (disch := decide) only [RemoteReportBody.decode, bind_eq_ok, readU64_ok, readU128_ok,
      readWide_ok, readU8_ok, ProbeStatus.fromU8_ok, pure_eq_ok, RemoteReportBody.fields,
      placed_cons, placed_nil, and_true]
    constructor
    · rintro ⟨_, epoch, _, principal, _, value, _, loss, _, unattributed, _, latest, _, byte, _,
        rfl, _, probeAt, _, version, _, commitment, rfl⟩
      exact ⟨epoch, principal, value, loss, unattributed, latest, byte, probeAt, version,
        commitment⟩
    · rintro ⟨epoch, principal, value, loss, unattributed, latest, byte, probeAt, version,
        commitment⟩
      exact ⟨_, epoch, _, principal, _, value, _, loss, _, unattributed, _, latest, _, byte, _,
        rfl, _, probeAt, _, version, _, commitment, rfl⟩

theorem RecallSentBody.packed :
    PackedAs RecallSentBody.fields recallSentBodyLen
      RecallSentBody.encodeInto RecallSentBody.decode where
  spans body := by
    simp only [RecallSentBody.fields, spans_cons, spans_nil, numberField_offset,
      numberField_length]
    decide
  encodes body out := by
    simp only [RecallSentBody.fields, List.foldlM_cons, List.foldlM_nil, bind_pure]
    rfl
  decodes := by
    intro bytes body
    simp (disch := decide) only [RecallSentBody.decode, bind_eq_ok, readWide_ok, readU128_ok,
      readU64_ok, pure_eq_ok, RecallSentBody.fields, placed_cons, placed_nil, and_true]
    constructor
    · rintro ⟨_, transferId, _, principal, _, actual, _, loss, _, reference, _, sentAt, _,
        version, rfl⟩
      exact ⟨transferId, principal, actual, loss, reference, sentAt, version⟩
    · rintro ⟨transferId, principal, actual, loss, reference, sentAt, version⟩
      exact ⟨_, transferId, _, principal, _, actual, _, loss, _, reference, _, sentAt, _, version,
        rfl⟩

theorem ConfigUpdateBody.packed :
    PackedAs ConfigUpdateBody.fields configUpdateBodyLen
      ConfigUpdateBody.encodeInto ConfigUpdateBody.decode where
  spans body := by
    simp only [ConfigUpdateBody.fields, spans_cons, spans_nil, numberField_offset,
      numberField_length]
    decide
  encodes body out := by
    simp only [ConfigUpdateBody.fields, List.foldlM_cons, List.foldlM_nil, bind_pure]
    rfl
  decodes := by
    intro bytes body
    simp (disch := decide) only [ConfigUpdateBody.decode, bind_eq_ok, readU64_ok, readU16_ok,
      readWide_ok, pure_eq_ok, ConfigUpdateBody.fields, placed_cons, placed_nil, and_true]
    constructor
    · rintro ⟨_, version, _, previous, _, allocation, _, upward, _, downward, _, age, _,
        effective, _, commitment, rfl⟩
      exact ⟨version, previous, allocation, upward, downward, age, effective, commitment⟩
    · rintro ⟨version, previous, allocation, upward, downward, age, effective, commitment⟩
      exact ⟨_, version, _, previous, _, allocation, _, upward, _, downward, _, age, _, effective,
        _, commitment, rfl⟩

theorem ResolveBody.packed :
    PackedAs ResolveBody.fields resolveBodyLen ResolveBody.encodeInto ResolveBody.decode where
  spans body := by
    simp only [ResolveBody.fields, spans_cons, spans_nil, numberField_offset,
      numberField_length]
    decide
  encodes body out := by
    simp only [ResolveBody.fields, List.foldlM_cons, List.foldlM_nil, bind_pure]
    rfl
  decodes := by
    intro bytes body
    simp (disch := decide) only [ResolveBody.decode, bind_eq_ok, readWide_ok, readU64_ok, readU8_ok,
      ResolveAction.fromU8_ok, pure_eq_ok, ResolveBody.fields, placed_cons, placed_nil, and_true]
    constructor
    · rintro ⟨_, transferId, _, target, _, byte, _, rfl, _, version, rfl⟩
      exact ⟨transferId, target, byte, version⟩
    · rintro ⟨transferId, target, byte, version⟩
      exact ⟨_, transferId, _, target, _, byte, _, rfl, _, version, rfl⟩

theorem TransportSettlementBody.packed :
    PackedAs TransportSettlementBody.fields transportSettlementBodyLen
      TransportSettlementBody.encodeInto TransportSettlementBody.decode where
  spans body := by
    simp only [TransportSettlementBody.fields, spans_cons, spans_nil, numberField_offset,
      numberField_length]
    decide
  encodes body out := by
    simp only [TransportSettlementBody.fields, List.foldlM_cons, List.foldlM_nil, bind_pure]
    rfl
  decodes := by
    intro bytes body
    simp (disch := decide) only [TransportSettlementBody.decode, bind_eq_ok, readWide_ok, readU8_ok,
      readU128_ok, readU64_ok, SettlementKind.fromU8_ok, pure_eq_ok, TransportSettlementBody.fields,
      placed_cons, placed_nil, and_true]
    constructor
    · rintro ⟨_, transferId, _, byte, _, rfl, _, claim, _, credited, _, impaired, _, version, rfl⟩
      exact ⟨transferId, byte, claim, credited, impaired, version⟩
    · rintro ⟨transferId, byte, claim, credited, impaired, version⟩
      exact ⟨_, transferId, _, byte, _, rfl, _, claim, _, credited, _, impaired, _, version, rfl⟩

-- Whole regions.

def Body.bytes (body : Body) : Bytes := content body.fields

theorem Body.spans (body : Body) : Spans 0 body.fields body.messageType.bodyLen := by
  cases body with
  | allocate body => exact AllocateBody.packed.spans body
  | «recall» body => exact RecallBody.packed.spans body
  | remoteReport body => exact RemoteReportBody.packed.spans body
  | recallSent body => exact RecallSentBody.packed.spans body
  | configUpdate body => exact ConfigUpdateBody.packed.spans body
  | resolve body => exact ResolveBody.packed.spans body
  | transportSettlement body => exact TransportSettlementBody.packed.spans body

@[simp] theorem Body.length_bytes (body : Body) : body.bytes.length = body.messageType.bodyLen := by
  have ends := body.spans.stop_eq
  rwa [Nat.zero_add] at ends

theorem Body.encodeInto_eq (body : Body) (out : Bytes) :
    body.encodeInto out = body.fields.foldlM writeField out := by
  cases body with
  | allocate body => exact AllocateBody.packed.encodes body out
  | «recall» body => exact RecallBody.packed.encodes body out
  | remoteReport body => exact RemoteReportBody.packed.encodes body out
  | recallSent body => exact RecallSentBody.packed.encodes body out
  | configUpdate body => exact ConfigUpdateBody.packed.encodes body out
  | resolve body => exact ResolveBody.packed.encodes body out
  | transportSettlement body => exact TransportSettlementBody.packed.encodes body out

theorem Body.decode_placed {kind : MessageType} {bytes : Bytes} {body : Body} :
    Body.decode kind bytes = .ok body ↔ kind = body.messageType ∧ Placed bytes body.fields := by
  cases kind <;> cases body <;>
    simp [Body.decode, Body.messageType, Body.fields, AllocateBody.packed.decodes,
      RecallBody.packed.decodes, RemoteReportBody.packed.decodes, RecallSentBody.packed.decodes,
      ConfigUpdateBody.packed.decodes, ResolveBody.packed.decodes,
      TransportSettlementBody.packed.decodes]

theorem MessageType.bodyLen_small (kind : MessageType) : headerLen + kind.bodyLen < 2 ^ 64 := by
  cases kind <;> decide

/-- A body's buffer ends up holding exactly the body's bytes. -/
theorem Body.encodeInto_ok {body : Body} {out : Bytes}
    (sized : out.length = body.messageType.bodyLen) : body.encodeInto out = .ok body.bytes := by
  have small := body.messageType.bodyLen_small
  have written : body.fields.foldlM writeField out = .ok (out.take 0 ++ content body.fields ++
      out.drop body.messageType.bodyLen) :=
    writeFields_eq (fun other field same inside => writeField_ok (by omega) (by omega))
      body.spans rfl (Nat.le_of_eq sized.symm)
  rw [Body.encodeInto_eq, written, ← sized, List.drop_length]
  simp [Body.bytes]

/-- A body is read from exactly its own bytes. -/
theorem Body.decode_ok {kind : MessageType} {bytes : Bytes} {body : Body}
    (sized : bytes.length = kind.bodyLen) :
    Body.decode kind bytes = .ok body ↔ kind = body.messageType ∧ bytes = body.bytes := by
  rw [Body.decode_placed]
  apply and_congr_right
  intro same
  rw [same] at sized
  rw [placed_iff body.spans (Nat.le_of_eq sized.symm), ← Body.bytes, body.length_bytes, ← sized,
    slice_all]

theorem WireHeader.spans (header : WireHeader) (messageType : MessageType) (bodyHash : Bytes32) :
    Spans 0 (header.fields messageType bodyHash) headerLen := by
  simp only [WireHeader.fields, spans_cons, spans_nil, numberField_offset,
      numberField_length]
  decide

def WireHeader.bytes (header : WireHeader) (messageType : MessageType) (bodyHash : Bytes32) :
    Bytes := content (header.fields messageType bodyHash)

@[simp] theorem WireHeader.length_bytes (header : WireHeader) (messageType : MessageType)
    (bodyHash : Bytes32) : (header.bytes messageType bodyHash).length = headerLen := by
  have ends := (header.spans messageType bodyHash).stop_eq
  rwa [Nat.zero_add] at ends

theorem writeHeader_ok {header : WireHeader} {messageType : MessageType} {bodyHash : Bytes32}
    {out : Bytes} (sized : out.length = headerLen) :
    writeHeader out header messageType bodyHash = .ok (header.bytes messageType bodyHash) := by
  have chained : writeHeader out header messageType bodyHash =
      (header.fields messageType bodyHash).foldlM writeField out := by
    simp only [WireHeader.fields, List.foldlM_cons, List.foldlM_nil, bind_pure]
    rfl
  have small : headerLen < 2 ^ 64 := by decide
  have written : (header.fields messageType bodyHash).foldlM writeField out =
      .ok (out.take 0 ++ content (header.fields messageType bodyHash) ++ out.drop headerLen) :=
    writeFields_eq (fun other field same inside => writeField_ok (by omega) (by omega))
      (header.spans messageType bodyHash) rfl (Nat.le_of_eq sized.symm)
  rw [chained, written, ← sized, List.drop_length]
  simp [WireHeader.bytes]

/-- The header's own fields are those besides the magic, the kind and the body hash. -/
theorem readHeader_ok {bytes : Bytes} {header : WireHeader} {messageType : MessageType}
    {bodyHash : Bytes32} :
    Placed bytes (header.fields messageType bodyHash) ↔
      Holds bytes ⟨magicOffset, magic⟩ ∧
      Holds bytes (numberField messageTypeOffset 1 messageType.toU8.raw) ∧
      Holds bytes (numberField bodyHashOffset wide bodyHash.raw) ∧
      readHeader bytes = .ok header := by
  simp (disch := decide) only [readHeader, bind_eq_ok, readU16_ok, readU32_ok, readU64_ok,
    readWide_ok, pure_eq_ok, WireHeader.fields, placed_cons, placed_nil, and_true]
  constructor
  · rintro ⟨first, protocol, schema, kind, flags, source, destination, sender, receiver, deployment,
      vault, lane, sequence, previous, observed, published, expires, hash⟩
    exact ⟨first, kind, hash, _, protocol, _, schema, _, flags, _, source, _, destination, _,
      sender, _, receiver, _, deployment, _, vault, _, lane, _, sequence, _, previous, _,
      observed, _, published, _, expires, rfl⟩
  · rintro ⟨first, kind, hash, _, protocol, _, schema, _, flags, _, source, _, destination, _,
      sender, _, receiver, _, deployment, _, vault, _, lane, _, sequence, _, previous, _,
      observed, _, published, _, expires, rfl⟩
    exact ⟨first, protocol, schema, kind, flags, source, destination, sender, receiver, deployment,
      vault, lane, sequence, previous, observed, published, expires, hash⟩

end Protocol
