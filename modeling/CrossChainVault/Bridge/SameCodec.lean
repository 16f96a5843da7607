import CrossChainVault.Bridge.Codec
import CrossChainVault.Evm.Codec
import CrossChainVault.Protocol.RoundTrip

set_option autoImplicit false

/- The two codecs write and read the same bytes. -/

namespace Bridge

open Result Bytes Protocol
open Evm (Revert)
open Evm.ProtocolCodec (storeEach storeEach_ok RawRemoteReportBody RawResolveBody
  RawTransportSettlementBody)

/-- One write of the contracts' encoder. -/
def storeField (buf : Bytes) (field : Field) : Except Revert Bytes :=
  storeEach buf field.offset field.bytes

/-- Writing a region of packed fields into a contract's buffer. -/
theorem storeFields_ok {start stop : Nat} {fields : List Field} {buf : Bytes}
    (spans : Spans start fields stop) (inside : stop ≤ buf.length) :
    fields.foldlM storeField buf = .ok (buf.take start ++ content fields ++ buf.drop stop) :=
  writeFields_eq (fun _ _ same room => storeEach_ok (by omega)) spans rfl inside

-- Each region of the contracts is the crate's list of fields, at the contracts' own offsets.

theorem writeHeader_stores (buf : Bytes) (header : Header) (kind : MessageType)
    (bodyHash : Bytes32) :
    Evm.ProtocolCodec.writeHeader buf header kind.toU8 bodyHash =
      (header.onWire.fields kind bodyHash).foldlM storeField buf := by
  simp only [Evm.ProtocolCodec.writeHeader, Evm.ProtocolCodec.writeBytes4_eq,
    Evm.ProtocolCodec.writeU16_eq, Evm.ProtocolCodec.writeU8_eq, Evm.ProtocolCodec.writeU32_eq,
    Evm.ProtocolCodec.writeBytes32_eq, Evm.ProtocolCodec.writeU64_eq, WireHeader.fields,
    List.foldlM_cons, List.foldlM_nil, bind_pure]
  rfl

theorem writeAllocateBody_stores (buf : Bytes) (off : Nat) (body : AllocateBody) :
    Evm.ProtocolCodec.writeAllocateBody buf off body =
      (shift off body.fields).foldlM storeField buf := by
  simp only [Evm.ProtocolCodec.writeAllocateBody, Evm.ProtocolCodec.writeBytes32_eq,
    Evm.ProtocolCodec.writeU128_eq, Evm.ProtocolCodec.writeU64_eq, AllocateBody.fields, shift,
    List.map_cons, List.map_nil, List.foldlM_cons, List.foldlM_nil, bind_pure]
  rfl

theorem writeRecallBody_stores (buf : Bytes) (off : Nat) (body : RecallBody) :
    Evm.ProtocolCodec.writeRecallBody buf off body =
      (shift off body.fields).foldlM storeField buf := by
  simp only [Evm.ProtocolCodec.writeRecallBody, Evm.ProtocolCodec.writeBytes32_eq,
    Evm.ProtocolCodec.writeU128_eq, Evm.ProtocolCodec.writeU64_eq, RecallBody.fields, shift,
    List.map_cons, List.map_nil, List.foldlM_cons, List.foldlM_nil, bind_pure]
  rfl

/-- The bodies as the contracts hold them, with their kinds as bytes. -/
def rawResolve (body : ResolveBody) : RawResolveBody where
  transferId := body.transferId
  targetSequence := body.targetSequence
  action := body.action.toU8
  configVersion := body.configVersion

def rawRemoteReport (body : RemoteReportBody) : RawRemoteReportBody where
  epochId := body.epochId
  remotePrincipal := body.remotePrincipal
  reportedValue := body.reportedValue
  realizedLoss := body.realizedLoss
  unattributedBalance := body.unattributedBalance
  latestCompletedTransferId := body.latestCompletedTransferId
  probeStatus := body.probeStatus.toU8
  probeTimestamp := body.probeTimestamp
  configVersion := body.configVersion
  remoteStateCommitment := body.remoteStateCommitment

def rawTransportSettlement (body : TransportSettlementBody) : RawTransportSettlementBody where
  transferId := body.transferId
  kind := body.kind.toU8
  claimAmount := body.claimAmount
  creditedAmount := body.creditedAmount
  impairedOutstanding := body.impairedOutstanding
  configVersion := body.configVersion

theorem writeResolveBody_stores (buf : Bytes) (off : Nat) (body : ResolveBody) :
    Evm.ProtocolCodec.writeResolveBody buf off (rawResolve body) =
      (shift off body.fields).foldlM storeField buf := by
  simp only [Evm.ProtocolCodec.writeResolveBody, Evm.ProtocolCodec.writeBytes32_eq,
    Evm.ProtocolCodec.writeU8_eq, Evm.ProtocolCodec.writeU64_eq, ResolveBody.fields, shift,
    List.map_cons, List.map_nil, List.foldlM_cons, List.foldlM_nil, bind_pure]
  rfl

theorem readHeader_placed {bytes : Bytes} {header : Header} {kind : MessageType}
    {bodyHash : Bytes32} :
    Placed bytes (header.onWire.fields kind bodyHash) ↔
      Holds bytes ⟨Layout.magicOffset, magic⟩ ∧
      Holds bytes (numberField Layout.protocolVersionOffset 2 protocolVersion.raw) ∧
      Holds bytes (numberField Layout.schemaVersionOffset 2 schemaVersion.raw) ∧
      Holds bytes (numberField Layout.messageTypeOffset 1 kind.toU8.raw) ∧
      Holds bytes (numberField Layout.bodyHashOffset Layout.wide bodyHash.raw) ∧
      Evm.ProtocolCodec.readHeader bytes = .ok header := by
  simp only [Evm.ProtocolCodec.readHeader, bind_eq_ok, Evm.ProtocolCodec.readU16_ok,
    rejectIf_eq_ok, exists_const, Decidable.not_not, Evm.ProtocolCodec.readU32_ok,
    Evm.ProtocolCodec.readBytes32_ok, Evm.ProtocolCodec.readU64_ok, pure_eq_ok, WireHeader.fields,
    placed_cons, placed_nil, and_true]
  constructor
  · rintro ⟨first, protocol, schema, kind, flags, source, destination, sender, receiver,
      deployment, vault, lane, sequence, previous, observed, published, expires, hash⟩
    exact ⟨first, protocol, schema, kind, hash, _, flags, rfl, _, source, _, destination, _,
      sender, _, receiver, _, deployment, _, vault, _, lane, _, sequence, _, previous, _,
      observed, _, published, _, expires, rfl⟩
  · rintro ⟨first, protocol, schema, kind, hash, _, flags, rfl, _, source, _, destination, _,
      sender, _, receiver, _, deployment, _, vault, _, lane, _, sequence, _, previous, _,
      observed, _, published, _, expires, rfl⟩
    exact ⟨first, protocol, schema, kind, flags, source, destination, sender, receiver,
      deployment, vault, lane, sequence, previous, observed, published, expires, hash⟩

theorem readRemoteReportBody_placed {bytes : Bytes} {off : Nat} {body : RemoteReportBody} :
    Evm.ProtocolCodec.readRemoteReportBody bytes off = .ok (rawRemoteReport body) ↔
      Placed bytes (shift off body.fields) := by
  simp only [Evm.ProtocolCodec.readRemoteReportBody, bind_eq_ok, Evm.ProtocolCodec.readU64_ok,
    Evm.ProtocolCodec.readU128_ok, Evm.ProtocolCodec.readBytes32_ok, Evm.ProtocolCodec.readU8_ok,
    pure_eq_ok, RemoteReportBody.fields, shift, List.map_cons, List.map_nil, placed_cons,
    placed_nil, and_true, rawRemoteReport, RawRemoteReportBody.mk.injEq]
  constructor
  · rintro ⟨_, epoch, _, principal, _, value, _, loss, _, unattributed, _, latest, _, byte, _,
      probeAt, _, version, _, commitment, rfl, rfl, rfl, rfl, rfl, rfl, rfl, rfl, rfl, rfl⟩
    exact ⟨epoch, principal, value, loss, unattributed, latest, byte, probeAt, version, commitment⟩
  · rintro ⟨epoch, principal, value, loss, unattributed, latest, byte, probeAt, version,
      commitment⟩
    exact ⟨_, epoch, _, principal, _, value, _, loss, _, unattributed, _, latest, _, byte, _,
      probeAt, _, version, _, commitment, rfl, rfl, rfl, rfl, rfl, rfl, rfl, rfl, rfl, rfl⟩

theorem readRecallSentBody_placed {bytes : Bytes} {off : Nat} {body : RecallSentBody} :
    Evm.ProtocolCodec.readRecallSentBody bytes off = .ok body ↔
      Placed bytes (shift off body.fields) := by
  simp only [Evm.ProtocolCodec.readRecallSentBody, bind_eq_ok, Evm.ProtocolCodec.readU64_ok,
    Evm.ProtocolCodec.readU128_ok, Evm.ProtocolCodec.readBytes32_ok, pure_eq_ok,
    RecallSentBody.fields, shift, List.map_cons, List.map_nil, placed_cons, placed_nil, and_true]
  constructor
  · rintro ⟨_, transferId, _, principal, _, actual, _, loss, _, reference, _, sentAt, _, version,
      rfl⟩
    exact ⟨transferId, principal, actual, loss, reference, sentAt, version⟩
  · rintro ⟨transferId, principal, actual, loss, reference, sentAt, version⟩
    exact ⟨_, transferId, _, principal, _, actual, _, loss, _, reference, _, sentAt, _, version,
      rfl⟩

theorem readTransportSettlementBody_placed {bytes : Bytes} {off : Nat}
    {body : TransportSettlementBody} :
    Evm.ProtocolCodec.readTransportSettlementBody bytes off = .ok (rawTransportSettlement body) ↔
      Placed bytes (shift off body.fields) := by
  simp only [Evm.ProtocolCodec.readTransportSettlementBody, bind_eq_ok,
    Evm.ProtocolCodec.readU64_ok, Evm.ProtocolCodec.readU128_ok,
    Evm.ProtocolCodec.readBytes32_ok, Evm.ProtocolCodec.readU8_ok, pure_eq_ok,
    TransportSettlementBody.fields, shift, List.map_cons, List.map_nil, placed_cons, placed_nil,
    and_true, rawTransportSettlement, RawTransportSettlementBody.mk.injEq]
  constructor
  · rintro ⟨_, transferId, _, byte, _, claim, _, credited, _, impaired, _, version, rfl, rfl, rfl,
      rfl, rfl, rfl⟩
    exact ⟨transferId, byte, claim, credited, impaired, version⟩
  · rintro ⟨transferId, byte, claim, credited, impaired, version⟩
    exact ⟨_, transferId, _, byte, _, claim, _, credited, _, impaired, _, version, rfl, rfl, rfl,
      rfl, rfl, rfl⟩

-- A byte that passes its check stands for a kind of the crate.

theorem resolveAction_known {byte : Unsigned 8} :
    ¬(byte.isZero = true ∨ Evm.ProtocolCodec.resolveRecover < byte) ↔
      ∃ action : ResolveAction, byte = action.toU8 := by
  have three : Evm.ProtocolCodec.resolveRecover.raw = 3 := rfl
  simp only [Unsigned.isZero_iff, Unsigned.lt_def, ← Unsigned.raw_inj, three]
  constructor
  · intro known
    have one_to_three : byte.raw = 1 ∨ byte.raw = 2 ∨ byte.raw = 3 := by omega
    rcases one_to_three with one | two | three
    · exact ⟨.admitTransfer, one⟩
    · exact ⟨.close, two⟩
    · exact ⟨.recover, three⟩
  · rintro ⟨action, same⟩
    cases action <;> simp [same, ResolveAction.toU8]

theorem probeStatus_known {byte : Unsigned 8} :
    ¬Evm.ProtocolCodec.probeFailed < byte ↔ ∃ status : ProbeStatus, byte = status.toU8 := by
  have three : Evm.ProtocolCodec.probeFailed.raw = 3 := rfl
  simp only [Unsigned.lt_def, ← Unsigned.raw_inj, three]
  constructor
  · intro known
    have zero_to_three : byte.raw = 0 ∨ byte.raw = 1 ∨ byte.raw = 2 ∨ byte.raw = 3 := by omega
    rcases zero_to_three with zero | one | two | three
    · exact ⟨.notRequired, zero⟩
    · exact ⟨.fresh, one⟩
    · exact ⟨.stale, two⟩
    · exact ⟨.failed, three⟩
  · rintro ⟨status, same⟩
    cases status <;> simp [same, ProbeStatus.toU8]

theorem settlementKind_known {byte : Unsigned 8} :
    ¬(byte ≠ Evm.ProtocolCodec.settlementClosed ∧ byte ≠ Evm.ProtocolCodec.settlementRecovered) ↔
      ∃ kind : SettlementKind, byte = kind.toU8 := by
  constructor
  · intro known
    by_cases closed : byte = Evm.ProtocolCodec.settlementClosed
    · exact ⟨.closed, closed⟩
    · by_cases recovered : byte = Evm.ProtocolCodec.settlementRecovered
      · exact ⟨.recovered, recovered⟩
      · exact absurd ⟨closed, recovered⟩ known
  · rintro ⟨kind, rfl⟩
    cases kind <;> decide

theorem rawResolve_rules {raw : RawResolveBody} {sequence : Unsigned 64} :
    Evm.ProtocolCodec.validateRawResolve raw sequence = .ok () ↔
      ∃ body, raw = rawResolve body ∧ body.validate sequence = .ok () := by
  simp only [resolve_rules, Evm.ProtocolCodec.validateRawResolve,
    Evm.ProtocolCodec.validateResolve, bind_eq_ok, rejectIf_eq_ok, exists_const,
    resolveAction_known]
  constructor
  · rintro ⟨identifiers, target, before, action, known⟩
    refine ⟨⟨raw.transferId, raw.targetSequence, action, raw.configVersion⟩, ?_, identifiers,
      target, before⟩
    rw [rawResolve, ← known]
  · rintro ⟨body, rfl, identifiers, target, before⟩
    exact ⟨identifiers, target, before, body.action, rfl⟩

theorem rawResolve_inj {body other : ResolveBody} (same : rawResolve body = rawResolve other) :
    body = other := by
  rcases body with ⟨_, _, action, _⟩
  rcases other with ⟨_, _, action', _⟩
  simp only [rawResolve, RawResolveBody.mk.injEq] at same
  obtain ⟨rfl, rfl, actions, rfl⟩ := same
  have known := ResolveAction.fromU8_ok.mpr actions
  rw [ResolveAction.fromU8_ok.mpr rfl, Except.ok.injEq] at known
  rw [known]

theorem rawRemoteReport_rules {raw : RawRemoteReportBody} {observedAt : Unsigned 64} :
    Evm.ProtocolCodec.validateRawRemoteReport raw observedAt = .ok () ↔
      ∃ body, raw = rawRemoteReport body ∧ body.validate observedAt = .ok () := by
  have fresh (status : ProbeStatus) :
      status.toU8 = Evm.ProtocolCodec.probeFresh ↔ status = .fresh := by
    cases status <;> decide
  simp only [report_rules, Evm.ProtocolCodec.validateRawRemoteReport,
    Evm.ProtocolCodec.validateRemoteReport, bind_eq_ok, rejectIf_eq_ok, exists_const,
    probeStatus_known]
  constructor
  · rintro ⟨identifiers, commitment, ⟨status, known⟩, probed, stamped⟩
    refine ⟨⟨raw.epochId, raw.remotePrincipal, raw.reportedValue, raw.realizedLoss,
      raw.unattributedBalance, raw.latestCompletedTransferId, status, raw.probeTimestamp,
      raw.configVersion, raw.remoteStateCommitment⟩, ?_, identifiers, commitment, probed, ?_⟩
    · rw [rawRemoteReport, ← known]
    · rwa [known, fresh] at stamped
  · rintro ⟨body, rfl, identifiers, commitment, probed, stamped⟩
    refine ⟨identifiers, commitment, ⟨body.probeStatus, rfl⟩, probed, ?_⟩
    rwa [rawRemoteReport, fresh]

theorem rawTransportSettlement_rules {raw : RawTransportSettlementBody} :
    Evm.ProtocolCodec.validateRawTransportSettlement raw = .ok () ↔
      ∃ body, raw = rawTransportSettlement body ∧ body.validate = .ok () := by
  simp only [settlement_rules]
  constructor
  · intro checked
    simp only [Evm.ProtocolCodec.validateRawTransportSettlement, bind_eq_ok, rejectIf_eq_ok,
      exists_const, settlementKind_known] at checked
    obtain ⟨identifiers, ⟨kind, known⟩, claim, credit, shortfall, difference, pool⟩ := checked
    refine ⟨⟨raw.transferId, kind, raw.claimAmount, raw.creditedAmount, raw.impairedOutstanding,
      raw.configVersion⟩, ?_, ?_⟩
    · rw [rawTransportSettlement, ← known]
    · simp only [Evm.ProtocolCodec.validateTransportSettlement, bind_eq_ok, rejectIf_eq_ok,
        exists_const]
      refine ⟨identifiers, claim, credit, shortfall, difference, ?_⟩
      cases kind with
      | closed =>
          have closes : raw.kind = Evm.ProtocolCodec.settlementClosed := known
          rwa [if_pos closes] at pool
      | recovered =>
          have recovers : raw.kind ≠ Evm.ProtocolCodec.settlementClosed := by
            rw [known]
            decide
          rwa [if_neg recovers] at pool
  · rintro ⟨body, rfl, checked⟩
    simp only [Evm.ProtocolCodec.validateTransportSettlement, bind_eq_ok, rejectIf_eq_ok,
      exists_const] at checked
    obtain ⟨identifiers, claim, credit, shortfall, difference, pool⟩ := checked
    simp only [Evm.ProtocolCodec.validateRawTransportSettlement, bind_eq_ok, rejectIf_eq_ok,
      exists_const, settlementKind_known]
    refine ⟨identifiers, ⟨body.kind, rfl⟩, claim, credit, shortfall, difference, ?_⟩
    have kinds : (rawTransportSettlement body).kind = body.kind.toU8 := rfl
    rw [kinds]
    cases same : body.kind with
    | closed =>
        rw [same] at pool
        exact pool
    | recovered =>
        rw [same] at pool
        exact pool

section Hash

variable {keccak256 : Bytes → Bytes32}

/-- The contracts seal a body behind an empty header into the canonical bytes. -/
theorem sealMessage_ok {header : Header} {body : Body} {blank : Bytes}
    (sized : blank.length = Layout.headerLen) :
    Evm.ProtocolCodec.sealMessage keccak256 (blank ++ body.bytes) header body.messageType.toU8
        body.messageType.bodyLen =
      .ok ((⟨header.onWire, body⟩ : WireMessage).canonical keccak256) := by
  have wide : body.bytes.length = body.messageType.bodyLen := body.length_bytes
  have start : Evm.ProtocolCodec.headerLen = Layout.headerLen := rfl
  have copied : Evm.ProtocolCodec.slice (blank ++ body.bytes) Evm.ProtocolCodec.headerLen
      body.messageType.bodyLen = .ok body.bytes := by
    have reach : Evm.ProtocolCodec.headerLen + body.messageType.bodyLen =
        (blank ++ body.bytes).length := by
      rw [List.length_append, sized, wide, start]
    rw [Evm.ProtocolCodec.slice_ok (Nat.le_of_eq reach), start, Bytes.slice,
      List.drop_left' sized, ← wide, List.take_length]
  rw [Evm.ProtocolCodec.sealMessage, copied, ok_bind, writeHeader_stores,
    storeFields_ok (header.onWire.spans _ _), List.drop_left' sized, List.take_zero,
    List.nil_append]
  · rfl
  · rw [List.length_append, sized]
    exact Nat.le_add_right _ _

/-- Writing a body into a fresh buffer and sealing it yields the canonical bytes. -/
theorem encoded_ok {header : Header} {body : Body} {total : Nat}
    (sized : total = Layout.headerLen + body.messageType.bodyLen) :
    ((shift Layout.headerLen body.fields).foldlM storeField (List.replicate total 0) >>=
      fun encoded => Evm.ProtocolCodec.sealMessage keccak256 encoded header body.messageType.toU8
        body.messageType.bodyLen) =
      .ok ((⟨header.onWire, body⟩ : WireMessage).canonical keccak256) := by
  have blank : (List.replicate total (0 : UInt8)).length = total := List.length_replicate
  have region := body.spans.shift Layout.headerLen
  have rest : (List.replicate total (0 : UInt8)).drop
      (Layout.headerLen + body.messageType.bodyLen) = [] := by
    apply List.drop_of_length_le
    omega
  rw [storeFields_ok region (by omega), content_shift, ← Body.bytes, rest, List.append_nil, ok_bind,
    sealMessage_ok]
  rw [List.length_take]
  omega

/-- The checks of an encoder, then its bytes. -/
theorem checked_ok {header : Header} {body : Body} {checks : Except Revert Unit} {encoded : Bytes}
    (rules : checks = .ok () ↔
      body.validate ⟨header.observedAt, header.publishedAt⟩ header.sequence = .ok ()) :
    (do
      Evm.ProtocolCodec.validateHeader header
      checks
      .ok ((⟨header.onWire, body⟩ : WireMessage).canonical keccak256)) = .ok encoded ↔
      (⟨header.onWire, body⟩ : WireMessage).Valid ∧
        encoded = (⟨header.onWire, body⟩ : WireMessage).canonical keccak256 := by
  simp only [bind_eq_ok, WireMessage.valid_onWire, header_rules, ← rules]
  constructor
  · rintro ⟨_, head, _, fields, same⟩
    exact ⟨⟨head, fields⟩, (Except.ok.inj same).symm⟩
  · rintro ⟨⟨head, fields⟩, rfl⟩
    exact ⟨(), head, (), fields, rfl⟩

theorem encodeAllocate_ok {header : Header} {body : AllocateBody} {encoded : Bytes} :
    Evm.ProtocolCodec.encodeAllocate keccak256 header body = .ok encoded ↔
      (⟨header.onWire, .allocate body⟩ : WireMessage).Valid ∧
        encoded = (⟨header.onWire, .allocate body⟩ : WireMessage).canonical keccak256 := by
  rw [← checked_ok allocate_rules.symm, Evm.ProtocolCodec.encodeAllocate, writeAllocateBody_stores,
    ← encoded_ok rfl]
  rfl

theorem encodeRecall_ok {header : Header} {body : RecallBody} {encoded : Bytes} :
    Evm.ProtocolCodec.encodeRecall keccak256 header body = .ok encoded ↔
      (⟨header.onWire, .recall body⟩ : WireMessage).Valid ∧
        encoded = (⟨header.onWire, .recall body⟩ : WireMessage).canonical keccak256 := by
  rw [← checked_ok recall_rules.symm, Evm.ProtocolCodec.encodeRecall, writeRecallBody_stores,
    ← encoded_ok rfl]
  rfl

theorem encodeResolve_ok {header : Header} {raw : RawResolveBody} {encoded : Bytes} :
    Evm.ProtocolCodec.encodeResolve keccak256 header raw = .ok encoded ↔
      ∃ body, raw = rawResolve body ∧ (⟨header.onWire, .resolve body⟩ : WireMessage).Valid ∧
        encoded = (⟨header.onWire, .resolve body⟩ : WireMessage).canonical keccak256 := by
  have known (body : ResolveBody) :
      Evm.ProtocolCodec.encodeResolve keccak256 header (rawResolve body) = .ok encoded ↔
        (⟨header.onWire, .resolve body⟩ : WireMessage).Valid ∧
          encoded = (⟨header.onWire, .resolve body⟩ : WireMessage).canonical keccak256 := by
    have rules : Evm.ProtocolCodec.validateRawResolve (rawResolve body) header.sequence = .ok () ↔
        body.validate header.sequence = .ok () := by
      rw [rawResolve_rules]
      constructor
      · rintro ⟨other, same, checked⟩
        rwa [rawResolve_inj same]
      · intro checked
        exact ⟨body, rfl, checked⟩
    rw [← checked_ok rules, Evm.ProtocolCodec.encodeResolve, writeResolveBody_stores,
      ← encoded_ok rfl]
    rfl
  constructor
  · intro success
    have checked := success
    simp only [Evm.ProtocolCodec.encodeResolve, bind_eq_ok] at checked
    obtain ⟨_, _, _, checked, _⟩ := checked
    obtain ⟨body, rfl, _⟩ := rawResolve_rules.mp checked
    exact ⟨body, rfl, (known body).mp success⟩
  · rintro ⟨body, rfl, accepted⟩
    exact (known body).mpr accepted

theorem inspectFrame_holds {bytes : Bytes} {kind : MessageType} {len : Nat}
    (sized : len = Layout.headerLen + kind.bodyLen) :
    Evm.ProtocolCodec.inspectFrame keccak256 bytes kind.toU8 len = .ok () ↔
      bytes.length = len ∧ Holds bytes ⟨Layout.magicOffset, magic⟩ ∧
      Holds bytes (numberField Layout.protocolVersionOffset 2 protocolVersion.raw) ∧
      Holds bytes (numberField Layout.schemaVersionOffset 2 schemaVersion.raw) ∧
      Holds bytes (numberField Layout.messageTypeOffset 1 kind.toU8.raw) ∧
      Holds bytes (numberField Layout.bodyHashOffset Layout.wide
        (keccak256 (bytes.slice Layout.headerLen kind.bodyLen)).raw) := by
  have start : Evm.ProtocolCodec.headerLen = Layout.headerLen := rfl
  have body : len - Evm.ProtocolCodec.headerLen = kind.bodyLen := by omega
  have copied (exact : bytes.length = len) : Evm.ProtocolCodec.slice bytes
      Evm.ProtocolCodec.headerLen (len - Evm.ProtocolCodec.headerLen) =
        .ok (bytes.slice Layout.headerLen kind.bodyLen) := by
    rw [body, start]
    apply Evm.ProtocolCodec.slice_ok
    omega
  simp only [Evm.ProtocolCodec.inspectFrame, bind_eq_ok, rejectIf_eq_ok, exists_const,
    Decidable.not_not, Evm.ProtocolCodec.readBytes4_ok, Evm.ProtocolCodec.readU16_ok,
    Evm.ProtocolCodec.readU8_ok, Evm.ProtocolCodec.readBytes32_ok, Nat.not_lt]
  constructor
  · rintro ⟨_, _, first, rfl, _, protocol, rfl, _, schema, rfl, _, byte, rfl, enough, exact, piece,
      copy, _, hash, rfl⟩
    have same := Nat.le_antisymm exact enough
    rw [copied same, Except.ok.injEq] at copy
    rw [← copy] at hash
    exact ⟨same, first, protocol, schema, byte, hash⟩
  · rintro ⟨same, first, protocol, schema, byte, hash⟩
    exact ⟨by omega, Evm.ProtocolCodec.magic, first, rfl, _, protocol, rfl, _, schema, rfl, _, byte,
      rfl, Nat.le_of_eq same.symm, Nat.le_of_eq same, _, copied same, _, hash, rfl⟩

/-- What the contracts' decoders read is a canonical byte string. -/
theorem frame_canonical {bytes : Bytes} {header : Header} {body : Body} {len : Nat}
    (sized : len = Layout.headerLen + body.messageType.bodyLen) :
    (Evm.ProtocolCodec.inspectFrame keccak256 bytes body.messageType.toU8 len = .ok () ∧
      Evm.ProtocolCodec.readHeader bytes = .ok header ∧
      Placed bytes (shift Layout.headerLen body.fields)) ↔
      bytes = (⟨header.onWire, body⟩ : WireMessage).canonical keccak256 := by
  have region := body.spans.shift Layout.headerLen
  have wide : (content body.fields).length = body.messageType.bodyLen := body.length_bytes
  have found (same : bytes.length = len) : Placed bytes (shift Layout.headerLen body.fields) ↔
      bytes.slice Layout.headerLen body.messageType.bodyLen = body.bytes := by
    rw [placed_iff region (by omega), content_shift, wide]
    rfl
  rw [WireMessage.eq_canonical_iff, inspectFrame_holds sized]
  show _ ↔ bytes.length = Layout.headerLen + body.messageType.bodyLen ∧
    Placed bytes (header.onWire.fields body.messageType (keccak256 body.bytes)) ∧
      bytes.slice Layout.headerLen body.messageType.bodyLen = body.bytes
  rw [readHeader_placed, ← sized]
  constructor
  · rintro ⟨⟨same, first, protocol, schema, byte, hash⟩, head, placed⟩
    have copy := (found same).mp placed
    rw [copy] at hash
    exact ⟨same, ⟨first, protocol, schema, byte, hash, head⟩, copy⟩
  · rintro ⟨same, ⟨first, protocol, schema, byte, hash, head⟩, copy⟩
    rw [← copy] at hash
    exact ⟨⟨same, first, protocol, schema, byte, hash⟩, head, (found same).mpr copy⟩

theorem decodeRemoteReport_ok {bytes : Bytes} {header : Header} {raw : RawRemoteReportBody} :
    Evm.ProtocolCodec.decodeRemoteReport keccak256 bytes = .ok (header, raw) ↔
      ∃ body, raw = rawRemoteReport body ∧
        (⟨header.onWire, .remoteReport body⟩ : WireMessage).Valid ∧
        bytes = (⟨header.onWire, .remoteReport body⟩ : WireMessage).canonical keccak256 := by
  simp only [Evm.ProtocolCodec.decodeRemoteReport, bind_eq_ok, pure_eq_ok, Prod.mk.injEq,
    WireMessage.valid_onWire, header_rules]
  constructor
  · rintro ⟨_, frame, _, head, _, fields, _, read, _, checked, rfl, rfl⟩
    obtain ⟨body, rfl, valid⟩ := rawRemoteReport_rules.mp checked
    exact ⟨body, rfl, ⟨fields, valid⟩,
      (frame_canonical rfl).mp ⟨frame, head, readRemoteReportBody_placed.mp read⟩⟩
  · rintro ⟨body, rfl, ⟨fields, valid⟩, same⟩
    obtain ⟨frame, head, placed⟩ := (frame_canonical rfl).mpr same
    exact ⟨(), frame, header, head, (), fields, _, readRemoteReportBody_placed.mpr placed, (),
      rawRemoteReport_rules.mpr ⟨body, rfl, valid⟩, rfl, rfl⟩

theorem decodeRecallSent_ok {bytes : Bytes} {header : Header} {body : RecallSentBody} :
    Evm.ProtocolCodec.decodeRecallSent keccak256 bytes = .ok (header, body) ↔
      (⟨header.onWire, .recallSent body⟩ : WireMessage).Valid ∧
        bytes = (⟨header.onWire, .recallSent body⟩ : WireMessage).canonical keccak256 := by
  simp only [Evm.ProtocolCodec.decodeRecallSent, bind_eq_ok, pure_eq_ok, Prod.mk.injEq,
    WireMessage.valid_onWire, header_rules]
  constructor
  · rintro ⟨_, frame, _, head, _, fields, _, read, _, checked, rfl, rfl⟩
    exact ⟨⟨fields, recallSent_rules.mpr checked⟩,
      (frame_canonical rfl).mp ⟨frame, head, readRecallSentBody_placed.mp read⟩⟩
  · rintro ⟨⟨fields, valid⟩, same⟩
    obtain ⟨frame, head, placed⟩ := (frame_canonical rfl).mpr same
    exact ⟨(), frame, header, head, (), fields, body, readRecallSentBody_placed.mpr placed, (),
      recallSent_rules.mp valid, rfl, rfl⟩

theorem decodeTransportSettlement_ok {bytes : Bytes} {header : Header}
    {raw : RawTransportSettlementBody} :
    Evm.ProtocolCodec.decodeTransportSettlement keccak256 bytes = .ok (header, raw) ↔
      ∃ body, raw = rawTransportSettlement body ∧
        (⟨header.onWire, .transportSettlement body⟩ : WireMessage).Valid ∧
        bytes = (⟨header.onWire, .transportSettlement body⟩ : WireMessage).canonical keccak256 := by
  simp only [Evm.ProtocolCodec.decodeTransportSettlement, bind_eq_ok, pure_eq_ok, Prod.mk.injEq,
    WireMessage.valid_onWire, header_rules]
  constructor
  · rintro ⟨_, frame, _, head, _, fields, _, read, _, checked, rfl, rfl⟩
    obtain ⟨body, rfl, valid⟩ := rawTransportSettlement_rules.mp checked
    exact ⟨body, rfl, ⟨fields, valid⟩,
      (frame_canonical rfl).mp ⟨frame, head, readTransportSettlementBody_placed.mp read⟩⟩
  · rintro ⟨body, rfl, ⟨fields, valid⟩, same⟩
    obtain ⟨frame, head, placed⟩ := (frame_canonical rfl).mpr same
    exact ⟨(), frame, header, head, (), fields, _, readTransportSettlementBody_placed.mpr placed,
      (), rawTransportSettlement_rules.mpr ⟨body, rfl, valid⟩, rfl, rfl⟩

/-- The crate decodes a message of the wanted kind exactly when it is valid and canonical. -/
theorem decodes_iff {bytes : Bytes} {header : Header} {body : Body} :
    (∃ message, decodeMessage keccak256 bytes = .ok message ∧ message.header.toHeader = header ∧
        message.body = body) ↔
      (⟨header.onWire, body⟩ : WireMessage).Valid ∧
        bytes = (⟨header.onWire, body⟩ : WireMessage).canonical keccak256 := by
  rw [← decodeMessage_ok]
  constructor
  · rintro ⟨message, accepted, rfl, rfl⟩
    rw [← WireMessage.Valid.eq_onWire (decodeMessage_ok.mp accepted).1]
    exact accepted
  · intro accepted
    exact ⟨_, accepted, rfl, rfl⟩

end Hash

/-- The two codecs are the same function, for one shared hash: the contracts encode a control
message exactly when the crate does, to the same bytes, and decode a report exactly when the
crate decodes a message of that kind, to the same fields. -/
theorem codecs_agree (keccak256 : Bytes → Bytes32) :
    (∀ header body encoded,
      Evm.ProtocolCodec.encodeAllocate keccak256 header body = .ok encoded ↔
        ∃ written, WireMessage.encode keccak256 ⟨header.onWire, .allocate body⟩ = .ok written ∧
          written.asBytes = encoded) ∧
    (∀ header body encoded,
      Evm.ProtocolCodec.encodeRecall keccak256 header body = .ok encoded ↔
        ∃ written, WireMessage.encode keccak256 ⟨header.onWire, .recall body⟩ = .ok written ∧
          written.asBytes = encoded) ∧
    (∀ header raw encoded,
      Evm.ProtocolCodec.encodeResolve keccak256 header raw = .ok encoded ↔
        ∃ body, raw = rawResolve body ∧
          ∃ written, WireMessage.encode keccak256 ⟨header.onWire, .resolve body⟩ = .ok written ∧
            written.asBytes = encoded) ∧
    (∀ bytes header raw,
      Evm.ProtocolCodec.decodeRemoteReport keccak256 bytes = .ok (header, raw) ↔
        ∃ body, raw = rawRemoteReport body ∧
          ∃ message, decodeMessage keccak256 bytes = .ok message ∧
            message.header.toHeader = header ∧ message.body = .remoteReport body) ∧
    (∀ bytes header body,
      Evm.ProtocolCodec.decodeRecallSent keccak256 bytes = .ok (header, body) ↔
        ∃ message, decodeMessage keccak256 bytes = .ok message ∧
          message.header.toHeader = header ∧ message.body = .recallSent body) ∧
    (∀ bytes header raw,
      Evm.ProtocolCodec.decodeTransportSettlement keccak256 bytes = .ok (header, raw) ↔
        ∃ body, raw = rawTransportSettlement body ∧
          ∃ message, decodeMessage keccak256 bytes = .ok message ∧
            message.header.toHeader = header ∧ message.body = .transportSettlement body) := by
  refine ⟨?_, ?_, ?_, ?_, ?_, ?_⟩
  · intro header body encoded
    rw [encodeAllocate_ok, WireMessage.encode_ok]
  · intro header body encoded
    rw [encodeRecall_ok, WireMessage.encode_ok]
  · intro header raw encoded
    simp only [encodeResolve_ok, WireMessage.encode_ok]
  · intro bytes header raw
    simp only [decodeRemoteReport_ok, decodes_iff]
  · intro bytes header body
    rw [decodeRecallSent_ok, decodes_iff]
  · intro bytes header raw
    simp only [decodeTransportSettlement_ok, decodes_iff]

def sampleResolve : ResolveBody where
  transferId := 13
  targetSequence := 7
  action := .close
  configVersion := 1

/-- A closing resolution leaves the contracts as the bytes the crate writes for it. -/
theorem codecs_agree_resolve :
    ∃ written, WireMessage.encode sampleDigest
        ⟨sampleWire.header.toHeader.onWire, .resolve sampleResolve⟩ = .ok written ∧
      Evm.ProtocolCodec.encodeResolve sampleDigest sampleWire.header.toHeader
        (rawResolve sampleResolve) = .ok written.asBytes := by
  have passes : (WireMessage.encode sampleDigest ⟨sampleWire.header.toHeader.onWire,
      .resolve sampleResolve⟩).toOption.any (fun _ => true) = true := by
    decide +kernel
  obtain ⟨written, success, _⟩ := ok_of_any passes
  have agree := (codecs_agree sampleDigest).2.2.1 sampleWire.header.toHeader
    (rawResolve sampleResolve) written.asBytes
  exact ⟨written, success, agree.mpr ⟨sampleResolve, rfl, written, success, rfl⟩⟩

end Bridge
