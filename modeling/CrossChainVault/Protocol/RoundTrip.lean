import CrossChainVault.Protocol.Packed

set_option autoImplicit false

/- The codec is a bijection between the valid messages and the byte strings it accepts. -/

namespace Protocol

open Result Bytes Layout

/-- What the encoder and the decoder both check of a message. -/
structure WireMessage.Valid (message : WireMessage) : Prop where
  protocol : message.header.protocolVersion = protocolVersion
  schema : message.header.schemaVersion = schemaVersion
  header : message.header.validate = .ok ()
  body : message.body.validate message.header.envelopeTimes message.header.sequence = .ok ()

/-- Every bit of the flags is reserved. -/
theorem hasReservedBits_eq_false {flags : Unsigned 16} :
    hasReservedBits flags = false ↔ flags = Unsigned.zero := by
  have masked : flags.raw &&& (Unsigned.max : Unsigned 16).raw = flags.raw := by
    rw [Unsigned.max, Nat.and_two_pow_sub_one_eq_mod, Nat.mod_eq_of_lt flags.bound]
  rw [hasReservedBits, masked, ← Unsigned.raw_inj]
  simp

theorem WireHeader.validate_ok {header : WireHeader} :
    header.validate = .ok () ↔
      header.flags = Unsigned.zero ∧ header.toHeader.validate = .ok () := by
  simp only [WireHeader.validate, bind_eq_ok, rejectIf_eq_ok, exists_const, Bool.not_eq_true,
    hasReservedBits_eq_false]

theorem WireMessage.Valid.flags {message : WireMessage} (valid : message.Valid) :
    message.header.flags = Unsigned.zero :=
  (WireHeader.validate_ok.mp valid.header).1

/-- A header as it is sent: both chains fix the versions and leave the flags clear. -/
def Header.onWire (header : Header) : WireHeader where
  toHeader := header
  protocolVersion := protocolVersion
  schemaVersion := schemaVersion
  flags := Unsigned.zero

theorem WireMessage.valid_onWire {header : Header} {body : Body} :
    (⟨header.onWire, body⟩ : WireMessage).Valid ↔
      header.validate = .ok () ∧
        body.validate ⟨header.observedAt, header.publishedAt⟩ header.sequence = .ok () := by
  constructor
  · intro valid
    exact ⟨(WireHeader.validate_ok.mp valid.header).2, valid.body⟩
  · rintro ⟨checked, fields⟩
    exact ⟨rfl, rfl, WireHeader.validate_ok.mpr ⟨rfl, checked⟩, fields⟩

/-- A valid message's header carries nothing but its fields. -/
theorem WireMessage.Valid.eq_onWire {message : WireMessage} (valid : message.Valid) :
    message.header = message.header.toHeader.onWire := by
  have protocol := valid.protocol
  have schema := valid.schema
  have flags := valid.flags
  rcases message with ⟨⟨header, _, _, _⟩, body⟩
  cases protocol
  cases schema
  cases flags
  rfl

section Hash

variable {keccak256 : Bytes → Bytes32}

/-- The one byte string a message stands for. -/
def WireMessage.canonical (keccak256 : Bytes → Bytes32) (message : WireMessage) : Bytes :=
  message.header.bytes message.messageType (keccak256 message.body.bytes) ++ message.body.bytes

theorem WireMessage.length_canonical (message : WireMessage) :
    (message.canonical keccak256).length = headerLen + message.messageType.bodyLen := by
  rw [WireMessage.canonical, List.length_append, WireHeader.length_bytes, Body.length_bytes]
  rfl

theorem inspectFrame_ok {bytes : Bytes} {frame : Frame} :
    inspectFrame bytes = .ok frame ↔
      ∃ kind : MessageType, frame = ⟨kind, kind.bodyLen⟩ ∧
        bytes.length = headerLen + kind.bodyLen ∧
        Holds bytes ⟨magicOffset, magic⟩ ∧
        Holds bytes (numberField protocolVersionOffset 2 protocolVersion.raw) ∧
        Holds bytes (numberField schemaVersionOffset 2 schemaVersion.raw) ∧
        Holds bytes (numberField messageTypeOffset 1 kind.toU8.raw) := by
  have sized : magic.length = magicLen := rfl
  have total (kind : MessageType) : checkedAddLength headerLen kind.bodyLen =
      some (headerLen + kind.bodyLen) := if_pos kind.bodyLen_small
  simp (disch := decide) only [inspectFrame, bind_eq_ok, rejectIf_eq_ok, exists_const, readU16_ok,
    readU8_ok, MessageType.fromU8_ok, okOr_eq_ok, total, pure_eq_ok, Option.some.injEq,
    Decidable.not_not, Nat.not_lt]
  constructor
  · rintro ⟨_, _, found, rfl, _, protocol, rfl, _, schema, rfl, _, byte, kind, rfl, _, rfl, enough,
      exact, rfl⟩
    rw [← sized] at found
    exact ⟨kind, rfl, Nat.le_antisymm exact enough, (readArray_ok (by decide)).mp found, protocol,
      schema, byte⟩
  · rintro ⟨kind, rfl, wide, found, protocol, schema, byte⟩
    have read : readArray magicLen bytes magicOffset = .ok magic := by
      rw [← sized]
      exact (readArray_ok (by decide)).mpr found
    exact ⟨by omega, _, read, rfl, _, protocol, rfl, _, schema, rfl, _, byte, kind, rfl, _, rfl,
      Nat.le_of_eq wide.symm, Nat.le_of_eq wide, rfl⟩

theorem WireMessage.encodeInto_ok {message : WireMessage} {out : Bytes} {result : Bytes × Nat}
    (room : message.encodedLen ≤ out.length) :
    message.encodeInto keccak256 out = .ok result ↔
      message.Valid ∧ result =
        (message.canonical keccak256 ++ out.drop message.encodedLen, message.encodedLen) := by
  have lengths : message.encodedLen = headerLen + message.messageType.bodyLen :=
    message.messageType.messageLen_eq
  have framed : (out.take message.encodedLen).length = message.encodedLen := by
    rw [List.length_take]
    omega
  have body : message.body.encodeInto ((out.take message.encodedLen).drop headerLen) =
      .ok message.body.bytes := by
    apply Body.encodeInto_ok
    rw [List.length_drop, framed, lengths]
    exact Nat.add_sub_cancel_left _ _
  have head : writeHeader ((out.take message.encodedLen).take headerLen) message.header
      message.messageType (keccak256 message.body.bytes) =
        .ok (message.header.bytes message.messageType (keccak256 message.body.bytes)) := by
    apply writeHeader_ok
    rw [List.length_take, framed]
    omega
  simp only [WireMessage.encodeInto, WireHeader.validateSupportedVersionsForEncode, bind_eq_ok,
    rejectIf_eq_ok, exists_const, mapError_eq_ok, Decidable.not_not, pure_eq_ok, body, head,
    Except.ok.injEq, exists_eq_left', Nat.not_lt, room, true_and]
  constructor
  · rintro ⟨⟨protocol, schema⟩, _, header, _, fields, same⟩
    exact ⟨⟨protocol, schema, header, fields⟩, same.symm⟩
  · rintro ⟨valid, same⟩
    exact ⟨⟨valid.protocol, valid.schema⟩, (), valid.header, (), valid.body, same.symm⟩

/-- The encoder's result, as the bytes a caller sees. -/
theorem WireMessage.encode_ok {message : WireMessage} {bytes : Bytes} :
    (∃ encoded, message.encode keccak256 = .ok encoded ∧ encoded.asBytes = bytes) ↔
      message.Valid ∧ bytes = message.canonical keccak256 := by
  have room : message.encodedLen ≤ (List.replicate maxMessageLen (0 : UInt8)).length := by
    rw [List.length_replicate]
    exact message.messageType.messageLen_le
  have small : message.encodedLen < 2 ^ 16 :=
    Nat.lt_of_le_of_lt message.messageType.messageLen_le (by decide)
  have wide : (message.canonical keccak256).length = message.encodedLen := by
    rw [message.length_canonical]
    exact message.messageType.messageLen_eq.symm
  -- The rest of the buffer is past the width the encoder reports.
  have shown (rest : Bytes) : EncodedMessage.asBytes
      { bytes := message.canonical keccak256 ++ rest, len := ⟨message.encodedLen, small⟩ } =
        message.canonical keccak256 := by
    rw [EncodedMessage.asBytes, if_pos]
    · show (message.canonical keccak256 ++ rest).take message.encodedLen = _
      rw [← wide, List.take_left]
    · rw [List.length_append, wide]
      exact Nat.le_add_right _ _
  simp only [WireMessage.encode, bind_eq_ok, WireMessage.encodeInto_ok room, pure_eq_ok]
  constructor
  · rintro ⟨_, ⟨_, ⟨valid, rfl⟩, rfl⟩, rfl⟩
    refine ⟨valid, ?_⟩
    rw [dif_pos small]
    exact shown _
  · rintro ⟨valid, rfl⟩
    refine ⟨_, ⟨_, ⟨valid, rfl⟩, rfl⟩, ?_⟩
    rw [dif_pos small]
    exact shown _

/-- A byte string is a message's canonical one when its header and its body are found there. -/
theorem WireMessage.eq_canonical_iff {message : WireMessage} {bytes : Bytes} :
    bytes = message.canonical keccak256 ↔
      bytes.length = headerLen + message.messageType.bodyLen ∧
      Placed bytes (message.header.fields message.messageType (keccak256 message.body.bytes)) ∧
      bytes.slice headerLen message.messageType.bodyLen = message.body.bytes := by
  have head := message.header.length_bytes message.messageType (keccak256 message.body.bytes)
  have body : message.body.bytes.length = message.messageType.bodyLen := message.body.length_bytes
  rw [WireMessage.canonical, eq_append_iff, head, body]
  apply and_congr_right
  intro sized
  rw [placed_iff (message.header.spans _ _) (by omega), ← WireHeader.bytes, head]

/-- The decoder accepts a valid message's own bytes and nothing else. -/
theorem decodeMessage_ok {bytes : Bytes} {message : WireMessage} :
    decodeMessage keccak256 bytes = .ok message ↔
      message.Valid ∧ bytes = message.canonical keccak256 := by
  rw [WireMessage.eq_canonical_iff]
  simp (disch := decide) only [decodeMessage, bind_eq_ok, rejectIf_eq_ok, exists_const,
    mapError_eq_ok, Decidable.not_not, pure_eq_ok, inspectFrame_ok, readWide_ok]
  constructor
  · rintro ⟨_, ⟨kind, rfl, sized, first, protocol, schema, byte⟩, found, read, hash, declared, rfl,
      header, head, body, decoded, _, validHeader, _, validBody, rfl⟩
    obtain ⟨inside, rfl⟩ := (window_ok kind.bodyLen_small).mp read
    obtain ⟨rfl, same⟩ := (Body.decode_ok (length_slice inside)).mp decoded
    have placed := readHeader_ok.mpr ⟨first, byte, declared, head⟩
    -- The frame and the header read the same two version fields.
    have version := placed_cons.mp (placed_cons.mp placed).2
    have protocolSame := (readU16_ok (by decide)).mpr version.1
    have schemaSame := (readU16_ok (by decide)).mpr (placed_cons.mp version.2).1
    rw [(readU16_ok (by decide)).mpr protocol, Except.ok.injEq] at protocolSame
    rw [(readU16_ok (by decide)).mpr schema, Except.ok.injEq] at schemaSame
    rw [same] at placed
    exact ⟨⟨protocolSame.symm, schemaSame.symm, validHeader, validBody⟩, sized, placed, same⟩
  · rintro ⟨valid, sized, placed, same⟩
    have version := placed_cons.mp (placed_cons.mp placed).2
    have protocol := version.1
    have schema := (placed_cons.mp version.2).1
    obtain ⟨first, byte, declared, head⟩ := readHeader_ok.mp placed
    rw [valid.protocol] at protocol
    rw [valid.schema] at schema
    have inside : headerLen + message.messageType.bodyLen ≤ bytes.length := Nat.le_of_eq sized.symm
    exact ⟨_, ⟨message.messageType, rfl, sized, first, protocol, schema, byte⟩, message.body.bytes,
      (window_ok message.messageType.bodyLen_small).mpr ⟨inside, same⟩, _, declared, rfl,
      message.header, head, message.body, (Body.decode_ok message.body.length_bytes).mpr ⟨rfl, rfl⟩,
      (), valid.header, (), valid.body, rfl⟩

/-- The width and the kind byte of an accepted string are those of its message. -/
theorem decodeMessage_frame {bytes : Bytes} {message : WireMessage}
    (accepted : decodeMessage keccak256 bytes = .ok message) :
    bytes.length = headerLen + message.messageType.bodyLen ∧
      bytes[messageTypeOffset]? = some (UInt8.ofNat message.messageType.toU8.raw) := by
  have canonical := (decodeMessage_ok.mp accepted).2
  rw [WireMessage.eq_canonical_iff] at canonical
  have byte := (readHeader_ok.mp canonical.2.1).2.1
  exact ⟨canonical.1, holds_byte.mp byte⟩

theorem decodeMessage_flags {bytes : Bytes} {message : WireMessage}
    (accepted : decodeMessage keccak256 bytes = .ok message) :
    readU16 bytes flagsOffset = .ok Unsigned.zero := by
  obtain ⟨valid, canonical⟩ := decodeMessage_ok.mp accepted
  rw [WireMessage.eq_canonical_iff] at canonical
  have version := placed_cons.mp (placed_cons.mp canonical.2.1).2
  have kind := placed_cons.mp (placed_cons.mp version.2).2
  have found := (readU16_ok (by decide)).mpr (placed_cons.mp kind.2).1
  rw [found, valid.flags]

/-- Accepted strings with the same kind byte have the same width. -/
theorem decodeMessage_length {bytes other : Bytes} {message received : WireMessage}
    (accepted : decodeMessage keccak256 bytes = .ok message)
    (also : decodeMessage keccak256 other = .ok received)
    (same : bytes[messageTypeOffset]? = other[messageTypeOffset]?) :
    bytes.length = other.length := by
  obtain ⟨length, byte⟩ := decodeMessage_frame accepted
  obtain ⟨otherLength, otherByte⟩ := decodeMessage_frame also
  rw [byte, otherByte, Option.some.injEq] at same
  rw [length, otherLength, MessageType.kindByte_inj same]

/-- The decoder returns an error. -/
def Rejected (keccak256 : Bytes → Bytes32) (bytes : Bytes) : Prop :=
  ∃ failure, decodeMessage keccak256 bytes = .error failure

theorem rejected_iff {bytes : Bytes} :
    Rejected keccak256 bytes ↔ ∀ message, decodeMessage keccak256 bytes ≠ .ok message := by
  unfold Rejected
  cases decodeMessage keccak256 bytes with
  | error failure => simp
  | ok message => simp

theorem rejected_trailing {bytes extra : Bytes} {message : WireMessage}
    (accepted : decodeMessage keccak256 bytes = .ok message) (longer : extra ≠ []) :
    Rejected keccak256 (bytes ++ extra) := by
  rw [rejected_iff]
  intro received also
  have sized := (decodeMessage_frame accepted).1
  have inside : messageTypeOffset < bytes.length := by
    have : messageTypeOffset < headerLen := by decide
    omega
  have same := decodeMessage_length accepted also (List.getElem?_append_left inside).symm
  have grown := List.length_pos_of_ne_nil longer
  rw [List.length_append] at same
  omega

theorem rejected_truncated {bytes : Bytes} {message : WireMessage} {n : Nat}
    (accepted : decodeMessage keccak256 bytes = .ok message) (shorter : n < bytes.length) :
    Rejected keccak256 (bytes.take n) := by
  rw [rejected_iff]
  intro received also
  have kept : (bytes.take n).length = n := List.length_take_of_le (Nat.le_of_lt shorter)
  have sized := (decodeMessage_frame also).1
  have inside : messageTypeOffset < n := by
    have : messageTypeOffset < headerLen := by decide
    omega
  have same := decodeMessage_length accepted also (List.getElem?_take_of_lt inside).symm
  omega

/-- The widths are distinct, so another kind byte does not fit the bytes that follow. -/
theorem rejected_retyped {bytes : Bytes} {message : WireMessage} {kind : UInt8}
    (accepted : decodeMessage keccak256 bytes = .ok message)
    (changed : bytes[messageTypeOffset]? ≠ some kind) :
    Rejected keccak256 (bytes.set messageTypeOffset kind) := by
  rw [rejected_iff]
  intro received also
  obtain ⟨length, byte⟩ := decodeMessage_frame accepted
  obtain ⟨otherLength, otherByte⟩ := decodeMessage_frame also
  rw [List.length_set] at otherLength
  have kinds : message.messageType = received.messageType :=
    MessageType.bodyLen_inj (by omega)
  have inside : messageTypeOffset < bytes.length := by
    have : messageTypeOffset < headerLen := by decide
    omega
  rw [List.getElem?_set_self inside, ← kinds, ← byte] at otherByte
  exact changed otherByte.symm

theorem rejected_flags {bytes : Bytes} {flags : Unsigned 16}
    (found : readU16 bytes flagsOffset = .ok flags) (reserved : flags ≠ Unsigned.zero) :
    Rejected keccak256 bytes := by
  rw [rejected_iff]
  intro message accepted
  have clear := decodeMessage_flags accepted
  rw [found, Except.ok.injEq] at clear
  exact reserved clear

end Hash

/-- The codec is a bijection between valid messages and accepted byte strings, for any hash:
what it encodes it decodes to the same message, what it decodes it encodes to the same bytes, and
every variant of a message's bytes is refused. -/
theorem codec_bijective (keccak256 : Bytes → Bytes32) :
    (∀ message encoded, WireMessage.encode keccak256 message = .ok encoded →
      decodeMessage keccak256 encoded.asBytes = .ok message) ∧
    (∀ bytes message, decodeMessage keccak256 bytes = .ok message →
      ∃ encoded, message.encode keccak256 = .ok encoded ∧ encoded.asBytes = bytes) ∧
    (∀ bytes other message, decodeMessage keccak256 bytes = .ok message →
      decodeMessage keccak256 other = .ok message → bytes = other) ∧
    (∀ bytes, (∀ message encoded, WireMessage.encode keccak256 message = .ok encoded →
      encoded.asBytes ≠ bytes) → Rejected keccak256 bytes) ∧
    (∀ bytes message, decodeMessage keccak256 bytes = .ok message →
      (∀ extra, extra ≠ [] → Rejected keccak256 (bytes ++ extra)) ∧
      (∀ n, n < bytes.length → Rejected keccak256 (bytes.take n)) ∧
      (∀ kind, bytes[messageTypeOffset]? ≠ some kind →
        Rejected keccak256 (bytes.set messageTypeOffset kind))) ∧
    (∀ bytes flags, readU16 bytes flagsOffset = .ok flags → flags ≠ Unsigned.zero →
      Rejected keccak256 bytes) := by
  refine ⟨?_, ?_, ?_, ?_, ?_, ?_⟩
  · intro message encoded success
    exact decodeMessage_ok.mpr (WireMessage.encode_ok.mp ⟨encoded, success, rfl⟩)
  · intro bytes message accepted
    exact WireMessage.encode_ok.mpr (decodeMessage_ok.mp accepted)
  · intro bytes other message accepted also
    rw [(decodeMessage_ok.mp accepted).2, (decodeMessage_ok.mp also).2]
  · intro bytes absent
    rw [rejected_iff]
    intro message accepted
    obtain ⟨encoded, success, same⟩ := WireMessage.encode_ok.mpr (decodeMessage_ok.mp accepted)
    exact absent message encoded success same
  · intro bytes message accepted
    exact ⟨fun extra longer => rejected_trailing accepted longer,
      fun n shorter => rejected_truncated accepted shorter,
      fun kind changed => rejected_retyped accepted changed⟩
  · intro bytes flags found reserved
    exact rejected_flags found reserved

/-- A checksum in place of the hash. -/
def sampleDigest (bytes : Bytes) : Bytes32 :=
  .ofNat bytes.fromBigEndian

def sampleWire : WireMessage where
  header :=
    { protocolVersion, schemaVersion, flags := Unsigned.zero
      sourceChain := 1, destinationChain := 2
      sourceApplication := 3, destinationApplication := 4
      deploymentId := 5, vaultId := 6, laneId := 7
      sequence := 8, previousCommitment := 9
      observedAt := 10, publishedAt := 11, expiresAt := 12 }
  body := .resolve
    { transferId := 13, targetSequence := 7, action := .close
      configVersion := 1 }

theorem codec_bijective_resolve :
    ∃ encoded, sampleWire.encode sampleDigest = .ok encoded ∧
      decodeMessage sampleDigest encoded.asBytes = .ok sampleWire := by
  have passes : (sampleWire.encode sampleDigest).toOption.any (fun _ => true) = true := by
    decide +kernel
  obtain ⟨encoded, success, _⟩ := ok_of_any passes
  exact ⟨encoded, success, (codec_bijective sampleDigest).1 sampleWire encoded success⟩

end Protocol
