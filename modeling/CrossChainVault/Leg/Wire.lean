import CrossChainVault.Leg.Instructions
import CrossChainVault.Protocol.RoundTrip

set_option autoImplicit false

/- The leg's messages as the bytes it publishes and receives. -/

namespace Leg

open Result Bytes Protocol

/-- Largest canonical message the transport carries. -/
def maxReportLen : Nat := 400

/-- Maps a shared encode failure onto one typed program error. -/
def encodeError : EncodeError → RemoteLegError
  | .bufferTooSmall _ _ => .reportTooLarge
  | _ => .invalidOutboundMessage

/-- Maps a shared decode failure onto one typed program error. -/
def decodeError : DecodeError → RemoteLegError
  | .unsupportedProtocolVersion _ => .invalidProtocolVersion
  | .unsupportedSchemaVersion _ => .invalidSchemaVersion
  | .unknownMessageType _ => .unsupportedMessageType
  | _ => .invalidMessage

/-- The bytes that stand for a message. -/
def canonical (keccak256 : Bytes → Bytes32) (message : Message) : Bytes :=
  (⟨message.header.onWire, message.body⟩ : WireMessage).canonical keccak256

section Hash

variable (keccak256 : Bytes → Bytes32)

/-- Decodes one canonical message after bounding its width. -/
def decode (bytes : Bytes) : Except RemoteLegError WireMessage := do
  rejectIf bytes.isEmpty .invalidMessage
  rejectIf (Layout.maxMessageLen < bytes.length) .messageTooLarge
  (decodeMessage keccak256 bytes).mapError decodeError

/-- `validateInbound` on the bytes that arrived. -/
def validateInboundBytes (bytes : Bytes) (messageClass : MessageClass) (config : RemoteConfig)
    (lane : ReplayLane) (now : U64) : Except RemoteLegError Message := do
  let decoded ← decode keccak256 bytes
  let message : Message := ⟨decoded.header.toHeader, decoded.body⟩
  -- The decoder applied the field rules already, so `validateInbound` finds them kept.
  validateInbound message messageClass config lane now
  pure message

/-- Encodes one message and bounds its exact bytes. -/
def Accounts.buildBytes (a : Accounts) (now : U64) (body : Body) :
    Except RemoteLegError Bytes := do
  let header ← a.outboundHeader now
  let message : WireMessage := ⟨header.onWire, body⟩
  let encoded ← (message.encode keccak256).mapError encodeError
  let bytes := encoded.asBytes
  rejectIf (bytes.length ≠ body.messageType.messageLen) .invalidEncodedLength
  rejectIf (maxReportLen < bytes.length) .reportTooLarge
  rejectIf (Layout.maxMessageLen < bytes.length) .messageTooLarge
  rejectIf (bytes.length < Layout.headerLen) .invalidEncodedLength
  pure bytes

end Hash

section Bytes

variable {keccak256 : Bytes → Bytes32} {message : Message} {bytes : Bytes} {a : Accounts}
  {now : U64} {body : Body}

theorem checkedAdd_error {bits : Nat} {a b : Unsigned bits} {failure : RemoteLegError}
    (refused : checkedAdd a b = .error failure) : failure = .arithmeticOverflow := by
  unfold checkedAdd Unsigned.checkedAdd at refused
  split at refused
  · cases refused
  · exact (Except.error.inj refused).symm

/-- The structured rules are the encoder's and the decoder's. -/
theorem validate_iff_valid :
    message.validate = .ok () ↔ (⟨message.header.onWire, message.body⟩ : WireMessage).Valid := by
  have same : message.validate = (do
      message.header.validate
      message.body.validate ⟨message.header.observedAt, message.header.publishedAt⟩
        message.header.sequence) := by
    obtain ⟨header, body⟩ := message
    cases body <;> rfl
  rw [WireMessage.valid_onWire, same, bind_eq_ok]
  constructor
  · rintro ⟨⟨⟩, header, body⟩
    exact ⟨header, body⟩
  · rintro ⟨header, body⟩
    exact ⟨(), header, body⟩

theorem length_canonical (keccak256 : Bytes → Bytes32) (message : Message) :
    (canonical keccak256 message).length = message.body.messageType.messageLen := by
  rw [canonical, WireMessage.length_canonical, MessageType.messageLen_eq]
  rfl

theorem messageLen_pos (kind : MessageType) : Layout.headerLen ≤ kind.messageLen := by
  rw [kind.messageLen_eq]
  exact Nat.le_add_right _ _

theorem decode_canonical (valid : message.validate = .ok ()) :
    decode keccak256 (canonical keccak256 message) =
      .ok ⟨message.header.onWire, message.body⟩ := by
  have wide := messageLen_pos message.body.messageType
  have decoded : decodeMessage keccak256 (canonical keccak256 message) =
      .ok ⟨message.header.onWire, message.body⟩ :=
    decodeMessage_ok.mpr ⟨validate_iff_valid.mp valid, rfl⟩
  simp only [decode, bind_eq_ok, rejectIf_eq_ok, exists_const, mapError_eq_ok]
  refine ⟨?_, ?_, decoded⟩
  · intro empty
    rw [List.isEmpty_iff] at empty
    have length := length_canonical keccak256 message
    rw [empty] at length
    have filled : 0 < Layout.headerLen := by decide
    have none : ([] : Bytes).length = 0 := rfl
    omega
  · rw [length_canonical]
    exact Nat.not_lt.mpr (MessageType.messageLen_le _)

/-- A message that passes the structured rules passes them as bytes. -/
theorem validateInboundBytes_canonical {messageClass : MessageClass} {config : RemoteConfig}
    {lane : ReplayLane} (next : Next message messageClass config lane now) :
    validateInboundBytes keccak256 (canonical keccak256 message) messageClass config lane now =
      .ok message := by
  simp only [validateInboundBytes, decode_canonical next.valid, bind_eq_ok, Except.ok.injEq,
    exists_eq_left', pure_eq_ok]
  exact ⟨(), validateInbound_ok.mpr next, rfl⟩

/-- Bytes that pass stand for a message that passes the structured rules. -/
theorem next_of_validateInboundBytes {messageClass : MessageClass} {config : RemoteConfig}
    {lane : ReplayLane}
    (accepted : validateInboundBytes keccak256 bytes messageClass config lane now = .ok message) :
    Next message messageClass config lane now := by
  simp only [validateInboundBytes, bind_eq_ok, pure_eq_ok] at accepted
  obtain ⟨decoded, -, _, passes, rfl⟩ := accepted
  exact validateInbound_ok.mp passes

/-- The encoder's own buffer always has room, so only a broken field rule stops it. -/
theorem encode_error {sent : WireMessage} {failure : EncodeError}
    (refused : sent.encode keccak256 = .error failure) :
    encodeError failure = .invalidOutboundMessage := by
  have invalid : ¬sent.Valid := by
    intro valid
    obtain ⟨encoded, success, -⟩ := WireMessage.encode_ok.mpr ⟨valid, rfl⟩
    cases refused.symm.trans success
  rw [WireMessage.encode, bind_eq_error] at refused
  obtain refused | ⟨_, -, impossible⟩ := refused
  · -- The three checks in order; past them the message would be valid.
    simp only [WireMessage.encodeInto, WireHeader.validateSupportedVersionsForEncode] at refused
    rw [bind_eq_error] at refused
    obtain refused | ⟨_, versions, refused⟩ := refused
    · rw [bind_eq_error, rejectIf_eq_error] at refused
      obtain ⟨-, rfl⟩ | ⟨_, -, refused⟩ := refused
      · rfl
      · obtain ⟨-, rfl⟩ := rejectIf_eq_error.mp refused
        rfl
    rw [bind_eq_error, mapError_eq_error] at refused
    obtain ⟨_, -, rfl⟩ | ⟨_, header, refused⟩ := refused
    · rfl
    rw [bind_eq_error, mapError_eq_error] at refused
    obtain ⟨_, -, rfl⟩ | ⟨_, fields, -⟩ := refused
    · rfl
    simp only [bind_eq_ok, rejectIf_eq_ok, exists_const, Decidable.not_not] at versions
    exact absurd ⟨versions.1, versions.2, mapError_eq_ok.mp header, mapError_eq_ok.mp fields⟩ invalid
  · cases impossible

/-- The bytes of a message that was built. -/
theorem buildBytes_ok :
    a.buildBytes keccak256 now body = .ok bytes ↔
      ∃ message, a.build now body = .ok message ∧ bytes = canonical keccak256 message := by
  simp only [Accounts.buildBytes, Accounts.build, bind_eq_ok, mapError_eq_ok, mapInvalid_ok,
    rejectIf_eq_ok, exists_const, pure_eq_ok]
  constructor
  · rintro ⟨header, built, encoded, success, -, -, -, -, rfl⟩
    obtain ⟨valid, same⟩ := WireMessage.encode_ok.mp ⟨encoded, success, rfl⟩
    exact ⟨⟨header, body⟩, ⟨header, built, (), validate_iff_valid.mpr valid, rfl⟩, same⟩
  · rintro ⟨_, ⟨header, built, _, valid, rfl⟩, rfl⟩
    obtain ⟨encoded, success, same⟩ := WireMessage.encode_ok.mpr ⟨validate_iff_valid.mp valid, rfl⟩
    have length : encoded.asBytes.length = body.messageType.messageLen := by
      rw [same]
      exact length_canonical keccak256 ⟨header, body⟩
    have wide := messageLen_pos body.messageType
    have short := body.messageType.messageLen_le
    have budget : Layout.maxMessageLen = maxReportLen := rfl
    exact ⟨header, built, encoded, success, not_not.mpr length, by omega, by omega, by omega, same⟩

/-- Only an expiry that does not fit or a broken field rule stops an outbound message. -/
theorem buildBytes_error {failure : RemoteLegError}
    (refused : a.buildBytes keccak256 now body = .error failure) :
    failure = .arithmeticOverflow ∨ failure = .invalidOutboundMessage := by
  have unbuilt (message : Message) : a.build now body ≠ .ok message := by
    intro built
    cases refused.symm.trans (buildBytes_ok.mpr ⟨message, built, rfl⟩)
  rw [Accounts.buildBytes, bind_eq_error] at refused
  obtain refused | ⟨header, built, refused⟩ := refused
  · rw [Accounts.outboundHeader, bind_eq_error] at refused
    obtain overflow | ⟨_, -, impossible⟩ := refused
    · exact .inl (checkedAdd_error overflow)
    · cases impossible
  rw [bind_eq_error, mapError_eq_error] at refused
  obtain ⟨reason, refused, rfl⟩ | ⟨encoded, success, -⟩ := refused
  · exact .inr (encode_error refused)
  · obtain ⟨valid, -⟩ := WireMessage.encode_ok.mp ⟨encoded, mapError_eq_ok.mp success, rfl⟩
    refine absurd ?_ (unbuilt ⟨header, body⟩)
    simp only [Accounts.build, bind_eq_ok, mapInvalid_ok, pure_eq_ok]
    exact ⟨header, built, (), validate_iff_valid.mpr valid, rfl⟩

end Bytes

end Leg
