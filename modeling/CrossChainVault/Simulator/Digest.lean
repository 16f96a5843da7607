import CrossChainVault.Base.Spelling
import CrossChainVault.Simulator.Compose

set_option autoImplicit false

/- The canonical bytes of the simulator, written by hand field by field, and what they tell about
the state. -/

namespace XchainSim

open Spelling (Tells Unambiguous)

namespace Encoder

def tag (letters : List Char) : Bytes := letters.map fun letter => UInt8.ofNat letter.toNat

def u8 (value : UInt8) : Bytes := [value]

def bool (value : Bool) : Bytes := u8 (if value then 1 else 0)

def u16 (value : Unsigned 16) : Bytes := Bytes.toBigEndian 2 value.raw

def u32 (value : Unsigned 32) : Bytes := Bytes.toBigEndian 4 value.raw

def u64 (value : Unsigned 64) : Bytes := Bytes.toBigEndian 8 value.raw

def u128 (value : Unsigned 128) : Bytes := Bytes.toBigEndian 16 value.raw

def count (value : Nat) : Bytes := u32 (saturated 32 value)

def wide (value : Protocol.Bytes32) : Bytes := Bytes.toBigEndian 32 value.raw

/-- Length first, so no two payloads can share one byte string. -/
def blob (value : Bytes) : Bytes := count value.length ++ value

def tick (value : Tick) : Bytes := u64 value

/-- A presence byte then a fixed width value, so absence has its own shape. -/
def maybeTick (value : Option Tick) : Bytes := bool value.isSome ++ u64 (value.getD 0)

def maybeU64 (value : Option (Unsigned 64)) : Bytes := bool value.isSome ++ u64 (value.getD 0)

def maybeU16 (value : Option (Unsigned 16)) : Bytes := bool value.isSome ++ u16 (value.getD 0)

/- What each field tells. -/

theorem bigEndian_tells {bits width : Nat} (exact : bits = 8 * width) :
    Unambiguous (fun value : Unsigned bits => Bytes.toBigEndian width value.raw) fun _ => True := by
  apply Tells.fixed fun value _ => Bytes.length_toBigEndian width value.raw
  intro a b _ _ alike
  have left : a.raw < 2 ^ (8 * width) := exact ▸ a.bound
  have right : b.raw < 2 ^ (8 * width) := exact ▸ b.bound
  apply Unsigned.ext
  rw [← Bytes.fromBigEndian_toBigEndian width a.raw left, alike,
    Bytes.fromBigEndian_toBigEndian width b.raw right]

theorem u8_tells : Unambiguous u8 fun _ => True := by
  apply Tells.fixed fun _ _ => List.length_singleton
  intro a b _ _ alike
  exact List.singleton_inj.mp alike

theorem bool_tells : Unambiguous bool fun _ => True := by
  apply (u8_tells.free fun value : Bool => if value then 1 else 0).mono fun _ fits => fits
  intro a b _ _ same
  cases a <;> cases b <;> first | rfl | exact absurd same (by decide)

theorem u16_tells : Unambiguous u16 fun _ => True := bigEndian_tells rfl

theorem u32_tells : Unambiguous u32 fun _ => True := bigEndian_tells rfl

theorem u64_tells : Unambiguous u64 fun _ => True := bigEndian_tells rfl

theorem u128_tells : Unambiguous u128 fun _ => True := bigEndian_tells rfl

theorem wide_tells : Unambiguous wide fun _ => True := bigEndian_tells rfl

theorem tick_tells : Unambiguous tick fun _ => True := u64_tells

/-- A length is told unless it was cut down to the largest one. -/
theorem count_tells : Unambiguous count (· < 2 ^ 32) := by
  apply (u32_tells.free (saturated 32)).mono fun _ fits => fits
  intro a b hA hB same
  have raw := congrArg Unsigned.raw same
  unfold saturated at raw
  rwa [dif_pos hA, dif_pos hB] at raw

theorem blob_tells : Unambiguous blob (·.length < 2 ^ 32) := by
  intro a b rest rest' hA hB alike
  unfold blob at alike
  rw [List.append_assoc, List.append_assoc] at alike
  obtain ⟨lengths, later⟩ := count_tells hA hB alike
  exact List.append_inj later lengths

theorem maybeU64_tells : Unambiguous maybeU64 fun _ => True :=
  (bool_tells.optional u64_tells trivial).mono (fun _ _ _ _ => trivial) fun _ _ _ _ told => told

theorem maybeTick_tells : Unambiguous maybeTick fun _ => True := maybeU64_tells

theorem maybeU16_tells : Unambiguous maybeU16 fun _ => True :=
  (bool_tells.optional u16_tells trivial).mono (fun _ _ _ _ => trivial) fun _ _ _ _ told => told

end Encoder

/-- The one-byte codes. -/
def statusCode : EventStatus → UInt8
  | .scheduled => 0
  | .ready => 1
  | .delivered => 2
  | .dropped => 3
  | .blocked => 4
  | .expired => 5
  | .rejectedBySimulator => 6

def laneCode (lane : Lane) : UInt8 := .ofNat lane.priority.raw

def laneStateCode : LaneState → UInt8
  | .running => 0
  | .paused => 1

def policyCode : LatePolicy → UInt8
  | .deliverWithMarker => 0
  | .expire => 1

section Writers

open Encoder

/-- The edit of a message in an inbox, with the identity it had before. -/
def writeDeliveredMutation : Option ByteMutation → Bytes
  | some mutation =>
      bool true ++ u64 mutation.offset ++ u8 mutation.old ++ u8 mutation.new ++
        wide mutation.originalMessageId
  | none => bool false ++ u64 0 ++ u8 0 ++ u8 0 ++ wide 0

def writeDeliveredControl (entry : DeliveredControl) : Bytes :=
  u64 entry.event ++ u32 entry.source ++ u32 entry.intendedDestination ++ blob entry.bytes ++
    wide entry.messageId ++ tick entry.deliveredAt ++ maybeU64 entry.duplicateOf ++
    writeDeliveredMutation entry.mutation ++ bool entry.afterDeadline

def writeControlInbox (entries : List DeliveredControl) : Bytes :=
  count entries.length ++ entries.flatMap writeDeliveredControl

def writeDeliveredAsset (entry : DeliveredAsset) : Bytes :=
  u64 entry.event ++ wide entry.transfer ++ u32 entry.source ++ u32 entry.intendedDestination ++
    u128 entry.requested ++ u128 entry.delivered ++ tick entry.deliveredAt ++
    maybeU64 entry.duplicateOf ++ maybeU16 entry.piece ++ bool entry.overDelivered ++
    bool entry.afterTimeout

def writeAssetInbox (entries : List DeliveredAsset) : Bytes :=
  count entries.length ++ entries.flatMap writeDeliveredAsset

def writeEndpoint (endpoint : Endpoint) : Bytes :=
  u32 endpoint.id ++ bool endpoint.isHalted ++ writeControlInbox endpoint.controlInbox ++
    writeAssetInbox endpoint.assetInbox

/-- The edit of a message under way. The identity it had before is not written. -/
def writeMutation : Option ByteMutation → Bytes
  | some mutation => bool true ++ u64 mutation.offset ++ u8 mutation.old ++ u8 mutation.new
  | none => bool false ++ u64 0 ++ u8 0 ++ u8 0

def writeControlEvent (control : ControlEvent) : Bytes :=
  u64 control.id ++ u32 control.source ++ u32 control.destination ++
    u32 control.intendedDestination ++ blob control.bytes ++ wide control.messageId ++
    tick control.deliverAt ++ u32 control.attempts ++ maybeU64 control.duplicateOf ++
    writeMutation control.mutation ++ maybeTick control.expiresAt ++ bool control.fromFault ++
    u8 (statusCode control.status)

def writeAssetEvent (asset : AssetEvent) : Bytes :=
  u64 asset.id ++ wide asset.transfer ++ u32 asset.source ++ u32 asset.destination ++
    u32 asset.intendedDestination ++ u128 asset.requested ++ u128 asset.delivered ++
    tick asset.deliverAt ++ u32 asset.attempts ++ maybeU64 asset.duplicateOf ++
    maybeU16 asset.piece ++ bool asset.overDelivered ++ maybeTick asset.timeoutAt ++
    bool asset.fromFault ++ u8 (statusCode asset.status)

def writeEvent (event : Event) : Bytes :=
  u8 (laneCode event.lane) ++
    match event with
    | .control control => writeControlEvent control
    | .asset asset => writeAssetEvent asset

def writeTarget : FaultTarget → Bytes
  | .event id => u8 1 ++ u64 id
  | .message id => u8 2 ++ wide id
  | .transfer id => u8 3 ++ wide id
  | .route source destination lane => u8 4 ++ (u32 source ++ u32 destination ++ u8 (laneCode lane))
  | .lane lane => u8 5 ++ u8 (laneCode lane)

def writeAction : FaultAction → Bytes
  | .delay ticks => u8 1 ++ u64 ticks
  | .drop => u8 2
  | .duplicate copies spacing => u8 3 ++ (u16 copies ++ u64 spacing)
  | .replaceDestination endpoint => u8 4 ++ u32 endpoint
  | .corruptByte offset mask => u8 5 ++ (u64 offset ++ u8 mask)
  | .partialAmount amount => u8 6 ++ u128 amount
  | .split pieces spacing => u8 7 ++ (count pieces.length ++ pieces.flatMap u128 ++ u64 spacing)
  | .overDeliver amount => u8 8 ++ u128 amount

def writeFault (fault : Fault) : Bytes :=
  u32 fault.id ++ writeTarget fault.target ++ writeAction fault.action

def writeQueueKey (key : QueueKey) : Bytes :=
  tick key.deliverAt ++ u8 (.ofNat key.lanePriority.raw) ++ u64 key.event

def writeLane (s : Simulator) (lane : Lane) : Bytes :=
  u8 (laneCode lane) ++ u8 (laneStateCode (s.laneState lane))

/- What the codes and the records tell. -/

theorem statusCode_injective {a b : EventStatus} (same : statusCode a = statusCode b) : a = b := by
  cases a <;> cases b <;> first | rfl | exact absurd same (by decide)

theorem laneCode_injective {a b : Lane} (same : laneCode a = laneCode b) : a = b := by
  cases a <;> cases b <;> first | rfl | exact absurd same (by decide)

theorem laneStateCode_injective {a b : LaneState} (same : laneStateCode a = laneStateCode b) :
    a = b := by
  cases a <;> cases b <;> first | rfl | exact absurd same (by decide)

theorem policyCode_injective {a b : LatePolicy} (same : policyCode a = policyCode b) : a = b := by
  cases a <;> cases b <;> first | rfl | exact absurd same (by decide)

theorem writeDeliveredMutation_tells : Unambiguous writeDeliveredMutation fun _ => True := by
  have content : Unambiguous (fun mutation : ByteMutation => u64 mutation.offset ++
      u8 mutation.old ++ u8 mutation.new ++ wide mutation.originalMessageId) fun _ => True := by
    refine ((((u64_tells.free ByteMutation.offset).append (u8_tells.free ByteMutation.old)).append
      (u8_tells.free ByteMutation.new)).append
      (wide_tells.free ByteMutation.originalMessageId)).mono (fun _ fits => fits) ?_
    intro a b _ _ told
    rw [ByteMutation.mk.injEq]
    simpa only [and_assoc] using told
  have written : writeDeliveredMutation = fun mutation : Option ByteMutation => bool mutation.isSome ++
      (fun mutation : ByteMutation => u64 mutation.offset ++ u8 mutation.old ++ u8 mutation.new ++
        wide mutation.originalMessageId) (mutation.getD ⟨0, 0, 0, 0⟩) := by
    funext mutation
    cases mutation <;> rfl
  rw [written]
  exact (bool_tells.optional content trivial).mono (fun _ _ _ _ => trivial) fun _ _ _ _ told => told

theorem writeDeliveredControl_tells :
    Unambiguous writeDeliveredControl fun entry => entry.bytes.length < 2 ^ 32 := by
  refine (((((((((u64_tells.free DeliveredControl.event).append
    (u32_tells.free DeliveredControl.source)).append
    (u32_tells.free DeliveredControl.intendedDestination)).append
    (blob_tells.field DeliveredControl.bytes fun _ fits => fits)).append
    (wide_tells.free DeliveredControl.messageId)).append
    (tick_tells.free DeliveredControl.deliveredAt)).append
    (maybeU64_tells.free DeliveredControl.duplicateOf)).append
    (writeDeliveredMutation_tells.free DeliveredControl.mutation)).append
    (bool_tells.free DeliveredControl.afterDeadline)).mono (fun _ fits => fits) ?_
  intro a b _ _ told
  cases a
  cases b
  rw [DeliveredControl.mk.injEq]
  simpa only [and_assoc] using told

theorem writeDeliveredAsset_tells : Unambiguous writeDeliveredAsset fun _ => True := by
  refine (((((((((((u64_tells.free DeliveredAsset.event).append
    (wide_tells.free DeliveredAsset.transfer)).append
    (u32_tells.free DeliveredAsset.source)).append
    (u32_tells.free DeliveredAsset.intendedDestination)).append
    (u128_tells.free DeliveredAsset.requested)).append
    (u128_tells.free DeliveredAsset.delivered)).append
    (tick_tells.free DeliveredAsset.deliveredAt)).append
    (maybeU64_tells.free DeliveredAsset.duplicateOf)).append
    (maybeU16_tells.free DeliveredAsset.piece)).append
    (bool_tells.free DeliveredAsset.overDelivered)).append
    (bool_tells.free DeliveredAsset.afterTimeout)).mono (fun _ fits => fits) ?_
  intro a b _ _ told
  cases a
  cases b
  rw [DeliveredAsset.mk.injEq]
  simpa only [and_assoc] using told

/-- The inboxes of an endpoint and the messages in them are short enough to be counted. -/
structure Endpoint.Countable (endpoint : Endpoint) : Prop where
  control : endpoint.controlInbox.length < 2 ^ 32
  bytes : ∀ entry ∈ endpoint.controlInbox, entry.bytes.length < 2 ^ 32
  asset : endpoint.assetInbox.length < 2 ^ 32

instance (endpoint : Endpoint) : Decidable endpoint.Countable :=
  decidable_of_iff (endpoint.controlInbox.length < 2 ^ 32 ∧
      (∀ entry ∈ endpoint.controlInbox, entry.bytes.length < 2 ^ 32) ∧
      endpoint.assetInbox.length < 2 ^ 32)
    ⟨fun ⟨control, bytes, asset⟩ => ⟨control, bytes, asset⟩,
      fun short => ⟨short.control, short.bytes, short.asset⟩⟩

theorem writeEndpoint_tells : Unambiguous writeEndpoint Endpoint.Countable := by
  have control : Tells (fun endpoint => writeControlInbox endpoint.controlInbox) Endpoint.Countable
      fun a b => a.controlInbox = b.controlInbox :=
    (Tells.counted count_tells writeDeliveredControl_tells).field Endpoint.controlInbox
      fun _ fits => ⟨fits.control, fits.bytes⟩
  have asset : Tells (fun endpoint => writeAssetInbox endpoint.assetInbox) Endpoint.Countable
      fun a b => a.assetInbox = b.assetInbox :=
    (Tells.counted count_tells writeDeliveredAsset_tells).field Endpoint.assetInbox
      fun _ fits => ⟨fits.asset, fun _ _ => trivial⟩
  refine ((((u32_tells.free Endpoint.id).append (bool_tells.free Endpoint.isHalted)).append
    control).append asset).mono (fun _ fits => fits) ?_
  intro a b _ _ told
  obtain ⟨⟨⟨id, halted⟩, control⟩, asset⟩ := told
  have state : a.state = b.state := by
    unfold Endpoint.isHalted at halted
    cases left : a.state <;> cases right : b.state <;> rw [left, right] at halted <;>
      first | rfl | cases halted
  cases a
  cases b
  rw [Endpoint.mk.injEq]
  exact ⟨id, state, control, asset⟩

/-- The identity of a message is that of its bytes, and the one it had before an edit that of the
bytes with the old byte put back. -/
structure ControlEvent.Honest (keccak256 : Bytes → Protocol.Bytes32) (control : ControlEvent) :
    Prop where
  identity : control.messageId = messageIdentity keccak256 control.bytes
  original : ∀ mutation ∈ control.mutation, mutation.originalMessageId =
    messageIdentity keccak256 (control.bytes.set mutation.offset.raw mutation.old)

/-- What is written of an edit. -/
def ByteMutation.edit (mutation : ByteMutation) : Unsigned 64 × UInt8 × UInt8 :=
  (mutation.offset, mutation.old, mutation.new)

theorem writeMutation_tells : Tells writeMutation (fun _ => True) fun a b =>
    a.map ByteMutation.edit = b.map ByteMutation.edit := by
  have content : Unambiguous (fun edit : Unsigned 64 × UInt8 × UInt8 =>
      u64 edit.1 ++ u8 edit.2.1 ++ u8 edit.2.2) fun _ => True := by
    refine (((u64_tells.free Prod.fst).append (u8_tells.free fun edit : Unsigned 64 × UInt8 × UInt8 => edit.2.1)).append
      (u8_tells.free fun edit : Unsigned 64 × UInt8 × UInt8 => edit.2.2)).mono (fun _ fits => fits) ?_
    intro a b _ _ told
    exact Prod.ext told.1.1 (Prod.ext told.1.2 told.2)
  have written : writeMutation = fun mutation : Option ByteMutation =>
      (fun edit : Option (Unsigned 64 × UInt8 × UInt8) => Encoder.bool edit.isSome ++
        (fun edit : Unsigned 64 × UInt8 × UInt8 => u64 edit.1 ++ u8 edit.2.1 ++ u8 edit.2.2)
          (edit.getD (0, 0, 0))) (mutation.map ByteMutation.edit) := by
    funext mutation
    cases mutation <;> rfl
  rw [written]
  exact (bool_tells.optional content trivial).field (Option.map ByteMutation.edit)
    fun _ _ _ _ => trivial

/-- An edit of honest messages with the same bytes is told although its last part is not written. -/
theorem ControlEvent.Honest.mutation_eq {keccak256 : Bytes → Protocol.Bytes32} {a b : ControlEvent}
    (hA : a.Honest keccak256) (hB : b.Honest keccak256) (bytes : a.bytes = b.bytes)
    (edits : a.mutation.map ByteMutation.edit = b.mutation.map ByteMutation.edit) :
    a.mutation = b.mutation := by
  cases left : a.mutation with
  | none =>
      rw [left] at edits
      exact (Option.map_eq_none_iff.mp edits.symm).symm
  | some mutation =>
      rw [left] at edits
      obtain ⟨mutation', right, same⟩ := Option.map_eq_some_iff.mp edits.symm
      rw [right]
      have before := hA.original mutation left
      have before' := hB.original mutation' right
      rw [← bytes] at before'
      cases mutation
      cases mutation'
      cases same
      rw [Option.some_inj, ByteMutation.mk.injEq]
      exact ⟨rfl, rfl, rfl, before.trans before'.symm⟩

theorem writeControlEvent_tells (keccak256 : Bytes → Protocol.Bytes32) :
    Unambiguous writeControlEvent fun control =>
      control.bytes.length < 2 ^ 32 ∧ control.Honest keccak256 := by
  have bytes : Tells (fun control => blob control.bytes) (fun control : ControlEvent =>
      control.bytes.length < 2 ^ 32 ∧ control.Honest keccak256) fun a b => a.bytes = b.bytes :=
    blob_tells.field ControlEvent.bytes fun _ fits => fits.1
  have fields := (((((((((((((u64_tells.free ControlEvent.id).append
    (u32_tells.free ControlEvent.source)).append
    (u32_tells.free ControlEvent.destination)).append
    (u32_tells.free ControlEvent.intendedDestination)).append
    bytes).append
    (wide_tells.free ControlEvent.messageId)).append
    (tick_tells.free ControlEvent.deliverAt)).append
    (u32_tells.free ControlEvent.attempts)).append
    (maybeU64_tells.free ControlEvent.duplicateOf)).append
    (writeMutation_tells.free ControlEvent.mutation)).append
    (maybeTick_tells.free ControlEvent.expiresAt)).append
    (bool_tells.free ControlEvent.fromFault)).append
    (u8_tells.free fun control => statusCode control.status))
  apply fields.mono fun _ fits => fits
  intro a b hA hB told
  simp only [and_assoc] at told
  obtain ⟨id, source, destination, intended, bytes, messageId, deliverAt, attempts, duplicateOf,
    edits, expiresAt, fromFault, status⟩ := told
  have mutation := hA.2.mutation_eq hB.2 bytes edits
  have status := statusCode_injective status
  cases a
  cases b
  rw [ControlEvent.mk.injEq]
  exact ⟨id, source, destination, intended, bytes, messageId, deliverAt, attempts, duplicateOf,
    mutation, expiresAt, fromFault, status⟩

theorem writeAssetEvent_tells : Unambiguous writeAssetEvent fun _ => True := by
  have id : Tells (fun asset => u64 asset.id) (fun _ => True)
      fun a b : AssetEvent => a.id = b.id := u64_tells.free AssetEvent.id
  have fields := ((((((((((((((id.append
    (wide_tells.free AssetEvent.transfer)).append
    (u32_tells.free AssetEvent.source)).append
    (u32_tells.free AssetEvent.destination)).append
    (u32_tells.free AssetEvent.intendedDestination)).append
    (u128_tells.free AssetEvent.requested)).append
    (u128_tells.free AssetEvent.delivered)).append
    (tick_tells.free AssetEvent.deliverAt)).append
    (u32_tells.free AssetEvent.attempts)).append
    (maybeU64_tells.free AssetEvent.duplicateOf)).append
    (maybeU16_tells.free AssetEvent.piece)).append
    (bool_tells.free AssetEvent.overDelivered)).append
    (maybeTick_tells.free AssetEvent.timeoutAt)).append
    (bool_tells.free AssetEvent.fromFault)).append
    (u8_tells.free fun asset => statusCode asset.status))
  apply fields.mono fun _ fits => fits
  intro a b _ _ told
  simp only [and_assoc] at told
  obtain ⟨id, transfer, source, destination, intended, requested, delivered, deliverAt, attempts,
    duplicateOf, piece, overDelivered, timeoutAt, fromFault, status⟩ := told
  have status := statusCode_injective status
  cases a
  cases b
  rw [AssetEvent.mk.injEq]
  exact ⟨id, transfer, source, destination, intended, requested, delivered, deliverAt, attempts,
    duplicateOf, piece, overDelivered, timeoutAt, fromFault, status⟩

def Event.Honest (keccak256 : Bytes → Protocol.Bytes32) : Event → Prop
  | .control sent => sent.Honest keccak256
  | .asset _ => True

/-- The bytes of a message are short enough to be counted. -/
def Event.Countable : Event → Prop
  | .control sent => sent.bytes.length < 2 ^ 32
  | .asset _ => True

instance : ∀ event : Event, Decidable event.Countable
  | .control sent => inferInstanceAs (Decidable (sent.bytes.length < 2 ^ 32))
  | .asset _ => inferInstanceAs (Decidable True)

/-- The first byte tells the kind. -/
theorem coded {code code' : UInt8} {words words' rest rest' : Bytes}
    (alike : u8 code ++ words ++ rest = u8 code' ++ words' ++ rest') :
    code = code' ∧ words ++ rest = words' ++ rest' := by
  rw [List.append_assoc, List.append_assoc] at alike
  exact u8_tells trivial trivial alike

theorem writeEvent_tells (keccak256 : Bytes → Protocol.Bytes32) :
    Unambiguous writeEvent fun event => event.Countable ∧ event.Honest keccak256 := by
  intro a b rest rest' hA hB alike
  obtain ⟨code, words⟩ := coded alike
  cases a with
  | control sent =>
      cases b with
      | control sent' =>
          have fits : sent.bytes.length < 2 ^ 32 ∧ sent.Honest keccak256 := hA
          have fits' : sent'.bytes.length < 2 ^ 32 ∧ sent'.Honest keccak256 := hB
          obtain ⟨same, tail⟩ := writeControlEvent_tells keccak256 fits fits' words
          exact ⟨congrArg Event.control same, tail⟩
      | asset moving => cases laneCode_injective code
  | asset moving =>
      cases b with
      | control sent => cases laneCode_injective code
      | asset moving' =>
          obtain ⟨same, tail⟩ := writeAssetEvent_tells trivial trivial words
          exact ⟨congrArg Event.asset same, tail⟩

theorem u8_laneCode_tells : Unambiguous (fun lane => u8 (laneCode lane)) fun _ => True :=
  (u8_tells.free laneCode).mono (fun _ fits => fits) fun _ _ _ _ same => laneCode_injective same

theorem writeTarget_tells : Unambiguous writeTarget fun _ => True := by
  have route : Unambiguous (fun way : EndpointId × EndpointId × Lane =>
      u32 way.1 ++ u32 way.2.1 ++ u8 (laneCode way.2.2)) fun _ => True := by
    refine (((u32_tells.free Prod.fst).append
      (u32_tells.free fun way : EndpointId × EndpointId × Lane => way.2.1)).append
      (u8_laneCode_tells.free fun way : EndpointId × EndpointId × Lane => way.2.2)).mono
      (fun _ fits => fits) ?_
    intro a b _ _ told
    exact Prod.ext told.1.1 (Prod.ext told.1.2 told.2)
  intro a b rest rest' _ _ alike
  cases a <;> cases b <;> obtain ⟨code, words⟩ := coded alike <;>
    first | exact absurd code (by decide) | skip
  case event.event id id' =>
      obtain ⟨same, tail⟩ := u64_tells trivial trivial words
      exact ⟨congrArg FaultTarget.event same, tail⟩
  case message.message id id' =>
      obtain ⟨same, tail⟩ := wide_tells trivial trivial words
      exact ⟨congrArg FaultTarget.message same, tail⟩
  case transfer.transfer id id' =>
      obtain ⟨same, tail⟩ := wide_tells trivial trivial words
      exact ⟨congrArg FaultTarget.transfer same, tail⟩
  case route.route source destination lane source' destination' lane' =>
      have way : (source, destination, lane) = (source', destination', lane') ∧ rest = rest' :=
        route trivial trivial words
      obtain ⟨same, tail⟩ := way
      cases same
      exact ⟨rfl, tail⟩
  case lane.lane lane lane' =>
      obtain ⟨same, tail⟩ := u8_laneCode_tells trivial trivial words
      exact ⟨congrArg FaultTarget.lane same, tail⟩

/-- The pieces of a split are few enough to be counted. -/
def FaultAction.Countable : FaultAction → Prop
  | .split pieces _ => pieces.length < 2 ^ 32
  | _ => True

instance : ∀ action : FaultAction, Decidable action.Countable
  | .split pieces _ => inferInstanceAs (Decidable (pieces.length < 2 ^ 32))
  | .delay _ | .drop | .duplicate _ _ | .replaceDestination _ | .corruptByte _ _
  | .partialAmount _ | .overDeliver _ => inferInstanceAs (Decidable True)

theorem writeAction_tells : Unambiguous writeAction FaultAction.Countable := by
  have copies : Unambiguous (fun copies : Unsigned 16 × Unsigned 64 =>
      u16 copies.1 ++ u64 copies.2) fun _ => True :=
    ((u16_tells.free Prod.fst).append (u64_tells.free Prod.snd)).mono (fun _ fits => fits)
      fun _ _ _ _ told => Prod.ext told.1 told.2
  have edit : Unambiguous (fun edit : Unsigned 64 × UInt8 => u64 edit.1 ++ u8 edit.2)
      fun _ => True :=
    ((u64_tells.free Prod.fst).append (u8_tells.free Prod.snd)).mono (fun _ fits => fits)
      fun _ _ _ _ told => Prod.ext told.1 told.2
  have amounts : Tells (fun split : List AssetAmount × Unsigned 64 =>
      count split.1.length ++ split.1.flatMap u128) (fun split => split.1.length < 2 ^ 32)
      fun a b => a.1 = b.1 :=
    (Tells.counted count_tells u128_tells).field Prod.fst fun _ fits => ⟨fits, fun _ _ => trivial⟩
  have split := (amounts.append (u64_tells.free Prod.snd)).mono (fun _ fits => fits)
    fun _ _ _ _ told => Prod.ext told.1 told.2
  have drop : writeAction .drop = u8 2 ++ [] := rfl
  intro a b rest rest' hA hB alike
  cases a <;> cases b <;> (try rw [drop] at alike) <;> obtain ⟨code, words⟩ := coded alike <;>
    first | exact absurd code (by decide) | skip
  case delay.delay ticks ticks' =>
      obtain ⟨same, tail⟩ := u64_tells trivial trivial words
      exact ⟨congrArg FaultAction.delay same, tail⟩
  case drop.drop => exact ⟨rfl, words⟩
  case duplicate.duplicate count spacing count' spacing' =>
      have told : (count, spacing) = (count', spacing') ∧ rest = rest' :=
        copies trivial trivial words
      obtain ⟨same, tail⟩ := told
      cases same
      exact ⟨rfl, tail⟩
  case replaceDestination.replaceDestination endpoint endpoint' =>
      obtain ⟨same, tail⟩ := u32_tells trivial trivial words
      exact ⟨congrArg FaultAction.replaceDestination same, tail⟩
  case corruptByte.corruptByte offset mask offset' mask' =>
      have told : (offset, mask) = (offset', mask') ∧ rest = rest' := edit trivial trivial words
      obtain ⟨same, tail⟩ := told
      cases same
      exact ⟨rfl, tail⟩
  case partialAmount.partialAmount amount amount' =>
      obtain ⟨same, tail⟩ := u128_tells trivial trivial words
      exact ⟨congrArg FaultAction.partialAmount same, tail⟩
  case split.split pieces spacing pieces' spacing' =>
      have told : (pieces, spacing) = (pieces', spacing') ∧ rest = rest' := split hA hB words
      obtain ⟨same, tail⟩ := told
      cases same
      exact ⟨rfl, tail⟩
  case overDeliver.overDeliver amount amount' =>
      obtain ⟨same, tail⟩ := u128_tells trivial trivial words
      exact ⟨congrArg FaultAction.overDeliver same, tail⟩

theorem writeFault_tells : Unambiguous writeFault fun fault => fault.action.Countable := by
  have action : Tells (fun fault : Fault => writeAction fault.action)
      (fun fault => fault.action.Countable) fun a b => a.action = b.action :=
    writeAction_tells.field Fault.action fun _ fits => fits
  refine (((u32_tells.free Fault.id).append (writeTarget_tells.free Fault.target)).append
    action).mono (fun _ fits => fits) ?_
  intro a b _ _ told
  cases a
  cases b
  rw [Fault.mk.injEq]
  simpa only [and_assoc] using told

theorem u8_priority_tells :
    Unambiguous (fun priority : Unsigned 8 => u8 (.ofNat priority.raw)) fun _ => True := by
  apply (u8_tells.free fun priority : Unsigned 8 => UInt8.ofNat priority.raw).mono fun _ fits => fits
  intro a b _ _ same
  have left : a.raw < 256 := a.bound
  have right : b.raw < 256 := b.bound
  have raw := congrArg UInt8.toNat same
  rw [UInt8.toNat_ofNat', UInt8.toNat_ofNat', Nat.mod_eq_of_lt left, Nat.mod_eq_of_lt right] at raw
  exact Unsigned.ext raw

theorem writeQueueKey_tells : Unambiguous writeQueueKey fun _ => True := by
  refine (((tick_tells.free QueueKey.deliverAt).append
    (u8_priority_tells.free QueueKey.lanePriority)).append
    (u64_tells.free QueueKey.event)).mono (fun _ fits => fits) ?_
  intro a b _ _ told
  cases a
  cases b
  rw [QueueKey.mk.injEq]
  simpa only [and_assoc] using told

theorem writeLane_tells {fits : Simulator → Prop} (lane : Lane) :
    Tells (fun s => writeLane s lane) fits fun s s' => s.laneState lane = s'.laneState lane := by
  refine ((Tells.constant (u8 (laneCode lane))).append
    (u8_tells.free fun s : Simulator => laneStateCode (s.laneState lane))).mono
    (fun _ fits => fits) ?_
  intro s s' _ _ told
  exact laneStateCode_injective told.2

/- What a collection tells. -/

section Collections

variable {K V : Type} [Ord K] [Std.TransOrd K] [Std.LawfulEqOrd K]

/-- The values of a map, each of which names its key. -/
theorem values_tell {write : V → Bytes} {fits : V → Prop} (tells : Unambiguous write fits)
    (name : V → K) : Unambiguous
      (fun m : OrderedMap K V => count m.size ++ (OrderedMap.values m).flatMap write)
      fun m => m.size < 2 ^ 32 ∧ ∀ (k : K) (v : V), m[k]? = some v → name v = k ∧ fits v := by
  intro m m' rest rest' hM hM' alike
  have fitting : ∀ {m : OrderedMap K V}, (m.size < 2 ^ 32 ∧ ∀ (k : K) (v : V), m[k]? = some v →
      name v = k ∧ fits v) → (OrderedMap.values m).length < 2 ^ 32 ∧
        ∀ v ∈ OrderedMap.values m, fits v := by
    rintro m ⟨short, each⟩
    rw [OrderedMap.length_values, OrderedMap.forall_mem_values]
    exact ⟨short, fun k v found => (each k v found).2⟩
  dsimp only at alike
  rw [← OrderedMap.length_values, ← OrderedMap.length_values] at alike
  obtain ⟨same, tail⟩ := Tells.counted count_tells tells (fitting hM) (fitting hM') alike
  refine ⟨OrderedMap.eq_of_values name ?_ ?_ same, tail⟩
  · intro k v found
    exact (hM.2 k v found).1
  · intro k v found
    exact (hM'.2 k v found).1

theorem elements_tell {write : K → Bytes} (tells : Unambiguous write fun _ => True) :
    Unambiguous (fun m : OrderedSet K => count m.size ++ m.toList.flatMap write)
      fun m => m.size < 2 ^ 32 := by
  intro m m' rest rest' hM hM' alike
  dsimp only at alike
  rw [← Std.ExtTreeSet.length_toList, ← Std.ExtTreeSet.length_toList] at alike
  rw [← Std.ExtTreeSet.length_toList] at hM hM'
  obtain ⟨same, tail⟩ := Tells.counted count_tells tells ⟨hM, fun _ _ => trivial⟩
    ⟨hM', fun _ _ => trivial⟩ alike
  exact ⟨OrderedSet.eq_of_toList same, tail⟩

end Collections

end Writers

namespace Simulator

open Encoder

/-- Every part of the state the digest commits to. -/
def encodeState (s : Simulator) : Bytes :=
  tag ['X', 'S', 'M', '1'] ++
    (tag ['T', 'I', 'M', 'E'] ++ tick s.now) ++
    (tag ['C', 'O', 'N', 'F'] ++ (u8 (policyCode s.config.controlLatePolicy) ++
      u8 (policyCode s.config.assetLatePolicy))) ++
    (tag ['E', 'N', 'D', 'P'] ++ (count s.endpoints.size ++
      (OrderedMap.values s.endpoints).flatMap writeEndpoint)) ++
    (tag ['E', 'V', 'N', 'T'] ++ (count s.events.size ++
      (OrderedMap.values s.events).flatMap writeEvent)) ++
    (tag ['Q', 'U', 'E', 'U'] ++ (count s.queue.size ++ s.queue.toList.flatMap writeQueueKey)) ++
    (tag ['H', 'E', 'L', 'D'] ++ (count s.held.size ++ s.held.toList.flatMap u64)) ++
    (tag ['L', 'A', 'N', 'E'] ++ (writeLane s .control ++ writeLane s .asset)) ++
    (tag ['P', 'L', 'A', 'N'] ++ (count s.plan.size ++
      (FaultPlan.iter s.plan).flatMap writeFault)) ++
    (tag ['B', 'O', 'U', 'N'] ++ (count s.resolved.size ++ s.resolved.toList.flatMap u64)) ++
    (tag ['T', 'R', 'C', 'E'] ++ count s.trace.length) ++
    (tag ['N', 'E', 'X', 'T'] ++ u64 s.nextEvent)

/-- Digest of the whole simulator state. -/
def stateHash {H : Type} (keccak256 : Bytes → H) (s : Simulator) : H := keccak256 s.encodeState

/-- All collections and payloads are shorter than what a count can hold. -/
structure Countable (s : Simulator) : Prop where
  endpoints : s.endpoints.size < 2 ^ 32
  inboxes : ∀ (p : EndpointId) (endpoint : Endpoint), s.endpoints[p]? = some endpoint →
    endpoint.Countable
  events : s.events.size < 2 ^ 32
  messages : ∀ (id : EventId) (e : Event), s.events[id]? = some e → e.Countable
  queue : s.queue.size < 2 ^ 32
  held : s.held.size < 2 ^ 32
  plan : s.plan.size < 2 ^ 32
  faults : ∀ (id : FaultId) (fault : Fault), s.plan[id]? = some fault → fault.action.Countable
  resolved : s.resolved.size < 2 ^ 32
  trace : s.trace.length < 2 ^ 32

instance (s : Simulator) : Decidable s.Countable :=
  decidable_of_iff (s.endpoints.size < 2 ^ 32 ∧
      (∀ endpoint ∈ OrderedMap.values s.endpoints, endpoint.Countable) ∧
      s.events.size < 2 ^ 32 ∧ (∀ e ∈ OrderedMap.values s.events, e.Countable) ∧
      s.queue.size < 2 ^ 32 ∧ s.held.size < 2 ^ 32 ∧ s.plan.size < 2 ^ 32 ∧
      (∀ fault ∈ OrderedMap.values s.plan, fault.action.Countable) ∧
      s.resolved.size < 2 ^ 32 ∧ s.trace.length < 2 ^ 32) (by
    simp only [OrderedMap.forall_mem_values]
    constructor
    · rintro ⟨endpoints, inboxes, events, messages, queue, held, plan, faults, resolved, trace⟩
      exact ⟨endpoints, inboxes, events, messages, queue, held, plan, faults, resolved, trace⟩
    · intro short
      exact ⟨short.endpoints, short.inboxes, short.events, short.messages, short.queue, short.held,
        short.plan, short.faults, short.resolved, short.trace⟩)

/-- Every entry of a table names the key it stands under, and the messages are honest. -/
structure Truthful (keccak256 : Bytes → Protocol.Bytes32) (s : Simulator) : Prop where
  endpoints : ∀ (p : EndpointId) (endpoint : Endpoint), s.endpoints[p]? = some endpoint →
    endpoint.id = p
  events : ∀ (id : EventId) (e : Event), s.events[id]? = some e → e.id = id ∧ e.Honest keccak256
  plan : ∀ (id : FaultId) (fault : Fault), s.plan[id]? = some fault → fault.id = id

/-- Two states that agree in everything but the records of their traces. -/
structure Agrees (s s' : Simulator) : Prop where
  now : s.now = s'.now
  config : s.config = s'.config
  endpoints : s.endpoints = s'.endpoints
  events : s.events = s'.events
  queue : s.queue = s'.queue
  held : s.held = s'.held
  lanes : ∀ lane, s.laneState lane = s'.laneState lane
  plan : s.plan = s'.plan
  resolved : s.resolved = s'.resolved
  trace : s.trace.length = s'.trace.length
  nextEvent : s.nextEvent = s'.nextEvent

section

variable (keccak256 : Bytes → Protocol.Bytes32)

theorem endpoints_tell : Tells (fun s : Simulator => count s.endpoints.size ++
    (OrderedMap.values s.endpoints).flatMap writeEndpoint)
    (fun s => s.Countable ∧ s.Truthful keccak256) fun s s' => s.endpoints = s'.endpoints :=
  (values_tell writeEndpoint_tells Endpoint.id).field Simulator.endpoints fun _ fits =>
    ⟨fits.1.endpoints, fun p endpoint found =>
      ⟨fits.2.endpoints p endpoint found, fits.1.inboxes p endpoint found⟩⟩

theorem events_tell : Tells (fun s : Simulator => count s.events.size ++
    (OrderedMap.values s.events).flatMap writeEvent)
    (fun s => s.Countable ∧ s.Truthful keccak256) fun s s' => s.events = s'.events :=
  (values_tell (writeEvent_tells keccak256) Event.id).field Simulator.events fun _ fits =>
    ⟨fits.1.events, fun id e found => ⟨(fits.2.events id e found).1, fits.1.messages id e found,
      (fits.2.events id e found).2⟩⟩

theorem plan_tells : Tells (fun s : Simulator => count s.plan.size ++
    (FaultPlan.iter s.plan).flatMap writeFault)
    (fun s => s.Countable ∧ s.Truthful keccak256) fun s s' => s.plan = s'.plan :=
  (values_tell writeFault_tells Fault.id).field Simulator.plan fun _ fits =>
    ⟨fits.1.plan, fun id fault found => ⟨fits.2.plan id fault found, fits.1.faults id fault found⟩⟩

/-- A section behind its tag. -/
theorem headed {write : Simulator → Bytes} {fits : Simulator → Prop}
    {same : Simulator → Simulator → Prop} (letters : List Char) (tells : Tells write fits same) :
    Tells (fun s => tag letters ++ write s) fits same :=
  ((Tells.constant (tag letters)).append tells).mono (fun _ fits => fits)
    fun _ _ _ _ told => told.2

theorem config_tells {fits : Simulator → Prop} :
    Tells (fun s : Simulator => u8 (policyCode s.config.controlLatePolicy) ++
      u8 (policyCode s.config.assetLatePolicy)) fits fun s s' => s.config = s'.config := by
  apply ((u8_tells.free fun s : Simulator => policyCode s.config.controlLatePolicy).append
    (u8_tells.free fun s : Simulator => policyCode s.config.assetLatePolicy)).mono fun _ fits => fits
  intro s s' _ _ told
  have control := policyCode_injective told.1
  have asset := policyCode_injective told.2
  cases left : s.config
  cases right : s'.config
  rw [left, right] at control asset
  rw [SimulatorConfig.mk.injEq]
  exact ⟨control, asset⟩

theorem lanes_tell {fits : Simulator → Prop} :
    Tells (fun s => writeLane s .control ++ writeLane s .asset) fits
      fun s s' => ∀ lane, s.laneState lane = s'.laneState lane := by
  apply ((writeLane_tells .control).append (writeLane_tells .asset)).mono fun _ fits => fits
  intro s s' _ _ told lane
  cases lane with
  | control => exact told.1
  | asset => exact told.2

theorem queue_tells : Tells (fun s : Simulator => count s.queue.size ++
    s.queue.toList.flatMap writeQueueKey)
    (fun s => s.Countable ∧ s.Truthful keccak256) fun s s' => s.queue = s'.queue :=
  (elements_tell writeQueueKey_tells).field Simulator.queue fun _ fits => fits.1.queue

theorem held_tells : Tells (fun s : Simulator => count s.held.size ++ s.held.toList.flatMap u64)
    (fun s => s.Countable ∧ s.Truthful keccak256) fun s s' => s.held = s'.held :=
  (elements_tell u64_tells).field Simulator.held fun _ fits => fits.1.held

theorem resolved_tells : Tells (fun s : Simulator => count s.resolved.size ++
    s.resolved.toList.flatMap u64)
    (fun s => s.Countable ∧ s.Truthful keccak256) fun s s' => s.resolved = s'.resolved :=
  (elements_tell u64_tells).field Simulator.resolved fun _ fits => fits.1.resolved

theorem trace_tells : Tells (fun s : Simulator => count s.trace.length)
    (fun s => s.Countable ∧ s.Truthful keccak256) fun s s' => s.trace.length = s'.trace.length :=
  count_tells.field (fun s : Simulator => s.trace.length) fun _ fits => fits.1.trace

/-- The canonical bytes of a truthful state tell all of it. -/
theorem encodeState_tells : Tells encodeState (fun s => s.Countable ∧ s.Truthful keccak256)
    Agrees := by
  have sections := (((((((((((Tells.constant (tag ['X', 'S', 'M', '1'])).append
    (headed ['T', 'I', 'M', 'E'] (tick_tells.free Simulator.now))).append
    (headed ['C', 'O', 'N', 'F'] config_tells)).append
    (headed ['E', 'N', 'D', 'P'] (endpoints_tell keccak256))).append
    (headed ['E', 'V', 'N', 'T'] (events_tell keccak256))).append
    (headed ['Q', 'U', 'E', 'U'] (queue_tells keccak256))).append
    (headed ['H', 'E', 'L', 'D'] (held_tells keccak256))).append
    (headed ['L', 'A', 'N', 'E'] lanes_tell)).append
    (headed ['P', 'L', 'A', 'N'] (plan_tells keccak256))).append
    (headed ['B', 'O', 'U', 'N'] (resolved_tells keccak256))).append
    (headed ['T', 'R', 'C', 'E'] (trace_tells keccak256))).append
    (headed ['N', 'E', 'X', 'T'] (u64_tells.free Simulator.nextEvent))
  apply sections.mono fun _ fits => fits
  intro s s' _ _ told
  simp only [and_assoc] at told
  obtain ⟨-, now, config, endpoints, events, queue, held, lanes, plan, resolved, trace,
    nextEvent⟩ := told
  exact ⟨now, config, endpoints, events, queue, held, lanes, plan, resolved, trace, nextEvent⟩

end

end Simulator

end XchainSim
