import Mathlib.Data.List.Induction
import CrossChainVault.Base.Unsigned

set_option autoImplicit false

/- Fixed-width fields packed big endian into a byte string. -/

abbrev Bytes := List UInt8

namespace Bytes

/-- The low `width` bytes of `n`, most significant first. -/
def toBigEndian : Nat → Nat → Bytes
  | 0, _ => []
  | width + 1, n => toBigEndian width (n / 256) ++ [UInt8.ofNat n]

def fromBigEndian (bytes : Bytes) : Nat :=
  bytes.foldl (fun value byte => value * 256 + byte.toNat) 0

@[simp] theorem fromBigEndian_nil : fromBigEndian [] = 0 := rfl

@[simp] theorem fromBigEndian_concat (bytes : Bytes) (byte : UInt8) :
    fromBigEndian (bytes ++ [byte]) = fromBigEndian bytes * 256 + byte.toNat := by
  simp [fromBigEndian]

@[simp] theorem length_toBigEndian (width n : Nat) : (toBigEndian width n).length = width := by
  induction width generalizing n with
  | zero => rfl
  | succ width ih => simp [toBigEndian, ih]

theorem fromBigEndian_lt (bytes : Bytes) : fromBigEndian bytes < 2 ^ (8 * bytes.length) := by
  induction bytes using List.reverseRecOn with
  | nil => simp
  | append_singleton bytes byte ih =>
      have small : byte.toNat < 256 := byte.toNat_lt
      have room : (fromBigEndian bytes + 1) * 256 ≤ 2 ^ (8 * bytes.length) * 256 :=
        Nat.mul_le_mul_right 256 ih
      have power : 2 ^ (8 * (bytes.length + 1)) = 2 ^ (8 * bytes.length) * 256 := by
        rw [Nat.mul_add, Nat.pow_add]
      rw [fromBigEndian_concat, List.length_append, List.length_singleton, power]
      omega

theorem fromBigEndian_toBigEndian (width n : Nat) (fits : n < 2 ^ (8 * width)) :
    fromBigEndian (toBigEndian width n) = n := by
  induction width generalizing n with
  | zero =>
      have zero : n = 0 := by simpa using fits
      rw [zero]
      rfl
  | succ width ih =>
      have power : 2 ^ (8 * (width + 1)) = 256 * 2 ^ (8 * width) := by
        rw [Nat.mul_add, Nat.pow_add, Nat.mul_comm]
      have high : n / 256 < 2 ^ (8 * width) := by
        apply Nat.div_lt_of_lt_mul
        rwa [← power]
      rw [toBigEndian, fromBigEndian_concat, ih (n / 256) high, UInt8.toNat_ofNat']
      omega

theorem toBigEndian_fromBigEndian (bytes : Bytes) :
    toBigEndian bytes.length (fromBigEndian bytes) = bytes := by
  induction bytes using List.reverseRecOn with
  | nil => rfl
  | append_singleton bytes byte ih =>
      have small : byte.toNat < 256 := byte.toNat_lt
      have high : (fromBigEndian bytes * 256 + byte.toNat) / 256 = fromBigEndian bytes := by
        omega
      have low : UInt8.ofNat (fromBigEndian bytes * 256 + byte.toNat) = byte := by
        apply UInt8.toNat_inj.mp
        rw [UInt8.toNat_ofNat']
        omega
      rw [List.length_append, List.length_singleton, fromBigEndian_concat, toBigEndian, high, low,
        ih]

/-- The bytes of a field are its big-endian value, and the other way round. -/
theorem fromBigEndian_eq_iff {bytes : Bytes} {width n : Nat} (wide : bytes.length = width)
    (fits : n < 2 ^ (8 * width)) :
    fromBigEndian bytes = n ↔ bytes = toBigEndian width n := by
  constructor
  · intro same
    rw [← same, ← wide, toBigEndian_fromBigEndian]
  · intro same
    rw [same, fromBigEndian_toBigEndian width n fits]

/-- The `i`-th byte from the left is a right shift by the bytes below it. -/
theorem toBigEndian_eq_map (width n : Nat) :
    toBigEndian width n =
      (List.range width).map (fun i => UInt8.ofNat (n >>> (8 * (width - 1 - i)))) := by
  induction width generalizing n with
  | zero => rfl
  | succ width ih =>
      rw [toBigEndian, ih, List.range_succ, List.map_append]
      congr 1
      · apply List.map_congr_left
        intro i inside
        have before : i < width := List.mem_range.mp inside
        have shift : 8 * (width + 1 - 1 - i) = 8 + 8 * (width - 1 - i) := by omega
        rw [shift, Nat.shiftRight_add, Nat.shiftRight_eq_div_pow n 8]
      · simp

/-- The `width` bytes from `offset` on. -/
def slice (bytes : Bytes) (offset width : Nat) : Bytes :=
  (bytes.drop offset).take width

@[simp] theorem length_slice {bytes : Bytes} {offset width : Nat}
    (inside : offset + width ≤ bytes.length) : (slice bytes offset width).length = width := by
  rw [slice, List.length_take, List.length_drop]
  omega

@[simp] theorem slice_all (bytes : Bytes) : slice bytes 0 bytes.length = bytes := by
  simp [slice]

theorem fromBigEndian_slice_lt (bytes : Bytes) (offset width : Nat) :
    fromBigEndian (slice bytes offset width) < 2 ^ (8 * width) := by
  apply Nat.lt_of_lt_of_le (fromBigEndian_lt _)
  apply Nat.pow_le_pow_right (by decide)
  rw [slice, List.length_take]
  omega

theorem slice_succ (bytes : Bytes) (offset width : Nat) :
    slice bytes offset (width + 1) = slice bytes offset width ++ bytes[offset + width]?.toList := by
  rw [slice, slice, List.take_add_one, List.getElem?_drop]

/-- Two regions that fill a byte string determine it. -/
theorem eq_append_iff {bytes head tail : Bytes} :
    bytes = head ++ tail ↔
      bytes.length = head.length + tail.length ∧ slice bytes 0 head.length = head ∧
        slice bytes head.length tail.length = tail := by
  constructor
  · intro same
    rw [same]
    simp [slice]
  · rintro ⟨sized, front, back⟩
    have rest : slice bytes head.length tail.length = bytes.drop head.length := by
      rw [slice, List.take_of_length_le]
      rw [List.length_drop]
      omega
    rw [rest] at back
    rw [slice, List.drop_zero] at front
    calc bytes = bytes.take head.length ++ bytes.drop head.length :=
          (List.take_append_drop head.length bytes).symm
      _ = head ++ tail := by rw [front, back]

/-- Replaces the bytes from `offset` on by `value`. -/
def overwrite (bytes : Bytes) (offset : Nat) (value : Bytes) : Bytes :=
  bytes.take offset ++ value ++ bytes.drop (offset + value.length)

theorem length_overwrite {bytes : Bytes} {offset : Nat} {value : Bytes}
    (inside : offset + value.length ≤ bytes.length) :
    (overwrite bytes offset value).length = bytes.length := by
  simp only [overwrite, List.length_append, List.length_take, List.length_drop]
  omega

/-- One field of a packed region. -/
structure Field where
  offset : Nat
  bytes : Bytes

/-- The fields touch without gaps and fill the region from `start` to `stop`. -/
def Spans : Nat → List Field → Nat → Prop
  | start, [], stop => start = stop
  | start, field :: rest, stop =>
      field.offset = start ∧ Spans (start + field.bytes.length) rest stop

/-- The bytes of a packed region. -/
def content (fields : List Field) : Bytes :=
  fields.flatMap Field.bytes

/-- The field's bytes are found at its offset. -/
def Holds (bytes : Bytes) (field : Field) : Prop :=
  field.offset + field.bytes.length ≤ bytes.length ∧
    slice bytes field.offset field.bytes.length = field.bytes

/-- A number is found where the bytes spell it. -/
theorem holds_number {bytes : Bytes} {offset width n : Nat} (fits : n < 2 ^ (8 * width)) :
    Holds bytes ⟨offset, toBigEndian width n⟩ ↔
      offset + width ≤ bytes.length ∧ fromBigEndian (slice bytes offset width) = n := by
  rw [Holds, length_toBigEndian]
  apply and_congr_right
  intro inside
  exact (fromBigEndian_eq_iff (length_slice inside) fits).symm

/-- A field of one byte. -/
theorem holds_byte {bytes : Bytes} {offset : Nat} {byte : UInt8} :
    Holds bytes ⟨offset, [byte]⟩ ↔ bytes[offset]? = some byte := by
  rw [Holds, List.length_singleton, List.getElem?_eq_some_iff]
  constructor
  · rintro ⟨inside, same⟩
    have first : (slice bytes offset 1)[0]? = some byte := by
      rw [same]
      rfl
    rw [slice, List.getElem?_take_of_lt Nat.one_pos, List.getElem?_drop, Nat.add_zero,
      List.getElem?_eq_some_iff] at first
    exact first
  · rintro ⟨inside, same⟩
    refine ⟨inside, ?_⟩
    rw [slice, List.drop_eq_getElem_cons inside, same]
    rfl

/-- Every field is found at its offset. -/
def Placed (bytes : Bytes) (fields : List Field) : Prop :=
  ∀ field ∈ fields, Holds bytes field

@[simp] theorem placed_nil (bytes : Bytes) : Placed bytes [] :=
  List.forall_mem_nil _

@[simp] theorem placed_cons {bytes : Bytes} {field : Field} {rest : List Field} :
    Placed bytes (field :: rest) ↔ Holds bytes field ∧ Placed bytes rest :=
  List.forall_mem_cons

theorem spans_nil {start stop : Nat} : Spans start [] stop ↔ start = stop := Iff.rfl

theorem spans_cons {start stop : Nat} {field : Field} {rest : List Field} :
    Spans start (field :: rest) stop ↔
      field.offset = start ∧ Spans (start + field.bytes.length) rest stop := Iff.rfl

theorem Spans.stop_eq {start stop : Nat} {fields : List Field} (spans : Spans start fields stop) :
    start + (content fields).length = stop := by
  induction fields generalizing start with
  | nil => exact spans
  | cons field rest ih =>
      have tail := ih spans.2
      simp only [content, List.flatMap_cons, List.length_append] at tail ⊢
      omega

/-- A packed region holds its fields exactly when it is their concatenation. -/
theorem placed_iff {bytes : Bytes} {start stop : Nat} {fields : List Field}
    (spans : Spans start fields stop) (inside : stop ≤ bytes.length) :
    Placed bytes fields ↔ slice bytes start (content fields).length = content fields := by
  induction fields generalizing start with
  | nil => simp [content, slice]
  | cons field rest ih =>
      have ends := spans.stop_eq
      obtain ⟨same, tail⟩ := spans
      have pieces : (content (field :: rest)).length =
          field.bytes.length + (content rest).length := by
        simp [content]
      have split : slice bytes start (content (field :: rest)).length =
          slice bytes start field.bytes.length ++
            slice bytes (start + field.bytes.length) (content rest).length := by
        rw [pieces]
        simp only [slice, List.take_add, List.drop_drop]
      have head : (slice bytes start field.bytes.length).length = field.bytes.length := by
        apply length_slice
        omega
      rw [placed_cons, ih tail, split, Holds, same]
      constructor
      · intro placed
        rw [placed.1.2, placed.2]
        rfl
      · intro joined
        have parts := List.append_inj joined head
        exact ⟨⟨by omega, parts.1⟩, parts.2⟩

/-- The same fields in a region that starts at `start`. -/
def shift (start : Nat) (fields : List Field) : List Field :=
  fields.map (fun field => ⟨start + field.offset, field.bytes⟩)

@[simp] theorem content_shift (start : Nat) (fields : List Field) :
    content (shift start fields) = content fields := by
  simp [content, shift, List.flatMap_map]

theorem Spans.shift {origin stop : Nat} {fields : List Field} (start : Nat)
    (spans : Spans origin fields stop) : Spans (start + origin) (shift start fields) (start + stop) := by
  induction fields generalizing origin with
  | nil => exact congrArg (start + ·) spans
  | cons field rest ih =>
      refine ⟨congrArg (start + ·) spans.1, ?_⟩
      have tail := ih spans.2
      rwa [← Nat.add_assoc] at tail

section Writing

variable {ε : Type} {length : Nat} {write : Bytes → Field → Except ε Bytes}

/-- Writing the fields of a region one by one leaves their concatenation there. -/
theorem writeFields_eq
    (writes : ∀ (out : Bytes) (field : Field), out.length = length →
      field.offset + field.bytes.length ≤ length →
      write out field = .ok (overwrite out field.offset field.bytes))
    {start stop : Nat} {fields : List Field} {out : Bytes} (spans : Spans start fields stop)
    (sized : out.length = length) (inside : stop ≤ length) :
    fields.foldlM write out = .ok (out.take start ++ content fields ++ out.drop stop) := by
  induction fields generalizing start out with
  | nil =>
      have same : start = stop := spans
      rw [List.foldlM_nil, same]
      simp [content, pure, Except.pure]
  | cons field rest ih =>
      have ends := spans.stop_eq
      obtain ⟨same, tail⟩ := spans
      have pieces : (content (field :: rest)).length =
          field.bytes.length + (content rest).length := by
        simp [content]
      have room : field.offset + field.bytes.length ≤ length := by omega
      have kept : (overwrite out field.offset field.bytes).length = length := by
        rw [length_overwrite (by omega), sized]
      rw [List.foldlM_cons, writes out field sized room]
      refine (ih tail kept).trans ?_
      -- The prefix now ends with this field, and what follows the region is as before.
      have before : (overwrite out field.offset field.bytes).take (start + field.bytes.length) =
          out.take start ++ field.bytes := by
        rw [overwrite, same, List.take_append_of_le_length, List.take_of_length_le]
        · simp only [List.length_append, List.length_take]
          omega
        · simp only [List.length_append, List.length_take]
          omega
      have after : (overwrite out field.offset field.bytes).drop stop = out.drop stop := by
        rw [overwrite, same, List.drop_append, List.drop_of_length_le, List.nil_append,
          List.drop_drop]
        · congr 1
          simp only [List.length_append, List.length_take]
          omega
        · simp only [List.length_append, List.length_take]
          omega
      rw [before, after]
      simp [content]

end Writing

end Bytes
