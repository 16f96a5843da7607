import CrossChainVault.Base.Bytes
import CrossChainVault.Evm.Token

set_option autoImplicit false

/- The byte reads and writes of the contracts' codec, loop by loop. -/

namespace Evm.ProtocolCodec

open Result Bytes

/-- `data[index]`, which reverts past the end. -/
def byteAt (data : Bytes) (index : Nat) : Except Revert UInt8 := okOr data[index]? .panic

/-- `buf[index] = byte`, which reverts past the end. -/
def setByte (buf : Bytes) (index : Nat) (byte : UInt8) : Except Revert Bytes :=
  if index < buf.length then .ok (buf.set index byte) else .error .panic

/-- A word cut to its width. -/
def truncate (bits value : Nat) : Unsigned bits :=
  .ofNat value

/-- `bytes1(uint8(value >> shift))`. -/
def byteOf (value shift : Nat) : UInt8 := UInt8.ofNat (value >>> shift)

-- Writes.

def writeBytes4 (buf : Bytes) (off : Nat) (value : Unsigned 32) : Except Revert Bytes := do
  let buf ← setByte buf off (byteOf value.raw 24)
  let buf ← setByte buf (off + 1) (byteOf value.raw 16)
  let buf ← setByte buf (off + 2) (byteOf value.raw 8)
  setByte buf (off + 3) (byteOf value.raw 0)

def writeBytes32 (buf : Bytes) (off : Nat) (value : Bytes32) : Except Revert Bytes :=
  (List.range 32).foldlM (fun buf i => setByte buf (off + i) (byteOf value.raw (8 * (31 - i)))) buf

def writeU8 (buf : Bytes) (off : Nat) (value : Unsigned 8) : Except Revert Bytes :=
  setByte buf off (byteOf value.raw 0)

def writeU16 (buf : Bytes) (off : Nat) (value : Unsigned 16) : Except Revert Bytes := do
  let buf ← setByte buf off (byteOf value.raw 8)
  setByte buf (off + 1) (byteOf value.raw 0)

def writeU32 (buf : Bytes) (off : Nat) (value : Unsigned 32) : Except Revert Bytes := do
  let buf ← setByte buf off (byteOf value.raw 24)
  let buf ← setByte buf (off + 1) (byteOf value.raw 16)
  let buf ← setByte buf (off + 2) (byteOf value.raw 8)
  setByte buf (off + 3) (byteOf value.raw 0)

def writeU64 (buf : Bytes) (off : Nat) (value : Uint64) : Except Revert Bytes := do
  let buf ← setByte buf off (byteOf value.raw 56)
  let buf ← setByte buf (off + 1) (byteOf value.raw 48)
  let buf ← setByte buf (off + 2) (byteOf value.raw 40)
  let buf ← setByte buf (off + 3) (byteOf value.raw 32)
  let buf ← setByte buf (off + 4) (byteOf value.raw 24)
  let buf ← setByte buf (off + 5) (byteOf value.raw 16)
  let buf ← setByte buf (off + 6) (byteOf value.raw 8)
  setByte buf (off + 7) (byteOf value.raw 0)

def writeU128 (buf : Bytes) (off : Nat) (value : Uint128) : Except Revert Bytes :=
  (List.range 16).foldlM (fun buf i => setByte buf (off + i) (byteOf value.raw (8 * (15 - i)))) buf

-- Reads.

def readBytes4 (data : Bytes) (off : Nat) : Except Revert (Unsigned 32) := do
  let a ← byteAt data off
  let b ← byteAt data (off + 1)
  let c ← byteAt data (off + 2)
  let d ← byteAt data (off + 3)
  pure (truncate 32 (a.toNat <<< 24 ||| b.toNat <<< 16 ||| c.toNat <<< 8 ||| d.toNat))

def readU8 (data : Bytes) (off : Nat) : Except Revert (Unsigned 8) := do
  let a ← byteAt data off
  pure (truncate 8 a.toNat)

def readU16 (data : Bytes) (off : Nat) : Except Revert (Unsigned 16) := do
  let a ← byteAt data off
  let b ← byteAt data (off + 1)
  pure (truncate 16 (a.toNat <<< 8 ||| b.toNat))

def readU32 (data : Bytes) (off : Nat) : Except Revert (Unsigned 32) := do
  let a ← byteAt data off
  let b ← byteAt data (off + 1)
  let c ← byteAt data (off + 2)
  let d ← byteAt data (off + 3)
  pure (truncate 32 (a.toNat <<< 24 ||| b.toNat <<< 16 ||| c.toNat <<< 8 ||| d.toNat))

/-- Shifts one byte after the other into a word of `bits` bits. -/
def readShifted (bits count : Nat) (data : Bytes) (off : Nat) : Except Revert (Unsigned bits) :=
  (List.range count).foldlM (fun value i => do
    let byte ← byteAt data (off + i)
    pure (truncate bits (value.raw <<< 8 ||| byte.toNat))) Unsigned.zero

def readU64 (data : Bytes) (off : Nat) : Except Revert Uint64 := readShifted 64 8 data off

def readU128 (data : Bytes) (off : Nat) : Except Revert Uint128 := readShifted 128 16 data off

/-- Puts each byte at its own place of the word. -/
def readPlaced (count : Nat) (data : Bytes) (off : Nat) : Except Revert Bytes32 :=
  (List.range count).foldlM (fun value i => do
    let byte ← byteAt data (off + i)
    pure (truncate 256 (value.raw ||| byte.toNat <<< (8 * (31 - i))))) Unsigned.zero

def readBytes32 (data : Bytes) (off : Nat) : Except Revert Bytes32 := readPlaced 32 data off

def sliceLoop (data : Bytes) (off len count : Nat) : Except Revert Bytes :=
  (List.range count).foldlM (fun out i => do
    let byte ← byteAt data (off + i)
    setByte out i byte) (List.replicate len 0)

def slice (data : Bytes) (off len : Nat) : Except Revert Bytes := sliceLoop data off len len

-- What they do.

@[simp] theorem byteAt_ok {data : Bytes} {index : Nat} {byte : UInt8} :
    byteAt data index = .ok byte ↔ data[index]? = some byte := okOr_eq_ok

theorem truncate_raw {bits value : Nat} (fits : value < 2 ^ bits) :
    (truncate bits value).raw = value := Nat.mod_eq_of_lt fits

/-- Stores the bytes one after the other. -/
def storeEach (buf : Bytes) (off : Nat) : Bytes → Except Revert Bytes
  | [] => pure buf
  | byte :: rest => do
      let buf ← setByte buf off byte
      storeEach buf (off + 1) rest

theorem storeEach_concat (buf bytes : Bytes) (off : Nat) (byte : UInt8) :
    storeEach buf off (bytes ++ [byte]) =
      storeEach buf off bytes >>= fun buf => setByte buf (off + bytes.length) byte := by
  induction bytes generalizing buf off with
  | nil => simp [storeEach]
  | cons first rest ih =>
      simp only [List.cons_append, storeEach, List.length_cons, bind_assoc, ih]
      congr 1
      funext buf
      congr 1
      funext buf
      congr 1
      omega

theorem storeRange_eq (buf : Bytes) (off : Nat) (byte : Nat → UInt8) (count : Nat) :
    (List.range count).foldlM (fun buf i => setByte buf (off + i) (byte i)) buf =
      storeEach buf off ((List.range count).map byte) := by
  induction count with
  | zero => rfl
  | succ count ih =>
      rw [List.range_succ, List.foldlM_append, ih, List.map_append, List.map_singleton,
        storeEach_concat]
      simp

/-- Inside the buffer a run of stores overwrites a region. -/
theorem storeEach_ok {buf bytes : Bytes} {off : Nat} (inside : off + bytes.length ≤ buf.length) :
    storeEach buf off bytes = .ok (buf.overwrite off bytes) := by
  induction bytes generalizing buf off with
  | nil => simp [storeEach, overwrite]
  | cons first rest ih =>
      rw [List.length_cons] at inside
      have room : off < buf.length := by omega
      rw [storeEach, setByte, if_pos room]
      refine (ih (by rw [List.length_set]; omega)).trans ?_
      have front : (buf.set off first).take (off + 1) = buf.take off ++ [first] := by
        rw [List.set_eq_take_append_cons_drop, if_pos room, List.take_append,
          List.take_take, List.length_take]
        have cut : off + 1 - min off buf.length = 1 := by omega
        rw [cut, Nat.min_eq_right (Nat.le_succ off)]
        rfl
      have back : (buf.set off first).drop (off + 1 + rest.length) =
          buf.drop (off + (rest.length + 1)) := by
        rw [List.drop_set_of_lt (by omega)]
        congr 1
        omega
      rw [overwrite, front, back, overwrite, List.length_cons]
      simp

theorem toBigEndian_eq_bytes (width value : Nat) :
    toBigEndian width value = (List.range width).map (fun i => byteOf value (8 * (width - 1 - i))) :=
  toBigEndian_eq_map width value

section Writes

variable (buf : Bytes) (off : Nat)

theorem writeBytes4_eq (value : Unsigned 32) :
    writeBytes4 buf off value = storeEach buf off (toBigEndian 4 value.raw) := by
  rw [toBigEndian_eq_bytes]
  simp [writeBytes4, storeEach, List.range_succ, Nat.add_assoc]

theorem writeBytes32_eq (value : Bytes32) :
    writeBytes32 buf off value = storeEach buf off (toBigEndian 32 value.raw) := by
  rw [toBigEndian_eq_bytes, writeBytes32, storeRange_eq]

theorem writeU8_eq (value : Unsigned 8) :
    writeU8 buf off value = storeEach buf off (toBigEndian 1 value.raw) := by
  rw [toBigEndian_eq_bytes]
  simp [writeU8, storeEach, List.range_succ]

theorem writeU16_eq (value : Unsigned 16) :
    writeU16 buf off value = storeEach buf off (toBigEndian 2 value.raw) := by
  rw [toBigEndian_eq_bytes]
  simp [writeU16, storeEach, List.range_succ]

theorem writeU32_eq (value : Unsigned 32) :
    writeU32 buf off value = storeEach buf off (toBigEndian 4 value.raw) := by
  rw [toBigEndian_eq_bytes]
  simp [writeU32, storeEach, List.range_succ, Nat.add_assoc]

theorem writeU64_eq (value : Uint64) :
    writeU64 buf off value = storeEach buf off (toBigEndian 8 value.raw) := by
  rw [toBigEndian_eq_bytes]
  simp [writeU64, storeEach, List.range_succ, Nat.add_assoc]

theorem writeU128_eq (value : Uint128) :
    writeU128 buf off value = storeEach buf off (toBigEndian 16 value.raw) := by
  rw [toBigEndian_eq_bytes, writeU128, storeRange_eq]

end Writes

section Reads

variable {data : Bytes} {off : Nat}

theorem shift_or (value : Nat) (byte : UInt8) :
    value <<< 8 ||| byte.toNat = value * 256 + byte.toNat := by
  rw [← Nat.shiftLeft_add_eq_or_of_lt byte.toNat_lt, Nat.shiftLeft_eq]

/-- What a loop over the bytes at `off` computes, when its step keeps `value` a function of the
bytes read so far. -/
theorem readLoop_ok {bits : Nat} {step : Unsigned bits → Nat → UInt8 → Unsigned bits}
    (spelled : Nat → Bytes → Unsigned bits) (empty : spelled 0 [] = Unsigned.zero)
    (limit : Nat) (grows : ∀ count bytes byte, count < limit → bytes.length = count →
      step (spelled count bytes) count byte = spelled (count + 1) (bytes ++ [byte]))
    {count : Nat} {value : Unsigned bits} (within : count ≤ limit) :
    (List.range count).foldlM (fun value i => do
      let byte ← byteAt data (off + i)
      pure (step value i byte)) Unsigned.zero = .ok value ↔
      (∀ i < count, off + i < data.length) ∧ value = spelled count (data.slice off count) := by
  induction count generalizing value with
  | zero =>
      have nothing : data.slice off 0 = [] := rfl
      rw [List.range_zero, List.foldlM_nil, pure_eq_ok, nothing, empty, eq_comm]
      simp
  | succ count ih =>
      rw [List.range_succ, List.foldlM_append]
      simp only [List.foldlM_cons, List.foldlM_nil, bind_pure, bind_eq_ok,
        ih (Nat.le_of_succ_le within), byteAt_ok, pure_eq_ok, slice_succ]
      constructor
      · rintro ⟨_, ⟨inside, rfl⟩, byte, found, rfl⟩
        have last := (List.getElem?_eq_some_iff.mp found).1
        have all : ∀ i < count + 1, off + i < data.length := by
          intro i below
          by_cases final : i = count
          · rw [final]
            exact last
          · exact inside i (by omega)
        refine ⟨all, ?_⟩
        rw [found, Option.toList_some, grows count _ _ within (length_slice (by omega))]
      · rintro ⟨inside, rfl⟩
        have last := inside count (Nat.lt_succ_self count)
        have found := List.getElem?_eq_getElem last
        refine ⟨_, ⟨fun i below => inside i (Nat.lt_succ_of_lt below), rfl⟩, _, found, ?_⟩
        rw [found, Option.toList_some, grows count _ _ within (length_slice (by omega))]

/-- Every byte of a region is inside exactly when the region is. -/
theorem inside_iff {count : Nat} (some : 0 < count) :
    (∀ i < count, off + i < data.length) ↔ off + count ≤ data.length := by
  constructor
  · intro inside
    have last := inside (count - 1) (by omega)
    omega
  · intro room i below
    omega

/-- A word read from a region is the number its bytes spell. -/
theorem number_read {width : Nat} {value : Unsigned (8 * width)} (some : 0 < width) :
    ((∀ i < width, off + i < data.length) ∧
        value = truncate (8 * width) (fromBigEndian (data.slice off width))) ↔
      Holds data ⟨off, toBigEndian width value.raw⟩ := by
  rw [inside_iff some, holds_number value.bound, ← Unsigned.raw_inj,
    truncate_raw (fromBigEndian_slice_lt data off width), eq_comm]

/-- Bits shifted out of the word do not come back. -/
theorem truncate_shift (bits value : Nat) (byte : UInt8) :
    truncate bits ((truncate bits value).raw <<< 8 ||| byte.toNat) =
      truncate bits (value <<< 8 ||| byte.toNat) := by
  apply Unsigned.ext
  show ((value % 2 ^ bits) <<< 8 ||| byte.toNat) % 2 ^ bits = (value <<< 8 ||| byte.toNat) % 2 ^ bits
  rw [shift_or, shift_or]
  simp [Nat.add_mod, Nat.mul_mod]

theorem readShifted_ok (width : Nat) {value : Unsigned (8 * width)} (some : 0 < width) :
    readShifted (8 * width) width data off = .ok value ↔
      Holds data ⟨off, toBigEndian width value.raw⟩ := by
  rw [← number_read some]
  apply readLoop_ok (fun _ bytes => truncate (8 * width) (fromBigEndian bytes)) rfl width
  · intro count bytes byte _ _
    rw [truncate_shift, shift_or, fromBigEndian_concat]
  · exact Nat.le_refl _

theorem readU8_ok {value : Unsigned 8} :
    readU8 data off = .ok value ↔ Holds data ⟨off, toBigEndian 1 value.raw⟩ := by
  have shifted : readU8 data off = readShifted 8 1 data off := by
    simp [readU8, readShifted, List.range_succ]
  rw [shifted]
  exact readShifted_ok 1 (by decide)

theorem readU16_ok {value : Unsigned 16} :
    readU16 data off = .ok value ↔ Holds data ⟨off, toBigEndian 2 value.raw⟩ := by
  have shifted : readU16 data off = readShifted 16 2 data off := by
    simp [readU16, readShifted, List.range_succ, truncate_shift]
  rw [shifted]
  exact readShifted_ok 2 (by decide)

theorem readU32_ok {value : Unsigned 32} :
    readU32 data off = .ok value ↔ Holds data ⟨off, toBigEndian 4 value.raw⟩ := by
  have shifted : readU32 data off = readShifted 32 4 data off := by
    have places (a b c d : Nat) : a <<< 24 ||| b <<< 16 ||| c <<< 8 ||| d =
        ((a <<< 8 ||| b) <<< 8 ||| c) <<< 8 ||| d := by
      simp only [Nat.shiftLeft_or_distrib, ← Nat.shiftLeft_add]
    have twice (value : Nat) (c d : UInt8) :
        truncate 32 (((truncate 32 value).raw <<< 8 ||| c.toNat) <<< 8 ||| d.toNat) =
          truncate 32 ((value <<< 8 ||| c.toNat) <<< 8 ||| d.toNat) := by
      rw [← truncate_shift, truncate_shift 32 value, truncate_shift]
    have first (a : UInt8) : (truncate 32 a.toNat).raw = a.toNat :=
      truncate_raw (Nat.lt_trans a.toNat_lt (by decide))
    simp [readU32, readShifted, List.range_succ, truncate_shift, places, twice, first]
  rw [shifted]
  exact readShifted_ok 4 (by decide)

theorem readU64_ok {value : Uint64} :
    readU64 data off = .ok value ↔ Holds data ⟨off, toBigEndian 8 value.raw⟩ :=
  readShifted_ok 8 (by decide)

theorem readU128_ok {value : Uint128} :
    readU128 data off = .ok value ↔ Holds data ⟨off, toBigEndian 16 value.raw⟩ :=
  readShifted_ok 16 (by decide)

/-- Magic bytes are read like any other word of four bytes. -/
theorem readBytes4_ok {value : Unsigned 32} :
    readBytes4 data off = .ok value ↔ Holds data ⟨off, toBigEndian 4 value.raw⟩ :=
  readU32_ok

theorem readBytes32_ok {value : Bytes32} :
    readBytes32 data off = .ok value ↔ Holds data ⟨off, toBigEndian 32 value.raw⟩ := by
  have spelled : readBytes32 data off = .ok value ↔ (∀ i < 32, off + i < data.length) ∧
      value = truncate 256 (fromBigEndian (data.slice off 32) <<< (8 * (32 - 32))) := by
    apply readLoop_ok
      (fun count bytes => truncate 256 (fromBigEndian bytes <<< (8 * (32 - count)))) rfl 32
    · intro count bytes byte below sized
      have high : fromBigEndian bytes <<< (8 * (32 - count)) < 2 ^ 256 := by
        have low := fromBigEndian_lt bytes
        rw [sized] at low
        rw [Nat.shiftLeft_eq]
        calc fromBigEndian bytes * 2 ^ (8 * (32 - count))
            < 2 ^ (8 * count) * 2 ^ (8 * (32 - count)) :=
              Nat.mul_lt_mul_of_pos_right low (Nat.two_pow_pos _)
          _ = 2 ^ 256 := by
              rw [← Nat.pow_add]
              congr 1
              omega
      have places : 8 * (32 - count) = 8 + 8 * (31 - count) := by omega
      have rest : 32 - (count + 1) = 31 - count := by omega
      apply Unsigned.ext
      rw [truncate_raw high, places, Nat.shiftLeft_add, ← Nat.shiftLeft_or_distrib, shift_or, rest,
        fromBigEndian_concat]
    · exact Nat.le_refl _
  rw [spelled]
  exact number_read (by decide)

end Reads

/-- A copy loop inside the data leaves the copied region. -/
theorem slice_ok {data : Bytes} {off len : Nat} (inside : off + len ≤ data.length) :
    slice data off len = .ok (data.slice off len) := by
  have copied (count : Nat) (within : count ≤ len) : sliceLoop data off len count =
      .ok (data.slice off count ++ List.replicate (len - count) 0) := by
    induction count with
    | zero => rfl
    | succ count ih =>
        have last : off + count < data.length := by omega
        have found : byteAt data (off + count) = .ok data[off + count] :=
          byteAt_ok.mpr (List.getElem?_eq_getElem last)
        have done : (data.slice off count).length = count := length_slice (by omega)
        have blank : List.replicate (len - count) (0 : UInt8) =
            0 :: List.replicate (len - (count + 1)) 0 := by
          rw [← List.replicate_succ]
          congr 1
          omega
        have before := ih (by omega)
        rw [sliceLoop] at before
        rw [sliceLoop, List.range_succ, List.foldlM_append, before]
        simp only [List.foldlM_cons, List.foldlM_nil, bind_pure]
        show (byteAt data (off + count) >>= fun byte => setByte
          (data.slice off count ++ List.replicate (len - count) 0) count byte) = _
        rw [found]
        show setByte _ count data[off + count] = _
        rw [setByte, if_pos, blank, List.set_append_right _ _ (Nat.le_of_eq done), done,
          Nat.sub_self, List.set_cons_zero, slice_succ, List.getElem?_eq_getElem last]
        · simp
        · rw [List.length_append, done, List.length_replicate]
          omega
  rw [slice, copied len (Nat.le_refl len), Nat.sub_self, List.replicate_zero, List.append_nil]

end Evm.ProtocolCodec
