import CrossChainVault.Verifier.Deployment
import CrossChainVault.Verifier.Replay

set_option autoImplicit false

/- The one transaction shape a consume accepts: the bytes it reads are the bytes the native program
verified, and no transaction consumes twice. -/

namespace Verifier

open Result

/- The builder of the precompile instruction, in the adapter. -/

structure Signature where
  bytes : Bytes
  length : bytes.length = signatureLen

inductive AdapterError
  | invalidSigningInputLength
deriving DecidableEq, Repr

/-- The only precompile layout the verifier accepts: one signature, with key, signature and signing
input in this instruction's own data. -/
def secp256r1Instruction (ids : ProgramIds) (publicKey : PublicKey) (signature : Signature)
    (signingInput : Bytes) : Except AdapterError TransactionInstruction := do
  rejectIf (signingInput = [] ∨ maxSigningInputLen < signingInput.length)
    .invalidSigningInputLength
  let offsets := [signatureOffset, currentInstruction, publicKeyOffset, currentInstruction,
    messageOffset, signingInput.length, currentInstruction]
  pure {
    programId := ids.secp256r1
    accounts := []
    data := [1, 0] ++ offsets.flatMap littleEndian16 ++ publicKey.bytes ++ signature.bytes ++
      signingInput }

/- What the native program reads. -/

/-- A little-endian `u16` of the instruction data. -/
def u16At (data : Bytes) (offset : Nat) : Nat :=
  (data.getD offset 0).toNat + 256 * (data.getD (offset + 1) 0).toNat

/-- The key, signature and message of the native layout with one signature: a count, a padding byte,
and the offset and instruction index of each part. None when a part is in another instruction or
outside the data. -/
def nativeReads (data : Bytes) : Option (Bytes × Bytes × Bytes) :=
  let signature := u16At data 2
  let publicKey := u16At data 6
  let message := u16At data 10
  let size := u16At data 12
  if data.head? = some 1 ∧ u16At data 4 = currentInstruction ∧ u16At data 8 = currentInstruction ∧
      u16At data 14 = currentInstruction ∧ signature + signatureLen ≤ data.length ∧
      publicKey + compressedPublicKeyLen ≤ data.length ∧ message + size ≤ data.length then
    some (Bytes.slice data publicKey compressedPublicKeyLen, Bytes.slice data signature signatureLen,
      Bytes.slice data message size)
  else none

section Header

variable (size : Nat) (rest : Bytes)

theorem littleEndian16_value {value : Nat} (small : value < 2 ^ 16) :
    (UInt8.ofNat value).toNat + 256 * (UInt8.ofNat (value / 256)).toNat = value := by
  rw [UInt8.toNat_ofNat', UInt8.toNat_ofNat']
  omega

/-- The numbers the native program finds in the header. -/
theorem canonicalHeader_numbers (small : size < 2 ^ 16) :
    (canonicalHeader size ++ rest).head? = some 1 ∧
      u16At (canonicalHeader size ++ rest) 2 = signatureOffset ∧
      u16At (canonicalHeader size ++ rest) 4 = currentInstruction ∧
      u16At (canonicalHeader size ++ rest) 6 = publicKeyOffset ∧
      u16At (canonicalHeader size ++ rest) 8 = currentInstruction ∧
      u16At (canonicalHeader size ++ rest) 10 = messageOffset ∧
      u16At (canonicalHeader size ++ rest) 12 = size ∧
      u16At (canonicalHeader size ++ rest) 14 = currentInstruction := by
  have own := littleEndian16_value (show currentInstruction < 2 ^ 16 by decide)
  exact ⟨rfl, littleEndian16_value (show signatureOffset < 2 ^ 16 by decide), own,
    littleEndian16_value (show publicKeyOffset < 2 ^ 16 by decide), own,
    littleEndian16_value (show messageOffset < 2 ^ 16 by decide), littleEndian16_value small, own⟩

end Header

theorem length_canonicalHeader (size : Nat) : (canonicalHeader size).length = publicKeyOffset := rfl

theorem secp256r1Instruction_ok {ids : ProgramIds} {publicKey : PublicKey} {signature : Signature}
    {signingInput : Bytes} {built : TransactionInstruction} :
    secp256r1Instruction ids publicKey signature signingInput = .ok built ↔
      signingInput ≠ [] ∧ signingInput.length ≤ maxSigningInputLen ∧
      built = ⟨ids.secp256r1, [], canonicalHeader signingInput.length ++
        (publicKey.bytes ++ (signature.bytes ++ signingInput))⟩ := by
  simp only [secp256r1Instruction, bind_eq_ok, rejectIf_eq_ok, exists_const, pure_eq_ok, not_or,
    Nat.not_lt, canonicalHeader, List.append_assoc, and_assoc, eq_comm (a := built)]

section Layout

variable {publicKey : PublicKey} {signature : Signature} {signingInput : Bytes}

/-- The parts of the layout, from the front. -/
theorem layout_parts (publicKey : PublicKey) (signature : Signature) (signingInput rest : Bytes) :
    (canonicalHeader signingInput.length ++ (publicKey.bytes ++ (signature.bytes ++ rest))).drop
        messageOffset = rest ∧
      Bytes.slice (canonicalHeader signingInput.length ++
        (publicKey.bytes ++ (signature.bytes ++ rest))) publicKeyOffset compressedPublicKeyLen =
          publicKey.bytes ∧
      Bytes.slice (canonicalHeader signingInput.length ++
        (publicKey.bytes ++ (signature.bytes ++ rest))) signatureOffset signatureLen =
          signature.bytes := by
  have header := length_canonicalHeader signingInput.length
  have key := publicKey.length
  have sign := signature.length
  have afterHeader : (canonicalHeader signingInput.length ++
      (publicKey.bytes ++ (signature.bytes ++ rest))).drop publicKeyOffset =
      publicKey.bytes ++ (signature.bytes ++ rest) := List.drop_left' header
  have afterKey : (canonicalHeader signingInput.length ++
      (publicKey.bytes ++ (signature.bytes ++ rest))).drop signatureOffset =
      signature.bytes ++ rest := by
    rw [show signatureOffset = publicKeyOffset + compressedPublicKeyLen from rfl, ← List.drop_drop,
      afterHeader, List.drop_left' key]
  refine ⟨?_, ?_, ?_⟩
  · rw [show messageOffset = signatureOffset + signatureLen from rfl, ← List.drop_drop, afterKey,
      List.drop_left' sign]
  · rw [Bytes.slice, afterHeader, List.take_left' key]
  · rw [Bytes.slice, afterKey, List.take_left' sign]

/-- The checker accepts exactly what the builder writes. -/
theorem parsePrecompileData_iff {ids : ProgramIds} {data : Bytes} {verified : VerifiedSignature} :
    parsePrecompileData data = .ok verified ↔
      ∃ publicKey signature signingInput built,
        secp256r1Instruction ids publicKey signature signingInput = .ok built ∧
        data = built.data ∧ verified = ⟨publicKey.bytes, signingInput⟩ := by
  simp only [parsePrecompileData, bind_eq_ok, rejectIf_eq_ok, exists_const, pure_eq_ok, not_not,
    Nat.not_lt, secp256r1Instruction_ok]
  constructor
  · rintro ⟨long, ⟨nonempty, short⟩, header, rfl⟩
    have keyLong : publicKeyOffset + compressedPublicKeyLen ≤ data.length :=
      Nat.le_trans (by decide) long
    have signLong : signatureOffset + signatureLen ≤ data.length := long
    refine ⟨⟨Bytes.slice data publicKeyOffset compressedPublicKeyLen, Bytes.length_slice keyLong⟩,
      ⟨Bytes.slice data signatureOffset signatureLen, Bytes.length_slice signLong⟩,
      data.drop messageOffset, _, ⟨nonempty, short, rfl⟩, ?_, rfl⟩
    calc data = data.take publicKeyOffset ++ data.drop publicKeyOffset :=
          (List.take_append_drop _ _).symm
      _ = canonicalHeader (data.drop messageOffset).length ++ (_ ++ _) := by
          rw [header, ← List.take_append_drop compressedPublicKeyLen (data.drop publicKeyOffset),
            List.drop_drop]
      _ = canonicalHeader (data.drop messageOffset).length ++
          (Bytes.slice data publicKeyOffset compressedPublicKeyLen ++
            (Bytes.slice data signatureOffset signatureLen ++ data.drop messageOffset)) := by
          rw [← List.take_append_drop signatureLen
            (data.drop (publicKeyOffset + compressedPublicKeyLen)), List.drop_drop]
          rfl
  · rintro ⟨publicKey, signature, signingInput, built, ⟨nonempty, short, rfl⟩, rfl, rfl⟩
    obtain ⟨message, key, -⟩ := layout_parts publicKey signature signingInput signingInput
    dsimp only
    rw [message, key, List.take_left' (length_canonicalHeader _)]
    refine ⟨?_, ⟨nonempty, short⟩, rfl, rfl⟩
    rw [List.length_append, List.length_append, List.length_append, length_canonicalHeader,
      publicKey.length, signature.length, ← Nat.add_assoc, ← Nat.add_assoc]
    exact Nat.le_add_right _ _

/-- The native layout reads the same key and message out of what the builder writes. -/
theorem nativeReads_built {ids : ProgramIds} {built : TransactionInstruction}
    (builds : secp256r1Instruction ids publicKey signature signingInput = .ok built) :
    nativeReads built.data = some (publicKey.bytes, signature.bytes, signingInput) := by
  obtain ⟨-, short, rfl⟩ := secp256r1Instruction_ok.mp builds
  obtain ⟨message, key, sign⟩ := layout_parts publicKey signature signingInput signingInput
  have length : (canonicalHeader signingInput.length ++
      (publicKey.bytes ++ (signature.bytes ++ signingInput))).length =
      messageOffset + signingInput.length := by
    rw [List.length_append, List.length_append, List.length_append, length_canonicalHeader,
      publicKey.length, signature.length]
    simp only [messageOffset, signatureOffset]
    omega
  have small : signingInput.length < 2 ^ 16 := Nat.lt_of_le_of_lt short (by decide)
  obtain ⟨count, atSignature, own, atKey, own', atMessage, size, own''⟩ := canonicalHeader_numbers
    signingInput.length (publicKey.bytes ++ (signature.bytes ++ signingInput)) small
  have within : signatureOffset + signatureLen ≤ messageOffset + signingInput.length :=
    Nat.le_add_right _ _
  have within' : publicKeyOffset + compressedPublicKeyLen ≤ messageOffset + signingInput.length :=
    Nat.le_trans (by decide) within
  unfold nativeReads
  dsimp only
  rw [atSignature, own, atKey, own', atMessage, size, own'', length, key, sign, Bytes.slice, message,
    List.take_length,
    if_pos ⟨count, rfl, rfl, rfl, within, within', Nat.le_refl _⟩]

end Layout

section Shape

variable {ids : ProgramIds}

/-- The instructions around a consume at index `current`, with the precompile before it. -/
structure Shape (ids : ProgramIds) (instructions : List TransactionInstruction) (current : Nat)
    (precompile : TransactionInstruction) : Prop where
  positive : 0 < current
  this : ∃ instruction, instructions[current]? = some instruction ∧
    instruction.programId = ids.verifier
  budget : ∀ index instruction, index < current - 1 → instructions[index]? = some instruction →
    instruction.programId = ids.computeBudget
  before : instructions[current - 1]? = some precompile
  native : precompile.programId = ids.secp256r1
  noAccounts : precompile.accounts = []
  after : ∀ index instruction, current < index → instructions[index]? = some instruction →
    instruction.programId ≠ ids.verifier ∧ instruction.programId ≠ ids.secp256r1

/-- The scan over all instructions, with its two excluded positions and a rule for each side. -/
theorem allowed_iff {instructions : List TransactionInstruction} {current : Nat}
    (positive : 0 < current) :
    (instructions.zipIdx.all fun (instruction, index) =>
        allowedAt ids (current - 1) current index instruction.programId) = true ↔
      (∀ index instruction, index < current - 1 → instructions[index]? = some instruction →
        instruction.programId = ids.computeBudget) ∧
      ∀ index instruction, current < index → instructions[index]? = some instruction →
        instruction.programId ≠ ids.verifier ∧ instruction.programId ≠ ids.secp256r1 := by
  simp only [List.all_eq_true, Prod.forall, List.mem_zipIdx_iff_getElem?]
  constructor
  · intro allowed
    refine ⟨?_, ?_⟩
    · intro index instruction earlier found
      have passes := allowed instruction index found
      unfold allowedAt at passes
      rw [if_neg (by omega), if_pos earlier] at passes
      exact of_decide_eq_true passes
    · intro index instruction later found
      have passes := allowed instruction index found
      unfold allowedAt at passes
      rw [if_neg (by omega), if_neg (by omega)] at passes
      exact of_decide_eq_true passes
  · rintro ⟨budget, after⟩ instruction index found
    unfold allowedAt
    by_cases excluded : index = current - 1 ∨ index = current
    · rw [if_pos excluded]
    · rw [if_neg excluded]
      by_cases earlier : index < current - 1
      · rw [if_pos earlier]
        exact decide_eq_true (budget index instruction earlier found)
      · rw [if_neg earlier]
        exact decide_eq_true (after index instruction (by omega) found)

theorem loadVerifiedPrecompile_iff {call : Invocation} {precompile : TransactionInstruction} :
    call.loadVerifiedPrecompile ids = .ok precompile ↔
      call.stackHeight = transactionLevelStackHeight ∧
        Shape ids call.instructions call.current precompile := by
  simp only [Invocation.loadVerifiedPrecompile, Invocation.loadInstructionAt, bind_eq_ok,
    rejectIf_eq_ok, okOr_eq_ok, pure_eq_ok, exists_const, not_not]
  constructor
  · rintro ⟨top, this, found, own, nonzero, scanned, _, before, native, none, rfl⟩
    have positive : 0 < call.current := Nat.pos_of_ne_zero nonzero
    obtain ⟨budget, after⟩ := (allowed_iff positive).mp scanned
    exact ⟨top, positive, ⟨this, found, own⟩, budget, before, native, none, after⟩
  · rintro ⟨top, positive, ⟨this, found, own⟩, budget, before, native, none, after⟩
    exact ⟨top, this, found, own, Nat.ne_of_gt positive, (allowed_iff positive).mpr ⟨budget, after⟩,
      precompile, before, native, none, rfl⟩

/-- Two consumes of one transaction are the same instruction. -/
theorem Shape.unique {instructions : List TransactionInstruction} {one other : Nat}
    {precompile precompile' : TransactionInstruction}
    (shape : Shape ids instructions one precompile)
    (shape' : Shape ids instructions other precompile') : one = other := by
  obtain ⟨mine, found, own⟩ := shape.this
  obtain ⟨theirs, found', own'⟩ := shape'.this
  rcases Nat.lt_trichotomy one other with earlier | same | later
  · exact absurd own' (shape.after other theirs earlier found').1
  · exact same
  · exact absurd own (shape'.after one mine later found).1

/-- The verified bytes of a call: the precompile before it, parsed. -/
def Invocation.verified (ids : ProgramIds) (call : Invocation) :
    Except VerifierError VerifiedSignature := do
  let precompile ← call.loadVerifiedPrecompile ids
  parsePrecompileData precompile.data

/-- A call in which a consume of either profile succeeds, on some accounts. -/
def Consumes (derivation : Derivation) (ids : ProgramIds) (call : Invocation) : Prop :=
  (∃ w consumer config trustedKey mandate receipt nonceHash now w',
    consumeAuthorization derivation ids w consumer config trustedKey mandate receipt nonceHash call
      now = .ok w') ∨
  ∃ a config riskKey receipt nonce now a',
    consumeDeploymentAuthorization derivation ids a config riskKey receipt nonce call now = .ok a'

theorem Consumes.shape {derivation : Derivation} {call : Invocation}
    (consumes : Consumes derivation ids call) :
    call.stackHeight = transactionLevelStackHeight ∧
      ∃ precompile, Shape ids call.instructions call.current precompile := by
  have loads : ∃ precompile, call.loadVerifiedPrecompile ids = .ok precompile := by
    rcases consumes with ⟨_, _, _, _, _, _, _, _, _, success⟩ | ⟨_, _, _, _, _, _, _, success⟩
    · obtain ⟨token, read, -⟩ := consumeAuthorization_ok success
      simp only [Invocation.readToken, bind_eq_ok] at read
      obtain ⟨precompile, loaded, -⟩ := read
      exact ⟨precompile, loaded⟩
    · simp only [consumeDeploymentAuthorization, bind_eq_ok] at success
      obtain ⟨_, -, _, -, _, -, _, -, _, -, _, read, -⟩ := success
      simp only [Invocation.readApproval, bind_eq_ok] at read
      obtain ⟨precompile, loaded, -⟩ := read
      exact ⟨precompile, loaded⟩
  obtain ⟨precompile, loaded⟩ := loads
  obtain ⟨top, shape⟩ := loadVerifiedPrecompile_iff.mp loaded
  exact ⟨top, precompile, shape⟩

end Shape

/-- A transaction: its top-level instructions, and how deep below each of them other programs call
this one. -/
structure Transaction where
  instructions : List TransactionInstruction
  inner : Nat → List Nat

namespace Transaction

/-- The calls of this program under one instruction: its own at the top level, and those it leads to,
above it on the stack. -/
def callsAt (transaction : Transaction) (index : Nat) : List Invocation :=
  ⟨transactionLevelStackHeight, index, transaction.instructions⟩ ::
    (transaction.inner index).map fun depth =>
      ⟨transactionLevelStackHeight + 1 + depth, index, transaction.instructions⟩

def calls (transaction : Transaction) : List Invocation :=
  (List.range transaction.instructions.length).flatMap transaction.callsAt

variable {transaction : Transaction} {index : Nat} {call : Invocation}

theorem of_mem_callsAt (member : call ∈ transaction.callsAt index) :
    call.current = index ∧ call.instructions = transaction.instructions := by
  rcases List.mem_cons.mp member with rfl | inner
  · exact ⟨rfl, rfl⟩
  · obtain ⟨depth, -, rfl⟩ := List.mem_map.mp inner
    exact ⟨rfl, rfl⟩

/-- Nothing that another program calls consumes. -/
theorem inner_not_consumes {derivation : Derivation} {ids : ProgramIds} (depth : Nat) :
    ¬Consumes derivation ids
      ⟨transactionLevelStackHeight + 1 + depth, index, transaction.instructions⟩ := by
  intro consumes
  have top := consumes.shape.1
  dsimp only [transactionLevelStackHeight] at top
  omega

theorem consumes_once (derivation : Derivation) (ids : ProgramIds) (transaction : Transaction) :
    transaction.calls.Pairwise fun one other =>
      ¬(Consumes derivation ids one ∧ Consumes derivation ids other) := by
  unfold calls
  rw [List.pairwise_flatMap]
  refine ⟨?_, ?_⟩
  · intro index _
    refine List.pairwise_cons.mpr ⟨?_, List.pairwise_map.mpr (List.pairwise_of_forall ?_)⟩
    · rintro call inner ⟨-, consumes⟩
      obtain ⟨depth, -, rfl⟩ := List.mem_map.mp inner
      exact inner_not_consumes depth consumes
    · rintro depth depth' ⟨consumes, -⟩
      exact inner_not_consumes depth consumes
  · refine List.nodup_range.imp ?_
    rintro index index' apart call mine call' theirs ⟨consumes, consumes'⟩
    obtain ⟨here, same⟩ := of_mem_callsAt mine
    obtain ⟨there, same'⟩ := of_mem_callsAt theirs
    obtain ⟨-, precompile, shape⟩ := consumes.shape
    obtain ⟨-, precompile', shape'⟩ := consumes'.shape
    rw [here, same] at shape
    rw [there, same'] at shape'
    exact apart (shape.unique shape')

end Transaction

/-- The bytes a call reads are exactly those the builder put into the precompile before it, which the
native program reads the same way, and no transaction consumes twice. -/
theorem verified_bytes (derivation : Derivation) (ids : ProgramIds) :
    (∀ instructions current verified,
      Invocation.verified ids ⟨transactionLevelStackHeight, current, instructions⟩ = .ok verified ↔
        ∃ precompile publicKey signature signingInput built,
          Shape ids instructions current precompile ∧
          secp256r1Instruction ids publicKey signature signingInput = .ok built ∧
          precompile.data = built.data ∧ verified = ⟨publicKey.bytes, signingInput⟩) ∧
    (∀ publicKey signature signingInput built,
      secp256r1Instruction ids publicKey signature signingInput = .ok built →
      nativeReads built.data = some (publicKey.bytes, signature.bytes, signingInput)) ∧
    ∀ transaction : Transaction, transaction.calls.Pairwise fun one other =>
      ¬(Consumes derivation ids one ∧ Consumes derivation ids other) := by
  refine ⟨?_, fun _ _ _ _ => nativeReads_built, Transaction.consumes_once derivation ids⟩
  intro instructions current verified
  simp only [Invocation.verified, bind_eq_ok, loadVerifiedPrecompile_iff, true_and]
  constructor
  · rintro ⟨precompile, shape, parsed⟩
    obtain ⟨publicKey, signature, signingInput, built, builds, same, reads⟩ :=
      parsePrecompileData_iff.mp parsed
    exact ⟨precompile, publicKey, signature, signingInput, built, shape, builds, same, reads⟩
  · rintro ⟨precompile, publicKey, signature, signingInput, built, shape, builds, same, reads⟩
    exact ⟨precompile, shape, parsePrecompileData_iff.mpr
      ⟨publicKey, signature, signingInput, built, builds, same, reads⟩⟩

end Verifier
