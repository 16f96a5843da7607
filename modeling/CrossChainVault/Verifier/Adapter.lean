import CrossChainVault.Verifier.Reading
import CrossChainVault.Verifier.Shape

set_option autoImplicit false

/- Host-side helpers that turn an ES256 compact JWS into the precompile instruction the verifier
expects. Nothing here is trusted by the program: the signing input is kept byte for byte, and a
high-S signature is rewritten to its low-S twin. -/

namespace Verifier

namespace Jws

open Result

inductive AdapterError
  | invalidBase64Url
  | invalidCompactJws
  | unsupportedKeyType
  | unsupportedCurve
  | invalidCoordinate
  | pointNotOnCurve
  | scalarOutOfRange
  | invalidSigningInputLength
  | crypto
deriving DecidableEq, Repr

/-- The Base64 engine of the host. It is the unpadded URL-safe one, which reads a text only as the
bytes it would itself spell so. -/
structure Engine where
  encode : Bytes → Bytes
  decode : Bytes → Option Bytes
  standard : ∀ bytes, encode bytes = encodeBase64Url bytes
  canonical : ∀ text bytes, decode text = some bytes ↔ text = encode bytes

/-- The program's own decoder is one. -/
def Engine.ofProgram : Engine where
  encode := encodeBase64Url
  decode text := (decodeBase64Url text).toOption
  standard _ := rfl
  canonical text bytes := by
    rw [← decodeBase64Url_iff]
    cases decodeBase64Url text with
    | error failure => simp [Except.toOption]
    | ok read => simp [Except.toOption]

/-- The bytes as a signature, when there are as many as it has. -/
def ofBytes (bytes : Bytes) : Option Signature :=
  if sized : bytes.length = signatureLen then some ⟨bytes, sized⟩ else none

theorem ofBytes_iff {bytes : Bytes} {signature : Signature} :
    ofBytes bytes = some signature ↔ bytes = signature.bytes := by
  unfold ofBytes
  constructor
  · intro found
    split at found
    · cases found
      rfl
    · cases found
  · rintro rfl
    rw [dif_pos signature.length]

section Text

variable (engine : Engine)

/-- Canonical unpadded Base64URL; padding and non-zero trailing bits fail. -/
def base64urlDecode (text : Bytes) : Except AdapterError Bytes :=
  okOr (engine.decode text) .invalidBase64Url

/-- The text before the last separator and the text after it. -/
def rsplitOnce (separator : UInt8) : Bytes → Option (Bytes × Bytes)
  | [] => none
  | byte :: rest =>
      match rsplitOnce separator rest with
      | some (before, after) => some (byte :: before, after)
      | none => if byte = separator then some ([], rest) else none

/-- Splits a compact JWS into its signing input, unchanged, and its raw `r || s` signature. -/
def splitCompactJws (token : Bytes) : Except AdapterError (Bytes × Signature) := do
  let (signingInput, signature) ← okOr (rsplitOnce 0x2e token) .invalidCompactJws
  rejectIf (signingInput.count 0x2e ≠ 1) .invalidCompactJws
  let bytes ← base64urlDecode engine signature
  let signature ← okOr (ofBytes bytes) .invalidCompactJws
  pure (signingInput, signature)

end Text

/- Signatures. -/

def fieldSize : Nat := 32

/-- secp256r1 group order `n`. -/
def order : Nat := 0xFFFFFFFF00000000FFFFFFFFFFFFFFFFBCE6FAADA7179E84F3B9CAC2FC632551

/-- `n/2`, rounded down. -/
def halfOrder : Nat := 0x7FFFFFFF800000007FFFFFFFFFFFFFFFDE737D56D38BCF4279DCE5617E3192A8

/-- The two scalars of a raw signature. -/
def rOf (signature : Signature) : Nat := Bytes.fromBigEndian (signature.bytes.take fieldSize)

def sOf (signature : Signature) : Nat := Bytes.fromBigEndian (signature.bytes.drop fieldSize)

/-- The big-endian bytes of a number, padded to a field. It fails on a wider number. -/
def toVecPadded (number : Nat) : Except AdapterError Bytes := do
  rejectIf (2 ^ (8 * fieldSize) ≤ number) .crypto
  pure (Bytes.toBigEndian fieldSize number)

def rawSignature (r s : Nat) : Except AdapterError Signature := do
  let r ← toVecPadded r
  let s ← toVecPadded s
  okOr (ofBytes (r ++ s)) .scalarOutOfRange

/-- Rejects scalars outside `1..n` and returns the low-S form the native precompile requires.
Already-low signatures are returned unchanged. -/
def normalizeSignature (signature : Signature) : Except AdapterError Signature := do
  let r := rOf signature
  let s := sOf signature
  rejectIf (r < 1 ∨ order ≤ r ∨ s < 1 ∨ order ≤ s) .scalarOutOfRange
  if s ≤ halfOrder then pure signature else rawSignature r (order - s)

/-- Whether `s <= n/2`. This alone does not make the signature valid. -/
def isLowS (signature : Signature) : Bool := sOf signature ≤ halfOrder

/-- The high-S twin `(r, n - s)` of a signature. The bytes of a negative difference are those of its
magnitude. -/
def highSTwin (signature : Signature) : Except AdapterError Signature :=
  rawSignature (rOf signature) ((order : Int) - sOf signature).natAbs

/- The last separator. -/

section Split

variable {separator : UInt8}

theorem rsplitOnce_eq_none {text : Bytes} : rsplitOnce separator text = none ↔ separator ∉ text := by
  induction text with
  | nil => simp [rsplitOnce]
  | cons byte rest ih =>
      rw [rsplitOnce, List.mem_cons, not_or, ← ih]
      cases rsplitOnce separator rest with
      | some parts => simp
      | none =>
          by_cases same : byte = separator
          · simp [same]
          · simp [same, Ne.symm same]

theorem rsplitOnce_iff {text before after : Bytes} :
    rsplitOnce separator text = some (before, after) ↔
      text = before ++ separator :: after ∧ separator ∉ after := by
  induction text generalizing before with
  | nil => simp [rsplitOnce]
  | cons byte rest ih =>
      rw [rsplitOnce]
      cases found : rsplitOnce separator rest with
      | some parts =>
          obtain ⟨middle, last⟩ := parts
          rw [found] at ih
          simp only [Option.some.injEq, Prod.mk.injEq] at ih ⊢
          constructor
          · rintro ⟨rfl, rfl⟩
            obtain ⟨rfl, absent⟩ := ih.mp ⟨rfl, rfl⟩
            exact ⟨rfl, absent⟩
          · rintro ⟨spelled, absent⟩
            cases before with
            | nil =>
                -- The rest has a separator, so the first byte is not the last one.
                obtain ⟨-, rfl⟩ := List.cons.inj spelled
                rw [rsplitOnce_eq_none.mpr absent] at found
                cases found
            | cons first before =>
                obtain ⟨rfl, inner⟩ := List.cons.inj spelled
                obtain ⟨rfl, rfl⟩ := ih.mpr ⟨inner, absent⟩
                exact ⟨rfl, rfl⟩
      | none =>
          have absent := rsplitOnce_eq_none.mp found
          by_cases same : byte = separator
          · subst same
            simp only [if_true, Option.some.injEq, Prod.mk.injEq]
            constructor
            · rintro ⟨rfl, rfl⟩
              exact ⟨rfl, absent⟩
            · rintro ⟨spelled, -⟩
              cases before with
              | nil => exact ⟨rfl, (List.cons.inj spelled).2⟩
              | cons first before =>
                  apply absurd _ absent
                  rw [(List.cons.inj spelled).2]
                  simp
          · simp only [same, if_false, reduceCtorEq, false_iff, not_and]
            intro spelled
            cases before with
            | nil => exact absurd (List.cons.inj spelled).1 same
            | cons first before =>
                apply absurd _ absent
                rw [(List.cons.inj spelled).2]
                simp

end Split

/-- A token is split exactly where it was put together: two dots in all, and the last part the
canonical spelling of sixty-four bytes. -/
theorem splitCompactJws_iff {engine : Engine} {token input : Bytes} {signature : Signature} :
    splitCompactJws engine token = .ok (input, signature) ↔
      token = input ++ 0x2e :: encodeBase64Url signature.bytes ∧ input.count 0x2e = 1 := by
  simp only [splitCompactJws, base64urlDecode, bind_eq_ok, okOr_eq_ok, rejectIf_eq_ok, exists_const,
    Prod.exists, rsplitOnce_iff, engine.canonical, engine.standard, ofBytes_iff, pure_eq_ok,
    Prod.mk.injEq, not_not]
  constructor
  · rintro ⟨before, after, ⟨rfl, -⟩, one, bytes, rfl, built, rfl, rfl, rfl⟩
    exact ⟨rfl, one⟩
  · rintro ⟨rfl, one⟩
    exact ⟨input, _, ⟨rfl, dot_not_mem_encodeBase64Url signature.bytes⟩, one, signature.bytes, rfl,
      signature, rfl, rfl, rfl⟩

/- The two scalars. -/

theorem order_eq : order = 2 * halfOrder + 1 := by decide

theorem order_lt : order < 2 ^ (8 * fieldSize) := by decide

theorem sOf_lt (signature : Signature) : sOf signature < 2 ^ (8 * fieldSize) := by
  have bound := Bytes.fromBigEndian_lt (signature.bytes.drop fieldSize)
  rwa [List.length_drop, signature.length] at bound

theorem rOf_lt (signature : Signature) : rOf signature < 2 ^ (8 * fieldSize) := by
  have bound := Bytes.fromBigEndian_lt (signature.bytes.take fieldSize)
  rwa [List.length_take, signature.length] at bound

/-- A signature is its two scalars. -/
theorem bytes_eq (signature : Signature) : signature.bytes =
    Bytes.toBigEndian fieldSize (rOf signature) ++ Bytes.toBigEndian fieldSize (sOf signature) := by
  have sizeR : (signature.bytes.take fieldSize).length = fieldSize := by
    rw [List.length_take, signature.length]
    rfl
  have sizeS : (signature.bytes.drop fieldSize).length = fieldSize := by
    rw [List.length_drop, signature.length]
    rfl
  have first := Bytes.toBigEndian_fromBigEndian (signature.bytes.take fieldSize)
  have second := Bytes.toBigEndian_fromBigEndian (signature.bytes.drop fieldSize)
  rw [sizeR] at first
  rw [sizeS] at second
  rw [rOf, sOf, first, second, List.take_append_drop]

theorem signature_ext {signature other : Signature} (sameR : rOf signature = rOf other)
    (sameS : sOf signature = sOf other) : signature = other := by
  have same : signature.bytes = other.bytes := by
    rw [bytes_eq signature, bytes_eq other, sameR, sameS]
  cases signature
  cases other
  cases same
  rfl

theorem toVecPadded_eq_ok {number : Nat} {bytes : Bytes} :
    toVecPadded number = .ok bytes ↔
      number < 2 ^ (8 * fieldSize) ∧ Bytes.toBigEndian fieldSize number = bytes := by
  simp only [toVecPadded, bind_eq_ok, rejectIf_eq_ok, exists_const, pure_eq_ok, not_le]

/-- Two scalars are packed into the one signature that holds them. -/
theorem rawSignature_iff {r s : Nat} {signature : Signature} :
    rawSignature r s = .ok signature ↔ rOf signature = r ∧ sOf signature = s := by
  simp only [rawSignature, bind_eq_ok, toVecPadded_eq_ok, okOr_eq_ok, ofBytes_iff]
  constructor
  · rintro ⟨first, ⟨fitsR, spelledR⟩, second, ⟨fitsS, spelledS⟩, packed⟩
    have sizeR : first.length = fieldSize := by
      rw [← spelledR]
      exact Bytes.length_toBigEndian fieldSize r
    refine ⟨?_, ?_⟩
    · rw [rOf, ← packed, List.take_left' sizeR, ← spelledR]
      exact Bytes.fromBigEndian_toBigEndian fieldSize r fitsR
    · rw [sOf, ← packed, List.drop_left' sizeR, ← spelledS]
      exact Bytes.fromBigEndian_toBigEndian fieldSize s fitsS
  · rintro ⟨rfl, rfl⟩
    exact ⟨_, ⟨rOf_lt signature, rfl⟩, _, ⟨sOf_lt signature, rfl⟩, (bytes_eq signature).symm⟩

theorem rawSignature_succeeds {r s : Nat} (fitsR : r < 2 ^ (8 * fieldSize))
    (fitsS : s < 2 ^ (8 * fieldSize)) : Succeeds (rawSignature r s) := by
  have sized : (Bytes.toBigEndian fieldSize r ++ Bytes.toBigEndian fieldSize s).length =
      signatureLen := by
    rw [List.length_append, Bytes.length_toBigEndian, Bytes.length_toBigEndian]
    rfl
  refine ⟨⟨_, sized⟩, ?_⟩
  simp only [rawSignature, bind_eq_ok, toVecPadded_eq_ok, okOr_eq_ok, ofBytes_iff]
  exact ⟨_, ⟨fitsR, rfl⟩, _, ⟨fitsS, rfl⟩, rfl⟩

/-- Both scalars are in `1..n`. -/
structure InRange (signature : Signature) : Prop where
  r_pos : 0 < rOf signature
  r_lt : rOf signature < order
  s_pos : 0 < sOf signature
  s_lt : sOf signature < order

/-- The same `r`, and an `s` or its negative. -/
def SameUpToSign (signature other : Signature) : Prop :=
  rOf signature = rOf other ∧
    (sOf signature = sOf other ∨ sOf signature + sOf other = order)

theorem normalizeSignature_iff {signature low : Signature} :
    normalizeSignature signature = .ok low ↔
      InRange signature ∧ sOf low ≤ halfOrder ∧ SameUpToSign low signature := by
  have odd := order_eq
  simp only [normalizeSignature, bind_eq_ok, rejectIf_eq_ok, exists_const, not_or, not_lt, not_le]
  constructor
  · rintro ⟨⟨r_pos, r_lt, s_pos, s_lt⟩, rest⟩
    refine ⟨⟨r_pos, r_lt, s_pos, s_lt⟩, ?_⟩
    by_cases small : sOf signature ≤ halfOrder
    · rw [if_pos small, pure_eq_ok] at rest
      subst rest
      exact ⟨small, rfl, .inl rfl⟩
    · rw [if_neg small, rawSignature_iff] at rest
      obtain ⟨sameR, twin⟩ := rest
      refine ⟨?_, sameR, .inr ?_⟩
      · omega
      · omega
  · rintro ⟨range, small, sameR, sameS⟩
    have s_lt := range.s_lt
    refine ⟨⟨range.r_pos, range.r_lt, range.s_pos, s_lt⟩, ?_⟩
    by_cases low_s : sOf signature ≤ halfOrder
    · rw [if_pos low_s, pure_eq_ok]
      apply signature_ext sameR.symm
      -- The sum of two low scalars is below the order.
      omega
    · rw [if_neg low_s, rawSignature_iff]
      refine ⟨sameR, ?_⟩
      omega

theorem InRange.of_same {signature other : Signature} (range : InRange signature)
    (same : SameUpToSign other signature) : InRange other := by
  obtain ⟨sameR, sameS⟩ := same
  have s_pos := range.s_pos
  have s_lt := range.s_lt
  refine ⟨?_, ?_, ?_, ?_⟩
  · rw [sameR]
    exact range.r_pos
  · rw [sameR]
    exact range.r_lt
  · omega
  · omega

/-- The low-S form of every signature in range. -/
theorem InRange.normalizes {signature : Signature} (range : InRange signature) :
    ∃ low, normalizeSignature signature = .ok low := by
  have s_lt := range.s_lt
  have odd := order_eq
  by_cases small : sOf signature ≤ halfOrder
  · exact ⟨signature, normalizeSignature_iff.mpr ⟨range, small, rfl, .inl rfl⟩⟩
  · have fits : order - sOf signature < 2 ^ (8 * fieldSize) :=
      Nat.lt_of_le_of_lt (Nat.sub_le _ _) order_lt
    obtain ⟨low, packed⟩ := rawSignature_succeeds (rOf_lt signature) fits
    obtain ⟨sameR, sameS⟩ := rawSignature_iff.mp packed
    refine ⟨low, normalizeSignature_iff.mpr ⟨range, ?_, sameR, .inr ?_⟩⟩
    · omega
    · omega

/-- Every signature in range has a twin on the other side of the half order, whose twin it is. -/
theorem InRange.twin {signature : Signature} (range : InRange signature) :
    ∃ twin, highSTwin signature = .ok twin ∧ InRange twin ∧ highSTwin twin = .ok signature ∧
      isLowS twin = !isLowS signature ∧
      normalizeSignature twin = normalizeSignature signature := by
  have s_pos := range.s_pos
  have s_lt := range.s_lt
  have odd := order_eq
  have size : ((order : Int) - sOf signature).natAbs = order - sOf signature := by omega
  have fits : order - sOf signature < 2 ^ (8 * fieldSize) :=
    Nat.lt_of_le_of_lt (Nat.sub_le _ _) order_lt
  obtain ⟨twin, packed⟩ := rawSignature_succeeds (rOf_lt signature) fits
  obtain ⟨sameR, sameS⟩ := rawSignature_iff.mp packed
  have same : SameUpToSign twin signature := by
    refine ⟨sameR, .inr ?_⟩
    omega
  have rangeTwin := range.of_same same
  refine ⟨twin, ?_, rangeTwin, ?_, ?_, ?_⟩
  · rw [highSTwin, size]
    exact packed
  · rw [highSTwin, rawSignature_iff]
    refine ⟨sameR.symm, ?_⟩
    omega
  · rw [isLowS, isLowS, ← decide_not]
    apply decide_eq_decide.mpr
    omega
  · obtain ⟨low, normal⟩ := range.normalizes
    obtain ⟨-, small, sameR', sameS'⟩ := normalizeSignature_iff.mp normal
    rw [normal, normalizeSignature_iff]
    refine ⟨rangeTwin, small, sameR'.trans sameR.symm, ?_⟩
    omega

/-- A normal form is low, in range, a form of the signature, and its own normal form. -/
theorem normalizeSignature_kept {signature low : Signature}
    (normal : normalizeSignature signature = .ok low) :
    isLowS low = true ∧ InRange low ∧ SameUpToSign low signature ∧
      normalizeSignature low = .ok low := by
  obtain ⟨range, small, same⟩ := normalizeSignature_iff.mp normal
  have rangeLow := range.of_same same
  exact ⟨decide_eq_true small, rangeLow, same,
    normalizeSignature_iff.mpr ⟨rangeLow, small, rfl, .inl rfl⟩⟩

/-- The signatures of one normal form. -/
theorem normalizeSignature_shared {signature low : Signature}
    (normal : normalizeSignature signature = .ok low) (other : Signature) :
    normalizeSignature other = .ok low ↔ InRange other ∧ SameUpToSign signature other := by
  have odd := order_eq
  obtain ⟨-, small, sameR, sameS⟩ := normalizeSignature_iff.mp normal
  rw [normalizeSignature_iff]
  constructor
  · rintro ⟨rangeOther, _, sameR', sameS'⟩
    refine ⟨rangeOther, sameR.symm.trans sameR', ?_⟩
    omega
  · rintro ⟨rangeOther, sameR', sameS'⟩
    refine ⟨rangeOther, small, sameR.trans sameR', ?_⟩
    omega

/-- Normalization picks one signature out of each pair of twins. It refuses exactly the scalars out
of range, keeps what it returns, and two signatures have one normal form exactly when they are equal
or twins. -/
theorem normal_forms (signature : Signature) :
    (Succeeds (normalizeSignature signature) ↔ InRange signature) ∧
    (∀ low, normalizeSignature signature = .ok low →
      isLowS low = true ∧ InRange low ∧ SameUpToSign low signature ∧
      normalizeSignature low = .ok low ∧
      ∀ other, normalizeSignature other = .ok low ↔
        InRange other ∧ SameUpToSign signature other) ∧
    (InRange signature → ∃ twin, highSTwin signature = .ok twin ∧ InRange twin ∧
      highSTwin twin = .ok signature ∧ isLowS twin = !isLowS signature ∧
      normalizeSignature twin = normalizeSignature signature) := by
  refine ⟨⟨?_, InRange.normalizes⟩, ?_, InRange.twin⟩
  · rintro ⟨low, normal⟩
    exact (normalizeSignature_iff.mp normal).1
  · intro low normal
    obtain ⟨lowS, range, same, kept⟩ := normalizeSignature_kept normal
    exact ⟨lowS, range, same, kept, normalizeSignature_shared normal⟩

/- From a token to the program. -/

/-- The native secp256r1 program, and the check it makes: ECDSA on P-256 over the SHA-256 of a message,
which does not see the sign of `s`. Of an instruction with a single signature in its own data it
accepts the low-S form that verifies. -/
structure NativeProgram where
  verifies : Bytes → Bytes → Signature → Bool
  accepts : Bytes → Bool
  negated : ∀ key message signature other, InRange signature → SameUpToSign other signature →
    verifies key message other = verifies key message signature
  reads : ∀ data key signature message,
    nativeReads data = some (key, signature.bytes, message) →
    accepts data = (isLowS signature && verifies key message signature)

/-- The helpers in a row: a token, split, normalized and laid out for the precompile. -/
def precompileOf (engine : Engine) (ids : ProgramIds) (publicKey : PublicKey) (token : Bytes) :
    Except AdapterError TransactionInstruction := do
  let (input, raw) ← splitCompactJws engine token
  let signature ← normalizeSignature raw
  (secp256r1Instruction ids publicKey signature input).mapError fun _ => .invalidSigningInputLength

section Pipeline

variable {engine : Engine} {ids : ProgramIds} {publicKey : PublicKey}

theorem precompileOf_iff {token : Bytes} {built : TransactionInstruction} :
    precompileOf engine ids publicKey token = .ok built ↔ ∃ input raw low,
      splitCompactJws engine token = .ok (input, raw) ∧ normalizeSignature raw = .ok low ∧
      secp256r1Instruction ids publicKey low input = .ok built := by
  simp only [precompileOf, bind_eq_ok, mapError_eq_ok, Prod.exists, exists_and_left]

/-- A signing input of one dot is not empty. -/
theorem ne_nil_of_count {input : Bytes} (one : input.count 0x2e = 1) : input ≠ [] := by
  rintro rfl
  cases one

/-- A call right after the instruction reads the key and the message it was built with. -/
theorem verified_built {low : Signature} {input : Bytes} {built : TransactionInstruction}
    (builds : secp256r1Instruction ids publicKey low input = .ok built)
    {instructions : List TransactionInstruction} {current : Nat}
    (shape : Shape ids instructions current built) :
    Invocation.verified ids ⟨transactionLevelStackHeight, current, instructions⟩ =
      .ok ⟨publicKey.bytes, input⟩ := by
  simp only [Invocation.verified, bind_eq_ok, loadVerifiedPrecompile_iff, true_and]
  exact ⟨built, shape, parsePrecompileData_iff.mpr
    ⟨publicKey, low, input, built, builds, rfl, rfl⟩⟩

theorem NativeProgram.accepts_built (native : NativeProgram) {raw low : Signature} {input : Bytes}
    {built : TransactionInstruction} (normal : normalizeSignature raw = .ok low)
    (builds : secp256r1Instruction ids publicKey low input = .ok built) :
    native.accepts built.data = native.verifies publicKey.bytes input raw := by
  obtain ⟨range, small, same⟩ := normalizeSignature_iff.mp normal
  have lowS : isLowS low = true := decide_eq_true small
  calc native.accepts built.data = (isLowS low && native.verifies publicKey.bytes input low) :=
        native.reads built.data publicKey.bytes low input (nativeReads_built builds)
    _ = native.verifies publicKey.bytes input low := by rw [lowS, Bool.true_and]
    _ = native.verifies publicKey.bytes input raw :=
        native.negated publicKey.bytes input raw low range same

/-- Two instructions are equal exactly when their signatures and messages are. -/
theorem built_inj {low low' : Signature} {input input' : Bytes} {built built' : TransactionInstruction}
    (builds : secp256r1Instruction ids publicKey low input = .ok built)
    (builds' : secp256r1Instruction ids publicKey low' input' = .ok built') :
    built = built' ↔ low = low' ∧ input = input' := by
  constructor
  · rintro rfl
    have reads := nativeReads_built builds
    rw [nativeReads_built builds'] at reads
    simp only [Option.some.injEq, Prod.mk.injEq, true_and] at reads
    obtain ⟨bytes, rfl⟩ := reads
    refine ⟨?_, rfl⟩
    cases low
    cases low'
    cases bytes
    rfl
  · rintro ⟨rfl, rfl⟩
    rw [builds, Except.ok.injEq] at builds'
    exact builds'

/-- A token reaches the program unchanged in meaning. The helpers accept exactly the tokens of three
parts whose last spells two scalars in range and whose first two fit the program's limit. A call after
the instruction then reads the registered key and those two parts, the native program accepts it
exactly when the token's own signature verifies, and two tokens become one instruction exactly when
they sign the same input with the same scalars up to the sign of `s`. -/
theorem token_carried (engine : Engine) (ids : ProgramIds) (native : NativeProgram)
    (publicKey : PublicKey) (token : Bytes) :
    (Succeeds (precompileOf engine ids publicKey token) ↔ ∃ input raw,
      token = input ++ 0x2e :: encodeBase64Url raw.bytes ∧ input.count 0x2e = 1 ∧
      input.length ≤ maxSigningInputLen ∧ InRange raw) ∧
    ∀ built, precompileOf engine ids publicKey token = .ok built → ∃ input raw,
      splitCompactJws engine token = .ok (input, raw) ∧
      (∀ instructions current, Shape ids instructions current built →
        Invocation.verified ids ⟨transactionLevelStackHeight, current, instructions⟩ =
          .ok ⟨publicKey.bytes, input⟩) ∧
      native.accepts built.data = native.verifies publicKey.bytes input raw ∧
      ∀ token' built', precompileOf engine ids publicKey token' = .ok built' →
        ∃ input' raw', splitCompactJws engine token' = .ok (input', raw') ∧
          (built = built' ↔ input = input' ∧ SameUpToSign raw raw') := by
  refine ⟨⟨?_, ?_⟩, ?_⟩
  · rintro ⟨built, carried⟩
    obtain ⟨input, raw, low, parts, normal, builds⟩ := precompileOf_iff.mp carried
    obtain ⟨spelled, one⟩ := splitCompactJws_iff.mp parts
    exact ⟨input, raw, spelled, one, (secp256r1Instruction_ok.mp builds).2.1,
      (normalizeSignature_iff.mp normal).1⟩
  · rintro ⟨input, raw, spelled, one, short, range⟩
    obtain ⟨low, normal⟩ := range.normalizes
    exact ⟨_, precompileOf_iff.mpr ⟨input, raw, low, splitCompactJws_iff.mpr ⟨spelled, one⟩, normal,
      secp256r1Instruction_ok.mpr ⟨ne_nil_of_count one, short, rfl⟩⟩⟩
  · intro built carried
    obtain ⟨input, raw, low, parts, normal, builds⟩ := precompileOf_iff.mp carried
    refine ⟨input, raw, parts, fun _ _ => verified_built builds,
      native.accepts_built normal builds, ?_⟩
    intro token' built' carried'
    obtain ⟨input', raw', low', parts', normal', builds'⟩ := precompileOf_iff.mp carried'
    refine ⟨input', raw', parts', ?_⟩
    rw [built_inj builds builds']
    have forms := normalizeSignature_shared normal raw'
    rw [normal', Except.ok.injEq] at forms
    have range' := (normalizeSignature_iff.mp normal').1
    constructor
    · rintro ⟨rfl, rfl⟩
      exact ⟨rfl, (forms.mp rfl).2⟩
    · rintro ⟨rfl, same⟩
      exact ⟨(forms.mpr ⟨range', same⟩).symm, rfl⟩

end Pipeline

/- A token whose signature has a high `s`: both objects are empty, the secret key is one. -/

def sampleSigner : PublicKey :=
  ⟨3 :: Bytes.toBigEndian 32 0x6b17d1f2e12c4247f8bce6e563a440f277037d812deb33a0f4a13945d898c296,
    by decide⟩

def sampleInput : Bytes := ascii ['e', '3', '0', '.', 'e', '3', '0']

def sampleR : Nat := 0x7cf27b188d034f7e8a52380304b51ac3c08969e277f21b35a60b48fc47669978

def sampleS : Nat := 0xb228551a2f428097b6be2c7ecc2a2d2721d1b623fe01fb49e3ff80be652e1727

def sampleRaw : Signature := ⟨Bytes.toBigEndian 32 sampleR ++ Bytes.toBigEndian 32 sampleS, by decide⟩

def sampleToken : Bytes := sampleInput ++ 0x2e :: encodeBase64Url sampleRaw.bytes

/-- The native program on this token: it knows the one signature and its twin. -/
def sampleNative : NativeProgram where
  verifies key message signature :=
    key == sampleSigner.bytes && message == sampleInput && rOf signature == sampleR &&
      (sOf signature == sampleS || sOf signature + sampleS == order)
  accepts data := (nativeReads data).any fun (key, bytes, message) =>
    (ofBytes bytes).any fun signature => isLowS signature &&
      (key == sampleSigner.bytes && message == sampleInput && rOf signature == sampleR &&
        (sOf signature == sampleS || sOf signature + sampleS == order))
  negated key message signature other range same := by
    obtain ⟨sameR, sameS⟩ := same
    have small := range.s_lt
    have within : sampleS < order := by decide
    rw [sameR]
    congr 1
    rw [Bool.eq_iff_iff]
    simp only [Bool.or_eq_true, beq_iff_eq]
    omega
  reads data key signature message read := by
    rw [read, Option.any_some]
    dsimp only
    rw [ofBytes_iff.mpr rfl, Option.any_some]

/-- The token is built into an instruction that the native program accepts. -/
theorem token_carried_signed : ∃ built,
    precompileOf Engine.ofProgram sampleIds sampleSigner sampleToken = .ok built ∧
      isLowS sampleRaw = false ∧ sampleNative.accepts built.data = true := by
  obtain ⟨accepted, carries⟩ :=
    token_carried Engine.ofProgram sampleIds sampleNative sampleSigner sampleToken
  obtain ⟨built, builds⟩ := accepted.mpr ⟨sampleInput, sampleRaw, rfl, by decide, by decide,
    by decide +kernel, by decide +kernel, by decide +kernel, by decide +kernel⟩
  obtain ⟨input, raw, parts, -, accepts, -⟩ := carries built builds
  have split : splitCompactJws Engine.ofProgram sampleToken = .ok (sampleInput, sampleRaw) :=
    splitCompactJws_iff.mpr ⟨rfl, by decide⟩
  cases parts.symm.trans split
  refine ⟨built, builds, by decide +kernel, ?_⟩
  rw [accepts]
  decide +kernel

end Jws

end Verifier
