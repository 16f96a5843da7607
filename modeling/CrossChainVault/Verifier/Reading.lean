import CrossChainVault.Verifier.Deployment
import CrossChainVault.Verifier.Replay

set_option autoImplicit false

/- Signed bytes have one reading. Base64URL and the fixed-width message are each decoded from exactly
one spelling, and no bytes belong to both profiles. -/

namespace Verifier

open Result
open Protocol (Bytes32)
open Leg (U64 UnixTimestamp)

/- The canonical encoder. -/

/-- `A` to `Z`, `a` to `z`, `0` to `9`, `-`, `_`. -/
def alphabet : Bytes :=
  ascii ['A', 'B', 'C', 'D', 'E', 'F', 'G', 'H', 'I', 'J', 'K', 'L', 'M', 'N', 'O', 'P', 'Q', 'R',
    'S', 'T', 'U', 'V', 'W', 'X', 'Y', 'Z', 'a', 'b', 'c', 'd', 'e', 'f', 'g', 'h', 'i', 'j', 'k',
    'l', 'm', 'n', 'o', 'p', 'q', 'r', 's', 't', 'u', 'v', 'w', 'x', 'y', 'z', '0', '1', '2', '3',
    '4', '5', '6', '7', '8', '9', '-', '_']

/-- The symbol of the low six bits. -/
def symbolOf (value : Nat) : UInt8 := alphabet.getD (value % 64) 0

/-- The symbols of a chunk of up to three bytes, one more than there are bytes. The word is padded
with zeros on the right. -/
def encodeChunk : Bytes → Bytes
  | [a, b, c] =>
      let word := a.toNat * 2 ^ 16 + b.toNat * 2 ^ 8 + c.toNat
      [symbolOf (word / 2 ^ 18), symbolOf (word / 2 ^ 12), symbolOf (word / 2 ^ 6), symbolOf word]
  | [a, b] =>
      let word := a.toNat * 2 ^ 16 + b.toNat * 2 ^ 8
      [symbolOf (word / 2 ^ 18), symbolOf (word / 2 ^ 12), symbolOf (word / 2 ^ 6)]
  | [a] =>
      let word := a.toNat * 2 ^ 16
      [symbolOf (word / 2 ^ 18), symbolOf (word / 2 ^ 12)]
  | _ => []

/-- Unpadded Base64URL. -/
def encodeBase64Url : Bytes → Bytes
  | a :: b :: c :: rest => encodeChunk [a, b, c] ++ encodeBase64Url rest
  | chunk => encodeChunk chunk

theorem encodeChunk_one (a : UInt8) : encodeChunk [a] =
    [symbolOf (a.toNat * 2 ^ 16 / 2 ^ 18), symbolOf (a.toNat * 2 ^ 16 / 2 ^ 12)] := rfl

theorem encodeChunk_two (a b : UInt8) : encodeChunk [a, b] =
    [symbolOf ((a.toNat * 2 ^ 16 + b.toNat * 2 ^ 8) / 2 ^ 18),
     symbolOf ((a.toNat * 2 ^ 16 + b.toNat * 2 ^ 8) / 2 ^ 12),
     symbolOf ((a.toNat * 2 ^ 16 + b.toNat * 2 ^ 8) / 2 ^ 6)] := rfl

theorem encodeChunk_three (a b c : UInt8) : encodeChunk [a, b, c] =
    [symbolOf ((a.toNat * 2 ^ 16 + b.toNat * 2 ^ 8 + c.toNat) / 2 ^ 18),
     symbolOf ((a.toNat * 2 ^ 16 + b.toNat * 2 ^ 8 + c.toNat) / 2 ^ 12),
     symbolOf ((a.toNat * 2 ^ 16 + b.toNat * 2 ^ 8 + c.toNat) / 2 ^ 6),
     symbolOf (a.toNat * 2 ^ 16 + b.toNat * 2 ^ 8 + c.toNat)] := rfl

theorem encodeBase64Url_cons (a b c : UInt8) (rest : Bytes) :
    encodeBase64Url (a :: b :: c :: rest) = encodeChunk [a, b, c] ++ encodeBase64Url rest := rfl

/-- The encoder takes bytes three at a time. -/
theorem threes_induction {motive : Bytes → Prop} (nil : motive []) (one : ∀ a, motive [a])
    (two : ∀ a b, motive [a, b])
    (three : ∀ a b c rest, motive rest → motive (a :: b :: c :: rest)) (bytes : Bytes) :
    motive bytes := by
  induction size : bytes.length using Nat.strong_induction_on generalizing bytes with
  | _ n ih =>
      rcases bytes with _ | ⟨a, _ | ⟨b, _ | ⟨c, rest⟩⟩⟩
      · exact nil
      · exact one a
      · exact two a b
      · apply three
        apply ih rest.length _ rest rfl
        simp only [List.length_cons] at size
        omega

/- One symbol. -/

theorem symbolOf_mod (value : Nat) : symbolOf (value % 64) = symbolOf value := by
  rw [symbolOf, symbolOf, Nat.mod_mod]

theorem symbolOf_congr {value other : Nat} (same : value % 64 = other % 64) :
    symbolOf value = symbolOf other := by
  rw [symbolOf, symbolOf, same]

/-- The alphabet, read back symbol by symbol. No symbol is the separator or the version byte of the
other profile, and no other byte is read. -/
theorem alphabet_table :
    (∀ low < 64, (sextet (symbolOf low)).toOption = some low ∧
      symbolOf low ≠ 0x2e ∧ symbolOf low ≠ deploymentProfileVersion) ∧
    ∀ code < 256, (sextet (UInt8.ofNat code)).toOption.all
      (fun low => low < 64 && symbolOf low == UInt8.ofNat code) = true := by
  decide +kernel

theorem sextet_symbolOf (value : Nat) : sextet (symbolOf value) = .ok (value % 64) := by
  have found := (alphabet_table.1 (value % 64) (Nat.mod_lt value (by decide))).1
  rw [symbolOf_mod] at found
  cases read : sextet (symbolOf value) with
  | error failure => rw [read] at found; cases found
  | ok low => rw [read] at found; cases found; rfl

theorem symbolOf_ne_dot (value : Nat) : symbolOf value ≠ 0x2e := by
  rw [← symbolOf_mod]
  exact (alphabet_table.1 _ (Nat.mod_lt value (by decide))).2.1

theorem symbolOf_ne_version (value : Nat) : symbolOf value ≠ deploymentProfileVersion := by
  rw [← symbolOf_mod]
  exact (alphabet_table.1 _ (Nat.mod_lt value (by decide))).2.2

/-- A symbol is read only as the six bits it stands for. -/
theorem sextet_ok {symbol : UInt8} {value : Nat} (read : sextet symbol = .ok value) :
    value < 64 ∧ symbolOf value = symbol := by
  have found := alphabet_table.2 symbol.toNat symbol.toNat_lt
  rw [UInt8.ofNat_toNat, read] at found
  simpa [Except.toOption] using found

/- One chunk. -/

theorem ofNat_eq_byte {value : Nat} {byte : UInt8} (same : value % 256 = byte.toNat) :
    UInt8.ofNat value = byte := by
  apply UInt8.toNat_inj.mp
  rw [UInt8.toNat_ofNat', same]

/-- The three sizes of chunk that are read, each with its unused bits zero. -/
theorem decodeChunk_sizes {chunk : Bytes} :
    (∀ s t, decodeChunk [s, t] = .ok chunk ↔ ∃ x, sextet s = .ok x ∧ ∃ y, sextet t = .ok y ∧
      ¬(x * 2 ^ 18 + y * 2 ^ 12) % 2 ^ 16 ≠ 0 ∧
      [UInt8.ofNat ((x * 2 ^ 18 + y * 2 ^ 12) / 2 ^ 16)] = chunk) ∧
    (∀ s t u, decodeChunk [s, t, u] = .ok chunk ↔ ∃ x, sextet s = .ok x ∧ ∃ y, sextet t = .ok y ∧
      ∃ z, sextet u = .ok z ∧ ¬(x * 2 ^ 18 + y * 2 ^ 12 + z * 2 ^ 6) % 2 ^ 8 ≠ 0 ∧
      [UInt8.ofNat ((x * 2 ^ 18 + y * 2 ^ 12 + z * 2 ^ 6) / 2 ^ 16),
       UInt8.ofNat ((x * 2 ^ 18 + y * 2 ^ 12 + z * 2 ^ 6) / 2 ^ 8)] = chunk) ∧
    ∀ s t u v, decodeChunk [s, t, u, v] = .ok chunk ↔ ∃ x, sextet s = .ok x ∧
      ∃ y, sextet t = .ok y ∧ ∃ z, sextet u = .ok z ∧ ∃ w, sextet v = .ok w ∧
      [UInt8.ofNat ((x * 2 ^ 18 + y * 2 ^ 12 + z * 2 ^ 6 + w) / 2 ^ 16),
       UInt8.ofNat ((x * 2 ^ 18 + y * 2 ^ 12 + z * 2 ^ 6 + w) / 2 ^ 8),
       UInt8.ofNat (x * 2 ^ 18 + y * 2 ^ 12 + z * 2 ^ 6 + w)] = chunk := by
  refine ⟨?_, ?_, ?_⟩
  · intro s t
    simp only [decodeChunk, bind_eq_ok, rejectIf_eq_ok, pure_eq_ok, exists_const]
  · intro s t u
    simp only [decodeChunk, bind_eq_ok, rejectIf_eq_ok, pure_eq_ok, exists_const]
  · intro s t u v
    simp only [decodeChunk, bind_eq_ok, pure_eq_ok]

theorem decodeChunk_one (a : UInt8) : decodeChunk (encodeChunk [a]) = .ok [a] := by
  have := a.toNat_lt
  simp only [encodeChunk_one, decodeChunk_sizes, sextet_symbolOf, Except.ok.injEq, exists_eq_left']
  refine ⟨by omega, ?_⟩
  congr 1
  apply ofNat_eq_byte
  omega

theorem decodeChunk_two (a b : UInt8) : decodeChunk (encodeChunk [a, b]) = .ok [a, b] := by
  have := a.toNat_lt
  have := b.toNat_lt
  simp only [encodeChunk_two, decodeChunk_sizes, sextet_symbolOf, Except.ok.injEq, exists_eq_left']
  refine ⟨by omega, ?_⟩
  congr 2
  · apply ofNat_eq_byte
    omega
  · apply ofNat_eq_byte
    omega

theorem decodeChunk_three (a b c : UInt8) :
    decodeChunk (encodeChunk [a, b, c]) = .ok [a, b, c] := by
  have := a.toNat_lt
  have := b.toNat_lt
  have := c.toNat_lt
  simp only [encodeChunk_three, decodeChunk_sizes, sextet_symbolOf, Except.ok.injEq,
    exists_eq_left']
  congr 3
  · apply ofNat_eq_byte
    omega
  · apply ofNat_eq_byte
    omega
  · apply ofNat_eq_byte
    omega

/-- What a chunk is read as spells it again, with one byte less than there are symbols. -/
theorem decodeChunk_ok {symbols chunk : Bytes} (read : decodeChunk symbols = .ok chunk) :
    encodeChunk chunk = symbols ∧ chunk.length + 1 = symbols.length := by
  rcases symbols with _ | ⟨s, _ | ⟨t, _ | ⟨u, _ | ⟨v, _ | ⟨_, _⟩⟩⟩⟩⟩
  · cases read
  · cases read
  · obtain ⟨x, readS, y, readT, zeros, rfl⟩ := (decodeChunk_sizes.1 s t).mp read
    obtain ⟨smallX, rfl⟩ := sextet_ok readS
    obtain ⟨smallY, rfl⟩ := sextet_ok readT
    refine ⟨?_, rfl⟩
    simp only [encodeChunk_one, UInt8.toNat_ofNat', List.cons.injEq, and_true]
    refine ⟨?_, ?_⟩
    · apply symbolOf_congr
      omega
    · apply symbolOf_congr
      omega
  · obtain ⟨x, readS, y, readT, z, readU, zeros, rfl⟩ := (decodeChunk_sizes.2.1 s t u).mp read
    obtain ⟨smallX, rfl⟩ := sextet_ok readS
    obtain ⟨smallY, rfl⟩ := sextet_ok readT
    obtain ⟨smallZ, rfl⟩ := sextet_ok readU
    refine ⟨?_, rfl⟩
    simp only [encodeChunk_two, UInt8.toNat_ofNat', List.cons.injEq, and_true]
    refine ⟨?_, ?_, ?_⟩
    · apply symbolOf_congr
      omega
    · apply symbolOf_congr
      omega
    · apply symbolOf_congr
      omega
  · obtain ⟨x, readS, y, readT, z, readU, w, readV, rfl⟩ := (decodeChunk_sizes.2.2 s t u v).mp read
    obtain ⟨smallX, rfl⟩ := sextet_ok readS
    obtain ⟨smallY, rfl⟩ := sextet_ok readT
    obtain ⟨smallZ, rfl⟩ := sextet_ok readU
    obtain ⟨smallW, rfl⟩ := sextet_ok readV
    refine ⟨?_, rfl⟩
    simp only [encodeChunk_three, UInt8.toNat_ofNat', List.cons.injEq, and_true]
    refine ⟨?_, ?_, ?_, ?_⟩
    · apply symbolOf_congr
      omega
    · apply symbolOf_congr
      omega
    · apply symbolOf_congr
      omega
    · apply symbolOf_congr
      omega
  · cases read

/- The whole text. -/

theorem encodeChunk_symbols {chunk : Bytes} {symbol : UInt8} (inside : symbol ∈ encodeChunk chunk) :
    ∃ value, symbol = symbolOf value := by
  rcases chunk with _ | ⟨a, _ | ⟨b, _ | ⟨c, _ | ⟨_, _⟩⟩⟩⟩
  · cases inside
  · rw [encodeChunk_one] at inside
    simp only [List.mem_cons, List.not_mem_nil, or_false] at inside
    grind
  · rw [encodeChunk_two] at inside
    simp only [List.mem_cons, List.not_mem_nil, or_false] at inside
    grind
  · rw [encodeChunk_three] at inside
    simp only [List.mem_cons, List.not_mem_nil, or_false] at inside
    grind
  · cases inside

/-- Every byte of an encoding is a symbol. -/
theorem encodeBase64Url_symbols (bytes : Bytes) :
    ∀ symbol ∈ encodeBase64Url bytes, ∃ value, symbol = symbolOf value := by
  induction bytes using threes_induction with
  | nil => exact fun _ inside => encodeChunk_symbols inside
  | one a => exact fun _ inside => encodeChunk_symbols inside
  | two a b => exact fun _ inside => encodeChunk_symbols inside
  | three a b c rest ih =>
      intro symbol inside
      rw [encodeBase64Url_cons, List.mem_append] at inside
      rcases inside with inside | inside
      · exact encodeChunk_symbols inside
      · exact ih symbol inside

theorem decodeChunks_cons (s t u v : UInt8) (rest : Bytes) :
    decodeChunks (s :: t :: u :: v :: rest) = (do
      let first ← decodeChunk [s, t, u, v]
      let others ← decodeChunks rest
      pure (first ++ others)) := rfl

theorem decodeChunks_encodeBase64Url (bytes : Bytes) :
    decodeChunks (encodeBase64Url bytes) = .ok bytes := by
  induction bytes using threes_induction with
  | nil => rfl
  | one a => exact decodeChunk_one a
  | two a b => exact decodeChunk_two a b
  | three a b c rest ih =>
      have first := decodeChunk_three a b c
      rw [encodeBase64Url_cons, encodeChunk_three, List.cons_append, List.cons_append,
        List.cons_append, List.cons_append, List.nil_append, decodeChunks_cons]
      rw [encodeChunk_three] at first
      rw [first, ih]
      rfl

theorem length_encodeBase64Url (bytes : Bytes) : (encodeBase64Url bytes).length % 4 ≠ 1 := by
  induction bytes using threes_induction with
  | nil => decide
  | one a => exact Nat.succ_ne_self 1
  | two a b => exact Nat.succ_succ_ne_one 1
  | three a b c rest ih =>
      rw [encodeBase64Url_cons, List.length_append, encodeChunk_three]
      simp only [List.length_cons, List.length_nil]
      omega

/-- What is read spells the text again. -/
theorem decodeChunks_ok {symbols bytes : Bytes} (read : decodeChunks symbols = .ok bytes) :
    encodeBase64Url bytes = symbols := by
  induction symbols using decodeChunks.induct generalizing bytes with
  | case1 s t u v rest ih =>
      simp only [decodeChunks_cons, bind_eq_ok, pure_eq_ok] at read
      obtain ⟨first, readFirst, others, readOthers, rfl⟩ := read
      obtain ⟨again, size⟩ := decodeChunk_ok readFirst
      obtain ⟨a, b, c, rfl⟩ := List.length_eq_three.mp (Nat.succ_inj.mp size)
      rw [List.cons_append, List.cons_append, List.cons_append, List.nil_append,
        encodeBase64Url_cons, again, ih readOthers]
      rfl
  | case2 =>
      cases read
      rfl
  | case3 chunk long some =>
      rw [decodeChunks] at read
      · obtain ⟨again, size⟩ := decodeChunk_ok read
        -- Four symbols would have been taken as a group of their own.
        have short : bytes.length < 3 := by
          rcases chunk with _ | ⟨s, _ | ⟨t, _ | ⟨u, _ | ⟨v, rest⟩⟩⟩⟩
          · simp at size
          · simp only [List.length_cons, List.length_nil] at size
            omega
          · simp only [List.length_cons, List.length_nil] at size
            omega
          · simp only [List.length_cons, List.length_nil] at size
            omega
          · exact absurd rfl (long s t u v rest)
        rw [encodeBase64Url]
        · exact again
        · rintro a b c rest rfl
          simp only [List.length_cons] at short
          omega
      · exact long
      · exact some

/-- Decoding is the exact inverse of the canonical encoder. -/
theorem decodeBase64Url_iff {text bytes : Bytes} :
    decodeBase64Url text = .ok bytes ↔ text = encodeBase64Url bytes := by
  simp only [decodeBase64Url, bind_eq_ok, rejectIf_eq_ok, exists_const]
  constructor
  · rintro ⟨-, read⟩
    exact (decodeChunks_ok read).symm
  · rintro rfl
    exact ⟨length_encodeBase64Url bytes, decodeChunks_encodeBase64Url bytes⟩

theorem encodeBase64Url_eq_nil {bytes : Bytes} : encodeBase64Url bytes = [] ↔ bytes = [] := by
  constructor
  · intro empty
    have read := decodeChunks_encodeBase64Url bytes
    rw [empty] at read
    cases read
    rfl
  · rintro rfl
    rfl

/- Two segments. -/

section Segments

variable {separator : UInt8}

theorem splitOn_separator (rest : Bytes) :
    splitOn separator (separator :: rest) = [] :: splitOn separator rest := if_pos rfl

theorem splitOn_other {byte : UInt8} {rest segment : Bytes} {others : List Bytes}
    (other : byte ≠ separator) (parts : splitOn separator rest = segment :: others) :
    splitOn separator (byte :: rest) = (byte :: segment) :: others := by
  apply (if_neg other).trans
  rw [parts]

theorem splitOn_of_not_mem {bytes : Bytes} (absent : separator ∉ bytes) :
    splitOn separator bytes = [bytes] := by
  induction bytes with
  | nil => rfl
  | cons byte rest ih =>
      rw [List.mem_cons, not_or] at absent
      exact splitOn_other (Ne.symm absent.1) (ih absent.2)

theorem splitOn_append {head : Bytes} (rest : Bytes) (absent : separator ∉ head) :
    splitOn separator (head ++ separator :: rest) = head :: splitOn separator rest := by
  induction head with
  | nil => exact splitOn_separator rest
  | cons byte head ih =>
      rw [List.mem_cons, not_or] at absent
      exact splitOn_other (Ne.symm absent.1) (ih absent.2)

theorem splitOn_ne_nil (bytes : Bytes) : splitOn separator bytes ≠ [] := by
  induction bytes with
  | nil => exact List.cons_ne_nil _ _
  | cons byte rest ih =>
      by_cases same : byte = separator
      · rw [same, splitOn_separator]
        exact List.cons_ne_nil _ _
      · obtain ⟨segment, others, parts⟩ := List.exists_cons_of_ne_nil ih
        rw [splitOn_other same parts]
        exact List.cons_ne_nil _ _

theorem splitOn_cons_of_ne {byte : UInt8} {rest segment : Bytes} {others : List Bytes}
    (other : byte ≠ separator) (parts : splitOn separator (byte :: rest) = segment :: others) :
    ∃ tail, segment = byte :: tail ∧ splitOn separator rest = tail :: others := by
  obtain ⟨tail, more, inner⟩ := List.exists_cons_of_ne_nil (splitOn_ne_nil rest)
  rw [splitOn_other other inner, List.cons.injEq] at parts
  exact ⟨tail, parts.1.symm, by rw [inner, parts.2]⟩

theorem eq_of_splitOn_singleton {bytes segment : Bytes}
    (parts : splitOn separator bytes = [segment]) : bytes = segment := by
  induction bytes generalizing segment with
  | nil =>
      exact (List.cons.inj parts).1
  | cons byte rest ih =>
      by_cases same : byte = separator
      · rw [same, splitOn_separator, List.cons.injEq] at parts
        exact absurd parts.2 (splitOn_ne_nil rest)
      · obtain ⟨tail, rfl, inner⟩ := splitOn_cons_of_ne same parts
        rw [ih inner]

theorem eq_of_splitOn_pair {bytes head tail : Bytes}
    (parts : splitOn separator bytes = [head, tail]) : bytes = head ++ separator :: tail := by
  induction bytes generalizing head with
  | nil => cases parts
  | cons byte rest ih =>
      by_cases same : byte = separator
      · rw [same, splitOn_separator, List.cons.injEq] at parts
        rw [← parts.1, same, eq_of_splitOn_singleton parts.2]
        rfl
      · obtain ⟨before, rfl, inner⟩ := splitOn_cons_of_ne same parts
        rw [ih inner]
        rfl

end Segments

theorem dot_not_mem_encodeBase64Url (bytes : Bytes) : 0x2e ∉ encodeBase64Url bytes := by
  intro inside
  obtain ⟨value, same⟩ := encodeBase64Url_symbols bytes _ inside
  exact symbolOf_ne_dot value same.symm

theorem decodeSigningInput_iff {signingInput : Bytes} {decoded : DecodedSigningInput} :
    decodeSigningInput signingInput = .ok decoded ↔
      decoded.headerJson ≠ [] ∧ decoded.payloadJson ≠ [] ∧
      signingInput =
        encodeBase64Url decoded.headerJson ++ 0x2e :: encodeBase64Url decoded.payloadJson := by
  constructor
  · intro read
    rw [decodeSigningInput] at read
    split at read
    · rename_i header payload parts
      simp only [bind_eq_ok, rejectIf_eq_ok, exists_const, pure_eq_ok, not_or, List.isEmpty_iff,
        decodeBase64Url_iff] at read
      obtain ⟨⟨someHeader, somePayload⟩, headerJson, rfl, payloadJson, rfl, rfl⟩ := read
      rw [encodeBase64Url_eq_nil] at someHeader somePayload
      exact ⟨someHeader, somePayload, eq_of_splitOn_pair parts⟩
    · cases read
  · rintro ⟨someHeader, somePayload, rfl⟩
    have parts := splitOn_append (encodeBase64Url decoded.payloadJson)
      (dot_not_mem_encodeBase64Url decoded.headerJson)
    rw [splitOn_of_not_mem (dot_not_mem_encodeBase64Url decoded.payloadJson)] at parts
    rw [decodeSigningInput, parts]
    simp only [bind_eq_ok, rejectIf_eq_ok, exists_const, pure_eq_ok, not_or, List.isEmpty_iff,
      decodeBase64Url_iff, encodeBase64Url_eq_nil]
    exact ⟨⟨someHeader, somePayload⟩, decoded.headerJson, rfl, decoded.payloadJson, rfl, rfl⟩

/-- Every byte of a signing input is a symbol or the separator. -/
theorem decodeSigningInput_bytes {signingInput : Bytes} {decoded : DecodedSigningInput}
    (read : decodeSigningInput signingInput = .ok decoded) :
    ∀ byte ∈ signingInput, byte = 0x2e ∨ ∃ value, byte = symbolOf value := by
  obtain ⟨-, -, rfl⟩ := decodeSigningInput_iff.mp read
  intro byte inside
  rw [List.mem_append, List.mem_cons] at inside
  rcases inside with header | rfl | payload
  · exact .inr (encodeBase64Url_symbols _ byte header)
  · exact .inl rfl
  · exact .inr (encodeBase64Url_symbols _ byte payload)

/- The fixed-width message. -/

theorem take_iff {width : Nat} {cursor head rest : Bytes} :
    Reader.take width cursor = .ok (head, rest) ↔ cursor = head ++ rest ∧ head.length = width := by
  simp only [Reader.take, bind_eq_ok, rejectIf_eq_ok, exists_const, pure_eq_ok, Prod.mk.injEq,
    Nat.not_lt]
  constructor
  · rintro ⟨enough, rfl, rfl⟩
    exact ⟨(List.take_append_drop width cursor).symm, List.length_take_of_le enough⟩
  · rintro ⟨rfl, rfl⟩
    simp

/-- A reader of one width that gives back what the writer of that width wrote, and only that. -/
structure FieldCodec {α : Type} (width : Nat) (write : α → Bytes) (read : Bytes → α) : Prop where
  sized : ∀ value, (write value).length = width
  read_write : ∀ value, read (write value) = value
  write_read : ∀ bytes, bytes.length = width → write (read bytes) = bytes

section FieldCodec

variable {α : Type} {width : Nat} {write : α → Bytes} {read : Bytes → α}

theorem FieldCodec.inj (codec : FieldCodec width write read) {value other : α} :
    write value = write other ↔ value = other := by
  constructor
  · intro same
    rw [← codec.read_write value, same, codec.read_write other]
  · rintro rfl
    rfl

theorem FieldCodec.append_eq_append (codec : FieldCodec width write read) {value other : α}
    {rest rest' : Bytes} :
    write value ++ rest = write other ++ rest' ↔ value = other ∧ rest = rest' := by
  constructor
  · intro same
    have sizes : (write value).length = (write other).length := by
      rw [codec.sized, codec.sized]
    obtain ⟨first, second⟩ := List.append_inj same sizes
    exact ⟨codec.inj.mp first, second⟩
  · rintro ⟨rfl, rfl⟩
    rfl

end FieldCodec

theorem mod_fromBigEndian {bytes : Bytes} {width : Nat} (sized : bytes.length = width) :
    Bytes.fromBigEndian bytes % 2 ^ (8 * width) = Bytes.fromBigEndian bytes := by
  apply Nat.mod_eq_of_lt
  rw [← sized]
  exact Bytes.fromBigEndian_lt bytes

theorem fromBigEndian_toBigEndian_mod {width n : Nat} (fits : n < 2 ^ (8 * width)) :
    Bytes.fromBigEndian (Bytes.toBigEndian width n) % 2 ^ (8 * width) = n := by
  rw [Bytes.fromBigEndian_toBigEndian width n fits, Nat.mod_eq_of_lt fits]

theorem toBigEndian_mod {bytes : Bytes} {width : Nat} (sized : bytes.length = width) :
    Bytes.toBigEndian width (Bytes.fromBigEndian bytes % 2 ^ (8 * width)) = bytes := by
  rw [mod_fromBigEndian sized, ← sized, Bytes.toBigEndian_fromBigEndian]

theorem wide_codec : FieldCodec 32 wide readWide where
  sized := length_wide
  read_write value := Unsigned.ext (fromBigEndian_toBigEndian_mod value.bound)
  write_read _ sized := toBigEndian_mod sized

theorem nonce_codec : FieldCodec 16 nonceBytes readNonce where
  sized nonce := Bytes.length_toBigEndian 16 nonce.raw
  read_write nonce := Unsigned.ext (fromBigEndian_toBigEndian_mod nonce.bound)
  write_read _ sized := toBigEndian_mod sized

theorem u64_codec : FieldCodec 8 littleEndian64 readU64 where
  sized value := by rw [littleEndian64, List.length_reverse, Bytes.length_toBigEndian]
  read_write value := by
    apply Unsigned.ext
    have read := fromBigEndian_toBigEndian_mod (show value.raw < 2 ^ (8 * 8) from value.bound)
    rw [← List.reverse_reverse (Bytes.toBigEndian 8 value.raw)] at read
    exact read
  write_read bytes sized := by
    have again := toBigEndian_mod (List.length_reverse.trans sized)
    exact List.reverse_eq_iff.mpr again

/-- The signed reading of sixty-four bits. -/
theorem twosComplement_readTime (bytes : Bytes) : twosComplement (readTime bytes) = readU64 bytes := by
  have bound := (readU64 bytes).bound
  apply Unsigned.ext
  rw [twosComplement, readTime]
  split
  · show ((readU64 bytes).raw % 2 ^ 64 : Int).toNat = _
    omega
  · show (((readU64 bytes).raw - 2 ^ 64) % 2 ^ 64 : Int).toNat = _
    omega

theorem time_codec :
    FieldCodec 8 (fun time => littleEndian64 (twosComplement time)) readTime where
  sized time := u64_codec.sized _
  read_write time := by
    have lower := time.lower
    have upper := time.upper
    have raw : (readU64 (littleEndian64 (twosComplement time))).raw =
        (time.seconds % 2 ^ 64).toNat := by
      rw [u64_codec.read_write]
      rfl
    apply UnixTimestamp.ext
    rw [readTime]
    split
    · show ((readU64 (littleEndian64 (twosComplement time))).raw : Int) = time.seconds
      omega
    · show ((readU64 (littleEndian64 (twosComplement time))).raw : Int) - 2 ^ 64 = time.seconds
      omega
  write_read bytes sized := by
    rw [twosComplement_readTime, u64_codec.write_read bytes sized]

theorem length_encode (message : DeploymentAuthorization) : message.encode.length = messageLen := by
  simp only [DeploymentAuthorization.encode, List.length_append, wide_codec.sized, u64_codec.sized,
    nonce_codec.sized]
  rfl

/-- The message is read from its own bytes and from no others. -/
theorem decode_iff {bytes : Bytes} {message : DeploymentAuthorization} :
    DeploymentAuthorization.decode bytes = .ok message ↔ bytes = message.encode := by
  simp only [DeploymentAuthorization.decode, bind_eq_ok, rejectIf_eq_ok, exists_const, Prod.exists,
    take_iff, pure_eq_ok, Decidable.not_not]
  constructor
  · rintro ⟨total, head, _, ⟨rfl, _⟩, rfl, version, _, ⟨rfl, _⟩, rfl, operation, _, ⟨rfl, _⟩, rfl,
      authority, _, ⟨rfl, sizeAuthority⟩, networkDomain, _, ⟨rfl, sizeDomain⟩,
      policyGeneration, _, ⟨rfl, sizeGeneration⟩, deploymentContext, _, ⟨rfl, sizeContext⟩,
      amount, _, ⟨rfl, sizeAmount⟩, nonce, _, ⟨rfl, sizeNonce⟩, issuedAt, _, ⟨rfl, sizeIssued⟩,
      expiresAt, trailing, ⟨rfl, sizeExpires⟩, rfl⟩
    -- The fields fill the message, so nothing trails.
    have nothing : trailing = [] := by
      apply List.eq_nil_of_length_eq_zero
      simp only [List.length_append, sizeAuthority, sizeDomain, sizeGeneration, sizeContext,
        sizeAmount, sizeNonce, sizeIssued, sizeExpires, messageLen] at total
      have first : magic.length = 8 := rfl
      simp only [List.length_singleton] at total
      omega
    rw [nothing, List.append_nil, DeploymentAuthorization.encode]
    simp only [wide_codec.write_read _ sizeAuthority, wide_codec.write_read _ sizeDomain,
      u64_codec.write_read _ sizeGeneration, wide_codec.write_read _ sizeContext,
      u64_codec.write_read _ sizeAmount, nonce_codec.write_read _ sizeNonce,
      time_codec.write_read _ sizeIssued, time_codec.write_read _ sizeExpires]
  · rintro rfl
    refine ⟨length_encode message, magic, _, ⟨rfl, rfl⟩, rfl, _, _, ⟨rfl, rfl⟩, rfl, _, _,
      ⟨rfl, rfl⟩, rfl, _, _, ⟨rfl, wide_codec.sized _⟩, _, _, ⟨rfl, wide_codec.sized _⟩,
      _, _, ⟨rfl, u64_codec.sized _⟩, _, _, ⟨rfl, wide_codec.sized _⟩, _, _,
      ⟨rfl, u64_codec.sized _⟩, _, _, ⟨rfl, nonce_codec.sized _⟩, _, _, ⟨rfl, time_codec.sized _⟩,
      _, [], ⟨(List.append_nil _).symm, time_codec.sized _⟩, ?_⟩
    rw [wide_codec.read_write, wide_codec.read_write, u64_codec.read_write, wide_codec.read_write,
      u64_codec.read_write, nonce_codec.read_write, time_codec.read_write, time_codec.read_write]

/-- No bytes are a signing input and a deployment message at once. -/
theorem profiles_disjoint (bytes : Bytes) :
    ¬(Succeeds (decodeSigningInput bytes) ∧ Succeeds (DeploymentAuthorization.decode bytes)) := by
  rintro ⟨⟨decoded, first⟩, message, second⟩
  have inside : deploymentProfileVersion ∈ bytes := by
    rw [decode_iff.mp second, DeploymentAuthorization.encode, List.mem_append]
    exact .inr List.mem_cons_self
  rcases decodeSigningInput_bytes first _ inside with dot | ⟨value, symbol⟩
  · exact absurd dot (by decide)
  · exact symbolOf_ne_version value symbol.symm

/- The context. -/

/-- Every field of the context is fixed width, so its concatenation has one reading. -/
theorem bytes_injective (verifier : Pubkey) : Function.Injective (DeploymentContext.bytes verifier) := by
  intro context other same
  simp only [DeploymentContext.bytes, List.append_cancel_left_eq, wide_codec.append_eq_append,
    u64_codec.append_eq_append, u64_codec.inj, true_and] at same
  cases context
  cases other
  rw [DeploymentContext.mk.injEq]
  exact same

/-- Signed bytes have exactly one reading, in exactly one profile. -/
theorem signed_bytes_read_once (verifier : Pubkey) (bytes : Bytes) :
    (∀ decoded, decodeBase64Url bytes = .ok decoded ↔ bytes = encodeBase64Url decoded) ∧
    (∀ decoded, decodeSigningInput bytes = .ok decoded ↔
      decoded.headerJson ≠ [] ∧ decoded.payloadJson ≠ [] ∧
      bytes =
        encodeBase64Url decoded.headerJson ++ 0x2e :: encodeBase64Url decoded.payloadJson) ∧
    (∀ message, DeploymentAuthorization.decode bytes = .ok message ↔ bytes = message.encode) ∧
    ¬(Succeeds (decodeSigningInput bytes) ∧ Succeeds (DeploymentAuthorization.decode bytes)) ∧
    Function.Injective (DeploymentContext.bytes verifier) :=
  ⟨fun _ => decodeBase64Url_iff, fun _ => decodeSigningInput_iff, fun _ => decode_iff,
    profiles_disjoint bytes, bytes_injective verifier⟩

end Verifier
