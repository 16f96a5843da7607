import CrossChainVault.Base.Result
import CrossChainVault.Verifier.State

set_option autoImplicit false

/- Strict parser for the one compact-JWS verdict profile this program accepts. The grammar is a
subset of JSON: objects, strings of printable ASCII with no escapes, and unsigned decimal numbers.
A cursor is what is left of the document. -/

namespace Verifier

open Result
open Leg (U64 UnixTimestamp)

/-- `9999-12-31T23:59:59Z`. -/
def maxTimestamp : Nat := 253402300799

def amountScaleDigits : Nat := 6

def amountScale : U64 := 1000000

def maxAmountIntegerDigits : Nat := 13

def maxTimestampDigits : Nat := 12

structure JwtHeader where
  kid : Bytes
deriving DecidableEq

structure Request where
  agent : Bytes
  amountMicros : U64
  currency : Bytes
  recipient : Bytes
  category : Bytes
deriving DecidableEq

structure Claims where
  iss : Bytes
  jti : Bytes
  iat : UnixTimestamp
  exp : UnixTimestamp
  verdict : Bytes
  mandate : Bytes
  policyVersion : Bytes
  nonce : Bytes
  request : Request
deriving DecidableEq

/-- The two decoded JSON documents of a compact-JWS signing input. -/
structure DecodedSigningInput where
  headerJson : Bytes
  payloadJson : Bytes
deriving DecidableEq

/- Base64URL. -/

def sextet (symbol : UInt8) : Except VerifierError Nat :=
  let code := symbol.toNat
  if 0x41 ≤ code ∧ code ≤ 0x5a then .ok (code - 0x41)
  else if 0x61 ≤ code ∧ code ≤ 0x7a then .ok (code - 0x61 + 26)
  else if 0x30 ≤ code ∧ code ≤ 0x39 then .ok (code - 0x30 + 52)
  else if code = 0x2d then .ok 62
  else if code = 0x5f then .ok 63
  else .error .invalidBase64Url

/-- The bytes of one chunk of up to four symbols. The unused trailing bits have to be zero. -/
def decodeChunk : Bytes → Except VerifierError Bytes
  | [a, b, c, d] => do
      let word := (← sextet a) * 2 ^ 18 + (← sextet b) * 2 ^ 12 + (← sextet c) * 2 ^ 6 + (← sextet d)
      pure [UInt8.ofNat (word / 2 ^ 16), UInt8.ofNat (word / 2 ^ 8), UInt8.ofNat word]
  | [a, b, c] => do
      let word := (← sextet a) * 2 ^ 18 + (← sextet b) * 2 ^ 12 + (← sextet c) * 2 ^ 6
      rejectIf (word % 2 ^ 8 ≠ 0) .invalidBase64Url
      pure [UInt8.ofNat (word / 2 ^ 16), UInt8.ofNat (word / 2 ^ 8)]
  | [a, b] => do
      let word := (← sextet a) * 2 ^ 18 + (← sextet b) * 2 ^ 12
      rejectIf (word % 2 ^ 16 ≠ 0) .invalidBase64Url
      pure [UInt8.ofNat (word / 2 ^ 16)]
  | _ => .error .invalidBase64Url

/-- Chunk by chunk. -/
def decodeChunks : Bytes → Except VerifierError Bytes
  | a :: b :: c :: d :: rest => do
      let first ← decodeChunk [a, b, c, d]
      let others ← decodeChunks rest
      pure (first ++ others)
  | [] => pure []
  | chunk => decodeChunk chunk

/-- Unpadded Base64URL whose unused trailing bits are zero, so every byte string has exactly one
accepted encoding. -/
def decodeBase64Url (input : Bytes) : Except VerifierError Bytes := do
  rejectIf (input.length % 4 = 1) .invalidBase64Url
  decodeChunks input

/-- The segments between separators, one more than there are separators. -/
def splitOn (separator : UInt8) : Bytes → List Bytes
  | [] => [[]]
  | byte :: rest =>
      if byte = separator then [] :: splitOn separator rest
      else
        match splitOn separator rest with
        | [] => [[byte]]
        | segment :: others => (byte :: segment) :: others

/-- Splits `BASE64URL(header) "." BASE64URL(payload)` without altering it. -/
def decodeSigningInput (signingInput : Bytes) : Except VerifierError DecodedSigningInput := do
  match splitOn 0x2e signingInput with
  | [header, payload] => do
      rejectIf (header.isEmpty ∨ payload.isEmpty) .malformedSigningInput
      let headerJson ← decodeBase64Url header
      let payloadJson ← decodeBase64Url payload
      pure { headerJson, payloadJson }
  | _ => .error .malformedSigningInput

/- Numbers. -/

/-- One or more ASCII digits, accumulated with overflow checks. -/
def parseDigits (digits : Bytes) : Except VerifierError U64 := do
  rejectIf digits.isEmpty .invalidNumber
  digits.foldlM (fun value digit => do
    rejectIf (¬(0x30 ≤ digit.toNat ∧ digit.toNat ≤ 0x39)) .invalidNumber
    let next := value.raw * 10 + (digit.toNat - 0x30)
    if fits : next < 2 ^ 64 then .ok ⟨next, fits⟩ else .error .invalidNumber) Unsigned.zero

/-- A positive integer with no sign, fraction, exponent or leading zero. -/
def parseTimestamp (token : Bytes) : Except VerifierError UnixTimestamp := do
  rejectIf (maxTimestampDigits < token.length ∨ token.head? = some 0x30) .invalidNumber
  let value ← parseDigits token
  if fits : value.raw < 2 ^ 63 then do
    rejectIf (value.raw = 0 ∨ maxTimestamp < value.raw) .invalidNumber
    pure ⟨value.raw, by omega, by omega⟩
  else .error .invalidNumber

def checkedMul (a b : U64) : Except VerifierError U64 :=
  if fits : a.raw * b.raw < 2 ^ 64 then .ok ⟨a.raw * b.raw, fits⟩ else .error .invalidNumber

/-- A non-negative decimal with at most six fractional digits, scaled by 10^6 so that `340` and
`340.000000` are the same value. -/
def parseAmountMicros (token : Bytes) : Except VerifierError U64 := do
  let integer := token.takeWhile (· != 0x2e)
  let leadingZero := decide (1 < integer.length) && integer.head? == some 0x30
  rejectIf (maxAmountIntegerDigits < integer.length ∨ leadingZero) .invalidNumber
  let whole ← checkedMul (← parseDigits integer) amountScale
  let micros ← match token.dropWhile (· != 0x2e) with
    | [] => pure .zero
    | _ :: digits => do
        rejectIf (amountScaleDigits < digits.length) .invalidNumber
        let padding := amountScaleDigits - digits.length
        if fits : 10 ^ padding < 2 ^ 64 then do
          checkedMul (← parseDigits digits) ⟨10 ^ padding, fits⟩
        else .error .invalidNumber
  whole.checkedAdd micros .invalidNumber

/- The cursor. -/

def advance : Bytes → Except VerifierError (UInt8 × Bytes)
  | [] => .error .malformedJson
  | byte :: rest => .ok (byte, rest)

def isWhitespace (byte : UInt8) : Bool :=
  byte == 0x20 || byte == 0x09 || byte == 0x0a || byte == 0x0d

def skipWhitespace (cursor : Bytes) : Bytes := cursor.dropWhile isWhitespace

def expect (cursor : Bytes) (expected : UInt8) : Except VerifierError Bytes := do
  let (byte, rest) ← advance cursor
  rejectIf (byte ≠ expected) .malformedJson
  pure rest

/-- The rest of a string after its opening quote. -/
def stringBody : Bytes → Except VerifierError (Bytes × Bytes)
  | [] => .error .malformedJson
  | byte :: rest =>
      if byte = 0x22 then .ok ([], rest)
      else if byte = 0x5c then .error .malformedJson
      else if 0x20 ≤ byte ∧ byte ≤ 0x7e then do
        let (text, after) ← stringBody rest
        pure (byte :: text, after)
      else .error .malformedJson

/-- A string of printable ASCII. Escapes are rejected outright, so a field name or value has
exactly one spelling. -/
def string (cursor : Bytes) : Except VerifierError (Bytes × Bytes) :=
  match cursor with
  | 0x22 :: rest => stringBody rest
  | _ => .error .unsupportedJsonValue

def isNumberByte (byte : UInt8) : Bool :=
  decide (0x30 ≤ byte ∧ byte ≤ 0x39) || byte == 0x2e || byte == 0x2d || byte == 0x2b ||
    byte == 0x65 || byte == 0x45

/-- The raw token of a number; the caller decides which forms it accepts. -/
def number (cursor : Bytes) : Except VerifierError (Bytes × Bytes) := do
  let token := cursor.takeWhile isNumberByte
  rejectIf token.isEmpty .unsupportedJsonValue
  pure (token, cursor.dropWhile isNumberByte)

/-- The fields of an object after its opening brace. `fuel` bounds their number; each takes
several bytes, so the length of the document is enough. -/
def objectFields {σ : Type} (visit : σ → Bytes → Bytes → Except VerifierError (σ × Bytes)) :
    Nat → σ → Bytes → Except VerifierError (σ × Bytes)
  | 0, _, _ => .error .malformedJson
  | fuel + 1, slots, cursor => do
      let cursor := skipWhitespace cursor
      rejectIf (cursor.head? ≠ some 0x22) .malformedJson
      let (key, cursor) ← string cursor
      let cursor ← expect (skipWhitespace cursor) 0x3a
      let (slots, cursor) ← visit slots key (skipWhitespace cursor)
      let (byte, cursor) ← advance (skipWhitespace cursor)
      if byte = 0x2c then objectFields visit fuel slots cursor
      else if byte = 0x7d then pure (slots, cursor)
      else .error .malformedJson

/-- Visits each field of an object; `visit` must consume the value. -/
def object {σ : Type} (visit : σ → Bytes → Bytes → Except VerifierError (σ × Bytes)) (slots : σ)
    (cursor : Bytes) : Except VerifierError (σ × Bytes) := do
  let cursor ← expect (skipWhitespace cursor) 0x7b
  let cursor := skipWhitespace cursor
  match cursor with
  | 0x7d :: rest => pure (slots, rest)
  | _ => objectFields visit (cursor.length + 1) slots cursor

def finish (cursor : Bytes) : Except VerifierError Unit :=
  rejectIf (skipWhitespace cursor ≠ []) .malformedJson

/-- Rejects a repeated field before reading its value. -/
def fill {α : Type} (slot : Option α) (read : Except VerifierError (α × Bytes)) :
    Except VerifierError (Option α × Bytes) := do
  rejectIf (slot.isSome) .duplicateField
  let (value, cursor) ← read
  pure (some value, cursor)

def required {α : Type} (slot : Option α) : Except VerifierError α := okOr slot .missingField

def bounded (value : Bytes) (maxLen : Nat) : Except VerifierError Bytes := do
  rejectIf (value.isEmpty ∨ maxLen < value.length) .invalidFieldLength
  pure value

/- The header. -/

structure HeaderSlots where
  alg : Option Bytes
  kid : Option Bytes
  typ : Option Bytes

/-- Headers that would name a key or change how the token is read. Keys must come from the
program's own state, never the token. -/
def unsupportedHeaders : List Bytes :=
  [ascii ['j', 'w', 'k'], ascii ['j', 'k', 'u'], ascii ['x', '5', 'c'], ascii ['x', '5', 'u'],
    ascii ['x', '5', 't'], ascii ['x', '5', 't', '#', 'S', '2', '5', '6'],
    ascii ['c', 'r', 'i', 't'], ascii ['b', '6', '4']]

def visitHeader (slots : HeaderSlots) (key cursor : Bytes) :
    Except VerifierError (HeaderSlots × Bytes) :=
  if key = ascii ['a', 'l', 'g'] then do
    let (alg, cursor) ← fill slots.alg (string cursor)
    pure ({ slots with alg }, cursor)
  else if key = ascii ['k', 'i', 'd'] then do
    let (kid, cursor) ← fill slots.kid (string cursor)
    pure ({ slots with kid }, cursor)
  else if key = ascii ['t', 'y', 'p'] then do
    let (typ, cursor) ← fill slots.typ (string cursor)
    pure ({ slots with typ }, cursor)
  else if key ∈ unsupportedHeaders then .error .unsupportedClaim
  else .error .unknownField

def parseHeader (json : Bytes) : Except VerifierError JwtHeader := do
  let (slots, cursor) ← object visitHeader ⟨none, none, none⟩ json
  finish cursor
  let alg ← required slots.alg
  rejectIf (alg ≠ ascii ['E', 'S', '2', '5', '6']) .unsupportedAlgorithm
  rejectIf (slots.typ.any (· ≠ ascii ['J', 'W', 'T'])) .unsupportedType
  let kid ← bounded (← required slots.kid) maxKidLen
  pure { kid }

/- The claims. -/

structure RequestSlots where
  agent : Option Bytes
  amount : Option U64
  currency : Option Bytes
  recipient : Option Bytes
  category : Option Bytes

/-- A number read in one of the accepted forms. -/
def numberAs {α : Type} (parse : Bytes → Except VerifierError α) (cursor : Bytes) :
    Except VerifierError (α × Bytes) := do
  let (token, cursor) ← number cursor
  let value ← parse token
  pure (value, cursor)

def visitRequest (slots : RequestSlots) (key cursor : Bytes) :
    Except VerifierError (RequestSlots × Bytes) :=
  if key = ascii ['a', 'g', 'e', 'n', 't'] then do
    let (agent, cursor) ← fill slots.agent (string cursor)
    pure ({ slots with agent }, cursor)
  else if key = ascii ['a', 'm', 'o', 'u', 'n', 't'] then do
    let (amount, cursor) ← fill slots.amount (numberAs parseAmountMicros cursor)
    pure ({ slots with amount }, cursor)
  else if key = ascii ['c', 'u', 'r', 'r', 'e', 'n', 'c', 'y'] then do
    let (currency, cursor) ← fill slots.currency (string cursor)
    pure ({ slots with currency }, cursor)
  else if key = ascii ['r', 'e', 'c', 'i', 'p', 'i', 'e', 'n', 't'] then do
    let (recipient, cursor) ← fill slots.recipient (string cursor)
    pure ({ slots with recipient }, cursor)
  else if key = ascii ['c', 'a', 't', 'e', 'g', 'o', 'r', 'y'] then do
    let (category, cursor) ← fill slots.category (string cursor)
    pure ({ slots with category }, cursor)
  else .error .unknownField

def parseRequest (cursor : Bytes) : Except VerifierError (Request × Bytes) := do
  let (slots, cursor) ← object visitRequest ⟨none, none, none, none, none⟩ cursor
  let agent ← bounded (← required slots.agent) maxAgentLen
  let amountMicros ← required slots.amount
  let currency ← bounded (← required slots.currency) maxCurrencyLen
  let recipient ← bounded (← required slots.recipient) maxRecipientLen
  let category ← bounded (← required slots.category) maxCategoryLen
  pure ({ agent, amountMicros, currency, recipient, category }, cursor)

structure ClaimSlots where
  iss : Option Bytes
  jti : Option Bytes
  iat : Option UnixTimestamp
  exp : Option UnixTimestamp
  verdict : Option Bytes
  mandate : Option Bytes
  policyVersion : Option Bytes
  nonce : Option Bytes
  request : Option Request

def visitClaim (slots : ClaimSlots) (key cursor : Bytes) :
    Except VerifierError (ClaimSlots × Bytes) :=
  if key = ascii ['i', 's', 's'] then do
    let (iss, cursor) ← fill slots.iss (string cursor)
    pure ({ slots with iss }, cursor)
  else if key = ascii ['j', 't', 'i'] then do
    let (jti, cursor) ← fill slots.jti (string cursor)
    pure ({ slots with jti }, cursor)
  else if key = ascii ['i', 'a', 't'] then do
    let (iat, cursor) ← fill slots.iat (numberAs parseTimestamp cursor)
    pure ({ slots with iat }, cursor)
  else if key = ascii ['e', 'x', 'p'] then do
    let (exp, cursor) ← fill slots.exp (numberAs parseTimestamp cursor)
    pure ({ slots with exp }, cursor)
  else if key = ascii ['v', 'e', 'r', 'd', 'i', 'c', 't'] then do
    let (verdict, cursor) ← fill slots.verdict (string cursor)
    pure ({ slots with verdict }, cursor)
  else if key = ascii ['m', 'a', 'n', 'd', 'a', 't', 'e'] then do
    let (mandate, cursor) ← fill slots.mandate (string cursor)
    pure ({ slots with mandate }, cursor)
  else if key = ascii ['p', 'o', 'l', 'i', 'c', 'y', '_', 'v', 'e', 'r', 's', 'i', 'o', 'n'] then do
    let (policyVersion, cursor) ← fill slots.policyVersion (string cursor)
    pure ({ slots with policyVersion }, cursor)
  else if key = ascii ['n', 'o', 'n', 'c', 'e'] then do
    let (nonce, cursor) ← fill slots.nonce (string cursor)
    pure ({ slots with nonce }, cursor)
  else if key = ascii ['r', 'e', 'q', 'u', 'e', 's', 't'] then do
    let (request, cursor) ← fill slots.request (parseRequest cursor)
    pure ({ slots with request }, cursor)
  else if key = ascii ['a', 'u', 'd'] ∨ key = ascii ['n', 'b', 'f'] ∨
      key = ascii ['s', 'u', 'p', 'e', 'r', 's', 'e', 'd', 'e', 's'] then
    .error .unsupportedClaim
  else .error .unknownField

def parseClaims (json : Bytes) : Except VerifierError Claims := do
  let (slots, cursor) ← object visitClaim ⟨none, none, none, none, none, none, none, none, none⟩ json
  finish cursor
  let iss ← required slots.iss
  let jti ← bounded (← required slots.jti) maxJtiLen
  let iat ← required slots.iat
  let exp ← required slots.exp
  let verdict ← required slots.verdict
  let mandate ← bounded (← required slots.mandate) maxMandateLen
  let policyVersion ← bounded (← required slots.policyVersion) maxPolicyLen
  let nonce ← bounded (← required slots.nonce) maxNonceLen
  let request ← required slots.request
  pure { iss, jti, iat, exp, verdict, mandate, policyVersion, nonce, request }

def DecodedSigningInput.header (decoded : DecodedSigningInput) : Except VerifierError JwtHeader :=
  parseHeader decoded.headerJson

def DecodedSigningInput.claims (decoded : DecodedSigningInput) : Except VerifierError Claims :=
  parseClaims decoded.payloadJson

end Verifier
