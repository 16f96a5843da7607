import CrossChainVault.Verifier.Objects

set_option autoImplicit false

/- The verdict parser accepts exactly its grammar: the header, the claims and the request as objects
with their own fields, each present once and in any order. -/

namespace Verifier

open Result
open Leg (U64 UnixTimestamp)

/- The texts. -/

/-- One to `maxLen` bytes. -/
def Within (value : Bytes) (maxLen : Nat) : Prop := 1 ≤ value.length ∧ value.length ≤ maxLen

/-- A string of one to `maxLen` bytes. -/
def BoundedText (text value : Bytes) (maxLen : Nat) : Prop :=
  StringText text value ∧ Within value maxLen

/-- The request object, with its five fields in any order. -/
def RequestText (text : Bytes) (request : Request) : Prop :=
  ∃ (agent amount currency recipient category : Bytes) (order : List (Bytes × Bytes)),
    order.Perm [(ascii ['a', 'g', 'e', 'n', 't'], agent),
      (ascii ['a', 'm', 'o', 'u', 'n', 't'], amount),
      (ascii ['c', 'u', 'r', 'r', 'e', 'n', 'c', 'y'], currency),
      (ascii ['r', 'e', 'c', 'i', 'p', 'i', 'e', 'n', 't'], recipient),
      (ascii ['c', 'a', 't', 'e', 'g', 'o', 'r', 'y'], category)] ∧
    ObjectText order text ∧
    BoundedText agent request.agent maxAgentLen ∧
    AmountText amount request.amountMicros.raw ∧
    BoundedText currency request.currency maxCurrencyLen ∧
    BoundedText recipient request.recipient maxRecipientLen ∧
    BoundedText category request.category maxCategoryLen

/-- The claims document, with its nine fields in any order. -/
def ClaimsText (json : Bytes) (claims : Claims) : Prop :=
  ∃ iss jti iat exp verdict mandate policyVersion nonce request : Bytes,
    Document [(ascii ['i', 's', 's'], iss), (ascii ['j', 't', 'i'], jti),
      (ascii ['i', 'a', 't'], iat), (ascii ['e', 'x', 'p'], exp),
      (ascii ['v', 'e', 'r', 'd', 'i', 'c', 't'], verdict),
      (ascii ['m', 'a', 'n', 'd', 'a', 't', 'e'], mandate),
      (ascii ['p', 'o', 'l', 'i', 'c', 'y', '_', 'v', 'e', 'r', 's', 'i', 'o', 'n'], policyVersion),
      (ascii ['n', 'o', 'n', 'c', 'e'], nonce),
      (ascii ['r', 'e', 'q', 'u', 'e', 's', 't'], request)] json ∧
    StringText iss claims.iss ∧
    BoundedText jti claims.jti maxJtiLen ∧
    TimestampText iat claims.iat ∧
    TimestampText exp claims.exp ∧
    StringText verdict claims.verdict ∧
    BoundedText mandate claims.mandate maxMandateLen ∧
    BoundedText policyVersion claims.policyVersion maxPolicyLen ∧
    BoundedText nonce claims.nonce maxNonceLen ∧
    RequestText request claims.request

/-- The header document: `alg` and `kid`, and `typ` only as `JWT`. -/
def HeaderText (json : Bytes) (header : JwtHeader) : Prop :=
  ∃ alg kid : Bytes,
    StringText alg (ascii ['E', 'S', '2', '5', '6']) ∧ BoundedText kid header.kid maxKidLen ∧
    (Document [(ascii ['a', 'l', 'g'], alg), (ascii ['k', 'i', 'd'], kid)] json ∨
      ∃ typ : Bytes, StringText typ (ascii ['J', 'W', 'T']) ∧
        Document [(ascii ['a', 'l', 'g'], alg), (ascii ['k', 'i', 'd'], kid),
          (ascii ['t', 'y', 'p'], typ)] json)

theorem bounded_iff {value checked : Bytes} {maxLen : Nat} :
    bounded value maxLen = .ok checked ↔ value = checked ∧ Within value maxLen := by
  simp only [bounded, bind_eq_ok, rejectIf_eq_ok, exists_const, pure_eq_ok, not_or, Nat.not_lt,
    List.isEmpty_iff, Within, Nat.one_le_iff_ne_zero, ne_eq, List.length_eq_zero_iff]
  exact and_comm

/- The request. -/

inductive RequestField
  | agent
  | amount
  | currency
  | recipient
  | category
deriving DecidableEq

namespace RequestField

def all : List RequestField := [agent, amount, currency, recipient, category]

def name : RequestField → Bytes
  | agent => ascii ['a', 'g', 'e', 'n', 't']
  | amount => ascii ['a', 'm', 'o', 'u', 'n', 't']
  | currency => ascii ['c', 'u', 'r', 'r', 'e', 'n', 'c', 'y']
  | recipient => ascii ['r', 'e', 'c', 'i', 'p', 'i', 'e', 'n', 't']
  | category => ascii ['c', 'a', 't', 'e', 'g', 'o', 'r', 'y']

def Value : RequestField → Type
  | amount => U64
  | _ => Bytes

def read : (field : RequestField) → Bytes → Except VerifierError (field.Value × Bytes)
  | amount => numberAs parseAmountMicros
  | agent | currency | recipient | category => string

def Spells : (field : RequestField) → Bytes → field.Value → Prop
  | amount => fun text micros => AmountText text (Unsigned.raw micros)
  | agent | currency | recipient | category => StringText

def view : RequestSlots ≃ ((field : RequestField) → Option field.Value) where
  toFun slots
    | agent => slots.agent
    | amount => slots.amount
    | currency => slots.currency
    | recipient => slots.recipient
    | category => slots.category
  invFun slots := ⟨slots agent, slots amount, slots currency, slots recipient, slots category⟩
  left_inv _ := rfl
  right_inv slots := by
    funext field
    cases field <;> rfl

def value (request : Request) : (field : RequestField) → field.Value
  | agent => request.agent
  | amount => request.amountMicros
  | currency => request.currency
  | recipient => request.recipient
  | category => request.category

def schema : Schema RequestSlots RequestField where
  visit := visitRequest
  name := name
  Value := Value
  read := read
  Spells := Spells
  view := view
  reads field := by
    cases field with
    | amount => exact amount_reads
    | agent | currency | recipient | category => exact string_reads
  visit_name slots field cursor := by
    cases field <;> rfl
  visit_other slots key cursor other result := by
    refine (if_neg (other agent)).trans_ne ?_
    refine (if_neg (other amount)).trans_ne ?_
    refine (if_neg (other currency)).trans_ne ?_
    refine (if_neg (other recipient)).trans_ne ?_
    refine (if_neg (other category)).trans_ne ?_
    exact nofun

end RequestField

/-- Every field of a request is there. -/
def Request.slots (request : Request) : RequestSlots :=
  ⟨some request.agent, some request.amountMicros, some request.currency, some request.recipient,
    some request.category⟩

/-- The lengths a request is checked for once its fields are read. -/
def Request.Bounded (request : Request) : Prop :=
  Within request.agent maxAgentLen ∧ Within request.currency maxCurrencyLen ∧
    Within request.recipient maxRecipientLen ∧ Within request.category maxCategoryLen

theorem parseRequest_iff {cursor rest : Bytes} {request : Request} :
    parseRequest cursor = .ok (request, rest) ↔
      object visitRequest ⟨none, none, none, none, none⟩ cursor = .ok (request.slots, rest) ∧
      request.Bounded := by
  simp only [parseRequest, bind_eq_ok, Prod.exists, required, okOr_eq_ok, bounded_iff, pure_eq_ok,
    Prod.mk.injEq]
  constructor
  · rintro ⟨⟨_, _, _, _, _⟩, _, read, agent, rfl, _, ⟨rfl, boundAgent⟩, micros, rfl, currency, rfl, _,
      ⟨rfl, boundCurrency⟩, recipient, rfl, _, ⟨rfl, boundRecipient⟩, category, rfl, _,
      ⟨rfl, boundCategory⟩, rfl, rfl⟩
    exact ⟨read, boundAgent, boundCurrency, boundRecipient, boundCategory⟩
  · rintro ⟨read, boundAgent, boundCurrency, boundRecipient, boundCategory⟩
    exact ⟨_, _, read, _, rfl, _, ⟨rfl, boundAgent⟩, _, rfl, _, rfl, _, ⟨rfl, boundCurrency⟩, _, rfl,
      _, ⟨rfl, boundRecipient⟩, _, rfl, _, ⟨rfl, boundCategory⟩, rfl, rfl⟩

theorem request_iff {cursor rest : Bytes} {request : Request} :
    parseRequest cursor = .ok (request, rest) ↔
      ∃ spaces text, Spaces spaces ∧ RequestText text request ∧
        cursor = spaces ++ (text ++ rest) := by
  have objects : object visitRequest ⟨none, none, none, none, none⟩ cursor =
      .ok (request.slots, rest) ↔ _ :=
    RequestField.schema.object_all_iff RequestField.all (by decide)
      (fun field => by cases field <;> decide) (fun field => by cases field <;> rfl)
      (RequestField.value request)
  rw [parseRequest_iff, objects]
  constructor
  · rintro ⟨⟨text, order, body, spaces, perm, shape, blank, same, spelled⟩,
      boundAgent, boundCurrency, boundRecipient, boundCategory⟩
    exact ⟨spaces, body, blank, ⟨_, _, _, _, _, order, perm, shape, ⟨spelled .agent, boundAgent⟩,
      spelled .amount, ⟨spelled .currency, boundCurrency⟩, ⟨spelled .recipient, boundRecipient⟩,
      ⟨spelled .category, boundCategory⟩⟩, same⟩
  · rintro ⟨spaces, body, blank, ⟨agent, amount, currency, recipient, category, order, perm, shape,
      ⟨isAgent, boundAgent⟩, isAmount, ⟨isCurrency, boundCurrency⟩, ⟨isRecipient, boundRecipient⟩,
      ⟨isCategory, boundCategory⟩⟩, same⟩
    refine ⟨⟨fun
      | .agent => agent
      | .amount => amount
      | .currency => currency
      | .recipient => recipient
      | .category => category, order, body, spaces, perm, shape, blank, same, ?_⟩,
      boundAgent, boundCurrency, boundRecipient, boundCategory⟩
    intro field
    cases field with
    | agent => exact isAgent
    | amount => exact isAmount
    | currency => exact isCurrency
    | recipient => exact isRecipient
    | category => exact isCategory

theorem request_reads : Reads parseRequest RequestText := by
  have solid : ∀ {text : Bytes} {request : Request}, RequestText text request →
      ∀ rest, skipWhitespace (text ++ rest) = text ++ rest := by
    rintro text request ⟨_, _, _, _, _, _, _, ⟨inner, -, rfl⟩, -⟩ rest
    exact skipWhitespace_cons _ rfl
  refine ⟨solid, ?_, ?_⟩
  · intro cursor request rest fresh read
    obtain ⟨spaces, text, blank, spelled, same⟩ := request_iff.mp read
    refine ⟨text, spelled, ?_⟩
    rw [← solid spelled rest, ← skipWhitespace_append _ blank, ← same, fresh]
  · intro text request rest spelled _
    exact request_iff.mpr ⟨[], text, List.forall_mem_nil _, spelled, rfl⟩

theorem finish_iff {cursor : Bytes} {done : Unit} : finish cursor = .ok done ↔ Spaces cursor := by
  rw [finish, rejectIf_eq_ok, not_not, skipWhitespace_eq_nil]

/- The claims. -/

inductive ClaimField
  | iss
  | jti
  | iat
  | exp
  | verdict
  | mandate
  | policyVersion
  | nonce
  | request
deriving DecidableEq

namespace ClaimField

def all : List ClaimField :=
  [iss, jti, iat, exp, verdict, mandate, policyVersion, nonce, request]

def name : ClaimField → Bytes
  | iss => ascii ['i', 's', 's']
  | jti => ascii ['j', 't', 'i']
  | iat => ascii ['i', 'a', 't']
  | exp => ascii ['e', 'x', 'p']
  | verdict => ascii ['v', 'e', 'r', 'd', 'i', 'c', 't']
  | mandate => ascii ['m', 'a', 'n', 'd', 'a', 't', 'e']
  | policyVersion =>
      ascii ['p', 'o', 'l', 'i', 'c', 'y', '_', 'v', 'e', 'r', 's', 'i', 'o', 'n']
  | nonce => ascii ['n', 'o', 'n', 'c', 'e']
  | request => ascii ['r', 'e', 'q', 'u', 'e', 's', 't']

def Value : ClaimField → Type
  | iat | exp => UnixTimestamp
  | request => Request
  | iss | jti | verdict | mandate | policyVersion | nonce => Bytes

def read : (field : ClaimField) → Bytes → Except VerifierError (field.Value × Bytes)
  | iat | exp => numberAs parseTimestamp
  | request => parseRequest
  | iss | jti | verdict | mandate | policyVersion | nonce => string

def Spells : (field : ClaimField) → Bytes → field.Value → Prop
  | iat | exp => TimestampText
  | request => RequestText
  | iss | jti | verdict | mandate | policyVersion | nonce => StringText

def view : ClaimSlots ≃ ((field : ClaimField) → Option field.Value) where
  toFun slots
    | iss => slots.iss
    | jti => slots.jti
    | iat => slots.iat
    | exp => slots.exp
    | verdict => slots.verdict
    | mandate => slots.mandate
    | policyVersion => slots.policyVersion
    | nonce => slots.nonce
    | request => slots.request
  invFun slots :=
    ⟨slots iss, slots jti, slots iat, slots exp, slots verdict, slots mandate, slots policyVersion,
      slots nonce, slots request⟩
  left_inv _ := rfl
  right_inv slots := by
    funext field
    cases field <;> rfl

def value (claims : Claims) : (field : ClaimField) → field.Value
  | iss => claims.iss
  | jti => claims.jti
  | iat => claims.iat
  | exp => claims.exp
  | verdict => claims.verdict
  | mandate => claims.mandate
  | policyVersion => claims.policyVersion
  | nonce => claims.nonce
  | request => claims.request

def schema : Schema ClaimSlots ClaimField where
  visit := visitClaim
  name := name
  Value := Value
  read := read
  Spells := Spells
  view := view
  reads field := by
    cases field with
    | iat | exp => exact timestamp_reads
    | request => exact request_reads
    | iss | jti | verdict | mandate | policyVersion | nonce => exact string_reads
  visit_name slots field cursor := by
    cases field <;> rfl
  visit_other slots key cursor other result := by
    refine (if_neg (other iss)).trans_ne ?_
    refine (if_neg (other jti)).trans_ne ?_
    refine (if_neg (other iat)).trans_ne ?_
    refine (if_neg (other exp)).trans_ne ?_
    refine (if_neg (other verdict)).trans_ne ?_
    refine (if_neg (other mandate)).trans_ne ?_
    refine (if_neg (other policyVersion)).trans_ne ?_
    refine (if_neg (other nonce)).trans_ne ?_
    refine (if_neg (other request)).trans_ne ?_
    split
    · exact nofun
    · exact nofun

end ClaimField

/-- Every claim is there. -/
def Claims.slots (claims : Claims) : ClaimSlots :=
  ⟨some claims.iss, some claims.jti, some claims.iat, some claims.exp, some claims.verdict,
    some claims.mandate, some claims.policyVersion, some claims.nonce, some claims.request⟩

/-- The lengths the claims are checked for once they are all read. -/
def Claims.Bounded (claims : Claims) : Prop :=
  Within claims.jti maxJtiLen ∧ Within claims.mandate maxMandateLen ∧
    Within claims.policyVersion maxPolicyLen ∧ Within claims.nonce maxNonceLen

theorem parseClaims_iff {json : Bytes} {claims : Claims} :
    parseClaims json = .ok claims ↔
      ∃ rest, object visitClaim ⟨none, none, none, none, none, none, none, none, none⟩ json =
        .ok (claims.slots, rest) ∧ Spaces rest ∧ claims.Bounded := by
  simp only [parseClaims, bind_eq_ok, Prod.exists, finish_iff, exists_const, required, okOr_eq_ok,
    bounded_iff, pure_eq_ok]
  constructor
  · rintro ⟨⟨_, _, _, _, _, _, _, _, _⟩, rest, read, blank, iss, rfl, jti, rfl, _, ⟨rfl, boundJti⟩,
      iat, rfl, exp, rfl, verdict, rfl, mandate, rfl, _, ⟨rfl, boundMandate⟩, policyVersion, rfl, _,
      ⟨rfl, boundPolicy⟩, nonce, rfl, _, ⟨rfl, boundNonce⟩, request, rfl, rfl⟩
    exact ⟨rest, read, blank, boundJti, boundMandate, boundPolicy, boundNonce⟩
  · rintro ⟨rest, read, blank, boundJti, boundMandate, boundPolicy, boundNonce⟩
    exact ⟨_, rest, read, blank, _, rfl, _, rfl, _, ⟨rfl, boundJti⟩, _, rfl, _, rfl, _, rfl, _, rfl,
      _, ⟨rfl, boundMandate⟩, _, rfl, _, ⟨rfl, boundPolicy⟩, _, rfl, _, ⟨rfl, boundNonce⟩, _, rfl,
      rfl⟩

theorem claims_iff {json : Bytes} {claims : Claims} :
    parseClaims json = .ok claims ↔ ClaimsText json claims := by
  have objects : ∀ rest, object visitClaim
      ⟨none, none, none, none, none, none, none, none, none⟩ json = .ok (claims.slots, rest) ↔ _ :=
    fun rest => ClaimField.schema.object_all_iff ClaimField.all (by decide)
      (fun field => by cases field <;> decide) (fun field => by cases field <;> rfl)
      (ClaimField.value claims)
  simp only [parseClaims_iff, objects]
  constructor
  · rintro ⟨rest, ⟨text, order, body, spaces, perm, shape, blank, same, spelled⟩, after, boundJti,
      boundMandate, boundPolicy, boundNonce⟩
    exact ⟨_, _, _, _, _, _, _, _, _, ⟨order, spaces, body, rest, perm, shape, blank, after, same⟩,
      spelled .iss, ⟨spelled .jti, boundJti⟩, spelled .iat, spelled .exp, spelled .verdict,
      ⟨spelled .mandate, boundMandate⟩, ⟨spelled .policyVersion, boundPolicy⟩,
      ⟨spelled .nonce, boundNonce⟩, spelled .request⟩
  · rintro ⟨iss, jti, iat, exp, verdict, mandate, policyVersion, nonce, request,
      ⟨order, spaces, body, rest, perm, shape, blank, after, same⟩, isIss, ⟨isJti, boundJti⟩, isIat,
      isExp, isVerdict, ⟨isMandate, boundMandate⟩, ⟨isPolicy, boundPolicy⟩, ⟨isNonce, boundNonce⟩,
      isRequest⟩
    refine ⟨rest, ⟨fun
      | .iss => iss
      | .jti => jti
      | .iat => iat
      | .exp => exp
      | .verdict => verdict
      | .mandate => mandate
      | .policyVersion => policyVersion
      | .nonce => nonce
      | .request => request, order, body, spaces, perm, shape, blank, same, ?_⟩,
      after, boundJti, boundMandate, boundPolicy, boundNonce⟩
    intro field
    cases field with
    | iss => exact isIss
    | jti => exact isJti
    | iat => exact isIat
    | exp => exact isExp
    | verdict => exact isVerdict
    | mandate => exact isMandate
    | policyVersion => exact isPolicy
    | nonce => exact isNonce
    | request => exact isRequest

/- The header. -/

inductive HeaderField
  | alg
  | kid
  | typ
deriving DecidableEq

namespace HeaderField

def name : HeaderField → Bytes
  | alg => ascii ['a', 'l', 'g']
  | kid => ascii ['k', 'i', 'd']
  | typ => ascii ['t', 'y', 'p']

def view : HeaderSlots ≃ (HeaderField → Option Bytes) where
  toFun slots
    | alg => slots.alg
    | kid => slots.kid
    | typ => slots.typ
  invFun slots := ⟨slots alg, slots kid, slots typ⟩
  left_inv _ := rfl
  right_inv slots := by
    funext field
    cases field <;> rfl

def schema : Schema HeaderSlots HeaderField where
  visit := visitHeader
  name := name
  Value _ := Bytes
  read _ := string
  Spells _ := StringText
  view := view
  reads _ := string_reads
  visit_name slots field cursor := by
    cases field <;> rfl
  visit_other slots key cursor other result := by
    refine (if_neg (other alg)).trans_ne ?_
    refine (if_neg (other kid)).trans_ne ?_
    refine (if_neg (other typ)).trans_ne ?_
    split
    · exact nofun
    · exact nofun

end HeaderField

theorem parseHeader_iff {json : Bytes} {header : JwtHeader} :
    parseHeader json = .ok header ↔
      ∃ typ rest, object visitHeader ⟨none, none, none⟩ json =
        .ok (⟨some (ascii ['E', 'S', '2', '5', '6']), some header.kid, typ⟩, rest) ∧ Spaces rest ∧
        (typ = none ∨ typ = some (ascii ['J', 'W', 'T'])) ∧ Within header.kid maxKidLen := by
  simp only [parseHeader, bind_eq_ok, Prod.exists, finish_iff, exists_const, required, okOr_eq_ok,
    rejectIf_eq_ok, bounded_iff, pure_eq_ok, Decidable.not_not]
  have allowed : ∀ typ : Option Bytes, ¬(typ.any (· ≠ ascii ['J', 'W', 'T'])) = true ↔
      typ = none ∨ typ = some (ascii ['J', 'W', 'T']) := by
    intro typ
    cases typ with
    | none => simp
    | some value => simp
  constructor
  · rintro ⟨⟨_, _, typ⟩, rest, read, blank, alg, rfl, rfl, ok, kid, rfl, _, ⟨rfl, bound⟩, rfl⟩
    exact ⟨typ, rest, read, blank, (allowed typ).mp ok, bound⟩
  · rintro ⟨typ, rest, read, blank, ok, bound⟩
    exact ⟨_, rest, read, blank, _, rfl, rfl, (allowed typ).mpr ok, _, rfl, _, ⟨rfl, bound⟩, rfl⟩

section HeaderObject

variable {json rest alg kid typ : Bytes}

/-- A header without `typ`. -/
theorem shortHeader_iff :
    object visitHeader ⟨none, none, none⟩ json = .ok (⟨some alg, some kid, none⟩, rest) ↔
      ∃ algText kidText order body spaces,
        order.Perm [(ascii ['a', 'l', 'g'], algText), (ascii ['k', 'i', 'd'], kidText)] ∧
        ObjectText order body ∧ Spaces spaces ∧ json = spaces ++ (body ++ rest) ∧
        StringText algText alg ∧ StringText kidText kid := by
  have objects : object visitHeader ⟨none, none, none⟩ json =
      .ok (⟨some alg, some kid, none⟩, rest) ↔ _ :=
    HeaderField.schema.object_present_iff [.alg, .kid] (by decide)
      (fun field => by cases field <;> rfl) (fun field => by
        cases field with
        | alg => exact iff_of_true (by decide) (Option.some_ne_none _)
        | kid => exact iff_of_true (by decide) (Option.some_ne_none _)
        | typ => exact iff_of_false (by decide) (not_not.mpr rfl))
  rw [objects]
  constructor
  · rintro ⟨text, order, body, spaces, perm, shape, blank, same, spelled⟩
    obtain ⟨_, isAlg, heldAlg⟩ := spelled .alg (by decide)
    obtain ⟨_, isKid, heldKid⟩ := spelled .kid (by decide)
    obtain rfl : alg = _ := Option.some.inj heldAlg
    obtain rfl : kid = _ := Option.some.inj heldKid
    exact ⟨_, _, order, body, spaces, perm, shape, blank, same, isAlg, isKid⟩
  · rintro ⟨algText, kidText, order, body, spaces, perm, shape, blank, same, isAlg, isKid⟩
    refine ⟨fun
      | .alg => algText
      | _ => kidText, order, body, spaces, perm, shape, blank, same, ?_⟩
    intro field inside
    cases field with
    | alg => exact ⟨alg, isAlg, rfl⟩
    | kid => exact ⟨kid, isKid, rfl⟩
    | typ => exact absurd inside (by decide)

/-- A header with `typ`. -/
theorem longHeader_iff :
    object visitHeader ⟨none, none, none⟩ json = .ok (⟨some alg, some kid, some typ⟩, rest) ↔
      ∃ algText kidText typText order body spaces,
        order.Perm [(ascii ['a', 'l', 'g'], algText), (ascii ['k', 'i', 'd'], kidText),
          (ascii ['t', 'y', 'p'], typText)] ∧
        ObjectText order body ∧ Spaces spaces ∧ json = spaces ++ (body ++ rest) ∧
        StringText algText alg ∧ StringText kidText kid ∧ StringText typText typ := by
  have objects : object visitHeader ⟨none, none, none⟩ json =
      .ok (⟨some alg, some kid, some typ⟩, rest) ↔ _ :=
    HeaderField.schema.object_all_iff [.alg, .kid, .typ] (by decide)
      (fun field => by cases field <;> decide) (fun field => by cases field <;> rfl)
      (fun
        | .alg => alg
        | .kid => kid
        | .typ => typ)
  rw [objects]
  constructor
  · rintro ⟨text, order, body, spaces, perm, shape, blank, same, spelled⟩
    exact ⟨_, _, _, order, body, spaces, perm, shape, blank, same, spelled .alg, spelled .kid,
      spelled .typ⟩
  · rintro ⟨algText, kidText, typText, order, body, spaces, perm, shape, blank, same, isAlg, isKid,
      isTyp⟩
    refine ⟨fun
      | .alg => algText
      | .kid => kidText
      | .typ => typText, order, body, spaces, perm, shape, blank, same, ?_⟩
    intro field
    cases field with
    | alg => exact isAlg
    | kid => exact isKid
    | typ => exact isTyp

end HeaderObject

theorem header_iff {json : Bytes} {header : JwtHeader} :
    parseHeader json = .ok header ↔ HeaderText json header := by
  rw [parseHeader_iff]
  constructor
  · rintro ⟨_, rest, read, after, rfl | rfl, bound⟩
    · obtain ⟨alg, kid, order, body, spaces, perm, shape, blank, same, isAlg, isKid⟩ :=
        shortHeader_iff.mp read
      exact ⟨alg, kid, isAlg, ⟨isKid, bound⟩,
        .inl ⟨order, spaces, body, rest, perm, shape, blank, after, same⟩⟩
    · obtain ⟨alg, kid, typ, order, body, spaces, perm, shape, blank, same, isAlg, isKid, isTyp⟩ :=
        longHeader_iff.mp read
      exact ⟨alg, kid, isAlg, ⟨isKid, bound⟩,
        .inr ⟨typ, isTyp, order, spaces, body, rest, perm, shape, blank, after, same⟩⟩
  · rintro ⟨alg, kid, isAlg, ⟨isKid, bound⟩,
      ⟨order, spaces, body, rest, perm, shape, blank, after, same⟩ |
      ⟨typ, isTyp, order, spaces, body, rest, perm, shape, blank, after, same⟩⟩
    · exact ⟨none, rest, shortHeader_iff.mpr
        ⟨alg, kid, order, body, spaces, perm, shape, blank, same, isAlg, isKid⟩, after, .inl rfl,
        bound⟩
    · exact ⟨_, rest, longHeader_iff.mpr
        ⟨alg, kid, typ, order, body, spaces, perm, shape, blank, same, isAlg, isKid, isTyp⟩, after,
        .inr rfl, bound⟩

/-- The verdict parser accepts exactly its grammar, and no amount of the grammar overflows. -/
theorem parser_accepts_grammar (json : Bytes) :
    (∀ claims, parseClaims json = .ok claims ↔ ClaimsText json claims) ∧
    (∀ header, parseHeader json = .ok header ↔ HeaderText json header) ∧
    (∀ text micros, AmountText text micros → micros < 2 ^ 64) :=
  ⟨fun _ => claims_iff, fun _ => header_iff, fun _ _ spelled => spelled.fits⟩

end Verifier
