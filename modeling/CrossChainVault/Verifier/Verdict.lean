import CrossChainVault.Verifier.Jwt
import CrossChainVault.Verifier.Precompile
import Mathlib.Logic.Function.Basic

set_option autoImplicit false

/- The instructions of the first profile: an administrator registers and revokes keys and mandates,
and a consumer spends each signed verdict once. -/

namespace Verifier

open Result
open Protocol (Bytes32)
open Leg (U64 UnixTimestamp)

/-- The digest, and the address the framework derives from the concatenated seeds. -/
structure Derivation where
  sha256 : Bytes → Bytes32
  address : Bytes → Pubkey

/-- An account the verifier owns, by its discriminator. -/
inductive Account
  | config (config : VerifierConfig)
  | trustedKey (key : TrustedKey)
  | mandate (mandate : Mandate)
  | receipt (receipt : ConsumedAuthorization)
deriving DecidableEq

/-- The verifier's accounts by address. -/
abbrev World := Pubkey → Option Account

/- Addresses. -/

section Addresses

variable (derivation : Derivation)

def configAddress (environment : Environment) : Pubkey :=
  derivation.address (configSeed ++ environment.seed)

def trustedKeyAddress (config : Pubkey) (kid : Bytes) : Pubkey :=
  derivation.address (trustedKeySeed ++ wide config ++ kidSeed kid)

def mandateAddress (config : Pubkey) (hash : Bytes32) : Pubkey :=
  derivation.address (mandateSeed ++ wide config ++ wide hash)

def receiptAddress (config : Pubkey) (hash : Bytes32) : Pubkey :=
  derivation.address (receiptSeed ++ wide config ++ wide hash)

end Addresses

/- Loading and creating accounts. -/

namespace World

def loadConfig (w : World) (address : Pubkey) : Except VerifierError VerifierConfig :=
  match w address with
  | some (.config config) => .ok config
  | _ => .error .accountNotInitialized

def loadTrustedKey (w : World) (address : Pubkey) : Except VerifierError TrustedKey :=
  match w address with
  | some (.trustedKey key) => .ok key
  | _ => .error .accountNotInitialized

def loadMandate (w : World) (address : Pubkey) : Except VerifierError Mandate :=
  match w address with
  | some (.mandate mandate) => .ok mandate
  | _ => .error .accountNotInitialized

/-- An account to be created is at the address its seeds derive, which is still free. -/
def checkInit (w : World) (given derived : Pubkey) : Except VerifierError Unit := do
  rejectIf (given ≠ derived) .constraintSeeds
  rejectIf (w given).isSome .accountAlreadyInUse

def set (w : World) (address : Pubkey) (account : Account) : World :=
  Function.update w address (some account)

end World

/- Arguments. -/

structure InitializeConfigParams where
  environment : Environment
  administrator : Pubkey
  consumer : Pubkey

structure RegisterTrustedKeyParams where
  kid : Bytes
  publicKey : PublicKey
  notBefore : UnixTimestamp
  notAfter : UnixTimestamp

structure RegisterMandateParams where
  /-- Locates the account; must equal `mandateHash mandateId`. -/
  mandateHash : Bytes32
  mandateId : Bytes
  amountMicros : U64
  currency : Bytes
  recipient : Bytes
  policyVersion : Bytes
  agent : Bytes
  category : Bytes

def RegisterMandateParams.isValid (params : RegisterMandateParams) : Bool :=
  decide (0 < params.amountMicros.raw) &&
    isProfileText params.mandateId maxMandateLen &&
    isProfileText params.currency maxCurrencyLen &&
    isProfileText params.recipient maxRecipientLen &&
    isProfileText params.policyVersion maxPolicyLen &&
    isProfileText params.agent maxAgentLen &&
    isProfileText params.category maxCategoryLen

/-- One instruction with the accounts it was given, its signer first. `programUpgradeAuthority` is
what the loader's account shows. -/
inductive Operation
  | initializeConfig (upgradeAuthority : Pubkey) (programUpgradeAuthority : Option Pubkey)
      (config : Pubkey) (params : InitializeConfigParams)
  | registerTrustedKey (administrator config trustedKey : Pubkey) (params : RegisterTrustedKeyParams)
  | revokeTrustedKey (administrator config trustedKey : Pubkey)
  | registerMandate (administrator config mandate : Pubkey) (params : RegisterMandateParams)
  | revokeMandate (administrator config mandate : Pubkey)
  | consumeAuthorization (consumer config trustedKey mandate receipt : Pubkey)
      (nonceHash : Bytes32) (call : Invocation) (clock : UnixTimestamp)

/- Handlers. -/

section Handlers

variable (derivation : Derivation) (ids : ProgramIds)

/-- The config, signed for by its administrator. -/
def World.administered (w : World) (administrator config : Pubkey) :
    Except VerifierError VerifierConfig := do
  let loaded ← w.loadConfig config
  rejectIf (loaded.administrator ≠ administrator) .unauthorized
  pure loaded

def initializeConfig (w : World) (upgradeAuthority : Pubkey)
    (programUpgradeAuthority : Option Pubkey) (config : Pubkey) (params : InitializeConfigParams) :
    Except VerifierError World := do
  rejectIf (programUpgradeAuthority ≠ some upgradeAuthority) .unauthorized
  w.checkInit config (configAddress derivation params.environment)
  rejectIf (¬(params.administrator ≠ .zero ∧ params.consumer ≠ .zero ∧
    params.administrator ≠ params.consumer)) .invalidRoles
  pure (w.set config (.config ⟨params.administrator, params.consumer, params.environment⟩))

def registerTrustedKey (w : World) (administrator config trustedKey : Pubkey)
    (params : RegisterTrustedKeyParams) : Except VerifierError World := do
  let loaded ← w.administered administrator config
  w.checkInit trustedKey (trustedKeyAddress derivation config params.kid)
  rejectIf (¬(isProfileText params.kid maxKidLen ∧ loaded.environment.acceptsKid params.kid))
    .invalidKeyId
  -- The point itself is validated off-chain; no P-256 arithmetic runs here.
  rejectIf (¬(params.publicKey.bytes.head? = some 0x02 ∨ params.publicKey.bytes.head? = some 0x03))
    .invalidPublicKey
  rejectIf (¬(0 ≤ params.notBefore.seconds ∧ params.notBefore.seconds < params.notAfter.seconds))
    .invalidKeyWindow
  pure (w.set trustedKey (.trustedKey {
    config := config
    kid := params.kid
    publicKey := params.publicKey
    notBefore := params.notBefore
    notAfter := params.notAfter
    revoked := false }))

def revokeTrustedKey (w : World) (administrator config trustedKey : Pubkey) :
    Except VerifierError World := do
  let _ ← w.administered administrator config
  let key ← w.loadTrustedKey trustedKey
  rejectIf (key.config ≠ config) .unauthorized
  rejectIf key.revoked .alreadyRevoked
  pure (w.set trustedKey (.trustedKey { key with revoked := true }))

def registerMandate (w : World) (administrator config mandate : Pubkey)
    (params : RegisterMandateParams) : Except VerifierError World := do
  let _ ← w.administered administrator config
  w.checkInit mandate (mandateAddress derivation config params.mandateHash)
  rejectIf (params.isValid = false) .invalidMandate
  rejectIf (params.mandateHash ≠ mandateHash derivation.sha256 params.mandateId)
    .mandateHashMismatch
  pure (w.set mandate (.mandate {
    config := config
    mandateHash := params.mandateHash
    mandateId := params.mandateId
    amountMicros := params.amountMicros
    currency := params.currency
    recipient := params.recipient
    policyVersion := params.policyVersion
    agent := params.agent
    category := params.category
    revoked := false }))

def revokeMandate (w : World) (administrator config mandate : Pubkey) :
    Except VerifierError World := do
  let _ ← w.administered administrator config
  let loaded ← w.loadMandate mandate
  rejectIf (loaded.config ≠ config) .unauthorized
  rejectIf loaded.revoked .alreadyRevoked
  pure (w.set mandate (.mandate { loaded with revoked := true }))

/-- What a consume reads out of its transaction. -/
structure Token where
  publicKey : Bytes
  signingInput : Bytes
  header : JwtHeader
  claims : Claims
deriving DecidableEq

/-- The header and the claims of a signing input. -/
def readSigningInput (signingInput : Bytes) : Except VerifierError (JwtHeader × Claims) := do
  let decoded ← decodeSigningInput signingInput
  let header ← decoded.header
  let claims ← decoded.claims
  pure (header, claims)

def Invocation.readToken (call : Invocation) : Except VerifierError Token := do
  let precompile ← call.loadVerifiedPrecompile ids
  let verified ← parsePrecompileData precompile.data
  let (header, claims) ← readSigningInput verified.signingInput
  pure ⟨verified.publicKey, verified.signingInput, header, claims⟩

def checkClaims (claims : Claims) (now : UnixTimestamp) : Except VerifierError Unit := do
  rejectIf (claims.iss ≠ issuer) .issuerMismatch
  rejectIf (claims.verdict ≠ allowVerdict) .verdictNotAllow
  rejectIf (claims.iat.seconds + verdictLifetimeSeconds ≠ claims.exp.seconds) .invalidLifetime
  let latestIssue := now.seconds + maxIssuedAtSkewSeconds
  rejectIf (2 ^ 63 ≤ latestIssue) .issuedInFuture
  rejectIf (latestIssue < claims.iat.seconds) .issuedInFuture
  rejectIf (claims.exp.seconds ≤ now.seconds) .expired

def checkMandate (mandate : Mandate) (claims : Claims) : Except VerifierError Unit := do
  rejectIf mandate.revoked .mandateRevoked
  rejectIf (claims.mandate ≠ mandate.mandateId) .mandateMismatch
  rejectIf (claims.request.amountMicros ≠ mandate.amountMicros) .amountMismatch
  rejectIf (claims.request.currency ≠ mandate.currency) .currencyMismatch
  rejectIf (claims.request.recipient ≠ mandate.recipient) .recipientMismatch
  rejectIf (claims.policyVersion ≠ mandate.policyVersion) .policyMismatch
  rejectIf (claims.request.agent ≠ mandate.agent) .agentMismatch
  rejectIf (claims.request.category ≠ mandate.category) .categoryMismatch

def consumeAuthorization (w : World) (consumer config trustedKey mandate receipt : Pubkey)
    (nonceHashArgument : Bytes32) (call : Invocation) (now : UnixTimestamp) :
    Except VerifierError World := do
  let loaded ← w.loadConfig config
  rejectIf (config ≠ configAddress derivation loaded.environment) .constraintSeeds
  rejectIf (loaded.consumer ≠ consumer) .unauthorized
  let key ← w.loadTrustedKey trustedKey
  rejectIf (key.config ≠ config) .unauthorized
  let approved ← w.loadMandate mandate
  rejectIf (approved.config ≠ config) .unauthorized
  w.checkInit receipt (receiptAddress derivation config nonceHashArgument)
  let token ← call.readToken ids
  rejectIf (token.header.kid ≠ key.kid) .keyIdMismatch
  rejectIf (loaded.environment.acceptsKid token.header.kid = false) .invalidKeyId
  rejectIf key.revoked .keyRevoked
  rejectIf (token.publicKey ≠ key.publicKey.bytes) .publicKeyMismatch
  checkClaims token.claims now
  -- `iat` may lead the clock, so the clock itself must reach `not_before`.
  rejectIf (¬(key.notBefore.seconds ≤ now.seconds ∧
    key.notBefore.seconds ≤ token.claims.iat.seconds ∧
    token.claims.exp.seconds ≤ key.notAfter.seconds)) .outsideKeyWindow
  checkMandate approved token.claims
  rejectIf (nonceHash derivation.sha256 token.claims.nonce ≠ nonceHashArgument) .nonceHashMismatch
  pure (w.set receipt (.receipt {
    config := config
    nonceHash := nonceHashArgument
    signingInputHash := derivation.sha256 token.signingInput
    jtiHash := domainHash derivation.sha256 jtiDomain token.claims.jti
    mandate := mandate
    consumedAt := now
    expiresAt := token.claims.exp }))

def World.step (w : World) : Operation → Except VerifierError World
  | .initializeConfig upgradeAuthority programUpgradeAuthority config params =>
      initializeConfig derivation w upgradeAuthority programUpgradeAuthority config params
  | .registerTrustedKey administrator config trustedKey params =>
      registerTrustedKey derivation w administrator config trustedKey params
  | .revokeTrustedKey administrator config trustedKey =>
      revokeTrustedKey w administrator config trustedKey
  | .registerMandate administrator config mandate params =>
      registerMandate derivation w administrator config mandate params
  | .revokeMandate administrator config mandate => revokeMandate w administrator config mandate
  | .consumeAuthorization consumer config trustedKey mandate receipt nonceHash call clock =>
      consumeAuthorization derivation ids w consumer config trustedKey mandate receipt nonceHash call
        clock

end Handlers

end Verifier
