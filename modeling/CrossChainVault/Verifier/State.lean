import CrossChainVault.Base.Bytes
import CrossChainVault.Leg.State

set_option autoImplicit false

/- The accounts of the authorization verifier and the bounds of its first profile. -/

namespace Verifier

open Protocol (Bytes32)
open Leg (U64 UnixTimestamp)

/-- Why an instruction failed. A failed instruction leaves every account as it was. -/
inductive VerifierError
  | unauthorized
  | invalidRoles
  | invalidKeyId
  | invalidPublicKey
  | invalidKeyWindow
  | invalidMandate
  | mandateHashMismatch
  | alreadyRevoked
  | notTopLevel
  | invalidInstructionOrder
  | missingPrecompile
  | invalidPrecompileInstruction
  | invalidSigningInputLength
  | malformedSigningInput
  | invalidBase64Url
  | malformedJson
  | unsupportedJsonValue
  | duplicateField
  | unknownField
  | unsupportedClaim
  | missingField
  | invalidFieldLength
  | invalidNumber
  | unsupportedAlgorithm
  | unsupportedType
  | keyIdMismatch
  | publicKeyMismatch
  | keyRevoked
  | outsideKeyWindow
  | issuerMismatch
  | verdictNotAllow
  | invalidLifetime
  | issuedInFuture
  | expired
  | mandateRevoked
  | mandateMismatch
  | amountMismatch
  | currencyMismatch
  | recipientMismatch
  | policyMismatch
  | agentMismatch
  | categoryMismatch
  | nonceHashMismatch
  | invalidDeploymentAuthority
  | invalidAuthorizationMessage
  | unsupportedOperation
  | authorityMismatch
  | networkDomainMismatch
  | policyGenerationMismatch
  | invalidAuthorizationLifetime
  | invalidAuthorizationAmount
  | nonceMismatch
  | missingDeploymentInstruction
  | invalidDeploymentInstruction
  | policyGenerationExhausted
  -- The framework's own failures: a wrong address, an account that is not there or of another
  -- kind, and an address that is taken.
  | constraintSeeds
  | accountNotInitialized
  | accountAlreadyInUse
  -- The instructions sysvar holds no instruction at an index.
  | invalidArgument
deriving DecidableEq, Repr

abbrev Pubkey := Bytes32

/-- ASCII text. -/
def ascii (text : List Char) : Bytes := text.map fun letter => UInt8.ofNat letter.toNat

/-- An address or a digest, as the bytes of a seed. -/
def wide (value : Bytes32) : Bytes := Bytes.toBigEndian 32 value.raw

def configSeed : Bytes := ascii ['c', 'o', 'n', 'f', 'i', 'g']

def trustedKeySeed : Bytes := ascii ['t', 'r', 'u', 's', 't', 'e', 'd', '_', 'k', 'e', 'y']

def mandateSeed : Bytes := ascii ['m', 'a', 'n', 'd', 'a', 't', 'e']

def receiptSeed : Bytes := ascii ['c', 'o', 'n', 's', 'u', 'm', 'e', 'd']

/-- The domains of the digests, all of one program. -/
def programDomain : Bytes :=
  ascii ['e', 's', '2', '5', '6', '-', 'a', 'u', 't', 'h', 'o', 'r', 'i', 'z', 'a', 't', 'i', 'o',
    'n', '-', 'v', 'e', 'r', 'i', 'f', 'i', 'e', 'r', ':']

def nonceDomain : Bytes := programDomain ++ ascii ['n', 'o', 'n', 'c', 'e', ':', 'v', '1']

def mandateDomain : Bytes :=
  programDomain ++ ascii ['m', 'a', 'n', 'd', 'a', 't', 'e', ':', 'v', '1']

def jtiDomain : Bytes := programDomain ++ ascii ['j', 't', 'i', ':', 'v', '1']

def issuer : Bytes :=
  ascii ['h', 't', 't', 'p', 's', ':', '/', '/', 'v', 'e', 'r', 'd', 'i', 'c', 't', 's', '.', 's',
    'a', 'i', 'f', 'u', 'r', 'o', '.', 'c', 'o', 'm']

def allowVerdict : Bytes := ascii ['a', 'l', 'l', 'o', 'w']

def sandboxKidPrefix : Bytes := ascii ['s', 'a', 'n', 'd', 'b', 'o', 'x', '-']

/-- Every verdict expires exactly this long after issue. -/
def verdictLifetimeSeconds : Int := 300

/-- How far in the future `iat` may lie relative to the cluster clock. -/
def maxIssuedAtSkewSeconds : Int := 60

def maxKidLen : Nat := 32
def maxJtiLen : Nat := 64
def maxMandateLen : Nat := 64
def maxPolicyLen : Nat := 64
def maxNonceLen : Nat := 64
def maxAgentLen : Nat := 64
def maxCurrencyLen : Nat := 16
def maxRecipientLen : Nat := 128
def maxCategoryLen : Nat := 32

def compressedPublicKeyLen : Nat := 33

/-- A compressed P-256 key. -/
structure PublicKey where
  bytes : Bytes
  length : bytes.length = compressedPublicKeyLen
deriving DecidableEq

inductive Environment
  | production
  | sandbox
deriving DecidableEq, Repr

def Environment.seed : Environment → Bytes
  | .production => [0]
  | .sandbox => [1]

/-- Sandbox and production tokens share an issuer and claim shape; the kid prefix is the only
signed field that tells them apart. -/
def Environment.acceptsKid (environment : Environment) (kid : Bytes) : Bool :=
  let sandbox := sandboxKidPrefix.isPrefixOf kid
  match environment with
  | .production => !sandbox
  | .sandbox => sandbox

structure VerifierConfig where
  administrator : Pubkey
  consumer : Pubkey
  environment : Environment
deriving DecidableEq

structure TrustedKey where
  config : Pubkey
  kid : Bytes
  publicKey : PublicKey
  /-- Earliest accepted `iat` and cluster time. -/
  notBefore : UnixTimestamp
  /-- Latest accepted `exp`. -/
  notAfter : UnixTimestamp
  revoked : Bool
deriving DecidableEq

/-- The exact authorization context an administrator approved. It has no update path; a different
context needs a different mandate account. -/
structure Mandate where
  config : Pubkey
  mandateHash : Bytes32
  mandateId : Bytes
  /-- Signed `request.amount` scaled by 10^6. -/
  amountMicros : U64
  currency : Bytes
  recipient : Bytes
  policyVersion : Bytes
  agent : Bytes
  category : Bytes
  revoked : Bool
deriving DecidableEq

/-- Permanent evidence that one nonce was consumed under one config. -/
structure ConsumedAuthorization where
  config : Pubkey
  nonceHash : Bytes32
  signingInputHash : Bytes32
  jtiHash : Bytes32
  mandate : Pubkey
  consumedAt : UnixTimestamp
  expiresAt : UnixTimestamp
deriving DecidableEq

section Digests

variable (sha256 : Bytes → Bytes32)

def domainHash (domain value : Bytes) : Bytes32 := sha256 (domain ++ value)

def nonceHash (nonce : Bytes) : Bytes32 := domainHash sha256 nonceDomain nonce

def mandateHash (mandateId : Bytes) : Bytes32 := domainHash sha256 mandateDomain mandateId

end Digests

/-- The trusted-key address seed for a kid. A seed over 32 bytes aborts derivation, so longer kids
all map to the empty seed, which no valid kid can occupy, and are rejected by the handler. -/
def kidSeed (kid : Bytes) : Bytes := if maxKidLen < kid.length then [] else kid

/-- Printable ASCII without quote or backslash: the only string bytes the token parser accepts, so
registered values can always be matched. -/
def isProfileText (value : Bytes) (maxLen : Nat) : Bool :=
  !value.isEmpty && decide (value.length ≤ maxLen) &&
    value.all fun byte => decide (0x20 ≤ byte ∧ byte ≤ 0x7e) && byte != 0x22 && byte != 0x5c

end Verifier
