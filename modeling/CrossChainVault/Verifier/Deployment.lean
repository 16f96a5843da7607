import CrossChainVault.Verifier.Verdict

set_option autoImplicit false

/- The strategy-deployment authorization profile. A risk authority approves one deployment of
attributed custody by signing one fixed-width message. This program checks the fields it owns and
records the rest in a receipt, which the remote leg compares with its own accounts in the same
transaction. -/

namespace Verifier

open Result
open Protocol (Bytes32)
open Leg (U64 UnixTimestamp)

/- The message. All integers are little-endian. -/

/-- The sixteen bytes that name one approval. -/
abbrev Nonce := Unsigned 128

def deploymentProfileVersion : UInt8 := 2

/-- `SOLEVMAZ`. -/
def magic : Bytes := ascii ['S', 'O', 'L', 'E', 'V', 'M', 'A', 'Z']

def operationDeployToStrategy : UInt8 := 1

def messageLen : Nat := 154

/-- Longest accepted gap between `issuedAt` and `expiresAt`. -/
def maxLifetimeSeconds : Int := 300

/-- Domain of the deployment-context commitment. -/
def contextDomain : Bytes :=
  ascii ['s', 'o', 'l', 'e', 'v', 'm', '-', 'r', 'e', 'm', 'o', 't', 'e', '-', 'l', 'e', 'g', ':',
    'd', 'e', 'p', 'l', 'o', 'y', '-', 'c', 'o', 'n', 't', 'e', 'x', 't', ':', 'v', '2']

/-- One signed deployment approval. -/
structure DeploymentAuthorization where
  authority : Pubkey
  networkDomain : Bytes32
  policyGeneration : U64
  deploymentContext : Bytes32
  amount : U64
  nonce : Nonce
  issuedAt : UnixTimestamp
  expiresAt : UnixTimestamp
deriving DecidableEq

/-- `u64::to_le_bytes`. -/
def littleEndian64 (value : U64) : Bytes := (Bytes.toBigEndian 8 value.raw).reverse

/-- The two's complement of a signed second count. -/
def twosComplement (time : UnixTimestamp) : U64 :=
  ⟨(time.seconds % 2 ^ 64).toNat, by
    have low := Int.emod_nonneg time.seconds (show (2 : Int) ^ 64 ≠ 0 by decide)
    have high := Int.emod_lt_of_pos time.seconds (show (0 : Int) < 2 ^ 64 by decide)
    omega⟩

def nonceBytes (nonce : Nonce) : Bytes := Bytes.toBigEndian 16 nonce.raw

/-- The canonical bytes a risk authority signs. -/
def DeploymentAuthorization.encode (message : DeploymentAuthorization) : Bytes :=
  magic ++ ([deploymentProfileVersion] ++ ([operationDeployToStrategy] ++
    (wide message.authority ++ (wide message.networkDomain ++
    (littleEndian64 message.policyGeneration ++ (wide message.deploymentContext ++
    (littleEndian64 message.amount ++ (nonceBytes message.nonce ++
    (littleEndian64 (twosComplement message.issuedAt) ++
    littleEndian64 (twosComplement message.expiresAt))))))))))

/-- The next `width` bytes, and what is left. -/
def Reader.take (width : Nat) (cursor : Bytes) : Except VerifierError (Bytes × Bytes) := do
  rejectIf (cursor.length < width) .invalidAuthorizationMessage
  pure (cursor.take width, cursor.drop width)

def readWide (bytes : Bytes) : Bytes32 := .ofNat (Bytes.fromBigEndian bytes)

/-- `u64::from_le_bytes`. -/
def readU64 (bytes : Bytes) : U64 := .ofNat (Bytes.fromBigEndian bytes.reverse)

def readNonce (bytes : Bytes) : Nonce := .ofNat (Bytes.fromBigEndian bytes)

/-- `i64::from_le_bytes`. -/
def readTime (bytes : Bytes) : UnixTimestamp :=
  let value := readU64 bytes
  if low : value.raw < 2 ^ 63 then ⟨value.raw, by omega, by omega⟩
  else ⟨value.raw - 2 ^ 64, by omega, by have := value.bound; omega⟩

/-- Accepts exactly one encoding: the layout above, with no trailing bytes, this profile's magic and
version, and the deploy operation. -/
def DeploymentAuthorization.decode (bytes : Bytes) :
    Except VerifierError DeploymentAuthorization := do
  rejectIf (bytes.length ≠ messageLen) .invalidAuthorizationMessage
  let (head, cursor) ← Reader.take 8 bytes
  rejectIf (head ≠ magic) .invalidAuthorizationMessage
  let (version, cursor) ← Reader.take 1 cursor
  rejectIf (version ≠ [deploymentProfileVersion]) .invalidAuthorizationMessage
  let (operation, cursor) ← Reader.take 1 cursor
  rejectIf (operation ≠ [operationDeployToStrategy]) .unsupportedOperation
  let (authority, cursor) ← Reader.take 32 cursor
  let (networkDomain, cursor) ← Reader.take 32 cursor
  let (policyGeneration, cursor) ← Reader.take 8 cursor
  let (deploymentContext, cursor) ← Reader.take 32 cursor
  let (amount, cursor) ← Reader.take 8 cursor
  let (nonce, cursor) ← Reader.take 16 cursor
  let (issuedAt, cursor) ← Reader.take 8 cursor
  let (expiresAt, _) ← Reader.take 8 cursor
  pure {
    authority := readWide authority
    networkDomain := readWide networkDomain
    policyGeneration := readU64 policyGeneration
    deploymentContext := readWide deploymentContext
    amount := readU64 amount
    nonce := readNonce nonce
    issuedAt := readTime issuedAt
    expiresAt := readTime expiresAt }

/-- The remote-leg state one approval is scoped to. The risk authority hashes what it evaluated; the
remote leg hashes what it holds at execution. Every field is fixed width, so the concatenation has
one reading. -/
structure DeploymentContext where
  remoteLegProgram : Pubkey
  remoteConfig : Pubkey
  deploymentId : Bytes32
  vaultId : Bytes32
  /-- Advanced by every canonical config update. -/
  configVersion : U64
  strategyConfig : Pubkey
  adapterProgram : Pubkey
  adapterState : Pubkey
  adapterAuthority : Pubkey
  adapterTokenVault : Pubkey
  maxRemotePrincipal : U64
  assetMint : Pubkey
  tokenProgram : Pubkey
  custodyAuthority : Pubkey
  custodyTokenAccount : Pubkey
  /-- Exposure before this deployment. -/
  deployedPrincipal : U64
deriving DecidableEq

/-- The domain, the verifier's id and every field in order. -/
def DeploymentContext.bytes (verifier : Pubkey) (context : DeploymentContext) : Bytes :=
  contextDomain ++ (wide verifier ++ (wide context.remoteLegProgram ++ (wide context.remoteConfig ++
    (wide context.deploymentId ++ (wide context.vaultId ++ (littleEndian64 context.configVersion ++
    (wide context.strategyConfig ++ (wide context.adapterProgram ++ (wide context.adapterState ++
    (wide context.adapterAuthority ++ (wide context.adapterTokenVault ++
    (littleEndian64 context.maxRemotePrincipal ++ (wide context.assetMint ++
    (wide context.tokenProgram ++ (wide context.custodyAuthority ++
    (wide context.custodyTokenAccount ++ littleEndian64 context.deployedPrincipal))))))))))))))))

/-- SHA-256 over the domain, this verifier's id and every field in order. -/
def DeploymentContext.commitment (derivation : Derivation) (ids : ProgramIds)
    (context : DeploymentContext) : Bytes32 :=
  derivation.sha256 (context.bytes ids.verifier)

/- The accounts. -/

structure DeploymentAuthority where
  version : UInt8
  /-- Registers and revokes risk keys and advances the policy generation. -/
  administrator : Pubkey
  remoteLegProgram : Pubkey
  remoteConfig : Pubkey
  /-- Set once by the upgrade authority. -/
  networkDomain : Bytes32
  /-- Every signed approval names the generation it was issued under, so advancing it voids all
  outstanding approvals at once. -/
  policyGeneration : U64
deriving DecidableEq

/-- A P-256 key the risk authority signs deployment approvals with. One account per key and no close
path, so a revoked key stays revoked. -/
structure RiskKey where
  config : Pubkey
  publicKey : PublicKey
  /-- Earliest accepted `issuedAt` and cluster time. -/
  notBefore : UnixTimestamp
  /-- Latest accepted `expiresAt`. -/
  notAfter : UnixTimestamp
  revoked : Bool
deriving DecidableEq

/-- Permanent evidence that one approval was spent. -/
structure DeploymentReceipt where
  version : UInt8
  config : Pubkey
  remoteConfig : Pubkey
  riskKey : Pubkey
  nonce : Nonce
  deploymentContext : Bytes32
  amount : U64
  policyGeneration : U64
  issuedAt : UnixTimestamp
  expiresAt : UnixTimestamp
  consumedAt : UnixTimestamp
  messageHash : Bytes32
deriving DecidableEq

/-- An account of this profile, by its discriminator. -/
inductive DeploymentAccount
  | authority (authority : DeploymentAuthority)
  | riskKey (key : RiskKey)
  | receipt (receipt : DeploymentReceipt)
deriving DecidableEq

/-- The profile's accounts by address. -/
abbrev Approvals := Pubkey → Option DeploymentAccount

def deploymentAuthoritySeed : Bytes :=
  ascii ['s', 'o', 'l', 'e', 'v', 'm', '-', 'd', 'e', 'p', 'l', 'o', 'y', '-', 'a', 'u', 't', 'h',
    'o', 'r', 'i', 't', 'y']

def riskKeySeed : Bytes :=
  ascii ['s', 'o', 'l', 'e', 'v', 'm', '-', 'r', 'i', 's', 'k', '-', 'k', 'e', 'y']

def deploymentReceiptSeed : Bytes :=
  ascii ['s', 'o', 'l', 'e', 'v', 'm', '-', 'd', 'e', 'p', 'l', 'o', 'y', '-', 'r', 'e', 'c', 'e',
    'i', 'p', 't']

section Addresses

variable (derivation : Derivation)

def deploymentAuthorityAddress (remoteLegProgram remoteConfig : Pubkey) : Pubkey :=
  derivation.address (deploymentAuthoritySeed ++ wide remoteLegProgram ++ wide remoteConfig)

/-- A compressed key spans two seeds, parity byte then x coordinate. -/
def riskKeyAddress (config : Pubkey) (publicKey : PublicKey) : Pubkey :=
  derivation.address
    (riskKeySeed ++ wide config ++ (publicKey.bytes.take 1 ++ publicKey.bytes.drop 1))

def deploymentReceiptAddress (config : Pubkey) (nonce : Nonce) : Pubkey :=
  derivation.address (deploymentReceiptSeed ++ wide config ++ nonceBytes nonce)

end Addresses

namespace Approvals

def loadAuthority (a : Approvals) (address : Pubkey) : Except VerifierError DeploymentAuthority :=
  match a address with
  | some (.authority authority) => .ok authority
  | _ => .error .accountNotInitialized

def loadRiskKey (a : Approvals) (address : Pubkey) : Except VerifierError RiskKey :=
  match a address with
  | some (.riskKey key) => .ok key
  | _ => .error .accountNotInitialized

/-- An account to be created is at the address its seeds derive, which is still free. -/
def checkInit (a : Approvals) (given derived : Pubkey) : Except VerifierError Unit := do
  rejectIf (given ≠ derived) .constraintSeeds
  rejectIf (a given).isSome .accountAlreadyInUse

def set (a : Approvals) (address : Pubkey) (account : DeploymentAccount) : Approvals :=
  Function.update a address (some account)

/-- The authority, signed for by its administrator. -/
def administered (a : Approvals) (administrator config : Pubkey) :
    Except VerifierError DeploymentAuthority := do
  let loaded ← a.loadAuthority config
  rejectIf (loaded.administrator ≠ administrator) .unauthorized
  pure loaded

end Approvals

/- The transaction around a consume. -/

/-- Anchor selector of the remote leg's `deploy_to_strategy`. -/
def deployToStrategyDiscriminator : Bytes := [215, 49, 61, 222, 180, 60, 9, 118]

/-- Account positions in `deploy_to_strategy` that bind it to this consume. -/
def deployAccountCount : Nat := 15
def deployRemoteConfigIndex : Nat := 0
def deployReceiptIndex : Nat := 13

/-- Requires the instruction right after this one to be the remote leg's `deploy_to_strategy` for
this namespace, spending this receipt for this exact amount. -/
def Invocation.checkDeploymentFollows (call : Invocation) (authority : DeploymentAuthority)
    (receipt : Pubkey) (amount : U64) : Except VerifierError Unit := do
  let next ← okOr call.instructions[call.current + 1]? .missingDeploymentInstruction
  rejectIf (¬(next.programId = authority.remoteLegProgram ∧
    next.data = deployToStrategyDiscriminator ++ littleEndian64 amount ∧
    next.accounts.length = deployAccountCount ∧
    next.accounts[deployRemoteConfigIndex]? = some authority.remoteConfig ∧
    next.accounts[deployReceiptIndex]? = some receipt)) .invalidDeploymentInstruction

/- Handlers. -/

structure InitializeDeploymentAuthorityParams where
  administrator : Pubkey
  networkDomain : Bytes32

structure RegisterRiskKeyParams where
  publicKey : PublicKey
  notBefore : UnixTimestamp
  notAfter : UnixTimestamp

/-- What an instruction sees of an account it only names. -/
structure NamedAccount where
  key : Pubkey
  owner : Pubkey
  executable : Bool
  dataIsEmpty : Bool

/-- One instruction with the accounts it was given, its signer first. -/
inductive DeploymentOperation
  | initializeDeploymentAuthority (upgradeAuthority : Pubkey)
      (programUpgradeAuthority : Option Pubkey) (remoteLegProgram remoteConfig : NamedAccount)
      (config : Pubkey) (params : InitializeDeploymentAuthorityParams)
  | registerRiskKey (administrator config riskKey : Pubkey) (params : RegisterRiskKeyParams)
  | revokeRiskKey (administrator config riskKey : Pubkey)
  | advancePolicyGeneration (administrator config : Pubkey)
  | consumeDeploymentAuthorization (config riskKey receipt : Pubkey) (nonce : Nonce)
      (call : Invocation) (clock : UnixTimestamp)

section Handlers

variable (derivation : Derivation) (ids : ProgramIds)

def initializeDeploymentAuthority (a : Approvals) (upgradeAuthority : Pubkey)
    (programUpgradeAuthority : Option Pubkey) (remoteLegProgram remoteConfig : NamedAccount)
    (config : Pubkey) (params : InitializeDeploymentAuthorityParams) :
    Except VerifierError Approvals := do
  rejectIf (programUpgradeAuthority ≠ some upgradeAuthority) .unauthorized
  rejectIf (¬(remoteLegProgram.executable ∧ remoteLegProgram.key ≠ ids.verifier))
    .invalidDeploymentAuthority
  rejectIf (remoteConfig.owner ≠ remoteLegProgram.key) .invalidDeploymentAuthority
  rejectIf remoteConfig.dataIsEmpty .invalidDeploymentAuthority
  a.checkInit config (deploymentAuthorityAddress derivation remoteLegProgram.key remoteConfig.key)
  rejectIf (¬(params.administrator ≠ .zero ∧ params.networkDomain ≠ .zero))
    .invalidDeploymentAuthority
  pure (a.set config (.authority {
    version := deploymentProfileVersion
    administrator := params.administrator
    remoteLegProgram := remoteLegProgram.key
    remoteConfig := remoteConfig.key
    networkDomain := params.networkDomain
    policyGeneration := .zero }))

def registerRiskKey (a : Approvals) (administrator config riskKey : Pubkey)
    (params : RegisterRiskKeyParams) : Except VerifierError Approvals := do
  let _ ← a.administered administrator config
  a.checkInit riskKey (riskKeyAddress derivation config params.publicKey)
  -- The point itself is validated off-chain; no P-256 arithmetic runs here.
  rejectIf (¬(params.publicKey.bytes.head? = some 0x02 ∨ params.publicKey.bytes.head? = some 0x03))
    .invalidPublicKey
  rejectIf (¬(0 ≤ params.notBefore.seconds ∧ params.notBefore.seconds < params.notAfter.seconds))
    .invalidKeyWindow
  pure (a.set riskKey (.riskKey {
    config := config
    publicKey := params.publicKey
    notBefore := params.notBefore
    notAfter := params.notAfter
    revoked := false }))

def revokeRiskKey (a : Approvals) (administrator config riskKey : Pubkey) :
    Except VerifierError Approvals := do
  let _ ← a.administered administrator config
  let key ← a.loadRiskKey riskKey
  rejectIf (key.config ≠ config) .unauthorized
  rejectIf key.revoked .alreadyRevoked
  pure (a.set riskKey (.riskKey { key with revoked := true }))

def advancePolicyGeneration (a : Approvals) (administrator config : Pubkey) :
    Except VerifierError Approvals := do
  let loaded ← a.administered administrator config
  let generation ← loaded.policyGeneration.checkedAdd 1 .policyGenerationExhausted
  pure (a.set config (.authority { loaded with policyGeneration := generation }))

def checkTimes (message : DeploymentAuthorization) (now : UnixTimestamp) :
    Except VerifierError Unit := do
  let latestExpiry := message.issuedAt.seconds + maxLifetimeSeconds
  rejectIf (2 ^ 63 ≤ latestExpiry) .invalidAuthorizationLifetime
  rejectIf (¬(message.issuedAt.seconds < message.expiresAt.seconds ∧
    message.expiresAt.seconds ≤ latestExpiry)) .invalidAuthorizationLifetime
  let latestIssue := now.seconds + maxIssuedAtSkewSeconds
  rejectIf (2 ^ 63 ≤ latestIssue) .issuedInFuture
  rejectIf (latestIssue < message.issuedAt.seconds) .issuedInFuture
  rejectIf (message.expiresAt.seconds ≤ now.seconds) .expired

/-- The approval a consume reads out of its transaction. -/
def Invocation.readApproval (call : Invocation) :
    Except VerifierError (VerifiedSignature × DeploymentAuthorization) := do
  let precompile ← call.loadVerifiedPrecompile ids
  let verified ← parsePrecompileData precompile.data
  let message ← DeploymentAuthorization.decode verified.signingInput
  pure (verified, message)

def consumeDeploymentAuthorization (a : Approvals) (config riskKey receipt : Pubkey)
    (nonce : Nonce) (call : Invocation) (now : UnixTimestamp) : Except VerifierError Approvals := do
  let authority ← a.loadAuthority config
  rejectIf (config ≠ deploymentAuthorityAddress derivation authority.remoteLegProgram
    authority.remoteConfig) .constraintSeeds
  let key ← a.loadRiskKey riskKey
  rejectIf (key.config ≠ config) .unauthorized
  a.checkInit receipt (deploymentReceiptAddress derivation config nonce)
  let (verified, message) ← call.readApproval ids
  rejectIf key.revoked .keyRevoked
  rejectIf (verified.publicKey ≠ key.publicKey.bytes) .publicKeyMismatch
  rejectIf (message.authority ≠ config) .authorityMismatch
  rejectIf (message.networkDomain ≠ authority.networkDomain) .networkDomainMismatch
  rejectIf (message.policyGeneration ≠ authority.policyGeneration) .policyGenerationMismatch
  rejectIf (message.amount.raw = 0) .invalidAuthorizationAmount
  rejectIf (message.nonce ≠ nonce) .nonceMismatch
  checkTimes message now
  -- `issuedAt` may lead the clock, so the clock itself must reach `notBefore`.
  rejectIf (¬(key.notBefore.seconds ≤ now.seconds ∧
    key.notBefore.seconds ≤ message.issuedAt.seconds ∧
    message.expiresAt.seconds ≤ key.notAfter.seconds)) .outsideKeyWindow
  call.checkDeploymentFollows authority receipt message.amount
  pure (a.set receipt (.receipt {
    version := deploymentProfileVersion
    config := config
    remoteConfig := authority.remoteConfig
    riskKey := riskKey
    nonce := nonce
    deploymentContext := message.deploymentContext
    amount := message.amount
    policyGeneration := message.policyGeneration
    issuedAt := message.issuedAt
    expiresAt := message.expiresAt
    consumedAt := now
    messageHash := derivation.sha256 verified.signingInput }))

def Approvals.step (a : Approvals) : DeploymentOperation → Except VerifierError Approvals
  | .initializeDeploymentAuthority upgradeAuthority programUpgradeAuthority remoteLegProgram
      remoteConfig config params =>
      initializeDeploymentAuthority derivation ids a upgradeAuthority programUpgradeAuthority
        remoteLegProgram remoteConfig config params
  | .registerRiskKey administrator config riskKey params =>
      registerRiskKey derivation a administrator config riskKey params
  | .revokeRiskKey administrator config riskKey => revokeRiskKey a administrator config riskKey
  | .advancePolicyGeneration administrator config => advancePolicyGeneration a administrator config
  | .consumeDeploymentAuthorization config riskKey receipt nonce call clock =>
      consumeDeploymentAuthorization derivation ids a config riskKey receipt nonce call clock

end Handlers

end Verifier
