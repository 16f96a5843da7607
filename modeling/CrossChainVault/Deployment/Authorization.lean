import CrossChainVault.Leg.Program
import CrossChainVault.Verifier.Shape

set_option autoImplicit false

/- The risk authorization every strategy deployment needs. Deploying is the one instruction that
increases strategy exposure, so it runs only directly after the verifier consumed a fresh,
single-use approval for exactly this deployment. There is no switch: without an adopted policy no
deployment can run, and an adopted policy cannot be changed or closed. -/

namespace Deployment

open Result
open Protocol (Bytes32)
open Leg (U64 UnixTimestamp AdapterCall RemoteLegError)
open Verifier (Pubkey Nonce Invocation TransactionInstruction DeploymentContext DeploymentReceipt
  DeploymentAuthority Approvals ascii wide)

/-- The native signature program. It accepts many layouts; of the one with a single signature in its
own data only the key, the signature and the message are known. -/
structure NativeProgram where
  /-- The P-256 check of one key, signature and message. -/
  verifies : Bytes → Bytes → Bytes → Bool
  /-- Whether the instruction at this index succeeds. -/
  accepts : List TransactionInstruction → Nat → Bool
  sound : ∀ instructions index instruction key signature message,
    instructions[index]? = some instruction →
    Verifier.nativeReads instruction.data = some (key, signature, message) →
    accepts instructions index = true → verifies key signature message = true

/-- What the two programs run on: the ids of the programs, the addresses derived under either of the
two, the digests, and the native program. -/
structure Cluster extends Verifier.ProgramIds where
  remoteLeg : Pubkey
  distinct : [verifier, secp256r1, remoteLeg].Nodup
  derivation : Verifier.Derivation
  legAddress : Bytes → Pubkey
  digests : Leg.Digests
  native : NativeProgram

def remoteConfigSeed : Bytes :=
  ascii ['r', 'e', 'm', 'o', 't', 'e', '-', 'c', 'o', 'n', 'f', 'i', 'g']

def strategyConfigSeed : Bytes :=
  ascii ['s', 't', 'r', 'a', 't', 'e', 'g', 'y', '-', 'c', 'o', 'n', 'f', 'i', 'g']

/-- The keys a leg's configuration and strategy configuration fix for good. -/
structure LegKeys where
  administrator : Pubkey
  assetMint : Pubkey
  tokenProgram : Pubkey
  custodyAuthority : Pubkey
  custodyTokenAccount : Pubkey
  adapterProgram : Pubkey
  adapterState : Pubkey
  adapterAuthority : Pubkey
  adapterTokenVault : Pubkey
deriving DecidableEq

/-- Which verifier deployment authority approves this leg's deployments. Set once, by the
administrator, and never changed. -/
structure DeployAuthorizationPolicy where
  /-- The verifier's deployment authority for this leg and namespace. -/
  authorizationConfig : Pubkey
  adoptedAt : UnixTimestamp
deriving DecidableEq

/-- A leg under its remote configuration's address. -/
structure RemoteLeg where
  keys : LegKeys
  accounts : Leg.Accounts
  policy : Option DeployAuthorizationPolicy

inductive AuthorizationError
  | deploymentNotTopLevel
  | deploymentAuthorizationRequired
  | invalidAuthorizationReceipt
  | authorizationExpired
  | authorizationAmountMismatch
  | authorizationContextMismatch
  | invalidAuthorizationPolicy
  | unauthorized
  -- The framework's own failures, as in the verifier.
  | constraintSeeds
  | accountNotInitialized
  | accountAlreadyInUse
  | invalidArgument
deriving DecidableEq, Repr

/-- Why an instruction failed. -/
inductive Failure
  | verifier (error : Verifier.VerifierError)
  | remoteLeg (error : RemoteLegError)
  | authorization (error : AuthorizationError)
  | invalidSignature
deriving DecidableEq, Repr

/-- Anchor selector of the verifier's `consume_deployment_authorization`. -/
def consumeDeploymentAuthorizationDiscriminator : Bytes := [46, 23, 13, 147, 123, 182, 177, 30]

/-- Account positions in the verifier's consume instruction. -/
def consumeConfigIndex : Nat := 1
def consumeRiskKeyIndex : Nat := 2
def consumeReceiptIndex : Nat := 3

section Leg

variable (cluster : Cluster)

def remoteConfigAddress (deploymentId vaultId : Bytes32) : Pubkey :=
  cluster.legAddress (remoteConfigSeed ++ wide deploymentId ++ wide vaultId)

def strategyConfigAddress (remoteConfig : Pubkey) : Pubkey :=
  cluster.legAddress (strategyConfigSeed ++ wide remoteConfig)

/-- The deployment an approval must name, read from the leg's own accounts just before the
deployment would run. -/
def deploymentContext (remoteConfig : Pubkey) (leg : RemoteLeg) : DeploymentContext where
  remoteLegProgram := cluster.remoteLeg
  remoteConfig := remoteConfig
  deploymentId := leg.accounts.config.deploymentId
  vaultId := leg.accounts.config.vaultId
  configVersion := leg.accounts.config.configVersion
  strategyConfig := strategyConfigAddress cluster remoteConfig
  adapterProgram := leg.keys.adapterProgram
  adapterState := leg.keys.adapterState
  adapterAuthority := leg.keys.adapterAuthority
  adapterTokenVault := leg.keys.adapterTokenVault
  maxRemotePrincipal := leg.accounts.maxRemotePrincipal
  assetMint := leg.keys.assetMint
  tokenProgram := leg.keys.tokenProgram
  custodyAuthority := leg.keys.custodyAuthority
  custodyTokenAccount := leg.keys.custodyTokenAccount
  deployedPrincipal := leg.accounts.position.deployedPrincipal

/-- The approval a deployment spends. -/
structure Authorization where
  policy : DeployAuthorizationPolicy
  receiptKey : Pubkey
  receipt : DeploymentReceipt
  call : Invocation

namespace Authorization

variable (authorization : Authorization)

def checkConsumedJustBefore : Except AuthorizationError Unit := do
  let call := authorization.call
  rejectIf (call.stackHeight ≠ Verifier.transactionLevelStackHeight) .deploymentNotTopLevel
  let this ← okOr call.instructions[call.current]? .invalidArgument
  rejectIf (this.programId ≠ cluster.remoteLeg) .deploymentNotTopLevel
  rejectIf (call.current = 0) .deploymentAuthorizationRequired
  let consume ← okOr call.instructions[call.current - 1]? .deploymentAuthorizationRequired
  rejectIf (¬(consume.programId = cluster.verifier ∧
    consume.data = consumeDeploymentAuthorizationDiscriminator ++
      Verifier.nonceBytes authorization.receipt.nonce ∧
    consume.accounts[consumeConfigIndex]? = some authorization.policy.authorizationConfig ∧
    consume.accounts[consumeReceiptIndex]? = some authorization.receiptKey))
    .deploymentAuthorizationRequired

def receiptAddressIsCanonical : Prop :=
  authorization.receiptKey = Verifier.deploymentReceiptAddress cluster.derivation
    authorization.receipt.config authorization.receipt.nonce

instance : Decidable (authorization.receiptAddressIsCanonical cluster) :=
  inferInstanceAs (Decidable (_ = _))

/-- Requires the preceding instruction to have consumed this receipt for this leg, and the receipt
to name exactly this deployment. -/
def check (remoteConfig : Pubkey) (context : DeploymentContext) (amount : U64)
    (now : UnixTimestamp) : Except AuthorizationError Unit := do
  authorization.checkConsumedJustBefore cluster
  let receipt := authorization.receipt
  rejectIf (¬(receipt.version = Verifier.deploymentProfileVersion ∧
    receipt.config = authorization.policy.authorizationConfig ∧
    receipt.remoteConfig = remoteConfig ∧ authorization.receiptAddressIsCanonical cluster))
    .invalidAuthorizationReceipt
  -- Spent in this transaction, not carried over from an earlier one.
  rejectIf (receipt.consumedAt ≠ now) .invalidAuthorizationReceipt
  rejectIf (receipt.expiresAt.seconds ≤ now.seconds) .authorizationExpired
  rejectIf (receipt.amount ≠ amount) .authorizationAmountMismatch
  rejectIf (receipt.deploymentContext ≠
    context.commitment cluster.derivation cluster.toProgramIds) .authorizationContextMismatch

end Authorization

def loadReceipt (approvals : Approvals) (address : Pubkey) :
    Except AuthorizationError DeploymentReceipt :=
  match approvals address with
  | some (.receipt receipt) => .ok receipt
  | _ => .error .accountNotInitialized

def loadDeploymentAuthority (approvals : Approvals) (address : Pubkey) :
    Except AuthorizationError DeploymentAuthority :=
  match approvals address with
  | some (.authority authority) => .ok authority
  | _ => .error .accountNotInitialized

/-- A refused approval is reported by what the check found; the leg's other checks report
themselves. -/
def legFailure (checked : Except AuthorizationError Unit) (error : RemoteLegError) : Failure :=
  match error, checked with
  | .deploymentAuthorizationRequired, .error refused => .authorization refused
  | _, _ => .remoteLeg error

namespace RemoteLeg

variable (leg : RemoteLeg) (remoteConfig : Pubkey) (approvals : Approvals)

/-- One time adoption of the risk authority that approves deployments. Only one address can be bound
to this leg and namespace, so no other authority can be adopted. -/
def initializeDeployAuthorization (administrator authorizationConfig : Pubkey)
    (now : UnixTimestamp) : Except AuthorizationError RemoteLeg := do
  rejectIf (leg.keys.administrator ≠ administrator) .unauthorized
  let authority ← loadDeploymentAuthority approvals authorizationConfig
  rejectIf (authorizationConfig ≠
    Verifier.deploymentAuthorityAddress cluster.derivation cluster.remoteLeg remoteConfig)
    .constraintSeeds
  rejectIf leg.policy.isSome .accountAlreadyInUse
  rejectIf (¬(authority.version = Verifier.deploymentProfileVersion ∧
    authority.remoteLegProgram = cluster.remoteLeg ∧ authority.remoteConfig = remoteConfig))
    .invalidAuthorizationPolicy
  pure { leg with policy := some ⟨authorizationConfig, now⟩ }

/-- Sends attributed custody to the strategy adapter and spends one approval for exactly its
amount. -/
def deployToStrategy (receiptKey : Pubkey) (amount : U64) (adapterCall : AdapterCall)
    (call : Invocation) (now : UnixTimestamp) : Except Failure RemoteLeg := do
  let policy ← (okOr leg.policy .accountNotInitialized).mapError .authorization
  let receipt ← (loadReceipt approvals receiptKey).mapError .authorization
  let authorization : Authorization := ⟨policy, receiptKey, receipt, call⟩
  let checked := authorization.check cluster remoteConfig
    (deploymentContext cluster remoteConfig leg) amount now
  let accounts ← (leg.accounts.deployToStrategy checked.isOk amount adapterCall).mapError
    (legFailure checked)
  pure { leg with accounts := accounts }

end RemoteLeg

end Leg

end Deployment
