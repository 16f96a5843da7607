import CrossChainVault.Base.Run
import CrossChainVault.Deployment.Authorization

set_option autoImplicit false

/- The verifier's deployment accounts and the legs of one leg program, under transactions: atomic
lists of instructions, each of which may lead to further calls of either program. -/

namespace Deployment

open Result
open Leg (U64 UnixTimestamp AdapterCall)
open Verifier (Pubkey Nonce Invocation TransactionInstruction Approvals DeploymentOperation wide)

/-- The event a deployment emits. -/
structure AssetsDeployed where
  remoteConfig : Pubkey
  adapterState : Pubkey
  deployedNow : U64
  attributedPrincipal : U64
  deployedPrincipal : U64
  deployedAt : UnixTimestamp
deriving DecidableEq

/-- One successful deployment: its event, and the receipt it was given. -/
structure Execution where
  event : AssetsDeployed
  receipt : Pubkey
deriving DecidableEq

structure World where
  approvals : Approvals
  legs : Pubkey → Option RemoteLeg
  /-- The deployments so far, oldest first. -/
  deployed : List Execution

def World.empty : World := ⟨fun _ => none, fun _ => none, []⟩

def World.setLeg (w : World) (remoteConfig : Pubkey) (leg : RemoteLeg) : World :=
  { w with legs := Function.update w.legs remoteConfig (some leg) }

/- What the two programs are asked. -/

/-- Whether an instruction of the leg deploys. -/
def isDeployment : Leg.Instruction → Bool
  | .deployToStrategy .. => true
  | _ => false

/-- An instruction for one leg. -/
inductive LegOperation
  | initializeRemoteLeg (setup : Leg.Setup) (keys : LegKeys)
  | initializeDeployAuthorization (administrator authorizationConfig : Pubkey)
  | deployToStrategy (receipt : Pubkey) (amount : U64) (adapterCall : AdapterCall)
  | plain (ctx : Leg.Context) (instruction : Leg.Instruction)
      (other : isDeployment instruction = false)

inductive Request
  | verifier (operation : DeploymentOperation)
  | remoteLeg (remoteConfig : Pubkey) (operation : LegOperation)

/-- A consume reads the transaction it runs in. -/
def operationWithin (call : Invocation) (clock : UnixTimestamp) :
    DeploymentOperation → DeploymentOperation
  | .consumeDeploymentAuthorization config riskKey receipt nonce _ _ =>
      .consumeDeploymentAuthorization config riskKey receipt nonce call clock
  | other => other

section Cluster

variable (cluster : Cluster)

namespace World

variable (w : World)

def leg (remoteConfig : Pubkey) : Except Failure RemoteLeg :=
  okOr (w.legs remoteConfig) (.authorization .accountNotInitialized)

/-- The leg's initializing instructions, which create its accounts at its own address. -/
def initializeRemoteLeg (remoteConfig : Pubkey) (setup : Leg.Setup) (keys : LegKeys) :
    Except Failure World := do
  rejectIf (remoteConfig ≠ remoteConfigAddress cluster setup.deploymentId setup.vaultId)
    (.authorization .constraintSeeds)
  rejectIf (w.legs remoteConfig).isSome (.authorization .accountAlreadyInUse)
  let accounts ← setup.create.mapError .remoteLeg
  pure (w.setLeg remoteConfig ⟨keys, accounts, none⟩)

def initializeDeployAuthorization (remoteConfig administrator authorizationConfig : Pubkey)
    (now : UnixTimestamp) : Except Failure World := do
  let leg ← w.leg remoteConfig
  let leg ← (leg.initializeDeployAuthorization cluster remoteConfig w.approvals administrator
    authorizationConfig now).mapError .authorization
  pure (w.setLeg remoteConfig leg)

def deployToStrategy (remoteConfig receipt : Pubkey) (amount : U64) (adapterCall : AdapterCall)
    (call : Invocation) (now : UnixTimestamp) : Except Failure World := do
  let leg ← w.leg remoteConfig
  let leg ← leg.deployToStrategy cluster remoteConfig w.approvals receipt amount adapterCall call now
  let event : AssetsDeployed := {
    remoteConfig := remoteConfig
    adapterState := leg.keys.adapterState
    deployedNow := amount
    attributedPrincipal := leg.accounts.position.attributedPrincipal
    deployedPrincipal := leg.accounts.position.deployedPrincipal
    deployedAt := now }
  pure { w.setLeg remoteConfig leg with deployed := w.deployed ++ [⟨event, receipt⟩] }

/-- Any other instruction of the leg, at the transaction's clock. -/
def plain (remoteConfig : Pubkey) (ctx : Leg.Context) (instruction : Leg.Instruction)
    (now : UnixTimestamp) : Except Failure World := do
  let leg ← w.leg remoteConfig
  let accounts ← (leg.accounts.step cluster.digests { ctx with clock := now } instruction).mapError
    .remoteLeg
  pure (w.setLeg remoteConfig { leg with accounts := accounts })

def perform (call : Invocation) (now : UnixTimestamp) : Request → Except Failure World
  | .verifier operation => do
      let approvals ← (w.approvals.step cluster.derivation cluster.toProgramIds
        (operationWithin call now operation)).mapError .verifier
      pure { w with approvals := approvals }
  | .remoteLeg remoteConfig (.initializeRemoteLeg setup keys) =>
      w.initializeRemoteLeg cluster remoteConfig setup keys
  | .remoteLeg remoteConfig (.initializeDeployAuthorization administrator authorizationConfig) =>
      w.initializeDeployAuthorization cluster remoteConfig administrator authorizationConfig now
  | .remoteLeg remoteConfig (.deployToStrategy receipt amount adapterCall) =>
      w.deployToStrategy cluster remoteConfig receipt amount adapterCall call now
  | .remoteLeg remoteConfig (.plain ctx instruction _) =>
      w.plain cluster remoteConfig ctx instruction now

end World

/- Transactions. -/

/-- Whether an instruction's bytes and accounts ask for this, as far as one program inspects what
the other is asked. Arguments may be followed by further bytes. -/
def Dispatches (shown : TransactionInstruction) : Option Request → Prop
  -- Another program's instruction, or one that touches none of the accounts.
  | none =>
      ¬(shown.programId = cluster.verifier ∧
        shown.data.take 8 = consumeDeploymentAuthorizationDiscriminator) ∧
      ¬(shown.programId = cluster.remoteLeg ∧
        shown.data.take 8 = Verifier.deployToStrategyDiscriminator)
  | some (.verifier (.consumeDeploymentAuthorization config riskKey receipt nonce _ _)) =>
      shown.programId = cluster.verifier ∧
      shown.data.take 24 =
        consumeDeploymentAuthorizationDiscriminator ++ Verifier.nonceBytes nonce ∧
      shown.accounts[consumeConfigIndex]? = some config ∧
      shown.accounts[consumeRiskKeyIndex]? = some riskKey ∧
      shown.accounts[consumeReceiptIndex]? = some receipt
  | some (.verifier _) =>
      shown.programId = cluster.verifier ∧
      shown.data.take 8 ≠ consumeDeploymentAuthorizationDiscriminator
  | some (.remoteLeg remoteConfig (.deployToStrategy receipt amount _)) =>
      shown.programId = cluster.remoteLeg ∧
      shown.data.take 16 =
        Verifier.deployToStrategyDiscriminator ++ Verifier.littleEndian64 amount ∧
      Verifier.deployAccountCount ≤ shown.accounts.length ∧
      shown.accounts[Verifier.deployRemoteConfigIndex]? = some remoteConfig ∧
      shown.accounts[Verifier.deployReceiptIndex]? = some receipt
  | some (.remoteLeg _ _) =>
      shown.programId = cluster.remoteLeg ∧
      shown.data.take 8 ≠ Verifier.deployToStrategyDiscriminator

instance (shown : TransactionInstruction) :
    (own : Option Request) → Decidable (Dispatches cluster shown own)
  | none => inferInstanceAs (Decidable (¬_ ∧ ¬_))
  | some (.verifier (.consumeDeploymentAuthorization ..)) => inferInstanceAs (Decidable (_ ∧ _))
  | some (.verifier (.initializeDeploymentAuthority ..)) => inferInstanceAs (Decidable (_ ∧ _))
  | some (.verifier (.registerRiskKey ..)) => inferInstanceAs (Decidable (_ ∧ _))
  | some (.verifier (.revokeRiskKey ..)) => inferInstanceAs (Decidable (_ ∧ _))
  | some (.verifier (.advancePolicyGeneration ..)) => inferInstanceAs (Decidable (_ ∧ _))
  | some (.remoteLeg _ (.deployToStrategy ..)) => inferInstanceAs (Decidable (_ ∧ _))
  | some (.remoteLeg _ (.initializeRemoteLeg ..)) => inferInstanceAs (Decidable (_ ∧ _))
  | some (.remoteLeg _ (.initializeDeployAuthorization ..)) => inferInstanceAs (Decidable (_ ∧ _))
  | some (.remoteLeg _ (.plain ..)) => inferInstanceAs (Decidable (_ ∧ _))

/-- A top-level instruction: as the instructions sysvar shows it, what it asks of the two programs
itself, and the calls of them it leads to, each with its depth. -/
structure TopLevel where
  shown : TransactionInstruction
  own : Option Request
  inner : List (Nat × Request)
  dispatched : Dispatches cluster shown own
  /-- The verifier calls only the system program, and the native program nothing. -/
  leaf : shown.programId = cluster.verifier ∨ shown.programId = cluster.secp256r1 → inner = []

structure Transaction where
  entries : List (TopLevel cluster)
  clock : UnixTimestamp

variable {cluster}

/-- The calls of the two programs under an instruction, in order, with their stack heights. -/
def TopLevel.calls (entry : TopLevel cluster) : List (Nat × Request) :=
  entry.own.toList.map (fun request => (Verifier.transactionLevelStackHeight, request)) ++
    entry.inner.map fun (depth, request) =>
      (Verifier.transactionLevelStackHeight + 1 + depth, request)

namespace Transaction

variable (transaction : Transaction cluster)

def shown : List TransactionInstruction := transaction.entries.map (·.shown)

/-- One call under the instruction at `index`. -/
def call (index : Nat) (w : World) (call : Nat × Request) : Except Failure World :=
  w.perform cluster ⟨call.1, index, transaction.shown⟩ transaction.clock call.2

def runEntry (w : World) (entry : TopLevel cluster × Nat) : Except Failure World := do
  rejectIf (entry.1.shown.programId = cluster.secp256r1 ∧
    cluster.native.accepts transaction.shown entry.2 = false) .invalidSignature
  Run.run (transaction.call entry.2) w entry.1.calls

/-- A transaction succeeds as a whole or changes nothing. -/
def execute (w : World) : Except Failure World :=
  Run.run transaction.runEntry w transaction.entries.zipIdx

end Transaction

def World.step (w : World) (transaction : Transaction cluster) : Except Failure World :=
  transaction.execute w

end Cluster

end Deployment
