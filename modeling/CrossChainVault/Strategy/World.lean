import CrossChainVault.Leg.Changes
import CrossChainVault.Strategy.Adapter

set_option autoImplicit false

/- The leg together with its adapter: what the adapter left behind, an input of the leg's own
instructions, is here what the adapter did. -/

namespace Strategy

open Result
open Protocol (Bytes32)
open Leg (U64 UnixTimestamp RemoteLegError Accounts Context Digests AdapterCall Setup minimum
  reconcile checkDeployed)
open Deployment (LegKeys)
open Verifier (Pubkey ascii)

/-- Instructions that neither call the adapter, nor read it, nor move any token. -/
def isOwn : Leg.Instruction → Bool
  | .deployToStrategy .. => false
  | .withdrawForRecall .. => false
  | .sendRecallAssets .. => false
  | .publishRemoteReport .. => false
  | .receiveCustody _ => false
  | .moveEscrow _ => false
  | _ => true

/-- Why nothing happened. -/
inductive Failure
  | remoteLeg (error : RemoteLegError)
  | adapter (error : AdapterError)
  | token (error : TokenError)
  /-- The framework finds no token account at the address. -/
  | accountNotInitialized
  /-- Nobody but this leg signs with its caller address. -/
  | missingSignature
  /-- The accounts of a call are not what they are on the chain. -/
  | otherAccounts
deriving DecidableEq, Repr

/-- The token accounts the leg works with. -/
inductive Held
  | custody
  | vault
  | escrow
deriving DecidableEq, Repr

/-- One transaction of the leg, of the adapter's test authority or its own caller, of the mint's
authorities, of the bridge, or of somebody who sends tokens. -/
inductive Action
  | own (instruction : Leg.Instruction) (alone : isOwn instruction = true)
  | deployToStrategy (approved : Bool) (amount : U64)
  | withdrawForRecall (transferId : Bytes32) (maximumPrincipal : U64)
  | sendRecallAssets (transferId : Bytes32) (maximumAmount : U64)
  | publishRemoteReport (epochId : U64) (supplied : Bool)
  | configureAdapterTestConditions (testAuthority : Pubkey) (conditions : TestConditions)
  | depositExact (accounts : CallAccounts) (amount : U64)
  | withdrawForRemoteLeg (accounts : CallAccounts) (requestedPrincipal : U64)
  | payCustody (amount : U64)
  | payVault (amount : U64)
  | moveEscrow (balance : U64)
  | closeEscrow
  | openEscrow
  | freezeAccount (account : Held)
  | thawAccount (account : Held)
  | mintTo (amount : U64)
  | burn (amount : U64)
deriving DecidableEq

/-- The leg, the adapter it is configured for, the vault that adapter is to keep its principal in,
and the tokens of the asset in all other hands. The leg's own state has the balances of custody and
escrow. -/
structure World where
  remoteConfig : Pubkey
  keys : LegKeys
  leg : Accounts
  adapter : AdapterState
  vault : TokenAccount
  custodyFrozen : Bool
  /-- The bridge, unless it passed the escrow on. -/
  escrowOwner : Pubkey
  escrowFrozen : Bool
  /-- The bridge may close its escrow once that is empty. -/
  escrowClosed : Bool
  elsewhere : U64

def custodyAuthoritySeed : Bytes :=
  ascii ['c', 'u', 's', 't', 'o', 'd', 'y', '-', 'a', 'u', 't', 'h', 'o', 'r', 'i', 't', 'y']

def adapterCallerSeed : Bytes :=
  ascii ['a', 'd', 'a', 'p', 't', 'e', 'r', '-', 'c', 'a', 'l', 'l', 'e', 'r']

/-- Custody answers to the custody authority alone. -/
def controlKept (custody : TokenAccount) (custodyAuthority : Pubkey) : Bool :=
  custody.owner = custodyAuthority ∧ custody.delegate = none ∧ custody.closeAuthority = none

/-- What the leg checks before it lets go of any token. -/
def checkDeploy (a : Accounts) (approved : Bool) (amount principalBefore : U64) :
    Except RemoteLegError Unit := do
  rejectIf a.config.frozen .frozen
  let position ← reconcile a.position a.custody
  rejectIf (¬(amount.isZero = false ∧ amount ≤ position.attributedPrincipal))
    .insufficientAttributedCustody
  checkDeployed position principalBefore
  rejectIf (approved = false) .deploymentAuthorizationRequired

/-- What the leg asks the adapter to unwind for the open recall. -/
def recallRequest (a : Accounts) (transferId : Bytes32) (maximumPrincipal principalBefore : U64) :
    Except RemoteLegError U64 := do
  let record ← a.loadRecord transferId
  record.checkActive .recall a.position
  record.checkRecallShape
  let position ← reconcile a.position a.custody
  let unresolved ← record.unresolvedRecallPrincipal
  let request := minimum (minimum maximumPrincipal unresolved) position.deployedPrincipal
  rejectIf request.isZero .insufficientStrategyLiquidity
  checkDeployed position principalBefore
  pure request

/-- What the leg moves into the escrow for the open recall. -/
def sendRequest (a : Accounts) (transferId : Bytes32) (maximumAmount : U64) :
    Except RemoteLegError U64 := do
  let record ← a.loadRecord transferId
  record.checkActive .recall a.position
  record.checkRecallShape
  let position ← reconcile a.position a.custody
  let amount := minimum maximumAmount position.recalledCustody
  rejectIf amount.isZero .noRecalledCustody
  pure amount

namespace World

variable (programs : Programs) (w : World)

def custody : TokenAccount where
  key := w.keys.custodyTokenAccount
  owner := w.keys.custodyAuthority
  mint := w.keys.assetMint
  delegate := none
  closeAuthority := none
  frozen := w.custodyFrozen
  amount := w.leg.custody

/-- Whatever its owner does with it, a transfer into the escrow looks at no more than this. -/
def escrow : TokenAccount where
  key := w.leg.config.outboundEscrow
  owner := w.escrowOwner
  mint := w.keys.assetMint
  delegate := none
  closeAuthority := none
  frozen := w.escrowFrozen
  amount := w.leg.escrow

/-- Every token of the asset. -/
def supply : Nat :=
  w.leg.custody.raw + w.leg.escrow.raw + w.vault.amount.raw + w.elsewhere.raw

/-- The address this leg signs its adapter calls with. -/
def adapterCaller : Pubkey := programs.derive adapterCallerSeed w.remoteConfig programs.remoteLeg

/-- The accounts the leg sends with every adapter call, as they stand at the call. -/
def adapterCall (custody vault : TokenAccount) : CallAccounts where
  remoteCaller := w.adapterCaller programs
  adapterState := w.keys.adapterState
  adapterAuthority := w.keys.adapterAuthority
  remoteCustody := custody
  adapterTokenVault := vault
  mint := w.keys.assetMint
  tokenProgram := w.keys.tokenProgram

/-- What the leg finds when it reads the accounts back. -/
def observe (adapter : AdapterState) (custody vault : TokenAccount) : AdapterCall where
  principalBefore := w.adapter.principal
  principalAfter := adapter.principal
  vaultBefore := w.vault.amount
  vaultAfter := vault.amount
  custodyAfter := custody.amount
  controlKept := controlKept custody w.keys.custodyAuthority

/-- The leg moves the tokens itself, and has the adapter count them. -/
def deployToStrategy (approved : Bool) (amount : U64) : Except Failure World := do
  (checkDeploy w.leg approved amount w.adapter.principal).mapError .remoteLeg
  let moved ← (programs.tokens.transfer w.custody w.vault w.keys.custodyAuthority amount).mapError
    .token
  let adapter ← (w.adapter.depositExact programs
    (w.adapterCall programs moved.1 moved.2) amount).mapError .adapter
  let leg ← (w.leg.deployToStrategy approved amount
    (w.observe adapter moved.1 moved.2)).mapError .remoteLeg
  pure { w with leg := leg, adapter := adapter, vault := moved.2 }

/-- The adapter moves the tokens, and the leg reads off what it did. -/
def withdrawForRecall (ctx : Context) (transferId : Bytes32) (maximumPrincipal : U64) :
    Except Failure World := do
  let request ← (recallRequest w.leg transferId maximumPrincipal
    w.adapter.principal).mapError .remoteLeg
  let done ← (w.adapter.withdrawForRemoteLeg programs
    (w.adapterCall programs w.custody w.vault) request).mapError .adapter
  let leg ← (w.leg.withdrawForRecall ctx transferId maximumPrincipal
    (w.observe done.1 done.2.2 done.2.1)).mapError .remoteLeg
  pure { w with leg := leg, adapter := done.1, vault := done.2.1 }

/-- The leg moves the tokens itself, and insists that exactly these moved. -/
def sendRecallAssets (ctx : Context) (transferId : Bytes32) (maximumAmount : U64) :
    Except Failure World := do
  rejectIf (w.escrowClosed = true) .accountNotInitialized
  let amount ← (sendRequest w.leg transferId maximumAmount).mapError .remoteLeg
  let moved ← (programs.tokens.transfer w.custody w.escrow w.keys.custodyAuthority amount).mapError
    .token
  let leg ← (w.leg.sendRecallAssets ctx transferId maximumAmount).mapError .remoteLeg
  rejectIf (moved.1.amount ≠ leg.custody) (.remoteLeg .invalidBalanceDelta)
  rejectIf (moved.2.amount ≠ leg.escrow) (.remoteLeg .invalidBalanceDelta)
  pure { w with leg := leg }

/-- An account of a call that the leg works with too is the one on the chain. -/
def shows (account : TokenAccount) : Bool :=
  (account.key = w.vault.key → account = w.vault) ∧
  (account.key = w.keys.custodyTokenAccount → account = w.custody) ∧
  (account.key = w.leg.config.outboundEscrow → account = w.escrow ∧ w.escrowClosed = false)

/-- Whoever the adapter was set up for calls it, if that is not this leg. -/
def checkStranger (accounts : CallAccounts) : Except Failure Unit := do
  rejectIf (w.adapter.remoteCaller programs = w.adapterCaller programs) .missingSignature
  rejectIf (w.shows accounts.adapterTokenVault = false) .otherAccounts
  rejectIf (w.shows accounts.remoteCustody = false) .otherAccounts

/-- The stranger counts tokens that are in the adapter's vault, however they came there. -/
def depositExact (accounts : CallAccounts) (amount : U64) : Except Failure World := do
  w.checkStranger programs accounts
  let adapter ← (w.adapter.depositExact programs accounts amount).mapError .adapter
  pure { w with adapter := adapter }

/-- Tokens leave the account a stranger's adapter calls its vault. -/
def debit (account : Pubkey) (amount : U64) : Except Failure World :=
  if account = w.vault.key then do
    let left ← w.vault.amount.checkedSub amount (.token .insufficientFunds)
    pure { w with vault := { w.vault with amount := left } }
  else if account = w.leg.config.outboundEscrow then do
    let left ← w.leg.escrow.checkedSub amount (.token .insufficientFunds)
    let leg ← (w.leg.moveEscrow left).mapError .remoteLeg
    pure { w with leg := leg }
  else do
    let left ← w.elsewhere.checkedSub amount (.token .insufficientFunds)
    pure { w with elsewhere := left }

/-- And they arrive in the account it calls custody. -/
def credit (account : Pubkey) (amount : U64) : Except Failure World :=
  if account = w.vault.key then do
    let arrived ← w.vault.amount.checkedAdd amount (.token .overflow)
    pure { w with vault := { w.vault with amount := arrived } }
  else if account = w.keys.custodyTokenAccount then do
    let leg ← (w.leg.receiveCustody amount).mapError .remoteLeg
    pure { w with leg := leg }
  else if account = w.leg.config.outboundEscrow then do
    let arrived ← w.leg.escrow.checkedAdd amount (.token .overflow)
    let leg ← (w.leg.moveEscrow arrived).mapError .remoteLeg
    pure { w with leg := leg }
  else do
    let arrived ← w.elsewhere.checkedAdd amount (.token .overflow)
    pure { w with elsewhere := arrived }

/-- The stranger takes principal back. Custody belongs to an address of this leg's, so no adapter
pays out of it. -/
def withdrawForRemoteLeg (accounts : CallAccounts) (requestedPrincipal : U64) :
    Except Failure World := do
  w.checkStranger programs accounts
  rejectIf (accounts.adapterTokenVault.key = w.keys.custodyTokenAccount) .otherAccounts
  let done ← (w.adapter.withdrawForRemoteLeg programs accounts requestedPrincipal).mapError .adapter
  let returned ← accounts.adapterTokenVault.amount.checkedSub done.2.1.amount (.token .overflow)
  let moved ← (if accounts.adapterTokenVault.mint = w.keys.assetMint then do
      let paid ← w.debit accounts.adapterTokenVault.key returned
      paid.credit accounts.remoteCustody.key returned
    else pure w)
  pure { moved with adapter := done.1 }

/-- Tokens arrive in custody that nobody announced. -/
def payCustody (amount : U64) : Except Failure World := do
  rejectIf (w.custodyFrozen = true) (.token .accountFrozen)
  let left ← w.elsewhere.checkedSub amount (.token .insufficientFunds)
  let leg ← (w.leg.receiveCustody amount).mapError .remoteLeg
  pure { w with leg := leg, elsewhere := left }

/-- Anybody can send tokens to the adapter's vault. -/
def payVault (amount : U64) : Except Failure World := do
  rejectIf (w.vault.frozen = true) (.token .accountFrozen)
  let left ← w.elsewhere.checkedSub amount (.token .insufficientFunds)
  let vault ← w.vault.amount.checkedAdd amount (.token .overflow)
  pure { w with vault := { w.vault with amount := vault }, elsewhere := left }

/-- The escrow belongs to the bridge, which moves tokens in and out of it. -/
def moveEscrow (balance : U64) : Except Failure World := do
  rejectIf (w.escrowClosed = true) .accountNotInitialized
  rejectIf (w.escrowFrozen = true) (.token .accountFrozen)
  let both ← w.elsewhere.checkedAdd w.leg.escrow (.token .overflow)
  let left ← both.checkedSub balance (.token .insufficientFunds)
  let leg ← (w.leg.moveEscrow balance).mapError .remoteLeg
  pure { w with leg := leg, elsewhere := left }

def closeEscrow : Except Failure World := do
  rejectIf (w.escrowClosed = true) .accountNotInitialized
  rejectIf (w.leg.escrow.isZero = false) (.token .nonNativeHasBalance)
  pure { w with escrowClosed := true }

/-- The address is the bridge's to use again. -/
def openEscrow : Except Failure World := do
  rejectIf (w.escrowClosed = false) (.token .alreadyInUse)
  pure { w with escrowClosed := false, escrowFrozen := false }

/-- The mint's freeze authority, if there is one, freezes and thaws any account of the asset. -/
def setFrozen (account : Held) (frozen : Bool) : Except Failure World :=
  match account with
  | .custody => do
      rejectIf (w.custodyFrozen = frozen) (.token .invalidState)
      pure { w with custodyFrozen := frozen }
  | .vault => do
      rejectIf (w.vault.frozen = frozen) (.token .invalidState)
      pure { w with vault := { w.vault with frozen := frozen } }
  | .escrow => do
      rejectIf (w.escrowClosed = true) .accountNotInitialized
      rejectIf (w.escrowFrozen = frozen) (.token .invalidState)
      pure { w with escrowFrozen := frozen }

/-- A mint never issues more than an amount can count. -/
def mintTo (amount : U64) : Except Failure World := do
  rejectIf (2 ^ 64 ≤ w.supply + amount.raw) (.token .overflow)
  let arrived ← w.elsewhere.checkedAdd amount (.token .overflow)
  pure { w with elsewhere := arrived }

def burn (amount : U64) : Except Failure World := do
  let left ← w.elsewhere.checkedSub amount (.token .insufficientFunds)
  pure { w with elsewhere := left }

def step (digests : Digests) (input : Context × Action) : Except Failure World :=
  match input.2 with
  | .own instruction _ => do
      let leg ← (w.leg.step digests input.1 instruction).mapError .remoteLeg
      pure { w with leg := leg }
  | .deployToStrategy approved amount => w.deployToStrategy programs approved amount
  | .withdrawForRecall transferId maximumPrincipal =>
      w.withdrawForRecall programs input.1 transferId maximumPrincipal
  | .sendRecallAssets transferId maximumAmount =>
      w.sendRecallAssets programs input.1 transferId maximumAmount
  | .publishRemoteReport epochId supplied => do
      let leg ← (w.leg.publishRemoteReport digests input.1 epochId w.adapter.principal true
        supplied).mapError .remoteLeg
      pure { w with leg := leg }
  | .configureAdapterTestConditions testAuthority conditions => do
      let adapter ← (w.adapter.configureAdapterTestConditions testAuthority
        conditions).mapError .adapter
      pure { w with adapter := adapter }
  | .depositExact accounts amount => w.depositExact programs accounts amount
  | .withdrawForRemoteLeg accounts requestedPrincipal =>
      w.withdrawForRemoteLeg programs accounts requestedPrincipal
  | .payCustody amount => w.payCustody amount
  | .payVault amount => w.payVault amount
  | .moveEscrow balance => w.moveEscrow balance
  | .closeEscrow => w.closeEscrow
  | .openEscrow => w.openEscrow
  | .freezeAccount account => w.setFrozen account true
  | .thawAccount account => w.setFrozen account false
  | .mintTo amount => w.mintTo amount
  | .burn amount => w.burn amount

end World

/- How the two come to be set up for each other. -/

/-- What the deployers of the leg and of the adapter choose. -/
structure Genesis where
  remoteConfig : Pubkey
  administrator : Pubkey
  assetMint : Pubkey
  custodyTokenAccount : Pubkey
  custodyFrozen : Bool
  setup : Setup
  escrowOwner : Pubkey
  escrowFrozen : Bool
  /-- The vault the leg's administrator names. -/
  vault : TokenAccount
  params : AdapterParams
  /-- The vault the adapter's deployer names, and its mint. -/
  adapterVault : TokenAccount
  adapterMint : Pubkey
  initializedAt : UnixTimestamp
  elsewhere : U64
  /-- A token account keeps its mint. -/
  sameMint : adapterVault.key = vault.key → adapterVault.mint = vault.mint

/-- Why the two could not be set up. -/
inductive SetupError
  | remoteLeg (error : RemoteLegError)
  | adapter (error : AdapterError)
  | invalidAdapterProgram
  | invalidAdapterState
  | invalidAdapterVault
  | invalidOutboundEscrow
  /-- A mint never issues more than an amount can count. -/
  | supplyOverflow
deriving DecidableEq, Repr

namespace Genesis

variable (programs : Programs) (g : Genesis)

/-- The addresses of the leg's configuration, the derived ones as the leg insists on them. -/
def keys : LegKeys where
  administrator := g.administrator
  assetMint := g.assetMint
  tokenProgram := programs.token
  custodyAuthority := programs.derive custodyAuthoritySeed g.remoteConfig programs.remoteLeg
  custodyTokenAccount := g.custodyTokenAccount
  adapterProgram := programs.strategy
  adapterState := AdapterState.address programs g.remoteConfig
  adapterAuthority := AdapterState.authority programs (AdapterState.address programs g.remoteConfig)
  adapterTokenVault := g.vault.key

/-- The escrow belongs to the future bridge, so it must not be our custody. -/
def checkOutboundEscrow : Except SetupError Unit := do
  rejectIf (g.setup.outboundEscrow = g.custodyTokenAccount) .invalidOutboundEscrow
  rejectIf (g.escrowOwner = (g.keys programs).custodyAuthority) .invalidOutboundEscrow

/-- The leg's policy for the adapter vault it is given for good. -/
def checkAdapterVault : Except SetupError Unit := do
  rejectIf (g.vault.mint ≠ g.assetMint) .invalidAdapterVault
  rejectIf (g.vault.owner ≠ (g.keys programs).adapterAuthority) .invalidAdapterVault
  rejectIf g.vault.delegate.isSome .invalidAdapterVault
  rejectIf g.vault.closeAuthority.isSome .invalidAdapterVault
  rejectIf (g.vault.key = g.custodyTokenAccount) .invalidAdapterVault
  rejectIf (g.vault.key = g.setup.outboundEscrow) .invalidAdapterVault

/-- The adapter account at the address the leg insists on, and the leg configured for it. -/
def create : Except SetupError World := do
  let adapter ← (AdapterState.initializeAdapter programs g.params g.adapterMint programs.token
    g.adapterVault g.initializedAt).mapError .adapter
  let leg ← g.setup.create.mapError .remoteLeg
  g.checkOutboundEscrow programs
  rejectIf (programs.strategy = programs.remoteLeg) .invalidAdapterProgram
  rejectIf (AdapterState.address programs adapter.remoteConfig ≠ (g.keys programs).adapterState)
    .invalidAdapterState
  g.checkAdapterVault programs
  rejectIf (2 ^ 64 ≤ leg.custody.raw + leg.escrow.raw + g.vault.amount.raw + g.elsewhere.raw)
    .supplyOverflow
  pure {
    remoteConfig := g.remoteConfig
    keys := g.keys programs
    leg := leg
    adapter := adapter
    vault := g.vault
    custodyFrozen := g.custodyFrozen
    escrowOwner := g.escrowOwner
    escrowFrozen := g.escrowFrozen
    escrowClosed := false
    elsewhere := g.elsewhere }

end Genesis

/-- A world some setup and these transactions lead to. -/
def Reached (programs : Programs) (digests : Digests) (genesis : Genesis)
    (inputs : List (Context × Action)) (w : World) : Prop :=
  ∃ start, genesis.create programs = .ok start ∧
    Run.run (World.step programs · digests) start inputs = .ok w

end Strategy
