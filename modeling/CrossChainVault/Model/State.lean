import CrossChainVault.Base.OrderedMap
import CrossChainVault.Model.Pricing

set_option autoImplicit false

namespace AccountingModel

open Result

inductive VaultState
  | active
  | paused
  | frozen
deriving DecidableEq, Repr

inductive EpochPhase
  | opened
  | cutOff
deriving DecidableEq, Repr

inductive CycleKind
  | none
  | allocate
  | recall
  | recover
deriving DecidableEq, Repr

structure Config where
  version : ConfigVersion
  assetDecimals : Unsigned 8
  shareDecimals : Unsigned 8
  minDepositAssets : AssetAmount
  minRedeemShares : ShareAmount
  epochDuration : Unsigned 64
deriving DecidableEq

def Config.validate (config : Config) : Except Rejection Unit := do
  rejectIf (config.shareDecimals < config.assetDecimals ∨ 38 < config.shareDecimals.raw)
    .invalidConfiguration
  rejectIf (config.epochDuration.raw = 0) .invalidConfiguration
  rejectIf (config.minDepositAssets.isZero ∨ config.minRedeemShares.isZero) .invalidConfiguration

structure Authority where
  admin : AccountId
  guardian : AccountId
deriving DecidableEq

structure Account where
  assets : AssetAmount
  shares : ShareAmount
deriving DecidableEq

def Account.empty : Account := ⟨.zero, .zero⟩

structure Buckets where
  pendingDepositEscrow : AssetAmount
  idleBacking : AssetAmount
  claimReserve : AssetAmount
  unattributedBalance : AssetAmount
  unattributedInbound : AssetAmount
  outboundInTransit : AssetAmount
  acceptedRemoteValue : AssetAmount
  inboundInTransit : AssetAmount
deriving DecidableEq

/-- The buckets of a fresh vault: only what was sent to it beforehand. -/
def Buckets.unattributed (amount : AssetAmount) : Buckets :=
  ⟨.zero, .zero, .zero, amount, .zero, .zero, .zero, .zero⟩

/-- The single epoch that is open or cut off but not yet settled. -/
structure Epoch where
  id : EpochId
  openedAt : Timestamp
  cutoffAt : Timestamp
  configVersion : ConfigVersion
  assetDecimals : Unsigned 8
  shareDecimals : Unsigned 8
  virtualAssets : AssetAmount
  virtualShares : ShareAmount
  phase : EpochPhase
  pendingDepositAssets : AssetAmount
  pendingRedeemShares : ShareAmount
deriving DecidableEq

/-- Immutable settlement terms of a finalized epoch. -/
structure EpochTerms where
  id : EpochId
  configVersion : ConfigVersion
  cutoffAt : Timestamp
  totalAssets : AssetAmount
  totalSupply : ShareAmount
  virtualAssets : AssetAmount
  virtualShares : ShareAmount
  depositAssets : AssetAmount
  mintedShares : ShareAmount
  redeemShares : ShareAmount
  redeemAssets : AssetAmount
  /-- Minted shares that no single claim can reach, because each claim rounds down. -/
  depositDust : ShareAmount
  /-- Reserved assets that no single claim can reach, for the same reason. -/
  redeemDust : AssetAmount
deriving DecidableEq

namespace EpochTerms

def basis (terms : EpochTerms) : PricingBasis where
  totalAssets := terms.totalAssets
  totalSupply := terms.totalSupply
  virtualAssets := terms.virtualAssets
  virtualShares := terms.virtualShares

def sharesFor (terms : EpochTerms) (assets : AssetAmount) : Except Rejection ShareAmount :=
  assetsToShares assets terms.basis

def assetsFor (terms : EpochTerms) (shares : ShareAmount) : Except Rejection AssetAmount :=
  sharesToAssets shares terms.basis

end EpochTerms

/-- Immutable record of an epoch that was abandoned while frozen. -/
structure AbortedTerms where
  id : EpochId
  configVersion : ConfigVersion
  cutoffAt : Timestamp
  refundAssets : AssetAmount
  refundShares : ShareAmount
deriving DecidableEq

/-- How an epoch left the active slot. An epoch has exactly one outcome. -/
inductive EpochOutcome
  | finalized (terms : EpochTerms)
  | aborted (terms : AbortedTerms)
deriving DecidableEq

structure RequestKey where
  epoch : EpochId
  account : AccountId
deriving DecidableEq

-- Keys compare by epoch first, so the requests of one epoch are contiguous in a map.
instance : Ord RequestKey := ⟨compareLex (compareOn RequestKey.epoch) (compareOn RequestKey.account)⟩

instance : Std.TransOrd RequestKey :=
  inferInstanceAs
    (Std.TransCmp (compareLex (compareOn RequestKey.epoch) (compareOn RequestKey.account)))

instance : Std.LawfulEqOrd RequestKey where
  eq_of_compare {a b} same := by
    have both : compare a.epoch b.epoch = .eq ∧ compare a.account b.account = .eq :=
      compareLex_eq_eq.mp same
    rw [Std.LawfulEqCmp.compare_eq_iff_eq, Std.LawfulEqCmp.compare_eq_iff_eq] at both
    cases a
    cases b
    simp_all

/-- A deposit or redeem request of one account in one epoch. The two record types of the
source differ only in the unit of their amounts. -/
structure Request where
  amount : Unsigned 128
  cancelledAmount : Unsigned 128
  cancelled : Bool
  claimed : Bool
deriving DecidableEq

namespace Request

def empty : Request := ⟨.zero, .zero, false, false⟩

/-- A request that carries an amount into its epoch aggregate. -/
def isActive (request : Request) : Bool := !request.cancelled && !request.amount.isZero

/-- A request still owed a settlement or refund outcome. -/
def isOutstanding (request : Request) : Bool :=
  !request.cancelled && !request.claimed && !request.amount.isZero

end Request

abbrev RequestMap := OrderedMap RequestKey Request

/-- The requests of one epoch, in map order. -/
def RequestMap.ofEpoch (requests : RequestMap) (epoch : EpochId) : List Request :=
  (requests.toList.filter fun entry => entry.1.epoch = epoch).map Prod.snd

/-- Genesis inputs for a fresh model instance. -/
structure Genesis where
  config : Config
  authority : Authority
  accounts : List (AccountId × AssetAmount)
  unattributedBalance : AssetAmount
  openedAt : Timestamp

/-- Entitlements a finalized epoch owes, derived from the request records. -/
structure Entitlements where
  depositShares : ShareAmount
  unclaimedDepositShares : ShareAmount
  redeemAssets : AssetAmount
  unclaimedRedeemAssets : AssetAmount

/-- Complete canonical accounting state. -/
structure State where
  config : Config
  authority : Authority
  vaultState : VaultState
  epoch : Option Epoch
  nextEpochId : EpochId
  lastCutoffAt : Timestamp
  epochs : OrderedMap EpochId EpochOutcome
  accounts : OrderedMap AccountId Account
  depositRequests : RequestMap
  redeemRequests : RequestMap
  buckets : Buckets
  totalShareSupply : ShareAmount
  escrowedRedeemShares : ShareAmount
  claimableDepositShares : ShareAmount
  burnedRedemptionShares : ShareAmount
  initialAssetSupply : AssetAmount
  remotePrincipalCap : AssetAmount
  recognizedLoss : AssetAmount
  /-- Closed transfer shortfall not yet recovered. Outside NAV and never recognized loss. -/
  impairedTransport : AssetAmount
  /-- Every shortfall ever impaired, recovered or not. -/
  cumulativeImpairment : AssetAmount
  externalInflow : AssetAmount
  pendingRecallId : TransferId
  pendingRecallPrincipal : AssetAmount
  activeCycle : CycleKind
  activeTransferId : TransferId
  activeAmount : AssetAmount
  /-- The active allocation is closing, so only its settlement may end it. -/
  closeRequested : Bool
  /-- Cumulative remote loss acknowledged by reports and recall notices. -/
  inboundCumulativeLoss : AssetAmount
  /-- Accepted remote value and acknowledged loss when the active recall began. -/
  recallBaselineValue : AssetAmount
  recallBaselineLoss : AssetAmount
  usedTransferIds : Std.ExtTreeSet TransferId
  epochValuationLocked : OrderedMap EpochId AssetAmount

namespace State

/-- Registers the genesis accounts and totals what they hold. -/
def openAccounts (accounts : List (AccountId × AssetAmount)) (unattributed : AssetAmount) :
    Except Rejection (OrderedMap AccountId Account × AssetAmount) :=
  accounts.foldlM (fun opened entry => do
    rejectIf (opened.1[entry.1]?.isSome) .duplicateAccount
    let supply ← checkedAdd opened.2 entry.2
    pure (opened.1.insert entry.1 ⟨entry.2, .zero⟩, supply)) (∅, unattributed)

/-- The state of a vault that has only opened its first epoch. -/
def atGenesis (genesis : Genesis) (virtualShares : ShareAmount) (cutoffAt : Timestamp)
    (nextEpochId : EpochId) (accounts : OrderedMap AccountId Account) (supply : AssetAmount) :
    State where
  config := genesis.config
  authority := genesis.authority
  vaultState := .active
  epoch := some {
    id := .genesis
    openedAt := genesis.openedAt
    cutoffAt := cutoffAt
    configVersion := genesis.config.version
    assetDecimals := genesis.config.assetDecimals
    shareDecimals := genesis.config.shareDecimals
    virtualAssets := oneAsset
    virtualShares := virtualShares
    phase := .opened
    pendingDepositAssets := .zero
    pendingRedeemShares := .zero }
  nextEpochId := nextEpochId
  lastCutoffAt := genesis.openedAt
  epochs := ∅
  accounts := accounts
  depositRequests := ∅
  redeemRequests := ∅
  buckets := Buckets.unattributed genesis.unattributedBalance
  totalShareSupply := .zero
  escrowedRedeemShares := .zero
  claimableDepositShares := .zero
  burnedRedemptionShares := .zero
  initialAssetSupply := supply
  remotePrincipalCap := .zero
  recognizedLoss := .zero
  impairedTransport := .zero
  cumulativeImpairment := .zero
  externalInflow := .zero
  pendingRecallId := .zero
  pendingRecallPrincipal := .zero
  activeCycle := .none
  activeTransferId := .zero
  activeAmount := .zero
  closeRequested := false
  inboundCumulativeLoss := .zero
  recallBaselineValue := .zero
  recallBaselineLoss := .zero
  usedTransferIds := ∅
  epochValuationLocked := ∅

def new (genesis : Genesis) : Except Rejection State := do
  genesis.config.validate
  let virtualShares ← virtualSharesFor genesis.config.assetDecimals genesis.config.shareDecimals
  let opened ← openAccounts genesis.accounts genesis.unattributedBalance
  let cutoffAt ← checkedAdd genesis.openedAt genesis.config.epochDuration
  let nextEpochId ← EpochId.genesis.next
  pure (atGenesis genesis virtualShares cutoffAt nextEpochId opened.1 opened.2)

def managedBacking (state : State) : AssetAmount :=
  let total := state.buckets.idleBacking
  let total := total.saturatingAdd state.buckets.outboundInTransit
  let total := total.saturatingAdd state.buckets.acceptedRemoteValue
  total.saturatingAdd state.buckets.inboundInTransit

/-- Assets that back the share price. Escrow and reserves are excluded. -/
def managedNav (state : State) : AssetAmount := state.managedBacking

def hasRemoteExposure (state : State) : Bool :=
  !state.buckets.outboundInTransit.isZero || !state.buckets.acceptedRemoteValue.isZero ||
    !state.buckets.inboundInTransit.isZero || !state.remotePrincipalCap.isZero ||
    !state.pendingRecallPrincipal.isZero

def account (state : State) (id : AccountId) : Account := state.accounts[id]?.getD .empty

def finalizedTerms (state : State) (id : EpochId) : Option EpochTerms :=
  match state.epochs[id]? with
  | some (.finalized terms) => some terms
  | _ => none

def abortedTerms (state : State) (id : EpochId) : Option AbortedTerms :=
  match state.epochs[id]? with
  | some (.aborted terms) => some terms
  | _ => none

/-- Pricing basis taken before any settlement of the current epoch. -/
def preSettlementBasis (state : State) (epoch : Epoch) : PricingBasis where
  totalAssets := state.managedNav
  totalSupply := state.totalShareSupply
  virtualAssets := epoch.virtualAssets
  virtualShares := epoch.virtualShares

/-- Prices the active requests of a list: the total, and the part not claimed yet. -/
def priceRequests (price : Unsigned 128 → Except Rejection (Unsigned 128))
    (requests : List Request) : Except Rejection (Unsigned 128 × Unsigned 128) :=
  requests.foldlM (fun owed request =>
    if request.isActive then do
      let value ← price request.amount
      let total ← checkedAdd owed.1 value
      if request.claimed then pure (total, owed.2)
      else do
        let unclaimed ← checkedAdd owed.2 value
        pure (total, unclaimed)
    else pure owed) (.zero, .zero)

/-- Prices every request of one epoch against the given terms. -/
def entitlements (state : State) (epoch : EpochId) (terms : EpochTerms) :
    Except Rejection Entitlements := do
  let deposits ← priceRequests terms.sharesFor (state.depositRequests.ofEpoch epoch)
  let redeems ← priceRequests terms.assetsFor (state.redeemRequests.ofEpoch epoch)
  pure ⟨deposits.1, deposits.2, redeems.1, redeems.2⟩

end State

end AccountingModel
