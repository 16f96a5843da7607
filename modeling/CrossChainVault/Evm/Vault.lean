import CrossChainVault.Base.Registry
import CrossChainVault.Evm.Asset
import CrossChainVault.Evm.Shares

set_option autoImplicit false

/- The vault contract: storage, user entry points, and the remote buckets. -/

namespace Evm

open Result

inductive EpochPhase
  | opened
  | cutOff
deriving DecidableEq, Repr

inductive EpochOutcome
  | none
  | finalized
  | aborted
deriving DecidableEq, Repr

/-- Immutable settlement terms written once when an epoch leaves the slot. An aborted epoch
reuses `depositAssets` and `redeemShares` as the amounts it owes back. -/
structure SettledEpoch where
  outcome : EpochOutcome
  configVersion : Unsigned 32
  cutoffAt : Uint64
  totalAssets : Uint256
  totalSupply : Uint256
  depositAssets : Uint256
  mintedShares : Uint256
  redeemShares : Uint256
  redeemAssets : Uint256
  depositDust : Uint256
  redeemDust : Uint256
deriving DecidableEq

def SettledEpoch.unset : SettledEpoch :=
  ⟨.none, .zero, .zero, .zero, .zero, .zero, .zero, .zero, .zero, .zero, .zero⟩

/-- One controller's position inside a single epoch. The two record types of the source
differ only in the unit of their amounts. -/
structure Request where
  amount : Uint256
  cancelledAmount : Uint256
  cancelled : Bool
  settled : Bool
deriving DecidableEq

def Request.empty : Request := ⟨.zero, .zero, false, false⟩

/-- Writes one cell of a nested mapping. -/
def setAt {α : Type} (cells : Uint64 → Address → α) (epochId : Uint64) (controller : Address)
    (value : α) : Uint64 → Address → α :=
  Function.update cells epochId (Function.update (cells epochId) controller value)

theorem setAt_apply {α : Type} (cells : Uint64 → Address → α) (epochId other : Uint64)
    (controller holder : Address) (value : α) :
    setAt cells epochId controller value other holder =
      if other = epochId ∧ holder = controller then value else cells other holder := by
  unfold setAt
  by_cases sameEpoch : other = epochId
  · subst sameEpoch
    rw [Function.update_self]
    by_cases same : holder = controller
    · subst same
      simp
    · simp [same]
  · simp [sameEpoch]

/-- The deposit side or the redemption side: the records, the controllers whose records carry
an amount, and the claims a finalized epoch wrote. -/
structure Requests where
  requestOf : Uint64 → Address → Request
  controllers : Uint64 → Registry Address
  claimOf : Uint64 → Address → Uint256

namespace Requests

def empty : Requests := ⟨fun _ _ => .empty, fun _ => .empty, fun _ _ => .zero⟩

/-- Upper bound on priced controllers per epoch, so finalization stays bounded. -/
def maxPerEpoch : Nat := 32

/-- Lists the controller of a request that is about to carry an amount. -/
def enlist (requests : Requests) (epochId : Uint64) (controller : Address) :
    Except Revert (Registry Address) :=
  let list := requests.controllers epochId
  if list.slot controller = 0 then do
    rejectIf (list.entries.length = maxPerEpoch) (.requestLimitReached maxPerEpoch)
    pure (list.push controller)
  else pure list

def removeController (requests : Requests) (epochId : Uint64) (controller : Address) :
    Except Revert (Registry Address) := do
  let list := requests.controllers epochId
  rejectIf (list.slot controller = 0) (.requestNotFound controller)
  okOr (list.remove controller) .panic

/-- Writes a record together with the controller list of its epoch. -/
def file (requests : Requests) (epochId : Uint64) (controller : Address) (request : Request)
    (list : Registry Address) : Requests :=
  { requests with
    requestOf := setAt requests.requestOf epochId controller request
    controllers := Function.update requests.controllers epochId list }

def settle (requests : Requests) (epochId : Uint64) (controller : Address) : Requests :=
  { requests with
    requestOf := setAt requests.requestOf epochId controller
      { requests.requestOf epochId controller with settled := true } }

/-- Writes one immutable claim per listed controller and totals them. -/
def priceClaims (requests : Requests) (epochId : Uint64)
    (price : Uint256 → Except Revert Uint256) : Except Revert (Requests × Uint256) := do
  let priced ← (requests.controllers epochId).entries.foldlM (fun (priced : _ × Uint256) controller => do
    let claim ← price (requests.requestOf epochId controller).amount
    let owed ← add priced.2 claim
    pure (setAt priced.1 epochId controller claim, owed)) (requests.claimOf, .zero)
  pure ({ requests with claimOf := priced.1 }, priced.2)

end Requests

/-- Storage of the vault contract. The first fields are immutable. -/
structure Vault where
  self : Address
  admin : Address
  guardian : Address
  epochDuration : Uint64
  minDepositAssets : Uint256
  minRedeemShares : Uint256
  configVersion : Unsigned 32
  shares : Shares
  /-- Assets received for requests that have not settled yet. -/
  pendingDepositEscrow : Uint256
  /-- Local liquid assets that back shares and can pay redemptions. -/
  idleBacking : Uint256
  /-- Assets set aside for finalized redemption claims. -/
  claimReserve : Uint256
  /-- Assets that arrived without a request behind them. -/
  unattributedBalance : Uint256
  /-- Returning remote assets observed before a matching notice. -/
  unattributedInbound : Uint256
  outboundInTransit : Uint256
  acceptedRemoteValue : Uint256
  inboundInTransit : Uint256
  /-- Authorized remote principal. The accepted value cannot exceed it. -/
  remotePrincipalCap : Uint256
  recognizedLoss : Uint256
  impairedTransport : Uint256
  /-- Permanently bound coordinator, zero until bound once. -/
  remoteAccounting : Address
  pendingRecallId : Bytes32
  pendingRecallPrincipal : Uint256
  epochRemoteValuationLocked : Uint64 → Bool
  lockedPricingAssets : Uint64 → Uint256
  vaultStatus : VaultStatus
  epochOpen : Bool
  currentEpochPhase : EpochPhase
  currentEpochId : Uint64
  currentEpochOpenedAt : Uint64
  currentEpochCutoffAt : Uint64
  nextEpochId : Uint64
  lastCutoffAt : Uint64
  epochDepositAssets : Uint256
  epochRedeemShares : Uint256
  settled : Uint64 → SettledEpoch
  deposits : Requests
  redeems : Requests

/- Share and asset conversion with a fixed virtual offset. -/

namespace VaultMath

def virtualAssets : Uint256 := 1

/-- Offset for the gap between a six decimal asset and an eighteen decimal share. -/
def virtualShares : Uint256 := ⟨10 ^ 12, by decide⟩

/-- Floor of `x * y / denominator` over a 512-bit product. -/
def mulDiv (x y denominator : Uint256) : Except Revert Uint256 :=
  if denominator.raw = 0 then .error .panic
  else if fits : x.raw * y.raw / denominator.raw < 2 ^ 256 then
    .ok ⟨x.raw * y.raw / denominator.raw, fits⟩
  else .error .panic

def assetsToShares (assets totalAssets totalSupply : Uint256) : Except Revert Uint256 := do
  let shareSide ← add totalSupply virtualShares
  let assetSide ← add totalAssets virtualAssets
  mulDiv assets shareSide assetSide

def sharesToAssets (shares totalAssets totalSupply : Uint256) : Except Revert Uint256 := do
  let assetSide ← add totalAssets virtualAssets
  let shareSide ← add totalSupply virtualShares
  mulDiv shares assetSide shareSide

@[simp] theorem mulDiv_ok {x y denominator z : Uint256} :
    mulDiv x y denominator = .ok z ↔
      denominator.raw ≠ 0 ∧ z.raw = x.raw * y.raw / denominator.raw := by
  unfold mulDiv
  split
  · rename_i zero
    simp [zero]
  · rename_i nonzero
    split
    · simp [nonzero, ← Unsigned.raw_inj, eq_comm]
    · rename_i overflow
      have := z.bound
      constructor
      · intro impossible
        cases impossible
      · rintro ⟨-, same⟩
        omega

end VaultMath

def SettledEpoch.sharesFor (terms : SettledEpoch) (assets : Uint256) : Except Revert Uint256 :=
  VaultMath.assetsToShares assets terms.totalAssets terms.totalSupply

def SettledEpoch.assetsFor (terms : SettledEpoch) (shares : Uint256) : Except Revert Uint256 :=
  VaultMath.sharesToAssets shares terms.totalAssets terms.totalSupply

namespace Vault

/- Guards and views. -/

def requireStatus (v : Vault) (expected : VaultStatus) : Except Revert Unit :=
  rejectIf (v.vaultStatus ≠ expected) (.invalidVaultStatus v.vaultStatus)

def requireOpenEpoch (v : Vault) : Except Revert Unit := do
  rejectIf (v.epochOpen = false) .epochNotOpen
  rejectIf (v.currentEpochPhase ≠ .opened) .epochAlreadyCutOff

/-- Cancellation stays open while paused so users are never trapped. -/
def requireCancellationAllowed (v : Vault) : Except Revert Unit :=
  rejectIf (v.vaultStatus = .frozen) (.invalidVaultStatus v.vaultStatus)

def requireCancellableEpoch (v : Vault) : Except Revert Unit := do
  rejectIf (v.epochOpen = false) .epochNotOpen
  rejectIf (v.currentEpochPhase ≠ .opened) .cancellationAfterCutoff

def requireAdmin (v : Vault) (sender : Address) : Except Revert Unit :=
  rejectIf (sender ≠ v.admin) (.unauthorized sender)

def requireAdminOrGuardian (v : Vault) (sender : Address) : Except Revert Unit :=
  rejectIf (sender ≠ v.admin ∧ sender ≠ v.guardian) (.unauthorized sender)

def requireRemoteAccounting (v : Vault) (sender : Address) : Except Revert Unit := do
  rejectIf v.remoteAccounting.isZero .remoteAccountingNotBound
  rejectIf (sender ≠ v.remoteAccounting) (.unauthorized sender)

def managedBacking (v : Vault) : Except Revert Uint256 := do
  let total ← add v.idleBacking v.outboundInTransit
  let total ← add total v.acceptedRemoteValue
  add total v.inboundInTransit

/-- Assets the vault believes it holds across every bucket. -/
def accountedAssets (v : Vault) : Except Revert Uint256 := do
  let total ← add v.pendingDepositEscrow v.idleBacking
  let total ← add total v.claimReserve
  let total ← add total v.unattributedBalance
  add total v.unattributedInbound

def hasRemoteExposure (v : Vault) : Bool :=
  !v.outboundInTransit.isZero || !v.acceptedRemoteValue.isZero || !v.inboundInTransit.isZero ||
    !v.remotePrincipalCap.isZero || !v.pendingRecallPrincipal.isZero

def economicActivityStarted (v : Vault) : Bool :=
  !v.shares.totalSupply.isZero || !v.pendingDepositEscrow.isZero || !v.idleBacking.isZero ||
    !v.claimReserve.isZero || !v.unattributedBalance.isZero || !v.unattributedInbound.isZero ||
    !v.outboundInTransit.isZero || !v.acceptedRemoteValue.isZero || !v.inboundInTransit.isZero ||
    !v.remotePrincipalCap.isZero || !v.recognizedLoss.isZero || !v.impairedTransport.isZero ||
    !v.pendingRecallPrincipal.isZero || !v.epochDepositAssets.isZero ||
    !v.epochRedeemShares.isZero || !v.currentEpochId.isZero || v.currentEpochPhase ≠ .opened ||
    !v.lastCutoffAt.isZero

def requireNoDeficit (v : Vault) (asset : Asset) : Except Revert Unit := do
  let accounted ← v.accountedAssets
  rejectIf (asset.balanceOf v.self < accounted)
    (.accountingDeficit accounted (asset.balanceOf v.self))

/- The epoch slot. -/

def oneEpoch : Uint64 := 1

def openEpoch (v : Vault) (epochId nowAt : Uint64) : Except Revert Vault := do
  let cutoffAt ← add nowAt v.epochDuration
  let nextEpochId ← add epochId oneEpoch
  pure { v with
    epochOpen := true
    currentEpochPhase := .opened
    currentEpochId := epochId
    currentEpochOpenedAt := nowAt
    currentEpochCutoffAt := cutoffAt
    nextEpochId := nextEpochId
    epochDepositAssets := .zero
    epochRedeemShares := .zero }

def closeEpochSlot (v : Vault) : Vault :=
  { v with epochOpen := false, epochDepositAssets := .zero, epochRedeemShares := .zero }

/-- The state before the constructor opens the first epoch. -/
def fresh (self admin guardian : Address) (epochDuration : Uint64)
    (minDepositAssets minRedeemShares : Uint256) (configVersion : Unsigned 32)
    (shares : ShareCode) : Vault where
  self := self
  admin := admin
  guardian := guardian
  epochDuration := epochDuration
  minDepositAssets := minDepositAssets
  minRedeemShares := minRedeemShares
  configVersion := configVersion
  shares := ⟨shares, .empty⟩
  pendingDepositEscrow := .zero
  idleBacking := .zero
  claimReserve := .zero
  unattributedBalance := .zero
  unattributedInbound := .zero
  outboundInTransit := .zero
  acceptedRemoteValue := .zero
  inboundInTransit := .zero
  remotePrincipalCap := .zero
  recognizedLoss := .zero
  impairedTransport := .zero
  remoteAccounting := .zero
  pendingRecallId := .zero
  pendingRecallPrincipal := .zero
  epochRemoteValuationLocked := fun _ => false
  lockedPricingAssets := fun _ => .zero
  vaultStatus := .active
  epochOpen := false
  currentEpochPhase := .opened
  currentEpochId := .zero
  currentEpochOpenedAt := .zero
  currentEpochCutoffAt := .zero
  nextEpochId := .zero
  lastCutoffAt := .zero
  epochDepositAssets := .zero
  epochRedeemShares := .zero
  settled := fun _ => .unset
  deposits := .empty
  redeems := .empty

/-- The constructor. `decimals` is what the underlying token answers. -/
def create (self underlying admin guardian : Address) (decimals : Unsigned 8)
    (epochDuration : Uint64) (minDepositAssets minRedeemShares : Uint256)
    (configVersion : Unsigned 32) (shares : ShareCode) (nowAt : Uint64) : Except Revert Vault := do
  rejectIf (underlying.isZero ∨ admin.isZero) .invalidAddress
  rejectIf (guardian.isZero ∨ admin = guardian) .invalidAddress
  rejectIf (epochDuration.isZero ∨ minDepositAssets.isZero ∨ minRedeemShares.isZero) .zeroAmount
  rejectIf (decimals.raw ≠ 6) .invalidAddress
  (fresh self admin guardian epochDuration minDepositAssets minRedeemShares configVersion
    shares).openEpoch .zero nowAt

/- Requests. -/

def requestDeposit (v : Vault) (asset : Asset) (msg : Msg) (assets : Uint256) :
    Except Revert (Vault × Asset) := do
  v.requireStatus .active
  v.requireOpenEpoch
  rejectIf assets.isZero .zeroAmount
  rejectIf (assets < v.minDepositAssets) (.amountBelowMinimum assets v.minDepositAssets)
  v.requireNoDeficit asset
  let epochId := v.currentEpochId
  let request := v.deposits.requestOf epochId msg.sender
  rejectIf request.settled (.claimAlreadyConsumed epochId msg.sender)
  let list ← v.deposits.enlist epochId msg.sender
  let requested ← add request.amount assets
  let escrow ← add v.pendingDepositEscrow assets
  let epochTotal ← add v.epochDepositAssets assets
  let asset ← asset.pullExact v.self msg.sender assets
  pure ({ v with
    deposits := v.deposits.file epochId msg.sender
      { request with amount := requested, cancelled := false } list
    pendingDepositEscrow := escrow
    epochDepositAssets := epochTotal }, asset)

def cancelDepositRequest (v : Vault) (asset : Asset) (msg : Msg) :
    Except Revert (Vault × Asset) := do
  v.requireCancellationAllowed
  v.requireCancellableEpoch
  let epochId := v.currentEpochId
  let request := v.deposits.requestOf epochId msg.sender
  rejectIf request.settled (.claimAlreadyConsumed epochId msg.sender)
  rejectIf request.amount.isZero (.requestAlreadyCancelled msg.sender)
  let cancelledTotal ← add request.cancelledAmount request.amount
  let escrow ← sub v.pendingDepositEscrow request.amount
  let epochTotal ← sub v.epochDepositAssets request.amount
  let list ← v.deposits.removeController epochId msg.sender
  let asset ← asset.pushExact v.self msg.sender request.amount
  pure ({ v with
    deposits := v.deposits.file epochId msg.sender
      { request with amount := .zero, cancelledAmount := cancelledTotal, cancelled := true } list
    pendingDepositEscrow := escrow
    epochDepositAssets := epochTotal }, asset)

/-- Escrowed shares stay in total supply until the epoch settles. -/
def requestRedeem (v : Vault) (asset : Asset) (msg : Msg) (shares : Uint256) :
    Except Revert Vault := do
  v.requireStatus .active
  v.requireOpenEpoch
  rejectIf shares.isZero .zeroAmount
  rejectIf (shares < v.minRedeemShares) (.amountBelowMinimum shares v.minRedeemShares)
  rejectIf (v.shares.balanceOf msg.sender < shares)
    (.insufficientBalance (v.shares.balanceOf msg.sender) shares)
  v.requireNoDeficit asset
  let epochId := v.currentEpochId
  let request := v.redeems.requestOf epochId msg.sender
  rejectIf request.settled (.claimAlreadyConsumed epochId msg.sender)
  let list ← v.redeems.enlist epochId msg.sender
  let requested ← add request.amount shares
  let epochTotal ← add v.epochRedeemShares shares
  let ledger ← v.shares.transfer msg.sender v.self shares
  pure { v with
    redeems := v.redeems.file epochId msg.sender
      { request with amount := requested, cancelled := false } list
    epochRedeemShares := epochTotal
    shares := ledger }

def cancelRedeemRequest (v : Vault) (msg : Msg) : Except Revert Vault := do
  v.requireCancellationAllowed
  v.requireCancellableEpoch
  let epochId := v.currentEpochId
  let request := v.redeems.requestOf epochId msg.sender
  rejectIf request.settled (.claimAlreadyConsumed epochId msg.sender)
  rejectIf request.amount.isZero (.requestAlreadyCancelled msg.sender)
  let cancelledTotal ← add request.cancelledAmount request.amount
  let epochTotal ← sub v.epochRedeemShares request.amount
  let list ← v.redeems.removeController epochId msg.sender
  let ledger ← v.shares.transfer v.self msg.sender request.amount
  pure { v with
    redeems := v.redeems.file epochId msg.sender
      { request with amount := .zero, cancelledAmount := cancelledTotal, cancelled := true } list
    epochRedeemShares := epochTotal
    shares := ledger }

/- Reconciliation. -/

/-- Matching inbound transit is attributed to idle backing; anything else stays
unattributed. -/
def attributeSurplus (v : Vault) (surplus : Uint256) : Except Revert Vault := do
  let attributed := if surplus < v.inboundInTransit then surplus else v.inboundInTransit
  let idleBacking ← add v.idleBacking attributed
  let inboundInTransit ← sub v.inboundInTransit attributed
  let remaining ← sub surplus attributed
  let v := { v with idleBacking := idleBacking, inboundInTransit := inboundInTransit }
  if remaining.isZero then pure v
  else if !v.pendingRecallPrincipal.isZero then do
    let total ← add v.unattributedInbound remaining
    pure { v with unattributedInbound := total }
  else do
    let total ← add v.unattributedBalance remaining
    pure { v with unattributedBalance := total }

/-- Records assets that arrived without a request. -/
def recordSurplus (v : Vault) (asset : Asset) : Except Revert Vault := do
  let accounted ← v.accountedAssets
  let actual := asset.balanceOf v.self
  rejectIf (actual < accounted) (.accountingDeficit accounted actual)
  let surplus ← sub actual accounted
  if surplus.isZero then pure v else v.attributeSurplus surplus

/- Epoch lifecycle. -/

def cutoffEpoch (v : Vault) (msg : Msg) : Except Revert Vault := do
  v.requireStatus .active
  v.requireOpenEpoch
  rejectIf (msg.timestamp < v.currentEpochCutoffAt)
    (.cutoffNotReached msg.timestamp v.currentEpochCutoffAt)
  pure { v with currentEpochPhase := .cutOff }

/-- The assets an epoch is priced at: the locked value if there is one, else idle backing,
which is everything while nothing is remote. -/
def pricingAssets (v : Vault) : Except Revert Uint256 :=
  if v.epochRemoteValuationLocked v.currentEpochId then pure (v.lockedPricingAssets v.currentEpochId)
  else if v.hasRemoteExposure then .error .remoteValuationRequired
  else pure v.idleBacking

/-- Redemptions draw only on liquidity that existed before this epoch, so deposits arriving in
the same epoch never fund an exit. -/
def finalizeEpoch (v : Vault) (asset : Asset) : Except Revert Vault := do
  v.requireStatus .active
  rejectIf (v.epochOpen = false) .epochNotOpen
  rejectIf (v.currentEpochPhase ≠ .cutOff) .epochNotCutOff
  let epochId := v.currentEpochId
  rejectIf ((v.settled epochId).outcome ≠ .none) (.epochAlreadySettled epochId)
  let v ← v.recordSurplus asset
  let totalAssets ← v.pricingAssets
  let totalSupply := v.shares.totalSupply
  let depositAssets := v.epochDepositAssets
  let redeemShares := v.epochRedeemShares
  let mintedShares ← VaultMath.assetsToShares depositAssets totalAssets totalSupply
  let redeemAssets ← VaultMath.sharesToAssets redeemShares totalAssets totalSupply
  rejectIf (v.idleBacking < redeemAssets) (.insufficientLiquidity v.idleBacking redeemAssets)
  let deposits ← v.deposits.priceClaims epochId fun assets =>
    VaultMath.assetsToShares assets totalAssets totalSupply
  let redeems ← v.redeems.priceClaims epochId fun shares =>
    VaultMath.sharesToAssets shares totalAssets totalSupply
  rejectIf (mintedShares < deposits.2 ∨ redeemAssets < redeems.2) .invariantViolation
  let depositDust ← sub mintedShares deposits.2
  let redeemDust ← sub redeemAssets redeems.2
  let idleAfterRedemptions ← sub v.idleBacking redeemAssets
  let idleBacking ← add idleAfterRedemptions depositAssets
  let escrow ← sub v.pendingDepositEscrow depositAssets
  let reserve ← add v.claimReserve redeemAssets
  let burned ← unlessZero redeemShares v.shares (v.shares.burn v.self redeemShares)
  let ledger ← unlessZero mintedShares burned (burned.mint v.self mintedShares)
  let nextEpochId ← add epochId oneEpoch
  pure ({ v with
    deposits := deposits.1
    redeems := redeems.1
    settled := Function.update v.settled epochId {
      outcome := .finalized
      configVersion := v.configVersion
      cutoffAt := v.currentEpochCutoffAt
      totalAssets := totalAssets
      totalSupply := totalSupply
      depositAssets := depositAssets
      mintedShares := mintedShares
      redeemShares := redeemShares
      redeemAssets := redeemAssets
      depositDust := depositDust
      redeemDust := redeemDust }
    idleBacking := idleBacking
    pendingDepositEscrow := escrow
    claimReserve := reserve
    shares := ledger
    lastCutoffAt := v.currentEpochCutoffAt
    nextEpochId := nextEpochId }.closeEpochSlot)

def openNextEpoch (v : Vault) (msg : Msg) : Except Revert Vault := do
  v.requireStatus .active
  rejectIf v.epochOpen .epochAlreadyOpen
  rejectIf (msg.timestamp < v.lastCutoffAt) (.timestampNotMonotonic msg.timestamp v.lastCutoffAt)
  v.openEpoch v.nextEpochId msg.timestamp

/-- Abandons the unsettled epoch so frozen funds keep a way out. -/
def abortEpoch (v : Vault) (msg : Msg) : Except Revert Vault := do
  v.requireAdminOrGuardian msg.sender
  v.requireStatus .frozen
  rejectIf (v.epochOpen = false) .epochNotOpen
  let epochId := v.currentEpochId
  rejectIf ((v.settled epochId).outcome ≠ .none) (.epochAlreadySettled epochId)
  let nextEpochId ← add epochId oneEpoch
  pure ({ v with
    settled := Function.update v.settled epochId { v.settled epochId with
      outcome := .aborted
      configVersion := v.configVersion
      cutoffAt := v.currentEpochCutoffAt
      depositAssets := v.epochDepositAssets
      redeemShares := v.epochRedeemShares }
    lastCutoffAt := v.currentEpochCutoffAt
    nextEpochId := nextEpochId }.closeEpochSlot)

/- Claims and refunds. -/

/-- The record a claim or a refund pays. `consumed` is the error of a record already paid. -/
def payable (requests : Requests) (epochId : Uint64) (sender : Address) (consumed : Revert) :
    Except Revert Request := do
  let request := requests.requestOf epochId sender
  rejectIf request.cancelled (.requestAlreadyCancelled sender)
  rejectIf request.settled consumed
  rejectIf request.amount.isZero (.requestNotFound sender)
  pure request

def claimDeposit (v : Vault) (msg : Msg) (epochId : Uint64) : Except Revert Vault := do
  rejectIf ((v.settled epochId).outcome ≠ .finalized) (.epochNotFinalized epochId)
  let _ ← payable v.deposits epochId msg.sender (.claimAlreadyConsumed epochId msg.sender)
  let shares := v.deposits.claimOf epochId msg.sender
  let ledger ← unlessZero shares v.shares (v.shares.transfer v.self msg.sender shares)
  pure { v with deposits := v.deposits.settle epochId msg.sender, shares := ledger }

def claimRedeem (v : Vault) (asset : Asset) (msg : Msg) (epochId : Uint64) :
    Except Revert (Vault × Asset) := do
  rejectIf ((v.settled epochId).outcome ≠ .finalized) (.epochNotFinalized epochId)
  let _ ← payable v.redeems epochId msg.sender (.claimAlreadyConsumed epochId msg.sender)
  let assets := v.redeems.claimOf epochId msg.sender
  let reserve ← sub v.claimReserve assets
  let asset ← unlessZero assets asset (asset.pushExact v.self msg.sender assets)
  pure ({ v with redeems := v.redeems.settle epochId msg.sender, claimReserve := reserve }, asset)

def refundDeposit (v : Vault) (asset : Asset) (msg : Msg) (epochId : Uint64) :
    Except Revert (Vault × Asset) := do
  rejectIf ((v.settled epochId).outcome ≠ .aborted) (.epochNotAborted epochId)
  let request ← payable v.deposits epochId msg.sender (.refundAlreadyConsumed epochId msg.sender)
  let escrow ← sub v.pendingDepositEscrow request.amount
  let asset ← asset.pushExact v.self msg.sender request.amount
  pure ({ v with
    deposits := v.deposits.settle epochId msg.sender
    pendingDepositEscrow := escrow }, asset)

def refundRedeem (v : Vault) (msg : Msg) (epochId : Uint64) : Except Revert Vault := do
  rejectIf ((v.settled epochId).outcome ≠ .aborted) (.epochNotAborted epochId)
  let request ← payable v.redeems epochId msg.sender (.refundAlreadyConsumed epochId msg.sender)
  let ledger ← v.shares.transfer v.self msg.sender request.amount
  pure { v with redeems := v.redeems.settle epochId msg.sender, shares := ledger }

/- Emergency controls. -/

def pause (v : Vault) (msg : Msg) : Except Revert Vault := do
  v.requireAdminOrGuardian msg.sender
  v.requireStatus .active
  pure { v with vaultStatus := .paused }

def unpause (v : Vault) (msg : Msg) : Except Revert Vault := do
  v.requireAdmin msg.sender
  v.requireStatus .paused
  pure { v with vaultStatus := .active }

/-- Freezing is terminal. -/
def freeze (v : Vault) (msg : Msg) : Except Revert Vault := do
  v.requireAdminOrGuardian msg.sender
  rejectIf (v.vaultStatus = .frozen) (.invalidVaultStatus v.vaultStatus)
  pure { v with vaultStatus := .frozen }

/- The remote buckets, moved only by the bound coordinator. -/

/-- Binds the remote coordinator once. Rebinding is permanently refused. -/
def bindRemoteAccounting (v : Vault) (msg : Msg) (coordinator : Address) :
    Except Revert Vault := do
  v.requireAdmin msg.sender
  rejectIf (coordinator.isZero ∨ coordinator = v.self) .invalidAddress
  rejectIf (v.remoteAccounting.isZero = false) .remoteAccountingAlreadyBound
  rejectIf v.economicActivityStarted .remoteAccountingBindAfterActivity
  pure { v with remoteAccounting := coordinator }

def beginOutbound (v : Vault) (asset : Asset) (sender : Address) (amount : Uint256)
    (sink : Address) : Except Revert (Vault × Asset) := do
  v.requireRemoteAccounting sender
  let v ← v.recordSurplus asset
  rejectIf amount.isZero .zeroAmount
  rejectIf (sink.isZero ∨ sink = v.self) .invalidAddress
  rejectIf (v.idleBacking < amount) (.insufficientLiquidity v.idleBacking amount)
  let idleBacking ← sub v.idleBacking amount
  let outbound ← add v.outboundInTransit amount
  let asset ← asset.pushExact v.self sink amount
  pure ({ v with idleBacking := idleBacking, outboundInTransit := outbound }, asset)

/-- The accepted value never exceeds the principal behind it. -/
def setAcceptedRemoteValue (v : Vault) (reportedValue : Uint256) : Vault :=
  { v with acceptedRemoteValue :=
      if reportedValue < v.remotePrincipalCap then reportedValue else v.remotePrincipalCap }

def completeAllocation (v : Vault) (sender : Address) (amount reportedValue : Uint256) :
    Except Revert Vault := do
  v.requireRemoteAccounting sender
  rejectIf amount.isZero .zeroAmount
  rejectIf (v.outboundInTransit < amount) .invalidAssetAttribution
  let outbound ← sub v.outboundInTransit amount
  let cap ← add v.remotePrincipalCap amount
  pure ({ v with outboundInTransit := outbound, remotePrincipalCap := cap }.setAcceptedRemoteValue
    reportedValue)

/-- Only the credited part becomes remote principal; the rest leaves NAV as impairment. -/
def closeAllocation (v : Vault) (sender : Address) (claim credited : Uint256) :
    Except Revert Vault := do
  v.requireRemoteAccounting sender
  rejectIf claim.isZero .zeroAmount
  rejectIf (claim < credited ∨ v.outboundInTransit < claim) .invalidAssetAttribution
  let outbound ← sub v.outboundInTransit claim
  let cap ← add v.remotePrincipalCap credited
  let accepted ← add v.acceptedRemoteValue credited
  let shortfall ← sub claim credited
  let impaired ← add v.impairedTransport shortfall
  pure { v with
    outboundInTransit := outbound
    remotePrincipalCap := cap
    acceptedRemoteValue := accepted
    impairedTransport := impaired }

/-- Returns recovered impairment to remote principal at par. -/
def recoverImpairment (v : Vault) (sender : Address) (amount : Uint256) :
    Except Revert Vault := do
  v.requireRemoteAccounting sender
  rejectIf (v.impairedTransport < amount) .invalidAssetAttribution
  let impaired ← sub v.impairedTransport amount
  let cap ← add v.remotePrincipalCap amount
  let accepted ← add v.acceptedRemoteValue amount
  pure { v with
    impairedTransport := impaired
    remotePrincipalCap := cap
    acceptedRemoteValue := accepted }

def applyRemoteValuation (v : Vault) (sender : Address) (reportedValue : Uint256) :
    Except Revert Vault := do
  v.requireRemoteAccounting sender
  pure (v.setAcceptedRemoteValue reportedValue)

def beginRecall (v : Vault) (sender : Address) (transferId : Bytes32) (amount : Uint256) :
    Except Revert Vault := do
  v.requireRemoteAccounting sender
  rejectIf (transferId.isZero ∨ amount.isZero) .zeroAmount
  pure { v with pendingRecallId := transferId, pendingRecallPrincipal := amount }

def applyRecallSent (v : Vault) (sender : Address) (principal actual loss : Uint256) :
    Except Revert Vault := do
  v.requireRemoteAccounting sender
  rejectIf principal.isZero .zeroAmount
  rejectIf (v.remotePrincipalCap < principal)
    (.insufficientRemotePrincipal v.remotePrincipalCap principal)
  rejectIf (actual.raw + loss.raw ≠ principal.raw) .invalidAssetAttribution
  let acceptedDecrease :=
    if v.acceptedRemoteValue < principal then v.acceptedRemoteValue else principal
  let cap ← sub v.remotePrincipalCap principal
  let accepted ← sub v.acceptedRemoteValue acceptedDecrease
  let recognizedLoss ← add v.recognizedLoss loss
  let fromUnattributed := if actual < v.unattributedInbound then actual else v.unattributedInbound
  let unattributedInbound ← sub v.unattributedInbound fromUnattributed
  let idleBacking ← add v.idleBacking fromUnattributed
  let stillInTransit ← sub actual fromUnattributed
  let inboundInTransit ← add v.inboundInTransit stillInTransit
  pure { v with
    remotePrincipalCap := cap
    acceptedRemoteValue := accepted
    recognizedLoss := recognizedLoss
    unattributedInbound := unattributedInbound
    idleBacking := idleBacking
    inboundInTransit := inboundInTransit
    pendingRecallId := .zero
    pendingRecallPrincipal := .zero }

def lockRemoteValuation (v : Vault) (sender : Address) (epochId : Uint64) :
    Except Revert Vault := do
  v.requireRemoteAccounting sender
  rejectIf (v.epochRemoteValuationLocked epochId) .valuationAlreadyFixed
  let backing ← v.managedBacking
  pure { v with
    epochRemoteValuationLocked := Function.update v.epochRemoteValuationLocked epochId true
    lockedPricingAssets := Function.update v.lockedPricingAssets epochId backing }

end Vault

end Evm
