import CrossChainVault.Evm.Books
import CrossChainVault.Model.Valuation

set_option autoImplicit false

/- The relation between a state of the reference model and a state of the contracts, and the
transaction that carries out a model operation. -/

namespace Lockstep

open AccountingModel (State Operation AccountId EpochId AssetAmount ShareAmount)
open Evm (World Vault Msg Call Address)
open Protocol

/-- Each model account is one address of its own. -/
structure AddressBook where
  addressOf : AccountId → Address
  distinct : Function.Injective addressOf

def statusOf : AccountingModel.VaultState → Evm.VaultStatus
  | .active => .active
  | .paused => .paused
  | .frozen => .frozen

def phaseOf : AccountingModel.EpochPhase → Evm.EpochPhase
  | .opened => .opened
  | .cutOff => .cutOff

def cycleOf : AccountingModel.CycleKind → Evm.CycleKind
  | .none => .none
  | .allocate => .allocate
  | .recall => .recall
  | .recover => .recover

/-- The vault's epoch slot. -/
structure Slot where
  isOpen : Bool
  phase : Evm.EpochPhase
  id : Evm.Uint64
  openedAt : Evm.Uint64
  cutoffAt : Evm.Uint64
  next : Evm.Uint64
  depositAssets : Evm.Uint256
  redeemShares : Evm.Uint256

def slotOf (v : Vault) : Slot where
  isOpen := v.epochOpen
  phase := v.currentEpochPhase
  id := v.currentEpochId
  openedAt := v.currentEpochOpenedAt
  cutoffAt := v.currentEpochCutoffAt
  next := v.nextEpochId
  depositAssets := v.epochDepositAssets
  redeemShares := v.epochRedeemShares

/-- The open epoch, field by field. The vault names the next epoch when it opens one, the model
when it settles one. -/
structure SameEpoch (epoch : AccountingModel.Epoch) (version : Unsigned 32) (slot : Slot) : Prop where
  isOpen : slot.isOpen = true
  phase : slot.phase = phaseOf epoch.phase
  id : slot.id = epoch.id
  openedAt : slot.openedAt = epoch.openedAt
  cutoffAt : slot.cutoffAt = epoch.cutoffAt
  next : slot.next.raw = epoch.id.raw + 1
  depositAssets : slot.depositAssets.raw = epoch.pendingDepositAssets.raw
  redeemShares : slot.redeemShares.raw = epoch.pendingRedeemShares.raw
  version : epoch.configVersion = version
  virtualAssets : epoch.virtualAssets.raw = Evm.VaultMath.virtualAssets.raw
  virtualShares : epoch.virtualShares.raw = Evm.VaultMath.virtualShares.raw

def SameSlot (epoch : Option AccountingModel.Epoch) (next : EpochId) (version : Unsigned 32)
    (slot : Slot) : Prop :=
  match epoch with
  | none => slot.isOpen = false ∧ slot.next = next
  | some epoch => SameEpoch epoch version slot

structure SameRequest (model : AccountingModel.Request) (evm : Evm.Request) : Prop where
  amount : evm.amount.raw = model.amount.raw
  cancelledAmount : evm.cancelledAmount.raw = model.cancelledAmount.raw
  cancelled : evm.cancelled = model.cancelled
  settled : evm.settled = model.claimed

/-- Every record of either side has its counterpart on the other. -/
structure SameRequests (book : AddressBook) (model : AccountingModel.RequestMap)
    (requestOf : Evm.Uint64 → Address → Evm.Request) : Prop where
  same : ∀ (epoch : EpochId) (account : AccountId),
    SameRequest (model[(⟨epoch, account⟩ : AccountingModel.RequestKey)]?.getD .empty)
      (requestOf epoch (book.addressOf account))
  others : ∀ (epoch : EpochId) (holder : Address),
    (∀ account, book.addressOf account ≠ holder) → requestOf epoch holder = .empty

/-- Terms agree field by field, dust included. -/
structure SameTerms (terms : AccountingModel.EpochTerms) (settled : Evm.SettledEpoch) : Prop where
  outcome : settled.outcome = .finalized
  configVersion : settled.configVersion = terms.configVersion
  cutoffAt : settled.cutoffAt = terms.cutoffAt
  totalAssets : settled.totalAssets.raw = terms.totalAssets.raw
  totalSupply : settled.totalSupply.raw = terms.totalSupply.raw
  depositAssets : settled.depositAssets.raw = terms.depositAssets.raw
  mintedShares : settled.mintedShares.raw = terms.mintedShares.raw
  redeemShares : settled.redeemShares.raw = terms.redeemShares.raw
  redeemAssets : settled.redeemAssets.raw = terms.redeemAssets.raw
  depositDust : settled.depositDust.raw = terms.depositDust.raw
  redeemDust : settled.redeemDust.raw = terms.redeemDust.raw
  virtualAssets : terms.virtualAssets.raw = Evm.VaultMath.virtualAssets.raw
  virtualShares : terms.virtualShares.raw = Evm.VaultMath.virtualShares.raw

/-- An aborted epoch keeps what it owes back and prices nothing. -/
structure SameAborted (terms : AccountingModel.AbortedTerms) (settled : Evm.SettledEpoch) : Prop where
  outcome : settled.outcome = .aborted
  configVersion : settled.configVersion = terms.configVersion
  cutoffAt : settled.cutoffAt = terms.cutoffAt
  refundAssets : settled.depositAssets.raw = terms.refundAssets.raw
  refundShares : settled.redeemShares.raw = terms.refundShares.raw

def SameOutcome : Option AccountingModel.EpochOutcome → Evm.SettledEpoch → Prop
  | none, settled => settled.outcome = .none
  | some (.finalized terms), settled => SameTerms terms settled
  | some (.aborted terms), settled => SameAborted terms settled

def SameLock : Option AssetAmount → Bool → Evm.Uint256 → Prop
  | none, locked, _ => locked = false
  | some value, locked, assets => locked = true ∧ assets.raw = value.raw

/-- The model with six and eighteen decimals and the contracts hold the same accounting. -/
structure Related (book : AddressBook) (s : State) (w : World) : Prop where
  assetDecimals : s.config.assetDecimals.raw = 6
  shareDecimals : s.config.shareDecimals.raw = 18
  version : s.config.version = w.vault.configVersion
  duration : s.config.epochDuration = w.vault.epochDuration
  status : w.vault.vaultStatus = statusOf s.vaultState
  pendingDepositEscrow : w.vault.pendingDepositEscrow.raw = s.buckets.pendingDepositEscrow.raw
  idleBacking : w.vault.idleBacking.raw = s.buckets.idleBacking.raw
  claimReserve : w.vault.claimReserve.raw = s.buckets.claimReserve.raw
  unattributedBalance : w.vault.unattributedBalance.raw = s.buckets.unattributedBalance.raw
  unattributedInbound : w.vault.unattributedInbound.raw = s.buckets.unattributedInbound.raw
  outboundInTransit : w.vault.outboundInTransit.raw = s.buckets.outboundInTransit.raw
  acceptedRemoteValue : w.vault.acceptedRemoteValue.raw = s.buckets.acceptedRemoteValue.raw
  inboundInTransit : w.vault.inboundInTransit.raw = s.buckets.inboundInTransit.raw
  remotePrincipalCap : w.vault.remotePrincipalCap.raw = s.remotePrincipalCap.raw
  recognizedLoss : w.vault.recognizedLoss.raw = s.recognizedLoss.raw
  impairedTransport : w.vault.impairedTransport.raw = s.impairedTransport.raw
  pendingRecallId : w.vault.pendingRecallId = s.pendingRecallId
  pendingRecallPrincipal : w.vault.pendingRecallPrincipal.raw = s.pendingRecallPrincipal.raw
  supply : w.vault.shares.totalSupply.raw = s.totalShareSupply.raw
  /-- Nothing has arrived at the vault that it has not recorded. -/
  funded : (w.asset.balanceOf w.vault.self).raw = s.buckets.pendingDepositEscrow.raw +
    s.buckets.idleBacking.raw + s.buckets.claimReserve.raw + s.buckets.unattributedBalance.raw +
    s.buckets.unattributedInbound.raw
  epoch : SameSlot s.epoch s.nextEpochId s.config.version (slotOf w.vault)
  deposits : SameRequests book s.depositRequests w.vault.deposits.requestOf
  redeems : SameRequests book s.redeemRequests w.vault.redeems.requestOf
  settled : ∀ (id : EpochId), SameOutcome s.epochs[id]? (w.vault.settled id)
  locks : ∀ (id : EpochId), SameLock s.epochValuationLocked[id]?
    (w.vault.epochRemoteValuationLocked id) (w.vault.lockedPricingAssets id)
  cycleKind : w.coordinator.activeCycleKind = cycleOf s.activeCycle
  transferId : w.coordinator.activeTransferId = s.activeTransferId
  amount : w.coordinator.activeAmount = s.activeAmount
  closeRequested : w.coordinator.closeRequested = s.closeRequested
  cumulativeLoss : w.coordinator.lastInboundCumulativeLoss = s.inboundCumulativeLoss
  baselineValue : w.coordinator.recallBaselineValue = s.recallBaselineValue
  baselineLoss : w.coordinator.recallBaselineLoss = s.recallBaselineLoss

/-- The report is applied, not skipped. -/
def applies (w : World) (msg : Msg) (header : Header) (body : RemoteReportBody) : Bool :=
  decide (msg.timestamp ≤ header.expiresAt) &&
    (!w.atCutoff ||
      if w.locked then
        w.completes body && (w.completionKeepsNav body.reportedValue).toOption = some true
      else
        decide (body.epochId = w.vault.currentEpochId) &&
          decide (w.vault.currentEpochCutoffAt ≤ header.observedAt))

/-- The model operations one report carries out: it completes the allocation it names, values
the leg, and fixes the valuation when it is the first one at a cutoff. While a close is pending
it only acknowledges the loss. -/
def carriedOut (w : World) (body : RemoteReportBody) (loss : AssetAmount) : List Operation :=
  if w.coordinator.closeRequested then [.applyRemoteValuation body.reportedValue loss]
  else
    (if w.completes body then
      [.completeAllocation body.latestCompletedTransferId body.reportedValue] else []) ++
    [.applyRemoteValuation body.reportedValue loss] ++
    (if w.atCutoff && !w.locked then [.lockRemoteValuation] else [])

/-- The transactions that carry out model operations. Every operation but the three a report
carries is one transaction; assets that arrive are observed after the call that brought them. -/
inductive Counterpart (book : AddressBook) (w : World) :
    List Operation → List (Msg × Call) → Prop
  | requestDeposit (account : AccountId) (assets : AssetAmount) (now : Evm.Uint64) :
      Counterpart book w [.requestDeposit account assets]
        [(⟨book.addressOf account, now⟩, .requestDeposit (Evm.toUint256 assets))]
  | cancelDeposit (account : AccountId) (now : Evm.Uint64) :
      Counterpart book w [.cancelDeposit account]
        [(⟨book.addressOf account, now⟩, .cancelDepositRequest)]
  | requestRedeem (account : AccountId) (shares : ShareAmount) (now : Evm.Uint64) :
      Counterpart book w [.requestRedeem account shares]
        [(⟨book.addressOf account, now⟩, .requestRedeem (Evm.toUint256 shares))]
  | cancelRedeem (account : AccountId) (now : Evm.Uint64) :
      Counterpart book w [.cancelRedeem account]
        [(⟨book.addressOf account, now⟩, .cancelRedeemRequest)]
  | cutoffEpoch (msg : Msg) :
      Counterpart book w [.cutoffEpoch msg.timestamp] [(msg, .cutoffEpoch)]
  | finalizeEpoch (msg : Msg) : Counterpart book w [.finalizeEpoch] [(msg, .finalizeEpoch)]
  | abortEpoch (actor : AccountId) (now : Evm.Uint64) :
      Counterpart book w [.abortEpoch actor] [(⟨book.addressOf actor, now⟩, .abortEpoch)]
  | claimDeposit (account : AccountId) (epoch : EpochId) (now : Evm.Uint64) :
      Counterpart book w [.claimDeposit account epoch]
        [(⟨book.addressOf account, now⟩, .claimDeposit epoch)]
  | claimRedeem (account : AccountId) (epoch : EpochId) (now : Evm.Uint64) :
      Counterpart book w [.claimRedeem account epoch]
        [(⟨book.addressOf account, now⟩, .claimRedeem epoch)]
  | refundDeposit (account : AccountId) (epoch : EpochId) (now : Evm.Uint64) :
      Counterpart book w [.claimAbortedDeposit account epoch]
        [(⟨book.addressOf account, now⟩, .refundDeposit epoch)]
  | refundRedeem (account : AccountId) (epoch : EpochId) (now : Evm.Uint64) :
      Counterpart book w [.claimAbortedRedeem account epoch]
        [(⟨book.addressOf account, now⟩, .refundRedeem epoch)]
  | openNextEpoch (msg : Msg) :
      Counterpart book w [.openNextEpoch msg.timestamp] [(msg, .openNextEpoch)]
  | pause (actor : AccountId) (now : Evm.Uint64) :
      Counterpart book w [.pause actor] [(⟨book.addressOf actor, now⟩, .pause)]
  | unpause (actor : AccountId) (now : Evm.Uint64) :
      Counterpart book w [.unpause actor] [(⟨book.addressOf actor, now⟩, .unpause)]
  | freeze (actor : AccountId) (now : Evm.Uint64) :
      Counterpart book w [.freeze actor] [(⟨book.addressOf actor, now⟩, .freeze)]
  | allocate (actor : AccountId) (transferId : Bytes32) (amount minimum : AssetAmount)
      (deadline now : Evm.Uint64) (stamps : Evm.Stamps) :
      Counterpart book w [.beginAllocate actor transferId amount]
        [(⟨book.addressOf actor, now⟩, .allocate transferId amount minimum deadline stamps)]
  | recall (actor : AccountId) (transferId : Bytes32) (amount minimum : AssetAmount)
      (deadline now : Evm.Uint64) (stamps : Evm.Stamps) :
      Counterpart book w [.beginRecall actor transferId amount]
        [(⟨book.addressOf actor, now⟩, .recall transferId amount minimum deadline stamps)]
  | recallSent (msg : Msg) (authentic : Bool) (header : Header) (body : RecallSentBody) :
      Counterpart book w
        [.acceptRecallSent body.transferId body.principalSent body.actualAmountSent
          body.realizedLoss]
        [(msg, .processRecallSent authentic header body)]
  | elsewhere (payer : Msg) (data : Evm.AssetCall)
      (stays : ∀ after, w.asset.call payer.sender data = .ok after →
        (after.balanceOf w.vault.self).raw = (w.asset.balanceOf w.vault.self).raw) :
      Counterpart book w [] [(payer, .asset data)]
  | observe (amount : AssetAmount) (payer observer : Msg) (data : Evm.AssetCall)
      (arrives : ∀ after, w.asset.call payer.sender data = .ok after →
        (after.balanceOf w.vault.self).raw =
          (w.asset.balanceOf w.vault.self).raw + amount.raw) :
      Counterpart book w [.observeInbound amount]
        [(payer, .asset data), (observer, .observeInbound)]
  | report (msg : Msg) (authentic : Bool) (header : Header) (body : RemoteReportBody)
      (loss : AssetAmount)
      (added : w.coordinator.lastInboundCumulativeLoss.raw + loss.raw = body.realizedLoss.raw)
      (applied : w.coordinator.closeRequested = true ∨ applies w msg header body = true) :
      Counterpart book w (carriedOut w body loss) [(msg, .processRemoteReport authentic header body)]
  | skippedReport (msg : Msg) (authentic : Bool) (header : Header) (body : RemoteReportBody)
      (noLoss : body.realizedLoss = w.coordinator.lastInboundCumulativeLoss)
      (skipped : applies w msg header body = false) :
      Counterpart book w [] [(msg, .processRemoteReport authentic header body)]
  | completion (msg : Msg) (authentic : Bool) (header : Header) (body : RemoteReportBody)
      (noLoss : body.realizedLoss = w.coordinator.lastInboundCumulativeLoss)
      (names : w.completes body = true) (running : w.coordinator.closeRequested = false)
      (fixed : w.atCutoff = true → w.locked = true) (applied : applies w msg header body = true) :
      Counterpart book w
        [.completeAllocation body.latestCompletedTransferId body.reportedValue]
        [(msg, .processRemoteReport authentic header body)]
  | lock (msg : Msg) (authentic : Bool) (header : Header) (body : RemoteReportBody)
      (noLoss : body.realizedLoss = w.coordinator.lastInboundCumulativeLoss)
      (sameValue : body.reportedValue.raw = w.vault.acceptedRemoteValue.raw)
      (noCompletion : w.completes body = false) (running : w.coordinator.closeRequested = false)
      (cutoff : w.atCutoff = true) (unfixed : w.locked = false)
      (applied : applies w msg header body = true) :
      Counterpart book w [.lockRemoteValuation] [(msg, .processRemoteReport authentic header body)]
  | pendingClose (operation : Operation) (msg : Msg) (authentic : Bool) (header : Header)
      (body : RemoteReportBody)
      (reported : operation = .lockRemoteValuation ∨
        ∃ transferId value, operation = .completeAllocation transferId value)
      (noLoss : body.realizedLoss = w.coordinator.lastInboundCumulativeLoss)
      (closing : w.coordinator.closeRequested = true) :
      Counterpart book w [operation] [(msg, .processRemoteReport authentic header body)]
  | requestClose (actor : AccountId) (transferId : Bytes32) (now : Evm.Uint64)
      (stamps : Evm.Stamps) :
      Counterpart book w [.requestClose actor transferId]
        [(⟨book.addressOf actor, now⟩, .close transferId stamps)]
  | settleClose (msg : Msg) (authentic : Bool) (header : Header) (body : TransportSettlementBody)
      (closed : body.kind = .closed) :
      Counterpart book w [.settleClose body.transferId body.creditedAmount]
        [(msg, .processTransportSettlement authentic header body)]
  | recover (actor : AccountId) (transferId : Bytes32) (now : Evm.Uint64) (stamps : Evm.Stamps) :
      Counterpart book w [.beginRecover actor transferId]
        [(⟨book.addressOf actor, now⟩, .recover transferId stamps)]
  | settleRecover (msg : Msg) (authentic : Bool) (header : Header) (body : TransportSettlementBody)
      (recovered : body.kind = .recovered) :
      Counterpart book w [.settleRecover body.transferId body.creditedAmount]
        [(msg, .processTransportSettlement authentic header body)]

end Lockstep
