import CrossChainVault.Lockstep.Epochs

set_option autoImplicit false

/- The remote cycle keeps the relation: allocations, recalls, closes, recoveries and what
arrives at the vault. -/

namespace Lockstep

open AccountingModel (State Operation AccountId EpochId AssetAmount ShareAmount)
open Evm (World Vault Msg Call Address)
open Protocol Result

variable {book : AddressBook} {s s' : State} {w w' : World} {hashing : Hashing} {msg : Msg}

section Outbound

variable {actor : AccountId} {transferId : Bytes32} {amount minimum : AssetAmount}
  {deadline : Evm.Uint64} {stamps : Evm.Stamps}

theorem allocate_related (related : Related book s w)
    (model : AccountingModel.beginAllocate s actor transferId amount = .ok s')
    (evm : w.step hashing msg (.allocate transferId amount minimum deadline stamps) = .ok w') :
    Related book s' w' := by
  obtain ⟨epoch, idle, outbound, -, -, -, -, -, -, -, -, hIdle, hOutbound, rfl⟩ :=
    AccountingModel.beginAllocate_ok model
  obtain ⟨body, moved, -, -, -, -, -, -, -, -, -, -, -, -, -, -, began, consumed, hVault, hAsset⟩ :=
    World.allocate_ok evm
  obtain ⟨vault, asset⟩ := moved
  obtain ⟨recorded, idle', outbound', -, hRecorded, -, hIdle', hOutbound', paid, -, rfl⟩ :=
    Vault.beginOutbound_ok began
  obtain rfl := related.recordSurplus hRecorded
  obtain ⟨next, -, hCoordinator⟩ := Evm.Coordinator.consumeOutbound_ok.mp consumed
  cases w'
  cases hVault
  cases hAsset
  cases hCoordinator
  have held := related.funded
  have idleBefore := related.idleBacking
  have outboundBefore := related.outboundInTransit
  simp only [Evm.toUint256_raw] at hIdle' hOutbound' paid
  exact { related with
    idleBacking := by show idle'.raw = idle.raw; omega
    outboundInTransit := by show outbound'.raw = outbound.raw; omega
    funded := by
      show (asset.balanceOf w.vault.self).raw = _
      dsimp only
      omega
    cycleKind := rfl
    transferId := rfl
    amount := rfl }

theorem recall_related (related : Related book s w)
    (model : AccountingModel.beginRecall s actor transferId amount = .ok s')
    (evm : w.step hashing msg (.recall transferId amount minimum deadline stamps) = .ok w') :
    Related book s' w' := by
  obtain ⟨-, -, -, -, -, -, rfl⟩ := AccountingModel.beginRecall_ok model
  obtain ⟨body, baseline, -, -, -, -, -, -, -, -, -, -, -, -, -, hBaseline, began, consumed,
    hAsset⟩ := World.recall_ok evm
  obtain ⟨-, -, -, hVault⟩ := Vault.beginRecall_ok began
  obtain ⟨next, -, hCoordinator⟩ := Evm.Coordinator.consumeOutbound_ok.mp consumed
  cases w'
  cases hVault
  cases hAsset
  cases hCoordinator
  exact { related with
    pendingRecallId := rfl
    pendingRecallPrincipal := rfl
    cycleKind := rfl
    transferId := rfl
    amount := rfl
    baselineValue := Unsigned.ext (hBaseline.trans related.acceptedRemoteValue)
    baselineLoss := related.cumulativeLoss }

theorem close_related (related : Related book s w)
    (model : AccountingModel.requestClose s actor transferId = .ok s')
    (evm : w.step hashing msg (.close transferId stamps) = .ok w') : Related book s' w' := by
  obtain ⟨-, -, -, -, rfl⟩ := AccountingModel.requestClose_ok model
  obtain ⟨message, -, -, -, -, -, -, published, hVault, hAsset⟩ := World.close_ok evm
  obtain ⟨next, -, hCoordinator⟩ := Evm.Coordinator.publishOutbound_ok.mp published
  cases w'
  cases hVault
  cases hAsset
  cases hCoordinator
  exact { related with closeRequested := rfl }

theorem recover_related (related : Related book s w)
    (model : AccountingModel.beginRecover s actor transferId = .ok s')
    (evm : w.step hashing msg (.recover transferId stamps) = .ok w') : Related book s' w' := by
  obtain ⟨-, -, -, -, -, rfl⟩ := AccountingModel.beginRecover_ok model
  obtain ⟨message, -, -, -, -, -, -, consumed, hVault, hAsset⟩ := World.recover_ok evm
  obtain ⟨next, -, hCoordinator⟩ := Evm.Coordinator.consumeOutbound_ok.mp consumed
  cases w'
  cases hVault
  cases hAsset
  cases hCoordinator
  exact { related with
    cycleKind := rfl
    transferId := rfl
    amount := rfl }

end Outbound

section Arrivals

variable {amount : AssetAmount} {observer : Msg}

/-- Observing what arrived at the vault, once its balance shows it. -/
theorem observeInbound_related (related : Related book s w) {asset : Evm.Asset}
    (arrived : (asset.balanceOf w.vault.self).raw =
      (w.asset.balanceOf w.vault.self).raw + amount.raw)
    (model : AccountingModel.observeInbound s amount = .ok s')
    (evm : ({ w with asset := asset } : World).step hashing observer .observeInbound = .ok w') :
    Related book s' w' := by
  obtain ⟨inbound, idle, unattributed, inflow, balance, -, hInbound, hIdle, hUnattributed, -,
    hBalance, rfl⟩ := AccountingModel.observeInbound_iff.mp model
  obtain ⟨_, changed, rfl⟩ := World.withVault_ok.mp evm
  obtain ⟨surplus, inbound', idle', unattributed', balance', hSurplus, hInbound', hIdle',
    hUnattributed', hBalance', rfl⟩ := Vault.recordSurplus_ok changed
  dsimp only at hSurplus hInbound' hIdle' hUnattributed' hBalance'
  have held := related.funded
  have escrowBefore := related.pendingDepositEscrow
  have idleBefore := related.idleBacking
  have reserveBefore := related.claimReserve
  have balanceBefore := related.unattributedBalance
  have unattributedBefore := related.unattributedInbound
  have inboundBefore := related.inboundInTransit
  have all : surplus = amount.raw := by omega
  rw [related.pendingRecallPrincipal] at hUnattributed' hBalance'
  by_cases recalling : s.pendingRecallPrincipal.raw = 0
  · simp only [if_pos recalling] at hUnattributed hBalance hUnattributed' hBalance'
    exact { related with
      idleBacking := by show idle'.raw = idle.raw; omega
      unattributedBalance := by show balance'.raw = balance.raw; omega
      unattributedInbound := by show unattributed'.raw = unattributed.raw; omega
      inboundInTransit := by show inbound'.raw = inbound.raw; omega
      funded := by dsimp only; omega }
  · simp only [if_neg recalling] at hUnattributed hBalance hUnattributed' hBalance'
    exact { related with
      idleBacking := by show idle'.raw = idle.raw; omega
      unattributedBalance := by show balance'.raw = balance.raw; omega
      unattributedInbound := by show unattributed'.raw = unattributed.raw; omega
      inboundInTransit := by show inbound'.raw = inbound.raw; omega
      funded := by dsimp only; omega }

/-- A call of the asset that leaves the vault's balance alone is none of the model's business. -/
theorem elsewhere_related (related : Related book s w) {payer : Msg} {data : Evm.AssetCall}
    (stays : ∀ after, w.asset.call payer.sender data = .ok after →
      (after.balanceOf w.vault.self).raw = (w.asset.balanceOf w.vault.self).raw)
    (evm : w.step hashing payer (.asset data) = .ok w') : Related book s w' := by
  obtain ⟨asset, called, rfl⟩ := World.withAsset_ok.mp evm
  exact { related with funded := (stays asset called).trans related.funded }

theorem observe_related (related : Related book s w) {payer : Msg} {data : Evm.AssetCall}
    (arrives : ∀ after, w.asset.call payer.sender data = .ok after →
      (after.balanceOf w.vault.self).raw = (w.asset.balanceOf w.vault.self).raw + amount.raw)
    (model : AccountingModel.observeInbound s amount = .ok s') {paid : World}
    (called : w.step hashing payer (.asset data) = .ok paid)
    (evm : paid.step hashing observer .observeInbound = .ok w') : Related book s' w' := by
  obtain ⟨asset, moved, rfl⟩ := World.withAsset_ok.mp called
  exact observeInbound_related related (arrives asset moved) model evm

end Arrivals

section Notices

variable {authentic : Bool} {header : Header}

theorem restoreBaseline_ok {restored : Vault} (success : w.restoreBaseline = .ok restored)
    (covered : w.vault.acceptedRemoteValue.raw ≤ w.vault.remotePrincipalCap.raw) :
    ∃ value, value.raw =
        min w.coordinator.recallBaselineValue.raw w.vault.remotePrincipalCap.raw ∧
      restored = { w.vault with acceptedRemoteValue := value } := by
  dsimp only [World.restoreBaseline] at success
  split at success
  · rename_i unchanged
    rw [pure_eq_ok] at success
    refine ⟨w.vault.acceptedRemoteValue, ?_, success.symm⟩
    have value : w.vault.acceptedRemoteValue.raw = w.coordinator.recallBaselineValue.raw := by
      rw [unchanged, Evm.toUint256_raw]
    omega
  · obtain ⟨-, rfl⟩ := Vault.applyRemoteValuation_iff.mp success
    exact ⟨_, Vault.setAcceptedRemoteValue_raw, rfl⟩

theorem recallSent_related (related : Related book s w) (assets : AccountingModel.AssetInv s)
    {body : RecallSentBody}
    (model : AccountingModel.acceptRecallSent s body.transferId body.principalSent
      body.actualAmountSent body.realizedLoss = .ok s')
    (evm : w.step hashing msg (.processRecallSent authentic header body) = .ok w') :
    Related book s' w' := by
  obtain ⟨settledLoss, cap, accepted, recognized, unattributed, idle, inbound, -, -, -, -, hLoss,
    hCap, hAccepted, hRecognized, hUnattributed, hIdle, hInbound, rfl⟩ :=
    AccountingModel.acceptRecallSent_iff.mp model
  obtain ⟨next, settledLoss', restored, -, -, -, -, -, -, -, -, -, -, hLoss', -, hRestored, applied,
    hCoordinator, hAsset⟩ := World.processRecallSent_iff.mp evm
  have capBefore := related.remotePrincipalCap
  have acceptedBefore := related.acceptedRemoteValue
  have within := assets.accepted
  obtain ⟨value, hValue, rfl⟩ := restoreBaseline_ok hRestored (by omega)
  obtain ⟨cap', accepted', recognized', unattributed', idle', inbound', -, -, -, hCap', hAccepted',
    hRecognized', hUnattributed', hIdle', hInbound', hVault⟩ := Vault.applyRecallSent_iff.mp applied
  cases w'
  cases hVault
  cases hAsset
  cases hCoordinator
  have sameLoss : settledLoss' = settledLoss := by
    apply Unsigned.ext
    rw [hLoss, hLoss', related.baselineLoss]
  rw [related.baselineValue] at hValue
  have held := related.funded
  have recognizedBefore := related.recognizedLoss
  have unattributedBefore := related.unattributedInbound
  have idleBefore := related.idleBacking
  have inboundBefore := related.inboundInTransit
  simp only [Evm.toUint256_raw] at hCap' hAccepted' hRecognized' hUnattributed' hIdle' hInbound'
  exact { related with
    idleBacking := by show idle'.raw = idle.raw; omega
    unattributedInbound := by show unattributed'.raw = unattributed.raw; omega
    acceptedRemoteValue := by show accepted'.raw = accepted.raw; omega
    inboundInTransit := by show inbound'.raw = inbound.raw; omega
    remotePrincipalCap := by show cap'.raw = cap.raw; omega
    recognizedLoss := by show recognized'.raw = recognized.raw; omega
    funded := by
      show (w.asset.balanceOf w.vault.self).raw = s.buckets.pendingDepositEscrow.raw + idle.raw +
        s.buckets.claimReserve.raw + s.buckets.unattributedBalance.raw + unattributed.raw
      omega
    pendingRecallId := rfl
    pendingRecallPrincipal := rfl
    cycleKind := rfl
    transferId := rfl
    amount := rfl
    closeRequested := rfl
    cumulativeLoss := by
      show (if w.coordinator.lastInboundCumulativeLoss < settledLoss' then settledLoss'
        else w.coordinator.lastInboundCumulativeLoss) = _
      rw [sameLoss, related.cumulativeLoss]
      rfl
    baselineValue := rfl
    baselineLoss := rfl }

variable {body : TransportSettlementBody}

theorem settleClose_related (related : Related book s w) (closed : body.kind = .closed)
    (model : AccountingModel.settleClose s body.transferId body.creditedAmount = .ok s')
    (evm : w.step hashing msg (.processTransportSettlement authentic header body) = .ok w') :
    Related book s' w' := by
  obtain ⟨outbound, cap, accepted, impaired, cumulative, -, -, -, -, hOutbound, hCap, hAccepted,
    hImpaired, -, rfl⟩ := AccountingModel.settleClose_ok model
  obtain ⟨next, -, -, -, -, -, -, -, hAsset, settled⟩ :=
    World.processTransportSettlement_iff.mp evm
  rw [closed] at settled
  obtain ⟨-, -, -, claim, -, applied, hCoordinator⟩ := settled
  obtain ⟨outbound', cap', accepted', impaired', -, -, -, hOutbound', hCap', hAccepted', hImpaired',
    hVault⟩ := Vault.closeAllocation_iff.mp applied
  cases w'
  cases hVault
  cases hAsset
  cases hCoordinator
  have outboundBefore := related.outboundInTransit
  have capBefore := related.remotePrincipalCap
  have acceptedBefore := related.acceptedRemoteValue
  have impairedBefore := related.impairedTransport
  rw [claim, related.amount] at hOutbound' hImpaired'
  simp only [Evm.toUint256_raw] at hOutbound' hCap' hAccepted' hImpaired'
  exact { related with
    outboundInTransit := by show outbound'.raw = outbound.raw; omega
    acceptedRemoteValue := by show accepted'.raw = accepted.raw; omega
    remotePrincipalCap := by show cap'.raw = cap.raw; omega
    impairedTransport := by show impaired'.raw = impaired.raw; omega
    cycleKind := rfl
    transferId := rfl
    amount := rfl
    closeRequested := rfl }

theorem settleRecover_related (related : Related book s w) (recovered : body.kind = .recovered)
    (model : AccountingModel.settleRecover s body.transferId body.creditedAmount = .ok s')
    (evm : w.step hashing msg (.processTransportSettlement authentic header body) = .ok w') :
    Related book s' w' := by
  obtain ⟨impaired, cap, accepted, -, -, hImpaired, hCap, hAccepted, rfl⟩ :=
    AccountingModel.settleRecover_ok model
  obtain ⟨next, -, -, -, -, -, -, -, hAsset, settled⟩ :=
    World.processTransportSettlement_iff.mp evm
  rw [recovered] at settled
  obtain ⟨-, -, applied, hCoordinator⟩ := settled
  obtain ⟨impaired', cap', accepted', -, hImpaired', hCap', hAccepted', hVault⟩ :=
    Vault.recoverImpairment_iff.mp applied
  cases w'
  cases hVault
  cases hAsset
  cases hCoordinator
  have capBefore := related.remotePrincipalCap
  have acceptedBefore := related.acceptedRemoteValue
  have impairedBefore := related.impairedTransport
  simp only [Evm.toUint256_raw] at hImpaired' hCap' hAccepted'
  exact { related with
    acceptedRemoteValue := by show accepted'.raw = accepted.raw; omega
    remotePrincipalCap := by show cap'.raw = cap.raw; omega
    impairedTransport := by show impaired'.raw = impaired.raw; omega
    cycleKind := rfl
    transferId := rfl
    amount := rfl
    closeRequested := rfl }

end Notices

end Lockstep
