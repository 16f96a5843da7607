import CrossChainVault.Model.Transition

set_option autoImplicit false

/- What each accepted operation does: its guards, and the next state as an update of the
previous one. Every invariant below is derived from these and unfolds no transition. -/

namespace AccountingModel

open Result

variable {s s' : State} {u : Unit}

section Guards

variable {account actor : AccountId} {transferId : TransferId} {epoch : Epoch}

@[simp] theorem requireActive_ok : requireActive s = .ok u ↔ s.vaultState = .active := by
  simp [requireActive]

@[simp] theorem requireOpenEpoch_ok :
    requireOpenEpoch s = .ok epoch ↔ s.epoch = some epoch ∧ epoch.phase = .opened := by
  simp only [requireOpenEpoch, bind_eq_ok, okOr_eq_ok, rejectIf_eq_ok, pure_eq_ok, exists_const,
    not_not]
  constructor
  · rintro ⟨current, found, opened, rfl⟩
    exact ⟨found, opened⟩
  · rintro ⟨found, opened⟩
    exact ⟨epoch, found, opened, rfl⟩

@[simp] theorem requireCancellationAllowed_ok :
    requireCancellationAllowed s = .ok u ↔ s.vaultState ≠ .frozen := by
  simp [requireCancellationAllowed]

@[simp] theorem requireGuardianOrAdmin_ok : requireGuardianOrAdmin s actor = .ok u ↔
    actor = s.authority.admin ∨ actor = s.authority.guardian := by
  simp only [requireGuardianOrAdmin, rejectIf_eq_ok, not_not]

@[simp] theorem requireAdmin_ok : requireAdmin s actor = .ok u ↔ actor = s.authority.admin := by
  simp [requireAdmin]

@[simp] theorem requireFreshTransfer_ok : requireFreshTransfer s transferId = .ok u ↔
    transferId.raw ≠ 0 ∧ transferId ∉ s.usedTransferIds := by
  simp [requireFreshTransfer]

@[simp] theorem requireNoCycle_ok : requireNoCycle s = .ok u ↔ s.activeCycle = .none := by
  simp [requireNoCycle]

@[simp] theorem epochId_next_ok {id next : EpochId} :
    id.next = .ok next ↔ next.raw = id.raw + 1 := by
  simp [EpochId.next]

end Guards

theorem lesser_raw (a b : AssetAmount) : (lesser a b).raw = min a.raw b.raw := by
  unfold lesser
  split
  · rename_i below
    have : a.raw < b.raw := below
    omega
  · rename_i above
    have : ¬a.raw < b.raw := above
    omega

section Requests

variable {account : AccountId} {amount : Unsigned 128}

theorem requestDeposit_iff : requestDeposit s account amount = .ok s' ↔
    ∃ epoch remaining escrow epochTotal requested,
      s.vaultState = .active ∧ s.epoch = some epoch ∧ epoch.phase = .opened ∧
      amount.raw ≠ 0 ∧ s.config.minDepositAssets.raw ≤ amount.raw ∧
      (s.depositRequests[(⟨epoch.id, account⟩ : RequestKey)]?.getD .empty).claimed = false ∧
      remaining.raw + amount.raw = (s.account account).assets.raw ∧
      escrow.raw = s.buckets.pendingDepositEscrow.raw + amount.raw ∧
      epochTotal.raw = epoch.pendingDepositAssets.raw + amount.raw ∧
      requested.raw =
        (s.depositRequests[(⟨epoch.id, account⟩ : RequestKey)]?.getD .empty).amount.raw +
          amount.raw ∧
      s' = { s with
        accounts := s.setAssets account remaining
        buckets := { s.buckets with pendingDepositEscrow := escrow }
        epoch := some { epoch with pendingDepositAssets := epochTotal }
        depositRequests := s.depositRequests.insert ⟨epoch.id, account⟩
          { s.depositRequests[(⟨epoch.id, account⟩ : RequestKey)]?.getD .empty with
            amount := requested, cancelled := false } } := by
  simp only [requestDeposit, bind_eq_ok, rejectIf_eq_ok, requireActive_ok, requireOpenEpoch_ok,
    checkedAdd_ok, Unsigned.checkedSub_eq_ok, pure_eq_ok, exists_const, Unsigned.isZero_iff,
    Unsigned.lt_def, Nat.not_lt, Bool.not_eq_true]
  constructor
  · rintro ⟨active, epoch, ⟨found, opened⟩, nonzero, minimum, unclaimed, remaining, hRemaining,
      escrow, hEscrow, epochTotal, hTotal, requested, hRequested, rfl⟩
    exact ⟨epoch, remaining, escrow, epochTotal, requested, active, found, opened, nonzero, minimum,
      unclaimed, hRemaining, hEscrow, hTotal, hRequested, rfl⟩
  · rintro ⟨epoch, remaining, escrow, epochTotal, requested, active, found, opened, nonzero, minimum,
      unclaimed, hRemaining, hEscrow, hTotal, hRequested, rfl⟩
    exact ⟨active, epoch, ⟨found, opened⟩, nonzero, minimum, unclaimed, remaining, hRemaining,
      escrow, hEscrow, epochTotal, hTotal, requested, hRequested, rfl⟩

theorem cancelDeposit_iff : cancelDeposit s account = .ok s' ↔
    ∃ epoch request escrow epochTotal returned cancelledTotal,
      s.vaultState ≠ .frozen ∧ s.epoch = some epoch ∧ epoch.phase ≠ .cutOff ∧
      s.depositRequests[(⟨epoch.id, account⟩ : RequestKey)]? = some request ∧
      request.claimed = false ∧ request.cancelled = false ∧ request.amount.raw ≠ 0 ∧
      escrow.raw + request.amount.raw = s.buckets.pendingDepositEscrow.raw ∧
      epochTotal.raw + request.amount.raw = epoch.pendingDepositAssets.raw ∧
      returned.raw = (s.account account).assets.raw + request.amount.raw ∧
      cancelledTotal.raw = request.cancelledAmount.raw + request.amount.raw ∧
      s' = { s with
        buckets := { s.buckets with pendingDepositEscrow := escrow }
        epoch := some { epoch with pendingDepositAssets := epochTotal }
        accounts := s.setAssets account returned
        depositRequests := s.depositRequests.insert ⟨epoch.id, account⟩
          { request with
            amount := .zero, cancelledAmount := cancelledTotal, cancelled := true } } := by
  simp only [cancelDeposit, bind_eq_ok, rejectIf_eq_ok, requireCancellationAllowed_ok, okOr_eq_ok,
    checkedAdd_ok, checkedSub_ok, pure_eq_ok, exists_const, Unsigned.isZero_iff, not_or,
    Bool.not_eq_true]
  constructor
  · rintro ⟨notFrozen, epoch, found, phase, request, recorded, unclaimed, ⟨live, nonzero⟩, escrow,
      hEscrow, epochTotal, hTotal, returned, hReturned, cancelledTotal, hCancelled, rfl⟩
    exact ⟨epoch, request, escrow, epochTotal, returned, cancelledTotal, notFrozen, found, phase,
      recorded, unclaimed, live, nonzero, hEscrow, hTotal, hReturned, hCancelled, rfl⟩
  · rintro ⟨epoch, request, escrow, epochTotal, returned, cancelledTotal, notFrozen, found, phase,
      recorded, unclaimed, live, nonzero, hEscrow, hTotal, hReturned, hCancelled, rfl⟩
    exact ⟨notFrozen, epoch, found, phase, request, recorded, unclaimed, ⟨live, nonzero⟩, escrow,
      hEscrow, epochTotal, hTotal, returned, hReturned, cancelledTotal, hCancelled, rfl⟩

theorem requestRedeem_iff : requestRedeem s account amount = .ok s' ↔
    ∃ epoch remaining escrowed epochTotal requested,
      s.vaultState = .active ∧ s.epoch = some epoch ∧ epoch.phase = .opened ∧
      amount.raw ≠ 0 ∧ s.config.minRedeemShares.raw ≤ amount.raw ∧
      (s.redeemRequests[(⟨epoch.id, account⟩ : RequestKey)]?.getD .empty).claimed = false ∧
      remaining.raw + amount.raw = (s.account account).shares.raw ∧
      escrowed.raw = s.escrowedRedeemShares.raw + amount.raw ∧
      epochTotal.raw = epoch.pendingRedeemShares.raw + amount.raw ∧
      requested.raw =
        (s.redeemRequests[(⟨epoch.id, account⟩ : RequestKey)]?.getD .empty).amount.raw +
          amount.raw ∧
      s' = { s with
        accounts := s.setShares account remaining
        escrowedRedeemShares := escrowed
        epoch := some { epoch with pendingRedeemShares := epochTotal }
        redeemRequests := s.redeemRequests.insert ⟨epoch.id, account⟩
          { s.redeemRequests[(⟨epoch.id, account⟩ : RequestKey)]?.getD .empty with
            amount := requested, cancelled := false } } := by
  simp only [requestRedeem, bind_eq_ok, rejectIf_eq_ok, requireActive_ok, requireOpenEpoch_ok,
    checkedAdd_ok, Unsigned.checkedSub_eq_ok, pure_eq_ok, exists_const, Unsigned.isZero_iff,
    Unsigned.lt_def, Nat.not_lt, Bool.not_eq_true]
  constructor
  · rintro ⟨active, epoch, ⟨found, opened⟩, nonzero, minimum, unclaimed, remaining, hRemaining,
      escrowed, hEscrow, epochTotal, hTotal, requested, hRequested, rfl⟩
    exact ⟨epoch, remaining, escrowed, epochTotal, requested, active, found, opened, nonzero, minimum,
      unclaimed, hRemaining, hEscrow, hTotal, hRequested, rfl⟩
  · rintro ⟨epoch, remaining, escrowed, epochTotal, requested, active, found, opened, nonzero, minimum,
      unclaimed, hRemaining, hEscrow, hTotal, hRequested, rfl⟩
    exact ⟨active, epoch, ⟨found, opened⟩, nonzero, minimum, unclaimed, remaining, hRemaining,
      escrowed, hEscrow, epochTotal, hTotal, requested, hRequested, rfl⟩

theorem cancelRedeem_iff : cancelRedeem s account = .ok s' ↔
    ∃ epoch request escrowed epochTotal returned cancelledTotal,
      s.vaultState ≠ .frozen ∧ s.epoch = some epoch ∧ epoch.phase ≠ .cutOff ∧
      s.redeemRequests[(⟨epoch.id, account⟩ : RequestKey)]? = some request ∧
      request.claimed = false ∧ request.cancelled = false ∧ request.amount.raw ≠ 0 ∧
      escrowed.raw + request.amount.raw = s.escrowedRedeemShares.raw ∧
      epochTotal.raw + request.amount.raw = epoch.pendingRedeemShares.raw ∧
      returned.raw = (s.account account).shares.raw + request.amount.raw ∧
      cancelledTotal.raw = request.cancelledAmount.raw + request.amount.raw ∧
      s' = { s with
        escrowedRedeemShares := escrowed
        epoch := some { epoch with pendingRedeemShares := epochTotal }
        accounts := s.setShares account returned
        redeemRequests := s.redeemRequests.insert ⟨epoch.id, account⟩
          { request with
            amount := .zero, cancelledAmount := cancelledTotal, cancelled := true } } := by
  simp only [cancelRedeem, bind_eq_ok, rejectIf_eq_ok, requireCancellationAllowed_ok, okOr_eq_ok,
    checkedAdd_ok, checkedSub_ok, pure_eq_ok, exists_const, Unsigned.isZero_iff, not_or,
    Bool.not_eq_true]
  constructor
  · rintro ⟨notFrozen, epoch, found, phase, request, recorded, unclaimed, ⟨live, nonzero⟩, escrowed,
      hEscrow, epochTotal, hTotal, returned, hReturned, cancelledTotal, hCancelled, rfl⟩
    exact ⟨epoch, request, escrowed, epochTotal, returned, cancelledTotal, notFrozen, found, phase,
      recorded, unclaimed, live, nonzero, hEscrow, hTotal, hReturned, hCancelled, rfl⟩
  · rintro ⟨epoch, request, escrowed, epochTotal, returned, cancelledTotal, notFrozen, found, phase,
      recorded, unclaimed, live, nonzero, hEscrow, hTotal, hReturned, hCancelled, rfl⟩
    exact ⟨notFrozen, epoch, found, phase, request, recorded, unclaimed, ⟨live, nonzero⟩, escrowed,
      hEscrow, epochTotal, hTotal, returned, hReturned, cancelledTotal, hCancelled, rfl⟩

end Requests

section EpochLife

variable {now : Timestamp} {actor : AccountId}

theorem cutoffEpoch_ok (success : cutoffEpoch s now = .ok s') :
    ∃ epoch, s.vaultState = .active ∧ s.epoch = some epoch ∧ epoch.phase = .opened ∧
      epoch.cutoffAt.raw ≤ now.raw ∧ s' = { s with epoch := some { epoch with phase := .cutOff } } := by
  simp only [cutoffEpoch, bind_eq_ok, rejectIf_eq_ok, requireActive_ok, requireOpenEpoch_ok,
    pure_eq_ok, exists_const, Unsigned.lt_def, Nat.not_lt] at success
  obtain ⟨active, epoch, ⟨found, opened⟩, reached, rfl⟩ := success
  exact ⟨epoch, active, found, opened, reached, rfl⟩

/-- The settlement basis differs from the live one only in its asset side. -/
theorem settlementBasis_ok {epoch : Epoch} {basis : PricingBasis}
    (success : settlementBasis s epoch = .ok basis) :
    basis = { s.preSettlementBasis epoch with totalAssets := basis.totalAssets } ∧
      ((s.hasRemoteExposure = true ∧
          s.epochValuationLocked[epoch.id]? = some basis.totalAssets) ∨
        (s.hasRemoteExposure = false ∧ basis.totalAssets = s.managedNav)) := by
  unfold settlementBasis at success
  split at success
  · rename_i exposed
    simp only [bind_eq_ok, okOr_eq_ok, pure_eq_ok] at success
    obtain ⟨locked, found, rfl⟩ := success
    exact ⟨rfl, .inl ⟨exposed, found⟩⟩
  · rename_i unexposed
    rw [pure_eq_ok] at success
    subst success
    exact ⟨rfl, .inr ⟨by simpa using unexposed, rfl⟩⟩

/-- Everything one settlement computes before it writes. -/
structure Settled (s : State) (epoch : Epoch) (terms : EpochTerms) (owed : Entitlements) : Prop where
  id : terms.id = epoch.id
  cutoffAt : terms.cutoffAt = epoch.cutoffAt
  configVersion : terms.configVersion = epoch.configVersion
  basis : settlementBasis s epoch = .ok terms.basis
  depositAssets : terms.depositAssets = epoch.pendingDepositAssets
  redeemShares : terms.redeemShares = epoch.pendingRedeemShares
  redeemAssets : terms.assetsFor terms.redeemShares = .ok terms.redeemAssets
  mintedShares : terms.sharesFor terms.depositAssets = .ok terms.mintedShares
  entitled : s.entitlements epoch.id terms = .ok owed
  depositDust : terms.depositDust.raw + owed.depositShares.raw = terms.mintedShares.raw
  redeemDust : terms.redeemDust.raw + owed.redeemAssets.raw = terms.redeemAssets.raw

theorem finalizeEpoch_ok (success : finalizeEpoch s = .ok s') :
    ∃ epoch terms owed idle escrow reserve supply claimable escrowed burned next,
      s.vaultState = .active ∧ s.epoch = some epoch ∧ epoch.phase = .cutOff ∧
      s.epochs[epoch.id]? = none ∧ Settled s epoch terms owed ∧
      idle.raw + terms.redeemAssets.raw =
        s.buckets.idleBacking.raw + epoch.pendingDepositAssets.raw ∧
      terms.redeemAssets.raw ≤ s.buckets.idleBacking.raw ∧
      escrow.raw + epoch.pendingDepositAssets.raw = s.buckets.pendingDepositEscrow.raw ∧
      reserve.raw = s.buckets.claimReserve.raw + terms.redeemAssets.raw ∧
      supply.raw + epoch.pendingRedeemShares.raw =
        s.totalShareSupply.raw + terms.mintedShares.raw ∧
      claimable.raw = s.claimableDepositShares.raw + terms.mintedShares.raw ∧
      escrowed.raw + epoch.pendingRedeemShares.raw = s.escrowedRedeemShares.raw ∧
      burned.raw = s.burnedRedemptionShares.raw + epoch.pendingRedeemShares.raw ∧
      next.raw = epoch.id.raw + 1 ∧
      s' = { s with
        buckets := { s.buckets with
          idleBacking := idle
          pendingDepositEscrow := escrow
          claimReserve := reserve }
        totalShareSupply := supply
        claimableDepositShares := claimable
        escrowedRedeemShares := escrowed
        burnedRedemptionShares := burned
        epochs := s.epochs.insert epoch.id (.finalized terms)
        lastCutoffAt := epoch.cutoffAt
        nextEpochId := next
        epoch := none } := by
  simp only [finalizeEpoch, bind_eq_ok, rejectIf_eq_ok, requireActive_ok, okOr_eq_ok,
    checkedAdd_ok, checkedSub_ok, Unsigned.checkedSub_eq_ok, epochId_next_ok, pure_eq_ok,
    exists_const, not_not, Bool.not_eq_true, Option.isSome_eq_false_iff,
    Option.isNone_iff_eq_none] at success
  obtain ⟨active, epoch, found, phase, unsettled, basis, hBasis, redeemAssets, hRedeem, minted,
    hMinted, idleAfter, hIdleAfter, idle, hIdle, escrow, hEscrow, reserve, hReserve, withMint,
    hWithMint, supply, hSupply, claimable, hClaimable, escrowed, hEscrowed, burned, hBurned, next,
    hNext, owed, hOwed, depositDust, hDepositDust, redeemDust, hRedeemDust, rfl⟩ := success
  have settled : Settled s epoch
      { id := epoch.id, configVersion := epoch.configVersion, cutoffAt := epoch.cutoffAt,
        totalAssets := basis.totalAssets, totalSupply := basis.totalSupply,
        virtualAssets := basis.virtualAssets, virtualShares := basis.virtualShares,
        depositAssets := epoch.pendingDepositAssets, mintedShares := minted,
        redeemShares := epoch.pendingRedeemShares, redeemAssets := redeemAssets,
        depositDust := depositDust, redeemDust := redeemDust } owed :=
    { id := rfl, cutoffAt := rfl, configVersion := rfl, basis := hBasis, depositAssets := rfl,
      redeemShares := rfl, redeemAssets := hRedeem, mintedShares := hMinted, entitled := hOwed,
      depositDust := hDepositDust, redeemDust := hRedeemDust }
  exact ⟨epoch, _, owed, idle, escrow, reserve, supply, claimable, escrowed, burned, next, active,
    found, phase, unsettled, settled, by dsimp only; omega, by dsimp only; omega, hEscrow, hReserve,
    by dsimp only; omega, hClaimable, hEscrowed, hBurned, hNext, rfl⟩

theorem abortEpoch_ok (success : abortEpoch s actor = .ok s') :
    ∃ epoch next, s.vaultState = .frozen ∧ s.epoch = some epoch ∧ s.epochs[epoch.id]? = none ∧
      (actor = s.authority.admin ∨ actor = s.authority.guardian) ∧
      next.raw = epoch.id.raw + 1 ∧
      s' = { s with
        epochs := s.epochs.insert epoch.id (.aborted {
          id := epoch.id
          configVersion := epoch.configVersion
          cutoffAt := epoch.cutoffAt
          refundAssets := epoch.pendingDepositAssets
          refundShares := epoch.pendingRedeemShares })
        lastCutoffAt := epoch.cutoffAt
        nextEpochId := next
        epoch := none } := by
  simp only [abortEpoch, bind_eq_ok, rejectIf_eq_ok, requireGuardianOrAdmin_ok, okOr_eq_ok,
    epochId_next_ok, pure_eq_ok, exists_const, not_not, Bool.not_eq_true,
    Option.isSome_eq_false_iff, Option.isNone_iff_eq_none] at success
  obtain ⟨authorized, frozen, epoch, found, unsettled, next, hNext, rfl⟩ := success
  exact ⟨epoch, next, frozen, found, unsettled, authorized, hNext, rfl⟩

theorem openNextEpoch_ok (success : openNextEpoch s now = .ok s') :
    ∃ virtualShares cutoffAt, s.vaultState = .active ∧ s.epoch = none ∧
      s.lastCutoffAt.raw ≤ now.raw ∧
      virtualSharesFor s.config.assetDecimals s.config.shareDecimals = .ok virtualShares ∧
      cutoffAt.raw = now.raw + s.config.epochDuration.raw ∧
      s' = { s with epoch := some {
        id := s.nextEpochId
        openedAt := now
        cutoffAt := cutoffAt
        configVersion := s.config.version
        assetDecimals := s.config.assetDecimals
        shareDecimals := s.config.shareDecimals
        virtualAssets := oneAsset
        virtualShares := virtualShares
        phase := .opened
        pendingDepositAssets := .zero
        pendingRedeemShares := .zero } } := by
  simp only [openNextEpoch, bind_eq_ok, rejectIf_eq_ok, requireActive_ok, checkedAdd_ok, pure_eq_ok,
    exists_const, Unsigned.lt_def, Nat.not_lt, Bool.not_eq_true, Option.isSome_eq_false_iff,
    Option.isNone_iff_eq_none] at success
  obtain ⟨active, closed, monotonic, virtualShares, hVirtual, cutoffAt, hCutoff, rfl⟩ := success
  exact ⟨virtualShares, cutoffAt, active, closed, monotonic, hVirtual, hCutoff, rfl⟩

end EpochLife

section Claims

variable {account : AccountId} {epoch : EpochId}

theorem claimableRequest_ok {requests : RequestMap} {key : RequestKey} {request : Request} :
    claimableRequest requests key = .ok request ↔
      requests[key]? = some request ∧ request.isOutstanding = true := by
  simp only [claimableRequest, bind_eq_ok, okOr_eq_ok, rejectIf_eq_ok, exists_const, pure_eq_ok,
    Bool.not_eq_true, Unsigned.isZero_eq_false, Request.isOutstanding, Bool.and_eq_true,
    Bool.not_eq_true']
  constructor
  · rintro ⟨_, found, live, unclaimed, nonzero, rfl⟩
    exact ⟨found, ⟨live, unclaimed⟩, nonzero⟩
  · rintro ⟨found, ⟨live, unclaimed⟩, nonzero⟩
    exact ⟨request, found, live, unclaimed, nonzero, rfl⟩

theorem finalizedTerms_eq_some {terms : EpochTerms} :
    s.finalizedTerms epoch = some terms ↔ s.epochs[epoch]? = some (.finalized terms) := by
  unfold State.finalizedTerms
  split
  · rename_i found
    simp [found]
  · rename_i other
    constructor
    · intro impossible
      cases impossible
    · intro found
      exact (other terms found).elim

theorem abortedTerms_eq_some {terms : AbortedTerms} :
    s.abortedTerms epoch = some terms ↔ s.epochs[epoch]? = some (.aborted terms) := by
  unfold State.abortedTerms
  split
  · rename_i found
    simp [found]
  · rename_i other
    constructor
    · intro impossible
      cases impossible
    · intro found
      exact (other terms found).elim

theorem claimDeposit_iff : claimDeposit s account epoch = .ok s' ↔
    ∃ terms request shares claimable credited,
      s.epochs[epoch]? = some (.finalized terms) ∧
      s.depositRequests[(⟨epoch, account⟩ : RequestKey)]? = some request ∧
      request.isOutstanding = true ∧ terms.sharesFor request.amount = .ok shares ∧
      claimable.raw + shares.raw = s.claimableDepositShares.raw ∧
      credited.raw = (s.account account).shares.raw + shares.raw ∧
      s' = { s with
        claimableDepositShares := claimable
        accounts := s.setShares account credited
        depositRequests :=
          s.depositRequests.insert ⟨epoch, account⟩ { request with claimed := true } } := by
  simp only [claimDeposit, bind_eq_ok, okOr_eq_ok, finalizedTerms_eq_some, claimableRequest_ok,
    checkedAdd_ok, checkedSub_ok, pure_eq_ok]
  constructor
  · rintro ⟨terms, settled, request, ⟨found, live⟩, shares, priced, claimable, hClaimable, credited,
      hCredited, rfl⟩
    exact ⟨terms, request, shares, claimable, credited, settled, found, live, priced, hClaimable,
      hCredited, rfl⟩
  · rintro ⟨terms, request, shares, claimable, credited, settled, found, live, priced, hClaimable,
      hCredited, rfl⟩
    exact ⟨terms, settled, request, ⟨found, live⟩, shares, priced, claimable, hClaimable, credited,
      hCredited, rfl⟩

theorem claimRedeem_iff : claimRedeem s account epoch = .ok s' ↔
    ∃ terms request assets reserve credited,
      s.epochs[epoch]? = some (.finalized terms) ∧
      s.redeemRequests[(⟨epoch, account⟩ : RequestKey)]? = some request ∧
      request.isOutstanding = true ∧ terms.assetsFor request.amount = .ok assets ∧
      reserve.raw + assets.raw = s.buckets.claimReserve.raw ∧
      credited.raw = (s.account account).assets.raw + assets.raw ∧
      s' = { s with
        buckets := { s.buckets with claimReserve := reserve }
        accounts := s.setAssets account credited
        redeemRequests :=
          s.redeemRequests.insert ⟨epoch, account⟩ { request with claimed := true } } := by
  simp only [claimRedeem, bind_eq_ok, okOr_eq_ok, finalizedTerms_eq_some, claimableRequest_ok,
    checkedAdd_ok, checkedSub_ok, pure_eq_ok]
  constructor
  · rintro ⟨terms, settled, request, ⟨found, live⟩, assets, priced, reserve, hReserve, credited,
      hCredited, rfl⟩
    exact ⟨terms, request, assets, reserve, credited, settled, found, live, priced, hReserve,
      hCredited, rfl⟩
  · rintro ⟨terms, request, assets, reserve, credited, settled, found, live, priced, hReserve,
      hCredited, rfl⟩
    exact ⟨terms, settled, request, ⟨found, live⟩, assets, priced, reserve, hReserve, credited,
      hCredited, rfl⟩

theorem claimAbortedDeposit_iff : claimAbortedDeposit s account epoch = .ok s' ↔
    ∃ terms request escrow returned,
      s.epochs[epoch]? = some (.aborted terms) ∧
      s.depositRequests[(⟨epoch, account⟩ : RequestKey)]? = some request ∧
      request.isOutstanding = true ∧
      escrow.raw + request.amount.raw = s.buckets.pendingDepositEscrow.raw ∧
      returned.raw = (s.account account).assets.raw + request.amount.raw ∧
      s' = { s with
        buckets := { s.buckets with pendingDepositEscrow := escrow }
        accounts := s.setAssets account returned
        depositRequests :=
          s.depositRequests.insert ⟨epoch, account⟩ { request with claimed := true } } := by
  simp only [claimAbortedDeposit, bind_eq_ok, rejectIf_eq_ok, exists_const, claimableRequest_ok,
    checkedAdd_ok, checkedSub_ok, pure_eq_ok, Bool.not_eq_true, Option.isNone_eq_false_iff,
    Option.isSome_iff_exists, abortedTerms_eq_some]
  constructor
  · rintro ⟨⟨terms, settled⟩, request, ⟨found, live⟩, escrow, hEscrow, returned, hReturned, rfl⟩
    exact ⟨terms, request, escrow, returned, settled, found, live, hEscrow, hReturned, rfl⟩
  · rintro ⟨terms, request, escrow, returned, settled, found, live, hEscrow, hReturned, rfl⟩
    exact ⟨⟨terms, settled⟩, request, ⟨found, live⟩, escrow, hEscrow, returned, hReturned, rfl⟩

theorem claimAbortedRedeem_iff : claimAbortedRedeem s account epoch = .ok s' ↔
    ∃ terms request escrowed returned,
      s.epochs[epoch]? = some (.aborted terms) ∧
      s.redeemRequests[(⟨epoch, account⟩ : RequestKey)]? = some request ∧
      request.isOutstanding = true ∧
      escrowed.raw + request.amount.raw = s.escrowedRedeemShares.raw ∧
      returned.raw = (s.account account).shares.raw + request.amount.raw ∧
      s' = { s with
        escrowedRedeemShares := escrowed
        accounts := s.setShares account returned
        redeemRequests :=
          s.redeemRequests.insert ⟨epoch, account⟩ { request with claimed := true } } := by
  simp only [claimAbortedRedeem, bind_eq_ok, rejectIf_eq_ok, exists_const, claimableRequest_ok,
    checkedAdd_ok, checkedSub_ok, pure_eq_ok, Bool.not_eq_true, Option.isNone_eq_false_iff,
    Option.isSome_iff_exists, abortedTerms_eq_some]
  constructor
  · rintro ⟨⟨terms, settled⟩, request, ⟨found, live⟩, escrowed, hEscrow, returned, hReturned, rfl⟩
    exact ⟨terms, request, escrowed, returned, settled, found, live, hEscrow, hReturned, rfl⟩
  · rintro ⟨terms, request, escrowed, returned, settled, found, live, hEscrow, hReturned, rfl⟩
    exact ⟨⟨terms, settled⟩, request, ⟨found, live⟩, escrowed, hEscrow, returned, hReturned, rfl⟩

end Claims

section VaultStatus

variable {actor : AccountId}

theorem pause_ok (success : pause s actor = .ok s') :
    s.vaultState = .active ∧ s' = { s with vaultState := .paused } := by
  simp only [pause, bind_eq_ok, rejectIf_eq_ok, requireGuardianOrAdmin_ok, pure_eq_ok,
    exists_const, not_not] at success
  obtain ⟨-, active, rfl⟩ := success
  exact ⟨active, rfl⟩

theorem unpause_ok (success : unpause s actor = .ok s') :
    s.vaultState = .paused ∧ s' = { s with vaultState := .active } := by
  simp only [unpause, bind_eq_ok, rejectIf_eq_ok, requireAdmin_ok, pure_eq_ok, exists_const,
    not_not] at success
  obtain ⟨-, paused, rfl⟩ := success
  exact ⟨paused, rfl⟩

theorem freeze_ok (success : freeze s actor = .ok s') :
    s.vaultState ≠ .frozen ∧ s' = { s with vaultState := .frozen } := by
  simp only [freeze, bind_eq_ok, rejectIf_eq_ok, requireGuardianOrAdmin_ok, pure_eq_ok,
    exists_const] at success
  obtain ⟨-, thawed, rfl⟩ := success
  exact ⟨thawed, rfl⟩

end VaultStatus

section RemoteCycle

variable {actor : AccountId} {transferId : TransferId}
  {amount reported principal actual loss credited : AssetAmount}

theorem beginAllocate_ok (success : beginAllocate s actor transferId amount = .ok s') :
    ∃ epoch idle outbound, actor = s.authority.admin ∧ s.vaultState = .active ∧
      s.epoch = some epoch ∧ epoch.phase = .opened ∧ s.activeCycle = .none ∧
      transferId.raw ≠ 0 ∧ transferId ∉ s.usedTransferIds ∧ amount.raw ≠ 0 ∧
      idle.raw + amount.raw = s.buckets.idleBacking.raw ∧
      outbound.raw = s.buckets.outboundInTransit.raw + amount.raw ∧
      s' = { s with
        buckets := { s.buckets with idleBacking := idle, outboundInTransit := outbound }
        usedTransferIds := s.usedTransferIds.insert transferId
        activeCycle := .allocate
        activeTransferId := transferId
        activeAmount := amount } := by
  simp only [beginAllocate, bind_eq_ok, rejectIf_eq_ok, requireAdmin_ok, requireActive_ok,
    requireOpenEpoch_ok, requireNoCycle_ok, requireFreshTransfer_ok, checkedAdd_ok,
    Unsigned.checkedSub_eq_ok, pure_eq_ok, exists_const, Unsigned.isZero_iff, not_not] at success
  obtain ⟨admin, active, epoch, ⟨found, opened⟩, -, idleCycle, ⟨nonzeroId, fresh⟩, nonzero, idle,
    hIdle, outbound, hOutbound, rfl⟩ := success
  exact ⟨epoch, idle, outbound, admin, active, found, opened, idleCycle, nonzeroId, fresh, nonzero,
    hIdle, hOutbound, rfl⟩

theorem completeAllocation_ok (success : completeAllocation s transferId reported = .ok s') :
    (s.closeRequested = true ∧ s' = s) ∨
      ∃ outbound cap, s.closeRequested = false ∧ s.activeCycle = .allocate ∧
        s.activeTransferId = transferId ∧
        outbound.raw + s.activeAmount.raw = s.buckets.outboundInTransit.raw ∧
        cap.raw = s.remotePrincipalCap.raw + s.activeAmount.raw ∧
        s' = clearCycle { s with
          buckets := { s.buckets with
            outboundInTransit := outbound
            acceptedRemoteValue := lesser reported cap }
          remotePrincipalCap := cap } := by
  unfold completeAllocation at success
  split at success
  · rename_i closing
    rw [pure_eq_ok] at success
    exact .inl ⟨closing, success.symm⟩
  · rename_i running
    simp only [bind_eq_ok, rejectIf_eq_ok, checkedAdd_ok, checkedSub_ok, pure_eq_ok, exists_const,
      not_not] at success
    obtain ⟨allocating, same, outbound, hOutbound, cap, hCap, rfl⟩ := success
    exact .inr ⟨outbound, cap, by simpa using running, allocating, same, hOutbound, hCap, rfl⟩

theorem beginRecall_ok (success : beginRecall s actor transferId amount = .ok s') :
    actor = s.authority.admin ∧ s.activeCycle = .none ∧ transferId.raw ≠ 0 ∧
      transferId ∉ s.usedTransferIds ∧ amount.raw ≠ 0 ∧
      amount.raw ≤ s.remotePrincipalCap.raw ∧
      s' = { s with
        recallBaselineValue := s.buckets.acceptedRemoteValue
        recallBaselineLoss := s.inboundCumulativeLoss
        pendingRecallId := transferId
        pendingRecallPrincipal := amount
        usedTransferIds := s.usedTransferIds.insert transferId
        activeCycle := .recall
        activeTransferId := transferId
        activeAmount := amount } := by
  simp only [beginRecall, bind_eq_ok, rejectIf_eq_ok, requireAdmin_ok, requireNoCycle_ok,
    requireFreshTransfer_ok, pure_eq_ok, exists_const, Unsigned.isZero_iff, Unsigned.lt_def,
    Nat.not_lt] at success
  obtain ⟨admin, idleCycle, ⟨nonzeroId, fresh⟩, nonzero, covered, rfl⟩ := success
  exact ⟨admin, idleCycle, nonzeroId, fresh, nonzero, covered, rfl⟩

theorem acceptRecallSent_iff : acceptRecallSent s transferId principal actual loss = .ok s' ↔
    ∃ settledLoss cap accepted recognized unattributed idle inbound,
      s.activeCycle = .recall ∧ s.activeTransferId = transferId ∧
      principal.raw ≤ s.activeAmount.raw ∧ principal.raw = actual.raw + loss.raw ∧
      settledLoss.raw = s.recallBaselineLoss.raw + loss.raw ∧
      cap.raw + principal.raw = s.remotePrincipalCap.raw ∧
      accepted.raw =
        min s.recallBaselineValue.raw s.remotePrincipalCap.raw - principal.raw ∧
      recognized.raw = s.recognizedLoss.raw + loss.raw ∧
      unattributed.raw = s.buckets.unattributedInbound.raw - actual.raw ∧
      idle.raw =
        s.buckets.idleBacking.raw + min actual.raw s.buckets.unattributedInbound.raw ∧
      inbound.raw = s.buckets.inboundInTransit.raw +
        (actual.raw - s.buckets.unattributedInbound.raw) ∧
      s' = clearCycle { s with
        inboundCumulativeLoss :=
          if s.inboundCumulativeLoss < settledLoss then settledLoss else s.inboundCumulativeLoss
        recallBaselineValue := .zero
        recallBaselineLoss := .zero
        remotePrincipalCap := cap
        recognizedLoss := recognized
        buckets := { s.buckets with
          acceptedRemoteValue := accepted
          unattributedInbound := unattributed
          idleBacking := idle
          inboundInTransit := inbound }
        pendingRecallId := .zero
        pendingRecallPrincipal := .zero } := by
  simp only [acceptRecallSent, bind_eq_ok, rejectIf_eq_ok, checkedAdd_ok, checkedSub_ok, pure_eq_ok,
    exists_const, not_not, Unsigned.lt_def, Nat.not_lt, lesser_raw, ← Unsigned.raw_inj]
  constructor
  · rintro ⟨recalling, same, within, accounted, hAccounted, conserved, covered, settledLoss, hLoss,
      cap, hCap, accepted, hAccepted, recognized, hRecognized, unattributed, hUnattributed, idle,
      hIdle, still, hStill, inbound, hInbound, rfl⟩
    exact ⟨settledLoss, cap, accepted, recognized, unattributed, idle, inbound, recalling, same,
      within, by omega, hLoss, hCap, by omega, hRecognized, by omega, hIdle, by omega, rfl⟩
  · rintro ⟨settledLoss, cap, accepted, recognized, unattributed, idle, inbound, recalling, same,
      within, conserved, hLoss, hCap, hAccepted, hRecognized, hUnattributed, hIdle, hInbound, rfl⟩
    exact ⟨recalling, same, within, principal, by omega, rfl, by omega, settledLoss, hLoss, cap,
      hCap, accepted, by omega, recognized, hRecognized, unattributed, by omega, idle, hIdle,
      actual.saturatingSub (lesser actual s.buckets.unattributedInbound),
      by rw [Unsigned.saturatingSub_raw, lesser_raw]; omega, inbound,
      by rw [Unsigned.saturatingSub_raw, lesser_raw]; omega, rfl⟩

/-- What arrives first settles the transit owed; the rest waits for its recall or stays outside
the price. -/
theorem observeInbound_iff : observeInbound s amount = .ok s' ↔
    ∃ inbound idle unattributed inflow balance, amount.raw ≠ 0 ∧
      inbound.raw = s.buckets.inboundInTransit.raw - amount.raw ∧
      idle.raw = s.buckets.idleBacking.raw + min amount.raw s.buckets.inboundInTransit.raw ∧
      unattributed.raw = s.buckets.unattributedInbound.raw +
        (if s.pendingRecallPrincipal.raw = 0 then 0
          else amount.raw - s.buckets.inboundInTransit.raw) ∧
      inflow.raw = s.externalInflow.raw +
        (if s.pendingRecallPrincipal.raw = 0 then
          amount.raw - s.buckets.inboundInTransit.raw else 0) ∧
      balance.raw = s.buckets.unattributedBalance.raw +
        (if s.pendingRecallPrincipal.raw = 0 then
          amount.raw - s.buckets.inboundInTransit.raw else 0) ∧
      s' = { s with
        externalInflow := inflow
        buckets := { s.buckets with
          inboundInTransit := inbound
          idleBacking := idle
          unattributedInbound := unattributed
          unattributedBalance := balance } } := by
  simp only [observeInbound, bind_eq_ok, rejectIf_eq_ok, checkedAdd_ok, checkedSub_ok, exists_const,
    Unsigned.isZero_iff, lesser_raw]
  constructor
  · rintro ⟨nonzero, inbound, hInbound, idle, hIdle, remaining, hRemaining, success⟩
    split at success
    · rename_i spent
      rw [pure_eq_ok] at success
      subst success
      refine ⟨inbound, idle, s.buckets.unattributedInbound, s.externalInflow,
        s.buckets.unattributedBalance, nonzero, by omega, hIdle, ?_, ?_, ?_, rfl⟩ <;> split <;> omega
    · split at success
      · rename_i left recalling
        simp only [bind_eq_ok, checkedAdd_ok, pure_eq_ok] at success
        obtain ⟨unattributed, hUnattributed, rfl⟩ := success
        have pending : s.pendingRecallPrincipal.raw ≠ 0 := by simpa using recalling
        refine ⟨inbound, idle, unattributed, s.externalInflow, s.buckets.unattributedBalance, nonzero,
          by omega, hIdle, ?_, ?_, ?_, rfl⟩ <;> simp only [if_neg pending] <;> omega
      · rename_i left recalling
        simp only [bind_eq_ok, checkedAdd_ok, pure_eq_ok] at success
        obtain ⟨inflow, hInflow, balance, hBalance, rfl⟩ := success
        have noRecall : s.pendingRecallPrincipal.raw = 0 := by simpa using recalling
        refine ⟨inbound, idle, s.buckets.unattributedInbound, inflow, balance, nonzero,
          by omega, hIdle, ?_, ?_, ?_, rfl⟩ <;> simp only [if_pos noRecall] <;> omega
  · rintro ⟨inbound, idle, unattributed, inflow, balance, nonzero, hInbound, hIdle, hUnattributed,
      hInflow, hBalance, rfl⟩
    refine ⟨nonzero, inbound, by omega, idle, hIdle,
      amount.saturatingSub (lesser amount s.buckets.inboundInTransit),
      by rw [Unsigned.saturatingSub_raw, lesser_raw]; omega, ?_⟩
    have left : (amount.saturatingSub (lesser amount s.buckets.inboundInTransit)).raw =
        amount.raw - s.buckets.inboundInTransit.raw := by
      rw [Unsigned.saturatingSub_raw, lesser_raw]
      omega
    split
    · rename_i spent
      rw [left] at spent
      rw [spent, ite_self, Nat.add_zero] at hUnattributed hInflow hBalance
      rw [Unsigned.ext hUnattributed, Unsigned.ext hInflow, Unsigned.ext hBalance]
      rfl
    · split
      · rename_i recalling
        have pending : s.pendingRecallPrincipal.raw ≠ 0 := by simpa using recalling
        rw [if_neg pending] at hUnattributed hInflow hBalance
        rw [Unsigned.ext (hInflow.trans (Nat.add_zero _)),
          Unsigned.ext (hBalance.trans (Nat.add_zero _))]
        exact bind_eq_ok.mpr ⟨unattributed, checkedAdd_ok.mpr (by rw [left]; exact hUnattributed),
          rfl⟩
      · rename_i recalling
        have noRecall : s.pendingRecallPrincipal.raw = 0 := by simpa using recalling
        rw [if_pos noRecall] at hUnattributed hInflow hBalance
        rw [Unsigned.ext (hUnattributed.trans (Nat.add_zero _))]
        exact bind_eq_ok.mpr ⟨inflow, checkedAdd_ok.mpr (by rw [left]; exact hInflow),
          bind_eq_ok.mpr ⟨balance, checkedAdd_ok.mpr (by rw [left]; exact hBalance), rfl⟩⟩

/-- The value a report moves the accepted value to, before the cap. -/
def reportedOrRecallValue (s : State) (reported cumulativeLoss : AssetAmount) : AssetAmount :=
  if s.activeCycle = .recall then valueDuringRecall s cumulativeLoss else reported

theorem applyRemoteValuation_ok (success : applyRemoteValuation s reported loss = .ok s') :
    ∃ cumulative, cumulative.raw = s.inboundCumulativeLoss.raw + loss.raw ∧
      ((s.closeRequested = true ∧ s' = { s with inboundCumulativeLoss := cumulative }) ∨
        (s.closeRequested = false ∧ s' = { s with
          inboundCumulativeLoss := cumulative
          buckets := { s.buckets with
            acceptedRemoteValue :=
              lesser (reportedOrRecallValue s reported cumulative) s.remotePrincipalCap } })) := by
  simp only [applyRemoteValuation, bind_eq_ok, checkedAdd_ok] at success
  obtain ⟨cumulative, hCumulative, success⟩ := success
  refine ⟨cumulative, hCumulative, ?_⟩
  split at success
  · rename_i closing
    rw [pure_eq_ok] at success
    exact .inl ⟨closing, success.symm⟩
  · rename_i running
    rw [pure_eq_ok] at success
    exact .inr ⟨by simpa using running, success.symm⟩

theorem lockRemoteValuation_ok (success : lockRemoteValuation s = .ok s') :
    (s.closeRequested = true ∧ s' = s) ∨
      ∃ epoch, s.closeRequested = false ∧ s.epoch = some epoch ∧ epoch.phase = .cutOff ∧
        s.epochValuationLocked[epoch.id]? = none ∧
        s' = { s with
          epochValuationLocked := s.epochValuationLocked.insert epoch.id s.managedBacking } := by
  unfold lockRemoteValuation at success
  split at success
  · rename_i closing
    rw [pure_eq_ok] at success
    exact .inl ⟨closing, success.symm⟩
  · rename_i running
    simp only [bind_eq_ok, rejectIf_eq_ok, okOr_eq_ok, pure_eq_ok, exists_const, not_not,
      Bool.not_eq_true, Option.isSome_eq_false_iff, Option.isNone_iff_eq_none] at success
    obtain ⟨epoch, found, phase, unlocked, rfl⟩ := success
    exact .inr ⟨epoch, by simpa using running, found, phase, unlocked, rfl⟩

theorem requestClose_ok (success : requestClose s actor transferId = .ok s') :
    actor = s.authority.admin ∧ s.activeCycle = .allocate ∧ s.activeTransferId = transferId ∧
      s.closeRequested = false ∧ s' = { s with closeRequested := true } := by
  simp only [requestClose, bind_eq_ok, rejectIf_eq_ok, requireAdmin_ok, pure_eq_ok, exists_const,
    not_or, not_not, Bool.not_eq_true] at success
  obtain ⟨admin, ⟨allocating, same⟩, running, rfl⟩ := success
  exact ⟨admin, allocating, same, running, rfl⟩

theorem settleClose_ok (success : settleClose s transferId credited = .ok s') :
    ∃ outbound cap accepted impaired cumulative, s.activeTransferId = transferId ∧
      s.activeCycle = .allocate ∧ s.closeRequested = true ∧
      credited.raw ≤ s.activeAmount.raw ∧
      outbound.raw + s.activeAmount.raw = s.buckets.outboundInTransit.raw ∧
      cap.raw = s.remotePrincipalCap.raw + credited.raw ∧
      accepted.raw = s.buckets.acceptedRemoteValue.raw + credited.raw ∧
      impaired.raw = s.impairedTransport.raw + (s.activeAmount.raw - credited.raw) ∧
      cumulative.raw = s.cumulativeImpairment.raw + (s.activeAmount.raw - credited.raw) ∧
      s' = clearCycle { s with
        buckets := { s.buckets with
          outboundInTransit := outbound
          acceptedRemoteValue := accepted }
        remotePrincipalCap := cap
        impairedTransport := impaired
        cumulativeImpairment := cumulative } := by
  simp only [settleClose, creditRemote, bind_eq_ok, rejectIf_eq_ok, checkedAdd_ok, checkedSub_ok,
    pure_eq_ok, exists_const, not_or, not_not, Unsigned.lt_def, Nat.not_lt, Bool.not_eq_true,
    Bool.not_eq_false'] at success
  obtain ⟨same, ⟨allocating, closing⟩, within, shortfall, hShortfall, outbound, hOutbound, _,
    ⟨cap, hCap, accepted, hAccepted, rfl⟩, impaired, hImpaired, cumulative, hCumulative,
    rfl⟩ := success
  exact ⟨outbound, cap, accepted, impaired, cumulative, same, allocating, closing, within,
    hOutbound, hCap, hAccepted, by dsimp only at hImpaired; omega,
    by dsimp only at hCumulative; omega, rfl⟩

theorem beginRecover_ok (success : beginRecover s actor transferId = .ok s') :
    actor = s.authority.admin ∧ s.activeCycle = .none ∧ transferId.raw ≠ 0 ∧
      transferId ∉ s.usedTransferIds ∧ s.impairedTransport.raw ≠ 0 ∧
      s' = { s with
        usedTransferIds := s.usedTransferIds.insert transferId
        activeCycle := .recover
        activeTransferId := transferId
        activeAmount := .zero } := by
  simp only [beginRecover, bind_eq_ok, rejectIf_eq_ok, requireAdmin_ok, requireNoCycle_ok,
    requireFreshTransfer_ok, pure_eq_ok, exists_const, Unsigned.isZero_iff] at success
  obtain ⟨admin, idleCycle, ⟨nonzeroId, fresh⟩, impaired, rfl⟩ := success
  exact ⟨admin, idleCycle, nonzeroId, fresh, impaired, rfl⟩

theorem settleRecover_ok (success : settleRecover s transferId credited = .ok s') :
    ∃ impaired cap accepted, s.activeTransferId = transferId ∧ s.activeCycle = .recover ∧
      impaired.raw + credited.raw = s.impairedTransport.raw ∧
      cap.raw = s.remotePrincipalCap.raw + credited.raw ∧
      accepted.raw = s.buckets.acceptedRemoteValue.raw + credited.raw ∧
      s' = clearCycle { s with
        impairedTransport := impaired
        remotePrincipalCap := cap
        buckets := { s.buckets with acceptedRemoteValue := accepted } } := by
  simp only [settleRecover, creditRemote, bind_eq_ok, rejectIf_eq_ok, checkedAdd_ok, checkedSub_ok,
    pure_eq_ok, exists_const, not_not, Unsigned.lt_def, Nat.not_lt] at success
  obtain ⟨same, recovering, within, impaired, hImpaired, _, ⟨cap, hCap, accepted, hAccepted, rfl⟩,
    rfl⟩ := success
  exact ⟨impaired, cap, accepted, same, recovering, hImpaired, hCap, hAccepted, rfl⟩

end RemoteCycle

end AccountingModel
