import CrossChainVault.Evm.System

set_option autoImplicit false

/- What each accepted call does: its guards, and the next storage as an update of the previous
one. -/

namespace Evm

open Result Protocol

variable {v v' : Vault} {asset asset' : Asset} {msg : Msg} {sender : Address} {u : Unit}

namespace Vault

section Guards

@[simp] theorem requireStatus_ok {expected : VaultStatus} :
    v.requireStatus expected = .ok u ↔ v.vaultStatus = expected := by
  simp [requireStatus]

@[simp] theorem requireOpenEpoch_ok :
    v.requireOpenEpoch = .ok u ↔ v.epochOpen = true ∧ v.currentEpochPhase = .opened := by
  simp [requireOpenEpoch]

@[simp] theorem requireCancellationAllowed_ok :
    v.requireCancellationAllowed = .ok u ↔ v.vaultStatus ≠ .frozen := by
  simp [requireCancellationAllowed]

@[simp] theorem requireCancellableEpoch_ok :
    v.requireCancellableEpoch = .ok u ↔ v.epochOpen = true ∧ v.currentEpochPhase = .opened := by
  simp [requireCancellableEpoch]

@[simp] theorem requireAdmin_ok : v.requireAdmin sender = .ok u ↔ sender = v.admin := by
  simp [requireAdmin]

@[simp] theorem requireAdminOrGuardian_ok : v.requireAdminOrGuardian sender = .ok u ↔
    sender = v.admin ∨ sender = v.guardian := by
  simp only [requireAdminOrGuardian, rejectIf_eq_ok, not_and_or, not_not]

@[simp] theorem requireRemoteAccounting_ok : v.requireRemoteAccounting sender = .ok u ↔
    v.remoteAccounting.raw ≠ 0 ∧ sender = v.remoteAccounting := by
  simp [requireRemoteAccounting]

theorem accountedAssets_ok {total : Uint256} : v.accountedAssets = .ok total ↔
    total.raw = v.pendingDepositEscrow.raw + v.idleBacking.raw + v.claimReserve.raw +
      v.unattributedBalance.raw + v.unattributedInbound.raw := by
  simp only [accountedAssets, bind_eq_ok, add_ok]
  constructor
  · rintro ⟨first, hFirst, second, hSecond, third, hThird, hTotal⟩
    omega
  · intro hTotal
    have := total.bound
    exact ⟨⟨v.pendingDepositEscrow.raw + v.idleBacking.raw, by omega⟩, rfl,
      ⟨v.pendingDepositEscrow.raw + v.idleBacking.raw + v.claimReserve.raw, by omega⟩, rfl,
      ⟨v.pendingDepositEscrow.raw + v.idleBacking.raw + v.claimReserve.raw +
        v.unattributedBalance.raw, by omega⟩, rfl, hTotal⟩

theorem managedBacking_ok {total : Uint256} : v.managedBacking = .ok total ↔
    total.raw = v.idleBacking.raw + v.outboundInTransit.raw + v.acceptedRemoteValue.raw +
      v.inboundInTransit.raw := by
  simp only [managedBacking, bind_eq_ok, add_ok]
  constructor
  · rintro ⟨first, hFirst, second, hSecond, hTotal⟩
    omega
  · intro hTotal
    have := total.bound
    exact ⟨⟨v.idleBacking.raw + v.outboundInTransit.raw, by omega⟩, rfl,
      ⟨v.idleBacking.raw + v.outboundInTransit.raw + v.acceptedRemoteValue.raw, by omega⟩, rfl,
      hTotal⟩

end Guards

section Requests

variable {amount : Uint256} {epochId : Uint64}

theorem requestDeposit_ok (success : v.requestDeposit asset msg amount = .ok (v', asset')) :
    ∃ list requested escrow epochTotal,
      v.vaultStatus = .active ∧ v.epochOpen = true ∧ v.currentEpochPhase = .opened ∧
      amount.raw ≠ 0 ∧ (v.deposits.requestOf v.currentEpochId msg.sender).settled = false ∧
      v.deposits.enlist v.currentEpochId msg.sender = .ok list ∧
      requested.raw = (v.deposits.requestOf v.currentEpochId msg.sender).amount.raw + amount.raw ∧
      escrow.raw = v.pendingDepositEscrow.raw + amount.raw ∧
      epochTotal.raw = v.epochDepositAssets.raw + amount.raw ∧
      asset.pullExact v.self msg.sender amount = .ok asset' ∧
      v' = { v with
        deposits := v.deposits.file v.currentEpochId msg.sender
          { v.deposits.requestOf v.currentEpochId msg.sender with
            amount := requested, cancelled := false } list
        pendingDepositEscrow := escrow
        epochDepositAssets := epochTotal } := by
  simp only [requestDeposit, bind_eq_ok, rejectIf_eq_ok, requireStatus_ok, requireOpenEpoch_ok,
    add_ok, pure_eq_ok, exists_const, Unsigned.isZero_iff, Bool.not_eq_true, Prod.mk.injEq]
    at success
  obtain ⟨active, ⟨isOpen, opened⟩, nonzero, -, _, -, unsettled, list, hList, requested, hRequested,
    escrow, hEscrow, epochTotal, hTotal, pulled, hPulled, rfl, rfl⟩ := success
  exact ⟨list, requested, escrow, epochTotal, active, isOpen, opened, nonzero, unsettled, hList,
    hRequested, hEscrow, hTotal, hPulled, rfl⟩

theorem cancelDepositRequest_ok (success : v.cancelDepositRequest asset msg = .ok (v', asset')) :
    ∃ list cancelledTotal escrow epochTotal,
      v.vaultStatus ≠ .frozen ∧ v.epochOpen = true ∧ v.currentEpochPhase = .opened ∧
      (v.deposits.requestOf v.currentEpochId msg.sender).settled = false ∧
      (v.deposits.requestOf v.currentEpochId msg.sender).amount.raw ≠ 0 ∧
      v.deposits.removeController v.currentEpochId msg.sender = .ok list ∧
      cancelledTotal.raw = (v.deposits.requestOf v.currentEpochId msg.sender).cancelledAmount.raw +
        (v.deposits.requestOf v.currentEpochId msg.sender).amount.raw ∧
      escrow.raw + (v.deposits.requestOf v.currentEpochId msg.sender).amount.raw =
        v.pendingDepositEscrow.raw ∧
      epochTotal.raw + (v.deposits.requestOf v.currentEpochId msg.sender).amount.raw =
        v.epochDepositAssets.raw ∧
      asset.pushExact v.self msg.sender
        (v.deposits.requestOf v.currentEpochId msg.sender).amount = .ok asset' ∧
      v' = { v with
        deposits := v.deposits.file v.currentEpochId msg.sender
          { v.deposits.requestOf v.currentEpochId msg.sender with
            amount := .zero, cancelledAmount := cancelledTotal, cancelled := true } list
        pendingDepositEscrow := escrow
        epochDepositAssets := epochTotal } := by
  simp only [cancelDepositRequest, bind_eq_ok, rejectIf_eq_ok, requireCancellationAllowed_ok,
    requireCancellableEpoch_ok, add_ok, sub_ok, pure_eq_ok, exists_const, Unsigned.isZero_iff,
    Bool.not_eq_true, Prod.mk.injEq] at success
  obtain ⟨thawed, ⟨isOpen, opened⟩, unsettled, nonzero, cancelledTotal, hCancelled, escrow, hEscrow,
    epochTotal, hTotal, list, hList, pushed, hPushed, rfl, rfl⟩ := success
  exact ⟨list, cancelledTotal, escrow, epochTotal, thawed, isOpen, opened, unsettled, nonzero,
    hList, hCancelled, hEscrow, hTotal, hPushed, rfl⟩

theorem requestRedeem_ok (success : v.requestRedeem asset msg amount = .ok v') :
    ∃ list requested epochTotal ledger,
      v.vaultStatus = .active ∧ v.epochOpen = true ∧ v.currentEpochPhase = .opened ∧
      amount.raw ≠ 0 ∧ (v.redeems.requestOf v.currentEpochId msg.sender).settled = false ∧
      v.redeems.enlist v.currentEpochId msg.sender = .ok list ∧
      requested.raw = (v.redeems.requestOf v.currentEpochId msg.sender).amount.raw + amount.raw ∧
      epochTotal.raw = v.epochRedeemShares.raw + amount.raw ∧
      v.shares.transfer msg.sender v.self amount = .ok ledger ∧
      v' = { v with
        redeems := v.redeems.file v.currentEpochId msg.sender
          { v.redeems.requestOf v.currentEpochId msg.sender with
            amount := requested, cancelled := false } list
        epochRedeemShares := epochTotal
        shares := ledger } := by
  simp only [requestRedeem, bind_eq_ok, rejectIf_eq_ok, requireStatus_ok, requireOpenEpoch_ok,
    add_ok, pure_eq_ok, exists_const, Unsigned.isZero_iff, Bool.not_eq_true] at success
  obtain ⟨active, ⟨isOpen, opened⟩, nonzero, -, -, _, -, unsettled, list, hList, requested,
    hRequested, epochTotal, hTotal, ledger, hLedger, rfl⟩ := success
  exact ⟨list, requested, epochTotal, ledger, active, isOpen, opened, nonzero, unsettled, hList,
    hRequested, hTotal, hLedger, rfl⟩

theorem cancelRedeemRequest_ok (success : v.cancelRedeemRequest msg = .ok v') :
    ∃ list cancelledTotal epochTotal ledger,
      v.vaultStatus ≠ .frozen ∧ v.epochOpen = true ∧ v.currentEpochPhase = .opened ∧
      (v.redeems.requestOf v.currentEpochId msg.sender).settled = false ∧
      (v.redeems.requestOf v.currentEpochId msg.sender).amount.raw ≠ 0 ∧
      v.redeems.removeController v.currentEpochId msg.sender = .ok list ∧
      cancelledTotal.raw = (v.redeems.requestOf v.currentEpochId msg.sender).cancelledAmount.raw +
        (v.redeems.requestOf v.currentEpochId msg.sender).amount.raw ∧
      epochTotal.raw + (v.redeems.requestOf v.currentEpochId msg.sender).amount.raw =
        v.epochRedeemShares.raw ∧
      v.shares.transfer v.self msg.sender
        (v.redeems.requestOf v.currentEpochId msg.sender).amount = .ok ledger ∧
      v' = { v with
        redeems := v.redeems.file v.currentEpochId msg.sender
          { v.redeems.requestOf v.currentEpochId msg.sender with
            amount := .zero, cancelledAmount := cancelledTotal, cancelled := true } list
        epochRedeemShares := epochTotal
        shares := ledger } := by
  simp only [cancelRedeemRequest, bind_eq_ok, rejectIf_eq_ok, requireCancellationAllowed_ok,
    requireCancellableEpoch_ok, add_ok, sub_ok, pure_eq_ok, exists_const, Unsigned.isZero_iff,
    Bool.not_eq_true] at success
  obtain ⟨thawed, ⟨isOpen, opened⟩, unsettled, nonzero, cancelledTotal, hCancelled, epochTotal,
    hTotal, list, hList, ledger, hLedger, rfl⟩ := success
  exact ⟨list, cancelledTotal, epochTotal, ledger, thawed, isOpen, opened, unsettled, nonzero,
    hList, hCancelled, hTotal, hLedger, rfl⟩

end Requests

section EpochLife

/-- What arrives first settles the transit owed; the rest waits for its recall or stays outside
the price. -/
theorem attributeSurplus_ok {surplus : Uint256} (success : v.attributeSurplus surplus = .ok v') :
    ∃ inbound idle unattributed balance,
      inbound.raw = v.inboundInTransit.raw - surplus.raw ∧
      idle.raw = v.idleBacking.raw + min surplus.raw v.inboundInTransit.raw ∧
      unattributed.raw = v.unattributedInbound.raw +
        (if v.pendingRecallPrincipal.raw = 0 then 0 else surplus.raw - v.inboundInTransit.raw) ∧
      balance.raw = v.unattributedBalance.raw +
        (if v.pendingRecallPrincipal.raw = 0 then surplus.raw - v.inboundInTransit.raw else 0) ∧
      v' = { v with
        inboundInTransit := inbound
        idleBacking := idle
        unattributedInbound := unattributed
        unattributedBalance := balance } := by
  have smaller : (if surplus < v.inboundInTransit then surplus else v.inboundInTransit).raw =
      min surplus.raw v.inboundInTransit.raw := by
    split
    · rename_i below
      have : surplus.raw < v.inboundInTransit.raw := below
      omega
    · rename_i above
      have : ¬surplus.raw < v.inboundInTransit.raw := above
      omega
  simp only [attributeSurplus, bind_eq_ok, add_ok, sub_ok, smaller] at success
  obtain ⟨idle, hIdle, inbound, hInbound, remaining, hRemaining, success⟩ := success
  split at success
  · rename_i spent
    rw [pure_eq_ok] at success
    subst success
    have : remaining.raw = 0 := by simpa using spent
    refine ⟨inbound, idle, v.unattributedInbound, v.unattributedBalance, by omega, hIdle, ?_, ?_,
      rfl⟩ <;> split <;> omega
  · split at success
    · rename_i left recalling
      simp only [bind_eq_ok, add_ok, pure_eq_ok] at success
      obtain ⟨unattributed, hUnattributed, rfl⟩ := success
      have pending : v.pendingRecallPrincipal.raw ≠ 0 := by simpa using recalling
      refine ⟨inbound, idle, unattributed, v.unattributedBalance, by omega, hIdle, ?_, ?_, rfl⟩ <;>
        simp only [if_neg pending] <;> omega
    · rename_i left recalling
      simp only [bind_eq_ok, add_ok, pure_eq_ok] at success
      obtain ⟨balance, hBalance, rfl⟩ := success
      have noRecall : v.pendingRecallPrincipal.raw = 0 := by simpa using recalling
      refine ⟨inbound, idle, v.unattributedInbound, balance, by omega, hIdle, ?_, ?_, rfl⟩ <;>
        simp only [if_pos noRecall] <;> omega

/-- Recording a surplus moves only the four buckets that receive it. -/
theorem recordSurplus_ok (success : v.recordSurplus asset = .ok v') :
    ∃ surplus inbound idle unattributed balance,
      surplus + (v.pendingDepositEscrow.raw + v.idleBacking.raw + v.claimReserve.raw +
        v.unattributedBalance.raw + v.unattributedInbound.raw) = (asset.balanceOf v.self).raw ∧
      inbound.raw = v.inboundInTransit.raw - surplus ∧
      idle.raw = v.idleBacking.raw + min surplus v.inboundInTransit.raw ∧
      unattributed.raw = v.unattributedInbound.raw +
        (if v.pendingRecallPrincipal.raw = 0 then 0 else surplus - v.inboundInTransit.raw) ∧
      balance.raw = v.unattributedBalance.raw +
        (if v.pendingRecallPrincipal.raw = 0 then surplus - v.inboundInTransit.raw else 0) ∧
      v' = { v with
        inboundInTransit := inbound
        idleBacking := idle
        unattributedInbound := unattributed
        unattributedBalance := balance } := by
  simp only [recordSurplus, bind_eq_ok, accountedAssets_ok, rejectIf_eq_ok, sub_ok, exists_const]
    at success
  obtain ⟨accounted, hAccounted, -, surplus, hSurplus, success⟩ := success
  split at success
  · rename_i none
    rw [pure_eq_ok] at success
    subst success
    have : surplus.raw = 0 := by simpa using none
    refine ⟨0, v.inboundInTransit, v.idleBacking, v.unattributedInbound, v.unattributedBalance,
      by omega, by omega, by omega, ?_, ?_, rfl⟩ <;> split <;> omega
  · obtain ⟨inbound, idle, unattributed, balance, hInbound, hIdle, hUnattributed, hBalance, rfl⟩ :=
      attributeSurplus_ok success
    exact ⟨surplus.raw, inbound, idle, unattributed, balance, by omega, hInbound, hIdle,
      hUnattributed, hBalance, rfl⟩

theorem cutoffEpoch_ok (success : v.cutoffEpoch msg = .ok v') :
    v.vaultStatus = .active ∧ v.epochOpen = true ∧ v.currentEpochPhase = .opened ∧
      v.currentEpochCutoffAt.raw ≤ msg.timestamp.raw ∧
      v' = { v with currentEpochPhase := .cutOff } := by
  simp only [cutoffEpoch, bind_eq_ok, rejectIf_eq_ok, requireStatus_ok, requireOpenEpoch_ok,
    pure_eq_ok, exists_const, Unsigned.lt_def, Nat.not_lt] at success
  obtain ⟨active, ⟨isOpen, opened⟩, reached, rfl⟩ := success
  exact ⟨active, isOpen, opened, reached, rfl⟩

theorem openEpoch_ok {epochId nowAt : Uint64} (success : v.openEpoch epochId nowAt = .ok v') :
    ∃ cutoffAt next, cutoffAt.raw = nowAt.raw + v.epochDuration.raw ∧
      next.raw = epochId.raw + 1 ∧
      v' = { v with
        epochOpen := true
        currentEpochPhase := .opened
        currentEpochId := epochId
        currentEpochOpenedAt := nowAt
        currentEpochCutoffAt := cutoffAt
        nextEpochId := next
        epochDepositAssets := .zero
        epochRedeemShares := .zero } := by
  simp only [openEpoch, bind_eq_ok, add_ok, pure_eq_ok] at success
  obtain ⟨cutoffAt, hCutoff, next, hNext, rfl⟩ := success
  exact ⟨cutoffAt, next, hCutoff, hNext, rfl⟩

theorem openNextEpoch_ok (success : v.openNextEpoch msg = .ok v') :
    v.vaultStatus = .active ∧ v.epochOpen = false ∧
      v.openEpoch v.nextEpochId msg.timestamp = .ok v' := by
  simp only [openNextEpoch, bind_eq_ok, rejectIf_eq_ok, requireStatus_ok, exists_const,
    Bool.not_eq_true] at success
  obtain ⟨active, idle, -, opened⟩ := success
  exact ⟨active, idle, opened⟩

theorem abortEpoch_ok (success : v.abortEpoch msg = .ok v') :
    ∃ next, v.vaultStatus = .frozen ∧ v.epochOpen = true ∧
      (v.settled v.currentEpochId).outcome = .none ∧ next.raw = v.currentEpochId.raw + 1 ∧
      v' = { v with
        settled := Function.update v.settled v.currentEpochId { v.settled v.currentEpochId with
          outcome := .aborted
          configVersion := v.configVersion
          cutoffAt := v.currentEpochCutoffAt
          depositAssets := v.epochDepositAssets
          redeemShares := v.epochRedeemShares }
        lastCutoffAt := v.currentEpochCutoffAt
        nextEpochId := next }.closeEpochSlot := by
  simp only [abortEpoch, bind_eq_ok, rejectIf_eq_ok, requireAdminOrGuardian_ok, requireStatus_ok,
    add_ok, pure_eq_ok, exists_const, Bool.not_eq_false, not_not] at success
  obtain ⟨-, frozen, isOpen, unsettled, next, hNext, rfl⟩ := success
  exact ⟨next, frozen, isOpen, unsettled, hNext, rfl⟩

/-- Everything one settlement computes before it writes, from a vault whose surplus is
recorded. -/
structure Settlement (v : Vault) (terms : SettledEpoch) (shareClaims assetClaims : Requests × Uint256)
    (ledger : Shares) : Prop where
  outcome : terms.outcome = .finalized
  configVersion : terms.configVersion = v.configVersion
  cutoffAt : terms.cutoffAt = v.currentEpochCutoffAt
  totalAssets : v.pricingAssets = .ok terms.totalAssets
  totalSupply : terms.totalSupply = v.shares.totalSupply
  depositAssets : terms.depositAssets = v.epochDepositAssets
  redeemShares : terms.redeemShares = v.epochRedeemShares
  mintedShares : terms.sharesFor terms.depositAssets = .ok terms.mintedShares
  redeemAssets : terms.assetsFor terms.redeemShares = .ok terms.redeemAssets
  deposits : v.deposits.priceClaims v.currentEpochId terms.sharesFor = .ok shareClaims
  redeems : v.redeems.priceClaims v.currentEpochId terms.assetsFor = .ok assetClaims
  depositDust : terms.depositDust.raw + shareClaims.2.raw = terms.mintedShares.raw
  redeemDust : terms.redeemDust.raw + assetClaims.2.raw = terms.redeemAssets.raw
  minted : ∃ burned,
    unlessZero terms.redeemShares v.shares (v.shares.burn v.self terms.redeemShares) =
      .ok burned ∧
    unlessZero terms.mintedShares burned (burned.mint v.self terms.mintedShares) = .ok ledger

theorem finalizeEpoch_ok (success : v.finalizeEpoch asset = .ok v') :
    ∃ recorded terms deposits redeems ledger idle escrow reserve next,
      v.vaultStatus = .active ∧ v.epochOpen = true ∧ v.currentEpochPhase = .cutOff ∧
      (v.settled v.currentEpochId).outcome = .none ∧ v.recordSurplus asset = .ok recorded ∧
      Settlement recorded terms deposits redeems ledger ∧
      idle.raw + terms.redeemAssets.raw = recorded.idleBacking.raw + terms.depositAssets.raw ∧
      terms.redeemAssets.raw ≤ recorded.idleBacking.raw ∧
      escrow.raw + terms.depositAssets.raw = recorded.pendingDepositEscrow.raw ∧
      reserve.raw = recorded.claimReserve.raw + terms.redeemAssets.raw ∧
      next.raw = v.currentEpochId.raw + 1 ∧
      v' = { recorded with
        deposits := deposits.1
        redeems := redeems.1
        settled := Function.update recorded.settled v.currentEpochId terms
        idleBacking := idle
        pendingDepositEscrow := escrow
        claimReserve := reserve
        shares := ledger
        lastCutoffAt := recorded.currentEpochCutoffAt
        nextEpochId := next }.closeEpochSlot := by
  simp only [finalizeEpoch, bind_eq_ok, rejectIf_eq_ok, requireStatus_ok, add_ok, sub_ok,
    pure_eq_ok, exists_const, not_not, Bool.not_eq_false, not_or, Unsigned.lt_def, Nat.not_lt]
    at success
  obtain ⟨active, isOpen, phase, unsettled, recorded, hRecorded, totalAssets, hTotal, minted,
    hMinted, redeemAssets, hRedeem, liquid, deposits, hDeposits, redeems, hRedeems, -, depositDust,
    hDepositDust, redeemDust, hRedeemDust, idleAfter, hIdleAfter, idle, hIdle, escrow, hEscrow,
    reserve, hReserve, burned, hBurned, ledger, hLedger, next, hNext, rfl⟩ := success
  have sameEpoch : recorded.currentEpochId = v.currentEpochId := by
    obtain ⟨_, _, _, _, _, -, -, -, -, -, rfl⟩ := recordSurplus_ok hRecorded
    rfl
  rw [← sameEpoch] at hDeposits hRedeems
  exact ⟨recorded, {
      outcome := .finalized
      configVersion := recorded.configVersion
      cutoffAt := recorded.currentEpochCutoffAt
      totalAssets := totalAssets
      totalSupply := recorded.shares.totalSupply
      depositAssets := recorded.epochDepositAssets
      mintedShares := minted
      redeemShares := recorded.epochRedeemShares
      redeemAssets := redeemAssets
      depositDust := depositDust
      redeemDust := redeemDust }, deposits, redeems, ledger, idle, escrow, reserve, next, active,
    isOpen, phase, unsettled, hRecorded,
    { outcome := rfl, configVersion := rfl, cutoffAt := rfl, totalAssets := hTotal,
      totalSupply := rfl, depositAssets := rfl, redeemShares := rfl, mintedShares := hMinted,
      redeemAssets := hRedeem, deposits := hDeposits, redeems := hRedeems,
      depositDust := hDepositDust, redeemDust := hRedeemDust, minted := ⟨burned, hBurned, hLedger⟩ },
    by dsimp only; omega, by dsimp only; omega, hEscrow, hReserve, hNext, rfl⟩

end EpochLife

section Claims

variable {epochId : Uint64}

theorem payable_ok {requests : Requests} {consumed : Revert} {request : Request} :
    payable requests epochId sender consumed = .ok request ↔
      request = requests.requestOf epochId sender ∧ request.cancelled = false ∧
        request.settled = false ∧ request.amount.raw ≠ 0 := by
  simp only [payable, bind_eq_ok, rejectIf_eq_ok, exists_const, pure_eq_ok, Bool.not_eq_true,
    Unsigned.isZero_eq_false]
  constructor
  · rintro ⟨live, unsettled, nonzero, rfl⟩
    exact ⟨rfl, live, unsettled, nonzero⟩
  · rintro ⟨rfl, live, unsettled, nonzero⟩
    exact ⟨live, unsettled, nonzero, rfl⟩

theorem claimDeposit_ok (success : v.claimDeposit msg epochId = .ok v') :
    ∃ ledger, (v.settled epochId).outcome = .finalized ∧
      (v.deposits.requestOf epochId msg.sender).cancelled = false ∧
      (v.deposits.requestOf epochId msg.sender).settled = false ∧
      (v.deposits.requestOf epochId msg.sender).amount.raw ≠ 0 ∧
      ledger.totalSupply = v.shares.totalSupply ∧
      unlessZero (v.deposits.claimOf epochId msg.sender) v.shares
        (v.shares.transfer v.self msg.sender (v.deposits.claimOf epochId msg.sender)) = .ok ledger ∧
      v' = { v with deposits := v.deposits.settle epochId msg.sender, shares := ledger } := by
  simp only [claimDeposit, bind_eq_ok, rejectIf_eq_ok, exists_const, payable_ok, pure_eq_ok,
    not_not] at success
  obtain ⟨finalized, _, ⟨rfl, live, unsettled, nonzero⟩, ledger, hLedger, rfl⟩ := success
  refine ⟨ledger, finalized, live, unsettled, nonzero, ?_, hLedger, rfl⟩
  obtain ⟨-, rfl⟩ | ⟨-, moved⟩ := unlessZero_ok hLedger
  · rfl
  · exact Shares.transfer_totalSupply moved

theorem claimRedeem_ok (success : v.claimRedeem asset msg epochId = .ok (v', asset')) :
    ∃ reserve, (v.settled epochId).outcome = .finalized ∧
      (v.redeems.requestOf epochId msg.sender).cancelled = false ∧
      (v.redeems.requestOf epochId msg.sender).settled = false ∧
      (v.redeems.requestOf epochId msg.sender).amount.raw ≠ 0 ∧
      reserve.raw + (v.redeems.claimOf epochId msg.sender).raw = v.claimReserve.raw ∧
      (asset'.balanceOf v.self).raw + (v.redeems.claimOf epochId msg.sender).raw =
        (asset.balanceOf v.self).raw ∧
      unlessZero (v.redeems.claimOf epochId msg.sender) asset
        (asset.pushExact v.self msg.sender (v.redeems.claimOf epochId msg.sender)) = .ok asset' ∧
      v' = { v with redeems := v.redeems.settle epochId msg.sender, claimReserve := reserve } := by
  simp only [claimRedeem, bind_eq_ok, rejectIf_eq_ok, exists_const, payable_ok, pure_eq_ok,
    not_not, sub_ok, Prod.mk.injEq] at success
  obtain ⟨finalized, _, ⟨rfl, live, unsettled, nonzero⟩, reserve, hReserve, moved, hMoved, rfl,
    rfl⟩ := success
  refine ⟨reserve, finalized, live, unsettled, nonzero, hReserve, ?_, hMoved, rfl⟩
  obtain ⟨nothing, rfl⟩ | ⟨-, moved⟩ := unlessZero_ok hMoved
  · omega
  · exact (Asset.pushExact_ok moved).2

theorem refundDeposit_ok (success : v.refundDeposit asset msg epochId = .ok (v', asset')) :
    ∃ escrow, (v.settled epochId).outcome = .aborted ∧
      (v.deposits.requestOf epochId msg.sender).cancelled = false ∧
      (v.deposits.requestOf epochId msg.sender).settled = false ∧
      (v.deposits.requestOf epochId msg.sender).amount.raw ≠ 0 ∧
      escrow.raw + (v.deposits.requestOf epochId msg.sender).amount.raw =
        v.pendingDepositEscrow.raw ∧
      (asset'.balanceOf v.self).raw + (v.deposits.requestOf epochId msg.sender).amount.raw =
        (asset.balanceOf v.self).raw ∧
      asset.pushExact v.self msg.sender (v.deposits.requestOf epochId msg.sender).amount =
        .ok asset' ∧
      v' = { v with
        deposits := v.deposits.settle epochId msg.sender
        pendingDepositEscrow := escrow } := by
  simp only [refundDeposit, bind_eq_ok, rejectIf_eq_ok, exists_const, payable_ok, pure_eq_ok,
    not_not, sub_ok, Prod.mk.injEq] at success
  obtain ⟨aborted, _, ⟨rfl, live, unsettled, nonzero⟩, escrow, hEscrow, moved, hMoved, rfl,
    rfl⟩ := success
  exact ⟨escrow, aborted, live, unsettled, nonzero, hEscrow, (Asset.pushExact_ok hMoved).2, hMoved,
    rfl⟩

theorem refundRedeem_ok (success : v.refundRedeem msg epochId = .ok v') :
    ∃ ledger, (v.settled epochId).outcome = .aborted ∧
      (v.redeems.requestOf epochId msg.sender).cancelled = false ∧
      (v.redeems.requestOf epochId msg.sender).settled = false ∧
      (v.redeems.requestOf epochId msg.sender).amount.raw ≠ 0 ∧
      ledger.totalSupply = v.shares.totalSupply ∧
      v.shares.transfer v.self msg.sender (v.redeems.requestOf epochId msg.sender).amount =
        .ok ledger ∧
      v' = { v with redeems := v.redeems.settle epochId msg.sender, shares := ledger } := by
  simp only [refundRedeem, bind_eq_ok, rejectIf_eq_ok, exists_const, payable_ok, pure_eq_ok,
    not_not] at success
  obtain ⟨aborted, _, ⟨rfl, live, unsettled, nonzero⟩, ledger, hLedger, rfl⟩ := success
  exact ⟨ledger, aborted, live, unsettled, nonzero, Shares.transfer_totalSupply hLedger, hLedger, rfl⟩

end Claims

section Status

theorem pause_ok (success : v.pause msg = .ok v') :
    v.vaultStatus = .active ∧ v' = { v with vaultStatus := .paused } := by
  simp only [pause, bind_eq_ok, requireAdminOrGuardian_ok, requireStatus_ok, pure_eq_ok,
    exists_const] at success
  obtain ⟨-, active, rfl⟩ := success
  exact ⟨active, rfl⟩

theorem unpause_ok (success : v.unpause msg = .ok v') :
    v.vaultStatus = .paused ∧ v' = { v with vaultStatus := .active } := by
  simp only [unpause, bind_eq_ok, requireAdmin_ok, requireStatus_ok, pure_eq_ok, exists_const]
    at success
  obtain ⟨-, paused, rfl⟩ := success
  exact ⟨paused, rfl⟩

theorem freeze_ok (success : v.freeze msg = .ok v') :
    v.vaultStatus ≠ .frozen ∧ v' = { v with vaultStatus := .frozen } := by
  simp only [freeze, bind_eq_ok, rejectIf_eq_ok, requireAdminOrGuardian_ok, pure_eq_ok,
    exists_const] at success
  obtain ⟨-, thawed, rfl⟩ := success
  exact ⟨thawed, rfl⟩

theorem bindRemoteAccounting_ok {coordinator : Address}
    (success : v.bindRemoteAccounting msg coordinator = .ok v') :
    v.remoteAccounting.raw = 0 ∧ v' = { v with remoteAccounting := coordinator } := by
  simp only [bindRemoteAccounting, bind_eq_ok, rejectIf_eq_ok, requireAdmin_ok, pure_eq_ok,
    exists_const, Unsigned.isZero_eq_false, not_not] at success
  obtain ⟨-, -, unbound, -, rfl⟩ := success
  exact ⟨unbound, rfl⟩

end Status

section Remote

variable {amount claim credited principal actual loss reported : Uint256} {epochId : Uint64}

theorem ite_lt_raw {bits : Nat} (a b : Unsigned bits) :
    (if a < b then a else b).raw = min a.raw b.raw := by
  split
  · rename_i below
    have : a.raw < b.raw := below
    omega
  · rename_i above
    have : ¬a.raw < b.raw := above
    omega

@[simp] theorem setAcceptedRemoteValue_raw :
    (v.setAcceptedRemoteValue reported).acceptedRemoteValue.raw =
      min reported.raw v.remotePrincipalCap.raw :=
  ite_lt_raw _ _

theorem beginOutbound_ok {sink : Address}
    (success : v.beginOutbound asset sender amount sink = .ok (v', asset')) :
    ∃ recorded idle outbound, (v.remoteAccounting.raw ≠ 0 ∧ sender = v.remoteAccounting) ∧
      v.recordSurplus asset = .ok recorded ∧
      amount.raw ≠ 0 ∧ idle.raw + amount.raw = recorded.idleBacking.raw ∧
      outbound.raw = recorded.outboundInTransit.raw + amount.raw ∧
      (asset'.balanceOf v.self).raw + amount.raw = (asset.balanceOf v.self).raw ∧
      asset.pushExact v.self sink amount = .ok asset' ∧
      v' = { recorded with idleBacking := idle, outboundInTransit := outbound } := by
  simp only [beginOutbound, bind_eq_ok, rejectIf_eq_ok, requireRemoteAccounting_ok, sub_ok, add_ok,
    pure_eq_ok, exists_const, Unsigned.isZero_iff, Prod.mk.injEq] at success
  obtain ⟨bound, recorded, hRecorded, nonzero, -, -, idle, hIdle, outbound, hOutbound, moved,
    hMoved, rfl, rfl⟩ := success
  have sameSelf : recorded.self = v.self := by
    obtain ⟨_, _, _, _, _, -, -, -, -, -, rfl⟩ := recordSurplus_ok hRecorded
    rfl
  rw [sameSelf] at hMoved
  exact ⟨recorded, idle, outbound, bound, hRecorded, nonzero, hIdle, hOutbound,
    (Asset.pushExact_ok hMoved).2, hMoved, rfl⟩

theorem completeAllocation_iff : v.completeAllocation sender amount reported = .ok v' ↔
    ∃ outbound cap, (v.remoteAccounting.raw ≠ 0 ∧ sender = v.remoteAccounting) ∧ amount.raw ≠ 0 ∧
      outbound.raw + amount.raw = v.outboundInTransit.raw ∧
      cap.raw = v.remotePrincipalCap.raw + amount.raw ∧
      v' = { v with
        outboundInTransit := outbound
        remotePrincipalCap := cap }.setAcceptedRemoteValue reported := by
  simp only [completeAllocation, bind_eq_ok, rejectIf_eq_ok, requireRemoteAccounting_ok, sub_ok,
    add_ok, pure_eq_ok, exists_const, Unsigned.isZero_iff, Unsigned.lt_def, Nat.not_lt]
  constructor
  · rintro ⟨bound, nonzero, -, outbound, hOutbound, cap, hCap, rfl⟩
    exact ⟨outbound, cap, bound, nonzero, hOutbound, hCap, rfl⟩
  · rintro ⟨outbound, cap, bound, nonzero, hOutbound, hCap, rfl⟩
    exact ⟨bound, nonzero, by omega, outbound, hOutbound, cap, hCap, rfl⟩

theorem closeAllocation_iff : v.closeAllocation sender claim credited = .ok v' ↔
    ∃ outbound cap accepted impaired, (v.remoteAccounting.raw ≠ 0 ∧ sender = v.remoteAccounting) ∧
      claim.raw ≠ 0 ∧ credited.raw ≤ claim.raw ∧
      outbound.raw + claim.raw = v.outboundInTransit.raw ∧
      cap.raw = v.remotePrincipalCap.raw + credited.raw ∧
      accepted.raw = v.acceptedRemoteValue.raw + credited.raw ∧
      impaired.raw = v.impairedTransport.raw + (claim.raw - credited.raw) ∧
      v' = { v with
        outboundInTransit := outbound
        remotePrincipalCap := cap
        acceptedRemoteValue := accepted
        impairedTransport := impaired } := by
  simp only [closeAllocation, bind_eq_ok, rejectIf_eq_ok, requireRemoteAccounting_ok, sub_ok,
    add_ok, pure_eq_ok, exists_const, Unsigned.isZero_iff, Unsigned.lt_def, Nat.not_lt, not_or]
  constructor
  · rintro ⟨bound, nonzero, ⟨within, -⟩, outbound, hOutbound, cap, hCap, accepted, hAccepted,
      shortfall, hShortfall, impaired, hImpaired, rfl⟩
    exact ⟨outbound, cap, accepted, impaired, bound, nonzero, within, hOutbound, hCap, hAccepted,
      by omega, rfl⟩
  · rintro ⟨outbound, cap, accepted, impaired, bound, nonzero, within, hOutbound, hCap, hAccepted,
      hImpaired, rfl⟩
    exact ⟨bound, nonzero, ⟨within, by omega⟩, outbound, hOutbound, cap, hCap, accepted, hAccepted,
      claim.saturatingSub credited, by simp; omega, impaired, by simpa using hImpaired, rfl⟩

theorem recoverImpairment_iff : v.recoverImpairment sender amount = .ok v' ↔
    ∃ impaired cap accepted, (v.remoteAccounting.raw ≠ 0 ∧ sender = v.remoteAccounting) ∧
      impaired.raw + amount.raw = v.impairedTransport.raw ∧
      cap.raw = v.remotePrincipalCap.raw + amount.raw ∧
      accepted.raw = v.acceptedRemoteValue.raw + amount.raw ∧
      v' = { v with
        impairedTransport := impaired
        remotePrincipalCap := cap
        acceptedRemoteValue := accepted } := by
  simp only [recoverImpairment, bind_eq_ok, rejectIf_eq_ok, requireRemoteAccounting_ok, sub_ok,
    add_ok, pure_eq_ok, exists_const, Unsigned.lt_def, Nat.not_lt]
  constructor
  · rintro ⟨bound, -, impaired, hImpaired, cap, hCap, accepted, hAccepted, rfl⟩
    exact ⟨impaired, cap, accepted, bound, hImpaired, hCap, hAccepted, rfl⟩
  · rintro ⟨impaired, cap, accepted, bound, hImpaired, hCap, hAccepted, rfl⟩
    exact ⟨bound, by omega, impaired, hImpaired, cap, hCap, accepted, hAccepted, rfl⟩

theorem applyRemoteValuation_iff : v.applyRemoteValuation sender reported = .ok v' ↔
    (v.remoteAccounting.raw ≠ 0 ∧ sender = v.remoteAccounting) ∧
      v' = v.setAcceptedRemoteValue reported := by
  simp only [applyRemoteValuation, bind_eq_ok, requireRemoteAccounting_ok, pure_eq_ok, exists_const,
    eq_comm (a := v')]

theorem beginRecall_ok {transferId : Bytes32}
    (success : v.beginRecall sender transferId amount = .ok v') :
    (v.remoteAccounting.raw ≠ 0 ∧ sender = v.remoteAccounting) ∧ transferId.raw ≠ 0 ∧
      amount.raw ≠ 0 ∧
      v' = { v with pendingRecallId := transferId, pendingRecallPrincipal := amount } := by
  simp only [beginRecall, bind_eq_ok, rejectIf_eq_ok, requireRemoteAccounting_ok, pure_eq_ok,
    exists_const, Unsigned.isZero_iff, not_or] at success
  obtain ⟨bound, ⟨named, nonzero⟩, rfl⟩ := success
  exact ⟨bound, named, nonzero, rfl⟩

theorem applyRecallSent_iff : v.applyRecallSent sender principal actual loss = .ok v' ↔
    ∃ cap accepted recognized unattributed idle inbound,
      (v.remoteAccounting.raw ≠ 0 ∧ sender = v.remoteAccounting) ∧ principal.raw ≠ 0 ∧
      principal.raw = actual.raw + loss.raw ∧
      cap.raw + principal.raw = v.remotePrincipalCap.raw ∧
      accepted.raw = v.acceptedRemoteValue.raw - principal.raw ∧
      recognized.raw = v.recognizedLoss.raw + loss.raw ∧
      unattributed.raw = v.unattributedInbound.raw - actual.raw ∧
      idle.raw = v.idleBacking.raw + min actual.raw v.unattributedInbound.raw ∧
      inbound.raw = v.inboundInTransit.raw + (actual.raw - v.unattributedInbound.raw) ∧
      v' = { v with
        remotePrincipalCap := cap
        acceptedRemoteValue := accepted
        recognizedLoss := recognized
        unattributedInbound := unattributed
        idleBacking := idle
        inboundInTransit := inbound
        pendingRecallId := .zero
        pendingRecallPrincipal := .zero } := by
  simp only [applyRecallSent, bind_eq_ok, rejectIf_eq_ok, requireRemoteAccounting_ok, sub_ok,
    add_ok, pure_eq_ok, exists_const, Unsigned.isZero_iff, Unsigned.lt_def, Nat.not_lt, not_not]
  simp only [← Unsigned.lt_def, ite_lt_raw]
  constructor
  · rintro ⟨bound, nonzero, covered, split, cap, hCap, accepted, hAccepted, recognized, hRecognized,
      unattributed, hUnattributed, idle, hIdle, still, hStill, inbound, hInbound, rfl⟩
    exact ⟨cap, accepted, recognized, unattributed, idle, inbound, bound, nonzero, by omega, hCap,
      by omega, hRecognized, by omega, hIdle, by omega, rfl⟩
  · rintro ⟨cap, accepted, recognized, unattributed, idle, inbound, bound, nonzero, split, hCap,
      hAccepted, hRecognized, hUnattributed, hIdle, hInbound, rfl⟩
    exact ⟨bound, nonzero, by omega, by omega, cap, hCap, accepted, by omega, recognized,
      hRecognized, unattributed, by omega, idle, hIdle,
      actual.saturatingSub v.unattributedInbound, by rw [Unsigned.saturatingSub_raw]; omega,
      inbound, by rw [Unsigned.saturatingSub_raw]; omega, rfl⟩

theorem lockRemoteValuation_iff : v.lockRemoteValuation sender epochId = .ok v' ↔
    ∃ backing, (v.remoteAccounting.raw ≠ 0 ∧ sender = v.remoteAccounting) ∧
      v.epochRemoteValuationLocked epochId = false ∧
      backing.raw = v.idleBacking.raw + v.outboundInTransit.raw + v.acceptedRemoteValue.raw +
        v.inboundInTransit.raw ∧
      v' = { v with
        epochRemoteValuationLocked := Function.update v.epochRemoteValuationLocked epochId true
        lockedPricingAssets := Function.update v.lockedPricingAssets epochId backing } := by
  simp only [lockRemoteValuation, bind_eq_ok, rejectIf_eq_ok, requireRemoteAccounting_ok,
    managedBacking_ok, pure_eq_ok, exists_const, Bool.not_eq_true]
  constructor
  · rintro ⟨bound, unlocked, backing, hBacking, rfl⟩
    exact ⟨backing, bound, unlocked, hBacking, rfl⟩
  · rintro ⟨backing, bound, unlocked, hBacking, rfl⟩
    exact ⟨bound, unlocked, backing, hBacking, rfl⟩

end Remote

end Vault

end Evm
