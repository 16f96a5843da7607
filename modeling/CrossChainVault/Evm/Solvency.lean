import CrossChainVault.Evm.Purse

set_option autoImplicit false

/- The vault can always pay: its balances cover every bucket, every refund and every claim. -/

namespace Evm

open Result Protocol

/-- Both ledgers are exact where the vault is concerned. -/
structure Keeps (w : World) : Prop where
  asset : w.asset.Kept w.vault.self
  shares : w.vault.shares.Kept w.vault.self

/-- A transaction that leaves both ledgers exact. -/
structure Pays (w w' : World) : Prop where
  self : w'.vault.self = w.vault.self
  keeps : Keeps w'
  purse : PurseStep w.purse w'.purse

/-- The vault's own ledger and the buckets of assets at hand did not move. -/
structure Vault.Alike (v v' : Vault) : Prop where
  self : v'.self = v.self
  shares : v'.shares = v.shares
  purse : ∀ assets, v'.purse assets = v.purse assets

namespace Vault

variable {v v' v'' : Vault} {sender : Address} {asset : Asset}

theorem Alike.refl (v : Vault) : v.Alike v := ⟨rfl, rfl, fun _ => rfl⟩

theorem Alike.trans (first : v.Alike v') (second : v'.Alike v'') : v.Alike v'' where
  self := second.self.trans first.self
  shares := second.shares.trans first.shares
  purse assets := (second.purse assets).trans (first.purse assets)

theorem completeAllocation_alike {amount reported : Uint256}
    (success : v.completeAllocation sender amount reported = .ok v') : v.Alike v' := by
  obtain ⟨_, _, -, -, -, -, rfl⟩ := completeAllocation_iff.mp success
  exact ⟨rfl, rfl, fun _ => rfl⟩

theorem closeAllocation_alike {claim credited : Uint256}
    (success : v.closeAllocation sender claim credited = .ok v') : v.Alike v' := by
  obtain ⟨_, _, _, _, -, -, -, -, -, -, -, rfl⟩ := closeAllocation_iff.mp success
  exact ⟨rfl, rfl, fun _ => rfl⟩

theorem recoverImpairment_alike {amount : Uint256}
    (success : v.recoverImpairment sender amount = .ok v') : v.Alike v' := by
  obtain ⟨_, _, _, -, -, -, -, rfl⟩ := recoverImpairment_iff.mp success
  exact ⟨rfl, rfl, fun _ => rfl⟩

theorem setAcceptedRemoteValue_alike (v : Vault) (reported : Uint256) :
    v.Alike (v.setAcceptedRemoteValue reported) := ⟨rfl, rfl, fun _ => rfl⟩

theorem applyRemoteValuation_alike {reported : Uint256}
    (success : v.applyRemoteValuation sender reported = .ok v') : v.Alike v' := by
  obtain ⟨-, rfl⟩ := applyRemoteValuation_iff.mp success
  exact v.setAcceptedRemoteValue_alike reported

theorem beginRecall_alike {transferId : Bytes32} {amount : Uint256}
    (success : v.beginRecall sender transferId amount = .ok v') : v.Alike v' := by
  obtain ⟨-, -, -, rfl⟩ := beginRecall_ok success
  exact ⟨rfl, rfl, fun _ => rfl⟩

/-- What a recall notice names was free already or has yet to arrive. -/
theorem applyRecallSent_alike {principal actual loss : Uint256}
    (success : v.applyRecallSent sender principal actual loss = .ok v') : v.Alike v' := by
  obtain ⟨_, _, _, unattributed, idle, _, -, -, -, -, -, -, hUnattributed, hIdle, -, rfl⟩ :=
    applyRecallSent_iff.mp success
  refine ⟨rfl, rfl, fun assets => ?_⟩
  have free : idle.raw + v.unattributedBalance.raw + unattributed.raw =
      v.idleBacking.raw + v.unattributedBalance.raw + v.unattributedInbound.raw := by
    omega
  simp only [purse, free]
  rfl

theorem lockRemoteValuation_alike {epochId : Uint64}
    (success : v.lockRemoteValuation sender epochId = .ok v') : v.Alike v' := by
  obtain ⟨_, -, -, -, rfl⟩ := lockRemoteValuation_iff.mp success
  exact ⟨rfl, rfl, fun _ => rfl⟩

/-- A surplus the word has room for can always be attributed. -/
theorem attributeSurplus_succeeds (surplus : Uint256)
    (fits : v.idleBacking.raw + v.unattributedBalance.raw + v.unattributedInbound.raw +
      surplus.raw < 2 ^ 256) : ∃ v', v.attributeSurplus surplus = .ok v' := by
  have smaller := ite_lt_raw surplus v.inboundInTransit
  simp only [attributeSurplus, bind_eq_ok, add_ok, sub_ok, smaller]
  have remaining : ∃ rest : Uint256, rest.raw + min surplus.raw v.inboundInTransit.raw =
      surplus.raw := ⟨⟨surplus.raw - min surplus.raw v.inboundInTransit.raw, by omega⟩,
    by dsimp only; omega⟩
  obtain ⟨rest, hRest⟩ := remaining
  have inbound : ∃ left : Uint256, left.raw + min surplus.raw v.inboundInTransit.raw =
      v.inboundInTransit.raw := ⟨⟨v.inboundInTransit.raw - min surplus.raw v.inboundInTransit.raw,
    by have := v.inboundInTransit.bound; omega⟩, by dsimp only; omega⟩
  obtain ⟨left, hLeft⟩ := inbound
  let idle : Uint256 := ⟨v.idleBacking.raw + min surplus.raw v.inboundInTransit.raw, by omega⟩
  by_cases spent : rest.isZero = true
  · exact ⟨_, idle, rfl, left, hLeft, rest, hRest, by rw [if_pos spent]; rfl⟩
  · by_cases recalling : (!v.pendingRecallPrincipal.isZero) = true
    · let total : Uint256 := ⟨v.unattributedInbound.raw + rest.raw, by omega⟩
      exact ⟨_, idle, rfl, left, hLeft, rest, hRest, by
        rw [if_neg spent, if_pos recalling]
        exact bind_eq_ok.mpr ⟨total, add_ok.mpr rfl, rfl⟩⟩
    · let total : Uint256 := ⟨v.unattributedBalance.raw + rest.raw, by omega⟩
      exact ⟨_, idle, rfl, left, hLeft, rest, hRest, by
        rw [if_neg spent, if_neg recalling]
        exact bind_eq_ok.mpr ⟨total, add_ok.mpr rfl, rfl⟩⟩

/-- After a recorded surplus the buckets add up to the balance. -/
theorem recordSurplus_purse (success : v.recordSurplus asset = .ok v') :
    v'.self = v.self ∧ v'.shares = v.shares ∧ ∃ free,
      v'.idleBacking.raw + v'.unattributedBalance.raw + v'.unattributedInbound.raw = free ∧
      v.pendingDepositEscrow.raw + v.claimReserve.raw + free = (asset.balanceOf v.self).raw ∧
      ∀ assets, v'.purse assets = { v.purse assets with free := free } := by
  obtain ⟨surplus, inbound, idle, unattributed, balance, hSurplus, -, hIdle, hUnattributed,
    hBalance, rfl⟩ := recordSurplus_ok success
  refine ⟨rfl, rfl, idle.raw + balance.raw + unattributed.raw, rfl, ?_, fun _ => rfl⟩
  by_cases recalling : v.pendingRecallPrincipal.raw = 0
  · rw [if_pos recalling] at hUnattributed hBalance
    omega
  · rw [if_neg recalling] at hUnattributed hBalance
    omega

end Vault

namespace World

variable {hashing : Hashing} {w w' : World} {msg : Msg} {header : Header}
  {body : RemoteReportBody} {reason : ReportSkipReason}

theorem completeAllocation_alike {reported : Uint128}
    (success : w.completeAllocation reported = .ok w') :
    w.vault.Alike w'.vault ∧ w'.asset = w.asset := by
  obtain ⟨hVault, -, sameAsset⟩ := completeAllocation_ok.mp success
  exact ⟨Vault.completeAllocation_alike hVault, sameAsset⟩

theorem applyReport_alike (success : w.applyReport msg header body = .ok (w', reason)) :
    w.vault.Alike w'.vault ∧ w'.asset = w.asset := by
  cases applyReport_ok success with
  | skipped => exact ⟨Vault.Alike.refl _, rfl⟩
  | completedAtPar _ _ _ _ _ _ completed => exact completeAllocation_alike completed
  | priced completed valued _ _ _ _ completes values locks =>
      have before : w.vault.Alike completed.vault ∧ completed.asset = w.asset := by
        unfold completeIfNamed at completes
        split at completes
        · exact completeAllocation_alike completes
        · rw [pure_eq_ok] at completes
          subst completes
          exact ⟨Vault.Alike.refl _, rfl⟩
      obtain ⟨-, rfl⟩ := applyRemoteValuation_ok.mp values
      have valued := fun value =>
        before.1.trans (completed.vault.setAcceptedRemoteValue_alike value)
      split at locks
      · obtain ⟨vault, hVault, rfl⟩ := locks
        exact ⟨(valued _).trans (Vault.lockRemoteValuation_alike hVault), before.2⟩
      · subst locks
        exact ⟨valued _, before.2⟩

theorem restoreBaseline_alike {restored : Vault} (success : w.restoreBaseline = .ok restored) :
    w.vault.Alike restored := by
  dsimp only [restoreBaseline] at success
  split at success
  · rw [pure_eq_ok] at success
    subst success
    exact Vault.Alike.refl _
  · exact Vault.applyRemoteValuation_alike success

/-- A transaction that moves neither ledger and no bucket of assets at hand. -/
theorem pays_alike (keeps : Keeps w) (alike : w.vault.Alike w'.vault) (asset : w'.asset = w.asset) :
    Pays w w' where
  self := alike.self
  keeps := by
    refine ⟨?_, ?_⟩
    · rw [asset, alike.self]
      exact keeps.asset
    · rw [alike.shares, alike.self]
      exact keeps.shares
  purse := by
    have same : w'.purse = w.purse := by
      rw [purse, asset, alike.self]
      exact alike.purse _
    rw [same]
    exact .moved _ _ _ (Nat.le_refl _) id

/-- A call of the asset by somebody else never lowers the vault's balance. -/
theorem pays_asset {after : Asset} (keeps : Keeps w) (kept : after.Kept w.vault.self)
    (received : (w.asset.balanceOf w.vault.self).raw ≤ (after.balanceOf w.vault.self).raw) :
    Pays w { w with asset := after } where
  self := rfl
  keeps := ⟨kept, keeps.shares⟩
  purse := .moved (after.balanceOf w.vault.self).raw _ _ (Nat.le_refl _)
    fun covered => Nat.le_trans covered received

theorem pays_shares {after : Shares} (keeps : Keeps w) (kept : after.Kept w.vault.self)
    (received : (w.vault.shares.balanceOf w.vault.self).raw ≤
      (after.balanceOf w.vault.self).raw) :
    Pays w { w with vault := { w.vault with shares := after } } where
  self := rfl
  keeps := ⟨keeps.asset, kept⟩
  purse := .moved _ (after.balanceOf w.vault.self).raw _ received id

theorem pays_surplus {vault : Vault} (keeps : Keeps w)
    (success : w.vault.recordSurplus w.asset = .ok vault) : Pays w { w with vault := vault } := by
  obtain ⟨sameSelf, sameShares, free, -, balance, samePurse⟩ := Vault.recordSurplus_purse success
  refine ⟨sameSelf, ⟨?_, ?_⟩, ?_⟩
  · show w.asset.Kept vault.self
    rw [sameSelf]
    exact keeps.asset
  · show vault.shares.Kept vault.self
    rw [sameShares, sameSelf]
    exact keeps.shares
  · show PurseStep w.purse (vault.purse (w.asset.balanceOf vault.self).raw)
    rw [sameSelf, samePurse]
    exact .moved _ _ free (Nat.le_refl _) fun _ => Nat.le_of_eq balance

/-- What leaves for the remote leg was idle. -/
theorem pays_outbound {sender sink : Address} {amount : Uint256} {moved : Vault × Asset}
    (keeps : Keeps w) (success : w.vault.beginOutbound w.asset sender amount sink = .ok moved)
    (hVault : w'.vault = moved.1) (hAsset : w'.asset = moved.2) : Pays w w' := by
  obtain ⟨recorded, idle, outbound, -, hRecorded, -, hIdle, -, hBalance, pushed, changed⟩ :=
    Vault.beginOutbound_ok success
  obtain ⟨-, -, free, hFree, balance, -⟩ := Vault.recordSurplus_purse hRecorded
  obtain ⟨_, _, _, unattributed, unowned, -, -, -, -, -, rfl⟩ := Vault.recordSurplus_ok hRecorded
  dsimp only at hFree hIdle
  rw [← hVault] at changed
  rw [← hAsset] at hBalance pushed
  have sameSelf : w'.vault.self = w.vault.self := by rw [changed]
  refine ⟨sameSelf, ⟨?_, ?_⟩, ?_⟩
  · rw [sameSelf]
    exact (keeps.asset.pushExact pushed).1
  · rw [changed]
    exact keeps.shares
  · have covers : w.vault.pendingDepositEscrow.raw + w.vault.claimReserve.raw +
        (idle.raw + unowned.raw + unattributed.raw) ≤ (w'.asset.balanceOf w.vault.self).raw := by
      omega
    show PurseStep w.purse (w'.vault.purse (w'.asset.balanceOf w'.vault.self).raw)
    rw [changed]
    exact .moved _ _ _ (Nat.le_refl _) fun _ => covers

/-- The reserve, the escrow and the share ledger after a settlement. -/
theorem finalizeEpoch_pays {vault : Vault} (keeps : Keeps w)
    (success : w.vault.finalizeEpoch w.asset = .ok vault) : Pays w { w with vault := vault } := by
  obtain ⟨recorded, terms, deposits, redeems, ledger, idle, escrow, reserve, next, -, isOpen, -, -,
    hRecorded, settlement, hIdle, liquid, hEscrow, hReserve, hNext, rfl⟩ :=
    Vault.finalizeEpoch_ok success
  obtain ⟨-, -, free, hFree, balance, -⟩ := Vault.recordSurplus_purse hRecorded
  obtain ⟨_, _, _, unattributed, unowned, -, -, -, -, -, rfl⟩ := Vault.recordSurplus_ok hRecorded
  obtain ⟨burned, hBurned, hMinted⟩ := settlement.minted
  have burnt : burned.Kept w.vault.self ∧ (burned.balanceOf w.vault.self).raw +
      terms.redeemShares.raw = (w.vault.shares.balanceOf w.vault.self).raw := by
    obtain ⟨nothing, rfl⟩ | ⟨-, moved⟩ := unlessZero_ok hBurned
    · exact ⟨keeps.shares, by dsimp only; omega⟩
    · exact keeps.shares.burn moved
  have minted : ledger.Kept w.vault.self ∧ (ledger.balanceOf w.vault.self).raw =
      (burned.balanceOf w.vault.self).raw + terms.mintedShares.raw := by
    obtain ⟨nothing, rfl⟩ | ⟨-, moved⟩ := unlessZero_ok hMinted
    · exact ⟨burnt.1, by omega⟩
    · obtain ⟨kept, given⟩ := burnt.1.mint moved
      have own := given w.vault.self
      rw [if_pos rfl] at own
      exact ⟨kept, own⟩
  have deposited : terms.depositAssets.raw = w.vault.epochDepositAssets.raw :=
    congrArg Unsigned.raw settlement.depositAssets
  have redeemed : terms.redeemShares.raw = w.vault.epochRedeemShares.raw :=
    congrArg Unsigned.raw settlement.redeemShares
  dsimp only at hFree hIdle hEscrow hReserve
  refine ⟨rfl, ⟨keeps.asset, minted.1⟩, ?_⟩
  exact .finalized terms deposits redeems next (ledger.balanceOf w.vault.self).raw escrow.raw
    reserve.raw (idle.raw + unowned.raw + unattributed.raw) isOpen hNext settlement.outcome
    settlement.deposits settlement.redeems settlement.depositDust settlement.redeemDust
    (by show _ + w.vault.epochRedeemShares.raw = (w.vault.shares.balanceOf _).raw + _; omega)
    (by show _ + w.vault.epochDepositAssets.raw = w.vault.pendingDepositEscrow.raw; omega)
    hReserve
    (fun _ => by show _ ≤ (w.asset.balanceOf w.vault.self).raw; omega)

/-- Every accepted transaction the vault does not send itself keeps both ledgers exact. -/
theorem step_pays {call : Call} (keeps : Keeps w) (outside : msg.sender ≠ w.vault.self)
    (success : w.step hashing msg call = .ok w') : Pays w w' := by
  cases call with
  | asset data =>
      obtain ⟨_, called, rfl⟩ := withAsset_ok.mp success
      obtain ⟨kept, received⟩ := keeps.asset.outside outside called
      exact pays_asset keeps kept received
  | shareTransfer receiver value =>
      obtain ⟨_, moved, rfl⟩ := withShares_ok.mp success
      have moves := Shares.transfer_moves keeps.shares.backed moved
      exact pays_shares keeps (moves.kept keeps.shares) (moves.le_balance outside)
  | shareTransferFrom owner receiver value =>
      obtain ⟨_, moved, rfl⟩ := withShares_ok.mp success
      obtain ⟨kept, received⟩ := keeps.shares.transferFrom moved
      exact pays_shares keeps kept received
  | shareApprove spender value =>
      obtain ⟨_, moved, rfl⟩ := withShares_ok.mp success
      obtain ⟨kept, same⟩ := keeps.shares.approve outside moved
      exact pays_shares keeps kept (by rw [same])
  | requestDeposit assets =>
      obtain ⟨_, after, moved, rfl⟩ := withMoved_ok.mp success
      obtain ⟨list, requested, escrow, total, -, isOpen, -, -, unsettled, -, hRequested, hEscrow,
        hTotal, pulled, rfl⟩ := Vault.requestDeposit_ok moved
      have grows : ∀ before later, later = before + assets.raw →
          later + (w.vault.deposits.requestOf w.vault.currentEpochId msg.sender).amount.raw =
            before + requested.raw := by
        intro before later raised
        omega
      refine ⟨rfl, ⟨keeps.asset.pullExact pulled, keeps.shares⟩, ?_⟩
      exact .depositFiled msg.sender _ list _ _ _ isOpen unsettled unsettled
        (grows _ _ (Asset.pullExact_ok pulled).2) (grows _ _ hEscrow) (grows _ _ hTotal)
  | cancelDepositRequest =>
      obtain ⟨_, after, moved, rfl⟩ := withMoved_ok.mp success
      obtain ⟨list, _, _, _, -, isOpen, -, unsettled, -, -, -, hEscrow, hTotal, pushed, rfl⟩ :=
        Vault.cancelDepositRequest_ok moved
      refine ⟨rfl, ⟨(keeps.asset.pushExact pushed).1, keeps.shares⟩, ?_⟩
      exact .depositFiled msg.sender _ list _ _ _ isOpen unsettled unsettled
        (Asset.pushExact_ok pushed).2 hEscrow hTotal
  | requestRedeem shares =>
      obtain ⟨_, changed, rfl⟩ := withVault_ok.mp success
      obtain ⟨list, requested, _, ledger, -, isOpen, -, -, unsettled, -, hRequested, hTotal, moved,
        rfl⟩ := Vault.requestRedeem_ok changed
      have moves := Shares.transfer_moves keeps.shares.backed moved
      have exact := moves.exact w.vault.self
      rw [if_neg (Ne.symm outside), if_pos rfl] at exact
      have grows : ∀ before later, later = before + shares.raw →
          later + (w.vault.redeems.requestOf w.vault.currentEpochId msg.sender).amount.raw =
            before + requested.raw := by
        intro before later raised
        omega
      refine ⟨rfl, ⟨keeps.asset, moves.kept keeps.shares⟩, ?_⟩
      exact .redeemFiled msg.sender _ list _ _ isOpen unsettled unsettled (grows _ _ exact)
        (grows _ _ hTotal)
  | cancelRedeemRequest =>
      obtain ⟨_, changed, rfl⟩ := withVault_ok.mp success
      obtain ⟨list, _, _, ledger, -, isOpen, -, unsettled, -, -, -, hTotal, moved, rfl⟩ :=
        Vault.cancelRedeemRequest_ok changed
      have moves := Shares.transfer_moves keeps.shares.backed moved
      refine ⟨rfl, ⟨keeps.asset, moves.kept keeps.shares⟩, ?_⟩
      exact .redeemFiled msg.sender _ list _ _ isOpen unsettled unsettled (moves.paid outside)
        hTotal
  | cutoffEpoch =>
      obtain ⟨_, changed, rfl⟩ := withVault_ok.mp success
      obtain ⟨-, -, -, -, rfl⟩ := Vault.cutoffEpoch_ok changed
      exact pays_alike keeps ⟨rfl, rfl, fun _ => rfl⟩ rfl
  | finalizeEpoch =>
      obtain ⟨_, changed, rfl⟩ := withVault_ok.mp success
      exact finalizeEpoch_pays keeps changed
  | openNextEpoch =>
      obtain ⟨_, changed, rfl⟩ := withVault_ok.mp success
      obtain ⟨-, idle, opened⟩ := Vault.openNextEpoch_ok changed
      obtain ⟨_, next, -, hNext, rfl⟩ := Vault.openEpoch_ok opened
      exact ⟨rfl, ⟨keeps.asset, keeps.shares⟩, .opened next idle hNext⟩
  | abortEpoch =>
      obtain ⟨_, changed, rfl⟩ := withVault_ok.mp success
      obtain ⟨next, -, isOpen, -, hNext, rfl⟩ := Vault.abortEpoch_ok changed
      exact ⟨rfl, ⟨keeps.asset, keeps.shares⟩, .aborted _ next isOpen hNext rfl⟩
  | claimDeposit epochId =>
      obtain ⟨_, changed, rfl⟩ := withVault_ok.mp success
      obtain ⟨ledger, finalized, -, unsettled, nonzero, -, hMoved, rfl⟩ :=
        Vault.claimDeposit_ok changed
      have pending := Request.pending_iff.mpr ⟨unsettled, nonzero⟩
      have paid : ledger.Kept w.vault.self ∧ (ledger.balanceOf w.vault.self).raw +
          (w.vault.deposits.claimOf epochId msg.sender).raw =
            (w.vault.shares.balanceOf w.vault.self).raw := by
        obtain ⟨nothing, rfl⟩ | ⟨-, moved⟩ := unlessZero_ok hMoved
        · exact ⟨keeps.shares, by omega⟩
        · have moves := Shares.transfer_moves keeps.shares.backed moved
          exact ⟨moves.kept keeps.shares, moves.paid outside⟩
      exact ⟨rfl, ⟨keeps.asset, paid.1⟩, .depositClaimed epochId msg.sender _ finalized pending paid.2⟩
  | claimRedeem epochId =>
      obtain ⟨_, after, moved, rfl⟩ := withMoved_ok.mp success
      obtain ⟨_, finalized, -, unsettled, nonzero, hReserve, hAssets, hMoved, rfl⟩ :=
        Vault.claimRedeem_ok moved
      have pending := Request.pending_iff.mpr ⟨unsettled, nonzero⟩
      have kept : after.Kept w.vault.self := by
        obtain ⟨-, rfl⟩ | ⟨-, pushed⟩ := unlessZero_ok hMoved
        · exact keeps.asset
        · exact (keeps.asset.pushExact pushed).1
      exact ⟨rfl, ⟨kept, keeps.shares⟩,
        .redeemClaimed epochId msg.sender _ _ finalized pending hAssets hReserve⟩
  | refundDeposit epochId =>
      obtain ⟨_, after, moved, rfl⟩ := withMoved_ok.mp success
      obtain ⟨_, aborted, -, unsettled, nonzero, hEscrow, hAssets, pushed, rfl⟩ :=
        Vault.refundDeposit_ok moved
      have pending := Request.pending_iff.mpr ⟨unsettled, nonzero⟩
      exact ⟨rfl, ⟨(keeps.asset.pushExact pushed).1, keeps.shares⟩,
        .depositRefunded epochId msg.sender _ _ aborted pending hAssets hEscrow⟩
  | refundRedeem epochId =>
      obtain ⟨_, changed, rfl⟩ := withVault_ok.mp success
      obtain ⟨_, aborted, -, unsettled, nonzero, -, moved, rfl⟩ := Vault.refundRedeem_ok changed
      have pending := Request.pending_iff.mpr ⟨unsettled, nonzero⟩
      have moves := Shares.transfer_moves keeps.shares.backed moved
      exact ⟨rfl, ⟨keeps.asset, moves.kept keeps.shares⟩,
        .redeemRefunded epochId msg.sender _ aborted pending (moves.paid outside)⟩
  | pause =>
      obtain ⟨_, changed, rfl⟩ := withVault_ok.mp success
      obtain ⟨-, rfl⟩ := Vault.pause_ok changed
      exact pays_alike keeps ⟨rfl, rfl, fun _ => rfl⟩ rfl
  | unpause =>
      obtain ⟨_, changed, rfl⟩ := withVault_ok.mp success
      obtain ⟨-, rfl⟩ := Vault.unpause_ok changed
      exact pays_alike keeps ⟨rfl, rfl, fun _ => rfl⟩ rfl
  | freeze =>
      obtain ⟨_, changed, rfl⟩ := withVault_ok.mp success
      obtain ⟨-, rfl⟩ := Vault.freeze_ok changed
      exact pays_alike keeps ⟨rfl, rfl, fun _ => rfl⟩ rfl
  | observeInbound =>
      obtain ⟨_, changed, rfl⟩ := withVault_ok.mp success
      exact pays_surplus keeps changed
  | bindRemoteAccounting coordinator =>
      obtain ⟨_, changed, rfl⟩ := withVault_ok.mp success
      obtain ⟨-, rfl⟩ := Vault.bindRemoteAccounting_ok changed
      exact pays_alike keeps ⟨rfl, rfl, fun _ => rfl⟩ rfl
  | beginOutbound amount sink =>
      obtain ⟨_, _, moved, rfl⟩ := withMoved_ok.mp success
      exact pays_outbound keeps moved rfl rfl
  | completeAllocation amount reported =>
      obtain ⟨_, changed, rfl⟩ := withVault_ok.mp success
      exact pays_alike keeps (Vault.completeAllocation_alike changed) rfl
  | closeAllocation claim credited =>
      obtain ⟨_, changed, rfl⟩ := withVault_ok.mp success
      exact pays_alike keeps (Vault.closeAllocation_alike changed) rfl
  | recoverImpairment amount =>
      obtain ⟨_, changed, rfl⟩ := withVault_ok.mp success
      exact pays_alike keeps (Vault.recoverImpairment_alike changed) rfl
  | applyRemoteValuation reported =>
      obtain ⟨_, changed, rfl⟩ := withVault_ok.mp success
      exact pays_alike keeps (Vault.applyRemoteValuation_alike changed) rfl
  | beginRecall transferId amount =>
      obtain ⟨_, changed, rfl⟩ := withVault_ok.mp success
      exact pays_alike keeps (Vault.beginRecall_alike changed) rfl
  | applyRecallSent principal actual loss =>
      obtain ⟨_, changed, rfl⟩ := withVault_ok.mp success
      exact pays_alike keeps (Vault.applyRecallSent_alike changed) rfl
  | lockRemoteValuation epochId =>
      obtain ⟨_, changed, rfl⟩ := withVault_ok.mp success
      exact pays_alike keeps (Vault.lockRemoteValuation_alike changed) rfl
  | allocate transferId amount minimum deadline stamps =>
      obtain ⟨_, moved, -, -, -, -, -, -, -, -, -, -, -, -, -, -, hMoved, -, hVault, hAsset⟩ :=
        allocate_ok success
      exact pays_outbound keeps hMoved hVault hAsset
  | «recall» transferId amount minimum deadline stamps =>
      obtain ⟨_, _, -, -, -, -, -, -, -, -, -, -, -, -, -, -, hVault, -, hAsset⟩ := recall_ok success
      exact pays_alike keeps (Vault.beginRecall_alike hVault) hAsset
  | admitTransfer transferId stamps =>
      obtain ⟨_, -, -, -, -, -, -, hVault, hAsset⟩ := admit_ok success
      exact pays_alike keeps (hVault ▸ Vault.Alike.refl _) hAsset
  | close transferId stamps =>
      obtain ⟨_, -, -, -, -, -, -, -, hVault, hAsset⟩ := close_ok success
      exact pays_alike keeps (hVault ▸ Vault.Alike.refl _) hAsset
  | recover recoveryId stamps =>
      obtain ⟨_, -, -, -, -, -, -, -, hVault, hAsset⟩ := recover_ok success
      exact pays_alike keeps (hVault ▸ Vault.Alike.refl _) hAsset
  | processRemoteReport authentic header body =>
      obtain ⟨_, _, -, -, -, -, -, -, -, applied⟩ := processRemoteReport_iff.mp success
      obtain ⟨alike, hAsset⟩ := applyReport_alike applied
      exact pays_alike keeps alike hAsset
  | processRecallSent authentic header body =>
      obtain ⟨_, _, restored, -, -, -, -, -, -, -, -, -, -, -, -, hRestored, hVault, -, hAsset⟩ :=
        processRecallSent_iff.mp success
      have alike := (restoreBaseline_alike hRestored).trans (Vault.applyRecallSent_alike hVault)
      exact pays_alike keeps alike hAsset
  | processTransportSettlement authentic header body =>
      obtain ⟨_, -, -, -, -, -, -, -, hAsset, settled⟩ := processTransportSettlement_iff.mp success
      split at settled
      · obtain ⟨-, -, -, -, -, hVault, -⟩ := settled
        exact pays_alike keeps (Vault.closeAllocation_alike hVault) hAsset
      · obtain ⟨-, -, hVault, -⟩ := settled
        exact pays_alike keeps (Vault.recoverImpairment_alike hVault) hAsset

end World

/-- Ledgers stay exact and the purse stays covered. -/
structure Funded (vaultAddress : Address) (w : World) : Prop where
  self : w.vault.self = vaultAddress
  keeps : Keeps w
  purse : PurseInv w.purse

theorem Funded.step {hashing : Hashing} {vaultAddress : Address} {w w' : World} {msg : Msg}
    {call : Call} (outside : msg.sender ≠ vaultAddress)
    (success : w.step hashing msg call = .ok w') (funded : Funded vaultAddress w) :
    Funded vaultAddress w' := by
  rw [← funded.self] at outside
  have pays := World.step_pays funded.keeps outside success
  exact ⟨pays.self.trans funded.self, pays.keeps,
    funded.purse.step pays.purse (funded.purse.books.step (World.step_books success))⟩

theorem Funded.run {hashing : Hashing} {vaultAddress : Address} {start w : World}
    {calls : List (Msg × Call)} (outside : ∀ tx ∈ calls, tx.1.sender ≠ vaultAddress)
    (finished : Run.run (fun w tx => w.step hashing tx.1 tx.2) start calls = .ok w)
    (funded : Funded vaultAddress start) : Funded vaultAddress w := by
  refine Run.run_preserves_of (Funded vaultAddress) calls ?_ start finished funded
  intro tx member w w' success before
  exact before.step (outside tx member) success

/-- An empty vault owes nothing. -/
theorem Deployment.funded {d : Deployment} {w : World} (deployed : d.deploy = .ok w)
    (asset : d.asset.Kept d.vaultAddress) : Funded d.vaultAddress w := by
  have books := booksInv deployed
  obtain ⟨sameAsset, opened, -⟩ := deploy_ok deployed
  obtain ⟨_, next, -, hNext, hVault⟩ := Vault.openEpoch_ok opened
  have sameSelf : w.vault.self = d.vaultAddress := by
    rw [hVault]
    rfl
  refine ⟨sameSelf, ⟨?_, ?_⟩, ?_⟩
  · rw [sameAsset, sameSelf]
    exact asset
  · rw [hVault]
    exact Erc20.kept_empty _
  have requested : ∀ epochId, Requests.empty.requested epochId = 0 := fun _ =>
    Tally.tally_eq_zero fun _ => rfl
  have refundable : Requests.empty.refundable (fun _ => SettledEpoch.unset) = 0 :=
    Tally.tally_eq_zero fun _ => rfl
  have setAside : ∀ dust, Requests.empty.setAside (fun _ => SettledEpoch.unset) dust = 0 :=
    fun _ => Tally.tally_eq_zero fun _ => rfl
  have side : Requests.empty.Totalled w.vault.books 0 := by
    rw [hVault]
    exact ⟨(requested _).symm, fun _ _ _ => rfl, fun epochId _ => requested epochId⟩
  show PurseInv (w.vault.purse _)
  rw [hVault] at books side ⊢
  exact {
    books := books
    deposits := side
    redeems := side
    covered := Nat.zero_le _
    escrow := by
      show 0 = 0 + Requests.empty.refundable fun _ => SettledEpoch.unset
      rw [refundable]
    reserve := (setAside _).symm
    shares := by
      show 0 + Requests.empty.refundable (fun _ => SettledEpoch.unset) +
        Requests.empty.setAside (fun _ => SettledEpoch.unset) _ ≤ _
      rw [refundable, setAside]
      exact Nat.zero_le _ }

theorem Deployment.vaultAddress_named {d : Deployment} {w : World} (deployed : d.deploy = .ok w) :
    d.vaultAddress.raw ≠ 0 := by
  obtain ⟨-, -, created⟩ := deploy_ok deployed
  simp only [Coordinator.create, bind_eq_ok, rejectIf_eq_ok, exists_const, not_or,
    Unsigned.isZero_iff] at created
  exact created.1.1

/-- The vault accounts for no more than it holds, each bucket is what its requests are owed, and
every request still owed something can be paid: shares always, and assets, which are there, unless
the token itself refuses. -/
structure Solvent (hashing : Hashing) (w : World) : Prop where
  accounted : ∃ total, w.vault.accountedAssets = .ok total ∧
    total.raw ≤ (w.asset.balanceOf w.vault.self).raw
  noDeficit : w.vault.requireNoDeficit w.asset = .ok () ∧
    ∃ v, w.vault.recordSurplus w.asset = .ok v
  escrow : w.vault.pendingDepositEscrow.raw =
    w.vault.epochDepositAssets.raw + w.vault.deposits.refundable w.vault.settled
  reserve : w.vault.claimReserve.raw =
    w.vault.redeems.setAside w.vault.settled SettledEpoch.redeemDust
  shares : w.vault.epochRedeemShares.raw + w.vault.redeems.refundable w.vault.settled +
    w.vault.deposits.setAside w.vault.settled SettledEpoch.depositDust ≤
      (w.vault.shares.balanceOf w.vault.self).raw
  claims : ∀ (msg : Msg) (epochId : Uint64), msg.sender ≠ w.vault.self → msg.sender.raw ≠ 0 →
    (w.vault.settled epochId).outcome = .finalized →
    ((w.vault.deposits.requestOf epochId msg.sender).pending = true →
      ∃ w', w.step hashing msg (.claimDeposit epochId) = .ok w') ∧
    ((w.vault.redeems.requestOf epochId msg.sender).pending = true →
      (w.vault.redeems.claimOf epochId msg.sender).raw ≤ (w.asset.balanceOf w.vault.self).raw ∧
      (w.asset.Honours w.vault.self msg.sender (w.vault.redeems.claimOf epochId msg.sender) →
        ∃ w', w.step hashing msg (.claimRedeem epochId) = .ok w'))
  refunds : ∀ (msg : Msg) (epochId : Uint64), msg.sender ≠ w.vault.self → msg.sender.raw ≠ 0 →
    (w.vault.settled epochId).outcome = .aborted →
    ((w.vault.deposits.requestOf epochId msg.sender).pending = true →
      (w.vault.deposits.requestOf epochId msg.sender).amount.raw ≤
        (w.asset.balanceOf w.vault.self).raw ∧
      (w.asset.Honours w.vault.self msg.sender
          (w.vault.deposits.requestOf epochId msg.sender).amount →
        ∃ w', w.step hashing msg (.refundDeposit epochId) = .ok w')) ∧
    ((w.vault.redeems.requestOf epochId msg.sender).pending = true →
      ∃ w', w.step hashing msg (.refundRedeem epochId) = .ok w')

namespace Funded

variable {hashing : Hashing} {vaultAddress : Address} {w : World} {msg : Msg} {epochId : Uint64}

theorem accounted (funded : Funded vaultAddress w) : ∃ total, w.vault.accountedAssets = .ok total ∧
    total.raw ≤ (w.asset.balanceOf w.vault.self).raw := by
  have covered : w.vault.pendingDepositEscrow.raw + w.vault.claimReserve.raw +
      (w.vault.idleBacking.raw + w.vault.unattributedBalance.raw +
        w.vault.unattributedInbound.raw) ≤ (w.asset.balanceOf w.vault.self).raw :=
    funded.purse.covered
  have bound := (w.asset.balanceOf w.vault.self).bound
  refine ⟨⟨w.vault.pendingDepositEscrow.raw + w.vault.idleBacking.raw + w.vault.claimReserve.raw +
    w.vault.unattributedBalance.raw + w.vault.unattributedInbound.raw, by omega⟩,
    Vault.accountedAssets_ok.mpr rfl, ?_⟩
  dsimp only
  omega

theorem noDeficit (funded : Funded vaultAddress w) :
    w.vault.requireNoDeficit w.asset = .ok () ∧ ∃ v, w.vault.recordSurplus w.asset = .ok v := by
  obtain ⟨total, hTotal, within⟩ := funded.accounted
  have covered : ¬w.asset.balanceOf w.vault.self < total := Nat.not_lt.mpr within
  constructor
  · simp only [Vault.requireNoDeficit, bind_eq_ok, rejectIf_eq_ok]
    exact ⟨total, hTotal, covered⟩
  · have sum := Vault.accountedAssets_ok.mp hTotal
    have bound := (w.asset.balanceOf w.vault.self).bound
    obtain ⟨surplus, hSurplus⟩ := sub_succeeds within
    have exact := sub_ok.mp hSurplus
    simp only [Vault.recordSurplus, bind_eq_ok, rejectIf_eq_ok, exists_const]
    by_cases none : surplus.isZero = true
    · refine ⟨w.vault, total, hTotal, covered, surplus, hSurplus, ?_⟩
      rw [if_pos none]
      rfl
    · obtain ⟨v, attributed⟩ := Vault.attributeSurplus_succeeds (v := w.vault) surplus (by omega)
      refine ⟨v, total, hTotal, covered, surplus, hSurplus, ?_⟩
      rw [if_neg none]
      exact attributed

/-- A payable request passes the checks every payment starts with. -/
theorem payable {requests : Requests} {consumed : Revert} (sound : requests.Sound)
    (pending : (requests.requestOf epochId msg.sender).pending = true) :
    Vault.payable requests epochId msg.sender consumed =
      .ok (requests.requestOf epochId msg.sender) := by
  obtain ⟨unsettled, nonzero⟩ := Request.pending_iff.mp pending
  exact Vault.payable_ok.mpr ⟨rfl, sound.live epochId msg.sender nonzero, unsettled, nonzero⟩

theorem claimDeposit (funded : Funded vaultAddress w) (named : vaultAddress.raw ≠ 0)
    (caller : msg.sender.raw ≠ 0) (finalized : (w.vault.settled epochId).outcome = .finalized)
    (pending : (w.vault.deposits.requestOf epochId msg.sender).pending = true) :
    ∃ w', w.step hashing msg (.claimDeposit epochId) = .ok w' := by
  rw [← funded.self] at named
  have lowered := (Requests.owed_claim SettledEpoch.depositDust finalized pending).2
  have held : _ + w.vault.deposits.setAside w.vault.settled SettledEpoch.depositDust ≤
    (w.vault.shares.balanceOf w.vault.self).raw := funded.purse.shares
  have enough : (w.vault.deposits.claimOf epochId msg.sender).raw ≤
      (w.vault.shares.balanceOf w.vault.self).raw := by
    omega
  obtain ⟨ledger, hLedger⟩ := unlessZero_succeeds w.vault.shares
    fun _ => Shares.transfer_succeeds named caller enough
  have success : ∃ v, w.vault.claimDeposit msg epochId = .ok v := by
    simp only [Vault.claimDeposit, bind_eq_ok, rejectIf_eq_ok, exists_const, not_not]
    exact ⟨_, finalized, _, payable funded.purse.books.deposits pending, ledger, hLedger, rfl⟩
  obtain ⟨v, hVault⟩ := success
  exact ⟨_, World.withVault_ok.mpr ⟨v, hVault, rfl⟩⟩

theorem claimRedeem (funded : Funded vaultAddress w) (outside : msg.sender ≠ w.vault.self)
    (finalized : (w.vault.settled epochId).outcome = .finalized)
    (pending : (w.vault.redeems.requestOf epochId msg.sender).pending = true) :
    (w.vault.redeems.claimOf epochId msg.sender).raw ≤ (w.asset.balanceOf w.vault.self).raw ∧
    (w.asset.Honours w.vault.self msg.sender (w.vault.redeems.claimOf epochId msg.sender) →
      ∃ w', w.step hashing msg (.claimRedeem epochId) = .ok w') := by
  have lowered := (Requests.owed_claim SettledEpoch.redeemDust finalized pending).2
  have held : w.vault.claimReserve.raw =
    w.vault.redeems.setAside w.vault.settled SettledEpoch.redeemDust := funded.purse.reserve
  have covered : w.vault.pendingDepositEscrow.raw + w.vault.claimReserve.raw + _ ≤
    (w.asset.balanceOf w.vault.self).raw := funded.purse.covered
  have enough : (w.vault.redeems.claimOf epochId msg.sender).raw ≤ w.vault.claimReserve.raw := by
    omega
  refine ⟨Nat.le_trans enough (by omega), fun honours => ?_⟩
  obtain ⟨reserve, hReserve⟩ := sub_succeeds enough
  obtain ⟨asset, hAsset⟩ := unlessZero_succeeds w.asset fun something =>
    funded.keeps.asset.pushExact_succeeds outside (honours something)
  have success : ∃ moved, w.vault.claimRedeem w.asset msg epochId = .ok moved := by
    simp only [Vault.claimRedeem, bind_eq_ok, rejectIf_eq_ok, exists_const, not_not]
    exact ⟨_, finalized, _, payable funded.purse.books.redeems pending, reserve, hReserve, asset,
      hAsset, rfl⟩
  obtain ⟨moved, hMoved⟩ := success
  exact ⟨_, World.withMoved_ok.mpr ⟨moved.1, moved.2, hMoved, rfl⟩⟩

theorem refundDeposit (funded : Funded vaultAddress w) (outside : msg.sender ≠ w.vault.self)
    (aborted : (w.vault.settled epochId).outcome = .aborted)
    (pending : (w.vault.deposits.requestOf epochId msg.sender).pending = true) :
    (w.vault.deposits.requestOf epochId msg.sender).amount.raw ≤
      (w.asset.balanceOf w.vault.self).raw ∧
    (w.asset.Honours w.vault.self msg.sender
        (w.vault.deposits.requestOf epochId msg.sender).amount →
      ∃ w', w.step hashing msg (.refundDeposit epochId) = .ok w') := by
  have lowered := (Requests.owed_refund SettledEpoch.depositDust aborted pending).1
  have held : w.vault.pendingDepositEscrow.raw = w.vault.epochDepositAssets.raw +
    w.vault.deposits.refundable w.vault.settled := funded.purse.escrow
  have covered : w.vault.pendingDepositEscrow.raw + w.vault.claimReserve.raw + _ ≤
    (w.asset.balanceOf w.vault.self).raw := funded.purse.covered
  have enough : (w.vault.deposits.requestOf epochId msg.sender).amount.raw ≤
      w.vault.pendingDepositEscrow.raw := by
    omega
  refine ⟨Nat.le_trans enough (by omega), fun honours => ?_⟩
  obtain ⟨escrow, hEscrow⟩ := sub_succeeds enough
  obtain ⟨asset, hAsset⟩ := funded.keeps.asset.pushExact_succeeds outside
    (honours (Request.pending_iff.mp pending).2)
  have success : ∃ moved, w.vault.refundDeposit w.asset msg epochId = .ok moved := by
    simp only [Vault.refundDeposit, bind_eq_ok, rejectIf_eq_ok, exists_const, not_not]
    exact ⟨_, aborted, _, payable funded.purse.books.deposits pending, escrow, hEscrow, asset,
      hAsset, rfl⟩
  obtain ⟨moved, hMoved⟩ := success
  exact ⟨_, World.withMoved_ok.mpr ⟨moved.1, moved.2, hMoved, rfl⟩⟩

theorem refundRedeem (funded : Funded vaultAddress w) (named : vaultAddress.raw ≠ 0)
    (caller : msg.sender.raw ≠ 0) (aborted : (w.vault.settled epochId).outcome = .aborted)
    (pending : (w.vault.redeems.requestOf epochId msg.sender).pending = true) :
    ∃ w', w.step hashing msg (.refundRedeem epochId) = .ok w' := by
  rw [← funded.self] at named
  have lowered := (Requests.owed_refund SettledEpoch.redeemDust aborted pending).1
  have held : w.vault.epochRedeemShares.raw + w.vault.redeems.refundable w.vault.settled + _ ≤
    (w.vault.shares.balanceOf w.vault.self).raw := funded.purse.shares
  have enough : (w.vault.redeems.requestOf epochId msg.sender).amount.raw ≤
      (w.vault.shares.balanceOf w.vault.self).raw := by
    omega
  obtain ⟨ledger, hLedger⟩ := Shares.transfer_succeeds named caller enough
  have success : ∃ v, w.vault.refundRedeem msg epochId = .ok v := by
    simp only [Vault.refundRedeem, bind_eq_ok, rejectIf_eq_ok, exists_const, not_not]
    exact ⟨_, aborted, _, payable funded.purse.books.redeems pending, ledger, hLedger, rfl⟩
  obtain ⟨v, hVault⟩ := success
  exact ⟨_, World.withVault_ok.mpr ⟨v, hVault, rfl⟩⟩

theorem solvent (funded : Funded vaultAddress w) (named : vaultAddress.raw ≠ 0) :
    Solvent hashing w where
  accounted := funded.accounted
  noDeficit := funded.noDeficit
  escrow := funded.purse.escrow
  reserve := funded.purse.reserve
  shares := funded.purse.shares
  claims _ _ outside caller finalized :=
    ⟨funded.claimDeposit named caller finalized, funded.claimRedeem outside finalized⟩
  refunds _ _ outside caller aborted :=
    ⟨funded.refundDeposit outside aborted, funded.refundRedeem named caller aborted⟩

end Funded

/-- Whatever users, admin, guardian, coordinator and strangers do, the vault stays solvent. The
asset moves exactly what it is told to, nobody holds an allowance of the vault's, and the vault
makes no calls but its own. -/
theorem vault_solvent {hashing : Hashing} {d : Deployment} {start w : World}
    {calls : List (Msg × Call)} (deployed : d.deploy = .ok start)
    (asset : d.asset.Kept d.vaultAddress)
    (outside : ∀ tx ∈ calls, tx.1.sender ≠ d.vaultAddress)
    (finished : Run.run (fun w tx => w.step hashing tx.1 tx.2) start calls = .ok w) :
    Solvent hashing w := by
  have funded := Funded.run outside finished (Deployment.funded deployed asset)
  exact funded.solvent (Deployment.vaultAddress_named deployed)

section Sample

def sampleHolder : Address := 7

def sampleAdmin : Address := 1

/-- The holder owns a thousand and lets the vault take it. -/
def sampleLedger : Erc20 where
  totalSupply := 1000
  balanceOf := fun holder => if holder = sampleHolder then 1000 else .zero
  allowance := fun owner _ => if owner = sampleHolder then 1000 else .zero

def sampleAsset : Asset := .plain sampleLedger

def samplePlan : Deployment where
  vaultAddress := 100
  coordinatorAddress := 101
  underlying := 102
  authenticator := 103
  outboundSink := 104
  admin := sampleAdmin
  guardian := 3
  decimals := 6
  epochDuration := 100
  minDepositAssets := 1
  minRedeemShares := 1
  configVersion := 1
  identities := {
    evmChainId := 1
    solanaChainId := 2
    evmApplication := 11
    solanaApplication := 12
    deploymentId := 21
    vaultId := 22
    outboundLaneId := 31
    inboundLaneId := 32
    expectedDestinationReference := 41 }
  deployedAt := 0
  shares := .plain
  asset := sampleAsset

theorem sampleLedger_backed : sampleLedger.Backed := by
  have listed := Tally.tally_listed (List.nodup_singleton sampleHolder)
    (f := fun holder => (sampleLedger.balanceOf holder).raw) (by
      intro holder absent
      rw [List.mem_singleton] at absent
      show (if holder = sampleHolder then _ else Unsigned.zero).raw = 0
      rw [if_neg absent]
      rfl)
  exact Nat.le_of_eq listed

theorem sampleAsset_kept : sampleAsset.Kept samplePlan.vaultAddress where
  exact := ⟨_, AssetCode.plain_exact _, sampleLedger_backed⟩
  reserved _ := rfl

def sampleHash : Hashing where
  messageId message := .ofNat message.header.sequence.raw
  nextCommitment previous id := .ofNat (previous.raw + id.raw + 1)

/-- The holder deposits nine hundred and the epoch settles at its cutoff. -/
def sampleSettling : List (Msg × Call) :=
  [(⟨sampleHolder, .zero⟩, .requestDeposit 900),
    (⟨sampleAdmin, 100⟩, .cutoffEpoch),
    (⟨sampleAdmin, 100⟩, .finalizeEpoch)]

end Sample

/-- A settled deposit stands ready to be claimed. -/
theorem vault_solvent_settled : ∃ w w', Solvent sampleHash w ∧
    (w.vault.deposits.claimOf .zero sampleHolder).raw = 900 * 10 ^ 12 ∧
    w.step sampleHash ⟨sampleHolder, .zero⟩ (.claimDeposit .zero) = .ok w' := by
  have passes : (do
      let start ← samplePlan.deploy
      let w ← Run.run (fun w (tx : Msg × Call) => w.step sampleHash tx.1 tx.2) start sampleSettling
      pure (start, w) : Except Revert (World × World)).toOption.any (fun worlds =>
        decide ((worlds.2.vault.settled .zero).outcome = .finalized) &&
        (worlds.2.vault.deposits.requestOf .zero sampleHolder).pending &&
        decide (worlds.2.vault.self = samplePlan.vaultAddress) &&
        decide ((worlds.2.vault.deposits.claimOf .zero sampleHolder).raw = 900 * 10 ^ 12)) =
      true := by
    decide +kernel
  obtain ⟨⟨_, _⟩, finished, checks⟩ := ok_of_any passes
  simp only [bind_eq_ok, pure_eq_ok, Prod.mk.injEq] at finished
  obtain ⟨start, deployed, w, run, rfl, rfl⟩ := finished
  simp only [Bool.and_eq_true, decide_eq_true_eq] at checks
  obtain ⟨⟨⟨finalized, pending⟩, self⟩, claim⟩ := checks
  have outside : ∀ tx ∈ sampleSettling, tx.1.sender ≠ samplePlan.vaultAddress := by decide
  have solvent := vault_solvent deployed sampleAsset_kept outside run
  obtain ⟨w', paid⟩ := (solvent.claims ⟨sampleHolder, .zero⟩ .zero (by rw [self]; decide)
    (by decide) finalized).1 pending
  exact ⟨w, w', solvent, claim, paid⟩

end Evm
