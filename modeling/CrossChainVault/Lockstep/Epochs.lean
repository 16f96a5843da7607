import CrossChainVault.Lockstep.Requests
import CrossChainVault.Model.Backing
import CrossChainVault.Model.Shares

set_option autoImplicit false

/- The epoch slot and its settlement keep the relation. -/

namespace Lockstep

open AccountingModel (State Operation AccountId EpochId AssetAmount ShareAmount RequestMap RequestKey)
open Evm (World Vault Msg Call Address)
open Protocol Result

variable {book : AddressBook} {s s' : State} {w w' : World} {hashing : Hashing} {msg : Msg}

section Slot

variable {epoch : AccountingModel.Epoch}

theorem cutoffEpoch_related {now : AccountingModel.Timestamp} (related : Related book s w)
    (model : AccountingModel.cutoffEpoch s now = .ok s')
    (evm : w.step hashing msg .cutoffEpoch = .ok w') : Related book s' w' := by
  obtain ⟨epoch, -, found, -, -, rfl⟩ := AccountingModel.cutoffEpoch_ok model
  obtain ⟨_, changed, rfl⟩ := World.withVault_ok.mp evm
  obtain ⟨-, -, -, -, rfl⟩ := Vault.cutoffEpoch_ok changed
  exact { related with epoch := { related.opened found with phase := rfl } }

/-- The vault names the epoch it opens as the model does, twelve decimals apart. -/
theorem openNextEpoch_related (related : Related book s w)
    (model : AccountingModel.openNextEpoch s msg.timestamp = .ok s')
    (evm : w.step hashing msg .openNextEpoch = .ok w') : Related book s' w' := by
  obtain ⟨virtualShares, cutoffAt, -, none, -, hVirtual, hCutoff, rfl⟩ :=
    AccountingModel.openNextEpoch_ok model
  obtain ⟨_, changed, rfl⟩ := World.withVault_ok.mp evm
  obtain ⟨-, -, opened⟩ := Vault.openNextEpoch_ok changed
  obtain ⟨cutoffAt', next, hCutoff', hNext, rfl⟩ := Vault.openEpoch_ok opened
  obtain ⟨-, nextId⟩ := related.idle none
  have decimals : virtualShares.raw = 10 ^ 12 := by
    rw [(AccountingModel.virtualSharesFor_ok hVirtual).2, related.assetDecimals,
      related.shareDecimals]
  have sameCutoff : cutoffAt' = cutoffAt := by
    apply Unsigned.ext
    rw [hCutoff, hCutoff', related.duration]
  exact { related with
    epoch := {
      isOpen := rfl
      phase := rfl
      id := nextId
      openedAt := rfl
      cutoffAt := sameCutoff
      next := by rw [← nextId]; exact hNext
      depositAssets := rfl
      redeemShares := rfl
      version := rfl
      virtualAssets := rfl
      virtualShares := decimals } }

/-- A settled epoch and its outcome on both sides. -/
theorem Related.settledUpdate (related : Related book s w) (id : EpochId)
    (outcome : AccountingModel.EpochOutcome) {terms : Evm.SettledEpoch}
    (same : SameOutcome (some outcome) terms) (other : EpochId) :
    SameOutcome (s.epochs.insert id outcome)[other]?
      (Function.update w.vault.settled id terms other) := by
  rw [OrderedMap.getElem?_insert, Function.update_apply]
  by_cases here : other = id
  · rw [if_pos here, if_pos here.symm]
    exact same
  · rw [if_neg here, if_neg (Ne.symm here)]
    exact related.settled other

theorem abortEpoch_related {actor : AccountId} (related : Related book s w)
    (model : AccountingModel.abortEpoch s actor = .ok s')
    (evm : w.step hashing msg .abortEpoch = .ok w') : Related book s' w' := by
  obtain ⟨epoch, next, -, found, -, -, hNext, rfl⟩ := AccountingModel.abortEpoch_ok model
  obtain ⟨_, changed, rfl⟩ := World.withVault_ok.mp evm
  obtain ⟨next', -, -, -, hNext', rfl⟩ := Vault.abortEpoch_ok changed
  have slot := related.opened found
  have current := related.currentId found
  have sameNext : next' = next := by
    apply Unsigned.ext
    rw [hNext, hNext', current]
  have version : w.vault.configVersion = epoch.configVersion := by
    rw [slot.version, related.version]
  have cutoff : w.vault.currentEpochCutoffAt = epoch.cutoffAt := slot.cutoffAt
  exact { related with
    epoch := ⟨rfl, sameNext⟩
    settled := by
      show ∀ id, SameOutcome _ (Function.update w.vault.settled w.vault.currentEpochId _ id)
      rw [current]
      exact related.settledUpdate epoch.id (.aborted _)
        ⟨rfl, version, cutoff, slot.depositAssets, slot.redeemShares⟩ }

end Slot

section Settlement

/-- The claims of the listed controllers add up to what the model's requests are owed. -/
theorem SameRequests.owed {model : RequestMap} {requests : Evm.Requests}
    (same : SameRequests book model requests.requestOf) (sound : requests.Sound) (epoch : EpochId)
    (rate : Rate) (claim : Address → Nat)
    (priced : ∀ controller ∈ (requests.controllers epoch).entries,
      claim controller = rate.floor (requests.requestOf epoch controller).amount.raw) :
    model.sumIn epoch (AccountingModel.Request.activePrice rate) =
      ((requests.controllers epoch).entries.map claim).sum := by
  have record : ∀ (account : AccountId) (request : AccountingModel.Request),
      model[(⟨epoch, account⟩ : RequestKey)]? = some request →
      SameRequest request (requests.requestOf epoch (book.addressOf account)) := by
    intro account request found
    have records := same.same epoch account
    rw [found] at records
    exact records
  apply OrderedMap.sumOf_eq_sum_names model _ (fun key request =>
    decide (key.epoch = epoch) && request.isActive) (fun key => book.addressOf key.account)
  · exact (sound.wellFormed epoch).nodup
  · intro key request _ unselected
    by_cases here : key.epoch = epoch
    · have inactive : request.isActive = false := by simpa [here] using unselected
      simp [AccountingModel.Request.activePrice, inactive]
    · rw [if_neg here]
  · rintro ⟨id, account⟩ request found selected
    rw [Bool.and_eq_true, decide_eq_true_eq] at selected
    obtain ⟨rfl, active⟩ := selected
    have records := record account request found
    have nonzero : request.amount.raw ≠ 0 := by
      simp only [AccountingModel.Request.isActive, Bool.and_eq_true, Bool.not_eq_true',
        Unsigned.isZero_eq_false] at active
      exact active.2
    have listed : book.addressOf account ∈ (requests.controllers id).entries := by
      rw [sound.listed, records.amount]
      exact nonzero
    refine ⟨listed, ?_⟩
    dsimp only
    rw [priced _ listed, records.amount, if_pos rfl, AccountingModel.Request.activePrice,
      if_pos active]
  · intro controller listed
    have nonzero := (sound.listed epoch controller).mp listed
    have known : ∃ account, book.addressOf account = controller := by
      by_contra unknown
      rw [same.others epoch controller (by simpa using unknown)] at nonzero
      exact nonzero rfl
    obtain ⟨account, rfl⟩ := known
    have live := sound.live epoch _ nonzero
    cases found : model[(⟨epoch, account⟩ : RequestKey)]? with
    | none =>
        have records := same.same epoch account
        rw [found] at records
        exact absurd records.amount nonzero
    | some request =>
        have records := record account request found
        rw [records.amount] at nonzero
        rw [records.cancelled] at live
        refine ⟨⟨epoch, account⟩, request, found, ?_, rfl⟩
        simp [AccountingModel.Request.isActive, live, nonzero]
  · rintro ⟨id, account⟩ request ⟨other, holder⟩ record _ selected _ selected' sameAddress
    rw [Bool.and_eq_true, decide_eq_true_eq] at selected selected'
    have sameEpoch : id = other := selected.1.trans selected'.1.symm
    have sameAccount : account = holder := book.distinct sameAddress
    rw [sameEpoch, sameAccount]

/-- Nothing unrecorded waits at the vault, so recording the surplus changes nothing. -/
theorem Related.recordSurplus (related : Related book s w) {recorded : Vault}
    (success : w.vault.recordSurplus w.asset = .ok recorded) : recorded = w.vault := by
  obtain ⟨surplus, inbound, idle, unattributed, balance, hSurplus, hInbound, hIdle, hUnattributed,
    hBalance, rfl⟩ := Vault.recordSurplus_ok success
  have nothing : surplus = 0 := by
    have held := related.funded
    rw [← related.pendingDepositEscrow, ← related.idleBacking, ← related.claimReserve,
      ← related.unattributedBalance, ← related.unattributedInbound] at held
    omega
  have sameInbound : inbound = w.vault.inboundInTransit := Unsigned.ext (by omega)
  have sameIdle : idle = w.vault.idleBacking := Unsigned.ext (by omega)
  have sameUnattributed : unattributed = w.vault.unattributedInbound := by
    apply Unsigned.ext
    rw [hUnattributed]
    split <;> omega
  have sameBalance : balance = w.vault.unattributedBalance := by
    apply Unsigned.ext
    rw [hBalance]
    split <;> omega
  rw [sameInbound, sameIdle, sameUnattributed, sameBalance]

theorem Related.hasRemoteExposure (related : Related book s w) :
    w.vault.hasRemoteExposure = s.hasRemoteExposure := by
  have zero : ∀ {a b : Nat} {x : Unsigned a} {y : Unsigned b}, x.raw = y.raw →
      x.isZero = y.isZero := by
    intro a b x y same
    rw [Bool.eq_iff_iff, Unsigned.isZero_iff, Unsigned.isZero_iff, same]
  unfold Vault.hasRemoteExposure State.hasRemoteExposure
  rw [zero related.outboundInTransit, zero related.acceptedRemoteValue,
    zero related.inboundInTransit, zero related.remotePrincipalCap,
    zero related.pendingRecallPrincipal]

/-- Both sides price the epoch on the same assets. With a locked valuation and nothing remote
left the model falls back to idle assets and the vault does not, so the lock must still be in
use. -/
theorem Related.settlementAssets (related : Related book s w) (assets : AccountingModel.AssetInv s)
    {epoch : AccountingModel.Epoch} (found : s.epoch = some epoch)
    (used : w.locked = true → w.vault.hasRemoteExposure = true)
    {basis : AccountingModel.PricingBasis} {total : Evm.Uint256}
    (model : AccountingModel.settlementBasis s epoch = .ok basis)
    (evm : w.vault.pricingAssets = .ok total) : total.raw = basis.totalAssets.raw := by
  have current := related.currentId found
  have locks := related.locks epoch.id
  rw [← current] at locks
  unfold Vault.pricingAssets at evm
  obtain ⟨-, ⟨exposed, lock⟩ | ⟨unexposed, live⟩⟩ := AccountingModel.settlementBasis_ok model
  · rw [current, lock] at locks
    rw [if_pos (by rw [current]; exact locks.1), pure_eq_ok, current] at evm
    rw [← evm]
    exact locks.2
  · have unlocked : w.vault.epochRemoteValuationLocked w.vault.currentEpochId = false := by
      by_contra locked
      have remains := used (by simpa [World.locked] using locked)
      rw [related.hasRemoteExposure, unexposed] at remains
      cases remains
    rw [if_neg (by simp [unlocked]), related.hasRemoteExposure, unexposed, if_neg (by simp),
      pure_eq_ok] at evm
    rw [← evm, live, AccountingModel.State.managedNav_of_unexposed assets unexposed]
    exact related.idleBacking

/-- Burning and minting leave the supply the model computes. -/
theorem supply_settled {v : Vault} {terms : Evm.SettledEpoch}
    {shareClaims assetClaims : Evm.Requests × Evm.Uint256} {ledger : Evm.Shares}
    (settlement : Vault.Settlement v terms shareClaims assetClaims ledger)
    (covered : terms.redeemShares.raw ≤ v.shares.totalSupply.raw) :
    ledger.totalSupply.raw + terms.redeemShares.raw =
      v.shares.totalSupply.raw + terms.mintedShares.raw := by
  obtain ⟨burned, hBurned, hMinted⟩ := settlement.minted
  have burnedSupply : burned.totalSupply.raw + terms.redeemShares.raw =
      v.shares.totalSupply.raw := by
    obtain ⟨zero, rfl⟩ | ⟨-, success⟩ := Evm.unlessZero_ok hBurned
    · omega
    · exact Evm.Shares.burn_totalSupply success covered
  obtain ⟨zero, rfl⟩ | ⟨-, success⟩ := Evm.unlessZero_ok hMinted
  · omega
  · have := Evm.Shares.mint_totalSupply success
    omega

theorem finalizeEpoch_related (related : Related book s w) (reachable : AccountingModel.Reachable s)
    (books : Evm.BooksInv w.vault.books)
    (used : w.locked = true → w.vault.hasRemoteExposure = true)
    (model : AccountingModel.finalizeEpoch s = .ok s')
    (evm : w.step hashing msg .finalizeEpoch = .ok w') : Related book s' w' := by
  obtain ⟨epoch, terms, owed, idle, escrow, reserve, supply, claimable, escrowed, burned, next, -,
    found, -, -, priced, hIdle, -, hEscrow, hReserve, hSupply, -, hEscrowed, -, hNext, rfl⟩ :=
    AccountingModel.finalizeEpoch_ok model
  obtain ⟨_, changed, rfl⟩ := World.withVault_ok.mp evm
  obtain ⟨recorded, terms', deposits, redeems, ledger, idle', escrow', reserve', next', -, -, -, -,
    hRecorded, settlement, hIdle', -, hEscrow', hReserve', hNext', rfl⟩ :=
    Vault.finalizeEpoch_ok changed
  obtain rfl := related.recordSurplus hRecorded
  have slot := related.opened found
  have current := related.currentId found
  -- The price.
  have basis : SameBasis terms.basis terms' := {
    totalAssets := related.settlementAssets reachable.assetInv found used priced.basis
      settlement.totalAssets
    totalSupply := by
      rw [settlement.totalSupply, (AccountingModel.settlementBasis_ok priced.basis).1]
      exact related.supply
    virtualAssets := by
      rw [(AccountingModel.settlementBasis_ok priced.basis).1]
      exact slot.virtualAssets
    virtualShares := by
      rw [(AccountingModel.settlementBasis_ok priced.basis).1]
      exact slot.virtualShares }
  have depositAssets : terms'.depositAssets.raw = terms.depositAssets.raw := by
    rw [settlement.depositAssets, priced.depositAssets]
    exact slot.depositAssets
  have redeemShares : terms'.redeemShares.raw = terms.redeemShares.raw := by
    rw [settlement.redeemShares, priced.redeemShares]
    exact slot.redeemShares
  have mintedShares : terms'.mintedShares.raw = terms.mintedShares.raw :=
    basis.sharesFor priced.mintedShares settlement.mintedShares depositAssets
  have redeemAssets : terms'.redeemAssets.raw = terms.redeemAssets.raw :=
    basis.assetsFor priced.redeemAssets settlement.redeemAssets redeemShares
  -- The dust.
  have depositOwed : deposits.2.raw = owed.depositShares.raw := by
    obtain ⟨-, -, claims, -, total⟩ := Evm.Requests.priceClaims_ok books.deposits settlement.deposits
    rw [priced.depositOwed, total, ← current]
    symm
    apply related.deposits.owed books.deposits
    intro controller listed
    exact basis.sharesFor_raw (claims controller listed)
  have redeemOwed : redeems.2.raw = owed.redeemAssets.raw := by
    obtain ⟨-, -, claims, -, total⟩ := Evm.Requests.priceClaims_ok books.redeems settlement.redeems
    rw [priced.redeemOwed, total, ← current]
    symm
    apply related.redeems.owed books.redeems
    intro controller listed
    exact basis.assetsFor_raw (claims controller listed)
  have depositDust := settlement.depositDust
  have redeemDust := settlement.redeemDust
  have depositDustModel := priced.depositDust
  have redeemDustModel := priced.redeemDust
  have same : SameTerms terms terms' := {
    outcome := settlement.outcome
    configVersion := by
      rw [settlement.configVersion, priced.configVersion, slot.version, related.version]
    cutoffAt := by
      rw [settlement.cutoffAt, priced.cutoffAt]
      exact slot.cutoffAt
    totalAssets := basis.totalAssets
    totalSupply := basis.totalSupply
    depositAssets := depositAssets
    mintedShares := mintedShares
    redeemShares := redeemShares
    redeemAssets := redeemAssets
    depositDust := by omega
    redeemDust := by omega
    virtualAssets := basis.virtualAssets
    virtualShares := basis.virtualShares }
  -- The buckets and the supply.
  have held := related.funded
  have idleBefore := related.idleBacking
  have escrowBefore := related.pendingDepositEscrow
  have reserveBefore := related.claimReserve
  have supplyBefore := related.supply
  have pendingDeposits := priced.depositAssets
  have pendingRedeems := priced.redeemShares
  have shares := reachable.sharesInv.owned
  have covered : terms'.redeemShares.raw ≤ w.vault.shares.totalSupply.raw := by
    rw [pendingRedeems] at redeemShares
    omega
  have supplyAfter := supply_settled settlement covered
  rw [pendingDeposits] at depositAssets
  rw [pendingRedeems] at redeemShares
  exact { related with
    pendingDepositEscrow := by show escrow'.raw = escrow.raw; omega
    idleBacking := by show idle'.raw = idle.raw; omega
    claimReserve := by show reserve'.raw = reserve.raw; omega
    supply := by show ledger.totalSupply.raw = supply.raw; omega
    funded := by
      show (w.asset.balanceOf w.vault.self).raw = _
      dsimp only
      omega
    epoch := ⟨rfl, by apply Unsigned.ext; show next'.raw = next.raw; rw [hNext, hNext', current]⟩
    deposits := by
      show SameRequests book s.depositRequests deposits.1.requestOf
      rw [(Evm.Requests.priceClaims_ok books.deposits settlement.deposits).1]
      exact related.deposits
    redeems := by
      show SameRequests book s.redeemRequests redeems.1.requestOf
      rw [(Evm.Requests.priceClaims_ok books.redeems settlement.redeems).1]
      exact related.redeems
    settled := by
      show ∀ id, SameOutcome _ (Function.update w.vault.settled w.vault.currentEpochId terms' id)
      rw [current]
      exact related.settledUpdate epoch.id (.finalized terms) same }

end Settlement

end Lockstep
