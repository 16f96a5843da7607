import CrossChainVault.Base.FloorSum
import CrossChainVault.Lockstep.Relation

set_option autoImplicit false

/- Requests, cancellations, claims, refunds and the vault status keep the relation. -/

namespace Lockstep

open AccountingModel (State Operation AccountId EpochId AssetAmount ShareAmount RequestMap RequestKey)
open Evm (World Vault Msg Call Address)
open Protocol Result

variable {book : AddressBook} {s s' : State} {w w' : World} {hashing : Hashing} {msg : Msg}

/-- One record changes on each side. -/
theorem SameRequests.update {model : RequestMap} {requestOf after : Evm.Uint64 → Address → Evm.Request}
    (same : SameRequests book model requestOf) {epoch : EpochId} {account : AccountId}
    {request : AccountingModel.Request} {filed : Evm.Request} (records : SameRequest request filed)
    (updated : ∀ other holder, after other holder =
      if other = epoch ∧ holder = book.addressOf account then filed else requestOf other holder) :
    SameRequests book (model.insert ⟨epoch, account⟩ request) after where
  same other holder := by
    rw [updated, OrderedMap.getElem?_insert]
    by_cases here : other = epoch ∧ holder = account
    · obtain ⟨rfl, rfl⟩ := here
      simpa using records
    · have keys : (⟨epoch, account⟩ : RequestKey) ≠ ⟨other, holder⟩ := by
        intro equal
        cases equal
        exact here ⟨rfl, rfl⟩
      have elsewhere : ¬(other = epoch ∧ book.addressOf holder = book.addressOf account) := by
        rintro ⟨sameEpoch, sameAddress⟩
        exact here ⟨sameEpoch, book.distinct sameAddress⟩
      rw [if_neg keys, if_neg elsewhere]
      exact same.same other holder
  others other holder outside := by
    rw [updated, if_neg]
    · exact same.others other holder outside
    · rintro ⟨-, rfl⟩
      exact outside account rfl

/-- A filed record answers the inserted one. -/
theorem SameRequests.file {model : RequestMap} {requests : Evm.Requests}
    (same : SameRequests book model requests.requestOf) {epoch : EpochId} {account : AccountId}
    {request : AccountingModel.Request} {filed : Evm.Request} {list : Registry Address}
    (records : SameRequest request filed) :
    SameRequests book (model.insert ⟨epoch, account⟩ request)
      (requests.file epoch (book.addressOf account) filed list).requestOf :=
  same.update records fun _ _ => Evm.Requests.file_requestOf

/-- A settled record answers the claimed one. -/
theorem SameRequests.settle {model : RequestMap} {requests : Evm.Requests}
    (same : SameRequests book model requests.requestOf) {epoch : EpochId} {account : AccountId}
    {request : AccountingModel.Request} (found : model[(⟨epoch, account⟩ : RequestKey)]? = some request) :
    SameRequests book (model.insert ⟨epoch, account⟩ { request with claimed := true })
      (requests.settle epoch (book.addressOf account)).requestOf := by
  have record := same.same epoch account
  rw [found] at record
  have after : SameRequest { request with claimed := true }
      { requests.requestOf epoch (book.addressOf account) with settled := true } :=
    ⟨record.amount, record.cancelledAmount, record.cancelled, rfl⟩
  exact same.update after fun _ _ => Evm.setAt_apply ..

namespace Related

variable {epoch : AccountingModel.Epoch}

theorem opened (related : Related book s w) (found : s.epoch = some epoch) :
    SameEpoch epoch s.config.version (slotOf w.vault) := by
  have same := related.epoch
  rw [found] at same
  exact same

theorem idle (related : Related book s w) (none : s.epoch = none) :
    w.vault.epochOpen = false ∧ w.vault.nextEpochId = s.nextEpochId := by
  have same := related.epoch
  rw [none] at same
  exact same

theorem currentId (related : Related book s w) (found : s.epoch = some epoch) :
    w.vault.currentEpochId = epoch.id :=
  (related.opened found).id

end Related

section Requests

variable {account : AccountId} {amount : Unsigned 128} {now : Evm.Uint64}

theorem requestDeposit_related (related : Related book s w)
    (model : AccountingModel.requestDeposit s account amount = .ok s')
    (evm : w.step hashing ⟨book.addressOf account, now⟩ (.requestDeposit (Evm.toUint256 amount)) =
      .ok w') : Related book s' w' := by
  obtain ⟨epoch, remaining, escrow, total, requested, -, found, -, -, -, -, -, hEscrow, hTotal,
    hRequested, rfl⟩ := AccountingModel.requestDeposit_iff.mp model
  obtain ⟨_, _, moved, rfl⟩ := World.withMoved_ok.mp evm
  obtain ⟨list, requested', escrow', total', -, -, -, -, -, -, hRequested', hEscrow', hTotal',
    pulled, rfl⟩ := Vault.requestDeposit_ok moved
  have slot := related.opened found
  have current := related.currentId found
  have record := related.deposits.same epoch.id account
  rw [current] at hRequested'
  have balance := (Evm.Asset.pullExact_ok pulled).2
  have held := related.funded
  have escrowed := related.pendingDepositEscrow
  have pending : w.vault.epochDepositAssets.raw = epoch.pendingDepositAssets.raw :=
    slot.depositAssets
  have before := record.amount
  simp only [Evm.toUint256_raw] at hRequested' hEscrow' hTotal' balance
  exact { related with
    pendingDepositEscrow := by dsimp only; omega
    funded := by dsimp only; omega
    epoch := { slot with depositAssets := by dsimp only [slotOf]; omega }
    deposits := by
      rw [current]
      exact related.deposits.file ⟨by dsimp only; omega, record.cancelledAmount, rfl, record.settled⟩ }

theorem cancelDeposit_related (related : Related book s w)
    (model : AccountingModel.cancelDeposit s account = .ok s')
    (evm : w.step hashing ⟨book.addressOf account, now⟩ .cancelDepositRequest = .ok w') :
    Related book s' w' := by
  obtain ⟨epoch, request, escrow, total, returned, cancelled, -, found, -, recorded, -, -, -,
    hEscrow, hTotal, -, hCancelled, rfl⟩ := AccountingModel.cancelDeposit_iff.mp model
  obtain ⟨_, _, moved, rfl⟩ := World.withMoved_ok.mp evm
  obtain ⟨list, cancelled', escrow', total', -, -, -, -, -, -, hCancelled', hEscrow', hTotal',
    pushed, rfl⟩ := Vault.cancelDepositRequest_ok moved
  have slot := related.opened found
  have current := related.currentId found
  have record := related.deposits.same epoch.id account
  rw [recorded] at record
  rw [current] at hCancelled' hEscrow' hTotal' pushed
  have balance := (Evm.Asset.pushExact_ok pushed).2
  have held := related.funded
  have escrowed := related.pendingDepositEscrow
  have pending : w.vault.epochDepositAssets.raw = epoch.pendingDepositAssets.raw :=
    slot.depositAssets
  have before : (w.vault.deposits.requestOf epoch.id (book.addressOf account)).amount.raw =
    request.amount.raw := record.amount
  have cancelledBefore :
      (w.vault.deposits.requestOf epoch.id (book.addressOf account)).cancelledAmount.raw =
        request.cancelledAmount.raw := record.cancelledAmount
  dsimp only at hCancelled' hEscrow' hTotal' balance
  exact { related with
    pendingDepositEscrow := by dsimp only; omega
    funded := by dsimp only; omega
    epoch := { slot with depositAssets := by dsimp only [slotOf]; omega }
    deposits := by
      rw [current]
      exact related.deposits.file ⟨rfl, by dsimp only; omega, rfl, record.settled⟩ }

theorem requestRedeem_related (related : Related book s w)
    (model : AccountingModel.requestRedeem s account amount = .ok s')
    (evm : w.step hashing ⟨book.addressOf account, now⟩ (.requestRedeem (Evm.toUint256 amount)) =
      .ok w') : Related book s' w' := by
  obtain ⟨epoch, remaining, escrowed, total, requested, -, found, -, -, -, -, -, -, hTotal,
    hRequested, rfl⟩ := AccountingModel.requestRedeem_iff.mp model
  obtain ⟨_, changed, rfl⟩ := World.withVault_ok.mp evm
  obtain ⟨list, requested', total', ledger, -, -, -, -, -, -, hRequested', hTotal', transferred,
    rfl⟩ := Vault.requestRedeem_ok changed
  have slot := related.opened found
  have current := related.currentId found
  have record := related.redeems.same epoch.id account
  rw [current] at hRequested'
  have pending : w.vault.epochRedeemShares.raw = epoch.pendingRedeemShares.raw :=
    slot.redeemShares
  have before := record.amount
  simp only [Evm.toUint256_raw] at hRequested' hTotal'
  exact { related with
    supply := by
      show ledger.totalSupply.raw = _
      rw [Evm.Shares.transfer_totalSupply transferred]
      exact related.supply
    epoch := { slot with redeemShares := by dsimp only [slotOf]; omega }
    redeems := by
      rw [current]
      exact related.redeems.file ⟨by dsimp only; omega, record.cancelledAmount, rfl, record.settled⟩ }

theorem cancelRedeem_related (related : Related book s w)
    (model : AccountingModel.cancelRedeem s account = .ok s')
    (evm : w.step hashing ⟨book.addressOf account, now⟩ .cancelRedeemRequest = .ok w') :
    Related book s' w' := by
  obtain ⟨epoch, request, escrowed, total, returned, cancelled, -, found, -, recorded, -, -, -, -,
    hTotal, -, hCancelled, rfl⟩ := AccountingModel.cancelRedeem_iff.mp model
  obtain ⟨_, changed, rfl⟩ := World.withVault_ok.mp evm
  obtain ⟨list, cancelled', total', ledger, -, -, -, -, -, -, hCancelled', hTotal', transferred,
    rfl⟩ := Vault.cancelRedeemRequest_ok changed
  have slot := related.opened found
  have current := related.currentId found
  have record := related.redeems.same epoch.id account
  rw [recorded] at record
  rw [current] at hCancelled' hTotal'
  have pending : w.vault.epochRedeemShares.raw = epoch.pendingRedeemShares.raw :=
    slot.redeemShares
  have before : (w.vault.redeems.requestOf epoch.id (book.addressOf account)).amount.raw =
    request.amount.raw := record.amount
  have cancelledBefore :
      (w.vault.redeems.requestOf epoch.id (book.addressOf account)).cancelledAmount.raw =
        request.cancelledAmount.raw := record.cancelledAmount
  dsimp only at hCancelled' hTotal'
  exact { related with
    supply := by
      show ledger.totalSupply.raw = _
      rw [Evm.Shares.transfer_totalSupply transferred]
      exact related.supply
    epoch := { slot with redeemShares := by dsimp only [slotOf]; omega }
    redeems := by
      rw [current]
      exact related.redeems.file ⟨rfl, by dsimp only; omega, rfl, record.settled⟩ }

end Requests

section Prices

/-- The four numbers a price is made of. -/
structure SameBasis (basis : AccountingModel.PricingBasis) (settled : Evm.SettledEpoch) : Prop where
  totalAssets : settled.totalAssets.raw = basis.totalAssets.raw
  totalSupply : settled.totalSupply.raw = basis.totalSupply.raw
  virtualAssets : basis.virtualAssets.raw = Evm.VaultMath.virtualAssets.raw
  virtualShares : basis.virtualShares.raw = Evm.VaultMath.virtualShares.raw

theorem SameTerms.basis {terms : AccountingModel.EpochTerms} {settled : Evm.SettledEpoch}
    (same : SameTerms terms settled) : SameBasis terms.basis settled :=
  ⟨same.totalAssets, same.totalSupply, same.virtualAssets, same.virtualShares⟩

variable {basis : AccountingModel.PricingBasis} {settled : Evm.SettledEpoch}
  {input output : Unsigned 128} {amount price : Evm.Uint256}

/-- The vault's price of an amount is the floor the model computes at the same basis. -/
theorem SameBasis.sharesFor_raw (same : SameBasis basis settled)
    (evm : settled.sharesFor amount = .ok price) :
    price.raw = (⟨basis.wideShares, basis.wideAssets⟩ : Rate).floor amount.raw := by
  simp only [Evm.SettledEpoch.sharesFor, Evm.VaultMath.assetsToShares, bind_eq_ok, Evm.add_ok,
    Evm.VaultMath.mulDiv_ok] at evm
  obtain ⟨shareSide, hShare, assetSide, hAsset, -, hPrice⟩ := evm
  rw [hPrice, hShare, hAsset, same.totalAssets, same.totalSupply, ← same.virtualAssets,
    ← same.virtualShares]
  rfl

theorem SameBasis.assetsFor_raw (same : SameBasis basis settled)
    (evm : settled.assetsFor amount = .ok price) :
    price.raw = (⟨basis.wideAssets, basis.wideShares⟩ : Rate).floor amount.raw := by
  simp only [Evm.SettledEpoch.assetsFor, Evm.VaultMath.sharesToAssets, bind_eq_ok, Evm.add_ok,
    Evm.VaultMath.mulDiv_ok] at evm
  obtain ⟨assetSide, hAsset, shareSide, hShare, -, hPrice⟩ := evm
  rw [hPrice, hShare, hAsset, same.totalAssets, same.totalSupply, ← same.virtualAssets,
    ← same.virtualShares]
  rfl

theorem SameBasis.sharesFor (same : SameBasis basis settled)
    (model : AccountingModel.assetsToShares input basis = .ok output)
    (evm : settled.sharesFor amount = .ok price) (given : amount.raw = input.raw) :
    price.raw = output.raw := by
  rw [same.sharesFor_raw evm, (AccountingModel.assetsToShares_ok.mp model).2.2.2, given]
  rfl

theorem SameBasis.assetsFor (same : SameBasis basis settled)
    (model : AccountingModel.sharesToAssets input basis = .ok output)
    (evm : settled.assetsFor amount = .ok price) (given : amount.raw = input.raw) :
    price.raw = output.raw := by
  rw [same.assetsFor_raw evm, (AccountingModel.sharesToAssets_ok.mp model).2.2.2, given]
  rfl

end Prices

section Claims

variable {account : AccountId} {epoch : EpochId} {now : Evm.Uint64}

theorem claimDeposit_related (related : Related book s w)
    (model : AccountingModel.claimDeposit s account epoch = .ok s')
    (evm : w.step hashing ⟨book.addressOf account, now⟩ (.claimDeposit epoch) = .ok w') :
    Related book s' w' := by
  obtain ⟨terms, request, shares, claimable, credited, -, found, -, -, -, -, rfl⟩ :=
    AccountingModel.claimDeposit_iff.mp model
  obtain ⟨_, changed, rfl⟩ := World.withVault_ok.mp evm
  obtain ⟨ledger, -, -, -, -, sameSupply, -, rfl⟩ := Vault.claimDeposit_ok changed
  exact { related with
    supply := by
      show ledger.totalSupply.raw = _
      rw [sameSupply]
      exact related.supply
    deposits := related.deposits.settle found }

/-- The stored claim is the amount the model recomputes. -/
theorem claimRedeem_related (related : Related book s w) (books : Evm.BooksInv w.vault.books)
    (model : AccountingModel.claimRedeem s account epoch = .ok s')
    (evm : w.step hashing ⟨book.addressOf account, now⟩ (.claimRedeem epoch) = .ok w') :
    Related book s' w' := by
  obtain ⟨terms, request, assets, reserve, credited, finalized, found, -, priced, hReserve, -,
    rfl⟩ := AccountingModel.claimRedeem_iff.mp model
  obtain ⟨_, _, moved, rfl⟩ := World.withMoved_ok.mp evm
  obtain ⟨reserve', outcome, -, -, nonzero, hReserve', paid, -, rfl⟩ := Vault.claimRedeem_ok moved
  have sameTerms := related.settled epoch
  rw [finalized] at sameTerms
  have record := related.redeems.same epoch account
  rw [found] at record
  have claim : (w.vault.redeems.claimOf epoch (book.addressOf account)).raw = assets.raw :=
    sameTerms.basis.assetsFor priced (books.redeemClaims epoch _ outcome nonzero) record.amount
  have held := related.funded
  have reserved := related.claimReserve
  dsimp only at hReserve' paid
  exact { related with
    claimReserve := by dsimp only; omega
    funded := by dsimp only; omega
    redeems := related.redeems.settle found }

theorem refundDeposit_related (related : Related book s w)
    (model : AccountingModel.claimAbortedDeposit s account epoch = .ok s')
    (evm : w.step hashing ⟨book.addressOf account, now⟩ (.refundDeposit epoch) = .ok w') :
    Related book s' w' := by
  obtain ⟨terms, request, escrow, returned, -, found, -, hEscrow, -, rfl⟩ :=
    AccountingModel.claimAbortedDeposit_iff.mp model
  obtain ⟨_, _, moved, rfl⟩ := World.withMoved_ok.mp evm
  obtain ⟨escrow', -, -, -, -, hEscrow', paid, -, rfl⟩ := Vault.refundDeposit_ok moved
  have record := related.deposits.same epoch account
  rw [found] at record
  have amount : (w.vault.deposits.requestOf epoch (book.addressOf account)).amount.raw =
    request.amount.raw := record.amount
  have held := related.funded
  have escrowed := related.pendingDepositEscrow
  dsimp only at hEscrow' paid
  exact { related with
    pendingDepositEscrow := by dsimp only; omega
    funded := by dsimp only; omega
    deposits := related.deposits.settle found }

theorem refundRedeem_related (related : Related book s w)
    (model : AccountingModel.claimAbortedRedeem s account epoch = .ok s')
    (evm : w.step hashing ⟨book.addressOf account, now⟩ (.refundRedeem epoch) = .ok w') :
    Related book s' w' := by
  obtain ⟨terms, request, escrowed, returned, -, found, -, -, -, rfl⟩ :=
    AccountingModel.claimAbortedRedeem_iff.mp model
  obtain ⟨_, changed, rfl⟩ := World.withVault_ok.mp evm
  obtain ⟨ledger, -, -, -, -, sameSupply, -, rfl⟩ := Vault.refundRedeem_ok changed
  exact { related with
    supply := by
      show ledger.totalSupply.raw = _
      rw [sameSupply]
      exact related.supply
    redeems := related.redeems.settle found }

end Claims

section VaultStatus

variable {actor : AccountId} {now : Evm.Uint64}

theorem pause_related (related : Related book s w)
    (model : AccountingModel.pause s actor = .ok s')
    (evm : w.step hashing msg .pause = .ok w') : Related book s' w' := by
  obtain ⟨-, rfl⟩ := AccountingModel.pause_ok model
  obtain ⟨_, changed, rfl⟩ := World.withVault_ok.mp evm
  obtain ⟨-, rfl⟩ := Vault.pause_ok changed
  exact { related with status := rfl }

theorem unpause_related (related : Related book s w)
    (model : AccountingModel.unpause s actor = .ok s')
    (evm : w.step hashing msg .unpause = .ok w') : Related book s' w' := by
  obtain ⟨-, rfl⟩ := AccountingModel.unpause_ok model
  obtain ⟨_, changed, rfl⟩ := World.withVault_ok.mp evm
  obtain ⟨-, rfl⟩ := Vault.unpause_ok changed
  exact { related with status := rfl }

theorem freeze_related (related : Related book s w)
    (model : AccountingModel.freeze s actor = .ok s')
    (evm : w.step hashing msg .freeze = .ok w') : Related book s' w' := by
  obtain ⟨-, rfl⟩ := AccountingModel.freeze_ok model
  obtain ⟨_, changed, rfl⟩ := World.withVault_ok.mp evm
  obtain ⟨-, rfl⟩ := Vault.freeze_ok changed
  exact { related with status := rfl }

end VaultStatus

end Lockstep
