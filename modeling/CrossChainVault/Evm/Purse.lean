import CrossChainVault.Evm.Obligations

set_option autoImplicit false

/- What the vault holds against what its books owe, one transaction at a time. -/

namespace Evm

open Result Protocol

/-- What the vault holds, beside what its books say it owes. -/
structure Purse where
  books : Books
  assets : Nat
  shares : Nat
  escrow : Nat
  reserve : Nat
  /-- Idle backing and whatever arrived without a request. -/
  free : Nat
  depositAssets : Nat
  redeemShares : Nat

def Vault.purse (v : Vault) (assets : Nat) : Purse where
  books := v.books
  assets := assets
  shares := (v.shares.balanceOf v.self).raw
  escrow := v.pendingDepositEscrow.raw
  reserve := v.claimReserve.raw
  free := v.idleBacking.raw + v.unattributedBalance.raw + v.unattributedInbound.raw
  depositAssets := v.epochDepositAssets.raw
  redeemShares := v.epochRedeemShares.raw

def World.purse (w : World) : Purse := w.vault.purse (w.asset.balanceOf w.vault.self).raw

/-- The buckets that stand for assets at hand are covered by the balance. -/
def Purse.Covered (p : Purse) : Prop := p.escrow + p.reserve + p.free ≤ p.assets

/-- Everything one transaction can do to the purse. -/
inductive PurseStep (p : Purse) : Purse → Prop
  | moved (assets shares free : Nat) (received : p.shares ≤ shares)
      (covers : p.Covered → p.escrow + p.reserve + free ≤ assets) :
      PurseStep p { p with assets := assets, shares := shares, free := free }
  | depositFiled (controller : Address) (request : Request) (list : Registry Address)
      (assets escrow depositAssets : Nat) (isOpen : p.books.epochOpen = true)
      (unsettled : (p.books.deposits.requestOf p.books.current controller).settled = false)
      (fresh : request.settled = false)
      (hAssets : assets + (p.books.deposits.requestOf p.books.current controller).amount.raw =
        p.assets + request.amount.raw)
      (hEscrow : escrow + (p.books.deposits.requestOf p.books.current controller).amount.raw =
        p.escrow + request.amount.raw)
      (hTotal : depositAssets +
          (p.books.deposits.requestOf p.books.current controller).amount.raw =
        p.depositAssets + request.amount.raw) :
      PurseStep p { p with
        books := { p.books with
          deposits := p.books.deposits.file p.books.current controller request list }
        assets := assets
        escrow := escrow
        depositAssets := depositAssets }
  | redeemFiled (controller : Address) (request : Request) (list : Registry Address)
      (shares redeemShares : Nat) (isOpen : p.books.epochOpen = true)
      (unsettled : (p.books.redeems.requestOf p.books.current controller).settled = false)
      (fresh : request.settled = false)
      (hShares : shares + (p.books.redeems.requestOf p.books.current controller).amount.raw =
        p.shares + request.amount.raw)
      (hTotal : redeemShares +
          (p.books.redeems.requestOf p.books.current controller).amount.raw =
        p.redeemShares + request.amount.raw) :
      PurseStep p { p with
        books := { p.books with
          redeems := p.books.redeems.file p.books.current controller request list }
        shares := shares
        redeemShares := redeemShares }
  | opened (next : Uint64) (idle : p.books.epochOpen = false)
      (successor : next.raw = p.books.next.raw + 1) :
      PurseStep p { p with
        books := { p.books with epochOpen := true, current := p.books.next, next := next }
        depositAssets := 0
        redeemShares := 0 }
  | finalized (terms : SettledEpoch) (deposits redeems : Requests × Uint256) (next : Uint64)
      (shares escrow reserve free : Nat) (isOpen : p.books.epochOpen = true)
      (successor : next.raw = p.books.current.raw + 1) (outcome : terms.outcome = .finalized)
      (depositClaims : p.books.deposits.priceClaims p.books.current terms.sharesFor = .ok deposits)
      (redeemClaims : p.books.redeems.priceClaims p.books.current terms.assetsFor = .ok redeems)
      (depositDust : terms.depositDust.raw + deposits.2.raw = terms.mintedShares.raw)
      (redeemDust : terms.redeemDust.raw + redeems.2.raw = terms.redeemAssets.raw)
      (hShares : shares + p.redeemShares = p.shares + terms.mintedShares.raw)
      (hEscrow : escrow + p.depositAssets = p.escrow)
      (hReserve : reserve = p.reserve + terms.redeemAssets.raw)
      (covers : p.Covered → escrow + reserve + free ≤ p.assets) :
      PurseStep p { p with
        books := { p.books with
          deposits := deposits.1
          redeems := redeems.1
          settled := Function.update p.books.settled p.books.current terms
          epochOpen := false
          next := next }
        shares := shares
        escrow := escrow
        reserve := reserve
        free := free
        depositAssets := 0
        redeemShares := 0 }
  | aborted (terms : SettledEpoch) (next : Uint64) (isOpen : p.books.epochOpen = true)
      (successor : next.raw = p.books.current.raw + 1) (outcome : terms.outcome = .aborted) :
      PurseStep p { p with
        books := { p.books with
          settled := Function.update p.books.settled p.books.current terms
          epochOpen := false
          next := next }
        depositAssets := 0
        redeemShares := 0 }
  | depositClaimed (epochId : Uint64) (controller : Address) (shares : Nat)
      (outcome : (p.books.settled epochId).outcome = .finalized)
      (pending : (p.books.deposits.requestOf epochId controller).pending = true)
      (hShares : shares + (p.books.deposits.claimOf epochId controller).raw = p.shares) :
      PurseStep p { p with
        books := { p.books with deposits := p.books.deposits.settle epochId controller }
        shares := shares }
  | redeemClaimed (epochId : Uint64) (controller : Address) (assets reserve : Nat)
      (outcome : (p.books.settled epochId).outcome = .finalized)
      (pending : (p.books.redeems.requestOf epochId controller).pending = true)
      (hAssets : assets + (p.books.redeems.claimOf epochId controller).raw = p.assets)
      (hReserve : reserve + (p.books.redeems.claimOf epochId controller).raw = p.reserve) :
      PurseStep p { p with
        books := { p.books with redeems := p.books.redeems.settle epochId controller }
        assets := assets
        reserve := reserve }
  | depositRefunded (epochId : Uint64) (controller : Address) (assets escrow : Nat)
      (outcome : (p.books.settled epochId).outcome = .aborted)
      (pending : (p.books.deposits.requestOf epochId controller).pending = true)
      (hAssets : assets + (p.books.deposits.requestOf epochId controller).amount.raw = p.assets)
      (hEscrow : escrow + (p.books.deposits.requestOf epochId controller).amount.raw = p.escrow) :
      PurseStep p { p with
        books := { p.books with deposits := p.books.deposits.settle epochId controller }
        assets := assets
        escrow := escrow }
  | redeemRefunded (epochId : Uint64) (controller : Address) (shares : Nat)
      (outcome : (p.books.settled epochId).outcome = .aborted)
      (pending : (p.books.redeems.requestOf epochId controller).pending = true)
      (hShares : shares + (p.books.redeems.requestOf epochId controller).amount.raw = p.shares) :
      PurseStep p { p with
        books := { p.books with redeems := p.books.redeems.settle epochId controller }
        shares := shares }

/-- One side of the books: nothing is paid before its epoch settles, and the open epoch's total
is what its requests carry. -/
structure Requests.Totalled (r : Requests) (b : Books) (total : Nat) : Prop where
  total : total = if b.epochOpen then r.requested b.current else 0
  unpaid : ∀ epochId, (b.settled epochId).outcome = .none →
    ∀ holder, (r.requestOf epochId holder).settled = false
  ahead : ∀ epochId, b.next.raw ≤ epochId.raw → r.requested epochId = 0

namespace Requests.Totalled

variable {r r' : Requests} {b : Books} {total total' : Nat} {epochId next : Uint64}
  {controller : Address} {request : Request} {list : Registry Address} {terms : SettledEpoch}

/-- The slot and the outcomes are all a side reads of the books. -/
theorem deposits {deposits : Requests} (side : r.Totalled b total) :
    r.Totalled { b with deposits := deposits } total :=
  ⟨side.total, side.unpaid, side.ahead⟩

theorem redeems {redeems : Requests} (side : r.Totalled b total) :
    r.Totalled { b with redeems := redeems } total :=
  ⟨side.total, side.unpaid, side.ahead⟩

theorem file (side : r.Totalled b total) (books : BooksInv b) (isOpen : b.epochOpen = true)
    (fresh : request.settled = false)
    (changed : total' + (r.requestOf b.current controller).amount.raw =
      total + request.amount.raw) :
    (r.file b.current controller request list).Totalled b total' where
  total := by
    have unsettled := side.unpaid b.current (books.current isOpen).1 controller
    have filed : (r.file b.current controller request list).requested b.current + _ = _ :=
      requested_file unsettled fresh
    have before := side.total
    rw [if_pos isOpen] at before ⊢
    omega
  unpaid epochId outcome holder := by
    rw [file_requestOf]
    split
    · exact fresh
    · exact side.unpaid epochId outcome holder
  ahead epochId later := by
    have successor := (books.current isOpen).2
    have elsewhere : epochId ≠ b.current := by
      rintro rfl
      omega
    rw [requested_file_other elsewhere]
    exact side.ahead epochId later

theorem settle (side : r.Totalled b total) (books : BooksInv b)
    (outcome : (b.settled epochId).outcome ≠ .none) :
    (r.settle epochId controller).Totalled b total where
  total := by
    rw [side.total]
    split
    · rename_i isOpen
      have elsewhere : b.current ≠ epochId := by
        rintro rfl
        exact outcome (books.current isOpen).1
      exact (requested_congr (settle_requestOf_other elsewhere)).symm
    · rfl
  unpaid other unsettled holder := by
    have elsewhere : other ≠ epochId := by
      rintro rfl
      exact outcome unsettled
    rw [settle_requestOf_other elsewhere]
    exact side.unpaid other unsettled holder
  ahead other later := by
    have elsewhere : other ≠ epochId := by
      rintro rfl
      exact outcome (books.ahead other later)
    rw [requested_congr (settle_requestOf_other elsewhere)]
    exact side.ahead other later

theorem opened (side : r.Totalled b total) (successor : next.raw = b.next.raw + 1) :
    r.Totalled { b with epochOpen := true, current := b.next, next := next } 0 where
  total := (side.ahead b.next (Nat.le_refl _)).symm
  unpaid := side.unpaid
  ahead epochId later := side.ahead epochId (by dsimp only at later; omega)

/-- However the open epoch ends, its requests stay as they are. -/
theorem closed (side : r.Totalled b total) (books : BooksInv b) (isOpen : b.epochOpen = true)
    (successor : next.raw = b.current.raw + 1) (outcome : terms.outcome ≠ .none)
    (same : r'.requestOf = r.requestOf) :
    r'.Totalled { b with
      settled := Function.update b.settled b.current terms
      epochOpen := false
      next := next } 0 where
  total := rfl
  unpaid epochId unsettled holder := by
    have elsewhere : epochId ≠ b.current := by
      rintro rfl
      dsimp only at unsettled
      rw [Function.update_self] at unsettled
      exact outcome unsettled
    dsimp only at unsettled
    rw [Function.update_of_ne elsewhere] at unsettled
    rw [same]
    exact side.unpaid epochId unsettled holder
  ahead epochId later := by
    have slot := (books.current isOpen).2
    rw [requested_congr fun holder => congrFun (congrFun same epochId) holder]
    exact side.ahead epochId (by dsimp only at later; omega)

end Requests.Totalled

/-- What the vault holds covers what it owes. -/
structure PurseInv (p : Purse) : Prop where
  books : BooksInv p.books
  deposits : p.books.deposits.Totalled p.books p.depositAssets
  redeems : p.books.redeems.Totalled p.books p.redeemShares
  covered : p.Covered
  escrow : p.escrow = p.depositAssets + p.books.deposits.refundable p.books.settled
  reserve : p.reserve = p.books.redeems.setAside p.books.settled SettledEpoch.redeemDust
  shares : p.redeemShares + p.books.redeems.refundable p.books.settled +
    p.books.deposits.setAside p.books.settled SettledEpoch.depositDust ≤ p.shares

theorem PurseInv.step {p p' : Purse} (step : PurseStep p p') (books : BooksInv p'.books)
    (inv : PurseInv p) : PurseInv p' := by
  have covered : p.escrow + p.reserve + p.free ≤ p.assets := inv.covered
  have escrow := inv.escrow
  have reserve := inv.reserve
  have shares := inv.shares
  cases step with
  | moved assets gained free received covers =>
      exact ⟨books, inv.deposits, inv.redeems, covers inv.covered, escrow, reserve,
        Nat.le_trans shares received⟩
  | depositFiled controller request list assets escrow' total isOpen unsettled fresh hAssets hEscrow
      hTotal =>
      obtain ⟨refunds, claims⟩ := Requests.owed_file (r := p.books.deposits)
        SettledEpoch.depositDust controller request list (inv.books.current isOpen).1
      refine ⟨books, (inv.deposits.file inv.books isOpen fresh hTotal).deposits,
        inv.redeems.deposits, ?_, ?_, reserve, ?_⟩
      · show escrow' + p.reserve + p.free ≤ assets
        omega
      · dsimp only
        omega
      · dsimp only
        omega
  | redeemFiled controller request list shares' total isOpen unsettled fresh hShares hTotal =>
      obtain ⟨refunds, claims⟩ := Requests.owed_file (r := p.books.redeems)
        SettledEpoch.redeemDust controller request list (inv.books.current isOpen).1
      refine ⟨books, inv.deposits.redeems,
        (inv.redeems.file inv.books isOpen fresh hTotal).redeems, covered, escrow, ?_, ?_⟩
      · dsimp only
        omega
      · dsimp only
        omega
  | opened next idle successor =>
      have none := inv.deposits.total
      have nothing := inv.redeems.total
      rw [idle] at none nothing
      refine ⟨books, inv.deposits.opened successor, inv.redeems.opened successor, covered, ?_,
        reserve, ?_⟩
      · dsimp only
        simp at none
        omega
      · dsimp only
        simp at nothing
        omega
  | finalized terms deposits redeems next shares' escrow' reserve' free isOpen successor outcome
      depositClaims redeemClaims depositDust redeemDust hShares hEscrow hReserve covers =>
      have current := (inv.books.current isOpen).1
      have settled : terms.outcome ≠ .none := by
        rw [outcome]
        decide
      obtain ⟨refunds, claims⟩ := Requests.owed_finalize SettledEpoch.depositDust
        inv.books.deposits depositClaims (inv.deposits.unpaid _ current) current outcome
      obtain ⟨returns, payouts⟩ := Requests.owed_finalize SettledEpoch.redeemDust
        inv.books.redeems redeemClaims (inv.redeems.unpaid _ current) current outcome
      have sameDeposits := (Requests.priceClaims_ok inv.books.deposits depositClaims).1
      have sameRedeems := (Requests.priceClaims_ok inv.books.redeems redeemClaims).1
      refine ⟨books,
        (inv.deposits.closed inv.books isOpen successor settled sameDeposits).deposits.redeems,
        (inv.redeems.closed inv.books isOpen successor settled sameRedeems).deposits.redeems,
        covers inv.covered, ?_, ?_, ?_⟩
      · dsimp only
        omega
      · dsimp only
        omega
      · dsimp only
        omega
  | aborted terms next isOpen successor outcome =>
      have current := (inv.books.current isOpen).1
      have settled : terms.outcome ≠ .none := by
        rw [outcome]
        decide
      have asked := inv.deposits.total
      have offered := inv.redeems.total
      rw [if_pos isOpen] at asked offered
      obtain ⟨refunds, claims⟩ := Requests.owed_abort (r := p.books.deposits)
        SettledEpoch.depositDust current outcome
      obtain ⟨returns, payouts⟩ := Requests.owed_abort (r := p.books.redeems)
        SettledEpoch.redeemDust current outcome
      refine ⟨books, inv.deposits.closed inv.books isOpen successor settled rfl,
        inv.redeems.closed inv.books isOpen successor settled rfl, covered, ?_, ?_, ?_⟩
      · dsimp only
        omega
      · dsimp only
        omega
      · dsimp only
        omega
  | depositClaimed epochId controller shares' outcome pending hShares =>
      obtain ⟨refunds, claims⟩ := Requests.owed_claim SettledEpoch.depositDust outcome
        pending
      refine ⟨books, (inv.deposits.settle inv.books (by rw [outcome]; decide)).deposits,
        inv.redeems.deposits, covered, ?_, reserve, ?_⟩
      · dsimp only
        omega
      · dsimp only
        omega
  | redeemClaimed epochId controller assets reserve' outcome pending hAssets hReserve =>
      obtain ⟨refunds, claims⟩ := Requests.owed_claim SettledEpoch.redeemDust outcome
        pending
      refine ⟨books, inv.deposits.redeems,
        (inv.redeems.settle inv.books (by rw [outcome]; decide)).redeems, ?_, escrow, ?_, ?_⟩
      · show p.escrow + reserve' + p.free ≤ assets
        omega
      · dsimp only
        omega
      · dsimp only
        omega
  | depositRefunded epochId controller assets escrow' outcome pending hAssets hEscrow =>
      obtain ⟨refunds, claims⟩ := Requests.owed_refund SettledEpoch.depositDust outcome
        pending
      refine ⟨books, (inv.deposits.settle inv.books (by rw [outcome]; decide)).deposits,
        inv.redeems.deposits, ?_, ?_, reserve, ?_⟩
      · show escrow' + p.reserve + p.free ≤ assets
        omega
      · dsimp only
        omega
      · dsimp only
        omega
  | redeemRefunded epochId controller shares' outcome pending hShares =>
      obtain ⟨refunds, claims⟩ := Requests.owed_refund SettledEpoch.redeemDust outcome
        pending
      refine ⟨books, inv.deposits.redeems,
        (inv.redeems.settle inv.books (by rw [outcome]; decide)).redeems, covered, escrow, ?_, ?_⟩
      · dsimp only
        omega
      · dsimp only
        omega

end Evm
