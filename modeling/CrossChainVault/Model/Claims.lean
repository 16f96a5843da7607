import CrossChainVault.Model.Shares

set_option autoImplicit false

/- Claims are exactly backed, so every settled request can be paid, and it is paid once. -/

namespace AccountingModel

open Result

/-- Claims and escrow are exactly backed, and the dust of a settlement is measured and small. -/
theorem claims_exactly_backed {s : State} (reachable : Reachable s) :
    s.buckets.pendingDepositEscrow.raw =
      (s.epoch.elim 0 fun epoch => s.depositRequests.sumIn epoch.id Request.activeAmount) +
        OrderedMap.sumOf s.epochs (fun id outcome => match outcome with
          | .aborted _ => s.depositRequests.sumIn id (Request.unclaimed Request.activeAmount)
          | .finalized _ => 0) ∧
    s.escrowedRedeemShares.raw =
      (s.epoch.elim 0 fun epoch => s.redeemRequests.sumIn epoch.id Request.activeAmount) +
        OrderedMap.sumOf s.epochs (fun id outcome => match outcome with
          | .aborted _ => s.redeemRequests.sumIn id (Request.unclaimed Request.activeAmount)
          | .finalized _ => 0) ∧
    s.buckets.claimReserve.raw = OrderedMap.sumOf s.epochs (fun id outcome => match outcome with
      | .finalized terms => s.redeemRequests.sumIn id
          (Request.unclaimed (Request.activePrice terms.assetRate)) + terms.redeemDust.raw
      | .aborted _ => 0) ∧
    s.claimableDepositShares.raw = OrderedMap.sumOf s.epochs (fun id outcome => match outcome with
      | .finalized terms => s.depositRequests.sumIn id
          (Request.unclaimed (Request.activePrice terms.shareRate)) + terms.depositDust.raw
      | .aborted _ => 0) ∧
    (∀ (id : EpochId) (terms : EpochTerms), s.epochs[id]? = some (.finalized terms) →
      terms.depositDust.raw + s.depositRequests.sumIn id (Request.activePrice terms.shareRate) =
          terms.mintedShares.raw ∧
        terms.depositDust.raw ≤ s.depositRequests.sumIn id Request.activeCount - 1 ∧
        terms.redeemDust.raw + s.redeemRequests.sumIn id (Request.activePrice terms.assetRate) =
          terms.redeemAssets.raw ∧
        terms.redeemDust.raw ≤ s.redeemRequests.sumIn id Request.activeCount - 1) := by
  obtain ⟨deposits, redeems⟩ := reachable.backed
  have depositEscrow := deposits.escrow
  have redeemEscrow := redeems.escrow
  have depositPending := deposits.pending
  have redeemPending := redeems.pending
  have claimable := deposits.payable
  have reserve := redeems.payable
  simp only [State.depositBook, State.redeemBook, OrderedMap.sumOf_map]
    at depositEscrow redeemEscrow depositPending redeemPending claimable reserve
  refine ⟨?_, ?_, ?_, ?_, ?_⟩
  · rw [depositEscrow]
    refine congrArg₂ (· + ·) ?_ (OrderedMap.sumOf_congr _ _ _ fun _ outcome _ => ?_)
    · cases current : s.epoch with
      | none => rfl
      | some epoch => exact depositPending epoch.id _ (by rw [current]; rfl)
    · cases outcome <;> rfl
  · rw [redeemEscrow]
    refine congrArg₂ (· + ·) ?_ (OrderedMap.sumOf_congr _ _ _ fun _ outcome _ => ?_)
    · cases current : s.epoch with
      | none => rfl
      | some epoch => exact redeemPending epoch.id _ (by rw [current]; rfl)
    · cases outcome <;> rfl
  · rw [reserve]
    refine OrderedMap.sumOf_congr _ _ _ fun _ outcome _ => ?_
    cases outcome <;> rfl
  · rw [claimable]
    refine OrderedMap.sumOf_congr _ _ _ fun _ outcome _ => ?_
    cases outcome <;> rfl
  · intro id terms settled
    obtain ⟨-, -, depositDust, depositSmall⟩ :=
      deposits.explained id _ (State.depositBook_settled settled)
    obtain ⟨-, -, redeemDust, redeemSmall⟩ :=
      redeems.explained id _ (State.redeemBook_settled settled)
    exact ⟨depositDust, depositSmall, redeemDust, redeemSmall⟩

/-- Two accounts redeem odd amounts at an uneven price, and one of them claims. -/
def sampleDust : List Operation :=
  [.requestDeposit sampleHolder 500, .requestDeposit 4 400,
    .cutoffEpoch 100, .finalizeEpoch, .openNextEpoch 200,
    .claimDeposit sampleHolder .genesis, .claimDeposit 4 .genesis,
    .requestRedeem sampleHolder 1500000000000,
    .requestRedeem 4 1700000000000, .cutoffEpoch 300,
    .finalizeEpoch, .claimRedeem sampleHolder 1]

theorem claims_exactly_backed_with_dust : ∃ s, Reachable s ∧ s.buckets.claimReserve.raw = 2 ∧
    s.buckets.claimReserve.raw = OrderedMap.sumOf s.epochs (fun id outcome => match outcome with
      | .finalized terms => s.redeemRequests.sumIn id
          (Request.unclaimed (Request.activePrice terms.assetRate)) + terms.redeemDust.raw
      | .aborted _ => 0) := by
  obtain ⟨s, reachable, reserve⟩ := exists_reachable
    (fun s => s.buckets.claimReserve.raw = 2) sampleGenesis sampleDust (by decide +kernel)
  exact ⟨s, reachable, reserve, (claims_exactly_backed reachable).2.2.1⟩

/-- The two books of the vault. -/
inductive Side
  | deposit
  | redeem
deriving DecidableEq

namespace Side

def requests (s : State) : Side → RequestMap
  | .deposit => s.depositRequests
  | .redeem => s.redeemRequests

/-- The operation that pays a request of this side out of an epoch with this outcome. -/
def payout (account : AccountId) (epoch : EpochId) : Side → EpochOutcome → Operation
  | .deposit, .finalized _ => .claimDeposit account epoch
  | .deposit, .aborted _ => .claimAbortedDeposit account epoch
  | .redeem, .finalized _ => .claimRedeem account epoch
  | .redeem, .aborted _ => .claimAbortedRedeem account epoch

/-- The claim operations of this side for one account and epoch. -/
def claims (account : AccountId) (epoch : EpochId) : Side → List Operation
  | .deposit => [.claimDeposit account epoch, .claimAbortedDeposit account epoch]
  | .redeem => [.claimRedeem account epoch, .claimAbortedRedeem account epoch]

/-- What a request is owed, as assets and shares: its floor price under the epoch terms, or the
requested amount itself when the epoch was abandoned. -/
def owed (request : Request) : Side → EpochOutcome → Nat × Nat
  | .deposit, .finalized terms => (0, terms.shareRate.floor request.amount.raw)
  | .deposit, .aborted _ => (request.amount.raw, 0)
  | .redeem, .finalized terms => (terms.assetRate.floor request.amount.raw, 0)
  | .redeem, .aborted _ => (0, request.amount.raw)

end Side

section Payable

variable {s s' : State} {account : AccountId} {epoch : EpochId} {request : Request}

theorem State.account_setAssets (s : State) (id : AccountId) (amount : AssetAmount) :
    (s.setAssets id amount)[id]?.getD .empty = { s.account id with assets := amount } := by
  simp [State.setAssets]

theorem State.account_setShares (s : State) (id : AccountId) (amount : ShareAmount) :
    (s.setShares id amount)[id]?.getD .empty = { s.account id with shares := amount } := by
  simp [State.setShares]

/-- What a book still owes one outstanding request of a finalized epoch. -/
private theorem Book.Backed.payable_covers {b : Book} (backed : b.Backed) {key : RequestKey}
    {rate : Rate} {requested produced dust : Nat}
    (settled : b.settled[key.epoch]? = some (.finalized rate requested produced dust))
    (found : b.requests[key]? = some request) (outstanding : request.isOutstanding = true) :
    rate.floor request.amount.raw ≤ b.payable ∧ request.amount.raw ≤ requested := by
  obtain ⟨live, unclaimed, -⟩ := Book.isOutstanding_iff.mp outstanding
  constructor
  · have inEpoch := b.requests.le_sumIn (Request.unclaimed (Request.activePrice rate)) found
    have inPool := OrderedMap.le_sumOf b.settled (Book.claimable b.requests) settled
    rw [← backed.payable] at inPool
    simp only [Request.unclaimed, unclaimed, Bool.false_eq_true, if_false, Request.activePrice_eq,
      Book.activeAmount_of_live live] at inEpoch
    simp only [Book.claimable] at inPool
    omega
  · have inEpoch := b.requests.le_sumIn Request.activeAmount found
    rw [Book.activeAmount_of_live live, ← (backed.explained _ _ settled).1] at inEpoch
    exact inEpoch

private theorem Book.Backed.escrow_covers {b : Book} (backed : b.Backed) {key : RequestKey}
    {refund : Nat} (settled : b.settled[key.epoch]? = some (.aborted refund))
    (found : b.requests[key]? = some request) (outstanding : request.isOutstanding = true) :
    request.amount.raw ≤ b.escrow := by
  obtain ⟨live, unclaimed, -⟩ := Book.isOutstanding_iff.mp outstanding
  have inEpoch := b.requests.le_sumIn (Request.unclaimed Request.activeAmount) found
  have inPool := OrderedMap.le_sumOf b.settled (Book.refundable b.requests) settled
  have escrow := backed.escrow
  simp only [Request.unclaimed, unclaimed, Bool.false_eq_true, if_false,
    Book.activeAmount_of_live live] at inEpoch
  simp only [Book.refundable] at inPool
  omega

private theorem claimDeposit_pays (reachable : Reachable s) {terms : EpochTerms}
    (settled : s.epochs[epoch]? = some (.finalized terms))
    (found : s.depositRequests[(⟨epoch, account⟩ : RequestKey)]? = some request)
    (outstanding : request.isOutstanding = true) :
    ∃ s', claimDeposit s account epoch = .ok s' ∧
      (s'.account account).assets.raw = (s.account account).assets.raw ∧
      (s'.account account).shares.raw =
        (s.account account).shares.raw + terms.shareRate.floor request.amount.raw := by
  obtain ⟨covered, within⟩ := reachable.backed.1.payable_covers
    (State.depositBook_settled settled) found outstanding
  obtain ⟨-, minted, -⟩ := reachable.termsPriced epoch terms settled
  obtain ⟨assetsFit, sharesFit, positive, aggregate⟩ := assetsToShares_ok.mp minted
  have below : terms.shareRate.floor request.amount.raw ≤ terms.mintedShares.raw := by
    rw [aggregate]
    exact terms.shareRate.floor_mono within
  have owned := reachable.sharesInv.owned
  have held := s.account_shares_le account
  have supply := s.totalShareSupply.bound
  have minted := terms.mintedShares.bound
  have pool : terms.shareRate.floor request.amount.raw ≤ s.claimableDepositShares.raw := covered
  let shares : ShareAmount := ⟨terms.shareRate.floor request.amount.raw, by omega⟩
  let credited : ShareAmount := ⟨(s.account account).shares.raw + shares.raw, by
    dsimp only [shares]; omega⟩
  refine ⟨_, claimDeposit_iff.mpr ⟨terms, request, shares,
    s.claimableDepositShares.saturatingSub shares, credited, settled, found, outstanding,
    assetsToShares_ok.mpr ⟨assetsFit, sharesFit, positive, rfl⟩, Nat.sub_add_cancel pool, rfl,
    rfl⟩, ?_, ?_⟩
  · simp only [State.account]
    rw [State.account_setShares]
    rfl
  · simp only [State.account]
    rw [State.account_setShares]
    rfl

private theorem claimRedeem_pays (reachable : Reachable s) {terms : EpochTerms}
    (settled : s.epochs[epoch]? = some (.finalized terms))
    (found : s.redeemRequests[(⟨epoch, account⟩ : RequestKey)]? = some request)
    (outstanding : request.isOutstanding = true) :
    ∃ s', claimRedeem s account epoch = .ok s' ∧
      (s'.account account).assets.raw =
        (s.account account).assets.raw + terms.assetRate.floor request.amount.raw ∧
      (s'.account account).shares.raw = (s.account account).shares.raw := by
  obtain ⟨covered, within⟩ := reachable.backed.2.payable_covers
    (State.redeemBook_settled settled) found outstanding
  obtain ⟨-, -, redeemed⟩ := reachable.termsPriced epoch terms settled
  obtain ⟨assetsFit, sharesFit, positive, aggregate⟩ := sharesToAssets_ok.mp redeemed
  have below : terms.assetRate.floor request.amount.raw ≤ terms.redeemAssets.raw := by
    rw [aggregate]
    exact terms.assetRate.floor_mono within
  have inv := reachable.assetInv
  have conserved := inv.conserved
  have inflow := inv.inflow
  have held := s.account_assets_le account
  have supply := s.initialAssetSupply.bound
  have redeemed := terms.redeemAssets.bound
  have pool : terms.assetRate.floor request.amount.raw ≤ s.buckets.claimReserve.raw := covered
  let assets : AssetAmount := ⟨terms.assetRate.floor request.amount.raw, by omega⟩
  let credited : AssetAmount := ⟨(s.account account).assets.raw + assets.raw, by
    dsimp only [assets]; omega⟩
  refine ⟨_, claimRedeem_iff.mpr ⟨terms, request, assets,
    s.buckets.claimReserve.saturatingSub assets, credited, settled, found, outstanding,
    sharesToAssets_ok.mpr ⟨assetsFit, sharesFit, positive, rfl⟩, Nat.sub_add_cancel pool, rfl,
    rfl⟩, ?_, ?_⟩
  · simp only [State.account]
    rw [State.account_setAssets]
    rfl
  · simp only [State.account]
    rw [State.account_setAssets]
    rfl

private theorem claimAbortedDeposit_pays (reachable : Reachable s) {terms : AbortedTerms}
    (settled : s.epochs[epoch]? = some (.aborted terms))
    (found : s.depositRequests[(⟨epoch, account⟩ : RequestKey)]? = some request)
    (outstanding : request.isOutstanding = true) :
    ∃ s', claimAbortedDeposit s account epoch = .ok s' ∧
      (s'.account account).assets.raw = (s.account account).assets.raw + request.amount.raw ∧
      (s'.account account).shares.raw = (s.account account).shares.raw := by
  have covered : request.amount.raw ≤ s.buckets.pendingDepositEscrow.raw :=
    reachable.backed.1.escrow_covers (State.depositBook_settled settled) found outstanding
  have inv := reachable.assetInv
  have conserved := inv.conserved
  have inflow := inv.inflow
  have held := s.account_assets_le account
  have supply := s.initialAssetSupply.bound
  let returned : AssetAmount := ⟨(s.account account).assets.raw + request.amount.raw, by omega⟩
  refine ⟨_, claimAbortedDeposit_iff.mpr ⟨terms, request,
    s.buckets.pendingDepositEscrow.saturatingSub request.amount, returned, settled, found,
    outstanding, Nat.sub_add_cancel covered, rfl, rfl⟩, ?_, ?_⟩
  · simp only [State.account]
    rw [State.account_setAssets]
    rfl
  · simp only [State.account]
    rw [State.account_setAssets]
    rfl

private theorem claimAbortedRedeem_pays (reachable : Reachable s) {terms : AbortedTerms}
    (settled : s.epochs[epoch]? = some (.aborted terms))
    (found : s.redeemRequests[(⟨epoch, account⟩ : RequestKey)]? = some request)
    (outstanding : request.isOutstanding = true) :
    ∃ s', claimAbortedRedeem s account epoch = .ok s' ∧
      (s'.account account).assets.raw = (s.account account).assets.raw ∧
      (s'.account account).shares.raw = (s.account account).shares.raw + request.amount.raw := by
  have covered : request.amount.raw ≤ s.escrowedRedeemShares.raw :=
    reachable.backed.2.escrow_covers (State.redeemBook_settled settled) found outstanding
  have owned := reachable.sharesInv.owned
  have held := s.account_shares_le account
  have supply := s.totalShareSupply.bound
  let returned : ShareAmount := ⟨(s.account account).shares.raw + request.amount.raw, by omega⟩
  refine ⟨_, claimAbortedRedeem_iff.mpr ⟨terms, request,
    s.escrowedRedeemShares.saturatingSub request.amount, returned, settled, found,
    outstanding, Nat.sub_add_cancel covered, rfl, rfl⟩, ?_, ?_⟩
  · simp only [State.account]
    rw [State.account_setShares]
    rfl
  · simp only [State.account]
    rw [State.account_setShares]
    rfl

/-- In every reachable state the payout of an outstanding request is accepted and exact. -/
theorem payout_accepted (side : Side) (reachable : Reachable s) {outcome : EpochOutcome}
    (settled : s.epochs[epoch]? = some outcome)
    (found : (side.requests s)[(⟨epoch, account⟩ : RequestKey)]? = some request)
    (outstanding : request.isOutstanding = true) :
    ∃ s', apply s (side.payout account epoch outcome) = .ok s' ∧
      (s'.account account).assets.raw =
        (s.account account).assets.raw + (side.owed request outcome).1 ∧
      (s'.account account).shares.raw =
        (s.account account).shares.raw + (side.owed request outcome).2 := by
  cases side with
  | deposit =>
      cases outcome with
      | finalized terms => exact claimDeposit_pays reachable settled found outstanding
      | aborted terms => exact claimAbortedDeposit_pays reachable settled found outstanding
  | redeem =>
      cases outcome with
      | finalized terms => exact claimRedeem_pays reachable settled found outstanding
      | aborted terms => exact claimAbortedRedeem_pays reachable settled found outstanding

end Payable

section Once

variable {s s' : State} {op : Operation} {account : AccountId} {epoch : EpochId}

/-- A record of a settled epoch changes only by its own payout, which marks it claimed. -/
inductive RecordChange (side : Side) (account : AccountId) (epoch : EpochId)
    (outcome : EpochOutcome) (op : Operation) (s s' : State) : Prop
  | kept (same : (side.requests s')[(⟨epoch, account⟩ : RequestKey)]? =
      (side.requests s)[(⟨epoch, account⟩ : RequestKey)]?)
      (other : op ≠ side.payout account epoch outcome)
  | paid (request : Request) (claim : op = side.payout account epoch outcome)
      (found : (side.requests s)[(⟨epoch, account⟩ : RequestKey)]? = some request)
      (now : (side.requests s')[(⟨epoch, account⟩ : RequestKey)]? =
        some { request with claimed := true })

private theorem insert_current (order : EpochOrder s) {current : Epoch}
    (found : s.epoch = some current) {outcome : EpochOutcome}
    (settled : s.epochs[epoch]? = some outcome) (requests : RequestMap) (other : AccountId)
    (record : Request) :
    (requests.insert ⟨current.id, other⟩ record)[(⟨epoch, account⟩ : RequestKey)]? =
      requests[(⟨epoch, account⟩ : RequestKey)]? := by
  refine OrderedMap.getElem?_insert_other requests record ?_
  intro same
  have below := order.settledBelowCurrent current epoch found (by rw [settled]; rfl)
  rw [(RequestKey.mk.inj same).1] at below
  exact Nat.lt_irrefl _ below

/-- Writing the record of one key either misses the watched key or is that record. -/
private theorem insert_settled (requests : RequestMap) (record : Request) (key watched : RequestKey) :
    (requests.insert key record)[watched]? = requests[watched]? ∧ key ≠ watched ∨
      key = watched ∧ (requests.insert key record)[watched]? = some record := by
  by_cases same : key = watched
  · subst same
    exact .inr ⟨rfl, OrderedMap.getElem?_insert_same requests key record⟩
  · exact .inl ⟨OrderedMap.getElem?_insert_other requests record same, same⟩

private theorem depositRecord_change (order : EpochOrder s) (success : apply s op = .ok s')
    {outcome : EpochOutcome} (settled : s.epochs[epoch]? = some outcome) :
    RecordChange .deposit account epoch outcome op s s' := by
  cases op with
  | requestDeposit other assets =>
      obtain ⟨_, _, _, _, _, -, found, -, -, -, -, -, -, -, -, rfl⟩ := requestDeposit_iff.mp success
      exact .kept (insert_current order found settled _ _ _) (by cases outcome <;> simp [Side.payout])
  | cancelDeposit other =>
      obtain ⟨_, _, _, _, _, _, -, found, -, -, -, -, -, -, -, -, -, rfl⟩ :=
        cancelDeposit_iff.mp success
      exact .kept (insert_current order found settled _ _ _) (by cases outcome <;> simp [Side.payout])
  | requestRedeem other shares =>
      obtain ⟨_, _, _, _, _, -, -, -, -, -, -, -, -, -, -, rfl⟩ := requestRedeem_iff.mp success
      exact .kept rfl (by cases outcome <;> simp [Side.payout])
  | cancelRedeem other =>
      obtain ⟨_, _, _, _, _, _, -, -, -, -, -, -, -, -, -, -, -, rfl⟩ := cancelRedeem_iff.mp success
      exact .kept rfl (by cases outcome <;> simp [Side.payout])
  | finalizeEpoch =>
      obtain ⟨_, _, _, _, _, _, _, _, _, _, _, -, -, -, -, -, -, -, -, -, -, -, -, -, -, rfl⟩ :=
        finalizeEpoch_ok success
      exact .kept rfl (by cases outcome <;> simp [Side.payout])
  | abortEpoch actor =>
      obtain ⟨_, _, -, -, -, -, -, rfl⟩ := abortEpoch_ok success
      exact .kept rfl (by cases outcome <;> simp [Side.payout])
  | openNextEpoch now =>
      obtain ⟨_, _, -, -, -, -, -, rfl⟩ := openNextEpoch_ok success
      exact .kept rfl (by cases outcome <;> simp [Side.payout])
  | claimDeposit other at_ =>
      obtain ⟨terms, request, _, _, _, finalized, found, -, -, -, -, rfl⟩ :=
        claimDeposit_iff.mp success
      rcases insert_settled s.depositRequests { request with claimed := true } ⟨at_, other⟩
        ⟨epoch, account⟩ with ⟨same, apart⟩ | ⟨key, now⟩
      · refine .kept same ?_
        cases outcome <;> simp only [Side.payout, ne_eq, Operation.claimDeposit.injEq, reduceCtorEq,
          not_false_eq_true]
        rintro ⟨rfl, rfl⟩
        exact apart rfl
      · cases key
        rw [finalized] at settled
        cases settled
        exact .paid request rfl found now
  | claimRedeem other at_ =>
      obtain ⟨_, _, _, _, _, -, -, -, -, -, -, rfl⟩ := claimRedeem_iff.mp success
      exact .kept rfl (by cases outcome <;> simp [Side.payout])
  | claimAbortedDeposit other at_ =>
      obtain ⟨terms, request, _, _, aborted, found, -, -, -, rfl⟩ :=
        claimAbortedDeposit_iff.mp success
      rcases insert_settled s.depositRequests { request with claimed := true } ⟨at_, other⟩
        ⟨epoch, account⟩ with ⟨same, apart⟩ | ⟨key, now⟩
      · refine .kept same ?_
        cases outcome <;> simp only [Side.payout, ne_eq, Operation.claimAbortedDeposit.injEq, reduceCtorEq,
          not_false_eq_true]
        rintro ⟨rfl, rfl⟩
        exact apart rfl
      · cases key
        rw [aborted] at settled
        cases settled
        exact .paid request rfl found now
  | claimAbortedRedeem other at_ =>
      obtain ⟨_, _, _, _, -, -, -, -, -, rfl⟩ := claimAbortedRedeem_iff.mp success
      exact .kept rfl (by cases outcome <;> simp [Side.payout])
  | _ =>
      have kept := booksKept success rfl
      exact .kept (by rw [Side.requests, kept.depositRequests]; rfl)
        (by cases outcome <;> simp [Side.payout])

private theorem redeemRecord_change (order : EpochOrder s) (success : apply s op = .ok s')
    {outcome : EpochOutcome} (settled : s.epochs[epoch]? = some outcome) :
    RecordChange .redeem account epoch outcome op s s' := by
  cases op with
  | requestRedeem other shares =>
      obtain ⟨_, _, _, _, _, -, found, -, -, -, -, -, -, -, -, rfl⟩ := requestRedeem_iff.mp success
      exact .kept (insert_current order found settled _ _ _) (by cases outcome <;> simp [Side.payout])
  | cancelRedeem other =>
      obtain ⟨_, _, _, _, _, _, -, found, -, -, -, -, -, -, -, -, -, rfl⟩ :=
        cancelRedeem_iff.mp success
      exact .kept (insert_current order found settled _ _ _) (by cases outcome <;> simp [Side.payout])
  | requestDeposit other assets =>
      obtain ⟨_, _, _, _, _, -, -, -, -, -, -, -, -, -, -, rfl⟩ := requestDeposit_iff.mp success
      exact .kept rfl (by cases outcome <;> simp [Side.payout])
  | cancelDeposit other =>
      obtain ⟨_, _, _, _, _, _, -, -, -, -, -, -, -, -, -, -, -, rfl⟩ := cancelDeposit_iff.mp success
      exact .kept rfl (by cases outcome <;> simp [Side.payout])
  | finalizeEpoch =>
      obtain ⟨_, _, _, _, _, _, _, _, _, _, _, -, -, -, -, -, -, -, -, -, -, -, -, -, -, rfl⟩ :=
        finalizeEpoch_ok success
      exact .kept rfl (by cases outcome <;> simp [Side.payout])
  | abortEpoch actor =>
      obtain ⟨_, _, -, -, -, -, -, rfl⟩ := abortEpoch_ok success
      exact .kept rfl (by cases outcome <;> simp [Side.payout])
  | openNextEpoch now =>
      obtain ⟨_, _, -, -, -, -, -, rfl⟩ := openNextEpoch_ok success
      exact .kept rfl (by cases outcome <;> simp [Side.payout])
  | claimRedeem other at_ =>
      obtain ⟨terms, request, _, _, _, finalized, found, -, -, -, -, rfl⟩ :=
        claimRedeem_iff.mp success
      rcases insert_settled s.redeemRequests { request with claimed := true } ⟨at_, other⟩
        ⟨epoch, account⟩ with ⟨same, apart⟩ | ⟨key, now⟩
      · refine .kept same ?_
        cases outcome <;> simp only [Side.payout, ne_eq, Operation.claimRedeem.injEq, reduceCtorEq,
          not_false_eq_true]
        rintro ⟨rfl, rfl⟩
        exact apart rfl
      · cases key
        rw [finalized] at settled
        cases settled
        exact .paid request rfl found now
  | claimDeposit other at_ =>
      obtain ⟨_, _, _, _, _, -, -, -, -, -, -, rfl⟩ := claimDeposit_iff.mp success
      exact .kept rfl (by cases outcome <;> simp [Side.payout])
  | claimAbortedRedeem other at_ =>
      obtain ⟨terms, request, _, _, aborted, found, -, -, -, rfl⟩ :=
        claimAbortedRedeem_iff.mp success
      rcases insert_settled s.redeemRequests { request with claimed := true } ⟨at_, other⟩
        ⟨epoch, account⟩ with ⟨same, apart⟩ | ⟨key, now⟩
      · refine .kept same ?_
        cases outcome <;> simp only [Side.payout, ne_eq, Operation.claimAbortedRedeem.injEq, reduceCtorEq,
          not_false_eq_true]
        rintro ⟨rfl, rfl⟩
        exact apart rfl
      · cases key
        rw [aborted] at settled
        cases settled
        exact .paid request rfl found now
  | claimAbortedDeposit other at_ =>
      obtain ⟨_, _, _, _, -, -, -, -, -, rfl⟩ := claimAbortedDeposit_iff.mp success
      exact .kept rfl (by cases outcome <;> simp [Side.payout])
  | _ =>
      have kept := booksKept success rfl
      exact .kept (by rw [Side.requests, kept.redeemRequests]; rfl)
        (by cases outcome <;> simp [Side.payout])

theorem recordChange (side : Side) (order : EpochOrder s) (success : apply s op = .ok s')
    {outcome : EpochOutcome} (settled : s.epochs[epoch]? = some outcome) :
    RecordChange side account epoch outcome op s s' := by
  cases side with
  | deposit => exact depositRecord_change order success settled
  | redeem => exact redeemRecord_change order success settled

/-- The record is paid: its epoch is settled and it is marked claimed. -/
def Paid (side : Side) (account : AccountId) (epoch : EpochId) (s : State) : Prop :=
  ∃ outcome request, s.epochs[epoch]? = some outcome ∧
    (side.requests s)[(⟨epoch, account⟩ : RequestKey)]? = some request ∧ request.claimed = true

theorem Paid.step {side : Side} (order : EpochOrder s) (success : apply s op = .ok s')
    (paid : Paid side account epoch s) : Paid side account epoch s' := by
  obtain ⟨outcome, request, settled, found, claimed⟩ := paid
  have still := outcome_stable success settled
  cases recordChange side order success settled with
  | kept same other => exact ⟨outcome, request, still, same.trans found, claimed⟩
  | paid request claim found now => exact ⟨outcome, _, still, now, rfl⟩

/-- A paid record is refused by every claim of its side. -/
theorem Paid.rejected {side : Side} (paid : Paid side account epoch s) :
    ∀ op ∈ side.claims account epoch, ∃ rejection, apply s op = .error rejection := by
  obtain ⟨outcome, request, settled, found, claimed⟩ := paid
  have refused {op : Operation} (never : ∀ s', apply s op ≠ .ok s') :
      ∃ rejection, apply s op = .error rejection := by
    cases result : apply s op with
    | ok s' => exact (never s' result).elim
    | error rejection => exact ⟨rejection, rfl⟩
  have spent (record : Request) (same : some record = some request) :
      record.isOutstanding ≠ true := by
    cases same
    simp [Request.isOutstanding, claimed]
  intro op member
  refine refused fun s' success => ?_
  cases side with
  | deposit =>
      simp only [Side.claims, List.mem_cons, List.not_mem_nil, or_false] at member
      rcases member with rfl | rfl
      · obtain ⟨_, record, _, _, _, -, recorded, outstanding, -⟩ := claimDeposit_iff.mp success
        exact spent record (recorded.symm.trans found) outstanding
      · obtain ⟨_, record, _, _, -, recorded, outstanding, -⟩ :=
          claimAbortedDeposit_iff.mp success
        exact spent record (recorded.symm.trans found) outstanding
  | redeem =>
      simp only [Side.claims, List.mem_cons, List.not_mem_nil, or_false] at member
      rcases member with rfl | rfl
      · obtain ⟨_, record, _, _, _, -, recorded, outstanding, -⟩ := claimRedeem_iff.mp success
        exact spent record (recorded.symm.trans found) outstanding
      · obtain ⟨_, record, _, _, -, recorded, outstanding, -⟩ := claimAbortedRedeem_iff.mp success
        exact spent record (recorded.symm.trans found) outstanding

/-- Along any accepted run a settled record is untouched until its payout, and paid after it. -/
theorem record_until_payout (side : Side) {outcome : EpochOutcome} {request : Request}
    {t : State} (operations : List Operation) :
    ∀ s, EpochOrder s → s.epochs[epoch]? = some outcome →
    (side.requests s)[(⟨epoch, account⟩ : RequestKey)]? = some request →
    Run.run apply s operations = .ok t →
    (side.payout account epoch outcome ∉ operations → t.epochs[epoch]? = some outcome ∧
      (side.requests t)[(⟨epoch, account⟩ : RequestKey)]? = some request) ∧
    (side.payout account epoch outcome ∈ operations → Paid side account epoch t) := by
  induction operations with
  | nil =>
      intro s order settled found finished
      cases Run.run_nil.mp finished
      exact ⟨fun _ => ⟨settled, found⟩, fun impossible => by cases impossible⟩
  | cons op operations ih =>
      intro s order settled found finished
      obtain ⟨middle, first, rest⟩ := Run.run_cons.mp finished
      have still := outcome_stable first settled
      cases recordChange side order first settled with
      | kept same other =>
          obtain ⟨untouched, claimed⟩ :=
            ih middle (order.step first) still (same.trans found) rest
          refine ⟨fun absent => untouched fun later => absent (List.mem_cons_of_mem op later), ?_⟩
          intro member
          rcases List.mem_cons.mp member with now | later
          · exact (other now.symm).elim
          · exact claimed later
      | paid request claim found now =>
          refine ⟨fun absent => (absent (claim ▸ List.mem_cons_self)).elim, fun _ => ?_⟩
          exact (Run.run_preserves (fun s => EpochOrder s ∧ Paid side account epoch s)
            (fun _ _ _ success both => ⟨both.1.step success, both.2.step both.1 success⟩)
            operations middle rest
            ⟨order.step first, outcome, _, still, now, rfl⟩).2

/-- Every settled request is payable exactly once: until its payout is made it is accepted and
exact in every later state, whatever the vault status; after it every claim is refused. -/
theorem settled_request_paid_once (side : Side) {outcome : EpochOutcome} {request : Request}
    (reachable : Reachable s) (settled : s.epochs[epoch]? = some outcome)
    (found : (side.requests s)[(⟨epoch, account⟩ : RequestKey)]? = some request)
    (outstanding : request.isOutstanding = true) (operations : List Operation) (t : State)
    (finished : Run.run apply s operations = .ok t) :
    (side.payout account epoch outcome ∉ operations →
      ∃ t', apply t (side.payout account epoch outcome) = .ok t' ∧
        (t'.account account).assets.raw =
          (t.account account).assets.raw + (side.owed request outcome).1 ∧
        (t'.account account).shares.raw =
          (t.account account).shares.raw + (side.owed request outcome).2) ∧
    (side.payout account epoch outcome ∈ operations →
      ∀ op ∈ side.claims account epoch, ∃ rejection, apply t op = .error rejection) := by
  obtain ⟨untouched, paid⟩ := record_until_payout side operations s reachable.epochOrder settled
    found finished
  constructor
  · intro absent
    obtain ⟨still, record⟩ := untouched absent
    exact payout_accepted side (reachable.run finished) still record outstanding
  · intro member
    exact (paid member).rejected

/-- One account deposits, the epoch settles and the vault is frozen before the claim. -/
def sampleFrozen : List Operation :=
  [.requestDeposit sampleHolder 900, .cutoffEpoch 100, .finalizeEpoch,
    .freeze 2]

/-- The holder's deposit of the first epoch is settled and not paid. -/
def sampleOwed (s : State) : Bool :=
  match s.epochs[EpochId.genesis]?,
      s.depositRequests[(⟨.genesis, sampleHolder⟩ : RequestKey)]? with
  | some (.finalized _), some request => request.isOutstanding
  | _, _ => false

theorem settled_request_paid_once_frozen : ∃ s t, Reachable s ∧ s.vaultState = .frozen ∧
    apply s (.claimDeposit sampleHolder .genesis) = .ok t ∧
    ∃ rejection, apply t (.claimDeposit sampleHolder .genesis) = .error rejection := by
  obtain ⟨s, reachable, frozen, owing⟩ := exists_reachable
    (fun s => s.vaultState = .frozen ∧ sampleOwed s = true)
    sampleGenesis sampleFrozen (by decide +kernel)
  unfold sampleOwed at owing
  split at owing
  · rename_i terms request settled found
    have once := settled_request_paid_once .deposit reachable settled found owing
    obtain ⟨t, claimed, -⟩ := (once [] s (Run.run_nil.mpr rfl)).1 (by simp)
    have after := (once [.claimDeposit sampleHolder .genesis] t
      (Run.run_cons.mpr ⟨t, claimed, Run.run_nil.mpr rfl⟩)).2 (by simp [Side.payout])
    exact ⟨s, t, reachable, frozen, claimed, after _ (by simp [Side.claims])⟩
  · cases owing

end Once

end AccountingModel
