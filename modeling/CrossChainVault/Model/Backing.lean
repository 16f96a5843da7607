import CrossChainVault.Model.Book
import CrossChainVault.Model.Epochs

set_option autoImplicit false

/- The vault keeps two request books: deposits pay shares, redemptions pay assets. Each accepted
operation is a step of both, so both stay exactly backed. -/

namespace AccountingModel

open Result

/-- Shares per asset at the epoch's price. -/
def EpochTerms.shareRate (terms : EpochTerms) : Rate :=
  ⟨terms.basis.wideShares, terms.basis.wideAssets⟩

/-- Assets per share at the epoch's price. -/
def EpochTerms.assetRate (terms : EpochTerms) : Rate :=
  ⟨terms.basis.wideAssets, terms.basis.wideShares⟩

theorem EpochTerms.sharesFor_raw {terms : EpochTerms} {assets : AssetAmount} {shares : ShareAmount}
    (priced : terms.sharesFor assets = .ok shares) :
    shares.raw = terms.shareRate.floor assets.raw :=
  (assetsToShares_ok.mp priced).2.2.2

theorem EpochTerms.assetsFor_raw {terms : EpochTerms} {shares : ShareAmount} {assets : AssetAmount}
    (priced : terms.assetsFor shares = .ok assets) :
    assets.raw = terms.assetRate.floor shares.raw :=
  (sharesToAssets_ok.mp priced).2.2.2

def EpochOutcome.depositSettlement : EpochOutcome → Settlement
  | .finalized terms => .finalized terms.shareRate terms.depositAssets.raw terms.mintedShares.raw
      terms.depositDust.raw
  | .aborted terms => .aborted terms.refundAssets.raw

def EpochOutcome.redeemSettlement : EpochOutcome → Settlement
  | .finalized terms => .finalized terms.assetRate terms.redeemShares.raw terms.redeemAssets.raw
      terms.redeemDust.raw
  | .aborted terms => .aborted terms.refundShares.raw

namespace State

def depositBook (s : State) : Book where
  requests := s.depositRequests
  current := s.epoch.map fun epoch => (epoch.id, epoch.pendingDepositAssets.raw)
  settled := s.epochs.map fun _ outcome => outcome.depositSettlement
  escrow := s.buckets.pendingDepositEscrow.raw
  payable := s.claimableDepositShares.raw

def redeemBook (s : State) : Book where
  requests := s.redeemRequests
  current := s.epoch.map fun epoch => (epoch.id, epoch.pendingRedeemShares.raw)
  settled := s.epochs.map fun _ outcome => outcome.redeemSettlement
  escrow := s.escrowedRedeemShares.raw
  payable := s.buckets.claimReserve.raw

theorem depositBook_settled {s : State} {id : EpochId} {outcome : EpochOutcome}
    (settled : s.epochs[id]? = some outcome) :
    s.depositBook.settled[id]? = some outcome.depositSettlement := by
  simp [depositBook, settled]

theorem redeemBook_settled {s : State} {id : EpochId} {outcome : EpochOutcome}
    (settled : s.epochs[id]? = some outcome) :
    s.redeemBook.settled[id]? = some outcome.redeemSettlement := by
  simp [redeemBook, settled]

end State

theorem RequestMap.sumIn_eq_ofEpoch (requests : RequestMap) (epoch : EpochId)
    (weight : Request → Nat) :
    requests.sumIn epoch weight = ((requests.ofEpoch epoch).map weight).sum := by
  unfold RequestMap.sumIn RequestMap.ofEpoch OrderedMap.sumOf
  rw [List.map_map]
  induction requests.toList with
  | nil => rfl
  | cons entry entries ih =>
      by_cases here : entry.1.epoch = epoch
      · simp only [List.map_cons, List.sum_cons, List.filter_cons, here, decide_true, if_true, ih,
          Function.comp_apply]
      · simp only [List.map_cons, List.sum_cons, List.filter_cons, here, decide_false, if_false, ih,
          Nat.zero_add, Bool.false_eq_true]

/-- The pricing loop adds up exactly the floor price of the active requests. -/
theorem priceRequests_total {price : Unsigned 128 → Except Rejection (Unsigned 128)} {rate : Rate}
    (priced : ∀ amount value, price amount = .ok value → value.raw = rate.floor amount.raw)
    {requests : List Request} {owed : Unsigned 128 × Unsigned 128}
    (success : State.priceRequests price requests = .ok owed) :
    owed.1.raw = (requests.map (Request.activePrice rate)).sum := by
  suffices loop : ∀ (rest : List Request) (start final : Unsigned 128 × Unsigned 128),
      rest.foldlM (fun owed request =>
        if request.isActive then do
          let value ← price request.amount
          let total ← checkedAdd owed.1 value
          if request.claimed then pure (total, owed.2)
          else do
            let unclaimed ← checkedAdd owed.2 value
            pure (total, unclaimed)
        else pure owed) start = .ok final →
      final.1.raw = start.1.raw + (rest.map (Request.activePrice rate)).sum by
    simpa using loop requests _ owed success
  intro rest
  induction rest with
  | nil =>
      intro start final finished
      simp only [List.foldlM_nil, pure_eq_ok] at finished
      simp [finished]
  | cons request rest ih =>
      intro start final finished
      simp only [List.foldlM_cons, bind_eq_ok] at finished
      obtain ⟨middle, first, finished⟩ := finished
      have tail := ih middle final finished
      have head : middle.1.raw = start.1.raw + request.activePrice rate := by
        unfold Request.activePrice
        split at first
        · rename_i active
          simp only [bind_eq_ok, checkedAdd_ok] at first
          obtain ⟨value, hValue, total, hTotal, first⟩ := first
          rw [if_pos active, ← priced _ _ hValue, ← hTotal]
          split at first
          · rw [pure_eq_ok] at first
            rw [← first]
          · simp only [bind_eq_ok, pure_eq_ok] at first
            obtain ⟨_, -, first⟩ := first
            rw [← first]
        · rename_i inactive
          rw [pure_eq_ok] at first
          rw [if_neg inactive, first, Nat.add_zero]
      simp only [List.map_cons, List.sum_cons]
      omega

/-- What an epoch's requests are owed is the sum of their own prices. -/
theorem entitlements_ok {s : State} {epoch : EpochId} {terms : EpochTerms} {owed : Entitlements}
    (entitled : s.entitlements epoch terms = .ok owed) :
    owed.depositShares.raw = s.depositRequests.sumIn epoch (Request.activePrice terms.shareRate) ∧
      owed.redeemAssets.raw =
        s.redeemRequests.sumIn epoch (Request.activePrice terms.assetRate) := by
  simp only [State.entitlements, bind_eq_ok, pure_eq_ok] at entitled
  obtain ⟨deposits, hDeposits, redeems, hRedeems, rfl⟩ := entitled
  rw [RequestMap.sumIn_eq_ofEpoch, RequestMap.sumIn_eq_ofEpoch]
  exact ⟨priceRequests_total (fun _ _ => EpochTerms.sharesFor_raw) hDeposits,
    priceRequests_total (fun _ _ => EpochTerms.assetsFor_raw) hRedeems⟩

theorem Settled.depositOwed {s : State} {epoch : Epoch} {terms : EpochTerms} {owed : Entitlements}
    (settled : Settled s epoch terms owed) :
    owed.depositShares.raw =
      s.depositRequests.sumIn epoch.id (Request.activePrice terms.shareRate) :=
  (entitlements_ok settled.entitled).1

theorem Settled.redeemOwed {s : State} {epoch : Epoch} {terms : EpochTerms} {owed : Entitlements}
    (settled : Settled s epoch terms owed) :
    owed.redeemAssets.raw =
      s.redeemRequests.sumIn epoch.id (Request.activePrice terms.assetRate) :=
  (entitlements_ok settled.entitled).2

section Refinement

variable {s s' : State} {op : Operation}

private theorem depositBook_finalize (success : finalizeEpoch s = .ok s') :
    Book.Step s.depositBook s'.depositBook := by
  obtain ⟨epoch, terms, owed, _, _, _, _, _, _, _, _, -, found, -, -, settled, -, -, hEscrow, -, -,
    hClaimable, -, -, -, rfl⟩ := finalizeEpoch_ok success
  have minted := EpochTerms.sharesFor_raw settled.mintedShares
  have dust := settled.depositDust
  rw [settled.depositOwed, minted, settled.depositAssets] at dust
  have step := Book.Step.finalize s.depositBook epoch.id epoch.pendingDepositAssets.raw _
    terms.shareRate terms.depositDust.raw (by simp [State.depositBook, found]) hEscrow dust
  rw [← settled.depositAssets, ← minted] at step
  simp only [State.depositBook, ← hClaimable] at step ⊢
  rw [OrderedMap.map_insert]
  exact step

private theorem redeemBook_finalize (success : finalizeEpoch s = .ok s') :
    Book.Step s.redeemBook s'.redeemBook := by
  obtain ⟨epoch, terms, owed, _, _, _, _, _, _, _, _, -, found, -, -, settled, -, -, -, hReserve, -,
    -, hEscrowed, -, -, rfl⟩ := finalizeEpoch_ok success
  have redeemed := EpochTerms.assetsFor_raw settled.redeemAssets
  have dust := settled.redeemDust
  rw [settled.redeemOwed, redeemed, settled.redeemShares] at dust
  have step := Book.Step.finalize s.redeemBook epoch.id epoch.pendingRedeemShares.raw _
    terms.assetRate terms.redeemDust.raw (by simp [State.redeemBook, found]) hEscrowed dust
  rw [← settled.redeemShares, ← redeemed] at step
  simp only [State.redeemBook, ← hReserve] at step ⊢
  rw [OrderedMap.map_insert]
  exact step

/-- Every accepted operation is a step of the deposit book. -/
theorem depositBook_step (order : EpochOrder s) (success : apply s op = .ok s') :
    Book.Step s.depositBook s'.depositBook := by
  cases op with
  | requestDeposit account assets =>
      obtain ⟨epoch, _, _, _, requested, -, found, -, nonzero, -, unclaimed, -, hEscrow, hTotal,
        hRequested, rfl⟩ := requestDeposit_iff.mp success
      have step := Book.Step.request s.depositBook ⟨epoch.id, account⟩
        epoch.pendingDepositAssets.raw
        { s.depositRequests[(⟨epoch.id, account⟩ : RequestKey)]?.getD .empty with
          amount := requested, cancelled := false }
        assets.raw (by simp [State.depositBook, found]) nonzero hRequested rfl unclaimed
      simp only [State.depositBook, ← hTotal, ← hEscrow] at step ⊢
      exact step
  | cancelDeposit account =>
      obtain ⟨epoch, request, _, _, _, _, -, found, -, recorded, unclaimed, live, -, hEscrow, hTotal,
        -, -, rfl⟩ := cancelDeposit_iff.mp success
      exact .cancel s.depositBook ⟨epoch.id, account⟩ _ _ request _
        (by simp [State.depositBook, found, hTotal]) recorded live hEscrow rfl rfl unclaimed
  | requestRedeem account shares =>
      obtain ⟨_, _, _, _, _, -, found, -, -, -, -, -, -, -, -, rfl⟩ := requestRedeem_iff.mp success
      simp only [State.depositBook, found]
      exact .stay _
  | cancelRedeem account =>
      obtain ⟨_, _, _, _, _, _, -, found, -, -, -, -, -, -, -, -, -, rfl⟩ :=
        cancelRedeem_iff.mp success
      simp only [State.depositBook, found]
      exact .stay _
  | finalizeEpoch => exact depositBook_finalize success
  | abortEpoch actor =>
      obtain ⟨epoch, _, -, found, -, -, -, rfl⟩ := abortEpoch_ok success
      have step := Book.Step.abort s.depositBook epoch.id epoch.pendingDepositAssets.raw
        (by simp [State.depositBook, found])
      simp only [State.depositBook] at step ⊢
      rw [OrderedMap.map_insert]
      exact step
  | claimDeposit account epoch =>
      obtain ⟨terms, request, shares, _, _, settled, found, outstanding, priced, hClaimable, -,
        rfl⟩ := claimDeposit_iff.mp success
      rw [EpochTerms.sharesFor_raw priced] at hClaimable
      exact .claim s.depositBook ⟨epoch, account⟩ request _ _ _ _ _
        (State.depositBook_settled settled) found outstanding hClaimable
  | claimRedeem account epoch =>
      obtain ⟨_, _, _, _, _, -, -, -, -, -, -, rfl⟩ := claimRedeem_iff.mp success
      exact .stay _
  | claimAbortedDeposit account epoch =>
      obtain ⟨terms, request, _, _, settled, found, outstanding, hEscrow, -, rfl⟩ :=
        claimAbortedDeposit_iff.mp success
      exact .refund s.depositBook ⟨epoch, account⟩ request _ _
        (State.depositBook_settled settled) found outstanding hEscrow
  | claimAbortedRedeem account epoch =>
      obtain ⟨_, _, _, _, -, -, -, -, -, rfl⟩ := claimAbortedRedeem_iff.mp success
      exact .stay _
  | openNextEpoch now =>
      obtain ⟨_, _, -, closed, -, -, -, rfl⟩ := openNextEpoch_ok success
      refine .openEpoch s.depositBook s.nextEpochId (by simp [State.depositBook, closed]) ?_
      have unused : s.epochs[s.nextEpochId]? = none := by
        rw [← Option.not_isSome_iff_eq_none]
        exact fun settled => Nat.lt_irrefl _ (order.settledBelowNext _ settled)
      simp [State.depositBook, unused]
  | _ =>
      have kept := booksKept success rfl
      have pending := congrArg (Option.map fun e : EpochId × AssetAmount => (e.1, e.2.raw))
        kept.pendingDeposits
      simp only [Option.map_map] at pending
      have same : s'.depositBook = s.depositBook := by
        simp only [State.depositBook, kept.depositRequests, kept.epochs, kept.escrow,
          kept.claimable, Book.mk.injEq, true_and, and_true]
        exact pending
      rw [same]
      exact .stay _

/-- Every accepted operation is a step of the redemption book. -/
theorem redeemBook_step (order : EpochOrder s) (success : apply s op = .ok s') :
    Book.Step s.redeemBook s'.redeemBook := by
  cases op with
  | requestRedeem account shares =>
      obtain ⟨epoch, _, _, _, requested, -, found, -, nonzero, -, unclaimed, -, hEscrow, hTotal,
        hRequested, rfl⟩ := requestRedeem_iff.mp success
      have step := Book.Step.request s.redeemBook ⟨epoch.id, account⟩
        epoch.pendingRedeemShares.raw
        { s.redeemRequests[(⟨epoch.id, account⟩ : RequestKey)]?.getD .empty with
          amount := requested, cancelled := false }
        shares.raw (by simp [State.redeemBook, found]) nonzero hRequested rfl unclaimed
      simp only [State.redeemBook, ← hTotal, ← hEscrow] at step ⊢
      exact step
  | cancelRedeem account =>
      obtain ⟨epoch, request, _, _, _, _, -, found, -, recorded, unclaimed, live, -, hEscrow, hTotal,
        -, -, rfl⟩ := cancelRedeem_iff.mp success
      exact .cancel s.redeemBook ⟨epoch.id, account⟩ _ _ request _
        (by simp [State.redeemBook, found, hTotal]) recorded live hEscrow rfl rfl unclaimed
  | requestDeposit account assets =>
      obtain ⟨_, _, _, _, _, -, found, -, -, -, -, -, -, -, -, rfl⟩ := requestDeposit_iff.mp success
      simp only [State.redeemBook, found]
      exact .stay _
  | cancelDeposit account =>
      obtain ⟨_, _, _, _, _, _, -, found, -, -, -, -, -, -, -, -, -, rfl⟩ :=
        cancelDeposit_iff.mp success
      simp only [State.redeemBook, found]
      exact .stay _
  | finalizeEpoch => exact redeemBook_finalize success
  | abortEpoch actor =>
      obtain ⟨epoch, _, -, found, -, -, -, rfl⟩ := abortEpoch_ok success
      have step := Book.Step.abort s.redeemBook epoch.id epoch.pendingRedeemShares.raw
        (by simp [State.redeemBook, found])
      simp only [State.redeemBook] at step ⊢
      rw [OrderedMap.map_insert]
      exact step
  | claimRedeem account epoch =>
      obtain ⟨terms, request, assets, _, _, settled, found, outstanding, priced, hReserve, -,
        rfl⟩ := claimRedeem_iff.mp success
      rw [EpochTerms.assetsFor_raw priced] at hReserve
      exact .claim s.redeemBook ⟨epoch, account⟩ request _ _ _ _ _
        (State.redeemBook_settled settled) found outstanding hReserve
  | claimDeposit account epoch =>
      obtain ⟨_, _, _, _, _, -, -, -, -, -, -, rfl⟩ := claimDeposit_iff.mp success
      exact .stay _
  | claimAbortedRedeem account epoch =>
      obtain ⟨terms, request, _, _, settled, found, outstanding, hEscrow, -, rfl⟩ :=
        claimAbortedRedeem_iff.mp success
      exact .refund s.redeemBook ⟨epoch, account⟩ request _ _
        (State.redeemBook_settled settled) found outstanding hEscrow
  | claimAbortedDeposit account epoch =>
      obtain ⟨_, _, _, _, -, -, -, -, -, rfl⟩ := claimAbortedDeposit_iff.mp success
      exact .stay _
  | openNextEpoch now =>
      obtain ⟨_, _, -, closed, -, -, -, rfl⟩ := openNextEpoch_ok success
      refine .openEpoch s.redeemBook s.nextEpochId (by simp [State.redeemBook, closed]) ?_
      have unused : s.epochs[s.nextEpochId]? = none := by
        rw [← Option.not_isSome_iff_eq_none]
        exact fun settled => Nat.lt_irrefl _ (order.settledBelowNext _ settled)
      simp [State.redeemBook, unused]
  | _ =>
      have kept := booksKept success rfl
      have pending := congrArg (Option.map fun e : EpochId × ShareAmount => (e.1, e.2.raw))
        kept.pendingRedeems
      simp only [Option.map_map] at pending
      have same : s'.redeemBook = s.redeemBook := by
        simp only [State.redeemBook, kept.redeemRequests, kept.epochs, kept.escrowed,
          kept.reserve, Book.mk.injEq, true_and, and_true]
        exact pending
      rw [same]
      exact .stay _

end Refinement

private theorem fresh_backed (epoch : EpochId) :
    Book.Backed ⟨∅, some (epoch, 0), ∅, 0, 0⟩ := by
  constructor
  case pending =>
    rintro _ _ current
    cases current
    simp [RequestMap.sumIn]
  all_goals simp

theorem Reachable.backed {s : State} (reachable : Reachable s) :
    s.depositBook.Backed ∧ s.redeemBook.Backed := by
  refine (reachable.induct (fun s => EpochOrder s ∧ s.depositBook.Backed ∧ s.redeemBook.Backed)
    ?_ ?_).2
  · intro genesis start created
    refine ⟨EpochOrder.new created, ?_⟩
    obtain ⟨_, _, _, _, _, -, -, -, -, rfl⟩ := State.new_ok created
    exact ⟨fresh_backed _, fresh_backed _⟩
  · rintro s op s' success ⟨order, deposits, redeems⟩
    exact ⟨order.step success, deposits.step (depositBook_step order success),
      redeems.step (redeemBook_step order success)⟩

end AccountingModel
