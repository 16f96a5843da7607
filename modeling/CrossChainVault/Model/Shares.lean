import CrossChainVault.Model.Backing

set_option autoImplicit false

/- Every share is owned exactly once. -/

namespace AccountingModel

def EpochOutcome.mintedShares : EpochOutcome → Nat
  | .finalized terms => terms.mintedShares.raw
  | .aborted _ => 0

def EpochOutcome.redeemedShares : EpochOutcome → Nat
  | .finalized terms => terms.redeemShares.raw
  | .aborted _ => 0

/-- Shares sit with accounts, in escrow or in the claimable pool, and only settlements mint and
burn them. -/
structure SharesInv (s : State) : Prop where
  owned : s.heldShares + s.escrowedRedeemShares.raw + s.claimableDepositShares.raw =
    s.totalShareSupply.raw
  burned : s.burnedRedemptionShares.raw =
    OrderedMap.sumOf s.epochs fun _ outcome => outcome.redeemedShares
  minted : s.totalShareSupply.raw + s.burnedRedemptionShares.raw =
    OrderedMap.sumOf s.epochs fun _ outcome => outcome.mintedShares

theorem SharesInv.new {genesis : Genesis} {s : State} (success : State.new genesis = .ok s) :
    SharesInv s := by
  obtain ⟨_, _, _, _, _, -, -, -, held, rfl⟩ := State.new_ok success
  refine ⟨?_, ?_, ?_⟩
  · simpa [State.heldShares, State.atGenesis] using held
  · simp [State.atGenesis]
  · simp [State.atGenesis]

theorem SharesInv.step {s s' : State} {op : Operation} (success : apply s op = .ok s')
    (inv : SharesInv s) : SharesInv s' := by
  have owned := inv.owned
  have burned := inv.burned
  have minted := inv.minted
  cases op with
  | requestDeposit account assets =>
      obtain ⟨_, remaining, _, _, _, -, -, -, -, -, -, -, -, -, -, rfl⟩ := requestDeposit_iff.mp success
      refine ⟨?_, burned, minted⟩
      rw [State.heldShares, s.heldShares_setAssets account remaining]
      exact owned
  | cancelDeposit account =>
      obtain ⟨_, _, _, _, returned, _, -, -, -, -, -, -, -, -, -, -, -, rfl⟩ :=
        cancelDeposit_iff.mp success
      refine ⟨?_, burned, minted⟩
      rw [State.heldShares, s.heldShares_setAssets account returned]
      exact owned
  | requestRedeem account shares =>
      obtain ⟨_, remaining, _, _, _, -, -, -, -, -, -, hRemaining, hEscrow, -, -, rfl⟩ :=
        requestRedeem_iff.mp success
      have held := s.heldShares_setShares account remaining
      refine ⟨?_, burned, minted⟩
      simp only [State.heldShares] at owned held ⊢
      omega
  | cancelRedeem account =>
      obtain ⟨_, _, _, _, returned, _, -, -, -, -, -, -, -, hEscrow, -, hReturned, -, rfl⟩ :=
        cancelRedeem_iff.mp success
      have held := s.heldShares_setShares account returned
      refine ⟨?_, burned, minted⟩
      simp only [State.heldShares] at owned held ⊢
      omega
  | finalizeEpoch =>
      obtain ⟨epoch, terms, _, _, _, _, _, _, _, _, _, -, -, -, unsettled, settled, -, -, -, -,
        hSupply, hClaimable, hEscrowed, hBurned, -, rfl⟩ := finalizeEpoch_ok success
      have redeemed := settled.redeemShares
      refine ⟨?_, ?_, ?_⟩
      · simp only [State.heldShares] at owned ⊢
        omega
      · dsimp only
        rw [OrderedMap.sumOf_insert_new _ _ _ _ unsettled, EpochOutcome.redeemedShares, redeemed]
        omega
      · dsimp only
        rw [OrderedMap.sumOf_insert_new _ _ _ _ unsettled, EpochOutcome.mintedShares]
        omega
  | abortEpoch actor =>
      obtain ⟨epoch, _, -, -, unsettled, -, -, rfl⟩ := abortEpoch_ok success
      refine ⟨owned, ?_, ?_⟩
      · dsimp only
        rw [OrderedMap.sumOf_insert_new _ _ _ _ unsettled, EpochOutcome.redeemedShares]
        exact burned
      · dsimp only
        rw [OrderedMap.sumOf_insert_new _ _ _ _ unsettled, EpochOutcome.mintedShares]
        exact minted
  | claimDeposit account epoch =>
      obtain ⟨_, _, _, _, credited, -, -, -, -, hClaimable, hCredited, rfl⟩ :=
        claimDeposit_iff.mp success
      have held := s.heldShares_setShares account credited
      refine ⟨?_, burned, minted⟩
      simp only [State.heldShares] at owned held ⊢
      omega
  | claimRedeem account epoch =>
      obtain ⟨_, _, _, _, credited, -, -, -, -, -, -, rfl⟩ := claimRedeem_iff.mp success
      refine ⟨?_, burned, minted⟩
      rw [State.heldShares, s.heldShares_setAssets account credited]
      exact owned
  | claimAbortedDeposit account epoch =>
      obtain ⟨_, _, _, returned, -, -, -, -, -, rfl⟩ := claimAbortedDeposit_iff.mp success
      refine ⟨?_, burned, minted⟩
      rw [State.heldShares, s.heldShares_setAssets account returned]
      exact owned
  | claimAbortedRedeem account epoch =>
      obtain ⟨_, _, _, returned, -, -, -, hEscrow, hReturned, rfl⟩ :=
        claimAbortedRedeem_iff.mp success
      have held := s.heldShares_setShares account returned
      refine ⟨?_, burned, minted⟩
      simp only [State.heldShares] at owned held ⊢
      omega
  | openNextEpoch now =>
      obtain ⟨_, _, -, -, -, -, -, rfl⟩ := openNextEpoch_ok success
      exact ⟨owned, burned, minted⟩
  | _ =>
      have kept := booksKept success rfl
      refine ⟨?_, ?_, ?_⟩
      · rw [State.heldShares, kept.accounts, kept.escrowed, kept.claimable, kept.supply]
        exact owned
      · rw [kept.burned, kept.epochs]
        exact burned
      · rw [kept.supply, kept.burned, kept.epochs]
        exact minted

theorem Reachable.sharesInv {s : State} (reachable : Reachable s) : SharesInv s :=
  reachable.induct SharesInv (fun _ _ => SharesInv.new) (fun _ _ _ => SharesInv.step)

/-- Only a settlement mints or burns. -/
theorem supply_unchanged {s s' : State} {op : Operation} (success : apply s op = .ok s')
    (other : op ≠ .finalizeEpoch) : s'.totalShareSupply = s.totalShareSupply := by
  cases op with
  | finalizeEpoch => exact (other rfl).elim
  | requestDeposit account assets =>
      obtain ⟨_, _, _, _, _, -, -, -, -, -, -, -, -, -, -, rfl⟩ := requestDeposit_iff.mp success
      rfl
  | cancelDeposit account =>
      obtain ⟨_, _, _, _, _, _, -, -, -, -, -, -, -, -, -, -, -, rfl⟩ := cancelDeposit_iff.mp success
      rfl
  | requestRedeem account shares =>
      obtain ⟨_, _, _, _, _, -, -, -, -, -, -, -, -, -, -, rfl⟩ := requestRedeem_iff.mp success
      rfl
  | cancelRedeem account =>
      obtain ⟨_, _, _, _, _, _, -, -, -, -, -, -, -, -, -, -, -, rfl⟩ := cancelRedeem_iff.mp success
      rfl
  | abortEpoch actor =>
      obtain ⟨_, _, -, -, -, -, -, rfl⟩ := abortEpoch_ok success
      rfl
  | claimDeposit account epoch =>
      obtain ⟨_, _, _, _, _, -, -, -, -, -, -, rfl⟩ := claimDeposit_iff.mp success
      rfl
  | claimRedeem account epoch =>
      obtain ⟨_, _, _, _, _, -, -, -, -, -, -, rfl⟩ := claimRedeem_iff.mp success
      rfl
  | claimAbortedDeposit account epoch =>
      obtain ⟨_, _, _, _, -, -, -, -, -, rfl⟩ := claimAbortedDeposit_iff.mp success
      rfl
  | claimAbortedRedeem account epoch =>
      obtain ⟨_, _, _, _, -, -, -, -, -, rfl⟩ := claimAbortedRedeem_iff.mp success
      rfl
  | openNextEpoch now =>
      obtain ⟨_, _, -, -, -, -, -, rfl⟩ := openNextEpoch_ok success
      rfl
  | _ => exact (booksKept success rfl).supply

/-- Every share is owned exactly once, and every request has at most one outcome. -/
theorem shares_owned_once {s : State} (reachable : Reachable s) :
    s.heldShares + s.escrowedRedeemShares.raw + s.claimableDepositShares.raw =
      s.totalShareSupply.raw ∧
    s.burnedRedemptionShares.raw =
      OrderedMap.sumOf s.epochs (fun _ outcome => outcome.redeemedShares) ∧
    s.totalShareSupply.raw + s.burnedRedemptionShares.raw =
      OrderedMap.sumOf s.epochs (fun _ outcome => outcome.mintedShares) ∧
    (∀ (key : RequestKey) (request : Request),
      s.depositRequests[key]? = some request ∨ s.redeemRequests[key]? = some request →
      (request.cancelled = true → request.amount.raw = 0) ∧
        ¬(request.cancelled = true ∧ request.claimed = true)) ∧
    (∀ (op : Operation) (s' : State), apply s op = .ok s' → op ≠ .finalizeEpoch →
      s'.totalShareSupply = s.totalShareSupply) := by
  have inv := reachable.sharesInv
  obtain ⟨deposits, redeems⟩ := reachable.backed
  refine ⟨inv.owned, inv.burned, inv.minted, ?_, fun op s' => supply_unchanged⟩
  rintro key request (found | found)
  · have lifecycle := deposits.lifecycle key request found
    exact ⟨lifecycle.1.mp, lifecycle.2⟩
  · have lifecycle := redeems.lifecycle key request found
    exact ⟨lifecycle.1.mp, lifecycle.2⟩

/-- One account deposits and claims; then it redeems a part, cancels it and redeems again. -/
def sampleRedemption : List Operation :=
  [.requestDeposit sampleHolder 900, .cutoffEpoch 100, .finalizeEpoch,
    .openNextEpoch 200, .claimDeposit sampleHolder .genesis,
    .requestRedeem sampleHolder 5000000000000, .cancelRedeem sampleHolder,
    .requestRedeem sampleHolder 7000000000000, .cutoffEpoch 300,
    .finalizeEpoch]

theorem shares_owned_once_burning : ∃ s, Reachable s ∧
    s.burnedRedemptionShares.raw = 7000000000000 ∧
    s.heldShares + s.escrowedRedeemShares.raw + s.claimableDepositShares.raw =
      s.totalShareSupply.raw := by
  obtain ⟨s, reachable, burned⟩ := exists_reachable
    (fun s => s.burnedRedemptionShares.raw = 7000000000000) sampleGenesis sampleRedemption
    (by decide +kernel)
  exact ⟨s, reachable, burned, (shares_owned_once reachable).1⟩

end AccountingModel
