import CrossChainVault.Model.Invariant
import CrossChainVault.Model.Settlement

set_option autoImplicit false

/- What the checker finds along the runs of the vault: no rule is ever broken but the price. -/

namespace AccountingModel

open Result

variable {s s' : State} {op : Operation}

theorem Book.Backed.balanced {b : Book} (backed : b.Backed) : b.Balanced :=
  ⟨backed.fresh, backed.pending, backed.escrow, backed.payable, backed.explained⟩

/-- No settlement redeems more shares than there were. -/
def RedeemsSupply (s : State) : Prop :=
  ∀ (id : EpochId) (terms : EpochTerms), s.epochs[id]? = some (.finalized terms) →
    terms.redeemShares.raw ≤ terms.totalSupply.raw

theorem RedeemsSupply.step (success : apply s op = .ok s') (shares : SharesInv s)
    (escrow : s.redeemBook.Backed) (redeems : RedeemsSupply s) : RedeemsSupply s' := by
  intro id terms found
  cases (epochChange success).2 with
  | same outcomes => exact redeems id terms (outcomes ▸ found)
  | opened _ _ outcomes => exact redeems id terms (outcomes ▸ found)
  | finalized epoch written _ current _ settled outcomes =>
      rw [outcomes, OrderedMap.getElem?_insert] at found
      split at found
      · cases found
        have pending := escrow.escrow
        have owned := shares.owned
        rw [settled.redeemShares, settled.totalSupply.1]
        simp only [State.redeemBook, current, Option.map_some, Option.elim_some] at pending
        omega
      · exact redeems id terms found
  | aborted _ _ _ _ outcomes =>
      rw [outcomes, OrderedMap.getElem?_insert] at found
      split at found
      · cases found
      · exact redeems id terms found

theorem Reachable.redeemsSupply (reachable : Reachable s) : RedeemsSupply s := by
  refine (reachable.induct (fun s => Reachable s ∧ RedeemsSupply s) ?_ ?_).2
  · intro genesis start created
    refine ⟨⟨genesis, start, [], created, Run.run_nil.mpr rfl⟩, ?_⟩
    obtain ⟨_, _, _, _, _, -, -, -, -, rfl⟩ := State.new_ok created
    intro id terms found
    simp [State.atGenesis] at found
  · rintro s op s' success ⟨earlier, redeems⟩
    exact ⟨earlier.step success, redeems.step success earlier.sharesInv earlier.backed.2⟩

/-- The virtual shares keep every payout below the assets it is priced at. -/
theorem Reachable.redeemCovered (reachable : Reachable s) {id : EpochId} {terms : EpochTerms}
    (found : s.epochs[id]? = some (.finalized terms)) :
    terms.redeemAssets.raw ≤ terms.totalAssets.raw := by
  obtain ⟨wideAssets, wideShares⟩ := reachable.offsetInv.settled id terms found
  obtain ⟨-, -, redeemed⟩ := reachable.termsPriced id terms found
  have enough := reachable.redeemsSupply id terms found
  have positive := s.offset_pos
  rw [EpochTerms.assetsFor_raw redeemed, EpochTerms.assetRate, Rate.floor, wideAssets, wideShares]
  dsimp only
  apply Nat.le_of_lt_succ
  apply Nat.div_lt_of_lt_mul
  exact Nat.mul_lt_mul_of_pos_right (by omega) (Nat.succ_pos _)

theorem arithmetic_ok_bind {α β : Type} (a : α) (f : α → Except BrokenRule β) :
    (arithmetic (.ok a) >>= f) = f a := rfl

theorem arithmetic_error_bind {α β : Type} (reason : Rejection) (f : α → Except BrokenRule β) :
    (arithmetic (.error reason) >>= f) = .error (.arithmeticFailure reason) := rfl

/-- The conservation check passes unless the assets ever issued leave the width of an amount. -/
theorem AssetInv.checkAssetConservation_eq (inv : AssetInv s) : checkAssetConservation s =
    if s.initialAssetSupply.raw + s.externalInflow.raw < 2 ^ 128 then .ok ()
    else .error (.arithmeticFailure .arithmeticOverflow) := by
  have conserved := inv.conserved
  by_cases fits : s.initialAssetSupply.raw + s.externalInflow.raw < 2 ^ 128
  · rw [if_pos fits]
    exact checkAssetConservation_ok.mpr ⟨fits, conserved⟩
  · rw [if_neg fits]
    have inflow := inv.inflow
    have supply := s.initialAssetSupply.bound
    have held : s.totalAccountAssets = .ok ⟨s.heldAssets, by omega⟩ :=
      State.totalAccountAssets_ok.mpr rfl
    unfold checkAssetConservation
    rw [held, arithmetic_ok_bind]
    rcases addAll_cases s.buckets.pendingDepositEscrow [s.buckets.idleBacking,
      s.buckets.claimReserve, s.buckets.unattributedBalance] with ⟨physical, sum, hPhysical⟩ | sum
    case inr => rw [sum.1, arithmetic_error_bind]
    rw [sum, arithmetic_ok_bind]
    rcases addAll_cases s.buckets.outboundInTransit [s.buckets.inboundInTransit,
      s.remotePrincipalCap, s.recognizedLoss, s.impairedTransport] with ⟨offEvm, sum, hOff⟩ | sum
    case inr => rw [sum.1, arithmetic_error_bind]
    rw [sum, arithmetic_ok_bind]
    rcases addAll_cases ⟨s.heldAssets, by omega⟩ [physical, offEvm] with ⟨accounted, sum, hSum⟩ | sum
    case inr => rw [sum.1, arithmetic_error_bind]
    -- All of the assets do not fit, so their sum cannot have gone through.
    simp only [List.map_cons, List.map_nil, List.sum_cons, List.sum_nil] at hPhysical hOff hSum
    have bound := accounted.bound
    omega

/-- The composition check passes unless all buckets together leave the width of an amount. -/
theorem checkNavComposition_eq : checkNavComposition s =
    if s.tracked < 2 ^ 128 then .ok () else .error (.arithmeticFailure .arithmeticOverflow) := by
  by_cases fits : s.tracked < 2 ^ 128
  · rw [if_pos fits]
    exact checkNavComposition_ok.mpr fits
  · rw [if_neg fits]
    unfold checkNavComposition
    unfold State.tracked at fits
    rcases addAll_cases s.buckets.pendingDepositEscrow [s.buckets.claimReserve,
      s.buckets.unattributedBalance, s.buckets.unattributedInbound] with ⟨excluded, sum, -⟩ | sum
    case inr => rw [Buckets.excludedFromNav, sum.1, arithmetic_error_bind]
    rw [Buckets.excludedFromNav, sum, arithmetic_ok_bind]
    rcases addAll_cases s.managedNav [excluded] with ⟨composed, sum, -⟩ | sum
    case inr => rw [sum.1, arithmetic_error_bind]
    rw [sum, arithmetic_ok_bind, Buckets.total]
    rcases addAll_cases s.buckets.pendingDepositEscrow [s.buckets.idleBacking,
      s.buckets.claimReserve, s.buckets.unattributedBalance, s.buckets.unattributedInbound]
      with ⟨physical, sum, hPhysical⟩ | sum
    case inr =>
      rw [Buckets.physical, sum.1]
      rfl
    rw [Buckets.physical, sum, ok_bind]
    rcases addAll_cases physical [s.buckets.outboundInTransit, s.buckets.acceptedRemoteValue,
      s.buckets.inboundInTransit] with ⟨total, sum, hTotal⟩ | sum
    case inr => rw [sum.1, arithmetic_error_bind]
    simp only [List.map_cons, List.map_nil, List.sum_cons, List.sum_nil] at hPhysical hTotal
    have bound := total.bound
    omega

/-- From any reachable state the checker finds no broken rule but a fallen price; it gives up, with
an overflow, exactly when one of the two sums of all assets does not fit an amount. -/
theorem rules_never_broken (reachable : Reachable s) : checkInvariants s =
    if s.initialAssetSupply.raw + s.externalInflow.raw < 2 ^ 128 ∧ s.tracked < 2 ^ 128 then
      (checkPriceNeverFalls s).mapError .price
    else .error (.arithmeticFailure .arithmeticOverflow) := by
  obtain ⟨deposits, redeems⟩ := reachable.backed
  have shares := reachable.sharesInv
  obtain ⟨escrow, claims, terms⟩ := balanced_iff.mp ⟨deposits.balanced, redeems.balanced,
    reachable.termsPriced, fun id terms found => reachable.redeemCovered found⟩
  have lifecycle := checkRequestLifecycle_ok.mpr fun key request found =>
    found.elim (deposits.lifecycle key request) (redeems.lifecycle key request)
  unfold checkInvariants
  rw [reachable.assetInv.checkAssetConservation_eq, checkNavComposition_eq,
    checkShareConservation_ok.mpr shares.owned, checkBurnedShares_ok.mpr shares.burned, lifecycle,
    escrow, claims, terms]
  by_cases issued : s.initialAssetSupply.raw + s.externalInflow.raw < 2 ^ 128
  · by_cases tracked : s.tracked < 2 ^ 128
    · rw [if_pos issued, if_pos tracked, if_pos ⟨issued, tracked⟩]
      rfl
    · rw [if_pos issued, if_neg tracked, if_neg fun both => tracked both.2]
      rfl
  · simp only [issued, false_and, if_false]
    rfl

/-- A vault that has burned shares passes; one whose donation exceeds the width next to its supply
cannot be added up, though no rule is broken. -/
theorem rules_never_broken_or_overflows :
    (∃ s, Reachable s ∧ s.burnedRedemptionShares.raw = 7000000000000 ∧
      checkInvariants s = .ok ()) ∧
    ∃ s, Reachable s ∧ checkInvariants s = .error (.arithmeticFailure .arithmeticOverflow) := by
  constructor
  · obtain ⟨s, reachable, burned, fits, price⟩ := exists_reachable
      (fun s => s.burnedRedemptionShares.raw = 7000000000000 ∧
        (s.initialAssetSupply.raw + s.externalInflow.raw < 2 ^ 128 ∧ s.tracked < 2 ^ 128) ∧
        checkPriceNeverFalls s = .ok ())
      sampleGenesis sampleRedemption (by decide +kernel)
    refine ⟨s, reachable, burned, ?_⟩
    rw [rules_never_broken reachable, if_pos fits, price]
    rfl
  · obtain ⟨s, reachable, wide⟩ := exists_reachable
      (fun s => ¬s.initialAssetSupply.raw + s.externalInflow.raw < 2 ^ 128)
      { sampleGenesis with accounts := [(sampleHolder, .max)] } [.observeInbound 5]
      (by decide +kernel)
    exact ⟨s, reachable, (rules_never_broken reachable).trans (if_neg fun both => wide both.1)⟩

end AccountingModel
