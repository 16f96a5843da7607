import CrossChainVault.Model.Claims
import CrossChainVault.Model.Invariant

set_option autoImplicit false

/- What the vault still owes, added up from the request records alone. -/

namespace AccountingModel

open Result

namespace State

/-- Adds up what the settled epochs owe. An epoch that owes nothing of this kind is passed over. -/
def outstanding (s : State)
    (owed : EpochId → EpochOutcome → Option (Except Rejection (Unsigned 128))) :
    Except Rejection (Unsigned 128) :=
  s.epochs.toList.foldlM (fun total entry =>
    match owed entry.1 entry.2 with
    | none => pure total
    | some computed => do
        let amount ← computed
        checkedAdd total amount) .zero

/-- Assets still owed to holders of finalized redemption claims. -/
def outstandingRedeemAssets (s : State) : Except Rejection AssetAmount :=
  s.outstanding fun id outcome =>
    match outcome with
    | .finalized terms => some ((s.entitlements id terms).map Entitlements.unclaimedRedeemAssets)
    | .aborted _ => none

/-- Shares still owed to holders of finalized deposit claims. -/
def outstandingDepositShares (s : State) : Except Rejection ShareAmount :=
  s.outstanding fun id outcome =>
    match outcome with
    | .finalized terms => some ((s.entitlements id terms).map Entitlements.unclaimedDepositShares)
    | .aborted _ => none

/-- Assets still refundable from epochs that were aborted. -/
def outstandingRefundAssets (s : State) : Except Rejection AssetAmount :=
  s.outstanding fun id outcome =>
    match outcome with
    | .finalized _ => none
    | .aborted _ => some ((s.requestTotals id).map RequestTotals.unclaimedDepositAssets)

/-- Shares still refundable from epochs that were aborted. -/
def outstandingRefundShares (s : State) : Except Rejection ShareAmount :=
  s.outstanding fun id outcome =>
    match outcome with
    | .finalized _ => none
    | .aborted _ => some ((s.requestTotals id).map RequestTotals.unclaimedRedeemShares)

/-- What no claim of an epoch can reach: shares of its deposits, assets of its redemptions. -/
def dustOf (redeem : Bool) : EpochOutcome → Nat
  | .finalized terms => if redeem then terms.redeemDust.raw else terms.depositDust.raw
  | .aborted _ => 0

end State

section Sum

variable {s : State} {owed : EpochId → EpochOutcome → Option (Except Rejection (Unsigned 128))}
  {weight : EpochId → EpochOutcome → Nat}

/-- What one epoch owes can be computed, and is its weight. -/
def Computes (owed : Option (Except Rejection (Unsigned 128))) (weight : Nat) : Prop :=
  match owed with
  | none => weight = 0
  | some computed => ∃ amount, computed = .ok amount ∧ amount.raw = weight

/-- The sum goes through exactly when it fits, and is then exact. -/
theorem outstanding_ok (exact : ∀ (id : EpochId) (outcome : EpochOutcome),
      s.epochs[id]? = some outcome → Computes (owed id outcome) (weight id outcome))
    (total : Unsigned 128) :
    s.outstanding owed = .ok total ↔ total.raw = OrderedMap.sumOf s.epochs weight := by
  have turn (sum : Unsigned 128) (entry : EpochId × EpochOutcome) (next : Unsigned 128)
      (member : entry ∈ s.epochs.toList) :
      (match owed entry.1 entry.2 with
        | none => pure sum
        | some computed => do
            let amount ← computed
            checkedAdd sum amount) = .ok next ↔ True ∧ ∀ i, (Counters.one 128).read next i =
        (Counters.one 128).read sum i + weight entry.1 entry.2 := by
    have found := Std.ExtTreeMap.mem_toList_iff_getElem?_eq_some.mp member
    have computes := exact entry.1 entry.2 found
    simp only [true_and, Counters.one, forall_const]
    cases computed : owed entry.1 entry.2 with
    | none =>
        rw [computed] at computes
        rw [pure_eq_ok, show weight entry.1 entry.2 = 0 from computes]
        constructor
        · rintro rfl
          rfl
        · intro same
          exact (Unsigned.ext same).symm
    | some result =>
        rw [computed] at computes
        obtain ⟨amount, rfl, value⟩ := computes
        dsimp only
        rw [ok_bind, checkedAdd_ok, value]
  have loop := (Counters.one 128).foldlM_ok s.epochs.toList turn .zero total
  simp only [Counters.one, implies_true, true_and, forall_const] at loop
  rw [State.outstanding, loop]
  exact Eq.congr_right (Nat.zero_add _)

end Sum

section Reachable

variable {s : State} {id : EpochId}

theorem sumIn_unclaimed_le (requests : RequestMap) (epoch : EpochId) (weight : Request → Nat) :
    requests.sumIn epoch (Request.unclaimed weight) ≤ requests.sumIn epoch weight := by
  apply OrderedMap.sumOf_le
  intro key request _
  split
  · exact request.unclaimed_le weight
  · exact Nat.le_refl 0

/-- What the requests of a finalized epoch are owed can always be computed. -/
theorem Reachable.entitled (reachable : Reachable s) {terms : EpochTerms}
    (found : s.epochs[id]? = some (.finalized terms)) :
    ∃ owed, s.entitlements id terms = .ok owed ∧
      owed.unclaimedDepositShares.raw = s.depositRequests.sumIn id
        (Request.unclaimed (Request.activePrice terms.shareRate)) ∧
      owed.unclaimedRedeemAssets.raw = s.redeemRequests.sumIn id
        (Request.unclaimed (Request.activePrice terms.assetRate)) := by
  obtain ⟨deposits, redeems⟩ := reachable.backed
  obtain ⟨-, minted, redeemed⟩ := reachable.termsPriced id terms found
  have shares := deposits.explained id _ (State.depositBook_settled found)
  have assets := redeems.explained id _ (State.redeemBook_settled found)
  obtain ⟨-, -, dustShares, -⟩ := shares
  obtain ⟨-, -, dustAssets, -⟩ := assets
  simp only [State.depositBook] at dustShares
  simp only [State.redeemBook] at dustAssets
  have boundShares := terms.mintedShares.bound
  have boundAssets := terms.redeemAssets.bound
  have lessShares := sumIn_unclaimed_le s.depositRequests id (Request.activePrice terms.shareRate)
  have lessAssets := sumIn_unclaimed_le s.redeemRequests id (Request.activePrice terms.assetRate)
  refine ⟨⟨⟨s.depositRequests.sumIn id (Request.activePrice terms.shareRate), by omega⟩,
    ⟨s.depositRequests.sumIn id (Request.unclaimed (Request.activePrice terms.shareRate)), by omega⟩,
    ⟨s.redeemRequests.sumIn id (Request.activePrice terms.assetRate), by omega⟩,
    ⟨s.redeemRequests.sumIn id (Request.unclaimed (Request.activePrice terms.assetRate)), by
      omega⟩⟩, ?_, rfl, rfl⟩
  exact (State.entitlements_ok_iff (EpochTerms.sharesFor_iff minted)
    (EpochTerms.assetsFor_iff redeemed)).mpr ⟨rfl, rfl, rfl, rfl⟩

/-- What the requests of an aborted epoch add up to can always be computed. -/
theorem Reachable.totalled (reachable : Reachable s) {terms : AbortedTerms}
    (found : s.epochs[id]? = some (.aborted terms)) :
    ∃ totals, s.requestTotals id = .ok totals ∧
      totals.unclaimedDepositAssets.raw =
        s.depositRequests.sumIn id (Request.unclaimed Request.activeAmount) ∧
      totals.unclaimedRedeemShares.raw =
        s.redeemRequests.sumIn id (Request.unclaimed Request.activeAmount) := by
  obtain ⟨deposits, redeems⟩ := reachable.backed
  have assets := deposits.explained id _ (State.depositBook_settled found)
  have shares := redeems.explained id _ (State.redeemBook_settled found)
  simp only [EpochOutcome.depositSettlement, Book.Explained, State.depositBook] at assets
  simp only [EpochOutcome.redeemSettlement, Book.Explained, State.redeemBook] at shares
  obtain ⟨totals, found⟩ := State.requestTotals_fits
    (by rw [← assets]; exact terms.refundAssets.bound)
    (by rw [← shares]; exact terms.refundShares.bound)
  obtain ⟨-, -, unclaimedAssets, unclaimedShares, -⟩ := State.requestTotals_ok.mp found
  exact ⟨totals, found, unclaimedAssets, unclaimedShares⟩

/-- What claims can still reach in one epoch: shares of its deposits, assets of its redemptions. -/
def State.stillOwed (s : State) (redeem : Bool) (id : EpochId) : EpochOutcome → Nat
  | .finalized terms =>
      if redeem then
        s.redeemRequests.sumIn id (Request.unclaimed (Request.activePrice terms.assetRate))
      else s.depositRequests.sumIn id (Request.unclaimed (Request.activePrice terms.shareRate))
  | .aborted _ => 0

theorem claimable_split (redeem : Bool) :
    OrderedMap.sumOf s.epochs (fun id outcome => s.claimable (id, outcome) redeem) =
      OrderedMap.sumOf s.epochs (s.stillOwed redeem) +
        OrderedMap.sumOf s.epochs fun _ outcome => State.dustOf redeem outcome := by
  rw [← OrderedMap.sumOf_add]
  apply OrderedMap.sumOf_congr
  intro id outcome _
  cases outcome <;> cases redeem <;> rfl

/-- The counters of both books, split into what the records still owe and the rest. -/
theorem Reachable.counters (reachable : Reachable s) :
    s.buckets.claimReserve.raw = OrderedMap.sumOf s.epochs (s.stillOwed true) +
        OrderedMap.sumOf s.epochs (fun _ outcome => State.dustOf true outcome) ∧
      s.claimableDepositShares.raw = OrderedMap.sumOf s.epochs (s.stillOwed false) +
        OrderedMap.sumOf s.epochs (fun _ outcome => State.dustOf false outcome) ∧
      s.buckets.pendingDepositEscrow.raw =
        OrderedMap.sumOf s.epochs (fun id outcome => s.refundable (id, outcome) false) +
          s.pendingNow false ∧
      s.escrowedRedeemShares.raw =
        OrderedMap.sumOf s.epochs (fun id outcome => s.refundable (id, outcome) true) +
          s.pendingNow true := by
  obtain ⟨deposits, redeems⟩ := reachable.backed
  have depositEscrow := deposits.escrow
  have redeemEscrow := redeems.escrow
  have claimable := deposits.payable
  have reserve := redeems.payable
  rw [State.depositBook_pending] at depositEscrow
  rw [State.redeemBook_pending] at redeemEscrow
  simp only [State.depositBook, State.redeemBook, OrderedMap.sumOf_map]
    at depositEscrow redeemEscrow claimable reserve
  refine ⟨?_, ?_, ?_, ?_⟩
  · rw [← claimable_split]
    exact reserve
  · rw [← claimable_split]
    exact claimable
  · rw [Nat.add_comm]
    exact depositEscrow
  · rw [Nat.add_comm]
    exact redeemEscrow

/-- In every reachable state the four sums over the request records go through, and are exactly the
vault's own counters: with the dust no claim can reach they are its reserves, and with the amounts
the current epoch still holds they are its escrows. -/
theorem outstanding_exact (reachable : Reachable s) :
    (∃ assets, s.outstandingRedeemAssets = .ok assets ∧ s.buckets.claimReserve.raw =
      assets.raw + OrderedMap.sumOf s.epochs fun _ outcome => State.dustOf true outcome) ∧
    (∃ shares, s.outstandingDepositShares = .ok shares ∧ s.claimableDepositShares.raw =
      shares.raw + OrderedMap.sumOf s.epochs fun _ outcome => State.dustOf false outcome) ∧
    (∃ assets, s.outstandingRefundAssets = .ok assets ∧
      s.buckets.pendingDepositEscrow.raw = assets.raw + s.pendingNow false) ∧
    ∃ shares, s.outstandingRefundShares = .ok shares ∧
      s.escrowedRedeemShares.raw = shares.raw + s.pendingNow true := by
  obtain ⟨reserve, claimable, depositEscrow, redeemEscrow⟩ := reachable.counters
  have boundReserve := s.buckets.claimReserve.bound
  have boundClaimable := s.claimableDepositShares.bound
  have boundDeposits := s.buckets.pendingDepositEscrow.bound
  have boundRedeems := s.escrowedRedeemShares.bound
  refine ⟨?_, ?_, ?_, ?_⟩
  · refine ⟨⟨OrderedMap.sumOf s.epochs (s.stillOwed true), by omega⟩, ?_, reserve⟩
    apply (outstanding_ok _ _).mpr rfl
    intro id outcome found
    cases outcome with
    | finalized terms =>
        obtain ⟨owed, computed, -, assets⟩ := reachable.entitled found
        exact ⟨owed.unclaimedRedeemAssets, by rw [computed]; rfl, assets⟩
    | aborted terms => rfl
  · refine ⟨⟨OrderedMap.sumOf s.epochs (s.stillOwed false), by omega⟩, ?_, claimable⟩
    apply (outstanding_ok _ _).mpr rfl
    intro id outcome found
    cases outcome with
    | finalized terms =>
        obtain ⟨owed, computed, shares, -⟩ := reachable.entitled found
        exact ⟨owed.unclaimedDepositShares, by rw [computed]; rfl, shares⟩
    | aborted terms => rfl
  · refine ⟨⟨OrderedMap.sumOf s.epochs fun id outcome => s.refundable (id, outcome) false, by omega⟩,
      (@outstanding_ok s _ (fun id outcome => s.refundable (id, outcome) false) ?_ _).mpr rfl, depositEscrow⟩
    intro id outcome found
    cases outcome with
    | finalized terms => rfl
    | aborted terms =>
        obtain ⟨totals, computed, assets, -⟩ := reachable.totalled found
        exact ⟨totals.unclaimedDepositAssets, by rw [computed]; rfl, assets⟩
  · refine ⟨⟨OrderedMap.sumOf s.epochs fun id outcome => s.refundable (id, outcome) true, by omega⟩,
      (@outstanding_ok s _ (fun id outcome => s.refundable (id, outcome) true) ?_ _).mpr rfl, redeemEscrow⟩
    intro id outcome found
    cases outcome with
    | finalized terms => rfl
    | aborted terms =>
        obtain ⟨totals, computed, -, shares⟩ := reachable.totalled found
        exact ⟨totals.unclaimedRedeemShares, by rw [computed]; rfl, shares⟩

/-- Of a reserve of two units one is still owed, and no claim can reach the other. -/
theorem outstanding_exact_dust : ∃ s, Reachable s ∧ s.outstandingRedeemAssets = .ok 1 ∧
    s.buckets.claimReserve.raw = 2 ∧
    OrderedMap.sumOf s.epochs (fun _ outcome => State.dustOf true outcome) = 1 := by
  obtain ⟨s, reachable, reserve, owed⟩ := exists_reachable
    (fun s => s.buckets.claimReserve.raw = 2 ∧ s.outstandingRedeemAssets = .ok 1)
    sampleGenesis sampleDust (by decide +kernel)
  obtain ⟨⟨assets, computed, split⟩, -⟩ := outstanding_exact reachable
  rw [owed] at computed
  cases computed
  refine ⟨s, reachable, owed, reserve, ?_⟩
  rw [reserve] at split
  exact (Nat.add_left_cancel (split : 1 + 1 = 1 + _)).symm

end Reachable

end AccountingModel
