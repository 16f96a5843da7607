import CrossChainVault.Model.Price
import CrossChainVault.Model.Totals

set_option autoImplicit false

/- The model's own checker: it accepts exactly the states that keep every accounting rule. -/

namespace AccountingModel

open Result

/-- A broken accounting rule; the price rule has its own check. -/
inductive BrokenRule
  | assetConservation
  | shareConservation
  | navCompositionMismatch
  | escrowAggregateMismatch
  | burnedSharesMismatch
  | claimReserveNotExplained
  | claimableSharesNotExplained
  | requestLifecycleInvalid
  | epochAggregateMismatch
  | epochTermsInconsistent
  | settledEpochStillCurrent
  | abortedRefundMismatch
  | dustOutOfBounds
  | price (violation : Violation)
  | arithmeticFailure (reason : Rejection)
deriving DecidableEq

/-- A failed computation is reported with its cause. -/
def arithmetic {α : Type} (x : Except Rejection α) : Except BrokenRule α :=
  x.mapError .arithmeticFailure

/-- Cancelling empties the amount, so the two must always agree. -/
def Request.flagsAgree (request : Request) : Bool :=
  request.cancelled == request.amount.isZero && !(request.cancelled && request.claimed)

def checkAssetConservation (s : State) : Except BrokenRule Unit := do
  let held ← arithmetic s.totalAccountAssets
  let physical ← arithmetic (addAll s.buckets.pendingDepositEscrow
    [s.buckets.idleBacking, s.buckets.claimReserve, s.buckets.unattributedBalance])
  let offEvm ← arithmetic (addAll s.buckets.outboundInTransit
    [s.buckets.inboundInTransit, s.remotePrincipalCap, s.recognizedLoss, s.impairedTransport])
  let accounted ← arithmetic (addAll held [physical, offEvm])
  let issued ← arithmetic (addAll s.initialAssetSupply [s.externalInflow])
  rejectIf (accounted ≠ issued) .assetConservation

def checkNavComposition (s : State) : Except BrokenRule Unit := do
  let excluded ← arithmetic s.buckets.excludedFromNav
  let composed ← arithmetic (addAll s.managedNav [excluded])
  let total ← arithmetic s.buckets.total
  rejectIf (composed ≠ total) .navCompositionMismatch

def checkShareConservation (s : State) : Except BrokenRule Unit := do
  let held ← arithmetic s.totalAccountShares
  let accounted ← arithmetic (addAll held [s.escrowedRedeemShares, s.claimableDepositShares])
  rejectIf (accounted ≠ s.totalShareSupply) .shareConservation

def checkBurnedShares (s : State) : Except BrokenRule Unit := do
  let burned ← arithmetic (s.epochs.toList.foldlM (fun burned entry => match entry.2 with
    | .finalized terms => checkedAdd burned terms.redeemShares
    | .aborted _ => pure burned) (.zero : ShareAmount))
  rejectIf (burned ≠ s.burnedRedemptionShares) .burnedSharesMismatch

/-- A cancelled request is empty, and no request holds two outcomes at once. -/
def checkRequestLifecycle (s : State) : Except BrokenRule Unit := do
  forM s.depositRequests.toList fun entry =>
    rejectIf (entry.2.flagsAgree = false) .requestLifecycleInvalid
  forM s.redeemRequests.toList fun entry =>
    rejectIf (entry.2.flagsAgree = false) .requestLifecycleInvalid

/-- What the current epoch has in escrow. -/
def checkCurrentEpoch (s : State) : Except BrokenRule (AssetAmount × ShareAmount) :=
  match s.epoch with
  | none => pure (.zero, .zero)
  | some epoch => do
      rejectIf (s.epochs[epoch.id]?.isSome) .settledEpochStillCurrent
      let totals ← arithmetic (s.requestTotals epoch.id)
      rejectIf (totals.depositAssets ≠ epoch.pendingDepositAssets ∨
        totals.redeemShares ≠ epoch.pendingRedeemShares) .epochAggregateMismatch
      pure (totals.depositAssets, totals.redeemShares)

/-- What one aborted epoch still owes is added to the escrow it explains. -/
def checkRefund (s : State) (owed : AssetAmount × ShareAmount) (entry : EpochId × EpochOutcome) :
    Except BrokenRule (AssetAmount × ShareAmount) :=
  match entry.2 with
  | .finalized _ => pure owed
  | .aborted aborted => do
      let totals ← arithmetic (s.requestTotals entry.1)
      rejectIf (totals.depositAssets ≠ aborted.refundAssets ∨
        totals.redeemShares ≠ aborted.refundShares) .abortedRefundMismatch
      let assets ← arithmetic (checkedAdd owed.1 totals.unclaimedDepositAssets)
      let shares ← arithmetic (checkedAdd owed.2 totals.unclaimedRedeemShares)
      pure (assets, shares)

/-- Escrow holds the current epoch plus every refund an aborted epoch still owes. -/
def checkEscrowBacking (s : State) : Except BrokenRule Unit := do
  let current ← checkCurrentEpoch s
  let owed ← s.epochs.toList.foldlM (checkRefund s) current
  rejectIf (owed.1 ≠ s.buckets.pendingDepositEscrow ∨ owed.2 ≠ s.escrowedRedeemShares)
    .escrowAggregateMismatch

/-- Dust is the aggregate minus the sum of the parts, and one claim can lose at most one unit. -/
def checkDust (aggregate parts recorded count : Unsigned 128) : Except BrokenRule Unit := do
  rejectIf (aggregate < parts) .dustOutOfBounds
  let measured ← aggregate.checkedSub parts .dustOutOfBounds
  rejectIf (measured ≠ recorded ∨ count.saturatingSub 1 < measured) .dustOutOfBounds

/-- What one finalized epoch still owes is added to the claims it explains. -/
def checkClaims (s : State) (owed : ShareAmount × AssetAmount) (entry : EpochId × EpochOutcome) :
    Except BrokenRule (ShareAmount × AssetAmount) :=
  match entry.2 with
  | .aborted _ => pure owed
  | .finalized terms => do
      let due ← arithmetic (s.entitlements entry.1 terms)
      let totals ← arithmetic (s.requestTotals entry.1)
      checkDust terms.mintedShares due.depositShares terms.depositDust totals.depositCount
      checkDust terms.redeemAssets due.redeemAssets terms.redeemDust totals.redeemCount
      let shares ← arithmetic (addAll owed.1 [due.unclaimedDepositShares, terms.depositDust])
      let assets ← arithmetic (addAll owed.2 [due.unclaimedRedeemAssets, terms.redeemDust])
      pure (shares, assets)

/-- Every unit of reserve and claimable shares is either owed or measured dust. -/
def checkClaimBacking (s : State) : Except BrokenRule Unit := do
  let owed ← s.epochs.toList.foldlM (checkClaims s) (.zero, .zero)
  rejectIf (owed.1 ≠ s.claimableDepositShares) .claimableSharesNotExplained
  rejectIf (owed.2 ≠ s.buckets.claimReserve) .claimReserveNotExplained

def checkFinalizedTerms (s : State) : Except BrokenRule Unit :=
  forM s.epochs.toList fun entry => match entry.2 with
    | .aborted _ => pure ()
    | .finalized terms => do
        rejectIf (entry.1 ≠ terms.id) .epochTermsInconsistent
        let minted ← arithmetic (terms.sharesFor terms.depositAssets)
        rejectIf (minted ≠ terms.mintedShares) .epochTermsInconsistent
        let redeemed ← arithmetic (terms.assetsFor terms.redeemShares)
        rejectIf (redeemed ≠ terms.redeemAssets) .epochTermsInconsistent
        rejectIf (terms.totalAssets < terms.redeemAssets) .epochTermsInconsistent
        let totals ← arithmetic (s.requestTotals entry.1)
        rejectIf (totals.depositAssets ≠ terms.depositAssets ∨
          totals.redeemShares ≠ terms.redeemShares) .epochAggregateMismatch

/-- Checks every state level accounting rule. -/
def checkInvariants (s : State) : Except BrokenRule Unit := do
  checkAssetConservation s
  checkNavComposition s
  checkShareConservation s
  checkBurnedShares s
  checkRequestLifecycle s
  checkEscrowBacking s
  checkClaimBacking s
  checkFinalizedTerms s
  (checkPriceNeverFalls s).mapError .price

/-- What all buckets hold together. -/
def State.tracked (s : State) : Nat :=
  s.buckets.pendingDepositEscrow.raw + s.buckets.idleBacking.raw + s.buckets.claimReserve.raw +
    s.buckets.unattributedBalance.raw + s.buckets.unattributedInbound.raw +
    s.buckets.outboundInTransit.raw + s.buckets.acceptedRemoteValue.raw +
    s.buckets.inboundInTransit.raw

/-- The sums of a book agree with the requests behind them. -/
structure Book.Balanced (b : Book) : Prop where
  fresh : ∀ (epoch : EpochId) (pending : Nat), b.current = some (epoch, pending) →
    b.settled[epoch]? = none
  pending : ∀ (epoch : EpochId) (pending : Nat), b.current = some (epoch, pending) →
    pending = b.requests.sumIn epoch Request.activeAmount
  escrow : b.escrow = (b.current.elim 0 fun current => current.2) +
    OrderedMap.sumOf b.settled (Book.refundable b.requests)
  payable : b.payable = OrderedMap.sumOf b.settled (Book.claimable b.requests)
  explained : ∀ (epoch : EpochId) (settlement : Settlement), b.settled[epoch]? = some settlement →
    Book.Explained b.requests epoch settlement

/-- The accounting rules, over unbounded integers. Only the two sums of all assets can leave the
width of an amount. -/
structure Rules (s : State) : Prop where
  issuedFits : s.initialAssetSupply.raw + s.externalInflow.raw < 2 ^ 128
  trackedFits : s.tracked < 2 ^ 128
  assets : s.heldAssets + s.buckets.pendingDepositEscrow.raw + s.buckets.idleBacking.raw +
    s.buckets.claimReserve.raw + s.buckets.unattributedBalance.raw +
    s.buckets.outboundInTransit.raw + s.buckets.inboundInTransit.raw +
    s.remotePrincipalCap.raw + s.recognizedLoss.raw + s.impairedTransport.raw =
      s.initialAssetSupply.raw + s.externalInflow.raw
  shares : s.heldShares + s.escrowedRedeemShares.raw + s.claimableDepositShares.raw =
    s.totalShareSupply.raw
  burned : s.burnedRedemptionShares.raw =
    OrderedMap.sumOf s.epochs fun _ outcome => outcome.redeemedShares
  flags : ∀ (key : RequestKey) (request : Request),
    s.depositRequests[key]? = some request ∨ s.redeemRequests[key]? = some request →
    (request.cancelled = true ↔ request.amount.raw = 0) ∧
      ¬(request.cancelled = true ∧ request.claimed = true)
  deposits : s.depositBook.Balanced
  redeems : s.redeemBook.Balanced
  priced : TermsPriced s
  covered : ∀ (id : EpochId) (terms : EpochTerms), s.epochs[id]? = some (.finalized terms) →
    terms.redeemAssets.raw ≤ terms.totalAssets.raw
  price : LossFree s → ∀ (i j : EpochId) (earlier later : EpochTerms), i.raw < j.raw →
    s.epochs[i]? = some (.finalized earlier) → s.epochs[j]? = some (.finalized later) →
    earlier.AtMost later.basis.wideAssets later.basis.wideShares

variable {s : State}

theorem Request.flagsAgree_iff {request : Request} : request.flagsAgree = true ↔
    (request.cancelled = true ↔ request.amount.raw = 0) ∧
      ¬(request.cancelled = true ∧ request.claimed = true) := by
  unfold Request.flagsAgree
  have zero : request.amount.isZero = true ↔ request.amount.raw = 0 := Unsigned.isZero_iff
  cases request.cancelled <;> cases request.claimed <;> cases empty : request.amount.isZero <;>
    simp_all

@[simp] theorem arithmetic_ok {α : Type} {x : Except Rejection α} {a : α} :
    arithmetic x = .ok a ↔ x = .ok a := mapError_eq_ok

theorem checkAssetConservation_ok : checkAssetConservation s = .ok () ↔
    s.initialAssetSupply.raw + s.externalInflow.raw < 2 ^ 128 ∧
    s.heldAssets + s.buckets.pendingDepositEscrow.raw + s.buckets.idleBacking.raw +
      s.buckets.claimReserve.raw + s.buckets.unattributedBalance.raw +
      s.buckets.outboundInTransit.raw + s.buckets.inboundInTransit.raw +
      s.remotePrincipalCap.raw + s.recognizedLoss.raw + s.impairedTransport.raw =
        s.initialAssetSupply.raw + s.externalInflow.raw := by
  simp only [checkAssetConservation, bind_eq_ok, arithmetic_ok, addAll_ok, rejectIf_eq_ok,
    State.totalAccountAssets_ok, List.map_cons, List.map_nil, List.sum_cons,
    List.sum_nil, not_not]
  constructor
  · rintro ⟨held, hHeld, physical, hPhysical, offEvm, hOffEvm, accounted, hAccounted, issued, hIssued,
      same⟩
    have := issued.bound
    have := congrArg Unsigned.raw same
    omega
  · rintro ⟨fits, conserved⟩
    refine ⟨⟨s.heldAssets, by omega⟩, rfl, ⟨_, ?_⟩, rfl, ⟨_, ?_⟩, rfl, ⟨_, ?_⟩, rfl, ⟨_, ?_⟩, rfl,
      Unsigned.ext ?_⟩
    · omega
    · omega
    · dsimp only
      omega
    · omega
    · dsimp only
      omega

theorem checkNavComposition_ok : checkNavComposition s = .ok () ↔ s.tracked < 2 ^ 128 := by
  have nav : s.managedNav.raw = min s.backing (2 ^ 128 - 1) := by
    simp only [State.managedNav, State.managedBacking, State.backing, Unsigned.saturatingAdd_raw]
    omega
  simp only [checkNavComposition, Buckets.excludedFromNav, Buckets.total, Buckets.physical,
    bind_eq_ok, arithmetic_ok, addAll_ok, rejectIf_eq_ok, List.map_cons, List.map_nil,
    List.sum_cons, List.sum_nil, not_not]
  unfold State.tracked
  unfold State.backing at nav
  constructor
  · rintro ⟨excluded, hExcluded, composed, hComposed, total, ⟨physical, hPhysical, hTotal⟩, same⟩
    have := total.bound
    omega
  · intro fits
    refine ⟨⟨_, ?_⟩, rfl, ⟨_, ?_⟩, rfl, ⟨_, ?_⟩, ⟨⟨_, ?_⟩, rfl, rfl⟩, Unsigned.ext ?_⟩
    · omega
    · dsimp only
      omega
    · dsimp only
      omega
    · omega
    · dsimp only
      omega

theorem checkShareConservation_ok : checkShareConservation s = .ok () ↔
    s.heldShares + s.escrowedRedeemShares.raw + s.claimableDepositShares.raw =
      s.totalShareSupply.raw := by
  have supply := s.totalShareSupply.bound
  simp only [checkShareConservation, bind_eq_ok, arithmetic_ok, addAll_ok, rejectIf_eq_ok,
    State.totalAccountShares_ok, List.map_cons, List.map_nil, List.sum_cons, List.sum_nil, not_not]
  constructor
  · rintro ⟨held, hHeld, accounted, hAccounted, same⟩
    have := congrArg Unsigned.raw same
    omega
  · intro owned
    exact ⟨⟨s.heldShares, by omega⟩, rfl, s.totalShareSupply, by dsimp only; omega, rfl⟩

theorem checkBurnedShares_ok : checkBurnedShares s = .ok () ↔ s.burnedRedemptionShares.raw =
    OrderedMap.sumOf s.epochs fun _ outcome => outcome.redeemedShares := by
  have turn (burned : ShareAmount) (entry : EpochId × EpochOutcome) (next : ShareAmount)
      (_ : entry ∈ s.epochs.toList) :
      (match entry.2 with
        | .finalized terms => checkedAdd burned terms.redeemShares
        | .aborted _ => pure burned) = .ok next ↔ True ∧ ∀ i, (Counters.one 128).read next i =
          (Counters.one 128).read burned i + entry.2.redeemedShares := by
    obtain ⟨id, outcome⟩ := entry
    cases outcome with
    | finalized terms => simp [Counters.one, EpochOutcome.redeemedShares]
    | aborted terms =>
        simp only [Counters.one, EpochOutcome.redeemedShares, Nat.add_zero, forall_const, true_and,
          pure_eq_ok, Unsigned.raw_inj]
        exact eq_comm
  have loop := (Counters.one 128).foldlM_ok s.epochs.toList turn .zero
  simp only [checkBurnedShares, bind_eq_ok, arithmetic_ok, loop, rejectIf_eq_ok, not_not]
  simp only [Counters.one, implies_true, true_and, Unsigned.zero_raw, Nat.zero_add, forall_const]
  constructor
  · rintro ⟨burned, sum, rfl⟩
    exact sum
  · intro sum
    exact ⟨_, sum, rfl⟩

theorem checkRequestLifecycle_ok : checkRequestLifecycle s = .ok () ↔
    ∀ (key : RequestKey) (request : Request),
      s.depositRequests[key]? = some request ∨ s.redeemRequests[key]? = some request →
      (request.cancelled = true ↔ request.amount.raw = 0) ∧
        ¬(request.cancelled = true ∧ request.claimed = true) := by
  have passes {requests : RequestMap} : forM requests.toList (fun entry =>
      rejectIf (entry.2.flagsAgree = false) BrokenRule.requestLifecycleInvalid) = .ok () ↔
      ∀ (key : RequestKey) (request : Request), requests[key]? = some request →
        (request.cancelled = true ↔ request.amount.raw = 0) ∧
          ¬(request.cancelled = true ∧ request.claimed = true) := by
    simp only [forM_eq_ok, rejectIf_eq_ok, Bool.not_eq_false, Request.flagsAgree_iff,
      OrderedMap.forall_mem_toList]
  unfold checkRequestLifecycle
  rw [bind_eq_ok]
  constructor
  · rintro ⟨⟨⟩, deposits, redeems⟩ key request found
    exact found.elim (passes.mp deposits key request) (passes.mp redeems key request)
  · intro each
    exact ⟨(), passes.mpr fun key request found => each key request (.inl found),
      passes.mpr fun key request found => each key request (.inr found)⟩

/-- The escrow of the current epoch, on both sides. -/
def State.pendingNow (s : State) (redeem : Bool) : Nat :=
  s.epoch.elim 0 fun epoch =>
    if redeem then epoch.pendingRedeemShares.raw else epoch.pendingDepositAssets.raw

theorem State.depositBook_pending (s : State) :
    (s.depositBook.current.elim 0 fun current => current.2) = s.pendingNow false := by
  unfold State.depositBook State.pendingNow
  cases s.epoch <;> rfl

theorem State.redeemBook_pending (s : State) :
    (s.redeemBook.current.elim 0 fun current => current.2) = s.pendingNow true := by
  unfold State.redeemBook State.pendingNow
  cases s.epoch <;> rfl

theorem checkCurrentEpoch_ok {owed : AssetAmount × ShareAmount} :
    checkCurrentEpoch s = .ok owed ↔
      (∀ epoch, s.epoch = some epoch → s.epochs[epoch.id]? = none ∧
        epoch.pendingDepositAssets.raw =
          s.depositRequests.sumIn epoch.id Request.activeAmount ∧
        epoch.pendingRedeemShares.raw = s.redeemRequests.sumIn epoch.id Request.activeAmount) ∧
      ∀ redeem, (Counters.two 128).read owed redeem = s.pendingNow redeem := by
  unfold checkCurrentEpoch State.pendingNow
  cases current : s.epoch with
  | none =>
      simp only [pure_eq_ok, reduceCtorEq, false_implies, implies_true, true_and, Option.elim_none]
      constructor
      · rintro rfl redeem
        cases redeem <;> rfl
      · intro zero
        exact (Counters.two 128).ext _ _ fun redeem => by
          rw [zero redeem]
          cases redeem <;> rfl
  | some epoch =>
      simp only [bind_eq_ok, rejectIf_eq_ok, arithmetic_ok, Bool.not_eq_true,
        Option.isSome_eq_false_iff, pure_eq_ok, Option.isNone_iff_eq_none, not_or, not_not,
        exists_const, Option.some.injEq, forall_eq', Option.elim_some]
      constructor
      · rintro ⟨unsettled, totals, hTotals, ⟨assets, shares⟩, rfl⟩
        obtain ⟨sumAssets, sumShares, -⟩ := State.requestTotals_ok.mp hTotals
        refine ⟨⟨unsettled, by rw [← assets, sumAssets], by rw [← shares, sumShares]⟩, ?_⟩
        intro redeem
        cases redeem
        · exact congrArg Unsigned.raw assets
        · exact congrArg Unsigned.raw shares
      · rintro ⟨⟨unsettled, assets, shares⟩, both⟩
        obtain ⟨totals, hTotals⟩ := State.requestTotals_fits
          (by rw [← assets]; exact epoch.pendingDepositAssets.bound)
          (by rw [← shares]; exact epoch.pendingRedeemShares.bound)
        obtain ⟨sumAssets, sumShares, -⟩ := State.requestTotals_ok.mp hTotals
        refine ⟨unsettled, totals, hTotals, ⟨?_, ?_⟩, ?_⟩
        · exact Unsigned.ext (sumAssets.trans assets.symm)
        · exact Unsigned.ext (sumShares.trans shares.symm)
        · refine (Counters.two 128).ext _ _ fun redeem => ?_
          rw [both redeem]
          cases redeem
          · exact sumAssets.trans assets.symm
          · exact sumShares.trans shares.symm

/-- The refund an aborted epoch records is what its requests ask for. -/
def State.RefundExplained (s : State) (entry : EpochId × EpochOutcome) : Prop :=
  ∀ terms, entry.2 = .aborted terms →
    terms.refundAssets.raw = s.depositRequests.sumIn entry.1 Request.activeAmount ∧
      terms.refundShares.raw = s.redeemRequests.sumIn entry.1 Request.activeAmount

/-- What an epoch still has to return from escrow, on both sides. -/
def State.refundable (s : State) (entry : EpochId × EpochOutcome) (redeem : Bool) : Nat :=
  if redeem then Book.refundable s.redeemRequests entry.1 entry.2.redeemSettlement
  else Book.refundable s.depositRequests entry.1 entry.2.depositSettlement

theorem checkRefund_ok {owed next : AssetAmount × ShareAmount} {entry : EpochId × EpochOutcome} :
    checkRefund s owed entry = .ok next ↔ s.RefundExplained entry ∧
      ∀ redeem, (Counters.two 128).read next redeem =
        (Counters.two 128).read owed redeem + s.refundable entry redeem := by
  obtain ⟨id, outcome⟩ := entry
  unfold checkRefund State.RefundExplained State.refundable
  cases outcome with
  | finalized terms =>
      simp only [pure_eq_ok, reduceCtorEq, false_implies, implies_true, true_and,
        EpochOutcome.redeemSettlement, EpochOutcome.depositSettlement, Book.refundable, ite_self,
        Nat.add_zero]
      constructor
      · rintro rfl _
        rfl
      · intro same
        exact (Counters.two 128).ext _ _ fun redeem => (same redeem).symm
  | aborted terms =>
      simp only [bind_eq_ok, arithmetic_ok, rejectIf_eq_ok, not_or, not_not, exists_const,
        checkedAdd_ok, pure_eq_ok, EpochOutcome.aborted.injEq, forall_eq', Bool.forall_bool,
        Counters.two, EpochOutcome.redeemSettlement, EpochOutcome.depositSettlement,
        Book.refundable, if_true, if_false, Bool.false_eq_true]
      constructor
      · rintro ⟨totals, hTotals, ⟨assets, shares⟩, owedAssets, hAssets, owedShares, hShares, rfl⟩
        obtain ⟨sumAssets, sumShares, dueAssets, dueShares, -⟩ := State.requestTotals_ok.mp hTotals
        rw [dueAssets] at hAssets
        rw [dueShares] at hShares
        exact ⟨⟨by rw [← assets, sumAssets], by rw [← shares, sumShares]⟩, hAssets, hShares⟩
      · rintro ⟨⟨assets, shares⟩, hAssets, hShares⟩
        obtain ⟨totals, hTotals⟩ := State.requestTotals_fits
          (by rw [← assets]; exact terms.refundAssets.bound)
          (by rw [← shares]; exact terms.refundShares.bound)
        obtain ⟨sumAssets, sumShares, dueAssets, dueShares, -⟩ := State.requestTotals_ok.mp hTotals
        refine ⟨totals, hTotals, ⟨Unsigned.ext (sumAssets.trans assets.symm),
          Unsigned.ext (sumShares.trans shares.symm)⟩, next.1, ?_, next.2, ?_, rfl⟩
        · rw [dueAssets]
          exact hAssets
        · rw [dueShares]
          exact hShares

/-- The escrow check passes when the current epoch, every recorded refund and both escrows agree
with the requests behind them. -/
theorem checkEscrowBacking_ok : checkEscrowBacking s = .ok () ↔
    (∀ epoch, s.epoch = some epoch → s.epochs[epoch.id]? = none ∧
      epoch.pendingDepositAssets.raw = s.depositRequests.sumIn epoch.id Request.activeAmount ∧
      epoch.pendingRedeemShares.raw = s.redeemRequests.sumIn epoch.id Request.activeAmount) ∧
    (∀ (id : EpochId) (outcome : EpochOutcome), s.epochs[id]? = some outcome →
      s.RefundExplained (id, outcome)) ∧
    s.buckets.pendingDepositEscrow.raw = s.pendingNow false +
      OrderedMap.sumOf s.epochs (fun id outcome => s.refundable (id, outcome) false) ∧
    s.escrowedRedeemShares.raw = s.pendingNow true +
      OrderedMap.sumOf s.epochs (fun id outcome => s.refundable (id, outcome) true) := by
  have turn (owed : AssetAmount × ShareAmount) (entry : EpochId × EpochOutcome)
      (next : AssetAmount × ShareAmount) (_ : entry ∈ s.epochs.toList) :
      checkRefund s owed entry = .ok next ↔ s.RefundExplained entry ∧
        ∀ redeem, (Counters.two 128).read next redeem =
          (Counters.two 128).read owed redeem + s.refundable entry redeem := checkRefund_ok
  have loop := (Counters.two 128).foldlM_ok s.epochs.toList turn
  simp only [checkEscrowBacking, bind_eq_ok, checkCurrentEpoch_ok, loop, rejectIf_eq_ok, not_or,
    not_not, OrderedMap.forall_mem_toList]
  constructor
  · rintro ⟨current, ⟨fresh, now⟩, owed, ⟨refunds, sums⟩, assets, shares⟩
    simp only [now] at sums
    refine ⟨fresh, refunds, ?_, ?_⟩
    · rw [← assets]
      exact sums false
    · rw [← shares]
      exact sums true
  · rintro ⟨fresh, refunds, assets, shares⟩
    have now (redeem : Bool) : s.pendingNow redeem < 2 ^ 128 := by
      cases redeem
      · have := s.buckets.pendingDepositEscrow.bound
        omega
      · have := s.escrowedRedeemShares.bound
        omega
    refine ⟨(Counters.two 128).write s.pendingNow now,
      ⟨fresh, (Counters.two 128).read_write _ _⟩,
      (s.buckets.pendingDepositEscrow, s.escrowedRedeemShares), ⟨refunds, ?_⟩, rfl, rfl⟩
    rw [Bool.forall_bool]
    exact ⟨assets, shares⟩

theorem checkDust_ok {aggregate parts recorded count : Unsigned 128} {u : Unit} :
    checkDust aggregate parts recorded count = .ok u ↔
      recorded.raw + parts.raw = aggregate.raw ∧ recorded.raw ≤ count.raw - 1 := by
  simp only [checkDust, bind_eq_ok, rejectIf_eq_ok, exists_const, Unsigned.checkedSub_eq_ok,
    Unsigned.lt_def, Unsigned.saturatingSub_raw, Unsigned.ofNat_raw, not_or, not_not, not_lt]
  constructor
  · rintro ⟨enough, measured, exact, rfl, small⟩
    exact ⟨exact, by simpa using small⟩
  · rintro ⟨exact, small⟩
    exact ⟨by omega, recorded, exact, rfl, by simpa using small⟩

/-- The terms of a finalized epoch agree with their own price and with the requests behind them. -/
structure ConsistentTerms (s : State) (id : EpochId) (terms : EpochTerms) : Prop where
  named : terms.id = id
  minted : terms.sharesFor terms.depositAssets = .ok terms.mintedShares
  redeemed : terms.assetsFor terms.redeemShares = .ok terms.redeemAssets
  covered : terms.redeemAssets.raw ≤ terms.totalAssets.raw
  assets : terms.depositAssets.raw = s.depositRequests.sumIn id Request.activeAmount
  shares : terms.redeemShares.raw = s.redeemRequests.sumIn id Request.activeAmount

theorem checkFinalizedTerms_ok : checkFinalizedTerms s = .ok () ↔
    ∀ (id : EpochId) (terms : EpochTerms), s.epochs[id]? = some (.finalized terms) →
      ConsistentTerms s id terms := by
  rw [checkFinalizedTerms, forM_eq_ok, OrderedMap.forall_mem_toList]
  constructor
  · intro each id terms found
    have passed := each id _ found
    simp only [bind_eq_ok, rejectIf_eq_ok, exists_const, arithmetic_ok, not_or, not_not,
      Unsigned.lt_def, not_lt] at passed
    obtain ⟨named, _, minted, rfl, _, redeemed, rfl, covered, totals, hTotals, assets, shares⟩ :=
      passed
    obtain ⟨sumAssets, sumShares, -⟩ := State.requestTotals_ok.mp hTotals
    exact ⟨named.symm, minted, redeemed, covered, by rw [← assets, sumAssets],
      by rw [← shares, sumShares]⟩
  · intro each id outcome found
    cases outcome with
    | aborted terms => rfl
    | finalized terms =>
        have consistent := each id terms found
        obtain ⟨totals, hTotals⟩ := State.requestTotals_fits
          (by rw [← consistent.assets]; exact terms.depositAssets.bound)
          (by rw [← consistent.shares]; exact terms.redeemShares.bound)
        obtain ⟨sumAssets, sumShares, -⟩ := State.requestTotals_ok.mp hTotals
        simp only [bind_eq_ok, rejectIf_eq_ok, exists_const, arithmetic_ok, not_or, not_not,
          Unsigned.lt_def, not_lt]
        exact ⟨consistent.named.symm, _, consistent.minted, rfl, _, consistent.redeemed, rfl,
          consistent.covered, totals, hTotals, Unsigned.ext (sumAssets.trans consistent.assets.symm),
          Unsigned.ext (sumShares.trans consistent.shares.symm)⟩

/-- Terms that priced one amount price every amount whose floor price fits. -/
theorem EpochTerms.sharesFor_iff {terms : EpochTerms} {assets : AssetAmount} {shares : ShareAmount}
    (priced : terms.sharesFor assets = .ok shares) (amount value : Unsigned 128) :
    terms.sharesFor amount = .ok value ↔ value.raw = terms.shareRate.floor amount.raw := by
  obtain ⟨assetsFit, sharesFit, positive, -⟩ := assetsToShares_ok.mp priced
  rw [EpochTerms.sharesFor, assetsToShares_ok]
  exact ⟨fun found => found.2.2.2, fun exact => ⟨assetsFit, sharesFit, positive, exact⟩⟩

theorem EpochTerms.assetsFor_iff {terms : EpochTerms} {shares : ShareAmount} {assets : AssetAmount}
    (priced : terms.assetsFor shares = .ok assets) (amount value : Unsigned 128) :
    terms.assetsFor amount = .ok value ↔ value.raw = terms.assetRate.floor amount.raw := by
  obtain ⟨assetsFit, sharesFit, positive, -⟩ := sharesToAssets_ok.mp priced
  rw [EpochTerms.assetsFor, sharesToAssets_ok]
  exact ⟨fun found => found.2.2.2, fun exact => ⟨assetsFit, sharesFit, positive, exact⟩⟩

/-- The dust of a finalized epoch is what its claims cannot reach, and it is small. -/
def State.DustMeasured (s : State) (entry : EpochId × EpochOutcome) : Prop :=
  ∀ terms, entry.2 = .finalized terms →
    (terms.depositDust.raw + s.depositRequests.sumIn entry.1 (Request.activePrice terms.shareRate) =
        terms.mintedShares.raw ∧
      terms.depositDust.raw ≤ s.depositRequests.sumIn entry.1 Request.activeCount - 1) ∧
    terms.redeemDust.raw + s.redeemRequests.sumIn entry.1 (Request.activePrice terms.assetRate) =
        terms.redeemAssets.raw ∧
      terms.redeemDust.raw ≤ s.redeemRequests.sumIn entry.1 Request.activeCount - 1

/-- What an epoch still has to pay with its dust: shares to depositors, assets to redeemers. -/
def State.claimable (s : State) (entry : EpochId × EpochOutcome) (redeem : Bool) : Nat :=
  if redeem then Book.claimable s.redeemRequests entry.1 entry.2.redeemSettlement
  else Book.claimable s.depositRequests entry.1 entry.2.depositSettlement

theorem checkClaims_ok {owed next : ShareAmount × AssetAmount} {entry : EpochId × EpochOutcome}
    (consistent : ∀ terms, entry.2 = .finalized terms → ConsistentTerms s entry.1 terms) :
    checkClaims s owed entry = .ok next ↔ s.DustMeasured entry ∧
      ∀ redeem, (Counters.two 128).read next redeem =
        (Counters.two 128).read owed redeem + s.claimable entry redeem := by
  obtain ⟨id, outcome⟩ := entry
  unfold checkClaims State.DustMeasured State.claimable
  cases outcome with
  | aborted terms =>
      simp only [pure_eq_ok, reduceCtorEq, false_implies, implies_true, true_and,
        EpochOutcome.redeemSettlement, EpochOutcome.depositSettlement, Book.claimable, ite_self,
        Nat.add_zero]
      constructor
      · rintro rfl _
        rfl
      · intro same
        exact (Counters.two 128).ext _ _ fun redeem => (same redeem).symm
  | finalized terms =>
      have agreed := consistent terms rfl
      have entitled (due : Entitlements) := @State.entitlements_ok_iff s id terms due
        (EpochTerms.sharesFor_iff agreed.minted) (EpochTerms.assetsFor_iff agreed.redeemed)
      obtain ⟨totals, hTotals⟩ := State.requestTotals_fits
        (by rw [← agreed.assets]; exact terms.depositAssets.bound)
        (by rw [← agreed.shares]; exact terms.redeemShares.bound)
      obtain ⟨-, -, -, -, deposits, redeems⟩ := State.requestTotals_ok.mp hTotals
      simp only [bind_eq_ok, arithmetic_ok, entitled, hTotals, Except.ok.injEq, exists_eq_left',
        checkDust_ok, exists_const, deposits, redeems, addAll_ok, pure_eq_ok, EpochOutcome.finalized.injEq,
        forall_eq', Bool.forall_bool, Counters.two, EpochOutcome.redeemSettlement,
        EpochOutcome.depositSettlement, Book.claimable, if_true, if_false, Bool.false_eq_true,
        List.map_cons, List.map_nil, List.sum_cons, List.sum_nil]
      constructor
      · rintro ⟨due, ⟨allShares, dueShares, allAssets, dueAssets⟩, deposit, redeem, shares, hShares,
          assets, hAssets, rfl⟩
        rw [← allShares, ← allAssets]
        exact ⟨⟨deposit, redeem⟩, by dsimp only; omega, by dsimp only; omega⟩
      · rintro ⟨⟨deposit, redeem⟩, hShares, hAssets⟩
        have minted := terms.mintedShares.bound
        have redeemed := terms.redeemAssets.bound
        have shares := next.1.bound
        have assets := next.2.bound
        refine ⟨⟨⟨s.depositRequests.sumIn id (Request.activePrice terms.shareRate), by omega⟩,
          ⟨s.depositRequests.sumIn id (Request.unclaimed (Request.activePrice terms.shareRate)), by
            omega⟩,
          ⟨s.redeemRequests.sumIn id (Request.activePrice terms.assetRate), by omega⟩,
          ⟨s.redeemRequests.sumIn id (Request.unclaimed (Request.activePrice terms.assetRate)), by
            omega⟩⟩, ⟨rfl, rfl, rfl, rfl⟩, deposit, redeem, next.1, ?_, next.2, ?_, rfl⟩
        · dsimp only
          omega
        · dsimp only
          omega

theorem checkClaimBacking_ok (consistent : ∀ (id : EpochId) (terms : EpochTerms),
      s.epochs[id]? = some (.finalized terms) → ConsistentTerms s id terms) :
    checkClaimBacking s = .ok () ↔
      (∀ (id : EpochId) (outcome : EpochOutcome), s.epochs[id]? = some outcome →
        s.DustMeasured (id, outcome)) ∧
      s.claimableDepositShares.raw =
        OrderedMap.sumOf s.epochs (fun id outcome => s.claimable (id, outcome) false) ∧
      s.buckets.claimReserve.raw =
        OrderedMap.sumOf s.epochs (fun id outcome => s.claimable (id, outcome) true) := by
  have turn (owed : ShareAmount × AssetAmount) (entry : EpochId × EpochOutcome)
      (next : ShareAmount × AssetAmount) (member : entry ∈ s.epochs.toList) :
      checkClaims s owed entry = .ok next ↔ s.DustMeasured entry ∧
        ∀ redeem, (Counters.two 128).read next redeem =
          (Counters.two 128).read owed redeem + s.claimable entry redeem := by
    refine checkClaims_ok fun terms finalized => consistent entry.1 terms ?_
    rw [← finalized]
    exact Std.ExtTreeMap.mem_toList_iff_getElem?_eq_some.mp member
  have loop := (Counters.two 128).foldlM_ok s.epochs.toList turn (.zero, .zero)
  simp only [checkClaimBacking, bind_eq_ok, loop, rejectIf_eq_ok, not_not, exists_const,
    OrderedMap.forall_mem_toList]
  constructor
  · rintro ⟨owed, ⟨dust, sums⟩, shares, assets⟩
    refine ⟨dust, ?_, ?_⟩
    · rw [← shares]
      exact (sums false).trans (Nat.zero_add _)
    · rw [← assets]
      exact (sums true).trans (Nat.zero_add _)
  · rintro ⟨dust, shares, assets⟩
    refine ⟨(s.claimableDepositShares, s.buckets.claimReserve), ⟨dust, ?_⟩, rfl, rfl⟩
    rw [Bool.forall_bool]
    exact ⟨shares.trans (Nat.zero_add _).symm, assets.trans (Nat.zero_add _).symm⟩

/-- Balanced books are what the escrow, claim and terms checks test. -/
theorem balanced_iff : (s.depositBook.Balanced ∧ s.redeemBook.Balanced ∧ TermsPriced s ∧
      ∀ (id : EpochId) (terms : EpochTerms), s.epochs[id]? = some (.finalized terms) →
        terms.redeemAssets.raw ≤ terms.totalAssets.raw) ↔
    checkEscrowBacking s = .ok () ∧ checkClaimBacking s = .ok () ∧
      checkFinalizedTerms s = .ok () := by
  rw [checkFinalizedTerms_ok, checkEscrowBacking_ok]
  constructor
  · rintro ⟨deposits, redeems, priced, covered⟩
    have consistent : ∀ (id : EpochId) (terms : EpochTerms),
        s.epochs[id]? = some (.finalized terms) → ConsistentTerms s id terms := by
      intro id terms found
      obtain ⟨named, minted, redeemed⟩ := priced id terms found
      exact ⟨named, minted, redeemed, covered id terms found,
        (deposits.explained id _ (State.depositBook_settled found)).1,
        (redeems.explained id _ (State.redeemBook_settled found)).1⟩
    have depositEscrow := deposits.escrow
    have redeemEscrow := redeems.escrow
    have claimable := deposits.payable
    have reserve := redeems.payable
    simp only [State.depositBook, State.redeemBook, OrderedMap.sumOf_map]
      at depositEscrow redeemEscrow claimable reserve
    refine ⟨⟨?_, ?_, ?_, ?_⟩, (checkClaimBacking_ok consistent).mpr ⟨?_, ?_, ?_⟩, consistent⟩
    · intro epoch current
      have deposit : s.depositBook.current = some (epoch.id, epoch.pendingDepositAssets.raw) := by
        simp [State.depositBook, current]
      have redeem : s.redeemBook.current = some (epoch.id, epoch.pendingRedeemShares.raw) := by
        simp [State.redeemBook, current]
      refine ⟨?_, deposits.pending _ _ deposit, redeems.pending _ _ redeem⟩
      simpa [State.depositBook] using deposits.fresh _ _ deposit
    · rintro id _ found terms rfl
      exact ⟨deposits.explained id _ (State.depositBook_settled found),
        redeems.explained id _ (State.redeemBook_settled found)⟩
    · rw [depositEscrow]
      exact congrArg₂ (· + ·) s.depositBook_pending rfl
    · rw [redeemEscrow]
      exact congrArg₂ (· + ·) s.redeemBook_pending rfl
    · rintro id _ found terms rfl
      exact ⟨(deposits.explained id _ (State.depositBook_settled found)).2.2,
        (redeems.explained id _ (State.redeemBook_settled found)).2.2⟩
    · exact claimable
    · exact reserve
  · rintro ⟨⟨current, refunds, depositEscrow, redeemEscrow⟩, claims, consistent⟩
    obtain ⟨dust, claimable, reserve⟩ := (checkClaimBacking_ok consistent).mp claims
    have priced : TermsPriced s := fun id terms found =>
      ⟨(consistent id terms found).named, (consistent id terms found).minted,
        (consistent id terms found).redeemed⟩
    refine ⟨?_, ?_, priced, fun id terms found => (consistent id terms found).covered⟩
    · constructor
      case fresh =>
        intro id pending taking
        obtain ⟨epoch, now, same⟩ := Option.map_eq_some_iff.mp taking
        cases same
        simp [State.depositBook, (current epoch now).1]
      case pending =>
        intro id pending taking
        obtain ⟨epoch, now, same⟩ := Option.map_eq_some_iff.mp taking
        cases same
        exact (current epoch now).2.1
      case escrow =>
        simp only [State.depositBook, OrderedMap.sumOf_map]
        rw [depositEscrow]
        exact congrArg₂ (· + ·) s.depositBook_pending.symm rfl
      case payable =>
        simp only [State.depositBook, OrderedMap.sumOf_map]
        exact claimable
      case explained =>
        intro id settlement found
        obtain ⟨outcome, settled, rfl⟩ := Option.map_eq_some_iff.mp
          ((Std.ExtTreeMap.getElem?_map ..).symm.trans found)
        cases outcome with
        | aborted terms => exact (refunds id _ settled terms rfl).1
        | finalized terms =>
            have agreed := consistent id terms settled
            exact ⟨agreed.assets, EpochTerms.sharesFor_raw agreed.minted,
              (dust id _ settled terms rfl).1⟩
    · constructor
      case fresh =>
        intro id pending taking
        obtain ⟨epoch, now, same⟩ := Option.map_eq_some_iff.mp taking
        cases same
        simp [State.redeemBook, (current epoch now).1]
      case pending =>
        intro id pending taking
        obtain ⟨epoch, now, same⟩ := Option.map_eq_some_iff.mp taking
        cases same
        exact (current epoch now).2.2
      case escrow =>
        simp only [State.redeemBook, OrderedMap.sumOf_map]
        rw [redeemEscrow]
        exact congrArg₂ (· + ·) s.redeemBook_pending.symm rfl
      case payable =>
        simp only [State.redeemBook, OrderedMap.sumOf_map]
        exact reserve
      case explained =>
        intro id settlement found
        obtain ⟨outcome, settled, rfl⟩ := Option.map_eq_some_iff.mp
          ((Std.ExtTreeMap.getElem?_map ..).symm.trans found)
        cases outcome with
        | aborted terms => exact (refunds id _ settled terms rfl).2
        | finalized terms =>
            have agreed := consistent id terms settled
            exact ⟨agreed.shares, EpochTerms.assetsFor_raw agreed.redeemed,
              (dust id _ settled terms rfl).2⟩

/-- The first outcome has no higher price than the second, where both are finalized. -/
def EpochOutcome.InPriceOrder (first second : EpochOutcome) : Prop :=
  ∀ earlier later, first = .finalized earlier → second = .finalized later →
    earlier.AtMost later.basis.wideAssets later.basis.wideShares

/-- Comparing neighbours compares all: outcomes that pass the check are in price order. -/
theorem checkPrices_ordered (outcomes : List EpochOutcome) (positive : ∀ terms,
      .finalized terms ∈ outcomes → 0 < terms.basis.wideShares) : ∀ (earlier : Option EpochTerms),
    checkPrices earlier outcomes = .ok () →
    (∀ previous ∈ earlier, ∀ terms, .finalized terms ∈ outcomes →
      previous.AtMost terms.basis.wideAssets terms.basis.wideShares) ∧
    outcomes.Pairwise EpochOutcome.InPriceOrder := by
  induction outcomes with
  | nil => exact fun _ _ => ⟨by simp, .nil⟩
  | cons outcome outcomes ih =>
      intro earlier passed
      have later := ih fun terms member => positive terms (List.mem_cons_of_mem outcome member)
      cases outcome with
      | aborted terms =>
          obtain ⟨before, ordered⟩ := later earlier passed
          refine ⟨fun previous known terms member => ?_, List.pairwise_cons.mpr ⟨?_, ordered⟩⟩
          · exact before previous known terms (by simpa using member)
          · intro _ _ _ _ impossible
            cases impossible
      | finalized terms =>
          unfold checkPrices at passed
          split at passed
          · cases passed
          · rename_i notBelow
            obtain ⟨next, ordered⟩ := later (some terms) passed
            refine ⟨fun previous known other member => ?_, List.pairwise_cons.mpr ⟨?_, ordered⟩⟩
            · rw [Option.mem_def] at known
              subst known
              have here : previous.AtMost terms.basis.wideAssets terms.basis.wideShares := by
                simpa [priceIsNonDecreasing, EpochTerms.AtMost] using notBelow
              cases List.mem_cons.mp member with
              | inl same =>
                  cases same
                  exact here
              | inr after =>
                  exact price_trans (positive terms List.mem_cons_self) here
                    (next terms rfl other after)
            · intro second member previous other same finalized
              cases same
              subst finalized
              exact next terms rfl other member

theorem checkPriceNeverFalls_ok (priced : TermsPriced s) : checkPriceNeverFalls s = .ok () ↔
    (LossFree s → ∀ (i j : EpochId) (earlier later : EpochTerms), i.raw < j.raw →
      s.epochs[i]? = some (.finalized earlier) → s.epochs[j]? = some (.finalized later) →
      earlier.AtMost later.basis.wideAssets later.basis.wideShares) := by
  have lossFree : (!s.recognizedLoss.isZero || !s.inboundCumulativeLoss.isZero ||
      !s.cumulativeImpairment.isZero) = true ↔ ¬LossFree s := by
    simp only [Bool.or_eq_true, Bool.not_eq_true', Unsigned.isZero_eq_false]
    constructor
    · rintro counted ⟨recognized, inbound, impairment⟩
      omega
    · intro counted
      by_contra none
      simp only [not_or, not_not] at none
      exact counted ⟨none.1.1, none.1.2, none.2⟩
  unfold checkPriceNeverFalls
  by_cases free : LossFree s
  · rw [if_neg (fun counted => lossFree.mp counted free)]
    have positive : ∀ terms, EpochOutcome.finalized terms ∈ s.epochs.toList.map Prod.snd →
        0 < terms.basis.wideShares := by
      intro terms member
      obtain ⟨entry, listed, outcome⟩ := List.mem_map.mp member
      have found := Std.ExtTreeMap.mem_toList_iff_getElem?_eq_some.mp listed
      rw [outcome] at found
      exact (sharesToAssets_ok.mp (priced entry.1 terms found).2.2).2.2.1
    constructor
    · intro passed _ i j earlier later below foundI foundJ
      have ordered := (checkPrices_ordered _ positive none passed).2
      rw [List.pairwise_map] at ordered
      -- Of two entries the one with the smaller key comes first.
      let Rising (p q : EpochId × EpochOutcome) := p.1.raw < q.1.raw → p.2.InPriceOrder q.2
      have forward : s.epochs.toList.Pairwise Rising := by
        apply ordered.imp
        intro p q inOrder _
        exact inOrder
      have backward : s.epochs.toList.Pairwise (flip Rising) :=
        s.epochs.ordered_keys_toList.imp fun before after =>
          (Nat.lt_asymm after (Nat.compare_eq_lt.mp before)).elim
      have all := forward.forall_of_forall_of_flip (fun _ _ same => (Nat.lt_irrefl _ same).elim)
        backward (Std.ExtTreeMap.mem_toList_iff_getElem?_eq_some.mpr foundI)
        (Std.ExtTreeMap.mem_toList_iff_getElem?_eq_some.mpr foundJ)
      exact all below earlier later rfl rfl
    · intro ordered
      refine checkPrices_ok _ none (fun _ impossible => by cases impossible) ?_
      rw [List.pairwise_map]
      refine s.epochs.ordered_keys_toList.imp_of_mem ?_
      rintro ⟨i, _⟩ ⟨j, _⟩ memberI memberJ below earlier later rfl rfl
      rw [Std.ExtTreeMap.mem_toList_iff_getElem?_eq_some] at memberI memberJ
      exact ordered free i j earlier later (Nat.compare_eq_lt.mp below) memberI memberJ
  · rw [if_pos (lossFree.mpr free)]
    exact ⟨fun _ impossible => (free impossible).elim, fun _ => rfl⟩

/-- The checker accepts exactly the states that keep every rule. -/
theorem checkInvariants_ok : checkInvariants s = .ok () ↔ Rules s := by
  have unit {ε : Type} {first : Except ε Unit} {rest : Except ε Unit} :
      (do first; rest) = .ok () ↔ first = .ok () ∧ rest = .ok () := by
    rw [bind_eq_ok]
    exact ⟨fun ⟨_, passed, later⟩ => ⟨passed, later⟩, fun both => ⟨(), both.1, both.2⟩⟩
  unfold checkInvariants
  simp only [unit, checkAssetConservation_ok, checkNavComposition_ok, checkShareConservation_ok,
    checkBurnedShares_ok, checkRequestLifecycle_ok, mapError_eq_ok]
  constructor
  · rintro ⟨⟨issued, assets⟩, tracked, shares, burned, flags, escrow, claims, terms, price⟩
    obtain ⟨deposits, redeems, priced, covered⟩ := balanced_iff.mpr ⟨escrow, claims, terms⟩
    exact ⟨issued, tracked, assets, shares, burned, flags, deposits, redeems, priced, covered,
      (checkPriceNeverFalls_ok priced).mp price⟩
  · intro rules
    obtain ⟨escrow, claims, terms⟩ :=
      balanced_iff.mp ⟨rules.deposits, rules.redeems, rules.priced, rules.covered⟩
    exact ⟨⟨rules.issuedFits, rules.assets⟩, rules.trackedFits, rules.shares, rules.burned,
      rules.flags, escrow, claims, terms, (checkPriceNeverFalls_ok rules.priced).mpr rules.price⟩

end AccountingModel
