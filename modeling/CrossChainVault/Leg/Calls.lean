import CrossChainVault.Leg.Changes

set_option autoImplicit false

/- The two instructions that call the adapter and the one that sends its assets on, exactly: what
each of them needs, and what it leaves. -/

namespace Leg

open Result Protocol

namespace TransferRecord

/-- Recall principal that is neither reserved from custody nor withdrawn. -/
def unresolved (record : TransferRecord) : Nat :=
  record.requestedRecallAmount.raw -
    (record.custodyPrincipalReserved.raw + record.strategyPrincipalResolved.raw)

end TransferRecord

namespace Accounts

variable {a a' : Accounts} {ctx : Context} {transferId : Bytes32} {call : AdapterCall}

/-- A deployment the adapter answered with exactly what it was given. -/
structure Deploys (a : Accounts) (amount : U64) (call : AdapterCall) : Prop where
  running : a.config.frozen = false
  covered : a.position.accounted ≤ a.custody.raw
  nonzero : amount.raw ≠ 0
  enough : amount.raw ≤ a.position.attributedPrincipal.raw
  control : call.controlKept = true
  before : call.principalBefore = a.position.deployedPrincipal
  after : call.principalAfter.raw = call.principalBefore.raw + amount.raw
  vault : call.vaultAfter.raw = call.vaultBefore.raw + amount.raw
  custody : call.custodyAfter.raw + amount.raw = a.custody.raw

theorem deployToStrategy_iff {approved : Bool} {amount : U64} :
    a.deployToStrategy approved amount call = .ok a' ↔
      a.Deploys amount call ∧ approved = true ∧
      ∃ unattributed attributed : U64,
        a.position.attributedPrincipal.raw + a.position.recalledCustody.raw + unattributed.raw =
          a.custody.raw ∧
        attributed.raw + amount.raw = a.position.attributedPrincipal.raw ∧
        a' = { a with
          position := { a.position with
            unattributedCustody := unattributed
            attributedPrincipal := attributed
            deployedPrincipal := call.principalAfter }
          custody := call.custodyAfter } := by
  simp only [deployToStrategy, bind_eq_ok, rejectIf_eq_ok, reconcile_ok, checkDeployed_ok,
    Unsigned.checkedSub_eq_ok, checkedAdd_ok, checkIdentity_ok, pure_eq_ok, exists_const,
    Bool.not_eq_true, Bool.not_eq_false, not_not, Unsigned.isZero_eq_false, Unsigned.le_def,
    Unsigned.lt_def, Nat.not_lt, ne_eq, RemotePosition.accounted]
  constructor
  · rintro ⟨running, _, ⟨unattributed, covered, whole, rfl⟩, ⟨nonzero, enough⟩, before, approved, -,
      control, decrease, hDecrease, increase, hIncrease, principal, hPrincipal, rfl, rfl, rfl,
      attributed, hAttributed, deployed, hDeployed, identity, reported, rfl⟩
    dsimp only at enough before hAttributed hDeployed identity reported
    have same : deployed = call.principalAfter := Unsigned.ext reported.symm
    rw [same]
    exact ⟨⟨running, covered, nonzero, enough, control, Unsigned.ext before, by omega, by omega,
      by omega⟩, approved, unattributed, attributed, whole, hAttributed, rfl⟩
  · rintro ⟨deploys, approved, unattributed, attributed, whole, hAttributed, rfl⟩
    have before : call.principalBefore.raw = a.position.deployedPrincipal.raw := by
      rw [deploys.before]
    have after := deploys.after
    have vault := deploys.vault
    have custody := deploys.custody
    refine ⟨deploys.running, _, ⟨unattributed, deploys.covered, whole, rfl⟩,
      ⟨deploys.nonzero, deploys.enough⟩, before, approved, by omega, deploys.control, amount,
      by omega, amount, by omega, amount, by omega, rfl, rfl, rfl, attributed, hAttributed,
      call.principalAfter, ?_, ?_, rfl, rfl⟩
    · dsimp only
      omega
    · dsimp only
      omega

/-- A withdrawal that the adapter answered with `reduction` less principal and `returned` more
tokens in custody. -/
structure Withdraws (a : Accounts) (transferId : Bytes32) (maximum : U64) (call : AdapterCall)
    (record : TransferRecord) (reduction returned : Nat) : Prop where
  active : a.book.Opens .recall .pending transferId record
  shape : record.RecallShape
  covered : a.position.accounted ≤ a.custody.raw
  reserved : record.custodyPrincipalReserved.raw + record.strategyPrincipalResolved.raw ≤
    record.requestedRecallAmount.raw
  control : call.controlKept = true
  before : call.principalBefore = a.position.deployedPrincipal
  after : call.principalAfter.raw + reduction = call.principalBefore.raw
  vault : call.vaultAfter.raw + returned = call.vaultBefore.raw
  custody : call.custodyAfter.raw = a.custody.raw + returned
  nonzero : reduction ≠ 0
  within : reduction ≤ min (min maximum.raw record.unresolved) a.position.deployedPrincipal.raw
  split : returned ≤ reduction
  settled : record.assetsSent.raw + record.realizedLoss.raw + (reduction - returned) ≤
    record.requestedRecallAmount.raw

/-- Every record that settles is stored with the position that goes with it. -/
theorem settle_bookRecall {record : TransferRecord} {position : RemotePosition}
    {custody escrow : U64} : (∃ settled, settleRecall record position ctx.clock = .ok settled ∧
      { a.storeRecord transferId settled.1 with
        position := settled.2, custody := custody, escrow := escrow } = a') ↔
      record.assetsSent.raw + record.realizedLoss.raw ≤ record.requestedRecallAmount.raw ∧
        a' = a.bookRecall ctx transferId record position custody escrow := by
  constructor
  · rintro ⟨settled, success, rfl⟩
    exact bookRecall_of_settle success
  · rintro ⟨within, rfl⟩
    have fits : record.assetsSent.raw + record.realizedLoss.raw < 2 ^ 64 :=
      Nat.lt_of_le_of_lt within record.requestedRecallAmount.bound
    have sum : checkedAdd record.assetsSent record.realizedLoss = .ok ⟨_, fits⟩ := checkedAdd_ok.mpr rfl
    have small : rejectIf (record.requestedRecallAmount < (⟨_, fits⟩ : U64))
        RemoteLegError.invalidRecallAmount = .ok () := by
      rw [rejectIf_eq_ok, Unsigned.lt_def, Nat.not_lt]
      exact within
    have same : (⟨record.assetsSent.raw + record.realizedLoss.raw, fits⟩ : U64) =
        record.requestedRecallAmount ↔
        record.assetsSent.raw + record.realizedLoss.raw = record.requestedRecallAmount.raw :=
      Unsigned.raw_inj.symm
    unfold settleRecall
    rw [sum, ok_bind, small, ok_bind]
    unfold bookRecall
    by_cases whole : record.assetsSent.raw + record.realizedLoss.raw =
        record.requestedRecallAmount.raw
    · rw [if_pos whole, if_neg (not_not.mpr (same.mpr whole))]
      exact ⟨_, rfl, rfl⟩
    · rw [if_neg whole, if_pos (fun equal => whole (same.mp equal))]
      exact ⟨_, rfl, rfl⟩

/-- The recall and the position after a withdrawal. -/
structure Booked (p p' : RemotePosition) (record record' : TransferRecord) (reduction returned : Nat) :
    Prop where
  deployed : p'.deployedPrincipal.raw + reduction = p.deployedPrincipal.raw
  recalled : p'.recalledCustody.raw = p.recalledCustody.raw + returned
  loss : p'.cumulativeRealizedLoss.raw = p.cumulativeRealizedLoss.raw + (reduction - returned)
  resolved : record'.strategyPrincipalResolved.raw =
    record.strategyPrincipalResolved.raw + reduction
  withdrawn : record'.assetsWithdrawn.raw = record.assetsWithdrawn.raw + returned
  recordLoss : record'.realizedLoss.raw = record.realizedLoss.raw + (reduction - returned)
  samePosition : p' = { p with
    deployedPrincipal := p'.deployedPrincipal
    recalledCustody := p'.recalledCustody
    cumulativeRealizedLoss := p'.cumulativeRealizedLoss }
  sameRecord : record' = { record with
    strategyPrincipalResolved := record'.strategyPrincipalResolved
    assetsWithdrawn := record'.assetsWithdrawn
    realizedLoss := record'.realizedLoss }

theorem bookWithdrawal_ok {p : RemotePosition} {record : TransferRecord}
    {principalReduction assetsReturned realizedLoss : U64}
    {booked : RemotePosition × TransferRecord}
    (split : realizedLoss.raw + assetsReturned.raw = principalReduction.raw) :
    bookWithdrawal p record principalReduction assetsReturned realizedLoss = .ok booked ↔
      Booked p booked.1 record booked.2 principalReduction.raw assetsReturned.raw ∧
      record.custodyPrincipalReserved.raw + booked.2.strategyPrincipalResolved.raw ≤
        record.requestedRecallAmount.raw := by
  have lost : principalReduction.raw - assetsReturned.raw = realizedLoss.raw := by omega
  simp only [bookWithdrawal, bind_eq_ok, Unsigned.checkedSub_eq_ok, checkedAdd_ok, rejectIf_eq_ok,
    Unsigned.lt_def, Nat.not_lt, exists_const, pure_eq_ok]
  constructor
  · rintro ⟨deployed, hDeployed, recalled, hRecalled, loss, hLoss, resolved, hResolved, withdrawn,
      hWithdrawn, recordLoss, hRecordLoss, settled, hSettled, within, rfl⟩
    refine ⟨⟨hDeployed, hRecalled, ?_, hResolved, hWithdrawn, ?_, rfl, rfl⟩, ?_⟩
    · rw [lost]
      exact hLoss
    · rw [lost]
      exact hRecordLoss
    · dsimp only
      omega
  · obtain ⟨p', record'⟩ := booked
    rintro ⟨moved, within⟩
    have hLoss := moved.loss
    have hRecordLoss := moved.recordLoss
    rw [lost] at hLoss hRecordLoss
    have fits : record.custodyPrincipalReserved.raw + record'.strategyPrincipalResolved.raw <
        2 ^ 64 := Nat.lt_of_le_of_lt within record.requestedRecallAmount.bound
    refine ⟨_, moved.deployed, _, moved.recalled, _, hLoss, _, moved.resolved, _, moved.withdrawn, _,
      hRecordLoss, ⟨_, fits⟩, rfl, within, ?_⟩
    rw [Prod.mk.injEq]
    exact ⟨moved.samePosition.symm, moved.sameRecord.symm⟩

theorem withdrawForRecall_iff {maximum : U64} :
    a.withdrawForRecall ctx transferId maximum call = .ok a' ↔
      ∃ record record' position reduction returned, ∃ unattributed : U64,
        a.Withdraws transferId maximum call record reduction returned ∧
        a.position.attributedPrincipal.raw + a.position.recalledCustody.raw + unattributed.raw =
          a.custody.raw ∧
        Booked { a.position with unattributedCustody := unattributed } position record record'
          reduction returned ∧
        a' = a.bookRecall ctx transferId record' position call.custodyAfter a.escrow := by
  simp only [withdrawForRecall, bind_eq_ok, loadRecord_ok, TransferRecord.checkActive_ok,
    TransferRecord.checkRecallShape_ok, reconcile_ok, TransferRecord.unresolvedRecallPrincipal_ok,
    rejectIf_eq_ok, checkDeployed_ok, Unsigned.checkedSub_eq_ok, Unsigned.lt_def, Nat.not_lt,
    checkIdentity_ok, Unsigned.isZero_iff, minimum_raw, ne_eq, not_not, Bool.not_eq_false,
    exists_const, pure_eq_ok]
  constructor
  · rintro ⟨record, stored, ⟨kind, pending, isOpen, same⟩, shape, _, ⟨unattributed, covered, whole,
      rfl⟩, unresolved, hUnresolved, request, before, control, reduction, hReduction, returned,
      hReturned, decrease, hDecrease, rfl, within, some, loss, hLoss, booked, hBooked, identity,
      reported, hSettle⟩
    obtain ⟨moved, reserved⟩ := (bookWithdrawal_ok hLoss).mp hBooked
    obtain ⟨settled, rfl⟩ := settle_bookRecall.mp hSettle
    have hResolved := moved.resolved
    have hSent : booked.2.assetsSent = record.assetsSent := by rw [moved.sameRecord]
    have hRequested : booked.2.requestedRecallAmount = record.requestedRecallAmount := by
      rw [moved.sameRecord]
    have hLost := moved.recordLoss
    rw [hSent, hRequested] at settled
    dsimp only at within before
    refine ⟨record, booked.2, booked.1, reduction.raw, decrease.raw, unattributed, ?_, whole, moved,
      rfl⟩
    exact {
      active := ⟨stored, kind, pending, isOpen, same⟩
      shape := shape
      covered := covered
      reserved := by omega
      control := control
      before := Unsigned.ext before
      after := by omega
      vault := by omega
      custody := by omega
      nonzero := some
      within := by
        unfold TransferRecord.unresolved
        omega
      split := by omega
      settled := by omega }
  · rintro ⟨record, record', position, reduction, returned, unattributed, withdraws, whole, moved,
      rfl⟩
    have before : call.principalBefore.raw = a.position.deployedPrincipal.raw := by
      rw [withdraws.before]
    have after := withdraws.after
    have vault := withdraws.vault
    have custody := withdraws.custody
    have some := withdraws.nonzero
    have within := withdraws.within
    have split := withdraws.split
    have reserved := withdraws.reserved
    have settled := withdraws.settled
    have hDeployed : position.deployedPrincipal.raw + reduction =
        a.position.deployedPrincipal.raw := moved.deployed
    have hRecalled : position.recalledCustody.raw = a.position.recalledCustody.raw + returned :=
      moved.recalled
    have hResolved := moved.resolved
    have hLost := moved.recordLoss
    have principalBound := call.principalBefore.bound
    have requestBound := record.requestedRecallAmount.bound
    have hSent : record'.assetsSent = record.assetsSent := by rw [moved.sameRecord]
    have hRequested : record'.requestedRecallAmount = record.requestedRecallAmount := by
      rw [moved.sameRecord]
    have hAttributed : position.attributedPrincipal = a.position.attributedPrincipal := by
      rw [moved.samePosition]
    have hUnattributed : position.unattributedCustody = unattributed := by
      rw [moved.samePosition]
    unfold TransferRecord.unresolved at within
    refine ⟨record, withdraws.active.stored, ⟨withdraws.active.hKind, withdraws.active.hStatus,
      withdraws.active.isOpen, withdraws.active.same⟩, withdraws.shape, _,
      ⟨unattributed, withdraws.covered, whole, rfl⟩,
      ⟨record.requestedRecallAmount.raw -
        (record.custodyPrincipalReserved.raw + record.strategyPrincipalResolved.raw), by omega⟩,
      ?_, ?_, before, withdraws.control, ⟨reduction, by omega⟩, ?_, ⟨returned, by omega⟩, ?_,
      ⟨returned, by omega⟩, ?_, rfl, ?_, some, ⟨reduction - returned, by omega⟩, ?_,
      (position, record'), ?_, ?_, ?_, ?_⟩
    · dsimp only
      omega
    · dsimp only
      omega
    · dsimp only
      omega
    · dsimp only
      omega
    · dsimp only
      omega
    · dsimp only
      omega
    · dsimp only
      omega
    · refine (bookWithdrawal_ok ?_).mpr ⟨moved, ?_⟩
      · dsimp only
        omega
      · dsimp only
        omega
    · unfold RemotePosition.accounted
      rw [hAttributed, hUnattributed, hRecalled]
      omega
    · dsimp only
      omega
    · refine settle_bookRecall.mpr ⟨?_, rfl⟩
      show record'.assetsSent.raw + record'.realizedLoss.raw ≤ record'.requestedRecallAmount.raw
      rw [hSent, hRequested]
      omega

/-- Recalled custody that can be sent on. -/
structure Sends (a : Accounts) (transferId : Bytes32) (maximum : U64) (record : TransferRecord)
    (amount : Nat) : Prop where
  active : a.book.Opens .recall .pending transferId record
  shape : record.RecallShape
  covered : a.position.accounted ≤ a.custody.raw
  moves : amount = min maximum.raw a.position.recalledCustody.raw
  nonzero : amount ≠ 0
  settled : record.assetsSent.raw + amount + record.realizedLoss.raw ≤
    record.requestedRecallAmount.raw

theorem sendRecallAssets_iff {maximum : U64} :
    a.sendRecallAssets ctx transferId maximum = .ok a' ↔
      ∃ record amount, ∃ unattributed recalled sent custody escrow : U64,
        a.Sends transferId maximum record amount ∧
        a.position.attributedPrincipal.raw + a.position.recalledCustody.raw + unattributed.raw =
          a.custody.raw ∧
        recalled.raw + amount = a.position.recalledCustody.raw ∧
        sent.raw = record.assetsSent.raw + amount ∧ custody.raw + amount = a.custody.raw ∧
        escrow.raw = a.escrow.raw + amount ∧
        a' = a.bookRecall ctx transferId { record with assetsSent := sent }
          { a.position with
            unattributedCustody := unattributed
            recalledCustody := recalled } custody escrow := by
  simp only [sendRecallAssets, bind_eq_ok, loadRecord_ok, TransferRecord.checkActive_ok,
    TransferRecord.checkRecallShape_ok, reconcile_ok, rejectIf_eq_ok, Unsigned.checkedSub_eq_ok,
    Unsigned.checkedAdd_eq_ok, checkedAdd_ok, checkIdentity_ok, Unsigned.isZero_iff,
    exists_const, pure_eq_ok]
  constructor
  · rintro ⟨record, stored, ⟨kind, pending, isOpen, same⟩, shape, _, ⟨unattributed, covered, whole,
      rfl⟩, some, custody, hCustody, escrow, hEscrow, recalled, hRecalled, sent, hSent, identity,
      hSettle⟩
    rw [minimum_raw] at some hCustody hEscrow hRecalled hSent
    obtain ⟨settled, rfl⟩ := settle_bookRecall.mp hSettle
    dsimp only at settled some hCustody hEscrow hRecalled hSent
    exact ⟨record, _, unattributed, recalled, sent, custody, escrow,
      ⟨⟨stored, kind, pending, isOpen, same⟩, shape, covered, rfl, some, by omega⟩, whole, hRecalled,
      hSent, hCustody, hEscrow, rfl⟩
  · rintro ⟨record, amount, unattributed, recalled, sent, custody, escrow, sends, whole, hRecalled,
      hSent, hCustody, hEscrow, rfl⟩
    have amounts := sends.moves
    have some := sends.nonzero
    have settled := sends.settled
    have hAmount : (minimum maximum a.position.recalledCustody).raw = amount :=
      minimum_raw.trans amounts.symm
    refine ⟨record, sends.active.stored, ⟨sends.active.hKind, sends.active.hStatus,
      sends.active.isOpen, sends.active.same⟩, sends.shape, _,
      ⟨unattributed, sends.covered, whole, rfl⟩, ?_, custody, ?_, escrow, ?_, recalled, ?_, sent, ?_,
      ?_, ?_⟩
    · rw [hAmount]
      exact some
    · rw [hAmount]
      exact hCustody
    · rw [hAmount]
      exact hEscrow
    · rw [hAmount]
      exact hRecalled
    · rw [hAmount]
      exact hSent
    · unfold RemotePosition.accounted
      dsimp only
      omega
    · refine settle_bookRecall.mpr ⟨?_, rfl⟩
      show sent.raw + record.realizedLoss.raw ≤ record.requestedRecallAmount.raw
      omega

end Accounts

end Leg
