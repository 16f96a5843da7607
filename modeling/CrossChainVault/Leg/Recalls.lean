import CrossChainVault.Leg.Records

set_option autoImplicit false

/- A recall from its acceptance to its last transfer, however its withdrawals, its sends and the
deployments around them are cut up; and the ceiling on accepted principal. -/

namespace Leg

open Result Protocol Tally

namespace TransferRecord

/-- What a recall lost. -/
def recallLoss (record : TransferRecord) : Nat :=
  if record.transferKind = .recall then record.realizedLoss.raw else 0

/-- A recall that may run, or is done. -/
structure Unwound (record : TransferRecord) : Prop where
  split : record.assetsWithdrawn.raw + record.realizedLoss.raw = record.strategyPrincipalResolved.raw
  within : record.custodyPrincipalReserved.raw + record.strategyPrincipalResolved.raw ≤
    record.requestedRecallAmount.raw
  complete : record.status = .complete ↔
    record.assetsSent.raw + record.realizedLoss.raw = record.requestedRecallAmount.raw
  whole : record.status = .complete →
    record.custodyPrincipalReserved.raw + record.strategyPrincipalResolved.raw =
      record.requestedRecallAmount.raw

/-- A recall that was held back touched nothing yet. -/
structure Untouched (record : TransferRecord) : Prop where
  requested : record.requestedRecallAmount.raw ≠ 0
  reserved : record.custodyPrincipalReserved.raw = 0
  resolved : record.strategyPrincipalResolved.raw = 0
  withdrawn : record.assetsWithdrawn.raw = 0
  sent : record.assetsSent.raw = 0
  lost : record.realizedLoss.raw = 0

/-- What a running recall has at this position. -/
structure Running (record : TransferRecord) (p : RemotePosition) : Prop where
  custody : p.recalledCustody.raw + record.assetsSent.raw =
    record.custodyPrincipalReserved.raw + record.assetsWithdrawn.raw
  covered : record.requestedRecallAmount.raw ≤ record.custodyPrincipalReserved.raw +
    record.strategyPrincipalResolved.raw + p.deployedPrincipal.raw

end TransferRecord

/-- The position names a recall that may run. -/
def RemotePosition.Recalling (p : RemotePosition) : Prop :=
  p.activeTransferKind = .recall ∧ p.activeTransferStatus = .pending

/-- Every recall adds up, and recalled custody belongs to the running one. -/
structure Book.Recalls (b : Book) : Prop where
  unwound : ∀ transferId record, b.records transferId = some record →
    record.transferKind = .recall → record.status ≠ .quarantined → record.Unwound
  untouched : ∀ transferId record, b.records transferId = some record →
    record.transferKind = .recall → record.status = .quarantined → record.Untouched
  running : ∀ transferId record, b.records transferId = some record →
    record.transferKind = .recall → record.status = .pending → record.Running b.position
  idle : ¬b.position.Recalling → b.position.recalledCustody.raw = 0
  loss : b.position.cumulativeRealizedLoss.raw = sumRecords TransferRecord.recallLoss b.records

theorem Book.Fresh.recalls {b : Book} (fresh : b.Fresh) : b.Recalls where
  unwound := by
    intro transferId record stored
    rw [fresh.records] at stored
    cases stored
  untouched := by
    intro transferId record stored
    rw [fresh.records] at stored
    cases stored
  running := by
    intro transferId record stored
    rw [fresh.records] at stored
    cases stored
  idle := by
    intro _
    rw [fresh.position]
    rfl
  loss := by
    rw [fresh.position, sumRecords_empty fresh.records]
    rfl

namespace Book.Recalls

variable {b : Book} {transferId : Bytes32} {record record' : TransferRecord} {p : RemotePosition}
  {custody : U64} {ledger : TransportLedger} {risk : RiskConfig} {config : RemoteConfig}

/-- Only deployed principal and waiting custody move. -/
theorem same_recall (recalls : b.Recalls)
    (cycle : p.Recalling ↔ b.position.Recalling)
    (recalled : p.recalledCustody = b.position.recalledCustody)
    (loss : p.cumulativeRealizedLoss = b.position.cumulativeRealizedLoss)
    (deployed : b.position.deployedPrincipal.raw ≤ p.deployedPrincipal.raw) :
    Book.Recalls { b with config := config, risk := risk, position := p, custody := custody } where
  unwound := recalls.unwound
  untouched := recalls.untouched
  running := by
    intro transferId record stored kind pending
    have before := recalls.running transferId record stored kind pending
    refine ⟨recalled ▸ before.custody, Nat.le_trans before.covered ?_⟩
    exact Nat.add_le_add_left deployed _
  idle := by
    intro idle
    rw [recalled]
    exact recalls.idle fun before => idle (cycle.mpr before)
  loss := by
    show p.cumulativeRealizedLoss.raw = _
    rw [loss]
    exact recalls.loss

/-- A record is stored; no other record is a running recall. -/
theorem store (recalls : b.Recalls)
    (alone : ∀ otherId other, otherId ≠ transferId → b.records otherId = some other →
      ¬other.IsOpen)
    (unwound : record.transferKind = .recall → record.status ≠ .quarantined → record.Unwound)
    (untouched : record.transferKind = .recall → record.status = .quarantined → record.Untouched)
    (running : record.transferKind = .recall → record.status = .pending → record.Running p)
    (idle : ¬p.Recalling → p.recalledCustody.raw = 0)
    (loss : p.cumulativeRealizedLoss.raw =
      sumRecords TransferRecord.recallLoss (Function.update b.records transferId (some record))) :
    Book.Recalls { b.store transferId record with
      position := p, custody := custody, ledger := ledger } where
  unwound := forall_store unwound fun otherId other _ found => recalls.unwound otherId other found
  untouched := forall_store untouched fun otherId other _ found =>
    recalls.untouched otherId other found
  running := forall_store running fun otherId other apart found _ pending =>
    absurd (.inl pending) (alone otherId other apart found)
  idle := idle
  loss := loss

/-- A transfer that is no recall starts or moves on. -/
theorem aside (recalls : b.Recalls)
    (alone : ∀ otherId other, otherId ≠ transferId → b.records otherId = some other →
      ¬other.IsOpen)
    (apart : b.position.activeTransferKind ≠ .recall) (kind : record.transferKind ≠ .recall)
    (before : ∀ old, b.records transferId = some old → old.transferKind ≠ .recall)
    (recalled : p.recalledCustody = b.position.recalledCustody)
    (loss : p.cumulativeRealizedLoss = b.position.cumulativeRealizedLoss) :
    Book.Recalls { b.store transferId record with
      position := p, custody := custody, ledger := ledger } := by
  have nothing : record.recallLoss = 0 := if_neg kind
  refine recalls.store alone (fun same => absurd same kind) (fun same => absurd same kind)
    (fun same => absurd same kind) ?_ ?_
  · intro _
    rw [recalled]
    exact recalls.idle fun recalling => apart recalling.1
  · rw [loss, recalls.loss]
    cases found : b.records transferId with
    | none => rw [sumRecords_new found, nothing, Nat.add_zero]
    | some old =>
        have same : old.recallLoss = 0 := if_neg (before old found)
        rw [sumRecords_same found (nothing.trans same.symm)]

/-- The open allocation moves on. -/
theorem aside_open {status : TransferStatus} (recalls : b.Recalls) (recorded : b.Recorded)
    (opens : b.Opens .allocate status transferId record) (follows : record.Follows record')
    (recalled : p.recalledCustody = b.position.recalledCustody)
    (loss : p.cumulativeRealizedLoss = b.position.cumulativeRealizedLoss) :
    Book.Recalls { b.store transferId record' with
      position := p, custody := custody, ledger := ledger } := by
  have kind : record.transferKind ≠ .recall := by
    rw [opens.hKind]
    decide
  refine recalls.aside (fun _ _ => recorded.other_closed opens) ?_ (follows.kind ▸ kind) ?_ recalled
    loss
  · rw [opens.isOpen]
    decide
  · intro old found
    cases opens.stored.symm.trans found
    exact kind

end Book.Recalls

/-- One part of an unwind keeps what a running recall has, and its loss. -/
theorem Unwinds.running {b : Book} {transferId : Bytes32} {instruction : Instruction}
    {record record' : TransferRecord} {position : RemotePosition} {custody : U64}
    (unwinds : Unwinds b transferId record instruction record' position custody)
    (unwound : record.Unwound) (running : record.Running b.position) :
    record'.assetsWithdrawn.raw + record'.realizedLoss.raw =
        record'.strategyPrincipalResolved.raw ∧
      record'.custodyPrincipalReserved.raw + record'.strategyPrincipalResolved.raw ≤
        record'.requestedRecallAmount.raw ∧
      record'.Running position ∧
      position.cumulativeRealizedLoss.raw + record.realizedLoss.raw =
        b.position.cumulativeRealizedLoss.raw + record'.realizedLoss.raw := by
  have split := unwound.split
  have within := unwound.within
  have custody := running.custody
  have covered := running.covered
  cases unwinds with
  | withdrew maximum call unattributed deployed recalled loss resolved withdrawn recordLoss custody
      reported arrived hDeployed hRecalled hLoss returned lost hSplit hWithin identity =>
      dsimp only
      exact ⟨by omega, hWithin, ⟨by dsimp only; omega, by dsimp only; omega⟩, hLoss⟩
  | sent maximum unattributed recalled sent custody hRecalled grows left identity =>
      dsimp only
      exact ⟨split, within, ⟨by dsimp only; omega, covered⟩, rfl⟩

namespace Change

variable {guardian : Bool} {b b' : Book} {instruction : Instruction}

theorem recalls (change : Change guardian b instruction b') (recorded : b.Recorded)
    (before : b.Recalls) : b'.Recalls := by
  -- Allocations and recoveries leave the recalls alone; only the last group of cases unwinds one.
  have idleApart : b.position.activeTransferKind = .none →
      b.position.activeTransferKind ≠ .recall := fun idle isRecall => by
    rw [idle] at isRecall
    cases isRecall
  have idleAlone : b.position.activeTransferKind = .none → ∀ transferId otherId other,
      otherId ≠ transferId → b.records otherId = some other → ¬other.IsOpen :=
    fun idle _ _ _ _ found => recorded.idle_closed idle found
  cases change with
  | quiet => exact before
  | updated => exact before.same_recall .rfl rfl rfl (Nat.le_refl _)
  | froze => exact before.same_recall .rfl rfl rfl (Nat.le_refl _)
  | received => exact before.same_recall .rfl rfl rfl (Nat.le_refl _)
  | reconciled => exact before.same_recall .rfl rfl rfl (Nat.le_refl _)
  | deployed approved amount call unattributed attributed deployed custody running hAttributed
      hDeployed =>
      refine before.same_recall .rfl rfl rfl ?_
      show b.position.deployedPrincipal.raw ≤ deployed.raw
      omega
  | tookAllocation message transferId record idle unused kind =>
      refine before.aside (idleAlone idle transferId) (idleApart idle) (by rw [kind]; decide) ?_ rfl
        rfl
      intro old found
      rw [unused] at found
      cases found
  | admittedAllocation message transferId record consented opens =>
      exact before.aside_open recorded opens ⟨rfl, rfl, rfl⟩ rfl rfl
  | attributed transferId record unattributed principal total consented opens =>
      exact before.aside_open recorded opens ⟨rfl, rfl, rfl⟩ rfl rfl
  | completed transferId record unattributed principal clock consented opens =>
      exact before.aside_open recorded opens ⟨rfl, rfl, rfl⟩ rfl rfl
  | closedPending message body record unattributed principal total clock ledger hBody action
      consented opens =>
      exact before.aside_open recorded opens ⟨rfl, rfl, rfl⟩ rfl rfl
  | closedHeld message body record clock ledger hBody action consented opens =>
      exact before.aside_open recorded opens ⟨rfl, rfl, rfl⟩ rfl rfl
  | closedComplete message body record ledger hBody action consented stored kind complete idle =>
      refine before.aside (idleAlone idle body.transferId) (idleApart idle) (by rw [kind]; decide) ?_
        rfl rfl
      intro old found
      cases stored.symm.trans found
      rw [kind]
      decide
  | recovered message body sequence credited unattributed principal clock ledger hBody action
      consented idle unused =>
      refine before.aside (idleAlone idle body.transferId) (idleApart idle) nofun ?_ rfl rfl
      intro old found
      rw [unused] at found
      cases found
  | heldRecall message transferId sequence requested least clock consented idle unused nonzero =>
      refine before.store (idleAlone idle transferId) (fun _ held => absurd rfl held)
        (fun _ _ => ⟨nonzero, rfl, rfl, rfl, rfl, rfl⟩) nofun ?_ ?_
      · intro _
        exact before.idle fun recalling => idleApart idle recalling.1
      · rw [sumRecords_new unused]
        exact before.loss
  | startedRecall message transferId sequence requested least clock reserved attributed recalled
      consented idle unused nonzero reserves =>
      have none := before.idle fun recalling => idleApart idle recalling.1
      have covered := reserves.covered
      have hReserved := reserves.hReserved
      have hRecalled := reserves.hRecalled
      unfold RemotePosition.principal at covered
      refine before.store (idleAlone idle transferId) ?_ nofun ?_ ?_ ?_
      · intro _ _
        refine ⟨rfl, ?_, ⟨nofun, fun settled => absurd settled.symm nonzero⟩, nofun⟩
        show reserved.raw + 0 ≤ requested.raw
        omega
      · intro _ _
        refine ⟨?_, ?_⟩
        · show recalled.raw + 0 = reserved.raw + 0
          omega
        · show requested.raw ≤ reserved.raw + 0 + b.position.deployedPrincipal.raw
          omega
      · exact fun idle' => absurd ⟨rfl, rfl⟩ idle'
      · rw [sumRecords_new unused]
        exact before.loss
  | admittedRecall message transferId record reserved attributed recalled consented opens reserves =>
      have none := before.idle fun recalling => by
        have names := recorded.opens_names opens (.inr opens.hStatus)
        cases (names.status.trans opens.hStatus).symm.trans recalling.2
      have untouched := before.untouched transferId record opens.stored opens.hKind opens.hStatus
      obtain ⟨nonzero, -, hResolved, hWithdrawn, hSent, hLost⟩ := untouched
      have covered := reserves.covered
      have hReserved := reserves.hReserved
      have hRecalled := reserves.hRecalled
      unfold RemotePosition.principal at covered
      refine before.store (fun _ _ => recorded.other_closed opens) ?_ nofun ?_ ?_ ?_
      · intro _ _
        refine ⟨?_, ?_, ⟨nofun, ?_⟩, nofun⟩
        · show record.assetsWithdrawn.raw + record.realizedLoss.raw =
            record.strategyPrincipalResolved.raw
          omega
        · show reserved.raw + record.strategyPrincipalResolved.raw ≤
            record.requestedRecallAmount.raw
          omega
        · intro settled
          change record.assetsSent.raw + record.realizedLoss.raw =
            record.requestedRecallAmount.raw at settled
          omega
      · intro _ _
        refine ⟨?_, ?_⟩
        · show recalled.raw + record.assetsSent.raw = reserved.raw + record.assetsWithdrawn.raw
          omega
        · show record.requestedRecallAmount.raw ≤ reserved.raw +
            record.strategyPrincipalResolved.raw + b.position.deployedPrincipal.raw
          omega
      · exact fun idle' => absurd ⟨opens.isOpen, rfl⟩ idle'
      · rw [sumRecords_same opens.stored]
        · exact before.loss
        · rfl
  | progressed transferId instruction record record' position custody opens unwinds short =>
      have follows := unwinds.follows
      have status := unwinds.sameStatus.trans opens.hStatus
      obtain ⟨split, within, running, lost⟩ := unwinds.running
        (before.unwound transferId record opens.stored opens.hKind (by rw [opens.hStatus]; decide))
        (before.running transferId record opens.stored opens.hKind opens.hStatus)
      refine before.store (fun _ _ => recorded.other_closed opens) ?_ ?_ (fun _ _ => running) ?_ ?_
      · intro _ _
        refine ⟨split, within, ⟨?_, ?_⟩, ?_⟩
        · intro complete
          rw [status] at complete
          cases complete
        · intro settled
          omega
        · intro complete
          rw [status] at complete
          cases complete
      · intro _ held
        rw [status] at held
        cases held
      · have names := Unwinds.names (recorded.opens_names opens (.inl opens.hStatus)) unwinds
        exact fun idle => absurd ⟨names.kind.trans (follows.kind.trans opens.hKind),
          names.status.trans status⟩ idle
      · have changed := sumRecords_store TransferRecord.recallLoss record' opens.stored
        have lossBefore : record.recallLoss = record.realizedLoss.raw := if_pos opens.hKind
        have lossAfter : record'.recallLoss = record'.realizedLoss.raw :=
          if_pos (follows.kind.trans opens.hKind)
        have whole := before.loss
        omega
  | settled transferId instruction record record' position custody clock opens unwinds whole =>
      have follows := unwinds.follows
      obtain ⟨split, within, running, lost⟩ := unwinds.running
        (before.unwound transferId record opens.stored opens.hKind (by rw [opens.hStatus]; decide))
        (before.running transferId record opens.stored opens.hKind opens.hStatus)
      have custody := running.custody
      refine before.store (fun _ _ => recorded.other_closed opens) ?_ nofun nofun ?_ ?_
      · intro _ _
        refine ⟨split, within, ⟨fun _ => whole, fun _ => rfl⟩, fun _ => ?_⟩
        show record'.custodyPrincipalReserved.raw + record'.strategyPrincipalResolved.raw =
          record'.requestedRecallAmount.raw
        omega
      · intro _
        show position.recalledCustody.raw = 0
        omega
      · have changed := sumRecords_store TransferRecord.recallLoss
          { record' with status := .complete, completedAt := clock } opens.stored
        have lossBefore : record.recallLoss = record.realizedLoss.raw := if_pos opens.hKind
        have lossAfter : TransferRecord.recallLoss
            { record' with status := .complete, completedAt := clock } =
            record'.realizedLoss.raw := if_pos (follows.kind.trans opens.hKind)
        have total := before.loss
        show position.cumulativeRealizedLoss.raw = _
        omega

end Change

/- The ceiling. -/

/-- What the open allocation may still receive, when it may run. -/
def Book.outstanding (b : Book) : Nat :=
  if b.position.activeTransferKind = .allocate ∧ b.position.activeTransferStatus = .pending then
    (b.records b.position.activeTransferId).elim 0
      fun record => record.authorizedAmount.raw - record.attributedAmount.raw
  else 0

/-- Accepted principal, with what is still due to arrive, stays below the ceiling. -/
def Book.Capped (b : Book) : Prop :=
  b.position.principal + b.outstanding ≤ b.maxRemotePrincipal.raw

section Outstanding

variable {b : Book} {transferId : Bytes32} {record : TransferRecord} {p : RemotePosition}
  {custody : U64} {ledger : TransportLedger}

theorem outstanding_of_kind (apart : b.position.activeTransferKind ≠ .allocate) :
    b.outstanding = 0 :=
  if_neg fun isOpen => apart isOpen.1

theorem outstanding_of_opens (recorded : b.Recorded)
    (opens : b.Opens .allocate .pending transferId record) :
    b.outstanding = record.authorizedAmount.raw - record.attributedAmount.raw := by
  have names := recorded.opens_names opens (.inl opens.hStatus)
  unfold Book.outstanding
  rw [if_pos ⟨opens.isOpen, names.status.trans opens.hStatus⟩, recorded.opens_at opens, opens.stored]
  rfl

/-- A record is stored and becomes, or stays, the open one. -/
theorem capped_store (pointed : p.activeTransferId = transferId)
    (bound : p.principal + (record.authorizedAmount.raw - record.attributedAmount.raw) ≤
      b.maxRemotePrincipal.raw) :
    Book.Capped { b.store transferId record with
      position := p, custody := custody, ledger := ledger } := by
  refine Nat.le_trans (Nat.add_le_add_left ?_ p.principal) bound
  unfold Book.outstanding
  split
  · show Option.elim (Function.update b.records transferId (some record) p.activeTransferId) 0 _ ≤ _
    rw [pointed, Function.update_self]
    exact Nat.le_refl _
  · exact Nat.zero_le _

/-- A record is stored and no allocation may run. -/
theorem capped_idle (bound : p.principal ≤ b.maxRemotePrincipal.raw)
    (apart : ¬(p.activeTransferKind = .allocate ∧ p.activeTransferStatus = .pending)) :
    Book.Capped { b.store transferId record with
      position := p, custody := custody, ledger := ledger } := by
  unfold Book.Capped Book.outstanding
  rw [if_neg apart]
  exact bound

end Outstanding

theorem Book.Fresh.capped {b : Book} (fresh : b.Fresh) : b.Capped := by
  have idle : b.outstanding = 0 := outstanding_of_kind (by rw [fresh.position]; decide)
  unfold Book.Capped
  rw [idle, fresh.position]
  exact Nat.zero_le _

theorem Unwinds.principal_le {b : Book} {transferId : Bytes32} {instruction : Instruction}
    {record record' : TransferRecord} {position : RemotePosition} {custody : U64}
    (unwinds : Unwinds b transferId record instruction record' position custody) :
    position.principal ≤ b.position.principal := by
  cases unwinds with
  | withdrew maximum call unattributed deployed recalled loss resolved withdrawn recordLoss custody
      reported arrived hDeployed hRecalled hLoss returned lost split within identity =>
      show b.position.attributedPrincipal.raw + deployed.raw ≤
        b.position.attributedPrincipal.raw + b.position.deployedPrincipal.raw
      omega
  | sent => exact Nat.le_refl _

namespace Change

variable {guardian : Bool} {b b' : Book} {instruction : Instruction}

theorem maxRemotePrincipal_eq (change : Change guardian b instruction b') :
    b'.maxRemotePrincipal = b.maxRemotePrincipal := by
  cases change <;> rfl

/-- An allocation is weighed when it is accepted or admitted; from then on principal only grows
out of what it left outstanding. -/
theorem capped (change : Change guardian b instruction b') (recorded : b.Recorded)
    (before : b.Capped) : b'.Capped := by
  have bound : b.position.attributedPrincipal.raw + b.position.deployedPrincipal.raw +
      b.outstanding ≤ b.maxRemotePrincipal.raw := before
  have accepted : b.position.principal ≤ b.maxRemotePrincipal.raw :=
    Nat.le_trans (Nat.le_add_right _ _) before
  cases change with
  | quiet => exact before
  | updated => exact before
  | froze => exact before
  | received => exact before
  | reconciled => exact before
  | tookAllocation message transferId record idle unused kind same nothing shape status =>
      obtain ⟨pending, -, fits⟩ | held := status
      · refine capped_store rfl ?_
        show b.position.principal + (record.authorizedAmount.raw - record.attributedAmount.raw) ≤
          b.maxRemotePrincipal.raw
        omega
      · exact capped_idle accepted fun isOpen => by cases isOpen.2.symm.trans held
  | heldRecall message transferId sequence requested least clock consented idle =>
      exact capped_idle accepted fun isOpen => by cases isOpen.1
  | startedRecall message transferId sequence requested least clock reserved attributed recalled
      consented idle unused nonzero reserves =>
      have hAttributed := reserves.hAttributed
      refine capped_idle ?_ fun isOpen => by cases isOpen.1
      show attributed.raw + b.position.deployedPrincipal.raw ≤ b.maxRemotePrincipal.raw
      omega
  | admittedAllocation message transferId record consented opens fits =>
      refine capped_store (recorded.opens_at opens) ?_
      show b.position.principal + (record.authorizedAmount.raw - record.attributedAmount.raw) ≤
        b.maxRemotePrincipal.raw
      omega
  | admittedRecall message transferId record reserved attributed recalled consented opens reserves =>
      have hAttributed := reserves.hAttributed
      refine capped_idle ?_ fun isOpen => by cases opens.isOpen.symm.trans isOpen.1
      show attributed.raw + b.position.deployedPrincipal.raw ≤ b.maxRemotePrincipal.raw
      omega
  | attributed transferId record unattributed principal total consented opens attributes short =>
      have due := outstanding_of_opens recorded opens
      have grows := attributes.grows
      have moved := attributes.moved
      refine capped_store (recorded.opens_at opens) ?_
      show principal.raw + b.position.deployedPrincipal.raw +
        (record.authorizedAmount.raw - total.raw) ≤ b.maxRemotePrincipal.raw
      omega
  | completed transferId record unattributed principal clock consented opens attributes =>
      have due := outstanding_of_opens recorded opens
      have grows := attributes.grows
      have moved := attributes.moved
      refine capped_idle ?_ fun isOpen => by cases isOpen.1
      show principal.raw + b.position.deployedPrincipal.raw ≤ b.maxRemotePrincipal.raw
      omega
  | deployed approved amount call unattributed attributed deployed custody running hAttributed
      hDeployed =>
      show attributed.raw + deployed.raw + b.outstanding ≤ b.maxRemotePrincipal.raw
      omega
  | progressed transferId instruction record record' position custody opens unwinds short =>
      have names := Unwinds.names (recorded.opens_names opens (.inl opens.hStatus)) unwinds
      have isRecall := names.kind.trans (unwinds.follows.kind.trans opens.hKind)
      exact capped_idle (Nat.le_trans unwinds.principal_le accepted)
        fun isOpen => by cases isRecall.symm.trans isOpen.1
  | settled transferId instruction record record' position custody clock opens unwinds whole =>
      exact capped_idle (Nat.le_trans unwinds.principal_le accepted)
        fun isOpen => by cases isOpen.1
  | closedPending message body record unattributed principal total clock ledger hBody action
      consented opens attributes =>
      have due := outstanding_of_opens recorded opens
      have within := attributes.within
      have moved := attributes.moved
      refine capped_idle ?_ fun isOpen => by cases isOpen.1
      show principal.raw + b.position.deployedPrincipal.raw ≤ b.maxRemotePrincipal.raw
      omega
  | closedHeld message body record clock ledger hBody action consented opens =>
      exact capped_idle accepted fun isOpen => by cases isOpen.1
  | closedComplete message body record ledger hBody action consented stored kind complete idle =>
      exact capped_idle accepted fun isOpen => by cases idle.symm.trans isOpen.1
  | recovered message body sequence credited unattributed principal clock ledger hBody action
      consented idle unused fits moved identity =>
      refine capped_idle ?_ fun isOpen => by cases idle.symm.trans isOpen.1
      unfold RemotePosition.principal at fits accepted
      show principal.raw + b.position.deployedPrincipal.raw ≤ b.maxRemotePrincipal.raw
      omega

/-- The step that completes a transfer leaves no transfer open. -/
theorem finished {transferId : Bytes32} {record record' : TransferRecord}
    (change : Change guardian b instruction b') (stored : b.records transferId = some record)
    (unfinished : record.status ≠ .complete) (stored' : b'.records transferId = some record')
    (complete : record'.status = .complete) : b'.position.activeTransferKind = .none := by
  have unchanged : b.records transferId ≠ some record' := by
    intro same
    cases stored.symm.trans same
    exact unfinished complete
  have moved : ∀ otherId other,
      Function.update b.records otherId (some other) transferId = some record' →
      other.status = .complete := by
    intro otherId other found
    by_cases same : transferId = otherId
    · rw [same, Function.update_self, Option.some.injEq] at found
      rwa [found]
    · rw [Function.update_of_ne same] at found
      exact absurd found unchanged
  cases change with
  | quiet => exact absurd stored' unchanged
  | updated => exact absurd stored' unchanged
  | froze => exact absurd stored' unchanged
  | received => exact absurd stored' unchanged
  | reconciled => exact absurd stored' unchanged
  | tookAllocation message otherId other idle unused kind same nothing shape status =>
      have done := moved _ _ stored'
      obtain ⟨pending, -, -⟩ | held := status
      · cases pending.symm.trans done
      · cases held.symm.trans done
  | heldRecall => cases moved _ _ stored'
  | startedRecall => cases moved _ _ stored'
  | admittedAllocation => cases moved _ _ stored'
  | admittedRecall => cases moved _ _ stored'
  | attributed otherId other unattributed principal total consented opens =>
      have done := moved _ _ stored'
      cases opens.hStatus.symm.trans done
  | completed => rfl
  | deployed => exact absurd stored' unchanged
  | progressed otherId instruction other other' position custody opens unwinds =>
      cases (unwinds.sameStatus.trans opens.hStatus).symm.trans (moved _ _ stored')
  | settled => rfl
  | closedPending => rfl
  | closedHeld => rfl
  | closedComplete message body other ledger hBody action consented found kind done idle =>
      exact idle
  | recovered message body sequence credited unattributed principal clock ledger hBody action
      consented idle => exact idle

end Change

section Reachable

variable {digests : Digests} {inputs : List (Context × Instruction)} {a : Accounts}

theorem Reached.recalls (reached : Reached digests inputs a) : a.book.Recalls :=
  (reached.invariant (fun b => b.Recorded ∧ b.Recalls)
    (fun _ fresh => ⟨fresh.recorded, fresh.recalls⟩)
    (fun _ _ _ _ change before =>
      ⟨change.recorded before.1, change.recalls before.1 before.2⟩)).2

theorem Reached.capped (reached : Reached digests inputs a) : a.book.Capped :=
  (reached.invariant (fun b => b.Recorded ∧ b.Capped)
    (fun _ fresh => ⟨fresh.recorded, fresh.capped⟩)
    (fun _ _ _ _ change before =>
      ⟨change.recorded before.1, change.capped before.1 before.2⟩)).2

/-- The ceiling chosen at initialization holds whatever order allocations, admissions, closes and
recoveries come in, and recalled custody is only held for an open recall. -/
theorem principal_ceiling {setup : Setup} {start : Accounts} (created : setup.create = .ok start)
    (finished : Run.run (Accounts.accept digests) start inputs = .ok a) :
    a.position.attributedPrincipal.raw + a.position.deployedPrincipal.raw + a.book.outstanding ≤
        setup.maxRemotePrincipal.raw ∧
      (0 < a.position.recalledCustody.raw → a.position.activeTransferKind = .recall) := by
  have reached : Reached digests inputs a := ⟨setup, start, created, finished⟩
  have chosen : start.maxRemotePrincipal = setup.maxRemotePrincipal := by
    simp only [Setup.create, bind_eq_ok, pure_eq_ok] at created
    obtain ⟨_, -, rfl⟩ := created
    rfl
  have kept : a.maxRemotePrincipal = start.maxRemotePrincipal := by
    refine Run.run_preserves (fun a : Accounts => a.maxRemotePrincipal = start.maxRemotePrincipal) ?_
      inputs start finished rfl
    intro a input a' success before
    exact (Accounts.step_changes success).maxRemotePrincipal_eq.trans before
  constructor
  · rw [← chosen, ← kept]
    exact reached.capped
  · intro some
    by_contra apart
    have none := reached.recalls.idle fun recalling => apart recalling.1
    change a.position.recalledCustody.raw = 0 at none
    omega

/-- Every accepted or admitted recall adds up in every reachable state: what it withdrew and lost is
what it resolved, what it holds here is what it reserved and withdrew and did not send, the rest is
still deployed, and it is complete exactly when it sent or lost all that was requested. -/
theorem recall_accounting (reached : Reached digests inputs a) :
    (∀ transferId record, a.transferRecords transferId = some record →
      record.transferKind = .recall → record.status ≠ .quarantined →
      record.assetsWithdrawn.raw + record.realizedLoss.raw =
          record.strategyPrincipalResolved.raw ∧
      record.custodyPrincipalReserved.raw + record.strategyPrincipalResolved.raw ≤
          record.requestedRecallAmount.raw ∧
      (record.IsOpen → a.position.recalledCustody.raw = record.custodyPrincipalReserved.raw +
            record.assetsWithdrawn.raw - record.assetsSent.raw ∧
          record.assetsSent.raw ≤
            record.custodyPrincipalReserved.raw + record.assetsWithdrawn.raw ∧
          record.requestedRecallAmount.raw - record.custodyPrincipalReserved.raw -
            record.strategyPrincipalResolved.raw ≤ a.position.deployedPrincipal.raw) ∧
      (record.status = .complete ↔ record.assetsSent.raw + record.realizedLoss.raw =
        record.requestedRecallAmount.raw)) ∧
    a.position.cumulativeRealizedLoss.raw =
      sumRecords TransferRecord.recallLoss a.transferRecords ∧
    ∀ ctx instruction a', a.step digests ctx instruction = .ok a' →
      ∀ transferId record record', a.transferRecords transferId = some record →
        record.transferKind = .recall → record.status ≠ .complete →
        a'.transferRecords transferId = some record' → record'.status = .complete →
        a'.position.recalledCustody.raw = 0 ∧
        record'.custodyPrincipalReserved.raw + record'.strategyPrincipalResolved.raw =
          record'.requestedRecallAmount.raw := by
  have recalls := reached.recalls
  refine ⟨?_, recalls.loss, ?_⟩
  · intro transferId record stored kind accepted
    have unwound := recalls.unwound transferId record stored kind accepted
    refine ⟨unwound.split, unwound.within, ?_, unwound.complete⟩
    intro isOpen
    have pending := isOpen.resolve_right accepted
    have running := recalls.running transferId record stored kind pending
    have custody := running.custody
    have covered := running.covered
    change a.position.recalledCustody.raw + _ = _ at custody
    change _ ≤ _ + a.position.deployedPrincipal.raw at covered
    exact ⟨by omega, by omega, by omega⟩
  · intro ctx instruction a' success transferId record record' stored kind unfinished stored' complete
    have change := Accounts.step_changes success
    have recalls' := (reached.snoc success).recalls
    have idle := change.finished stored unfinished stored' complete
    obtain ⟨_, found, follows, -⟩ := change.moves transferId record stored
    cases stored'.symm.trans found
    have unwound := recalls'.unwound transferId record' stored' (follows.kind.trans kind)
      (by rw [complete]; decide)
    refine ⟨recalls'.idle ?_, unwound.whole complete⟩
    intro recalling
    cases idle.symm.trans recalling.1

end Reachable

/-- A recall of five hundred that takes the three hundred here, loses ten of the two hundred it
withdraws and sends the rest in two parts. -/
def sampleUnwound : List (Context × Instruction) :=
  [sampleAllocate 1 600, sampleArrival 600, sampleAttribution 1, sampleDeploy 300 300 300,
    sampleRecall 2 500, sampleSend 2 250, sampleWithdraw 2 200 100 190 240, sampleSend 2 900]

theorem recall_accounting_unwound : ∃ a record, Reached sampleDigests sampleUnwound a ∧
    a.transferRecords 2 = some record ∧ record.status = .complete ∧
    record.assetsSent.raw + record.realizedLoss.raw = record.requestedRecallAmount.raw ∧
    sumRecords TransferRecord.recallLoss a.transferRecords = 10 := by
  have passes : (sampleLeg sampleUnwound).toOption.any (fun a =>
      (a.transferRecords 2).any (fun record => record.transferKind = .recall ∧
        record.status = .complete) ∧ a.position.cumulativeRealizedLoss.raw = 10) = true := by
    decide +kernel
  obtain ⟨a, finished, holds⟩ := ok_of_any passes
  have reached := sampleLeg_reached finished
  simp only [Option.any_eq_true, decide_eq_true_eq] at holds
  obtain ⟨⟨record, stored, kind, complete⟩, lost⟩ := holds
  obtain ⟨recalls, total, -⟩ := recall_accounting reached
  obtain ⟨-, -, -, settled⟩ := recalls _ record stored kind (by rw [complete]; decide)
  exact ⟨a, record, reached, stored, complete, settled.mp complete, total.symm.trans lost⟩

/-- A thousand would fit, but four hundred of it is already promised to the first allocation. -/
theorem principal_ceiling_attributed : ∃ start a, sampleSetup.create = .ok start ∧
    Run.run (Accounts.accept sampleDigests) start
      [sampleAllocate 1 900, sampleArrival 500, sampleAttribution 1] = .ok a ∧
    a.book.outstanding = 400 ∧
    a.position.attributedPrincipal.raw + a.position.deployedPrincipal.raw + a.book.outstanding ≤
      1000 := by
  have passes : (sampleLeg [sampleAllocate 1 900, sampleArrival 500,
      sampleAttribution 1]).toOption.any (fun a => a.book.outstanding = 400) = true := by
    decide +kernel
  obtain ⟨a, finished, holds⟩ := ok_of_any passes
  simp only [sampleLeg, bind_eq_ok] at finished
  obtain ⟨start, created, rest⟩ := finished
  exact ⟨start, a, created, rest, by simpa using holds, (principal_ceiling created rest).1⟩

end Leg
