import CrossChainVault.Leg.Custody
import CrossChainVault.Leg.Ready

set_option autoImplicit false

/- When the leg accepts the next control message. -/

namespace Leg

open Result Protocol

theorem reserveRecallCustody_succeeds {record : TransferRecord} {p : RemotePosition}
    (nothing : p.recalledCustody.raw = 0) : Succeeds (reserveRecallCustody record p) := by
  have bound := p.attributedPrincipal.bound
  let reserved : U64 := minimum record.requestedRecallAmount p.attributedPrincipal
  have hReserved : reserved.raw = min record.requestedRecallAmount.raw p.attributedPrincipal.raw :=
    minimum_raw
  have within : reserved.raw ≤ p.attributedPrincipal.raw := by omega
  exact ⟨_, reserveRecallCustody_ok.mpr ⟨reserved, p.attributedPrincipal.saturatingSub reserved,
    reserved, hReserved, by rw [Unsigned.saturatingSub_raw]; omega, by omega, rfl⟩⟩

/-- Taking custody that waits keeps it explained. -/
theorem attributeNow_succeeds {p : RemotePosition} {amount custody : U64}
    (waits : amount.raw ≤ p.unattributedCustody.raw) (whole : custody.raw = p.accounted) :
    ∃ p', p.attributeNow amount = .ok p' ∧ custody.raw = p'.accounted := by
  unfold RemotePosition.accounted at whole
  have bound := custody.bound
  let attributed : U64 := ⟨p.attributedPrincipal.raw + amount.raw, by omega⟩
  let left : U64 := p.unattributedCustody.saturatingSub amount
  have hLeft : left.raw + amount.raw = p.unattributedCustody.raw := by
    rw [Unsigned.saturatingSub_raw]
    omega
  refine ⟨_, RemotePosition.attributeNow_ok.mpr ⟨left, attributed, hLeft, rfl, rfl⟩, ?_⟩
  show custody.raw = p.attributedPrincipal.raw + amount.raw + p.recalledCustody.raw + left.raw
  omega

theorem reconcile_succeeds {b : Book} (covered : b.Covered) :
    ∃ p, reconcile b.position b.custody = .ok p ∧ b.custody.raw = p.accounted := by
  obtain ⟨_, success, whole⟩ := covered.reconcile
  obtain ⟨unattributed, -, -, rfl⟩ := reconcile_ok.mp success
  exact ⟨_, success, whole.symm⟩

section Ledger

variable {ledger : TransportLedger} {claim credited sequence : U64}

/-- While the claims stay below what their number allows, another one fits. -/
theorem recordClose_succeeds (balanced : ledger.Balanced)
    (claims : ledger.cumulativeClosedClaim.raw ≤ ledger.totalClosed.raw * 2 ^ 64)
    (room : ledger.totalClosed.raw + 1 < 2 ^ 64) (within : credited.raw ≤ claim.raw) :
    Succeeds (ledger.recordClose claim credited sequence) := by
  have small := claim.bound
  unfold TransportLedger.Balanced at balanced
  have fits : ledger.cumulativeClosedClaim.raw + claim.raw < 2 ^ 128 := by
    calc ledger.cumulativeClosedClaim.raw + claim.raw
        < ledger.totalClosed.raw * 2 ^ 64 + 2 ^ 64 := by omega
      _ = (ledger.totalClosed.raw + 1) * 2 ^ 64 := by omega
      _ ≤ 2 ^ 64 * 2 ^ 64 := Nat.mul_le_mul_right _ (Nat.le_of_lt room)
      _ = 2 ^ 128 := by decide
  let closedClaim : U128 := ⟨ledger.cumulativeClosedClaim.raw + claim.raw, fits⟩
  let closedCredit : U128 := ⟨ledger.cumulativeClosedCredit.raw + credited.raw, by omega⟩
  let impaired : U128 :=
    ⟨ledger.impairedOutstanding.raw + (claim.raw - credited.raw), by omega⟩
  refine ⟨_, TransportLedger.recordClose_ok.mpr ⟨closedClaim, closedCredit, impaired,
    ⟨ledger.totalClosed.raw + 1, room⟩, within, rfl, rfl, rfl, rfl, rfl, ?_⟩⟩
  show ledger.cumulativeClosedCredit.raw + credited.raw +
      (ledger.impairedOutstanding.raw + (claim.raw - credited.raw)) +
      ledger.cumulativeRecovered.raw = ledger.cumulativeClosedClaim.raw + claim.raw
  omega

theorem recordRecovery_succeeds (balanced : ledger.Balanced)
    (room : ledger.totalRecoveries.raw + 1 < 2 ^ 64)
    (within : credited.raw ≤ ledger.impairedOutstanding.raw) :
    Succeeds (ledger.recordRecovery credited) := by
  unfold TransportLedger.Balanced at balanced
  have bound := ledger.cumulativeClosedClaim.bound
  let impaired : U128 := ⟨ledger.impairedOutstanding.raw - credited.raw, by omega⟩
  let recovered : U128 := ⟨ledger.cumulativeRecovered.raw + credited.raw, by omega⟩
  refine ⟨_, TransportLedger.recordRecovery_ok.mpr ⟨impaired, recovered,
    ⟨ledger.totalRecoveries.raw + 1, room⟩, ?_, rfl, rfl, rfl, ?_⟩⟩
  · show ledger.impairedOutstanding.raw - credited.raw + credited.raw = _
    omega
  · show ledger.cumulativeClosedCredit.raw + (ledger.impairedOutstanding.raw - credited.raw) +
      (ledger.cumulativeRecovered.raw + credited.raw) = ledger.cumulativeClosedClaim.raw
    omega

end Ledger

namespace Accounts

variable {hashing : Hashing} {digests : Digests} {a a' : Accounts} {ctx : Context}
  {message : Message} {now : U64}

section Taking

theorem processAllocate_succeeds {body : AllocateBody} {amount : U64}
    (hBody : message.body = .allocate body) (receives : a.Receives ctx message .allocate now)
    (version : body.configVersion = a.config.configVersion)
    (unused : a.transferRecords body.transferId = none)
    (idle : a.position.activeTransferKind = .none) (hAmount : amount.raw = body.amount.raw)
    (weighable : a.Weighable (isFresh message.header now) amount) :
    Succeeds (a.processAllocate hashing ctx message) := by
  obtain ⟨-, -, valid⟩ := bind_eq_ok.mp receives.next.valid
  rw [hBody] at valid
  simp only [AllocateBody.validate, bind_eq_ok, rejectIf_eq_ok, exists_const, Unsigned.isZero_iff,
    Unsigned.lt_def, Nat.not_lt] at valid
  obtain ⟨transfer, nonzero, least, within, -, -⟩ := valid
  rw [← hAmount] at nonzero within
  obtain ⟨reason, hReason⟩ := quarantineReason_of_weighable weighable
  have small := amount.bound
  let minimumAmount : U64 := ⟨body.minimumDestinationAmount.raw, by omega⟩
  simp only [processAllocate, hBody, succeeds_bind, Context.requireVerifier_ok, checkControlLane_ok,
    Context.currentTime_ok, validateInbound_ok, checkConfigVersion_ok, rejectIf_eq_ok,
    checkAvailable_ok, RemotePosition.checkNoActiveTransfer_ok, narrowAmount_ok,
    Unsigned.isZero_iff, Unsigned.lt_def, Nat.not_lt, exists_const]
  refine ⟨receives.verifier, receives.lane, now, receives.clock, receives.next, version, transfer,
    unused, idle, amount, hAmount, minimumAmount, rfl, nonzero, least, within, reason, hReason,
    receives.unconsumed, ?_⟩
  split
  · exact succeeds_pure
  · exact succeeds_pure

theorem processRecall_succeeds {body : RecallBody} (hBody : message.body = .recall body)
    (receives : a.Receives ctx message .recall now) (consents : ctx.Consents a.config)
    (version : body.configVersion = a.config.configVersion)
    (unused : a.transferRecords body.transferId = none)
    (idle : a.position.activeTransferKind = .none) (small : a.position.principal < 2 ^ 64)
    (fits : body.requestedAmount.raw < 2 ^ 64)
    (covered : isFresh message.header now = true → body.requestedAmount.raw ≤ a.position.principal)
    (nothing : a.position.recalledCustody.raw = 0) :
    Succeeds (a.processRecall hashing ctx message) := by
  obtain ⟨-, -, valid⟩ := bind_eq_ok.mp receives.next.valid
  rw [hBody] at valid
  simp only [RecallBody.validate, bind_eq_ok, rejectIf_eq_ok, exists_const, Unsigned.isZero_iff,
    Unsigned.lt_def, Nat.not_lt] at valid
  obtain ⟨transfer, nonzero, least, within, -, -⟩ := valid
  let requested : U64 := ⟨body.requestedAmount.raw, fits⟩
  let minimumAmount : U64 := ⟨body.minimumReturnAmount.raw, by omega⟩
  simp only [processRecall, hBody, succeeds_bind, Context.requireVerifier_ok, checkControlLane_ok,
    Context.requireConsent_ok, Context.currentTime_ok, validateInbound_ok, checkConfigVersion_ok,
    rejectIf_eq_ok, checkAvailable_ok, RemotePosition.checkNoActiveTransfer_ok, narrowAmount_ok,
    Unsigned.isZero_iff, Unsigned.lt_def, Nat.not_lt, exists_const]
  refine ⟨receives.verifier, receives.lane, consents, now, receives.clock, receives.next, version,
    transfer, unused, idle, requested, rfl, minimumAmount, rfl, nonzero, least, within, ?_⟩
  split
  · -- A fresh recall starts at once.
    rename_i fresh
    simp only [checkRecallable, succeeds_bind, bind_eq_ok, RemotePosition.acceptedPrincipal_ok,
      rejectIf_eq_ok, checkAvailable_ok, Unsigned.lt_def, Nat.not_lt, exists_const]
    obtain ⟨reserved, hReserved⟩ := reserveRecallCustody_succeeds nothing
    exact ⟨⟨⟨a.position.principal, small⟩, rfl, covered fresh⟩, receives.unconsumed, reserved, hReserved,
      succeeds_pure⟩
  · simp only [succeeds_bind, checkAvailable_ok, exists_const]
    exact ⟨receives.unconsumed, succeeds_pure⟩

end Taking

section Admitting

variable {body : ResolveBody} {fresh : Bool} {transferId : Bytes32}

/-- A live admission of a held allocation weighs it against the ceiling. -/
def Admissible (a : Accounts) (fresh : Bool) (body : ResolveBody) : Prop :=
  fresh = true → a.position.holdsQuarantined body.transferId body.targetSequence = true →
    ∀ record, a.transferRecords body.transferId = some record → record.transferKind = .allocate →
      a.position.principal + record.authorizedAmount.raw < 2 ^ 64

@[simp] theorem holdsQuarantined_iff {p : RemotePosition} {sequence : U64} :
    p.holdsQuarantined transferId sequence = true ↔ p.activeTransferKind ≠ .none ∧
      p.activeTransferStatus = .quarantined ∧ p.activeTransferId = transferId ∧
      p.activeTransferSequence = sequence := by
  simp only [RemotePosition.holdsQuarantined, RemotePosition.hasActiveTransfer, Bool.and_eq_true,
    decide_eq_true_eq, and_assoc]

theorem admitTransfer_succeeds (recorded : a.book.Recorded) (recalls : a.book.Recalls)
    (shaped : a.book.Shaped) (small : a.position.principal < 2 ^ 64)
    (guardian : ctx.emergencyGuardian = true) (isOpen : a.position.activeTransferKind ≠ .none)
    (held : a.position.activeTransferStatus = .quarantined)
    (same : a.position.activeTransferId = transferId)
    (weighed : ∀ record, a.transferRecords transferId = some record →
      record.transferKind = .allocate →
      a.position.principal + record.authorizedAmount.raw < 2 ^ 64) :
    Succeeds (a.admitTransfer ctx transferId) := by
  obtain ⟨record, stored, running⟩ := recorded.present isOpen
  have names := recorded.named _ record stored running
  have status : record.status = .quarantined := names.status.symm.trans held
  change a.transferRecords a.position.activeTransferId = some record at stored
  rw [same] at stored
  simp only [admitTransfer, succeeds_bind, loadRecord_ok, TransferRecord.checkQuarantined_ok,
    exists_const]
  refine ⟨record, stored, ⟨status, names.kind.symm, names.transferId.symm, names.sequence.symm⟩, ?_⟩
  rcases shaped.openings _ record stored running with kind | kind
  · have shape := (shaped.allocations _ record stored kind).shape
    have fits := allocationFits_ok.mpr ⟨weighed record stored kind, rfl⟩
    simp only [kind, succeeds_bind, TransferRecord.checkAllocationShape_ok, exists_const]
    refine ⟨shape, _, fits, ?_⟩
    split
    · simp only [succeeds_bind, Context.requireConsent_ok, exists_const]
      exact ⟨.inr guardian, succeeds_pure⟩
    · exact succeeds_pure
  · have shape := shaped.recalls _ record stored kind
    have untouched := recalls.untouched _ record stored kind status
    have nothing : a.position.recalledCustody.raw = 0 := by
      apply recalls.idle
      intro recalling
      cases held.symm.trans recalling.2
    simp only [kind, succeeds_bind, TransferRecord.checkRecallShape_ok,
      RemotePosition.acceptedPrincipal_ok, exists_const]
    refine ⟨shape, ⟨a.position.principal, small⟩, rfl, ?_⟩
    split
    · exact succeeds_pure
    · simp only [succeeds_bind, Context.requireConsent_ok,
        TransferRecord.unresolvedRecallPrincipal_ok, exists_const]
      obtain ⟨result, hResult⟩ := reserveRecallCustody_succeeds nothing
      obtain ⟨reserved, _, _, hReserved, -, -, rfl⟩ := reserveRecallCustody_ok.mp hResult
      refine ⟨.inr guardian, _, hResult, record.requestedRecallAmount.saturatingSub reserved, ?_,
        succeeds_pure⟩
      have resolved := untouched.resolved
      show _ + (reserved.raw + record.strategyPrincipalResolved.raw) =
        record.requestedRecallAmount.raw
      rw [Unsigned.saturatingSub_raw]
      omega

theorem resolve_succeeds (recorded : a.book.Recorded) (recalls : a.book.Recalls)
    (shaped : a.book.Shaped) (small : a.position.principal < 2 ^ 64)
    (guardian : ctx.emergencyGuardian = true) (admissible : a.Admissible fresh body) :
    Succeeds (a.resolve ctx fresh body) := by
  unfold resolve
  split
  · exact succeeds_pure
  rename_i alive
  split
  · exact succeeds_pure
  rename_i holds
  rw [Bool.not_eq_false] at alive holds
  have weighed := admissible alive holds
  obtain ⟨isOpen, held, same, -⟩ := holdsQuarantined_iff.mp holds
  exact admitTransfer_succeeds recorded recalls shaped small guardian isOpen held same weighed

theorem admissible_of_resolve {outcome : Accounts × ResolveOutcome}
    (success : a.resolve ctx fresh body = .ok outcome) : a.Admissible fresh body := by
  intro alive holds record stored kind
  simp only [resolve, alive, holds, Bool.true_eq_false, if_false, admitTransfer, bind_eq_ok,
    loadRecord_ok, stored, Option.some.injEq, exists_eq_left', kind, allocationFits_ok] at success
  obtain ⟨_, -, _, -, fits, ⟨small, -⟩, -⟩ := success
  exact small

theorem processResolve_succeeds (hBody : message.body = .resolve body)
    (action : body.action = .admitTransfer) (receives : a.Receives ctx message .resolve now)
    (version : body.configVersion = a.config.configVersion)
    (resolves : Succeeds (a.resolve ctx (isFresh message.header now) body)) :
    Succeeds (a.processResolve hashing ctx message) := by
  obtain ⟨resolved, hResolved⟩ := resolves
  simp only [processResolve, hBody, succeeds_bind, Context.requireVerifier_ok, checkControlLane_ok,
    Context.currentTime_ok, validateInbound_ok, rejectIf_eq_ok, not_not, checkConfigVersion_ok,
    checkAvailable_ok, exists_const]
  exact ⟨receives.verifier, receives.lane, now, receives.clock, receives.next, action, version,
    receives.unconsumed, resolved, hResolved, succeeds_pure⟩

theorem resolve_of_processResolve (hBody : message.body = .resolve body)
    (receives : a.Receives ctx message .resolve now)
    (success : Succeeds (a.processResolve hashing ctx message)) :
    Succeeds (a.resolve ctx (isFresh message.header now) body) := by
  simp only [processResolve, hBody, succeeds_bind, Context.requireVerifier_ok, checkControlLane_ok,
    Context.currentTime_ok, validateInbound_ok, rejectIf_eq_ok, checkConfigVersion_ok,
    checkAvailable_ok, exists_const] at success
  obtain ⟨-, -, now', clock, -, -, -, -, resolved, hResolved, -⟩ := success
  have same : now' = now := by
    apply Unsigned.raw_inj.mp
    have clock' := receives.clock
    omega
  rw [← same]
  exact ⟨resolved, hResolved⟩

end Admitting

section Settling

variable {body : ResolveBody} {record : TransferRecord} {ledger : TransportLedger}
  {clock : UnixTimestamp}

/-- How a record stands that a close can end. -/
inductive Endable (a : Accounts) (record : TransferRecord) : Prop
  | opened (isOpen : record.IsOpen)
  | complete (complete : record.status = .complete) (idle : a.position.activeTransferKind = .none)
      (latest : a.position.latestCompletedTransferId = record.transferId)
      (whole : record.attributedAmount = record.authorizedAmount)

theorem endAllocation_succeeds (recorded : a.book.Recorded) (covered : a.book.Covered)
    (stored : a.transferRecords body.transferId = some record)
    (kind : record.transferKind = .allocate) (authorizes : record.Authorizes)
    (endable : a.Endable record) : Succeeds (a.endAllocation record clock) := by
  cases endable with
  | complete complete idle latest whole =>
      simp only [endAllocation, complete, succeeds_bind, RemotePosition.checkNoActiveTransfer_ok,
        rejectIf_eq_ok, not_not, exists_const]
      exact ⟨idle, latest, whole, succeeds_pure⟩
  | opened isOpen =>
      have names := recorded.named _ record stored isOpen
      have holds : a.position.holdsAllocation record.transferId record.messageSequence = true := by
        simp only [RemotePosition.holdsAllocation, Bool.and_eq_true, decide_eq_true_eq]
        exact ⟨⟨names.kind.trans kind, names.transferId⟩, names.sequence⟩
      rcases isOpen with pending | held
      · obtain ⟨reconciled, hReconciled, whole⟩ := reconcile_succeeds covered
        have within := authorizes.within
        have limit := record.authorizedAmount.bound
        let outstanding : U64 := record.authorizedAmount.saturatingSub record.attributedAmount
        have hOutstanding : outstanding.raw + record.attributedAmount.raw =
            record.authorizedAmount.raw := by
          rw [Unsigned.saturatingSub_raw]
          omega
        let attributedNow : U64 := minimum outstanding reconciled.unattributedCustody
        have least : attributedNow.raw = min outstanding.raw reconciled.unattributedCustody.raw :=
          minimum_raw
        obtain ⟨position, taken, explained⟩ :=
          attributeNow_succeeds (show attributedNow.raw ≤ _ by omega) whole
        let attributed : U64 := ⟨record.attributedAmount.raw + attributedNow.raw, by omega⟩
        simp only [endAllocation, pending, succeeds_bind, rejectIf_eq_ok, not_not,
          TransferRecord.outstandingAllocation_ok, checkedAdd_ok, checkIdentity_ok, exists_const]
        exact ⟨⟨holds, names.status.trans pending⟩, reconciled, hReconciled, outstanding,
          hOutstanding, position, taken, attributed, rfl, explained, succeeds_pure⟩
      · simp only [endAllocation, held, succeeds_bind, rejectIf_eq_ok, not_not, Bool.not_eq_false,
          Unsigned.isZero_iff, exists_const]
        exact ⟨⟨holds, names.status.trans held⟩, authorizes.held held, succeeds_pure⟩

/-- What a close finds: the record of the allocation it names, and room in the ledger. -/
structure Closable (a : Accounts) (body : ResolveBody) (record : TransferRecord) : Prop where
  stored : a.transferRecords body.transferId = some record
  kind : record.transferKind = .allocate
  same : record.transferId = body.transferId
  target : record.messageSequence = body.targetSequence
  endable : a.Endable record

theorem close_succeeds (recorded : a.book.Recorded) (covered : a.book.Covered)
    (shaped : a.book.Shaped) (balanced : a.openLedger.Balanced) (ready : a.Ready)
    (room : a.control.highestConsumedSequence.raw + 1 < 2 ^ 64)
    (closable : a.Closable body record) : Succeeds (a.close body a.openLedger clock) := by
  have authorizes := shaped.allocations _ record closable.stored closable.kind
  have ends : Succeeds (a.endAllocation record clock) :=
    endAllocation_succeeds recorded covered closable.stored closable.kind authorizes closable.endable
  obtain ⟨⟨record', position⟩, hEnded⟩ := ends
  have ends : a.Ends record clock record' position := endAllocation_ok hEnded
  have within : record'.attributedAmount.raw ≤ record'.authorizedAmount.raw := by
    cases ends with
    | pending _ _ _ _ _ _ _ within => exact within
    | quarantined => exact authorizes.within
    | complete => exact authorizes.within
  have counted := ready.settlements
  have booked : Succeeds (a.openLedger.recordClose record'.authorizedAmount
      record'.attributedAmount record'.messageSequence) :=
    recordClose_succeeds balanced ready.claims (by omega) within
  obtain ⟨ledger, hLedger⟩ := booked
  simp only [close, succeeds_bind, loadRecord_ok, rejectIf_eq_ok, not_not,
    TransferRecord.checkAllocationShape_ok, Unsigned.lt_def, Nat.not_lt, exists_const]
  exact ⟨record, closable.stored, closable.kind, ⟨closable.same, closable.target⟩, authorizes.shape,
    (record', position), hEnded, within, ledger, hLedger, succeeds_pure⟩

/-- What a recovery finds: a pool it names, and no open cycle. -/
structure Recoverable (a : Accounts) (body : ResolveBody) : Prop where
  impaired : a.openLedger.impairedOutstanding.raw ≠ 0
  target : body.targetSequence = a.openLedger.lastImpairedSequence
  idle : a.position.activeTransferKind = .none
  unused : a.transferRecords body.transferId = none

theorem recover_succeeds {sequence : U64} (covered : a.book.Covered)
    (balanced : a.openLedger.Balanced) (ready : a.Ready)
    (room : a.control.highestConsumedSequence.raw + 1 < 2 ^ 64)
    (committed : a.position.principal + a.position.recalledCustody.raw < 2 ^ 64)
    (recoverable : a.Recoverable body) :
    Succeeds (a.recover body sequence a.openLedger clock) := by
  obtain ⟨reconciled, hReconciled, whole⟩ := reconcile_succeeds covered
  have kept : reconciled.principal + reconciled.recalledCustody.raw =
      a.position.principal + a.position.recalledCustody.raw := by
    obtain ⟨_, -, -, rfl⟩ := reconcile_ok.mp hReconciled
    rfl
  let holds : U64 := ⟨reconciled.principal + reconciled.recalledCustody.raw, by omega⟩
  let credited : U64 := minimum (minimum reconciled.unattributedCustody
    (narrowPool a.openLedger.impairedOutstanding)) (a.maxRemotePrincipal.saturatingSub holds)
  have least : credited.raw = min (min reconciled.unattributedCustody.raw
      (narrowPool a.openLedger.impairedOutstanding).raw)
      (a.maxRemotePrincipal.saturatingSub holds).raw := by
    rw [minimum_raw, minimum_raw]
  rw [narrowPool_raw] at least
  obtain ⟨position, taken, explained⟩ :=
    attributeNow_succeeds (show credited.raw ≤ _ by omega) whole
  have counted := ready.settlements
  have booked : Succeeds (a.openLedger.recordRecovery credited) :=
    recordRecovery_succeeds balanced (by omega) (by omega)
  obtain ⟨ledger, hLedger⟩ := booked
  simp only [recover, succeeds_bind, rejectIf_eq_ok, not_not, Unsigned.isZero_eq_false,
    RemotePosition.checkNoActiveTransfer_ok, checkAvailable_ok,
    RemotePosition.committedPrincipal_ok, checkIdentity_ok, exists_const]
  exact ⟨⟨recoverable.impaired, recoverable.target⟩, recoverable.idle, recoverable.unused, reconciled,
    hReconciled, holds, rfl, position, taken, explained, ledger, hLedger, succeeds_pure⟩

/-- What a close or a recovery finds. -/
inductive Settleable (a : Accounts) (body : ResolveBody) : Prop
  | closed (action : body.action = .close) (record : TransferRecord)
      (closable : a.Closable body record)
  | recovered (action : body.action = .recover) (recoverable : a.Recoverable body)

/-- No recall runs beside it. -/
theorem Settleable.recalled (settleable : a.Settleable body) (recorded : a.book.Recorded)
    (recalls : a.book.Recalls) : a.position.recalledCustody.raw = 0 := by
  apply recalls.idle
  intro recalling
  have kind : a.position.activeTransferKind = .recall := recalling.1
  cases settleable with
  | closed action record closable =>
      cases closable.endable with
      | opened isOpen =>
          have names := recorded.named _ record closable.stored isOpen
          cases kind.symm.trans (names.kind.trans closable.kind)
      | complete _ idle => cases kind.symm.trans idle
  | recovered action recoverable => cases kind.symm.trans recoverable.idle

theorem settle_succeeds {sequence : U64} (recorded : a.book.Recorded) (covered : a.book.Covered)
    (shaped : a.book.Shaped) (balanced : a.openLedger.Balanced) (ready : a.Ready)
    (room : a.control.highestConsumedSequence.raw + 1 < 2 ^ 64)
    (committed : a.position.principal + a.position.recalledCustody.raw < 2 ^ 64)
    (settleable : a.Settleable body) : Succeeds (a.settle body sequence clock) := by
  have loaded : a.loadLedger = .ok a.openLedger := by
    refine loadLedger_ok.mpr ⟨rfl, ?_⟩
    intro stored found
    rw [openLedger, found] at balanced
    exact balanced
  simp only [settle, loaded, succeeds_bind, Except.ok.injEq, exists_eq_left']
  cases settleable with
  | closed action record closable =>
      simp only [action]
      exact close_succeeds recorded covered shaped balanced ready room closable
  | recovered action recoverable =>
      have created : a.ledger.isNone = false := by
        cases found : a.ledger with
        | some ledger => rfl
        | none =>
            have impaired := recoverable.impaired
            rw [openLedger, found] at impaired
            exact absurd rfl impaired
      simp only [action, succeeds_bind, rejectIf_eq_ok, created, Bool.false_eq_true, not_false_iff,
        true_and, exists_const]
      exact recover_succeeds covered balanced ready room committed recoverable

theorem Settles.config {settled : Accounts} {settlement : Settlement} {sequence : U64}
    (settles : a.Settles body sequence clock settled settlement) :
    settled.config = a.config ∧ settled.risk = a.risk ∧ settled.control = a.control ∧
      settled.outbound = a.outbound ∧ settled.reportRecords = a.reportRecords := by
  cases settles with
  | closed action closes =>
      obtain ⟨_, _, _, _, -, -, -, -, -, -, rfl, -⟩ := close_ok closes
      exact ⟨rfl, rfl, rfl, rfl, rfl⟩
  | recovered action exists' recovers =>
      obtain ⟨_, _, _, _, -, -, -, -, -, -, -, -, rfl, -⟩ := recover_ok recovers
      exact ⟨rfl, rfl, rfl, rfl, rfl⟩

/-- A settlement is a valid message body. -/
theorem Settles.valid {settled : Accounts} {settlement : Settlement} {sequence : U64}
    (settles : a.Settles body sequence clock settled settlement) (shaped : a.book.Shaped)
    (transfer : body.transferId.raw ≠ 0) (version : a.config.configVersion.raw ≠ 0)
    {ledger : Option TransportLedger} :
    (settlementBody { settled with ledger := ledger } body.transferId settlement).validate =
      .ok () := by
  have config := settles.config.1
  cases settles with
  | closed action closes =>
      obtain ⟨record, record', position, booked, stored, kind, -, -, ends, hLedger, -, rfl⟩ :=
        close_ok closes
      obtain ⟨_, _, impaired, _, within, -, -, hImpaired, -, rfl, -⟩ :=
        TransportLedger.recordClose_ok.mp hLedger
      have authorized : record'.authorizedAmount = record.authorizedAmount := by
        cases ends with
        | pending => rfl
        | quarantined => rfl
        | complete => rfl
      have nonzero := (shaped.allocations _ record stored kind).nonzero
      rw [← authorized] at nonzero
      simp only [TransportSettlementBody.validate, TransportSettlementBody.shortfall, settlementBody,
        bind_eq_ok, rejectIf_eq_ok, Unsigned.isZero_iff, Unsigned.lt_def, Nat.not_lt,
        Unsigned.saturatingSub_raw, widen_raw, config, exists_const]
      exact ⟨transfer, nonzero, within, by omega, version⟩
  | recovered action exists' recovers =>
      obtain ⟨_, _, credited, booked, nonzero, -, -, -, -, -, -, hLedger, -, rfl⟩ :=
        recover_ok recovers
      obtain ⟨impaired, _, _, left, -, -, rfl, -⟩ := TransportLedger.recordRecovery_ok.mp hLedger
      simp only [TransportSettlementBody.validate, TransportSettlementBody.shortfall, settlementBody,
        bind_eq_ok, rejectIf_eq_ok, not_not, Unsigned.isZero_iff, Unsigned.lt_def, Nat.not_lt,
        ← Unsigned.raw_inj, Unsigned.saturatingSub_raw, widen_raw, config, exists_const]
      exact ⟨transfer, nonzero, by omega, by omega, version⟩

theorem validateHeader_ok {header : Header} : header.validate = .ok () ↔
    header.sourceChain.raw ≠ 0 ∧ header.destinationChain.raw ≠ 0 ∧
      header.sourceChain ≠ header.destinationChain ∧ header.sourceApplication.raw ≠ 0 ∧
      header.destinationApplication.raw ≠ 0 ∧
      header.sourceApplication ≠ header.destinationApplication ∧ header.deploymentId.raw ≠ 0 ∧
      header.vaultId.raw ≠ 0 ∧ header.laneId.raw ≠ 0 ∧ header.sequence.raw ≠ 0 ∧
      header.observedAt.raw ≤ header.publishedAt.raw ∧
      header.publishedAt.raw ≤ header.expiresAt.raw := by
  simp only [Header.validate, bind_eq_ok, rejectIf_eq_ok, Unsigned.isZero_iff, Unsigned.lt_def,
    Nat.not_lt, exists_const, ne_eq]

/-- A leg that took a message can name itself and its counterpart in the header of the next one. -/
theorem nextHeader_validate {messageClass : MessageClass} {expiresAt : U64}
    (receives : a.Receives ctx message messageClass now) (lane : a.config.reportLaneId.raw ≠ 0)
    (numbered : a.outbound.nextSequence.raw ≠ 0) (later : now.raw ≤ expiresAt.raw) :
    (a.nextHeader now expiresAt).validate = .ok () := by
  obtain ⟨_, valid, -⟩ := bind_eq_ok.mp receives.next.valid
  have addressed := receives.next.addressed
  simp only [checkDomains, bind_eq_ok, rejectIf_eq_ok, not_not, exists_const] at addressed
  obtain ⟨source, destination, sender, receiver, deployment, vault, -⟩ := addressed
  rw [validateHeader_ok, source, destination, sender, receiver, deployment, vault] at valid
  obtain ⟨source, destination, chains, sender, receiver, applications, deployment, vault, -⟩ := valid
  exact validateHeader_ok.mpr ⟨destination, source, Ne.symm chains, receiver, sender,
    Ne.symm applications, deployment, vault, lane, numbered, Nat.le_refl _, later⟩

theorem publishSettlement_succeeds {related : Bytes32} {epochId : U64} {publishedAt : UnixTimestamp}
    (unused : a.reportRecords a.outbound.nextSequence = none)
    (room : a.outbound.nextSequence.raw + 1 < 2 ^ 64) :
    Succeeds (a.publish digests message .transportSettlement related epochId publishedAt) := by
  simp only [Accounts.publish, OutboundLane.advance, succeeds_bind, bind_eq_ok, checkAvailable_ok,
    checkedIncrement_ok, pure_eq_ok, exists_const]
  exact ⟨unused, _, ⟨⟨a.outbound.nextSequence.raw + 1, room⟩, rfl, rfl⟩, succeeds_pure⟩

/-- Room for the notice of a settlement: its expiry and its number fit. -/
def Notices (a : Accounts) (now : U64) : Prop :=
  now.raw + a.risk.maxReportAge.raw < 2 ^ 64 ∧ a.outbound.nextSequence.raw + 1 < 2 ^ 64

theorem processSettlement_succeeds (recorded : a.book.Recorded) (covered : a.book.Covered)
    (shaped : a.book.Shaped) (balanced : a.openLedger.Balanced) (ready : a.Ready)
    (committed : a.position.principal + a.position.recalledCustody.raw < 2 ^ 64)
    (hBody : message.body = .resolve body) (receives : a.Receives ctx message .resolve now)
    (report : a.outbound.laneId = a.config.reportLaneId) (named : a.config.reportLaneId.raw ≠ 0)
    (consents : ctx.Consents a.config) (version : body.configVersion = a.config.configVersion)
    (settleable : a.Settleable body) (notices : a.Notices now) :
    Succeeds (a.processSettlement digests ctx message) := by
  obtain ⟨-, -, valid⟩ := bind_eq_ok.mp receives.next.valid
  rw [hBody] at valid
  simp only [ResolveBody.validate, bind_eq_ok, rejectIf_eq_ok, Unsigned.isZero_iff,
    exists_const] at valid
  obtain ⟨transfer, -, -, numbered⟩ := valid
  rw [version] at numbered
  have action : body.action ≠ .admitTransfer := by
    cases settleable with
    | closed action => rw [action]; decide
    | recovered action => rw [action]; decide
  have room : a.control.highestConsumedSequence.raw + 1 < 2 ^ 64 := by
    have next := receives.next.sequence
    have bound := message.header.sequence.bound
    omega
  have settles : Succeeds (a.settle body message.header.sequence ctx.clock) :=
    settle_succeeds recorded covered shaped balanced ready room committed settleable
  obtain ⟨⟨settled, settlement⟩, hSettled⟩ := settles
  have settles := settle_ok hSettled
  obtain ⟨config, risk, -, outbound, records⟩ := settles.config
  let expiresAt : U64 := ⟨now.raw + a.risk.maxReportAge.raw, notices.1⟩
  have later : now.raw ≤ expiresAt.raw := Nat.le_add_right _ _
  have header := nextHeader_validate receives named ready.numbered later
  let noted : Accounts := { settled with ledger := some settlement.ledger }
  have sameHeader : noted.nextHeader now expiresAt = a.nextHeader now expiresAt := by
    show nextHeader { settled with ledger := some settlement.ledger } now expiresAt = _
    simp only [nextHeader, config, outbound]
  let notice : Message := ⟨noted.nextHeader now expiresAt,
    .transportSettlement (noted.settlementBody body.transferId settlement)⟩
  have valid : notice.validate = .ok () := by
    refine bind_eq_ok.mpr ⟨(), ?_, settles.valid shaped transfer numbered⟩
    show (noted.nextHeader now expiresAt).validate = .ok ()
    rw [sameHeader]
    exact header
  have built : noted.build now notice.body = .ok notice := by
    refine build_ok.mpr ⟨expiresAt, ?_, rfl, valid⟩
    rw [show noted.risk = a.risk from risk]
  have published : Succeeds (noted.publish digests notice .transportSettlement body.transferId .zero
      ctx.clock) := by
    apply publishSettlement_succeeds
    · show settled.reportRecords settled.outbound.nextSequence = none
      rw [records, outbound]
      exact ready.unreported _ (Nat.le_refl _)
    · show settled.outbound.nextSequence.raw + 1 < 2 ^ 64
      rw [outbound]
      exact notices.2
  obtain ⟨noticed, hNoticed⟩ := published
  simp only [processSettlement, hBody, succeeds_bind, Context.requireVerifier_ok,
    checkControlLane_ok, checkOutboundLane_ok, Context.currentTime_ok, validateInbound_ok,
    rejectIf_eq_ok, checkConfigVersion_ok, checkAvailable_ok, Context.requireConsent_ok,
    exists_const]
  exact ⟨receives.verifier, receives.lane, report, now, receives.clock, receives.next, action,
    version, receives.unconsumed, consents, (settled, settlement), hSettled, notice, built, noticed,
    hNoticed, succeeds_pure⟩

theorem notices_of_processSettlement (success : a.processSettlement digests ctx message = .ok a') :
    ∃ now : U64, (now.raw : Int) = ctx.clock.seconds ∧ a.Notices now := by
  obtain ⟨now, body, settled, settlement, notice, noticed, -, receives, -, -, -, settles, built,
    published, -⟩ := processSettlement_ok success
  obtain ⟨-, risk, -, outbound, -⟩ := settles.config
  obtain ⟨expiresAt, hExpires, -, -⟩ := build_ok.mp built
  obtain ⟨lane, entry, -, -, next, -, -⟩ := publish_ok published
  change expiresAt.raw = now.raw + settled.risk.maxReportAge.raw at hExpires
  change lane.nextSequence.raw = settled.outbound.nextSequence.raw + 1 at next
  rw [risk] at hExpires
  rw [outbound] at next
  have expiry := expiresAt.bound
  have number := lane.nextSequence.bound
  exact ⟨now, receives.clock, by omega, by omega⟩

end Settling

section Consuming

variable {instruction : Instruction}

/-- An accepted message is taken: the lane moves to it, and its replay record stands. -/
structure Took (a : Accounts) (message : Message) (messageClass : MessageClass) (a' : Accounts) :
    Prop where
  next : message.header.sequence.raw = a.control.highestConsumedSequence.raw + 1
  highest : a'.control.highestConsumedSequence = message.header.sequence
  entry : ∃ record, a'.consumedMessages message.header.sequence = some record ∧
    record.messageClass = messageClass

/-- Whatever class a message has, accepting it takes it. -/
theorem step_took (success : a.step digests ctx instruction = .ok a')
    (delivered : instruction.delivered = some message) :
    ∃ messageClass, classOf message = some messageClass ∧ a.Took message messageClass a' := by
  cases instruction with
  | processAllocate m =>
      cases delivered
      obtain ⟨body, hBody⟩ := processAllocate_body success
      obtain ⟨_, _, _, _, receives, -, -, -, -, -, -, -, -, rfl⟩ := processAllocate_ok hBody success
      exact ⟨_, receives.next.accepted, receives.next.sequence, rfl, _, Function.update_self .., rfl⟩
  | processRecall m =>
      cases delivered
      obtain ⟨body, hBody⟩ := processRecall_body success
      obtain ⟨_, _, _, receives, -, -, -, -, -, -, -, outcome⟩ := processRecall_ok hBody success
      rcases outcome with ⟨-, rfl⟩ | ⟨-, -, _, _, _, -, -, -, rfl⟩
      · exact ⟨_, receives.next.accepted, receives.next.sequence, rfl, _, Function.update_self ..,
          rfl⟩
      · exact ⟨_, receives.next.accepted, receives.next.sequence, rfl, _, Function.update_self ..,
          rfl⟩
  | processConfigUpdate m =>
      cases delivered
      obtain ⟨_, _, _, -, receives, -, -, -, rfl⟩ := processConfigUpdate_ok success
      exact ⟨_, receives.next.accepted, receives.next.sequence, rfl, _, Function.update_self .., rfl⟩
  | processResolve m =>
      cases delivered
      obtain ⟨_, _, _, -, -, receives, -, -, rfl⟩ := processResolve_ok success
      exact ⟨_, receives.next.accepted, receives.next.sequence, rfl, _, Function.update_self .., rfl⟩
  | processSettlement m =>
      cases delivered
      obtain ⟨_, _, _, _, _, _, -, receives, -, -, -, -, -, -, rfl⟩ := processSettlement_ok success
      exact ⟨_, receives.next.accepted, receives.next.sequence, rfl, _, Function.update_self .., rfl⟩
  | _ => cases delivered

end Consuming

end Accounts

end Leg
