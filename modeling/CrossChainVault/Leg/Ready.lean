import CrossChainVault.Leg.Recalls
import CrossChainVault.Leg.Side

set_option autoImplicit false

/- What a running leg keeps so that nothing but the next control message itself can stop it: the
shape of the records, and room on the lanes and in the ledger. -/

namespace Leg

open Result Protocol

/- Records. -/

/-- An allocation uses only its own fields, asks for something and received no more than that. -/
structure TransferRecord.Authorizes (record : TransferRecord) : Prop where
  shape : record.AllocationShape
  nonzero : record.authorizedAmount.raw ≠ 0
  within : record.attributedAmount.raw ≤ record.authorizedAmount.raw
  held : record.status = .quarantined → record.attributedAmount.raw = 0

/-- Every record has the shape of its kind, and only allocations and recalls are ever open. -/
structure Book.Shaped (b : Book) : Prop where
  allocations : ∀ transferId record, b.records transferId = some record →
    record.transferKind = .allocate → record.Authorizes
  recalls : ∀ transferId record, b.records transferId = some record →
    record.transferKind = .recall → record.RecallShape
  openings : ∀ transferId record, b.records transferId = some record → record.IsOpen →
    record.transferKind = .allocate ∨ record.transferKind = .recall

theorem Book.Fresh.shaped {b : Book} (fresh : b.Fresh) : b.Shaped where
  allocations := by
    intro transferId record stored
    rw [fresh.records] at stored
    cases stored
  recalls := by
    intro transferId record stored
    rw [fresh.records] at stored
    cases stored
  openings := by
    intro transferId record stored
    rw [fresh.records] at stored
    cases stored

section Shapes

variable {b : Book} {transferId : Bytes32} {record : TransferRecord} {p : RemotePosition}
  {custody : U64} {ledger : TransportLedger}

theorem Book.Shaped.store (shaped : b.Shaped)
    (allocation : record.transferKind = .allocate → record.Authorizes)
    (isRecall : record.transferKind = .recall → record.RecallShape)
    (opening : record.IsOpen →
      record.transferKind = .allocate ∨ record.transferKind = .recall) :
    Book.Shaped { b.store transferId record with
      position := p, custody := custody, ledger := ledger } where
  allocations := forall_store allocation fun otherId other _ found =>
    shaped.allocations otherId other found
  recalls := forall_store isRecall fun otherId other _ found => shaped.recalls otherId other found
  openings := forall_store opening fun otherId other _ found => shaped.openings otherId other found

/-- An allocation that moved on. -/
theorem Book.Shaped.storeAllocation (shaped : b.Shaped) (kind : record.transferKind = .allocate)
    (authorizes : record.Authorizes) :
    Book.Shaped { b.store transferId record with
      position := p, custody := custody, ledger := ledger } := by
  apply shaped.store
  · intro _
    exact authorizes
  · intro isRecall
    cases kind.symm.trans isRecall
  · intro _
    exact .inl kind

/-- A recall that moved on. -/
theorem Book.Shaped.storeRecall (shaped : b.Shaped) (kind : record.transferKind = .recall)
    (shape : record.RecallShape) :
    Book.Shaped { b.store transferId record with
      position := p, custody := custody, ledger := ledger } := by
  apply shaped.store
  · intro allocation
    cases kind.symm.trans allocation
  · intro _
    exact shape
  · intro _
    exact .inr kind

theorem Unwinds.shape {instruction : Instruction} {record' : TransferRecord}
    (unwinds : Unwinds b transferId record instruction record' p custody)
    (shape : record.RecallShape) : record'.RecallShape := by
  cases unwinds with
  | withdrew => exact shape
  | sent => exact shape

/-- An allocation that received `total` so far is no less well formed. -/
theorem TransferRecord.Authorizes.receive {total : U64} {status : TransferStatus}
    {completedAt : UnixTimestamp} (authorizes : record.Authorizes)
    (within : total.raw ≤ record.authorizedAmount.raw) (running : status ≠ .quarantined) :
    TransferRecord.Authorizes { record with
      attributedAmount := total, status := status, completedAt := completedAt } := by
  refine ⟨authorizes.shape, authorizes.nonzero, within, ?_⟩
  intro held
  exact absurd held running

theorem Change.shaped {guardian : Bool} {b' : Book} {instruction : Instruction}
    (change : Change guardian b instruction b') (before : b.Shaped) : b'.Shaped := by
  cases change with
  | quiet => exact before
  | updated => exact ⟨before.allocations, before.recalls, before.openings⟩
  | froze => exact ⟨before.allocations, before.recalls, before.openings⟩
  | received => exact ⟨before.allocations, before.recalls, before.openings⟩
  | reconciled => exact ⟨before.allocations, before.recalls, before.openings⟩
  | tookAllocation message transferId record idle unused kind same nothing shape status nonzero =>
      refine before.storeAllocation kind ⟨shape, nonzero, ?_, fun _ => nothing⟩
      rw [nothing]
      exact Nat.zero_le _
  | heldRecall => exact before.storeRecall rfl ⟨rfl, rfl, rfl⟩
  | startedRecall => exact before.storeRecall rfl ⟨rfl, rfl, rfl⟩
  | admittedAllocation message transferId record consented held fits =>
      have authorizes := before.allocations _ _ held.stored held.hKind
      exact before.storeAllocation held.hKind
        ⟨authorizes.shape, authorizes.nonzero, authorizes.within, nofun⟩
  | admittedRecall message transferId record reserved attributed recalled consented held =>
      have shape := before.recalls _ _ held.stored held.hKind
      exact before.storeRecall held.hKind shape
  | attributed transferId record unattributed principal total consented active attributes =>
      have authorizes := before.allocations _ _ active.stored active.hKind
      exact before.storeAllocation active.hKind
        (authorizes.receive attributes.within (by rw [active.hStatus]; decide))
  | completed transferId record unattributed principal clock consented active attributes =>
      have authorizes := before.allocations _ _ active.stored active.hKind
      exact before.storeAllocation active.hKind (authorizes.receive (Nat.le_refl _) nofun)
  | deployed => exact ⟨before.allocations, before.recalls, before.openings⟩
  | progressed transferId instruction record record' position custody active unwinds =>
      have shape := unwinds.shape (before.recalls _ _ active.stored active.hKind)
      exact before.storeRecall (unwinds.follows.kind.trans active.hKind) shape
  | settled transferId instruction record record' position custody clock active unwinds =>
      have shape := unwinds.shape (before.recalls _ _ active.stored active.hKind)
      exact before.storeRecall (unwinds.follows.kind.trans active.hKind) shape
  | closedPending message body record unattributed principal total clock ledger hBody action
      consented active attributes =>
      have authorizes := before.allocations _ _ active.stored active.hKind
      exact before.storeAllocation active.hKind (authorizes.receive attributes.within nofun)
  | closedHeld message body record clock ledger hBody action consented held =>
      have authorizes := before.allocations _ _ held.stored held.hKind
      exact before.storeAllocation held.hKind (authorizes.receive authorizes.within nofun)
  | closedComplete message body record ledger hBody action consented stored kind =>
      have authorizes := before.allocations _ _ stored kind
      exact before.storeAllocation kind (authorizes.receive authorizes.within nofun)
  | recovered =>
      refine before.store nofun nofun ?_
      intro isOpen
      exact absurd isOpen (not_isOpen_of_status rfl (.inl rfl))

end Shapes

/- Lanes and ledger. -/

/-- The watermark has not passed the next control message, no account waits under a number that is
still to come, and the ledger counts at most one settlement for each message taken. -/
structure Accounts.Ready (a : Accounts) : Prop where
  watermark : a.control.minimumAcceptableSequence.raw ≤ a.control.highestConsumedSequence.raw + 1
  unconsumed : ∀ sequence, a.control.highestConsumedSequence.raw < sequence.raw →
    a.consumedMessages sequence = none
  numbered : a.outbound.nextSequence.raw ≠ 0
  unreported : ∀ sequence, a.outbound.nextSequence.raw ≤ sequence.raw →
    a.reportRecords sequence = none
  settlements : a.openLedger.totalClosed.raw + a.openLedger.totalRecoveries.raw ≤
    a.control.highestConsumedSequence.raw
  claims : a.openLedger.cumulativeClosedClaim.raw ≤ a.openLedger.totalClosed.raw * 2 ^ 64

namespace Accounts

variable {digests : Digests} {a a' : Accounts} {ctx : Context} {message : Message}

theorem openLedger_congr (same : a'.ledger = a.ledger) : a'.openLedger = a.openLedger := by
  unfold openLedger
  rw [same]

/-- An instruction that leaves the lanes and the ledger alone. -/
theorem Ready.same (ready : a.Ready) (control : a'.control = a.control)
    (consumed : a'.consumedMessages = a.consumedMessages) (outbound : a'.outbound = a.outbound)
    (reported : a'.reportRecords = a.reportRecords) (ledger : a'.ledger = a.ledger) :
    a'.Ready := by
  have opened := openLedger_congr ledger
  refine ⟨?_, ?_, ?_, ?_, ?_, ?_⟩
  · rw [control]
    exact ready.watermark
  · rw [control, consumed]
    exact ready.unconsumed
  · rw [outbound]
    exact ready.numbered
  · rw [outbound, reported]
    exact ready.unreported
  · rw [opened, control]
    exact ready.settlements
  · rw [opened]
    exact ready.claims

/-- An instruction that takes the next control message and settles at most one transfer. -/
theorem Ready.take {entry : ConsumedMessage} (ready : a.Ready)
    (next : message.header.sequence.raw = a.control.highestConsumedSequence.raw + 1)
    (minimum : a'.control.minimumAcceptableSequence = a.control.minimumAcceptableSequence)
    (highest : a'.control.highestConsumedSequence = message.header.sequence)
    (consumed : a'.consumedMessages =
      Function.update a.consumedMessages message.header.sequence (some entry))
    (numbered : a'.outbound.nextSequence.raw ≠ 0)
    (unreported : ∀ sequence, a'.outbound.nextSequence.raw ≤ sequence.raw →
      a'.reportRecords sequence = none)
    (settlements : a'.openLedger.totalClosed.raw + a'.openLedger.totalRecoveries.raw ≤
      a.openLedger.totalClosed.raw + a.openLedger.totalRecoveries.raw + 1)
    (claims : a'.openLedger.cumulativeClosedClaim.raw ≤ a'.openLedger.totalClosed.raw * 2 ^ 64) :
    a'.Ready := by
  have below := ready.watermark
  have counted := ready.settlements
  refine ⟨?_, ?_, numbered, unreported, ?_, claims⟩
  · rw [minimum, highest]
    omega
  · intro sequence above
    rw [highest] at above
    have apart : sequence ≠ message.header.sequence := by
      rintro rfl
      omega
    rw [consumed, Function.update_of_ne apart]
    apply ready.unconsumed
    omega
  · rw [highest]
    omega

/-- A control message that settles nothing. -/
theorem Ready.accept {messageClass : MessageClass} (ready : a.Ready)
    (next : message.header.sequence.raw = a.control.highestConsumedSequence.raw + 1)
    (control : a'.control = (a.consume digests.toHashing messageClass message).control)
    (consumed : a'.consumedMessages =
      (a.consume digests.toHashing messageClass message).consumedMessages)
    (outbound : a'.outbound = a.outbound) (reported : a'.reportRecords = a.reportRecords)
    (ledger : a'.ledger = a.ledger) : a'.Ready := by
  have opened := openLedger_congr ledger
  apply ready.take next
  · rw [control]
    rfl
  · rw [control]
    rfl
  · rw [consumed]
    rfl
  · rw [outbound]
    exact ready.numbered
  · rw [outbound, reported]
    exact ready.unreported
  · rw [opened]
    omega
  · rw [opened]
    exact ready.claims

/-- Publishing moves the report lane past the record it leaves. -/
theorem publish_unreported {reportType : ReportType} {related : Bytes32} {epochId : U64}
    {publishedAt : UnixTimestamp}
    (unreported : ∀ sequence, a.outbound.nextSequence.raw ≤ sequence.raw →
      a.reportRecords sequence = none)
    (success : a.publish digests message reportType related epochId publishedAt = .ok a') :
    a'.outbound.nextSequence.raw ≠ 0 ∧
      (∀ sequence, a'.outbound.nextSequence.raw ≤ sequence.raw → a'.reportRecords sequence = none) ∧
      a'.control = a.control ∧ a'.consumedMessages = a.consumedMessages ∧ a'.ledger = a.ledger := by
  obtain ⟨outbound, entry, -, -, next, -, rfl⟩ := publish_ok success
  refine ⟨?_, ?_, rfl, rfl, rfl⟩
  · show outbound.nextSequence.raw ≠ 0
    omega
  · intro sequence above
    change outbound.nextSequence.raw ≤ sequence.raw at above
    show Function.update a.reportRecords a.outbound.nextSequence (some entry) sequence = none
    have apart : sequence ≠ a.outbound.nextSequence := by
      rintro rfl
      omega
    rw [Function.update_of_ne apart]
    apply unreported
    omega

theorem Ready.publish {reportType : ReportType} {related : Bytes32} {epochId : U64}
    {publishedAt : UnixTimestamp} (ready : a.Ready)
    (success : a.publish digests message reportType related epochId publishedAt = .ok a') :
    a'.Ready := by
  obtain ⟨numbered, unreported, control, consumed, ledger⟩ :=
    publish_unreported ready.unreported success
  have opened := openLedger_congr ledger
  refine ⟨?_, ?_, numbered, unreported, ?_, ?_⟩
  · rw [control]
    exact ready.watermark
  · rw [control, consumed]
    exact ready.unconsumed
  · rw [opened, control]
    exact ready.settlements
  · rw [opened]
    exact ready.claims

/-- A settlement publishes its notice, takes its message and counts once in the ledger. -/
theorem Ready.settle {settled noticed : Accounts} {settlement : Settlement} {notice : Message}
    {body : ResolveBody} (ready : a.Ready)
    (next : message.header.sequence.raw = a.control.highestConsumedSequence.raw + 1)
    (settles : a.Settles body message.header.sequence ctx.clock settled settlement)
    (sent : { settled with ledger := some settlement.ledger }.publish digests notice
      .transportSettlement body.transferId .zero ctx.clock = .ok noticed) :
    (noticed.consume digests.toHashing .resolve message).Ready := by
  obtain ⟨control, consumed, outbound, reported, settlements, claims⟩ :
      settled.control = a.control ∧ settled.consumedMessages = a.consumedMessages ∧
      settled.outbound = a.outbound ∧ settled.reportRecords = a.reportRecords ∧
      settlement.ledger.totalClosed.raw + settlement.ledger.totalRecoveries.raw =
        a.openLedger.totalClosed.raw + a.openLedger.totalRecoveries.raw + 1 ∧
      settlement.ledger.cumulativeClosedClaim.raw ≤
        settlement.ledger.totalClosed.raw * 2 ^ 64 := by
    have before := ready.claims
    cases settles with
    | closed action closes =>
        obtain ⟨record, record', position, ledger, -, -, -, -, -, booked, rfl, rfl⟩ :=
          close_ok closes
        obtain ⟨claim, credit, impaired, total, -, hClaim, -, -, hTotal, rfl, -⟩ :=
          TransportLedger.recordClose_ok.mp booked
        have small := record'.authorizedAmount.bound
        refine ⟨rfl, rfl, rfl, rfl, ?_, ?_⟩
        · show total.raw + a.openLedger.totalRecoveries.raw = _
          omega
        · show claim.raw ≤ total.raw * 2 ^ 64
          omega
    | recovered action exists' recovers =>
        obtain ⟨_, _, credited, ledger, -, -, -, -, -, -, -, booked, rfl, rfl⟩ :=
          recover_ok recovers
        obtain ⟨impaired, recovered, total, -, -, hTotal, rfl, -⟩ :=
          TransportLedger.recordRecovery_ok.mp booked
        refine ⟨rfl, rfl, rfl, rfl, ?_, before⟩
        show a.openLedger.totalClosed.raw + total.raw = _
        omega
  have unreported : ∀ sequence,
      { settled with ledger := some settlement.ledger }.outbound.nextSequence.raw ≤ sequence.raw →
      { settled with ledger := some settlement.ledger }.reportRecords sequence = none := by
    show ∀ sequence, settled.outbound.nextSequence.raw ≤ sequence.raw →
      settled.reportRecords sequence = none
    rw [outbound, reported]
    exact ready.unreported
  obtain ⟨numbered, unreported', control', consumed', ledger⟩ := publish_unreported unreported sent
  have opened : noticed.openLedger = settlement.ledger := by
    rw [openLedger, ledger]
    rfl
  apply ready.take next
  · show noticed.control.minimumAcceptableSequence = _
    rw [control', ← control]
  · rfl
  · show Function.update noticed.consumedMessages _ _ = _
    rw [consumed', ← consumed]
  · exact numbered
  · exact unreported'
  · show noticed.openLedger.totalClosed.raw + noticed.openLedger.totalRecoveries.raw ≤ _
    rw [opened]
    omega
  · show noticed.openLedger.cumulativeClosedClaim.raw ≤ noticed.openLedger.totalClosed.raw * _
    rw [opened]
    exact claims

theorem Ready.bookRecall {transferId : Bytes32} {record : TransferRecord} {position : RemotePosition}
    {custody escrow : U64} (ready : a.Ready) :
    (a.bookRecall ctx transferId record position custody escrow).Ready := by
  unfold Accounts.bookRecall
  split
  · exact ready.same rfl rfl rfl rfl rfl
  · exact ready.same rfl rfl rfl rfl rfl

theorem Ready.resolve {resolved : Accounts} {body : ResolveBody} (ready : a.Ready)
    (resolves : a.Resolves body.transferId resolved)
    (next : message.header.sequence.raw = a.control.highestConsumedSequence.raw + 1) :
    (resolved.consume digests.toHashing .resolve message).Ready := by
  cases resolves with
  | unchanged => exact ready.accept next rfl rfl rfl rfl rfl
  | allocation => exact ready.accept next rfl rfl rfl rfl rfl
  | «recall» => exact ready.accept next rfl rfl rfl rfl rfl

theorem Ready.step {instruction : Instruction} (ready : a.Ready)
    (success : a.step digests ctx instruction = .ok a') : a'.Ready := by
  cases instruction with
  | processAllocate message =>
      obtain ⟨body, hBody⟩ := processAllocate_body success
      obtain ⟨now, amount, least, status, receives, -, -, -, -, -, -, -, -, rfl⟩ :=
        processAllocate_ok hBody success
      exact ready.accept receives.next.sequence rfl rfl rfl rfl rfl
  | processRecall message =>
      obtain ⟨body, hBody⟩ := processRecall_body success
      obtain ⟨now, amount, least, receives, -, -, -, -, -, -, -, outcome⟩ :=
        processRecall_ok hBody success
      rcases outcome with ⟨-, rfl⟩ | ⟨-, -, _, _, _, -, -, -, rfl⟩
      · exact ready.accept receives.next.sequence rfl rfl rfl rfl rfl
      · exact ready.accept receives.next.sequence rfl rfl rfl rfl rfl
  | processConfigUpdate message =>
      obtain ⟨now, body, risk, -, receives, -, -, -, rfl⟩ := processConfigUpdate_ok success
      exact ready.accept receives.next.sequence rfl rfl rfl rfl rfl
  | processResolve message =>
      obtain ⟨now, body, resolved, -, -, receives, resolves, -, rfl⟩ := processResolve_ok success
      exact ready.resolve resolves receives.next.sequence
  | processSettlement message =>
      obtain ⟨now, body, settled, settlement, notice, noticed, -, receives, -, -, -, settles, -,
        sent, rfl⟩ := processSettlement_ok success
      exact ready.settle receives.next.sequence settles sent
  | attributeAllocation transferId =>
      obtain ⟨record, _, _, attributed, -, -, -, -, -, -, -, -, -, -, rfl⟩ :=
        attributeAllocation_ok success
      unfold bookAttribution
      split
      · exact ready.same rfl rfl rfl rfl rfl
      · exact ready.same rfl rfl rfl rfl rfl
  | deployToStrategy approved amount call =>
      obtain ⟨_, _, _, _, -, -, -, -, -, rfl⟩ := deployToStrategy_ok success
      exact ready.same rfl rfl rfl rfl rfl
  | withdrawForRecall transferId maximum call =>
      obtain ⟨record, _, _, _, _, _, _, _, _, -, -, -, -, -, -, -, -, -, -, -, -, -, -, -, -, rfl⟩ :=
        withdrawForRecall_ok success
      exact ready.bookRecall
  | sendRecallAssets transferId maximum =>
      obtain ⟨record, _, _, _, _, _, -, -, -, -, -, -, -, -, -, -, rfl⟩ := sendRecallAssets_ok success
      exact ready.bookRecall
  | reconcileCustody =>
      obtain ⟨_, -, -, rfl⟩ := reconcileCustody_ok.mp success
      exact ready.same rfl rfl rfl rfl rfl
  | publishRemoteReport epochId adapterPrincipal layoutKept supplied =>
      obtain ⟨_, _, _, _, message, -, -, -, published⟩ := publishRemoteReport_ok success
      refine Ready.publish ?_ published
      exact ready.same rfl rfl rfl rfl rfl
  | publishRecallSent transferId =>
      obtain ⟨_, _, _, _, published, _, -, -, -, -, -, -, -, hPublished, rfl⟩ :=
        publishRecallSent_ok success
      exact (ready.publish hPublished).same rfl rfl rfl rfl rfl
  | advanceReplayWatermark minimum =>
      obtain ⟨lagging, -, rfl⟩ := advanceReplayWatermark_ok success
      have within : minimum.raw ≤ a.control.highestConsumedSequence.raw + 1 := by omega
      exact ⟨within, ready.unconsumed, ready.numbered, ready.unreported,
        ready.settlements, ready.claims⟩
  | closeConsumedMessage sequence =>
      obtain ⟨_, -, -, rfl⟩ := closeConsumedMessage_ok success
      refine ⟨ready.watermark, ?_, ready.numbered, ready.unreported, ready.settlements, ready.claims⟩
      intro other above
      show Function.update a.consumedMessages sequence none other = none
      by_cases here : other = sequence
      · rw [here, Function.update_self]
      · rw [Function.update_of_ne here]
        exact ready.unconsumed other above
  | freeze =>
      cases freeze_ok success
      exact ready.same rfl rfl rfl rfl rfl
  | receiveCustody amount =>
      obtain ⟨_, -, rfl⟩ := receiveCustody_ok success
      exact ready.same rfl rfl rfl rfl rfl
  | moveEscrow balance =>
      cases pure_eq_ok.mp success
      exact ready.same rfl rfl rfl rfl rfl

end Accounts

section Runs

variable {digests : Digests} {inputs : List (Context × Instruction)} {a : Accounts}

theorem Setup.create_ready {setup : Setup} (created : setup.create = .ok a) : a.Ready := by
  simp only [Setup.create, bind_eq_ok, pure_eq_ok] at created
  obtain ⟨_, -, rfl⟩ := created
  refine ⟨Nat.le_refl 1, ?_, Nat.one_ne_zero, ?_, Nat.le_refl 0, ?_⟩
  · intro sequence above
    rfl
  · intro sequence above
    rfl
  · show 0 ≤ _
    exact Nat.zero_le _

theorem Reached.ready (reached : Reached digests inputs a) : a.Ready := by
  obtain ⟨setup, start, created, finished⟩ := reached
  refine Run.run_preserves Accounts.Ready ?_ inputs start finished (Setup.create_ready created)
  intro a input a' success ready
  exact ready.step success

theorem Reached.shaped (reached : Reached digests inputs a) : a.book.Shaped :=
  reached.invariant Book.Shaped (fun _ fresh => fresh.shaped)
    (fun _ _ _ _ change before => change.shaped before)

end Runs

end Leg
