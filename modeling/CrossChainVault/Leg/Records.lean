import CrossChainVault.Base.Tally
import CrossChainVault.Leg.Changes

set_option autoImplicit false

/- The transfer records, the position that names the open one, and the ledger that adds up the
settled ones. -/

namespace Leg

open Result Protocol Tally

namespace TransferRecord

/-- The transfer holds the leg's one open cycle. -/
def IsOpen (record : TransferRecord) : Prop :=
  record.status = .pending ∨ record.status = .quarantined

/-- The same transfer, later. -/
structure Follows (record record' : TransferRecord) : Prop where
  kind : record'.transferKind = record.transferKind
  transferId : record'.transferId = record.transferId
  messageSequence : record'.messageSequence = record.messageSequence

theorem Follows.refl (record : TransferRecord) : record.Follows record := ⟨rfl, rfl, rfl⟩

end TransferRecord

/-- The only ways the status of one transfer moves. -/
inductive StatusMove (kind : TransferKind) : TransferStatus → TransferStatus → Prop
  | kept (status : TransferStatus) : StatusMove kind status status
  | admitted : StatusMove kind .quarantined .pending
  | completed : StatusMove kind .pending .complete
  | closed (allocation : kind = .allocate) {status : TransferStatus}
      (unsettled : status = .quarantined ∨ status = .pending ∨ status = .complete) :
      StatusMove kind status .closed

/-- What holds of the stored record and of every other one holds of all of them. -/
theorem forall_store {records : Bytes32 → Option TransferRecord} {transferId : Bytes32}
    {record : TransferRecord} {P : Bytes32 → TransferRecord → Prop} (stored : P transferId record)
    (others : ∀ otherId other, otherId ≠ transferId → records otherId = some other →
      P otherId other) :
    ∀ otherId other, Function.update records transferId (some record) otherId = some other →
      P otherId other := by
  intro otherId other found
  by_cases same : otherId = transferId
  · subst same
    rw [Function.update_self, Option.some.injEq] at found
    subst found
    exact stored
  · rw [Function.update_of_ne same] at found
    exact others otherId other same found

/-- The position names this record as the open transfer. -/
structure RemotePosition.Names (p : RemotePosition) (record : TransferRecord) : Prop where
  isOpen : p.activeTransferKind ≠ .none
  kind : p.activeTransferKind = record.transferKind
  transferId : p.activeTransferId = record.transferId
  sequence : p.activeTransferSequence = record.messageSequence
  status : p.activeTransferStatus = record.status

/-- Every record lies under its own id, and the open one is the one the position names. -/
structure Book.Recorded (b : Book) : Prop where
  keyed : ∀ transferId record, b.records transferId = some record → record.transferId = transferId
  named : ∀ transferId record, b.records transferId = some record → record.IsOpen →
    b.position.Names record
  present : b.position.activeTransferKind ≠ .none →
    ∃ record, b.records b.position.activeTransferId = some record ∧ record.IsOpen

theorem Book.Fresh.recorded {b : Book} (fresh : b.Fresh) : b.Recorded where
  keyed := by
    intro transferId record stored
    rw [fresh.records] at stored
    cases stored
  named := by
    intro transferId record stored
    rw [fresh.records] at stored
    cases stored
  present := by
    intro isOpen
    rw [fresh.position] at isOpen
    exact absurd rfl isOpen

namespace Book.Recorded

variable {b : Book} {transferId : Bytes32} {record record' : TransferRecord}
  {kind : TransferKind} {status : TransferStatus} {p : RemotePosition} {custody : U64}
  {ledger : TransportLedger} {risk : RiskConfig} {config : RemoteConfig}

/-- The open record lies where the position points. -/
theorem opens_at (recorded : b.Recorded) (opens : b.Opens kind status transferId record) :
    b.position.activeTransferId = transferId :=
  opens.same.trans (recorded.keyed transferId record opens.stored)

theorem opens_names (recorded : b.Recorded) (opens : b.Opens kind status transferId record)
    (isOpen : record.IsOpen) : b.position.Names record :=
  recorded.named transferId record opens.stored isOpen

/-- No other record is open beside the one the position names. -/
theorem other_closed (recorded : b.Recorded) (opens : b.Opens kind status transferId record)
    {otherId : Bytes32} {other : TransferRecord} (apart : otherId ≠ transferId)
    (stored : b.records otherId = some other) : ¬other.IsOpen := by
  intro isOpen
  have names := recorded.named otherId other stored isOpen
  apply apart
  rw [← recorded.keyed otherId other stored, ← names.transferId, recorded.opens_at opens]

theorem idle_closed (recorded : b.Recorded) (idle : b.position.activeTransferKind = .none)
    (stored : b.records transferId = some record) : ¬record.IsOpen :=
  fun isOpen => (recorded.named transferId record stored isOpen).isOpen idle

/-- A record is stored and the position changes with it. -/
theorem store (recorded : b.Recorded) (keyed : record.transferId = transferId)
    (others : ∀ otherId other, otherId ≠ transferId → b.records otherId = some other →
      other.IsOpen → p.Names other)
    (named : record.IsOpen → p.Names record)
    (present : p.activeTransferKind ≠ .none →
      p.activeTransferId = transferId ∧ record.IsOpen) :
    Book.Recorded { b.store transferId record with
      position := p, custody := custody, ledger := ledger } where
  keyed := forall_store keyed fun otherId other _ found => recorded.keyed otherId other found
  named := forall_store named others
  present := by
    intro isOpen
    obtain ⟨same, isOpen'⟩ := present isOpen
    refine ⟨record, ?_, isOpen'⟩
    show Function.update b.records transferId (some record) p.activeTransferId = some record
    rw [same, Function.update_self]

/-- A new cycle opens while none is. -/
theorem start (recorded : b.Recorded) (idle : b.position.activeTransferKind = .none)
    (keyed : record.transferId = transferId) (isOpen : record.IsOpen) (names : p.Names record) :
    Book.Recorded { b.store transferId record with
      position := p, custody := custody, ledger := ledger } := by
  refine recorded.store keyed ?_ (fun _ => names) fun _ => ⟨names.transferId.trans keyed, isOpen⟩
  intro otherId other _ stored isOpen'
  exact absurd isOpen' (recorded.idle_closed idle stored)

/-- The open cycle moves on and stays open. -/
theorem move (recorded : b.Recorded) (opens : b.Opens kind status transferId record)
    (follows : record.Follows record') (isOpen : record'.IsOpen) (names : p.Names record') :
    Book.Recorded { b.store transferId record' with
      position := p, custody := custody, ledger := ledger } := by
  have keyed := follows.transferId.trans (recorded.keyed transferId record opens.stored)
  refine recorded.store keyed ?_ (fun _ => names) fun _ => ⟨names.transferId.trans keyed, isOpen⟩
  intro otherId other apart stored isOpen'
  exact absurd isOpen' (recorded.other_closed opens apart stored)

/-- The open cycle ends. -/
theorem finish (recorded : b.Recorded) (opens : b.Opens kind status transferId record)
    (follows : record.Follows record') (ended : ¬record'.IsOpen)
    (idle : p.activeTransferKind = .none) :
    Book.Recorded { b.store transferId record' with
      position := p, custody := custody, ledger := ledger } := by
  have keyed := follows.transferId.trans (recorded.keyed transferId record opens.stored)
  refine recorded.store keyed ?_ (fun isOpen => absurd isOpen ended)
    fun isOpen => absurd idle isOpen
  intro otherId other apart stored isOpen'
  exact absurd isOpen' (recorded.other_closed opens apart stored)

/-- A record is settled while no cycle is open. -/
theorem settle (recorded : b.Recorded) (idle : b.position.activeTransferKind = .none)
    (keyed : record.transferId = transferId) (ended : ¬record.IsOpen)
    (idle' : p.activeTransferKind = .none) :
    Book.Recorded { b.store transferId record with
      position := p, custody := custody, ledger := ledger } := by
  refine recorded.store keyed ?_ (fun isOpen => absurd isOpen ended)
    fun isOpen => absurd idle' isOpen
  intro otherId other apart stored isOpen'
  exact absurd isOpen' (recorded.idle_closed idle stored)

/-- Money moves and the open cycle stays as it is. -/
theorem same_cycle (recorded : b.Recorded)
    (kind : p.activeTransferKind = b.position.activeTransferKind)
    (transferId : p.activeTransferId = b.position.activeTransferId)
    (sequence : p.activeTransferSequence = b.position.activeTransferSequence)
    (status : p.activeTransferStatus = b.position.activeTransferStatus) :
    Book.Recorded { b with
      config := config, risk := risk, position := p, custody := custody } where
  keyed := recorded.keyed
  named := by
    intro otherId other stored isOpen
    have names := recorded.named otherId other stored isOpen
    exact ⟨kind ▸ names.isOpen, kind.trans names.kind, transferId.trans names.transferId,
      sequence.trans names.sequence, status.trans names.status⟩
  present := by
    intro isOpen
    obtain ⟨record, stored, isOpen'⟩ := recorded.present (kind ▸ isOpen)
    exact ⟨record, (congrArg b.records transferId).trans stored, isOpen'⟩

end Book.Recorded

section Unwinding

variable {b : Book} {transferId : Bytes32} {instruction : Instruction}
  {record record' : TransferRecord} {position : RemotePosition} {custody : U64}

theorem Unwinds.follows
    (unwinds : Unwinds b transferId record instruction record' position custody) :
    record.Follows record' := by
  cases unwinds <;> exact ⟨rfl, rfl, rfl⟩

theorem Unwinds.sameStatus
    (unwinds : Unwinds b transferId record instruction record' position custody) :
    record'.status = record.status := by
  cases unwinds <;> rfl

theorem Unwinds.names (names : b.position.Names record)
    (unwinds : Unwinds b transferId record instruction record' position custody) :
    position.Names record' := by
  cases unwinds <;>
    exact ⟨names.isOpen, names.kind, names.transferId, names.sequence, names.status⟩

end Unwinding

theorem not_isOpen_of_status {record : TransferRecord} {status : TransferStatus}
    (same : record.status = status) (ended : status = .complete ∨ status = .closed) :
    ¬record.IsOpen := by
  unfold TransferRecord.IsOpen
  rw [same]
  obtain rfl | rfl := ended
  · decide
  · decide

namespace Change

variable {guardian : Bool} {b b' : Book} {instruction : Instruction}

theorem recorded (change : Change guardian b instruction b') (before : b.Recorded) :
    b'.Recorded := by
  cases change with
  | quiet => exact before
  | updated => exact before.same_cycle rfl rfl rfl rfl
  | froze => exact before.same_cycle rfl rfl rfl rfl
  | received => exact before.same_cycle rfl rfl rfl rfl
  | reconciled => exact before.same_cycle rfl rfl rfl rfl
  | tookAllocation message transferId record idle unused kind same nothing shape status =>
      have isOpen : record.IsOpen := status.imp And.left id
      exact before.start idle same isOpen ⟨nofun, kind.symm, same.symm, rfl, rfl⟩
  | heldRecall message transferId sequence requested least clock consented idle =>
      exact before.start idle rfl (.inr rfl) ⟨nofun, rfl, rfl, rfl, rfl⟩
  | startedRecall message transferId sequence requested least clock reserved attributed recalled
      consented idle =>
      exact before.start idle rfl (.inl rfl) ⟨nofun, rfl, rfl, rfl, rfl⟩
  | admittedAllocation message transferId record consented opens =>
      have names := before.opens_names opens (.inr opens.hStatus)
      exact before.move opens ⟨rfl, rfl, rfl⟩ (.inl rfl)
        ⟨names.isOpen, names.kind, names.transferId, names.sequence, rfl⟩
  | admittedRecall message transferId record reserved attributed recalled consented opens =>
      have names := before.opens_names opens (.inr opens.hStatus)
      exact before.move opens ⟨rfl, rfl, rfl⟩ (.inl rfl)
        ⟨names.isOpen, names.kind, names.transferId, names.sequence, rfl⟩
  | attributed transferId record unattributed principal total consented opens =>
      have names := before.opens_names opens (.inl opens.hStatus)
      exact before.move opens ⟨rfl, rfl, rfl⟩ (.inl opens.hStatus)
        ⟨names.isOpen, names.kind, names.transferId, names.sequence, names.status⟩
  | completed transferId record unattributed principal clock consented opens =>
      exact before.finish opens ⟨rfl, rfl, rfl⟩ (not_isOpen_of_status rfl (.inl rfl)) rfl
  | deployed => exact before.same_cycle rfl rfl rfl rfl
  | progressed transferId instruction record record' position custody opens unwinds =>
      have names := before.opens_names opens (.inl opens.hStatus)
      exact before.move opens unwinds.follows (.inl (unwinds.sameStatus.trans opens.hStatus))
        (Unwinds.names names unwinds)
  | settled transferId instruction record record' position custody clock opens unwinds =>
      have follows := unwinds.follows
      exact before.finish opens ⟨follows.kind, follows.transferId, follows.messageSequence⟩
        (not_isOpen_of_status rfl (.inl rfl)) rfl
  | closedPending message body record unattributed principal total clock ledger hBody action
      consented opens =>
      exact before.finish opens ⟨rfl, rfl, rfl⟩ (not_isOpen_of_status rfl (.inr rfl)) rfl
  | closedHeld message body record clock ledger hBody action consented opens =>
      exact before.finish opens ⟨rfl, rfl, rfl⟩ (not_isOpen_of_status rfl (.inr rfl)) rfl
  | closedComplete message body record ledger hBody action consented stored kind complete idle =>
      have keyed : record.transferId = body.transferId := before.keyed _ _ stored
      exact before.settle idle keyed (not_isOpen_of_status rfl (.inr rfl)) idle
  | recovered message body sequence credited unattributed principal clock ledger hBody action
      consented idle =>
      exact before.settle idle rfl (not_isOpen_of_status rfl (.inl rfl)) idle

/-- A stored record moves on; every other record stays as it was. -/
theorem moves_store {records : Bytes32 → Option TransferRecord} {transferId : Bytes32}
    {record record' : TransferRecord} (stored : records transferId = some record)
    (follows : record.Follows record')
    (status : StatusMove record.transferKind record.status record'.status) :
    ∀ otherId other, records otherId = some other → ∃ other',
      Function.update records transferId (some record') otherId = some other' ∧
        other.Follows other' ∧ StatusMove other.transferKind other.status other'.status := by
  intro otherId other found
  by_cases same : otherId = transferId
  · subst same
    cases stored.symm.trans found
    exact ⟨record', Function.update_self .., follows, status⟩
  · exact ⟨other, by rw [Function.update_of_ne same, found], .refl other, .kept _⟩

/-- A new record leaves every existing one as it was. -/
theorem moves_new {records : Bytes32 → Option TransferRecord} {transferId : Bytes32}
    {record' : TransferRecord} (unused : records transferId = none) :
    ∀ otherId other, records otherId = some other → ∃ other',
      Function.update records transferId (some record') otherId = some other' ∧
        other.Follows other' ∧ StatusMove other.transferKind other.status other'.status := by
  intro otherId other found
  have same : otherId ≠ transferId := by
    intro same
    rw [same, unused] at found
    cases found
  exact ⟨other, by rw [Function.update_of_ne same, found], .refl other, .kept _⟩

/-- No record is ever dropped or taken over by another transfer, and its status only moves
forward. -/
theorem moves (change : Change guardian b instruction b') :
    ∀ transferId record, b.records transferId = some record → ∃ record',
      b'.records transferId = some record' ∧ record.Follows record' ∧
        StatusMove record.transferKind record.status record'.status := by
  have unchanged : ∀ transferId record, b.records transferId = some record → ∃ record',
      b.records transferId = some record' ∧ record.Follows record' ∧
        StatusMove record.transferKind record.status record'.status :=
    fun transferId record stored => ⟨record, stored, .refl record, .kept _⟩
  cases change with
  | quiet => exact unchanged
  | updated => exact unchanged
  | froze => exact unchanged
  | received => exact unchanged
  | reconciled => exact unchanged
  | tookAllocation message transferId record idle unused => exact moves_new unused
  | heldRecall message transferId sequence requested least clock consented idle unused =>
      exact moves_new unused
  | startedRecall message transferId sequence requested least clock reserved attributed recalled
      consented idle unused => exact moves_new unused
  | admittedAllocation message transferId record consented opens =>
      exact moves_store opens.stored ⟨rfl, rfl, rfl⟩ (opens.hStatus ▸ .admitted)
  | admittedRecall message transferId record reserved attributed recalled consented opens =>
      exact moves_store opens.stored ⟨rfl, rfl, rfl⟩ (opens.hStatus ▸ .admitted)
  | attributed transferId record unattributed principal total consented opens =>
      exact moves_store opens.stored ⟨rfl, rfl, rfl⟩ (.kept _)
  | completed transferId record unattributed principal clock consented opens =>
      exact moves_store opens.stored ⟨rfl, rfl, rfl⟩ (opens.hStatus ▸ .completed)
  | deployed => exact unchanged
  | progressed transferId instruction record record' position custody opens unwinds =>
      exact moves_store opens.stored unwinds.follows (unwinds.sameStatus ▸ .kept _)
  | settled transferId instruction record record' position custody clock opens unwinds =>
      have follows := unwinds.follows
      exact moves_store opens.stored ⟨follows.kind, follows.transferId, follows.messageSequence⟩
        (opens.hStatus ▸ .completed)
  | closedPending message body record unattributed principal total clock ledger hBody action
      consented opens =>
      exact moves_store opens.stored ⟨rfl, rfl, rfl⟩ (.closed opens.hKind (.inr (.inl opens.hStatus)))
  | closedHeld message body record clock ledger hBody action consented opens =>
      exact moves_store opens.stored ⟨rfl, rfl, rfl⟩ (.closed opens.hKind (.inl opens.hStatus))
  | closedComplete message body record ledger hBody action consented stored kind complete =>
      exact moves_store stored ⟨rfl, rfl, rfl⟩ (.closed kind (.inr (.inr complete)))
  | recovered message body sequence credited unattributed principal clock ledger hBody action
      consented idle unused => exact moves_new unused

end Change

/- What the ledger adds up. -/

namespace TransferRecord

/-- The claim of a closed allocation. -/
def closedClaim (record : TransferRecord) : Nat :=
  if record.status = .closed then record.authorizedAmount.raw else 0

/-- What a closed allocation was credited. -/
def closedCredit (record : TransferRecord) : Nat :=
  if record.status = .closed then record.attributedAmount.raw else 0

/-- What a recovery credited. -/
def recovered (record : TransferRecord) : Nat :=
  if record.transferKind = .recover then record.attributedAmount.raw else 0

theorem closedClaim_open {record : TransferRecord} (running : record.status ≠ .closed) :
    record.closedClaim = 0 := if_neg running

theorem closedCredit_open {record : TransferRecord} (running : record.status ≠ .closed) :
    record.closedCredit = 0 := if_neg running

theorem recovered_of_kind {record : TransferRecord} (kind : record.transferKind ≠ .recover) :
    record.recovered = 0 := if_neg kind

end TransferRecord

/-- What all transfer records weigh together. -/
noncomputable def sumRecords (weight : TransferRecord → Nat)
    (records : Bytes32 → Option TransferRecord) : Nat :=
  tally fun transferId => (records transferId).elim 0 weight

section Sums

variable {weight : TransferRecord → Nat} {records : Bytes32 → Option TransferRecord}
  {transferId : Bytes32} {record record' : TransferRecord}

theorem sumRecords_empty (none : ∀ transferId, records transferId = none) :
    sumRecords weight records = 0 :=
  tally_eq_zero fun transferId => by rw [none transferId]; rfl

theorem sumRecords_new (unused : records transferId = none) :
    sumRecords weight (Function.update records transferId (some record')) =
      sumRecords weight records + weight record' := by
  have changed := tally_update (fun account : Option TransferRecord => account.elim 0 weight) records
    transferId (some record')
  simpa [sumRecords, unused] using changed

theorem sumRecords_store (weight : TransferRecord → Nat) (record' : TransferRecord)
    (stored : records transferId = some record) :
    sumRecords weight (Function.update records transferId (some record')) + weight record =
      sumRecords weight records + weight record' := by
  have changed := tally_update (fun account : Option TransferRecord => account.elim 0 weight) records
    transferId (some record')
  simpa [sumRecords, stored] using changed

/-- Replacing a record by one of the same weight keeps the sum. -/
theorem sumRecords_same (stored : records transferId = some record)
    (same : weight record' = weight record) :
    sumRecords weight (Function.update records transferId (some record')) =
      sumRecords weight records := by
  have changed := sumRecords_store weight record' stored
  omega

end Sums

/-- The ledger balances and adds up exactly the settled transfers. -/
structure TransportLedger.Sums (ledger : TransportLedger)
    (records : Bytes32 → Option TransferRecord) : Prop where
  balanced : ledger.Balanced
  claim : ledger.cumulativeClosedClaim.raw = sumRecords TransferRecord.closedClaim records
  credit : ledger.cumulativeClosedCredit.raw = sumRecords TransferRecord.closedCredit records
  recovered : ledger.cumulativeRecovered.raw = sumRecords TransferRecord.recovered records

theorem Book.Fresh.sums {b : Book} (fresh : b.Fresh) : b.ledger.Sums b.records where
  balanced := by rw [fresh.ledger]; rfl
  claim := by rw [fresh.ledger, sumRecords_empty fresh.records]; rfl
  credit := by rw [fresh.ledger, sumRecords_empty fresh.records]; rfl
  recovered := by rw [fresh.ledger, sumRecords_empty fresh.records]; rfl

namespace TransportLedger.Sums

variable {ledger ledger' : TransportLedger} {records : Bytes32 → Option TransferRecord}
  {transferId : Bytes32} {record record' : TransferRecord}

/-- A new transfer that is neither closed nor a recovery. -/
theorem start (sums : ledger.Sums records) (unused : records transferId = none)
    (running : record.status ≠ .closed) (kind : record.transferKind ≠ .recover) :
    ledger.Sums (Function.update records transferId (some record)) where
  balanced := sums.balanced
  claim := by rw [sumRecords_new unused, TransferRecord.closedClaim_open running, sums.claim]; rfl
  credit := by rw [sumRecords_new unused, TransferRecord.closedCredit_open running, sums.credit]; rfl
  recovered := by
    rw [sumRecords_new unused, TransferRecord.recovered_of_kind kind, sums.recovered]
    rfl

/-- A transfer that moves on without being settled. -/
theorem move (sums : ledger.Sums records) (stored : records transferId = some record)
    (follows : record.Follows record') (running : record.status ≠ .closed)
    (running' : record'.status ≠ .closed) (kind : record.transferKind ≠ .recover) :
    ledger.Sums (Function.update records transferId (some record')) where
  balanced := sums.balanced
  claim := by
    rw [sumRecords_same stored, sums.claim]
    rw [TransferRecord.closedClaim_open running, TransferRecord.closedClaim_open running']
  credit := by
    rw [sumRecords_same stored, sums.credit]
    rw [TransferRecord.closedCredit_open running, TransferRecord.closedCredit_open running']
  recovered := by
    rw [sumRecords_same stored, sums.recovered]
    rw [TransferRecord.recovered_of_kind kind,
      TransferRecord.recovered_of_kind (follows.kind ▸ kind)]

/-- A transfer that is closed enters the ledger with its claim and its credit. -/
theorem close (sums : ledger.Sums records) (stored : records transferId = some record)
    (follows : record.Follows record') (running : record.status ≠ .closed)
    (closed : record'.status = .closed) (kind : record.transferKind ≠ .recover)
    (booked : ledger.recordClose record'.authorizedAmount record'.attributedAmount
      record'.messageSequence = .ok ledger') :
    ledger'.Sums (Function.update records transferId (some record')) := by
  obtain ⟨closedClaim, closedCredit, impaired, total, -, hClaim, hCredit, -, -, rfl, balanced⟩ :=
    recordClose_ok.mp booked
  have claims := sumRecords_store TransferRecord.closedClaim record' stored
  have credits := sumRecords_store TransferRecord.closedCredit record' stored
  rw [TransferRecord.closedClaim_open running, ← sums.claim] at claims
  rw [TransferRecord.closedCredit_open running, ← sums.credit] at credits
  have claimed : record'.closedClaim = record'.authorizedAmount.raw := if_pos closed
  have credited : record'.closedCredit = record'.attributedAmount.raw := if_pos closed
  refine ⟨balanced, ?_, ?_, ?_⟩
  · show closedClaim.raw = _
    omega
  · show closedCredit.raw = _
    omega
  · rw [sumRecords_same stored]
    · exact sums.recovered
    · rw [TransferRecord.recovered_of_kind kind,
        TransferRecord.recovered_of_kind (follows.kind ▸ kind)]

/-- A recovery enters the ledger with its credit. -/
theorem recover {sequence credited : U64} {clock : UnixTimestamp} (sums : ledger.Sums records)
    (unused : records transferId = none)
    (booked : ledger.recordRecovery credited = .ok ledger') :
    ledger'.Sums (Function.update records transferId
      (some (.newRecovery transferId sequence credited clock))) := by
  obtain ⟨impaired, recovered, total, -, hRecovered, -, rfl, balanced⟩ := recordRecovery_ok.mp booked
  refine ⟨balanced, ?_, ?_, ?_⟩
  · rw [sumRecords_new unused]
    exact sums.claim
  · rw [sumRecords_new unused]
    exact sums.credit
  · rw [sumRecords_new unused, ← sums.recovered]
    exact hRecovered

end TransportLedger.Sums

namespace Change

variable {guardian : Bool} {b b' : Book} {instruction : Instruction}

theorem sums (change : Change guardian b instruction b') (before : b.ledger.Sums b.records) :
    b'.ledger.Sums b'.records := by
  cases change with
  | quiet => exact before
  | updated => exact before
  | froze => exact before
  | received => exact before
  | reconciled => exact before
  | tookAllocation message transferId record idle unused kind same nothing shape status =>
      refine before.start unused ?_ (by rw [kind]; decide)
      obtain ⟨pending, -, -⟩ | held := status
      · rw [pending]; decide
      · rw [held]; decide
  | heldRecall message transferId sequence requested least clock consented idle unused =>
      exact before.start unused nofun nofun
  | startedRecall message transferId sequence requested least clock reserved attributed recalled
      consented idle unused => exact before.start unused nofun nofun
  | admittedAllocation message transferId record consented opens =>
      exact before.move opens.stored ⟨rfl, rfl, rfl⟩ (by rw [opens.hStatus]; decide) nofun
        (by rw [opens.hKind]; decide)
  | admittedRecall message transferId record reserved attributed recalled consented opens =>
      exact before.move opens.stored ⟨rfl, rfl, rfl⟩ (by rw [opens.hStatus]; decide) nofun
        (by rw [opens.hKind]; decide)
  | attributed transferId record unattributed principal total consented opens =>
      have running : record.status ≠ .closed := by rw [opens.hStatus]; decide
      exact before.move opens.stored ⟨rfl, rfl, rfl⟩ running running (by rw [opens.hKind]; decide)
  | completed transferId record unattributed principal clock consented opens =>
      exact before.move opens.stored ⟨rfl, rfl, rfl⟩ (by rw [opens.hStatus]; decide) nofun
        (by rw [opens.hKind]; decide)
  | deployed => exact before
  | progressed transferId instruction record record' position custody opens unwinds =>
      have running : record.status ≠ .closed := by rw [opens.hStatus]; decide
      exact before.move opens.stored unwinds.follows running (unwinds.sameStatus ▸ running)
        (by rw [opens.hKind]; decide)
  | settled transferId instruction record record' position custody clock opens unwinds =>
      have follows := unwinds.follows
      exact before.move opens.stored ⟨follows.kind, follows.transferId, follows.messageSequence⟩
        (by rw [opens.hStatus]; decide) nofun (by rw [opens.hKind]; decide)
  | closedPending message body record unattributed principal total clock ledger hBody action
      consented opens attributes hLedger =>
      exact before.close opens.stored ⟨rfl, rfl, rfl⟩ (by rw [opens.hStatus]; decide) rfl
        (by rw [opens.hKind]; decide) hLedger
  | closedHeld message body record clock ledger hBody action consented opens hLedger =>
      exact before.close opens.stored ⟨rfl, rfl, rfl⟩ (by rw [opens.hStatus]; decide) rfl
        (by rw [opens.hKind]; decide) hLedger
  | closedComplete message body record ledger hBody action consented stored kind complete idle
      hLedger =>
      exact before.close stored ⟨rfl, rfl, rfl⟩ (by rw [complete]; decide) rfl
        (by rw [kind]; decide) hLedger
  | recovered message body sequence credited unattributed principal clock ledger hBody action
      consented idle unused fits moved identity hLedger =>
      exact before.recover unused hLedger

/-- A close settles a transfer that was not settled before. -/
theorem closes {message : Message} {body : ResolveBody} (hBody : message.body = .resolve body)
    (action : body.action = .close) (change : Change guardian b (.processSettlement message) b') :
    ∃ record record', b.records body.transferId = some record ∧ record.status ≠ .closed ∧
      b'.records body.transferId = some record' ∧ record'.status = .closed := by
  cases change with
  | quiet instruction upkeep => cases upkeep
  | reconciled instruction reading => cases reading
  | progressed transferId instruction record record' position custody opens unwinds => cases unwinds
  | settled transferId instruction record record' position custody clock opens unwinds =>
      cases unwinds
  | closedPending message body' record unattributed principal total clock ledger hBody' action'
      consented opens =>
      cases hBody'.symm.trans hBody
      exact ⟨record, _, opens.stored, by rw [opens.hStatus]; decide, Function.update_self .., rfl⟩
  | closedHeld message body' record clock ledger hBody' action' consented opens =>
      cases hBody'.symm.trans hBody
      exact ⟨record, _, opens.stored, by rw [opens.hStatus]; decide, Function.update_self .., rfl⟩
  | closedComplete message body' record ledger hBody' action' consented stored kind complete =>
      cases hBody'.symm.trans hBody
      exact ⟨record, _, stored, by rw [complete]; decide, Function.update_self .., rfl⟩
  | recovered message body' sequence credited unattributed principal clock ledger hBody' action' =>
      cases hBody'.symm.trans hBody
      cases action.symm.trans action'

end Change

section Reachable

variable {digests : Digests} {inputs : List (Context × Instruction)} {a : Accounts}

theorem Reached.recorded (reached : Reached digests inputs a) : a.book.Recorded :=
  reached.invariant Book.Recorded (fun _ fresh => fresh.recorded)
    (fun _ _ _ _ change before => change.recorded before)

theorem Reached.sums (reached : Reached digests inputs a) :
    a.openLedger.Sums a.transferRecords :=
  reached.invariant (fun b => b.ledger.Sums b.records) (fun _ fresh => fresh.sums)
    (fun _ _ _ _ change before => change.sums before)

/-- Every transfer settles at most once: the ledger balances and adds up the closed allocations and
the recoveries, every id has one record, whose status only moves forward, and the record that is
open is the one the position names. -/
theorem transfers_settle_once (reached : Reached digests inputs a) :
    (a.openLedger.cumulativeClosedClaim.raw = a.openLedger.cumulativeClosedCredit.raw +
        a.openLedger.impairedOutstanding.raw + a.openLedger.cumulativeRecovered.raw ∧
      a.openLedger.cumulativeClosedClaim.raw =
        sumRecords TransferRecord.closedClaim a.transferRecords ∧
      a.openLedger.cumulativeClosedCredit.raw =
        sumRecords TransferRecord.closedCredit a.transferRecords ∧
      a.openLedger.cumulativeRecovered.raw =
        sumRecords TransferRecord.recovered a.transferRecords) ∧
    (∀ transferId record, a.transferRecords transferId = some record →
      record.transferId = transferId) ∧
    (a.position.activeTransferKind = .none →
      ∀ transferId record, a.transferRecords transferId = some record → ¬record.IsOpen) ∧
    (a.position.activeTransferKind ≠ .none → ∃ record,
      a.transferRecords a.position.activeTransferId = some record ∧ record.IsOpen ∧
      a.position.Names record ∧
      ∀ transferId other, a.transferRecords transferId = some other → other.IsOpen →
        transferId = a.position.activeTransferId) ∧
    ∀ ctx instruction a', a.step digests ctx instruction = .ok a' →
      (∀ transferId record, a.transferRecords transferId = some record → ∃ record',
        a'.transferRecords transferId = some record' ∧ record.Follows record' ∧
        StatusMove record.transferKind record.status record'.status) ∧
      ∀ message body, instruction = .processSettlement message → message.body = .resolve body →
        body.action = .close → ∃ record record', a.transferRecords body.transferId = some record ∧
          record.status ≠ .closed ∧ a'.transferRecords body.transferId = some record' ∧
          record'.status = .closed := by
  have recorded := reached.recorded
  have sums := reached.sums
  refine ⟨⟨sums.balanced.symm, sums.claim, sums.credit, sums.recovered⟩, recorded.keyed, ?_, ?_, ?_⟩
  · intro idle transferId record stored
    exact recorded.idle_closed idle stored
  · intro isOpen
    obtain ⟨record, stored, isOpen'⟩ := recorded.present isOpen
    refine ⟨record, stored, isOpen', recorded.named _ _ stored isOpen', ?_⟩
    intro transferId other found otherOpen
    have names := recorded.named transferId other found otherOpen
    exact ((recorded.keyed transferId other found).symm.trans names.transferId.symm)
  · intro ctx instruction a' accepted
    have change := Accounts.step_changes accepted
    refine ⟨change.moves, ?_⟩
    rintro message body rfl hBody action
    exact change.closes hBody action

end Reachable

/-- An allocation of six hundred that closes with two hundred credited, and a recovery of the
three hundred that arrive later. -/
def sampleRecovered : List (Context × Instruction) :=
  [sampleAllocate 1 600, sampleArrival 200, sampleResolve 2 1 1 .close, sampleArrival 300,
    sampleResolve 3 3 1 .recover]

theorem transfers_settle_once_recovered : ∃ a, Reached sampleDigests sampleRecovered a ∧
    a.openLedger.cumulativeClosedClaim.raw = 600 ∧ a.openLedger.cumulativeRecovered.raw = 300 ∧
    sumRecords TransferRecord.closedClaim a.transferRecords = 600 := by
  have passes : (sampleLeg sampleRecovered).toOption.any
      (fun a => a.openLedger.cumulativeClosedClaim.raw = 600 ∧
        a.openLedger.cumulativeRecovered.raw = 300) = true := by
    decide +kernel
  obtain ⟨a, finished, holds⟩ := ok_of_any passes
  have reached := sampleLeg_reached finished
  obtain ⟨claimed, recovered⟩ : a.openLedger.cumulativeClosedClaim.raw = 600 ∧
      a.openLedger.cumulativeRecovered.raw = 300 := by simpa using holds
  exact ⟨a, reached, claimed, recovered,
    (transfers_settle_once reached).1.2.1.symm.trans claimed⟩

end Leg
