import CrossChainVault.Base.Run
import CrossChainVault.Leg.Instructions

set_option autoImplicit false

/- What one accepted instruction does to the leg's money and to the books that explain it. -/

namespace Leg

open Result Protocol

/-- The custody balance, the accounts that explain it, and the limits they are held to. -/
@[ext] structure Book where
  config : RemoteConfig
  risk : RiskConfig
  maxRemotePrincipal : U64
  position : RemotePosition
  custody : U64
  ledger : TransportLedger
  records : Bytes32 → Option TransferRecord

def Accounts.book (a : Accounts) : Book where
  config := a.config
  risk := a.risk
  maxRemotePrincipal := a.maxRemotePrincipal
  position := a.position
  custody := a.custody
  ledger := a.openLedger
  records := a.transferRecords

/-- Principal may move: the leg runs, or the guardian signed. -/
def Book.Consents (b : Book) (guardian : Bool) : Prop :=
  b.config.frozen = false ∨ guardian = true

def Book.store (b : Book) (transferId : Bytes32) (record : TransferRecord) : Book :=
  { b with records := Function.update b.records transferId (some record) }

/-- Instructions that leave the money and its books alone. An admission is one when it admits
nothing. -/
def Instruction.isUpkeep : Instruction → Bool
  | .processResolve _ => true
  | .publishRecallSent _ => true
  | .advanceReplayWatermark _ => true
  | .closeConsumedMessage _ => true
  | .moveEscrow _ => true
  | _ => false

/-- Instructions that only explain custody. -/
def Instruction.isReading : Instruction → Bool
  | .reconcileCustody => true
  | .publishRemoteReport .. => true
  | _ => false

/-- What the adapter's account shows after a call of the adapter. -/
def Instruction.reported : Instruction → Option U64
  | .deployToStrategy _ _ call => some call.principalAfter
  | .withdrawForRecall _ _ call => some call.principalAfter
  | _ => none

/-- The named record is the open transfer, of this kind and status. -/
structure Book.Opens (b : Book) (kind : TransferKind) (status : TransferStatus)
    (transferId : Bytes32) (record : TransferRecord) : Prop where
  stored : b.records transferId = some record
  hKind : record.transferKind = kind
  hStatus : record.status = status
  isOpen : b.position.activeTransferKind = kind
  same : b.position.activeTransferId = record.transferId

/-- How custody is split between principal and recalled assets, `requested` of it recalled. -/
structure Reserves (p : RemotePosition) (requested reserved attributed recalled : U64) : Prop where
  covered : requested.raw ≤ p.principal
  hReserved : reserved.raw = min requested.raw p.attributedPrincipal.raw
  hAttributed : attributed.raw + reserved.raw = p.attributedPrincipal.raw
  hRecalled : recalled.raw = p.recalledCustody.raw + reserved.raw

/-- An allocation that received `total` so far, out of custody that is now fully explained. -/
structure Attributes (b : Book) (record : TransferRecord) (unattributed principal total : U64) :
    Prop where
  grows : record.attributedAmount.raw ≤ total.raw
  within : total.raw ≤ record.authorizedAmount.raw
  moved : principal.raw + record.attributedAmount.raw =
    b.position.attributedPrincipal.raw + total.raw
  identity : principal.raw + b.position.recalledCustody.raw + unattributed.raw = b.custody.raw

/-- One part of an unwind: assets come back from the adapter, or go out to the escrow. -/
inductive Unwinds (b : Book) (transferId : Bytes32) (record : TransferRecord) :
    Instruction → TransferRecord → RemotePosition → U64 → Prop
  | withdrew (maximum : U64) (call : AdapterCall)
      (unattributed deployed recalled loss resolved withdrawn recordLoss custody : U64)
      (reported : deployed = call.principalAfter) (arrived : b.custody.raw ≤ custody.raw)
      (hDeployed : deployed.raw + resolved.raw =
        b.position.deployedPrincipal.raw + record.strategyPrincipalResolved.raw)
      (hRecalled : recalled.raw + record.assetsWithdrawn.raw =
        b.position.recalledCustody.raw + withdrawn.raw)
      (hLoss : loss.raw + record.realizedLoss.raw =
        b.position.cumulativeRealizedLoss.raw + recordLoss.raw)
      (returned : record.assetsWithdrawn.raw ≤ withdrawn.raw)
      (lost : record.realizedLoss.raw ≤ recordLoss.raw)
      (split : resolved.raw + record.assetsWithdrawn.raw + record.realizedLoss.raw =
        record.strategyPrincipalResolved.raw + withdrawn.raw + recordLoss.raw)
      (within : record.custodyPrincipalReserved.raw + resolved.raw ≤
        record.requestedRecallAmount.raw)
      (identity : b.position.attributedPrincipal.raw + recalled.raw + unattributed.raw =
        custody.raw) :
      Unwinds b transferId record (.withdrawForRecall transferId maximum call)
        { record with
          strategyPrincipalResolved := resolved
          assetsWithdrawn := withdrawn
          realizedLoss := recordLoss }
        { b.position with
          unattributedCustody := unattributed
          deployedPrincipal := deployed
          recalledCustody := recalled
          cumulativeRealizedLoss := loss } custody
  | sent (maximum : U64) (unattributed recalled sent custody : U64)
      (hRecalled : recalled.raw + sent.raw = b.position.recalledCustody.raw + record.assetsSent.raw)
      (grows : record.assetsSent.raw ≤ sent.raw)
      (left : custody.raw + sent.raw = b.custody.raw + record.assetsSent.raw)
      (identity : b.position.attributedPrincipal.raw + recalled.raw + unattributed.raw =
        custody.raw) :
      Unwinds b transferId record (.sendRecallAssets transferId maximum) { record with assetsSent := sent }
        { b.position with
          unattributedCustody := unattributed
          recalledCustody := recalled } custody

/-- Everything one instruction can do to the books. `guardian` says that the emergency guardian
signed it. -/
inductive Change (guardian : Bool) (b : Book) : Instruction → Book → Prop
  | quiet (instruction : Instruction) (upkeep : instruction.isUpkeep = true) :
      Change guardian b instruction b
  | updated (message : Message) (risk : RiskConfig) (version : U64)
      (running : b.config.frozen = false) :
      Change guardian b (.processConfigUpdate message)
        { b with risk := risk, config := { b.config with configVersion := version } }
  | froze : Change guardian b .freeze { b with config := { b.config with frozen := true } }
  | received (amount custody : U64) (arrived : b.custody.raw ≤ custody.raw) :
      Change guardian b (.receiveCustody amount) { b with custody := custody }
  | reconciled (instruction : Instruction) (reading : instruction.isReading = true)
      (unattributed : U64)
      (identity : b.position.attributedPrincipal.raw + b.position.recalledCustody.raw +
        unattributed.raw = b.custody.raw) :
      Change guardian b instruction
        { b with position := { b.position with unattributedCustody := unattributed } }
  | tookAllocation (message : Message) (transferId : Bytes32) (record : TransferRecord)
      (idle : b.position.activeTransferKind = .none) (unused : b.records transferId = none)
      (kind : record.transferKind = .allocate) (same : record.transferId = transferId)
      (nothing : record.attributedAmount.raw = 0) (shape : record.AllocationShape)
      (status : record.status = .pending ∧ b.config.frozen = false ∧
          b.position.principal + record.authorizedAmount.raw ≤ b.maxRemotePrincipal.raw ∨
        record.status = .quarantined)
      (nonzero : record.authorizedAmount.raw ≠ 0) :
      Change guardian b (.processAllocate message)
        { b.store transferId record with
          position := { b.position.openTransfer .allocate transferId record.messageSequence with
            activeTransferStatus := record.status } }
  | heldRecall (message : Message) (transferId : Bytes32) (sequence requested least : U64)
      (clock : UnixTimestamp) (consented : b.Consents guardian)
      (idle : b.position.activeTransferKind = .none) (unused : b.records transferId = none)
      (nonzero : requested.raw ≠ 0) (named : transferId.raw ≠ 0) :
      Change guardian b (.processRecall message)
        { b.store transferId (TransferRecord.newRecall transferId sequence requested least .zero
            clock).quarantined with
          position := b.position.quarantineTransfer .recall transferId sequence }
  | startedRecall (message : Message) (transferId : Bytes32) (sequence requested least : U64)
      (clock : UnixTimestamp) (reserved attributed recalled : U64) (consented : b.Consents guardian)
      (idle : b.position.activeTransferKind = .none) (unused : b.records transferId = none)
      (nonzero : requested.raw ≠ 0)
      (reserves : Reserves b.position requested reserved attributed recalled)
      (named : transferId.raw ≠ 0) :
      Change guardian b (.processRecall message)
        { b.store transferId (.newRecall transferId sequence requested least reserved clock) with
          position := { b.position with
            attributedPrincipal := attributed
            recalledCustody := recalled }.openTransfer .recall transferId sequence }
  | admittedAllocation (message : Message) (transferId : Bytes32) (record : TransferRecord)
      (consented : b.Consents guardian) (held : b.Opens .allocate .quarantined transferId record)
      (fits : b.position.principal + record.authorizedAmount.raw ≤ b.maxRemotePrincipal.raw) :
      Change guardian b (.processResolve message)
        { b.store transferId { record with status := .pending } with
          position := b.position.admitTransfer }
  | admittedRecall (message : Message) (transferId : Bytes32) (record : TransferRecord)
      (reserved attributed recalled : U64) (consented : b.Consents guardian)
      (held : b.Opens .recall .quarantined transferId record)
      (reserves : Reserves b.position record.requestedRecallAmount reserved attributed recalled) :
      Change guardian b (.processResolve message)
        { b.store transferId
            { record with custodyPrincipalReserved := reserved, status := .pending } with
          position := { b.position with
            attributedPrincipal := attributed
            recalledCustody := recalled }.admitTransfer }
  | attributed (transferId : Bytes32) (record : TransferRecord) (unattributed principal total : U64)
      (consented : b.Consents guardian) (active : b.Opens .allocate .pending transferId record)
      (attributes : Attributes b record unattributed principal total)
      (short : total.raw < record.authorizedAmount.raw) :
      Change guardian b (.attributeAllocation transferId)
        { b.store transferId { record with attributedAmount := total } with
          position := { b.position with
            unattributedCustody := unattributed
            attributedPrincipal := principal } }
  | completed (transferId : Bytes32) (record : TransferRecord) (unattributed principal : U64)
      (clock : UnixTimestamp) (consented : b.Consents guardian) (active : b.Opens .allocate .pending transferId record)
      (attributes : Attributes b record unattributed principal record.authorizedAmount) :
      Change guardian b (.attributeAllocation transferId)
        { b.store transferId { record with
              attributedAmount := record.authorizedAmount
              status := .complete
              completedAt := clock } with
          position := { b.position with
            unattributedCustody := unattributed
            attributedPrincipal := principal }.completeTransfer record.transferId clock }
  | deployed (approved : Bool) (amount : U64) (call : AdapterCall)
      (unattributed attributed deployed custody : U64) (running : b.config.frozen = false)
      (hAttributed : attributed.raw + amount.raw = b.position.attributedPrincipal.raw)
      (hDeployed : deployed.raw = b.position.deployedPrincipal.raw + amount.raw)
      (reported : deployed = call.principalAfter)
      (identity : attributed.raw + b.position.recalledCustody.raw + unattributed.raw =
        custody.raw) :
      Change guardian b (.deployToStrategy approved amount call)
        { b with
          position := { b.position with
            unattributedCustody := unattributed
            attributedPrincipal := attributed
            deployedPrincipal := deployed }
          custody := custody }
  | progressed (transferId : Bytes32) (instruction : Instruction) (record record' : TransferRecord)
      (position : RemotePosition) (custody : U64) (active : b.Opens .recall .pending transferId record)
      (unwinds : Unwinds b transferId record instruction record' position custody)
      (short : record'.assetsSent.raw + record'.realizedLoss.raw <
        record'.requestedRecallAmount.raw) :
      Change guardian b instruction
        { b.store transferId record' with position := position, custody := custody }
  | settled (transferId : Bytes32) (instruction : Instruction) (record record' : TransferRecord)
      (position : RemotePosition) (custody : U64) (clock : UnixTimestamp)
      (active : b.Opens .recall .pending transferId record)
      (unwinds : Unwinds b transferId record instruction record' position custody)
      (whole : record'.assetsSent.raw + record'.realizedLoss.raw =
        record'.requestedRecallAmount.raw) :
      Change guardian b instruction
        { b.store transferId { record' with status := .complete, completedAt := clock } with
          position := position.completeTransfer record'.transferId clock, custody := custody }
  | closedPending (message : Message) (body : ResolveBody) (record : TransferRecord)
      (unattributed principal total : U64) (clock : UnixTimestamp) (ledger : TransportLedger)
      (hBody : message.body = .resolve body) (action : body.action = .close) (consented : b.Consents guardian)
      (active : b.Opens .allocate .pending body.transferId record)
      (attributes : Attributes b record unattributed principal total)
      (hLedger : b.ledger.recordClose record.authorizedAmount total record.messageSequence =
        .ok ledger) :
      Change guardian b (.processSettlement message)
        { b.store body.transferId { record with
              attributedAmount := total
              status := .closed
              completedAt := clock } with
          position := { b.position with
            unattributedCustody := unattributed
            attributedPrincipal := principal }.closeTransfer
          ledger := ledger }
  | closedHeld (message : Message) (body : ResolveBody) (record : TransferRecord)
      (clock : UnixTimestamp) (ledger : TransportLedger) (hBody : message.body = .resolve body)
      (action : body.action = .close) (consented : b.Consents guardian)
      (held : b.Opens .allocate .quarantined body.transferId record)
      (hLedger : b.ledger.recordClose record.authorizedAmount record.attributedAmount
        record.messageSequence = .ok ledger) :
      Change guardian b (.processSettlement message)
        { b.store body.transferId { record with status := .closed, completedAt := clock } with
          position := b.position.closeTransfer
          ledger := ledger }
  | closedComplete (message : Message) (body : ResolveBody) (record : TransferRecord)
      (ledger : TransportLedger) (hBody : message.body = .resolve body)
      (action : body.action = .close) (consented : b.Consents guardian)
      (stored : b.records body.transferId = some record) (kind : record.transferKind = .allocate)
      (complete : record.status = .complete) (idle : b.position.activeTransferKind = .none)
      (hLedger : b.ledger.recordClose record.authorizedAmount record.attributedAmount
        record.messageSequence = .ok ledger) :
      Change guardian b (.processSettlement message)
        { b.store body.transferId { record with status := .closed } with ledger := ledger }
  | recovered (message : Message) (body : ResolveBody) (sequence credited : U64)
      (unattributed principal : U64) (clock : UnixTimestamp) (ledger : TransportLedger)
      (hBody : message.body = .resolve body) (action : body.action = .recover)
      (consented : b.Consents guardian) (idle : b.position.activeTransferKind = .none)
      (unused : b.records body.transferId = none)
      (fits : b.position.principal + b.position.recalledCustody.raw + credited.raw ≤
        max b.maxRemotePrincipal.raw (b.position.principal + b.position.recalledCustody.raw))
      (moved : principal.raw = b.position.attributedPrincipal.raw + credited.raw)
      (identity : principal.raw + b.position.recalledCustody.raw + unattributed.raw = b.custody.raw)
      (hLedger : b.ledger.recordRecovery credited = .ok ledger) :
      Change guardian b (.processSettlement message)
        { b.store body.transferId (.newRecovery body.transferId sequence credited clock) with
          position := { b.position with
            unattributedCustody := unattributed
            attributedPrincipal := principal }
          ledger := ledger }

section Steps

variable {digests : Digests} {a a' : Accounts} {ctx : Context} {message : Message}
  {transferId : Bytes32}

namespace Accounts

theorem processAllocate_changes {hashing : Hashing}
    (success : a.processAllocate hashing ctx message = .ok a') :
    Change ctx.emergencyGuardian a.book (.processAllocate message) a'.book := by
  obtain ⟨body, hBody⟩ := processAllocate_body success
  obtain ⟨now, amount, minimum, status, -, -, unused, idle, -, -, nonzero, -, hStatus, rfl⟩ :=
    processAllocate_ok hBody success
  refine .tookAllocation message body.transferId
    { TransferRecord.newAllocation body.transferId message.header.sequence amount minimum
        body.expectedSourceBalance ctx.clock with status := status } idle unused rfl rfl rfl
    ⟨rfl, rfl, rfl, rfl, rfl, rfl⟩ ?_ nonzero
  obtain ⟨⟨-, running, fits⟩, pending⟩ | ⟨-, held⟩ := hStatus
  · exact .inl ⟨pending, running, fits⟩
  · exact .inr held

theorem processRecall_changes {hashing : Hashing}
    (success : a.processRecall hashing ctx message = .ok a') :
    Change ctx.emergencyGuardian a.book (.processRecall message) a'.book := by
  obtain ⟨body, hBody⟩ := processRecall_body success
  obtain ⟨now, amount, minimum, receives, consents, -, unused, idle, nonzero, -, -, outcome⟩ :=
    processRecall_ok hBody success
  obtain ⟨-, -, valid⟩ := bind_eq_ok.mp receives.next.valid
  rw [hBody] at valid
  simp only [RecallBody.validate, bind_eq_ok, rejectIf_eq_ok, Unsigned.isZero_iff,
    exists_const] at valid
  have named : body.transferId.raw ≠ 0 := valid.1
  obtain ⟨-, rfl⟩ | ⟨-, covered, reserved, attributed, recalled, hReserved, hAttributed, hRecalled,
    rfl⟩ := outcome
  · exact .heldRecall message body.transferId _ amount minimum _ consents idle unused nonzero named
  · exact .startedRecall message body.transferId _ amount minimum _ reserved attributed recalled
      consents idle unused nonzero ⟨covered, hReserved, hAttributed, hRecalled⟩ named

theorem processResolve_changes {hashing : Hashing}
    (success : a.processResolve hashing ctx message = .ok a') :
    Change ctx.emergencyGuardian a.book (.processResolve message) a'.book := by
  obtain ⟨now, body, resolved, -, -, -, resolves, same | consents, rfl⟩ := processResolve_ok success
  · cases same
    exact .quiet _ rfl
  · cases resolves with
    | unchanged => exact .quiet _ rfl
    | allocation record stored held kind isOpen same fits =>
        exact .admittedAllocation message body.transferId record consents
          ⟨stored, kind, held, isOpen, same.symm⟩ fits
    | «recall» record stored held kind isOpen same covered reserved attributed recalled hReserved
        hAttributed hRecalled =>
        exact .admittedRecall message body.transferId record reserved attributed recalled consents
          ⟨stored, kind, held, isOpen, same.symm⟩ ⟨covered, hReserved, hAttributed, hRecalled⟩

theorem attributeAllocation_changes (success : a.attributeAllocation ctx transferId = .ok a') :
    Change ctx.emergencyGuardian a.book (.attributeAllocation transferId) a'.book := by
  obtain ⟨record, unattributed, principal, total, consents, stored, kind, pending, isOpen, same,
    grows, within, moved, identity, rfl⟩ := attributeAllocation_ok success
  have opens : a.book.Opens .allocate .pending transferId record :=
    ⟨stored, kind, pending, isOpen, same⟩
  have attributes : Attributes a.book record unattributed principal total :=
    ⟨Nat.le_of_lt grows, within, moved, identity⟩
  unfold bookAttribution
  split
  · rename_i whole
    subst whole
    exact .completed transferId record unattributed principal _ consents opens attributes
  · rename_i short
    rw [← Unsigned.raw_inj] at short
    exact .attributed transferId record unattributed principal total consents opens attributes
      (by omega)

/-- A recall that moved on stays open or is settled. -/
theorem bookRecall_changes {instruction : Instruction} {record record' : TransferRecord}
    {position : RemotePosition} {custody escrow : U64} {guardian : Bool}
    (opens : a.book.Opens .recall .pending transferId record)
    (unwinds : Unwinds a.book transferId record instruction record' position custody)
    (within : record'.assetsSent.raw + record'.realizedLoss.raw ≤
      record'.requestedRecallAmount.raw) :
    Change guardian a.book instruction
      (a.bookRecall ctx transferId record' position custody escrow).book := by
  unfold bookRecall
  split
  · rename_i whole
    exact .settled transferId instruction record record' position custody ctx.clock opens unwinds
      whole
  · rename_i short
    exact .progressed transferId instruction record record' position custody opens unwinds
      (by omega)

theorem withdrawForRecall_changes {maximum : U64} {call : AdapterCall}
    (success : a.withdrawForRecall ctx transferId maximum call = .ok a') :
    Change ctx.emergencyGuardian a.book (.withdrawForRecall transferId maximum call) a'.book := by
  obtain ⟨record, unattributed, deployed, recalled, loss, resolved, withdrawn, recordLoss, custody,
    stored, kind, pending, isOpen, same, reported, arrived, hDeployed, hRecalled, hLoss, returned,
    lost, split, within, settles, identity, rfl⟩ := withdrawForRecall_ok success
  exact bookRecall_changes ⟨stored, kind, pending, isOpen, same⟩
    (.withdrew maximum call unattributed deployed recalled loss resolved withdrawn recordLoss custody
      reported arrived hDeployed hRecalled hLoss returned lost split within identity) settles

theorem sendRecallAssets_changes {maximum : U64}
    (success : a.sendRecallAssets ctx transferId maximum = .ok a') :
    Change ctx.emergencyGuardian a.book (.sendRecallAssets transferId maximum) a'.book := by
  obtain ⟨record, unattributed, recalled, sent, custody, escrow, stored, kind, pending, isOpen, same,
    hRecalled, grows, left, settles, identity, rfl⟩ := sendRecallAssets_ok success
  exact bookRecall_changes ⟨stored, kind, pending, isOpen, same⟩
    (.sent maximum unattributed recalled sent custody hRecalled grows left identity) settles

/-- Publishing a message touches neither the money nor its books. -/
theorem publish_book {reportType : ReportType} {related : Bytes32} {epochId : U64}
    {publishedAt : UnixTimestamp}
    (success : a.publish digests message reportType related epochId publishedAt = .ok a') :
    a'.book = a.book := by
  obtain ⟨_, _, -, -, -, -, rfl⟩ := publish_ok success
  rfl

theorem close_changes {settled : Accounts} {settlement : Settlement} {body : ResolveBody}
    (hBody : message.body = .resolve body) (action : body.action = .close)
    (consents : ctx.Consents a.config)
    (closes : a.close body a.openLedger ctx.clock = .ok (settled, settlement)) :
    Change ctx.emergencyGuardian a.book (.processSettlement message)
      { settled with ledger := some settlement.ledger }.book := by
  obtain ⟨record, record', position, ledger, stored, kind, same, -, ends, hLedger, rfl, rfl⟩ :=
    close_ok closes
  cases ends with
  | pending pending isOpen sameId unattributed principal total grows within moved identity =>
      exact .closedPending message body record unattributed principal total ctx.clock ledger hBody
        action consents ⟨stored, kind, pending, isOpen, sameId⟩ ⟨grows, within, moved, identity⟩
        hLedger
  | quarantined held isOpen sameId nothing =>
      exact .closedHeld message body record ctx.clock ledger hBody action consents
        ⟨stored, kind, held, isOpen, sameId⟩ hLedger
  | complete complete idle whole =>
      exact .closedComplete message body record ledger hBody action consents stored kind complete
        idle hLedger

theorem recover_changes {settled : Accounts} {settlement : Settlement} {body : ResolveBody}
    {sequence : U64} (hBody : message.body = .resolve body) (action : body.action = .recover)
    (consents : ctx.Consents a.config)
    (recovers : a.recover body sequence a.openLedger ctx.clock = .ok (settled, settlement)) :
    Change ctx.emergencyGuardian a.book (.processSettlement message)
      { settled with ledger := some settlement.ledger }.book := by
  obtain ⟨unattributed, principal, credited, ledger, -, -, idle, unused, fits, moved, identity,
    hLedger, rfl, rfl⟩ := recover_ok recovers
  exact .recovered message body sequence credited unattributed principal ctx.clock ledger hBody
    action consents idle unused fits moved identity hLedger

theorem processSettlement_changes (success : a.processSettlement digests ctx message = .ok a') :
    Change ctx.emergencyGuardian a.book (.processSettlement message) a'.book := by
  obtain ⟨now, body, settled, settlement, notice, noticed, hBody, -, -, consents, -, settles, -,
    published, rfl⟩ := processSettlement_ok success
  show Change _ _ _ noticed.book
  rw [publish_book published]
  cases settles with
  | closed action closes => exact close_changes hBody action consents closes
  | recovered action exists' recovers => exact recover_changes hBody action consents recovers

theorem publishRemoteReport_changes {epochId adapterPrincipal : U64} {layoutKept supplied : Bool}
    (success : a.publishRemoteReport digests ctx epochId adapterPrincipal layoutKept supplied =
      .ok a') :
    Change ctx.emergencyGuardian a.book
      (.publishRemoteReport epochId adapterPrincipal layoutKept supplied) a'.book := by
  obtain ⟨unattributed, now, principal, commitment, message, -, identity, -, published⟩ :=
    publishRemoteReport_ok success
  rw [publish_book published]
  exact .reconciled _ rfl unattributed identity

theorem publishRecallSent_changes (success : a.publishRecallSent digests ctx transferId = .ok a') :
    Change ctx.emergencyGuardian a.book (.publishRecallSent transferId) a'.book := by
  obtain ⟨record, now, sentTimestamp, message, published, marker, -, -, -, -, -, -, -, hPublished,
    rfl⟩ := publishRecallSent_ok success
  show Change _ _ _ published.book
  rw [publish_book hPublished]
  exact .quiet _ rfl

/-- Every accepted instruction is one of the changes above. -/
theorem step_changes {instruction : Instruction}
    (success : a.step digests ctx instruction = .ok a') :
    Change ctx.emergencyGuardian a.book instruction a'.book := by
  cases instruction with
  | processAllocate message => exact processAllocate_changes success
  | processRecall message => exact processRecall_changes success
  | processConfigUpdate message =>
      obtain ⟨now, body, risk, -, -, running, -, -, rfl⟩ := processConfigUpdate_ok success
      exact .updated message risk risk.configVersion running
  | processResolve message => exact processResolve_changes success
  | processSettlement message => exact processSettlement_changes success
  | attributeAllocation transferId => exact attributeAllocation_changes success
  | deployToStrategy approved amount call =>
      obtain ⟨unattributed, attributed, deployed, custody, running, hAttributed, hDeployed, reported,
        identity, rfl⟩ := deployToStrategy_ok success
      exact .deployed approved amount call unattributed attributed deployed custody running
        hAttributed hDeployed reported identity
  | withdrawForRecall transferId maximum call => exact withdrawForRecall_changes success
  | sendRecallAssets transferId maximum => exact sendRecallAssets_changes success
  | reconcileCustody =>
      obtain ⟨unattributed, -, identity, rfl⟩ := reconcileCustody_ok.mp success
      exact .reconciled _ rfl unattributed identity
  | publishRemoteReport epochId adapterPrincipal layoutKept supplied =>
      exact publishRemoteReport_changes success
  | publishRecallSent transferId => exact publishRecallSent_changes success
  | advanceReplayWatermark minimum =>
      obtain ⟨-, -, rfl⟩ := advanceReplayWatermark_ok success
      exact .quiet _ rfl
  | closeConsumedMessage sequence =>
      obtain ⟨_, -, -, rfl⟩ := closeConsumedMessage_ok success
      exact .quiet _ rfl
  | freeze =>
      cases freeze_ok success
      exact .froze
  | receiveCustody amount =>
      obtain ⟨custody, arrived, rfl⟩ := receiveCustody_ok success
      exact .received amount custody arrived
  | moveEscrow balance =>
      cases pure_eq_ok.mp success
      exact .quiet _ rfl

end Accounts

end Steps

/- Runs of the leg from its initialization. -/

/-- One instruction with its signers and the clock it saw. -/
def Accounts.accept (digests : Digests) (a : Accounts) (input : Context × Instruction) :
    Except RemoteLegError Accounts :=
  a.step digests input.1 input.2

/-- The state after some initialization and these accepted inputs. -/
def Reached (digests : Digests) (inputs : List (Context × Instruction)) (a : Accounts) : Prop :=
  ∃ setup start, Setup.create setup = .ok start ∧
    Run.run (Accounts.accept digests) start inputs = .ok a

/-- The books before any money arrived. -/
structure Book.Fresh (b : Book) : Prop where
  position : b.position = .empty
  ledger : b.ledger = .empty
  records : ∀ transferId, b.records transferId = none

theorem Setup.create_fresh {setup : Setup} {start : Accounts}
    (created : setup.create = .ok start) : start.book.Fresh := by
  simp only [Setup.create, bind_eq_ok, pure_eq_ok] at created
  obtain ⟨_, -, rfl⟩ := created
  exact ⟨rfl, rfl, fun _ => rfl⟩

section Runs

variable {digests : Digests} {a : Accounts} {inputs : List (Context × Instruction)}

/-- What holds of fresh books and survives every change holds whenever the leg has run. -/
theorem Reached.invariant (Inv : Book → Prop) (fresh : ∀ b, b.Fresh → Inv b)
    (preserved : ∀ guardian b instruction b', Change guardian b instruction b' → Inv b → Inv b')
    (reached : Reached digests inputs a) : Inv a.book := by
  obtain ⟨setup, start, created, finished⟩ := reached
  refine Run.run_preserves (fun a : Accounts => Inv a.book) ?_ inputs start finished
    (fresh _ (Setup.create_fresh created))
  intro a input a' success holds
  exact preserved _ _ _ _ (Accounts.step_changes success) holds

/-- One more accepted instruction. -/
theorem Reached.snoc {ctx : Context} {instruction : Instruction} {a' : Accounts}
    (reached : Reached digests inputs a) (success : a.step digests ctx instruction = .ok a') :
    Reached digests (inputs ++ [(ctx, instruction)]) a' := by
  obtain ⟨setup, start, created, finished⟩ := reached
  exact ⟨setup, start, created, Run.run_append.mpr ⟨a, finished, Run.run_one.mpr success⟩⟩

end Runs

/- A leg that allocates up to a thousand tokens. -/

def sampleDigests : Digests where
  messageId := fun message =>
    ⟨message.header.sequence.raw, Nat.lt_of_lt_of_le message.header.sequence.bound (by decide)⟩
  nextCommitment := fun _ messageId => messageId
  remoteState := fun _ => 1

def sampleSetup : Setup where
  outboundEscrow := 7
  sourceChainId := 1
  destinationChainId := 2
  sourceApplicationId := 1
  localApplicationId := 2
  deploymentId := 3
  vaultId := 4
  controlLaneId := 1
  reportLaneId := 2
  configVersion := 1
  maxRemoteAllocationBps := 5000
  maxUpwardDeviationBps := 100
  maxDownwardDeviationBps := 100
  maxReportAge := 600
  configCommitment := 5
  maxRemotePrincipal := 1000
  mandatoryWatermarkLag := 1
  custody := .zero
  escrow := .zero

def sampleHeader (sequence : Nat) : Header where
  sourceChain := 1
  destinationChain := 2
  sourceApplication := 1
  destinationApplication := 2
  deploymentId := 3
  vaultId := 4
  laneId := 1
  sequence := .ofNat sequence
  previousCommitment := .ofNat (sequence - 1)
  observedAt := 10
  publishedAt := 10
  expiresAt := 500

def sampleContext : Context := ⟨⟨20, by decide, by decide⟩, true, true, false⟩

def sampleAllocate (sequence amount : Nat) : Context × Instruction :=
  (sampleContext, .processAllocate ⟨sampleHeader sequence, .allocate {
    transferId := .ofNat sequence
    amount := .ofNat amount
    expectedSourceBalance := .zero
    minimumDestinationAmount := 1
    deadline := 500
    configVersion := 1 }⟩)

def sampleRecall (sequence amount : Nat) : Context × Instruction :=
  (sampleContext, .processRecall ⟨sampleHeader sequence, .recall {
    transferId := .ofNat sequence
    requestedAmount := .ofNat amount
    minimumReturnAmount := 1
    deadline := 500
    configVersion := 1 }⟩)

/-- A resolution of the numbered transfer, which was the message `target`. -/
def sampleResolve (sequence transfer target : Nat) (action : ResolveAction) :
    Context × Instruction :=
  let message : Message := ⟨sampleHeader sequence, .resolve {
    transferId := .ofNat transfer
    targetSequence := .ofNat target
    action := action
    configVersion := 1 }⟩
  (sampleContext, if action = .admitTransfer then .processResolve message else .processSettlement message)

def sampleArrival (amount : Nat) : Context × Instruction :=
  (sampleContext, .receiveCustody (.ofNat amount))

def sampleAttribution (sequence : Nat) : Context × Instruction :=
  (sampleContext, .attributeAllocation (.ofNat sequence))

/-- A deployment of `amount` that leaves `principal` with the adapter and `custody` here. -/
def sampleDeploy (amount principal custody : Nat) : Context × Instruction :=
  (sampleContext, .deployToStrategy true (.ofNat amount) {
    principalBefore := .ofNat (principal - amount)
    principalAfter := .ofNat principal
    vaultBefore := .ofNat (principal - amount)
    vaultAfter := .ofNat principal
    custodyAfter := .ofNat custody
    controlKept := true })

/-- A withdrawal of `reduction` that leaves `principal` with the adapter and returns `returned`, so
that custody holds `custody` after it. -/
def sampleWithdraw (transfer reduction principal returned custody : Nat) :
    Context × Instruction :=
  (sampleContext, .withdrawForRecall (.ofNat transfer) (.ofNat reduction) {
      principalBefore := .ofNat (principal + reduction)
      principalAfter := .ofNat principal
      vaultBefore := .ofNat (principal + returned)
      vaultAfter := .ofNat principal
      custodyAfter := .ofNat custody
      controlKept := true })

def sampleSend (transfer maximum : Nat) : Context × Instruction :=
  (sampleContext, .sendRecallAssets (.ofNat transfer) (.ofNat maximum))

/-- The sample leg after these inputs. -/
def sampleLeg (inputs : List (Context × Instruction)) : Except RemoteLegError Accounts := do
  let start ← sampleSetup.create
  Run.run (Accounts.accept sampleDigests) start inputs

theorem sampleLeg_reached {inputs : List (Context × Instruction)} {a : Accounts}
    (finished : sampleLeg inputs = .ok a) : Reached sampleDigests inputs a := by
  simp only [sampleLeg, bind_eq_ok] at finished
  obtain ⟨start, created, rest⟩ := finished
  exact ⟨sampleSetup, start, created, rest⟩

end Leg
