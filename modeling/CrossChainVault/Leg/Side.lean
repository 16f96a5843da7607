import CrossChainVault.Leg.Instructions

set_option autoImplicit false

/- The leg's side of the protocol: the sums and records the vault has to agree with, and what one
accepted instruction can do to them. -/

namespace Leg

open Result Protocol

/-- What the two chains have to agree on, as the leg sees it. -/
@[ext] structure Side where
  /-- Attributed and deployed principal together. -/
  principal : Nat
  recalled : Nat
  loss : Nat
  /-- Kind and id of the open transfer. -/
  opened : Option (TransferKind × Bytes32)
  latestCompleted : Bytes32
  impaired : Nat
  lastImpaired : Nat
  records : Bytes32 → Option TransferRecord
  /-- Recalls whose notice was published. -/
  noticed : Bytes32 → Bool

def RemotePosition.opened (p : RemotePosition) : Option (TransferKind × Bytes32) :=
  if p.activeTransferKind = .none then none else some (p.activeTransferKind, p.activeTransferId)

def Accounts.side (a : Accounts) : Side where
  principal := a.position.principal
  recalled := a.position.recalledCustody.raw
  loss := a.position.cumulativeRealizedLoss.raw
  opened := a.position.opened
  latestCompleted := a.position.latestCompletedTransferId
  impaired := a.openLedger.impairedOutstanding.raw
  lastImpaired := a.openLedger.lastImpairedSequence.raw
  records := a.transferRecords
  noticed := fun transferId => (a.recallMarkers transferId).isSome

/-- A recall that resolved, withdrew, lost or sent more than before. -/
structure RecallMoves (s : Side) (record record' : TransferRecord) (principal recalled loss : Nat) :
    Prop where
  kind : record'.transferKind = record.transferKind
  transferId : record'.transferId = record.transferId
  messageSequence : record'.messageSequence = record.messageSequence
  requested : record'.requestedRecallAmount = record.requestedRecallAmount
  reserved : record'.custodyPrincipalReserved = record.custodyPrincipalReserved
  unwound : principal + record'.strategyPrincipalResolved.raw =
    s.principal + record.strategyPrincipalResolved.raw
  custody : recalled + record.assetsWithdrawn.raw + record'.assetsSent.raw =
    s.recalled + record'.assetsWithdrawn.raw + record.assetsSent.raw
  lost : loss + record.realizedLoss.raw = s.loss + record'.realizedLoss.raw
  grows : record.realizedLoss.raw ≤ record'.realizedLoss.raw
  split : record'.strategyPrincipalResolved.raw + record.assetsWithdrawn.raw +
      record.realizedLoss.raw =
    record.strategyPrincipalResolved.raw + record'.assetsWithdrawn.raw + record'.realizedLoss.raw
  within : record'.strategyPrincipalResolved.raw = record.strategyPrincipalResolved.raw ∨
    record.custodyPrincipalReserved.raw + record'.strategyPrincipalResolved.raw ≤
      record.requestedRecallAmount.raw

/-- How a closed allocation stood: still open, or complete and not yet known to the vault. -/
inductive Closable (s : Side) (record : TransferRecord) : Prop
  | opened (isOpen : s.opened = some (.allocate, record.transferId))
      (status : record.status = .pending ∨ record.status = .quarantined)
  | complete (idle : s.opened = none) (complete : record.status = .complete)

/-- Everything one instruction can do to the leg's side, with the message it takes from the
control lane and the message it publishes. -/
inductive SideStep (s : Side) : Option Message → Option Message → Side → Prop
  | quiet : SideStep s none none s
  | tookAllocation (message : Message) (body : AllocateBody) (record : TransferRecord)
      (hBody : message.body = .allocate body) (idle : s.opened = none)
      (unrecorded : s.records body.transferId = none) (kind : record.transferKind = .allocate)
      (same : record.transferId = body.transferId)
      (sequence : record.messageSequence = message.header.sequence)
      (authorized : record.authorizedAmount.raw = body.amount.raw)
      (nothing : record.attributedAmount.raw = 0)
      (status : record.status = .pending ∨ record.status = .quarantined) :
      SideStep s (some message) none { s with
        opened := some (.allocate, body.transferId)
        records := Function.update s.records body.transferId (some record) }
  | tookRecall (message : Message) (body : RecallBody) (record : TransferRecord)
      (hBody : message.body = .recall body) (idle : s.opened = none)
      (unrecorded : s.records body.transferId = none) (kind : record.transferKind = .recall)
      (same : record.transferId = body.transferId)
      (requested : record.requestedRecallAmount.raw = body.requestedAmount.raw)
      (reserved : record.custodyPrincipalReserved.raw ≤ record.requestedRecallAmount.raw)
      (covered : record.custodyPrincipalReserved.raw ≤ s.principal)
      (nothing : record.strategyPrincipalResolved.raw = 0 ∧ record.assetsWithdrawn.raw = 0 ∧
        record.assetsSent.raw = 0 ∧ record.realizedLoss.raw = 0)
      (status : record.status = .pending ∨
        record.status = .quarantined ∧ record.custodyPrincipalReserved.raw = 0) :
      SideStep s (some message) none { s with
        principal := s.principal - record.custodyPrincipalReserved.raw
        recalled := s.recalled + record.custodyPrincipalReserved.raw
        opened := some (.recall, body.transferId)
        records := Function.update s.records body.transferId (some record) }
  | ignored (message : Message) (body : ResolveBody) (hBody : message.body = .resolve body)
      (action : body.action = .admitTransfer) : SideStep s (some message) none s
  | admittedAllocation (message : Message) (body : ResolveBody) (record : TransferRecord)
      (hBody : message.body = .resolve body) (action : body.action = .admitTransfer)
      (stored : s.records body.transferId = some record)
      (isOpen : s.opened = some (.allocate, record.transferId))
      (held : record.status = .quarantined) :
      SideStep s (some message) none { s with
        records := Function.update s.records body.transferId
          (some { record with status := .pending }) }
  | admittedRecall (message : Message) (body : ResolveBody) (record : TransferRecord)
      (hBody : message.body = .resolve body) (action : body.action = .admitTransfer)
      (stored : s.records body.transferId = some record)
      (isOpen : s.opened = some (.recall, record.transferId))
      (held : record.status = .quarantined) (reserved : U64)
      (within : reserved.raw ≤ record.requestedRecallAmount.raw)
      (covered : reserved.raw ≤ s.principal) :
      SideStep s (some message) none { s with
        principal := s.principal - reserved.raw
        recalled := s.recalled + reserved.raw
        records := Function.update s.records body.transferId
          (some { record with custodyPrincipalReserved := reserved, status := .pending }) }
  | attributed (transferId : Bytes32) (record : TransferRecord) (total : U64)
      (stored : s.records transferId = some record)
      (isOpen : s.opened = some (.allocate, record.transferId))
      (pending : record.status = .pending)
      (grows : record.attributedAmount.raw ≤ total.raw)
      (short : total.raw < record.authorizedAmount.raw) :
      SideStep s none none { s with
        principal := s.principal + (total.raw - record.attributedAmount.raw)
        records := Function.update s.records transferId
          (some { record with attributedAmount := total }) }
  | completed (transferId : Bytes32) (record record' : TransferRecord)
      (stored : s.records transferId = some record)
      (isOpen : s.opened = some (.allocate, record.transferId))
      (pending : record.status = .pending)
      (within : record.attributedAmount.raw ≤ record.authorizedAmount.raw)
      (kind : record'.transferKind = record.transferKind)
      (same : record'.transferId = record.transferId)
      (sequence : record'.messageSequence = record.messageSequence)
      (authorized : record'.authorizedAmount = record.authorizedAmount)
      (whole : record'.attributedAmount = record.authorizedAmount)
      (complete : record'.status = .complete) :
      SideStep s none none { s with
        principal := s.principal +
          (record.authorizedAmount.raw - record.attributedAmount.raw)
        opened := none
        latestCompleted := record.transferId
        records := Function.update s.records transferId (some record') }
  | progressed (transferId : Bytes32) (record record' : TransferRecord)
      (principal recalled loss : Nat) (stored : s.records transferId = some record)
      (isOpen : s.opened = some (.recall, record.transferId))
      (pending : record.status = .pending) (pending' : record'.status = .pending)
      (moves : RecallMoves s record record' principal recalled loss) :
      SideStep s none none { s with
        principal := principal
        recalled := recalled
        loss := loss
        records := Function.update s.records transferId (some record') }
  | settled (transferId : Bytes32) (record record' : TransferRecord)
      (principal recalled loss : Nat) (stored : s.records transferId = some record)
      (isOpen : s.opened = some (.recall, record.transferId))
      (pending : record.status = .pending) (complete : record'.status = .complete)
      (moves : RecallMoves s record record' principal recalled loss)
      (whole : record'.assetsSent.raw + record'.realizedLoss.raw =
        record'.requestedRecallAmount.raw) :
      SideStep s none none { s with
        principal := principal
        recalled := recalled
        loss := loss
        opened := none
        latestCompleted := record.transferId
        records := Function.update s.records transferId (some record') }
  | closed (message notice : Message) (body : ResolveBody) (settlement : TransportSettlementBody)
      (record record' : TransferRecord) (credited : Nat) (hBody : message.body = .resolve body)
      (action : body.action = .close) (hNotice : notice.body = .transportSettlement settlement)
      (stored : s.records body.transferId = some record)
      (kind : record.transferKind = .allocate) (same : record.transferId = body.transferId)
      (target : record.messageSequence = body.targetSequence) (closable : Closable s record)
      (grows : record.attributedAmount.raw ≤ credited)
      (within : credited ≤ record.authorizedAmount.raw)
      (kind' : record'.transferKind = .allocate) (same' : record'.transferId = record.transferId)
      (closed : record'.status = .closed)
      (names : settlement.transferId = body.transferId ∧ settlement.kind = .closed)
      (claims : settlement.claimAmount.raw = record.authorizedAmount.raw ∧
        settlement.creditedAmount.raw = credited ∧
        settlement.impairedOutstanding.raw =
          s.impaired + (record.authorizedAmount.raw - credited)) :
      SideStep s (some message) (some notice) { s with
        principal := s.principal + (credited - record.attributedAmount.raw)
        opened := none
        impaired := s.impaired + (record.authorizedAmount.raw - credited)
        lastImpaired := if record.authorizedAmount.raw = credited then s.lastImpaired
          else record.messageSequence.raw
        records := Function.update s.records body.transferId (some record') }
  | recovered (message notice : Message) (body : ResolveBody) (settlement : TransportSettlementBody)
      (record : TransferRecord) (credited : Nat) (hBody : message.body = .resolve body)
      (action : body.action = .recover) (hNotice : notice.body = .transportSettlement settlement)
      (idle : s.opened = none) (unrecorded : s.records body.transferId = none)
      (kind : record.transferKind = .recover) (same : record.transferId = body.transferId)
      (within : credited ≤ s.impaired)
      (names : settlement.transferId = body.transferId ∧ settlement.kind = .recovered)
      (claims : settlement.claimAmount.raw = s.impaired ∧
        settlement.creditedAmount.raw = credited ∧
        settlement.impairedOutstanding.raw = s.impaired - credited) :
      SideStep s (some message) (some notice) { s with
        principal := s.principal + credited
        impaired := s.impaired - credited
        records := Function.update s.records body.transferId (some record) }
  | reported (message : Message) (body : RemoteReportBody)
      (hBody : message.body = .remoteReport body) (loss : body.realizedLoss.raw = s.loss)
      (names : body.latestCompletedTransferId = s.latestCompleted) :
      SideStep s none (some message) s
  | notified (message : Message) (body : RecallSentBody) (transferId : Bytes32)
      (record : TransferRecord) (hBody : message.body = .recallSent body)
      (stored : s.records transferId = some record) (kind : record.transferKind = .recall)
      (complete : record.status = .complete) (unnoticed : s.noticed record.transferId = false)
      (whole : record.assetsSent.raw + record.realizedLoss.raw =
        record.requestedRecallAmount.raw)
      (names : body.transferId = record.transferId)
      (amounts : body.principalSent.raw = record.requestedRecallAmount.raw ∧
        body.actualAmountSent.raw = record.assetsSent.raw ∧
        body.realizedLoss.raw = record.realizedLoss.raw) :
      SideStep s none (some message) { s with
        noticed := Function.update s.noticed record.transferId true }

/-- The configuration version a report, a notice or a settlement carries. -/
def reportVersion (message : Message) : Option U64 :=
  match message.body with
  | .remoteReport body => some body.configVersion
  | .recallSent body => some body.configVersion
  | .transportSettlement body => some body.configVersion
  | _ => none

/-- A message as the leg publishes it next. -/
structure Sends (a : Accounts) (message : Message) : Prop where
  lane : a.outbound.laneId = a.config.reportLaneId
  header : ∃ now expiresAt, message.header = a.nextHeader now expiresAt
  valid : message.validate = .ok ()
  version : reportVersion message = some a.config.configVersion
  destination : ∀ body, message.body = .recallSent body →
    body.destinationReference = a.config.outboundEscrow

/-- What an instruction does to the two lanes. Everything else in the configuration is fixed. -/
structure Moves (digests : Digests) (a : Accounts) (taken sent : Option Message) (a' : Accounts) :
    Prop where
  config : a'.config = { a.config with frozen := a'.config.frozen }
  risk : a'.risk = a.risk
  maxRemotePrincipal : a'.maxRemotePrincipal = a.maxRemotePrincipal
  controlLane : a'.control.laneId = a.control.laneId
  reportLane : a'.outbound.laneId = a.outbound.laneId
  took : match taken with
    | none => a'.control.highestConsumedSequence = a.control.highestConsumedSequence ∧
        a'.control.messageCommitment = a.control.messageCommitment
    | some message =>
        message.header.sequence.raw = a.control.highestConsumedSequence.raw + 1 ∧
        a'.control.highestConsumedSequence = message.header.sequence ∧
        a'.control.messageCommitment =
          digests.toHashing.extend a.control.messageCommitment message
  published : match sent with
    | none => a'.outbound = a.outbound ∧ a'.published = a.published
    | some message => Sends a message ∧
        a'.outbound.nextSequence.raw = a.outbound.nextSequence.raw + 1 ∧
        a'.outbound.currentCommitment =
          digests.toHashing.extend a.outbound.currentCommitment message ∧
        a'.published = a.published ++ [message]

/-- The two views of one accepted instruction. -/
structure Acts (digests : Digests) (a : Accounts) (taken sent : Option Message) (a' : Accounts) :
    Prop where
  side : SideStep a.side taken sent a'.side
  moves : Moves digests a taken sent a'

/-- The control message an instruction takes. -/
def Instruction.delivered : Instruction → Option Message
  | .processAllocate message => some message
  | .processRecall message => some message
  | .processConfigUpdate message => some message
  | .processResolve message => some message
  | .processSettlement message => some message
  | _ => none

theorem SideStep.congr {s s' s'' : Side} {taken sent : Option Message}
    (step : SideStep s taken sent s') (same : s'' = s') : SideStep s taken sent s'' := by
  rw [same]
  exact step

namespace RemotePosition

variable {p : RemotePosition}

theorem opened_eq_none : p.opened = none ↔ p.activeTransferKind = .none := by
  simp [opened]

theorem opened_of_kind {kind : TransferKind} {transferId : Bytes32} (isOpen : kind ≠ .none)
    (hKind : p.activeTransferKind = kind) (hId : p.activeTransferId = transferId) :
    p.opened = some (kind, transferId) := by
  simp [opened, hKind, hId, isOpen]

end RemotePosition

namespace Accounts

variable {hashing : Hashing} {digests : Digests} {a a' : Accounts} {ctx : Context}
  {message : Message} {transferId : Bytes32}

/-- An instruction that touches neither the lanes nor what the vault sees. -/
theorem acts_quiet (sameSide : a'.side = a.side)
    (config : a'.config = { a.config with frozen := a'.config.frozen }) (risk : a'.risk = a.risk)
    (ceiling : a'.maxRemotePrincipal = a.maxRemotePrincipal)
    (control : a'.control.laneId = a.control.laneId ∧
      a'.control.highestConsumedSequence = a.control.highestConsumedSequence ∧
      a'.control.messageCommitment = a.control.messageCommitment)
    (outbound : a'.outbound = a.outbound) (published : a'.published = a.published) :
    Acts digests a none none a' where
  side := by
    rw [sameSide]
    exact .quiet
  moves := {
    config := config
    risk := risk
    maxRemotePrincipal := ceiling
    controlLane := control.1
    reportLane := by rw [outbound]
    took := control.2
    published := ⟨outbound, published⟩ }

/-- An instruction that touches neither lane. -/
theorem acts_local (side : SideStep a.side none none a'.side) (config : a'.config = a.config)
    (risk : a'.risk = a.risk) (ceiling : a'.maxRemotePrincipal = a.maxRemotePrincipal)
    (control : a'.control = a.control) (outbound : a'.outbound = a.outbound)
    (published : a'.published = a.published) : Acts digests a none none a' where
  side := side
  moves := {
    config := by rw [config]
    risk := risk
    maxRemotePrincipal := ceiling
    controlLane := by rw [control]
    reportLane := by rw [outbound]
    took := ⟨by rw [control], by rw [control]⟩
    published := ⟨outbound, published⟩ }

/-- An instruction that takes a control message and publishes nothing. -/
theorem acts_took {messageClass : MessageClass} {now : U64}
    (receives : a.Receives ctx message messageClass now)
    (side : SideStep a.side (some message) none a'.side)
    (config : a'.config = a.config) (risk : a'.risk = a.risk)
    (ceiling : a'.maxRemotePrincipal = a.maxRemotePrincipal)
    (control : a'.control = { a.control with
      highestConsumedSequence := message.header.sequence
      messageCommitment := digests.toHashing.extend a.control.messageCommitment message })
    (outbound : a'.outbound = a.outbound) (published : a'.published = a.published) :
    Acts digests a (some message) none a' where
  side := side
  moves := {
    config := by rw [config]
    risk := risk
    maxRemotePrincipal := ceiling
    controlLane := by rw [control]
    reportLane := by rw [outbound]
    took := ⟨receives.next.sequence, by rw [control], by rw [control]⟩
    published := ⟨outbound, published⟩ }

theorem processAllocate_acts
    (success : a.processAllocate digests.toHashing ctx message = .ok a') :
    Acts digests a (some message) none a' := by
  obtain ⟨body, hBody⟩ := processAllocate_body success
  obtain ⟨now, amount, minimum, status, receives, -, unused, idle, hAmount, -, -, -, hStatus, rfl⟩ :=
    processAllocate_ok hBody success
  refine acts_took receives ?_ rfl rfl rfl rfl rfl rfl
  have step := SideStep.tookAllocation (s := a.side) message body
    { TransferRecord.newAllocation body.transferId message.header.sequence amount minimum
        body.expectedSourceBalance ctx.clock with status := status } hBody
    (RemotePosition.opened_eq_none.mpr idle) unused rfl rfl rfl hAmount rfl
    (hStatus.imp And.right And.right)
  exact step

theorem processRecall_acts (success : a.processRecall digests.toHashing ctx message = .ok a') :
    Acts digests a (some message) none a' := by
  obtain ⟨body, hBody⟩ := processRecall_body success
  obtain ⟨now, amount, minimum, receives, -, -, unused, idle, -, hAmount, -, ⟨-, rfl⟩ | ⟨-, covered,
    reserved, attributed, recalled, hReserved, hAttributed, hRecalled, rfl⟩⟩ :=
    processRecall_ok hBody success
  · refine acts_took receives ?_ rfl rfl rfl rfl rfl rfl
    have step := SideStep.tookRecall (s := a.side) message body
      (TransferRecord.newRecall body.transferId message.header.sequence amount minimum .zero
        ctx.clock).quarantined hBody (RemotePosition.opened_eq_none.mpr idle) unused rfl rfl hAmount
      (Nat.zero_le _) (Nat.zero_le _) ⟨rfl, rfl, rfl, rfl⟩ (.inr ⟨rfl, rfl⟩)
    exact step
  · refine acts_took receives ?_ rfl rfl rfl rfl rfl rfl
    have step := SideStep.tookRecall (s := a.side) message body
      (TransferRecord.newRecall body.transferId message.header.sequence amount minimum reserved
        ctx.clock) hBody (RemotePosition.opened_eq_none.mpr idle) unused rfl rfl hAmount
      (by show reserved.raw ≤ amount.raw; omega)
      (by show reserved.raw ≤ a.position.attributedPrincipal.raw + _; omega)
      ⟨rfl, rfl, rfl, rfl⟩ (.inl rfl)
    refine step.congr (Side.ext ?_ hRecalled rfl rfl rfl rfl rfl rfl rfl)
    show attributed.raw + a.position.deployedPrincipal.raw =
      a.position.attributedPrincipal.raw + a.position.deployedPrincipal.raw - reserved.raw
    omega

theorem processResolve_acts (success : a.processResolve digests.toHashing ctx message = .ok a') :
    Acts digests a (some message) none a' := by
  obtain ⟨now, body, resolved, hBody, action, receives, resolves, -, rfl⟩ :=
    processResolve_ok success
  cases resolves with
  | unchanged => exact acts_took receives (.ignored message body hBody action) rfl rfl rfl rfl rfl rfl
  | allocation record stored held kind isOpen same fits =>
      refine acts_took receives ?_ rfl rfl rfl rfl rfl rfl
      have step := SideStep.admittedAllocation (s := a.side) message body record hBody action stored
        (RemotePosition.opened_of_kind nofun isOpen same.symm) held
      exact step
  | «recall» record stored held kind isOpen same covered reserved attributed recalled hReserved
      hAttributed hRecalled =>
      refine acts_took receives ?_ rfl rfl rfl rfl rfl rfl
      have step := SideStep.admittedRecall (s := a.side) message body record hBody action stored
        (RemotePosition.opened_of_kind nofun isOpen same.symm) held reserved (by omega)
        (by show reserved.raw ≤ a.position.attributedPrincipal.raw + _; omega)
      refine step.congr (Side.ext ?_ hRecalled rfl rfl rfl rfl rfl rfl rfl)
      show attributed.raw + a.position.deployedPrincipal.raw =
        a.position.attributedPrincipal.raw + a.position.deployedPrincipal.raw - reserved.raw
      omega

theorem attributeAllocation_acts (success : a.attributeAllocation ctx transferId = .ok a') :
    Acts digests a none none a' := by
  obtain ⟨record, unattributed, principal, total, -, stored, kind, pending, isOpen, same, grows, within,
    hPrincipal, identity, rfl⟩ := attributeAllocation_ok success
  have opened : a.position.opened = some (.allocate, record.transferId) :=
    RemotePosition.opened_of_kind nofun isOpen same
  unfold bookAttribution
  split
  · rename_i whole
    refine acts_local ?_ rfl rfl rfl rfl rfl rfl
    have step := SideStep.completed (s := a.side) transferId record
      { record with attributedAmount := total, status := .complete, completedAt := ctx.clock } stored
      opened pending (by omega) rfl rfl rfl rfl whole rfl
    refine step.congr (Side.ext ?_ rfl rfl rfl rfl rfl rfl rfl rfl)
    show principal.raw + a.position.deployedPrincipal.raw =
      a.position.attributedPrincipal.raw + a.position.deployedPrincipal.raw +
        (record.authorizedAmount.raw - record.attributedAmount.raw)
    rw [← whole]
    omega
  · rename_i short
    rw [← Unsigned.raw_inj] at short
    refine acts_local ?_ rfl rfl rfl rfl rfl rfl
    have step := SideStep.attributed (s := a.side) transferId record total stored opened pending
      (by omega) (by omega)
    refine step.congr (Side.ext ?_ rfl rfl rfl rfl rfl rfl rfl rfl)
    show principal.raw + a.position.deployedPrincipal.raw =
      a.position.attributedPrincipal.raw + a.position.deployedPrincipal.raw +
        (total.raw - record.attributedAmount.raw)
    omega

theorem deployToStrategy_acts {approved : Bool} {amount : U64} {call : AdapterCall}
    (success : a.deployToStrategy approved amount call = .ok a') :
    Acts digests a none none a' := by
  obtain ⟨unattributed, attributed, deployed, custody, -, hAttributed, hDeployed, -, -, rfl⟩ :=
    deployToStrategy_ok success
  refine acts_quiet (Side.ext ?_ rfl rfl rfl rfl rfl rfl rfl rfl) rfl rfl rfl ⟨rfl, rfl, rfl⟩ rfl rfl
  show attributed.raw + deployed.raw =
    a.position.attributedPrincipal.raw + a.position.deployedPrincipal.raw
  omega

/-- The two ways a recall moves on: it stays open, or that was all. -/
theorem bookRecall_acts {record record' : TransferRecord} {position : RemotePosition}
    {custody escrow : U64} (stored : a.transferRecords transferId = some record)
    (pending : record.status = .pending) (pending' : record'.status = .pending)
    (isOpen : a.position.opened = some (.recall, record.transferId))
    (opened : position.opened = a.position.opened)
    (latest : position.latestCompletedTransferId = a.position.latestCompletedTransferId)
    (moves : RecallMoves a.side record record' position.principal position.recalledCustody.raw
      position.cumulativeRealizedLoss.raw) :
    Acts digests a none none (a.bookRecall ctx transferId record' position custody escrow) := by
  unfold bookRecall
  split
  · rename_i whole
    refine acts_local ?_ rfl rfl rfl rfl rfl rfl
    have step := SideStep.settled transferId record
      { record' with status := .complete, completedAt := ctx.clock } _ _ _ stored isOpen pending rfl
      { moves with } whole
    exact step.congr (Side.ext rfl rfl rfl rfl moves.transferId rfl rfl rfl rfl)
  · refine acts_local ?_ rfl rfl rfl rfl rfl rfl
    have step := SideStep.progressed transferId record record' _ _ _ stored isOpen pending pending'
      moves
    exact step.congr (Side.ext rfl rfl rfl opened latest rfl rfl rfl rfl)

theorem withdrawForRecall_acts {maximum : U64} {call : AdapterCall}
    (success : a.withdrawForRecall ctx transferId maximum call = .ok a') :
    Acts digests a none none a' := by
  obtain ⟨record, unattributed, deployed, recalled, loss, resolved, withdrawn, recordLoss, custody,
    stored, kind, pending, isOpen, same, -, -, hDeployed, hRecalled, hLoss, hWithdrawn, hGrows,
    hSplit, within, -, -, rfl⟩ := withdrawForRecall_ok success
  refine bookRecall_acts stored pending pending (RemotePosition.opened_of_kind nofun isOpen same) rfl
    rfl ⟨rfl, rfl, rfl, rfl, rfl, ?_, ?_, hLoss, hGrows, hSplit, .inr within⟩
  · show a.position.attributedPrincipal.raw + deployed.raw + resolved.raw =
      a.position.attributedPrincipal.raw + a.position.deployedPrincipal.raw + _
    omega
  · show recalled.raw + record.assetsWithdrawn.raw + record.assetsSent.raw =
      a.position.recalledCustody.raw + withdrawn.raw + record.assetsSent.raw
    omega

theorem sendRecallAssets_acts {maximum : U64}
    (success : a.sendRecallAssets ctx transferId maximum = .ok a') :
    Acts digests a none none a' := by
  obtain ⟨record, unattributed, recalled, sent, custody, escrow, stored, kind, pending, isOpen, same,
    hRecalled, hSent, -, -, -, rfl⟩ := sendRecallAssets_ok success
  refine bookRecall_acts stored pending pending (RemotePosition.opened_of_kind nofun isOpen same) rfl
    rfl ⟨rfl, rfl, rfl, rfl, rfl, rfl, ?_, rfl, Nat.le_refl _, rfl, .inl rfl⟩
  show recalled.raw + record.assetsWithdrawn.raw + sent.raw =
    a.position.recalledCustody.raw + record.assetsWithdrawn.raw + record.assetsSent.raw
  omega

theorem publishRemoteReport_acts {epochId adapterPrincipal : U64} {layoutKept supplied : Bool}
    (success : a.publishRemoteReport digests ctx epochId adapterPrincipal layoutKept supplied =
      .ok a') : ∃ sent, Acts digests a none (some sent) a' := by
  obtain ⟨unattributed, now, principal, commitment, notice, lane, -, built, published⟩ :=
    publishRemoteReport_ok success
  obtain ⟨expiresAt, -, rfl, valid⟩ := build_ok.mp built
  obtain ⟨outbound, record, -, hLane, hNext, hCommitment, rfl⟩ := publish_ok published
  refine ⟨_, .reported _ _ rfl rfl rfl, rfl, rfl, rfl, rfl, hLane, ⟨rfl, rfl⟩, ?_, hNext, hCommitment,
    rfl⟩
  exact ⟨lane, ⟨now, expiresAt, rfl⟩, valid, rfl, nofun⟩

theorem publishRecallSent_acts (success : a.publishRecallSent digests ctx transferId = .ok a') :
    ∃ sent, Acts digests a none (some sent) a' := by
  obtain ⟨record, now, sentTimestamp, notice, published, marker, stored, lane, kind, complete, whole,
    unnoticed, built, hPublished, rfl⟩ := publishRecallSent_ok success
  obtain ⟨expiresAt, -, rfl, valid⟩ := build_ok.mp built
  obtain ⟨outbound, entry, -, hLane, hNext, hCommitment, rfl⟩ := publish_ok hPublished
  refine ⟨_, ?_, rfl, rfl, rfl, rfl, hLane, ⟨rfl, rfl⟩, ?_, hNext, hCommitment, rfl⟩
  · have step := SideStep.notified (s := a.side)
      ⟨a.nextHeader now expiresAt, .recallSent (a.recallSentBody record sentTimestamp)⟩
      (a.recallSentBody record sentTimestamp) transferId record rfl stored kind complete
      (by show (a.recallMarkers record.transferId).isSome = false; rw [unnoticed]; rfl) whole rfl
      ⟨rfl, rfl, rfl⟩
    refine step.congr (Side.ext rfl rfl rfl rfl rfl rfl rfl rfl ?_)
    funext other
    show (Function.update a.recallMarkers record.transferId (some marker) other).isSome =
      Function.update (fun id => (a.recallMarkers id).isSome) record.transferId true other
    by_cases here : other = record.transferId
    · subst here
      simp
    · simp [here]
  · refine ⟨lane, ⟨now, expiresAt, rfl⟩, valid, rfl, ?_⟩
    intro body same
    cases same
    rfl

/-- The lanes after a settlement: its message was taken and its notice published. -/
theorem settlement_moves {settled noticed : Accounts} {settlement : Settlement} {notice : Message}
    {body : ResolveBody} {now : U64} (receives : a.Receives ctx message .resolve now)
    (lane : a.outbound.laneId = a.config.reportLaneId)
    (config : settled.config = a.config) (risk : settled.risk = a.risk)
    (ceiling : settled.maxRemotePrincipal = a.maxRemotePrincipal)
    (control : settled.control = a.control) (outbound : settled.outbound = a.outbound)
    (published : settled.published = a.published)
    (built : { settled with ledger := some settlement.ledger }.build now (.transportSettlement
      (settlementBody { settled with ledger := some settlement.ledger } body.transferId
        settlement)) = .ok notice)
    (sent : { settled with ledger := some settlement.ledger }.publish digests notice
      .transportSettlement body.transferId .zero ctx.clock = .ok noticed) :
    Moves digests a (some message) (some notice)
      (noticed.consume digests.toHashing .resolve message) := by
  obtain ⟨expiresAt, -, rfl, valid⟩ := build_ok.mp built
  obtain ⟨outbound', entry, -, hLane, hNext, hCommitment, rfl⟩ := publish_ok sent
  refine ⟨?_, risk, ceiling, ?_, ?_, ?_, ?_, ?_, ?_, ?_⟩
  · show settled.config = { a.config with frozen := settled.config.frozen }
    rw [config]
  · show settled.control.laneId = a.control.laneId
    rw [control]
  · rw [← outbound]
    exact hLane
  · refine ⟨receives.next.sequence, rfl, ?_⟩
    show digests.toHashing.extend settled.control.messageCommitment message = _
    rw [control]
  · refine ⟨lane, ⟨now, expiresAt, ?_⟩, valid, ?_, nofun⟩
    · show nextHeader { settled with ledger := some settlement.ledger } now expiresAt = _
      simp only [nextHeader, config, outbound]
    · show some settled.config.configVersion = some a.config.configVersion
      rw [config]
  · rw [← outbound]
    exact hNext
  · rw [← outbound]
    exact hCommitment
  · show settled.published ++ _ = a.published ++ _
    rw [published]

theorem close_side {settled : Accounts} {settlement : Settlement} {notice : Message}
    {body : ResolveBody} (hBody : message.body = .resolve body) (action : body.action = .close)
    (closes : a.close body a.openLedger ctx.clock = .ok (settled, settlement))
    (hNotice : notice.body = .transportSettlement
      (settlementBody { settled with ledger := some settlement.ledger } body.transferId
        settlement)) :
    SideStep a.side (some message) (some notice)
      { settled with ledger := some settlement.ledger }.side := by
  obtain ⟨record, record', position, ledger, stored, kind, same, target, ends, hLedger, rfl, rfl⟩ :=
    close_ok closes
  obtain ⟨claim, credit, impaired, total, within, -, -, hImpaired, -, rfl, -⟩ :=
    TransportLedger.recordClose_ok.mp hLedger
  have sequence : record'.messageSequence = record.messageSequence := by
    cases ends <;> rfl
  have authorized : record'.authorizedAmount = record.authorizedAmount := by
    cases ends <;> rfl
  have kind' : record'.transferKind = record.transferKind := by
    cases ends <;> rfl
  have same' : record'.transferId = record.transferId := by
    cases ends <;> rfl
  have recalled : position.recalledCustody = a.position.recalledCustody := by
    cases ends <;> rfl
  have loss : position.cumulativeRealizedLoss = a.position.cumulativeRealizedLoss := by
    cases ends <;> rfl
  have latest : position.latestCompletedTransferId = a.position.latestCompletedTransferId := by
    cases ends <;> rfl
  have opened : position.opened = none := by
    cases ends with
    | pending => rfl
    | quarantined => rfl
    | complete complete idle whole => exact RemotePosition.opened_eq_none.mpr idle
  have closable : Closable a.side record := by
    cases ends with
    | pending pending isOpen same =>
        exact .opened (RemotePosition.opened_of_kind nofun isOpen same) (.inl pending)
    | quarantined held isOpen same nothing =>
        exact .opened (RemotePosition.opened_of_kind nofun isOpen same) (.inr held)
    | complete complete idle whole =>
        exact .complete (RemotePosition.opened_eq_none.mpr idle) complete
  have principal : record.attributedAmount.raw ≤ record'.attributedAmount.raw ∧
      position.principal = a.position.principal +
        (record'.attributedAmount.raw - record.attributedAmount.raw) := by
    cases ends with
    | pending pending isOpen same unattributed attributed total grows within moved identity =>
        refine ⟨grows, ?_⟩
        show attributed.raw + a.position.deployedPrincipal.raw =
          a.position.attributedPrincipal.raw + a.position.deployedPrincipal.raw +
            (total.raw - record.attributedAmount.raw)
        omega
    | quarantined held isOpen same nothing =>
        refine ⟨Nat.le_refl _, ?_⟩
        show a.position.principal = a.position.principal + (record.attributedAmount.raw - _)
        omega
    | complete complete idle whole => exact ⟨Nat.le_refl _, by omega⟩
  rw [authorized] at within hImpaired
  have step := SideStep.closed (s := a.side) message notice body _ record
    { record' with status := .closed } record'.attributedAmount.raw hBody action hNotice stored kind
    same target closable principal.1 within (kind'.trans kind) same' rfl ⟨rfl, rfl⟩
    ⟨congrArg Unsigned.raw authorized, rfl, hImpaired⟩
  refine step.congr (Side.ext principal.2 (congrArg Unsigned.raw recalled)
    (congrArg Unsigned.raw loss) opened latest hImpaired ?_ rfl rfl)
  show Unsigned.raw (if record'.authorizedAmount.raw = record'.attributedAmount.raw then
      a.openLedger.lastImpairedSequence else record'.messageSequence) =
    if record.authorizedAmount.raw = record'.attributedAmount.raw then
      a.openLedger.lastImpairedSequence.raw else record.messageSequence.raw
  rw [authorized, sequence]
  split
  · rfl
  · rfl

theorem recover_side {settled : Accounts} {settlement : Settlement} {notice : Message}
    {body : ResolveBody} (hBody : message.body = .resolve body) (action : body.action = .recover)
    {sequence : U64}
    (recovers : a.recover body sequence a.openLedger ctx.clock = .ok (settled, settlement))
    (hNotice : notice.body = .transportSettlement
      (settlementBody { settled with ledger := some settlement.ledger } body.transferId
        settlement)) :
    SideStep a.side (some message) (some notice)
      { settled with ledger := some settlement.ledger }.side := by
  obtain ⟨unattributed, principal, credited, ledger, -, -, idle, unused, -, hPrincipal, -, hLedger,
    rfl, rfl⟩ := recover_ok recovers
  obtain ⟨impaired, recovered, total, hImpaired, -, -, rfl, -⟩ :=
    TransportLedger.recordRecovery_ok.mp hLedger
  have left : impaired.raw = a.openLedger.impairedOutstanding.raw - credited.raw := by omega
  have step := SideStep.recovered (s := a.side) message notice body _
    (.newRecovery body.transferId sequence credited ctx.clock) credited.raw hBody action hNotice
    (RemotePosition.opened_eq_none.mpr idle) unused rfl rfl
    (by show credited.raw ≤ a.openLedger.impairedOutstanding.raw; omega) ⟨rfl, rfl⟩ ⟨rfl, rfl, left⟩
  refine step.congr (Side.ext ?_ rfl rfl rfl rfl left rfl rfl rfl)
  show principal.raw + a.position.deployedPrincipal.raw =
    a.position.attributedPrincipal.raw + a.position.deployedPrincipal.raw + credited.raw
  omega

theorem processSettlement_acts (success : a.processSettlement digests ctx message = .ok a') :
    ∃ sent, Acts digests a (some message) (some sent) a' := by
  obtain ⟨now, body, settled, settlement, notice, noticed, hBody, receives, lane, -, -, settles,
    built, published, rfl⟩ := processSettlement_ok success
  have hNotice : notice.body = .transportSettlement
      (settlementBody { settled with ledger := some settlement.ledger } body.transferId
        settlement) := by
    obtain ⟨_, -, rfl, -⟩ := build_ok.mp built
    rfl
  -- Publishing and consuming leave the leg's side as the settlement left it.
  have same : (noticed.consume digests.toHashing .resolve message).side =
      { settled with ledger := some settlement.ledger }.side := by
    obtain ⟨_, _, -, -, -, -, rfl⟩ := publish_ok published
    rfl
  refine ⟨notice, ?_, ?_⟩
  · rw [same]
    cases settles with
    | closed action closes => exact close_side hBody action closes hNotice
    | recovered action exists' recovers => exact recover_side hBody action recovers hNotice
  · obtain ⟨config, risk, ceiling, control, outbound, same'⟩ : settled.config = a.config ∧
        settled.risk = a.risk ∧ settled.maxRemotePrincipal = a.maxRemotePrincipal ∧
        settled.control = a.control ∧ settled.outbound = a.outbound ∧
        settled.published = a.published := by
      cases settles with
      | closed action closes =>
          obtain ⟨_, _, _, _, -, -, -, -, -, -, rfl, -⟩ := close_ok closes
          exact ⟨rfl, rfl, rfl, rfl, rfl, rfl⟩
      | recovered action exists' recovers =>
          obtain ⟨_, _, _, _, -, -, -, -, -, -, -, -, rfl, -⟩ := recover_ok recovers
          exact ⟨rfl, rfl, rfl, rfl, rfl, rfl⟩
    exact settlement_moves receives lane config risk ceiling control outbound same' built published

/-- Every accepted instruction other than new risk limits is one of the moves above. -/
theorem step_acts {instruction : Instruction} (success : a.step digests ctx instruction = .ok a')
    (noUpdate : ∀ update, instruction ≠ .processConfigUpdate update) :
    ∃ sent, Acts digests a instruction.delivered sent a' := by
  cases instruction with
  | processAllocate message => exact ⟨none, processAllocate_acts success⟩
  | processRecall message => exact ⟨none, processRecall_acts success⟩
  | processConfigUpdate message => exact absurd rfl (noUpdate message)
  | processResolve message => exact ⟨none, processResolve_acts success⟩
  | processSettlement message =>
      obtain ⟨sent, acts⟩ := processSettlement_acts success
      exact ⟨some sent, acts⟩
  | attributeAllocation transferId => exact ⟨none, attributeAllocation_acts success⟩
  | deployToStrategy approved amount call => exact ⟨none, deployToStrategy_acts success⟩
  | withdrawForRecall transferId maximum call => exact ⟨none, withdrawForRecall_acts success⟩
  | sendRecallAssets transferId maximum => exact ⟨none, sendRecallAssets_acts success⟩
  | reconcileCustody =>
      obtain ⟨_, -, -, rfl⟩ := reconcileCustody_ok.mp success
      exact ⟨none, acts_quiet rfl rfl rfl rfl ⟨rfl, rfl, rfl⟩ rfl rfl⟩
  | publishRemoteReport epochId adapterPrincipal layoutKept supplied =>
      obtain ⟨sent, acts⟩ := publishRemoteReport_acts success
      exact ⟨some sent, acts⟩
  | publishRecallSent transferId =>
      obtain ⟨sent, acts⟩ := publishRecallSent_acts success
      exact ⟨some sent, acts⟩
  | advanceReplayWatermark minimum =>
      obtain ⟨-, -, rfl⟩ := advanceReplayWatermark_ok success
      exact ⟨none, acts_quiet rfl rfl rfl rfl ⟨rfl, rfl, rfl⟩ rfl rfl⟩
  | closeConsumedMessage sequence =>
      obtain ⟨_, -, -, rfl⟩ := closeConsumedMessage_ok success
      exact ⟨none, acts_quiet rfl rfl rfl rfl ⟨rfl, rfl, rfl⟩ rfl rfl⟩
  | freeze =>
      cases freeze_ok success
      exact ⟨none, acts_quiet rfl rfl rfl rfl ⟨rfl, rfl, rfl⟩ rfl rfl⟩
  | receiveCustody amount =>
      obtain ⟨_, -, rfl⟩ := receiveCustody_ok success
      exact ⟨none, acts_quiet rfl rfl rfl rfl ⟨rfl, rfl, rfl⟩ rfl rfl⟩
  | moveEscrow balance =>
      cases pure_eq_ok.mp success
      exact ⟨none, acts_quiet rfl rfl rfl rfl ⟨rfl, rfl, rfl⟩ rfl rfl⟩

end Accounts

end Leg
