import CrossChainVault.Leg.Steps

set_option autoImplicit false

/- What each accepted instruction does: its checks, and the next accounts as an update of the
previous ones. -/

namespace Leg

open Result Protocol

variable {hashing : Hashing} {digests : Digests} {a a' : Accounts} {ctx : Context}
  {message : Message} {u : Unit} {now : U64}

/-- A message that passes every rule that does not depend on its body: it is valid, addressed to
this leg, not from the future, and next on the lane. -/
structure Next (message : Message) (messageClass : MessageClass) (config : RemoteConfig)
    (lane : ReplayLane) (now : U64) : Prop where
  valid : message.validate = .ok ()
  accepted : classOf message = some messageClass
  addressed : checkDomains message.header config lane = .ok ()
  past : message.header.publishedAt.raw ≤ now.raw
  watermark : lane.minimumAcceptableSequence.raw ≤ message.header.sequence.raw
  sequence : message.header.sequence.raw = lane.highestConsumedSequence.raw + 1
  commitment : message.header.previousCommitment = lane.messageCommitment

@[simp] theorem ReplayLane.checkNext_ok {lane : ReplayLane} {sequence : U64} :
    lane.checkNext sequence = .ok u ↔ sequence.raw = lane.highestConsumedSequence.raw + 1 := by
  simp only [ReplayLane.checkNext, bind_eq_ok, checkedIncrement_ok, rejectIf_eq_ok, not_not,
    ← Unsigned.raw_inj]
  constructor
  · rintro ⟨expected, hExpected, same⟩
    omega
  · intro same
    exact ⟨sequence, same, rfl⟩

theorem validateInbound_ok {messageClass : MessageClass} {config : RemoteConfig}
    {lane : ReplayLane} : validateInbound message messageClass config lane now = .ok u ↔
      Next message messageClass config lane now := by
  simp only [validateInbound, bind_eq_ok, mapInvalid_ok, rejectIf_eq_ok, exists_const, not_not,
    Unsigned.lt_def, Nat.not_lt, ReplayLane.checkNext_ok]
  constructor
  · rintro ⟨⟨⟩, valid, accepted, ⟨⟩, addressed, past, watermark, sequence, commitment⟩
    exact ⟨valid, accepted, addressed, past, watermark, sequence, commitment⟩
  · rintro ⟨valid, accepted, addressed, past, watermark, sequence, commitment⟩
    exact ⟨(), valid, accepted, (), addressed, past, watermark, sequence, commitment⟩

namespace Accounts

@[simp] theorem checkControlLane_ok :
    a.checkControlLane = .ok u ↔ a.control.laneId = a.config.controlLaneId := by
  simp [checkControlLane]

@[simp] theorem checkOutboundLane_ok :
    a.checkOutboundLane = .ok u ↔ a.outbound.laneId = a.config.reportLaneId := by
  simp [checkOutboundLane]

@[simp] theorem checkConfigVersion_ok {version : U64} :
    a.checkConfigVersion version = .ok u ↔ version = a.config.configVersion := by
  simp [checkConfigVersion]

@[simp] theorem loadRecord_ok {transferId : Bytes32} {record : TransferRecord} :
    a.loadRecord transferId = .ok record ↔ a.transferRecords transferId = some record := by
  simp [loadRecord]

/-- Who delivered a control message, when, and that it is the next one. -/
structure Receives (a : Accounts) (ctx : Context) (message : Message)
    (messageClass : MessageClass) (now : U64) : Prop where
  verifier : ctx.transportVerifier = true
  lane : a.control.laneId = a.config.controlLaneId
  clock : (now.raw : Int) = ctx.clock.seconds
  next : Next message messageClass a.config a.control now
  unconsumed : a.consumedMessages message.header.sequence = none

section Allocate

variable {amount : U64}

theorem allocationFits_ok {fits : Bool} : a.allocationFits amount = .ok fits ↔
    a.position.principal + amount.raw < 2 ^ 64 ∧
      fits = decide (a.position.principal + amount.raw ≤ a.maxRemotePrincipal.raw) := by
  simp only [allocationFits, bind_eq_ok, RemotePosition.acceptedPrincipal_ok, checkedAdd_ok,
    pure_eq_ok]
  constructor
  · rintro ⟨accepted, hAccepted, projected, hProjected, rfl⟩
    have := projected.bound
    exact ⟨by omega, by simp only [Unsigned.le_def, hProjected, hAccepted]⟩
  · rintro ⟨small, rfl⟩
    exact ⟨⟨a.position.principal, by omega⟩, rfl, ⟨a.position.principal + amount.raw, small⟩, rfl,
      rfl⟩

/-- An allocation that is fresh and fits runs; any other one is held back. -/
def Runs (a : Accounts) (fresh : Bool) (amount : U64) : Prop :=
  fresh = true ∧ a.config.frozen = false ∧
    a.position.principal + amount.raw ≤ a.maxRemotePrincipal.raw

/-- The ceiling is only computed for a fresh allocation of a running leg. -/
def Weighable (a : Accounts) (fresh : Bool) (amount : U64) : Prop :=
  fresh = true → a.config.frozen = false → a.position.principal + amount.raw < 2 ^ 64

theorem quarantineReason_ok {fresh : Bool} {reason : Option QuarantineReason}
    (success : a.quarantineReason fresh amount = .ok reason) :
    a.Weighable fresh amount ∧ (reason.isSome = false ↔ a.Runs fresh amount) := by
  unfold quarantineReason at success
  split at success
  · rename_i stale
    rw [pure_eq_ok] at success
    subst success
    exact ⟨fun fresh' => by simp [stale] at fresh', by simp [Runs, stale]⟩
  rename_i fresh'
  split at success
  · rename_i frozen
    rw [pure_eq_ok] at success
    subst success
    exact ⟨fun _ thawed => by simp [frozen] at thawed, by simp [Runs, frozen]⟩
  rename_i thawed
  simp only [bind_eq_ok, allocationFits_ok, pure_eq_ok] at success
  obtain ⟨fits, ⟨small, rfl⟩, rfl⟩ := success
  refine ⟨fun _ _ => small, ?_⟩
  by_cases under : a.position.principal + amount.raw ≤ a.maxRemotePrincipal.raw
  · simp [Runs, under, fresh', thawed]
  · simp [Runs, under]

theorem quarantineReason_of_weighable {fresh : Bool} (weighable : a.Weighable fresh amount) :
    ∃ reason, a.quarantineReason fresh amount = .ok reason := by
  unfold quarantineReason
  split
  · exact ⟨_, rfl⟩
  rename_i fresh'
  split
  · exact ⟨_, rfl⟩
  rename_i thawed
  have fits := allocationFits_ok.mpr
    ⟨weighable (by simpa using fresh') (by simpa using thawed), rfl⟩
  exact ⟨_, by rw [fits]; rfl⟩

/-- The state after an allocation was accepted with the given status. -/
def acceptAllocation (hashing : Hashing) (a : Accounts) (ctx : Context) (message : Message)
    (body : AllocateBody) (amount minimumAmount : U64) (status : TransferStatus) : Accounts :=
  { (a.consume hashing .allocate message).storeRecord body.transferId
      { TransferRecord.newAllocation body.transferId message.header.sequence amount minimumAmount
          body.expectedSourceBalance ctx.clock with status := status } with
    position := { a.position.openTransfer .allocate body.transferId message.header.sequence with
      activeTransferStatus := status } }

theorem processAllocate_body (success : a.processAllocate hashing ctx message = .ok a') :
    ∃ body, message.body = .allocate body := by
  simp only [processAllocate, bind_eq_ok] at success
  obtain ⟨-, -, -, -, _, -, -, -, success⟩ := success
  split at success
  · rename_i body _ hBody
    exact ⟨_, hBody⟩
  · cases success

theorem processAllocate_ok {body : AllocateBody} (hBody : message.body = .allocate body)
    (success : a.processAllocate hashing ctx message = .ok a') :
    ∃ now amount minimumAmount status, a.Receives ctx message .allocate now ∧
      body.configVersion = a.config.configVersion ∧
      a.transferRecords body.transferId = none ∧ a.position.activeTransferKind = .none ∧
      amount.raw = body.amount.raw ∧ minimumAmount.raw = body.minimumDestinationAmount.raw ∧
      amount.raw ≠ 0 ∧ a.Weighable (isFresh message.header now) amount ∧
      (a.Runs (isFresh message.header now) amount ∧ status = .pending ∨
        ¬a.Runs (isFresh message.header now) amount ∧ status = .quarantined) ∧
      a' = a.acceptAllocation hashing ctx message body amount minimumAmount status := by
  simp only [processAllocate, hBody, bind_eq_ok, Context.requireVerifier_ok, checkControlLane_ok,
    Context.currentTime_ok, validateInbound_ok, checkConfigVersion_ok, rejectIf_eq_ok,
    checkAvailable_ok, RemotePosition.checkNoActiveTransfer_ok, narrowAmount_ok,
    Unsigned.isZero_iff, exists_const] at success
  obtain ⟨verifier, lane, now, clock, next, version, -, unused, idle, amount, hAmount,
    minimumAmount, hMinimum, nonzero, -, -, reason, hReason, unconsumed, success⟩ := success
  obtain ⟨weighable, runs⟩ := quarantineReason_ok hReason
  refine ⟨now, amount, minimumAmount, if reason.isSome then .quarantined else .pending,
    ⟨verifier, lane, clock, next, unconsumed⟩, version, unused, idle, hAmount, hMinimum, nonzero,
    weighable, ?_⟩
  cases held : reason.isSome with
  | true =>
      rw [held, if_pos rfl, pure_eq_ok] at success
      exact ⟨.inr ⟨fun running => by simp [runs.mpr running] at held, rfl⟩, success.symm⟩
  | false =>
      rw [held, if_neg Bool.false_ne_true, pure_eq_ok] at success
      exact ⟨.inl ⟨runs.mp held, rfl⟩, success.symm⟩

end Allocate

section Recall

/-- The state after an expired recall was held back. -/
def holdRecall (hashing : Hashing) (a : Accounts) (ctx : Context) (message : Message)
    (body : RecallBody) (amount minimumAmount : U64) : Accounts :=
  { (a.consume hashing .recall message).storeRecord body.transferId
      (TransferRecord.newRecall body.transferId message.header.sequence amount minimumAmount .zero
        ctx.clock).quarantined with
    position := a.position.quarantineTransfer .recall body.transferId message.header.sequence }

/-- The state after a fresh recall reserved the custody it can already cover. -/
def startRecall (hashing : Hashing) (a : Accounts) (ctx : Context) (message : Message)
    (body : RecallBody) (amount minimumAmount reserved attributed recalled : U64) : Accounts :=
  { (a.consume hashing .recall message).storeRecord body.transferId
      (TransferRecord.newRecall body.transferId message.header.sequence amount minimumAmount reserved
        ctx.clock) with
    position := { a.position with
      attributedPrincipal := attributed
      recalledCustody := recalled }.openTransfer .recall body.transferId message.header.sequence }

theorem processRecall_body (success : a.processRecall hashing ctx message = .ok a') :
    ∃ body, message.body = .recall body := by
  simp only [processRecall, bind_eq_ok] at success
  obtain ⟨-, -, -, -, -, -, _, -, -, -, success⟩ := success
  split at success
  · rename_i body _ hBody
    exact ⟨_, hBody⟩
  · cases success

theorem processRecall_ok {body : RecallBody} (hBody : message.body = .recall body)
    (success : a.processRecall hashing ctx message = .ok a') :
    ∃ now amount minimumAmount, a.Receives ctx message .recall now ∧ ctx.Consents a.config ∧
      body.configVersion = a.config.configVersion ∧
      a.transferRecords body.transferId = none ∧ a.position.activeTransferKind = .none ∧
      amount.raw ≠ 0 ∧ amount.raw = body.requestedAmount.raw ∧ minimumAmount.raw = body.minimumReturnAmount.raw ∧
      (isFresh message.header now = false ∧
          a' = a.holdRecall hashing ctx message body amount minimumAmount ∨
        isFresh message.header now = true ∧ amount.raw ≤ a.position.principal ∧
          ∃ reserved attributed recalled,
            reserved.raw = min amount.raw a.position.attributedPrincipal.raw ∧
            attributed.raw + reserved.raw = a.position.attributedPrincipal.raw ∧
            recalled.raw = a.position.recalledCustody.raw + reserved.raw ∧
            a' = a.startRecall hashing ctx message body amount minimumAmount reserved attributed
              recalled) := by
  simp only [processRecall, hBody, bind_eq_ok, Context.requireVerifier_ok, checkControlLane_ok,
    Context.requireConsent_ok, Context.currentTime_ok, validateInbound_ok, checkConfigVersion_ok,
    rejectIf_eq_ok, checkAvailable_ok, RemotePosition.checkNoActiveTransfer_ok, narrowAmount_ok,
    Unsigned.isZero_iff, exists_const] at success
  obtain ⟨verifier, lane, consents, now, clock, next, version, -, unused, idle, amount, hAmount,
    minimumAmount, hMinimum, nonzero, -, -, success⟩ := success
  split at success
  · rename_i fresh
    simp only [checkRecallable, bind_eq_ok, RemotePosition.acceptedPrincipal_ok, rejectIf_eq_ok,
      Unsigned.lt_def, Nat.not_lt, checkAvailable_ok, reserveRecallCustody_ok, pure_eq_ok,
      exists_const] at success
    obtain ⟨⟨accepted, hAccepted, covered⟩, unconsumed, _, ⟨reserved, attributed, recalled,
      hReserved, hAttributed, hRecalled, rfl⟩, rfl⟩ := success
    exact ⟨now, amount, minimumAmount, ⟨verifier, lane, clock, next, unconsumed⟩, consents, version,
      unused, idle, nonzero, hAmount, hMinimum, .inr ⟨fresh, by omega, reserved, attributed, recalled, hReserved,
        hAttributed, hRecalled, rfl⟩⟩
  · rename_i stale
    simp only [bind_eq_ok, checkAvailable_ok, pure_eq_ok, exists_const] at success
    obtain ⟨unconsumed, rfl⟩ := success
    exact ⟨now, amount, minimumAmount, ⟨verifier, lane, clock, next, unconsumed⟩, consents, version,
      unused, idle, nonzero, hAmount, hMinimum, .inl ⟨by simpa using stale, rfl⟩⟩

end Recall

section Resolve

/-- What an admission does before its message is consumed. -/
inductive Resolves (a : Accounts) (transferId : Bytes32) : Accounts → Prop
  | unchanged : Resolves a transferId a
  | allocation (record : TransferRecord) (stored : a.transferRecords transferId = some record)
      (held : record.status = .quarantined) (kind : record.transferKind = .allocate)
      (isOpen : a.position.activeTransferKind = .allocate)
      (same : record.transferId = a.position.activeTransferId)
      (fits : a.position.principal + record.authorizedAmount.raw ≤ a.maxRemotePrincipal.raw) :
      Resolves a transferId { a.storeRecord transferId { record with status := .pending } with
        position := a.position.admitTransfer }
  | recall (record : TransferRecord) (stored : a.transferRecords transferId = some record)
      (held : record.status = .quarantined) (kind : record.transferKind = .recall)
      (isOpen : a.position.activeTransferKind = .recall)
      (same : record.transferId = a.position.activeTransferId)
      (covered : record.requestedRecallAmount.raw ≤ a.position.principal)
      (reserved attributed recalled : U64)
      (hReserved : reserved.raw =
        min record.requestedRecallAmount.raw a.position.attributedPrincipal.raw)
      (hAttributed : attributed.raw + reserved.raw = a.position.attributedPrincipal.raw)
      (hRecalled : recalled.raw = a.position.recalledCustody.raw + reserved.raw) :
      Resolves a transferId { a.storeRecord transferId
          { record with custodyPrincipalReserved := reserved, status := .pending } with
        position := { a.position with
          attributedPrincipal := attributed
          recalledCustody := recalled }.admitTransfer }

theorem admit_ok {transferId : Bytes32} {outcome : ResolveOutcome}
    (success : a.admitTransfer ctx transferId = .ok (a', outcome)) :
    a.Resolves transferId a' ∧ (a' = a ∨ ctx.Consents a.config) := by
  simp only [admitTransfer, bind_eq_ok, loadRecord_ok, TransferRecord.checkQuarantined_ok,
    exists_const] at success
  obtain ⟨record, stored, ⟨held, sameKind, same, -⟩, success⟩ := success
  split at success
  · rename_i kind
    simp only [bind_eq_ok, TransferRecord.checkAllocationShape_ok, allocationFits_ok,
      exists_const] at success
    obtain ⟨-, fits, ⟨-, rfl⟩, success⟩ := success
    split at success
    · rename_i under
      simp only [bind_eq_ok, Context.requireConsent_ok, pure_eq_ok, Prod.mk.injEq,
        exists_const] at success
      obtain ⟨consents, rfl, -⟩ := success
      exact ⟨.allocation record stored held kind (sameKind ▸ kind) same (by simpa using under),
        .inr consents⟩
    · rw [pure_eq_ok, Prod.mk.injEq] at success
      rw [← success.1]
      exact ⟨.unchanged, .inl rfl⟩
  · rename_i kind
    simp only [bind_eq_ok, TransferRecord.checkRecallShape_ok, RemotePosition.acceptedPrincipal_ok,
      exists_const] at success
    obtain ⟨-, accepted, hAccepted, success⟩ := success
    split at success
    · rw [pure_eq_ok, Prod.mk.injEq] at success
      rw [← success.1]
      exact ⟨.unchanged, .inl rfl⟩
    · rename_i covered
      simp only [bind_eq_ok, Context.requireConsent_ok, reserveRecallCustody_ok, pure_eq_ok,
        Prod.mk.injEq, exists_const] at success
      obtain ⟨consents, _, ⟨reserved, attributed, recalled, hReserved, hAttributed, hRecalled, rfl⟩,
        -, -, rfl, -⟩ := success
      rw [Unsigned.lt_def, Nat.not_lt, hAccepted] at covered
      exact ⟨.recall record stored held kind (sameKind ▸ kind) same covered reserved attributed
        recalled hReserved hAttributed hRecalled, .inr consents⟩
  · cases success

theorem resolve_ok {fresh : Bool} {body : ResolveBody} {outcome : ResolveOutcome}
    (success : a.resolve ctx fresh body = .ok (a', outcome)) :
    a.Resolves body.transferId a' ∧ (a' = a ∨ ctx.Consents a.config) := by
  unfold resolve at success
  split at success
  · rw [pure_eq_ok, Prod.mk.injEq] at success
    rw [← success.1]
    exact ⟨.unchanged, .inl rfl⟩
  split at success
  · rw [pure_eq_ok, Prod.mk.injEq] at success
    rw [← success.1]
    exact ⟨.unchanged, .inl rfl⟩
  · exact admit_ok success

theorem processResolve_ok (success : a.processResolve hashing ctx message = .ok a') :
    ∃ now body resolved, message.body = .resolve body ∧ body.action = .admitTransfer ∧
      a.Receives ctx message .resolve now ∧ a.Resolves body.transferId resolved ∧
      (resolved = a ∨ ctx.Consents a.config) ∧
      a' = resolved.consume hashing .resolve message := by
  simp only [processResolve, bind_eq_ok, Context.requireVerifier_ok, checkControlLane_ok,
    Context.currentTime_ok, validateInbound_ok, exists_const] at success
  obtain ⟨verifier, lane, now, clock, next, success⟩ := success
  split at success
  · rename_i body _ hBody
    simp only [bind_eq_ok, rejectIf_eq_ok, not_not, checkConfigVersion_ok, checkAvailable_ok,
      pure_eq_ok, exists_const] at success
    obtain ⟨admits, -, unconsumed, ⟨resolved, outcome⟩, hResolved, rfl⟩ := success
    obtain ⟨resolves, consents⟩ := resolve_ok hResolved
    exact ⟨now, _, resolved, hBody, admits, ⟨verifier, lane, clock, next, unconsumed⟩, resolves,
      consents, rfl⟩
  · cases success

end Resolve

/-- The limits an update asks for. -/
def limits (body : ConfigUpdateBody) : RiskConfig where
  maxRemoteAllocationBps := body.maxRemoteAllocationBps
  maxUpwardDeviationBps := body.maxUpwardDeviationBps
  maxDownwardDeviationBps := body.maxDownwardDeviationBps
  maxReportAge := body.maxReportAge
  configVersion := body.configVersion
  configCommitment := body.configCommitment

/-- New limits replace the version they name; an expired update leaves the limits alone. -/
def Replaces (a : Accounts) (fresh : Bool) (body : ConfigUpdateBody) (risk : RiskConfig) : Prop :=
  if fresh then
    risk = limits body ∧ body.previousConfigVersion = a.config.configVersion ∧
      a.config.configVersion.raw < risk.configVersion.raw ∧ risk.checkParameters = .ok ()
  else risk = a.risk

theorem processConfigUpdate_ok (success : a.processConfigUpdate hashing ctx message = .ok a') :
    ∃ now body risk, message.body = .configUpdate body ∧
      a.Receives ctx message .configUpdate now ∧ a.config.frozen = false ∧
      a.risk.configVersion = a.config.configVersion ∧
      a.Replaces (isFresh message.header now) body risk ∧
      a' = { a.consume hashing .configUpdate message with
        risk := risk, config := { a.config with configVersion := risk.configVersion } } := by
  simp only [processConfigUpdate, bind_eq_ok, Context.requireVerifier_ok, checkControlLane_ok,
    rejectIf_eq_ok, not_not, Context.currentTime_ok, validateInbound_ok, exists_const,
    Bool.not_eq_true] at success
  obtain ⟨verifier, lane, current, running, now, clock, next, success⟩ := success
  split at success
  · rename_i body _ hBody
    simp only [bind_eq_ok, checkAvailable_ok, exists_const] at success
    obtain ⟨unconsumed, success⟩ := success
    have receives : a.Receives ctx message .configUpdate now :=
      ⟨verifier, lane, clock, next, unconsumed⟩
    split at success
    · rename_i fresh
      simp only [bind_eq_ok, rejectIf_eq_ok, not_not, Unsigned.le_def, Nat.not_le, pure_eq_ok,
        exists_const] at success
      obtain ⟨replaced, newer, -, _, checked, rfl⟩ := success
      refine ⟨now, _, limits _, hBody, receives, running, current, ?_, rfl⟩
      rw [Replaces, if_pos fresh]
      exact ⟨rfl, replaced, newer, checked⟩
    · rename_i stale
      cases pure_eq_ok.mp success
      refine ⟨now, _, a.risk, hBody, receives, running, current, ?_, ?_⟩
      · rw [Replaces, if_neg stale]
      · rw [current]
        rfl
  · cases success

section Assets

variable {transferId : Bytes32} {call : AdapterCall}

theorem reconcileCustody_ok : a.reconcileCustody = .ok a' ↔
    ∃ unattributed, a.position.accounted ≤ a.custody.raw ∧
      a.position.attributedPrincipal.raw + a.position.recalledCustody.raw + unattributed.raw =
        a.custody.raw ∧
      a' = { a with position := { a.position with unattributedCustody := unattributed } } := by
  simp only [reconcileCustody, bind_eq_ok, reconcile_ok, pure_eq_ok]
  constructor
  · rintro ⟨_, ⟨unattributed, enough, whole, rfl⟩, rfl⟩
    exact ⟨unattributed, enough, whole, rfl⟩
  · rintro ⟨unattributed, enough, whole, rfl⟩
    exact ⟨_, ⟨unattributed, enough, whole, rfl⟩, rfl⟩

/-- The state after an open allocation received `attributed` in total. -/
def bookAttribution (a : Accounts) (ctx : Context) (transferId : Bytes32) (record : TransferRecord)
    (position : RemotePosition) (attributed : U64) : Accounts :=
  if attributed = record.authorizedAmount then
    { a.storeRecord transferId { record with
          attributedAmount := attributed, status := .complete, completedAt := ctx.clock } with
      position := position.completeTransfer record.transferId ctx.clock }
  else { a.storeRecord transferId { record with attributedAmount := attributed } with
    position := position }

theorem attributeAllocation_ok (success : a.attributeAllocation ctx transferId = .ok a') :
    ∃ record unattributed attributedPrincipal attributed,
      ctx.Consents a.config ∧ a.transferRecords transferId = some record ∧
      record.transferKind = .allocate ∧
      record.status = .pending ∧ a.position.activeTransferKind = .allocate ∧
      a.position.activeTransferId = record.transferId ∧
      record.attributedAmount.raw < attributed.raw ∧
      attributed.raw ≤ record.authorizedAmount.raw ∧
      attributedPrincipal.raw + record.attributedAmount.raw =
        a.position.attributedPrincipal.raw + attributed.raw ∧
      attributedPrincipal.raw + a.position.recalledCustody.raw + unattributed.raw = a.custody.raw ∧
      a' = a.bookAttribution ctx transferId record { a.position with
        unattributedCustody := unattributed
        attributedPrincipal := attributedPrincipal } attributed := by
  simp only [attributeAllocation, bind_eq_ok, Context.requireConsent_ok, loadRecord_ok,
    TransferRecord.checkActive_ok, TransferRecord.checkAllocationShape_ok, reconcile_ok,
    TransferRecord.outstandingAllocation_ok, rejectIf_eq_ok, Unsigned.isZero_iff, minimum_raw,
    RemotePosition.attributeNow_ok, checkedAdd_ok, Unsigned.lt_def, Nat.not_lt, checkIdentity_ok,
    exists_const] at success
  obtain ⟨consents, record, stored, ⟨kind, pending, isOpen, same⟩, -, _, ⟨surplus, -, whole, rfl⟩,
    outstanding, hOutstanding, some, _, ⟨unattributed, attributedPrincipal, hUnattributed,
      hPrincipal, rfl⟩, attributed, hAttributed, within, identity, success⟩ := success
  dsimp only [RemotePosition.accounted] at some hUnattributed hPrincipal hAttributed identity
  refine ⟨record, unattributed, attributedPrincipal, attributed, consents, stored, kind, pending,
    isOpen, same, by omega, within, by omega, identity.symm, ?_⟩
  unfold bookAttribution
  split at success
  · rename_i finished
    rw [if_pos finished]
    exact (pure_eq_ok.mp success).symm
  · rename_i unfinished
    rw [if_neg unfinished]
    exact (pure_eq_ok.mp success).symm

theorem deployToStrategy_ok {approved : Bool} {amount : U64}
    (success : a.deployToStrategy approved amount call = .ok a') :
    ∃ unattributed attributed deployed custody, a.config.frozen = false ∧
      attributed.raw + amount.raw = a.position.attributedPrincipal.raw ∧
      deployed.raw = a.position.deployedPrincipal.raw + amount.raw ∧
      deployed = call.principalAfter ∧
      attributed.raw + a.position.recalledCustody.raw + unattributed.raw = custody.raw ∧
      a' = { a with
        position := { a.position with
          unattributedCustody := unattributed
          attributedPrincipal := attributed
          deployedPrincipal := deployed }
        custody := custody } := by
  simp only [deployToStrategy, bind_eq_ok, rejectIf_eq_ok, reconcile_ok, checkDeployed_ok,
    Unsigned.checkedSub_eq_ok, checkedAdd_ok, checkIdentity_ok, pure_eq_ok, exists_const,
    Bool.not_eq_true] at success
  obtain ⟨running, _, ⟨unattributed, -, whole, rfl⟩, -, -, -, -, -, decrease, hDecrease, increase, -,
    principal, -, -, -, -, attributed, hAttributed, deployed, hDeployed, identity, reported, rfl⟩ :=
    success
  exact ⟨unattributed, attributed, deployed, call.custodyAfter, running, hAttributed, hDeployed,
    Unsigned.ext reported.symm, identity.symm, rfl⟩

/-- The state after a recall moved on to this record and position, settled if that was all. -/
def bookRecall (a : Accounts) (ctx : Context) (transferId : Bytes32) (record : TransferRecord)
    (position : RemotePosition) (custody escrow : U64) : Accounts :=
  if record.assetsSent.raw + record.realizedLoss.raw = record.requestedRecallAmount.raw then
    { a.storeRecord transferId { record with status := .complete, completedAt := ctx.clock } with
      position := position.completeTransfer record.transferId ctx.clock
      custody := custody
      escrow := escrow }
  else { a.storeRecord transferId record with
    position := position, custody := custody, escrow := escrow }

theorem bookRecall_of_settle {record : TransferRecord} {position : RemotePosition}
    {settled : TransferRecord × RemotePosition} {custody escrow : U64}
    (success : settleRecall record position ctx.clock = .ok settled) :
    record.assetsSent.raw + record.realizedLoss.raw ≤ record.requestedRecallAmount.raw ∧
      { a.storeRecord transferId settled.1 with
        position := settled.2, custody := custody, escrow := escrow } =
      a.bookRecall ctx transferId record position custody escrow := by
  obtain ⟨within, ⟨short, rfl⟩ | ⟨whole, rfl⟩⟩ := settleRecall_ok success
  · exact ⟨within, by rw [bookRecall, if_neg short]⟩
  · exact ⟨within, by rw [bookRecall, if_pos whole]⟩

theorem withdrawForRecall_ok {maximum : U64}
    (success : a.withdrawForRecall ctx transferId maximum call = .ok a') :
    ∃ record unattributed deployed recalled loss resolved withdrawn recordLoss custody,
      a.transferRecords transferId = some record ∧ record.transferKind = .recall ∧
      record.status = .pending ∧ a.position.activeTransferKind = .recall ∧
      a.position.activeTransferId = record.transferId ∧ deployed = call.principalAfter ∧
      a.custody.raw ≤ custody.raw ∧
      deployed.raw + resolved.raw =
        a.position.deployedPrincipal.raw + record.strategyPrincipalResolved.raw ∧
      recalled.raw + record.assetsWithdrawn.raw =
        a.position.recalledCustody.raw + withdrawn.raw ∧
      loss.raw + record.realizedLoss.raw =
        a.position.cumulativeRealizedLoss.raw + recordLoss.raw ∧
      record.assetsWithdrawn.raw ≤ withdrawn.raw ∧ record.realizedLoss.raw ≤ recordLoss.raw ∧
      resolved.raw + record.assetsWithdrawn.raw + record.realizedLoss.raw =
        record.strategyPrincipalResolved.raw + withdrawn.raw + recordLoss.raw ∧
      record.custodyPrincipalReserved.raw + resolved.raw ≤ record.requestedRecallAmount.raw ∧
      record.assetsSent.raw + recordLoss.raw ≤ record.requestedRecallAmount.raw ∧
      a.position.attributedPrincipal.raw + recalled.raw + unattributed.raw = custody.raw ∧
      a' = a.bookRecall ctx transferId
        { record with
          strategyPrincipalResolved := resolved
          assetsWithdrawn := withdrawn
          realizedLoss := recordLoss }
        { a.position with
          unattributedCustody := unattributed
          deployedPrincipal := deployed
          recalledCustody := recalled
          cumulativeRealizedLoss := loss } custody a.escrow := by
  simp only [withdrawForRecall, bookWithdrawal, bind_eq_ok, loadRecord_ok,
    TransferRecord.checkActive_ok, TransferRecord.checkRecallShape_ok, reconcile_ok,
    TransferRecord.unresolvedRecallPrincipal_ok, rejectIf_eq_ok, checkDeployed_ok,
    Unsigned.checkedSub_eq_ok, checkedAdd_ok, Unsigned.lt_def, Nat.not_lt, checkIdentity_ok,
    pure_eq_ok, exists_const] at success
  obtain ⟨record, stored, ⟨kind, pending, isOpen, same⟩, -, _, ⟨unattributed, -, whole, rfl⟩,
    unresolved, hUnresolved, -, -, -, reduction, hReduction, returned, hReturned, decrease, -, -,
    hRequest, -, loss, hLoss, _, ⟨deployed, hDeployed, recalled, hRecalled, cumulative, hCumulative,
      resolved, hResolved, withdrawn, hWithdrawn, recordLoss, hRecordLoss, settled, hSettled, within,
      rfl⟩, identity, reported, booked, hBooked, rfl⟩ := success
  obtain ⟨sentWithin, hState⟩ := bookRecall_of_settle hBooked
  dsimp only [RemotePosition.accounted] at hDeployed hRecalled hCumulative identity sentWithin
  exact ⟨record, unattributed, deployed, recalled, cumulative, resolved, withdrawn, recordLoss,
    call.custodyAfter, stored, kind, pending, isOpen, same, Unsigned.ext reported.symm, by omega,
    by omega, by omega, by omega, by omega, by omega, by omega, by omega, sentWithin, identity.symm,
    hState⟩

theorem sendRecallAssets_ok {maximum : U64}
    (success : a.sendRecallAssets ctx transferId maximum = .ok a') :
    ∃ record unattributed recalled sent custody escrow,
      a.transferRecords transferId = some record ∧ record.transferKind = .recall ∧
      record.status = .pending ∧ a.position.activeTransferKind = .recall ∧
      a.position.activeTransferId = record.transferId ∧
      recalled.raw + sent.raw = a.position.recalledCustody.raw + record.assetsSent.raw ∧
      record.assetsSent.raw ≤ sent.raw ∧
      custody.raw + sent.raw = a.custody.raw + record.assetsSent.raw ∧
      sent.raw + record.realizedLoss.raw ≤ record.requestedRecallAmount.raw ∧
      a.position.attributedPrincipal.raw + recalled.raw + unattributed.raw = custody.raw ∧
      a' = a.bookRecall ctx transferId { record with assetsSent := sent }
        { a.position with
          unattributedCustody := unattributed
          recalledCustody := recalled } custody escrow := by
  simp only [sendRecallAssets, bind_eq_ok, loadRecord_ok, TransferRecord.checkActive_ok,
    TransferRecord.checkRecallShape_ok, reconcile_ok, rejectIf_eq_ok, Unsigned.checkedSub_eq_ok,
    Unsigned.checkedAdd_eq_ok, checkedAdd_ok, checkIdentity_ok, minimum_raw, pure_eq_ok,
    exists_const] at success
  obtain ⟨record, stored, ⟨kind, pending, isOpen, same⟩, -, _, ⟨unattributed, -, whole, rfl⟩, -,
    custody, hCustody, escrow, hEscrow, recalled, hRecalled, sent, hSent, identity, booked, hBooked,
    rfl⟩ := success
  obtain ⟨sentWithin, hState⟩ := bookRecall_of_settle hBooked
  dsimp only [RemotePosition.accounted] at hRecalled identity sentWithin
  exact ⟨record, unattributed, recalled, sent, custody, escrow, stored, kind, pending, isOpen, same,
    by omega, by omega, by omega, sentWithin, identity.symm, hState⟩

end Assets

section Publication

variable {header : Header} {body : Body}

/-- The header of the next message on the report lane. -/
def nextHeader (a : Accounts) (now expiresAt : U64) : Header where
  sourceChain := a.config.destinationChainId
  destinationChain := a.config.sourceChainId
  sourceApplication := a.config.localApplicationId
  destinationApplication := a.config.sourceApplicationId
  deploymentId := a.config.deploymentId
  vaultId := a.config.vaultId
  laneId := a.config.reportLaneId
  sequence := a.outbound.nextSequence
  previousCommitment := a.outbound.currentCommitment
  observedAt := now
  publishedAt := now
  expiresAt := expiresAt

theorem build_ok : a.build now body = .ok message ↔
    ∃ expiresAt, expiresAt.raw = now.raw + a.risk.maxReportAge.raw ∧
      message = ⟨a.nextHeader now expiresAt, body⟩ ∧ message.validate = .ok () := by
  simp only [build, outboundHeader, bind_eq_ok, checkedAdd_ok, pure_eq_ok, mapInvalid_ok]
  constructor
  · rintro ⟨_, ⟨expiresAt, hExpires, rfl⟩, ⟨⟩, valid, rfl⟩
    exact ⟨expiresAt, hExpires, rfl, valid⟩
  · rintro ⟨expiresAt, hExpires, rfl, valid⟩
    exact ⟨_, ⟨expiresAt, hExpires, rfl⟩, (), valid, rfl⟩

theorem advance_ok {lane lane' : OutboundLane} {reportType : ReportType} {commitment : Bytes32}
    (success : lane.advance reportType commitment = .ok lane') :
    lane'.laneId = lane.laneId ∧ lane'.nextSequence.raw = lane.nextSequence.raw + 1 ∧
      lane'.currentCommitment = commitment := by
  simp only [OutboundLane.advance, bind_eq_ok, checkedIncrement_ok] at success
  obtain ⟨next, hNext, success⟩ := success
  cases reportType with
  | remoteReport =>
      simp only [bind_eq_ok, checkedIncrement_ok, pure_eq_ok] at success
      obtain ⟨_, -, rfl⟩ := success
      exact ⟨rfl, hNext, rfl⟩
  | recallSent =>
      simp only [bind_eq_ok, checkedIncrement_ok, pure_eq_ok] at success
      obtain ⟨_, -, rfl⟩ := success
      exact ⟨rfl, hNext, rfl⟩
  | transportSettlement =>
      cases pure_eq_ok.mp success
      exact ⟨rfl, hNext, rfl⟩

theorem publish_ok {reportType : ReportType} {related : Bytes32} {epochId : U64}
    {publishedAt : UnixTimestamp}
    (success : a.publish digests message reportType related epochId publishedAt = .ok a') :
    ∃ outbound record, a.reportRecords a.outbound.nextSequence = none ∧
      outbound.laneId = a.outbound.laneId ∧
      outbound.nextSequence.raw = a.outbound.nextSequence.raw + 1 ∧
      outbound.currentCommitment = digests.toHashing.extend a.outbound.currentCommitment message ∧
      a' = { a with
        reportRecords := Function.update a.reportRecords a.outbound.nextSequence (some record)
        outbound := outbound
        published := a.published ++ [message] } := by
  simp only [publish, bind_eq_ok, checkAvailable_ok, pure_eq_ok, exists_const] at success
  obtain ⟨unused, outbound, advanced, rfl⟩ := success
  obtain ⟨lane, next, commitment⟩ := advance_ok advanced
  exact ⟨outbound, _, unused, lane, next, commitment, rfl⟩

theorem publishRemoteReport_ok {epochId adapterPrincipal : U64} {layoutKept supplied : Bool}
    (success : a.publishRemoteReport digests ctx epochId adapterPrincipal layoutKept supplied =
      .ok a') :
    ∃ unattributed now principal commitment message,
      a.outbound.laneId = a.config.reportLaneId ∧
      a.position.attributedPrincipal.raw + a.position.recalledCustody.raw + unattributed.raw =
        a.custody.raw ∧
      { a with position := { a.position with unattributedCustody := unattributed } }.build now
        (.remoteReport (reportBody
          { a with position := { a.position with unattributedCustody := unattributed } }
          epochId principal commitment)) = .ok message ∧
      { a with position := { a.position with unattributedCustody := unattributed } }.publish digests
        message .remoteReport a.position.latestCompletedTransferId epochId ctx.clock = .ok a' := by
  simp only [publishRemoteReport, bind_eq_ok, checkOutboundLane_ok, rejectIf_eq_ok,
    reconcileCustody_ok, checkDeployed_ok, Context.currentTime_ok, exists_const] at success
  obtain ⟨lane, -, _, ⟨unattributed, -, whole, rfl⟩, -, inFlight, -, principal, -, now, -, message,
    built, published⟩ := success
  exact ⟨unattributed, now, principal.saturatingSub inFlight, _, message, lane, whole, built,
    published⟩

theorem publishRecallSent_ok {transferId : Bytes32}
    (success : a.publishRecallSent digests ctx transferId = .ok a') :
    ∃ record now sentTimestamp message published marker,
      a.transferRecords transferId = some record ∧ a.outbound.laneId = a.config.reportLaneId ∧
      record.transferKind = .recall ∧ record.status = .complete ∧
      record.assetsSent.raw + record.realizedLoss.raw = record.requestedRecallAmount.raw ∧
      a.recallMarkers record.transferId = none ∧
      a.build now (.recallSent (a.recallSentBody record sentTimestamp)) = .ok message ∧
      a.publish digests message .recallSent record.transferId .zero ctx.clock = .ok published ∧
      a' = { published with
        recallMarkers := Function.update a.recallMarkers record.transferId (some marker) } := by
  simp only [publishRecallSent, checkEligible, bind_eq_ok, loadRecord_ok, checkOutboundLane_ok,
    Context.currentTime_ok, rejectIf_eq_ok, not_not, checkedAdd_ok, UnixTimestamp.toU64_ok,
    checkAvailable_ok, pure_eq_ok, exists_const] at success
  obtain ⟨record, stored, lane, now, -, sentTimestamp, ⟨kind, complete, settled, hSettled, whole, -,
    _, -, -, rfl⟩, unpublished, message, built, published, hPublished, rfl⟩ := success
  rw [← Unsigned.raw_inj] at whole
  exact ⟨record, now, _, message, published, _, stored, lane, kind, complete, by omega, unpublished,
    built, hPublished, rfl⟩

end Publication

section Settlement

variable {record record' : TransferRecord} {position : RemotePosition} {body : ResolveBody}
  {ledger ledger' : TransportLedger} {clock : UnixTimestamp} {settlement : Settlement}

/-- How an allocation ends when it is closed. -/
inductive Ends (a : Accounts) (record : TransferRecord) (clock : UnixTimestamp) :
    TransferRecord → RemotePosition → Prop
  | pending (pending : record.status = .pending)
      (isOpen : a.position.activeTransferKind = .allocate)
      (same : a.position.activeTransferId = record.transferId)
      (unattributed attributedPrincipal attributed : U64)
      (grows : record.attributedAmount.raw ≤ attributed.raw)
      (within : attributed.raw ≤ record.authorizedAmount.raw)
      (moved : attributedPrincipal.raw + record.attributedAmount.raw =
        a.position.attributedPrincipal.raw + attributed.raw)
      (identity : attributedPrincipal.raw + a.position.recalledCustody.raw + unattributed.raw =
        a.custody.raw) :
      Ends a record clock { record with attributedAmount := attributed, completedAt := clock }
        { a.position with
          unattributedCustody := unattributed
          attributedPrincipal := attributedPrincipal }.closeTransfer
  | quarantined (held : record.status = .quarantined)
      (isOpen : a.position.activeTransferKind = .allocate)
      (same : a.position.activeTransferId = record.transferId)
      (nothing : record.attributedAmount.raw = 0) :
      Ends a record clock { record with completedAt := clock } a.position.closeTransfer
  | complete (complete : record.status = .complete)
      (idle : a.position.activeTransferKind = .none)
      (whole : record.attributedAmount = record.authorizedAmount) :
      Ends a record clock record a.position

theorem endAllocation_ok {ended : TransferRecord × RemotePosition}
    (success : a.endAllocation record clock = .ok ended) : a.Ends record clock ended.1 ended.2 := by
  unfold endAllocation at success
  split at success
  · rename_i pending
    simp only [bind_eq_ok, rejectIf_eq_ok, not_not, reconcile_ok,
      TransferRecord.outstandingAllocation_ok, RemotePosition.attributeNow_ok, minimum_raw,
      checkedAdd_ok, checkIdentity_ok, pure_eq_ok, exists_const, RemotePosition.holdsAllocation,
      Bool.and_eq_true, decide_eq_true_eq] at success
    obtain ⟨⟨⟨⟨isOpen, same⟩, -⟩, -⟩, _, ⟨surplus, -, whole, rfl⟩, outstanding, hOutstanding, _,
      ⟨unattributed, principal, hUnattributed, hPrincipal, rfl⟩, attributed, hAttributed, identity,
      rfl⟩ := success
    dsimp only [RemotePosition.accounted] at hUnattributed hPrincipal hAttributed identity
    exact .pending pending isOpen same unattributed principal attributed (by omega) (by omega)
      (by omega) identity.symm
  · rename_i held
    simp only [bind_eq_ok, rejectIf_eq_ok, not_not, pure_eq_ok, exists_const,
      RemotePosition.holdsAllocation, Bool.and_eq_true, decide_eq_true_eq, Bool.not_eq_false,
      Unsigned.isZero_iff] at success
    obtain ⟨⟨⟨⟨isOpen, same⟩, -⟩, -⟩, nothing, rfl⟩ := success
    exact .quarantined held isOpen same nothing
  · rename_i complete
    simp only [bind_eq_ok, rejectIf_eq_ok, not_not, pure_eq_ok, exists_const,
      RemotePosition.checkNoActiveTransfer_ok] at success
    obtain ⟨idle, -, whole, rfl⟩ := success
    exact .complete complete idle whole
  · cases success

theorem close_ok (success : a.close body ledger clock = .ok (a', settlement)) :
    ∃ record record' position ledger', a.transferRecords body.transferId = some record ∧
      record.transferKind = .allocate ∧ record.transferId = body.transferId ∧
      record.messageSequence = body.targetSequence ∧ a.Ends record clock record' position ∧
      ledger.recordClose record'.authorizedAmount record'.attributedAmount
        record'.messageSequence = .ok ledger' ∧
      a' = { a.storeRecord body.transferId { record' with status := .closed } with
        position := position } ∧
      settlement = ⟨.closed, widen record'.authorizedAmount, record'.attributedAmount, ledger'⟩ := by
  simp only [close, bind_eq_ok, loadRecord_ok, rejectIf_eq_ok, not_not,
    TransferRecord.checkAllocationShape_ok, pure_eq_ok, Prod.mk.injEq, exists_const] at success
  obtain ⟨record, stored, kind, ⟨same, target⟩, -, ended, hEnded, -, ledger', hLedger, rfl, rfl⟩ :=
    success
  exact ⟨record, ended.1, ended.2, ledger', stored, kind, same, target, endAllocation_ok hEnded,
    hLedger, rfl, rfl⟩

theorem recover_ok {sequence : U64}
    (success : a.recover body sequence ledger clock = .ok (a', settlement)) :
    ∃ unattributed attributedPrincipal credited ledger', ledger.impairedOutstanding.raw ≠ 0 ∧
      body.targetSequence = ledger.lastImpairedSequence ∧
      a.position.activeTransferKind = .none ∧ a.transferRecords body.transferId = none ∧
      a.position.principal + a.position.recalledCustody.raw + credited.raw ≤
        max a.maxRemotePrincipal.raw (a.position.principal + a.position.recalledCustody.raw) ∧
      attributedPrincipal.raw = a.position.attributedPrincipal.raw + credited.raw ∧
      attributedPrincipal.raw + a.position.recalledCustody.raw + unattributed.raw = a.custody.raw ∧
      ledger.recordRecovery credited = .ok ledger' ∧
      a' = { a.storeRecord body.transferId
          (.newRecovery body.transferId sequence credited clock) with
        position := { a.position with
          unattributedCustody := unattributed
          attributedPrincipal := attributedPrincipal } } ∧
      settlement = ⟨.recovered, ledger.impairedOutstanding, credited, ledger'⟩ := by
  simp only [recover, bind_eq_ok, rejectIf_eq_ok, not_not, Unsigned.isZero_eq_false,
    RemotePosition.checkNoActiveTransfer_ok, checkAvailable_ok, reconcile_ok,
    RemotePosition.committedPrincipal_ok, RemotePosition.attributeNow_ok, minimum_raw,
    Unsigned.saturatingSub_raw, checkIdentity_ok, pure_eq_ok, Prod.mk.injEq, exists_const] at success
  obtain ⟨⟨impaired, target⟩, idle, unused, _, ⟨surplus, -, whole, rfl⟩, committed, hCommitted, _,
    ⟨unattributed, principal, hUnattributed, hPrincipal, rfl⟩, identity, ledger', hLedger, rfl,
    rfl⟩ := success
  dsimp only [RemotePosition.principal] at hCommitted
  dsimp only [RemotePosition.accounted] at hUnattributed hPrincipal identity
  refine ⟨unattributed, principal, _, ledger', impaired, target, idle, unused, ?_, ?_, identity.symm,
    hLedger, rfl, rfl⟩
  · simp only [minimum_raw, Unsigned.saturatingSub_raw, RemotePosition.principal]
    omega
  · simpa only [minimum_raw, Unsigned.saturatingSub_raw] using hPrincipal

/-- The ledger a settlement starts from. -/
def openLedger (a : Accounts) : TransportLedger := a.ledger.getD .empty

theorem loadLedger_ok : a.loadLedger = .ok ledger ↔
    ledger = a.openLedger ∧ ∀ stored, a.ledger = some stored → stored.Balanced := by
  unfold loadLedger openLedger
  cases a.ledger with
  | none =>
      simp only [pure_eq_ok, Option.getD_none, reduceCtorEq, false_implies, implies_true, and_true]
      exact eq_comm
  | some stored =>
      simp only [bind_eq_ok, TransportLedger.checkBalanced_ok, pure_eq_ok, exists_const,
        Option.getD_some, Option.some.injEq, forall_eq']
      constructor
      · rintro ⟨balanced, rfl⟩
        exact ⟨rfl, balanced⟩
      · rintro ⟨rfl, balanced⟩
        exact ⟨balanced, rfl⟩

/-- What a close or a recovery settles before its notice is published. -/
inductive Settles (a : Accounts) (body : ResolveBody) (sequence : U64) (clock : UnixTimestamp) :
    Accounts → Settlement → Prop
  | closed (action : body.action = .close) {settled : Accounts} {settlement : Settlement}
      (closes : a.close body a.openLedger clock = .ok (settled, settlement)) :
      Settles a body sequence clock settled settlement
  | recovered (action : body.action = .recover) {settled : Accounts} {settlement : Settlement}
      (exists' : a.ledger.isSome = true)
      (recovers : a.recover body sequence a.openLedger clock = .ok (settled, settlement)) :
      Settles a body sequence clock settled settlement

theorem settle_ok {sequence : U64}
    (success : a.settle body sequence clock = .ok (a', settlement)) :
    a.Settles body sequence clock a' settlement := by
  simp only [settle, bind_eq_ok, loadLedger_ok] at success
  obtain ⟨_, ⟨rfl, -⟩, success⟩ := success
  split at success
  · rename_i action
    exact .closed action success
  · rename_i action
    simp only [bind_eq_ok, rejectIf_eq_ok, exists_const] at success
    exact .recovered action (by simpa [Option.isSome_iff_ne_none] using success.1) success.2
  · cases success

theorem processSettlement_ok (success : a.processSettlement digests ctx message = .ok a') :
    ∃ now body settled settlement notice noticed, message.body = .resolve body ∧
      a.Receives ctx message .resolve now ∧ a.outbound.laneId = a.config.reportLaneId ∧
      ctx.Consents a.config ∧ body.configVersion = a.config.configVersion ∧
      a.Settles body message.header.sequence ctx.clock settled settlement ∧
      { settled with ledger := some settlement.ledger }.build now (.transportSettlement
        (settlementBody { settled with ledger := some settlement.ledger } body.transferId
          settlement)) = .ok notice ∧
      { settled with ledger := some settlement.ledger }.publish digests notice .transportSettlement
        body.transferId .zero ctx.clock = .ok noticed ∧
      a' = noticed.consume digests.toHashing .resolve message := by
  simp only [processSettlement, bind_eq_ok, Context.requireVerifier_ok, checkControlLane_ok,
    checkOutboundLane_ok, Context.currentTime_ok, validateInbound_ok, exists_const] at success
  obtain ⟨verifier, lane, report, now, clock, next, success⟩ := success
  split at success
  · rename_i body _ hBody
    simp only [bind_eq_ok, rejectIf_eq_ok, checkConfigVersion_ok, checkAvailable_ok,
      Context.requireConsent_ok, pure_eq_ok, exists_const] at success
    obtain ⟨-, version, unconsumed, consents, ⟨settled, settlement⟩, hSettled, notice, built, noticed,
      published, rfl⟩ := success
    exact ⟨now, _, settled, settlement, notice, noticed, hBody,
      ⟨verifier, lane, clock, next, unconsumed⟩, report, consents, version, settle_ok hSettled, built,
      published, rfl⟩
  · cases success

end Settlement

section Upkeep

theorem advanceReplayWatermark_ok {minimum : U64}
    (success : a.advanceReplayWatermark ctx minimum = .ok a') :
    minimum.raw + a.control.mandatoryWatermarkLag.raw ≤ a.control.highestConsumedSequence.raw ∧
      (a.position.activeTransferKind ≠ .none →
        minimum.raw ≤ a.position.activeTransferSequence.raw) ∧
      a' = { a with control := { a.control with minimumAcceptableSequence := minimum } } := by
  simp only [advanceReplayWatermark, bind_eq_ok, rejectIf_eq_ok, checkControlLane_ok,
    checkedAdd_ok, Unsigned.lt_def, Nat.not_lt, checkObligation, RemotePosition.hasActiveTransfer,
    decide_eq_true_eq, not_and, pure_eq_ok, exists_const] at success
  obtain ⟨-, -, -, -, lowest, hLowest, lagging, obliged, rfl⟩ := success
  exact ⟨by omega, obliged, rfl⟩

theorem closeConsumedMessage_ok {sequence : U64}
    (success : a.closeConsumedMessage sequence = .ok a') :
    ∃ record, a.consumedMessages sequence = some record ∧
      record.sequence.raw < a.control.minimumAcceptableSequence.raw ∧
      a' = { a with consumedMessages := Function.update a.consumedMessages sequence none } := by
  simp only [closeConsumedMessage, bind_eq_ok, okOr_eq_ok, rejectIf_eq_ok, checkControlLane_ok,
    Unsigned.le_def, Nat.not_le, pure_eq_ok, exists_const] at success
  obtain ⟨record, found, -, -, passed, rfl⟩ := success
  exact ⟨record, found, passed, rfl⟩

theorem freeze_ok (success : a.freeze ctx = .ok a') :
    a' = { a with config := { a.config with frozen := true } } := by
  simp only [freeze, bind_eq_ok, rejectIf_eq_ok, pure_eq_ok, exists_const] at success
  obtain ⟨-, -, rfl⟩ := success
  rfl

theorem receiveCustody_ok {amount : U64} (success : a.receiveCustody amount = .ok a') :
    ∃ custody, a.custody.raw ≤ custody.raw ∧ a' = { a with custody := custody } := by
  simp only [receiveCustody, bind_eq_ok, Unsigned.checkedAdd_eq_ok, pure_eq_ok] at success
  obtain ⟨custody, hCustody, rfl⟩ := success
  exact ⟨custody, by omega, rfl⟩

end Upkeep

end Accounts

end Leg
