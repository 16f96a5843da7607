import CrossChainVault.Base.Lane
import CrossChainVault.Evm.Hub
import CrossChainVault.Leg.Side

set_option autoImplicit false

/- How the vault and the leg stand to each other at every stage of a transfer, with everything that is
still on the way between them. -/

namespace Bridge

open Protocol Lane

/- Messages on the way. -/

def Admits (m : Message) : Prop :=
  ∃ body, m.body = .resolve body ∧ body.action = .admitTransfer

/-- A report of this cumulative loss. -/
def Reports (loss : Nat) (m : Message) : Prop :=
  ∃ body, m.body = .remoteReport body ∧ body.realizedLoss.raw = loss

/-- A report of this cumulative loss that completes some other transfer, or none. -/
def Silent (loss : Nat) (transferId : Bytes32) (m : Message) : Prop :=
  ∃ body, m.body = .remoteReport body ∧ body.realizedLoss.raw = loss ∧
    body.latestCompletedTransferId ≠ transferId

/-- Reports of losses that never fall, from one bound to the other. -/
def Climbs : Nat → List Message → Nat → Prop
  | low, [], high => low ≤ high
  | low, m :: rest, high => ∃ body, m.body = .remoteReport body ∧ low ≤ body.realizedLoss.raw ∧
      Climbs body.realizedLoss.raw rest high

section Messages

variable (t : Evm.Terms)

def OpensAllocation (m : Message) : Prop :=
  ∃ body, m.body = .allocate body ∧ body.transferId = t.transferId ∧ body.amount.raw = t.amount ∧
    m.header.sequence.raw = t.sequence

def OpensRecall (m : Message) : Prop :=
  ∃ body, m.body = .recall body ∧ body.transferId = t.transferId ∧
    body.requestedAmount.raw = t.amount

def OpensRecovery (m : Message) : Prop :=
  ∃ body, m.body = .resolve body ∧ body.action = .recover ∧ body.transferId = t.transferId ∧
    body.targetSequence.raw = t.lastImpaired

def Closes (m : Message) : Prop :=
  ∃ body, m.body = .resolve body ∧ body.action = .close ∧ body.transferId = t.transferId ∧
    body.targetSequence.raw = t.sequence

/-- What follows an allocation: admissions, and its close last once it was asked for. -/
def Follows (control : List Message) : Prop :=
  if t.closing then Marked Admits (Closes t) (· = []) control else ∀ m ∈ control, Admits m

def SettlesClose (credited : Nat) (m : Message) : Prop :=
  ∃ body, m.body = .transportSettlement body ∧ body.kind = .closed ∧
    body.transferId = t.transferId ∧ body.claimAmount.raw = t.amount ∧
    body.creditedAmount.raw = credited ∧
    body.impairedOutstanding.raw = t.impaired + (t.amount - credited)

def SettlesRecovery (credited : Nat) (m : Message) : Prop :=
  ∃ body, m.body = .transportSettlement body ∧ body.kind = .recovered ∧
    body.transferId = t.transferId ∧ body.claimAmount.raw = t.impaired ∧
    body.creditedAmount.raw = credited

/-- The notice of a recall that returned all but this loss. -/
def Returns (loss : Nat) (m : Message) : Prop :=
  ∃ body, m.body = .recallSent body ∧ body.transferId = t.transferId ∧
    body.principalSent.raw = t.amount ∧ body.actualAmountSent.raw + loss = t.amount ∧
    body.realizedLoss.raw = loss

end Messages

/- The books. -/

section Books

variable (t : Evm.Terms) (s : Leg.Side)

/-- Every loss is known and recognized, and nothing recalled waits. -/
structure Level : Prop where
  recalled : s.recalled = 0
  recognized : t.recognizedLoss = s.loss
  reported : t.reportedLoss = s.loss

structure Even : Prop where
  impaired : t.impaired = s.impaired
  lastImpaired : t.lastImpaired = s.lastImpaired

/-- The two sides agree in full and the leg has nothing open. -/
structure Settled : Prop extends Level t s, Even t s where
  principal : t.cap = s.principal
  closed : s.opened = none

/-- The leg's record of the active allocation. -/
structure Allocation (record : Leg.TransferRecord) : Prop where
  stored : s.records t.transferId = some record
  kind : record.transferKind = .allocate
  same : record.transferId = t.transferId
  sequence : record.messageSequence.raw = t.sequence
  authorized : record.authorizedAmount.raw = t.amount

/-- The leg's record of the active recall. -/
structure Recall (record : Leg.TransferRecord) : Prop where
  stored : s.records t.transferId = some record
  kind : record.transferKind = .recall
  same : record.transferId = t.transferId
  requested : record.requestedRecallAmount.raw = t.amount
  recognized : t.recognizedLoss = t.baselineLoss
  lost : s.loss = t.baselineLoss + record.realizedLoss.raw

/-- What an open recall has moved so far. -/
structure Unwinds (record : Leg.TransferRecord) : Prop where
  principal : s.principal + record.custodyPrincipalReserved.raw +
    record.strategyPrincipalResolved.raw = t.cap
  custody : s.recalled + record.assetsSent.raw =
    record.custodyPrincipalReserved.raw + record.assetsWithdrawn.raw
  split : record.strategyPrincipalResolved.raw =
    record.assetsWithdrawn.raw + record.realizedLoss.raw
  within : record.custodyPrincipalReserved.raw + record.strategyPrincipalResolved.raw ≤ t.amount
  held : record.status = .quarantined → record.custodyPrincipalReserved.raw = 0 ∧
    record.strategyPrincipalResolved.raw = 0 ∧ record.assetsWithdrawn.raw = 0 ∧
    record.assetsSent.raw = 0 ∧ record.realizedLoss.raw = 0

end Books

/- The stages. -/

section Stages

variable (t : Evm.Terms) (s : Leg.Side) (control reports : List Message)

structure Idle : Prop where
  settled : Settled t s
  running : t.closing = false
  queue : ∀ m ∈ control, Admits m
  reports : ∀ m ∈ reports, Reports s.loss m

inductive Allocating : Prop
  | sent (settled : Settled t s)
      (queue : Marked Admits (OpensAllocation t) (Follows t) control)
      (unrecorded : s.records t.transferId = none) (unnamed : s.latestCompleted ≠ t.transferId)
      (reports : ∀ m ∈ reports, Silent s.loss t.transferId m)
  | opened (record : Leg.TransferRecord) (level : Level t s) (even : Even t s)
      (isOpen : s.opened = some (.allocate, t.transferId)) (allocation : Allocation t s record)
      (waits : record.status = .pending ∨ record.status = .quarantined)
      (principal : s.principal = t.cap + record.attributedAmount.raw) (queue : Follows t control)
      (unnamed : s.latestCompleted ≠ t.transferId)
      (reports : ∀ m ∈ reports, Silent s.loss t.transferId m)
  | done (record : Leg.TransferRecord) (level : Level t s) (even : Even t s)
      (closed : s.opened = none) (allocation : Allocation t s record)
      (complete : record.status = .complete) (whole : record.attributedAmount.raw = t.amount)
      (principal : s.principal = t.cap + t.amount) (queue : Follows t control)
      (reports : ∀ m ∈ reports, Reports s.loss m) (latest : s.latestCompleted = t.transferId)
  | settling (credited : Nat) (level : Level t s) (closed : s.opened = none)
      (closing : t.closing = true) (unopened : ∀ record, s.records t.transferId = some record →
        record.transferKind = .allocate) (within : credited ≤ t.amount)
      (principal : s.principal = t.cap + credited)
      (impaired : s.impaired = t.impaired + (t.amount - credited))
      (lastImpaired : s.lastImpaired =
        if t.amount = credited then t.lastImpaired else t.sequence)
      (queue : ∀ m ∈ control, Admits m)
      (reports : Marked (Reports s.loss) (SettlesClose t credited)
        (fun after => ∀ m ∈ after, Reports s.loss m) reports)

inductive Recalling : Prop
  | sent (settled : Settled t s)
      (queue : Marked Admits (OpensRecall t) (fun after => ∀ m ∈ after, Admits m) control)
      (unrecorded : s.records t.transferId = none) (covered : t.amount ≤ t.cap)
      (baseline : t.baselineLoss = s.loss) (reports : ∀ m ∈ reports, Reports s.loss m)
  | opened (record : Leg.TransferRecord) (even : Even t s)
      (isOpen : s.opened = some (.recall, t.transferId)) (booked : Recall t s record)
      (waits : record.status = .pending ∨ record.status = .quarantined)
      (unwinds : Unwinds t s record) (covered : t.amount ≤ t.cap) (queue : ∀ m ∈ control, Admits m)
      (reports : Climbs t.reportedLoss reports s.loss)
  | done (record : Leg.TransferRecord) (even : Even t s) (closed : s.opened = none)
      (booked : Recall t s record) (complete : record.status = .complete)
      (recalled : s.recalled = 0) (principal : s.principal + t.amount = t.cap)
      (whole : record.assetsSent.raw + record.realizedLoss.raw = t.amount)
      (queue : ∀ m ∈ control, Admits m) (reports : Climbs t.reportedLoss reports s.loss)
  | noticed (loss : Nat) (even : Even t s) (closed : s.opened = none)
      (isNoticed : s.noticed t.transferId = true) (recognized : t.recognizedLoss = t.baselineLoss)
      (lost : s.loss = t.baselineLoss + loss) (recalled : s.recalled = 0)
      (principal : s.principal + t.amount = t.cap) (queue : ∀ m ∈ control, Admits m)
      (before : List Message) (notice : Message) (after : List Message)
      (order : reports = before ++ notice :: after) (climbs : Climbs t.reportedLoss before s.loss)
      (returns : Returns t loss notice) (level : ∀ m ∈ after, Reports s.loss m)

inductive Recovering : Prop
  | sent (settled : Settled t s) (impaired : t.impaired ≠ 0)
      (queue : Marked Admits (OpensRecovery t) (fun after => ∀ m ∈ after, Admits m) control)
      (unrecorded : s.records t.transferId = none) (reports : ∀ m ∈ reports, Reports s.loss m)
  | settling (credited : Nat) (level : Level t s) (closed : s.opened = none)
      (unopened : ∀ record, s.records t.transferId = some record →
        record.transferKind = .recover)
      (within : s.impaired + credited = t.impaired)
      (principal : s.principal = t.cap + credited) (lastImpaired : t.lastImpaired = s.lastImpaired)
      (queue : ∀ m ∈ control, Admits m)
      (reports : Marked (Reports s.loss) (SettlesRecovery t credited)
        (fun after => ∀ m ∈ after, Reports s.loss m) reports)

/-- Where the two sides stand, by the coordinator's active cycle. -/
inductive Stage : Prop
  | idle (kind : t.kind = .none) (stage : Idle t s control reports)
  | allocating (kind : t.kind = .allocate) (stage : Allocating t s control reports)
  | recalling (kind : t.kind = .recall) (stage : Recalling t s control reports)
  | recovering (kind : t.kind = .recover) (stage : Recovering t s control reports)

/-- Every transfer the leg or a report names was opened by the coordinator, and only the active
recall can be complete without a notice. -/
structure Named : Prop where
  zero : t.used .zero = false
  idle : t.kind = .none → t.transferId = .zero
  active : t.kind ≠ .none → t.used t.transferId = true
  records : ∀ id record, s.records id = some record → t.used id = true ∧ record.transferId = id
  completed : s.latestCompleted = .zero ∨ t.used s.latestCompleted = true
  reported : ∀ m ∈ reports, ∀ body, m.body = .remoteReport body →
    body.latestCompletedTransferId = .zero ∨ t.used body.latestCompletedTransferId = true
  noticed : ∀ id record, s.records id = some record → record.transferKind = .recall →
    record.status = .complete → s.noticed id = true ∨ id = t.transferId

end Stages

/- Rules for the queues. -/

section Queues

variable {t : Evm.Terms} {control queue : List Message} {m : Message} {low high loss : Nat}

theorem Climbs.mono {higher : Nat} (grows : high ≤ higher) :
    ∀ {low : Nat}, Climbs low queue high → Climbs low queue higher := by
  induction queue with
  | nil =>
      intro low climbs
      exact Nat.le_trans climbs grows
  | cons m rest ih =>
      rintro low ⟨body, hBody, above, climbs⟩
      exact ⟨body, hBody, above, ih climbs⟩

theorem Climbs.snoc (new : Reports high m) :
    ∀ {low : Nat}, Climbs low queue high → Climbs low (queue ++ [m]) high := by
  obtain ⟨body, hBody, rfl⟩ := new
  induction queue with
  | nil =>
      intro low climbs
      exact ⟨body, hBody, climbs, Nat.le_refl _⟩
  | cons first rest ih =>
      rintro low ⟨other, hOther, above, climbs⟩
      exact ⟨other, hOther, above, ih climbs⟩

theorem climbs_of_reports (all : ∀ m ∈ queue, Reports loss m) : Climbs loss queue loss := by
  induction queue with
  | nil => exact Nat.le_refl _
  | cons m rest ih =>
      obtain ⟨body, hBody, same⟩ := all m List.mem_cons_self
      refine ⟨body, hBody, Nat.le_of_eq same.symm, ?_⟩
      rw [same]
      exact ih (fun other member => all other (List.mem_cons_of_mem _ member))

theorem Silent.reports {transferId : Bytes32} (silent : Silent loss transferId m) :
    Reports loss m := by
  obtain ⟨body, hBody, same, -⟩ := silent
  exact ⟨body, hBody, same⟩

theorem follows_running (running : t.closing = false) :
    Follows t control ↔ ∀ m ∈ control, Admits m := by
  simp [Follows, running]

theorem follows_closing (closing : t.closing = true) :
    Follows t control ↔ Marked Admits (Closes t) (· = []) control := by
  simp [Follows, closing]

/-- The next message after an allocation is an admission or its close. -/
theorem Follows.cons (follows : Follows t (m :: queue)) :
    Admits m ∧ Follows t queue ∨ Closes t m ∧ t.closing = true ∧ queue = [] := by
  by_cases closing : t.closing = true
  · rw [follows_closing closing] at follows
    rcases follows.cons with ⟨admits, rest⟩ | ⟨closes, empty⟩
    · exact .inl ⟨admits, (follows_closing closing).mpr rest⟩
    · exact .inr ⟨closes, closing, empty⟩
  · rw [follows_running (by simpa using closing)] at follows
    refine .inl ⟨follows m List.mem_cons_self, (follows_running (by simpa using closing)).mpr ?_⟩
    exact fun other member => follows other (List.mem_cons_of_mem _ member)

end Queues

end Bridge
