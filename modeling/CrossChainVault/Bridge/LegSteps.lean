import CrossChainVault.Bridge.Agreement

set_option autoImplicit false

/- Every move of the leg takes the two sides from one stage to another. -/

namespace Leg

open Protocol

variable {s s' : Side} {m : Message} {sent : Option Message}

/- What the leg can do with the message it takes. -/

theorem SideStep.of_allocate {body : AllocateBody} (step : SideStep s (some m) sent s')
    (hBody : m.body = .allocate body) :
    ∃ record : TransferRecord, sent = none ∧ s.opened = none ∧
      record.transferKind = .allocate ∧ record.transferId = body.transferId ∧
      record.messageSequence = m.header.sequence ∧
      record.authorizedAmount.raw = body.amount.raw ∧ record.attributedAmount.raw = 0 ∧
      (record.status = .pending ∨ record.status = .quarantined) ∧
      s' = { s with
        opened := some (.allocate, body.transferId)
        records := Function.update s.records body.transferId (some record) } := by
  cases step with
  | tookAllocation _ other record hOther idle _ kind same sequence authorized nothing status =>
      cases hBody.symm.trans hOther
      exact ⟨record, rfl, idle, kind, same, sequence, authorized, nothing, status, rfl⟩
  | tookRecall _ _ _ hOther => cases hBody.symm.trans hOther
  | ignored _ _ hOther => cases hBody.symm.trans hOther
  | admittedAllocation _ _ _ hOther => cases hBody.symm.trans hOther
  | admittedRecall _ _ _ hOther => cases hBody.symm.trans hOther
  | closed _ _ _ _ _ _ _ hOther => cases hBody.symm.trans hOther
  | recovered _ _ _ _ _ _ hOther => cases hBody.symm.trans hOther

theorem SideStep.of_recall {body : RecallBody} (step : SideStep s (some m) sent s')
    (hBody : m.body = .recall body) :
    ∃ record : TransferRecord, sent = none ∧ s.opened = none ∧
      record.transferKind = .recall ∧ record.transferId = body.transferId ∧
      record.requestedRecallAmount.raw = body.requestedAmount.raw ∧
      record.custodyPrincipalReserved.raw ≤ record.requestedRecallAmount.raw ∧
      record.custodyPrincipalReserved.raw ≤ s.principal ∧
      (record.strategyPrincipalResolved.raw = 0 ∧ record.assetsWithdrawn.raw = 0 ∧
        record.assetsSent.raw = 0 ∧ record.realizedLoss.raw = 0) ∧
      (record.status = .pending ∨
        record.status = .quarantined ∧ record.custodyPrincipalReserved.raw = 0) ∧
      s' = { s with
        principal := s.principal - record.custodyPrincipalReserved.raw
        recalled := s.recalled + record.custodyPrincipalReserved.raw
        opened := some (.recall, body.transferId)
        records := Function.update s.records body.transferId (some record) } := by
  cases step with
  | tookAllocation _ _ _ hOther => cases hBody.symm.trans hOther
  | tookRecall _ other record hOther idle _ kind same requested reserved covered nothing status =>
      cases hBody.symm.trans hOther
      exact ⟨record, rfl, idle, kind, same, requested, reserved, covered, nothing, status, rfl⟩
  | ignored _ _ hOther => cases hBody.symm.trans hOther
  | admittedAllocation _ _ _ hOther => cases hBody.symm.trans hOther
  | admittedRecall _ _ _ hOther => cases hBody.symm.trans hOther
  | closed _ _ _ _ _ _ _ hOther => cases hBody.symm.trans hOther
  | recovered _ _ _ _ _ _ hOther => cases hBody.symm.trans hOther

/-- What an admission can come to. -/
inductive Admission (s : Side) : Side → Prop
  | ignored : Admission s s
  | allocation (transferId : Bytes32) (record : TransferRecord)
      (stored : s.records transferId = some record)
      (isOpen : s.opened = some (.allocate, record.transferId))
      (held : record.status = .quarantined) :
      Admission s { s with
        records := Function.update s.records transferId
          (some { record with status := .pending }) }
  | recall (transferId : Bytes32) (record : TransferRecord) (reserved : U64)
      (stored : s.records transferId = some record)
      (isOpen : s.opened = some (.recall, record.transferId))
      (held : record.status = .quarantined)
      (within : reserved.raw ≤ record.requestedRecallAmount.raw)
      (covered : reserved.raw ≤ s.principal) :
      Admission s { s with
        principal := s.principal - reserved.raw
        recalled := s.recalled + reserved.raw
        records := Function.update s.records transferId
          (some { record with custodyPrincipalReserved := reserved, status := .pending }) }

theorem SideStep.of_admit {body : ResolveBody} (step : SideStep s (some m) sent s')
    (hBody : m.body = .resolve body) (action : body.action = .admitTransfer) :
    sent = none ∧ Admission s s' := by
  cases step with
  | tookAllocation _ _ _ hOther => cases hBody.symm.trans hOther
  | tookRecall _ _ _ hOther => cases hBody.symm.trans hOther
  | ignored => exact ⟨rfl, .ignored⟩
  | admittedAllocation _ _ record _ _ stored isOpen held =>
      exact ⟨rfl, .allocation _ record stored isOpen held⟩
  | admittedRecall _ _ record _ _ stored isOpen held reserved within covered =>
      exact ⟨rfl, .recall _ record reserved stored isOpen held within covered⟩
  | closed _ _ _ _ _ _ _ hOther other =>
      cases hBody.symm.trans hOther
      cases action.symm.trans other
  | recovered _ _ _ _ _ _ hOther other =>
      cases hBody.symm.trans hOther
      cases action.symm.trans other

/-- With nothing open an admission changes nothing. -/
theorem SideStep.admit_closed {body : ResolveBody} (step : SideStep s (some m) sent s')
    (hBody : m.body = .resolve body) (action : body.action = .admitTransfer) (closed : s.opened = none) :
    sent = none ∧ s' = s := by
  obtain ⟨rfl, admission⟩ := step.of_admit hBody action
  refine ⟨rfl, ?_⟩
  cases admission with
  | ignored => rfl
  | allocation _ _ _ isOpen => cases closed.symm.trans isOpen
  | «recall» _ _ _ _ isOpen => cases closed.symm.trans isOpen

theorem SideStep.of_close {body : ResolveBody} (step : SideStep s (some m) sent s')
    (hBody : m.body = .resolve body) (action : body.action = .close) :
    ∃ (notice : Message) (settlement : TransportSettlementBody) (record record' : TransferRecord)
      (credited : Nat), sent = some notice ∧ notice.body = .transportSettlement settlement ∧
      s.records body.transferId = some record ∧ record.attributedAmount.raw ≤ credited ∧
      credited ≤ record.authorizedAmount.raw ∧ record'.transferKind = .allocate ∧
      record'.transferId = record.transferId ∧ record'.status = .closed ∧
      settlement.transferId = body.transferId ∧ settlement.kind = .closed ∧
      settlement.claimAmount.raw = record.authorizedAmount.raw ∧
      settlement.creditedAmount.raw = credited ∧
      settlement.impairedOutstanding.raw =
        s.impaired + (record.authorizedAmount.raw - credited) ∧
      s' = { s with
        principal := s.principal + (credited - record.attributedAmount.raw)
        opened := none
        impaired := s.impaired + (record.authorizedAmount.raw - credited)
        lastImpaired := if record.authorizedAmount.raw = credited then s.lastImpaired
          else record.messageSequence.raw
        records := Function.update s.records body.transferId (some record') } := by
  cases step with
  | tookAllocation _ _ _ hOther => cases hBody.symm.trans hOther
  | tookRecall _ _ _ hOther => cases hBody.symm.trans hOther
  | ignored _ _ hOther other =>
      cases hBody.symm.trans hOther
      cases action.symm.trans other
  | admittedAllocation _ _ _ hOther other =>
      cases hBody.symm.trans hOther
      cases action.symm.trans other
  | admittedRecall _ _ _ hOther other =>
      cases hBody.symm.trans hOther
      cases action.symm.trans other
  | closed _ notice _ settlement record record' credited hOther _ hNotice stored _ _ _ _ grows
      within kind same status names claims =>
      cases hBody.symm.trans hOther
      exact ⟨notice, settlement, record, record', credited, rfl, hNotice, stored, grows, within,
        kind, same, status, names.1, names.2, claims.1, claims.2.1, claims.2.2, rfl⟩
  | recovered _ _ _ _ _ _ hOther other =>
      cases hBody.symm.trans hOther
      cases action.symm.trans other

theorem SideStep.of_recover {body : ResolveBody} (step : SideStep s (some m) sent s')
    (hBody : m.body = .resolve body) (action : body.action = .recover) :
    ∃ (notice : Message) (settlement : TransportSettlementBody) (record : TransferRecord)
      (credited : Nat), sent = some notice ∧ notice.body = .transportSettlement settlement ∧
      s.opened = none ∧ record.transferKind = .recover ∧ record.transferId = body.transferId ∧
      credited ≤ s.impaired ∧ settlement.transferId = body.transferId ∧
      settlement.kind = .recovered ∧ settlement.claimAmount.raw = s.impaired ∧
      settlement.creditedAmount.raw = credited ∧
      s' = { s with
        principal := s.principal + credited
        impaired := s.impaired - credited
        records := Function.update s.records body.transferId (some record) } := by
  cases step with
  | tookAllocation _ _ _ hOther => cases hBody.symm.trans hOther
  | tookRecall _ _ _ hOther => cases hBody.symm.trans hOther
  | ignored _ _ hOther other =>
      cases hBody.symm.trans hOther
      cases action.symm.trans other
  | admittedAllocation _ _ _ hOther other =>
      cases hBody.symm.trans hOther
      cases action.symm.trans other
  | admittedRecall _ _ _ hOther other =>
      cases hBody.symm.trans hOther
      cases action.symm.trans other
  | closed _ _ _ _ _ _ _ hOther other =>
      cases hBody.symm.trans hOther
      cases action.symm.trans other
  | recovered _ notice _ settlement record credited hOther _ hNotice idle _ kind same within names
      claims =>
      cases hBody.symm.trans hOther
      exact ⟨notice, settlement, record, credited, rfl, hNotice, idle, kind, same, within, names.1,
        names.2, claims.1, claims.2.1, rfl⟩

end Leg

namespace Bridge

open Protocol Lane Leg

variable {t : Evm.Terms} {s s' : Side} {control reports : List Message} {m : Message}
  {taken sent : Option Message}

/- What the leg can do by itself. -/

/-- What the leg says while its transfers stand still. -/
inductive Speaks (t : Evm.Terms) (s : Side) : Option Message → Side → Prop
  | nothing : Speaks t s none s
  | report (m : Message) (body : RemoteReportBody) (hBody : m.body = .remoteReport body)
      (loss : body.realizedLoss.raw = s.loss)
      (names : body.latestCompletedTransferId = s.latestCompleted) : Speaks t s (some m) s
  | notice (m : Message) (body : RecallSentBody) (record : TransferRecord)
      (hBody : m.body = .recallSent body) (stored : s.records t.transferId = some record)
      (kind : record.transferKind = .recall) (complete : record.status = .complete)
      (unnoticed : s.noticed t.transferId = false) (names : body.transferId = t.transferId)
      (amounts : body.principalSent.raw = record.requestedRecallAmount.raw ∧
        body.actualAmountSent.raw = record.assetsSent.raw ∧
        body.realizedLoss.raw = record.realizedLoss.raw) :
      Speaks t s (some m) { s with noticed := Function.update s.noticed t.transferId true }

/-- Only the active recall can still be noticed. -/
theorem Named.unnoticed (named : Named t s reports) {id : Bytes32} {record : TransferRecord}
    (stored : s.records id = some record) (kind : record.transferKind = .recall)
    (complete : record.status = .complete) (unnoticed : s.noticed record.transferId = false) :
    id = t.transferId ∧ record.transferId = t.transferId := by
  have same := (named.records id record stored).2
  rw [same] at unnoticed ⊢
  rcases named.noticed id record stored kind complete with isNoticed | active
  · cases unnoticed.symm.trans isNoticed
  · exact ⟨active, active⟩

theorem speaks_of_closed (named : Named t s reports) (step : SideStep s none sent s')
    (closed : s.opened = none) : Speaks t s sent s' := by
  cases step with
  | quiet => exact .nothing
  | attributed _ _ _ _ isOpen => cases closed.symm.trans isOpen
  | completed _ _ _ _ isOpen => cases closed.symm.trans isOpen
  | progressed _ _ _ _ _ _ _ isOpen => cases closed.symm.trans isOpen
  | settled _ _ _ _ _ _ _ isOpen => cases closed.symm.trans isOpen
  | reported m body hBody loss names => exact .report m body hBody loss names
  | notified m body id record hBody stored kind complete unnoticed _ names amounts =>
      obtain ⟨rfl, same⟩ := named.unnoticed stored kind complete unnoticed
      rw [same] at unnoticed names ⊢
      exact .notice m body record hBody stored kind complete unnoticed names amounts

/- The stages. -/

/-- Appending the message of a move that published none. -/
@[simp] theorem append_none (queue : List Message) : queue ++ (none : Option Message).toList = queue :=
  List.append_nil queue

theorem Named.unrecorded (named : Named t s reports) (idle : t.kind = .none) :
    s.records t.transferId = none := by
  rw [named.idle idle]
  by_contra present
  obtain ⟨record, stored⟩ := Option.ne_none_iff_exists'.mp present
  cases named.zero.symm.trans (named.records .zero record stored).1

theorem Idle.leg (named : Named t s reports) (kind : t.kind = .none)
    (stage : Idle t s (taken.toList ++ control) reports) (step : SideStep s taken sent s') :
    Idle t s' control (reports ++ sent.toList) := by
  cases taken with
  | none =>
      cases speaks_of_closed named step stage.settled.closed with
      | nothing => simpa using stage
      | report m body hBody loss names =>
          exact { stage with reports := all_snoc stage.reports ⟨body, hBody, loss⟩ }
      | notice _ _ _ _ stored => cases (named.unrecorded kind).symm.trans stored
  | some m =>
      obtain ⟨⟨body, hBody, action⟩, queue⟩ := List.forall_mem_cons.mp stage.queue
      obtain ⟨rfl, rfl⟩ := step.admit_closed hBody action stage.settled.closed
      rw [append_none]
      exact { stage with queue := queue }

theorem Level.congr (level : Level t s) (recalled : s'.recalled = s.recalled)
    (loss : s'.loss = s.loss) : Level t s' :=
  ⟨recalled.trans level.recalled, level.recognized.trans loss.symm, level.reported.trans loss.symm⟩

theorem Even.congr (even : Even t s) (impaired : s'.impaired = s.impaired)
    (lastImpaired : s'.lastImpaired = s.lastImpaired) : Even t s' :=
  ⟨even.impaired.trans impaired.symm, even.lastImpaired.trans lastImpaired.symm⟩

/-- The leg's open transfer is the active one, under its own name. -/
theorem open_record (named : Named t s reports) {kind other : TransferKind} {id : Bytes32}
    {record found : TransferRecord} (isOpen : s.opened = some (kind, t.transferId))
    (stored : s.records t.transferId = some record) (hOpen : s.opened = some (other, found.transferId))
    (hFound : s.records id = some found) : other = kind ∧ id = t.transferId ∧ found = record := by
  have same := (named.records id found hFound).2
  rw [isOpen, Option.some.injEq, Prod.mk.injEq, same] at hOpen
  obtain ⟨rfl, rfl⟩ := hOpen
  rw [stored, Option.some.injEq] at hFound
  exact ⟨rfl, rfl, hFound.symm⟩

section Allocating

/-- Closing an allocation, whether it was open or already complete. -/
theorem Allocating.closes {record : TransferRecord} (level : Level t s) (even : Even t s)
    (allocation : Allocation t s record)
    (principal : s.principal = t.cap + record.attributedAmount.raw) (closes : Closes t m)
    (closing : t.closing = true) (reported : ∀ m ∈ reports, Reports s.loss m)
    (step : SideStep s (some m) sent s') : Allocating t s' [] (reports ++ sent.toList) := by
  obtain ⟨body, hBody, action, same, target⟩ := closes
  obtain ⟨notice, settlement, record', closed, credited, rfl, hNotice, stored, grows, within, kind,
    _, _, names, isClose, claim, credit, impaired, rfl⟩ := step.of_close hBody action
  rw [same] at stored names
  cases allocation.stored.symm.trans stored
  rw [allocation.authorized] at within claim impaired
  rw [same]
  refine .settling credited (level.congr rfl rfl) rfl closing ?_ within ?_ ?_ ?_ nofun ?_
  · intro other found
    cases (Function.update_self _ _ _).symm.trans found
    exact kind
  · show s.principal + (credited - record.attributedAmount.raw) = t.cap + credited
    omega
  · show s.impaired + (record.authorizedAmount.raw - credited) = _
    rw [allocation.authorized, even.impaired]
  · show (if record.authorizedAmount.raw = credited then s.lastImpaired
      else record.messageSequence.raw) = _
    rw [allocation.authorized, allocation.sequence, even.lastImpaired]
  · refine Marked.snoc_mark reported ⟨settlement, hNotice, isClose, names, claim, credit, ?_⟩ nofun
    rw [impaired, even.impaired]

/-- The open allocation's record after it changed what it attributed or its status. -/
theorem Allocation.update {record record' : TransferRecord} (allocation : Allocation t s record)
    (records : s'.records = Function.update s.records t.transferId (some record'))
    (kind : record'.transferKind = record.transferKind)
    (same : record'.transferId = record.transferId)
    (sequence : record'.messageSequence = record.messageSequence)
    (authorized : record'.authorizedAmount = record.authorizedAmount) :
    Allocation t s' record' where
  stored := by rw [records, Function.update_self]
  kind := kind.trans allocation.kind
  same := same.trans allocation.same
  sequence := by rw [sequence, allocation.sequence]
  authorized := by rw [authorized, allocation.authorized]

/-- What the leg does by itself while an allocation is open. -/
theorem Allocating.works (named : Named t s reports) {record : TransferRecord} (level : Level t s)
    (even : Even t s) (isOpen : s.opened = some (.allocate, t.transferId))
    (allocation : Allocation t s record)
    (waits : record.status = .pending ∨ record.status = .quarantined)
    (principal : s.principal = t.cap + record.attributedAmount.raw) (queue : Follows t control)
    (unnamed : s.latestCompleted ≠ t.transferId)
    (reported : ∀ m ∈ reports, Silent s.loss t.transferId m) (step : SideStep s none sent s') :
    Allocating t s' control (reports ++ sent.toList) := by
  cases step with
  | quiet =>
      rw [append_none]
      exact .opened record level even isOpen allocation waits principal queue unnamed reported
  | attributed id other total stored hOpen pending grows short =>
      obtain ⟨-, rfl, rfl⟩ := open_record named isOpen allocation.stored hOpen stored
      rw [append_none]
      refine .opened { other with attributedAmount := total } (level.congr rfl rfl)
        (even.congr rfl rfl) isOpen (allocation.update rfl rfl rfl rfl rfl) waits ?_ queue unnamed
        reported
      show s.principal + (total.raw - other.attributedAmount.raw) = t.cap + total.raw
      omega
  | completed id other record' stored hOpen pending within kind same sequence authorized whole
      complete =>
      obtain ⟨-, rfl, rfl⟩ := open_record named isOpen allocation.stored hOpen stored
      have amount := allocation.authorized
      rw [append_none]
      refine .done record' (level.congr rfl rfl) (even.congr rfl rfl) rfl
        (allocation.update rfl kind same sequence authorized) complete (by rw [whole, amount]) ?_
        queue (fun m member => (reported m member).reports) allocation.same
      show s.principal + (other.authorizedAmount.raw - other.attributedAmount.raw) = _
      omega
  | progressed _ _ _ _ _ _ stored hOpen =>
      cases (open_record named isOpen allocation.stored hOpen stored).1
  | settled _ _ _ _ _ _ stored hOpen =>
      cases (open_record named isOpen allocation.stored hOpen stored).1
  | reported m body hBody loss names =>
      exact .opened record level even isOpen allocation waits principal queue unnamed
        (all_snoc reported ⟨body, hBody, loss, names ▸ unnamed⟩)
  | notified m body id other hBody stored kind complete unnoticed _ names amounts =>
      obtain ⟨rfl, -⟩ := named.unnoticed stored kind complete unnoticed
      cases allocation.stored.symm.trans stored
      cases allocation.kind.symm.trans kind

theorem Allocating.leg (named : Named t s reports)
    (stage : Allocating t s (taken.toList ++ control) reports) (step : SideStep s taken sent s') :
    Allocating t s' control (reports ++ sent.toList) := by
  cases stage with
  | sent settled queue unrecorded unnamed reported =>
      cases taken with
      | none =>
          cases speaks_of_closed named step settled.closed with
          | nothing =>
              rw [append_none]
              exact .sent settled queue unrecorded unnamed reported
          | report m body hBody loss names =>
              exact .sent settled queue unrecorded unnamed
                (all_snoc reported ⟨body, hBody, loss, names ▸ unnamed⟩)
          | notice _ _ _ _ stored => cases unrecorded.symm.trans stored
      | some m =>
          rcases Marked.cons queue with ⟨⟨body, hBody, action⟩, rest⟩ |
            ⟨⟨body, hBody, same, amount, sequence⟩, rest⟩
          · obtain ⟨rfl, rfl⟩ := step.admit_closed hBody action settled.closed
            rw [append_none]
            exact .sent settled rest unrecorded unnamed reported
          · obtain ⟨record, rfl, _, kind, hSame, hSequence, authorized, nothing, waits, rfl⟩ :=
              step.of_allocate hBody
            rw [append_none, same]
            refine .opened record (settled.toLevel.congr rfl rfl) (settled.toEven.congr rfl rfl) rfl
              ⟨Function.update_self _ _ _, kind, hSame.trans same, ?_, authorized.trans amount⟩
              waits ?_ rest unnamed reported
            · rw [hSequence]
              exact sequence
            · show s.principal = t.cap + record.attributedAmount.raw
              rw [nothing, settled.principal]
              rfl
  | opened record level even isOpen allocation waits principal queue unnamed reported =>
      cases taken with
      | none =>
          exact works named level even isOpen allocation waits principal queue unnamed reported step
      | some m =>
          rcases Follows.cons queue with ⟨⟨body, hBody, action⟩, rest⟩ | ⟨closes', closing, rfl⟩
          · obtain ⟨rfl, admission⟩ := step.of_admit hBody action
            rw [append_none]
            cases admission with
            | ignored =>
                exact .opened record level even isOpen allocation waits principal rest unnamed
                  reported
            | allocation id other stored hOpen held =>
                obtain ⟨-, rfl, rfl⟩ := open_record named isOpen allocation.stored hOpen stored
                exact .opened _ (level.congr rfl rfl) (even.congr rfl rfl) isOpen
                  (allocation.update rfl rfl rfl rfl rfl) (.inl rfl) principal rest unnamed reported
            | «recall» _ _ _ stored hOpen =>
                cases (open_record named isOpen allocation.stored hOpen stored).1
          · exact closes level even allocation principal closes' closing
              (fun m member => (reported m member).reports) step
  | done record level even closed allocation complete whole principal queue reported latest =>
      cases taken with
      | none =>
          cases speaks_of_closed named step closed with
          | nothing =>
              rw [append_none]
              exact .done record level even closed allocation complete whole principal queue reported
                latest
          | report m body hBody loss names =>
              exact .done record level even closed allocation complete whole principal queue
                (all_snoc reported ⟨body, hBody, loss⟩) latest
          | notice _ _ _ _ stored kind =>
              cases allocation.stored.symm.trans stored
              cases allocation.kind.symm.trans kind
      | some m =>
          rcases Follows.cons queue with ⟨⟨body, hBody, action⟩, rest⟩ | ⟨closes', closing, rfl⟩
          · obtain ⟨rfl, rfl⟩ := step.admit_closed hBody action closed
            rw [append_none]
            exact .done record level even closed allocation complete whole principal rest reported
              latest
          · exact closes level even allocation (whole ▸ principal) closes' closing reported step
  | settling credited level closed closing unopened within principal impaired lastImpaired queue
      reported =>
      cases taken with
      | none =>
          cases speaks_of_closed named step closed with
          | nothing =>
              rw [append_none]
              exact .settling credited level closed closing unopened within principal impaired
                lastImpaired queue reported
          | report m body hBody loss names =>
              exact .settling credited level closed closing unopened within principal impaired
                lastImpaired queue
                (Marked.snoc reported (fun _ all => all_snoc all ⟨body, hBody, loss⟩))
          | notice _ _ _ _ stored kind => cases (unopened _ stored).symm.trans kind
      | some m =>
          obtain ⟨⟨body, hBody, action⟩, rest⟩ := List.forall_mem_cons.mp queue
          obtain ⟨rfl, rfl⟩ := step.admit_closed hBody action closed
          rw [append_none]
          exact .settling credited level closed closing unopened within principal impaired
            lastImpaired rest reported

end Allocating

end Bridge
