import CrossChainVault.Bridge.LegStages

set_option autoImplicit false

/- Every move of the vault takes the two sides from one stage to another. -/

namespace Bridge

open Protocol Lane Leg

variable {t : Evm.Terms} {s : Side} {control reports : List Message} {m : Message}

/- Only what the vault knows changes. -/

theorem Level.known {t' : Evm.Terms} (level : Level t s) (recognized : t'.recognizedLoss = t.recognizedLoss)
    (reported : t'.reportedLoss = t.reportedLoss) : Level t' s :=
  ⟨level.recalled, recognized.trans level.recognized, reported.trans level.reported⟩

theorem Even.known {t' : Evm.Terms} (even : Even t s) (impaired : t'.impaired = t.impaired)
    (lastImpaired : t'.lastImpaired = t.lastImpaired) : Even t' s :=
  ⟨impaired.trans even.impaired, lastImpaired.trans even.lastImpaired⟩

section Opening

variable {id : Bytes32}

theorem Named.fresh (named : Named t s reports) (fresh : t.used id = false) :
    s.records id = none := by
  by_contra present
  obtain ⟨record, stored⟩ := Option.ne_none_iff_exists'.mp present
  cases fresh.symm.trans (named.records id record stored).1

/-- Nothing was ever completed under an unused id. -/
theorem Named.unnamed (named : Named t s reports) (fresh : t.used id = false) (nonzero : id.raw ≠ 0) :
    s.latestCompleted ≠ id ∧ ∀ m ∈ reports, ∀ body, m.body = .remoteReport body →
      body.latestCompletedTransferId ≠ id := by
  have other : ∀ {latest : Bytes32}, latest = .zero ∨ t.used latest = true → latest ≠ id := by
    intro latest known same
    subst same
    rcases known with rfl | used
    · exact nonzero rfl
    · cases fresh.symm.trans used
  refine ⟨other named.completed, ?_⟩
  intro m member body hBody
  exact other (named.reported m member body hBody)

theorem Settled.opens (settled : Settled t s) {t' : Evm.Terms}
    (same : t'.recognizedLoss = t.recognizedLoss ∧ t'.reportedLoss = t.reportedLoss ∧
      t'.impaired = t.impaired ∧ t'.lastImpaired = t.lastImpaired ∧ t'.cap = t.cap) :
    Settled t' s where
  toLevel := settled.toLevel.known same.1 same.2.1
  toEven := settled.toEven.known same.2.2.1 same.2.2.2.1
  principal := same.2.2.2.2.trans settled.principal
  closed := settled.closed

theorem Idle.allocates {body : AllocateBody} (stage : Idle t s control reports)
    (named : Named t s reports) (hBody : m.body = .allocate body) (nonzero : body.transferId.raw ≠ 0)
    (fresh : t.used body.transferId = false) :
    Allocating (t.opens .allocate body.transferId body.amount.raw m) s (control ++ [m]) reports := by
  obtain ⟨unnamed, silent⟩ := named.unnamed fresh nonzero
  refine .sent (stage.settled.opens ⟨rfl, rfl, rfl, rfl, rfl⟩) ?_ (named.fresh fresh) unnamed ?_
  · refine Marked.snoc_mark stage.queue ⟨body, hBody, rfl, rfl, rfl⟩ ?_
    have running : (t.opens .allocate body.transferId body.amount.raw m).closing = false :=
      stage.running
    exact (follows_running running).mpr nofun
  · intro report member
    obtain ⟨other, hOther, loss⟩ := stage.reports report member
    exact ⟨other, hOther, loss, silent report member other hOther⟩

theorem Idle.recalls {body : RecallBody} (stage : Idle t s control reports)
    (named : Named t s reports) (hBody : m.body = .recall body)
    (fresh : t.used body.transferId = false) (covered : body.requestedAmount.raw ≤ t.cap) :
    Recalling { t.opens .recall body.transferId body.requestedAmount.raw m with
      baselineLoss := t.reportedLoss } s (control ++ [m]) reports :=
  .sent (stage.settled.opens ⟨rfl, rfl, rfl, rfl, rfl⟩)
    (Marked.snoc_mark stage.queue ⟨body, hBody, rfl, rfl⟩ nofun) (named.fresh fresh) covered
    stage.settled.reported stage.reports

theorem Idle.recovers {body : ResolveBody} (stage : Idle t s control reports)
    (named : Named t s reports) (hBody : m.body = .resolve body) (action : body.action = .recover)
    (fresh : t.used body.transferId = false) (impaired : t.impaired ≠ 0)
    (target : body.targetSequence.raw = t.lastImpaired) :
    Recovering (t.opens .recover body.transferId 0 m) s (control ++ [m]) reports :=
  .sent (stage.settled.opens ⟨rfl, rfl, rfl, rfl, rfl⟩) impaired
    (Marked.snoc_mark stage.queue ⟨body, hBody, action, rfl, target⟩ nofun) (named.fresh fresh)
    stage.reports

/-- A new cycle under an unused id. -/
theorem Named.opens {t' : Evm.Terms} (named : Named t s reports) (idle : t.kind = .none)
    (nonzero : id.raw ≠ 0) (used : t'.used = Function.update t.used id true)
    (transferId : t'.transferId = id) (active : t'.kind ≠ .none) : Named t' s reports where
  zero := by
    rw [used, Function.update_of_ne]
    · exact named.zero
    · intro same
      rw [← same] at nonzero
      exact nonzero rfl
  idle none := absurd none active
  active _ := by rw [used, transferId, Function.update_self]
  records other record stored := by
    obtain ⟨known, same⟩ := named.records other record stored
    rw [used]
    exact ⟨Evm.Terms.still_used known id, same⟩
  completed := by
    rw [used]
    rcases named.completed with nothing | known
    · exact .inl nothing
    · exact .inr (Evm.Terms.still_used known id)
  reported report member body hBody := by
    rw [used]
    rcases named.reported report member body hBody with nothing | known
    · exact .inl nothing
    · exact .inr (Evm.Terms.still_used known id)
  noticed other record stored kind complete := by
    rcases named.noticed other record stored kind complete with noticed | rfl
    · exact .inl noticed
    · cases (named.unrecorded idle).symm.trans stored

end Opening

/-- The names do not depend on anything else the vault records. -/
theorem Named.known {t' : Evm.Terms} (named : Named t s reports) (used : t'.used = t.used)
    (kind : t'.kind = t.kind) (transferId : t'.transferId = t.transferId) : Named t' s reports where
  zero := by
    rw [used]
    exact named.zero
  idle := by
    rw [kind, transferId]
    exact named.idle
  active := by
    rw [kind, used, transferId]
    exact named.active
  records := by
    rw [used]
    exact named.records
  completed := by
    rw [used]
    exact named.completed
  reported := by
    rw [used]
    exact named.reported
  noticed := by
    rw [transferId]
    exact named.noticed

/-- The reports left once one was taken. -/
theorem Named.rest (named : Named t s (m :: reports)) : Named t s reports :=
  { named with reported := fun other member => named.reported other (List.mem_cons_of_mem _ member) }

/-- A cycle is over, and its recall was noticed. -/
theorem Named.ends {t' : Evm.Terms} (named : Named t s reports) (used : t'.used = t.used)
    (kind : t'.kind = .none) (transferId : t'.transferId = .zero)
    (noticed : ∀ record, s.records t.transferId = some record → record.transferKind = .recall →
      s.noticed t.transferId = true) : Named t' s reports where
  zero := by
    rw [used]
    exact named.zero
  idle _ := transferId
  active busy := absurd kind busy
  records := by
    rw [used]
    exact named.records
  completed := by
    rw [used]
    exact named.completed
  reported := by
    rw [used]
    exact named.reported
  noticed other record stored isRecall complete := by
    rcases named.noticed other record stored isRecall complete with already | rfl
    · exact .inl already
    · exact .inl (noticed record stored isRecall)

section Admitting

/-- The coordinator admits the transfer that is open. -/
theorem Stage.admits (stage : Stage t s control reports) (running : t.closing = false)
    (active : t.kind = .allocate ∨ t.kind = .recall) (admits : Admits m) :
    Stage t s (control ++ [m]) reports := by
  have follows : ∀ queue, Follows t queue → Follows t (queue ++ [m]) := by
    intro queue all
    rw [follows_running running] at all ⊢
    exact all_snoc all admits
  cases stage with
  | idle kind =>
      rw [kind] at active
      rcases active with allocating | recalling
      · cases allocating
      · cases recalling
  | allocating kind stage =>
      refine .allocating kind ?_
      cases stage with
      | sent settled queue unrecorded unnamed reported =>
          exact .sent settled (queue.snoc follows) unrecorded unnamed reported
      | opened record level even isOpen allocation waits principal queue unnamed reported =>
          exact .opened record level even isOpen allocation waits principal (follows _ queue) unnamed
            reported
      | done record level even closed allocation complete whole principal queue reported latest =>
          exact .done record level even closed allocation complete whole principal
            (follows _ queue) reported latest
      | settling _ _ _ closing => cases running.symm.trans closing
  | recalling kind stage =>
      refine .recalling kind ?_
      cases stage with
      | sent settled queue unrecorded covered baseline reported =>
          exact .sent settled (queue.snoc fun _ all => all_snoc all admits) unrecorded covered baseline
            reported
      | opened record even isOpen booked waits unwinds covered queue climbs =>
          exact .opened record even isOpen booked waits unwinds covered (all_snoc queue admits) climbs
      | done record even closed booked complete recalled principal whole queue climbs =>
          exact .done record even closed booked complete recalled principal whole
            (all_snoc queue admits) climbs
      | noticed loss even closed isNoticed recognized lost recalled principal queue before notice
          after order climbs returns level =>
          exact .noticed loss even closed isNoticed recognized lost recalled principal
            (all_snoc queue admits) before notice after order climbs returns level
  | recovering kind =>
      rw [kind] at active
      rcases active with allocating | recalling
      · cases allocating
      · cases recalling

/-- The coordinator asks for the open allocation to be closed. -/
theorem Allocating.asks (stage : Allocating t s control reports) (running : t.closing = false)
    (closes : Closes t m) :
    Allocating { t with closing := true } s (control ++ [m]) reports := by
  have follows : ∀ queue, Follows t queue → Follows { t with closing := true } (queue ++ [m]) := by
    intro queue all
    rw [follows_running running] at all
    exact (follows_closing rfl).mpr (Marked.snoc_mark all closes rfl)
  cases stage with
  | sent settled queue unrecorded unnamed reported =>
      exact .sent (settled.opens ⟨rfl, rfl, rfl, rfl, rfl⟩) (queue.snoc follows) unrecorded unnamed
        reported
  | opened record level even isOpen allocation waits principal queue unnamed reported =>
      exact .opened record (level.known rfl rfl) (even.known rfl rfl) isOpen
        ⟨allocation.stored, allocation.kind, allocation.same, allocation.sequence,
          allocation.authorized⟩ waits principal (follows _ queue) unnamed reported
  | done record level even closed allocation complete whole principal queue reported latest =>
      exact .done record (level.known rfl rfl) (even.known rfl rfl) closed
        ⟨allocation.stored, allocation.kind, allocation.same, allocation.sequence,
          allocation.authorized⟩ complete whole principal (follows _ queue) reported latest
  | settling _ _ _ closing => cases running.symm.trans closing

end Admitting

section Hearing

variable {body : RemoteReportBody} {loss : Nat}

/-- What the vault hears outside a recall it knows already. -/
theorem Reports.same (reports : Reports loss m) (hBody : m.body = .remoteReport body) :
    body.realizedLoss.raw = loss := by
  obtain ⟨other, hOther, same⟩ := reports
  cases hBody.symm.trans hOther
  exact same

theorem Reports.not_settlement {settlement : TransportSettlementBody} (reports : Reports loss m) :
    m.body ≠ .transportSettlement settlement := by
  intro hBody
  obtain ⟨_, hOther, -⟩ := reports
  cases hBody.symm.trans hOther

theorem Level.heard (level : Level t s) (same : body.realizedLoss.raw = s.loss) :
    Level { t with reportedLoss := body.realizedLoss.raw } s :=
  ⟨level.recalled, level.recognized, same⟩

theorem Settled.heard (settled : Settled t s) (same : body.realizedLoss.raw = s.loss) :
    Settled { t with reportedLoss := body.realizedLoss.raw } s where
  toLevel := settled.toLevel.heard same
  toEven := settled.toEven.known rfl rfl
  principal := settled.principal
  closed := settled.closed

theorem Allocating.hears (stage : Allocating t s control (m :: reports))
    (hBody : m.body = .remoteReport body) :
    Allocating { t with reportedLoss := body.realizedLoss.raw } s control reports := by
  cases stage with
  | sent settled queue unrecorded unnamed reported =>
      obtain ⟨here, rest⟩ := List.forall_mem_cons.mp reported
      exact .sent (settled.heard (here.reports.same hBody)) queue unrecorded unnamed rest
  | opened record level even isOpen allocation waits principal queue unnamed reported =>
      obtain ⟨here, rest⟩ := List.forall_mem_cons.mp reported
      exact .opened record (level.heard (here.reports.same hBody)) (even.known rfl rfl) isOpen
        ⟨allocation.stored, allocation.kind, allocation.same, allocation.sequence,
          allocation.authorized⟩ waits principal queue unnamed rest
  | done record level even closed allocation complete whole principal queue reported latest =>
      obtain ⟨here, rest⟩ := List.forall_mem_cons.mp reported
      exact .done record (level.heard (here.same hBody)) (even.known rfl rfl) closed
        ⟨allocation.stored, allocation.kind, allocation.same, allocation.sequence,
          allocation.authorized⟩ complete whole principal queue rest latest
  | settling credited level closed closing unopened within principal impaired lastImpaired queue
      reported =>
      rcases reported.cons with ⟨here, rest⟩ | ⟨⟨other, hOther, -⟩, -⟩
      · exact .settling credited (level.heard (here.same hBody)) closed closing unopened within
          principal impaired lastImpaired queue rest
      · cases hBody.symm.trans hOther

/-- A report taken from a lane of reports whose losses never fall. -/
theorem Climbs.heard {low high : Nat} (climbs : Climbs low (m :: reports) high)
    (hBody : m.body = .remoteReport body) : Climbs body.realizedLoss.raw reports high := by
  obtain ⟨other, hOther, -, rest⟩ := climbs
  cases hBody.symm.trans hOther
  exact rest

theorem Recalling.hears (stage : Recalling t s control (m :: reports))
    (hBody : m.body = .remoteReport body) :
    Recalling { t with reportedLoss := body.realizedLoss.raw } s control reports := by
  cases stage with
  | sent settled queue unrecorded covered baseline reported =>
      obtain ⟨here, rest⟩ := List.forall_mem_cons.mp reported
      exact .sent (settled.heard (here.same hBody)) queue unrecorded covered baseline rest
  | opened record even isOpen booked waits unwinds covered queue climbs =>
      exact .opened record (even.known rfl rfl) isOpen
        ⟨booked.stored, booked.kind, booked.same, booked.requested, booked.recognized, booked.lost⟩
        waits ⟨unwinds.principal, unwinds.custody, unwinds.split, unwinds.within, unwinds.held⟩
        covered queue (climbs.heard hBody)
  | done record even closed booked complete recalled principal whole queue climbs =>
      exact .done record (even.known rfl rfl) closed
        ⟨booked.stored, booked.kind, booked.same, booked.requested, booked.recognized, booked.lost⟩
        complete recalled principal whole queue (climbs.heard hBody)
  | noticed loss even closed isNoticed recognized lost recalled principal queue before notice after
      order climbs returns level =>
      cases before with
      | nil =>
          cases order
          obtain ⟨other, hOther, -⟩ := returns
          cases hBody.symm.trans hOther
      | cons first before =>
          cases order
          exact .noticed loss (even.known rfl rfl) closed isNoticed recognized lost recalled principal
            queue before notice after rfl (climbs.heard hBody) returns level

theorem Recovering.hears (stage : Recovering t s control (m :: reports))
    (hBody : m.body = .remoteReport body) :
    Recovering { t with reportedLoss := body.realizedLoss.raw } s control reports := by
  cases stage with
  | sent settled impaired queue unrecorded reported =>
      obtain ⟨here, rest⟩ := List.forall_mem_cons.mp reported
      exact .sent (settled.heard (here.same hBody)) impaired queue unrecorded rest
  | settling credited level closed unopened within principal lastImpaired queue reported =>
      rcases reported.cons with ⟨here, rest⟩ | ⟨⟨other, hOther, -⟩, -⟩
      · exact .settling credited (level.heard (here.same hBody)) closed unopened within principal
          lastImpaired queue rest
      · cases hBody.symm.trans hOther

theorem Stage.hears (stage : Stage t s control (m :: reports))
    (hBody : m.body = .remoteReport body) :
    Stage { t with reportedLoss := body.realizedLoss.raw } s control reports := by
  cases stage with
  | idle kind stage =>
      obtain ⟨here, rest⟩ := List.forall_mem_cons.mp stage.reports
      exact .idle kind ⟨stage.settled.heard (here.same hBody), stage.running, stage.queue, rest⟩
  | allocating kind stage => exact .allocating kind (stage.hears hBody)
  | recalling kind stage => exact .recalling kind (stage.hears hBody)
  | recovering kind stage => exact .recovering kind (stage.hears hBody)

end Hearing

section Ending

/-- The active transfer is over: nothing is open, and its recall was noticed. -/
structure Ended (t t' : Evm.Terms) (s : Side) (control reports : List Message) : Prop where
  idle : Idle t' s control reports
  noticed : ∀ record, s.records t.transferId = some record → record.transferKind = .recall →
    s.noticed t.transferId = true

theorem Allocating.completes {body : RemoteReportBody}
    (stage : Allocating t s control (m :: reports)) (hBody : m.body = .remoteReport body)
    (running : t.closing = false) (names : body.latestCompletedTransferId = t.transferId) :
    Ended t { t.idle with reportedLoss := body.realizedLoss.raw, cap := t.cap + t.amount } s control
      reports := by
  have loud : ¬ Silent s.loss t.transferId m := by
    rintro ⟨other, hOther, -, unnamed⟩
    cases hBody.symm.trans hOther
    exact unnamed names
  cases stage with
  | sent _ _ _ _ reported => exact absurd (reported m List.mem_cons_self) loud
  | opened _ _ _ _ _ _ _ _ _ reported => exact absurd (reported m List.mem_cons_self) loud
  | done record level even closed allocation complete whole principal queue reported =>
      obtain ⟨here, rest⟩ := List.forall_mem_cons.mp reported
      refine ⟨⟨?_, rfl, (follows_running running).mp queue, rest⟩, ?_⟩
      · exact {
          recalled := level.recalled
          recognized := level.recognized
          reported := here.same hBody
          impaired := even.impaired
          lastImpaired := even.lastImpaired
          principal := principal.symm
          closed := closed }
      · intro other stored isRecall
        cases allocation.stored.symm.trans stored
        cases allocation.kind.symm.trans isRecall
  | settling _ _ _ closing => cases running.symm.trans closing

theorem Allocating.settles {body : TransportSettlementBody}
    (stage : Allocating t s control (m :: reports)) (hBody : m.body = .transportSettlement body) :
    Ended t { t.idle with
      lastImpaired := if t.amount = body.creditedAmount.raw then t.lastImpaired else t.sequence
      cap := t.cap + body.creditedAmount.raw
      impaired := t.impaired + (t.amount - body.creditedAmount.raw) } s control reports := by
  cases stage with
  | sent _ _ _ _ reported =>
      exact absurd hBody (reported m List.mem_cons_self).reports.not_settlement
  | opened _ _ _ _ _ _ _ _ _ reported =>
      exact absurd hBody (reported m List.mem_cons_self).reports.not_settlement
  | done _ _ _ _ _ _ _ _ _ reported =>
      exact absurd hBody (reported m List.mem_cons_self).not_settlement
  | settling credited level closed closing unopened within principal impaired lastImpaired queue
      reported =>
      rcases reported.cons with ⟨here, -⟩ | ⟨⟨other, hOther, -, -, -, rfl, -⟩, rest⟩
      · exact absurd hBody here.not_settlement
      · cases hBody.symm.trans hOther
        refine ⟨⟨?_, rfl, queue, rest⟩, ?_⟩
        · exact {
            recalled := level.recalled
            recognized := level.recognized
            reported := level.reported
            impaired := impaired.symm
            lastImpaired := lastImpaired.symm
            principal := principal.symm
            closed := closed }
        · intro record stored isRecall
          cases (unopened record stored).symm.trans isRecall

theorem Recovering.settles {body : TransportSettlementBody}
    (stage : Recovering t s control (m :: reports)) (hBody : m.body = .transportSettlement body) :
    Ended t { t.idle with
      cap := t.cap + body.creditedAmount.raw
      impaired := t.impaired - body.creditedAmount.raw } s control reports := by
  cases stage with
  | sent _ _ _ _ reported => exact absurd hBody (reported m List.mem_cons_self).not_settlement
  | settling credited level closed unopened within principal lastImpaired queue reported =>
      rcases reported.cons with ⟨here, -⟩ | ⟨⟨other, hOther, -, -, -, rfl⟩, rest⟩
      · exact absurd hBody here.not_settlement
      · cases hBody.symm.trans hOther
        refine ⟨⟨?_, rfl, queue, rest⟩, ?_⟩
        · exact {
            recalled := level.recalled
            recognized := level.recognized
            reported := level.reported
            impaired := by
              show t.impaired - body.creditedAmount.raw = s.impaired
              omega
            lastImpaired := lastImpaired
            principal := principal.symm
            closed := closed }
        · intro record stored isRecall
          cases (unopened record stored).symm.trans isRecall

/-- A lane of reports holds no notice. -/
theorem Climbs.not_notice {body : RecallSentBody} {low high : Nat}
    (climbs : Climbs low (m :: reports) high) : m.body ≠ .recallSent body := by
  intro hBody
  obtain ⟨_, hOther, -⟩ := climbs
  cases hBody.symm.trans hOther

theorem Recalling.returns {body : RecallSentBody} (stage : Recalling t s control (m :: reports))
    (hBody : m.body = .recallSent body) :
    Ended t { t.idle with
      reportedLoss := max t.reportedLoss (t.baselineLoss + body.realizedLoss.raw)
      baselineLoss := 0
      cap := t.cap - body.principalSent.raw
      recognizedLoss := t.recognizedLoss + body.realizedLoss.raw } s control reports := by
  cases stage with
  | sent _ _ _ _ _ reported =>
      obtain ⟨_, hOther, -⟩ := reported m List.mem_cons_self
      cases hBody.symm.trans hOther
  | opened _ _ _ _ _ _ _ _ climbs => exact absurd hBody climbs.not_notice
  | done _ _ _ _ _ _ _ _ _ climbs => exact absurd hBody climbs.not_notice
  | noticed loss even closed isNoticed recognized lost recalled principal queue before notice after
      order climbs returns level =>
      cases before with
      | cons first before =>
          cases order
          exact absurd hBody climbs.not_notice
      | nil =>
          cases order
          obtain ⟨other, hOther, -, sentPrincipal, -, rfl⟩ := returns
          cases hBody.symm.trans hOther
          have known : t.reportedLoss ≤ s.loss := climbs
          refine ⟨⟨?_, rfl, queue, level⟩, fun _ _ _ => isNoticed⟩
          exact {
            recalled := recalled
            recognized := by
              show t.recognizedLoss + body.realizedLoss.raw = s.loss
              omega
            reported := by
              show max t.reportedLoss (t.baselineLoss + body.realizedLoss.raw) = s.loss
              omega
            impaired := even.impaired
            lastImpaired := even.lastImpaired
            principal := by
              show t.cap - body.principalSent.raw = s.principal
              omega
            closed := closed }

end Ending

/-- No accepted transaction of the vault, alone or with a report it takes, leaves the agreement. -/
theorem Stage.hub {h h' : Evm.Hub} {taken sent : Option Message}
    (named : Named h.toTerms s (taken.toList ++ reports))
    (stage : Stage h.toTerms s control (taken.toList ++ reports))
    (step : Evm.HubStep h taken sent h') :
    Stage h'.toTerms s (control ++ sent.toList) reports ∧ Named h'.toTerms s reports := by
  have idles (none : h.kind = .none) : Idle h.toTerms s control (taken.toList ++ reports) := by
    cases stage with
    | idle _ stage => exact stage
    | allocating active => cases none.symm.trans active
    | recalling active => cases none.symm.trans active
    | recovering active => cases none.symm.trans active
  have allocates (active : h.kind = .allocate) :
      Allocating h.toTerms s control (taken.toList ++ reports) := by
    cases stage with
    | allocating _ stage => exact stage
    | idle other => cases active.symm.trans other
    | recalling other => cases active.symm.trans other
    | recovering other => cases active.symm.trans other
  have ends {t' : Evm.Terms} (ended : Ended h.toTerms t' s control reports)
      (used : t'.used = h.used) (kind : t'.kind = .none) (transferId : t'.transferId = .zero)
      (rest : Named h.toTerms s reports) :
      Stage t' s (control ++ (none : Option Message).toList) reports ∧ Named t' s reports := by
    rw [append_none]
    exact ⟨.idle kind ended.idle, rest.ends used kind transferId ended.noticed⟩
  cases step with
  | quiet inbound drains =>
      rw [append_none]
      exact ⟨stage, named⟩
  | allocated message body hBody none nonzero fresh =>
      exact ⟨.allocating rfl ((idles none).allocates named hBody nonzero fresh),
        named.opens none nonzero rfl rfl nofun⟩
  | recalled message body hBody none nonzero fresh _ covered =>
      exact ⟨.recalling rfl ((idles none).recalls named hBody fresh covered),
        named.opens none nonzero rfl rfl nofun⟩
  | admitted message body hBody action active same target running =>
      exact ⟨stage.admits running active ⟨body, hBody, action⟩, named⟩
  | closing message body hBody action active same target running =>
      exact ⟨.allocating active ((allocates active).asks running ⟨body, hBody, action, same, target⟩),
        named.known rfl rfl rfl⟩
  | recovering message body hBody action none nonzero fresh impaired target =>
      exact ⟨.recovering rfl ((idles none).recovers named hBody action fresh impaired target),
        named.opens none nonzero rfl rfl nofun⟩
  | heard message body hBody grows accepted within =>
      rw [append_none]
      exact ⟨stage.hears hBody, named.rest.known rfl rfl rfl⟩
  | completed message body hBody grows active running names covered accepted within =>
      exact ends ((allocates active).completes hBody running names) rfl rfl rfl named.rest
  | returned message body hBody active names split covered accepted inbound value arriving =>
      have recalls : Recalling h.toTerms s control (message :: reports) := by
        cases stage with
        | recalling _ stage => exact stage
        | idle other => cases active.symm.trans other
        | allocating other => cases active.symm.trans other
        | recovering other => cases active.symm.trans other
      exact ends (recalls.returns hBody) rfl rfl rfl named.rest
  | closed message body hBody kind active closing names claim within covered =>
      exact ends ((allocates active).settles hBody) rfl rfl rfl named.rest
  | recovered message body hBody kind active names within =>
      have recovers : Recovering h.toTerms s control (message :: reports) := by
        cases stage with
        | recovering _ stage => exact stage
        | idle other => cases active.symm.trans other
        | allocating other => cases active.symm.trans other
        | recalling other => cases active.symm.trans other
      exact ends (recovers.settles hBody) rfl rfl rfl named.rest

end Bridge
