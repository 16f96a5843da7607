import CrossChainVault.Bridge.Config
import CrossChainVault.Bridge.Principal
import CrossChainVault.Leg.Settings

set_option autoImplicit false

/- When the leg accepts what the coordinator published. -/

namespace Bridge

open Result Protocol Lane Leg

/- What the next message on the control lane finds. -/

section Fronts

variable {t : Evm.Terms} {s : Side} {control reports : List Message} {m : Message}

/-- How the leg stands when a message reaches it that is no admission. -/
inductive Due (t : Evm.Terms) (s : Side) (m : Message) : Prop
  | allocation (opens : OpensAllocation t m) (idle : s.opened = none)
      (unrecorded : s.records t.transferId = none)
  | recall (opens : OpensRecall t m) (settled : Settled t s)
      (unrecorded : s.records t.transferId = none) (covered : t.amount ≤ t.cap)
  | close (closes : Closes t m) (record : TransferRecord) (allocation : Allocation t s record)
      (stands : record.IsOpen ∨ record.status = .complete ∧ s.opened = none ∧
        record.attributedAmount.raw = t.amount ∧ s.latestCompleted = t.transferId)
  | recovery (opens : OpensRecovery t m) (settled : Settled t s)
      (unrecorded : s.records t.transferId = none) (impaired : t.impaired ≠ 0)

theorem Stage.due (stage : Stage t s (m :: control) reports) : Admits m ∨ Due t s m := by
  cases stage with
  | idle kind stage => exact .inl (stage.queue m List.mem_cons_self)
  | allocating kind stage =>
      cases stage with
      | sent settled queue unrecorded =>
          rcases queue.cons with ⟨admits, -⟩ | ⟨opens, -⟩
          · exact .inl admits
          · exact .inr (.allocation opens settled.closed unrecorded)
      | opened record level even isOpen allocation waits principal queue =>
          rcases queue.cons with ⟨admits, -⟩ | ⟨closes, -⟩
          · exact .inl admits
          · exact .inr (.close closes record allocation (.inl waits))
      | done record level even closed allocation complete whole principal queue reported latest =>
          rcases queue.cons with ⟨admits, -⟩ | ⟨closes, -⟩
          · exact .inl admits
          · exact .inr (.close closes record allocation (.inr ⟨complete, closed, whole, latest⟩))
      | settling _ _ _ _ _ _ _ _ _ queue => exact .inl (queue m List.mem_cons_self)
  | recalling kind stage =>
      cases stage with
      | sent settled queue unrecorded covered =>
          rcases queue.cons with ⟨admits, -⟩ | ⟨opens, -⟩
          · exact .inl admits
          · exact .inr (.recall opens settled unrecorded covered)
      | opened _ _ _ _ _ _ _ queue => exact .inl (queue m List.mem_cons_self)
      | done _ _ _ _ _ _ _ _ queue => exact .inl (queue m List.mem_cons_self)
      | noticed _ _ _ _ _ _ _ _ queue => exact .inl (queue m List.mem_cons_self)
  | recovering kind stage =>
      cases stage with
      | sent settled impaired queue unrecorded =>
          rcases queue.cons with ⟨admits, -⟩ | ⟨opens, -⟩
          · exact .inl admits
          · exact .inr (.recovery opens settled unrecorded impaired)
      | settling _ _ _ _ _ _ _ queue => exact .inl (queue m List.mem_cons_self)

end Fronts

section Accepting

variable {digests : Digests} {plan : Plan} {s : System} {m : Message} {ctx : Context}

/-- The leg of the system is a leg that ran on its own inputs. -/
theorem Reachable.reached (reachable : Reachable digests plan s) :
    ∃ inputs, Reached digests inputs s.leg := by
  refine reachable.invariant (fun s => ∃ inputs, Reached digests inputs s.leg) ?_ ?_
  · intro w leg deployed created
    exact ⟨[], plan.leg, leg, created, Run.run_nil.mpr rfl⟩
  · intro event s s' allows success before
    obtain ⟨inputs, reached⟩ := before
    cases event with
    | evm msg call =>
        obtain ⟨-, -, same⟩ := step_evm.mp success
        rw [same]
        exact ⟨inputs, reached⟩
    | leg ctx instruction =>
        obtain ⟨-, success, -⟩ := step_leg.mp success
        exact ⟨_, reached.snoc success⟩

theorem Reachable.reportLane (reachable : Reachable digests plan s) :
    s.leg.config.reportLaneId.raw ≠ 0 := by
  have config := reachable.configured.config
  obtain ⟨start, _, starts, -⟩ := reachable
  have created := starts.created
  simp only [Setup.create, Setup.validate, bind_eq_ok, rejectIf_eq_ok, Unsigned.isZero_iff,
    exists_const] at created
  obtain ⟨⟨-, -, -, -, -, -, -, -, named, -⟩, -⟩ := created
  rw [config]
  exact named

/-- The next message passes every check the leg makes before it reads the body. -/
theorem receives (reachable : Reachable digests plan s) (member : m ∈ s.evm.coordinator.published)
    (next : m.header.sequence.raw = s.leg.control.highestConsumedSequence.raw + 1)
    (verifier : ctx.transportVerifier = true)
    (past : (m.header.publishedAt.raw : Int) ≤ ctx.clock.seconds) {messageClass : MessageClass}
    (accepted : classOf m = some messageClass) :
    ∃ now, s.leg.Receives ctx m messageClass now := by
  have linked := reachable.linked
  have configured := reachable.configured
  have matching := reachable.matching
  have issued := configured.issued m member
  obtain ⟨_, reached⟩ := reachable.reached
  obtain ⟨-, previous⟩ := linked.control.head (linked.control.pending member next)
  have config := configured.config
  have addressed : checkDomains m.header s.leg.config s.leg.control = .ok () := by
    simp only [checkDomains, bind_eq_ok, rejectIf_eq_ok, not_not, exists_const,
      configured.controlLane]
    rw [config]
    exact ⟨issued.source.1.trans matching.evmChain.symm,
      issued.destination.1.trans matching.solanaChain.symm,
      issued.source.2.trans matching.evmApplication.symm,
      issued.destination.2.trans matching.solanaApplication.symm,
      issued.deployment.trans matching.deployment.symm, issued.vault.trans matching.vault.symm,
      issued.lane.trans matching.controlLane.symm⟩
  exact reached.receives ⟨verifier, issued.valid, addressed, past, next, previous⟩ accepted

/-- The leg runs the version the coordinator names. -/
theorem version_due (reachable : Reachable digests plan s)
    (member : m ∈ s.evm.coordinator.published) {version : U64}
    (carries : Evm.controlVersion m = some version) : version = s.leg.config.configVersion := by
  have configured := reachable.configured
  obtain ⟨named, same, hVersion⟩ := (configured.issued m member).version
  rw [carries, Option.some.injEq] at same
  subst same
  apply Unsigned.raw_inj.mp
  rw [configured.config, hVersion, ← reachable.matching.version]
  rfl

/-- Taking the message is a step of the system. -/
theorem control_step {instruction : Instruction} (member : m ∈ s.evm.coordinator.published)
    (delivered : instruction.delivered = some m) :
    (∃ s' messageClass, s.step digests (.leg ctx instruction) = .ok s' ∧
      classOf m = some messageClass ∧ s.leg.Took m messageClass s'.leg) ↔
    Succeeds (s.leg.step digests ctx instruction) := by
  constructor
  · rintro ⟨s', _, success, -⟩
    exact ⟨s'.leg, (step_leg.mp success).2.1⟩
  · rintro ⟨leg, success⟩
    obtain ⟨messageClass, accepted, took⟩ := Accounts.step_took success delivered
    refine ⟨⟨s.evm, leg⟩, messageClass, step_leg.mpr ⟨?_, success, rfl⟩, accepted, took⟩
    rw [delivered]
    intro other same
    cases same
    exact member

/-- What the next message needs beyond what the coordinator checked: its numbers, and those of the
settlement it asks for, fit the 64 bits of the leg. -/
def Takes (s : System) (ctx : Context) (m : Message) : Prop :=
  match m.body with
  | .allocate body => body.amount.raw < 2 ^ 64 ∧
      (ctx.clock.seconds ≤ m.header.expiresAt.raw → s.leg.config.frozen = false →
        s.leg.position.principal + body.amount.raw < 2 ^ 64)
  | .resolve body =>
      if body.action = .admitTransfer then
        ctx.clock.seconds ≤ m.header.expiresAt.raw →
          s.leg.position.holdsQuarantined body.transferId body.targetSequence = true →
          ∀ record, s.leg.transferRecords body.transferId = some record →
            record.transferKind = .allocate →
            s.leg.position.principal + record.authorizedAmount.raw < 2 ^ 64
      else ctx.clock.seconds + s.leg.risk.maxReportAge.raw < 2 ^ 64 ∧
        s.leg.outbound.nextSequence.raw + 1 < 2 ^ 64
  | _ => True

/-- What the next message is and finds. -/
theorem Reachable.due (reachable : Reachable digests plan s)
    (member : m ∈ s.evm.coordinator.published)
    (next : m.header.sequence.raw = s.leg.control.highestConsumedSequence.raw + 1) :
    Admits m ∨ Due s.terms s.leg.side m := by
  have linked := reachable.linked
  have stage := linked.stage
  rw [show s.control = _ from linked.control.pending member next] at stage
  exact stage.due

theorem Reachable.small (reachable : Reachable digests plan s) :
    s.leg.position.principal < 2 ^ 64 := by
  obtain ⟨_, reached⟩ := reachable.reached
  exact reached.small

theorem allocate_takes_iff {body : AllocateBody} (hBody : m.body = .allocate body)
    (reachable : Reachable digests plan s) (member : m ∈ s.evm.coordinator.published)
    (next : m.header.sequence.raw = s.leg.control.highestConsumedSequence.raw + 1)
    (verifier : ctx.transportVerifier = true)
    (past : (m.header.publishedAt.raw : Int) ≤ ctx.clock.seconds) :
    Succeeds (s.leg.processAllocate digests.toHashing ctx m) ↔ Takes s ctx m := by
  simp only [Takes, hBody]
  constructor
  · rintro ⟨leg, success⟩
    obtain ⟨now, amount, _, _, receives, -, -, -, hAmount, -, -, weighable, -⟩ :=
      Accounts.processAllocate_ok hBody success
    have bound := amount.bound
    refine ⟨by omega, ?_⟩
    intro alive running
    rw [← hAmount]
    exact weighable ((isFresh_iff receives.clock).mpr alive) running
  · rintro ⟨small, weighed⟩
    obtain ⟨now, arrives⟩ := receives reachable member next verifier past
      (show classOf m = some .allocate by simp only [classOf, hBody])
    rcases reachable.due member next with ⟨_, hOther, -⟩ | due
    · cases hBody.symm.trans hOther
    cases due with
    | allocation opens idle unrecorded =>
        obtain ⟨other, hOther, same, -⟩ := opens
        cases hBody.symm.trans hOther
        have version := version_due reachable member
          (show Evm.controlVersion m = some body.configVersion by
            simp only [Evm.controlVersion, hBody])
        let amount : U64 := ⟨body.amount.raw, small⟩
        have hAmount : amount.raw = body.amount.raw := rfl
        refine Accounts.processAllocate_succeeds hBody arrives version ?_
          (RemotePosition.opened_eq_none.mp idle) hAmount ?_
        · rw [same]
          exact unrecorded
        · intro fresh running
          exact weighed ((isFresh_iff arrives.clock).mp fresh) running
    | «recall» opens =>
        obtain ⟨_, hOther, -⟩ := opens
        cases hBody.symm.trans hOther
    | close closes =>
        obtain ⟨_, hOther, -⟩ := closes
        cases hBody.symm.trans hOther
    | recovery opens =>
        obtain ⟨_, hOther, -⟩ := opens
        cases hBody.symm.trans hOther

theorem recall_taken {body : RecallBody} (hBody : m.body = .recall body)
    (reachable : Reachable digests plan s) (member : m ∈ s.evm.coordinator.published)
    (next : m.header.sequence.raw = s.leg.control.highestConsumedSequence.raw + 1)
    (verifier : ctx.transportVerifier = true) (guardian : ctx.emergencyGuardian = true)
    (past : (m.header.publishedAt.raw : Int) ≤ ctx.clock.seconds) :
    Succeeds (s.leg.processRecall digests.toHashing ctx m) := by
  obtain ⟨now, arrives⟩ := receives reachable member next verifier past
    (show classOf m = some .recall by simp only [classOf, hBody])
  rcases reachable.due member next with ⟨_, hOther, -⟩ | due
  · cases hBody.symm.trans hOther
  cases due with
  | allocation opens =>
      obtain ⟨_, hOther, -⟩ := opens
      cases hBody.symm.trans hOther
  | «recall» opens settled unrecorded covered =>
      obtain ⟨other, hOther, same, amount⟩ := opens
      cases hBody.symm.trans hOther
      have version := version_due reachable member
        (show Evm.controlVersion m = some body.configVersion by
          simp only [Evm.controlVersion, hBody])
      have principal : s.terms.cap = s.leg.position.principal := settled.principal
      have small := reachable.small
      refine Accounts.processRecall_succeeds hBody arrives (.inr guardian) version ?_
        (RemotePosition.opened_eq_none.mp settled.closed) small ?_ ?_ settled.recalled
      · rw [same]
        exact unrecorded
      · omega
      · intro _
        omega
  | close closes =>
      obtain ⟨_, hOther, -⟩ := closes
      cases hBody.symm.trans hOther
  | recovery opens =>
      obtain ⟨_, hOther, -⟩ := opens
      cases hBody.symm.trans hOther

theorem admission_takes_iff {body : ResolveBody} (hBody : m.body = .resolve body)
    (action : body.action = .admitTransfer) (reachable : Reachable digests plan s)
    (member : m ∈ s.evm.coordinator.published)
    (next : m.header.sequence.raw = s.leg.control.highestConsumedSequence.raw + 1)
    (verifier : ctx.transportVerifier = true) (guardian : ctx.emergencyGuardian = true)
    (past : (m.header.publishedAt.raw : Int) ≤ ctx.clock.seconds) :
    Succeeds (s.leg.processResolve digests.toHashing ctx m) ↔ Takes s ctx m := by
  obtain ⟨now, arrives⟩ := receives reachable member next verifier past
    (show classOf m = some .resolve by simp only [classOf, hBody])
  obtain ⟨_, reached⟩ := reachable.reached
  have version := version_due reachable member
    (show Evm.controlVersion m = some body.configVersion by simp only [Evm.controlVersion, hBody])
  have same : Takes s ctx m ↔ s.leg.Admissible (isFresh m.header now) body := by
    simp only [Takes, hBody, action, if_true, Accounts.Admissible, isFresh_iff arrives.clock]
  rw [same]
  constructor
  · intro success
    obtain ⟨outcome, resolved⟩ := Accounts.resolve_of_processResolve hBody arrives success
    exact Accounts.admissible_of_resolve resolved
  · intro admissible
    exact Accounts.processResolve_succeeds hBody action arrives version
      (Accounts.resolve_succeeds reached.recorded reached.recalls reached.shaped reachable.small
        guardian admissible)

/-- A close or a recovery finds what it names. -/
theorem settleable {body : ResolveBody} (hBody : m.body = .resolve body)
    (action : body.action ≠ .admitTransfer) (reachable : Reachable digests plan s)
    (member : m ∈ s.evm.coordinator.published)
    (next : m.header.sequence.raw = s.leg.control.highestConsumedSequence.raw + 1) :
    s.leg.Settleable body := by
  rcases reachable.due member next with ⟨_, hOther, admits⟩ | due
  · cases hBody.symm.trans hOther
    exact absurd admits action
  cases due with
  | allocation opens =>
      obtain ⟨_, hOther, -⟩ := opens
      cases hBody.symm.trans hOther
  | «recall» opens =>
      obtain ⟨_, hOther, -⟩ := opens
      cases hBody.symm.trans hOther
  | close closes record allocation stands =>
      obtain ⟨_, hOther, isClose, same, target⟩ := closes
      cases hBody.symm.trans hOther
      refine .closed isClose record ⟨?_, allocation.kind, allocation.same.trans same.symm,
        Unsigned.raw_inj.mp (allocation.sequence.trans target.symm), ?_⟩
      · rw [same]
        exact allocation.stored
      · rcases stands with isOpen | ⟨complete, closed, whole, latest⟩
        · exact .opened isOpen
        · refine .complete complete (RemotePosition.opened_eq_none.mp closed)
            (latest.trans allocation.same.symm) ?_
          exact Unsigned.raw_inj.mp (whole.trans allocation.authorized.symm)
  | recovery opens settled unrecorded impaired =>
      obtain ⟨_, hOther, isRecovery, same, target⟩ := opens
      cases hBody.symm.trans hOther
      refine .recovered isRecovery ⟨?_, ?_, RemotePosition.opened_eq_none.mp settled.closed, ?_⟩
      · have pool : s.terms.impaired = s.leg.openLedger.impairedOutstanding.raw := settled.impaired
        rw [← pool]
        exact impaired
      · exact Unsigned.raw_inj.mp (target.trans settled.lastImpaired)
      · rw [same]
        exact unrecorded

theorem settlement_takes_iff {body : ResolveBody} (hBody : m.body = .resolve body)
    (action : body.action ≠ .admitTransfer) (reachable : Reachable digests plan s)
    (member : m ∈ s.evm.coordinator.published)
    (next : m.header.sequence.raw = s.leg.control.highestConsumedSequence.raw + 1)
    (verifier : ctx.transportVerifier = true) (guardian : ctx.emergencyGuardian = true)
    (past : (m.header.publishedAt.raw : Int) ≤ ctx.clock.seconds) :
    Succeeds (s.leg.processSettlement digests ctx m) ↔ Takes s ctx m := by
  simp only [Takes, hBody, if_neg action]
  constructor
  · rintro ⟨leg, success⟩
    obtain ⟨now, clock, expiry, number⟩ := Accounts.notices_of_processSettlement success
    exact ⟨by omega, number⟩
  · rintro ⟨expiry, number⟩
    obtain ⟨now, arrives⟩ := receives reachable member next verifier past
      (show classOf m = some .resolve by simp only [classOf, hBody])
    obtain ⟨_, reached⟩ := reachable.reached
    have configured := reachable.configured
    have version := version_due reachable member
      (show Evm.controlVersion m = some body.configVersion by simp only [Evm.controlVersion, hBody])
    have report : s.leg.outbound.laneId = s.leg.config.reportLaneId := by
      rw [configured.reportLane, configured.config]
      rfl
    have clock := arrives.clock
    have found := settleable hBody action reachable member next
    have nothing := found.recalled reached.recorded reached.recalls
    have small := reachable.small
    exact Accounts.processSettlement_succeeds reached.recorded reached.covered reached.shaped
      reached.sums.balanced reached.ready (by omega) hBody arrives report reachable.reportLane
      (.inr guardian) version found ⟨by omega, number⟩

end Accepting

/-- The leg takes the next message of the coordinator, whatever it is, exactly when its numbers fit.
The guardian signs with the verifier, and the clock has reached the publication. -/
theorem control_lane_takes_iff {digests : Digests} {plan : Plan} {s : System} {m : Message}
    {ctx : Context} (reachable : Reachable digests plan s)
    (member : m ∈ s.evm.coordinator.published)
    (next : m.header.sequence.raw = s.leg.control.highestConsumedSequence.raw + 1)
    (verifier : ctx.transportVerifier = true) (guardian : ctx.emergencyGuardian = true)
    (past : (m.header.publishedAt.raw : Int) ≤ ctx.clock.seconds) :
    ∃ instruction, controlInstruction m = some instruction ∧
      ((∃ s' messageClass, s.step digests (.leg ctx instruction) = .ok s' ∧
        classOf m = some messageClass ∧ s.leg.Took m messageClass s'.leg) ↔ Takes s ctx m) := by
  cases hBody : m.body with
  | allocate body =>
      refine ⟨.processAllocate m, by simp only [controlInstruction, hBody], ?_⟩
      rw [control_step member rfl]
      exact allocate_takes_iff hBody reachable member next verifier past
  | «recall» body =>
      refine ⟨.processRecall m, by simp only [controlInstruction, hBody], ?_⟩
      rw [control_step member rfl]
      have takes : Takes s ctx m := by simp only [Takes, hBody]
      have taken : Succeeds (s.leg.processRecall digests.toHashing ctx m) :=
        recall_taken hBody reachable member next verifier guardian past
      exact iff_of_true taken takes
  | resolve body =>
      by_cases action : body.action = .admitTransfer
      · refine ⟨.processResolve m, by simp only [controlInstruction, hBody, action, if_true], ?_⟩
        rw [control_step member rfl]
        exact admission_takes_iff hBody action reachable member next verifier guardian past
      · refine ⟨.processSettlement m, by simp only [controlInstruction, hBody, if_neg action], ?_⟩
        rw [control_step member rfl]
        exact settlement_takes_iff hBody action reachable member next verifier guardian past
  | _ =>
      obtain ⟨version, carries, -⟩ := (reachable.configured.issued m member).version
      simp only [Evm.controlVersion, hBody, reduceCtorEq] at carries

/-- The message asks to allocate this amount. -/
def asksFor (amount : Nat) (m : Message) : Bool :=
  match m.body with
  | .allocate body => decide (body.amount.raw = amount)
  | _ => false

/-- An allocation of three hundred is taken. -/
theorem control_lane_takes_iff_allocation : ∃ (s s' : System) (instruction : Instruction),
    s.leg.control.highestConsumedSequence.raw = 0 ∧
    s.step sampleDigests (.leg sampleEarly instruction) = .ok s' ∧
    s'.leg.control.highestConsumedSequence.raw = 1 := by
  have passes : sampleStart.toOption.any (fun s =>
      decide (s.leg.control.highestConsumedSequence.raw = 0) &&
      decide (s.leg.position.principal = 0) &&
      s.evm.coordinator.published.any (fun m => decide (m.header.sequence.raw = 1) &&
        decide ((m.header.publishedAt.raw : Int) ≤ sampleEarly.clock.seconds) &&
        asksFor 300 m)) = true := by
    decide +kernel
  obtain ⟨s, started, checks⟩ := ok_of_any passes
  simp only [Bool.and_eq_true, decide_eq_true_eq, List.any_eq_true] at checks
  obtain ⟨⟨highest, principal⟩, m, member, ⟨number, past⟩, amount⟩ := checks
  have reachable : Reachable sampleDigests samplePlan s :=
    ⟨s, [], sampleStart_starts started, List.forall_mem_nil _, Run.run_nil.mpr rfl⟩
  have takes : Takes s sampleEarly m := by
    unfold Takes
    unfold asksFor at amount
    split at amount
    · rename_i body hBody
      rw [decide_eq_true_eq] at amount
      rw [hBody]
      dsimp only
      rw [amount, principal]
      exact ⟨by decide, fun _ _ => by decide⟩
    · cases amount
  obtain ⟨instruction, -, taken⟩ := control_lane_takes_iff reachable member
    (by rw [number, highest]) rfl rfl past
  obtain ⟨s', _, success, -, took⟩ := taken.mpr takes
  exact ⟨s, s', instruction, highest, success, by rw [took.highest, number]⟩

section Wedged

/-- The holder owns more than 64 bits can count. -/
def wedgedPlan : Plan where
  vault := { Evm.samplePlan with
    asset := .plain {
      totalSupply := ⟨2 ^ 66, by decide⟩
      balanceOf := fun holder =>
        if holder = Evm.sampleHolder then ⟨2 ^ 66, by decide⟩ else .zero
      allowance := fun owner _ =>
        if owner = Evm.sampleHolder then ⟨2 ^ 66, by decide⟩ else .zero } }
  leg := samplePlan.leg

/-- The vault settles a deposit of more than that, and sends exactly 2^64 of it to the leg. -/
def wedgedCalls : List (Evm.Msg × Evm.Call) :=
  [(⟨Evm.sampleAdmin, .zero⟩, .bindRemoteAccounting Evm.samplePlan.coordinatorAddress),
    (⟨Evm.sampleHolder, .zero⟩, .requestDeposit ⟨2 ^ 65, by decide⟩),
    (⟨Evm.sampleAdmin, 100⟩, .cutoffEpoch),
    (⟨Evm.sampleAdmin, 100⟩, .finalizeEpoch),
    (⟨Evm.sampleAdmin, 200⟩, .openNextEpoch),
    (⟨Evm.sampleAdmin, 210⟩, .allocate 61 ⟨2 ^ 64, by decide⟩
      290 900 ⟨210, 210, 800⟩)]

def wedgedStart : Except Refusal System := do
  let w ← wedgedPlan.vault.deploy.mapError .reverted
  let evm ← (Run.run (fun w (tx : Evm.Msg × Evm.Call) => w.step Evm.sampleHash tx.1 tx.2) w
    wedgedCalls).mapError .reverted
  let leg ← wedgedPlan.leg.create.mapError .failed
  rejectIf (¬(evm.vault.remoteAccounting = evm.coordinator.self ∧ evm.coordinator.self.raw ≠ 0))
    .unpublished
  pure ⟨evm, leg⟩

theorem wedgedCalls_allowed : ∀ tx ∈ wedgedCalls,
    wedgedPlan.Allows (.evm tx.1 tx.2) ∧ tx.2.delivered = none := by
  have senders : ∀ tx ∈ wedgedCalls, tx.1.sender ≠ wedgedPlan.vault.vaultAddress ∧
      tx.1.sender ≠ wedgedPlan.vault.coordinatorAddress ∧ tx.2.delivered = none := by decide
  intro tx member
  obtain ⟨stranger, apart, nothing⟩ := senders tx member
  refine ⟨⟨⟨apart, ?_⟩, stranger⟩, nothing⟩
  intro coordinator call
  simp only [wedgedCalls, List.mem_cons, List.not_mem_nil, or_false] at member
  rcases member with rfl | rfl | rfl | rfl | rfl | rfl
  · exact (Evm.Call.bindRemoteAccounting.inj call).symm
  all_goals cases call

theorem wedgedStart_reachable {s : System} (started : wedgedStart = .ok s) :
    Reachable sampleDigests wedgedPlan s := by
  simp only [wedgedStart, bind_eq_ok, mapError_eq_ok, rejectIf_eq_ok, not_not, exists_const,
    pure_eq_ok] at started
  obtain ⟨w, deployed, evm, launched, leg, created, ⟨bound, named⟩, rfl⟩ := started
  have starts : wedgedPlan.Starts sampleDigests ⟨evm, leg⟩ :=
    ⟨⟨rfl, rfl, rfl, rfl, rfl, rfl, rfl, rfl, rfl, rfl⟩,
      ⟨w, _, deployed, wedgedCalls_allowed, launched⟩, ⟨bound, named⟩, created⟩
  exact ⟨_, [], starts, List.forall_mem_nil _, Run.run_nil.mpr rfl⟩

end Wedged

/-- The coordinator publishes an allocation of 2^64, and the leg's instruction for it fails whenever
it is tried, though the message is next, due, and signed for by verifier and guardian. -/
theorem control_lane_wedges : ∃ (s : System) (m : Message) (instruction : Instruction),
    Reachable sampleDigests wedgedPlan s ∧ m ∈ s.evm.coordinator.published ∧
    m.header.sequence.raw = s.leg.control.highestConsumedSequence.raw + 1 ∧
    sampleEarly.transportVerifier = true ∧ sampleEarly.emergencyGuardian = true ∧
    (m.header.publishedAt.raw : Int) ≤ sampleEarly.clock.seconds ∧
    controlInstruction m = some instruction ∧
    ∀ s', s.step sampleDigests (.leg sampleEarly instruction) ≠ .ok s' := by
  have passes : wedgedStart.toOption.any (fun s => s.evm.coordinator.published.any (fun m =>
      decide (m.header.sequence.raw = s.leg.control.highestConsumedSequence.raw + 1) &&
      decide ((m.header.publishedAt.raw : Int) ≤ sampleEarly.clock.seconds) &&
      (controlInstruction m).any (fun instruction =>
        (s.step sampleDigests (.leg sampleEarly instruction)).toOption.isNone))) = true := by
    decide +kernel
  obtain ⟨s, started, checks⟩ := ok_of_any passes
  simp only [Bool.and_eq_true, decide_eq_true_eq, List.any_eq_true, Option.any_eq_true] at checks
  obtain ⟨m, member, ⟨next, past⟩, instruction, found, fails⟩ := checks
  refine ⟨s, m, instruction, wedgedStart_reachable started, member, next, rfl, rfl, past, found, ?_⟩
  intro s' success
  rw [success] at fails
  cases fails

end Bridge
