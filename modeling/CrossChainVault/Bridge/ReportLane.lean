import CrossChainVault.Bridge.Config
import CrossChainVault.Bridge.Principal

set_option autoImplicit false

/- Whatever the leg publishes, the coordinator accepts when its turn comes. -/

namespace Bridge

open Result Protocol Lane Leg

/- What the next message on the report lane is, by the stage it finds. -/

section Fronts

variable {t : Evm.Terms} {s : Side} {control reports : List Message} {m : Message}

/-- No report takes a loss back. -/
theorem Stage.report_due {body : RemoteReportBody} (stage : Stage t s control (m :: reports))
    (hBody : m.body = .remoteReport body) : t.reportedLoss ≤ body.realizedLoss.raw := by
  have known (level : Level t s) (same : body.realizedLoss.raw = s.loss) :
      t.reportedLoss ≤ body.realizedLoss.raw :=
    Nat.le_of_eq (level.reported.trans same.symm)
  have climbed {high : Nat} (climbs : Climbs t.reportedLoss (m :: reports) high) :
      t.reportedLoss ≤ body.realizedLoss.raw := by
    obtain ⟨other, hOther, above, -⟩ := climbs
    cases hBody.symm.trans hOther
    exact above
  cases stage with
  | idle _ stage =>
      exact known stage.settled.toLevel ((stage.reports m List.mem_cons_self).same hBody)
  | allocating _ stage =>
      cases stage with
      | sent settled _ _ _ reported =>
          exact known settled.toLevel ((reported m List.mem_cons_self).reports.same hBody)
      | opened _ level _ _ _ _ _ _ _ reported =>
          exact known level ((reported m List.mem_cons_self).reports.same hBody)
      | done _ level _ _ _ _ _ _ _ reported =>
          exact known level ((reported m List.mem_cons_self).same hBody)
      | settling _ level _ _ _ _ _ _ _ _ reported =>
          rcases reported.cons with ⟨here, -⟩ | ⟨⟨other, hOther, -⟩, -⟩
          · exact known level (here.same hBody)
          · cases hBody.symm.trans hOther
  | recalling _ stage =>
      cases stage with
      | sent settled _ _ _ _ reported =>
          exact known settled.toLevel ((reported m List.mem_cons_self).same hBody)
      | opened _ _ _ _ _ _ _ _ climbs => exact climbed climbs
      | done _ _ _ _ _ _ _ _ _ climbs => exact climbed climbs
      | noticed _ _ _ _ _ _ _ _ _ before _ _ order climbs returns =>
          cases before with
          | nil =>
              cases order
              obtain ⟨other, hOther, -⟩ := returns
              cases hBody.symm.trans hOther
          | cons first before =>
              cases order
              obtain ⟨other, hOther, above, -⟩ := climbs
              cases hBody.symm.trans hOther
              exact above
  | recovering _ stage =>
      cases stage with
      | sent settled _ _ _ reported =>
          exact known settled.toLevel ((reported m List.mem_cons_self).same hBody)
      | settling _ level _ _ _ _ _ _ reported =>
          rcases reported.cons with ⟨here, -⟩ | ⟨⟨other, hOther, -⟩, -⟩
          · exact known level (here.same hBody)
          · cases hBody.symm.trans hOther

theorem Reports.not_notice {body : RecallSentBody} {loss : Nat} (reports : Reports loss m) :
    m.body ≠ .recallSent body := by
  intro hBody
  obtain ⟨_, hOther, -⟩ := reports
  cases hBody.symm.trans hOther

/-- A notice on the lane is the one of the recall the coordinator has open. -/
theorem Stage.notice_due {body : RecallSentBody} (stage : Stage t s control (m :: reports))
    (hBody : m.body = .recallSent body) :
    t.kind = .recall ∧ body.transferId = t.transferId ∧ body.principalSent.raw = t.amount ∧
      body.actualAmountSent.raw + body.realizedLoss.raw = body.principalSent.raw ∧
      t.baselineLoss + body.realizedLoss.raw = s.loss := by
  cases stage with
  | idle _ stage => exact absurd hBody (stage.reports m List.mem_cons_self).not_notice
  | allocating _ stage =>
      cases stage with
      | sent _ _ _ _ reported =>
          exact absurd hBody (reported m List.mem_cons_self).reports.not_notice
      | opened _ _ _ _ _ _ _ _ _ reported =>
          exact absurd hBody (reported m List.mem_cons_self).reports.not_notice
      | done _ _ _ _ _ _ _ _ _ reported =>
          exact absurd hBody (reported m List.mem_cons_self).not_notice
      | settling _ _ _ _ _ _ _ _ _ _ reported =>
          rcases reported.cons with ⟨here, -⟩ | ⟨⟨other, hOther, -⟩, -⟩
          · exact absurd hBody here.not_notice
          · cases hBody.symm.trans hOther
  | recalling kind stage =>
      cases stage with
      | sent _ _ _ _ _ reported => exact absurd hBody (reported m List.mem_cons_self).not_notice
      | opened _ _ _ _ _ _ _ _ climbs => exact absurd hBody climbs.not_notice
      | done _ _ _ _ _ _ _ _ _ climbs => exact absurd hBody climbs.not_notice
      | noticed loss _ _ _ _ lost _ _ _ before _ _ order climbs returns =>
          cases before with
          | cons first before =>
              cases order
              exact absurd hBody climbs.not_notice
          | nil =>
              cases order
              obtain ⟨other, hOther, names, principal, whole, rfl⟩ := returns
              cases hBody.symm.trans hOther
              exact ⟨kind, names, principal, whole.trans principal.symm, lost.symm⟩
  | recovering _ stage =>
      cases stage with
      | sent _ _ _ _ reported => exact absurd hBody (reported m List.mem_cons_self).not_notice
      | settling _ _ _ _ _ _ _ _ reported =>
          rcases reported.cons with ⟨here, -⟩ | ⟨⟨other, hOther, -⟩, -⟩
          · exact absurd hBody here.not_notice
          · cases hBody.symm.trans hOther

/-- A settlement on the lane is the one the coordinator waits for. -/
theorem Stage.settlement_due {body : TransportSettlementBody}
    (stage : Stage t s control (m :: reports)) (hBody : m.body = .transportSettlement body) :
    body.transferId = t.transferId ∧
      (body.kind = .closed ∧ t.kind = .allocate ∧ t.closing = true ∧
          body.claimAmount.raw = t.amount ∧ body.impairedOutstanding.raw =
            t.impaired + (body.claimAmount.raw - body.creditedAmount.raw) ∨
        body.kind = .recovered ∧ t.kind = .recover ∧ body.claimAmount.raw = t.impaired) := by
  cases stage with
  | idle _ stage => exact absurd hBody (stage.reports m List.mem_cons_self).not_settlement
  | allocating kind stage =>
      cases stage with
      | sent _ _ _ _ reported =>
          exact absurd hBody (reported m List.mem_cons_self).reports.not_settlement
      | opened _ _ _ _ _ _ _ _ _ reported =>
          exact absurd hBody (reported m List.mem_cons_self).reports.not_settlement
      | done _ _ _ _ _ _ _ _ _ reported =>
          exact absurd hBody (reported m List.mem_cons_self).not_settlement
      | settling credited _ _ closing _ _ _ _ _ _ reported =>
          rcases reported.cons with ⟨here, -⟩ |
            ⟨⟨other, hOther, isClose, names, claim, credit, impaired⟩, -⟩
          · exact absurd hBody here.not_settlement
          · cases hBody.symm.trans hOther
            refine ⟨names, .inl ⟨isClose, kind, closing, claim, ?_⟩⟩
            rw [impaired, claim, credit]
  | recalling _ stage =>
      have reported {high : Nat} (climbs : Climbs t.reportedLoss (m :: reports) high) : False := by
        obtain ⟨other, hOther, -⟩ := climbs
        cases hBody.symm.trans hOther
      cases stage with
      | sent _ _ _ _ _ reported => exact absurd hBody (reported m List.mem_cons_self).not_settlement
      | opened _ _ _ _ _ _ _ _ climbs => exact (reported climbs).elim
      | done _ _ _ _ _ _ _ _ _ climbs => exact (reported climbs).elim
      | noticed _ _ _ _ _ _ _ _ _ before _ _ order climbs returns =>
          cases before with
          | cons first before =>
              cases order
              obtain ⟨other, hOther, -⟩ := climbs
              cases hBody.symm.trans hOther
          | nil =>
              cases order
              obtain ⟨other, hOther, -⟩ := returns
              cases hBody.symm.trans hOther
  | recovering kind stage =>
      cases stage with
      | sent _ _ _ _ reported => exact absurd hBody (reported m List.mem_cons_self).not_settlement
      | settling credited _ _ _ _ _ _ _ reported =>
          rcases reported.cons with ⟨here, -⟩ | ⟨⟨other, hOther, isRecovery, names, claim, -⟩, -⟩
          · exact absurd hBody here.not_settlement
          · cases hBody.symm.trans hOther
            exact ⟨names, .inr ⟨isRecovery, kind, claim⟩⟩

end Fronts

section Accepting

variable {digests : Leg.Digests} {plan : Plan} {s : System} {m : Message}

/-- The next message passes every check the coordinator makes before it reads the body. -/
theorem received (linked : Linked digests plan s) (configured : Configured plan s)
    (matching : plan.Matching) (member : m ∈ s.leg.published)
    (next : m.header.sequence = s.evm.coordinator.inboundExpectedSequence) {version : Unsigned 64}
    (carries : Leg.reportVersion m = some version) :
    Evm.Received s.evm true m.header version := by
  have posted := configured.posted m member
  have number : m.header.sequence.raw = s.heard + 1 := by rw [next, linked.expected]
  have pending := linked.reports.pending member number
  obtain ⟨-, previous⟩ := linked.reports.head pending
  refine ⟨rfl, ?_, ?_, ?_, ?_⟩
  · obtain ⟨_, header, -⟩ := bind_eq_ok.mp posted.valid
    exact header_rules.mp header
  · rw [Evm.Coordinator.expects_iff, configured.identities, ← matching.evmChain,
      ← matching.solanaChain, ← matching.evmApplication, ← matching.solanaApplication,
      ← matching.deployment, ← matching.vault, ← matching.reportLane]
    exact ⟨posted.source, posted.destination, posted.deployment, posted.vault, posted.lane, next,
      previous⟩
  · have same := posted.version
    rw [carries, Option.some.injEq] at same
    apply Unsigned.raw_inj.mp
    show version.raw = s.evm.vault.configVersion.raw
    rw [same, configured.version, matching.version]
  · have within := linked.reports.deliver pending
    have length := within.within
    have counted := linked.reports.next
    have bound := s.leg.outbound.nextSequence.bound
    rw [linked.expected]
    omega

theorem Reachable.funded (reachable : Reachable digests plan s)
    (asset : plan.vault.asset.Kept plan.vault.vaultAddress) :
    Evm.Funded plan.vault.vaultAddress s.evm := by
  refine reachable.invariant (fun s => Evm.Funded plan.vault.vaultAddress s.evm) ?_ ?_
  · intro w leg deployed initialized
    exact Evm.Deployment.funded deployed asset
  · intro event s s' allows success funded
    cases event with
    | evm msg call => exact funded.step allows.2 (step_evm.mp success).2.1
    | leg ctx instruction =>
        obtain ⟨-, -, same⟩ := step_leg.mp success
        rw [same]
        exact funded

theorem reportCall_acts {hashing : Hashing} {w w' : Evm.World} {msg : Evm.Msg} {call : Evm.Call}
    (found : reportCall m = some call) (success : w.step hashing msg call = .ok w') :
    call.delivered = some m ∧ Evm.Acts hashing w (some m) none w' := by
  obtain ⟨header, body⟩ := m
  cases body with
  | remoteReport body =>
      cases found
      exact ⟨rfl, Evm.World.processRemoteReport_acts success⟩
  | recallSent body =>
      cases found
      exact ⟨rfl, Evm.World.processRecallSent_acts success⟩
  | transportSettlement body =>
      cases found
      exact ⟨rfl, Evm.World.processTransportSettlement_acts success⟩
  | _ => cases found

/-- A message the coordinator accepts is a step of the system that moves the lane on. -/
theorem reportCall_step {w' : Evm.World} {msg : Evm.Msg} {call : Evm.Call}
    (found : reportCall m = some call) (member : m ∈ s.leg.published)
    (success : s.evm.step digests.toHashing msg call = .ok w') :
    ∃ s', s.step digests (.evm msg call) = .ok s' ∧
      s'.evm.coordinator.inboundExpectedSequence.raw =
        s.evm.coordinator.inboundExpectedSequence.raw + 1 := by
  obtain ⟨delivered, acts⟩ := reportCall_acts found success
  refine ⟨⟨w', s.leg⟩, step_evm.mpr ⟨?_, success, rfl⟩, acts.moves.took.2.1⟩
  rw [delivered]
  intro other same
  cases same
  exact member

end Accepting

/-- The next message of the leg never reverts, whatever it is and whoever delivers it, and moves the
lane on by one. -/
theorem report_lane_accepts {digests : Leg.Digests} {plan : Plan} {s : System} {m : Message}
    (reachable : Reachable digests plan s)
    (asset : plan.vault.asset.Kept plan.vault.vaultAddress) (room : Evm.Paired.Room s.evm)
    (member : m ∈ s.leg.published)
    (next : m.header.sequence = s.evm.coordinator.inboundExpectedSequence) :
    ∃ call, reportCall m = some call ∧ ∀ msg, ∃ s', s.step digests (.evm msg call) = .ok s' ∧
      s'.evm.coordinator.inboundExpectedSequence.raw =
        s.evm.coordinator.inboundExpectedSequence.raw + 1 := by
  have linked := reachable.linked
  have configured := reachable.configured
  have bound := reachable.bound
  have funded := reachable.funded asset
  have posted := configured.posted m member
  have arrives {version : Unsigned 64} (carries : Leg.reportVersion m = some version) :=
    received linked configured reachable.matching member next carries
  have stage := linked.stage
  rw [show s.reports = _ from linked.reports.pending member
    (by rw [show (lane _).number m = m.header.sequence.raw from rfl, next, linked.expected])] at stage
  obtain ⟨-, -, valid⟩ := bind_eq_ok.mp posted.valid
  cases hBody : m.body with
  | remoteReport body =>
      rw [hBody] at valid
      have found : reportCall m = some (.processRemoteReport true m.header body) := by
        simp only [reportCall, hBody]
      refine ⟨_, found, fun msg => ?_⟩
      obtain ⟨w', success⟩ := linked.paired.processRemoteReport funded room bound
        (arrives (by simp only [Leg.reportVersion, hBody])) (report_rules.mp valid)
        (stage.report_due hBody)
      exact reportCall_step found member success
  | recallSent body =>
      rw [hBody] at valid
      have found : reportCall m = some (.processRecallSent true m.header body) := by
        simp only [reportCall, hBody]
      obtain ⟨recalling, names, principal, whole, lost⟩ := stage.notice_due hBody
      have destination : body.destinationReference =
          s.evm.coordinator.identities.expectedDestinationReference := by
        rw [posted.escrow body hBody, configured.identities, reachable.matching.destination]
      have small : s.evm.coordinator.recallBaselineLoss.raw + body.realizedLoss.raw < 2 ^ 128 := by
        have narrow := s.leg.position.cumulativeRealizedLoss.bound
        have same : s.evm.coordinator.recallBaselineLoss.raw + body.realizedLoss.raw =
          s.leg.position.cumulativeRealizedLoss.raw := lost
        omega
      refine ⟨_, found, fun msg => ?_⟩
      obtain ⟨w', success⟩ := linked.paired.processRecallSent funded room bound
        (arrives (by simp only [Leg.reportVersion, hBody])) (recallSent_rules.mp valid) recalling
        names (Nat.le_of_eq principal) destination whole small
      exact reportCall_step found member success
  | transportSettlement body =>
      rw [hBody] at valid
      have found : reportCall m = some (.processTransportSettlement true m.header body) := by
        simp only [reportCall, hBody]
      obtain ⟨names, settles⟩ := stage.settlement_due hBody
      have due : s.evm.Settles body := by
        unfold Evm.World.Settles
        rcases settles with ⟨kind, allocating, closing, claim, impaired⟩ | ⟨kind, recovering, claim⟩
        · rw [kind]
          exact ⟨allocating, closing, Unsigned.raw_inj.mp claim, impaired⟩
        · rw [kind]
          exact ⟨recovering, claim⟩
      refine ⟨_, found, fun msg => ?_⟩
      obtain ⟨w', success⟩ := linked.paired.processTransportSettlement funded room bound
        (arrives (by simp only [Leg.reportVersion, hBody])) (settlement_rules.mp valid) names due
      exact reportCall_step found member success
  | _ =>
      have version := posted.version
      simp only [Leg.reportVersion, hBody, reduceCtorEq] at version

/-- The settlement of a close that came up short is accepted by whoever brings it. -/
theorem report_lane_accepts_settlement : ∃ (s : System) (call : Evm.Call),
    s.evm.vault.impairedTransport.raw = 0 ∧
    ∀ msg, ∃ s', s.step sampleDigests (.evm msg call) = .ok s' ∧
      s'.evm.coordinator.inboundExpectedSequence.raw = 2 := by
  have passes : sampleSettled.toOption.any (fun s =>
      decide (s.evm.vault.impairedTransport.raw = 0) &&
      decide (s.evm.asset.totalSupply.raw = 1000) &&
      decide (s.evm.coordinator.inboundExpectedSequence.raw = 1) &&
      s.leg.published.any (fun m =>
        decide (m.header.sequence = s.evm.coordinator.inboundExpectedSequence))) = true := by
    decide +kernel
  obtain ⟨s, settled, checks⟩ := ok_of_any passes
  simp only [Bool.and_eq_true, decide_eq_true_eq, List.any_eq_true] at checks
  obtain ⟨⟨⟨impaired, supply⟩, expected⟩, m, member, next⟩ := checks
  have room : Evm.Paired.Room s.evm := by
    unfold Evm.Paired.Room
    rw [supply]
    decide
  obtain ⟨call, -, accepted⟩ := report_lane_accepts (sampleSettled_reachable settled)
    Evm.sampleAsset_kept room member next
  rw [expected] at accepted
  exact ⟨s, call, impaired, accepted⟩

end Bridge
