import CrossChainVault.Bridge.Codec
import CrossChainVault.Bridge.System

set_option autoImplicit false

/- What neither side ever changes, and what every published message carries because of it. -/

namespace Bridge

open Result Protocol

/-- The configuration of the leg, frozen or not. -/
def Plan.legConfig (plan : Plan) (frozen : Bool) : Leg.RemoteConfig where
  frozen := frozen
  outboundEscrow := plan.leg.outboundEscrow
  sourceChainId := plan.leg.sourceChainId
  destinationChainId := plan.leg.destinationChainId
  sourceApplicationId := plan.leg.sourceApplicationId
  localApplicationId := plan.leg.localApplicationId
  deploymentId := plan.leg.deploymentId
  vaultId := plan.leg.vaultId
  controlLaneId := plan.leg.controlLaneId
  reportLaneId := plan.leg.reportLaneId
  configVersion := plan.leg.configVersion

/-- A message of the leg. -/
structure Posted (plan : Plan) (m : Message) : Prop where
  source : m.header.sourceChain = plan.leg.destinationChainId ∧
    m.header.sourceApplication = plan.leg.localApplicationId
  destination : m.header.destinationChain = plan.leg.sourceChainId ∧
    m.header.destinationApplication = plan.leg.sourceApplicationId
  deployment : m.header.deploymentId = plan.leg.deploymentId
  vault : m.header.vaultId = plan.leg.vaultId
  lane : m.header.laneId = plan.leg.reportLaneId
  valid : m.validate = .ok ()
  version : Leg.reportVersion m = some plan.leg.configVersion
  escrow : ∀ body, m.body = .recallSent body → body.destinationReference = plan.leg.outboundEscrow

/-- A message of the coordinator. -/
structure Issued (plan : Plan) (m : Message) : Prop where
  source : m.header.sourceChain = plan.vault.identities.evmChainId ∧
    m.header.sourceApplication = plan.vault.identities.evmApplication
  destination : m.header.destinationChain = plan.vault.identities.solanaChainId ∧
    m.header.destinationApplication = plan.vault.identities.solanaApplication
  deployment : m.header.deploymentId = plan.vault.identities.deploymentId
  vault : m.header.vaultId = plan.vault.identities.vaultId
  lane : m.header.laneId = plan.vault.identities.outboundLaneId
  valid : m.validate = .ok ()
  version : ∃ version, Evm.controlVersion m = some version ∧
    version.raw = plan.vault.configVersion.raw

structure Configured (plan : Plan) (s : System) : Prop where
  identities : s.evm.coordinator.identities = plan.vault.identities
  version : s.evm.vault.configVersion = plan.vault.configVersion
  config : s.leg.config = plan.legConfig s.leg.config.frozen
  controlLane : s.leg.control.laneId = plan.leg.controlLaneId
  reportLane : s.leg.outbound.laneId = plan.leg.reportLaneId
  risk : s.leg.risk = plan.leg.risk
  ceiling : s.leg.maxRemotePrincipal = plan.leg.maxRemotePrincipal
  posted : ∀ m ∈ s.leg.published, Posted plan m
  issued : ∀ m ∈ s.evm.coordinator.published, Issued plan m

section Steps

variable {digests : Leg.Digests} {plan : Plan} {s s' : System}

/-- What the coordinator checked makes a valid message for the program too. -/
theorem control_rules {m : Message} (header : Evm.ProtocolCodec.validateHeader m.header = .ok ())
    (valid : Evm.ControlValid m) : m.validate = .ok () := by
  refine bind_eq_ok.mpr ⟨(), header_rules.mpr header, ?_⟩
  unfold Evm.ControlValid at valid
  split at valid
  · rename_i body hBody
    rw [hBody]
    exact allocate_rules.mpr valid
  · rename_i body hBody
    rw [hBody]
    exact recall_rules.mpr valid
  · rename_i body hBody
    rw [hBody]
    exact resolve_rules.mpr valid
  · exact absurd valid id

theorem Configured.posts (configured : Configured plan s) {m : Message}
    (sends : Leg.Sends s.leg m) : Posted plan m := by
  obtain ⟨now, expiresAt, header⟩ := sends.header
  have config := configured.config
  have version := sends.version
  have escrow := sends.destination
  rw [config] at version escrow
  refine ⟨?_, ?_, ?_, ?_, ?_, sends.valid, version, escrow⟩
  all_goals
    rw [header, Leg.Accounts.nextHeader, config]
    simp only [Plan.legConfig, and_self]

theorem Configured.issues (configured : Configured plan s) {m : Message}
    (sends : Evm.Sends s.evm m) : Issued plan m := by
  obtain ⟨stamps, header⟩ := sends.header
  have identities := configured.identities
  refine ⟨?_, ?_, ?_, ?_, ?_, control_rules sends.validHeader sends.valid, _, sends.version, ?_⟩
  · rw [header, ← identities]
    exact ⟨rfl, rfl⟩
  · rw [header, ← identities]
    exact ⟨rfl, rfl⟩
  · rw [header, ← identities]
    rfl
  · rw [header, ← identities]
    rfl
  · rw [header, ← identities]
    rfl
  · rw [← configured.version]
    rfl

theorem Configured.leg {ctx : Leg.Context} {instruction : Leg.Instruction}
    (configured : Configured plan s)
    (noUpdate : ∀ update, instruction ≠ .processConfigUpdate update)
    (success : s.step digests (.leg ctx instruction) = .ok s') : Configured plan s' := by
  obtain ⟨-, success, same⟩ := step_leg.mp success
  obtain ⟨sent, acts⟩ := Leg.Accounts.step_acts success noUpdate
  have moves := acts.moves
  refine ⟨same ▸ configured.identities, same ▸ configured.version, ?_,
    moves.controlLane.trans configured.controlLane, moves.reportLane.trans configured.reportLane,
    moves.risk.trans configured.risk, moves.maxRemotePrincipal.trans configured.ceiling, ?_,
    same ▸ configured.issued⟩
  · have changed := moves.config
    rw [configured.config] at changed
    exact changed
  · have published := moves.published
    cases sent with
    | none =>
        rw [published.2]
        exact configured.posted
    | some m =>
        rw [published.2.2.2]
        exact Lane.all_snoc configured.posted (configured.posts published.1)

theorem Configured.evm {msg : Evm.Msg} {call : Evm.Call} (configured : Configured plan s)
    (paired : Evm.Paired plan.vault s.evm) (outside : Evm.Outside plan.vault (msg, call))
    (success : s.step digests (.evm msg call) = .ok s') : Configured plan s' := by
  obtain ⟨-, success, same⟩ := step_evm.mp success
  rcases paired.acts outside success with ⟨-, -, bound⟩ | ⟨sent, acts⟩
  · refine ⟨?_, ?_, same ▸ configured.config, same ▸ configured.controlLane,
      same ▸ configured.reportLane, same ▸ configured.risk, same ▸ configured.ceiling,
      same ▸ configured.posted, ?_⟩
    · rw [bound]
      exact configured.identities
    · rw [bound]
      exact configured.version
    · rw [bound]
      exact configured.issued
  · have moves := acts.moves
    refine ⟨moves.identities.trans configured.identities,
      moves.configVersion.trans configured.version, same ▸ configured.config,
      same ▸ configured.controlLane, same ▸ configured.reportLane, same ▸ configured.risk,
      same ▸ configured.ceiling, same ▸ configured.posted, ?_⟩
    have published := moves.published
    cases sent with
    | none =>
        rw [published.2.2]
        exact configured.issued
    | some m =>
        rw [published.2.2.2]
        exact Lane.all_snoc configured.issued (configured.issues published.1)

theorem Configured.fresh (deployed : plan.vault.deploy = .ok s.evm)
    (initialized : plan.leg.create = .ok s.leg) : Configured plan s := by
  obtain ⟨-, opened, created⟩ := Evm.Deployment.deploy_ok deployed
  obtain ⟨_, _, -, -, hVault⟩ := Evm.Vault.openEpoch_ok opened
  simp only [Evm.Coordinator.create, bind_eq_ok, rejectIf_eq_ok, exists_const, pure_eq_ok] at created
  obtain ⟨-, -, _, -, hCoordinator⟩ := created
  simp only [Leg.Setup.create, bind_eq_ok, pure_eq_ok] at initialized
  obtain ⟨_, -, hLeg⟩ := initialized
  refine ⟨?_, ?_, ?_, ?_, ?_, ?_, ?_, ?_, ?_⟩
  · rw [← hCoordinator]
  · rw [hVault]
    rfl
  · rw [← hLeg]
    rfl
  · rw [← hLeg]
  · rw [← hLeg]
  · rw [← hLeg]
  · rw [← hLeg]
  · rw [← hLeg]
    exact List.forall_mem_nil _
  · rw [← hCoordinator]
    exact List.forall_mem_nil _

theorem Reachable.configured (reachable : Reachable digests plan s) : Configured plan s := by
  have both : Linked digests plan s ∧ Configured plan s := by
    refine reachable.invariant (fun s => Linked digests plan s ∧ Configured plan s) ?_ ?_
    · intro w leg deployed initialized
      exact ⟨.fresh deployed initialized, .fresh deployed initialized⟩
    · intro event s s' allows success before
      refine ⟨before.1.step allows success, ?_⟩
      cases event with
      | evm msg call => exact before.2.evm before.1.paired allows.1 success
      | leg ctx instruction => exact before.2.leg allows success
  exact both.2

theorem Bound.evm {msg : Evm.Msg} {call : Evm.Call} (bound : Evm.Bound s.evm)
    (paired : Evm.Paired plan.vault s.evm) (outside : Evm.Outside plan.vault (msg, call))
    (success : s.step digests (.evm msg call) = .ok s') : Evm.Bound s'.evm := by
  obtain ⟨-, success, -⟩ := step_evm.mp success
  rcases paired.acts outside success with ⟨-, unbound, -⟩ | ⟨sent, acts⟩
  · rw [bound.bound] at unbound
    exact absurd unbound bound.named
  · refine ⟨?_, ?_⟩
    · rw [acts.moves.bound, acts.moves.coordinator]
      exact bound.bound
    · rw [acts.moves.coordinator]
      exact bound.named

/-- The vault stays bound to its coordinator. -/
theorem Reachable.bound (reachable : Reachable digests plan s) : Evm.Bound s.evm := by
  obtain ⟨start, events, starts, allowed, finished⟩ := reachable
  have linked : Linked digests plan start :=
    Reachable.linked ⟨start, [], starts, List.forall_mem_nil _, Run.run_nil.mpr rfl⟩
  have both : Linked digests plan s ∧ Evm.Bound s.evm := by
    refine Run.run_preserves_of (fun s => Linked digests plan s ∧ Evm.Bound s.evm) events ?_ start
      finished ⟨linked, starts.bound⟩
    intro event member s s' success before
    refine ⟨before.1.step (allowed event member) success, ?_⟩
    cases event with
    | evm msg call => exact Bound.evm before.2 before.1.paired (allowed _ member).1 success
    | leg ctx instruction =>
        obtain ⟨-, -, same⟩ := step_leg.mp success
        rw [same]
        exact before.2
  exact both.2

end Steps

end Bridge
