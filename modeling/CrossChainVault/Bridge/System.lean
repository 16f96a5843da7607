import CrossChainVault.Base.Run
import CrossChainVault.Bridge.HubStages
import CrossChainVault.Evm.Coupling
import CrossChainVault.Leg.Changes

set_option autoImplicit false

/- Both sides together, with an authenticated lane each way, and the agreement that every
interleaving keeps. -/

namespace Bridge

open Result Protocol Lane

/-- The contracts and the leg. Each keeps the log of what it published; what the other has taken of
it stands in the other's lane state. -/
structure System where
  evm : Evm.World
  leg : Leg.Accounts

inductive Event
  | evm (msg : Evm.Msg) (call : Evm.Call)
  | leg (ctx : Leg.Context) (instruction : Leg.Instruction)

inductive Refusal
  | unpublished
  | reverted (revert : Evm.Revert)
  | failed (failure : Leg.RemoteLegError)

/-- One transaction on either chain. A lane delivers nothing its sender did not publish, but it may
deliver late, again or out of order. -/
def System.step (digests : Leg.Digests) (s : System) : Event → Except Refusal System
  | .evm msg call => do
      rejectIf (¬ call.delivered.toList ⊆ s.leg.published) .unpublished
      let evm ← (s.evm.step digests.toHashing msg call).mapError .reverted
      pure { s with evm := evm }
  | .leg ctx instruction => do
      rejectIf (¬ instruction.delivered.toList ⊆ s.evm.coordinator.published) .unpublished
      let leg ← (s.leg.step digests ctx instruction).mapError .failed
      pure { s with leg := leg }

/-- What the two deployments choose. -/
structure Plan where
  vault : Evm.Deployment
  leg : Leg.Setup

/-- Both sides name the same chains, applications, lanes and version. -/
structure Plan.Matching (plan : Plan) : Prop where
  evmChain : plan.leg.sourceChainId = plan.vault.identities.evmChainId
  solanaChain : plan.leg.destinationChainId = plan.vault.identities.solanaChainId
  evmApplication : plan.leg.sourceApplicationId = plan.vault.identities.evmApplication
  solanaApplication : plan.leg.localApplicationId = plan.vault.identities.solanaApplication
  deployment : plan.leg.deploymentId = plan.vault.identities.deploymentId
  vault : plan.leg.vaultId = plan.vault.identities.vaultId
  controlLane : plan.leg.controlLaneId = plan.vault.identities.outboundLaneId
  reportLane : plan.leg.reportLaneId = plan.vault.identities.inboundLaneId
  destination : plan.leg.outboundEscrow = plan.vault.identities.expectedDestinationReference
  version : plan.leg.configVersion.raw = plan.vault.configVersion.raw

/-- The contracts send no transactions of their own, the vault is bound to no other coordinator, and
the risk limits stay as they are. -/
def Plan.Allows (plan : Plan) : Event → Prop
  | .evm msg call => Evm.Outside plan.vault (msg, call) ∧ msg.sender ≠ plan.vault.vaultAddress
  | .leg _ instruction => ∀ update, instruction ≠ .processConfigUpdate update

/-- Both sides once the leg is initialized: the contracts may have run on their own before, and the
vault is bound to its coordinator. -/
structure Plan.Starts (digests : Leg.Digests) (plan : Plan) (s : System) : Prop where
  matching : plan.Matching
  launched : ∃ w calls, plan.vault.deploy = .ok w ∧
    (∀ tx ∈ calls, plan.Allows (.evm tx.1 tx.2) ∧ tx.2.delivered = none) ∧
    Run.run (fun w (tx : Evm.Msg × Evm.Call) => w.step digests.toHashing tx.1 tx.2) w calls =
      .ok s.evm
  bound : Evm.Bound s.evm
  created : plan.leg.create = .ok s.leg

/-- The states any interleaving leads to. -/
def Reachable (digests : Leg.Digests) (plan : Plan) (s : System) : Prop :=
  ∃ start events, plan.Starts digests start ∧ (∀ event ∈ events, plan.Allows event) ∧
    Run.run (System.step digests) start events = .ok s

section Steps

variable {digests : Leg.Digests} {s s' : System}

theorem toList_subset {log : List Message} {delivered : Option Message} :
    delivered.toList ⊆ log ↔ ∀ m ∈ delivered, m ∈ log := by
  cases delivered with
  | none => simp
  | some m => simp

theorem step_evm {msg : Evm.Msg} {call : Evm.Call} :
    s.step digests (.evm msg call) = .ok s' ↔
    (∀ m ∈ call.delivered, m ∈ s.leg.published) ∧
      s.evm.step digests.toHashing msg call = .ok s'.evm ∧ s'.leg = s.leg := by
  simp only [System.step, bind_eq_ok, rejectIf_eq_ok, not_not, toList_subset, exists_const,
    mapError_eq_ok, pure_eq_ok]
  constructor
  · rintro ⟨carried, evm, success, rfl⟩
    exact ⟨carried, success, rfl⟩
  · rintro ⟨carried, success, same⟩
    refine ⟨carried, s'.evm, success, ?_⟩
    rw [← same]

theorem step_leg {ctx : Leg.Context} {instruction : Leg.Instruction} :
    s.step digests (.leg ctx instruction) = .ok s' ↔
    (∀ m ∈ instruction.delivered, m ∈ s.evm.coordinator.published) ∧
      s.leg.step digests ctx instruction = .ok s'.leg ∧ s'.evm = s.evm := by
  simp only [System.step, bind_eq_ok, rejectIf_eq_ok, not_not, toList_subset, exists_const,
    mapError_eq_ok, pure_eq_ok]
  constructor
  · rintro ⟨carried, leg, success, rfl⟩
    exact ⟨carried, success, rfl⟩
  · rintro ⟨carried, success, same⟩
    refine ⟨carried, s'.leg, success, ?_⟩
    rw [← same]

end Steps

/- The agreement. -/

/-- How both lanes number and chain their messages. -/
def lane (hashing : Hashing) : Chain Message Bytes32 where
  number m := m.header.sequence.raw
  previous m := m.header.previousCommitment
  genesis := .zero
  extend := hashing.extend

/-- How many messages each side has taken. -/
def System.obeyed (s : System) : Nat := s.leg.control.highestConsumedSequence.raw

def System.heard (s : System) : Nat := s.evm.coordinator.inboundExpectedSequence.raw - 1

/-- What is still on the way to the leg, and to the vault. -/
def System.control (s : System) : List Message := s.evm.coordinator.published.drop s.obeyed

def System.reports (s : System) : List Message := s.leg.published.drop s.heard

def System.terms (s : System) : Evm.Terms := s.evm.hub.toTerms

/-- What every interleaving keeps. -/
structure Linked (digests : Leg.Digests) (plan : Plan) (s : System) : Prop where
  paired : Evm.Paired plan.vault s.evm
  control : (lane digests.toHashing).Carries s.evm.coordinator.published
    s.evm.coordinator.outboundNextSequence.raw s.evm.coordinator.outboundLatestCommitment s.obeyed
    s.leg.control.messageCommitment
  expected : s.evm.coordinator.inboundExpectedSequence.raw = s.heard + 1
  reports : (lane digests.toHashing).Carries s.leg.published s.leg.outbound.nextSequence.raw
    s.leg.outbound.currentCommitment s.heard s.evm.coordinator.inboundLatestCommitment
  stage : Stage s.terms s.leg.side s.control s.reports
  named : Named s.terms s.leg.side s.reports

section Agreement

variable {digests : Leg.Digests} {plan : Plan} {s s' : System}

/-- An instruction publishes on the report lane and takes from the control lane. -/
theorem leg_speaks {a a' : Leg.Accounts} {taken sent : Option Message}
    (moves : Leg.Moves digests a taken sent a') :
    (lane digests.toHashing).Speaks a.published a.outbound.nextSequence.raw
      a.outbound.currentCommitment sent a'.published a'.outbound.nextSequence.raw
      a'.outbound.currentCommitment := by
  have published := moves.published
  cases sent with
  | none =>
      obtain ⟨outbound, log⟩ := published
      rw [outbound, log]
      exact ⟨rfl, rfl, rfl⟩
  | some m =>
      obtain ⟨sends, next, latest, log⟩ := published
      obtain ⟨now, expiresAt, header⟩ := sends.header
      refine ⟨?_, ?_, log, next, latest⟩
      · show m.header.sequence.raw = _
        rw [header]
        rfl
      · show m.header.previousCommitment = _
        rw [header]
        rfl

theorem leg_hears {a a' : Leg.Accounts} {taken sent : Option Message}
    (moves : Leg.Moves digests a taken sent a') :
    (lane digests.toHashing).Hears a.control.highestConsumedSequence.raw
      a.control.messageCommitment taken a'.control.highestConsumedSequence.raw
      a'.control.messageCommitment := by
  have took := moves.took
  cases taken with
  | none =>
      obtain ⟨highest, commitment⟩ := took
      exact ⟨congrArg Unsigned.raw highest, commitment⟩
  | some m =>
      obtain ⟨next, highest, commitment⟩ := took
      exact ⟨next, (congrArg Unsigned.raw highest).trans next, commitment⟩

/-- A transaction publishes on the control lane and takes from the report lane. -/
theorem evm_speaks {w w' : Evm.World} {taken sent : Option Message}
    (moves : Evm.Moves digests.toHashing w taken sent w') :
    (lane digests.toHashing).Speaks w.coordinator.published w.coordinator.outboundNextSequence.raw
      w.coordinator.outboundLatestCommitment sent w'.coordinator.published
      w'.coordinator.outboundNextSequence.raw w'.coordinator.outboundLatestCommitment := by
  have published := moves.published
  cases sent with
  | none =>
      obtain ⟨next, latest, log⟩ := published
      exact ⟨log, congrArg Unsigned.raw next, latest⟩
  | some m =>
      obtain ⟨sends, next, latest, log⟩ := published
      obtain ⟨stamps, header⟩ := sends.header
      refine ⟨?_, ?_, log, next, latest⟩
      · show m.header.sequence.raw = _
        rw [header]
        rfl
      · show m.header.previousCommitment = _
        rw [header]
        rfl

theorem evm_hears {w w' : Evm.World} {taken sent : Option Message} {heard : Nat}
    (moves : Evm.Moves digests.toHashing w taken sent w')
    (expected : w.coordinator.inboundExpectedSequence.raw = heard + 1) :
    ∃ heard', w'.coordinator.inboundExpectedSequence.raw = heard' + 1 ∧
      (lane digests.toHashing).Hears heard w.coordinator.inboundLatestCommitment taken heard'
        w'.coordinator.inboundLatestCommitment := by
  have took := moves.took
  cases taken with
  | none =>
      obtain ⟨next, commitment⟩ := took
      exact ⟨heard, (congrArg Unsigned.raw next).trans expected, rfl, commitment⟩
  | some m =>
      obtain ⟨expects, next, commitment⟩ := took
      refine ⟨heard + 1, next.trans (by rw [expected]), ?_, rfl, commitment⟩
      show m.header.sequence.raw = heard + 1
      obtain ⟨-, -, -, -, -, sequence, -⟩ := Evm.Coordinator.expects_iff.mp expects
      rw [← expected, sequence]

theorem Linked.leg {ctx : Leg.Context} {instruction : Leg.Instruction}
    (linked : Linked digests plan s) (noUpdate : ∀ update, instruction ≠ .processConfigUpdate update)
    (success : s.step digests (.leg ctx instruction) = .ok s') : Linked digests plan s' := by
  obtain ⟨carried, success, same⟩ := step_leg.mp success
  obtain ⟨sent, acts⟩ := Leg.Accounts.step_acts success noUpdate
  obtain ⟨reports, said⟩ := linked.reports.speak (leg_speaks acts.moves)
  obtain ⟨control, pending⟩ := linked.control.hear carried (leg_hears acts.moves)
  have stage := linked.stage
  unfold System.control at stage
  rw [show s.evm.coordinator.published.drop s.obeyed = _ from pending] at stage
  have stage' := stage.leg linked.named acts.side
  have named' := linked.named.leg stage acts.side
  have heard : s'.heard = s.heard := by
    unfold System.heard
    rw [same]
  have later : s'.reports = s.reports ++ sent.toList := by
    unfold System.reports
    rw [heard]
    exact said
  refine ⟨same ▸ linked.paired, ?_, ?_, ?_, ?_, ?_⟩
  · rw [same]
    exact control
  · rw [heard, same]
    exact linked.expected
  · rw [heard, same]
    exact reports
  · unfold System.terms System.control
    rw [same, later]
    exact stage'
  · unfold System.terms
    rw [same, later]
    exact named'

theorem Linked.evm {msg : Evm.Msg} {call : Evm.Call} (linked : Linked digests plan s)
    (outside : Evm.Outside plan.vault (msg, call))
    (success : s.step digests (.evm msg call) = .ok s') : Linked digests plan s' := by
  obtain ⟨carried, success, same⟩ := step_evm.mp success
  have paired := linked.paired.step outside success
  rcases linked.paired.acts outside success with ⟨-, -, bound⟩ | ⟨sent, acts⟩
  · -- Binding touches neither the lanes nor the buckets.
    have obeyed : s'.obeyed = s.obeyed := by
      unfold System.obeyed
      rw [same]
    have heard : s'.heard = s.heard := by
      unfold System.heard
      rw [bound]
    have reports : s'.reports = s.reports := by
      unfold System.reports
      rw [same, heard]
    have control : s'.control = s.control := by
      unfold System.control
      rw [obeyed, bound]
    have terms : s'.terms = s.terms := by
      unfold System.terms
      rw [bound]
      rfl
    refine ⟨paired, ?_, ?_, ?_, ?_, ?_⟩
    · rw [obeyed, same, bound]
      exact linked.control
    · rw [heard, bound]
      exact linked.expected
    · rw [heard, same, bound]
      exact linked.reports
    · rw [terms, same, control, reports]
      exact linked.stage
    · rw [terms, same, reports]
      exact linked.named
  · obtain ⟨control, said⟩ := linked.control.speak (evm_speaks acts.moves)
    obtain ⟨heard', expected, hears⟩ := evm_hears acts.moves linked.expected
    obtain ⟨reports, pending⟩ := linked.reports.hear carried hears
    have stage := linked.stage
    have named := linked.named
    unfold System.reports at stage named
    rw [show s.leg.published.drop s.heard = _ from pending] at stage named
    obtain ⟨stage', named'⟩ := stage.hub named acts.hub
    have obeyed : s'.obeyed = s.obeyed := by
      unfold System.obeyed
      rw [same]
    have heard : s'.heard = heard' := by
      unfold System.heard
      rw [expected, Nat.add_sub_cancel]
    have later : s'.control = s.control ++ sent.toList := by
      unfold System.control
      rw [obeyed]
      exact said
    refine ⟨paired, ?_, ?_, ?_, ?_, ?_⟩
    · rw [obeyed, same]
      exact control
    · rw [heard]
      exact expected
    · rw [heard, same]
      exact reports
    · unfold System.reports
      rw [same, later, heard]
      exact stage'
    · unfold System.reports
      rw [same, heard]
      exact named'

/-- Nothing happened yet on either side. -/
theorem Linked.fresh (deployed : plan.vault.deploy = .ok s.evm)
    (initialized : plan.leg.create = .ok s.leg) : Linked digests plan s := by
  have paired := Evm.Deployment.paired deployed
  obtain ⟨-, opened, created⟩ := Evm.Deployment.deploy_ok deployed
  obtain ⟨_, _, -, -, hVault⟩ := Evm.Vault.openEpoch_ok opened
  simp only [Evm.Coordinator.create, bind_eq_ok, rejectIf_eq_ok, exists_const, pure_eq_ok] at created
  obtain ⟨-, -, _, -, hCoordinator⟩ := created
  simp only [Leg.Setup.create, bind_eq_ok, pure_eq_ok] at initialized
  obtain ⟨_, -, hLeg⟩ := initialized
  have obeyed : s.obeyed = 0 := by
    unfold System.obeyed
    rw [← hLeg]
    rfl
  have heard : s.heard = 0 := by
    unfold System.heard
    rw [← hCoordinator]
    rfl
  have control : s.control = [] := by
    unfold System.control
    rw [← hCoordinator]
    exact List.drop_nil
  have reports : s.reports = [] := by
    unfold System.reports
    rw [← hLeg]
    exact List.drop_nil
  have side : s.leg.side = ⟨0, 0, 0, none, .zero, 0, 0, fun _ => none, fun _ => false⟩ := by
    rw [← hLeg]
    rfl
  have terms : s.terms = ⟨.none, .zero, 0, 0, false, 0, 0, 0, fun _ => false, 0, 0, 0⟩ := by
    unfold System.terms Evm.World.hub
    rw [← hCoordinator, hVault]
    rfl
  refine ⟨paired, ?_, ?_, ?_, ?_, ?_⟩
  · rw [obeyed, ← hCoordinator, ← hLeg]
    exact carries_empty
  · rw [heard, ← hCoordinator]
    rfl
  · rw [heard, ← hCoordinator, ← hLeg]
    exact carries_empty
  · rw [terms, side, control, reports]
    refine .idle rfl ⟨⟨⟨rfl, rfl, rfl⟩, ⟨rfl, rfl⟩, rfl, rfl⟩, rfl, ?_, ?_⟩
    · exact List.forall_mem_nil _
    · exact List.forall_mem_nil _
  · rw [terms, side, reports]
    refine ⟨rfl, fun _ => rfl, fun active => absurd rfl active, ?_, .inl rfl, ?_, ?_⟩
    · intro id record stored
      cases stored
    · exact List.forall_mem_nil _
    · intro id record stored
      cases stored

theorem Linked.step {event : Event} (allowed : plan.Allows event)
    (success : s.step digests event = .ok s') (linked : Linked digests plan s) :
    Linked digests plan s' := by
  cases event with
  | evm msg call => exact linked.evm allowed.1 success
  | leg ctx instruction => exact linked.leg allowed success

/-- A transaction that delivers nothing is a step of the system, whatever the leg published. -/
theorem step_alone {w w' : Evm.World} {leg : Leg.Accounts} {tx : Evm.Msg × Evm.Call}
    (nothing : tx.2.delivered = none) (success : w.step digests.toHashing tx.1 tx.2 = .ok w') :
    System.step digests ⟨w, leg⟩ (.evm tx.1 tx.2) = .ok ⟨w', leg⟩ := by
  refine step_evm.mpr ⟨?_, success, rfl⟩
  rw [nothing]
  exact nofun

/-- What holds of both sides when they are new and survives every step holds of every reachable
state. -/
theorem Reachable.invariant (Inv : System → Prop) (reachable : Reachable digests plan s)
    (fresh : ∀ w leg, plan.vault.deploy = .ok w → plan.leg.create = .ok leg → Inv ⟨w, leg⟩)
    (preserved : ∀ event s s', plan.Allows event → System.step digests s event = .ok s' → Inv s →
      Inv s') : Inv s := by
  obtain ⟨start, events, starts, allowed, finished⟩ := reachable
  obtain ⟨w, calls, deployed, alone, launched⟩ := starts.launched
  have first : Inv start := by
    refine Run.run_preserves_of (fun w => Inv ⟨w, start.leg⟩) calls ?_ w launched
      (fresh w start.leg deployed starts.created)
    intro tx member w w' success holds
    obtain ⟨allows, nothing⟩ := alone tx member
    exact preserved _ _ _ allows (step_alone nothing success) holds
  refine Run.run_preserves_of Inv events ?_ start finished first
  intro event member s s' success holds
  exact preserved event s s' (allowed event member) success holds

theorem Reachable.linked (reachable : Reachable digests plan s) : Linked digests plan s := by
  refine reachable.invariant (Linked digests plan) ?_ ?_
  · intro w leg deployed initialized
    exact .fresh deployed initialized
  · intro event s s' allows success linked
    exact linked.step allows success

theorem Reachable.matching (reachable : Reachable digests plan s) : plan.Matching := by
  obtain ⟨_, _, starts, -⟩ := reachable
  exact starts.matching

theorem Reachable.run {events : List Event} (reachable : Reachable digests plan s)
    (allowed : ∀ event ∈ events, plan.Allows event)
    (finished : Run.run (System.step digests) s events = .ok s') : Reachable digests plan s' := by
  obtain ⟨start, before, starts, earlier, first⟩ := reachable
  refine ⟨start, before ++ events, starts, ?_, Run.run_append.mpr ⟨s, first, finished⟩⟩
  intro event member
  rcases List.mem_append.mp member with old | new
  · exact earlier event old
  · exact allowed event new

end Agreement

/- What carries a message over. -/

/-- The coordinator's entry point for a message of the leg. -/
def reportCall (m : Message) : Option Evm.Call :=
  match m.body with
  | .remoteReport body => some (.processRemoteReport true m.header body)
  | .recallSent body => some (.processRecallSent true m.header body)
  | .transportSettlement body => some (.processTransportSettlement true m.header body)
  | _ => none

/-- The leg's instruction for a message of the coordinator. -/
def controlInstruction (m : Message) : Option Leg.Instruction :=
  match m.body with
  | .allocate _ => some (.processAllocate m)
  | .recall _ => some (.processRecall m)
  | .resolve body =>
      if body.action = .admitTransfer then some (.processResolve m) else some (.processSettlement m)
  | _ => none

end Bridge
