import CrossChainVault.Leg.Acceptance

set_option autoImplicit false

/- What a leg keeps of its initialization while it runs, and what an authentic message finds. -/

namespace Leg

open Result Protocol

/-- The configuration an initialization chose, as it stands under the current version. -/
def Setup.config (setup : Setup) (frozen : Bool) (configVersion : U64) : RemoteConfig where
  frozen := frozen
  outboundEscrow := setup.outboundEscrow
  sourceChainId := setup.sourceChainId
  destinationChainId := setup.destinationChainId
  sourceApplicationId := setup.sourceApplicationId
  localApplicationId := setup.localApplicationId
  deploymentId := setup.deploymentId
  vaultId := setup.vaultId
  controlLaneId := setup.controlLaneId
  reportLaneId := setup.reportLaneId
  configVersion := configVersion

/-- Only the freeze flag, the limits and their version ever move, and the limits stay valid. -/
structure Accounts.Keeps (setup : Setup) (a : Accounts) : Prop where
  config : a.config = setup.config a.config.frozen a.config.configVersion
  ceiling : a.maxRemotePrincipal = setup.maxRemotePrincipal
  controlLane : a.control.laneId = setup.controlLaneId
  reportLane : a.outbound.laneId = setup.reportLaneId
  current : a.risk.configVersion = a.config.configVersion
  version : a.config.configVersion.raw ≠ 0
  limits : a.risk.checkParameters = .ok ()

section Runs

variable {digests : Digests} {setup : Setup} {a a' : Accounts} {ctx : Context}
  {inputs : List (Context × Instruction)}

theorem Setup.create_keeps (created : setup.create = .ok a) : a.Keeps setup := by
  simp only [Setup.create, Setup.validate, bind_eq_ok, rejectIf_eq_ok, Unsigned.isZero_iff,
    pure_eq_ok, exists_const] at created
  obtain ⟨⟨-, -, -, -, -, -, -, -, -, version, _, limits, -⟩, rfl⟩ := created
  exact ⟨rfl, rfl, rfl, rfl, rfl, version, limits⟩

/-- New limits come with their version, which is never zero again. -/
theorem Accounts.Keeps.update {message : Message} (keeps : a.Keeps setup)
    (success : a.processConfigUpdate digests.toHashing ctx message = .ok a') : a'.Keeps setup := by
  obtain ⟨now, body, risk, -, -, -, -, replaces, rfl⟩ := processConfigUpdate_ok success
  have config := keeps.config
  obtain ⟨newer, limits⟩ : risk.configVersion.raw ≠ 0 ∧ risk.checkParameters = .ok () := by
    unfold Replaces at replaces
    split at replaces
    · obtain ⟨-, -, newer, limits⟩ := replaces
      exact ⟨by omega, limits⟩
    · rw [replaces, keeps.current]
      exact ⟨keeps.version, keeps.limits⟩
  refine ⟨?_, keeps.ceiling, keeps.controlLane, keeps.reportLane, rfl, newer, limits⟩
  show { a.config with configVersion := risk.configVersion } = _
  rw [config]
  rfl

theorem Accounts.Keeps.step {instruction : Instruction} (keeps : a.Keeps setup)
    (success : a.step digests ctx instruction = .ok a') : a'.Keeps setup := by
  by_cases update : ∃ message, instruction = .processConfigUpdate message
  · obtain ⟨message, rfl⟩ := update
    exact keeps.update success
  · have noUpdate : ∀ message, instruction ≠ .processConfigUpdate message := by
      intro message same
      exact update ⟨message, same⟩
    obtain ⟨sent, acts⟩ := Accounts.step_acts success noUpdate
    have moves := acts.moves
    have config := moves.config
    have version : a'.config.configVersion = a.config.configVersion := by rw [config]
    refine ⟨?_, ?_, ?_, ?_, ?_, ?_, ?_⟩
    · rw [version, config, keeps.config]
      rfl
    · rw [moves.maxRemotePrincipal, keeps.ceiling]
    · rw [moves.controlLane, keeps.controlLane]
    · rw [moves.reportLane, keeps.reportLane]
    · rw [moves.risk, version, keeps.current]
    · rw [version]
      exact keeps.version
    · rw [moves.risk]
      exact keeps.limits

/-- The escrow the leg sends recalled assets to is fixed. -/
theorem Accounts.step_outboundEscrow {instruction : Instruction}
    (success : a.step digests ctx instruction = .ok a') :
    a'.config.outboundEscrow = a.config.outboundEscrow := by
  by_cases update : ∃ message, instruction = .processConfigUpdate message
  · obtain ⟨message, rfl⟩ := update
    obtain ⟨_, _, _, -, -, -, -, -, rfl⟩ := processConfigUpdate_ok success
    rfl
  · obtain ⟨sent, acts⟩ := Accounts.step_acts success fun message same => update ⟨message, same⟩
    rw [acts.moves.config]

/-- A run from one initialization. -/
def ReachedFrom (digests : Digests) (setup : Setup) (inputs : List (Context × Instruction))
    (a : Accounts) : Prop :=
  ∃ start, Setup.create setup = .ok start ∧ Run.run (Accounts.accept digests) start inputs = .ok a

theorem ReachedFrom.reached (reached : ReachedFrom digests setup inputs a) :
    Reached digests inputs a := ⟨setup, reached⟩

theorem ReachedFrom.keeps (reached : ReachedFrom digests setup inputs a) : a.Keeps setup := by
  obtain ⟨start, created, finished⟩ := reached
  refine Run.run_preserves (Accounts.Keeps setup) ?_ inputs start finished
    (Setup.create_keeps created)
  intro a input a' success keeps
  exact keeps.step success

theorem ReachedFrom.valid (reached : ReachedFrom digests setup inputs a) :
    setup.validate = .ok () := by
  obtain ⟨start, created, -⟩ := reached
  obtain ⟨_, valid, -⟩ := bind_eq_ok.mp created
  exact valid

/-- The principal the leg accepted stays below its ceiling, which has 64 bits. -/
theorem Reached.small (reached : Reached digests inputs a) : a.position.principal < 2 ^ 64 := by
  have capped : a.position.principal + a.book.outstanding ≤ a.maxRemotePrincipal.raw :=
    reached.capped
  have bound := a.maxRemotePrincipal.bound
  omega

end Runs

/-- An authentic message that is next in line: the verifier submits it, it is valid, addressed to
this leg and published by now, and it continues the lane. -/
structure Authentic (a : Accounts) (ctx : Context) (message : Message) : Prop where
  verifier : ctx.transportVerifier = true
  valid : message.validate = .ok ()
  addressed : checkDomains message.header a.config a.control = .ok ()
  past : (message.header.publishedAt.raw : Int) ≤ ctx.clock.seconds
  sequence : message.header.sequence.raw = a.control.highestConsumedSequence.raw + 1
  commitment : message.header.previousCommitment = a.control.messageCommitment

/-- A leg in any state it can reach lets an authentic message through to its body. -/
theorem Reached.receives {digests : Digests} {inputs : List (Context × Instruction)} {a : Accounts}
    {ctx : Context} {message : Message} {messageClass : MessageClass}
    (reached : Reached digests inputs a) (authentic : Authentic a ctx message)
    (accepted : classOf message = some messageClass) :
    ∃ now, a.Receives ctx message messageClass now := by
  have ready := reached.ready
  obtain ⟨setup, reached⟩ := reached
  have keeps : a.Keeps setup := ReachedFrom.keeps reached
  have past := authentic.past
  have next := authentic.sequence
  have watermark := ready.watermark
  have upper := ctx.clock.upper
  let now : U64 := ⟨ctx.clock.seconds.toNat, by omega⟩
  have clock : (now.raw : Int) = ctx.clock.seconds := by
    show (ctx.clock.seconds.toNat : Int) = _
    omega
  refine ⟨now, authentic.verifier, ?_, clock, ⟨authentic.valid, accepted, authentic.addressed, ?_, ?_,
    next, authentic.commitment⟩, ?_⟩
  · rw [keeps.controlLane, keeps.config]
    rfl
  · omega
  · omega
  · apply ready.unconsumed
    omega

section Freshness

variable {ctx : Context} {header : Header} {now : U64}

theorem isFresh_iff (clock : (now.raw : Int) = ctx.clock.seconds) :
    isFresh header now = true ↔ ctx.clock.seconds ≤ header.expiresAt.raw := by
  simp only [isFresh, decide_eq_true_eq, Unsigned.le_def]
  omega

theorem isFresh_eq_false (expired : (header.expiresAt.raw : Int) < ctx.clock.seconds)
    (clock : (now.raw : Int) = ctx.clock.seconds) : isFresh header now = false := by
  rw [Bool.eq_false_iff, ne_eq, isFresh_iff clock]
  omega

end Freshness

end Leg
