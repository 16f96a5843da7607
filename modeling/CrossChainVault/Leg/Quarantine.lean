import CrossChainVault.Leg.Settings

set_option autoImplicit false

/- Control messages that cannot run are taken all the same, so that the lane keeps moving: which
ones the leg takes, and what it leaves alone when it does. -/

namespace Leg

open Result Protocol

/-- Every amount the leg tracks stands as it was. -/
structure RemotePosition.SameAmounts (p p' : RemotePosition) : Prop where
  attributed : p'.attributedPrincipal = p.attributedPrincipal
  deployed : p'.deployedPrincipal = p.deployedPrincipal
  recalled : p'.recalledCustody = p.recalledCustody
  unattributed : p'.unattributedCustody = p.unattributedCustody
  loss : p'.cumulativeRealizedLoss = p.cumulativeRealizedLoss

section Allocations

variable {digests : Digests} {inputs : List (Context × Instruction)} {a a' : Accounts}
  {ctx : Context} {message : Message} {body : AllocateBody}

/-- An allocation may run: it has not expired, the leg is not frozen, and the ceiling holds. -/
def MayRun (a : Accounts) (ctx : Context) (message : Message) (body : AllocateBody) : Prop :=
  ctx.clock.seconds ≤ message.header.expiresAt.raw ∧ a.config.frozen = false ∧
    a.position.attributedPrincipal.raw + a.position.deployedPrincipal.raw + body.amount.raw ≤
      a.maxRemotePrincipal.raw

/-- The allocation is taken: its sequence is consumed, no amount moves, and it is the open transfer,
pending when it may run and quarantined otherwise. -/
structure TakesAllocation (a : Accounts) (ctx : Context) (message : Message) (body : AllocateBody)
    (a' : Accounts) : Prop where
  took : a.Took message .allocate a'
  amounts : a.position.SameAmounts a'.position
  kind : a'.position.activeTransferKind = .allocate
  transferId : a'.position.activeTransferId = body.transferId
  sequence : a'.position.activeTransferSequence = message.header.sequence
  record : ∃ record, a'.transferRecords body.transferId = some record ∧
    record.authorizedAmount.raw = body.amount.raw ∧ record.attributedAmount.raw = 0 ∧
    record.status = a'.position.activeTransferStatus
  pending : a'.position.activeTransferStatus = .pending ↔ MayRun a ctx message body
  held : a'.position.activeTransferStatus = .quarantined ↔ ¬MayRun a ctx message body

theorem runs_iff {amount now : U64} (clock : (now.raw : Int) = ctx.clock.seconds)
    (hAmount : amount.raw = body.amount.raw) :
    a.Runs (isFresh message.header now) amount ↔ MayRun a ctx message body := by
  simp only [Accounts.Runs, MayRun, isFresh_iff clock, hAmount, RemotePosition.principal]

theorem processAllocate_takes (hBody : message.body = .allocate body)
    (success : a.processAllocate digests.toHashing ctx message = .ok a') :
    TakesAllocation a ctx message body a' := by
  obtain ⟨now, amount, least, status, receives, -, -, -, hAmount, -, -, -, outcome, rfl⟩ :=
    Accounts.processAllocate_ok hBody success
  rw [runs_iff receives.clock hAmount] at outcome
  have took : a.Took message .allocate
      (a.acceptAllocation digests.toHashing ctx message body amount least status) :=
    ⟨receives.next.sequence, rfl, _, Function.update_self .., rfl⟩
  refine ⟨took, ⟨rfl, rfl, rfl, rfl, rfl⟩, rfl, rfl, rfl, ⟨_, Function.update_self .., hAmount, rfl, rfl⟩, ?_, ?_⟩
  · show status = .pending ↔ _
    rcases outcome with ⟨runs, rfl⟩ | ⟨stuck, rfl⟩
    · exact iff_of_true rfl runs
    · exact iff_of_false nofun stuck
  · show status = .quarantined ↔ _
    rcases outcome with ⟨runs, rfl⟩ | ⟨stuck, rfl⟩
    · exact iff_of_false nofun (not_not.mpr runs)
    · exact iff_of_true rfl stuck

/-- A leg with no open transfer takes every authentic allocation with a fresh id, the current
version and amounts of 64 bits, unless it has to weigh the allocation against the ceiling and the
projected principal does not fit 64 bits. -/
theorem allocation_taken_iff (reached : Reached digests inputs a)
    (idle : a.position.activeTransferKind = .none) (authentic : Authentic a ctx message)
    (hBody : message.body = .allocate body) (unused : a.transferRecords body.transferId = none)
    (version : body.configVersion = a.config.configVersion) (fits : body.amount.raw < 2 ^ 64) :
    (∃ a', a.processAllocate digests.toHashing ctx message = .ok a' ∧
      TakesAllocation a ctx message body a') ↔
    (ctx.clock.seconds ≤ message.header.expiresAt.raw → a.config.frozen = false →
      a.position.attributedPrincipal.raw + a.position.deployedPrincipal.raw + body.amount.raw <
        2 ^ 64) := by
  constructor
  · rintro ⟨a', success, -⟩ alive running
    obtain ⟨now, amount, _, _, receives, -, -, -, hAmount, -, -, weighable, -⟩ :=
      Accounts.processAllocate_ok hBody success
    rw [← hAmount]
    exact weighable ((isFresh_iff receives.clock).mpr alive) running
  · intro weighed
    obtain ⟨now, receives⟩ := reached.receives authentic
      (show classOf message = some .allocate by simp only [classOf, hBody])
    let amount : U64 := ⟨body.amount.raw, fits⟩
    have weighable : a.Weighable (isFresh message.header now) amount := by
      intro fresh running
      exact weighed ((isFresh_iff receives.clock).mp fresh) running
    have taken : Succeeds (a.processAllocate digests.toHashing ctx message) :=
      Accounts.processAllocate_succeeds hBody receives version unused idle rfl weighable
    obtain ⟨a', success⟩ := taken
    exact ⟨a', success, processAllocate_takes hBody success⟩

end Allocations

/-- An allocation with the number of its message. -/
def sampleAllocateBody (sequence : Nat) (amount : U128) : AllocateBody where
  transferId := .ofNat sequence
  amount := amount
  expectedSourceBalance := .zero
  minimumDestinationAmount := 1
  deadline := 500
  configVersion := 1

/-- A fresh leg takes an allocation of three hundred and opens it. -/
theorem allocation_taken_iff_first : ∃ a a' : Accounts, Reached sampleDigests [] a ∧
    a.step sampleDigests sampleContext (.processAllocate
      ⟨sampleHeader 1, .allocate (sampleAllocateBody 1 300)⟩) = .ok a' ∧
    a'.position.activeTransferStatus = .pending := by
  let body : AllocateBody := sampleAllocateBody 1 300
  let message : Message := ⟨sampleHeader 1, .allocate body⟩
  have passes : (sampleLeg []).toOption.any (fun a =>
      decide (a.position = .empty) && decide (a.config.configVersion.raw = 1) &&
      decide (a.control.highestConsumedSequence.raw = 0) &&
      decide (a.control.messageCommitment.raw = 0) && decide (a.config.frozen = false) &&
      decide (a.maxRemotePrincipal.raw = 1000) &&
      decide (checkDomains (sampleHeader 1) a.config a.control = .ok ()) &&
      (a.transferRecords body.transferId).isNone) = true := by
    decide +kernel
  obtain ⟨a, finished, checks⟩ := ok_of_any passes
  simp only [Bool.and_eq_true, decide_eq_true_eq, Option.isNone_iff_eq_none] at checks
  obtain ⟨⟨⟨⟨⟨⟨⟨empty, version⟩, highest⟩, commitment⟩, running⟩, ceiling⟩, addressed⟩, unused⟩ :=
    checks
  have reached := sampleLeg_reached finished
  have authentic : Authentic a sampleContext message :=
    ⟨rfl, by decide +kernel, addressed, by decide, by rw [highest]; rfl,
      Unsigned.raw_inj.mp commitment.symm⟩
  have taken := (allocation_taken_iff reached (by rw [empty]; rfl) authentic rfl unused
    (Unsigned.raw_inj.mp version.symm) (by decide)).mpr (fun _ _ => by rw [empty]; decide)
  obtain ⟨a', success, takes⟩ := taken
  refine ⟨a, a', reached, success, takes.pending.mpr ⟨by decide, running, ?_⟩⟩
  rw [empty, ceiling]
  decide

/-- With three hundred accepted, a fresh allocation of 2^64 - 1 is next in line, and the leg fails
on it instead of holding it. -/
theorem allocation_overflows : ∃ (a : Accounts) (message : Message) (body : AllocateBody),
    Reached sampleDigests [sampleAllocate 1 300, sampleArrival 300, sampleAttribution 1] a ∧
    a.position.activeTransferKind = .none ∧ Authentic a sampleContext message ∧
    message.body = .allocate body ∧ a.transferRecords body.transferId = none ∧
    body.configVersion = a.config.configVersion ∧ body.amount.raw < 2 ^ 64 ∧
    body.minimumDestinationAmount.raw < 2 ^ 64 ∧
    a.processAllocate sampleDigests.toHashing sampleContext message =
      .error .arithmeticOverflow := by
  let body : AllocateBody := sampleAllocateBody 2 ⟨2 ^ 64 - 1, by decide⟩
  let message : Message := ⟨sampleHeader 2, .allocate body⟩
  have passes : (sampleLeg [sampleAllocate 1 300, sampleArrival 300,
      sampleAttribution 1]).toOption.any (fun a =>
      decide (a.position.activeTransferKind = .none) &&
      decide (a.config.configVersion = body.configVersion) &&
      decide (a.control.highestConsumedSequence.raw = 1) &&
      decide (message.header.previousCommitment = a.control.messageCommitment) &&
      decide (checkDomains message.header a.config a.control = .ok ()) &&
      (a.transferRecords body.transferId).isNone &&
      failsWith (a.processAllocate sampleDigests.toHashing sampleContext message)
        .arithmeticOverflow) = true := by
    decide +kernel
  obtain ⟨a, finished, checks⟩ := ok_of_any passes
  simp only [Bool.and_eq_true, decide_eq_true_eq, Option.isNone_iff_eq_none] at checks
  obtain ⟨⟨⟨⟨⟨⟨idle, version⟩, highest⟩, commitment⟩, addressed⟩, unused⟩, fails⟩ := checks
  have authentic : Authentic a sampleContext message :=
    ⟨rfl, by decide +kernel, addressed, by decide, by rw [highest]; rfl, commitment⟩
  exact ⟨a, message, body, sampleLeg_reached finished, idle, authentic, rfl, unused, version.symm,
    by decide, by decide, failsWith_iff.mp fails⟩

section Expired

variable {digests : Digests} {inputs : List (Context × Instruction)} {a a' : Accounts}
  {ctx : Context} {message : Message} {now : U64}

/-- The instruction that takes a message whose time has passed: any update, a recall of a leg with no
open transfer, or an admission. -/
inductive Expirable (a : Accounts) (message : Message) : Instruction → Prop
  | update (body : ConfigUpdateBody) (hBody : message.body = .configUpdate body) :
      Expirable a message (.processConfigUpdate message)
  | recall (body : RecallBody) (hBody : message.body = .recall body)
      (idle : a.position.activeTransferKind = .none)
      (unused : a.transferRecords body.transferId = none)
      (version : body.configVersion = a.config.configVersion)
      (fits : body.requestedAmount.raw < 2 ^ 64 ∧ body.minimumReturnAmount.raw < 2 ^ 64) :
      Expirable a message (.processRecall message)
  | admission (body : ResolveBody) (hBody : message.body = .resolve body)
      (action : body.action = .admitTransfer)
      (version : body.configVersion = a.config.configVersion) :
      Expirable a message (.processResolve message)

/-- The message is consumed and nothing else happens: no amount moves, every record stands, and the
limits keep their version. -/
structure OnlyConsumes (a : Accounts) (message : Message) (a' : Accounts) : Prop where
  took : ∃ messageClass, classOf message = some messageClass ∧ a.Took message messageClass a'
  amounts : a.position.SameAmounts a'.position
  records : ∀ transferId record, a.transferRecords transferId = some record →
    a'.transferRecords transferId = some record
  risk : a'.risk = a.risk
  version : a'.config.configVersion = a.config.configVersion

theorem expiredUpdate_succeeds {body : ConfigUpdateBody} (hBody : message.body = .configUpdate body)
    (receives : a.Receives ctx message .configUpdate now) (stale : isFresh message.header now = false)
    (current : a.risk.configVersion = a.config.configVersion)
    (running : a.config.frozen = false) :
    Succeeds (a.processConfigUpdate digests.toHashing ctx message) := by
  simp only [Accounts.processConfigUpdate, hBody, succeeds_bind, Context.requireVerifier_ok,
    Accounts.checkControlLane_ok, Context.currentTime_ok, validateInbound_ok, rejectIf_eq_ok,
    not_not, Bool.not_eq_true, checkAvailable_ok, exists_const]
  refine ⟨receives.verifier, receives.lane, current, running, now, receives.clock, receives.next,
    receives.unconsumed, ?_⟩
  rw [if_neg (by rw [stale]; exact Bool.false_ne_true)]
  exact succeeds_pure

/-- Taking an expired message does nothing but consume it. -/
theorem expired_onlyConsumes {instruction : Instruction} (expirable : Expirable a message instruction)
    (expired : (message.header.expiresAt.raw : Int) < ctx.clock.seconds)
    (current : a.risk.configVersion = a.config.configVersion)
    (success : a.step digests ctx instruction = .ok a') : OnlyConsumes a message a' := by
  have delivered : instruction.delivered = some message := by
    cases expirable <;> rfl
  have took := Accounts.step_took success delivered
  cases expirable with
  | update body hBody =>
      obtain ⟨now, other, risk, -, receives, -, -, replaces, rfl⟩ :=
        Accounts.processConfigUpdate_ok success
      rw [isFresh_eq_false expired receives.clock] at replaces
      cases replaces
      exact ⟨took, ⟨rfl, rfl, rfl, rfl, rfl⟩, fun _ _ stored => stored, rfl, current⟩
  | «recall» body hBody idle unused version fits =>
      obtain ⟨now, amount, least, receives, -, -, -, -, -, -, -, outcome⟩ :=
        Accounts.processRecall_ok hBody success
      rcases outcome with ⟨-, rfl⟩ | ⟨fresh, -⟩
      · refine ⟨took, ⟨rfl, rfl, rfl, rfl, rfl⟩, ?_, rfl, rfl⟩
        intro transferId record stored
        have apart : transferId ≠ body.transferId := by
          rintro rfl
          cases unused.symm.trans stored
        exact (Function.update_of_ne apart ..).trans stored
      · cases (isFresh_eq_false expired receives.clock).symm.trans fresh
  | admission body hBody action version =>
      simp only [Accounts.step, Accounts.processResolve, hBody, bind_eq_ok, Context.currentTime_ok,
        pure_eq_ok] at success
      obtain ⟨-, -, -, -, now, clock, -, -, -, -, -, -, -, -, resolved, hResolved, rfl⟩ := success
      rw [Accounts.resolve, if_pos (isFresh_eq_false expired clock), pure_eq_ok] at hResolved
      subst hResolved
      exact ⟨took, ⟨rfl, rfl, rfl, rfl, rfl⟩, fun _ _ stored => stored, rfl, rfl⟩

/-- A leg takes every authentic message that has expired, frozen or not, and does nothing else. The
one exception is an update of a frozen leg, which stays closed to updates of any kind. -/
theorem expired_taken_iff {instruction : Instruction} (reached : Reached digests inputs a)
    (authentic : Authentic a ctx message)
    (expired : (message.header.expiresAt.raw : Int) < ctx.clock.seconds)
    (guardian : ctx.emergencyGuardian = true) (expirable : Expirable a message instruction) :
    (∃ a', a.step digests ctx instruction = .ok a' ∧ OnlyConsumes a message a') ↔
    (a.config.frozen = false ∨ instruction ≠ .processConfigUpdate message) := by
  have small := reached.small
  have current : a.risk.configVersion = a.config.configVersion := by
    obtain ⟨setup, reached⟩ := reached
    exact (ReachedFrom.keeps reached).current
  constructor
  · rintro ⟨a', success, -⟩
    cases expirable with
    | update body hBody =>
        obtain ⟨_, _, _, -, -, running, -⟩ := Accounts.processConfigUpdate_ok success
        exact .inl running
    | «recall» => exact .inr nofun
    | admission => exact .inr nofun
  · intro allowed
    have taken : Succeeds (a.step digests ctx instruction) := by
      cases expirable with
      | update body hBody =>
          obtain ⟨now, receives⟩ := reached.receives authentic
            (show classOf message = some .configUpdate by simp only [classOf, hBody])
          have stale := isFresh_eq_false expired receives.clock
          have running := allowed.resolve_right (fun other => other rfl)
          exact expiredUpdate_succeeds hBody receives stale current running
      | «recall» body hBody idle unused version fits =>
          obtain ⟨now, receives⟩ := reached.receives authentic
            (show classOf message = some .recall by simp only [classOf, hBody])
          have nothing : a.position.recalledCustody.raw = 0 := by
            apply reached.recalls.idle
            intro recalling
            cases idle.symm.trans recalling.1
          refine Accounts.processRecall_succeeds hBody receives (.inr guardian) version unused idle
            small fits.1 ?_ nothing
          intro fresh
          cases (isFresh_eq_false expired receives.clock).symm.trans fresh
      | admission body hBody action version =>
          obtain ⟨now, receives⟩ := reached.receives authentic
            (show classOf message = some .resolve by simp only [classOf, hBody])
          refine Accounts.processResolve_succeeds hBody action receives version ?_
          apply Accounts.resolve_succeeds reached.recorded reached.recalls reached.shaped small
            guardian
          intro fresh
          cases (isFresh_eq_false expired receives.clock).symm.trans fresh
    obtain ⟨a', success⟩ := taken
    exact ⟨a', success, expired_onlyConsumes expirable expired current success⟩

end Expired

/-- After the expiry of every sample message, with the guardian present. -/
def sampleLate : Context := ⟨⟨600, by decide, by decide⟩, true, true, true⟩

/-- A frozen leg that holds nothing takes an expired recall of fifty. -/
theorem expired_taken_iff_recall : ∃ a a' : Accounts,
    Reached sampleDigests [(sampleContext, .freeze)] a ∧
    a.step sampleDigests sampleLate (sampleRecall 1 50).2 = .ok a' ∧
    a'.control.highestConsumedSequence.raw = 1 := by
  let body : RecallBody := ⟨1, 50, 1, 500,
    1⟩
  let message : Message := ⟨sampleHeader 1, .recall body⟩
  have passes : (sampleLeg [(sampleContext, .freeze)]).toOption.any (fun a =>
      decide (a.position = .empty) && decide (a.config.configVersion.raw = 1) &&
      decide (a.control.highestConsumedSequence.raw = 0) &&
      decide (a.control.messageCommitment.raw = 0) &&
      decide (checkDomains message.header a.config a.control = .ok ()) &&
      (a.transferRecords body.transferId).isNone) = true := by
    decide +kernel
  obtain ⟨a, finished, checks⟩ := ok_of_any passes
  simp only [Bool.and_eq_true, decide_eq_true_eq, Option.isNone_iff_eq_none] at checks
  obtain ⟨⟨⟨⟨⟨empty, version⟩, highest⟩, commitment⟩, addressed⟩, unused⟩ := checks
  have reached := sampleLeg_reached finished
  have authentic : Authentic a sampleLate message :=
    ⟨rfl, by decide +kernel, addressed, by decide, by rw [highest]; rfl,
      Unsigned.raw_inj.mp commitment.symm⟩
  have expirable : Expirable a message (.processRecall message) :=
    .recall body rfl (by rw [empty]; rfl) unused (Unsigned.raw_inj.mp version.symm)
      ⟨by decide, by decide⟩
  have taken := (expired_taken_iff reached authentic (by decide) rfl expirable).mpr (.inr nofun)
  obtain ⟨a', success, consumed⟩ := taken
  obtain ⟨_, -, took⟩ := consumed.took
  exact ⟨a, a', reached, success, by rw [took.highest]; rfl⟩

/-- An expired update is next in line on a frozen leg, and the leg refuses it. -/
theorem expired_update_refused : ∃ (a : Accounts) (message : Message) (body : ConfigUpdateBody),
    Reached sampleDigests [(sampleContext, .freeze)] a ∧ Authentic a sampleLate message ∧
    message.body = .configUpdate body ∧
    (message.header.expiresAt.raw : Int) < sampleLate.clock.seconds ∧
    sampleLate.emergencyGuardian = true ∧
    a.step sampleDigests sampleLate (.processConfigUpdate message) = .error .frozen := by
  let body : ConfigUpdateBody := {
    configVersion := 2
    previousConfigVersion := 1
    maxRemoteAllocationBps := 5000
    maxUpwardDeviationBps := 100
    maxDownwardDeviationBps := 100
    maxReportAge := 600
    effectiveTimestamp := 20
    configCommitment := 6 }
  let message : Message := ⟨sampleHeader 1, .configUpdate body⟩
  have passes : (sampleLeg [(sampleContext, .freeze)]).toOption.any (fun a =>
      decide (a.control.highestConsumedSequence.raw = 0) &&
      decide (a.control.messageCommitment.raw = 0) &&
      decide (checkDomains message.header a.config a.control = .ok ()) &&
      failsWith (a.step sampleDigests sampleLate (.processConfigUpdate message)) .frozen) =
        true := by
    decide +kernel
  obtain ⟨a, finished, checks⟩ := ok_of_any passes
  simp only [Bool.and_eq_true, decide_eq_true_eq] at checks
  obtain ⟨⟨⟨highest, commitment⟩, addressed⟩, fails⟩ := checks
  have authentic : Authentic a sampleLate message :=
    ⟨rfl, by decide +kernel, addressed, by decide, by rw [highest]; rfl,
      Unsigned.raw_inj.mp commitment.symm⟩
  exact ⟨a, message, body, sampleLeg_reached finished, authentic, rfl, by decide, rfl,
    failsWith_iff.mp fails⟩

end Leg
