import CrossChainVault.Leg.Settings

set_option autoImplicit false

/- Replay protection of the control lane: the strict order of sequences, the commitment over the
accepted messages, the watermark behind them, and the replay records that may be closed. -/

namespace Leg

open Result Protocol

/- What one instruction does to the lane. -/

/-- The open transfer of `a'` is the one of `a`. -/
def StaysOpen (a a' : Accounts) : Prop :=
  a'.position.activeTransferKind ≠ .none → a.position.activeTransferKind ≠ .none ∧
    a'.position.activeTransferSequence = a.position.activeTransferSequence

/-- What an accepted instruction does to the control lane, to its replay records and to the open
transfer. -/
inductive ControlStep (hashing : Hashing) (a : Accounts) : Option Message → Accounts → Prop
  | took (message : Message) (messageClass : MessageClass) {a' : Accounts}
      (next : message.header.sequence.raw = a.control.highestConsumedSequence.raw + 1)
      (control : a'.control = (a.consume hashing messageClass message).control)
      (consumed : a'.consumedMessages = (a.consume hashing messageClass message).consumedMessages)
      (opened : a'.position.activeTransferSequence = message.header.sequence ∨ StaysOpen a a') :
      ControlStep hashing a (some message) a'
  | advanced (minimum : U64)
      (lagging : minimum.raw + a.control.mandatoryWatermarkLag.raw ≤
        a.control.highestConsumedSequence.raw)
      (obliged : a.position.activeTransferKind ≠ .none →
        minimum.raw ≤ a.position.activeTransferSequence.raw) :
      ControlStep hashing a none
        { a with control := { a.control with minimumAcceptableSequence := minimum } }
  | closed (sequence : U64) (record : ConsumedMessage)
      (found : a.consumedMessages sequence = some record)
      (passed : record.sequence.raw < a.control.minimumAcceptableSequence.raw) :
      ControlStep hashing a none
        { a with consumedMessages := Function.update a.consumedMessages sequence none }
  | kept {a' : Accounts} (control : a'.control = a.control)
      (consumed : a'.consumedMessages = a.consumedMessages) (opened : StaysOpen a a') :
      ControlStep hashing a none a'

namespace Accounts

variable {digests : Digests} {a a' : Accounts} {ctx : Context} {message : Message}

theorem StaysOpen.same (kind : a'.position.activeTransferKind = a.position.activeTransferKind)
    (sequence : a'.position.activeTransferSequence = a.position.activeTransferSequence) :
    StaysOpen a a' := by
  intro isOpen
  rw [kind] at isOpen
  exact ⟨isOpen, sequence⟩

theorem StaysOpen.ended (ended : a'.position.activeTransferKind = .none) : StaysOpen a a' := by
  intro isOpen
  exact absurd ended isOpen

theorem resolve_controlStep {resolved : Accounts} {body : ResolveBody}
    (resolves : a.Resolves body.transferId resolved)
    (next : message.header.sequence.raw = a.control.highestConsumedSequence.raw + 1) :
    ControlStep digests.toHashing a (some message)
      (resolved.consume digests.toHashing .resolve message) := by
  cases resolves with
  | unchanged => exact .took message .resolve next rfl rfl (.inr (StaysOpen.same rfl rfl))
  | allocation => exact .took message .resolve next rfl rfl (.inr (StaysOpen.same rfl rfl))
  | «recall» => exact .took message .resolve next rfl rfl (.inr (StaysOpen.same rfl rfl))

theorem settlement_controlStep {settled noticed : Accounts} {settlement : Settlement}
    {notice : Message} {body : ResolveBody}
    (next : message.header.sequence.raw = a.control.highestConsumedSequence.raw + 1)
    (settles : a.Settles body message.header.sequence ctx.clock settled settlement)
    (sent : { settled with ledger := some settlement.ledger }.publish digests notice
      .transportSettlement body.transferId .zero ctx.clock = .ok noticed) :
    ControlStep digests.toHashing a (some message)
      (noticed.consume digests.toHashing .resolve message) := by
  obtain ⟨outbound, entry, -, -, -, -, rfl⟩ := publish_ok sent
  cases settles with
  | closed action closes =>
      obtain ⟨record, record', position, ledger, -, -, -, -, ends, -, rfl, -⟩ := close_ok closes
      refine .took message .resolve next rfl rfl (.inr ?_)
      cases ends with
      | pending => exact StaysOpen.ended rfl
      | quarantined => exact StaysOpen.ended rfl
      | complete => exact StaysOpen.same rfl rfl
  | recovered action exists' recovers =>
      obtain ⟨_, _, _, _, -, -, -, -, -, -, -, -, rfl, -⟩ := recover_ok recovers
      exact .took message .resolve next rfl rfl (.inr (StaysOpen.same rfl rfl))

theorem bookRecall_controlStep {transferId : Bytes32} {record : TransferRecord}
    {position : RemotePosition} {custody escrow : U64}
    (kind : position.activeTransferKind = a.position.activeTransferKind)
    (sequence : position.activeTransferSequence = a.position.activeTransferSequence) :
    ControlStep digests.toHashing a none
      (a.bookRecall ctx transferId record position custody escrow) := by
  unfold bookRecall
  split
  · exact .kept rfl rfl (StaysOpen.ended rfl)
  · exact .kept rfl rfl (StaysOpen.same kind sequence)

theorem step_controlStep {instruction : Instruction}
    (success : a.step digests ctx instruction = .ok a') :
    ControlStep digests.toHashing a instruction.delivered a' := by
  cases instruction with
  | processAllocate message =>
      obtain ⟨body, hBody⟩ := processAllocate_body success
      obtain ⟨_, _, _, _, receives, -, -, -, -, -, -, -, -, rfl⟩ := processAllocate_ok hBody success
      exact .took message .allocate receives.next.sequence rfl rfl (.inl rfl)
  | processRecall message =>
      obtain ⟨body, hBody⟩ := processRecall_body success
      obtain ⟨_, _, _, receives, -, -, -, -, -, -, -, outcome⟩ := processRecall_ok hBody success
      rcases outcome with ⟨-, rfl⟩ | ⟨-, -, _, _, _, -, -, -, rfl⟩
      · exact .took message .recall receives.next.sequence rfl rfl (.inl rfl)
      · exact .took message .recall receives.next.sequence rfl rfl (.inl rfl)
  | processConfigUpdate message =>
      obtain ⟨_, _, _, -, receives, -, -, -, rfl⟩ := processConfigUpdate_ok success
      exact .took message .configUpdate receives.next.sequence rfl rfl
        (.inr (StaysOpen.same rfl rfl))
  | processResolve message =>
      obtain ⟨_, _, _, -, -, receives, resolves, -, rfl⟩ := processResolve_ok success
      exact resolve_controlStep resolves receives.next.sequence
  | processSettlement message =>
      obtain ⟨_, _, _, _, _, _, -, receives, -, -, -, settles, -, sent, rfl⟩ :=
        processSettlement_ok success
      exact settlement_controlStep receives.next.sequence settles sent
  | attributeAllocation transferId =>
      obtain ⟨record, _, _, attributed, -, -, -, -, -, -, -, -, -, -, rfl⟩ :=
        attributeAllocation_ok success
      unfold bookAttribution
      split
      · exact .kept rfl rfl (StaysOpen.ended rfl)
      · exact .kept rfl rfl (StaysOpen.same rfl rfl)
  | deployToStrategy approved amount call =>
      obtain ⟨_, _, _, _, -, -, -, -, -, rfl⟩ := deployToStrategy_ok success
      exact .kept rfl rfl (StaysOpen.same rfl rfl)
  | withdrawForRecall transferId maximum call =>
      obtain ⟨record, _, _, _, _, _, _, _, _, -, -, -, -, -, -, -, -, -, -, -, -, -, -, -, -, rfl⟩ :=
        withdrawForRecall_ok success
      exact bookRecall_controlStep rfl rfl
  | sendRecallAssets transferId maximum =>
      obtain ⟨record, _, _, _, _, _, -, -, -, -, -, -, -, -, -, -, rfl⟩ := sendRecallAssets_ok success
      exact bookRecall_controlStep rfl rfl
  | reconcileCustody =>
      obtain ⟨_, -, -, rfl⟩ := reconcileCustody_ok.mp success
      exact .kept rfl rfl (StaysOpen.same rfl rfl)
  | publishRemoteReport epochId adapterPrincipal layoutKept supplied =>
      obtain ⟨_, _, _, _, message, -, -, -, published⟩ := publishRemoteReport_ok success
      obtain ⟨outbound, entry, -, -, -, -, rfl⟩ := publish_ok published
      exact .kept rfl rfl (StaysOpen.same rfl rfl)
  | publishRecallSent transferId =>
      obtain ⟨_, _, _, _, published, _, -, -, -, -, -, -, -, hPublished, rfl⟩ :=
        publishRecallSent_ok success
      obtain ⟨outbound, entry, -, -, -, -, rfl⟩ := publish_ok hPublished
      exact .kept rfl rfl (StaysOpen.same rfl rfl)
  | advanceReplayWatermark minimum =>
      obtain ⟨lagging, obliged, rfl⟩ := advanceReplayWatermark_ok success
      exact .advanced minimum lagging obliged
  | closeConsumedMessage sequence =>
      obtain ⟨record, found, passed, rfl⟩ := closeConsumedMessage_ok success
      exact .closed sequence record found passed
  | freeze =>
      cases freeze_ok success
      exact .kept rfl rfl (StaysOpen.same rfl rfl)
  | receiveCustody amount =>
      obtain ⟨_, -, rfl⟩ := receiveCustody_ok success
      exact .kept rfl rfl (StaysOpen.same rfl rfl)
  | moveEscrow balance =>
      cases pure_eq_ok.mp success
      exact .kept rfl rfl (StaysOpen.same rfl rfl)

end Accounts

/- Whole runs. -/

/-- The lane after these messages: it counted and chained them in order, keeps its distance to the
watermark, and still holds the replay record of the open transfer. -/
structure Replayed (hashing : Hashing) (setup : Setup) (messages : List Message) (a : Accounts) :
    Prop where
  highest : a.control.highestConsumedSequence.raw = messages.length
  sequences : messages.map (fun message => message.header.sequence.raw) =
    List.range' 1 messages.length
  commitment : a.control.messageCommitment =
    (messages.map hashing.messageId).foldl hashing.nextCommitment .zero
  lag : a.control.mandatoryWatermarkLag = setup.mandatoryWatermarkLag
  watermark : a.control.minimumAcceptableSequence.raw ≤
    max 1 (a.control.highestConsumedSequence.raw - setup.mandatoryWatermarkLag.raw)
  named : ∀ sequence record, a.consumedMessages sequence = some record →
    record.sequence = sequence ∧ record.laneId = setup.controlLaneId
  opened : a.position.activeTransferKind ≠ .none →
    a.control.minimumAcceptableSequence.raw ≤ a.position.activeTransferSequence.raw ∧
      ∃ record, a.consumedMessages a.position.activeTransferSequence = some record

namespace Replayed

variable {hashing : Hashing} {setup : Setup} {messages : List Message} {a a' : Accounts}

theorem create (created : setup.create = .ok a) : Replayed hashing setup [] a := by
  simp only [Setup.create, bind_eq_ok, pure_eq_ok] at created
  obtain ⟨_, -, rfl⟩ := created
  refine ⟨rfl, rfl, rfl, rfl, Nat.le_max_left .., ?_, ?_⟩
  · intro _ _ found
    cases found
  · intro isOpen
    exact absurd rfl isOpen

/-- The lane has moved past its own watermark. -/
theorem below (replayed : Replayed hashing setup messages a) :
    a.control.minimumAcceptableSequence.raw ≤ a.control.highestConsumedSequence.raw + 1 := by
  have watermark := replayed.watermark
  omega

theorem take {message : Message} {messageClass : MessageClass}
    (replayed : Replayed hashing setup messages a) (keeps : a.Keeps setup)
    (next : message.header.sequence.raw = a.control.highestConsumedSequence.raw + 1)
    (control : a'.control = (a.consume hashing messageClass message).control)
    (consumed : a'.consumedMessages = (a.consume hashing messageClass message).consumedMessages)
    (opened : a'.position.activeTransferSequence = message.header.sequence ∨ StaysOpen a a') :
    Replayed hashing setup (messages ++ [message]) a' := by
  have below := replayed.below
  have highest : a'.control.highestConsumedSequence = message.header.sequence := by
    rw [control]
    rfl
  have minimum : a'.control.minimumAcceptableSequence = a.control.minimumAcceptableSequence := by
    rw [control]
    rfl
  have lane : a.config.controlLaneId = setup.controlLaneId := by
    rw [keeps.config]
    rfl
  have counted := replayed.highest
  refine ⟨?_, ?_, ?_, ?_, ?_, ?_, ?_⟩
  · rw [highest, List.length_append, List.length_singleton]
    omega
  · rw [List.map_append, replayed.sequences, List.length_append, List.length_singleton,
      List.range'_1_concat, List.map_singleton, next, counted, Nat.add_comm]
  · rw [control, List.map_append, List.foldl_append, ← replayed.commitment]
    rfl
  · rw [control]
    exact replayed.lag
  · have watermark := replayed.watermark
    rw [minimum, highest]
    omega
  · intro sequence record found
    rw [consumed] at found
    change Function.update a.consumedMessages message.header.sequence _ sequence = _ at found
    by_cases here : sequence = message.header.sequence
    · rw [here, Function.update_self, Option.some.injEq] at found
      rw [← found, here]
      exact ⟨rfl, lane⟩
    · rw [Function.update_of_ne here] at found
      exact replayed.named sequence record found
  · intro isOpen
    rw [minimum, consumed]
    -- The new replay record is the one of the transfer the message opened.
    by_cases here : a'.position.activeTransferSequence = message.header.sequence
    · rw [here]
      exact ⟨by omega, _, Function.update_self ..⟩
    · obtain ⟨before, same⟩ := opened.resolve_left here isOpen
      obtain ⟨reached, record, found⟩ := replayed.opened before
      rw [same] at here ⊢
      exact ⟨reached, record, (Function.update_of_ne here ..).trans found⟩

theorem step {taken : Option Message} (replayed : Replayed hashing setup messages a)
    (keeps : a.Keeps setup) (step : ControlStep hashing a taken a') :
    Replayed hashing setup (messages ++ taken.toList) a' := by
  cases step with
  | took message messageClass next control consumed opened =>
      exact replayed.take keeps next control consumed opened
  | advanced minimum lagging obliged =>
      rw [replayed.lag] at lagging
      rw [Option.toList_none, List.append_nil]
      refine ⟨replayed.highest, replayed.sequences, replayed.commitment, replayed.lag, ?_,
        replayed.named, ?_⟩
      · show minimum.raw ≤ max 1 (a.control.highestConsumedSequence.raw - _)
        omega
      · intro isOpen
        exact ⟨obliged isOpen, (replayed.opened isOpen).2⟩
  | closed sequence record found passed =>
      rw [Option.toList_none, List.append_nil]
      refine ⟨replayed.highest, replayed.sequences, replayed.commitment, replayed.lag,
        replayed.watermark, ?_, ?_⟩
      · intro other entry kept
        change Function.update a.consumedMessages sequence none other = _ at kept
        by_cases here : other = sequence
        · rw [here, Function.update_self] at kept
          cases kept
        · rw [Function.update_of_ne here] at kept
          exact replayed.named other entry kept
      · intro isOpen
        obtain ⟨reached, entry, stands⟩ := replayed.opened isOpen
        -- A closed record lies behind the watermark, the open transfer does not.
        have apart : a.position.activeTransferSequence ≠ sequence := by
          intro same
          have name := (replayed.named sequence record found).1
          rw [name, ← same] at passed
          omega
        exact ⟨reached, entry, (Function.update_of_ne apart ..).trans stands⟩
  | kept control consumed opened =>
      rw [Option.toList_none, List.append_nil]
      refine ⟨?_, replayed.sequences, ?_, ?_, ?_, ?_, ?_⟩
      · rw [control]
        exact replayed.highest
      · rw [control]
        exact replayed.commitment
      · rw [control]
        exact replayed.lag
      · rw [control]
        exact replayed.watermark
      · rw [consumed]
        exact replayed.named
      · intro isOpen
        obtain ⟨before, same⟩ := opened isOpen
        rw [control, consumed, same]
        exact replayed.opened before

/-- The record of the open transfer is out of reach of a close. -/
theorem refuses (replayed : Replayed hashing setup messages a) (keeps : a.Keeps setup)
    (isOpen : a.position.activeTransferKind ≠ .none) :
    a.closeConsumedMessage a.position.activeTransferSequence = .error .recordNotClosable := by
  obtain ⟨reached, record, found⟩ := replayed.opened isOpen
  obtain ⟨name, lane⟩ := replayed.named _ record found
  have same : record.laneId = a.control.laneId := by rw [lane, keeps.controlLane]
  have control : a.control.laneId = a.config.controlLaneId := by
    rw [keeps.controlLane, keeps.config]
    rfl
  refine bind_eq_error.mpr (.inr ⟨record, okOr_eq_ok.mpr found, ?_⟩)
  refine bind_eq_error.mpr (.inr ⟨(), rejectIf_eq_ok.mpr (not_not.mpr same), ?_⟩)
  refine bind_eq_error.mpr (.inr ⟨(), Accounts.checkControlLane_ok.mpr control, ?_⟩)
  refine bind_eq_error.mpr (.inl (rejectIf_eq_error.mpr ⟨?_, rfl⟩))
  rw [name]
  exact reached

end Replayed

section Runs

variable {digests : Digests} {setup : Setup} {inputs : List (Context × Instruction)} {a : Accounts}

/-- The control messages these inputs delivered, oldest first. -/
def acceptedMessages (inputs : List (Context × Instruction)) : List Message :=
  inputs.filterMap fun input => input.2.delivered

theorem ReachedFrom.replayed (reached : ReachedFrom digests setup inputs a) :
    Replayed digests.toHashing setup (acceptedMessages inputs) a := by
  induction inputs using List.reverseRecOn generalizing a with
  | nil =>
      obtain ⟨start, created, finished⟩ := reached
      cases Run.run_nil.mp finished
      exact .create created
  | append_singleton inputs input ih =>
      obtain ⟨start, created, finished⟩ := reached
      obtain ⟨middle, before, last⟩ := Run.run_append.mp finished
      have earlier : ReachedFrom digests setup inputs middle := ⟨start, created, before⟩
      have step := Accounts.step_controlStep (Run.run_one.mp last)
      have later := (ih earlier).step earlier.keeps step
      have split : acceptedMessages (inputs ++ [input]) =
          acceptedMessages inputs ++ input.2.delivered.toList := by
        simp only [acceptedMessages, List.filterMap_append, List.filterMap_cons,
          List.filterMap_nil]
        cases input.2.delivered <;> rfl
      rw [split]
      exact later

/-- Messages of every class, watermark moves and closed records, in any order: each accepted message
moves the lane by one, none is accepted twice, the commitment covers their ids in sequence, the
watermark keeps its lag and never blocks the next message, and the replay record of an open transfer
stays. -/
theorem replay_safe (reached : ReachedFrom digests setup inputs a) :
    a.control.highestConsumedSequence.raw = (acceptedMessages inputs).length ∧
    (∀ ctx instruction a', a.step digests ctx instruction = .ok a' →
      a'.control.highestConsumedSequence.raw = a.control.highestConsumedSequence.raw +
        if instruction.delivered.isSome then 1 else 0) ∧
    (acceptedMessages inputs).map (fun message => message.header.sequence.raw) =
      List.range' 1 (acceptedMessages inputs).length ∧
    ((acceptedMessages inputs).map fun message => message.header.sequence).Nodup ∧
    a.control.messageCommitment =
      ((acceptedMessages inputs).map digests.messageId).foldl digests.nextCommitment .zero ∧
    a.control.mandatoryWatermarkLag = setup.mandatoryWatermarkLag ∧
    a.control.minimumAcceptableSequence.raw ≤
      max 1 (a.control.highestConsumedSequence.raw - a.control.mandatoryWatermarkLag.raw) ∧
    a.control.minimumAcceptableSequence.raw ≤ a.control.highestConsumedSequence.raw + 1 ∧
    (a.position.activeTransferKind ≠ .none →
      (∃ record, a.consumedMessages a.position.activeTransferSequence = some record) ∧
      a.closeConsumedMessage a.position.activeTransferSequence = .error .recordNotClosable) := by
  have replayed := reached.replayed
  have keeps := reached.keeps
  refine ⟨replayed.highest, ?_, replayed.sequences, ?_, replayed.commitment, replayed.lag, ?_,
    replayed.below, ?_⟩
  · intro ctx instruction a' success
    have later := replayed.step keeps (Accounts.step_controlStep success)
    rw [later.highest, replayed.highest, List.length_append]
    cases instruction.delivered <;> rfl
  · have distinct : ((acceptedMessages inputs).map fun message =>
        message.header.sequence.raw).Nodup := by
      rw [replayed.sequences]
      exact List.nodup_range'
    rw [← Function.comp_def Unsigned.raw, ← List.map_map] at distinct
    exact distinct.of_map _
  · rw [replayed.lag]
    exact replayed.watermark
  · intro isOpen
    exact ⟨(replayed.opened isOpen).2, replayed.refuses keeps isOpen⟩

end Runs

/-- Two settled allocations, a third one open, the watermark at two and the first record closed. -/
def sampleTrimmed : List (Context × Instruction) :=
  [sampleAllocate 1 300, sampleArrival 300, sampleAttribution 1, sampleAllocate 2 100,
    sampleArrival 100, sampleAttribution 2, sampleAllocate 3 50,
    (sampleContext, .advanceReplayWatermark 2),
    (sampleContext, .closeConsumedMessage 1)]

theorem replay_safe_trimmed : ∃ a, ReachedFrom sampleDigests sampleSetup sampleTrimmed a ∧
    a.control.highestConsumedSequence.raw = 3 ∧ a.control.minimumAcceptableSequence.raw = 2 ∧
    a.consumedMessages 1 = none ∧
    a.closeConsumedMessage 3 = .error .recordNotClosable := by
  have passes : (sampleLeg sampleTrimmed).toOption.any (fun a =>
      decide (a.position.activeTransferKind = .allocate) &&
      decide (a.position.activeTransferSequence = 3) &&
      decide (a.control.minimumAcceptableSequence.raw = 2) &&
      (a.consumedMessages 1).isNone) = true := by
    decide +kernel
  obtain ⟨a, finished, checks⟩ := ok_of_any passes
  simp only [Bool.and_eq_true, decide_eq_true_eq, Option.isNone_iff_eq_none] at checks
  obtain ⟨⟨⟨kind, third⟩, minimum⟩, gone⟩ := checks
  have reached : ReachedFrom sampleDigests sampleSetup sampleTrimmed a := by
    simp only [sampleLeg, bind_eq_ok] at finished
    exact finished
  obtain ⟨highest, -, -, -, -, -, -, -, guarded⟩ := replay_safe reached
  have refused := (guarded (by rw [kind]; nofun)).2
  rw [third] at refused
  exact ⟨a, reached, highest, minimum, gone, refused⟩

end Leg
