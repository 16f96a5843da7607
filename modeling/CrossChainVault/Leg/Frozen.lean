import CrossChainVault.Leg.Recalls

set_option autoImplicit false

/- A frozen leg without its guardian: it still takes messages and finishes the recall it was
running, and releases nothing else. -/

namespace Leg

open Result Protocol Tally

namespace TransferRecord

/-- A recall that may run. -/
def IsRecalling (record : TransferRecord) : Prop :=
  record.transferKind = .recall ∧ record.status = .pending

/-- What a transfer settled so far. -/
def settled (record : TransferRecord) : Nat := record.assetsSent.raw + record.realizedLoss.raw

end TransferRecord

/-- How far a recall that ran when the leg froze has come since. -/
structure Releases (b b' : Book) (record record' : TransferRecord) : Prop where
  follows : record.Follows record'
  status : record'.status = .pending ∨ record'.status = .complete
  requested : record'.requestedRecallAmount = record.requestedRecallAmount
  grows : record.settled ≤ record'.settled
  within : record'.settled ≤ record'.requestedRecallAmount.raw
  custody : b.custody.raw + record.assetsSent.raw ≤ b'.custody.raw + record'.assetsSent.raw
  adapter : b'.position.deployedPrincipal.raw + record'.strategyPrincipalResolved.raw =
    b.position.deployedPrincipal.raw + record.strategyPrincipalResolved.raw
  total : sumRecords TransferRecord.settled b'.records + record.settled =
    sumRecords TransferRecord.settled b.records + record'.settled

/-- Everything that can have happened to the books of a frozen leg since `b`. -/
structure Sealed (b b' : Book) : Prop where
  config : b'.config = b.config
  risk : b'.risk = b.risk
  ledger : b'.ledger = b.ledger
  attributed : b'.position.attributedPrincipal.raw ≤ b.position.attributedPrincipal.raw
  deployed : b'.position.deployedPrincipal.raw ≤ b.position.deployedPrincipal.raw
  kept : ∀ transferId record, b.records transferId = some record → ¬record.IsRecalling →
    b'.records transferId = some record
  released : ∀ transferId record, b.records transferId = some record → record.IsRecalling →
    ∃ record', b'.records transferId = some record' ∧ Releases b b' record record'
  fresh : ∀ transferId record', b'.records transferId = some record' →
    b.records transferId = none →
    record'.transferKind = .allocate ∧ record'.status = .quarantined
  still : (∀ transferId record, b.records transferId = some record → ¬record.IsRecalling) →
    b.custody.raw ≤ b'.custody.raw ∧
      b'.position.deployedPrincipal = b.position.deployedPrincipal ∧
      sumRecords TransferRecord.settled b'.records = sumRecords TransferRecord.settled b.records

theorem Sealed.refl {b : Book} (recalls : b.Recalls) : Sealed b b where
  config := rfl
  risk := rfl
  ledger := rfl
  attributed := Nat.le_refl _
  deployed := Nat.le_refl _
  kept := fun _ _ stored _ => stored
  released := by
    intro transferId record stored recalling
    have unwound := recalls.unwound transferId record stored recalling.1 (by
      rw [recalling.2]
      decide)
    have running := recalls.running transferId record stored recalling.1 recalling.2
    have split := unwound.split
    have within := unwound.within
    have custody := running.custody
    refine ⟨record, stored, .refl record, .inl recalling.2, rfl, Nat.le_refl _, ?_, Nat.le_refl _, rfl,
      rfl⟩
    unfold TransferRecord.settled
    omega
  fresh := by
    intro transferId record' stored unused
    rw [unused] at stored
    cases stored
  still := fun _ => ⟨Nat.le_refl _, rfl, rfl⟩

namespace Sealed

variable {b b' : Book} {transferId : Bytes32} {record record' : TransferRecord}
  {p : RemotePosition} {custody : U64}

/-- A recall that runs now ran when the leg froze. -/
theorem recalling_before (sealed : Sealed b b') (stored : b'.records transferId = some record')
    (recalling : record'.IsRecalling) :
    ∃ record, b.records transferId = some record ∧ record.IsRecalling := by
  cases found : b.records transferId with
  | none =>
      have kind := (sealed.fresh transferId record' stored found).1
      cases kind.symm.trans recalling.1
  | some record =>
      refine ⟨record, rfl, ?_⟩
      by_contra apart
      cases (sealed.kept transferId record found apart).symm.trans stored
      exact apart recalling

/-- The records stay as they are, and tokens only arrive. -/
theorem same_records (sealed : Sealed b b') (arrived : b'.custody.raw ≤ custody.raw)
    (attributed : p.attributedPrincipal = b'.position.attributedPrincipal)
    (deployed : p.deployedPrincipal = b'.position.deployedPrincipal) :
    Sealed b { b' with position := p, custody := custody } where
  config := sealed.config
  risk := sealed.risk
  ledger := sealed.ledger
  attributed := attributed ▸ sealed.attributed
  deployed := deployed ▸ sealed.deployed
  kept := sealed.kept
  released := by
    intro transferId record stored recalling
    obtain ⟨record', stored', releases⟩ := sealed.released transferId record stored recalling
    refine ⟨record', stored', { releases with custody := ?_, adapter := ?_ }⟩
    · exact Nat.le_trans releases.custody (Nat.add_le_add_right arrived _)
    · show p.deployedPrincipal.raw + _ = _
      rw [deployed]
      exact releases.adapter
  fresh := sealed.fresh
  still := by
    intro none
    obtain ⟨kept, adapter, total⟩ := sealed.still none
    exact ⟨Nat.le_trans kept arrived, deployed.trans adapter, total⟩

/-- An allocation that arrives is held back. -/
theorem holds (sealed : Sealed b b') (unused : b'.records transferId = none)
    (kind : record'.transferKind = .allocate) (held : record'.status = .quarantined)
    (shape : record'.AllocationShape)
    (attributed : p.attributedPrincipal = b'.position.attributedPrincipal)
    (deployed : p.deployedPrincipal = b'.position.deployedPrincipal) :
    Sealed b { b'.store transferId record' with position := p } := by
  have nothing : record'.settled = 0 := by
    obtain ⟨-, -, -, -, sent, lost⟩ := shape
    unfold TransferRecord.settled
    omega
  have total : sumRecords TransferRecord.settled
      (Function.update b'.records transferId (some record')) =
      sumRecords TransferRecord.settled b'.records := by
    rw [sumRecords_new unused, nothing, Nat.add_zero]
  have other : ∀ otherId account, b'.records otherId = some account →
      Function.update b'.records transferId (some record') otherId = some account := by
    intro otherId account found
    by_cases same : otherId = transferId
    · rw [same, unused] at found
      cases found
    · rw [Function.update_of_ne same, found]
  refine ⟨sealed.config, sealed.risk, sealed.ledger, attributed ▸ sealed.attributed,
    deployed ▸ sealed.deployed, ?_, ?_, ?_, ?_⟩
  · intro otherId account found apart
    exact other otherId account (sealed.kept otherId account found apart)
  · intro otherId account found recalling
    obtain ⟨account', found', releases⟩ := sealed.released otherId account found recalling
    refine ⟨account', other otherId account' found', { releases with adapter := ?_, total := ?_ }⟩
    · show p.deployedPrincipal.raw + _ = _
      rw [deployed]
      exact releases.adapter
    · show sumRecords TransferRecord.settled
        (Function.update b'.records transferId (some record')) + _ = _
      rw [total]
      exact releases.total
  · exact forall_store (fun _ => ⟨kind, held⟩) fun otherId account _ found =>
      sealed.fresh otherId account found
  · intro none
    obtain ⟨kept, adapter, before⟩ := sealed.still none
    exact ⟨kept, deployed.trans adapter, total.trans before⟩

end Sealed

section Unwinding

variable {b : Book} {transferId : Bytes32} {instruction : Instruction}
  {record record' : TransferRecord} {position : RemotePosition} {custody : U64}

/-- Tokens leave custody and the adapter only against the recall they are booked to. -/
theorem Unwinds.flows
    (unwinds : Unwinds b transferId record instruction record' position custody) :
    record'.requestedRecallAmount = record.requestedRecallAmount ∧
      record.settled ≤ record'.settled ∧
      b.custody.raw + record.assetsSent.raw ≤ custody.raw + record'.assetsSent.raw ∧
      position.attributedPrincipal = b.position.attributedPrincipal ∧
      position.deployedPrincipal.raw ≤ b.position.deployedPrincipal.raw ∧
      position.deployedPrincipal.raw + record'.strategyPrincipalResolved.raw =
        b.position.deployedPrincipal.raw + record.strategyPrincipalResolved.raw := by
  unfold TransferRecord.settled
  cases unwinds with
  | withdrew maximum call unattributed deployed recalled loss resolved withdrawn recordLoss custody
      reported arrived hDeployed hRecalled hLoss returned lost split within identity =>
      dsimp only
      exact ⟨rfl, by omega, by omega, rfl, by omega, hDeployed⟩
  | sent maximum unattributed recalled sent custody hRecalled grows left identity =>
      dsimp only
      exact ⟨rfl, by omega, by omega, rfl, Nat.le_refl _, rfl⟩

end Unwinding

/-- The running recall moves on to `record''`, which is its record with a new status. -/
theorem Sealed.unwinds {b b' : Book} {transferId : Bytes32} {instruction : Instruction}
    {record record' record'' : TransferRecord} {position p : RemotePosition} {custody : U64}
    (sealed : Sealed b b') (recorded : b.Recorded)
    (opens : b'.Opens .recall .pending transferId record)
    (unwinds : Unwinds b' transferId record instruction record' position custody)
    (same : ∃ status completedAt,
      record'' = { record' with status := status, completedAt := completedAt })
    (status : record''.status = .pending ∨ record''.status = .complete)
    (within : record'.settled ≤ record'.requestedRecallAmount.raw)
    (attributed : p.attributedPrincipal = position.attributedPrincipal)
    (deployed : p.deployedPrincipal = position.deployedPrincipal) :
    Sealed b { b'.store transferId record'' with position := p, custody := custody } := by
  obtain ⟨first, found, recalling⟩ := sealed.recalling_before opens.stored ⟨opens.hKind, opens.hStatus⟩
  obtain ⟨_, stored, releases⟩ := sealed.released transferId first found recalling
  cases opens.stored.symm.trans stored
  obtain ⟨requested, grows, leaves, kept, lowers, adapter⟩ := unwinds.flows
  have follows := unwinds.follows
  have changed := sumRecords_store TransferRecord.settled record'' opens.stored
  obtain ⟨newStatus, completedAt, rfl⟩ := same
  have total := releases.total
  have custodyBefore := releases.custody
  have adapterBefore := releases.adapter
  have settledSame : TransferRecord.settled
      { record' with status := newStatus, completedAt := completedAt } = record'.settled := rfl
  refine ⟨sealed.config, sealed.risk, sealed.ledger, ?_, ?_, ?_, ?_, ?_, ?_⟩
  · show p.attributedPrincipal.raw ≤ _
    rw [attributed, kept]
    exact sealed.attributed
  · show p.deployedPrincipal.raw ≤ _
    rw [deployed]
    exact Nat.le_trans lowers sealed.deployed
  · intro otherId account atOther apart
    have keeps := sealed.kept otherId account atOther apart
    have distinct : otherId ≠ transferId := by
      rintro rfl
      cases found.symm.trans atOther
      exact apart recalling
    exact (Function.update_of_ne distinct ..).trans keeps
  · -- There is only one running recall, so this is the one that moved.
    intro otherId account atOther running
    have names := recorded.named transferId first found (.inl recalling.2)
    have names' := recorded.named otherId account atOther (.inl running.2)
    have only : otherId = transferId := by
      rw [← recorded.keyed otherId account atOther, ← names'.transferId, names.transferId,
        recorded.keyed transferId first found]
    subst only
    cases found.symm.trans atOther
    refine ⟨_, Function.update_self .., ⟨?_, status, ?_, ?_, within, ?_, ?_, ?_⟩⟩
    · exact ⟨follows.kind.trans releases.follows.kind,
        follows.transferId.trans releases.follows.transferId,
        follows.messageSequence.trans releases.follows.messageSequence⟩
    · exact requested.trans releases.requested
    · exact Nat.le_trans releases.grows grows
    · show b.custody.raw + first.assetsSent.raw ≤ custody.raw + record'.assetsSent.raw
      omega
    · show p.deployedPrincipal.raw + record'.strategyPrincipalResolved.raw = _
      rw [deployed]
      omega
    · show sumRecords TransferRecord.settled (Function.update b'.records otherId _) +
        first.settled = _
      omega
  · refine forall_store ?_ fun otherId account _ atOther => sealed.fresh otherId account atOther
    intro unused
    rw [found] at unused
    cases unused
  · intro none
    exact absurd recalling (none transferId first found)

/-- The recall an instruction moves tokens for. -/
def Instruction.unwinding : Instruction → Option Bytes32
  | .withdrawForRecall transferId _ _ => some transferId
  | .sendRecallAssets transferId _ => some transferId
  | _ => none

theorem Instruction.unwinding_of_upkeep {instruction : Instruction}
    (upkeep : instruction.isUpkeep = true) : instruction.unwinding = none := by
  cases instruction <;> first | rfl | cases upkeep

theorem Instruction.unwinding_of_reading {instruction : Instruction}
    (reading : instruction.isReading = true) : instruction.unwinding = none := by
  cases instruction <;> first | rfl | cases reading

namespace Change

variable {b b' b'' : Book} {instruction : Instruction}

/-- Without the guardian, one more instruction of a frozen leg releases nothing but what its running
recall is owed. -/
theorem sealed (change : Change false b' instruction b'') (frozen : b'.config.frozen = true)
    (recorded : b.Recorded) (before : Sealed b b') : Sealed b b'' := by
  have refused : ¬b'.Consents false := by
    intro consents
    obtain running | signed := consents
    · rw [frozen] at running
      cases running
    · cases signed
  have running : b'.config.frozen ≠ false := by
    rw [frozen]
    decide
  cases change with
  | quiet => exact before
  | updated message risk version thawed => exact absurd thawed running
  | froze =>
      have same : { b'.config with frozen := true } = b'.config := by rw [← frozen]
      show Sealed b { b' with config := { b'.config with frozen := true } }
      rw [same]
      exact before
  | received amount custody arrived => exact before.same_records arrived rfl rfl
  | reconciled => exact before.same_records (Nat.le_refl _) rfl rfl
  | tookAllocation message transferId record idle unused kind same nothing shape status =>
      obtain ⟨-, thawed, -⟩ | held := status
      · exact absurd thawed running
      · exact before.holds unused kind held shape rfl rfl
  | heldRecall message transferId sequence requested least clock consented =>
      exact absurd consented refused
  | startedRecall message transferId sequence requested least clock reserved attributed recalled
      consented => exact absurd consented refused
  | admittedAllocation message transferId record consented => exact absurd consented refused
  | admittedRecall message transferId record reserved attributed recalled consented =>
      exact absurd consented refused
  | attributed transferId record unattributed principal total consented =>
      exact absurd consented refused
  | completed transferId record unattributed principal clock consented =>
      exact absurd consented refused
  | deployed approved amount call unattributed attributed deployed custody thawed =>
      exact absurd thawed running
  | progressed transferId instruction record record' position custody opens unwinds short =>
      exact before.unwinds recorded opens unwinds ⟨record'.status, record'.completedAt, rfl⟩
        (.inl (unwinds.sameStatus.trans opens.hStatus)) (Nat.le_of_lt short) rfl rfl
  | settled transferId instruction record record' position custody clock opens unwinds whole =>
      exact before.unwinds recorded opens unwinds ⟨.complete, clock, rfl⟩ (.inr rfl)
        (Nat.le_of_eq whole) rfl rfl
  | closedPending message body record unattributed principal total clock ledger hBody action
      consented => exact absurd consented refused
  | closedHeld message body record clock ledger hBody action consented =>
      exact absurd consented refused
  | closedComplete message body record ledger hBody action consented =>
      exact absurd consented refused
  | recovered message body sequence credited unattributed principal clock ledger hBody action
      consented => exact absurd consented refused

/-- An unwinding instruction names the recall that runs. -/
theorem names_recall {guardian : Bool} {transferId : Bytes32}
    (change : Change guardian b instruction b') (names : instruction.unwinding = some transferId) :
    ∃ record, b.records transferId = some record ∧ record.IsRecalling := by
  cases change with
  | quiet instruction upkeep => cases (Instruction.unwinding_of_upkeep upkeep).symm.trans names
  | reconciled instruction reading =>
      cases (Instruction.unwinding_of_reading reading).symm.trans names
  | progressed otherId instruction record record' position custody opens unwinds =>
      cases unwinds <;> cases names <;> exact ⟨record, opens.stored, opens.hKind, opens.hStatus⟩
  | settled otherId instruction record record' position custody clock opens unwinds =>
      cases unwinds <;> cases names <;> exact ⟨record, opens.stored, opens.hKind, opens.hStatus⟩
  | _ => cases names

/-- Without the guardian a frozen leg refuses every close and every recovery. -/
theorem not_settlement (change : Change false b instruction b') (frozen : b.config.frozen = true) :
    ∀ message, instruction ≠ .processSettlement message := by
  have refused : ¬b.Consents false := by
    intro consents
    obtain running | signed := consents
    · rw [frozen] at running
      cases running
    · cases signed
  rintro message rfl
  cases change with
  | quiet instruction upkeep => cases upkeep
  | reconciled instruction reading => cases reading
  | progressed otherId instruction record record' position custody opens unwinds => cases unwinds
  | settled otherId instruction record record' position custody clock opens unwinds =>
      cases unwinds
  | closedPending => exact absurd (by assumption) refused
  | closedHeld => exact absurd (by assumption) refused
  | closedComplete => exact absurd (by assumption) refused
  | recovered => exact absurd (by assumption) refused

end Change

section Reachable

variable {digests : Digests} {before later : List (Context × Instruction)}
  {start middle final : Accounts}

/-- What a whole run without the guardian leaves behind. -/
theorem sealed_run (recorded : start.book.Recorded) (frozen : start.config.frozen = true) :
    ∀ middle, Sealed start.book middle.book → (∀ input ∈ later, input.1.emergencyGuardian = false) →
      Run.run (Accounts.accept digests) middle later = .ok final →
      Sealed start.book final.book ∧ ∀ input ∈ later,
        (∀ message, input.2 ≠ .processSettlement message) ∧
        ∀ transferId, input.2.unwinding = some transferId →
          ∃ record, start.transferRecords transferId = some record ∧ record.IsRecalling := by
  induction later with
  | nil =>
      intro middle sealed _ finished
      cases Run.run_nil.mp finished
      refine ⟨sealed, ?_⟩
      intro input member
      cases member
  | cons input later ih =>
      intro middle sealed unsigned finished
      obtain ⟨next, first, rest⟩ := Run.run_cons.mp finished
      have change := Accounts.step_changes first
      rw [unsigned input (List.mem_cons_self ..)] at change
      have stillFrozen : middle.book.config.frozen = true := by
        rw [sealed.config]
        exact frozen
      obtain ⟨sealed', others⟩ := ih next (change.sealed stillFrozen recorded sealed)
        (fun input member => unsigned input (List.mem_cons_of_mem _ member)) rest
      refine ⟨sealed', ?_⟩
      intro input' member
      obtain rfl | member := List.mem_cons.mp member
      · refine ⟨change.not_settlement stillFrozen, ?_⟩
        intro transferId names
        obtain ⟨record, stored, recalling⟩ := change.names_recall names
        exact sealed.recalling_before stored recalling
      · exact others input' member

/-- A frozen leg releases nothing without the guardian. From any frozen state on, in every run that
the guardian does not sign: principal, limits and ledger stay put, nothing held back starts to run,
nothing is closed or recovered, and tokens leave custody and the adapter only for the recall that
was running, up to what it was still owed. -/
theorem frozen_releases_nothing (reached : Reached digests before start)
    (frozen : start.config.frozen = true)
    (unsigned : ∀ input ∈ later, input.1.emergencyGuardian = false)
    (finished : Run.run (Accounts.accept digests) start later = .ok final) :
    final.position.deployedPrincipal.raw ≤ start.position.deployedPrincipal.raw ∧
    final.position.attributedPrincipal.raw ≤ start.position.attributedPrincipal.raw ∧
    final.risk = start.risk ∧ final.config = start.config ∧
    final.openLedger = start.openLedger ∧
    (∀ input ∈ later, ∀ message, input.2 ≠ .processSettlement message) ∧
    (∀ transferId record, final.transferRecords transferId = some record →
      record.status = .pending → ∃ record', start.transferRecords transferId = some record' ∧
        record'.status = .pending) ∧
    (∀ input ∈ later, ∀ transferId, input.2.unwinding = some transferId →
      ∃ record, start.transferRecords transferId = some record ∧ record.IsRecalling) ∧
    ((∀ transferId record, start.transferRecords transferId = some record → ¬record.IsRecalling) →
      start.custody.raw ≤ final.custody.raw ∧
      final.position.deployedPrincipal = start.position.deployedPrincipal ∧
      sumRecords TransferRecord.settled final.transferRecords =
        sumRecords TransferRecord.settled start.transferRecords) ∧
    ∀ transferId record, start.transferRecords transferId = some record → record.IsRecalling →
      ∃ record', final.transferRecords transferId = some record' ∧
        start.custody.raw ≤
          final.custody.raw + (record'.assetsSent.raw - record.assetsSent.raw) ∧
        start.position.deployedPrincipal.raw = final.position.deployedPrincipal.raw +
          (record'.strategyPrincipalResolved.raw - record.strategyPrincipalResolved.raw) ∧
        sumRecords TransferRecord.settled final.transferRecords ≤
          sumRecords TransferRecord.settled start.transferRecords +
            (record.requestedRecallAmount.raw - record.settled) := by
  have recorded := reached.recorded
  obtain ⟨sealed, inputs⟩ :=
    sealed_run recorded frozen start (.refl reached.recalls) unsigned finished
  refine ⟨sealed.deployed, sealed.attributed, sealed.risk, sealed.config, sealed.ledger,
    fun input member => (inputs input member).1, ?_, fun input member => (inputs input member).2,
    sealed.still, ?_⟩
  · intro transferId record stored pending
    cases found : start.transferRecords transferId with
    | none => cases (sealed.fresh transferId record stored found).2.symm.trans pending
    | some record' =>
        refine ⟨record', rfl, ?_⟩
        by_contra other
        cases (sealed.kept transferId record' found fun recalling => other recalling.2).symm.trans
          stored
        exact other pending
  · intro transferId record stored recalling
    obtain ⟨record', stored', releases⟩ := sealed.released transferId record stored recalling
    have custody := releases.custody
    have adapter := releases.adapter
    have total := releases.total
    have within := releases.within
    have grows := releases.grows
    have lowers := sealed.deployed
    rw [releases.requested] at within
    refine ⟨record', stored', ?_, ?_, ?_⟩
    · change start.custody.raw + _ ≤ final.custody.raw + _ at custody
      omega
    · change final.position.deployedPrincipal.raw + _ = start.position.deployedPrincipal.raw + _
        at adapter
      change final.position.deployedPrincipal.raw ≤ start.position.deployedPrincipal.raw at lowers
      omega
    · change sumRecords _ final.transferRecords + _ = sumRecords _ start.transferRecords + _ at total
      omega

end Reachable

/-- The leg freezes while a recall of five hundred runs. -/
def sampleFreezing : List (Context × Instruction) :=
  [sampleAllocate 1 600, sampleArrival 600, sampleAttribution 1, sampleDeploy 300 300 300,
    sampleRecall 2 500, (sampleContext, .freeze)]

/-- The administrator's relayers keep working: the recall sends part of what is here. -/
def sampleThawless : List (Context × Instruction) := [sampleSend 2 250, sampleArrival 40]

theorem frozen_releases_nothing_recalling : ∃ start final record,
    Reached sampleDigests sampleFreezing start ∧ start.config.frozen = true ∧
    Run.run (Accounts.accept sampleDigests) start sampleThawless = .ok final ∧
    start.transferRecords 2 = some record ∧ record.IsRecalling ∧
    sumRecords TransferRecord.settled final.transferRecords ≤
      sumRecords TransferRecord.settled start.transferRecords +
        (record.requestedRecallAmount.raw - record.settled) := by
  have passes : (sampleLeg sampleFreezing).toOption.any (fun start => start.config.frozen ∧
      (start.transferRecords 2).any (fun record => record.transferKind = .recall ∧
        record.status = .pending) ∧
      (Run.run (Accounts.accept sampleDigests) start sampleThawless).toOption.any
        (fun _ => true)) = true := by
    decide +kernel
  obtain ⟨start, finished, holds⟩ := ok_of_any passes
  have reached := sampleLeg_reached finished
  rw [decide_eq_true_eq] at holds
  obtain ⟨frozen, running, ran⟩ := holds
  simp only [Option.any_eq_true, decide_eq_true_eq] at running
  obtain ⟨record, stored, recalling⟩ := running
  obtain ⟨final, rest, -⟩ := ok_of_any ran
  have unsigned : ∀ input ∈ sampleThawless, input.1.emergencyGuardian = false := by decide
  obtain ⟨-, -, -, -, -, -, -, -, -, released⟩ :=
    frozen_releases_nothing reached frozen unsigned rest
  obtain ⟨record', -, -, -, owed⟩ := released _ record stored recalling
  exact ⟨start, final, record, reached, frozen, rest, stored, recalling, owed⟩

end Leg
