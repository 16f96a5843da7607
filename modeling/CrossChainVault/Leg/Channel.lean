import CrossChainVault.Leg.Custody
import CrossChainVault.Leg.Settings
import CrossChainVault.Leg.Wire

set_option autoImplicit false

/- Whether a configuration that was accepted lets the leg speak and be spoken to. The leg's own
rules for a configuration and the codec's rules for a header do not agree. -/

namespace Leg

open Result Bytes Protocol

/-- Every recall names a transfer and asks for something. -/
def Book.Requested (b : Book) : Prop :=
  ∀ transferId record, b.records transferId = some record → record.transferKind = .recall →
    record.transferId.raw ≠ 0 ∧ record.requestedRecallAmount.raw ≠ 0

/-- Principal and recalled custody together stay below the ceiling. -/
def Book.Committed (b : Book) : Prop :=
  b.position.principal + b.position.recalledCustody.raw ≤ b.maxRemotePrincipal.raw

theorem Book.Fresh.requested {b : Book} (fresh : b.Fresh) : b.Requested := by
  intro transferId record stored
  rw [fresh.records] at stored
  cases stored

theorem Book.Fresh.committed {b : Book} (fresh : b.Fresh) : b.Committed := by
  unfold Book.Committed
  rw [fresh.position]
  exact Nat.zero_le _

section Changes

variable {b b' : Book} {transferId : Bytes32} {record record' : TransferRecord} {p : RemotePosition}
  {custody : U64} {ledger : TransportLedger} {instruction : Instruction} {guardian : Bool}

theorem Book.Requested.store (requested : b.Requested)
    (stored : record.transferKind = .recall →
      record.transferId.raw ≠ 0 ∧ record.requestedRecallAmount.raw ≠ 0) :
    Book.Requested { b.store transferId record with
      position := p, custody := custody, ledger := ledger } :=
  forall_store stored fun otherId other _ found => requested otherId other found

/-- A transfer that is no recall starts or moves on. -/
theorem Book.Requested.aside (requested : b.Requested) (kind : record.transferKind ≠ .recall) :
    Book.Requested { b.store transferId record with
      position := p, custody := custody, ledger := ledger } :=
  requested.store fun isRecall => absurd isRecall kind

theorem Unwinds.requested
    (unwinds : Unwinds b transferId record instruction record' p custody) :
    record'.requestedRecallAmount = record.requestedRecallAmount := by
  cases unwinds with
  | withdrew => rfl
  | sent => rfl

theorem Change.requested (change : Change guardian b instruction b') (before : b.Requested) :
    b'.Requested := by
  cases change with
  | quiet => exact before
  | updated => exact before
  | froze => exact before
  | received => exact before
  | reconciled => exact before
  | deployed => exact before
  | tookAllocation message transferId record idle unused kind =>
      exact before.aside (by rw [kind]; decide)
  | admittedAllocation message transferId record consented opens =>
      exact before.aside (by rw [opens.hKind]; decide)
  | attributed transferId record unattributed principal total consented opens =>
      exact before.aside (by rw [opens.hKind]; decide)
  | completed transferId record unattributed principal clock consented opens =>
      exact before.aside (by rw [opens.hKind]; decide)
  | closedPending message body record unattributed principal total clock ledger hBody action
      consented opens =>
      exact before.aside (by rw [opens.hKind]; decide)
  | closedHeld message body record clock ledger hBody action consented opens =>
      exact before.aside (by rw [opens.hKind]; decide)
  | closedComplete message body record ledger hBody action consented stored kind =>
      exact before.aside (by rw [kind]; decide)
  | recovered => exact before.aside nofun
  | heldRecall message transferId sequence requested least clock consented idle unused nonzero
      named =>
      exact before.store fun _ => ⟨named, nonzero⟩
  | startedRecall message transferId sequence requested least clock reserved attributed recalled
      consented idle unused nonzero reserves named =>
      exact before.store fun _ => ⟨named, nonzero⟩
  | admittedRecall message transferId record reserved attributed recalled consented opens =>
      have old := before _ _ opens.stored opens.hKind
      exact before.store fun _ => old
  | progressed transferId instruction record record' position custody opens unwinds short =>
      have old := before _ _ opens.stored opens.hKind
      rw [← unwinds.follows.transferId, ← unwinds.requested] at old
      exact before.store fun _ => old
  | settled transferId instruction record record' position custody clock opens unwinds whole =>
      have old := before _ _ opens.stored opens.hKind
      rw [← unwinds.follows.transferId, ← unwinds.requested] at old
      exact before.store fun _ => old

/-- A reserve moves principal into recalled custody. -/
theorem Reserves.committed {requested reserved attributed recalled : U64}
    (reserves : Reserves p requested reserved attributed recalled) :
    attributed.raw + p.deployedPrincipal.raw + recalled.raw =
      p.principal + p.recalledCustody.raw := by
  have hAttributed := reserves.hAttributed
  have hRecalled := reserves.hRecalled
  unfold RemotePosition.principal
  omega

/-- A withdrawal brings back no more than it resolves, and a send takes recalled custody away. -/
theorem Unwinds.committed (unwinds : Unwinds b transferId record instruction record' p custody) :
    p.principal + p.recalledCustody.raw ≤
      b.position.principal + b.position.recalledCustody.raw := by
  unfold RemotePosition.principal
  cases unwinds with
  | withdrew maximum call unattributed deployed recalled loss resolved withdrawn recordLoss custody
      reported arrived hDeployed hRecalled hLoss returned lost split within identity =>
      show b.position.attributedPrincipal.raw + deployed.raw + recalled.raw ≤ _
      omega
  | sent maximum unattributed recalled sent custody hRecalled grows left identity =>
      show b.position.attributedPrincipal.raw + b.position.deployedPrincipal.raw + recalled.raw ≤ _
      omega

theorem Change.committed (change : Change guardian b instruction b') (recalls : b.Recalls)
    (after : b'.Capped) (before : b.Committed) : b'.Committed := by
  -- Principal only grows while nothing is recalled, and then the ceiling itself bounds it.
  have bounded : b'.position.principal ≤ b'.maxRemotePrincipal.raw :=
    Nat.le_trans (Nat.le_add_right _ _) after
  have grown : b.position.activeTransferKind ≠ .recall →
      b'.position.recalledCustody = b.position.recalledCustody → b'.Committed := by
    intro apart same
    have none := recalls.idle fun recalling => apart recalling.1
    unfold Book.Committed
    rw [same, none]
    exact bounded
  cases change with
  | quiet => exact before
  | updated => exact before
  | froze => exact before
  | received => exact before
  | reconciled => exact before
  | tookAllocation => exact before
  | heldRecall => exact before
  | admittedAllocation => exact before
  | closedHeld => exact before
  | closedComplete => exact before
  | startedRecall message transferId sequence requested least clock reserved attributed recalled
      consented idle unused nonzero reserves =>
      exact Nat.le_trans (Nat.le_of_eq reserves.committed) before
  | admittedRecall message transferId record reserved attributed recalled consented opens reserves =>
      exact Nat.le_trans (Nat.le_of_eq reserves.committed) before
  | attributed transferId record unattributed principal total consented opens =>
      exact grown (by rw [opens.isOpen]; decide) rfl
  | completed transferId record unattributed principal clock consented opens =>
      exact grown (by rw [opens.isOpen]; decide) rfl
  | closedPending message body record unattributed principal total clock ledger hBody action
      consented opens =>
      exact grown (by rw [opens.isOpen]; decide) rfl
  | recovered message body sequence credited unattributed principal clock ledger hBody action
      consented idle =>
      exact grown (by rw [idle]; decide) rfl
  | deployed approved amount call unattributed attributed deployed custody running hAttributed
      hDeployed =>
      have total : b.position.attributedPrincipal.raw + b.position.deployedPrincipal.raw +
        b.position.recalledCustody.raw ≤ b.maxRemotePrincipal.raw := before
      show attributed.raw + deployed.raw + b.position.recalledCustody.raw ≤
        b.maxRemotePrincipal.raw
      omega
  | progressed transferId instruction record record' position custody opens unwinds =>
      exact Nat.le_trans unwinds.committed before
  | settled transferId instruction record record' position custody clock opens unwinds =>
      exact Nat.le_trans unwinds.committed before

end Changes

section Runs

variable {digests : Digests} {inputs : List (Context × Instruction)} {a : Accounts}

theorem Reached.requested (reached : Reached digests inputs a) : a.book.Requested :=
  reached.invariant Book.Requested (fun _ fresh => fresh.requested)
    (fun _ _ _ _ change before => change.requested before)

theorem Reached.committed (reached : Reached digests inputs a) : a.book.Committed :=
  (reached.invariant (fun b => b.Recorded ∧ b.Recalls ∧ b.Capped ∧ b.Committed)
    (fun _ fresh => ⟨fresh.recorded, fresh.recalls, fresh.capped, fresh.committed⟩)
    (fun _ _ _ _ change ⟨recorded, recalls, capped, committed⟩ =>
      ⟨change.recorded recorded, change.recalls recorded recalls, change.capped recorded capped,
        change.committed recalls (change.capped recorded capped) committed⟩)).2.2.2

end Runs

/- The messages a leg builds. -/

namespace Accounts

variable (keccak256 : Bytes → Bytes32)

/-- The report of one epoch, with the principal the leg holds less what is in flight. -/
def remoteReport (a : Accounts) (now epochId inFlight : U64) (commitment : Bytes32) :
    Except RemoteLegError Bytes := do
  let a ← a.reconcileCustody
  let principal ← remotePrincipal a.position
  a.buildBytes keccak256 now
    (.remoteReport (a.reportBody epochId (principal.saturatingSub inFlight) commitment))

/-- The notice of one recall. -/
def recallSent (a : Accounts) (now : U64) (record : TransferRecord) :
    Except RemoteLegError Bytes := do
  let sentTimestamp ← checkEligible record now
  a.buildBytes keccak256 now (.recallSent (a.recallSentBody record sentTimestamp))

/-- The notice of one close or recovery, built once the ledger holds it. -/
def transportSettlement (a : Accounts) (now : U64) (transferId : Bytes32)
    (settlement : Settlement) : Except RemoteLegError Bytes :=
  let a := { a with ledger := some settlement.ledger }
  a.buildBytes keccak256 now (.transportSettlement (a.settlementBody transferId settlement))

end Accounts

/-- Neither failure that a configuration can cause. -/
def Clear (result : Except RemoteLegError Bytes) : Prop :=
  result ≠ .error .arithmeticOverflow ∧ result ≠ .error .invalidOutboundMessage

/-- The leg can build each message it owes, and the next control message can reach it. -/
structure Communicates (keccak256 : Bytes → Bytes32) (a : Accounts) (now : U64) : Prop where
  reports : ∀ epochId inFlight commitment, epochId.raw ≠ 0 → commitment.raw ≠ 0 →
    Clear (a.remoteReport keccak256 now epochId inFlight commitment)
  notices : ∀ transferId record, a.transferRecords transferId = some record →
    record.transferKind = .recall → record.status = .complete →
    Clear (a.recallSent keccak256 now record)
  settlements : ∀ body sequence clock settled settlement,
    a.settle body sequence clock = .ok (settled, settlement) → body.transferId.raw ≠ 0 →
    Clear (settled.transportSettlement keccak256 now body.transferId settlement)
  hears : a.control.highestConsumedSequence.raw + 1 < 2 ^ 64 →
    ∃ bytes messageClass message,
      validateInboundBytes keccak256 bytes messageClass a.config a.control now = .ok message ∧
      message.header.sequence.raw = a.control.highestConsumedSequence.raw + 1

section Configuration

variable {keccak256 : Bytes → Bytes32} {setup : Setup} {a a' : Accounts} {now : U64} {body : Body}

theorem Clear.of_ok {result : Except RemoteLegError Bytes} {bytes : Bytes}
    (success : result = .ok bytes) : Clear result := by
  rw [success]
  exact ⟨nofun, nofun⟩

theorem Clear.bind {α : Type} {x : Except RemoteLegError α} {f : α → Except RemoteLegError Bytes}
    {value : α} (success : x = .ok value) : Clear (x >>= f) ↔ Clear (f value) := by
  rw [success]
  exact Iff.rfl

/-- Of the codec's header rules an accepted configuration can only break one. -/
theorem nextHeader_iff {expiresAt : U64} (keeps : a.Keeps setup) (valid : setup.validate = .ok ())
    (numbered : a.outbound.nextSequence.raw ≠ 0) (later : now.raw ≤ expiresAt.raw) :
    (a.nextHeader now expiresAt).validate = .ok () ↔
      setup.sourceApplicationId ≠ setup.localApplicationId := by
  simp only [Setup.validate, bind_eq_ok, rejectIf_eq_ok, Unsigned.isZero_iff,
    exists_const] at valid
  obtain ⟨source, destination, chains, sender, receiver, deployment, vault, -, report, -⟩ := valid
  rw [Accounts.validateHeader_ok, Accounts.nextHeader, keeps.config]
  constructor
  · rintro ⟨-, -, -, -, -, applications, -⟩
    exact Ne.symm applications
  · intro applications
    exact ⟨destination, source, Ne.symm chains, receiver, sender, Ne.symm applications, deployment,
      vault, report, numbered, Nat.le_refl _, later⟩

/-- When the leg can build a message whose body is valid, in the middle of an instruction that has
not touched what a header is made of. -/
theorem buildBytes_clear (keeps : a.Keeps setup) (valid : setup.validate = .ok ())
    (numbered : a.outbound.nextSequence.raw ≠ 0) (config : a'.config = a.config)
    (risk : a'.risk = a.risk) (outbound : a'.outbound = a.outbound)
    (checked : body.validate ⟨now, now⟩ a.outbound.nextSequence = .ok ()) :
    Clear (a'.buildBytes keccak256 now body) ↔
      setup.sourceApplicationId ≠ setup.localApplicationId ∧
        now.raw + a.risk.maxReportAge.raw < 2 ^ 64 := by
  have same : a'.buildBytes keccak256 now body = a.buildBytes keccak256 now body := by
    simp only [Accounts.buildBytes, Accounts.outboundHeader, config, risk, outbound]
  have built : Clear (a.buildBytes keccak256 now body) ↔
      ∃ message, a.build now body = .ok message := by
    constructor
    · intro clear
      cases result : a.buildBytes keccak256 now body with
      | error failure =>
          rw [result] at clear
          obtain rfl | rfl := buildBytes_error result
          · exact absurd rfl clear.1
          · exact absurd rfl clear.2
      | ok bytes =>
          obtain ⟨message, success, -⟩ := buildBytes_ok.mp result
          exact ⟨message, success⟩
    · rintro ⟨message, success⟩
      exact .of_ok (buildBytes_ok.mpr ⟨message, success, rfl⟩)
  simp only [same, built, Accounts.build_ok, validate_iff_valid, WireMessage.valid_onWire]
  constructor
  · rintro ⟨_, expiresAt, hExpires, rfl, header, -⟩
    have later : now.raw ≤ expiresAt.raw := by omega
    have small := expiresAt.bound
    exact ⟨(nextHeader_iff keeps valid numbered later).mp header, by omega⟩
  · rintro ⟨applications, fits⟩
    have later : now.raw ≤ now.raw + a.risk.maxReportAge.raw := Nat.le_add_right _ _
    exact ⟨_, ⟨_, fits⟩, rfl, rfl, (nextHeader_iff keeps valid numbered later).mpr applications,
      checked⟩

/-- A completed recall is never too large to be weighed. -/
theorem checkEligible_error {record : TransferRecord} {failure : RemoteLegError}
    (whole : record.assetsSent.raw + record.realizedLoss.raw = record.requestedRecallAmount.raw)
    (refused : Accounts.checkEligible record now = .error failure) :
    failure ≠ .arithmeticOverflow ∧ failure ≠ .invalidOutboundMessage := by
  have total : checkedAdd record.assetsSent record.realizedLoss =
      .ok record.requestedRecallAmount := checkedAdd_ok.mpr whole.symm
  have narrowed (reason : RemoteLegError) :
      record.completedAt.toU64 .invalidPublicationTimestamp = .error reason →
        .invalidPublicationTimestamp = reason := by
    intro early
    unfold UnixTimestamp.toU64 at early
    split at early
    · cases early
    · exact Except.error.inj early
  simp only [Accounts.checkEligible, total, bind_eq_error, rejectIf_eq_error] at refused
  obtain ⟨-, rfl⟩ | ⟨_, -, ⟨-, rfl⟩ | ⟨_, -, impossible | ⟨_, -, ⟨-, rfl⟩ | ⟨_, -, ⟨-, rfl⟩ |
    ⟨_, -, early | ⟨_, -, ⟨-, rfl⟩ | ⟨_, -, impossible⟩⟩⟩⟩⟩⟩⟩ := refused
  · decide
  · decide
  · cases impossible
  · decide
  · decide
  · rw [← narrowed _ early]
    decide
  · decide
  · cases impossible

theorem checkEligible_sent {record : TransferRecord} {sentTimestamp : U64}
    (eligible : Accounts.checkEligible record now = .ok sentTimestamp) :
    sentTimestamp.raw ≤ now.raw := by
  simp only [Accounts.checkEligible, bind_eq_ok, rejectIf_eq_ok, Unsigned.lt_def, Nat.not_lt,
    pure_eq_ok, exists_const] at eligible
  obtain ⟨-, -, _, -, -, -, _, -, past, rfl⟩ := eligible
  exact past

end Configuration

section Bodies

variable {digests : Digests} {setup : Setup} {inputs : List (Context × Instruction)}
  {a : Accounts} {now : U64}

theorem reportBody_valid {epochId principal : U64} {commitment : Bytes32}
    (version : a.config.configVersion.raw ≠ 0) (epoch : epochId.raw ≠ 0)
    (committed : commitment.raw ≠ 0) :
    (a.reportBody epochId principal commitment).validate now = .ok () := by
  simp only [RemoteReportBody.validate, Accounts.reportBody, noProbeStatus, bind_eq_ok,
    rejectIf_eq_ok, Unsigned.isZero_iff, Unsigned.lt_def, Nat.not_lt, exists_const]
  refine ⟨epoch, version, committed, Nat.zero_le _, ?_⟩
  rintro ⟨probed, -⟩
  cases probed

/-- What a completed recall sent and lost is what was asked for, so its notice is valid. -/
theorem recallSentBody_valid {transferId : Bytes32} {record : TransferRecord} {sentTimestamp : U64}
    (reached : Reached digests inputs a) (version : a.config.configVersion.raw ≠ 0)
    (escrow : a.config.outboundEscrow.raw ≠ 0) (stored : a.transferRecords transferId = some record)
    (kind : record.transferKind = .recall)
    (whole : record.assetsSent.raw + record.realizedLoss.raw = record.requestedRecallAmount.raw)
    (past : sentTimestamp.raw ≤ now.raw) :
    (a.recallSentBody record sentTimestamp).validate now = .ok () := by
  obtain ⟨named, nonzero⟩ := reached.requested transferId record stored kind
  simp only [RecallSentBody.validate, Accounts.recallSentBody, bind_eq_ok, rejectIf_eq_ok,
    Unsigned.isZero_iff, Unsigned.lt_def, Nat.not_lt, widen_raw, exists_const]
  exact ⟨named, nonzero, by omega, escrow, past, version⟩

theorem remotePrincipal_succeeds (reached : Reached digests inputs a) (unattributed : U64) :
    Succeeds (Accounts.remotePrincipal { a.position with unattributedCustody := unattributed }) := by
  have committed : a.position.attributedPrincipal.raw + a.position.deployedPrincipal.raw +
      a.position.recalledCustody.raw ≤ a.maxRemotePrincipal.raw := reached.committed
  have bound := a.maxRemotePrincipal.bound
  simp only [Accounts.remotePrincipal, Succeeds, bind_eq_ok, checkedAdd_ok]
  exact ⟨⟨_, Nat.lt_of_le_of_lt committed bound⟩,
    ⟨a.position.attributedPrincipal.raw + a.position.deployedPrincipal.raw, by omega⟩, rfl, rfl⟩

/-- A control message that is next in line for a leg with this configuration. -/
def nextControl (a : Accounts) (room : a.control.highestConsumedSequence.raw + 1 < 2 ^ 64) :
    Message where
  header := {
    sourceChain := a.config.sourceChainId
    destinationChain := a.config.destinationChainId
    sourceApplication := a.config.sourceApplicationId
    destinationApplication := a.config.localApplicationId
    deploymentId := a.config.deploymentId
    vaultId := a.config.vaultId
    laneId := a.control.laneId
    sequence := ⟨a.control.highestConsumedSequence.raw + 1, room⟩
    previousCommitment := a.control.messageCommitment
    observedAt := .zero
    publishedAt := .zero
    expiresAt := .zero }
  body := .allocate {
    transferId := 1
    amount := 1
    expectedSourceBalance := .zero
    minimumDestinationAmount := 1
    deadline := .zero
    configVersion := 1 }

theorem nextControl_next (reached : ReachedFrom digests setup inputs a)
    (room : a.control.highestConsumedSequence.raw + 1 < 2 ^ 64)
    (applications : setup.sourceApplicationId ≠ setup.localApplicationId) :
    Next (nextControl a room) .allocate a.config a.control now := by
  have keeps := reached.keeps
  have valid := reached.valid
  simp only [Setup.validate, bind_eq_ok, rejectIf_eq_ok, Unsigned.isZero_iff,
    exists_const] at valid
  obtain ⟨source, destination, chains, sender, receiver, deployment, vault, control, -⟩ := valid
  have header : (nextControl a room).header.validate = .ok () := by
    rw [Accounts.validateHeader_ok, nextControl, keeps.config, keeps.controlLane]
    exact ⟨source, destination, chains, sender, receiver, applications, deployment, vault, control,
      Nat.succ_ne_zero _, Nat.le_refl _, Nat.le_refl _⟩
  have addressed : checkDomains (nextControl a room).header a.config a.control = .ok () := by
    simp only [checkDomains, bind_eq_ok, rejectIf_eq_ok, not_not, exists_const]
    exact ⟨rfl, rfl, rfl, rfl, rfl, rfl, rfl⟩
  refine ⟨bind_eq_ok.mpr ⟨(), header, rfl⟩, rfl, addressed, Nat.zero_le _, ?_, rfl, rfl⟩
  exact reached.reached.ready.watermark

/-- A header that names one application twice breaks the codec's rules, and the leg takes no
other. -/
theorem validateInboundBytes_twin {keccak256 : Bytes → Bytes32} {bytes : Bytes}
    {messageClass : MessageClass} {message : Message}
    (same : a.config.sourceApplicationId = a.config.localApplicationId) :
    validateInboundBytes keccak256 bytes messageClass a.config a.control now ≠ .ok message := by
  intro accepted
  have next := next_of_validateInboundBytes accepted
  obtain ⟨_, header, -⟩ := bind_eq_ok.mp next.valid
  obtain ⟨-, -, -, -, -, applications, -⟩ := Accounts.validateHeader_ok.mp header
  have addressed := next.addressed
  simp only [checkDomains, bind_eq_ok, rejectIf_eq_ok, not_not, exists_const] at addressed
  obtain ⟨-, -, sender, receiver, -⟩ := addressed
  rw [sender, receiver] at applications
  exact applications same

end Bodies

/-- An accepted configuration can communicate in a state it reaches, at a given clock, exactly when
its two applications differ and the age it allows a report fits above the clock. The escrow is a
token account, and no token account has the zero address. -/
theorem communicates_iff {digests : Digests} {setup : Setup} {inputs : List (Context × Instruction)}
    {a : Accounts} (keccak256 : Bytes → Bytes32) (now : U64)
    (reached : ReachedFrom digests setup inputs a) (escrow : setup.outboundEscrow.raw ≠ 0) :
    Communicates keccak256 a now ↔
      setup.sourceApplicationId ≠ setup.localApplicationId ∧
        now.raw + a.risk.maxReportAge.raw < 2 ^ 64 := by
  have keeps := reached.keeps
  have valid := reached.valid
  have numbered := reached.reached.ready.numbered
  have reports (epochId inFlight : U64) (commitment : Bytes32) (epoch : epochId.raw ≠ 0)
      (committed : commitment.raw ≠ 0) :
      Clear (a.remoteReport keccak256 now epochId inFlight commitment) ↔
        setup.sourceApplicationId ≠ setup.localApplicationId ∧
          now.raw + a.risk.maxReportAge.raw < 2 ^ 64 := by
    obtain ⟨p, reconciles, -⟩ := reconcile_succeeds reached.reached.covered
    obtain ⟨unattributed, enough, identity, rfl⟩ := reconcile_ok.mp reconciles
    have reconciled := Accounts.reconcileCustody_ok.mpr ⟨unattributed, enough, identity, rfl⟩
    obtain ⟨principal, held⟩ := remotePrincipal_succeeds reached.reached unattributed
    rw [Accounts.remoteReport, Clear.bind reconciled, Clear.bind held]
    exact buildBytes_clear keeps valid numbered rfl rfl rfl
      (reportBody_valid keeps.version epoch committed)
  constructor
  · intro communicates
    exact (reports 1 .zero 1 Nat.one_ne_zero Nat.one_ne_zero).mp
      (communicates.reports _ _ _ Nat.one_ne_zero Nat.one_ne_zero)
  · intro condition
    refine ⟨?_, ?_, ?_, ?_⟩
    · intro epochId inFlight commitment epoch committed
      exact (reports epochId inFlight commitment epoch committed).mpr condition
    · intro transferId record stored kind complete
      have whole := ((reached.reached.recalls.unwound transferId record stored kind
        (by rw [complete]; decide)).complete).mp complete
      cases eligible : Accounts.checkEligible record now with
      | error failure =>
          obtain ⟨overflow, invalid⟩ := checkEligible_error whole eligible
          rw [Accounts.recallSent, eligible]
          exact ⟨fun same => overflow (Except.error.inj same),
            fun same => invalid (Except.error.inj same)⟩
      | ok sentTimestamp =>
          rw [Accounts.recallSent, Clear.bind eligible]
          refine (buildBytes_clear keeps valid numbered rfl rfl rfl ?_).mpr condition
          have named : a.config.outboundEscrow.raw ≠ 0 := by
            rw [keeps.config]
            exact escrow
          exact recallSentBody_valid reached.reached keeps.version named stored kind whole
            (checkEligible_sent eligible)
    · intro body sequence clock settled settlement success transfer
      have settles := Accounts.settle_ok success
      obtain ⟨config, risk, -, outbound, -⟩ := settles.config
      refine (buildBytes_clear keeps valid numbered config risk outbound ?_).mpr condition
      exact settles.valid reached.reached.shaped transfer keeps.version
    · intro room
      exact ⟨_, .allocate, nextControl a room,
        validateInboundBytes_canonical (nextControl_next reached room condition.1), rfl⟩

theorem communicates_iff_invested : ∃ a, ReachedFrom sampleDigests sampleSetup sampleInvested a ∧
    sampleSetup.outboundEscrow.raw ≠ 0 ∧ Communicates sampleDigest a 700 := by
  have passes : (sampleLeg sampleInvested).toOption.any
      (fun a => 700 + a.risk.maxReportAge.raw < 2 ^ 64) = true := by decide +kernel
  obtain ⟨a, finished, fits⟩ := ok_of_any passes
  obtain ⟨start, created, rest⟩ := bind_eq_ok.mp finished
  have reached : ReachedFrom sampleDigests sampleSetup sampleInvested a := ⟨start, created, rest⟩
  have escrow : sampleSetup.outboundEscrow.raw ≠ 0 := by decide
  exact ⟨a, reached, escrow,
    (communicates_iff sampleDigest 700 reached escrow).mpr
      ⟨by decide, of_decide_eq_true fits⟩⟩

/-- One application name on both chains. -/
def sampleTwin : Setup := { sampleSetup with localApplicationId := sampleSetup.sourceApplicationId }

/-- Reports that never grow old. -/
def sampleAgeless : Setup := { sampleSetup with maxReportAge := .max }

/-- With one name for both applications no bytes pass, and nothing can be said back. -/
theorem configuration_silent : ∃ twin ageless, ReachedFrom sampleDigests sampleTwin [] twin ∧
    twin.remoteReport sampleDigest 1 1 .zero 1 =
      .error .invalidOutboundMessage ∧
    (∀ bytes messageClass message, validateInboundBytes sampleDigest bytes messageClass twin.config
      twin.control 1 ≠ .ok message) ∧
    ReachedFrom sampleDigests sampleAgeless [] ageless ∧
    ageless.remoteReport sampleDigest 1 1 .zero 1 =
      .error .arithmeticOverflow := by
  have first : sampleTwin.create.toOption.any (fun a => failsWith (a.remoteReport sampleDigest
      1 1 .zero 1) .invalidOutboundMessage &&
      decide (a.config.sourceApplicationId = a.config.localApplicationId)) = true := by
    decide +kernel
  have second : sampleAgeless.create.toOption.any (fun a => failsWith (a.remoteReport sampleDigest
      1 1 .zero 1) .arithmeticOverflow) = true := by
    decide +kernel
  obtain ⟨twin, created, tests⟩ := ok_of_any first
  obtain ⟨ageless, createdToo, overflows⟩ := ok_of_any second
  obtain ⟨refused, same⟩ := Bool.and_eq_true_iff.mp tests
  exact ⟨twin, ageless, ⟨twin, created, rfl⟩, failsWith_iff.mp refused,
    fun _ _ _ => validateInboundBytes_twin (of_decide_eq_true same), ⟨ageless, createdToo, rfl⟩,
    failsWith_iff.mp overflows⟩

end Leg
