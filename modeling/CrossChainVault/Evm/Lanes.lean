import CrossChainVault.Evm.Steps

set_option autoImplicit false

/- What each accepted coordinator call does to the two lanes, the open cycle and the vault. -/

namespace Evm

open Result Protocol

variable {hashing : Hashing} {c c' : Coordinator} {w w' : World} {msg : Msg} {u : Unit}
  {header : Header} {message : Message}

namespace Coordinator

theorem publishOutbound_ok : c.publishOutbound hashing message = .ok c' ↔
    ∃ next, next.raw = c.outboundNextSequence.raw + 1 ∧
      c' = { c with
        outboundLatestCommitment := hashing.extend c.outboundLatestCommitment message
        outboundNextSequence := next
        published := c.published ++ [message] } := by
  simp only [publishOutbound, bind_eq_ok, add_ok, pure_eq_ok, eq_comm (a := c'),
    Unsigned.ofNat_raw, Nat.reducePow, Nat.reduceMod]

theorem consumeOutbound_ok {transferId : Bytes32} {kind : CycleKind} {amount : Uint128}
    {deadline : Uint64} :
    c.consumeOutbound hashing transferId kind amount deadline message = .ok c' ↔
    ∃ next, next.raw = c.outboundNextSequence.raw + 1 ∧
      c' = { c with
        outboundLatestCommitment := hashing.extend c.outboundLatestCommitment message
        outboundNextSequence := next
        published := c.published ++ [message]
        usedTransferIds := Function.update c.usedTransferIds transferId true
        activeCycleKind := kind
        activeTransferId := transferId
        activeAmount := amount
        activeDeadline := deadline
        activeSequence := c.outboundNextSequence } := by
  simp only [consumeOutbound, publishOutbound_ok, bind_eq_ok, pure_eq_ok]
  constructor
  · rintro ⟨_, ⟨next, hNext, rfl⟩, rfl⟩
    exact ⟨next, hNext, rfl⟩
  · rintro ⟨next, hNext, rfl⟩
    exact ⟨_, ⟨next, hNext, rfl⟩, rfl⟩

@[simp] theorem requireNoActiveCycle_ok :
    c.requireNoActiveCycle = .ok u ↔ c.activeCycleKind = .none := by
  simp [requireNoActiveCycle]

@[simp] theorem requireFreshTransfer_ok {transferId : Bytes32} :
    c.requireFreshTransfer transferId = .ok u ↔
      transferId.raw ≠ 0 ∧ c.usedTransferIds transferId = false := by
  simp [requireFreshTransfer]

/-- The header of the next message on the inbound lane. -/
def Expects (c : Coordinator) (header : Header) : Prop :=
  c.requireInboundEnvelope header = .ok ()

theorem expects_iff {header : Header} : c.Expects header ↔
    (header.sourceChain = c.identities.solanaChainId ∧
      header.sourceApplication = c.identities.solanaApplication) ∧
    (header.destinationChain = c.identities.evmChainId ∧
      header.destinationApplication = c.identities.evmApplication) ∧
    header.deploymentId = c.identities.deploymentId ∧ header.vaultId = c.identities.vaultId ∧
    header.laneId = c.identities.inboundLaneId ∧ header.sequence = c.inboundExpectedSequence ∧
    header.previousCommitment = c.inboundLatestCommitment := by
  simp only [Expects, requireInboundEnvelope, bind_eq_ok, rejectIf_eq_ok, exists_const, not_or,
    not_not]
  constructor
  · rintro ⟨source, destination, deployment, vault, lane, -, sequence, commitment⟩
    exact ⟨source, destination, deployment, vault, lane, sequence, commitment⟩
  · rintro ⟨source, destination, deployment, vault, lane, sequence, commitment⟩
    refine ⟨source, destination, deployment, vault, lane, ?_, sequence, commitment⟩
    rw [sequence]
    exact Nat.lt_irrefl _

theorem advanceInbound_ok : c.advanceInbound hashing message = .ok c' ↔
    ∃ next, next.raw = c.inboundExpectedSequence.raw + 1 ∧
      c' = { c with
        inboundLatestCommitment := hashing.extend c.inboundLatestCommitment message
        inboundExpectedSequence := next } := by
  simp only [advanceInbound, bind_eq_ok, add_ok, pure_eq_ok, eq_comm (a := c'),
    Unsigned.ofNat_raw, Nat.reducePow, Nat.reduceMod]

end Coordinator

namespace World

section Results

variable {v : Vault} {moved : Except Revert (Vault × Asset)} {changed : Except Revert Vault}
  {called : Except Revert Asset} {ledger : Except Revert Shares}

theorem withVault_ok : w.withVault changed = .ok w' ↔
    ∃ vault, changed = .ok vault ∧ w' = { w with vault := vault } := by
  simp only [withVault, bind_eq_ok, pure_eq_ok, eq_comm (a := w')]

theorem withMoved_ok : w.withMoved moved = .ok w' ↔
    ∃ vault asset, moved = .ok (vault, asset) ∧ w' = { w with vault := vault, asset := asset } := by
  simp only [withMoved, bind_eq_ok, pure_eq_ok, Prod.exists, eq_comm (a := w')]

theorem withAsset_ok : w.withAsset called = .ok w' ↔
    ∃ asset, called = .ok asset ∧ w' = { w with asset := asset } := by
  simp only [withAsset, bind_eq_ok, pure_eq_ok, eq_comm (a := w')]

theorem withShares_ok : w.withShares ledger = .ok w' ↔
    ∃ shares, ledger = .ok shares ∧ w' = { w with vault := { w.vault with shares := shares } } := by
  simp only [withShares, bind_eq_ok, pure_eq_ok, eq_comm (a := w')]

end Results

section Outbound

variable {transferId : Bytes32} {amount minimum : Uint128} {deadline : Uint64} {stamps : Stamps}

@[simp] theorem toU128_ok {value : Uint256} {narrow : Uint128} :
    toU128 value = .ok narrow ↔ narrow.raw = value.raw := by
  unfold toU128
  split
  · rw [Except.ok.injEq, ← Unsigned.raw_inj, eq_comm]
  · have := narrow.bound
    simp only [reduceCtorEq, false_iff]
    omega

@[simp] theorem requireCanAllocate_ok : w.requireCanAllocate = .ok u ↔
    w.vault.vaultStatus = .active ∧ (w.vault.epochOpen = true ∧ w.vault.currentEpochPhase = .opened) ∧
      w.coordinator.activeCycleKind = .none := by
  simp [requireCanAllocate]

theorem allocate_ok
    (success : w.allocate hashing msg transferId amount minimum deadline stamps = .ok w') :
    ∃ body moved, msg.sender = w.vault.admin ∧ w.vault.vaultStatus = .active ∧
      w.vault.epochOpen = true ∧ w.vault.currentEpochPhase = .opened ∧
      w.coordinator.activeCycleKind = .none ∧
      transferId.raw ≠ 0 ∧ w.coordinator.usedTransferIds transferId = false ∧
      body.transferId = transferId ∧ body.amount = amount ∧
      body.minimumDestinationAmount = minimum ∧ body.deadline = deadline ∧
      body.configVersion = w.configVersion ∧
      ProtocolCodec.validateHeader (w.coordinator.outboundHeader stamps) = .ok () ∧
      ProtocolCodec.validateAllocate body stamps.publishedAt = .ok () ∧
      w.vault.beginOutbound w.asset w.coordinator.self (toUint256 amount)
        w.coordinator.outboundSink = .ok moved ∧
      w.coordinator.consumeOutbound hashing transferId .allocate amount deadline
        ⟨w.coordinator.outboundHeader stamps, .allocate body⟩ = .ok w'.coordinator ∧
      w'.vault = moved.1 ∧ w'.asset = moved.2 := by
  simp only [allocate, bind_eq_ok, Vault.requireAdmin_ok, requireCanAllocate_ok,
    Coordinator.requireFreshTransfer_ok, rejectIf_eq_ok, toU128_ok, pure_eq_ok, exists_const]
    at success
  obtain ⟨admin, ⟨active, ⟨isOpen, opened⟩, idle⟩, ⟨named, fresh⟩, -, balance, -, ⟨⟩, validHeader,
    ⟨⟩, validBody, moved, hMoved, coordinator, hCoordinator, rfl⟩ := success
  exact ⟨_, moved, admin, active, isOpen, opened, idle, named, fresh, rfl, rfl, rfl, rfl, rfl,
    validHeader, validBody, hMoved, hCoordinator, rfl, rfl⟩

theorem recall_ok
    (success : w.recall hashing msg transferId amount minimum deadline stamps = .ok w') :
    ∃ body baseline, msg.sender = w.vault.admin ∧ w.coordinator.activeCycleKind = .none ∧
      transferId.raw ≠ 0 ∧ w.coordinator.usedTransferIds transferId = false ∧
      amount.raw ≠ 0 ∧ amount.raw ≤ w.vault.remotePrincipalCap.raw ∧
      body.transferId = transferId ∧ body.requestedAmount = amount ∧
      body.minimumReturnAmount = minimum ∧ body.deadline = deadline ∧
      body.configVersion = w.configVersion ∧
      ProtocolCodec.validateHeader (w.coordinator.outboundHeader stamps) = .ok () ∧
      ProtocolCodec.validateRecall body stamps.publishedAt = .ok () ∧
      baseline.raw = w.vault.acceptedRemoteValue.raw ∧
      w.vault.beginRecall w.coordinator.self transferId (toUint256 amount) = .ok w'.vault ∧
      { w.coordinator with
        recallBaselineValue := baseline
        recallBaselineLoss := w.coordinator.lastInboundCumulativeLoss }.consumeOutbound hashing
          transferId .recall amount deadline
          ⟨w.coordinator.outboundHeader stamps, .recall body⟩ = .ok w'.coordinator ∧
      w'.asset = w.asset := by
  simp only [World.recall, bind_eq_ok, Vault.requireAdmin_ok, Coordinator.requireNoActiveCycle_ok,
    Coordinator.requireFreshTransfer_ok, rejectIf_eq_ok, toU128_ok, pure_eq_ok, exists_const,
    Unsigned.isZero_iff, Unsigned.lt_def, Nat.not_lt, toUint256_raw] at success
  obtain ⟨admin, idle, ⟨named, fresh⟩, nonzero, covered, ⟨⟩, validHeader, ⟨⟩, validBody, baseline,
    hBaseline, vault, hVault, coordinator, hCoordinator, rfl⟩ := success
  exact ⟨_, baseline, admin, idle, named, fresh, nonzero, covered, rfl, rfl, rfl, rfl, rfl,
    validHeader, validBody, hBaseline, hVault, hCoordinator, rfl⟩

theorem resolution_ok {target : Uint64} {action : ResolveAction}
    (success : w.resolution transferId target action stamps = .ok message) :
    message = ⟨w.coordinator.outboundHeader stamps,
      .resolve ⟨transferId, target, action, w.configVersion⟩⟩ ∧
      ProtocolCodec.validateHeader (w.coordinator.outboundHeader stamps) = .ok () ∧
      ProtocolCodec.validateResolve ⟨transferId, target, action, w.configVersion⟩
        w.coordinator.outboundNextSequence = .ok () := by
  simp only [resolution, bind_eq_ok, pure_eq_ok] at success
  obtain ⟨⟨⟩, validHeader, ⟨⟩, validBody, rfl⟩ := success
  exact ⟨rfl, validHeader, validBody⟩

theorem admit_ok (success : w.admitTransfer hashing msg transferId stamps = .ok w') :
    ∃ message, msg.sender = w.vault.admin ∧
      (w.coordinator.activeCycleKind = .allocate ∨ w.coordinator.activeCycleKind = .recall) ∧
      transferId = w.coordinator.activeTransferId ∧ w.coordinator.closeRequested = false ∧
      w.resolution transferId w.coordinator.activeSequence .admitTransfer stamps = .ok message ∧
      w.coordinator.publishOutbound hashing message = .ok w'.coordinator ∧
      w'.vault = w.vault ∧ w'.asset = w.asset := by
  simp only [admitTransfer, bind_eq_ok, Vault.requireAdmin_ok, rejectIf_eq_ok, pure_eq_ok, exists_const,
    Bool.not_eq_true, not_not, not_and_or] at success
  obtain ⟨admin, active, same, open', -, message, hMessage, coordinator, hCoordinator, rfl⟩ :=
    success
  exact ⟨message, admin, active, same, open', hMessage, hCoordinator, rfl, rfl⟩

theorem close_ok (success : w.close hashing msg transferId stamps = .ok w') :
    ∃ message, msg.sender = w.vault.admin ∧ w.coordinator.activeCycleKind = .allocate ∧
      transferId = w.coordinator.activeTransferId ∧ w.coordinator.closeRequested = false ∧
      w.coordinator.activeDeadline.raw < msg.timestamp.raw ∧
      w.resolution transferId w.coordinator.activeSequence .close stamps = .ok message ∧
      { w.coordinator with closeRequested := true }.publishOutbound hashing message =
        .ok w'.coordinator ∧
      w'.vault = w.vault ∧ w'.asset = w.asset := by
  simp only [close, bind_eq_ok, Vault.requireAdmin_ok, rejectIf_eq_ok, pure_eq_ok, exists_const,
    Bool.not_eq_true, not_not, Unsigned.le_def, Nat.not_le] at success
  obtain ⟨admin, active, same, open', late, message, hMessage, coordinator, hCoordinator, rfl⟩ :=
    success
  exact ⟨message, admin, active, same, open', late, hMessage, hCoordinator, rfl, rfl⟩

theorem recover_ok (success : w.recover hashing msg transferId stamps = .ok w') :
    ∃ message, msg.sender = w.vault.admin ∧ w.coordinator.activeCycleKind = .none ∧
      transferId.raw ≠ 0 ∧ w.coordinator.usedTransferIds transferId = false ∧
      w.vault.impairedTransport.raw ≠ 0 ∧
      w.resolution transferId w.coordinator.lastImpairedSequence .recover stamps = .ok message ∧
      w.coordinator.consumeOutbound hashing transferId .recover .zero .zero message =
        .ok w'.coordinator ∧
      w'.vault = w.vault ∧ w'.asset = w.asset := by
  simp only [recover, bind_eq_ok, Vault.requireAdmin_ok, rejectIf_eq_ok, pure_eq_ok, exists_const,
    Coordinator.requireNoActiveCycle_ok, Coordinator.requireFreshTransfer_ok,
    Unsigned.isZero_iff] at success
  obtain ⟨admin, idle, ⟨named, fresh⟩, impaired, message, hMessage, coordinator, hCoordinator,
    rfl⟩ := success
  exact ⟨message, admin, idle, named, fresh, impaired, hMessage, hCoordinator, rfl, rfl⟩

end Outbound

section Reports

variable {body : RemoteReportBody} {reason : ReportSkipReason}

theorem completeAllocation_ok {reported : Uint128} :
    w.completeAllocation reported = .ok w' ↔
      w.vault.completeAllocation w.coordinator.self (toUint256 w.coordinator.activeAmount)
        (toUint256 reported) = .ok w'.vault ∧
      w'.coordinator = w.coordinator.clearCycle ∧ w'.asset = w.asset := by
  simp only [completeAllocation, bind_eq_ok, pure_eq_ok]
  constructor
  · rintro ⟨vault, hVault, rfl⟩
    exact ⟨hVault, rfl, rfl⟩
  · rintro ⟨hVault, hCoordinator, hAsset⟩
    refine ⟨w'.vault, hVault, ?_⟩
    cases w'
    cases hCoordinator
    cases hAsset
    rfl

theorem applyRemoteValuation_ok : w.applyRemoteValuation body = .ok w' ↔
    (w.vault.remoteAccounting.raw ≠ 0 ∧ w.coordinator.self = w.vault.remoteAccounting) ∧
      w' = { w with vault := w.vault.setAcceptedRemoteValue (toUint256
        (if w.coordinator.activeCycleKind = .recall then
          w.coordinator.valueDuringRecall body.realizedLoss else body.reportedValue)) } := by
  simp only [applyRemoteValuation, bind_eq_ok, Vault.applyRemoteValuation_iff, pure_eq_ok]
  constructor
  · rintro ⟨_, ⟨bound, rfl⟩, rfl⟩
    exact ⟨bound, rfl⟩
  · rintro ⟨bound, rfl⟩
    exact ⟨_, ⟨bound, rfl⟩, rfl⟩

/-- What processing a report can come to. -/
inductive ReportOutcome (w : World) (msg : Msg) (header : Header) (body : RemoteReportBody) :
    World → ReportSkipReason → Prop
  /-- The lane advances and nothing is priced. -/
  | skipped (reason : ReportSkipReason) (skips : reason ≠ .none)
      (pending : reason = .settlementPending ↔ w.coordinator.closeRequested = true) :
      ReportOutcome w msg header body w reason
  /-- The epoch's valuation is fixed; the allocation completes at par. -/
  | completedAtPar (w' : World) (running : w.coordinator.closeRequested = false)
      (fresh : msg.timestamp.raw ≤ header.expiresAt.raw)
      (fixed : w.atCutoff = true ∧ w.locked = true) (names : w.completes body = true)
      (keepsNav : w.completionKeepsNav body.reportedValue = .ok true)
      (completed : w.completeAllocation body.reportedValue = .ok w') :
      ReportOutcome w msg header body w' .none
  /-- The report is priced; the first one at a cutoff also fixes the valuation. -/
  | priced (completed valued w' : World) (running : w.coordinator.closeRequested = false)
      (fresh : msg.timestamp.raw ≤ header.expiresAt.raw)
      (unfixed : w.atCutoff = true → w.locked = false ∧ body.epochId = w.vault.currentEpochId ∧
        w.vault.currentEpochCutoffAt.raw ≤ header.observedAt.raw)
      (completes : w.completeIfNamed body = .ok completed)
      (values : completed.applyRemoteValuation body = .ok valued)
      (locks : if w.atCutoff then ∃ vault,
          valued.vault.lockRemoteValuation w.coordinator.self w.vault.currentEpochId = .ok vault ∧
            w' = { valued with vault := vault }
        else w' = valued) :
      ReportOutcome w msg header body w' .none

theorem applyReport_ok (success : w.applyReport msg header body = .ok (w', reason)) :
    ReportOutcome w msg header body w' reason := by
  unfold applyReport at success
  split at success
  · rename_i closing
    simp only [pure_eq_ok, Prod.mk.injEq] at success
    obtain ⟨rfl, rfl⟩ := success
    exact .skipped .settlementPending (by decide) (by simp [closing])
  rename_i running
  have skip : ∀ other : ReportSkipReason, other ≠ .none → other ≠ .settlementPending →
      (w, other) = (w', reason) → ReportOutcome w msg header body w' reason := by
    intro other skips distinct same
    cases same
    exact .skipped reason skips (by simp [distinct, running])
  have open' : w.coordinator.closeRequested = false := by simpa using running
  split at success
  · rw [pure_eq_ok] at success
    exact skip .expired (by decide) (by decide) success
  rename_i fresh
  split at success
  · rename_i fixed
    rw [Bool.and_eq_true] at fixed
    split at success
    · rename_i names
      rw [bind_eq_ok] at success
      obtain ⟨keepsNav, hKeeps, success⟩ := success
      split at success
      · rename_i keeps
        simp only [bind_eq_ok, pure_eq_ok, Prod.mk.injEq] at success
        obtain ⟨completed, hCompleted, rfl, rfl⟩ := success
        exact .completedAtPar completed open' (Nat.not_lt.mp fresh) fixed names (keeps ▸ hKeeps)
          hCompleted
      · rw [pure_eq_ok] at success
        exact skip .valuationFixed (by decide) (by decide) success
    · rw [pure_eq_ok] at success
      exact skip .valuationFixed (by decide) (by decide) success
  rename_i unfixed
  split at success
  · rw [pure_eq_ok] at success
    exact skip .wrongEpoch (by decide) (by decide) success
  rename_i sameEpoch
  split at success
  · rw [pure_eq_ok] at success
    exact skip .staleObservation (by decide) (by decide) success
  rename_i observed
  simp only [bind_eq_ok] at success
  obtain ⟨completed, hCompleted, valued, hValued, success⟩ := success
  have conditions : w.atCutoff = true → w.locked = false ∧
      body.epochId = w.vault.currentEpochId ∧
      w.vault.currentEpochCutoffAt.raw ≤ header.observedAt.raw := by
    intro cutoff
    simp only [cutoff, Bool.true_and, Bool.not_eq_true, decide_eq_true_eq, not_not,
      Unsigned.lt_def, Nat.not_lt] at unfixed sameEpoch observed
    exact ⟨unfixed, sameEpoch, observed⟩
  split at success
  · rename_i cutoff
    simp only [bind_eq_ok, pure_eq_ok, Prod.mk.injEq] at success
    obtain ⟨vault, hVault, rfl, rfl⟩ := success
    exact .priced completed valued _ open' (Nat.not_lt.mp fresh) conditions hCompleted hValued
      (by rw [if_pos cutoff]; exact ⟨vault, hVault, rfl⟩)
  · rename_i noCutoff
    simp only [pure_eq_ok, Prod.mk.injEq] at success
    obtain ⟨rfl, rfl⟩ := success
    exact .priced completed valued _ open' (Nat.not_lt.mp fresh) conditions hCompleted hValued
      (by rw [if_neg noCutoff])

end Reports

section Inbound

@[simp] theorem requireConfigVersion_ok {version : Uint64} :
    w.requireConfigVersion version = .ok u ↔ version = w.configVersion := by
  simp [requireConfigVersion]

theorem processRemoteReport_iff {authentic : Bool} {body : RemoteReportBody} :
    w.processRemoteReport hashing msg authentic header body = .ok w' ↔
    ∃ next reason, authentic = true ∧ ProtocolCodec.validateHeader header = .ok () ∧
      ProtocolCodec.validateRemoteReport body header.observedAt = .ok () ∧
      w.coordinator.Expects header ∧ body.configVersion = w.configVersion ∧
      w.coordinator.lastInboundCumulativeLoss.raw ≤ body.realizedLoss.raw ∧
      next.raw = w.coordinator.inboundExpectedSequence.raw + 1 ∧
      ({ w with coordinator := { w.coordinator with
          lastInboundCumulativeLoss := body.realizedLoss
          inboundLatestCommitment := hashing.extend w.coordinator.inboundLatestCommitment
            ⟨header, .remoteReport body⟩
          inboundExpectedSequence := next } }).applyReport msg header body = .ok (w', reason) := by
  simp only [processRemoteReport, Coordinator.Expects, bind_eq_ok, rejectIf_eq_ok, pure_eq_ok,
    exists_const, Bool.not_eq_false, requireConfigVersion_ok, Unsigned.lt_def, Nat.not_lt,
    Coordinator.advanceInbound_ok]
  constructor
  · rintro ⟨isAuthentic, ⟨⟩, validHeader, ⟨⟩, validBody, ⟨⟩, expected, version, fresh, _,
      ⟨next, hNext, rfl⟩, ⟨applied, reason⟩, hApplied, rfl⟩
    exact ⟨next, reason, isAuthentic, validHeader, validBody, expected, version, fresh, hNext,
      hApplied⟩
  · rintro ⟨next, reason, isAuthentic, validHeader, validBody, expected, version, fresh, hNext,
      hApplied⟩
    exact ⟨isAuthentic, (), validHeader, (), validBody, (), expected, version, fresh, _,
      ⟨next, hNext, rfl⟩, (w', reason), hApplied, rfl⟩

theorem processRecallSent_iff {authentic : Bool} {body : RecallSentBody} :
    w.processRecallSent hashing authentic header body = .ok w' ↔
    ∃ next settledLoss restored, authentic = true ∧ ProtocolCodec.validateHeader header = .ok () ∧
      ProtocolCodec.validateRecallSent body header.observedAt = .ok () ∧
      w.coordinator.Expects header ∧ body.configVersion = w.configVersion ∧
      w.coordinator.activeCycleKind = .recall ∧
      body.transferId = w.coordinator.activeTransferId ∧
      body.principalSent.raw ≤ w.coordinator.activeAmount.raw ∧
      body.destinationReference = w.coordinator.identities.expectedDestinationReference ∧
      body.actualAmountSent.raw + body.realizedLoss.raw = body.principalSent.raw ∧
      settledLoss.raw = w.coordinator.recallBaselineLoss.raw + body.realizedLoss.raw ∧
      next.raw = w.coordinator.inboundExpectedSequence.raw + 1 ∧
      w.restoreBaseline = .ok restored ∧
      restored.applyRecallSent w.coordinator.self (toUint256 body.principalSent)
        (toUint256 body.actualAmountSent) (toUint256 body.realizedLoss) = .ok w'.vault ∧
      w'.coordinator = { { w.coordinator with
          lastInboundCumulativeLoss :=
            if w.coordinator.lastInboundCumulativeLoss < settledLoss then settledLoss
            else w.coordinator.lastInboundCumulativeLoss
          recallBaselineValue := .zero
          recallBaselineLoss := .zero }.clearCycle with
        inboundLatestCommitment := hashing.extend w.coordinator.inboundLatestCommitment
          ⟨header, .recallSent body⟩
        inboundExpectedSequence := next } ∧
      w'.asset = w.asset := by
  simp only [processRecallSent, Coordinator.Expects, bind_eq_ok, rejectIf_eq_ok, pure_eq_ok,
    exists_const, Bool.not_eq_false, requireConfigVersion_ok, Unsigned.lt_def, Nat.not_lt, not_not,
    add_ok, Coordinator.advanceInbound_ok]
  constructor
  · rintro ⟨isAuthentic, ⟨⟩, validHeader, ⟨⟩, validBody, ⟨⟩, expected, version, recalling, same,
      within, destination, split, settledLoss, hLoss, _, ⟨next, hNext, rfl⟩, restored, hRestored,
      vault, hVault, rfl⟩
    exact ⟨next, settledLoss, restored, isAuthentic, validHeader, validBody, expected, version,
      recalling, same, within, destination, split, hLoss, hNext, hRestored, hVault, rfl, rfl⟩
  · rintro ⟨next, settledLoss, restored, isAuthentic, validHeader, validBody, expected, version,
      recalling, same, within, destination, split, hLoss, hNext, hRestored, hVault, hCoordinator,
      hAsset⟩
    refine ⟨isAuthentic, (), validHeader, (), validBody, (), expected, version, recalling, same,
      within, destination, split, settledLoss, hLoss, _, ⟨next, hNext, rfl⟩, restored, hRestored,
      w'.vault, hVault, ?_⟩
    cases w'
    cases hCoordinator
    cases hAsset
    rfl

theorem processTransportSettlement_iff {authentic : Bool} {body : TransportSettlementBody} :
    w.processTransportSettlement hashing authentic header body = .ok w' ↔
    ∃ next, authentic = true ∧ ProtocolCodec.validateHeader header = .ok () ∧
      ProtocolCodec.validateTransportSettlement body = .ok () ∧
      w.coordinator.Expects header ∧ body.configVersion = w.configVersion ∧
      body.transferId = w.coordinator.activeTransferId ∧
      next.raw = w.coordinator.inboundExpectedSequence.raw + 1 ∧
      w'.asset = w.asset ∧
      match body.kind with
      | .closed =>
          w.coordinator.activeCycleKind = .allocate ∧ w.coordinator.closeRequested = true ∧
          body.creditedAmount.raw ≤ body.claimAmount.raw ∧
          body.claimAmount = w.coordinator.activeAmount ∧
          body.impairedOutstanding.raw = w.vault.impairedTransport.raw +
            (body.claimAmount.raw - body.creditedAmount.raw) ∧
          w.vault.closeAllocation w.coordinator.self (toUint256 body.claimAmount)
            (toUint256 body.creditedAmount) = .ok w'.vault ∧
          w'.coordinator = { w.coordinator.clearCycle with
            lastImpairedSequence :=
              if body.claimAmount.raw = body.creditedAmount.raw then
                w.coordinator.lastImpairedSequence
              else w.coordinator.activeSequence
            inboundLatestCommitment := hashing.extend w.coordinator.inboundLatestCommitment
              ⟨header, .transportSettlement body⟩
            inboundExpectedSequence := next }
      | .recovered =>
          w.coordinator.activeCycleKind = .recover ∧
          body.claimAmount.raw = w.vault.impairedTransport.raw ∧
          w.vault.recoverImpairment w.coordinator.self (toUint256 body.creditedAmount) =
            .ok w'.vault ∧
          w'.coordinator = { w.coordinator.clearCycle with
            inboundLatestCommitment := hashing.extend w.coordinator.inboundLatestCommitment
              ⟨header, .transportSettlement body⟩
            inboundExpectedSequence := next } := by
  simp only [processTransportSettlement, Coordinator.Expects, bind_eq_ok, rejectIf_eq_ok,
    exists_const, Bool.not_eq_false, requireConfigVersion_ok, not_not]
  cases kind : body.kind with
  | closed =>
      simp only [bind_eq_ok, rejectIf_eq_ok, sub_ok, add_ok, toUint256_raw, pure_eq_ok,
        exists_const, not_or, not_not, Bool.not_eq_false, Coordinator.advanceInbound_ok,
        ← Unsigned.raw_inj (a := toUint256 body.impairedOutstanding)]
      constructor
      · rintro ⟨isAuthentic, ⟨⟩, validHeader, ⟨⟩, validBody, ⟨⟩, expected, version, same,
          ⟨allocating, closing⟩, shortfall, hShortfall, impaired, hImpaired, ⟨claim, outstanding⟩, _,
          ⟨next, hNext, rfl⟩, vault, hVault, rfl⟩
        refine ⟨next, isAuthentic, validHeader, validBody, expected, version, same, hNext, rfl,
          allocating, closing, by omega, claim, by omega, hVault, ?_⟩
        by_cases whole : body.claimAmount.raw = body.creditedAmount.raw
        · have : shortfall.isZero = true := by simp; omega
          simp only [this, if_true, if_pos whole]
          rfl
        · have : shortfall.isZero = false := by simp; omega
          simp only [this, Bool.false_eq_true, if_false, if_neg whole]
          rfl
      · rintro ⟨next, isAuthentic, validHeader, validBody, expected, version, same, hNext, hAsset,
          allocating, closing, within, claim, outstanding, hVault, hCoordinator⟩
        refine ⟨isAuthentic, (), validHeader, (), validBody, (), expected, version, same,
          ⟨allocating, closing⟩, (toUint256 body.claimAmount).saturatingSub
            (toUint256 body.creditedAmount), by simp; omega, toUint256 body.impairedOutstanding,
          by simpa using outstanding, ⟨claim, rfl⟩, _, ⟨next, hNext, rfl⟩, w'.vault, hVault, ?_⟩
        cases w'
        cases hCoordinator
        cases hAsset
        congr 2
        by_cases whole : body.claimAmount.raw = body.creditedAmount.raw
        · rw [if_pos whole, if_pos (by simp; omega)]
        · rw [if_neg whole, if_neg (by simp; omega)]
  | recovered =>
      simp only [bind_eq_ok, rejectIf_eq_ok, toUint256_raw, pure_eq_ok, exists_const, not_not,
        Coordinator.advanceInbound_ok, ← Unsigned.raw_inj (a := toUint256 body.claimAmount)]
      constructor
      · rintro ⟨isAuthentic, ⟨⟩, validHeader, ⟨⟩, validBody, ⟨⟩, expected, version, same,
          recovering, claim, _, ⟨next, hNext, rfl⟩, vault, hVault, rfl⟩
        exact ⟨next, isAuthentic, validHeader, validBody, expected, version, same, hNext, rfl,
          recovering, claim, hVault, rfl⟩
      · rintro ⟨next, isAuthentic, validHeader, validBody, expected, version, same, hNext, hAsset,
          recovering, claim, hVault, hCoordinator⟩
        refine ⟨isAuthentic, (), validHeader, (), validBody, (), expected, version, same,
          recovering, claim, _, ⟨next, hNext, rfl⟩, w'.vault, hVault, ?_⟩
        cases w'
        cases hCoordinator
        cases hAsset
        rfl

end Inbound

end World

end Evm
