import CrossChainVault.Evm.Coupling

set_option autoImplicit false

/- Every report in line is taken, applied or skipped, and none moves a price that is fixed. -/

namespace Evm

open Result Protocol

/-- The coordinator has taken the report into account but not applied it. -/
def World.received (w : World) (hashing : Hashing) (header : Header) (body : RemoteReportBody)
    (next : Uint64) : World :=
  { w with coordinator := { w.coordinator with
    lastInboundCumulativeLoss := body.realizedLoss
    inboundLatestCommitment :=
      hashing.extend w.coordinator.inboundLatestCommitment ⟨header, .remoteReport body⟩
    inboundExpectedSequence := next } }

section

variable {hashing : Hashing} {w w' : World} {msg : Msg} {header : Header} {body : RemoteReportBody}
  {reason : ReportSkipReason}

/-- Completing at par moves the amount between two buckets of the price. -/
theorem completion_at_par (keeps : w.completionKeepsNav body.reportedValue = .ok true)
    (completed : w.completeAllocation body.reportedValue = .ok w') :
    w'.vault.remotePrincipalCap.raw + w'.vault.outboundInTransit.raw =
        w.vault.remotePrincipalCap.raw + w.vault.outboundInTransit.raw ∧
      w'.vault.outboundInTransit.raw + w'.vault.acceptedRemoteValue.raw =
        w.vault.outboundInTransit.raw + w.vault.acceptedRemoteValue.raw ∧
      w'.vault.idleBacking = w.vault.idleBacking ∧
      w'.vault.inboundInTransit = w.vault.inboundInTransit ∧
      w'.vault.lockedPricingAssets = w.vault.lockedPricingAssets ∧
      w'.vault.epochRemoteValuationLocked = w.vault.epochRemoteValuationLocked := by
  simp only [World.completionKeepsNav, bind_eq_ok, add_ok, pure_eq_ok, toUint256_raw,
    decide_eq_true_eq] at keeps
  obtain ⟨total, hTotal, carried, hCarried, same⟩ := keeps
  have value := congrArg Unsigned.raw same
  rw [Vault.ite_lt_raw, toUint256_raw] at value
  obtain ⟨hVault, -, -⟩ := World.completeAllocation_ok.mp completed
  obtain ⟨outbound, cap, -, -, hOutbound, hCap, changed⟩ := Vault.completeAllocation_iff.mp hVault
  rw [toUint256_raw] at hOutbound hCap
  rw [changed]
  refine ⟨?_, ?_, rfl, rfl, rfl, rfl⟩
  · show cap.raw + outbound.raw = _
    omega
  · show outbound.raw + _ = _
    rw [Vault.setAcceptedRemoteValue_raw, toUint256_raw]
    dsimp only
    omega

/-- A fixed price: the epoch at cutoff has its valuation, or the open allocation is closing. -/
def World.priceFixed (w : World) : Bool :=
  w.atCutoff && w.locked || w.coordinator.closeRequested

/-- What applying a report does to a fixed price: nothing. -/
theorem applyReport_fixed (applied : w.applyReport msg header body = .ok (w', reason))
    (fixed : w.priceFixed = true) :
    w'.vault.remotePrincipalCap.raw + w'.vault.outboundInTransit.raw =
        w.vault.remotePrincipalCap.raw + w.vault.outboundInTransit.raw ∧
      w'.vault.idleBacking.raw + w'.vault.outboundInTransit.raw +
          w'.vault.acceptedRemoteValue.raw + w'.vault.inboundInTransit.raw =
        w.vault.idleBacking.raw + w.vault.outboundInTransit.raw +
          w.vault.acceptedRemoteValue.raw + w.vault.inboundInTransit.raw ∧
      w'.vault.lockedPricingAssets = w.vault.lockedPricingAssets := by
  cases World.applyReport_ok applied with
  | skipped _ _ _ => exact ⟨rfl, rfl, rfl⟩
  | completedAtPar _ _ _ _ _ keeps completed =>
      obtain ⟨principal, value, idle, inbound, locked, -⟩ := completion_at_par keeps completed
      rw [idle, inbound]
      exact ⟨principal, by omega, locked⟩
  | priced _ _ _ running _ unfixed _ _ _ =>
      -- A report is only priced while nothing is fixed.
      unfold World.priceFixed at fixed
      rw [running, Bool.or_false, Bool.and_eq_true] at fixed
      have unlocked := (unfixed fixed.1).1
      rw [fixed.2] at unlocked
      cases unlocked

/-- Applying a report fixes the current epoch's valuation exactly when it is priced at the cutoff and
nothing fixed it before. -/
theorem applyReport_locks (applied : w.applyReport msg header body = .ok (w', reason)) :
    (w.locked = false ∧ w'.vault.epochRemoteValuationLocked w.vault.currentEpochId = true) ↔
      reason = .none ∧ w.atCutoff = true ∧ w.locked = false := by
  cases World.applyReport_ok applied with
  | skipped _ skips _ =>
      constructor
      · rintro ⟨unlocked, locked⟩
        cases unlocked.symm.trans locked
      · rintro ⟨none, -⟩
        exact absurd none skips
  | completedAtPar _ _ _ fixed _ _ _ =>
      constructor
      · rintro ⟨unlocked, -⟩
        cases unlocked.symm.trans fixed.2
      · rintro ⟨-, -, unlocked⟩
        cases unlocked.symm.trans fixed.2
  | priced completed valued _ _ _ unfixed completes values locks =>
      obtain ⟨-, -, sameLocks, -, -, -⟩ := Paired.completeIfNamed_frame completes
      obtain ⟨-, rfl⟩ := World.applyRemoteValuation_ok.mp values
      by_cases cutoff : w.atCutoff = true
      · rw [if_pos cutoff] at locks
        obtain ⟨vault, locking, rfl⟩ := locks
        obtain ⟨backing, -, -, -, rfl⟩ := Vault.lockRemoteValuation_iff.mp locking
        constructor
        · rintro ⟨unlocked, -⟩
          exact ⟨rfl, cutoff, unlocked⟩
        · rintro ⟨-, -, unlocked⟩
          exact ⟨unlocked, Function.update_self _ _ _⟩
      · rw [if_neg cutoff] at locks
        constructor
        · rintro ⟨unlocked, locked⟩
          rw [locks] at locked
          cases unlocked.symm.trans ((congrFun sameLocks _).symm.trans locked)
        · rintro ⟨-, reached, -⟩
          exact absurd reached cutoff

/-- What a report does that is taken in its turn. It is applied when no reason to skip it is given. -/
structure Taken (hashing : Hashing) (w : World) (header : Header) (body : RemoteReportBody)
    (reason : ReportSkipReason) (w' : World) : Prop where
  sequence : w'.coordinator.inboundExpectedSequence.raw =
    w.coordinator.inboundExpectedSequence.raw + 1
  commitment : w'.coordinator.inboundLatestCommitment =
    hashing.extend w.coordinator.inboundLatestCommitment ⟨header, .remoteReport body⟩
  loss : w.coordinator.lastInboundCumulativeLoss.raw ≤ w'.coordinator.lastInboundCumulativeLoss.raw
  fixed : w.priceFixed = true →
    (∃ backing, w.vault.managedBacking = .ok backing ∧ w'.vault.managedBacking = .ok backing) ∧
    w'.vault.lockedPricingAssets = w.vault.lockedPricingAssets ∧
    w'.vault.remotePrincipalCap.raw + w'.vault.outboundInTransit.raw =
      w.vault.remotePrincipalCap.raw + w.vault.outboundInTransit.raw
  locks : (w.locked = false ∧ w'.vault.epochRemoteValuationLocked w.vault.currentEpochId = true) ↔
    reason = .none ∧ w.atCutoff = true ∧ w.locked = false

/-- Every report in line is taken, in every state the contracts reach while the lane can count on. -/
theorem reports_taken {d : Deployment} {start : World} {calls : List (Msg × Call)}
    (deployed : d.deploy = .ok start) (asset : d.asset.Kept d.vaultAddress)
    (outside : ∀ tx ∈ calls, Outside d tx) (senders : ∀ tx ∈ calls, tx.1.sender ≠ d.vaultAddress)
    (finished : Run.run (fun w tx => w.step hashing tx.1 tx.2) start calls = .ok w)
    (room : Paired.Room w) (bound : Bound w) {authentic : Bool}
    (received : Received w authentic header body.configVersion)
    (valid : ProtocolCodec.validateRemoteReport body header.observedAt = .ok ())
    (grows : w.coordinator.lastInboundCumulativeLoss.raw ≤ body.realizedLoss.raw) :
    ∃ w' next reason,
      w.step hashing msg (.processRemoteReport authentic header body) = .ok w' ∧
      (w.received hashing header body next).applyReport msg header body = .ok (w', reason) ∧
      Taken hashing w header body reason w' := by
  have paired : Paired d w := by
    refine Run.run_preserves_of (Paired d) calls ?_ start finished (Deployment.paired deployed)
    intro tx member w w' success paired
    exact paired.step (outside tx member) success
  have funded := Funded.run senders finished (Deployment.funded deployed asset)
  obtain ⟨w', processed⟩ : ∃ w', w.step hashing msg
      (.processRemoteReport authentic header body) = .ok w' :=
    paired.processRemoteReport funded room bound received valid grows
  have took := (World.processRemoteReport_acts processed).moves.took
  obtain ⟨next, reason, -, -, -, -, -, -, -, applied⟩ := World.processRemoteReport_iff.mp processed
  have locks := applyReport_locks applied
  refine ⟨w', next, reason, processed, applied, took.2.1, took.2.2, ?_, ?_, locks⟩
  · have known : w'.coordinator.lastInboundCumulativeLoss = body.realizedLoss := by
      rcases (World.applyReport_applies applied).cycle with ⟨kept, -⟩ | ⟨cleared, -⟩
      · rw [kept]
      · rw [cleared]
        rfl
    rw [known]
    exact grows
  · intro fixed
    obtain ⟨principal, value, locked⟩ := applyReport_fixed applied fixed
    have fits := paired.fits funded room
    have accepted : w.vault.acceptedRemoteValue.raw ≤ w.vault.remotePrincipalCap.raw :=
      paired.coupled.accepted
    let backing : Uint256 := ⟨w.vault.idleBacking.raw + w.vault.outboundInTransit.raw +
      w.vault.acceptedRemoteValue.raw + w.vault.inboundInTransit.raw, by omega⟩
    exact ⟨⟨backing, Vault.managedBacking_ok.mpr rfl, Vault.managedBacking_ok.mpr value.symm⟩,
      locked, principal⟩

end

/-- The completion of the sample's transfer is taken and applied. -/
theorem reports_taken_completion : ∃ w w' reason, w.coordinator.activeCycleKind = .allocate ∧
    w.step sampleHash ⟨sampleAdmin, 230⟩
      (.processRemoteReport true sampleCompletion.1 sampleCompletion.2) = .ok w' ∧
    Taken sampleHash w sampleCompletion.1 sampleCompletion.2 reason w' := by
  obtain ⟨start, w, deployed, run, allocating, -, bound, room, received, grows⟩ :=
    sampleAllocating_awaits
  obtain ⟨w', _, reason, processed, -, taken⟩ := reports_taken deployed sampleAsset_kept
    sampleAllocating_outside (by decide) run room bound received rfl grows
  exact ⟨w, w', reason, allocating, processed, taken⟩

/-- The coordinator's next report, stamped so early that it is skipped. -/
def World.staleReport (w : World) : Header × RemoteReportBody where
  fst := {
    sourceChain := w.coordinator.identities.solanaChainId
    destinationChain := w.coordinator.identities.evmChainId
    sourceApplication := w.coordinator.identities.solanaApplication
    destinationApplication := w.coordinator.identities.evmApplication
    deploymentId := w.coordinator.identities.deploymentId
    vaultId := w.coordinator.identities.vaultId
    laneId := w.coordinator.identities.inboundLaneId
    sequence := w.coordinator.inboundExpectedSequence
    previousCommitment := w.coordinator.inboundLatestCommitment
    observedAt := 220
    publishedAt := 220
    expiresAt := 800 }
  snd := { sampleCompletion.2 with configVersion := w.configVersion }

/-- The lane of the sample deployment after any number of reports. -/
structure Listening (w : World) (sequence : Nat) : Prop where
  running : w.coordinator.closeRequested = false
  identities : w.coordinator.identities = samplePlan.identities
  version : w.configVersion = 1
  loss : w.coordinator.lastInboundCumulativeLoss.raw = 0
  sequence : w.coordinator.inboundExpectedSequence.raw = sequence
  asset : w.asset = sampleAsset
  bound : Bound w

theorem Listening.valid {w : World} {sequence : Nat} (listening : Listening w (sequence + 1)) :
    ProtocolCodec.validateHeader w.staleReport.1 = .ok () ∧
      ProtocolCodec.validateRemoteReport w.staleReport.2 w.staleReport.1.observedAt = .ok () ∧
      w.coordinator.Expects w.staleReport.1 := by
  refine ⟨?_, ?_, ?_⟩
  · have counted := listening.sequence
    simp only [World.staleReport, ProtocolCodec.validateHeader, listening.identities, bind_eq_ok,
      rejectIf_eq_ok, exists_const, Unsigned.isZero_iff, counted]
    refine ⟨by decide, by decide, by decide, by decide, by decide, ?_, by decide, by decide⟩
    rintro (lane | none)
    · exact absurd lane (by decide)
    · exact Nat.succ_ne_zero _ none
  · simp only [World.staleReport, listening.version]
    rfl
  · exact Coordinator.expects_iff.mpr ⟨⟨rfl, rfl⟩, ⟨rfl, rfl⟩, rfl, rfl, rfl, rfl, rfl⟩

/-- A skipped report moves the lane by one. -/
theorem Listening.step {w : World} {sequence : Nat} (listening : Listening w (sequence + 1))
    (more : sequence + 2 < 2 ^ 64) :
    ∃ w', w.step sampleHash ⟨sampleAdmin, 900⟩
        (.processRemoteReport true w.staleReport.1 w.staleReport.2) = .ok w' ∧
      Listening w' (sequence + 2) := by
  obtain ⟨validHeader, validBody, expected⟩ := listening.valid
  have counted := listening.sequence
  let next : Uint64 := ⟨sequence + 2, more⟩
  refine ⟨w.received sampleHash w.staleReport.1 w.staleReport.2 next,
    World.processRemoteReport_iff.mpr ⟨next, .expired, rfl, validHeader, validBody, expected, rfl,
      ?_, ?_, ?_⟩, ?_⟩
  · rw [listening.loss]
    exact Nat.zero_le _
  · show sequence + 2 = _
    omega
  · have late : (800 : Uint64) < (900 : Uint64) := by decide
    simp only [World.applyReport, World.received, listening.running, World.staleReport]
    rw [if_neg (by decide), if_pos late]
    rfl
  · exact ⟨listening.running, listening.identities, listening.version, rfl, rfl, listening.asset,
      ⟨listening.bound.bound, listening.bound.named⟩⟩

/-- However many reports came before, the lane can be brought there by runs from outside. -/
theorem Listening.run {start : World} (first : Listening start 1) (sequence : Nat) :
    sequence + 1 < 2 ^ 64 → ∃ calls w,
      Run.run (fun w (tx : Msg × Call) => w.step sampleHash tx.1 tx.2) start calls = .ok w ∧
      (∀ tx ∈ calls, Outside samplePlan tx ∧ tx.1.sender ≠ samplePlan.vaultAddress) ∧
      Listening w (sequence + 1) := by
  induction sequence with
  | zero =>
      intro _
      exact ⟨[], start, Run.run_nil.mpr rfl, nofun, first⟩
  | succ sequence ih =>
      intro more
      obtain ⟨calls, w, ran, outside, listening⟩ := ih (by omega)
      obtain ⟨w', processed, next⟩ := listening.step more
      let report : Msg × Call := (⟨sampleAdmin, 900⟩,
        .processRemoteReport true w.staleReport.1 w.staleReport.2)
      refine ⟨calls ++ [report], w', Run.run_append.mpr ⟨w, ran, Run.run_one.mpr processed⟩, ?_,
        next⟩
      intro tx member
      rcases List.mem_append.mp member with earlier | last
      · exact outside tx earlier
      · rw [List.mem_singleton.mp last]
        exact ⟨⟨show sampleAdmin ≠ samplePlan.coordinatorAddress by decide, nofun⟩,
          show sampleAdmin ≠ samplePlan.vaultAddress by decide⟩

/-- The sample deployment once its vault is bound. -/
def sampleBinding : Msg × Call :=
  (⟨sampleAdmin, .zero⟩, .bindRemoteAccounting samplePlan.coordinatorAddress)

theorem sampleBinding_listening : ∃ start w, samplePlan.deploy = .ok start ∧
    start.step sampleHash sampleBinding.1 sampleBinding.2 = .ok w ∧ Listening w 1 := by
  have passes : (do
      let start ← samplePlan.deploy
      let w ← start.step sampleHash sampleBinding.1 sampleBinding.2
      pure (start, w) : Except Revert (World × World)).toOption.any (fun worlds =>
        decide (worlds.2.coordinator.closeRequested = false) &&
        decide (worlds.2.coordinator.identities = samplePlan.identities) &&
        decide (worlds.2.configVersion = 1) &&
        decide (worlds.2.coordinator.lastInboundCumulativeLoss.raw = 0) &&
        decide (worlds.2.coordinator.inboundExpectedSequence.raw = 1) &&
        decide (worlds.2.vault.remoteAccounting = worlds.2.coordinator.self) &&
        decide (worlds.2.coordinator.self.raw ≠ 0)) = true := by
    decide +kernel
  obtain ⟨⟨_, _⟩, finished, checks⟩ := ok_of_any passes
  simp only [bind_eq_ok, pure_eq_ok, Prod.mk.injEq] at finished
  obtain ⟨start, deployed, w, binds, rfl, rfl⟩ := finished
  simp only [Bool.and_eq_true, decide_eq_true_eq] at checks
  obtain ⟨⟨⟨⟨⟨⟨running, identities⟩, version⟩, loss⟩, sequence⟩, bound⟩, named⟩ := checks
  have asset : w.asset = sampleAsset := by
    obtain ⟨_, -, same⟩ := World.withVault_ok.mp binds
    rw [same]
    exact (Deployment.deploy_ok deployed).1
  exact ⟨start, w, deployed, binds, running, identities, version, loss, sequence, asset, bound,
    named⟩

/-- The lane counts in sixty-four bits: the report with the last number cannot be taken. -/
theorem report_lane_ends : ∃ start calls w, samplePlan.deploy = .ok start ∧
    Run.run (fun w (tx : Msg × Call) => w.step sampleHash tx.1 tx.2) start calls = .ok w ∧
    (∀ tx ∈ calls, Outside samplePlan tx ∧ tx.1.sender ≠ samplePlan.vaultAddress) ∧
    Bound w ∧ Paired.Room w ∧
    ProtocolCodec.validateHeader w.staleReport.1 = .ok () ∧
    ProtocolCodec.validateRemoteReport w.staleReport.2 w.staleReport.1.observedAt = .ok () ∧
    w.coordinator.Expects w.staleReport.1 ∧ w.staleReport.2.configVersion = w.configVersion ∧
    w.coordinator.lastInboundCumulativeLoss.raw ≤ w.staleReport.2.realizedLoss.raw ∧
    ¬∃ msg w', w.step sampleHash msg
      (.processRemoteReport true w.staleReport.1 w.staleReport.2) = .ok w' := by
  obtain ⟨start, bound, deployed, binds, first⟩ := sampleBinding_listening
  obtain ⟨calls, w, ran, outside, listening⟩ := first.run (2 ^ 64 - 2) (by decide)
  obtain ⟨validHeader, validBody, expected⟩ := listening.valid
  refine ⟨start, sampleBinding :: calls, w, deployed, Run.run_cons.mpr ⟨bound, binds, ran⟩, ?_,
    listening.bound, ?_, validHeader, validBody, expected, rfl, ?_, ?_⟩
  · intro tx member
    rcases List.mem_cons.mp member with same | later
    · rw [same]
      exact ⟨⟨by decide, fun _ call => (Call.bindRemoteAccounting.inj call).symm⟩, by decide⟩
    · exact outside tx later
  · unfold Paired.Room
    rw [listening.asset]
    decide
  · rw [listening.loss]
    exact Nat.zero_le _
  · rintro ⟨msg, w', processed⟩
    obtain ⟨next, _, -, -, -, -, -, -, hNext, -⟩ := World.processRemoteReport_iff.mp processed
    have within := next.bound
    rw [listening.sequence] at hNext
    omega

end Evm
