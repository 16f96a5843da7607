import CrossChainVault.Lockstep.Reports

set_option autoImplicit false

/- The two implementations in lock step, operation by operation and along joint runs. -/

namespace Lockstep

open AccountingModel (State Operation AccountId EpochId AssetAmount Genesis)
open Evm (World Vault Msg Call Address Deployment)
open Protocol Result

variable {book : AddressBook} {s s' : State} {w w' : World} {hashing : Hashing}
  {operations : List Operation} {calls : List (Msg × Call)}

/-- Runs transactions one after another. -/
def transact (hashing : Hashing) (w : World) (calls : List (Msg × Call)) : Except Evm.Revert World :=
  Run.run (fun w tx => w.step hashing tx.1 tx.2) w calls

/-- A settlement on a locked valuation still has something remote to value. -/
def LockInUse (w : World) (operations : List Operation) : Prop :=
  operations = [.finalizeEpoch] → w.locked = true → w.vault.hasRemoteExposure = true

theorem Counterpart.related (corresponds : Counterpart book w operations calls)
    (reachable : AccountingModel.Reachable s) (evmReachable : Evm.Reachable hashing w)
    (related : Related book s w) (used : LockInUse w operations)
    (model : Run.run AccountingModel.apply s operations = .ok s')
    (evm : transact hashing w calls = .ok w') : Related book s' w' := by
  unfold transact at evm
  cases corresponds with
  | requestDeposit => exact requestDeposit_related related (Run.run_one.mp model) (Run.run_one.mp evm)
  | cancelDeposit => exact cancelDeposit_related related (Run.run_one.mp model) (Run.run_one.mp evm)
  | requestRedeem => exact requestRedeem_related related (Run.run_one.mp model) (Run.run_one.mp evm)
  | cancelRedeem => exact cancelRedeem_related related (Run.run_one.mp model) (Run.run_one.mp evm)
  | cutoffEpoch => exact cutoffEpoch_related related (Run.run_one.mp model) (Run.run_one.mp evm)
  | finalizeEpoch =>
      exact finalizeEpoch_related related reachable evmReachable.booksInv (used rfl)
        (Run.run_one.mp model) (Run.run_one.mp evm)
  | abortEpoch => exact abortEpoch_related related (Run.run_one.mp model) (Run.run_one.mp evm)
  | claimDeposit => exact claimDeposit_related related (Run.run_one.mp model) (Run.run_one.mp evm)
  | claimRedeem =>
      exact claimRedeem_related related evmReachable.booksInv (Run.run_one.mp model)
        (Run.run_one.mp evm)
  | refundDeposit => exact refundDeposit_related related (Run.run_one.mp model) (Run.run_one.mp evm)
  | refundRedeem => exact refundRedeem_related related (Run.run_one.mp model) (Run.run_one.mp evm)
  | openNextEpoch => exact openNextEpoch_related related (Run.run_one.mp model) (Run.run_one.mp evm)
  | pause => exact pause_related related (Run.run_one.mp model) (Run.run_one.mp evm)
  | unpause => exact unpause_related related (Run.run_one.mp model) (Run.run_one.mp evm)
  | freeze => exact freeze_related related (Run.run_one.mp model) (Run.run_one.mp evm)
  | allocate => exact allocate_related related (Run.run_one.mp model) (Run.run_one.mp evm)
  | «recall» => exact recall_related related (Run.run_one.mp model) (Run.run_one.mp evm)
  | recallSent =>
      exact recallSent_related related reachable.assetInv (Run.run_one.mp model) (Run.run_one.mp evm)
  | elsewhere payer data stays =>
      obtain rfl := Run.run_nil.mp model
      exact elsewhere_related related stays (Run.run_one.mp evm)
  | observe amount payer observer data arrives =>
      obtain ⟨paid, called, observed⟩ := Run.run_cons.mp evm
      exact observe_related related arrives (Run.run_one.mp model) called (Run.run_one.mp observed)
  | report msg authentic header body loss added applied =>
      exact report_related related reachable added applied model (Run.run_one.mp evm)
  | skippedReport msg authentic header body noLoss skipped =>
      obtain rfl := Run.run_nil.mp model
      exact skippedReport_related related noLoss skipped (Run.run_one.mp evm)
  | completion msg authentic header body noLoss names running fixed applied =>
      exact completion_related related noLoss names running fixed applied (Run.run_one.mp model)
        (Run.run_one.mp evm)
  | lock msg authentic header body noLoss sameValue noCompletion running cutoff unfixed applied =>
      exact lock_related related reachable noLoss sameValue noCompletion running cutoff unfixed
        applied (Run.run_one.mp model) (Run.run_one.mp evm)
  | pendingClose operation msg authentic header body reported noLoss closing =>
      exact pendingClose_related related reported noLoss closing (Run.run_one.mp model)
        (Run.run_one.mp evm)
  | requestClose => exact close_related related (Run.run_one.mp model) (Run.run_one.mp evm)
  | settleClose _ _ _ _ closed =>
      exact settleClose_related related closed (Run.run_one.mp model) (Run.run_one.mp evm)
  | recover => exact recover_related related (Run.run_one.mp model) (Run.run_one.mp evm)
  | settleRecover _ _ _ _ recovered =>
      exact settleRecover_related related recovered (Run.run_one.mp model) (Run.run_one.mp evm)

/-- Deployed with the model's configuration, at the model's time and with nothing at its address. -/
structure SameGenesis (genesis : Genesis) (d : Deployment) : Prop where
  assetDecimals : genesis.config.assetDecimals.raw = 6
  shareDecimals : genesis.config.shareDecimals.raw = 18
  version : genesis.config.version = d.configVersion
  duration : genesis.config.epochDuration = d.epochDuration
  openedAt : genesis.openedAt = d.deployedAt
  unattributed : genesis.unattributedBalance.raw = 0
  unfunded : (d.asset.balanceOf d.vaultAddress).raw = 0

theorem genesis_related {genesis : Genesis} {d : Deployment} (same : SameGenesis genesis d)
    (created : State.new genesis = .ok s) (deployed : d.deploy = .ok w) : Related book s w := by
  simp only [State.new, bind_eq_ok, AccountingModel.checkedAdd_ok, pure_eq_ok] at created
  obtain ⟨_, -, virtualShares, hVirtual, opened, -, cutoffAt, hCutoff, next, -, rfl⟩ := created
  obtain ⟨hAsset, opening, hCoordinator⟩ := Deployment.deploy_ok deployed
  obtain ⟨cutoffAt', next', hCutoff', hNext', hVault⟩ := Vault.openEpoch_ok opening
  simp only [Evm.Coordinator.create, bind_eq_ok, pure_eq_ok] at hCoordinator
  obtain ⟨_, -, _, -, _, -, hCoordinator⟩ := hCoordinator
  cases w
  cases hAsset
  cases hVault
  cases hCoordinator
  have decimals : virtualShares.raw = 10 ^ 12 := by
    rw [(AccountingModel.virtualSharesFor_ok hVirtual).2, same.assetDecimals, same.shareDecimals]
  have sameCutoff : cutoffAt' = cutoffAt := by
    apply Unsigned.ext
    rw [hCutoff, hCutoff', same.openedAt, same.duration]
    rfl
  have noRecords : SameRequests book ∅ fun _ _ => Evm.Request.empty := by
    constructor
    · intro epoch account
      exact ⟨rfl, rfl, rfl, rfl⟩
    · intro _ _ _
      rfl
  exact {
    assetDecimals := same.assetDecimals
    shareDecimals := same.shareDecimals
    version := same.version
    duration := same.duration
    status := rfl
    pendingDepositEscrow := rfl
    idleBacking := rfl
    claimReserve := rfl
    unattributedBalance := same.unattributed.symm
    unattributedInbound := rfl
    outboundInTransit := rfl
    acceptedRemoteValue := rfl
    inboundInTransit := rfl
    remotePrincipalCap := rfl
    recognizedLoss := rfl
    impairedTransport := rfl
    pendingRecallId := rfl
    pendingRecallPrincipal := rfl
    supply := rfl
    funded := by
      show (d.asset.balanceOf d.vaultAddress).raw = 0 + 0 + 0 + genesis.unattributedBalance.raw + 0
      rw [same.unfunded, same.unattributed]
    epoch := {
      isOpen := rfl
      phase := rfl
      id := rfl
      openedAt := same.openedAt.symm
      cutoffAt := sameCutoff
      next := hNext'
      depositAssets := rfl
      redeemShares := rfl
      version := rfl
      virtualAssets := rfl
      virtualShares := decimals }
    deposits := noRecords
    redeems := noRecords
    settled := fun _ => rfl
    locks := fun _ => rfl
    cycleKind := rfl
    transferId := rfl
    amount := rfl
    closeRequested := rfl
    cumulativeLoss := rfl
    baselineValue := rfl
    baselineLoss := rfl }

/-- Both sides start at the same genesis, the coordinator is bound, and from then on each takes
its part of the same operations. -/
inductive JointRun (book : AddressBook) (hashing : Hashing) : State → World → Prop
  | genesis {genesis : Genesis} {d : Deployment} {s : State} {w : World}
      (same : SameGenesis genesis d) (created : State.new genesis = .ok s)
      (deployed : d.deploy = .ok w) : JointRun book hashing s w
  | bind {s : State} {w w' : World} {msg : Msg} {coordinator : Address}
      (before : JointRun book hashing s w)
      (bound : w.step hashing msg (.bindRemoteAccounting coordinator) = .ok w') :
      JointRun book hashing s w'
  | step {s s' : State} {w w' : World} {operations : List Operation} {calls : List (Msg × Call)}
      (before : JointRun book hashing s w) (corresponds : Counterpart book w operations calls)
      (used : LockInUse w operations)
      (model : Run.run AccountingModel.apply s operations = .ok s')
      (evm : transact hashing w calls = .ok w') : JointRun book hashing s' w'

/-- Along a joint run both states are reachable and related. -/
theorem JointRun.related (run : JointRun book hashing s w) :
    AccountingModel.Reachable s ∧ Evm.Reachable hashing w ∧ Related book s w := by
  induction run with
  | genesis same created deployed =>
      exact ⟨⟨_, _, [], created, Run.run_nil.mpr rfl⟩, ⟨_, _, [], deployed, Run.run_nil.mpr rfl⟩,
        genesis_related same created deployed⟩
  | bind before bound ih =>
      obtain ⟨reachable, evmReachable, related⟩ := ih
      refine ⟨reachable, evmReachable.step bound, ?_⟩
      obtain ⟨_, changed, rfl⟩ := World.withVault_ok.mp bound
      obtain ⟨-, rfl⟩ := Vault.bindRemoteAccounting_ok changed
      exact { related with }
  | step before corresponds used model evm ih =>
      obtain ⟨reachable, evmReachable, related⟩ := ih
      exact ⟨reachable.run model, evmReachable.run evm,
        corresponds.related reachable evmReachable related used model evm⟩

/-- From related reachable states, an operation that both sides accept leads to related states.
A settlement records the same price, shares, assets and dust on both sides. -/
theorem lockstep (reachable : AccountingModel.Reachable s) (evmReachable : Evm.Reachable hashing w)
    (related : Related book s w) (corresponds : Counterpart book w operations calls)
    (used : LockInUse w operations)
    (model : Run.run AccountingModel.apply s operations = .ok s')
    (evm : transact hashing w calls = .ok w') :
    Related book s' w' ∧
      ∀ (id : EpochId) (terms : AccountingModel.EpochTerms),
        s'.epochs[id]? = some (.finalized terms) →
        (w'.vault.settled id).outcome = .finalized ∧
        (w'.vault.settled id).totalAssets.raw = terms.totalAssets.raw ∧
        (w'.vault.settled id).mintedShares.raw = terms.mintedShares.raw ∧
        (w'.vault.settled id).redeemAssets.raw = terms.redeemAssets.raw ∧
        (w'.vault.settled id).depositDust.raw = terms.depositDust.raw ∧
        (w'.vault.settled id).redeemDust.raw = terms.redeemDust.raw := by
  have after := corresponds.related reachable evmReachable related used model evm
  refine ⟨after, fun id terms finalized => ?_⟩
  have same := after.settled id
  rw [finalized] at same
  exact ⟨same.outcome, same.totalAssets, same.mintedShares, same.redeemAssets, same.depositDust,
    same.redeemDust⟩

/-- Account `n` is address `n + 1`, so that no account is the zero address. -/
def sampleBook : AddressBook where
  addressOf account := ⟨account.raw + 1, by have := account.bound; omega⟩
  distinct a b same := by
    have raws := congrArg Unsigned.raw same
    exact Unsigned.ext (Nat.succ.inj raws)

def sampleHashing : Hashing where
  messageId message := .ofNat message.header.sequence.raw
  nextCommitment previous id := .ofNat (previous.raw + id.raw + 1)

def sampleVault : Address := 100

def sampleCoordinator : Address := 101

def sampleIdentities : Evm.Identities where
  evmChainId := 1
  solanaChainId := 2
  evmApplication := 11
  solanaApplication := 12
  deploymentId := 21
  vaultId := 22
  outboundLaneId := 31
  inboundLaneId := 32
  expectedDestinationReference := 41

def sampleThousand : Evm.Uint256 := 1000

/-- The deployment of the sample genesis. Its holders own a thousand each and let the vault
take it. -/
def sampleDeployment : Deployment where
  vaultAddress := sampleVault
  coordinatorAddress := sampleCoordinator
  underlying := 102
  authenticator := 103
  outboundSink := 104
  admin := sampleBook.addressOf AccountingModel.sampleAdmin
  guardian := 3
  decimals := 6
  epochDuration := 100
  minDepositAssets := 1
  minRedeemShares := 1
  configVersion := 1
  identities := sampleIdentities
  deployedAt := 0
  shares := .plain
  asset := .plain {
    totalSupply := 2000
    balanceOf := fun holder => if holder.raw = 4 ∨ holder.raw = 5 then sampleThousand else .zero
    allowance := fun _ _ => sampleThousand }

def sampleMsg (now : Evm.Uint64) : Msg :=
  ⟨sampleBook.addressOf AccountingModel.sampleAdmin, now⟩

theorem sample_sameGenesis : SameGenesis AccountingModel.sampleGenesis sampleDeployment :=
  ⟨rfl, rfl, rfl, rfl, rfl, rfl, by decide⟩

/-- The sample vault, deployed and bound to its coordinator. -/
def sampleBound : Except Evm.Revert World := do
  let w ← sampleDeployment.deploy
  w.step sampleHashing (sampleMsg .zero) (.bindRemoteAccounting sampleCoordinator)

theorem sampleBound_joint {s : State} {w : World}
    (created : State.new AccountingModel.sampleGenesis = .ok s) (bound : sampleBound = .ok w) :
    JointRun sampleBook sampleHashing s w := by
  simp only [sampleBound, bind_eq_ok] at bound
  obtain ⟨start, deployed, bound⟩ := bound
  exact (JointRun.genesis sample_sameGenesis created deployed).bind bound

/-- Operations that are one transaction each and settle nothing. -/
theorem JointRun.many {pairs : List (Operation × (Msg × Call))}
    (plain : ∀ pair ∈ pairs, pair.1 ≠ .finalizeEpoch ∧ ∀ w, Counterpart book w [pair.1] [pair.2]) :
    ∀ {s s' : State} {w w' : World}, JointRun book hashing s w →
      Run.run AccountingModel.apply s (pairs.map Prod.fst) = .ok s' →
      transact hashing w (pairs.map Prod.snd) = .ok w' → JointRun book hashing s' w' := by
  induction pairs with
  | nil =>
      intro s s' w w' before model evm
      cases Run.run_nil.mp model
      cases Run.run_nil.mp evm
      exact before
  | cons pair rest ih =>
      intro s s' w w' before model evm
      obtain ⟨middle, first, model⟩ := Run.run_cons.mp model
      obtain ⟨moved, called, evm⟩ := Run.run_cons.mp evm
      obtain ⟨unsettled, corresponds⟩ := plain pair List.mem_cons_self
      have used : LockInUse w [pair.1] := by
        intro settles
        exact absurd (List.head_eq_of_cons_eq settles) unsettled
      have next := before.step (corresponds w) used (Run.run_one.mpr first) (Run.run_one.mpr called)
      exact ih (fun other member => plain other (List.mem_cons_of_mem _ member)) next model evm

def sampleAt (now : Nat) : Evm.Uint64 := .ofNat now

/-- A deposit of nine hundred, and the cutoff of its epoch. -/
def sampleFirst : List (Operation × (Msg × Call)) :=
  [(.requestDeposit AccountingModel.sampleHolder 900,
      ⟨sampleBook.addressOf AccountingModel.sampleHolder, sampleAt 1⟩,
      .requestDeposit (Evm.toUint256 900)),
    (.cutoffEpoch (sampleAt 100), sampleMsg (sampleAt 100), .cutoffEpoch)]

/-- The next epoch, up to its cutoff. -/
def sampleSecond : List (Operation × (Msg × Call)) :=
  [(.openNextEpoch (sampleAt 200), sampleMsg (sampleAt 200), .openNextEpoch),
    (.cutoffEpoch (sampleAt 300), sampleMsg (sampleAt 300), .cutoffEpoch)]

theorem sampleFirst_plain : ∀ pair ∈ sampleFirst, pair.1 ≠ .finalizeEpoch ∧
    ∀ w, Counterpart sampleBook w [pair.1] [pair.2] := by
  intro pair member
  simp only [sampleFirst, List.mem_cons, List.not_mem_nil, or_false] at member
  obtain rfl | rfl := member
  · exact ⟨by decide, fun _ => .requestDeposit _ _ _⟩
  · exact ⟨by decide, fun _ => .cutoffEpoch (sampleMsg (sampleAt 100))⟩

theorem sampleSecond_plain : ∀ pair ∈ sampleSecond, pair.1 ≠ .finalizeEpoch ∧
    ∀ w, Counterpart sampleBook w [pair.1] [pair.2] := by
  intro pair member
  simp only [sampleSecond, List.mem_cons, List.not_mem_nil, or_false] at member
  obtain rfl | rfl := member
  · exact ⟨by decide, fun _ => .openNextEpoch (sampleMsg (sampleAt 200))⟩
  · exact ⟨by decide, fun _ => .cutoffEpoch (sampleMsg (sampleAt 300))⟩

/-- The model at the first cutoff, after its settlement, at the second cutoff, and after one more
operation. -/
def sampleStates (last : Operation) : Except AccountingModel.Rejection (State × State × State × State) := do
  let start ← State.new AccountingModel.sampleGenesis
  let cutoff ← Run.run AccountingModel.apply start (sampleFirst.map Prod.fst)
  let settled ← AccountingModel.apply cutoff .finalizeEpoch
  let reopened ← Run.run AccountingModel.apply settled (sampleSecond.map Prod.fst)
  let final ← AccountingModel.apply reopened last
  pure (cutoff, settled, reopened, final)

/-- The contracts at the same points. -/
def sampleWorlds (last : Call) : Except Evm.Revert (World × World × World × World) := do
  let start ← sampleBound
  let cutoff ← transact sampleHashing start (sampleFirst.map Prod.snd)
  let settled ← cutoff.step sampleHashing (sampleMsg (sampleAt 100)) .finalizeEpoch
  let reopened ← transact sampleHashing settled (sampleSecond.map Prod.snd)
  let final ← reopened.step sampleHashing (sampleMsg (sampleAt 310)) last
  pure (cutoff, settled, reopened, final)

/-- The report of an empty leg, observed at the second cutoff. -/
def sampleHeader : Header where
  sourceChain := sampleIdentities.solanaChainId
  destinationChain := sampleIdentities.evmChainId
  sourceApplication := sampleIdentities.solanaApplication
  destinationApplication := sampleIdentities.evmApplication
  deploymentId := sampleIdentities.deploymentId
  vaultId := sampleIdentities.vaultId
  laneId := sampleIdentities.inboundLaneId
  sequence := sampleAt 1
  previousCommitment := .zero
  observedAt := sampleAt 300
  publishedAt := sampleAt 300
  expiresAt := sampleAt 400

def sampleReport : RemoteReportBody where
  epochId := sampleAt 1
  remotePrincipal := .zero
  reportedValue := .zero
  realizedLoss := .zero
  unattributedBalance := .zero
  latestCompletedTransferId := .zero
  probeStatus := .notRequired
  probeTimestamp := .zero
  configVersion := sampleAt 1
  remoteStateCommitment := 51

/-- Both sides settle the deposit at one share for a millionth of a millionth of an asset. -/
theorem lockstep_settlement : ∃ (s s' : State) (w w' : World) (terms : AccountingModel.EpochTerms),
    AccountingModel.Reachable s ∧ Evm.Reachable sampleHashing w ∧ Related sampleBook s w ∧
    AccountingModel.apply s .finalizeEpoch = .ok s' ∧
    w.step sampleHashing (sampleMsg (sampleAt 100)) .finalizeEpoch = .ok w' ∧
    Related sampleBook s' w' ∧
    s'.epochs[(sampleAt 0 : EpochId)]? = some (.finalized terms) ∧
    (w'.vault.settled (sampleAt 0)).mintedShares.raw = 900 * 10 ^ 12 ∧
    (w'.vault.settled (sampleAt 0)).mintedShares.raw = terms.mintedShares.raw := by
  have modelRun : (sampleStates .lockRemoteValuation).toOption.any (fun states =>
      (states.2.1.finalizedTerms (sampleAt 0)).isSome) = true := by decide +kernel
  have evmRun : (sampleWorlds .observeInbound).toOption.any (fun worlds => !worlds.1.locked &&
      decide ((worlds.2.1.vault.settled (sampleAt 0)).mintedShares.raw = 900 * 10 ^ 12)) = true := by
    decide +kernel
  obtain ⟨_, states, finalized⟩ := ok_of_any modelRun
  obtain ⟨_, worlds, checks⟩ := ok_of_any evmRun
  simp only [sampleStates, bind_eq_ok, pure_eq_ok] at states
  obtain ⟨start, created, s, first, s', settles, _, -, _, -, rfl⟩ := states
  simp only [sampleWorlds, bind_eq_ok, pure_eq_ok] at worlds
  obtain ⟨deployed, bound, w, called, w', evm, _, -, _, -, rfl⟩ := worlds
  simp only [Bool.and_eq_true, Bool.not_eq_true', decide_eq_true_eq] at checks
  obtain ⟨reachable, evmReachable, related⟩ :=
    ((sampleBound_joint created bound).many sampleFirst_plain first called).related
  obtain ⟨terms, hTerms⟩ := Option.isSome_iff_exists.mp finalized
  rw [AccountingModel.finalizedTerms_eq_some] at hTerms
  have used : LockInUse w [.finalizeEpoch] := by
    intro _ locked
    rw [checks.1] at locked
    cases locked
  obtain ⟨after, same⟩ := lockstep reachable evmReachable related
    (.finalizeEpoch (sampleMsg (sampleAt 100))) used (Run.run_one.mpr settles)
    (Run.run_one.mpr evm)
  exact ⟨s, s', w, w', terms, reachable, evmReachable, related, settles, evm, after, hTerms,
    checks.2, (same _ terms hTerms).2.2.1⟩

/-- At a cutoff the contracts fix the valuation with the report that carries it; the model's
valuation alone does not. -/
theorem valuation_locks_evm_only : ∃ (s s' : State) (w w' : World),
    AccountingModel.Reachable s ∧ Evm.Reachable sampleHashing w ∧ Related sampleBook s w ∧
    w.coordinator.lastInboundCumulativeLoss = sampleReport.realizedLoss ∧
    w.completes sampleReport = false ∧
    AccountingModel.apply s (.applyRemoteValuation sampleReport.reportedValue .zero) = .ok s' ∧
    w.step sampleHashing (sampleMsg (sampleAt 310))
      (.processRemoteReport true sampleHeader sampleReport) = .ok w' ∧
    s'.epochValuationLocked[(sampleAt 1 : EpochId)]? = none ∧
    w'.vault.epochRemoteValuationLocked (sampleAt 1) = true ∧ ¬Related sampleBook s' w' := by
  have modelRun : (sampleStates (.applyRemoteValuation sampleReport.reportedValue
      .zero)).toOption.any (fun states =>
        states.2.2.2.epochValuationLocked[(sampleAt 1 : EpochId)]?.isNone) = true := by
    decide +kernel
  have evmRun : (sampleWorlds (.processRemoteReport true sampleHeader sampleReport)).toOption.any
      (fun worlds => !worlds.1.locked && !worlds.2.2.1.completes sampleReport &&
        decide (worlds.2.2.1.coordinator.lastInboundCumulativeLoss = sampleReport.realizedLoss) &&
        worlds.2.2.2.vault.epochRemoteValuationLocked (sampleAt 1)) = true := by
    decide +kernel
  obtain ⟨_, states, unlocked⟩ := ok_of_any modelRun
  obtain ⟨_, worlds, checks⟩ := ok_of_any evmRun
  simp only [sampleStates, bind_eq_ok, pure_eq_ok] at states
  obtain ⟨start, created, cutoff, first, settled, settles, s, second, s', valued, rfl⟩ := states
  simp only [sampleWorlds, bind_eq_ok, pure_eq_ok] at worlds
  obtain ⟨deployed, bound, cutoffWorld, called, settledWorld, evm, w, reopened, w', reported, rfl⟩ :=
    worlds
  simp only [Bool.and_eq_true, Bool.not_eq_true', decide_eq_true_eq] at checks
  obtain ⟨⟨⟨unused, noCompletion⟩, sameLoss⟩, locked⟩ := checks
  have used : LockInUse cutoffWorld [.finalizeEpoch] := by
    intro _ lockedBefore
    rw [unused] at lockedBefore
    cases lockedBefore
  have settledRun := ((sampleBound_joint created bound).many sampleFirst_plain first called).step
    (.finalizeEpoch (sampleMsg (sampleAt 100))) used (Run.run_one.mpr settles)
    (Run.run_one.mpr evm)
  obtain ⟨reachable, evmReachable, related⟩ :=
    (settledRun.many sampleSecond_plain second reopened).related
  have noLock : s'.epochValuationLocked[(sampleAt 1 : EpochId)]? = none := by simpa using unlocked
  refine ⟨s, s', w, w', reachable, evmReachable, related, sameLoss, noCompletion, valued, reported,
    noLock, locked, ?_⟩
  intro after
  have locks := after.locks (sampleAt 1)
  rw [noLock] at locks
  exact absurd (locked.symm.trans locks) (by decide)

end Lockstep
