import CrossChainVault.Model.Epochs

set_option autoImplicit false

/- The remote side of the state, and the valuation an epoch locks. -/

namespace AccountingModel

open Result

/-- False for the operations that move idle assets, the remote cycle, its buckets or its
counters. -/
def Operation.keepsRemote : Operation → Bool
  | .finalizeEpoch => false
  | .beginAllocate .. | .completeAllocation .. | .beginRecall .. | .acceptRecallSent .. => false
  | .observeInbound _ | .applyRemoteValuation .. | .lockRemoteValuation => false
  | .requestClose .. | .settleClose .. | .beginRecover .. | .settleRecover .. => false
  | _ => true

/-- Idle assets, the remote buckets, the open cycle and every counter of the remote side. -/
structure Remote where
  idleBacking : AssetAmount
  outboundInTransit : AssetAmount
  acceptedRemoteValue : AssetAmount
  inboundInTransit : AssetAmount
  unattributedInbound : AssetAmount
  remotePrincipalCap : AssetAmount
  recognizedLoss : AssetAmount
  impairedTransport : AssetAmount
  cumulativeImpairment : AssetAmount
  inboundCumulativeLoss : AssetAmount
  pendingRecallId : TransferId
  pendingRecallPrincipal : AssetAmount
  activeCycle : CycleKind
  activeTransferId : TransferId
  activeAmount : AssetAmount
  closeRequested : Bool
  recallBaselineValue : AssetAmount
  recallBaselineLoss : AssetAmount
  usedTransferIds : Std.ExtTreeSet TransferId
  epochValuationLocked : OrderedMap EpochId AssetAmount

def State.remote (s : State) : Remote where
  idleBacking := s.buckets.idleBacking
  outboundInTransit := s.buckets.outboundInTransit
  acceptedRemoteValue := s.buckets.acceptedRemoteValue
  inboundInTransit := s.buckets.inboundInTransit
  unattributedInbound := s.buckets.unattributedInbound
  remotePrincipalCap := s.remotePrincipalCap
  recognizedLoss := s.recognizedLoss
  impairedTransport := s.impairedTransport
  cumulativeImpairment := s.cumulativeImpairment
  inboundCumulativeLoss := s.inboundCumulativeLoss
  pendingRecallId := s.pendingRecallId
  pendingRecallPrincipal := s.pendingRecallPrincipal
  activeCycle := s.activeCycle
  activeTransferId := s.activeTransferId
  activeAmount := s.activeAmount
  closeRequested := s.closeRequested
  recallBaselineValue := s.recallBaselineValue
  recallBaselineLoss := s.recallBaselineLoss
  usedTransferIds := s.usedTransferIds
  epochValuationLocked := s.epochValuationLocked

theorem remote_same {s s' : State} {op : Operation} (success : apply s op = .ok s')
    (keeps : op.keepsRemote = true) : s'.remote = s.remote := by
  cases op with
  | requestDeposit account assets =>
      obtain ⟨_, _, _, _, _, -, -, -, -, -, -, -, -, -, -, rfl⟩ := requestDeposit_iff.mp success
      rfl
  | cancelDeposit account =>
      obtain ⟨_, _, _, _, _, _, -, -, -, -, -, -, -, -, -, -, -, rfl⟩ := cancelDeposit_iff.mp success
      rfl
  | requestRedeem account shares =>
      obtain ⟨_, _, _, _, _, -, -, -, -, -, -, -, -, -, -, rfl⟩ := requestRedeem_iff.mp success
      rfl
  | cancelRedeem account =>
      obtain ⟨_, _, _, _, _, _, -, -, -, -, -, -, -, -, -, -, -, rfl⟩ := cancelRedeem_iff.mp success
      rfl
  | cutoffEpoch now =>
      obtain ⟨_, -, -, -, -, rfl⟩ := cutoffEpoch_ok success
      rfl
  | abortEpoch actor =>
      obtain ⟨_, _, -, -, -, -, -, rfl⟩ := abortEpoch_ok success
      rfl
  | claimDeposit account epoch =>
      obtain ⟨_, _, _, _, _, -, -, -, -, -, -, rfl⟩ := claimDeposit_iff.mp success
      rfl
  | claimRedeem account epoch =>
      obtain ⟨_, _, _, _, _, -, -, -, -, -, -, rfl⟩ := claimRedeem_iff.mp success
      rfl
  | claimAbortedDeposit account epoch =>
      obtain ⟨_, _, _, _, -, -, -, -, -, rfl⟩ := claimAbortedDeposit_iff.mp success
      rfl
  | claimAbortedRedeem account epoch =>
      obtain ⟨_, _, _, _, -, -, -, -, -, rfl⟩ := claimAbortedRedeem_iff.mp success
      rfl
  | openNextEpoch now =>
      obtain ⟨_, _, -, -, -, -, -, rfl⟩ := openNextEpoch_ok success
      rfl
  | pause actor =>
      obtain ⟨-, rfl⟩ := pause_ok success
      rfl
  | unpause actor =>
      obtain ⟨-, rfl⟩ := unpause_ok success
      rfl
  | freeze actor =>
      obtain ⟨-, rfl⟩ := freeze_ok success
      rfl
  | _ => cases keeps

/-- Idle assets, the remote buckets, the open cycle and every loss counter are as they were. -/
structure RemoteKept (s s' : State) : Prop where
  idle : s'.buckets.idleBacking = s.buckets.idleBacking
  outbound : s'.buckets.outboundInTransit = s.buckets.outboundInTransit
  accepted : s'.buckets.acceptedRemoteValue = s.buckets.acceptedRemoteValue
  inbound : s'.buckets.inboundInTransit = s.buckets.inboundInTransit
  cap : s'.remotePrincipalCap = s.remotePrincipalCap
  recognizedLoss : s'.recognizedLoss = s.recognizedLoss
  cumulativeImpairment : s'.cumulativeImpairment = s.cumulativeImpairment
  inboundLoss : s'.inboundCumulativeLoss = s.inboundCumulativeLoss
  activeCycle : s'.activeCycle = s.activeCycle
  closeRequested : s'.closeRequested = s.closeRequested
  baseline : s'.recallBaselineValue = s.recallBaselineValue
  baselineLoss : s'.recallBaselineLoss = s.recallBaselineLoss
  locked : s'.epochValuationLocked = s.epochValuationLocked

theorem remoteKept {s s' : State} {op : Operation} (success : apply s op = .ok s')
    (keeps : op.keepsRemote = true) : RemoteKept s s' := by
  have same := remote_same success keeps
  exact {
    idle := congrArg Remote.idleBacking same
    outbound := congrArg Remote.outboundInTransit same
    accepted := congrArg Remote.acceptedRemoteValue same
    inbound := congrArg Remote.inboundInTransit same
    cap := congrArg Remote.remotePrincipalCap same
    recognizedLoss := congrArg Remote.recognizedLoss same
    cumulativeImpairment := congrArg Remote.cumulativeImpairment same
    inboundLoss := congrArg Remote.inboundCumulativeLoss same
    activeCycle := congrArg Remote.activeCycle same
    closeRequested := congrArg Remote.closeRequested same
    baseline := congrArg Remote.recallBaselineValue same
    baselineLoss := congrArg Remote.recallBaselineLoss same
    locked := congrArg Remote.epochValuationLocked same }

/-- Only an allocation is ever closing, and during a recall the accepted value is the value the
recall began with, less the loss reported since. -/
structure RecallInv (s : State) : Prop where
  closing : s.closeRequested = true → s.activeCycle = .allocate
  valued : s.activeCycle = .recall → s.buckets.acceptedRemoteValue.raw =
    min (valueDuringRecall s s.inboundCumulativeLoss).raw s.remotePrincipalCap.raw

theorem RecallInv.baseline {s : State} (inv : RecallInv s) (recalling : s.activeCycle = .recall) :
    s.buckets.acceptedRemoteValue.raw ≤ s.recallBaselineValue.raw := by
  have valued := inv.valued recalling
  simp only [valueDuringRecall, Unsigned.saturatingSub_raw] at valued
  omega

/-- Outside a recall nothing is said about the accepted value. -/
theorem RecallInv.elsewhere {s : State} (closing : s.closeRequested = true → s.activeCycle = .allocate)
    (cycle : s.activeCycle ≠ .recall) : RecallInv s :=
  ⟨closing, fun recalling => absurd recalling cycle⟩

theorem RecallInv.new {genesis : Genesis} {s : State} (success : State.new genesis = .ok s) :
    RecallInv s := by
  obtain ⟨_, _, _, _, _, -, -, -, -, rfl⟩ := State.new_ok success
  exact .elsewhere (fun impossible => by cases impossible) (by simp [State.atGenesis])

theorem RecallInv.step {s s' : State} {op : Operation} (success : apply s op = .ok s')
    (assets : AssetInv s) (inv : RecallInv s) : RecallInv s' := by
  -- A cycle begins only where none is open, so nothing is closing then.
  have running (idle : s.activeCycle = .none) : s.closeRequested = false := by
    by_contra closing
    have := inv.closing (by simpa using closing)
    rw [idle] at this
    cases this
  cases op with
  | finalizeEpoch =>
      obtain ⟨_, _, _, _, _, _, _, _, _, _, _, -, -, -, -, -, -, -, -, -, -, -, -, -, -, rfl⟩ :=
        finalizeEpoch_ok success
      exact ⟨inv.closing, inv.valued⟩
  | beginAllocate actor transferId amount =>
      obtain ⟨_, _, _, -, -, -, -, -, -, -, -, -, -, rfl⟩ := beginAllocate_ok success
      exact .elsewhere (fun _ => rfl) (by simp)
  | completeAllocation transferId reported =>
      obtain ⟨-, rfl⟩ | ⟨_, _, -, -, -, -, -, rfl⟩ := completeAllocation_ok success
      · exact inv
      · exact .elsewhere (fun impossible => by cases impossible) (by simp [clearCycle])
  | beginRecall actor transferId amount =>
      obtain ⟨-, idle, -, -, -, -, rfl⟩ := beginRecall_ok success
      have accepted := assets.accepted
      constructor
      · intro closing
        have : s.closeRequested = true := closing
        rw [running idle] at this
        cases this
      · intro _
        simp only [valueDuringRecall, Unsigned.saturatingSub_raw]
        omega
  | acceptRecallSent transferId principal actual loss =>
      obtain ⟨_, _, _, _, _, _, _, -, -, -, -, -, -, -, -, -, -, -, rfl⟩ :=
        acceptRecallSent_iff.mp success
      exact .elsewhere (fun impossible => by cases impossible) (by simp [clearCycle])
  | observeInbound amount =>
      obtain ⟨_, _, _, _, _, -, -, -, -, -, -, rfl⟩ := observeInbound_iff.mp success
      exact ⟨inv.closing, inv.valued⟩
  | applyRemoteValuation reported loss =>
      obtain ⟨_, -, ⟨closing, rfl⟩ | ⟨-, rfl⟩⟩ := applyRemoteValuation_ok success
      · exact .elsewhere inv.closing (by simp [inv.closing closing])
      · refine ⟨inv.closing, ?_⟩
        intro recalling
        have cycle : s.activeCycle = .recall := recalling
        simp only [lesser_raw, reportedOrRecallValue, if_pos cycle, valueDuringRecall]
  | lockRemoteValuation =>
      obtain ⟨-, rfl⟩ | ⟨_, -, -, -, -, rfl⟩ := lockRemoteValuation_ok success
      · exact inv
      · exact ⟨inv.closing, inv.valued⟩
  | requestClose actor transferId =>
      obtain ⟨-, allocating, -, -, rfl⟩ := requestClose_ok success
      exact .elsewhere (fun _ => allocating) (by simp [allocating])
  | settleClose transferId credited =>
      obtain ⟨_, _, _, _, _, -, -, -, -, -, -, -, -, -, rfl⟩ := settleClose_ok success
      exact .elsewhere (fun impossible => by cases impossible) (by simp [clearCycle])
  | beginRecover actor transferId =>
      obtain ⟨-, idle, -, -, -, rfl⟩ := beginRecover_ok success
      refine .elsewhere ?_ (by simp)
      intro closing
      have : s.closeRequested = true := closing
      rw [running idle] at this
      cases this
  | settleRecover transferId credited =>
      obtain ⟨_, _, _, -, -, -, -, -, rfl⟩ := settleRecover_ok success
      exact .elsewhere (fun impossible => by cases impossible) (by simp [clearCycle])
  | _ =>
      have kept := remoteKept success rfl
      constructor
      · rw [kept.closeRequested, kept.activeCycle]
        exact inv.closing
      · unfold valueDuringRecall
        rw [kept.activeCycle, kept.accepted, kept.baseline, kept.baselineLoss, kept.inboundLoss,
          kept.cap]
        exact inv.valued

theorem Reachable.recallInv {s : State} (reachable : Reachable s) : RecallInv s := by
  refine (reachable.induct (fun s => AssetInv s ∧ RecallInv s) ?_ ?_).2
  · intro genesis start created
    exact ⟨AssetInv.new created, RecallInv.new created⟩
  · intro s op s' success inv
    exact ⟨inv.1.step success, inv.2.step success inv.1⟩

/-- What one operation can do to the locked valuations. -/
inductive LockChange (s s' : State) : Prop
  | same (locks : s'.epochValuationLocked = s.epochValuationLocked)
  | locked (epoch : Epoch) (found : s.epoch = some epoch) (phase : epoch.phase = .cutOff)
      (unlocked : s.epochValuationLocked[epoch.id]? = none)
      (now : s' = { s with
        epochValuationLocked := s.epochValuationLocked.insert epoch.id s.managedBacking })

theorem lockChange {s s' : State} {op : Operation} (success : apply s op = .ok s') :
    LockChange s s' := by
  cases op with
  | finalizeEpoch =>
      obtain ⟨_, _, _, _, _, _, _, _, _, _, _, -, -, -, -, -, -, -, -, -, -, -, -, -, -, rfl⟩ :=
        finalizeEpoch_ok success
      exact .same rfl
  | beginAllocate actor transferId amount =>
      obtain ⟨_, _, _, -, -, -, -, -, -, -, -, -, -, rfl⟩ := beginAllocate_ok success
      exact .same rfl
  | completeAllocation transferId reported =>
      obtain ⟨-, rfl⟩ | ⟨_, _, -, -, -, -, -, rfl⟩ := completeAllocation_ok success
      · exact .same rfl
      · exact .same rfl
  | beginRecall actor transferId amount =>
      obtain ⟨-, -, -, -, -, -, rfl⟩ := beginRecall_ok success
      exact .same rfl
  | acceptRecallSent transferId principal actual loss =>
      obtain ⟨_, _, _, _, _, _, _, -, -, -, -, -, -, -, -, -, -, -, rfl⟩ :=
        acceptRecallSent_iff.mp success
      exact .same rfl
  | observeInbound amount =>
      obtain ⟨_, _, _, _, _, -, -, -, -, -, -, rfl⟩ := observeInbound_iff.mp success
      exact .same rfl
  | applyRemoteValuation reported loss =>
      obtain ⟨_, -, ⟨-, rfl⟩ | ⟨-, rfl⟩⟩ := applyRemoteValuation_ok success
      · exact .same rfl
      · exact .same rfl
  | lockRemoteValuation =>
      obtain ⟨-, rfl⟩ | ⟨epoch, -, found, phase, unlocked, now⟩ := lockRemoteValuation_ok success
      · exact .same rfl
      · exact .locked epoch found phase unlocked now
  | requestClose actor transferId =>
      obtain ⟨-, -, -, -, rfl⟩ := requestClose_ok success
      exact .same rfl
  | settleClose transferId credited =>
      obtain ⟨_, _, _, _, _, -, -, -, -, -, -, -, -, -, rfl⟩ := settleClose_ok success
      exact .same rfl
  | beginRecover actor transferId =>
      obtain ⟨-, -, -, -, -, rfl⟩ := beginRecover_ok success
      exact .same rfl
  | settleRecover transferId credited =>
      obtain ⟨_, _, _, -, -, -, -, -, rfl⟩ := settleRecover_ok success
      exact .same rfl
  | _ => exact .same (remoteKept success rfl).locked

/-- A locked valuation is never rewritten. -/
theorem lock_stable {s s' : State} {op : Operation} (success : apply s op = .ok s')
    {id : EpochId} {value : AssetAmount} (locked : s.epochValuationLocked[id]? = some value) :
    s'.epochValuationLocked[id]? = some value := by
  cases lockChange success with
  | same locks => rwa [locks]
  | locked epoch found phase unlocked now =>
      rw [now, OrderedMap.getElem?_insert, if_neg, locked]
      rintro rfl
      simp [unlocked] at locked

theorem lock_stable_run {s t : State} {operations : List Operation}
    (finished : Run.run apply s operations = .ok t) {id : EpochId} {value : AssetAmount}
    (locked : s.epochValuationLocked[id]? = some value) :
    t.epochValuationLocked[id]? = some value :=
  Run.run_preserves (fun s => s.epochValuationLocked[id]? = some value)
    (fun _ _ _ success earlier => lock_stable success earlier) operations s finished locked

theorem State.hasRemoteExposure_eq_false {s : State} (unexposed : s.hasRemoteExposure = false) :
    s.buckets.outboundInTransit.raw = 0 ∧ s.buckets.acceptedRemoteValue.raw = 0 ∧
      s.buckets.inboundInTransit.raw = 0 := by
  simp only [State.hasRemoteExposure, Bool.or_eq_false_iff, Bool.not_eq_false',
    Unsigned.isZero_iff] at unexposed
  exact ⟨unexposed.1.1.1.1, unexposed.1.1.1.2, unexposed.1.1.2⟩

/-- With nothing remote the live price rests on idle assets alone. -/
theorem State.managedNav_of_unexposed {s : State} (inv : AssetInv s)
    (unexposed : s.hasRemoteExposure = false) : s.managedNav = s.buckets.idleBacking := by
  obtain ⟨outbound, accepted, inbound⟩ := State.hasRemoteExposure_eq_false unexposed
  have total := inv.managedBacking_raw
  refine Unsigned.ext ?_
  unfold State.backing at total
  unfold State.managedNav
  omega

/-- Outside a close, a lock records the live value for the current epoch. -/
theorem lock_records {s locked : State} {epoch : Epoch} (running : s.closeRequested = false)
    (found : s.epoch = some epoch) (lock : apply s .lockRemoteValuation = .ok locked) :
    locked.epochValuationLocked[epoch.id]? = some s.managedBacking := by
  obtain ⟨closing, -⟩ | ⟨_, -, now, -, -, rfl⟩ := lockRemoteValuation_ok lock
  · simp [running] at closing
  · rw [found] at now
    cases now
    exact OrderedMap.getElem?_insert_same _ _ _

/-- When the locked price of an epoch is the price it settles at: exactly when something is still
remote at the settlement, or the idle assets alone happen to equal the locked value. -/
theorem locked_price_final_iff {s locked t t' : State} {epoch : Epoch}
    {operations : List Operation} (reachable : Reachable s) (running : s.closeRequested = false)
    (found : s.epoch = some epoch) (lock : apply s .lockRemoteValuation = .ok locked)
    (finished : Run.run apply locked operations = .ok t)
    (still : t.epoch.map Epoch.id = some epoch.id)
    (settle : apply t .finalizeEpoch = .ok t') :
    ∃ terms, t'.epochs[epoch.id]? = some (.finalized terms) ∧
      (terms.totalAssets = s.managedBacking ↔
        t.hasRemoteExposure = true ∨ t.buckets.idleBacking = s.managedBacking) := by
  have kept := lock_stable_run finished (lock_records running found lock)
  have inv := ((reachable.step lock).run finished).assetInv
  obtain ⟨settling, terms, owed, _, _, _, _, _, _, _, _, -, open_, -, -, settled, -, -, -, -, -, -, -,
    -, -, rfl⟩ := finalizeEpoch_ok settle
  rw [open_] at still
  have same : settling.id = epoch.id := Option.some.inj still
  refine ⟨terms, ?_, ?_⟩
  · dsimp only
    rw [same, OrderedMap.getElem?_insert_same]
  · obtain ⟨-, ⟨exposed, price⟩ | ⟨unexposed, price⟩⟩ := settlementBasis_ok settled.basis
    · have atLock : terms.totalAssets = s.managedBacking := by
        rw [same, kept] at price
        exact (Option.some.inj price).symm
      exact ⟨fun _ => .inl exposed, fun _ => atLock⟩
    · have live : terms.totalAssets = t.buckets.idleBacking :=
        price.trans (State.managedNav_of_unexposed inv unexposed)
      rw [live, unexposed]
      simp

/-- Locks the current epoch, runs the operations and settles: the state before the settlement and
the one after. -/
def settleAfterLock (s : State) (operations : List Operation) : Except Rejection (State × State) := do
  let locked ← apply s .lockRemoteValuation
  let t ← Run.run apply locked operations
  let t' ← apply t .finalizeEpoch
  pure (t, t')

/-- An allocation is in transit when its epoch is cut off. -/
def sampleCutoff : List Operation := sampleAllocation ++ [.cutoffEpoch 300]

def sampleEpoch : EpochId := 1

/-- The locked epoch settles while the allocation is still in transit. -/
theorem locked_price_final_in_transit : ∃ (s t' : State) (terms : EpochTerms), Reachable s ∧
    s.managedBacking.raw = 900 ∧ t'.epochs[sampleEpoch]? = some (.finalized terms) ∧
    terms.totalAssets = s.managedBacking := by
  obtain ⟨s, reachable, running, current, price, passes⟩ := exists_reachable
    (fun s => s.closeRequested = false ∧ s.epoch.map Epoch.id = some sampleEpoch ∧
      s.managedBacking.raw = 900 ∧
      (settleAfterLock s []).toOption.any (fun run =>
        run.1.epoch.map Epoch.id = some sampleEpoch && run.1.hasRemoteExposure) = true)
    sampleGenesis sampleCutoff (by decide +kernel)
  obtain ⟨epoch, found, here⟩ := Option.map_eq_some_iff.mp current
  obtain ⟨⟨t, t'⟩, settled, holds⟩ := ok_of_any passes
  simp only [settleAfterLock, bind_eq_ok, pure_eq_ok, Prod.mk.injEq] at settled
  obtain ⟨locked, lock, _, finished, _, settle, rfl, rfl⟩ := settled
  rw [Bool.and_eq_true, decide_eq_true_eq] at holds
  obtain ⟨terms, recorded, exact_⟩ := locked_price_final_iff reachable running found lock finished
    (here ▸ holds.1) settle
  exact ⟨s, _, terms, reachable, price, here ▸ recorded, exact_.mpr (.inl holds.2)⟩

/-- The epoch is recorded as settled at another value. -/
def settledOtherwise (s : State) (value : AssetAmount) : Bool :=
  match s.epochs[sampleEpoch]? with
  | some (.finalized terms) => terms.totalAssets ≠ value
  | _ => false

/-- A close that credits nothing removes the last exposure, and the epoch settles at the live
value although its price was locked. -/
theorem locked_price_replaced : ∃ (s locked t t' : State) (epoch : Epoch) (terms : EpochTerms)
    (operations : List Operation), Reachable s ∧ s.closeRequested = false ∧
    s.epoch = some epoch ∧ apply s .lockRemoteValuation = .ok locked ∧
    locked.epochValuationLocked[epoch.id]? = some s.managedBacking ∧
    Run.run apply locked operations = .ok t ∧ t.epoch.map Epoch.id = some epoch.id ∧
    apply t .finalizeEpoch = .ok t' ∧ t'.epochs[epoch.id]? = some (.finalized terms) ∧
    terms.totalAssets ≠ s.managedBacking := by
  obtain ⟨s, reachable, running, current, passes⟩ := exists_reachable
    (fun s => s.closeRequested = false ∧ s.epoch.map Epoch.id = some sampleEpoch ∧
      (settleAfterLock s [.requestClose sampleAdmin sampleTransfer,
        .settleClose sampleTransfer .zero]).toOption.any (fun (run : State × State) =>
          run.1.epoch.map Epoch.id = some sampleEpoch &&
          settledOtherwise run.2 s.managedBacking) = true)
    sampleGenesis sampleCutoff (by decide +kernel)
  obtain ⟨epoch, found, here⟩ := Option.map_eq_some_iff.mp current
  obtain ⟨⟨t, t'⟩, settled, holds⟩ := ok_of_any passes
  simp only [settleAfterLock, bind_eq_ok, pure_eq_ok, Prod.mk.injEq] at settled
  obtain ⟨locked, lock, _, finished, _, settle, rfl, rfl⟩ := settled
  simp only [Bool.and_eq_true, decide_eq_true_eq] at holds
  obtain ⟨still, differs⟩ := holds
  unfold settledOtherwise at differs
  split at differs
  · rename_i terms recorded
    exact ⟨s, locked, _, _, epoch, terms, _, reachable, running, found, lock,
      lock_records running found lock, finished, here ▸ still, settle, here ▸ recorded,
      of_decide_eq_true differs⟩
  · cases differs

end AccountingModel
