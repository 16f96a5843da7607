import CrossChainVault.Model.Cycle

set_option autoImplicit false

/- What each operation does to the assets behind the share price. -/

namespace AccountingModel

open Result

section Frame

variable {s s' : State} {op : Operation}

/-- The terms the current epoch was finalized with. -/
def settledTerms (s s' : State) : Option EpochTerms :=
  s.epoch.bind fun epoch => s'.finalizedTerms epoch.id

/-- By how much the operation moves the net asset value, between its two states. -/
def Operation.navChange (s s' : State) : Operation → Int
  | .finalizeEpoch => (settledTerms s s').elim 0 fun terms =>
      (terms.depositAssets.raw : Int) - terms.redeemAssets.raw
  | .settleClose _ credited => -((s.activeAmount.raw : Int) - credited.raw)
  | .settleRecover _ credited => credited.raw
  | .applyRemoteValuation .. =>
      (s'.buckets.acceptedRemoteValue.raw : Int) - s.buckets.acceptedRemoteValue.raw
  | .completeAllocation .. =>
      if s.closeRequested then 0
      else (s'.buckets.acceptedRemoteValue.raw : Int) - s.buckets.acceptedRemoteValue.raw -
        s.activeAmount.raw
  | _ => 0

/-- The operation settles a recall, whose effect depends on everything since it began. -/
def Operation.isRecallSent : Operation → Bool
  | .acceptRecallSent .. => true
  | _ => false

theorem finalizeEpoch_backing (success : finalizeEpoch s = .ok s') :
    ∃ terms, settledTerms s s' = some terms ∧
      s'.backing + terms.redeemAssets.raw = s.backing + terms.depositAssets.raw := by
  obtain ⟨epoch, terms, _, _, _, _, _, _, _, _, _, -, found, -, -, settled, hIdle, -, -, -, -, -, -,
    -, -, rfl⟩ := finalizeEpoch_ok success
  refine ⟨terms, ?_, ?_⟩
  · simp [settledTerms, found, State.finalizedTerms]
  · simp only [State.backing, settled.depositAssets]
    omega

/-- The frame over the unbounded sum. -/
theorem backing_change (success : apply s op = .ok s') (other : op.isRecallSent = false) :
    (s'.backing : Int) = s.backing + op.navChange s s' := by
  cases op with
  | acceptRecallSent => cases other
  | finalizeEpoch =>
      obtain ⟨terms, hTerms, moved⟩ := finalizeEpoch_backing success
      simp only [Operation.navChange, hTerms, Option.elim_some]
      omega
  | beginAllocate actor transferId amount =>
      obtain ⟨_, _, _, -, -, -, -, -, -, -, -, hIdle, hOutbound, rfl⟩ := beginAllocate_ok success
      simp only [State.backing, Operation.navChange]
      omega
  | completeAllocation transferId reported =>
      obtain ⟨closing, rfl⟩ | ⟨_, _, running, -, -, hOutbound, -, rfl⟩ :=
        completeAllocation_ok success
      · simp [Operation.navChange, closing]
      · simp only [State.backing, Operation.navChange, clearCycle, running, Bool.false_eq_true,
          if_false]
        omega
  | beginRecall actor transferId amount =>
      obtain ⟨-, -, -, -, -, -, rfl⟩ := beginRecall_ok success
      exact (Int.add_zero _).symm
  | observeInbound amount =>
      obtain ⟨_, _, _, _, _, -, hInbound, hIdle, -, -, -, rfl⟩ := observeInbound_iff.mp success
      simp only [State.backing, Operation.navChange]
      omega
  | applyRemoteValuation reported loss =>
      obtain ⟨_, -, ⟨-, rfl⟩ | ⟨-, rfl⟩⟩ := applyRemoteValuation_ok success
      · simp only [State.backing, Operation.navChange]
        omega
      · simp only [State.backing, Operation.navChange]
        omega
  | lockRemoteValuation =>
      obtain ⟨-, rfl⟩ | ⟨_, -, -, -, -, rfl⟩ := lockRemoteValuation_ok success
      · exact (Int.add_zero _).symm
      · exact (Int.add_zero _).symm
  | requestClose actor transferId =>
      obtain ⟨-, -, -, -, rfl⟩ := requestClose_ok success
      exact (Int.add_zero _).symm
  | settleClose transferId credited =>
      obtain ⟨_, _, _, _, _, -, -, -, -, hOutbound, -, hAccepted, -, -, rfl⟩ :=
        settleClose_ok success
      simp only [State.backing, Operation.navChange, clearCycle]
      omega
  | beginRecover actor transferId =>
      obtain ⟨-, -, -, -, -, rfl⟩ := beginRecover_ok success
      exact (Int.add_zero _).symm
  | settleRecover transferId credited =>
      obtain ⟨_, _, _, -, -, -, -, hAccepted, rfl⟩ := settleRecover_ok success
      simp only [State.backing, Operation.navChange, clearCycle]
      omega
  | _ =>
      have kept := remoteKept success rfl
      simp only [State.backing, kept.idle, kept.outbound, kept.accepted, kept.inbound,
        Operation.navChange, Int.add_zero]

/-- The operation is the only kind that recognizes a loss, or one of the two that move the pooled
impairment. -/
theorem counters_change (success : apply s op = .ok s') :
    (op.isRecallSent = false → s'.recognizedLoss = s.recognizedLoss) ∧
    ((∀ transferId credited, op ≠ .settleClose transferId credited ∧
      op ≠ .settleRecover transferId credited) → s'.impairedTransport = s.impairedTransport) := by
  cases op with
  | acceptRecallSent transferId principal actual loss =>
      obtain ⟨_, _, _, _, _, _, _, -, -, -, -, -, -, -, -, -, -, -, rfl⟩ :=
        acceptRecallSent_iff.mp success
      exact ⟨nofun, fun _ => rfl⟩
  | finalizeEpoch =>
      obtain ⟨_, _, _, _, _, _, _, _, _, _, _, -, -, -, -, -, -, -, -, -, -, -, -, -, -, rfl⟩ :=
        finalizeEpoch_ok success
      exact ⟨fun _ => rfl, fun _ => rfl⟩
  | beginAllocate actor transferId amount =>
      obtain ⟨_, _, _, -, -, -, -, -, -, -, -, -, -, rfl⟩ := beginAllocate_ok success
      exact ⟨fun _ => rfl, fun _ => rfl⟩
  | completeAllocation transferId reported =>
      obtain ⟨-, rfl⟩ | ⟨_, _, -, -, -, -, -, rfl⟩ := completeAllocation_ok success
      · exact ⟨fun _ => rfl, fun _ => rfl⟩
      · exact ⟨fun _ => rfl, fun _ => rfl⟩
  | beginRecall actor transferId amount =>
      obtain ⟨-, -, -, -, -, -, rfl⟩ := beginRecall_ok success
      exact ⟨fun _ => rfl, fun _ => rfl⟩
  | observeInbound amount =>
      obtain ⟨_, _, _, _, _, -, -, -, -, -, -, rfl⟩ := observeInbound_iff.mp success
      exact ⟨fun _ => rfl, fun _ => rfl⟩
  | applyRemoteValuation reported loss =>
      obtain ⟨_, -, ⟨-, rfl⟩ | ⟨-, rfl⟩⟩ := applyRemoteValuation_ok success
      · exact ⟨fun _ => rfl, fun _ => rfl⟩
      · exact ⟨fun _ => rfl, fun _ => rfl⟩
  | lockRemoteValuation =>
      obtain ⟨-, rfl⟩ | ⟨_, -, -, -, -, rfl⟩ := lockRemoteValuation_ok success
      · exact ⟨fun _ => rfl, fun _ => rfl⟩
      · exact ⟨fun _ => rfl, fun _ => rfl⟩
  | requestClose actor transferId =>
      obtain ⟨-, -, -, -, rfl⟩ := requestClose_ok success
      exact ⟨fun _ => rfl, fun _ => rfl⟩
  | settleClose transferId credited =>
      obtain ⟨_, _, _, _, _, -, -, -, -, -, -, -, -, -, rfl⟩ := settleClose_ok success
      exact ⟨fun _ => rfl, fun elsewhere => absurd rfl (elsewhere transferId credited).1⟩
  | beginRecover actor transferId =>
      obtain ⟨-, -, -, -, -, rfl⟩ := beginRecover_ok success
      exact ⟨fun _ => rfl, fun _ => rfl⟩
  | settleRecover transferId credited =>
      obtain ⟨_, _, _, -, -, -, -, -, rfl⟩ := settleRecover_ok success
      exact ⟨fun _ => rfl, fun elsewhere => absurd rfl (elsewhere transferId credited).2⟩
  | _ =>
      have same := remote_same success rfl
      exact ⟨fun _ => congrArg Remote.recognizedLoss same,
        fun _ => congrArg Remote.impairedTransport same⟩

/-- The report kinds that a pending close skips. -/
def Operation.isReport : Operation → Bool
  | .completeAllocation .. | .applyRemoteValuation .. | .lockRemoteValuation => true
  | _ => false

theorem closing_skips (success : apply s op = .ok s') (report : op.isReport = true)
    (closing : s.closeRequested = true) :
    s'.buckets = s.buckets ∧ s'.remotePrincipalCap = s.remotePrincipalCap ∧
      s'.epochValuationLocked = s.epochValuationLocked := by
  cases op with
  | completeAllocation transferId reported =>
      obtain ⟨-, rfl⟩ | ⟨_, _, running, -⟩ := completeAllocation_ok success
      · exact ⟨rfl, rfl, rfl⟩
      · cases running.symm.trans closing
  | applyRemoteValuation reported loss =>
      obtain ⟨_, -, ⟨-, rfl⟩ | ⟨running, -⟩⟩ := applyRemoteValuation_ok success
      · exact ⟨rfl, rfl, rfl⟩
      · cases running.symm.trans closing
  | lockRemoteValuation =>
      obtain ⟨-, rfl⟩ | ⟨_, running, -⟩ := lockRemoteValuation_ok success
      · exact ⟨rfl, rfl, rfl⟩
      · cases running.symm.trans closing
  | _ => cases report

end Frame

/-- The exact change of the net asset value by every operation other than a recall notice, the only
operations that move the loss and the impairment, and what a pending close holds still. -/
theorem nav_frame {s s' : State} {op : Operation} (reachable : Reachable s)
    (success : apply s op = .ok s') :
    (op.isRecallSent = false →
      (s'.managedNav.raw : Int) = s.managedNav.raw + op.navChange s s') ∧
    (op = .finalizeEpoch → (settledTerms s s').isSome = true) ∧
    (op.isRecallSent = false → s'.recognizedLoss = s.recognizedLoss) ∧
    ((∀ transferId credited, op ≠ .settleClose transferId credited ∧
      op ≠ .settleRecover transferId credited) → s'.impairedTransport = s.impairedTransport) ∧
    (s.closeRequested = true → op.isReport = true →
      s'.buckets = s.buckets ∧ s'.remotePrincipalCap = s.remotePrincipalCap ∧
        s'.epochValuationLocked = s.epochValuationLocked) := by
  have before : s.managedNav.raw = s.backing := reachable.assetInv.managedBacking_raw
  have after : s'.managedNav.raw = s'.backing :=
    (reachable.step success).assetInv.managedBacking_raw
  obtain ⟨recognized, impaired⟩ := counters_change success
  refine ⟨?_, ?_, recognized, impaired, fun closing report => closing_skips success report closing⟩
  · intro other
    rw [before, after]
    exact backing_change success other
  · rintro rfl
    obtain ⟨terms, hTerms, -⟩ := finalizeEpoch_backing success
    rw [hTerms]
    rfl

theorem nav_frame_completion : ∃ s s', Reachable s ∧
    apply s (.completeAllocation sampleTransfer 390) = .ok s' ∧
    s.managedNav.raw = 900 ∧ (s'.managedNav.raw : Int) = 900 + -10 := by
  obtain ⟨s, reachable, value, accepted⟩ := exists_reachable
    (fun s => s.managedNav.raw = 900 ∧
      (apply s (.completeAllocation sampleTransfer 390)).toOption.any (fun s' =>
        decide (Operation.navChange s s' (.completeAllocation sampleTransfer 390) =
          -10)) = true)
    sampleGenesis sampleAllocation (by decide +kernel)
  obtain ⟨s', success, change⟩ := ok_of_any accepted
  have moved := (nav_frame reachable success).1 rfl
  rw [value, of_decide_eq_true change] at moved
  exact ⟨s, s', reachable, success, value, moved⟩

/- A recall from its opening to its notice. -/

/-- The recall of this transfer is open since `s`, and besides the accepted value nothing behind the
price has moved. -/
structure Unwinding (s : State) (id : TransferId) (r : State) : Prop where
  cycle : r.activeCycle = .recall
  active : r.activeTransferId = id
  used : id ∈ r.usedTransferIds
  running : r.closeRequested = false
  baseline : r.recallBaselineValue = s.buckets.acceptedRemoteValue
  cap : r.remotePrincipalCap = s.remotePrincipalCap
  rest : r.buckets.idleBacking.raw + r.buckets.outboundInTransit.raw +
      r.buckets.inboundInTransit.raw =
    s.buckets.idleBacking.raw + s.buckets.outboundInTransit.raw + s.buckets.inboundInTransit.raw

/-- The transfer's cycle is over, and its id can never open another. -/
structure Over (id : TransferId) (r : State) : Prop where
  used : id ∈ r.usedTransferIds
  elsewhere : r.activeCycle ≠ .none → r.activeTransferId ≠ id

section Recall

variable {s r r' : State} {op : Operation} {id : TransferId}

theorem Over.step (ended : Over id r) (success : apply r op = .ok r') : Over id r' := by
  cases slotChange success with
  | opened other _ _ _ fresh _ active used =>
      refine ⟨by simp [used, ended.used], fun _ => ?_⟩
      rintro rfl
      exact fresh (active ▸ ended.used)
  | ended _ _ _ _ _ free used =>
      exact ⟨used ▸ ended.used, fun busy => absurd free busy⟩
  | same _ _ cycle active used =>
      refine ⟨used ▸ ended.used, ?_⟩
      rw [cycle, active]
      exact ended.elsewhere

theorem Unwinding.step (unwinding : Unwinding s id r) (success : apply r op = .ok r')
    (between : op ≠ .finalizeEpoch) : Unwinding s id r' ∨ Over id r' := by
  obtain ⟨cycle, active, used, running, baseline, cap, rest⟩ := unwinding
  cases op with
  | finalizeEpoch => exact absurd rfl between
  | beginAllocate actor transferId amount =>
      obtain ⟨_, _, _, -, -, -, -, idle, -⟩ := beginAllocate_ok success
      cases cycle.symm.trans idle
  | completeAllocation transferId reported =>
      obtain ⟨-, rfl⟩ | ⟨_, _, -, allocating, -⟩ := completeAllocation_ok success
      · exact .inl ⟨cycle, active, used, running, baseline, cap, rest⟩
      · cases cycle.symm.trans allocating
  | beginRecall actor transferId amount =>
      obtain ⟨-, idle, -⟩ := beginRecall_ok success
      cases cycle.symm.trans idle
  | acceptRecallSent transferId principal actual loss =>
      obtain ⟨_, _, _, _, _, _, _, -, -, -, -, -, -, -, -, -, -, -, rfl⟩ :=
        acceptRecallSent_iff.mp success
      exact .inr ⟨used, fun busy => absurd rfl busy⟩
  | observeInbound amount =>
      obtain ⟨_, _, _, _, _, -, hInbound, hIdle, -, -, -, rfl⟩ := observeInbound_iff.mp success
      refine .inl ⟨cycle, active, used, running, baseline, cap, ?_⟩
      dsimp only
      omega
  | applyRemoteValuation reported loss =>
      obtain ⟨_, -, ⟨-, rfl⟩ | ⟨-, rfl⟩⟩ := applyRemoteValuation_ok success
      · exact .inl ⟨cycle, active, used, running, baseline, cap, rest⟩
      · exact .inl ⟨cycle, active, used, running, baseline, cap, rest⟩
  | lockRemoteValuation =>
      obtain ⟨-, rfl⟩ | ⟨_, -, -, -, -, rfl⟩ := lockRemoteValuation_ok success
      · exact .inl ⟨cycle, active, used, running, baseline, cap, rest⟩
      · exact .inl ⟨cycle, active, used, running, baseline, cap, rest⟩
  | requestClose actor transferId =>
      obtain ⟨-, allocating, -⟩ := requestClose_ok success
      cases cycle.symm.trans allocating
  | settleClose transferId credited =>
      obtain ⟨_, _, _, _, _, -, allocating, -⟩ := settleClose_ok success
      cases cycle.symm.trans allocating
  | beginRecover actor transferId =>
      obtain ⟨-, idle, -⟩ := beginRecover_ok success
      cases cycle.symm.trans idle
  | settleRecover transferId credited =>
      obtain ⟨_, _, _, -, recovering, -⟩ := settleRecover_ok success
      cases cycle.symm.trans recovering
  | _ =>
      have same := remote_same success rfl
      have kept := remoteKept success rfl
      refine .inl ⟨kept.activeCycle.trans cycle,
        (congrArg Remote.activeTransferId same).trans active, ?_, kept.closeRequested.trans running,
        kept.baseline.trans baseline, kept.cap.trans cap, ?_⟩
      · have ids : r'.usedTransferIds = r.usedTransferIds := congrArg Remote.usedTransferIds same
        rw [ids]
        exact used
      · rw [kept.idle, kept.outbound, kept.inbound]
        exact rest

/-- Until the notice the recall is either still open or over for good. -/
theorem Unwinding.run {operations : List Operation} :
    ∀ {r : State}, Unwinding s id r ∨ Over id r → (∀ op ∈ operations, op ≠ .finalizeEpoch) →
      Run.run apply r operations = .ok r' → Unwinding s id r' ∨ Over id r' := by
  induction operations with
  | nil =>
      intro r stands _ finished
      rwa [← Run.run_nil.mp finished]
  | cons op operations ih =>
      intro r stands between finished
      obtain ⟨middle, first, rest⟩ := Run.run_cons.mp finished
      obtain ⟨here, later⟩ := List.forall_mem_cons.mp between
      refine ih ?_ later rest
      rcases stands with unwinding | ended
      · exact unwinding.step first here
      · exact .inr (ended.step first)

end Recall

/-- However reports and arrivals interleave, a recall moves the net asset value by what returned
less the value its principal was carried at. -/
theorem recall_counted_once {s began t t' : State} {actor : AccountId} {transferId : TransferId}
    {amount principal actual loss : AssetAmount} {operations : List Operation}
    (reachable : Reachable s)
    (begins : apply s (.beginRecall actor transferId amount) = .ok began)
    (between : ∀ op ∈ operations, op ≠ .finalizeEpoch)
    (runs : Run.run apply began operations = .ok t)
    (returns : apply t (.acceptRecallSent transferId principal actual loss) = .ok t') :
    t'.managedNav.raw + min s.buckets.acceptedRemoteValue.raw principal.raw =
      s.managedNav.raw + actual.raw ∧
    (principal.raw ≤ s.buckets.acceptedRemoteValue.raw →
      t'.managedNav.raw + loss.raw = s.managedNav.raw) := by
  have start : s.managedNav.raw = s.backing := reachable.assetInv.managedBacking_raw
  have finish : t'.managedNav.raw = t'.backing :=
    (((reachable.step begins).run runs).step returns).assetInv.managedBacking_raw
  have accepted := reachable.assetInv.accepted
  have running := reachable.coherent.running
  obtain ⟨-, idle, -, -, -, -, rfl⟩ := beginRecall_ok begins
  have opened : Unwinding s transferId { s with
      recallBaselineValue := s.buckets.acceptedRemoteValue
      recallBaselineLoss := s.inboundCumulativeLoss
      pendingRecallId := transferId
      pendingRecallPrincipal := amount
      usedTransferIds := s.usedTransferIds.insert transferId
      activeCycle := .recall
      activeTransferId := transferId
      activeAmount := amount } :=
    ⟨rfl, rfl, Std.ExtTreeSet.mem_insert_self, running (by simp [State.remote, idle]), rfl, rfl, rfl⟩
  obtain ⟨_, _, _, _, _, _, _, recalling, same, -, hPrincipal, -, -, hAccepted, -, -, hIdle, hInbound,
    rfl⟩ := acceptRecallSent_iff.mp returns
  rcases Unwinding.run (.inl opened) between runs with unwinding | ended
  · rw [unwinding.baseline, unwinding.cap] at hAccepted
    have rest := unwinding.rest
    rw [start, finish]
    simp only [State.backing, clearCycle]
    omega
  · exact absurd same (ended.elsewhere (by simp [recalling]))

def sampleCompleted : List Operation :=
  sampleAllocation ++ [.completeAllocation sampleTransfer 400]

/-- A report and an early arrival during a recall. -/
def sampleReports : List Operation :=
  [.applyRemoteValuation 350 50, .observeInbound 100]

def sampleNotice : Operation :=
  .acceptRecallSent 8 300 280 20

theorem recall_counted_once_interleaved : ∃ (s t' : State), Reachable s ∧
    s.managedNav.raw = 900 ∧ t'.managedNav.raw + 20 = s.managedNav.raw := by
  obtain ⟨s, reachable, value, covered, accepted⟩ := exists_reachable
    (fun s => s.managedNav.raw = 900 ∧ 300 ≤ s.buckets.acceptedRemoteValue.raw ∧
      (Run.run apply s (.beginRecall sampleAdmin 8 300 ::
        (sampleReports ++ [sampleNotice]))).toOption.any (fun _ => true) = true)
    sampleGenesis sampleCompleted (by decide +kernel)
  obtain ⟨t', finished, -⟩ := ok_of_any accepted
  obtain ⟨began, begins, rest⟩ := Run.run_cons.mp finished
  obtain ⟨t, reports, notice⟩ := Run.run_append.mp rest
  have between : ∀ op ∈ sampleReports, op ≠ .finalizeEpoch := by decide
  refine ⟨s, t', reachable, value, ?_⟩
  exact (recall_counted_once reachable begins between reports (Run.run_one.mp notice)).2 covered

end AccountingModel
