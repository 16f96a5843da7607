import CrossChainVault.Model.Valuation

set_option autoImplicit false

/- The remote cycle: one slot, opened and ended once by every transfer. -/

namespace AccountingModel

open Result

/-- The slot and its side fields tell the same story. -/
structure Remote.Coherent (r : Remote) : Prop where
  outbound : r.outboundInTransit = if r.activeCycle = .allocate then r.activeAmount else .zero
  pendingPrincipal :
    r.pendingRecallPrincipal = if r.activeCycle = .recall then r.activeAmount else .zero
  pendingId : r.pendingRecallId = if r.activeCycle = .recall then r.activeTransferId else .zero
  idle : r.activeCycle = .none ↔ r.activeTransferId = .zero
  used : r.activeTransferId ≠ .zero → r.activeTransferId ∈ r.usedTransferIds
  closing : r.closeRequested = true → r.activeCycle = .allocate
  covered : r.activeCycle = .recall → r.activeAmount.raw ≤ r.remotePrincipalCap.raw

theorem Remote.Coherent.running {r : Remote} (inv : r.Coherent) (other : r.activeCycle ≠ .allocate) :
    r.closeRequested = false := by
  by_contra closing
  exact other (inv.closing (by simpa using closing))

/-- A slot that was just cleared. -/
theorem Remote.Coherent.cleared {r : Remote} (outbound : r.outboundInTransit.raw = 0)
    (pendingPrincipal : r.pendingRecallPrincipal = .zero) (pendingId : r.pendingRecallId = .zero)
    (cycle : r.activeCycle = .none) (id : r.activeTransferId = .zero)
    (running : r.closeRequested = false) : r.Coherent where
  outbound := by
    rw [cycle]
    exact Unsigned.ext outbound
  pendingPrincipal := by
    rw [cycle]
    exact pendingPrincipal
  pendingId := by
    rw [cycle]
    exact pendingId
  idle := ⟨fun _ => id, fun _ => cycle⟩
  used := fun named => absurd id named
  closing := fun closing => by cases running.symm.trans closing
  covered := fun recalling => by cases cycle.symm.trans recalling

theorem ne_zero_of_raw {bits : Nat} {a : Unsigned bits} (nonzero : a.raw ≠ 0) : a ≠ .zero :=
  fun same => nonzero (congrArg Unsigned.raw same)

section Slot

variable {r : Remote}

theorem Remote.Coherent.allocating (inv : r.Coherent) (cycle : r.activeCycle = .allocate) :
    r.outboundInTransit = r.activeAmount := by
  simpa [cycle] using inv.outbound

theorem Remote.Coherent.noOutbound (inv : r.Coherent) (other : r.activeCycle ≠ .allocate) :
    r.outboundInTransit = .zero := by
  simpa [other] using inv.outbound

theorem Remote.Coherent.noRecall (inv : r.Coherent) (other : r.activeCycle ≠ .recall) :
    r.pendingRecallPrincipal = .zero ∧ r.pendingRecallId = .zero := by
  refine ⟨?_, ?_⟩
  · simpa [other] using inv.pendingPrincipal
  · simpa [other] using inv.pendingId

end Slot

theorem coherent_new {genesis : Genesis} {s : State} (success : State.new genesis = .ok s) :
    s.remote.Coherent := by
  obtain ⟨_, _, _, _, _, -, -, -, -, rfl⟩ := State.new_ok success
  exact .cleared rfl rfl rfl rfl rfl rfl

theorem coherent_step {s s' : State} {op : Operation} (success : apply s op = .ok s')
    (inv : s.remote.Coherent) : s'.remote.Coherent := by
  cases op with
  | finalizeEpoch =>
      obtain ⟨_, _, _, _, _, _, _, _, _, _, _, -, -, -, -, -, -, -, -, -, -, -, -, -, -, rfl⟩ :=
        finalizeEpoch_ok success
      exact ⟨inv.outbound, inv.pendingPrincipal, inv.pendingId, inv.idle, inv.used, inv.closing,
        inv.covered⟩
  | beginAllocate actor transferId amount =>
      obtain ⟨_, _, outbound, -, -, -, -, idle, named, -, -, -, hOutbound, rfl⟩ :=
        beginAllocate_ok success
      have other : s.activeCycle ≠ .recall := by simp [idle]
      obtain ⟨noPrincipal, noId⟩ := inv.noRecall other
      have nothing := inv.noOutbound (by simp [State.remote, idle])
      have before : s.buckets.outboundInTransit.raw = 0 := congrArg Unsigned.raw nothing
      refine ⟨?_, noPrincipal, noId, ?_, ?_, fun _ => rfl, nofun⟩
      · exact Unsigned.ext (by omega : outbound.raw = amount.raw)
      · exact ⟨nofun, fun same => absurd same (ne_zero_of_raw named)⟩
      · exact fun _ => Std.ExtTreeSet.mem_insert_self
  | completeAllocation transferId reported =>
      obtain ⟨-, rfl⟩ | ⟨outbound, _, running, allocating, -, hOutbound, -, rfl⟩ :=
        completeAllocation_ok success
      · exact inv
      · have amount : s.buckets.outboundInTransit = s.activeAmount := inv.allocating allocating
        obtain ⟨noPrincipal, noId⟩ := inv.noRecall (by simp [State.remote, allocating])
        refine .cleared ?_ noPrincipal noId rfl rfl rfl
        show outbound.raw = 0
        rw [amount] at hOutbound
        omega
  | beginRecall actor transferId amount =>
      obtain ⟨-, idle, named, -, -, covered, rfl⟩ := beginRecall_ok success
      have nothing := inv.noOutbound (by simp [State.remote, idle])
      have running := inv.running (by simp [State.remote, idle])
      refine ⟨nothing, rfl, rfl, ?_, ?_, ?_, fun _ => covered⟩
      · exact ⟨nofun, fun same => absurd same (ne_zero_of_raw named)⟩
      · exact fun _ => Std.ExtTreeSet.mem_insert_self
      · exact fun closing => by cases running.symm.trans closing
  | acceptRecallSent transferId principal actual loss =>
      obtain ⟨_, _, _, _, _, _, _, recalling, -, -, -, -, -, -, -, -, -, -, rfl⟩ :=
        acceptRecallSent_iff.mp success
      have nothing := inv.noOutbound (by simp [State.remote, recalling])
      exact .cleared (congrArg Unsigned.raw nothing) rfl rfl rfl rfl rfl
  | observeInbound amount =>
      obtain ⟨_, _, _, _, _, -, -, -, -, -, -, rfl⟩ := observeInbound_iff.mp success
      exact ⟨inv.outbound, inv.pendingPrincipal, inv.pendingId, inv.idle, inv.used, inv.closing,
        inv.covered⟩
  | applyRemoteValuation reported loss =>
      obtain ⟨_, -, ⟨-, rfl⟩ | ⟨-, rfl⟩⟩ := applyRemoteValuation_ok success
      · exact ⟨inv.outbound, inv.pendingPrincipal, inv.pendingId, inv.idle, inv.used, inv.closing,
          inv.covered⟩
      · exact ⟨inv.outbound, inv.pendingPrincipal, inv.pendingId, inv.idle, inv.used, inv.closing,
          inv.covered⟩
  | lockRemoteValuation =>
      obtain ⟨-, rfl⟩ | ⟨_, -, -, -, -, rfl⟩ := lockRemoteValuation_ok success
      · exact inv
      · exact ⟨inv.outbound, inv.pendingPrincipal, inv.pendingId, inv.idle, inv.used, inv.closing,
          inv.covered⟩
  | requestClose actor transferId =>
      obtain ⟨-, allocating, -, -, rfl⟩ := requestClose_ok success
      exact ⟨inv.outbound, inv.pendingPrincipal, inv.pendingId, inv.idle, inv.used,
        fun _ => allocating, inv.covered⟩
  | settleClose transferId credited =>
      obtain ⟨outbound, _, _, _, _, -, allocating, -, -, hOutbound, -, -, -, -, rfl⟩ :=
        settleClose_ok success
      have amount : s.buckets.outboundInTransit = s.activeAmount := inv.allocating allocating
      obtain ⟨noPrincipal, noId⟩ := inv.noRecall (by simp [State.remote, allocating])
      refine .cleared ?_ noPrincipal noId rfl rfl rfl
      show outbound.raw = 0
      rw [amount] at hOutbound
      omega
  | beginRecover actor transferId =>
      obtain ⟨-, idle, named, -, -, rfl⟩ := beginRecover_ok success
      have nothing := inv.noOutbound (by simp [State.remote, idle])
      have running := inv.running (by simp [State.remote, idle])
      obtain ⟨noPrincipal, noId⟩ := inv.noRecall (by simp [State.remote, idle])
      refine ⟨nothing, noPrincipal, noId, ?_, ?_, ?_, nofun⟩
      · exact ⟨nofun, fun same => absurd same (ne_zero_of_raw named)⟩
      · exact fun _ => Std.ExtTreeSet.mem_insert_self
      · exact fun closing => by cases running.symm.trans closing
  | settleRecover transferId credited =>
      obtain ⟨_, _, _, -, recovering, -, -, -, rfl⟩ := settleRecover_ok success
      have nothing := inv.noOutbound (by simp [State.remote, recovering])
      obtain ⟨noPrincipal, noId⟩ := inv.noRecall (by simp [State.remote, recovering])
      exact .cleared (congrArg Unsigned.raw nothing) noPrincipal noId rfl rfl rfl
  | _ =>
      rw [remote_same success rfl]
      exact inv

theorem Reachable.coherent {s : State} (reachable : Reachable s) : s.remote.Coherent :=
  reachable.induct (fun s => s.remote.Coherent) (fun _ _ => coherent_new)
    (fun _ _ _ => coherent_step)

/- The life of a transfer over a run. -/

/-- The operation opens a cycle for this transfer. -/
def Operation.opens (id : TransferId) : Operation → Bool
  | .beginAllocate _ transferId _ => transferId = id
  | .beginRecall _ transferId _ => transferId = id
  | .beginRecover _ transferId => transferId = id
  | _ => false

/-- The operation ends the cycle of this transfer. A completion only skips while a close is
pending. -/
def Operation.ends (s : State) (id : TransferId) : Operation → Bool
  | .completeAllocation transferId _ => transferId = id && !s.closeRequested
  | .acceptRecallSent transferId .. => transferId = id
  | .settleClose transferId _ => transferId = id
  | .settleRecover transferId _ => transferId = id
  | _ => false

def Operation.recovered : Operation → Nat
  | .settleRecover _ credited => credited.raw
  | _ => 0

/-- What one operation can do to the slot. -/
inductive SlotChange (op : Operation) (s s' : State) : Prop
  | opened (id : TransferId) (opens : ∀ other, op.opens other = decide (id = other))
      (ends : ∀ other, op.ends s other = false) (free : s.activeCycle = .none)
      (fresh : id ∉ s.usedTransferIds) (busy : s'.activeCycle ≠ .none)
      (active : s'.activeTransferId = id)
      (used : s'.usedTransferIds = s.usedTransferIds.insert id)
  | ended (id : TransferId) (opens : ∀ other, op.opens other = false)
      (ends : ∀ other, op.ends s other = decide (id = other)) (busy : s.activeCycle ≠ .none)
      (active : s.activeTransferId = id) (free : s'.activeCycle = .none)
      (used : s'.usedTransferIds = s.usedTransferIds)
  | same (opens : ∀ other, op.opens other = false) (ends : ∀ other, op.ends s other = false)
      (cycle : s'.activeCycle = s.activeCycle)
      (active : s'.activeTransferId = s.activeTransferId)
      (used : s'.usedTransferIds = s.usedTransferIds)

theorem slotChange {s s' : State} {op : Operation} (success : apply s op = .ok s') :
    SlotChange op s s' := by
  have unused {other : Operation} (kept : s'.remote = s.remote)
      (opens : ∀ id, other.opens id = false) (ends : ∀ id, other.ends s id = false) :
      SlotChange other s s' :=
    .same opens ends (congrArg Remote.activeCycle kept) (congrArg Remote.activeTransferId kept)
      (congrArg Remote.usedTransferIds kept)
  cases op with
  | finalizeEpoch =>
      obtain ⟨_, _, _, _, _, _, _, _, _, _, _, -, -, -, -, -, -, -, -, -, -, -, -, -, -, rfl⟩ :=
        finalizeEpoch_ok success
      exact .same (fun _ => rfl) (fun _ => rfl) rfl rfl rfl
  | beginAllocate actor transferId amount =>
      obtain ⟨_, _, _, -, -, -, -, idle, -, fresh, -, -, -, rfl⟩ := beginAllocate_ok success
      exact .opened transferId (fun _ => rfl) (fun _ => rfl) idle fresh nofun rfl rfl
  | completeAllocation transferId reported =>
      obtain ⟨closing, rfl⟩ | ⟨_, _, running, allocating, same, -, -, rfl⟩ :=
        completeAllocation_ok success
      · exact .same (fun _ => rfl) (fun _ => by simp [Operation.ends, closing]) rfl rfl rfl
      · exact .ended transferId (fun _ => rfl) (fun _ => by simp [Operation.ends, running])
          (by simp [allocating]) same rfl rfl
  | beginRecall actor transferId amount =>
      obtain ⟨-, idle, -, fresh, -, -, rfl⟩ := beginRecall_ok success
      exact .opened transferId (fun _ => rfl) (fun _ => rfl) idle fresh nofun rfl rfl
  | acceptRecallSent transferId principal actual loss =>
      obtain ⟨_, _, _, _, _, _, _, recalling, same, -, -, -, -, -, -, -, -, -, rfl⟩ :=
        acceptRecallSent_iff.mp success
      exact .ended transferId (fun _ => rfl) (fun _ => rfl) (by simp [recalling]) same rfl rfl
  | observeInbound amount =>
      obtain ⟨_, _, _, _, _, -, -, -, -, -, -, rfl⟩ := observeInbound_iff.mp success
      exact .same (fun _ => rfl) (fun _ => rfl) rfl rfl rfl
  | applyRemoteValuation reported loss =>
      obtain ⟨_, -, ⟨-, rfl⟩ | ⟨-, rfl⟩⟩ := applyRemoteValuation_ok success
      · exact .same (fun _ => rfl) (fun _ => rfl) rfl rfl rfl
      · exact .same (fun _ => rfl) (fun _ => rfl) rfl rfl rfl
  | lockRemoteValuation =>
      obtain ⟨-, rfl⟩ | ⟨_, -, -, -, -, rfl⟩ := lockRemoteValuation_ok success
      · exact .same (fun _ => rfl) (fun _ => rfl) rfl rfl rfl
      · exact .same (fun _ => rfl) (fun _ => rfl) rfl rfl rfl
  | requestClose actor transferId =>
      obtain ⟨-, -, -, -, rfl⟩ := requestClose_ok success
      exact .same (fun _ => rfl) (fun _ => rfl) rfl rfl rfl
  | settleClose transferId credited =>
      obtain ⟨_, _, _, _, _, same, allocating, -, -, -, -, -, -, -, rfl⟩ := settleClose_ok success
      exact .ended transferId (fun _ => rfl) (fun _ => rfl) (by simp [allocating]) same rfl rfl
  | beginRecover actor transferId =>
      obtain ⟨-, idle, -, fresh, -, rfl⟩ := beginRecover_ok success
      exact .opened transferId (fun _ => rfl) (fun _ => rfl) idle fresh nofun rfl rfl
  | settleRecover transferId credited =>
      obtain ⟨_, _, _, same, recovering, -, -, -, rfl⟩ := settleRecover_ok success
      exact .ended transferId (fun _ => rfl) (fun _ => rfl) (by simp [recovering]) same rfl rfl
  | _ => exact unused (remote_same success rfl) (fun _ => rfl) (fun _ => rfl)

section Once

variable {start s s' : State} {op : Operation} {operations : List Operation} {id : TransferId}

/-- A transfer id opens at most one cycle. -/
theorem opens_once (finished : Run.run apply start operations = .ok s) :
    operations.countP (Operation.opens id) ≤ 1 := by
  -- What is left: one opening while the id is unused, none after that.
  have bound := Run.countAlong_le (fun _ => True) (fun _ _ _ _ _ => trivial)
    (fun s : State => if id ∈ s.usedTransferIds then 0 else 1)
    (fun _ => Operation.opens id) (fun _ _ => false) ?_ operations start finished trivial
  · have none : operations.countP (fun _ => false) = 0 := by simp
    rw [Run.countAlong_const operations start finished,
      Run.countAlong_const operations start finished, none] at bound
    split at bound <;> omega
  · intro s op s' success _
    cases slotChange success with
    | opened fresh' opens _ _ fresh _ _ used =>
        rw [opens, used]
        by_cases same : fresh' = id
        · subst same
          simp [fresh]
        · simp [same]
    | ended _ opens _ _ _ _ used => simp [opens, used]
    | same opens _ _ _ used => simp [opens, used]

/-- Every end of a cycle had its own opening. -/
theorem ends_le_opens (finished : Run.run apply start operations = .ok s)
    (idle : start.activeCycle = .none) :
    Run.countAlong apply (fun s op => op.ends s id) start operations ≤
      operations.countP (Operation.opens id) := by
  -- The slot holds at most one cycle of this transfer.
  have bound := Run.countAlong_le (fun _ => True) (fun _ _ _ _ _ => trivial)
    (fun s : State => if s.activeCycle ≠ .none ∧ s.activeTransferId = id then 1 else 0)
    (fun s op => op.ends s id) (fun _ => Operation.opens id) ?_ operations start finished trivial
  · rw [Run.countAlong_const operations start finished, if_neg (by simp [idle])] at bound
    omega
  · intro s op s' success _
    cases slotChange success with
    | opened fresh opens ends free _ busy active _ =>
        rw [opens, ends, active]
        by_cases same : fresh = id
        · simp [same, free, busy]
        · simp [same]
    | ended old opens ends busy active free _ =>
        rw [opens, ends, active]
        by_cases same : old = id
        · simp [same, free, busy]
        · simp [same, free]
    | same opens ends cycle active _ => rw [opens, ends, cycle, active]

/-- What was impaired and is no longer was recovered. -/
theorem impairment_recovered (success : apply s op = .ok s') :
    s'.cumulativeImpairment.raw + s.impairedTransport.raw =
      s.cumulativeImpairment.raw + s'.impairedTransport.raw + op.recovered := by
  cases op with
  | finalizeEpoch =>
      obtain ⟨_, _, _, _, _, _, _, _, _, _, _, -, -, -, -, -, -, -, -, -, -, -, -, -, -, rfl⟩ :=
        finalizeEpoch_ok success
      rfl
  | beginAllocate actor transferId amount =>
      obtain ⟨_, _, _, -, -, -, -, -, -, -, -, -, -, rfl⟩ := beginAllocate_ok success
      rfl
  | completeAllocation transferId reported =>
      obtain ⟨-, rfl⟩ | ⟨_, _, -, -, -, -, -, rfl⟩ := completeAllocation_ok success
      · rfl
      · rfl
  | beginRecall actor transferId amount =>
      obtain ⟨-, -, -, -, -, -, rfl⟩ := beginRecall_ok success
      rfl
  | acceptRecallSent transferId principal actual loss =>
      obtain ⟨_, _, _, _, _, _, _, -, -, -, -, -, -, -, -, -, -, -, rfl⟩ :=
        acceptRecallSent_iff.mp success
      rfl
  | observeInbound amount =>
      obtain ⟨_, _, _, _, _, -, -, -, -, -, -, rfl⟩ := observeInbound_iff.mp success
      rfl
  | applyRemoteValuation reported loss =>
      obtain ⟨_, -, ⟨-, rfl⟩ | ⟨-, rfl⟩⟩ := applyRemoteValuation_ok success
      · rfl
      · rfl
  | lockRemoteValuation =>
      obtain ⟨-, rfl⟩ | ⟨_, -, -, -, -, rfl⟩ := lockRemoteValuation_ok success
      · rfl
      · rfl
  | requestClose actor transferId =>
      obtain ⟨-, -, -, -, rfl⟩ := requestClose_ok success
      rfl
  | settleClose transferId credited =>
      obtain ⟨_, _, _, _, _, -, -, -, -, -, -, -, hImpaired, hCumulative, rfl⟩ :=
        settleClose_ok success
      simp only [clearCycle, Operation.recovered]
      omega
  | beginRecover actor transferId =>
      obtain ⟨-, -, -, -, -, rfl⟩ := beginRecover_ok success
      rfl
  | settleRecover transferId credited =>
      obtain ⟨_, _, _, -, -, hImpaired, -, -, rfl⟩ := settleRecover_ok success
      simp only [clearCycle, Operation.recovered]
      omega
  | _ =>
      have same := remote_same success rfl
      have impaired : s'.impairedTransport = s.impairedTransport :=
        congrArg Remote.impairedTransport same
      have cumulative : s'.cumulativeImpairment = s.cumulativeImpairment :=
        congrArg Remote.cumulativeImpairment same
      rw [impaired, cumulative]
      rfl

theorem completeAllocation_ne_underflow {reported : AssetAmount} (inv : s.remote.Coherent)
    (running : s.closeRequested = false) :
    completeAllocation s id reported ≠ .error .arithmeticUnderflow := by
  intro failure
  rw [completeAllocation, if_neg (by simp [running])] at failure
  simp only [bind_eq_error, rejectIf_eq_error, rejectIf_eq_ok, checkedSub_underflows,
    checkedAdd_ne_underflow, exists_const, reduceCtorEq, and_false, false_or, not_not, pure,
    Except.pure, or_false] at failure
  obtain ⟨allocating, -, short⟩ := failure
  have amount : s.buckets.outboundInTransit = s.activeAmount := inv.allocating allocating
  rw [amount] at short
  exact Nat.lt_irrefl _ short

theorem acceptRecallSent_ne_underflow {principal actual loss : AssetAmount} :
    acceptRecallSent s id principal actual loss ≠ .error .arithmeticUnderflow := by
  intro failure
  simp only [acceptRecallSent, bind_eq_error, rejectIf_eq_error, rejectIf_eq_ok,
    checkedSub_underflows, checkedAdd_ne_underflow, exists_const, reduceCtorEq, and_false, false_or,
    not_not, Unsigned.lt_def, Nat.not_lt, lesser_raw, pure, Except.pure, or_false] at failure
  -- Each subtraction takes at most what is there.
  obtain ⟨-, -, -, _, -, -, covered, _, -, short | ⟨_, -, short | ⟨_, -, _, -, short |
    ⟨_, -, _, -, short⟩⟩⟩⟩ := failure <;> omega

theorem settleClose_ne_underflow {credited : AssetAmount} (inv : s.remote.Coherent) :
    settleClose s id credited ≠ .error .arithmeticUnderflow := by
  intro failure
  simp only [settleClose, creditRemote, bind_eq_error, rejectIf_eq_error, rejectIf_eq_ok,
    checkedSub_underflows, checkedAdd_ne_underflow, exists_const, reduceCtorEq, and_false, false_or,
    not_not, not_or, Unsigned.lt_def, Nat.not_lt, pure, Except.pure, or_false] at failure
  obtain ⟨-, ⟨allocating, -⟩, within, short | ⟨_, -, short | ⟨_, -, _, impossible⟩⟩⟩ := failure
  · omega
  · have amount : s.buckets.outboundInTransit = s.activeAmount := inv.allocating allocating
    rw [amount] at short
    exact Nat.lt_irrefl _ short
  · exact impossible

theorem settleRecover_ne_underflow {credited : AssetAmount} :
    settleRecover s id credited ≠ .error .arithmeticUnderflow := by
  intro failure
  simp only [settleRecover, creditRemote, bind_eq_error, rejectIf_eq_error, rejectIf_eq_ok,
    checkedSub_underflows, checkedAdd_ne_underflow, exists_const, reduceCtorEq, and_false, false_or,
    not_not, Unsigned.lt_def, Nat.not_lt, pure, Except.pure, or_false] at failure
  obtain ⟨-, -, within, short | ⟨_, -, _, impossible⟩⟩ := failure
  · omega
  · exact impossible

/-- No subtraction of an operation that ends a cycle can fail. -/
theorem ending_ne_underflow (inv : s.remote.Coherent) (ends : op.ends s id = true) :
    apply s op ≠ .error .arithmeticUnderflow := by
  cases op with
  | completeAllocation transferId reported =>
      have running : s.closeRequested = false := by
        simp only [Operation.ends, Bool.and_eq_true, Bool.not_eq_true'] at ends
        exact ends.2
      exact completeAllocation_ne_underflow inv running
  | acceptRecallSent transferId principal actual loss => exact acceptRecallSent_ne_underflow
  | settleClose transferId credited => exact settleClose_ne_underflow inv
  | settleRecover transferId credited => exact settleRecover_ne_underflow
  | _ => cases ends

end Once

/-- The slot is coherent in every reachable state; over a whole run each transfer opens at most one
cycle, which ends at most once and without an underflow. -/
theorem remote_cycle_coherent {genesis : Genesis} {start s : State} {operations : List Operation}
    (created : State.new genesis = .ok start)
    (finished : Run.run apply start operations = .ok s) :
    s.buckets.outboundInTransit =
        (if s.activeCycle = .allocate then s.activeAmount else .zero) ∧
    (if s.activeCycle = .recall then
        s.pendingRecallPrincipal = s.activeAmount ∧ s.pendingRecallId = s.activeTransferId
      else s.pendingRecallPrincipal = .zero ∧ s.pendingRecallId = .zero) ∧
    (s.activeCycle = .none ↔ s.activeTransferId = .zero) ∧
    (s.activeTransferId ≠ .zero → s.activeTransferId ∈ s.usedTransferIds) ∧
    (s.closeRequested = true → s.activeCycle = .allocate) ∧
    (s.activeCycle = .recall → s.activeAmount.raw ≤ s.remotePrincipalCap.raw) ∧
    s.cumulativeImpairment.raw =
      s.impairedTransport.raw + (operations.map Operation.recovered).sum ∧
    (∀ id, operations.countP (Operation.opens id) ≤ 1) ∧
    (∀ id, Run.countAlong apply (fun s op => op.ends s id) start operations ≤
      operations.countP (Operation.opens id)) ∧
    ∀ id op, op.ends s id = true → apply s op ≠ .error .arithmeticUnderflow := by
  have inv := Reachable.coherent ⟨genesis, start, operations, created, finished⟩
  have recovered := Run.run_balance (fun s : State => s.cumulativeImpairment.raw)
    (fun s => s.impairedTransport.raw) Operation.recovered
    (fun _ _ _ => impairment_recovered) operations start finished
  obtain ⟨_, _, _, _, _, -, -, -, -, rfl⟩ := State.new_ok created
  refine ⟨inv.outbound, ?_, inv.idle, inv.used, inv.closing, inv.covered, ?_,
    fun _ => opens_once finished, fun _ => ends_le_opens finished rfl,
    fun _ _ => ending_ne_underflow inv⟩
  · split
    · rename_i recalling
      exact ⟨inv.pendingPrincipal.trans (if_pos recalling), inv.pendingId.trans (if_pos recalling)⟩
    · rename_i other
      exact inv.noRecall other
  · simp only [State.atGenesis, Unsigned.zero_raw] at recovered
    omega

/-- A recall follows a completed allocation, and a report arrives during it. -/
def sampleRecall : List Operation :=
  sampleAllocation ++ [.completeAllocation sampleTransfer 400,
    .beginRecall sampleAdmin 8 300,
    .applyRemoteValuation 350 50]

theorem remote_cycle_coherent_recalling : ∃ (start s : State),
    State.new sampleGenesis = .ok start ∧ Run.run apply start sampleRecall = .ok s ∧
    s.activeCycle = .recall ∧ s.pendingRecallPrincipal = s.activeAmount ∧
    sampleRecall.countP (Operation.opens sampleTransfer) ≤ 1 := by
  have passes : (runFrom sampleGenesis sampleRecall).toOption.any
      (fun s => decide (s.activeCycle = .recall)) = true := by decide +kernel
  obtain ⟨s, result, recalling⟩ := ok_of_any passes
  simp only [runFrom, bind_eq_ok] at result
  obtain ⟨start, created, finished⟩ := result
  have coherent := remote_cycle_coherent created finished
  have cycle : s.activeCycle = .recall := of_decide_eq_true recalling
  rw [if_pos cycle] at coherent
  exact ⟨start, s, created, finished, cycle, coherent.2.1.1, coherent.2.2.2.2.2.2.2.1 _⟩

end AccountingModel
