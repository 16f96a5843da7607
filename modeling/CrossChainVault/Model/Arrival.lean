import CrossChainVault.Model.Nav

set_option autoImplicit false

/- A recall's notice and its assets travel by different transports and arrive in either order. -/

namespace AccountingModel

open Result

/- The buckets an arrival and its notice pass through, as numbers. -/

section Amounts

variable {idle inbound unattributed amount actual : Nat}

/-- An arrival moves what the transit owes into idle backing. -/
theorem observed_sum : (idle + min amount inbound) + (inbound - amount) = idle + inbound := by
  omega

/-- A notice adds what was recalled, as arrived or as still owed. -/
theorem noticed_sum : (idle + min actual unattributed) + (inbound + (actual - unattributed)) =
    idle + inbound + actual := by
  omega

/-- An arrival within the transit and the recall fits what is owed once the notice is in. -/
theorem arrival_owed (owed : unattributed ≤ actual)
    (absorbed : unattributed + amount ≤ inbound + actual) :
    amount ≤ inbound + (actual - unattributed) := by
  omega

variable (owed : unattributed ≤ actual) (absorbed : unattributed + amount ≤ inbound + actual)

include owed absorbed

theorem early_unattributed : unattributed + (amount - inbound) ≤ actual := by
  omega

theorem early_spent : unattributed + (amount - inbound) - actual = unattributed - actual := by
  omega

theorem early_idle : idle + min amount inbound + min actual (unattributed + (amount - inbound)) =
    idle + min actual unattributed + amount := by
  omega

theorem early_inbound : inbound - amount + (actual - (unattributed + (amount - inbound))) =
    inbound + (actual - unattributed) - amount := by
  omega

end Amounts

section

variable {s early late : State} {transferId : TransferId} {principal actual loss amount : AssetAmount}

/-- Both orders back the price with the same assets, wherever the arrival was booked. -/
theorem arrival_same_backing
    (assetsFirst : Run.run apply s [.observeInbound amount,
      .acceptRecallSent transferId principal actual loss] = .ok early)
    (noticeFirst : Run.run apply s [.acceptRecallSent transferId principal actual loss,
      .observeInbound amount] = .ok late) :
    early.buckets.idleBacking.raw + early.buckets.inboundInTransit.raw =
        late.buckets.idleBacking.raw + late.buckets.inboundInTransit.raw ∧
      early.buckets.outboundInTransit = late.buckets.outboundInTransit ∧
      early.recognizedLoss = late.recognizedLoss ∧
      early.remotePrincipalCap = late.remotePrincipalCap ∧
      early.buckets.acceptedRemoteValue = late.buckets.acceptedRemoteValue := by
  obtain ⟨observed, observes, accepts⟩ := Run.run_cons.mp assetsFirst
  obtain ⟨noticed, accepts', observes'⟩ := Run.run_cons.mp noticeFirst
  obtain ⟨_, _, _, _, _, -, hInbound₁, hIdle₁, -, -, -, rfl⟩ := observeInbound_iff.mp observes
  obtain ⟨_, cap₁, accepted₁, recognized₁, _, _, _, -, -, -, -, -, hCap₁, hAccepted₁, hRecognized₁, -,
    hIdle₂, hInbound₂, rfl⟩ := acceptRecallSent_iff.mp (Run.run_one.mp accepts)
  obtain ⟨_, cap₂, accepted₂, recognized₂, _, _, _, -, -, -, -, -, hCap₂, hAccepted₂, hRecognized₂, -,
    hIdle₃, hInbound₃, rfl⟩ := acceptRecallSent_iff.mp accepts'
  obtain ⟨_, _, _, _, _, -, hInbound₄, hIdle₄, -, -, -, rfl⟩ :=
    observeInbound_iff.mp (Run.run_one.mp observes')
  simp only [clearCycle] at *
  refine ⟨?_, trivial, ?_, ?_, ?_⟩
  · rw [hIdle₂, hInbound₂, noticed_sum, hIdle₁, hInbound₁, observed_sum, hIdle₄, hInbound₄,
      observed_sum, hIdle₃, hInbound₃, noticed_sum]
  · exact Unsigned.ext (hRecognized₁.trans hRecognized₂.symm)
  · exact Unsigned.ext (by omega)
  · exact Unsigned.ext (hAccepted₁.trans hAccepted₂.symm)

/-- The state with other amounts in the three buckets an arrival passes through. -/
def State.booked (s : State) (idle inbound unattributed : AssetAmount) : State := { s with
  buckets := { s.buckets with
    idleBacking := idle
    inboundInTransit := inbound
    unattributedInbound := unattributed } }

/-- An arrival that a recall is waiting for, or that the transit owed absorbs. -/
theorem observeInbound_booked {idle inbound unattributed : AssetAmount} (nonzero : amount.raw ≠ 0)
    (waited : s.pendingRecallPrincipal.raw = 0 →
      amount.raw - s.buckets.inboundInTransit.raw = 0)
    (hIdle : idle.raw =
      s.buckets.idleBacking.raw + min amount.raw s.buckets.inboundInTransit.raw)
    (hInbound : inbound.raw = s.buckets.inboundInTransit.raw - amount.raw)
    (hUnattributed : unattributed.raw =
      s.buckets.unattributedInbound.raw + (amount.raw - s.buckets.inboundInTransit.raw)) :
    apply s (.observeInbound amount) = .ok (s.booked idle inbound unattributed) := by
  refine observeInbound_iff.mpr ⟨inbound, idle, unattributed, s.externalInflow,
    s.buckets.unattributedBalance, nonzero, hInbound, hIdle, ?_, ?_, ?_, rfl⟩
  · split
    · rename_i without
      rw [hUnattributed, waited without]
    · exact hUnattributed
  · split
    · rename_i without
      rw [waited without, Nat.add_zero]
    · rfl
  · split
    · rename_i without
      rw [waited without, Nat.add_zero]
    · rfl

/-- An arrival that its recall and the transit still owed can absorb is booked alike in both
orders. -/
theorem arrival_same_state (reachable : Reachable s) {noticed : State}
    (acceptable : apply s (.acceptRecallSent transferId principal actual loss) = .ok noticed)
    (positive : 0 < amount.raw) (owed : s.buckets.unattributedInbound.raw ≤ actual.raw)
    (absorbed : s.buckets.unattributedInbound.raw + amount.raw ≤
      s.buckets.inboundInTransit.raw + actual.raw) :
    ∃ final,
      Run.run apply s [.observeInbound amount,
        .acceptRecallSent transferId principal actual loss] = .ok final ∧
      Run.run apply s [.acceptRecallSent transferId principal actual loss,
        .observeInbound amount] = .ok final := by
  have backed := (reachable.step acceptable).assetInv.backing_le
  have fits := noticed.initialAssetSupply.bound
  have nonzero : amount.raw ≠ 0 := Nat.pos_iff_ne_zero.mp positive
  obtain ⟨settledLoss, cap, accepted, recognized, unattributed, idle, inbound, recalling, named,
    within, hPrincipal, hSettled, hCap, hAccepted, hRecognized, hUnattributed, hIdle, hInbound,
    same⟩ := acceptRecallSent_iff.mp acceptable
  have pending : s.pendingRecallPrincipal = s.activeAmount :=
    reachable.coherent.pendingPrincipal.trans (if_pos recalling)
  rw [same] at backed fits
  simp only [State.backing, clearCycle] at backed fits
  -- Without a principal to return nothing may arrive beyond the transit owed.
  have waited : s.pendingRecallPrincipal.raw = 0 →
      amount.raw - s.buckets.inboundInTransit.raw = 0 := by
    rw [pending]
    omega
  have arrives : amount.raw ≤ inbound.raw := hInbound ▸ arrival_owed owed absorbed
  have room : idle.raw + amount.raw < 2 ^ 128 := by
    have total : idle.raw + inbound.raw ≤ s.initialAssetSupply.raw := by
      clear hIdle hInbound hUnattributed hAccepted waited
      omega
    exact Nat.lt_of_le_of_lt (Nat.le_trans (Nat.add_le_add_left arrives _) total) fits
  have hSettledIdle : idle.raw + amount.raw = s.buckets.idleBacking.raw +
      min amount.raw s.buckets.inboundInTransit.raw + min actual.raw
        (s.buckets.unattributedInbound.raw + (amount.raw - s.buckets.inboundInTransit.raw)) := by
    rw [early_idle owed absorbed, hIdle]
  let left : AssetAmount :=
    ⟨inbound.raw - amount.raw, Nat.lt_of_le_of_lt (Nat.sub_le _ _) inbound.bound⟩
  let settled : AssetAmount := ⟨idle.raw + amount.raw, room⟩
  let arrived : AssetAmount :=
    ⟨s.buckets.idleBacking.raw + min amount.raw s.buckets.inboundInTransit.raw,
      Nat.lt_of_le_of_lt (hSettledIdle ▸ Nat.le_add_right _ _) room⟩
  let early : AssetAmount :=
    ⟨s.buckets.unattributedInbound.raw + (amount.raw - s.buckets.inboundInTransit.raw),
      Nat.lt_of_le_of_lt (early_unattributed owed absorbed) actual.bound⟩
  have observes : apply s (.observeInbound amount) = .ok
      (s.booked arrived (s.buckets.inboundInTransit.saturatingSub amount) early) :=
    observeInbound_booked nonzero waited rfl (Unsigned.saturatingSub_raw _ _) rfl
  have accepts : apply (s.booked arrived (s.buckets.inboundInTransit.saturatingSub amount) early)
      (.acceptRecallSent transferId principal actual loss) =
      .ok (noticed.booked settled left unattributed) := by
    refine acceptRecallSent_iff.mpr ⟨settledLoss, cap, accepted, recognized, unattributed, settled,
      left, recalling, named, within, hPrincipal, hSettled, hCap, hAccepted, hRecognized, ?_,
      hSettledIdle, ?_, by rw [same]; rfl⟩
    · exact hUnattributed.trans (early_spent owed absorbed).symm
    · show inbound.raw - amount.raw = _
      rw [hInbound, ← early_inbound owed absorbed]
      rfl
  have observes' : apply noticed (.observeInbound amount) =
      .ok (noticed.booked settled left unattributed) := by
    rw [same]
    have nothing : amount.raw - inbound.raw = 0 := Nat.sub_eq_zero_of_le arrives
    refine observeInbound_booked nonzero (fun _ => nothing) ?_ rfl ?_
    · show idle.raw + amount.raw = idle.raw + min amount.raw inbound.raw
      rw [Nat.min_eq_left arrives]
    · show unattributed.raw = unattributed.raw + (amount.raw - inbound.raw)
      rw [nothing, Nat.add_zero]
  exact ⟨_, Run.run_cons.mpr ⟨_, observes, Run.run_one.mpr accepts⟩,
    Run.run_cons.mpr ⟨_, acceptable, Run.run_one.mpr observes'⟩⟩

/-- Message before assets and assets before message agree: on the whole state as far as the recall
and the transit owed absorb the arrival, and on all that backs the price in any case. -/
theorem arrival_order_agrees (reachable : Reachable s)
    (acceptable : ∃ noticed,
      apply s (.acceptRecallSent transferId principal actual loss) = .ok noticed)
    (positive : 0 < amount.raw) :
    (s.buckets.unattributedInbound.raw ≤ actual.raw →
      s.buckets.unattributedInbound.raw + amount.raw ≤
        s.buckets.inboundInTransit.raw + actual.raw →
      ∃ final,
        Run.run apply s [.observeInbound amount,
          .acceptRecallSent transferId principal actual loss] = .ok final ∧
        Run.run apply s [.acceptRecallSent transferId principal actual loss,
          .observeInbound amount] = .ok final) ∧
    ∀ early late,
      Run.run apply s [.observeInbound amount,
        .acceptRecallSent transferId principal actual loss] = .ok early →
      Run.run apply s [.acceptRecallSent transferId principal actual loss,
        .observeInbound amount] = .ok late →
      early.buckets.idleBacking.raw + early.buckets.inboundInTransit.raw =
          late.buckets.idleBacking.raw + late.buckets.inboundInTransit.raw ∧
        early.managedNav = late.managedNav ∧
        early.recognizedLoss = late.recognizedLoss ∧
        early.remotePrincipalCap = late.remotePrincipalCap ∧
        early.buckets.acceptedRemoteValue = late.buckets.acceptedRemoteValue := by
  obtain ⟨noticed, accepts⟩ := acceptable
  refine ⟨arrival_same_state reachable accepts positive, ?_⟩
  intro early late assetsFirst noticeFirst
  obtain ⟨returned, outbound, loss, cap, value⟩ := arrival_same_backing assetsFirst noticeFirst
  refine ⟨returned, ?_, loss, cap, value⟩
  have navEarly := (reachable.run assetsFirst).assetInv.managedBacking_raw
  have navLate := (reachable.run noticeFirst).assetInv.managedBacking_raw
  ext
  unfold State.managedNav
  rw [navEarly, navLate]
  unfold State.backing
  rw [outbound, value]
  omega

end

theorem arrival_order_agrees_recalling : ∃ s final, Reachable s ∧ s.activeCycle = .recall ∧
    Run.run apply s [.observeInbound 100, sampleNotice] = .ok final ∧
    Run.run apply s [sampleNotice, .observeInbound 100] = .ok final := by
  obtain ⟨s, reachable, recalling, accepts, owed, absorbed⟩ := exists_reachable
    (fun s => s.activeCycle = .recall ∧
      (apply s sampleNotice).toOption.any (fun _ => true) = true ∧
      s.buckets.unattributedInbound.raw ≤ 280 ∧
      s.buckets.unattributedInbound.raw + 100 ≤ s.buckets.inboundInTransit.raw + 280)
    sampleGenesis sampleRecall (by decide +kernel)
  obtain ⟨noticed, accepted, -⟩ := ok_of_any accepts
  have positive : 0 < (100 : AssetAmount).raw := by decide
  obtain ⟨final, both⟩ :=
    (arrival_order_agrees reachable ⟨noticed, accepted⟩ positive).1 owed absorbed
  exact ⟨s, final, reachable, recalling, both⟩

end AccountingModel
