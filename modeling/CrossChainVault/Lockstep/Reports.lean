import CrossChainVault.Lockstep.Remote

set_option autoImplicit false

/- A report keeps the relation with the operations it carries out. -/

namespace Lockstep

open AccountingModel (State Operation AccountId EpochId AssetAmount)
open Evm (World Vault Msg Call Address)
open Protocol Result

variable {book : AddressBook} {s s' : State} {w w' : World} {hashing : Hashing} {msg : Msg}
  {authentic : Bool} {header : Header} {body : RemoteReportBody}

/-- The world in which the lane has advanced past the report and its loss is acknowledged. -/
def acknowledged (w : World) (loss : AssetAmount) (commitment : Bytes32) (next : Evm.Uint64) :
    World :=
  { w with coordinator := { w.coordinator with
      lastInboundCumulativeLoss := loss
      inboundLatestCommitment := commitment
      inboundExpectedSequence := next } }

section Acknowledged

variable {loss : AssetAmount} {commitment : Bytes32} {next : Evm.Uint64}

@[simp] theorem acknowledged_atCutoff : (acknowledged w loss commitment next).atCutoff = w.atCutoff :=
  rfl

@[simp] theorem acknowledged_locked : (acknowledged w loss commitment next).locked = w.locked := rfl

@[simp] theorem acknowledged_completes :
    (acknowledged w loss commitment next).completes body = w.completes body := rfl

end Acknowledged

theorem completeIfNamed_named (names : w.completes body = true) :
    w.completeIfNamed body = w.completeAllocation body.reportedValue := by
  unfold World.completeIfNamed
  rw [if_pos names]

theorem completeIfNamed_other (other : w.completes body = false) :
    w.completeIfNamed body = .ok w := by
  unfold World.completeIfNamed
  rw [if_neg (by simp [other])]
  rfl

theorem processRemoteReport_ok
    (success : w.step hashing msg (.processRemoteReport authentic header body) = .ok w') :
    ∃ commitment next reason,
      (acknowledged w body.realizedLoss commitment next).applyReport msg header body =
        .ok (w', reason) := by
  obtain ⟨next, reason, -, -, -, -, -, -, -, applied⟩ := World.processRemoteReport_iff.mp success
  exact ⟨_, next, reason, applied⟩

section Skipping

variable {reason : Evm.ReportSkipReason}

/-- A report that applies is not skipped. -/
theorem applies_priced (running : w.coordinator.closeRequested = false)
    (applied : applies w msg header body = true)
    (success : w.applyReport msg header body = .ok (w', reason)) : reason = .none := by
  unfold applies at applied
  rw [Bool.and_eq_true, decide_eq_true_eq] at applied
  obtain ⟨fresh, applied⟩ := applied
  unfold World.applyReport at success
  have unexpired : ¬header.expiresAt < msg.timestamp := Nat.not_lt.mpr fresh
  rw [running, if_neg (by simp), if_neg unexpired] at success
  by_cases cutoff : w.atCutoff = true
  · by_cases locked : w.locked = true
    · simp only [cutoff, locked, Bool.not_true, Bool.false_or, if_true, Bool.and_eq_true,
        decide_eq_true_eq, Bool.and_self] at applied success
      obtain ⟨names, keeps⟩ := applied
      rw [if_pos names] at success
      cases kept : w.completionKeepsNav body.reportedValue with
      | error revert =>
          rw [kept] at keeps
          cases keeps
      | ok keepsNav =>
          rw [kept] at keeps success
          cases keeps
          simp only [bind_eq_ok, Except.ok.injEq, exists_eq_left', if_true, pure_eq_ok,
            Prod.mk.injEq] at success
          obtain ⟨completed, -, -, none⟩ := success
          exact none.symm
    · simp only [cutoff, locked, Bool.not_true, Bool.false_or, if_false, Bool.and_eq_true,
        decide_eq_true_eq, Bool.true_and, Bool.false_eq_true] at applied success
      obtain ⟨sameEpoch, observed⟩ := applied
      rw [if_neg (by simp [sameEpoch]), if_neg (by simpa using observed)] at success
      simp only [bind_eq_ok, if_true, pure_eq_ok, Prod.mk.injEq] at success
      obtain ⟨completed, -, valued, -, vault, -, -, none⟩ := success
      exact none.symm
  · simp only [cutoff, Bool.false_and, Bool.false_eq_true, if_false, bind_eq_ok, pure_eq_ok,
      Prod.mk.injEq] at success
    obtain ⟨completed, -, valued, -, -, none⟩ := success
    exact none.symm

/-- A report that does not apply changes nothing more. -/
theorem skipped_unchanged (skipped : applies w msg header body = false)
    (success : w.applyReport msg header body = .ok (w', reason)) : w' = w := by
  cases World.applyReport_ok success with
  | skipped => rfl
  | completedAtPar _ running fresh fixed names keepsNav completed =>
      unfold applies at skipped
      simp [fixed, names, keepsNav, Except.toOption, show msg.timestamp ≤ header.expiresAt from fresh]
        at skipped
  | priced _ _ _ running fresh unfixed =>
      unfold applies at skipped
      by_cases cutoff : w.atCutoff = true
      · obtain ⟨unlocked, sameEpoch, observed⟩ := unfixed cutoff
        simp [cutoff, unlocked, sameEpoch, show msg.timestamp ≤ header.expiresAt from fresh,
          show w.vault.currentEpochCutoffAt ≤ header.observedAt from observed] at skipped
      · simp [cutoff, show msg.timestamp ≤ header.expiresAt from fresh] at skipped

end Skipping

namespace Related

variable {commitment : Bytes32} {next : Evm.Uint64}

theorem acknowledge (related : Related book s w) (loss : AssetAmount) :
    Related book { s with inboundCumulativeLoss := loss } (acknowledged w loss commitment next) :=
  { related with cumulativeLoss := rfl }

/-- A report without new loss leaves the model as it is. -/
theorem acknowledgeNothing (related : Related book s w)
    (noLoss : body.realizedLoss = w.coordinator.lastInboundCumulativeLoss) :
    Related book s (acknowledged w body.realizedLoss commitment next) :=
  { related with cumulativeLoss := noLoss.trans related.cumulativeLoss }

theorem complete (related : Related book s w) {reported outbound cap : AssetAmount}
    (hOutbound : outbound.raw + s.activeAmount.raw = s.buckets.outboundInTransit.raw)
    (hCap : cap.raw = s.remotePrincipalCap.raw + s.activeAmount.raw)
    (evm : w.completeAllocation reported = .ok w') :
    Related book (AccountingModel.clearCycle { s with
      buckets := { s.buckets with
        outboundInTransit := outbound
        acceptedRemoteValue := AccountingModel.lesser reported cap }
      remotePrincipalCap := cap }) w' := by
  obtain ⟨completed, hCoordinator, hAsset⟩ := World.completeAllocation_ok.mp evm
  obtain ⟨outbound', cap', -, -, hOutbound', hCap', hVault⟩ :=
    Vault.completeAllocation_iff.mp completed
  cases w'
  cases hVault
  cases hAsset
  cases hCoordinator
  have outboundBefore := related.outboundInTransit
  have capBefore := related.remotePrincipalCap
  rw [related.amount] at hOutbound' hCap'
  simp only [Evm.toUint256_raw] at hOutbound' hCap'
  have capAfter : cap'.raw = cap.raw := by omega
  exact { related with
    outboundInTransit := by show outbound'.raw = outbound.raw; omega
    acceptedRemoteValue := by
      show (Vault.setAcceptedRemoteValue _ _).acceptedRemoteValue.raw =
        (AccountingModel.lesser reported cap).raw
      rw [Vault.setAcceptedRemoteValue_raw, AccountingModel.lesser_raw, Evm.toUint256_raw]
      show min reported.raw cap'.raw = _
      rw [capAfter]
    remotePrincipalCap := capAfter
    cycleKind := rfl
    transferId := rfl
    amount := rfl
    closeRequested := rfl }

theorem value (related : Related book s w) (loss : s.inboundCumulativeLoss = body.realizedLoss)
    (evm : w.applyRemoteValuation body = .ok w') :
    Related book { s with buckets := { s.buckets with
      acceptedRemoteValue := AccountingModel.lesser
        (AccountingModel.reportedOrRecallValue s body.reportedValue s.inboundCumulativeLoss)
        s.remotePrincipalCap } } w' := by
  obtain ⟨-, rfl⟩ := World.applyRemoteValuation_ok.mp evm
  have sameValue : (if w.coordinator.activeCycleKind = .recall then
      w.coordinator.valueDuringRecall body.realizedLoss else body.reportedValue) =
      AccountingModel.reportedOrRecallValue s body.reportedValue s.inboundCumulativeLoss := by
    unfold AccountingModel.reportedOrRecallValue AccountingModel.valueDuringRecall
      Evm.Coordinator.valueDuringRecall
    rw [related.cycleKind, related.baselineValue, related.baselineLoss, loss]
    cases s.activeCycle <;> rfl
  exact { related with
    acceptedRemoteValue := by
      show (Vault.setAcceptedRemoteValue _ _).acceptedRemoteValue.raw = _
      rw [Vault.setAcceptedRemoteValue_raw, sameValue, Evm.toUint256_raw,
        related.remotePrincipalCap]
      exact (AccountingModel.lesser_raw _ _).symm }

theorem lock (related : Related book s w) (assets : AccountingModel.AssetInv s)
    {epoch : AccountingModel.Epoch} {id : Evm.Uint64} (named : id = epoch.id) {sender : Address}
    {vault : Vault} (evm : w.vault.lockRemoteValuation sender id = .ok vault) :
    Related book
      { s with epochValuationLocked := s.epochValuationLocked.insert epoch.id s.managedBacking }
      { w with vault := vault } := by
  obtain ⟨backing, -, -, hBacking, rfl⟩ := Vault.lockRemoteValuation_iff.mp evm
  have value : backing.raw = s.managedBacking.raw := by
    rw [assets.managedBacking_raw, hBacking, related.idleBacking, related.outboundInTransit,
      related.acceptedRemoteValue, related.inboundInTransit]
    rfl
  exact { related with
    locks := by
      intro other
      show SameLock (s.epochValuationLocked.insert epoch.id s.managedBacking)[other]?
        (Function.update w.vault.epochRemoteValuationLocked id true other)
        (Function.update w.vault.lockedPricingAssets id backing other)
      rw [OrderedMap.getElem?_insert, Function.update_apply, Function.update_apply, named]
      by_cases here : other = epoch.id
      · rw [if_pos here, if_pos here, if_pos here.symm]
        exact ⟨rfl, value⟩
      · rw [if_neg here, if_neg here, if_neg (Ne.symm here)]
        exact related.locks other }

end Related

section Sequences

variable {loss : AssetAmount}

/-- What follows a completion: the valuation and, at a cutoff, the lock. -/
theorem valuation_related {id : Evm.Uint64} {sender : Address} {valued : World} {fixes : Bool}
    (related : Related book { s with inboundCumulativeLoss := body.realizedLoss } w)
    (reachable : AccountingModel.Reachable s) (running : s.closeRequested = false)
    (added : s.inboundCumulativeLoss.raw + loss.raw = body.realizedLoss.raw)
    (named : ∀ epoch, s.epoch = some epoch → id = epoch.id)
    (model : Run.run AccountingModel.apply s ([.applyRemoteValuation body.reportedValue loss] ++
      if fixes then [.lockRemoteValuation] else []) = .ok s')
    (values : w.applyRemoteValuation body = .ok valued)
    (locks : if fixes then ∃ vault, valued.vault.lockRemoteValuation sender id = .ok vault ∧
        w' = { valued with vault := vault }
      else w' = valued) : Related book s' w' := by
  obtain ⟨t, success, rest⟩ := Run.run_cons.mp model
  have after := related.value rfl values
  obtain ⟨cumulative, hCumulative, ⟨closing, -⟩ | ⟨-, rfl⟩⟩ :=
    AccountingModel.applyRemoteValuation_ok success
  · rw [running] at closing
    cases closing
  have sameLoss : cumulative = body.realizedLoss := Unsigned.ext (by omega)
  subst sameLoss
  cases fixes with
  | false =>
      cases Run.run_nil.mp rest
      cases locks
      exact after
  | true =>
      obtain ⟨last, locked, finished⟩ := Run.run_cons.mp rest
      cases Run.run_nil.mp finished
      obtain ⟨vault, evm, rfl⟩ := locks
      obtain ⟨closing, -⟩ | ⟨epoch, -, found, -, -, rfl⟩ :=
        AccountingModel.lockRemoteValuation_ok locked
      · have : s.closeRequested = true := closing
        rw [running] at this
        cases this
      · exact after.lock (reachable.step success).assetInv (named epoch found) evm

theorem report_related (related : Related book s w) (reachable : AccountingModel.Reachable s)
    (added : w.coordinator.lastInboundCumulativeLoss.raw + loss.raw = body.realizedLoss.raw)
    (applied : w.coordinator.closeRequested = true ∨ applies w msg header body = true)
    (model : Run.run AccountingModel.apply s (carriedOut w body loss) = .ok s')
    (evm : w.step hashing msg (.processRemoteReport authentic header body) = .ok w') :
    Related book s' w' := by
  obtain ⟨commitment, next, reason, success⟩ := processRemoteReport_ok evm
  rw [related.cumulativeLoss] at added
  have named : ∀ epoch, s.epoch = some epoch → w.vault.currentEpochId = epoch.id :=
    fun _ found => related.currentId found
  have known : Related book { s with inboundCumulativeLoss := body.realizedLoss }
      (acknowledged w body.realizedLoss commitment next) := related.acknowledge body.realizedLoss
  unfold carriedOut at model
  cases closing : w.coordinator.closeRequested with
  | true =>
      have closingModel : s.closeRequested = true := by rw [← related.closeRequested, closing]
      rw [if_pos closing] at model
      obtain ⟨t, valued, finished⟩ := Run.run_cons.mp model
      cases Run.run_nil.mp finished
      obtain ⟨cumulative, hCumulative, ⟨-, rfl⟩ | ⟨running, -⟩⟩ :=
        AccountingModel.applyRemoteValuation_ok valued
      · have sameLoss : cumulative = body.realizedLoss := Unsigned.ext (by omega)
        subst sameLoss
        cases World.applyReport_ok success with
        | skipped => exact known
        | completedAtPar _ running => exact absurd (closing.symm.trans running) (by decide)
        | priced _ _ _ running => exact absurd (closing.symm.trans running) (by decide)
      · rw [closingModel] at running
        cases running
  | false =>
      have running : s.closeRequested = false := by rw [← related.closeRequested, closing]
      rw [if_neg (by simp [closing]), List.append_assoc] at model
      have meets : applies w msg header body = true :=
        applied.resolve_left (by rw [closing]; decide)
      have none : reason = .none := applies_priced (w := acknowledged w body.realizedLoss commitment
        next) closing meets success
      subst none
      cases World.applyReport_ok success with
      | skipped _ skips => exact absurd rfl skips
      | completedAtPar _ _ _ fixed names _ completed =>
          rw [acknowledged_completes] at names
          rw [acknowledged_atCutoff, acknowledged_locked] at fixed
          rw [if_pos names, if_neg (by simp [fixed]), List.append_nil] at model
          obtain ⟨t, first, rest⟩ := Run.run_cons.mp model
          obtain ⟨t', second, finished⟩ := Run.run_cons.mp rest
          cases Run.run_nil.mp finished
          obtain ⟨closed, -⟩ | ⟨outbound, cap, -, -, -, hOutbound, hCap, rfl⟩ :=
            AccountingModel.completeAllocation_ok first
          · rw [running] at closed
            cases closed
          obtain ⟨cumulative, hCumulative, ⟨closed, -⟩ | ⟨-, rfl⟩⟩ :=
            AccountingModel.applyRemoteValuation_ok second
          · cases closed
          have sameLoss : cumulative = body.realizedLoss := by
            apply Unsigned.ext
            rw [hCumulative, ← added]
            rfl
          subst sameLoss
          exact known.complete hOutbound hCap completed
      | priced completed valued _ _ _ unfixed completes values locks =>
          have unlocked : w.atCutoff = true → w.locked = false := fun cutoff => (unfixed cutoff).1
          have fixes : (w.atCutoff && !w.locked) = w.atCutoff := by
            cases cutoff : w.atCutoff with
            | false => rfl
            | true => simp [unlocked cutoff]
          rw [fixes] at model
          by_cases names : w.completes body = true
          · rw [if_pos names] at model
            obtain ⟨t, first, rest⟩ := Run.run_cons.mp model
            obtain ⟨closed, -⟩ | ⟨outbound, cap, -, -, -, hOutbound, hCap, rfl⟩ :=
              AccountingModel.completeAllocation_ok first
            · rw [running] at closed
              cases closed
            rw [completeIfNamed_named (by simpa using names)] at completes
            exact valuation_related (known.complete hOutbound hCap completes)
              (reachable.step first) rfl added named rest values locks
          · rw [if_neg names, List.nil_append] at model
            rw [completeIfNamed_other (by simpa using names)] at completes
            cases completes
            exact valuation_related known reachable running added named model values locks

/-- A skipped report without new loss carries out nothing. -/
theorem skippedReport_related (related : Related book s w)
    (noLoss : body.realizedLoss = w.coordinator.lastInboundCumulativeLoss)
    (skipped : applies w msg header body = false)
    (evm : w.step hashing msg (.processRemoteReport authentic header body) = .ok w') :
    Related book s w' := by
  obtain ⟨commitment, next, reason, success⟩ := processRemoteReport_ok evm
  obtain rfl := skipped_unchanged (w := acknowledged w body.realizedLoss commitment next) skipped
    success
  exact related.acknowledgeNothing noLoss

theorem completion_related (related : Related book s w)
    (noLoss : body.realizedLoss = w.coordinator.lastInboundCumulativeLoss)
    (names : w.completes body = true) (closing : w.coordinator.closeRequested = false)
    (fixed : w.atCutoff = true → w.locked = true) (applied : applies w msg header body = true)
    (model : AccountingModel.completeAllocation s body.latestCompletedTransferId
      body.reportedValue = .ok s')
    (evm : w.step hashing msg (.processRemoteReport authentic header body) = .ok w') :
    Related book s' w' := by
  obtain ⟨commitment, next, reason, success⟩ := processRemoteReport_ok evm
  have running : s.closeRequested = false := by rw [← related.closeRequested, closing]
  have known : Related book s (acknowledged w body.realizedLoss commitment next) :=
    related.acknowledgeNothing noLoss
  obtain ⟨closed, -⟩ | ⟨outbound, cap, -, -, -, hOutbound, hCap, rfl⟩ :=
    AccountingModel.completeAllocation_ok model
  · rw [running] at closed
    cases closed
  have none : reason = .none := applies_priced (w := acknowledged w body.realizedLoss commitment
    next) closing applied success
  subst none
  cases World.applyReport_ok success with
  | skipped _ skips => exact absurd rfl skips
  | completedAtPar _ _ _ _ _ _ completed => exact known.complete hOutbound hCap completed
  | priced completed valued _ _ _ unfixed completes values locks =>
      have noCutoff : w.atCutoff = false := by
        by_contra cutoff
        have atCutoff : w.atCutoff = true := by simpa using cutoff
        exact absurd ((fixed atCutoff).symm.trans (unfixed atCutoff).1) (by decide)
      rw [acknowledged_atCutoff, if_neg (by simp [noCutoff])] at locks
      subst locks
      rw [completeIfNamed_named (by simpa using names)] at completes
      have after := known.complete hOutbound hCap completes
      have loss : s.inboundCumulativeLoss = body.realizedLoss := by
        rw [noLoss, related.cumulativeLoss]
      exact after.value loss values

/-- The value a report repeats is the accepted one. -/
theorem repeatedValue (reachable : AccountingModel.Reachable s) {reported : AssetAmount}
    (same : reported.raw = s.buckets.acceptedRemoteValue.raw) :
    AccountingModel.lesser (AccountingModel.reportedOrRecallValue s reported
      s.inboundCumulativeLoss) s.remotePrincipalCap = s.buckets.acceptedRemoteValue := by
  apply Unsigned.ext
  rw [AccountingModel.lesser_raw]
  unfold AccountingModel.reportedOrRecallValue
  split
  · rename_i recalling
    exact (reachable.recallInv.valued recalling).symm
  · have accepted := reachable.assetInv.accepted
    omega

theorem lock_related (related : Related book s w) (reachable : AccountingModel.Reachable s)
    (noLoss : body.realizedLoss = w.coordinator.lastInboundCumulativeLoss)
    (sameValue : body.reportedValue.raw = w.vault.acceptedRemoteValue.raw)
    (noCompletion : w.completes body = false) (closing : w.coordinator.closeRequested = false)
    (cutoff : w.atCutoff = true) (unfixed : w.locked = false)
    (applied : applies w msg header body = true)
    (model : AccountingModel.lockRemoteValuation s = .ok s')
    (evm : w.step hashing msg (.processRemoteReport authentic header body) = .ok w') :
    Related book s' w' := by
  obtain ⟨commitment, next, reason, success⟩ := processRemoteReport_ok evm
  have running : s.closeRequested = false := by rw [← related.closeRequested, closing]
  have known : Related book s (acknowledged w body.realizedLoss commitment next) :=
    related.acknowledgeNothing noLoss
  have loss : s.inboundCumulativeLoss = body.realizedLoss := by
    rw [noLoss, related.cumulativeLoss]
  obtain ⟨closed, -⟩ | ⟨epoch, -, found, -, -, rfl⟩ := AccountingModel.lockRemoteValuation_ok model
  · rw [running] at closed
    cases closed
  have none : reason = .none := applies_priced (w := acknowledged w body.realizedLoss commitment
    next) closing applied success
  subst none
  cases World.applyReport_ok success with
  | skipped _ skips => exact absurd rfl skips
  | completedAtPar _ _ _ fixed => exact absurd (unfixed.symm.trans fixed.2) (by decide)
  | priced completed valued _ _ _ _ completes values locks =>
      rw [completeIfNamed_other (by simpa using noCompletion)] at completes
      cases completes
      rw [acknowledged_atCutoff, if_pos cutoff] at locks
      obtain ⟨vault, locked, rfl⟩ := locks
      have after := known.value loss values
      rw [repeatedValue reachable (sameValue.trans related.acceptedRemoteValue)] at after
      exact after.lock reachable.assetInv (related.currentId found) locked

/-- While a close is pending, completions and locks change nothing on either side. -/
theorem pendingClose_related (related : Related book s w) {operation : Operation}
    (reported : operation = .lockRemoteValuation ∨
      ∃ transferId value, operation = .completeAllocation transferId value)
    (noLoss : body.realizedLoss = w.coordinator.lastInboundCumulativeLoss)
    (closing : w.coordinator.closeRequested = true)
    (model : AccountingModel.apply s operation = .ok s')
    (evm : w.step hashing msg (.processRemoteReport authentic header body) = .ok w') :
    Related book s' w' := by
  obtain ⟨commitment, next, reason, success⟩ := processRemoteReport_ok evm
  have pending : s.closeRequested = true := by rw [← related.closeRequested, closing]
  have unchanged : s' = s := by
    obtain rfl | ⟨transferId, value, rfl⟩ := reported
    · obtain ⟨-, same⟩ | ⟨_, running, -⟩ := AccountingModel.lockRemoteValuation_ok model
      · exact same
      · rw [pending] at running
        cases running
    · obtain ⟨-, same⟩ | ⟨_, _, running, -⟩ := AccountingModel.completeAllocation_ok model
      · exact same
      · rw [pending] at running
        cases running
  subst unchanged
  cases World.applyReport_ok success with
  | skipped => exact related.acknowledgeNothing noLoss
  | completedAtPar _ running => exact absurd (closing.symm.trans running) (by decide)
  | priced _ _ _ running => exact absurd (closing.symm.trans running) (by decide)

end Sequences

end Lockstep
