import CrossChainVault.Leg.Program

set_option autoImplicit false

/- What each check and each operation on a single account comes to. -/

namespace Leg

open Result Protocol

variable {u : Unit} {failure : RemoteLegError}

section Numbers

variable {bits : Nat} {x y z : Unsigned bits}

@[simp] theorem checkedAdd_ok : checkedAdd x y = .ok z ↔ z.raw = x.raw + y.raw := by
  simp [checkedAdd]

@[simp] theorem checkedIncrement_ok {n m : U64} :
    checkedIncrement n = .ok m ↔ m.raw = n.raw + 1 := by
  simp [checkedIncrement]

@[simp] theorem widen_raw (n : U64) : (widen n).raw = n.raw := rfl

@[simp] theorem minimum_raw : (minimum x y).raw = min x.raw y.raw := by
  unfold minimum
  split
  · rename_i below
    exact (Nat.min_eq_left below).symm
  · rename_i above
    exact (Nat.min_eq_right (Nat.le_of_not_le above)).symm

@[simp] theorem narrowAmount_ok {amount : U128} {n : U64} :
    narrowAmount amount = .ok n ↔ n.raw = amount.raw := by
  unfold narrowAmount
  split
  · rw [Except.ok.injEq, ← Unsigned.raw_inj, eq_comm]
  · have := n.bound
    simp only [reduceCtorEq, false_iff]
    omega

@[simp] theorem UnixTimestamp.toU64_ok {time : UnixTimestamp} {n : U64} :
    time.toU64 failure = .ok n ↔ (n.raw : Int) = time.seconds := by
  unfold UnixTimestamp.toU64
  split
  · rw [Except.ok.injEq, ← Unsigned.raw_inj]
    dsimp only
    omega
  · simp only [reduceCtorEq, false_iff]
    omega

theorem narrowPool_raw (impaired : U128) :
    (Accounts.narrowPool impaired).raw = min impaired.raw (2 ^ 64 - 1) := by
  unfold Accounts.narrowPool
  split
  · rename_i fits
    show impaired.raw = min impaired.raw (2 ^ 64 - 1)
    omega
  · rename_i above
    show 2 ^ 64 - 1 = min impaired.raw (2 ^ 64 - 1)
    omega

end Numbers

@[simp] theorem checkAvailable_ok {α : Type} {account : Option α} :
    checkAvailable account failure = .ok u ↔ account = none := by
  simp [checkAvailable]

@[simp] theorem mapInvalid_ok {α : Type} {result : Except ValidationError α} {value : α} :
    mapInvalid result failure = .ok value ↔ result = .ok value := by
  cases result <;> simp [mapInvalid]

section Signers

variable {ctx : Context} {config : RemoteConfig} {now : U64}

@[simp] theorem Context.requireVerifier_ok :
    ctx.requireVerifier = .ok u ↔ ctx.transportVerifier = true := by
  simp [Context.requireVerifier]

/-- The leg runs, or the guardian signed. -/
def Context.Consents (ctx : Context) (config : RemoteConfig) : Prop :=
  config.frozen = false ∨ ctx.emergencyGuardian = true

@[simp] theorem Context.requireConsent_ok :
    ctx.requireConsent config = .ok u ↔ ctx.Consents config := by
  simp only [Context.requireConsent, Context.Consents, rejectIf_eq_ok, not_not]

@[simp] theorem Context.currentTime_ok :
    ctx.currentTime = .ok now ↔ (now.raw : Int) = ctx.clock.seconds := by
  simp [Context.currentTime]

end Signers

namespace RemotePosition

variable {p p' : RemotePosition}

/-- The buckets that explain custody, added up. -/
def accounted (p : RemotePosition) : Nat :=
  p.attributedPrincipal.raw + p.recalledCustody.raw + p.unattributedCustody.raw

/-- The principal the leg accepted, wherever it is invested. -/
def principal (p : RemotePosition) : Nat := p.attributedPrincipal.raw + p.deployedPrincipal.raw

@[simp] theorem checkNoActiveTransfer_ok :
    p.checkNoActiveTransfer = .ok u ↔ p.activeTransferKind = .none := by
  simp [checkNoActiveTransfer, hasActiveTransfer]

@[simp] theorem accountedCustody_ok {total : U64} :
    p.accountedCustody = .ok total ↔ total.raw = p.accounted := by
  simp only [accountedCustody, bind_eq_ok, checkedAdd_ok, accounted]
  constructor
  · rintro ⟨subtotal, first, second⟩
    omega
  · intro whole
    have := total.bound
    exact ⟨⟨p.attributedPrincipal.raw + p.recalledCustody.raw, by omega⟩, rfl, whole⟩

@[simp] theorem acceptedPrincipal_ok {total : U64} :
    p.acceptedPrincipal = .ok total ↔ total.raw = p.principal := by
  simp [acceptedPrincipal, principal]

@[simp] theorem committedPrincipal_ok {total : U64} :
    p.committedPrincipal = .ok total ↔ total.raw = p.principal + p.recalledCustody.raw := by
  simp only [committedPrincipal, bind_eq_ok, acceptedPrincipal_ok, checkedAdd_ok]
  constructor
  · rintro ⟨accepted, first, second⟩
    omega
  · intro whole
    have := total.bound
    exact ⟨⟨p.principal, by omega⟩, rfl, whole⟩

theorem attributeNow_ok {amount : U64} : p.attributeNow amount = .ok p' ↔
    ∃ unattributed attributed, unattributed.raw + amount.raw = p.unattributedCustody.raw ∧
      attributed.raw = p.attributedPrincipal.raw + amount.raw ∧
      p' = { p with unattributedCustody := unattributed, attributedPrincipal := attributed } := by
  simp only [attributeNow, bind_eq_ok, Unsigned.checkedSub_eq_ok, checkedAdd_ok, pure_eq_ok,
    eq_comm (a := p')]
  simp only [exists_and_left]

end RemotePosition

section Custody

variable {p p' : RemotePosition} {custody : U64}

theorem reconcile_ok : reconcile p custody = .ok p' ↔
    ∃ unattributed, p.accounted ≤ custody.raw ∧
      p.attributedPrincipal.raw + p.recalledCustody.raw + unattributed.raw = custody.raw ∧
      p' = { p with unattributedCustody := unattributed } := by
  simp only [reconcile, bind_eq_ok, RemotePosition.accountedCustody_ok, rejectIf_eq_ok,
    exists_const, Unsigned.lt_def, Nat.not_lt, Unsigned.checkedSub_eq_ok, checkedAdd_ok, pure_eq_ok]
  constructor
  · rintro ⟨total, hTotal, enough, surplus, hSurplus, unattributed, hUnattributed, rfl⟩
    refine ⟨unattributed, by omega, ?_, rfl⟩
    unfold RemotePosition.accounted at hTotal
    omega
  · rintro ⟨unattributed, enough, whole, rfl⟩
    have := custody.bound
    refine ⟨⟨p.accounted, by omega⟩, rfl, enough, ⟨custody.raw - p.accounted, by omega⟩, ?_,
      unattributed, ?_, rfl⟩
    · show custody.raw - p.accounted + p.accounted = _
      omega
    · show unattributed.raw = p.unattributedCustody.raw + (custody.raw - p.accounted)
      unfold RemotePosition.accounted at enough ⊢
      omega

@[simp] theorem checkIdentity_ok :
    checkIdentity p custody = .ok u ↔ custody.raw = p.accounted := by
  simp only [checkIdentity, bind_eq_ok, RemotePosition.accountedCustody_ok, rejectIf_eq_ok,
    not_not, ← Unsigned.raw_inj]
  constructor
  · rintro ⟨total, hTotal, same⟩
    exact same.trans hTotal
  · intro same
    exact ⟨custody, same, rfl⟩

@[simp] theorem checkDeployed_ok {principal : U64} :
    checkDeployed p principal = .ok u ↔ principal.raw = p.deployedPrincipal.raw := by
  simp [checkDeployed, Unsigned.raw_inj]

end Custody

namespace TransferRecord

variable {record : TransferRecord} {p : RemotePosition} {kind : TransferKind}

@[simp] theorem checkQuarantined_ok : record.checkQuarantined p = .ok u ↔
    record.status = .quarantined ∧ record.transferKind = p.activeTransferKind ∧
      record.transferId = p.activeTransferId ∧
      record.messageSequence = p.activeTransferSequence := by
  simp [checkQuarantined]

@[simp] theorem checkActive_ok : record.checkActive kind p = .ok u ↔
    record.transferKind = kind ∧ record.status = .pending ∧ p.activeTransferKind = kind ∧
      p.activeTransferId = record.transferId := by
  simp [checkActive]

/-- The fields only a recall uses are zero. -/
def AllocationShape (record : TransferRecord) : Prop :=
  record.requestedRecallAmount.raw = 0 ∧ record.custodyPrincipalReserved.raw = 0 ∧
    record.strategyPrincipalResolved.raw = 0 ∧ record.assetsWithdrawn.raw = 0 ∧
    record.assetsSent.raw = 0 ∧ record.realizedLoss.raw = 0

/-- The fields only an allocation uses are zero. -/
def RecallShape (record : TransferRecord) : Prop :=
  record.authorizedAmount.raw = 0 ∧ record.attributedAmount.raw = 0 ∧
    record.expectedSourceBalance.raw = 0

@[simp] theorem checkAllocationShape_ok :
    record.checkAllocationShape = .ok u ↔ record.AllocationShape := by
  simp only [checkAllocationShape, AllocationShape, rejectIf_eq_ok, not_not, Unsigned.isZero_iff]

@[simp] theorem checkRecallShape_ok : record.checkRecallShape = .ok u ↔ record.RecallShape := by
  simp only [checkRecallShape, RecallShape, rejectIf_eq_ok, not_not, Unsigned.isZero_iff]

@[simp] theorem outstandingAllocation_ok {outstanding : U64} :
    record.outstandingAllocation = .ok outstanding ↔
      outstanding.raw + record.attributedAmount.raw = record.authorizedAmount.raw := by
  simp [outstandingAllocation]

@[simp] theorem unresolvedRecallPrincipal_ok {unresolved : U64} :
    record.unresolvedRecallPrincipal = .ok unresolved ↔
      unresolved.raw + (record.custodyPrincipalReserved.raw + record.strategyPrincipalResolved.raw) =
        record.requestedRecallAmount.raw := by
  simp only [unresolvedRecallPrincipal, bind_eq_ok, checkedAdd_ok, Unsigned.checkedSub_eq_ok]
  constructor
  · rintro ⟨resolved, hResolved, rest⟩
    omega
  · intro whole
    have := record.requestedRecallAmount.bound
    exact ⟨⟨record.custodyPrincipalReserved.raw + record.strategyPrincipalResolved.raw,
      by omega⟩, rfl, whole⟩

end TransferRecord

section Recalls

variable {record : TransferRecord} {p : RemotePosition} {result : TransferRecord × RemotePosition}
  {now : UnixTimestamp}

theorem reserveRecallCustody_ok : reserveRecallCustody record p = .ok result ↔
    ∃ reserved attributed recalled,
      reserved.raw = min record.requestedRecallAmount.raw p.attributedPrincipal.raw ∧
      attributed.raw + reserved.raw = p.attributedPrincipal.raw ∧
      recalled.raw = p.recalledCustody.raw + reserved.raw ∧
      result = ({ record with custodyPrincipalReserved := reserved },
        { p with attributedPrincipal := attributed, recalledCustody := recalled }) := by
  simp only [reserveRecallCustody, bind_eq_ok, Unsigned.checkedSub_eq_ok, checkedAdd_ok,
    minimum_raw, pure_eq_ok]
  constructor
  · rintro ⟨attributed, hAttributed, recalled, hRecalled, rfl⟩
    exact ⟨_, attributed, recalled, minimum_raw, by rwa [minimum_raw], by rwa [minimum_raw], rfl⟩
  · rintro ⟨reserved, attributed, recalled, hReserved, hAttributed, hRecalled, rfl⟩
    have same : minimum record.requestedRecallAmount p.attributedPrincipal = reserved :=
      Unsigned.ext (minimum_raw.trans hReserved.symm)
    exact ⟨attributed, by rwa [← hReserved], recalled, by rwa [← hReserved], by rw [same]⟩

/-- A recall that sent and lost less than was requested stays open. -/
theorem settleRecall_ok (success : settleRecall record p now = .ok result) :
    record.assetsSent.raw + record.realizedLoss.raw ≤ record.requestedRecallAmount.raw ∧
      (record.assetsSent.raw + record.realizedLoss.raw ≠ record.requestedRecallAmount.raw ∧
          result = (record, p) ∨
        record.assetsSent.raw + record.realizedLoss.raw = record.requestedRecallAmount.raw ∧
          result = ({ record with status := .complete, completedAt := now },
            p.completeTransfer record.transferId now)) := by
  simp only [settleRecall, bind_eq_ok, checkedAdd_ok, rejectIf_eq_ok, exists_const,
    Unsigned.lt_def, Nat.not_lt] at success
  obtain ⟨settled, hSettled, within, success⟩ := success
  refine ⟨by omega, ?_⟩
  split at success
  · rename_i short
    rw [ne_eq, ← Unsigned.raw_inj] at short
    rw [pure_eq_ok] at success
    exact .inl ⟨by omega, success.symm⟩
  · rename_i whole
    rw [ne_eq, not_not, ← Unsigned.raw_inj] at whole
    rw [pure_eq_ok] at success
    exact .inr ⟨by omega, success.symm⟩

end Recalls

namespace TransportLedger

variable {ledger ledger' : TransportLedger}

/-- Every closed claim is credited, still impaired or recovered, exactly once. -/
def Balanced (ledger : TransportLedger) : Prop :=
  ledger.cumulativeClosedCredit.raw + ledger.impairedOutstanding.raw +
    ledger.cumulativeRecovered.raw = ledger.cumulativeClosedClaim.raw

@[simp] theorem checkBalanced_ok : ledger.checkBalanced = .ok u ↔ ledger.Balanced := by
  simp only [checkBalanced, Balanced, bind_eq_ok, checkedAdd_ok, rejectIf_eq_ok, not_not,
    ← Unsigned.raw_inj]
  constructor
  · rintro ⟨total, hTotal, explained, hExplained, same⟩
    omega
  · intro whole
    have := ledger.cumulativeClosedClaim.bound
    exact ⟨⟨ledger.cumulativeClosedCredit.raw + ledger.impairedOutstanding.raw, by omega⟩, rfl,
      ledger.cumulativeClosedClaim, whole.symm, rfl⟩

theorem recordClose_ok {claim credited sequence : U64} :
    ledger.recordClose claim credited sequence = .ok ledger' ↔
    ∃ closedClaim closedCredit impaired totalClosed, credited.raw ≤ claim.raw ∧
      closedClaim.raw = ledger.cumulativeClosedClaim.raw + claim.raw ∧
      closedCredit.raw = ledger.cumulativeClosedCredit.raw + credited.raw ∧
      impaired.raw = ledger.impairedOutstanding.raw + (claim.raw - credited.raw) ∧
      totalClosed.raw = ledger.totalClosed.raw + 1 ∧
      ledger' = { ledger with
        cumulativeClosedClaim := closedClaim
        cumulativeClosedCredit := closedCredit
        impairedOutstanding := impaired
        lastImpairedSequence :=
          if claim.raw = credited.raw then ledger.lastImpairedSequence else sequence
        totalClosed := totalClosed } ∧
      ledger'.Balanced := by
  simp only [recordClose, bind_eq_ok, Unsigned.checkedSub_eq_ok, checkedAdd_ok,
    checkedIncrement_ok, checkBalanced_ok, widen_raw, pure_eq_ok, exists_const]
  have pick : ∀ shortfall : U64, shortfall.raw + credited.raw = claim.raw →
      (if shortfall.isZero then ledger.lastImpairedSequence else sequence) =
        if claim.raw = credited.raw then ledger.lastImpairedSequence else sequence := by
    intro shortfall whole
    by_cases none : claim.raw = credited.raw
    · rw [if_pos none, if_pos (by simp; omega)]
    · rw [if_neg none, if_neg (by simp; omega)]
  constructor
  · rintro ⟨shortfall, whole, closedClaim, hClaim, closedCredit, hCredit, impaired, hImpaired,
      totalClosed, hTotal, balanced, rfl⟩
    rw [pick shortfall whole] at balanced ⊢
    exact ⟨closedClaim, closedCredit, impaired, totalClosed, by omega, hClaim, hCredit, by omega,
      hTotal, rfl, balanced⟩
  · rintro ⟨closedClaim, closedCredit, impaired, totalClosed, within, hClaim, hCredit, hImpaired,
      hTotal, rfl, balanced⟩
    have whole : (claim.saturatingSub credited).raw + credited.raw = claim.raw := by
      rw [Unsigned.saturatingSub_raw]
      omega
    refine ⟨claim.saturatingSub credited, whole, closedClaim, hClaim, closedCredit, hCredit,
      impaired, by rw [Unsigned.saturatingSub_raw]; exact hImpaired, totalClosed, hTotal, ?_⟩
    rw [pick _ whole]
    exact ⟨balanced, rfl⟩

theorem recordRecovery_ok {credited : U64} : ledger.recordRecovery credited = .ok ledger' ↔
    ∃ impaired recovered totalRecoveries,
      impaired.raw + credited.raw = ledger.impairedOutstanding.raw ∧
      recovered.raw = ledger.cumulativeRecovered.raw + credited.raw ∧
      totalRecoveries.raw = ledger.totalRecoveries.raw + 1 ∧
      ledger' = { ledger with
        impairedOutstanding := impaired
        cumulativeRecovered := recovered
        totalRecoveries := totalRecoveries } ∧
      ledger'.Balanced := by
  simp only [recordRecovery, bind_eq_ok, Unsigned.checkedSub_eq_ok, checkedAdd_ok,
    checkedIncrement_ok, checkBalanced_ok, widen_raw, pure_eq_ok, exists_const]
  constructor
  · rintro ⟨impaired, hImpaired, recovered, hRecovered, total, hTotal, balanced, rfl⟩
    exact ⟨impaired, recovered, total, hImpaired, hRecovered, hTotal, rfl, balanced⟩
  · rintro ⟨impaired, recovered, total, hImpaired, hRecovered, hTotal, rfl, balanced⟩
    exact ⟨impaired, hImpaired, recovered, hRecovered, total, hTotal, balanced, rfl⟩

end TransportLedger

end Leg
