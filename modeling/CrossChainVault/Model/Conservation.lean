import CrossChainVault.Base.Run
import CrossChainVault.Model.Steps

set_option autoImplicit false

/- Assets and shares over whole runs: nothing is created, lost or owned twice. -/

namespace AccountingModel

open Result

/-- A state some accepted genesis and some accepted sequence of operations lead to. -/
def Reachable (s : State) : Prop :=
  ∃ genesis start operations, State.new genesis = .ok start ∧
    Run.run apply start operations = .ok s

theorem Reachable.induct (Inv : State → Prop)
    (initial : ∀ genesis start, State.new genesis = .ok start → Inv start)
    (preserved : ∀ s op s', apply s op = .ok s' → Inv s → Inv s') {s : State}
    (reachable : Reachable s) : Inv s := by
  obtain ⟨genesis, start, operations, created, finished⟩ := reachable
  exact Run.run_preserves Inv preserved operations start finished (initial genesis start created)

theorem Reachable.step {s s' : State} {op : Operation} (reachable : Reachable s)
    (success : apply s op = .ok s') : Reachable s' := by
  obtain ⟨genesis, start, operations, created, finished⟩ := reachable
  refine ⟨genesis, start, operations ++ [op], created, Run.run_append.mpr ⟨s, finished, ?_⟩⟩
  exact Run.run_cons.mpr ⟨s', success, Run.run_nil.mpr rfl⟩

theorem Reachable.run {s s' : State} {operations : List Operation} (reachable : Reachable s)
    (finished : Run.run apply s operations = .ok s') : Reachable s' :=
  Run.run_preserves Reachable (fun _ _ _ success earlier => earlier.step success) operations s
    finished reachable

namespace State

def heldAssets (s : State) : Nat := OrderedMap.sumOf s.accounts fun _ account => account.assets.raw

def heldShares (s : State) : Nat := OrderedMap.sumOf s.accounts fun _ account => account.shares.raw

variable (s : State) (id : AccountId) (amount : Unsigned 128)

private theorem sumOf_update (f : Account → Nat) (empty : f .empty = 0) (account : Account) :
    OrderedMap.sumOf (s.accounts.insert id account) (fun _ a => f a) + f (s.account id) =
      OrderedMap.sumOf s.accounts (fun _ a => f a) + f account := by
  have moved := OrderedMap.sumOf_insert s.accounts (fun _ a => f a) id account
  have old : f (s.account id) = (s.accounts[id]?).elim 0 f := by
    unfold State.account
    cases s.accounts[id]? with
    | none => simpa using empty
    | some account => simp
  rw [old]
  exact moved

theorem heldAssets_setAssets :
    OrderedMap.sumOf (s.setAssets id amount) (fun _ a => a.assets.raw) +
      (s.account id).assets.raw = s.heldAssets + amount.raw :=
  sumOf_update s id (fun a => a.assets.raw) rfl _

theorem heldShares_setShares :
    OrderedMap.sumOf (s.setShares id amount) (fun _ a => a.shares.raw) +
      (s.account id).shares.raw = s.heldShares + amount.raw :=
  sumOf_update s id (fun a => a.shares.raw) rfl _

theorem heldShares_setAssets :
    OrderedMap.sumOf (s.setAssets id amount) (fun _ a => a.shares.raw) = s.heldShares :=
  Nat.add_right_cancel (sumOf_update s id (fun a => a.shares.raw) rfl _)

theorem heldAssets_setShares :
    OrderedMap.sumOf (s.setShares id amount) (fun _ a => a.assets.raw) = s.heldAssets :=
  Nat.add_right_cancel (sumOf_update s id (fun a => a.assets.raw) rfl _)

theorem account_assets_le : (s.account id).assets.raw ≤ s.heldAssets := by
  unfold State.account State.heldAssets
  cases found : s.accounts[id]? with
  | none => simp [Account.empty]
  | some account => exact OrderedMap.le_sumOf s.accounts (fun _ a => a.assets.raw) found

theorem account_shares_le : (s.account id).shares.raw ≤ s.heldShares := by
  unfold State.account State.heldShares
  cases found : s.accounts[id]? with
  | none => simp [Account.empty]
  | some account => exact OrderedMap.le_sumOf s.accounts (fun _ a => a.shares.raw) found

end State

/-- Every asset unit is in exactly one place. Inbound assets that wait for their recall notice
are outside the sum: the principal they repay is still in `remotePrincipalCap`. -/
structure AssetInv (s : State) : Prop where
  conserved : s.heldAssets + s.buckets.pendingDepositEscrow.raw + s.buckets.idleBacking.raw +
    s.buckets.claimReserve.raw + s.buckets.unattributedBalance.raw +
    s.buckets.outboundInTransit.raw + s.buckets.inboundInTransit.raw +
    s.remotePrincipalCap.raw + s.recognizedLoss.raw + s.impairedTransport.raw =
      s.initialAssetSupply.raw + s.externalInflow.raw
  accepted : s.buckets.acceptedRemoteValue.raw ≤ s.remotePrincipalCap.raw
  inflow : s.externalInflow.raw ≤ s.buckets.unattributedBalance.raw

private theorem openAccounts_held (entries : List (AccountId × AssetAmount)) :
    ∀ (accounts : OrderedMap AccountId Account) (supply : AssetAmount) opened,
    entries.foldlM (fun opened entry => do
      rejectIf (opened.1[entry.1]?.isSome) Rejection.duplicateAccount
      let supply ← checkedAdd opened.2 entry.2
      pure (opened.1.insert entry.1 (⟨entry.2, .zero⟩ : Account), supply)) (accounts, supply) =
        .ok opened →
    opened.2.raw + OrderedMap.sumOf accounts (fun _ a => a.assets.raw) =
        supply.raw + OrderedMap.sumOf opened.1 (fun _ a => a.assets.raw) ∧
      OrderedMap.sumOf opened.1 (fun _ a => a.shares.raw) =
        OrderedMap.sumOf accounts (fun _ a => a.shares.raw) := by
  induction entries with
  | nil =>
      intro accounts supply opened success
      simp only [List.foldlM_nil, pure_eq_ok] at success
      subst success
      exact ⟨rfl, rfl⟩
  | cons entry entries ih =>
      intro accounts supply opened success
      simp only [List.foldlM_cons, bind_eq_ok, rejectIf_eq_ok, exists_const, checkedAdd_ok,
        pure_eq_ok, Bool.not_eq_true, Option.isSome_eq_false_iff, Option.isNone_iff_eq_none]
        at success
      obtain ⟨_, ⟨absent, added, hAdded, rfl⟩, success⟩ := success
      have rest := ih _ _ opened success
      rw [OrderedMap.sumOf_insert_new _ _ _ _ absent, OrderedMap.sumOf_insert_new _ _ _ _ absent]
        at rest
      dsimp only at rest hAdded
      rw [Unsigned.zero_raw] at rest
      omega

theorem State.new_ok {genesis : Genesis} {s : State} (success : State.new genesis = .ok s) :
    ∃ virtualShares cutoffAt next accounts supply,
      virtualSharesFor genesis.config.assetDecimals genesis.config.shareDecimals =
        .ok virtualShares ∧
      next.raw = 1 ∧
      OrderedMap.sumOf accounts (fun _ a => a.assets.raw) + genesis.unattributedBalance.raw =
        supply.raw ∧
      OrderedMap.sumOf accounts (fun _ a => a.shares.raw) = 0 ∧
      s = State.atGenesis genesis virtualShares cutoffAt next accounts supply := by
  simp only [State.new, State.openAccounts, bind_eq_ok, checkedAdd_ok, epochId_next_ok, pure_eq_ok]
    at success
  obtain ⟨_, -, virtualShares, hVirtual, opened, hOpened, cutoffAt, -, next, hNext, rfl⟩ := success
  obtain ⟨assets, shares⟩ := openAccounts_held _ _ _ _ hOpened
  simp only [OrderedMap.sumOf_empty] at assets shares
  exact ⟨virtualShares, cutoffAt, next, opened.1, opened.2, hVirtual, hNext, by omega, shares, rfl⟩

theorem AssetInv.new {genesis : Genesis} {s : State} (success : State.new genesis = .ok s) :
    AssetInv s := by
  obtain ⟨_, _, _, accounts, supply, -, -, held, -, rfl⟩ := State.new_ok success
  refine ⟨?_, Nat.zero_le _, Nat.zero_le _⟩
  simp only [State.heldAssets, State.atGenesis, Buckets.unattributed, Unsigned.zero_raw]
  omega

theorem AssetInv.step {s s' : State} {op : Operation} (success : apply s op = .ok s')
    (inv : AssetInv s) : AssetInv s' := by
  have conserved := inv.conserved
  have accepted := inv.accepted
  have inflow := inv.inflow
  cases op with
  | requestDeposit account assets =>
      obtain ⟨_, remaining, _, _, _, -, -, -, -, -, -, hRemaining, hEscrow, -, -, rfl⟩ :=
        requestDeposit_iff.mp success
      have held := s.heldAssets_setAssets account remaining
      refine ⟨?_, accepted, inflow⟩
      simp only [State.heldAssets] at conserved held ⊢
      omega
  | cancelDeposit account =>
      obtain ⟨_, _, _, _, returned, _, -, -, -, -, -, -, -, hEscrow, -, hReturned, -, rfl⟩ :=
        cancelDeposit_iff.mp success
      have held := s.heldAssets_setAssets account returned
      refine ⟨?_, accepted, inflow⟩
      simp only [State.heldAssets] at conserved held ⊢
      omega
  | requestRedeem account shares =>
      obtain ⟨_, remaining, _, _, _, -, -, -, -, -, -, -, -, -, -, rfl⟩ := requestRedeem_iff.mp success
      have held := s.heldAssets_setShares account remaining
      refine ⟨?_, accepted, inflow⟩
      simp only [State.heldAssets] at conserved held ⊢
      omega
  | cancelRedeem account =>
      obtain ⟨_, _, _, _, returned, _, -, -, -, -, -, -, -, -, -, -, -, rfl⟩ :=
        cancelRedeem_iff.mp success
      have held := s.heldAssets_setShares account returned
      refine ⟨?_, accepted, inflow⟩
      simp only [State.heldAssets] at conserved held ⊢
      omega
  | cutoffEpoch now =>
      obtain ⟨_, -, -, -, -, rfl⟩ := cutoffEpoch_ok success
      exact ⟨conserved, accepted, inflow⟩
  | finalizeEpoch =>
      obtain ⟨_, _, _, _, _, _, _, _, _, _, _, -, -, -, -, -, hIdle, -, hEscrow, hReserve, -, -, -, -,
        -, rfl⟩ := finalizeEpoch_ok success
      refine ⟨?_, accepted, inflow⟩
      simp only [State.heldAssets] at conserved ⊢
      omega
  | abortEpoch actor =>
      obtain ⟨_, _, -, -, -, -, -, rfl⟩ := abortEpoch_ok success
      exact ⟨conserved, accepted, inflow⟩
  | claimDeposit account epoch =>
      obtain ⟨_, _, _, _, credited, -, -, -, -, -, -, rfl⟩ := claimDeposit_iff.mp success
      have held := s.heldAssets_setShares account credited
      refine ⟨?_, accepted, inflow⟩
      simp only [State.heldAssets] at conserved held ⊢
      omega
  | claimRedeem account epoch =>
      obtain ⟨_, _, _, _, credited, -, -, -, -, hReserve, hCredited, rfl⟩ :=
        claimRedeem_iff.mp success
      have held := s.heldAssets_setAssets account credited
      refine ⟨?_, accepted, inflow⟩
      simp only [State.heldAssets] at conserved held ⊢
      omega
  | claimAbortedDeposit account epoch =>
      obtain ⟨_, _, _, returned, -, -, -, hEscrow, hReturned, rfl⟩ :=
        claimAbortedDeposit_iff.mp success
      have held := s.heldAssets_setAssets account returned
      refine ⟨?_, accepted, inflow⟩
      simp only [State.heldAssets] at conserved held ⊢
      omega
  | claimAbortedRedeem account epoch =>
      obtain ⟨_, _, _, returned, -, -, -, -, -, rfl⟩ := claimAbortedRedeem_iff.mp success
      have held := s.heldAssets_setShares account returned
      refine ⟨?_, accepted, inflow⟩
      simp only [State.heldAssets] at conserved held ⊢
      omega
  | openNextEpoch now =>
      obtain ⟨_, _, -, -, -, -, -, rfl⟩ := openNextEpoch_ok success
      exact ⟨conserved, accepted, inflow⟩
  | pause actor =>
      obtain ⟨-, rfl⟩ := pause_ok success
      exact ⟨conserved, accepted, inflow⟩
  | unpause actor =>
      obtain ⟨-, rfl⟩ := unpause_ok success
      exact ⟨conserved, accepted, inflow⟩
  | freeze actor =>
      obtain ⟨-, rfl⟩ := freeze_ok success
      exact ⟨conserved, accepted, inflow⟩
  | beginAllocate actor transferId amount =>
      obtain ⟨_, _, _, -, -, -, -, -, -, -, -, hIdle, hOutbound, rfl⟩ := beginAllocate_ok success
      refine ⟨?_, accepted, inflow⟩
      simp only [State.heldAssets] at conserved ⊢
      omega
  | completeAllocation transferId reported =>
      obtain ⟨-, rfl⟩ | ⟨_, cap, -, -, -, hOutbound, hCap, rfl⟩ := completeAllocation_ok success
      · exact inv
      · refine ⟨?_, ?_, inflow⟩
        · simp only [State.heldAssets, clearCycle] at conserved ⊢
          omega
        · simp only [clearCycle, lesser_raw]
          omega
  | beginRecall actor transferId amount =>
      obtain ⟨-, -, -, -, -, -, rfl⟩ := beginRecall_ok success
      exact ⟨conserved, accepted, inflow⟩
  | acceptRecallSent transferId principal actual loss =>
      obtain ⟨_, _, _, _, _, _, _, -, -, -, hPrincipal, -, hCap, hAccepted, hRecognized, -, hIdle,
        hInbound, rfl⟩ := acceptRecallSent_iff.mp success
      refine ⟨?_, ?_, inflow⟩
      · simp only [State.heldAssets, clearCycle] at conserved ⊢
        omega
      · simp only [clearCycle]
        omega
  | observeInbound amount =>
      obtain ⟨_, _, _, _, _, -, hInbound, hIdle, -, hInflow, hBalance, rfl⟩ :=
        observeInbound_iff.mp success
      refine ⟨?_, accepted, ?_⟩
      · simp only [State.heldAssets] at conserved ⊢
        omega
      · dsimp only
        omega
  | applyRemoteValuation reported loss =>
      obtain ⟨_, -, ⟨-, rfl⟩ | ⟨-, rfl⟩⟩ := applyRemoteValuation_ok success
      · exact ⟨conserved, accepted, inflow⟩
      · refine ⟨conserved, ?_, inflow⟩
        simp only [lesser_raw]
        omega
  | lockRemoteValuation =>
      obtain ⟨-, rfl⟩ | ⟨_, -, -, -, -, rfl⟩ := lockRemoteValuation_ok success
      · exact inv
      · exact ⟨conserved, accepted, inflow⟩
  | requestClose actor transferId =>
      obtain ⟨-, -, -, -, rfl⟩ := requestClose_ok success
      exact ⟨conserved, accepted, inflow⟩
  | settleClose transferId credited =>
      obtain ⟨_, _, _, _, _, -, -, -, hCredited, hOutbound, hCap, hAccepted, hImpaired, -, rfl⟩ :=
        settleClose_ok success
      refine ⟨?_, ?_, inflow⟩
      · simp only [State.heldAssets, clearCycle] at conserved ⊢
        omega
      · simp only [clearCycle]
        omega
  | beginRecover actor transferId =>
      obtain ⟨-, -, -, -, -, rfl⟩ := beginRecover_ok success
      exact ⟨conserved, accepted, inflow⟩
  | settleRecover transferId credited =>
      obtain ⟨_, _, _, -, -, hImpaired, hCap, hAccepted, rfl⟩ := settleRecover_ok success
      refine ⟨?_, ?_, inflow⟩
      · simp only [State.heldAssets, clearCycle] at conserved ⊢
        omega
      · simp only [clearCycle]
        omega

theorem Reachable.assetInv {s : State} (reachable : Reachable s) : AssetInv s :=
  reachable.induct AssetInv (fun _ _ => AssetInv.new) (fun _ _ _ => AssetInv.step)

/-- The unbounded sum behind `managedBacking`. -/
def State.backing (s : State) : Nat :=
  s.buckets.idleBacking.raw + s.buckets.outboundInTransit.raw +
    s.buckets.acceptedRemoteValue.raw + s.buckets.inboundInTransit.raw

theorem AssetInv.backing_le {s : State} (inv : AssetInv s) :
    s.backing ≤ s.initialAssetSupply.raw := by
  have conserved := inv.conserved
  have accepted := inv.accepted
  have inflow := inv.inflow
  unfold State.backing
  omega

/-- Within the initial supply no step of the saturating sum can saturate. -/
theorem AssetInv.managedBacking_raw {s : State} (inv : AssetInv s) :
    s.managedBacking.raw = s.backing := by
  have covered := inv.backing_le
  have fits := s.initialAssetSupply.bound
  unfold State.backing at covered
  have first := s.buckets.idleBacking.saturatingAdd_raw_of_lt s.buckets.outboundInTransit (by omega)
  have second := (s.buckets.idleBacking.saturatingAdd
    s.buckets.outboundInTransit).saturatingAdd_raw_of_lt s.buckets.acceptedRemoteValue (by omega)
  have third := ((s.buckets.idleBacking.saturatingAdd s.buckets.outboundInTransit).saturatingAdd
    s.buckets.acceptedRemoteValue).saturatingAdd_raw_of_lt s.buckets.inboundInTransit (by omega)
  unfold State.managedBacking State.backing
  dsimp only
  omega

/-- Asset conservation, and the share price backing never saturates. -/
theorem assets_conserved {s : State} (reachable : Reachable s) :
    s.heldAssets + s.buckets.pendingDepositEscrow.raw + s.buckets.idleBacking.raw +
        s.buckets.claimReserve.raw + s.buckets.unattributedBalance.raw +
        s.buckets.outboundInTransit.raw + s.buckets.inboundInTransit.raw +
        s.remotePrincipalCap.raw + s.recognizedLoss.raw + s.impairedTransport.raw =
      s.initialAssetSupply.raw + s.externalInflow.raw ∧
    s.buckets.acceptedRemoteValue.raw ≤ s.remotePrincipalCap.raw ∧
    s.buckets.idleBacking.raw + s.buckets.outboundInTransit.raw +
        s.buckets.acceptedRemoteValue.raw + s.buckets.inboundInTransit.raw ≤
      s.initialAssetSupply.raw ∧
    s.managedBacking.raw = s.buckets.idleBacking.raw + s.buckets.outboundInTransit.raw +
      s.buckets.acceptedRemoteValue.raw + s.buckets.inboundInTransit.raw := by
  have inv := reachable.assetInv
  exact ⟨inv.conserved, inv.accepted, inv.backing_le, inv.managedBacking_raw⟩

/-- Creates a vault and runs the operations on it. -/
def runFrom (genesis : Genesis) (operations : List Operation) : Except Rejection State := do
  let start ← State.new genesis
  Run.run apply start operations

/-- A property that a concrete accepted run ends in holds of a reachable state. -/
theorem exists_reachable (P : State → Prop) [DecidablePred P] (genesis : Genesis)
    (operations : List Operation)
    (ends : (runFrom genesis operations).toOption.any (fun s => decide (P s)) = true) :
    ∃ s, Reachable s ∧ P s := by
  obtain ⟨s, result, holds⟩ := ok_of_any ends
  simp only [runFrom, bind_eq_ok] at result
  obtain ⟨start, created, finished⟩ := result
  exact ⟨s, ⟨genesis, start, operations, created, finished⟩, of_decide_eq_true holds⟩

def sampleHolder : AccountId := 3

def sampleAdmin : AccountId := 1

def sampleTransfer : TransferId := 7

/-- A vault of a six-decimal asset with two funded accounts; account 1 administers it. -/
def sampleGenesis : Genesis where
  config := {
    version := 1
    assetDecimals := 6
    shareDecimals := 18
    minDepositAssets := 1
    minRedeemShares := 1
    epochDuration := 100 }
  authority := ⟨sampleAdmin, 2⟩
  accounts := [(sampleHolder, 1000), (4, 1000)]
  unattributedBalance := .zero
  openedAt := 0

/-- One account deposits, the epoch settles, and part of the deposit goes to the remote leg. -/
def sampleAllocation : List Operation :=
  [.requestDeposit sampleHolder 900, .cutoffEpoch 100, .finalizeEpoch,
    .openNextEpoch 200,
    .beginAllocate sampleAdmin sampleTransfer 400]

theorem assets_conserved_in_transit : ∃ s, Reachable s ∧
    s.buckets.outboundInTransit.raw = 400 ∧
    s.heldAssets + s.buckets.pendingDepositEscrow.raw + s.buckets.idleBacking.raw +
        s.buckets.claimReserve.raw + s.buckets.unattributedBalance.raw +
        s.buckets.outboundInTransit.raw + s.buckets.inboundInTransit.raw +
        s.remotePrincipalCap.raw + s.recognizedLoss.raw + s.impairedTransport.raw =
      s.initialAssetSupply.raw + s.externalInflow.raw := by
  obtain ⟨s, reachable, sent⟩ := exists_reachable
    (fun s => s.buckets.outboundInTransit.raw = 400) sampleGenesis sampleAllocation
    (by decide +kernel)
  exact ⟨s, reachable, sent, (assets_conserved reachable).1⟩

end AccountingModel
