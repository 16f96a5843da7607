import CrossChainVault.Leg.Recalls
import CrossChainVault.Leg.Settings
import CrossChainVault.Strategy.Effects

set_option autoImplicit false

/- Where the tokens are along the runs of the leg with its adapter: the adapter holds the principal
the leg believes in, its vault holds that and everything ever lost, and no token is made or
destroyed but by its mint. -/

namespace Strategy

open Result
open Protocol (Bytes32)
open Leg (U64 UnixTimestamp Accounts Context Digests)
open Verifier (Pubkey)

/-- The loss the leg has booked so far. -/
def World.lost (w : World) : Nat := w.leg.position.cumulativeRealizedLoss.raw

namespace Action

/-- Tokens somebody sends to the adapter's vault. -/
def given : Action → Nat
  | .payVault amount => amount.raw
  | _ => 0

def minted : Action → Nat
  | .mintTo amount => amount.raw
  | _ => 0

def burned : Action → Nat
  | .burn amount => amount.raw
  | _ => 0

/-- Calls of the adapter that do not come from the leg. -/
def byStranger : Action → Bool
  | .depositExact .. => true
  | .withdrawForRemoteLeg .. => true
  | _ => false

/-- Transactions that neither bring the vault tokens nor change their number. -/
def Plain (action : Action) : Prop := action.given = 0 ∧ action.minted = 0 ∧ action.burned = 0

end Action

/-- What no transaction changes about the accounts. -/
structure SameAccounts (w w' : World) : Prop where
  remoteConfig : w'.remoteConfig = w.remoteConfig
  keys : w'.keys = w.keys
  escrow : w'.leg.config.outboundEscrow = w.leg.config.outboundEscrow
  vaultKey : w'.vault.key = w.vault.key
  vaultOwner : w'.vault.owner = w.vault.owner
  vaultMint : w'.vault.mint = w.vault.mint
  vaultDelegate : w'.vault.delegate = w.vault.delegate

theorem SameAccounts.refl (w : World) : SameAccounts w w := ⟨rfl, rfl, rfl, rfl, rfl, rfl, rfl⟩

theorem SameAccounts.trans {w w' w'' : World} (first : SameAccounts w w')
    (second : SameAccounts w' w'') : SameAccounts w w'' where
  remoteConfig := second.remoteConfig.trans first.remoteConfig
  keys := second.keys.trans first.keys
  escrow := second.escrow.trans first.escrow
  vaultKey := second.vaultKey.trans first.vaultKey
  vaultOwner := second.vaultOwner.trans first.vaultOwner
  vaultMint := second.vaultMint.trans first.vaultMint
  vaultDelegate := second.vaultDelegate.trans first.vaultDelegate

/-- The adapter keeps what it was initialized with. -/
def SameAdapter (s s' : AdapterState) : Prop :=
  s' = { s with
    depositsPaused := s'.depositsPaused
    principal := s'.principal
    maxLiquidPrincipal := s'.maxLiquidPrincipal
    lossBps := s'.lossBps }

/-- The leg moved by its own instructions, if at all. -/
def LegRuns (digests : Digests) (a a' : Accounts) : Prop :=
  ∃ inputs, Run.run (Accounts.accept digests) a inputs = .ok a'

/-- Tokens change hands, and nothing else happens. -/
structure Shift (digests : Digests) (w w' : World) : Prop where
  accounts : SameAccounts w w'
  adapter : w'.adapter = w.adapter
  leg : LegRuns digests w.leg w'.leg
  position : w'.leg.position = w.leg.position

/-- The adapter took the leg's principal in, or still has some. -/
def Funded (programs : Programs) (w : World) : Prop :=
  (∃ amount custodyLeft vaultNow principal,
    Counts programs w amount custodyLeft vaultNow principal) ∨
  w.leg.position.deployedPrincipal.raw ≠ 0

/-- What a transaction that is no stranger's does: the vault moves with the principal and the losses,
and by what it is given. -/
structure Ours (programs : Programs) (w w' : World) (given : Nat) : Prop where
  agrees : w.adapter.principal = w.leg.position.deployedPrincipal →
    w'.adapter.principal = w'.leg.position.deployedPrincipal
  vault : w'.vault.amount.raw + (w.adapter.principal.raw + w.lost) =
    w.vault.amount.raw + (w'.adapter.principal.raw + w'.lost) + given
  principal : w'.adapter.principal = w.adapter.principal ∨ Funded programs w

/-- Everything later arguments need to know of an accepted transaction. -/
structure Effect (programs : Programs) (digests : Digests) (w : World) (action : Action)
    (w' : World) : Prop where
  accounts : SameAccounts w w'
  adapter : SameAdapter w.adapter w'.adapter
  valid : w'.adapter.lossBps.raw ≤ maxBasisPoints.raw
  leg : LegRuns digests w.leg w'.leg
  supply : w'.supply + action.burned = w.supply + action.minted
  booked : (w'.leg.position.deployedPrincipal = w.leg.position.deployedPrincipal ∧
    w'.leg.position.cumulativeRealizedLoss = w.leg.position.cumulativeRealizedLoss) ∨
      Funded programs w
  ours : action.byStranger = false → Ours programs w w' action.given

section Steps

variable {programs : Programs} {digests : Digests} {w w' w'' : World} {ctx : Context}
  {transferId : Bytes32} {maximum amount balance : U64} {approved : Bool} {action : Action}

theorem LegRuns.refl (a : Accounts) : LegRuns digests a a := ⟨[], Run.run_nil.mpr rfl⟩

theorem LegRuns.one (ctx : Context) {a a' : Accounts} {instruction : Leg.Instruction}
    (success : a.step digests ctx instruction = .ok a') : LegRuns digests a a' :=
  ⟨[(ctx, instruction)], Run.run_one.mpr success⟩

theorem LegRuns.trans {a a' a'' : Accounts} (first : LegRuns digests a a')
    (second : LegRuns digests a' a'') : LegRuns digests a a'' := by
  obtain ⟨before, started⟩ := first
  obtain ⟨after, finished⟩ := second
  exact ⟨before ++ after, Run.run_append.mpr ⟨a', started, finished⟩⟩

theorem Shift.trans (first : Shift digests w w') (second : Shift digests w' w'') :
    Shift digests w w'' where
  accounts := first.accounts.trans second.accounts
  adapter := second.adapter.trans first.adapter
  leg := first.leg.trans second.leg
  position := second.position.trans first.position

/-- The token program moves tokens without asking the leg or the adapter. -/
theorem Shift.effect (shift : Shift digests w w') (valid : w.adapter.lossBps.raw ≤ maxBasisPoints.raw)
    (vault : w'.vault.amount.raw = w.vault.amount.raw + action.given)
    (supply : w'.supply + action.burned = w.supply + action.minted) :
    Effect programs digests w action w' where
  accounts := shift.accounts
  adapter := by
    rw [shift.adapter]
    rfl
  valid := by
    rw [shift.adapter]
    exact valid
  leg := shift.leg
  supply := supply
  booked := by
    rw [shift.position]
    exact .inl ⟨rfl, rfl⟩
  ours _ := by
    refine ⟨?_, ?_, .inl (congrArg AdapterState.principal shift.adapter)⟩
    · rw [shift.adapter, shift.position]
      exact id
    · unfold World.lost
      rw [shift.adapter, shift.position]
      omega

/-- The leg works on its own. -/
theorem KeepsTokens.effect {leg : Accounts} (keeps : KeepsTokens w.leg leg)
    (runs : LegRuns digests w.leg leg)
    (escrow : leg.config.outboundEscrow = w.leg.config.outboundEscrow)
    (valid : w.adapter.lossBps.raw ≤ maxBasisPoints.raw) (plain : action.Plain) :
    Effect programs digests w action { w with leg := leg } where
  accounts := ⟨rfl, rfl, escrow, rfl, rfl, rfl, rfl⟩
  adapter := rfl
  valid := valid
  leg := runs
  supply := by
    have tokens := keeps.tokens
    rw [plain.2.1, plain.2.2]
    unfold World.supply
    dsimp only
    omega
  booked := .inl ⟨keeps.deployed, keeps.loss⟩
  ours _ := by
    refine ⟨fun before => before.trans keeps.deployed.symm, ?_, .inl rfl⟩
    unfold World.lost
    rw [keeps.loss, plain.1]
    rfl

theorem own_effect {instruction : Leg.Instruction} {leg : Accounts}
    (keeps : KeepsTokens w.leg leg) (success : w.leg.step digests ctx instruction = .ok leg)
    (valid : w.adapter.lossBps.raw ≤ maxBasisPoints.raw) (plain : action.Plain) :
    Effect programs digests w action { w with leg := leg } :=
  keeps.effect (.one ctx success) (Leg.Accounts.step_outboundEscrow success) valid plain

theorem deployToStrategy_effect (ctx : Context) (distinct : w.Distinct)
    (valid : w.adapter.lossBps.raw ≤ maxBasisPoints.raw)
    (success : w.deployToStrategy programs approved amount = .ok w') :
    Effect programs digests w (.deployToStrategy approved amount) w' := by
  obtain ⟨-, custodyLeft, vaultNow, principal, leg, counts, moved, rfl⟩ :=
    (deployToStrategy_iff distinct).mp success
  have runs : LegRuns digests w.leg leg :=
    @LegRuns.one digests ctx _ _ (.deployToStrategy approved amount _) moved
  obtain ⟨deploys, -, unattributed, attributed, -, -, rfl⟩ :=
    Leg.Accounts.deployToStrategy_iff.mp moved
  have left := counts.left
  have arrived := counts.arrived
  have counted := counts.counted
  have funded : Funded programs w := .inl ⟨amount, custodyLeft, vaultNow, principal, counts⟩
  refine ⟨⟨rfl, rfl, rfl, rfl, rfl, rfl, rfl⟩, rfl, valid, runs, ?_, .inr funded, fun _ => ?_⟩
  · show custodyLeft.raw + w.leg.escrow.raw + vaultNow.raw + w.elsewhere.raw + 0 = w.supply + 0
    unfold World.supply
    omega
  · refine ⟨fun _ => rfl, ?_, .inr funded⟩
    show vaultNow.raw + (w.adapter.principal.raw + w.lost) =
      w.vault.amount.raw + (principal.raw + w.lost) + 0
    omega

theorem withdrawForRecall_effect (distinct : w.Distinct)
    (valid : w.adapter.lossBps.raw ≤ maxBasisPoints.raw)
    (success : w.withdrawForRecall programs ctx transferId maximum = .ok w') :
    Effect programs digests w (.withdrawForRecall transferId maximum) w' := by
  obtain ⟨before, _, request, returned, principal, vaultLeft, custodyNow, leg, requests, returns,
    moved, rfl⟩ := (withdrawForRecall_iff distinct valid).mp success
  have runs : LegRuns digests w.leg leg :=
    @LegRuns.one digests ctx _ _ (.withdrawForRecall transferId maximum _) moved
  have kept : leg.config.outboundEscrow = w.leg.config.outboundEscrow :=
    @Leg.Accounts.step_outboundEscrow digests w.leg leg ctx (.withdrawForRecall transferId maximum _)
      moved
  obtain ⟨record, record', position, reduction, gained, unattributed, withdraws, whole, booked, rfl⟩ :=
    Leg.Accounts.withdrawForRecall_iff.mp moved
  obtain ⟨hDeployed, hLoss, hCustody, hEscrow⟩ := @bookRecall_position w.leg ctx transferId record'
    position custodyNow w.leg.escrow
  have after : principal.raw + reduction = w.adapter.principal.raw := withdraws.after
  have custody : custodyNow.raw = w.leg.custody.raw + gained := withdraws.custody
  have left := returns.left
  have arrived := returns.arrived
  have split := withdraws.split
  have deployed : position.deployedPrincipal.raw + reduction =
    w.leg.position.deployedPrincipal.raw := booked.deployed
  have loss : position.cumulativeRealizedLoss.raw =
    w.leg.position.cumulativeRealizedLoss.raw + (reduction - gained) := booked.loss
  have agreed := Unsigned.raw_inj.mpr before
  have funded : Funded programs w := by
    have asks := requests.asks
    have nonzero := requests.nonzero
    exact .inr (by omega)
  refine ⟨⟨rfl, rfl, kept, rfl, rfl, rfl, rfl⟩, rfl, valid, runs, ?_, .inr funded, fun _ => ?_⟩
  · show (w.leg.bookRecall ctx transferId record' position custodyNow w.leg.escrow).custody.raw +
      (w.leg.bookRecall ctx transferId record' position custodyNow w.leg.escrow).escrow.raw +
      vaultLeft.raw + w.elsewhere.raw + 0 = w.supply + 0
    rw [hCustody, hEscrow]
    unfold World.supply
    omega
  · refine ⟨fun _ => ?_, ?_, .inr funded⟩
    · apply Unsigned.ext
      show principal.raw = (w.leg.bookRecall ctx transferId record' position custodyNow
        w.leg.escrow).position.deployedPrincipal.raw
      rw [hDeployed]
      omega
    · show vaultLeft.raw + (w.adapter.principal.raw + w.lost) = w.vault.amount.raw +
        (principal.raw + (w.leg.bookRecall ctx transferId record' position custodyNow
          w.leg.escrow).position.cumulativeRealizedLoss.raw) + 0
      rw [hLoss]
      unfold World.lost
      omega

theorem receiveCustody_shift (ctx : Context) {leg : Accounts} {left : U64}
    (success : w.leg.receiveCustody amount = .ok leg) :
    Shift digests w { w with leg := leg, elsewhere := left } ∧
      leg.custody.raw = w.leg.custody.raw + amount.raw ∧ leg.escrow = w.leg.escrow := by
  have runs : LegRuns digests w.leg leg :=
    @LegRuns.one digests ctx _ _ (.receiveCustody amount) success
  simp only [Leg.Accounts.receiveCustody, bind_eq_ok, Unsigned.checkedAdd_eq_ok,
    pure_eq_ok] at success
  obtain ⟨custody, hCustody, rfl⟩ := success
  exact ⟨⟨⟨rfl, rfl, rfl, rfl, rfl, rfl, rfl⟩, rfl, runs, rfl⟩, hCustody, rfl⟩

theorem moveEscrow_shift (ctx : Context) {leg : Accounts} {left : U64}
    (success : w.leg.moveEscrow balance = .ok leg) :
    Shift digests w { w with leg := leg, elsewhere := left } ∧ leg.custody = w.leg.custody ∧
      leg.escrow = balance := by
  have runs : LegRuns digests w.leg leg := @LegRuns.one digests ctx _ _ (.moveEscrow balance) success
  cases pure_eq_ok.mp success
  exact ⟨⟨⟨rfl, rfl, rfl, rfl, rfl, rfl, rfl⟩, rfl, runs, rfl⟩, rfl, rfl⟩

theorem debit_shift (ctx : Context) {account : Pubkey} (success : w.debit account amount = .ok w') :
    Shift digests w w' ∧ w'.supply + amount.raw = w.supply := by
  unfold World.debit at success
  by_cases vault : account = w.vault.key
  · rw [if_pos vault] at success
    simp only [bind_eq_ok, Unsigned.checkedSub_eq_ok, pure_eq_ok] at success
    obtain ⟨left, hLeft, rfl⟩ := success
    refine ⟨⟨⟨rfl, rfl, rfl, rfl, rfl, rfl, rfl⟩, rfl, .refl _, rfl⟩, ?_⟩
    unfold World.supply
    dsimp only
    omega
  · rw [if_neg vault] at success
    by_cases escrow : account = w.leg.config.outboundEscrow
    · rw [if_pos escrow] at success
      simp only [bind_eq_ok, mapError_eq_ok, Unsigned.checkedSub_eq_ok, pure_eq_ok] at success
      obtain ⟨left, hLeft, leg, moved, rfl⟩ := success
      obtain ⟨shift, hCustody, hEscrow⟩ := @moveEscrow_shift digests w left ctx leg w.elsewhere moved
      refine ⟨shift, ?_⟩
      unfold World.supply
      dsimp only
      rw [hCustody, hEscrow]
      omega
    · rw [if_neg escrow] at success
      simp only [bind_eq_ok, Unsigned.checkedSub_eq_ok, pure_eq_ok] at success
      obtain ⟨left, hLeft, rfl⟩ := success
      refine ⟨⟨⟨rfl, rfl, rfl, rfl, rfl, rfl, rfl⟩, rfl, .refl _, rfl⟩, ?_⟩
      unfold World.supply
      dsimp only
      omega

theorem credit_shift (ctx : Context) {account : Pubkey} (success : w.credit account amount = .ok w') :
    Shift digests w w' ∧ w'.supply = w.supply + amount.raw := by
  unfold World.credit at success
  by_cases vault : account = w.vault.key
  · rw [if_pos vault] at success
    simp only [bind_eq_ok, Unsigned.checkedAdd_eq_ok, pure_eq_ok] at success
    obtain ⟨arrived, hArrived, rfl⟩ := success
    refine ⟨⟨⟨rfl, rfl, rfl, rfl, rfl, rfl, rfl⟩, rfl, .refl _, rfl⟩, ?_⟩
    unfold World.supply
    dsimp only
    omega
  rw [if_neg vault] at success
  by_cases custody : account = w.keys.custodyTokenAccount
  · rw [if_pos custody] at success
    simp only [bind_eq_ok, mapError_eq_ok, pure_eq_ok] at success
    obtain ⟨leg, moved, rfl⟩ := success
    obtain ⟨shift, hCustody, hEscrow⟩ :=
      @receiveCustody_shift digests w amount ctx leg w.elsewhere moved
    refine ⟨shift, ?_⟩
    unfold World.supply
    dsimp only
    rw [hCustody, hEscrow]
    omega
  rw [if_neg custody] at success
  by_cases escrow : account = w.leg.config.outboundEscrow
  · rw [if_pos escrow] at success
    simp only [bind_eq_ok, mapError_eq_ok, Unsigned.checkedAdd_eq_ok, pure_eq_ok] at success
    obtain ⟨arrived, hArrived, leg, moved, rfl⟩ := success
    obtain ⟨shift, hCustody, hEscrow⟩ := @moveEscrow_shift digests w arrived ctx leg w.elsewhere moved
    refine ⟨shift, ?_⟩
    unfold World.supply
    dsimp only
    rw [hCustody, hEscrow]
    omega
  · rw [if_neg escrow] at success
    simp only [bind_eq_ok, Unsigned.checkedAdd_eq_ok, pure_eq_ok] at success
    obtain ⟨arrived, hArrived, rfl⟩ := success
    refine ⟨⟨⟨rfl, rfl, rfl, rfl, rfl, rfl, rfl⟩, rfl, .refl _, rfl⟩, ?_⟩
    unfold World.supply
    dsimp only
    omega

/-- A stranger's call changes the adapter's principal, and the tokens as the adapter moves them. -/
theorem Shift.stranger {s : AdapterState} (shift : Shift digests w w')
    (same : SameAdapter w.adapter s) (valid : s.lossBps.raw ≤ maxBasisPoints.raw)
    (supply : w'.supply = w.supply) (plain : action.Plain) (stranger : action.byStranger = true) :
    Effect programs digests w action { w' with adapter := s } where
  accounts := { shift.accounts with }
  adapter := same
  valid := valid
  leg := shift.leg
  supply := by
    rw [plain.2.1, plain.2.2]
    exact supply
  booked := .inl ⟨congrArg Leg.RemotePosition.deployedPrincipal shift.position,
    congrArg Leg.RemotePosition.cumulativeRealizedLoss shift.position⟩
  ours notStranger := by
    rw [stranger] at notStranger
    cases notStranger

theorem Shift.refl (w : World) : Shift digests w w := ⟨.refl w, rfl, .refl _, rfl⟩

theorem depositExact_effect {accounts : CallAccounts}
    (valid : w.adapter.lossBps.raw ≤ maxBasisPoints.raw)
    (success : w.depositExact programs accounts amount = .ok w') :
    Effect programs digests w (.depositExact accounts amount) w' := by
  simp only [World.depositExact, bind_eq_ok, mapError_eq_ok, AdapterState.depositExact_ok,
    pure_eq_ok] at success
  obtain ⟨-, -, _, ⟨-, -, -, principal, -, -, rfl⟩, rfl⟩ := success
  exact (Shift.refl w).stranger rfl valid rfl ⟨rfl, rfl, rfl⟩ rfl

theorem withdrawForRemoteLeg_effect (ctx : Context) {accounts : CallAccounts} {requested : U64}
    (valid : w.adapter.lossBps.raw ≤ maxBasisPoints.raw)
    (success : w.withdrawForRemoteLeg programs accounts requested = .ok w') :
    Effect programs digests w (.withdrawForRemoteLeg accounts requested) w' := by
  simp only [World.withdrawForRemoteLeg, bind_eq_ok, mapError_eq_ok, pure_eq_ok] at success
  obtain ⟨-, -, -, -, done, withdrew, returned, -, moved, hMoved, rfl⟩ := success
  have settings := AdapterState.withdrawForRemoteLeg_settings withdrew
  have same : SameAdapter w.adapter done.1 := by
    unfold SameAdapter
    rw [settings]
  have valid' : done.1.lossBps.raw ≤ maxBasisPoints.raw := by
    rw [settings]
    exact valid
  by_cases asset : accounts.adapterTokenVault.mint = w.keys.assetMint
  · rw [if_pos asset] at hMoved
    obtain ⟨paid, hPaid, hCredited⟩ := bind_eq_ok.mp hMoved
    obtain ⟨left, lowered⟩ := @debit_shift digests w paid returned ctx _ hPaid
    obtain ⟨arrived, raised⟩ := @credit_shift digests paid moved returned ctx _ hCredited
    exact (left.trans arrived).stranger same valid' (by omega) ⟨rfl, rfl, rfl⟩ rfl
  · rw [if_neg asset] at hMoved
    cases pure_eq_ok.mp hMoved
    exact (Shift.refl w).stranger same valid' rfl ⟨rfl, rfl, rfl⟩ rfl

theorem setFrozen_shift {account : Held} {frozen : Bool}
    (success : w.setFrozen account frozen = .ok w') :
    Shift digests w w' ∧ w'.vault.amount = w.vault.amount ∧ w'.supply = w.supply := by
  unfold World.setFrozen at success
  cases account with
  | custody =>
      simp only [bind_eq_ok, pure_eq_ok] at success
      obtain ⟨-, -, rfl⟩ := success
      exact ⟨⟨⟨rfl, rfl, rfl, rfl, rfl, rfl, rfl⟩, rfl, .refl _, rfl⟩, rfl, rfl⟩
  | vault =>
      simp only [bind_eq_ok, pure_eq_ok] at success
      obtain ⟨-, -, rfl⟩ := success
      exact ⟨⟨⟨rfl, rfl, rfl, rfl, rfl, rfl, rfl⟩, rfl, .refl _, rfl⟩, rfl, rfl⟩
  | escrow =>
      simp only [bind_eq_ok, pure_eq_ok] at success
      obtain ⟨-, -, -, -, rfl⟩ := success
      exact ⟨⟨⟨rfl, rfl, rfl, rfl, rfl, rfl, rfl⟩, rfl, .refl _, rfl⟩, rfl, rfl⟩

/-- One effect for every accepted transaction. -/
theorem step_effect {input : Context × Action} (distinct : w.Distinct)
    (valid : w.adapter.lossBps.raw ≤ maxBasisPoints.raw)
    (success : w.step programs digests input = .ok w') :
    Effect programs digests w input.2 w' := by
  obtain ⟨ctx, action⟩ := input
  have plain : ∀ {action : Action}, action.given = 0 → action.minted = 0 → action.burned = 0 →
    action.Plain := fun given minted burned => ⟨given, minted, burned⟩
  cases action with
  | own instruction alone =>
      simp only [World.step, bind_eq_ok, mapError_eq_ok, pure_eq_ok] at success
      obtain ⟨leg, moved, rfl⟩ := success
      exact own_effect (own_keepsTokens alone moved) moved valid (plain rfl rfl rfl)
  | deployToStrategy approved amount => exact deployToStrategy_effect ctx distinct valid success
  | withdrawForRecall transferId maximum => exact withdrawForRecall_effect distinct valid success
  | sendRecallAssets transferId maximum =>
      obtain ⟨-, -, -, leg, moved, rfl⟩ := (sendRecallAssets_iff distinct).mp success
      have moved' : w.leg.step digests ctx (.sendRecallAssets transferId maximum) = .ok leg := moved
      exact own_effect (send_keepsTokens moved) moved' valid (plain rfl rfl rfl)
  | publishRemoteReport epochId supplied =>
      simp only [World.step, bind_eq_ok, mapError_eq_ok, pure_eq_ok] at success
      obtain ⟨leg, moved, rfl⟩ := success
      have moved' : w.leg.step digests ctx (.publishRemoteReport epochId w.adapter.principal true
        supplied) = .ok leg := moved
      exact own_effect (report_keepsTokens moved) moved' valid (plain rfl rfl rfl)
  | configureAdapterTestConditions testAuthority conditions =>
      simp only [World.step, bind_eq_ok, mapError_eq_ok,
        AdapterState.configureAdapterTestConditions_ok, pure_eq_ok] at success
      obtain ⟨_, ⟨-, within, rfl⟩, rfl⟩ := success
      exact ⟨⟨rfl, rfl, rfl, rfl, rfl, rfl, rfl⟩, rfl, within, .refl _, rfl, .inl ⟨rfl, rfl⟩,
        fun _ => ⟨id, rfl, .inl rfl⟩⟩
  | depositExact accounts amount => exact depositExact_effect valid success
  | withdrawForRemoteLeg accounts requested => exact withdrawForRemoteLeg_effect ctx valid success
  | payCustody amount =>
      simp only [World.step, World.payCustody, bind_eq_ok, mapError_eq_ok, rejectIf_eq_ok,
        Unsigned.checkedSub_eq_ok, pure_eq_ok, exists_const] at success
      obtain ⟨-, left, hLeft, leg, moved, rfl⟩ := success
      obtain ⟨shift, hCustody, hEscrow⟩ := @receiveCustody_shift digests w amount ctx leg left moved
      refine shift.effect valid rfl ?_
      show leg.custody.raw + leg.escrow.raw + w.vault.amount.raw + left.raw + 0 = w.supply + 0
      rw [hEscrow]
      unfold World.supply
      omega
  | payVault amount =>
      simp only [World.step, World.payVault, bind_eq_ok, rejectIf_eq_ok, Unsigned.checkedSub_eq_ok,
        Unsigned.checkedAdd_eq_ok, pure_eq_ok, exists_const] at success
      obtain ⟨-, left, hLeft, vault, hVault, rfl⟩ := success
      refine Shift.effect ⟨⟨rfl, rfl, rfl, rfl, rfl, rfl, rfl⟩, rfl, .refl _, rfl⟩ valid hVault ?_
      show w.leg.custody.raw + w.leg.escrow.raw + vault.raw + left.raw + 0 = w.supply + 0
      unfold World.supply
      omega
  | moveEscrow balance =>
      simp only [World.step, World.moveEscrow, bind_eq_ok, mapError_eq_ok, rejectIf_eq_ok,
        Unsigned.checkedSub_eq_ok, Unsigned.checkedAdd_eq_ok, pure_eq_ok, exists_const] at success
      obtain ⟨-, -, both, hBoth, left, hLeft, leg, moved, rfl⟩ := success
      obtain ⟨shift, hCustody, hEscrow⟩ := @moveEscrow_shift digests w balance ctx leg left moved
      refine shift.effect valid rfl ?_
      show leg.custody.raw + leg.escrow.raw + w.vault.amount.raw + left.raw + 0 = w.supply + 0
      rw [hCustody, hEscrow]
      unfold World.supply
      omega
  | closeEscrow =>
      simp only [World.step, World.closeEscrow, bind_eq_ok, pure_eq_ok] at success
      obtain ⟨-, -, -, -, rfl⟩ := success
      exact Shift.effect ⟨⟨rfl, rfl, rfl, rfl, rfl, rfl, rfl⟩, rfl, .refl _, rfl⟩ valid rfl rfl
  | openEscrow =>
      simp only [World.step, World.openEscrow, bind_eq_ok, pure_eq_ok] at success
      obtain ⟨-, -, rfl⟩ := success
      exact Shift.effect ⟨⟨rfl, rfl, rfl, rfl, rfl, rfl, rfl⟩, rfl, .refl _, rfl⟩ valid rfl rfl
  | freezeAccount account =>
      obtain ⟨shift, vault, supply⟩ := @setFrozen_shift digests w w' account true success
      exact shift.effect valid (congrArg Unsigned.raw vault) supply
  | thawAccount account =>
      obtain ⟨shift, vault, supply⟩ := @setFrozen_shift digests w w' account false success
      exact shift.effect valid (congrArg Unsigned.raw vault) supply
  | mintTo amount =>
      simp only [World.step, World.mintTo, bind_eq_ok, Unsigned.checkedAdd_eq_ok,
        pure_eq_ok] at success
      obtain ⟨-, -, arrived, hArrived, rfl⟩ := success
      refine Shift.effect ⟨⟨rfl, rfl, rfl, rfl, rfl, rfl, rfl⟩, rfl, .refl _, rfl⟩ valid rfl ?_
      show w.leg.custody.raw + w.leg.escrow.raw + w.vault.amount.raw + arrived.raw + 0 =
        w.supply + amount.raw
      unfold World.supply
      omega
  | burn amount =>
      simp only [World.step, World.burn, bind_eq_ok, Unsigned.checkedSub_eq_ok,
        pure_eq_ok] at success
      obtain ⟨left, hLeft, rfl⟩ := success
      refine Shift.effect ⟨⟨rfl, rfl, rfl, rfl, rfl, rfl, rfl⟩, rfl, .refl _, rfl⟩ valid rfl ?_
      show w.leg.custody.raw + w.leg.escrow.raw + w.vault.amount.raw + left.raw + amount.raw =
        w.supply + 0
      unfold World.supply
      omega

end Steps

/-- What the setup fixed. -/
structure World.Keyed (programs : Programs) (w : World) : Prop where
  tokenProgram : w.keys.tokenProgram = programs.token
  adapterToken : w.adapter.tokenProgram = programs.token
  stateVersion : w.adapter.stateVersion = adapterStateVersion
  adapterState : w.keys.adapterState = AdapterState.address programs w.remoteConfig
  account : AdapterState.address programs w.adapter.remoteConfig = w.keys.adapterState
  authority : w.keys.adapterAuthority = AdapterState.authority programs w.keys.adapterState
  adapterAuthority : w.adapter.adapterAuthority = AdapterState.authority programs
    (AdapterState.address programs w.adapter.remoteConfig)
  custodyAuthority : w.keys.custodyAuthority =
    programs.derive custodyAuthoritySeed w.remoteConfig programs.remoteLeg
  vaultOwner : w.vault.owner = w.keys.adapterAuthority
  vaultMint : w.vault.mint = w.keys.assetMint
  mint : w.adapter.adapterTokenVault = w.vault.key → w.adapter.mint = w.vault.mint
  distinct : w.Distinct
  lossBps : w.adapter.lossBps.raw ≤ maxBasisPoints.raw

theorem World.Keyed.of_same {programs : Programs} {w w' : World} (keyed : w.Keyed programs)
    (accounts : SameAccounts w w') (adapter : SameAdapter w.adapter w'.adapter)
    (valid : w'.adapter.lossBps.raw ≤ maxBasisPoints.raw) : w'.Keyed programs := by
  unfold SameAdapter at adapter
  have config : w'.adapter.remoteConfig = w.adapter.remoteConfig := by rw [adapter]
  constructor
  · rw [accounts.keys]
    exact keyed.tokenProgram
  · rw [adapter]
    exact keyed.adapterToken
  · rw [adapter]
    exact keyed.stateVersion
  · rw [accounts.keys, accounts.remoteConfig]
    exact keyed.adapterState
  · rw [accounts.keys, config]
    exact keyed.account
  · rw [accounts.keys]
    exact keyed.authority
  · rw [config, adapter]
    exact keyed.adapterAuthority
  · rw [accounts.keys, accounts.remoteConfig]
    exact keyed.custodyAuthority
  · rw [accounts.keys, accounts.vaultOwner]
    exact keyed.vaultOwner
  · rw [accounts.keys, accounts.vaultMint]
    exact keyed.vaultMint
  · rw [accounts.vaultKey, accounts.vaultMint, adapter]
    exact keyed.mint
  · have distinct := keyed.distinct
    constructor
    · rw [accounts.keys, accounts.vaultKey]
      exact distinct.vault
    · rw [accounts.keys, accounts.escrow]
      exact distinct.escrow
    · rw [accounts.vaultDelegate]
      exact distinct.alone
  · exact valid

/-- Only the leg signs with the address the adapter takes its calls from. -/
def World.Served (programs : Programs) (w : World) : Prop :=
  w.adapter.remoteCaller programs = w.adapterCaller programs

/-- The adapter was initialized for this leg's caller address. -/
def Genesis.Served (programs : Programs) (g : Genesis) : Prop :=
  programs.derive adapterCallerSeed g.params.remoteConfig g.params.remoteLegProgram =
    programs.derive adapterCallerSeed g.remoteConfig programs.remoteLeg

/-- Nobody but the leg calls the adapter: nobody else can, or nobody else does. -/
def Genesis.Alone (programs : Programs) (g : Genesis) (inputs : List (Context × Action)) : Prop :=
  g.Served programs ∨ ∀ input ∈ inputs, input.2.byStranger = false

/-- The adapter agrees with the leg, and its vault covers it. -/
structure World.Held (w : World) : Prop where
  agrees : w.adapter.principal = w.leg.position.deployedPrincipal
  covered : w.adapter.principal.raw + w.lost ≤ w.vault.amount.raw

/-- The accounts the deployers named stay the accounts of the two. -/
structure World.Named (g : Genesis) (w : World) : Prop where
  remoteConfig : w.remoteConfig = g.remoteConfig
  vault : w.vault.key = g.vault.key
  adapterConfig : w.adapter.remoteConfig = g.params.remoteConfig
  adapterProgram : w.adapter.remoteLegProgram = g.params.remoteLegProgram
  adapterVault : w.adapter.adapterTokenVault = g.adapterVault.key

/-- A leg and an adapter as their deployers set them up. -/
structure Genesis.Creates (programs : Programs) (g : Genesis) (w : World) : Prop where
  leg : g.setup.create = .ok w.leg
  keyed : w.Keyed programs
  named : w.Named g
  principal : w.adapter.principal = .zero
  vault : w.vault = g.vault
  elsewhere : w.elsewhere = g.elsewhere
  supply : w.supply < 2 ^ 64

section Runs

variable {programs : Programs} {digests : Digests} {g : Genesis} {w w' : World}
  {inputs : List (Context × Action)}

theorem create_tokens {setup : Leg.Setup} {leg : Accounts} (created : setup.create = .ok leg) :
    leg.custody = setup.custody ∧ leg.escrow = setup.escrow ∧
      leg.config.outboundEscrow = setup.outboundEscrow := by
  simp only [Leg.Setup.create, bind_eq_ok, pure_eq_ok] at created
  obtain ⟨_, -, rfl⟩ := created
  exact ⟨rfl, rfl, rfl⟩

theorem Genesis.create_ok (created : g.create programs = .ok w) : g.Creates programs w := by
  simp only [create, checkAdapterVault, checkOutboundEscrow, bind_eq_ok, mapError_eq_ok,
    rejectIf_eq_ok, exists_const, ne_eq, not_not, Nat.not_le, Bool.not_eq_true,
    Option.isSome_eq_false_iff, Option.isNone_iff_eq_none, pure_eq_ok] at created
  obtain ⟨adapter, initialized, leg, started, ⟨escrow, -⟩, -, account,
    ⟨mint, owner, delegate, -, custody, -⟩, counted, rfl⟩ := created
  obtain ⟨version, principal, valid, config, program, token, adapterMint, vault, authority⟩ :=
    AdapterState.initializeAdapter_ok initialized
  obtain ⟨-, -, hEscrow⟩ := create_tokens started
  have keyed : World.Keyed programs {
      remoteConfig := g.remoteConfig
      keys := g.keys programs
      leg := leg
      adapter := adapter
      vault := g.vault
      custodyFrozen := g.custodyFrozen
      escrowOwner := g.escrowOwner
      escrowFrozen := g.escrowFrozen
      escrowClosed := false
      elsewhere := g.elsewhere } := {
    tokenProgram := rfl
    adapterToken := token
    stateVersion := version
    adapterState := rfl
    account := account
    authority := rfl
    adapterAuthority := by
      dsimp only
      rw [config]
      exact authority
    custodyAuthority := rfl
    vaultOwner := owner
    vaultMint := mint
    mint := by
      intro same
      dsimp only at same ⊢
      rw [adapterMint]
      exact g.sameMint (vault.symm.trans same)
    distinct := by
      refine ⟨fun same => custody same.symm, ?_, delegate⟩
      dsimp only
      rw [hEscrow]
      exact fun same => escrow same.symm
    lossBps := valid }
  exact ⟨started, keyed, ⟨rfl, rfl, config, program, vault⟩, principal, rfl, rfl, counted⟩

theorem Reached.snoc {input : Context × Action} (reached : Reached programs digests g inputs w)
    (success : w.step programs digests input = .ok w') :
    Reached programs digests g (inputs ++ [input]) w' := by
  obtain ⟨start, created, finished⟩ := reached
  exact ⟨start, created, Run.run_append.mpr ⟨w, finished, Run.run_one.mpr success⟩⟩

theorem World.Keyed.effect {input : Context × Action} (keyed : w.Keyed programs)
    (success : w.step programs digests input = .ok w') : Effect programs digests w input.2 w' :=
  step_effect keyed.distinct keyed.lossBps success

theorem keyed_step (w : World) (input : Context × Action) (w' : World)
    (success : w.step programs digests input = .ok w') (keyed : w.Keyed programs) :
    w'.Keyed programs := by
  have effect := keyed.effect success
  exact keyed.of_same effect.accounts effect.adapter effect.valid

/-- Reached worlds, with what every step needs to know about the one before. -/
theorem Reached.induct (Inv : World → Prop) (start : ∀ w, g.Creates programs w → Inv w)
    (preserved : ∀ input ∈ inputs, ∀ w w', w.Keyed programs →
      w.step programs digests input = .ok w' → Inv w → Inv w')
    (reached : Reached programs digests g inputs w) : Inv w := by
  obtain ⟨first, created, finished⟩ := reached
  have creates := Genesis.create_ok created
  refine (Run.run_preserves_of (fun w => w.Keyed programs ∧ Inv w) inputs ?_ first finished
    ⟨creates.keyed, start first creates⟩).2
  rintro input member w w' success ⟨keyed, holds⟩
  exact ⟨keyed_step w input w' success keyed, preserved input member w w' keyed success holds⟩

theorem Reached.keyed (reached : Reached programs digests g inputs w) : w.Keyed programs :=
  reached.induct (World.Keyed programs) (fun _ creates => creates.keyed)
    fun input _ w w' _ success keyed => keyed_step w input w' success keyed

theorem Reached.leg (reached : Reached programs digests g inputs w) :
    ∃ legInputs, Leg.Reached digests legInputs w.leg := by
  refine reached.induct (fun w => ∃ legInputs, Leg.Reached digests legInputs w.leg) ?_ ?_
  · intro w creates
    exact ⟨[], g.setup, w.leg, creates.leg, rfl⟩
  · rintro input - w w' keyed success ⟨before, setup, start, created, finished⟩
    obtain ⟨after, moved⟩ := (keyed.effect success).leg
    exact ⟨before ++ after, setup, start, created, Run.run_append.mpr ⟨w.leg, finished, moved⟩⟩

theorem World.Named.step {input : Context × Action} (named : w.Named g) (keyed : w.Keyed programs)
    (success : w.step programs digests input = .ok w') : w'.Named g := by
  have effect := keyed.effect success
  have accounts := effect.accounts
  have adapter := effect.adapter
  unfold SameAdapter at adapter
  constructor
  · rw [accounts.remoteConfig]
    exact named.remoteConfig
  · rw [accounts.vaultKey]
    exact named.vault
  · rw [adapter]
    exact named.adapterConfig
  · rw [adapter]
    exact named.adapterProgram
  · rw [adapter]
    exact named.adapterVault

theorem Reached.named (reached : Reached programs digests g inputs w) : w.Named g :=
  reached.induct (World.Named g) (fun _ creates => creates.named)
    fun _ _ _ _ keyed success named => named.step keyed success

theorem World.Named.served (named : w.Named g) (served : g.Served programs) :
    w.Served programs := by
  unfold World.Served AdapterState.remoteCaller World.adapterCaller
  rw [named.adapterConfig, named.adapterProgram, named.remoteConfig]
  exact served

/-- A stranger cannot call an adapter that takes its calls from the leg. -/
theorem World.Served.not_stranger {input : Context × Action} (served : w.Served programs)
    (success : w.step programs digests input = .ok w') : input.2.byStranger = false := by
  have refused : ∀ {accounts u}, w.checkStranger programs accounts ≠ .ok u := by
    intro accounts u passed
    simp only [World.checkStranger, bind_eq_ok, rejectIf_eq_ok] at passed
    obtain ⟨-, different, -⟩ := passed
    exact different served
  obtain ⟨ctx, action⟩ := input
  cases action
  case depositExact accounts amount =>
    obtain ⟨_, passed, -⟩ := bind_eq_ok.mp success
    exact absurd passed refused
  case withdrawForRemoteLeg accounts requested =>
    obtain ⟨_, passed, -⟩ := bind_eq_ok.mp success
    exact absurd passed refused
  all_goals rfl

theorem Genesis.Alone.step {input : Context × Action} (alone : g.Alone programs inputs)
    (member : input ∈ inputs) (named : w.Named g)
    (success : w.step programs digests input = .ok w') : input.2.byStranger = false := by
  cases alone with
  | inl served => exact (named.served served).not_stranger success
  | inr quiet => exact quiet input member

theorem Reached.held (alone : g.Alone programs inputs)
    (reached : Reached programs digests g inputs w) : w.Held := by
  refine (reached.induct (fun w => w.Named g ∧ w.Held) ?_ ?_).2
  · intro w creates
    have empty : w.leg.position = .empty := (Leg.Setup.create_fresh creates.leg).position
    refine ⟨creates.named, ?_, ?_⟩
    · rw [creates.principal, empty]
      rfl
    · unfold World.lost
      rw [creates.principal, empty]
      exact Nat.zero_le _
  · rintro input member w w' keyed success ⟨named, held⟩
    have ours := (keyed.effect success).ours (alone.step member named success)
    have vault := ours.vault
    have covered := held.covered
    exact ⟨named.step keyed success, ours.agrees held.agrees, by omega⟩

/-- The mint counts every token there is. -/
theorem Reached.supply (reached : Reached programs digests g inputs w) : w.supply < 2 ^ 64 := by
  refine reached.induct (fun w => w.supply < 2 ^ 64) (fun _ creates => creates.supply) ?_
  rintro input - w w' keyed success counted
  have supply := (keyed.effect success).supply
  obtain ⟨ctx, action⟩ := input
  cases action
  case mintTo amount =>
    simp only [World.step, World.mintTo, bind_eq_ok, rejectIf_eq_ok, Nat.not_le,
      exists_const] at success
    unfold Action.minted Action.burned at supply
    dsimp only at supply
    omega
  all_goals
    unfold Action.minted at supply
    dsimp only at supply
    omega

end Runs

/- A leg and an adapter of one deployment. -/

def samplePrograms : Programs where
  remoteLeg := 91
  strategy := 92
  token := 93
  tokens := .plain
  derive := fun seed key program =>
    .ofNat ((seed.map UInt8.toNat).sum * 1000000 + key.raw * 1000 + program.raw)

def sampleVault : TokenAccount where
  key := 50
  owner := AdapterState.authority samplePrograms (AdapterState.address samplePrograms 60)
  mint := 40
  delegate := none
  closeAuthority := none
  frozen := false
  amount := .zero

/-- An adapter that may pay out a hundred at a time and loses a tenth of it. -/
def sampleGenesis : Genesis where
  remoteConfig := 60
  administrator := 61
  assetMint := 40
  custodyTokenAccount := 51
  custodyFrozen := false
  setup := Leg.sampleSetup
  escrowOwner := 70
  escrowFrozen := false
  vault := sampleVault
  params := {
    remoteLegProgram := 91
    remoteConfig := 60
    testAuthority := 62
    maxLiquidPrincipal := 100
    lossBps := 1000 }
  adapterVault := sampleVault
  adapterMint := 40
  initializedAt := .zero
  elsewhere := 100000
  sameMint := fun _ => rfl

/-- An instruction the leg takes on its own. -/
def sampleOwn (input : Context × Leg.Instruction) (alone : isOwn input.2 = true) :
    Context × Action := (input.1, .own input.2 alone)

/-- Six hundred are allocated, arrive and are attributed. -/
def sampleFunding : List (Context × Action) :=
  [sampleOwn (Leg.sampleAllocate 1 600) rfl, (Leg.sampleContext, .payCustody 600),
    sampleOwn (Leg.sampleAttribution 1) rfl]

/-- Half of what arrived is deployed, and five hundred are recalled. -/
def sampleRecalling : List (Context × Action) :=
  sampleFunding ++ [(Leg.sampleContext, .deployToStrategy true 300),
    (Leg.sampleContext, .payVault 7), sampleOwn (Leg.sampleRecall 2 500) rfl]

/-- The sample world after these transactions. -/
def sampleWorld (inputs : List (Context × Action)) : Except Unit World := do
  let start ← (sampleGenesis.create samplePrograms).mapError fun _ => ()
  (Run.run (World.step samplePrograms · Leg.sampleDigests) start inputs).mapError fun _ => ()

theorem sampleGenesis_served : sampleGenesis.Served samplePrograms := rfl

theorem sampleWorld_reached {inputs : List (Context × Action)} {w : World}
    (finished : sampleWorld inputs = .ok w) :
    Reached samplePrograms Leg.sampleDigests sampleGenesis inputs w := by
  simp only [sampleWorld, bind_eq_ok, mapError_eq_ok] at finished
  exact finished

section Runs

variable {programs : Programs} {digests : Digests} {g : Genesis} {w w' : World}
  {inputs : List (Context × Action)}

/-- As long as nobody but the leg calls the adapter, and nobody else can call one that was set up for
the leg, the adapter holds in every reachable world exactly the principal the leg deployed, its vault
holds that principal, every loss the leg ever booked and whatever it was sent, and every token of the
asset is where it was sent. -/
theorem holdings (alone : g.Alone programs inputs)
    (reached : Reached programs digests g inputs w) :
    w.adapter.principal = w.leg.position.deployedPrincipal ∧
    w.vault.amount.raw = w.adapter.principal.raw + w.leg.position.cumulativeRealizedLoss.raw +
      g.vault.amount.raw + (inputs.map fun input => input.2.given).sum ∧
    w.leg.custody.raw + w.leg.escrow.raw + w.vault.amount.raw + w.elsewhere.raw +
        (inputs.map fun input => input.2.burned).sum =
      g.setup.custody.raw + g.setup.escrow.raw + g.vault.amount.raw + g.elsewhere.raw +
        (inputs.map fun input => input.2.minted).sum := by
  refine ⟨(reached.held alone).agrees, ?_, ?_⟩
  · obtain ⟨start, created, finished⟩ := reached
    have creates := Genesis.create_ok created
    have empty : start.leg.position = .empty := (Leg.Setup.create_fresh creates.leg).position
    have nothing : start.lost = 0 := by
      unfold World.lost
      rw [empty]
      rfl
    have whole := Run.run_balance_of (fun w => w.Keyed programs ∧ w.Named g)
      (fun w => w.vault.amount.raw) (fun w => w.adapter.principal.raw + w.lost)
      (fun input => input.2.given) (fun _ => 0) inputs
      (fun input _ w w' success before =>
        ⟨keyed_step w input w' success before.1, before.2.step before.1 success⟩)
      (fun input member w w' success before =>
        ((before.1.effect success).ours (alone.step member before.2 success)).vault) start finished
      ⟨creates.keyed, creates.named⟩
    have none : (inputs.map fun _ => 0).sum = 0 := by simp
    rw [creates.principal, nothing, creates.vault, Unsigned.zero_raw] at whole
    unfold World.lost at whole
    omega
  · obtain ⟨start, created, finished⟩ := reached
    have creates := Genesis.create_ok created
    obtain ⟨custody, escrow, -⟩ := create_tokens creates.leg
    have whole := Run.run_balance_of (World.Keyed programs) World.supply (fun _ => 0)
      (fun input => input.2.minted) (fun input => input.2.burned) inputs
      (fun input _ w w' success keyed => keyed_step w input w' success keyed)
      (fun input _ w w' success keyed => (keyed.effect success).supply) start finished creates.keyed
    unfold World.supply at whole
    rw [creates.vault, creates.elsewhere, custody, escrow] at whole
    exact whole

end Runs

/-- The vault holds the principal of a deployment and the seven it was sent. -/
theorem holdings_recalling : ∃ w, sampleWorld sampleRecalling = .ok w ∧
    w.leg.position.deployedPrincipal.raw = 300 ∧ w.vault.amount.raw = 307 := by
  have passes : (sampleWorld sampleRecalling).toOption.any
      (fun w => w.leg.position.deployedPrincipal.raw = 300 ∧
        w.leg.position.cumulativeRealizedLoss.raw = 0) = true := by
    decide +kernel
  obtain ⟨w, finished, holds⟩ := ok_of_any passes
  simp only [decide_eq_true_eq] at holds
  obtain ⟨agrees, vault, -⟩ := holdings (.inl sampleGenesis_served) (sampleWorld_reached finished)
  have given : (sampleRecalling.map fun input => input.2.given).sum = 7 := by decide +kernel
  have empty : sampleGenesis.vault.amount.raw = 0 := rfl
  refine ⟨w, finished, holds.1, ?_⟩
  rw [vault, agrees, given, empty]
  omega

end Strategy
