import CrossChainVault.Leg.Custody
import CrossChainVault.Strategy.Holdings

set_option autoImplicit false

/- The leg and an adapter set up for it never refuse each other: what each of the two calls needs,
exactly, and how a recall is unwound to its end. -/

namespace Strategy

open Result
open Protocol (Bytes32)
open Leg (U64 Accounts Context Digests TransferRecord RemotePosition)
open Verifier (Pubkey)

/-- The adapter's deployer named this leg, and both named the same vault. -/
structure Genesis.Wired (programs : Programs) (g : Genesis) : Prop where
  program : g.params.remoteLegProgram = programs.remoteLeg
  config : g.params.remoteConfig = g.remoteConfig
  vault : g.adapterVault.key = g.vault.key

/-- Only this leg can sign for the address such an adapter takes its calls from. -/
theorem Genesis.Wired.served {programs : Programs} {g : Genesis} (wired : g.Wired programs) :
    g.Served programs := by
  unfold Genesis.Served
  rw [wired.program, wired.config]

/-- The adapter works for this leg, and the leg with its vault. -/
structure World.Wired (programs : Programs) (w : World) : Prop where
  program : w.adapter.remoteLegProgram = programs.remoteLeg
  config : w.adapter.remoteConfig = w.remoteConfig
  vault : w.adapter.adapterTokenVault = w.vault.key

theorem World.Named.wired {programs : Programs} {g : Genesis} {w : World} (named : w.Named g)
    (wired : g.Wired programs) : w.Wired programs where
  program := named.adapterProgram.trans wired.program
  config := named.adapterConfig.trans (wired.config.trans named.remoteConfig.symm)
  vault := named.adapterVault.trans (wired.vault.trans named.vault.symm)

section Wiring

variable {programs : Programs} {w : World}

theorem World.Wired.knows (wired : w.Wired programs) (keyed : w.Keyed programs)
    {custody vault : TokenAccount} (same : vault.key = w.vault.key) :
    w.adapter.Knows programs (w.adapterCall programs custody vault) where
  token := keyed.tokenProgram
  remoteCaller := by
    unfold AdapterState.remoteCaller
    rw [wired.program, wired.config]
    rfl
  adapterState := keyed.account.symm
  stateVersion := keyed.stateVersion
  tokenProgram := keyed.tokenProgram.trans keyed.adapterToken.symm
  mint := keyed.vaultMint.symm.trans (keyed.mint wired.vault).symm
  adapterTokenVault := same.trans wired.vault.symm

theorem World.Wired.knowsCustody (wired : w.Wired programs) (keyed : w.Keyed programs) :
    w.adapter.KnowsCustody programs (w.adapterCall programs w.custody w.vault) where
  knows := wired.knows keyed rfl
  derived := keyed.authority
  adapterAuthority := by
    rw [keyed.adapterAuthority, keyed.account]
    exact keyed.authority
  custodyOwner := by
    unfold AdapterState.remoteCustodyAuthority
    rw [wired.program, wired.config]
    exact keyed.custodyAuthority
  custodyMint := (wired.knows keyed rfl : w.adapter.Knows programs
    (w.adapterCall programs w.custody w.vault)).mint

end Wiring

/-- Everything the two calls rely on, as every reachable world has it. -/
structure World.Sound (programs : Programs) (w : World) : Prop where
  keyed : w.Keyed programs
  wired : w.Wired programs
  held : w.Held
  supply : w.supply < 2 ^ 64
  recorded : w.leg.book.Recorded
  recalls : w.leg.book.Recalls
  capped : w.leg.book.Capped
  covered : w.leg.book.Covered
  shaped : w.leg.book.Shaped

section Reachable

variable {programs : Programs} {digests : Digests} {g : Genesis} {w w' : World}
  {inputs : List (Context × Action)} {ctx : Context} {amount : U64} {approved : Bool}

theorem Reached.sound (reached : Reached programs digests g inputs w) (wired : g.Wired programs) :
    w.Sound programs := by
  obtain ⟨legInputs, leg⟩ := reached.leg
  exact {
    keyed := reached.keyed
    wired := reached.named.wired wired
    held := reached.held (.inl wired.served)
    supply := reached.supply
    recorded := leg.recorded
    recalls := leg.recalls
    capped := leg.capped
    covered := leg.covered
    shaped := leg.shaped }

/-- A deployment that the leg's own rules allow goes through, unless deposits are paused or an account
is frozen. -/
theorem World.Sound.deploys (sound : w.Sound programs) (running : w.leg.config.frozen = false)
    (nonzero : amount.raw ≠ 0) (enough : amount.raw ≤ w.leg.position.attributedPrincipal.raw)
    (unpaused : w.adapter.depositsPaused = false) (custodyThawed : w.custodyFrozen = false)
    (vaultThawed : w.vault.frozen = false) :
    ∃ w', w.deployToStrategy programs true amount = .ok w' := by
  have covered : w.leg.position.accounted ≤ w.leg.custody.raw := sound.covered
  obtain ⟨unattributed, whole⟩ := explains covered
  have supply := sound.supply
  have held := sound.held.covered
  have agreed := Unsigned.raw_inj.mpr sound.held.agrees
  have capped : w.leg.position.principal + w.leg.book.outstanding ≤ w.leg.maxRemotePrincipal.raw :=
    sound.capped
  have ceiling := w.leg.maxRemotePrincipal.bound
  unfold World.supply at supply
  unfold RemotePosition.principal at capped
  unfold RemotePosition.accounted at covered
  have left : w.leg.custody.raw - amount.raw < 2 ^ 64 := by omega
  have arrived : w.vault.amount.raw + amount.raw < 2 ^ 64 := by omega
  have counted : w.adapter.principal.raw + amount.raw < 2 ^ 64 := by omega
  have attributed : w.leg.position.attributedPrincipal.raw - amount.raw < 2 ^ 64 := by omega
  have counts : Counts programs w amount ⟨_, left⟩ ⟨_, arrived⟩ ⟨_, counted⟩ := {
    custodyThawed := custodyThawed
    vaultThawed := vaultThawed
    sameMint := sound.keyed.vaultMint.symm
    left := by
      dsimp only
      omega
    arrived := rfl
    knows := sound.wired.knows sound.keyed rfl
    open' := unpaused
    counted := rfl
    backed := by
      dsimp only
      omega }
  have deploys : w.leg.Deploys amount (w.observe { w.adapter with principal := ⟨_, counted⟩ }
      { w.custody with amount := ⟨_, left⟩ } { w.vault with amount := ⟨_, arrived⟩ }) := {
    running := running
    covered := sound.covered
    nonzero := nonzero
    enough := enough
    control := controlKept_custody
    before := sound.held.agrees
    after := rfl
    vault := rfl
    custody := by
      show w.leg.custody.raw - amount.raw + amount.raw = w.leg.custody.raw
      omega }
  have moved := Leg.Accounts.deployToStrategy_iff.mpr ⟨deploys, rfl, unattributed,
    ⟨_, attributed⟩, whole, Nat.sub_add_cancel enough, rfl⟩
  exact ⟨_, (deployToStrategy_iff sound.keyed.distinct).mpr ⟨⟨running, sound.covered, nonzero, enough,
    sound.held.agrees, rfl⟩, _, _, _, _, counts, moved, rfl⟩⟩

end Reachable

section Unwinding

variable {programs : Programs} {digests : Digests} {g : Genesis} {w w' : World}
  {inputs : List (Context × Action)} {ctx : Context} {transferId : Bytes32} {maximum : U64}
  {record record' : TransferRecord}

/-- What the adapter unwinds of `unresolved` when asked for up to `maximum`. -/
def World.unwinds (w : World) (maximum unresolved : Nat) : Nat :=
  min (min maximum unresolved) w.adapter.maxLiquidPrincipal.raw

/-- What it loses of that. -/
def World.losesOf (w : World) (amount : Nat) : Nat := (lossRate w.adapter.lossBps).floor amount

/-- The running recall of a sound world. -/
structure World.Recalling (w : World) (transferId : Bytes32) (record : TransferRecord) : Prop where
  stored : w.leg.transferRecords transferId = some record
  kind : record.transferKind = .recall
  pending : record.status = .pending

theorem World.Recalling.opens (recalling : w.Recalling transferId record)
    (sound : w.Sound programs) : w.leg.book.Opens .recall .pending transferId record := by
  have names := sound.recorded.named transferId record recalling.stored (.inl recalling.pending)
  exact ⟨recalling.stored, recalling.kind, recalling.pending, names.kind.trans recalling.kind,
    names.transferId⟩

/-- The adapter still holds what the recall has not resolved. -/
theorem World.Recalling.deployed (recalling : w.Recalling transferId record)
    (sound : w.Sound programs) :
    record.unresolved ≤ w.leg.position.deployedPrincipal.raw := by
  have covered := (sound.recalls.running transferId record recalling.stored recalling.kind
    recalling.pending).covered
  change _ ≤ _ + w.leg.position.deployedPrincipal.raw at covered
  unfold TransferRecord.unresolved
  omega

theorem World.Recalling.unwound (recalling : w.Recalling transferId record)
    (sound : w.Sound programs) : record.Unwound := by
  refine sound.recalls.unwound transferId record recalling.stored recalling.kind ?_
  rw [recalling.pending]
  decide

/-- The request the leg makes for the running recall. -/
theorem World.Recalling.requests (recalling : w.Recalling transferId record)
    (sound : w.Sound programs) (positive : maximum.raw ≠ 0) (rest : record.unresolved ≠ 0) :
    Requests w.leg transferId maximum record (min maximum.raw record.unresolved) := by
  have deployed := recalling.deployed sound
  exact {
    active := recalling.opens sound
    shape := sound.shaped.recalls transferId record recalling.stored recalling.kind
    covered := sound.covered
    reserved := (recalling.unwound sound).within
    asks := by omega
    nonzero := by omega }

/-- The record a recall is stored with, complete if that was all. -/
theorem bookRecall_record {a : Accounts} {position : RemotePosition} {custody escrow : U64} :
    (a.bookRecall ctx transferId record position custody escrow).transferRecords transferId =
      some (if record.assetsSent.raw + record.realizedLoss.raw = record.requestedRecallAmount.raw
        then { record with status := .complete, completedAt := ctx.clock } else record) := by
  unfold Leg.Accounts.bookRecall Leg.Accounts.storeRecord
  split
  · exact Function.update_self _ _ _
  · exact Function.update_self _ _ _

/-- How far one withdrawal has taken the recall. -/
structure Resolved (w : World) (record record' : TransferRecord) (reduction : Nat) : Prop where
  kind : record'.transferKind = record.transferKind
  requested : record'.requestedRecallAmount = record.requestedRecallAmount
  sent : record'.assetsSent = record.assetsSent
  unresolved : record'.unresolved + reduction = record.unresolved
  lost : record'.realizedLoss.raw = record.realizedLoss.raw + w.losesOf reduction

theorem World.Recalling.some (recalling : w.Recalling transferId record)
    (sound : w.Sound programs) (positive : maximum.raw ≠ 0) (rest : record.unresolved ≠ 0)
    (liquid : w.adapter.maxLiquidPrincipal.raw ≠ 0) :
    w.adapter.reduction (min maximum.raw record.unresolved) =
        w.unwinds maximum.raw record.unresolved ∧
      w.unwinds maximum.raw record.unresolved ≠ 0 ∧
      w.unwinds maximum.raw record.unresolved ≤ min maximum.raw record.unresolved := by
  have deployed := recalling.deployed sound
  have agreed := Unsigned.raw_inj.mpr sound.held.agrees
  unfold AdapterState.reduction World.unwinds
  omega

/-- What an adapter that loses everything returns need not move. -/
def World.Returnable (w : World) : Prop :=
  w.adapter.lossBps.raw ≠ maxBasisPoints.raw → w.vault.frozen = false ∧ w.custodyFrozen = false

/-- The adapter answers the request for the running recall. -/
theorem World.Sound.returns {request reduction : Nat} (sound : w.Sound programs)
    (reduces : w.adapter.reduction request = reduction) (some : reduction ≠ 0)
    (returnable : w.Returnable) :
    ∃ returned principal vaultLeft custodyNow,
      Returns programs w request returned principal vaultLeft custodyNow := by
  have held := sound.held.covered
  have supply := sound.supply
  have vaultBound := w.vault.amount.bound
  have loses : w.losesOf reduction ≤ reduction :=
    lossRate_floor_le sound.keyed.lossBps reduction
  have below : reduction ≤ w.adapter.principal.raw := by
    unfold AdapterState.reduction at reduces
    omega
  unfold World.supply at supply
  have returned : reduction - w.losesOf reduction < 2 ^ 64 := by omega
  have principal : w.adapter.principal.raw - reduction < 2 ^ 64 := by omega
  have vaultLeft : w.vault.amount.raw - (reduction - w.losesOf reduction) < 2 ^ 64 := by omega
  have custodyNow : w.leg.custody.raw + (reduction - w.losesOf reduction) < 2 ^ 64 := by omega
  exact ⟨⟨_, returned⟩, ⟨_, principal⟩, ⟨_, vaultLeft⟩, ⟨_, custodyNow⟩, {
    knows := sound.wired.knowsCustody sound.keyed
    nonzero := by
      rw [reduces]
      exact some
    lost := by
      rw [reduces]
      exact Nat.sub_add_cancel loses
    may := by
      intro moves
      have partly : w.adapter.lossBps.raw ≠ maxBasisPoints.raw := by
        intro full
        have all : w.losesOf reduction = reduction := lossRate_full full reduction
        dsimp only at moves
        omega
      obtain ⟨vaultThawed, custodyThawed⟩ := returnable partly
      exact ⟨vaultThawed, custodyThawed, sound.keyed.vaultMint, sound.keyed.vaultOwner⟩
    unwound := by
      rw [reduces]
      exact Nat.sub_add_cancel below
    left := by
      dsimp only
      omega
    arrived := rfl }⟩

/-- The leg books whatever the adapter answered. -/
theorem World.Sound.books {request reduction : Nat} {returned principal vaultLeft custodyNow : U64}
    (sound : w.Sound programs) (recalling : w.Recalling transferId record)
    (reduces : w.adapter.reduction request = reduction) (some : reduction ≠ 0)
    (within : reduction ≤ min maximum.raw record.unresolved)
    (returns : Returns programs w request returned principal vaultLeft custodyNow) :
    ∃ record' position, Resolved w record record' reduction ∧ record'.status = .pending ∧
      w.leg.withdrawForRecall ctx transferId maximum (w.observe
        { w.adapter with principal := principal } { w.custody with amount := custodyNow }
        { w.vault with amount := vaultLeft }) =
        .ok (w.leg.bookRecall ctx transferId record' position custodyNow w.leg.escrow) := by
  have deployed := recalling.deployed sound
  have unwound := recalling.unwound sound
  have custody : w.leg.position.recalledCustody.raw + record.assetsSent.raw =
      record.custodyPrincipalReserved.raw + record.assetsWithdrawn.raw :=
    (sound.recalls.running transferId record recalling.stored recalling.kind
      recalling.pending).custody
  have agreed := Unsigned.raw_inj.mpr sound.held.agrees
  have held := sound.held.covered
  have vaultBound := w.vault.amount.bound
  have requestedBound := record.requestedRecallAmount.bound
  have split := unwound.split
  have reserved := unwound.within
  obtain ⟨unattributed, whole⟩ := explains sound.covered
  obtain ⟨-, -, lost, -, hPrincipal, hVault, hCustody⟩ := returns
  rw [reduces] at lost hPrincipal
  change returned.raw + w.losesOf reduction = reduction at lost
  unfold World.lost at held
  have withdraws : w.leg.Withdraws transferId maximum (w.observe
      { w.adapter with principal := principal } { w.custody with amount := custodyNow }
      { w.vault with amount := vaultLeft }) record reduction returned.raw := {
    active := recalling.opens sound
    shape := sound.shaped.recalls transferId record recalling.stored recalling.kind
    covered := sound.covered
    reserved := reserved
    control := controlKept_custody
    before := sound.held.agrees
    after := hPrincipal
    vault := hVault
    custody := hCustody
    nonzero := some
    within := by omega
    split := by omega
    settled := by
      unfold TransferRecord.unresolved at within
      omega }
  unfold TransferRecord.unresolved at within deployed
  obtain ⟨record', hRecord'⟩ : ∃ record', record' = { record with
      strategyPrincipalResolved := ⟨record.strategyPrincipalResolved.raw + reduction, by omega⟩
      assetsWithdrawn := ⟨record.assetsWithdrawn.raw + returned.raw, by omega⟩
      realizedLoss := ⟨record.realizedLoss.raw + (reduction - returned.raw), by omega⟩ } := ⟨_, rfl⟩
  have booked : Leg.Accounts.Booked
      { w.leg.position with unattributedCustody := unattributed }
      { w.leg.position with
        unattributedCustody := unattributed
        deployedPrincipal := ⟨w.leg.position.deployedPrincipal.raw - reduction, by omega⟩
        recalledCustody := ⟨w.leg.position.recalledCustody.raw + returned.raw, by omega⟩
        cumulativeRealizedLoss :=
          ⟨w.leg.position.cumulativeRealizedLoss.raw + (reduction - returned.raw), by omega⟩ }
      record record' reduction returned.raw := by
    subst hRecord'
    refine ⟨?_, rfl, rfl, rfl, rfl, rfl, rfl, rfl⟩
    dsimp only
    omega
  have moved := (@Leg.Accounts.withdrawForRecall_iff w.leg _ ctx transferId _ maximum).mpr
    ⟨record, record', _, reduction, returned.raw, unattributed, withdraws, whole, booked, rfl⟩
  refine ⟨record', _, ?_, ?_, moved⟩
  · subst hRecord'
    refine ⟨rfl, rfl, rfl, ?_, ?_⟩
    · unfold TransferRecord.unresolved
      dsimp only
      omega
    · dsimp only
      omega
  · subst hRecord'
    exact recalling.pending

/-- What decides about the next withdrawal and transfer of a recall. -/
structure World.SameTerms (w w' : World) : Prop where
  liquid : w'.adapter.maxLiquidPrincipal = w.adapter.maxLiquidPrincipal
  lossBps : w'.adapter.lossBps = w.adapter.lossBps
  custodyFrozen : w'.custodyFrozen = w.custodyFrozen
  vaultFrozen : w'.vault.frozen = w.vault.frozen
  escrowFrozen : w'.escrowFrozen = w.escrowFrozen
  escrowClosed : w'.escrowClosed = w.escrowClosed

theorem World.SameTerms.trans {w'' : World} (first : w.SameTerms w') (second : w'.SameTerms w'') :
    w.SameTerms w'' where
  liquid := second.liquid.trans first.liquid
  lossBps := second.lossBps.trans first.lossBps
  custodyFrozen := second.custodyFrozen.trans first.custodyFrozen
  vaultFrozen := second.vaultFrozen.trans first.vaultFrozen
  escrowFrozen := second.escrowFrozen.trans first.escrowFrozen
  escrowClosed := second.escrowClosed.trans first.escrowClosed

theorem World.SameTerms.returnable (terms : w.SameTerms w') (returnable : w.Returnable) :
    w'.Returnable := by
  unfold World.Returnable
  rw [terms.lossBps, terms.vaultFrozen, terms.custodyFrozen]
  exact returnable

/-- A withdrawal for the running recall goes through, whoever asks for it and whenever, as long as
the adapter may pay out anything at all and no frozen account is in its way. -/
theorem World.Sound.withdraws (sound : w.Sound programs)
    (recalling : w.Recalling transferId record) (positive : maximum.raw ≠ 0)
    (rest : record.unresolved ≠ 0) (liquid : w.adapter.maxLiquidPrincipal.raw ≠ 0)
    (returnable : w.Returnable) :
    ∃ w' record', w.withdrawForRecall programs ctx transferId maximum = .ok w' ∧
      w'.leg.transferRecords transferId = some record' ∧
      Resolved w record record' (w.unwinds maximum.raw record.unresolved) ∧
      (record'.status = .pending ∨ record'.status = .complete) ∧ w.SameTerms w' := by
  have requests := @World.Recalling.requests programs w transferId maximum record recalling sound
    positive rest
  obtain ⟨reduces, some, below⟩ := @World.Recalling.some programs w transferId maximum record
    recalling sound positive rest liquid
  obtain ⟨request, hRequest⟩ : ∃ request : U64, request.raw = min maximum.raw record.unresolved :=
    ⟨⟨_, Nat.lt_of_le_of_lt (Nat.min_le_left _ _) maximum.bound⟩, rfl⟩
  rw [← hRequest] at requests reduces
  obtain ⟨returned, principal, vaultLeft, custodyNow, returns⟩ :=
    sound.returns reduces some returnable
  obtain ⟨record', position, resolved, pending, moved⟩ := @World.Sound.books programs w ctx
    transferId maximum record _ _ _ _ _ _ sound recalling reduces some below returns
  have accepted := (withdrawForRecall_iff sound.keyed.distinct sound.keyed.lossBps).mpr
    ⟨sound.held.agrees, record, request, _, _, _, _, _, requests, returns, moved, rfl⟩
  refine ⟨_, _, accepted, bookRecall_record, ?_, ?_, ⟨rfl, rfl, rfl, rfl, rfl, rfl⟩⟩
  · split
    · exact ⟨resolved.kind, resolved.requested, resolved.sent, resolved.unresolved, resolved.lost⟩
    · exact resolved
  · split
    · exact .inr rfl
    · exact .inl pending

/-- How many withdrawals of at most `most` it takes. -/
def withdrawals (unresolved most : Nat) : Nat := (unresolved + most - 1) / most

theorem withdrawals_zero {unresolved most : Nat} (positive : most ≠ 0) :
    withdrawals unresolved most = 0 ↔ unresolved = 0 := by
  unfold withdrawals
  rw [Nat.div_eq_zero_iff]
  omega

theorem withdrawals_succ {unresolved most : Nat} (positive : most ≠ 0) (rest : unresolved ≠ 0) :
    withdrawals unresolved most = withdrawals (unresolved - min unresolved most) most + 1 := by
  unfold withdrawals
  rw [← Nat.add_div_right _ (Nat.pos_of_ne_zero positive)]
  by_cases enough : most ≤ unresolved
  · congr 1
    omega
  · have last : unresolved - min unresolved most = 0 := by omega
    rw [last, Nat.div_eq_of_lt_le (k := 1), Nat.div_eq_of_lt_le (k := 1)]
    all_goals omega

/-- A recall with nothing left to unwind: it is over, or waits to be sent on. -/
structure World.Unwound (w w' : World) (transferId : Bytes32) (record record' : TransferRecord)
    (unwound : Nat) : Prop where
  terms : w.SameTerms w'
  stored : w'.leg.transferRecords transferId = some record'
  kind : record'.transferKind = .recall
  requested : record'.requestedRecallAmount = record.requestedRecallAmount
  unresolved : record'.unresolved + unwound = record.unresolved
  status : record'.status = .pending ∨ record'.status = .complete
  lost : record'.realizedLoss.raw ≤ record.realizedLoss.raw + w.losesOf unwound

/-- The withdrawals of a recall, one after another. -/
def unwinding (transferId : Bytes32) (maximum : U64) (ctxs : List Context) :
    List (Context × Action) :=
  ctxs.map fun ctx => (ctx, .withdrawForRecall transferId maximum)

/-- Enough withdrawals unwind a running recall to its end, and splitting it up costs nothing. -/
theorem Reached.unwinds (wired : g.Wired programs) (positive : maximum.raw ≠ 0) (ctxs : List Context) :
    ∀ (inputs : List (Context × Action)) (w : World) (record : TransferRecord),
      Reached programs digests g inputs w → w.leg.transferRecords transferId = some record →
      record.transferKind = .recall → (record.status = .pending ∨ record.status = .complete) →
      w.adapter.maxLiquidPrincipal.raw ≠ 0 → w.Returnable →
      ctxs.length = withdrawals record.unresolved
        (min maximum.raw w.adapter.maxLiquidPrincipal.raw) →
      ∃ w' record', Run.run (World.step programs · digests) w (unwinding transferId maximum ctxs) =
          .ok w' ∧ w.Unwound w' transferId record record' record.unresolved := by
  induction ctxs with
  | nil =>
      intro inputs w record reached stored kind status liquid returnable enough
      have done : record.unresolved = 0 := (withdrawals_zero (by omega)).mp enough.symm
      refine ⟨w, record, Run.run_nil.mpr rfl, ⟨rfl, rfl, rfl, rfl, rfl, rfl⟩, stored, kind, rfl,
        by omega, status, ?_⟩
      exact Nat.le_add_right _ _
  | cons ctx ctxs ih =>
      intro inputs w record reached stored kind status liquid returnable enough
      have sound := reached.sound wired
      have rest : record.unresolved ≠ 0 := by
        intro done
        rw [(withdrawals_zero (by omega)).mpr done] at enough
        cases enough
      -- A complete recall has nothing left to unwind, so this one is still running.
      have pending : record.status = .pending := by
        refine status.resolve_right fun complete => rest ?_
        have whole := (sound.recalls.unwound transferId record stored kind (by
          rw [complete]
          decide)).whole complete
        unfold TransferRecord.unresolved
        omega
      obtain ⟨middle, record', accepted, stored', resolved, status', terms⟩ :=
        @World.Sound.withdraws programs w ctx transferId maximum record sound
          ⟨stored, kind, pending⟩ positive rest liquid returnable
      have next : Reached programs digests g
          (inputs ++ [(ctx, .withdrawForRecall transferId maximum)]) middle :=
        reached.snoc accepted
      have step : w.unwinds maximum.raw record.unresolved =
          min record.unresolved (min maximum.raw w.adapter.maxLiquidPrincipal.raw) := by
        unfold World.unwinds
        omega
      have hUnresolved := resolved.unresolved
      have left : record'.unresolved = record.unresolved -
          min record.unresolved (min maximum.raw w.adapter.maxLiquidPrincipal.raw) := by omega
      obtain ⟨w', last, finished, unwound⟩ := ih _ middle record' next stored'
        (resolved.kind.trans kind) status' (by rwa [terms.liquid])
        (terms.returnable returnable) (by
          rw [withdrawals_succ (by omega) rest, List.length_cons] at enough
          rw [terms.liquid, left]
          omega)
      have hLast := unwound.unresolved
      refine ⟨w', last, Run.run_cons.mpr ⟨middle, accepted, finished⟩, terms.trans unwound.terms,
        unwound.stored, unwound.kind, unwound.requested.trans resolved.requested, by omega, unwound.status, ?_⟩
      have first := resolved.lost
      have later := unwound.lost
      have same : middle.losesOf record'.unresolved = w.losesOf record'.unresolved := by
        unfold World.losesOf
        rw [terms.lossBps]
      have together := (lossRate w.adapter.lossBps).floor_add_le
        (w.unwinds maximum.raw record.unresolved) record'.unresolved
      have whole : w.unwinds maximum.raw record.unresolved + record'.unresolved =
          record.unresolved := by omega
      rw [whole] at together
      rw [same] at later
      unfold World.losesOf at *
      omega

/-- The last transfer of a recall. -/
def sendAll (transferId : Bytes32) (ctx : Context) : Context × Action :=
  (ctx, .sendRecallAssets transferId .max)

/-- A recall that is unwound is over once everything it holds is sent on. -/
theorem World.Sound.sends (sound : w.Sound programs) (recalling : w.Recalling transferId record)
    (done : record.unresolved = 0) (opened : w.escrowClosed = false)
    (escrowThawed : w.escrowFrozen = false) (custodyThawed : w.custodyFrozen = false) :
    ∃ w' record', w.step programs digests (sendAll transferId ctx) = .ok w' ∧
      w'.leg.transferRecords transferId = some record' ∧ record'.status = .complete ∧
      record'.realizedLoss = record.realizedLoss ∧
      record'.requestedRecallAmount = record.requestedRecallAmount ∧
      record'.assetsSent.raw + record'.realizedLoss.raw = record'.requestedRecallAmount.raw := by
  have unwound := recalling.unwound sound
  have running := sound.recalls.running transferId record recalling.stored recalling.kind
    recalling.pending
  have custody : w.leg.position.recalledCustody.raw + record.assetsSent.raw =
    record.custodyPrincipalReserved.raw + record.assetsWithdrawn.raw := running.custody
  have split := unwound.split
  have within := unwound.within
  have short : record.assetsSent.raw + record.realizedLoss.raw ≠
      record.requestedRecallAmount.raw := by
    intro whole
    have complete := unwound.complete.mpr whole
    rw [recalling.pending] at complete
    cases complete
  have covered : w.leg.position.accounted ≤ w.leg.custody.raw := sound.covered
  obtain ⟨unattributed, whole⟩ := explains sound.covered
  have supply := sound.supply
  have bound := w.leg.position.recalledCustody.bound
  have requestedBound := record.requestedRecallAmount.bound
  have maximum : (Unsigned.max : U64).raw = 2 ^ 64 - 1 := rfl
  unfold World.supply at supply
  unfold RemotePosition.accounted at covered
  unfold TransferRecord.unresolved at done
  obtain ⟨amount, hAmount⟩ : ∃ amount, amount = w.leg.position.recalledCustody.raw := ⟨_, rfl⟩
  have sends : w.leg.Sends transferId .max record amount := {
    active := recalling.opens sound
    shape := sound.shaped.recalls transferId record recalling.stored recalling.kind
    covered := sound.covered
    moves := by omega
    nonzero := by omega
    settled := by omega }
  have hSent : record.assetsSent.raw + amount < 2 ^ 64 := by omega
  have hLeft : w.leg.custody.raw - amount < 2 ^ 64 := by omega
  have hEscrow : w.leg.escrow.raw + amount < 2 ^ 64 := by omega
  have moved := (@Leg.Accounts.sendRecallAssets_iff w.leg _ ctx transferId .max).mpr
    ⟨record, amount, unattributed, .zero, ⟨_, hSent⟩, ⟨_, hLeft⟩, ⟨_, hEscrow⟩, sends, whole,
      (Nat.zero_add amount).trans hAmount, rfl, Nat.sub_add_cancel (by omega), rfl, rfl⟩
  have accepted := (@sendRecallAssets_iff programs w _ ctx transferId .max
    sound.keyed.distinct).mpr ⟨opened, escrowThawed, custodyThawed, _, moved, rfl⟩
  refine ⟨_, _, accepted, bookRecall_record, ?_, ?_, ?_, ?_⟩
  all_goals rw [if_pos (by dsimp only; omega)]
  dsimp only
  omega

/-- Unless everything is lost, some token moves. -/
theorem Returns.moves {request : Nat} {returned principal vaultLeft custodyNow : U64}
    (valid : w.adapter.lossBps.raw ≤ maxBasisPoints.raw)
    (returns : Returns programs w request returned principal vaultLeft custodyNow) :
    w.adapter.lossBps.raw = maxBasisPoints.raw ∨
      w.vault.frozen = false ∧ w.custodyFrozen = false := by
  by_cases full : w.adapter.lossBps.raw = maxBasisPoints.raw
  · exact .inl full
  · have partly : w.adapter.lossBps.raw < maxBasisPoints.raw := by omega
    have less := lossRate_floor_lt partly returns.nonzero
    have lost := returns.lost
    obtain ⟨vaultThawed, custodyThawed, -⟩ := returns.may (by omega)
    exact .inr ⟨vaultThawed, custodyThawed⟩

/-- What the leg's own rules allow, nobody refuses but the two that are asked: a deployment needs
nothing beyond them but that deposits are not paused and the mint froze neither account, a withdrawal
nothing but that the adapter may pay out anything at all and the tokens, if there are any, can move;
and none of the checks around the two calls can ever fail. -/
theorem calls_accepted (wired : g.Wired programs) (reached : Reached programs digests g inputs w) :
    (∀ ctx approved amount,
      Succeeds (w.step programs digests (ctx, .deployToStrategy approved amount)) ↔
        w.leg.config.frozen = false ∧ approved = true ∧ amount.raw ≠ 0 ∧
          amount.raw ≤ w.leg.position.attributedPrincipal.raw ∧ w.adapter.depositsPaused = false ∧
          w.custodyFrozen = false ∧ w.vault.frozen = false) ∧
    ∀ ctx transferId maximum,
      Succeeds (w.step programs digests (ctx, .withdrawForRecall transferId maximum)) ↔
        maximum.raw ≠ 0 ∧ w.adapter.maxLiquidPrincipal.raw ≠ 0 ∧
          (w.adapter.lossBps.raw = maxBasisPoints.raw ∨
            w.vault.frozen = false ∧ w.custodyFrozen = false) ∧
          ∃ record, w.leg.transferRecords transferId = some record ∧
            record.transferKind = .recall ∧ record.status = .pending ∧ record.unresolved ≠ 0 := by
  have sound := reached.sound wired
  constructor
  · intro ctx approved amount
    constructor
    · rintro ⟨w', success⟩
      obtain ⟨⟨running, -, nonzero, enough, -, approves⟩, _, _, _, _, counts, -⟩ :=
        (deployToStrategy_iff sound.keyed.distinct).mp success
      exact ⟨running, approves, nonzero, enough, counts.open', counts.custodyThawed,
        counts.vaultThawed⟩
    · rintro ⟨running, rfl, nonzero, enough, unpaused, custodyThawed, vaultThawed⟩
      exact sound.deploys running nonzero enough unpaused custodyThawed vaultThawed
  · intro ctx transferId maximum
    constructor
    · rintro ⟨w', success⟩
      obtain ⟨-, record, request, _, _, _, _, _, requests, returns, -, -⟩ :=
        (withdrawForRecall_iff sound.keyed.distinct sound.keyed.lossBps).mp success
      have asks := requests.asks
      have some := requests.nonzero
      have moves := returns.moves sound.keyed.lossBps
      have reduces := returns.nonzero
      unfold AdapterState.reduction at reduces
      exact ⟨by omega, by omega, moves, record, requests.active.stored, requests.active.hKind,
        requests.active.hStatus, by omega⟩
    · rintro ⟨positive, liquid, moves, record, stored, kind, pending, rest⟩
      have returnable : w.Returnable := fun partly => moves.resolve_left partly
      obtain ⟨w', -, accepted, -⟩ := @World.Sound.withdraws programs w ctx transferId maximum record
        sound ⟨stored, kind, pending⟩ positive rest liquid returnable
      exact ⟨w', accepted⟩

end Unwinding

theorem sampleGenesis_wired : sampleGenesis.Wired samplePrograms := ⟨rfl, rfl, rfl⟩

/-- The recall of the sample world still has two hundred to unwind, and may. -/
theorem calls_accepted_recalling : ∃ w, sampleWorld sampleRecalling = .ok w ∧
    Succeeds (w.step samplePrograms Leg.sampleDigests
      (Leg.sampleContext, .withdrawForRecall 2 .max)) := by
  have passes : (sampleWorld sampleRecalling).toOption.any (fun w =>
      (w.adapter.maxLiquidPrincipal.raw = 100 ∧ w.vault.frozen = false ∧ w.custodyFrozen = false) ∧
      (w.leg.transferRecords 2).any fun record => record.transferKind = .recall ∧
        record.status = .pending ∧ record.unresolved = 200) = true := by
    decide +kernel
  obtain ⟨w, finished, holds⟩ := ok_of_any passes
  simp only [decide_eq_true_eq, Option.any_eq_true] at holds
  obtain ⟨⟨liquid, thawed⟩, record, stored, kind, pending, rest⟩ := holds
  refine ⟨w, finished, ?_⟩
  apply ((calls_accepted sampleGenesis_wired (sampleWorld_reached finished)).2 _ _ _).mpr
  exact ⟨by decide, by omega, .inr thawed, record, stored, kind, pending, by omega⟩

section Completion

variable {programs : Programs} {digests : Digests} {g : Genesis} {w : World}
  {inputs : List (Context × Action)} {transferId : Bytes32} {maximum : U64}
  {record : TransferRecord}

end Completion

section Miswired

variable {programs : Programs} {digests : Digests} {g : Genesis} {w : World}
  {inputs : List (Context × Action)}

/-- The adapter was set up for another leg, or for another vault than the leg pays into. -/
def Genesis.Miswired (programs : Programs) (g : Genesis) : Prop :=
  ¬g.Served programs ∨ g.adapterVault.key ≠ g.vault.key

/-- Such an adapter turns the leg's deposits away. -/
theorem World.Named.not_funded (named : w.Named g) (miswired : g.Miswired programs)
    (deployed : w.leg.position.deployedPrincipal.raw = 0) : ¬Funded programs w := by
  rintro (⟨_, _, _, _, counts⟩ | some)
  · have caller : programs.derive adapterCallerSeed w.remoteConfig programs.remoteLeg =
        programs.derive adapterCallerSeed w.adapter.remoteConfig w.adapter.remoteLegProgram :=
      counts.knows.remoteCaller
    have vault : w.vault.key = w.adapter.adapterTokenVault := counts.knows.adapterTokenVault
    rw [named.remoteConfig, named.adapterConfig, named.adapterProgram] at caller
    rw [named.vault, named.adapterVault] at vault
    cases miswired with
    | inl unserved => exact unserved caller.symm
    | inr elsewhere => exact elsewhere vault.symm
  · exact some deployed

/-- An adapter that was set up for another leg, or for another vault than the leg pays into, never
gets hold of any principal of this leg's: the leg deploys nothing and loses nothing, and nothing but
a call of the adapter's own caller ever changes the principal it counts. -/
theorem stranger_never_funded (miswired : g.Miswired programs)
    (reached : Reached programs digests g inputs w) :
    w.leg.position.deployedPrincipal.raw = 0 ∧ w.leg.position.cumulativeRealizedLoss.raw = 0 ∧
      (∀ input w', w.step programs digests input = .ok w' → input.2.byStranger = false →
        w'.adapter.principal = w.adapter.principal) ∧
      ((∀ input ∈ inputs, input.2.byStranger = false) → w.adapter.principal.raw = 0) := by
  have nothing : w.Named g ∧ w.leg.position.deployedPrincipal.raw = 0 ∧
      w.leg.position.cumulativeRealizedLoss.raw = 0 := by
    refine reached.induct (fun w => w.Named g ∧ w.leg.position.deployedPrincipal.raw = 0 ∧
      w.leg.position.cumulativeRealizedLoss.raw = 0) ?_ ?_
    · intro w creates
      have empty : w.leg.position = .empty := (Leg.Setup.create_fresh creates.leg).position
      rw [empty]
      exact ⟨creates.named, rfl, rfl⟩
    · rintro input - w w' keyed success ⟨named, deployed, loss⟩
      obtain ⟨sameDeployed, sameLoss⟩ :=
        (keyed.effect success).booked.resolve_right (named.not_funded miswired deployed)
      rw [sameDeployed, sameLoss]
      exact ⟨named.step keyed success, deployed, loss⟩
  obtain ⟨named, deployed, loss⟩ := nothing
  refine ⟨deployed, loss, ?_, ?_⟩
  · intro input w' success ours
    have effect := reached.keyed.effect success
    exact (effect.ours ours).principal.resolve_right (named.not_funded miswired deployed)
  · intro quiet
    rw [(reached.held (.inr quiet)).agrees]
    exact deployed

end Miswired

/-- The sample adapter, but for another leg program. -/
def strangerGenesis : Genesis := { sampleGenesis with
  params := { sampleGenesis.params with remoteLegProgram := 94 } }

/-- The stranger counts five tokens that somebody sent to the vault; the leg has six hundred of
attributed principal and deploys none of it. -/
def sampleStrangers : List (Context × Action) :=
  sampleFunding ++ [(Leg.sampleContext, .payVault 5),
    (Leg.sampleContext, .depositExact {
      remoteCaller := samplePrograms.derive remoteCallerSeed 60 94
      adapterState := AdapterState.address samplePrograms 60
      adapterAuthority := sampleVault.owner
      remoteCustody := { sampleVault with key := 52 }
      adapterTokenVault := { sampleVault with amount := 5 }
      mint := 40
      tokenProgram := 93 } 5)]

theorem stranger_never_funded_attributed : ∃ start w,
    strangerGenesis.create samplePrograms = .ok start ∧
    Run.run (World.step samplePrograms · Leg.sampleDigests) start sampleStrangers = .ok w ∧
    w.adapter.principal.raw = 5 ∧ w.leg.position.attributedPrincipal.raw = 600 ∧
    w.leg.position.deployedPrincipal.raw = 0 := by
  have passes : (do
      let start ← (strangerGenesis.create samplePrograms).mapError fun _ => ()
      let w ← (Run.run (World.step samplePrograms · Leg.sampleDigests) start
        sampleStrangers).mapError fun _ => ()
      pure (start, w)).toOption.any (fun pair : World × World =>
        pair.2.adapter.principal.raw = 5 ∧ pair.2.leg.position.attributedPrincipal.raw = 600) =
      true := by
    decide +kernel
  obtain ⟨⟨start, w⟩, built, holds⟩ := ok_of_any passes
  simp only [bind_eq_ok, mapError_eq_ok, pure_eq_ok, Prod.mk.injEq] at built
  obtain ⟨start', created, w', finished, rfl, rfl⟩ := built
  have reached : Reached samplePrograms Leg.sampleDigests strangerGenesis sampleStrangers w' :=
    ⟨start', created, finished⟩
  simp only [decide_eq_true_eq] at holds
  have miswired : strangerGenesis.Miswired samplePrograms := by
    unfold Genesis.Miswired Genesis.Served
    decide
  exact ⟨start', w', created, finished, holds.1, holds.2,
    (stranger_never_funded miswired reached).1⟩

end Strategy
