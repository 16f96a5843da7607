import CrossChainVault.Evm.Callers

set_option autoImplicit false

/- The way out of the vault contract: the guardian ends the epoch in the slot, every request is paid
one after another, and the vault owes nothing any more. -/

namespace Evm

open Result Protocol Tally

namespace Side

/-- A finalized epoch pays deposits in shares and redemptions in assets. -/
def paysShares : Side → Bool
  | deposit => true
  | redeem => false

/-- The other side of the books stays when one side is replaced. -/
theorem requests_deposits {b : Books} {r : Requests} {other : Side} (apart : other ≠ deposit) :
    other.requests { b with deposits := r } = other.requests b := by
  cases other with
  | deposit => exact absurd rfl apart
  | redeem => rfl

theorem requests_redeems {b : Books} {r : Requests} {other : Side} (apart : other ≠ redeem) :
    other.requests { b with redeems := r } = other.requests b := by
  cases other with
  | deposit => rfl
  | redeem => exact absurd rfl apart

/-- What a controller calls to be paid. -/
def payout (side : Side) (outcome : EpochOutcome) (epochId : Uint64) : Call :=
  match side, outcome with
  | deposit, .aborted => .refundDeposit epochId
  | deposit, _ => .claimDeposit epochId
  | redeem, .aborted => .refundRedeem epochId
  | redeem, _ => .claimRedeem epochId

/-- What the outcome of its epoch owes a request, in shares or in assets. -/
def owed (side : Side) (b : Books) (shares : Bool) (epochId : Uint64) (holder : Address) : Nat :=
  match (b.settled epochId).outcome with
  | .finalized =>
      if shares = side.paysShares then ((side.requests b).claimOf epochId holder).raw else 0
  | .aborted =>
      if shares = side.paysShares then 0
      else ((side.requests b).requestOf epochId holder).amount.raw
  | .none => 0

section Owed

variable {side : Side} {b : Books} {shares : Bool} {epochId : Uint64} {holder : Address}

theorem owed_finalized (finalized : (b.settled epochId).outcome = .finalized) :
    side.owed b shares epochId holder =
      if shares = side.paysShares then ((side.requests b).claimOf epochId holder).raw else 0 := by
  rw [owed, finalized]

theorem owed_aborted (aborted : (b.settled epochId).outcome = .aborted) :
    side.owed b shares epochId holder =
      if shares = side.paysShares then 0
      else ((side.requests b).requestOf epochId holder).amount.raw := by
  rw [owed, aborted]

end Owed

end Side

/- What all the pending requests of a side weigh together. -/

namespace Requests

variable {r : Requests} {epochId : Uint64} {controller : Address}

noncomputable def outstanding (r : Requests) (weight : Uint64 → Address → Nat) : Nat :=
  tally fun epochId => r.due epochId (weight epochId)

/-- Paying a request takes its weight off. -/
theorem outstanding_settle (weight : Uint64 → Address → Nat)
    (pending : (r.requestOf epochId controller).pending = true) :
    (r.settle epochId controller).outstanding weight + weight epochId controller =
      r.outstanding weight := by
  have changed := tally_changed epochId
    (f := fun other => (r.settle epochId controller).due other (weight other))
    (g := fun other => r.due other (weight other)) (by
      intro other elsewhere
      apply tally_congr
      intro holder
      rw [settle_requestOf_other elsewhere])
  have paid := due_settle (weight epochId) pending
  unfold outstanding
  omega

theorem due_eq_zero (none : ∀ holder, (r.requestOf epochId holder).pending = false)
    (amount : Address → Nat) : r.due epochId amount = 0 := by
  apply tally_eq_zero
  intro holder
  rw [none holder]
  rfl

theorem outstanding_eq_zero
    (none : ∀ epochId holder, (r.requestOf epochId holder).pending = false)
    (weight : Uint64 → Address → Nat) : r.outstanding weight = 0 := by
  apply tally_eq_zero
  intro epochId
  exact due_eq_zero (none epochId) (weight epochId)

/-- While something weighs there is a request to pay. -/
theorem exists_pending {weight : Uint64 → Address → Nat} (some : r.outstanding weight ≠ 0) :
    ∃ epochId holder, (r.requestOf epochId holder).pending = true := by
  by_contra none
  push Not at none
  apply some
  apply outstanding_eq_zero
  intro epochId holder
  exact Bool.eq_false_iff.mpr (none epochId holder)

theorem not_pending (none : r.outstanding (fun _ _ => 1) = 0) (epochId : Uint64)
    (holder : Address) : (r.requestOf epochId holder).pending = false := by
  by_contra pending
  rw [Bool.not_eq_false] at pending
  have paid := outstanding_settle (fun _ _ => 1) pending
  omega

end Requests

/- What everyone holds and is owed. -/

/-- What someone holds outside the vault, in shares or in assets. -/
def World.holding (w : World) (shares : Bool) (holder : Address) : Nat :=
  if shares then (w.vault.shares.balanceOf holder).raw else (w.asset.balanceOf holder).raw

noncomputable def World.sumBoth (w : World) (weight : Side → Uint64 → Address → Nat) : Nat :=
  w.vault.deposits.outstanding (weight .deposit) + w.vault.redeems.outstanding (weight .redeem)

/-- How many requests have not been paid. -/
noncomputable def World.waiting (w : World) : Nat := w.sumBoth fun _ _ _ => 1

/-- What the outcomes of all epochs owe one holder. -/
noncomputable def World.due (w : World) (shares : Bool) (holder : Address) : Nat :=
  w.sumBoth fun side epochId controller =>
    if controller = holder then side.owed w.vault.books shares epochId controller else 0

/-- What a payout does. -/
structure Paid (side : Side) (epochId : Uint64) (controller : Address) (w w' : World) : Prop where
  record : side.requests w'.vault.books =
    (side.requests w.vault.books).settle epochId controller
  others : ∀ other, other ≠ side → other.requests w'.vault.books = other.requests w.vault.books
  settled : w'.vault.settled = w.vault.settled
  epochOpen : w'.vault.epochOpen = w.vault.epochOpen
  asset : w'.asset = w.asset ∨ ∃ value,
    w.asset.call w.vault.self (.transfer controller value) = .ok w'.asset
  credited : ∀ (shares : Bool) (holder : Address), holder ≠ w.vault.self →
    w'.holding shares holder = w.holding shares holder +
      if controller = holder then side.owed w.vault.books shares epochId controller else 0

section Credited

variable {token after : Erc20} {vault receiver holder : Address} {value : Uint256}

theorem Erc20.Shifts.credited (shifted : token.Shifts vault receiver value after)
    (other : holder ≠ vault) : (after.balanceOf holder).raw =
      (token.balanceOf holder).raw + if receiver = holder then value.raw else 0 := by
  have exact := shifted.exact holder
  rw [if_neg other] at exact
  simpa only [Nat.add_zero, eq_comm] using exact

/-- A payment of nothing is not made. -/
theorem unlessZero_credited {α : Type} {still moved : α} {movement : Except Revert α}
    (ledger : α → Erc20) (success : unlessZero value still movement = .ok moved)
    (shifts : movement = .ok moved → (ledger still).Shifts vault receiver value (ledger moved))
    (other : holder ≠ vault) : ((ledger moved).balanceOf holder).raw =
      ((ledger still).balanceOf holder).raw + if receiver = holder then value.raw else 0 := by
  obtain ⟨nothing, rfl⟩ | ⟨-, success⟩ := unlessZero_ok success
  · rw [nothing, ite_self, Nat.add_zero]
  · exact (shifts success).credited other

end Credited

section Payout

variable {hashing : Hashing} {vaultAddress : Address} {w w' : World} {side : Side}
  {epochId timestamp : Uint64} {controller : Address}

theorem pays_claim (funded : Funded vaultAddress w) (named : vaultAddress.raw ≠ 0)
    (caller : controller.raw ≠ 0) (outside : controller ≠ w.vault.self)
    (honours : ∀ value, value.raw ≤ (w.asset.balanceOf w.vault.self).raw →
      w.asset.Honours w.vault.self controller value)
    (finalized : (w.vault.settled epochId).outcome = .finalized)
    (pending : ((side.requests w.vault.books).requestOf epochId controller).pending = true) :
    ∃ w', w.step hashing ⟨controller, timestamp⟩ (side.payout .finalized epochId) = .ok w' ∧
      Paid side epochId controller w w' := by
  cases side with
  | deposit =>
      obtain ⟨w', success⟩ := @Funded.claimDeposit hashing _ _ ⟨controller, timestamp⟩ _ funded
        named caller finalized pending
      refine ⟨w', success, ?_⟩
      obtain ⟨_, changed, rfl⟩ := World.withVault_ok.mp success
      obtain ⟨_, -, -, -, -, -, hLedger, rfl⟩ := Vault.claimDeposit_ok changed
      refine ⟨rfl, ?_, rfl, rfl, .inl rfl, ?_⟩
      · intro other apart
        exact Side.requests_deposits (b := w.vault.books) apart
      · intro shares holder away
        rw [Side.owed_finalized finalized]
        cases shares with
        | true =>
            rw [if_pos (show true = Side.paysShares .deposit from rfl)]
            refine unlessZero_credited Shares.ledger hLedger ?_ away
            intro moved
            exact (Shares.transfer_moves funded.keeps.shares.backed moved).toShifts
        | false => simp [World.holding, Side.paysShares]
  | redeem =>
      obtain ⟨enough, claims⟩ := @Funded.claimRedeem hashing _ _ ⟨controller, timestamp⟩ _ funded
        outside finalized pending
      obtain ⟨w', success⟩ := claims (honours _ enough)
      refine ⟨w', success, ?_⟩
      obtain ⟨_, _, changed, rfl⟩ := World.withMoved_ok.mp success
      obtain ⟨_, -, -, -, -, -, -, hAsset, rfl⟩ := Vault.claimRedeem_ok changed
      refine ⟨rfl, ?_, rfl, rfl, ?_, ?_⟩
      · intro other apart
        exact Side.requests_redeems (b := w.vault.books) apart
      · obtain ⟨-, same⟩ | ⟨-, pushed⟩ := unlessZero_ok hAsset
        · exact .inl same
        · exact .inr ⟨_, (Asset.pushExact_ok pushed).1⟩
      · intro shares holder away
        rw [Side.owed_finalized finalized]
        cases shares with
        | true => simp [World.holding, Side.paysShares]
        | false =>
            rw [if_pos (show false = Side.paysShares .redeem from rfl)]
            refine unlessZero_credited (fun asset => asset.state.ledger) hAsset ?_ away
            intro pushed
            exact (funded.keeps.asset.pushExact pushed).2

theorem pays_refund (funded : Funded vaultAddress w) (named : vaultAddress.raw ≠ 0)
    (caller : controller.raw ≠ 0) (outside : controller ≠ w.vault.self)
    (honours : ∀ value, value.raw ≤ (w.asset.balanceOf w.vault.self).raw →
      w.asset.Honours w.vault.self controller value)
    (aborted : (w.vault.settled epochId).outcome = .aborted)
    (pending : ((side.requests w.vault.books).requestOf epochId controller).pending = true) :
    ∃ w', w.step hashing ⟨controller, timestamp⟩ (side.payout .aborted epochId) = .ok w' ∧
      Paid side epochId controller w w' := by
  cases side with
  | deposit =>
      obtain ⟨enough, refunds⟩ := @Funded.refundDeposit hashing _ _ ⟨controller, timestamp⟩ _ funded
        outside aborted pending
      obtain ⟨w', success⟩ := refunds (honours _ enough)
      refine ⟨w', success, ?_⟩
      obtain ⟨_, _, changed, rfl⟩ := World.withMoved_ok.mp success
      obtain ⟨_, -, -, -, -, -, -, hAsset, rfl⟩ := Vault.refundDeposit_ok changed
      refine ⟨rfl, ?_, rfl, rfl, .inr ⟨_, (Asset.pushExact_ok hAsset).1⟩, ?_⟩
      · intro other apart
        exact Side.requests_deposits (b := w.vault.books) apart
      · intro shares holder away
        rw [Side.owed_aborted aborted]
        cases shares with
        | true => simp [World.holding, Side.paysShares]
        | false =>
            rw [if_neg (show ¬false = Side.paysShares .deposit by decide)]
            exact (funded.keeps.asset.pushExact hAsset).2.credited away
  | redeem =>
      obtain ⟨w', success⟩ := @Funded.refundRedeem hashing _ _ ⟨controller, timestamp⟩ _ funded
        named caller aborted pending
      refine ⟨w', success, ?_⟩
      obtain ⟨_, changed, rfl⟩ := World.withVault_ok.mp success
      obtain ⟨_, -, -, -, -, -, hLedger, rfl⟩ := Vault.refundRedeem_ok changed
      refine ⟨rfl, ?_, rfl, rfl, .inl rfl, ?_⟩
      · intro other apart
        exact Side.requests_redeems (b := w.vault.books) apart
      · intro shares holder away
        rw [Side.owed_aborted aborted]
        cases shares with
        | true =>
            rw [if_neg (show ¬true = Side.paysShares .redeem by decide)]
            exact (Shares.transfer_moves funded.keeps.shares.backed hLedger).credited away
        | false => simp [World.holding, Side.paysShares]

/-- A pending request whose epoch has an outcome is paid, and nothing else changes. -/
theorem pays_out (attended : Attended vaultAddress w) (named : vaultAddress.raw ≠ 0)
    (honours : ∀ value, value.raw ≤ (w.asset.balanceOf w.vault.self).raw →
      w.asset.Honours w.vault.self controller value)
    (outcome : (w.vault.settled epochId).outcome ≠ .none)
    (pending : ((side.requests w.vault.books).requestOf epochId controller).pending = true) :
    ∃ w', w.step hashing ⟨controller, timestamp⟩
        (side.payout (w.vault.settled epochId).outcome epochId) = .ok w' ∧
      Paid side epochId controller w w' := by
  obtain ⟨caller, outside⟩ := attended.manned.named side epochId controller
    (Request.pending_iff.mp pending).2
  rw [← attended.funded.self] at outside
  cases ended : (w.vault.settled epochId).outcome with
  | none => exact absurd ended outcome
  | finalized => exact pays_claim attended.funded named caller outside honours ended pending
  | aborted => exact pays_refund attended.funded named caller outside honours ended pending

/-- The token pays as before after each payout. -/
theorem Paid.pays {receivers : Address → Prop} (paid : Paid side epochId controller w w')
    (listed : receivers controller) (pays : w.asset.Pays w.vault.self receivers) :
    w'.asset.Pays w.vault.self receivers := by
  obtain same | ⟨value, success⟩ := paid.asset
  · rw [same]
    exact pays
  · exact pays.transfer listed success

/-- A payout takes the weight of its request off both sides. -/
theorem Paid.sumBoth (paid : Paid side epochId controller w w')
    (pending : ((side.requests w.vault.books).requestOf epochId controller).pending = true)
    (weight : Side → Uint64 → Address → Nat) :
    w'.sumBoth weight + weight side epochId controller = w.sumBoth weight := by
  have moved := Requests.outstanding_settle (weight side) pending
  rw [← paid.record] at moved
  cases side with
  | deposit =>
      have other : w'.vault.redeems = w.vault.redeems := paid.others .redeem (by decide)
      dsimp only [Side.requests, Vault.books] at moved
      rw [World.sumBoth, World.sumBoth, other]
      omega
  | redeem =>
      have other : w'.vault.deposits = w.vault.deposits := paid.others .deposit (by decide)
      dsimp only [Side.requests, Vault.books] at moved
      rw [World.sumBoth, World.sumBoth, other]
      omega

/-- What is owed for a request does not depend on who has been paid. -/
theorem Paid.owed (paid : Paid side epochId controller w w') (other : Side) (shares : Bool)
    (epoch : Uint64) (holder : Address) :
    other.owed w'.vault.books shares epoch holder =
      other.owed w.vault.books shares epoch holder := by
  have claims : (other.requests w'.vault.books).claimOf =
      (other.requests w.vault.books).claimOf := by
    by_cases here : other = side
    · rw [here, paid.record, Requests.settle_claimOf]
    · rw [paid.others other here]
  have amounts : ((other.requests w'.vault.books).requestOf epoch holder).amount =
      ((other.requests w.vault.books).requestOf epoch holder).amount := by
    by_cases here : other = side
    · rw [here, paid.record, Requests.settle_amount]
    · rw [paid.others other here]
  have settled : w'.vault.books.settled = w.vault.books.settled := paid.settled
  rw [Side.owed, Side.owed, claims, amounts, settled]

/-- What a holder has and is owed together stays the same. -/
theorem Paid.balance (paid : Paid side epochId controller w w')
    (pending : ((side.requests w.vault.books).requestOf epochId controller).pending = true)
    (shares : Bool) {holder : Address} (away : holder ≠ w.vault.self) :
    w'.holding shares holder + w'.due shares holder =
      w.holding shares holder + w.due shares holder := by
  have moved := paid.sumBoth pending fun side epochId controller =>
    if controller = holder then side.owed w.vault.books shares epochId controller else 0
  have same : w'.due shares holder = w'.sumBoth fun side epochId controller =>
      if controller = holder then side.owed w.vault.books shares epochId controller else 0 := by
    unfold World.due
    congr 1
    funext other epoch owner
    rw [paid.owed]
  rw [paid.credited shares holder away, same, World.due]
  omega

end Payout

section Claims

variable {hashing : Hashing} {vaultAddress : Address} {w t : World}

/-- Someone with a request that has not been paid. -/
def Vault.Owes (v : Vault) (controller : Address) : Prop :=
  ∃ (side : Side) (epochId : Uint64),
    ((side.requests v.books).requestOf epochId controller).pending = true

/-- Every call is a controller's own, to be paid for one of its requests. -/
def OnlyPayouts (vaultAddress : Address) (timestamp : Uint64) (calls : List (Msg × Call)) : Prop :=
  ∀ tx ∈ calls, tx.1.Outside vaultAddress ∧ tx.1.timestamp = timestamp ∧
    ∃ (side : Side) (outcome : EpochOutcome) (epochId : Uint64),
      tx.2 = side.payout outcome epochId

theorem exists_waiting (some : w.waiting ≠ 0) : ∃ (side : Side) (epochId : Uint64)
    (controller : Address),
      ((side.requests w.vault.books).requestOf epochId controller).pending = true := by
  by_cases deposits : w.vault.deposits.outstanding (fun _ _ => 1) = 0
  · have both : w.vault.deposits.outstanding (fun _ _ => 1) +
        w.vault.redeems.outstanding (fun _ _ => 1) ≠ 0 := some
    have redeems : w.vault.redeems.outstanding (fun _ _ => 1) ≠ 0 := by omega
    obtain ⟨epochId, controller, pending⟩ := Requests.exists_pending redeems
    exact ⟨.redeem, epochId, controller, pending⟩
  · obtain ⟨epochId, controller, pending⟩ := Requests.exists_pending deposits
    exact ⟨.deposit, epochId, controller, pending⟩

/-- Whoever is still owed something was before the payout. -/
theorem Paid.owes {w w' : World} {side : Side} {epochId : Uint64} {controller holder : Address}
    (paid : Paid side epochId controller w w') (owes : w'.vault.Owes holder) :
    w.vault.Owes holder := by
  obtain ⟨other, epoch, pending⟩ := owes
  refine ⟨other, epoch, ?_⟩
  by_cases here : other = side
  · subst here
    rw [paid.record, Requests.settle_requestOf] at pending
    split at pending
    · cases pending
    · exact pending
  · rwa [paid.others other here] at pending

/-- Between epochs every request can be paid, one after another. The induction is on how many have
not been. -/
theorem payouts_run {receivers : Address → Prop} (attended : Attended vaultAddress w)
    (named : vaultAddress.raw ≠ 0) (pays : w.asset.Pays vaultAddress receivers)
    (listed : ∀ holder, w.vault.Owes holder → receivers holder)
    (closed : w.vault.epochOpen = false) (timestamp : Uint64) : ∃ calls w',
    OnlyPayouts vaultAddress timestamp calls ∧
      Run.run (fun w tx => w.step hashing tx.1 tx.2) w calls = .ok w' ∧
      w'.vault.epochOpen = false ∧ w'.waiting = 0 ∧
      ∀ (shares : Bool) (holder : Address), holder ≠ vaultAddress →
        w'.holding shares holder + w'.due shares holder =
          w.holding shares holder + w.due shares holder := by
  induction left : w.waiting generalizing w with
  | zero =>
      exact ⟨[], w, List.forall_mem_nil _, Run.run_nil.mpr rfl, closed, left, fun _ _ _ => rfl⟩
  | succ n ih =>
      obtain ⟨side, epochId, controller, pending⟩ := exists_waiting (by omega : w.waiting ≠ 0)
      have amount := (Request.pending_iff.mp pending).2
      have outcome : (w.vault.settled epochId).outcome ≠ .none := by
        refine (attended.manned.placed side epochId controller amount).resolve_right fun slot => ?_
        have isOpen : w.vault.epochOpen = true := slot.1
        rw [closed] at isOpen
        cases isOpen
      have away := attended.manned.named side epochId controller amount
      have receives := listed controller ⟨side, epochId, pending⟩
      rw [← attended.funded.self] at pays
      obtain ⟨middle, success, paid⟩ := @pays_out hashing vaultAddress w side epochId timestamp
        controller attended named (fun _ enough => pays.honours receives enough) outcome pending
      have still := paid.pays receives pays
      rw [attended.funded.self] at still
      have fewer : middle.waiting + 1 = w.waiting := paid.sumBoth pending fun _ _ _ => 1
      obtain ⟨calls, w', only, finished, ended, nothing, balance⟩ :=
        ih (attended.step away success) still (fun holder owes => listed holder (paid.owes owes))
          (paid.epochOpen.trans closed) (by omega)
      let tx : Msg × Call :=
        (⟨controller, timestamp⟩, side.payout (w.vault.settled epochId).outcome epochId)
      refine ⟨tx :: calls, w', ?_, Run.run_cons.mpr ⟨middle, success, finished⟩, ended, nothing, ?_⟩
      · intro tx member
        rcases List.mem_cons.mp member with rfl | later
        · exact ⟨away, rfl, side, _, epochId, rfl⟩
        · exact only tx later
      · intro shares holder other
        rw [balance shares holder other]
        rw [← attended.funded.self] at other
        exact paid.balance pending shares other

/-- Nothing but dust is left when nobody waits between epochs. -/
theorem Attended.empty (attended : Attended vaultAddress w) (closed : w.vault.epochOpen = false)
    (nothing : w.waiting = 0) :
    (∀ (side : Side) (epochId : Uint64) (holder : Address),
      ((side.requests w.vault.books).requestOf epochId holder).pending = false) ∧
    (∀ (shares : Bool) (holder : Address), w.due shares holder = 0) ∧
    w.vault.pendingDepositEscrow.raw = 0 ∧
    w.vault.claimReserve.raw = tally fun epochId =>
      if (w.vault.settled epochId).outcome = .finalized then
        (w.vault.settled epochId).redeemDust.raw else 0 := by
  have each : w.vault.deposits.outstanding (fun _ _ => 1) +
      w.vault.redeems.outstanding (fun _ _ => 1) = 0 := nothing
  have deposits := Requests.not_pending (Nat.eq_zero_of_add_eq_zero_right each)
  have redeems := Requests.not_pending (Nat.eq_zero_of_add_eq_zero_left each)
  have escrow : w.vault.pendingDepositEscrow.raw = w.vault.epochDepositAssets.raw +
    w.vault.deposits.refundable w.vault.settled := attended.funded.purse.escrow
  have total : w.vault.epochDepositAssets.raw =
      if w.vault.epochOpen then w.vault.deposits.requested w.vault.currentEpochId else 0 :=
    attended.funded.purse.deposits.total
  have reserve : w.vault.claimReserve.raw =
      w.vault.redeems.setAside w.vault.settled SettledEpoch.redeemDust :=
    attended.funded.purse.reserve
  refine ⟨?_, ?_, ?_, ?_⟩
  · intro side
    cases side with
    | deposit => exact deposits
    | redeem => exact redeems
  · intro shares holder
    unfold World.due World.sumBoth
    rw [Requests.outstanding_eq_zero deposits, Requests.outstanding_eq_zero redeems]
  · have refunds : w.vault.deposits.refundable w.vault.settled = 0 := by
      apply tally_eq_zero
      intro epochId
      rw [Requests.requested, Requests.due_eq_zero (deposits epochId), ite_self]
    rw [closed] at total
    simp at total
    omega
  · rw [reserve]
    apply tally_congr
    intro epochId
    rw [Requests.claimable, Requests.due_eq_zero (redeems epochId), Nat.add_zero]

end Claims

section Closing

variable {hashing : Hashing} {w : World} {msg : Msg}

/-- What ending the epoch in the slot leaves alone. -/
structure Shut (w t : World) : Prop where
  closed : t.vault.epochOpen = false
  asset : t.asset = w.asset
  shares : t.vault.shares = w.vault.shares
  deposits : t.vault.deposits = w.vault.deposits
  redeems : t.vault.redeems = w.vault.redeems
  settled : ∀ epochId, t.vault.settled epochId = w.vault.settled epochId ∨
    w.vault.epochOpen = true ∧ epochId = w.vault.currentEpochId ∧
      (t.vault.settled epochId).outcome = .aborted

theorem freeze_succeeds
    (authorized : msg.sender = w.vault.admin ∨ msg.sender = w.vault.guardian)
    (thawed : w.vault.vaultStatus ≠ .frozen) : w.step hashing msg .freeze =
      .ok { w with vault := { w.vault with vaultStatus := .frozen } } := by
  refine World.withVault_ok.mpr ⟨_, ?_, rfl⟩
  simp only [Vault.freeze, bind_eq_ok, rejectIf_eq_ok, Vault.requireAdminOrGuardian_ok, pure_eq_ok,
    exists_const]
  exact ⟨authorized, thawed, trivial⟩

theorem abortEpoch_succeeds
    (authorized : msg.sender = w.vault.admin ∨ msg.sender = w.vault.guardian)
    (frozen : w.vault.vaultStatus = .frozen) (isOpen : w.vault.epochOpen = true)
    (unsettled : (w.vault.settled w.vault.currentEpochId).outcome = .none)
    (room : w.vault.currentEpochId.raw + 1 < 2 ^ 64) :
    ∃ t, w.step hashing msg .abortEpoch = .ok t ∧ Shut w t := by
  have success : ∃ v, w.vault.abortEpoch msg = .ok v := by
    simp only [Vault.abortEpoch, bind_eq_ok, rejectIf_eq_ok, Vault.requireAdminOrGuardian_ok,
      Vault.requireStatus_ok, add_ok, pure_eq_ok, exists_const, Bool.not_eq_false, not_not]
    exact ⟨_, authorized, frozen, isOpen, unsettled, ⟨w.vault.currentEpochId.raw + 1, room⟩, rfl,
      rfl⟩
  obtain ⟨v, aborts⟩ := success
  refine ⟨_, World.withVault_ok.mpr ⟨v, aborts, rfl⟩, ?_⟩
  obtain ⟨_, -, -, -, -, rfl⟩ := Vault.abortEpoch_ok aborts
  refine ⟨rfl, rfl, rfl, rfl, rfl, ?_⟩
  intro epochId
  dsimp only [Vault.closeEpochSlot]
  by_cases here : epochId = w.vault.currentEpochId
  · subst here
    rw [Function.update_self]
    exact .inr ⟨isOpen, rfl, rfl⟩
  · rw [Function.update_of_ne here]
    exact .inl rfl

/-- The guardian alone ends the epoch in the slot, whatever the status of the vault. -/
theorem shutting_run (books : BooksInv w.vault.books)
    (authorized : msg.sender = w.vault.admin ∨ msg.sender = w.vault.guardian)
    (room : w.vault.epochOpen = true → w.vault.currentEpochId.raw + 1 < 2 ^ 64) :
    ∃ closing t, closing ⊆ [(msg, .freeze), (msg, .abortEpoch)] ∧
      Run.run (fun w tx => w.step hashing tx.1 tx.2) w closing = .ok t ∧ Shut w t := by
  by_cases isOpen : w.vault.epochOpen = true
  · have unsettled : (w.vault.settled w.vault.currentEpochId).outcome = .none :=
      (books.current isOpen).1
    by_cases frozen : w.vault.vaultStatus = .frozen
    · obtain ⟨t, aborts, shut⟩ := @abortEpoch_succeeds hashing w msg authorized frozen isOpen
        unsettled (room isOpen)
      exact ⟨[(msg, .abortEpoch)], t, List.subset_cons_self _ _, Run.run_one.mpr aborts, shut⟩
    · obtain ⟨t, aborts, shut⟩ := @abortEpoch_succeeds hashing
        { w with vault := { w.vault with vaultStatus := .frozen } } msg authorized rfl isOpen
        unsettled (room isOpen)
      exact ⟨[(msg, .freeze), (msg, .abortEpoch)], t, List.Subset.refl _,
        Run.run_cons.mpr ⟨_, freeze_succeeds authorized frozen, Run.run_one.mpr aborts⟩,
        shut.closed, shut.asset, shut.shares, shut.deposits, shut.redeems, shut.settled⟩
  · rw [Bool.not_eq_true] at isOpen
    exact ⟨[], w, List.nil_subset _, Run.run_nil.mpr rfl, isOpen, rfl, rfl, rfl, rfl,
      fun _ => .inl rfl⟩

end Closing

/-- Nobody is ever trapped in the contract. Whatever transactions came before, the admin or the
guardian can end the epoch in the slot, and the controllers can then call for their money one after
another until nothing is owed: each holder gets exactly what its requests are due, the escrow is
empty, and the reserve is down to the dust. All it takes is a token that pays those the vault owes
what the vault has. -/
theorem vault_winds_up {hashing : Hashing} {d : Deployment} {start w : World}
    {calls : List (Msg × Call)} {msg : Msg} (deployed : d.deploy = .ok start)
    (asset : d.asset.Kept d.vaultAddress)
    (outside : ∀ tx ∈ calls, tx.1.Outside d.vaultAddress)
    (finished : Run.run (fun w tx => w.step hashing tx.1 tx.2) start calls = .ok w)
    (pays : w.asset.Pays d.vaultAddress w.vault.Owes)
    (authorized : msg.sender = w.vault.admin ∨ msg.sender = w.vault.guardian)
    (caller : msg.Outside d.vaultAddress)
    (room : w.vault.epochOpen = true → w.vault.currentEpochId.raw + 1 < 2 ^ 64) :
    ∃ closing t payouts w', closing ⊆ [(msg, .freeze), (msg, .abortEpoch)] ∧
      Run.run (fun w tx => w.step hashing tx.1 tx.2) w closing = .ok t ∧ Shut w t ∧
      OnlyPayouts d.vaultAddress msg.timestamp payouts ∧
      Run.run (fun w tx => w.step hashing tx.1 tx.2) t payouts = .ok w' ∧
      (∀ (shares : Bool) (holder : Address), holder ≠ d.vaultAddress →
        w'.holding shares holder = w.holding shares holder + t.due shares holder) ∧
      (∀ (side : Side) (epochId : Uint64) (holder : Address),
        ((side.requests w'.vault.books).requestOf epochId holder).pending = false) ∧
      w'.vault.pendingDepositEscrow.raw = 0 ∧
      w'.vault.claimReserve.raw = tally fun epochId =>
        if (w'.vault.settled epochId).outcome = .finalized then
          (w'.vault.settled epochId).redeemDust.raw else 0 := by
  have attended := (Deployment.attended deployed asset).run outside finished
  have named := Deployment.vaultAddress_named deployed
  obtain ⟨closing, t, only, closes, shut⟩ :=
    @shutting_run hashing w msg attended.funded.purse.books authorized room
  have later : Attended d.vaultAddress t := by
    refine attended.run ?_ closes
    intro tx member
    have listed := only member
    simp only [List.mem_cons, List.not_mem_nil, or_false] at listed
    rcases listed with rfl | rfl <;> exact caller
  have owes : ∀ holder, t.vault.Owes holder → w.vault.Owes holder := by
    rintro holder ⟨side, epochId, pending⟩
    have same : side.requests t.vault.books = side.requests w.vault.books := by
      cases side with
      | deposit => exact shut.deposits
      | redeem => exact shut.redeems
    rw [same] at pending
    exact ⟨side, epochId, pending⟩
  rw [← shut.asset] at pays
  obtain ⟨payouts, w', payoutsOnly, paid, still, nothing, balance⟩ :=
    @payouts_run hashing d.vaultAddress t _ later named pays owes shut.closed msg.timestamp
  have ended : Attended d.vaultAddress w' :=
    later.run (fun tx member => (payoutsOnly tx member).1) paid
  obtain ⟨none, settled, escrow, reserve⟩ := ended.empty still nothing
  refine ⟨closing, t, payouts, w', only, closes, shut, payoutsOnly, paid, ?_, none, escrow, reserve⟩
  intro shares holder other
  have held : t.holding shares holder = w.holding shares holder := by
    rw [World.holding, World.holding, shut.shares, shut.asset]
  have paid := balance shares holder other
  rw [settled, held] at paid
  exact paid

/-- A vault with an open deposit, wound up by its admin: the escrow is empty again. -/
theorem vault_winds_up_open : ∃ (w w' : World) (calls : List (Msg × Call)),
    w.vault.pendingDepositEscrow.raw = 900 ∧
    Run.run (fun w (tx : Msg × Call) => w.step sampleHash tx.1 tx.2) w calls = .ok w' ∧
    w'.vault.pendingDepositEscrow.raw = 0 := by
  have passes : (do
      let start ← samplePlan.deploy
      let w ← Run.run (fun w (tx : Msg × Call) => w.step sampleHash tx.1 tx.2) start
        [(⟨sampleHolder, .zero⟩, .requestDeposit 900)]
      pure (start, w) : Except Revert (World × World)).toOption.any (fun worlds =>
        decide (sampleAdmin = worlds.2.vault.admin) &&
        decide (worlds.2.vault.pendingDepositEscrow.raw = 900) &&
        decide (worlds.2.vault.currentEpochId.raw + 1 < 2 ^ 64)) = true := by
    decide +kernel
  obtain ⟨⟨_, _⟩, finished, checks⟩ := ok_of_any passes
  simp only [bind_eq_ok, pure_eq_ok, Prod.mk.injEq] at finished
  obtain ⟨start, deployed, w, run, rfl, rfl⟩ := finished
  simp only [Bool.and_eq_true, decide_eq_true_eq] at checks
  obtain ⟨⟨admin, escrow⟩, room⟩ := checks
  have outside : ∀ tx ∈ [((⟨sampleHolder, .zero⟩ : Msg), Call.requestDeposit 900)],
      tx.1.Outside samplePlan.vaultAddress := by decide
  have attended := (Deployment.attended deployed sampleAsset_kept).run outside run
  have code : w.asset.code = .plain := by
    obtain ⟨_, _, moved, rfl⟩ := World.withMoved_ok.mp (Run.run_one.mp run)
    obtain ⟨_, _, _, _, -, -, -, -, -, -, -, -, -, pulled, -⟩ := Vault.requestDeposit_ok moved
    rw [(Asset.call_ok.mp (Asset.pullExact_ok pulled).1).2, (Deployment.deploy_ok deployed).1]
    rfl
  have pays : w.asset.Pays samplePlan.vaultAddress w.vault.Owes := by
    refine Asset.pays_plain code (by decide) ?_
    rintro holder ⟨side, epochId, pending⟩
    exact (attended.manned.named side epochId holder (Request.pending_iff.mp pending).2).1
  obtain ⟨closing, t, payouts, w', -, closes, -, -, pays, -, -, empty, -⟩ :=
    @vault_winds_up sampleHash samplePlan start w _ ⟨sampleAdmin, 100⟩ deployed sampleAsset_kept
      outside run pays (.inl admin) (by decide) fun _ => room
  exact ⟨w, w', closing ++ payouts, escrow, Run.run_append.mpr ⟨t, closes, pays⟩, empty⟩

end Evm
