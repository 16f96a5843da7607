import CrossChainVault.Model.Lifecycle
import CrossChainVault.Model.Outstanding

set_option autoImplicit false

/- The way out: the guardian closes the current epoch, the holders claim one after another, and the
vault owes nothing any more. -/

namespace AccountingModel

open Result

/- What everyone holds and is owed. -/

/-- The assets of a payment, or its shares. -/
def part (shares : Bool) (payment : Nat × Nat) : Nat := if shares then payment.2 else payment.1

def State.holding (s : State) (shares : Bool) (id : AccountId) : Nat :=
  part shares ((s.account id).assets.raw, (s.account id).shares.raw)

/-- What the outcome of its epoch owes a request, if it has one and has not been paid. -/
def Side.dueFor (s : State) (shares : Bool) (id : AccountId) (side : Side) (key : RequestKey)
    (request : Request) : Nat :=
  if key.account = id ∧ request.isOutstanding = true then
    (s.epochs[key.epoch]?).elim 0 fun outcome => part shares (side.owed request outcome)
  else 0

/-- A weight of requests, summed over both books. -/
def State.sumBoth (s : State) (weight : Side → RequestKey → Request → Nat) : Nat :=
  OrderedMap.sumOf s.depositRequests (weight .deposit) +
    OrderedMap.sumOf s.redeemRequests (weight .redeem)

/-- What the settled epochs owe one account. -/
def State.due (s : State) (shares : Bool) (id : AccountId) : Nat :=
  s.sumBoth fun side => side.dueFor s shares id

/-- How many requests have not been paid. -/
def State.waiting (s : State) : Nat :=
  s.sumBoth fun _ _ request => if request.isOutstanding then 1 else 0

section Payout

variable {s s' : State} {side : Side} {key : RequestKey} {request : Request} {outcome : EpochOutcome}

theorem account_setAssets_other (s : State) {id other : AccountId} (amount : AssetAmount)
    (apart : id ≠ other) : (s.setAssets id amount)[other]?.getD .empty = s.account other := by
  rw [State.setAssets, OrderedMap.getElem?_insert_other _ _ apart]
  rfl

theorem account_setShares_other (s : State) {id other : AccountId} (amount : ShareAmount)
    (apart : id ≠ other) : (s.setShares id amount)[other]?.getD .empty = s.account other := by
  rw [State.setShares, OrderedMap.getElem?_insert_other _ _ apart]
  rfl

/-- What a payout does. -/
structure PaysOut (side : Side) (key : RequestKey) (request : Request) (outcome : EpochOutcome)
    (s s' : State) : Prop where
  record : side.requests s' = (side.requests s).insert key { request with claimed := true }
  others : ∀ other, other ≠ side → other.requests s' = other.requests s
  epochs : s'.epochs = s.epochs
  epoch : s'.epoch = s.epoch
  credited : ∀ shares id, s'.holding shares id = s.holding shares id +
    if key.account = id then part shares (side.owed request outcome) else 0

/-- The other accounts are as they were, and the payee has what the payment says. -/
theorem credited_of {account : AccountId} {payment : Nat × Nat}
    (assets : (s'.account account).assets.raw = (s.account account).assets.raw + payment.1)
    (shares : (s'.account account).shares.raw = (s.account account).shares.raw + payment.2)
    (others : ∀ id, account ≠ id → s'.account id = s.account id) (ofShares : Bool)
    (id : AccountId) : s'.holding ofShares id = s.holding ofShares id +
      if account = id then part ofShares payment else 0 := by
  by_cases here : account = id
  · subst here
    rw [if_pos rfl]
    cases ofShares with
    | false => exact assets
    | true => exact shares
  · rw [if_neg here, State.holding, others id here]
    rfl

/-- In every reachable state an unpaid request with an outcome is paid, and nothing else changes. -/
theorem pays_out (reachable : Reachable s) (settled : s.epochs[key.epoch]? = some outcome)
    (found : (side.requests s)[key]? = some request) (outstanding : request.isOutstanding = true) :
    ∃ s', apply s (side.payout key.account key.epoch outcome) = .ok s' ∧
      PaysOut side key request outcome s s' := by
  have listed : (side.requests s)[(⟨key.epoch, key.account⟩ : RequestKey)]? = some request := found
  obtain ⟨s', success, assets, shares⟩ := payout_accepted side reachable settled listed outstanding
  refine ⟨s', success, ?_⟩
  cases side with
  | deposit =>
      have recorded : s.depositRequests[(⟨key.epoch, key.account⟩ : RequestKey)]? = some request :=
        found
      cases outcome with
      | finalized terms =>
          obtain ⟨_, record, _, _, _, -, here, -, -, -, -, rfl⟩ := claimDeposit_iff.mp success
          rw [recorded, Option.some.injEq] at here
          subst here
          refine ⟨rfl, ?_, rfl, rfl, credited_of assets shares fun id apart =>
            account_setShares_other s _ apart⟩
          intro other apart
          cases other with
          | deposit => exact absurd rfl apart
          | redeem => rfl
      | aborted terms =>
          obtain ⟨_, record, _, _, -, here, -, -, -, rfl⟩ := claimAbortedDeposit_iff.mp success
          rw [recorded, Option.some.injEq] at here
          subst here
          refine ⟨rfl, ?_, rfl, rfl, credited_of assets shares fun id apart =>
            account_setAssets_other s _ apart⟩
          intro other apart
          cases other with
          | deposit => exact absurd rfl apart
          | redeem => rfl
  | redeem =>
      have recorded : s.redeemRequests[(⟨key.epoch, key.account⟩ : RequestKey)]? = some request :=
        found
      cases outcome with
      | finalized terms =>
          obtain ⟨_, record, _, _, _, -, here, -, -, -, -, rfl⟩ := claimRedeem_iff.mp success
          rw [recorded, Option.some.injEq] at here
          subst here
          refine ⟨rfl, ?_, rfl, rfl, credited_of assets shares fun id apart =>
            account_setAssets_other s _ apart⟩
          intro other apart
          cases other with
          | deposit => rfl
          | redeem => exact absurd rfl apart
      | aborted terms =>
          obtain ⟨_, record, _, _, -, here, -, -, -, rfl⟩ := claimAbortedRedeem_iff.mp success
          rw [recorded, Option.some.injEq] at here
          subst here
          refine ⟨rfl, ?_, rfl, rfl, credited_of assets shares fun id apart =>
            account_setShares_other s _ apart⟩
          intro other apart
          cases other with
          | deposit => rfl
          | redeem => exact absurd rfl apart

/-- A payout takes the weight of its request off both books, when paid requests weigh nothing. -/
theorem PaysOut.sumBoth (paid : PaysOut side key request outcome s s')
    (found : (side.requests s)[key]? = some request) (weight : Side → RequestKey → Request → Nat)
    (nothing : weight side key { request with claimed := true } = 0) :
    s'.sumBoth weight + weight side key request = s.sumBoth weight := by
  have moved := OrderedMap.sumOf_insert (side.requests s) (weight side) key
    { request with claimed := true }
  rw [found, ← paid.record, Option.elim_some, nothing] at moved
  cases side with
  | deposit =>
      have other : s'.redeemRequests = s.redeemRequests := paid.others .redeem (by decide)
      simp only [Side.requests] at moved
      rw [State.sumBoth, State.sumBoth, other]
      omega
  | redeem =>
      have other : s'.depositRequests = s.depositRequests := paid.others .deposit (by decide)
      simp only [Side.requests] at moved
      rw [State.sumBoth, State.sumBoth, other]
      omega

theorem not_outstanding_claimed (request : Request) :
    ({ request with claimed := true } : Request).isOutstanding = false := by
  simp [Request.isOutstanding]

theorem PaysOut.waiting (paid : PaysOut side key request outcome s s')
    (found : (side.requests s)[key]? = some request) (outstanding : request.isOutstanding = true) :
    s'.waiting + 1 = s.waiting := by
  have moved := paid.sumBoth found (fun _ _ request => if request.isOutstanding then 1 else 0)
    (by simp [not_outstanding_claimed])
  rw [if_pos outstanding] at moved
  exact moved

/-- What an account holds and is owed together stays the same. -/
theorem PaysOut.balance (paid : PaysOut side key request outcome s s')
    (found : (side.requests s)[key]? = some request) (outstanding : request.isOutstanding = true)
    (settled : s.epochs[key.epoch]? = some outcome) (shares : Bool) (id : AccountId) :
    s'.holding shares id + s'.due shares id = s.holding shares id + s.due shares id := by
  have same : (fun side : Side => side.dueFor s' shares id) = fun side => side.dueFor s shares id := by
    funext other key request
    rw [Side.dueFor, Side.dueFor, paid.epochs]
  have moved := paid.sumBoth found (fun side => side.dueFor s shares id)
    (by simp [Side.dueFor, not_outstanding_claimed])
  have owed : side.dueFor s shares id key request =
      if key.account = id then part shares (side.owed request outcome) else 0 := by
    simp only [Side.dueFor, outstanding, and_true, settled, Option.elim_some]
  rw [owed] at moved
  rw [paid.credited, State.due, State.due, same]
  omega

end Payout

section Claims

variable {s s' t : State}

/-- While a request has not been paid there is one to pay. -/
theorem exists_waiting (some_ : s.waiting ≠ 0) : ∃ (side : Side) (key : RequestKey)
    (request : Request), (side.requests s)[key]? = some request ∧ request.isOutstanding = true := by
  by_contra none_
  push Not at none_
  apply some_
  have nothing (side : Side) : OrderedMap.sumOf (side.requests s)
      (fun _ request => if request.isOutstanding then 1 else 0) = 0 := by
    apply OrderedMap.sumOf_eq_zero
    intro key request found
    exact if_neg (none_ side key request found)
  rw [State.waiting, State.sumBoth]
  exact congrArg₂ (· + ·) (nothing .deposit) (nothing .redeem)

/-- A run of claims, by whoever is owed. -/
def OnlyClaims (operations : List Operation) : Prop :=
  ∀ op ∈ operations, ∃ (side : Side) (account : AccountId) (epoch : EpochId),
    op ∈ side.claims account epoch

theorem payout_mem_claims (side : Side) (account : AccountId) (epoch : EpochId)
    (outcome : EpochOutcome) : side.payout account epoch outcome ∈ side.claims account epoch := by
  cases side <;> cases outcome <;> simp [Side.payout, Side.claims]

/-- Between epochs every request can be paid, one after another. The induction is on how many have
not been. -/
theorem claims_run (reachable : Reachable s) (closed : s.epoch = none) : ∃ operations s',
    OnlyClaims operations ∧ Run.run apply s operations = .ok s' ∧ s'.epoch = none ∧
      s'.waiting = 0 ∧ ∀ shares id, s'.holding shares id + s'.due shares id =
        s.holding shares id + s.due shares id := by
  induction left : s.waiting generalizing s with
  | zero => exact ⟨[], s, List.forall_mem_nil _, Run.run_nil.mpr rfl, closed, left, fun _ _ => rfl⟩
  | succ n ih =>
      obtain ⟨side, key, request, found, outstanding⟩ := exists_waiting (by omega : s.waiting ≠ 0)
      cases outcome : s.epochs[key.epoch]? with
      | none =>
          obtain ⟨⟨current, here, -⟩, -⟩ := reachable.recorded side found outcome
          rw [closed] at here
          cases here
      | some settled =>
          obtain ⟨middle, success, paid⟩ := pays_out reachable outcome found outstanding
          have fewer := paid.waiting found outstanding
          obtain ⟨operations, s', claims, finished, still, nothing, balance⟩ :=
            ih (reachable.step success) (paid.epoch.trans closed) (by omega)
          refine ⟨side.payout key.account key.epoch settled :: operations, s', ?_,
            Run.run_cons.mpr ⟨middle, success, finished⟩, still, nothing, ?_⟩
          · intro op member
            rcases List.mem_cons.mp member with rfl | later
            · exact ⟨side, key.account, key.epoch, payout_mem_claims ..⟩
            · exact claims op later
          · intro shares id
            rw [balance, paid.balance found outstanding outcome]

/-- Without unpaid requests nothing is due and nothing is left to claim. -/
theorem waiting_eq_zero (nothing : s.waiting = 0) (side : Side) {key : RequestKey}
    {request : Request} (found : (side.requests s)[key]? = some request) :
    request.isOutstanding = false := by
  by_contra outstanding
  have weighs : (1 : Nat) ≤ OrderedMap.sumOf (side.requests s)
      (fun _ request => if request.isOutstanding then 1 else 0) := by
    have below := OrderedMap.le_sumOf (side.requests s)
      (fun _ request => if request.isOutstanding then 1 else 0) found
    rwa [if_pos (Bool.eq_true_of_not_eq_false outstanding)] at below
  rw [State.waiting, State.sumBoth] at nothing
  cases side with
  | deposit =>
      simp only [Side.requests] at weighs
      omega
  | redeem =>
      simp only [Side.requests] at weighs
      omega

theorem due_eq_zero (nothing : s.waiting = 0) (shares : Bool) (id : AccountId) :
    s.due shares id = 0 := by
  have empty (side : Side) :
      OrderedMap.sumOf (side.requests s) (side.dueFor s shares id) = 0 := by
    apply OrderedMap.sumOf_eq_zero
    intro key request found
    simp [Side.dueFor, waiting_eq_zero nothing side found]
  rw [State.due, State.sumBoth]
  exact congrArg₂ (· + ·) (empty .deposit) (empty .redeem)

/-- A request that is not outstanding has no unclaimed weight. -/
theorem unclaimed_eq_zero {request : Request} (paid : request.isOutstanding = false) (rate : Rate) :
    request.unclaimed Request.activeAmount = 0 ∧
      request.unclaimed (Request.activePrice rate) = 0 := by
  simp only [Request.unclaimed, Request.activePrice_eq, Request.activeAmount]
  by_cases claimed : request.claimed = true
  · simp [claimed]
  · have idle : request.isActive = false := by
      simpa [Request.isOutstanding, Request.isActive, claimed] using paid
    simp [claimed, idle, Rate.floor_zero]

theorem sumIn_eq_zero (nothing : s.waiting = 0) (side : Side) (epoch : EpochId) (rate : Rate) :
    (side.requests s).sumIn epoch (Request.unclaimed Request.activeAmount) = 0 ∧
      (side.requests s).sumIn epoch (Request.unclaimed (Request.activePrice rate)) = 0 := by
  constructor
  · apply OrderedMap.sumOf_eq_zero
    intro key request found
    split
    · exact (unclaimed_eq_zero (waiting_eq_zero nothing side found) rate).1
    · rfl
  · apply OrderedMap.sumOf_eq_zero
    intro key request found
    split
    · exact (unclaimed_eq_zero (waiting_eq_zero nothing side found) rate).2
    · rfl

/-- Nothing but dust is left when nobody waits between epochs. -/
theorem Reachable.empty (reachable : Reachable s) (closed : s.epoch = none)
    (nothing : s.waiting = 0) :
    s.buckets.pendingDepositEscrow.raw = 0 ∧ s.escrowedRedeemShares.raw = 0 ∧
      s.buckets.claimReserve.raw =
        OrderedMap.sumOf s.epochs (fun _ outcome => State.dustOf true outcome) ∧
      s.claimableDepositShares.raw =
        OrderedMap.sumOf s.epochs (fun _ outcome => State.dustOf false outcome) := by
  obtain ⟨reserve, claimable, deposits, redeems⟩ := reachable.counters
  have idle (redeem : Bool) : s.pendingNow redeem = 0 := by rw [State.pendingNow, closed]; rfl
  have owed (redeem : Bool) : OrderedMap.sumOf s.epochs (s.stillOwed redeem) = 0 := by
    apply OrderedMap.sumOf_eq_zero
    intro id outcome _
    cases outcome with
    | aborted terms => rfl
    | finalized terms =>
        cases redeem with
        | false => exact (sumIn_eq_zero nothing .deposit id terms.shareRate).2
        | true => exact (sumIn_eq_zero nothing .redeem id terms.assetRate).2
  have refunds (redeem : Bool) :
      OrderedMap.sumOf s.epochs (fun id outcome => s.refundable (id, outcome) redeem) = 0 := by
    apply OrderedMap.sumOf_eq_zero
    intro id outcome _
    cases outcome with
    | finalized terms => cases redeem <;> rfl
    | aborted terms =>
        cases redeem with
        | false => exact (sumIn_eq_zero nothing .deposit id ⟨0, 1⟩).1
        | true => exact (sumIn_eq_zero nothing .redeem id ⟨0, 1⟩).1
  rw [owed, Nat.zero_add] at reserve claimable
  rw [refunds, idle] at deposits redeems
  exact ⟨deposits, redeems, reserve, claimable⟩

end Claims

section Closing

variable {s : State} {actor : AccountId}

/-- What the closing operations leave alone. -/
structure Closed (s t : State) : Prop where
  closed : t.epoch = none
  accounts : t.accounts = s.accounts
  requests : ∀ side : Side, side.requests t = side.requests s
  outcomes : ∀ (id : EpochId), t.epochs[id]? = s.epochs[id]? ∨
    ∃ epoch terms, s.epoch = some epoch ∧ epoch.id = id ∧ t.epochs[id]? = some (.aborted terms)

theorem freeze_succeeds (authorized : actor = s.authority.admin ∨ actor = s.authority.guardian)
    (thawed : s.vaultState ≠ .frozen) : freeze s actor = .ok { s with vaultState := .frozen } := by
  simp only [freeze, bind_eq_ok, rejectIf_eq_ok, requireGuardianOrAdmin_ok, pure_eq_ok,
    exists_const]
  exact ⟨authorized, thawed, trivial⟩

theorem abortEpoch_succeeds (frozen : s.vaultState = .frozen) {epoch : Epoch}
    (found : s.epoch = some epoch) (unsettled : s.epochs[epoch.id]? = none)
    (authorized : actor = s.authority.admin ∨ actor = s.authority.guardian)
    (room : epoch.id.raw + 1 < 2 ^ 64) : Succeeds (abortEpoch s actor) := by
  simp only [abortEpoch, Succeeds, bind_eq_ok, rejectIf_eq_ok, requireGuardianOrAdmin_ok, okOr_eq_ok,
    epochId_next_ok, pure_eq_ok, exists_const, not_not, Bool.not_eq_true,
    Option.isSome_eq_false_iff, Option.isNone_iff_eq_none]
  exact ⟨_, authorized, frozen, epoch, found, unsettled, ⟨epoch.id.raw + 1, room⟩, rfl, rfl⟩

theorem abortEpoch_closed {t : State} (success : abortEpoch s actor = .ok t) : Closed s t := by
  obtain ⟨epoch, _, -, found, -, -, -, rfl⟩ := abortEpoch_ok success
  refine ⟨rfl, rfl, fun side => by cases side <;> rfl, ?_⟩
  intro id
  by_cases here : epoch.id = id
  · subst here
    exact .inr ⟨epoch, _, found, rfl, OrderedMap.getElem?_insert_same ..⟩
  · exact .inl (OrderedMap.getElem?_insert_other _ _ here)

/-- The guardian alone ends the current epoch, whatever state the vault is in. -/
theorem closing_run (reachable : Reachable s)
    (authorized : actor = s.authority.admin ∨ actor = s.authority.guardian)
    (room : ∀ epoch, s.epoch = some epoch → epoch.id.raw + 1 < 2 ^ 64) :
    ∃ operations t, operations ⊆ [.freeze actor, .abortEpoch actor] ∧
      Run.run apply s operations = .ok t ∧ Closed s t := by
  cases found : s.epoch with
  | none =>
      exact ⟨[], s, List.nil_subset _, Run.run_nil.mpr rfl, found, rfl, fun _ => rfl,
        fun _ => .inl rfl⟩
  | some epoch =>
      have unsettled : s.epochs[epoch.id]? = none := by
        by_contra settled
        have below := reachable.epochOrder.settledBelowCurrent epoch epoch.id found
          (Option.isSome_iff_ne_none.mpr settled)
        exact Nat.lt_irrefl _ below
      by_cases frozen : s.vaultState = .frozen
      · obtain ⟨t, aborts⟩ := abortEpoch_succeeds frozen found unsettled authorized (room epoch found)
        exact ⟨[.abortEpoch actor], t, List.subset_cons_self _ _, Run.run_one.mpr aborts,
          abortEpoch_closed aborts⟩
      · obtain ⟨t, aborts⟩ := @abortEpoch_succeeds { s with vaultState := .frozen } actor rfl epoch
          found unsettled authorized (room epoch found)
        have closed := abortEpoch_closed aborts
        exact ⟨[.freeze actor, .abortEpoch actor], t, List.Subset.refl _,
          Run.run_cons.mpr ⟨_, freeze_succeeds authorized frozen, Run.run_one.mpr aborts⟩,
          closed.closed, closed.accounts, fun side => by rw [closed.requests]; cases side <;> rfl,
          closed.outcomes⟩

/-- Nobody is ever trapped. From every reachable state the admin or the guardian can end the current
epoch, and the holders can then claim one after another until nothing is owed: each account gets
exactly what its requests are due, the escrows are empty, and the reserves are down to the dust. -/
theorem winds_up (reachable : Reachable s)
    (authorized : actor = s.authority.admin ∨ actor = s.authority.guardian)
    (room : ∀ epoch, s.epoch = some epoch → epoch.id.raw + 1 < 2 ^ 64) :
    ∃ closing t claims s', closing ⊆ [.freeze actor, .abortEpoch actor] ∧
      Run.run apply s closing = .ok t ∧ Closed s t ∧
      OnlyClaims claims ∧ Run.run apply t claims = .ok s' ∧
      (∀ shares id, s'.holding shares id = s.holding shares id + t.due shares id) ∧
      (∀ (side : Side) (key : RequestKey) (request : Request),
        (side.requests s')[key]? = some request → request.isOutstanding = false) ∧
      s'.buckets.pendingDepositEscrow.raw = 0 ∧ s'.escrowedRedeemShares.raw = 0 ∧
      s'.buckets.claimReserve.raw =
        OrderedMap.sumOf s'.epochs (fun _ outcome => State.dustOf true outcome) ∧
      s'.claimableDepositShares.raw =
        OrderedMap.sumOf s'.epochs (fun _ outcome => State.dustOf false outcome) := by
  obtain ⟨closing, t, only, closes, closed⟩ := closing_run reachable authorized room
  have later := reachable.run closes
  obtain ⟨claims, s', claimsOnly, finished, still, nothing, balance⟩ :=
    claims_run later closed.closed
  have held (shares : Bool) (id : AccountId) : t.holding shares id = s.holding shares id := by
    rw [State.holding, State.holding, State.account, State.account, closed.accounts]
  refine ⟨closing, t, claims, s', only, closes, closed, claimsOnly, finished, ?_, ?_,
    (later.run finished).empty still nothing⟩
  · intro shares id
    have paid := balance shares id
    rw [due_eq_zero nothing, held] at paid
    exact paid
  · intro side key request found
    exact waiting_eq_zero nothing side found

/-- A vault with an open deposit, wound up by its admin: the holder has everything back. -/
theorem winds_up_open : ∃ s s' operations, Reachable s ∧
    s.buckets.pendingDepositEscrow.raw = 900 ∧ Run.run apply s operations = .ok s' ∧
    s'.buckets.pendingDepositEscrow.raw = 0 := by
  obtain ⟨s, reachable, admin, escrow, early⟩ := exists_reachable
    (fun s => s.authority.admin = sampleAdmin ∧ s.buckets.pendingDepositEscrow.raw = 900 ∧
      s.epoch.all (fun epoch => decide (epoch.id.raw + 1 < 2 ^ 64)) = true)
    sampleGenesis [.requestDeposit sampleHolder 900] (by decide +kernel)
  have room : ∀ epoch, s.epoch = some epoch → epoch.id.raw + 1 < 2 ^ 64 := by
    intro epoch found
    rw [found, Option.all_some] at early
    exact of_decide_eq_true early
  obtain ⟨closing, t, claims, s', -, closes, -, -, finished, -, -, empty, -⟩ :=
    winds_up reachable (.inl admin.symm) room
  exact ⟨s, s', closing ++ claims, reachable, escrow, Run.run_append.mpr ⟨t, closes, finished⟩,
    empty⟩

end Closing

end AccountingModel
