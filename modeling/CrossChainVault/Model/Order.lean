import CrossChainVault.Model.Cancel

set_option autoImplicit false

/- Requests of the open epoch can be filed in any order, and settled requests claimed in any order:
every operation of either kind moves the state by an effect that commutes with the others, and none
of them takes away what another one needs. -/

namespace AccountingModel

open Result

/-- What one user operation does to the parts of the state that such operations touch. -/
structure Effect where
  account : AccountId
  holding : Account → Account
  escrow : AssetAmount → AssetAmount
  reserve : AssetAmount → AssetAmount
  escrowed : ShareAmount → ShareAmount
  claimable : ShareAmount → ShareAmount
  pending : Epoch → Epoch
  deposits : RequestMap → RequestMap
  redeems : RequestMap → RequestMap

namespace Effect

def on (effect : Effect) (s : State) : State := { s with
  accounts := s.accounts.revise .empty effect.account effect.holding
  buckets := { s.buckets with
    pendingDepositEscrow := effect.escrow s.buckets.pendingDepositEscrow
    claimReserve := effect.reserve s.buckets.claimReserve }
  escrowedRedeemShares := effect.escrowed s.escrowedRedeemShares
  claimableDepositShares := effect.claimable s.claimableDepositShares
  epoch := s.epoch.map effect.pending
  depositRequests := effect.deposits s.depositRequests
  redeemRequests := effect.redeems s.redeemRequests }

structure Commute (one other : Effect) : Prop where
  holding : ∀ x, one.holding (other.holding x) = other.holding (one.holding x)
  escrow : ∀ x, one.escrow (other.escrow x) = other.escrow (one.escrow x)
  reserve : ∀ x, one.reserve (other.reserve x) = other.reserve (one.reserve x)
  escrowed : ∀ x, one.escrowed (other.escrowed x) = other.escrowed (one.escrowed x)
  claimable : ∀ x, one.claimable (other.claimable x) = other.claimable (one.claimable x)
  pending : ∀ x, one.pending (other.pending x) = other.pending (one.pending x)
  deposits : ∀ x, one.deposits (other.deposits x) = other.deposits (one.deposits x)
  redeems : ∀ x, one.redeems (other.redeems x) = other.redeems (one.redeems x)

theorem Commute.on_comm {one other : Effect} (commute : one.Commute other) (s : State) :
    one.on (other.on s) = other.on (one.on s) := by
  have accounts := s.accounts.revise_comm .empty
    (k := other.account) (a := one.account) (f := other.holding) (g := one.holding)
    fun _ v => (commute.holding v).symm
  have epoch : (s.epoch.map other.pending).map one.pending =
      (s.epoch.map one.pending).map other.pending := by
    rw [Option.map_map, Option.map_map]
    exact congrArg (fun f => s.epoch.map f) (funext commute.pending)
  simp only [on, accounts, epoch, commute.escrow, commute.reserve, commute.escrowed,
    commute.claimable, commute.deposits, commute.redeems]

end Effect

namespace Side

/-- Rewrites one record of this side's book and leaves the other book alone. -/
def reviseIn (key : RequestKey) (f : Request → Request) (book : Side) (side : Side)
    (requests : RequestMap) : RequestMap :=
  if side = book then requests.revise .empty key f else requests

theorem reviseIn_comm {key key' : RequestKey} {f g : Request → Request} {side side' : Side}
    (commute : side = side' → key = key' → ∀ v, f (g v) = g (f v)) (book : Side)
    (requests : RequestMap) :
    reviseIn key f book side (reviseIn key' g book side' requests) =
      reviseIn key' g book side' (reviseIn key f book side requests) := by
  unfold reviseIn
  by_cases here : side = book
  · by_cases there : side' = book
    · rw [if_pos here, if_pos there, if_pos there, if_pos here]
      apply OrderedMap.revise_comm
      intro same v
      exact (commute (here.trans there.symm) same.symm v).symm
    · simp only [if_neg there]
  · simp only [if_neg here]

end Side

/-- Filing hands an amount over from the account to the escrow and adds it to the request. -/
def filing (side : Side) (key : RequestKey) (assets shares : Unsigned 128) : Effect where
  account := key.account
  holding := fun a => ⟨a.assets.saturatingSub assets, a.shares.saturatingSub shares⟩
  escrow := (·.saturatingAdd assets)
  reserve := id
  escrowed := (·.saturatingAdd shares)
  claimable := id
  pending := fun epoch => { epoch with
    pendingDepositAssets := epoch.pendingDepositAssets.saturatingAdd assets
    pendingRedeemShares := epoch.pendingRedeemShares.saturatingAdd shares }
  deposits := Side.reviseIn key (fun request => { request with
    amount := request.amount.saturatingAdd assets, cancelled := false }) .deposit side
  redeems := Side.reviseIn key (fun request => { request with
    amount := request.amount.saturatingAdd shares, cancelled := false }) .redeem side

theorem filing_commute (side side' : Side) (key key' : RequestKey)
    (assets shares assets' shares' : Unsigned 128) :
    (filing side key assets shares).Commute (filing side' key' assets' shares') where
  holding x := by
    simp only [filing, Unsigned.saturatingSub_right_comm]
  escrow x := Unsigned.saturatingAdd_right_comm x assets' assets
  reserve _ := rfl
  escrowed x := Unsigned.saturatingAdd_right_comm x shares' shares
  claimable _ := rfl
  pending x := by
    simp only [filing]
    rw [Unsigned.saturatingAdd_right_comm _ assets', Unsigned.saturatingAdd_right_comm _ shares']
  deposits x := by
    apply Side.reviseIn_comm
    intro _ _ request
    simp only
    rw [Unsigned.saturatingAdd_right_comm]
  redeems x := by
    apply Side.reviseIn_comm
    intro _ _ request
    simp only
    rw [Unsigned.saturatingAdd_right_comm]

namespace Side

/-- The parts of an amount of this side that are assets and shares. -/
def inAssets (amount : Unsigned 128) : Side → Unsigned 128
  | .deposit => amount
  | .redeem => .zero

def inShares (amount : Unsigned 128) : Side → Unsigned 128
  | .deposit => .zero
  | .redeem => amount

/-- What filing this request does. -/
def filed (epoch : EpochId) (account : AccountId) (amount : Unsigned 128) (side : Side) : Effect :=
  filing side ⟨epoch, account⟩ (side.inAssets amount) (side.inShares amount)

end Side

section Requests

variable {s s' s'' : State} {side side' : Side} {account account' : AccountId}
  {amount amount' : Unsigned 128} {epoch : Epoch}

theorem request_effect (success : apply s (side.request account amount) = .ok s') :
    ∃ epoch, s.vaultState = .active ∧ s.epoch = some epoch ∧ epoch.phase = .opened ∧
      amount.raw ≠ 0 ∧ side.minimum s ≤ amount.raw ∧ amount.raw ≤ side.balance s account ∧
      s' = (side.filed epoch.id account amount).on s := by
  cases side with
  | deposit =>
      obtain ⟨epoch, remaining, escrow, total, requested, active, current, opened, nonzero, minimum,
        -, hRemaining, hEscrow, hTotal, hRequested, rfl⟩ := requestDeposit_iff.mp success
      refine ⟨epoch, active, current, opened, nonzero, minimum, ?_, ?_⟩
      · exact Nat.le.intro ((Nat.add_comm _ _).trans hRemaining)
      · rw [Unsigned.eq_saturatingSub hRemaining, Unsigned.eq_saturatingAdd hEscrow,
          Unsigned.eq_saturatingAdd hTotal, Unsigned.eq_saturatingAdd hRequested]
        simp [Effect.on, Side.filed, filing, Side.inAssets, Side.inShares, Side.reviseIn, current,
          OrderedMap.revise, State.setAssets, State.account]
  | redeem =>
      obtain ⟨epoch, remaining, escrow, total, requested, active, current, opened, nonzero, minimum,
        -, hRemaining, hEscrow, hTotal, hRequested, rfl⟩ := requestRedeem_iff.mp success
      refine ⟨epoch, active, current, opened, nonzero, minimum, ?_, ?_⟩
      · exact Nat.le.intro ((Nat.add_comm _ _).trans hRemaining)
      · rw [Unsigned.eq_saturatingSub hRemaining, Unsigned.eq_saturatingAdd hEscrow,
          Unsigned.eq_saturatingAdd hTotal, Unsigned.eq_saturatingAdd hRequested]
        simp [Effect.on, Side.filed, filing, Side.inAssets, Side.inShares, Side.reviseIn, current,
          OrderedMap.revise, State.setShares, State.account]

/-- A request takes its amount from the balance it draws on and from no other. -/
theorem filed_balance (s : State) (id : EpochId) :
    side'.balance ((side.filed id account amount).on s) account' =
      side'.balance s account' -
        if side = side' ∧ account = account' then amount.raw else 0 := by
  have owned : ((side.filed id account amount).on s).account account' =
      if account = account' then
        ⟨(s.account account).assets.saturatingSub (side.inAssets amount),
          (s.account account).shares.saturatingSub (side.inShares amount)⟩
      else s.account account' := by
    change (s.accounts.insert account _)[account']?.getD .empty = _
    rw [OrderedMap.getElem?_insert]
    by_cases same : account = account'
    · rw [if_pos same, if_pos same]
      rfl
    · rw [if_neg same, if_neg same]
      rfl
  unfold Side.balance
  rw [owned]
  by_cases same : account = account'
  · subst same
    cases side <;> cases side' <;> simp [Side.inAssets, Side.inShares]
  · cases side' <;> simp [same]

theorem filed_epoch {next : Epoch} {id : EpochId} (current : s.epoch = some epoch)
    (after : ((side.filed id account amount).on s).epoch = some next) : next.id = epoch.id := by
  have moved : ((side.filed id account amount).on s).epoch =
      some ((side.filed id account amount).pending epoch) := congrArg (Option.map _) current
  rw [after] at moved
  cases moved
  rfl

/-- Two requests accepted one after the other are accepted the other way round, with the same
result. -/
theorem request_swap (reachable : Reachable s)
    (first : apply s (side.request account amount) = .ok s')
    (second : apply s' (side'.request account' amount') = .ok s'') :
    ∃ other, apply s (side'.request account' amount') = .ok other ∧
      apply other (side.request account amount) = .ok s'' := by
  obtain ⟨epoch, active, current, opened, nonzero, minimum, covered, rfl⟩ := request_effect first
  obtain ⟨epoch', -, current', opened', nonzero', minimum', covered', rfl⟩ := request_effect second
  rw [filed_balance] at covered'
  obtain ⟨other, sooner⟩ := request_accepted side' reachable active current opened nonzero' minimum'
    (Nat.le_trans covered' (Nat.sub_le _ _))
  refine ⟨other, sooner, ?_⟩
  obtain ⟨_, -, found, -, -, -, -, rfl⟩ := request_effect sooner
  rw [current] at found
  cases found
  have left : amount.raw ≤
      side.balance ((side'.filed epoch.id account' amount').on s) account := by
    rw [filed_balance]
    by_cases shared : side' = side ∧ account' = account
    · rw [shared.1, shared.2, if_pos ⟨rfl, rfl⟩] at covered'
      rw [if_pos shared]
      omega
    · rw [if_neg shared]
      exact covered
  obtain ⟨last, later⟩ := request_accepted side (reachable.step sooner) active
    (congrArg (Option.map _) current) opened nonzero minimum left
  obtain ⟨again, -, found, -, -, -, -, rfl⟩ := request_effect later
  have commute := filing_commute side side' ⟨epoch.id, account⟩ ⟨epoch.id, account'⟩
    (side.inAssets amount) (side.inShares amount) (side'.inAssets amount') (side'.inShares amount')
  rw [later, filed_epoch current current', filed_epoch current found]
  exact congrArg Except.ok (commute.on_comm s)

end Requests

/-- Where the vault keeps what it pays out. -/
inductive Pool
  | escrow
  | reserve
  | escrowed
  | claimable
deriving DecidableEq

/-- What a payout takes from the pool `own`. -/
def Pool.draw (amount : Unsigned 128) (pool own : Pool) : Unsigned 128 :=
  if pool = own then amount else .zero

def Side.pool : Side → EpochOutcome → Pool
  | .deposit, .finalized _ => .claimable
  | .deposit, .aborted _ => .escrow
  | .redeem, .finalized _ => .reserve
  | .redeem, .aborted _ => .escrowed

/-- Paying hands an amount over from a pool to the account and marks the request. -/
def paying (side : Side) (pool : Pool) (key : RequestKey) (amount : Unsigned 128) : Effect where
  account := key.account
  holding := fun a =>
    ⟨(a.assets.saturatingAdd (pool.draw amount .escrow)).saturatingAdd (pool.draw amount .reserve),
      (a.shares.saturatingAdd (pool.draw amount .escrowed)).saturatingAdd
        (pool.draw amount .claimable)⟩
  escrow := (·.saturatingSub (pool.draw amount .escrow))
  reserve := (·.saturatingSub (pool.draw amount .reserve))
  escrowed := (·.saturatingSub (pool.draw amount .escrowed))
  claimable := (·.saturatingSub (pool.draw amount .claimable))
  pending := id
  deposits := Side.reviseIn key (fun request => { request with claimed := true }) .deposit side
  redeems := Side.reviseIn key (fun request => { request with claimed := true }) .redeem side

theorem paying_commute (side side' : Side) (pool pool' : Pool) (key key' : RequestKey)
    (amount amount' : Unsigned 128) :
    (paying side pool key amount).Commute (paying side' pool' key' amount') where
  holding x := by
    refine congrArg₂ Account.mk ?_ ?_
    · ext
      simp only [paying, Unsigned.saturatingAdd_raw]
      omega
    · ext
      simp only [paying, Unsigned.saturatingAdd_raw]
      omega
  escrow x := Unsigned.saturatingSub_right_comm x _ _
  reserve x := Unsigned.saturatingSub_right_comm x _ _
  escrowed x := Unsigned.saturatingSub_right_comm x _ _
  claimable x := Unsigned.saturatingSub_right_comm x _ _
  pending _ := rfl
  deposits x := by
    apply Side.reviseIn_comm
    intro _ _ request
    rfl
  redeems x := by
    apply Side.reviseIn_comm
    intro _ _ request
    rfl

section Claims

variable {s s' s'' : State} {side side' : Side} {account account' : AccountId}
  {epoch epoch' : EpochId} {op op' : Operation}

/-- One accepted claim: an outstanding request of a settled epoch is paid what it is owed. -/
structure Payment (side : Side) (account : AccountId) (epoch : EpochId) (op : Operation)
    (s s' : State) (outcome : EpochOutcome) (request : Request) (amount : Unsigned 128) : Prop where
  settled : s.epochs[epoch]? = some outcome
  found : (side.requests s)[(⟨epoch, account⟩ : RequestKey)]? = some request
  outstanding : request.isOutstanding = true
  payout : op = side.payout account epoch outcome
  owed : amount.raw = (side.owed request outcome).1 + (side.owed request outcome).2
  next : s' = (paying side (side.pool outcome) ⟨epoch, account⟩ amount).on s

theorem claim_effect (claim : op ∈ side.claims account epoch) (success : apply s op = .ok s') :
    ∃ outcome request amount, Payment side account epoch op s s' outcome request amount := by
  cases side with
  | deposit =>
      rcases List.mem_pair.mp claim with rfl | rfl
      · obtain ⟨terms, request, shares, claimable, credited, settled, found, outstanding, priced,
          hClaimable, hCredited, rfl⟩ := claimDeposit_iff.mp success
        refine ⟨_, request, shares, settled, found, outstanding, rfl, ?_, ?_⟩
        · exact (EpochTerms.sharesFor_raw priced).trans (Nat.zero_add _).symm
        · rw [Unsigned.eq_saturatingSub hClaimable, Unsigned.eq_saturatingAdd hCredited]
          simp [Effect.on, paying, Side.pool, Pool.draw, Side.reviseIn, OrderedMap.revise, found,
            State.setShares, State.account]
      · obtain ⟨terms, request, escrow, returned, settled, found, outstanding, hEscrow, hReturned,
          rfl⟩ := claimAbortedDeposit_iff.mp success
        refine ⟨_, request, request.amount, settled, found, outstanding, rfl, rfl, ?_⟩
        rw [Unsigned.eq_saturatingSub hEscrow, Unsigned.eq_saturatingAdd hReturned]
        simp [Effect.on, paying, Side.pool, Pool.draw, Side.reviseIn, OrderedMap.revise, found,
          State.setAssets, State.account]
  | redeem =>
      rcases List.mem_pair.mp claim with rfl | rfl
      · obtain ⟨terms, request, assets, reserve, credited, settled, found, outstanding, priced,
          hReserve, hCredited, rfl⟩ := claimRedeem_iff.mp success
        refine ⟨_, request, assets, settled, found, outstanding, rfl, ?_, ?_⟩
        · exact EpochTerms.assetsFor_raw priced
        · rw [Unsigned.eq_saturatingSub hReserve, Unsigned.eq_saturatingAdd hCredited]
          simp [Effect.on, paying, Side.pool, Pool.draw, Side.reviseIn, OrderedMap.revise, found,
            State.setAssets, State.account]
      · obtain ⟨terms, request, escrow, returned, settled, found, outstanding, hEscrow, hReturned,
          rfl⟩ := claimAbortedRedeem_iff.mp success
        refine ⟨_, request, request.amount, settled, found, outstanding, rfl,
          (Nat.zero_add _).symm, ?_⟩
        rw [Unsigned.eq_saturatingSub hEscrow, Unsigned.eq_saturatingAdd hReturned]
        simp [Effect.on, paying, Side.pool, Pool.draw, Side.reviseIn, OrderedMap.revise, found,
          State.setShares, State.account]

/-- A payout marks its own record and leaves every other one alone. -/
theorem paid_requests {pool : Pool} {amount : Unsigned 128} {key key' : RequestKey} :
    (side'.requests ((paying side pool key amount).on s))[key']? =
      if side = side' ∧ key = key' then
        some { (side.requests s)[key]?.getD .empty with claimed := true }
      else (side'.requests s)[key']? := by
  have revised : side'.requests ((paying side pool key amount).on s) =
      Side.reviseIn key (fun request => { request with claimed := true }) side' side
        (side'.requests s) := by
    cases side' <;> rfl
  rw [revised]
  unfold Side.reviseIn OrderedMap.revise
  by_cases same : side = side'
  · subst same
    rw [if_pos rfl, OrderedMap.getElem?_insert]
    simp only [true_and]
  · rw [if_neg same, if_neg (fun both => same both.1)]

/-- Two claims accepted one after the other are accepted the other way round, with the same
result. -/
theorem claim_swap (reachable : Reachable s) (claim : op ∈ side.claims account epoch)
    (claim' : op' ∈ side'.claims account' epoch') (first : apply s op = .ok s')
    (second : apply s' op' = .ok s'') :
    ∃ other, apply s op' = .ok other ∧ apply other op = .ok s'' := by
  obtain ⟨outcome, request, amount, paid⟩ := claim_effect claim first
  obtain ⟨outcome', request', amount', paid'⟩ := claim_effect claim' second
  have settled' : s.epochs[epoch']? = some outcome' := by
    have found := paid'.settled
    rw [paid.next] at found
    exact found
  have found' := paid'.found
  rw [paid.next, paid_requests] at found'
  by_cases again : side = side' ∧ (⟨epoch, account⟩ : RequestKey) = ⟨epoch', account'⟩
  · -- The second claim would be of the request that was just paid.
    rw [if_pos again] at found'
    have outstanding := paid'.outstanding
    rw [← Option.some.inj found'] at outstanding
    simp [Request.isOutstanding] at outstanding
  · rw [if_neg again] at found'
    obtain ⟨other, sooner, -⟩ := payout_accepted side' reachable settled' found' paid'.outstanding
    rw [← paid'.payout] at sooner
    refine ⟨other, sooner, ?_⟩
    obtain ⟨outcome₂, request₂, amount₂, paid₂⟩ := claim_effect claim' sooner
    have sameOutcome : outcome₂ = outcome' := Option.some.inj (paid₂.settled.symm.trans settled')
    have sameRequest : request₂ = request' := Option.some.inj (paid₂.found.symm.trans found')
    have sameAmount : amount₂ = amount' := by
      ext
      rw [paid₂.owed, paid'.owed, sameOutcome, sameRequest]
    subst sameOutcome sameRequest sameAmount
    have settled : other.epochs[epoch]? = some outcome := by
      rw [paid₂.next]
      exact paid.settled
    have found : (side.requests other)[(⟨epoch, account⟩ : RequestKey)]? = some request := by
      rw [paid₂.next, paid_requests, if_neg fun both => again ⟨both.1.symm, both.2.symm⟩]
      exact paid.found
    obtain ⟨last, later, -⟩ := payout_accepted side (reachable.step sooner) settled found
      paid.outstanding
    rw [← paid.payout] at later
    obtain ⟨outcome₃, request₃, amount₃, paid₃⟩ := claim_effect claim later
    have sameOutcome : outcome₃ = outcome := Option.some.inj (paid₃.settled.symm.trans settled)
    have sameRequest : request₃ = request := Option.some.inj (paid₃.found.symm.trans found)
    have sameAmount : amount₃ = amount := by
      ext
      rw [paid₃.owed, paid.owed, sameOutcome, sameRequest]
    subst sameOutcome sameRequest sameAmount
    rw [later, paid₃.next, paid₂.next, paid'.next, paid.next]
    exact congrArg Except.ok ((paying_commute _ _ _ _ _ _ _ _).on_comm s)

end Claims

namespace Operation

/-- The operations that file a request. -/
def isRequest : Operation → Bool
  | .requestDeposit .. | .requestRedeem .. => true
  | _ => false

/-- The operations that claim a settled request. -/
def isClaim : Operation → Bool
  | .claimDeposit .. | .claimRedeem .. | .claimAbortedDeposit .. | .claimAbortedRedeem .. => true
  | _ => false

theorem of_isRequest {op : Operation} (request : op.isRequest = true) :
    ∃ side account amount, op = Side.request account amount side := by
  cases op with
  | requestDeposit account assets => exact ⟨.deposit, account, assets, rfl⟩
  | requestRedeem account shares => exact ⟨.redeem, account, shares, rfl⟩
  | _ => cases request

theorem of_isClaim {op : Operation} (claim : op.isClaim = true) :
    ∃ side account epoch, op ∈ Side.claims account epoch side := by
  cases op with
  | claimDeposit account epoch => exact ⟨.deposit, account, epoch, .head _⟩
  | claimAbortedDeposit account epoch => exact ⟨.deposit, account, epoch, .tail _ (.head _)⟩
  | claimRedeem account epoch => exact ⟨.redeem, account, epoch, .head _⟩
  | claimAbortedRedeem account epoch => exact ⟨.redeem, account, epoch, .tail _ (.head _)⟩
  | _ => cases claim

end Operation

/-- Accepted requests, and accepted claims, are accepted in every order and end in the same state. -/
theorem order_irrelevant {s final : State} (reachable : Reachable s)
    {operations shuffled : List Operation}
    (kind : (∀ op ∈ operations, op.isRequest = true) ∨ ∀ op ∈ operations, op.isClaim = true)
    (accepted : Run.run apply s operations = .ok final) (perm : operations.Perm shuffled) :
    Run.run apply s shuffled = .ok final := by
  have preserved : ∀ s op s', apply s op = .ok s' → Reachable s → Reachable s' :=
    fun _ _ _ success earlier => earlier.step success
  rcases kind with requests | claims
  · refine Run.run_perm Reachable (·.isRequest = true) preserved ?_ perm requests s reachable accepted
    intro s s' s'' op op' reachable request request' first second
    obtain ⟨side, account, amount, rfl⟩ := Operation.of_isRequest request
    obtain ⟨side', account', amount', rfl⟩ := Operation.of_isRequest request'
    exact request_swap reachable first second
  · refine Run.run_perm Reachable (·.isClaim = true) preserved ?_ perm claims s reachable accepted
    intro s s' s'' op op' reachable claim claim' first second
    obtain ⟨side, account, epoch, mine⟩ := Operation.of_isClaim claim
    obtain ⟨side', account', epoch', theirs⟩ := Operation.of_isClaim claim'
    exact claim_swap reachable mine theirs first second

/-- Two deposits are settled, and the next epoch is open. -/
def sampleSettled : List Operation :=
  [.requestDeposit sampleHolder 500, .requestDeposit 4 400, .cutoffEpoch 100, .finalizeEpoch,
    .openNextEpoch 200]

/-- A deposit, a top-up of it, and another account's deposit between them. -/
def sampleTopUps : List Operation :=
  [.requestDeposit sampleHolder 100, .requestDeposit 4 50, .requestDeposit sampleHolder 200]

theorem order_irrelevant_settled : ∃ s requested claimed, Reachable s ∧
    Run.run apply s sampleTopUps = .ok requested ∧
    Run.run apply s sampleTopUps.reverse = .ok requested ∧
    Run.run apply s [.claimDeposit sampleHolder 0, .claimDeposit 4 0] = .ok claimed ∧
    Run.run apply s [.claimDeposit 4 0, .claimDeposit sampleHolder 0] = .ok claimed := by
  obtain ⟨s, reachable, requests, claims⟩ := exists_reachable
    (fun s => (Run.run apply s sampleTopUps).toOption.any (fun _ => true) ∧
      (Run.run apply s [.claimDeposit sampleHolder 0, .claimDeposit 4 0]).toOption.any
        fun _ => true)
    sampleGenesis sampleSettled (by decide +kernel)
  obtain ⟨requested, filed, -⟩ := ok_of_any requests
  obtain ⟨claimed, paid, -⟩ := ok_of_any claims
  refine ⟨s, requested, claimed, reachable, filed, ?_, paid, ?_⟩
  · exact order_irrelevant reachable (.inl (by decide)) filed (List.reverse_perm _).symm
  · exact order_irrelevant reachable (.inr (by decide)) paid (List.Perm.swap _ _ [])

end AccountingModel
