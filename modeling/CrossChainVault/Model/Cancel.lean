import CrossChainVault.Model.Claims

set_option autoImplicit false

/- Requests of the open epoch can be filed as far as the balance reaches, and taken back until the
cutoff as long as the running total of what was taken back still fits. -/

namespace AccountingModel

open Result

namespace Side

/-- The operation that files a request. -/
def request (account : AccountId) (amount : Unsigned 128) : Side → Operation
  | .deposit => .requestDeposit account amount
  | .redeem => .requestRedeem account amount

/-- The operation that takes it back. -/
def cancel (account : AccountId) : Side → Operation
  | .deposit => .cancelDeposit account
  | .redeem => .cancelRedeem account

/-- What an account can hand in on this side. -/
def balance (s : State) (account : AccountId) : Side → Nat
  | .deposit => (s.account account).assets.raw
  | .redeem => (s.account account).shares.raw

def minimum (s : State) : Side → Nat
  | .deposit => s.config.minDepositAssets.raw
  | .redeem => s.config.minRedeemShares.raw

def escrow (s : State) : Side → Nat
  | .deposit => s.buckets.pendingDepositEscrow.raw
  | .redeem => s.escrowedRedeemShares.raw

/-- What the epoch has taken in on this side. -/
def pending (epoch : Epoch) : Side → Nat
  | .deposit => epoch.pendingDepositAssets.raw
  | .redeem => epoch.pendingRedeemShares.raw

def opposite : Side → Side
  | .deposit => .redeem
  | .redeem => .deposit

/-- The state without what a request of this side moves. -/
def rest (s : State) : Side → State
  | .deposit => { s with
      accounts := ∅
      buckets := { s.buckets with pendingDepositEscrow := .zero }
      epoch := s.epoch.map fun epoch => { epoch with pendingDepositAssets := .zero }
      depositRequests := ∅ }
  | .redeem => { s with
      accounts := ∅
      escrowedRedeemShares := .zero
      epoch := s.epoch.map fun epoch => { epoch with pendingRedeemShares := .zero }
      redeemRequests := ∅ }

end Side

/-- A live request of the open epoch is in the epoch's total, and the total is in escrow. -/
theorem Book.Backed.current_covers {b : Book} (backed : b.Backed) {key : RequestKey}
    {request : Request} {pending : Nat} (taking : b.current = some (key.epoch, pending))
    (found : b.requests[key]? = some request) (live : request.cancelled = false) :
    request.amount.raw ≤ pending ∧ request.claimed = false := by
  have inEpoch := b.requests.le_sumIn Request.activeAmount found
  rw [Book.activeAmount_of_live live, ← backed.pending _ _ taking] at inEpoch
  exact ⟨inEpoch, backed.unclaimed key request pending found taking⟩

theorem Book.Backed.pending_le {b : Book} (backed : b.Backed) {epoch : EpochId} {pending : Nat}
    (taking : b.current = some (epoch, pending)) : pending ≤ b.escrow := by
  have escrow := backed.escrow
  rw [taking, Option.elim_some] at escrow
  omega

section

variable {s s' : State} {account : AccountId} {epoch : Epoch}

theorem State.depositBook_current (current : s.epoch = some epoch) :
    s.depositBook.current = some (epoch.id, epoch.pendingDepositAssets.raw) := by
  unfold State.depositBook
  rw [current]
  rfl

theorem State.redeemBook_current (current : s.epoch = some epoch) :
    s.redeemBook.current = some (epoch.id, epoch.pendingRedeemShares.raw) := by
  unfold State.redeemBook
  rw [current]
  rfl

/-- The record a new request of the open epoch adds to. -/
theorem Book.Backed.existing {b : Book} (backed : b.Backed) {key : RequestKey} {pending : Nat}
    (taking : b.current = some (key.epoch, pending)) :
    (b.requests[key]?.getD .empty).amount.raw ≤ pending ∧
      (b.requests[key]?.getD .empty).claimed = false := by
  cases found : b.requests[key]? with
  | none => exact ⟨Nat.zero_le _, rfl⟩
  | some request =>
      rw [Option.getD_some]
      cases live : request.cancelled with
      | false => exact backed.current_covers taking found live
      | true =>
          have zero := (backed.lifecycle key request found).1.mp live
          rw [zero]
          exact ⟨Nat.zero_le _, backed.unclaimed key request pending found taking⟩

/-- All that accounts and escrow hold is part of the initial supply. -/
theorem Reachable.assets_fit (reachable : Reachable s) :
    s.heldAssets + s.buckets.pendingDepositEscrow.raw < 2 ^ 128 := by
  have inv := reachable.assetInv
  have conserved := inv.conserved
  have inflow := inv.inflow
  have supply := s.initialAssetSupply.bound
  omega

theorem Reachable.shares_fit (reachable : Reachable s) :
    s.heldShares + s.escrowedRedeemShares.raw < 2 ^ 128 := by
  have owned := reachable.sharesInv.owned
  have supply := s.totalShareSupply.bound
  omega

/-- An active vault with an open epoch takes every request that the account can cover. -/
theorem request_accepted (side : Side) (reachable : Reachable s) (active : s.vaultState = .active)
    (current : s.epoch = some epoch) (opened : epoch.phase = .opened) {amount : Unsigned 128}
    (nonzero : amount.raw ≠ 0) (minimum : side.minimum s ≤ amount.raw)
    (covered : amount.raw ≤ side.balance s account) :
    ∃ s', apply s (side.request account amount) = .ok s' := by
  cases side with
  | deposit =>
      have taking := State.depositBook_current current
      obtain ⟨existing, unclaimed⟩ := reachable.backed.1.existing
        (show s.depositBook.current = some ((⟨epoch.id, account⟩ : RequestKey).epoch, _) from taking)
      have pending : epoch.pendingDepositAssets.raw ≤ s.buckets.pendingDepositEscrow.raw :=
        reachable.backed.1.pending_le taking
      have held := s.account_assets_le account
      have fits := reachable.assets_fit
      have below : amount.raw ≤ (s.account account).assets.raw := covered
      change (s.depositRequests[(⟨epoch.id, account⟩ : RequestKey)]?.getD .empty).amount.raw ≤ _
        at existing
      exact ⟨_, requestDeposit_iff.mpr ⟨epoch, (s.account account).assets.saturatingSub amount,
        ⟨s.buckets.pendingDepositEscrow.raw + amount.raw, by omega⟩,
        ⟨epoch.pendingDepositAssets.raw + amount.raw, by omega⟩,
        ⟨(s.depositRequests[(⟨epoch.id, account⟩ : RequestKey)]?.getD .empty).amount.raw +
          amount.raw, by omega⟩,
        active, current, opened, nonzero, minimum, unclaimed, Nat.sub_add_cancel covered, rfl, rfl,
        rfl, rfl⟩⟩
  | redeem =>
      have taking := State.redeemBook_current current
      obtain ⟨existing, unclaimed⟩ := reachable.backed.2.existing
        (show s.redeemBook.current = some ((⟨epoch.id, account⟩ : RequestKey).epoch, _) from taking)
      have pending : epoch.pendingRedeemShares.raw ≤ s.escrowedRedeemShares.raw :=
        reachable.backed.2.pending_le taking
      have held := s.account_shares_le account
      have fits := reachable.shares_fit
      have below : amount.raw ≤ (s.account account).shares.raw := covered
      change (s.redeemRequests[(⟨epoch.id, account⟩ : RequestKey)]?.getD .empty).amount.raw ≤ _
        at existing
      exact ⟨_, requestRedeem_iff.mpr ⟨epoch, (s.account account).shares.saturatingSub amount,
        ⟨s.escrowedRedeemShares.raw + amount.raw, by omega⟩,
        ⟨epoch.pendingRedeemShares.raw + amount.raw, by omega⟩,
        ⟨(s.redeemRequests[(⟨epoch.id, account⟩ : RequestKey)]?.getD .empty).amount.raw +
          amount.raw, by omega⟩,
        active, current, opened, nonzero, minimum, unclaimed, Nat.sub_add_cancel covered, rfl, rfl,
        rfl, rfl⟩⟩

/-- What taking a request back does: its amount returns to the account and leaves the escrow and the
epoch's total, nothing else moves, and the account may file again. -/
structure Returned (side : Side) (s s' : State) (epoch : Epoch) (account : AccountId)
    (request : Request) : Prop where
  balance : side.balance s' account = side.balance s account + request.amount.raw
  opposite : side.opposite.balance s' account = side.opposite.balance s account
  others : ∀ other, other ≠ account → s'.account other = s.account other
  escrow : side.escrow s' + request.amount.raw = side.escrow s
  pending : ∃ current, s'.epoch = some current ∧
    side.pending current + request.amount.raw = side.pending epoch
  requests : ∀ key : RequestKey, key ≠ ⟨epoch.id, account⟩ →
    (side.requests s')[key]? = (side.requests s)[key]?
  rest : side.rest s' = side.rest s
  again : s.vaultState = .active → ∀ amount : Unsigned 128, amount.raw ≠ 0 →
    side.minimum s ≤ amount.raw → amount.raw ≤ side.balance s' account →
    ∃ s'', apply s' (side.request account amount) = .ok s''

theorem State.account_other {accounts : OrderedMap AccountId Account} {other : AccountId}
    {changed : Account} (apart : other ≠ account) :
    (accounts.insert account changed)[other]?.getD .empty = accounts[other]?.getD .empty := by
  rw [OrderedMap.getElem?_insert_other _ _ (Ne.symm apart)]

theorem deposit_returned (reachable : Reachable s) {request : Request}
    (current : s.epoch = some epoch) (opened : epoch.phase = .opened)
    (found : s.depositRequests[(⟨epoch.id, account⟩ : RequestKey)]? = some request)
    (success : cancelDeposit s account = .ok s') : Returned .deposit s s' epoch account request := by
  have reachable' : Reachable s' := reachable.step
    (show apply s (.cancelDeposit account) = .ok s' from success)
  obtain ⟨epoch', request', escrow, total, returned, _, -, current', -, found', -, -, -, hEscrow,
    hTotal, hReturned, -, same⟩ := cancelDeposit_iff.mp success
  rw [current] at current'
  cases current'
  rw [found] at found'
  cases found'
  have own : s'.account account = { s.account account with assets := returned } := by
    rw [same]
    exact s.account_setAssets account returned
  refine ⟨?_, ?_, ?_, ?_, ?_, ?_, ?_, ?_⟩
  · unfold Side.balance
    rw [own]
    exact hReturned
  · unfold Side.opposite Side.balance
    rw [own]
  · intro other apart
    rw [same]
    exact State.account_other apart
  · rw [same]
    exact hEscrow
  · rw [same]
    exact ⟨_, rfl, hTotal⟩
  · intro key apart
    rw [same]
    exact OrderedMap.getElem?_insert_other _ _ (Ne.symm apart)
  · unfold Side.rest
    rw [same, current]
    rfl
  · intro active amount nonzero minimum covered
    rw [same] at reachable' covered ⊢
    exact request_accepted .deposit reachable' active rfl opened nonzero minimum covered

theorem redeem_returned (reachable : Reachable s) {request : Request}
    (current : s.epoch = some epoch) (opened : epoch.phase = .opened)
    (found : s.redeemRequests[(⟨epoch.id, account⟩ : RequestKey)]? = some request)
    (success : cancelRedeem s account = .ok s') : Returned .redeem s s' epoch account request := by
  have reachable' : Reachable s' := reachable.step
    (show apply s (.cancelRedeem account) = .ok s' from success)
  obtain ⟨epoch', request', escrowed, total, returned, _, -, current', -, found', -, -, -, hEscrow,
    hTotal, hReturned, -, same⟩ := cancelRedeem_iff.mp success
  rw [current] at current'
  cases current'
  rw [found] at found'
  cases found'
  have own : s'.account account = { s.account account with shares := returned } := by
    rw [same]
    exact s.account_setShares account returned
  refine ⟨?_, ?_, ?_, ?_, ?_, ?_, ?_, ?_⟩
  · unfold Side.balance
    rw [own]
    exact hReturned
  · unfold Side.opposite Side.balance
    rw [own]
  · intro other apart
    rw [same]
    exact State.account_other apart
  · rw [same]
    exact hEscrow
  · rw [same]
    exact ⟨_, rfl, hTotal⟩
  · intro key apart
    rw [same]
    exact OrderedMap.getElem?_insert_other _ _ (Ne.symm apart)
  · unfold Side.rest
    rw [same, current]
    rfl
  · intro active amount nonzero minimum covered
    rw [same] at reachable' covered ⊢
    exact request_accepted .redeem reachable' active rfl opened nonzero minimum covered

/-- Before the cutoff a live request can be taken back exactly as long as its running total of
cancelled amounts fits. -/
theorem cancel_returns_iff (side : Side) (reachable : Reachable s)
    (usable : s.vaultState = .active ∨ s.vaultState = .paused) (current : s.epoch = some epoch)
    (opened : epoch.phase = .opened) {request : Request}
    (found : (side.requests s)[(⟨epoch.id, account⟩ : RequestKey)]? = some request)
    (active : request.isActive = true) :
    (∃ s', apply s (side.cancel account) = .ok s' ∧ Returned side s s' epoch account request) ↔
      request.cancelledAmount.raw + request.amount.raw < 2 ^ 128 := by
  have notFrozen : s.vaultState ≠ .frozen := by
    intro frozen
    rw [frozen] at usable
    rcases usable with same | same
    · cases same
    · cases same
  have notCut : epoch.phase ≠ .cutOff := by
    rw [opened]
    decide
  obtain ⟨live, nonzero⟩ : request.cancelled = false ∧ request.amount.raw ≠ 0 := by
    simpa [Request.isActive] using active
  cases side with
  | deposit =>
      have taking := State.depositBook_current current
      obtain ⟨within, unclaimed⟩ := reachable.backed.1.current_covers
        (show s.depositBook.current = some ((⟨epoch.id, account⟩ : RequestKey).epoch, _) from taking)
        found live
      have pending : epoch.pendingDepositAssets.raw ≤ s.buckets.pendingDepositEscrow.raw :=
        reachable.backed.1.pending_le taking
      have held := s.account_assets_le account
      have fits := reachable.assets_fit
      constructor
      · rintro ⟨s', success, _⟩
        obtain ⟨epoch', request', _, _, _, total, -, current', -, found', -, -, -, -, -, -, hTotal,
          -⟩ := cancelDeposit_iff.mp success
        rw [current] at current'
        cases current'
        rw [show s.depositRequests[(⟨epoch.id, account⟩ : RequestKey)]? = some request from found]
          at found'
        cases found'
        rw [← hTotal]
        exact total.bound
      · intro small
        have success := cancelDeposit_iff.mpr ⟨epoch, request,
          s.buckets.pendingDepositEscrow.saturatingSub request.amount,
          epoch.pendingDepositAssets.saturatingSub request.amount,
          ⟨(s.account account).assets.raw + request.amount.raw, by omega⟩,
          ⟨request.cancelledAmount.raw + request.amount.raw, small⟩, notFrozen, current, notCut,
          found, unclaimed, live, nonzero, Nat.sub_add_cancel (Nat.le_trans within pending),
          Nat.sub_add_cancel within, rfl, rfl, rfl⟩
        exact ⟨_, success, deposit_returned reachable current opened found success⟩
  | redeem =>
      have taking := State.redeemBook_current current
      obtain ⟨within, unclaimed⟩ := reachable.backed.2.current_covers
        (show s.redeemBook.current = some ((⟨epoch.id, account⟩ : RequestKey).epoch, _) from taking)
        found live
      have pending : epoch.pendingRedeemShares.raw ≤ s.escrowedRedeemShares.raw :=
        reachable.backed.2.pending_le taking
      have held := s.account_shares_le account
      have fits := reachable.shares_fit
      constructor
      · rintro ⟨s', success, _⟩
        obtain ⟨epoch', request', _, _, _, total, -, current', -, found', -, -, -, -, -, -, hTotal,
          -⟩ := cancelRedeem_iff.mp success
        rw [current] at current'
        cases current'
        rw [show s.redeemRequests[(⟨epoch.id, account⟩ : RequestKey)]? = some request from found]
          at found'
        cases found'
        rw [← hTotal]
        exact total.bound
      · intro small
        have success := cancelRedeem_iff.mpr ⟨epoch, request,
          s.escrowedRedeemShares.saturatingSub request.amount,
          epoch.pendingRedeemShares.saturatingSub request.amount,
          ⟨(s.account account).shares.raw + request.amount.raw, by omega⟩,
          ⟨request.cancelledAmount.raw + request.amount.raw, small⟩, notFrozen, current, notCut,
          found, unclaimed, live, nonzero, Nat.sub_add_cancel (Nat.le_trans within pending),
          Nat.sub_add_cancel within, rfl, rfl, rfl⟩
        exact ⟨_, success, redeem_returned reachable current opened found success⟩

end

/-- The same vault with one account of this balance. -/
def sampleBalance (assets : AssetAmount) : Genesis :=
  { sampleGenesis with accounts := [(sampleHolder, assets)] }

/-- A deposit that is taken back and filed again. -/
def sampleRounds (assets : AssetAmount) : List Operation :=
  [.requestDeposit sampleHolder assets, .cancelDeposit sampleHolder,
    .requestDeposit sampleHolder assets]

/-- The holder has a live deposit request in an open epoch. -/
def holderWaits (s : State) : Bool :=
  s.epoch.any fun epoch => epoch.phase = .opened ∧
    (s.depositRequests[(⟨epoch.id, sampleHolder⟩ : RequestKey)]?).any Request.isActive

theorem of_holderWaits {s : State} (waits : holderWaits s = true) : ∃ epoch request,
    s.epoch = some epoch ∧ epoch.phase = .opened ∧
    s.depositRequests[(⟨epoch.id, sampleHolder⟩ : RequestKey)]? = some request ∧
    request.isActive = true := by
  unfold holderWaits at waits
  obtain ⟨epoch, current, both⟩ := (Option.any_eq_true _ _).mp waits
  obtain ⟨opened, filed⟩ := of_decide_eq_true both
  obtain ⟨request, found, active⟩ := (Option.any_eq_true _ _).mp filed
  exact ⟨epoch, request, current, opened, found, active⟩

/-- In the second round of a large enough deposit the running total overflows, and the deposit cannot
be taken back. -/
theorem cancel_trapped : ∃ s epoch request, Reachable s ∧ s.vaultState = .active ∧
    s.epoch = some epoch ∧ epoch.phase = .opened ∧
    s.depositRequests[(⟨epoch.id, sampleHolder⟩ : RequestKey)]? = some request ∧
    request.isActive = true ∧ ¬∃ s', apply s (.cancelDeposit sampleHolder) = .ok s' := by
  obtain ⟨s, reachable, active, waits, refused⟩ := exists_reachable
    (fun s => s.vaultState = .active ∧ holderWaits s = true ∧
      (apply s (.cancelDeposit sampleHolder)).toOption.isNone)
    (sampleBalance 170141183460469231731687303715884105728)
    (sampleRounds 170141183460469231731687303715884105728) (by decide +kernel)
  obtain ⟨epoch, request, current, opened, found, live⟩ := of_holderWaits waits
  refine ⟨s, epoch, request, reachable, active, current, opened, found, live, ?_⟩
  rintro ⟨s', accepted⟩
  rw [accepted] at refused
  cases refused

theorem cancel_returns_iff_second_round : ∃ s epoch request, Reachable s ∧
    s.epoch = some epoch ∧ request.cancelledAmount.raw = 700 ∧
    ∃ s', apply s (.cancelDeposit sampleHolder) = .ok s' ∧
      Returned .deposit s s' epoch sampleHolder request := by
  obtain ⟨s, reachable, active, waits, total⟩ := exists_reachable
    (fun s => s.vaultState = .active ∧ holderWaits s = true ∧ s.epoch.all fun epoch =>
      (s.depositRequests[(⟨epoch.id, sampleHolder⟩ : RequestKey)]?).all fun request =>
        request.cancelledAmount.raw = 700 ∧ request.amount.raw = 700)
    (sampleBalance 900) (sampleRounds 700) (by decide +kernel)
  obtain ⟨epoch, request, current, opened, found, live⟩ := of_holderWaits waits
  rw [current, Option.all_some, found, Option.all_some] at total
  obtain ⟨cancelled, amount⟩ := of_decide_eq_true total
  refine ⟨s, epoch, request, reachable, current, cancelled, ?_⟩
  refine (cancel_returns_iff .deposit reachable (.inl active) current opened found live).mpr ?_
  rw [cancelled, amount]
  decide

end AccountingModel
