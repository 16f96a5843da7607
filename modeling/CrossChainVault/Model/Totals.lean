import CrossChainVault.Base.Accumulate
import CrossChainVault.Model.Backing

set_option autoImplicit false

/- The totals the state reports about itself, each added up with checked arithmetic. -/

namespace AccountingModel

open Result

section Chain

variable {bits : Nat} {first total : Unsigned bits} {rest : List (Unsigned bits)}

/-- A chain of checked additions. -/
def addAll (first : Unsigned bits) (rest : List (Unsigned bits)) :
    Except Rejection (Unsigned bits) :=
  rest.foldlM checkedAdd first

theorem addAll_eq : addAll first rest =
    if fits : first.raw + (rest.map Unsigned.raw).sum < 2 ^ bits then
      .ok ⟨first.raw + (rest.map Unsigned.raw).sum, fits⟩
    else .error .arithmeticOverflow := by
  induction rest generalizing first with
  | nil => simp [addAll, first.bound, pure, Except.pure]
  | cons next rest ih =>
      simp only [List.map_cons, List.sum_cons]
      rw [addAll, List.foldlM_cons, checkedAdd, Unsigned.checkedAdd]
      by_cases small : first.raw + next.raw < 2 ^ bits
      · rw [dif_pos small, ok_bind, ← addAll, ih]
        simp only [Nat.add_assoc]
      · rw [dif_neg small, dif_neg (by omega)]
        rfl

@[simp] theorem addAll_ok : addAll first rest = .ok total ↔
    total.raw = first.raw + (rest.map Unsigned.raw).sum := by
  rw [addAll_eq]
  split
  · rw [Except.ok.injEq, ← Unsigned.raw_inj, eq_comm]
  · simp only [reduceCtorEq, false_iff]
    have := total.bound
    omega

/-- A chain either has its exact sum or overflows. -/
theorem addAll_cases (first : Unsigned bits) (rest : List (Unsigned bits)) :
    (∃ total, addAll first rest = .ok total ∧
      total.raw = first.raw + (rest.map Unsigned.raw).sum) ∨
    (addAll first rest = .error .arithmeticOverflow ∧
      2 ^ bits ≤ first.raw + (rest.map Unsigned.raw).sum) := by
  by_cases fits : first.raw + (rest.map Unsigned.raw).sum < 2 ^ bits
  · exact .inl ⟨⟨_, fits⟩, addAll_ok.mpr rfl, rfl⟩
  · exact .inr ⟨by rw [addAll_eq, dif_neg fits], by omega⟩

end Chain

namespace Buckets

def physical (buckets : Buckets) : Except Rejection AssetAmount :=
  addAll buckets.pendingDepositEscrow [buckets.idleBacking, buckets.claimReserve,
    buckets.unattributedBalance, buckets.unattributedInbound]

def total (buckets : Buckets) : Except Rejection AssetAmount := do
  let physical ← buckets.physical
  addAll physical [buckets.outboundInTransit, buckets.acceptedRemoteValue,
    buckets.inboundInTransit]

/-- Buckets that never back the share price. -/
def excludedFromNav (buckets : Buckets) : Except Rejection AssetAmount :=
  addAll buckets.pendingDepositEscrow [buckets.claimReserve, buckets.unattributedBalance,
    buckets.unattributedInbound]

end Buckets

/-- Amounts requested in one epoch, derived from the request records. -/
structure RequestTotals where
  depositAssets : AssetAmount
  redeemShares : ShareAmount
  unclaimedDepositAssets : AssetAmount
  unclaimedRedeemShares : ShareAmount
  depositCount : Unsigned 128
  redeemCount : Unsigned 128

/-- What the active requests of a list add up to: all of them, the unclaimed ones, and how many. -/
structure BookTotals where
  amount : Unsigned 128
  unclaimed : Unsigned 128
  count : Unsigned 128

namespace State

def totalAccountAssets (s : State) : Except Rejection AssetAmount :=
  addAll .zero (s.accounts.toList.map fun entry => entry.2.assets)

def totalAccountShares (s : State) : Except Rejection ShareAmount :=
  addAll .zero (s.accounts.toList.map fun entry => entry.2.shares)

/-- One turn of the loop over the requests of one side. -/
def sumRequest (totals : BookTotals) (request : Request) : Except Rejection BookTotals :=
  if request.isActive then do
    let amount ← checkedAdd totals.amount request.amount
    let count := totals.count.saturatingAdd 1
    if request.claimed then pure ⟨amount, totals.unclaimed, count⟩
    else do
      let unclaimed ← checkedAdd totals.unclaimed request.amount
      pure ⟨amount, unclaimed, count⟩
  else pure totals

/-- The loop over the requests of one side; the count saturates instead of failing. -/
def sumRequests (requests : List Request) : Except Rejection BookTotals :=
  requests.foldlM sumRequest ⟨.zero, .zero, .zero⟩

/-- Sums the request records that belong to one epoch. -/
def requestTotals (s : State) (epoch : EpochId) : Except Rejection RequestTotals := do
  let deposits ← sumRequests (s.depositRequests.ofEpoch epoch)
  let redeems ← sumRequests (s.redeemRequests.ofEpoch epoch)
  pure ⟨deposits.amount, redeems.amount, deposits.unclaimed, redeems.unclaimed, deposits.count,
    redeems.count⟩

theorem totalAccountAssets_ok {s : State} {total : AssetAmount} :
    s.totalAccountAssets = .ok total ↔ total.raw = s.heldAssets := by
  simp only [totalAccountAssets, addAll_ok, Unsigned.zero_raw, Nat.zero_add, List.map_map,
    heldAssets, OrderedMap.sumOf, Function.comp_def]

theorem totalAccountShares_ok {s : State} {total : ShareAmount} :
    s.totalAccountShares = .ok total ↔ total.raw = s.heldShares := by
  simp only [totalAccountShares, addAll_ok, Unsigned.zero_raw, Nat.zero_add, List.map_map,
    heldShares, OrderedMap.sumOf, Function.comp_def]

end State

/-- The three totals of the request loop. -/
inductive Tally
  | amount
  | unclaimed
  | count

namespace Tally

def read (totals : BookTotals) : Tally → Nat
  | .amount => totals.amount.raw
  | .unclaimed => totals.unclaimed.raw
  | .count => totals.count.raw

def weight (request : Request) : Tally → Nat
  | .amount => request.activeAmount
  | .unclaimed => request.unclaimed Request.activeAmount
  | .count => request.activeCount

end Tally

theorem Request.unclaimed_le (weight : Request → Nat) (request : Request) :
    request.unclaimed weight ≤ weight request := by
  unfold Request.unclaimed
  split <;> omega

/-- Active requests ask for something, so there are at most as many as their amounts add up to. -/
theorem Request.activeCount_le (request : Request) : request.activeCount ≤ request.activeAmount := by
  unfold Request.activeCount Request.activeAmount
  split
  · rename_i active
    simp only [Request.isActive, Bool.and_eq_true, Bool.not_eq_true', Unsigned.isZero_eq_false]
      at active
    omega
  · exact Nat.le_refl _

namespace State

/-- One turn of the request loop adds the weights of one request, if they fit. -/
private theorem sumRequest_adds (totals : BookTotals) (request : Request)
    (room : ∀ tally, Tally.read totals tally + Tally.weight request tally < 2 ^ 128) :
    ∃ next, sumRequest totals request = .ok next ∧
      ∀ tally, Tally.read next tally = Tally.read totals tally + Tally.weight request tally := by
  have amounts := room .amount
  have unclaimed := room .unclaimed
  have counts := room .count
  simp only [Tally.read, Tally.weight, Request.unclaimed, Request.activeAmount,
    Request.activeCount] at amounts unclaimed counts
  unfold sumRequest
  by_cases active : request.isActive = true
  · simp only [active, if_true] at amounts unclaimed counts ⊢
    have counted := totals.count.saturatingAdd_raw_of_lt 1 counts
    have added : checkedAdd totals.amount request.amount = .ok ⟨_, amounts⟩ :=
      checkedAdd_ok.mpr rfl
    by_cases claimed : request.claimed = true
    · refine ⟨⟨⟨_, amounts⟩, totals.unclaimed, totals.count.saturatingAdd 1⟩, ?_, ?_⟩
      · rw [added, ok_bind, if_pos claimed]
        rfl
      · intro tally
        cases tally with
        | amount => simp [Tally.read, Tally.weight, Request.activeAmount, active]
        | unclaimed => simp [Tally.read, Tally.weight, Request.unclaimed, claimed]
        | count => simpa [Tally.read, Tally.weight, Request.activeCount, active] using counted
    · rw [if_neg claimed] at unclaimed
      have left : checkedAdd totals.unclaimed request.amount = .ok ⟨_, unclaimed⟩ :=
        checkedAdd_ok.mpr rfl
      refine ⟨⟨⟨_, amounts⟩, ⟨_, unclaimed⟩, totals.count.saturatingAdd 1⟩, ?_, ?_⟩
      · rw [added, ok_bind, if_neg claimed, left]
        rfl
      · intro tally
        cases tally with
        | amount => simp [Tally.read, Tally.weight, Request.activeAmount, active]
        | unclaimed =>
            simp [Tally.read, Tally.weight, Request.unclaimed, Request.activeAmount, claimed,
              active]
        | count => simpa [Tally.read, Tally.weight, Request.activeCount, active] using counted
  · rw [if_neg active]
    refine ⟨totals, rfl, fun tally => ?_⟩
    cases tally <;> simp [Tally.weight, Request.unclaimed, Request.activeAmount,
      Request.activeCount, active]

/-- When the amounts fit, so do the unclaimed ones and the count, and all three are exact. -/
theorem sumRequests_fits {requests : List Request}
    (fits : (requests.map Request.activeAmount).sum < 2 ^ 128) :
    ∃ totals, sumRequests requests = .ok totals ∧
      ∀ tally, Tally.read totals tally = (requests.map (Tally.weight · tally)).sum := by
  have below (tally : Tally) : (requests.map (Tally.weight · tally)).sum ≤
      (requests.map Request.activeAmount).sum := by
    refine List.sum_le_sum fun request _ => ?_
    cases tally with
    | amount => exact Nat.le_refl _
    | unclaimed => exact request.unclaimed_le _
    | count => exact request.activeCount_le
  have empty (tally : Tally) : Tally.read ⟨.zero, .zero, .zero⟩ tally = 0 := by
    cases tally <;> rfl
  obtain ⟨totals, finished, exact⟩ := foldlM_adds (f := sumRequest)
    (fun tally totals => Tally.read totals tally) (fun tally request => Tally.weight request tally)
    (2 ^ 128) requests (fun totals request _ => sumRequest_adds totals request)
    ⟨.zero, .zero, .zero⟩ fun tally => by
      rw [empty, Nat.zero_add]
      exact Nat.lt_of_le_of_lt (below tally) fits
  refine ⟨totals, finished, fun tally => ?_⟩
  rw [exact tally, empty, Nat.zero_add]

/-- A completed loop over the requests has added all their amounts. -/
theorem sumRequests_amount {requests : List Request} {totals : BookTotals}
    (finished : sumRequests requests = .ok totals) :
    totals.amount.raw = (requests.map Request.activeAmount).sum := by
  have added := foldlM_added (fun (_ : Unit) (totals : BookTotals) => totals.amount.raw)
    (fun _ request => request.activeAmount) requests (fun totals next request _ success _ => ?_)
    _ _ finished ()
  · simpa using added
  · unfold sumRequest at success
    unfold Request.activeAmount
    split at success
    · rename_i active
      rw [if_pos active]
      simp only [bind_eq_ok, checkedAdd_ok] at success
      obtain ⟨amount, sum, success⟩ := success
      split at success
      · cases pure_eq_ok.mp success
        exact sum
      · simp only [bind_eq_ok, pure_eq_ok] at success
        obtain ⟨_, -, rfl⟩ := success
        exact sum
    · rename_i inactive
      rw [if_neg inactive]
      cases pure_eq_ok.mp success
      rfl

/-- The loop over the requests goes through exactly when the amounts fit, and is then exact. -/
theorem sumRequests_ok {requests : List Request} {totals : BookTotals} :
    sumRequests requests = .ok totals ↔
      ∀ tally, Tally.read totals tally = (requests.map (Tally.weight · tally)).sum := by
  constructor
  · intro finished
    have amounts := sumRequests_amount finished
    obtain ⟨same, again, exact⟩ := sumRequests_fits (by rw [← amounts]; exact totals.amount.bound)
    cases finished.symm.trans again
    exact exact
  · intro exact
    have fits : (requests.map Request.activeAmount).sum < 2 ^ 128 := by
      have amounts := exact .amount
      simp only [Tally.read, Tally.weight] at amounts
      rw [← amounts]
      exact totals.amount.bound
    obtain ⟨same, finished, exact'⟩ := sumRequests_fits fits
    have agree (tally : Tally) : Tally.read same tally = Tally.read totals tally :=
      (exact' tally).trans (exact tally).symm
    rw [finished]
    cases same
    cases totals
    exact congrArg Except.ok (BookTotals.mk.injEq .. ▸
      ⟨Unsigned.ext (agree .amount), Unsigned.ext (agree .unclaimed), Unsigned.ext (agree .count)⟩)

/-- What the records of one epoch add up to. -/
theorem requestTotals_ok {s : State} {epoch : EpochId} {totals : RequestTotals} :
    s.requestTotals epoch = .ok totals ↔
      totals.depositAssets.raw = s.depositRequests.sumIn epoch Request.activeAmount ∧
      totals.redeemShares.raw = s.redeemRequests.sumIn epoch Request.activeAmount ∧
      totals.unclaimedDepositAssets.raw =
        s.depositRequests.sumIn epoch (Request.unclaimed Request.activeAmount) ∧
      totals.unclaimedRedeemShares.raw =
        s.redeemRequests.sumIn epoch (Request.unclaimed Request.activeAmount) ∧
      totals.depositCount.raw = s.depositRequests.sumIn epoch Request.activeCount ∧
      totals.redeemCount.raw = s.redeemRequests.sumIn epoch Request.activeCount := by
  simp only [requestTotals, bind_eq_ok, sumRequests_ok, pure_eq_ok, RequestMap.sumIn_eq_ofEpoch]
  constructor
  · rintro ⟨deposits, hDeposits, redeems, hRedeems, rfl⟩
    exact ⟨hDeposits .amount, hRedeems .amount, hDeposits .unclaimed, hRedeems .unclaimed,
      hDeposits .count, hRedeems .count⟩
  · rintro ⟨assets, shares, unclaimedAssets, unclaimedShares, deposits, redeems⟩
    refine ⟨⟨_, _, _⟩, fun tally => ?_, ⟨_, _, _⟩, fun tally => ?_, rfl⟩
    · cases tally with
      | amount => exact assets
      | unclaimed => exact unclaimedAssets
      | count => exact deposits
    · cases tally with
      | amount => exact shares
      | unclaimed => exact unclaimedShares
      | count => exact redeems

/-- The totals of an epoch can be added up when the requested amounts fit. -/
theorem requestTotals_fits {s : State} {epoch : EpochId}
    (deposits : s.depositRequests.sumIn epoch Request.activeAmount < 2 ^ 128)
    (redeems : s.redeemRequests.sumIn epoch Request.activeAmount < 2 ^ 128) :
    ∃ totals, s.requestTotals epoch = .ok totals := by
  rw [RequestMap.sumIn_eq_ofEpoch] at deposits redeems
  obtain ⟨deposited, hDeposited, -⟩ := sumRequests_fits deposits
  obtain ⟨redeemed, hRedeemed, -⟩ := sumRequests_fits redeems
  exact ⟨_, bind_eq_ok.mpr ⟨deposited, hDeposited, bind_eq_ok.mpr ⟨redeemed, hRedeemed, rfl⟩⟩⟩

section Pricing

variable {price : Unsigned 128 → Except Rejection (Unsigned 128)} {rate : Rate}
  (exact : ∀ amount value, price amount = .ok value ↔ value.raw = rate.floor amount.raw)
  {requests : List Request} {owed : Unsigned 128 × Unsigned 128}

/-- One turn of the pricing loop. -/
def priceRequest (price : Unsigned 128 → Except Rejection (Unsigned 128))
    (owed : Unsigned 128 × Unsigned 128) (request : Request) :
    Except Rejection (Unsigned 128 × Unsigned 128) :=
  if request.isActive then do
    let value ← price request.amount
    let total ← checkedAdd owed.1 value
    if request.claimed then pure (total, owed.2)
    else do
      let unclaimed ← checkedAdd owed.2 value
      pure (total, unclaimed)
  else pure owed

def owedWeight (rate : Rate) (request : Request) (unclaimed : Bool) : Nat :=
  if unclaimed then request.unclaimed (Request.activePrice rate) else request.activePrice rate

include exact in
/-- At an exact price one turn goes through exactly when its sums fit, and adds the floor price. -/
theorem priceRequest_ok {request : Request} {next : Unsigned 128 × Unsigned 128} :
    priceRequest price owed request = .ok next ↔
      ∀ part, (Counters.two 128).read next part =
        (Counters.two 128).read owed part + owedWeight rate request part := by
  simp only [Bool.forall_bool, Counters.two, owedWeight, Request.unclaimed, Request.activePrice,
    Bool.false_eq_true, if_false, if_true]
  unfold priceRequest
  obtain ⟨whole, left⟩ := next
  by_cases active : request.isActive = true
  · rw [if_pos active]
    simp only [active, if_true, bind_eq_ok, checkedAdd_ok, exact]
    by_cases claimed : request.claimed = true
    · simp only [claimed, if_true, pure_eq_ok, Prod.mk.injEq, Nat.add_zero]
      constructor
      · rintro ⟨value, hValue, total, hTotal, rfl, rfl⟩
        exact ⟨by omega, rfl⟩
      · rintro ⟨hTotal, hLeft⟩
        have fits := whole.bound
        exact ⟨⟨rate.floor request.amount.raw, by omega⟩, rfl, whole, by dsimp only; omega, rfl,
          (Unsigned.ext hLeft).symm⟩
    · simp only [claimed, if_false, bind_eq_ok, checkedAdd_ok, pure_eq_ok, Prod.mk.injEq,
        Bool.false_eq_true]
      constructor
      · rintro ⟨value, hValue, total, hTotal, unclaimed, hUnclaimed, rfl, rfl⟩
        exact ⟨by omega, by omega⟩
      · rintro ⟨hTotal, hLeft⟩
        have fits := whole.bound
        exact ⟨⟨rate.floor request.amount.raw, by omega⟩, rfl, whole, by dsimp only; omega, left,
          by dsimp only; omega, rfl, rfl⟩
  · rw [if_neg active]
    simp only [active, if_false, ite_self, Nat.add_zero, pure_eq_ok, Bool.false_eq_true]
    constructor
    · rintro rfl
      exact ⟨rfl, rfl⟩
    · rintro ⟨hWhole, hLeft⟩
      exact Prod.ext (Unsigned.ext hWhole).symm (Unsigned.ext hLeft).symm

include exact in
/-- The pricing loop goes through exactly when its totals fit, and is then exact. -/
theorem priceRequests_ok : priceRequests price requests = .ok owed ↔
    ∀ part, (Counters.two 128).read owed part = (requests.map (owedWeight rate · part)).sum := by
  have empty (part : Bool) : (Counters.two 128).read (.zero, .zero) part = 0 := by
    cases part <;> rfl
  have turn (start : Unsigned 128 × Unsigned 128) (request : Request)
      (next : Unsigned 128 × Unsigned 128) (_ : request ∈ requests) :
      priceRequest price start request = .ok next ↔ True ∧ ∀ part, (Counters.two 128).read next part =
        (Counters.two 128).read start part + owedWeight rate request part := by
    rw [true_and]
    exact priceRequest_ok exact
  have loop := (Counters.two 128).foldlM_ok requests turn (.zero, .zero) owed
  simp only [implies_true, true_and, empty, Nat.zero_add] at loop
  exact loop

end Pricing

/-- What the records of one epoch are owed at terms whose price can be computed. -/
theorem entitlements_ok_iff {s : State} {epoch : EpochId} {terms : EpochTerms} {owed : Entitlements}
    (shares : ∀ amount value,
      terms.sharesFor amount = .ok value ↔ value.raw = terms.shareRate.floor amount.raw)
    (assets : ∀ amount value,
      terms.assetsFor amount = .ok value ↔ value.raw = terms.assetRate.floor amount.raw) :
    s.entitlements epoch terms = .ok owed ↔
      owed.depositShares.raw = s.depositRequests.sumIn epoch (Request.activePrice terms.shareRate) ∧
      owed.unclaimedDepositShares.raw = s.depositRequests.sumIn epoch
        (Request.unclaimed (Request.activePrice terms.shareRate)) ∧
      owed.redeemAssets.raw = s.redeemRequests.sumIn epoch (Request.activePrice terms.assetRate) ∧
      owed.unclaimedRedeemAssets.raw = s.redeemRequests.sumIn epoch
        (Request.unclaimed (Request.activePrice terms.assetRate)) := by
  simp only [entitlements, bind_eq_ok, priceRequests_ok shares, priceRequests_ok assets, pure_eq_ok,
    RequestMap.sumIn_eq_ofEpoch, Bool.forall_bool]
  constructor
  · rintro ⟨deposits, hDeposits, redeems, hRedeems, rfl⟩
    exact ⟨hDeposits.1, hDeposits.2, hRedeems.1, hRedeems.2⟩
  · rintro ⟨allShares, dueShares, allAssets, dueAssets⟩
    exact ⟨(_, _), ⟨allShares, dueShares⟩, (_, _), ⟨allAssets, dueAssets⟩, rfl⟩

end State

end AccountingModel
