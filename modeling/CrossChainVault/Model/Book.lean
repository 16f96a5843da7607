import CrossChainVault.Base.FloorSum
import CrossChainVault.Model.State

set_option autoImplicit false

/- The request book: what the vault is for, seen from one side. Accounts hand an amount in
while an epoch is open, the epoch settles once at one rate or is abandoned, and each request
is then paid once. Deposits and redemptions are two instances of it. -/

namespace AccountingModel

/-- How one epoch left the book. -/
inductive Settlement
  | finalized (rate : Rate) (requested produced dust : Nat)
  | aborted (refund : Nat)

structure Book where
  requests : RequestMap
  /-- The epoch that takes requests, and what it has taken so far. -/
  current : Option (EpochId × Nat)
  settled : OrderedMap EpochId Settlement
  /-- Amounts handed in and not settled or returned yet. -/
  escrow : Nat
  /-- Amounts priced and not paid yet. -/
  payable : Nat

/-- The sum of a weight over the requests of one epoch. -/
def RequestMap.sumIn (requests : RequestMap) (epoch : EpochId) (weight : Request → Nat) : Nat :=
  OrderedMap.sumOf requests fun key request => if key.epoch = epoch then weight request else 0

namespace Request

def activeAmount (request : Request) : Nat := if request.isActive then request.amount.raw else 0

def activeCount (request : Request) : Nat := if request.isActive then 1 else 0

def activePrice (rate : Rate) (request : Request) : Nat :=
  if request.isActive then rate.floor request.amount.raw else 0

/-- The part of a weight that has not been claimed. -/
def unclaimed (weight : Request → Nat) (request : Request) : Nat :=
  if request.claimed then 0 else weight request

theorem activePrice_eq (rate : Rate) (request : Request) :
    request.activePrice rate = rate.floor request.activeAmount := by
  unfold activePrice activeAmount
  split
  · rfl
  · simp

end Request

namespace RequestMap

variable (requests : RequestMap) (weight : Request → Nat)

theorem sumIn_insert_other {epoch : EpochId} {key : RequestKey} (request : Request)
    (other : key.epoch ≠ epoch) :
    RequestMap.sumIn (requests.insert key request) epoch weight = requests.sumIn epoch weight := by
  have moved := OrderedMap.sumOf_insert requests
    (fun key request => if key.epoch = epoch then weight request else 0) key request
  have untouched : (requests[key]?).elim 0
      (fun old => if key.epoch = epoch then weight old else 0) = 0 := by
    cases requests[key]? <;> simp [other]
  rw [untouched, if_neg other] at moved
  exact moved

theorem sumIn_insert_same (key : RequestKey) (request : Request) (empty : weight .empty = 0) :
    RequestMap.sumIn (requests.insert key request) key.epoch weight +
        weight (requests[key]?.getD .empty) =
      requests.sumIn key.epoch weight + weight request := by
  have moved := OrderedMap.sumOf_insert requests
    (fun k request => if k.epoch = key.epoch then weight request else 0) key request
  have old : (requests[key]?).elim 0 (fun old => if key.epoch = key.epoch then weight old else 0) =
      weight (requests[key]?.getD .empty) := by
    cases requests[key]? <;> simp [empty]
  rw [old, if_pos rfl] at moved
  exact moved

theorem sumIn_congr {epoch : EpochId} {weight other : Request → Nat}
    (same : ∀ (key : RequestKey) (request : Request), requests[key]? = some request → key.epoch = epoch →
      weight request = other request) :
    requests.sumIn epoch weight = requests.sumIn epoch other := by
  refine OrderedMap.sumOf_congr requests _ _ fun key request found => ?_
  split
  · rename_i here
    exact same key request found here
  · rfl

theorem sumIn_absent {epoch : EpochId}
    (absent : ∀ (key : RequestKey) (request : Request), requests[key]? = some request → key.epoch ≠ epoch) :
    requests.sumIn epoch weight = 0 :=
  OrderedMap.sumOf_eq_zero requests _ fun key request found => if_neg (absent key request found)

theorem le_sumIn {key : RequestKey} {request : Request} (found : requests[key]? = some request) :
    weight request ≤ requests.sumIn key.epoch weight := by
  have single := OrderedMap.le_sumOf requests
    (fun k r => if k.epoch = key.epoch then weight r else 0) found
  rwa [if_pos rfl] at single

/-- The requests of an epoch priced one by one lose at most one unit each against the whole. -/
theorem sumIn_price (rate : Rate) (epoch : EpochId) :
    requests.sumIn epoch (Request.activePrice rate) ≤
        rate.floor (requests.sumIn epoch Request.activeAmount) ∧
      rate.floor (requests.sumIn epoch Request.activeAmount) ≤
        requests.sumIn epoch (Request.activePrice rate) +
          (requests.sumIn epoch Request.activeCount - 1) := by
  have priced : requests.sumIn epoch (Request.activePrice rate) =
      (requests.toList.map fun entry => rate.floor
        (if entry.1.epoch = epoch then entry.2.activeAmount else 0)).sum := by
    refine congrArg List.sum (List.map_congr_left fun entry _ => ?_)
    dsimp only
    split
    · exact entry.2.activePrice_eq rate
    · simp
  rw [priced]
  refine ⟨rate.sum_floor_le _ requests.toList, rate.floor_sum_le _ _ requests.toList ?_⟩
  intro entry _
  dsimp only
  split
  · unfold Request.activeCount Request.activeAmount
    split <;> simp
  · simp

end RequestMap

namespace Book

/-- What one settled epoch still has to return from escrow. -/
def refundable (requests : RequestMap) (epoch : EpochId) : Settlement → Nat
  | .aborted _ => requests.sumIn epoch (Request.unclaimed Request.activeAmount)
  | .finalized .. => 0

/-- What one settled epoch still has to pay, with the dust no claim can reach. -/
def claimable (requests : RequestMap) (epoch : EpochId) : Settlement → Nat
  | .finalized rate _ _ dust =>
      requests.sumIn epoch (Request.unclaimed (Request.activePrice rate)) + dust
  | .aborted _ => 0

/-- The recorded outcome of an epoch agrees with the requests behind it. -/
def Explained (requests : RequestMap) (epoch : EpochId) : Settlement → Prop
  | .finalized rate requested produced dust =>
      requested = requests.sumIn epoch Request.activeAmount ∧
      produced = rate.floor requested ∧
      dust + requests.sumIn epoch (Request.activePrice rate) = produced ∧
      dust ≤ requests.sumIn epoch Request.activeCount - 1
  | .aborted refund => refund = requests.sumIn epoch Request.activeAmount

/-- The book is exactly backed: every unit in escrow or payable belongs to a live request or is
measured dust. -/
structure Backed (b : Book) : Prop where
  lifecycle : ∀ (key : RequestKey) (request : Request), b.requests[key]? = some request →
    (request.cancelled = true ↔ request.amount.raw = 0) ∧
      ¬(request.cancelled = true ∧ request.claimed = true)
  filed : ∀ (key : RequestKey) (request : Request), b.requests[key]? = some request →
    (∃ pending, b.current = some (key.epoch, pending)) ∨ b.settled[key.epoch]?.isSome
  fresh : ∀ (epoch : EpochId) (pending : Nat), b.current = some (epoch, pending) → b.settled[epoch]? = none
  unclaimed : ∀ (key : RequestKey) (request : Request) (pending : Nat), b.requests[key]? = some request →
    b.current = some (key.epoch, pending) → request.claimed = false
  pending : ∀ (epoch : EpochId) (pending : Nat), b.current = some (epoch, pending) →
    pending = b.requests.sumIn epoch Request.activeAmount
  escrow : b.escrow = (b.current.elim 0 fun current => current.2) +
    OrderedMap.sumOf b.settled (refundable b.requests)
  payable : b.payable = OrderedMap.sumOf b.settled (claimable b.requests)
  explained : ∀ (epoch : EpochId) (settlement : Settlement), b.settled[epoch]? = some settlement →
    Explained b.requests epoch settlement

/-- Everything that can happen to a book. -/
inductive Step : Book → Book → Prop
  | stay (b : Book) : Step b b
  | openEpoch (b : Book) (epoch : EpochId) (idle : b.current = none)
      (unused : b.settled[epoch]? = none) : Step b { b with current := some (epoch, 0) }
  | request (b : Book) (key : RequestKey) (pending : Nat) (record : Request) (added : Nat)
      (taking : b.current = some (key.epoch, pending)) (nonzero : added ≠ 0)
      (amount : record.amount.raw = (b.requests[key]?.getD .empty).amount.raw + added)
      (live : record.cancelled = false) (unclaimed : record.claimed = false) :
      Step b { b with
        requests := b.requests.insert key record
        current := some (key.epoch, pending + added)
        escrow := b.escrow + added }
  | cancel (b : Book) (key : RequestKey) (pending escrow : Nat) (old record : Request)
      (taking : b.current = some (key.epoch, pending + old.amount.raw))
      (found : b.requests[key]? = some old) (wasLive : old.cancelled = false)
      (escrowed : escrow + old.amount.raw = b.escrow)
      (amount : record.amount.raw = 0) (cancelled : record.cancelled = true)
      (unclaimed : record.claimed = false) :
      Step b { b with
        requests := b.requests.insert key record
        current := some (key.epoch, pending)
        escrow := escrow }
  | finalize (b : Book) (epoch : EpochId) (pending escrow : Nat) (rate : Rate) (dust : Nat)
      (taking : b.current = some (epoch, pending)) (escrowed : escrow + pending = b.escrow)
      (measured : dust + b.requests.sumIn epoch (Request.activePrice rate) = rate.floor pending) :
      Step b { b with
        current := none
        settled := b.settled.insert epoch (.finalized rate pending (rate.floor pending) dust)
        escrow := escrow
        payable := b.payable + rate.floor pending }
  | abort (b : Book) (epoch : EpochId) (pending : Nat)
      (taking : b.current = some (epoch, pending)) :
      Step b { b with
        current := none
        settled := b.settled.insert epoch (.aborted pending) }
  | claim (b : Book) (key : RequestKey) (request : Request) (rate : Rate)
      (requested produced dust payable : Nat)
      (settled : b.settled[key.epoch]? = some (.finalized rate requested produced dust))
      (found : b.requests[key]? = some request) (outstanding : request.isOutstanding = true)
      (paid : payable + rate.floor request.amount.raw = b.payable) :
      Step b { b with
        requests := b.requests.insert key { request with claimed := true }
        payable := payable }
  | refund (b : Book) (key : RequestKey) (request : Request) (refund escrow : Nat)
      (settled : b.settled[key.epoch]? = some (.aborted refund))
      (found : b.requests[key]? = some request) (outstanding : request.isOutstanding = true)
      (returned : escrow + request.amount.raw = b.escrow) :
      Step b { b with
        requests := b.requests.insert key { request with claimed := true }
        escrow := escrow }

variable {b b' : Book}

/-- Changing one request of an epoch leaves the other epochs' totals alone. -/
private theorem refundable_insert_other {requests : RequestMap} {key : RequestKey}
    (record : Request) {epoch : EpochId} (other : key.epoch ≠ epoch) (settlement : Settlement) :
    refundable (requests.insert key record) epoch settlement =
      refundable requests epoch settlement := by
  cases settlement with
  | finalized => rfl
  | aborted => exact RequestMap.sumIn_insert_other requests _ record other

private theorem claimable_insert_other {requests : RequestMap} {key : RequestKey}
    (record : Request) {epoch : EpochId} (other : key.epoch ≠ epoch) (settlement : Settlement) :
    claimable (requests.insert key record) epoch settlement =
      claimable requests epoch settlement := by
  cases settlement with
  | finalized rate =>
      exact congrArg (· + _) (RequestMap.sumIn_insert_other requests _ record other)
  | aborted => rfl

private theorem explained_insert_other {requests : RequestMap} {key : RequestKey}
    (record : Request) {epoch : EpochId} (other : key.epoch ≠ epoch) (settlement : Settlement) :
    Explained (requests.insert key record) epoch settlement ↔
      Explained requests epoch settlement := by
  cases settlement with
  | finalized rate => simp only [Explained, RequestMap.sumIn_insert_other requests _ record other]
  | aborted => simp only [Explained, RequestMap.sumIn_insert_other requests _ record other]

/-- Marking a request claimed changes no total that counts claimed requests too. -/
private theorem explained_claimed {requests : RequestMap} {key : RequestKey} {request : Request}
    (found : requests[key]? = some request) (epoch : EpochId) (settlement : Settlement) :
    Explained (requests.insert key { request with claimed := true }) epoch settlement ↔
      Explained requests epoch settlement := by
  have same (weight : Request → Nat) (empty : weight .empty = 0)
      (blind : weight { request with claimed := true } = weight request) :
      RequestMap.sumIn (requests.insert key { request with claimed := true }) epoch weight =
        requests.sumIn epoch weight := by
    by_cases here : key.epoch = epoch
    · have moved := requests.sumIn_insert_same weight key { request with claimed := true } empty
      rw [found, Option.getD_some, blind, here] at moved
      exact Nat.add_right_cancel moved
    · exact requests.sumIn_insert_other weight _ here
  have amounts := same Request.activeAmount rfl rfl
  have counts := same Request.activeCount rfl rfl
  cases settlement with
  | finalized rate =>
      have prices := same (Request.activePrice rate) rfl rfl
      simp only [Explained, amounts, counts, prices]
  | aborted => simp only [Explained, amounts]

/-- What one claimed request takes out of the unclaimed total of its epoch. -/
private theorem sumIn_unclaimed_claimed {requests : RequestMap} {key : RequestKey}
    {request : Request} (found : requests[key]? = some request) (open_ : request.claimed = false)
    (weight : Request → Nat) (empty : weight .empty = 0) :
    RequestMap.sumIn (requests.insert key { request with claimed := true }) key.epoch
        (Request.unclaimed weight) + weight request =
      requests.sumIn key.epoch (Request.unclaimed weight) := by
  have moved := requests.sumIn_insert_same (Request.unclaimed weight) key
    { request with claimed := true } (by simp [Request.unclaimed, empty])
  rw [found, Option.getD_some] at moved
  simpa [Request.unclaimed, open_] using moved

theorem isOutstanding_iff {request : Request} : request.isOutstanding = true ↔
    request.cancelled = false ∧ request.claimed = false ∧ request.amount.raw ≠ 0 := by
  simp [Request.isOutstanding, and_assoc]

theorem activeAmount_of_live {request : Request} (live : request.cancelled = false) :
    request.activeAmount = request.amount.raw := by
  unfold Request.activeAmount Request.isActive
  by_cases zero : request.amount.raw = 0
  · simp [zero]
  · simp [zero, live]

/-- Rewriting one unclaimed record of the current epoch keeps the book backed when the pending
total and the escrow move by what the record moved. -/
theorem Backed.refile (backed : Backed b) {key : RequestKey} {pending pending' escrow : Nat}
    {record : Request} (taking : b.current = some (key.epoch, pending))
    (flags : record.cancelled = true ↔ record.amount.raw = 0) (unclaimed : record.claimed = false)
    (moved : pending' + (b.requests[key]?.getD .empty).activeAmount =
      pending + record.activeAmount)
    (escrowed : escrow + pending = b.escrow + pending') :
    Backed { b with
      requests := b.requests.insert key record
      current := some (key.epoch, pending')
      escrow := escrow } := by
  have unsettled := backed.fresh _ _ taking
  have apart {epoch : EpochId} {settlement : Settlement}
      (found : b.settled[epoch]? = some settlement) : key.epoch ≠ epoch := by
    rintro rfl
    simp [unsettled] at found
  constructor
  case lifecycle =>
    intro key' request found
    rw [OrderedMap.getElem?_insert] at found
    split at found
    · cases found
      exact ⟨flags, by simp [unclaimed]⟩
    · exact backed.lifecycle key' request found
  case filed =>
    intro key' request found
    rw [OrderedMap.getElem?_insert] at found
    split at found
    · rename_i same
      exact .inl ⟨pending', by rw [same]⟩
    · rcases backed.filed key' request found with ⟨_, current⟩ | settled
      · rw [taking] at current
        have same : key.epoch = key'.epoch := (Prod.mk.inj (Option.some.inj current)).1
        exact .inl ⟨pending', by rw [same]⟩
      · exact .inr settled
  case fresh =>
    rintro epoch _ current
    cases current
    exact unsettled
  case unclaimed =>
    intro key' request _ found current
    rw [OrderedMap.getElem?_insert] at found
    split at found
    · cases found
      exact unclaimed
    · have same : key.epoch = key'.epoch := (Prod.mk.inj (Option.some.inj current)).1
      exact backed.unclaimed key' request pending found (same ▸ taking)
  case pending =>
    rintro epoch _ current
    cases current
    have sums := b.requests.sumIn_insert_same Request.activeAmount key record rfl
    have before := backed.pending _ _ taking
    dsimp only
    omega
  case escrow =>
    have refunds : OrderedMap.sumOf b.settled (refundable (b.requests.insert key record)) =
        OrderedMap.sumOf b.settled (refundable b.requests) :=
      OrderedMap.sumOf_congr _ _ _ fun _ settlement found =>
        refundable_insert_other record (apart found) settlement
    have before := backed.escrow
    rw [taking] at before
    simp only [Option.elim_some, refunds] at before ⊢
    omega
  case payable =>
    rw [backed.payable]
    exact OrderedMap.sumOf_congr _ _ _ fun _ settlement found =>
      (claimable_insert_other record (apart found) settlement).symm
  case explained =>
    intro epoch settlement found
    exact (explained_insert_other record (apart found) settlement).mpr
      (backed.explained epoch settlement found)

theorem Backed.openEpoch (backed : Backed b) {epoch : EpochId} (idle : b.current = none)
    (unused : b.settled[epoch]? = none) : Backed { b with current := some (epoch, 0) } := by
  have elsewhere (key : RequestKey) (request : Request)
      (found : b.requests[key]? = some request) : key.epoch ≠ epoch := by
    rintro rfl
    rcases backed.filed key request found with ⟨_, current⟩ | settled
    · simp [idle] at current
    · simp [unused] at settled
  refine ⟨backed.lifecycle, ?_, ?_, ?_, ?_, ?_, backed.payable, backed.explained⟩
  · intro key request found
    rcases backed.filed key request found with ⟨_, current⟩ | settled
    · simp [idle] at current
    · exact .inr settled
  · rintro _ _ current
    cases current
    exact unused
  · intro key request _ found current
    cases current
    exact (elsewhere key request found rfl).elim
  · rintro _ _ current
    cases current
    exact (b.requests.sumIn_absent Request.activeAmount elsewhere).symm
  · have before := backed.escrow
    rw [idle] at before
    exact before

/-- A settlement moves the current epoch into the settled ones. -/
theorem Backed.settle (backed : Backed b) {epoch : EpochId} {pending escrow payable : Nat}
    (settlement : Settlement) (taking : b.current = some (epoch, pending))
    (escrowed : escrow + pending = b.escrow + refundable b.requests epoch settlement)
    (priced : payable = b.payable + claimable b.requests epoch settlement)
    (explained : Explained b.requests epoch settlement) :
    Backed { b with
      current := none
      settled := b.settled.insert epoch settlement
      escrow := escrow
      payable := payable } := by
  have unsettled := backed.fresh _ _ taking
  constructor
  case lifecycle => exact backed.lifecycle
  case filed =>
    intro key request found
    right
    rw [OrderedMap.getElem?_insert]
    split
    · rfl
    · rename_i other
      rcases backed.filed key request found with ⟨_, current⟩ | settled
      · rw [taking] at current
        cases current
        exact (other rfl).elim
      · exact settled
  case fresh => exact fun _ _ impossible => by cases impossible
  case unclaimed => exact fun _ _ _ _ impossible => by cases impossible
  case pending => exact fun _ _ impossible => by cases impossible
  case escrow =>
    have before := backed.escrow
    rw [taking] at before
    rw [OrderedMap.sumOf_insert_new _ _ _ _ unsettled]
    simp only [Option.elim_some, Option.elim_none] at before ⊢
    omega
  case payable =>
    rw [OrderedMap.sumOf_insert_new _ _ _ _ unsettled, ← backed.payable]
    exact priced
  case explained =>
    intro epoch' settlement' found
    rw [OrderedMap.getElem?_insert] at found
    split at found
    · rename_i same
      cases found
      exact same ▸ explained
    · exact backed.explained epoch' settlement' found

/-- While an epoch is current none of its requests is claimed. -/
theorem Backed.sumIn_unclaimed (backed : Backed b) {epoch : EpochId} {pending : Nat}
    (taking : b.current = some (epoch, pending)) (weight : Request → Nat) :
    b.requests.sumIn epoch (Request.unclaimed weight) = b.requests.sumIn epoch weight := by
  refine b.requests.sumIn_congr fun key request found here => ?_
  subst here
  simp [Request.unclaimed, backed.unclaimed key request pending found taking]

/-- Claiming one outstanding request of a settled epoch keeps the book backed when the escrow and
the payable pool fall by what the epoch owed for it. -/
theorem Backed.consume (backed : Backed b) {key : RequestKey} {request : Request}
    {settlement : Settlement} {escrow payable : Nat}
    (settled : b.settled[key.epoch]? = some settlement)
    (found : b.requests[key]? = some request) (outstanding : request.isOutstanding = true)
    (escrowed : escrow + refundable b.requests key.epoch settlement = b.escrow +
      refundable (b.requests.insert key { request with claimed := true }) key.epoch settlement)
    (paid : payable + claimable b.requests key.epoch settlement = b.payable +
      claimable (b.requests.insert key { request with claimed := true }) key.epoch settlement) :
    Backed { b with
      requests := b.requests.insert key { request with claimed := true }
      escrow := escrow
      payable := payable } := by
  obtain ⟨live, -, nonzero⟩ := isOutstanding_iff.mp outstanding
  have notCurrent {pending : Nat} (taking : b.current = some (key.epoch, pending)) : False := by
    have := backed.fresh _ _ taking
    simp [settled] at this
  constructor
  case lifecycle =>
    intro key' request' found'
    rw [OrderedMap.getElem?_insert] at found'
    split at found'
    · cases found'
      exact ⟨by simp [live, nonzero], by simp [live]⟩
    · exact backed.lifecycle key' request' found'
  case filed =>
    intro key' request' found'
    rw [OrderedMap.getElem?_insert] at found'
    split at found'
    · rename_i same
      exact .inr (by rw [← same, settled]; rfl)
    · exact backed.filed key' request' found'
  case fresh => exact backed.fresh
  case unclaimed =>
    intro key' request' pending found' taking
    rw [OrderedMap.getElem?_insert] at found'
    split at found'
    · rename_i same
      subst same
      exact (notCurrent taking).elim
    · exact backed.unclaimed key' request' pending found' taking
  case pending =>
    intro epoch pending taking
    have other : key.epoch ≠ epoch := by
      rintro rfl
      exact notCurrent taking
    rw [backed.pending epoch pending taking]
    exact (b.requests.sumIn_insert_other _ _ other).symm
  case escrow =>
    have moved := OrderedMap.sumOf_update b.settled
      (refundable (b.requests.insert key { request with claimed := true }))
      (refundable b.requests) settled
      fun _ settlement other _ => refundable_insert_other _ (Ne.symm other) settlement
    have before := backed.escrow
    dsimp only
    omega
  case payable =>
    have moved := OrderedMap.sumOf_update b.settled
      (claimable (b.requests.insert key { request with claimed := true }))
      (claimable b.requests) settled
      fun _ settlement other _ => claimable_insert_other _ (Ne.symm other) settlement
    have before := backed.payable
    dsimp only
    omega
  case explained =>
    intro epoch settlement' found'
    exact (explained_claimed found epoch settlement').mpr
      (backed.explained epoch settlement' found')

/-- Every step of the book keeps it exactly backed. -/
theorem Backed.step (step : Step b b') (backed : Backed b) : Backed b' := by
  cases step with
  | stay => exact backed
  | openEpoch epoch idle unused => exact backed.openEpoch idle unused
  | request key pending record added taking nonzero amount live unclaimed =>
      have old : (b.requests[key]?.getD .empty).activeAmount =
          (b.requests[key]?.getD .empty).amount.raw := by
        cases found : b.requests[key]? with
        | none => rfl
        | some request =>
            have flags := (backed.lifecycle key request found).1
            unfold Request.activeAmount Request.isActive
            by_cases zero : request.amount.raw = 0
            · simp [zero]
            · have wasLive : request.cancelled = false := by simpa using mt flags.mp zero
              simp [zero, wasLive]
      refine backed.refile taking ?_ unclaimed ?_ (by omega)
      · simp only [live, Bool.false_eq_true, false_iff]
        omega
      · rw [activeAmount_of_live live]
        omega
  | cancel key pending escrow old record taking found wasLive escrowed amount cancelled unclaimed =>
      refine backed.refile taking ⟨fun _ => amount, fun _ => cancelled⟩ unclaimed ?_ (by omega)
      rw [found, Option.getD_some, activeAmount_of_live wasLive]
      simp [Request.activeAmount, Request.isActive, cancelled]
  | finalize epoch pending escrow rate dust taking escrowed measured =>
      have requested := backed.pending _ _ taking
      have bounds := b.requests.sumIn_price rate epoch
      refine backed.settle _ taking escrowed ?_ ⟨requested, rfl, measured, ?_⟩
      · simp only [claimable, backed.sumIn_unclaimed taking]
        omega
      · rw [← requested] at bounds
        omega
  | abort epoch pending taking =>
      have requested := backed.pending _ _ taking
      refine backed.settle (.aborted pending) taking ?_ rfl requested
      simp only [refundable, backed.sumIn_unclaimed taking]
      omega
  | claim key request rate requested produced dust payable settled found outstanding paid =>
      obtain ⟨live, unclaimed, nonzero⟩ := isOutstanding_iff.mp outstanding
      have moved := sumIn_unclaimed_claimed found unclaimed (Request.activePrice rate) rfl
      rw [Request.activePrice_eq, activeAmount_of_live live] at moved
      refine backed.consume settled found outstanding rfl ?_
      simp only [claimable]
      omega
  | refund key request refund escrow settled found outstanding returned =>
      obtain ⟨live, unclaimed, nonzero⟩ := isOutstanding_iff.mp outstanding
      have moved := sumIn_unclaimed_claimed found unclaimed Request.activeAmount rfl
      rw [activeAmount_of_live live] at moved
      refine backed.consume settled found outstanding ?_ rfl
      simp only [refundable]
      omega

end Book

end AccountingModel
