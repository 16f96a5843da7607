import CrossChainVault.Base.Tally
import CrossChainVault.Evm.Books

set_option autoImplicit false

/- What the vault owes its requests: refunds of aborted epochs and claims of finalized ones. -/

namespace Evm

open Result Tally

/-- A request whose amount has not been paid out yet. -/
def Request.pending (request : Request) : Bool := !request.settled && !request.amount.isZero

theorem Request.pending_iff {request : Request} :
    request.pending = true ↔ request.settled = false ∧ request.amount.raw ≠ 0 := by
  simp [pending]

namespace Requests

/-- What the pending requests of one epoch are due together. -/
noncomputable def due (r : Requests) (epochId : Uint64) (amount : Address → Nat) : Nat :=
  tally fun controller => if (r.requestOf epochId controller).pending then amount controller else 0

noncomputable def requested (r : Requests) (epochId : Uint64) : Nat :=
  r.due epochId fun controller => (r.requestOf epochId controller).amount.raw

noncomputable def claimable (r : Requests) (epochId : Uint64) : Nat :=
  r.due epochId fun controller => (r.claimOf epochId controller).raw

/-- Everything aborted epochs still owe back. -/
noncomputable def refundable (r : Requests) (settled : Uint64 → SettledEpoch) : Nat :=
  tally fun epochId => if (settled epochId).outcome = .aborted then r.requested epochId else 0

/-- Everything finalized epochs still hold: their dust and the claims not taken yet. -/
noncomputable def setAside (r : Requests) (settled : Uint64 → SettledEpoch)
    (dust : SettledEpoch → Uint256) : Nat :=
  tally fun epochId => if (settled epochId).outcome = .finalized then
    (dust (settled epochId)).raw + r.claimable epochId else 0

variable {r r' : Requests} {epochId other : Uint64} {controller : Address}
  {list : Registry Address} {request : Request} {settled settled' : Uint64 → SettledEpoch}
  {terms : SettledEpoch} (dust : SettledEpoch → Uint256)

theorem requested_congr
    (same : ∀ holder, r'.requestOf other holder = r.requestOf other holder) :
    r'.requested other = r.requested other := by
  apply tally_congr
  intro holder
  dsimp only
  rw [same holder]

theorem claimable_congr
    (same : ∀ holder, r'.requestOf other holder = r.requestOf other holder)
    (claims : ∀ holder, r'.claimOf other holder = r.claimOf other holder) :
    r'.claimable other = r.claimable other := by
  apply tally_congr
  intro holder
  dsimp only
  rw [same holder, claims holder]

theorem refundable_congr (same : ∀ epochId, (settled epochId).outcome = .aborted →
    r'.requested epochId = r.requested epochId) :
    r'.refundable settled = r.refundable settled := by
  apply tally_congr
  intro epochId
  by_cases aborted : (settled epochId).outcome = .aborted
  · rw [if_pos aborted, if_pos aborted, same epochId aborted]
  · rw [if_neg aborted, if_neg aborted]

theorem setAside_congr (same : ∀ epochId, (settled epochId).outcome = .finalized →
    r'.claimable epochId = r.claimable epochId) :
    r'.setAside settled dust = r.setAside settled dust := by
  apply tally_congr
  intro epochId
  by_cases finalized : (settled epochId).outcome = .finalized
  · rw [if_pos finalized, if_pos finalized, same epochId finalized]
  · rw [if_neg finalized, if_neg finalized]

section File

theorem pending_amount (unsettled : request.settled = false) :
    (if request.pending then request.amount.raw else 0) = request.amount.raw := by
  by_cases nothing : request.amount.raw = 0
  · rw [nothing, ite_self]
  · rw [if_pos (Request.pending_iff.mpr ⟨unsettled, nothing⟩)]

/-- Filing a request moves the epoch's total by what the request changed. -/
theorem requested_file (unsettled : (r.requestOf epochId controller).settled = false)
    (fresh : request.settled = false) :
    (r.file epochId controller request list).requested epochId +
        (r.requestOf epochId controller).amount.raw =
      r.requested epochId + request.amount.raw := by
  have changed := tally_changed controller
    (f := fun holder => if ((r.file epochId controller request list).requestOf epochId
      holder).pending then
        ((r.file epochId controller request list).requestOf epochId holder).amount.raw else 0)
    (g := fun holder => if (r.requestOf epochId holder).pending then
        (r.requestOf epochId holder).amount.raw else 0) (by
      intro holder apart
      simp only [file_requestOf, apart, and_false, if_false])
  simp only [file_requestOf, and_self, if_true, pending_amount unsettled, pending_amount fresh]
    at changed
  simpa only [requested, due, file_requestOf] using changed

theorem requested_file_other (elsewhere : other ≠ epochId) :
    (r.file epochId controller request list).requested other = r.requested other := by
  apply requested_congr
  intro holder
  simp [elsewhere]

/-- What already settled does not change while requests come and go. -/
theorem owed_file (controller : Address) (request : Request) (list : Registry Address)
    (unsettled : (settled epochId).outcome = .none) :
    (r.file epochId controller request list).refundable settled = r.refundable settled ∧
    (r.file epochId controller request list).setAside settled dust = r.setAside settled dust := by
  have elsewhere : ∀ other, (settled other).outcome ≠ .none → other ≠ epochId := by
    rintro other settledHere rfl
    exact settledHere unsettled
  constructor
  · apply refundable_congr
    intro other aborted
    exact requested_file_other (elsewhere other (by rw [aborted]; decide))
  · apply setAside_congr
    intro other finalized
    apply claimable_congr
    · intro holder
      simp [elsewhere other (by rw [finalized]; decide)]
    · intro holder
      rfl

end File

section Settle

theorem settle_requestOf_other (elsewhere : other ≠ epochId) (holder : Address) :
    (r.settle epochId controller).requestOf other holder = r.requestOf other holder := by
  simp [elsewhere]

/-- Paying a pending request takes its part out of what the epoch is due. -/
theorem due_settle (amount : Address → Nat)
    (pending : (r.requestOf epochId controller).pending = true) :
    (r.settle epochId controller).due epochId amount + amount controller =
      r.due epochId amount := by
  have changed := tally_changed controller
    (f := fun holder => if ((r.settle epochId controller).requestOf epochId holder).pending then
      amount holder else 0)
    (g := fun holder => if (r.requestOf epochId holder).pending then amount holder else 0) (by
      intro holder apart
      simp only [settle_requestOf, apart, and_false, if_false])
  have paid : ({ r.requestOf epochId controller with settled := true } : Request).pending = false := by
    simp [Request.pending]
  simp only [settle_requestOf, and_self, if_true, paid, pending, Bool.false_eq_true, if_false,
    Nat.add_zero] at changed
  simpa only [due, settle_requestOf] using changed

theorem requested_settle (pending : (r.requestOf epochId controller).pending = true) :
    (r.settle epochId controller).requested epochId +
      (r.requestOf epochId controller).amount.raw = r.requested epochId := by
  have paid := due_settle (fun holder => (r.requestOf epochId holder).amount.raw) pending
  simpa only [requested, settle_amount] using paid

theorem claimable_settle (pending : (r.requestOf epochId controller).pending = true) :
    (r.settle epochId controller).claimable epochId +
      (r.claimOf epochId controller).raw = r.claimable epochId :=
  due_settle (fun holder => (r.claimOf epochId holder).raw) pending

/-- A refund lowers what is owed back by its amount and leaves every claim alone. -/
theorem owed_refund (aborted : (settled epochId).outcome = .aborted)
    (pending : (r.requestOf epochId controller).pending = true) :
    (r.settle epochId controller).refundable settled +
        (r.requestOf epochId controller).amount.raw = r.refundable settled ∧
    (r.settle epochId controller).setAside settled dust = r.setAside settled dust := by
  constructor
  · have changed := tally_changed epochId
      (f := fun other => if (settled other).outcome = .aborted then
        (r.settle epochId controller).requested other else 0)
      (g := fun other => if (settled other).outcome = .aborted then r.requested other else 0) (by
        intro other elsewhere
        rw [requested_congr (settle_requestOf_other elsewhere)])
    have paid := requested_settle pending
    simp only [aborted, if_true] at changed
    unfold refundable
    omega
  · apply setAside_congr
    intro other finalized
    have elsewhere : other ≠ epochId := by
      rintro rfl
      rw [aborted] at finalized
      cases finalized
    exact claimable_congr (settle_requestOf_other elsewhere) fun _ => rfl

/-- A claim lowers what is set aside by its amount and leaves every refund alone. -/
theorem owed_claim (finalized : (settled epochId).outcome = .finalized)
    (pending : (r.requestOf epochId controller).pending = true) :
    (r.settle epochId controller).refundable settled = r.refundable settled ∧
    (r.settle epochId controller).setAside settled dust + (r.claimOf epochId controller).raw =
      r.setAside settled dust := by
  constructor
  · apply refundable_congr
    intro other aborted
    have elsewhere : other ≠ epochId := by
      rintro rfl
      rw [aborted] at finalized
      cases finalized
    exact requested_congr (settle_requestOf_other elsewhere)
  · have changed := tally_changed epochId
      (f := fun other => if (settled other).outcome = .finalized then
        (dust (settled other)).raw + (r.settle epochId controller).claimable other else 0)
      (g := fun other => if (settled other).outcome = .finalized then
        (dust (settled other)).raw + r.claimable other else 0) (by
        intro other elsewhere
        rw [claimable_congr (settle_requestOf_other elsewhere) fun _ => rfl])
    have paid := claimable_settle pending
    simp only [finalized, if_true] at changed
    unfold setAside
    omega

end Settle

section Outcome

/-- An abort owes back what the epoch was asked for. -/
theorem owed_abort (unsettled : (settled epochId).outcome = .none)
    (aborted : terms.outcome = .aborted) :
    r.refundable (Function.update settled epochId terms) =
      r.refundable settled + r.requested epochId ∧
    r.setAside (Function.update settled epochId terms) dust = r.setAside settled dust := by
  constructor
  · have changed := tally_changed epochId
      (f := fun other => if (Function.update settled epochId terms other).outcome = .aborted then
        r.requested other else 0)
      (g := fun other => if (settled other).outcome = .aborted then r.requested other else 0) (by
        intro other elsewhere
        rw [Function.update_of_ne elsewhere])
    simp only [Function.update_self, aborted, unsettled, if_true, reduceCtorEq, if_false] at changed
    exact changed
  · apply tally_congr
    intro other
    by_cases here : other = epochId
    · subst here
      simp [aborted, unsettled]
    · rw [Function.update_of_ne here]

/-- A finalization sets aside its dust and exactly what it priced. -/
theorem owed_finalize {price : Uint256 → Except Revert Uint256} {owed : Uint256}
    (sound : r.Sound) (success : r.priceClaims epochId price = .ok (r', owed))
    (fresh : ∀ holder, (r.requestOf epochId holder).settled = false)
    (unsettled : (settled epochId).outcome = .none) (finalized : terms.outcome = .finalized) :
    r'.refundable (Function.update settled epochId terms) = r.refundable settled ∧
    r'.setAside (Function.update settled epochId terms) dust =
      r.setAside settled dust + (dust terms).raw + owed.raw := by
  obtain ⟨sameRequests, -, -, kept, total⟩ := priceClaims_ok sound success
  have claims : r'.claimable epochId = owed.raw := by
    rw [total]
    have listed := tally_listed (sound.wellFormed epochId).nodup
      (f := fun holder => if (r'.requestOf epochId holder).pending then
        (r'.claimOf epochId holder).raw else 0) (by
        intro holder absent
        have nothing : (r.requestOf epochId holder).amount.raw = 0 := by
          by_contra something
          exact absent ((sound.listed epochId holder).mpr something)
        simp [Request.pending, sameRequests, nothing])
    refine listed.trans (congrArg List.sum (List.map_congr_left ?_))
    intro holder member
    rw [sameRequests, if_pos (Request.pending_iff.mpr
      ⟨fresh holder, (sound.listed epochId holder).mp member⟩)]
  constructor
  · apply tally_congr
    intro other
    by_cases here : other = epochId
    · subst here
      simp [finalized, unsettled]
    · rw [Function.update_of_ne here,
        requested_congr fun holder => congrFun (congrFun sameRequests other) holder]
  · have changed := tally_changed epochId
      (f := fun other => if (Function.update settled epochId terms other).outcome = .finalized then
        (dust (Function.update settled epochId terms other)).raw + r'.claimable other else 0)
      (g := fun other => if (settled other).outcome = .finalized then
        (dust (settled other)).raw + r.claimable other else 0) (by
        intro other elsewhere
        rw [Function.update_of_ne elsewhere, claimable_congr
          (fun holder => congrFun (congrFun sameRequests other) holder)
          (fun holder => kept other holder elsewhere)])
    simp only [Function.update_self, finalized, unsettled, if_true, reduceCtorEq, if_false, claims]
      at changed
    unfold setAside
    omega

end Outcome

end Requests

end Evm
