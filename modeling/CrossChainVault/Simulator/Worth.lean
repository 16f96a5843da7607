import CrossChainVault.Simulator.Drain

set_option autoImplicit false

/- What is delivered of one request. The event the caller scheduled and the pieces split from it
share its amount out, and only a fault that sets a piece above its own share can make them exceed
it. -/

namespace XchainSim

open Protocol (Bytes32)
open InPlace
open Result

/-- The action can deliver more than was asked. -/
def FaultAction.createsValue : FaultAction → Bool
  | duplicate _ _ | overDeliver _ => true
  | _ => false

/-- An event keeps the faults aimed at it under any change that no fault target looks at. -/
theorem FaultTarget.matchesEvent_of_kin {e e' : Event} (target : FaultTarget)
    (kin : Event.Kin e e') (lane : e.lane = .asset)
    (named : ∀ id, target = .event id → e'.id = e.id) :
    target.matchesEvent e' = target.matchesEvent e := by
  have lane' := kin.lane.trans lane
  cases target with
  | event id =>
      unfold matchesEvent
      rw [named id rfl]
  | message id =>
      cases e with
      | control sent => cases lane
      | asset moving =>
          cases e' with
          | control sent' => cases lane'
          | asset moving' => rfl
  | transfer id =>
      unfold matchesEvent
      rw [kin.transferId]
  | route source destination way =>
      unfold matchesEvent
      rw [kin.lane, kin.source, kin.intendedDestination]
  | lane way =>
      unfold matchesEvent
      rw [kin.lane]

/-- An asset event moves something, no more than was asked, and is not marked. -/
def Event.Sound (e : Event) : Prop :=
  e.lane = .asset → 0 < e.moved ∧ e.moved ≤ (Simulator.requestedOf e).raw ∧ e.overDelivered = false

theorem Event.Sound.of_marks {e e' : Event} (sound : e.Sound) (marks : Event.Marks e e') :
    e'.Sound := by
  intro lane
  rw [marks.moved, marks.requested, marks.overDelivered]
  exact sound (marks.lane.symm.trans lane)

namespace Simulator

variable {s s' : Simulator} {e e' : Event} {made : List Event}

/- The checks that stand behind an acting fault. -/

theorem checkAction_partialAmount {moving : AssetEvent} {amount : AssetAmount}
    (fits : s.checkAction (.partialAmount amount) (.asset moving) = none) :
    0 < amount.raw ∧ amount.raw ≤ moving.requested.raw := by
  change (if amount.isZero then some RejectReason.amountIsZero
    else if moving.requested < amount then some RejectReason.amountExceedsRequest else none) = none
    at fits
  split at fits
  · cases fits
  · rename_i nonzero
    split at fits
    · cases fits
    · rename_i within
      refine ⟨?_, Nat.le_of_not_lt within⟩
      simpa [Unsigned.isZero, Nat.pos_iff_ne_zero] using nonzero

theorem sumPieces_raw (pieces : List AssetAmount) : ∀ start total : AssetAmount,
    pieces.foldlM (fun total piece => (total.checkedAdd piece ()).toOption) start = some total →
    total.raw = start.raw + (pieces.map Unsigned.raw).sum := by
  induction pieces with
  | nil =>
      intro start total same
      rw [List.foldlM_nil] at same
      cases same
      rfl
  | cons piece rest ih =>
      intro start total same
      rw [List.foldlM_cons, Option.bind_eq_bind, Option.bind_eq_some_iff] at same
      obtain ⟨next, added, later⟩ := same
      rw [ih next total later, List.map_cons, List.sum_cons]
      cases sum : start.checkedAdd piece () with
      | error failure =>
          rw [sum] at added
          cases added
      | ok value =>
          rw [sum] at added
          cases added
          rw [Unsigned.checkedAdd_eq_ok] at sum
          omega

theorem checkAction_split {moving : AssetEvent} {pieces : List AssetAmount} {spacing : Unsigned 64}
    (fits : s.checkAction (.split pieces spacing) (.asset moving) = none) :
    (∀ piece ∈ pieces, 0 < piece.raw) ∧ (pieces.map Unsigned.raw).sum ≤ moving.requested.raw := by
  simp only [checkAction] at fits
  split at fits
  · cases fits
  · split at fits
    · cases fits
    · rename_i nonzero
      split at fits
      · cases fits
      · rename_i total summed
        split at fits
        · cases fits
        · rename_i within
          refine ⟨?_, ?_⟩
          · intro piece member
            simp only [List.any_eq_true, not_exists, not_and] at nonzero
            have positive := nonzero piece member
            simpa [Unsigned.isZero, Nat.pos_iff_ne_zero] using positive
          · have whole := sumPieces_raw pieces Unsigned.zero total summed
            have bound := Nat.le_of_not_lt within
            change total.raw = 0 + _ at whole
            omega

theorem mem_batch {fault : Fault} : fault ∈ s.batch e ↔ e.id ∉ s.resolved ∧
    fault ∈ FaultPlan.iter s.plan ∧ fault.target.matchesEvent e = true ∧
    (e.madeByFault = true → fault.action.createsEvents = false) := by
  unfold batch
  split
  · rename_i decided
    simp [decided]
  · rename_i undecided
    unfold pendingFaults
    rw [List.mem_filter, (FaultPlan.matching_perm s.plan e).mem_iff, List.mem_filter]
    simp only [undecided, not_false_eq_true, true_and, and_assoc]
    refine and_congr_right fun _ => and_congr_right fun _ => ?_
    cases e.madeByFault <;> cases fault.action.createsEvents <;> decide

/-- The faults in force create no value. -/
def Conserving (s : Simulator) : Prop :=
  ∀ fault ∈ FaultPlan.iter s.plan, fault.action.createsValue = false

theorem Conserving.batch (conserving : s.Conserving) :
    ∀ fault ∈ s.batch e, fault.action.group ≠ .fanout := by
  intro fault member group
  have none := conserving fault (mem_batch.mp member).2.1
  unfold FaultAction.createsValue at none
  unfold FaultAction.group at group
  split at none
  · cases none
  · cases none
  · split at group <;> simp_all

/-- How an attempt on an asset event shares its amount out. -/
structure SharedOut (s : Simulator) (e e' : Event) (made : List Event) : Prop where
  sound : e'.Sound
  pieces : ∀ m ∈ made, m.Sound
  within : e'.moved + (made.map Event.moved).sum ≤ (requestedOf e).raw
  -- Whatever was decided before, or made by a fault, never grows.
  settled : e.id ∈ s.resolved ∨ (e.madeByFault = true ∧
    ∀ fault ∈ s.batch e, ∀ amount, fault.action = .partialAmount amount → amount.raw ≤ e.moved) →
    made = [] ∧ e'.moved ≤ e.moved
  -- An event that was split met no other fault on its amount.
  single : made ≠ [] → ∀ fault ∈ s.batch e, ∀ amount, fault.action ≠ .partialAmount amount

theorem Attempted.sharedOut (attempt : Attempted s s' e e' made) (conserving : s.Conserving)
    (lane : e.lane = .asset) (sound : e.Sound) : SharedOut s e e' made := by
  obtain ⟨positive, within, unmarked⟩ := sound lane
  have requested : requestedOf e' = requestedOf e := attempt.kin.requested
  cases attempt.shares lane conserving.batch with
  | unchanged alone moved marked =>
      refine ⟨?_, ?_, ?_, ?_, ?_⟩
      · intro _
        rw [moved, marked, requested]
        exact ⟨positive, within, unmarked⟩
      · rw [alone]
        exact List.forall_mem_nil _
      · rw [alone, moved]
        exact within
      · intro _
        exact ⟨alone, Nat.le_of_eq moved⟩
      · intro some
        exact absurd alone some
  | part fault acting amount action alone moved marked =>
      have fits := acting.fits
      rw [action] at fits
      have amounts : 0 < amount.raw ∧ amount.raw ≤ (requestedOf e).raw := by
        cases e with
        | control sent => cases lane
        | asset moving => exact checkAction_partialAmount fits
      refine ⟨?_, ?_, ?_, ?_, ?_⟩
      · intro _
        rw [moved, marked, requested]
        exact ⟨amounts.1, amounts.2, rfl⟩
      · rw [alone]
        exact List.forall_mem_nil _
      · rw [alone, moved]
        exact amounts.2
      · rintro (decided | ⟨_, small⟩)
        · exact absurd decided (mem_batch.mp acting.member).1
        · rw [moved]
          exact ⟨alone, small fault acting.member amount action⟩
      · intro some
        exact absurd alone some
  | pieces fault acting first rest spacing action moved marked amounts alike =>
      have fits := acting.fits
      rw [action] at fits
      have checked : (∀ piece ∈ first :: rest, 0 < piece.raw) ∧
          ((first :: rest).map Unsigned.raw).sum ≤ (requestedOf e).raw := by
        cases e with
        | control sent => cases lane
        | asset moving => exact checkAction_split fits
      obtain ⟨nonzero, total⟩ := checked
      rw [List.map_cons, List.sum_cons] at total
      have made_le : (made.map Event.moved).sum ≤ (rest.map Unsigned.raw).sum :=
        amounts.sublist.sum_le_sum fun _ _ => Nat.zero_le _
      refine ⟨?_, ?_, ?_, ?_, ?_⟩
      · intro _
        rw [moved, marked, requested]
        exact ⟨nonzero first List.mem_cons_self, by omega, unmarked⟩
      · intro m member _
        have listed : m.moved ∈ rest.map Unsigned.raw :=
          amounts.sublist.subset (List.mem_map.mpr ⟨m, member, rfl⟩)
        obtain ⟨piece, inside, same⟩ := List.mem_map.mp listed
        have below := List.single_le_sum (fun _ _ => Nat.zero_le _) m.moved listed
        rw [(attempt.spawns m member).requested, alike m member, unmarked]
        refine ⟨?_, by omega, rfl⟩
        rw [← same]
        exact nonzero piece (List.mem_cons_of_mem first inside)
      · rw [moved]
        omega
      · obtain ⟨undecided, _, _, caller⟩ := mem_batch.mp acting.member
        rintro (decided | ⟨spawned, _⟩)
        · exact absurd decided undecided
        · have none := caller spawned
          rw [action] at none
          cases none
      · intro _ other member amount partly
        have same := acting.single other member (by rw [partly, action]; rfl)
        rw [same, action] at partly
        cases partly
  | beyond fault acting amount action =>
      have none := conserving fault (mem_batch.mp acting.member).2.1
      rw [action] at none
      cases none

/-- What the event with this number moves, nothing if there is none. -/
def movedBy (s : Simulator) (id : EventId) : Nat := (s.events[id]?).elim 0 Event.moved

/-- The pieces that were split from an event, as the trace lists them. -/
def piecesOf (s : Simulator) (root : EventId) : List EventId :=
  (s.links.filter fun link => link.1 = root).map Prod.snd

/-- What an event and its pieces move together. -/
def familyMoves (s : Simulator) (root : EventId) : Nat :=
  s.movedBy root + ((s.piecesOf root).map s.movedBy).sum

/-- No partial amount in force is above the share of a piece it is yet to set. -/
def PartsFit (s : Simulator) (fault : Fault) : Prop :=
  ∀ amount, fault.action = .partialAmount amount → ∀ (id : EventId) (piece : Event),
    s.events[id]? = some piece → id ∉ s.resolved → piece.lane = .asset →
    piece.madeByFault = true → fault.target.matchesEvent piece = true → amount.raw ≤ piece.moved

/-- Every family of events keeps to its request. -/
structure Shared (s : Simulator) : Prop where
  conserving : s.Conserving
  aimed : ∀ fault ∈ FaultPlan.iter s.plan, ∀ id, fault.target = .event id → id ∈ s.events
  fits : ∀ fault ∈ FaultPlan.iter s.plan, s.PartsFit fault
  sound : ∀ (id : EventId) (e : Event), s.events[id]? = some e → e.Sound
  roots : ∀ link ∈ s.links, link.1 ∈ s.resolved ∧
    ∃ root, s.events[link.1]? = some root ∧ root.madeByFault = false
  pieces : ∀ link ∈ s.links, ∃ piece, s.events[link.2]? = some piece ∧ piece.madeByFault = true
  within : ∀ (id : EventId) (root : Event), s.events[id]? = some root → root.lane = .asset →
    root.madeByFault = false → s.familyMoves id ≤ (requestedOf root).raw

/-- From `s` to `s'` events only changed what no share depends on. -/
structure Resembles (s s' : Simulator) : Prop where
  plan : s'.plan = s.plan
  resolved : ∀ id ∈ s.resolved, id ∈ s'.resolved
  links : s'.links = s.links
  events : ∀ id : EventId, (s.events[id]? = none ∧ s'.events[id]? = none) ∨
    ∃ e e', s.events[id]? = some e ∧ s'.events[id]? = some e' ∧ Event.Marks e e'

namespace Resembles

theorem of_eq (plan : s'.plan = s.plan) (resolved : s'.resolved = s.resolved)
    (links : s'.links = s.links) (events : s'.events = s.events) : Resembles s s' where
  plan := plan
  resolved id member := by rwa [resolved]
  links := links
  events id := by
    rw [events]
    cases found : s.events[id]? with
    | none => exact .inl ⟨rfl, rfl⟩
    | some e => exact .inr ⟨e, e, rfl, rfl, ⟨Event.Kin.refl e, rfl, rfl, rfl, rfl⟩⟩

theorem trans {s'' : Simulator} (first : Resembles s s') (second : Resembles s' s'') :
    Resembles s s'' where
  plan := second.plan.trans first.plan
  resolved id member := second.resolved id (first.resolved id member)
  links := second.links.trans first.links
  events id := by
    rcases first.events id with ⟨before, middle⟩ | ⟨e, e', before, middle, marks⟩
    · rcases second.events id with ⟨_, after⟩ | ⟨e, _, found, _⟩
      · exact .inl ⟨before, after⟩
      · rw [middle] at found
        cases found
    · rcases second.events id with ⟨absent, _⟩ | ⟨e₁, e'', found, after, marks'⟩
      · rw [middle] at absent
        cases absent
      · rw [middle] at found
        cases found
        exact .inr ⟨e, e'', before, after, marks.trans marks'⟩

theorem record (same : Resembles s s') {action : TraceAction} (unlinked : action.pieceLink = none) :
    Resembles s (s'.record action) :=
  same.trans (of_eq rfl rfl (links_record unlinked) rfl)

/-- One entry of the table was rewritten. -/
theorem of_insert {id : EventId} (plan : s'.plan = s.plan) (resolved : s'.resolved = s.resolved)
    (links : s'.links = s.links) (found : s.events[id]? = some e)
    (events : s'.events = s.events.insert id e') (marks : Event.Marks e e') : Resembles s s' where
  plan := plan
  resolved other member := by rwa [resolved]
  links := links
  events other := by
    rw [events, OrderedMap.getElem?_insert]
    by_cases here : id = other
    · rw [if_pos here, ← here]
      exact .inr ⟨e, e', found, rfl, marks⟩
    · rw [if_neg here]
      exact (of_eq rfl rfl rfl rfl : Resembles s s).events other

variable (same : Resembles s s')

include same

theorem back {id : EventId} (found : s'.events[id]? = some e') :
    ∃ e, s.events[id]? = some e ∧ Event.Marks e e' := by
  rcases same.events id with ⟨_, absent⟩ | ⟨e, e'', before, after, marks⟩
  · rw [absent] at found
    cases found
  · rw [after] at found
    cases found
    exact ⟨e, before, marks⟩

theorem forth {id : EventId} (found : s.events[id]? = some e) :
    ∃ e', s'.events[id]? = some e' ∧ Event.Marks e e' := by
  rcases same.events id with ⟨absent, _⟩ | ⟨e'', e', before, after, marks⟩
  · rw [absent] at found
    cases found
  · rw [before] at found
    cases found
    exact ⟨e', after, marks⟩

theorem movedBy (id : EventId) : s'.movedBy id = s.movedBy id := by
  unfold Simulator.movedBy
  rcases same.events id with ⟨before, after⟩ | ⟨e, e', before, after, marks⟩
  · rw [before, after]
  · rw [before, after]
    exact marks.moved

theorem familyMoves (id : EventId) : s'.familyMoves id = s.familyMoves id := by
  have each : s'.movedBy = s.movedBy := funext same.movedBy
  unfold Simulator.familyMoves Simulator.piecesOf
  rw [each, same.links]

theorem partsFit {fault : Fault} (fits : s.PartsFit fault) : s'.PartsFit fault := by
  intro amount action id piece' found undecided lane spawned matched
  obtain ⟨piece, before, marks⟩ := same.back found
  have lane' := marks.lane.symm.trans lane
  rw [marks.moved]
  refine fits amount action id piece before (fun member => undecided (same.resolved id member)) lane'
    (marks.madeByFault.symm.trans spawned) ?_
  rw [← FaultTarget.matchesEvent_of_kin fault.target marks.toKin lane' fun _ _ => marks.id]
  exact matched

theorem shared (shared : s.Shared) : s'.Shared where
  conserving := by
    unfold Conserving
    rw [same.plan]
    exact shared.conserving
  aimed := by
    rw [same.plan]
    intro fault member id target
    obtain ⟨e, found⟩ := Option.isSome_iff_exists.mp
      (Std.ExtTreeMap.mem_iff_isSome_getElem?.mp (shared.aimed fault member id target))
    obtain ⟨e', after, _⟩ := same.forth found
    rw [Std.ExtTreeMap.mem_iff_isSome_getElem?, after]
    rfl
  fits := by
    rw [same.plan]
    intro fault member
    exact same.partsFit (shared.fits fault member)
  sound := by
    intro id e' found
    obtain ⟨e, before, marks⟩ := same.back found
    exact (shared.sound id e before).of_marks marks
  roots := by
    rw [same.links]
    intro link member
    obtain ⟨decided, root, found, caller⟩ := shared.roots link member
    obtain ⟨root', after, marks⟩ := same.forth found
    exact ⟨same.resolved _ decided, root', after, marks.madeByFault.trans caller⟩
  pieces := by
    rw [same.links]
    intro link member
    obtain ⟨piece, found, spawned⟩ := shared.pieces link member
    obtain ⟨piece', after, marks⟩ := same.forth found
    exact ⟨piece', after, marks.madeByFault.trans spawned⟩
  within := by
    intro id root' found lane caller
    obtain ⟨root, before, marks⟩ := same.back found
    rw [same.familyMoves, marks.requested]
    exact shared.within id root before (marks.lane.symm.trans lane)
      (marks.madeByFault.symm.trans caller)

end Resembles

namespace Shared

theorem piecesOf_undecided (shared : s.Shared) {id : EventId} (undecided : id ∉ s.resolved) :
    s.piecesOf id = [] := by
  unfold Simulator.piecesOf
  rw [List.map_eq_nil_iff, List.filter_eq_nil_iff]
  intro link member same
  rw [decide_eq_true_eq] at same
  have decided := (shared.roots link member).1
  rw [same] at decided
  exact undecided decided

theorem mem_piecesOf {root id : EventId} (member : id ∈ s.piecesOf root) : (root, id) ∈ s.links := by
  obtain ⟨⟨first, second⟩, inside, rfl⟩ := List.mem_map.mp member
  obtain ⟨inside, same⟩ := List.mem_filter.mp inside
  rw [decide_eq_true_eq] at same
  rw [← same]
  exact inside

variable (shared : s.Shared) (attempt : Attempted s s' e e' made)
  (present : s.events[e.id]? = some e)

include shared attempt in
theorem piecesOf_attempt (root : EventId) : s'.piecesOf root =
    s.piecesOf root ++ if root = e.id then made.map Event.id else [] := by
  unfold Simulator.piecesOf
  rw [attempt.links shared.conserving.batch, List.filter_append, List.map_append]
  by_cases here : root = e.id
  · rw [if_pos here, here]
    congr 1
    rw [List.filter_eq_self.mpr, List.map_map]
    · rfl
    · intro link member
      obtain ⟨m, _, rfl⟩ := List.mem_map.mp member
      exact decide_eq_true rfl
  · rw [if_neg here]
    congr 1
    rw [List.map_eq_nil_iff, List.filter_eq_nil_iff]
    intro link member same
    obtain ⟨m, _, rfl⟩ := List.mem_map.mp member
    rw [decide_eq_true_eq] at same
    exact here same.symm

theorem moved_control {e : Event} (lane : e.lane ≠ .asset) : e.moved = 0 := by
  cases e with
  | control sent => rfl
  | asset moving => exact absurd rfl lane

include shared attempt present in
/-- A piece never moves more than before. -/
theorem piece_le (spawned : e.madeByFault = true) : e'.moved ≤ e.moved := by
  by_cases lane : e.lane = .asset
  · refine ((attempt.sharedOut shared.conserving lane (shared.sound e.id e present)).settled ?_).2
    refine .inr ⟨spawned, ?_⟩
    intro fault member amount action
    obtain ⟨undecided, inside, matched, _⟩ := mem_batch.mp member
    exact shared.fits fault inside amount action e.id e present undecided lane spawned matched
  · rw [moved_control fun lane' => lane (attempt.kin.lane.symm.trans lane')]
    exact Nat.zero_le _

include attempt in
theorem movedBy_own : s'.movedBy e.id = e'.moved := by
  unfold Simulator.movedBy
  rw [attempt.own]
  rfl

include attempt in
theorem movedBy_other {id : EventId} {other : Event} (found : s.events[id]? = some other)
    (apart : id ≠ e.id) : s'.movedBy id = s.movedBy id := by
  unfold Simulator.movedBy
  rw [attempt.kept found apart, found]

include shared attempt present in
theorem movedBy_piece_le {root id : EventId} (member : id ∈ s.piecesOf root) :
    s'.movedBy id ≤ s.movedBy id := by
  obtain ⟨piece, found, spawned⟩ := shared.pieces _ (mem_piecesOf member)
  by_cases here : id = e.id
  · rw [here, movedBy_own attempt]
    rw [here, present] at found
    cases found
    have below := piece_le shared attempt present spawned
    unfold Simulator.movedBy
    rw [present]
    exact below
  · rw [movedBy_other attempt found here]

include shared attempt present in
theorem familyMoves_other {id : EventId} {root : Event} (found : s.events[id]? = some root)
    (apart : id ≠ e.id) : s'.familyMoves id ≤ s.familyMoves id := by
  unfold Simulator.familyMoves
  rw [piecesOf_attempt shared attempt, if_neg apart, List.append_nil,
    movedBy_other attempt found apart]
  apply Nat.add_le_add_left
  apply List.sum_le_sum
  intro piece member
  exact movedBy_piece_le shared attempt present member

include shared attempt present in
theorem familyMoves_own (lane : e.lane = .asset) (caller : e.madeByFault = false) :
    s'.familyMoves e.id ≤ (requestedOf e).raw := by
  have out := attempt.sharedOut shared.conserving lane (shared.sound e.id e present)
  unfold Simulator.familyMoves
  rw [piecesOf_attempt shared attempt, if_pos rfl, movedBy_own attempt, List.map_append,
    List.sum_append]
  by_cases decided : e.id ∈ s.resolved
  · obtain ⟨alone, below⟩ := out.settled (.inl decided)
    have whole := shared.within e.id e present lane caller
    have pieces : ((s.piecesOf e.id).map s'.movedBy).sum ≤ ((s.piecesOf e.id).map s.movedBy).sum := by
      apply List.sum_le_sum
      intro piece member
      exact movedBy_piece_le shared attempt present member
    have own : s.movedBy e.id = e.moved := by
      unfold Simulator.movedBy
      rw [present]
      rfl
    unfold Simulator.familyMoves at whole
    rw [alone, List.map_nil, List.map_nil, List.sum_nil]
    omega
  · have each : (made.map Event.id).map s'.movedBy = made.map Event.moved := by
      rw [List.map_map]
      apply List.map_congr_left
      intro m member
      unfold Simulator.movedBy
      rw [Function.comp_apply, attempt.made_known present member]
      rfl
    rw [shared.piecesOf_undecided decided, each, List.map_nil, List.sum_nil, Nat.zero_add]
    exact out.within

include shared attempt present in
/-- No partial amount in force reaches a new piece: it would have met the split on the event. -/
theorem partsFit_attempt {fault : Fault} (member : fault ∈ FaultPlan.iter s.plan) :
    s'.PartsFit fault := by
  intro amount action id piece found undecided lane spawned matched
  rcases attempt.entry found with ⟨here, _⟩ | ⟨inside, named⟩ | ⟨_, before⟩
  · exact absurd ((attempt.resolved id).mpr (.inl here)) undecided
  · have kin := (attempt.spawns piece inside).toKin
    have lane' := kin.lane.symm.trans lane
    have out := attempt.sharedOut shared.conserving lane' (shared.sound e.id e present)
    have some : made ≠ [] := List.ne_nil_of_mem inside
    have open' : e.id ∉ s.resolved := fun decided => some (out.settled (.inl decided)).1
    have reaches : fault.target.matchesEvent e = true := by
      rw [← FaultTarget.matchesEvent_of_kin fault.target kin lane' ?_]
      · exact matched
      · intro other target
        have known := shared.aimed fault member other target
        rw [target] at matched
        have same : piece.id = other := by simpa [FaultTarget.matchesEvent] using matched
        have absent := attempt.fresh piece inside
        rw [same] at absent
        rw [Std.ExtTreeMap.mem_iff_isSome_getElem?, absent] at known
        cases known
    have batched : fault ∈ s.batch e := by
      refine mem_batch.mpr ⟨open', member, reaches, ?_⟩
      intro _
      rw [action]
      rfl
    exact absurd action (out.single some fault batched amount)
  · refine shared.fits fault member amount action id piece before ?_ lane spawned matched
    intro decided
    exact undecided ((attempt.resolved id).mpr (.inr decided))

include shared attempt present in
theorem attempted : s'.Shared := by
  have links := attempt.links shared.conserving.batch
  have bounded := attempt.made_le_promise
  have caller : made ≠ [] → e.madeByFault = false := by
    intro some
    by_contra spawned
    rw [Bool.not_eq_false] at spawned
    unfold promise at bounded
    rw [if_pos (.inr spawned)] at bounded
    exact some (List.length_eq_zero_iff.mp (Nat.le_zero.mp bounded))
  refine ⟨?_, ?_, ?_, ?_, ?_, ?_, ?_⟩
  · unfold Conserving
    rw [attempt.plan]
    exact shared.conserving
  · rw [attempt.plan]
    intro fault member id target
    obtain ⟨other, found⟩ := Option.isSome_iff_exists.mp
      (Std.ExtTreeMap.mem_iff_isSome_getElem?.mp (shared.aimed fault member id target))
    rw [Std.ExtTreeMap.mem_iff_isSome_getElem?]
    by_cases here : id = e.id
    · rw [here, attempt.own]
      rfl
    · rw [attempt.kept found here]
      rfl
  · rw [attempt.plan]
    intro fault member
    exact partsFit_attempt shared attempt present member
  · intro id other found lane
    rcases attempt.entry found with ⟨_, same⟩ | ⟨inside, _⟩ | ⟨_, before⟩
    · rw [same] at lane ⊢
      exact (attempt.sharedOut shared.conserving (attempt.kin.lane.symm.trans lane)
        (shared.sound e.id e present)).sound lane
    · exact (attempt.sharedOut shared.conserving
        ((attempt.spawns other inside).lane.symm.trans lane)
        (shared.sound e.id e present)).pieces other inside lane
    · exact shared.sound id other before lane
  · rw [links]
    intro link member
    rcases List.mem_append.mp member with old | new
    · obtain ⟨decided, root, found, made'⟩ := shared.roots link old
      refine ⟨(attempt.resolved _).mpr (.inr decided), ?_⟩
      by_cases here : link.1 = e.id
      · rw [here, present] at found
        cases found
        rw [here]
        exact ⟨e', attempt.own, attempt.madeByFault.trans made'⟩
      · exact ⟨root, attempt.kept found here, made'⟩
    · obtain ⟨m, inside, rfl⟩ := List.mem_map.mp new
      refine ⟨(attempt.resolved _).mpr (.inl rfl), e', attempt.own, ?_⟩
      exact attempt.madeByFault.trans (caller (List.ne_nil_of_mem inside))
  · rw [links]
    intro link member
    rcases List.mem_append.mp member with old | new
    · obtain ⟨piece, found, spawned⟩ := shared.pieces link old
      by_cases here : link.2 = e.id
      · rw [here, present] at found
        cases found
        rw [here]
        exact ⟨e', attempt.own, attempt.madeByFault.trans spawned⟩
      · exact ⟨piece, attempt.kept found here, spawned⟩
    · obtain ⟨m, inside, rfl⟩ := List.mem_map.mp new
      exact ⟨m, attempt.made_known present inside, (attempt.spawns m inside).madeByFault⟩
  · intro id root found lane made'
    rcases attempt.entry found with ⟨here, same⟩ | ⟨inside, _⟩ | ⟨apart, before⟩
    · rw [same] at lane made' ⊢
      rw [here, attempt.kin.requested]
      exact familyMoves_own shared attempt present (attempt.kin.lane.symm.trans lane)
        (attempt.madeByFault.symm.trans made')
    · rw [(attempt.spawns root inside).madeByFault] at made'
      cases made'
    · exact Nat.le_trans (familyMoves_other shared attempt present before apart)
        (shared.within id root before lane made')

/- The calls. -/

/-- A new event of the caller, worth what it asks for. -/
theorem added (shared : s.Shared) (absent : s.events[e.id]? = none) (sound : e.Sound)
    (caller : e.madeByFault = false) (plan : s'.plan = s.plan) (resolved : s'.resolved = s.resolved)
    (links : s'.links = s.links) (events : s'.events = s.events.insert e.id e) : s'.Shared := by
  have kept : ∀ (id : EventId) (other : Event), s.events[id]? = some other →
      s'.events[id]? = some other := by
    intro id other found
    have apart : e.id ≠ id := by
      intro same
      rw [← same, absent] at found
      cases found
    rw [events, OrderedMap.getElem?_insert_other _ _ apart, found]
  have entry : ∀ (id : EventId) (other : Event), s'.events[id]? = some other →
      (id = e.id ∧ other = e) ∨ s.events[id]? = some other := by
    intro id other found
    rw [events, OrderedMap.getElem?_insert] at found
    split at found
    · rename_i here
      cases found
      exact .inl ⟨here.symm, rfl⟩
    · exact .inr found
  have moves : ∀ (id : EventId) (other : Event), s.events[id]? = some other →
      s'.movedBy id = s.movedBy id := by
    intro id other found
    unfold Simulator.movedBy
    rw [kept id other found, found]
  have pieces' : ∀ root, s'.piecesOf root = s.piecesOf root := by
    intro root
    unfold Simulator.piecesOf
    rw [links]
  refine ⟨?_, ?_, ?_, ?_, ?_, ?_, ?_⟩
  · unfold Conserving
    rw [plan]
    exact shared.conserving
  · rw [plan]
    intro fault member id target
    obtain ⟨other, found⟩ := Option.isSome_iff_exists.mp
      (Std.ExtTreeMap.mem_iff_isSome_getElem?.mp (shared.aimed fault member id target))
    rw [Std.ExtTreeMap.mem_iff_isSome_getElem?, kept id other found]
    rfl
  · rw [plan]
    intro fault member amount action id piece found undecided lane spawned matched
    rcases entry id piece found with ⟨_, same⟩ | before
    · rw [same, caller] at spawned
      cases spawned
    · rw [resolved] at undecided
      exact shared.fits fault member amount action id piece before undecided lane spawned matched
  · intro id other found
    rcases entry id other found with ⟨_, same⟩ | before
    · rw [same]
      exact sound
    · exact shared.sound id other before
  · rw [links, resolved]
    intro link member
    obtain ⟨decided, root, found, made⟩ := shared.roots link member
    exact ⟨decided, root, kept _ root found, made⟩
  · rw [links]
    intro link member
    obtain ⟨piece, found, spawned⟩ := shared.pieces link member
    exact ⟨piece, kept _ piece found, spawned⟩
  · intro id root found lane made
    unfold Simulator.familyMoves
    rw [pieces']
    rcases entry id root found with ⟨here, same⟩ | before
    · -- The number is new, so no piece refers to it.
      have none : s.piecesOf id = [] := by
        rw [List.eq_nil_iff_forall_not_mem]
        intro piece member
        obtain ⟨_, old, present, _⟩ := shared.roots _ (mem_piecesOf member)
        rw [here, absent] at present
        cases present
      rw [none, List.map_nil, List.sum_nil, Nat.add_zero]
      unfold Simulator.movedBy
      rw [found]
      rw [same] at lane ⊢
      exact (sound lane).2.1
    · have same : (s.piecesOf id).map s'.movedBy = (s.piecesOf id).map s.movedBy := by
        apply List.map_congr_left
        intro piece member
        obtain ⟨other, present, _⟩ := shared.pieces _ (mem_piecesOf member)
        exact moves piece other present
      rw [same, moves id root before]
      exact shared.within id root before lane made

theorem insertScheduled (shared : s.Shared) {middle : Simulator} (alike : Alike s middle)
    (plan : middle.plan = s.plan) (resolved : middle.resolved = s.resolved)
    (trace : middle.trace = s.trace) (absent : s.events[e.id]? = none) (sound : e.Sound)
    (caller : e.madeByFault = false) (subject : Subject) :
    (middle.insertScheduled e subject).Shared := by
  have links : middle.links = s.links := by
    unfold links actions
    rw [trace]
  refine shared.added absent sound caller plan resolved ((links_record rfl).trans links) ?_
  rw [← alike.events]
  rfl

theorem scheduleControl (keccak256 : Bytes → Bytes32) (shared : s.Shared)
    (request : ControlRequest) :
    Does (scheduleControl keccak256 request) s fun _ s' => s'.Shared := by
  unfold Simulator.scheduleControl
  rw [does_get_bind, does_check_bind]
  intro _ _
  rw [does_check_bind]
  intro _ _
  rw [does_check_bind]
  intro _ _
  refine (reserveEventId_does request.id).bind_ok ?_
  rintro id middle ⟨alike, absent, plan, resolved, trace⟩
  refine ⟨id, _, rfl, shared.insertScheduled alike plan resolved trace ?_ ?_ rfl _⟩
  · exact absent
  · intro lane
    cases lane

theorem scheduleAsset (shared : s.Shared) (request : AssetRequest) :
    Does (scheduleAsset request) s fun _ s' => s'.Shared := by
  unfold Simulator.scheduleAsset
  rw [does_get_bind, does_check_bind]
  intro _ _
  rw [does_check_bind]
  intro _ nonzero
  rw [does_check_bind]
  intro _ _
  rw [rejectIf_eq_ok, Unsigned.isZero_iff] at nonzero
  refine (reserveEventId_does request.id).bind_ok ?_
  rintro id middle ⟨alike, absent, plan, resolved, trace⟩
  refine ⟨id, _, rfl, shared.insertScheduled alike plan resolved trace ?_ ?_ rfl _⟩
  · exact absent
  · intro _
    exact ⟨Nat.pos_of_ne_zero nonzero, Nat.le_refl _, rfl⟩

theorem addFault (shared : s.Shared) (fault : Fault)
    (fits : s.checkFault fault = .ok () → s.PartsFit fault)
    (conserving : s.checkFault fault = .ok () → fault.action.createsValue = false) :
    Does (addFault fault) s fun _ s' => s'.Shared := by
  unfold Simulator.addFault
  rw [does_get_bind, does_check_bind]
  intro _ passed
  rw [does_set]
  have listed : ∀ other, other ∈ FaultPlan.iter (s.plan.insert fault.id fault) →
      other = fault ∨ other ∈ FaultPlan.iter s.plan := by
    intro other member
    obtain ⟨id, found⟩ := FaultPlan.mem_iter.mp member
    rw [OrderedMap.getElem?_insert] at found
    split at found
    · cases found
      exact .inl rfl
    · exact .inr (FaultPlan.mem_iter.mpr ⟨id, found⟩)
  refine ⟨?_, ?_, ?_, shared.sound, shared.roots, shared.pieces, shared.within⟩
  · intro other member
    rcases listed other member with same | inside
    · rw [same]
      exact conserving passed
    · exact shared.conserving other inside
  · intro other member id target
    rcases listed other member with same | inside
    · rw [same] at target
      unfold checkFault targetLane at passed
      rw [target] at passed
      simp only [bind_eq_ok, okOr_eq_ok, Option.map_eq_some_iff] at passed
      obtain ⟨_, _, _, ⟨e, found, _⟩, _⟩ := passed
      rw [Std.ExtTreeMap.mem_iff_isSome_getElem?]
      exact Option.isSome_iff_exists.mpr ⟨e, found⟩
    · exact shared.aimed other inside id target
  · intro other member
    rcases listed other member with same | inside
    · rw [same]
      exact fits passed
    · exact shared.fits other inside

end Shared

theorem release_resembles (s : Simulator) (id : EventId) : Resembles s (s.release id) := by
  cases found : s.events[id]? with
  | none =>
      rw [release_none found]
      exact Resembles.of_eq rfl rfl rfl rfl
  | some e =>
      rw [release_some found]
      exact Resembles.of_insert rfl rfl rfl found rfl
        ((Event.marks_setStatus e _).trans (Event.marks_setDeliverAt _ _))

theorem releaseAll_resembles (ids : List EventId) : ∀ (released : Unsigned 32) (s : Simulator),
    Resembles s (releaseAll released s ids).2 := by
  induction ids with
  | nil =>
      intro released s
      exact Resembles.of_eq rfl rfl rfl rfl
  | cons id rest ih =>
      intro released s
      exact (release_resembles s id).trans (ih _ (s.release id))

theorem moveTo_resembles (s : Simulator) (key : QueueKey) (target : Tick) :
    Resembles s (s.moveTo key target) := by
  unfold moveTo
  split
  · exact Resembles.of_eq rfl rfl rfl rfl
  · dsimp only
    split
    · exact Resembles.of_eq rfl rfl rfl rfl
    · rename_i e found
      exact Resembles.of_insert rfl rfl (links_record rfl) found rfl (Event.marks_setDeliverAt e target)

theorem advanceTo_resembles {target : Tick} (advanced : advanceTo target s = .ok () s') :
    Resembles s s' := by
  have moved : Does (advanceTo target) s fun _ s' => Resembles s s' := by
    unfold advanceTo
    rw [does_get_bind, does_check_bind]
    intro _ _
    rw [does_set]
    split
    · exact Resembles.of_eq rfl rfl rfl rfl
    · refine Resembles.of_eq rfl rfl ?_ rfl
      exact links_record (s := { s with now := target }) rfl
  unfold Does at moved
  rw [advanced] at moved
  exact moved

namespace Shared

variable (keccak256 : Bytes → Bytes32) (valid : s.Valid) (shared : s.Shared)

theorem kept : Kept keccak256 Shared where
  next s id s' valid shared attempt := by
    unfold Simulator.deliverNext at attempt
    split at attempt
    · cases attempt
    · rename_i key next
      split at attempt
      · cases attempt
      · cases attempt
        obtain ⟨e, e', made, found, named, _, _, attempted⟩ :=
          valid.attempted keccak256 (peek_member next)
        rw [← named] at found
        exact shared.attempted attempted found
  clock _ _ _ shared advanced := (advanceTo_resembles advanced).shared shared

include valid shared

theorem apply (operation : Operation)
    (fits : ∀ fault, operation = .addFault fault → s.checkFault fault = .ok () → s.PartsFit fault)
    (conserving : (InPlace.after (apply keccak256 operation) s).Conserving) :
    Does (apply keccak256 operation) s fun _ s' => s'.Shared := by
  have kept := kept keccak256
  cases operation with
  | scheduleControl request => exact does_map.mpr (shared.scheduleControl keccak256 request)
  | scheduleAsset request => exact does_map.mpr (shared.scheduleAsset request)
  | addFault fault =>
      refine shared.addFault fault (fits fault rfl) ?_
      intro passed
      refine conserving fault (FaultPlan.mem_iter.mpr ⟨fault.id, ?_⟩)
      have done : Simulator.apply keccak256 (.addFault fault) s =
          .ok () { s with plan := s.plan.insert fault.id fault } := by
        have unfolded : Simulator.apply keccak256 (.addFault fault) s = (do
            check (s.checkFault fault)
            set { s with plan := s.plan.insert fault.id fault } : Update Unit) s := rfl
        rw [unfolded, passed]
        rfl
      unfold InPlace.after
      rw [done]
      exact OrderedMap.getElem?_insert_same _ _ _
  | advanceBy ticks =>
      unfold Simulator.apply Simulator.advanceBy
      rw [does_get_bind, does_check_bind]
      intro target _
      exact kept.advanceTo valid shared target
  | advanceTo tick => exact kept.advanceTo valid shared tick
  | deliverNext => exact does_modify.mpr (kept.deliverNext valid shared)
  | deliverReady => exact does_modify.mpr (kept.deliverReady valid shared)
  | runUntilIdle => exact does_modify.mpr (kept.runUntilIdle valid shared)
  | runUntil tick => exact does_map.mpr (kept.runUntil valid shared tick)
  | haltEndpoint p =>
      unfold Simulator.apply Simulator.haltEndpoint
      rw [does_get_bind, does_check_bind]
      intro endpoint _
      have halted : Resembles s
          { s with endpoints := s.endpoints.insert p (endpoint.setState .halted) } :=
        Resembles.of_eq rfl rfl rfl rfl
      exact (halted.record rfl).shared shared
  | resumeEndpoint p =>
      unfold Simulator.apply Simulator.resumeEndpoint
      rw [does_get_bind, does_check_bind]
      intro endpoint _
      have resumed : Resembles s
          { s with endpoints := s.endpoints.insert p (endpoint.setState .active) } :=
        Resembles.of_eq rfl rfl rfl rfl
      exact ((resumed.trans (releaseAll_resembles _ 0 _)).record rfl).shared shared
  | pauseLane lane =>
      have paused : Resembles s { s with lanes := s.lanes.insert lane .paused } :=
        Resembles.of_eq rfl rfl rfl rfl
      exact does_modify.mpr ((paused.record rfl).shared shared)
  | resumeLane lane =>
      have resumed : Resembles s { s with lanes := s.lanes.insert lane .running } :=
        Resembles.of_eq rfl rfl rfl rfl
      exact does_modify.mpr (((resumed.trans (releaseAll_resembles _ 0 _)).record rfl).shared shared)
  | swapDeliveryTicks left right =>
      unfold Simulator.apply Simulator.swapDeliveryTicks
      rw [does_get_bind, does_check_bind]
      intro leftKey _
      rw [does_check_bind]
      intro rightKey _
      exact ((moveTo_resembles s _ _).trans (moveTo_resembles _ _ _)).shared shared
  | moveBefore event other =>
      unfold Simulator.apply Simulator.moveBefore
      rw [does_get_bind, does_check_bind]
      intro key _
      rw [does_check_bind]
      intro anchor _
      exact (moveTo_resembles s key _).shared shared
  | moveAfter event other =>
      unfold Simulator.apply Simulator.moveAfter
      rw [does_get_bind, does_check_bind]
      intro key _
      rw [does_check_bind]
      intro anchor _
      rw [does_check_bind]
      intro target _
      exact (moveTo_resembles s key target).shared shared

theorem call (c : Call)
    (fits : ∀ fault, c = .operation (.addFault fault) → s.checkFault fault = .ok () →
      s.PartsFit fault)
    (conserving : (InPlace.after (call keccak256 c) s).Conserving) :
    Does (call keccak256 c) s fun _ s' => s'.Shared := by
  cases c with
  | operation operation =>
      refine shared.apply keccak256 valid operation ?_ conserving
      intro fault same
      exact fits fault (congrArg Call.operation same)
  | addEndpoint p =>
      unfold Simulator.call Simulator.addEndpoint
      rw [does_get_bind, does_check_bind]
      intro _ _
      have wider : Resembles s { s with endpoints := s.endpoints.insert p (Endpoint.new p) } :=
        Resembles.of_eq rfl rfl rfl rfl
      exact wider.shared shared

end Shared

/- What the inboxes hold of it. -/

/-- The sum of the amounts all inboxes hold of one event. -/
def deliveredBy (s : Simulator) (id : EventId) : Nat :=
  OrderedMap.sumOf s.endpoints fun _ endpoint =>
    ((endpoint.assetInbox.filter fun entry => entry.event = id).map
      fun entry => entry.delivered.raw).sum

theorem Valid.recordCount_le (valid : s.Valid) (id : EventId) : s.recordCount id ≤ 1 := by
  have turn := valid.inTurn
  by_cases sent : ∃ e, s.events[id]? = some e ∧ e.status = .delivered
  · obtain ⟨e, found, status⟩ := sent
    exact Nat.le_of_eq (turn.delivered id e found status).1
  · have none := turn.undelivered id fun e found status => sent ⟨e, found, status⟩
    rw [none]
    exact Nat.zero_le 1

/-- The inboxes hold no more of an event than it moves. -/
theorem Valid.deliveredBy_le (valid : s.Valid) (id : EventId) : s.deliveredBy id ≤ s.movedBy id := by
  have each : ∀ (p : EndpointId) (endpoint : Endpoint), s.endpoints[p]? = some endpoint →
      ((endpoint.assetInbox.filter fun entry => entry.event = id).map
        fun entry => entry.delivered.raw).sum ≤ endpoint.recordCount id * s.movedBy id := by
    intro p endpoint found
    have amounts : ((endpoint.assetInbox.filter fun entry => entry.event = id).map
        fun entry => entry.delivered.raw) =
        (endpoint.assetInbox.filter fun entry => entry.event = id).map fun _ => s.movedBy id := by
      apply List.map_congr_left
      intro entry member
      obtain ⟨inside, named⟩ := List.mem_filter.mp member
      rw [decide_eq_true_eq] at named
      obtain ⟨moving, known, _, _, record, _⟩ := valid.asset_record found inside
      rw [named] at known
      unfold movedBy
      rw [known, record]
      rfl
    rw [amounts, List.map_const', List.sum_replicate_nat, ← List.countP_eq_length_filter]
    apply Nat.mul_le_mul_right
    unfold Endpoint.recordCount
    omega
  calc s.deliveredBy id
      ≤ OrderedMap.sumOf s.endpoints fun _ endpoint => endpoint.recordCount id * s.movedBy id :=
        OrderedMap.sumOf_le s.endpoints _ _ each
    _ = s.recordCount id * s.movedBy id := OrderedMap.sumOf_mul _ _ _
    _ ≤ 1 * s.movedBy id := Nat.mul_le_mul_right _ (valid.recordCount_le id)
    _ = s.movedBy id := Nat.one_mul _

/-- What is delivered of every request, by the event the caller scheduled and by its pieces, is no
more than was asked for; every delivery moves something and none is marked. -/
structure KeepsToRequest (s : Simulator) : Prop where
  total : ∀ (root : EventId) (moving : AssetEvent), s.events[root]? = some (.asset moving) →
    moving.fromFault = false →
    s.deliveredBy root + ((s.piecesOf root).map s.deliveredBy).sum ≤ moving.requested.raw
  each : ∀ (p : EndpointId) (endpoint : Endpoint), s.endpoints[p]? = some endpoint →
    ∀ entry ∈ endpoint.assetInbox, 0 < entry.delivered.raw ∧ entry.overDelivered = false

theorem Shared.keepsToRequest (shared : s.Shared) (valid : s.Valid) : s.KeepsToRequest where
  total root moving found caller := by
    have family := shared.within root (.asset moving) found rfl caller
    have own := valid.deliveredBy_le root
    have pieces : ((s.piecesOf root).map s.deliveredBy).sum ≤ ((s.piecesOf root).map s.movedBy).sum :=
      List.sum_le_sum fun piece _ => valid.deliveredBy_le piece
    unfold familyMoves at family
    exact Nat.le_trans (Nat.add_le_add own pieces) family
  each p endpoint found entry member := by
    obtain ⟨moving, known, _, _, record, _⟩ := valid.asset_record found member
    obtain ⟨positive, _, unmarked⟩ := shared.sound entry.event (.asset moving) known rfl
    rw [record]
    exact ⟨positive, unmarked⟩

theorem withConfig_shared {config : SimulatorConfig} {endpoints : List EndpointId}
    (built : withConfig config endpoints = .ok s) : s.Shared := by
  obtain ⟨map, _, rfl⟩ := withConfig_ok built
  have none : ∀ fault, fault ∉ FaultPlan.iter (∅ : FaultPlan) := by
    intro fault member
    obtain ⟨id, found⟩ := FaultPlan.mem_iter.mp member
    simp at found
  have empty : ∀ (id : EventId) (e : Event), (∅ : OrderedMap EventId Event)[id]? ≠ some e := by
    intro id e found
    simp at found
  refine ⟨?_, ?_, ?_, ?_, List.forall_mem_nil _, List.forall_mem_nil _, ?_⟩
  · intro fault member
    exact absurd member (none fault)
  · intro fault member
    exact absurd member (none fault)
  · intro fault member
    exact absurd member (none fault)
  · intro id e found
    exact absurd found (empty id e)
  · intro id root found
    exact absurd found (empty id root)

/-- Without a fault that over-delivers or duplicates, and with every partial amount no larger than
the share of each undecided piece it is aimed at when it is added, every request is kept to in every
state of a run. -/
theorem requests_kept (keccak256 : Bytes → Bytes32) {config : SimulatorConfig}
    {endpoints : List EndpointId} {start : Simulator}
    (built : withConfig config endpoints = .ok start) (calls : List Call)
    (conserving : ∀ n, (start.run keccak256 (calls.take n)).Conserving)
    (fits : ∀ n fault, calls[n]? = some (.operation (.addFault fault)) →
      (start.run keccak256 (calls.take n)).checkFault fault = .ok () →
      (start.run keccak256 (calls.take n)).PartsFit fault) (n : Nat) :
    (start.run keccak256 (calls.take n)).KeepsToRequest := by
  have valid : ∀ n, (start.run keccak256 (calls.take n)).Valid := by
    intro n
    exact Valid.run keccak256 (calls.take n) start (withConfig_valid built)
  have shared : ∀ n, (start.run keccak256 (calls.take n)).Shared := by
    intro n
    induction n with
    | zero => exact withConfig_shared built
    | succ n ih =>
        cases next : calls[n]? with
        | none =>
            have same : calls.take (n + 1) = calls.take n := by
              rw [List.take_add_one, next, Option.toList_none, List.append_nil]
            rw [same]
            exact ih
        | some c =>
            have step : calls.take (n + 1) = calls.take n ++ [c] := by
              rw [List.take_add_one, next]
              rfl
            have after := conserving (n + 1)
            rw [step, run_concat] at after ⊢
            refine Does.after ih (ih.call keccak256 (valid n) c ?_ after)
            intro fault same
            exact fits n fault (next.trans (congrArg some same))
  exact (shared n).keepsToRequest (valid n)

/-- A transfer of 100 split in halves, the second of which is then set to this amount. -/
def samplePart (amount : AssetAmount) : List Call :=
  [.operation (.scheduleAsset ⟨none, 7, 1, 2, 100, 3, none⟩),
    .operation (.addFault ⟨1, .event 1, .split [50, 50] 5⟩),
    .operation (.runUntil 3),
    .operation (.addFault ⟨2, .event 2, .partialAmount amount⟩),
    .operation .runUntilIdle]

/-- No fault in force creates value after any number of these calls. -/
def conservesAlong (start : Simulator) (calls : List Call) : Bool :=
  (List.range (calls.length + 1)).all fun n =>
    (FaultPlan.iter (start.run sampleDigest (calls.take n)).plan).all fun fault =>
      !fault.action.createsValue

theorem conserving_of_conservesAlong {calls : List Call} (passes : s.conservesAlong calls = true)
    (n : Nat) : (s.run sampleDigest (calls.take n)).Conserving := by
  have within : ∀ n ≤ calls.length, (s.run sampleDigest (calls.take n)).Conserving := by
    intro n bounded fault member
    have each := List.all_eq_true.mp passes n (List.mem_range.mpr (Nat.lt_succ_of_le bounded))
    simpa using List.all_eq_true.mp each fault member
  by_cases bounded : n ≤ calls.length
  · exact within n bounded
  · have whole := within calls.length (Nat.le_refl _)
    rw [List.take_length] at whole
    rw [List.take_of_length_le (Nat.le_of_not_le bounded)]
    exact whole

/-- The first transfer and its pieces delivered more than was asked for. -/
def sampleExceeded (s : Simulator) : Bool :=
  match s.events[(1 : EventId)]? with
  | some (Event.asset moving) => !moving.fromFault && decide (moving.requested.raw <
      s.deliveredBy 1 + ((s.piecesOf 1).map s.deliveredBy).sum)
  | _ => false

/-- Setting the second half to the whole amount delivers 150. -/
theorem requests_exceeded :
    ∃ start, withConfig sampleConfig [1, 2] = .ok start ∧
      (∀ n, (start.run sampleDigest ((samplePart 100).take n)).Conserving) ∧
      ¬(start.run sampleDigest (samplePart 100)).KeepsToRequest := by
  have passes : (withConfig sampleConfig [1, 2]).toOption.any (fun start =>
      start.conservesAlong (samplePart 100) &&
      sampleExceeded (start.run sampleDigest (samplePart 100))) = true := by
    decide +kernel
  obtain ⟨start, built, both⟩ := ok_of_any passes
  obtain ⟨along, exceeded⟩ := Bool.and_eq_true_iff.mp both
  refine ⟨start, built, conserving_of_conservesAlong along, ?_⟩
  intro keeps
  unfold sampleExceeded at exceeded
  split at exceeded
  · rename_i moving found
    obtain ⟨caller, above⟩ := Bool.and_eq_true_iff.mp exceeded
    have bound := keeps.total 1 moving found (by simpa using caller)
    exact absurd (of_decide_eq_true above) (Nat.not_lt.mpr bound)
  · cases exceeded

/-- Each undecided piece in the table that this fault is aimed at has at least this share. -/
def piecesAbove (s : Simulator) (fault : Fault) (amount : AssetAmount) : Bool :=
  s.events.toList.all fun entry =>
    s.resolved.contains entry.1 || !entry.2.madeByFault || !fault.target.matchesEvent entry.2 ||
      decide (amount.raw ≤ entry.2.moved)

theorem partsFit_of_piecesAbove {fault : Fault} {amount : AssetAmount}
    (action : fault.action = .partialAmount amount) (passes : s.piecesAbove fault amount = true) :
    s.PartsFit fault := by
  intro amount' action' id piece found undecided _ spawned matched
  rw [action] at action'
  cases action'
  have each := List.all_eq_true.mp passes (id, piece)
    (Std.ExtTreeMap.mem_toList_iff_getElem?_eq_some.mpr found)
  simpa [undecided, spawned, matched] using each

/-- Setting the second half to 40 keeps to the request. -/
theorem requests_kept_below :
    ∃ start, withConfig sampleConfig [1, 2] = .ok start ∧
      ((start.run sampleDigest (samplePart 40)).deliveredBy 1,
        (start.run sampleDigest (samplePart 40)).deliveredBy 2) = (50, 40) ∧
      (start.run sampleDigest (samplePart 40)).KeepsToRequest := by
  have passes : (withConfig sampleConfig [1, 2]).toOption.any (fun start =>
      (start.conservesAlong (samplePart 40) &&
        (start.run sampleDigest ((samplePart 40).take 3)).piecesAbove
          ⟨2, .event 2, .partialAmount 40⟩ 40) &&
      ((start.run sampleDigest (samplePart 40)).deliveredBy 1,
        (start.run sampleDigest (samplePart 40)).deliveredBy 2) == (50, 40)) = true := by
    decide +kernel
  obtain ⟨start, built, all⟩ := ok_of_any passes
  obtain ⟨checks, amounts⟩ := Bool.and_eq_true_iff.mp all
  obtain ⟨along, above⟩ := Bool.and_eq_true_iff.mp checks
  have fits : ∀ n fault, (samplePart 40)[n]? = some (.operation (.addFault fault)) →
      (start.run sampleDigest ((samplePart 40).take n)).checkFault fault = .ok () →
      (start.run sampleDigest ((samplePart 40).take n)).PartsFit fault := by
    intro n fault found _
    match n, found with
    | 1, found =>
        cases found
        intro amount action
        cases action
    | 3, found =>
        cases found
        exact partsFit_of_piecesAbove rfl above
    | 4, found => cases found
    | n + 5, found => cases found
  exact ⟨start, built, eq_of_beq amounts,
    requests_kept sampleDigest built (samplePart 40) (conserving_of_conservesAlong along) fits 5⟩

end Simulator

end XchainSim
