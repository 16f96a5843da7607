import CrossChainVault.Simulator.InTurn

set_option autoImplicit false

/- A plan laid out from a seed before anything runs. Whatever the seed draws, it aims one fault at
each of its targets, and the network takes all of them in whatever order they are registered. -/

namespace XchainSim

open Protocol (Bytes32)
open InPlace
open Result

/-- Deterministic bit mixer used only to lay out a seeded plan. -/
structure PlanSeed where
  state : UInt64

namespace PlanSeed

def next (source : PlanSeed) : UInt64 × PlanSeed :=
  let state := source.state + 0x9E3779B97F4A7C15
  let value := (state ^^^ (state >>> 30)) * 0xBF58476D1CE4E5B9
  let value := (value ^^^ (value >>> 27)) * 0x94D049BB133111EB
  (value ^^^ (value >>> 31), ⟨state⟩)

/-- The remainder of the next value, or zero when there is none. -/
def below (source : PlanSeed) (limit : UInt64) : Unsigned 64 × PlanSeed :=
  let (value, source) := source.next
  let rest := if limit = 0 then 0 else value % limit
  (⟨rest.toNat, rest.toNat_lt⟩, source)

theorem below_lt (source : PlanSeed) (limit : UInt64) (some : 0 < limit.toNat) :
    (source.below limit).1.raw < limit.toNat := by
  have nonzero : limit ≠ 0 := by
    intro zero
    rw [zero] at some
    exact Nat.lt_irrefl 0 some
  simp only [below, nonzero, if_false, UInt64.toNat_mod]
  exact Nat.mod_lt _ some

/-- The action of the kind that was drawn. -/
def actionOf (source : PlanSeed) (lane : Lane) (kind : Nat) : FaultAction × PlanSeed :=
  match lane, kind with
  | _, 0 =>
      let (ticks, source) := source.below 8
      (.delay (ticks.saturatingAdd 1), source)
  | _, 1 => (.drop, source)
  | _, 2 =>
      let (spacing, source) := source.below 4
      (.duplicate 1 spacing, source)
  | .control, _ =>
      let (offset, source) := source.below 64
      let (mask, source) := source.below 255
      let mask := (mask.saturatingAdd 1).raw
      (.corruptByte offset (if mask < 256 then UInt8.ofNat mask else 1), source)
  | .asset, _ =>
      let (amount, source) := source.below 16
      let amount := amount.saturatingAdd 1
      (.partialAmount ⟨amount.raw, Nat.lt_trans amount.bound (by decide)⟩, source)

/-- The action aimed at the next event of a plan. -/
def draw (source : PlanSeed) (lane : Lane) : FaultAction × PlanSeed :=
  let (kind, source) := source.below 4
  source.actionOf lane kind.raw

end PlanSeed

/-- What a seed can draw for an event of this lane. -/
def Drawn : Lane → FaultAction → Prop
  | _, .delay ticks => 1 ≤ ticks.raw ∧ ticks.raw ≤ 8
  | _, .drop => True
  | _, .duplicate copies spacing => copies = 1 ∧ spacing.raw < 4
  | .control, .corruptByte offset mask => offset.raw < 64 ∧ mask ≠ 0
  | .asset, .partialAmount amount => 1 ≤ amount.raw ∧ amount.raw ≤ 16
  | _, _ => False

section Drawn

variable {n : Unsigned 64}

theorem succ_raw (small : n.raw < 255) : (n.saturatingAdd 1).raw = n.raw + 1 := by
  have one : (1 : Unsigned 64).raw = 1 := rfl
  rw [Unsigned.saturatingAdd_raw, one]
  omega

theorem drawn_delay (lane : Lane) (small : n.raw < 8) :
    Drawn lane (.delay (n.saturatingAdd 1)) := by
  have raised := succ_raw (by omega : n.raw < 255)
  cases lane <;> exact ⟨by omega, by omega⟩

theorem drawn_duplicate (lane : Lane) (small : n.raw < 4) : Drawn lane (.duplicate 1 n) := by
  cases lane <;> exact ⟨rfl, small⟩

theorem drawn_corrupt {mask : Unsigned 64} (small : n.raw < 64) (byte : mask.raw < 255) :
    Drawn .control (.corruptByte n (if (mask.saturatingAdd 1).raw < 256 then
      UInt8.ofNat (mask.saturatingAdd 1).raw else 1)) := by
  refine ⟨small, ?_⟩
  rw [succ_raw byte, if_pos (by omega)]
  intro zero
  have value := congrArg UInt8.toNat zero
  rw [UInt8.toNat_ofNat', Nat.mod_eq_of_lt (by omega)] at value
  cases value

theorem drawn_partial (small : n.raw < 16)
    (fits : (n.saturatingAdd 1).raw < 2 ^ 128) :
    Drawn .asset (.partialAmount ⟨(n.saturatingAdd 1).raw, fits⟩) := by
  have raised := succ_raw (by omega : n.raw < 255)
  exact ⟨by dsimp only; omega, by dsimp only; omega⟩

end Drawn

theorem PlanSeed.actionOf_drawn (source : PlanSeed) (lane : Lane) (kind : Nat) :
    Drawn lane (source.actionOf lane kind).1 := by
  rcases kind with _ | _ | _ | more
  · have small : (source.below 8).1.raw < 8 := source.below_lt 8 (by decide)
    cases lane <;> exact drawn_delay _ small
  · cases lane <;> exact trivial
  · have small : (source.below 4).1.raw < 4 := source.below_lt 4 (by decide)
    cases lane <;> exact drawn_duplicate _ small
  · cases lane with
    | control =>
        have small : (source.below 64).1.raw < 64 := source.below_lt 64 (by decide)
        have byte : ((source.below 64).2.below 255).1.raw < 255 :=
          (source.below 64).2.below_lt 255 (by decide)
        exact drawn_corrupt small byte
    | asset =>
        have small : (source.below 16).1.raw < 16 := source.below_lt 16 (by decide)
        exact drawn_partial small _

theorem PlanSeed.draw_drawn (source : PlanSeed) (lane : Lane) : Drawn lane (source.draw lane).1 :=
  (source.below 4).2.actionOf_drawn lane (source.below 4).1.raw

/- Laying the plan out. -/

/-- The rest of the plan, from this position on. Positions past the last identifier get no fault. -/
def layOut : List (EventId × Lane) → Nat → PlanSeed → FaultPlan → FaultPlan
  | [], _, _, plan => plan
  | (event, lane) :: targets, position, source, plan =>
      if index : position < 2 ^ 32 then
        let drawn := source.draw lane
        layOut targets (position + 1) drawn.2
          (plan.insert ⟨position, index⟩ ⟨⟨position, index⟩, .event event, drawn.1⟩)
      else plan

theorem layOut_cons {event : EventId} {lane : Lane} {targets : List (EventId × Lane)}
    {position : Nat} (index : position < 2 ^ 32) (source : PlanSeed) (plan : FaultPlan) :
    layOut ((event, lane) :: targets) position source plan =
      layOut targets (position + 1) (source.draw lane).2
        (plan.insert ⟨position, index⟩ ⟨⟨position, index⟩, .event event, (source.draw lane).1⟩) :=
  dif_pos index

/-- Builds one concrete plan from a seed. -/
def seededPlan (seed : UInt64) (targets : List (EventId × Lane)) : FaultPlan :=
  layOut targets 0 ⟨seed⟩ ∅

/-- The rest of a plan aims one fault at each of its targets, in their order, and leaves the other
identifiers alone. -/
theorem layOut_get {targets : List (EventId × Lane)} : ∀ {position : Nat} {source : PlanSeed}
    {plan : FaultPlan}, position + targets.length ≤ 2 ^ 32 → ∀ id : FaultId,
    (id.raw < position ∨ position + targets.length ≤ id.raw →
      (layOut targets position source plan)[id]? = plan[id]?) ∧
    ∀ (n : Nat) (event : EventId) (lane : Lane), targets[n]? = some (event, lane) →
      id.raw = position + n → ∃ action, Drawn lane action ∧
        (layOut targets position source plan)[id]? = some ⟨id, .event event, action⟩ := by
  induction targets with
  | nil =>
      intro position source plan _ id
      refine ⟨fun _ => rfl, ?_⟩
      intro n event lane found
      rw [List.getElem?_nil] at found
      cases found
  | cons target targets ih =>
      obtain ⟨aimed, way⟩ := target
      intro position source plan fits id
      rw [List.length_cons] at fits ⊢
      have index : position < 2 ^ 32 := by omega
      have drawn := source.draw_drawn way
      have rest := @ih (position + 1) (source.draw way).2 (plan.insert ⟨position, index⟩
        ⟨⟨position, index⟩, .event aimed, (source.draw way).1⟩) (by omega) id
      rw [layOut_cons index]
      refine ⟨?_, ?_⟩
      · intro outside
        rw [rest.1 (by omega), OrderedMap.getElem?_insert_other]
        intro same
        have value := congrArg Unsigned.raw same
        dsimp only at value
        omega
      · intro n event lane found named
        cases n with
        | zero =>
            rw [List.getElem?_cons_zero] at found
            cases found
            have here : id = ⟨position, index⟩ := Unsigned.ext named
            rw [rest.1 (by omega), here, OrderedMap.getElem?_insert_same]
            exact ⟨_, drawn, rfl⟩
        | succ n =>
            rw [List.getElem?_cons_succ] at found
            exact rest.2 n event lane found (by omega)

section SeededPlan

variable {seed : UInt64} {targets : List (EventId × Lane)} {id : FaultId} {fault other : Fault}

/-- A seeded plan has one fault for each target and nothing else. -/
theorem seededPlan_get (fits : targets.length ≤ 2 ^ 32)
    (found : (seededPlan seed targets)[id]? = some fault) : fault.id = id ∧ ∃ event lane,
      targets[id.raw]? = some (event, lane) ∧ fault.target = .event event ∧
        Drawn lane fault.action := by
  obtain ⟨outside, inside⟩ := @layOut_get targets 0 ⟨seed⟩ ∅ (by omega) id
  by_cases listed : id.raw < targets.length
  · obtain ⟨⟨event, lane⟩, target⟩ : ∃ target, targets[id.raw]? = some target :=
      ⟨_, List.getElem?_eq_getElem listed⟩
    obtain ⟨action, drawn, made⟩ := inside id.raw event lane target (by omega)
    have same : some fault = some ⟨id, .event event, action⟩ := found.symm.trans made
    cases same
    exact ⟨rfl, event, lane, target, rfl, drawn⟩
  · have nothing : (seededPlan seed targets)[id]? = none := (outside (by omega)).trans (by simp)
    rw [nothing] at found
    cases found

theorem mem_seededPlan (fits : targets.length ≤ 2 ^ 32)
    (member : fault ∈ FaultPlan.iter (seededPlan seed targets)) :
    (seededPlan seed targets)[fault.id]? = some fault ∧ ∃ event lane,
      targets[fault.id.raw]? = some (event, lane) ∧ fault.target = .event event ∧
        Drawn lane fault.action := by
  obtain ⟨id, found⟩ := FaultPlan.mem_iter.mp member
  obtain ⟨named, event, lane, target, aimed, drawn⟩ := seededPlan_get fits found
  rw [named]
  exact ⟨found, event, lane, target, aimed, drawn⟩

/-- Two faults of a seeded plan aimed at one event are one fault. -/
theorem seededPlan_alone (fits : targets.length ≤ 2 ^ 32)
    (distinct : (targets.map Prod.fst).Nodup)
    (member : fault ∈ FaultPlan.iter (seededPlan seed targets))
    (another : other ∈ FaultPlan.iter (seededPlan seed targets))
    (same : fault.target = other.target) : fault = other := by
  obtain ⟨found, event, lane, target, aimed, -⟩ := mem_seededPlan fits member
  obtain ⟨listed, event', lane', target', aimed', -⟩ := mem_seededPlan fits another
  rw [aimed, aimed', FaultTarget.event.injEq] at same
  subst same
  have place : (targets.map Prod.fst)[fault.id.raw]? = (targets.map Prod.fst)[other.id.raw]? := by
    rw [List.getElem?_map, List.getElem?_map, target, target']
    rfl
  have within : fault.id.raw < (targets.map Prod.fst).length := by
    rw [List.length_map]
    exact (List.getElem?_eq_some_iff.mp target).1
  have index : fault.id = other.id := Unsigned.ext ((List.getElem?_inj within distinct).mp place)
  rw [index, listed, Option.some.injEq] at found
  exact found.symm

/-- What names the faults of a seeded plan apart lists them without repetition. -/
theorem seededPlan_nodup {K : Type} (name : Fault → K)
    (apart : ∀ fault ∈ FaultPlan.iter (seededPlan seed targets),
      ∀ other ∈ FaultPlan.iter (seededPlan seed targets), name fault = name other → fault = other)
    (fits : targets.length ≤ 2 ^ 32) :
    ((FaultPlan.iter (seededPlan seed targets)).map name).Nodup := by
  unfold FaultPlan.iter
  rw [List.map_map]
  refine List.Nodup.map_on ?_ (OrderedMap.toList_nodup _)
  rintro ⟨key, fault⟩ member ⟨key', other⟩ another same
  rw [Std.ExtTreeMap.mem_toList_iff_getElem?_eq_some] at member another
  have one := apart fault (FaultPlan.mem_iter.mpr ⟨key, member⟩) other
    (FaultPlan.mem_iter.mpr ⟨key', another⟩) same
  rw [← (seededPlan_get fits member).1, ← (seededPlan_get fits another).1, one]

theorem seededPlan_ids (fits : targets.length ≤ 2 ^ 32) :
    ((FaultPlan.iter (seededPlan seed targets)).map Fault.id).Nodup := by
  refine seededPlan_nodup Fault.id ?_ fits
  intro fault member other another same
  have found := (mem_seededPlan fits member).1
  rw [same, (mem_seededPlan fits another).1, Option.some.injEq] at found
  exact found.symm

theorem seededPlan_targets (fits : targets.length ≤ 2 ^ 32)
    (distinct : (targets.map Prod.fst).Nodup) :
    ((FaultPlan.iter (seededPlan seed targets)).map Fault.target).Nodup := by
  refine seededPlan_nodup Fault.target ?_ fits
  intro fault member other another same
  exact seededPlan_alone fits distinct member another same

/-- The fault aimed at the target in this place. -/
theorem seededPlan_at (fits : targets.length ≤ 2 ^ 32) {n : Nat} {event : EventId} {lane : Lane}
    (target : targets[n]? = some (event, lane)) :
    ∃ fault ∈ FaultPlan.iter (seededPlan seed targets), fault.id.raw = n ∧
      fault.target = .event event ∧ Drawn lane fault.action := by
  have small : n < targets.length := (List.getElem?_eq_some_iff.mp target).1
  have place : n < 2 ^ 32 := Nat.lt_of_lt_of_le small fits
  obtain ⟨-, inside⟩ := @layOut_get targets 0 ⟨seed⟩ ∅ (by omega) ⟨n, place⟩
  obtain ⟨action, drawn, made⟩ := inside n event lane target (by dsimp only; omega)
  exact ⟨⟨⟨n, place⟩, .event event, action⟩, FaultPlan.mem_iter.mpr ⟨_, made⟩, rfl, rfl, drawn⟩

end SeededPlan

/-- What is in a plan once these faults have gone in beside the ones it had. -/
theorem FaultPlan.mem_iter_of_added {before after : FaultPlan} {faults : List Fault}
    (added : ∀ fault ∈ faults, after[fault.id]? = some fault)
    (others : ∀ id : FaultId, id ∉ faults.map Fault.id → after[id]? = before[id]?)
    (unused : ∀ fault ∈ faults, before[fault.id]? = none) (other : Fault) :
    other ∈ FaultPlan.iter after ↔ other ∈ faults ∨ other ∈ FaultPlan.iter before := by
  constructor
  · intro member
    obtain ⟨key, found⟩ := FaultPlan.mem_iter.mp member
    by_cases new : key ∈ faults.map Fault.id
    · obtain ⟨fault, inside, rfl⟩ := List.mem_map.mp new
      rw [added fault inside, Option.some.injEq] at found
      rw [← found]
      exact .inl inside
    · rw [others key new] at found
      exact .inr (FaultPlan.mem_iter.mpr ⟨key, found⟩)
  · intro member
    cases member with
    | inl inside => exact FaultPlan.mem_iter.mpr ⟨other.id, added other inside⟩
    | inr standing =>
        obtain ⟨key, found⟩ := FaultPlan.mem_iter.mp standing
        refine FaultPlan.mem_iter.mpr ⟨key, ?_⟩
        rw [others key]
        · exact found
        · intro new
          obtain ⟨fault, inside, rfl⟩ := List.mem_map.mp new
          rw [unused fault inside] at found
          cases found

/-- A fault clear of a plan stays clear of it when another one goes in. -/
theorem FaultPlan.clear_insert {plan : FaultPlan} {fault other : Fault}
    (id : fault.id ≠ other.id) (target : fault.target ≠ other.target)
    (clear : plan[other.id]? = none ∧
      ∀ standing ∈ FaultPlan.iter plan, standing.target ≠ other.target) :
    (plan.insert fault.id fault)[other.id]? = none ∧
      ∀ standing ∈ FaultPlan.iter (plan.insert fault.id fault),
        standing.target ≠ other.target := by
  constructor
  · rw [OrderedMap.getElem?_insert_other _ _ id]
    exact clear.1
  · intro standing listed
    obtain ⟨key, found⟩ := FaultPlan.mem_iter.mp listed
    rw [OrderedMap.getElem?_insert] at found
    split at found
    · cases found
      exact target
    · exact clear.2 standing (FaultPlan.mem_iter.mpr ⟨key, found⟩)

theorem FaultPlan.mem_matching {plan : FaultPlan} {event : Event} {fault : Fault} :
    fault ∈ FaultPlan.matching plan event ↔
      fault ∈ FaultPlan.iter plan ∧ fault.target.matchesEvent event = true := by
  rw [(FaultPlan.matching_perm plan event).mem_iff, List.mem_filter]

theorem FaultTarget.matches_event {id : EventId} {event : Event} :
    (FaultTarget.event id).matchesEvent event = true ↔ event.id = id := beq_iff_eq

/-- A fault of a seeded plan meets only the event of its own target. -/
theorem seededPlan_aim {seed : UInt64} {targets : List (EventId × Lane)} {fault : Fault}
    {event : Event} (fits : targets.length ≤ 2 ^ 32)
    (member : fault ∈ FaultPlan.iter (seededPlan seed targets))
    (hits : fault.target.matchesEvent event = true) :
    fault.target = .event event.id ∧ event.id ∈ targets.map Prod.fst := by
  obtain ⟨-, aim, lane, target, aimed, -⟩ := mem_seededPlan fits member
  rw [aimed, FaultTarget.matches_event] at hits
  rw [aimed, hits]
  exact ⟨rfl, List.mem_map.mpr ⟨(aim, lane), List.mem_of_getElem? target, rfl⟩⟩

namespace Simulator

variable {s : Simulator} {id : EventId} {lane : Lane}

/-- Runs a list of steps, stopping at the first refusal. -/
def applyAll (keccak256 : Bytes → Bytes32) : List Operation → Update Unit
  | [] => pure ()
  | operation :: operations => do
      apply keccak256 operation
      applyAll keccak256 operations

/-- The network takes any fault drawn for this target: the event stands on its lane, nothing is
decided about it, and it has a byte to flip or a part to deliver. -/
structure Bendable (s : Simulator) (id : EventId) (lane : Lane) : Prop where
  stands : ∃ event, s.events[id]? = some event ∧ event.lane = lane ∧
    event.status.isTerminal = false
  undecided : s.resolved.contains id = false
  wide : ∀ sent, s.events[id]? = some (.control sent) → 64 ≤ sent.bytes.length
  ample : ∀ moving, s.events[id]? = some (.asset moving) → 16 ≤ moving.requested.raw

/-- The plan does not enter into it. -/
theorem Bendable.of_plan (bendable : s.Bendable id lane) (plan : FaultPlan) :
    Bendable { s with plan := plan } id lane :=
  ⟨bendable.stands, bendable.undecided, bendable.wide, bendable.ample⟩

def isBendable (s : Simulator) (id : EventId) (lane : Lane) : Bool :=
  !s.resolved.contains id && s.events[id]?.any fun event =>
    event.lane == lane && !event.status.isTerminal &&
      event.asControl.all (fun sent => decide (64 ≤ sent.bytes.length)) &&
      event.asAsset.all (fun moving => decide (16 ≤ moving.requested.raw))

theorem bendable_of_isBendable (passes : s.isBendable id lane = true) : s.Bendable id lane := by
  simp only [isBendable, Bool.and_eq_true, Bool.not_eq_true', Option.any_eq_true, beq_iff_eq]
    at passes
  obtain ⟨undecided, event, found, ⟨⟨way, standing⟩, wide⟩, ample⟩ := passes
  refine ⟨⟨event, found, way, standing⟩, undecided, ?_, ?_⟩
  · intro sent here
    rw [found, Option.some.injEq] at here
    subst here
    simpa [Event.asControl] using wide
  · intro moving here
    rw [found, Option.some.injEq] at here
    subst here
    simpa [Event.asAsset] using ample

/-- A drawn action fits its lane and changes something. -/
theorem drawn_shape {action : FaultAction} (drawn : Drawn lane action) :
    ¬(action.requiredLane.any fun required => required ≠ lane) = true ∧
      checkActionShape action = .ok () := by
  cases action with
  | delay | drop => exact ⟨Bool.false_ne_true, rfl⟩
  | duplicate copies spacing =>
      have some : copies = 1 := by cases lane <;> exact drawn.1
      subst some
      exact ⟨Bool.false_ne_true, rejectIf_eq_ok.mpr (by decide)⟩
  | corruptByte offset mask =>
      cases lane with
      | control => exact ⟨Bool.false_ne_true, rejectIf_eq_ok.mpr drawn.2⟩
      | asset => exact drawn.elim
  | partialAmount amount =>
      cases lane with
      | control => exact drawn.elim
      | asset =>
          have some : 1 ≤ amount.raw := drawn.1
          refine ⟨Bool.false_ne_true, rejectIf_eq_ok.mpr ?_⟩
          rw [Unsigned.isZero_iff]
          omega
  | replaceDestination | split | overDeliver => cases lane <;> exact drawn.elim

theorem drawn_accepted {action : FaultAction} (bendable : s.Bendable id lane)
    (drawn : Drawn lane action) : s.checkAgainstNamedEvent id action = .ok () := by
  obtain ⟨event, found, way, standing⟩ := bendable.stands
  have known : okOr s.events[id]? (SimError.unknownEvent id) = .ok event := okOr_eq_ok.mpr found
  have going : rejectIf event.status.isTerminal (SimError.eventAlreadyTerminal id) = .ok () :=
    rejectIf_eq_ok.mpr (by simp [standing])
  have undecided : rejectIf (s.resolved.contains id) (SimError.faultsAlreadyBound id) = .ok () :=
    rejectIf_eq_ok.mpr (by simp [bendable.undecided])
  unfold checkAgainstNamedEvent
  rw [known, ok_bind, going, ok_bind, undecided, ok_bind]
  cases action with
  | delay | drop | duplicate => rfl
  | corruptByte offset mask =>
      cases event with
      | control sent =>
          subst way
          have wide := bendable.wide sent found
          have small : offset.raw < 64 := drawn.1
          refine rejectIf_eq_ok.mpr ?_
          show ¬sent.bytes.length ≤ offset.raw
          omega
      | asset moving =>
          subst way
          exact drawn.elim
  | partialAmount amount =>
      cases event with
      | control sent =>
          subst way
          exact drawn.elim
      | asset moving =>
          subst way
          have ample := bendable.ample moving found
          have small : amount.raw ≤ 16 := drawn.2
          refine rejectIf_eq_ok.mpr ?_
          show ¬moving.requested.raw < amount.raw
          omega
  | replaceDestination | split | overDeliver => cases lane <;> exact drawn.elim

/-- Nothing `addFault` looks at speaks against a drawn fault. -/
theorem checkFault_drawn {fault : Fault} (bendable : s.Bendable id lane)
    (aimed : fault.target = .event id) (drawn : Drawn lane fault.action)
    (unused : s.plan[fault.id]? = none)
    (alone : ∀ other ∈ FaultPlan.iter s.plan, other.target ≠ fault.target) :
    s.checkFault fault = .ok () := by
  obtain ⟨event, found, way, standing⟩ := bendable.stands
  obtain ⟨fitting, shaped⟩ := drawn_shape drawn
  have free :
      rejectIf (s.plan.contains fault.id) (SimError.duplicateFaultId fault.id) = .ok () := by
    rw [rejectIf_eq_ok, Std.ExtTreeMap.contains_eq_isSome_getElem?, unused]
    exact Bool.false_ne_true
  have matched : rejectIf (fault.action.requiredLane.any fun required => required ≠ lane)
      (SimError.invalidConfiguration .actionLaneMismatch) = .ok () := rejectIf_eq_ok.mpr fitting
  have onLane : s.targetLane fault = .ok lane := by
    unfold targetLane
    rw [aimed]
    exact okOr_eq_ok.mpr (by rw [found, ← way]; rfl)
  have endpoints : s.checkTargetEndpoints fault = .ok () := by
    unfold checkTargetEndpoints
    rw [aimed]
    cases act : fault.action with
    | replaceDestination endpoint =>
        rw [act] at drawn
        cases lane <;> exact drawn.elim
    | _ => rfl
  have lonely : s.sameGroupOnSameTarget fault = none := by
    unfold sameGroupOnSameTarget
    rw [Option.map_eq_none_iff, List.find?_eq_none]
    intro other member
    simp [alone other member]
  unfold checkFault
  rw [free, ok_bind, onLane, ok_bind, matched, ok_bind, endpoints, ok_bind, shaped, ok_bind, aimed,
    lonely]
  exact bind_eq_ok.mpr ⟨(), drawn_accepted bendable drawn, rfl⟩

/-- Registered one after another, faults drawn for targets of their own all go in, and nothing but
the plan changes. The induction keeps the rest of the faults clear of the plan so far. -/
theorem registers (keccak256 : Bytes → Bytes32) {faults : List Fault} : ∀ {s : Simulator},
    (∀ fault ∈ faults, ∃ id lane, fault.target = .event id ∧ s.Bendable id lane ∧
      Drawn lane fault.action) →
    (faults.map Fault.id).Nodup → (faults.map Fault.target).Nodup →
    (∀ fault ∈ faults, s.plan[fault.id]? = none ∧
      ∀ other ∈ FaultPlan.iter s.plan, other.target ≠ fault.target) →
    ∃ plan : FaultPlan,
      applyAll keccak256 (faults.map .addFault) s = .ok () { s with plan := plan } ∧
      (∀ fault ∈ faults, plan[fault.id]? = some fault) ∧
      ∀ id : FaultId, id ∉ faults.map Fault.id → plan[id]? = s.plan[id]? := by
  induction faults with
  | nil =>
      intro s _ _ _ _
      exact ⟨s.plan, rfl, List.forall_mem_nil _, fun _ _ => rfl⟩
  | cons fault faults ih =>
      intro s drawn ids targets clear
      rw [List.map_cons, List.nodup_cons] at ids targets
      obtain ⟨id, lane, aimed, bendable, action⟩ := drawn fault List.mem_cons_self
      obtain ⟨unused, alone⟩ := clear fault List.mem_cons_self
      have checked := checkFault_drawn bendable aimed action unused alone
      let middle : Simulator := { s with plan := s.plan.insert fault.id fault }
      have first : addFault fault s = .ok () middle := by
        change EStateM.bind (check (s.checkFault fault)) _ s = _
        unfold EStateM.bind
        rw [checked]
        rfl
      have later : ∀ other ∈ faults, middle.plan[other.id]? = none ∧
          ∀ standing ∈ FaultPlan.iter middle.plan, standing.target ≠ other.target := by
        intro other member
        refine FaultPlan.clear_insert ?_ ?_ (clear other (List.mem_cons_of_mem fault member))
        · intro same
          exact ids.1 (List.mem_map.mpr ⟨other, member, same.symm⟩)
        · intro same
          exact targets.1 (List.mem_map.mpr ⟨other, member, same.symm⟩)
      have still : ∀ other ∈ faults, ∃ id lane, other.target = .event id ∧
          middle.Bendable id lane ∧ Drawn lane other.action := by
        intro other member
        obtain ⟨id, lane, aimed, bendable, action⟩ :=
          drawn other (List.mem_cons_of_mem fault member)
        exact ⟨id, lane, aimed, bendable.of_plan _, action⟩
      obtain ⟨plan, rest, registered, others⟩ := ih still ids.2 targets.2 later
      refine ⟨plan, ?_, ?_, ?_⟩
      · change EStateM.bind (addFault fault) _ s = _
        unfold EStateM.bind
        rw [first]
        exact rest
      · intro other member
        rcases List.mem_cons.mp member with rfl | inside
        · rw [others other.id ids.1]
          exact OrderedMap.getElem?_insert_same ..
        · exact registered other inside
      · intro other absent
        rw [List.map_cons, List.mem_cons, not_or] at absent
        rw [others other absent.2]
        exact OrderedMap.getElem?_insert_other _ _ (Ne.symm absent.1)

/-- A seeded plan always goes in, whatever the seed drew and in whatever order its faults are
registered, and makes the same plan: each target has one fault aimed at it, every other event meets
the faults it met before, and nothing but the plan changes. -/
theorem seeded_plan_goes_in (keccak256 : Bytes → Bytes32) (seed : UInt64)
    {targets : List (EventId × Lane)} {faults : List Fault} (fits : targets.length ≤ 2 ^ 32)
    (distinct : (targets.map Prod.fst).Nodup)
    (bendable : ∀ id lane, (id, lane) ∈ targets → s.Bendable id lane)
    (unused : ∀ id : FaultId, id.raw < targets.length → s.plan[id]? = none)
    (alone : ∀ fault ∈ FaultPlan.iter s.plan, ∀ id lane, (id, lane) ∈ targets →
      fault.target ≠ .event id)
    (order : faults.Perm (FaultPlan.iter (seededPlan seed targets))) :
    ∃ plan : FaultPlan,
      applyAll keccak256 (faults.map .addFault) s = .ok () { s with plan := plan } ∧
      (∀ id : FaultId, plan[id]? = (seededPlan seed targets)[id]?.or s.plan[id]?) ∧
      (∀ (n : Nat) (id : EventId) (lane : Lane), targets[n]? = some (id, lane) →
        ∃ fault, fault.id.raw = n ∧ fault.target = .event id ∧ Drawn lane fault.action ∧
          ∀ (event : Event) (other : Fault), event.id = id →
            (other ∈ FaultPlan.matching plan event ↔
              other = fault ∨ other ∈ FaultPlan.matching s.plan event)) ∧
      ∀ (event : Event) (other : Fault), event.id ∉ targets.map Prod.fst →
        (other ∈ FaultPlan.matching plan event ↔ other ∈ FaultPlan.matching s.plan event) := by
  have listed (fault : Fault) (member : fault ∈ faults) :=
    mem_seededPlan fits (order.mem_iff.mp member)
  have within (fault : Fault) (member : fault ∈ faults) : s.plan[fault.id]? = none := by
    obtain ⟨-, event, lane, target, -, -⟩ := listed fault member
    exact unused fault.id (List.getElem?_eq_some_iff.mp target).1
  have drawn : ∀ fault ∈ faults, ∃ id lane, fault.target = .event id ∧ s.Bendable id lane ∧
      Drawn lane fault.action := by
    intro fault member
    obtain ⟨-, id, lane, target, aimed, action⟩ := listed fault member
    exact ⟨id, lane, aimed, bendable id lane (List.mem_of_getElem? target), action⟩
  have ids : (faults.map Fault.id).Nodup := by
    rw [(order.map Fault.id).nodup_iff]
    exact seededPlan_ids fits
  have aims : (faults.map Fault.target).Nodup := by
    rw [(order.map Fault.target).nodup_iff]
    exact seededPlan_targets fits distinct
  have clear : ∀ fault ∈ faults, s.plan[fault.id]? = none ∧
      ∀ other ∈ FaultPlan.iter s.plan, other.target ≠ fault.target := by
    intro fault member
    obtain ⟨-, id, lane, target, aimed, -⟩ := listed fault member
    refine ⟨within fault member, ?_⟩
    intro other standing
    rw [aimed]
    exact alone other standing id lane (List.mem_of_getElem? target)
  obtain ⟨plan, done, registered, others⟩ := registers keccak256 drawn ids aims clear
  have members := FaultPlan.mem_iter_of_added registered others within
  refine ⟨plan, done, ?_, ?_, ?_⟩
  · intro id
    cases found : (seededPlan seed targets)[id]? with
    | some fault =>
        have inside := order.mem_iff.mpr (FaultPlan.mem_iter.mpr ⟨id, found⟩)
        have here := registered fault inside
        rw [(seededPlan_get fits found).1] at here
        exact here
    | none =>
        rw [Option.none_or]
        apply others
        intro named
        obtain ⟨fault, inside, rfl⟩ := List.mem_map.mp named
        rw [(listed fault inside).1] at found
        cases found
  · intro n id lane target
    obtain ⟨fault, inside, place, aimed, fitting⟩ := seededPlan_at fits target
    refine ⟨fault, place, aimed, fitting, ?_⟩
    intro event other named
    rw [FaultPlan.mem_matching, FaultPlan.mem_matching, members]
    constructor
    · intro listed
      obtain ⟨new | standing, hits⟩ := listed
      · left
        have aim := (seededPlan_aim fits (order.mem_iff.mp new) hits).1
        rw [named, ← aimed] at aim
        exact seededPlan_alone fits distinct (order.mem_iff.mp new) inside aim
      · exact .inr ⟨standing, hits⟩
    · intro either
      cases either with
      | inl same =>
          subst same
          rw [aimed, FaultTarget.matches_event]
          exact ⟨.inl (order.mem_iff.mpr inside), named⟩
      | inr standing => exact ⟨.inr standing.1, standing.2⟩
  · intro event other away
    rw [FaultPlan.mem_matching, FaultPlan.mem_matching, members]
    constructor
    · intro listed
      obtain ⟨new | standing, hits⟩ := listed
      · exact absurd (seededPlan_aim fits (order.mem_iff.mp new) hits).2 away
      · exact ⟨standing, hits⟩
    · intro standing
      exact ⟨.inr standing.1, standing.2⟩

/-- A message and a transfer that any seed can bend. -/
def sampleTargets : List Call :=
  [.operation (.scheduleControl ⟨none, 1, 2, List.replicate 64 7, 4, none⟩),
    .operation (.scheduleAsset ⟨none, 7, 1, 2, 100, 3, none⟩)]

theorem seeded_plan_goes_in_reversed :
    ∃ start plan, withConfig sampleConfig [1, 2] = .ok start ∧
      applyAll sampleDigest ((FaultPlan.iter
          (seededPlan 4242 [(1, .control), (2, .asset)])).reverse.map .addFault)
        (start.run sampleDigest sampleTargets) =
          .ok () { start.run sampleDigest sampleTargets with plan := plan } := by
  have passes : (withConfig sampleConfig [1, 2]).toOption.any (fun start =>
      (start.run sampleDigest sampleTargets).isBendable 1 .control &&
        (start.run sampleDigest sampleTargets).isBendable 2 .asset &&
        (start.run sampleDigest sampleTargets).plan.isEmpty) = true := by
    decide +kernel
  obtain ⟨start, built, facts⟩ := ok_of_any passes
  simp only [Bool.and_eq_true] at facts
  obtain ⟨⟨message, transfer⟩, empty⟩ := facts
  have bare : (start.run sampleDigest sampleTargets).plan = ∅ :=
    Std.ExtTreeMap.isEmpty_iff.mp empty
  have bendable : ∀ id lane, (id, lane) ∈ [((1 : EventId), Lane.control), (2, .asset)] →
      (start.run sampleDigest sampleTargets).Bendable id lane := by
    intro id lane member
    simp only [List.mem_cons, Prod.mk.injEq, List.not_mem_nil, or_false] at member
    rcases member with ⟨rfl, rfl⟩ | ⟨rfl, rfl⟩
    · exact bendable_of_isBendable message
    · exact bendable_of_isBendable transfer
  obtain ⟨plan, done, -⟩ := seeded_plan_goes_in sampleDigest 4242 (by decide) (by decide) bendable
    (by
      intro id _
      rw [bare]
      simp)
    (by
      intro fault member
      rw [bare] at member
      simp [FaultPlan.mem_iter] at member)
    (List.reverse_perm _)
  exact ⟨start, plan, built, done⟩

end Simulator

end XchainSim
