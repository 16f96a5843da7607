import Mathlib.Data.List.Sort
import CrossChainVault.Simulator.Event

set_option autoImplicit false

/- Declared transport faults. A plan is fixed before it runs, so the same plan always bends the same
events the same way. -/

namespace XchainSim

abbrev FaultId := Unsigned 32

/-- Which events a fault bends. -/
inductive FaultTarget
  | event (id : EventId)
  -- Every control event carrying this message id, including duplicates.
  | message (id : MessageId)
  -- Every asset event for this transfer, including pieces.
  | transfer (id : TransferId)
  | route (source destination : EndpointId) (lane : Lane)
  | lane (lane : Lane)
deriving DecidableEq

namespace FaultTarget

/-- The lane this target implies, when it can be read without a lookup. -/
def laneHint : FaultTarget → Option Lane
  | event _ => none
  | message _ => some .control
  | transfer _ => some .asset
  | route _ _ way => some way
  | lane way => some way

/-- The event is in scope of the target. -/
def matchesEvent (target : FaultTarget) (e : Event) : Bool :=
  match target with
  | event id => e.id == id
  | message id => e.messageId == some id
  | transfer id => e.transferId == some id
  | route source destination way =>
      e.lane == way && e.source == source && e.intendedDestination == destination
  | lane way => e.lane == way

end FaultTarget

/-- What a fault does to a matched event. -/
inductive FaultAction
  | delay (ticks : Unsigned 64)
  | drop
  | duplicate (copies : Unsigned 16) (spacing : Unsigned 64)
  | replaceDestination (endpoint : EndpointId)
  | corruptByte (offset : Unsigned 64) (mask : UInt8)
  | partialAmount (amount : AssetAmount)
  | split (pieces : List AssetAmount) (spacing : Unsigned 64)
  | overDeliver (amount : AssetAmount)
deriving DecidableEq

/-- The pass in which an action runs: a reroute is decided before content, and a drop last. -/
inductive FaultStage
  | reroute
  | content
  | fanout
  | delay
  | drop
deriving DecidableEq, Repr

def FaultStage.rank : FaultStage → Nat
  | reroute => 0
  | content => 1
  | fanout => 2
  | delay => 3
  | drop => 4

/-- Actions in one group cannot both apply to a single event. -/
inductive ExclusionGroup
  | destination
  | content
  | fanout
  | timing
  | removal
deriving DecidableEq, Repr

namespace FaultAction

def stage : FaultAction → FaultStage
  | replaceDestination _ => .reroute
  | corruptByte _ _ | partialAmount _ | split _ _ | overDeliver _ => .content
  | duplicate _ _ => .fanout
  | delay _ => .delay
  | drop => .drop

def group : FaultAction → ExclusionGroup
  | replaceDestination _ => .destination
  | corruptByte _ _ | partialAmount _ | split _ _ | overDeliver _ => .content
  | duplicate _ _ => .fanout
  | delay _ => .timing
  | drop => .removal

/-- The action adds events instead of only bending one. -/
def createsEvents : FaultAction → Bool
  | duplicate _ _ | split _ _ => true
  | _ => false

/-- The lane this action makes sense on, or `none` when it fits both. -/
def requiredLane : FaultAction → Option Lane
  | corruptByte _ _ => some .control
  | partialAmount _ | split _ _ | overDeliver _ => some .asset
  | delay _ | drop | duplicate _ _ | replaceDestination _ => none

end FaultAction

/-- One declared fault. -/
structure Fault where
  id : FaultId
  target : FaultTarget
  action : FaultAction
deriving DecidableEq

/-- The order of the sort key that fixes composition order: the stage, then the identifier. -/
def Fault.orderKeyLE (a b : Fault) : Prop :=
  a.action.stage.rank < b.action.stage.rank ∨
    a.action.stage.rank = b.action.stage.rank ∧ a.id.raw ≤ b.id.raw

instance : DecidableRel Fault.orderKeyLE := fun a b =>
  inferInstanceAs (Decidable (a.action.stage.rank < b.action.stage.rank ∨
    a.action.stage.rank = b.action.stage.rank ∧ a.id.raw ≤ b.id.raw))

/-- Every fault that is in force, ordered by identifier. -/
abbrev FaultPlan := OrderedMap FaultId Fault

/-- The faults in force, in the order of their identifiers. -/
def FaultPlan.iter (plan : FaultPlan) : List Fault := plan.toList.map Prod.snd

theorem FaultPlan.mem_iter {plan : FaultPlan} {fault : Fault} :
    fault ∈ FaultPlan.iter plan ↔ ∃ id : FaultId, plan[id]? = some fault := by
  unfold FaultPlan.iter
  rw [List.mem_map]
  constructor
  · rintro ⟨⟨id, found⟩, member, rfl⟩
    exact ⟨id, Std.ExtTreeMap.mem_toList_iff_getElem?_eq_some.mp member⟩
  · rintro ⟨id, found⟩
    exact ⟨(id, fault), Std.ExtTreeMap.mem_toList_iff_getElem?_eq_some.mpr found, rfl⟩

/-- Faults that reach one event, already in composition order. -/
def FaultPlan.matching (plan : FaultPlan) (event : Event) : List Fault :=
  ((FaultPlan.iter plan).filter fun fault => fault.target.matchesEvent event).insertionSort
    Fault.orderKeyLE

theorem FaultPlan.matching_perm (plan : FaultPlan) (event : Event) :
    (FaultPlan.matching plan event).Perm
      ((FaultPlan.iter plan).filter fun fault => fault.target.matchesEvent event) :=
  List.perm_insertionSort _ _

end XchainSim
