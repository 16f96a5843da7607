import CrossChainVault.Simulator.Operation

set_option autoImplicit false

/- What the fault passes can do: bend the event in hand and add events the simulator made from it.
Everything else of the state stays as it is. -/

namespace XchainSim

open Protocol (Bytes32)

namespace Event

/-- The key under which a pending event waits. -/
def key (e : Event) : QueueKey := QueueKey.new e.deliverAt e.lane e.id

@[simp] theorem key_event (e : Event) : e.key.event = e.id := rfl

/-- What no fault changes: the lane, the route the sender chose, the deadline and the request. -/
structure Kin (e e' : Event) : Prop where
  lane : e'.lane = e.lane
  source : e'.source = e.source
  intendedDestination : e'.intendedDestination = e.intendedDestination
  deadline : e'.deadline = e.deadline
  transferId : e'.transferId = e.transferId
  requested : Simulator.requestedOf e' = Simulator.requestedOf e

theorem Kin.refl (e : Event) : Kin e e := ⟨rfl, rfl, rfl, rfl, rfl, rfl⟩

theorem Kin.trans {e e' e'' : Event} (first : Kin e e') (second : Kin e' e'') : Kin e e'' where
  lane := second.lane.trans first.lane
  source := second.source.trans first.source
  intendedDestination := second.intendedDestination.trans first.intendedDestination
  deadline := second.deadline.trans first.deadline
  transferId := second.transferId.trans first.transferId
  requested := second.requested.trans first.requested

/-- The same event, with its content or destination changed. -/
structure Bends (e e' : Event) : Prop extends Kin e e' where
  id : e'.id = e.id
  deliverAt : e'.deliverAt = e.deliverAt
  status : e'.status = e.status
  madeByFault : e'.madeByFault = e.madeByFault

theorem Bends.refl (e : Event) : Bends e e := ⟨Kin.refl e, rfl, rfl, rfl, rfl⟩

theorem Bends.trans {e e' e'' : Event} (first : Bends e e') (second : Bends e' e'') :
    Bends e e'' where
  toKin := first.toKin.trans second.toKin
  id := second.id.trans first.id
  deliverAt := second.deliverAt.trans first.deliverAt
  status := second.status.trans first.status
  madeByFault := second.madeByFault.trans first.madeByFault

/-- An event a fault pass added: a copy or a piece of `e`. -/
structure Spawns (e made : Event) : Prop extends Kin e made where
  status : made.status = .scheduled
  madeByFault : made.madeByFault = true

theorem Bends.spawns {e e' made : Event} (bends : Bends e e') (spawns : Spawns e' made) :
    Spawns e made where
  toKin := bends.toKin.trans spawns.toKin
  status := spawns.status
  madeByFault := spawns.madeByFault

theorem bends_setDestination (e : Event) (endpoint : EndpointId) :
    Bends e (e.setDestination endpoint) := by
  cases e <;> exact ⟨⟨rfl, rfl, rfl, rfl, rfl, rfl⟩, rfl, rfl, rfl, rfl⟩

theorem bends_setDelivered (e : Event) (amount : AssetAmount) (overDelivered : Bool) :
    Bends e (setDelivered e amount overDelivered) := by
  cases e <;> exact ⟨⟨rfl, rfl, rfl, rfl, rfl, rfl⟩, rfl, rfl, rfl, rfl⟩

@[simp] theorem destination_setDelivered (e : Event) (amount : AssetAmount) (overDelivered : Bool) :
    (setDelivered e amount overDelivered).destination = e.destination := by
  cases e <;> rfl

theorem spawns_cloneForDuplicate (e : Event) (id : EventId) (deliverAt : Tick) :
    Spawns e (cloneForDuplicate e id deliverAt) := by
  cases e <;> exact ⟨⟨rfl, rfl, rfl, rfl, rfl, rfl⟩, rfl, rfl⟩

@[simp] theorem destination_cloneForDuplicate (e : Event) (id : EventId) (deliverAt : Tick) :
    (cloneForDuplicate e id deliverAt).destination = e.destination := by
  cases e <;> rfl

@[simp] theorem id_cloneForDuplicate (e : Event) (id : EventId) (deliverAt : Tick) :
    (cloneForDuplicate e id deliverAt).id = id := by
  cases e <;> rfl

end Event

/-- The amount an event moves when it is delivered, nothing for a message. -/
def Event.moved : Event → Nat
  | .control _ => 0
  | .asset moving => moving.delivered.raw

def Event.overDelivered : Event → Bool
  | .control _ => false
  | .asset moving => moving.overDelivered

namespace TraceAction

/-- The event a delivery was attempted for. -/
def attempted : TraceAction → Option EventId
  | deliveryAttempted event _ _ => some event
  | _ => none

/-- The event that was split and the piece made from it. -/
def pieceLink : TraceAction → Option (EventId × EventId)
  | partialDeliveryCreated original pieceEvent _ _ _ => some (original, pieceEvent)
  | _ => none

end TraceAction

namespace Simulator

/-- Everything the trace says was done, in order. -/
def actions (s : Simulator) : List TraceAction := s.trace.map TraceRecord.action

@[simp] theorem actions_record (s : Simulator) (action : TraceAction) :
    (s.record action).actions = s.actions ++ [action] := by
  unfold actions record Trace.push
  rw [List.map_append, List.map_singleton]

/-- From `s` to `s'` the events in `made` are new in the table and wait in the queue, and `logged`
was written to the trace. Nothing else changed but the next event number. -/
structure Grows (s s' : Simulator) (made : List Event) (logged : List TraceAction) : Prop where
  config : s'.config = s.config
  now : s'.now = s.now
  endpoints : s'.endpoints = s.endpoints
  held : s'.held = s.held
  lanes : s'.lanes = s.lanes
  plan : s'.plan = s.plan
  resolved : s'.resolved = s.resolved
  events : ∀ id, s'.events[id]? = (made.find? fun e => e.id = id).or s.events[id]?
  queue : ∀ key, key ∈ s'.queue ↔ (∃ e ∈ made, key = e.key) ∨ key ∈ s.queue
  fresh : ∀ e ∈ made, s.events[e.id]? = none
  distinct : (made.map Event.id).Nodup
  actions : s'.actions = s.actions ++ logged

/-- Under distinct numbers an event is the one its number finds. -/
theorem find?_of_distinct {made : List Event} (distinct : (made.map Event.id).Nodup) {e : Event}
    (member : e ∈ made) : (made.find? fun m => m.id = e.id) = some e := by
  induction made with
  | nil => cases member
  | cons first rest ih =>
      rw [List.map_cons, List.nodup_cons] at distinct
      rw [List.find?_cons]
      rcases List.mem_cons.mp member with here | inside
      · rw [here, decide_eq_true rfl]
      · have apart : first.id ≠ e.id := by
          intro same
          exact distinct.1 (List.mem_map.mpr ⟨e, inside, same.symm⟩)
        rw [decide_eq_false apart]
        exact ih distinct.2 inside

namespace Grows

variable {s s' s'' : Simulator} {made made' : List Event} {logged logged' : List TraceAction}

theorem refl (s : Simulator) : Grows s s [] [] where
  config := rfl
  now := rfl
  endpoints := rfl
  held := rfl
  lanes := rfl
  plan := rfl
  resolved := rfl
  events _ := rfl
  queue key := by simp
  fresh := List.forall_mem_nil _
  distinct := List.nodup_nil
  actions := (List.append_nil _).symm

/-- A made event is in the table after. -/
theorem added (grows : Grows s s' made logged) {e : Event} (member : e ∈ made) :
    s'.events[e.id]? = some e := by
  rw [grows.events]
  rw [find?_of_distinct grows.distinct member, Option.some_or]

theorem trans (first : Grows s s' made logged) (second : Grows s' s'' made' logged') :
    Grows s s'' (made ++ made') (logged ++ logged') where
  config := second.config.trans first.config
  now := second.now.trans first.now
  endpoints := second.endpoints.trans first.endpoints
  held := second.held.trans first.held
  lanes := second.lanes.trans first.lanes
  plan := second.plan.trans first.plan
  resolved := second.resolved.trans first.resolved
  events id := by
    rw [second.events, List.find?_append]
    cases earlier : made.find? fun e => e.id = id with
    | none => rw [Option.none_or, first.events, earlier, Option.none_or]
    | some e =>
        -- The later batch cannot hold the same number, which is taken by then.
        have inside := List.mem_of_find?_eq_some earlier
        have same : e.id = id := by simpa using List.find?_some earlier
        have later : (made'.find? fun e => e.id = id) = none := by
          rw [List.find?_eq_none]
          intro m member again
          rw [decide_eq_true_eq] at again
          have missing := second.fresh m member
          rw [again, ← same, first.added inside] at missing
          cases missing
        rw [later, Option.none_or, first.events, earlier, Option.some_or, Option.some_or,
          Option.some_or]
  queue key := by
    rw [second.queue, first.queue]
    constructor
    · rintro (⟨e, member, rfl⟩ | ⟨e, member, rfl⟩ | waiting)
      · exact .inl ⟨e, List.mem_append_right _ member, rfl⟩
      · exact .inl ⟨e, List.mem_append_left _ member, rfl⟩
      · exact .inr waiting
    · rintro (⟨e, member, rfl⟩ | waiting)
      · rcases List.mem_append.mp member with inside | inside
        · exact .inr (.inl ⟨e, inside, rfl⟩)
        · exact .inl ⟨e, inside, rfl⟩
      · exact .inr (.inr waiting)
  fresh e member := by
    rcases List.mem_append.mp member with inside | inside
    · exact first.fresh e inside
    · have missing := second.fresh e inside
      rw [first.events, Option.or_eq_none_iff] at missing
      exact missing.2
  distinct := by
    rw [List.map_append]
    apply List.Nodup.append first.distinct second.distinct
    intro id inFirst inSecond
    obtain ⟨e, member, rfl⟩ := List.mem_map.mp inFirst
    obtain ⟨m, member', same⟩ := List.mem_map.mp inSecond
    have missing := second.fresh m member'
    rw [same, first.added member] at missing
    cases missing
  actions := by rw [second.actions, first.actions, List.append_assoc]

theorem record (s : Simulator) (action : TraceAction) : Grows s (s.record action) [] [action] :=
  { refl s with
    config := rfl
    now := rfl
    endpoints := rfl
    held := rfl
    lanes := rfl
    plan := rfl
    resolved := rfl
    events := (refl s).events
    queue := (refl s).queue
    actions := actions_record s action }

end Grows

/-- The search finds a number the table does not hold. -/
theorem freeFrom_absent {events : OrderedMap EventId Event} {id : EventId} {next : Unsigned 64}
    (tries : Nat) : ∀ candidate, freeFrom events tries candidate = some (id, next) →
      events[id]? = none := by
  induction tries with
  | zero =>
      intro candidate found
      cases found
  | succ tries ih =>
      intro candidate found
      unfold freeFrom at found
      split at found
      · cases found
      · rename_i after _
        split at found
        · exact ih after found
        · rename_i absent
          cases found
          rw [Std.ExtTreeMap.contains_eq_isSome_getElem?] at absent
          simpa using absent

/-- A made event takes a fresh number and joins the table and the queue. -/
theorem takeGeneratedId_grows {s s' : Simulator} {id : EventId} {e : Event} {action : TraceAction}
    (taken : s.takeGeneratedId = some (id, s')) (named : e.id = id) :
    Grows s ((s'.insertMade e).record action) [e] [action] := by
  unfold takeGeneratedId at taken
  rw [Option.map_eq_some_iff] at taken
  obtain ⟨⟨free, next⟩, found, same⟩ := taken
  cases same
  have absent := freeFrom_absent _ _ found
  refine ⟨rfl, rfl, rfl, rfl, rfl, rfl, rfl, ?_, ?_, ?_, ?_, ?_⟩
  · intro other
    have table : ((insertMade { s with nextEvent := next } e).record action).events =
        s.events.insert e.id e := rfl
    rw [table, OrderedMap.getElem?_insert, List.find?_singleton]
    by_cases same : e.id = other
    · simp [same]
    · simp [same]
  · intro key
    have waiting : ((insertMade { s with nextEvent := next } e).record action).queue =
        s.queue.insert e.key := rfl
    rw [waiting, OrderedSet.mem_insert]
    simp
  · intro m member
    rw [List.mem_singleton] at member
    rw [member, named]
    exact absent
  · exact List.nodup_singleton _
  · exact actions_record _ action

/-- How the faults that act share out what an event moves: as before, as the part one of them sets,
or in the pieces of a split. Only the last case can exceed the request. -/
inductive Shares (Acts : Fault → Prop) (e e' : Event) (made : List Event) : Prop
  | unchanged (alone : made = []) (moved : e'.moved = e.moved)
      (marked : e'.overDelivered = e.overDelivered)
  | part (fault : Fault) (acts : Acts fault) (amount : AssetAmount)
      (action : fault.action = .partialAmount amount) (alone : made = [])
      (moved : e'.moved = amount.raw) (marked : e'.overDelivered = false)
  | pieces (fault : Fault) (acts : Acts fault) (first : AssetAmount) (rest : List AssetAmount)
      (spacing : Unsigned 64) (action : fault.action = .split (first :: rest) spacing)
      (moved : e'.moved = first.raw) (marked : e'.overDelivered = e.overDelivered)
      -- Pieces are left out only when the event numbers run out.
      (amounts : made.map Event.moved <+: rest.map Unsigned.raw)
      (alike : ∀ m ∈ made, m.overDelivered = e.overDelivered)
  | beyond (fault : Fault) (acts : Acts fault) (amount : AssetAmount)
      (action : fault.action = .overDeliver amount)

namespace Shares

variable {Acts Acts' : Fault → Prop} {e e' e'' : Event} {made made' : List Event}

theorem imp (shares : Shares Acts e e' made) (wider : ∀ fault, Acts fault → Acts' fault) :
    Shares Acts' e e' made := by
  cases shares with
  | unchanged alone moved marked => exact .unchanged alone moved marked
  | part fault acts amount action alone moved marked =>
      exact .part fault (wider fault acts) amount action alone moved marked
  | pieces fault acts first rest spacing action moved marked amounts alike =>
      exact .pieces fault (wider fault acts) first rest spacing action moved marked amounts alike
  | beyond fault acts amount action => exact .beyond fault (wider fault acts) amount action

/-- Two batches share out once: a second fault of the content group would clash with the first. -/
theorem trans (first : Shares Acts e e' made) (second : Shares Acts' e' e'' made')
    (apart : ∀ a b, Acts a → Acts' b → a.action.group ≠ b.action.group) :
    Shares (fun fault => Acts fault ∨ Acts' fault) e e'' (made ++ made') := by
  cases second with
  | beyond fault acts amount action => exact .beyond fault (.inr acts) amount action
  | unchanged alone moved marked =>
      rw [alone, List.append_nil]
      cases first with
      | unchanged alone' moved' marked' =>
          exact .unchanged alone' (moved.trans moved') (marked.trans marked')
      | part fault acts amount action alone' moved' marked' =>
          exact .part fault (.inl acts) amount action alone' (moved.trans moved')
            (marked.trans marked')
      | pieces fault acts head rest spacing action moved' marked' amounts alike =>
          exact .pieces fault (.inl acts) head rest spacing action (moved.trans moved')
            (marked.trans marked') amounts alike
      | beyond fault acts amount action => exact .beyond fault (.inl acts) amount action
  | part fault acts amount action alone moved marked =>
      cases first with
      | unchanged alone' moved' marked' =>
          rw [alone, alone']
          exact .part fault (.inr acts) amount action rfl moved marked
      | beyond fault' acts' amount' action' => exact .beyond fault' (.inl acts') amount' action'
      | part fault' acts' amount' action' | pieces fault' acts' _ _ _ action' =>
          refine absurd ?_ (apart fault' fault acts' acts)
          rw [action, action']
          rfl
  | pieces fault acts head rest spacing action moved marked amounts alike =>
      cases first with
      | unchanged alone' moved' marked' =>
          rw [alone', List.nil_append]
          refine .pieces fault (.inr acts) head rest spacing action moved (marked.trans marked')
            amounts ?_
          intro m member
          exact (alike m member).trans marked'
      | beyond fault' acts' amount' action' => exact .beyond fault' (.inl acts') amount' action'
      | part fault' acts' amount' action' | pieces fault' acts' _ _ _ action' =>
          refine absurd ?_ (apart fault' fault acts' acts)
          rw [action, action']
          rfl

end Shares

/-- The passes of these faults, over endpoints that all meet `Aim`: the event in hand bends, and the
events of `made` come from it. -/
structure Composed (Aim : EndpointId → Prop) (faults : List Fault) (c c' : Composition)
    (made : List Event) (logged : List TraceAction) : Prop where
  grows : Grows c.sim c'.sim made logged
  bends : Event.Bends c.event c'.event
  spawns : ∀ m ∈ made, Event.Spawns c.event m
  aimed : Aim c'.event.destination
  madeAimed : ∀ m ∈ made, Aim m.destination
  bounded : made.length ≤ (faults.map fun fault => fault.action.fanout).sum
  quiet : ∀ action ∈ logged, action.attempted = none
  -- Without copies, what was made are the pieces the trace names.
  linked : (∀ fault ∈ faults, fault.action.group ≠ .fanout) →
    logged.filterMap TraceAction.pieceLink = made.map fun m => (c.event.id, m.id)
  shares : c.event.lane = .asset → (∀ fault ∈ faults, fault.action.group ≠ .fanout) →
    (faults.Pairwise fun a b => a.action.group ≠ b.action.group) →
    Shares (fun fault => fault ∈ faults) c.event c'.event made

namespace Composed

variable {Aim : EndpointId → Prop} {faults faults' : List Fault} {c c' c'' : Composition}
  {made made' : List Event} {logged logged' : List TraceAction}

theorem refl (aimed : Aim c.event.destination) : Composed Aim [] c c [] [] where
  grows := Grows.refl _
  bends := Event.Bends.refl _
  spawns := List.forall_mem_nil _
  aimed := aimed
  madeAimed := List.forall_mem_nil _
  bounded := Nat.le_refl 0
  quiet := List.forall_mem_nil _
  linked _ := rfl
  shares _ _ _ := .unchanged rfl rfl rfl

theorem trans (first : Composed Aim faults c c' made logged)
    (second : Composed Aim faults' c' c'' made' logged') :
    Composed Aim (faults ++ faults') c c'' (made ++ made') (logged ++ logged') where
  grows := first.grows.trans second.grows
  bends := first.bends.trans second.bends
  spawns := by
    intro m member
    rcases List.mem_append.mp member with inside | inside
    · exact first.spawns m inside
    · exact first.bends.spawns (second.spawns m inside)
  aimed := second.aimed
  madeAimed := by
    intro m member
    rcases List.mem_append.mp member with inside | inside
    · exact first.madeAimed m inside
    · exact second.madeAimed m inside
  bounded := by
    have left := first.bounded
    have right := second.bounded
    rw [List.length_append, List.map_append, List.sum_append]
    omega
  quiet := by
    intro action member
    rcases List.mem_append.mp member with inside | inside
    · exact first.quiet action inside
    · exact second.quiet action inside
  linked := by
    intro single
    rw [List.forall_mem_append] at single
    rw [List.filterMap_append, first.linked single.1, second.linked single.2, List.map_append,
      first.bends.id]
  shares := by
    intro lane single apart
    rw [List.forall_mem_append] at single
    obtain ⟨left, right, across⟩ := List.pairwise_append.mp apart
    have early := first.shares lane single.1 left
    have late := second.shares (first.bends.lane.trans lane) single.2 right
    refine (early.trans late fun a b inA inB => across a inA b inB).imp ?_
    intro fault acts
    exact List.mem_append.mpr acts

/-- A pass that only bends the event and writes one record. -/
theorem bend {sim : Simulator} {e e' : Event} {delayed delayed' : Option Tick}
    {dropped dropped' : Option FaultId} {action : TraceAction} {fault : Fault}
    (bends : Event.Bends e e') (aimed : Aim e'.destination) (quiet : action.attempted = none)
    (unlinked : action.pieceLink = none)
    (shares : e.lane = .asset → Shares (fun acting => acting = fault) e e' []) :
    Composed Aim [fault] ⟨sim, e, delayed, dropped⟩ ⟨sim.record action, e', delayed', dropped'⟩ []
      [action] where
  grows := Grows.record sim action
  bends := bends
  spawns := List.forall_mem_nil _
  aimed := aimed
  madeAimed := List.forall_mem_nil _
  bounded := Nat.zero_le _
  quiet := List.forall_mem_singleton.mpr quiet
  linked _ := List.filterMap_cons_none unlinked
  shares lane _ _ := (shares lane).imp fun _ same => List.mem_singleton.mpr same

end Composed

/-- The pieces made from an event and what was written about them. -/
structure SplitInto (origin : AssetEvent) (amounts : List AssetAmount) (made : List Event)
    (logged : List TraceAction) : Prop where
  spawns : ∀ m ∈ made, Event.Spawns (.asset origin) m
  destination : ∀ m ∈ made, m.destination = origin.destination
  marked : ∀ m ∈ made, m.overDelivered = origin.overDelivered
  -- Pieces are left out only when the event numbers run out.
  amounts : made.map Event.moved <+: amounts.map Unsigned.raw
  links : logged.filterMap TraceAction.pieceLink = made.map fun m => (origin.id, m.id)
  quiet : ∀ action ∈ logged, action.attempted = none

theorem splitInto_none (origin : AssetEvent) (amounts : List AssetAmount) :
    SplitInto origin amounts [] [] where
  spawns := List.forall_mem_nil _
  destination := List.forall_mem_nil _
  marked := List.forall_mem_nil _
  amounts := List.nil_prefix
  links := rfl
  quiet := List.forall_mem_nil _

theorem splitRest_grows (origin : AssetEvent) (spacing : Unsigned 64)
    (rest : List (AssetAmount × Nat)) : ∀ s : Simulator, ∃ made logged,
      Grows s (splitRest origin spacing s rest) made logged ∧
      SplitInto origin (rest.map Prod.fst) made logged := by
  induction rest with
  | nil =>
      intro s
      exact ⟨[], [], Grows.refl s, splitInto_none origin _⟩
  | cons entry rest ih =>
      intro s
      obtain ⟨amount, position⟩ := entry
      unfold splitRest
      cases taken : s.takeGeneratedId with
      | none => exact ⟨[], [], Grows.refl s, splitInto_none origin _⟩
      | some found =>
          obtain ⟨id, s'⟩ := found
          dsimp only
          obtain ⟨made, logged, grows, pieces⟩ := ih (record (insertMade s' _) _)
          refine ⟨_ :: made, _ :: logged, (takeGeneratedId_grows taken rfl).trans grows, ?_⟩
          exact {
            spawns := List.forall_mem_cons.mpr
              ⟨⟨⟨rfl, rfl, rfl, rfl, rfl, rfl⟩, rfl, rfl⟩, pieces.spawns⟩
            destination := List.forall_mem_cons.mpr ⟨rfl, pieces.destination⟩
            marked := List.forall_mem_cons.mpr ⟨rfl, pieces.marked⟩
            amounts := List.cons_prefix_cons.mpr ⟨rfl, pieces.amounts⟩
            links := by
              rw [List.filterMap_cons, List.map_cons, ← pieces.links]
              rfl
            quiet := List.forall_mem_cons.mpr ⟨rfl, pieces.quiet⟩ }

theorem duplicateRest_grows (e : Event) (spacing : Unsigned 64) (rest : List Nat) :
    ∀ s : Simulator, ∃ made logged, Grows s (duplicateRest e spacing s rest) made logged ∧
      (∀ m ∈ made, Event.Spawns e m ∧ m.destination = e.destination) ∧
      made.length ≤ rest.length ∧ ∀ action ∈ logged, action.attempted = none := by
  induction rest with
  | nil =>
      intro s
      exact ⟨[], [], Grows.refl s, List.forall_mem_nil _, Nat.le_refl 0, List.forall_mem_nil _⟩
  | cons index rest ih =>
      intro s
      unfold duplicateRest
      cases taken : s.takeGeneratedId with
      | none =>
          exact ⟨[], [], Grows.refl s, List.forall_mem_nil _, Nat.zero_le _, List.forall_mem_nil _⟩
      | some found =>
          obtain ⟨id, s'⟩ := found
          dsimp only
          obtain ⟨made, logged, grows, spawned, bounded, quiet⟩ := ih (record (insertMade s' _) _)
          refine ⟨_ :: made, _ :: logged,
            (takeGeneratedId_grows taken (Event.id_cloneForDuplicate e id _)).trans grows,
            ?_, Nat.succ_le_succ bounded, List.forall_mem_cons.mpr ⟨rfl, quiet⟩⟩
          exact List.forall_mem_cons.mpr ⟨⟨Event.spawns_cloneForDuplicate e id _,
            Event.destination_cloneForDuplicate e id _⟩, spawned⟩

/-- A pass that does nothing. -/
theorem Composed.skip {Aim : EndpointId → Prop} {c : Composition} (fault : Fault)
    (aimed : Aim c.event.destination) : Composed Aim [fault] c c [] [] where
  grows := Grows.refl _
  bends := Event.Bends.refl _
  spawns := List.forall_mem_nil _
  aimed := aimed
  madeAimed := List.forall_mem_nil _
  bounded := Nat.zero_le _
  quiet := List.forall_mem_nil _
  linked _ := rfl
  shares _ _ _ := .unchanged rfl rfl rfl

theorem corrupt_composed (keccak256 : Bytes → Bytes32) {Aim : EndpointId → Prop} {c : Composition}
    {fault : Fault} {offset : Unsigned 64} {mask : UInt8} (aimed : Aim c.event.destination) :
    ∃ made logged, Composed Aim [fault] c
      { c with
        sim := (corrupt keccak256 c.sim fault.id c.event offset mask).1
        event := (corrupt keccak256 c.sim fault.id c.event offset mask).2 } made logged := by
  obtain ⟨sim, e, delayed, dropped⟩ := c
  unfold corrupt
  cases e with
  | asset moving => exact ⟨[], [], Composed.skip fault aimed⟩
  | control sent =>
      dsimp only
      split
      · exact ⟨[], [], Composed.skip fault aimed⟩
      · refine ⟨[], _, Composed.bend ⟨⟨rfl, rfl, rfl, rfl, rfl, rfl⟩, rfl, rfl, rfl, rfl⟩ aimed
          rfl rfl ?_⟩
        intro lane
        cases lane

theorem map_fst_zipIdx_drop {α : Type} (first : α) (rest : List α) :
    ((first :: rest).zipIdx.drop 1).map Prod.fst = rest := by
  rw [List.zipIdx_cons, List.drop_succ_cons, List.drop_zero, List.zipIdx_map_fst]

theorem split_composed {Aim : EndpointId → Prop} {c : Composition} {fault : Fault}
    {pieces : List AssetAmount} {spacing : Unsigned 64} (aimed : Aim c.event.destination)
    (action : fault.action = .split pieces spacing) :
    ∃ made logged, Composed Aim [fault] c
      { c with
        sim := (c.sim.split fault.id c.event pieces spacing).1
        event := (c.sim.split fault.id c.event pieces spacing).2 } made logged := by
  obtain ⟨sim, e, delayed, dropped⟩ := c
  cases e with
  | control sent => exact ⟨[], [], Composed.skip fault aimed⟩
  | asset moving =>
      cases pieces with
      | nil => exact ⟨[], [], Composed.skip fault aimed⟩
      | cons first rest =>
          obtain ⟨made, logged, grows, into⟩ := splitRest_grows
            { moving with delivered := first, piece := some Unsigned.zero } spacing
            ((first :: rest).zipIdx.drop 1)
            (sim.recordEffect fault.id moving.id (.splitInto (saturated 16 (first :: rest).length)))
          rw [map_fst_zipIdx_drop] at into
          refine ⟨made, .faultApplied fault.id moving.id
            (.splitInto (saturated 16 (first :: rest).length)) :: logged,
            ⟨?_, ?_, ?_, ?_, ?_, ?_, ?_, ?_, ?_⟩⟩
          · exact (Grows.record sim _).trans grows
          · exact ⟨⟨rfl, rfl, rfl, rfl, rfl, rfl⟩, rfl, rfl, rfl, rfl⟩
          · intro m member
            have spawned := into.spawns m member
            exact ⟨⟨spawned.lane, spawned.source, spawned.intendedDestination, spawned.deadline,
              spawned.transferId, spawned.requested⟩, spawned.status, spawned.madeByFault⟩
          · exact aimed
          · intro m member
            rw [into.destination m member]
            exact aimed
          · have counted := into.amounts.length_le
            rw [List.length_map, List.length_map] at counted
            rw [List.map_singleton, List.sum_singleton, action]
            exact Nat.le_succ_of_le counted
          · exact List.forall_mem_cons.mpr ⟨rfl, into.quiet⟩
          · intro _
            rw [List.filterMap_cons_none rfl, into.links]
            rfl
          · intro _ _ _
            exact .pieces fault List.mem_cons_self first rest spacing action rfl rfl into.amounts
              into.marked

theorem duplicate_composed {Aim : EndpointId → Prop} {c : Composition} {fault : Fault}
    {copies : Unsigned 16} {spacing : Unsigned 64} (aimed : Aim c.event.destination)
    (action : fault.action = .duplicate copies spacing) :
    ∃ made logged, Composed Aim [fault] c
      { c with sim := c.sim.duplicate fault.id c.event copies spacing } made logged := by
  obtain ⟨sim, e, delayed, dropped⟩ := c
  obtain ⟨made, logged, grows, spawned, bounded, quiet⟩ := duplicateRest_grows e spacing
    (List.range' 1 copies.raw) (sim.recordEffect fault.id e.id (.duplicated copies))
  refine ⟨made, .faultApplied fault.id e.id (.duplicated copies) :: logged, ⟨?_, ?_, ?_, ?_, ?_, ?_, ?_, ?_, ?_⟩⟩
  · exact (Grows.record sim _).trans grows
  · exact Event.Bends.refl e
  · intro m member
    exact (spawned m member).1
  · exact aimed
  · intro m member
    rw [(spawned m member).2]
    exact aimed
  · rw [List.length_range'] at bounded
    rw [List.map_singleton, List.sum_singleton, action]
    exact bounded
  · exact List.forall_mem_cons.mpr ⟨rfl, quiet⟩
  · intro single
    have group := single fault List.mem_cons_self
    rw [action] at group
    exact absurd rfl group
  · intro _ single _
    have group := single fault List.mem_cons_self
    rw [action] at group
    exact absurd rfl group

/-- One fault pass. A reroute has to aim at an endpoint that meets `Aim` too. -/
theorem applyFault_composed (keccak256 : Bytes → Bytes32) {Aim : EndpointId → Prop}
    {c : Composition} {fault : Fault} (aimed : Aim c.event.destination)
    (rerouted : ∀ endpoint, fault.action = .replaceDestination endpoint → Aim endpoint) :
    ∃ made logged, Composed Aim [fault] c (applyFault keccak256 c fault) made logged := by
  unfold applyFault
  cases action : fault.action with
  | delay ticks =>
      exact ⟨[], _, Composed.bend (Event.Bends.refl _) aimed rfl rfl fun _ =>
        .unchanged rfl rfl rfl⟩
  | drop =>
      exact ⟨[], _, Composed.bend (Event.Bends.refl _) aimed rfl rfl fun _ =>
        .unchanged rfl rfl rfl⟩
  | duplicate copies spacing => exact duplicate_composed aimed action
  | replaceDestination endpoint =>
      refine ⟨[], _, Composed.bend (Event.bends_setDestination _ endpoint) ?_ rfl rfl ?_⟩
      · rw [Event.destination_setDestination]
        exact rerouted endpoint action
      · intro _
        cases c.event <;> exact .unchanged rfl rfl rfl
  | corruptByte offset mask => exact corrupt_composed keccak256 aimed
  | partialAmount amount =>
      refine ⟨[], _, Composed.bend (Event.bends_setDelivered _ amount false) ?_ rfl rfl ?_⟩
      · rw [Event.destination_setDelivered]
        exact aimed
      · intro lane
        cases shape : c.event with
        | control sent =>
            rw [shape] at lane
            cases lane
        | asset moving => exact .part fault rfl amount action rfl rfl rfl
  | split pieces spacing => exact split_composed aimed action
  | overDeliver amount =>
      refine ⟨[], _, Composed.bend (Event.bends_setDelivered _ amount true) ?_ rfl rfl ?_⟩
      · rw [Event.destination_setDelivered]
        exact aimed
      · intro _
        exact .beyond fault rfl amount action

/-- The passes of a whole batch. -/
theorem applyFaults_composed (keccak256 : Bytes → Bytes32) (Aim : EndpointId → Prop)
    (batch : List Fault) : ∀ c : Composition, Aim c.event.destination →
      (∀ fault ∈ batch, ∀ endpoint, fault.action = .replaceDestination endpoint → Aim endpoint) →
      ∃ made logged,
        Composed Aim batch c (batch.foldl (applyFault keccak256) c) made logged := by
  induction batch with
  | nil =>
      intro c aimed _
      exact ⟨[], [], Composed.refl aimed⟩
  | cons fault rest ih =>
      intro c aimed rerouted
      rw [List.forall_mem_cons] at rerouted
      obtain ⟨made, logged, first⟩ := applyFault_composed keccak256 aimed rerouted.1
      obtain ⟨made', logged', later⟩ := ih (applyFault keccak256 c fault) first.aimed rerouted.2
      exact ⟨made ++ made', logged ++ logged', first.trans later⟩

/-- A batch that passes its check names every group once, and each of its actions fits. -/
theorem checkBatchFrom_none {s : Simulator} {e : Event} (batch : List Fault) :
    ∀ groups, checkBatchFrom s e groups batch = none →
      (∀ fault ∈ batch, fault.action.group ∉ groups ∧ s.checkAction fault.action e = none) ∧
      batch.Pairwise fun a b => a.action.group ≠ b.action.group := by
  induction batch with
  | nil =>
      intro groups _
      exact ⟨List.forall_mem_nil _, List.Pairwise.nil⟩
  | cons fault rest ih =>
      intro groups passed
      unfold checkBatchFrom at passed
      split at passed
      · cases passed
      · rename_i unseen
        split at passed
        · cases passed
        · rename_i fits
          obtain ⟨members, apart⟩ := ih _ passed
          have new : fault.action.group ∉ groups := by simpa using unseen
          refine ⟨List.forall_mem_cons.mpr ⟨⟨new, fits⟩, ?_⟩, List.pairwise_cons.mpr ⟨?_, apart⟩⟩
          · intro other member
            obtain ⟨outside, fitting⟩ := members other member
            exact ⟨fun inside => outside (List.mem_append_left _ inside), fitting⟩
          · intro other member same
            apply (members other member).1
            rw [← same]
            exact List.mem_append_right _ List.mem_cons_self

theorem checkAction_replaceDestination {s : Simulator} {e : Event} {endpoint : EndpointId} :
    s.checkAction (.replaceDestination endpoint) e = none ↔ endpoint ∈ s.endpoints := by
  have same : s.checkAction (.replaceDestination endpoint) e =
      if s.endpoints.contains endpoint then none else some .unknownEndpoint := by
    cases e <;> rfl
  rw [same, ← Std.ExtTreeMap.contains_iff_mem]
  split <;> simp_all

/-- The state in which the faults of an event are being decided. -/
def deciding (s : Simulator) (e : Event) : Simulator :=
  { s with resolved := s.resolved.insert e.id }

/-- The passes of the faults in force, all of them. -/
def composition (keccak256 : Bytes → Bytes32) (s : Simulator) (e : Event) : Composition :=
  ((s.deciding e).pendingFaults e).foldl (applyFault keccak256) ⟨s.deciding e, e, none, none⟩

/-- The faults of an event are decided once: it goes on as it is, its batch is refused, or the
passes run. -/
theorem compose_cases (keccak256 : Bytes → Bytes32) (s : Simulator) (e : Event) :
    (e.id ∈ s.resolved ∧ compose keccak256 s e = (.proceed, s, e)) ∨
    (e.id ∉ s.resolved ∧ ∃ fault reason,
      (s.deciding e).checkBatch ((s.deciding e).pendingFaults e) e = some (fault, reason) ∧
      compose keccak256 s e =
        (.rejected reason, (s.deciding e).record (.faultRejected fault e.id reason), e)) ∨
    (e.id ∉ s.resolved ∧ (s.deciding e).checkBatch ((s.deciding e).pendingFaults e) e = none ∧
      compose keccak256 s e = ((composition keccak256 s e).outcome,
        (composition keccak256 s e).sim, (composition keccak256 s e).event)) := by
  unfold compose
  by_cases decided : e.id ∈ s.resolved
  · rw [if_pos (Std.ExtTreeSet.contains_iff_mem.mpr decided)]
    exact .inl ⟨decided, rfl⟩
  · rw [if_neg (fun found => decided (Std.ExtTreeSet.contains_iff_mem.mp found))]
    dsimp only
    right
    split
    · rename_i empty
      have none : (s.deciding e).pendingFaults e = [] := List.isEmpty_iff.mp empty
      refine .inr ⟨decided, ?_, ?_⟩
      · rw [none]
        rfl
      · unfold composition
        rw [none]
        rfl
    · split
      · rename_i fault reason refused
        exact .inl ⟨decided, fault, reason, refused, rfl⟩
      · rename_i passed
        exact .inr ⟨decided, passed, rfl⟩

/-- How many events the faults in force declare for one event. -/
def declared (s : Simulator) (e : Event) : Nat :=
  (((FaultPlan.iter s.plan).filter fun fault => fault.target.matchesEvent e).map
    fun fault => fault.action.fanout).sum

theorem sum_filter_fanout_le (faults : List Fault) (keep : Fault → Bool) :
    ((faults.filter keep).map fun fault => fault.action.fanout).sum ≤
      (faults.map fun fault => fault.action.fanout).sum := by
  induction faults with
  | nil => exact Nat.le_refl 0
  | cons fault rest ih =>
      rw [List.filter_cons]
      split
      · rw [List.map_cons, List.map_cons, List.sum_cons, List.sum_cons]
        omega
      · rw [List.map_cons, List.sum_cons]
        omega

/-- The faults that run on an event add at most what is declared for it. -/
theorem pendingFaults_fanout_le (s : Simulator) (e : Event) :
    ((s.pendingFaults e).map fun fault => fault.action.fanout).sum ≤ s.declared e := by
  have total := ((FaultPlan.matching_perm s.plan e).map fun fault => fault.action.fanout).sum_eq
  have part := sum_filter_fanout_le (FaultPlan.matching s.plan e) fun fault =>
    !(e.madeByFault && fault.action.createsEvents)
  unfold declared
  rw [← total]
  exact part

theorem declared_le_planFanout (s : Simulator) (e : Event) : s.declared e ≤ s.planFanout :=
  sum_filter_fanout_le (FaultPlan.iter s.plan) fun fault => fault.target.matchesEvent e

/-- An event a fault made adds no further events. -/
theorem pendingFaults_fanout_of_made {s : Simulator} {e : Event} (made : e.madeByFault = true) :
    ((s.pendingFaults e).map fun fault => fault.action.fanout).sum = 0 := by
  unfold pendingFaults
  generalize FaultPlan.matching s.plan e = faults
  induction faults with
  | nil => rfl
  | cons fault rest ih =>
      rw [List.filter_cons]
      split
      · rename_i kept
        rw [List.map_cons, List.sum_cons, ih, Nat.add_zero]
        rw [made, Bool.true_and] at kept
        unfold FaultAction.createsEvents at kept
        unfold FaultAction.fanout
        split <;> simp_all
      · exact ih

/-- A fault that acts on an event: one of its batch that fits it and is alone in its group. -/
structure Acting (s : Simulator) (batch : List Fault) (e : Event) (fault : Fault) : Prop where
  member : fault ∈ batch
  fits : s.checkAction fault.action e = none
  single : ∀ other ∈ batch, other.action.group = fault.action.group → other = fault

/-- What deciding the faults of an event does, whether the batch is refused or runs. -/
theorem compose_composed (keccak256 : Bytes → Bytes32) {Aim : EndpointId → Prop} {s : Simulator}
    {e : Event} (undecided : e.id ∉ s.resolved) (aimed : Aim e.destination)
    (registered : ∀ endpoint ∈ s.endpoints, Aim endpoint) :
    ∃ made logged delayed dropped,
      Composed Aim ((s.deciding e).pendingFaults e) ⟨s.deciding e, e, none, none⟩
        ⟨(compose keccak256 s e).2.1, (compose keccak256 s e).2.2, delayed, dropped⟩ made logged ∧
      (e.lane = .asset →
        (∀ fault ∈ (s.deciding e).pendingFaults e, fault.action.group ≠ .fanout) →
        Shares (s.Acting ((s.deciding e).pendingFaults e) e) e (compose keccak256 s e).2.2 made) := by
  rcases compose_cases keccak256 s e with ⟨decided, _⟩ | ⟨_, fault, reason, _, result⟩ |
    ⟨_, passed, result⟩
  · exact absurd decided undecided
  · rw [result]
    refine ⟨[], [.faultRejected fault e.id reason], none, none, ?_, ?_⟩
    · exact {
        grows := Grows.record _ _
        bends := Event.Bends.refl e
        spawns := List.forall_mem_nil _
        aimed := aimed
        madeAimed := List.forall_mem_nil _
        bounded := Nat.zero_le _
        quiet := List.forall_mem_singleton.mpr rfl
        linked := fun _ => rfl
        shares := fun _ _ _ => .unchanged rfl rfl rfl }
    · intro _ _
      exact .unchanged rfl rfl rfl
  · rw [result]
    obtain ⟨members, apart⟩ := checkBatchFrom_none _ [] passed
    have rerouted : ∀ fault ∈ (s.deciding e).pendingFaults e, ∀ endpoint,
        fault.action = .replaceDestination endpoint → Aim endpoint := by
      intro fault member endpoint action
      have fits := (members fault member).2
      rw [action, checkAction_replaceDestination] at fits
      exact registered endpoint fits
    obtain ⟨made, logged, composed⟩ := applyFaults_composed keccak256 Aim
      ((s.deciding e).pendingFaults e) ⟨s.deciding e, e, none, none⟩ aimed rerouted
    refine ⟨made, logged, _, _, composed, ?_⟩
    intro lane single
    refine (composed.shares lane single apart).imp ?_
    intro fault member
    refine ⟨member, (members fault member).2, ?_⟩
    intro other inside same
    exact List.inj_on_of_nodup_map (List.pairwise_map.mpr apart) inside member same

end Simulator

end XchainSim
