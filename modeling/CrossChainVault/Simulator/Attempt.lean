import CrossChainVault.Simulator.Placement

set_option autoImplicit false

/- One delivery attempt takes the event in hand, lets its faults run and puts it in its next place.
Records only join the inboxes of endpoints that take deliveries, on lanes that run. -/

namespace XchainSim

open Protocol (Bytes32)

namespace Simulator

variable {s s' s'' : Simulator} {id : EventId} {e : Event}

/-- Putting the event in hand in a place makes the whole state valid again. -/
theorem InHand.close (hand : s.InHand id) (net : Carries s s')
    (table : ∀ other, other ≠ id → s'.events[other]? = s.events[other]?)
    (same : ∀ other, other ≠ id → Undisturbed s s' other)
    (placed : s'.Placed id s'.events[id]?)
    (ordered : ∀ (p : EndpointId) (endpoint : Endpoint), s'.endpoints[p]? = some endpoint →
      endpoint.Ordered s'.now) : s'.Valid where
  placed other := by
    by_cases here : other = id
    · rw [here]
      exact placed
    · rw [table other here]
      exact Placed.frame net (same other here) (hand.others other here)
  ordered := ordered

/-- The states differ only in what decides no place: the plan, the decided faults, the trace and the
next event number. -/
structure Alike (s s' : Simulator) : Prop where
  config : s'.config = s.config
  now : s'.now = s.now
  endpoints : s'.endpoints = s.endpoints
  events : s'.events = s.events
  queue : s'.queue = s.queue
  held : s'.held = s.held
  lanes : s'.lanes = s.lanes

theorem Alike.placed (alike : Alike s s') {found : Option Event} (placed : s.Placed id found) :
    s'.Placed id found := by
  have forward : s.now ≤ s'.now := by
    rw [alike.now]
    exact Nat.le_refl _
  refine Placed.frame (Carries.of_eq alike.config alike.endpoints alike.lanes forward)
    ⟨?_, ?_, ?_⟩ placed
  · intro key _
    rw [alike.queue]
  · rw [alike.held]
  · exact recordCount_of_eq alike.endpoints id

theorem Alike.valid (alike : Alike s s') (valid : s.Valid) : s'.Valid where
  placed id := by
    rw [alike.events]
    exact alike.placed (valid.placed id)
  ordered := by
    rw [alike.endpoints, alike.now]
    exact valid.ordered

theorem Alike.inHand (alike : Alike s s') (hand : s.InHand id) : s'.InHand id where
  others other away := by
    rw [alike.events]
    exact alike.placed (hand.others other away)
  loose := by
    refine hand.loose.frame ⟨?_, ?_, ?_⟩
    · intro key _
      rw [alike.queue]
    · rw [alike.held]
    · exact recordCount_of_eq alike.endpoints id
  ordered := by
    rw [alike.endpoints, alike.now]
    exact hand.ordered

theorem alike_record (s : Simulator) (action : TraceAction) : Alike s (s.record action) :=
  ⟨rfl, rfl, rfl, rfl, rfl, rfl, rfl⟩

theorem alike_deciding (s : Simulator) (e : Event) : Alike s (s.deciding e) :=
  ⟨rfl, rfl, rfl, rfl, rfl, rfl, rfl⟩

/-- The events the faults make get places of their own. -/
theorem InHand.grow {made : List Event} {logged : List TraceAction} (hand : s.InHand id)
    (known : s.events[id]? = some e) (grows : Grows s s' made logged)
    (spawns : ∀ m ∈ made, m.status = .scheduled) (aimed : ∀ m ∈ made, m.destination ∈ s.endpoints) :
    s'.InHand id := by
  have net : Carries s s' :=
    Carries.of_eq grows.config grows.endpoints grows.lanes (Nat.le_of_eq (by rw [grows.now]))
  have counts : ∀ other, s'.recordCount other = s.recordCount other :=
    recordCount_of_eq grows.endpoints
  have apart : ∀ m ∈ made, m.id ≠ id := by
    intro m member same
    have missing := grows.fresh m member
    rw [same, known] at missing
    cases missing
  refine ⟨?_, ?_, ?_⟩
  · intro other away
    rw [grows.events]
    cases found : made.find? fun m => m.id = other with
    | none =>
        rw [Option.none_or]
        refine Placed.frame net ⟨?_, by rw [grows.held], counts other⟩ (hand.others other away)
        intro key named
        rw [grows.queue]
        apply or_iff_right
        rintro ⟨m, member, rfl⟩
        rw [List.find?_eq_none] at found
        exact found m member (decide_eq_true named)
    | some m =>
        rw [Option.some_or]
        have member := List.mem_of_find?_eq_some found
        have named : m.id = other := by simpa using List.find?_some found
        -- The number was free, so nothing waits under it yet.
        have loose : s.Loose other := by
          have placed := hand.others other away
          rw [← named, grows.fresh m member, named] at placed
          exact placed
        refine ⟨named, net.known _ (aimed m member), ?_⟩
        rw [spawns m member]
        refine ⟨?_, ?_, (counts other).trans loose.unrecorded⟩
        · intro key
          rw [grows.queue]
          constructor
          · rintro ⟨⟨m', member', rfl⟩ | waiting, numbered⟩
            · have first := grows.added member'
              have second := grows.added member
              rw [named, ← numbered] at second
              cases first.symm.trans second
              rfl
            · exact absurd numbered (loose.unqueued key waiting)
          · rintro rfl
            exact ⟨.inl ⟨m, member, rfl⟩, named⟩
        · rw [grows.held]
          exact loose.unheld
  · refine ⟨?_, ?_, (counts id).trans hand.loose.unrecorded⟩
    · intro key waiting
      rw [grows.queue] at waiting
      rcases waiting with ⟨m, member, rfl⟩ | waiting
      · exact apart m member
      · exact hand.loose.unqueued key waiting
    · rw [grows.held]
      exact hand.loose.unheld
  · intro p endpoint found
    rw [grows.endpoints] at found
    rw [grows.now]
    exact hand.ordered p endpoint found

/-- The event in hand is finished without a delivery. -/
theorem InHand.finish (hand : s.InHand id) (named : e.id = id) (known : e.destination ∈ s.endpoints)
    {status : EventStatus} (closed : status.isTerminal = true) (unsent : status ≠ .delivered)
    (action : TraceAction) : (s.finish e status action).Valid := by
  have table : (s.finish e status action).events = s.events.insert e.id (e.setStatus status) := rfl
  refine hand.close (Carries.of_eq rfl rfl rfl (Nat.le_refl _)) ?_ ?_ ?_ hand.ordered
  · intro other away
    rw [table, OrderedMap.getElem?_insert_other _ _ (named.trans_ne away.symm)]
  · intro other _
    exact ⟨fun _ _ => Iff.rfl, Iff.rfl, rfl⟩
  · have loose : (s.finish e status action).Loose id :=
      ⟨hand.loose.unqueued, hand.loose.unheld, hand.loose.unrecorded⟩
    rw [table, ← named, OrderedMap.getElem?_insert_same]
    rw [← named] at loose
    refine ⟨Event.id_setStatus e status, ?_, ?_⟩
    · rw [Event.destination_setStatus]
      exact known
    · rw [Event.status_setStatus]
      cases status <;> first | exact loose | exact absurd rfl unsent | cases closed

/-- The event in hand goes back into the queue. -/
theorem InHand.requeue (hand : s.InHand id) (named : e.id = id)
    (known : e.destination ∈ s.endpoints) (scheduled : e.status = .scheduled) :
    (s.insertMade e).Valid := by
  have table : (s.insertMade e).events = s.events.insert e.id e := rfl
  have waiting : (s.insertMade e).queue = s.queue.insert e.key := rfl
  refine hand.close (Carries.of_eq rfl rfl rfl (Nat.le_refl _)) ?_ ?_ ?_ hand.ordered
  · intro other away
    rw [table, OrderedMap.getElem?_insert_other _ _ (named.trans_ne away.symm)]
  · intro other away
    refine ⟨?_, Iff.rfl, rfl⟩
    intro key numbered
    rw [waiting, OrderedSet.mem_insert]
    apply or_iff_right
    rintro rfl
    exact away (numbered.symm.trans named)
  · rw [table, ← named, OrderedMap.getElem?_insert_same]
    refine ⟨rfl, known, ?_⟩
    rw [scheduled]
    refine ⟨?_, ?_, ?_⟩
    · intro key
      rw [waiting, OrderedSet.mem_insert]
      constructor
      · rintro ⟨rfl | inside, numbered⟩
        · rfl
        · exact absurd (numbered.trans named) (hand.loose.unqueued key inside)
      · rintro rfl
        exact ⟨.inl rfl, rfl⟩
    · rw [named]
      exact hand.loose.unheld
    · rw [named]
      exact hand.loose.unrecorded

/-- The event in hand is held, since its path is not clear. -/
theorem InHand.block (hand : s.InHand id) (named : e.id = id) (known : e.destination ∈ s.endpoints)
    (stopped : s.clear e = false) (reason : BlockReason) : (s.block e reason).Valid := by
  have table : (s.block e reason).events = s.events.insert e.id (e.setStatus .blocked) := rfl
  have holding : (s.block e reason).held = s.held.insert e.id := rfl
  refine hand.close (Carries.of_eq rfl rfl rfl (Nat.le_refl _)) ?_ ?_ ?_ hand.ordered
  · intro other away
    rw [table, OrderedMap.getElem?_insert_other _ _ (named.trans_ne away.symm)]
  · intro other away
    refine ⟨fun _ _ => Iff.rfl, ?_, rfl⟩
    rw [holding, OrderedSet.mem_insert]
    exact or_iff_right fun same => away (same.trans named)
  · rw [table, ← named, OrderedMap.getElem?_insert_same]
    refine ⟨Event.id_setStatus e _, ?_, ?_⟩
    · rw [Event.destination_setStatus]
      exact known
    · rw [Event.status_setStatus]
      refine ⟨?_, ?_, ?_, ?_⟩
      · rw [named]
        exact hand.loose.unqueued
      · rw [holding, OrderedSet.mem_insert]
        exact .inl rfl
      · unfold clear at stopped ⊢
        rw [Event.lane_setStatus, Event.destination_setStatus]
        exact stopped
      · rw [named]
        exact hand.loose.unrecorded

theorem changeEndpoint_some {p : EndpointId} {endpoint : Endpoint} (change : Endpoint → Endpoint)
    (found : s.endpoints[p]? = some endpoint) :
    s.changeEndpoint p change = { s with endpoints := s.endpoints.insert p (change endpoint) } := by
  unfold changeEndpoint
  rw [found]

theorem mem_endpoints_insert {p q : EndpointId} {endpoint : Endpoint} :
    q ∈ s.endpoints.insert p endpoint ↔ p = q ∨ q ∈ s.endpoints := by
  rw [Std.ExtTreeMap.mem_insert, Std.LawfulEqCmp.compare_eq_iff_eq]

/-- The state after one endpoint was changed in a way that keeps its records. -/
theorem Carries.of_endpoint {p : EndpointId} {endpoint endpoint' : Endpoint}
    (found : s.endpoints[p]? = some endpoint)
    (stays : endpoint.isHalted = true → endpoint'.isHalted = true)
    (keeps : ∀ e moment late, endpoint.Keeps e moment late → endpoint'.Keeps e moment late)
    (config : s'.config = s.config) (endpoints : s'.endpoints = s.endpoints.insert p endpoint')
    (lanes : s'.lanes = s.lanes) (now : s'.now = s.now) : Carries s s' where
  known q member := by
    rw [endpoints, mem_endpoints_insert]
    exact .inr member
  stopped e _ blocked := by
    unfold clear laneState at blocked ⊢
    rw [lanes, endpoints, OrderedMap.getElem?_insert]
    split
    · rename_i here
      rw [← here, found, Option.any_some] at blocked
      rw [Option.any_some]
      cases paused : (s.lanes[e.lane]?.getD LaneState.running).isPaused with
      | true => rfl
      | false =>
          rw [paused] at blocked
          have halted : endpoint.isHalted = true := by simpa using blocked
          rw [stays halted]
          rfl
    · exact blocked
  recorded e := by
    rintro ⟨holder, moment, late, there, held, timely, past⟩
    rw [Recorded, config, endpoints, now]
    by_cases here : p = e.destination
    · rw [← here, found] at there
      cases there
      refine ⟨endpoint', moment, late, ?_, keeps e moment late held, timely, past⟩
      rw [← here, OrderedMap.getElem?_insert_same]
    · refine ⟨holder, moment, late, ?_, held, timely, past⟩
      rw [OrderedMap.getElem?_insert_other _ _ here]
      exact there

/-- Every inbox only grows, by records of this moment or later, on a path that stays open. -/
structure Delivers (s s' : Simulator) : Prop where
  config : s'.config = s.config
  lanes : s'.lanes = s.lanes
  forward : s.now ≤ s'.now
  known : ∀ p : EndpointId, p ∈ s'.endpoints ↔ p ∈ s.endpoints
  inboxes : ∀ (p : EndpointId) (endpoint : Endpoint), s.endpoints[p]? = some endpoint →
    ∃ (endpoint' : Endpoint) (controls : List DeliveredControl) (assets : List DeliveredAsset),
      s'.endpoints[p]? = some endpoint' ∧ endpoint'.isHalted = endpoint.isHalted ∧
      endpoint'.controlInbox = endpoint.controlInbox ++ controls ∧
      endpoint'.assetInbox = endpoint.assetInbox ++ assets ∧
      (∀ entry ∈ controls, s.now ≤ entry.deliveredAt ∧ endpoint.isHalted = false ∧
        (s.laneState .control).isPaused = false) ∧
      ∀ entry ∈ assets, s.now ≤ entry.deliveredAt ∧ endpoint.isHalted = false ∧
        (s.laneState .asset).isPaused = false

theorem Delivers.of_eq (config : s'.config = s.config) (endpoints : s'.endpoints = s.endpoints)
    (lanes : s'.lanes = s.lanes) (forward : s.now ≤ s'.now) : Delivers s s' where
  config := config
  lanes := lanes
  forward := forward
  known p := by rw [endpoints]
  inboxes p endpoint found := by
    refine ⟨endpoint, [], [], ?_, rfl, ?_, ?_, List.forall_mem_nil _, List.forall_mem_nil _⟩
    · rw [endpoints]
      exact found
    · rw [List.append_nil]
    · rw [List.append_nil]

theorem Delivers.trans (first : Delivers s s') (second : Delivers s' s'') : Delivers s s'' where
  config := second.config.trans first.config
  lanes := second.lanes.trans first.lanes
  forward := Nat.le_trans first.forward second.forward
  known p := (second.known p).trans (first.known p)
  inboxes p endpoint found := by
    obtain ⟨endpoint', controls, assets, found', halted, control, asset, open₁, open₂⟩ :=
      first.inboxes p endpoint found
    obtain ⟨endpoint'', controls', assets', found'', halted', control', asset', open₁', open₂'⟩ :=
      second.inboxes p endpoint' found'
    have lane : ∀ way, s'.laneState way = s.laneState way := by
      intro way
      unfold laneState
      rw [first.lanes]
    refine ⟨endpoint'', controls ++ controls', assets ++ assets', found'', halted'.trans halted,
      ?_, ?_, ?_, ?_⟩
    · rw [control', control, List.append_assoc]
    · rw [asset', asset, List.append_assoc]
    · intro entry member
      rcases List.mem_append.mp member with inside | inside
      · exact open₁ entry inside
      · obtain ⟨after, active, runs⟩ := open₁' entry inside
        exact ⟨Nat.le_trans first.forward after, halted ▸ active, lane .control ▸ runs⟩
    · intro entry member
      rcases List.mem_append.mp member with inside | inside
      · exact open₂ entry inside
      · obtain ⟨after, active, runs⟩ := open₂' entry inside
        exact ⟨Nat.le_trans first.forward after, halted ▸ active, lane .asset ▸ runs⟩

/-- The event in hand is delivered over a clear path. -/
theorem InHand.handOver (hand : s.InHand id) (named : e.id = id) {endpoint : Endpoint}
    (found : s.endpoints[e.destination]? = some endpoint) {late : Bool}
    (timely : Timely s.config e s.now late) : (s.handOver e late).Valid := by
  let endpoint' := endpoint.receive e s.now late
  have result : s.handOver e late =
      { s with endpoints := s.endpoints.insert e.destination endpoint' }.finish e .delivered
        (.eventDelivered e.id e.destination e.subject late) := by
    unfold Simulator.handOver
    rw [changeEndpoint_some _ found]
  have table : (s.handOver e late).events = s.events.insert e.id (e.setStatus .delivered) := by
    rw [result]
    rfl
  have network : (s.handOver e late).endpoints = s.endpoints.insert e.destination endpoint' := by
    rw [result]
    rfl
  have counts : ∀ other, (s.handOver e late).recordCount other =
      s.recordCount other + if e.id = other then 1 else 0 := by
    intro other
    unfold recordCount
    rw [network]
    have balance := OrderedMap.sumOf_insert_replace s.endpoints
      (fun _ endpoint => endpoint.recordCount other) e.destination endpoint' endpoint found
    rw [Endpoint.recordCount_receive] at balance
    omega
  have keys : (s.handOver e late).queue = s.queue := by
    rw [result]
    rfl
  have holding : (s.handOver e late).held = s.held := by
    rw [result]
    rfl
  have clock : (s.handOver e late).now = s.now := by
    rw [result]
    rfl
  have settings : (s.handOver e late).config = s.config := by
    rw [result]
    rfl
  have net : Carries s (s.handOver e late) := by
    refine Carries.of_endpoint found ?_ ?_ settings network ?_ clock
    · rw [Endpoint.isHalted_receive]
      exact fun halted => halted
    · intro other moment marked keeps
      exact keeps.receive e s.now late
    · rw [result]
      rfl
  refine hand.close net ?_ ?_ ?_ ?_
  · intro other away
    rw [table, OrderedMap.getElem?_insert_other _ _ (named.trans_ne away.symm)]
  · intro other away
    refine ⟨fun _ _ => by rw [keys], by rw [holding], ?_⟩
    rw [counts, if_neg (named.trans_ne away.symm), Nat.add_zero]
  · rw [table, ← named, OrderedMap.getElem?_insert_same]
    refine ⟨Event.id_setStatus e _, ?_, ?_⟩
    · rw [Event.destination_setStatus, network, mem_endpoints_insert]
      exact .inl rfl
    · rw [Event.status_setStatus]
      refine ⟨?_, ?_, ?_, ?_⟩
      · rw [keys, named]
        exact hand.loose.unqueued
      · rw [holding, named]
        exact hand.loose.unheld
      · rw [counts, if_pos rfl, named, hand.loose.unrecorded]
      · refine ⟨endpoint', s.now, late, ?_, ?_, ?_, ?_⟩
        · rw [Event.destination_setStatus, network, OrderedMap.getElem?_insert_same]
        · have keeps := Endpoint.keeps_receive endpoint e s.now late
          cases e <;> exact keeps
        · rw [settings]
          refine ⟨?_, ?_, ?_⟩
          · rw [Event.deliverAt_setStatus]
            exact timely.due
          · rw [Event.deadline_setStatus]
            exact timely.marked
          · rw [Event.lane_setStatus]
            exact timely.unexpired
        · rw [clock]
          exact Nat.le_refl _
  · intro p holder there
    rw [network, OrderedMap.getElem?_insert] at there
    rw [clock]
    split at there
    · cases there
      exact (hand.ordered _ endpoint found).receive e late
    · exact hand.ordered p holder there

theorem handOver_delivers {endpoint : Endpoint} (found : s.endpoints[e.destination]? = some endpoint)
    (active : endpoint.isHalted = false) (runs : (s.laneState e.lane).isPaused = false)
    (late : Bool) : Delivers s (s.handOver e late) := by
  have result : s.handOver e late =
      { s with
        endpoints := s.endpoints.insert e.destination (endpoint.receive e s.now late) }.finish e
        .delivered (.eventDelivered e.id e.destination e.subject late) := by
    unfold handOver
    rw [changeEndpoint_some _ found]
  rw [result]
  refine ⟨rfl, rfl, Nat.le_refl _, ?_, ?_⟩
  · intro p
    refine mem_endpoints_insert.trans (or_iff_right_of_imp ?_)
    rintro rfl
    rw [Std.ExtTreeMap.mem_iff_isSome_getElem?, found]
    rfl
  · intro p holder there
    have network : ({ s with
        endpoints := s.endpoints.insert e.destination
          (endpoint.receive e s.now late) }.finish e .delivered
        (.eventDelivered e.id e.destination e.subject late)).endpoints[p]? =
        (s.endpoints.insert e.destination (endpoint.receive e s.now late))[p]? := rfl
    rw [network]
    by_cases here : e.destination = p
    · rw [← here, found] at there
      cases there
      rw [← here, OrderedMap.getElem?_insert_same]
      cases e with
      | control sent =>
          refine ⟨_, [sent.deliveredRecord s.now late], [], rfl, Endpoint.isHalted_receive _ _ _ _,
            rfl, (List.append_nil _).symm, ?_, List.forall_mem_nil _⟩
          intro entry member
          rw [List.mem_singleton.mp member]
          exact ⟨Nat.le_refl _, active, runs⟩
      | asset moving =>
          refine ⟨_, [], [moving.deliveredRecord s.now late], rfl, Endpoint.isHalted_receive _ _ _ _,
            (List.append_nil _).symm, rfl, List.forall_mem_nil _, ?_⟩
          intro entry member
          rw [List.mem_singleton.mp member]
          exact ⟨Nat.le_refl _, active, runs⟩
    · rw [OrderedMap.getElem?_insert_other _ _ here]
      exact (Delivers.of_eq rfl rfl rfl (Nat.le_refl _)).inboxes p holder there

/-- The path and the deadline decide where an event that is due ends up. -/
theorem InHand.arrive (hand : s.InHand id) (named : e.id = id) (known : e.destination ∈ s.endpoints)
    (due : e.deliverAt ≤ s.now) : (s.arrive e).Valid ∧ Delivers s (s.arrive e) := by
  unfold Simulator.arrive
  cases paused : (s.laneState e.lane).isPaused with
  | true =>
      rw [if_pos rfl]
      refine ⟨hand.block named known ?_ _, Delivers.of_eq rfl rfl rfl (Nat.le_refl _)⟩
      unfold clear
      rw [paused]
      rfl
  | false =>
      rw [if_neg Bool.false_ne_true]
      cases found : s.endpoints[e.destination]? with
      | none =>
          rw [Std.ExtTreeMap.mem_iff_isSome_getElem?, found] at known
          cases known
      | some endpoint =>
          dsimp only
          cases halted : endpoint.isHalted with
          | true =>
              rw [if_pos rfl]
              refine ⟨hand.block named known ?_ _, Delivers.of_eq rfl rfl rfl (Nat.le_refl _)⟩
              unfold clear
              rw [found, Option.any_some, halted, Bool.not_true, Bool.and_false]
          | false =>
              rw [if_neg Bool.false_ne_true]
              have delivers := handOver_delivers found halted paused
              cases deadline : e.deadline with
              | none =>
                  refine ⟨hand.handOver named found ⟨due, ?_, fun _ => rfl⟩, delivers false⟩
                  rw [deadline]
                  rfl
              | some limit =>
                  dsimp only
                  by_cases passed : limit < s.now
                  · rw [if_pos passed]
                    cases policy : s.config.policy e.lane with
                    | expire =>
                        exact ⟨hand.finish named known rfl (by decide) _,
                          Delivers.of_eq rfl rfl rfl (Nat.le_refl _)⟩
                    | deliverWithMarker =>
                        refine ⟨hand.handOver named found ⟨due, ?_, ?_⟩, delivers true⟩
                        · rw [deadline, Option.any_some, decide_eq_true passed]
                        · intro expire
                          cases policy.symm.trans expire
                  · rw [if_neg passed]
                    refine ⟨hand.handOver named found ⟨due, ?_, fun _ => rfl⟩, delivers false⟩
                    rw [deadline, Option.any_some, decide_eq_false passed]

theorem InHand.conclude (hand : s.InHand id) (named : e.id = id)
    (known : e.destination ∈ s.endpoints) (due : e.deliverAt ≤ s.now) (outcome : Outcome) :
    (s.conclude e outcome).Valid ∧ Delivers s (s.conclude e outcome) := by
  cases outcome with
  | proceed => exact hand.arrive named known due
  | rejected reason =>
      exact ⟨hand.finish named known rfl (by decide) _, Delivers.of_eq rfl rfl rfl (Nat.le_refl _)⟩
  | dropped fault =>
      exact ⟨hand.finish named known rfl (by decide) _, Delivers.of_eq rfl rfl rfl (Nat.le_refl _)⟩
  | delayed target =>
      refine ⟨hand.requeue ?_ ?_ ?_, Delivers.of_eq rfl rfl rfl (Nat.le_refl _)⟩
      · rw [Event.id_setDeliverAt, Event.id_setStatus]
        exact named
      · rw [Event.destination_setDeliverAt, Event.destination_setStatus]
        exact known
      · rw [Event.status_setDeliverAt, Event.status_setStatus]

/-- The fault passes leave the event in hand, with the same number and tick. -/
theorem InHand.compose (keccak256 : Bytes → Bytes32) (hand : s.InHand e.id)
    (table : ∃ old, s.events[e.id]? = some old) (known : e.destination ∈ s.endpoints) :
    (compose keccak256 s e).2.1.InHand e.id ∧ Delivers s (compose keccak256 s e).2.1 ∧
      (compose keccak256 s e).2.2.id = e.id ∧ (compose keccak256 s e).2.2.deliverAt = e.deliverAt ∧
      (compose keccak256 s e).2.2.destination ∈ (compose keccak256 s e).2.1.endpoints := by
  obtain ⟨old, found⟩ := table
  by_cases decided : e.id ∈ s.resolved
  · rcases compose_cases keccak256 s e with ⟨_, result⟩ | ⟨undecided, _⟩ | ⟨undecided, _⟩
    · rw [result]
      exact ⟨hand, Delivers.of_eq rfl rfl rfl (Nat.le_refl _), rfl, rfl, known⟩
    · exact absurd decided undecided
    · exact absurd decided undecided
  · obtain ⟨made, logged, delayed, dropped, composed, _⟩ :=
      compose_composed keccak256 decided known fun _ registered => registered
    have deciding := (alike_deciding s e).inHand hand
    have grows := composed.grows
    refine ⟨?_, ?_, composed.bends.id, composed.bends.deliverAt, ?_⟩
    · refine deciding.grow found grows ?_ composed.madeAimed
      intro m member
      exact (composed.spawns m member).status
    · exact Delivers.of_eq grows.config grows.endpoints grows.lanes (Nat.le_of_eq (by rw [grows.now]; rfl))
    · have endpoints : (Simulator.compose keccak256 s e).2.1.endpoints = s.endpoints := grows.endpoints
      rw [endpoints]
      exact composed.aimed

/-- An attempt on a due event puts it in its next place. -/
theorem Valid.attempt (keccak256 : Bytes → Bytes32) (valid : s.Valid) {key : QueueKey}
    (member : key ∈ s.queue) (due : key.deliverAt ≤ s.now) :
    (attempt keccak256 { s with queue := s.queue.erase key } key.event).Valid ∧
      Delivers s (attempt keccak256 { s with queue := s.queue.erase key } key.event) := by
  obtain ⟨e, found, status, named, known, own⟩ := valid.of_queued member
  have hand := valid.take member
  unfold Simulator.attempt
  rw [found]
  dsimp only
  rw [status, if_neg (by decide)]
  generalize trying : e.bumpAttempts.setStatus .ready = ready
  have named' : ready.id = key.event := by
    rw [← trying, Event.id_setStatus, Event.id_bumpAttempts, named]
  have known' : ready.destination ∈ s.endpoints := by
    rw [← trying, Event.destination_setStatus, Event.destination_bumpAttempts]
    exact known
  have due' : ready.deliverAt ≤ s.now := by
    rw [← trying, Event.deliverAt_setStatus, Event.deliverAt_bumpAttempts]
    rw [own] at due
    exact due
  have start : (record { s with queue := s.queue.erase key }
      (.deliveryAttempted key.event ready.destination ready.attempts)).InHand ready.id := by
    rw [named']
    exact (alike_record _ _).inHand hand
  have table : ∃ old, (record { s with queue := s.queue.erase key }
      (.deliveryAttempted key.event ready.destination ready.attempts)).events[ready.id]? =
        some old := by
    rw [named']
    exact ⟨e, found⟩
  obtain ⟨hand', delivers, id', tick', known''⟩ := start.compose keccak256 table known'
  have due'' : (compose keccak256 (record { s with queue := s.queue.erase key }
      (.deliveryAttempted key.event ready.destination ready.attempts)) ready).2.2.deliverAt ≤
      (compose keccak256 (record { s with queue := s.queue.erase key }
      (.deliveryAttempted key.event ready.destination ready.attempts)) ready).2.1.now := by
    rw [tick']
    exact Nat.le_trans due' delivers.forward
  obtain ⟨valid', delivers'⟩ := hand'.conclude id' known'' due'' _
  refine ⟨valid', Delivers.trans ?_ (delivers.trans delivers')⟩
  exact Delivers.of_eq rfl rfl rfl (Nat.le_refl _)

/- An attempt takes no time. -/

theorem compose_now (keccak256 : Bytes → Bytes32) (s : Simulator) (e : Event) :
    (compose keccak256 s e).2.1.now = s.now := by
  by_cases decided : e.id ∈ s.resolved
  · rcases compose_cases keccak256 s e with ⟨_, result⟩ | ⟨undecided, _⟩ | ⟨undecided, _⟩
    · rw [result]
    · exact absurd decided undecided
    · exact absurd decided undecided
  · obtain ⟨made, logged, delayed, dropped, composed, _⟩ :=
      compose_composed keccak256 decided trivial fun _ _ => trivial
    exact composed.grows.now

theorem changeEndpoint_now (s : Simulator) (p : EndpointId) (change : Endpoint → Endpoint) :
    (s.changeEndpoint p change).now = s.now := by
  unfold changeEndpoint
  split <;> rfl

/-- The four ways an attempt can end. -/
theorem conclude_cases (s : Simulator) (e : Event) (outcome : Outcome) :
    (∃ (status : EventStatus) (action : TraceAction), status.isTerminal = true ∧
      status ≠ .delivered ∧ action.attempted = none ∧ action.pieceLink = none ∧
      s.conclude e outcome = s.finish e status action) ∨
    (∃ reason, s.conclude e outcome = s.block e reason) ∨
    (∃ late, s.conclude e outcome = s.handOver e late) ∨
    ∃ target, outcome = .delayed target ∧
      s.conclude e outcome = s.insertMade ((e.setStatus .scheduled).setDeliverAt target) := by
  have finished : ∀ (status : EventStatus) (action : TraceAction), status.isTerminal = true →
      status ≠ .delivered → action.attempted = none → action.pieceLink = none →
      ∃ (status' : EventStatus) (action' : TraceAction), status'.isTerminal = true ∧
        status' ≠ .delivered ∧ action'.attempted = none ∧ action'.pieceLink = none ∧
        s.finish e status action = s.finish e status' action' := by
    intro status action closed unsent quiet unlinked
    exact ⟨status, action, closed, unsent, quiet, unlinked, rfl⟩
  cases outcome with
  | rejected reason => exact .inl (finished _ _ rfl (by decide) rfl rfl)
  | dropped fault => exact .inl (finished _ _ rfl (by decide) rfl rfl)
  | delayed target => exact .inr (.inr (.inr ⟨target, rfl, rfl⟩))
  | proceed =>
      have arrived : s.conclude e .proceed = s.arrive e := rfl
      rw [arrived]
      unfold Simulator.arrive
      split
      · exact .inr (.inl ⟨_, rfl⟩)
      · split
        · exact .inl (finished _ _ rfl (by decide) rfl rfl)
        · split
          · exact .inr (.inl ⟨_, rfl⟩)
          · split
            · exact .inr (.inr (.inl ⟨_, rfl⟩))
            · split
              · split
                · exact .inl (finished _ _ rfl (by decide) rfl rfl)
                · exact .inr (.inr (.inl ⟨_, rfl⟩))
              · exact .inr (.inr (.inl ⟨_, rfl⟩))

theorem conclude_now (s : Simulator) (e : Event) (outcome : Outcome) :
    (s.conclude e outcome).now = s.now := by
  rcases conclude_cases s e outcome with ⟨status, action, _, _, _, _, result⟩ | ⟨reason, result⟩ |
    ⟨late, result⟩ | ⟨target, _, result⟩
  · rw [result]
    rfl
  · rw [result]
    rfl
  · rw [result]
    exact changeEndpoint_now s e.destination _
  · rw [result]
    rfl

theorem attempt_now (keccak256 : Bytes → Bytes32) (s : Simulator) (id : EventId) :
    (attempt keccak256 s id).now = s.now := by
  unfold Simulator.attempt
  split
  · rfl
  · split
    · rfl
    · dsimp only
      rw [conclude_now, compose_now]
      rfl

end Simulator

end XchainSim
