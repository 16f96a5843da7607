import Mathlib.Logic.Function.Basic
import CrossChainVault.Simulator.Identity

set_option autoImplicit false

/- The trace is the whole history. A reader who sees nothing else rebuilds the network: every event
with its place, every path that is stopped and every inbox. -/

namespace XchainSim

open Protocol (Bytes32)
open InPlace
open Result

/-- Every record carries its own position in order. -/
def Trace.indicesAreContiguous (trace : Trace) : Bool :=
  trace.zipIdx.all fun (record, position) =>
    decide (position < 2 ^ 32 ∧ position = record.index.raw)

def Subject.lane : Subject → Lane
  | message _ => .control
  | transfer _ => .asset

/-- What a reader of the trace knows of one event. -/
structure Sighting where
  -- The message the sender gave, whatever edit it carries by now, or the transfer.
  subject : Subject
  source : EndpointId
  intendedDestination : EndpointId
  destination : EndpointId
  attempts : Unsigned 32
  edit : Option (Unsigned 64 × UInt8 × UInt8)
  duplicateOf : Option EventId
  piece : Option (Unsigned 16)
  madeByFault : Bool
  status : EventStatus
deriving DecidableEq

/-- One delivery, as a reader of the trace knows it. -/
structure Receipt where
  event : EventId
  subject : Subject
  deliveredAt : Tick
  afterDeadline : Bool
deriving DecidableEq

/-- What a reader of the trace knows of the network. -/
structure Journal where
  now : Tick
  events : EventId → Option Sighting
  paused : Lane → Bool
  halted : EndpointId → Bool
  inbox : EndpointId → Lane → List Receipt

namespace Sighting

def setStatus (status : EventStatus) (e : Sighting) : Sighting := { e with status }

def bend : FaultEffect → Sighting → Sighting
  | .delayed _, e => e.setStatus .scheduled
  | .rerouted target, e => { e with destination := target }
  | .corrupted offset old new, e => { e with edit := some (offset, old, new) }
  | .splitInto _, e => { e with piece := some 0 }
  -- The record of the drop itself follows, and amounts and copies change nothing a place rests on.
  | .dropped, e | .duplicated _, e | .amountSet _, e => e

def duplicated (original : EventId) (e : Sighting) : Sighting :=
  { e with
    attempts := Unsigned.zero
    duplicateOf := some original
    madeByFault := true
    status := .scheduled }

def pieceOf (index : Unsigned 16) (e : Sighting) : Sighting :=
  { e with
    attempts := Unsigned.zero
    piece := some index
    madeByFault := true
    status := .scheduled }

end Sighting

namespace Journal

def start : Journal := ⟨0, fun _ => none, fun _ => false, fun _ => false, fun _ _ => []⟩

def note (j : Journal) (id : EventId) (e : Sighting) : Journal :=
  { j with events := Function.update j.events id (some e) }

def change (j : Journal) (id : EventId) (f : Sighting → Sighting) : Journal :=
  { j with events := Function.update j.events id ((j.events id).map f) }

/-- A new event made from a known one. -/
def spawn (j : Journal) (original made : EventId) (f : Sighting → Sighting) : Journal :=
  { j with events := Function.update j.events made ((j.events original).map f) }

/-- The event waits for its path, which has become clear. -/
def freed (j : Journal) (e : Sighting) : Bool :=
  decide (e.status = .blocked) && !j.paused e.subject.lane && !j.halted e.destination

def release (j : Journal) : Journal :=
  { j with
    events := fun id => (j.events id).map fun e =>
      if j.freed e then e.setStatus .scheduled else e }

def setHalted (j : Journal) (p : EndpointId) (halted : Bool) : Journal :=
  { j with halted := Function.update j.halted p halted }

def setPaused (j : Journal) (lane : Lane) (paused : Bool) : Journal :=
  { j with paused := Function.update j.paused lane paused }

def file (j : Journal) (p : EndpointId) (receipt : Receipt) : Journal :=
  { j with
    inbox := Function.update j.inbox p (Function.update (j.inbox p) receipt.subject.lane
      (j.inbox p receipt.subject.lane ++ [receipt])) }

/-- Takes in one record. -/
def read (j : Journal) (tick : Tick) : TraceAction → Journal
  | .eventScheduled event _ source destination subject _ =>
      j.note event ⟨subject, source, destination, destination, Unsigned.zero, none, none, none,
        false, .scheduled⟩
  | .faultApplied _ event effect => j.change event (Sighting.bend effect)
  | .tickAdvanced _ target => { j with now := target }
  | .endpointHalted p => j.setHalted p true
  | .endpointResumed p _ => (j.setHalted p false).release
  | .deliveryAttempted event _ attempts =>
      j.change event fun e => { e with attempts, status := .ready }
  | .deliveryBlocked event _ _ => j.change event (Sighting.setStatus .blocked)
  | .eventDelivered event destination subject late =>
      (j.change event (Sighting.setStatus .delivered)).file destination ⟨event, subject, tick, late⟩
  | .eventDropped event _ => j.change event (Sighting.setStatus .dropped)
  | .eventExpired event _ => j.change event (Sighting.setStatus .expired)
  | .eventRejected event _ => j.change event (Sighting.setStatus .rejectedBySimulator)
  | .duplicateCreated original made _ => j.spawn original made (Sighting.duplicated original)
  | .partialDeliveryCreated original made _ _ index =>
      j.spawn original made (Sighting.pieceOf index)
  | .lanePaused lane => j.setPaused lane true
  | .laneResumed lane _ => (j.setPaused lane false).release
  | .faultRejected _ _ _ | .eventReordered _ _ _ => j

/-- What the trace tells, from its first record to its last. -/
def replay (trace : Trace) : Journal :=
  trace.foldl (fun j record => j.read record.tick record.action) start

theorem replay_push (trace : Trace) (tick : Tick) (action : TraceAction) :
    replay (Trace.push trace tick action) = (replay trace).read tick action := by
  unfold replay Trace.push
  rw [List.foldl_append]
  rfl

section

variable (j : Journal) {id : EventId} {e : Sighting}

theorem change_note (id : EventId) (e : Sighting) (f : Sighting → Sighting) :
    (j.note id e).change id f = j.note id (f e) := by
  simp only [note, change, Function.update_self, Option.map_some, Function.update_idem]

theorem spawn_note {made : EventId} (apart : made ≠ id) (e : Sighting)
    (f : Sighting → Sighting) : (j.note id e).spawn id made f = (j.note made (f e)).note id e := by
  simp only [note, spawn, Function.update_self, Option.map_some]
  rw [Function.update_comm apart]

variable {j}

theorem change_known (known : j.events id = some e) (f : Sighting → Sighting) :
    j.change id f = j.note id (f e) := by
  simp only [note, change, known, Option.map_some]

theorem note_known (known : j.events id = some e) : j.note id e = j := by
  simp only [note, ← known, Function.update_eq_self]

end

end Journal

/-- The message the sender gave, or the transfer. -/
def Event.sentAs : Event → Subject
  | .control sent =>
      .message (sent.mutation.elim sent.messageId ByteMutation.originalMessageId)
  | .asset moving => .transfer moving.transfer

def Event.duplicateOf : Event → Option EventId
  | .control sent => sent.duplicateOf
  | .asset moving => moving.duplicateOf

def Event.piece : Event → Option (Unsigned 16)
  | .control _ => none
  | .asset moving => moving.piece

/-- The part of an event that the trace has to tell. -/
def Event.sighting (e : Event) : Sighting :=
  ⟨e.sentAs, e.source, e.intendedDestination, e.destination, e.attempts,
    e.mutation.map ByteMutation.edit, e.duplicateOf, e.piece, e.madeByFault, e.status⟩

def DeliveredControl.receipt (entry : DeliveredControl) : Receipt :=
  ⟨entry.event, .message entry.messageId, entry.deliveredAt, entry.afterDeadline⟩

def DeliveredAsset.receipt (entry : DeliveredAsset) : Receipt :=
  ⟨entry.event, .transfer entry.transfer, entry.deliveredAt, entry.afterTimeout⟩

def Endpoint.receipts (endpoint : Endpoint) : Lane → List Receipt
  | .control => endpoint.controlInbox.map DeliveredControl.receipt
  | .asset => endpoint.assetInbox.map DeliveredAsset.receipt

def haltedAt (endpoints : OrderedMap EndpointId Endpoint) (p : EndpointId) : Bool :=
  endpoints[p]?.any Endpoint.isHalted

def receiptsAt (endpoints : OrderedMap EndpointId Endpoint) (p : EndpointId) : Lane → List Receipt :=
  endpoints[p]?.elim (fun _ => []) Endpoint.receipts

/-- The part of the network that the trace has to tell. -/
def Simulator.journal (s : Simulator) : Journal where
  now := s.now
  events id := s.events[id]?.map Event.sighting
  paused lane := (s.laneState lane).isPaused
  halted := haltedAt s.endpoints
  inbox := receiptsAt s.endpoints


section

variable (endpoints : OrderedMap EndpointId Endpoint) (p : EndpointId) (endpoint : Endpoint)

theorem haltedAt_insert : haltedAt (endpoints.insert p endpoint) =
    Function.update (haltedAt endpoints) p endpoint.isHalted := by
  funext q
  rw [haltedAt, OrderedMap.getElem?_insert, Function.update_apply]
  by_cases here : p = q
  · rw [if_pos here, if_pos here.symm, Option.any_some]
  · rw [if_neg here, if_neg (Ne.symm here)]
    rfl

theorem receiptsAt_insert : receiptsAt (endpoints.insert p endpoint) =
    Function.update (receiptsAt endpoints) p endpoint.receipts := by
  funext q
  rw [receiptsAt, OrderedMap.getElem?_insert, Function.update_apply]
  by_cases here : p = q
  · rw [if_pos here, if_pos here.symm, Option.elim_some]
  · rw [if_neg here, if_neg (Ne.symm here)]
    rfl

variable {endpoints p endpoint}

theorem haltedAt_found (found : endpoints[p]? = some endpoint) :
    haltedAt endpoints p = endpoint.isHalted := by
  rw [haltedAt, found, Option.any_some]

theorem receiptsAt_found (found : endpoints[p]? = some endpoint) :
    receiptsAt endpoints p = endpoint.receipts := by
  rw [receiptsAt, found, Option.elim_some]

end

theorem Endpoint.receipts_setState (endpoint : Endpoint) (state : EndpointState) :
    (endpoint.setState state).receipts = endpoint.receipts := by
  funext lane
  cases lane <;> rfl

theorem Endpoint.receipts_receive (endpoint : Endpoint) (e : Event) (now : Tick) (late : Bool) :
    (endpoint.receive e now late).receipts = Function.update endpoint.receipts e.subject.lane
      (endpoint.receipts e.subject.lane ++ [⟨e.id, e.subject, now, late⟩]) := by
  funext lane
  cases e with
  | control sent =>
      cases lane with
      | control => exact List.map_append
      | asset => rfl
  | asset moving =>
      cases lane with
      | control => rfl
      | asset => exact List.map_append

/-- The trace tells what is in the journal, with its records numbered and in the order of time. -/
structure Simulator.Tells (s : Simulator) (j : Journal) : Prop where
  replay : Journal.replay s.trace = j
  numbered : ∀ (i : Nat) (record : TraceRecord), s.trace[i]? = some record →
    record.index = saturated 32 i
  ordered : s.trace.Pairwise fun a b => a.tick ≤ b.tick
  past : ∀ record ∈ s.trace, record.tick ≤ s.now

/-- The trace tells everything the journal of the network has. -/
def Simulator.Told (s : Simulator) : Prop := s.Tells s.journal

namespace Event

/- What the changes of an event change of its sighting. -/

section

variable (e : Event)

@[simp] theorem sighting_setStatus (status : EventStatus) :
    (e.setStatus status).sighting = e.sighting.setStatus status := by
  cases e <;> rfl

@[simp] theorem sighting_setDeliverAt (tick : Tick) :
    (e.setDeliverAt tick).sighting = e.sighting := by
  cases e <;> rfl

theorem sighting_setDestination (endpoint : EndpointId) :
    (e.setDestination endpoint).sighting = { e.sighting with destination := endpoint } := by
  cases e <;> rfl

theorem sighting_setDelivered (amount : AssetAmount) (overDelivered : Bool) :
    (setDelivered e amount overDelivered).sighting = e.sighting := by
  cases e <;> rfl

theorem sighting_cloneForDuplicate (id : EventId) (deliverAt : Tick) :
    (cloneForDuplicate e id deliverAt).sighting = e.sighting.duplicated e.id := by
  cases e <;> rfl

end

end Event

@[simp] theorem Sighting.setStatus_setStatus (e : Sighting) (first second : EventStatus) :
    (e.setStatus first).setStatus second = e.setStatus second := rfl

theorem Event.lane_sentAs (e : Event) : e.sentAs.lane = e.lane := by
  cases e <;> rfl

namespace Simulator

variable {keccak256 : Bytes → Bytes32} {s s' : Simulator} {j : Journal} {id : EventId}
  {e : Event} {status : EventStatus}

namespace Tells

variable (tells : s.Tells j)

include tells

theorem of_eq (trace : s'.trace = s.trace) (forward : s.now ≤ s'.now) : s'.Tells j where
  replay := by
    rw [trace]
    exact tells.replay
  numbered := by
    rw [trace]
    exact tells.numbered
  ordered := by
    rw [trace]
    exact tells.ordered
  past record member := by
    rw [trace] at member
    exact Nat.le_trans (tells.past record member) forward

theorem read (tick : Tick) (action : TraceAction) (trace : s'.trace = s.trace.push tick action)
    (later : s.now ≤ tick) (clock : s'.now = tick) : s'.Tells (j.read tick action) where
  replay := by
    rw [trace, Journal.replay_push, tells.replay]
  numbered i record found := by
    rw [trace, Trace.push] at found
    by_cases inside : i < s.trace.length
    · rw [List.getElem?_append_left inside] at found
      exact tells.numbered i record found
    · rw [List.getElem?_append_right (Nat.le_of_not_lt inside)] at found
      have last : i = s.trace.length := by
        have short := (List.getElem?_eq_some_iff.mp found).1
        simp at short
        omega
      rw [last, Nat.sub_self] at found
      cases found
      rw [last]
  ordered := by
    rw [trace]
    apply Endpoint.sorted_concat TraceRecord.tick tells.ordered
    intro record member
    exact Nat.le_trans (tells.past record member) later
  past record member := by
    rw [trace, Trace.push, List.mem_append] at member
    rw [clock]
    cases member with
    | inl inside => exact Nat.le_trans (tells.past record inside) later
    | inr last =>
        rw [List.mem_singleton.mp last]
        exact Nat.le_refl _

theorem record (action : TraceAction) : (s.record action).Tells (j.read s.now action) :=
  tells.read s.now action rfl (Nat.le_refl _) rfl

end Tells

/- What the writes of the network change in its journal. -/

theorem journal_of_eq (now : s'.now = s.now) (events : s'.events = s.events)
    (lanes : s'.lanes = s.lanes) (endpoints : s'.endpoints = s.endpoints) :
    s'.journal = s.journal := by
  unfold journal laneState
  rw [now, events, lanes, endpoints]

theorem journal_events : s.journal.events id = s.events[id]?.map Event.sighting := rfl

theorem journal_known (found : s.events[id]? = some e) :
    s.journal.events id = some e.sighting := by
  rw [journal_events, found]
  rfl

/-- An event is written to the table. -/
theorem journal_insertEvent (now : s'.now = s.now) (events : s'.events = s.events.insert id e)
    (lanes : s'.lanes = s.lanes) (endpoints : s'.endpoints = s.endpoints) :
    s'.journal = s.journal.note id e.sighting := by
  have table : (fun other => s'.events[other]?.map Event.sighting) =
      Function.update (fun other => s.events[other]?.map Event.sighting) id (some e.sighting) := by
    funext other
    rw [events, OrderedMap.getElem?_insert, Function.update_apply]
    by_cases here : id = other
    · rw [if_pos here, if_pos here.symm]
      rfl
    · rw [if_neg here, if_neg (Ne.symm here)]
  unfold journal laneState Journal.note
  rw [table, now, lanes, endpoints]

/-- A registered endpoint stops or runs again. -/
theorem journal_setState {p : EndpointId} {endpoint : Endpoint}
    (found : s.endpoints[p]? = some endpoint) (state : EndpointState) :
    ({ s with endpoints := s.endpoints.insert p (endpoint.setState state) } : Simulator).journal =
      s.journal.setHalted p state.isHalted := by
  unfold journal laneState Journal.setHalted
  rw [haltedAt_insert, receiptsAt_insert, Endpoint.receipts_setState, ← receiptsAt_found found,
    Function.update_eq_self]
  rfl

/-- A lane stops or runs again. -/
theorem journal_setLane (s : Simulator) (lane : Lane) (state : LaneState) :
    ({ s with lanes := s.lanes.insert lane state } : Simulator).journal =
      s.journal.setPaused lane state.isPaused := by
  have stops : (fun other => ((s.lanes.insert lane state)[other]?.getD .running).isPaused) =
      Function.update (fun other => (s.lanes[other]?.getD .running).isPaused) lane
        state.isPaused := by
    funext other
    rw [OrderedMap.getElem?_insert, Function.update_apply]
    by_cases here : lane = other
    · rw [if_pos here, if_pos here.symm]
      rfl
    · rw [if_neg here, if_neg (Ne.symm here)]
  unfold journal laneState Journal.setPaused
  rw [stops]

/-- The record of a delivery joins an inbox. -/
theorem journal_receive {p : EndpointId} {endpoint : Endpoint}
    (found : s.endpoints[p]? = some endpoint) (e : Event) (now : Tick) (late : Bool) :
    ({ s with endpoints := s.endpoints.insert p (endpoint.receive e now late) } :
      Simulator).journal = s.journal.file p ⟨e.id, e.subject, now, late⟩ := by
  unfold journal laneState Journal.file
  rw [haltedAt_insert, receiptsAt_insert, Endpoint.isHalted_receive, Endpoint.receipts_receive,
    ← haltedAt_found found, ← receiptsAt_found found, Function.update_eq_self]

end Simulator

end XchainSim
