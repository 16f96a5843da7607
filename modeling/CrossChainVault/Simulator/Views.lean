import CrossChainVault.Simulator.Worth

set_option autoImplicit false

/- The reporting views read the inboxes, and agree with what the event table says was delivered. -/

namespace XchainSim

open Protocol (Bytes32)
open InPlace
open Result

namespace Simulator

/-- Every asset record, endpoint by endpoint. -/
def assetRecords (s : Simulator) : List DeliveredAsset :=
  (OrderedMap.values s.endpoints).flatMap Endpoint.assetInbox

/-- Every control record, endpoint by endpoint. -/
def controlRecords (s : Simulator) : List DeliveredControl :=
  (OrderedMap.values s.endpoints).flatMap Endpoint.controlInbox

/-- Total value delivered for one transfer, across every piece and copy. -/
def deliveredForTransfer (s : Simulator) (transfer : TransferId) : Unsigned 128 :=
  (s.assetRecords.filter fun entry => entry.transfer = transfer).foldl
    (fun total entry => total.saturatingAdd entry.delivered) Unsigned.zero

/-- Every delivery that carried one message identity. -/
def deliveriesOfMessage (s : Simulator) (message : MessageId) : List DeliveredControl :=
  s.controlRecords.filter fun entry => entry.messageId = message

/-- What an event contributed to a transfer: what it moved, once it was delivered. -/
def worthFor (transfer : TransferId) (e : Event) : Nat :=
  if e.status = .delivered ∧ e.transferId = some transfer then e.moved else 0

variable {s : Simulator} {id : EventId} {e : Event}

/-- A saturating sum stops at the last number. -/
theorem foldl_saturatingAdd {α : Type} (amount : α → Unsigned 128) (entries : List α) :
    ∀ total : Unsigned 128, (entries.foldl (fun total entry => total.saturatingAdd (amount entry))
      total).raw = min (total.raw + (entries.map fun entry => (amount entry).raw).sum)
        (2 ^ 128 - 1) := by
  induction entries with
  | nil =>
      intro total
      have bound := total.bound
      simp only [List.foldl_nil, List.map_nil, List.sum_nil]
      omega
  | cons entry rest ih =>
      intro total
      rw [List.foldl_cons, ih, Unsigned.saturatingAdd_raw, List.map_cons, List.sum_cons]
      omega

/-- How often a number is among the records is how often the inboxes hold it. -/
theorem countP_flatMap_values {α : Type} (s : Simulator) (inbox : Endpoint → List α)
    (test : α → Bool) : ((OrderedMap.values s.endpoints).flatMap inbox).countP test =
      OrderedMap.sumOf s.endpoints fun _ endpoint => (inbox endpoint).countP test := by
  rw [List.countP_flatMap, OrderedMap.values, OrderedMap.sumOf, List.map_map]
  rfl

theorem mem_flatMap_values {α : Type} {inbox : Endpoint → List α} {entry : α} :
    entry ∈ (OrderedMap.values s.endpoints).flatMap inbox ↔
      ∃ (p : EndpointId) (endpoint : Endpoint), s.endpoints[p]? = some endpoint ∧
        entry ∈ inbox endpoint := by
  rw [List.mem_flatMap]
  constructor
  · intro inside
    obtain ⟨endpoint, listed, member⟩ := inside
    obtain ⟨p, found⟩ := OrderedMap.mem_values.mp listed
    exact ⟨p, endpoint, found, member⟩
  · intro inside
    obtain ⟨p, endpoint, found, member⟩ := inside
    exact ⟨endpoint, OrderedMap.mem_values.mpr ⟨p, found⟩, member⟩

/-- No event is recorded twice. -/
theorem Valid.assetRecords_nodup (valid : s.Valid) :
    (s.assetRecords.map DeliveredAsset.event).Nodup := by
  rw [List.nodup_iff_count_le_one]
  intro id
  have once := valid.recordCount_le id
  have counted : (s.assetRecords.map DeliveredAsset.event).count id ≤ s.recordCount id := by
    rw [List.count, List.countP_map, assetRecords, countP_flatMap_values]
    apply OrderedMap.sumOf_le
    intro p endpoint _
    unfold Endpoint.recordCount
    have same : (endpoint.assetInbox.countP fun entry => entry.event = id) =
        endpoint.assetInbox.countP ((fun other => other == id) ∘ DeliveredAsset.event) := by
      congr 1
    omega
  omega

theorem Valid.controlRecords_nodup (valid : s.Valid) :
    (s.controlRecords.map DeliveredControl.event).Nodup := by
  rw [List.nodup_iff_count_le_one]
  intro id
  have once := valid.recordCount_le id
  have counted : (s.controlRecords.map DeliveredControl.event).count id ≤ s.recordCount id := by
    rw [List.count, List.countP_map, controlRecords, countP_flatMap_values]
    apply OrderedMap.sumOf_le
    intro p endpoint _
    unfold Endpoint.recordCount
    have same : (endpoint.controlInbox.countP fun entry => entry.event = id) =
        endpoint.controlInbox.countP ((fun other => other == id) ∘ DeliveredControl.event) := by
      congr 1
    omega
  omega

/-- The asset records are those of the delivered asset events, with their content. -/
theorem Valid.mem_assetRecords (valid : s.Valid) {moving : AssetEvent}
    (found : s.events[id]? = some (.asset moving)) (status : moving.status = .delivered) :
    ∃ entry ∈ s.assetRecords, entry.event = id ∧ entry.transfer = moving.transfer ∧
      entry.delivered = moving.delivered := by
  obtain ⟨_, endpoint, moment, late, there, keeps⟩ :=
    valid.inTurn.delivered id (.asset moving) found status
  have named : moving.id = id := by
    have placed := valid.placed id
    rw [found] at placed
    exact placed.1
  exact ⟨moving.deliveredRecord moment late, mem_flatMap_values.mpr ⟨_, endpoint, there, keeps⟩,
    named, rfl, rfl⟩

theorem Valid.of_assetRecord (valid : s.Valid) {entry : DeliveredAsset}
    (member : entry ∈ s.assetRecords) : ∃ moving : AssetEvent,
      s.events[entry.event]? = some (.asset moving) ∧ moving.status = .delivered ∧
      entry.transfer = moving.transfer ∧ entry.delivered = moving.delivered := by
  obtain ⟨p, endpoint, there, inside⟩ := mem_flatMap_values.mp member
  obtain ⟨moving, found, status, _, record, _⟩ := valid.asset_record there inside
  refine ⟨moving, found, status, ?_, ?_⟩
  · rw [record]
    rfl
  · rw [record]
    rfl

theorem Valid.mem_controlRecords (valid : s.Valid) {sent : ControlEvent}
    (found : s.events[id]? = some (.control sent)) (status : sent.status = .delivered) :
    ∃ entry ∈ s.controlRecords, entry.event = id ∧ entry.messageId = sent.messageId := by
  obtain ⟨_, endpoint, moment, late, there, keeps⟩ :=
    valid.inTurn.delivered id (.control sent) found status
  have named : sent.id = id := by
    have placed := valid.placed id
    rw [found] at placed
    exact placed.1
  exact ⟨sent.deliveredRecord moment late, mem_flatMap_values.mpr ⟨_, endpoint, there, keeps⟩,
    named, rfl⟩

theorem Valid.of_controlRecord (valid : s.Valid) {entry : DeliveredControl}
    (member : entry ∈ s.controlRecords) : ∃ sent : ControlEvent,
      s.events[entry.event]? = some (.control sent) ∧ sent.status = .delivered ∧
      entry.messageId = sent.messageId := by
  obtain ⟨p, endpoint, there, inside⟩ := mem_flatMap_values.mp member
  obtain ⟨sent, found, status, _, record, _⟩ := valid.control_record there inside
  refine ⟨sent, found, status, ?_⟩
  rw [record]
  rfl

/-- The records of a transfer hold what its delivered events moved. -/
theorem Valid.sum_records (valid : s.Valid) (transfer : TransferId) :
    ((s.assetRecords.filter fun entry => entry.transfer = transfer).map
      fun entry => entry.delivered.raw).sum =
      OrderedMap.sumOf s.events fun _ e => worthFor transfer e := by
  have summed := OrderedMap.sumOf_eq_sum_names s.events (fun _ e => worthFor transfer e)
    (fun _ e => decide (e.status = .delivered ∧ e.transferId = some transfer)) (fun id => id)
    ((s.assetRecords.filter fun entry => entry.transfer = transfer).map DeliveredAsset.event)
    s.movedBy
  have distinct : ((s.assetRecords.filter fun entry => entry.transfer = transfer).map
      DeliveredAsset.event).Nodup :=
    valid.assetRecords_nodup.sublist ((List.filter_sublist).map _)
  rw [summed distinct, List.map_map]
  · congr 1
    apply List.map_congr_left
    intro entry member
    obtain ⟨moving, found, _, _, amount⟩ := valid.of_assetRecord (List.mem_of_mem_filter member)
    rw [Function.comp_apply, movedBy, found, amount]
    rfl
  · intro id e _ unselected
    rw [decide_eq_false_iff_not] at unselected
    exact if_neg unselected
  · intro id e found selected
    rw [decide_eq_true_iff] at selected
    constructor
    · cases e with
      | control sent => cases selected.2
      | asset moving =>
          obtain ⟨entry, member, named, same, _⟩ := valid.mem_assetRecords found selected.1
          apply List.mem_map.mpr
          refine ⟨entry, List.mem_filter.mpr ⟨member, ?_⟩, named⟩
          rw [decide_eq_true_iff, same]
          exact Option.some.inj selected.2
    · rw [worthFor, if_pos selected, movedBy, found]
      rfl
  · intro id member
    obtain ⟨entry, listed, named⟩ := List.mem_map.mp member
    obtain ⟨inside, same⟩ := List.mem_filter.mp listed
    obtain ⟨moving, found, status, transfers, _⟩ := valid.of_assetRecord inside
    refine ⟨id, .asset moving, ?_, ?_, rfl⟩
    · rw [← named]
      exact found
    · rw [decide_eq_true_iff] at same ⊢
      rw [transfers] at same
      exact ⟨status, congrArg some same⟩
  · intro id _ other _ _ _ _ _ same
    exact same

/-- The reporting views agree with the event table. From a new network and after any calls, the value
reported for a transfer is what its delivered events moved, up to the last number; the deliveries
reported for a message are those of its delivered events, each of them once. -/
theorem views_agree (keccak256 : Bytes → Bytes32) {config : SimulatorConfig}
    {endpoints : List EndpointId} {start : Simulator}
    (built : withConfig config endpoints = .ok start) (calls : List Call) :
    (∀ transfer, ((start.run keccak256 calls).deliveredForTransfer transfer).raw =
      min (OrderedMap.sumOf (start.run keccak256 calls).events fun _ e => worthFor transfer e)
        (2 ^ 128 - 1)) ∧
    ∀ message,
      (((start.run keccak256 calls).deliveriesOfMessage message).map
        DeliveredControl.event).Nodup ∧
      ∀ id : EventId, id ∈ ((start.run keccak256 calls).deliveriesOfMessage message).map
          DeliveredControl.event ↔
        ∃ e, (start.run keccak256 calls).events[id]? = some e ∧ e.status = .delivered ∧
          e.messageId = some message := by
  have valid := Valid.run keccak256 calls start (withConfig_valid built)
  generalize start.run keccak256 calls = s at valid ⊢
  constructor
  · intro transfer
    rw [deliveredForTransfer, foldl_saturatingAdd, valid.sum_records, Unsigned.zero_raw,
      Nat.zero_add]
  · intro message
    refine ⟨valid.controlRecords_nodup.sublist ((List.filter_sublist).map _), ?_⟩
    intro id
    rw [List.mem_map]
    constructor
    · intro reported
      obtain ⟨entry, listed, named⟩ := reported
      obtain ⟨inside, same⟩ := List.mem_filter.mp listed
      obtain ⟨sent, found, status, carried⟩ := valid.of_controlRecord inside
      rw [decide_eq_true_iff, carried] at same
      rw [named] at found
      exact ⟨.control sent, found, status, congrArg some same⟩
    · intro delivered
      obtain ⟨e, found, status, carried⟩ := delivered
      cases e with
      | asset moving => cases carried
      | control sent =>
          obtain ⟨entry, member, named, same⟩ := valid.mem_controlRecords found status
          refine ⟨entry, List.mem_filter.mpr ⟨member, ?_⟩, named⟩
          rw [decide_eq_true_iff, same]
          exact Option.some.inj carried

/-- One transfer of the sample arrives whole, and the other comes too late. -/
theorem views_agree_after_halt :
    ∃ start, withConfig sampleConfig [1, 2] = .ok start ∧
      ((start.run sampleDigest sampleHalt).deliveredForTransfer 8).raw = 0 ∧
      ((start.run sampleDigest sampleHalt).deliveredForTransfer 7).raw = 100 ∧
      ((start.run sampleDigest sampleHalt).deliveredForTransfer 7).raw =
        min (OrderedMap.sumOf (start.run sampleDigest sampleHalt).events
          fun _ e => worthFor 7 e) (2 ^ 128 - 1) := by
  have passes : (withConfig sampleConfig [1, 2]).toOption.any (fun start =>
      decide (((start.run sampleDigest sampleHalt).deliveredForTransfer 8).raw = 0 ∧
        ((start.run sampleDigest sampleHalt).deliveredForTransfer 7).raw = 100)) = true := by
    decide +kernel
  obtain ⟨start, built, facts⟩ := ok_of_any passes
  obtain ⟨late, worth⟩ := of_decide_eq_true facts
  exact ⟨start, built, late, worth, (views_agree sampleDigest built sampleHalt).1 7⟩

end Simulator

end XchainSim
