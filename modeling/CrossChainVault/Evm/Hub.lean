import CrossChainVault.Evm.Lanes

set_option autoImplicit false

/- The vault's side of the protocol: the buckets and the cycle the remote leg has to agree with, and
what one accepted transaction can do to them. -/

namespace Evm

open Result Protocol

/-- What the two chains have to agree on, as the vault and its coordinator see it. -/
@[ext] structure Terms where
  kind : CycleKind
  transferId : Bytes32
  amount : Nat
  sequence : Nat
  closing : Bool
  lastImpaired : Nat
  reportedLoss : Nat
  baselineLoss : Nat
  used : Bytes32 → Bool
  cap : Nat
  impaired : Nat
  recognizedLoss : Nat

/-- The terms, with the buckets only the vault keeps. -/
@[ext] structure Hub extends Terms where
  outbound : Nat
  accepted : Nat
  inbound : Nat
  recallId : Bytes32
  recallPrincipal : Nat

def World.hub (w : World) : Hub where
  kind := w.coordinator.activeCycleKind
  transferId := w.coordinator.activeTransferId
  amount := w.coordinator.activeAmount.raw
  sequence := w.coordinator.activeSequence.raw
  closing := w.coordinator.closeRequested
  lastImpaired := w.coordinator.lastImpairedSequence.raw
  reportedLoss := w.coordinator.lastInboundCumulativeLoss.raw
  baselineLoss := w.coordinator.recallBaselineLoss.raw
  used := w.coordinator.usedTransferIds
  cap := w.vault.remotePrincipalCap.raw
  impaired := w.vault.impairedTransport.raw
  recognizedLoss := w.vault.recognizedLoss.raw
  outbound := w.vault.outboundInTransit.raw
  accepted := w.vault.acceptedRemoteValue.raw
  inbound := w.vault.inboundInTransit.raw
  recallId := w.vault.pendingRecallId
  recallPrincipal := w.vault.pendingRecallPrincipal.raw

/-- The terms once the cycle is over. -/
def Terms.idle (t : Terms) : Terms :=
  { t with kind := .none, transferId := .zero, amount := 0, sequence := 0, closing := false }

/-- The terms once a message opened a cycle. -/
def Terms.opens (t : Terms) (kind : CycleKind) (transferId : Bytes32) (amount : Nat)
    (message : Message) : Terms :=
  { t with
    kind := kind
    transferId := transferId
    amount := amount
    sequence := message.header.sequence.raw
    used := Function.update t.used transferId true }

/-- An id stays used when another is used up. -/
theorem Terms.still_used {t : Terms} {id : Bytes32} (used : t.used id = true)
    (transferId : Bytes32) : Function.update t.used transferId true id = true := by
  by_cases same : id = transferId
  · rw [same, Function.update_self]
  · rw [Function.update_of_ne same]
    exact used

/-- Everything one transaction can do to the hub, with the report it takes from the inbound lane
and the control message it publishes. -/
inductive HubStep (h : Hub) : Option Message → Option Message → Hub → Prop
  | quiet (inbound : Nat) (drains : inbound ≤ h.inbound) :
      HubStep h none none { h with inbound := inbound }
  | allocated (message : Message) (body : AllocateBody) (hBody : message.body = .allocate body)
      (idle : h.kind = .none) (named : body.transferId.raw ≠ 0)
      (fresh : h.used body.transferId = false) (nonzero : body.amount.raw ≠ 0) (inbound : Nat)
      (drains : inbound ≤ h.inbound) :
      HubStep h none (some message)
        { h with
          toTerms := h.toTerms.opens .allocate body.transferId body.amount.raw message
          outbound := h.outbound + body.amount.raw
          inbound := inbound }
  | recalled (message : Message) (body : RecallBody) (hBody : message.body = .recall body)
      (idle : h.kind = .none) (named : body.transferId.raw ≠ 0)
      (fresh : h.used body.transferId = false) (nonzero : body.requestedAmount.raw ≠ 0)
      (covered : body.requestedAmount.raw ≤ h.cap) :
      HubStep h none (some message)
        { h with
          toTerms := { h.toTerms.opens .recall body.transferId body.requestedAmount.raw message with
            baselineLoss := h.reportedLoss }
          recallId := body.transferId
          recallPrincipal := body.requestedAmount.raw }
  | admitted (message : Message) (body : ResolveBody) (hBody : message.body = .resolve body)
      (action : body.action = .admitTransfer) (active : h.kind = .allocate ∨ h.kind = .recall)
      (same : body.transferId = h.transferId) (target : body.targetSequence.raw = h.sequence)
      (running : h.closing = false) : HubStep h none (some message) h
  | closing (message : Message) (body : ResolveBody) (hBody : message.body = .resolve body)
      (action : body.action = .close) (active : h.kind = .allocate)
      (same : body.transferId = h.transferId) (target : body.targetSequence.raw = h.sequence)
      (running : h.closing = false) : HubStep h none (some message) { h with closing := true }
  | recovering (message : Message) (body : ResolveBody) (hBody : message.body = .resolve body)
      (action : body.action = .recover) (idle : h.kind = .none) (named : body.transferId.raw ≠ 0)
      (fresh : h.used body.transferId = false) (impaired : h.impaired ≠ 0)
      (target : body.targetSequence.raw = h.lastImpaired) :
      HubStep h none (some message)
        { h with toTerms := h.toTerms.opens .recover body.transferId 0 message }
  | heard (message : Message) (body : RemoteReportBody) (hBody : message.body = .remoteReport body)
      (grows : h.reportedLoss ≤ body.realizedLoss.raw) (accepted : Nat)
      (within : accepted ≤ max h.accepted h.cap) :
      HubStep h (some message) none
        { h with reportedLoss := body.realizedLoss.raw, accepted := accepted }
  | completed (message : Message) (body : RemoteReportBody)
      (hBody : message.body = .remoteReport body)
      (grows : h.reportedLoss ≤ body.realizedLoss.raw) (active : h.kind = .allocate)
      (running : h.closing = false) (names : body.latestCompletedTransferId = h.transferId)
      (covered : h.amount ≤ h.outbound) (accepted : Nat) (within : accepted ≤ h.cap + h.amount) :
      HubStep h (some message) none { h with
        toTerms := { h.toTerms.idle with
          reportedLoss := body.realizedLoss.raw
          cap := h.cap + h.amount }
        outbound := h.outbound - h.amount
        accepted := accepted }
  | returned (message : Message) (body : RecallSentBody) (hBody : message.body = .recallSent body)
      (active : h.kind = .recall) (names : body.transferId = h.transferId)
      (split : body.actualAmountSent.raw + body.realizedLoss.raw = body.principalSent.raw)
      (covered : body.principalSent.raw ≤ h.cap) (accepted inbound : Nat)
      (value : accepted ≤ max h.accepted h.cap - body.principalSent.raw)
      (arriving : inbound ≤ h.inbound + body.actualAmountSent.raw) :
      HubStep h (some message) none { h with
        toTerms := { h.toTerms.idle with
          reportedLoss := max h.reportedLoss (h.baselineLoss + body.realizedLoss.raw)
          baselineLoss := 0
          cap := h.cap - body.principalSent.raw
          recognizedLoss := h.recognizedLoss + body.realizedLoss.raw }
        accepted := accepted
        inbound := inbound
        recallId := .zero
        recallPrincipal := 0 }
  | closed (message : Message) (body : TransportSettlementBody)
      (hBody : message.body = .transportSettlement body) (kind : body.kind = .closed)
      (active : h.kind = .allocate) (closing : h.closing = true)
      (names : body.transferId = h.transferId) (claim : body.claimAmount.raw = h.amount)
      (within : body.creditedAmount.raw ≤ h.amount) (covered : h.amount ≤ h.outbound) :
      HubStep h (some message) none { h with
        toTerms := { h.toTerms.idle with
          lastImpaired := if h.amount = body.creditedAmount.raw then h.lastImpaired else h.sequence
          cap := h.cap + body.creditedAmount.raw
          impaired := h.impaired + (h.amount - body.creditedAmount.raw) }
        outbound := h.outbound - h.amount
        accepted := h.accepted + body.creditedAmount.raw }
  | recovered (message : Message) (body : TransportSettlementBody)
      (hBody : message.body = .transportSettlement body) (kind : body.kind = .recovered)
      (active : h.kind = .recover) (names : body.transferId = h.transferId)
      (within : body.creditedAmount.raw ≤ h.impaired) :
      HubStep h (some message) none { h with
        toTerms := { h.toTerms.idle with
          cap := h.cap + body.creditedAmount.raw
          impaired := h.impaired - body.creditedAmount.raw }
        accepted := h.accepted + body.creditedAmount.raw }

/-- The version a control message carries. -/
def controlVersion (message : Message) : Option Uint64 :=
  match message.body with
  | .allocate body => some body.configVersion
  | .recall body => some body.configVersion
  | .resolve body => some body.configVersion
  | _ => none

/-- The checks a control message passed before it was published. -/
def ControlValid (message : Message) : Prop :=
  match message.body with
  | .allocate body =>
      ProtocolCodec.validateAllocate body message.header.publishedAt = .ok ()
  | .recall body => ProtocolCodec.validateRecall body message.header.publishedAt = .ok ()
  | .resolve body => ProtocolCodec.validateResolve body message.header.sequence = .ok ()
  | _ => False

/-- A message as the coordinator publishes it next. -/
structure Sends (w : World) (message : Message) : Prop where
  header : ∃ stamps, message.header = w.coordinator.outboundHeader stamps
  validHeader : ProtocolCodec.validateHeader message.header = .ok ()
  valid : ControlValid message
  version : controlVersion message = some w.configVersion

/-- What a transaction does to the two lanes. Everything else in the configuration is fixed. -/
structure Moves (hashing : Hashing) (w : World) (taken sent : Option Message) (w' : World) :
    Prop where
  vault : w'.vault.self = w.vault.self
  bound : w'.vault.remoteAccounting = w.vault.remoteAccounting
  configVersion : w'.vault.configVersion = w.vault.configVersion
  coordinator : w'.coordinator.self = w.coordinator.self
  identities : w'.coordinator.identities = w.coordinator.identities
  took : match taken with
    | none => w'.coordinator.inboundExpectedSequence = w.coordinator.inboundExpectedSequence ∧
        w'.coordinator.inboundLatestCommitment = w.coordinator.inboundLatestCommitment
    | some message => w.coordinator.Expects message.header ∧
        w'.coordinator.inboundExpectedSequence.raw =
          w.coordinator.inboundExpectedSequence.raw + 1 ∧
        w'.coordinator.inboundLatestCommitment =
          hashing.extend w.coordinator.inboundLatestCommitment message
  published : match sent with
    | none => w'.coordinator.outboundNextSequence = w.coordinator.outboundNextSequence ∧
        w'.coordinator.outboundLatestCommitment = w.coordinator.outboundLatestCommitment ∧
        w'.coordinator.published = w.coordinator.published
    | some message => Sends w message ∧
        w'.coordinator.outboundNextSequence.raw = w.coordinator.outboundNextSequence.raw + 1 ∧
        w'.coordinator.outboundLatestCommitment =
          hashing.extend w.coordinator.outboundLatestCommitment message ∧
        w'.coordinator.published = w.coordinator.published ++ [message]

/-- The two views of one accepted transaction. -/
structure Acts (hashing : Hashing) (w : World) (taken sent : Option Message) (w' : World) :
    Prop where
  hub : HubStep w.hub taken sent w'.hub
  moves : Moves hashing w taken sent w'

/-- The report a call takes from the inbound lane. -/
def Call.delivered : Call → Option Message
  | .processRemoteReport _ header body => some ⟨header, .remoteReport body⟩
  | .processRecallSent _ header body => some ⟨header, .recallSent body⟩
  | .processTransportSettlement _ header body => some ⟨header, .transportSettlement body⟩
  | _ => none

/-- The coordinator the vault answers to, which only acts through its own functions. -/
structure Bound (w : World) : Prop where
  bound : w.vault.remoteAccounting = w.coordinator.self
  named : w.coordinator.self.raw ≠ 0

theorem HubStep.congr {h h' h'' : Hub} {taken sent : Option Message}
    (step : HubStep h taken sent h') (same : h'' = h') : HubStep h taken sent h'' := by
  rw [same]
  exact step

namespace World

variable {hashing : Hashing} {w w' : World} {msg : Msg} {transferId : Bytes32} {stamps : Stamps}
  {header : Header}

/-- A transaction that touches neither lane and drains at most the expected inbound assets. -/
theorem acts_quiet (coordinator : w'.coordinator = w.coordinator)
    (vault : w'.vault.self = w.vault.self ∧
      w'.vault.remoteAccounting = w.vault.remoteAccounting ∧
      w'.vault.configVersion = w.vault.configVersion)
    (remote : w'.vault.remotePrincipalCap = w.vault.remotePrincipalCap ∧
      w'.vault.impairedTransport = w.vault.impairedTransport ∧
      w'.vault.recognizedLoss = w.vault.recognizedLoss ∧
      w'.vault.outboundInTransit = w.vault.outboundInTransit ∧
      w'.vault.acceptedRemoteValue = w.vault.acceptedRemoteValue ∧
      w'.vault.pendingRecallId = w.vault.pendingRecallId ∧
      w'.vault.pendingRecallPrincipal = w.vault.pendingRecallPrincipal)
    (inbound : w'.vault.inboundInTransit.raw ≤ w.vault.inboundInTransit.raw) :
    Acts hashing w none none w' where
  hub := by
    obtain ⟨cap, impaired, loss, outbound, accepted, recallId, recallPrincipal⟩ := remote
    have step := HubStep.quiet (h := w.hub) w'.vault.inboundInTransit.raw inbound
    refine step.congr ?_
    simp only [hub, coordinator, cap, impaired, loss, outbound, accepted, recallId, recallPrincipal]
  moves := {
    vault := vault.1
    bound := vault.2.1
    configVersion := vault.2.2
    coordinator := by rw [coordinator]
    identities := by rw [coordinator]
    took := by
      rw [coordinator]
      exact ⟨rfl, rfl⟩
    published := by
      rw [coordinator]
      exact ⟨rfl, rfl, rfl⟩ }

/-- What any recorded surplus leaves alone. -/
theorem recordSurplus_frame {v v' : Vault} {asset : Asset}
    (success : v.recordSurplus asset = .ok v') :
    (v'.self = v.self ∧ v'.remoteAccounting = v.remoteAccounting ∧
      v'.configVersion = v.configVersion) ∧
    (v'.remotePrincipalCap = v.remotePrincipalCap ∧ v'.impairedTransport = v.impairedTransport ∧
      v'.recognizedLoss = v.recognizedLoss ∧ v'.outboundInTransit = v.outboundInTransit ∧
      v'.acceptedRemoteValue = v.acceptedRemoteValue ∧ v'.pendingRecallId = v.pendingRecallId ∧
      v'.pendingRecallPrincipal = v.pendingRecallPrincipal) ∧
    v'.inboundInTransit.raw ≤ v.inboundInTransit.raw := by
  obtain ⟨surplus, inbound, _, _, _, -, hInbound, -, -, -, rfl⟩ := Vault.recordSurplus_ok success
  refine ⟨⟨rfl, rfl, rfl⟩, ⟨rfl, rfl, rfl, rfl, rfl, rfl, rfl⟩, ?_⟩
  show inbound.raw ≤ v.inboundInTransit.raw
  omega

/-- The lanes after a message was published and nothing was taken. -/
theorem moves_sent {c : Coordinator} {message : Message} (sends : Sends w message)
    (published : c.publishOutbound hashing message = .ok w'.coordinator)
    (same : c.self = w.coordinator.self ∧ c.identities = w.coordinator.identities ∧
      c.inboundExpectedSequence = w.coordinator.inboundExpectedSequence ∧
      c.inboundLatestCommitment = w.coordinator.inboundLatestCommitment ∧
      c.outboundNextSequence = w.coordinator.outboundNextSequence ∧
      c.outboundLatestCommitment = w.coordinator.outboundLatestCommitment ∧
      c.published = w.coordinator.published)
    (vault : w'.vault.self = w.vault.self ∧
      w'.vault.remoteAccounting = w.vault.remoteAccounting ∧
      w'.vault.configVersion = w.vault.configVersion) :
    Moves hashing w none (some message) w' := by
  obtain ⟨self, identities, expected, inbound, next, outbound, earlier⟩ := same
  obtain ⟨successor, hNext, changed⟩ := Coordinator.publishOutbound_ok.mp published
  refine ⟨vault.1, vault.2.1, vault.2.2, ?_, ?_, ?_, sends, ?_, ?_, ?_⟩
  · rw [changed]
    exact self
  · rw [changed]
    exact identities
  · rw [changed]
    exact ⟨expected, inbound⟩
  · rw [changed, ← next]
    exact hNext
  · rw [changed, ← outbound]
  · rw [changed, ← earlier]

/-- The lanes after a message opened a cycle. -/
theorem moves_opened {c : Coordinator} {message : Message} {kind : CycleKind} {amount : Uint128}
    {deadline : Uint64} (sends : Sends w message)
    (opened : c.consumeOutbound hashing transferId kind amount deadline message =
      .ok w'.coordinator)
    (same : c.self = w.coordinator.self ∧ c.identities = w.coordinator.identities ∧
      c.inboundExpectedSequence = w.coordinator.inboundExpectedSequence ∧
      c.inboundLatestCommitment = w.coordinator.inboundLatestCommitment ∧
      c.outboundNextSequence = w.coordinator.outboundNextSequence ∧
      c.outboundLatestCommitment = w.coordinator.outboundLatestCommitment ∧
      c.published = w.coordinator.published)
    (vault : w'.vault.self = w.vault.self ∧
      w'.vault.remoteAccounting = w.vault.remoteAccounting ∧
      w'.vault.configVersion = w.vault.configVersion) :
    Moves hashing w none (some message) w' := by
  simp only [Coordinator.consumeOutbound, bind_eq_ok, pure_eq_ok] at opened
  obtain ⟨published, hPublished, changed⟩ := opened
  have moves : Moves hashing w none (some message) { w' with coordinator := published } :=
    moves_sent sends hPublished same vault
  refine ⟨vault.1, vault.2.1, vault.2.2, ?_, ?_, ?_, ?_⟩
  · rw [← changed]
    exact moves.coordinator
  · rw [← changed]
    exact moves.identities
  · rw [← changed]
    exact moves.took
  · rw [← changed]
    exact moves.published

theorem allocate_acts {amount minimum : Uint128} {deadline : Uint64}
    (success : w.allocate hashing msg transferId amount minimum deadline stamps = .ok w') :
    ∃ sent, Acts hashing w none (some sent) w' := by
  obtain ⟨body, moved, -, -, -, -, idle, named, fresh, rfl, rfl, -, -, version, validHeader,
    validBody, hMoved, opened, hVault, -⟩ := allocate_ok success
  obtain ⟨recorded, _, outbound, -, hRecorded, nonzero, -, hOutbound, -, -, changed⟩ :=
    Vault.beginOutbound_ok hMoved
  obtain ⟨fixed, ⟨cap, impaired, loss, transit, accepted, recallId, recallPrincipal⟩, drains⟩ :=
    recordSurplus_frame hRecorded
  rw [changed] at hVault
  have sends : Sends w ⟨w.coordinator.outboundHeader stamps, .allocate body⟩ :=
    ⟨⟨stamps, rfl⟩, validHeader, validBody, congrArg some version⟩
  refine ⟨_, ?_, moves_opened sends opened ⟨rfl, rfl, rfl, rfl, rfl, rfl, rfl⟩ (by
    rw [hVault]
    exact fixed)⟩
  obtain ⟨_, -, hCoordinator⟩ := Coordinator.consumeOutbound_ok.mp opened
  have step := HubStep.allocated (h := w.hub) ⟨w.coordinator.outboundHeader stamps, .allocate body⟩
    body rfl idle named fresh nonzero w'.vault.inboundInTransit.raw (by
      rw [hVault]
      exact drains)
  refine step.congr ?_
  rw [transit] at hOutbound
  simp only [hub, hCoordinator, hVault, cap, impaired, loss, accepted, recallId, recallPrincipal,
    hOutbound, toUint256_raw]
  rfl

theorem recall_acts {amount minimum : Uint128} {deadline : Uint64}
    (success : w.recall hashing msg transferId amount minimum deadline stamps = .ok w') :
    ∃ sent, Acts hashing w none (some sent) w' := by
  obtain ⟨body, baseline, -, idle, named, fresh, nonzero, covered, rfl, rfl, -, -, version,
    validHeader, validBody, -, hVault, opened, -⟩ := recall_ok success
  obtain ⟨-, -, -, changed⟩ := Vault.beginRecall_ok hVault
  have sends : Sends w ⟨w.coordinator.outboundHeader stamps, .recall body⟩ :=
    ⟨⟨stamps, rfl⟩, validHeader, validBody, congrArg some version⟩
  refine ⟨_, ?_, moves_opened sends opened ⟨rfl, rfl, rfl, rfl, rfl, rfl, rfl⟩ (by
    rw [changed]
    exact ⟨rfl, rfl, rfl⟩)⟩
  obtain ⟨_, -, hCoordinator⟩ := Coordinator.consumeOutbound_ok.mp opened
  have step := HubStep.recalled (h := w.hub) ⟨w.coordinator.outboundHeader stamps, .recall body⟩
    body rfl idle named fresh nonzero covered
  refine step.congr ?_
  simp only [hub, hCoordinator, changed]
  rfl

theorem resolution_sends {target : Uint64} {action : ResolveAction} {message : Message}
    (success : w.resolution transferId target action stamps = .ok message) : Sends w message := by
  obtain ⟨rfl, validHeader, validBody⟩ := resolution_ok success
  exact ⟨⟨stamps, rfl⟩, validHeader, validBody, rfl⟩

theorem admit_acts (success : w.admitTransfer hashing msg transferId stamps = .ok w') :
    ∃ sent, Acts hashing w none (some sent) w' := by
  obtain ⟨message, -, active, same, running, hMessage, published, hVault, -⟩ := admit_ok success
  refine ⟨message, ?_, moves_sent (resolution_sends hMessage) published
    ⟨rfl, rfl, rfl, rfl, rfl, rfl, rfl⟩ (by
      rw [hVault]
      exact ⟨rfl, rfl, rfl⟩)⟩
  obtain ⟨_, -, hCoordinator⟩ := Coordinator.publishOutbound_ok.mp published
  have hBody := congrArg Message.body (resolution_ok hMessage).1
  have step := HubStep.admitted (h := w.hub) message
    ⟨transferId, w.coordinator.activeSequence, .admitTransfer, w.configVersion⟩ hBody rfl active same rfl running
  refine step.congr ?_
  simp only [hub, hCoordinator, hVault]

theorem close_acts (success : w.close hashing msg transferId stamps = .ok w') :
    ∃ sent, Acts hashing w none (some sent) w' := by
  obtain ⟨message, -, active, same, running, -, hMessage, published, hVault, -⟩ := close_ok success
  refine ⟨message, ?_, moves_sent (resolution_sends hMessage) published
    ⟨rfl, rfl, rfl, rfl, rfl, rfl, rfl⟩ (by
      rw [hVault]
      exact ⟨rfl, rfl, rfl⟩)⟩
  obtain ⟨_, -, hCoordinator⟩ := Coordinator.publishOutbound_ok.mp published
  have hBody := congrArg Message.body (resolution_ok hMessage).1
  have step := HubStep.closing (h := w.hub) message
    ⟨transferId, w.coordinator.activeSequence, .close, w.configVersion⟩ hBody rfl active same rfl running
  refine step.congr ?_
  simp only [hub, hCoordinator, hVault]

theorem recover_acts (success : w.recover hashing msg transferId stamps = .ok w') :
    ∃ sent, Acts hashing w none (some sent) w' := by
  obtain ⟨message, -, idle, named, fresh, impaired, hMessage, opened, hVault, -⟩ :=
    recover_ok success
  refine ⟨message, ?_, moves_opened (resolution_sends hMessage) opened
    ⟨rfl, rfl, rfl, rfl, rfl, rfl, rfl⟩ (by
      rw [hVault]
      exact ⟨rfl, rfl, rfl⟩)⟩
  obtain ⟨_, -, hCoordinator⟩ := Coordinator.consumeOutbound_ok.mp opened
  have hBody := congrArg Message.body (resolution_ok hMessage).1
  have step := HubStep.recovering (h := w.hub) message
    ⟨transferId, w.coordinator.lastImpairedSequence, .recover, w.configVersion⟩ hBody rfl idle named fresh impaired rfl
  refine step.congr ?_
  have header := congrArg Message.header (resolution_ok hMessage).1
  simp only [hub, Terms.opens, hCoordinator, hVault, header]
  rfl

section Reports

variable {body : RemoteReportBody} {reason : ReportSkipReason}

/-- What applying a report leaves alone besides the cycle it may complete. -/
structure Applies (w : World) (body : RemoteReportBody) (w' : World) : Prop where
  vault : w'.vault.self = w.vault.self ∧ w'.vault.remoteAccounting = w.vault.remoteAccounting ∧
    w'.vault.configVersion = w.vault.configVersion
  remote : w'.vault.impairedTransport = w.vault.impairedTransport ∧
    w'.vault.recognizedLoss = w.vault.recognizedLoss ∧
    w'.vault.inboundInTransit = w.vault.inboundInTransit
  pendingRecall : w'.vault.pendingRecallId = w.vault.pendingRecallId ∧
    w'.vault.pendingRecallPrincipal = w.vault.pendingRecallPrincipal
  cycle : w'.coordinator = w.coordinator ∧
      w'.vault.remotePrincipalCap = w.vault.remotePrincipalCap ∧
      w'.vault.outboundInTransit = w.vault.outboundInTransit ∧
      w'.vault.acceptedRemoteValue.raw ≤
        max w.vault.acceptedRemoteValue.raw w.vault.remotePrincipalCap.raw ∨
    w'.coordinator = w.coordinator.clearCycle ∧ w.coordinator.activeCycleKind = .allocate ∧
      w.coordinator.closeRequested = false ∧
      body.latestCompletedTransferId = w.coordinator.activeTransferId ∧
      w'.vault.remotePrincipalCap.raw =
        w.vault.remotePrincipalCap.raw + w.coordinator.activeAmount.raw ∧
      w'.vault.outboundInTransit.raw + w.coordinator.activeAmount.raw =
        w.vault.outboundInTransit.raw ∧
      w'.vault.acceptedRemoteValue.raw ≤ w'.vault.remotePrincipalCap.raw

theorem completeAllocation_applies (names : w.completes body = true)
    (running : w.coordinator.closeRequested = false)
    (success : w.completeAllocation body.reportedValue = .ok w') : Applies w body w' := by
  obtain ⟨hVault, hCoordinator, -⟩ := completeAllocation_ok.mp success
  obtain ⟨outbound, cap, -, -, hOutbound, hCap, changed⟩ := Vault.completeAllocation_iff.mp hVault
  simp only [completes, Bool.and_eq_true, decide_eq_true_eq] at names
  refine ⟨?_, ?_, ?_, .inr ⟨hCoordinator, names.1.1, running, names.1.2, ?_, ?_, ?_⟩⟩
  · rw [changed]
    exact ⟨rfl, rfl, rfl⟩
  · rw [changed]
    exact ⟨rfl, rfl, rfl⟩
  · rw [changed]
    exact ⟨rfl, rfl⟩
  · rw [changed]
    exact hCap
  · rw [changed]
    exact hOutbound
  · rw [changed, Vault.setAcceptedRemoteValue_raw]
    exact Nat.min_le_right _ _

/-- Pricing and locking after the cycle was dealt with. -/
theorem Applies.priced {completed : World} {vault : Vault} (applies : Applies w body completed)
    (fixed : vault.self = completed.vault.self ∧
      vault.remoteAccounting = completed.vault.remoteAccounting ∧
      vault.configVersion = completed.vault.configVersion)
    (same : vault.impairedTransport = completed.vault.impairedTransport ∧
      vault.recognizedLoss = completed.vault.recognizedLoss ∧
      vault.inboundInTransit = completed.vault.inboundInTransit)
    (pending : vault.pendingRecallId = completed.vault.pendingRecallId ∧
      vault.pendingRecallPrincipal = completed.vault.pendingRecallPrincipal)
    (cap : vault.remotePrincipalCap = completed.vault.remotePrincipalCap)
    (outbound : vault.outboundInTransit = completed.vault.outboundInTransit)
    (accepted : vault.acceptedRemoteValue.raw ≤ completed.vault.remotePrincipalCap.raw) :
    Applies w body { completed with vault := vault } where
  vault := ⟨fixed.1.trans applies.vault.1, fixed.2.1.trans applies.vault.2.1,
    fixed.2.2.trans applies.vault.2.2⟩
  remote := ⟨same.1.trans applies.remote.1, same.2.1.trans applies.remote.2.1,
    same.2.2.trans applies.remote.2.2⟩
  pendingRecall := ⟨pending.1.trans applies.pendingRecall.1,
    pending.2.trans applies.pendingRecall.2⟩
  cycle := by
    rcases applies.cycle with ⟨kept, sameCap, sameOutbound, -⟩ |
      ⟨cleared, active, running, names, hCap, hOutbound, -⟩
    · refine .inl ⟨kept, cap.trans sameCap, outbound.trans sameOutbound, ?_⟩
      rw [sameCap] at accepted
      exact Nat.le_trans accepted (Nat.le_max_right _ _)
    · refine .inr ⟨cleared, active, running, names, ?_, ?_, ?_⟩
      · rw [cap]
        exact hCap
      · rw [outbound]
        exact hOutbound
      · rw [cap]
        exact accepted

theorem applyReport_applies (success : w.applyReport msg header body = .ok (w', reason)) :
    Applies w body w' := by
  have unchanged : Applies w body w :=
    ⟨⟨rfl, rfl, rfl⟩, ⟨rfl, rfl, rfl⟩, ⟨rfl, rfl⟩, .inl ⟨rfl, rfl, rfl, Nat.le_max_left _ _⟩⟩
  cases applyReport_ok success with
  | skipped => exact unchanged
  | completedAtPar _ running _ _ names _ completed =>
      exact completeAllocation_applies names running completed
  | priced completed valued _ running _ _ completes values locks =>
      have before : Applies w body completed := by
        unfold completeIfNamed at completes
        split at completes
        · rename_i names
          exact completeAllocation_applies names running completes
        · rw [pure_eq_ok] at completes
          rw [← completes]
          exact unchanged
      obtain ⟨-, rfl⟩ := applyRemoteValuation_ok.mp values
      have within := Nat.min_le_right
        (toUint256 (if completed.coordinator.activeCycleKind = .recall then
          completed.coordinator.valueDuringRecall body.realizedLoss else body.reportedValue)).raw
        completed.vault.remotePrincipalCap.raw
      rw [← Vault.setAcceptedRemoteValue_raw] at within
      split at locks
      · obtain ⟨vault, hVault, rfl⟩ := locks
        obtain ⟨_, -, -, -, rfl⟩ := Vault.lockRemoteValuation_iff.mp hVault
        exact before.priced ⟨rfl, rfl, rfl⟩ ⟨rfl, rfl, rfl⟩ ⟨rfl, rfl⟩ rfl rfl within
      · subst locks
        exact before.priced ⟨rfl, rfl, rfl⟩ ⟨rfl, rfl, rfl⟩ ⟨rfl, rfl⟩ rfl rfl within

theorem processRemoteReport_acts {authentic : Bool}
    (success : w.processRemoteReport hashing msg authentic header body = .ok w') :
    Acts hashing w (some ⟨header, .remoteReport body⟩) none w' := by
  obtain ⟨next, _, -, -, -, expected, -, grows, hNext, applied⟩ := processRemoteReport_iff.mp success
  have applies := applyReport_applies applied
  obtain ⟨impaired, loss, inbound⟩ := applies.remote
  obtain ⟨recallId, recallPrincipal⟩ := applies.pendingRecall
  refine ⟨?_, applies.vault.1, applies.vault.2.1, applies.vault.2.2, ?_, ?_, ?_, ?_⟩
  · rcases applies.cycle with ⟨kept, cap, outbound, accepted⟩ |
      ⟨cleared, active, running, names, cap, outbound, accepted⟩
    · have step := HubStep.heard (h := w.hub) ⟨header, .remoteReport body⟩ body rfl grows
        w'.vault.acceptedRemoteValue.raw accepted
      refine step.congr ?_
      simp only [hub, kept, cap, outbound, impaired, loss, inbound, recallId, recallPrincipal]
    · dsimp only at cap outbound
      rw [cap] at accepted
      have step := HubStep.completed (h := w.hub) ⟨header, .remoteReport body⟩ body rfl grows active
        running names (Nat.le.intro ((Nat.add_comm _ _).trans outbound))
        w'.vault.acceptedRemoteValue.raw accepted
      refine step.congr ?_
      simp only [hub, Terms.idle, cleared, cap, impaired, loss, inbound, recallId, recallPrincipal,
        Nat.eq_sub_of_add_eq outbound]
      rfl
  · rcases applies.cycle with ⟨kept, -⟩ | ⟨cleared, -⟩
    · rw [kept]
    · rw [cleared]
      rfl
  · rcases applies.cycle with ⟨kept, -⟩ | ⟨cleared, -⟩
    · rw [kept]
    · rw [cleared]
      rfl
  · rcases applies.cycle with ⟨kept, -⟩ | ⟨cleared, -⟩
    · rw [kept]
      exact ⟨expected, hNext, rfl⟩
    · rw [cleared]
      exact ⟨expected, hNext, rfl⟩
  · rcases applies.cycle with ⟨kept, -⟩ | ⟨cleared, -⟩
    · rw [kept]
      exact ⟨rfl, rfl, rfl⟩
    · rw [cleared]
      exact ⟨rfl, rfl, rfl⟩

end Reports

/-- Restoring the baseline moves only the accepted value, and not above the principal. -/
theorem restoreBaseline_frame {restored : Vault} (success : w.restoreBaseline = .ok restored) :
    ∃ accepted, restored = { w.vault with acceptedRemoteValue := accepted } ∧
      accepted.raw ≤ max w.vault.acceptedRemoteValue.raw w.vault.remotePrincipalCap.raw := by
  dsimp only [restoreBaseline] at success
  split at success
  · rw [pure_eq_ok] at success
    subst success
    exact ⟨_, rfl, Nat.le_max_left _ _⟩
  · obtain ⟨-, rfl⟩ := Vault.applyRemoteValuation_iff.mp success
    refine ⟨_, rfl, ?_⟩
    rw [Vault.ite_lt_raw]
    exact Nat.le_trans (Nat.min_le_right _ _) (Nat.le_max_right _ _)

theorem processRecallSent_acts {authentic : Bool} {body : RecallSentBody}
    (success : w.processRecallSent hashing authentic header body = .ok w') :
    Acts hashing w (some ⟨header, .recallSent body⟩) none w' := by
  obtain ⟨next, settledLoss, restored, -, -, -, expected, -, active, names, -, -, split,
    hSettled, hNext, hRestored, hVault, hCoordinator, -⟩ := processRecallSent_iff.mp success
  obtain ⟨value, rfl, hValue⟩ := restoreBaseline_frame hRestored
  obtain ⟨cap, accepted, recognized, unattributed, idle, inbound, -, -, -, hCap, hAccepted,
    hRecognized, -, -, hInbound, changed⟩ := Vault.applyRecallSent_iff.mp hVault
  simp only [toUint256_raw] at hCap hAccepted hRecognized hInbound
  refine ⟨?_, ?_, ?_, ?_, ?_, ?_, ?_, ?_⟩
  · have step := HubStep.returned (h := w.hub) ⟨header, .recallSent body⟩ body rfl active names
      split (Nat.le.intro ((Nat.add_comm _ _).trans hCap)) accepted.raw inbound.raw
      (hAccepted ▸ Nat.sub_le_sub_right hValue _)
      (by show inbound.raw ≤ w.vault.inboundInTransit.raw + body.actualAmountSent.raw; omega)
    refine step.congr ?_
    have loss : (if w.coordinator.lastInboundCumulativeLoss < settledLoss then settledLoss
        else w.coordinator.lastInboundCumulativeLoss).raw =
        max w.coordinator.lastInboundCumulativeLoss.raw
          (w.coordinator.recallBaselineLoss.raw + body.realizedLoss.raw) := by
      rw [← hSettled]
      split
      · rename_i below
        exact (Nat.max_eq_right (Nat.le_of_lt below)).symm
      · rename_i above
        exact (Nat.max_eq_left (Nat.not_lt.mp above)).symm
    simp only [hub, Terms.idle, hCoordinator, changed, Coordinator.clearCycle, loss, hRecognized,
      Nat.eq_sub_of_add_eq hCap]
    rfl
  · rw [changed]
  · rw [changed]
  · rw [changed]
  · rw [hCoordinator]
    rfl
  · rw [hCoordinator]
    rfl
  · rw [hCoordinator]
    exact ⟨expected, hNext, rfl⟩
  · rw [hCoordinator]
    exact ⟨rfl, rfl, rfl⟩

theorem processTransportSettlement_acts {authentic : Bool} {body : TransportSettlementBody}
    (success : w.processTransportSettlement hashing authentic header body = .ok w') :
    Acts hashing w (some ⟨header, .transportSettlement body⟩) none w' := by
  obtain ⟨next, -, -, -, expected, -, names, hNext, -, settled⟩ :=
    processTransportSettlement_iff.mp success
  split at settled
  · rename_i kind
    obtain ⟨active, closing, within, claim, -, hVault, hCoordinator⟩ := settled
    obtain ⟨outbound, cap, accepted, impaired, -, -, -, hOutbound, hCap, hAccepted, hImpaired,
      changed⟩ := Vault.closeAllocation_iff.mp hVault
    simp only [toUint256_raw] at hOutbound hCap hAccepted hImpaired
    rw [claim] at within hOutbound hImpaired hCoordinator
    refine ⟨?_, by rw [changed], by rw [changed], by rw [changed], by rw [hCoordinator]; rfl,
      by rw [hCoordinator]; rfl, ?_, ?_⟩
    · have step := HubStep.closed (h := w.hub) ⟨header, .transportSettlement body⟩ body rfl kind
        active closing names (congrArg Unsigned.raw claim) within
        (Nat.le.intro ((Nat.add_comm _ _).trans hOutbound))
      refine step.congr ?_
      simp only [hub, Terms.idle, hCoordinator, changed, Coordinator.clearCycle, hCap, hAccepted,
        hImpaired, Nat.eq_sub_of_add_eq hOutbound, apply_ite Unsigned.raw]
      rfl
    · rw [hCoordinator]
      exact ⟨expected, hNext, rfl⟩
    · rw [hCoordinator]
      exact ⟨rfl, rfl, rfl⟩
  · rename_i kind
    obtain ⟨active, claim, hVault, hCoordinator⟩ := settled
    obtain ⟨impaired, cap, accepted, -, hImpaired, hCap, hAccepted, changed⟩ :=
      Vault.recoverImpairment_iff.mp hVault
    simp only [toUint256_raw] at hCap hAccepted hImpaired
    refine ⟨?_, by rw [changed], by rw [changed], by rw [changed], by rw [hCoordinator]; rfl,
      by rw [hCoordinator]; rfl, ?_, ?_⟩
    · have step := HubStep.recovered (h := w.hub) ⟨header, .transportSettlement body⟩ body rfl kind
        active names (Nat.le.intro ((Nat.add_comm _ _).trans hImpaired))
      refine step.congr ?_
      simp only [hub, Terms.idle, hCoordinator, changed, Coordinator.clearCycle, hCap, hAccepted,
        Nat.eq_sub_of_add_eq hImpaired]
      rfl
    · rw [hCoordinator]
      exact ⟨expected, hNext, rfl⟩
    · rw [hCoordinator]
      exact ⟨rfl, rfl, rfl⟩

theorem vault_quiet {vault : Vault} {asset : Asset}
    (fixed : vault.self = w.vault.self ∧ vault.remoteAccounting = w.vault.remoteAccounting ∧
      vault.configVersion = w.vault.configVersion)
    (remote : vault.remotePrincipalCap = w.vault.remotePrincipalCap ∧
      vault.impairedTransport = w.vault.impairedTransport ∧
      vault.recognizedLoss = w.vault.recognizedLoss ∧
      vault.outboundInTransit = w.vault.outboundInTransit ∧
      vault.acceptedRemoteValue = w.vault.acceptedRemoteValue ∧
      vault.pendingRecallId = w.vault.pendingRecallId ∧
      vault.pendingRecallPrincipal = w.vault.pendingRecallPrincipal)
    (inbound : vault.inboundInTransit.raw ≤ w.vault.inboundInTransit.raw) :
    ∃ sent, Acts hashing w none sent { w with vault := vault, asset := asset } :=
  ⟨none, acts_quiet rfl fixed remote inbound⟩

/-- Every accepted transaction from outside is one of the moves above, once the vault answers to
this coordinator or to none. -/
theorem step_acts {call : Call}
    (trusted : w.vault.remoteAccounting.raw ≠ 0 → w.vault.remoteAccounting = w.coordinator.self)
    (outside : msg.sender ≠ w.coordinator.self)
    (unbinding : ∀ coordinator, call ≠ .bindRemoteAccounting coordinator)
    (success : w.step hashing msg call = .ok w') :
    ∃ sent, Acts hashing w call.delivered sent w' := by
  have unauthorized : ¬(w.vault.remoteAccounting.raw ≠ 0 ∧ msg.sender = w.vault.remoteAccounting) :=
    fun granted => outside (granted.2.trans (trusted granted.1))
  cases call with
  | asset =>
      obtain ⟨_, -, rfl⟩ := withAsset_ok.mp success
      exact vault_quiet ⟨rfl, rfl, rfl⟩ ⟨rfl, rfl, rfl, rfl, rfl, rfl, rfl⟩ (Nat.le_refl _)
  | shareTransfer | shareTransferFrom | shareApprove =>
      obtain ⟨_, -, rfl⟩ := withShares_ok.mp success
      exact vault_quiet ⟨rfl, rfl, rfl⟩ ⟨rfl, rfl, rfl, rfl, rfl, rfl, rfl⟩ (Nat.le_refl _)
  | requestDeposit assets =>
      obtain ⟨_, _, moved, rfl⟩ := withMoved_ok.mp success
      obtain ⟨_, _, _, _, -, -, -, -, -, -, -, -, -, -, rfl⟩ := Vault.requestDeposit_ok moved
      exact vault_quiet ⟨rfl, rfl, rfl⟩ ⟨rfl, rfl, rfl, rfl, rfl, rfl, rfl⟩ (Nat.le_refl _)
  | cancelDepositRequest =>
      obtain ⟨_, _, moved, rfl⟩ := withMoved_ok.mp success
      obtain ⟨_, _, _, _, -, -, -, -, -, -, -, -, -, -, rfl⟩ := Vault.cancelDepositRequest_ok moved
      exact vault_quiet ⟨rfl, rfl, rfl⟩ ⟨rfl, rfl, rfl, rfl, rfl, rfl, rfl⟩ (Nat.le_refl _)
  | requestRedeem shares =>
      obtain ⟨_, changed, rfl⟩ := withVault_ok.mp success
      obtain ⟨_, _, _, _, -, -, -, -, -, -, -, -, -, rfl⟩ := Vault.requestRedeem_ok changed
      exact vault_quiet ⟨rfl, rfl, rfl⟩ ⟨rfl, rfl, rfl, rfl, rfl, rfl, rfl⟩ (Nat.le_refl _)
  | cancelRedeemRequest =>
      obtain ⟨_, changed, rfl⟩ := withVault_ok.mp success
      obtain ⟨_, _, _, _, -, -, -, -, -, -, -, -, -, rfl⟩ := Vault.cancelRedeemRequest_ok changed
      exact vault_quiet ⟨rfl, rfl, rfl⟩ ⟨rfl, rfl, rfl, rfl, rfl, rfl, rfl⟩ (Nat.le_refl _)
  | cutoffEpoch =>
      obtain ⟨_, changed, rfl⟩ := withVault_ok.mp success
      obtain ⟨-, -, -, -, rfl⟩ := Vault.cutoffEpoch_ok changed
      exact vault_quiet ⟨rfl, rfl, rfl⟩ ⟨rfl, rfl, rfl, rfl, rfl, rfl, rfl⟩ (Nat.le_refl _)
  | finalizeEpoch =>
      obtain ⟨_, changed, rfl⟩ := withVault_ok.mp success
      obtain ⟨recorded, _, _, _, _, _, _, _, _, -, -, -, -, hRecorded, -, -, -, -, -, -, rfl⟩ :=
        Vault.finalizeEpoch_ok changed
      obtain ⟨fixed, remote, drains⟩ := recordSurplus_frame hRecorded
      exact vault_quiet fixed remote drains
  | openNextEpoch =>
      obtain ⟨_, changed, rfl⟩ := withVault_ok.mp success
      obtain ⟨-, -, opened⟩ := Vault.openNextEpoch_ok changed
      obtain ⟨_, _, -, -, rfl⟩ := Vault.openEpoch_ok opened
      exact vault_quiet ⟨rfl, rfl, rfl⟩ ⟨rfl, rfl, rfl, rfl, rfl, rfl, rfl⟩ (Nat.le_refl _)
  | abortEpoch =>
      obtain ⟨_, changed, rfl⟩ := withVault_ok.mp success
      obtain ⟨_, -, -, -, -, rfl⟩ := Vault.abortEpoch_ok changed
      exact vault_quiet ⟨rfl, rfl, rfl⟩ ⟨rfl, rfl, rfl, rfl, rfl, rfl, rfl⟩ (Nat.le_refl _)
  | claimDeposit epochId =>
      obtain ⟨_, changed, rfl⟩ := withVault_ok.mp success
      obtain ⟨_, -, -, -, -, -, -, rfl⟩ := Vault.claimDeposit_ok changed
      exact vault_quiet ⟨rfl, rfl, rfl⟩ ⟨rfl, rfl, rfl, rfl, rfl, rfl, rfl⟩ (Nat.le_refl _)
  | claimRedeem epochId =>
      obtain ⟨_, _, moved, rfl⟩ := withMoved_ok.mp success
      obtain ⟨_, -, -, -, -, -, -, -, rfl⟩ := Vault.claimRedeem_ok moved
      exact vault_quiet ⟨rfl, rfl, rfl⟩ ⟨rfl, rfl, rfl, rfl, rfl, rfl, rfl⟩ (Nat.le_refl _)
  | refundDeposit epochId =>
      obtain ⟨_, _, moved, rfl⟩ := withMoved_ok.mp success
      obtain ⟨_, -, -, -, -, -, -, -, rfl⟩ := Vault.refundDeposit_ok moved
      exact vault_quiet ⟨rfl, rfl, rfl⟩ ⟨rfl, rfl, rfl, rfl, rfl, rfl, rfl⟩ (Nat.le_refl _)
  | refundRedeem epochId =>
      obtain ⟨_, changed, rfl⟩ := withVault_ok.mp success
      obtain ⟨_, -, -, -, -, -, -, rfl⟩ := Vault.refundRedeem_ok changed
      exact vault_quiet ⟨rfl, rfl, rfl⟩ ⟨rfl, rfl, rfl, rfl, rfl, rfl, rfl⟩ (Nat.le_refl _)
  | pause =>
      obtain ⟨_, changed, rfl⟩ := withVault_ok.mp success
      obtain ⟨-, rfl⟩ := Vault.pause_ok changed
      exact vault_quiet ⟨rfl, rfl, rfl⟩ ⟨rfl, rfl, rfl, rfl, rfl, rfl, rfl⟩ (Nat.le_refl _)
  | unpause =>
      obtain ⟨_, changed, rfl⟩ := withVault_ok.mp success
      obtain ⟨-, rfl⟩ := Vault.unpause_ok changed
      exact vault_quiet ⟨rfl, rfl, rfl⟩ ⟨rfl, rfl, rfl, rfl, rfl, rfl, rfl⟩ (Nat.le_refl _)
  | freeze =>
      obtain ⟨_, changed, rfl⟩ := withVault_ok.mp success
      obtain ⟨-, rfl⟩ := Vault.freeze_ok changed
      exact vault_quiet ⟨rfl, rfl, rfl⟩ ⟨rfl, rfl, rfl, rfl, rfl, rfl, rfl⟩ (Nat.le_refl _)
  | observeInbound =>
      obtain ⟨_, changed, rfl⟩ := withVault_ok.mp success
      obtain ⟨fixed, remote, drains⟩ := recordSurplus_frame changed
      exact vault_quiet fixed remote drains
  | bindRemoteAccounting coordinator => exact absurd rfl (unbinding coordinator)
  -- The vault answers these only when the coordinator calls.
  | beginOutbound amount sink =>
      obtain ⟨_, _, moved, -⟩ := withMoved_ok.mp success
      obtain ⟨_, _, _, granted, -⟩ := Vault.beginOutbound_ok moved
      exact absurd granted unauthorized
  | completeAllocation amount reported =>
      obtain ⟨_, changed, -⟩ := withVault_ok.mp success
      obtain ⟨_, _, granted, -⟩ := Vault.completeAllocation_iff.mp changed
      exact absurd granted unauthorized
  | closeAllocation claim credited =>
      obtain ⟨_, changed, -⟩ := withVault_ok.mp success
      obtain ⟨_, _, _, _, granted, -⟩ := Vault.closeAllocation_iff.mp changed
      exact absurd granted unauthorized
  | recoverImpairment amount =>
      obtain ⟨_, changed, -⟩ := withVault_ok.mp success
      obtain ⟨_, _, _, granted, -⟩ := Vault.recoverImpairment_iff.mp changed
      exact absurd granted unauthorized
  | applyRemoteValuation reported =>
      obtain ⟨_, changed, -⟩ := withVault_ok.mp success
      exact absurd (Vault.applyRemoteValuation_iff.mp changed).1 unauthorized
  | beginRecall transferId amount =>
      obtain ⟨_, changed, -⟩ := withVault_ok.mp success
      exact absurd (Vault.beginRecall_ok changed).1 unauthorized
  | applyRecallSent principal actual loss =>
      obtain ⟨_, changed, -⟩ := withVault_ok.mp success
      obtain ⟨_, _, _, _, _, _, granted, -⟩ := Vault.applyRecallSent_iff.mp changed
      exact absurd granted unauthorized
  | lockRemoteValuation epochId =>
      obtain ⟨_, changed, -⟩ := withVault_ok.mp success
      obtain ⟨_, granted, -⟩ := Vault.lockRemoteValuation_iff.mp changed
      exact absurd granted unauthorized
  | allocate transferId amount minimum deadline stamps =>
      obtain ⟨sent, acts⟩ := allocate_acts success
      exact ⟨some sent, acts⟩
  | «recall» transferId amount minimum deadline stamps =>
      obtain ⟨sent, acts⟩ := recall_acts success
      exact ⟨some sent, acts⟩
  | admitTransfer transferId stamps =>
      obtain ⟨sent, acts⟩ := admit_acts success
      exact ⟨some sent, acts⟩
  | close transferId stamps =>
      obtain ⟨sent, acts⟩ := close_acts success
      exact ⟨some sent, acts⟩
  | recover recoveryId stamps =>
      obtain ⟨sent, acts⟩ := recover_acts success
      exact ⟨some sent, acts⟩
  | processRemoteReport authentic header body => exact ⟨none, processRemoteReport_acts success⟩
  | processRecallSent authentic header body => exact ⟨none, processRecallSent_acts success⟩
  | processTransportSettlement authentic header body =>
      exact ⟨none, processTransportSettlement_acts success⟩

end World

end Evm
