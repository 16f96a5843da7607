import CrossChainVault.Evm.Hub
import CrossChainVault.Evm.Solvency

set_option autoImplicit false

/- The coordinator's cycle and the vault's remote buckets move together. -/

namespace Evm

open Result Protocol

/-- The open cycle as both contracts record it. `next` is the next outbound sequence. -/
structure Coupled (h : Hub) (next : Nat) : Prop where
  outbound : h.outbound = if h.kind = .allocate then h.amount else 0
  recallPrincipal : h.recallPrincipal = if h.kind = .recall then h.amount else 0
  recallId : h.recallId = if h.kind = .recall then h.transferId else .zero
  closing : h.closing = true → h.kind = .allocate
  sized : h.kind = .allocate → h.amount ≠ 0
  covered : h.kind = .recall → h.amount ≤ h.cap
  accepted : h.accepted ≤ h.cap
  started : 0 < next
  sequence : h.sequence < next
  active : h.sequence ≠ 0 ↔ h.kind ≠ .none
  -- No message carries more than a 128-bit amount out.
  total : h.cap + h.outbound + h.impaired + h.recognizedLoss + h.inbound ≤ next * 2 ^ 128

namespace Coupled

variable {h h' : Hub} {next : Nat}

/-- A message that opens a cycle takes the next sequence. -/
theorem numbered (kind : CycleKind) {sequence : Nat} (started : 0 < next)
    (taken : sequence = next) (active : kind ≠ .none) :
    sequence < next + 1 ∧ (sequence ≠ 0 ↔ kind ≠ .none) :=
  ⟨by omega, fun _ => active, fun _ => by omega⟩

/-- While no cycle is open, nothing is on its way. -/
theorem idle (coupled : Coupled h next) (none : h.kind = .none) :
    h.outbound = 0 ∧ h.recallPrincipal = 0 ∧ h.recallId = .zero ∧ h.closing = false := by
  have empty := coupled.outbound
  have noRecall := coupled.recallPrincipal
  have noId := coupled.recallId
  simp only [none, reduceCtorEq, if_false] at empty noRecall noId
  refine ⟨empty, noRecall, noId, ?_⟩
  by_contra closing
  have allocating := coupled.closing (by simpa using closing)
  rw [none] at allocating
  cases allocating

/-- What holds of any hub whose cycle is over. -/
theorem ended {t : Terms} (kind : t.kind = .none) (sequence : t.sequence = 0)
    (closing : t.closing = false) {accepted inbound : Nat} (started : 0 < next)
    (within : accepted ≤ t.cap)
    (total : t.cap + t.impaired + t.recognizedLoss + inbound ≤ next * 2 ^ 128) :
    Coupled ⟨t, 0, accepted, inbound, .zero, 0⟩ next where
  outbound := by simp [kind]
  recallPrincipal := by simp [kind]
  recallId := by simp [kind]
  closing isClosing := by simp [closing] at isClosing
  sized allocating := by simp [kind] at allocating
  covered recalling := by simp [kind] at recalling
  accepted := within
  started := started
  sequence := by
    show t.sequence < next
    omega
  active := by simp [kind, sequence]
  total := by
    show t.cap + 0 + t.impaired + t.recognizedLoss + inbound ≤ next * 2 ^ 128
    omega

theorem step {next' : Nat} {taken sent : Option Message} (step : HubStep h taken sent h')
    (counts : match sent with
      | none => next' = next
      | some message => message.header.sequence.raw = next ∧ next' = next + 1)
    (coupled : Coupled h next) : Coupled h' next' := by
  have total := coupled.total
  have accepted := coupled.accepted
  have started := coupled.started
  cases step with
  | quiet inbound drains =>
      subst counts
      refine { coupled with total := ?_ }
      dsimp only
      omega
  | allocated message body hBody none named fresh nonzero inbound drains =>
      obtain ⟨taken, rfl⟩ := counts
      have size := body.amount.bound
      obtain ⟨empty, noRecall, noId, -⟩ := coupled.idle none
      obtain ⟨earlier, active⟩ := numbered .allocate started taken (by decide)
      refine ⟨?_, noRecall, noId, fun _ => rfl, fun _ => nonzero, nofun, accepted, by omega,
        earlier, active, ?_⟩
      · show h.outbound + body.amount.raw = body.amount.raw
        omega
      · show h.cap + (h.outbound + body.amount.raw) + h.impaired + h.recognizedLoss + inbound ≤ _
        omega
  | recalled message body hBody none named fresh nonzero covered =>
      obtain ⟨taken, rfl⟩ := counts
      obtain ⟨empty, -, -, running⟩ := coupled.idle none
      obtain ⟨earlier, active⟩ := numbered .recall started taken (by decide)
      refine ⟨empty, rfl, rfl, ?_, nofun, fun _ => covered, accepted, by omega, earlier, active, ?_⟩
      · intro closing
        exact absurd (running.symm.trans closing) (by decide)
      · exact Nat.le_trans total (Nat.mul_le_mul_right _ (Nat.le_succ _))
  | admitted message body hBody action active same target running =>
      obtain ⟨-, rfl⟩ := counts
      exact { coupled with
        started := by omega
        sequence := Nat.lt_succ_of_lt coupled.sequence
        total := Nat.le_trans total (Nat.mul_le_mul_right _ (Nat.le_succ _)) }
  | closing message body hBody action active same target running =>
      obtain ⟨-, rfl⟩ := counts
      exact { coupled with
        closing := fun _ => active
        started := by omega
        sequence := Nat.lt_succ_of_lt coupled.sequence
        total := Nat.le_trans total (Nat.mul_le_mul_right _ (Nat.le_succ _)) }
  | recovering message body hBody action none named fresh impaired target =>
      obtain ⟨taken, rfl⟩ := counts
      obtain ⟨empty, noRecall, noId, running⟩ := coupled.idle none
      obtain ⟨earlier, active⟩ := numbered .recover started taken (by decide)
      refine ⟨empty, noRecall, noId, ?_, nofun, nofun, accepted, by omega, earlier, active, ?_⟩
      · intro closing
        exact absurd (running.symm.trans closing) (by decide)
      · exact Nat.le_trans total (Nat.mul_le_mul_right _ (Nat.le_succ _))
  | heard message body hBody grows value within =>
      subst counts
      exact { coupled with accepted := by dsimp only; omega, total := total }
  | completed message body hBody grows active running names covered value within =>
      subst counts
      have whole := coupled.outbound
      have noRecall := coupled.recallPrincipal
      have noId := coupled.recallId
      simp only [active, reduceCtorEq, if_true, if_false] at whole noRecall noId
      rw [noRecall, noId, whole, Nat.sub_self]
      exact ended rfl rfl rfl started within (by
        show h.cap + h.amount + h.impaired + h.recognizedLoss + h.inbound ≤ _
        omega)
  | returned message body hBody active names split covered value inbound within arriving =>
      subst counts
      have empty := coupled.outbound
      simp only [active, reduceCtorEq, if_false] at empty
      rw [empty]
      refine ended rfl rfl rfl started ?_ ?_
      · show value ≤ h.cap - body.principalSent.raw
        omega
      · show h.cap - body.principalSent.raw + h.impaired +
          (h.recognizedLoss + body.realizedLoss.raw) + inbound ≤ _
        omega
  | closed message body hBody kind active closing names claim within covered =>
      subst counts
      have whole := coupled.outbound
      have noRecall := coupled.recallPrincipal
      have noId := coupled.recallId
      simp only [active, reduceCtorEq, if_true, if_false] at whole noRecall noId
      rw [noRecall, noId, whole, Nat.sub_self]
      refine ended rfl rfl rfl started ?_ ?_
      · show h.accepted + body.creditedAmount.raw ≤ h.cap + body.creditedAmount.raw
        omega
      · show h.cap + body.creditedAmount.raw + (h.impaired + (h.amount - body.creditedAmount.raw)) +
          h.recognizedLoss + h.inbound ≤ _
        omega
  | recovered message body hBody kind active names within =>
      subst counts
      have empty := coupled.outbound
      have noRecall := coupled.recallPrincipal
      have noId := coupled.recallId
      simp only [active, reduceCtorEq, if_false] at empty noRecall noId
      rw [empty, noRecall, noId]
      refine ended rfl rfl rfl started ?_ ?_
      · show h.accepted + body.creditedAmount.raw ≤ h.cap + body.creditedAmount.raw
        omega
      · show h.cap + body.creditedAmount.raw + (h.impaired - body.creditedAmount.raw) +
          h.recognizedLoss + h.inbound ≤ _
        omega

end Coupled

theorem Acts.coupled {hashing : Hashing} {w w' : World} {taken sent : Option Message}
    (acts : Acts hashing w taken sent w')
    (coupled : Coupled w.hub w.coordinator.outboundNextSequence.raw) :
    Coupled w'.hub w'.coordinator.outboundNextSequence.raw := by
  refine coupled.step acts.hub ?_
  have published := acts.moves.published
  cases sent with
  | none => exact congrArg Unsigned.raw published.1
  | some message =>
      obtain ⟨stamps, header⟩ := published.1.header
      refine ⟨?_, published.2.1⟩
      rw [header]
      rfl

/-- A transaction the coordinator does not send, and which binds the vault to no other. -/
structure Outside (d : Deployment) (tx : Msg × Call) : Prop where
  coordinator : tx.1.sender ≠ d.coordinatorAddress
  binds : ∀ coordinator, tx.2 = .bindRemoteAccounting coordinator →
    coordinator = d.coordinatorAddress

/-- The two contracts of a deployment, in step. -/
structure Paired (d : Deployment) (w : World) : Prop where
  self : w.coordinator.self = d.coordinatorAddress
  trusted : w.vault.remoteAccounting.raw ≠ 0 → w.vault.remoteAccounting = w.coordinator.self
  coupled : Coupled w.hub w.coordinator.outboundNextSequence.raw

/-- A transaction binds the vault to its coordinator, or is one of the moves of the hub. -/
theorem Paired.acts {hashing : Hashing} {d : Deployment} {w w' : World} {tx : Msg × Call}
    (paired : Paired d w) (outside : Outside d tx)
    (success : w.step hashing tx.1 tx.2 = .ok w') :
    tx.2.delivered = none ∧ w.vault.remoteAccounting.raw = 0 ∧
      w' = { w with vault := { w.vault with remoteAccounting := d.coordinatorAddress } } ∨
    ∃ sent, Acts hashing w tx.2.delivered sent w' := by
  by_cases binding : ∃ coordinator, tx.2 = .bindRemoteAccounting coordinator
  · obtain ⟨coordinator, call⟩ := binding
    have named := outside.binds coordinator call
    subst named
    rw [call] at success ⊢
    obtain ⟨_, changed, rfl⟩ := World.withVault_ok.mp success
    obtain ⟨unbound, rfl⟩ := Vault.bindRemoteAccounting_ok changed
    exact .inl ⟨rfl, unbound, rfl⟩
  · have stranger := outside.coordinator
    rw [← paired.self] at stranger
    exact .inr (World.step_acts paired.trusted stranger
      (fun coordinator call => binding ⟨coordinator, call⟩) success)

theorem Paired.step {hashing : Hashing} {d : Deployment} {w w' : World} {tx : Msg × Call}
    (outside : Outside d tx) (success : w.step hashing tx.1 tx.2 = .ok w') (paired : Paired d w) :
    Paired d w' := by
  rcases paired.acts outside success with ⟨-, -, rfl⟩ | ⟨sent, acts⟩
  · exact ⟨paired.self, fun _ => paired.self.symm, paired.coupled⟩
  · refine ⟨acts.moves.coordinator.trans paired.self, ?_, acts.coupled paired.coupled⟩
    rw [acts.moves.bound, acts.moves.coordinator]
    exact paired.trusted

theorem Deployment.paired {d : Deployment} {w : World} (deployed : d.deploy = .ok w) :
    Paired d w := by
  obtain ⟨-, opened, created⟩ := deploy_ok deployed
  obtain ⟨_, _, -, -, hVault⟩ := Vault.openEpoch_ok opened
  simp only [Coordinator.create, bind_eq_ok, rejectIf_eq_ok, exists_const, pure_eq_ok] at created
  obtain ⟨-, -, _, -, hCoordinator⟩ := created
  refine ⟨?_, ?_, ?_⟩
  · rw [← hCoordinator]
  · rw [hVault]
    exact fun named => absurd rfl named
  · have hub : w.hub = ⟨w.hub.toTerms, 0, 0, 0, .zero, 0⟩ := by
      simp only [World.hub, hVault]
      rfl
    rw [hub]
    refine Coupled.ended ?_ ?_ ?_ ?_ (Nat.zero_le _) ?_
    · show w.coordinator.activeCycleKind = .none
      rw [← hCoordinator]
    · show w.coordinator.activeSequence.raw = 0
      rw [← hCoordinator]
      rfl
    · show w.coordinator.closeRequested = false
      rw [← hCoordinator]
    · rw [← hCoordinator]
      exact Nat.zero_lt_one
    · show w.vault.remotePrincipalCap.raw + w.vault.impairedTransport.raw +
        w.vault.recognizedLoss.raw + 0 ≤ _
      rw [hVault]
      exact Nat.zero_le _

theorem Vault.lockRemoteValuation_succeeds {v : Vault} {sender : Address} {epochId : Uint64}
    (granted : v.remoteAccounting.raw ≠ 0 ∧ sender = v.remoteAccounting)
    (unlocked : v.epochRemoteValuationLocked epochId = false)
    (fits : v.idleBacking.raw + v.outboundInTransit.raw + v.acceptedRemoteValue.raw +
      v.inboundInTransit.raw < 2 ^ 256) : ∃ v', v.lockRemoteValuation sender epochId = .ok v' :=
  ⟨_, lockRemoteValuation_iff.mpr ⟨⟨_, fits⟩, granted, unlocked, rfl, rfl⟩⟩

theorem Vault.applyRecallSent_succeeds {v : Vault} {sender : Address}
    {principal actual loss : Uint256}
    (granted : v.remoteAccounting.raw ≠ 0 ∧ sender = v.remoteAccounting)
    (nonzero : principal.raw ≠ 0) (split : principal.raw = actual.raw + loss.raw)
    (covered : principal.raw ≤ v.remotePrincipalCap.raw)
    (recognizes : v.recognizedLoss.raw + loss.raw < 2 ^ 256)
    (holds : v.idleBacking.raw + v.unattributedInbound.raw < 2 ^ 256)
    (arrives : v.inboundInTransit.raw + actual.raw < 2 ^ 256) :
    ∃ v', v.applyRecallSent sender principal actual loss = .ok v' := by
  have cap := v.remotePrincipalCap.bound
  have accepted := v.acceptedRemoteValue.bound
  have unattributed := v.unattributedInbound.bound
  exact ⟨_, applyRecallSent_iff.mpr ⟨⟨v.remotePrincipalCap.raw - principal.raw, by omega⟩,
    ⟨v.acceptedRemoteValue.raw - principal.raw, by omega⟩, ⟨_, recognizes⟩,
    ⟨v.unattributedInbound.raw - actual.raw, by omega⟩,
    ⟨v.idleBacking.raw + min actual.raw v.unattributedInbound.raw, by omega⟩,
    ⟨v.inboundInTransit.raw + (actual.raw - v.unattributedInbound.raw), by omega⟩, granted,
    nonzero, split, Nat.sub_add_cancel covered, rfl, rfl, rfl, rfl, rfl, rfl⟩⟩

/-- What the coordinator checks of every message before it reads the body. -/
structure Received (w : World) (authentic : Bool) (header : Header) (version : Uint64) : Prop where
  authentic : authentic = true
  wellFormed : ProtocolCodec.validateHeader header = .ok ()
  expected : w.coordinator.Expects header
  sameVersion : version = w.configVersion
  advances : w.coordinator.inboundExpectedSequence.raw + 1 < 2 ^ 64

/-- The cycle a settlement has to agree with, as the coordinator checks it. -/
def World.Settles (w : World) (body : TransportSettlementBody) : Prop :=
  match body.kind with
  | .closed => w.coordinator.activeCycleKind = .allocate ∧ w.coordinator.closeRequested = true ∧
      body.claimAmount = w.coordinator.activeAmount ∧ body.impairedOutstanding.raw =
        w.vault.impairedTransport.raw + (body.claimAmount.raw - body.creditedAmount.raw)
  | .recovered => w.coordinator.activeCycleKind = .recover ∧
      body.claimAmount.raw = w.vault.impairedTransport.raw

namespace Paired

variable {hashing : Hashing} {d : Deployment} {w : World} {msg : Msg} {header : Header}

/-- The asset's supply leaves room for everything the lanes can carry: fewer than `2 ^ 64`
messages of less than `2 ^ 128` each. -/
def Room (w : World) : Prop := w.asset.totalSupply.raw + 2 ^ 192 ≤ 2 ^ 256

/-- No sum of the vault's buckets overflows. -/
theorem fits (paired : Paired d w) (funded : Funded d.vaultAddress w) (room : Room w) :
    w.vault.idleBacking.raw + w.vault.remotePrincipalCap.raw + w.vault.outboundInTransit.raw +
      w.vault.impairedTransport.raw + w.vault.recognizedLoss.raw + w.vault.inboundInTransit.raw <
      2 ^ 256 := by
  have covered : w.vault.pendingDepositEscrow.raw + w.vault.claimReserve.raw +
      (w.vault.idleBacking.raw + w.vault.unattributedBalance.raw +
        w.vault.unattributedInbound.raw) ≤ (w.asset.balanceOf w.vault.self).raw :=
    funded.purse.covered
  have supply := funded.keeps.asset.covered
  have total : w.vault.remotePrincipalCap.raw + w.vault.outboundInTransit.raw +
      w.vault.impairedTransport.raw + w.vault.recognizedLoss.raw + w.vault.inboundInTransit.raw ≤
      w.coordinator.outboundNextSequence.raw * 2 ^ 128 := paired.coupled.total
  have messages : w.coordinator.outboundNextSequence.raw * 2 ^ 128 ≤ (2 ^ 64 - 1) * 2 ^ 128 :=
    Nat.mul_le_mul_right _ (Nat.le_sub_one_of_lt w.coordinator.outboundNextSequence.bound)
  have carried : (2 ^ 64 - 1) * 2 ^ 128 < 2 ^ 192 := by decide
  unfold Room at room
  omega

/-- An open allocation can be completed: it is exactly what is in transit. -/
theorem completeAllocation (paired : Paired d w) (funded : Funded d.vaultAddress w) (room : Room w)
    (bound : Bound w)
    (reported : Uint128) (allocating : w.coordinator.activeCycleKind = .allocate) :
    ∃ w', w.completeAllocation reported = .ok w' := by
  have fits := paired.fits funded room
  have whole : w.vault.outboundInTransit.raw = _ := paired.coupled.outbound
  rw [if_pos (show w.hub.kind = .allocate from allocating)] at whole
  have size : w.coordinator.activeAmount.raw ≠ 0 := paired.coupled.sized allocating
  have within : w.vault.outboundInTransit.raw = w.coordinator.activeAmount.raw := whole
  have named : w.vault.remoteAccounting.raw ≠ 0 := by
    rw [bound.bound]
    exact bound.named
  have success : ∃ v, w.vault.completeAllocation w.coordinator.self
      (toUint256 w.coordinator.activeAmount) (toUint256 reported) = .ok v :=
    ⟨_, Vault.completeAllocation_iff.mpr ⟨.zero,
      ⟨w.vault.remotePrincipalCap.raw + w.coordinator.activeAmount.raw, by omega⟩,
      ⟨named, bound.bound.symm⟩, size, (Nat.zero_add _).trans within.symm, rfl, rfl⟩⟩
  obtain ⟨v, hVault⟩ := success
  exact ⟨{ w with vault := v, coordinator := w.coordinator.clearCycle },
    World.completeAllocation_ok.mpr ⟨hVault, rfl, rfl⟩⟩

/-- What dealing with the cycle leaves for the price of a report. -/
theorem completeIfNamed_frame {completed : World} {body : RemoteReportBody}
    (success : w.completeIfNamed body = .ok completed) :
    completed.vault.remoteAccounting = w.vault.remoteAccounting ∧
    completed.coordinator.self = w.coordinator.self ∧
    completed.vault.epochRemoteValuationLocked = w.vault.epochRemoteValuationLocked ∧
    completed.vault.idleBacking = w.vault.idleBacking ∧
    completed.vault.inboundInTransit = w.vault.inboundInTransit ∧
    completed.vault.outboundInTransit.raw + completed.vault.remotePrincipalCap.raw =
      w.vault.outboundInTransit.raw + w.vault.remotePrincipalCap.raw := by
  unfold World.completeIfNamed at success
  split at success
  · obtain ⟨hVault, hCoordinator, -⟩ := World.completeAllocation_ok.mp success
    obtain ⟨outbound, cap, -, -, hOutbound, hCap, changed⟩ :=
      Vault.completeAllocation_iff.mp hVault
    rw [changed, hCoordinator]
    refine ⟨rfl, rfl, rfl, rfl, rfl, ?_⟩
    show outbound.raw + cap.raw = _
    omega
  · rw [pure_eq_ok] at success
    subst success
    exact ⟨rfl, rfl, rfl, rfl, rfl, rfl⟩

/-- Whatever a report finds, applying it never reverts. -/
theorem applyReport (paired : Paired d w) (funded : Funded d.vaultAddress w) (room : Room w)
    (bound : Bound w)
    (body : RemoteReportBody) : ∃ result, w.applyReport msg header body = .ok result := by
  have fits := paired.fits funded room
  have accepted : w.vault.acceptedRemoteValue.raw ≤ w.vault.remotePrincipalCap.raw :=
    paired.coupled.accepted
  have named : w.vault.remoteAccounting.raw ≠ 0 := by
    rw [bound.bound]
    exact bound.named
  have completes : w.completes body = true →
      ∃ w', w.completeAllocation body.reportedValue = .ok w' := by
    intro names
    simp only [World.completes, Bool.and_eq_true, decide_eq_true_eq] at names
    exact paired.completeAllocation funded room bound body.reportedValue names.1.1
  have named' : ∃ completed, w.completeIfNamed body = .ok completed := by
    unfold World.completeIfNamed
    split
    · rename_i names
      exact completes names
    · exact ⟨w, rfl⟩
  unfold World.applyReport
  split
  · exact ⟨_, rfl⟩
  split
  · exact ⟨_, rfl⟩
  split
  · split
    · rename_i names
      have carried : w.vault.outboundInTransit.raw = w.coordinator.activeAmount.raw := by
        simp only [World.completes, Bool.and_eq_true, decide_eq_true_eq] at names
        have whole := paired.coupled.outbound
        rwa [if_pos (show w.hub.kind = .allocate from names.1.1)] at whole
      have weighs : ∃ keepsNav, w.completionKeepsNav body.reportedValue = .ok keepsNav := by
        simp only [World.completionKeepsNav, bind_eq_ok, add_ok, pure_eq_ok, toUint256_raw]
        exact ⟨_, ⟨w.vault.remotePrincipalCap.raw + w.coordinator.activeAmount.raw, by omega⟩, rfl,
          ⟨w.vault.acceptedRemoteValue.raw + w.coordinator.activeAmount.raw, by omega⟩, rfl, rfl⟩
      obtain ⟨keepsNav, hKeeps⟩ := weighs
      obtain ⟨w', completed⟩ := completes names
      cases keepsNav with
      | true => exact ⟨_, bind_eq_ok.mpr ⟨true, hKeeps, bind_eq_ok.mpr ⟨w', completed, rfl⟩⟩⟩
      | false => exact ⟨_, bind_eq_ok.mpr ⟨false, hKeeps, rfl⟩⟩
    · exact ⟨_, rfl⟩
  rename_i unfixed
  split
  · exact ⟨_, rfl⟩
  split
  · exact ⟨_, rfl⟩
  obtain ⟨completed, hCompleted⟩ := named'
  obtain ⟨sameBound, sameSelf, sameLocks, sameIdle, sameInbound, together⟩ :=
    completeIfNamed_frame hCompleted
  have granted : completed.vault.remoteAccounting.raw ≠ 0 ∧
      completed.coordinator.self = completed.vault.remoteAccounting := by
    rw [sameBound, sameSelf]
    exact ⟨named, bound.bound.symm⟩
  obtain ⟨valued, hValued⟩ : ∃ valued, completed.applyRemoteValuation body = .ok valued :=
    ⟨_, World.applyRemoteValuation_ok.mpr ⟨granted, rfl⟩⟩
  by_cases cutoff : w.atCutoff = true
  · have unlocked : w.vault.epochRemoteValuationLocked w.vault.currentEpochId = false := by
      simpa [cutoff, World.locked] using unfixed
    have locks : ∃ vault, valued.vault.lockRemoteValuation w.coordinator.self
        w.vault.currentEpochId = .ok vault := by
      obtain ⟨-, rfl⟩ := World.applyRemoteValuation_ok.mp hValued
      rw [sameSelf] at granted
      refine Vault.lockRemoteValuation_succeeds granted ((congrFun sameLocks _).trans unlocked) ?_
      have idle := congrArg Unsigned.raw sameIdle
      have inbound := congrArg Unsigned.raw sameInbound
      show completed.vault.idleBacking.raw + completed.vault.outboundInTransit.raw +
        (completed.vault.setAcceptedRemoteValue _).acceptedRemoteValue.raw +
        completed.vault.inboundInTransit.raw < 2 ^ 256
      rw [Vault.setAcceptedRemoteValue_raw]
      omega
    obtain ⟨vault, hVault⟩ := locks
    refine ⟨({ valued with vault := vault }, .none), bind_eq_ok.mpr ⟨completed, hCompleted,
      bind_eq_ok.mpr ⟨valued, hValued, ?_⟩⟩⟩
    rw [if_pos cutoff]
    exact bind_eq_ok.mpr ⟨vault, hVault, rfl⟩
  · refine ⟨(valued, .none), bind_eq_ok.mpr ⟨completed, hCompleted,
      bind_eq_ok.mpr ⟨valued, hValued, ?_⟩⟩⟩
    rw [if_neg cutoff]
    rfl

/-- A report the coordinator accepts never fails in the vault. -/
theorem processRemoteReport (paired : Paired d w) (funded : Funded d.vaultAddress w) (room : Room w)
    (bound : Bound w)
    {authentic : Bool} {body : RemoteReportBody}
    (received : Received w authentic header body.configVersion)
    (valid : ProtocolCodec.validateRemoteReport body header.observedAt = .ok ())
    (grows : w.coordinator.lastInboundCumulativeLoss.raw ≤ body.realizedLoss.raw) :
    ∃ w', w.step hashing msg (.processRemoteReport authentic header body) = .ok w' := by
  have coupled := paired.coupled
  let advanced : World := { w with coordinator := { w.coordinator with
    lastInboundCumulativeLoss := body.realizedLoss
    inboundLatestCommitment := hashing.extend w.coordinator.inboundLatestCommitment
      ⟨header, .remoteReport body⟩
    inboundExpectedSequence :=
      ⟨w.coordinator.inboundExpectedSequence.raw + 1, received.advances⟩ } }
  have still : Coupled advanced.hub advanced.coordinator.outboundNextSequence.raw :=
    ⟨coupled.outbound, coupled.recallPrincipal, coupled.recallId, coupled.closing, coupled.sized,
      coupled.covered, coupled.accepted, coupled.started, coupled.sequence, coupled.active,
      coupled.total⟩
  have pairedStill : Paired d advanced := ⟨paired.self, paired.trusted, still⟩
  have fundedStill : Funded d.vaultAddress advanced :=
    ⟨funded.self, ⟨funded.keeps.asset, funded.keeps.shares⟩, funded.purse⟩
  obtain ⟨⟨w', reason⟩, applied⟩ : ∃ result, advanced.applyReport msg header body = .ok result :=
    pairedStill.applyReport fundedStill room ⟨bound.bound, bound.named⟩ body
  exact ⟨w', World.processRemoteReport_iff.mpr ⟨_, reason, received.authentic,
    received.wellFormed, valid, received.expected, received.sameVersion, grows, rfl, applied⟩⟩

/-- A recall notice the coordinator accepts never fails in the vault. -/
theorem processRecallSent (paired : Paired d w) (funded : Funded d.vaultAddress w) (room : Room w)
    (bound : Bound w)
    {authentic : Bool} {body : RecallSentBody}
    (received : Received w authentic header body.configVersion)
    (valid : ProtocolCodec.validateRecallSent body header.observedAt = .ok ())
    (recalling : w.coordinator.activeCycleKind = .recall)
    (names : body.transferId = w.coordinator.activeTransferId)
    (within : body.principalSent.raw ≤ w.coordinator.activeAmount.raw)
    (destination : body.destinationReference =
      w.coordinator.identities.expectedDestinationReference)
    (split : body.actualAmountSent.raw + body.realizedLoss.raw = body.principalSent.raw)
    (loss : w.coordinator.recallBaselineLoss.raw + body.realizedLoss.raw < 2 ^ 128) :
    ∃ w', w.step hashing msg (.processRecallSent authentic header body) = .ok w' := by
  have fits := paired.fits funded room
  have covered : w.coordinator.activeAmount.raw ≤ w.vault.remotePrincipalCap.raw :=
    paired.coupled.covered recalling
  obtain ⟨total, hTotal, -⟩ := funded.accounted
  have accounted := Vault.accountedAssets_ok.mp hTotal
  have held := total.bound
  have granted : w.vault.remoteAccounting.raw ≠ 0 ∧
      w.coordinator.self = w.vault.remoteAccounting := by
    rw [bound.bound]
    exact ⟨bound.named, rfl⟩
  have nonzero : body.principalSent.raw ≠ 0 := by
    simp only [ProtocolCodec.validateRecallSent, bind_eq_ok, rejectIf_eq_ok, exists_const,
      Unsigned.isZero_iff] at valid
    exact valid.2.2.1
  obtain ⟨restored, hRestored⟩ : ∃ restored, w.restoreBaseline = .ok restored := by
    dsimp only [World.restoreBaseline]
    split
    · exact ⟨_, rfl⟩
    · exact ⟨_, Vault.applyRemoteValuation_iff.mpr ⟨granted, rfl⟩⟩
  obtain ⟨value, rfl, hValue⟩ := World.restoreBaseline_frame hRestored
  obtain ⟨v, hVault⟩ : ∃ v, ({ w.vault with acceptedRemoteValue := value }).applyRecallSent
      w.coordinator.self (toUint256 body.principalSent) (toUint256 body.actualAmountSent)
      (toUint256 body.realizedLoss) = .ok v := by
    refine Vault.applyRecallSent_succeeds ?_ nonzero split.symm ?_ ?_ ?_ ?_
    · exact granted
    · exact Nat.le_trans within covered
    · show w.vault.recognizedLoss.raw + body.realizedLoss.raw < 2 ^ 256
      omega
    · show w.vault.idleBacking.raw + w.vault.unattributedInbound.raw < 2 ^ 256
      omega
    · show w.vault.inboundInTransit.raw + body.actualAmountSent.raw < 2 ^ 256
      omega
  exact ⟨⟨w.asset, v, _⟩, World.processRecallSent_iff.mpr ⟨⟨_, received.advances⟩, ⟨_, loss⟩, _,
    received.authentic, received.wellFormed, valid, received.expected, received.sameVersion,
    recalling, names, within, destination, split, rfl, rfl, hRestored, hVault, rfl, rfl⟩⟩

/-- A settlement the coordinator accepts never fails in the vault. -/
theorem processTransportSettlement (paired : Paired d w) (funded : Funded d.vaultAddress w) (room : Room w)
    (bound : Bound w)
    {authentic : Bool} {body : TransportSettlementBody}
    (received : Received w authentic header body.configVersion)
    (valid : ProtocolCodec.validateTransportSettlement body = .ok ())
    (names : body.transferId = w.coordinator.activeTransferId)
    (settles : w.Settles body) :
    ∃ w', w.step hashing msg (.processTransportSettlement authentic header body) = .ok w' := by
  have fits := paired.fits funded room
  have accepted : w.vault.acceptedRemoteValue.raw ≤ w.vault.remotePrincipalCap.raw :=
    paired.coupled.accepted
  have granted : w.vault.remoteAccounting.raw ≠ 0 ∧
      w.coordinator.self = w.vault.remoteAccounting := by
    rw [bound.bound]
    exact ⟨bound.named, rfl⟩
  have checked : body.claimAmount.raw ≠ 0 ∧ body.creditedAmount.raw ≤ body.claimAmount.raw := by
    simp only [ProtocolCodec.validateTransportSettlement, bind_eq_ok, rejectIf_eq_ok, exists_const,
      Unsigned.isZero_iff, Unsigned.lt_def, Nat.not_lt] at valid
    exact ⟨valid.2.1, valid.2.2.1⟩
  have whole := paired.coupled.outbound
  unfold World.Settles at settles
  cases kind : body.kind with
  | closed =>
      rw [kind] at settles
      obtain ⟨allocating, closing, claim, outstanding⟩ := settles
      rw [if_pos (show w.hub.kind = .allocate from allocating)] at whole
      have transit : w.vault.outboundInTransit.raw = w.coordinator.activeAmount.raw := whole
      rw [← claim] at transit
      obtain ⟨v, hVault⟩ : ∃ v, w.vault.closeAllocation w.coordinator.self
          (toUint256 body.claimAmount) (toUint256 body.creditedAmount) = .ok v :=
        ⟨_, Vault.closeAllocation_iff.mpr ⟨.zero,
          ⟨w.vault.remotePrincipalCap.raw + body.creditedAmount.raw, by omega⟩,
          ⟨w.vault.acceptedRemoteValue.raw + body.creditedAmount.raw, by omega⟩,
          ⟨w.vault.impairedTransport.raw + (body.claimAmount.raw - body.creditedAmount.raw),
            by omega⟩, granted, checked.1, checked.2, (Nat.zero_add _).trans transit.symm, rfl, rfl,
          rfl, rfl⟩⟩
      refine ⟨⟨w.asset, v, { w.coordinator.clearCycle with
        lastImpairedSequence := if body.claimAmount.raw = body.creditedAmount.raw then
          w.coordinator.lastImpairedSequence else w.coordinator.activeSequence
        inboundLatestCommitment := hashing.extend w.coordinator.inboundLatestCommitment
          ⟨header, .transportSettlement body⟩
        inboundExpectedSequence := ⟨_, received.advances⟩ }⟩,
        World.processTransportSettlement_iff.mpr ⟨⟨_, received.advances⟩, received.authentic,
          received.wellFormed, valid, received.expected, received.sameVersion, names, rfl, rfl, ?_⟩⟩
      rw [kind]
      exact ⟨allocating, closing, checked.2, claim, outstanding, hVault, rfl⟩
  | recovered =>
      rw [kind] at settles
      obtain ⟨recovering, claim⟩ := settles
      obtain ⟨v, hVault⟩ : ∃ v, w.vault.recoverImpairment w.coordinator.self
          (toUint256 body.creditedAmount) = .ok v :=
        ⟨_, Vault.recoverImpairment_iff.mpr ⟨
          ⟨w.vault.impairedTransport.raw - body.creditedAmount.raw, by omega⟩,
          ⟨w.vault.remotePrincipalCap.raw + body.creditedAmount.raw, by omega⟩,
          ⟨w.vault.acceptedRemoteValue.raw + body.creditedAmount.raw, by omega⟩, granted,
          Nat.sub_add_cancel (by rw [← claim]; exact checked.2), rfl, rfl, rfl⟩⟩
      refine ⟨⟨w.asset, v, { w.coordinator.clearCycle with
        inboundLatestCommitment := hashing.extend w.coordinator.inboundLatestCommitment
          ⟨header, .transportSettlement body⟩
        inboundExpectedSequence := ⟨_, received.advances⟩ }⟩,
        World.processTransportSettlement_iff.mpr ⟨⟨_, received.advances⟩, received.authentic,
          received.wellFormed, valid, received.expected, received.sameVersion, names, rfl, rfl, ?_⟩⟩
      rw [kind]
      exact ⟨recovering, claim, hVault, rfl⟩

end Paired

/-- The transfer a call opens a cycle for. -/
def Call.opens : Call → Option Bytes32
  | .allocate transferId _ _ _ _ => some transferId
  | .recall transferId _ _ _ _ => some transferId
  | .recover recoveryId _ => some recoveryId
  | _ => none

section Identity

variable {hashing : Hashing} {d : Deployment} {w w' : World} {tx : Msg × Call} {id : Bytes32}

theorem HubStep.used {h h' : Hub} {taken sent : Option Message} (step : HubStep h taken sent h')
    (used : h.used id = true) : h'.used id = true := by
  cases step with
  | allocated | recalled | recovering => exact Terms.still_used used _
  | quiet | admitted | closing | heard | completed | returned | closed | recovered => exact used

theorem Paired.used (paired : Paired d w) (outside : Outside d tx)
    (success : w.step hashing tx.1 tx.2 = .ok w')
    (used : w.coordinator.usedTransferIds id = true) :
    w'.coordinator.usedTransferIds id = true := by
  rcases paired.acts outside success with ⟨-, -, rfl⟩ | ⟨sent, acts⟩
  · exact used
  · exact acts.hub.used used

/-- A cycle opens only for a transfer never used before, and uses it up. -/
theorem World.step_opens {msg : Msg} {call : Call} (success : w.step hashing msg call = .ok w')
    (opens : call.opens = some id) : w.coordinator.usedTransferIds id = false ∧
      w'.coordinator.usedTransferIds id = true := by
  have consumed : ∀ {c : Coordinator} {kind amount deadline message},
      c.consumeOutbound hashing id kind amount deadline message = .ok w'.coordinator →
      w'.coordinator.usedTransferIds id = true := by
    intro c kind amount deadline message opened
    obtain ⟨_, -, changed⟩ := Coordinator.consumeOutbound_ok.mp opened
    rw [changed]
    exact Function.update_self _ _ _
  cases call with
  | allocate transferId amount minimum deadline stamps =>
      cases opens
      obtain ⟨_, _, -, -, -, -, -, -, fresh, -, -, -, -, -, -, -, -, opened, -⟩ :=
        allocate_ok success
      exact ⟨fresh, consumed opened⟩
  | «recall» transferId amount minimum deadline stamps =>
      cases opens
      obtain ⟨_, _, -, -, -, fresh, -, -, -, -, -, -, -, -, -, -, -, opened, -⟩ := recall_ok success
      exact ⟨fresh, consumed opened⟩
  | recover recoveryId stamps =>
      cases opens
      obtain ⟨_, -, -, -, fresh, -, -, opened, -⟩ := recover_ok success
      exact ⟨fresh, consumed opened⟩
  | _ => cases opens

/-- Along any run every transfer opens at most one cycle. -/
theorem Paired.opens_once {calls : List (Msg × Call)} : ∀ {start w : World},
    (∀ tx ∈ calls, Outside d tx) → Paired d start →
    Run.run (fun w tx => w.step hashing tx.1 tx.2) start calls = .ok w →
    (calls.filterMap fun tx => tx.2.opens).Nodup ∧
      ∀ id ∈ calls.filterMap (fun tx => tx.2.opens),
        start.coordinator.usedTransferIds id = false := by
  induction calls with
  | nil =>
      intro start w _ _ _
      exact ⟨List.nodup_nil, nofun⟩
  | cons tx calls ih =>
      intro start w outside paired finished
      obtain ⟨middle, first, rest⟩ := Run.run_cons.mp finished
      have here := outside tx List.mem_cons_self
      obtain ⟨distinct, unused⟩ := ih (fun other member => outside other
        (List.mem_cons_of_mem _ member)) (paired.step here first) rest
      have earlier : ∀ id ∈ calls.filterMap (fun tx => tx.2.opens),
          start.coordinator.usedTransferIds id = false := by
        intro id member
        by_contra used
        have still := paired.used here first (by simpa using used)
        rw [unused id member] at still
        cases still
      cases opened : tx.2.opens with
      | none =>
          simp only [List.filterMap_cons, opened]
          exact ⟨distinct, earlier⟩
      | some transferId =>
          obtain ⟨fresh, spent⟩ := World.step_opens first opened
          simp only [List.filterMap_cons, opened, List.nodup_cons]
          refine ⟨⟨?_, distinct⟩, ?_⟩
          · intro again
            rw [unused transferId again] at spent
            cases spent
          · intro id member
            rcases List.mem_cons.mp member with rfl | member
            · exact fresh
            · exact earlier id member

end Identity

/-- The cycle the coordinator has open, as the vault's buckets show it. -/
structure InStep (w : World) : Prop where
  outbound : w.vault.outboundInTransit.raw =
    if w.coordinator.activeCycleKind = .allocate then w.coordinator.activeAmount.raw else 0
  recallPrincipal : w.vault.pendingRecallPrincipal.raw =
    if w.coordinator.activeCycleKind = .recall then w.coordinator.activeAmount.raw else 0
  recallId : w.vault.pendingRecallId =
    if w.coordinator.activeCycleKind = .recall then w.coordinator.activeTransferId else .zero
  closing : w.coordinator.closeRequested = true → w.coordinator.activeCycleKind = .allocate
  covered : w.coordinator.activeCycleKind = .recall →
    w.coordinator.activeAmount.raw ≤ w.vault.remotePrincipalCap.raw
  accepted : w.vault.acceptedRemoteValue.raw ≤ w.vault.remotePrincipalCap.raw
  sequence : w.coordinator.activeSequence.raw < w.coordinator.outboundNextSequence.raw
  active : w.coordinator.activeSequence.raw ≠ 0 ↔ w.coordinator.activeCycleKind ≠ .none

/-- Whatever passes the coordinator's own checks, the vault carries out. -/
structure CarriedOut (hashing : Hashing) (w : World) : Prop where
  remoteReport : ∀ (msg : Msg) (authentic : Bool) (header : Header) (body : RemoteReportBody),
    Received w authentic header body.configVersion →
    ProtocolCodec.validateRemoteReport body header.observedAt = .ok () →
    w.coordinator.lastInboundCumulativeLoss.raw ≤ body.realizedLoss.raw →
    ∃ w', w.step hashing msg (.processRemoteReport authentic header body) = .ok w'
  recallSent : ∀ (msg : Msg) (authentic : Bool) (header : Header) (body : RecallSentBody),
    Received w authentic header body.configVersion →
    ProtocolCodec.validateRecallSent body header.observedAt = .ok () →
    w.coordinator.activeCycleKind = .recall →
    body.transferId = w.coordinator.activeTransferId →
    body.principalSent.raw ≤ w.coordinator.activeAmount.raw →
    body.destinationReference = w.coordinator.identities.expectedDestinationReference →
    body.actualAmountSent.raw + body.realizedLoss.raw = body.principalSent.raw →
    w.coordinator.recallBaselineLoss.raw + body.realizedLoss.raw < 2 ^ 128 →
    ∃ w', w.step hashing msg (.processRecallSent authentic header body) = .ok w'
  transportSettlement : ∀ (msg : Msg) (authentic : Bool) (header : Header)
      (body : TransportSettlementBody),
    Received w authentic header body.configVersion →
    ProtocolCodec.validateTransportSettlement body = .ok () →
    body.transferId = w.coordinator.activeTransferId → w.Settles body →
    ∃ w', w.step hashing msg (.processTransportSettlement authentic header body) = .ok w'

/-- The coordinator and the vault it is bound to stay in step in every reachable state, no transfer
opens two cycles, and no message is applied to one contract only. -/
theorem coordinator_vault_coupled {hashing : Hashing} {d : Deployment} {start w : World}
    {calls : List (Msg × Call)} (deployed : d.deploy = .ok start)
    (outside : ∀ tx ∈ calls, Outside d tx)
    (finished : Run.run (fun w tx => w.step hashing tx.1 tx.2) start calls = .ok w) :
    InStep w ∧ (calls.filterMap fun tx => tx.2.opens).Nodup ∧
      (d.asset.Kept d.vaultAddress → (∀ tx ∈ calls, tx.1.sender ≠ d.vaultAddress) →
        Paired.Room w → Bound w → CarriedOut hashing w) := by
  have first := Deployment.paired deployed
  have paired : Paired d w := by
    refine Run.run_preserves_of (Paired d) calls ?_ start finished first
    intro tx member w w' success paired
    exact paired.step (outside tx member) success
  have coupled := paired.coupled
  refine ⟨⟨coupled.outbound, coupled.recallPrincipal, coupled.recallId, coupled.closing,
    coupled.covered, coupled.accepted, coupled.sequence, coupled.active⟩,
    (first.opens_once outside finished).1, ?_⟩
  intro asset senders room bound
  have funded := Funded.run senders finished (Deployment.funded deployed asset)
  exact {
    remoteReport := fun _ _ _ _ received valid grows =>
      paired.processRemoteReport funded room bound received valid grows
    recallSent := fun _ _ _ _ received valid recalling names within destination split loss =>
      paired.processRecallSent funded room bound received valid recalling names within destination
        split loss
    transportSettlement := fun _ _ _ _ received valid names settles =>
      paired.processTransportSettlement funded room bound received valid names settles }

section Sample

/-- The vault is bound, settles a deposit, and sends three hundred of it to the remote leg. -/
def sampleAllocating : List (Msg × Call) :=
  (⟨sampleAdmin, .zero⟩, .bindRemoteAccounting samplePlan.coordinatorAddress) :: sampleSettling ++
    [(⟨sampleAdmin, 200⟩, .openNextEpoch),
      (⟨sampleAdmin, 210⟩, .allocate 61 300 290
        900 ⟨210, 210, 800⟩)]

/-- The leg reports the transfer complete. -/
def sampleCompletion : Header × RemoteReportBody where
  fst := {
    sourceChain := samplePlan.identities.solanaChainId
    destinationChain := samplePlan.identities.evmChainId
    sourceApplication := samplePlan.identities.solanaApplication
    destinationApplication := samplePlan.identities.evmApplication
    deploymentId := samplePlan.identities.deploymentId
    vaultId := samplePlan.identities.vaultId
    laneId := samplePlan.identities.inboundLaneId
    sequence := 1
    previousCommitment := .zero
    observedAt := 220
    publishedAt := 220
    expiresAt := 800 }
  snd := {
    epochId := 1
    remotePrincipal := 300
    reportedValue := 300
    realizedLoss := .zero
    unattributedBalance := .zero
    latestCompletedTransferId := 61
    probeStatus := .notRequired
    probeTimestamp := .zero
    configVersion := 1
    remoteStateCommitment := 51 }

theorem sampleAllocating_outside : ∀ tx ∈ sampleAllocating, Outside samplePlan tx := by
  intro tx member
  simp only [sampleAllocating, sampleSettling, List.cons_append, List.nil_append, List.mem_cons,
    List.not_mem_nil, or_false] at member
  rcases member with rfl | rfl | rfl | rfl | rfl | rfl
  · exact ⟨by decide, fun _ call => (Call.bindRemoteAccounting.inj call).symm⟩
  all_goals exact ⟨by decide, nofun⟩

/-- The sample's transfer is on its way, and its completion is next on the lane. -/
theorem sampleAllocating_awaits : ∃ start w, samplePlan.deploy = .ok start ∧
    Run.run (fun w tx => w.step sampleHash tx.1 tx.2) start sampleAllocating = .ok w ∧
    w.coordinator.activeCycleKind = .allocate ∧ w.vault.outboundInTransit.raw = 300 ∧
    Bound w ∧ Paired.Room w ∧
    Received w true sampleCompletion.1 sampleCompletion.2.configVersion ∧
    w.coordinator.lastInboundCumulativeLoss.raw ≤ sampleCompletion.2.realizedLoss.raw := by
  have passes : (do
      let start ← samplePlan.deploy
      let w ← Run.run (fun w (tx : Msg × Call) => w.step sampleHash tx.1 tx.2) start
        sampleAllocating
      pure (start, w) : Except Revert (World × World)).toOption.any (fun worlds =>
        decide (worlds.2.coordinator.activeCycleKind = .allocate) &&
        decide (worlds.2.vault.outboundInTransit.raw = 300) &&
        decide (worlds.2.vault.remoteAccounting = worlds.2.coordinator.self) &&
        decide (worlds.2.coordinator.self.raw ≠ 0) &&
        decide (worlds.2.asset.totalSupply.raw = 1000) &&
        (worlds.2.coordinator.requireInboundEnvelope sampleCompletion.1).toOption.isSome &&
        decide (sampleCompletion.2.configVersion = worlds.2.configVersion) &&
        decide (worlds.2.coordinator.inboundExpectedSequence.raw = 1) &&
        decide (worlds.2.coordinator.lastInboundCumulativeLoss.raw = 0)) = true := by
    decide +kernel
  obtain ⟨⟨_, _⟩, finished, checks⟩ := ok_of_any passes
  simp only [bind_eq_ok, pure_eq_ok, Prod.mk.injEq] at finished
  obtain ⟨start, deployed, w, run, rfl, rfl⟩ := finished
  simp only [Bool.and_eq_true, decide_eq_true_eq] at checks
  obtain ⟨⟨⟨⟨⟨⟨⟨⟨allocating, transit⟩, bound⟩, named⟩, supply⟩, expected⟩, version⟩, sequence⟩,
    loss⟩ := checks
  refine ⟨start, w, deployed, run, allocating, transit, ⟨bound, named⟩, ?_, ⟨rfl, rfl, ?_, version,
    ?_⟩, ?_⟩
  · unfold Paired.Room
    rw [supply]
    decide
  · cases envelope : w.coordinator.requireInboundEnvelope sampleCompletion.1 with
    | ok u => exact envelope
    | error failure =>
        rw [envelope] at expected
        cases expected
  · rw [sequence]
    decide
  · rw [loss]
    exact Nat.zero_le _

end Sample

/-- While the transfer is on its way both contracts show it, and its completion is carried out. -/
theorem coordinator_vault_coupled_allocating : ∃ w w', InStep w ∧ CarriedOut sampleHash w ∧
    w.coordinator.activeCycleKind = .allocate ∧ w.vault.outboundInTransit.raw = 300 ∧
    w.step sampleHash ⟨sampleAdmin, 230⟩
      (.processRemoteReport true sampleCompletion.1 sampleCompletion.2) = .ok w' := by
  obtain ⟨start, w, deployed, run, allocating, transit, bound, room, received, grows⟩ :=
    sampleAllocating_awaits
  obtain ⟨inStep, -, carried⟩ := coordinator_vault_coupled deployed sampleAllocating_outside run
  have carriedOut := carried sampleAsset_kept (by decide) room bound
  obtain ⟨w', reported⟩ := carriedOut.remoteReport ⟨sampleAdmin, 230⟩ true
    sampleCompletion.1 sampleCompletion.2 received rfl grows
  exact ⟨w, w', inStep, carriedOut, allocating, transit, reported⟩

end Evm
