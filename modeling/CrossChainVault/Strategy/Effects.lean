import CrossChainVault.Leg.Calls
import CrossChainVault.Strategy.World

set_option autoImplicit false

/- What one transaction needs, and what it does to the tokens and the principal. -/

namespace Strategy

open Result
open Protocol (Bytes32)
open Leg (U64 RemoteLegError Accounts Context Digests TransferRecord reconcile_ok checkDeployed_ok
  minimum_raw)
open Verifier (Pubkey)

section Checks

variable {a : Accounts} {amount principalBefore maximum request : U64} {approved : Bool} {u : Unit}
  {transferId : Bytes32}

/-- Custody that covers its buckets can always be explained. -/
theorem explains (covered : a.position.accounted ≤ a.custody.raw) : ∃ unattributed : U64,
    a.position.attributedPrincipal.raw + a.position.recalledCustody.raw + unattributed.raw =
      a.custody.raw := by
  have := a.custody.bound
  unfold Leg.RemotePosition.accounted at covered
  refine ⟨⟨a.custody.raw -
    (a.position.attributedPrincipal.raw + a.position.recalledCustody.raw), by omega⟩, ?_⟩
  dsimp only
  omega

@[simp] theorem checkDeploy_ok : checkDeploy a approved amount principalBefore = .ok u ↔
    a.config.frozen = false ∧ a.position.accounted ≤ a.custody.raw ∧ amount.raw ≠ 0 ∧
      amount.raw ≤ a.position.attributedPrincipal.raw ∧
      principalBefore = a.position.deployedPrincipal ∧ approved = true := by
  simp only [checkDeploy, bind_eq_ok, rejectIf_eq_ok, reconcile_ok, checkDeployed_ok, exists_const,
    Bool.not_eq_true, Bool.not_eq_false, not_not, Unsigned.isZero_eq_false, Unsigned.le_def,
    ← Unsigned.raw_inj]
  constructor
  · rintro ⟨running, _, ⟨unattributed, covered, -, rfl⟩, ⟨nonzero, enough⟩, before, approves⟩
    exact ⟨running, covered, nonzero, enough, before, approves⟩
  · rintro ⟨running, covered, nonzero, enough, before, approves⟩
    obtain ⟨unattributed, whole⟩ := explains covered
    exact ⟨running, _, ⟨unattributed, covered, whole, rfl⟩, ⟨nonzero, enough⟩, before, approves⟩

/-- The open recall, and what may be asked of the adapter for it. -/
structure Requests (a : Accounts) (transferId : Bytes32) (maximum : U64) (record : TransferRecord)
    (request : Nat) : Prop where
  active : a.book.Opens .recall .pending transferId record
  shape : record.RecallShape
  covered : a.position.accounted ≤ a.custody.raw
  reserved : record.custodyPrincipalReserved.raw + record.strategyPrincipalResolved.raw ≤
    record.requestedRecallAmount.raw
  asks : request = min (min maximum.raw record.unresolved) a.position.deployedPrincipal.raw
  nonzero : request ≠ 0

theorem recallRequest_ok : recallRequest a transferId maximum principalBefore = .ok request ↔
    principalBefore = a.position.deployedPrincipal ∧
      ∃ record, Requests a transferId maximum record request.raw := by
  simp only [recallRequest, bind_eq_ok, Leg.Accounts.loadRecord_ok,
    Leg.TransferRecord.checkActive_ok, Leg.TransferRecord.checkRecallShape_ok, reconcile_ok,
    Leg.TransferRecord.unresolvedRecallPrincipal_ok, rejectIf_eq_ok, checkDeployed_ok,
    exists_const, pure_eq_ok]
  constructor
  · rintro ⟨record, stored, ⟨kind, pending, isOpen, same⟩, shape, _, ⟨unattributed, covered, -,
      rfl⟩, unresolved, hUnresolved, some, before, rfl⟩
    rw [Unsigned.isZero_iff] at some
    refine ⟨Unsigned.ext before, record, ⟨stored, kind, pending, isOpen, same⟩, shape, covered,
      by omega, ?_, some⟩
    rw [minimum_raw, minimum_raw]
    unfold Leg.TransferRecord.unresolved
    congr 2
    omega
  · rintro ⟨before, record, requests⟩
    obtain ⟨unattributed, whole⟩ := explains requests.covered
    have reserved := requests.reserved
    have bound := record.requestedRecallAmount.bound
    have active := requests.active
    have same : Leg.minimum (Leg.minimum maximum ⟨record.unresolved, by
        unfold Leg.TransferRecord.unresolved
        omega⟩) a.position.deployedPrincipal = request := by
      apply Unsigned.ext
      rw [minimum_raw, minimum_raw, requests.asks]
    refine ⟨record, active.stored, ⟨active.hKind, active.hStatus, active.isOpen, active.same⟩,
      requests.shape, _, ⟨unattributed, requests.covered, whole, rfl⟩,
      ⟨record.unresolved, ?_⟩, ?_, ?_, ?_, same⟩
    · unfold Leg.TransferRecord.unresolved
      omega
    · show record.unresolved + _ = _
      unfold Leg.TransferRecord.unresolved
      omega
    · dsimp only
      rw [same, Unsigned.isZero_iff]
      exact requests.nonzero
    · rw [before]

end Checks

section Own

variable {digests : Digests} {a a' : Accounts} {ctx : Context} {instruction : Leg.Instruction}

/-- Neither the principal nor the tokens change; at most they move from custody to the escrow. -/
structure KeepsTokens (a a' : Accounts) : Prop where
  deployed : a'.position.deployedPrincipal = a.position.deployedPrincipal
  loss : a'.position.cumulativeRealizedLoss = a.position.cumulativeRealizedLoss
  tokens : a'.custody.raw + a'.escrow.raw = a.custody.raw + a.escrow.raw

theorem settles_keepsTokens {settled noticed : Accounts} {settlement : Leg.Accounts.Settlement}
    {notice : Protocol.Message} {body : Protocol.ResolveBody} {sequence : U64}
    {clock : Leg.UnixTimestamp} (settles : a.Settles body sequence clock settled settlement)
    (sent : { settled with ledger := some settlement.ledger }.publish digests notice
      .transportSettlement body.transferId .zero clock = .ok noticed) :
    KeepsTokens a noticed := by
  obtain ⟨outbound, entry, -, -, -, -, rfl⟩ := Leg.Accounts.publish_ok sent
  cases settles with
  | closed action closes =>
      obtain ⟨record, record', position, ledger, -, -, -, -, ends, -, rfl, -⟩ :=
        Leg.Accounts.close_ok closes
      cases ends with
      | pending => exact ⟨rfl, rfl, rfl⟩
      | quarantined => exact ⟨rfl, rfl, rfl⟩
      | complete => exact ⟨rfl, rfl, rfl⟩
  | recovered action exists' recovers =>
      obtain ⟨_, _, _, _, -, -, -, -, -, -, -, -, rfl, -⟩ := Leg.Accounts.recover_ok recovers
      exact ⟨rfl, rfl, rfl⟩

theorem bookRecall_keepsTokens {transferId : Bytes32} {record : TransferRecord}
    {position : Leg.RemotePosition} {custody escrow : U64}
    (deployed : position.deployedPrincipal = a.position.deployedPrincipal)
    (loss : position.cumulativeRealizedLoss = a.position.cumulativeRealizedLoss)
    (tokens : custody.raw + escrow.raw = a.custody.raw + a.escrow.raw) :
    KeepsTokens a (a.bookRecall ctx transferId record position custody escrow) := by
  unfold Leg.Accounts.bookRecall
  split
  · exact ⟨deployed, loss, tokens⟩
  · exact ⟨deployed, loss, tokens⟩

theorem bookRecall_position {transferId : Bytes32} {record : Leg.TransferRecord}
    {position : Leg.RemotePosition} {custody escrow : U64} :
    (a.bookRecall ctx transferId record position custody escrow).position.deployedPrincipal =
        position.deployedPrincipal ∧
      (a.bookRecall ctx transferId record position custody escrow).position.cumulativeRealizedLoss =
        position.cumulativeRealizedLoss ∧
      (a.bookRecall ctx transferId record position custody escrow).custody = custody ∧
      (a.bookRecall ctx transferId record position custody escrow).escrow = escrow := by
  unfold Leg.Accounts.bookRecall
  split
  · exact ⟨rfl, rfl, rfl, rfl⟩
  · exact ⟨rfl, rfl, rfl, rfl⟩

open Leg.Accounts in
/-- Only the calls of the adapter and the tokens from outside change what there is. -/
theorem own_keepsTokens (alone : isOwn instruction = true)
    (success : a.step digests ctx instruction = .ok a') : KeepsTokens a a' := by
  cases instruction with
  | processAllocate message =>
      obtain ⟨body, hBody⟩ := processAllocate_body success
      obtain ⟨_, _, _, _, -, -, -, -, -, -, -, -, -, rfl⟩ := processAllocate_ok hBody success
      exact ⟨rfl, rfl, rfl⟩
  | processRecall message =>
      obtain ⟨body, hBody⟩ := processRecall_body success
      obtain ⟨_, _, _, -, -, -, -, -, -, -, -, outcome⟩ := processRecall_ok hBody success
      obtain ⟨-, rfl⟩ | ⟨-, -, _, _, _, -, -, -, rfl⟩ := outcome
      · exact ⟨rfl, rfl, rfl⟩
      · exact ⟨rfl, rfl, rfl⟩
  | processConfigUpdate message =>
      obtain ⟨_, _, _, -, -, -, -, -, rfl⟩ := processConfigUpdate_ok success
      exact ⟨rfl, rfl, rfl⟩
  | processResolve message =>
      obtain ⟨_, _, _, -, -, -, resolves, -, rfl⟩ := processResolve_ok success
      cases resolves with
      | unchanged => exact ⟨rfl, rfl, rfl⟩
      | allocation => exact ⟨rfl, rfl, rfl⟩
      | «recall» => exact ⟨rfl, rfl, rfl⟩
  | processSettlement message =>
      obtain ⟨_, _, _, _, _, _, -, -, -, -, -, settles, -, sent, rfl⟩ := processSettlement_ok success
      obtain ⟨deployed, loss, tokens⟩ := settles_keepsTokens settles sent
      exact ⟨deployed, loss, tokens⟩
  | attributeAllocation transferId =>
      obtain ⟨record, _, _, attributed, -, -, -, -, -, -, -, -, -, -, rfl⟩ :=
        attributeAllocation_ok success
      unfold bookAttribution
      split
      · exact ⟨rfl, rfl, rfl⟩
      · exact ⟨rfl, rfl, rfl⟩
  | deployToStrategy => cases alone
  | withdrawForRecall => cases alone
  | sendRecallAssets => cases alone
  | reconcileCustody =>
      obtain ⟨_, -, -, rfl⟩ := reconcileCustody_ok.mp success
      exact ⟨rfl, rfl, rfl⟩
  | publishRemoteReport => cases alone
  | publishRecallSent transferId =>
      obtain ⟨_, _, _, _, published, _, -, -, -, -, -, -, -, hPublished, rfl⟩ :=
        publishRecallSent_ok success
      obtain ⟨outbound, entry, -, -, -, -, rfl⟩ := publish_ok hPublished
      exact ⟨rfl, rfl, rfl⟩
  | advanceReplayWatermark minimum =>
      obtain ⟨-, -, rfl⟩ := advanceReplayWatermark_ok success
      exact ⟨rfl, rfl, rfl⟩
  | closeConsumedMessage sequence =>
      obtain ⟨record, -, -, rfl⟩ := closeConsumedMessage_ok success
      exact ⟨rfl, rfl, rfl⟩
  | freeze =>
      cases freeze_ok success
      exact ⟨rfl, rfl, rfl⟩
  | receiveCustody => cases alone
  | moveEscrow => cases alone

open Leg.Accounts in
theorem send_keepsTokens {transferId : Bytes32} {maximum : U64}
    (success : a.sendRecallAssets ctx transferId maximum = .ok a') : KeepsTokens a a' := by
  obtain ⟨record, amount, _, _, _, custody, escrow, -, -, -, -, hCustody, hEscrow, rfl⟩ :=
    sendRecallAssets_iff.mp success
  exact bookRecall_keepsTokens rfl rfl (by omega)

open Leg.Accounts in
theorem report_keepsTokens {epochId adapterPrincipal : U64} {layoutKept supplied : Bool}
    (success : a.publishRemoteReport digests ctx epochId adapterPrincipal layoutKept supplied =
      .ok a') : KeepsTokens a a' := by
  obtain ⟨_, _, _, _, message, -, -, -, published⟩ := publishRemoteReport_ok success
  obtain ⟨outbound, entry, -, -, -, -, rfl⟩ := publish_ok published
  exact ⟨rfl, rfl, rfl⟩

end Own

section Calls

variable {programs : Programs} {digests : Digests} {w w' : World} {ctx : Context}
  {transferId : Bytes32} {maximum amount : U64} {approved : Bool}

/-- The three accounts differ, and nobody but its owner moves what is in the vault. -/
structure World.Distinct (w : World) : Prop where
  vault : w.keys.custodyTokenAccount ≠ w.vault.key
  escrow : w.keys.custodyTokenAccount ≠ w.leg.config.outboundEscrow
  alone : w.vault.delegate = none

theorem controlKept_custody {custody : U64} :
    controlKept { w.custody with amount := custody } w.keys.custodyAuthority = true := by
  simp [controlKept, World.custody]

/-- The deployment of `amount`, between the accounts before and after the tokens moved. -/
structure Counts (programs : Programs) (w : World) (amount custodyLeft vaultNow principal : U64) :
    Prop where
  custodyThawed : w.custodyFrozen = false
  vaultThawed : w.vault.frozen = false
  sameMint : w.keys.assetMint = w.vault.mint
  left : custodyLeft.raw + amount.raw = w.leg.custody.raw
  arrived : vaultNow.raw = w.vault.amount.raw + amount.raw
  knows : w.adapter.Knows programs (w.adapterCall programs
    { w.custody with amount := custodyLeft } { w.vault with amount := vaultNow })
  open' : w.adapter.depositsPaused = false
  counted : principal.raw = w.adapter.principal.raw + amount.raw
  backed : principal.raw ≤ vaultNow.raw

theorem deployToStrategy_iff (distinct : w.Distinct) :
    w.deployToStrategy programs approved amount = .ok w' ↔
    (w.leg.config.frozen = false ∧ w.leg.position.accounted ≤ w.leg.custody.raw ∧
      amount.raw ≠ 0 ∧ amount.raw ≤ w.leg.position.attributedPrincipal.raw ∧
      w.adapter.principal = w.leg.position.deployedPrincipal ∧ approved = true) ∧
    ∃ custodyLeft vaultNow principal leg, Counts programs w amount custodyLeft vaultNow principal ∧
      w.leg.deployToStrategy approved amount (w.observe { w.adapter with principal := principal }
        { w.custody with amount := custodyLeft } { w.vault with amount := vaultNow }) = .ok leg ∧
      w' = { w with
        leg := leg
        adapter := { w.adapter with principal := principal }
        vault := { w.vault with amount := vaultNow } } := by
  have transfer_ok : ∀ moved, programs.tokens.transfer w.custody w.vault w.keys.custodyAuthority
      amount = .ok moved ↔ w.custody.Transfers w.vault w.keys.custodyAuthority amount moved :=
    fun _ => programs.tokens.transfer_ok distinct.vault rfl
  simp only [World.deployToStrategy, bind_eq_ok, mapError_eq_ok, transfer_ok,
    AdapterState.depositExact_ok, checkDeploy_ok, pure_eq_ok, exists_const]
  refine and_congr_right fun checks => ?_
  constructor
  · rintro ⟨moved, transfers, _, ⟨knows, unpaused, -, principal, counted, backed, rfl⟩, leg, booked,
      rfl⟩
    obtain ⟨custodyLeft, vaultNow, left, arrived, rfl⟩ := transfers.moves
    exact ⟨custodyLeft, vaultNow, principal, leg, ⟨transfers.sourceThawed,
      transfers.destinationThawed, transfers.sameMint, left, arrived, knows, unpaused, counted,
      backed⟩, booked, rfl⟩
  · rintro ⟨custodyLeft, vaultNow, principal, leg, counts, booked, rfl⟩
    have transfers : w.custody.Transfers w.vault w.keys.custodyAuthority amount
        ({ w.custody with amount := custodyLeft }, { w.vault with amount := vaultNow }) :=
      ⟨counts.custodyThawed, counts.vaultThawed, counts.sameMint, rfl, custodyLeft, vaultNow,
        counts.left, counts.arrived, rfl⟩
    exact ⟨_, transfers, _, ⟨counts.knows, counts.open', checks.2.2.1, principal, counts.counted,
      counts.backed, rfl⟩, leg, booked, rfl⟩

/-- The withdrawal of `returned` tokens for `reduction` principal, as the adapter does it. -/
structure Returns (programs : Programs) (w : World) (request : Nat)
    (returned principal vaultLeft custodyNow : U64) : Prop where
  knows : w.adapter.KnowsCustody programs (w.adapterCall programs w.custody w.vault)
  nonzero : w.adapter.reduction request ≠ 0
  lost : returned.raw + (lossRate w.adapter.lossBps).floor (w.adapter.reduction request) =
    w.adapter.reduction request
  may : returned.raw ≠ 0 → w.vault.frozen = false ∧ w.custodyFrozen = false ∧
    w.vault.mint = w.keys.assetMint ∧ w.vault.owner = w.keys.adapterAuthority
  unwound : principal.raw + w.adapter.reduction request = w.adapter.principal.raw
  left : vaultLeft.raw + returned.raw = w.vault.amount.raw
  arrived : custodyNow.raw = w.leg.custody.raw + returned.raw

theorem withdrawForRecall_iff (distinct : w.Distinct)
    (valid : w.adapter.lossBps.raw ≤ maxBasisPoints.raw) :
    w.withdrawForRecall programs ctx transferId maximum = .ok w' ↔
    w.adapter.principal = w.leg.position.deployedPrincipal ∧
    ∃ record, ∃ request : U64, ∃ returned principal vaultLeft custodyNow leg,
      Requests w.leg transferId maximum record request.raw ∧
      Returns programs w request.raw returned principal vaultLeft custodyNow ∧
      w.leg.withdrawForRecall ctx transferId maximum (w.observe
        { w.adapter with principal := principal } { w.custody with amount := custodyNow }
        { w.vault with amount := vaultLeft }) = .ok leg ∧
      w' = { w with
        leg := leg
        adapter := { w.adapter with principal := principal }
        vault := { w.vault with amount := vaultLeft } } := by
  simp only [World.withdrawForRecall, bind_eq_ok, mapError_eq_ok, recallRequest_ok, pure_eq_ok]
  constructor
  · rintro ⟨request, ⟨before, record, requests⟩, ⟨adapter, vault, custody⟩, withdrew, leg, moved,
      rfl⟩
    obtain ⟨knows, some, returned, principal, vaultLeft, custodyNow, lost, may, unwound, left, arrived,
      rfl, rfl, rfl⟩ := (AdapterState.withdrawForRemoteLeg_ok valid distinct.vault.symm
        distinct.alone).mp withdrew
    exact ⟨before, record, request, returned, principal, vaultLeft, custodyNow, leg, requests,
      ⟨knows, some, lost, may, unwound, left, arrived⟩, moved, rfl⟩
  · rintro ⟨before, record, request, returned, principal, vaultLeft, custodyNow, leg, requests,
      returns, moved, rfl⟩
    have withdrew : w.adapter.withdrawForRemoteLeg programs
        (w.adapterCall programs w.custody w.vault) request =
          .ok ({ w.adapter with principal := principal }, { w.vault with amount := vaultLeft },
            { w.custody with amount := custodyNow }) :=
      (AdapterState.withdrawForRemoteLeg_ok valid distinct.vault.symm distinct.alone).mpr
        ⟨returns.knows, returns.nonzero, returned, principal, vaultLeft, custodyNow, returns.lost,
          returns.may, returns.unwound, returns.left, returns.arrived, rfl, rfl, rfl⟩
    exact ⟨request, ⟨before, record, requests⟩, _, withdrew, leg, moved, rfl⟩

theorem sendRequest_ok {a : Accounts} {amount : U64} :
    sendRequest a transferId maximum = .ok amount ↔
      amount.raw = min maximum.raw a.position.recalledCustody.raw ∧ amount.raw ≠ 0 ∧
        a.position.accounted ≤ a.custody.raw ∧
        ∃ record, a.book.Opens .recall .pending transferId record ∧ record.RecallShape := by
  simp only [sendRequest, bind_eq_ok, Leg.Accounts.loadRecord_ok, Leg.TransferRecord.checkActive_ok,
    Leg.TransferRecord.checkRecallShape_ok, reconcile_ok, rejectIf_eq_ok, exists_const, pure_eq_ok]
  constructor
  · rintro ⟨record, stored, ⟨kind, pending, isOpen, same⟩, shape, _, ⟨unattributed, covered, -,
      rfl⟩, some, rfl⟩
    rw [Unsigned.isZero_iff] at some
    exact ⟨minimum_raw, some, covered, record, ⟨stored, kind, pending, isOpen, same⟩, shape⟩
  · rintro ⟨moves, some, covered, record, opens, shape⟩
    obtain ⟨unattributed, whole⟩ := explains covered
    have same : Leg.minimum maximum a.position.recalledCustody = amount := by
      apply Unsigned.ext
      rw [minimum_raw, moves]
    refine ⟨record, opens.stored, ⟨opens.hKind, opens.hStatus, opens.isOpen, opens.same⟩, shape, _,
      ⟨unattributed, covered, whole, rfl⟩, ?_, same⟩
    dsimp only
    rw [same, Unsigned.isZero_iff]
    exact some

/-- A send is what the leg does, as long as the token program lets the tokens go. -/
theorem sendRecallAssets_iff (distinct : w.Distinct) :
    w.sendRecallAssets programs ctx transferId maximum = .ok w' ↔
      w.escrowClosed = false ∧ w.escrowFrozen = false ∧ w.custodyFrozen = false ∧
        ∃ leg, w.leg.sendRecallAssets ctx transferId maximum = .ok leg ∧
          w' = { w with leg := leg } := by
  have transfer_ok : ∀ amount moved, programs.tokens.transfer w.custody w.escrow
      w.keys.custodyAuthority amount = .ok moved ↔
        w.custody.Transfers w.escrow w.keys.custodyAuthority amount moved :=
    fun _ _ => programs.tokens.transfer_ok distinct.escrow rfl
  simp only [World.sendRecallAssets, bind_eq_ok, mapError_eq_ok, rejectIf_eq_ok, transfer_ok,
    sendRequest_ok, Bool.not_eq_true, ne_eq, not_not, exists_const, pure_eq_ok]
  constructor
  · rintro ⟨opened, amount, -, moved, transfers, leg, sent, -, -, rfl⟩
    exact ⟨opened, transfers.destinationThawed, transfers.sourceThawed, leg, sent, rfl⟩
  · rintro ⟨opened, escrowThawed, custodyThawed, leg, sent, rfl⟩
    obtain ⟨record, amount, unattributed, recalled, sentNow, custody, escrow, sends, whole, hRecalled,
      hSent, hCustody, hEscrow, rfl⟩ := Leg.Accounts.sendRecallAssets_iff.mp sent
    have bound := w.leg.custody.bound
    have moves := sends.moves
    have transfers : w.custody.Transfers w.escrow w.keys.custodyAuthority ⟨amount, by omega⟩
        ({ w.custody with amount := custody }, { w.escrow with amount := escrow }) :=
      ⟨custodyThawed, escrowThawed, rfl, rfl, custody, escrow, hCustody, hEscrow, rfl⟩
    obtain ⟨-, -, sameCustody, sameEscrow⟩ := @bookRecall_position w.leg ctx transferId _
      _ custody escrow
    exact ⟨opened, _, ⟨moves, sends.nonzero, sends.covered, record, sends.active, sends.shape⟩, _,
      transfers, _, sent, sameCustody.symm, sameEscrow.symm, rfl⟩

end Calls

end Strategy
