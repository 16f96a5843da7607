import CrossChainVault.Bridge.LegSteps

set_option autoImplicit false

/- The leg's moves while a recall or a recovery is open, and its moves at every stage. -/

namespace Bridge

open Protocol Lane Leg

variable {t : Evm.Terms} {s s' : Side} {control reports : List Message} {m : Message}
  {taken sent : Option Message}

section Recalling

/-- What a recall has moved after it moved on. -/
theorem Recall.moved {record record' : TransferRecord} {principal recalled loss : Nat}
    (booked : Recall t s record) (unwinds : Unwinds t s record)
    (moves : RecallMoves s record record' principal recalled loss)
    (running : record'.status ≠ .quarantined) (opened : Option (TransferKind × Bytes32))
    (latest : Bytes32) :
    let after := { s with
      principal := principal
      recalled := recalled
      loss := loss
      opened := opened
      latestCompleted := latest
      records := Function.update s.records t.transferId (some record') }
    Recall t after record' ∧ Unwinds t after record' := by
  have lost := moves.lost
  have before := booked.lost
  have unwound := moves.unwound
  have moved := moves.custody
  have split := moves.split
  have whole := unwinds.principal
  have inHand := unwinds.custody
  have parts := unwinds.split
  have requested := booked.requested
  have covered := unwinds.within
  refine ⟨⟨Function.update_self _ _ _, moves.kind.trans booked.kind, moves.transferId.trans booked.same, ?_,
    booked.recognized, ?_⟩, ⟨?_, ?_, ?_, ?_, fun held => absurd held running⟩⟩
  · rw [moves.requested, requested]
  · show loss = t.baselineLoss + record'.realizedLoss.raw
    omega
  · show principal + record'.custodyPrincipalReserved.raw + _ = t.cap
    rw [moves.reserved]
    omega
  · show recalled + record'.assetsSent.raw = record'.custodyPrincipalReserved.raw + _
    rw [moves.reserved]
    omega
  · omega
  · rw [moves.reserved]
    rcases moves.within with same | within
    · omega
    · omega

/-- A recall that matched its request unwound all of it and has sent everything it took back. -/
theorem Unwinds.whole {record : TransferRecord} (unwinds : Unwinds t s record)
    (whole : record.assetsSent.raw + record.realizedLoss.raw = t.amount) :
    s.recalled = 0 ∧ s.principal + t.amount = t.cap := by
  have principal := unwinds.principal
  have custody := unwinds.custody
  have split := unwinds.split
  have within := unwinds.within
  omega

/-- What the leg does by itself while a recall is open. -/
theorem Recalling.works (named : Named t s reports) {record : TransferRecord} (even : Even t s)
    (isOpen : s.opened = some (.recall, t.transferId)) (booked : Recall t s record)
    (waits : record.status = .pending ∨ record.status = .quarantined)
    (unwinds : Unwinds t s record) (covered : t.amount ≤ t.cap) (queue : ∀ m ∈ control, Admits m)
    (climbs : Climbs t.reportedLoss reports s.loss) (step : SideStep s none sent s') :
    Recalling t s' control (reports ++ sent.toList) := by
  cases step with
  | quiet =>
      rw [append_none]
      exact .opened record even isOpen booked waits unwinds covered queue climbs
  | attributed _ _ _ stored hOpen => cases (open_record named isOpen booked.stored hOpen stored).1
  | completed _ _ _ stored hOpen => cases (open_record named isOpen booked.stored hOpen stored).1
  | progressed id other record' principal recalled loss stored hOpen pending pending' moves =>
      obtain ⟨-, rfl, rfl⟩ := open_record named isOpen booked.stored hOpen stored
      have running : record'.status ≠ .quarantined := by simp [pending']
      have grows : s.loss ≤ loss := by
        have lost := moves.lost
        have more := moves.grows
        omega
      obtain ⟨booked', unwinds'⟩ := booked.moved unwinds moves running s.opened s.latestCompleted
      rw [append_none]
      exact .opened record' (even.congr rfl rfl) isOpen booked' (.inl pending') unwinds' covered queue
        (climbs.mono grows)
  | settled id other record' principal recalled loss stored hOpen pending complete moves whole =>
      obtain ⟨-, rfl, rfl⟩ := open_record named isOpen booked.stored hOpen stored
      have running : record'.status ≠ .quarantined := by simp [complete]
      have grows : s.loss ≤ loss := by
        have lost := moves.lost
        have more := moves.grows
        omega
      obtain ⟨booked', unwinds'⟩ := booked.moved unwinds moves running none other.transferId
      rw [booked'.requested] at whole
      obtain ⟨nothing, principal⟩ := unwinds'.whole whole
      rw [append_none]
      exact .done record' (even.congr rfl rfl) rfl
        booked' complete nothing principal whole queue (climbs.mono grows)
  | reported m body hBody loss names =>
      exact .opened record even isOpen booked waits unwinds covered queue
        (climbs.snoc ⟨body, hBody, loss⟩)
  | notified m body id other hBody stored kind complete unnoticed _ names amounts =>
      obtain ⟨rfl, -⟩ := named.unnoticed stored kind complete unnoticed
      cases booked.stored.symm.trans stored
      rw [complete] at waits
      rcases waits with pending | held
      · cases pending
      · cases held

/-- An admission while a recall is open. -/
theorem Recalling.admits (named : Named t s reports) {record : TransferRecord} (even : Even t s)
    (isOpen : s.opened = some (.recall, t.transferId)) (booked : Recall t s record)
    (waits : record.status = .pending ∨ record.status = .quarantined)
    (unwinds : Unwinds t s record) (covered : t.amount ≤ t.cap) (queue : ∀ m ∈ control, Admits m)
    (climbs : Climbs t.reportedLoss reports s.loss) (admission : Admission s s') :
    Recalling t s' control reports := by
  cases admission with
  | ignored => exact .opened record even isOpen booked waits unwinds covered queue climbs
  | allocation _ _ stored hOpen => cases (open_record named isOpen booked.stored hOpen stored).1
  | «recall» id other reserved stored hOpen held within inHand =>
      obtain ⟨-, rfl, rfl⟩ := open_record named isOpen booked.stored hOpen stored
      obtain ⟨nothing, unresolved, unwithdrawn, unsent, unlost⟩ := unwinds.held held
      have principal := unwinds.principal
      have custody := unwinds.custody
      have requested := booked.requested
      refine .opened _ (even.congr rfl rfl) isOpen
        ⟨Function.update_self _ _ _, booked.kind, booked.same, requested, booked.recognized,
          booked.lost⟩ (.inl rfl) ⟨?_, ?_, ?_, ?_, nofun⟩ covered queue climbs
      · show s.principal - reserved.raw + reserved.raw + other.strategyPrincipalResolved.raw = t.cap
        omega
      · show s.recalled + reserved.raw + other.assetsSent.raw =
          reserved.raw + other.assetsWithdrawn.raw
        omega
      · show other.strategyPrincipalResolved.raw =
          other.assetsWithdrawn.raw + other.realizedLoss.raw
        omega
      · show reserved.raw + other.strategyPrincipalResolved.raw ≤ t.amount
        omega

theorem Recalling.leg (named : Named t s reports)
    (stage : Recalling t s (taken.toList ++ control) reports) (step : SideStep s taken sent s') :
    Recalling t s' control (reports ++ sent.toList) := by
  cases stage with
  | sent settled queue unrecorded covered baseline reported =>
      cases taken with
      | none =>
          cases speaks_of_closed named step settled.closed with
          | nothing =>
              rw [append_none]
              exact .sent settled queue unrecorded covered baseline reported
          | report m body hBody loss names =>
              exact .sent settled queue unrecorded covered baseline
                (all_snoc reported ⟨body, hBody, loss⟩)
          | notice _ _ _ _ stored => cases unrecorded.symm.trans stored
      | some m =>
          rcases Marked.cons queue with ⟨⟨body, hBody, action⟩, rest⟩ |
            ⟨⟨body, hBody, same, amount⟩, rest⟩
          · obtain ⟨rfl, rfl⟩ := step.admit_closed hBody action settled.closed
            rw [append_none]
            exact .sent settled rest unrecorded covered baseline reported
          · obtain ⟨record, rfl, _, kind, hSame, requested, reserved, inHand,
              ⟨unresolved, unwithdrawn, unsent, unlost⟩, waits, rfl⟩ := step.of_recall hBody
            have principal := settled.principal
            have recalled := settled.recalled
            have recognized := settled.recognized
            rw [append_none, same]
            refine .opened record (settled.toEven.congr rfl rfl) rfl
              ⟨Function.update_self _ _ _, kind, hSame.trans same, requested.trans amount, by omega,
                ?_⟩ (waits.imp id And.left) ⟨?_, ?_, ?_, ?_, ?_⟩ covered rest ?_
            · show s.loss = t.baselineLoss + record.realizedLoss.raw
              omega
            · show s.principal - record.custodyPrincipalReserved.raw +
                record.custodyPrincipalReserved.raw + record.strategyPrincipalResolved.raw = t.cap
              omega
            · show s.recalled + record.custodyPrincipalReserved.raw + record.assetsSent.raw =
                record.custodyPrincipalReserved.raw + record.assetsWithdrawn.raw
              omega
            · omega
            · omega
            · intro held
              rcases waits with pending | ⟨-, nothing⟩
              · cases held.symm.trans pending
              · exact ⟨nothing, unresolved, unwithdrawn, unsent, unlost⟩
            · rw [settled.reported]
              exact climbs_of_reports reported
  | opened record even isOpen booked waits unwinds covered queue climbs =>
      cases taken with
      | none => exact works named even isOpen booked waits unwinds covered queue climbs step
      | some m =>
          obtain ⟨⟨body, hBody, action⟩, rest⟩ := List.forall_mem_cons.mp queue
          obtain ⟨rfl, admission⟩ := step.of_admit hBody action
          rw [append_none]
          exact admits named even isOpen booked waits unwinds covered rest climbs admission
  | done record even closed booked complete recalled principal whole queue climbs =>
      cases taken with
      | none =>
          cases speaks_of_closed named step closed with
          | nothing =>
              rw [append_none]
              exact .done record even closed booked complete recalled principal whole queue climbs
          | report m body hBody loss names =>
              exact .done record even closed booked complete recalled principal whole queue
                (climbs.snoc ⟨body, hBody, loss⟩)
          | notice m body other hBody stored kind _ unnoticed names amounts =>
              cases booked.stored.symm.trans stored
              obtain ⟨sentPrincipal, actual, loss⟩ := amounts
              have requested := booked.requested
              exact .noticed record.realizedLoss.raw (even.congr rfl rfl) closed
                (Function.update_self _ _ _) booked.recognized booked.lost recalled principal queue
                reports m [] rfl climbs
                ⟨body, hBody, names, by omega, by omega, loss⟩ nofun
      | some m =>
          obtain ⟨⟨body, hBody, action⟩, rest⟩ := List.forall_mem_cons.mp queue
          obtain ⟨rfl, rfl⟩ := step.admit_closed hBody action closed
          rw [append_none]
          exact .done record even closed booked complete recalled principal whole rest climbs
  | noticed loss even closed isNoticed recognized lost recalled principal queue before notice after
      order climbs returns level =>
      cases taken with
      | none =>
          cases speaks_of_closed named step closed with
          | nothing =>
              rw [append_none]
              exact .noticed loss even closed isNoticed recognized lost recalled principal queue
                before notice after order climbs returns level
          | report m body hBody same names =>
              refine .noticed loss even closed isNoticed recognized lost recalled principal queue
                before notice (after ++ [m]) ?_ climbs returns (all_snoc level ⟨body, hBody, same⟩)
              rw [order, List.append_assoc]
              rfl
          | notice _ _ _ _ _ _ _ unnoticed => cases isNoticed.symm.trans unnoticed
      | some m =>
          obtain ⟨⟨body, hBody, action⟩, rest⟩ := List.forall_mem_cons.mp queue
          obtain ⟨rfl, rfl⟩ := step.admit_closed hBody action closed
          rw [append_none]
          exact .noticed loss even closed isNoticed recognized lost recalled principal rest
            before notice after order climbs returns level

end Recalling

section Recovering

theorem Recovering.leg (named : Named t s reports)
    (stage : Recovering t s (taken.toList ++ control) reports) (step : SideStep s taken sent s') :
    Recovering t s' control (reports ++ sent.toList) := by
  cases stage with
  | sent settled impaired queue unrecorded reported =>
      cases taken with
      | none =>
          cases speaks_of_closed named step settled.closed with
          | nothing =>
              rw [append_none]
              exact .sent settled impaired queue unrecorded reported
          | report m body hBody loss names =>
              exact .sent settled impaired queue unrecorded (all_snoc reported ⟨body, hBody, loss⟩)
          | notice _ _ _ _ stored => cases unrecorded.symm.trans stored
      | some m =>
          rcases Marked.cons queue with ⟨⟨body, hBody, action⟩, rest⟩ |
            ⟨⟨body, hBody, action, same, target⟩, rest⟩
          · obtain ⟨rfl, rfl⟩ := step.admit_closed hBody action settled.closed
            rw [append_none]
            exact .sent settled impaired rest unrecorded reported
          · obtain ⟨notice, settlement, record, credited, rfl, hNotice, closed, kind, hSame, within,
              names, isRecovery, claim, credit, rfl⟩ := step.of_recover hBody action
            have outstanding := settled.impaired
            rw [same]
            refine .settling credited (settled.toLevel.congr rfl rfl) closed ?_ ?_ ?_
              settled.lastImpaired rest ?_
            · intro other found
              cases (Function.update_self _ _ _).symm.trans found
              exact kind
            · show s.impaired - credited + credited = t.impaired
              omega
            · show s.principal + credited = t.cap + credited
              rw [settled.principal]
            · exact Marked.snoc_mark reported
                ⟨settlement, hNotice, isRecovery, names.trans same, by omega, credit⟩ nofun
  | settling credited level closed unopened within principal lastImpaired queue reported =>
      cases taken with
      | none =>
          cases speaks_of_closed named step closed with
          | nothing =>
              rw [append_none]
              exact .settling credited level closed unopened within principal lastImpaired queue
                reported
          | report m body hBody loss names =>
              exact .settling credited level closed unopened within principal lastImpaired queue
                (Marked.snoc reported (fun _ all => all_snoc all ⟨body, hBody, loss⟩))
          | notice _ _ _ _ stored kind => cases (unopened _ stored).symm.trans kind
      | some m =>
          obtain ⟨⟨body, hBody, action⟩, rest⟩ := List.forall_mem_cons.mp queue
          obtain ⟨rfl, rfl⟩ := step.admit_closed hBody action closed
          rw [append_none]
          exact .settling credited level closed unopened within principal lastImpaired rest reported

end Recovering

/-- No move of the leg, alone or with a message it takes, leaves the agreement. -/
theorem Stage.leg (named : Named t s reports) (stage : Stage t s (taken.toList ++ control) reports)
    (step : SideStep s taken sent s') : Stage t s' control (reports ++ sent.toList) := by
  cases stage with
  | idle kind stage => exact .idle kind (stage.leg named kind step)
  | allocating kind stage => exact .allocating kind (stage.leg named step)
  | recalling kind stage => exact .recalling kind (stage.leg named step)
  | recovering kind stage => exact .recovering kind (stage.leg named step)

/- The names. -/

/-- The transfer a control message names. -/
def controlTransfer (m : Message) : Option Bytes32 :=
  match m.body with
  | .allocate body => some body.transferId
  | .recall body => some body.transferId
  | .resolve body => some body.transferId
  | _ => none

/-- The next control message is an admission or one of the active transfer. -/
theorem Stage.head (stage : Stage t s (m :: control) reports) :
    Admits m ∨ t.kind ≠ .none ∧ controlTransfer m = some t.transferId := by
  cases stage with
  | idle kind stage => exact .inl (stage.queue m List.mem_cons_self)
  | allocating kind stage =>
      have active : t.kind ≠ .none := by simp [kind]
      have follows : Follows t (m :: control) → Admits m ∨ t.kind ≠ .none ∧
          controlTransfer m = some t.transferId := by
        intro queue
        rcases queue.cons with ⟨admits, -⟩ | ⟨⟨body, hBody, -, same, -⟩, -⟩
        · exact .inl admits
        · exact .inr ⟨active, by simp [controlTransfer, hBody, same]⟩
      cases stage with
      | sent _ queue =>
          rcases queue.cons with ⟨admits, -⟩ | ⟨⟨body, hBody, same, -⟩, -⟩
          · exact .inl admits
          · exact .inr ⟨active, by simp [controlTransfer, hBody, same]⟩
      | opened _ _ _ _ _ _ _ queue => exact follows queue
      | done _ _ _ _ _ _ _ _ queue => exact follows queue
      | settling _ _ _ _ _ _ _ _ _ queue => exact .inl (queue m List.mem_cons_self)
  | recalling kind stage =>
      have active : t.kind ≠ .none := by simp [kind]
      cases stage with
      | sent _ queue =>
          rcases queue.cons with ⟨admits, -⟩ | ⟨⟨body, hBody, same, -⟩, -⟩
          · exact .inl admits
          · exact .inr ⟨active, by simp [controlTransfer, hBody, same]⟩
      | opened _ _ _ _ _ _ _ queue => exact .inl (queue m List.mem_cons_self)
      | done _ _ _ _ _ _ _ _ queue => exact .inl (queue m List.mem_cons_self)
      | noticed _ _ _ _ _ _ _ _ queue => exact .inl (queue m List.mem_cons_self)
  | recovering kind stage =>
      have active : t.kind ≠ .none := by simp [kind]
      cases stage with
      | sent _ _ queue =>
          rcases queue.cons with ⟨admits, -⟩ | ⟨⟨body, hBody, -, same, -⟩, -⟩
          · exact .inl admits
          · exact .inr ⟨active, by simp [controlTransfer, hBody, same]⟩
      | settling _ _ _ _ _ _ _ queue => exact .inl (queue m List.mem_cons_self)

/-- What the leg has open is the active transfer. -/
theorem Stage.opened (stage : Stage t s control reports) {kind : TransferKind} {id : Bytes32}
    (isOpen : s.opened = some (kind, id)) : id = t.transferId ∧ t.kind ≠ .none := by
  have same : ∀ other, s.opened = some (other, t.transferId) → id = t.transferId := by
    intro other hOpen
    rw [isOpen, Option.some.injEq, Prod.mk.injEq] at hOpen
    exact hOpen.2
  have absurd (closed : s.opened = none) : id = t.transferId := by
    cases closed.symm.trans isOpen
  cases stage with
  | idle _ stage => cases stage.settled.closed.symm.trans isOpen
  | allocating active stage =>
      refine ⟨?_, by simp [active]⟩
      cases stage with
      | sent settled => exact absurd settled.closed
      | opened _ _ _ hOpen => exact same _ hOpen
      | done _ _ _ closed => exact absurd closed
      | settling _ _ closed => exact absurd closed
  | recalling active stage =>
      refine ⟨?_, by simp [active]⟩
      cases stage with
      | sent settled => exact absurd settled.closed
      | opened _ _ hOpen => exact same _ hOpen
      | done _ _ closed => exact absurd closed
      | noticed _ _ closed => exact absurd closed
  | recovering active stage =>
      refine ⟨?_, by simp [active]⟩
      cases stage with
      | sent settled => exact absurd settled.closed
      | settling _ _ closed => exact absurd closed

/-- One record is stored under its own name. -/
theorem Named.store (named : Named t s reports) {id : Bytes32} {record : TransferRecord}
    (records : s'.records = Function.update s.records id (some record))
    (used : t.used id = true) (same : record.transferId = id)
    (done : record.transferKind = .recall → record.status = .complete → id = t.transferId)
    (latest : s'.latestCompleted = s.latestCompleted ∨ s'.latestCompleted = id)
    (noticed : s'.noticed = s.noticed) : Named t s' reports where
  zero := named.zero
  idle := named.idle
  active := named.active
  records other found stored := by
    rw [records] at stored
    by_cases here : other = id
    · subst here
      cases (Function.update_self _ _ _).symm.trans stored
      exact ⟨used, same⟩
    · rw [Function.update_of_ne here] at stored
      exact named.records other found stored
  completed := by
    rcases latest with kept | new
    · rw [kept]
      exact named.completed
    · rw [new]
      exact .inr used
  reported := named.reported
  noticed other found stored kind complete := by
    rw [records] at stored
    rw [noticed]
    by_cases here : other = id
    · subst here
      cases (Function.update_self _ _ _).symm.trans stored
      exact .inr (done kind complete)
    · rw [Function.update_of_ne here] at stored
      exact named.noticed other found stored kind complete

/-- Publishing anything but a report names no transfer as completed. -/
theorem Named.publish (named : Named t s reports)
    (names : ∀ body, m.body = .remoteReport body →
      body.latestCompletedTransferId = .zero ∨ t.used body.latestCompletedTransferId = true) :
    Named t s (reports ++ [m]) :=
  { named with reported := all_snoc named.reported names }

/-- Every move of the leg keeps to the names the coordinator opened. -/
theorem Named.leg (named : Named t s reports)
    (stage : Stage t s (taken.toList ++ control) reports) (step : SideStep s taken sent s') :
    Named t s' (reports ++ sent.toList) := by
  have opens : ∀ {m : Message} {id : Bytes32}, taken = some m → controlTransfer m = some id →
      ¬ Admits m → t.used id = true := by
    intro m id took names other
    subst took
    rcases stage.head with admits | ⟨active, same⟩
    · exact absurd admits other
    · cases names.symm.trans same
      exact named.active active
  have stored : ∀ {id record}, s.records id = some record →
      t.used id = true ∧ record.transferId = id := fun found => named.records _ _ found
  cases step with
  | quiet =>
      rw [append_none]
      exact named
  | tookAllocation m body record hBody idle _ kind same =>
      have names : controlTransfer m = some body.transferId := by simp [controlTransfer, hBody]
      have used := opens rfl names fun ⟨_, other, _⟩ => by cases hBody.symm.trans other
      rw [append_none]
      refine named.store rfl used same (fun isRecall => ?_) (.inl rfl) rfl
      cases kind.symm.trans isRecall
  | tookRecall m body record hBody idle _ kind same _ _ _ _ status =>
      have names : controlTransfer m = some body.transferId := by simp [controlTransfer, hBody]
      have used := opens rfl names fun ⟨_, other, _⟩ => by cases hBody.symm.trans other
      rw [append_none]
      refine named.store rfl used same (fun _ complete => ?_) (.inl rfl) rfl
      rcases status with pending | ⟨held, -⟩
      · cases complete.symm.trans pending
      · cases complete.symm.trans held
  | ignored =>
      rw [append_none]
      exact named
  | admittedAllocation m body record hBody action found =>
      rw [append_none]
      exact named.store rfl (stored found).1 (stored found).2 nofun (.inl rfl) rfl
  | admittedRecall m body record hBody action found =>
      rw [append_none]
      exact named.store rfl (stored found).1 (stored found).2 nofun (.inl rfl) rfl
  | attributed id record total found isOpen pending =>
      rw [append_none]
      refine named.store rfl (stored found).1 (stored found).2 (fun _ complete => ?_) (.inl rfl) rfl
      cases complete.symm.trans pending
  | completed id record record' found isOpen pending within kind same =>
      have active := (stage.opened isOpen).1
      rw [(stored found).2] at active
      rw [append_none]
      exact named.store rfl (stored found).1 (same.trans (stored found).2) (fun _ _ => active)
        (.inr (stored found).2) rfl
  | progressed id record record' _ _ _ found isOpen pending pending' moves =>
      rw [append_none]
      refine named.store rfl (stored found).1 (moves.transferId.trans (stored found).2)
        (fun _ complete => ?_) (.inl rfl) rfl
      cases complete.symm.trans pending'
  | settled id record record' _ _ _ found isOpen pending complete moves =>
      have active := (stage.opened isOpen).1
      rw [(stored found).2] at active
      rw [append_none]
      exact named.store rfl (stored found).1 (moves.transferId.trans (stored found).2)
        (fun _ _ => active) (.inr (stored found).2) rfl
  | closed m notice body settlement record record' _ hBody action hNotice found _ _ _ _ _ _ kind
      same closed =>
      refine Named.publish ?_ fun _ other => by cases hNotice.symm.trans other
      refine named.store rfl (stored found).1 (same.trans (stored found).2) (fun isRecall => ?_)
        (.inl rfl) rfl
      cases kind.symm.trans isRecall
  | recovered m notice body settlement record _ hBody action hNotice idle _ kind same =>
      have names : controlTransfer m = some body.transferId := by simp [controlTransfer, hBody]
      have used := opens rfl names fun ⟨_, other, admits⟩ => by
        cases hBody.symm.trans other
        cases action.symm.trans admits
      refine Named.publish ?_ fun _ other => by cases hNotice.symm.trans other
      refine named.store rfl used same (fun isRecall => ?_) (.inl rfl) rfl
      cases kind.symm.trans isRecall
  | reported m body hBody _ names =>
      refine named.publish fun other same => ?_
      cases hBody.symm.trans same
      rw [names]
      exact named.completed
  | notified m body id record hBody found =>
      refine Named.publish { named with noticed := ?_ } fun _ other => by
        cases hBody.symm.trans other
      intro other record' found' kind complete
      by_cases here : other = record.transferId
      · subst here
        exact .inl (Function.update_self _ _ _)
      · show Function.update s.noticed record.transferId true other = true ∨ other = t.transferId
        rw [Function.update_of_ne here]
        exact named.noticed other record' found' kind complete

end Bridge
