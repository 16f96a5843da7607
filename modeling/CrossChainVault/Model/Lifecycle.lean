import CrossChainVault.Model.Claims

set_option autoImplicit false

/- The life of one request, as the model shows it: filed, perhaps withdrawn and filed again, locked at
the cutoff, settled or refunded once, and paid once. -/

namespace AccountingModel

/-- Observable position of a request in its lifecycle. -/
inductive RequestState
  | pending
  | locked
  | claimable
  | claimed
  | refundable
  | refunded
  | cancelled
deriving DecidableEq, Repr

def State.lifecycle (s : State) (epoch : EpochId) (cancelled claimed : Bool) : RequestState :=
  if cancelled then .cancelled
  else
    match s.epochs[epoch]? with
    | some (.finalized _) => if claimed then .claimed else .claimable
    | some (.aborted _) => if claimed then .refunded else .refundable
    | none =>
        match s.epoch with
        | some current =>
            if current.id = epoch ∧ current.phase = .cutOff then .locked else .pending
        | none => .pending

def State.depositRequestState (s : State) (key : RequestKey) : Option RequestState := do
  let request ← s.depositRequests[key]?
  pure (s.lifecycle key.epoch request.cancelled request.claimed)

def State.redeemRequestState (s : State) (key : RequestKey) : Option RequestState := do
  let request ← s.redeemRequests[key]?
  pure (s.lifecycle key.epoch request.cancelled request.claimed)

def Side.requestState (s : State) (key : RequestKey) : Side → Option RequestState
  | .deposit => s.depositRequestState key
  | .redeem => s.redeemRequestState key

/-- Whether the epoch is the current one and still takes requests. -/
def State.takes (s : State) (epoch : EpochId) : Bool :=
  s.epoch.any fun current => decide (current.id = epoch ∧ current.phase = .opened)

/-- The moves a request can make in one operation. Only an epoch that takes requests files, withdraws
or files again. -/
inductive Moves (takes : Bool) : Option RequestState → Option RequestState → Prop
  | stays (now : Option RequestState) : Moves takes now now
  | filed (open_ : takes = true) : Moves takes none (some .pending)
  | withdrawn (open_ : takes = true) : Moves takes (some .pending) (some .cancelled)
  | refiled (open_ : takes = true) : Moves takes (some .cancelled) (some .pending)
  | cutOff : Moves takes (some .pending) (some .locked)
  | settled : Moves takes (some .locked) (some .claimable)
  | abandoned : Moves takes (some .pending) (some .refundable)
  | unlocked : Moves takes (some .locked) (some .refundable)
  | paid : Moves takes (some .claimable) (some .claimed)
  | returned : Moves takes (some .refundable) (some .refunded)

/-- The positions a request can still come to. A withdrawn request stays withdrawn once its epoch has
stopped taking requests. -/
def RequestState.ahead (takes : Bool) : RequestState → List RequestState
  | .pending => [.pending, .locked, .claimable, .claimed, .refundable, .refunded, .cancelled]
  | .cancelled =>
      if takes then [.pending, .locked, .claimable, .claimed, .refundable, .refunded, .cancelled]
      else [.cancelled]
  | .locked => [.locked, .claimable, .claimed, .refundable, .refunded]
  | .claimable => [.claimable, .claimed]
  | .refundable => [.refundable, .refunded]
  | .claimed => [.claimed]
  | .refunded => [.refunded]

section Phase

variable {s s' : State} {op : Operation} {epoch : EpochId}

/-- The part of an epoch that says which requests it takes. -/
def Epoch.phasePart (epoch : Epoch) : EpochId × EpochPhase := (epoch.id, epoch.phase)

/-- What one operation can do to the phase of the current epoch. -/
inductive PhaseChange (s s' : State) : Prop
  | same (outcomes : s'.epochs = s.epochs)
      (current : s'.epoch.map Epoch.phasePart = s.epoch.map Epoch.phasePart)
  | cutOff (epoch : Epoch) (found : s.epoch = some epoch) (opened : epoch.phase = .opened)
      (outcomes : s'.epochs = s.epochs)
      (current : s'.epoch.map Epoch.phasePart = some (epoch.id, .cutOff))
  | finalized (epoch : Epoch) (terms : EpochTerms) (found : s.epoch = some epoch)
      (phase : epoch.phase = .cutOff) (unsettled : s.epochs[epoch.id]? = none)
      (outcomes : s'.epochs = s.epochs.insert epoch.id (.finalized terms))
      (current : s'.epoch = none)
  | aborted (epoch : Epoch) (terms : AbortedTerms) (found : s.epoch = some epoch)
      (unsettled : s.epochs[epoch.id]? = none)
      (outcomes : s'.epochs = s.epochs.insert epoch.id (.aborted terms))
      (current : s'.epoch = none)
  | started (closed : s.epoch = none) (outcomes : s'.epochs = s.epochs)
      (current : s'.epoch.map Epoch.phasePart = some (s.nextEpochId, .opened))

theorem phaseChange (success : apply s op = .ok s') : PhaseChange s s' := by
  cases op with
  | requestDeposit account assets =>
      obtain ⟨_, _, _, _, _, -, found, -, -, -, -, -, -, -, -, rfl⟩ := requestDeposit_iff.mp success
      exact .same rfl (by rw [found]; rfl)
  | cancelDeposit account =>
      obtain ⟨_, _, _, _, _, _, -, found, -, -, -, -, -, -, -, -, -, rfl⟩ :=
        cancelDeposit_iff.mp success
      exact .same rfl (by rw [found]; rfl)
  | requestRedeem account shares =>
      obtain ⟨_, _, _, _, _, -, found, -, -, -, -, -, -, -, -, rfl⟩ := requestRedeem_iff.mp success
      exact .same rfl (by rw [found]; rfl)
  | cancelRedeem account =>
      obtain ⟨_, _, _, _, _, _, -, found, -, -, -, -, -, -, -, -, -, rfl⟩ :=
        cancelRedeem_iff.mp success
      exact .same rfl (by rw [found]; rfl)
  | cutoffEpoch now =>
      obtain ⟨epoch, -, found, opened, -, rfl⟩ := cutoffEpoch_ok success
      exact .cutOff epoch found opened rfl rfl
  | finalizeEpoch =>
      obtain ⟨epoch, terms, _, _, _, _, _, _, _, _, _, -, found, phase, unsettled, -, -, -, -, -,
        -, -, -, -, -, rfl⟩ := finalizeEpoch_ok success
      exact .finalized epoch terms found phase unsettled rfl rfl
  | abortEpoch actor =>
      obtain ⟨epoch, _, -, found, unsettled, -, -, rfl⟩ := abortEpoch_ok success
      exact .aborted epoch _ found unsettled rfl rfl
  | openNextEpoch now =>
      obtain ⟨_, _, -, closed, -, -, -, rfl⟩ := openNextEpoch_ok success
      exact .started closed rfl rfl
  | claimDeposit account epoch =>
      obtain ⟨_, _, _, _, _, -, -, -, -, -, -, rfl⟩ := claimDeposit_iff.mp success
      exact .same rfl rfl
  | claimRedeem account epoch =>
      obtain ⟨_, _, _, _, _, -, -, -, -, -, -, rfl⟩ := claimRedeem_iff.mp success
      exact .same rfl rfl
  | claimAbortedDeposit account epoch =>
      obtain ⟨_, _, _, _, -, -, -, -, -, rfl⟩ := claimAbortedDeposit_iff.mp success
      exact .same rfl rfl
  | claimAbortedRedeem account epoch =>
      obtain ⟨_, _, _, _, -, -, -, -, -, rfl⟩ := claimAbortedRedeem_iff.mp success
      exact .same rfl rfl
  | pause actor =>
      obtain ⟨-, rfl⟩ := pause_ok success
      exact .same rfl rfl
  | unpause actor =>
      obtain ⟨-, rfl⟩ := unpause_ok success
      exact .same rfl rfl
  | freeze actor =>
      obtain ⟨-, rfl⟩ := freeze_ok success
      exact .same rfl rfl
  | beginAllocate actor transferId amount =>
      obtain ⟨_, _, _, -, -, -, -, -, -, -, -, -, -, rfl⟩ := beginAllocate_ok success
      exact .same rfl rfl
  | completeAllocation transferId reported =>
      obtain ⟨-, rfl⟩ | ⟨_, _, -, -, -, -, -, rfl⟩ := completeAllocation_ok success
      · exact .same rfl rfl
      · exact .same rfl rfl
  | beginRecall actor transferId amount =>
      obtain ⟨-, -, -, -, -, -, rfl⟩ := beginRecall_ok success
      exact .same rfl rfl
  | acceptRecallSent transferId principal actual loss =>
      obtain ⟨_, _, _, _, _, _, _, -, -, -, -, -, -, -, -, -, -, -, rfl⟩ :=
        acceptRecallSent_iff.mp success
      exact .same rfl rfl
  | observeInbound amount =>
      obtain ⟨_, _, _, _, _, -, -, -, -, -, -, rfl⟩ := observeInbound_iff.mp success
      exact .same rfl rfl
  | applyRemoteValuation reported loss =>
      obtain ⟨_, -, ⟨-, rfl⟩ | ⟨-, rfl⟩⟩ := applyRemoteValuation_ok success
      · exact .same rfl rfl
      · exact .same rfl rfl
  | lockRemoteValuation =>
      obtain ⟨-, rfl⟩ | ⟨_, -, -, -, -, rfl⟩ := lockRemoteValuation_ok success
      · exact .same rfl rfl
      · exact .same rfl rfl
  | requestClose actor transferId =>
      obtain ⟨-, -, -, -, rfl⟩ := requestClose_ok success
      exact .same rfl rfl
  | settleClose transferId credited =>
      obtain ⟨_, _, _, _, _, -, -, -, -, -, -, -, -, -, rfl⟩ := settleClose_ok success
      exact .same rfl rfl
  | beginRecover actor transferId =>
      obtain ⟨-, -, -, -, -, rfl⟩ := beginRecover_ok success
      exact .same rfl rfl
  | settleRecover transferId credited =>
      obtain ⟨_, _, _, -, -, -, -, -, rfl⟩ := settleRecover_ok success
      exact .same rfl rfl

/-- The phase of a current epoch that is not closed by the operation. -/
theorem takes_eq {epoch : EpochId} {phase : EpochPhase}
    (current : s.epoch.map Epoch.phasePart = some (epoch, phase)) :
    s.takes epoch = decide (phase = .opened) := by
  obtain ⟨now, found, part⟩ := Option.map_eq_some_iff.mp current
  cases part
  simp [State.takes, found]

theorem exists_of_takes (takes : s.takes epoch = true) :
    s.epoch.map Epoch.phasePart = some (epoch, .opened) := by
  rw [State.takes, Option.any_eq_true] at takes
  obtain ⟨current, found, open_⟩ := takes
  obtain ⟨rfl, opened⟩ := of_decide_eq_true open_
  rw [found, Option.map_some, Epoch.phasePart, opened]

end Phase

section Filing

variable {s s' : State} {op : Operation} {key : RequestKey}

/-- What one operation can do to a record of an epoch without an outcome. -/
inductive Filing (side : Side) (key : RequestKey) (s s' : State) : Prop
  | kept (same : (side.requests s')[key]? = (side.requests s)[key]?)
  | filed (record : Request) (takes : s.takes key.epoch = true) (outcomes : s'.epochs = s.epochs)
      (current : s'.epoch.map Epoch.phasePart = s.epoch.map Epoch.phasePart)
      (now : (side.requests s')[key]? = some record) (live : record.cancelled = false)
  | withdrawn (request record : Request) (takes : s.takes key.epoch = true)
      (outcomes : s'.epochs = s.epochs)
      (current : s'.epoch.map Epoch.phasePart = s.epoch.map Epoch.phasePart)
      (found : (side.requests s)[key]? = some request) (live : request.cancelled = false)
      (now : (side.requests s')[key]? = some record) (gone : record.cancelled = true)

/-- The current epoch takes requests in the phase in which it is opened. -/
theorem takes_of_opened {current : Epoch} (found : s.epoch = some current)
    (opened : current.phase = .opened) : s.takes current.id = true := by
  rw [State.takes, found, Option.any_some]
  exact decide_eq_true ⟨rfl, opened⟩

theorem opened_of_ne_cutOff {phase : EpochPhase} (other : phase ≠ .cutOff) : phase = .opened := by
  cases phase with
  | opened => rfl
  | cutOff => exact absurd rfl other

/-- A payment leaves the records of epochs without an outcome alone. -/
theorem insert_unsettled {outcome : EpochOutcome} {paid : RequestKey}
    (settled : s.epochs[paid.epoch]? = some outcome) (unsettled : s.epochs[key.epoch]? = none)
    (requests : RequestMap) (record : Request) :
    (requests.insert paid record)[key]? = requests[key]? := by
  apply OrderedMap.getElem?_insert_other
  rintro rfl
  rw [settled] at unsettled
  cases unsettled

theorem depositRecordFiling (unsettled : s.epochs[key.epoch]? = none) (success : apply s op = .ok s') :
    Filing .deposit key s s' := by
  cases op with
  | requestDeposit account assets =>
      obtain ⟨epoch, _, _, _, _, -, found, opened, -, -, -, -, -, -, -, rfl⟩ :=
        requestDeposit_iff.mp success
      by_cases same : (⟨epoch.id, account⟩ : RequestKey) = key
      · subst same
        exact .filed _ (takes_of_opened found opened) rfl (by rw [found]; rfl)
          (OrderedMap.getElem?_insert_same ..) rfl
      · exact .kept (OrderedMap.getElem?_insert_other _ _ same)
  | cancelDeposit account =>
      obtain ⟨epoch, request, _, _, _, _, -, found, phase, recorded, -, live, -, -, -, -, -, rfl⟩ :=
        cancelDeposit_iff.mp success
      by_cases same : (⟨epoch.id, account⟩ : RequestKey) = key
      · subst same
        exact .withdrawn request _ (takes_of_opened found (opened_of_ne_cutOff phase)) rfl
          (by rw [found]; rfl) recorded live (OrderedMap.getElem?_insert_same ..) rfl
      · exact .kept (OrderedMap.getElem?_insert_other _ _ same)
  | requestRedeem account shares =>
      obtain ⟨_, _, _, _, _, -, -, -, -, -, -, -, -, -, -, rfl⟩ := requestRedeem_iff.mp success
      exact .kept rfl
  | cancelRedeem account =>
      obtain ⟨_, _, _, _, _, _, -, -, -, -, -, -, -, -, -, -, -, rfl⟩ := cancelRedeem_iff.mp success
      exact .kept rfl
  | finalizeEpoch =>
      obtain ⟨_, _, _, _, _, _, _, _, _, _, _, -, -, -, -, -, -, -, -, -, -, -, -, -, -, rfl⟩ :=
        finalizeEpoch_ok success
      exact .kept rfl
  | abortEpoch actor =>
      obtain ⟨_, _, -, -, -, -, -, rfl⟩ := abortEpoch_ok success
      exact .kept rfl
  | openNextEpoch now =>
      obtain ⟨_, _, -, -, -, -, -, rfl⟩ := openNextEpoch_ok success
      exact .kept rfl
  | claimDeposit account epoch =>
      obtain ⟨_, _, _, _, _, finalized, -, -, -, -, -, rfl⟩ := claimDeposit_iff.mp success
      exact .kept (insert_unsettled finalized unsettled _ _)
  | claimRedeem account epoch =>
      obtain ⟨_, _, _, _, _, -, -, -, -, -, -, rfl⟩ := claimRedeem_iff.mp success
      exact .kept rfl
  | claimAbortedDeposit account epoch =>
      obtain ⟨_, _, _, _, aborted, -, -, -, -, rfl⟩ := claimAbortedDeposit_iff.mp success
      exact .kept (insert_unsettled aborted unsettled _ _)
  | claimAbortedRedeem account epoch =>
      obtain ⟨_, _, _, _, -, -, -, -, -, rfl⟩ := claimAbortedRedeem_iff.mp success
      exact .kept rfl
  | _ => exact .kept (by rw [Side.requests, (booksKept success rfl).depositRequests]; rfl)

theorem redeemRecordFiling (unsettled : s.epochs[key.epoch]? = none) (success : apply s op = .ok s') :
    Filing .redeem key s s' := by
  cases op with
  | requestRedeem account shares =>
      obtain ⟨epoch, _, _, _, _, -, found, opened, -, -, -, -, -, -, -, rfl⟩ :=
        requestRedeem_iff.mp success
      by_cases same : (⟨epoch.id, account⟩ : RequestKey) = key
      · subst same
        exact .filed _ (takes_of_opened found opened) rfl (by rw [found]; rfl)
          (OrderedMap.getElem?_insert_same ..) rfl
      · exact .kept (OrderedMap.getElem?_insert_other _ _ same)
  | cancelRedeem account =>
      obtain ⟨epoch, request, _, _, _, _, -, found, phase, recorded, -, live, -, -, -, -, -, rfl⟩ :=
        cancelRedeem_iff.mp success
      by_cases same : (⟨epoch.id, account⟩ : RequestKey) = key
      · subst same
        exact .withdrawn request _ (takes_of_opened found (opened_of_ne_cutOff phase)) rfl
          (by rw [found]; rfl) recorded live (OrderedMap.getElem?_insert_same ..) rfl
      · exact .kept (OrderedMap.getElem?_insert_other _ _ same)
  | requestDeposit account assets =>
      obtain ⟨_, _, _, _, _, -, -, -, -, -, -, -, -, -, -, rfl⟩ := requestDeposit_iff.mp success
      exact .kept rfl
  | cancelDeposit account =>
      obtain ⟨_, _, _, _, _, _, -, -, -, -, -, -, -, -, -, -, -, rfl⟩ := cancelDeposit_iff.mp success
      exact .kept rfl
  | finalizeEpoch =>
      obtain ⟨_, _, _, _, _, _, _, _, _, _, _, -, -, -, -, -, -, -, -, -, -, -, -, -, -, rfl⟩ :=
        finalizeEpoch_ok success
      exact .kept rfl
  | abortEpoch actor =>
      obtain ⟨_, _, -, -, -, -, -, rfl⟩ := abortEpoch_ok success
      exact .kept rfl
  | openNextEpoch now =>
      obtain ⟨_, _, -, -, -, -, -, rfl⟩ := openNextEpoch_ok success
      exact .kept rfl
  | claimRedeem account epoch =>
      obtain ⟨_, _, _, _, _, finalized, -, -, -, -, -, rfl⟩ := claimRedeem_iff.mp success
      exact .kept (insert_unsettled finalized unsettled _ _)
  | claimDeposit account epoch =>
      obtain ⟨_, _, _, _, _, -, -, -, -, -, -, rfl⟩ := claimDeposit_iff.mp success
      exact .kept rfl
  | claimAbortedRedeem account epoch =>
      obtain ⟨_, _, _, _, aborted, -, -, -, -, rfl⟩ := claimAbortedRedeem_iff.mp success
      exact .kept (insert_unsettled aborted unsettled _ _)
  | claimAbortedDeposit account epoch =>
      obtain ⟨_, _, _, _, -, -, -, -, -, rfl⟩ := claimAbortedDeposit_iff.mp success
      exact .kept rfl
  | _ => exact .kept (by rw [Side.requests, (booksKept success rfl).redeemRequests]; rfl)

theorem recordFiling (side : Side) (unsettled : s.epochs[key.epoch]? = none)
    (success : apply s op = .ok s') : Filing side key s s' := by
  cases side with
  | deposit => exact depositRecordFiling unsettled success
  | redeem => exact redeemRecordFiling unsettled success

end Filing

section Moves

variable {s s' : State} {op : Operation} {key : RequestKey} {side : Side}

theorem requestState_eq (side : Side) (s : State) (key : RequestKey) :
    side.requestState s key = (side.requests s)[key]?.map fun request =>
      s.lifecycle key.epoch request.cancelled request.claimed := by
  cases side with
  | deposit =>
      show s.depositRequestState key = _
      rw [State.depositRequestState, Side.requests]
      cases s.depositRequests[key]? <;> rfl
  | redeem =>
      show s.redeemRequestState key = _
      rw [State.redeemRequestState, Side.requests]
      cases s.redeemRequests[key]? <;> rfl

/-- A record belongs to the current epoch or to one with an outcome, and it is claimed only out of an
outcome. -/
theorem Reachable.recorded (side : Side) (reachable : Reachable s) {request : Request}
    (found : (side.requests s)[key]? = some request) (unsettled : s.epochs[key.epoch]? = none) :
    (∃ current, s.epoch = some current ∧ current.id = key.epoch) ∧ request.claimed = false := by
  obtain ⟨deposits, redeems⟩ := reachable.backed
  have current : ∃ current, s.epoch = some current ∧ current.id = key.epoch := by
    cases side with
    | deposit =>
        rcases deposits.filed key request found with ⟨pending, now⟩ | settled
        · obtain ⟨current, here, part⟩ := Option.map_eq_some_iff.mp now
          exact ⟨current, here, (Prod.mk.inj part).1⟩
        · simp [State.depositBook, unsettled] at settled
    | redeem =>
        rcases redeems.filed key request found with ⟨pending, now⟩ | settled
        · obtain ⟨current, here, part⟩ := Option.map_eq_some_iff.mp now
          exact ⟨current, here, (Prod.mk.inj part).1⟩
        · simp [State.redeemBook, unsettled] at settled
  refine ⟨current, ?_⟩
  obtain ⟨current, here, id⟩ := current
  cases side with
  | deposit =>
      apply deposits.unclaimed key request _ found
      rw [State.depositBook, here, Option.map_some, id]
  | redeem =>
      apply redeems.unclaimed key request _ found
      rw [State.redeemBook, here, Option.map_some, id]

theorem lifecycle_cancelled (s : State) (epoch : EpochId) (claimed : Bool) :
    s.lifecycle epoch true claimed = .cancelled := rfl

/-- Where a live request of a settled epoch is. -/
def EpochOutcome.position (claimed : Bool) : EpochOutcome → RequestState
  | .finalized _ => if claimed then .claimed else .claimable
  | .aborted _ => if claimed then .refunded else .refundable

theorem lifecycle_settled {epoch : EpochId} {outcome : EpochOutcome}
    (settled : s.epochs[epoch]? = some outcome) (claimed : Bool) :
    s.lifecycle epoch false claimed = outcome.position claimed := by
  simp only [State.lifecycle, settled, Bool.false_eq_true, if_false]
  cases outcome <;> rfl

/-- Where a live request of the current epoch is. -/
theorem lifecycle_current {epoch : EpochId} {phase : EpochPhase}
    (unsettled : s.epochs[epoch]? = none)
    (current : s.epoch.map Epoch.phasePart = some (epoch, phase)) (claimed : Bool) :
    s.lifecycle epoch false claimed = if phase = .cutOff then .locked else .pending := by
  obtain ⟨now, found, part⟩ := Option.map_eq_some_iff.mp current
  cases part
  simp [State.lifecycle, unsettled, found]

/-- An unchanged record of the current epoch moves with the phase. -/
theorem moves_kept (reachable : Reachable s) (success : apply s op = .ok s') {request : Request}
    (found : (side.requests s)[key]? = some request) (unsettled : s.epochs[key.epoch]? = none) :
    Moves (s.takes key.epoch) (some (s.lifecycle key.epoch request.cancelled request.claimed))
      (some (s'.lifecycle key.epoch request.cancelled request.claimed)) := by
  obtain ⟨⟨current, here, id⟩, unclaimed⟩ := reachable.recorded side found unsettled
  cases gone : request.cancelled with
  | true =>
      rw [lifecycle_cancelled, lifecycle_cancelled]
      exact .stays _
  | false =>
      have part : s.epoch.map Epoch.phasePart = some (key.epoch, current.phase) := by
        rw [here, ← id]
        rfl
      rw [lifecycle_current unsettled part, unclaimed]
      cases phaseChange success with
      | same outcomes still =>
          rw [lifecycle_current (outcomes ▸ unsettled) (still.trans part)]
          exact .stays _
      | cutOff epoch found opened outcomes now =>
          rw [here] at found
          cases found
          rw [id] at now
          rw [lifecycle_current (outcomes ▸ unsettled) now, opened]
          exact .cutOff
      | finalized epoch terms found phase _ outcomes =>
          rw [here] at found
          cases found
          have settled : s'.epochs[key.epoch]? = some (.finalized terms) := by
            rw [outcomes, ← id, OrderedMap.getElem?_insert_same]
          rw [lifecycle_settled settled, phase]
          exact .settled
      | aborted epoch terms found _ outcomes =>
          rw [here] at found
          cases found
          have settled : s'.epochs[key.epoch]? = some (.aborted terms) := by
            rw [outcomes, ← id, OrderedMap.getElem?_insert_same]
          rw [lifecycle_settled settled]
          by_cases phase : current.phase = .cutOff
          · rw [if_pos phase]
            exact .unlocked
          · rw [if_neg phase]
            exact .abandoned
      | started closed =>
          rw [here] at closed
          cases closed

theorem moves_unsettled (reachable : Reachable s) (success : apply s op = .ok s')
    (unsettled : s.epochs[key.epoch]? = none) :
    Moves (s.takes key.epoch) (side.requestState s key) (side.requestState s' key) := by
  rw [requestState_eq, requestState_eq]
  cases recordFiling side unsettled success with
  | kept same =>
      rw [same]
      cases found : (side.requests s)[key]? with
      | none => exact .stays none
      | some request => exact moves_kept reachable success found unsettled
  | filed record takes outcomes still now live =>
      have open_ := exists_of_takes takes
      rw [now, Option.map_some, live,
        lifecycle_current (outcomes ▸ unsettled) (still.trans open_)]
      cases found : (side.requests s)[key]? with
      | none => exact .filed takes
      | some request =>
          rw [Option.map_some]
          cases gone : request.cancelled with
          | true => exact .refiled takes
          | false =>
              rw [lifecycle_current unsettled open_]
              exact .stays _
  | withdrawn request record takes outcomes still found live now gone =>
      rw [found, now, Option.map_some, Option.map_some, live, gone,
        lifecycle_current unsettled (exists_of_takes takes)]
      exact .withdrawn takes

theorem moves_settled (reachable : Reachable s) (success : apply s op = .ok s')
    {outcome : EpochOutcome} (settled : s.epochs[key.epoch]? = some outcome) :
    Moves (s.takes key.epoch) (side.requestState s key) (side.requestState s' key) := by
  have still := outcome_stable success settled
  rw [requestState_eq, requestState_eq]
  have change : RecordChange side key.account key.epoch outcome op s s' :=
    recordChange side reachable.epochOrder success settled
  cases change with
  | kept same other =>
      rw [show (side.requests s')[key]? = (side.requests s)[key]? from same]
      cases found : (side.requests s)[key]? with
      | none => exact .stays none
      | some request =>
          rw [Option.map_some, Option.map_some]
          cases gone : request.cancelled with
          | true => exact .stays _
          | false =>
              rw [lifecycle_settled settled, lifecycle_settled still]
              exact .stays _
  | paid request claim found now =>
      rw [show (side.requests s)[key]? = some request from found,
        show (side.requests s')[key]? = some { request with claimed := true } from now,
        Option.map_some, Option.map_some]
      cases gone : request.cancelled with
      | true => exact .stays _
      | false =>
          rw [lifecycle_settled settled, lifecycle_settled still]
          cases claimed : request.claimed with
          | true => exact .stays _
          | false =>
              cases outcome with
              | finalized terms => exact .paid
              | aborted terms => exact .returned

/-- Every accepted operation moves every request along one edge of the life cycle. -/
theorem moves (reachable : Reachable s) (success : apply s op = .ok s') (side : Side)
    (key : RequestKey) :
    Moves (s.takes key.epoch) (side.requestState s key) (side.requestState s' key) := by
  cases outcome : s.epochs[key.epoch]? with
  | none => exact moves_unsettled reachable success outcome
  | some settled => exact moves_settled reachable success outcome

/-- Once an epoch has records and takes no more, it never takes any again. -/
theorem takes_step (reachable : Reachable s) (success : apply s op = .ok s') {request : Request}
    (found : (side.requests s)[key]? = some request) (closed : s.takes key.epoch = false) :
    s'.takes key.epoch = false := by
  by_contra reopened
  have open_ := exists_of_takes (Bool.eq_true_of_not_eq_false reopened)
  obtain ⟨now, here', part'⟩ := Option.map_eq_some_iff.mp open_
  cases outcome : s.epochs[key.epoch]? with
  | some settled =>
      have still := outcome_stable success outcome
      have below := (reachable.step success).epochOrder.settledBelowCurrent now key.epoch here'
        (by rw [still]; rfl)
      rw [(Prod.mk.inj part').1] at below
      exact Nat.lt_irrefl _ below
  | none =>
      obtain ⟨⟨current, here, id⟩, -⟩ := reachable.recorded side found outcome
      have part : s.epoch.map Epoch.phasePart = some (key.epoch, current.phase) := by
        rw [here, ← id]
        rfl
      have past : current.phase ≠ .opened := by
        rw [takes_eq part] at closed
        exact of_decide_eq_false closed
      cases phaseChange success with
      | same outcomes still =>
          rw [still, part, Option.some.injEq, Prod.mk.injEq] at open_
          exact past open_.2
      | cutOff epoch found opened =>
          rw [here] at found
          cases found
          exact past opened
      | finalized _ _ _ _ _ _ none => rw [none] at here'; cases here'
      | aborted _ _ _ _ _ none => rw [none] at here'; cases here'
      | started closed =>
          rw [here] at closed
          cases closed

theorem mem_ahead_self (takes : Bool) (position : RequestState) : position ∈ position.ahead takes := by
  cases position <;> cases takes <;> decide

theorem mem_ahead_pending (takes : Bool) (last : RequestState) :
    last ∈ RequestState.pending.ahead takes := by
  cases takes <;> cases last <;> decide

theorem mem_ahead_true {takes : Bool} {position last : RequestState}
    (inside : last ∈ position.ahead takes) : last ∈ position.ahead true := by
  cases position with
  | pending => exact mem_ahead_pending true last
  | cancelled => exact mem_ahead_pending true last
  | locked => exact inside
  | claimable => exact inside
  | refundable => exact inside
  | claimed => exact inside
  | refunded => exact inside

/-- A filed request keeps its record. -/
theorem Moves.recorded {takes : Bool} {before : RequestState} {after : Option RequestState}
    (move : Moves takes (some before) after) : after.isSome := by
  cases move <;> rfl

/-- One move, then whatever lies ahead, lies ahead. -/
theorem Moves.ahead {takes takes' : Bool} {before middle last : RequestState}
    (move : Moves takes (some before) (some middle)) (later : takes = false → takes' = false)
    (rest : last ∈ middle.ahead takes') : last ∈ before.ahead takes := by
  cases move with
  | stays =>
      cases takes with
      | false => rwa [later rfl] at rest
      | true => exact mem_ahead_true rest
  | withdrawn => exact mem_ahead_pending takes last
  | refiled open_ =>
      subst open_
      exact mem_ahead_pending true last
  | cutOff => exact mem_ahead_pending takes last
  | abandoned => exact mem_ahead_pending takes last
  | settled =>
      have inside : last ∈ [RequestState.claimable, .claimed] ++ [.refundable, .refunded] :=
        List.mem_append_left _ rest
      exact List.mem_cons_of_mem _ inside
  | unlocked =>
      have inside : last ∈ [RequestState.claimable, .claimed] ++ [.refundable, .refunded] :=
        List.mem_append_right _ rest
      exact List.mem_cons_of_mem _ inside
  | paid => exact List.mem_cons_of_mem _ rest
  | returned => exact List.mem_cons_of_mem _ rest

/-- The record behind a request, once its epoch takes no more, changes only in being claimed. -/
theorem record_step (reachable : Reachable s) (success : apply s op = .ok s') {request : Request}
    (found : (side.requests s)[key]? = some request) (closed : s.takes key.epoch = false) :
    ∃ request', (side.requests s')[key]? = some request' ∧ request'.amount = request.amount ∧
      request'.cancelledAmount = request.cancelledAmount := by
  cases outcome : s.epochs[key.epoch]? with
  | some settled =>
      have change : RecordChange side key.account key.epoch settled op s s' :=
        recordChange side reachable.epochOrder success outcome
      cases change with
      | kept same other => exact ⟨request, Eq.trans same found, rfl, rfl⟩
      | paid paid claim here now =>
          have same : some paid = some request := Eq.trans (Eq.symm here) found
          cases same
          exact ⟨_, now, rfl, rfl⟩
  | none =>
      cases recordFiling side outcome success with
      | kept same => exact ⟨request, same.trans found, rfl, rfl⟩
      | filed _ takes =>
          rw [closed] at takes
          cases takes
      | withdrawn _ _ takes =>
          rw [closed] at takes
          cases takes

/-- The life of a request over a whole run. Its position only moves ahead, and once its epoch takes no
more requests its amount is fixed. -/
theorem record_run (operations : List Operation) (reachable : Reachable s)
    (finished : Run.run apply s operations = .ok s') {before : RequestState}
    (now : side.requestState s key = some before) :
    (∃ last, side.requestState s' key = some last ∧ last ∈ before.ahead (s.takes key.epoch)) ∧
      (s.takes key.epoch = false → ∀ request, (side.requests s)[key]? = some request →
        ∃ request', (side.requests s')[key]? = some request' ∧ request'.amount = request.amount ∧
          request'.cancelledAmount = request.cancelledAmount) := by
  induction operations generalizing s before with
  | nil =>
      cases finished
      exact ⟨⟨before, now, mem_ahead_self _ before⟩, fun _ request found => ⟨request, found, rfl, rfl⟩⟩
  | cons op rest ih =>
      obtain ⟨middle, success, finished⟩ := Run.run_cons.mp finished
      have move := moves reachable success side key
      have here := now
      rw [requestState_eq, Option.map_eq_some_iff] at here
      obtain ⟨request, found, -⟩ := here
      have later := takes_step reachable success found
      -- A request once filed has a position in every later state.
      obtain ⟨position, next⟩ : ∃ position, side.requestState middle key = some position := by
        rw [now] at move
        exact Option.isSome_iff_exists.mp move.recorded
      obtain ⟨⟨last, ends, ahead⟩, fixed⟩ := ih (reachable.step success) finished next
      rw [now, next] at move
      refine ⟨⟨last, ends, move.ahead later ahead⟩, ?_⟩
      intro closed record recorded
      obtain ⟨record', recorded', amount, cancelled⟩ := record_step reachable success recorded closed
      obtain ⟨final, ended, amount', cancelled'⟩ := fixed (later closed) record' recorded'
      exact ⟨final, ended, amount'.trans amount, cancelled'.trans cancelled⟩

/-- A request moves along the edges of its life cycle only, in every run of the vault. Each accepted
operation takes one edge or none. Over a run its position stays among those ahead of it, so what is
paid, returned or withdrawn past the cutoff is so for good, and its amount is fixed from the cutoff
on. -/
theorem request_lifecycle (reachable : Reachable s) (side : Side) (key : RequestKey) :
    (∀ op s', apply s op = .ok s' →
      Moves (s.takes key.epoch) (side.requestState s key) (side.requestState s' key)) ∧
    ∀ operations s', Run.run apply s operations = .ok s' →
      ∀ before, side.requestState s key = some before →
        (∃ last, side.requestState s' key = some last ∧ last ∈ before.ahead (s.takes key.epoch)) ∧
        (s.takes key.epoch = false → ∀ request, (side.requests s)[key]? = some request →
          ∃ request', (side.requests s')[key]? = some request' ∧
            request'.amount = request.amount ∧
            request'.cancelledAmount = request.cancelledAmount) :=
  ⟨fun _ _ success => moves reachable success side key,
    fun operations _ finished _ now => record_run operations reachable finished now⟩

/-- The holder's settled deposit, once claimed, is claimed in every later state. -/
theorem request_lifecycle_claimed : ∃ s, Reachable s ∧
    Side.requestState s ⟨.genesis, sampleHolder⟩ .deposit = some .claimed ∧
    ∀ operations s', Run.run apply s operations = .ok s' →
      Side.requestState s' ⟨.genesis, sampleHolder⟩ .deposit = some .claimed := by
  obtain ⟨s, reachable, claimed⟩ := exists_reachable
    (fun s => Side.requestState s ⟨.genesis, sampleHolder⟩ .deposit = some .claimed)
    sampleGenesis (sampleFrozen ++ [.claimDeposit sampleHolder .genesis]) (by decide +kernel)
  refine ⟨s, reachable, claimed, ?_⟩
  intro operations s' finished
  obtain ⟨⟨last, ends, ahead⟩, -⟩ :=
    (request_lifecycle reachable .deposit ⟨.genesis, sampleHolder⟩).2 operations s' finished _ claimed
  rw [ends, List.mem_singleton.mp ahead]

end Moves

end AccountingModel
