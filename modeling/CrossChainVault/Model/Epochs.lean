import CrossChainVault.Model.Conservation

set_option autoImplicit false

/- The sequence of epochs: identifiers only grow, and an outcome is written once. -/

namespace AccountingModel

/-- The part of an epoch that is fixed when it opens. -/
def Epoch.fixedPart (epoch : Epoch) : EpochId × AssetAmount × ShareAmount :=
  (epoch.id, epoch.virtualAssets, epoch.virtualShares)

/-- False for the operations that file, settle or pay requests. -/
def Operation.keepsBooks : Operation → Bool
  | .requestDeposit .. | .cancelDeposit _ | .requestRedeem .. | .cancelRedeem _ => false
  | .finalizeEpoch | .abortEpoch _ | .openNextEpoch _ => false
  | .claimDeposit .. | .claimRedeem .. | .claimAbortedDeposit .. | .claimAbortedRedeem .. => false
  | _ => true

/-- Accounts, requests, outcomes and shares are as they were. -/
structure BooksKept (s s' : State) : Prop where
  config : s'.config = s.config
  accounts : s'.accounts = s.accounts
  depositRequests : s'.depositRequests = s.depositRequests
  redeemRequests : s'.redeemRequests = s.redeemRequests
  epochs : s'.epochs = s.epochs
  nextEpochId : s'.nextEpochId = s.nextEpochId
  current : s'.epoch.map Epoch.fixedPart = s.epoch.map Epoch.fixedPart
  pendingDeposits : s'.epoch.map (fun e => (e.id, e.pendingDepositAssets)) =
    s.epoch.map fun e => (e.id, e.pendingDepositAssets)
  pendingRedeems : s'.epoch.map (fun e => (e.id, e.pendingRedeemShares)) =
    s.epoch.map fun e => (e.id, e.pendingRedeemShares)
  escrow : s'.buckets.pendingDepositEscrow = s.buckets.pendingDepositEscrow
  reserve : s'.buckets.claimReserve = s.buckets.claimReserve
  supply : s'.totalShareSupply = s.totalShareSupply
  escrowed : s'.escrowedRedeemShares = s.escrowedRedeemShares
  claimable : s'.claimableDepositShares = s.claimableDepositShares
  burned : s'.burnedRedemptionShares = s.burnedRedemptionShares

theorem booksKept {s s' : State} {op : Operation} (success : apply s op = .ok s')
    (keeps : op.keepsBooks = true) : BooksKept s s' := by
  cases op with
  | cutoffEpoch now =>
      obtain ⟨_, -, found, -, -, rfl⟩ := cutoffEpoch_ok success
      exact ⟨rfl, rfl, rfl, rfl, rfl, rfl, by rw [found]; rfl, by rw [found]; rfl,
        by rw [found]; rfl, rfl, rfl, rfl, rfl, rfl, rfl⟩
  | pause actor =>
      obtain ⟨-, rfl⟩ := pause_ok success
      constructor <;> rfl
  | unpause actor =>
      obtain ⟨-, rfl⟩ := unpause_ok success
      constructor <;> rfl
  | freeze actor =>
      obtain ⟨-, rfl⟩ := freeze_ok success
      constructor <;> rfl
  | beginAllocate actor transferId amount =>
      obtain ⟨_, _, _, -, -, -, -, -, -, -, -, -, -, rfl⟩ := beginAllocate_ok success
      constructor <;> rfl
  | completeAllocation transferId reported =>
      obtain ⟨-, rfl⟩ | ⟨_, _, -, -, -, -, -, rfl⟩ := completeAllocation_ok success
      · constructor <;> rfl
      · constructor <;> rfl
  | beginRecall actor transferId amount =>
      obtain ⟨-, -, -, -, -, -, rfl⟩ := beginRecall_ok success
      constructor <;> rfl
  | acceptRecallSent transferId principal actual loss =>
      obtain ⟨_, _, _, _, _, _, _, -, -, -, -, -, -, -, -, -, -, -, rfl⟩ :=
        acceptRecallSent_iff.mp success
      constructor <;> rfl
  | observeInbound amount =>
      obtain ⟨_, _, _, _, _, -, -, -, -, -, -, rfl⟩ := observeInbound_iff.mp success
      constructor <;> rfl
  | applyRemoteValuation reported loss =>
      obtain ⟨_, -, ⟨-, rfl⟩ | ⟨-, rfl⟩⟩ := applyRemoteValuation_ok success
      · constructor <;> rfl
      · constructor <;> rfl
  | lockRemoteValuation =>
      obtain ⟨-, rfl⟩ | ⟨_, -, -, -, -, rfl⟩ := lockRemoteValuation_ok success
      · constructor <;> rfl
      · constructor <;> rfl
  | requestClose actor transferId =>
      obtain ⟨-, -, -, -, rfl⟩ := requestClose_ok success
      constructor <;> rfl
  | settleClose transferId credited =>
      obtain ⟨_, _, _, _, _, -, -, -, -, -, -, -, -, -, rfl⟩ := settleClose_ok success
      constructor <;> rfl
  | beginRecover actor transferId =>
      obtain ⟨-, -, -, -, -, rfl⟩ := beginRecover_ok success
      constructor <;> rfl
  | settleRecover transferId credited =>
      obtain ⟨_, _, _, -, -, -, -, -, rfl⟩ := settleRecover_ok success
      constructor <;> rfl
  | _ => cases keeps

/-- What one operation can do to the current epoch and the outcomes. -/
inductive EpochChange (op : Operation) (s s' : State) : Prop
  | same (outcomes : s'.epochs = s.epochs) (next : s'.nextEpochId = s.nextEpochId)
      (current : s'.epoch.map Epoch.fixedPart = s.epoch.map Epoch.fixedPart)
  | opened (virtualShares : ShareAmount) (closed : s.epoch = none)
      (outcomes : s'.epochs = s.epochs) (next : s'.nextEpochId = s.nextEpochId)
      (offset : virtualSharesFor s.config.assetDecimals s.config.shareDecimals = .ok virtualShares)
      (current : s'.epoch.map Epoch.fixedPart = some (s.nextEpochId, oneAsset, virtualShares))
  | finalized (epoch : Epoch) (terms : EpochTerms) (owed : Entitlements)
      (found : s.epoch = some epoch) (unsettled : s.epochs[epoch.id]? = none)
      (settled : Settled s epoch terms owed)
      (outcomes : s'.epochs = s.epochs.insert epoch.id (.finalized terms))
      (next : s'.nextEpochId.raw = epoch.id.raw + 1) (current : s'.epoch = none)
      (settlement : op = .finalizeEpoch)
  | aborted (epoch : Epoch) (terms : AbortedTerms)
      (found : s.epoch = some epoch) (unsettled : s.epochs[epoch.id]? = none)
      (outcomes : s'.epochs = s.epochs.insert epoch.id (.aborted terms))
      (next : s'.nextEpochId.raw = epoch.id.raw + 1) (current : s'.epoch = none)

theorem epochChange {s s' : State} {op : Operation} (success : apply s op = .ok s') :
    s'.config = s.config ∧ EpochChange op s s' := by
  cases op with
  | requestDeposit account assets =>
      obtain ⟨_, _, _, _, _, -, found, -, -, -, -, -, -, -, -, rfl⟩ := requestDeposit_iff.mp success
      exact ⟨rfl, .same rfl rfl (by rw [found]; rfl)⟩
  | cancelDeposit account =>
      obtain ⟨_, _, _, _, _, _, -, found, -, -, -, -, -, -, -, -, -, rfl⟩ :=
        cancelDeposit_iff.mp success
      exact ⟨rfl, .same rfl rfl (by rw [found]; rfl)⟩
  | requestRedeem account shares =>
      obtain ⟨_, _, _, _, _, -, found, -, -, -, -, -, -, -, -, rfl⟩ := requestRedeem_iff.mp success
      exact ⟨rfl, .same rfl rfl (by rw [found]; rfl)⟩
  | cancelRedeem account =>
      obtain ⟨_, _, _, _, _, _, -, found, -, -, -, -, -, -, -, -, -, rfl⟩ :=
        cancelRedeem_iff.mp success
      exact ⟨rfl, .same rfl rfl (by rw [found]; rfl)⟩
  | finalizeEpoch =>
      obtain ⟨epoch, terms, owed, _, _, _, _, _, _, _, _, -, found, -, unsettled, settled, -, -, -, -,
        -, -, -, -, next, rfl⟩ := finalizeEpoch_ok success
      exact ⟨rfl, .finalized epoch terms owed found unsettled settled rfl next rfl rfl⟩
  | abortEpoch actor =>
      obtain ⟨epoch, _, -, found, unsettled, -, next, rfl⟩ := abortEpoch_ok success
      exact ⟨rfl, .aborted epoch _ found unsettled rfl next rfl⟩
  | claimDeposit account epoch =>
      obtain ⟨_, _, _, _, _, -, -, -, -, -, -, rfl⟩ := claimDeposit_iff.mp success
      exact ⟨rfl, .same rfl rfl rfl⟩
  | claimRedeem account epoch =>
      obtain ⟨_, _, _, _, _, -, -, -, -, -, -, rfl⟩ := claimRedeem_iff.mp success
      exact ⟨rfl, .same rfl rfl rfl⟩
  | claimAbortedDeposit account epoch =>
      obtain ⟨_, _, _, _, -, -, -, -, -, rfl⟩ := claimAbortedDeposit_iff.mp success
      exact ⟨rfl, .same rfl rfl rfl⟩
  | claimAbortedRedeem account epoch =>
      obtain ⟨_, _, _, _, -, -, -, -, -, rfl⟩ := claimAbortedRedeem_iff.mp success
      exact ⟨rfl, .same rfl rfl rfl⟩
  | openNextEpoch now =>
      obtain ⟨virtualShares, _, -, closed, -, offset, -, rfl⟩ := openNextEpoch_ok success
      exact ⟨rfl, .opened virtualShares closed rfl rfl offset rfl⟩
  | _ =>
      have kept := booksKept success rfl
      exact ⟨kept.config, .same kept.epochs kept.nextEpochId kept.current⟩

/-- Epochs settle in the order of their identifiers. -/
structure EpochOrder (s : State) : Prop where
  settledBelowNext : ∀ (id : EpochId), s.epochs[id]?.isSome → id.raw < s.nextEpochId.raw
  settledBelowCurrent : ∀ (epoch : Epoch) (id : EpochId), s.epoch = some epoch →
    s.epochs[id]?.isSome → id.raw < epoch.id.raw

theorem EpochOrder.new {genesis : Genesis} {s : State} (success : State.new genesis = .ok s) :
    EpochOrder s := by
  obtain ⟨_, _, _, _, _, -, -, -, -, rfl⟩ := State.new_ok success
  constructor
  · intro id settled
    simp [State.atGenesis] at settled
  · intro epoch id _ settled
    simp [State.atGenesis] at settled

private theorem settled_insert {s : State} {epoch : Epoch} (order : EpochOrder s)
    (found : s.epoch = some epoch) (outcome : EpochOutcome) (id : EpochId)
    (settled : (s.epochs.insert epoch.id outcome)[id]?.isSome) : id.raw < epoch.id.raw + 1 := by
  rw [OrderedMap.getElem?_insert] at settled
  split at settled
  · rename_i same
    rw [same]
    exact Nat.lt_succ_self _
  · exact Nat.lt_succ_of_lt (order.settledBelowCurrent epoch id found settled)

theorem EpochOrder.step {s s' : State} {op : Operation} (success : apply s op = .ok s')
    (order : EpochOrder s) : EpochOrder s' := by
  cases (epochChange success).2 with
  | same outcomes next current =>
      refine ⟨by rw [outcomes, next]; exact order.settledBelowNext, ?_⟩
      intro epoch id found settled
      rw [found] at current
      obtain ⟨before, was, fixed⟩ := Option.map_eq_some_iff.mp current.symm
      rw [← (Prod.mk.inj fixed).1]
      exact order.settledBelowCurrent before id was (outcomes ▸ settled)
  | opened virtualShares closed outcomes next offset current =>
      refine ⟨by rw [outcomes, next]; exact order.settledBelowNext, ?_⟩
      intro epoch id found settled
      rw [found] at current
      rw [(Prod.mk.inj (Option.some.inj current)).1]
      exact order.settledBelowNext id (outcomes ▸ settled)
  | finalized epoch terms owed found unsettled settled outcomes next current _ =>
      refine ⟨?_, fun _ _ impossible => by simp [current] at impossible⟩
      intro id settled
      rw [next]
      exact settled_insert order found _ id (outcomes ▸ settled)
  | aborted epoch terms found unsettled outcomes next current =>
      refine ⟨?_, fun _ _ impossible => by simp [current] at impossible⟩
      intro id settled
      rw [next]
      exact settled_insert order found _ id (outcomes ▸ settled)

theorem Reachable.epochOrder {s : State} (reachable : Reachable s) : EpochOrder s :=
  reachable.induct EpochOrder (fun _ _ => EpochOrder.new) (fun _ _ _ => EpochOrder.step)

/-- An outcome, once written, is never changed. -/
theorem outcome_stable {s s' : State} {op : Operation} (success : apply s op = .ok s')
    {id : EpochId} {outcome : EpochOutcome} (settled : s.epochs[id]? = some outcome) :
    s'.epochs[id]? = some outcome := by
  have kept {epoch : EpochId} (unsettled : s.epochs[epoch]? = none) (written : EpochOutcome) :
      (s.epochs.insert epoch written)[id]? = some outcome := by
    rw [OrderedMap.getElem?_insert, if_neg, settled]
    rintro rfl
    simp [unsettled] at settled
  cases (epochChange success).2 with
  | same outcomes => rwa [outcomes]
  | opened _ _ outcomes => rwa [outcomes]
  | finalized _ _ _ _ unsettled _ outcomes => rw [outcomes]; exact kept unsettled _
  | aborted _ _ _ unsettled outcomes => rw [outcomes]; exact kept unsettled _

/-- Finalized terms agree with their own price. -/
def TermsPriced (s : State) : Prop :=
  ∀ (id : EpochId) (terms : EpochTerms), s.epochs[id]? = some (.finalized terms) →
    terms.id = id ∧ terms.sharesFor terms.depositAssets = .ok terms.mintedShares ∧
      terms.assetsFor terms.redeemShares = .ok terms.redeemAssets

theorem TermsPriced.step {s s' : State} {op : Operation} (success : apply s op = .ok s')
    (priced : TermsPriced s) : TermsPriced s' := by
  intro id terms found
  cases (epochChange success).2 with
  | same outcomes => exact priced id terms (outcomes ▸ found)
  | opened _ _ outcomes => exact priced id terms (outcomes ▸ found)
  | finalized epoch written _ _ _ settled outcomes =>
      rw [outcomes, OrderedMap.getElem?_insert] at found
      split at found
      · rename_i same
        cases found
        exact ⟨settled.id.trans same, settled.mintedShares, settled.redeemAssets⟩
      · exact priced id terms found
  | aborted epoch written _ _ outcomes =>
      rw [outcomes, OrderedMap.getElem?_insert] at found
      split at found
      · cases found
      · exact priced id terms found

theorem Reachable.termsPriced {s : State} (reachable : Reachable s) : TermsPriced s := by
  refine reachable.induct TermsPriced (fun genesis start created => ?_)
    (fun _ _ _ => TermsPriced.step)
  obtain ⟨_, _, _, _, _, -, -, -, -, rfl⟩ := State.new_ok created
  intro id terms found
  simp [State.atGenesis] at found

end AccountingModel
