import CrossChainVault.Evm.Solvency

set_option autoImplicit false

/- Who stands behind the records of the vault contract: a caller that can be paid, and an epoch that
has an outcome or is in the slot. -/

namespace Evm

open Result Protocol

/-- The deposit side or the redemption side. -/
inductive Side
  | deposit
  | redeem
deriving DecidableEq, Repr

namespace Side

def requests (b : Books) : Side → Requests
  | deposit => b.deposits
  | redeem => b.redeems

end Side

/-- A call of somebody else than the vault, from an address that can be somebody's. -/
abbrev Msg.Outside (msg : Msg) (vault : Address) : Prop :=
  msg.sender.raw ≠ 0 ∧ msg.sender ≠ vault

/-- A record with an amount had one before, or its controller just asked. -/
def Asks (caller : Address) (b b' : Books) : Prop :=
  ∀ (side : Side) (epochId : Uint64) (holder : Address),
    ((side.requests b').requestOf epochId holder).amount.raw ≠ 0 →
      ((side.requests b).requestOf epochId holder).amount.raw ≠ 0 ∨ holder = caller

section Asks

variable {caller : Address} {b b' : Books}

/-- Nobody has to ask where every record keeps its amount. -/
theorem asks_of_amounts (same : ∀ (side : Side) (epochId : Uint64) (holder : Address),
      ((side.requests b').requestOf epochId holder).amount =
        ((side.requests b).requestOf epochId holder).amount) : Asks caller b b' := by
  intro side epochId holder asked
  rw [same] at asked
  exact .inl asked

theorem asks_of_requests
    (same : ∀ side : Side, (side.requests b').requestOf = (side.requests b).requestOf) :
    Asks caller b b' := by
  apply asks_of_amounts
  intro side epochId holder
  rw [same]

theorem asks_of_books (same : b' = b) : Asks caller b b' := by
  rw [same]
  exact asks_of_requests fun _ => rfl

theorem asks_file {r : Requests} {epochId other : Uint64} {holder : Address} {request : Request}
    {list : Registry Address}
    (asked : ((r.file epochId caller request list).requestOf other holder).amount.raw ≠ 0) :
    (r.requestOf other holder).amount.raw ≠ 0 ∨ holder = caller := by
  rw [Requests.file_requestOf] at asked
  split at asked
  · rename_i here
    exact .inr here.2
  · exact .inl asked

theorem asks_deposits {epochId : Uint64} {request : Request} {list : Registry Address} :
    Asks caller b { b with deposits := b.deposits.file epochId caller request list } := by
  intro side other holder asked
  cases side with
  | deposit => exact asks_file asked
  | redeem => exact .inl asked

theorem asks_redeems {epochId : Uint64} {request : Request} {list : Registry Address} :
    Asks caller b { b with redeems := b.redeems.file epochId caller request list } := by
  intro side other holder asked
  cases side with
  | deposit => exact .inl asked
  | redeem => exact asks_file asked

theorem asks_settle_deposits {epochId : Uint64} {controller : Address} :
    Asks caller b { b with deposits := b.deposits.settle epochId controller } := by
  apply asks_of_amounts
  intro side other holder
  cases side with
  | deposit => exact Requests.settle_amount
  | redeem => rfl

theorem asks_settle_redeems {epochId : Uint64} {controller : Address} :
    Asks caller b { b with redeems := b.redeems.settle epochId controller } := by
  apply asks_of_amounts
  intro side other holder
  cases side with
  | deposit => rfl
  | redeem => exact Requests.settle_amount

end Asks

theorem Vault.Alike.books {v v' : Vault} (alike : v.Alike v') : v'.books = v.books :=
  congrArg Purse.books (alike.purse 0)

/-- Only its sender gets a record out of a transaction. -/
theorem World.step_asks {hashing : Hashing} {w w' : World} {msg : Msg} {call : Call}
    (books : BooksInv w.vault.books) (success : w.step hashing msg call = .ok w') :
    Asks msg.sender w.vault.books w'.vault.books := by
  have recorded : ∀ {v : Vault} {asset : Asset}, w.vault.recordSurplus asset = .ok v →
      Asks msg.sender w.vault.books v.books := by
    intro v asset surplus
    exact asks_of_books (congrArg Roster.books (Vault.recordSurplus_roster surplus))
  cases call with
  | asset =>
      obtain ⟨_, -, rfl⟩ := withAsset_ok.mp success
      exact asks_of_books rfl
  | shareTransfer | shareTransferFrom | shareApprove =>
      obtain ⟨_, -, rfl⟩ := withShares_ok.mp success
      exact asks_of_books rfl
  | requestDeposit assets =>
      obtain ⟨_, _, moved, rfl⟩ := withMoved_ok.mp success
      obtain ⟨_, _, _, _, -, -, -, -, -, -, -, -, -, -, rfl⟩ := Vault.requestDeposit_ok moved
      exact asks_deposits
  | cancelDepositRequest =>
      obtain ⟨_, _, moved, rfl⟩ := withMoved_ok.mp success
      obtain ⟨_, _, _, _, -, -, -, -, -, -, -, -, -, -, rfl⟩ := Vault.cancelDepositRequest_ok moved
      exact asks_deposits
  | requestRedeem shares =>
      obtain ⟨_, changed, rfl⟩ := withVault_ok.mp success
      obtain ⟨_, _, _, _, -, -, -, -, -, -, -, -, -, rfl⟩ := Vault.requestRedeem_ok changed
      exact asks_redeems
  | cancelRedeemRequest =>
      obtain ⟨_, changed, rfl⟩ := withVault_ok.mp success
      obtain ⟨_, _, _, _, -, -, -, -, -, -, -, -, -, rfl⟩ := Vault.cancelRedeemRequest_ok changed
      exact asks_redeems
  | cutoffEpoch =>
      obtain ⟨_, changed, rfl⟩ := withVault_ok.mp success
      obtain ⟨-, -, -, -, rfl⟩ := Vault.cutoffEpoch_ok changed
      exact asks_of_books rfl
  | finalizeEpoch =>
      obtain ⟨_, changed, rfl⟩ := withVault_ok.mp success
      obtain ⟨before, terms, deposits, redeems, _, _, _, _, _, -, -, -, -, hRecorded, settlement, -,
        -, -, -, -, rfl⟩ := Vault.finalizeEpoch_ok changed
      have same : before.books = w.vault.books :=
        congrArg Roster.books (Vault.recordSurplus_roster hRecorded)
      rw [← same] at books ⊢
      refine asks_of_requests fun side => ?_
      cases side with
      | deposit => exact (Requests.priceClaims_ok books.deposits settlement.deposits).1
      | redeem => exact (Requests.priceClaims_ok books.redeems settlement.redeems).1
  | openNextEpoch =>
      obtain ⟨_, changed, rfl⟩ := withVault_ok.mp success
      obtain ⟨-, -, opened⟩ := Vault.openNextEpoch_ok changed
      obtain ⟨_, _, -, -, rfl⟩ := Vault.openEpoch_ok opened
      exact asks_of_requests fun side => by cases side <;> rfl
  | abortEpoch =>
      obtain ⟨_, changed, rfl⟩ := withVault_ok.mp success
      obtain ⟨_, -, -, -, -, rfl⟩ := Vault.abortEpoch_ok changed
      exact asks_of_requests fun side => by cases side <;> rfl
  | claimDeposit epochId =>
      obtain ⟨_, changed, rfl⟩ := withVault_ok.mp success
      obtain ⟨_, -, -, -, -, -, -, rfl⟩ := Vault.claimDeposit_ok changed
      exact asks_settle_deposits
  | claimRedeem epochId =>
      obtain ⟨_, _, moved, rfl⟩ := withMoved_ok.mp success
      obtain ⟨_, -, -, -, -, -, -, -, rfl⟩ := Vault.claimRedeem_ok moved
      exact asks_settle_redeems
  | refundDeposit epochId =>
      obtain ⟨_, _, moved, rfl⟩ := withMoved_ok.mp success
      obtain ⟨_, -, -, -, -, -, -, -, rfl⟩ := Vault.refundDeposit_ok moved
      exact asks_settle_deposits
  | refundRedeem epochId =>
      obtain ⟨_, changed, rfl⟩ := withVault_ok.mp success
      obtain ⟨_, -, -, -, -, -, -, rfl⟩ := Vault.refundRedeem_ok changed
      exact asks_settle_redeems
  | pause =>
      obtain ⟨_, changed, rfl⟩ := withVault_ok.mp success
      obtain ⟨-, rfl⟩ := Vault.pause_ok changed
      exact asks_of_books rfl
  | unpause =>
      obtain ⟨_, changed, rfl⟩ := withVault_ok.mp success
      obtain ⟨-, rfl⟩ := Vault.unpause_ok changed
      exact asks_of_books rfl
  | freeze =>
      obtain ⟨_, changed, rfl⟩ := withVault_ok.mp success
      obtain ⟨-, rfl⟩ := Vault.freeze_ok changed
      exact asks_of_books rfl
  | observeInbound =>
      obtain ⟨_, changed, rfl⟩ := withVault_ok.mp success
      exact recorded changed
  | bindRemoteAccounting coordinator =>
      obtain ⟨_, changed, rfl⟩ := withVault_ok.mp success
      obtain ⟨-, rfl⟩ := Vault.bindRemoteAccounting_ok changed
      exact asks_of_books rfl
  | beginOutbound amount sink =>
      obtain ⟨_, _, moved, rfl⟩ := withMoved_ok.mp success
      obtain ⟨_, _, _, -, surplus, -, -, -, -, -, rfl⟩ := Vault.beginOutbound_ok moved
      have kept := recorded surplus
      exact kept
  | completeAllocation amount reported =>
      obtain ⟨_, changed, rfl⟩ := withVault_ok.mp success
      exact asks_of_books (Vault.completeAllocation_alike changed).books
  | closeAllocation claim credited =>
      obtain ⟨_, changed, rfl⟩ := withVault_ok.mp success
      exact asks_of_books (Vault.closeAllocation_alike changed).books
  | recoverImpairment amount =>
      obtain ⟨_, changed, rfl⟩ := withVault_ok.mp success
      exact asks_of_books (Vault.recoverImpairment_alike changed).books
  | applyRemoteValuation reported =>
      obtain ⟨_, changed, rfl⟩ := withVault_ok.mp success
      exact asks_of_books (Vault.applyRemoteValuation_alike changed).books
  | beginRecall transferId amount =>
      obtain ⟨_, changed, rfl⟩ := withVault_ok.mp success
      exact asks_of_books (Vault.beginRecall_alike changed).books
  | applyRecallSent principal actual loss =>
      obtain ⟨_, changed, rfl⟩ := withVault_ok.mp success
      exact asks_of_books (Vault.applyRecallSent_alike changed).books
  | lockRemoteValuation epochId =>
      obtain ⟨_, changed, rfl⟩ := withVault_ok.mp success
      exact asks_of_books (Vault.lockRemoteValuation_alike changed).books
  | allocate transferId amount minimum deadline stamps =>
      obtain ⟨_, moved, -, -, -, -, -, -, -, -, -, -, -, -, -, -, hMoved, -, hVault, -⟩ :=
        allocate_ok success
      obtain ⟨_, _, _, -, surplus, -, -, -, -, -, hBucket⟩ := Vault.beginOutbound_ok hMoved
      have kept := recorded surplus
      rw [hVault, hBucket]
      exact kept
  | «recall» transferId amount minimum deadline stamps =>
      obtain ⟨_, _, -, -, -, -, -, -, -, -, -, -, -, -, -, -, hVault, -, -⟩ := recall_ok success
      exact asks_of_books (Vault.beginRecall_alike hVault).books
  | admitTransfer transferId stamps =>
      obtain ⟨_, -, -, -, -, -, -, hVault, -⟩ := admit_ok success
      exact asks_of_books (by rw [hVault])
  | close transferId stamps =>
      obtain ⟨_, -, -, -, -, -, -, -, hVault, -⟩ := close_ok success
      exact asks_of_books (by rw [hVault])
  | recover recoveryId stamps =>
      obtain ⟨_, -, -, -, -, -, -, -, hVault, -⟩ := recover_ok success
      exact asks_of_books (by rw [hVault])
  | processRemoteReport authentic header body =>
      obtain ⟨_, _, -, -, -, -, -, -, -, applied⟩ := processRemoteReport_iff.mp success
      exact asks_of_books (congrArg Roster.books (applyReport_roster applied))
  | processRecallSent authentic header body =>
      obtain ⟨_, _, restored, -, -, -, -, -, -, -, -, -, -, -, -, hRestored, hVault, -, -⟩ :=
        processRecallSent_iff.mp success
      exact asks_of_books
        ((restoreBaseline_alike hRestored).trans (Vault.applyRecallSent_alike hVault)).books
  | processTransportSettlement authentic header body =>
      obtain ⟨_, -, -, -, -, -, -, -, -, settled⟩ := processTransportSettlement_iff.mp success
      split at settled
      · obtain ⟨-, -, -, -, -, hVault, -⟩ := settled
        exact asks_of_books (Vault.closeAllocation_alike hVault).books
      · obtain ⟨-, -, hVault, -⟩ := settled
        exact asks_of_books (Vault.recoverImpairment_alike hVault).books

/-- Behind every record stands a real caller, and its epoch has an outcome or is in the slot. -/
structure Manned (vault : Address) (b : Books) : Prop where
  named : ∀ (side : Side) (epochId : Uint64) (holder : Address),
    ((side.requests b).requestOf epochId holder).amount.raw ≠ 0 → holder.raw ≠ 0 ∧ holder ≠ vault
  placed : ∀ (side : Side) (epochId : Uint64) (holder : Address),
    ((side.requests b).requestOf epochId holder).amount.raw ≠ 0 →
      (b.settled epochId).outcome ≠ .none ∨ b.epochOpen = true ∧ epochId = b.current

namespace Manned

variable {vault caller : Address} {b b' : Books}

/-- An epoch that leaves the slot has an outcome from then on. -/
theorem placed_closed {asked : Prop} {terms : SettledEpoch} {epochId : Uint64}
    (outcome : terms.outcome ≠ .none)
    (placed : (b.settled epochId).outcome ≠ .none ∨ b.epochOpen = true ∧ epochId = b.current) :
    (Function.update b.settled b.current terms epochId).outcome ≠ .none ∨ asked := by
  left
  by_cases here : epochId = b.current
  · rw [here, Function.update_self]
    exact outcome
  · rw [Function.update_of_ne here]
    exact placed.resolve_right fun slot => here slot.2

theorem step (manned : Manned vault b) (books : BooksInv b) (step : BooksStep b b')
    (asks : Asks caller b b') (outside : caller.raw ≠ 0 ∧ caller ≠ vault) : Manned vault b' where
  named side epochId holder asked := by
    rcases asks side epochId holder asked with before | here
    · exact manned.named side epochId holder before
    · rw [here]
      exact outside
  placed side epochId holder asked := by
    cases step with
    | same => exact manned.placed side epochId holder asked
    | deposits isOpen filed =>
        by_cases here : epochId = b.current
        · exact .inr ⟨isOpen, here⟩
        · refine manned.placed side epochId holder ?_
          cases side with
          | deposit =>
              dsimp only [Side.requests] at asked
              rwa [filed.requestOf_other here] at asked
          | redeem => exact asked
    | redeems isOpen filed =>
        by_cases here : epochId = b.current
        · exact .inr ⟨isOpen, here⟩
        · refine manned.placed side epochId holder ?_
          cases side with
          | deposit => exact asked
          | redeem =>
              dsimp only [Side.requests] at asked
              rwa [filed.requestOf_other here] at asked
    | paidDeposit paid controller =>
        refine manned.placed side epochId holder ?_
        cases side with
        | deposit =>
            dsimp only [Side.requests] at asked
            rwa [Requests.settle_amount] at asked
        | redeem => exact asked
    | paidRedeem paid controller =>
        refine manned.placed side epochId holder ?_
        cases side with
        | deposit => exact asked
        | redeem =>
            dsimp only [Side.requests] at asked
            rwa [Requests.settle_amount] at asked
    | opened next idle successor =>
        left
        refine (manned.placed side epochId holder ?_).resolve_right fun slot => ?_
        · cases side <;> exact asked
        · rw [idle] at slot
          cases slot.1
    | finalized terms deposits redeems next isOpen successor outcome depositClaims redeemClaims =>
        refine placed_closed (by rw [outcome]; decide) (manned.placed side epochId holder ?_)
        cases side with
        | deposit =>
            dsimp only [Side.requests] at asked
            rwa [(Requests.priceClaims_ok books.deposits depositClaims).1] at asked
        | redeem =>
            dsimp only [Side.requests] at asked
            rwa [(Requests.priceClaims_ok books.redeems redeemClaims).1] at asked
    | aborted terms next isOpen successor outcome =>
        refine placed_closed (by rw [outcome]; decide) (manned.placed side epochId holder ?_)
        cases side <;> exact asked

end Manned

/-- A funded vault whose records all have a caller behind them. -/
structure Attended (vaultAddress : Address) (w : World) : Prop where
  funded : Funded vaultAddress w
  manned : Manned vaultAddress w.vault.books

namespace Attended

variable {hashing : Hashing} {vaultAddress : Address} {w w' : World}

theorem step {msg : Msg} {call : Call} (attended : Attended vaultAddress w)
    (outside : msg.Outside vaultAddress) (success : w.step hashing msg call = .ok w') :
    Attended vaultAddress w' :=
  ⟨attended.funded.step outside.2 success,
    attended.manned.step attended.funded.purse.books (World.step_books success)
      (World.step_asks attended.funded.purse.books success) outside⟩

theorem run {calls : List (Msg × Call)} (attended : Attended vaultAddress w)
    (outside : ∀ tx ∈ calls, tx.1.Outside vaultAddress)
    (finished : Run.run (fun w tx => w.step hashing tx.1 tx.2) w calls = .ok w') :
    Attended vaultAddress w' := by
  refine Run.run_preserves_of (Attended vaultAddress) calls ?_ w finished attended
  intro tx member w w' success before
  exact before.step (outside tx member) success

end Attended

theorem Deployment.attended {d : Deployment} {w : World} (deployed : d.deploy = .ok w)
    (asset : d.asset.Kept d.vaultAddress) : Attended d.vaultAddress w := by
  refine ⟨Deployment.funded deployed asset, ?_⟩
  obtain ⟨-, opened, -⟩ := deploy_ok deployed
  obtain ⟨_, _, -, -, hVault⟩ := Vault.openEpoch_ok opened
  have empty : ∀ (side : Side) (epochId : Uint64) (holder : Address),
      ((side.requests w.vault.books).requestOf epochId holder).amount.raw = 0 := by
    intro side epochId holder
    rw [hVault]
    cases side <;> rfl
  constructor
  · intro side epochId holder asked
    exact absurd (empty side epochId holder) asked
  · intro side epochId holder asked
    exact absurd (empty side epochId holder) asked

end Evm
