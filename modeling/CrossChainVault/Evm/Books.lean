import CrossChainVault.Evm.Lanes

set_option autoImplicit false

/- The request books of the vault: who is listed, and what a finalized epoch owes each. -/

namespace Evm

open Result Protocol

namespace Requests

variable {r r' : Requests} {epochId other : Uint64} {controller holder : Address}
  {list : Registry Address} {request : Request}

@[simp] theorem file_requestOf : (r.file epochId controller request list).requestOf other holder =
    if other = epochId ∧ holder = controller then request else r.requestOf other holder :=
  setAt_apply _ _ _ _ _ _

theorem file_controllers : (r.file epochId controller request list).controllers other =
    if other = epochId then list else r.controllers other := by
  show Function.update r.controllers epochId list other = _
  rw [Function.update_apply]

@[simp] theorem settle_requestOf : (r.settle epochId controller).requestOf other holder =
    if other = epochId ∧ holder = controller then
      { r.requestOf epochId controller with settled := true }
    else r.requestOf other holder :=
  setAt_apply _ _ _ _ _ _

@[simp] theorem settle_claimOf : (r.settle epochId controller).claimOf = r.claimOf := rfl

@[simp] theorem settle_controllers : (r.settle epochId controller).controllers = r.controllers := rfl

theorem settle_amount : ((r.settle epochId controller).requestOf other holder).amount =
    (r.requestOf other holder).amount := by
  rw [settle_requestOf]
  split
  · rename_i same
    rw [same.1, same.2]
  · rfl

/-- Exactly the controllers whose request carries an amount are listed. -/
structure Sound (r : Requests) : Prop where
  wellFormed : ∀ epochId, (r.controllers epochId).WellFormed
  listed : ∀ epochId controller, controller ∈ (r.controllers epochId).entries ↔
    (r.requestOf epochId controller).amount.raw ≠ 0
  live : ∀ epochId controller, (r.requestOf epochId controller).amount.raw ≠ 0 →
    (r.requestOf epochId controller).cancelled = false

theorem sound_empty : Sound empty where
  wellFormed _ := Registry.wellFormed_empty
  listed _ _ := by simp [empty, Registry.empty, Request.empty]
  live _ _ nonzero := absurd rfl nonzero

theorem enlist_ok (sound : r.Sound) (success : r.enlist epochId controller = .ok list) :
    list.WellFormed ∧ ∀ holder, holder ∈ list.entries ↔
      holder ∈ (r.controllers epochId).entries ∨ holder = controller := by
  dsimp only [enlist] at success
  split at success
  · rename_i absent
    simp only [bind_eq_ok, rejectIf_eq_ok, exists_const, pure_eq_ok] at success
    obtain ⟨-, rfl⟩ := success
    exact ⟨(sound.wellFormed epochId).push absent, fun _ => Registry.mem_push⟩
  · rename_i present
    rw [pure_eq_ok] at success
    subst success
    refine ⟨sound.wellFormed epochId, fun holder => ?_⟩
    have isListed : controller ∈ (r.controllers epochId).entries := by
      by_contra absent
      exact present ((sound.wellFormed epochId).slot_eq_zero.mpr absent)
    constructor
    · exact .inl
    · rintro (member | rfl)
      · exact member
      · exact isListed

theorem removeController_ok (sound : r.Sound)
    (success : r.removeController epochId controller = .ok list) :
    list.WellFormed ∧ ∀ holder, holder ∈ list.entries ↔
      holder ∈ (r.controllers epochId).entries ∧ holder ≠ controller := by
  simp only [removeController, bind_eq_ok, rejectIf_eq_ok, okOr_eq_ok, exists_const] at success
  obtain ⟨-, removed⟩ := success
  exact ⟨(sound.wellFormed epochId).remove removed,
    fun _ => Registry.mem_remove (sound.wellFormed epochId) removed⟩

/-- What a request or a cancellation does to one side. -/
inductive Filed (r : Requests) (epochId : Uint64) : Requests → Prop
  | joined (controller : Address) (list : Registry Address) (requested : Uint256)
      (nonzero : requested.raw ≠ 0) (enlisted : r.enlist epochId controller = .ok list) :
      Filed r epochId (r.file epochId controller
        { r.requestOf epochId controller with amount := requested, cancelled := false } list)
  | withdrawn (controller : Address) (list : Registry Address) (cancelledTotal : Uint256)
      (removed : r.removeController epochId controller = .ok list) :
      Filed r epochId (r.file epochId controller
        { r.requestOf epochId controller with
          amount := .zero, cancelledAmount := cancelledTotal, cancelled := true } list)

/-- A filed record agrees with its new list, so the side stays sound. -/
theorem Sound.file (sound : r.Sound) (wellFormed : list.WellFormed)
    (others : ∀ holder, holder ≠ controller →
      (holder ∈ list.entries ↔ holder ∈ (r.controllers epochId).entries))
    (own : controller ∈ list.entries ↔ request.amount.raw ≠ 0)
    (live : request.amount.raw ≠ 0 → request.cancelled = false) :
    (r.file epochId controller request list).Sound where
  wellFormed other := by
    rw [file_controllers]
    split
    · exact wellFormed
    · exact sound.wellFormed other
  listed other holder := by
    rw [file_controllers, file_requestOf]
    by_cases here : other = epochId
    · subst here
      by_cases same : holder = controller
      · subst same
        simpa using own
      · simpa [same] using (others holder same).trans (sound.listed other holder)
    · simpa [here] using sound.listed other holder
  live other holder := by
    rw [file_requestOf]
    split
    · exact live
    · exact sound.live other holder

theorem Sound.filed (sound : r.Sound) (filed : Filed r epochId r') : r'.Sound := by
  cases filed with
  | joined controller list requested nonzero enlisted =>
      obtain ⟨wellFormed, members⟩ := enlist_ok sound enlisted
      apply sound.file wellFormed
      · intro holder distinct
        simp [members, distinct]
      · simp [members, nonzero]
      · intro _
        rfl
  | withdrawn controller list cancelledTotal removed =>
      obtain ⟨wellFormed, members⟩ := removeController_ok sound removed
      apply sound.file wellFormed
      · intro holder distinct
        simp [members, distinct]
      · simp [members]
      · intro nonzero
        exact absurd rfl nonzero

theorem Sound.settle (sound : r.Sound) : (r.settle epochId controller).Sound where
  wellFormed := sound.wellFormed
  listed other holder := by
    rw [settle_controllers, settle_amount]
    exact sound.listed other holder
  live other holder nonzero := by
    rw [settle_amount] at nonzero
    rw [settle_requestOf]
    split
    · rename_i same
      rw [same.1, same.2] at nonzero
      exact sound.live epochId controller nonzero
    · exact sound.live other holder nonzero

theorem Filed.requestOf_other (filed : Filed r epochId r') (elsewhere : other ≠ epochId) :
    r'.requestOf other holder = r.requestOf other holder := by
  cases filed <;> simp [elsewhere]

theorem Filed.claimOf (filed : Filed r epochId r') : r'.claimOf = r.claimOf := by
  cases filed <;> rfl

private theorem priceEntries_ok (r : Requests) (epochId : Uint64)
    (price : Uint256 → Except Revert Uint256) (entries : List Address) :
    ∀ (start final : (Uint64 → Address → Uint256) × Uint256), entries.Nodup →
    entries.foldlM (fun (priced : _ × Uint256) controller => do
      let claim ← price (r.requestOf epochId controller).amount
      let owed ← add priced.2 claim
      pure (setAt priced.1 epochId controller claim, owed)) start = .ok final →
    (∀ controller ∈ entries,
      price (r.requestOf epochId controller).amount = .ok (final.1 epochId controller)) ∧
    (∀ other holder, (other = epochId → holder ∉ entries) →
      final.1 other holder = start.1 other holder) ∧
    final.2.raw = start.2.raw + (entries.map fun c => (final.1 epochId c).raw).sum := by
  induction entries with
  | nil =>
      intro start final _ success
      simp only [List.foldlM_nil, pure_eq_ok] at success
      subst success
      simp
  | cons head tail ih =>
      intro start final distinct success
      rw [List.nodup_cons] at distinct
      simp only [List.foldlM_cons, bind_eq_ok, add_ok, pure_eq_ok] at success
      obtain ⟨_, ⟨claim, priced, owed, hOwed, rfl⟩, rest⟩ := success
      obtain ⟨pricedTail, untouched, total⟩ := ih _ _ distinct.2 rest
      dsimp only at untouched total
      have headClaim : final.1 epochId head = claim := by
        rw [untouched epochId head (fun _ => distinct.1), setAt_apply]
        simp
      refine ⟨?_, ?_, ?_⟩
      · intro controller member
        rcases List.mem_cons.mp member with rfl | member
        · rw [headClaim]
          exact priced
        · exact pricedTail controller member
      · intro other holder outside
        rw [untouched other holder (fun same inTail => outside same (by simp [inTail])), setAt_apply]
        split
        · rename_i here
          exact absurd (by simp [here.2]) (outside here.1)
        · rfl
      · simp only [List.map_cons, List.sum_cons, headClaim]
        omega

/-- Pricing an epoch writes the price of every listed request, totals them, and touches no
other claim. -/
theorem priceClaims_ok {price : Uint256 → Except Revert Uint256} {owed : Uint256}
    (sound : r.Sound) (success : r.priceClaims epochId price = .ok (r', owed)) :
    r'.requestOf = r.requestOf ∧ r'.controllers = r.controllers ∧
    (∀ controller ∈ (r.controllers epochId).entries,
      price (r.requestOf epochId controller).amount = .ok (r'.claimOf epochId controller)) ∧
    (∀ other holder, other ≠ epochId → r'.claimOf other holder = r.claimOf other holder) ∧
    owed.raw =
      ((r.controllers epochId).entries.map fun c => (r'.claimOf epochId c).raw).sum := by
  simp only [priceClaims, bind_eq_ok, pure_eq_ok, Prod.mk.injEq] at success
  obtain ⟨priced, folded, rfl, rfl⟩ := success
  obtain ⟨claims, untouched, total⟩ :=
    priceEntries_ok r epochId price _ _ _ (sound.wellFormed epochId).nodup folded
  refine ⟨rfl, rfl, claims, ?_, ?_⟩
  · intro other holder elsewhere
    exact untouched other holder (fun same => absurd same elsewhere)
  · simpa using total

/-- Who is not listed gets no claim. -/
theorem priceClaims_unlisted {price : Uint256 → Except Revert Uint256} {owed : Uint256}
    (sound : r.Sound) (success : r.priceClaims epochId price = .ok (r', owed))
    (absent : holder ∉ (r.controllers epochId).entries) :
    r'.claimOf epochId holder = r.claimOf epochId holder := by
  simp only [priceClaims, bind_eq_ok, pure_eq_ok, Prod.mk.injEq] at success
  obtain ⟨priced, folded, rfl, -⟩ := success
  exact (priceEntries_ok r epochId price _ _ _ (sound.wellFormed epochId).nodup folded).2.1
    epochId holder fun _ => absent

/-- The claims a finalized epoch wrote are the prices of its requests. -/
def Priced (r : Requests) (settled : Uint64 → SettledEpoch)
    (price : SettledEpoch → Uint256 → Except Revert Uint256) : Prop :=
  ∀ epochId controller, (settled epochId).outcome = .finalized →
    (r.requestOf epochId controller).amount.raw ≠ 0 →
    price (settled epochId) (r.requestOf epochId controller).amount =
      .ok (r.claimOf epochId controller)

section Priced

variable {settled : Uint64 → SettledEpoch} {price : SettledEpoch → Uint256 → Except Revert Uint256}
  {terms : SettledEpoch}

theorem Priced.filed (priced : r.Priced settled price) (filed : Filed r epochId r')
    (unsettled : (settled epochId).outcome = .none) : r'.Priced settled price := by
  intro other controller finalized nonzero
  have elsewhere : other ≠ epochId := by
    rintro rfl
    exact nomatch finalized.symm.trans unsettled
  rw [filed.requestOf_other elsewhere] at nonzero ⊢
  rw [filed.claimOf]
  exact priced other controller finalized nonzero

theorem Priced.settle (priced : r.Priced settled price) :
    (r.settle epochId controller).Priced settled price := by
  intro other holder finalized nonzero
  rw [settle_amount] at nonzero ⊢
  exact priced other holder finalized nonzero

theorem Priced.finalize (priced : r.Priced settled price) (sound : r.Sound) {owed : Uint256}
    (success : r.priceClaims epochId (price terms) = .ok (r', owed)) :
    r'.Sound ∧ r'.Priced (Function.update settled epochId terms) price := by
  obtain ⟨sameRequests, sameLists, claims, kept, -⟩ := priceClaims_ok sound success
  refine ⟨⟨?_, ?_, ?_⟩, ?_⟩
  · simpa only [sameLists] using sound.wellFormed
  · simpa only [sameRequests, sameLists] using sound.listed
  · simpa only [sameRequests] using sound.live
  intro other holder finalized nonzero
  rw [sameRequests] at nonzero ⊢
  by_cases here : other = epochId
  · subst here
    rw [Function.update_self]
    exact claims holder ((sound.listed _ _).mpr nonzero)
  · rw [Function.update_of_ne here] at finalized ⊢
    rw [kept other holder here]
    exact priced other holder finalized nonzero

theorem Priced.abort (priced : r.Priced settled price) (outcome : terms.outcome = .aborted) :
    r.Priced (Function.update settled epochId terms) price := by
  intro other holder finalized nonzero
  have elsewhere : other ≠ epochId := by
    rintro rfl
    rw [Function.update_self, outcome] at finalized
    cases finalized
  rw [Function.update_of_ne elsewhere] at finalized ⊢
  exact priced other holder finalized nonzero

end Priced

end Requests

/-- The part of the vault that requests and settlements read and write. -/
structure Books where
  deposits : Requests
  redeems : Requests
  settled : Uint64 → SettledEpoch
  epochOpen : Bool
  current : Uint64
  next : Uint64

def Vault.books (v : Vault) : Books where
  deposits := v.deposits
  redeems := v.redeems
  settled := v.settled
  epochOpen := v.epochOpen
  current := v.currentEpochId
  next := v.nextEpochId

/-- Everything one transaction can do to the books. -/
inductive BooksStep (b : Books) : Books → Prop
  | same : BooksStep b b
  | deposits {deposits : Requests} (isOpen : b.epochOpen = true)
      (filed : b.deposits.Filed b.current deposits) : BooksStep b { b with deposits := deposits }
  | redeems {redeems : Requests} (isOpen : b.epochOpen = true)
      (filed : b.redeems.Filed b.current redeems) : BooksStep b { b with redeems := redeems }
  | paidDeposit (epochId : Uint64) (controller : Address) :
      BooksStep b { b with deposits := b.deposits.settle epochId controller }
  | paidRedeem (epochId : Uint64) (controller : Address) :
      BooksStep b { b with redeems := b.redeems.settle epochId controller }
  | opened (next : Uint64) (idle : b.epochOpen = false) (successor : next.raw = b.next.raw + 1) :
      BooksStep b { b with epochOpen := true, current := b.next, next := next }
  | finalized (terms : SettledEpoch) (deposits redeems : Requests × Uint256) (next : Uint64)
      (isOpen : b.epochOpen = true) (successor : next.raw = b.current.raw + 1)
      (outcome : terms.outcome = .finalized)
      (depositClaims : b.deposits.priceClaims b.current terms.sharesFor = .ok deposits)
      (redeemClaims : b.redeems.priceClaims b.current terms.assetsFor = .ok redeems) :
      BooksStep b { b with
        deposits := deposits.1
        redeems := redeems.1
        settled := Function.update b.settled b.current terms
        epochOpen := false
        next := next }
  | aborted (terms : SettledEpoch) (next : Uint64) (isOpen : b.epochOpen = true)
      (successor : next.raw = b.current.raw + 1) (outcome : terms.outcome = .aborted) :
      BooksStep b { b with
        settled := Function.update b.settled b.current terms
        epochOpen := false
        next := next }

/-- Exactly the live requests are listed, no epoch settles twice, and every claim is a price. -/
structure BooksInv (b : Books) : Prop where
  deposits : b.deposits.Sound
  redeems : b.redeems.Sound
  ahead : ∀ id, b.next.raw ≤ id.raw → (b.settled id).outcome = .none
  current : b.epochOpen = true →
    (b.settled b.current).outcome = .none ∧ b.next.raw = b.current.raw + 1
  depositClaims : b.deposits.Priced b.settled SettledEpoch.sharesFor
  redeemClaims : b.redeems.Priced b.settled SettledEpoch.assetsFor

/-- Writing the outcome of the current epoch leaves every later epoch unsettled. -/
theorem BooksInv.ahead_update {b : Books} (inv : BooksInv b) (isOpen : b.epochOpen = true)
    (terms : SettledEpoch) {next : Uint64} (successor : next.raw = b.current.raw + 1) (id : Uint64)
    (later : next.raw ≤ id.raw) :
    (Function.update b.settled b.current terms id).outcome = .none := by
  have distinct : id ≠ b.current := by
    rintro rfl
    omega
  rw [Function.update_of_ne distinct]
  have := (inv.current isOpen).2
  exact inv.ahead id (by omega)

theorem BooksInv.step {b b' : Books} (step : BooksStep b b') (inv : BooksInv b) : BooksInv b' := by
  cases step with
  | same => exact inv
  | deposits isOpen filed =>
      exact { inv with
        deposits := inv.deposits.filed filed
        depositClaims := inv.depositClaims.filed filed (inv.current isOpen).1 }
  | redeems isOpen filed =>
      exact { inv with
        redeems := inv.redeems.filed filed
        redeemClaims := inv.redeemClaims.filed filed (inv.current isOpen).1 }
  | paidDeposit epochId controller =>
      exact { inv with deposits := inv.deposits.settle, depositClaims := inv.depositClaims.settle }
  | paidRedeem epochId controller =>
      exact { inv with redeems := inv.redeems.settle, redeemClaims := inv.redeemClaims.settle }
  | opened next idle successor =>
      refine { inv with ahead := ?_, current := ?_ }
      · intro id later
        exact inv.ahead id (by dsimp only at later; omega)
      · intro _
        exact ⟨inv.ahead b.next (Nat.le_refl _), successor⟩
  | finalized terms deposits redeems next isOpen successor outcome depositClaims redeemClaims =>
      have priced := inv.depositClaims.finalize inv.deposits depositClaims
      have paid := inv.redeemClaims.finalize inv.redeems redeemClaims
      refine ⟨priced.1, paid.1, inv.ahead_update isOpen terms successor, ?_, priced.2, paid.2⟩
      intro impossible
      cases impossible
  | aborted terms next isOpen successor outcome =>
      refine ⟨inv.deposits, inv.redeems, inv.ahead_update isOpen terms successor, ?_,
        inv.depositClaims.abort outcome, inv.redeemClaims.abort outcome⟩
      intro impossible
      cases impossible

/-- The books beside the running totals of the epoch in the slot. -/
structure Roster where
  books : Books
  depositAssets : Nat
  redeemShares : Nat

def Vault.roster (v : Vault) : Roster where
  books := v.books
  depositAssets := v.epochDepositAssets.raw
  redeemShares := v.epochRedeemShares.raw

/-- One record of an epoch changes, and the epoch's total moves with its amount. -/
structure Requests.Counted (r : Requests) (epochId : Uint64) (controller : Address) (total : Nat)
    (r' : Requests) (total' : Nat) : Prop where
  others : ∀ holder, holder ≠ controller →
    r'.requestOf epochId holder = r.requestOf epochId holder
  own : total' + (r.requestOf epochId controller).amount.raw =
    total + (r'.requestOf epochId controller).amount.raw

theorem Requests.counted_file {r : Requests} {epochId : Uint64} {controller : Address}
    {request : Request} {list : Registry Address} {total total' : Nat}
    (moved : total' + (r.requestOf epochId controller).amount.raw = total + request.amount.raw) :
    r.Counted epochId controller total (r.file epochId controller request list) total' where
  others holder apart := by simp [apart]
  own := by simpa using moved

/-- Everything one transaction can do to the roster. -/
inductive RosterStep (r : Roster) : Roster → Prop
  | same : RosterStep r r
  | deposits (controller : Address) {deposits : Requests} {total : Nat}
      (isOpen : r.books.epochOpen = true)
      (filed : r.books.deposits.Filed r.books.current deposits)
      (counted : r.books.deposits.Counted r.books.current controller r.depositAssets deposits
        total) :
      RosterStep r { r with
        books := { r.books with deposits := deposits }
        depositAssets := total }
  | redeems (controller : Address) {redeems : Requests} {total : Nat}
      (isOpen : r.books.epochOpen = true)
      (filed : r.books.redeems.Filed r.books.current redeems)
      (counted : r.books.redeems.Counted r.books.current controller r.redeemShares redeems
        total) :
      RosterStep r { r with
        books := { r.books with redeems := redeems }
        redeemShares := total }
  | paidDeposit (epochId : Uint64) (controller : Address) :
      RosterStep r { r with
        books := { r.books with deposits := r.books.deposits.settle epochId controller } }
  | paidRedeem (epochId : Uint64) (controller : Address) :
      RosterStep r { r with
        books := { r.books with redeems := r.books.redeems.settle epochId controller } }
  | opened (next : Uint64) (idle : r.books.epochOpen = false)
      (successor : next.raw = r.books.next.raw + 1) :
      RosterStep r {
        books := { r.books with epochOpen := true, current := r.books.next, next := next }
        depositAssets := 0
        redeemShares := 0 }
  | closed {books : Books} (shut : books.epochOpen = false) (step : BooksStep r.books books) :
      RosterStep r ⟨books, 0, 0⟩

theorem RosterStep.books {r r' : Roster} (step : RosterStep r r') : BooksStep r.books r'.books := by
  cases step with
  | same => exact .same
  | deposits controller isOpen filed counted => exact .deposits isOpen filed
  | redeems controller isOpen filed counted => exact .redeems isOpen filed
  | paidDeposit epochId controller => exact .paidDeposit epochId controller
  | paidRedeem epochId controller => exact .paidRedeem epochId controller
  | opened next idle successor => exact .opened next idle successor
  | closed shut step => exact step

/- Every transaction is one step of the roster. -/

section Frame

variable {v v' : Vault} {asset asset' : Asset}

theorem Vault.recordSurplus_roster (success : v.recordSurplus asset = .ok v') :
    v'.roster = v.roster := by
  obtain ⟨_, _, _, _, _, -, -, -, -, -, rfl⟩ := recordSurplus_ok success
  rfl

theorem Vault.finalizeEpoch_roster (success : v.finalizeEpoch asset = .ok v') :
    RosterStep v.roster v'.roster := by
  obtain ⟨recorded, terms, deposits, redeems, ledger, idle, escrow, reserve, next, -, isOpen, -, -,
    hRecorded, settlement, -, -, -, -, hNext, rfl⟩ := finalizeEpoch_ok success
  have same : recorded.books = v.books := congrArg Roster.books (recordSurplus_roster hRecorded)
  have current : recorded.currentEpochId = v.currentEpochId := congrArg Books.current same
  rw [← current] at hNext ⊢
  refine .closed rfl ?_
  show BooksStep v.books _
  rw [← same]
  exact .finalized terms deposits redeems next ((congrArg Books.epochOpen same).trans isOpen)
    hNext settlement.outcome settlement.deposits settlement.redeems

variable {w w' : World} {msg : Msg} {header : Header} {body : RemoteReportBody}
  {reason : ReportSkipReason}

theorem World.completeAllocation_roster {reported : Uint128}
    (success : w.completeAllocation reported = .ok w') : w'.vault.roster = w.vault.roster := by
  obtain ⟨_, _, -, -, -, -, same⟩ :=
    Vault.completeAllocation_iff.mp (completeAllocation_ok.mp success).1
  rw [same]
  rfl

theorem World.completeIfNamed_roster (success : w.completeIfNamed body = .ok w') :
    w'.vault.roster = w.vault.roster := by
  unfold completeIfNamed at success
  split at success
  · exact completeAllocation_roster success
  · rw [pure_eq_ok] at success
    rw [success]

theorem World.applyReport_roster (success : w.applyReport msg header body = .ok (w', reason)) :
    w'.vault.roster = w.vault.roster := by
  cases applyReport_ok success with
  | skipped => rfl
  | completedAtPar _ _ _ _ _ _ completed => exact completeAllocation_roster completed
  | priced completed valued _ _ _ _ completes values locks =>
      have before := completeIfNamed_roster completes
      obtain ⟨-, rfl⟩ := applyRemoteValuation_ok.mp values
      split at locks
      · obtain ⟨vault, hVault, rfl⟩ := locks
        obtain ⟨_, -, -, -, rfl⟩ := Vault.lockRemoteValuation_iff.mp hVault
        exact before
      · subst locks
        exact before

end Frame

/-- Every transaction is one step of the roster. -/
theorem World.step_roster {hashing : Hashing} {w w' : World} {msg : Msg} {call : Call}
    (success : w.step hashing msg call = .ok w') :
    RosterStep w.vault.roster w'.vault.roster := by
  have same : w'.vault.roster = w.vault.roster → RosterStep w.vault.roster w'.vault.roster :=
    fun kept => kept ▸ .same
  cases call with
  | asset =>
      obtain ⟨_, -, rfl⟩ := withAsset_ok.mp success
      exact .same
  | shareTransfer | shareTransferFrom | shareApprove =>
      obtain ⟨_, -, rfl⟩ := withShares_ok.mp success
      exact .same
  | requestDeposit assets =>
      obtain ⟨_, _, moved, rfl⟩ := withMoved_ok.mp success
      obtain ⟨list, requested, _, total, -, isOpen, -, nonzero, -, listed, hRequested, -, hTotal, -,
        rfl⟩ := Vault.requestDeposit_ok moved
      exact .deposits msg.sender isOpen (.joined msg.sender list requested (by omega) listed)
        (Requests.counted_file (by dsimp only [Vault.roster, Vault.books]; omega))
  | cancelDepositRequest =>
      obtain ⟨_, _, moved, rfl⟩ := withMoved_ok.mp success
      obtain ⟨list, cancelled, _, total, -, isOpen, -, -, -, listed, -, -, hTotal, -, rfl⟩ :=
        Vault.cancelDepositRequest_ok moved
      exact .deposits msg.sender isOpen (.withdrawn msg.sender list cancelled listed)
        (Requests.counted_file hTotal)
  | requestRedeem shares =>
      obtain ⟨_, changed, rfl⟩ := withVault_ok.mp success
      obtain ⟨list, requested, total, _, -, isOpen, -, nonzero, -, listed, hRequested, hTotal, -,
        rfl⟩ := Vault.requestRedeem_ok changed
      exact .redeems msg.sender isOpen (.joined msg.sender list requested (by omega) listed)
        (Requests.counted_file (by dsimp only [Vault.roster, Vault.books]; omega))
  | cancelRedeemRequest =>
      obtain ⟨_, changed, rfl⟩ := withVault_ok.mp success
      obtain ⟨list, cancelled, total, _, -, isOpen, -, -, -, listed, -, hTotal, -, rfl⟩ :=
        Vault.cancelRedeemRequest_ok changed
      exact .redeems msg.sender isOpen (.withdrawn msg.sender list cancelled listed)
        (Requests.counted_file hTotal)
  | cutoffEpoch =>
      obtain ⟨_, changed, rfl⟩ := withVault_ok.mp success
      obtain ⟨-, -, -, -, rfl⟩ := Vault.cutoffEpoch_ok changed
      exact .same
  | finalizeEpoch =>
      obtain ⟨_, changed, rfl⟩ := withVault_ok.mp success
      exact Vault.finalizeEpoch_roster changed
  | openNextEpoch =>
      obtain ⟨_, changed, rfl⟩ := withVault_ok.mp success
      obtain ⟨-, idle, opened⟩ := Vault.openNextEpoch_ok changed
      obtain ⟨_, next, -, hNext, rfl⟩ := Vault.openEpoch_ok opened
      exact .opened next idle hNext
  | abortEpoch =>
      obtain ⟨_, changed, rfl⟩ := withVault_ok.mp success
      obtain ⟨next, -, isOpen, -, hNext, rfl⟩ := Vault.abortEpoch_ok changed
      exact .closed rfl (.aborted _ next isOpen hNext rfl)
  | claimDeposit epochId =>
      obtain ⟨_, changed, rfl⟩ := withVault_ok.mp success
      obtain ⟨_, -, -, -, -, -, -, rfl⟩ := Vault.claimDeposit_ok changed
      exact .paidDeposit epochId msg.sender
  | claimRedeem epochId =>
      obtain ⟨_, _, moved, rfl⟩ := withMoved_ok.mp success
      obtain ⟨_, -, -, -, -, -, -, -, rfl⟩ := Vault.claimRedeem_ok moved
      exact .paidRedeem epochId msg.sender
  | refundDeposit epochId =>
      obtain ⟨_, _, moved, rfl⟩ := withMoved_ok.mp success
      obtain ⟨_, -, -, -, -, -, -, -, rfl⟩ := Vault.refundDeposit_ok moved
      exact .paidDeposit epochId msg.sender
  | refundRedeem epochId =>
      obtain ⟨_, changed, rfl⟩ := withVault_ok.mp success
      obtain ⟨_, -, -, -, -, -, -, rfl⟩ := Vault.refundRedeem_ok changed
      exact .paidRedeem epochId msg.sender
  | pause =>
      obtain ⟨_, changed, rfl⟩ := withVault_ok.mp success
      obtain ⟨-, rfl⟩ := Vault.pause_ok changed
      exact .same
  | unpause =>
      obtain ⟨_, changed, rfl⟩ := withVault_ok.mp success
      obtain ⟨-, rfl⟩ := Vault.unpause_ok changed
      exact .same
  | freeze =>
      obtain ⟨_, changed, rfl⟩ := withVault_ok.mp success
      obtain ⟨-, rfl⟩ := Vault.freeze_ok changed
      exact .same
  | observeInbound =>
      obtain ⟨_, changed, rfl⟩ := withVault_ok.mp success
      exact same (Vault.recordSurplus_roster changed)
  | bindRemoteAccounting coordinator =>
      obtain ⟨_, changed, rfl⟩ := withVault_ok.mp success
      obtain ⟨-, rfl⟩ := Vault.bindRemoteAccounting_ok changed
      exact .same
  | beginOutbound amount sink =>
      obtain ⟨_, _, moved, rfl⟩ := withMoved_ok.mp success
      obtain ⟨_, _, _, -, recorded, -, -, -, -, -, rfl⟩ := Vault.beginOutbound_ok moved
      have kept := Vault.recordSurplus_roster recorded
      exact same kept
  | completeAllocation amount reported =>
      obtain ⟨_, changed, rfl⟩ := withVault_ok.mp success
      obtain ⟨_, _, -, -, -, -, rfl⟩ := Vault.completeAllocation_iff.mp changed
      exact .same
  | closeAllocation claim credited =>
      obtain ⟨_, changed, rfl⟩ := withVault_ok.mp success
      obtain ⟨_, _, _, _, -, -, -, -, -, -, -, rfl⟩ := Vault.closeAllocation_iff.mp changed
      exact .same
  | recoverImpairment amount =>
      obtain ⟨_, changed, rfl⟩ := withVault_ok.mp success
      obtain ⟨_, _, _, -, -, -, -, rfl⟩ := Vault.recoverImpairment_iff.mp changed
      exact .same
  | applyRemoteValuation reported =>
      obtain ⟨_, changed, rfl⟩ := withVault_ok.mp success
      obtain ⟨-, rfl⟩ := Vault.applyRemoteValuation_iff.mp changed
      exact .same
  | beginRecall transferId amount =>
      obtain ⟨_, changed, rfl⟩ := withVault_ok.mp success
      obtain ⟨-, -, -, rfl⟩ := Vault.beginRecall_ok changed
      exact .same
  | applyRecallSent principal actual loss =>
      obtain ⟨_, changed, rfl⟩ := withVault_ok.mp success
      obtain ⟨_, _, _, _, _, _, -, -, -, -, -, -, -, -, -, rfl⟩ :=
        Vault.applyRecallSent_iff.mp changed
      exact .same
  | lockRemoteValuation epochId =>
      obtain ⟨_, changed, rfl⟩ := withVault_ok.mp success
      obtain ⟨_, -, -, -, rfl⟩ := Vault.lockRemoteValuation_iff.mp changed
      exact .same
  | allocate transferId amount minimum deadline stamps =>
      obtain ⟨_, moved, -, -, -, -, -, -, -, -, -, -, -, -, -, -, hMoved, -, hVault, -⟩ :=
        allocate_ok success
      obtain ⟨_, _, _, -, recorded, -, -, -, -, -, hBucket⟩ := Vault.beginOutbound_ok hMoved
      have kept := Vault.recordSurplus_roster recorded
      exact same (by rw [hVault, hBucket]; exact kept)
  | «recall» transferId amount minimum deadline stamps =>
      obtain ⟨_, _, -, -, -, -, -, -, -, -, -, -, -, -, -, -, hVault, -, -⟩ := recall_ok success
      obtain ⟨-, -, -, changed⟩ := Vault.beginRecall_ok hVault
      exact same (by rw [changed]; rfl)
  | admitTransfer transferId stamps =>
      obtain ⟨_, -, -, -, -, -, -, hVault, -⟩ := admit_ok success
      exact same (by rw [hVault])
  | close transferId stamps =>
      obtain ⟨_, -, -, -, -, -, -, -, hVault, -⟩ := close_ok success
      exact same (by rw [hVault])
  | recover recoveryId stamps =>
      obtain ⟨_, -, -, -, -, -, -, -, hVault, -⟩ := recover_ok success
      exact same (by rw [hVault])
  | processRemoteReport authentic header body =>
      obtain ⟨_, _, -, -, -, -, -, -, -, applied⟩ := processRemoteReport_iff.mp success
      have kept := applyReport_roster applied
      exact same kept
  | processRecallSent authentic header body =>
      obtain ⟨_, _, restored, -, -, -, -, -, -, -, -, -, -, -, -, hRestored, hVault, -, -⟩ :=
        processRecallSent_iff.mp success
      obtain ⟨_, _, _, _, _, _, -, -, -, -, -, -, -, -, -, changed⟩ :=
        Vault.applyRecallSent_iff.mp hVault
      have before : restored.roster = w.vault.roster := by
        dsimp only [restoreBaseline] at hRestored
        split at hRestored
        · rw [pure_eq_ok] at hRestored
          rw [hRestored]
        · obtain ⟨-, rfl⟩ := Vault.applyRemoteValuation_iff.mp hRestored
          rfl
      exact same (by rw [changed]; exact before)
  | processTransportSettlement authentic header body =>
      obtain ⟨_, -, -, -, -, -, -, -, -, settled⟩ := processTransportSettlement_iff.mp success
      split at settled
      · obtain ⟨-, -, -, -, -, hVault, -⟩ := settled
        obtain ⟨_, _, _, _, -, -, -, -, -, -, -, changed⟩ := Vault.closeAllocation_iff.mp hVault
        exact same (by rw [changed]; rfl)
      · obtain ⟨-, -, hVault, -⟩ := settled
        obtain ⟨_, _, _, -, -, -, -, changed⟩ := Vault.recoverImpairment_iff.mp hVault
        exact same (by rw [changed]; rfl)

/-- Every transaction is one step of the books. -/
theorem World.step_books {hashing : Hashing} {w w' : World} {msg : Msg} {call : Call}
    (success : w.step hashing msg call = .ok w') : BooksStep w.vault.books w'.vault.books :=
  (World.step_roster success).books

/-- A state some deployment and some accepted sequence of transactions lead to. -/
def Reachable (hashing : Hashing) (w : World) : Prop :=
  ∃ (deployment : Deployment) (start : World) (calls : List (Msg × Call)),
    deployment.deploy = .ok start ∧
      Run.run (fun w tx => w.step hashing tx.1 tx.2) start calls = .ok w

theorem Reachable.step {hashing : Hashing} {w w' : World} {msg : Msg} {call : Call}
    (reachable : Reachable hashing w) (success : w.step hashing msg call = .ok w') :
    Reachable hashing w' := by
  obtain ⟨deployment, start, calls, deployed, finished⟩ := reachable
  refine ⟨deployment, start, calls ++ [(msg, call)], deployed,
    Run.run_append.mpr ⟨w, finished, ?_⟩⟩
  exact Run.run_cons.mpr ⟨w', success, Run.run_nil.mpr rfl⟩

theorem Reachable.run {hashing : Hashing} {w w' : World} {calls : List (Msg × Call)}
    (reachable : Reachable hashing w)
    (finished : Run.run (fun w tx => w.step hashing tx.1 tx.2) w calls = .ok w') :
    Reachable hashing w' :=
  Run.run_preserves (Reachable hashing) (fun _ _ _ success earlier => earlier.step success) calls w
    finished reachable

theorem Deployment.deploy_ok {d : Deployment} {w : World} (success : d.deploy = .ok w) :
    w.asset = d.asset ∧
    (Vault.fresh d.vaultAddress d.admin d.guardian d.epochDuration d.minDepositAssets
      d.minRedeemShares d.configVersion d.shares).openEpoch .zero d.deployedAt = .ok w.vault ∧
    Coordinator.create d.coordinatorAddress d.vaultAddress d.authenticator d.outboundSink
      d.identities = .ok w.coordinator := by
  simp only [deploy, Vault.create, bind_eq_ok, pure_eq_ok, rejectIf_eq_ok, exists_const] at success
  obtain ⟨vault, ⟨-, -, -, -, hVault⟩, coordinator, hCoordinator, rfl⟩ := success
  exact ⟨rfl, hVault, hCoordinator⟩

theorem Deployment.booksInv {d : Deployment} {w : World} (deployed : d.deploy = .ok w) :
    BooksInv w.vault.books := by
  obtain ⟨-, opened, -⟩ := deploy_ok deployed
  obtain ⟨_, next, -, hNext, hVault⟩ := Vault.openEpoch_ok opened
  rw [hVault]
  exact {
    deposits := Requests.sound_empty
    redeems := Requests.sound_empty
    ahead := fun _ _ => rfl
    current := fun _ => ⟨rfl, hNext⟩
    depositClaims := fun _ _ finalized => nomatch finalized
    redeemClaims := fun _ _ finalized => nomatch finalized }

theorem Reachable.booksInv {hashing : Hashing} {w : World} (reachable : Reachable hashing w) :
    BooksInv w.vault.books := by
  obtain ⟨deployment, start, calls, deployed, finished⟩ := reachable
  refine Run.run_preserves (fun w => BooksInv w.vault.books) ?_ calls start finished
    (Deployment.booksInv deployed)
  intro w tx w' success inv
  exact inv.step (World.step_books success)

end Evm
