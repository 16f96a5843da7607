import CrossChainVault.Base.FloorSum
import CrossChainVault.Evm.Solvency

set_option autoImplicit false

/- The lists of controllers: what is listed is what is asked for, so a settlement prices every live
request once and never owes more than it sets aside. -/

namespace Evm

open Result Protocol Tally

namespace Requests

/-- What the listed requests of one epoch carry together. -/
def listedTotal (r : Requests) (epochId : Uint64) : Nat :=
  ((r.controllers epochId).entries.map fun controller =>
    (r.requestOf epochId controller).amount.raw).sum

/-- What all requests of one epoch carry together. -/
noncomputable def carried (r : Requests) (epochId : Uint64) : Nat :=
  tally fun controller => (r.requestOf epochId controller).amount.raw

/-- The records, the list and the positions of every epoch agree. -/
structure Consistent (r : Requests) : Prop where
  distinct : ∀ epochId, (r.controllers epochId).entries.Nodup
  bounded : ∀ epochId, (r.controllers epochId).entries.length ≤ maxPerEpoch
  position : ∀ (epochId : Uint64) (controller : Address) (i : Nat),
    (r.controllers epochId).slot controller = i + 1 ↔
      (r.controllers epochId).entries[i]? = some controller
  absent : ∀ epochId controller,
    (r.controllers epochId).slot controller = 0 ↔ controller ∉ (r.controllers epochId).entries
  listed : ∀ epochId controller, controller ∈ (r.controllers epochId).entries ↔
    (r.requestOf epochId controller).amount.raw ≠ 0

/-- The loop over the list meets every live request once and nobody else, writes its price, and
adds up what it wrote. -/
structure PricedOnce (r : Requests) (epochId : Uint64) (price : Uint256 → Except Revert Uint256)
    (r' : Requests) (owed : Nat) : Prop where
  visits : ∀ controller, (r.controllers epochId).entries.count controller =
    if (r.requestOf epochId controller).amount.raw = 0 then 0 else 1
  claims : ∀ controller, (r.requestOf epochId controller).amount.raw ≠ 0 →
    price (r.requestOf epochId controller).amount = .ok (r'.claimOf epochId controller)
  others : ∀ other controller,
    (other = epochId → (r.requestOf epochId controller).amount.raw = 0) →
    r'.claimOf other controller = r.claimOf other controller
  owed : owed = ((r.controllers epochId).entries.map fun controller =>
    (r'.claimOf epochId controller).raw).sum

/-- No epoch from `next` on has a request, and no list is longer than finalization allows. -/
structure Rolled (r : Requests) (next : Uint64) : Prop where
  ahead : ∀ epochId, next.raw ≤ epochId.raw → r.carried epochId = 0
  bounded : ∀ epochId, (r.controllers epochId).entries.length ≤ maxPerEpoch

variable {r r' : Requests} {epochId other next next' : Uint64} {controller : Address}
  {total total' : Nat}

theorem carried_congr (same : ∀ holder, (r'.requestOf other holder).amount =
    (r.requestOf other holder).amount) : r'.carried other = r.carried other := by
  apply tally_congr
  intro holder
  rw [same holder]

theorem Counted.carried (counted : r.Counted epochId controller total r' total') :
    r'.carried epochId + (r.requestOf epochId controller).amount.raw =
      r.carried epochId + (r'.requestOf epochId controller).amount.raw := by
  apply tally_changed controller
    (f := fun holder => (r'.requestOf epochId holder).amount.raw)
    (g := fun holder => (r.requestOf epochId holder).amount.raw)
  intro holder apart
  rw [counted.others holder apart]

/-- Summing the list misses nobody. -/
theorem Sound.listedTotal (sound : r.Sound) (epochId : Uint64) :
    r.listedTotal epochId = r.carried epochId := by
  symm
  apply tally_listed (sound.wellFormed epochId).nodup
  intro holder absent
  by_contra nonzero
  exact absent ((sound.listed epochId holder).mpr nonzero)

theorem Sound.consistent (sound : r.Sound) (rolled : r.Rolled next) : r.Consistent where
  distinct epochId := (sound.wellFormed epochId).nodup
  bounded := rolled.bounded
  position epochId controller i := sound.wellFormed epochId controller i
  absent epochId _ := (sound.wellFormed epochId).slot_eq_zero
  listed := sound.listed

theorem enlist_length {list : Registry Address} (rolled : r.Rolled next)
    (success : r.enlist epochId controller = .ok list) : list.entries.length ≤ maxPerEpoch := by
  have before := rolled.bounded epochId
  dsimp only [enlist] at success
  split at success
  · simp only [bind_eq_ok, rejectIf_eq_ok, exists_const, pure_eq_ok] at success
    obtain ⟨room, rfl⟩ := success
    rw [Registry.push, List.length_append, List.length_singleton]
    omega
  · rw [pure_eq_ok] at success
    rw [← success]
    exact before

theorem removeController_length {list : Registry Address} (rolled : r.Rolled next)
    (success : r.removeController epochId controller = .ok list) :
    list.entries.length ≤ maxPerEpoch := by
  have before := rolled.bounded epochId
  simp only [removeController, bind_eq_ok, rejectIf_eq_ok, okOr_eq_ok, exists_const] at success
  have shorter := Registry.length_remove success.2
  omega

theorem Rolled.filed (rolled : r.Rolled next) (filed : r.Filed epochId r')
    (before : epochId.raw < next.raw) : r'.Rolled next where
  ahead other later := by
    rw [carried_congr, rolled.ahead other later]
    intro holder
    rw [filed.requestOf_other]
    rintro rfl
    omega
  bounded other := by
    cases filed with
    | joined controller list requested nonzero enlisted =>
        rw [file_controllers]
        split
        · exact enlist_length rolled enlisted
        · exact rolled.bounded other
    | withdrawn controller list cancelledTotal removed =>
        rw [file_controllers]
        split
        · exact removeController_length rolled removed
        · exact rolled.bounded other

theorem Rolled.settle (rolled : r.Rolled next) : (r.settle epochId controller).Rolled next where
  ahead other later := by
    rw [carried_congr fun _ => settle_amount, rolled.ahead other later]
  bounded := rolled.bounded

theorem Rolled.later (rolled : r.Rolled next) (later : next.raw ≤ next'.raw) : r.Rolled next' where
  ahead other after := rolled.ahead other (Nat.le_trans later after)
  bounded := rolled.bounded

theorem Rolled.priced {price : Uint256 → Except Revert Uint256} {priced : Requests × Uint256}
    (rolled : r.Rolled next) (sound : r.Sound)
    (success : r.priceClaims epochId price = .ok priced) : priced.1.Rolled next := by
  obtain ⟨sameRequests, sameLists, -⟩ := priceClaims_ok sound success
  refine ⟨?_, ?_⟩
  · intro other later
    rw [carried_congr (r := r) fun _ => by rw [sameRequests], rolled.ahead other later]
  · rw [sameLists]
    exact rolled.bounded

/-- Pricing the listed requests one by one never exceeds pricing their total. -/
theorem priceClaims_within {price : Uint256 → Except Revert Uint256} {rate : Rate}
    (floors : ∀ amount priced, price amount = .ok priced → priced.raw = rate.floor amount.raw)
    (sound : r.Sound) {owed whole priced : Uint256} (total : whole.raw = r.listedTotal epochId)
    (success : r.priceClaims epochId price = .ok (r', owed)) (once : price whole = .ok priced) :
    owed.raw ≤ priced.raw := by
  obtain ⟨-, -, claims, -, sum⟩ := priceClaims_ok sound success
  have each : ((r.controllers epochId).entries.map fun controller =>
      (r'.claimOf epochId controller).raw) = (r.controllers epochId).entries.map fun controller =>
        rate.floor (r.requestOf epochId controller).amount.raw :=
    List.map_congr_left fun controller member => floors _ _ (claims controller member)
  rw [sum, each, floors _ _ once, total]
  exact rate.sum_floor_le _ _

theorem Sound.pricedOnce {price : Uint256 → Except Revert Uint256} {owed : Uint256}
    (sound : r.Sound) (success : r.priceClaims epochId price = .ok (r', owed)) :
    r.PricedOnce epochId price r' owed.raw := by
  obtain ⟨-, -, claims, elsewhere, sum⟩ := priceClaims_ok sound success
  refine ⟨?_, ?_, ?_, sum⟩
  · intro controller
    split
    · rename_i nothing
      rw [List.count_eq_zero]
      intro member
      exact (sound.listed epochId controller).mp member nothing
    · rename_i something
      exact List.count_eq_one_of_mem (sound.wellFormed epochId).nodup
        ((sound.listed epochId controller).mpr something)
  · intro controller live
    exact claims controller ((sound.listed epochId controller).mpr live)
  · intro other controller nothing
    by_cases here : other = epochId
    · subst here
      apply priceClaims_unlisted sound success
      intro member
      exact (sound.listed other controller).mp member (nothing rfl)
    · exact elsewhere other controller here

end Requests

/- The slot's totals. -/

/-- Both sides, seen from the next epoch. -/
structure Rolls (b : Books) : Prop where
  deposits : b.deposits.Rolled b.next
  redeems : b.redeems.Rolled b.next

theorem BooksStep.rolls {b b' : Books} (step : BooksStep b b') (inv : BooksInv b)
    (rolls : Rolls b) : Rolls b' := by
  cases step with
  | same => exact rolls
  | deposits isOpen filed =>
      have slot := (inv.current isOpen).2
      exact ⟨rolls.deposits.filed filed (by omega), rolls.redeems⟩
  | redeems isOpen filed =>
      have slot := (inv.current isOpen).2
      exact ⟨rolls.deposits, rolls.redeems.filed filed (by omega)⟩
  | paidDeposit epochId controller => exact ⟨rolls.deposits.settle, rolls.redeems⟩
  | paidRedeem epochId controller => exact ⟨rolls.deposits, rolls.redeems.settle⟩
  | opened next idle successor =>
      exact ⟨rolls.deposits.later (by dsimp only; omega), rolls.redeems.later (by dsimp only; omega)⟩
  | finalized terms deposits redeems next isOpen successor outcome depositClaims redeemClaims =>
      have slot := (inv.current isOpen).2
      exact ⟨(rolls.deposits.priced inv.deposits depositClaims).later (by dsimp only; omega),
        (rolls.redeems.priced inv.redeems redeemClaims).later (by dsimp only; omega)⟩
  | aborted terms next isOpen successor outcome =>
      have slot := (inv.current isOpen).2
      exact ⟨rolls.deposits.later (by dsimp only; omega), rolls.redeems.later (by dsimp only; omega)⟩

/-- The running totals are what the requests of the open epoch carry. -/
structure RosterInv (r : Roster) : Prop where
  books : BooksInv r.books
  rolls : Rolls r.books
  deposits : r.books.epochOpen = true → r.depositAssets = r.books.deposits.carried r.books.current
  redeems : r.books.epochOpen = true → r.redeemShares = r.books.redeems.carried r.books.current

theorem RosterInv.step {r r' : Roster} (step : RosterStep r r') (inv : RosterInv r) :
    RosterInv r' := by
  have books := inv.books.step step.books
  have rolls := step.books.rolls inv.books inv.rolls
  cases step with
  | same => exact inv
  | deposits controller isOpen filed counted =>
      refine ⟨books, rolls, ?_, inv.redeems⟩
      intro _
      have before := inv.deposits isOpen
      have carried := counted.carried
      have own := counted.own
      dsimp only
      omega
  | redeems controller isOpen filed counted =>
      refine ⟨books, rolls, inv.deposits, ?_⟩
      intro _
      have before := inv.redeems isOpen
      have carried := counted.carried
      have own := counted.own
      dsimp only
      omega
  | paidDeposit epochId controller =>
      refine ⟨books, rolls, ?_, inv.redeems⟩
      intro isOpen
      rw [Requests.carried_congr fun _ => Requests.settle_amount]
      exact inv.deposits isOpen
  | paidRedeem epochId controller =>
      refine ⟨books, rolls, inv.deposits, ?_⟩
      intro isOpen
      rw [Requests.carried_congr fun _ => Requests.settle_amount]
      exact inv.redeems isOpen
  | opened next idle successor =>
      refine ⟨books, rolls, ?_, ?_⟩
      · intro _
        exact (inv.rolls.deposits.ahead r.books.next (Nat.le_refl _)).symm
      · intro _
        exact (inv.rolls.redeems.ahead r.books.next (Nat.le_refl _)).symm
  | closed shut step =>
      refine ⟨books, rolls, ?_, ?_⟩
      · intro isOpen
        cases isOpen.symm.trans shut
      · intro isOpen
        cases isOpen.symm.trans shut

theorem Deployment.rosterInv {d : Deployment} {w : World} (deployed : d.deploy = .ok w) :
    RosterInv w.vault.roster := by
  have books := Deployment.booksInv deployed
  obtain ⟨-, opened, -⟩ := deploy_ok deployed
  obtain ⟨_, next, -, -, hVault⟩ := Vault.openEpoch_ok opened
  have nothing : ∀ epochId, Requests.empty.carried epochId = 0 :=
    fun _ => tally_eq_zero fun _ => rfl
  have rolled : ∀ next, Requests.empty.Rolled next :=
    fun _ => ⟨fun epochId _ => nothing epochId, fun _ => Nat.zero_le _⟩
  refine ⟨books, ?_, ?_, ?_⟩
  · rw [hVault]
    exact ⟨rolled next, rolled next⟩
  · rw [hVault]
    exact fun _ => (nothing _).symm
  · rw [hVault]
    exact fun _ => (nothing _).symm

theorem Reachable.rosterInv {hashing : Hashing} {w : World} (reachable : Reachable hashing w) :
    RosterInv w.vault.roster := by
  obtain ⟨deployment, start, calls, deployed, finished⟩ := reachable
  refine Run.run_preserves (fun w => RosterInv w.vault.roster) ?_ calls start finished
    (Deployment.rosterInv deployed)
  intro w tx w' success inv
  exact inv.step (World.step_roster success)

/-- A settled epoch keeps its outcome and its claims. -/
structure Books.KeepsClaims (b b' : Books) (epochId : Uint64) : Prop where
  settled : (b'.settled epochId).outcome ≠ .none
  deposits : b'.deposits.claimOf epochId = b.deposits.claimOf epochId
  redeems : b'.redeems.claimOf epochId = b.redeems.claimOf epochId

theorem BooksStep.keepsClaims {b b' : Books} {epochId : Uint64} (step : BooksStep b b')
    (inv : BooksInv b) (settled : (b.settled epochId).outcome ≠ .none) :
    b.KeepsClaims b' epochId := by
  have elsewhere : b.epochOpen = true → epochId ≠ b.current := by
    rintro isOpen rfl
    exact settled (inv.current isOpen).1
  cases step with
  | same => exact ⟨settled, rfl, rfl⟩
  | deposits isOpen filed => exact ⟨settled, congrFun filed.claimOf epochId, rfl⟩
  | redeems isOpen filed => exact ⟨settled, rfl, congrFun filed.claimOf epochId⟩
  | paidDeposit other controller => exact ⟨settled, rfl, rfl⟩
  | paidRedeem other controller => exact ⟨settled, rfl, rfl⟩
  | opened next idle successor => exact ⟨settled, rfl, rfl⟩
  | finalized terms deposits redeems next isOpen successor outcome depositClaims redeemClaims =>
      obtain ⟨-, -, -, shares, -⟩ := Requests.priceClaims_ok inv.deposits depositClaims
      obtain ⟨-, -, -, assets, -⟩ := Requests.priceClaims_ok inv.redeems redeemClaims
      refine ⟨?_, ?_, ?_⟩
      · dsimp only
        rw [Function.update_of_ne (elsewhere isOpen)]
        exact settled
      · funext controller
        exact shares epochId controller (elsewhere isOpen)
      · funext controller
        exact assets epochId controller (elsewhere isOpen)
  | aborted terms next isOpen successor outcome =>
      refine ⟨?_, rfl, rfl⟩
      dsimp only
      rw [Function.update_of_ne (elsewhere isOpen)]
      exact settled

/-- Once an epoch is settled no run writes its claims again. -/
theorem Reachable.keepsClaims {hashing : Hashing} {w w' : World} {calls : List (Msg × Call)}
    {epochId : Uint64} (reachable : Reachable hashing w)
    (settled : (w.vault.settled epochId).outcome ≠ .none)
    (finished : Run.run (fun w tx => w.step hashing tx.1 tx.2) w calls = .ok w') :
    w.vault.books.KeepsClaims w'.vault.books epochId := by
  have kept := Run.run_preserves
    (fun later => BooksInv later.vault.books ∧ w.vault.books.KeepsClaims later.vault.books epochId)
    ?_ calls w finished ⟨reachable.booksInv, settled, rfl, rfl⟩
  · exact kept.2
  · rintro s tx s' success ⟨inv, kept⟩
    have step := World.step_books success
    have here := step.keepsClaims inv kept.settled
    exact ⟨inv.step step, here.settled, here.deposits.trans kept.deposits,
      here.redeems.trans kept.redeems⟩

/- Settling. -/

namespace SettledEpoch

variable {terms : SettledEpoch} {amount priced : Uint256}

/-- Shares per asset. -/
def shareRate (terms : SettledEpoch) : Rate :=
  ⟨terms.totalSupply.raw + VaultMath.virtualShares.raw,
    terms.totalAssets.raw + VaultMath.virtualAssets.raw⟩

/-- Assets per share. -/
def assetRate (terms : SettledEpoch) : Rate :=
  ⟨terms.totalAssets.raw + VaultMath.virtualAssets.raw,
    terms.totalSupply.raw + VaultMath.virtualShares.raw⟩

theorem sharesFor_floor (success : terms.sharesFor amount = .ok priced) :
    priced.raw = terms.shareRate.floor amount.raw := by
  simp only [sharesFor, VaultMath.assetsToShares, bind_eq_ok, add_ok, VaultMath.mulDiv_ok]
    at success
  obtain ⟨shareSide, hShare, assetSide, hAsset, -, hPriced⟩ := success
  rw [hPriced, hShare, hAsset]
  rfl

theorem assetsFor_floor (success : terms.assetsFor amount = .ok priced) :
    priced.raw = terms.assetRate.floor amount.raw := by
  simp only [assetsFor, VaultMath.sharesToAssets, bind_eq_ok, add_ok, VaultMath.mulDiv_ok]
    at success
  obtain ⟨assetSide, hAsset, shareSide, hShare, -, hPriced⟩ := success
  rw [hPriced, hShare, hAsset]
  rfl

end SettledEpoch

section Violation

variable {v : Vault} {asset : Asset}

theorem add_ne_violation {bits : Nat} {a b : Unsigned bits} :
    add a b ≠ .error .invariantViolation := by
  intro failed
  cases add_error failed

theorem sub_ne_violation {bits : Nat} {a b : Unsigned bits} :
    sub a b ≠ .error .invariantViolation := by
  intro failed
  cases sub_error failed

theorem mulDiv_ne_violation {x y denominator : Uint256} :
    VaultMath.mulDiv x y denominator ≠ .error .invariantViolation := by
  unfold VaultMath.mulDiv
  split
  · intro failed
    cases failed
  · split
    · intro failed
      cases failed
    · intro failed
      cases failed

theorem assetsToShares_ne_violation {assets totalAssets totalSupply : Uint256} :
    VaultMath.assetsToShares assets totalAssets totalSupply ≠ .error .invariantViolation := by
  simp [VaultMath.assetsToShares, bind_eq_error, add_ne_violation, mulDiv_ne_violation]

theorem sharesToAssets_ne_violation {shares totalAssets totalSupply : Uint256} :
    VaultMath.sharesToAssets shares totalAssets totalSupply ≠ .error .invariantViolation := by
  simp [VaultMath.sharesToAssets, bind_eq_error, add_ne_violation, mulDiv_ne_violation]

theorem priceClaims_ne_violation {r : Requests} {epochId : Uint64}
    {price : Uint256 → Except Revert Uint256}
    (priced : ∀ amount, price amount ≠ .error .invariantViolation) :
    r.priceClaims epochId price ≠ .error .invariantViolation := by
  intro failed
  rcases bind_eq_error.mp failed with loop | ⟨_, -, done⟩
  · refine foldlM_ne_error ?_ _ _ loop
    intro state controller
    simp [bind_eq_error, priced, add_ne_violation, pure, Except.pure]
  · cases done

theorem unlessZero_ne_violation {token : Shares} {amount : Uint256} {moved : Except Revert Shares}
    (never : moved ≠ .error .invariantViolation) :
    unlessZero amount token moved ≠ .error .invariantViolation := by
  unfold unlessZero
  split
  · intro failed
    cases failed
  · exact never

theorem burn_ne_violation {token : Shares} {account : Address} {amount : Uint256} :
    token.burn account amount ≠ .error .invariantViolation := by
  intro failed
  cases Shares.burn_error failed

theorem mint_ne_violation {token : Shares} {account : Address} {amount : Uint256} :
    token.mint account amount ≠ .error .invariantViolation := by
  intro failed
  cases Shares.mint_error failed

theorem attributeSurplus_ne_violation {surplus : Uint256} :
    v.attributeSurplus surplus ≠ .error .invariantViolation := by
  intro failed
  simp only [Vault.attributeSurplus, bind_eq_error, add_ne_violation, sub_ne_violation, false_or]
    at failed
  obtain ⟨_, -, _, -, _, -, failed⟩ := failed
  split at failed
  · cases failed
  · split at failed
    · simp [bind_eq_error, add_ne_violation, pure, Except.pure] at failed
    · simp [bind_eq_error, add_ne_violation, pure, Except.pure] at failed

theorem recordSurplus_ne_violation : v.recordSurplus asset ≠ .error .invariantViolation := by
  intro failed
  simp only [Vault.recordSurplus, Vault.accountedAssets, bind_eq_error, add_ne_violation,
    sub_ne_violation, rejectIf_eq_error, reduceCtorEq, and_false, exists_false, false_or,
    or_false] at failed
  obtain ⟨_, -, _, -, _, -, failed⟩ := failed
  split at failed
  · cases failed
  · exact attributeSurplus_ne_violation failed

theorem pricingAssets_ne_violation : v.pricingAssets ≠ .error .invariantViolation := by
  unfold Vault.pricingAssets
  split
  · intro failed
    cases failed
  · split
    · intro failed
      cases failed
    · intro failed
      cases failed

/-- Both prices of a total are never below what its parts are owed, so the check never fires. -/
theorem finalizeEpoch_ne_violation (inv : RosterInv v.roster) :
    v.finalizeEpoch asset ≠ .error .invariantViolation := by
  intro failed
  simp only [Vault.finalizeEpoch, Vault.requireStatus, bind_eq_error, rejectIf_eq_error,
    rejectIf_eq_ok, recordSurplus_ne_violation, pricingAssets_ne_violation,
    assetsToShares_ne_violation, sharesToAssets_ne_violation, add_ne_violation, sub_ne_violation,
    priceClaims_ne_violation fun _ => assetsToShares_ne_violation,
    priceClaims_ne_violation fun _ => sharesToAssets_ne_violation,
    unlessZero_ne_violation burn_ne_violation, unlessZero_ne_violation mint_ne_violation,
    reduceCtorEq, and_false, exists_false, false_or, or_false, and_true, exists_const, pure,
    Except.pure] at failed
  obtain ⟨-, isOpen, -, -, recorded, hRecorded, totalAssets, -, minted, hMinted, redeemAssets,
    hRedeem, -, deposits, hDeposits, redeems, hRedeems, beyond⟩ := failed
  have same := Vault.recordSurplus_roster hRecorded
  rw [← same] at inv
  have slot : recorded.currentEpochId = v.currentEpochId := congrArg (·.books.current) same
  rw [← slot] at hDeposits hRedeems
  have opened : recorded.epochOpen = true := by
    have kept : recorded.epochOpen = v.epochOpen := congrArg (·.books.epochOpen) same
    rw [kept]
    simpa using isOpen
  let terms : SettledEpoch := { SettledEpoch.unset with
    totalAssets := totalAssets, totalSupply := recorded.shares.totalSupply }
  have shareFloor : ∀ amount priced, terms.sharesFor amount = .ok priced →
      priced.raw = terms.shareRate.floor amount.raw :=
    fun _ _ success => SettledEpoch.sharesFor_floor success
  have assetFloor : ∀ amount priced, terms.assetsFor amount = .ok priced →
      priced.raw = terms.assetRate.floor amount.raw :=
    fun _ _ success => SettledEpoch.assetsFor_floor success
  have shares : deposits.2.raw ≤ minted.raw :=
    Requests.priceClaims_within shareFloor inv.books.deposits
      ((inv.deposits opened).trans (inv.books.deposits.listedTotal _).symm) hDeposits hMinted
  have assets : redeems.2.raw ≤ redeemAssets.raw :=
    Requests.priceClaims_within assetFloor inv.books.redeems
      ((inv.redeems opened).trans (inv.books.redeems.listedTotal _).symm) hRedeems hRedeem
  simp only [Unsigned.lt_def] at beyond
  omega

end Violation

/-- What the lists of controllers promise in one state, and what settling from it does. -/
structure Listings (hashing : Hashing) (w : World) : Prop where
  deposits : w.vault.deposits.Consistent
  redeems : w.vault.redeems.Consistent
  totals : w.vault.epochOpen = true →
    w.vault.deposits.listedTotal w.vault.currentEpochId = w.vault.epochDepositAssets.raw ∧
    w.vault.redeems.listedTotal w.vault.currentEpochId = w.vault.epochRedeemShares.raw
  unviolated : ∀ msg, w.step hashing msg .finalizeEpoch ≠ .error .invariantViolation
  priced : ∀ (msg : Msg) (w' : World), w.step hashing msg .finalizeEpoch = .ok w' →
    ∃ (terms : SettledEpoch) (owedShares owedAssets : Nat),
      w'.vault.settled w.vault.currentEpochId = terms ∧ terms.outcome = .finalized ∧
      w.vault.deposits.PricedOnce w.vault.currentEpochId terms.sharesFor w'.vault.deposits
        owedShares ∧
      w.vault.redeems.PricedOnce w.vault.currentEpochId terms.assetsFor w'.vault.redeems
        owedAssets ∧
      terms.sharesFor w.vault.epochDepositAssets = .ok terms.mintedShares ∧
      terms.assetsFor w.vault.epochRedeemShares = .ok terms.redeemAssets ∧
      owedShares ≤ terms.mintedShares.raw ∧ owedAssets ≤ terms.redeemAssets.raw ∧
      ∀ (calls : List (Msg × Call)) (later : World),
        Run.run (fun w tx => w.step hashing tx.1 tx.2) w' calls = .ok later →
        w'.vault.books.KeepsClaims later.vault.books w.vault.currentEpochId

/-- Whatever order requests, top-ups, cancellations and new requests come in, the lists keep
exactly the live requests, and a settlement prices each of them once. -/
theorem controllers_listed_once {hashing : Hashing} {w : World}
    (reachable : Reachable hashing w) : Listings hashing w := by
  have inv := reachable.rosterInv
  refine ⟨inv.books.deposits.consistent inv.rolls.deposits,
    inv.books.redeems.consistent inv.rolls.redeems, ?_, ?_, ?_⟩
  · intro isOpen
    exact ⟨(inv.books.deposits.listedTotal _).trans (inv.deposits isOpen).symm,
      (inv.books.redeems.listedTotal _).trans (inv.redeems isOpen).symm⟩
  · intro msg failed
    rcases bind_eq_error.mp failed with settling | ⟨_, -, done⟩
    · exact finalizeEpoch_ne_violation inv settling
    · cases done
  · intro msg w' success
    obtain ⟨vault, changed, rfl⟩ := World.withVault_ok.mp success
    obtain ⟨recorded, terms, deposits, redeems, ledger, _, _, _, next, -, isOpen, -, -, hRecorded,
      settlement, -, -, -, -, -, hVault⟩ := Vault.finalizeEpoch_ok changed
    have same := Vault.recordSurplus_roster hRecorded
    have books : recorded.books = w.vault.books := congrArg Roster.books same
    have slot : recorded.currentEpochId = w.vault.currentEpochId := congrArg Books.current books
    have sameDeposits : recorded.deposits = w.vault.deposits := congrArg Books.deposits books
    have sameRedeems : recorded.redeems = w.vault.redeems := congrArg Books.redeems books
    have deposited : recorded.epochDepositAssets = w.vault.epochDepositAssets :=
      Unsigned.ext (congrArg Roster.depositAssets same)
    have redeemed : recorded.epochRedeemShares = w.vault.epochRedeemShares :=
      Unsigned.ext (congrArg Roster.redeemShares same)
    have shareClaims := settlement.deposits
    have assetClaims := settlement.redeems
    rw [slot, sameDeposits] at shareClaims
    rw [slot, sameRedeems] at assetClaims
    have settled : (vault.settled w.vault.currentEpochId) = terms := by
      rw [hVault]
      exact Function.update_self ..
    refine ⟨terms, deposits.2.raw, redeems.2.raw, settled, settlement.outcome, ?_, ?_, ?_, ?_, ?_,
      ?_, ?_⟩
    · rw [hVault]
      exact inv.books.deposits.pricedOnce shareClaims
    · rw [hVault]
      exact inv.books.redeems.pricedOnce assetClaims
    · rw [← deposited, ← settlement.depositAssets]
      exact settlement.mintedShares
    · rw [← redeemed, ← settlement.redeemShares]
      exact settlement.redeemAssets
    · have dust := settlement.depositDust
      omega
    · have dust := settlement.redeemDust
      omega
    · intro calls later finished
      apply (reachable.step success).keepsClaims _ finished
      show (vault.settled w.vault.currentEpochId).outcome ≠ .none
      rw [settled, settlement.outcome]
      exact EpochOutcome.noConfusion

def sampleNeighbour : Address := 8

/-- The first of two depositors leaves, so the second takes its place, then joins again and tops
up. -/
def sampleRejoining : List (Msg × Call) :=
  [(⟨sampleNeighbour, .zero⟩, .asset (.other [8, 500])),
    (⟨sampleNeighbour, .zero⟩, .asset (.approve samplePlan.vaultAddress 500)),
    (⟨sampleHolder, .zero⟩, .requestDeposit 300),
    (⟨sampleNeighbour, .zero⟩, .requestDeposit 200),
    (⟨sampleHolder, .zero⟩, .cancelDepositRequest),
    (⟨sampleHolder, .zero⟩, .requestDeposit 100),
    (⟨sampleHolder, .zero⟩, .requestDeposit 50)]

theorem controllers_listed_once_rejoined : ∃ w, Listings sampleHash w ∧
    (w.vault.deposits.controllers .zero).entries = [sampleNeighbour, sampleHolder] ∧
    w.vault.deposits.listedTotal .zero = 350 := by
  have passes : (do
      let start ← samplePlan.deploy
      let w ← Run.run (fun w (tx : Msg × Call) => w.step sampleHash tx.1 tx.2) start sampleRejoining
      pure (start, w) : Except Revert (World × World)).toOption.any (fun worlds =>
        decide ((worlds.2.vault.deposits.controllers .zero).entries =
          [sampleNeighbour, sampleHolder]) &&
        decide (worlds.2.vault.deposits.listedTotal .zero = 350)) = true := by
    decide +kernel
  obtain ⟨⟨_, _⟩, finished, checks⟩ := ok_of_any passes
  simp only [bind_eq_ok, pure_eq_ok, Prod.mk.injEq] at finished
  obtain ⟨start, deployed, w, run, rfl, rfl⟩ := finished
  simp only [Bool.and_eq_true, decide_eq_true_eq] at checks
  exact ⟨w, controllers_listed_once ⟨samplePlan, start, sampleRejoining, deployed, run⟩, checks⟩

end Evm
