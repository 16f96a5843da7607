import CrossChainVault.Model.Price
import CrossChainVault.Model.Shares

set_option autoImplicit false

/- One settlement on its own: it pays no more than it may, never dilutes the holders that stay, and
none of its subtractions can fail. -/

namespace AccountingModel

open Result

theorem Reachable.offsetInv {s : State} (reachable : Reachable s) : OffsetInv s :=
  reachable.induct OffsetInv (fun _ _ => OffsetInv.new) (fun _ _ _ => OffsetInv.step)

section Amounts

variable {s : State} {epoch : Epoch}

/-- What the current epoch collected is there to be released. -/
structure Collected (s : State) (epoch : Epoch) : Prop where
  deposits : epoch.pendingDepositAssets.raw ≤ s.buckets.pendingDepositEscrow.raw
  escrowed : epoch.pendingRedeemShares.raw ≤ s.escrowedRedeemShares.raw
  supplied : epoch.pendingRedeemShares.raw ≤ s.totalShareSupply.raw
  depositTotal : epoch.pendingDepositAssets.raw =
    s.depositRequests.sumIn epoch.id Request.activeAmount
  redeemTotal : epoch.pendingRedeemShares.raw =
    s.redeemRequests.sumIn epoch.id Request.activeAmount

theorem Reachable.collected (reachable : Reachable s) (found : s.epoch = some epoch) :
    Collected s epoch := by
  obtain ⟨deposits, redeems⟩ := reachable.backed
  have deposited : s.depositBook.current = some (epoch.id, epoch.pendingDepositAssets.raw) := by
    rw [State.depositBook, found]
    rfl
  have redeemed : s.redeemBook.current = some (epoch.id, epoch.pendingRedeemShares.raw) := by
    rw [State.redeemBook, found]
    rfl
  have escrow : s.buckets.pendingDepositEscrow.raw = _ := deposits.escrow
  have escrowed : s.escrowedRedeemShares.raw = _ := redeems.escrow
  rw [deposited, Option.elim_some] at escrow
  rw [redeemed, Option.elim_some] at escrowed
  have owned := reachable.sharesInv.owned
  exact ⟨by omega, by omega, by omega, deposits.pending _ _ deposited, redeems.pending _ _ redeemed⟩

/-- Pricing what each request collected never exceeds pricing the whole. -/
theorem Collected.owed_le (collected : Collected s epoch) (rate : Rate) :
    s.depositRequests.sumIn epoch.id (Request.activePrice rate) ≤
        rate.floor epoch.pendingDepositAssets.raw ∧
      s.redeemRequests.sumIn epoch.id (Request.activePrice rate) ≤
        rate.floor epoch.pendingRedeemShares.raw := by
  rw [collected.depositTotal, collected.redeemTotal]
  exact ⟨(RequestMap.sumIn_price _ rate epoch.id).1, (RequestMap.sumIn_price _ rate epoch.id).1⟩

/-- Below the whole supply and its virtual shares, a redemption leaves at least the virtual assets. -/
theorem payout_le {assets supply virtualShares redeemed : Nat} (part : redeemed ≤ supply)
    (offset : 0 < virtualShares) : redeemed * (assets + 1) / (supply + virtualShares) ≤ assets := by
  apply Nat.le_of_lt_succ
  rw [Nat.div_lt_iff_lt_mul (by omega)]
  calc redeemed * (assets + 1) ≤ supply * (assets + 1) := Nat.mul_le_mul_right _ part
    _ < (assets + 1) * (supply + virtualShares) := by
      rw [Nat.mul_comm supply]
      exact Nat.mul_lt_mul_of_pos_left (by omega) (by omega)

end Amounts

section Underflow

variable {s : State} {basis : PricingBasis} {terms : EpochTerms}

theorem mulDivFloor_ne_underflow {a b denominator : Unsigned 128} :
    mulDivFloor a b denominator ≠ .error .arithmeticUnderflow := by
  unfold mulDivFloor
  split
  · intro failed
    cases failed
  · split
    · intro failed
      cases failed
    · intro failed
      cases failed

@[simp] theorem assetsToShares_ne_underflow {assets : AssetAmount} :
    assetsToShares assets basis ≠ .error .arithmeticUnderflow := by
  simp [assetsToShares, PricingBasis.shareSide, PricingBasis.assetSide, bind_eq_error,
    mulDivFloor_ne_underflow]

@[simp] theorem sharesToAssets_ne_underflow {shares : ShareAmount} :
    sharesToAssets shares basis ≠ .error .arithmeticUnderflow := by
  simp [sharesToAssets, PricingBasis.shareSide, PricingBasis.assetSide, bind_eq_error,
    mulDivFloor_ne_underflow]

/-- Pricing a list of requests only ever adds. -/
theorem priceRequests_ne_underflow {price : Unsigned 128 → Except Rejection (Unsigned 128)}
    (priced : ∀ amount, price amount ≠ .error .arithmeticUnderflow) (requests : List Request) :
    State.priceRequests price requests ≠ .error .arithmeticUnderflow := by
  unfold State.priceRequests
  generalize ((.zero, .zero) : Unsigned 128 × Unsigned 128) = start
  induction requests generalizing start with
  | nil => nofun
  | cons request requests ih =>
      rw [List.foldlM_cons, ne_eq, bind_eq_error]
      rintro (here | ⟨next, -, later⟩)
      · split at here
        · simp only [bind_eq_error, priced, checkedAdd_ne_underflow, false_or] at here
          obtain ⟨_, -, _, -, here⟩ := here
          split at here
          · cases here
          · simp only [bind_eq_error, checkedAdd_ne_underflow, false_or] at here
            obtain ⟨_, -, impossible⟩ := here
            cases impossible
        · cases here
      · exact ih next later

@[simp] theorem entitlements_ne_underflow {epoch : EpochId} :
    s.entitlements epoch terms ≠ .error .arithmeticUnderflow := by
  have deposits := priceRequests_ne_underflow
    (fun assets => show terms.sharesFor assets ≠ _ from assetsToShares_ne_underflow)
    (s.depositRequests.ofEpoch epoch)
  have redeems := priceRequests_ne_underflow
    (fun shares => show terms.assetsFor shares ≠ _ from sharesToAssets_ne_underflow)
    (s.redeemRequests.ofEpoch epoch)
  simp [State.entitlements, bind_eq_error, deposits, redeems, pure, Except.pure]

@[simp] theorem settlementBasis_ne_underflow {epoch : Epoch} :
    settlementBasis s epoch ≠ .error .arithmeticUnderflow := by
  unfold settlementBasis
  split
  · cases locked : s.epochValuationLocked[epoch.id]? with
    | none => nofun
    | some value => nofun
  · nofun

/-- Every subtraction of a settlement takes at most what is there. -/
theorem finalizeEpoch_ne_underflow (reachable : Reachable s) :
    finalizeEpoch s ≠ .error .arithmeticUnderflow := by
  intro failure
  simp only [finalizeEpoch, bind_eq_error, rejectIf_eq_error, rejectIf_eq_ok, requireActive,
    okOr_eq_ok, okOr_eq_error, EpochId.next, Unsigned.checkedSub_eq_error, checkedSub_underflows,
    checkedAdd_ne_underflow, checkedAdd_ok, sharesToAssets_ne_underflow,
    assetsToShares_ne_underflow, settlementBasis_ne_underflow, entitlements_ne_underflow,
    exists_const, reduceCtorEq, and_false, false_or, not_not, pure, Except.pure, or_false] at failure
  obtain ⟨-, epoch, found, -, -, basis, -, redeemAssets, hRedeem, minted, hMinted, -, -, -, -, rest⟩ :=
    failure
  have collected := reachable.collected found
  have deposits := collected.deposits
  have escrowed := collected.escrowed
  have supplied := collected.supplied
  rcases rest with short | ⟨-, -, -, -, withMint, hWithMint, rest⟩
  · omega
  rcases rest with short | ⟨-, -, -, -, rest⟩
  · omega
  rcases rest with short | ⟨-, -, -, -, -, -, owed, hOwed, rest⟩
  · omega
  -- Each claim rounds down, so together they stay within the aggregate.
  obtain ⟨depositOwed, redeemOwed⟩ := entitlements_ok hOwed
  have shares := (collected.owed_le ⟨basis.wideShares, basis.wideAssets⟩).1
  have assets := (collected.owed_le ⟨basis.wideAssets, basis.wideShares⟩).2
  have mintedAll : minted.raw = Rate.floor ⟨basis.wideShares, basis.wideAssets⟩ _ :=
    (assetsToShares_ok.mp hMinted).2.2.2
  have redeemAll : redeemAssets.raw = Rate.floor ⟨basis.wideAssets, basis.wideShares⟩ _ :=
    (sharesToAssets_ok.mp hRedeem).2.2.2
  rcases rest with short | ⟨-, -, short⟩
  · rw [depositOwed, mintedAll] at short
    exact Nat.lt_irrefl _ (Nat.lt_of_lt_of_le short shares)
  · rw [redeemOwed, redeemAll] at short
    exact Nat.lt_irrefl _ (Nat.lt_of_lt_of_le short assets)

end Underflow

/-- A settlement pays redemptions out of what was idle before it, at most its whole basis, and both
of its roundings favour the holders that stay. None of its subtractions fails. -/
theorem settlement_never_dilutes {s : State} (reachable : Reachable s) :
    (∀ s', apply s .finalizeEpoch = .ok s' → ∃ (epoch : Epoch) (terms : EpochTerms),
      s.epoch = some epoch ∧ s'.epochs[epoch.id]? = some (.finalized terms) ∧
      settlementBasis s epoch = .ok terms.basis ∧
      terms.depositAssets = epoch.pendingDepositAssets ∧
      terms.redeemShares = epoch.pendingRedeemShares ∧
      terms.redeemAssets.raw ≤ terms.totalAssets.raw ∧
      terms.redeemAssets.raw ≤ s.buckets.idleBacking.raw ∧
      terms.mintedShares.raw * (terms.totalAssets.raw + terms.virtualAssets.raw) ≤
        terms.depositAssets.raw * (terms.totalSupply.raw + terms.virtualShares.raw) ∧
      terms.redeemAssets.raw * (terms.totalSupply.raw + terms.virtualShares.raw) ≤
        terms.redeemShares.raw * (terms.totalAssets.raw + terms.virtualAssets.raw) ∧
      (terms.totalAssets.raw + terms.virtualAssets.raw : Int) *
          (terms.totalSupply.raw + terms.mintedShares.raw - terms.redeemShares.raw +
            terms.virtualShares.raw) ≤
        (terms.totalAssets.raw - terms.redeemAssets.raw + terms.depositAssets.raw +
          terms.virtualAssets.raw) * (terms.totalSupply.raw + terms.virtualShares.raw)) ∧
    (∀ epoch : Epoch, s.epoch = some epoch → epoch.phase = .cutOff →
      apply s .finalizeEpoch ≠ .error .arithmeticUnderflow) := by
  refine ⟨?_, fun _ _ _ => finalizeEpoch_ne_underflow reachable⟩
  intro s' success
  obtain ⟨epoch, terms, owed, _, _, _, _, _, _, _, _, -, found, -, -, settled, -, idle, -, -, -, -, -,
    -, -, rfl⟩ := finalizeEpoch_ok success
  have collected := reachable.collected found
  obtain ⟨supply, virtualAssets, virtualShares⟩ := settled.totalSupply
  obtain ⟨one, offset⟩ := reachable.offsetInv.current epoch.id epoch.virtualAssets
    epoch.virtualShares (by rw [found]; rfl)
  have minted := (assetsToShares_ok.mp settled.mintedShares).2.2.2
  have redeemed := (sharesToAssets_ok.mp settled.redeemAssets).2.2.2
  have part : terms.redeemShares.raw ≤ terms.totalSupply.raw := by
    rw [settled.redeemShares, supply]
    exact collected.supplied
  have mint : terms.mintedShares.raw * terms.basis.wideAssets ≤
      terms.depositAssets.raw * terms.basis.wideShares := by
    rw [minted]
    exact Nat.div_mul_le_self _ _
  have pay : terms.redeemAssets.raw * terms.basis.wideShares ≤
      terms.redeemShares.raw * terms.basis.wideAssets := by
    rw [redeemed]
    exact Nat.div_mul_le_self _ _
  have within : terms.redeemAssets.raw ≤ terms.totalAssets.raw := by
    have wide : terms.basis.wideAssets = terms.totalAssets.raw + 1 := by
      show terms.totalAssets.raw + terms.virtualAssets.raw = _
      rw [virtualAssets, one]
      rfl
    rw [redeemed, wide]
    apply payout_le part
    show 0 < terms.virtualShares.raw
    rw [virtualShares, offset]
    exact s.offset_pos
  refine ⟨epoch, terms, found, OrderedMap.getElem?_insert_same _ _ _, settled.basis,
    settled.depositAssets, settled.redeemShares, within, idle, mint, pay, ?_⟩
  have price : terms.basis.wideAssets *
      (terms.totalSupply.raw + terms.mintedShares.raw - terms.redeemShares.raw +
        terms.virtualShares.raw) ≤
      (terms.totalAssets.raw - terms.redeemAssets.raw + terms.depositAssets.raw +
        terms.virtualAssets.raw) * terms.basis.wideShares := by
    apply settlement_price mint pay (Nat.le_refl _)
    · show _ = terms.totalAssets.raw + terms.virtualAssets.raw + _
      omega
    · show _ = terms.totalSupply.raw + terms.virtualShares.raw + _
      omega
  have burned : terms.redeemShares.raw ≤ terms.totalSupply.raw + terms.mintedShares.raw := by omega
  have wide := Int.ofNat_le.mpr price
  simpa only [PricingBasis.wideAssets, PricingBasis.wideShares, EpochTerms.basis, Int.natCast_mul,
    Int.natCast_add, Int.ofNat_sub burned, Int.ofNat_sub within] using wide

/-- A redemption of almost everything beside a deposit of fifty. -/
theorem settlement_never_dilutes_redeeming : ∃ (s s' : State) (epoch : Epoch) (terms : EpochTerms),
    Reachable s ∧ apply s .finalizeEpoch = .ok s' ∧ s.epoch = some epoch ∧
    s'.epochs[epoch.id]? = some (.finalized terms) ∧
    terms.redeemAssets.raw ≤ s.buckets.idleBacking.raw := by
  obtain ⟨s, reachable, settles⟩ := exists_reachable
    (fun s => (apply s .finalizeEpoch).toOption.any
      (fun s' => decide (s'.burnedRedemptionShares.raw = 899000000000000)) = true) sampleGenesis
    [.requestDeposit sampleHolder 900, .cutoffEpoch 100, .finalizeEpoch,
      .openNextEpoch 200, .claimDeposit sampleHolder .genesis,
      .requestRedeem sampleHolder 899000000000000,
      .requestDeposit 4 50, .cutoffEpoch 300]
    (by decide +kernel)
  obtain ⟨s', success, -⟩ := ok_of_any settles
  obtain ⟨epoch, terms, found, recorded, -, -, -, -, idle, -⟩ :=
    (settlement_never_dilutes reachable).1 s' success
  exact ⟨s, s', epoch, terms, reachable, success, found, recorded, idle⟩

end AccountingModel
