import CrossChainVault.Base.FloorSum
import CrossChainVault.Model.Shares
import CrossChainVault.Model.Valuation

set_option autoImplicit false

/- The share price between settlements. -/

namespace AccountingModel

open Result

/-- The broken accounting rule the price check reports. -/
inductive Violation
  | priceDecreased
deriving DecidableEq

/-- Compares each finalized epoch with the finalized epoch before it. -/
def checkPrices : Option EpochTerms → List EpochOutcome → Except Violation Unit
  | _, [] => .ok ()
  | earlier, .aborted _ :: outcomes => checkPrices earlier outcomes
  | earlier, .finalized terms :: outcomes =>
      if earlier.any (fun previous => !priceIsNonDecreasing previous.basis terms.basis) then
        .error .priceDecreased
      else checkPrices (some terms) outcomes

/-- Settlement rounds in favour of the vault, so the price can only rise; a state with a recorded
loss or impairment is not checked. -/
def checkPriceNeverFalls (s : State) : Except Violation Unit :=
  if !s.recognizedLoss.isZero || !s.inboundCumulativeLoss.isZero ||
      !s.cumulativeImpairment.isZero then .ok ()
  else checkPrices none (s.epochs.toList.map Prod.snd)

/-- No loss or impairment was ever recorded. -/
structure LossFree (s : State) : Prop where
  recognized : s.recognizedLoss.raw = 0
  inbound : s.inboundCumulativeLoss.raw = 0
  impairment : s.cumulativeImpairment.raw = 0

/-- False for an applied report that lowers the accepted value without reporting a loss. -/
def Operation.keepsValue (s : State) : Operation → Bool
  | .completeAllocation _ reported => s.closeRequested ||
      decide (s.buckets.acceptedRemoteValue.raw + s.activeAmount.raw ≤ reported.raw)
  | .applyRemoteValuation reported loss => s.closeRequested || s.activeCycle == .recall ||
      loss.raw != 0 || decide (s.buckets.acceptedRemoteValue.raw ≤ reported.raw)
  | _ => true

/-- The virtual share offset the configuration fixes. -/
def State.offset (s : State) : Nat :=
  10 ^ (s.config.shareDecimals.raw - s.config.assetDecimals.raw)

/-- Every epoch is priced with the same virtual amounts. -/
structure OffsetInv (s : State) : Prop where
  current : ∀ id assets shares, s.epoch.map Epoch.fixedPart = some (id, assets, shares) →
    assets = oneAsset ∧ shares.raw = s.offset
  settled : ∀ (id : EpochId) (terms : EpochTerms), s.epochs[id]? = some (.finalized terms) →
    terms.basis.wideAssets = terms.totalAssets.raw + 1 ∧
      terms.basis.wideShares = terms.totalSupply.raw + s.offset

theorem Settled.totalSupply {s : State} {epoch : Epoch} {terms : EpochTerms} {owed : Entitlements}
    (settled : Settled s epoch terms owed) : terms.totalSupply = s.totalShareSupply ∧
      terms.virtualAssets = epoch.virtualAssets ∧ terms.virtualShares = epoch.virtualShares := by
  obtain ⟨basis, -⟩ := settlementBasis_ok settled.basis
  have supply := congrArg PricingBasis.totalSupply basis
  have assets := congrArg PricingBasis.virtualAssets basis
  have shares := congrArg PricingBasis.virtualShares basis
  exact ⟨supply, assets, shares⟩

theorem OffsetInv.step {s s' : State} {op : Operation} (success : apply s op = .ok s')
    (inv : OffsetInv s) : OffsetInv s' := by
  obtain ⟨config, change⟩ := epochChange success
  have offset : s'.offset = s.offset := by rw [State.offset, State.offset, config]
  constructor
  · intro id assets shares found
    rw [offset]
    cases change with
    | same outcomes next current => exact inv.current id assets shares (current ▸ found)
    | opened virtualShares closed outcomes next computed current =>
        rw [current] at found
        cases found
        exact ⟨rfl, (virtualSharesFor_ok computed).2⟩
    | finalized _ _ _ _ _ _ _ _ current _ => simp [current] at found
    | aborted _ _ _ _ _ _ current => simp [current] at found
  · intro id terms found
    rw [offset]
    cases change with
    | same outcomes => exact inv.settled id terms (outcomes ▸ found)
    | opened _ _ outcomes => exact inv.settled id terms (outcomes ▸ found)
    | finalized epoch written owed here _ settled outcomes =>
        rw [outcomes, OrderedMap.getElem?_insert] at found
        split at found
        · cases found
          obtain ⟨-, assets, shares⟩ := settled.totalSupply
          obtain ⟨one, offset⟩ := inv.current epoch.id _ _ (by rw [here]; rfl)
          refine ⟨?_, ?_⟩
          · rw [PricingBasis.wideAssets, EpochTerms.basis]
            dsimp only
            rw [assets, one]
            rfl
          · rw [PricingBasis.wideShares, EpochTerms.basis]
            dsimp only
            rw [shares, offset]
        · exact inv.settled id terms found
    | aborted _ _ _ _ outcomes =>
        rw [outcomes, OrderedMap.getElem?_insert] at found
        split at found
        · cases found
        · exact inv.settled id terms found

theorem OffsetInv.new {genesis : Genesis} {s : State} (success : State.new genesis = .ok s) :
    OffsetInv s := by
  obtain ⟨_, _, _, _, _, computed, -, -, -, rfl⟩ := State.new_ok success
  constructor
  · rintro _ _ _ found
    cases found
    exact ⟨rfl, (virtualSharesFor_ok computed).2⟩
  · intro id terms found
    simp [State.atGenesis] at found

/-- A valuation is locked only for an epoch that has been current. -/
structure CycleInv (s : State) : Prop where
  unwinding : RecallInv s
  locks : ∀ (id : EpochId), s.epochValuationLocked[id]?.isSome →
    s.epochs[id]?.isSome ∨ s.epoch.map Epoch.id = some id

theorem CycleInv.step {s s' : State} {op : Operation} (success : apply s op = .ok s')
    (assets : AssetInv s) (inv : CycleInv s) : CycleInv s' := by
  refine ⟨inv.unwinding.step success assets, ?_⟩
  intro id locked
  cases lockChange success with
  | locked epoch found phase unlocked now =>
      subst now
      rw [OrderedMap.getElem?_insert] at locked
      split at locked
      · rename_i here
        exact .inr (by dsimp only; rw [found, ← here]; rfl)
      · exact inv.locks id locked
  | same locks =>
      rw [locks] at locked
      have before := inv.locks id locked
      have settledNow {epoch : Epoch} {outcome : EpochOutcome} (found : s.epoch = some epoch)
          (outcomes : s'.epochs = s.epochs.insert epoch.id outcome) : s'.epochs[id]?.isSome := by
        rw [outcomes, OrderedMap.getElem?_insert]
        split
        · rfl
        · rename_i other
          rcases before with settled | current
          · exact settled
          · rw [found] at current
            exact (other (Option.some.inj current)).elim
      cases (epochChange success).2 with
      | same outcomes next current =>
          have ids := congrArg (Option.map Prod.fst) current
          simp only [Option.map_map] at ids
          rw [outcomes]
          exact before.imp_right ids.trans
      | opened _ closed outcomes =>
          rcases before with settled | current
          · exact .inl (outcomes ▸ settled)
          · simp [closed] at current
      | finalized epoch terms owed found _ _ outcomes => exact .inl (settledNow found outcomes)
      | aborted epoch terms found _ outcomes => exact .inl (settledNow found outcomes)

theorem CycleInv.new {genesis : Genesis} {s : State} (success : State.new genesis = .ok s) :
    CycleInv s := by
  refine ⟨RecallInv.new success, ?_⟩
  obtain ⟨_, _, _, _, _, -, -, -, -, rfl⟩ := State.new_ok success
  intro id locked
  simp [State.atGenesis] at locked

/-- What one operation can do to the loss counters: they never fall. -/
theorem LossFree.of_step {s s' : State} {op : Operation} (success : apply s op = .ok s')
    (after : LossFree s') : LossFree s := by
  obtain ⟨recognized, inbound, impairment⟩ := after
  cases op with
  | finalizeEpoch =>
      obtain ⟨_, _, _, _, _, _, _, _, _, _, _, -, -, -, -, -, -, -, -, -, -, -, -, -, -, rfl⟩ :=
        finalizeEpoch_ok success
      exact ⟨recognized, inbound, impairment⟩
  | beginAllocate actor transferId amount =>
      obtain ⟨_, _, _, -, -, -, -, -, -, -, -, -, -, rfl⟩ := beginAllocate_ok success
      exact ⟨recognized, inbound, impairment⟩
  | completeAllocation transferId reported =>
      obtain ⟨-, rfl⟩ | ⟨_, _, -, -, -, -, -, rfl⟩ := completeAllocation_ok success
      · exact ⟨recognized, inbound, impairment⟩
      · exact ⟨recognized, inbound, impairment⟩
  | beginRecall actor transferId amount =>
      obtain ⟨-, -, -, -, -, -, rfl⟩ := beginRecall_ok success
      exact ⟨recognized, inbound, impairment⟩
  | acceptRecallSent transferId principal actual loss =>
      obtain ⟨settledLoss, _, _, _, _, _, _, -, -, -, -, -, -, -, hRecognized, -, -, -, rfl⟩ :=
        acceptRecallSent_iff.mp success
      simp only [clearCycle] at recognized inbound impairment
      refine ⟨by omega, ?_, impairment⟩
      split at inbound
      · rename_i larger
        rw [Unsigned.lt_def] at larger
        omega
      · exact inbound
  | observeInbound amount =>
      obtain ⟨_, _, _, _, _, -, -, -, -, -, -, rfl⟩ := observeInbound_iff.mp success
      exact ⟨recognized, inbound, impairment⟩
  | applyRemoteValuation reported loss =>
      obtain ⟨_, hCumulative, ⟨-, rfl⟩ | ⟨-, rfl⟩⟩ := applyRemoteValuation_ok success
      · exact ⟨recognized, by dsimp only at inbound; omega, impairment⟩
      · exact ⟨recognized, by dsimp only at inbound; omega, impairment⟩
  | lockRemoteValuation =>
      obtain ⟨-, rfl⟩ | ⟨_, -, -, -, -, rfl⟩ := lockRemoteValuation_ok success
      · exact ⟨recognized, inbound, impairment⟩
      · exact ⟨recognized, inbound, impairment⟩
  | requestClose actor transferId =>
      obtain ⟨-, -, -, -, rfl⟩ := requestClose_ok success
      exact ⟨recognized, inbound, impairment⟩
  | settleClose transferId credited =>
      obtain ⟨_, _, _, _, _, -, -, -, -, -, -, -, -, hCumulative, rfl⟩ := settleClose_ok success
      refine ⟨recognized, inbound, ?_⟩
      simp only [clearCycle] at impairment
      omega
  | beginRecover actor transferId =>
      obtain ⟨-, -, -, -, -, rfl⟩ := beginRecover_ok success
      exact ⟨recognized, inbound, impairment⟩
  | settleRecover transferId credited =>
      obtain ⟨_, _, _, -, -, -, -, -, rfl⟩ := settleRecover_ok success
      exact ⟨recognized, inbound, impairment⟩
  | _ =>
      have kept := remoteKept success rfl
      rw [kept.recognizedLoss] at recognized
      rw [kept.inboundLoss] at inbound
      rw [kept.cumulativeImpairment] at impairment
      exact ⟨recognized, inbound, impairment⟩

/-- Without a recorded loss, and without a report that marks value down, the backing of the price
falls only by what a settlement pays out. -/
theorem backing_grows {s s' : State} {op : Operation} (success : apply s op = .ok s')
    (fair : op.keepsValue s = true) (after : LossFree s') (assets : AssetInv s) (cycle : CycleInv s)
    (between : op ≠ .finalizeEpoch) : s.backing ≤ s'.backing := by
  have accepted := assets.accepted
  cases op with
  | finalizeEpoch => exact (between rfl).elim
  | beginAllocate actor transferId amount =>
      obtain ⟨_, _, _, -, -, -, -, -, -, -, -, hIdle, hOutbound, rfl⟩ := beginAllocate_ok success
      simp only [State.backing]
      omega
  | completeAllocation transferId reported =>
      obtain ⟨-, rfl⟩ | ⟨_, _, running, -, -, hOutbound, hCap, rfl⟩ :=
        completeAllocation_ok success
      · exact Nat.le_refl _
      · have enough : s.buckets.acceptedRemoteValue.raw + s.activeAmount.raw ≤ reported.raw :=
          by simpa [Operation.keepsValue, running] using fair
        simp only [State.backing, clearCycle, lesser_raw]
        omega
  | beginRecall actor transferId amount =>
      obtain ⟨-, -, -, -, -, -, rfl⟩ := beginRecall_ok success
      exact Nat.le_refl _
  | acceptRecallSent transferId principal actual loss =>
      obtain ⟨_, _, _, _, _, _, _, recalling, -, -, hPrincipal, -, -, hAccepted, hRecognized, -,
        hIdle, hInbound, rfl⟩ := acceptRecallSent_iff.mp success
      have baseline := cycle.unwinding.baseline recalling
      have recognized := after.recognized
      simp only [State.backing, clearCycle] at recognized ⊢
      omega
  | observeInbound amount =>
      obtain ⟨_, _, _, _, _, -, hInbound, hIdle, -, -, -, rfl⟩ := observeInbound_iff.mp success
      simp only [State.backing]
      omega
  | applyRemoteValuation reported loss =>
      obtain ⟨cumulative, hCumulative, ⟨-, rfl⟩ | ⟨running, rfl⟩⟩ :=
        applyRemoteValuation_ok success
      · exact Nat.le_refl _
      · have noLoss : cumulative.raw = 0 := after.inbound
        have moved : s.buckets.acceptedRemoteValue.raw ≤
            (reportedOrRecallValue s reported cumulative).raw := by
          unfold reportedOrRecallValue
          split
          · rename_i recalling
            have baseline := cycle.unwinding.baseline recalling
            simp only [valueDuringRecall, Unsigned.saturatingSub_raw]
            omega
          · rename_i elsewhere
            have zero : loss.raw = 0 := by omega
            simpa [Operation.keepsValue, running, elsewhere, zero] using fair
        simp only [State.backing, lesser_raw]
        omega
  | lockRemoteValuation =>
      obtain ⟨-, rfl⟩ | ⟨_, -, -, -, -, rfl⟩ := lockRemoteValuation_ok success
      · exact Nat.le_refl _
      · exact Nat.le_refl _
  | requestClose actor transferId =>
      obtain ⟨-, -, -, -, rfl⟩ := requestClose_ok success
      exact Nat.le_refl _
  | settleClose transferId credited =>
      obtain ⟨_, _, _, _, _, -, -, -, hCredited, hOutbound, hCap, hAccepted, -, hCumulative, rfl⟩ :=
        settleClose_ok success
      have impairment := after.impairment
      simp only [State.backing, clearCycle] at impairment ⊢
      omega
  | beginRecover actor transferId =>
      obtain ⟨-, -, -, -, -, rfl⟩ := beginRecover_ok success
      exact Nat.le_refl _
  | settleRecover transferId credited =>
      obtain ⟨_, _, _, -, -, -, hCap, hAccepted, rfl⟩ := settleRecover_ok success
      simp only [State.backing, clearCycle]
      omega
  | _ =>
      have kept := remoteKept success rfl
      simp only [State.backing, kept.idle, kept.outbound, kept.accepted, kept.inbound]
      exact Nat.le_refl _

/-- The price of a basis is at most `assets` per `shares`, cross-multiplied. -/
def EpochTerms.AtMost (terms : EpochTerms) (assets shares : Nat) : Prop :=
  terms.basis.wideAssets * shares ≤ assets * terms.basis.wideShares

/-- The live price, and the locked one of the current epoch, are at least every price the vault
ever settled at. -/
structure PriceInv (s : State) : Prop where
  rising : ∀ (id : EpochId) (terms : EpochTerms), s.epochs[id]? = some (.finalized terms) →
    terms.AtMost (s.backing + 1) (s.totalShareSupply.raw + s.offset)
  locked : ∀ (id : EpochId) (value : AssetAmount), s.epoch.map Epoch.id = some id →
    s.epochValuationLocked[id]? = some value → value.raw ≤ s.backing ∧
      ∀ (earlier : EpochId) (terms : EpochTerms), s.epochs[earlier]? = some (.finalized terms) →
        terms.AtMost (value.raw + 1) (s.totalShareSupply.raw + s.offset)
  ordered : ∀ (i j : EpochId) (earlier later : EpochTerms), i.raw < j.raw →
    s.epochs[i]? = some (.finalized earlier) → s.epochs[j]? = some (.finalized later) →
    earlier.AtMost later.basis.wideAssets later.basis.wideShares

theorem EpochTerms.AtMost.mono {terms : EpochTerms} {assets assets' shares : Nat}
    (most : terms.AtMost assets shares) (more : assets ≤ assets') : terms.AtMost assets' shares :=
  Nat.le_trans most (Nat.mul_le_mul_right _ more)

section Between

variable {s s' : State} {op : Operation}

private theorem finalized_before (success : apply s op = .ok s') (between : op ≠ .finalizeEpoch)
    {id : EpochId} {terms : EpochTerms} (found : s'.epochs[id]? = some (.finalized terms)) :
    s.epochs[id]? = some (.finalized terms) := by
  cases (epochChange success).2 with
  | same outcomes => rwa [outcomes] at found
  | opened _ _ outcomes => rwa [outcomes] at found
  | finalized _ _ _ _ _ _ _ _ _ settlement => exact (between settlement).elim
  | aborted _ _ _ _ outcomes =>
      rw [outcomes, OrderedMap.getElem?_insert] at found
      split at found
      · cases found
      · exact found

/-- Between settlements the price rises with the backing, and a lock records the live price. -/
theorem PriceInv.step_between (success : apply s op = .ok s') (between : op ≠ .finalizeEpoch)
    (grows : s.backing ≤ s'.backing) (assets : AssetInv s) (order : EpochOrder s)
    (cycle : CycleInv s) (inv : PriceInv s) : PriceInv s' := by
  have supply := supply_unchanged success between
  have offset : s'.offset = s.offset := by
    rw [State.offset, State.offset, (epochChange success).1]
  constructor
  case rising =>
    intro id terms found
    rw [supply, offset]
    exact (inv.rising id terms (finalized_before success between found)).mono
      (Nat.succ_le_succ grows)
  case ordered =>
    intro i j earlier later below foundI foundJ
    exact inv.ordered i j earlier later below (finalized_before success between foundI)
      (finalized_before success between foundJ)
  case locked =>
    intro id value current locked
    rw [supply, offset]
    have carry (bounded : value.raw ≤ s.backing ∧ ∀ (earlier : EpochId) (terms : EpochTerms),
        s.epochs[earlier]? = some (.finalized terms) →
        terms.AtMost (value.raw + 1) (s.totalShareSupply.raw + s.offset)) :
        value.raw ≤ s'.backing ∧ ∀ (earlier : EpochId) (terms : EpochTerms),
          s'.epochs[earlier]? = some (.finalized terms) →
          terms.AtMost (value.raw + 1) (s.totalShareSupply.raw + s.offset) :=
      ⟨Nat.le_trans bounded.1 grows, fun earlier terms found =>
        bounded.2 earlier terms (finalized_before success between found)⟩
    cases lockChange success with
    | locked epoch found phase unlocked now =>
        subst now
        rw [OrderedMap.getElem?_insert] at locked
        split at locked
        · cases locked
          refine carry ⟨by rw [assets.managedBacking_raw], ?_⟩
          rw [assets.managedBacking_raw]
          exact inv.rising
        · exact carry (inv.locked id value current locked)
    | same locks =>
        rw [locks] at locked
        cases (epochChange success).2 with
        | same outcomes next before =>
            have ids := congrArg (Option.map Prod.fst) before
            simp only [Option.map_map] at ids
            exact carry (inv.locked id value (ids.symm.trans current) locked)
        | opened _ closed outcomes next _ opened =>
            -- A fresh epoch has no lock: locks belong to settled epochs or the one before.
            have fresh : s.nextEpochId = id := by
              have ids := congrArg (Option.map Prod.fst) opened
              simp only [Option.map_map] at ids
              exact Option.some.inj (ids.symm.trans current)
            rcases cycle.locks id (by rw [locked]; rfl) with settled | open_
            · have below := order.settledBelowNext id settled
              rw [fresh] at below
              exact (Nat.lt_irrefl _ below).elim
            · simp [closed] at open_
        | finalized _ _ _ _ _ _ _ _ _ settlement => exact (between settlement).elim
        | aborted _ _ _ _ _ _ closed => simp [closed] at current

end Between

theorem State.offset_pos (s : State) : 0 < s.offset := Nat.pow_pos (by decide)

/-- A settlement prices at or below the live price and rounds both ways in favour of the vault. -/
theorem PriceInv.step_settlement {s s' : State} (success : apply s .finalizeEpoch = .ok s')
    (assets : AssetInv s) (order : EpochOrder s) (offsets : OffsetInv s) (inv : PriceInv s) :
    PriceInv s' := by
  have offsets' := offsets.step success
  obtain ⟨epoch, terms, owed, idle, _, _, supply, _, _, _, _, -, found, -, unsettled, settled,
    hIdle, -, -, -, hSupply, -, -, -, -, rfl⟩ := finalizeEpoch_ok success
  obtain ⟨wideAssets, wideShares⟩ := offsets'.settled epoch.id terms
    (OrderedMap.getElem?_insert_same _ _ _)
  have shares : terms.basis.wideShares = s.totalShareSupply.raw + s.offset := by
    rw [wideShares, settled.totalSupply.1]
    rfl
  -- The recorded basis is bounded by the live backing and is at least every earlier price.
  have basis : terms.totalAssets.raw ≤ s.backing ∧ ∀ (id : EpochId) (earlier : EpochTerms),
      s.epochs[id]? = some (.finalized earlier) →
      earlier.AtMost terms.basis.wideAssets terms.basis.wideShares := by
    rw [wideAssets, shares]
    obtain ⟨-, ⟨-, locked⟩ | ⟨-, live⟩⟩ := settlementBasis_ok settled.basis
    · exact inv.locked epoch.id _ (by rw [found]; rfl) locked
    · have value : terms.totalAssets.raw = s.backing := by
        rw [← assets.managedBacking_raw]
        exact congrArg Unsigned.raw live
      rw [value]
      exact ⟨Nat.le_refl _, inv.rising⟩
  have ahead : terms.AtMost (idle.raw + s.buckets.outboundInTransit.raw +
      s.buckets.acceptedRemoteValue.raw + s.buckets.inboundInTransit.raw + 1)
      (supply.raw + s.offset) := by
    have minted := (assetsToShares_ok.mp settled.mintedShares).2.2.2
    have redeemed := (sharesToAssets_ok.mp settled.redeemAssets).2.2.2
    have mint : terms.mintedShares.raw * terms.basis.wideAssets ≤
        epoch.pendingDepositAssets.raw * terms.basis.wideShares := by
      rw [minted, settled.depositAssets]
      exact Nat.div_mul_le_self _ _
    have pay : terms.redeemAssets.raw * terms.basis.wideShares ≤
        epoch.pendingRedeemShares.raw * terms.basis.wideAssets := by
      rw [redeemed, settled.redeemShares]
      exact Nat.div_mul_le_self _ _
    have backed : terms.basis.wideAssets ≤ s.backing + 1 := by
      rw [wideAssets]
      exact Nat.succ_le_succ basis.1
    refine settlement_price mint pay backed ?_ ?_
    · unfold State.backing
      omega
    · rw [shares]
      omega
  have positive : 0 < terms.basis.wideShares := by
    rw [shares]
    exact Nat.add_pos_right _ s.offset_pos
  constructor
  case locked => exact fun _ _ impossible => by cases impossible
  case rising =>
    intro id earlier recorded
    rw [OrderedMap.getElem?_insert] at recorded
    split at recorded
    · cases recorded
      exact ahead
    · exact price_trans positive (basis.2 id earlier recorded) ahead
  case ordered =>
    intro i j earlier later below foundI foundJ
    rw [OrderedMap.getElem?_insert] at foundI foundJ
    split at foundJ
    · cases foundJ
      split at foundI
      · rename_i hereJ hereI
        rw [← hereI, hereJ] at below
        exact (Nat.lt_irrefl _ below).elim
      · exact basis.2 i earlier foundI
    · split at foundI
      · rename_i hereI
        have settledJ := order.settledBelowCurrent epoch j found (by rw [foundJ]; rfl)
        rw [hereI] at settledJ
        exact (Nat.lt_asymm below settledJ).elim
      · exact inv.ordered i j earlier later below foundI foundJ

theorem PriceInv.new {genesis : Genesis} {s : State} (success : State.new genesis = .ok s) :
    PriceInv s := by
  obtain ⟨_, _, _, _, _, -, -, -, -, rfl⟩ := State.new_ok success
  constructor
  · intro id terms found
    simp [State.atGenesis] at found
  · intro id value _ locked
    simp [State.atGenesis] at locked
  · intro i j earlier later _ found
    simp [State.atGenesis] at found

/-- Everything the price argument carries along a run. -/
structure PriceRun (s : State) : Prop where
  assets : AssetInv s
  order : EpochOrder s
  offsets : OffsetInv s
  cycle : CycleInv s
  price : LossFree s → PriceInv s

theorem PriceRun.step {s s' : State} {op : Operation} (fair : op.keepsValue s = true)
    (success : apply s op = .ok s') (run : PriceRun s) : PriceRun s' := by
  refine ⟨run.assets.step success, run.order.step success, run.offsets.step success,
    run.cycle.step success run.assets, fun after => ?_⟩
  have price := run.price (after.of_step success)
  by_cases settlement : op = .finalizeEpoch
  · subst settlement
    exact price.step_settlement success run.assets run.order run.offsets
  · exact price.step_between success settlement
      (backing_grows success fair after run.assets run.cycle settlement) run.assets run.order
      run.cycle

/-- The check passes on outcomes whose finalized terms are in price order. -/
theorem checkPrices_ok (outcomes : List EpochOutcome) : ∀ (earlier : Option EpochTerms),
    (∀ previous ∈ earlier, ∀ terms, .finalized terms ∈ outcomes →
      previous.AtMost terms.basis.wideAssets terms.basis.wideShares) →
    outcomes.Pairwise (fun first second => ∀ earlier later, first = .finalized earlier →
      second = .finalized later →
      earlier.AtMost later.basis.wideAssets later.basis.wideShares) →
    checkPrices earlier outcomes = .ok () := by
  induction outcomes with
  | nil => exact fun _ _ _ => rfl
  | cons outcome outcomes ih =>
      intro earlier before ordered
      obtain ⟨head, tail⟩ := List.pairwise_cons.mp ordered
      cases outcome with
      | aborted terms =>
          exact ih earlier (fun previous known later member =>
            before previous known later (List.mem_cons_of_mem _ member)) tail
      | finalized terms =>
          unfold checkPrices
          rw [if_neg]
          · refine ih (some terms) ?_ tail
            intro previous known later member
            cases Option.mem_some.mp known
            exact head _ member terms later rfl rfl
          · cases earlier with
            | none => simp
            | some previous =>
                have priced := before previous rfl terms List.mem_cons_self
                simp only [Option.any_some, priceIsNonDecreasing, Bool.not_eq_true',
                  decide_eq_false_iff_not, not_not]
                exact priced

/-- While no loss or impairment is recorded and no applied report marks value down, the price of
every settlement is at least the price of each earlier one, and the price check passes. -/
theorem price_never_falls {genesis : Genesis} {start s : State} {operations : List Operation}
    (created : State.new genesis = .ok start)
    (run : Run.RunWhen apply (fun s op => op.keepsValue s = true) start operations s)
    (lossFree : LossFree s) :
    (∀ (i j : EpochId) (earlier later : EpochTerms), i.raw < j.raw →
      s.epochs[i]? = some (.finalized earlier) → s.epochs[j]? = some (.finalized later) →
      (earlier.totalAssets.raw + earlier.virtualAssets.raw) *
          (later.totalSupply.raw + later.virtualShares.raw) ≤
        (later.totalAssets.raw + later.virtualAssets.raw) *
          (earlier.totalSupply.raw + earlier.virtualShares.raw)) ∧
    checkPriceNeverFalls s = .ok () := by
  have invariant := run.preserves PriceRun (fun _ _ _ => PriceRun.step)
    ⟨AssetInv.new created, EpochOrder.new created, OffsetInv.new created, CycleInv.new created,
      fun _ => PriceInv.new created⟩
  have price := invariant.price lossFree
  refine ⟨price.ordered, ?_⟩
  unfold checkPriceNeverFalls
  rw [if_neg (by simp [lossFree.recognized, lossFree.inbound, lossFree.impairment])]
  refine checkPrices_ok _ none (fun _ impossible => by cases impossible) ?_
  rw [List.pairwise_map]
  refine s.epochs.ordered_keys_toList.imp_of_mem ?_
  rintro ⟨i, _⟩ ⟨j, _⟩ memberI memberJ below earlier later rfl rfl
  rw [Std.ExtTreeMap.mem_toList_iff_getElem?_eq_some] at memberI memberJ
  exact price.ordered i j earlier later (Nat.compare_eq_lt.mp below) memberI memberJ

/-- An allocation completes, and the next epoch is valued, locked and settled. -/
def sampleValued (reported : AssetAmount) : List Operation :=
  sampleAllocation ++ [.completeAllocation sampleTransfer reported, .cutoffEpoch 300,
    .lockRemoteValuation, .finalizeEpoch]

/-- At a full report the two settlements pass the check. -/
theorem price_never_falls_at_par : ∃ s, Reachable s ∧ LossFree s ∧ s.epochs.size = 2 ∧
    checkPriceNeverFalls s = .ok () := by
  have accepted : (do
      let start ← State.new sampleGenesis
      let s ← Run.run (Run.guarded apply (fun s op => op.keepsValue s) .invalidVaultState) start
        (sampleValued 400)
      pure (start, s)).toOption.any (fun pair : State × State =>
        pair.2.epochs.size = 2 && pair.2.recognizedLoss.isZero &&
          pair.2.inboundCumulativeLoss.isZero && pair.2.cumulativeImpairment.isZero) = true := by
    decide +kernel
  obtain ⟨⟨start, s⟩, result, holds⟩ := ok_of_any accepted
  simp only [bind_eq_ok, pure_eq_ok, Prod.mk.injEq] at result
  obtain ⟨_, created, _, finished, rfl, rfl⟩ := result
  simp only [Bool.and_eq_true, decide_eq_true_eq, Unsigned.isZero_iff] at holds
  obtain ⟨⟨⟨two, recognized⟩, inbound⟩, impairment⟩ := holds
  have run := Run.RunWhen.of_guarded _ _ finished
  exact ⟨_, ⟨sampleGenesis, _, _, created, run.accepted⟩, ⟨recognized, inbound, impairment⟩, two,
    (price_never_falls created run ⟨recognized, inbound, impairment⟩).2⟩

/-- A completion that reports nothing of the allocation lowers the price, and no counter records
it. -/
theorem price_falls_unrecorded : ∃ s, Reachable s ∧ s.recognizedLoss.raw = 0 ∧
    s.inboundCumulativeLoss.raw = 0 ∧ s.cumulativeImpairment.raw = 0 ∧
    checkPriceNeverFalls s = .error .priceDecreased :=
  exists_reachable (fun s => s.recognizedLoss.raw = 0 ∧ s.inboundCumulativeLoss.raw = 0 ∧
      s.cumulativeImpairment.raw = 0 ∧ checkPriceNeverFalls s = .error .priceDecreased)
    sampleGenesis (sampleValued .zero) (by decide +kernel)

end AccountingModel
