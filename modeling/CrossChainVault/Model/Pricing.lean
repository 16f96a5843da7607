import CrossChainVault.Base.Result

set_option autoImplicit false

/- The reference model's numbers: amounts, identifiers, rejections and the share price. -/

namespace AccountingModel

open Result

/-- Reason a transition was refused. -/
inductive Rejection
  | invalidVaultState
  | epochNotOpen
  | epochAlreadyOpen
  | cutoffNotReached
  | epochAlreadyCutOff
  | epochNotCutOff
  | epochAlreadyFinalized
  | epochNotFinalized
  | epochNotAborted
  | requestNotFound
  | requestAlreadyCancelled
  | requestAlreadySettled
  | claimNotFound
  | claimAlreadyConsumed
  | cancellationAfterCutoff
  | zeroAmount
  | amountBelowMinimum
  | insufficientAssetBalance
  | insufficientShareBalance
  | insufficientRedemptionLiquidity
  | arithmeticOverflow
  | arithmeticUnderflow
  | divisionByZero
  | unauthorizedActor
  | invalidConfiguration
  | duplicateAccount
  | timestampNotMonotonic
  | activeTransferExists
  | noActiveTransfer
  | transferIdReused
  | insufficientRemotePrincipal
  | invalidRecallSentAmounts
  | remoteValuationRequired
  | valuationAlreadyFixed
  | allocateNotAllowed
  | invalidAssetAttribution
  | closeAlreadyRequested
  | noPendingSettlement
  | nothingToRecover
  | settlementMismatch
deriving DecidableEq, Repr

/-- Raw amount of the underlying asset, in the smallest asset unit. -/
abbrev AssetAmount := Unsigned 128

/-- Raw amount of vault shares, in the smallest share unit. -/
abbrev ShareAmount := Unsigned 128

abbrev EpochId := Unsigned 64

abbrev AccountId := Unsigned 64

abbrev Timestamp := Unsigned 64

abbrev ConfigVersion := Unsigned 32

/-- Identity of one cross-chain transfer: a 32-byte string read as a number. -/
abbrev TransferId := Unsigned 256

def EpochId.genesis : EpochId := .zero

section Arithmetic

variable {bits : Nat}

def checkedAdd (a b : Unsigned bits) : Except Rejection (Unsigned bits) :=
  a.checkedAdd b .arithmeticOverflow

def checkedSub (a b : Unsigned bits) : Except Rejection (Unsigned bits) :=
  a.checkedSub b .arithmeticUnderflow

@[simp] theorem checkedAdd_ok {a b c : Unsigned bits} :
    checkedAdd a b = .ok c ↔ c.raw = a.raw + b.raw :=
  Unsigned.checkedAdd_eq_ok

@[simp] theorem checkedSub_ok {a b c : Unsigned bits} :
    checkedSub a b = .ok c ↔ c.raw + b.raw = a.raw :=
  Unsigned.checkedSub_eq_ok

@[simp] theorem checkedAdd_ne_underflow {a b : Unsigned bits} :
    checkedAdd a b ≠ .error .arithmeticUnderflow := by
  unfold checkedAdd Unsigned.checkedAdd
  split <;> simp

theorem checkedSub_underflows {a b : Unsigned bits} :
    checkedSub a b = .error .arithmeticUnderflow ↔ a.raw < b.raw := by
  simp only [checkedSub, Unsigned.checkedSub_eq_error, and_true]

end Arithmetic

def oneAsset : AssetAmount := 1

def EpochId.next (id : EpochId) : Except Rejection EpochId := checkedAdd id 1

/-- Pricing basis captured before any settlement changes the vault. -/
structure PricingBasis where
  totalAssets : AssetAmount
  totalSupply : ShareAmount
  virtualAssets : AssetAmount
  virtualShares : ShareAmount
deriving DecidableEq

namespace PricingBasis

def assetSide (basis : PricingBasis) : Except Rejection (Unsigned 128) :=
  checkedAdd basis.totalAssets basis.virtualAssets

def shareSide (basis : PricingBasis) : Except Rejection (Unsigned 128) :=
  checkedAdd basis.totalSupply basis.virtualShares

/-- The asset side of the price over unbounded integers. -/
def wideAssets (basis : PricingBasis) : Nat := basis.totalAssets.raw + basis.virtualAssets.raw

/-- The share side of the price over unbounded integers. -/
def wideShares (basis : PricingBasis) : Nat := basis.totalSupply.raw + basis.virtualShares.raw

end PricingBasis

/-- Floor of `a * b / denominator`. The product of two 128-bit values always fits the
256-bit intermediate, so only the quotient can overflow. -/
def mulDivFloor (a b denominator : Unsigned 128) : Except Rejection (Unsigned 128) :=
  if denominator.raw = 0 then .error .divisionByZero
  else if fits : a.raw * b.raw / denominator.raw < 2 ^ 128 then
    .ok ⟨a.raw * b.raw / denominator.raw, fits⟩
  else .error .arithmeticOverflow

/-- Converts assets to shares, rounding down. -/
def assetsToShares (assets : AssetAmount) (basis : PricingBasis) :
    Except Rejection ShareAmount := do
  let shareSide ← basis.shareSide
  let assetSide ← basis.assetSide
  mulDivFloor assets shareSide assetSide

/-- Converts shares to assets, rounding down. -/
def sharesToAssets (shares : ShareAmount) (basis : PricingBasis) :
    Except Rejection AssetAmount := do
  let assetSide ← basis.assetSide
  let shareSide ← basis.shareSide
  mulDivFloor shares assetSide shareSide

/-- Compares two prices by cross multiplication. The 512-bit products cannot overflow. -/
def priceIsNonDecreasing (earlier later : PricingBasis) : Bool :=
  decide (earlier.wideAssets * later.wideShares ≤ later.wideAssets * earlier.wideShares)

/-- Virtual share offset for the configured decimal difference. -/
def virtualSharesFor (assetDecimals shareDecimals : Unsigned 8) : Except Rejection ShareAmount := do
  let difference ← shareDecimals.checkedSub assetDecimals .invalidConfiguration
  if fits : 10 ^ difference.raw < 2 ^ 128 then .ok ⟨10 ^ difference.raw, fits⟩
  else .error .invalidConfiguration

@[simp] theorem mulDivFloor_ok {a b denominator c : Unsigned 128} :
    mulDivFloor a b denominator = .ok c ↔
      denominator.raw ≠ 0 ∧ c.raw = a.raw * b.raw / denominator.raw := by
  unfold mulDivFloor
  split
  · rename_i zero
    simp [zero]
  · rename_i nonzero
    split
    · simp [nonzero, ← Unsigned.raw_inj, eq_comm]
    · rename_i overflow
      have := c.bound
      constructor
      · intro impossible
        cases impossible
      · rintro ⟨-, same⟩
        omega

theorem assetsToShares_ok {assets : AssetAmount} {basis : PricingBasis} {shares : ShareAmount} :
    assetsToShares assets basis = .ok shares ↔
      basis.wideAssets < 2 ^ 128 ∧ basis.wideShares < 2 ^ 128 ∧ 0 < basis.wideAssets ∧
        shares.raw = assets.raw * basis.wideShares / basis.wideAssets := by
  simp only [assetsToShares, PricingBasis.shareSide, PricingBasis.assetSide, bind_eq_ok,
    checkedAdd_ok, mulDivFloor_ok]
  constructor
  · rintro ⟨shareSide, hShare, assetSide, hAsset, nonzero, value⟩
    have := shareSide.bound
    have := assetSide.bound
    unfold PricingBasis.wideAssets PricingBasis.wideShares
    rw [← hShare, ← hAsset]
    exact ⟨by omega, by omega, by omega, value⟩
  · rintro ⟨assetsFit, sharesFit, positive, value⟩
    exact ⟨⟨_, sharesFit⟩, rfl, ⟨_, assetsFit⟩, rfl, Nat.ne_of_gt positive, value⟩

theorem sharesToAssets_ok {shares : ShareAmount} {basis : PricingBasis} {assets : AssetAmount} :
    sharesToAssets shares basis = .ok assets ↔
      basis.wideAssets < 2 ^ 128 ∧ basis.wideShares < 2 ^ 128 ∧ 0 < basis.wideShares ∧
        assets.raw = shares.raw * basis.wideAssets / basis.wideShares := by
  simp only [sharesToAssets, PricingBasis.shareSide, PricingBasis.assetSide, bind_eq_ok,
    checkedAdd_ok, mulDivFloor_ok]
  constructor
  · rintro ⟨assetSide, hAsset, shareSide, hShare, nonzero, value⟩
    have := shareSide.bound
    have := assetSide.bound
    unfold PricingBasis.wideAssets PricingBasis.wideShares
    rw [← hShare, ← hAsset]
    exact ⟨by omega, by omega, by omega, value⟩
  · rintro ⟨assetsFit, sharesFit, positive, value⟩
    exact ⟨⟨_, assetsFit⟩, rfl, ⟨_, sharesFit⟩, rfl, Nat.ne_of_gt positive, value⟩

theorem virtualSharesFor_ok {assetDecimals shareDecimals : Unsigned 8} {shares : ShareAmount}
    (success : virtualSharesFor assetDecimals shareDecimals = .ok shares) :
    assetDecimals.raw ≤ shareDecimals.raw ∧
      shares.raw = 10 ^ (shareDecimals.raw - assetDecimals.raw) := by
  simp only [virtualSharesFor, bind_eq_ok, Unsigned.checkedSub_eq_ok] at success
  obtain ⟨difference, gap, success⟩ := success
  split at success
  · cases success
    have exponent : difference.raw = shareDecimals.raw - assetDecimals.raw := by omega
    exact ⟨by omega, congrArg (10 ^ ·) exponent⟩
  · cases success

end AccountingModel
