import CrossChainVault.Protocol.Message
import Mathlib.Logic.Function.Basic

set_option autoImplicit false

/- Words, reverts and the plainest ERC-20 ledger there is. -/

namespace Evm

open Result

abbrev Uint256 := Unsigned 256

abbrev Uint128 := Unsigned 128

abbrev Uint64 := Unsigned 64

abbrev Bytes32 := Protocol.Bytes32

abbrev Address := Unsigned 160

/-- Who calls, and the timestamp of the block the call is in. -/
structure Msg where
  sender : Address
  timestamp : Uint64
deriving DecidableEq

inductive VaultStatus
  | active
  | paused
  | frozen
deriving DecidableEq, Repr

/-- Why a call reverted. -/
inductive Revert
  -- Checked arithmetic and array bounds.
  | panic
  -- Whatever the asset has to say.
  | assetReverted (data : List Uint256)
  -- The ERC-20 ledger.
  | erc20InvalidSender
  | erc20InvalidReceiver
  | erc20InvalidApprover
  | erc20InvalidSpender
  | erc20InsufficientBalance (sender : Address) (balance needed : Uint256)
  | erc20InsufficientAllowance (spender : Address) (allowance needed : Uint256)
  -- The vault.
  | unauthorized (actor : Address)
  | invalidAddress
  | invalidVaultStatus (status : VaultStatus)
  | epochNotOpen
  | epochAlreadyOpen
  | epochAlreadyCutOff
  | epochNotCutOff
  | cutoffNotReached (nowAt cutoffAt : Uint64)
  | cancellationAfterCutoff
  | epochNotFinalized (epochId : Uint64)
  | epochNotAborted (epochId : Uint64)
  | epochAlreadySettled (epochId : Uint64)
  | requestNotFound (controller : Address)
  | requestAlreadyCancelled (controller : Address)
  | requestLimitReached (limit : Nat)
  | zeroAmount
  | amountBelowMinimum (amount minimum : Uint256)
  | insufficientBalance (available requested : Uint256)
  | insufficientLiquidity (available requested : Uint256)
  | claimAlreadyConsumed (epochId : Uint64) (controller : Address)
  | refundAlreadyConsumed (epochId : Uint64) (controller : Address)
  | invalidTransferAmount (expected actual : Uint256)
  | accountingDeficit (accounted actual : Uint256)
  | timestampNotMonotonic (nowAt earliest : Uint64)
  | invariantViolation
  | remoteAccountingAlreadyBound
  | remoteAccountingBindAfterActivity
  | remoteAccountingNotBound
  | remoteValuationRequired
  | valuationAlreadyFixed
  | invalidAssetAttribution
  | insufficientRemotePrincipal (available requested : Uint256)
  -- The coordinator.
  | invalidIdentities
  | unauthenticatedMessage
  | activeTransferExists (transferId : Bytes32)
  | noActiveTransfer
  | wrongTransferId (expected actual : Bytes32)
  | transferIdReused (transferId : Bytes32)
  | zeroTransferId
  | amountTooLarge
  | wrongSequence (expected actual : Uint64)
  | replay (sequence : Uint64)
  | wrongCommitment (expected actual : Bytes32)
  | wrongSource
  | wrongDestination
  | wrongDeployment
  | wrongVault
  | wrongLane (expected actual : Unsigned 32)
  | wrongConfigVersion (expected actual : Uint64)
  | allocateNotAllowed
  | recallIdentityMismatch
  | invalidRecallSentAmounts (principal actual loss : Uint128)
  | staleValuation
  | deadlineNotPassed (deadline nowAt : Uint64)
  | closeAlreadyRequested
  | nothingToRecover
  | noPendingSettlement
  | settlementMismatch
  -- The codec.
  | invalidMagic
  | unsupportedProtocolVersion (version : Unsigned 16)
  | unsupportedSchemaVersion (version : Unsigned 16)
  | invalidMessageType (messageType : Unsigned 8)
  | reservedFlagsSet (flags : Unsigned 16)
  | truncatedMessage (needed found : Nat)
  | trailingBytes (expected found : Nat)
  | invalidBodyHash (expected actual : Bytes32)
  | invalidProbeStatus (status : Unsigned 8)
  | unknownResolveAction (action : Unsigned 8)
  | unknownSettlementKind (kind : Unsigned 8)
  | zeroIdentifier
  | sourceEqualsDestinationChain
  | sourceEqualsDestinationApplication
  | publicationBeforeObservation
  | expirationBeforePublication
  | minimumAboveAmount
  | deadlineBeforePublication
  | probeTimestampAfterObservation
  | missingProbeTimestamp
  | sentTimestampAfterObservation
  | realizedLossAbovePrincipal
  | targetNotBeforeResolution
  | creditAboveClaim
  | impairmentBelowShortfall
  | recoveryImpairmentMismatch
deriving DecidableEq

/-- What an ERC-20 ledger reverts with. -/
def Revert.ofErc20 : Revert → Bool
  | .panic | .erc20InvalidSender | .erc20InvalidReceiver | .erc20InvalidApprover
  | .erc20InvalidSpender | .erc20InsufficientBalance _ _ _
  | .erc20InsufficientAllowance _ _ _ => true
  | _ => false

section Arithmetic

variable {bits : Nat}

/-- Checked addition: it reverts on overflow. -/
def add (a b : Unsigned bits) : Except Revert (Unsigned bits) := a.checkedAdd b .panic

/-- Checked subtraction: it reverts below zero. -/
def sub (a b : Unsigned bits) : Except Revert (Unsigned bits) := a.checkedSub b .panic

@[simp] theorem add_ok {a b c : Unsigned bits} : add a b = .ok c ↔ c.raw = a.raw + b.raw :=
  Unsigned.checkedAdd_eq_ok

@[simp] theorem sub_ok {a b c : Unsigned bits} : sub a b = .ok c ↔ c.raw + b.raw = a.raw :=
  Unsigned.checkedSub_eq_ok

theorem add_error {a b : Unsigned bits} {reason : Revert} (fails : add a b = .error reason) :
    reason = .panic :=
  (Unsigned.checkedAdd_eq_error.mp fails).2.symm

theorem sub_error {a b : Unsigned bits} {reason : Revert} (fails : sub a b = .error reason) :
    reason = .panic :=
  (Unsigned.checkedSub_eq_error.mp fails).2.symm

theorem sub_succeeds {a b : Unsigned bits} (enough : b.raw ≤ a.raw) : ∃ c, sub a b = .ok c :=
  ⟨a.saturatingSub b, sub_ok.mpr (Nat.sub_add_cancel enough)⟩

end Arithmetic

/-- The implicit cast of a 128-bit amount to a word. -/
def toUint256 (a : Uint128) : Uint256 := ⟨a.raw, Nat.lt_of_lt_of_le a.bound (by decide)⟩

@[simp] theorem toUint256_raw (a : Uint128) : (toUint256 a).raw = a.raw := rfl

/-- Balances, supply and allowances of one token. -/
structure Erc20 where
  totalSupply : Uint256
  balanceOf : Address → Uint256
  allowance : Address → Address → Uint256

namespace Erc20

def empty : Erc20 := ⟨.zero, fun _ => .zero, fun _ _ => .zero⟩

/-- Unchecked arithmetic wraps. The supply bounds every balance, so it never does here. -/
def unchecked (value : Nat) : Uint256 := .ofNat value

def debit (token : Erc20) (account : Address) (value : Uint256) : Except Revert Erc20 := do
  rejectIf (token.balanceOf account < value)
    (.erc20InsufficientBalance account (token.balanceOf account) value)
  pure { token with
    balanceOf := Function.update token.balanceOf account
      (unchecked ((token.balanceOf account).raw - value.raw)) }

def credit (token : Erc20) (account : Address) (value : Uint256) : Erc20 :=
  { token with
    balanceOf := Function.update token.balanceOf account
      (unchecked ((token.balanceOf account).raw + value.raw)) }

def transfer (token : Erc20) (sender receiver : Address) (value : Uint256) :
    Except Revert Erc20 := do
  rejectIf sender.isZero .erc20InvalidSender
  rejectIf receiver.isZero .erc20InvalidReceiver
  let token ← token.debit sender value
  pure (token.credit receiver value)

def mint (token : Erc20) (account : Address) (value : Uint256) : Except Revert Erc20 := do
  rejectIf account.isZero .erc20InvalidReceiver
  let supply ← add token.totalSupply value
  pure ({ token with totalSupply := supply }.credit account value)

def burn (token : Erc20) (account : Address) (value : Uint256) : Except Revert Erc20 := do
  rejectIf account.isZero .erc20InvalidSender
  let token ← token.debit account value
  pure { token with totalSupply := unchecked (token.totalSupply.raw + 2 ^ 256 - value.raw) }

def allow (token : Erc20) (owner spender : Address) (value : Uint256) : Erc20 :=
  { token with
    allowance := Function.update token.allowance owner
      (Function.update (token.allowance owner) spender value) }

def approve (token : Erc20) (owner spender : Address) (value : Uint256) : Except Revert Erc20 := do
  rejectIf owner.isZero .erc20InvalidApprover
  rejectIf spender.isZero .erc20InvalidSpender
  pure (token.allow owner spender value)

/-- An unlimited allowance is never reduced. -/
def spendAllowance (token : Erc20) (owner spender : Address) (value : Uint256) :
    Except Revert Erc20 :=
  if token.allowance owner spender = .max then pure token
  else do
    rejectIf (token.allowance owner spender < value)
      (.erc20InsufficientAllowance spender (token.allowance owner spender) value)
    token.approve owner spender (unchecked ((token.allowance owner spender).raw - value.raw))

def transferFrom (token : Erc20) (spender sender receiver : Address) (value : Uint256) :
    Except Revert Erc20 := do
  let token ← token.spendAllowance sender spender value
  token.transfer sender receiver value

variable {token after : Erc20} {account : Address} {amount : Uint256}

theorem debit_totalSupply (success : token.debit account amount = .ok after) :
    after.totalSupply = token.totalSupply ∧ amount.raw ≤ (token.balanceOf account).raw := by
  simp only [debit, bind_eq_ok, rejectIf_eq_ok, pure_eq_ok, exists_const] at success
  obtain ⟨enough, rfl⟩ := success
  exact ⟨rfl, by simpa using enough⟩

theorem transfer_totalSupply {receiver : Address}
    (success : token.transfer account receiver amount = .ok after) :
    after.totalSupply = token.totalSupply := by
  simp only [transfer, bind_eq_ok, pure_eq_ok] at success
  obtain ⟨-, -, -, -, debited, success, rfl⟩ := success
  exact (debit_totalSupply success).1

/-- A burn the supply covers lowers it by exactly the amount. -/
theorem burn_totalSupply (success : token.burn account amount = .ok after)
    (covered : amount.raw ≤ token.totalSupply.raw) :
    after.totalSupply.raw + amount.raw = token.totalSupply.raw := by
  simp only [burn, bind_eq_ok, pure_eq_ok] at success
  obtain ⟨-, -, debited, success, rfl⟩ := success
  have bound := token.totalSupply.bound
  have wraps : (token.totalSupply.raw + 2 ^ 256 - amount.raw) % 2 ^ 256 =
      token.totalSupply.raw - amount.raw := by
    have split : token.totalSupply.raw + 2 ^ 256 - amount.raw =
        (token.totalSupply.raw - amount.raw) + 2 ^ 256 := by omega
    rw [split, Nat.add_mod_right]
    exact Nat.mod_eq_of_lt (by omega)
  show (debited.totalSupply.raw + 2 ^ 256 - amount.raw) % 2 ^ 256 + amount.raw = _
  rw [(debit_totalSupply success).1, wraps]
  omega

theorem mint_totalSupply (success : token.mint account amount = .ok after) :
    after.totalSupply.raw = token.totalSupply.raw + amount.raw := by
  simp only [mint, bind_eq_ok, pure_eq_ok, add_ok] at success
  obtain ⟨-, -, supply, hSupply, rfl⟩ := success
  exact hSupply

end Erc20

/-- A movement the source makes only for a nonzero amount. -/
def unlessZero {α : Type} (value : Uint256) (still : α) (moved : Except Revert α) :
    Except Revert α :=
  if value.isZero then pure still else moved

section UnlessZero

variable {α : Type} {value : Uint256} {still after : α} {moved : Except Revert α}

theorem unlessZero_ok (success : unlessZero value still moved = .ok after) :
    (value.raw = 0 ∧ after = still) ∨ (value.raw ≠ 0 ∧ moved = .ok after) := by
  unfold unlessZero at success
  split at success
  · rename_i nothing
    rw [pure_eq_ok] at success
    exact .inl ⟨by simpa using nothing, success.symm⟩
  · rename_i something
    exact .inr ⟨by simpa using something, success⟩

theorem unlessZero_succeeds (still : α) (moves : value.raw ≠ 0 → ∃ after, moved = .ok after) :
    ∃ after, unlessZero value still moved = .ok after := by
  unfold unlessZero
  split
  · exact ⟨still, rfl⟩
  · rename_i something
    exact moves (by simpa using something)

end UnlessZero

end Evm
