import CrossChainVault.Base.Tally
import CrossChainVault.Evm.Token

set_option autoImplicit false

/- Exact movements of a token: its supply bounds its balances, so unchecked arithmetic never
wraps. -/

namespace Evm

open Result Tally

namespace Erc20

/-- All balances together. -/
noncomputable def held (token : Erc20) : Nat := tally fun holder => (token.balanceOf holder).raw

/-- The supply covers all balances together. -/
def Backed (token : Erc20) : Prop := token.held ≤ token.totalSupply.raw

/-- A backed token of which `vault` lets nobody else spend anything. -/
structure Kept (token : Erc20) (vault : Address) : Prop where
  backed : token.Backed
  reserved : ∀ spender, (token.allowance vault spender).raw = 0

theorem kept_empty (vault : Address) : empty.Kept vault where
  backed := Nat.le_of_eq (tally_eq_zero fun _ => rfl)
  reserved _ := rfl

variable {token after : Erc20} {vault account sender receiver spender owner : Address}
  {value : Uint256}

theorem unchecked_raw {n : Nat} (fits : n < 2 ^ 256) : (unchecked n).raw = n :=
  Nat.mod_eq_of_lt fits

/-- Writes one balance. -/
def setBalance (token : Erc20) (account : Address) (balance : Uint256) : Erc20 :=
  { token with balanceOf := Function.update token.balanceOf account balance }

theorem setBalance_balanceOf {balance : Uint256} {holder : Address} :
    (token.setBalance account balance).balanceOf holder =
      if holder = account then balance else token.balanceOf holder :=
  Function.update_apply _ _ _ _

theorem held_setBalance (token : Erc20) (account : Address) (balance : Uint256) :
    (token.setBalance account balance).held + (token.balanceOf account).raw =
      token.held + balance.raw :=
  tally_update Unsigned.raw token.balanceOf account balance

theorem balance_le_held (token : Erc20) (account : Address) :
    (token.balanceOf account).raw ≤ token.held :=
  le_tally (f := fun holder => (token.balanceOf holder).raw) account

theorem backed_of_same (balances : after.balanceOf = token.balanceOf)
    (supply : after.totalSupply = token.totalSupply) (backed : token.Backed) : after.Backed := by
  have held : after.held = token.held := by
    simp only [Erc20.held, balances]
  unfold Backed
  rw [held, supply]
  exact backed

theorem debit_ok (success : token.debit account value = .ok after) :
    value.raw ≤ (token.balanceOf account).raw ∧
      after = token.setBalance account ((token.balanceOf account).saturatingSub value) := by
  simp only [debit, bind_eq_ok, rejectIf_eq_ok, pure_eq_ok, exists_const, Unsigned.lt_def,
    Nat.not_lt] at success
  obtain ⟨enough, rfl⟩ := success
  have bound := (token.balanceOf account).bound
  have same : unchecked ((token.balanceOf account).raw - value.raw) =
      (token.balanceOf account).saturatingSub value := by
    apply Unsigned.ext
    rw [unchecked_raw (by omega), Unsigned.saturatingSub_raw]
  rw [same]
  exact ⟨enough, rfl⟩

/-- A debit lowers one balance by exactly the value. -/
theorem debit_exact (success : token.debit account value = .ok after) :
    after.held + value.raw = token.held ∧
    ∀ holder, (after.balanceOf holder).raw + (if holder = account then value.raw else 0) =
      (token.balanceOf holder).raw := by
  obtain ⟨enough, rfl⟩ := debit_ok success
  have lowered : ((token.balanceOf account).saturatingSub value).raw =
      (token.balanceOf account).raw - value.raw := Unsigned.saturatingSub_raw _ _
  constructor
  · have total := held_setBalance token account
      ((token.balanceOf account).saturatingSub value)
    omega
  · intro holder
    rw [setBalance_balanceOf]
    by_cases same : holder = account
    · subst same
      rw [if_pos rfl, if_pos rfl]
      omega
    · rw [if_neg same, if_neg same]
      rfl

/-- A credit the word covers raises one balance by exactly the value. -/
theorem credit_exact (fits : token.held + value.raw < 2 ^ 256) :
    (token.credit account value).held = token.held + value.raw ∧
    ∀ holder, ((token.credit account value).balanceOf holder).raw =
      (token.balanceOf holder).raw + (if holder = account then value.raw else 0) := by
  have within := token.balance_le_held account
  have raised : (unchecked ((token.balanceOf account).raw + value.raw)).raw =
      (token.balanceOf account).raw + value.raw := unchecked_raw (by omega)
  have written : token.credit account value = token.setBalance account
      (unchecked ((token.balanceOf account).raw + value.raw)) := rfl
  rw [written]
  constructor
  · have total := held_setBalance token account
      (unchecked ((token.balanceOf account).raw + value.raw))
    omega
  · intro holder
    rw [setBalance_balanceOf]
    by_cases same : holder = account
    · subst same
      rw [if_pos rfl, if_pos rfl, raised]
    · rw [if_neg same, if_neg same]
      rfl

/-- Exactly `value` goes from one account to another, and nobody is allowed more than before. -/
structure Shifts (token : Erc20) (sender receiver : Address) (value : Uint256) (after : Erc20) :
    Prop where
  exact : ∀ holder, (after.balanceOf holder).raw + (if holder = sender then value.raw else 0) =
    (token.balanceOf holder).raw + (if holder = receiver then value.raw else 0)
  allowed : ∀ owner spender,
    (after.allowance owner spender).raw ≤ (token.allowance owner spender).raw

/-- What anybody else sends never leaves the vault. -/
theorem Shifts.le_balance (shifted : token.Shifts sender receiver value after)
    (outside : sender ≠ vault) : (token.balanceOf vault).raw ≤ (after.balanceOf vault).raw := by
  have exact := shifted.exact vault
  rw [if_neg (Ne.symm outside)] at exact
  omega

/-- A payment to somebody else leaves the payer by exactly its value. -/
theorem Shifts.paid (shifted : token.Shifts sender receiver value after)
    (outside : receiver ≠ sender) :
    (after.balanceOf sender).raw + value.raw = (token.balanceOf sender).raw := by
  have exact := shifted.exact sender
  rw [if_pos rfl, if_neg (Ne.symm outside)] at exact
  exact exact

/-- Nothing moves for nobody: a zero value leaves every balance. -/
theorem Shifts.still (shifted : token.Shifts sender receiver value after)
    (nothing : value.raw = 0) (holder : Address) :
    (after.balanceOf holder).raw = (token.balanceOf holder).raw := by
  have exact := shifted.exact holder
  rw [nothing, ite_self, ite_self] at exact
  exact exact

/-- Nothing moves out of an account that lets nobody spend, unless it asks for it. -/
theorem Shifts.le_balance_of_granted (shifted : token.Shifts sender receiver value after)
    (reserved : (token.allowance vault spender).raw = 0)
    (granted : sender = vault → value.raw ≤ (token.allowance vault spender).raw) :
    (token.balanceOf vault).raw ≤ (after.balanceOf vault).raw := by
  by_cases own : sender = vault
  · have nothing := granted own
    rw [reserved] at nothing
    exact Nat.le_of_eq (shifted.still (Nat.eq_zero_of_le_zero nothing) vault).symm
  · exact shifted.le_balance own

/-- What nobody may spend stays so. -/
theorem Shifts.reserved (shifted : token.Shifts sender receiver value after)
    (reserved : ∀ spender, (token.allowance vault spender).raw = 0) (spender : Address) :
    (after.allowance vault spender).raw = 0 := by
  have allowed := shifted.allowed vault spender
  rw [reserved spender] at allowed
  exact Nat.eq_zero_of_le_zero allowed

/-- A transfer of the ledger touches nothing but two balances, or the allowance it spends. -/
structure Moves (token : Erc20) (sender receiver : Address) (value : Uint256) (after : Erc20) :
    Prop extends token.Shifts sender receiver value after where
  total : after.held = token.held
  supply : after.totalSupply = token.totalSupply

theorem transfer_moves (backed : token.Backed)
    (success : token.transfer sender receiver value = .ok after) :
    token.Moves sender receiver value after := by
  simp only [transfer, bind_eq_ok, pure_eq_ok, rejectIf_eq_ok, exists_const] at success
  obtain ⟨-, -, debited, hDebited, rfl⟩ := success
  obtain ⟨lowered, taken⟩ := debit_exact hDebited
  have supply := token.totalSupply.bound
  have covered : token.held ≤ token.totalSupply.raw := backed
  obtain ⟨raised, given⟩ : (debited.credit receiver value).held = debited.held + value.raw ∧ _ :=
    credit_exact (by omega)
  obtain ⟨-, rfl⟩ := debit_ok hDebited
  refine ⟨⟨?_, fun _ _ => Nat.le_refl _⟩, raised.trans lowered, rfl⟩
  intro holder
  have before := taken holder
  have later := given holder
  omega

/-- Funds and two real addresses are all a transfer needs. -/
theorem transfer_succeeds (hSender : sender.raw ≠ 0) (hReceiver : receiver.raw ≠ 0)
    (enough : value.raw ≤ (token.balanceOf sender).raw) :
    ∃ after, token.transfer sender receiver value = .ok after := by
  have covered : ¬token.balanceOf sender < value := Nat.not_lt.mpr enough
  simp only [transfer, debit, rejectIf, Unsigned.isZero_iff, hSender, hReceiver, covered, if_false]
  exact ⟨_, rfl⟩

theorem Moves.backed (moved : token.Moves sender receiver value after) (backed : token.Backed) :
    after.Backed := by
  unfold Backed
  rw [moved.total, moved.supply]
  exact backed

theorem Moves.kept (moved : token.Moves sender receiver value after) (kept : token.Kept vault) :
    after.Kept vault :=
  ⟨moved.backed kept.backed, moved.reserved kept.reserved⟩

theorem approve_ok (success : token.approve owner spender value = .ok after) :
    after = token.allow owner spender value := by
  simp only [approve, bind_eq_ok, pure_eq_ok] at success
  obtain ⟨-, -, -, -, same⟩ := success
  exact same.symm

theorem approve_allows (success : token.approve owner spender value = .ok after) :
    after.balanceOf = token.balanceOf ∧ after.totalSupply = token.totalSupply ∧
      ∀ other, other ≠ owner → after.allowance other = token.allowance other := by
  rw [approve_ok success]
  refine ⟨rfl, rfl, ?_⟩
  intro other apart
  exact Function.update_of_ne apart _ _

/-- Spending needs an allowance, and can only use it up. -/
theorem spendAllowance_ok (success : token.spendAllowance owner spender value = .ok after) :
    value.raw ≤ (token.allowance owner spender).raw ∧ after.balanceOf = token.balanceOf ∧
      after.totalSupply = token.totalSupply ∧
      ∀ holder other, (after.allowance holder other).raw ≤ (token.allowance holder other).raw := by
  unfold spendAllowance at success
  split at success
  · rename_i unlimited
    rw [pure_eq_ok] at success
    subst success
    refine ⟨?_, rfl, rfl, fun _ _ => Nat.le_refl _⟩
    rw [unlimited]
    exact Nat.le_sub_one_of_lt value.bound
  · simp only [bind_eq_ok, rejectIf_eq_ok, exists_const, Unsigned.lt_def, Nat.not_lt] at success
    obtain ⟨granted, success⟩ := success
    obtain rfl := approve_ok success
    have bound := (token.allowance owner spender).bound
    have left : (unchecked ((token.allowance owner spender).raw - value.raw)).raw ≤
        (token.allowance owner spender).raw := by
      rw [unchecked_raw (by omega)]
      exact Nat.sub_le _ _
    refine ⟨granted, rfl, rfl, ?_⟩
    intro holder other
    show ((Function.update token.allowance owner _) holder other).raw ≤ _
    by_cases own : holder = owner
    · subst own
      rw [Function.update_self]
      by_cases same : other = spender
      · subst same
        rw [Function.update_self]
        exact left
      · rw [Function.update_of_ne same]
    · rw [Function.update_of_ne own]

/-- Moving what is somebody else's spends an allowance. -/
theorem transferFrom_moves (backed : token.Backed)
    (success : token.transferFrom spender owner receiver value = .ok after) :
    value.raw ≤ (token.allowance owner spender).raw ∧
      token.Moves owner receiver value after := by
  simp only [transferFrom, bind_eq_ok] at success
  obtain ⟨spent, hSpent, moved⟩ := success
  obtain ⟨granted, balances, supply, allowed⟩ := spendAllowance_ok hSpent
  have held : spent.held = token.held := by
    simp only [Erc20.held, balances]
  have moves := transfer_moves (backed_of_same balances supply backed) moved
  refine ⟨granted, ⟨⟨?_, ?_⟩, moves.total.trans held, moves.supply.trans supply⟩⟩
  · rw [← balances]
    exact moves.exact
  · intro holder other
    exact Nat.le_trans (moves.allowed holder other) (allowed holder other)

theorem mint_exact (backed : token.Backed) (success : token.mint account value = .ok after) :
    after.Backed ∧ after.allowance = token.allowance ∧ ∀ holder, (after.balanceOf holder).raw =
      (token.balanceOf holder).raw + (if holder = account then value.raw else 0) := by
  simp only [mint, bind_eq_ok, pure_eq_ok, add_ok, rejectIf_eq_ok, exists_const] at success
  obtain ⟨-, supply, hSupply, rfl⟩ := success
  have bound := supply.bound
  have covered : token.held ≤ token.totalSupply.raw := backed
  have fits : { token with totalSupply := supply }.held + value.raw < 2 ^ 256 := by
    show token.held + value.raw < 2 ^ 256
    omega
  obtain ⟨raised, given⟩ : ({ token with totalSupply := supply }.credit account value).held =
      token.held + value.raw ∧ _ := credit_exact fits
  refine ⟨?_, rfl, given⟩
  show _ ≤ supply.raw
  omega

theorem mint_reverts {reason : Revert} (fails : token.mint account value = .error reason) :
    reason.ofErc20 = true := by
  rcases bind_eq_error.mp fails with named | ⟨_, -, fails⟩
  · obtain ⟨-, rfl⟩ := rejectIf_eq_error.mp named
    rfl
  · rcases bind_eq_error.mp fails with overflow | ⟨_, -, done⟩
    · rw [add_error overflow]
      rfl
    · cases done

theorem burn_exact (backed : token.Backed) (success : token.burn account value = .ok after) :
    after.Backed ∧ after.allowance = token.allowance ∧ ∀ holder, (after.balanceOf holder).raw +
      (if holder = account then value.raw else 0) = (token.balanceOf holder).raw := by
  have covered : token.held ≤ token.totalSupply.raw := backed
  have whole := success
  simp only [burn, bind_eq_ok, pure_eq_ok, rejectIf_eq_ok, exists_const] at success
  obtain ⟨-, debited, hDebited, written⟩ := success
  obtain ⟨lowered, taken⟩ := debit_exact hDebited
  have supply := burn_totalSupply whole (by omega)
  have sameBalances : after.balanceOf = debited.balanceOf := by
    rw [← written]
  have sameHeld : after.held = debited.held := by
    simp only [held, sameBalances]
  refine ⟨?_, ?_, ?_⟩
  · show after.held ≤ after.totalSupply.raw
    omega
  · obtain ⟨-, rfl⟩ := debit_ok hDebited
    rw [← written]
    rfl
  · rw [sameBalances]
    exact taken

theorem burn_reverts {reason : Revert} (fails : token.burn account value = .error reason) :
    reason.ofErc20 = true := by
  rcases bind_eq_error.mp fails with named | ⟨_, -, fails⟩
  · obtain ⟨-, rfl⟩ := rejectIf_eq_error.mp named
    rfl
  · rcases bind_eq_error.mp fails with short | ⟨_, -, done⟩
    · rcases bind_eq_error.mp short with lacking | ⟨_, -, done⟩
      · obtain ⟨-, rfl⟩ := rejectIf_eq_error.mp lacking
        rfl
      · cases done
    · cases done

end Erc20

end Evm
