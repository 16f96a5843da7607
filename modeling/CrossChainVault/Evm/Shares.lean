import CrossChainVault.Evm.Ledger

set_option autoImplicit false

/- The vault's own token. The ERC-20 contract the vault inherits is not part of this repository, so
what it does is a parameter, with what its functions are documented to do. -/

namespace Evm

open Result

/-- The inherited contract. Its movements are exact on a ledger whose supply covers its balances,
which is how it keeps the ledger. -/
structure ShareCode where
  transfer (token : Erc20) (sender receiver : Address) (value : Uint256) : Except Revert Erc20
  transferFrom (token : Erc20) (spender owner receiver : Address) (value : Uint256) :
    Except Revert Erc20
  approve (token : Erc20) (owner spender : Address) (value : Uint256) : Except Revert Erc20
  mint (token : Erc20) (account : Address) (value : Uint256) : Except Revert Erc20
  burn (token : Erc20) (account : Address) (value : Uint256) : Except Revert Erc20
  transfer_moves {token after : Erc20} {sender receiver : Address} {value : Uint256} :
    token.Backed → transfer token sender receiver value = .ok after →
      token.Moves sender receiver value after
  transfer_supply {token after : Erc20} {sender receiver : Address} {value : Uint256} :
    transfer token sender receiver value = .ok after → after.totalSupply = token.totalSupply
  /-- Nobody can be paused or blocked. -/
  transfer_succeeds {token : Erc20} {sender receiver : Address} {value : Uint256} :
    sender.raw ≠ 0 → receiver.raw ≠ 0 → value.raw ≤ (token.balanceOf sender).raw →
      ∃ after, transfer token sender receiver value = .ok after
  transferFrom_moves {token after : Erc20} {spender owner receiver : Address} {value : Uint256} :
    token.Backed → transferFrom token spender owner receiver value = .ok after →
      value.raw ≤ (token.allowance owner spender).raw ∧ token.Moves owner receiver value after
  approve_allows {token after : Erc20} {owner spender : Address} {value : Uint256} :
    approve token owner spender value = .ok after →
      after.balanceOf = token.balanceOf ∧ after.totalSupply = token.totalSupply ∧
        ∀ other, other ≠ owner → after.allowance other = token.allowance other
  mint_issues {token after : Erc20} {account : Address} {value : Uint256} :
    token.Backed → mint token account value = .ok after →
      after.Backed ∧ after.allowance = token.allowance ∧ ∀ holder, (after.balanceOf holder).raw =
        (token.balanceOf holder).raw + (if holder = account then value.raw else 0)
  mint_supply {token after : Erc20} {account : Address} {value : Uint256} :
    mint token account value = .ok after →
      after.totalSupply.raw = token.totalSupply.raw + value.raw
  mint_reverts {token : Erc20} {account : Address} {value : Uint256} {reason : Revert} :
    mint token account value = .error reason → reason.ofErc20 = true
  burn_retires {token after : Erc20} {account : Address} {value : Uint256} :
    token.Backed → burn token account value = .ok after →
      after.Backed ∧ after.allowance = token.allowance ∧ ∀ holder, (after.balanceOf holder).raw +
        (if holder = account then value.raw else 0) = (token.balanceOf holder).raw
  burn_supply {token after : Erc20} {account : Address} {value : Uint256} :
    burn token account value = .ok after → value.raw ≤ token.totalSupply.raw →
      after.totalSupply.raw + value.raw = token.totalSupply.raw
  burn_reverts {token : Erc20} {account : Address} {value : Uint256} {reason : Revert} :
    burn token account value = .error reason → reason.ofErc20 = true

/-- The vault's token: the contract it inherits and the ledger that contract keeps. -/
structure Shares where
  code : ShareCode
  ledger : Erc20

namespace Shares

abbrev totalSupply (shares : Shares) : Uint256 := shares.ledger.totalSupply

abbrev balanceOf (shares : Shares) : Address → Uint256 := shares.ledger.balanceOf

def write (shares : Shares) (result : Except Revert Erc20) : Except Revert Shares := do
  let ledger ← result
  pure { shares with ledger := ledger }

def transfer (shares : Shares) (sender receiver : Address) (value : Uint256) :
    Except Revert Shares :=
  shares.write (shares.code.transfer shares.ledger sender receiver value)

def transferFrom (shares : Shares) (spender owner receiver : Address) (value : Uint256) :
    Except Revert Shares :=
  shares.write (shares.code.transferFrom shares.ledger spender owner receiver value)

def approve (shares : Shares) (owner spender : Address) (value : Uint256) :
    Except Revert Shares :=
  shares.write (shares.code.approve shares.ledger owner spender value)

def mint (shares : Shares) (account : Address) (value : Uint256) : Except Revert Shares :=
  shares.write (shares.code.mint shares.ledger account value)

def burn (shares : Shares) (account : Address) (value : Uint256) : Except Revert Shares :=
  shares.write (shares.code.burn shares.ledger account value)

/-- A backed ledger of which `vault` lets nobody else spend anything. -/
abbrev Kept (shares : Shares) (vault : Address) : Prop := shares.ledger.Kept vault

variable {shares after : Shares} {vault account sender receiver owner spender : Address}
  {value : Uint256} {reason : Revert} {result : Except Revert Erc20}

theorem write_ok : shares.write result = .ok after ↔
    result = .ok after.ledger ∧ after.code = shares.code := by
  simp only [write, bind_eq_ok, pure_eq_ok]
  constructor
  · rintro ⟨ledger, success, rfl⟩
    exact ⟨success, rfl⟩
  · rintro ⟨success, same⟩
    refine ⟨after.ledger, success, ?_⟩
    rw [← same]

theorem write_error (fails : shares.write result = .error reason) : result = .error reason := by
  rcases bind_eq_error.mp fails with failed | ⟨_, -, done⟩
  · exact failed
  · cases done

theorem transfer_moves (backed : shares.ledger.Backed)
    (success : shares.transfer sender receiver value = .ok after) :
    shares.ledger.Moves sender receiver value after.ledger :=
  shares.code.transfer_moves backed (write_ok.mp success).1

theorem transfer_totalSupply (success : shares.transfer sender receiver value = .ok after) :
    after.totalSupply = shares.totalSupply :=
  shares.code.transfer_supply (write_ok.mp success).1

/-- Funds and two real addresses are all a transfer needs. -/
theorem transfer_succeeds (hSender : sender.raw ≠ 0) (hReceiver : receiver.raw ≠ 0)
    (enough : value.raw ≤ (shares.balanceOf sender).raw) :
    ∃ after, shares.transfer sender receiver value = .ok after := by
  obtain ⟨ledger, moved⟩ := shares.code.transfer_succeeds hSender hReceiver enough
  exact ⟨{ shares with ledger := ledger }, write_ok.mpr ⟨moved, rfl⟩⟩

/-- Nobody spends what the vault holds. -/
theorem Kept.transferFrom (kept : shares.Kept vault)
    (success : shares.transferFrom spender sender receiver value = .ok after) :
    after.Kept vault ∧ (shares.balanceOf vault).raw ≤ (after.balanceOf vault).raw := by
  obtain ⟨granted, moves⟩ :=
    shares.code.transferFrom_moves kept.backed (write_ok.mp success).1
  refine ⟨moves.kept kept, moves.le_balance_of_granted (kept.reserved spender) ?_⟩
  intro own
  rwa [own] at granted

theorem Kept.approve (kept : shares.Kept vault) (outside : owner ≠ vault)
    (success : shares.approve owner spender value = .ok after) :
    after.Kept vault ∧ after.balanceOf = shares.balanceOf := by
  obtain ⟨balances, supply, others⟩ := shares.code.approve_allows (write_ok.mp success).1
  refine ⟨⟨?_, ?_⟩, balances⟩
  · exact Erc20.backed_of_same balances supply kept.backed
  · intro other
    rw [others vault (Ne.symm outside)]
    exact kept.reserved other

theorem Kept.mint (kept : shares.Kept vault) (success : shares.mint account value = .ok after) :
    after.Kept vault ∧ ∀ holder, (after.balanceOf holder).raw =
      (shares.balanceOf holder).raw + (if holder = account then value.raw else 0) := by
  obtain ⟨backed, allowance, given⟩ := shares.code.mint_issues kept.backed (write_ok.mp success).1
  refine ⟨⟨backed, ?_⟩, given⟩
  rw [allowance]
  exact kept.reserved

theorem Kept.burn (kept : shares.Kept vault) (success : shares.burn account value = .ok after) :
    after.Kept vault ∧
      (after.balanceOf account).raw + value.raw = (shares.balanceOf account).raw := by
  obtain ⟨backed, allowance, taken⟩ := shares.code.burn_retires kept.backed (write_ok.mp success).1
  have own := taken account
  rw [if_pos rfl] at own
  refine ⟨⟨backed, ?_⟩, own⟩
  rw [allowance]
  exact kept.reserved

theorem mint_totalSupply (success : shares.mint account value = .ok after) :
    after.totalSupply.raw = shares.totalSupply.raw + value.raw :=
  shares.code.mint_supply (write_ok.mp success).1

/-- A burn the supply covers lowers it by exactly the value. -/
theorem burn_totalSupply (success : shares.burn account value = .ok after)
    (covered : value.raw ≤ shares.totalSupply.raw) :
    after.totalSupply.raw + value.raw = shares.totalSupply.raw :=
  shares.code.burn_supply (write_ok.mp success).1 covered

theorem mint_error (fails : shares.mint account value = .error reason) : reason.ofErc20 = true :=
  shares.code.mint_reverts (write_error fails)

theorem burn_error (fails : shares.burn account value = .error reason) : reason.ofErc20 = true :=
  shares.code.burn_reverts (write_error fails)

end Shares

/-- The plain ledger is such a contract. -/
def ShareCode.plain : ShareCode where
  transfer := Erc20.transfer
  transferFrom := Erc20.transferFrom
  approve := Erc20.approve
  mint := Erc20.mint
  burn := Erc20.burn
  transfer_moves := Erc20.transfer_moves
  transfer_supply := Erc20.transfer_totalSupply
  transfer_succeeds := Erc20.transfer_succeeds
  transferFrom_moves := Erc20.transferFrom_moves
  approve_allows := Erc20.approve_allows
  mint_issues := Erc20.mint_exact
  mint_supply := Erc20.mint_totalSupply
  mint_reverts := Erc20.mint_reverts
  burn_retires := Erc20.burn_exact
  burn_supply := Erc20.burn_totalSupply
  burn_reverts := Erc20.burn_reverts

end Evm
