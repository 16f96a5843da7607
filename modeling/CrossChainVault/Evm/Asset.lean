import CrossChainVault.Base.Run
import CrossChainVault.Evm.Ledger

set_option autoImplicit false

/- The asset the vault holds. Its contract is not part of this repository, so what it does when it is
called is a parameter; the vault relies on its own two balance checks. -/

namespace Evm

open Result

/-- A call of the asset. The vault itself transfers and takes what it was allowed to. -/
inductive AssetCall
  | transfer (receiver : Address) (value : Uint256)
  | transferFrom (owner receiver : Address) (value : Uint256)
  | approve (spender : Address) (value : Uint256)
  /-- Anything else the token offers: issuing, pausing, blocking an account. -/
  | other (data : List Uint256)
deriving DecidableEq

/-- What every ERC-20 token shows, and whatever else its contract stores. -/
structure AssetState where
  ledger : Erc20
  storage : Uint256 → Uint256

/-- What the token does for a caller. An answer of `false` is a revert, as `SafeERC20` makes it one.
The token changes its own state only and calls nobody back. -/
abbrev AssetCode := AssetState → Address → AssetCall → Except Revert AssetState

/-- A deployed token. -/
structure Asset where
  code : AssetCode
  state : AssetState

namespace Asset

def balanceOf (asset : Asset) : Address → Uint256 := asset.state.ledger.balanceOf

def totalSupply (asset : Asset) : Uint256 := asset.state.ledger.totalSupply

def allowance (asset : Asset) : Address → Address → Uint256 := asset.state.ledger.allowance

def call (asset : Asset) (caller : Address) (data : AssetCall) : Except Revert Asset := do
  let state ← asset.code asset.state caller data
  pure { asset with state := state }

/-- Takes exactly `amount` from `sender` into `vault`, or reverts. -/
def pullExact (asset : Asset) (vault sender : Address) (amount : Uint256) :
    Except Revert Asset := do
  let after ← asset.call vault (.transferFrom sender vault amount)
  let received ← sub (after.balanceOf vault) (asset.balanceOf vault)
  rejectIf (received ≠ amount) (.invalidTransferAmount amount received)
  pure after

/-- Pays exactly `amount` out of `vault`, or reverts. -/
def pushExact (asset : Asset) (vault receiver : Address) (amount : Uint256) :
    Except Revert Asset := do
  let after ← asset.call vault (.transfer receiver amount)
  let sent ← sub (asset.balanceOf vault) (after.balanceOf vault)
  rejectIf (sent ≠ amount) (.invalidTransferAmount amount sent)
  pure after

variable {asset after : Asset} {vault account caller : Address} {amount : Uint256}
  {data : AssetCall}

theorem call_ok : asset.call caller data = .ok after ↔
    asset.code asset.state caller data = .ok after.state ∧ after.code = asset.code := by
  simp only [call, bind_eq_ok, pure_eq_ok]
  constructor
  · rintro ⟨state, success, rfl⟩
    exact ⟨success, rfl⟩
  · rintro ⟨success, same⟩
    refine ⟨after.state, success, ?_⟩
    rw [← same]

theorem pullExact_ok (success : asset.pullExact vault account amount = .ok after) :
    asset.call vault (.transferFrom account vault amount) = .ok after ∧
      (after.balanceOf vault).raw = (asset.balanceOf vault).raw + amount.raw := by
  simp only [pullExact, bind_eq_ok, sub_ok, rejectIf_eq_ok, pure_eq_ok, Decidable.not_not,
    exists_const] at success
  obtain ⟨moved, called, received, balance, exact, rfl⟩ := success
  subst exact
  exact ⟨called, by omega⟩

theorem pushExact_ok (success : asset.pushExact vault account amount = .ok after) :
    asset.call vault (.transfer account amount) = .ok after ∧
      (after.balanceOf vault).raw + amount.raw = (asset.balanceOf vault).raw := by
  simp only [pushExact, bind_eq_ok, sub_ok, rejectIf_eq_ok, pure_eq_ok, Decidable.not_not,
    exists_const] at success
  obtain ⟨moved, called, sent, balance, exact, rfl⟩ := success
  subst exact
  exact ⟨called, by omega⟩

end Asset

/-- What the vault relies on of the token's contract, in the states that are `Valid` to it: the
calls every token has do what they say, and whatever else it offers takes nothing from the vault,
which signs nothing. Only `Asset.Honours` and `Asset.Pays` say that a call succeeds. -/
structure AssetCode.Exact (code : AssetCode) (Valid : AssetState → Prop) (vault : Address) :
    Prop where
  valid : ∀ {state after : AssetState} {caller : Address} {data : AssetCall}, Valid state →
    code state caller data = .ok after → Valid after
  covered : ∀ {state : AssetState}, Valid state →
    (state.ledger.balanceOf vault).raw ≤ state.ledger.totalSupply.raw
  transfer : ∀ {state after : AssetState} {sender receiver : Address} {value : Uint256},
    Valid state → code state sender (.transfer receiver value) = .ok after →
      state.ledger.Shifts sender receiver value after.ledger
  transferFrom : ∀ {state after : AssetState} {spender owner receiver : Address}
    {value : Uint256}, Valid state →
      code state spender (.transferFrom owner receiver value) = .ok after →
        state.ledger.Shifts owner receiver value after.ledger ∧
          (spender ≠ owner → value.raw ≤ (state.ledger.allowance owner spender).raw)
  approve : ∀ {state after : AssetState} {owner spender : Address} {value : Uint256},
    Valid state → code state owner (.approve spender value) = .ok after →
      after.ledger.balanceOf = state.ledger.balanceOf ∧
        ∀ other, other ≠ owner → after.ledger.allowance other = state.ledger.allowance other
  other : ∀ {state after : AssetState} {caller : Address} {data : List Uint256}, Valid state →
    caller ≠ vault → (∀ spender, (state.ledger.allowance vault spender).raw = 0) →
      code state caller (.other data) = .ok after →
        (state.ledger.balanceOf vault).raw ≤ (after.ledger.balanceOf vault).raw ∧
          ∀ spender, (after.ledger.allowance vault spender).raw = 0

namespace Asset

/-- An exact token of which `vault` lets nobody else spend anything. -/
structure Kept (asset : Asset) (vault : Address) : Prop where
  exact : ∃ Valid, asset.code.Exact Valid vault ∧ Valid asset.state
  reserved : ∀ spender, (asset.allowance vault spender).raw = 0

/-- The token makes this payment of the vault, if there is anything to pay. -/
def Honours (asset : Asset) (vault receiver : Address) (value : Uint256) : Prop :=
  value.raw ≠ 0 → ∃ after, asset.call vault (.transfer receiver value) = .ok after

/-- Whatever it has paid them already, the token makes each payment to one of `receivers` that the
vault's balance covers. -/
def Pays (asset : Asset) (vault : Address) (receivers : Address → Prop) : Prop :=
  ∀ (payments : List (Address × Uint256)) (paid : Asset),
    (∀ payment ∈ payments, receivers payment.1) →
    Run.run (fun token payment => token.call vault (.transfer payment.1 payment.2)) asset payments =
      .ok paid →
    ∀ (receiver : Address) (value : Uint256), receivers receiver →
      value.raw ≤ (paid.balanceOf vault).raw → paid.Honours vault receiver value

variable {asset after : Asset} {vault receiver sender caller : Address} {value : Uint256}
  {data : AssetCall} {receivers : Address → Prop}

theorem Kept.covered (kept : asset.Kept vault) :
    (asset.balanceOf vault).raw ≤ asset.totalSupply.raw := by
  obtain ⟨Valid, exact, valid⟩ := kept.exact
  exact exact.covered valid

/-- The code of a token stays and so does its invariant. -/
theorem Kept.called (kept : asset.Kept vault) (success : asset.call caller data = .ok after)
    (reserved : ∀ spender, (after.allowance vault spender).raw = 0) : after.Kept vault := by
  obtain ⟨Valid, exact, valid⟩ := kept.exact
  obtain ⟨changed, code⟩ := call_ok.mp success
  refine ⟨⟨Valid, ?_, exact.valid valid changed⟩, reserved⟩
  rw [code]
  exact exact

theorem Kept.transfer (kept : asset.Kept vault)
    (success : asset.call sender (.transfer receiver value) = .ok after) :
    after.Kept vault ∧ asset.state.ledger.Shifts sender receiver value after.state.ledger := by
  obtain ⟨Valid, exact, valid⟩ := kept.exact
  have shifted := exact.transfer valid (call_ok.mp success).1
  exact ⟨kept.called success (shifted.reserved kept.reserved), shifted⟩

theorem Kept.transferFrom {owner : Address} (kept : asset.Kept vault)
    (success : asset.call caller (.transferFrom owner receiver value) = .ok after) :
    after.Kept vault ∧ asset.state.ledger.Shifts owner receiver value after.state.ledger ∧
      (caller ≠ owner → value.raw ≤ (asset.allowance owner caller).raw) := by
  obtain ⟨Valid, exact, valid⟩ := kept.exact
  obtain ⟨shifted, granted⟩ := exact.transferFrom valid (call_ok.mp success).1
  exact ⟨kept.called success (shifted.reserved kept.reserved), shifted, granted⟩

/-- No call of anybody else takes from the vault. -/
theorem Kept.outside (kept : asset.Kept vault) (outside : caller ≠ vault)
    (success : asset.call caller data = .ok after) :
    after.Kept vault ∧ (asset.balanceOf vault).raw ≤ (after.balanceOf vault).raw := by
  cases data with
  | transfer receiver value =>
      obtain ⟨later, shifted⟩ := kept.transfer success
      exact ⟨later, shifted.le_balance outside⟩
  | transferFrom owner receiver value =>
      obtain ⟨later, shifted, granted⟩ := kept.transferFrom success
      refine ⟨later, shifted.le_balance_of_granted (kept.reserved caller) ?_⟩
      intro own
      subst own
      exact granted outside
  | approve spender value =>
      obtain ⟨Valid, exact, valid⟩ := kept.exact
      obtain ⟨balances, others⟩ := exact.approve valid (call_ok.mp success).1
      constructor
      · apply kept.called success
        intro spender
        show (after.state.ledger.allowance vault spender).raw = 0
        rw [others vault (Ne.symm outside)]
        exact kept.reserved spender
      · exact Nat.le_of_eq (congrArg (fun held => (held vault).raw) balances.symm)
  | other data =>
      obtain ⟨Valid, exact, valid⟩ := kept.exact
      obtain ⟨more, reserved⟩ := exact.other valid outside kept.reserved (call_ok.mp success).1
      exact ⟨kept.called success reserved, more⟩

theorem Kept.pullExact (kept : asset.Kept vault)
    (success : asset.pullExact vault sender value = .ok after) : after.Kept vault :=
  (kept.transferFrom (pullExact_ok success).1).1

theorem Kept.pushExact (kept : asset.Kept vault)
    (success : asset.pushExact vault receiver value = .ok after) :
    after.Kept vault ∧ asset.state.ledger.Shifts vault receiver value after.state.ledger :=
  kept.transfer (pushExact_ok success).1

/-- An exact token that makes a transfer at all passes the check of the vault. -/
theorem Kept.pushExact_succeeds (kept : asset.Kept vault) (outside : receiver ≠ vault)
    (moves : ∃ after, asset.call vault (.transfer receiver value) = .ok after) :
    ∃ after, asset.pushExact vault receiver value = .ok after := by
  obtain ⟨after, moved⟩ := moves
  have paid : (after.balanceOf vault).raw + value.raw = (asset.balanceOf vault).raw :=
    (kept.transfer moved).2.paid outside
  refine ⟨after, ?_⟩
  simp only [Asset.pushExact, bind_eq_ok, sub_ok, rejectIf_eq_ok, pure_eq_ok, Decidable.not_not,
    exists_const]
  exact ⟨after, moved, value, by omega, rfl, rfl⟩

theorem Pays.honours (pays : asset.Pays vault receivers) (listed : receivers receiver)
    (enough : value.raw ≤ (asset.balanceOf vault).raw) : asset.Honours vault receiver value :=
  pays [] asset (List.forall_mem_nil _) (Run.run_nil.mpr rfl) receiver value listed enough

/-- One payment on, the token still pays. -/
theorem Pays.transfer (pays : asset.Pays vault receivers) (listed : receivers receiver)
    (success : asset.call vault (.transfer receiver value) = .ok after) :
    after.Pays vault receivers := by
  intro payments paid only finished
  refine pays ((receiver, value) :: payments) paid ?_ (Run.run_cons.mpr ⟨after, success, finished⟩)
  intro payment member
  rcases List.mem_cons.mp member with rfl | later
  · exact listed
  · exact only payment later

end Asset

/-- The plainest token there is: a ledger that never refuses what it can do, and issues to whoever
asks. -/
def AssetCode.plain : AssetCode := fun state caller data =>
  match data with
  | .transfer receiver value => do
      let ledger ← state.ledger.transfer caller receiver value
      pure { state with ledger := ledger }
  | .transferFrom owner receiver value => do
      let ledger ← state.ledger.transferFrom caller owner receiver value
      pure { state with ledger := ledger }
  | .approve spender value => do
      let ledger ← state.ledger.approve caller spender value
      pure { state with ledger := ledger }
  | .other [receiver, value] => do
      let ledger ← state.ledger.mint (.ofNat receiver.raw) value
      pure { state with ledger := ledger }
  | .other data => .error (.assetReverted data)

/-- The plain token with this ledger. -/
def Asset.plain (ledger : Erc20) : Asset where
  code := .plain
  state := ⟨ledger, fun _ => .zero⟩

section Plain

variable {state after : AssetState} {vault caller receiver owner : Address} {value : Uint256}

theorem AssetCode.plain_transfer (backed : state.ledger.Backed)
    (success : AssetCode.plain state caller (.transfer receiver value) = .ok after) :
    state.ledger.Moves caller receiver value after.ledger := by
  simp only [plain, bind_eq_ok, pure_eq_ok] at success
  obtain ⟨ledger, moved, rfl⟩ := success
  exact Erc20.transfer_moves backed moved

theorem AssetCode.plain_transferFrom (backed : state.ledger.Backed)
    (success : AssetCode.plain state caller (.transferFrom owner receiver value) = .ok after) :
    value.raw ≤ (state.ledger.allowance owner caller).raw ∧
      state.ledger.Moves owner receiver value after.ledger := by
  simp only [plain, bind_eq_ok, pure_eq_ok] at success
  obtain ⟨ledger, moved, rfl⟩ := success
  exact Erc20.transferFrom_moves backed moved

theorem AssetCode.plain_approve
    (success : AssetCode.plain state caller (.approve receiver value) = .ok after) :
    after.ledger.balanceOf = state.ledger.balanceOf ∧
      after.ledger.totalSupply = state.ledger.totalSupply ∧
      ∀ other, other ≠ caller → after.ledger.allowance other = state.ledger.allowance other := by
  simp only [plain, bind_eq_ok, pure_eq_ok] at success
  obtain ⟨ledger, approved, rfl⟩ := success
  exact Erc20.approve_allows approved

theorem AssetCode.plain_other {data : List Uint256} (backed : state.ledger.Backed)
    (success : AssetCode.plain state caller (.other data) = .ok after) :
    after.ledger.Backed ∧ after.ledger.allowance = state.ledger.allowance ∧
      ∀ holder, (state.ledger.balanceOf holder).raw ≤ (after.ledger.balanceOf holder).raw := by
  unfold plain at success
  split at success
  case h_4 _ receiver value same =>
    simp only [bind_eq_ok, pure_eq_ok] at success
    obtain ⟨ledger, minted, rfl⟩ := success
    obtain ⟨later, allowance, given⟩ := Erc20.mint_exact backed minted
    refine ⟨later, allowance, ?_⟩
    intro holder
    rw [given holder]
    exact Nat.le_add_right _ _
  all_goals simp_all

/-- Backing is all the plain token needs. -/
theorem AssetCode.plain_exact (vault : Address) :
    AssetCode.plain.Exact (fun state => state.ledger.Backed) vault where
  valid := by
    intro state after caller data backed success
    cases data with
    | transfer receiver value => exact (plain_transfer backed success).backed backed
    | transferFrom owner receiver value => exact (plain_transferFrom backed success).2.backed backed
    | approve spender value =>
        obtain ⟨balances, supply, -⟩ := plain_approve success
        exact Erc20.backed_of_same balances supply backed
    | other data => exact (plain_other backed success).1
  covered backed := Nat.le_trans (Erc20.balance_le_held _ vault) backed
  transfer backed success := (plain_transfer backed success).toShifts
  transferFrom backed success :=
    ⟨(plain_transferFrom backed success).2.toShifts, fun _ => (plain_transferFrom backed success).1⟩
  approve := by
    intro state after owner spender value _ success
    obtain ⟨balances, -, others⟩ := plain_approve success
    exact ⟨balances, others⟩
  other := by
    intro state after caller data backed _ reserved success
    obtain ⟨-, allowance, more⟩ := plain_other backed success
    refine ⟨more vault, ?_⟩
    rw [allowance]
    exact reserved

/-- The plain token refuses nothing but an account that is nobody's. -/
theorem Asset.pays_plain {asset : Asset} {receivers : Address → Prop} (plain : asset.code = .plain)
    (named : vault.raw ≠ 0) (others : ∀ receiver, receivers receiver → receiver.raw ≠ 0) :
    asset.Pays vault receivers := by
  intro payments paid _ finished receiver value listed enough _
  have code : paid.code = .plain := by
    refine Run.run_preserves (fun token : Asset => token.code = .plain) ?_ payments asset finished plain
    intro token payment token' success before
    exact (Asset.call_ok.mp success).2.trans before
  obtain ⟨ledger, moved⟩ := Erc20.transfer_succeeds named (others receiver listed) enough
  refine ⟨{ paid with state := { paid.state with ledger := ledger } }, ?_⟩
  refine Asset.call_ok.mpr ⟨?_, rfl⟩
  rw [code]
  simp only [AssetCode.plain, bind_eq_ok, pure_eq_ok]
  exact ⟨ledger, moved, rfl⟩

end Plain

end Evm
