import CrossChainVault.Base.FloorSum
import CrossChainVault.Deployment.Authorization
import CrossChainVault.Leg.Steps

set_option autoImplicit false

/- The strategy adapter. It holds principal in one token vault and returns it on request with a
configured loss. It earns nothing. -/

namespace Strategy

open Result
open Leg (U64 UnixTimestamp minimum)
open Verifier (Pubkey ascii)

/-- Why the token program refused a transfer. -/
inductive TokenError
  | accountFrozen
  | insufficientFunds
  | mintMismatch
  | ownerMismatch
  | overflow
  | nonNativeHasBalance
  | alreadyInUse
  | invalidState
deriving DecidableEq, Repr

/-- A token account, as far as the two programs look at it. -/
structure TokenAccount where
  key : Pubkey
  owner : Pubkey
  mint : Pubkey
  delegate : Option Pubkey
  closeAuthority : Option Pubkey
  frozen : Bool
  amount : U64
deriving DecidableEq

/-- A transfer as the token program documents it: neither account is frozen, both hold the same
mint, the owner signs, and exactly the amount moves. -/
structure TokenAccount.Transfers (source destination : TokenAccount) (authority : Pubkey)
    (amount : U64) (moved : TokenAccount × TokenAccount) : Prop where
  sourceThawed : source.frozen = false
  destinationThawed : destination.frozen = false
  sameMint : source.mint = destination.mint
  owned : source.owner = authority
  moves : ∃ left arrived, left.raw + amount.raw = source.amount.raw ∧
    arrived.raw = destination.amount.raw + amount.raw ∧
    moved = ({ source with amount := left }, { destination with amount := arrived })

/-- The token program, which is not part of this repository. The two programs rely on nothing but
what a transfer between two accounts needs and does, where the source has no delegate. -/
structure TokenProgram where
  transfer (source destination : TokenAccount) (authority : Pubkey) (amount : U64) :
    Except TokenError (TokenAccount × TokenAccount)
  transfer_ok : ∀ {source destination authority amount moved}, source.key ≠ destination.key →
    source.delegate = none →
    (transfer source destination authority amount = .ok moved ↔
      source.Transfers destination authority amount moved)

/-- Moves tokens from one account to another on the owner's signature. -/
def TokenAccount.transfer (source destination : TokenAccount) (authority : Pubkey) (amount : U64) :
    Except TokenError (TokenAccount × TokenAccount) := do
  rejectIf (source.frozen ∨ destination.frozen) .accountFrozen
  rejectIf (source.amount < amount) .insufficientFunds
  rejectIf (source.mint ≠ destination.mint) .mintMismatch
  rejectIf (source.owner ≠ authority) .ownerMismatch
  let left ← source.amount.checkedSub amount .overflow
  let arrived ← destination.amount.checkedAdd amount .overflow
  pure ({ source with amount := left }, { destination with amount := arrived })

theorem TokenAccount.transfer_ok {source destination : TokenAccount} {authority : Pubkey}
    {amount : U64} {moved : TokenAccount × TokenAccount} :
    source.transfer destination authority amount = .ok moved ↔
      source.Transfers destination authority amount moved := by
  simp only [transfer, bind_eq_ok, rejectIf_eq_ok, not_or, Bool.not_eq_true, Unsigned.lt_def,
    Nat.not_lt, ne_eq, not_not, Unsigned.checkedSub_eq_ok, Unsigned.checkedAdd_eq_ok, pure_eq_ok,
    exists_const]
  constructor
  · rintro ⟨⟨sourceThawed, destinationThawed⟩, -, sameMint, owned, left, hLeft, arrived, hArrived,
      rfl⟩
    exact ⟨sourceThawed, destinationThawed, sameMint, owned, left, arrived, hLeft, hArrived, rfl⟩
  · intro transfers
    obtain ⟨left, arrived, hLeft, hArrived, rfl⟩ := transfers.moves
    exact ⟨⟨transfers.sourceThawed, transfers.destinationThawed⟩, by omega, transfers.sameMint,
      transfers.owned, left, hLeft, arrived, hArrived, rfl⟩

/-- The plainest token program that does what is documented. -/
def TokenProgram.plain : TokenProgram where
  transfer := TokenAccount.transfer
  transfer_ok := fun _ _ => TokenAccount.transfer_ok

/-- The ids of the programs, what the token program does, and the address a program derives from a
seed prefix and one key. -/
structure Programs where
  remoteLeg : Pubkey
  strategy : Pubkey
  token : Pubkey
  tokens : TokenProgram
  derive : Bytes → Pubkey → Pubkey → Pubkey

def adapterStateSeed : Bytes :=
  ascii ['a', 'd', 'a', 'p', 't', 'e', 'r', '-', 's', 't', 'a', 't', 'e']

def adapterAuthoritySeed : Bytes :=
  ascii ['a', 'd', 'a', 'p', 't', 'e', 'r', '-', 'a', 'u', 't', 'h', 'o', 'r', 'i', 't', 'y']

def remoteCustodyAuthoritySeed : Bytes :=
  ascii ['c', 'u', 's', 't', 'o', 'd', 'y', '-', 'a', 'u', 't', 'h', 'o', 'r', 'i', 't', 'y']

def remoteCallerSeed : Bytes :=
  ascii ['a', 'd', 'a', 'p', 't', 'e', 'r', '-', 'c', 'a', 'l', 'l', 'e', 'r']

def adapterStateVersion : Unsigned 8 := 1

/-- Largest basis point value the adapter accepts. -/
def maxBasisPoints : Unsigned 16 := 10000

inductive AdapterError
  | unauthorized
  | invalidStateVersion
  | invalidRemoteLeg
  | invalidBasisPoints
  | invalidMint
  | invalidTokenProgram
  | invalidAdapterVault
  | invalidAdapterAuthority
  | invalidRemoteCustody
  | depositsPaused
  | insufficientLiquidity
  | invalidBalanceDelta
  | nothingToDo
  | arithmeticOverflow
  -- The framework's own failures, and the token program's.
  | invalidProgramId
  | constraintSeeds
  | token (error : TokenError)
deriving DecidableEq, Repr

/-- Fixed settings plus the principal this adapter currently holds. -/
structure AdapterState where
  stateVersion : Unsigned 8
  depositsPaused : Bool
  remoteLegProgram : Pubkey
  remoteConfig : Pubkey
  mint : Pubkey
  tokenProgram : Pubkey
  adapterAuthority : Pubkey
  adapterTokenVault : Pubkey
  testAuthority : Pubkey
  principal : U64
  maxLiquidPrincipal : U64
  lossBps : Unsigned 16
  initializedAt : UnixTimestamp
deriving DecidableEq

/-- Settings the deployer fixes for the life of the adapter. -/
structure AdapterParams where
  remoteLegProgram : Pubkey
  remoteConfig : Pubkey
  testAuthority : Pubkey
  maxLiquidPrincipal : U64
  lossBps : Unsigned 16
deriving DecidableEq

/-- Settings the test authority may change between scenarios. -/
structure TestConditions where
  maxLiquidPrincipal : U64
  lossBps : Unsigned 16
  depositsPaused : Bool
deriving DecidableEq

/-- The accounts of one call. A deposit has no use for the authority and the custody. -/
structure CallAccounts where
  remoteCaller : Pubkey
  adapterState : Pubkey
  adapterAuthority : Pubkey
  remoteCustody : TokenAccount
  adapterTokenVault : TokenAccount
  mint : Pubkey
  tokenProgram : Pubkey
deriving DecidableEq

/-- Deterministic loss on one principal reduction. -/
def lossOn (reduction : U64) (lossBps : Unsigned 16) : Except AdapterError U64 :=
  let scaled := reduction.raw * lossBps.raw
  if scaled < 2 ^ 128 then
    let loss := scaled / maxBasisPoints.raw
    if fits : loss < 2 ^ 64 then .ok ⟨loss, fits⟩ else .error .arithmeticOverflow
  else .error .arithmeticOverflow

namespace AdapterState

variable (programs : Programs)

/-- Where the state of an adapter for this remote configuration lies. -/
def address (remoteConfig : Pubkey) : Pubkey :=
  programs.derive adapterStateSeed remoteConfig programs.strategy

/-- The authority that owns the adapter vault. -/
def authority (adapterState : Pubkey) : Pubkey :=
  programs.derive adapterAuthoritySeed adapterState programs.strategy

/-- The authority that owns the configured remote leg's custody. -/
def remoteCustodyAuthority (s : AdapterState) : Pubkey :=
  programs.derive remoteCustodyAuthoritySeed s.remoteConfig s.remoteLegProgram

/-- The address the configured remote leg signs its adapter calls with. -/
def remoteCaller (s : AdapterState) : Pubkey :=
  programs.derive remoteCallerSeed s.remoteConfig s.remoteLegProgram

def initializeAdapter (params : AdapterParams) (mint tokenProgram : Pubkey) (vault : TokenAccount)
    (now : UnixTimestamp) : Except AdapterError AdapterState := do
  rejectIf (tokenProgram ≠ programs.token) .invalidProgramId
  rejectIf params.remoteLegProgram.isZero .invalidRemoteLeg
  rejectIf params.remoteConfig.isZero .invalidRemoteLeg
  rejectIf params.testAuthority.isZero .unauthorized
  rejectIf (maxBasisPoints < params.lossBps) .invalidBasisPoints
  let adapterAuthority := authority programs (address programs params.remoteConfig)
  rejectIf (vault.owner ≠ adapterAuthority) .invalidAdapterVault
  rejectIf (vault.mint ≠ mint) .invalidMint
  rejectIf vault.delegate.isSome .invalidAdapterVault
  rejectIf vault.closeAuthority.isSome .invalidAdapterVault
  pure {
    stateVersion := adapterStateVersion
    depositsPaused := false
    remoteLegProgram := params.remoteLegProgram
    remoteConfig := params.remoteConfig
    mint := mint
    tokenProgram := tokenProgram
    adapterAuthority := adapterAuthority
    adapterTokenVault := vault.key
    testAuthority := params.testAuthority
    principal := .zero
    maxLiquidPrincipal := params.maxLiquidPrincipal
    lossBps := params.lossBps
    initializedAt := now }

/-- Shapes the next scenario without touching principal or minting assets. -/
def configureAdapterTestConditions (s : AdapterState) (testAuthority : Pubkey)
    (conditions : TestConditions) : Except AdapterError AdapterState := do
  rejectIf (testAuthority ≠ s.testAuthority) .unauthorized
  rejectIf (maxBasisPoints < conditions.lossBps) .invalidBasisPoints
  pure { s with
    maxLiquidPrincipal := conditions.maxLiquidPrincipal
    lossBps := conditions.lossBps
    depositsPaused := conditions.depositsPaused }

/-- What the framework checks before either call: the leg signed, and this is its adapter. -/
def checkCaller (s : AdapterState) (accounts : CallAccounts) : Except AdapterError Unit := do
  rejectIf (accounts.tokenProgram ≠ programs.token) .invalidProgramId
  rejectIf (accounts.remoteCaller ≠ s.remoteCaller programs) .unauthorized
  rejectIf (accounts.adapterState ≠ address programs s.remoteConfig) .constraintSeeds

/-- Rules every asset moving instruction shares. -/
def checkCommon (s : AdapterState) (accounts : CallAccounts) : Except AdapterError Unit := do
  rejectIf (s.stateVersion ≠ adapterStateVersion) .invalidStateVersion
  rejectIf (accounts.tokenProgram ≠ s.tokenProgram) .invalidTokenProgram
  rejectIf (accounts.mint ≠ s.mint) .invalidMint

/-- Counts an exact amount the remote leg already moved into the vault. Losses stay in the vault, so
it always holds at least the principal. -/
def depositExact (s : AdapterState) (accounts : CallAccounts) (amount : U64) :
    Except AdapterError AdapterState := do
  s.checkCaller programs accounts
  rejectIf (s.depositsPaused = true) .depositsPaused
  rejectIf amount.isZero .nothingToDo
  s.checkCommon accounts
  rejectIf (accounts.adapterTokenVault.key ≠ s.adapterTokenVault) .invalidAdapterVault
  let principal ← s.principal.checkedAdd amount .arithmeticOverflow
  rejectIf (accounts.adapterTokenVault.amount < principal) .invalidBalanceDelta
  pure { s with principal := principal }

/-- Returns liquid principal to remote custody, less the configured loss: the adapter, its vault and
the custody afterwards. -/
def withdrawForRemoteLeg (s : AdapterState) (accounts : CallAccounts)
    (requestedPrincipal : U64) :
    Except AdapterError (AdapterState × TokenAccount × TokenAccount) := do
  s.checkCaller programs accounts
  rejectIf (accounts.adapterAuthority ≠ authority programs accounts.adapterState) .constraintSeeds
  s.checkCommon accounts
  rejectIf (accounts.adapterTokenVault.key ≠ s.adapterTokenVault) .invalidAdapterVault
  rejectIf (accounts.adapterAuthority ≠ s.adapterAuthority) .invalidAdapterAuthority
  rejectIf (accounts.remoteCustody.owner ≠ s.remoteCustodyAuthority programs) .invalidRemoteCustody
  rejectIf (accounts.remoteCustody.mint ≠ s.mint) .invalidMint
  let reduction := minimum (minimum requestedPrincipal s.principal) s.maxLiquidPrincipal
  rejectIf reduction.isZero .insufficientLiquidity
  let loss ← lossOn reduction s.lossBps
  let returned ← reduction.checkedSub loss .arithmeticOverflow
  -- A full loss moves no token at all.
  let moved ← (if returned.isZero then .ok (accounts.adapterTokenVault, accounts.remoteCustody)
    else (programs.tokens.transfer accounts.adapterTokenVault accounts.remoteCustody
      accounts.adapterAuthority returned).mapError .token)
  let principal ← s.principal.checkedSub reduction .arithmeticOverflow
  pure ({ s with principal := principal }, moved.1, moved.2)

end AdapterState

/- What each of them comes to. -/

section Specs

variable {programs : Programs} {s s' : AdapterState} {accounts : CallAccounts}

/-- What a basis point share of an amount comes to, rounded down. -/
def lossRate (lossBps : Unsigned 16) : Rate := ⟨lossBps.raw, maxBasisPoints.raw⟩

theorem lossRate_floor_le {lossBps : Unsigned 16} (valid : lossBps.raw ≤ maxBasisPoints.raw)
    (amount : Nat) : (lossRate lossBps).floor amount ≤ amount := by
  unfold Rate.floor lossRate
  apply Nat.div_le_of_le_mul
  rw [Nat.mul_comm]
  exact Nat.mul_le_mul_right _ valid

/-- A full loss takes everything, a smaller one leaves something. -/
theorem lossRate_full {lossBps : Unsigned 16} (full : lossBps.raw = maxBasisPoints.raw)
    (amount : Nat) : (lossRate lossBps).floor amount = amount := by
  unfold Rate.floor lossRate
  rw [full]
  exact Nat.mul_div_cancel amount (by decide)

theorem lossRate_floor_lt {lossBps : Unsigned 16} {amount : Nat}
    (partly : lossBps.raw < maxBasisPoints.raw) (some : amount ≠ 0) :
    (lossRate lossBps).floor amount < amount := by
  unfold Rate.floor lossRate
  apply Nat.div_lt_of_lt_mul
  rw [Nat.mul_comm maxBasisPoints.raw]
  exact Nat.mul_lt_mul_of_pos_left partly (Nat.pos_of_ne_zero some)

/-- With valid settings the loss is never more than the reduction, so it is always computed. -/
theorem lossOn_ok {reduction loss : U64} {lossBps : Unsigned 16}
    (valid : lossBps.raw ≤ maxBasisPoints.raw) :
    lossOn reduction lossBps = .ok loss ↔ loss.raw = (lossRate lossBps).floor reduction.raw := by
  have narrow : reduction.raw * lossBps.raw < 2 ^ 128 := by
    calc reduction.raw * lossBps.raw < 2 ^ 64 * 2 ^ 16 :=
          Nat.mul_lt_mul'' reduction.bound lossBps.bound
      _ ≤ 2 ^ 128 := by decide
  have fits : reduction.raw * lossBps.raw / maxBasisPoints.raw < 2 ^ 64 :=
    Nat.lt_of_le_of_lt (lossRate_floor_le valid reduction.raw) reduction.bound
  unfold lossOn
  simp only
  rw [if_pos narrow, dif_pos fits, Except.ok.injEq, ← Unsigned.raw_inj, eq_comm]
  rfl

/-- The accounts of a call are the ones this adapter was initialized with. -/
structure AdapterState.Knows (programs : Programs) (s : AdapterState) (accounts : CallAccounts) :
    Prop where
  token : accounts.tokenProgram = programs.token
  remoteCaller : accounts.remoteCaller = s.remoteCaller programs
  adapterState : accounts.adapterState = AdapterState.address programs s.remoteConfig
  stateVersion : s.stateVersion = adapterStateVersion
  tokenProgram : accounts.tokenProgram = s.tokenProgram
  mint : accounts.mint = s.mint
  adapterTokenVault : accounts.adapterTokenVault.key = s.adapterTokenVault

namespace AdapterState

theorem depositExact_ok {amount : U64} : s.depositExact programs accounts amount = .ok s' ↔
    s.Knows programs accounts ∧ s.depositsPaused = false ∧ amount.raw ≠ 0 ∧
      ∃ principal, principal.raw = s.principal.raw + amount.raw ∧
        principal.raw ≤ accounts.adapterTokenVault.amount.raw ∧
        s' = { s with principal := principal } := by
  simp only [depositExact, checkCaller, checkCommon, bind_eq_ok, rejectIf_eq_ok, exists_const,
    ne_eq, not_not, Bool.not_eq_true, Unsigned.isZero_iff, Unsigned.checkedAdd_eq_ok,
    Unsigned.lt_def, Nat.not_lt, pure_eq_ok]
  constructor
  · rintro ⟨⟨token, caller, state⟩, running, some, ⟨version, program, mint⟩, vault, principal,
      hPrincipal, covered, rfl⟩
    exact ⟨⟨token, caller, state, version, program, mint, vault⟩, running, some, principal,
      hPrincipal, covered, rfl⟩
  · rintro ⟨knows, running, some, principal, hPrincipal, covered, rfl⟩
    exact ⟨⟨knows.token, knows.remoteCaller, knows.adapterState⟩, running, some,
      ⟨knows.stateVersion, knows.tokenProgram, knows.mint⟩, knows.adapterTokenVault, principal,
      hPrincipal, covered, rfl⟩

theorem configureAdapterTestConditions_ok {testAuthority : Pubkey} {conditions : TestConditions} :
    s.configureAdapterTestConditions testAuthority conditions = .ok s' ↔
      testAuthority = s.testAuthority ∧ conditions.lossBps.raw ≤ maxBasisPoints.raw ∧
      s' = { s with
        maxLiquidPrincipal := conditions.maxLiquidPrincipal
        lossBps := conditions.lossBps
        depositsPaused := conditions.depositsPaused } := by
  simp only [configureAdapterTestConditions, bind_eq_ok, rejectIf_eq_ok, exists_const, ne_eq,
    not_not, Unsigned.lt_def, Nat.not_lt, pure_eq_ok, eq_comm (a := s')]

/-- What a withdrawal needs beside the accounts a deposit needs. -/
structure KnowsCustody (programs : Programs) (s : AdapterState) (accounts : CallAccounts) :
    Prop where
  knows : s.Knows programs accounts
  derived : accounts.adapterAuthority = authority programs accounts.adapterState
  adapterAuthority : accounts.adapterAuthority = s.adapterAuthority
  custodyOwner : accounts.remoteCustody.owner = s.remoteCustodyAuthority programs
  custodyMint : accounts.remoteCustody.mint = s.mint

/-- What the adapter unwinds for a request. -/
def reduction (s : AdapterState) (requested : Nat) : Nat :=
  min (min requested s.principal.raw) s.maxLiquidPrincipal.raw

/-- A token transfer that also takes place when there is nothing to move. -/
theorem transfer_unless_zero {source destination : TokenAccount} {authority : Pubkey}
    {amount : U64} {moved : TokenAccount × TokenAccount} (apart : source.key ≠ destination.key)
    (alone : source.delegate = none) :
    (if amount.raw = 0 then .ok (source, destination)
      else (programs.tokens.transfer source destination authority amount).mapError
        AdapterError.token) = .ok moved ↔
      (amount.raw ≠ 0 → source.frozen = false ∧ destination.frozen = false ∧
        source.mint = destination.mint ∧ source.owner = authority) ∧
      ∃ left arrived, left.raw + amount.raw = source.amount.raw ∧
        arrived.raw = destination.amount.raw + amount.raw ∧
        moved = ({ source with amount := left }, { destination with amount := arrived }) := by
  by_cases none : amount.raw = 0
  · rw [if_pos none, Except.ok.injEq]
    constructor
    · intro same
      exact ⟨fun some => absurd none some, source.amount, destination.amount, by omega, by omega,
        same.symm⟩
    · rintro ⟨-, left, arrived, hLeft, hArrived, rfl⟩
      have sameLeft : left = source.amount := Unsigned.ext (by omega)
      have sameArrived : arrived = destination.amount := Unsigned.ext (by omega)
      rw [sameLeft, sameArrived]
  · rw [if_neg none, mapError_eq_ok, programs.tokens.transfer_ok apart alone]
    constructor
    · intro transfers
      exact ⟨fun _ => ⟨transfers.sourceThawed, transfers.destinationThawed, transfers.sameMint,
        transfers.owned⟩, transfers.moves⟩
    · rintro ⟨may, moves⟩
      obtain ⟨sourceThawed, destinationThawed, sameMint, owned⟩ := may none
      exact ⟨sourceThawed, destinationThawed, sameMint, owned, moves⟩

theorem withdrawForRemoteLeg_ok {requested : U64} {vault custody : TokenAccount}
    (valid : s.lossBps.raw ≤ maxBasisPoints.raw)
    (apart : accounts.adapterTokenVault.key ≠ accounts.remoteCustody.key)
    (alone : accounts.adapterTokenVault.delegate = none) :
    s.withdrawForRemoteLeg programs accounts requested = .ok (s', vault, custody) ↔
      s.KnowsCustody programs accounts ∧ s.reduction requested.raw ≠ 0 ∧
      ∃ returned principal vaultLeft custodyNow : U64,
        returned.raw + (lossRate s.lossBps).floor (s.reduction requested.raw) =
          s.reduction requested.raw ∧
        (returned.raw ≠ 0 → accounts.adapterTokenVault.frozen = false ∧
          accounts.remoteCustody.frozen = false ∧
          accounts.adapterTokenVault.mint = accounts.remoteCustody.mint ∧
          accounts.adapterTokenVault.owner = accounts.adapterAuthority) ∧
        principal.raw + s.reduction requested.raw = s.principal.raw ∧
        vaultLeft.raw + returned.raw = accounts.adapterTokenVault.amount.raw ∧
        custodyNow.raw = accounts.remoteCustody.amount.raw + returned.raw ∧
        s' = { s with principal := principal } ∧
        vault = { accounts.adapterTokenVault with amount := vaultLeft } ∧
        custody = { accounts.remoteCustody with amount := custodyNow } := by
  have reduces : (minimum (minimum requested s.principal) s.maxLiquidPrincipal).raw =
      s.reduction requested.raw := by
    rw [Leg.minimum_raw, Leg.minimum_raw]
    rfl
  simp only [withdrawForRemoteLeg, checkCaller, checkCommon, bind_eq_ok, rejectIf_eq_ok,
    exists_const, ne_eq, not_not, Unsigned.isZero_iff, lossOn_ok valid, Unsigned.checkedSub_eq_ok,
    transfer_unless_zero apart alone, pure_eq_ok, reduces]
  constructor
  · rintro ⟨⟨token, caller, state⟩, derived, ⟨version, program, mint⟩, key, authority, owner,
      custodyMint, some, loss, hLoss, returned, hReturned, moved, ⟨may, vaultLeft, custodyNow,
        hLeft, hNow, rfl⟩, principal, hPrincipal, same⟩
    cases same
    exact ⟨⟨⟨token, caller, state, version, program, mint, key⟩, derived, authority, owner,
      custodyMint⟩, some, returned, principal, vaultLeft, custodyNow, by omega, may, hPrincipal,
      hLeft, hNow, rfl, rfl, rfl⟩
  · rintro ⟨⟨knows, derived, authority, owner, custodyMint⟩, some, returned, principal, vaultLeft,
      custodyNow, hReturned, may, hPrincipal, hLeft, hNow, rfl, rfl, rfl⟩
    have fits : (lossRate s.lossBps).floor (s.reduction requested.raw) < 2 ^ 64 := by
      have := (minimum (minimum requested s.principal) s.maxLiquidPrincipal).bound
      omega
    exact ⟨⟨knows.token, knows.remoteCaller, knows.adapterState⟩, derived,
      ⟨knows.stateVersion, knows.tokenProgram, knows.mint⟩, knows.adapterTokenVault, authority,
      owner, custodyMint, some, ⟨_, fits⟩, rfl, returned, hReturned, _,
      ⟨may, vaultLeft, custodyNow, hLeft, hNow, rfl⟩, principal, hPrincipal, rfl⟩

/-- A withdrawal changes nothing about the adapter but its principal. -/
theorem withdrawForRemoteLeg_settings {requested : U64}
    {done : AdapterState × TokenAccount × TokenAccount}
    (success : s.withdrawForRemoteLeg programs accounts requested = .ok done) :
    done.1 = { s with principal := done.1.principal } := by
  simp only [withdrawForRemoteLeg, bind_eq_ok, pure_eq_ok] at success
  obtain ⟨-, -, -, -, -, -, -, -, -, -, -, -, -, -, -, -, loss, -, returned, -, moved, -, principal, -,
    rfl⟩ := success
  rfl

theorem initializeAdapter_ok {params : AdapterParams} {mint tokenProgram : Pubkey}
    {vault : TokenAccount} {now : UnixTimestamp}
    (success : initializeAdapter programs params mint tokenProgram vault now = .ok s) :
    s.stateVersion = adapterStateVersion ∧ s.principal = .zero ∧
      s.lossBps.raw ≤ maxBasisPoints.raw ∧ s.remoteConfig = params.remoteConfig ∧
      s.remoteLegProgram = params.remoteLegProgram ∧ s.tokenProgram = programs.token ∧
      s.mint = vault.mint ∧ s.adapterTokenVault = vault.key ∧
      s.adapterAuthority = authority programs (address programs params.remoteConfig) := by
  simp only [initializeAdapter, bind_eq_ok, rejectIf_eq_ok, exists_const, ne_eq, not_not,
    Unsigned.lt_def, Nat.not_lt, pure_eq_ok] at success
  obtain ⟨token, -, -, -, valid, -, mint, -, -, rfl⟩ := success
  exact ⟨rfl, rfl, valid, rfl, rfl, token, mint.symm, rfl, rfl⟩

end AdapterState

end Specs

end Strategy
