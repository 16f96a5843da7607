import CrossChainVault.Verifier.Reading
import CrossChainVault.Verifier.Shape

set_option autoImplicit false

/- What an instruction of the deployment profile can do to its accounts, and what a consume found
when it goes through. -/

namespace Verifier

open Result
open Protocol (Bytes32)
open Leg (U64 UnixTimestamp)

/-- What may become of an account: an authority's policy generation advances, a risk key is revoked,
and nothing else ever changes. -/
inductive DeploymentAccount.Keeps : DeploymentAccount → DeploymentAccount → Prop
  | same (account : DeploymentAccount) : DeploymentAccount.Keeps account account
  | advanced (authority : DeploymentAuthority) (generation : U64)
      (later : authority.policyGeneration.raw ≤ generation.raw) :
      DeploymentAccount.Keeps (.authority authority)
        (.authority { authority with policyGeneration := generation })
  | revoked (key : RiskKey) :
      DeploymentAccount.Keeps (.riskKey key) (.riskKey { key with revoked := true })

namespace DeploymentAccount.Keeps

theorem trans {first second third : DeploymentAccount} (start : first.Keeps second)
    (rest : second.Keeps third) : first.Keeps third := by
  cases start with
  | same => exact rest
  | advanced authority generation later =>
      cases rest with
      | same => exact .advanced authority generation later
      | advanced _ final latest => exact .advanced authority final (Nat.le_trans later latest)
  | revoked key =>
      cases rest with
      | same => exact .revoked key
      | revoked => exact .revoked key

theorem receipt_eq {receipt : DeploymentReceipt} {kept : DeploymentAccount}
    (keeps : Keeps (.receipt receipt) kept) : kept = .receipt receipt := by
  cases keeps
  rfl

/-- The leg an authority is for is settled when it is created. -/
theorem authority_eq {authority : DeploymentAuthority} {kept : DeploymentAccount}
    (keeps : Keeps (.authority authority) kept) :
    ∃ later : DeploymentAuthority, kept = .authority later ∧
      later.remoteLegProgram = authority.remoteLegProgram ∧
      later.remoteConfig = authority.remoteConfig ∧
      later.networkDomain = authority.networkDomain := by
  cases keeps with
  | same => exact ⟨authority, rfl, rfl, rfl, rfl⟩
  | advanced _ generation => exact ⟨_, rfl, rfl, rfl, rfl⟩

end DeploymentAccount.Keeps

namespace Approvals

variable {a a' : Approvals} {address : Pubkey} {u : Unit}

/-- Every account is still there and kept its terms. -/
def Follows (a a' : Approvals) : Prop :=
  ∀ address account, a address = some account → ∃ kept, a' address = some kept ∧ account.Keeps kept

theorem Follows.refl (a : Approvals) : a.Follows a :=
  fun _ account stored => ⟨account, stored, .same account⟩

theorem Follows.trans {a'' : Approvals} (first : a.Follows a') (second : a'.Follows a'') :
    a.Follows a'' := by
  intro address account stored
  obtain ⟨middle, found, kept⟩ := first address account stored
  obtain ⟨last, found', kept'⟩ := second address middle found
  exact ⟨last, found', kept.trans kept'⟩

theorem Follows.receipt (follows : a.Follows a') {receipt : DeploymentReceipt}
    (stored : a address = some (.receipt receipt)) : a' address = some (.receipt receipt) := by
  obtain ⟨kept, found, keeps⟩ := follows address _ stored
  rw [keeps.receipt_eq] at found
  exact found

theorem Follows.authority (follows : a.Follows a') {authority : DeploymentAuthority}
    (stored : a address = some (.authority authority)) :
    ∃ later, a' address = some (.authority later) ∧
      later.remoteLegProgram = authority.remoteLegProgram ∧
      later.remoteConfig = authority.remoteConfig ∧
      later.networkDomain = authority.networkDomain := by
  obtain ⟨kept, found, keeps⟩ := follows address _ stored
  obtain ⟨later, rfl, same⟩ := keeps.authority_eq
  exact ⟨later, found, same⟩

theorem set_self {account : DeploymentAccount} : a.set address account address = some account :=
  Function.update_self ..

theorem set_of_ne {account : DeploymentAccount} {other : Pubkey} (apart : other ≠ address) :
    a.set address account other = a other :=
  Function.update_of_ne apart ..

/-- A new account at a free address. -/
theorem Follows.created {account : DeploymentAccount} (free : a address = none) :
    a.Follows (a.set address account) := by
  intro other before stored
  have apart : other ≠ address := by
    rintro rfl
    rw [free] at stored
    cases stored
  exact ⟨before, (set_of_ne apart).trans stored, .same before⟩

/-- An account replaced by what it may become. -/
theorem Follows.replaced {account later : DeploymentAccount} (stored : a address = some account)
    (keeps : account.Keeps later) : a.Follows (a.set address later) := by
  intro other before found
  by_cases same : other = address
  · subst same
    cases stored.symm.trans found
    exact ⟨later, set_self, keeps⟩
  · exact ⟨before, (set_of_ne same).trans found, .same before⟩

/-- The accounts after an instruction that spends no approval. -/
structure Administered (a a' : Approvals) : Prop where
  follows : a.Follows a'
  noReceipt : ∀ address receipt, a' address = some (.receipt receipt) →
    a address = some (.receipt receipt)

/-- Storing anything but a receipt creates no receipt. -/
theorem Administered.stored {account : DeploymentAccount} (follows : a.Follows (a.set address account))
    (other : ∀ receipt, account ≠ .receipt receipt) : a.Administered (a.set address account) := by
  refine ⟨follows, ?_⟩
  intro place receipt found
  by_cases same : place = address
  · rw [same, set_self, Option.some.injEq] at found
    exact absurd found (other receipt)
  · rwa [set_of_ne same] at found

@[simp] theorem loadAuthority_ok {authority : DeploymentAuthority} :
    a.loadAuthority address = .ok authority ↔ a address = some (.authority authority) := by
  unfold loadAuthority
  split
  · rename_i found stored
    simp [stored]
  · rename_i other
    simp only [reduceCtorEq, false_iff]
    exact other authority

@[simp] theorem loadRiskKey_ok {key : RiskKey} :
    a.loadRiskKey address = .ok key ↔ a address = some (.riskKey key) := by
  unfold loadRiskKey
  split
  · rename_i found stored
    simp [stored]
  · rename_i other
    simp only [reduceCtorEq, false_iff]
    exact other key

@[simp] theorem checkInit_ok {derived : Pubkey} :
    a.checkInit address derived = .ok u ↔ address = derived ∧ a address = none := by
  simp [checkInit]

@[simp] theorem administered_ok {administrator : Pubkey} {authority : DeploymentAuthority} :
    a.administered administrator address = .ok authority ↔
      a address = some (.authority authority) ∧ authority.administrator = administrator := by
  simp only [administered, bind_eq_ok, loadAuthority_ok, rejectIf_eq_ok, exists_const, pure_eq_ok,
    Decidable.not_not]
  constructor
  · rintro ⟨loaded, stored, signed, rfl⟩
    exact ⟨stored, signed⟩
  · rintro ⟨stored, signed⟩
    exact ⟨authority, stored, signed, rfl⟩

end Approvals

/- The consume. -/

/-- What a consume was given, and what it read from its transaction and its accounts. -/
structure Approval where
  config : Pubkey
  riskKey : Pubkey
  receipt : Pubkey
  nonce : Nonce
  authority : DeploymentAuthority
  key : RiskKey
  signingInput : Bytes
  message : DeploymentAuthorization

/-- The evidence a consume leaves. -/
def Approval.spent (derivation : Derivation) (now : UnixTimestamp) (approval : Approval) :
    DeploymentReceipt where
  version := deploymentProfileVersion
  config := approval.config
  remoteConfig := approval.authority.remoteConfig
  riskKey := approval.riskKey
  nonce := approval.nonce
  deploymentContext := approval.message.deploymentContext
  amount := approval.message.amount
  policyGeneration := approval.message.policyGeneration
  issuedAt := approval.message.issuedAt
  expiresAt := approval.message.expiresAt
  consumedAt := now
  messageHash := derivation.sha256 approval.signingInput

/-- The message is in force at this time: it may lead the clock by the accepted skew. -/
structure DeploymentAuthorization.InForce (message : DeploymentAuthorization) (now : UnixTimestamp) :
    Prop where
  lifetime : message.issuedAt.seconds < message.expiresAt.seconds ∧
    message.expiresAt.seconds ≤ message.issuedAt.seconds + maxLifetimeSeconds
  issued : message.issuedAt.seconds - maxIssuedAtSkewSeconds ≤ now.seconds
  unexpired : now.seconds < message.expiresAt.seconds

/-- What a consume that goes through has checked. -/
structure Approval.Granted (derivation : Derivation) (ids : ProgramIds) (call : Invocation)
    (now : UnixTimestamp) (a : Approvals) (approval : Approval) : Prop where
  authority : a approval.config = some (.authority approval.authority)
  authorityAddress : approval.config = deploymentAuthorityAddress derivation
    approval.authority.remoteLegProgram approval.authority.remoteConfig
  key : a approval.riskKey = some (.riskKey approval.key)
  keyConfig : approval.key.config = approval.config
  receiptAddress : approval.receipt =
    deploymentReceiptAddress derivation approval.config approval.nonce
  /-- The nonce was never consumed under this authority. -/
  fresh : a approval.receipt = none
  read : call.readApproval ids =
    .ok (⟨approval.key.publicKey.bytes, approval.signingInput⟩, approval.message)
  unrevoked : approval.key.revoked = false
  namesAuthority : approval.message.authority = approval.config
  networkDomain : approval.message.networkDomain = approval.authority.networkDomain
  generation : approval.message.policyGeneration = approval.authority.policyGeneration
  positive : 0 < approval.message.amount.raw
  nonce : approval.message.nonce = approval.nonce
  inForce : approval.message.InForce now
  window : approval.key.notBefore.seconds ≤ now.seconds ∧
    approval.key.notBefore.seconds ≤ approval.message.issuedAt.seconds ∧
    approval.message.expiresAt.seconds ≤ approval.key.notAfter.seconds
  follows : call.checkDeploymentFollows approval.authority approval.receipt
    approval.message.amount = .ok ()

section Inversion

variable {derivation : Derivation} {ids : ProgramIds} {a a' : Approvals}
  {administrator config riskKey : Pubkey}

theorem checkTimes_ok {message : DeploymentAuthorization} {now : UnixTimestamp} {u : Unit}
    (success : checkTimes message now = .ok u) : message.InForce now := by
  simp only [checkTimes, bind_eq_ok, rejectIf_eq_ok, exists_const, Decidable.not_not] at success
  obtain ⟨-, lifetime, -, issued, unexpired⟩ := success
  exact ⟨lifetime, by omega, by omega⟩

/-- A consume leaves one receipt, at an address that was free, and nothing else. -/
theorem consumeDeploymentAuthorization_ok {receipt : Pubkey} {nonce : Nonce} {call : Invocation}
    {now : UnixTimestamp}
    (success : consumeDeploymentAuthorization derivation ids a config riskKey receipt nonce call now =
      .ok a') :
    ∃ approval : Approval, approval.config = config ∧ approval.riskKey = riskKey ∧
      approval.receipt = receipt ∧ approval.nonce = nonce ∧
      approval.Granted derivation ids call now a ∧
      a' = a.set receipt (.receipt (approval.spent derivation now)) := by
  simp only [consumeDeploymentAuthorization, bind_eq_ok, rejectIf_eq_ok, Approvals.loadAuthority_ok,
    Approvals.loadRiskKey_ok, Approvals.checkInit_ok, pure_eq_ok, exists_const, Decidable.not_not,
    Bool.not_eq_true] at success
  obtain ⟨authority, stored, derived, key, keyStored, keyConfig, ⟨located, free⟩,
    ⟨⟨publicKey, signingInput⟩, message⟩, read, running, same, named, domain, generation, positive,
    spends, _, times, window, _, follows, rfl⟩ := success
  dsimp only at same named domain generation positive spends times window follows
  rw [same] at read
  let approval : Approval := {
    config := config
    riskKey := riskKey
    receipt := receipt
    nonce := nonce
    authority := authority
    key := key
    signingInput := signingInput
    message := message }
  have granted : approval.Granted derivation ids call now a := {
    authority := stored
    authorityAddress := derived
    key := keyStored
    keyConfig := keyConfig
    receiptAddress := located
    fresh := free
    read := read
    unrevoked := running
    namesAuthority := named
    networkDomain := domain
    generation := generation
    positive := Nat.pos_of_ne_zero positive
    nonce := spends
    inForce := checkTimes_ok times
    window := window
    follows := follows }
  exact ⟨approval, rfl, rfl, rfl, rfl, granted, rfl⟩

theorem initializeDeploymentAuthority_ok {upgradeAuthority : Pubkey}
    {programUpgradeAuthority : Option Pubkey} {remoteLegProgram remoteConfig : NamedAccount}
    {params : InitializeDeploymentAuthorityParams}
    (success : initializeDeploymentAuthority derivation ids a upgradeAuthority
      programUpgradeAuthority remoteLegProgram remoteConfig config params = .ok a') :
    a.Administered a' := by
  simp only [initializeDeploymentAuthority, bind_eq_ok, rejectIf_eq_ok, Approvals.checkInit_ok,
    pure_eq_ok, exists_const] at success
  obtain ⟨-, -, -, -, ⟨-, free⟩, -, rfl⟩ := success
  exact .stored (.created free) fun _ => DeploymentAccount.noConfusion

theorem registerRiskKey_ok {params : RegisterRiskKeyParams}
    (success : registerRiskKey derivation a administrator config riskKey params = .ok a') :
    a.Administered a' := by
  simp only [registerRiskKey, bind_eq_ok, rejectIf_eq_ok, Approvals.checkInit_ok, pure_eq_ok,
    exists_const] at success
  obtain ⟨_, -, ⟨-, free⟩, -, -, rfl⟩ := success
  exact .stored (.created free) fun _ => DeploymentAccount.noConfusion

theorem revokeRiskKey_ok (success : revokeRiskKey a administrator config riskKey = .ok a') :
    a.Administered a' := by
  simp only [revokeRiskKey, bind_eq_ok, rejectIf_eq_ok, Approvals.loadRiskKey_ok, pure_eq_ok,
    exists_const] at success
  obtain ⟨_, -, key, stored, -, -, rfl⟩ := success
  exact .stored (.replaced stored (.revoked key)) fun _ => DeploymentAccount.noConfusion

theorem advancePolicyGeneration_ok
    (success : advancePolicyGeneration a administrator config = .ok a') : a.Administered a' := by
  simp only [advancePolicyGeneration, bind_eq_ok, Approvals.administered_ok,
    Unsigned.checkedAdd_eq_ok, pure_eq_ok] at success
  obtain ⟨authority, ⟨stored, -⟩, generation, later, rfl⟩ := success
  have forward : authority.policyGeneration.raw ≤ generation.raw := by omega
  exact .stored (.replaced stored (.advanced authority generation forward)) fun _ =>
    DeploymentAccount.noConfusion

/-- Whether an operation spends an approval. -/
def DeploymentOperation.consumes : DeploymentOperation → Bool
  | .consumeDeploymentAuthorization .. => true
  | _ => false

theorem Approvals.step_administered {operation : DeploymentOperation}
    (other : operation.consumes = false) (success : a.step derivation ids operation = .ok a') :
    a.Administered a' := by
  cases operation with
  | initializeDeploymentAuthority => exact initializeDeploymentAuthority_ok success
  | registerRiskKey => exact registerRiskKey_ok success
  | revokeRiskKey => exact revokeRiskKey_ok success
  | advancePolicyGeneration => exact advancePolicyGeneration_ok success
  | consumeDeploymentAuthorization => cases other

end Inversion

/- The transaction around a consume that goes through. -/

section Around

variable {derivation : Derivation} {ids : ProgramIds} {call : Invocation} {now : UnixTimestamp}
  {a : Approvals} {approval : Approval}

/-- The instruction after it is the leg's deployment of the signed amount. -/
theorem Approval.Granted.next (granted : approval.Granted derivation ids call now a) :
    ∃ next, call.instructions[call.current + 1]? = some next ∧
      next.programId = approval.authority.remoteLegProgram ∧
      next.data = deployToStrategyDiscriminator ++ littleEndian64 approval.message.amount ∧
      next.accounts.length = deployAccountCount ∧
      next.accounts[deployRemoteConfigIndex]? = some approval.authority.remoteConfig ∧
      next.accounts[deployReceiptIndex]? = some approval.receipt := by
  have follows := granted.follows
  simp only [Invocation.checkDeploymentFollows, bind_eq_ok, okOr_eq_ok, rejectIf_eq_ok,
    Decidable.not_not] at follows
  exact follows

/-- It runs at the top level, and the instruction before it is a native one whose key, signature and
message are the registered key, some signature and the encoded message. -/
theorem Approval.Granted.signed (granted : approval.Granted derivation ids call now a) :
    call.stackHeight = transactionLevelStackHeight ∧ approval.signingInput = approval.message.encode ∧
      ∃ precompile signature, Shape ids call.instructions call.current precompile ∧
        nativeReads precompile.data =
          some (approval.key.publicKey.bytes, signature, approval.signingInput) := by
  have read := granted.read
  simp only [Invocation.readApproval, bind_eq_ok, pure_eq_ok, Prod.mk.injEq] at read
  obtain ⟨precompile, loaded, verified, parsed, message, decoded, rfl, rfl⟩ := read
  obtain ⟨top, shape⟩ := loadVerifiedPrecompile_iff.mp loaded
  obtain ⟨publicKey, signature, signingInput, built, builds, data, reads⟩ :
      ∃ publicKey signature signingInput built,
        secp256r1Instruction ids publicKey signature signingInput = .ok built ∧
        precompile.data = built.data ∧ _ = VerifiedSignature.mk publicKey.bytes signingInput :=
    parsePrecompileData_iff.mp parsed
  rw [VerifiedSignature.mk.injEq] at reads
  obtain ⟨key, input⟩ := reads
  refine ⟨top, decode_iff.mp decoded, precompile, signature.bytes, shape, ?_⟩
  rw [data, nativeReads_built builds, key, input]

end Around

end Verifier
