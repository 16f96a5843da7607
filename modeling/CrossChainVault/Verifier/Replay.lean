import CrossChainVault.Base.History
import CrossChainVault.Verifier.Verdict
import Mathlib.Data.Set.Function

set_option autoImplicit false

/- What a run of the first profile can never do: register a key or a mandate twice, bring a revoked
one back, or spend a verdict twice. -/

namespace Verifier

open Result History
open Protocol (Bytes32)
open Leg (UnixTimestamp)

/- Seeds. -/

theorem length_wide (value : Bytes32) : (wide value).length = 32 := Bytes.length_toBigEndian 32 _

theorem wide_inj {value other : Bytes32} (same : wide value = wide other) : value = other := by
  apply Unsigned.ext
  have read := congrArg Bytes.fromBigEndian same
  rwa [wide, wide, Bytes.fromBigEndian_toBigEndian 32 _ value.bound,
    Bytes.fromBigEndian_toBigEndian 32 _ other.bound] at read

theorem kidSeed_of_le {kid : Bytes} (short : kid.length ≤ maxKidLen) : kidSeed kid = kid :=
  if_neg (Nat.not_lt.mpr short)

/-- Two addresses of a family that starts with its config are told apart by what follows. -/
theorem seeds_inj {tag rest rest' : Bytes} {config config' : Pubkey}
    (same : tag ++ wide config ++ rest = tag ++ wide config' ++ rest') :
    config = config' ∧ rest = rest' := by
  rw [List.append_assoc, List.append_assoc] at same
  have tails := List.append_cancel_left same
  obtain ⟨first, second⟩ := List.append_inj tails (by rw [length_wide, length_wide])
  exact ⟨wide_inj first, second⟩

/-- The seeds of an account, from its own fields. -/
def Account.seeds : Account → Bytes
  | .config settings => configSeed ++ settings.environment.seed
  | .trustedKey key => trustedKeySeed ++ wide key.config ++ kidSeed key.kid
  | .mandate approved => mandateSeed ++ wide approved.config ++ wide approved.mandateHash
  | .receipt spent => receiptSeed ++ wide spent.config ++ wide spent.nonceHash

inductive Family
  | config
  | trustedKey
  | mandate
  | receipt
deriving DecidableEq, Repr

def Account.family : Account → Family
  | .config _ => .config
  | .trustedKey _ => .trustedKey
  | .mandate _ => .mandate
  | .receipt _ => .receipt

/-- What the first byte of a family's seeds is, and whether they are as short as a config's. -/
def Family.mark : Family → Option UInt8 × Bool
  | .config => (some 0x63, true)
  | .trustedKey => (some 0x74, false)
  | .mandate => (some 0x6d, false)
  | .receipt => (some 0x63, false)

theorem Account.seeds_mark (account : Account) :
    (account.seeds.head?, decide (account.seeds.length ≤ 7)) = account.family.mark := by
  have long {tag rest : Bytes} {settings : Pubkey} :
      decide ((tag ++ wide settings ++ rest).length ≤ 7) = false := by
    rw [decide_eq_false_iff_not, List.length_append, List.length_append, length_wide]
    omega
  cases account with
  | config settings =>
      obtain ⟨administrator, consumer, environment⟩ := settings
      cases environment <;> rfl
  | trustedKey key => exact congrArg (Prod.mk _) long
  | mandate approved => exact congrArg (Prod.mk _) long
  | receipt spent => exact congrArg (Prod.mk _) long

/-- No account of one family has the seeds of another. -/
theorem Account.family_of_seeds {account other : Account} (same : account.seeds = other.seeds) :
    account.family = other.family := by
  have marks := account.seeds_mark
  rw [same, other.seeds_mark] at marks
  have apart : ∀ first second : Family, first.mark = second.mark → first = second := by
    intro first second
    cases first <;> cases second <;> decide
  exact (apart _ _ marks).symm

/-- What an account is for: its family, its config, and what it is registered under there. -/
def Account.identity : Account → Family × Option Pubkey × Bytes
  | .config settings => (.config, none, settings.environment.seed)
  | .trustedKey key => (.trustedKey, some key.config, key.kid)
  | .mandate approved => (.mandate, some approved.config, wide approved.mandateHash)
  | .receipt spent => (.receipt, some spent.config, wide spent.nonceHash)

/-- An account as it is created: a key's kid is a seed of its own, and a mandate is under the hash
of its id. -/
def Account.WellFormed (sha256 : Bytes → Bytes32) : Account → Prop
  | .trustedKey key => key.kid.length ≤ maxKidLen
  | .mandate approved => approved.mandateHash = mandateHash sha256 approved.mandateId
  | _ => True

/-- The seeds are concatenated without separators, and still no two accounts share them. -/
theorem Account.identity_of_seeds {sha256 : Bytes → Bytes32} {account other : Account}
    (formed : account.WellFormed sha256) (formed' : other.WellFormed sha256)
    (same : account.seeds = other.seeds) : account.identity = other.identity := by
  have family := Account.family_of_seeds same
  cases account with
  | config settings =>
      cases other with
      | config settings' => exact congrArg (fun rest => (_, _, rest)) (List.append_cancel_left same)
      | _ => cases family
  | trustedKey key =>
      cases other with
      | trustedKey key' =>
          obtain ⟨config, kid⟩ := seeds_inj same
          rw [kidSeed_of_le formed, kidSeed_of_le formed'] at kid
          rw [Account.identity, Account.identity, config, kid]
      | _ => cases family
  | mandate approved =>
      cases other with
      | mandate approved' =>
          obtain ⟨config, hash⟩ := seeds_inj same
          rw [Account.identity, Account.identity, config, hash]
      | _ => cases family
  | receipt spent =>
      cases other with
      | receipt spent' =>
          obtain ⟨config, hash⟩ := seeds_inj same
          rw [Account.identity, Account.identity, config, hash]
      | _ => cases family

/- What an instruction can do. -/

/-- Every account sits at the address its own fields derive. -/
def World.Placed (derivation : Derivation) (w : World) : Prop :=
  ∀ address account, w address = some account →
    address = derivation.address account.seeds ∧ account.WellFormed derivation.sha256

/-- What may become of an account: a key or a mandate is revoked, and nothing else ever changes. -/
inductive Account.Keeps : Account → Account → Prop
  | same (account : Account) : Account.Keeps account account
  | revokedKey (key : TrustedKey) :
      Account.Keeps (.trustedKey key) (.trustedKey { key with revoked := true })
  | revokedMandate (approved : Mandate) :
      Account.Keeps (.mandate approved) (.mandate { approved with revoked := true })

theorem Account.Keeps.trans {first second third : Account} (start : first.Keeps second)
    (rest : second.Keeps third) : first.Keeps third := by
  cases start with
  | same => exact rest
  | revokedKey key =>
      cases rest with
      | same => exact .revokedKey key
      | revokedKey => exact .revokedKey key
  | revokedMandate approved =>
      cases rest with
      | same => exact .revokedMandate approved
      | revokedMandate => exact .revokedMandate approved

/-- Every account is still there and kept its terms. -/
def World.Extends (w w' : World) : Prop :=
  ∀ address account, w address = some account →
    ∃ kept, w' address = some kept ∧ account.Keeps kept

/-- Everything one instruction can do to the accounts: create one at its own address, which was
free, or revoke one. -/
inductive Change (derivation : Derivation) (w : World) : World → Prop
  | created (address : Pubkey) (account : Account) (free : w address = none)
      (placed : address = derivation.address account.seeds)
      (formed : account.WellFormed derivation.sha256) :
      Change derivation w (w.set address account)
  | revokedKey (address : Pubkey) (key : TrustedKey)
      (stored : w address = some (.trustedKey key)) :
      Change derivation w (w.set address (.trustedKey { key with revoked := true }))
  | revokedMandate (address : Pubkey) (approved : Mandate)
      (stored : w address = some (.mandate approved)) :
      Change derivation w (w.set address (.mandate { approved with revoked := true }))

namespace World

variable {derivation : Derivation} {ids : ProgramIds} {w w' : World} {address : Pubkey}

theorem set_self {account : Account} : w.set address account address = some account :=
  Function.update_self ..

theorem set_of_ne {account : Account} {other : Pubkey} (apart : other ≠ address) :
    w.set address account other = w other :=
  Function.update_of_ne apart ..

theorem Extends.refl (w : World) : w.Extends w :=
  fun _ account stored => ⟨account, stored, .same account⟩

theorem Extends.trans {w'' : World} (first : w.Extends w') (second : w'.Extends w'') :
    w.Extends w'' := by
  intro address account stored
  obtain ⟨middle, found, kept⟩ := first address account stored
  obtain ⟨last, found', kept'⟩ := second address middle found
  exact ⟨last, found', kept.trans kept'⟩

theorem Placed.change (placed : w.Placed derivation) (change : Change derivation w w') :
    w'.Placed derivation := by
  intro other account stored
  have elsewhere {address : Pubkey} {new : Account} (apart : other ≠ address)
      (stored : w.set address new other = some account) :
      other = derivation.address account.seeds ∧ account.WellFormed derivation.sha256 := by
    rw [set_of_ne apart] at stored
    exact placed other account stored
  cases change with
  | created address new free here formed =>
      by_cases same : other = address
      · rw [same, set_self, Option.some.injEq] at stored
        rw [same, ← stored]
        exact ⟨here, formed⟩
      · exact elsewhere same stored
  | revokedKey address key found =>
      have before := placed address (.trustedKey key) found
      by_cases same : other = address
      · rw [same, set_self, Option.some.injEq] at stored
        rw [same, ← stored]
        exact before
      · exact elsewhere same stored
  | revokedMandate address approved found =>
      have before := placed address (.mandate approved) found
      by_cases same : other = address
      · rw [same, set_self, Option.some.injEq] at stored
        rw [same, ← stored]
        exact before
      · exact elsewhere same stored

theorem Extends.change (change : Change derivation w w') : w.Extends w' := by
  intro other account stored
  have elsewhere {address : Pubkey} {new : Account} (apart : other ≠ address) :
      ∃ kept, w.set address new other = some kept ∧ account.Keeps kept :=
    ⟨account, (set_of_ne apart).trans stored, .same account⟩
  cases change with
  | created address new free =>
      by_cases same : other = address
      · rw [same, free] at stored
        cases stored
      · exact elsewhere same
  | revokedKey address key found =>
      by_cases same : other = address
      · rw [same, found, Option.some.injEq] at stored
        rw [same, ← stored]
        exact ⟨_, set_self, .revokedKey key⟩
      · exact elsewhere same
  | revokedMandate address approved found =>
      by_cases same : other = address
      · rw [same, found, Option.some.injEq] at stored
        rw [same, ← stored]
        exact ⟨_, set_self, .revokedMandate approved⟩
      · exact elsewhere same

/- Inversion of the handlers. -/

variable {u : Unit}

@[simp] theorem loadConfig_ok {settings : VerifierConfig} :
    w.loadConfig address = .ok settings ↔ w address = some (.config settings) := by
  unfold loadConfig
  split
  · rename_i found stored
    simp [stored]
  · rename_i other
    simp only [reduceCtorEq, false_iff]
    exact other settings

@[simp] theorem loadTrustedKey_ok {key : TrustedKey} :
    w.loadTrustedKey address = .ok key ↔ w address = some (.trustedKey key) := by
  unfold loadTrustedKey
  split
  · rename_i found stored
    simp [stored]
  · rename_i other
    simp only [reduceCtorEq, false_iff]
    exact other key

@[simp] theorem loadMandate_ok {approved : Mandate} :
    w.loadMandate address = .ok approved ↔ w address = some (.mandate approved) := by
  unfold loadMandate
  split
  · rename_i found stored
    simp [stored]
  · rename_i other
    simp only [reduceCtorEq, false_iff]
    exact other approved

@[simp] theorem checkInit_ok {derived : Pubkey} :
    w.checkInit address derived = .ok u ↔ address = derived ∧ w address = none := by
  simp [checkInit]

end World

section Inversion

variable {derivation : Derivation} {ids : ProgramIds} {w w' : World}
  {administrator config address : Pubkey}

theorem initializeConfig_ok {upgradeAuthority : Pubkey} {programUpgradeAuthority : Option Pubkey}
    {params : InitializeConfigParams}
    (success : initializeConfig derivation w upgradeAuthority programUpgradeAuthority config params =
      .ok w') :
    config = configAddress derivation params.environment ∧ w config = none ∧
      w' = w.set config
        (.config ⟨params.administrator, params.consumer, params.environment⟩) := by
  simp only [initializeConfig, bind_eq_ok, rejectIf_eq_ok, World.checkInit_ok, pure_eq_ok,
    exists_const] at success
  obtain ⟨-, ⟨derived, free⟩, -, rfl⟩ := success
  exact ⟨derived, free, rfl⟩

theorem registerTrustedKey_ok {params : RegisterTrustedKeyParams}
    (success : registerTrustedKey derivation w administrator config address params = .ok w') :
    ∃ key, key.config = config ∧ key.kid = params.kid ∧ key.kid.length ≤ maxKidLen ∧
      address = trustedKeyAddress derivation config params.kid ∧ w address = none ∧
      w' = w.set address (.trustedKey key) := by
  simp only [registerTrustedKey, bind_eq_ok, rejectIf_eq_ok, World.checkInit_ok, pure_eq_ok,
    exists_const, not_not] at success
  obtain ⟨_, -, ⟨derived, free⟩, ⟨text, -⟩, -, -, rfl⟩ := success
  simp only [isProfileText, Bool.and_eq_true, decide_eq_true_eq] at text
  exact ⟨_, rfl, rfl, text.1.2, derived, free, rfl⟩

theorem revokeTrustedKey_ok
    (success : revokeTrustedKey w administrator config address = .ok w') :
    ∃ key, w address = some (.trustedKey key) ∧ key.config = config ∧
      w' = w.set address (.trustedKey { key with revoked := true }) := by
  simp only [revokeTrustedKey, bind_eq_ok, rejectIf_eq_ok, World.loadTrustedKey_ok, pure_eq_ok,
    exists_const, not_not] at success
  obtain ⟨_, -, key, stored, same, -, rfl⟩ := success
  exact ⟨key, stored, same, rfl⟩

theorem registerMandate_ok {params : RegisterMandateParams}
    (success : registerMandate derivation w administrator config address params = .ok w') :
    ∃ approved, approved.config = config ∧ approved.mandateId = params.mandateId ∧
      approved.mandateHash = mandateHash derivation.sha256 params.mandateId ∧
      address = mandateAddress derivation config approved.mandateHash ∧ w address = none ∧
      w' = w.set address (.mandate approved) := by
  simp only [registerMandate, bind_eq_ok, rejectIf_eq_ok, World.checkInit_ok, pure_eq_ok,
    exists_const, not_not] at success
  obtain ⟨_, -, ⟨derived, free⟩, -, hash, rfl⟩ := success
  refine ⟨_, ?_, ?_, ?_, ?_, free, rfl⟩
  · rfl
  · rfl
  · exact hash
  · exact derived

theorem revokeMandate_ok (success : revokeMandate w administrator config address = .ok w') :
    ∃ approved, w address = some (.mandate approved) ∧ approved.config = config ∧
      w' = w.set address (.mandate { approved with revoked := true }) := by
  simp only [revokeMandate, bind_eq_ok, rejectIf_eq_ok, World.loadMandate_ok, pure_eq_ok,
    exists_const, not_not] at success
  obtain ⟨_, -, approved, stored, same, -, rfl⟩ := success
  exact ⟨approved, stored, same, rfl⟩

/-- The signed terms are the registered ones. -/
structure Mandate.Matches (approved : Mandate) (claims : Claims) : Prop where
  mandateId : claims.mandate = approved.mandateId
  amount : claims.request.amountMicros = approved.amountMicros
  currency : claims.request.currency = approved.currency
  recipient : claims.request.recipient = approved.recipient
  policy : claims.policyVersion = approved.policyVersion
  agent : claims.request.agent = approved.agent
  category : claims.request.category = approved.category

theorem checkMandate_ok {approved : Mandate} {claims : Claims} {u : Unit}
    (success : checkMandate approved claims = .ok u) :
    approved.revoked = false ∧ approved.Matches claims := by
  simp only [checkMandate, bind_eq_ok, rejectIf_eq_ok, exists_const, not_not,
    Bool.not_eq_true] at success
  obtain ⟨running, mandateId, amount, currency, recipient, policy, agent, category⟩ := success
  exact ⟨running, mandateId, amount, currency, recipient, policy, agent, category⟩

/-- A verdict spent under a config: its key and its mandate are registered there, neither is
revoked, and its nonce leaves a receipt where there was none. -/
structure Spends (derivation : Derivation) (w : World) (config : Pubkey) (token : Token)
    (w' : World) : Prop where
  environment : ∃ settings, w config = some (.config settings) ∧
    config = configAddress derivation settings.environment ∧
    settings.environment.acceptsKid token.header.kid = true
  key : ∃ address key, w address = some (.trustedKey key) ∧ key.config = config ∧
    key.kid = token.header.kid ∧ key.publicKey.bytes = token.publicKey ∧ key.revoked = false
  mandate : ∃ address approved, w address = some (.mandate approved) ∧ approved.config = config ∧
    approved.Matches token.claims ∧ approved.revoked = false
  receipt : ∃ spent, spent.config = config ∧
    spent.nonceHash = nonceHash derivation.sha256 token.claims.nonce ∧
    spent.signingInputHash = derivation.sha256 token.signingInput ∧
    w (receiptAddress derivation config spent.nonceHash) = none ∧
    w' = w.set (receiptAddress derivation config spent.nonceHash) (.receipt spent)

theorem consumeAuthorization_ok {consumer trustedKey mandate receipt : Pubkey} {hash : Bytes32}
    {call : Invocation} {now : UnixTimestamp}
    (success : consumeAuthorization derivation ids w consumer config trustedKey mandate receipt hash
      call now = .ok w') :
    ∃ token, call.readToken ids = .ok token ∧ Spends derivation w config token w' := by
  simp only [consumeAuthorization, bind_eq_ok, rejectIf_eq_ok, World.loadConfig_ok,
    World.loadTrustedKey_ok, World.loadMandate_ok, World.checkInit_ok, pure_eq_ok, exists_const,
    not_not, Bool.not_eq_true, Bool.not_eq_false] at success
  obtain ⟨settings, loaded, derived, -, key, keyStored, keyConfig, approved, mandateStored,
    mandateConfig, ⟨located, free⟩, token, read, kid, accepts, running, publicKey, _, -, -, _,
    terms, nonce, rfl⟩ := success
  obtain ⟨inForce, agrees⟩ := checkMandate_ok terms
  refine ⟨token, read, ⟨settings, loaded, derived, accepts⟩,
    ⟨trustedKey, key, keyStored, keyConfig, kid.symm, publicKey.symm, running⟩,
    ⟨mandate, approved, mandateStored, mandateConfig, agrees, inForce⟩, ?_⟩
  rw [located] at free ⊢
  let spent : ConsumedAuthorization := {
    config := config
    nonceHash := hash
    signingInputHash := derivation.sha256 token.signingInput
    jtiHash := domainHash derivation.sha256 jtiDomain token.claims.jti
    mandate := mandate
    consumedAt := now
    expiresAt := token.claims.exp }
  exact ⟨spent, rfl, nonce.symm, rfl, free, rfl⟩

theorem step_change {operation : Operation}
    (success : w.step derivation ids operation = .ok w') : Change derivation w w' := by
  cases operation with
  | initializeConfig upgradeAuthority programUpgradeAuthority config params =>
      obtain ⟨derived, free, rfl⟩ := initializeConfig_ok success
      exact .created config _ free derived trivial
  | registerTrustedKey administrator config address params =>
      obtain ⟨key, rfl, kid, short, derived, free, rfl⟩ := registerTrustedKey_ok success
      rw [← kid] at derived
      exact .created address _ free derived short
  | revokeTrustedKey administrator config address =>
      obtain ⟨key, stored, -, rfl⟩ := revokeTrustedKey_ok success
      exact .revokedKey address key stored
  | registerMandate administrator config address params =>
      obtain ⟨approved, rfl, mandateId, hash, derived, free, rfl⟩ := registerMandate_ok success
      rw [← mandateId] at hash
      exact .created address _ free derived hash
  | revokeMandate administrator config address =>
      obtain ⟨approved, stored, -, rfl⟩ := revokeMandate_ok success
      exact .revokedMandate address approved stored
  | consumeAuthorization consumer config trustedKey mandate receipt hash call clock =>
      obtain ⟨token, -, spends⟩ := consumeAuthorization_ok success
      obtain ⟨spent, rfl, -, -, free, rfl⟩ := spends.receipt
      exact .created _ _ free rfl trivial

end Inversion

/- Runs. -/

namespace World

variable {derivation : Derivation} {w : World} {config : Pubkey}

/-- A config has one key for each kid. -/
theorem Placed.same_key (placed : w.Placed derivation) {address address' : Pubkey}
    {key key' : TrustedKey} (stored : w address = some (.trustedKey key))
    (stored' : w address' = some (.trustedKey key')) (config : key.config = key'.config)
    (kid : key.kid = key'.kid) : key = key' := by
  have here := (placed address _ stored).1
  have there := (placed address' _ stored').1
  rw [Account.seeds, config, kid] at here
  rw [here.trans there.symm, stored', Option.some.injEq, Account.trustedKey.injEq] at stored
  exact stored.symm

/-- A config has one mandate for each id. -/
theorem Placed.same_mandate (placed : w.Placed derivation) {address address' : Pubkey}
    {approved approved' : Mandate} (stored : w address = some (.mandate approved))
    (stored' : w address' = some (.mandate approved')) (config : approved.config = approved'.config)
    (mandateId : approved.mandateId = approved'.mandateId) : approved = approved' := by
  obtain ⟨here, hash⟩ := placed address _ stored
  obtain ⟨there, hash'⟩ := placed address' _ stored'
  change approved.mandateHash = _ at hash
  change approved'.mandateHash = _ at hash'
  rw [Account.seeds, config, hash, mandateId, ← hash'] at here
  rw [here.trans there.symm, stored', Option.some.injEq, Account.mandate.injEq] at stored
  exact stored.symm

theorem Extends.revoked_key {w' : World} (forward : w.Extends w') {address : Pubkey}
    {key : TrustedKey} (stored : w address = some (.trustedKey { key with revoked := true })) :
    w' address = some (.trustedKey { key with revoked := true }) := by
  obtain ⟨kept, found, keeps⟩ := forward address _ stored
  cases keeps with
  | same => exact found
  | revokedKey => exact found

theorem Extends.revoked_mandate {w' : World} (forward : w.Extends w') {address : Pubkey}
    {approved : Mandate}
    (stored : w address = some (.mandate { approved with revoked := true })) :
    w' address = some (.mandate { approved with revoked := true }) := by
  obtain ⟨kept, found, keeps⟩ := forward address _ stored
  cases keeps with
  | same => exact found
  | revokedMandate => exact found

/-- An address that was taken is not free later. -/
theorem Extends.taken {w' : World} (forward : w.Extends w') {address : Pubkey} {account : Account}
    (stored : w address = some account) : w' address ≠ none := by
  obtain ⟨kept, found, -⟩ := forward address _ stored
  rw [found]
  exact Option.some_ne_none kept

end World

/-- No kid belongs to both environments. -/
theorem acceptsKid_inj {environment other : Environment} {kid : Bytes}
    (accepts : environment.acceptsKid kid = true) (accepts' : other.acceptsKid kid = true) :
    environment = other := by
  have sandbox : ∀ chosen : Environment, chosen.acceptsKid kid = true →
      (sandboxKidPrefix.isPrefixOf kid = true ↔ chosen = .sandbox) := by
    intro chosen accepts
    cases chosen with
    | production =>
        change (!sandboxKidPrefix.isPrefixOf kid) = true at accepts
        rw [Bool.not_eq_true'] at accepts
        rw [accepts]
        decide
    | sandbox =>
        change sandboxKidPrefix.isPrefixOf kid = true at accepts
        rw [accepts]
        decide
  have same := (sandbox environment accepts).symm.trans (sandbox other accepts')
  revert same
  cases environment <;> cases other <;> decide

section Entries

variable (ids : ProgramIds) (entry : Entry World Operation) (config : Pubkey)

def RegistersKey (kid : Bytes) : Prop :=
  ∃ administrator address params,
    entry.input = .registerTrustedKey administrator config address params ∧ params.kid = kid

def RegistersMandate (mandateId : Bytes) : Prop :=
  ∃ administrator address params,
    entry.input = .registerMandate administrator config address params ∧
      params.mandateId = mandateId

def RevokesKey (kid : Bytes) : Prop :=
  ∃ administrator address key, entry.input = .revokeTrustedKey administrator config address ∧
    entry.before address = some (.trustedKey key) ∧ key.kid = kid

def RevokesMandate (mandateId : Bytes) : Prop :=
  ∃ administrator address approved, entry.input = .revokeMandate administrator config address ∧
    entry.before address = some (.mandate approved) ∧ approved.mandateId = mandateId

/-- The entry consumes this token under the config. -/
def ConsumesToken (token : Token) : Prop :=
  ∃ consumer trustedKey mandate receipt hash call clock,
    entry.input =
      .consumeAuthorization consumer config trustedKey mandate receipt hash call clock ∧
    call.readToken ids = .ok token

end Entries

/-- What no order of instructions can break. -/
structure Safe (derivation : Derivation) (ids : ProgramIds)
    (steps : List (Entry World Operation)) : Prop where
  keysOnce : steps.Pairwise fun earlier later => ∀ config kid,
    RegistersKey earlier config kid → ¬RegistersKey later config kid
  mandatesOnce : steps.Pairwise fun earlier later => ∀ config mandateId,
    RegistersMandate earlier config mandateId → ¬RegistersMandate later config mandateId
  /-- Accounts stay where they are; a key or a mandate may only become revoked, a receipt and a
  config never change. -/
  kept : (∀ entry ∈ steps, entry.before.Extends entry.after) ∧
    steps.Pairwise fun earlier later => earlier.after.Extends later.before
  /-- Every account is at the address of its own fields, and where the derivation has no collision
  no address belongs to two families, or to two accounts of one family. -/
  placed : ∀ entry ∈ steps, entry.after.Placed derivation
  apart : ∀ derived : Set Bytes, Set.InjOn derivation.address derived →
    ∀ account other : Account, account.WellFormed derivation.sha256 →
      other.WellFormed derivation.sha256 → account.seeds ∈ derived → other.seeds ∈ derived →
      derivation.address account.seeds = derivation.address other.seeds →
      account.identity = other.identity
  noncesOnce : steps.Pairwise fun earlier later => ∀ config token token',
    ConsumesToken ids earlier config token → ConsumesToken ids later config token' →
    token.claims.nonce ≠ token'.claims.nonce
  registered : ∀ entry ∈ steps, ∀ config token, ConsumesToken ids entry config token →
    Spends derivation entry.before config token entry.after
  keyRevoked : steps.Pairwise fun earlier later => ∀ config kid token,
    RevokesKey earlier config kid → ConsumesToken ids later config token → token.header.kid ≠ kid
  mandateRevoked : steps.Pairwise fun earlier later => ∀ config mandateId token,
    RevokesMandate earlier config mandateId → ConsumesToken ids later config token →
    token.claims.mandate ≠ mandateId
  /-- Under one config or under two, a signing input is consumed once. -/
  signingInputsOnce : steps.Pairwise fun earlier later => ∀ config config' token token',
    ConsumesToken ids earlier config token → ConsumesToken ids later config' token' →
    token.signingInput ≠ token'.signingInput

section Steps

variable {derivation : Derivation} {ids : ProgramIds} {entry earlier later : Entry World Operation}
  {config : Pubkey}

/-- The entry is a step of the program. -/
def Accepted (derivation : Derivation) (ids : ProgramIds) (entry : Entry World Operation) : Prop :=
  entry.before.Placed derivation ∧
    entry.before.step derivation ids entry.input = .ok entry.after

theorem RegistersKey.creates {kid : Bytes} (registers : RegistersKey entry config kid)
    (accepted : Accepted derivation ids entry) :
    entry.before (trustedKeyAddress derivation config kid) = none ∧
      ∃ account, entry.after (trustedKeyAddress derivation config kid) = some account := by
  obtain ⟨administrator, address, params, input, rfl⟩ := registers
  have success := accepted.2
  rw [input] at success
  obtain ⟨key, -, -, -, derived, free, after⟩ := registerTrustedKey_ok success
  rw [← derived, after]
  exact ⟨free, _, World.set_self⟩

theorem RegistersMandate.creates {mandateId : Bytes}
    (registers : RegistersMandate entry config mandateId)
    (accepted : Accepted derivation ids entry) :
    entry.before (mandateAddress derivation config (mandateHash derivation.sha256 mandateId)) =
        none ∧
      ∃ account, entry.after (mandateAddress derivation config
        (mandateHash derivation.sha256 mandateId)) = some account := by
  obtain ⟨administrator, address, params, input, rfl⟩ := registers
  have success := accepted.2
  rw [input] at success
  obtain ⟨approved, -, -, hash, derived, free, after⟩ := registerMandate_ok success
  rw [← hash, ← derived, after]
  exact ⟨free, _, World.set_self⟩

theorem ConsumesToken.spends {token : Token} (consumes : ConsumesToken ids entry config token)
    (accepted : Accepted derivation ids entry) :
    Spends derivation entry.before config token entry.after := by
  obtain ⟨consumer, trustedKey, mandate, receipt, hash, call, clock, input, read⟩ := consumes
  have success := accepted.2
  rw [input] at success
  obtain ⟨token', read', spends⟩ := consumeAuthorization_ok success
  cases read.symm.trans read'
  exact spends

/-- The header and the claims of a token are what its signing input says. -/
theorem ConsumesToken.reads {token : Token} (consumes : ConsumesToken ids entry config token) :
    readSigningInput token.signingInput = .ok (token.header, token.claims) := by
  obtain ⟨_, _, _, _, _, call, _, -, read⟩ := consumes
  simp only [Invocation.readToken, bind_eq_ok, pure_eq_ok] at read
  obtain ⟨_, -, verified, -, ⟨header, claims⟩, parsed, rfl⟩ := read
  exact parsed

/-- The later of two entries finds the receipt of the earlier one. -/
theorem nonce_once {token token' : Token} (before : Accepted derivation ids earlier)
    (after : Accepted derivation ids later) (forward : earlier.after.Extends later.before)
    (consumes : ConsumesToken ids earlier config token)
    (again : ConsumesToken ids later config token') :
    token.claims.nonce ≠ token'.claims.nonce := by
  intro same
  obtain ⟨spent, -, hash, -, -, stored⟩ := (consumes.spends before).receipt
  obtain ⟨spent', -, hash', -, free, -⟩ := (again.spends after).receipt
  rw [hash, same, ← hash'] at stored
  have taken : earlier.after (receiptAddress derivation config spent'.nonceHash) =
      some (.receipt spent) := by
    rw [stored]
    exact World.set_self
  exact forward.taken taken free

theorem key_revoked {kid : Bytes} {token : Token} (before : Accepted derivation ids earlier)
    (after : Accepted derivation ids later) (forward : earlier.after.Extends later.before)
    (revokes : RevokesKey earlier config kid) (consumes : ConsumesToken ids later config token) :
    token.header.kid ≠ kid := by
  intro same
  obtain ⟨administrator, address, key, input, stored, rfl⟩ := revokes
  have success := before.2
  rw [input] at success
  obtain ⟨key', stored', owned, result⟩ := revokeTrustedKey_ok success
  cases stored.symm.trans stored'
  have revoked : earlier.after address = some (.trustedKey { key with revoked := true }) := by
    rw [result]
    exact World.set_self
  obtain ⟨address', used, found, usedConfig, usedKid, -, running⟩ := (consumes.spends after).key
  have one := after.1.same_key (forward.revoked_key revoked) found (owned.trans usedConfig.symm)
    (same.symm.trans usedKid.symm)
  rw [← one] at running
  cases running

theorem mandate_revoked {mandateId : Bytes} {token : Token}
    (before : Accepted derivation ids earlier) (after : Accepted derivation ids later)
    (forward : earlier.after.Extends later.before)
    (revokes : RevokesMandate earlier config mandateId)
    (consumes : ConsumesToken ids later config token) : token.claims.mandate ≠ mandateId := by
  intro same
  obtain ⟨administrator, address, approved, input, stored, rfl⟩ := revokes
  have success := before.2
  rw [input] at success
  obtain ⟨approved', stored', owned, result⟩ := revokeMandate_ok success
  cases stored.symm.trans stored'
  have revoked : earlier.after address = some (.mandate { approved with revoked := true }) := by
    rw [result]
    exact World.set_self
  obtain ⟨address', used, found, usedConfig, terms, running⟩ := (consumes.spends after).mandate
  have one := after.1.same_mandate (forward.revoked_mandate revoked) found
    (owned.trans usedConfig.symm) (same.symm.trans terms.mandateId)
  rw [← one] at running
  cases running

/-- The kid decides the environment and the environment the config, so a second consume of one
signing input is under the same config and finds its nonce spent. -/
theorem signingInput_once {config' : Pubkey} {token token' : Token}
    (before : Accepted derivation ids earlier) (after : Accepted derivation ids later)
    (forward : earlier.after.Extends later.before)
    (consumes : ConsumesToken ids earlier config token)
    (again : ConsumesToken ids later config' token') :
    token.signingInput ≠ token'.signingInput := by
  intro same
  have reads := consumes.reads
  rw [same, again.reads, Except.ok.injEq, Prod.mk.injEq] at reads
  obtain ⟨header, claims⟩ := reads
  obtain ⟨settings, -, derived, accepts⟩ := (consumes.spends before).environment
  obtain ⟨settings', -, derived', accepts'⟩ := (again.spends after).environment
  rw [header] at accepts'
  have one : config = config' := by
    rw [derived, derived', acceptsKid_inj accepts accepts']
  subst one
  exact nonce_once before after forward consumes again (by rw [claims])

end Steps

/-- Verdicts are spent once and a revocation is final, whatever instructions run in whatever order
on a program that starts with no account. -/
theorem verdicts_safe (derivation : Derivation) (ids : ProgramIds) (operations : List Operation) :
    Safe derivation ids
      (history (World.step derivation ids) (fun _ => none) operations) := by
  have forward : ∀ w operation w', World.step derivation ids w operation = .ok w' →
      w.Extends w' := fun _ _ _ success => .change (step_change success)
  have accepted : ∀ entry ∈ history (World.step derivation ids) (fun _ => none) operations,
      Accepted derivation ids entry := by
    refine entries_of (World.Placed derivation) ?_ operations (fun _ => none) ?_
    · intro w operation w' success placed
      exact placed.change (step_change success)
    · intro address account stored
      cases stored
  have follows := (entries_follow World.Extends World.Extends.refl
    (fun _ _ _ => World.Extends.trans) forward operations (fun _ => none)).2
  have pairs : (history (World.step derivation ids) (fun _ => none) operations).Pairwise
      fun earlier later => Accepted derivation ids earlier ∧ Accepted derivation ids later ∧
        earlier.after.Extends later.before := by
    refine follows.imp_of_mem ?_
    intro earlier later here there extends'
    exact ⟨accepted earlier here, accepted later there, extends'⟩
  refine {
    keysOnce := pairs.imp ?_
    mandatesOnce := pairs.imp ?_
    kept := ⟨fun entry member => forward _ _ _ (accepted entry member).2, follows⟩
    placed := fun entry member =>
      (accepted entry member).1.change (step_change (accepted entry member).2)
    apart := ?_
    noncesOnce := pairs.imp ?_
    registered := fun entry member config token consumes => consumes.spends (accepted entry member)
    keyRevoked := pairs.imp ?_
    mandateRevoked := pairs.imp ?_
    signingInputsOnce := pairs.imp ?_ }
  · intro earlier later ⟨before, after, extends'⟩ config kid registers again
    obtain ⟨-, account, stored⟩ := registers.creates before
    exact extends'.taken stored (again.creates after).1
  · intro earlier later ⟨before, after, extends'⟩ config mandateId registers again
    obtain ⟨-, account, stored⟩ := registers.creates before
    exact extends'.taken stored (again.creates after).1
  · intro derived injective account other formed formed' here there same
    exact Account.identity_of_seeds formed formed' (injective here there same)
  · intro earlier later ⟨before, after, extends'⟩ config token token' consumes again
    exact nonce_once before after extends' consumes again
  · intro earlier later ⟨before, after, extends'⟩ config kid token revokes consumes
    exact key_revoked before after extends' revokes consumes
  · intro earlier later ⟨before, after, extends'⟩ config mandateId token revokes consumes
    exact mandate_revoked before after extends' revokes consumes
  · intro earlier later ⟨before, after, extends'⟩ config config' token token' consumes again
    exact signingInput_once before after extends' consumes again

/-- The signing input of an allowed verdict: kid `k`, mandate `m`, nonce `n`. -/
def sampleSigningInput : Bytes :=
  ascii ['e', 'y', 'J', 'h', 'b', 'G', 'c', 'i', 'O', 'i', 'J', 'F', 'U', 'z', 'I', '1', 'N', 'i',
    'I', 's', 'I', 'm', 't', 'p', 'Z', 'C', 'I', '6', 'I', 'm', 's', 'i', 'f', 'Q', '.', 'e', 'y',
    'J', 'p', 'c', '3', 'M', 'i', 'O', 'i', 'J', 'o', 'd', 'H', 'R', 'w', 'c', 'z', 'o', 'v', 'L',
    '3', 'Z', 'l', 'c', 'm', 'R', 'p', 'Y', '3', 'R', 'z', 'L', 'n', 'N', 'h', 'a', 'W', 'Z', '1',
    'c', 'm', '8', 'u', 'Y', '2', '9', 't', 'I', 'i', 'w', 'i', 'a', 'n', 'R', 'p', 'I', 'j', 'o',
    'i', 'a', 'i', 'I', 's', 'I', 'm', 'l', 'h', 'd', 'C', 'I', '6', 'M', 'T', 'A', 'w', 'M', 'C',
    'w', 'i', 'Z', 'X', 'h', 'w', 'I', 'j', 'o', 'x', 'M', 'z', 'A', 'w', 'L', 'C', 'J', '2', 'Z',
    'X', 'J', 'k', 'a', 'W', 'N', '0', 'I', 'j', 'o', 'i', 'Y', 'W', 'x', 's', 'b', '3', 'c', 'i',
    'L', 'C', 'J', 't', 'Y', 'W', '5', 'k', 'Y', 'X', 'R', 'l', 'I', 'j', 'o', 'i', 'b', 'S', 'I',
    's', 'I', 'n', 'B', 'v', 'b', 'G', 'l', 'j', 'e', 'V', '9', '2', 'Z', 'X', 'J', 'z', 'a', 'W',
    '9', 'u', 'I', 'j', 'o', 'i', 'c', 'C', 'I', 's', 'I', 'm', '5', 'v', 'b', 'm', 'N', 'l', 'I',
    'j', 'o', 'i', 'b', 'i', 'I', 's', 'I', 'n', 'J', 'l', 'c', 'X', 'V', 'l', 'c', '3', 'Q', 'i',
    'O', 'n', 's', 'i', 'Y', 'W', 'd', 'l', 'b', 'n', 'Q', 'i', 'O', 'i', 'J', 'h', 'I', 'i', 'w',
    'i', 'Y', 'W', '1', 'v', 'd', 'W', '5', '0', 'I', 'j', 'o', 'x', 'L', 'C', 'J', 'j', 'd', 'X',
    'J', 'y', 'Z', 'W', '5', 'j', 'e', 'S', 'I', '6', 'I', 'm', 'M', 'i', 'L', 'C', 'J', 'y', 'Z',
    'W', 'N', 'p', 'c', 'G', 'l', 'l', 'b', 'n', 'Q', 'i', 'O', 'i', 'J', 'y', 'I', 'i', 'w', 'i',
    'Y', '2', 'F', '0', 'Z', 'W', 'd', 'v', 'c', 'n', 'k', 'i', 'O', 'i', 'J', 'z', 'I', 'n', '1',
    '9']

def sampleDerivation : Derivation where
  sha256 bytes := .ofNat (Bytes.fromBigEndian bytes)
  address bytes := .ofNat (Bytes.fromBigEndian bytes * 3 + 1)

def sampleKey : PublicKey := ⟨2 :: List.replicate 32 7, rfl⟩

def sampleIds : ProgramIds := ⟨101, 102, 103⟩

def sampleTime (seconds : Fin 5000) : UnixTimestamp := ⟨seconds, by omega, by omega⟩

def sampleConfig : Pubkey := configAddress sampleDerivation .production

def sampleMandateHash : Bytes32 := mandateHash sampleDerivation.sha256 (ascii ['m'])

def sampleNonceHash : Bytes32 := nonceHash sampleDerivation.sha256 (ascii ['n'])

/-- A transaction of the precompile and the consume. -/
def sampleCall : Invocation where
  stackHeight := 1
  current := 1
  instructions := [
    ⟨sampleIds.secp256r1, [], canonicalHeader sampleSigningInput.length ++ sampleKey.bytes ++
      List.replicate signatureLen 9 ++ sampleSigningInput⟩,
    ⟨sampleIds.verifier, [], []⟩]

def sampleConsume : Operation :=
  .consumeAuthorization 12 sampleConfig
    (trustedKeyAddress sampleDerivation sampleConfig (ascii ['k']))
    (mandateAddress sampleDerivation sampleConfig sampleMandateHash)
    (receiptAddress sampleDerivation sampleConfig sampleNonceHash) sampleNonceHash sampleCall
    (sampleTime 1100)

def sampleOperations : List Operation := [
  .initializeConfig 10 (some 10) sampleConfig
    ⟨.production, 11, 12⟩,
  .registerTrustedKey 11 sampleConfig
    (trustedKeyAddress sampleDerivation sampleConfig (ascii ['k']))
    ⟨ascii ['k'], sampleKey, sampleTime 0, sampleTime 4000⟩,
  .registerMandate 11 sampleConfig
    (mandateAddress sampleDerivation sampleConfig sampleMandateHash)
    ⟨sampleMandateHash, ascii ['m'], 1000000, ascii ['c'], ascii ['r'], ascii ['p'],
      ascii ['a'], ascii ['s']⟩,
  sampleConsume, sampleConsume]

/-- The verdict is spent, and its second use is the one refused operation. -/
theorem verdicts_safe_spent :
    Safe sampleDerivation sampleIds
        (history (World.step sampleDerivation sampleIds) (fun _ => none) sampleOperations) ∧
      (history (World.step sampleDerivation sampleIds) (fun _ => none) sampleOperations).map
        (fun entry => (entry.after
          (receiptAddress sampleDerivation sampleConfig sampleNonceHash)).isSome) =
          [false, false, false, true] :=
  ⟨verdicts_safe sampleDerivation sampleIds sampleOperations, by decide +kernel⟩

end Verifier
