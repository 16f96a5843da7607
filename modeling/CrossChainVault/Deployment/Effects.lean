import CrossChainVault.Deployment.Transaction
import CrossChainVault.Leg.Instructions
import CrossChainVault.Verifier.Approvals

set_option autoImplicit false

/- What one call of either program does to the accounts, and what every call keeps. -/

namespace Deployment

open Result
open Leg (U64 UnixTimestamp AdapterCall)
open Verifier (Pubkey Nonce Invocation TransactionInstruction Approvals Approval
  DeploymentOperation DeploymentAuthority DeploymentReceipt)

section Checks

variable {cluster : Cluster} {now : UnixTimestamp} {amount : U64} {u : Unit}

/-- What the leg has checked of an approval it accepts. -/
structure Authorization.Checked (cluster : Cluster) (remoteConfig : Pubkey)
    (context : Verifier.DeploymentContext) (amount : U64) (now : UnixTimestamp)
    (authorization : Authorization) : Prop where
  top : authorization.call.stackHeight = Verifier.transactionLevelStackHeight
  consumed : ∃ index consume, authorization.call.current = index + 1 ∧
    authorization.call.instructions[index]? = some consume ∧
    consume.programId = cluster.verifier ∧
    consume.data = consumeDeploymentAuthorizationDiscriminator ++
      Verifier.nonceBytes authorization.receipt.nonce ∧
    consume.accounts[consumeConfigIndex]? = some authorization.policy.authorizationConfig ∧
    consume.accounts[consumeReceiptIndex]? = some authorization.receiptKey
  config : authorization.receipt.config = authorization.policy.authorizationConfig
  remoteConfig : authorization.receipt.remoteConfig = remoteConfig
  amount : authorization.receipt.amount = amount
  context : authorization.receipt.deploymentContext =
    context.commitment cluster.derivation cluster.toProgramIds

theorem Authorization.check_ok {authorization : Authorization} {remoteConfig : Pubkey}
    {context : Verifier.DeploymentContext}
    (success : authorization.check cluster remoteConfig context amount now = .ok u) :
    authorization.Checked cluster remoteConfig context amount now := by
  simp only [check, checkConsumedJustBefore, bind_eq_ok, rejectIf_eq_ok, okOr_eq_ok, exists_const,
    Decidable.not_not] at success
  obtain ⟨⟨top, _, -, -, nonzero, consume, found, program, data, config, receipt⟩,
    ⟨-, receiptConfig, receiptRemote, -⟩, -, -, amounts, context⟩ := success
  have index : authorization.call.current = authorization.call.current - 1 + 1 := by omega
  exact ⟨top, ⟨_, consume, index, found, program, data, config, receipt⟩, receiptConfig,
    receiptRemote, amounts, context⟩

@[simp] theorem loadReceipt_ok {approvals : Approvals} {address : Pubkey}
    {receipt : DeploymentReceipt} :
    loadReceipt approvals address = .ok receipt ↔ approvals address = some (.receipt receipt) := by
  unfold loadReceipt
  split
  · rename_i found stored
    simp [stored]
  · rename_i other
    simp only [reduceCtorEq, false_iff]
    exact other receipt

@[simp] theorem loadDeploymentAuthority_ok {approvals : Approvals} {address : Pubkey}
    {authority : DeploymentAuthority} :
    loadDeploymentAuthority approvals address = .ok authority ↔
      approvals address = some (.authority authority) := by
  unfold loadDeploymentAuthority
  split
  · rename_i found stored
    simp [stored]
  · rename_i other
    simp only [reduceCtorEq, false_iff]
    exact other authority

/-- Exactly this amount left custody for the strategy, and the leg's books say so. -/
structure Moves (amount : U64) (a a' : Leg.Accounts) (adapterCall : AdapterCall) : Prop where
  custody : a'.custody.raw + amount.raw = a.custody.raw
  vault : adapterCall.vaultAfter.raw = adapterCall.vaultBefore.raw + amount.raw
  principal : adapterCall.principalAfter.raw = adapterCall.principalBefore.raw + amount.raw
  attributed : a'.position.attributedPrincipal.raw + amount.raw = a.position.attributedPrincipal.raw
  deployed : a'.position.deployedPrincipal.raw = a.position.deployedPrincipal.raw + amount.raw

theorem deployToStrategy_moves {a a' : Leg.Accounts} {approved : Bool} {adapterCall : AdapterCall}
    (success : a.deployToStrategy approved amount adapterCall = .ok a') :
    approved = true ∧ Moves amount a a' adapterCall := by
  obtain ⟨_, attributed, deployed, _, -, hAttributed, hDeployed, -, -, after⟩ :=
    Leg.Accounts.deployToStrategy_ok success
  simp only [Leg.Accounts.deployToStrategy, bind_eq_ok, rejectIf_eq_ok,
    Unsigned.checkedSub_eq_ok, pure_eq_ok, exists_const, Decidable.not_not,
    Bool.not_eq_false] at success
  obtain ⟨-, _, -, -, _, -, approves, -, -, decrease, hDecrease, increase, hIncrease, principal,
    hPrincipal, rfl, rfl, rfl, _, -, _, -, _, -, _, -, final⟩ := success
  have custody : a'.custody = adapterCall.custodyAfter := by rw [← final]
  refine ⟨approves, ?_, ?_, ?_, ?_, ?_⟩
  · rw [custody]
    omega
  · omega
  · omega
  · rw [after]
    exact hAttributed
  · rw [after]
    exact hDeployed

end Checks

/- One call. -/

/-- What a deployment asks for: the leg, the receipt and the amount. -/
def Request.deployment : Request → Option (Pubkey × Pubkey × U64)
  | .remoteLeg remoteConfig (.deployToStrategy receipt amount _) =>
      some (remoteConfig, receipt, amount)
  | _ => none

def Execution.spends (execution : Execution) : Pubkey × Pubkey × U64 :=
  (execution.event.remoteConfig, execution.receipt, execution.event.deployedNow)

/-- A deployment that goes through, with the policy and the receipt it was checked against. -/
structure Deploys (cluster : Cluster) (call : Invocation) (now : UnixTimestamp) (w : World)
    (remoteConfig receiptKey : Pubkey) (amount : U64) (adapterCall : AdapterCall)
    (leg leg' : RemoteLeg) (authorization : Authorization) : Prop where
  found : w.legs remoteConfig = some leg
  adopted : leg.policy = some authorization.policy
  stored : w.approvals receiptKey = some (.receipt authorization.receipt)
  names : authorization.receiptKey = receiptKey ∧ authorization.call = call
  checked : authorization.Checked cluster remoteConfig (deploymentContext cluster remoteConfig leg)
    amount now
  moves : Moves amount leg.accounts leg'.accounts adapterCall
  kept : leg'.keys = leg.keys ∧ leg'.policy = leg.policy

/-- Everything one call can do. -/
inductive Effect (cluster : Cluster) (call : Invocation) (now : UnixTimestamp) (w : World) :
    Request → World → Prop
  | administered (operation : DeploymentOperation) (approvals : Approvals)
      (other : operation.consumes = false) (done : w.approvals.Administered approvals) :
      Effect cluster call now w (.verifier operation) { w with approvals := approvals }
  | consumed (approval : Approval) (call' : Invocation) (clock' : UnixTimestamp)
      (granted : approval.Granted cluster.derivation cluster.toProgramIds call now w.approvals) :
      Effect cluster call now w
        (.verifier (.consumeDeploymentAuthorization approval.config approval.riskKey
          approval.receipt approval.nonce call' clock'))
        { w with approvals :=
          w.approvals.set approval.receipt (.receipt (approval.spent cluster.derivation now)) }
  | initialized (remoteConfig : Pubkey) (setup : Leg.Setup) (keys : LegKeys)
      (accounts : Leg.Accounts) (free : w.legs remoteConfig = none) :
      Effect cluster call now w (.remoteLeg remoteConfig (.initializeRemoteLeg setup keys))
        (w.setLeg remoteConfig ⟨keys, accounts, none⟩)
  | adopted (remoteConfig administrator authorizationConfig : Pubkey) (leg : RemoteLeg)
      (authority : DeploymentAuthority) (found : w.legs remoteConfig = some leg)
      (unset : leg.policy = none)
      (stored : w.approvals authorizationConfig = some (.authority authority))
      (program : authority.remoteLegProgram = cluster.remoteLeg)
      (namesLeg : authority.remoteConfig = remoteConfig) :
      Effect cluster call now w
        (.remoteLeg remoteConfig (.initializeDeployAuthorization administrator authorizationConfig))
        (w.setLeg remoteConfig { leg with policy := some ⟨authorizationConfig, now⟩ })
  | plain (remoteConfig : Pubkey) (ctx : Leg.Context) (instruction : Leg.Instruction)
      (other : isDeployment instruction = false) (leg : RemoteLeg) (accounts : Leg.Accounts)
      (found : w.legs remoteConfig = some leg) :
      Effect cluster call now w (.remoteLeg remoteConfig (.plain ctx instruction other))
        (w.setLeg remoteConfig { leg with accounts := accounts })
  | deployed (remoteConfig receiptKey : Pubkey) (amount : U64) (adapterCall : AdapterCall)
      (leg leg' : RemoteLeg) (authorization : Authorization) (event : AssetsDeployed)
      (deploys : Deploys cluster call now w remoteConfig receiptKey amount adapterCall leg leg'
        authorization)
      (where' : event.remoteConfig = remoteConfig) (amounts : event.deployedNow = amount) :
      Effect cluster call now w
        (.remoteLeg remoteConfig (.deployToStrategy receiptKey amount adapterCall))
        { w.setLeg remoteConfig leg' with deployed := w.deployed ++ [⟨event, receiptKey⟩] }

section Effects

variable {cluster : Cluster} {call : Invocation} {now : UnixTimestamp} {w w' : World}
  {remoteConfig : Pubkey}

@[simp] theorem World.leg_ok {leg : RemoteLeg} :
    w.leg remoteConfig = .ok leg ↔ w.legs remoteConfig = some leg := okOr_eq_ok

theorem verifier_effect {operation : DeploymentOperation}
    (success : w.perform cluster call now (.verifier operation) = .ok w') :
    Effect cluster call now w (.verifier operation) w' := by
  simp only [World.perform, bind_eq_ok, mapError_eq_ok, pure_eq_ok] at success
  obtain ⟨approvals, stepped, rfl⟩ := success
  by_cases consumes : operation.consumes = true
  · cases operation with
    | consumeDeploymentAuthorization config riskKey receipt nonce call' clock' =>
        obtain ⟨approval, rfl, rfl, rfl, rfl, granted, rfl⟩ :=
          Verifier.consumeDeploymentAuthorization_ok stepped
        exact .consumed approval call' clock' granted
    | _ => cases consumes
  · rw [Bool.not_eq_true] at consumes
    have same : operationWithin call now operation = operation := by
      cases operation with
      | consumeDeploymentAuthorization => cases consumes
      | _ => rfl
    rw [same] at stepped
    exact .administered operation approvals consumes
      (Verifier.Approvals.step_administered consumes stepped)

theorem initializeRemoteLeg_effect {setup : Leg.Setup} {keys : LegKeys}
    (success : w.initializeRemoteLeg cluster remoteConfig setup keys = .ok w') :
    Effect cluster call now w (.remoteLeg remoteConfig (.initializeRemoteLeg setup keys)) w' := by
  simp only [World.initializeRemoteLeg, bind_eq_ok, rejectIf_eq_ok, mapError_eq_ok, pure_eq_ok,
    exists_const, Bool.not_eq_true, Option.isSome_eq_false_iff, Option.isNone_iff_eq_none] at success
  obtain ⟨-, free, accounts, -, rfl⟩ := success
  exact .initialized remoteConfig setup keys accounts free

theorem initializeDeployAuthorization_effect {administrator authorizationConfig : Pubkey}
    (success : w.initializeDeployAuthorization cluster remoteConfig administrator authorizationConfig
      now = .ok w') :
    Effect cluster call now w
      (.remoteLeg remoteConfig (.initializeDeployAuthorization administrator authorizationConfig))
      w' := by
  simp only [World.initializeDeployAuthorization, RemoteLeg.initializeDeployAuthorization, bind_eq_ok,
    World.leg_ok, rejectIf_eq_ok, mapError_eq_ok, loadDeploymentAuthority_ok, pure_eq_ok, exists_const,
    Bool.not_eq_true, Option.isSome_eq_false_iff, Option.isNone_iff_eq_none,
    Decidable.not_not] at success
  obtain ⟨leg, found, _, ⟨-, authority, stored, -, unset, ⟨-, program, namesLeg⟩, rfl⟩, rfl⟩ := success
  exact .adopted remoteConfig administrator authorizationConfig leg authority found unset stored
    program namesLeg

theorem plain_effect {ctx : Leg.Context} {instruction : Leg.Instruction}
    {other : isDeployment instruction = false}
    (success : w.plain cluster remoteConfig ctx instruction now = .ok w') :
    Effect cluster call now w (.remoteLeg remoteConfig (.plain ctx instruction other)) w' := by
  simp only [World.plain, bind_eq_ok, World.leg_ok, mapError_eq_ok, pure_eq_ok] at success
  obtain ⟨leg, found, accounts, -, rfl⟩ := success
  exact .plain remoteConfig ctx instruction other leg accounts found

theorem isOk_iff {ε α : Type} {x : Except ε α} : x.isOk = true ↔ ∃ a, x = .ok a := by
  cases x with
  | error failure => simp [Except.isOk, Except.toBool]
  | ok a => simp [Except.isOk, Except.toBool]

theorem deployToStrategy_effect {receiptKey : Pubkey} {amount : U64} {adapterCall : AdapterCall}
    (success : w.deployToStrategy cluster remoteConfig receiptKey amount adapterCall call now =
      .ok w') :
    Effect cluster call now w
      (.remoteLeg remoteConfig (.deployToStrategy receiptKey amount adapterCall)) w' := by
  simp only [World.deployToStrategy, RemoteLeg.deployToStrategy, bind_eq_ok, World.leg_ok,
    mapError_eq_ok, okOr_eq_ok, loadReceipt_ok, pure_eq_ok] at success
  obtain ⟨leg, found, leg', ⟨policy, adopted, receipt, stored, accounts, moved, rfl⟩, rfl⟩ := success
  obtain ⟨approved, moves⟩ := deployToStrategy_moves moved
  obtain ⟨_, checked⟩ := isOk_iff.mp approved
  have deploys : Deploys cluster call now w remoteConfig receiptKey amount adapterCall leg
      { leg with accounts := accounts } ⟨policy, receiptKey, receipt, call⟩ :=
    ⟨found, adopted, stored, ⟨rfl, rfl⟩, Authorization.check_ok checked, moves, rfl, rfl⟩
  exact .deployed remoteConfig receiptKey amount adapterCall leg { leg with accounts := accounts }
    ⟨policy, receiptKey, receipt, call⟩ _ deploys rfl rfl

theorem perform_effect {request : Request} (success : w.perform cluster call now request = .ok w') :
    Effect cluster call now w request w' := by
  cases request with
  | verifier operation => exact verifier_effect success
  | remoteLeg remoteConfig operation =>
      cases operation with
      | initializeRemoteLeg setup keys => exact initializeRemoteLeg_effect success
      | initializeDeployAuthorization administrator authorizationConfig =>
          exact initializeDeployAuthorization_effect success
      | deployToStrategy receipt amount adapterCall => exact deployToStrategy_effect success
      | plain ctx instruction other => exact plain_effect success

end Effects

/- What every call keeps. -/

/-- A leg's keys are settled, and so is its policy once it is adopted. -/
structure RemoteLeg.Keeps (leg leg' : RemoteLeg) : Prop where
  keys : leg'.keys = leg.keys
  policy : ∀ policy, leg.policy = some policy → leg'.policy = some policy

/-- Nothing is lost: accounts and legs keep their terms, receipts never change, and the deployments
so far stay where they are. -/
structure World.Follows (w w' : World) : Prop where
  approvals : w.approvals.Follows w'.approvals
  legs : ∀ remoteConfig leg, w.legs remoteConfig = some leg →
    ∃ leg', w'.legs remoteConfig = some leg' ∧ leg.Keeps leg'
  deployed : w.deployed <+: w'.deployed

section Invariants

variable {cluster : Cluster} {call : Invocation} {now : UnixTimestamp} {w w' : World}
  {request : Request} {remoteConfig : Pubkey} {leg leg' : RemoteLeg}

namespace World

theorem Follows.refl (w : World) : w.Follows w where
  approvals := .refl _
  legs _ leg found := ⟨leg, found, rfl, fun _ adopted => adopted⟩
  deployed := List.prefix_rfl

theorem Follows.trans {w'' : World} (first : w.Follows w') (second : w'.Follows w'') :
    w.Follows w'' where
  approvals := first.approvals.trans second.approvals
  legs := by
    intro remoteConfig leg found
    obtain ⟨middle, found', keeps⟩ := first.legs remoteConfig leg found
    obtain ⟨last, found'', keeps'⟩ := second.legs remoteConfig middle found'
    exact ⟨last, found'', keeps'.keys.trans keeps.keys,
      fun policy adopted => keeps'.policy policy (keeps.policy policy adopted)⟩
  deployed := first.deployed.trans second.deployed

theorem setLeg_self : (w.setLeg remoteConfig leg).legs remoteConfig = some leg :=
  Function.update_self ..

theorem setLeg_of_ne {other : Pubkey} (apart : other ≠ remoteConfig) :
    (w.setLeg remoteConfig leg).legs other = w.legs other :=
  Function.update_of_ne apart ..

theorem legs_setLeg (keeps : ∀ leg, w.legs remoteConfig = some leg → leg.Keeps leg') :
    ∀ other leg, w.legs other = some leg →
      ∃ kept, (w.setLeg remoteConfig leg').legs other = some kept ∧ leg.Keeps kept := by
  intro other leg found
  by_cases same : other = remoteConfig
  · subst same
    exact ⟨leg', setLeg_self, keeps leg found⟩
  · exact ⟨leg, (setLeg_of_ne same).trans found, rfl, fun _ adopted => adopted⟩

end World

theorem Effect.follows (effect : Effect cluster call now w request w') : w.Follows w' := by
  cases effect with
  | administered operation approvals other done =>
      exact ⟨done.follows, (World.Follows.refl w).legs, List.prefix_rfl⟩
  | consumed approval call' clock' granted =>
      exact ⟨.created granted.fresh, (World.Follows.refl w).legs, List.prefix_rfl⟩
  | initialized remoteConfig setup keys accounts free =>
      refine ⟨.refl _, World.legs_setLeg ?_, List.prefix_rfl⟩
      intro leg found
      rw [free] at found
      cases found
  | adopted remoteConfig administrator authorizationConfig leg authority found unset =>
      refine ⟨.refl _, World.legs_setLeg ?_, List.prefix_rfl⟩
      intro before found'
      cases found.symm.trans found'
      refine ⟨rfl, ?_⟩
      intro policy adopted
      rw [unset] at adopted
      cases adopted
  | plain remoteConfig ctx instruction other leg accounts found =>
      refine ⟨.refl _, World.legs_setLeg ?_, List.prefix_rfl⟩
      intro before found'
      cases found.symm.trans found'
      exact ⟨rfl, fun _ adopted => adopted⟩
  | deployed remoteConfig receiptKey amount adapterCall leg leg' authorization event deploys =>
      refine ⟨.refl _, World.legs_setLeg ?_, List.prefix_append _ _⟩
      intro before found
      cases deploys.found.symm.trans found
      exact ⟨deploys.kept.1, fun policy adopted => deploys.kept.2.trans adopted⟩

/-- The authority a leg adopted is there, and is for this leg. -/
def World.Adopted (cluster : Cluster) (w : World) : Prop :=
  ∀ remoteConfig leg policy, w.legs remoteConfig = some leg → leg.policy = some policy →
    ∃ authority, w.approvals policy.authorizationConfig = some (.authority authority) ∧
      authority.remoteLegProgram = cluster.remoteLeg ∧ authority.remoteConfig = remoteConfig

/-- Every receipt is at the address of its own nonce, under an authority that is there. -/
def World.Placed (cluster : Cluster) (w : World) : Prop :=
  ∀ address receipt, w.approvals address = some (.receipt receipt) →
    address = Verifier.deploymentReceiptAddress cluster.derivation receipt.config receipt.nonce ∧
    ∃ authority, w.approvals receipt.config = some (.authority authority)

/-- Every deployment has its receipt, from the authority its leg adopted and for its amount. -/
def World.Logged (w : World) : Prop :=
  ∀ execution ∈ w.deployed, ∃ leg policy receipt,
    w.legs execution.event.remoteConfig = some leg ∧ leg.policy = some policy ∧
    w.approvals execution.receipt = some (.receipt receipt) ∧
    receipt.config = policy.authorizationConfig ∧ receipt.amount = execution.event.deployedNow

structure World.Linked (cluster : Cluster) (w : World) : Prop where
  adopted : w.Adopted cluster
  placed : w.Placed cluster
  logged : w.Logged

theorem World.Linked.empty : World.Linked cluster .empty where
  adopted := by
    intro remoteConfig leg policy found
    cases found
  placed := by
    intro address receipt stored
    cases stored
  logged := by
    intro execution member
    cases member

/-- An authority for a leg stays there, whatever follows. -/
theorem World.Follows.authority (follows : w.Follows w') {config : Pubkey}
    (there : ∃ authority, w.approvals config = some (.authority authority) ∧
      authority.remoteLegProgram = cluster.remoteLeg ∧ authority.remoteConfig = remoteConfig) :
    ∃ authority, w'.approvals config = some (.authority authority) ∧
      authority.remoteLegProgram = cluster.remoteLeg ∧ authority.remoteConfig = remoteConfig := by
  obtain ⟨authority, stored, program, namesLeg⟩ := there
  obtain ⟨later, stored', program', namesLeg', -⟩ := follows.approvals.authority stored
  exact ⟨later, stored', program'.trans program, namesLeg'.trans namesLeg⟩

/-- Only the policy of the leg that is stored is new. -/
theorem World.Adopted.setLeg (adopted : w.Adopted cluster)
    (own : ∀ policy, leg'.policy = some policy →
      ∃ authority, w.approvals policy.authorizationConfig = some (.authority authority) ∧
        authority.remoteLegProgram = cluster.remoteLeg ∧ authority.remoteConfig = remoteConfig) :
    (w.setLeg remoteConfig leg').Adopted cluster := by
  intro other leg policy found policySet
  by_cases same : other = remoteConfig
  · subst same
    rw [World.setLeg_self, Option.some.injEq] at found
    rw [← found] at policySet
    exact own policy policySet
  · rw [World.setLeg_of_ne same] at found
    exact adopted other leg policy found policySet

theorem Effect.adopted_kept (effect : Effect cluster call now w request w')
    (adopted : w.Adopted cluster) : w'.Adopted cluster := by
  have follows := effect.follows
  cases effect with
  | administered operation approvals other done =>
      intro remoteConfig leg policy found policySet
      exact follows.authority (adopted remoteConfig leg policy found policySet)
  | consumed approval call' clock' granted =>
      intro remoteConfig leg policy found policySet
      exact follows.authority (adopted remoteConfig leg policy found policySet)
  | initialized remoteConfig setup keys accounts free =>
      refine adopted.setLeg ?_
      intro policy policySet
      cases policySet
  | adopted remoteConfig administrator authorizationConfig leg authority found unset stored program
      namesLeg =>
      refine adopted.setLeg ?_
      intro policy policySet
      cases policySet
      exact ⟨authority, stored, program, namesLeg⟩
  | plain remoteConfig ctx instruction other leg accounts found =>
      refine adopted.setLeg ?_
      intro policy policySet
      exact adopted remoteConfig leg policy found policySet
  | deployed remoteConfig receiptKey amount adapterCall leg leg' authorization event deploys =>
      have own : (w.setLeg remoteConfig leg').Adopted cluster := by
        refine adopted.setLeg ?_
        intro policy policySet
        exact adopted remoteConfig leg policy deploys.found (deploys.kept.2.symm.trans policySet)
      exact own

theorem Effect.placed_kept (effect : Effect cluster call now w request w')
    (placed : w.Placed cluster) : w'.Placed cluster := by
  have follows := effect.follows
  have old {address : Pubkey} {receipt : DeploymentReceipt}
      (stored : w.approvals address = some (.receipt receipt)) :
      address = Verifier.deploymentReceiptAddress cluster.derivation receipt.config receipt.nonce ∧
      ∃ authority, w'.approvals receipt.config = some (.authority authority) := by
    obtain ⟨here, authority, found⟩ := placed address receipt stored
    obtain ⟨later, found', -⟩ := follows.approvals.authority found
    exact ⟨here, later, found'⟩
  cases effect with
  | administered operation approvals other done =>
      intro address receipt stored
      exact old (done.noReceipt address receipt stored)
  | consumed approval call' clock' granted =>
      intro address receipt stored
      change w.approvals.set _ _ address = _ at stored
      by_cases same : address = approval.receipt
      · subst same
        rw [Verifier.Approvals.set_self, Option.some.injEq,
          Verifier.DeploymentAccount.receipt.injEq] at stored
        obtain ⟨later, found, -⟩ := follows.approvals.authority granted.authority
        rw [← stored]
        exact ⟨granted.receiptAddress, later, found⟩
      · rw [Verifier.Approvals.set_of_ne same] at stored
        exact old stored
  | initialized => exact fun address receipt stored => old stored
  | adopted => exact fun address receipt stored => old stored
  | plain => exact fun address receipt stored => old stored
  | deployed => exact fun address receipt stored => old stored

theorem Effect.logged_kept (effect : Effect cluster call now w request w') (logged : w.Logged) :
    w'.Logged := by
  have follows := effect.follows
  have old {execution : Execution} (member : execution ∈ w.deployed) : ∃ leg policy receipt,
      w'.legs execution.event.remoteConfig = some leg ∧ leg.policy = some policy ∧
      w'.approvals execution.receipt = some (.receipt receipt) ∧
      receipt.config = policy.authorizationConfig ∧
      receipt.amount = execution.event.deployedNow := by
    obtain ⟨leg, policy, receipt, found, policySet, stored, config, amount⟩ :=
      logged execution member
    obtain ⟨later, found', keeps⟩ := follows.legs _ leg found
    exact ⟨later, policy, receipt, found', keeps.policy policy policySet,
      follows.approvals.receipt stored, config, amount⟩
  cases effect with
  | administered => exact fun execution member => old member
  | consumed => exact fun execution member => old member
  | initialized => exact fun execution member => old member
  | adopted => exact fun execution member => old member
  | plain => exact fun execution member => old member
  | deployed remoteConfig receiptKey amount adapterCall leg leg' authorization event deploys where'
      amounts =>
      intro execution member
      rcases List.mem_append.mp member with earlier | new
      · exact old earlier
      · rw [List.mem_singleton] at new
        subst new where' amounts
        have policySet : leg'.policy = some authorization.policy :=
          deploys.kept.2.trans deploys.adopted
        exact ⟨leg', authorization.policy, authorization.receipt, World.setLeg_self, policySet,
          deploys.stored, deploys.checked.config, deploys.checked.amount⟩

theorem Effect.linked_kept (effect : Effect cluster call now w request w')
    (linked : w.Linked cluster) : w'.Linked cluster :=
  ⟨effect.adopted_kept linked.adopted, effect.placed_kept linked.placed,
    effect.logged_kept linked.logged⟩

/-- Only a deployment is logged. -/
theorem Effect.deployed_eq (effect : Effect cluster call now w request w') :
    w'.deployed.map Execution.spends =
      w.deployed.map Execution.spends ++ request.deployment.toList := by
  cases effect with
  | deployed remoteConfig receiptKey amount adapterCall leg leg' authorization event deploys where'
      amounts =>
      subst where' amounts
      exact List.map_append
  | administered => exact (List.append_nil _).symm
  | consumed => exact (List.append_nil _).symm
  | initialized => exact (List.append_nil _).symm
  | adopted => exact (List.append_nil _).symm
  | plain => exact (List.append_nil _).symm

end Invariants

end Deployment
