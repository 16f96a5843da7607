import CrossChainVault.Base.History
import CrossChainVault.Deployment.Pairing
import CrossChainVault.Leg.Changes
import Mathlib.Data.Set.Function

set_option autoImplicit false

/- Every strategy deployment spends exactly one fresh approval. -/

namespace Deployment

open Result History
open Leg (U64 UnixTimestamp AdapterCall)
open Verifier (Pubkey Nonce Invocation TransactionInstruction Approval DeploymentReceipt
  DeploymentAuthority)

section Calls

variable {cluster : Cluster} {call : Invocation} {now : UnixTimestamp} {w w' : World}

theorem consumed_of_perform {config riskKey receipt : Pubkey} {nonce : Nonce} {call' : Invocation}
    {clock' : UnixTimestamp}
    (success : w.perform cluster call now (.verifier (.consumeDeploymentAuthorization config riskKey
      receipt nonce call' clock')) = .ok w') :
    ∃ approval : Approval, approval.config = config ∧ approval.riskKey = riskKey ∧
      approval.receipt = receipt ∧ approval.nonce = nonce ∧
      approval.Granted cluster.derivation cluster.toProgramIds call now w.approvals ∧
      w' = { w with
        approvals := w.approvals.set receipt
          (.receipt (approval.spent cluster.derivation now)) } := by
  cases perform_effect success with
  | administered _ _ other => cases other
  | consumed approval _ _ granted => exact ⟨approval, rfl, rfl, rfl, rfl, granted, rfl⟩

theorem deployed_of_perform {remoteConfig receiptKey : Pubkey} {amount : U64}
    {adapterCall : AdapterCall}
    (success : w.perform cluster call now
      (.remoteLeg remoteConfig (.deployToStrategy receiptKey amount adapterCall)) = .ok w') :
    ∃ leg leg' authorization,
      Deploys cluster call now w remoteConfig receiptKey amount adapterCall leg leg' authorization ∧
      w'.legs remoteConfig = some leg' := by
  cases perform_effect success with
  | deployed _ _ _ _ leg leg' authorization event deploys =>
      exact ⟨leg, leg', authorization, deploys, World.setLeg_self⟩

/-- Only a consume creates a receipt. -/
theorem Effect.consumes_of_new {request : Request} {address : Pubkey} {receipt : DeploymentReceipt}
    (effect : Effect cluster call now w request w')
    (new : w.approvals address ≠ some (.receipt receipt))
    (stored : w'.approvals address = some (.receipt receipt)) :
    ∃ approval : Approval, approval.receipt = address ∧
      approval.Granted cluster.derivation cluster.toProgramIds call now w.approvals ∧
      receipt = approval.spent cluster.derivation now := by
  cases effect with
  | administered operation approvals other done => exact absurd (done.noReceipt _ _ stored) new
  | consumed approval call' clock' granted =>
      change w.approvals.set _ _ address = _ at stored
      by_cases same : address = approval.receipt
      · subst same
        rw [Verifier.Approvals.set_self, Option.some.injEq,
          Verifier.DeploymentAccount.receipt.injEq] at stored
        exact ⟨approval, rfl, granted, stored.symm⟩
      · rw [Verifier.Approvals.set_of_ne same] at stored
        exact absurd stored new
  | initialized => exact absurd stored new
  | adopted => exact absurd stored new
  | plain => exact absurd stored new
  | deployed => exact absurd stored new

end Calls

/- What a transaction logs. -/

/-- What an instruction itself deploys. -/
def TopLevel.deployment {cluster : Cluster} (entry : TopLevel cluster) :
    Option (Pubkey × Pubkey × U64) :=
  entry.own.bind Request.deployment

/-- The deployments a transaction asks for at its top level, in order. -/
def Transaction.deployments {cluster : Cluster} (transaction : Transaction cluster) :
    List (Pubkey × Pubkey × U64) :=
  transaction.entries.flatMap fun entry => entry.deployment.toList

/-- A deployment and a consume each run at the top level or fail. -/
def callDeployment (call : Nat × Request) : List (Pubkey × Pubkey × U64) :=
  if call.1 = Verifier.transactionLevelStackHeight then call.2.deployment.toList else []

section Logs

variable {cluster : Cluster} {transaction : Transaction cluster} {w w' : World}

theorem call_logs {index : Nat} {call : Nat × Request}
    (success : transaction.call index w call = .ok w') :
    w'.deployed.map Execution.spends = w.deployed.map Execution.spends ++ callDeployment call := by
  have effect := perform_effect success
  rw [effect.deployed_eq]
  unfold callDeployment
  split
  · rfl
  · rename_i inner
    have none : call.2.deployment = none := by
      generalize call.2 = request at effect
      cases effect with
      | deployed _ _ _ _ _ _ authorization _ deploys =>
          have top := deploys.checked.top
          rw [deploys.names.2] at top
          exact absurd top inner
      | administered => rfl
      | consumed => rfl
      | initialized => rfl
      | adopted => rfl
      | plain => rfl
    rw [none]
    rfl

theorem TopLevel.calls_deploy (entry : TopLevel cluster) :
    entry.calls.flatMap callDeployment = entry.deployment.toList := by
  have own : (entry.own.toList.map fun request =>
      (Verifier.transactionLevelStackHeight, request)).flatMap callDeployment =
      entry.deployment.toList := by
    unfold TopLevel.deployment
    cases entry.own with
    | none => rfl
    | some request => exact List.append_nil _
  rw [TopLevel.calls, List.flatMap_append, own]
  refine (congrArg (entry.deployment.toList ++ ·) ?_).trans (List.append_nil _)
  rw [List.flatMap_eq_nil_iff]
  intro call member
  obtain ⟨⟨depth, request⟩, -, rfl⟩ := List.mem_map.mp member
  apply if_neg
  dsimp only
  omega

theorem runEntry_logs {input : TopLevel cluster × Nat}
    (success : transaction.runEntry w input = .ok w') :
    w'.deployed.map Execution.spends =
      w.deployed.map Execution.spends ++ input.1.deployment.toList := by
  rw [← input.1.calls_deploy]
  exact Run.run_collects (fun w => w.deployed.map Execution.spends) callDeployment
    (fun w call w' success => call_logs success) input.1.calls w
    (Transaction.runEntry_ok.mp success).2

/-- The log grows by the deployments at the top level, and by nothing that another program calls. -/
theorem execute_logs (success : transaction.execute w = .ok w') :
    w'.deployed.map Execution.spends =
      w.deployed.map Execution.spends ++ transaction.deployments := by
  have logs := Run.run_collects (fun w => w.deployed.map Execution.spends)
    (fun input => input.1.deployment.toList) (fun w input w' success => runEntry_logs success)
    transaction.entries.zipIdx w success
  have entries : (transaction.entries.zipIdx.flatMap fun input => input.1.deployment.toList) =
      transaction.deployments := by
    have mapped := List.flatMap_map Prod.fst (fun entry => entry.deployment.toList)
      transaction.entries.zipIdx
    rw [List.zipIdx_map_fst] at mapped
    exact mapped.symm
  rw [logs, entries]

end Logs

/- The pair. -/

/-- A deployment right after the consume at `index`: what that consume was granted, and the worlds
before it, between the two, and after the deployment. -/
structure Spends {cluster : Cluster} (transaction : Transaction cluster) (start : World)
    (index : Nat) (remoteConfig receipt : Pubkey) (amount : U64) (adapterCall : AdapterCall)
    (approval : Approval) (before middle after : World) : Prop where
  reached :
    Run.run transaction.runEntry start (transaction.entries.zipIdx.take index) = .ok before
  consumes : ∃ entry call' clock', transaction.entries[index]? = some entry ∧
    entry.own = some (.verifier (.consumeDeploymentAuthorization approval.config approval.riskKey
      receipt approval.nonce call' clock')) ∧
    transaction.runEntry before (entry, index) = .ok middle
  deploys : middle.perform cluster
    ⟨Verifier.transactionLevelStackHeight, index + 1, transaction.shown⟩ transaction.clock
    (.remoteLeg remoteConfig (.deployToStrategy receipt amount adapterCall)) = .ok after
  /-- The receipt is new, and the terms, the key and the clock were checked as they stand. -/
  granted : approval.Granted cluster.derivation cluster.toProgramIds
    ⟨Verifier.transactionLevelStackHeight, index, transaction.shown⟩ transaction.clock
    before.approvals
  names : approval.receipt = receipt
  created : middle = { before with
    approvals := before.approvals.set receipt
      (.receipt (approval.spent cluster.derivation transaction.clock)) }
  /-- The named key signed exactly the message. -/
  signed : ∃ signature, cluster.native.verifies approval.key.publicKey.bytes signature
    approval.message.encode = true
  amounts : approval.message.amount = amount
  /-- The authority is the one the leg adopted, the leg moved the amount, and the message names the
  leg as it stands. -/
  moved : ∃ leg leg' policy, middle.legs remoteConfig = some leg ∧ leg.policy = some policy ∧
    policy.authorizationConfig = approval.config ∧ after.legs remoteConfig = some leg' ∧
    Moves amount leg.accounts leg'.accounts adapterCall ∧
    approval.message.deploymentContext = (deploymentContext cluster remoteConfig leg).commitment
      cluster.derivation cluster.toProgramIds

section Pair

variable {cluster : Cluster} {transaction : Transaction cluster} {entry : TopLevel cluster}
  {start final before after : World} {index : Nat}

/-- The native instruction before a consume succeeded, so its key signed what the consume read. -/
theorem signed_of_granted {approval : Approval} (finished : transaction.execute start = .ok final)
    (granted : approval.Granted cluster.derivation cluster.toProgramIds
      ⟨Verifier.transactionLevelStackHeight, index, transaction.shown⟩ transaction.clock
      before.approvals) :
    ∃ signature, cluster.native.verifies approval.key.publicKey.bytes signature
      approval.message.encode = true := by
  obtain ⟨-, encoded, precompile, signature, shape, reads⟩ := granted.signed
  obtain ⟨native, found, rfl⟩ := Transaction.shown_at.mp shape.before
  obtain ⟨_, _, here⟩ := Transaction.runsAt_of_execute finished found
  have passes := (Transaction.runEntry_ok.mp here.taken).1
  have accepts : cluster.native.accepts transaction.shown (index - 1) = true := by
    rw [not_and, Bool.not_eq_false] at passes
    exact passes shape.native
  rw [encoded] at reads
  exact ⟨signature, cluster.native.sound _ _ _ _ _ _ shape.before reads accepts⟩

/-- Right before a deployment that goes through, a consume created its receipt. -/
theorem spends_of_deployment {remoteConfig receipt : Pubkey} {amount : U64}
    {adapterCall : AdapterCall}
    (here : transaction.RunsAt start final index entry before after)
    (own : entry.own = some (.remoteLeg remoteConfig
      (.deployToStrategy receipt amount adapterCall))) :
    ∃ consume approval earlier later, index = consume + 1 ∧
      Spends transaction start consume remoteConfig receipt amount adapterCall approval earlier
        before later := by
  obtain ⟨later, deployed, -, -⟩ := here.own own
  obtain ⟨leg, leg', authorization, deploys, stored'⟩ := deployed_of_perform deployed
  have checked := deploys.checked
  obtain ⟨consume, shown, current, found, program, data, configAt, receiptAt⟩ := checked.consumed
  rw [deploys.names.2] at current found
  rw [deploys.names.1] at receiptAt
  dsimp only at current found
  subst current
  obtain ⟨previous, listed, rfl⟩ := Transaction.shown_at.mp found
  obtain ⟨riskKey, nonce, call', clock', asked⟩ :=
    consume_of_dispatches previous.dispatched program data configAt receiptAt
  obtain ⟨earlier, there⟩ := here.previous listed
  obtain ⟨middle, performed, -, same⟩ := there.own asked
  cases same (previous.leaf (.inl program))
  obtain ⟨approval, config, rfl, rfl, rfl, granted, created⟩ := consumed_of_perform performed
  have spent : authorization.receipt = approval.spent cluster.derivation transaction.clock := by
    have stored := deploys.stored
    rw [created] at stored
    change earlier.approvals.set _ _ _ = _ at stored
    rw [Verifier.Approvals.set_self, Option.some.injEq,
      Verifier.DeploymentAccount.receipt.injEq] at stored
    exact stored.symm
  have amounts := checked.amount
  have context := checked.context
  rw [spent] at amounts context
  refine ⟨consume, approval, earlier, later, rfl, ?_⟩
  exact {
    reached := there.reached
    consumes := ⟨previous, call', clock', listed, by rw [asked, config], there.taken⟩
    deploys := deployed
    granted := granted
    names := rfl
    created := created
    signed := signed_of_granted (Run.StepAt.finished here) granted
    amounts := amounts
    moved := ⟨leg, leg', authorization.policy, deploys.found, deploys.adopted, config.symm, stored',
      deploys.moves, context⟩ }

/-- Right after a consume for this leg program, the deployment that spends its receipt runs. -/
theorem deployment_of_granted {approval : Approval} {approvals : Verifier.Approvals}
    (here : transaction.RunsAt start final index entry before after)
    (program : approval.authority.remoteLegProgram = cluster.remoteLeg)
    (granted : approval.Granted cluster.derivation cluster.toProgramIds
      ⟨Verifier.transactionLevelStackHeight, index, transaction.shown⟩ transaction.clock
      approvals) :
    ∃ execution ∈ final.deployed, execution.receipt = approval.receipt ∧
      execution.event.remoteConfig = approval.authority.remoteConfig := by
  obtain ⟨next, found, ofLeg, data, -, configAt, receiptAt⟩ := granted.next
  obtain ⟨following, listed, rfl⟩ := Transaction.shown_at.mp found
  obtain ⟨adapterCall, asked⟩ := deployment_of_dispatches following.dispatched
    (ofLeg.trans program) data configAt receiptAt
  obtain ⟨later, there⟩ := here.next listed
  have logs := runEntry_logs there.taken
  have deployment : following.deployment = some
      (approval.authority.remoteConfig, approval.receipt, approval.message.amount) := by
    rw [TopLevel.deployment, asked]
    rfl
  have member : (approval.authority.remoteConfig, approval.receipt, approval.message.amount) ∈
      later.deployed.map Execution.spends := by
    rw [logs, deployment]
    exact List.mem_append_right _ List.mem_cons_self
  obtain ⟨execution, logged, same⟩ := List.mem_map.mp member
  rw [Execution.spends, Prod.mk.injEq, Prod.mk.injEq] at same
  exact ⟨execution, (run_follows there.rest).deployed.subset logged, same.2.1, same.1⟩

end Pair

/- Whole transactions. -/

/-- Between transactions, receipts and deployments stand in pairs. -/
structure World.Settled (cluster : Cluster) (w : World) : Prop where
  linked : w.Linked cluster
  /-- No receipt is spent twice. -/
  once : (w.deployed.map (·.receipt)).Nodup
  /-- Every receipt for a leg of this program was spent by a deployment of that leg. -/
  spent : ∀ address receipt authority, w.approvals address = some (.receipt receipt) →
    w.approvals receipt.config = some (.authority authority) →
    authority.remoteLegProgram = cluster.remoteLeg →
    ∃ execution ∈ w.deployed, execution.receipt = address ∧
      execution.event.remoteConfig = authority.remoteConfig

section Settled

variable {cluster : Cluster} {transaction : Transaction cluster} {start final : World}

theorem World.Settled.empty : World.Settled cluster .empty where
  linked := .empty
  once := List.nodup_nil
  spent := by
    intro address receipt authority stored
    cases stored

theorem execute_follows (finished : transaction.execute start = .ok final) : start.Follows final :=
  run_follows finished

/-- The receipt of a deployment was free before the consume, so no earlier deployment spent it. -/
theorem execute_once (linked : start.Linked cluster)
    (finished : transaction.execute start = .ok final)
    (once : (start.deployed.map (·.receipt)).Nodup) : (final.deployed.map (·.receipt)).Nodup := by
  by_contra twice
  obtain ⟨index, ⟨entry, place⟩, before, after, here, first, second⟩ :=
    Run.stepAt_of_turn (fun w => ¬(w.deployed.map (·.receipt)).Nodup) _ start finished
      (not_not_intro once) twice
  obtain ⟨-, rfl⟩ := Transaction.zipIdx_at.mp here.found
  apply second
  rw [not_not] at first
  have logs := congrArg (List.map (·.2.1)) (runEntry_logs here.taken)
  rw [List.map_append, List.map_map, List.map_map] at logs
  change after.deployed.map (·.receipt) = before.deployed.map (·.receipt) ++ _ at logs
  rw [logs]
  cases asked : entry.deployment with
  | none => rwa [Option.toList_none, List.map_nil, List.append_nil]
  | some deployment =>
      obtain ⟨request, own, deploys⟩ := Option.bind_eq_some_iff.mp asked
      obtain ⟨remoteConfig, receipt, amount, adapterCall, rfl⟩ :
          ∃ remoteConfig receipt amount adapterCall,
            request = .remoteLeg remoteConfig (.deployToStrategy receipt amount adapterCall) := by
        cases request with
        | verifier operation => cases deploys
        | remoteLeg remoteConfig operation =>
            cases operation with
            | deployToStrategy receipt amount adapterCall => exact ⟨_, _, _, _, rfl⟩
            | initializeRemoteLeg => cases deploys
            | initializeDeployAuthorization => cases deploys
            | plain => cases deploys
      cases deploys
      obtain ⟨consume, approval, earlier, later, -, spends⟩ := spends_of_deployment here own
      have fresh := spends.granted.fresh
      rw [spends.names] at fresh
      have same : before.deployed = earlier.deployed := by rw [spends.created]
      have unspent : receipt ∉ before.deployed.map (·.receipt) := by
        intro member
        obtain ⟨execution, logged, rfl⟩ := List.mem_map.mp member
        rw [same] at logged
        obtain ⟨_, _, _, -, -, stored, -⟩ :=
          (run_linked spends.reached linked).logged execution logged
        rw [fresh] at stored
        cases stored
      rw [Option.toList_some, List.map_singleton]
      refine List.nodup_append.mpr ⟨first, List.pairwise_singleton _ _, ?_⟩
      intro earlier logged last new same
      rw [List.mem_singleton] at new
      rw [same, new] at logged
      exact unspent logged

/-- A receipt that a transaction created was spent in it. -/
theorem execute_spent (finished : transaction.execute start = .ok final) {address : Pubkey}
    {receipt : DeploymentReceipt} {authority : DeploymentAuthority}
    (new : start.approvals address ≠ some (.receipt receipt))
    (stored : final.approvals address = some (.receipt receipt))
    (config : final.approvals receipt.config = some (.authority authority))
    (program : authority.remoteLegProgram = cluster.remoteLeg) :
    ∃ execution ∈ final.deployed, execution.receipt = address ∧
      execution.event.remoteConfig = authority.remoteConfig := by
  -- The instruction that creates it, and the call under that instruction.
  obtain ⟨index, ⟨entry, place⟩, before, after, here, absent, present⟩ :=
    Run.stepAt_of_turn (fun w => w.approvals address = some (.receipt receipt)) _ start finished new
      stored
  obtain ⟨-, rfl⟩ := Transaction.zipIdx_at.mp here.found
  obtain ⟨position, ⟨height, request⟩, middle, later, step, absent', present'⟩ :=
    Run.stepAt_of_turn (fun w => w.approvals address = some (.receipt receipt)) _ before
      (Transaction.runEntry_ok.mp here.taken).2 absent present
  obtain ⟨approval, rfl, granted, rfl⟩ :=
    (perform_effect step.taken).consumes_of_new absent' present'
  cases granted.signed.1
  have follows : middle.Follows final := by
    have toAfter : middle.Follows after :=
      (Transaction.call_follows step.taken).trans (calls_follow step.rest)
    exact toAfter.trans (run_follows here.rest)
  obtain ⟨later', stored', program', namesLeg, -⟩ := follows.approvals.authority granted.authority
  cases config.symm.trans stored'
  rw [namesLeg]
  exact deployment_of_granted here (program'.symm.trans program) granted

theorem execute_settled (settled : start.Settled cluster)
    (finished : transaction.execute start = .ok final) : final.Settled cluster where
  linked := run_linked finished settled.linked
  once := execute_once settled.linked finished settled.once
  spent := by
    intro address receipt authority stored config program
    have follows := execute_follows finished
    by_cases old : start.approvals address = some (.receipt receipt)
    · obtain ⟨-, authority', config'⟩ := settled.linked.placed address receipt old
      obtain ⟨later, found, program', namesLeg, -⟩ := follows.approvals.authority config'
      cases config.symm.trans found
      obtain ⟨execution, logged, spends, ofLeg⟩ :=
        settled.spent address receipt authority' old config' (program'.symm.trans program)
      exact ⟨execution, follows.deployed.subset logged, spends, ofLeg.trans namesLeg.symm⟩
    · exact execute_spent finished old stored config program

/-- The deployments of a leg and the receipts of the authority it adopted. -/
structure OneToOne (w : World) (remoteConfig config : Pubkey) : Prop where
  once : ((w.deployed.filter (·.event.remoteConfig = remoteConfig)).map (·.receipt)).Nodup
  receipts : ∀ address, (∃ execution ∈ w.deployed, execution.event.remoteConfig = remoteConfig ∧
      execution.receipt = address) ↔
    ∃ receipt, w.approvals address = some (.receipt receipt) ∧ receipt.config = config
  amounts : ∀ execution ∈ w.deployed, ∀ receipt, execution.event.remoteConfig = remoteConfig →
    w.approvals execution.receipt = some (.receipt receipt) →
    execution.event.deployedNow = receipt.amount

theorem World.Settled.oneToOne {w : World} (settled : w.Settled cluster) {remoteConfig : Pubkey}
    {leg : RemoteLeg} {policy : DeployAuthorizationPolicy}
    (found : w.legs remoteConfig = some leg) (adopted : leg.policy = some policy) :
    OneToOne w remoteConfig policy.authorizationConfig where
  once := by
    have fewer : ((w.deployed.filter (·.event.remoteConfig = remoteConfig)).map
        (·.receipt)).Sublist (w.deployed.map (·.receipt)) := List.filter_sublist.map _
    exact settled.once.sublist fewer
  receipts := by
    intro address
    constructor
    · rintro ⟨execution, logged, rfl, rfl⟩
      obtain ⟨leg', policy', receipt, found', adopted', stored, config, -⟩ :=
        settled.linked.logged execution logged
      cases found.symm.trans found'
      cases adopted.symm.trans adopted'
      exact ⟨receipt, stored, config⟩
    · rintro ⟨receipt, stored, config⟩
      obtain ⟨authority, there, program, namesLeg⟩ :=
        settled.linked.adopted remoteConfig leg policy found adopted
      rw [← config] at there
      obtain ⟨execution, logged, spends, ofLeg⟩ :=
        settled.spent address receipt authority stored there program
      exact ⟨execution, logged, ofLeg.trans namesLeg, spends⟩
  amounts := by
    intro execution logged receipt ofLeg stored
    obtain ⟨_, _, receipt', -, -, stored', -, amount⟩ := settled.linked.logged execution logged
    cases stored.symm.trans stored'
    exact amount.symm

/-- Two receipts of one authority have two nonces. -/
theorem World.Placed.nonce_ne {w : World} (placed : w.Placed cluster) {address address' : Pubkey}
    {receipt receipt' : DeploymentReceipt} (stored : w.approvals address = some (.receipt receipt))
    (stored' : w.approvals address' = some (.receipt receipt')) (apart : address ≠ address')
    (config : receipt.config = receipt'.config) : receipt.nonce ≠ receipt'.nonce := by
  intro nonce
  have here := (placed address receipt stored).1
  have there := (placed address' receipt' stored').1
  rw [config, nonce] at here
  exact apart (here.trans there.symm)

end Settled

/- Runs. -/

/-- What no order of transactions can break. -/
structure Authorized (cluster : Cluster) (steps : List (Entry World (Transaction cluster))) :
    Prop where
  oneToOne : ∀ entry ∈ steps, ∀ remoteConfig leg policy,
    entry.after.legs remoteConfig = some leg → leg.policy = some policy →
    OneToOne entry.after remoteConfig policy.authorizationConfig
  /-- A leg without an adopted authority deploys nothing. -/
  adopted : ∀ entry ∈ steps, ∀ execution ∈ entry.after.deployed, ∃ leg policy,
    entry.after.legs execution.event.remoteConfig = some leg ∧ leg.policy = some policy
  /-- The log is what the transactions deploy at their top level. -/
  logged : ∀ entry ∈ steps, entry.after.deployed.map Execution.spends =
    entry.before.deployed.map Execution.spends ++ entry.input.deployments
  nonces : ∀ entry ∈ steps, ∀ address address' receipt receipt',
    entry.after.approvals address = some (.receipt receipt) →
    entry.after.approvals address' = some (.receipt receipt') → address ≠ address' →
    receipt.config = receipt'.config → receipt.nonce ≠ receipt'.nonce
  /-- Receipts, adopted policies and the log are never changed. -/
  kept : (∀ entry ∈ steps, entry.before.Follows entry.after) ∧
    steps.Pairwise fun earlier later => earlier.after.Follows later.before
  approved : ∀ entry ∈ steps, ∀ index item remoteConfig receipt amount adapterCall,
    entry.input.entries[index]? = some item →
    item.own = some (.remoteLeg remoteConfig (.deployToStrategy receipt amount adapterCall)) →
    ∃ consume approval before middle after, index = consume + 1 ∧
      Spends entry.input entry.before consume remoteConfig receipt amount adapterCall approval before
        middle after
  /-- Where SHA-256 has no collision, the signed context is the leg's own. -/
  exactContext : ∀ entry ∈ steps, ∀ consume remoteConfig receipt amount adapterCall approval before
    middle after leg context, Spends entry.input entry.before consume remoteConfig receipt amount
      adapterCall approval before middle after →
    middle.legs remoteConfig = some leg →
    approval.message.deploymentContext =
      context.commitment cluster.derivation cluster.toProgramIds →
    ∀ texts : Set Bytes, Set.InjOn cluster.derivation.sha256 texts →
      context.bytes cluster.verifier ∈ texts →
      (deploymentContext cluster remoteConfig leg).bytes cluster.verifier ∈ texts →
      context = deploymentContext cluster remoteConfig leg

/-- Every strategy deployment spends exactly one fresh approval of the authority its leg adopted,
whatever transactions run in whatever order from a chain without accounts of the two programs. -/
theorem deployments_authorized (cluster : Cluster) (transactions : List (Transaction cluster)) :
    Authorized cluster (history World.step World.empty transactions) := by
  have settled : ∀ entry ∈ history (@World.step cluster) World.empty transactions,
      entry.before.Settled cluster ∧ entry.input.execute entry.before = .ok entry.after := by
    refine entries_of (World.Settled cluster) ?_ transactions World.empty .empty
    intro w transaction w' success holds
    exact execute_settled holds success
  have after : ∀ entry ∈ history (@World.step cluster) World.empty transactions,
      entry.after.Settled cluster := by
    intro entry member
    obtain ⟨holds, success⟩ := settled entry member
    exact execute_settled holds success
  refine {
    oneToOne := fun entry member _ _ _ found adopted => (after entry member).oneToOne found adopted
    adopted := ?_
    logged := fun entry member => execute_logs (settled entry member).2
    nonces := fun entry member _ _ _ _ stored stored' apart config =>
      (after entry member).linked.placed.nonce_ne stored stored' apart config
    kept := ⟨fun entry member => execute_follows (settled entry member).2, ?_⟩
    approved := ?_
    exactContext := ?_ }
  · intro entry member execution logged
    obtain ⟨leg, policy, _, found, adopted, -⟩ := (after entry member).linked.logged execution logged
    exact ⟨leg, policy, found, adopted⟩
  · exact (entries_follow World.Follows World.Follows.refl (fun _ _ _ => World.Follows.trans)
      (fun _ _ _ success => execute_follows success) transactions World.empty).2
  · intro entry member index item remoteConfig receipt amount adapterCall listed own
    obtain ⟨before, later, here⟩ :=
      Transaction.runsAt_of_execute (settled entry member).2 listed
    obtain ⟨consume, approval, earlier, deployed, same, spends⟩ := spends_of_deployment here own
    exact ⟨consume, approval, earlier, before, deployed, same, spends⟩
  · intro entry _ consume remoteConfig receipt amount adapterCall approval before middle deployed leg
      context spends found committed texts injective here there
    obtain ⟨leg', _, _, found', -, -, -, -, own⟩ := spends.moved
    cases found.symm.trans found'
    have digests : cluster.derivation.sha256 (context.bytes cluster.verifier) =
        cluster.derivation.sha256
          ((deploymentContext cluster remoteConfig leg).bytes cluster.verifier) :=
      committed.symm.trans own
    exact Verifier.bytes_injective cluster.verifier (injective here there digests)

/- A leg, its authority and one approval. -/

open Verifier (sampleIds sampleDerivation sampleKey)

def sampleNative : NativeProgram where
  verifies _ signature _ := signature == List.replicate Verifier.signatureLen 9
  accepts instructions index :=
    (instructions[index]?.bind fun instruction => Verifier.nativeReads instruction.data).any
      fun (_, signature, _) => signature == List.replicate Verifier.signatureLen 9
  sound := by
    intro instructions index instruction key signature message found reads accepted
    rw [found, Option.bind_some, reads, Option.any_some] at accepted
    exact accepted

def sampleCluster : Cluster where
  toProgramIds := sampleIds
  remoteLeg := 104
  distinct := by decide
  derivation := sampleDerivation
  legAddress bytes := .ofNat (Bytes.fromBigEndian bytes * 5 + 2)
  digests := Leg.sampleDigests
  native := sampleNative

def sampleClock (seconds : Nat) (early : seconds < 5000) : UnixTimestamp :=
  Verifier.sampleTime ⟨seconds, early⟩

def sampleRemoteConfig : Pubkey := remoteConfigAddress sampleCluster 3 4
def sampleAuthority : Pubkey :=
  Verifier.deploymentAuthorityAddress sampleDerivation 104 sampleRemoteConfig
def sampleRiskKey : Pubkey := Verifier.riskKeyAddress sampleDerivation sampleAuthority sampleKey
def sampleReceipt : Pubkey := Verifier.deploymentReceiptAddress sampleDerivation sampleAuthority 77
def sampleKeys : LegKeys := ⟨11, 21, 22, 23, 24, 25, 26, 27, 28⟩

/-- The leg as it stands before its first deployment. -/
def sampleStanding : Verifier.DeploymentContext where
  remoteLegProgram := 104
  remoteConfig := sampleRemoteConfig
  deploymentId := 3
  vaultId := 4
  configVersion := 1
  strategyConfig := strategyConfigAddress sampleCluster sampleRemoteConfig
  adapterProgram := 25
  adapterState := 26
  adapterAuthority := 27
  adapterTokenVault := 28
  maxRemotePrincipal := 1000
  assetMint := 21
  tokenProgram := 22
  custodyAuthority := 23
  custodyTokenAccount := 24
  deployedPrincipal := .zero

def sampleMessage : Verifier.DeploymentAuthorization where
  authority := sampleAuthority
  networkDomain := 31
  policyGeneration := .zero
  deploymentContext := sampleStanding.commitment sampleDerivation sampleIds
  amount := 300
  nonce := 77
  issuedAt := sampleClock 10 (by decide)
  expiresAt := sampleClock 40 (by decide)

def sampleAdapterCall : AdapterCall where
  principalBefore := .zero
  principalAfter := 300
  vaultBefore := .zero
  vaultAfter := 300
  custodyAfter := 300
  controlKept := true

/-- Any other instruction, with the requests it leads to. -/
def sampleOther (requests : List Request) : TopLevel sampleCluster where
  shown := ⟨999, [], []⟩
  own := none
  inner := requests.map fun request => (0, request)
  dispatched := by decide +kernel
  leaf named := absurd named (by decide +kernel)

def samplePrecompile : TopLevel sampleCluster where
  shown := ⟨103, [], Verifier.canonicalHeader sampleMessage.encode.length ++ sampleKey.bytes ++
    List.replicate Verifier.signatureLen 9 ++ sampleMessage.encode⟩
  own := none
  inner := []
  dispatched := by decide +kernel
  leaf := by decide +kernel

def sampleConsumeEntry : TopLevel sampleCluster where
  shown := ⟨101, [1, sampleAuthority, sampleRiskKey, sampleReceipt],
    consumeDeploymentAuthorizationDiscriminator ++ Verifier.nonceBytes 77⟩
  own := some (.verifier (.consumeDeploymentAuthorization sampleAuthority sampleRiskKey
    sampleReceipt 77 ⟨1, 0, []⟩ (sampleClock 20 (by decide))))
  inner := []
  dispatched := by decide +kernel
  leaf := by decide +kernel

def sampleDeployEntry : TopLevel sampleCluster where
  shown := ⟨104, sampleRemoteConfig :: List.replicate 12 1 ++ [sampleReceipt, 1],
    Verifier.deployToStrategyDiscriminator ++ Verifier.littleEndian64 300⟩
  own := some (.remoteLeg sampleRemoteConfig
    (.deployToStrategy sampleReceipt 300 sampleAdapterCall))
  inner := []
  dispatched := by decide +kernel
  leaf := by decide +kernel

def sampleSetup : Transaction sampleCluster where
  entries := [sampleOther [
    .remoteLeg sampleRemoteConfig (.initializeRemoteLeg Leg.sampleSetup sampleKeys),
    .verifier (.initializeDeploymentAuthority 10 (some 10) ⟨104, 1, true, false⟩
      ⟨sampleRemoteConfig, 104, false, false⟩ sampleAuthority ⟨12, 31⟩),
    .verifier (.registerRiskKey 12 sampleAuthority sampleRiskKey
      ⟨sampleKey, sampleClock 0 (by decide), sampleClock 4000 (by decide)⟩),
    .remoteLeg sampleRemoteConfig (.initializeDeployAuthorization 11 sampleAuthority)]]
  clock := sampleClock 20 (by decide)

def samplePlain (input : Leg.Context × Leg.Instruction)
    (other : isDeployment input.2 = false) : Request :=
  .remoteLeg sampleRemoteConfig (.plain input.1 input.2 other)

def sampleFunding : Transaction sampleCluster where
  entries := [sampleOther [samplePlain (Leg.sampleAllocate 1 600) rfl,
    samplePlain (Leg.sampleArrival 600) rfl, samplePlain (Leg.sampleAttribution 1) rfl]]
  clock := sampleClock 20 (by decide)

def sampleDeployment : Transaction sampleCluster where
  entries := [samplePrecompile, sampleConsumeEntry, sampleDeployEntry]
  clock := sampleClock 20 (by decide)

def sampleTransactions : List (Transaction sampleCluster) :=
  [sampleSetup, sampleFunding, sampleDeployment, sampleDeployment]

/-- The deployment goes through, and its second submission is the one refused transaction. -/
theorem deployments_authorized_spent :
    Authorized sampleCluster (history World.step World.empty sampleTransactions) ∧
      (history World.step World.empty sampleTransactions).map
        (fun entry => entry.after.deployed.map Execution.spends) =
          [[], [], [(sampleRemoteConfig, sampleReceipt, 300)]] :=
  ⟨deployments_authorized sampleCluster sampleTransactions, by decide +kernel⟩

end Deployment
