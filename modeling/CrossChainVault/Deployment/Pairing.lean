import CrossChainVault.Deployment.Effects

set_option autoImplicit false

/- Each program inspects what the other is asked in the same transaction, so a consume and a
deployment that go through stand next to each other. -/

namespace Deployment

open Result
open Leg (U64 UnixTimestamp AdapterCall)
open Verifier (Pubkey Nonce Invocation TransactionInstruction Approval DeploymentReceipt
  DeploymentAuthority)

/- What an instruction's bytes say it asks. -/

section Dispatch

variable {cluster : Cluster} {shown : TransactionInstruction} {own : Option Request}

theorem Cluster.verifier_ne_remoteLeg (cluster : Cluster) : cluster.verifier ≠ cluster.remoteLeg := by
  have distinct := cluster.distinct
  simp only [List.nodup_cons, List.mem_cons, not_or] at distinct
  exact distinct.1.2.1

/-- Every request but a consume is dispatched on another selector or by another program. -/
theorem consume_of_dispatches {config receipt : Pubkey} {nonce : Nonce}
    (dispatches : Dispatches cluster shown own) (program : shown.programId = cluster.verifier)
    (data : shown.data = consumeDeploymentAuthorizationDiscriminator ++ Verifier.nonceBytes nonce)
    (configAt : shown.accounts[consumeConfigIndex]? = some config)
    (receiptAt : shown.accounts[consumeReceiptIndex]? = some receipt) :
    ∃ riskKey nonce' call clock, own = some (.verifier
      (.consumeDeploymentAuthorization config riskKey receipt nonce' call clock)) := by
  have selector : shown.data.take 8 = consumeDeploymentAuthorizationDiscriminator := by
    rw [data]
    exact List.take_left' rfl
  cases own with
  | none => exact absurd ⟨program, selector⟩ dispatches.1
  | some request =>
      cases request with
      | verifier operation =>
          cases operation with
          | consumeDeploymentAuthorization config' riskKey receipt' nonce' call clock =>
              obtain ⟨-, -, configAt', -, receiptAt'⟩ := dispatches
              cases configAt.symm.trans configAt'
              cases receiptAt.symm.trans receiptAt'
              exact ⟨riskKey, nonce', call, clock, rfl⟩
          | initializeDeploymentAuthority => exact absurd selector dispatches.2
          | registerRiskKey => exact absurd selector dispatches.2
          | revokeRiskKey => exact absurd selector dispatches.2
          | advancePolicyGeneration => exact absurd selector dispatches.2
      | remoteLeg remoteConfig operation =>
          have other : shown.programId = cluster.remoteLeg := by
            cases operation with
            | initializeRemoteLeg => exact dispatches.1
            | initializeDeployAuthorization => exact dispatches.1
            | deployToStrategy => exact dispatches.1
            | plain => exact dispatches.1
          exact absurd (program.symm.trans other) cluster.verifier_ne_remoteLeg

theorem deployment_of_dispatches {remoteConfig receipt : Pubkey} {amount : U64}
    (dispatches : Dispatches cluster shown own) (program : shown.programId = cluster.remoteLeg)
    (data : shown.data = Verifier.deployToStrategyDiscriminator ++ Verifier.littleEndian64 amount)
    (configAt : shown.accounts[Verifier.deployRemoteConfigIndex]? = some remoteConfig)
    (receiptAt : shown.accounts[Verifier.deployReceiptIndex]? = some receipt) :
    ∃ adapterCall, own = some (.remoteLeg remoteConfig
      (.deployToStrategy receipt amount adapterCall)) := by
  have selector : shown.data.take 8 = Verifier.deployToStrategyDiscriminator := by
    rw [data]
    exact List.take_left' rfl
  have whole : shown.data.take 16 =
      Verifier.deployToStrategyDiscriminator ++ Verifier.littleEndian64 amount := by
    rw [data, List.take_of_length_le]
    rw [List.length_append, Verifier.u64_codec.sized]
    exact Nat.le_refl 16
  cases own with
  | none => exact absurd ⟨program, selector⟩ dispatches.2
  | some request =>
      cases request with
      | verifier operation =>
          have other : shown.programId = cluster.verifier := by
            cases operation with
            | initializeDeploymentAuthority => exact dispatches.1
            | registerRiskKey => exact dispatches.1
            | revokeRiskKey => exact dispatches.1
            | advancePolicyGeneration => exact dispatches.1
            | consumeDeploymentAuthorization => exact dispatches.1
          exact absurd (other.symm.trans program) cluster.verifier_ne_remoteLeg
      | remoteLeg remoteConfig' operation =>
          cases operation with
          | deployToStrategy receipt' amount' adapterCall =>
              obtain ⟨-, data', -, configAt', receiptAt'⟩ := dispatches
              cases configAt.symm.trans configAt'
              cases receiptAt.symm.trans receiptAt'
              have amounts := List.append_cancel_left (whole.symm.trans data')
              cases Verifier.u64_codec.inj.mp amounts
              exact ⟨adapterCall, rfl⟩
          | initializeRemoteLeg => exact absurd selector dispatches.2
          | initializeDeployAuthorization => exact absurd selector dispatches.2
          | plain => exact absurd selector dispatches.2

end Dispatch

/- Instructions of an accepted transaction. -/

section Transactions

variable {cluster : Cluster} {transaction : Transaction cluster} {entry : TopLevel cluster}
  {start final before after w w' : World} {index : Nat} {request : Request}

theorem Transaction.call_follows {call : Nat × Request}
    (success : transaction.call index w call = .ok w') : w.Follows w' :=
  (perform_effect success).follows

theorem Transaction.runEntry_ok :
    transaction.runEntry w (entry, index) = .ok w' ↔
      ¬(entry.shown.programId = cluster.secp256r1 ∧
        cluster.native.accepts transaction.shown index = false) ∧
      Run.run (transaction.call index) w entry.calls = .ok w' := by
  simp only [Transaction.runEntry, bind_eq_ok, rejectIf_eq_ok, exists_const]

/-- What every call keeps, a transaction keeps. -/
theorem Transaction.runEntry_preserves (Inv : World → Prop)
    (preserved : ∀ call now w request w', Effect cluster call now w request w' → Inv w → Inv w')
    {input : TopLevel cluster × Nat} (success : transaction.runEntry w input = .ok w')
    (holds : Inv w) : Inv w' := by
  refine Run.run_preserves Inv ?_ input.1.calls w (Transaction.runEntry_ok.mp success).2 holds
  intro w call w' success holds
  exact preserved _ _ w call.2 w' (perform_effect success) holds

theorem calls_follow {calls : List (Nat × Request)}
    (success : Run.run (transaction.call index) w calls = .ok w') : w.Follows w' := by
  refine Run.run_preserves (w.Follows ·) ?_ calls w success (.refl w)
  intro middle call after success reached
  exact reached.trans (Transaction.call_follows success)

theorem run_follows {inputs : List (TopLevel cluster × Nat)}
    (success : Run.run transaction.runEntry w inputs = .ok w') : w.Follows w' := by
  refine Run.run_preserves (w.Follows ·) ?_ inputs w success (.refl w)
  intro middle input after success reached
  refine Transaction.runEntry_preserves (w.Follows ·) ?_ success reached
  intro call now before request after effect reached
  exact reached.trans effect.follows

theorem run_linked {inputs : List (TopLevel cluster × Nat)}
    (success : Run.run transaction.runEntry w inputs = .ok w') (linked : w.Linked cluster) :
    w'.Linked cluster := by
  refine Run.run_preserves (World.Linked cluster) ?_ inputs w success linked
  intro middle input after success holds
  refine Transaction.runEntry_preserves (World.Linked cluster) ?_ success holds
  intro call now before request after effect holds
  exact effect.linked_kept holds

/-- The instruction at `index` ran between these worlds. -/
abbrev Transaction.RunsAt (transaction : Transaction cluster) (start final : World) (index : Nat)
    (entry : TopLevel cluster) (before after : World) : Prop :=
  Run.StepAt transaction.runEntry start transaction.entries.zipIdx final index (entry, index) before
    after

namespace Transaction

theorem zipIdx_at {input : TopLevel cluster × Nat} :
    transaction.entries.zipIdx[index]? = some input ↔
      transaction.entries[index]? = some input.1 ∧ input.2 = index := by
  rw [List.getElem?_zipIdx, Option.map_eq_some_iff]
  constructor
  · rintro ⟨entry, found, rfl⟩
    exact ⟨found, Nat.zero_add index⟩
  · rintro ⟨found, rfl⟩
    exact ⟨input.1, found, by rw [Nat.zero_add]⟩

theorem runsAt_of_execute (finished : transaction.execute start = .ok final)
    (found : transaction.entries[index]? = some entry) :
    ∃ before after, transaction.RunsAt start final index entry before after :=
  Run.StepAt.of_run finished (zipIdx_at.mpr ⟨found, rfl⟩)

theorem RunsAt.next (here : transaction.RunsAt start final index entry before after)
    {entry' : TopLevel cluster} (found : transaction.entries[index + 1]? = some entry') :
    ∃ later, transaction.RunsAt start final (index + 1) entry' after later :=
  Run.StepAt.next here (zipIdx_at.mpr ⟨found, rfl⟩)

theorem RunsAt.previous (here : transaction.RunsAt start final (index + 1) entry before after)
    {entry' : TopLevel cluster} (found : transaction.entries[index]? = some entry') :
    ∃ earlier, transaction.RunsAt start final index entry' earlier before := by
  obtain ⟨input, earlier, there⟩ := Run.StepAt.previous here
  obtain ⟨found', rfl⟩ := zipIdx_at.mp there.found
  cases found.symm.trans found'
  exact ⟨earlier, there⟩

/-- The instructions sysvar shows each instruction at its index. -/
theorem shown_at {shown : TransactionInstruction} :
    transaction.shown[index]? = some shown ↔
      ∃ entry, transaction.entries[index]? = some entry ∧ entry.shown = shown := by
  rw [Transaction.shown, List.getElem?_map, Option.map_eq_some_iff]

/-- An instruction's own request ran first, at the top level, and then what it led to. -/
theorem RunsAt.own (here : transaction.RunsAt start final index entry before after)
    (own : entry.own = some request) :
    ∃ middle, before.perform cluster
        ⟨Verifier.transactionLevelStackHeight, index, transaction.shown⟩ transaction.clock request =
          .ok middle ∧
      middle.Follows after ∧ (entry.inner = [] → middle = after) := by
  have ran := (runEntry_ok.mp here.taken).2
  rw [TopLevel.calls, own, Option.toList_some, List.map_singleton, List.singleton_append] at ran
  obtain ⟨middle, first, rest⟩ := Run.run_cons.mp ran
  refine ⟨middle, first, ?_, ?_⟩
  · exact calls_follow rest
  · intro leaf
    rw [leaf] at rest
    exact Run.run_nil.mp rest

end Transaction

end Transactions

end Deployment
