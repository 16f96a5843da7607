import CrossChainVault.Bridge.System

set_option autoImplicit false

/- Between cycles the two chains agree on principal, impairment and loss. -/

namespace Bridge

open Result Protocol Lane

/-- What the two sides agree on while the coordinator has no cycle open. Without a ledger nothing
was ever impaired. -/
structure Agreed (s : System) : Prop where
  closed : s.leg.position.hasActiveTransfer = false
  recalled : s.leg.position.recalledCustody.raw = 0
  principal : s.evm.vault.remotePrincipalCap.raw =
    s.leg.position.attributedPrincipal.raw + s.leg.position.deployedPrincipal.raw
  impaired : s.evm.vault.impairedTransport.raw =
    s.leg.ledger.elim 0 fun ledger => ledger.impairedOutstanding.raw
  lastImpaired : s.evm.coordinator.lastImpairedSequence.raw =
    s.leg.ledger.elim 0 fun ledger => ledger.lastImpairedSequence.raw
  loss : s.evm.vault.recognizedLoss.raw = s.leg.position.cumulativeRealizedLoss.raw

/-- However the two sides and their lanes interleave, they agree whenever no cycle is open. -/
theorem principal_agreed {digests : Leg.Digests} {plan : Plan} {s : System}
    (reachable : Reachable digests plan s)
    (idle : s.evm.coordinator.activeCycleKind = .none) : Agreed s := by
  have settled : Settled s.terms s.leg.side := by
    cases reachable.linked.stage with
    | idle _ stage => exact stage.settled
    | allocating active => cases active.symm.trans idle
    | recalling active => cases active.symm.trans idle
    | recovering active => cases active.symm.trans idle
  have impaired : s.evm.vault.impairedTransport.raw = s.leg.openLedger.impairedOutstanding.raw :=
    settled.impaired
  have lastImpaired : s.evm.coordinator.lastImpairedSequence.raw =
      s.leg.openLedger.lastImpairedSequence.raw := settled.lastImpaired
  have closed := Leg.RemotePosition.opened_eq_none.mp settled.closed
  refine ⟨?_, settled.recalled, settled.principal, ?_, ?_, settled.recognized⟩
  · simp [Leg.RemotePosition.hasActiveTransfer, closed]
  · rw [impaired, Leg.Accounts.openLedger]
    cases s.leg.ledger <;> rfl
  · rw [lastImpaired, Leg.Accounts.openLedger]
    cases s.leg.ledger <;> rfl

section Sample

def samplePlan : Plan where
  vault := Evm.samplePlan
  leg := { Leg.sampleSetup with
    outboundEscrow := Evm.samplePlan.identities.expectedDestinationReference
    sourceChainId := Evm.samplePlan.identities.evmChainId
    destinationChainId := Evm.samplePlan.identities.solanaChainId
    sourceApplicationId := Evm.samplePlan.identities.evmApplication
    localApplicationId := Evm.samplePlan.identities.solanaApplication
    deploymentId := Evm.samplePlan.identities.deploymentId
    vaultId := Evm.samplePlan.identities.vaultId
    controlLaneId := Evm.samplePlan.identities.outboundLaneId
    reportLaneId := Evm.samplePlan.identities.inboundLaneId }

def sampleDigests : Leg.Digests where
  toHashing := Evm.sampleHash
  remoteState := fun _ => 51

def sampleMsg : Evm.Msg := ⟨Evm.sampleAdmin, 950⟩

/-- Before and after the deadline of the allocation. -/
def sampleEarly : Leg.Context := ⟨⟨230, by decide, by decide⟩, true, true, true⟩

def sampleLate : Leg.Context := ⟨⟨950, by decide, by decide⟩, true, true, true⟩

/-- The leg takes everything on its way, and the coordinator does. -/
def System.obeys (s : System) (ctx : Leg.Context) : List Event :=
  s.control.filterMap fun m => (controlInstruction m).map (.leg ctx)

def System.hears (s : System) : List Event :=
  s.reports.filterMap fun m => (reportCall m).map (.evm sampleMsg)

/-- The contracts have sent an allocation of three hundred when the leg is initialized. -/
def sampleStart : Except Refusal System := do
  let w ← samplePlan.vault.deploy.mapError .reverted
  let evm ← (Run.run (fun w (tx : Evm.Msg × Evm.Call) => w.step Evm.sampleHash tx.1 tx.2) w
    Evm.sampleAllocating).mapError .reverted
  let leg ← samplePlan.leg.create.mapError .failed
  rejectIf (¬(evm.vault.remoteAccounting = evm.coordinator.self ∧ evm.coordinator.self.raw ≠ 0))
    .unpublished
  pure ⟨evm, leg⟩

/-- The leg takes it. -/
def sampleOpened : Except Refusal System := do
  let s ← sampleStart
  Run.run (System.step sampleDigests) s (s.obeys sampleEarly)

/-- Two hundred and ninety of it arrive, it is to be closed, and the leg settles it. -/
def sampleSettled : Except Refusal System := do
  let s ← sampleOpened
  let s ← Run.run (System.step sampleDigests) s
    [.leg sampleEarly (.receiveCustody 290),
      .evm sampleMsg (.close 61 ⟨940, 940, 2000⟩)]
  Run.run (System.step sampleDigests) s (s.obeys sampleLate)

/-- The coordinator hears of it. -/
def sampleClosed : Except Refusal System := do
  let s ← sampleSettled
  Run.run (System.step sampleDigests) s s.hears

theorem obeys_allowed {s : System} {ctx : Leg.Context} :
    ∀ event ∈ s.obeys ctx, samplePlan.Allows event := by
  intro event member
  obtain ⟨m, -, taken⟩ := List.mem_filterMap.mp member
  obtain ⟨instruction, found, rfl⟩ := Option.map_eq_some_iff.mp taken
  intro update same
  subst same
  unfold controlInstruction at found
  split at found
  · cases found
  · cases found
  · split at found
    · cases found
    · cases found
  · cases found

theorem hears_allowed {s : System} : ∀ event ∈ s.hears, samplePlan.Allows event := by
  intro event member
  obtain ⟨m, -, taken⟩ := List.mem_filterMap.mp member
  obtain ⟨call, found, rfl⟩ := Option.map_eq_some_iff.mp taken
  have stranger : Evm.sampleAdmin ≠ Evm.samplePlan.coordinatorAddress ∧
      Evm.sampleAdmin ≠ Evm.samplePlan.vaultAddress := by decide
  refine ⟨⟨stranger.1, ?_⟩, stranger.2⟩
  intro coordinator same
  cases same
  unfold reportCall at found
  split at found
  · cases found
  · cases found
  · cases found
  · cases found

theorem sampleStart_starts {s : System} (started : sampleStart = .ok s) :
    samplePlan.Starts sampleDigests s := by
  simp only [sampleStart, bind_eq_ok, mapError_eq_ok, rejectIf_eq_ok, not_not, exists_const,
    pure_eq_ok] at started
  obtain ⟨w, deployed, evm, launched, leg, created, ⟨bound, named⟩, rfl⟩ := started
  refine ⟨⟨rfl, rfl, rfl, rfl, rfl, rfl, rfl, rfl, rfl, rfl⟩, ⟨w, _, deployed, ?_, launched⟩,
    ⟨bound, named⟩, created⟩
  have senders : ∀ tx ∈ Evm.sampleAllocating,
      tx.1.sender ≠ Evm.samplePlan.vaultAddress ∧ tx.2.delivered = none := by decide
  intro tx member
  obtain ⟨stranger, nothing⟩ := senders tx member
  exact ⟨⟨Evm.sampleAllocating_outside tx member, stranger⟩, nothing⟩

theorem sampleOpened_reachable {s : System} (opened : sampleOpened = .ok s) :
    Reachable sampleDigests samplePlan s := by
  simp only [sampleOpened, bind_eq_ok] at opened
  obtain ⟨start, started, finished⟩ := opened
  exact ⟨start, _, sampleStart_starts started, obeys_allowed, finished⟩

theorem sampleSettled_reachable {s : System} (settled : sampleSettled = .ok s) :
    Reachable sampleDigests samplePlan s := by
  simp only [sampleSettled, bind_eq_ok] at settled
  obtain ⟨start, opened, asked, first, rest⟩ := settled
  refine ((sampleOpened_reachable opened).run ?_ first).run obeys_allowed rest
  intro event member
  simp only [List.mem_cons, List.not_mem_nil, or_false] at member
  rcases member with rfl | rfl
  · intro _ taken
    cases taken
  · refine ⟨⟨by decide, ?_⟩, by decide⟩
    intro _ taken
    cases taken

theorem sampleClosed_reachable {s : System} (closed : sampleClosed = .ok s) :
    Reachable sampleDigests samplePlan s := by
  simp only [sampleClosed, bind_eq_ok] at closed
  obtain ⟨start, settled, rest⟩ := closed
  exact (sampleSettled_reachable settled).run hears_allowed rest

end Sample

/-- After a close that came up short both chains show what arrived and what did not. -/
theorem principal_agreed_impaired : ∃ s, Agreed s ∧ s.evm.vault.remotePrincipalCap.raw = 290 ∧
    s.evm.vault.impairedTransport.raw = 10 := by
  have passes : sampleClosed.toOption.any (fun s =>
      decide (s.evm.coordinator.activeCycleKind = .none) &&
      decide (s.evm.vault.remotePrincipalCap.raw = 290) &&
      decide (s.evm.vault.impairedTransport.raw = 10)) = true := by decide +kernel
  obtain ⟨s, closed, checks⟩ := ok_of_any passes
  simp only [Bool.and_eq_true, decide_eq_true_eq] at checks
  obtain ⟨⟨idle, principal⟩, impaired⟩ := checks
  exact ⟨s, principal_agreed (sampleClosed_reachable closed) idle, principal, impaired⟩

end Bridge
