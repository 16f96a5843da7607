import CrossChainVault.Leg.Changes

set_option autoImplicit false

/- Custody always holds what the buckets explain: a message never creates principal, and neither
does an arrival. -/

namespace Leg

open Result Protocol

/-- Principal on this chain, wherever it sits. -/
def RemotePosition.held (p : RemotePosition) : Nat :=
  p.attributedPrincipal.raw + p.deployedPrincipal.raw + p.recalledCustody.raw

/-- Instructions that turn waiting custody into principal. -/
def Instruction.attributes : Instruction → Bool
  | .attributeAllocation _ => true
  | .processSettlement _ => true
  | _ => false

/-- Whether an instruction reconciles custody. A close does so for a pending allocation only. -/
def Book.reconciles (b : Book) : Instruction → Bool
  | .attributeAllocation _ => true
  | .deployToStrategy .. => true
  | .withdrawForRecall .. => true
  | .sendRecallAssets .. => true
  | .reconcileCustody => true
  | .publishRemoteReport .. => true
  | .processSettlement message =>
      match message.body with
      | .resolve body =>
          match body.action with
          | .recover => true
          | .close => (b.records body.transferId).any (·.status = .pending)
          | .admitTransfer => false
      | _ => false
  | _ => false

/-- The buckets never explain more than custody holds. -/
def Book.Covered (b : Book) : Prop := b.position.accounted ≤ b.custody.raw

theorem Book.Fresh.covered {b : Book} (fresh : b.Fresh) : b.Covered := by
  unfold Book.Covered
  rw [fresh.position]
  exact Nat.zero_le _

theorem Book.Covered.reconcile {b : Book} (covered : b.Covered) :
    ∃ p, reconcile b.position b.custody = .ok p ∧
      b.position.attributedPrincipal.raw + b.position.recalledCustody.raw +
        p.unattributedCustody.raw = b.custody.raw := by
  unfold Book.Covered RemotePosition.accounted at covered
  have bound := b.custody.bound
  let unattributed : U64 := ⟨b.custody.raw - (b.position.attributedPrincipal.raw +
    b.position.recalledCustody.raw), by omega⟩
  have whole : b.position.attributedPrincipal.raw + b.position.recalledCustody.raw +
      unattributed.raw = b.custody.raw := by
    show _ + (b.custody.raw - _) = _
    omega
  exact ⟨_, reconcile_ok.mpr ⟨unattributed, covered, whole, rfl⟩, whole⟩

theorem Book.reconciles_of_upkeep {b : Book} {instruction : Instruction}
    (upkeep : instruction.isUpkeep = true) : b.reconciles instruction = false := by
  cases instruction <;> first | rfl | cases upkeep

theorem Instruction.reported_of_upkeep {instruction : Instruction}
    (upkeep : instruction.isUpkeep = true) : instruction.reported = none := by
  cases instruction <;> first | rfl | cases upkeep

theorem Instruction.reported_of_reading {instruction : Instruction}
    (reading : instruction.isReading = true) : instruction.reported = none := by
  cases instruction <;> first | rfl | cases reading

namespace Change

variable {guardian : Bool} {b b' : Book} {instruction : Instruction}

/-- Reconciling instructions explain custody to the last token. -/
theorem identity (change : Change guardian b instruction b')
    (reconciles : b.reconciles instruction = true) : b'.custody.raw = b'.position.accounted := by
  cases change with
  | quiet instruction upkeep =>
      rw [Book.reconciles_of_upkeep upkeep] at reconciles
      cases reconciles
  | updated => cases reconciles
  | froze => cases reconciles
  | received => cases reconciles
  | reconciled instruction reading unattributed identity => exact identity.symm
  | tookAllocation => cases reconciles
  | heldRecall => cases reconciles
  | startedRecall => cases reconciles
  | admittedAllocation => cases reconciles
  | admittedRecall => cases reconciles
  | attributed transferId record unattributed principal total consented opens attributes short =>
      exact attributes.identity.symm
  | completed transferId record unattributed principal clock consented opens attributes =>
      exact attributes.identity.symm
  | deployed approved amount call unattributed attributed deployed custody running hAttributed
      hDeployed reported identity => exact identity.symm
  | progressed transferId instruction record record' position custody opens unwinds short =>
      cases unwinds with
      | withdrew => exact Eq.symm (by assumption)
      | sent => exact Eq.symm (by assumption)
  | settled transferId instruction record record' position custody clock opens unwinds whole =>
      cases unwinds with
      | withdrew => exact Eq.symm (by assumption)
      | sent => exact Eq.symm (by assumption)
  | closedPending message body record unattributed principal total clock ledger hBody action
      consented opens attributes => exact attributes.identity.symm
  | closedHeld message body record clock ledger hBody action consented opens =>
      simp [Book.reconciles, hBody, action, opens.stored, opens.hStatus] at reconciles
  | closedComplete message body record ledger hBody action consented stored kind complete =>
      simp [Book.reconciles, hBody, action, stored, complete] at reconciles
  | recovered message body sequence credited unattributed principal clock ledger hBody action
      consented idle unused fits moved identity => exact identity.symm

/-- Custody covers the buckets after every change, as it did before. -/
theorem covered (change : Change guardian b instruction b') (before : b.Covered) : b'.Covered := by
  cases change with
  | quiet => exact before
  | updated => exact before
  | froze => exact before
  | received amount custody arrived => exact Nat.le_trans before arrived
  | reconciled instruction reading unattributed identity => exact Nat.le_of_eq identity
  | tookAllocation => exact before
  | heldRecall => exact before
  | startedRecall message transferId sequence requested least clock reserved attributed recalled
      consented idle unused nonzero reserves =>
      unfold Book.Covered RemotePosition.accounted at before ⊢
      have hAttributed := reserves.hAttributed
      have hRecalled := reserves.hRecalled
      show attributed.raw + recalled.raw + b.position.unattributedCustody.raw ≤ b.custody.raw
      omega
  | admittedAllocation => exact before
  | admittedRecall message transferId record reserved attributed recalled consented opens reserves =>
      unfold Book.Covered RemotePosition.accounted at before ⊢
      have hAttributed := reserves.hAttributed
      have hRecalled := reserves.hRecalled
      show attributed.raw + recalled.raw + b.position.unattributedCustody.raw ≤ b.custody.raw
      omega
  | attributed transferId record unattributed principal total consented opens attributes =>
      exact Nat.le_of_eq attributes.identity
  | completed transferId record unattributed principal clock consented opens attributes =>
      exact Nat.le_of_eq attributes.identity
  | deployed approved amount call unattributed attributed deployed custody running hAttributed
      hDeployed reported identity => exact Nat.le_of_eq identity
  | progressed transferId instruction record record' position custody opens unwinds =>
      cases unwinds with
      | withdrew => exact Nat.le_of_eq (by assumption)
      | sent => exact Nat.le_of_eq (by assumption)
  | settled transferId instruction record record' position custody clock opens unwinds =>
      cases unwinds with
      | withdrew => exact Nat.le_of_eq (by assumption)
      | sent => exact Nat.le_of_eq (by assumption)
  | closedPending message body record unattributed principal total clock ledger hBody action
      consented opens attributes => exact Nat.le_of_eq attributes.identity
  | closedHeld => exact before
  | closedComplete => exact before
  | recovered message body sequence credited unattributed principal clock ledger hBody action
      consented idle unused fits moved identity => exact Nat.le_of_eq identity

/-- Principal only grows out of custody that waited unattributed. -/
theorem held (change : Change guardian b instruction b')
    (grows : b.position.held < b'.position.held) : instruction.attributes = true ∧
      b'.position.held + b'.position.unattributedCustody.raw +
          (b.position.attributedPrincipal.raw + b.position.recalledCustody.raw) =
        b.position.held + b.custody.raw := by
  unfold RemotePosition.held at grows ⊢
  cases change with
  | quiet => exact absurd grows (Nat.lt_irrefl _)
  | updated => exact absurd grows (Nat.lt_irrefl _)
  | froze => exact absurd grows (Nat.lt_irrefl _)
  | received => exact absurd grows (Nat.lt_irrefl _)
  | reconciled => exact absurd grows (Nat.lt_irrefl _)
  | tookAllocation => exact absurd grows (Nat.lt_irrefl _)
  | heldRecall => exact absurd grows (Nat.lt_irrefl _)
  | startedRecall message transferId sequence requested least clock reserved attributed recalled
      consented idle unused nonzero reserves =>
      change _ < attributed.raw + b.position.deployedPrincipal.raw + recalled.raw at grows
      have hAttributed := reserves.hAttributed
      have hRecalled := reserves.hRecalled
      omega
  | admittedAllocation => exact absurd grows (Nat.lt_irrefl _)
  | admittedRecall message transferId record reserved attributed recalled consented opens reserves =>
      change _ < attributed.raw + b.position.deployedPrincipal.raw + recalled.raw at grows
      have hAttributed := reserves.hAttributed
      have hRecalled := reserves.hRecalled
      omega
  | attributed transferId record unattributed principal total consented opens attributes =>
      have identity := attributes.identity
      refine ⟨rfl, ?_⟩
      dsimp only
      omega
  | completed transferId record unattributed principal clock consented opens attributes =>
      have identity := attributes.identity
      refine ⟨rfl, ?_⟩
      dsimp only [RemotePosition.completeTransfer, RemotePosition.closeTransfer]
      omega
  | deployed approved amount call unattributed attributed deployed custody running hAttributed
      hDeployed reported identity =>
      dsimp only at grows
      omega
  | progressed transferId instruction record record' position custody opens unwinds =>
      cases unwinds with
      | withdrew maximum call unattributed deployed recalled loss resolved withdrawn recordLoss
          custody reported arrived hDeployed hRecalled hLoss returned lost split within identity =>
          dsimp only at grows
          omega
      | sent maximum unattributed recalled sent custody hRecalled more left identity =>
          dsimp only at grows
          omega
  | settled transferId instruction record record' position custody clock opens unwinds =>
      cases unwinds with
      | withdrew maximum call unattributed deployed recalled loss resolved withdrawn recordLoss
          custody reported arrived hDeployed hRecalled hLoss returned lost split within identity =>
          dsimp only [RemotePosition.completeTransfer, RemotePosition.closeTransfer] at grows
          omega
      | sent maximum unattributed recalled sent custody hRecalled more left identity =>
          dsimp only [RemotePosition.completeTransfer, RemotePosition.closeTransfer] at grows
          omega
  | closedPending message body record unattributed principal total clock ledger hBody action
      consented opens attributes =>
      have identity := attributes.identity
      refine ⟨rfl, ?_⟩
      dsimp only [RemotePosition.closeTransfer]
      omega
  | closedHeld => exact absurd grows (Nat.lt_irrefl _)
  | closedComplete => exact absurd grows (Nat.lt_irrefl _)
  | recovered message body sequence credited unattributed principal clock ledger hBody action
      consented idle unused fits moved identity =>
      refine ⟨rfl, ?_⟩
      dsimp only
      omega

/-- The leg believes what the adapter showed last. -/
theorem deployed_eq (change : Change guardian b instruction b') :
    b'.position.deployedPrincipal = instruction.reported.getD b.position.deployedPrincipal := by
  cases change with
  | quiet instruction upkeep => rw [Instruction.reported_of_upkeep upkeep]; rfl
  | reconciled instruction reading => rw [Instruction.reported_of_reading reading]; rfl
  | deployed approved amount call unattributed attributed deployed custody running hAttributed
      hDeployed reported identity => exact reported
  | progressed transferId instruction record record' position custody opens unwinds =>
      cases unwinds with
      | withdrew => assumption
      | sent => rfl
  | settled transferId instruction record record' position custody clock opens unwinds =>
      cases unwinds with
      | withdrew => assumption
      | sent => rfl
  | _ => rfl

end Change

/-- What the adapter's account showed after the last deployment or withdrawal. -/
def lastReported (inputs : List (Context × Instruction)) : U64 :=
  inputs.foldl (fun last input => input.2.reported.getD last) .zero

theorem Reached.deployed {digests : Digests} {inputs : List (Context × Instruction)} {a : Accounts}
    (reached : Reached digests inputs a) :
    a.position.deployedPrincipal = lastReported inputs := by
  obtain ⟨setup, start, created, finished⟩ := reached
  have follows : ∀ start, Run.run (Accounts.accept digests) start inputs = .ok a →
      a.position.deployedPrincipal = inputs.foldl (fun last input => input.2.reported.getD last)
        start.position.deployedPrincipal := by
    clear created finished
    induction inputs with
    | nil =>
        intro start finished
        rw [← Run.run_nil.mp finished]
        rfl
    | cons input inputs ih =>
        intro start finished
        obtain ⟨middle, first, rest⟩ := Run.run_cons.mp finished
        have shown := (Accounts.step_changes first).deployed_eq
        rw [ih middle rest, List.foldl_cons]
        exact congrArg (fun last => inputs.foldl _ last) shown
  have empty : start.position = .empty := (Setup.create_fresh created).position
  rw [follows start finished, empty]
  rfl

theorem Reached.covered {digests : Digests} {inputs : List (Context × Instruction)} {a : Accounts}
    (reached : Reached digests inputs a) : a.book.Covered :=
  reached.invariant Book.Covered (fun _ fresh => fresh.covered)
    (fun _ _ _ _ change before => change.covered before)

/-- Custody identity: custody covers the buckets in every reachable state, exactly so after every
instruction that reconciles; principal grows only in an attribution, a close or a recovery, by what
the reconciled unattributed bucket loses; and the deployed principal is the adapter's last word. -/
theorem custody_identity {digests : Digests} {inputs : List (Context × Instruction)} {a : Accounts}
    (reached : Reached digests inputs a) :
    a.position.accounted ≤ a.custody.raw ∧
      (∃ reconciled, reconcile a.position a.custody = .ok reconciled) ∧
      a.position.deployedPrincipal = lastReported inputs ∧
      ∀ ctx instruction a', a.step digests ctx instruction = .ok a' →
        a'.position.accounted ≤ a'.custody.raw ∧
        (a.book.reconciles instruction = true → a'.custody.raw = a'.position.accounted) ∧
        (a.position.held < a'.position.held → instruction.attributes = true ∧
          ∃ reconciled, reconcile a.position a.custody = .ok reconciled ∧
            a'.position.held + a'.position.unattributedCustody.raw =
              a.position.held + reconciled.unattributedCustody.raw) := by
  obtain ⟨reconciled, success, whole⟩ := reached.covered.reconcile
  refine ⟨reached.covered, ⟨reconciled, success⟩, reached.deployed, ?_⟩
  intro ctx instruction a' accepted
  have change := Accounts.step_changes accepted
  refine ⟨change.covered reached.covered, change.identity, ?_⟩
  intro grows
  obtain ⟨attributes, moved⟩ := change.held grows
  refine ⟨attributes, reconciled, success, ?_⟩
  change a'.position.held + a'.position.unattributedCustody.raw + (a.position.attributedPrincipal.raw
    + a.position.recalledCustody.raw) = a.position.held + a.custody.raw at moved
  change a.position.attributedPrincipal.raw + a.position.recalledCustody.raw +
    reconciled.unattributedCustody.raw = a.custody.raw at whole
  omega

/-- Six hundred tokens were allocated and arrived with fifty more, and half is deployed. -/
def sampleInvested : List (Context × Instruction) :=
  [sampleAllocate 1 600, sampleArrival 650, sampleAttribution 1, sampleDeploy 300 300 350]

theorem custody_identity_invested : ∃ a, Reached sampleDigests sampleInvested a ∧
    a.position.accounted = 350 ∧ a.position.deployedPrincipal = lastReported sampleInvested := by
  have passes : (sampleLeg sampleInvested).toOption.any
      (fun a => a.position.accounted = 350) = true := by
    decide +kernel
  obtain ⟨a, finished, holds⟩ := ok_of_any passes
  have reached := sampleLeg_reached finished
  exact ⟨a, reached, by simpa using holds, (custody_identity reached).2.2.1⟩

end Leg
