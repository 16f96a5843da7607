import CrossChainVault.Model.State

set_option autoImplicit false

namespace AccountingModel

open Result

/-- Every state change the model accepts. -/
inductive Operation
  | requestDeposit (account : AccountId) (assets : AssetAmount)
  | cancelDeposit (account : AccountId)
  | requestRedeem (account : AccountId) (shares : ShareAmount)
  | cancelRedeem (account : AccountId)
  | cutoffEpoch (now : Timestamp)
  | finalizeEpoch
  | abortEpoch (actor : AccountId)
  | claimDeposit (account : AccountId) (epoch : EpochId)
  | claimRedeem (account : AccountId) (epoch : EpochId)
  | claimAbortedDeposit (account : AccountId) (epoch : EpochId)
  | claimAbortedRedeem (account : AccountId) (epoch : EpochId)
  | openNextEpoch (now : Timestamp)
  | pause (actor : AccountId)
  | unpause (actor : AccountId)
  | freeze (actor : AccountId)
  | beginAllocate (actor : AccountId) (transferId : TransferId) (amount : AssetAmount)
  | completeAllocation (transferId : TransferId) (reportedValue : AssetAmount)
  | beginRecall (actor : AccountId) (transferId : TransferId) (amount : AssetAmount)
  | acceptRecallSent (transferId : TransferId) (principal actual loss : AssetAmount)
  | observeInbound (amount : AssetAmount)
  | applyRemoteValuation (reportedValue newlyRealizedLoss : AssetAmount)
  | lockRemoteValuation
  | requestClose (actor : AccountId) (transferId : TransferId)
  | settleClose (transferId : TransferId) (credited : AssetAmount)
  | beginRecover (actor : AccountId) (transferId : TransferId)
  | settleRecover (transferId : TransferId) (credited : AssetAmount)
deriving DecidableEq

/- Guards. -/

def requireActive (state : State) : Except Rejection Unit :=
  rejectIf (state.vaultState ≠ .active) .invalidVaultState

def requireOpenEpoch (state : State) : Except Rejection Epoch := do
  let epoch ← okOr state.epoch .epochNotOpen
  rejectIf (epoch.phase ≠ .opened) .epochAlreadyCutOff
  pure epoch

/-- Cancellation stays available while paused so users are never trapped. -/
def requireCancellationAllowed (state : State) : Except Rejection Unit :=
  rejectIf (state.vaultState = .frozen) .invalidVaultState

def requireGuardianOrAdmin (state : State) (actor : AccountId) : Except Rejection Unit :=
  rejectIf (¬(actor = state.authority.admin ∨ actor = state.authority.guardian)) .unauthorizedActor

def requireAdmin (state : State) (actor : AccountId) : Except Rejection Unit :=
  rejectIf (actor ≠ state.authority.admin) .unauthorizedActor

def requireFreshTransfer (state : State) (transferId : TransferId) : Except Rejection Unit := do
  rejectIf transferId.isZero .zeroAmount
  rejectIf (state.usedTransferIds.contains transferId) .transferIdReused

def requireNoCycle (state : State) : Except Rejection Unit :=
  rejectIf (state.activeCycle ≠ .none) .activeTransferExists

/- Requests of the open epoch. -/

def State.setAssets (state : State) (id : AccountId) (assets : AssetAmount) :
    OrderedMap AccountId Account :=
  state.accounts.insert id { state.account id with assets := assets }

def State.setShares (state : State) (id : AccountId) (shares : ShareAmount) :
    OrderedMap AccountId Account :=
  state.accounts.insert id { state.account id with shares := shares }

def requestDeposit (state : State) (account : AccountId) (assets : AssetAmount) :
    Except Rejection State := do
  requireActive state
  let epoch ← requireOpenEpoch state
  rejectIf assets.isZero .zeroAmount
  rejectIf (assets < state.config.minDepositAssets) .amountBelowMinimum
  let key : RequestKey := ⟨epoch.id, account⟩
  let existing := state.depositRequests[key]?.getD .empty
  rejectIf existing.claimed .requestAlreadySettled
  let remaining ← (state.account account).assets.checkedSub assets .insufficientAssetBalance
  let escrow ← checkedAdd state.buckets.pendingDepositEscrow assets
  let epochTotal ← checkedAdd epoch.pendingDepositAssets assets
  let requested ← checkedAdd existing.amount assets
  pure { state with
    accounts := state.setAssets account remaining
    buckets := { state.buckets with pendingDepositEscrow := escrow }
    epoch := some { epoch with pendingDepositAssets := epochTotal }
    depositRequests := state.depositRequests.insert key
      { existing with amount := requested, cancelled := false } }

def cancelDeposit (state : State) (account : AccountId) : Except Rejection State := do
  requireCancellationAllowed state
  let epoch ← okOr state.epoch .epochNotOpen
  rejectIf (epoch.phase = .cutOff) .cancellationAfterCutoff
  let key : RequestKey := ⟨epoch.id, account⟩
  let request ← okOr state.depositRequests[key]? .requestNotFound
  rejectIf request.claimed .requestAlreadySettled
  rejectIf (request.cancelled ∨ request.amount.isZero) .requestAlreadyCancelled
  let escrow ← checkedSub state.buckets.pendingDepositEscrow request.amount
  let epochTotal ← checkedSub epoch.pendingDepositAssets request.amount
  let returned ← checkedAdd (state.account account).assets request.amount
  let cancelledTotal ← checkedAdd request.cancelledAmount request.amount
  pure { state with
    buckets := { state.buckets with pendingDepositEscrow := escrow }
    epoch := some { epoch with pendingDepositAssets := epochTotal }
    accounts := state.setAssets account returned
    depositRequests := state.depositRequests.insert key
      { request with amount := .zero, cancelledAmount := cancelledTotal, cancelled := true } }

def requestRedeem (state : State) (account : AccountId) (shares : ShareAmount) :
    Except Rejection State := do
  requireActive state
  let epoch ← requireOpenEpoch state
  rejectIf shares.isZero .zeroAmount
  rejectIf (shares < state.config.minRedeemShares) .amountBelowMinimum
  let key : RequestKey := ⟨epoch.id, account⟩
  let existing := state.redeemRequests[key]?.getD .empty
  rejectIf existing.claimed .requestAlreadySettled
  let remaining ← (state.account account).shares.checkedSub shares .insufficientShareBalance
  let escrowed ← checkedAdd state.escrowedRedeemShares shares
  let epochTotal ← checkedAdd epoch.pendingRedeemShares shares
  let requested ← checkedAdd existing.amount shares
  pure { state with
    accounts := state.setShares account remaining
    escrowedRedeemShares := escrowed
    epoch := some { epoch with pendingRedeemShares := epochTotal }
    redeemRequests := state.redeemRequests.insert key
      { existing with amount := requested, cancelled := false } }

def cancelRedeem (state : State) (account : AccountId) : Except Rejection State := do
  requireCancellationAllowed state
  let epoch ← okOr state.epoch .epochNotOpen
  rejectIf (epoch.phase = .cutOff) .cancellationAfterCutoff
  let key : RequestKey := ⟨epoch.id, account⟩
  let request ← okOr state.redeemRequests[key]? .requestNotFound
  rejectIf request.claimed .requestAlreadySettled
  rejectIf (request.cancelled ∨ request.amount.isZero) .requestAlreadyCancelled
  let escrowed ← checkedSub state.escrowedRedeemShares request.amount
  let epochTotal ← checkedSub epoch.pendingRedeemShares request.amount
  let returned ← checkedAdd (state.account account).shares request.amount
  let cancelledTotal ← checkedAdd request.cancelledAmount request.amount
  pure { state with
    escrowedRedeemShares := escrowed
    epoch := some { epoch with pendingRedeemShares := epochTotal }
    accounts := state.setShares account returned
    redeemRequests := state.redeemRequests.insert key
      { request with amount := .zero, cancelledAmount := cancelledTotal, cancelled := true } }

/- The epoch's own life cycle. -/

def cutoffEpoch (state : State) (now : Timestamp) : Except Rejection State := do
  requireActive state
  let epoch ← requireOpenEpoch state
  rejectIf (now < epoch.cutoffAt) .cutoffNotReached
  pure { state with epoch := some { epoch with phase := .cutOff } }

/-- The basis an epoch settles at: the locked value while anything is remote, else live NAV. -/
def settlementBasis (state : State) (epoch : Epoch) : Except Rejection PricingBasis :=
  if state.hasRemoteExposure then do
    let locked ← okOr state.epochValuationLocked[epoch.id]? .remoteValuationRequired
    pure { state.preSettlementBasis epoch with totalAssets := locked }
  else pure (state.preSettlementBasis epoch)

def finalizeEpoch (state : State) : Except Rejection State := do
  requireActive state
  let epoch ← okOr state.epoch .epochNotOpen
  rejectIf (epoch.phase ≠ .cutOff) .epochNotCutOff
  rejectIf (state.epochs[epoch.id]?.isSome) .epochAlreadyFinalized
  let basis ← settlementBasis state epoch
  let depositAssets := epoch.pendingDepositAssets
  let redeemShares := epoch.pendingRedeemShares
  let redeemAssets ← sharesToAssets redeemShares basis
  let mintedShares ← assetsToShares depositAssets basis
  -- Redemptions draw only on liquidity that existed before this epoch settles.
  let idleAfterRedemptions ←
    state.buckets.idleBacking.checkedSub redeemAssets .insufficientRedemptionLiquidity
  let idleBacking ← checkedAdd idleAfterRedemptions depositAssets
  let pendingDepositEscrow ← checkedSub state.buckets.pendingDepositEscrow depositAssets
  let claimReserve ← checkedAdd state.buckets.claimReserve redeemAssets
  let supplyWithMint ← checkedAdd state.totalShareSupply mintedShares
  let totalShareSupply ← checkedSub supplyWithMint redeemShares
  let claimableDepositShares ← checkedAdd state.claimableDepositShares mintedShares
  let escrowedRedeemShares ← checkedSub state.escrowedRedeemShares redeemShares
  let burnedRedemptionShares ← checkedAdd state.burnedRedemptionShares redeemShares
  let nextEpochId ← epoch.id.next
  let terms : EpochTerms := {
    id := epoch.id
    configVersion := epoch.configVersion
    cutoffAt := epoch.cutoffAt
    totalAssets := basis.totalAssets
    totalSupply := basis.totalSupply
    virtualAssets := basis.virtualAssets
    virtualShares := basis.virtualShares
    depositAssets := depositAssets
    mintedShares := mintedShares
    redeemShares := redeemShares
    redeemAssets := redeemAssets
    depositDust := .zero
    redeemDust := .zero }
  -- Each claim rounds down, so the aggregate keeps a small remainder.
  let owed ← state.entitlements epoch.id terms
  let depositDust ← checkedSub mintedShares owed.depositShares
  let redeemDust ← checkedSub redeemAssets owed.redeemAssets
  pure { state with
    buckets := { state.buckets with
      idleBacking := idleBacking
      pendingDepositEscrow := pendingDepositEscrow
      claimReserve := claimReserve }
    totalShareSupply := totalShareSupply
    claimableDepositShares := claimableDepositShares
    escrowedRedeemShares := escrowedRedeemShares
    burnedRedemptionShares := burnedRedemptionShares
    epochs := state.epochs.insert epoch.id
      (.finalized { terms with depositDust := depositDust, redeemDust := redeemDust })
    lastCutoffAt := epoch.cutoffAt
    nextEpochId := nextEpochId
    epoch := none }

/-- Abandons the current epoch so frozen funds keep a way out. -/
def abortEpoch (state : State) (actor : AccountId) : Except Rejection State := do
  requireGuardianOrAdmin state actor
  rejectIf (state.vaultState ≠ .frozen) .invalidVaultState
  let epoch ← okOr state.epoch .epochNotOpen
  rejectIf (state.epochs[epoch.id]?.isSome) .epochAlreadyFinalized
  let nextEpochId ← epoch.id.next
  pure { state with
    epochs := state.epochs.insert epoch.id (.aborted {
      id := epoch.id
      configVersion := epoch.configVersion
      cutoffAt := epoch.cutoffAt
      refundAssets := epoch.pendingDepositAssets
      refundShares := epoch.pendingRedeemShares })
    lastCutoffAt := epoch.cutoffAt
    nextEpochId := nextEpochId
    epoch := none }

def openNextEpoch (state : State) (now : Timestamp) : Except Rejection State := do
  requireActive state
  rejectIf state.epoch.isSome .epochAlreadyOpen
  rejectIf (now < state.lastCutoffAt) .timestampNotMonotonic
  let virtualShares ← virtualSharesFor state.config.assetDecimals state.config.shareDecimals
  let cutoffAt ← checkedAdd now state.config.epochDuration
  pure { state with epoch := some {
    id := state.nextEpochId
    openedAt := now
    cutoffAt := cutoffAt
    configVersion := state.config.version
    assetDecimals := state.config.assetDecimals
    shareDecimals := state.config.shareDecimals
    virtualAssets := oneAsset
    virtualShares := virtualShares
    phase := .opened
    pendingDepositAssets := .zero
    pendingRedeemShares := .zero } }

/- Claims and refunds of settled epochs. -/

/-- The record a claim pays: present, not cancelled, not claimed and not empty. -/
def claimableRequest (requests : RequestMap) (key : RequestKey) : Except Rejection Request := do
  let request ← okOr requests[key]? .requestNotFound
  rejectIf request.cancelled .requestAlreadyCancelled
  rejectIf request.claimed .claimAlreadyConsumed
  rejectIf request.amount.isZero .claimNotFound
  pure request

def claimDeposit (state : State) (account : AccountId) (epoch : EpochId) :
    Except Rejection State := do
  let terms ← okOr (state.finalizedTerms epoch) .epochNotFinalized
  let key : RequestKey := ⟨epoch, account⟩
  let request ← claimableRequest state.depositRequests key
  let shares ← terms.sharesFor request.amount
  let claimable ← checkedSub state.claimableDepositShares shares
  let credited ← checkedAdd (state.account account).shares shares
  pure { state with
    claimableDepositShares := claimable
    accounts := state.setShares account credited
    depositRequests := state.depositRequests.insert key { request with claimed := true } }

def claimRedeem (state : State) (account : AccountId) (epoch : EpochId) :
    Except Rejection State := do
  let terms ← okOr (state.finalizedTerms epoch) .epochNotFinalized
  let key : RequestKey := ⟨epoch, account⟩
  let request ← claimableRequest state.redeemRequests key
  let assets ← terms.assetsFor request.amount
  let reserve ← checkedSub state.buckets.claimReserve assets
  let credited ← checkedAdd (state.account account).assets assets
  pure { state with
    buckets := { state.buckets with claimReserve := reserve }
    accounts := state.setAssets account credited
    redeemRequests := state.redeemRequests.insert key { request with claimed := true } }

def claimAbortedDeposit (state : State) (account : AccountId) (epoch : EpochId) :
    Except Rejection State := do
  rejectIf (state.abortedTerms epoch).isNone .epochNotAborted
  let key : RequestKey := ⟨epoch, account⟩
  let request ← claimableRequest state.depositRequests key
  let escrow ← checkedSub state.buckets.pendingDepositEscrow request.amount
  let returned ← checkedAdd (state.account account).assets request.amount
  pure { state with
    buckets := { state.buckets with pendingDepositEscrow := escrow }
    accounts := state.setAssets account returned
    depositRequests := state.depositRequests.insert key { request with claimed := true } }

def claimAbortedRedeem (state : State) (account : AccountId) (epoch : EpochId) :
    Except Rejection State := do
  rejectIf (state.abortedTerms epoch).isNone .epochNotAborted
  let key : RequestKey := ⟨epoch, account⟩
  let request ← claimableRequest state.redeemRequests key
  let escrowed ← checkedSub state.escrowedRedeemShares request.amount
  let returned ← checkedAdd (state.account account).shares request.amount
  pure { state with
    escrowedRedeemShares := escrowed
    accounts := state.setShares account returned
    redeemRequests := state.redeemRequests.insert key { request with claimed := true } }

/- Vault status. -/

def pause (state : State) (actor : AccountId) : Except Rejection State := do
  requireGuardianOrAdmin state actor
  rejectIf (state.vaultState ≠ .active) .invalidVaultState
  pure { state with vaultState := .paused }

def unpause (state : State) (actor : AccountId) : Except Rejection State := do
  requireAdmin state actor
  rejectIf (state.vaultState ≠ .paused) .invalidVaultState
  pure { state with vaultState := .active }

def freeze (state : State) (actor : AccountId) : Except Rejection State := do
  requireGuardianOrAdmin state actor
  rejectIf (state.vaultState = .frozen) .invalidVaultState
  pure { state with vaultState := .frozen }

/- The remote cycle. -/

def clearCycle (state : State) : State :=
  { state with
    activeCycle := .none
    activeTransferId := .zero
    activeAmount := .zero
    closeRequested := false }

/-- The smaller of two amounts. -/
def lesser (a b : AssetAmount) : AssetAmount := if a < b then a else b

/-- The accepted value never exceeds the principal behind it. -/
def setAccepted (state : State) (reportedValue : AssetAmount) : State :=
  { state with buckets := { state.buckets with
      acceptedRemoteValue := lesser reportedValue state.remotePrincipalCap } }

def beginAllocate (state : State) (actor : AccountId) (transferId : TransferId)
    (amount : AssetAmount) : Except Rejection State := do
  requireAdmin state actor
  requireActive state
  let epoch ← requireOpenEpoch state
  rejectIf (epoch.phase ≠ .opened) .allocateNotAllowed
  requireNoCycle state
  requireFreshTransfer state transferId
  rejectIf amount.isZero .zeroAmount
  let idle ← state.buckets.idleBacking.checkedSub amount .insufficientRedemptionLiquidity
  let outbound ← checkedAdd state.buckets.outboundInTransit amount
  pure { state with
    buckets := { state.buckets with idleBacking := idle, outboundInTransit := outbound }
    usedTransferIds := state.usedTransferIds.insert transferId
    activeCycle := .allocate
    activeTransferId := transferId
    activeAmount := amount }

def completeAllocation (state : State) (transferId : TransferId) (reportedValue : AssetAmount) :
    Except Rejection State :=
  -- Only the settlement may end a closing allocation; the report is skipped.
  if state.closeRequested then pure state
  else do
    rejectIf (state.activeCycle ≠ .allocate) .noActiveTransfer
    rejectIf (state.activeTransferId ≠ transferId) .noActiveTransfer
    let outbound ← checkedSub state.buckets.outboundInTransit state.activeAmount
    let cap ← checkedAdd state.remotePrincipalCap state.activeAmount
    pure (clearCycle (setAccepted { state with
      buckets := { state.buckets with outboundInTransit := outbound }
      remotePrincipalCap := cap } reportedValue))

def beginRecall (state : State) (actor : AccountId) (transferId : TransferId)
    (amount : AssetAmount) : Except Rejection State := do
  requireAdmin state actor
  requireNoCycle state
  requireFreshTransfer state transferId
  rejectIf amount.isZero .zeroAmount
  rejectIf (state.remotePrincipalCap < amount) .insufficientRemotePrincipal
  pure { state with
    recallBaselineValue := state.buckets.acceptedRemoteValue
    recallBaselineLoss := state.inboundCumulativeLoss
    pendingRecallId := transferId
    pendingRecallPrincipal := amount
    usedTransferIds := state.usedTransferIds.insert transferId
    activeCycle := .recall
    activeTransferId := transferId
    activeAmount := amount }

def acceptRecallSent (state : State) (transferId : TransferId)
    (principal actual loss : AssetAmount) : Except Rejection State := do
  rejectIf (state.activeCycle ≠ .recall) .noActiveTransfer
  rejectIf (state.activeTransferId ≠ transferId) .noActiveTransfer
  rejectIf (state.activeAmount < principal) .invalidRecallSentAmounts
  let accounted ← checkedAdd actual loss
  rejectIf (accounted ≠ principal) .invalidRecallSentAmounts
  rejectIf (state.remotePrincipalCap < principal) .insufficientRemotePrincipal
  -- Reports during the recall deducted only its loss; settle from the pre-recall value so
  -- the loss is not deducted twice.
  let accepted := lesser state.recallBaselineValue state.remotePrincipalCap
  let settledLoss ← checkedAdd state.recallBaselineLoss loss
  let acceptedDecrease := lesser accepted principal
  let cap ← checkedSub state.remotePrincipalCap principal
  let acceptedLeft ← checkedSub accepted acceptedDecrease
  let recognizedLoss ← checkedAdd state.recognizedLoss loss
  let fromUnattributed := lesser actual state.buckets.unattributedInbound
  let unattributedInbound ← checkedSub state.buckets.unattributedInbound fromUnattributed
  let idleBacking ← checkedAdd state.buckets.idleBacking fromUnattributed
  let stillInTransit ← checkedSub actual fromUnattributed
  let inboundInTransit ← checkedAdd state.buckets.inboundInTransit stillInTransit
  pure (clearCycle { state with
    inboundCumulativeLoss :=
      if state.inboundCumulativeLoss < settledLoss then settledLoss
      else state.inboundCumulativeLoss
    recallBaselineValue := .zero
    recallBaselineLoss := .zero
    remotePrincipalCap := cap
    recognizedLoss := recognizedLoss
    buckets := { state.buckets with
      acceptedRemoteValue := acceptedLeft
      unattributedInbound := unattributedInbound
      idleBacking := idleBacking
      inboundInTransit := inboundInTransit }
    pendingRecallId := .zero
    pendingRecallPrincipal := .zero })

def observeInbound (state : State) (amount : AssetAmount) : Except Rejection State := do
  rejectIf amount.isZero .zeroAmount
  -- With nothing in transit this attributes zero and changes nothing.
  let attributed := lesser amount state.buckets.inboundInTransit
  let inboundInTransit ← checkedSub state.buckets.inboundInTransit attributed
  let idleBacking ← checkedAdd state.buckets.idleBacking attributed
  let remaining ← checkedSub amount attributed
  let buckets := { state.buckets with
    inboundInTransit := inboundInTransit
    idleBacking := idleBacking }
  if remaining.isZero then pure { state with buckets := buckets }
  else if !state.pendingRecallPrincipal.isZero then do
    let unattributedInbound ← checkedAdd state.buckets.unattributedInbound remaining
    pure { state with buckets := { buckets with unattributedInbound := unattributedInbound } }
  else do
    let externalInflow ← checkedAdd state.externalInflow remaining
    let unattributedBalance ← checkedAdd state.buckets.unattributedBalance remaining
    pure { state with
      externalInflow := externalInflow
      buckets := { buckets with unattributedBalance := unattributedBalance } }

/-- The leg's reported value already excludes recalled principal it has sent but the vault
has not settled, so during a recall only the loss realized since the recall began moves the
pre-recall value. -/
def valueDuringRecall (state : State) (cumulativeLoss : AssetAmount) : AssetAmount :=
  state.recallBaselineValue.saturatingSub (cumulativeLoss.saturatingSub state.recallBaselineLoss)

def applyRemoteValuation (state : State) (reportedValue newlyRealizedLoss : AssetAmount) :
    Except Rejection State := do
  let cumulativeLoss ← checkedAdd state.inboundCumulativeLoss newlyRealizedLoss
  -- A skipped report still moves the acknowledged loss, never the value.
  if state.closeRequested then pure { state with inboundCumulativeLoss := cumulativeLoss }
  else
    let value :=
      if state.activeCycle = .recall then valueDuringRecall state cumulativeLoss
      else reportedValue
    pure { setAccepted state value with inboundCumulativeLoss := cumulativeLoss }

def lockRemoteValuation (state : State) : Except Rejection State :=
  -- The report that would lock is skipped until the close settles.
  if state.closeRequested then pure state
  else do
    let epoch ← okOr state.epoch .epochNotOpen
    rejectIf (epoch.phase ≠ .cutOff) .epochNotCutOff
    rejectIf (state.epochValuationLocked[epoch.id]?.isSome) .valuationAlreadyFixed
    pure { state with
      epochValuationLocked := state.epochValuationLocked.insert epoch.id state.managedBacking }

/-- Moves nothing: a timeout alone proves no loss. -/
def requestClose (state : State) (actor : AccountId) (transferId : TransferId) :
    Except Rejection State := do
  requireAdmin state actor
  rejectIf (state.activeCycle ≠ .allocate ∨ state.activeTransferId ≠ transferId) .noActiveTransfer
  rejectIf state.closeRequested .closeAlreadyRequested
  pure { state with closeRequested := true }

/-- Credits principal at par. -/
def creditRemote (state : State) (credited : AssetAmount) : Except Rejection State := do
  let cap ← checkedAdd state.remotePrincipalCap credited
  let accepted ← checkedAdd state.buckets.acceptedRemoteValue credited
  pure { state with
    remotePrincipalCap := cap
    buckets := { state.buckets with acceptedRemoteValue := accepted } }

/-- Only what arrived becomes principal; the shortfall leaves NAV as impairment and is not
recognized loss. -/
def settleClose (state : State) (transferId : TransferId) (credited : AssetAmount) :
    Except Rejection State := do
  rejectIf (state.activeTransferId ≠ transferId) .noActiveTransfer
  rejectIf (state.activeCycle ≠ .allocate ∨ !state.closeRequested) .noPendingSettlement
  rejectIf (state.activeAmount < credited) .settlementMismatch
  let shortfall ← checkedSub state.activeAmount credited
  let outbound ← checkedSub state.buckets.outboundInTransit state.activeAmount
  let state ← creditRemote
    { state with buckets := { state.buckets with outboundInTransit := outbound } } credited
  let impaired ← checkedAdd state.impairedTransport shortfall
  let cumulative ← checkedAdd state.cumulativeImpairment shortfall
  pure (clearCycle { state with
    impairedTransport := impaired
    cumulativeImpairment := cumulative })

def beginRecover (state : State) (actor : AccountId) (transferId : TransferId) :
    Except Rejection State := do
  requireAdmin state actor
  requireNoCycle state
  requireFreshTransfer state transferId
  rejectIf state.impairedTransport.isZero .nothingToRecover
  pure { state with
    usedTransferIds := state.usedTransferIds.insert transferId
    activeCycle := .recover
    activeTransferId := transferId
    activeAmount := .zero }

/-- Recovered impairment returns to principal at par. -/
def settleRecover (state : State) (transferId : TransferId) (credited : AssetAmount) :
    Except Rejection State := do
  rejectIf (state.activeTransferId ≠ transferId) .noActiveTransfer
  rejectIf (state.activeCycle ≠ .recover) .noPendingSettlement
  rejectIf (state.impairedTransport < credited) .settlementMismatch
  let impaired ← checkedSub state.impairedTransport credited
  let state ← creditRemote { state with impairedTransport := impaired } credited
  pure (clearCycle state)

/-- Applies one operation and returns the next state. -/
def apply (state : State) : Operation → Except Rejection State
  | .requestDeposit account assets => requestDeposit state account assets
  | .cancelDeposit account => cancelDeposit state account
  | .requestRedeem account shares => requestRedeem state account shares
  | .cancelRedeem account => cancelRedeem state account
  | .cutoffEpoch now => cutoffEpoch state now
  | .finalizeEpoch => finalizeEpoch state
  | .abortEpoch actor => abortEpoch state actor
  | .claimDeposit account epoch => claimDeposit state account epoch
  | .claimRedeem account epoch => claimRedeem state account epoch
  | .claimAbortedDeposit account epoch => claimAbortedDeposit state account epoch
  | .claimAbortedRedeem account epoch => claimAbortedRedeem state account epoch
  | .openNextEpoch now => openNextEpoch state now
  | .pause actor => pause state actor
  | .unpause actor => unpause state actor
  | .freeze actor => freeze state actor
  | .beginAllocate actor transferId amount => beginAllocate state actor transferId amount
  | .completeAllocation transferId reported => completeAllocation state transferId reported
  | .beginRecall actor transferId amount => beginRecall state actor transferId amount
  | .acceptRecallSent transferId principal actual loss =>
      acceptRecallSent state transferId principal actual loss
  | .observeInbound amount => observeInbound state amount
  | .applyRemoteValuation reported loss => applyRemoteValuation state reported loss
  | .lockRemoteValuation => lockRemoteValuation state
  | .requestClose actor transferId => requestClose state actor transferId
  | .settleClose transferId credited => settleClose state transferId credited
  | .beginRecover actor transferId => beginRecover state actor transferId
  | .settleRecover transferId credited => settleRecover state transferId credited

end AccountingModel
