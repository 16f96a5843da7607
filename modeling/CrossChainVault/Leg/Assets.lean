import CrossChainVault.Leg.Inbound

set_option autoImplicit false

/- The instructions that classify and move custody. The adapter is another program: what it
left behind is an input of the instruction, and only what the leg checks is relied on. -/

namespace Leg

open Result Protocol

/-- The adapter's principal and vault, and the custody balance, around one adapter call. -/
structure AdapterCall where
  principalBefore : U64
  principalAfter : U64
  vaultBefore : U64
  vaultAfter : U64
  custodyAfter : U64
  /-- Custody still answers to the custody authority alone. -/
  controlKept : Bool
deriving DecidableEq

namespace Accounts

def reconcileCustody (a : Accounts) : Except RemoteLegError Accounts := do
  let position ← reconcile a.position a.custody
  pure { a with position := position }

/-- Explains waiting custody as the principal of the open allocation. -/
def attributeAllocation (a : Accounts) (ctx : Context) (transferId : Bytes32) :
    Except RemoteLegError Accounts := do
  ctx.requireConsent a.config
  let record ← a.loadRecord transferId
  record.checkActive .allocate a.position
  record.checkAllocationShape
  let position ← reconcile a.position a.custody
  let outstanding ← record.outstandingAllocation
  let attributedNow := minimum outstanding position.unattributedCustody
  rejectIf attributedNow.isZero .noAttributableAssets
  let position ← position.attributeNow attributedNow
  let attributed ← checkedAdd record.attributedAmount attributedNow
  rejectIf (record.authorizedAmount < attributed) .attributionExceedsAuthorization
  checkIdentity position a.custody
  let record := { record with attributedAmount := attributed }
  if attributed = record.authorizedAmount then
    pure { a.storeRecord transferId
        { record with status := .complete, completedAt := ctx.clock } with
      position := position.completeTransfer record.transferId ctx.clock }
  else pure { a.storeRecord transferId record with position := position }

/-- `approved` is the answer of the authorization check for exactly this deployment. -/
def deployToStrategy (a : Accounts) (approved : Bool) (amount : U64) (call : AdapterCall) :
    Except RemoteLegError Accounts := do
  rejectIf a.config.frozen .frozen
  let position ← reconcile a.position a.custody
  rejectIf (¬(amount.isZero = false ∧ amount ≤ position.attributedPrincipal))
    .insufficientAttributedCustody
  checkDeployed position call.principalBefore
  rejectIf (approved = false) .deploymentAuthorizationRequired
  rejectIf (a.custody < amount) .insufficientFunds
  rejectIf (call.controlKept = false) .custodyControlChanged
  let custodyDecrease ← a.custody.checkedSub call.custodyAfter .invalidBalanceDelta
  let vaultIncrease ← call.vaultAfter.checkedSub call.vaultBefore .invalidBalanceDelta
  let principalIncrease ← call.principalAfter.checkedSub call.principalBefore .invalidPrincipalDelta
  rejectIf (custodyDecrease ≠ amount) .invalidBalanceDelta
  rejectIf (vaultIncrease ≠ custodyDecrease) .invalidBalanceDelta
  rejectIf (principalIncrease ≠ custodyDecrease) .invalidPrincipalDelta
  let attributed ← position.attributedPrincipal.checkedSub amount .insufficientAttributedCustody
  let deployed ← checkedAdd position.deployedPrincipal amount
  let position := { position with
    attributedPrincipal := attributed, deployedPrincipal := deployed }
  checkIdentity position call.custodyAfter
  checkDeployed position call.principalAfter
  pure { a with position := position, custody := call.custodyAfter }

/-- Books what an adapter call returned against the recall it was made for. -/
def bookWithdrawal (position : RemotePosition) (record : TransferRecord)
    (principalReduction assetsReturned realizedLoss : U64) :
    Except RemoteLegError (RemotePosition × TransferRecord) := do
  let deployed ← position.deployedPrincipal.checkedSub principalReduction .invalidPrincipalDelta
  let recalled ← checkedAdd position.recalledCustody assetsReturned
  let loss ← checkedAdd position.cumulativeRealizedLoss realizedLoss
  let resolved ← checkedAdd record.strategyPrincipalResolved principalReduction
  let withdrawn ← checkedAdd record.assetsWithdrawn assetsReturned
  let recordLoss ← checkedAdd record.realizedLoss realizedLoss
  let settled ← checkedAdd record.custodyPrincipalReserved resolved
  rejectIf (record.requestedRecallAmount < settled) .invalidRecallAmount
  pure ({ position with
      deployedPrincipal := deployed
      recalledCustody := recalled
      cumulativeRealizedLoss := loss },
    { record with
      strategyPrincipalResolved := resolved
      assetsWithdrawn := withdrawn
      realizedLoss := recordLoss })

/-- Unwinds deployed principal for the open recall. A shortfall is realized as a loss. -/
def withdrawForRecall (a : Accounts) (ctx : Context) (transferId : Bytes32)
    (maximumPrincipal : U64) (call : AdapterCall) : Except RemoteLegError Accounts := do
  let record ← a.loadRecord transferId
  record.checkActive .recall a.position
  record.checkRecallShape
  let position ← reconcile a.position a.custody
  let unresolved ← record.unresolvedRecallPrincipal
  let request := minimum (minimum maximumPrincipal unresolved) position.deployedPrincipal
  rejectIf request.isZero .insufficientStrategyLiquidity
  checkDeployed position call.principalBefore
  rejectIf (call.controlKept = false) .custodyControlChanged
  let principalReduction ←
    call.principalBefore.checkedSub call.principalAfter .invalidPrincipalDelta
  let assetsReturned ← call.custodyAfter.checkedSub a.custody .invalidBalanceDelta
  let vaultDecrease ← call.vaultBefore.checkedSub call.vaultAfter .invalidBalanceDelta
  rejectIf (vaultDecrease ≠ assetsReturned) .invalidBalanceDelta
  rejectIf (request < principalReduction) .invalidPrincipalDelta
  rejectIf principalReduction.isZero .insufficientStrategyLiquidity
  let realizedLoss ← principalReduction.checkedSub assetsReturned .invalidRealizedLoss
  let booked ← bookWithdrawal position record principalReduction assetsReturned realizedLoss
  checkIdentity booked.1 call.custodyAfter
  checkDeployed booked.1 call.principalAfter
  let settled ← settleRecall booked.2 booked.1 ctx.clock
  pure { a.storeRecord transferId settled.1 with
    position := settled.2, custody := call.custodyAfter }

/-- Moves recalled custody into the outbound escrow. -/
def sendRecallAssets (a : Accounts) (ctx : Context) (transferId : Bytes32)
    (maximumAmount : U64) : Except RemoteLegError Accounts := do
  let record ← a.loadRecord transferId
  record.checkActive .recall a.position
  record.checkRecallShape
  let position ← reconcile a.position a.custody
  let amount := minimum maximumAmount position.recalledCustody
  rejectIf amount.isZero .noRecalledCustody
  let custody ← a.custody.checkedSub amount .insufficientFunds
  let escrow ← a.escrow.checkedAdd amount .tokenOverflow
  let recalled ← position.recalledCustody.checkedSub amount .noRecalledCustody
  let sent ← checkedAdd record.assetsSent amount
  let position := { position with recalledCustody := recalled }
  checkIdentity position custody
  let settled ← settleRecall { record with assetsSent := sent } position ctx.clock
  pure { a.storeRecord transferId settled.1 with
    position := settled.2, custody := custody, escrow := escrow }

/-- Tokens arrive in custody from outside. -/
def receiveCustody (a : Accounts) (amount : U64) : Except RemoteLegError Accounts := do
  let custody ← a.custody.checkedAdd amount .tokenOverflow
  pure { a with custody := custody }

/-- The escrow belongs to the bridge, which moves it as it likes. -/
def moveEscrow (a : Accounts) (balance : U64) : Except RemoteLegError Accounts :=
  pure { a with escrow := balance }

end Accounts

end Leg
