import CrossChainVault.Base.Run
import CrossChainVault.Evm.Coordinator

set_option autoImplicit false

/- Every transaction the contracts and the asset accept, and the states they lead to. -/

namespace Evm

open Result Protocol

/-- A call from outside to the asset, the vault or the coordinator. -/
inductive Call
  | asset (data : AssetCall)
  -- The vault's own share token.
  | shareTransfer (receiver : Address) (value : Uint256)
  | shareTransferFrom (owner receiver : Address) (value : Uint256)
  | shareApprove (spender : Address) (value : Uint256)
  -- The vault.
  | requestDeposit (assets : Uint256)
  | cancelDepositRequest
  | requestRedeem (shares : Uint256)
  | cancelRedeemRequest
  | cutoffEpoch
  | finalizeEpoch
  | openNextEpoch
  | abortEpoch
  | claimDeposit (epochId : Uint64)
  | claimRedeem (epochId : Uint64)
  | refundDeposit (epochId : Uint64)
  | refundRedeem (epochId : Uint64)
  | pause
  | unpause
  | freeze
  | observeInbound
  | bindRemoteAccounting (coordinator : Address)
  | beginOutbound (amount : Uint256) (sink : Address)
  | completeAllocation (amount reportedValue : Uint256)
  | closeAllocation (claim credited : Uint256)
  | recoverImpairment (amount : Uint256)
  | applyRemoteValuation (reportedValue : Uint256)
  | beginRecall (transferId : Bytes32) (amount : Uint256)
  | applyRecallSent (principal actual loss : Uint256)
  | lockRemoteValuation (epochId : Uint64)
  -- The coordinator.
  | allocate (transferId : Bytes32) (amount minimumDestinationAmount : Uint128) (deadline : Uint64)
      (stamps : Stamps)
  | recall (transferId : Bytes32) (requestedAmount minimumReturnAmount : Uint128)
      (deadline : Uint64) (stamps : Stamps)
  | admitTransfer (transferId : Bytes32) (stamps : Stamps)
  | close (transferId : Bytes32) (stamps : Stamps)
  | recover (recoveryId : Bytes32) (stamps : Stamps)
  | processRemoteReport (authentic : Bool) (header : Header) (body : RemoteReportBody)
  | processRecallSent (authentic : Bool) (header : Header) (body : RecallSentBody)
  | processTransportSettlement (authentic : Bool) (header : Header)
      (body : TransportSettlementBody)
deriving DecidableEq

namespace World

variable (hashing : Hashing)

/-- A result of the vault alone. -/
def withVault (w : World) (result : Except Revert Vault) : Except Revert World := do
  let vault ← result
  pure { w with vault := vault }

/-- A result of the vault and the asset it moved. -/
def withMoved (w : World) (result : Except Revert (Vault × Asset)) : Except Revert World := do
  let moved ← result
  pure { w with vault := moved.1, asset := moved.2 }

def withAsset (w : World) (result : Except Revert Asset) : Except Revert World := do
  let asset ← result
  pure { w with asset := asset }

def withShares (w : World) (result : Except Revert Shares) : Except Revert World := do
  let shares ← result
  pure { w with vault := { w.vault with shares := shares } }

/-- One transaction. `reconcile` of the source is the same function as `observeInbound`. -/
def step (w : World) (msg : Msg) : Call → Except Revert World
  | .asset data => w.withAsset (w.asset.call msg.sender data)
  | .shareTransfer receiver value =>
      w.withShares (w.vault.shares.transfer msg.sender receiver value)
  | .shareTransferFrom owner receiver value =>
      w.withShares (w.vault.shares.transferFrom msg.sender owner receiver value)
  | .shareApprove spender value =>
      w.withShares (w.vault.shares.approve msg.sender spender value)
  | .requestDeposit assets => w.withMoved (w.vault.requestDeposit w.asset msg assets)
  | .cancelDepositRequest => w.withMoved (w.vault.cancelDepositRequest w.asset msg)
  | .requestRedeem shares => w.withVault (w.vault.requestRedeem w.asset msg shares)
  | .cancelRedeemRequest => w.withVault (w.vault.cancelRedeemRequest msg)
  | .cutoffEpoch => w.withVault (w.vault.cutoffEpoch msg)
  | .finalizeEpoch => w.withVault (w.vault.finalizeEpoch w.asset)
  | .openNextEpoch => w.withVault (w.vault.openNextEpoch msg)
  | .abortEpoch => w.withVault (w.vault.abortEpoch msg)
  | .claimDeposit epochId => w.withVault (w.vault.claimDeposit msg epochId)
  | .claimRedeem epochId => w.withMoved (w.vault.claimRedeem w.asset msg epochId)
  | .refundDeposit epochId => w.withMoved (w.vault.refundDeposit w.asset msg epochId)
  | .refundRedeem epochId => w.withVault (w.vault.refundRedeem msg epochId)
  | .pause => w.withVault (w.vault.pause msg)
  | .unpause => w.withVault (w.vault.unpause msg)
  | .freeze => w.withVault (w.vault.freeze msg)
  | .observeInbound => w.withVault (w.vault.recordSurplus w.asset)
  | .bindRemoteAccounting coordinator => w.withVault (w.vault.bindRemoteAccounting msg coordinator)
  | .beginOutbound amount sink =>
      w.withMoved (w.vault.beginOutbound w.asset msg.sender amount sink)
  | .completeAllocation amount reportedValue =>
      w.withVault (w.vault.completeAllocation msg.sender amount reportedValue)
  | .closeAllocation claim credited =>
      w.withVault (w.vault.closeAllocation msg.sender claim credited)
  | .recoverImpairment amount => w.withVault (w.vault.recoverImpairment msg.sender amount)
  | .applyRemoteValuation reportedValue =>
      w.withVault (w.vault.applyRemoteValuation msg.sender reportedValue)
  | .beginRecall transferId amount => w.withVault (w.vault.beginRecall msg.sender transferId amount)
  | .applyRecallSent principal actual loss =>
      w.withVault (w.vault.applyRecallSent msg.sender principal actual loss)
  | .lockRemoteValuation epochId => w.withVault (w.vault.lockRemoteValuation msg.sender epochId)
  | .allocate transferId amount minimumDestinationAmount deadline stamps =>
      w.allocate hashing msg transferId amount minimumDestinationAmount deadline stamps
  | .recall transferId requestedAmount minimumReturnAmount deadline stamps =>
      w.recall hashing msg transferId requestedAmount minimumReturnAmount deadline stamps
  | .admitTransfer transferId stamps => w.admitTransfer hashing msg transferId stamps
  | .close transferId stamps => w.close hashing msg transferId stamps
  | .recover recoveryId stamps => w.recover hashing msg recoveryId stamps
  | .processRemoteReport authentic header body =>
      w.processRemoteReport hashing msg authentic header body
  | .processRecallSent authentic header body =>
      w.processRecallSent hashing authentic header body
  | .processTransportSettlement authentic header body =>
      w.processTransportSettlement hashing authentic header body

end World

/-- What a deployment chooses. -/
structure Deployment where
  vaultAddress : Address
  coordinatorAddress : Address
  underlying : Address
  authenticator : Address
  outboundSink : Address
  admin : Address
  guardian : Address
  decimals : Unsigned 8
  epochDuration : Uint64
  minDepositAssets : Uint256
  minRedeemShares : Uint256
  configVersion : Unsigned 32
  identities : Identities
  deployedAt : Uint64
  /-- The ERC-20 contract the vault is compiled with. -/
  shares : ShareCode
  /-- The asset when the contracts are deployed. -/
  asset : Asset

def Deployment.deploy (d : Deployment) : Except Revert World := do
  let vault ← Vault.create d.vaultAddress d.underlying d.admin d.guardian d.decimals
    d.epochDuration d.minDepositAssets d.minRedeemShares d.configVersion d.shares d.deployedAt
  let coordinator ← Coordinator.create d.coordinatorAddress d.vaultAddress d.authenticator
    d.outboundSink d.identities
  pure ⟨d.asset, vault, coordinator⟩

end Evm
