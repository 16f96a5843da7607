import CrossChainVault.Leg.Outbound

set_option autoImplicit false

/- Every instruction the program accepts, and the state its initialization leaves. -/

namespace Leg

open Result Protocol

/-- One instruction of the program, or a movement of its token accounts from outside. -/
inductive Instruction
  | processAllocate (message : Message)
  | processRecall (message : Message)
  | processConfigUpdate (message : Message)
  | processResolve (message : Message)
  | processSettlement (message : Message)
  | attributeAllocation (transferId : Bytes32)
  | deployToStrategy (approved : Bool) (amount : U64) (call : AdapterCall)
  | withdrawForRecall (transferId : Bytes32) (maximumPrincipal : U64) (call : AdapterCall)
  | sendRecallAssets (transferId : Bytes32) (maximumAmount : U64)
  | reconcileCustody
  | publishRemoteReport (epochId adapterPrincipal : U64) (layoutKept supplied : Bool)
  | publishRecallSent (transferId : Bytes32)
  | advanceReplayWatermark (newMinimumSequence : U64)
  | closeConsumedMessage (sequence : U64)
  | freeze
  | receiveCustody (amount : U64)
  | moveEscrow (balance : U64)
deriving DecidableEq

def Accounts.step (digests : Digests) (a : Accounts) (ctx : Context) :
    Instruction → Except RemoteLegError Accounts
  | .processAllocate message => a.processAllocate digests.toHashing ctx message
  | .processRecall message => a.processRecall digests.toHashing ctx message
  | .processConfigUpdate message => a.processConfigUpdate digests.toHashing ctx message
  | .processResolve message => a.processResolve digests.toHashing ctx message
  | .processSettlement message => a.processSettlement digests ctx message
  | .attributeAllocation transferId => a.attributeAllocation ctx transferId
  | .deployToStrategy approved amount call => a.deployToStrategy approved amount call
  | .withdrawForRecall transferId maximumPrincipal call =>
      a.withdrawForRecall ctx transferId maximumPrincipal call
  | .sendRecallAssets transferId maximumAmount => a.sendRecallAssets ctx transferId maximumAmount
  | .reconcileCustody => a.reconcileCustody
  | .publishRemoteReport epochId adapterPrincipal layoutKept supplied =>
      a.publishRemoteReport digests ctx epochId adapterPrincipal layoutKept supplied
  | .publishRecallSent transferId => a.publishRecallSent digests ctx transferId
  | .advanceReplayWatermark newMinimumSequence => a.advanceReplayWatermark ctx newMinimumSequence
  | .closeConsumedMessage sequence => a.closeConsumedMessage sequence
  | .freeze => a.freeze ctx
  | .receiveCustody amount => a.receiveCustody amount
  | .moveEscrow balance => a.moveEscrow balance

/-- What the initializing instructions choose. -/
structure Setup where
  outboundEscrow : Bytes32
  sourceChainId : Unsigned 32
  destinationChainId : Unsigned 32
  sourceApplicationId : Bytes32
  localApplicationId : Bytes32
  deploymentId : Bytes32
  vaultId : Bytes32
  controlLaneId : Unsigned 32
  reportLaneId : Unsigned 32
  configVersion : U64
  maxRemoteAllocationBps : Unsigned 16
  maxUpwardDeviationBps : Unsigned 16
  maxDownwardDeviationBps : Unsigned 16
  maxReportAge : U64
  configCommitment : Bytes32
  maxRemotePrincipal : U64
  mandatoryWatermarkLag : U64
  /-- The two token accounts when the leg is initialized. -/
  custody : U64
  escrow : U64

def Setup.risk (setup : Setup) : RiskConfig where
  maxRemoteAllocationBps := setup.maxRemoteAllocationBps
  maxUpwardDeviationBps := setup.maxUpwardDeviationBps
  maxDownwardDeviationBps := setup.maxDownwardDeviationBps
  maxReportAge := setup.maxReportAge
  configVersion := setup.configVersion
  configCommitment := setup.configCommitment

/-- The rules of the initializing instructions that do not depend on keys. -/
def Setup.validate (setup : Setup) : Except RemoteLegError Unit := do
  rejectIf setup.sourceChainId.isZero .invalidSourceDomain
  rejectIf setup.destinationChainId.isZero .invalidDestinationDomain
  rejectIf (setup.sourceChainId = setup.destinationChainId) .invalidDestinationDomain
  rejectIf setup.sourceApplicationId.isZero .invalidApplication
  rejectIf setup.localApplicationId.isZero .invalidApplication
  rejectIf setup.deploymentId.isZero .invalidDeployment
  rejectIf setup.vaultId.isZero .invalidVault
  rejectIf setup.controlLaneId.isZero .invalidLane
  rejectIf setup.reportLaneId.isZero .invalidLane
  rejectIf setup.configVersion.isZero .invalidConfigVersion
  setup.risk.checkParameters
  rejectIf setup.mandatoryWatermarkLag.isZero .invalidWatermark
  rejectIf setup.maxRemotePrincipal.isZero .invalidStrategyConfig

/-- The leg right after its configuration, control, strategy and outbound state exist. -/
def Setup.create (setup : Setup) : Except RemoteLegError Accounts := do
  setup.validate
  pure {
    config := {
      frozen := false
      outboundEscrow := setup.outboundEscrow
      sourceChainId := setup.sourceChainId
      destinationChainId := setup.destinationChainId
      sourceApplicationId := setup.sourceApplicationId
      localApplicationId := setup.localApplicationId
      deploymentId := setup.deploymentId
      vaultId := setup.vaultId
      controlLaneId := setup.controlLaneId
      reportLaneId := setup.reportLaneId
      configVersion := setup.configVersion }
    risk := setup.risk
    maxRemotePrincipal := setup.maxRemotePrincipal
    position := .empty
    control := ⟨setup.controlLaneId, 1, .zero, .zero, setup.mandatoryWatermarkLag⟩
    outbound := ⟨setup.reportLaneId, 1, .zero, .zero, .zero⟩
    ledger := none
    transferRecords := fun _ => none
    consumedMessages := fun _ => none
    reportRecords := fun _ => none
    recallMarkers := fun _ => none
    custody := setup.custody
    escrow := setup.escrow
    published := [] }

end Leg
