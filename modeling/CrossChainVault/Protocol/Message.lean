import CrossChainVault.Base.Result

set_option autoImplicit false

/- The canonical control messages the two chains exchange, decoded. -/

namespace Protocol

abbrev Bytes32 := Unsigned 256

structure Header where
  sourceChain : Unsigned 32
  destinationChain : Unsigned 32
  sourceApplication : Bytes32
  destinationApplication : Bytes32
  deploymentId : Bytes32
  vaultId : Bytes32
  laneId : Unsigned 32
  sequence : Unsigned 64
  previousCommitment : Bytes32
  observedAt : Unsigned 64
  publishedAt : Unsigned 64
  expiresAt : Unsigned 64
deriving DecidableEq

structure AllocateBody where
  transferId : Bytes32
  amount : Unsigned 128
  expectedSourceBalance : Unsigned 128
  minimumDestinationAmount : Unsigned 128
  deadline : Unsigned 64
  configVersion : Unsigned 64
deriving DecidableEq

structure RecallBody where
  transferId : Bytes32
  requestedAmount : Unsigned 128
  minimumReturnAmount : Unsigned 128
  deadline : Unsigned 64
  configVersion : Unsigned 64
deriving DecidableEq

structure ConfigUpdateBody where
  configVersion : Unsigned 64
  previousConfigVersion : Unsigned 64
  maxRemoteAllocationBps : Unsigned 16
  maxUpwardDeviationBps : Unsigned 16
  maxDownwardDeviationBps : Unsigned 16
  maxReportAge : Unsigned 64
  effectiveTimestamp : Unsigned 64
  configCommitment : Bytes32
deriving DecidableEq

/-- How a resolution ends the transfer it names. -/
inductive ResolveAction
  | admitTransfer
  | close
  | recover
deriving DecidableEq, Repr

structure ResolveBody where
  transferId : Bytes32
  targetSequence : Unsigned 64
  action : ResolveAction
  configVersion : Unsigned 64
deriving DecidableEq

inductive ProbeStatus
  | notRequired
  | fresh
  | stale
  | failed
deriving DecidableEq, Repr

structure RemoteReportBody where
  epochId : Unsigned 64
  remotePrincipal : Unsigned 128
  reportedValue : Unsigned 128
  realizedLoss : Unsigned 128
  unattributedBalance : Unsigned 128
  latestCompletedTransferId : Bytes32
  probeStatus : ProbeStatus
  probeTimestamp : Unsigned 64
  configVersion : Unsigned 64
  remoteStateCommitment : Bytes32
deriving DecidableEq

structure RecallSentBody where
  transferId : Bytes32
  principalSent : Unsigned 128
  actualAmountSent : Unsigned 128
  realizedLoss : Unsigned 128
  destinationReference : Bytes32
  sentTimestamp : Unsigned 64
  configVersion : Unsigned 64
deriving DecidableEq

inductive SettlementKind
  | closed
  | recovered
deriving DecidableEq, Repr

/-- The claim is a closed allocation's authorized amount, or the pooled impairment before a
recovery. Impairment is pooled because custody is fungible. -/
structure TransportSettlementBody where
  transferId : Bytes32
  kind : SettlementKind
  claimAmount : Unsigned 128
  creditedAmount : Unsigned 128
  impairedOutstanding : Unsigned 128
  configVersion : Unsigned 64
deriving DecidableEq

inductive Body
  | allocate (body : AllocateBody)
  | recall (body : RecallBody)
  | remoteReport (body : RemoteReportBody)
  | recallSent (body : RecallSentBody)
  | configUpdate (body : ConfigUpdateBody)
  | resolve (body : ResolveBody)
  | transportSettlement (body : TransportSettlementBody)
deriving DecidableEq

structure Message where
  header : Header
  body : Body
deriving DecidableEq

/-- The two domain-separated digests, shared by both chains. -/
structure Hashing where
  messageId : Message → Bytes32
  nextCommitment : Bytes32 → Bytes32 → Bytes32

/-- The commitment a lane holds after one more message. -/
def Hashing.extend (hashing : Hashing) (commitment : Bytes32) (message : Message) : Bytes32 :=
  hashing.nextCommitment commitment (hashing.messageId message)

end Protocol
