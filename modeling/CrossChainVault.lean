import CrossChainVault.Base.Bytes
import CrossChainVault.Base.Result
import CrossChainVault.Base.OrderedMap
import CrossChainVault.Model.Pricing
import CrossChainVault.Model.State
import CrossChainVault.Model.Transition
import CrossChainVault.Model.Steps
import CrossChainVault.Base.Run
import CrossChainVault.Base.History
import CrossChainVault.Model.Conservation
import CrossChainVault.Base.FloorSum
import CrossChainVault.Model.Book
import CrossChainVault.Model.Epochs
import CrossChainVault.Model.Backing
import CrossChainVault.Model.Shares
import CrossChainVault.Model.Claims
import CrossChainVault.Model.Cancel
import CrossChainVault.Model.Valuation
import CrossChainVault.Model.Price
import CrossChainVault.Model.Settlement
import CrossChainVault.Base.Registry
import CrossChainVault.Protocol.Message
import CrossChainVault.Protocol.Layout
import CrossChainVault.Evm.Token
import CrossChainVault.Evm.Ledger
import CrossChainVault.Evm.Asset
import CrossChainVault.Evm.Shares
import CrossChainVault.Evm.Vault
import CrossChainVault.Evm.Coordinator
import CrossChainVault.Evm.System
import CrossChainVault.Evm.Steps
import CrossChainVault.Evm.Lanes
import CrossChainVault.Evm.Books
import CrossChainVault.Lockstep.Relation
import CrossChainVault.Lockstep.Requests
import CrossChainVault.Lockstep.Epochs
import CrossChainVault.Lockstep.Remote
import CrossChainVault.Lockstep.Reports
import CrossChainVault.Lockstep.Simulation
import CrossChainVault.Protocol.Validation
import CrossChainVault.Leg.State
import CrossChainVault.Leg.Inbound
import CrossChainVault.Leg.Assets
import CrossChainVault.Leg.Outbound
import CrossChainVault.Leg.Program
import CrossChainVault.Leg.Steps
import CrossChainVault.Leg.Instructions
import CrossChainVault.Leg.Side
import CrossChainVault.Evm.Hub
import CrossChainVault.Base.Lane
import CrossChainVault.Bridge.Agreement
import CrossChainVault.Model.Cycle
import CrossChainVault.Model.Nav
import CrossChainVault.Bridge.ReportLane
import CrossChainVault.Bridge.ControlLane
import CrossChainVault.Base.Tally
import CrossChainVault.Leg.Changes
import CrossChainVault.Leg.Custody
import CrossChainVault.Leg.Records
import CrossChainVault.Leg.Recalls
import CrossChainVault.Leg.Frozen
import CrossChainVault.Leg.Ready
import CrossChainVault.Leg.Acceptance
import CrossChainVault.Leg.Settings
import CrossChainVault.Leg.Quarantine
import CrossChainVault.Leg.Wire
import CrossChainVault.Leg.Channel
import CrossChainVault.Leg.Replay
import CrossChainVault.Evm.Obligations
import CrossChainVault.Evm.Purse
import CrossChainVault.Evm.Solvency
import CrossChainVault.Evm.Controllers
import CrossChainVault.Evm.Coupling
import CrossChainVault.Protocol.Codec
import CrossChainVault.Protocol.Packed
import CrossChainVault.Protocol.RoundTrip
import CrossChainVault.Evm.Memory
import CrossChainVault.Evm.Codec
import CrossChainVault.Bridge.SameCodec
import CrossChainVault.Verifier.State
import CrossChainVault.Verifier.Jwt
import CrossChainVault.Verifier.Precompile
import CrossChainVault.Verifier.Verdict
import CrossChainVault.Verifier.Replay
import CrossChainVault.Base.InPlace
import CrossChainVault.Base.Spelling
import CrossChainVault.Simulator.Compose
import CrossChainVault.Simulator.Delivery
import CrossChainVault.Simulator.Operation
import CrossChainVault.Simulator.Growth
import CrossChainVault.Simulator.Placement
import CrossChainVault.Simulator.Attempt
import CrossChainVault.Simulator.Calls
import CrossChainVault.Simulator.InTurn
import CrossChainVault.Simulator.Round
import CrossChainVault.Simulator.Drain
import CrossChainVault.Simulator.Worth
import CrossChainVault.Simulator.Digest
import CrossChainVault.Simulator.Identity
import CrossChainVault.Simulator.Journal
import CrossChainVault.Simulator.Rebuilding
import CrossChainVault.Simulator.Views
import CrossChainVault.Model.Order
import CrossChainVault.Model.Arrival
import CrossChainVault.Evm.Reporting
import CrossChainVault.Verifier.Deployment
import CrossChainVault.Verifier.Shape
import CrossChainVault.Verifier.Reading
import CrossChainVault.Verifier.Grammar
import CrossChainVault.Verifier.Objects
import CrossChainVault.Verifier.Profile
import CrossChainVault.Verifier.Approvals
import CrossChainVault.Deployment.Authorization
import CrossChainVault.Deployment.Transaction
import CrossChainVault.Deployment.Effects
import CrossChainVault.Deployment.Pairing
import CrossChainVault.Deployment.Spending
import CrossChainVault.Base.Accumulate
import CrossChainVault.Model.Totals
import CrossChainVault.Model.Invariant
import CrossChainVault.Model.Audited
import CrossChainVault.Strategy.Adapter
import CrossChainVault.Strategy.World
import CrossChainVault.Leg.Calls
import CrossChainVault.Strategy.Effects
import CrossChainVault.Strategy.Holdings
import CrossChainVault.Strategy.Unwinding
import CrossChainVault.Verifier.Adapter
import CrossChainVault.Model.Lifecycle
import CrossChainVault.Model.Outstanding
import CrossChainVault.Model.Windup
import CrossChainVault.Evm.Callers
import CrossChainVault.Evm.Windup
import CrossChainVault.Simulator.Seeded
