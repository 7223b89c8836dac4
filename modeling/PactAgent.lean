import PactAgent.Audit.Chain
import PactAgent.Audit.Tampering
import PactAgent.Auth.Binding
import PactAgent.Auth.SingleUse
import PactAgent.Auth.Tokens
import PactAgent.Common.Decimals
import PactAgent.Common.Provider
import PactAgent.Common.RateLimit
import PactAgent.Common.Slots
import PactAgent.Contract.Payment
import PactAgent.Contract.Terms
import PactAgent.Escrow.Commits
import PactAgent.Escrow.Effects
import PactAgent.Escrow.Guards
import PactAgent.Escrow.Observed
import PactAgent.Escrow.Signing
import PactAgent.Foundation.Address
import PactAgent.Foundation.Alone
import PactAgent.Foundation.Autocommit
import PactAgent.Foundation.Base64Url
import PactAgent.Foundation.CodeUnits
import PactAgent.Foundation.Knowledge
import PactAgent.Foundation.Occurrences
import PactAgent.Foundation.Pages
import PactAgent.Foundation.Queues
import PactAgent.Foundation.ReadCommitted
import PactAgent.Foundation.StableSort
import PactAgent.Foundation.Table
import PactAgent.Foundation.Yields
import PactAgent.Idempotency.AtMostOnce
import PactAgent.Idempotency.RequestHash
import PactAgent.Jobs.Invariant
import PactAgent.Jobs.Leases
import PactAgent.Jobs.Queue
import PactAgent.Jobs.Retention
import PactAgent.Jobs.Steps
import PactAgent.Lifecycle.Commits
import PactAgent.Lifecycle.Effects
import PactAgent.Lifecycle.References
import PactAgent.Lifecycle.Reviews
import PactAgent.Lifecycle.Services
import PactAgent.Rail.Readback
import PactAgent.Rail.Signer
import PactAgent.Rail.Spendable
import PactAgent.Server.Allocation
import PactAgent.Server.App
import PactAgent.Server.Approvals
import PactAgent.Server.Attempts
import PactAgent.Server.Broadcasts
import PactAgent.Server.Constraints
import PactAgent.Server.Custody
import PactAgent.Server.Disputes
import PactAgent.Server.Effects
import PactAgent.Server.Finality
import PactAgent.Server.Funded
import PactAgent.Server.Ground
import PactAgent.Server.History
import PactAgent.Server.Holdings
import PactAgent.Server.Ledger
import PactAgent.Server.Observations
import PactAgent.Server.Outbox
import PactAgent.Server.Refunds
import PactAgent.Server.Reorgs
import PactAgent.Server.Replays
import PactAgent.Server.Reports
import PactAgent.Server.Reviews
import PactAgent.Server.Scope
import PactAgent.Startup.Config
import PactAgent.Startup.Keys
import PactAgent.Store.Alone
import PactAgent.Store.Constraints
import PactAgent.Store.Effects
import PactAgent.Store.Lawful
import PactAgent.Store.Steady
import PactAgent.Store.Swaps
import PactAgent.Tenancy.Apps
import PactAgent.Tenancy.Authority
import PactAgent.Tenancy.Reads
import PactAgent.Webhooks.Attended
import PactAgent.Webhooks.Proxy
import PactAgent.Webhooks.Results
import PactAgent.Webhooks.Security
import PactAgent.Webhooks.Signing
import PactAgent.Webhooks.Spellings
import PactAgent.Webhooks.Steps
import PactAgent.Webhooks.Tenants
import PactAgent.Webhooks.Transactions
import PactAgent.Webhooks.Worker
