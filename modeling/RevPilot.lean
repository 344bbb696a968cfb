import RevPilot.Action.Attempts
import RevPilot.Action.AuditScrub
import RevPilot.Action.Domain
import RevPilot.Action.Intents
import RevPilot.Action.Ledger
import RevPilot.Action.Saga.Compensation
import RevPilot.Action.Saga.Inquiries
import RevPilot.Action.Saga.Reconciliation
import RevPilot.Action.Saga.Timeout
import RevPilot.Action.Saga.Workflow
import RevPilot.Agent.DagValidator
import RevPilot.Agent.Verifier
import RevPilot.AiGovernance.PromptRegistry
import RevPilot.Analytics.Capabilities
import RevPilot.Analytics.CapabilityQueries
import RevPilot.Analytics.GroupPartition
import RevPilot.Analytics.Lifecycle
import RevPilot.Analytics.LifecycleRuns
import RevPilot.Analytics.Localization
import RevPilot.Analytics.MetricRows
import RevPilot.Analytics.MetricService
import RevPilot.Analytics.Noninterference
import RevPilot.Analytics.Reconciliation
import RevPilot.Analytics.RollingStats
import RevPilot.Analytics.SeriesPoints
import RevPilot.Analytics.SlicePartition
import RevPilot.Analytics.StlDetector
import RevPilot.Api.Approvals
import RevPilot.Api.Authorization
import RevPilot.Api.Dispatch
import RevPilot.Api.DispatchOnce
import RevPilot.Api.GrantAtomicity
import RevPilot.Api.GrantAuthority
import RevPilot.Api.Scim
import RevPilot.Api.ScimUniqueness
import RevPilot.Api.TenantScope
import RevPilot.Approval.Amendment
import RevPilot.Approval.Authority
import RevPilot.Approval.ClientDigest
import RevPilot.Approval.Digest
import RevPilot.Approval.Domain
import RevPilot.Approval.Interleaving
import RevPilot.Approval.Lifecycle
import RevPilot.Approval.SeparationOfDuties
import RevPilot.Approval.Service
import RevPilot.Benchmark.DetectorEvaluator
import RevPilot.Causal.Estimators
import RevPilot.Compliance.DlpScanner
import RevPilot.Compliance.EvidenceBundle
import RevPilot.Connectors.Convergence
import RevPilot.Connectors.Inbox
import RevPilot.Connectors.Lifecycle
import RevPilot.Connectors.Quarantine
import RevPilot.Connectors.Reconciliation
import RevPilot.Connectors.Redelivery
import RevPilot.Connectors.Stripe
import RevPilot.Connectors.Teardown
import RevPilot.Connectors.Webhook
import RevPilot.Constraints.Conservation
import RevPilot.Constraints.Domain
import RevPilot.Constraints.Evaluator
import RevPilot.DataQuality.Quarantine
import RevPilot.DataQuality.Validator
import RevPilot.Decision.Engine
import RevPilot.Decision.NearTies
import RevPilot.Decision.Permutation
import RevPilot.Evidence.Domain
import RevPilot.Evidence.Packaging
import RevPilot.Fairness.Evaluator
import RevPilot.Fairness.PrAuc
import RevPilot.Finops.AuditChain
import RevPilot.Finops.HardLimit
import RevPilot.Finops.Metering
import RevPilot.Finops.Quota
import RevPilot.Finops.QuotaBalance
import RevPilot.Finops.Reconciliation
import RevPilot.Hypothesis.AmbiguousCauses
import RevPilot.Hypothesis.Ranking
import RevPilot.Iam.OidcValidator
import RevPilot.Iam.SamlIntegrity
import RevPilot.Iam.SamlValidator
import RevPilot.Iam.ScimContract
import RevPilot.Iam.ScimProvisioning
import RevPilot.Iam.ScimRuns
import RevPilot.Identity.ApprovalAuthority
import RevPilot.Identity.Authorization
import RevPilot.Identity.Delegation
import RevPilot.Identity.Mfa
import RevPilot.Identity.Permissions
import RevPilot.Identity.PrivilegedContext
import RevPilot.Identity.Sessions
import RevPilot.Identity.TokenVerifier
import RevPilot.Identity.Tokens
import RevPilot.Identity.TotpReplay
import RevPilot.Investigation.Cancellation
import RevPilot.Investigation.Control
import RevPilot.Investigation.Domain
import RevPilot.Investigation.EventBroadcaster
import RevPilot.Investigation.LiveDelivery
import RevPilot.Investigation.Pauses
import RevPilot.Investigation.Spending
import RevPilot.Investigation.TerminalStatus
import RevPilot.Investigation.Workflow
import RevPilot.Library.Bytes
import RevPilot.Library.Decimal
import RevPilot.Library.DecimalArithmetic
import RevPilot.Library.Dict
import RevPilot.Library.Elimination
import RevPilot.Library.Json
import RevPilot.Library.JsonCut
import RevPilot.Library.LatestWins
import RevPilot.Library.Lists
import RevPilot.Library.Markup
import RevPilot.Library.Program
import RevPilot.Library.PyFloat
import RevPilot.Library.PyValue
import RevPilot.Library.RecordStore
import RevPilot.Library.Runs
import RevPilot.Library.Separators
import RevPilot.Library.Statistics
import RevPilot.Library.Sweep
import RevPilot.Library.Text
import RevPilot.Library.Traces
import RevPilot.Observability.SliExporter
import RevPilot.Observability.TelemetryScrubber
import RevPilot.Operations.Canary
import RevPilot.Operations.ReadinessGate
import RevPilot.Operations.WalVerifier
import RevPilot.Retrieval.GovernedSearch
import RevPilot.Retrieval.InjectionDefense
import RevPilot.Safety.BlastRadius
import RevPilot.Safety.KillSwitch
import RevPilot.Safety.Outages
import RevPilot.Security.Envelope
import RevPilot.Security.PendingRotations
import RevPilot.Security.Revocation
import RevPilot.Security.Rotation
import RevPilot.Security.TokenCache
import RevPilot.Shared.ClockText
import RevPilot.Shared.Context
import RevPilot.Shared.Errors
import RevPilot.Shared.Identifiers
import RevPilot.Shared.IsoFormat
import RevPilot.Shared.Monetary
import RevPilot.Shared.Temporal
import RevPilot.Tenancy.Domain
import RevPilot.Tenancy.Effects
import RevPilot.Tenancy.LegalHolds
import RevPilot.Tenancy.ProvisioningCollisions
import RevPilot.Tenancy.Service
import RevPilot.Tenancy.TerminalTenants
import RevPilot.Tickets.TicketFraming
import RevPilot.ToolGateway.Binding
import RevPilot.ToolGateway.CredentialBroker
import RevPilot.ToolGateway.DryRunParity
import RevPilot.ToolGateway.ScopeConfinement
import RevPilot.ToolGateway.Scrub
import RevPilot.ToolGateway.ScrubbedSecrets
import RevPilot.Verifier.Claims
