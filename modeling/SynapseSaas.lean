import SynapseSaas.ApiKeys.Authority
import SynapseSaas.ApiKeys.Service
import SynapseSaas.Authorization.Announced
import SynapseSaas.Authorization.DecisionCache
import SynapseSaas.Authorization.Denormalization
import SynapseSaas.Authorization.FgaModel
import SynapseSaas.Authorization.PermissionFreshness
import SynapseSaas.Authorization.Permissions
import SynapseSaas.Authorization.RoleEdits
import SynapseSaas.Authorization.Service
import SynapseSaas.Authorization.TuplePages
import SynapseSaas.Authorization.TupleSync
import SynapseSaas.Billing.Arrivals
import SynapseSaas.Billing.CheckoutRoundTrip
import SynapseSaas.Billing.Checkouts
import SynapseSaas.Billing.Corrections
import SynapseSaas.Billing.DraftLedger
import SynapseSaas.Billing.EventFrame
import SynapseSaas.Billing.EventOrder
import SynapseSaas.Billing.HostedAgreement
import SynapseSaas.Billing.Ingest
import SynapseSaas.Billing.InvoiceReports
import SynapseSaas.Billing.Invoicing
import SynapseSaas.Billing.LedgerKeys
import SynapseSaas.Billing.Listings
import SynapseSaas.Billing.Models
import SynapseSaas.Billing.Money
import SynapseSaas.Billing.Numbering
import SynapseSaas.Billing.Outages
import SynapseSaas.Billing.OwnRates
import SynapseSaas.Billing.PaymentRecords
import SynapseSaas.Billing.PlanChanges
import SynapseSaas.Billing.Providers
import SynapseSaas.Billing.Service
import SynapseSaas.Billing.ServicePeriods
import SynapseSaas.Billing.SignatureHeaders
import SynapseSaas.Billing.StatusEvents
import SynapseSaas.Billing.StripeStatuses
import SynapseSaas.Billing.WebhookBodies
import SynapseSaas.Billing.Webhooks
import SynapseSaas.Console.Endpoints
import SynapseSaas.Console.Refresh
import SynapseSaas.Console.ReturnTo
import SynapseSaas.Console.SingleFlight
import SynapseSaas.Core.Cache
import SynapseSaas.Core.CacheFreshness
import SynapseSaas.Core.CacheSystem
import SynapseSaas.Core.CommitBeforeSend
import SynapseSaas.Core.Db
import SynapseSaas.Core.Errors
import SynapseSaas.Core.Ids
import SynapseSaas.Core.InProcessCache
import SynapseSaas.Core.Json
import SynapseSaas.Core.JsonText
import SynapseSaas.Core.PythonText
import SynapseSaas.Core.RateLimiter
import SynapseSaas.Core.RowSecurity
import SynapseSaas.Core.Settings
import SynapseSaas.Core.SharedLimiter
import SynapseSaas.Core.TenantRepository
import SynapseSaas.Core.Time
import SynapseSaas.Entitlements.CachedBody
import SynapseSaas.Entitlements.Features
import SynapseSaas.Entitlements.GrantOrder
import SynapseSaas.Entitlements.LimitPriority
import SynapseSaas.Entitlements.Limits
import SynapseSaas.Entitlements.Resolver
import SynapseSaas.Entitlements.Service
import SynapseSaas.Entitlements.SharedCache
import SynapseSaas.FeatureFlags.Overrides
import SynapseSaas.FeatureFlags.Service
import SynapseSaas.Foundation.Alone
import SynapseSaas.Foundation.Announcements
import SynapseSaas.Foundation.BitFields
import SynapseSaas.Foundation.Calendar
import SynapseSaas.Foundation.Completion
import SynapseSaas.Foundation.Contest
import SynapseSaas.Foundation.Delimited
import SynapseSaas.Foundation.Doubles
import SynapseSaas.Foundation.Failures
import SynapseSaas.Foundation.Interference
import SynapseSaas.Foundation.LocalSettings
import SynapseSaas.Foundation.Observation
import SynapseSaas.Foundation.Orders
import SynapseSaas.Foundation.Outcomes
import SynapseSaas.Foundation.Pages
import SynapseSaas.Foundation.Paths
import SynapseSaas.Foundation.Procedures
import SynapseSaas.Foundation.Quotas
import SynapseSaas.Foundation.ReadCommitted
import SynapseSaas.Foundation.References
import SynapseSaas.Foundation.Rounding
import SynapseSaas.Foundation.Rows
import SynapseSaas.Foundation.Runs
import SynapseSaas.Foundation.Sessions
import SynapseSaas.Foundation.Table
import SynapseSaas.Foundation.Tasks
import SynapseSaas.Foundation.TextEncodings
import SynapseSaas.Foundation.Usersets
import SynapseSaas.Foundation.Windows
import SynapseSaas.Foundation.Words
import SynapseSaas.Foundation.Worklists
import SynapseSaas.Identity.AuthRateLimit
import SynapseSaas.Identity.ClientAddress
import SynapseSaas.Identity.LoginAudit
import SynapseSaas.Identity.LoginState
import SynapseSaas.Identity.Oidc
import SynapseSaas.Identity.OneShot
import SynapseSaas.Identity.PasswordReset
import SynapseSaas.Identity.PreferenceMerges
import SynapseSaas.Identity.Preferences
import SynapseSaas.Identity.RateBuckets
import SynapseSaas.Identity.ReuseDetection
import SynapseSaas.Identity.Rotation
import SynapseSaas.Identity.SessionSafety
import SynapseSaas.Identity.Sessions
import SynapseSaas.Identity.SignOn
import SynapseSaas.Storage.Files
import SynapseSaas.Storage.LocalDisk
import SynapseSaas.Storage.OwnBytes
import SynapseSaas.Storage.Reservations
import SynapseSaas.Subscriptions.Catalog
import SynapseSaas.Subscriptions.CatalogProjection
import SynapseSaas.Subscriptions.CatalogSync
import SynapseSaas.Subscriptions.KeptPeriod
import SynapseSaas.Subscriptions.Models
import SynapseSaas.Subscriptions.Progress
import SynapseSaas.Subscriptions.Proration
import SynapseSaas.Subscriptions.Refusals
import SynapseSaas.Subscriptions.Service
import SynapseSaas.Subscriptions.StateMachine
import SynapseSaas.Tenancy.Addressees
import SynapseSaas.Tenancy.Confined
import SynapseSaas.Tenancy.Invitations
import SynapseSaas.Tenancy.Models
import SynapseSaas.Tenancy.Ownership
import SynapseSaas.Tenancy.Resolution
import SynapseSaas.Tenancy.RoleKeys
import SynapseSaas.Tenancy.SeatGauge
import SynapseSaas.Tenancy.SeatLimit
import SynapseSaas.Tenancy.Service
import SynapseSaas.Tenancy.Slugs
import SynapseSaas.Tenancy.Standings
import SynapseSaas.Usage.Accounting
import SynapseSaas.Usage.Alone
import SynapseSaas.Usage.Attempts
import SynapseSaas.Usage.Deduplication
import SynapseSaas.Usage.GaugeCapacity
import SynapseSaas.Usage.Gauges
import SynapseSaas.Usage.LimitEnforcement
import SynapseSaas.Usage.LocalTime
import SynapseSaas.Usage.Models
import SynapseSaas.Usage.Overflow
import SynapseSaas.Usage.PlanLoss
import SynapseSaas.Usage.PreFlight
import SynapseSaas.Usage.Safety
import SynapseSaas.Usage.Service
import SynapseSaas.Usage.SoftLimit
import SynapseSaas.Usage.Transactions
import SynapseSaas.Worker.Coverage
import SynapseSaas.Worker.Deliveries
import SynapseSaas.Worker.DeliveryAttempts
import SynapseSaas.Worker.Drafting
import SynapseSaas.Worker.DriftCorrection
import SynapseSaas.Worker.EndedSubscriptions
import SynapseSaas.Worker.ExpiredGrants
import SynapseSaas.Worker.Explained
import SynapseSaas.Worker.FanOut
import SynapseSaas.Worker.Lifecycle
import SynapseSaas.Worker.OneOccupying
import SynapseSaas.Worker.Outbox
import SynapseSaas.Worker.Partitions
import SynapseSaas.Worker.RenewalInvoice
import SynapseSaas.Worker.Renewals
import SynapseSaas.Worker.Rollup
