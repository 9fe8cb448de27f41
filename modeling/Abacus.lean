import Abacus.Library.Table
import Abacus.Library.Machine
import Abacus.Library.Journal
import Abacus.Library.OrderedDict
import Abacus.Inventory.NonNegative
import Abacus.Inventory.RebuildInterleaving
import Abacus.Inventory.Pipeline
import Abacus.Inventory.ExactlyOnce
import Abacus.Ingress.Lockstep
import Abacus.Ingress.Windows
import Abacus.Ingress.AcceptanceOrder
import Abacus.Ingress.AssignmentLookup
import Abacus.Replenishment.Idempotence
import Abacus.Replenishment.StockGuard
import Abacus.Replenishment.Lifecycle
import Abacus.Model.Sample
import Abacus.Tenant.Steps
import Abacus.Tenant.EventTime
import Abacus.Ingress.Mirrors
import Abacus.Ingress.Quotes
import Abacus.Tenant.Evidence
import Abacus.Tenant.Verification
import Abacus.Inventory.Quarantine
import Abacus.Tenant.FailClosed
import Abacus.Library.Association
import Abacus.Library.Transaction
import Abacus.Library.Ranking
import Abacus.Library.Lru
import Abacus.Library.Throttle
import Abacus.Model.Identity
import Abacus.Identity.Accounts
import Abacus.Identity.Steps
import Abacus.Identity.LastAdmin
import Abacus.Identity.Tokens
import Abacus.Identity.Delegation
import Abacus.Model.Policies
import Abacus.Policies.Overlap
import Abacus.Policies.Steps
import Abacus.Policies.Sessions
import Abacus.Policies.Lifecycle
import Abacus.Policies.Unambiguous
import Abacus.Model.ItemSessions
import Abacus.Removal.Sessions
import Abacus.Removal.Finality
import Abacus.Removal.Alone
import Abacus.Identity.Agreement
import Abacus.Model.AuthSessions
import Abacus.Refresh.Steps
import Abacus.Refresh.SingleLive
import Abacus.Refresh.Families
import Abacus.Ingress.Batches
import Abacus.Library.Json
import Abacus.Library.Worklist
import Abacus.Library.Csv
import Abacus.Model.CatalogRows
import Abacus.Model.CatalogCsv
import Abacus.Library.Upsert
import Abacus.Model.Catalog
import Abacus.Model.CatalogStaging
import Abacus.Catalog.Staging
import Abacus.Catalog.Storability
import Abacus.Catalog.Promotion
import Abacus.Catalog.Effects
import Abacus.Catalog.Validated
import Abacus.Catalog.Nested
import Abacus.Catalog.Epc
import Abacus.Catalog.Gtin
import Abacus.Catalog.Preview
import Abacus.Catalog.Projection
import Abacus.Catalog.Synced
import Abacus.Catalog.Exact
import Abacus.Catalog.Idempotent
import Abacus.Catalog.Agreement
import Abacus.Catalog.Resolution
import Abacus.Catalog.Limits
import Abacus.Policies.Selection
import Abacus.Inventory.ZoneInference
import Abacus.Ingress.Retries
import Abacus.Ingress.Passes
import Abacus.Ingress.Attempts
import Abacus.Ingress.Drains
import Abacus.Ingress.BoundedRetries
import Abacus.Model.Acceptances
import Abacus.Replenishment.StockCover
import Abacus.Connectivity.Receipts
import Abacus.Connectivity.Batch
import Abacus.Connectivity.SameReceipt
import Abacus.Model.Jobs
import Abacus.Jobs.Leases
import Abacus.Model.LoginThrottle
import Abacus.Identity.LoginWindows
import Abacus.Identity.LoginAttempts
import Abacus.Tenant.Epochs
import Abacus.Model.CatalogWorker
import Abacus.Catalog.Protocol
import Abacus.Catalog.Workers
import Abacus.Catalog.Refinement
import Abacus.Library.Forest
import Abacus.Library.UniqueIndex
import Abacus.Model.Onboarding
import Abacus.Onboarding.Constraints
import Abacus.Onboarding.Stores
import Abacus.Onboarding.Bulk
import Abacus.Onboarding.Runs
import Abacus.Onboarding.Credentials
import Abacus.Onboarding.Readers
import Abacus.Library.ThreeValued
import Abacus.Model.TenantSession
import Abacus.Isolation.Context
import Abacus.Isolation.Visibility
import Abacus.Isolation.Principals
import Abacus.Library.Listing
import Abacus.Model.Listings
import Abacus.Policies.Listings
import Abacus.Identity.Listings
import Abacus.Bootstrap.Administrators
import Abacus.Bootstrap.Reviewers
import Abacus.Catalog.Documents
