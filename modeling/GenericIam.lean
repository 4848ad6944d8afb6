import GenericIam.AcceptedTokens
import GenericIam.AccessModel
import GenericIam.AccessRefinement
import GenericIam.AccessRuns
import GenericIam.AccountServices
import GenericIam.AssignedRoles
import GenericIam.AuditLogs
import GenericIam.AuditTrail
import GenericIam.AuthService
import GenericIam.AuthorizationCheck
import GenericIam.BearerTokens
import GenericIam.CacheCollisions
import GenericIam.CacheDeliveries
import GenericIam.CacheKeys
import GenericIam.CacheTransparency
import GenericIam.Chronicles
import GenericIam.Coherence
import GenericIam.ConcurrentCalls
import GenericIam.ConcurrentUpdates
import GenericIam.Controllers
import GenericIam.Database
import GenericIam.Delegation
import GenericIam.DenyOverride
import GenericIam.DuplicateMappings
import GenericIam.EffectivePermissions
import GenericIam.Events
import GenericIam.ExpiringStore
import GenericIam.FailedRefreshes
import GenericIam.FailedRequests
import GenericIam.FailingCache
import GenericIam.Faults
import GenericIam.FirstEvents
import GenericIam.Footprint
import GenericIam.GeneratedKeys
import GenericIam.GrantAuthority
import GenericIam.GuardChains
import GenericIam.Guards
import GenericIam.Handlers
import GenericIam.HeldRoles
import GenericIam.Hierarchy
import GenericIam.Identifiers
import GenericIam.InactiveSessions
import GenericIam.Interleaving
import GenericIam.Json
import GenericIam.Ledgers
import GenericIam.LiveAccounts
import GenericIam.Mappings
import GenericIam.MassAssignment
import GenericIam.Monotonicity
import GenericIam.Newcomers
import GenericIam.NonInterference
import GenericIam.Operations
import GenericIam.OwnedTransactions
import GenericIam.Pagination
import GenericIam.PendingDeletes
import GenericIam.PermissionAlgebra
import GenericIam.PermissionBatches
import GenericIam.PermissionCodes
import GenericIam.PermissionGuards
import GenericIam.PermissionMatcher
import GenericIam.PooledConnections
import GenericIam.PrincipalLogin
import GenericIam.Privileges
import GenericIam.Promises
import GenericIam.PurgedRoles
import GenericIam.Races
import GenericIam.RbacServices
import GenericIam.ReachableStates
import GenericIam.Reactivation
import GenericIam.ReadCommitted
import GenericIam.ReadRoutes
import GenericIam.RecursiveQuery
import GenericIam.References
import GenericIam.RefreshSessions
import GenericIam.RefreshTokens
import GenericIam.Registers
import GenericIam.Reseeding
import GenericIam.RoleBatches
import GenericIam.Runs
import GenericIam.SavedChanges
import GenericIam.ScannedDeletes
import GenericIam.Scopes
import GenericIam.SdkAuthorization
import GenericIam.SeededRoles
import GenericIam.Separator
import GenericIam.SettledCaches
import GenericIam.ShippedSeeds
import GenericIam.SingleUse
import GenericIam.Spellings
import GenericIam.SplitReads
import GenericIam.StaleEntries
import GenericIam.Staleness
import GenericIam.Statements
import GenericIam.Store
import GenericIam.SuperAdminRequests
import GenericIam.Table
import GenericIam.TenantEvents
import GenericIam.TenantRecords
import GenericIam.TenantRequests
import GenericIam.TenantTwins
import GenericIam.TenantView
import GenericIam.TenantWrites
import GenericIam.TokenPowers
import GenericIam.Transaction
