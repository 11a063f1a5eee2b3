import OneAiKey.Pool.Lifecycle
import OneAiKey.RoutePlan.Exact
import OneAiKey.Upstream
import OneAiKey.Forward.Filtered
import OneAiKey.Forward.SendBudget
import OneAiKey.SuccessGuard.Transparent
import OneAiKey.FilterStream.Leak
import OneAiKey.ChannelHealth.Soft
import OneAiKey.Replay
import OneAiKey.Commands.Saga
import OneAiKey.Persistence.Converge
import OneAiKey.Reload.Exclusion
import OneAiKey.EventFile.Crash
import OneAiKey.Resolve.Order
import OneAiKey.RegistryStore
import OneAiKey.Pool.Admission
import OneAiKey.ChannelHealth.Generations
import OneAiKey.Registry
import OneAiKey.Rebuild.Quiet
import OneAiKey.Classifier
import OneAiKey.FilterStream.Chunking
import OneAiKey.Lib.PercentCoding
import OneAiKey.Provider.Request
import OneAiKey.Forward.Sends
import OneAiKey.Auth
import OneAiKey.Proxy
import OneAiKey.Proxy.Scope
import OneAiKey.Proxy.RequestedModel
import OneAiKey.Proxy.Generation
import OneAiKey.Lib.KeyedList
import OneAiKey.ClientTokens
import OneAiKey.ClientTokens.Interleaving
import OneAiKey.RegistryStore.LoadBack
import OneAiKey.RegistryAudit
import OneAiKey.RegistryAudit.Truthful
import OneAiKey.SuccessGuard.Chunking
import OneAiKey.SuccessGuard.Truncation
import OneAiKey.FilterStream.UpstreamError
import OneAiKey.Forward.Attempts
import OneAiKey.Lib.CyclicOrder
import OneAiKey.Pool.Failover
import OneAiKey.Classifier.Expiry
import OneAiKey.ModelCatalog
import OneAiKey.ModelCatalog.Agreement
import OneAiKey.ResponseFilter.Literal
import OneAiKey.Lib.Grouping
import OneAiKey.ReloadDiff
import OneAiKey.Resolve.Rows
import OneAiKey.ReloadDiff.Settled
import OneAiKey.ReloadDiff.Columns
import OneAiKey.ReloadDiff.Hidden
import OneAiKey.ResponseFilter.Verdict
import OneAiKey.ResponseFilter.SharedCharacter
import OneAiKey.Lib.Interpolation
import OneAiKey.ResponseFilter.Replacement
import OneAiKey.FailureState.Telemetry
import OneAiKey.Lib.SlidingWindow
import OneAiKey.Events.Window
import OneAiKey.ModelDiscovery
import OneAiKey.ModelDiscovery.Sync
import OneAiKey.RoutePlan.Summary
import OneAiKey.CredentialImport
import OneAiKey.Lib.FirstOccurrence
import OneAiKey.CredentialImport.Accounting
import OneAiKey.ReloadDiff.Budget
import OneAiKey.Pool.Pages
import OneAiKey.Lib.BoundedRing
import OneAiKey.Events.Rings
import OneAiKey.RoutePlan.Rotation
import OneAiKey.Lib.NamedEntries
import OneAiKey.UpstreamTemplates
import OneAiKey.UpstreamTemplates.Records
import OneAiKey.UpstreamTemplates.Expansion
import OneAiKey.Lib.Simulation
import OneAiKey.Pool.Plain
import OneAiKey.AppRouter
import OneAiKey.AppRouter.Gate
import OneAiKey.Lib.OptimisticRead
import OneAiKey.ModelDiscovery.Concurrent
import OneAiKey.Lib.Masking
import OneAiKey.ManagementStatus.Reason
import OneAiKey.ManagementStatus.ReasonMasked
import OneAiKey.ManagementStatus
import OneAiKey.ManagementRuntime
import OneAiKey.ManagementRuntime.Readiness
import OneAiKey.ManagementRouting
import OneAiKey.ManagementRouting.Agreement
import OneAiKey.ManagementRouting.Availability
import OneAiKey.Lib.StoreThenCache
import OneAiKey.Lib.LatestRow
import OneAiKey.CredentialProbe
import OneAiKey.CredentialImport.Runtime
import OneAiKey.CredentialImport.Interleaving
import OneAiKey.CredentialProbe.Agreement
import OneAiKey.Lib.DecimalText
import OneAiKey.CredentialProbe.Apply
import OneAiKey.CredentialRefs
import OneAiKey.Lib.OpenEntries
import OneAiKey.FailureState.Summaries
