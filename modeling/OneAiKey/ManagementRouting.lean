/-
  OneAiKey.ManagementRouting — how an operator is told where requests would go
  (`src/management_routing.rs`).

  The routing preview plans a request of a client token for a model as the proxy
  would, under a request id of its own; a default channel becomes a route of one
  target.  The availability of an endpoint family is asked for the targets whose
  capabilities name the family.

  Labels that only repeat an input, the hints about reloads and recent failures and
  the next step of the diagnostic contract are left out.
-/
import OneAiKey.Commands
import OneAiKey.ManagementStatus
import OneAiKey.ReloadDiff
import OneAiKey.RoutePlan.Summary

namespace OneAiKey

open Std
open Grouping

/-! ## §1. The parts of a preview. -/

/-- The retry settings over all candidates. -/
structure RoutingPreviewPolicySummary where
  routeTargetRetryEnabled : Bool
  sameRequestCredentialRetryEnabled : Bool
  maxSameRequestRetries : Nat
  candidateLimit : Nat
  deriving DecidableEq, Repr

/-- The client of a preview with its scope. -/
structure RoutingPreviewClientStatus where
  id : String
  name : String
  unrestrictedModelGroups : Bool
  unrestrictedChannels : Bool
  allowedModelGroups : List String
  allowedChannels : List String
  deriving DecidableEq, Repr

/-- The target that would be tried first. -/
structure RoutingPreviewSelectedTarget where
  channelId : String
  planPosition : Nat
  deriving DecidableEq, Repr

/-- The counts of a plan as a preview shows them. -/
structure RoutingPreviewAdmissionSummary where
  status : String
  reasonCode : String
  primaryReasonCode : String
  selectedTarget : Option RoutingPreviewSelectedTarget
  candidateCount : Nat
  includedCount : Nat
  blockedCount : Nat
  softSuppressedCount : Nat
  hardBlockedCount : Nat
  lastResortUsed : Bool
  lastResortReason : Option String
  deriving DecidableEq, Repr

/-- `EndpointCapabilitiesStatus`, which has the same fields. -/
abbrev EndpointCapabilitiesStatus := ResolvedEndpointCapabilities

/-- A channel as a preview shows it. -/
structure RoutingPreviewChannelStatus where
  health : ChannelHealthStatus
  endpointCapabilities : Option EndpointCapabilitiesStatus
  credentialSetId : String
  selectorGeneration : Nat
  credentials : RuntimeCredentialCounts
  routeTargetRetryEnabled : Bool
  sameRequestCredentialRetryEnabled : Bool
  maxSameRequestRetries : Nat
  deriving DecidableEq, Repr

/-- A candidate together with its channel. -/
structure RoutingPreviewCandidateStatus where
  targetIndex : Nat
  channelId : String
  upstreamModel : Option String
  providerKind : ProviderKind
  endpointCapabilities : Option EndpointCapabilitiesStatus
  priority : UInt16
  weight : UInt16
  targetEnabled : Bool
  included : Bool
  selected : Bool
  planPosition : Option Nat
  reasons : List String
  health : ChannelHealthStatus
  credentialSetId : String
  selectorGeneration : Nat
  credentials : RuntimeCredentialCounts
  deriving DecidableEq, Repr

/-- The answer to a request for a preview. -/
structure RoutingPreviewResponse where
  requestId : String
  model : String
  routeKind : String
  registryGeneration : Nat
  candidateLimit : Nat
  policySummary : RoutingPreviewPolicySummary
  clientToken : RoutingPreviewClientStatus
  admissionSummary : RoutingPreviewAdmissionSummary
  selectedTarget : Option RoutingPreviewSelectedTarget
  candidates : List RoutingPreviewCandidateStatus
  deriving DecidableEq, Repr

/-- The scope of a client; an empty list allows everything. -/
def routingPreviewClientStatus (client : ResolvedClientToken) : RoutingPreviewClientStatus where
  id := client.id
  name := client.name
  unrestrictedModelGroups := client.allowedModelGroups.isEmpty
  unrestrictedChannels := client.allowedChannels.isEmpty
  allowedModelGroups := client.allowedModelGroups
  allowedChannels := client.allowedChannels

/-- The first target as a preview shows it. -/
def routingPreviewSelectedTargetFromRouteSummary (target : Option RouteAdmissionSelectedTarget) :
    Option RoutingPreviewSelectedTarget :=
  target.map fun target => ⟨target.channelId, target.planPosition⟩

/-- The counts of the plan, unchanged. -/
def RoutingPreviewAdmissionSummary.fromRouteSummary (summary : RouteAdmissionSummary) :
    RoutingPreviewAdmissionSummary where
  status := summary.status.asStr
  reasonCode := summary.reasonCode
  primaryReasonCode := summary.primaryReasonCode
  selectedTarget := routingPreviewSelectedTargetFromRouteSummary summary.selectedTarget
  candidateCount := summary.candidateCount
  includedCount := summary.includedCount
  blockedCount := summary.blockedCount
  softSuppressedCount := summary.softSuppressedCount
  hardBlockedCount := summary.hardBlockedCount
  lastResortUsed := summary.lastResortUsed
  lastResortReason := summary.lastResortReason

/-- The first enabled token that is meant. -/
def routingPreviewClient (clientTokens : List ResolvedClientToken)
    (clientTokenRef : Option String) : Except ManagementServiceError ResolvedClientToken :=
  match clientTokenRef with
  | some reference =>
      match clientTokens.find? fun token =>
          token.enabled && (token.id == reference || token.name == reference) with
      | some client => .ok client
      | none => .error (.notFound ("unknown client token " ++ reference))
  | none =>
      match clientTokens.find? (·.enabled) with
      | some client => .ok client
      | none => .error (.notFound "no enabled client token")

/-- The route of a preview, and whether it is configured for the model. -/
structure RoutingPreviewRoute where
  routeKind : String
  route : Option ModelRoute

/-- The route of a model that no route is configured for. -/
def defaultChannelRoute (model : String) (defaultChannel : String)
    (providerKind : ProviderKind) : ModelRoute where
  publicModel := model
  targets := [{
    channelId := defaultChannel
    providerKind := providerKind
    upstreamModel := none
    priority := 0
    weight := 1
    enabled := true }]
  strategy := .priority

/-- The configured route of a model, or the one to the default channel. -/
def routingPreviewRoute (routeContext : ChannelRoutePlanContext) (model : String) :
    Except ManagementServiceError RoutingPreviewRoute :=
  match routeContext.modelRoute with
  | some route => .ok ⟨"explicit_model_route", some route⟩
  | none =>
      match routeContext.defaultChannel with
      | none => .ok ⟨"no_route", none⟩
      | some defaultChannel =>
          match routeContext.defaultChannelProviderKind with
          | none => .error (.notFound ("unknown default channel " ++ defaultChannel))
          | some providerKind =>
              .ok ⟨"default_channel", some (defaultChannelRoute model defaultChannel providerKind)⟩

/-- `route_context_channel_states`. -/
def routeContextChannelStates (routeContext : ChannelRoutePlanContext) (channelId : ChannelId) :
    Option ChannelRouteState :=
  if routeContext.modelRoute.isSome then routeContext.modelRouteChannelStates channelId
  else
    match routeContext.defaultChannel, routeContext.defaultChannelRouteState with
    | some defaultChannel, some state => if defaultChannel = channelId then some state else none
    | _, _ => none

/-! ## §2. The status of a channel. -/

namespace RoutingPreviewChannelStatus

/-- What is shown of a channel that the runtime does not have. -/
def unknownChannel : RoutingPreviewChannelStatus where
  health := {
    kind := "degraded"
    reason := some "unknown channel"
    reasonCode := some "unknown_channel"
    source := some "runtime"
    remainingSeconds := none
    suppressionCount := 0
    generation := 0 }
  endpointCapabilities := none
  credentialSetId := ""
  selectorGeneration := 0
  credentials := .zero
  routeTargetRetryEnabled := false
  sameRequestCredentialRetryEnabled := false
  maxSameRequestRetries := 0

end RoutingPreviewChannelStatus

namespace RuntimeCatalogSnapshot

/-- `channel_endpoint_capabilities`, looked up. -/
def channelEndpointCapabilities (catalogs : RuntimeCatalogSnapshot) :
    IdMap ResolvedEndpointCapabilities :=
  ofEntries (catalogs.channelTopologies.map fun topology =>
    (topology.id, topology.endpointCapabilities))

/-- `endpoint_capabilities_by_channel`: capabilities of another generation are not shown. -/
def endpointCapabilitiesByChannel (catalogs : RuntimeCatalogSnapshot)
    (expectedRegistryGeneration : Nat) (channelId : String) :
    Option EndpointCapabilitiesStatus :=
  if catalogs.registryGeneration ≠ expectedRegistryGeneration then none
  else catalogs.channelEndpointCapabilities.lookup channelId

end RuntimeCatalogSnapshot

/-- What a preview finds at each of its reads. -/
structure PreviewReads where
  clientTokens : List ResolvedClientToken
  /-- Where the plan is made. -/
  planRegistry : ChannelRegistrySnapshot
  observation : RouteObservation
  /-- Where the model scope is looked up. -/
  catalogs : RuntimeCatalogSnapshot
  /-- Where the capabilities are looked up. -/
  statusCatalogs : RuntimeCatalogSnapshot
  /-- Where the candidates are described. -/
  statusRegistry : ChannelRegistrySnapshot
  selectorGeneration : CredentialSetId → Nat
  /-- The clock when a channel is described: for its pool, and twice for its health. -/
  describedAt : String → Readings

/-- A channel as it is now. -/
def routingPreviewChannelStatus (reads : PreviewReads) (expectedRegistryGeneration : Nat)
    (channelId : String) : RoutingPreviewChannelStatus :=
  match reads.statusRegistry.get channelId with
  | none => .unknownChannel
  | some channel =>
      let readings := reads.describedAt channelId
      { health := channelHealthStatus channel.toChannelRuntime readings.second readings.third
        endpointCapabilities :=
          reads.statusCatalogs.endpointCapabilitiesByChannel expectedRegistryGeneration channelId
        credentialSetId := channel.poolState.credentialSetId
        selectorGeneration := reads.selectorGeneration channel.poolState.pool
        credentials :=
          match reads.statusRegistry.credentialSetRuntimes[channel.poolState.pool]? with
          | some pool => addKeyPoolSnapshotCounts .zero (pool.snapshot readings.first)
          | none => .zero
        routeTargetRetryEnabled := channel.poolState.routeTargetRetryEnabled
        sameRequestCredentialRetryEnabled := channel.poolState.retrySwitchedKeyInSameRequest
        maxSameRequestRetries := channel.poolState.maxSameRequestRetries }

/-- Each channel of the candidates, described once. -/
def routingPreviewChannelStatusesForCandidates (reads : PreviewReads)
    (expectedRegistryGeneration : Nat) (candidates : List RoutePreviewCandidate) :
    TreeMap String RoutingPreviewChannelStatus :=
  candidates.foldl (fun statuses candidate =>
    if statuses.contains candidate.channelId then statuses
    else statuses.insert candidate.channelId
      (routingPreviewChannelStatus reads expectedRegistryGeneration candidate.channelId)) ∅

/-- The settings with those of one more channel. -/
def RoutingPreviewPolicySummary.addStatus (summary : RoutingPreviewPolicySummary)
    (status : RoutingPreviewChannelStatus) : RoutingPreviewPolicySummary where
  routeTargetRetryEnabled := summary.routeTargetRetryEnabled || status.routeTargetRetryEnabled
  sameRequestCredentialRetryEnabled :=
    summary.sameRequestCredentialRetryEnabled || status.sameRequestCredentialRetryEnabled
  maxSameRequestRetries := max summary.maxSameRequestRetries status.maxSameRequestRetries
  candidateLimit := summary.candidateLimit

/-- The settings of all candidates' channels together. -/
def routingPreviewPolicySummary (channelStatuses : TreeMap String RoutingPreviewChannelStatus)
    (candidates : List RoutePreviewCandidate) (candidateLimit : Nat) :
    RoutingPreviewPolicySummary :=
  candidates.foldl (fun summary candidate =>
    match channelStatuses[candidate.channelId]? with
    | some status => summary.addStatus status
    | none => summary) ⟨false, false, 0, candidateLimit⟩

/-- A candidate with the status of its channel. -/
def routingPreviewCandidateStatus (candidate : RoutePreviewCandidate)
    (status : RoutingPreviewChannelStatus) : RoutingPreviewCandidateStatus where
  targetIndex := candidate.targetIndex
  channelId := candidate.channelId
  upstreamModel := candidate.upstreamModel
  providerKind := candidate.providerKind
  endpointCapabilities := status.endpointCapabilities
  priority := candidate.priority
  weight := candidate.weight
  targetEnabled := candidate.targetEnabled
  included := candidate.included
  selected := candidate.selected
  planPosition := candidate.planPosition
  reasons := candidate.reasons.map (·.asStr)
  health := status.health
  credentialSetId := status.credentialSetId
  selectorGeneration := status.selectorGeneration
  credentials := status.credentials

/-- The candidates in their order. -/
def routingPreviewCandidateStatuses
    (channelStatuses : TreeMap String RoutingPreviewChannelStatus)
    (candidates : List RoutePreviewCandidate) : List RoutingPreviewCandidateStatus :=
  candidates.map fun candidate =>
    routingPreviewCandidateStatus candidate
      (channelStatuses[candidate.channelId]?.getD .unknownChannel)

/-! ## §3. The preview of a model. -/

/-- `no_route_admission_summary`: the preview without a route. -/
def noRouteInput (requestId : String) (registryGeneration : Nat) (model : String)
    (candidateLimit : Nat) : RoutePreviewInput where
  requestId := requestId
  registryGeneration := registryGeneration
  publicModel := some model
  route := none
  channelStates := fun _ => none
  allowedChannels := []
  candidateLimit := candidateLimit

section Preview

variable (maxRouteCandidates : Nat) (reads : PreviewReads) (model : String)

/-- The id that a preview plans with, in the place of a request's. -/
def previewRequestId (client : ResolvedClientToken) : String :=
  "preview:" ++ model ++ ":" ++ client.id

/-- The answer when nothing is planned. -/
def unroutedPreviewResponse (client : ResolvedClientToken) (routeKind : String)
    (registryGeneration : Nat) : RoutingPreviewResponse :=
  let summary := routeAdmissionSummary (previewRoute
    (noRouteInput (previewRequestId model client) registryGeneration model maxRouteCandidates))
  { requestId := previewRequestId model client
    model := model
    routeKind := routeKind
    registryGeneration := registryGeneration
    candidateLimit := maxRouteCandidates
    policySummary := ⟨false, false, 0, maxRouteCandidates⟩
    clientToken := routingPreviewClientStatus client
    admissionSummary := .fromRouteSummary summary
    selectedTarget := routingPreviewSelectedTargetFromRouteSummary summary.selectedTarget
    candidates := [] }

/-- What `preview_route` is asked. -/
def previewInput (client : ResolvedClientToken) (routeContext : ChannelRoutePlanContext)
    (route : ModelRoute) : RoutePreviewInput where
  requestId := previewRequestId model client
  registryGeneration := routeContext.registryGeneration
  publicModel := some model
  route := some route
  channelStates := routeContextChannelStates routeContext
  allowedChannels := client.allowedChannels
  candidateLimit := maxRouteCandidates

/-- The answer for a route. -/
def routedPreviewResponse (client : ResolvedClientToken) (routeKind : String)
    (routeContext : ChannelRoutePlanContext) (route : ModelRoute) : RoutingPreviewResponse :=
  let preview := previewRoute (previewInput maxRouteCandidates model client routeContext route)
  let channelStatuses := routingPreviewChannelStatusesForCandidates reads
    preview.registryGeneration preview.candidates
  let summary := routeAdmissionSummary preview
  { requestId := previewRequestId model client
    model := model
    routeKind := routeKind
    registryGeneration := preview.registryGeneration
    candidateLimit := preview.candidateLimit
    policySummary := routingPreviewPolicySummary channelStatuses preview.candidates
      preview.candidateLimit
    clientToken := routingPreviewClientStatus client
    admissionSummary := .fromRouteSummary summary
    selectedTarget := routingPreviewSelectedTargetFromRouteSummary summary.selectedTarget
    candidates := routingPreviewCandidateStatuses channelStatuses preview.candidates }

def routingPreviewForModel (clientTokenRef : Option String) :
    Except ManagementServiceError RoutingPreviewResponse := do
  let client ← routingPreviewClient reads.clientTokens clientTokenRef
  let routeContext := reads.planRegistry.routePlanContext reads.observation (some model)
  if !client.allowedModelGroups.isEmpty
      && !reads.catalogs.clientModelAllowed client.allowedModelGroups model then
    return unroutedPreviewResponse maxRouteCandidates model client "client_model_denied"
      routeContext.registryGeneration
  else
    let previewRoute ← routingPreviewRoute routeContext model
    match previewRoute.route with
    | none =>
        return unroutedPreviewResponse maxRouteCandidates model client previewRoute.routeKind
          routeContext.registryGeneration
    | some route =>
        return routedPreviewResponse maxRouteCandidates reads model client previewRoute.routeKind
          routeContext route

end Preview

end OneAiKey
