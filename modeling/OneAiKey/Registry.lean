/-
  OneAiKey.Registry — the channel registry and the catalogs of a runtime
  (`ChannelRegistry` and `RuntimeCatalogs` of `src/state.rs`).

  Both are a lock around one snapshot, and a reader works on a copy of it.  A
  channel of a snapshot is a reference, so its health and its pool go on changing;
  a copy sees the changes.  Here a read takes the snapshot as it is at the read.

  The catalog of public models is a component of its own, and the views of the
  management interface are not read by a proxied request; of the management
  projection a snapshot keeps the entries that it is computed from.
-/
import OneAiKey.ChannelHealth
import OneAiKey.Resolve

namespace OneAiKey

open Std

/-! ## §1. The snapshots. -/

/-- A channel with all that a request reads of it. -/
structure RegistryChannel extends ChannelRuntime where
  probeResultPolicy : ProbeResultPolicy
  errorClassifier : ErrorClassifier
  deriving DecidableEq, Repr

structure ChannelRegistrySnapshot where
  registryGeneration : Nat
  defaultChannel : Option String
  modelRoutes : IdMap ModelRoute
  /-- For an upstream model, the channels that some route maps to it. -/
  claimedUpstreamModels : String → List String
  failureDomains : FailureDomainRegistry
  channels : TreeMap String RegistryChannel
  /-- What the references of the channels to their pools lead to. -/
  credentialSetRuntimes : TreeMap CredentialSetId KeyPool

structure RuntimeCatalogSnapshot where
  registryGeneration : Nat
  policyProfiles : IdMap ResolvedPolicyProfile
  routingProfiles : IdMap ResolvedRoutingProfile
  modelGroups : IdMap (List String)
  /-- The channels that the management projection is computed from. -/
  managementProjection : List (String × FullPoolConfig)

/-- `claimed_upstream_models_by_channel`, looked up. -/
def claimedUpstreamModelsByChannel (modelRoutes : IdMap ModelRoute) (upstreamModel : String) :
    List String :=
  let claims := (IdMap.sortedEntries modelRoutes).flatMap fun entry =>
    (entry.2.targets.filter fun target =>
      target.enabled && target.upstreamModel == some upstreamModel).map (·.channelId)
  (claims.insertionSort (· ≤ ·)).dedup

def compileChannelRegistrySnapshot (registryGeneration : Nat) (defaultChannel : Option String)
    (modelRoutes : IdMap ModelRoute) (failureDomains : FailureDomainRegistry)
    (channels : TreeMap String RegistryChannel)
    (credentialSetRuntimes : TreeMap CredentialSetId KeyPool) : ChannelRegistrySnapshot where
  registryGeneration := registryGeneration
  defaultChannel := defaultChannel
  modelRoutes := modelRoutes
  claimedUpstreamModels := claimedUpstreamModelsByChannel modelRoutes
  failureDomains := failureDomains
  channels := channels
  credentialSetRuntimes := credentialSetRuntimes

/-- The models of each group, under the id that the group carries. -/
def modelGroupMemberships (modelGroups : IdMap ResolvedModelGroup) : IdMap (List String) :=
  (IdMap.sortedEntries modelGroups).foldl
    (fun memberships entry => memberships.insert entry.2.id entry.2.models) ∅

/-! ## §2. Reading the registry. -/

/-- How a read finds the channels: the clock readings of each route state, and the pools
whose lock is taken. -/
structure RouteObservation where
  readings : String → RouteReadings
  locked : String → Bool

namespace ChannelRegistrySnapshot

def get (snapshot : ChannelRegistrySnapshot) (channelId : String) : Option RegistryChannel :=
  snapshot.channels[channelId]?

/-- The state of a channel, if it is known. -/
def routeState (snapshot : ChannelRegistrySnapshot) (observation : RouteObservation)
    (channelId : String) : ChannelRouteState :=
  match snapshot.get channelId with
  | none => .unknownChannel
  | some channel =>
      routeStateForPool channel.toChannelRuntime
        (if observation.locked channelId then none
          else snapshot.credentialSetRuntimes[channel.poolState.pool]?)
        snapshot.failureDomains (observation.readings channelId)

/-- `route_channel_states_from_snapshot`. -/
def routeChannelStates (snapshot : ChannelRegistrySnapshot) (observation : RouteObservation)
    (route : ModelRoute) (channelId : ChannelId) : Option ChannelRouteState :=
  if (route.targets.map (·.channelId)).contains channelId then
    some (snapshot.routeState observation channelId)
  else none

end ChannelRegistrySnapshot

/-- A channel that is switched off claims no model. -/
def RegistryChannel.poolClaimsUpstreamModel (channel : RegistryChannel) : Bool :=
  channel.configuredEnabled && channel.accountEnabled && !channel.health.isDisabled

def claimedUpstreamChannelsFromSnapshot (snapshot : ChannelRegistrySnapshot)
    (requestedModel : String) : List String :=
  (snapshot.claimedUpstreamModels requestedModel).filter fun channelId =>
    (snapshot.get channelId).any (·.poolClaimsUpstreamModel)

def anyAllowedClaimedUpstreamChannel (claimedUpstreamChannels allowedChannels : List String) :
    Bool :=
  claimedUpstreamChannels.any fun channelId =>
    allowedChannels.isEmpty || allowedChannels.any (· == channelId)

/-- What the planning of a request reads, all of one snapshot. -/
structure ChannelRoutePlanContext where
  registryGeneration : Nat
  modelRoute : Option ModelRoute
  modelRouteChannelStates : ChannelId → Option ChannelRouteState
  claimedUpstreamChannels : List String
  defaultChannel : Option String
  defaultChannelProviderKind : Option ProviderKind
  defaultChannelRouteState : Option ChannelRouteState

namespace ChannelRegistrySnapshot

def routePlanContext (snapshot : ChannelRegistrySnapshot) (observation : RouteObservation)
    (model : Option String) : ChannelRoutePlanContext :=
  let modelRoute := model.bind fun model => snapshot.modelRoutes.lookup model
  { registryGeneration := snapshot.registryGeneration
    modelRoute := modelRoute
    modelRouteChannelStates := fun channelId =>
      modelRoute.bind fun route => snapshot.routeChannelStates observation route channelId
    claimedUpstreamChannels :=
      (model.map (claimedUpstreamChannelsFromSnapshot snapshot)).getD []
    defaultChannel := snapshot.defaultChannel
    defaultChannelProviderKind := snapshot.defaultChannel.bind fun channelId =>
      (snapshot.get channelId).map (·.poolState.providerKind)
    defaultChannelRouteState :=
      if modelRoute.isNone then snapshot.defaultChannel.map (snapshot.routeState observation)
      else none }

/-- The context of a channel that the client names. -/
def namedRoutePlanContext (snapshot : ChannelRegistrySnapshot) (observation : RouteObservation)
    (channelId : String) : Nat × ChannelRouteState :=
  (snapshot.registryGeneration, snapshot.routeState observation channelId)

def hasClaimedUpstreamModel (snapshot : ChannelRegistrySnapshot) (requestedModel : String)
    (allowedChannels : List String) : Bool :=
  anyAllowedClaimedUpstreamChannel (claimedUpstreamChannelsFromSnapshot snapshot requestedModel)
    allowedChannels

end ChannelRegistrySnapshot

def ChannelRoutePlanContext.hasClaimedUpstreamModel (context : ChannelRoutePlanContext)
    (allowedChannels : List String) : Bool :=
  anyAllowedClaimedUpstreamChannel context.claimedUpstreamChannels allowedChannels

/-! ## §3. Reading the catalogs. -/

/-- A token without groups may use every model; another names models or groups of them. -/
def RuntimeCatalogSnapshot.clientModelAllowed (snapshot : RuntimeCatalogSnapshot)
    (allowedModelGroups : List String) (model : String) : Bool :=
  allowedModelGroups.isEmpty ||
    allowedModelGroups.any fun allowed =>
      allowed == model ||
        (snapshot.modelGroups.lookup allowed).any fun models => models.any (· == model)

end OneAiKey
