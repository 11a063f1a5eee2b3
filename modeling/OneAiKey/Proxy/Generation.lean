/-
  OneAiKey.Proxy.Generation — a request while the runtime is reloaded.

  A reload replaces the registry of the channels, and then the catalogs.  A
  request reads the registry for its plan, the catalogs for the model scope, and
  the registry again when the work on a target begins; the replacements may fall
  between any two of these reads.  Nothing pins the generation of the plan.

  The runtime goes through a `Behavior`, and a request reads it at its own times.

  Main results:
    * `served_of_rebuild` — the rebuild is the two replacements in a row;
    * `request_generations` — what the reads of a request have in common;
    * `request_across_generations` — a plan of one generation that is carried out
      on a channel of the next.
-/
import OneAiKey.Proxy.RequestedModel
import OneAiKey.Upstream

namespace OneAiKey

open Collect (bind_eq_ok)

/-! ## §1. The runtime under reloads. -/

/-- What a reload replaces and a request reads. -/
structure ServedRuntime where
  channels : ChannelRegistrySnapshot
  runtimeCatalogs : RuntimeCatalogSnapshot
  registryGenerationCounter : Nat
  /-- The catalogs that a reload has still to install. -/
  installing : Option RuntimeCatalogSnapshot

/-- What the configuration fixes of a channel. -/
structure ChannelDefinition where
  poolState : PoolState
  errorClassifier : ErrorClassifier
  /-- What the reference of the channel leads to. -/
  keyPool : Option KeyPoolConfig
  deriving DecidableEq

def ChannelRegistrySnapshot.definition (snapshot : ChannelRegistrySnapshot)
    (channelId : String) : Option ChannelDefinition :=
  (snapshot.get channelId).map fun channel =>
    ⟨channel.poolState, channel.errorClassifier,
      snapshot.credentialSetRuntimes[channel.poolState.pool]?.map (·.config)⟩

inductive RuntimeEvent where
  /-- The first replacement of a reload. -/
  | replaceChannels (config : FullResolvedConfig) (inputs : RebuildInputs)
  /-- The second one. -/
  | replaceCatalogs
  /-- The channels and their pools change state, another instance takes a generation. -/
  | other

def ServedRuntime.replaceChannels (s : ServedRuntime) (config : FullResolvedConfig)
    (inputs : RebuildInputs) (built : BuiltPools) : ServedRuntime where
  channels := compileChannelRegistrySnapshot (s.registryGenerationCounter + 1)
    config.defaultPool config.modelRoutes
    (FailureDomainRegistry.new
      (inputs.poolConfigs.map fun entry => (entry.2.providerId, entry.2.accountId)))
    built.pools built.credentialSetRuntimes
  runtimeCatalogs := s.runtimeCatalogs
  registryGenerationCounter := s.registryGenerationCounter + 1
  installing := some {
    registryGeneration := s.registryGenerationCounter + 1
    policyProfiles := config.policyProfiles
    routingProfiles := config.routingProfiles
    modelGroups := modelGroupMemberships config.modelGroups
    managementProjection := inputs.poolConfigs }

/-- What a step that replaces nothing keeps. -/
structure ServedRuntime.Other (s s' : ServedRuntime) : Prop where
  generation : s'.channels.registryGeneration = s.channels.registryGeneration
  definition : s'.channels.definition = s.channels.definition
  runtimeCatalogs : s'.runtimeCatalogs = s.runtimeCatalogs
  counter : s.registryGenerationCounter ≤ s'.registryGenerationCounter
  installing : s'.installing = s.installing

/-- The lock of the registry mutations keeps two reloads apart. -/
def servedSystem : TransitionSystem ServedRuntime RuntimeEvent where
  Init s := s.installing = none ∧
    s.runtimeCatalogs.registryGeneration = s.channels.registryGeneration ∧
    s.channels.registryGeneration ≤ s.registryGenerationCounter
  Step s event s' :=
    match event with
    | .replaceChannels config inputs => s.installing = none ∧ inputs.Visits config ∧
        ∃ built, rebuiltChannels config inputs = .ok built ∧
          s' = s.replaceChannels config inputs built
    | .replaceCatalogs => ∃ catalogs, s.installing = some catalogs ∧
        s' = { s with runtimeCatalogs := catalogs, installing := none }
    | .other => s.Other s'

/-- The part of the state that is served from. -/
def AppState.served {ρ τ : Type} (s : AppState ρ τ) : ServedRuntime :=
  ⟨s.channels, s.runtimeCatalogs, s.registryGenerationCounter, none⟩

/-- The rebuild is the two replacements in a row. -/
theorem served_of_rebuild {ρ τ : Type} {config : FullResolvedConfig}
    {activeRegistryVersion : Option Nat} {inputs : RebuildInputs} {s s' : AppState ρ τ}
    (hvisits : inputs.Visits config)
    (h : rebuildRuntimeFromResolvedConfig config activeRegistryVersion inputs s = (.ok (), s')) :
    servedSystem.Run s.served [.replaceChannels config inputs, .replaceCatalogs] s'.served := by
  obtain ⟨built, hbuilt, rfl⟩ := eq_of_rebuild_ok h
  have hfirst : servedSystem.Step s.served (.replaceChannels config inputs)
      (s.served.replaceChannels config inputs built) := ⟨rfl, hvisits, built, hbuilt, rfl⟩
  exact .cons hfirst (.cons ⟨_, rfl, rfl⟩ (.nil _))

/-- The counter is ahead of the registry, and the catalogs of its generation are installed or
about to be. -/
structure ServedRuntime.Coherent (s : ServedRuntime) : Prop where
  counter : s.channels.registryGeneration ≤ s.registryGenerationCounter
  catalogs : (s.installing.getD s.runtimeCatalogs).registryGeneration =
    s.channels.registryGeneration

/-- Every event of the runtime leaves it coherent. -/
theorem ServedRuntime.Coherent.step {s s' : ServedRuntime} {event : RuntimeEvent}
    (h : s.Coherent) (hstep : servedSystem.Step s event s') : s'.Coherent := by
  cases event with
  | replaceChannels config inputs =>
      obtain ⟨-, -, built, -, rfl⟩ := hstep
      exact ⟨Nat.le_refl _, rfl⟩
  | replaceCatalogs =>
      obtain ⟨catalogs, hinstalling, rfl⟩ := hstep
      refine ⟨h.counter, ?_⟩
      have hcatalogs := h.catalogs
      rw [hinstalling] at hcatalogs
      exact hcatalogs
  | other =>
      have hother : s.Other s' := hstep
      constructor
      · rw [hother.generation]
        exact Nat.le_trans h.counter hother.counter
      · rw [hother.installing, hother.runtimeCatalogs, hother.generation]
        exact h.catalogs

/-- The runtime is coherent in every reachable state. -/
theorem ServedRuntime.coherent {s : ServedRuntime} (h : servedSystem.Reachable s) :
    s.Coherent := by
  refine h.invariant ?_ fun _ _ _ hs hstep => hs.step hstep
  intro s hinit
  obtain ⟨hnone, hgenerations, hcounter⟩ := hinit
  refine ⟨hcounter, ?_⟩
  rw [hnone]
  exact hgenerations

/-- No step takes the registry back to an older generation. -/
theorem registryGeneration_le_of_step {s s' : ServedRuntime} {event : RuntimeEvent}
    (h : s.Coherent) (hstep : servedSystem.Step s event s') :
    s.channels.registryGeneration ≤ s'.channels.registryGeneration := by
  cases event with
  | replaceChannels config inputs =>
      obtain ⟨-, -, built, -, rfl⟩ := hstep
      exact Nat.le_succ_of_le h.counter
  | replaceCatalogs =>
      obtain ⟨catalogs, -, rfl⟩ := hstep
      exact Nat.le_refl _
  | other =>
      have hother : s.Other s' := hstep
      exact Nat.le_of_eq hother.generation.symm

/-! ## §2. A request among the steps. -/

/-- When a request makes its reads: for the plan, for the adapter and the claimed models of a
named channel, for the model scope, and for the channel of each target. -/
structure ReadTimes where
  plan : Nat
  adapter : Nat
  claims : Nat
  scope : Nat
  lookup : Nat → Nat
  plan_le : plan ≤ adapter
  adapter_le : adapter ≤ claims
  claims_le : claims ≤ scope
  scope_le : scope ≤ lookup 0
  lookup_mono : Monotone lookup

theorem ReadTimes.plan_le_scope (times : ReadTimes) : times.plan ≤ times.scope :=
  Nat.le_trans times.plan_le (Nat.le_trans times.adapter_le times.claims_le)

theorem ReadTimes.plan_le_lookup (times : ReadTimes) (k : Nat) : times.plan ≤ times.lookup k :=
  Nat.le_trans times.plan_le_scope
    (Nat.le_trans times.scope_le (times.lookup_mono (Nat.zero_le k)))

/-- A classifier as the forwarding uses it: the channel's, at some time of the clock. -/
def FailureClassifier.Of (environment : ClassifierEnvironment) (errorClassifier : ErrorClassifier)
    (classifier : FailureClassifier) : Prop :=
  ∀ status headers body, ∃ now, classifier.classifyFailure status headers body =
    errorClassifier.classifyFailure environment now status headers body

/-- What a target meets is what the registry has under its name. -/
def FindsChannel (environment : ClassifierEnvironment) (registry : ChannelRegistrySnapshot)
    (channelId : String) (target : TargetWorld) : Prop :=
  match registry.get channelId with
  | none => target.channel = none
  | some channel => ∃ classifier pool,
      target.channel = some (channel.poolState, classifier) ∧
      classifier.Of environment channel.errorClassifier ∧
      registry.credentialSetRuntimes[channel.poolState.pool]? = some pool ∧
      ∀ n, (target.turn n).pool.config = pool.config

/-- The reads of a request with this plan are made at these times. -/
structure ProxyReads.At (environment : ClassifierEnvironment) (b : servedSystem.Behavior)
    (times : ReadTimes) (routePlan : FrozenRoutePlan) (reads : ProxyReads) : Prop where
  planRegistry : reads.planRegistry = (b.state times.plan).channels
  adapterRegistry : reads.adapterRegistry = (b.state times.adapter).channels
  claimRegistry : reads.claimRegistry = (b.state times.claims).channels
  catalogs : reads.catalogs = (b.state times.scope).runtimeCatalogs
  target : ∀ k target, routePlan.targets[k]? = some target →
    FindsChannel environment (b.state (times.lookup k)).channels target.channelId (reads.target k)

/-- The plan of a request that gets one. -/
def ProxyEntry.frozenPlan (environment : ProxyEnvironment) (reads : ProxyReads)
    (request : InboundRequest) : ProxyEntry → Option FrozenRoutePlan
  | openaiCompatible =>
      (openaiForwardRequest environment reads request).toOption.map (·.routePlan)
  | namedPool poolName _ => some (namedRoutePlan reads poolName)

/-- A target of a plan as the registry has it: a target of the public model's route under its
index, or else the channel of all other requests or the one that is named. -/
def PlannedFrom (registry : ChannelRegistrySnapshot) (entry : ProxyEntry)
    (publicModel : Option String) (target : ForwardTarget) : Prop :=
  (∃ model route i configured, entry = .openaiCompatible ∧ publicModel = some model ∧
    registry.modelRoutes.lookup model = some route ∧ route.targets[i]? = some configured ∧
    target.routeTargetIndex = some i ∧ target.channelId = configured.channelId ∧
    target.upstreamModel = configured.upstreamModel) ∨
  (target.routeTargetIndex = none ∧ target.upstreamModel = none ∧
    ((entry = .openaiCompatible ∧ registry.defaultChannel = some target.channelId) ∨
      ∃ tail, entry = .namedPool target.channelId tail))

/-- The plan is made of what one registry has. -/
structure FrozenRoutePlan.FrozenFrom (registry : ChannelRegistrySnapshot) (entry : ProxyEntry)
    (routePlan : FrozenRoutePlan) : Prop where
  generation : routePlan.registryGeneration = registry.registryGeneration
  target : ∀ target ∈ routePlan.targets, PlannedFrom registry entry routePlan.publicModel target

/-- If the event is a send, it asks for the public model of the plan, and these catalogs let the
client have the model that it asks for. -/
def ForwardEvent.AllowedBy (catalogs : RuntimeCatalogSnapshot) (client : AuthorizedClient)
    (publicModel : Option String) : ForwardEvent → Prop
  | sent snapshot _ _ => (publicModel = none ∨ snapshot.requestedModel = publicModel) ∧
      ∀ model, snapshot.requestedModel = some model →
        catalogs.clientModelAllowed client.allowedModelGroups model = true
  | _ => True

/-- What the channel of a target gets names the upstream model of the target, if it has one. -/
def PreparedFor (environment : ProxyEnvironment) (providerKind : ProviderKind)
    (upstreamModel : Option String) (path : String) (body : Bytes) : Prop :=
  upstreamModel = none ∨ ∃ method inboundPath inboundBody,
    providerKind.transformRequestForTarget environment.codec method inboundPath inboundBody
      upstreamModel = ⟨path, body⟩

/-- If the event is a send, it was made for the target with this definition of its channel. -/
def ForwardEvent.UsesDefinition (environment : ProxyEnvironment) (target : ForwardTarget)
    (definition : ChannelDefinition) : ForwardEvent → Prop
  | sent snapshot upstream body => ∃ keyPool selected path query,
      definition.keyPool = some keyPool ∧ selected.apiBase = keyPool.apiBase ∧
      upstream = forwardUpstreamRequest definition.poolState selected path query ∧
      PreparedFor environment definition.poolState.providerKind target.upstreamModel path body ∧
      snapshot.channelId = target.channelId ∧
      snapshot.configGeneration = definition.poolState.configGeneration ∧
      snapshot.providerId = definition.poolState.providerId ∧
      snapshot.accountId = definition.poolState.accountId ∧
      snapshot.providerKind = definition.poolState.providerKind
  | _ => True

/-- Nothing is replaced from one time to the other. -/
def QuietBetween (b : servedSystem.Behavior) (i j : Nat) : Prop :=
  ∀ n, i ≤ n → n < j → b.label n = .other

/-! ## §3. What is sent. -/

/-- A selected key has the address of the pool that it was selected from. -/
theorem apiBase_selectForTurn {turn : TurnWorld} {routeState : ChannelRouteState}
    {retryCredentialId : Option CredentialId} {pool : KeyPool} {selected : SelectedKey}
    (h : selectForTurn turn routeState retryCredentialId = (pool, .ok selected)) :
    selected.apiBase = turn.pool.config.apiBase := by
  have hout := congrArg Prod.snd h
  unfold selectForTurn at hout
  split at hout
  · exact KeyPool.apiBase_selectCredentialById hout
  · split at hout
    · exact KeyPool.apiBase_selectCoolingDownLastResort hout
    · exact KeyPool.apiBase_select hout

/-- A send on the channel of a target, with a key of what the target met. -/
def SentOnTarget (environment : ProxyEnvironment) (target : ForwardTarget) (met : TargetWorld)
    (poolState : PoolState) : ForwardEvent → Prop
  | .sent snapshot upstream body => ∃ selected path query n,
      selected.apiBase = (met.turn n).pool.config.apiBase ∧
      upstream = forwardUpstreamRequest poolState selected path query ∧
      PreparedFor environment poolState.providerKind target.upstreamModel path body ∧
      snapshot.channelId = target.channelId ∧
      snapshot.configGeneration = poolState.configGeneration ∧
      snapshot.providerId = poolState.providerId ∧
      snapshot.accountId = poolState.accountId ∧
      snapshot.providerKind = poolState.providerKind
  | _ => True

/-- Each send of a plan is made for one of its targets, on the channel that was met. -/
def SentByPlan (environment : ProxyEnvironment) (reads : ProxyReads)
    (routePlan : FrozenRoutePlan) (event : ForwardEvent) : Prop :=
  event.isSend = true → ∃ (k : Nat) (target : ForwardTarget) (poolState : PoolState)
    (classifier : FailureClassifier), routePlan.targets[k]? = some target ∧
    (reads.target k).channel = some (poolState, classifier) ∧
    SentOnTarget environment target (reads.target k) poolState event

/-- The model that the adapter finds in a named request is checked. -/
theorem namedForwardRequest_allowsModel {environment : ProxyEnvironment} {reads : ProxyReads}
    {request : InboundRequest} {kind : ProviderKind} {client : AuthorizedClient}
    {poolName path : String} {routePlan : FrozenRoutePlan} {req : ForwardRequest}
    (h : namedForwardRequest environment reads request kind client poolName routePlan path =
      .ok req) {model : String} (hmodel : req.requestContext.requestedModel = some model) :
    client.AllowsModel reads.catalogs (some model) := by
  unfold namedForwardRequest at h
  obtain ⟨body, -, h⟩ := bind_eq_ok.mp h
  obtain ⟨done, hchecked, h⟩ := bind_eq_ok.mp h
  obtain ⟨deadline, -, h⟩ := bind_eq_ok.mp h
  rw [← Except.ok.inj h] at hmodel
  have hfound : (kind.requestContext environment.codec request.method path body).requestedModel =
      some model := hmodel
  rw [hfound] at hchecked
  exact checkNamedModel_eq_ok hchecked

theorem ok_of_toOption {ε α : Type} {x : Except ε α} {a : α} (h : x.toOption = some a) :
    x = .ok a := by
  cases x with
  | error err => cases h
  | ok found => rw [Option.some.inj h]

section Sent

variable {environment : ProxyEnvironment} {reads : ProxyReads} {request : InboundRequest}

/-- What an admitted request sends goes to the targets of its plan. -/
theorem forwardAdmitted_sentByPlan {fuel : Nat} {req : ForwardRequest} :
    ∀ event ∈ (forwardAdmitted environment reads fuel (.ok req)).1,
      SentByPlan environment reads req.routePlan event := by
  intro event hmem hsend
  obtain ⟨k, target, poolState, classifier, htarget, hchannel, n, hsent⟩ :=
    forwardWithPools_sentTo event hmem hsend
  rw [Nat.zero_add] at hchannel hsent
  refine ⟨k, target, poolState, classifier, htarget, hchannel, ?_⟩
  cases event with
  | directed directive => trivial
  | skipped channelId => trivial
  | sent snapshot upstream body =>
      obtain ⟨available, routeState, retried, pool, selected, candidates, attempt, hselected,
        rfl, hupstream, hbody⟩ := hsent
      exact ⟨selected, _, _, n, apiBase_selectForTurn hselected, hupstream,
        .inr ⟨req.method, req.path, req.body, by rw [hbody]; rfl⟩, rfl, rfl, rfl, rfl, rfl⟩

/-- A request whose body is streamed sends to the targets of its plan too. -/
theorem forwardStreamingNamedPool_sentByPlan {req : StreamingForwardRequest}
    (hmodel : ∀ target ∈ req.routePlan.targets, target.upstreamModel = none) :
    ∀ event ∈ (forwardStreamingNamedPool environment reads req).1,
      SentByPlan environment reads req.routePlan event := by
  have hnone : ∀ event ∈ ([] : List ForwardEvent), SentByPlan environment reads req.routePlan event :=
    fun event hmem => absurd hmem List.not_mem_nil
  unfold forwardStreamingNamedPool
  split
  · exact hnone
  · next target targets htargets =>
      split
      · exact hnone
      · next poolState classifier hchannel =>
          split
          · exact hnone
          · unfold streamingAttempt
            dsimp only
            split
            · exact hnone
            · split
              · exact hnone
              · exact hnone
              · next hselected =>
                  intro event hmem _
                  rw [List.mem_singleton.mp hmem]
                  -- the target of a named plan has no upstream model
                  have hnone : target.upstreamModel = none :=
                    hmodel target (by rw [htargets]; exact List.mem_cons_self)
                  refine ⟨0, target, poolState, classifier, by rw [htargets]; rfl, hchannel, ?_⟩
                  exact ⟨_, _, _, 0, apiBase_selectForTurn hselected, rfl, .inl hnone, rfl, rfl,
                    rfl, rfl, rfl⟩

theorem routePlan_of_namedForwardRequest {kind : ProviderKind} {client : AuthorizedClient}
    {poolName path : String} {routePlan : FrozenRoutePlan} {req : ForwardRequest}
    (h : namedForwardRequest environment reads request kind client poolName routePlan path =
      .ok req) : req.routePlan = routePlan := by
  unfold namedForwardRequest at h
  obtain ⟨body, -, h⟩ := bind_eq_ok.mp h
  obtain ⟨done, -, h⟩ := bind_eq_ok.mp h
  obtain ⟨deadline, -, h⟩ := bind_eq_ok.mp h
  rw [← Except.ok.inj h]

/-- Whatever the handler, a send belongs to the frozen plan of the request. -/
theorem ProxyEntry.run_sentByPlan {entry : ProxyEntry} {fuel : Nat}
    {routePlan : FrozenRoutePlan} (hplan : entry.frozenPlan environment reads request =
      some routePlan) :
    ∀ event ∈ (entry.run environment reads request fuel).1,
      SentByPlan environment reads routePlan event := by
  cases entry with
  | openaiCompatible =>
      obtain ⟨req, hreq, rfl⟩ := Option.map_eq_some_iff.mp hplan
      have hadmitted := ok_of_toOption hreq
      show ∀ event ∈ (forwardAdmitted environment reads fuel
        (openaiForwardRequest environment reads request)).1, _
      rw [hadmitted]
      exact forwardAdmitted_sentByPlan
  | namedPool poolName tail =>
      show ∀ event ∈ (proxyNamedPool environment reads request poolName tail fuel).1, _
      unfold proxyNamedPool
      dsimp only
      split
      · intro event hmem
        cases hmem
      · next client found kind hadmission =>
          obtain ⟨channel, hadmitted, hfound, hkind⟩ := namedAdmission_eq_ok.mp hadmission
          have hsame : found = routePlan := hfound.trans (Option.some.inj hplan)
          -- the plan is frozen before the kind of the provider says how to send
          split
          · cases hreq : namedForwardRequest environment reads request kind client poolName found
                ("/" ++ tail) with
            | error proxyEnd =>
                intro event hmem
                cases hmem
            | ok req =>
                have hreqPlan : req.routePlan = found := routePlan_of_namedForwardRequest hreq
                rw [← hsame, ← hreqPlan]
                exact forwardAdmitted_sentByPlan
          · rw [← hsame]
            refine forwardStreamingNamedPool_sentByPlan fun target hmem => ?_
            have htargets : target ∈ (namedRoutePlan reads poolName).targets := by
              rw [← hfound]
              exact hmem
            rw [List.mem_singleton.mp htargets]

end Sent

/-! ## §4. The plan and the scope. -/

/-- A plan carries the generation and the model that it was made for. -/
theorem plan_labels_of_planRoute {input : RoutePlanInput} {plan : RoutePlan}
    (h : planRoute input = .ok plan) : plan.registryGeneration = input.registryGeneration ∧
      plan.publicModel = input.publicModel := by
  unfold planRoute at h
  split at h
  · cases h
  · dsimp only at h
    split at h
    · cases h
    · rw [← Except.ok.inj h]
      show (previewRoute input).registryGeneration = input.registryGeneration ∧
        (previewRoute input).publicModel = input.publicModel
      unfold previewRoute
      split
      · exact ⟨rfl, rfl⟩
      · exact ⟨rfl, rfl⟩

/-- The plan of a request comes from one snapshot of the registry. -/
theorem frozenFrom_of_routePlanForOpenaiRequest {registry : ChannelRegistrySnapshot}
    {observation : RouteObservation} {maxRouteCandidates : Nat} {requestId : String}
    {model : Option String} {allowedChannels : List String} {routePlan : FrozenRoutePlan}
    (h : routePlanForOpenaiRequest maxRouteCandidates requestId model allowedChannels
      (registry.routePlanContext observation model) = .ok routePlan) :
    routePlan.FrozenFrom registry .openaiCompatible ∧
      (routePlan.publicModel = none ∨ routePlan.publicModel = model) := by
  unfold routePlanForOpenaiRequest at h
  -- a route plans its targets, a request without one goes to the default channel
  split at h
  · next route hroute =>
      dsimp only at h
      split at h
      · next plan hplan =>
          rw [← Except.ok.inj h]
          obtain ⟨hgeneration, hpublic⟩ := plan_labels_of_planRoute hplan
          have hpublic' : plan.publicModel = model := hpublic
          refine ⟨⟨hgeneration, ?_⟩, .inr hpublic'⟩
          intro target htarget
          obtain ⟨candidate, hcandidate, rfl⟩ := List.mem_map.mp htarget
          obtain ⟨configured, hconfigured, heq, -⟩ := target_of_planRoute rfl hplan hcandidate
          -- the route was looked up in the registry under the requested model
          obtain ⟨name, hname, hlookup⟩ := Option.bind_eq_some_iff.mp hroute
          refine .inl ⟨name, route, candidate.targetIndex, configured, rfl, hpublic'.trans hname,
            hlookup, hconfigured, rfl, ?_, ?_⟩
          · exact congrArg RouteCandidate.channelId heq
          · exact congrArg RouteCandidate.upstreamModel heq
      · -- a route without targets: only the empty plan is no error
        split at h
        · cases h
        · split at h
          · cases h
          · rw [← Except.ok.inj h]
            exact ⟨⟨rfl, fun target htarget => absurd htarget List.not_mem_nil⟩, .inr rfl⟩
  · split at h
    · cases h
    · next poolName hdefault =>
        split at h
        · cases h
        · dsimp only at h
          split at h
          · cases h
          · rw [← Except.ok.inj h]
            refine ⟨⟨rfl, fun target htarget => ?_⟩, .inl rfl⟩
            rw [List.mem_singleton.mp htarget]
            exact .inr ⟨rfl, rfl, .inl ⟨rfl, hdefault⟩⟩

section Admitted

variable {environment : ProxyEnvironment} {reads : ProxyReads} {request : InboundRequest}

/-- A routed request is forwarded by a plan of the snapshot that it read, for the model that it
asks for. -/
theorem frozenFrom_of_openaiForwardRequest {req : ForwardRequest}
    (h : openaiForwardRequest environment reads request = .ok req) :
    req.routePlan.FrozenFrom reads.planRegistry .openaiCompatible ∧
      (req.routePlan.publicModel = none ∨
        req.routePlan.publicModel = req.requestContext.requestedModel) := by
  unfold openaiForwardRequest at h
  obtain ⟨client, -, h⟩ := bind_eq_ok.mp h
  obtain ⟨body, -, h⟩ := bind_eq_ok.mp h
  obtain ⟨routePlan, hplan, h⟩ := bind_eq_ok.mp h
  obtain ⟨done, -, h⟩ := bind_eq_ok.mp h
  obtain ⟨deadline, -, h⟩ := bind_eq_ok.mp h
  rw [← Except.ok.inj h]
  unfold routedPlan at hplan
  dsimp only at hplan
  split at hplan
  · cases hplan
  · split at hplan
    · cases hplan
    · next found hfound =>
        split at hplan
        · cases hplan
        · rw [← Except.ok.inj hplan]
          exact frozenFrom_of_routePlanForOpenaiRequest hfound

/-- A plan is made of the registry that it was made from. -/
theorem frozenFrom_of_frozenPlan {entry : ProxyEntry} {routePlan : FrozenRoutePlan}
    (h : entry.frozenPlan environment reads request = some routePlan) :
    routePlan.FrozenFrom reads.planRegistry entry := by
  cases entry with
  | openaiCompatible =>
      obtain ⟨req, hreq, rfl⟩ := Option.map_eq_some_iff.mp h
      exact (frozenFrom_of_openaiForwardRequest (ok_of_toOption hreq)).1
  | namedPool poolName tail =>
      rw [← Option.some.inj h]
      refine ⟨rfl, fun target htarget => ?_⟩
      rw [List.mem_singleton.mp htarget]
      exact .inr ⟨rfl, rfl, .inr ⟨tail, rfl⟩⟩

theorem clientModelAllowed_of_allowsModel {client : AuthorizedClient}
    {catalogs : RuntimeCatalogSnapshot} {model : String}
    (h : client.AllowsModel catalogs (some model)) :
    catalogs.clientModelAllowed client.allowedModelGroups model = true := by
  by_cases hgroups : client.allowedModelGroups = []
  · unfold RuntimeCatalogSnapshot.clientModelAllowed
    rw [hgroups]
    rfl
  · obtain ⟨found, hfound, hallowed⟩ := h hgroups
    rw [Option.some.inj hfound]
    exact hallowed

/-- The sends of a request carry the model that was read off it. -/
theorem forwardAdmitted_allowedBy {fuel : Nat} {req : ForwardRequest} {client : AuthorizedClient}
    {publicModel : Option String}
    (hpublic : publicModel = none ∨ publicModel = req.requestContext.requestedModel)
    (hallowed : ∀ model, req.requestContext.requestedModel = some model →
      client.AllowsModel reads.catalogs (some model)) :
    ∀ event ∈ (forwardAdmitted environment reads fuel (.ok req)).1,
      event.AllowedBy reads.catalogs client publicModel := by
  intro event hmem
  have hsentTo := forwardWithPools_sentTo event hmem
  cases event with
  | directed directive => trivial
  | skipped channelId => trivial
  | sent snapshot upstream body =>
      obtain ⟨k, target, poolState, classifier, -, -, hsent⟩ := hsentTo rfl
      obtain ⟨n, available, routeState, retried, pool, selected, candidates, attempt, -, rfl,
        -, -⟩ := hsent
      exact ⟨hpublic.imp id Eq.symm, fun model hmodel =>
        clientModelAllowed_of_allowsModel (hallowed model hmodel)⟩

/-- What an entry of the proxy sends is allowed to the client by the catalogs that it read. -/
theorem ProxyEntry.run_allowedBy {entry : ProxyEntry} {fuel : Nat} {routePlan : FrozenRoutePlan}
    (hplan : entry.frozenPlan environment reads request = some routePlan)
    {client : AuthorizedClient}
    (hclient : authorizeClient environment.hashToken reads.clientTokens request.authorization =
      some client) :
    ∀ event ∈ (entry.run environment reads request fuel).1,
      event.AllowedBy reads.catalogs client routePlan.publicModel := by
  -- the two paths admit a request in different ways
  cases entry with
  | openaiCompatible =>
      obtain ⟨req, hreq, rfl⟩ := Option.map_eq_some_iff.mp hplan
      have hadmitted := ok_of_toOption hreq
      obtain ⟨found, hfound, -, hmodel⟩ := openaiForwardRequest_inScope hadmitted
      rw [Option.some.inj (hfound.symm.trans hclient)] at hmodel
      show ∀ event ∈ (forwardAdmitted environment reads fuel
        (openaiForwardRequest environment reads request)).1, _
      rw [hadmitted]
      refine forwardAdmitted_allowedBy (frozenFrom_of_openaiForwardRequest hadmitted).2 ?_
      intro model hrequested
      rw [← hrequested]
      exact hmodel
  | namedPool poolName tail =>
      have hpublic : routePlan.publicModel = none := by
        rw [← Option.some.inj hplan]
        rfl
      show ∀ event ∈ (proxyNamedPool environment reads request poolName tail fuel).1, _
      unfold proxyNamedPool
      dsimp only
      split
      · intro event hmem
        cases hmem
      · next found plan kind hadmission =>
          obtain ⟨channel, hadmitted, rfl, -⟩ := namedAdmission_eq_ok.mp hadmission
          have hsame : found = client :=
            Option.some.inj (hadmitted.authorized.symm.trans hclient)
          cases kind with
          | openAiCompatible =>
              show ∀ event ∈ (forwardAdmitted environment reads fuel _).1, _
              cases hreq : namedForwardRequest environment reads request .openAiCompatible found
                  poolName (namedRoutePlan reads poolName) ("/" ++ tail) with
              | error proxyEnd =>
                  intro event hmem
                  cases hmem
              | ok req =>
                  refine forwardAdmitted_allowedBy (.inl hpublic) ?_
                  intro model hrequested
                  rw [← hsame]
                  exact namedForwardRequest_allowsModel hreq hrequested
          -- a channel of another kind is streamed to without a model
          | genericHttp =>
              intro event hmem
              obtain ⟨snapshot, upstream, body, rfl, -, hmodel, -⟩ :=
                forwardStreamingNamedPool_sent event hmem
              refine ⟨.inl hpublic, fun model hrequested => ?_⟩
              rw [hmodel] at hrequested
              cases hrequested

end Admitted

/-! ## §5. Across the reads. -/

/-- The registry only gets newer. -/
theorem registryGeneration_monotone (b : servedSystem.Behavior) {i j : Nat} (h : i ≤ j) :
    (b.state i).channels.registryGeneration ≤ (b.state j).channels.registryGeneration :=
  TransitionSystem.Behavior.monotone (fun _ hs => ServedRuntime.coherent hs)
    (fun _ _ _ hs hstep => registryGeneration_le_of_step hs hstep) b h

/-- While nothing is replaced, the registry keeps its generation and its definitions, and the
catalogs stay. -/
theorem same_of_quiet (b : servedSystem.Behavior) {i j : Nat} (h : i ≤ j)
    (hquiet : QuietBetween b i j) :
    (b.state j).channels.registryGeneration = (b.state i).channels.registryGeneration ∧
      (b.state j).channels.definition = (b.state i).channels.definition ∧
      (b.state j).runtimeCatalogs = (b.state i).runtimeCatalogs := by
  have hother : ∀ s e s', servedSystem.Step s e s' → e = RuntimeEvent.other → s.Other s' := by
    intro s e s' hstep hevent
    rw [hevent] at hstep
    exact hstep
  refine ⟨?_, ?_, ?_⟩
  · exact TransitionSystem.Behavior.constant
      (f := fun s => s.channels.registryGeneration)
      (fun s e s' hstep hevent => (hother s e s' hstep hevent).generation) b h hquiet
  · exact TransitionSystem.Behavior.constant (f := fun s => s.channels.definition)
      (fun s e s' hstep hevent => (hother s e s' hstep hevent).definition) b h hquiet
  · exact TransitionSystem.Behavior.constant (f := fun s => s.runtimeCatalogs)
      (fun s e s' hstep hevent => (hother s e s' hstep hevent).runtimeCatalogs) b h hquiet

/-- What a target met is a definition of the registry that was read. -/
theorem definition_of_findsChannel {classifiers : ClassifierEnvironment}
    {registry : ChannelRegistrySnapshot} {channelId : String} {met : TargetWorld}
    {poolState : PoolState} {classifier : FailureClassifier}
    (h : FindsChannel classifiers registry channelId met)
    (hchannel : met.channel = some (poolState, classifier)) :
    ∃ definition keyPool, registry.definition channelId = some definition ∧
      definition.poolState = poolState ∧ definition.keyPool = some keyPool ∧
      classifier.Of classifiers definition.errorClassifier ∧
      ∀ n, (met.turn n).pool.config = keyPool := by
  unfold FindsChannel at h
  unfold ChannelRegistrySnapshot.definition
  cases hget : registry.get channelId with
  | none =>
      rw [hget] at h
      rw [show met.channel = none from h] at hchannel
      cases hchannel
  | some channel =>
      rw [hget] at h
      obtain ⟨found, pool, hmet, hof, hpool, hconfig⟩ := h
      obtain ⟨rfl, rfl⟩ := Prod.mk.inj (Option.some.inj (hmet.symm.trans hchannel))
      refine ⟨_, pool.config, rfl, rfl, ?_, hof, hconfig⟩
      show registry.credentialSetRuntimes[channel.poolState.pool]?.map (·.config) = _
      rw [hpool]
      rfl

/-- A request sent on a target uses the definition that the turn looked up. -/
theorem ForwardEvent.UsesDefinition.of_sentOnTarget {environment : ProxyEnvironment}
    {target : ForwardTarget} {met : TargetWorld} {definition : ChannelDefinition}
    {keyPool : KeyPoolConfig} {event : ForwardEvent}
    (hkeyPool : definition.keyPool = some keyPool)
    (hmet : ∀ n, (met.turn n).pool.config = keyPool)
    (h : SentOnTarget environment target met definition.poolState event) :
    event.UsesDefinition environment target definition := by
  cases event with
  | sent snapshot upstream body =>
      obtain ⟨selected, path, query, n, hbase, hrest⟩ := h
      rw [hmet n] at hbase
      exact ⟨keyPool, selected, path, query, hkeyPool, hbase, hrest⟩
  | directed directive => trivial
  | skipped channelId => trivial

/-- The plan of a request, with its targets and their upstream models, is made of one registry.
Each send is made for a target of the plan with the one definition that the registry had of its
channel when the work on the target began, in no older generation; and if nothing was replaced in
between, in the same one.  A model that is asked for is one that the client may have by the
catalogs installed when the scope is checked, and these are of the plan's generation, if nothing
was replaced since. -/
theorem request_generations (b : servedSystem.Behavior) (times : ReadTimes)
    (environment : ProxyEnvironment) (classifiers : ClassifierEnvironment) (reads : ProxyReads)
    (request : InboundRequest) (entry : ProxyEntry) (fuel : Nat) (routePlan : FrozenRoutePlan)
    (hplan : entry.frozenPlan environment reads request = some routePlan)
    (hreads : reads.At classifiers b times routePlan) :
    routePlan.FrozenFrom (b.state times.plan).channels entry ∧
    (∀ event ∈ (entry.run environment reads request fuel).1, event.isSend = true →
      ∃ (k : Nat) (target : ForwardTarget) (definition : ChannelDefinition)
        (classifier : FailureClassifier),
        routePlan.targets[k]? = some target ∧
        (b.state (times.lookup k)).channels.definition target.channelId = some definition ∧
        (reads.target k).channel = some (definition.poolState, classifier) ∧
        classifier.Of classifiers definition.errorClassifier ∧
        event.UsesDefinition environment target definition ∧
        routePlan.registryGeneration ≤
          (b.state (times.lookup k)).channels.registryGeneration ∧
        (QuietBetween b times.plan (times.lookup k) →
          (b.state (times.lookup k)).channels.registryGeneration =
            routePlan.registryGeneration ∧
          (b.state times.plan).channels.definition target.channelId = some definition)) ∧
    (∀ client, authorizeClient environment.hashToken reads.clientTokens request.authorization =
        some client →
      ∀ event ∈ (entry.run environment reads request fuel).1,
        event.AllowedBy (b.state times.scope).runtimeCatalogs client routePlan.publicModel) ∧
    ((b.state times.plan).installing = none → QuietBetween b times.plan times.scope →
      (b.state times.scope).runtimeCatalogs = (b.state times.plan).runtimeCatalogs ∧
      (b.state times.scope).runtimeCatalogs.registryGeneration =
        routePlan.registryGeneration) := by
  have hfrozen : routePlan.FrozenFrom (b.state times.plan).channels entry := by
    rw [← hreads.planRegistry]
    exact frozenFrom_of_frozenPlan hplan
  refine ⟨hfrozen, ?_, ?_, ?_⟩
  · intro event hmem hsend
    obtain ⟨k, target, poolState, classifier, htarget, hchannel, hsent⟩ :=
      ProxyEntry.run_sentByPlan hplan event hmem hsend
    obtain ⟨definition, keyPool, hdefinition, rfl, hkeyPool, hof, hmet⟩ :=
      definition_of_findsChannel (hreads.target k target htarget) hchannel
    refine ⟨k, target, definition, classifier, htarget, hdefinition, hchannel, hof,
      .of_sentOnTarget hkeyPool hmet hsent, ?_, ?_⟩
    · rw [hfrozen.generation]
      exact registryGeneration_monotone b (times.plan_le_lookup k)
    · intro hquiet
      -- with no installation in between the definitions are those of the plan
      obtain ⟨hsame, hdefinitions, -⟩ := same_of_quiet b (times.plan_le_lookup k) hquiet
      refine ⟨hsame.trans hfrozen.generation.symm, ?_⟩
      rw [← hdefinitions]
      exact hdefinition
  · intro client hclient
    rw [← hreads.catalogs]
    exact ProxyEntry.run_allowedBy hplan hclient
  · intro hnone hquiet
    have hcatalogs := (ServedRuntime.coherent (b.reachable times.plan)).catalogs
    rw [hnone] at hcatalogs
    have hsame := (same_of_quiet b times.plan_le_scope hquiet).2.2
    refine ⟨hsame, ?_⟩
    rw [hsame, hfrozen.generation]
    exact hcatalogs

/-! ## §6. A reload between the plan and the send. -/

/-- The channel with another header for the key. -/
def movedChannel : FullPoolConfig :=
  { chatChannel with configGeneration := 2, authHeader := "x-api-key", authPrefix := "" }

/-- The configuration of the next generation, whose route has another upstream model. -/
def movedConfig : FullResolvedConfig :=
  { chatConfig none with
    pools := [⟨"chat", movedChannel⟩].toFinmap
    modelRoutes := [⟨"chat-model", ⟨"chat-model",
      [⟨"chat", .openAiCompatible, some "gpt-5", 0, 1, true⟩], .priority⟩⟩].toFinmap }

def movedInputs : RebuildInputs :=
  { unreadableInputs with poolConfigs := [("chat", movedChannel)] }

def movedBuilt : BuiltPools :=
  (rebuiltChannels movedConfig movedInputs).toOption.getD ⟨∅, ∅⟩

/-- The runtime before the reload. -/
def routedServed : ServedRuntime := ⟨routedRegistry, ⟨1, ∅, ∅, ∅, []⟩, 1, none⟩

/-- The runtime between the two replacements. -/
def halfMovedServed : ServedRuntime :=
  routedServed.replaceChannels movedConfig movedInputs movedBuilt

/-- The runtime after the reload. -/
def movedServed : ServedRuntime :=
  { halfMovedServed with
    runtimeCatalogs := halfMovedServed.installing.getD halfMovedServed.runtimeCatalogs
    installing := none }

/-- One reload, and nothing after it. -/
def reloadBehavior : servedSystem.Behavior where
  state
    | 0 => routedServed
    | 1 => halfMovedServed
    | _ => movedServed
  label
    | 0 => .replaceChannels movedConfig movedInputs
    | 1 => .replaceCatalogs
    | _ => .other
  init := ⟨rfl, rfl, Nat.le_refl _⟩
  step
    | 0 => ⟨rfl, .refl _, movedBuilt, rfl, rfl⟩
    | 1 => ⟨_, rfl, rfl⟩
    | _ + 2 => ⟨rfl, rfl, rfl, Nat.le_refl _, rfl⟩

/-- The plan is made before the reload, the rest of the request after it. -/
def acrossTimes : ReadTimes where
  plan := 0
  adapter := 2
  claims := 2
  scope := 2
  lookup _ := 2
  plan_le := Nat.zero_le _
  adapter_le := Nat.le_refl _
  claims_le := Nat.le_refl _
  scope_le := Nat.le_refl _
  lookup_mono _ _ _ := Nat.le_refl _

/-- The channel as the request meets it after the reload. -/
def movedTarget : TargetWorld where
  channel := some ((RegistryChannel.fromConfig movedChannel "keys").poolState,
    ⟨defaultErrorClassifierId, errorClassifierVersion,
      ErrorClassifier.default.classifyFailure plainEnvironment 0⟩)
  turn n := { (sendingTarget (RegistryChannel.fromConfig movedChannel "keys").poolState).turn n with
    pool := .ofConfig movedChannel.keyPool }

def acrossReads : ProxyReads where
  clientTokens := routedReads.clientTokens
  requestId := "r"
  planRegistry := routedRegistry
  observation := routedReads.observation
  adapterRegistry := movedServed.channels
  claimRegistry := movedServed.channels
  catalogs := movedServed.runtimeCatalogs
  now := 0
  target _ := movedTarget

/-- The plan of the first generation. -/
def routedFrozenPlan : FrozenRoutePlan :=
  ⟨"r", 1, some "chat-model", .modelMapping, [⟨some 0, "chat", some "gpt-4o", .available⟩]⟩

theorem acrossReads_at :
    acrossReads.At plainEnvironment reloadBehavior acrossTimes routedFrozenPlan where
  planRegistry := rfl
  adapterRegistry := rfl
  claimRegistry := rfl
  catalogs := rfl
  target k target htarget := by
    cases k with
    | zero =>
        rw [← Option.some.inj htarget]
        refine ⟨_, _, rfl, ?_, rfl, fun n => rfl⟩
        intro status headers body
        exact ⟨0, rfl⟩
    | succ k => cases htarget

theorem frozenPlan_acrossReads :
    ProxyEntry.openaiCompatible.frozenPlan routedEnvironment acrossReads chatModelRequest =
      some routedFrozenPlan := rfl

/-- The request is sent with the header of the second generation. -/
theorem exists_sent_acrossReads :
    ∃ snapshot upstream body, ForwardEvent.sent snapshot upstream body ∈
        (ProxyEntry.openaiCompatible.run routedEnvironment acrossReads chatModelRequest 1).1 ∧
      upstream.authHeader = "x-api-key" ∧ snapshot.channelId = "chat" :=
  ⟨_, _, _, List.mem_cons_self, rfl, rfl⟩

/-- The plan is of the registry before the reload; the request is sent with the definition that
the registry after it has of the channel. -/
theorem request_generations_across :
    routedFrozenPlan.FrozenFrom (reloadBehavior.state acrossTimes.plan).channels
        .openaiCompatible ∧
      ∃ event ∈ (ProxyEntry.openaiCompatible.run routedEnvironment acrossReads chatModelRequest
          1).1, event.isSend = true ∧
        ∃ target definition, routedFrozenPlan.targets[0]? = some target ∧
          movedServed.channels.definition target.channelId = some definition ∧
          event.UsesDefinition routedEnvironment target definition := by
  obtain ⟨hfrozen, hsends, -⟩ := request_generations reloadBehavior acrossTimes
    routedEnvironment plainEnvironment acrossReads chatModelRequest .openaiCompatible 1
    routedFrozenPlan frozenPlan_acrossReads acrossReads_at
  obtain ⟨snapshot, upstream, body, hmem, -, -⟩ := exists_sent_acrossReads
  refine ⟨hfrozen, _, hmem, rfl, ?_⟩
  obtain ⟨k, target, definition, classifier, htarget, hdefinition, -, -, huses, -⟩ :=
    hsends _ hmem rfl
  -- the plan has one target
  cases k with
  | zero => exact ⟨target, definition, htarget, hdefinition, huses⟩
  | succ k => cases htarget

/-- The plan is of the first generation and sends `gpt-4o`; the key goes out under the header
that the channel has in the second one, and no channel of the first has. -/
theorem request_across_generations :
    ProxyEntry.openaiCompatible.frozenPlan routedEnvironment acrossReads chatModelRequest =
        some routedFrozenPlan ∧
      acrossReads.At plainEnvironment reloadBehavior acrossTimes routedFrozenPlan ∧
      acrossReads.catalogs.registryGeneration ≠ routedFrozenPlan.registryGeneration ∧
      ∃ event ∈ (ProxyEntry.openaiCompatible.run routedEnvironment acrossReads chatModelRequest
          1).1, event.isSend = true ∧
        ∀ n target definition,
          (reloadBehavior.state n).channels.registryGeneration =
            routedFrozenPlan.registryGeneration →
          (reloadBehavior.state n).channels.definition target.channelId = some definition →
          ¬ event.UsesDefinition routedEnvironment target definition := by
  obtain ⟨snapshot, upstream, body, hmem, hheader, hname⟩ := exists_sent_acrossReads
  refine ⟨frozenPlan_acrossReads, acrossReads_at, by decide, _, hmem, rfl, ?_⟩
  intro n target definition hgeneration hdefinition huses
  obtain ⟨keyPool, selected, path, query, -, -, hupstream, -, hchannel, -⟩ := huses
  have hown : definition.poolState.authHeader = "x-api-key" := by
    rw [← hheader, hupstream]
    rfl
  match n with
  | 0 =>
      have htarget : target.channelId = "chat" := hchannel.symm.trans hname
      rw [htarget] at hdefinition
      rw [← Option.some.inj hdefinition] at hown
      exact absurd hown (by decide)
  | 1 => exact absurd hgeneration (by decide)
  | n + 2 =>
      have hsecond : movedServed.channels.registryGeneration ≠
          routedFrozenPlan.registryGeneration := by decide
      exact absurd hgeneration hsecond

end OneAiKey
