/-
  OneAiKey.Proxy.Scope — the scope of a client on the forwarding paths
  (`src/proxy.rs`).

  A token may be restricted to channels and to models.  The routed handler plans
  within the channels and refuses a restricted token without a model that it may
  use.  The named handler checks the channel, and it checks the model only if the
  adapter of the channel finds one in the request.

  Main results:
    * `openaiForwardRequest_inScope`, `namedForwardRequest_inScope` — what the
      admission of a request establishes;
    * `exists_unchecked_send` — a request whose model is not checked can be sent;
    * `client_scope_enforced_iff` — the scope is kept exactly without such requests.
-/
import OneAiKey.ChannelHealth.Soft
import OneAiKey.Proxy
import OneAiKey.Rebuild
import OneAiKey.RoutePlan.Exact

namespace OneAiKey

open Collect (bind_eq_ok)

/-! ## §1. The scope. -/

/-- The channel is one that the client may use. -/
def AuthorizedClient.AllowsChannel (client : AuthorizedClient) (channelId : ChannelId) : Prop :=
  client.allowedChannels ≠ [] → channelId ∈ client.allowedChannels

/-- If the client is restricted to models, there is a requested model that it may use. -/
def AuthorizedClient.AllowsModel (client : AuthorizedClient) (catalogs : RuntimeCatalogSnapshot)
    (requestedModel : Option String) : Prop :=
  client.allowedModelGroups ≠ [] → ∃ model, requestedModel = some model ∧
    catalogs.clientModelAllowed client.allowedModelGroups model = true

/-- If the event is a send, it keeps to the scope of the client. -/
def ForwardEvent.InScope (client : AuthorizedClient) (catalogs : RuntimeCatalogSnapshot) :
    ForwardEvent → Prop
  | sent snapshot _ _ => client.AllowsChannel snapshot.channelId ∧
      client.AllowsModel catalogs snapshot.requestedModel
  | _ => True

/-- The two handlers. -/
inductive ProxyEntry where
  | openaiCompatible
  | namedPool (poolName tail : String)
  deriving DecidableEq, Repr

def ProxyEntry.run (environment : ProxyEnvironment) (reads : ProxyReads)
    (request : InboundRequest) (fuel : Nat) : ProxyEntry → List ForwardEvent × ProxyEnd
  | openaiCompatible => proxyOpenaiCompatible environment reads request fuel
  | namedPool poolName tail => proxyNamedPool environment reads request poolName tail fuel

/-! ## §2. What an admission establishes. -/

theorem channelIsAllowed_iff {allowedChannels : List String} {channelId : ChannelId} :
    channelIsAllowed channelId allowedChannels = true ↔
      (allowedChannels ≠ [] → channelId ∈ allowedChannels) := by
  unfold channelIsAllowed
  rw [Bool.or_eq_true, List.isEmpty_iff]
  simp only [List.any_eq_true, beq_iff_eq, exists_eq_right]
  exact Decidable.or_iff_not_imp_left

/-- The guard of the handlers, which is written the other way round. -/
theorem not_scoped_out_iff {allowedChannels : List String} {channelId : String} :
    ¬ (!allowedChannels.isEmpty && !allowedChannels.any (· == channelId)) = true ↔
      channelIsAllowed channelId allowedChannels = true := by
  unfold channelIsAllowed
  rw [← Bool.not_or, Bool.not_eq_true, Bool.not_eq_false']

/-- A planned target is on an allowed channel. -/
theorem allowed_of_planRoute {input : RoutePlanInput} {plan : RoutePlan}
    (h : planRoute input = .ok plan) {candidate : RouteCandidate}
    (hmem : candidate ∈ plan.targets) :
    channelIsAllowed candidate.channelId input.allowedChannels = true := by
  cases hroute : input.route with
  | none =>
      unfold planRoute at h
      rw [hroute] at h
      cases h
  | some route =>
      obtain ⟨target, -, heq, hblocked⟩ := target_of_planRoute hroute h hmem
      have hchannel : candidate.channelId = target.channelId := by rw [heq]; rfl
      rw [hchannel, channelIsAllowed_iff]
      intro hne
      by_contra hout
      exact hblocked (.inr (.inl ⟨hne, hout⟩))

section Admission

variable {environment : ProxyEnvironment} {reads : ProxyReads} {request : InboundRequest}
  {client : AuthorizedClient}

theorem authorizedClient_eq_ok :
    authorizedClient environment reads request = .ok client ↔
      authorizeClient environment.hashToken reads.clientTokens request.authorization =
        some client := by
  unfold authorizedClient
  split
  · next found h =>
      rw [h]
      constructor
      · intro hok
        rw [Except.ok.inj hok]
      · intro hsome
        rw [Option.some.inj hsome]
  · next h =>
      rw [h]
      constructor
      · nofun
      · nofun

theorem routePlanForOpenaiRequest_allowed {maxRouteCandidates : Nat} {requestId : String}
    {model : Option String} {allowedChannels : List String}
    {routeContext : ChannelRoutePlanContext} {routePlan : FrozenRoutePlan}
    (h : routePlanForOpenaiRequest maxRouteCandidates requestId model allowedChannels
      routeContext = .ok routePlan) :
    ∀ target ∈ routePlan.targets,
      channelIsAllowed target.channelId allowedChannels = true := by
  unfold routePlanForOpenaiRequest at h
  split at h
  · -- a route: the targets of the plan
    dsimp only at h
    split at h
    · next plan hplan =>
        rw [← Except.ok.inj h]
        intro target hmem
        -- the planner blocks every target outside the client's channels
        obtain ⟨candidate, hcandidate, rfl⟩ := List.mem_map.mp hmem
        exact allowed_of_planRoute hplan hcandidate
    · split at h
      · cases h
      · split at h
        · cases h
        · rw [← Except.ok.inj h]
          intro target hmem
          cases hmem
  · -- the default channel
    split at h
    · cases h
    · split at h
      · cases h
      · next poolName _ hallowed =>
          dsimp only at h
          split at h
          · cases h
          · rw [← Except.ok.inj h]
            intro target hmem
            rw [List.mem_singleton.mp hmem]
            exact not_scoped_out_iff.mp hallowed

theorem routedPlan_allowed {model : Option String} {routePlan : FrozenRoutePlan}
    (h : routedPlan environment reads client model = .ok routePlan) :
    ∀ target ∈ routePlan.targets,
      channelIsAllowed target.channelId client.allowedChannels = true := by
  unfold routedPlan at h
  dsimp only at h
  split at h
  · cases h
  · split at h
    · cases h
    · next found hplan =>
        split at h
        · cases h
        · rw [← Except.ok.inj h]
          exact routePlanForOpenaiRequest_allowed hplan

theorem checkRoutedModelScope_eq_ok {model : Option String} {done : Unit}
    (h : checkRoutedModelScope reads client model = .ok done) :
    client.AllowsModel reads.catalogs model := by
  intro hgroups
  unfold checkRoutedModelScope at h
  have hne : ¬ client.allowedModelGroups.isEmpty = true := by
    rw [List.isEmpty_iff]
    exact hgroups
  rw [if_neg hne] at h
  split at h
  · next hany =>
      cases model with
      | none => cases hany
      | some model => exact ⟨model, rfl, hany⟩
  · cases h

theorem checkNamedModel_eq_ok {poolName model : String} {done : Unit}
    (h : checkNamedModel reads client poolName (some model) = .ok done) :
    client.AllowsModel reads.catalogs (some model) := by
  intro hgroups
  simp only [checkNamedModel] at h
  split at h
  · cases h
  · split at h
    · cases h
    · next hallowed =>
        refine ⟨model, rfl, ?_⟩
        by_contra hnot
        apply hallowed
        rw [Bool.eq_false_of_not_eq_true hnot]
        cases hempty : client.allowedModelGroups with
        | nil => exact absurd hempty hgroups
        | cons first rest => rfl

/-- An admitted routed request keeps to the scope. -/
theorem openaiForwardRequest_inScope {req : ForwardRequest}
    (h : openaiForwardRequest environment reads request = .ok req) :
    ∃ client, authorizeClient environment.hashToken reads.clientTokens request.authorization =
        some client ∧
      (∀ target ∈ req.routePlan.targets,
        channelIsAllowed target.channelId client.allowedChannels = true) ∧
      client.AllowsModel reads.catalogs req.requestContext.requestedModel := by
  unfold openaiForwardRequest at h
  obtain ⟨client, hclient, h⟩ := bind_eq_ok.mp h
  obtain ⟨body, -, h⟩ := bind_eq_ok.mp h
  obtain ⟨routePlan, hplan, h⟩ := bind_eq_ok.mp h
  obtain ⟨done, hscope, h⟩ := bind_eq_ok.mp h
  obtain ⟨effectiveDeadline, -, h⟩ := bind_eq_ok.mp h
  rw [← Except.ok.inj h]
  exact ⟨client, authorizedClient_eq_ok.mp hclient, routedPlan_allowed hplan,
    checkRoutedModelScope_eq_ok hscope⟩

/-! ## §3. What is forwarded. -/

/-- The sends of a request whose plan and model are in scope. -/
theorem forwardAdmitted_inScope {fuel : Nat} {admitted : Except ProxyEnd ForwardRequest}
    (h : ∀ req, admitted = .ok req →
      (∀ target ∈ req.routePlan.targets,
        channelIsAllowed target.channelId client.allowedChannels = true) ∧
      client.AllowsModel reads.catalogs req.requestContext.requestedModel) :
    ∀ event ∈ (forwardAdmitted environment reads fuel admitted).1,
      event.InScope client reads.catalogs := by
  cases admitted with
  | error proxyEnd =>
      intro event hmem
      cases hmem
  | ok req =>
      intro event hmem
      obtain ⟨htargets, hmodel⟩ := h req rfl
      have hsentTo := forwardWithPools_sentTo event hmem
      cases event with
      | directed directive => trivial
      | skipped channelId => trivial
      | sent snapshot upstream body =>
          obtain ⟨k, target, poolState, classifier, htarget, -, hsent⟩ := hsentTo rfl
          obtain ⟨n, available, routeState, retried, pool, selected, candidates, attempt, -, rfl,
            -, -⟩ := hsent
          have hallowed := htargets target (List.mem_of_getElem? htarget)
          exact ⟨channelIsAllowed_iff.mp hallowed, hmodel⟩

/-! ## §4. The named handler. -/

/-- What a named request passes before the handler chooses its branch. -/
structure NamedAdmission (environment : ProxyEnvironment) (reads : ProxyReads)
    (request : InboundRequest) (poolName : String) (client : AuthorizedClient)
    (channel : RegistryChannel) : Prop where
  authorized : authorizeClient environment.hashToken reads.clientTokens request.authorization =
    some client
  allowed : channelIsAllowed poolName client.allowedChannels = true
  known : reads.adapterRegistry.get poolName = some channel
  admitted : routeStateUnavailableResponse poolName
    (reads.planRegistry.routeState reads.observation poolName) = none

variable {poolName tail : String}

/-- The plan of a named request. -/
def namedRoutePlan (reads : ProxyReads) (poolName : String) : FrozenRoutePlan :=
  .singleNamed reads.requestId reads.planRegistry.registryGeneration poolName
    (reads.planRegistry.routeState reads.observation poolName)

theorem checkNamedChannelScope_eq_ok {done : Unit} :
    checkNamedChannelScope client poolName = .ok done ↔
      channelIsAllowed poolName client.allowedChannels = true := by
  rw [← not_scoped_out_iff]
  unfold checkNamedChannelScope
  split
  · next hout => exact ⟨nofun, fun h => absurd hout h⟩
  · next hin => exact ⟨fun _ => hin, fun _ => rfl⟩

theorem namedPlan_eq_ok {plan : FrozenRoutePlan × ProviderKind} :
    namedPlan reads poolName = .ok plan ↔
      ∃ channel, reads.adapterRegistry.get poolName = some channel ∧
        routeStateUnavailableResponse poolName
          (reads.planRegistry.routeState reads.observation poolName) = none ∧
        plan = (namedRoutePlan reads poolName, channel.poolState.providerKind) := by
  unfold namedPlan
  dsimp only
  split
  -- an unknown channel, one that cannot be used now, and one that can
  · next hget =>
      constructor
      · nofun
      · intro h
        obtain ⟨channel, hsome, -⟩ := h
        rw [hget] at hsome
        cases hsome
  · next channel hget =>
      split
      · next response hunavailable =>
          constructor
          · nofun
          · intro h
            obtain ⟨-, -, hnone, -⟩ := h
            exact absurd (hunavailable.symm.trans hnone) (by simp)
      · next hnone =>
          constructor
          · intro h
            exact ⟨channel, hget, hnone, (Except.ok.inj h).symm⟩
          · intro h
            obtain ⟨found, hsome, -, hplan⟩ := h
            rw [Option.some.inj (hget.symm.trans hsome), hplan]
            rfl

theorem namedAdmission_eq_ok {routePlan : FrozenRoutePlan} {kind : ProviderKind} :
    namedAdmission environment reads request poolName = .ok (client, routePlan, kind) ↔
      ∃ channel, NamedAdmission environment reads request poolName client channel ∧
        routePlan = namedRoutePlan reads poolName ∧ kind = channel.poolState.providerKind := by
  unfold namedAdmission
  constructor
  · intro h
    obtain ⟨found, hclient, h⟩ := bind_eq_ok.mp h
    obtain ⟨done, hallowed, h⟩ := bind_eq_ok.mp h
    obtain ⟨plan, hplan, h⟩ := bind_eq_ok.mp h
    obtain ⟨channel, hknown, hadmitted, rfl⟩ := namedPlan_eq_ok.mp hplan
    cases h
    exact ⟨channel, ⟨authorizedClient_eq_ok.mp hclient, checkNamedChannelScope_eq_ok.mp hallowed,
      hknown, hadmitted⟩, rfl, rfl⟩
  · intro h
    obtain ⟨channel, hadmission, rfl, rfl⟩ := h
    refine bind_eq_ok.mpr ⟨client, authorizedClient_eq_ok.mpr hadmission.authorized, ?_⟩
    refine bind_eq_ok.mpr ⟨(), checkNamedChannelScope_eq_ok.mpr hadmission.allowed, ?_⟩
    exact bind_eq_ok.mpr ⟨_, namedPlan_eq_ok.mpr
      ⟨channel, hadmission.known, hadmission.admitted, rfl⟩, rfl⟩

/-- What the branch for the adapter needs to forward a request in which the adapter finds no
model. -/
def ForwardableWithoutModel (environment : ProxyEnvironment) (reads : ProxyReads)
    (request : InboundRequest) (path : String) : ProviderKind → Prop
  | .openAiCompatible => ∃ body deadline,
      toBytes environment.maxRequestBodyBytes request.body = .ok body ∧
      (openaiRequestContext environment.codec request.method path body).requestedModel = none ∧
      effectiveDeadlineForRequest
        (openaiRequestContext environment.codec request.method path body).streaming
        environment.nonStreamingTotal reads.now = some deadline
  | .genericHttp =>
      ¬ (request.contentLength.any fun length => environment.maxRequestBodyBytes < length) = true

/-- The request of a restricted token that the named handler forwards without a model. -/
def ProxyEntry.LeavesModelUnchecked (environment : ProxyEnvironment) (reads : ProxyReads)
    (request : InboundRequest) : ProxyEntry → Prop
  | openaiCompatible => False
  | namedPool poolName tail => ∃ client channel,
      NamedAdmission environment reads request poolName client channel ∧
      client.allowedModelGroups ≠ [] ∧
      ForwardableWithoutModel environment reads request ("/" ++ tail)
        channel.poolState.providerKind

theorem requestDeadline_eq_ok {streaming : Bool} {deadline : Option Instant} :
    requestDeadline environment reads streaming = .ok deadline ↔
      effectiveDeadlineForRequest streaming environment.nonStreamingTotal reads.now =
        some deadline := by
  unfold requestDeadline
  split
  · next found h =>
      rw [h]
      constructor
      · intro hok
        rw [Except.ok.inj hok]
      · intro hsome
        rw [Option.some.inj hsome]
  · next h =>
      rw [h]
      constructor
      · nofun
      · nofun

theorem readBody_eq_ok {body : Bytes} :
    readBody environment request = .ok body ↔
      toBytes environment.maxRequestBodyBytes request.body = .ok body := by
  unfold readBody
  split
  · next found h =>
      rw [h, Except.ok.injEq, Except.ok.injEq]
  · next err h =>
      rw [h]
      constructor
      · nofun
      · nofun

/-- The replayable branch keeps to the scope when the adapter finds a model. -/
theorem namedForwardRequest_inScope {path : String} {channel : RegistryChannel}
    (hadmission : NamedAdmission environment reads request poolName client channel)
    (hchecked : client.allowedModelGroups = [] ∨
      ¬ ForwardableWithoutModel environment reads request path .openAiCompatible)
    {req : ForwardRequest}
    (h : namedForwardRequest environment reads request .openAiCompatible client poolName
      (namedRoutePlan reads poolName) path = .ok req) :
    (∀ target ∈ req.routePlan.targets,
      channelIsAllowed target.channelId client.allowedChannels = true) ∧
    client.AllowsModel reads.catalogs req.requestContext.requestedModel := by
  unfold namedForwardRequest at h
  obtain ⟨body, hbody, h⟩ := bind_eq_ok.mp h
  obtain ⟨done, hmodel, h⟩ := bind_eq_ok.mp h
  obtain ⟨deadline, hdeadline, h⟩ := bind_eq_ok.mp h
  rw [← Except.ok.inj h]
  constructor
  · intro target hmem
    rw [List.mem_singleton.mp hmem]
    exact hadmission.allowed
  · show client.AllowsModel reads.catalogs
      (openaiRequestContext environment.codec request.method path body).requestedModel
    have hmodel' : checkNamedModel reads client poolName
      (openaiRequestContext environment.codec request.method path body).requestedModel =
        .ok done := hmodel
    cases hfound : (openaiRequestContext environment.codec request.method path
        body).requestedModel with
    | some model =>
        rw [hfound] at hmodel'
        exact checkNamedModel_eq_ok hmodel'
    | none =>
        -- without a model nothing was checked, so the token must be free
        intro hgroups
        rcases hchecked with hfree | hnot
        · exact absurd hfree hgroups
        · exact absurd ⟨body, deadline, readBody_eq_ok.mp hbody, hfound,
            requestDeadline_eq_ok.mp hdeadline⟩ hnot

/-- The streaming branch sends to the named channel only, and never with a model. -/
theorem forwardStreamingNamedPool_sent {path : String} :
    ∀ event ∈ (forwardStreamingNamedPool environment reads (streamingForwardRequest environment
        request .genericHttp client (namedRoutePlan reads poolName) path)).1,
      ∃ snapshot upstream body, event = .sent snapshot upstream body ∧
        snapshot.channelId = poolName ∧ snapshot.requestedModel = none ∧
        ¬ (request.contentLength.any fun length =>
          environment.maxRequestBodyBytes < length) = true := by
  have hnone : ∀ event ∈ ([] : List ForwardEvent), ∃ snapshot upstream body,
      event = .sent snapshot upstream body ∧ snapshot.channelId = poolName ∧
        snapshot.requestedModel = none ∧ ¬ (request.contentLength.any fun length =>
          environment.maxRequestBodyBytes < length) = true :=
    fun event hmem => absurd hmem List.not_mem_nil
  have htargets : (streamingForwardRequest environment request .genericHttp client
      (namedRoutePlan reads poolName) path).routePlan.targets = [_] := rfl
  unfold forwardStreamingNamedPool
  rw [htargets]
  dsimp only
  -- through the refusals of the source to the one send
  split
  · exact hnone
  · split
    · exact hnone
    · next hlength =>
        unfold streamingAttempt
        dsimp only
        split
        · exact hnone
        · split
          · exact hnone
          · exact hnone
          · intro event hmem
            rw [List.mem_singleton.mp hmem]
            exact ⟨_, _, _, rfl, rfl, rfl, hlength⟩

/-- The routed handler keeps to the scope. -/
theorem proxyOpenaiCompatible_inScope {fuel : Nat}
    (hclient : authorizeClient environment.hashToken reads.clientTokens request.authorization =
      some client) :
    ∀ event ∈ (proxyOpenaiCompatible environment reads request fuel).1,
      event.InScope client reads.catalogs := by
  refine forwardAdmitted_inScope ?_
  intro req hadmitted
  obtain ⟨found, hfound, hscope⟩ := openaiForwardRequest_inScope hadmitted
  rw [Option.some.inj (hclient.symm.trans hfound)]
  exact hscope

/-- The named handler keeps to the scope of a request whose model is not left unchecked. -/
theorem proxyNamedPool_inScope {fuel : Nat}
    (hclient : authorizeClient environment.hashToken reads.clientTokens request.authorization =
      some client)
    (hchecked : ¬ (ProxyEntry.namedPool poolName tail).LeavesModelUnchecked environment reads
      request) :
    ∀ event ∈ (proxyNamedPool environment reads request poolName tail fuel).1,
      event.InScope client reads.catalogs := by
  unfold proxyNamedPool
  dsimp only
  split
  · intro event hmem
    cases hmem
  · next found routePlan kind hadmission =>
      obtain ⟨channel, hadmitted, rfl, hkind⟩ := namedAdmission_eq_ok.mp hadmission
      have hsame : found = client :=
        Option.some.inj (hadmitted.authorized.symm.trans hclient)
      rw [hsame] at hadmitted ⊢
      -- a restricted token cannot be forwarded without a model
      have hforwardable : client.allowedModelGroups = [] ∨
          ¬ ForwardableWithoutModel environment reads request ("/" ++ tail) kind := by
        by_cases hgroups : client.allowedModelGroups = []
        · exact .inl hgroups
        · refine .inr fun hnot => hchecked ⟨client, channel, hadmitted, hgroups, ?_⟩
          rw [← hkind]
          exact hnot
      cases kind with
      | openAiCompatible =>
          refine forwardAdmitted_inScope ?_
          intro req hreq
          exact namedForwardRequest_inScope hadmitted hforwardable hreq
      | genericHttp =>
          intro event hmem
          obtain ⟨snapshot, upstream, body, rfl, hchannel, hmodel, hlength⟩ :=
            forwardStreamingNamedPool_sent event hmem
          constructor
          · rw [hchannel]
            exact channelIsAllowed_iff.mp hadmitted.allowed
          · intro hgroups
            rcases hforwardable with hfree | hnot
            · exact absurd hfree hgroups
            · exact absurd hlength hnot

end Admission

/-! ## §5. A request that is sent unchecked. -/

/-- A channel with one key that is available, and an upstream that does not answer. -/
def sendingTarget (poolState : PoolState) : TargetWorld where
  channel := some (poolState, ⟨defaultErrorClassifierId, errorClassifierVersion,
    fun _ _ _ => classifyTransportFailure⟩)
  turn _ := {
    routeState := .available
    pool := .ofConfig ⟨"pool", "set", "https://a.example/v1", [⟨"key", .unknown⟩]⟩
    selectReadings := .at' 0
    candidatesNow := 0
    channelHealthGeneration := 0
    upstream := .error "connection refused"
    transitionNow := 0
    filterTransitionNow := 0 }

theorem mostRestrictive_available (state : ChannelRouteState) :
    state.mostRestrictive .available = state := by
  cases state <;> rfl

/-- Whatever the state of the target, there is a key. -/
theorem selectForTurn_sendingTarget (poolState : PoolState) (routeState : ChannelRouteState) :
    ∃ pool selected,
      selectForTurn ((sendingTarget poolState).turn 0) routeState none = (pool, .ok selected) := by
  unfold selectForTurn
  dsimp only
  by_cases hcooling : routeState = .credentialCoolingDown
  · rw [if_pos hcooling]
    exact ⟨_, _, rfl⟩
  · rw [if_neg hcooling]
    exact ⟨_, _, rfl⟩

/-- What the first turn does on the first target, the request does. -/
theorem mem_forwardWithPools_of_turn {fuel : Nat} {world : World} {req : ForwardRequest}
    {target : ForwardTarget} {targets : List ForwardTarget} {poolState : PoolState}
    {classifier : FailureClassifier} {event : ForwardEvent}
    (htargets : req.routePlan.targets = target :: targets)
    (hchannel : (world.target 0).channel = some (poolState, classifier))
    (h : event ∈ (forwardTurn world req target poolState classifier (!targets.isEmpty)
      ((world.target 0).turn 0) ⟨0, none, none⟩).1) :
    event ∈ (forwardWithPools (fuel + 1) world req).1 := by
  -- the events of the first turn come first, whether or not another follows
  have hloop : event ∈ (forwardWithPool (fuel + 1) world req target 0 (!targets.isEmpty) 0).1 := by
    unfold forwardWithPool
    rw [hchannel]
    dsimp only
    unfold forwardLoop
    split
    · next events result hturn =>
        rw [hturn] at h
        exact h
    · next events state hturn =>
        rw [hturn] at h
        exact List.mem_append_left _ h
  show event ∈ (forwardTargets (fuel + 1) world req none 0 req.routePlan.targets).1
  rw [htargets]
  unfold forwardTargets
  dsimp only
  rw [if_neg (Nat.lt_irrefl 0)]
  cases hpool : forwardWithPool (fuel + 1) world req target 0 (!targets.isEmpty) 0 with
  | mk events result =>
      rw [hpool] at hloop
      cases result with
      | response response => exact hloop
      | panicked => exact hloop
      | outOfFuel => exact hloop
      -- the next target, if there is one, only adds events
      | routeFallback response =>
          dsimp only
          split
          · exact List.mem_append_left _ hloop
          · exact hloop

/-- The one target of a named plan is sent to, if its channel can be used. -/
theorem exists_sent_of_named {environment : ProxyEnvironment} {reads : ProxyReads}
    {poolName : String} {poolState : PoolState} {req : ForwardRequest}
    (hplan : req.routePlan = namedRoutePlan reads poolName)
    (hadmitted : routeStateUnavailableResponse poolName
      (reads.planRegistry.routeState reads.observation poolName) = none) :
    ∃ snapshot upstream body, ForwardEvent.sent snapshot upstream body ∈
        (forwardWithPools 1 (environment.world fun _ => sendingTarget poolState) req).1 ∧
      snapshot.requestedModel = req.requestContext.requestedModel := by
  obtain ⟨pool, selected, hselected⟩ := selectForTurn_sendingTarget poolState
    (reads.planRegistry.routeState reads.observation poolName)
  -- the state is the one that was planned with, so only the admission decides
  have hstate : routeStateUnavailableResponseForAttempt poolName
      (reads.planRegistry.routeState reads.observation poolName)
      (reads.planRegistry.routeState reads.observation poolName) false = none := by
    unfold routeStateUnavailableResponseForAttempt
    rw [if_neg (fun h => h.2.1 h.1), if_neg (fun h => h.2.1 h.1)]
    exact hadmitted
  have hturn : ∃ snapshot upstream body, ForwardEvent.sent snapshot upstream body ∈
      (forwardTurn (environment.world fun _ => sendingTarget poolState) req
        ⟨none, poolName, none, reads.planRegistry.routeState reads.observation poolName⟩ poolState
        ⟨defaultErrorClassifierId, errorClassifierVersion, fun _ _ _ => classifyTransportFailure⟩
        false ((sendingTarget poolState).turn 0) ⟨0, none, none⟩).1 ∧
      snapshot.requestedModel = req.requestContext.requestedModel := by
    unfold forwardTurn
    dsimp only
    have hmost : (reads.planRegistry.routeState reads.observation poolName).mostRestrictive
        ((sendingTarget poolState).turn 0).routeState =
        reads.planRegistry.routeState reads.observation poolName := mostRestrictive_available _
    rw [hmost, hstate]
    dsimp only
    rw [hselected]
    exact ⟨_, _, _, List.mem_cons_self, rfl⟩
  obtain ⟨snapshot, upstream, body, hmem, hmodel⟩ := hturn
  refine ⟨snapshot, upstream, body, ?_, hmodel⟩
  exact mem_forwardWithPools_of_turn (by rw [hplan]; rfl) rfl hmem

/-- The replayable branch admits a request in which the adapter finds no model. -/
theorem namedForwardRequest_of_no_model {environment : ProxyEnvironment} {reads : ProxyReads}
    {request : InboundRequest} (client : AuthorizedClient) (poolName : String)
    (routePlan : FrozenRoutePlan) {path : String} {body : Bytes} {deadline : Option Instant}
    (hbody : toBytes environment.maxRequestBodyBytes request.body = .ok body)
    (hmodel : (openaiRequestContext environment.codec request.method path body).requestedModel =
      none)
    (hdeadline : effectiveDeadlineForRequest
      (openaiRequestContext environment.codec request.method path body).streaming
      environment.nonStreamingTotal reads.now = some deadline) :
    ∃ req, namedForwardRequest environment reads request .openAiCompatible client poolName
        routePlan path = .ok req ∧ req.routePlan = routePlan ∧
      req.requestContext =
        openaiRequestContext environment.codec request.method path body := by
  have hchecked : checkNamedModel reads client poolName
      (openaiRequestContext environment.codec request.method path body).requestedModel =
        .ok () := by
    rw [hmodel]
    rfl
  let req : ForwardRequest := {
    routePlan := routePlan
    method := request.method
    path := path
    query := request.query
    body := body
    clientTokenId := client.id
    requestContext := openaiRequestContext environment.codec request.method path body
    selectionReason := .namedChannel
    effectiveDeadline := deadline }
  refine ⟨req, ?_, rfl, rfl⟩
  refine bind_eq_ok.mpr ⟨body, readBody_eq_ok.mpr hbody, ?_⟩
  refine bind_eq_ok.mpr ⟨(), hchecked, ?_⟩
  exact bind_eq_ok.mpr ⟨deadline, requestDeadline_eq_ok.mpr hdeadline, rfl⟩

/-- The streaming branch sends to a channel that can be used. -/
theorem exists_sent_of_streamed {environment : ProxyEnvironment} {reads : ProxyReads}
    {request : InboundRequest} {poolState : PoolState} (client : AuthorizedClient)
    (poolName path : String)
    (hadmitted : routeStateUnavailableResponse poolName
      (reads.planRegistry.routeState reads.observation poolName) = none)
    (hlength : ¬ (request.contentLength.any fun length =>
      environment.maxRequestBodyBytes < length) = true) :
    ∃ snapshot upstream body, ForwardEvent.sent snapshot upstream body ∈
        (forwardStreamingNamedPool environment
          { reads with target := fun _ => sendingTarget poolState }
          (streamingForwardRequest environment request .genericHttp client
            (namedRoutePlan reads poolName) path)).1 ∧
      snapshot.requestedModel = none := by
  obtain ⟨pool, selected, hselected⟩ := selectForTurn_sendingTarget poolState
    (reads.planRegistry.routeState reads.observation poolName)
  have hmost : (reads.planRegistry.routeState reads.observation poolName).mostRestrictive
      ((sendingTarget poolState).turn 0).routeState =
      reads.planRegistry.routeState reads.observation poolName := mostRestrictive_available _
  show ∃ snapshot upstream body, ForwardEvent.sent snapshot upstream body ∈
    (if (request.contentLength.any fun length =>
        environment.maxRequestBodyBytes < length) = true then _ else
      streamingAttempt environment (environment.world fun _ => sendingTarget poolState)
        (streamingForwardRequest environment request .genericHttp client
          (namedRoutePlan reads poolName) path)
        ⟨none, poolName, none, reads.planRegistry.routeState reads.observation poolName⟩ poolState
        ⟨defaultErrorClassifierId, errorClassifierVersion, fun _ _ _ => classifyTransportFailure⟩
        ((sendingTarget poolState).turn 0) : List ForwardEvent × ForwardResult).1 ∧ _
  -- neither the length nor the state of the channel refuses the request
  rw [if_neg hlength]
  unfold streamingAttempt
  dsimp only
  rw [hmost, hadmitted]
  dsimp only
  rw [hselected]
  exact ⟨_, _, _, List.mem_cons_self, rfl⟩

/-- A request whose model is left unchecked can be sent out of scope. -/
theorem exists_unchecked_send {environment : ProxyEnvironment} {reads : ProxyReads}
    {request : InboundRequest} {entry : ProxyEntry}
    (h : entry.LeavesModelUnchecked environment reads request) :
    ∃ target client, authorizeClient environment.hashToken reads.clientTokens
        request.authorization = some client ∧
      ∃ event ∈ (entry.run environment { reads with target := target } request 1).1,
        ¬ event.InScope client reads.catalogs := by
  cases entry with
  | openaiCompatible => exact absurd h id
  | namedPool poolName tail =>
      obtain ⟨client, channel, hadmission, hgroups, hforwardable⟩ := h
      refine ⟨fun _ => sendingTarget channel.poolState, client, hadmission.authorized, ?_⟩
      have hadmitted : namedAdmission environment
          { reads with target := fun _ => sendingTarget channel.poolState } request poolName =
          .ok (client, namedRoutePlan reads poolName, channel.poolState.providerKind) :=
        namedAdmission_eq_ok.mpr ⟨channel, ⟨hadmission.authorized, hadmission.allowed,
          hadmission.known, hadmission.admitted⟩, rfl, rfl⟩
      -- an event without a model is out of the scope of a restricted token
      have hout : ∀ snapshot upstream body, snapshot.requestedModel = none →
          ¬ (ForwardEvent.sent snapshot upstream body).InScope client reads.catalogs := by
        intro snapshot upstream body hmodel hscope
        obtain ⟨model, hsome, -⟩ := hscope.2 hgroups
        rw [hmodel] at hsome
        cases hsome
      show ∃ event ∈ (proxyNamedPool environment
        { reads with target := fun _ => sendingTarget channel.poolState } request poolName tail
        1).1, _
      unfold proxyNamedPool
      dsimp only
      rw [hadmitted]
      dsimp only
      cases hkind : channel.poolState.providerKind with
      | openAiCompatible =>
          rw [hkind] at hforwardable
          obtain ⟨body, deadline, hbody, hmodel, hdeadline⟩ := hforwardable
          obtain ⟨req, hreq, hplan, hcontext⟩ := @namedForwardRequest_of_no_model environment
            { reads with target := fun _ => sendingTarget channel.poolState } request client
            poolName (namedRoutePlan reads poolName) ("/" ++ tail) body deadline hbody hmodel
            hdeadline
          obtain ⟨snapshot, upstream, sentBody, hmem, hsnapshot⟩ := @exists_sent_of_named
            environment reads poolName channel.poolState req hplan hadmission.admitted
          refine ⟨_, ?_, hout snapshot upstream sentBody ?_⟩
          · dsimp only [ProviderKind.namedPoolRequestMode]
            rw [hreq]
            exact hmem
          · rw [hsnapshot, hcontext]
            exact hmodel
      | genericHttp =>
          rw [hkind] at hforwardable
          obtain ⟨snapshot, upstream, sentBody, hmem, hsnapshot⟩ :=
            @exists_sent_of_streamed environment reads request channel.poolState client poolName
              ("/" ++ tail) hadmission.admitted hforwardable
          exact ⟨_, hmem, hout snapshot upstream sentBody hsnapshot⟩

/-! ## §6. The scope as a whole. -/

/-- What forwarding meets does not bear on whether a model is left unchecked. -/
theorem ProxyEntry.LeavesModelUnchecked.of_target {environment : ProxyEnvironment}
    {reads : ProxyReads} {request : InboundRequest} {entry : ProxyEntry}
    {target : Nat → TargetWorld}
    (h : entry.LeavesModelUnchecked environment { reads with target := target } request) :
    entry.LeavesModelUnchecked environment reads request := by
  cases entry with
  | openaiCompatible => exact h
  | namedPool poolName tail =>
      obtain ⟨client, channel, hadmission, hgroups, hforwardable⟩ := h
      refine ⟨client, channel, ⟨hadmission.authorized, hadmission.allowed, hadmission.known,
        hadmission.admitted⟩, hgroups, ?_⟩
      cases hkind : channel.poolState.providerKind with
      | openAiCompatible => rw [hkind] at hforwardable; exact hforwardable
      | genericHttp => rw [hkind] at hforwardable; exact hforwardable

/-- Whatever the forwarding of a request meets, its sends keep to the scope of the client,
exactly unless the handler leaves the model unchecked. -/
theorem client_scope_enforced_iff (environment : ProxyEnvironment) (reads : ProxyReads)
    (request : InboundRequest) (entry : ProxyEntry) :
    (∀ fuel target client, authorizeClient environment.hashToken reads.clientTokens
        request.authorization = some client →
      ∀ event ∈ (entry.run environment { reads with target := target } request fuel).1,
        event.InScope client reads.catalogs) ↔
      ¬ entry.LeavesModelUnchecked environment reads request := by
  constructor
  · intro hscope hunchecked
    obtain ⟨target, client, hclient, event, hmem, hout⟩ := exists_unchecked_send hunchecked
    exact hout (hscope 1 target client hclient event hmem)
  · intro hchecked fuel target client hclient
    cases entry with
    | openaiCompatible =>
        exact @proxyOpenaiCompatible_inScope environment { reads with target := target } request
          client fuel hclient
    | namedPool poolName tail =>
        exact @proxyNamedPool_inScope environment { reads with target := target } request client
          poolName tail fuel hclient fun hunchecked => hchecked hunchecked.of_target

/-! ## §7. A restricted token without a model. -/

/-- A token for the model `gpt-4o`. -/
def modelToken : ResolvedClientToken :=
  ⟨"client_team", "team", "digest of secret", true, ["gpt-4o"], []⟩

def proxyEnvironment : ProxyEnvironment where
  hashToken token := "digest of " ++ token
  -- the empty text is no JSON
  codec := ⟨fun _ => .eof, fun _ => none⟩
  maxRequestBodyBytes := 2097152
  maxRouteCandidates := 16
  nonStreamingTotal := Duration.fromSecs 300
  connectTimeout := Duration.fromSecs 10

/-- A registry with the channel `chat` of this adapter. -/
def chatRegistry (providerKind : ProviderKind) : ChannelRegistrySnapshot :=
  compileChannelRegistrySnapshot 1 none ∅ (.new [("provider:main", "account:main")])
    (Std.TreeMap.ofList [("chat", RegistryChannel.fromConfig { chatChannel with providerKind := providerKind }
      "keys")])
    (Std.TreeMap.ofList [("keys", KeyPool.ofConfig chatChannel.keyPool)])

/-- What a request for the channel finds. -/
def chatReads (providerKind : ProviderKind) : ProxyReads where
  clientTokens := [modelToken]
  requestId := "r"
  planRegistry := chatRegistry providerKind
  observation := ⟨fun _ => .at' 0, fun _ => false⟩
  adapterRegistry := chatRegistry providerKind
  claimRegistry := chatRegistry providerKind
  catalogs := ⟨1, ∅, ∅, ∅, []⟩
  now := 0
  target _ := sendingTarget (RegistryChannel.fromConfig
    { chatChannel with providerKind := providerKind } "keys").poolState

/-- A request without a body. -/
def emptyRequest : InboundRequest where
  method := "POST"
  path := "/pools/chat/v1/embeddings"
  query := none
  authorization := some "Bearer secret"
  contentLength := none
  body := []

/-- The channel gets a request of a token that is restricted to a model. -/
def SendsUnchecked (providerKind : ProviderKind) : Prop :=
  ∃ client, authorizeClient proxyEnvironment.hashToken (chatReads providerKind).clientTokens
      emptyRequest.authorization = some client ∧ client.allowedModelGroups = ["gpt-4o"] ∧
    ∃ event ∈ ((ProxyEntry.namedPool "chat" "v1/embeddings").run proxyEnvironment
        (chatReads providerKind) emptyRequest 1).1,
      ¬ event.InScope client (chatReads providerKind).catalogs

/-- The request has no model, and is sent with either adapter.  Its body is empty, so no model
is read off it, and the named path checks the model of a request only if there is one; a routed
request without a model would have been refused for a client of restricted models. -/
theorem model_scope_skipped : SendsUnchecked .openAiCompatible ∧ SendsUnchecked .genericHttp := by
  have hout : ∀ snapshot upstream body, snapshot.requestedModel = none →
      ∀ catalogs, ¬ (ForwardEvent.sent snapshot upstream body).InScope modelToken.authorized
        catalogs := by
    intro snapshot upstream body hmodel catalogs hscope
    obtain ⟨model, hsome, -⟩ := hscope.2 (List.cons_ne_nil _ _)
    rw [hmodel] at hsome
    cases hsome
  constructor
  · exact ⟨modelToken.authorized, rfl, rfl, _, List.mem_cons_self, hout _ _ _ rfl _⟩
  · exact ⟨modelToken.authorized, rfl, rfl, _, List.mem_cons_self, hout _ _ _ rfl _⟩

end OneAiKey
