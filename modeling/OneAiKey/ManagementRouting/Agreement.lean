/-
  OneAiKey.ManagementRouting.Agreement — the routing preview predicts the proxy.

  The preview plans with a request id of its own, makes a route of the default
  channel, and checks the model scope before it looks for a route; the proxy sends
  a request to the default channel without a route, and checks the scope last.  A
  model that is claimed as an upstream model is refused by the proxy only.

  Main results:
    * `planRoute_eq`, `shown_of_planned` — the plan and the candidates, both from the planned
      entries;
    * `plansAs_routingPreviewRoute` — the proxy plans what is planned for the preview's route;
    * `routing_preview_predicts_proxy` — a request is forwarded just when a target is
      selected, to the channels that the preview says.
-/
import OneAiKey.ManagementRouting
import OneAiKey.Proxy.RequestedModel
import OneAiKey.Proxy.Scope

namespace OneAiKey

open Collect (bind_eq_ok)

/-! ## §1. The planned entries. -/

section Planned

variable {input : RoutePreviewInput} {route : ModelRoute}

theorem planRoute_eq (h : input.route = some route) :
    planRoute input =
      if plannedEntries input route = [] then .error .noEnabledTargets
      else .ok {
        requestId := input.requestId
        registryGeneration := input.registryGeneration
        publicModel := input.publicModel
        targets := (plannedEntries input route).map Prod.snd
        selectedIndex := 0 } := by
  have hkept : (previewRoute input).requestId = input.requestId ∧
      (previewRoute input).registryGeneration = input.registryGeneration ∧
      (previewRoute input).publicModel = input.publicModel := by
    unfold previewRoute
    rw [h]
    exact ⟨rfl, rfl, rfl⟩
  unfold planRoute
  dsimp only
  rw [planned_targets h, hkept.1, hkept.2.1, hkept.2.2, h]
  by_cases hempty : plannedEntries input route = []
  · rw [if_pos hempty, hempty]
    rfl
  · rw [if_neg hempty, if_neg (by simp), if_neg (by simpa using hempty)]

/-- Nothing is planned just when every target is blocked. -/
theorem plannedEntries_eq_nil_iff :
    plannedEntries input route = [] ↔
      ∀ (i : Nat) (target : RouteTarget), route.targets[i]? = some target →
        HardBlocked input target := by
  have hcut : plannedEntries input route = [] ↔ orderedEntries input route = [] := by
    unfold plannedEntries limitedLength
    rw [← List.length_eq_zero_iff, List.length_take, ← List.length_eq_zero_iff]
    split <;> omega
  have hordered : orderedEntries input route = [] ↔ sortedEntries input route = [] := by
    simp only [List.eq_nil_iff_forall_not_mem, mem_orderedEntries]
    constructor
    · intro hretained e he
      -- an entry of the best rank is retained
      obtain ⟨best, hbest, hrank⟩ := @preferredRank_mem input _ _ he
      exact hretained best (List.mem_filter.mpr ⟨hbest, by simp [hrank]⟩)
    · exact fun hsorted e he => hsorted e (List.mem_of_mem_filter he)
  rw [hcut, hordered, List.eq_nil_iff_forall_not_mem]
  constructor
  · intro hnone i target ht
    by_contra hblocked
    exact hnone (entryOf i target)
      ((mem_sortedEntries input route _).mpr ⟨target, ht, hblocked, rfl⟩)
  · intro hall e he
    obtain ⟨target, ht, hnot, -⟩ := (mem_sortedEntries input route e).mp he
    exact hnot (hall e.1 target ht)

theorem length_plannedEntries (input : RoutePreviewInput) (route : ModelRoute) :
    (plannedEntries input route).length =
      limitedLength input.candidateLimit (retainedEntries input route).length := by
  obtain ⟨k, -, -, -, hrotated⟩ := orderedEntries_eq_rotate input route
  have hlength : (orderedEntries input route).length = (retainedEntries input route).length := by
    rw [hrotated]
    exact (rotateLeading_perm _ _ _).length_eq
  unfold plannedEntries
  rw [List.length_take, hlength]
  unfold limitedLength
  split <;> omega

/-- As many candidates are included as entries are planned. -/
theorem countP_included (h : input.route = some route) :
    (previewRoute input).candidates.countP (·.included) = (plannedEntries input route).length := by
  have hlength := congrArg List.length (sorted_included h)
  rw [List.length_insertionSort, List.length_map, List.length_map] at hlength
  rw [List.countP_eq_length_filter]
  exact hlength

/-- A planned entry is shown at its position. -/
theorem shown_of_planned (h : input.route = some route) {n : Nat} {e : Entry}
    (he : (plannedEntries input route)[n]? = some e) :
    ∃ c ∈ (previewRoute input).candidates, c.included = true ∧ c.planPosition = some n ∧
      c.toRouteCandidate = e.2 := by
  obtain ⟨hc, target, heq, hverdict⟩ := candidateAtIndex_planned h (List.mem_of_getElem? he)
  have hposition : ((plannedEntries input route).map Prod.fst)[n]? = some e.1 := by
    rw [List.getElem?_map, he]
    rfl
  refine ⟨_, List.mem_of_getElem? hc, hverdict.included_iff.mpr (List.mem_of_getElem? hposition),
    (hverdict.position_iff n).mpr hposition, ?_⟩
  rw [hverdict.describes, heq]
  rfl

/-- What is shown at a position is planned there. -/
theorem planned_of_position (h : input.route = some route) {n : Nat} {c : RoutePreviewCandidate}
    (hc : c ∈ (previewRoute input).candidates) (hposition : c.planPosition = some n) :
    ∃ e, (plannedEntries input route)[n]? = some e ∧ c.toRouteCandidate = e.2 := by
  obtain ⟨i, hi⟩ := List.mem_iff_getElem?.mp hc
  obtain ⟨target, ht, hverdict⟩ := verdict_of_candidate h hi
  have hplanned := (hverdict.position_iff n).mp hposition
  rw [List.getElem?_map] at hplanned
  obtain ⟨e, he, rfl⟩ := Option.map_eq_some_iff.mp hplanned
  obtain ⟨target', ht', heq⟩ := entry_of_mem_retained
    ((mem_orderedEntries input route e).mp (List.mem_of_mem_take (List.mem_of_getElem? he)))
  obtain rfl : target = target' := Option.some.inj (ht.symm.trans ht')
  refine ⟨e, he, ?_⟩
  rw [hverdict.describes, heq]
  rfl

/-- A retained entry is shown as included, or as beyond the limit. -/
theorem shown_of_retained (h : input.route = some route) {e : Entry}
    (he : e ∈ retainedEntries input route) :
    ∃ c ∈ (previewRoute input).candidates, c.toRouteCandidate = e.2 ∧
      (c.included = true ∨ .candidateLimit ∈ c.reasons) := by
  obtain ⟨target, ht, heq⟩ := entry_of_mem_retained he
  obtain ⟨c, hc, houtcome⟩ := previewRoute_outcome h ht
  have hdescribes : c.toRouteCandidate = e.2 := by
    rw [houtcome.verdict.describes, heq]
    rfl
  refine ⟨c, List.mem_of_getElem? hc, hdescribes, ?_⟩
  cases houtcome with
  | blocked hblocked hout => exact absurd ⟨e, he, rfl⟩ (not_retained_of_blocked ht hblocked)
  | suppressed hnot hlt hout => exact absurd ⟨e, he, rfl⟩ (not_retained_of_suppressed ht hlt)
  | limited hnot hle hout =>
      exact .inr (List.mem_append_right _ (List.mem_singleton_self _))
  | planned pos hnot hle hpos => exact .inl rfl

/-- A target is selected just when something is planned. -/
theorem selectedTarget_isSome_iff_planned (h : input.route = some route) :
    (routeAdmissionSummary (previewRoute input)).selectedTarget.isSome = true ↔
      plannedEntries input route ≠ [] := by
  rw [selectedTarget_isSome_iff, ← List.length_pos_iff, ← countP_included h, List.countP_pos_iff]

/-- The request id decides nothing but the rotation of a weighted route. -/
theorem retainedEntries_requestId (requestId : String) :
    retainedEntries { input with requestId := requestId } route = retainedEntries input route := rfl

theorem plannedEntries_requestId (hstrategy : route.strategy ≠ .priorityWeightedSticky)
    (requestId : String) :
    plannedEntries { input with requestId := requestId } route = plannedEntries input route := by
  unfold plannedEntries orderedEntries
  rw [if_neg hstrategy, if_neg hstrategy]
  rfl

/-- The plan of a route with one target. -/
theorem plannedEntries_single {target : RouteTarget} (htargets : route.targets = [target])
    (hnot : ¬ HardBlocked input target) : plannedEntries input route = [entryOf 0 target] := by
  have hall : ∀ e ∈ plannedEntries input route, e = entryOf 0 target := by
    intro e he
    obtain ⟨target', ht, heq⟩ := entry_of_mem_retained
      ((mem_orderedEntries input route e).mp (List.mem_of_mem_take he))
    rw [htargets] at ht
    obtain ⟨hindex, hget⟩ := List.getElem?_eq_some_iff.mp ht
    have hzero : e.1 = 0 := Nat.lt_one_iff.mp hindex
    simp only [hzero, List.getElem_cons_zero] at hget
    rw [heq, hzero, hget]
  have hnodup := nodup_plannedEntries input route
  cases hplanned : plannedEntries input route with
  | nil =>
      have hblocked := plannedEntries_eq_nil_iff.mp hplanned 0 target (by rw [htargets]; rfl)
      exact absurd hblocked hnot
  | cons e rest =>
      rw [hplanned] at hall hnodup
      cases rest with
      | nil => rw [hall e List.mem_cons_self]
      | cons f rest =>
          -- two entries would have one index
          have he := hall e List.mem_cons_self
          have hf := hall f (List.mem_cons_of_mem _ List.mem_cons_self)
          rw [he, hf] at hnodup
          simp at hnodup

end Planned

/-! ## §2. The plan of the proxy. -/

/-- Where a target leads: its channel, and the model that is asked for there. -/
def ForwardTarget.destination (target : ForwardTarget) : ChannelId × Option String :=
  (target.channelId, target.upstreamModel)

def RouteCandidate.destination (candidate : RouteCandidate) : ChannelId × Option String :=
  (candidate.channelId, candidate.upstreamModel)

def RoutingPreviewCandidateStatus.destination (candidate : RoutingPreviewCandidateStatus) :
    ChannelId × Option String :=
  (candidate.channelId, candidate.upstreamModel)

theorem routeStateUnavailableResponse_eq_none_iff {channelId : String}
    {state : ChannelRouteState} :
    routeStateUnavailableResponse channelId state = none ↔ state.isHard = false := by
  cases state <;> simp [routeStateUnavailableResponse, ChannelRouteState.isHard]

/-- A model of this name is served under another one, and has no route. -/
def ChannelRoutePlanContext.Claims (routeContext : ChannelRoutePlanContext)
    (allowedChannels : List String) : Prop :=
  routeContext.modelRoute = none ∧ routeContext.hasClaimedUpstreamModel allowedChannels = true

section Routed

variable {environment : ProxyEnvironment} {reads : ProxyReads} {client : ResolvedClientToken}
  {model : String} {routeContext : ChannelRoutePlanContext}

/-- The preview of the proxy's own request. -/
def proxyInput (maxRouteCandidates : Nat) (requestId model : String)
    (client : ResolvedClientToken) (routeContext : ChannelRoutePlanContext)
    (route : ModelRoute) : RoutePreviewInput :=
  { previewInput maxRouteCandidates model client routeContext route with requestId := requestId }

/-- What the proxy plans is what is planned for the route of the preview. -/
def PlansAs (planned : List Entry) (registryGeneration : Nat)
    (plan : Except Response FrozenRoutePlan) : Prop :=
  if planned = [] then ∀ routePlan, plan = .ok routePlan → routePlan.targets = []
  else ∃ routePlan, plan = .ok routePlan ∧
    routePlan.registryGeneration = registryGeneration ∧
    routePlan.targets.map (·.destination) = planned.map (·.2.destination)

/-- A configured route is planned by `plan_route`. -/
theorem plansAs_modelRoute {maxRouteCandidates : Nat} {requestId : String} {route : ModelRoute}
    (hroute : routeContext.modelRoute = some route) :
    PlansAs (plannedEntries
        (proxyInput maxRouteCandidates requestId model client routeContext route) route)
      routeContext.registryGeneration
      (routePlanForOpenaiRequest maxRouteCandidates requestId (some model) client.allowedChannels
        routeContext) := by
  have hstates : routeContextChannelStates routeContext = routeContext.modelRouteChannelStates := by
    funext channelId
    unfold routeContextChannelStates
    rw [hroute]
    rfl
  have hinput : proxyInput maxRouteCandidates requestId model client routeContext route =
      { requestId := requestId
        registryGeneration := routeContext.registryGeneration
        publicModel := some model
        route := some route
        channelStates := routeContext.modelRouteChannelStates
        allowedChannels := client.allowedChannels
        candidateLimit := maxRouteCandidates } := by
    unfold proxyInput previewInput
    rw [hstates]
  unfold routePlanForOpenaiRequest
  rw [hroute]
  dsimp only
  rw [← hinput, @planRoute_eq (proxyInput maxRouteCandidates requestId model client routeContext
    route) route rfl]
  unfold PlansAs
  by_cases hempty : plannedEntries
      (proxyInput maxRouteCandidates requestId model client routeContext route) route = []
  · rw [if_pos hempty, if_pos hempty]
    dsimp only
    -- without a plan there is an error, or no target
    intro routePlan hplan
    split at hplan
    · cases hplan
    · split at hplan
      · cases hplan
      · rw [← Except.ok.inj hplan]
  · rw [if_neg hempty, if_neg hempty]
    refine ⟨_, rfl, rfl, ?_⟩
    simp only [FrozenRoutePlan.fromPlan, List.map_map]
    rfl

/-- The default channel is planned as a route of one target. -/
theorem plansAs_defaultChannel {maxRouteCandidates : Nat} {requestId defaultChannel : String}
    {providerKind : ProviderKind} {state : ChannelRouteState}
    (hroute : routeContext.modelRoute = none)
    (hdefault : routeContext.defaultChannel = some defaultChannel)
    (hstate : routeContext.defaultChannelRouteState = some state) :
    PlansAs (plannedEntries
        (proxyInput maxRouteCandidates requestId model client routeContext
          (defaultChannelRoute model defaultChannel providerKind))
        (defaultChannelRoute model defaultChannel providerKind))
      routeContext.registryGeneration
      (routePlanForOpenaiRequest maxRouteCandidates requestId (some model) client.allowedChannels
        routeContext) := by
  let route := defaultChannelRoute model defaultChannel providerKind
  let target : RouteTarget := ⟨defaultChannel, providerKind, none, 0, 1, true⟩
  have hlookup : routeContextChannelStates routeContext defaultChannel = some state := by
    unfold routeContextChannelStates
    rw [hroute, hdefault, hstate]
    simp
  -- the channel is its only target, and it is blocked for one of two reasons
  have hblocked : HardBlocked
      (proxyInput maxRouteCandidates requestId model client routeContext route) target ↔
      (client.allowedChannels ≠ [] ∧ defaultChannel ∉ client.allowedChannels) ∨
        state.isHard = true := by
    unfold HardBlocked
    show true = false ∨ (client.allowedChannels ≠ [] ∧ defaultChannel ∉ client.allowedChannels) ∨
      (∃ state ∈ routeContextChannelStates routeContext defaultChannel, state.isHard = true) ↔ _
    rw [hlookup]
    simp
  have hscope : (!client.allowedChannels.isEmpty &&
      !client.allowedChannels.any (· == defaultChannel)) = true ↔
      client.allowedChannels ≠ [] ∧ defaultChannel ∉ client.allowedChannels := by
    rw [← not_iff_not, not_scoped_out_iff, channelIsAllowed_iff, not_and, not_not]
  unfold routePlanForOpenaiRequest PlansAs
  rw [hroute, hdefault, hstate]
  dsimp only [Option.getD_some]
  by_cases hout : client.allowedChannels ≠ [] ∧ defaultChannel ∉ client.allowedChannels
  · -- outside the scope
    have hnil : plannedEntries
        (proxyInput maxRouteCandidates requestId model client routeContext route) route = [] := by
      rw [plannedEntries_eq_nil_iff]
      intro i found hfound
      rw [List.mem_singleton.mp (List.mem_of_getElem? hfound)]
      exact hblocked.mpr (.inl hout)
    rw [if_pos (hscope.mpr hout), if_pos hnil]
    intro routePlan hplan
    cases hplan
  · rw [if_neg (fun h => hout (hscope.mp h))]
    by_cases hhard : state.isHard = true
    · -- in a state that excludes it
      have hnil : plannedEntries
          (proxyInput maxRouteCandidates requestId model client routeContext route) route =
          [] := by
        rw [plannedEntries_eq_nil_iff]
        intro i found hfound
        rw [List.mem_singleton.mp (List.mem_of_getElem? hfound)]
        exact hblocked.mpr (.inr hhard)
      rw [if_pos hnil]
      cases hresponse : routeStateUnavailableResponse defaultChannel state with
      | none =>
          rw [routeStateUnavailableResponse_eq_none_iff.mp hresponse] at hhard
          cases hhard
      | some response =>
          intro routePlan hplan
          cases hplan
    -- neither reason holds: the only target is planned
    · have hnone := @routeStateUnavailableResponse_eq_none_iff defaultChannel state |>.mpr
        (Bool.eq_false_of_not_eq_true hhard)
      have hone : plannedEntries
          (proxyInput maxRouteCandidates requestId model client routeContext route) route =
          [entryOf 0 target] :=
        plannedEntries_single rfl fun h => (hblocked.mp h).elim hout hhard
      rw [hone, if_neg (List.cons_ne_nil _ _), hnone]
      exact ⟨_, rfl, rfl, rfl⟩

/-- The plan of the proxy beside the route of the preview, which are made of one context. -/
theorem plansAs_routingPreviewRoute {registry : ChannelRegistrySnapshot}
    {observation : RouteObservation} {maxRouteCandidates : Nat} {requestId : String}
    (hcontext : routeContext = registry.routePlanContext observation (some model)) :
    (∃ routeKind route, routingPreviewRoute routeContext model = .ok ⟨routeKind, some route⟩ ∧
      route.strategy = (routeContext.modelRoute.map (·.strategy)).getD .priority ∧
      PlansAs (plannedEntries
          (proxyInput maxRouteCandidates requestId model client routeContext route) route)
        routeContext.registryGeneration
        (routePlanForOpenaiRequest maxRouteCandidates requestId (some model)
          client.allowedChannels routeContext)) ∨
    (∀ previewRoute, routingPreviewRoute routeContext model = .ok previewRoute →
        previewRoute.route = none) ∧
      ∀ routePlan, routePlanForOpenaiRequest maxRouteCandidates requestId (some model)
        client.allowedChannels routeContext ≠ .ok routePlan := by
  cases hroute : routeContext.modelRoute with
  | some route =>
      refine .inl ⟨"explicit_model_route", route, ?_, rfl, plansAs_modelRoute hroute⟩
      unfold routingPreviewRoute
      rw [hroute]
  | none =>
      cases hdefault : routeContext.defaultChannel with
      | none =>
          refine .inr ⟨?_, ?_⟩
          · intro previewRoute hpreview
            unfold routingPreviewRoute at hpreview
            rw [hroute, hdefault] at hpreview
            rw [← Except.ok.inj hpreview]
          · intro routePlan hplan
            unfold routePlanForOpenaiRequest at hplan
            rw [hroute, hdefault] at hplan
            cases hplan
      | some defaultChannel =>
          have hregistry : registry.defaultChannel = some defaultChannel := by
            rw [← hdefault, hcontext]
            rfl
          have hstate : routeContext.defaultChannelRouteState =
              some (registry.routeState observation defaultChannel) := by
            have hnone := hroute
            rw [hcontext] at hnone ⊢
            show (if (registry.routePlanContext observation (some model)).modelRoute.isNone then
              registry.defaultChannel.map _ else none) = _
            rw [hnone, hregistry]
            rfl
          cases hkind : routeContext.defaultChannelProviderKind with
          | some providerKind =>
              refine .inl ⟨"default_channel", defaultChannelRoute model defaultChannel providerKind,
                ?_, rfl, plansAs_defaultChannel hroute hdefault hstate⟩
              unfold routingPreviewRoute
              rw [hroute, hdefault, hkind]
          | none =>
              -- the registry has no channel of this name
              have hget : registry.get defaultChannel = none := by
                rw [hcontext] at hkind
                have hbind : (registry.defaultChannel.bind fun channelId =>
                    (registry.get channelId).map (·.poolState.providerKind)) = none := hkind
                rw [hregistry] at hbind
                exact Option.map_eq_none_iff.mp hbind
              have hunknown : registry.routeState observation defaultChannel = .unknownChannel := by
                unfold ChannelRegistrySnapshot.routeState
                rw [hget]
              refine .inr ⟨?_, ?_⟩
              · intro previewRoute hpreview
                unfold routingPreviewRoute at hpreview
                rw [hroute, hdefault, hkind] at hpreview
                cases hpreview
              · intro routePlan hplan
                unfold routePlanForOpenaiRequest at hplan
                rw [hroute, hdefault, hstate, hunknown] at hplan
                dsimp only at hplan
                split at hplan
                · cases hplan
                · cases hplan

end Routed

/-! ## §3. The request beside the preview. -/

/-- What the preview and the proxy both read is found the same. -/
structure PreviewReads.SameAs (preview : PreviewReads) (reads : ProxyReads) : Prop where
  planRegistry : preview.planRegistry = reads.planRegistry
  observation : preview.observation = reads.observation
  catalogs : preview.catalogs = reads.catalogs

/-- The request is one of the client for the model: its body can be read, and its deadline is
one. -/
structure ProxyReads.Asks (environment : ProxyEnvironment) (reads : ProxyReads)
    (request : InboundRequest) (client : AuthorizedClient) (model : String) (body : Bytes)
    (deadline : Option Instant) : Prop where
  authorized : authorizedClient environment reads request = .ok client
  readable : openaiBody environment request client = .ok body
  asked : (openaiRequestContext environment.codec request.method request.path
    body).requestedModel = some model
  timed : requestDeadline environment reads (openaiRequestContext environment.codec
    request.method request.path body).streaming = .ok deadline

/-- What the proxy plans from. -/
abbrev ProxyReads.routeContext (reads : ProxyReads) (model : String) : ChannelRoutePlanContext :=
  reads.planRegistry.routePlanContext reads.observation (some model)

section Request

variable {environment : ProxyEnvironment} {reads : ProxyReads} {request : InboundRequest}
  {client : ResolvedClientToken} {model : String} {body : Bytes} {deadline : Option Instant}

theorem routedPlan_of_claims
    (hclaims : (reads.routeContext model).Claims client.allowedChannels) :
    routedPlan environment reads client.authorized (some model) =
      .error (.answered (jsonError 403 "model must be requested through its public route")) := by
  unfold routedPlan
  dsimp only
  rw [hclaims.1]
  exact if_pos hclaims.2

/-- Without a claim the plan has to have targets. -/
theorem routedPlan_eq_ok_iff
    (hclaims : ¬ (reads.routeContext model).Claims client.allowedChannels)
    {routePlan : FrozenRoutePlan} :
    routedPlan environment reads client.authorized (some model) = .ok routePlan ↔
      routePlanForOpenaiRequest environment.maxRouteCandidates reads.requestId (some model)
          client.allowedChannels (reads.routeContext model) = .ok routePlan ∧
        routePlan.targets ≠ [] := by
  -- the refusal of a claimed upstream model does not apply
  have hguard : ¬ ((some model).isSome && (reads.routeContext model).modelRoute.isNone &&
      (reads.routeContext model).hasClaimedUpstreamModel client.authorized.allowedChannels) =
        true := by
    intro hguard
    rw [Option.isSome_some, Bool.true_and, Bool.and_eq_true, Option.isNone_iff_eq_none] at hguard
    exact hclaims hguard
  have hallowed : client.authorized.allowedChannels = client.allowedChannels := rfl
  unfold routedPlan
  dsimp only
  rw [if_neg hguard, hallowed]
  cases hplan : routePlanForOpenaiRequest environment.maxRouteCandidates reads.requestId
      (some model) client.allowedChannels (reads.routeContext model) with
  | error response => simp
  | ok found =>
      dsimp only
      by_cases hempty : found.targets = []
      · simp only [hempty, List.isEmpty_nil, if_true, reduceCtorEq, false_iff, Except.ok.injEq]
        rintro ⟨rfl, hne⟩
        exact hne hempty
      · rw [if_neg (by simpa using hempty), Except.ok.injEq]
        constructor
        · rintro rfl
          exact ⟨rfl, hempty⟩
        · exact fun h => Except.ok.inj h.1

/-- The guard of the preview is the check of the proxy. -/
theorem checkRoutedModelScope_iff :
    checkRoutedModelScope reads client.authorized (some model) = .ok () ↔
      ¬ (!client.allowedModelGroups.isEmpty &&
        !reads.catalogs.clientModelAllowed client.allowedModelGroups model) = true := by
  show (if client.allowedModelGroups.isEmpty = true then Except.ok () else
    if reads.catalogs.clientModelAllowed client.allowedModelGroups model = true then .ok ()
    else .error _) = .ok () ↔ _
  cases client.allowedModelGroups.isEmpty with
  | true => simp
  | false => cases reads.catalogs.clientModelAllowed client.allowedModelGroups model <;> simp

/-- A request is forwarded with its plan, if there is one and the model is in scope. -/
theorem openaiForwardRequest_eq_ok_iff
    (hasks : reads.Asks environment request client.authorized model body deadline)
    {routePlan : FrozenRoutePlan} :
    (∃ req, openaiForwardRequest environment reads request = .ok req ∧
        req.routePlan = routePlan) ↔
      routedPlan environment reads client.authorized (some model) = .ok routePlan ∧
        checkRoutedModelScope reads client.authorized (some model) = .ok () := by
  unfold openaiForwardRequest
  rw [hasks.authorized]
  constructor
  -- through the steps of the source, each of which succeeds or ends the request
  · rintro ⟨req, hreq, rfl⟩
    obtain ⟨found, hfound, hreq⟩ := bind_eq_ok.mp hreq
    obtain rfl : client.authorized = found := Except.ok.inj hfound
    obtain ⟨body', hbody, hreq⟩ := bind_eq_ok.mp hreq
    obtain rfl : body = body' := Except.ok.inj (hasks.readable.symm.trans hbody)
    obtain ⟨routePlan, hplan, hreq⟩ := bind_eq_ok.mp hreq
    obtain ⟨done, hscope, hreq⟩ := bind_eq_ok.mp hreq
    obtain ⟨effectiveDeadline, -, hreq⟩ := bind_eq_ok.mp hreq
    rw [hasks.asked] at hplan hscope
    rw [← Except.ok.inj hreq]
    exact ⟨hplan, hscope⟩
  · rintro ⟨hplan, hscope⟩
    refine ⟨_, bind_eq_ok.mpr ⟨client.authorized, rfl, bind_eq_ok.mpr ⟨body, hasks.readable,
      bind_eq_ok.mpr ⟨routePlan, ?_, bind_eq_ok.mpr ⟨(), ?_,
        bind_eq_ok.mpr ⟨deadline, hasks.timed, rfl⟩⟩⟩⟩⟩, rfl⟩
    · rw [hasks.asked]
      exact hplan
    · rw [hasks.asked]
      exact hscope

theorem openaiForwardRequest_of_claims
    (hasks : reads.Asks environment request client.authorized model body deadline)
    (hclaims : (reads.routeContext model).Claims client.allowedChannels) :
    openaiForwardRequest environment reads request =
      .error (.answered (jsonError 403 "model must be requested through its public route")) := by
  unfold openaiForwardRequest
  rw [hasks.authorized]
  show (openaiBody environment request client.authorized >>= fun body => _) = _
  rw [hasks.readable]
  show (routedPlan environment reads client.authorized (openaiRequestContext environment.codec
    request.method request.path body).requestedModel >>= fun routePlan => _) = _
  rw [hasks.asked, routedPlan_of_claims hclaims]
  rfl

end Request

/-! ## §4. The prediction. -/

/-- The plan goes to what the preview shows: to as many targets as it includes, and each of
them is included or beyond the limit.  A route that is not rotated by the request id is
carried out in the order that is shown. -/
structure RoutingPreviewResponse.Predicts (response : RoutingPreviewResponse)
    (strategy : RouteStrategy) (routePlan : FrozenRoutePlan) : Prop where
  generation : routePlan.registryGeneration = response.registryGeneration
  count : routePlan.targets.length = response.candidates.countP (·.included)
  shown : ∀ target ∈ routePlan.targets, ∃ c ∈ response.candidates,
    c.destination = target.destination ∧ (c.included = true ∨ "candidate_limit" ∈ c.reasons)
  ordered : strategy ≠ .priorityWeightedSticky →
    ∀ (n : Nat) (target : ForwardTarget), routePlan.targets[n]? = some target →
      ∃ c ∈ response.candidates, c.planPosition = some n ∧ c.destination = target.destination
  selected : strategy ≠ .priorityWeightedSticky →
    response.selectedTarget.map (·.channelId) = routePlan.targets.head?.map (·.channelId)

/-- The strategy of the route that is taken; the default channel has none. -/
def ChannelRoutePlanContext.strategy (routeContext : ChannelRoutePlanContext) : RouteStrategy :=
  (routeContext.modelRoute.map (·.strategy)).getD .priority

section Prediction

variable {maxRouteCandidates : Nat} {requestId model : String} {preview : PreviewReads}
  {client : ResolvedClientToken} {routeKind : String} {routeContext : ChannelRoutePlanContext}
  {route : ModelRoute}

theorem plannedEntries_proxyInput_eq_nil_iff :
    plannedEntries (proxyInput maxRouteCandidates requestId model client routeContext route)
        route = [] ↔
      plannedEntries (previewInput maxRouteCandidates model client routeContext route) route =
        [] := by
  rw [plannedEntries_eq_nil_iff, plannedEntries_eq_nil_iff]
  rfl

theorem length_plannedEntries_proxyInput :
    (plannedEntries (proxyInput maxRouteCandidates requestId model client routeContext route)
        route).length =
      (plannedEntries (previewInput maxRouteCandidates model client routeContext route)
        route).length := by
  rw [length_plannedEntries, length_plannedEntries]
  rfl

/-- A candidate of the plan is described in the answer. -/
theorem mem_candidateStatuses {statuses : Std.TreeMap String RoutingPreviewChannelStatus}
    {candidates : List RoutePreviewCandidate} {c : RoutePreviewCandidate} (hc : c ∈ candidates) :
    ∃ status ∈ routingPreviewCandidateStatuses statuses candidates,
      status.destination = c.toRouteCandidate.destination ∧ status.included = c.included ∧
        status.planPosition = c.planPosition ∧ status.reasons = c.reasons.map (·.asStr) :=
  ⟨_, List.mem_map_of_mem hc, rfl, rfl, rfl, rfl⟩

/-- The candidates of the answer are those of the plan, described. -/
theorem routedPreviewResponse_candidates :
    ∃ statuses, (routedPreviewResponse maxRouteCandidates preview model client routeKind
        routeContext route).candidates =
      routingPreviewCandidateStatuses statuses
        (previewRoute (previewInput maxRouteCandidates model client routeContext
          route)).candidates := ⟨_, rfl⟩

theorem countP_candidateStatuses {statuses : Std.TreeMap String RoutingPreviewChannelStatus}
    {candidates : List RoutePreviewCandidate} :
    (routingPreviewCandidateStatuses statuses candidates).countP (·.included) =
      candidates.countP (·.included) := List.countP_map

theorem predicts_of_planned {routePlan : FrozenRoutePlan}
    (hgeneration : routePlan.registryGeneration = routeContext.registryGeneration)
    (htargets : routePlan.targets.map (·.destination) =
      (plannedEntries (proxyInput maxRouteCandidates requestId model client routeContext route)
        route).map (·.2.destination)) :
    (routedPreviewResponse maxRouteCandidates preview model client routeKind routeContext
      route).Predicts route.strategy routePlan := by
  let input := previewInput maxRouteCandidates model client routeContext route
  have hinput : input.route = some route := rfl
  obtain ⟨statuses, hcandidates⟩ := @routedPreviewResponse_candidates maxRouteCandidates model
    preview client routeKind routeContext route
  have hretain : retainedEntries
      (proxyInput maxRouteCandidates requestId model client routeContext route) route =
      retainedEntries input route := retainedEntries_requestId requestId
  have hsame (hstrategy : route.strategy ≠ .priorityWeightedSticky) :
      plannedEntries (proxyInput maxRouteCandidates requestId model client routeContext route)
        route = plannedEntries input route := plannedEntries_requestId hstrategy requestId
  -- the target at a position is planned there
  have hat (hstrategy : route.strategy ≠ .priorityWeightedSticky) (n : Nat) :
      routePlan.targets[n]?.map (·.destination) =
        (plannedEntries input route)[n]?.map (·.2.destination) := by
    rw [← List.getElem?_map, htargets, hsame hstrategy, List.getElem?_map]
  constructor
  · rw [hgeneration]
    rfl
  · have hlength := congrArg List.length htargets
    rw [List.length_map, List.length_map, length_plannedEntries_proxyInput] at hlength
    rw [hlength, ← countP_included hinput, hcandidates, countP_candidateStatuses]
  · intro target htarget
    have hmem : target.destination ∈ routePlan.targets.map (·.destination) :=
      List.mem_map_of_mem htarget
    rw [htargets] at hmem
    obtain ⟨e, he, hdestination⟩ := List.mem_map.mp hmem
    have hretained : e ∈ retainedEntries input route := by
      rw [← hretain]
      exact (mem_orderedEntries _ route e).mp (List.mem_of_mem_take he)
    rw [hcandidates]
    obtain ⟨c, hc, hdescribes, hshown⟩ := shown_of_retained hinput hretained
    obtain ⟨status, hstatus, hleads, hincluded, -, hreasons⟩ := @mem_candidateStatuses statuses _ _ hc
    refine ⟨status, hstatus, ?_, ?_⟩
    · rw [hleads, hdescribes, hdestination]
    · rw [hincluded, hreasons]
      exact hshown.imp_right fun hlimit => List.mem_map.mpr ⟨.candidateLimit, hlimit, rfl⟩
  · intro hstrategy n target htarget
    have hplanned := hat hstrategy n
    rw [htarget] at hplanned
    obtain ⟨e, he, hdestination⟩ := Option.map_eq_some_iff.mp hplanned.symm
    rw [hcandidates]
    obtain ⟨c, hc, -, hposition, hdescribes⟩ := shown_of_planned hinput he
    obtain ⟨status, hstatus, hleads, -, hpositions, -⟩ := @mem_candidateStatuses statuses _ _ hc
    refine ⟨status, hstatus, hpositions.trans hposition, ?_⟩
    rw [hleads, hdescribes, hdestination]
  · intro hstrategy
    have hfirst := congrArg (Option.map Prod.fst) (hat hstrategy 0)
    rw [Option.map_map, Option.map_map] at hfirst
    show ((routeAdmissionSummary (previewRoute input)).selectedTarget.map fun target =>
      (⟨target.channelId, target.planPosition⟩ : RoutingPreviewSelectedTarget)).map
        (·.channelId) = _
    rw [Option.map_map, selectedTarget_eq, Option.map_map, List.head?_eq_getElem?]
    refine Eq.trans ?_ hfirst.symm
    cases hfind : (previewRoute input).candidates.find? fun c => c.planPosition = some 0 with
    | some c =>
        obtain ⟨e, he, hdescribes⟩ := planned_of_position hinput (List.mem_of_find?_eq_some hfind)
          (by simpa using List.find?_some hfind)
        rw [he]
        exact congrArg (fun candidate => some candidate.channelId) hdescribes
    | none =>
        -- a first entry would be shown at position 0
        cases he : (plannedEntries input route)[0]? with
        | none => rfl
        | some e =>
            obtain ⟨c, hc, -, hposition, -⟩ := shown_of_planned hinput he
            exact absurd hposition (by simpa using List.find?_eq_none.mp hfind c hc)

end Prediction

/-! ## §5. The preview predicts the proxy. -/

section Agreement

variable {environment : ProxyEnvironment} {preview : PreviewReads} {reads : ProxyReads}
  {request : InboundRequest} {client : ResolvedClientToken} {clientTokenRef : Option String}
  {model : String} {body : Bytes} {deadline : Option Instant}

/-- The preview, once the client is found. -/
theorem routingPreviewForModel_routed (hsame : preview.SameAs reads)
    (hclient : routingPreviewClient preview.clientTokens clientTokenRef = .ok client)
    (hscope : ¬ (!client.allowedModelGroups.isEmpty &&
      !reads.catalogs.clientModelAllowed client.allowedModelGroups model) = true)
    {routeKind : String} {route : ModelRoute}
    (hroute : routingPreviewRoute (reads.routeContext model) model = .ok ⟨routeKind, some route⟩)
    {maxRouteCandidates : Nat} :
    routingPreviewForModel maxRouteCandidates preview model clientTokenRef =
      .ok (routedPreviewResponse maxRouteCandidates preview model client routeKind
        (reads.routeContext model) route) := by
  unfold routingPreviewForModel
  rw [hclient, hsame.planRegistry, hsame.observation, hsame.catalogs]
  refine (if_neg hscope).trans ?_
  rw [hroute]
  rfl

/-- Without a route, or outside the scope, no target is selected. -/
theorem routingPreviewForModel_unrouted (hsame : preview.SameAs reads)
    (hclient : routingPreviewClient preview.clientTokens clientTokenRef = .ok client)
    (hnone : (!client.allowedModelGroups.isEmpty &&
        !reads.catalogs.clientModelAllowed client.allowedModelGroups model) = true ∨
      ∀ previewRoute, routingPreviewRoute (reads.routeContext model) model = .ok previewRoute →
        previewRoute.route = none)
    {maxRouteCandidates : Nat} {response : RoutingPreviewResponse}
    (h : routingPreviewForModel maxRouteCandidates preview model clientTokenRef = .ok response) :
    response.selectedTarget = none := by
  unfold routingPreviewForModel at h
  rw [hclient, hsame.planRegistry, hsame.observation, hsame.catalogs] at h
  obtain ⟨found, hfound, h⟩ := bind_eq_ok.mp h
  obtain rfl : client = found := Except.ok.inj hfound
  split at h
  · rw [← Except.ok.inj h]
    rfl
  · next hscope =>
      obtain ⟨previewRoute, hroute, h⟩ := bind_eq_ok.mp h
      rw [(hnone.resolve_left hscope) previewRoute hroute] at h
      rw [← Except.ok.inj h]
      rfl

/-- The request is forwarded just when the preview selects a target, and to what it shows. -/
structure ForwardsAsPredicted (environment : ProxyEnvironment) (reads : ProxyReads)
    (request : InboundRequest) (model : String)
    (predicted : Except ManagementServiceError RoutingPreviewResponse) : Prop where
  forwarded : (∃ req, openaiForwardRequest environment reads request = .ok req) ↔
    ∃ response, predicted = .ok response ∧ response.selectedTarget.isSome = true
  predicts : ∀ req response, openaiForwardRequest environment reads request = .ok req →
    predicted = .ok response →
    response.Predicts (reads.routeContext model).strategy req.routePlan

theorem ForwardsAsPredicted.of_refused
    {predicted : Except ManagementServiceError RoutingPreviewResponse}
    (hrefused : ∀ req, openaiForwardRequest environment reads request ≠ .ok req)
    (hnone : ∀ response, predicted = .ok response → ¬ response.selectedTarget.isSome = true) :
    ForwardsAsPredicted environment reads request model predicted where
  forwarded := ⟨fun ⟨req, hreq⟩ => absurd hreq (hrefused req),
    fun ⟨response, hresponse, hsome⟩ => absurd hsome (hnone response hresponse)⟩
  predicts req _ hreq := absurd hreq (hrefused req)

/-- Where nothing is claimed, a request is forwarded with a plan that has targets. -/
theorem forwarded_with_plan_iff
    (hasks : reads.Asks environment request client.authorized model body deadline)
    (hclaims : ¬ (reads.routeContext model).Claims client.allowedChannels)
    {routePlan : FrozenRoutePlan} :
    (∃ req, openaiForwardRequest environment reads request = .ok req ∧
        req.routePlan = routePlan) ↔
      (routePlanForOpenaiRequest environment.maxRouteCandidates reads.requestId (some model)
          client.allowedChannels (reads.routeContext model) = .ok routePlan ∧
        routePlan.targets ≠ []) ∧
      ¬ (!client.allowedModelGroups.isEmpty &&
        !reads.catalogs.clientModelAllowed client.allowedModelGroups model) = true := by
  rw [openaiForwardRequest_eq_ok_iff hasks, routedPlan_eq_ok_iff hclaims,
    checkRoutedModelScope_iff]

theorem forwardsAsPredicted_of_route
    (hasks : reads.Asks environment request client.authorized model body deadline)
    (hclaims : ¬ (reads.routeContext model).Claims client.allowedChannels)
    (hscope : ¬ (!client.allowedModelGroups.isEmpty &&
      !reads.catalogs.clientModelAllowed client.allowedModelGroups model) = true)
    {routeKind : String} {route : ModelRoute}
    (hstrategy : route.strategy = (reads.routeContext model).strategy)
    (hplans : PlansAs (plannedEntries (proxyInput environment.maxRouteCandidates reads.requestId
        model client (reads.routeContext model) route) route)
      (reads.routeContext model).registryGeneration
      (routePlanForOpenaiRequest environment.maxRouteCandidates reads.requestId (some model)
        client.allowedChannels (reads.routeContext model))) :
    ForwardsAsPredicted environment reads request model
      (.ok (routedPreviewResponse environment.maxRouteCandidates preview model client routeKind
        (reads.routeContext model) route)) := by
  -- the preview selects something exactly if the proxy plans something
  have hselected : (routedPreviewResponse environment.maxRouteCandidates preview model client
      routeKind (reads.routeContext model) route).selectedTarget.isSome = true ↔
      plannedEntries (proxyInput environment.maxRouteCandidates reads.requestId model client
        (reads.routeContext model) route) route ≠ [] := by
    rw [Ne, plannedEntries_proxyInput_eq_nil_iff]
    exact (Bool.eq_iff_iff.mp Option.isSome_map).trans (selectedTarget_isSome_iff_planned rfl)
  unfold PlansAs at hplans
  -- with an empty plan the proxy refuses, and the preview selects nothing
  split at hplans
  · next hempty =>
      refine .of_refused ?_ ?_
      · intro req hreq
        obtain ⟨⟨hplan, htargets⟩, -⟩ :=
          (forwarded_with_plan_iff hasks hclaims).mp ⟨req, hreq, rfl⟩
        exact htargets (hplans _ hplan)
      · intro response hresponse hsome
        rw [← Except.ok.inj hresponse] at hsome
        exact hselected.mp hsome hempty
  · next hne =>
      obtain ⟨routePlan, hplan, hgeneration, htargets⟩ := hplans
      have htargeted : routePlan.targets ≠ [] := by
        intro hnil
        rw [hnil] at htargets
        exact hne (List.map_eq_nil_iff.mp htargets.symm)
      obtain ⟨req, hreq, -⟩ :=
        (forwarded_with_plan_iff hasks hclaims).mpr ⟨⟨hplan, htargeted⟩, hscope⟩
      constructor
      · exact ⟨fun _ => ⟨_, rfl, hselected.mpr hne⟩, fun _ => ⟨req, hreq⟩⟩
      · intro req' response hreq' hresponse
        obtain ⟨⟨hplan', -⟩, -⟩ :=
          (forwarded_with_plan_iff hasks hclaims).mp ⟨req', hreq', rfl⟩
        rw [← Except.ok.inj hresponse, ← Except.ok.inj (hplan.symm.trans hplan'), ← hstrategy]
        exact predicts_of_planned hgeneration htargets

/-- The scope is asked first by the preview and last by the proxy, which makes no difference. -/
theorem forwardsAsPredicted (hsame : preview.SameAs reads)
    (hclient : routingPreviewClient preview.clientTokens clientTokenRef = .ok client)
    (hasks : reads.Asks environment request client.authorized model body deadline)
    (hclaims : ¬ (reads.routeContext model).Claims client.allowedChannels) :
    ForwardsAsPredicted environment reads request model
      (routingPreviewForModel environment.maxRouteCandidates preview model clientTokenRef) := by
  have hunrouted : ∀ response, routingPreviewForModel environment.maxRouteCandidates preview model
      clientTokenRef = .ok response → response.selectedTarget = none →
      ¬ response.selectedTarget.isSome = true := by
    intro response _ hnone
    rw [hnone]
    exact Bool.false_ne_true
  by_cases hscope : (!client.allowedModelGroups.isEmpty &&
      !reads.catalogs.clientModelAllowed client.allowedModelGroups model) = true
  · -- outside the scope of the client
    refine .of_refused ?_ fun response hresponse => hunrouted response hresponse
      (routingPreviewForModel_unrouted hsame hclient (.inl hscope) hresponse)
    intro req hreq
    exact ((forwarded_with_plan_iff hasks hclaims).mp ⟨req, hreq, rfl⟩).2 hscope
  · rcases @plansAs_routingPreviewRoute client model (reads.routeContext model) reads.planRegistry
      reads.observation environment.maxRouteCandidates reads.requestId rfl with
      ⟨routeKind, route, hroute, hstrategy, hplans⟩ | ⟨hnone, hplanless⟩
    · rw [routingPreviewForModel_routed hsame hclient hscope hroute]
      exact forwardsAsPredicted_of_route hasks hclaims hscope hstrategy hplans
    · -- neither has a route
      refine .of_refused ?_ fun response hresponse => hunrouted response hresponse
        (routingPreviewForModel_unrouted hsame hclient (.inr hnone) hresponse)
      intro req hreq
      exact hplanless _ ((forwarded_with_plan_iff hasks hclaims).mp ⟨req, hreq, rfl⟩).1.1

/-- A request for a model that is claimed as an upstream model is refused.  Another one is
forwarded just when the preview selects a target, and to what the preview shows. -/
theorem routing_preview_predicts_proxy (hsame : preview.SameAs reads)
    (hclient : routingPreviewClient preview.clientTokens clientTokenRef = .ok client)
    (hasks : reads.Asks environment request client.authorized model body deadline) :
    ((reads.routeContext model).Claims client.allowedChannels →
      openaiForwardRequest environment reads request =
        .error (.answered (jsonError 403 "model must be requested through its public route"))) ∧
    (¬ (reads.routeContext model).Claims client.allowedChannels →
      ForwardsAsPredicted environment reads request model
        (routingPreviewForModel environment.maxRouteCandidates preview model clientTokenRef)) :=
  ⟨openaiForwardRequest_of_claims hasks, forwardsAsPredicted hsame hclient hasks⟩

end Agreement

/-- What a preview of the registry with the route `chat-model` finds. -/
def routedPreviewReads : PreviewReads where
  clientTokens := routedReads.clientTokens
  planRegistry := routedRegistry
  observation := routedReads.observation
  catalogs := routedReads.catalogs
  statusCatalogs := routedReads.catalogs
  statusRegistry := routedRegistry
  selectorGeneration _ := 0
  describedAt _ := .at' 0

/-- The request for `chat-model` is forwarded, as the preview says. -/
theorem routing_preview_predicts_proxy_chat_model :
    ¬ (routedReads.routeContext "chat-model").Claims [] ∧
      (∃ req, openaiForwardRequest routedEnvironment routedReads chatModelRequest = .ok req) ∧
      ForwardsAsPredicted routedEnvironment routedReads chatModelRequest "chat-model"
        (routingPreviewForModel 16 routedPreviewReads "chat-model" none) := by
  have hunclaimed : ¬ (routedReads.routeContext "chat-model").Claims [] := by
    intro hclaims
    have hroute : (routedReads.routeContext "chat-model").modelRoute.isSome = true := rfl
    rw [hclaims.1] at hroute
    cases hroute
  refine ⟨hunclaimed, ⟨_, rfl⟩, (routing_preview_predicts_proxy ⟨rfl, rfl, rfl⟩ rfl
    ⟨rfl, rfl, rfl, rfl⟩).2 hunclaimed⟩

end OneAiKey
