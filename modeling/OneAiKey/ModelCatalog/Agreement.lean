/-
  OneAiKey.ModelCatalog.Agreement — the model catalog, the client's scope and the
  route preview say the same about what a client may use.

  Three pieces of the source decide that on their own: the catalog of the registry with
  the healths of the channels, the blockers of a route preview, and the control plane,
  which has the configuration only.

  Main results:
    * `previewRoute_reasons` — the stages behind the blockers add none of the four
      reasons that concern visibility;
    * `routeState_not_hidden_iff` — when a channel is neither unknown nor disabled for a
      preview;
    * `ResolvedRoutes.of_resolve` — what `resolve` makes of routes and groups;
    * `DisablementState.laterOf_step` — between two replacements the channels keep what
      the configuration says;
    * `catalog_scope_and_routing_agree` — the agreement.
-/
import OneAiKey.ModelCatalog
import OneAiKey.Rebuild.Disablement
import OneAiKey.Resolve.Order
import OneAiKey.RoutePlan.Exact

namespace OneAiKey

open Std
open Collect (bind_eq_ok)
open IndexedUpdate (applyAll)

/-! ## §1. The reasons of a preview. -/

/-- The reasons that hide a target, whatever the runtime is doing besides. -/
def hidingReasons : List RoutePreviewReason :=
  [.targetDisabled, .clientChannelScope, .channelDisabled, .unknownChannel]

/-- The later stages keep the provider kind and add none of the hiding reasons. -/
structure SameVisibility (c c' : RoutePreviewCandidate) : Prop where
  providerKind : c'.providerKind = c.providerKind
  reasons : ∀ reason ∈ hidingReasons, reason ∈ c'.reasons ↔ reason ∈ c.reasons

theorem SameVisibility.refl (c : RoutePreviewCandidate) : SameVisibility c c :=
  ⟨rfl, fun _ _ => Iff.rfl⟩

theorem SameVisibility.trans (c c' c'' : RoutePreviewCandidate) (h : SameVisibility c c')
    (h' : SameVisibility c' c'') : SameVisibility c c'' where
  providerKind := h'.providerKind.trans h.providerKind
  reasons := fun reason hreason => (h'.reasons reason hreason).trans (h.reasons reason hreason)

theorem SameVisibility.push {reasons : List RoutePreviewReason}
    (h : ∀ reason ∈ reasons, reason ∉ hidingReasons) (c : RoutePreviewCandidate) :
    SameVisibility c (c.push reasons) where
  providerKind := rfl
  reasons := by
    intro reason hreason
    show reason ∈ c.reasons ++ reasons ↔ _
    rw [List.mem_append]
    exact or_iff_left fun hmem => h reason hmem hreason

theorem SameVisibility.markPlanned (position : Nat) (c : RoutePreviewCandidate) :
    SameVisibility c (c.markPlanned position) :=
  ⟨rfl, fun _ _ => Iff.rfl⟩

theorem tierReasons_not_hiding (state : Option ChannelRouteState) :
    (∀ reason ∈ suppressionReasons state, reason ∉ hidingReasons) ∧
      ∀ reason ∈ lastResortReasons state, reason ∉ hidingReasons := by
  cases state with
  | none => exact ⟨by simp [suppressionReasons], by simp [lastResortReasons]⟩
  | some state =>
      cases state <;> simp [suppressionReasons, lastResortReasons, hidingReasons]

theorem applyAll_sameVisibility {β : Type} {key : β → Nat}
    {update : β → RoutePreviewCandidate → RoutePreviewCandidate} {entries : List β}
    (hupdate : ∀ b ∈ entries, ∀ c, SameVisibility c (update b c))
    {candidates : List RoutePreviewCandidate} {i : Nat} {c : RoutePreviewCandidate}
    (hc : candidates[i]? = some c) :
    ∃ c', (applyAll key update entries candidates)[i]? = some c' ∧ SameVisibility c c' :=
  IndexedUpdate.getElem?_applyAll_related key update SameVisibility.refl SameVisibility.trans
    hupdate hc

/-- The hiding reasons of a candidate are the hard blockers of its target. -/
theorem previewRoute_reasons {input : RoutePreviewInput} {route : ModelRoute}
    (h : input.route = some route) {i : Nat} {target : RouteTarget}
    (ht : route.targets[i]? = some target) :
    ∃ c, (previewRoute input).candidates[i]? = some c ∧
      c.providerKind = target.providerKind ∧
      ∀ reason ∈ hidingReasons, reason ∈ c.reasons ↔ reason ∈ hardBlockers input target := by
  have hinitial : (initialCandidates input route)[i]? = some (previewCandidate input i target) := by
    rw [getElem?_initialCandidates, ht]
    rfl
  have htier : ∀ e ∈ sortedEntries input route, ∀ c, SameVisibility c
      (tierMark input (preferredRank input (sortedEntries input route)) e c) := by
    intro e _ c
    unfold tierMark
    apply SameVisibility.push
    split
    · exact (tierReasons_not_hiding _).1
    · exact (tierReasons_not_hiding _).2
  have hlimited : ∀ e ∈ limitedEntries input route, ∀ c,
      SameVisibility c (RoutePreviewCandidate.push [.candidateLimit] c) :=
    fun _ _ c => SameVisibility.push (by simp [hidingReasons]) c
  -- the tier loop, then the marks of the planned and of the limited targets
  obtain ⟨c₁, hc₁, hsame₁⟩ := @applyAll_sameVisibility _ Prod.fst _ _ htier _ i _ hinitial
  obtain ⟨c₂, hc₂, hsame₂⟩ := @applyAll_sameVisibility _ (fun e : Entry × Nat => e.1.1) _
    (plannedEntries input route).zipIdx (fun e _ c => SameVisibility.markPlanned e.2 c) _ i _ hc₁
  obtain ⟨c₃, hc₃, hsame₃⟩ := @applyAll_sameVisibility _ Prod.fst _ _ hlimited _ i _ hc₂
  refine ⟨c₃, ?_, ?_, ?_⟩
  · rw [previewRoute_candidates h]
    exact hc₃
  · rw [hsame₃.providerKind, hsame₂.providerKind, hsame₁.providerKind]
    rfl
  · intro reason hreason
    rw [hsame₃.reasons reason hreason, hsame₂.reasons reason hreason,
      hsame₁.reasons reason hreason]
    exact Iff.rfl

/-- A target without a hiding reason. -/
theorem not_hidden_iff {input : RoutePreviewInput} {target : RouteTarget} :
    (∀ reason ∈ hidingReasons, reason ∉ hardBlockers input target) ↔
      target.enabled = true ∧ channelIsAllowed target.channelId input.allowedChannels = true ∧
      input.channelStates target.channelId ≠ some .disabled ∧
      input.channelStates target.channelId ≠ some .unknownChannel := by
  unfold hardBlockers
  cases target.enabled with
  | false => simp [hidingReasons]
  | true =>
      cases channelIsAllowed target.channelId input.allowedChannels with
      | false => simp [hidingReasons]
      | true =>
          cases input.channelStates target.channelId with
          | none => simp [hidingReasons]
          | some state => cases state <;> simp [hidingReasons]

/-! ## §2. The states that hide a channel. -/

/-- The configuration lets the channel be used, and nobody has disabled it. -/
def ChannelRuntime.InUse (channel : ChannelRuntime) : Prop :=
  channel.configuredEnabled = true ∧ channel.accountEnabled = true ∧
    channel.health.isDisabled = false

/-- The hard part of the route state is that the channel is disabled, or else that it cools
down. -/
theorem hardRouteState_cases (channel : ChannelRuntime) (state : Option ChannelRouteState)
    (now : Instant) :
    (¬ channel.InUse ∧ hardRouteState channel state now = some .disabled) ∨
    (channel.InUse ∧ (hardRouteState channel state now = some .coolingDown ∨
      hardRouteState channel state now = none)) := by
  unfold ChannelRuntime.InUse hardRouteState
  cases channel.configuredEnabled with
  | false => simp
  | true =>
      cases channel.accountEnabled with
      | false => simp
      | true =>
          cases channel.health with
          | disabled reason => simp [ChannelHealth.isDisabled]
          | coolingDown untilInstant reason =>
              right
              simp only [Bool.not_true, Bool.false_eq_true, if_false]
              exact ⟨⟨trivial, trivial, rfl⟩, ite_eq_or_eq _ _ _⟩
          | available => exact Or.inr ⟨⟨rfl, rfl, rfl⟩, Or.inr rfl⟩
          | degraded reason => exact Or.inr ⟨⟨rfl, rfl, rfl⟩, Or.inr rfl⟩

/-- A channel of the registry is never unknown, and disabled exactly when it is not in use. -/
theorem routeStateForPool_hidden_iff {channel : ChannelRuntime} {pool : Option KeyPool}
    {failureDomains : FailureDomainRegistry} {r : RouteReadings} :
    (routeStateForPool channel pool failureDomains r = .disabled ↔ ¬ channel.InUse) ∧
      routeStateForPool channel pool failureDomains r ≠ .unknownChannel := by
  have hdomain : failureDomains.routeState channel.poolState.providerId
      channel.poolState.accountId r.account r.provider = some .providerCoolingDown ∨
      failureDomains.routeState channel.poolState.providerId
        channel.poolState.accountId r.account r.provider = none := by
    unfold FailureDomainRegistry.routeState
    split
    · exact Or.inl rfl
    · split
      · exact Or.inl rfl
      · exact Or.inr rfl
  unfold routeStateForPool routeStateFromDomain
  rcases hardRouteState_cases channel (failureDomains.routeState channel.poolState.providerId
      channel.poolState.accountId r.account r.provider) r.channel with
    ⟨hnot, hhard⟩ | ⟨hinUse, hhard | hhard⟩
  · rw [hhard]
    exact ⟨iff_of_true rfl hnot, nofun⟩
  · rw [hhard]
    exact ⟨iff_of_false nofun fun hnot => hnot hinUse, nofun⟩
  · rw [hhard]
    -- what is left of the state is soft, or lacks credentials
    have hsoft : ∀ state : ChannelRouteState, state ≠ .disabled ∧ state ≠ .unknownChannel →
        (state = .disabled ↔ ¬ channel.InUse) ∧ state ≠ .unknownChannel :=
      fun state hstate => ⟨iff_of_false hstate.1 fun hnot => hnot hinUse, hstate.2⟩
    apply hsoft
    have hhealth := hinUse.2.2
    cases pool with
    | none =>
        rcases hdomain with hdomain | hdomain
        · simp [hdomain]
        · simp [hdomain]
    | some pool =>
        dsimp only
        split
        · split <;> simp
        · rcases hdomain with hdomain | hdomain
          · simp [hdomain]
          · rw [hdomain]
            cases hchannel : channel.health with
            | disabled reason =>
                rw [hchannel] at hhealth
                cases hhealth
            | _ => simp

namespace ChannelRegistrySnapshot

variable {registry : ChannelRegistrySnapshot} {observation : RouteObservation}
  {channelId : String}

/-- A read of the registry finds a channel in use. -/
theorem routeState_not_hidden_iff :
    (registry.routeState observation channelId ≠ .disabled ∧
      registry.routeState observation channelId ≠ .unknownChannel) ↔
    ∃ channel, registry.get channelId = some channel ∧ channel.InUse := by
  unfold routeState
  cases registry.get channelId with
  | none => simp
  | some channel =>
      dsimp only
      obtain ⟨hdisabled, hknown⟩ := @routeStateForPool_hidden_iff channel.toChannelRuntime
        (if observation.locked channelId = true then none
          else registry.credentialSetRuntimes[channel.poolState.pool]?)
        registry.failureDomains (observation.readings channelId)
      rw [and_iff_left hknown, Ne, hdisabled, not_not]
      simp

end ChannelRegistrySnapshot

/-! ## §3. What `resolve` and a rebuild establish. -/

theorem IdMap.forall_empty {β : Type} {P : String → β → Prop} :
    ∀ key value, (∅ : IdMap β).lookup key = some value → P key value := by
  intro key value h
  rw [Finmap.lookup_empty] at h
  cases h

/-- A route carries its own id, and its targets the provider kinds of their channels; a
group carries its own id. -/
structure ResolvedRoutes (config : FullResolvedConfig) : Prop where
  publicModel : ∀ key route, config.modelRoutes.lookup key = some route → route.publicModel = key
  targets : ∀ key route, config.modelRoutes.lookup key = some route → ∀ target ∈ route.targets,
    ∃ pool, config.pools.lookup target.channelId = some pool ∧
      target.providerKind = pool.providerKind
  groupId : ∀ key group, config.modelGroups.lookup key = some group → group.id = key

theorem resolveRouteTarget_pool {pools : IdMap FullPoolConfig} {publicModel : String}
    {config : ModelRouteTargetConfig} {target : RouteTarget}
    (h : resolveRouteTarget pools publicModel config = .ok target) :
    ∃ pool, pools.lookup target.channelId = some pool ∧
      target.providerKind = pool.providerKind := by
  obtain ⟨channelId, -, h⟩ := bind_eq_ok.mp h
  obtain ⟨pool, hpool, h⟩ := bind_eq_ok.mp h
  obtain rfl := Except.ok.inj h
  refine ⟨pool, ?_, rfl⟩
  unfold okOrElse at hpool
  split at hpool
  · next found hfound =>
      obtain rfl := Except.ok.inj hpool
      exact hfound
  · cases hpool

theorem resolveModelRoute_targets {pools : IdMap FullPoolConfig}
    {entry : Σ _ : String, ModelRouteConfig} {key : String} {route : ModelRoute}
    (h : resolveModelRoute pools entry = .ok (key, route)) :
    route.publicModel = key ∧ ∀ target ∈ route.targets,
      ∃ pool, pools.lookup target.channelId = some pool ∧
        target.providerKind = pool.providerKind := by
  obtain ⟨strategy, -, h⟩ := bind_eq_ok.mp h
  obtain ⟨_, -, h⟩ := bind_eq_ok.mp h
  obtain ⟨targets, htargets, h⟩ := bind_eq_ok.mp h
  cases h
  refine ⟨rfl, ?_⟩
  intro target htarget
  -- the targets are sorted by priority, which keeps each of them
  have hmem : target ∈ targets := List.mem_insertionSort _ |>.mp htarget
  obtain ⟨config, -, hresolved⟩ := Collect.exists_of_mem_mapM htargets hmem
  exact resolveRouteTarget_pool hresolved

theorem resolveModelGroup_id {modelRoutes : IdMap ModelRoute}
    {entry : Σ _ : String, ModelGroupConfig} {key : String} {group : ResolvedModelGroup}
    (h : resolveModelGroup modelRoutes entry = .ok (key, group)) : group.id = key := by
  obtain ⟨groupId, -, h⟩ := bind_eq_ok.mp h
  obtain ⟨_, -, h⟩ := bind_eq_ok.mp h
  obtain ⟨models, -, h⟩ := bind_eq_ok.mp h
  cases h
  rfl

theorem ResolvedRoutes.of_resolve {environment : ResolveEnvironment}
    {document : RegistryDocument} {orders : SectionOrders document}
    {config : FullResolvedConfig} (h : resolve environment document orders = .ok config) :
    ResolvedRoutes config := by
  obtain ⟨poolConfigs, sections, hresolved⟩ := exists_resolvedBy h
  have hroute := Collect.collect_forall (P := fun key route => route.publicModel = key ∧
    ∀ target ∈ route.targets, ∃ pool, config.pools.lookup target.channelId = some pool ∧
      target.providerKind = pool.providerKind)
    (fun _ _ _ _ hentry => resolveModelRoute_targets hentry) IdMap.forall_empty
    hresolved.modelRoutes
  have hgroups := ((Collect.collectDistinct_eq_ok_iff
    (resolveModelGroup_key config.modelRoutes)).mp hresolved.modelGroups).2
  refine ⟨fun key route hlookup => (hroute key route hlookup).1,
    fun key route hlookup => (hroute key route hlookup).2, ?_⟩
  exact Collect.collect_forall (fun _ _ _ _ hentry => resolveModelGroup_id hentry)
    IdMap.forall_empty hgroups

/-- The memberships of the catalogs are those of the configuration. -/
theorem lookup_modelGroupMemberships {modelGroups : IdMap ResolvedModelGroup}
    (hid : ∀ key group, modelGroups.lookup key = some group → group.id = key) (key : String) :
    (modelGroupMemberships modelGroups).lookup key = (modelGroups.lookup key).map (·.models) := by
  -- the loop of insertions is a collection in which no entry fails
  let membership : String × ResolvedModelGroup → Except String (String × List String) :=
    fun entry => .ok (entry.2.id, entry.2.models)
  have hcollect : ∀ (entries : List (String × ResolvedModelGroup)) (start : IdMap (List String)),
      Collect.collect membership entries start = .ok (entries.foldl
        (fun memberships entry => memberships.insert entry.2.id entry.2.models) start) := by
    intro entries
    induction entries with
    | nil => exact fun _ => rfl
    | cons entry entries ih => exact fun start => ih _
  have hentry : ∀ entry ∈ IdMap.sortedEntries modelGroups, entry.2.id = entry.1 :=
    fun entry hmem => hid entry.1 entry.2 (IdMap.mem_sortedEntries.mp hmem)
  have hnames : (IdMap.sortedEntries modelGroups).map (fun entry => entry.2.id) =
      IdMap.sortedKeys modelGroups := by
    rw [← IdMap.map_fst_sortedEntries]
    exact List.map_congr_left hentry
  have hname : ∀ entry id models, membership entry = .ok (id, models) → id = entry.2.id :=
    fun entry id models h => (congrArg Prod.fst (Except.ok.inj h)).symm
  have hnodup : ((IdMap.sortedEntries modelGroups).map fun entry => entry.2.id).Nodup :=
    hnames ▸ IdMap.nodup_sortedKeys modelGroups
  obtain ⟨hfound, hother⟩ := Collect.collect_lookup hname hnodup (hcollect _ ∅)
  cases hlookup : modelGroups.lookup key with
  | none =>
      refine (hother key ?_).trans (Finmap.lookup_empty key)
      rw [hnames, IdMap.mem_sortedKeys]
      exact Finmap.lookup_eq_none.mp hlookup
  | some group =>
      obtain ⟨models, hmodels, hmember⟩ :=
        hfound (key, group) (IdMap.mem_sortedEntries.mpr hlookup)
      obtain rfl : group.models = models := congrArg Prod.snd (Except.ok.inj hmodels)
      rw [← hid key group hlookup]
      exact hmember

/-! ## §4. The registry while it runs. -/

/-- What the configuration says about a channel. -/
def ChannelRuntime.configured (channel : ChannelRuntime) : PoolState × Bool × Bool :=
  (channel.poolState, channel.configuredEnabled, channel.accountEnabled)

/-- The registry some time after it was built: the routes are the same, and what the
configuration says about each channel. -/
structure ChannelRegistrySnapshot.LaterOf (live built : ChannelRegistrySnapshot) : Prop where
  modelRoutes : live.modelRoutes = built.modelRoutes
  channels : ∀ channelId, (live.get channelId).map (·.configured) =
    (built.get channelId).map (·.configured)

theorem ChannelRegistrySnapshot.LaterOf.refl (registry : ChannelRegistrySnapshot) :
    registry.LaterOf registry :=
  ⟨rfl, fun _ => rfl⟩

theorem ChannelRegistrySnapshot.LaterOf.trans {first second third : ChannelRegistrySnapshot}
    (h : third.LaterOf second) (h' : second.LaterOf first) : third.LaterOf first where
  modelRoutes := h.modelRoutes.trans h'.modelRoutes
  channels := fun channelId => (h.channels channelId).trans (h'.channels channelId)

theorem ChannelRegistrySnapshot.LaterOf.write {live built : ChannelRegistrySnapshot}
    {channelId : String} {channel channel' : RegistryChannel}
    (hroutes : live.modelRoutes = built.modelRoutes)
    (hchannels : live.channels = built.channels.insert channelId channel')
    (hfound : built.get channelId = some channel)
    (hsame : channel'.configured = channel.configured) : live.LaterOf built where
  modelRoutes := hroutes
  channels := by
    intro id
    show (live.channels[id]?).map _ = (built.channels[id]?).map _
    rw [hchannels, getElem?_insert_channel]
    split
    · next heq =>
        have hfound' : built.channels[channelId]? = some channel := hfound
        rw [← heq, hfound', Option.map_some, Option.map_some, hsame]
    · rfl

theorem ChannelRuntime.configured_applyStateMutation (s : MutationState)
    (snapshot : RequestSelectionSnapshot) (r : Readings) (mutation : StateMutation) :
    (applyStateMutation s snapshot r mutation).channel.configured = s.channel.configured := by
  have htransition : ∀ (generation : Nat) (health : ChannelHealth),
      (s.channel.applyAutomaticChannelHealthTransition generation health).1.configured =
        s.channel.configured := by
    intro generation health
    rcases s.channel.applyAutomaticChannelHealthTransition_cases generation health with
      ⟨hsame, -⟩ | ⟨-, -, hnew⟩
    · rw [hsame]
    · rw [hnew]
      rfl
  -- both kinds of transition keep what is configured
  have hsuppression : ∀ (generation : Nat) (untilInstant : Instant) (reason : String)
      (now : Instant), (s.channel.applyAutomaticRelayBalanceSuppression generation untilInstant
        reason now).1.configured = s.channel.configured := by
    intro generation untilInstant reason now
    rcases s.channel.applyAutomaticRelayBalanceSuppression_cases generation untilInstant reason
      now with hsame | ⟨-, -, -, hnew⟩
    · rw [hsame]
    · rw [hnew]
      rfl
  cases mutation with
  | noop reason => rfl
  | markCredentialCoolingDown channelId credentialId untilInstant reason =>
      exact congrArg configured (applyCredentialMutation_channel _ _ _ _)
  | expireCredential channelId credentialId reason
  | markCredentialQuotaExhausted channelId credentialId reason =>
      exact congrArg configured ((enqueueAutomaticLifecyclePersistence_channel _ _).trans
        (applyCredentialMutation_channel _ _ _ _))
  | markRelayBalanceChannelCoolingDown channelId untilInstant reason =>
      exact hsuppression _ _ _ _
  | markProviderAccountChannelCoolingDownOrDegraded channelId providerId accountId untilInstant
      reason =>
      cases untilInstant with
      | none => exact htransition _ _
      | some untilInstant => exact htransition _ _
  | markChannelCoolingDown channelId untilInstant reason => exact htransition _ _

/-- Every step but a replacement keeps what the configuration says. -/
theorem DisablementState.laterOf_step {ρ τ : Type} {s s' : DisablementState ρ τ}
    {event : DisablementEvent} (hstep : s.Step event s') (hevent : event ≠ .replaceRuntime) :
    s'.app.channels.LaterOf s.app.channels := by
  cases event with
  | start channelId command actor =>
      rw [show s' = _ from hstep]
      unfold start
      split <;> exact .refl _
  | append index createdAtUnixSeconds fault =>
      obtain ⟨command, -, -, -, rfl⟩ := hstep
      unfold append
      split <;> exact .refl _
  | write index =>
      obtain ⟨command, -, -, rfl⟩ := hstep
      show (s.appAfterWrite command).channels.LaterOf _
      unfold appAfterWrite
      split
      · cases hfound : s.app.channels.get command.channelId with
        | none => exact .refl _
        | some channel => exact .write rfl rfl hfound rfl
      · exact .refl _
  | resetHealth channelId =>
      rw [show s' = _ from hstep]
      unfold resetHealth
      cases hfound : s.app.channels.get channelId with
      | none => exact .refl _
      | some channel =>
          dsimp only
          split
          · exact .refl _
          · exact .write rfl rfl hfound rfl
  -- a report changes the health of its channel, not what is configured
  | report channelId state snapshot r mutation =>
      obtain ⟨channel, hfound, hchannel, -, -, rfl⟩ := hstep
      refine .write rfl rfl hfound ?_
      show (applyStateMutation state snapshot r mutation).channel.configured = _
      rw [ChannelRuntime.configured_applyStateMutation, hchannel]
  | success channelId =>
      obtain ⟨channel, hfound, rfl⟩ := hstep
      refine .write rfl rfl hfound ?_
      show channel.recordSelectedChannelSuccess.configured = _
      rcases channel.recordSelectedChannelSuccess_cases with ⟨-, hsame⟩ | ⟨-, hnew⟩
      · rw [hsame]
        rfl
      · rw [hnew]
        rfl
  | audit audit createdAtUnixSeconds fault =>
      obtain ⟨-, -, rfl⟩ := hstep
      exact .refl _
  | readEvents config activeRegistryVersion inputs =>
      obtain ⟨-, -, -, rfl⟩ := hstep
      exact .refl _
  | replaceRuntime => exact absurd rfl hevent

/-- The registry has the routes and the channels of the configuration. -/
structure ChannelRegistrySnapshot.Runs (registry : ChannelRegistrySnapshot)
    (config : FullResolvedConfig) : Prop where
  modelRoutes : registry.modelRoutes = config.modelRoutes
  channels : ∀ channelId, (registry.get channelId).map (·.configured) =
    (config.pools.lookup channelId).map fun pool =>
      (RegistryChannel.fromConfig pool pool.credentialSetId).configured

theorem ChannelRegistrySnapshot.runs_of_rebuild {ρ τ : Type} {config : FullResolvedConfig}
    {version : Option Nat} {inputs : RebuildInputs} {s s' : AppState ρ τ}
    (hvisits : inputs.Visits config)
    (h : rebuildRuntimeFromResolvedConfig config version inputs s = (.ok (), s'))
    {live : ChannelRegistrySnapshot} (hlive : live.LaterOf s'.channels) : live.Runs config := by
  obtain ⟨built, hbuilt, rfl⟩ := eq_of_rebuild_ok h
  refine ⟨hlive.modelRoutes, fun channelId => (hlive.channels channelId).trans ?_⟩
  obtain ⟨events, -, hget⟩ := get_rebuiltChannels hvisits hbuilt channelId
  show (built.pools[channelId]?).map _ = _
  rw [hget]
  cases config.pools.lookup channelId <;> rfl

namespace ChannelRegistrySnapshot.Runs

variable {registry : ChannelRegistrySnapshot} {config : FullResolvedConfig} {channelId : String}

theorem pool_of_get (h : registry.Runs config) {channel : RegistryChannel}
    (hfound : registry.get channelId = some channel) :
    ∃ pool, config.pools.lookup channelId = some pool ∧
      channel.configuredEnabled = pool.configuredEnabled ∧
      channel.accountEnabled = pool.accountEnabled ∧
      channel.poolState.providerKind = pool.providerKind := by
  have hchannels := h.channels channelId
  rw [hfound] at hchannels
  obtain ⟨pool, hlookup, heq⟩ := Option.map_eq_some_iff.mp hchannels.symm
  refine ⟨pool, hlookup, ?_, ?_, ?_⟩
  · exact congrArg (·.2.1) heq.symm
  · exact congrArg (·.2.2) heq.symm
  · exact congrArg (·.1.providerKind) heq.symm

theorem get_of_pool (h : registry.Runs config) {pool : FullPoolConfig}
    (hlookup : config.pools.lookup channelId = some pool) :
    ∃ channel, registry.get channelId = some channel := by
  have hchannels := h.channels channelId
  rw [hlookup] at hchannels
  obtain ⟨channel, hfound, -⟩ := Option.map_eq_some_iff.mp hchannels
  exact ⟨channel, hfound⟩

end ChannelRegistrySnapshot.Runs

/-! ## §5. The agreement. -/

/-- The input of a preview for the model, as the registry finds the channels. -/
def ChannelRegistrySnapshot.modelPreviewInput (registry : ChannelRegistrySnapshot)
    (observation : RouteObservation) (requestId : String) (candidateLimit : Nat)
    (allowedChannels : List String) (model : String) : RoutePreviewInput :=
  let context := registry.routePlanContext observation (some model)
  { requestId := requestId
    registryGeneration := context.registryGeneration
    publicModel := some model
    route := context.modelRoute
    channelStates := context.modelRouteChannelStates
    allowedChannels := allowedChannels
    candidateLimit := candidateLimit }

/-- A candidate of a catalog-capable provider kind that nothing hides. -/
def RoutePreviewCandidate.Visible (candidate : RoutePreviewCandidate) : Prop :=
  candidate.providerKind.modelCatalogCapability.isSome = true ∧
    ∀ reason ∈ hidingReasons, reason ∉ candidate.reasons

theorem previewRoute_visible_iff {input : RoutePreviewInput} {route : ModelRoute}
    (h : input.route = some route) :
    (∃ candidate ∈ (previewRoute input).candidates, candidate.Visible) ↔
      ∃ target ∈ route.targets, target.providerKind.modelCatalogCapability.isSome = true ∧
        ∀ reason ∈ hidingReasons, reason ∉ hardBlockers input target := by
  constructor
  · intro hvisible
    obtain ⟨candidate, hmem, hcapable, hreasons⟩ := hvisible
    obtain ⟨i, hi⟩ := List.mem_iff_getElem?.mp hmem
    have hlt : i < route.targets.length := by
      rw [← length_candidates h]
      exact (List.getElem?_eq_some_iff.mp hi).1
    obtain ⟨c, hc, hkind, hblockers⟩ := previewRoute_reasons h (List.getElem?_eq_getElem hlt)
    obtain rfl : c = candidate := Option.some.inj (hc.symm.trans hi)
    refine ⟨route.targets[i], List.getElem_mem hlt, hkind ▸ hcapable, ?_⟩
    exact fun reason hreason hblocker =>
      hreasons reason hreason ((hblockers reason hreason).mpr hblocker)
  · intro htarget
    obtain ⟨target, hmem, hcapable, hblockers⟩ := htarget
    obtain ⟨i, hi⟩ := List.mem_iff_getElem?.mp hmem
    obtain ⟨c, hc, hkind, hreasons⟩ := previewRoute_reasons h hi
    refine ⟨c, List.mem_of_getElem? hc, hkind ▸ hcapable, ?_⟩
    exact fun reason hreason hin =>
      hblockers reason hreason ((hreasons reason hreason).mp hin)

/-- Every target of the route has a route state. -/
theorem ChannelRegistrySnapshot.channelStates_modelPreviewInput
    {registry : ChannelRegistrySnapshot} {model : String} {route : ModelRoute}
    (hroute : registry.modelRoutes.lookup model = some route) {target : RouteTarget}
    (htarget : target ∈ route.targets) (observation : RouteObservation) (requestId : String)
    (candidateLimit : Nat) (allowedChannels : List String) :
    (registry.modelPreviewInput observation requestId candidateLimit allowedChannels
      model).channelStates target.channelId =
        some (registry.routeState observation target.channelId) := by
  show ((registry.modelRoutes.lookup model).bind fun route =>
    registry.routeChannelStates observation route target.channelId) = _
  rw [hroute]
  show registry.routeChannelStates observation route target.channelId = _
  unfold routeChannelStates
  apply if_pos
  rw [List.contains_iff_mem]
  exact List.mem_map.mpr ⟨target, htarget, rfl⟩

/-- The visible candidates of a preview, from the registry. -/
theorem ChannelRegistrySnapshot.modelPreview_visible_iff {registry : ChannelRegistrySnapshot}
    {observation : RouteObservation} {requestId : String} {candidateLimit : Nat}
    {allowedChannels : List String} {model : String} :
    (∃ candidate ∈ (previewRoute (registry.modelPreviewInput observation requestId
        candidateLimit allowedChannels model)).candidates, candidate.Visible) ↔
      ∃ route, registry.modelRoutes.lookup model = some route ∧ ∃ target ∈ route.targets,
        target.providerKind.modelCatalogCapability.isSome = true ∧ target.enabled = true ∧
        channelIsAllowed target.channelId allowedChannels = true ∧
        ∃ channel, registry.get target.channelId = some channel ∧ channel.InUse := by
  cases hroute : registry.modelRoutes.lookup model with
  | none =>
      -- without a route the preview has no candidates
      have hempty : (previewRoute (registry.modelPreviewInput observation requestId
          candidateLimit allowedChannels model)).candidates = [] := by
        unfold previewRoute
        rw [show (registry.modelPreviewInput observation requestId candidateLimit
          allowedChannels model).route = none from hroute]
      rw [hempty]
      simp
  | some route =>
      refine (@previewRoute_visible_iff _ route hroute).trans ?_
      have htarget : ∀ target ∈ route.targets,
          (∀ reason ∈ hidingReasons, reason ∉ hardBlockers (registry.modelPreviewInput
            observation requestId candidateLimit allowedChannels model) target) ↔
          target.enabled = true ∧ channelIsAllowed target.channelId allowedChannels = true ∧
            ∃ channel, registry.get target.channelId = some channel ∧ channel.InUse := by
        intro target hmem
        rw [not_hidden_iff, channelStates_modelPreviewInput hroute hmem, Ne, Ne,
          Option.some.injEq, Option.some.injEq, ← Ne, ← Ne, routeState_not_hidden_iff]
        exact Iff.rfl
      constructor
      · intro h
        obtain ⟨target, hmem, hcapable, hvisible⟩ := h
        exact ⟨route, rfl, target, hmem, hcapable, (htarget target hmem).mp hvisible⟩
      · intro h
        obtain ⟨route', hsame, target, hmem, hcapable, hvisible⟩ := h
        obtain rfl := Option.some.inj hsame
        exact ⟨target, hmem, hcapable, (htarget target hmem).mpr hvisible⟩

/-- A target that the catalog shows, from the configuration and the health of the channel. -/
theorem ChannelRegistrySnapshot.Runs.targetVisible_iff {registry : ChannelRegistrySnapshot}
    {config : FullResolvedConfig} (hruns : registry.Runs config)
    {target : RouteTarget} {pool : FullPoolConfig}
    (hlookup : config.pools.lookup target.channelId = some pool)
    (hkind : target.providerKind = pool.providerKind) {allowedChannels : List String} :
    (∃ channel, TargetVisible registry allowedChannels target channel) ↔
      target.providerKind.modelCatalogCapability.isSome = true ∧ target.enabled = true ∧
        channelIsAllowed target.channelId allowedChannels = true ∧
        ∃ channel, registry.get target.channelId = some channel ∧ channel.InUse := by
  have hsame : ∀ channel, registry.get target.channelId = some channel →
      channel.poolState.providerKind = target.providerKind := by
    intro channel hfound
    obtain ⟨pool', hlookup', -, -, hkind'⟩ := hruns.pool_of_get hfound
    obtain rfl : pool = pool' := Option.some.inj (hlookup.symm.trans hlookup')
    exact hkind'.trans hkind.symm
  constructor
  · intro h
    obtain ⟨channel, hvisible⟩ := h
    refine ⟨hsame channel hvisible.found ▸ hvisible.capable, hvisible.enabled, hvisible.inScope,
      channel, hvisible.found, hvisible.configured, hvisible.account, hvisible.healthy⟩
  · intro h
    obtain ⟨hcapable, henabled, hscope, channel, hfound, hconfigured, haccount, hhealthy⟩ := h
    exact ⟨channel, henabled, hfound, hconfigured, haccount, hscope, hhealthy,
      (hsame channel hfound).symm ▸ hcapable⟩

/-- The two tests of a client's models agree. -/
theorem clientModelAllowed_eq {config : FullResolvedConfig} (hresolved : ResolvedRoutes config)
    {catalogs : RuntimeCatalogSnapshot}
    (hcatalogs : catalogs.modelGroups = modelGroupMemberships config.modelGroups)
    (allowedModelGroups : List String) (model : String) :
    catalogs.clientModelAllowed allowedModelGroups model =
      clientModelAllowed config.modelGroups allowedModelGroups model := by
  unfold RuntimeCatalogSnapshot.clientModelAllowed clientModelAllowed
  congr 2
  funext allowed
  rw [hcatalogs, lookup_modelGroupMemberships hresolved.groupId]
  cases config.modelGroups.lookup allowed <;> rfl

/-- A rebuilt registry lists a model for a client who may use it, if it has a target that is
in use and within the client's scope. -/
theorem ChannelRegistrySnapshot.Runs.lists_iff {live : ChannelRegistrySnapshot}
    {config : FullResolvedConfig} (hruns : live.Runs config) (hresolved : ResolvedRoutes config)
    (catalogs : RuntimeCatalogSnapshot) (client : AuthorizedClient) (model : String) :
    (modelsResponse live catalogs client).ListsModel model ↔
      catalogs.clientModelAllowed client.allowedModelGroups model = true ∧
      ∃ route, config.modelRoutes.lookup model = some route ∧ ∃ target ∈ route.targets,
        target.providerKind.modelCatalogCapability.isSome = true ∧ target.enabled = true ∧
        channelIsAllowed target.channelId client.allowedChannels = true ∧
        ∃ channel, live.get target.channelId = some channel ∧ channel.InUse := by
  rw [modelsResponse_lists_iff, hruns.modelRoutes]
  refine and_congr_right fun _ => ?_
  -- a route is stored under its public model
  constructor
  · intro h
    obtain ⟨key, route, hlookup, hmodel, target, hmem, hvisible⟩ := h
    obtain rfl : key = model := (hresolved.publicModel key route hlookup).symm.trans hmodel
    obtain ⟨pool, hpool, hkind⟩ := hresolved.targets key route hlookup target hmem
    exact ⟨route, hlookup, target, hmem, (hruns.targetVisible_iff hpool hkind).mp hvisible⟩
  · intro h
    obtain ⟨route, hlookup, target, hmem, hvisible⟩ := h
    obtain ⟨pool, hpool, hkind⟩ := hresolved.targets model route hlookup target hmem
    exact ⟨model, route, hlookup, hresolved.publicModel model route hlookup, target, hmem,
      (hruns.targetVisible_iff hpool hkind).mpr hvisible⟩

/-- What `/v1/models` lists is what the client may use and what has a candidate that no
visibility reason hides; with no channel disabled it is what the control plane lists. -/
theorem catalog_scope_and_routing_agree {ρ τ : Type} {environment : ResolveEnvironment}
    {document : RegistryDocument} {orders : SectionOrders document}
    {config : FullResolvedConfig} (hresolve : resolve environment document orders = .ok config)
    {version : Option Nat} {inputs : RebuildInputs} {s s' : AppState ρ τ}
    (hvisits : inputs.Visits config)
    (hrebuild : rebuildRuntimeFromResolvedConfig config version inputs s = (.ok (), s'))
    {live : ChannelRegistrySnapshot} (hlive : live.LaterOf s'.channels) :
    (∀ client model observation requestId candidateLimit,
      (modelsResponse live s'.runtimeCatalogs client).ListsModel model ↔
        s'.runtimeCatalogs.clientModelAllowed client.allowedModelGroups model = true ∧
        ∃ candidate ∈ (previewRoute (live.modelPreviewInput observation requestId
          candidateLimit client.allowedChannels model)).candidates, candidate.Visible) ∧
    ∀ clientToken : ResolvedClientToken,
      (∀ channelId channel, live.get channelId = some channel →
        channel.health.isDisabled = false) →
      ∀ model, (modelsResponse live s'.runtimeCatalogs clientToken.authorized).ListsModel model ↔
        model ∈ visibleModelsForClient config clientToken := by
  have hresolved := ResolvedRoutes.of_resolve hresolve
  have hruns := ChannelRegistrySnapshot.runs_of_rebuild hvisits hrebuild hlive
  have hroutes : live.modelRoutes = config.modelRoutes := hruns.modelRoutes
  have hlists := hruns.lists_iff hresolved s'.runtimeCatalogs
  constructor
  · intro client model observation requestId candidateLimit
    rw [hlists, ChannelRegistrySnapshot.modelPreview_visible_iff, hroutes]
  · intro clientToken hhealthy model
    have hcatalogs : s'.runtimeCatalogs.modelGroups = modelGroupMemberships config.modelGroups := by
      obtain ⟨built, -, rfl⟩ := eq_of_rebuild_ok hrebuild
      rfl
    rw [hlists, mem_visibleModelsForClient, clientModelAllowed_eq hresolved hcatalogs]
    refine and_congr_right fun _ => exists_congr fun route => and_congr_right fun hlookup => ?_
    refine exists_congr fun target => and_congr_right fun hmem => ?_
    obtain ⟨pool, hpool, hkind⟩ := hresolved.targets model route hlookup target hmem
    rw [configuredTargetVisible_iff]
    -- with no channel disabled, a channel is in use if its configuration says so
    constructor
    · intro h
      obtain ⟨hcapable, henabled, hscope, channel, hfound, hconfigured, haccount, -⟩ := h
      obtain ⟨pool', hpool', hconfigured', haccount', -⟩ := hruns.pool_of_get hfound
      obtain rfl : pool = pool' := Option.some.inj (hpool.symm.trans hpool')
      exact ⟨henabled, hscope, pool, hpool, hconfigured' ▸ hconfigured, haccount' ▸ haccount,
        hkind ▸ hcapable⟩
    · intro h
      obtain ⟨henabled, hscope, pool', hpool', hconfigured, haccount, hcapable⟩ := h
      obtain rfl : pool = pool' := Option.some.inj (hpool.symm.trans hpool')
      obtain ⟨channel, hfound⟩ := hruns.get_of_pool hpool
      obtain ⟨pool', hpool', hconfigured', haccount', -⟩ := hruns.pool_of_get hfound
      obtain rfl : pool = pool' := Option.some.inj (hpool.symm.trans hpool')
      exact ⟨hkind ▸ hcapable, henabled, hscope, channel, hfound, hconfigured'.trans hconfigured,
        haccount'.trans haccount, hhealthy _ channel hfound⟩

/-! The model `gpt` on the channel `chat`, in a group for chats. -/

def routedDocument : RegistryDocument :=
  { shadowedDocument with
    providers := [⟨"openai", ⟨.openAiCompatible, true⟩⟩].toFinmap
    modelRoutes := [⟨"gpt", ⟨none, [⟨"chat", none, 0, 1, true⟩]⟩⟩].toFinmap
    modelGroups := [⟨"chats", ⟨["gpt"]⟩⟩].toFinmap }

def routedOrders : SectionOrders routedDocument :=
  let shadowed := shadowedOrders
    ⟨[⟨"openai", ⟨.openAiCompatible, true⟩⟩, ⟨" openai", ⟨.genericHttp, true⟩⟩], rfl⟩
  { pools := shadowed.pools
    credentialSets := shadowed.credentialSets
    providers := ⟨[⟨"openai", ⟨.openAiCompatible, true⟩⟩], rfl⟩
    accounts := shadowed.accounts
    policyProfiles := shadowed.policyProfiles
    routingProfiles := shadowed.routingProfiles
    modelRoutes := ⟨[⟨"gpt", ⟨none, [⟨"chat", none, 0, 1, true⟩]⟩⟩], rfl⟩
    modelGroups := ⟨[⟨"chats", ⟨["gpt"]⟩⟩], rfl⟩ }

/-- A token for the chats. -/
def chatsToken : ResolvedClientToken where
  id := "1"
  name := "client"
  tokenHash := "digest"
  enabled := true
  allowedModelGroups := ["chats"]
  allowedChannels := ["chat"]

/-- The channels in order, and nothing stored. -/
def freshInputs (config : FullResolvedConfig) : RebuildInputs :=
  { unreadableInputs with poolConfigs := IdMap.sortedEntries config.pools }

/-- Right after the reload, the token is shown the model on both paths. -/
theorem catalog_scope_and_routing_agree_chats :
    ∃ config s', resolve oneKeyEnvironment routedDocument routedOrders = .ok config ∧
      rebuildRuntimeFromResolvedConfig config (some 2) (freshInputs config) emptyApp =
        (.ok (), s') ∧
      (modelsResponse s'.channels s'.runtimeCatalogs chatsToken.authorized).ListsModel "gpt" ∧
      "gpt" ∈ visibleModelsForClient config chatsToken := by
  have hresolve : resolve oneKeyEnvironment routedDocument routedOrders = .ok _ := rfl
  have hvisits : ∀ config, (freshInputs config).Visits config := fun _ => .refl _
  have hagree := @catalog_scope_and_routing_agree String String _ _ _ _ hresolve (some 2)
    (freshInputs _) emptyApp _ (hvisits _) rfl _ (.refl _)
  refine ⟨_, _, hresolve, rfl, (hagree.2 chatsToken ?_ "gpt").mpr ?_, ?_⟩
  · intro channelId channel hfound
    have hchannel := (getElem?_insert_channel ∅ "chat" channelId _).symm.trans hfound
    split at hchannel
    · obtain rfl := Option.some.inj hchannel
      rfl
    · cases hchannel
  · exact mem_visibleModelsForClient.mpr ⟨rfl, _, rfl, _, List.mem_cons_self, rfl⟩
  · exact mem_visibleModelsForClient.mpr ⟨rfl, _, rfl, _, List.mem_cons_self, rfl⟩

end OneAiKey
