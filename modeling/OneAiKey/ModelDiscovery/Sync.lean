/-
  OneAiKey.ModelDiscovery.Sync — what a sync of discovered models does to the
  routes, and what the plan says of it (`src/model_discovery.rs`).

  Every model's route grows by itself: `Grown` is what holds of it after some
  channels were discovered, one step lemma (`Grown.discover`) and one for the run.
  The plan sets each pair against the staged route; apply sets it against the grown
  one, which differs from the staged one as soon as one channel was added.

  Main results:
    * `discovery_sync_preserves_routes` — what is kept, what is added, and that a
      second sync changes nothing;
    * `discovery_plan_agrees_iff` — plan and apply report the same, but for models
      that are found again after a pair that changed them.
-/
import OneAiKey.ModelDiscovery
import OneAiKey.RegistryStore.LoadBack

namespace OneAiKey

/-! ## §1. A route grows. -/

/-- From `old` to `new`, when the channels were discovered one after another. -/
structure Grown (old new : Option ModelRouteConfig) (channels : List String)
    (added : List ModelRouteTargetConfig) : Prop where
  /-- The old targets are a prefix. -/
  targets : routeTargets new = routeTargets old ++ added
  strategy : ∀ route, old = some route →
    ∃ route', new = some route' ∧ route'.strategy = route.strategy
  targeted : ∀ channel ∈ channels, channel ∈ targetChannels new
  /-- No channel gets two targets, -/
  distinct : (added.map (·.channel)).Nodup
  /-- and none that was not discovered, or that had one. -/
  fresh : ∀ target ∈ added, target.channel ∈ channels ∧ target.channel ∉ targetChannels old
  priority_old : ∀ target ∈ added, ∀ earlier ∈ routeTargets old,
    earlier.priority ≤ target.priority
  priority_added : added.Pairwise fun earlier target => earlier.priority ≤ target.priority

theorem Grown.refl (route : Option ModelRouteConfig) : Grown route route [] [] where
  targets := (List.append_nil _).symm
  strategy := fun route h => ⟨route, h, rfl⟩
  targeted := nofun
  distinct := List.nodup_nil
  fresh := nofun
  priority_old := nofun
  priority_added := List.Pairwise.nil

theorem Grown.channels_eq {old new : Option ModelRouteConfig} {channels : List String}
    {added : List ModelRouteTargetConfig} (h : Grown old new channels added) :
    targetChannels new = targetChannels old ++ added.map (·.channel) := by
  unfold targetChannels
  rw [h.targets, List.map_append]

/-- One more channel: nothing is added, or one target. -/
theorem Grown.discover {old new : Option ModelRouteConfig} {channels : List String}
    {added : List ModelRouteTargetConfig} (h : Grown old new channels added)
    (channelId : String) :
    ∃ added', Grown old (discover new channelId) (channels ++ [channelId]) added' := by
  by_cases hmem : channelId ∈ targetChannels new
  · -- the channel has a target, so nothing is added
    rw [discover_of_mem hmem]
    refine ⟨added, h.targets, h.strategy, ?_, h.distinct, ?_, h.priority_old,
      h.priority_added⟩
    · intro channel hchannel
      rcases List.mem_append.mp hchannel with hchannel | hchannel
      · exact h.targeted channel hchannel
      · rw [List.mem_singleton.mp hchannel]
        exact hmem
    · intro target htarget
      exact ⟨List.mem_append_left _ (h.fresh target htarget).1, (h.fresh target htarget).2⟩
  · -- its target goes behind all others, with a priority not below theirs
    obtain ⟨priority, htargets, hpriority⟩ := discover_of_not_mem hmem
    -- no channel was a target of it before
    have hchannels : targetChannels (OneAiKey.discover new channelId) =
        targetChannels new ++ [channelId] := by
      unfold targetChannels
      rw [htargets, List.map_append]
      rfl
    rw [h.channels_eq, List.mem_append, not_or] at hmem
    rw [h.targets] at htargets hpriority
    refine ⟨added ++ [discoveredRouteTarget channelId priority], ?_, ?_, ?_, ?_, ?_, ?_, ?_⟩
    · rw [htargets, List.append_assoc]
    · intro route hroute
      obtain ⟨route', hroute', hstrategy⟩ := h.strategy route hroute
      obtain ⟨route'', hroute'', hstrategy'⟩ := discover_strategy route' channelId
      rw [hroute']
      exact ⟨route'', hroute'', hstrategy'.trans hstrategy⟩
    · intro channel hchannel
      rw [hchannels, List.mem_append]
      exact (List.mem_append.mp hchannel).imp_left (h.targeted channel)
    · rw [List.map_append]
      refine List.nodup_append.mpr ⟨h.distinct, List.nodup_singleton _, ?_⟩
      intro channel hchannel channel' hchannel' heq
      obtain rfl : channel = channelId := heq.trans (List.mem_singleton.mp hchannel')
      exact hmem.2 hchannel
    · intro target htarget
      rcases List.mem_append.mp htarget with htarget | htarget
      · exact ⟨List.mem_append_left _ (h.fresh target htarget).1, (h.fresh target htarget).2⟩
      · rw [List.mem_singleton.mp htarget]
        exact ⟨List.mem_append_right _ (List.mem_singleton_self _), hmem.1⟩
    · intro target htarget earlier hearlier
      rcases List.mem_append.mp htarget with htarget | htarget
      · exact h.priority_old target htarget earlier hearlier
      · rw [List.mem_singleton.mp htarget]
        exact hpriority earlier (List.mem_append_left _ hearlier)
    · refine List.pairwise_append.mpr ⟨h.priority_added, List.pairwise_singleton _ _, ?_⟩
      intro earlier hearlier target htarget
      rw [List.mem_singleton.mp htarget]
      exact hpriority earlier (List.mem_append_right _ hearlier)

/-- The channels of a run; `done` is what was discovered before. -/
theorem Grown.run {old new : Option ModelRouteConfig} {done : List String}
    {added : List ModelRouteTargetConfig} (h : Grown old new done added)
    (channels : List String) :
    ∃ added', Grown old (channels.foldl OneAiKey.discover new) (done ++ channels) added' := by
  induction channels generalizing new done added with
  | nil =>
      rw [List.append_nil]
      exact ⟨added, h⟩
  | cons channelId channels ih =>
      obtain ⟨added', h'⟩ := h.discover channelId
      rw [List.append_cons]
      exact ih h'

theorem exists_grown (route : Option ModelRouteConfig) (channels : List String) :
    ∃ added, Grown route (channels.foldl discover route) channels added :=
  (Grown.refl route).run channels

/-! ## §2. The changed routes. -/

/-- The channels on which a model was discovered. -/
def discoveredChannels (pairs : List (String × String)) (model : String) : List String :=
  (pairs.filter fun pair => pair.1 = model).map Prod.snd

theorem mem_discoveredChannels {pairs : List (String × String)} {model channelId : String} :
    channelId ∈ discoveredChannels pairs model ↔ (model, channelId) ∈ pairs := by
  unfold discoveredChannels
  simp

/-- The routes once the changed ones are stored. -/
def withChangedRoutes (routes : IdMap ModelRouteConfig)
    (changed : List (String × ModelRouteConfig)) : IdMap ModelRouteConfig :=
  changed.foldl (fun m route => m.insert route.1 route.2) routes

theorem lookup_withChangedRoutes (routes changed : IdMap ModelRouteConfig) (model : String) :
    (withChangedRoutes routes (IdMap.sortedEntries changed)).lookup model =
      (changed.lookup model).or (routes.lookup model) := by
  have hnodup : ((IdMap.sortedEntries changed).map Prod.fst).Nodup := by
    rw [IdMap.map_fst_sortedEntries]
    exact IdMap.nodup_sortedKeys changed
  have hkeys : model ∈ (IdMap.sortedEntries changed).map Prod.fst ↔ model ∈ changed := by
    rw [IdMap.map_fst_sortedEntries, IdMap.mem_sortedKeys]
  apply Option.ext
  intro route
  unfold withChangedRoutes
  rw [Grouping.lookup_foldl_insert hnodup, IdMap.mem_sortedEntries, hkeys, Finmap.mem_iff]
  cases changed.lookup model with
  | none => simp
  | some route' => simp

/-- Apply never fails; it reports the pairs one after another and changes each route by
the channels of its model. -/
theorem exists_changes (staged : IdMap ModelRouteConfig)
    (discoveries : List ModelDiscoveryResponse) :
    ∃ changes, stagedRegistryModelDiscoverySyncChanges staged discoveries = .ok changes ∧
      changes.actions = sortDiscoveryActions
        (discoveryReports (fun model => staged.lookup model) (discoveredModels discoveries)) ∧
      ∀ model, (withChangedRoutes staged changes.routes).lookup model =
        (discoveredChannels (discoveredModels discoveries) model).foldl discover
          (staged.lookup model) := by
  obtain ⟨sync, hrun, hroutes, hactions, hchanged⟩ := exists_sync staged
    (discoveredModels discoveries) ⟨staged, ∅, []⟩ (by simp)
  refine ⟨⟨IdMap.sortedEntries sync.changedRoutes, sortDiscoveryActions sync.actions⟩, ?_, ?_, ?_⟩
  · unfold stagedRegistryModelDiscoverySyncChanges
    rw [foldlM_syncDiscovery, hrun]
    rfl
  · rw [hactions]
    rfl
  · intro model
    rw [lookup_withChangedRoutes, ← hchanged model]
    exact (congrFun hroutes model).trans (foldl_discoverAt _ _ model)

/-- A sync of routes that target all the channels changes none. -/
theorem no_changes {routes : IdMap ModelRouteConfig} {discoveries : List ModelDiscoveryResponse}
    (h : ∀ pair ∈ discoveredModels discoveries, pair.2 ∈ targetChannels (routes.lookup pair.1)) :
    ∃ changes, stagedRegistryModelDiscoverySyncChanges routes discoveries = .ok changes ∧
      changes.routes = [] := by
  obtain ⟨actions, hrun⟩ := sync_of_mem (discoveredModels discoveries) ⟨routes, ∅, []⟩ h
  refine ⟨⟨[], sortDiscoveryActions actions⟩, ?_, rfl⟩
  unfold stagedRegistryModelDiscoverySyncChanges
  rw [foldlM_syncDiscovery, hrun]
  rfl

/-- Of each model the route has grown by the channels that have the model; a model that
no channel has keeps its route; and the same discoveries change nothing more. -/
theorem discovery_sync_preserves_routes (staged : IdMap ModelRouteConfig)
    (discoveries : List ModelDiscoveryResponse) :
    ∃ changes, stagedRegistryModelDiscoverySyncChanges staged discoveries = .ok changes ∧
      (∀ model, ∃ added, Grown (staged.lookup model)
        ((withChangedRoutes staged changes.routes).lookup model)
        (discoveredChannels (discoveredModels discoveries) model) added) ∧
      (∀ model, (∀ channelId, (model, channelId) ∉ discoveredModels discoveries) →
        (withChangedRoutes staged changes.routes).lookup model = staged.lookup model) ∧
      ∃ again, stagedRegistryModelDiscoverySyncChanges
          (withChangedRoutes staged changes.routes) discoveries = .ok again ∧
        again.routes = [] := by
  obtain ⟨changes, hchanges, -, hlookup⟩ := exists_changes staged discoveries
  have hgrown : ∀ model, ∃ added, Grown (staged.lookup model)
      ((withChangedRoutes staged changes.routes).lookup model)
      (discoveredChannels (discoveredModels discoveries) model) added := by
    intro model
    rw [hlookup]
    exact exists_grown _ _
  refine ⟨changes, hchanges, hgrown, ?_, no_changes ?_⟩
  · intro model hundiscovered
    have hnone : discoveredChannels (discoveredModels discoveries) model = [] :=
      List.eq_nil_iff_forall_not_mem.mpr fun channelId hmem =>
        hundiscovered channelId (mem_discoveredChannels.mp hmem)
    rw [hlookup, hnone]
    rfl
  · intro pair hpair
    obtain ⟨added, hadded⟩ := hgrown pair.1
    exact hadded.targeted pair.2 (mem_discoveredChannels.mpr hpair)

/-! ## §3. The plan beside apply. -/

/-- The columns that the plan has. -/
def ModelDiscoverySyncApplyActionStatus.planned (action : ModelDiscoverySyncApplyActionStatus) :
    ModelDiscoverySyncPlanActionStatus :=
  ⟨action.model, action.channelId, action.action, action.existingTargetCount⟩

theorem sortDiscoveryActions_planned (actions : List ModelDiscoverySyncApplyActionStatus) :
    sortDiscoveryActions (actions.map (·.planned)) =
      (sortDiscoveryActions actions).map (·.planned) := by
  unfold sortDiscoveryActions
  refine (List.map_insertionSort (fun a b => discoveryActionLe a b = true) _ _ actions ?_).symm
  exact fun _ _ _ _ => Iff.rfl

/-- The plan sets every pair against the staged routes. -/
theorem planActions_eq (staged : IdMap ModelRouteConfig)
    (discoveries : List ModelDiscoveryResponse) :
    stagedRegistryModelDiscoveryPlanActions staged discoveries =
      (sortDiscoveryActions ((discoveredModels discoveries).map fun pair =>
        discoveryReport (staged.lookup pair.1) pair)).map (·.planned) := by
  rw [← sortDiscoveryActions_planned]
  unfold stagedRegistryModelDiscoveryPlanActions discoveredModels
  rw [List.map_map, List.map_flatMap]
  refine congrArg sortDiscoveryActions (List.flatMap_congr fun discovery _ => ?_)
  split
  · rfl
  · rw [List.map_map]
    rfl

/-- What the actions are sorted by. -/
def actionPair (action : ModelDiscoverySyncApplyActionStatus) : String × String :=
  (action.model, action.channelId)

theorem map_actionPair_sort (actions : List ModelDiscoverySyncApplyActionStatus) :
    (sortDiscoveryActions actions).map actionPair =
      (actions.map actionPair).insertionSort fun a b =>
        ((compare a.1 b.1).then (compare a.2 b.2)).isLE = true :=
  List.map_insertionSort _ _ _ _ fun _ _ _ _ => Iff.rfl

theorem map_actionPair_reports (routes : String → Option ModelRouteConfig)
    (pairs : List (String × String)) : (discoveryReports routes pairs).map actionPair = pairs := by
  induction pairs generalizing routes with
  | nil => rfl
  | cons pair pairs ih => exact congrArg (pair :: ·) (ih (discoverAt routes pair))

theorem exists_of_mem_discoveryReports {routes : String → Option ModelRouteConfig}
    {pairs : List (String × String)} {action : ModelDiscoverySyncApplyActionStatus}
    (h : action ∈ discoveryReports routes pairs) :
    ∃ route pair, action = discoveryReport route pair := by
  induction pairs generalizing routes with
  | nil => cases h
  | cons pair pairs ih =>
      rcases List.mem_cons.mp h with rfl | h
      · exact ⟨routes pair.1, pair, rfl⟩
      · exact ih h

/-- What is reported of a pair is what it meets. -/
theorem discoveryReport_mem_reports (routes : String → Option ModelRouteConfig)
    (before : List (String × String)) (pair : String × String)
    (behind : List (String × String)) :
    discoveryReport (before.foldl discoverAt routes pair.1) pair ∈
      discoveryReports routes (before ++ pair :: behind) := by
  induction before generalizing routes with
  | nil => exact List.mem_cons_self
  | cons first before ih => exact List.mem_cons_of_mem _ (ih (discoverAt routes first))

/-- A pair changes its staged route, and its model comes again. -/
def Overtaken (staged : String → Option ModelRouteConfig) (pairs : List (String × String)) : Prop :=
  ∃ before pair mid later behind, pairs = before ++ pair :: mid ++ later :: behind ∧
    later.1 = pair.1 ∧ pair.2 ∉ targetChannels (staged pair.1)

theorem Overtaken.cons {staged : String → Option ModelRouteConfig}
    {pairs : List (String × String)} (h : Overtaken staged pairs) (pair : String × String) :
    Overtaken staged (pair :: pairs) := by
  obtain ⟨before, pair', mid, later, behind, rfl, h⟩ := h
  exact ⟨pair :: before, pair', mid, later, behind, rfl, h⟩

/-- If no pair is overtaken, every pair meets the staged route. -/
theorem discoveryReports_eq_map {staged routes : String → Option ModelRouteConfig}
    {pairs : List (String × String)} (hroutes : ∀ pair ∈ pairs, routes pair.1 = staged pair.1)
    (h : ¬Overtaken staged pairs) :
    discoveryReports routes pairs =
      pairs.map fun pair => discoveryReport (staged pair.1) pair := by
  induction pairs generalizing routes with
  | nil => rfl
  | cons pair pairs ih =>
      have hpair := hroutes pair List.mem_cons_self
      show discoveryReport (routes pair.1) pair :: discoveryReports (discoverAt routes pair) pairs =
        discoveryReport (staged pair.1) pair :: _
      rw [hpair]
      refine congrArg _ (ih ?_ fun hrest => h (hrest.cons pair))
      intro later hlater
      by_cases hmodel : later.1 = pair.1
      · -- the model comes again, so the pair has left its route alone
        obtain ⟨mid, behind, rfl⟩ := List.append_of_mem hlater
        have hmem : pair.2 ∈ targetChannels (staged pair.1) := by
          by_contra hnew
          exact h ⟨[], pair, mid, later, behind, rfl, hmodel, hnew⟩
        rw [← hpair] at hmem
        rw [discoverAt_of_mem hmem]
        exact hroutes later (List.mem_cons_of_mem _ hlater)
      · rw [discoverAt_of_ne hmodel]
        exact hroutes later (List.mem_cons_of_mem _ hlater)

/-- A route that got a channel has more targets than the staged one. -/
theorem length_lt_of_discovered {staged : String → Option ModelRouteConfig}
    {pairs : List (String × String)} {pair : String × String} (hpair : pair ∈ pairs)
    (hnew : pair.2 ∉ targetChannels (staged pair.1)) :
    (routeTargets (staged pair.1)).length <
      (routeTargets (pairs.foldl discoverAt staged pair.1)).length := by
  rw [foldl_discoverAt]
  obtain ⟨added, h⟩ := exists_grown (staged pair.1) (discoveredChannels pairs pair.1)
  have hmem := h.targeted pair.2 (mem_discoveredChannels.mpr hpair)
  rw [h.channels_eq, List.mem_append] at hmem
  obtain ⟨target, htarget, -⟩ := List.mem_map.mp (hmem.resolve_left hnew)
  show _ < (routeTargets ((discoveredChannels pairs pair.1).foldl discover (staged pair.1))).length
  rw [h.targets, List.length_append]
  have := List.length_pos_of_mem htarget
  omega

/-- An overtaken pair shows: what is reported of the later one is in no plan. -/
theorem planned_ne_of_overtaken {staged : String → Option ModelRouteConfig}
    {pairs : List (String × String)} (h : Overtaken staged pairs) :
    ∃ action ∈ discoveryReports staged pairs, ∀ pair ∈ pairs,
      (discoveryReport (staged pair.1) pair).planned ≠ action.planned := by
  obtain ⟨before, pair, mid, later, behind, rfl, hmodel, hnew⟩ := h
  refine ⟨_, discoveryReport_mem_reports staged (before ++ pair :: mid) later behind, ?_⟩
  intro pair' _ heq
  have hmodel' : pair'.1 = later.1 := congrArg ModelDiscoverySyncPlanActionStatus.model heq
  have hcount : (modelDiscoverySyncPlanAction (staged pair'.1) pair'.2).2 =
      (modelDiscoverySyncPlanAction
        ((before ++ pair :: mid).foldl discoverAt staged later.1) later.2).2 :=
    congrArg ModelDiscoverySyncPlanActionStatus.existingTargetCount heq
  rw [planAction_count, planAction_count, hmodel', hmodel] at hcount
  have hlt := length_lt_of_discovered
    (List.mem_append_right before (List.mem_cons_self : pair ∈ pair :: mid)) hnew
  omega

/-- Plan and apply list the same pairs in the same order, and apply has changed a route
just when it does not say unchanged.  Action and count agree as well, if and only if no
pair that the staged routes lack is followed by another of its model. -/
theorem discovery_plan_agrees_iff (staged : IdMap ModelRouteConfig)
    (discoveries : List ModelDiscoveryResponse) :
    ∃ changes, stagedRegistryModelDiscoverySyncChanges staged discoveries = .ok changes ∧
      (stagedRegistryModelDiscoveryPlanActions staged discoveries).map
          (fun action => (action.model, action.channelId)) =
        changes.actions.map (fun action => (action.model, action.channelId)) ∧
      (∀ action ∈ changes.actions, action.applied = true ↔ action.action ≠ .unchanged) ∧
      (stagedRegistryModelDiscoveryPlanActions staged discoveries =
          changes.actions.map (·.planned) ↔
        ¬Overtaken (fun model => staged.lookup model) (discoveredModels discoveries)) := by
  obtain ⟨changes, hchanges, hactions, -⟩ := exists_changes staged discoveries
  refine ⟨changes, hchanges, ?_, ?_, ?_⟩
  · rw [planActions_eq, hactions, List.map_map]
    show (sortDiscoveryActions _).map actionPair = (sortDiscoveryActions _).map actionPair
    rw [map_actionPair_sort, map_actionPair_sort, map_actionPair_reports, List.map_map]
    exact congrArg _ (List.map_id _)
  · intro action haction
    rw [hactions] at haction
    obtain ⟨route, pair, rfl⟩ := exists_of_mem_discoveryReports ((List.mem_insertionSort _).mp haction)
    exact decide_eq_true_iff
  · rw [planActions_eq, hactions]
    constructor
    · intro heq hovertaken
      -- a report about a pair that was overtaken matches no planned action
      obtain ⟨action, haction, hne⟩ := planned_ne_of_overtaken hovertaken
      have hmem : action.planned ∈ (sortDiscoveryActions (discoveryReports
          (fun model => staged.lookup model) (discoveredModels discoveries))).map (·.planned) :=
        List.mem_map_of_mem ((List.mem_insertionSort _).mpr haction)
      rw [← heq] at hmem
      obtain ⟨action', haction', hplanned⟩ := List.mem_map.mp hmem
      obtain ⟨pair, hpair, rfl⟩ := List.mem_map.mp ((List.mem_insertionSort _).mp haction')
      exact hne pair hpair hplanned
    · intro h
      rw [discoveryReports_eq_map (fun _ _ => rfl) h]

/-- Two channels have one new model: the plan creates its route twice, apply creates it and
adds a target.  The plan compares every channel with the routes as they were staged, and apply
with what the channels before have already changed. -/
theorem shared_new_model_is_created_twice :
    let discoveries : List ModelDiscoveryResponse :=
      [⟨"primary", ["shared-new-model"], none⟩, ⟨"secondary", ["shared-new-model"], none⟩]
    stagedRegistryModelDiscoveryPlanActions ∅ discoveries =
        [⟨"shared-new-model", "primary", .wouldCreateRoute, 0⟩,
          ⟨"shared-new-model", "secondary", .wouldCreateRoute, 0⟩] ∧
      (stagedRegistryModelDiscoverySyncChanges ∅ discoveries).map (·.actions) = .ok
        [⟨"shared-new-model", "primary", .wouldCreateRoute, 0, true⟩,
          ⟨"shared-new-model", "secondary", .wouldAddTarget, 1, true⟩] ∧
      (stagedRegistryModelDiscoverySyncChanges ∅ discoveries).map (·.actions.map (·.planned)) ≠
        .ok (stagedRegistryModelDiscoveryPlanActions ∅ discoveries) := by
  decide

end OneAiKey
