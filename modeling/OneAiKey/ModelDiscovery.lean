/-
  OneAiKey.ModelDiscovery — the routes that discovered models get
  (`src/model_discovery.rs`).

  Each channel of a sync is asked for its models; what it answers is a
  `ModelDiscoveryResponse`.  The plan compares every discovered model with the routes
  as they were read; apply goes on with the routes as the discoveries before left
  them.  Of a response only the channel, the models and whether there is an error
  matter.

      responses  ──discoveredModels──▶  (model, channel) pairs, in order
      pair       ──syncDiscoveredModel──▶  the working routes, the changed routes

  A pair changes the working route of its model only (`exists_sync`): a sync is, model by
  model, a run of `discover` over the channels that have it (`foldl_discoverAt`).
-/
import OneAiKey.Error
import OneAiKey.Lib.Grouping
import OneAiKey.Resolve

namespace OneAiKey

/-! ## §1. What discovery finds and what a sync reports. -/

/-- Why the models of a channel could not be asked for. -/
structure ModelDiscoveryErrorStatus where
  kind : FailureKind
  scope : FailureScope
  retryable : Bool
  classifierId : String
  upstreamCode : Option String
  upstreamLimitType : Option String
  deriving DecidableEq, Repr

/-- The models of a channel, or the error. -/
structure ModelDiscoveryResponse where
  channelId : String
  models : List String
  error : Option ModelDiscoveryErrorStatus
  deriving DecidableEq, Repr

/-- What a sync does for a discovered model. -/
inductive ModelDiscoverySyncPlanActionKind where
  | wouldCreateRoute
  | wouldAddTarget
  | unchanged
  deriving DecidableEq, Repr

/-- What a sync would do for a model of a channel. -/
structure ModelDiscoverySyncPlanActionStatus where
  model : String
  channelId : String
  action : ModelDiscoverySyncPlanActionKind
  existingTargetCount : Nat
  deriving DecidableEq, Repr

/-- What a sync did for a model of a channel. -/
structure ModelDiscoverySyncApplyActionStatus where
  model : String
  channelId : String
  action : ModelDiscoverySyncPlanActionKind
  existingTargetCount : Nat
  applied : Bool
  deriving DecidableEq, Repr

class DiscoveryActionSortKey (α : Type) where
  model : α → String
  channelId : α → String

instance : DiscoveryActionSortKey ModelDiscoverySyncPlanActionStatus where
  model := (·.model)
  channelId := (·.channelId)

instance : DiscoveryActionSortKey ModelDiscoverySyncApplyActionStatus where
  model := (·.model)
  channelId := (·.channelId)

/-- The order of `sort_discovery_actions`: by the model, then by the channel. -/
def discoveryActionLe {α : Type} [DiscoveryActionSortKey α] (a b : α) : Bool :=
  ((compare (DiscoveryActionSortKey.model a) (DiscoveryActionSortKey.model b)).then
    (compare (DiscoveryActionSortKey.channelId a) (DiscoveryActionSortKey.channelId b))).isLE

/-- Actions that compare equal stay in their order. -/
def sortDiscoveryActions {α : Type} [DiscoveryActionSortKey α] (actions : List α) : List α :=
  actions.insertionSort fun a b => discoveryActionLe a b = true

/-! ## §2. One discovered model. -/

/-- The number of a route's targets. -/
def ModelRouteConfig.routeTargetCount (route : ModelRouteConfig) : Nat := route.targets.length

/-- Does the route lead to the channel? -/
def ModelRouteConfig.containsRouteTargetChannel (route : ModelRouteConfig)
    (channelId : String) : Bool :=
  route.targets.any fun target => target.channel == channelId

/-- What to do for a model: make its route, add a target, or nothing. -/
def modelDiscoverySyncPlanAction (route : Option ModelRouteConfig) (channelId : String) :
    ModelDiscoverySyncPlanActionKind × Nat :=
  match route with
  | none => (.wouldCreateRoute, 0)
  | some route =>
      let targetCount := route.routeTargetCount
      if route.containsRouteTargetChannel channelId then (.unchanged, targetCount)
      else (.wouldAddTarget, targetCount)

/-- `u16::saturating_add`. -/
def saturatingAddU16 (a b : UInt16) : UInt16 := UInt16.ofNat (min (a.toNat + b.toNat) 65535)

/-- The target of a discovered channel. -/
def discoveredRouteTarget (channelId : String) (priority : UInt16) : ModelRouteTargetConfig where
  channel := channelId
  upstreamModel := none
  priority := priority
  weight := 1
  enabled := true

/-- The route of a model that had none. -/
def discoveredModelRoute (channelId : String) : ModelRouteConfig where
  strategy := some "priority"
  targets := [discoveredRouteTarget channelId 10]

/-- The route with the channel behind all others, unless it leads there already. -/
def appendDiscoveredRouteTarget (route : ModelRouteConfig) (channelId : String) :
    ModelRouteConfig :=
  if route.targets.any fun target => target.channel == channelId then route
  else
    let priority := saturatingAddU16 ((route.targets.map (·.priority)).max?.getD 0) 10
    { route with targets := route.targets ++ [discoveredRouteTarget channelId priority] }

/-- Whether the change was applied, the working routes and the changed ones. -/
def applyDiscoveredModelRouteChange (routesByModel changedRoutes : IdMap ModelRouteConfig)
    (model channelId : String) (action : ModelDiscoverySyncPlanActionKind) :
    Except String (Bool × IdMap ModelRouteConfig × IdMap ModelRouteConfig) :=
  match action with
  | .wouldCreateRoute =>
      let route := discoveredModelRoute channelId
      .ok (true, routesByModel.insert model route, changedRoutes.insert model route)
  | .wouldAddTarget =>
      match routesByModel.lookup model with
      | none => .error ("route " ++ model ++ " disappeared while applying discovery sync")
      | some route =>
          let route := appendDiscoveredRouteTarget route channelId
          .ok (true, routesByModel.insert model route, changedRoutes.insert model route)
  | .unchanged => .ok (false, routesByModel, changedRoutes)

/-! ## §3. The loops. -/

/-- What the loops of apply hold: a map of the working routes, one of the changed ones. -/
structure DiscoverySync where
  routesByModel : IdMap ModelRouteConfig
  changedRoutes : IdMap ModelRouteConfig
  actions : List ModelDiscoverySyncApplyActionStatus

/-- One turn of the inner loop. -/
def syncDiscoveredModel (channelId : String) (sync : DiscoverySync) (model : String) :
    Except String DiscoverySync := do
  let (action, existingTargetCount) :=
    modelDiscoverySyncPlanAction (sync.routesByModel.lookup model) channelId
  let (applied, routesByModel, changedRoutes) ←
    applyDiscoveredModelRouteChange sync.routesByModel sync.changedRoutes model channelId action
  return ⟨routesByModel, changedRoutes,
    sync.actions ++ [⟨model, channelId, action, existingTargetCount, applied⟩]⟩

/-- One turn of the outer loop. -/
def syncDiscovery (sync : DiscoverySync) (discovery : ModelDiscoveryResponse) :
    Except String DiscoverySync :=
  if discovery.error.isSome then .ok sync
  else discovery.models.foldlM (syncDiscoveredModel discovery.channelId) sync

/-- The routes that a sync changes, and its report. -/
structure StagedModelDiscoverySyncChanges where
  routes : List (String × ModelRouteConfig)
  actions : List ModelDiscoverySyncApplyActionStatus

/-- The sync of all discoveries, on the routes of the document. -/
def stagedRegistryModelDiscoverySyncChanges (routesByModel : IdMap ModelRouteConfig)
    (discoveries : List ModelDiscoveryResponse) :
    Except String StagedModelDiscoverySyncChanges := do
  let sync ← discoveries.foldlM syncDiscovery ⟨routesByModel, ∅, []⟩
  return ⟨IdMap.sortedEntries sync.changedRoutes, sortDiscoveryActions sync.actions⟩

/-- The plan of all discoveries, without a change. -/
def stagedRegistryModelDiscoveryPlanActions (routesByModel : IdMap ModelRouteConfig)
    (discoveries : List ModelDiscoveryResponse) : List ModelDiscoverySyncPlanActionStatus :=
  let actions := discoveries.flatMap fun discovery =>
    if discovery.error.isSome then []
    else discovery.models.map fun model =>
      let (action, existingTargetCount) :=
        modelDiscoverySyncPlanAction (routesByModel.lookup model) discovery.channelId
      ⟨model, discovery.channelId, action, existingTargetCount⟩
  sortDiscoveryActions actions

/-! ## §4. The route of one model. -/

/-- The targets of a route that may not be there. -/
def routeTargets (route : Option ModelRouteConfig) : List ModelRouteTargetConfig :=
  route.elim [] (·.targets)

/-- The channels of a route. -/
def targetChannels (route : Option ModelRouteConfig) : List String :=
  (routeTargets route).map (·.channel)

/-- What a discovery on a channel makes of the route. -/
def discover (route : Option ModelRouteConfig) (channelId : String) : Option ModelRouteConfig :=
  match route with
  | none => some (discoveredModelRoute channelId)
  | some route => some (appendDiscoveredRouteTarget route channelId)

theorem any_channel_iff {targets : List ModelRouteTargetConfig} {channelId : String} :
    (targets.any fun target => target.channel == channelId) = true ↔
      channelId ∈ targets.map (·.channel) := by
  rw [List.any_eq_true, List.mem_map]
  simp

theorem planAction_count (route : Option ModelRouteConfig) (channelId : String) :
    (modelDiscoverySyncPlanAction route channelId).2 = (routeTargets route).length := by
  cases route with
  | none => rfl
  | some route =>
      show (if _ then _ else _ : ModelDiscoverySyncPlanActionKind × Nat).2 = _
      split <;> rfl

theorem planAction_eq_unchanged_iff {route : Option ModelRouteConfig} {channelId : String} :
    (modelDiscoverySyncPlanAction route channelId).1 = .unchanged ↔
      channelId ∈ targetChannels route := by
  cases route with
  | none => simp [modelDiscoverySyncPlanAction, targetChannels, routeTargets]
  | some route =>
      show (if route.containsRouteTargetChannel channelId then _ else _ :
        ModelDiscoverySyncPlanActionKind × Nat).1 = _ ↔ channelId ∈ route.targets.map (·.channel)
      rw [← any_channel_iff]
      unfold ModelRouteConfig.containsRouteTargetChannel
      by_cases h : (route.targets.any fun target => target.channel == channelId) = true
      · rw [if_pos h]
        exact iff_of_true rfl h
      · rw [if_neg h]
        exact iff_of_false (by simp) h

/-- A channel that the route targets already changes nothing. -/
theorem discover_of_mem {route : Option ModelRouteConfig} {channelId : String}
    (h : channelId ∈ targetChannels route) : discover route channelId = route := by
  cases route with
  | none => cases h
  | some route =>
      have hany : (route.targets.any fun target => target.channel == channelId) = true :=
        any_channel_iff.mpr h
      show some (appendDiscoveredRouteTarget route channelId) = some route
      unfold appendDiscoveredRouteTarget
      rw [if_pos hany]

theorem le_saturatingAddU16 (a b : UInt16) : a ≤ saturatingAddU16 a b := by
  have ha : a.toNat < 65536 := a.toNat_lt
  have hsum : (saturatingAddU16 a b).toNat = min (a.toNat + b.toNat) 65535 :=
    UInt16.toNat_ofNat_of_lt' (by show _ < 65536; omega)
  rw [UInt16.le_iff_toNat_le, hsum]
  omega

instance lawfulOrderMaxUInt16 : Std.LawfulOrderMax UInt16 :=
  Std.LawfulOrderMax.of_max_le_iff
    (by
      intro a b c
      show (if a ≤ b then b else a) ≤ c ↔ a ≤ c ∧ b ≤ c
      split
      · next h => exact ⟨fun hc => ⟨UInt16.le_trans h hc, hc⟩, And.right⟩
      · next h =>
          exact ⟨fun hc => ⟨hc, UInt16.le_trans (UInt16.le_of_lt (UInt16.not_le.mp h)) hc⟩,
            And.left⟩)
    (by
      intro a b
      show (if a ≤ b then b else a) = a ∨ (if a ≤ b then b else a) = b
      split
      · exact .inr rfl
      · exact .inl rfl)

theorem le_max_priority {targets : List ModelRouteTargetConfig} {target : ModelRouteTargetConfig}
    (h : target ∈ targets) : target.priority ≤ (targets.map (·.priority)).max?.getD 0 := by
  have hmem : target.priority ∈ targets.map (·.priority) := List.mem_map_of_mem h
  cases hmax : (targets.map (·.priority)).max? with
  | none =>
      rw [List.max?_eq_none_iff.mp hmax] at hmem
      cases hmem
  | some priority => exact (List.max?_eq_some_iff.mp hmax).2 _ hmem

/-- A new channel gets one target, behind the others and of no smaller priority. -/
theorem discover_of_not_mem {route : Option ModelRouteConfig} {channelId : String}
    (h : channelId ∉ targetChannels route) :
    ∃ priority, routeTargets (discover route channelId) =
        routeTargets route ++ [discoveredRouteTarget channelId priority] ∧
      ∀ target ∈ routeTargets route, target.priority ≤ priority := by
  cases route with
  | none => exact ⟨10, rfl, nofun⟩
  | some route =>
      have hany : ¬(route.targets.any fun target => target.channel == channelId) = true :=
        fun hany => h (any_channel_iff.mp hany)
      refine ⟨saturatingAddU16 ((route.targets.map (·.priority)).max?.getD 0) 10, ?_, ?_⟩
      · show (appendDiscoveredRouteTarget route channelId).targets = _
        unfold appendDiscoveredRouteTarget
        rw [if_neg hany]
        rfl
      · intro target htarget
        exact UInt16.le_trans (le_max_priority htarget) (le_saturatingAddU16 _ 10)

theorem discover_strategy (route : ModelRouteConfig) (channelId : String) :
    ∃ route', discover (some route) channelId = some route' ∧
      route'.strategy = route.strategy := by
  refine ⟨appendDiscoveredRouteTarget route channelId, rfl, ?_⟩
  unfold appendDiscoveredRouteTarget
  split <;> rfl

/-! ## §5. A sync as a run over the discovered models. -/

/-- The models of the successful discoveries, each with its channel. -/
def discoveredModels (discoveries : List ModelDiscoveryResponse) : List (String × String) :=
  discoveries.flatMap fun discovery =>
    if discovery.error.isSome then []
    else discovery.models.map fun model => (model, discovery.channelId)

/-- A pair discovers the route of its model. -/
def discoverAt : (String → Option ModelRouteConfig) → String × String →
    String → Option ModelRouteConfig :=
  Grouping.changeAt Prod.fst fun route pair => discover route pair.2

theorem discoverAt_self (routes : String → Option ModelRouteConfig) (pair : String × String) :
    discoverAt routes pair pair.1 = discover (routes pair.1) pair.2 :=
  Function.update_self _ _ _

theorem discoverAt_of_ne {model : String} {pair : String × String} (h : model ≠ pair.1)
    (routes : String → Option ModelRouteConfig) : discoverAt routes pair model = routes model :=
  Function.update_of_ne h _ _

/-- A pair whose channel is there already changes no route. -/
theorem discoverAt_of_mem {routes : String → Option ModelRouteConfig} {pair : String × String}
    (h : pair.2 ∈ targetChannels (routes pair.1)) : discoverAt routes pair = routes := by
  funext model
  by_cases hmodel : model = pair.1
  · subst hmodel
    rw [discoverAt_self, discover_of_mem h]
  · exact discoverAt_of_ne hmodel routes

def discoveryReport (route : Option ModelRouteConfig) (pair : String × String) :
    ModelDiscoverySyncApplyActionStatus :=
  let plan := modelDiscoverySyncPlanAction route pair.2
  ⟨pair.1, pair.2, plan.1, plan.2, plan.1 ≠ .unchanged⟩

/-- What is reported of the pairs, each on the routes that those before it leave. -/
def discoveryReports (routes : String → Option ModelRouteConfig) :
    List (String × String) → List ModelDiscoverySyncApplyActionStatus
  | [] => []
  | pair :: pairs =>
      discoveryReport (routes pair.1) pair :: discoveryReports (discoverAt routes pair) pairs

/-- One turn for a model and a channel. -/
def syncPair (sync : DiscoverySync) (pair : String × String) : Except String DiscoverySync :=
  syncDiscoveredModel pair.2 sync pair.1

theorem foldlM_syncDiscovery (discoveries : List ModelDiscoveryResponse) (sync : DiscoverySync) :
    discoveries.foldlM syncDiscovery sync = (discoveredModels discoveries).foldlM syncPair sync := by
  have hdiscovery : ∀ (discovery : ModelDiscoveryResponse) (sync : DiscoverySync),
      syncDiscovery sync discovery =
        (if discovery.error.isSome then []
          else discovery.models.map fun model => (model, discovery.channelId)).foldlM
            syncPair sync := by
    intro discovery sync
    unfold syncDiscovery
    split
    · rfl
    · rw [List.foldlM_map]
      rfl
  induction discoveries generalizing sync with
  | nil => rfl
  | cons discovery discoveries ih =>
      show _ = List.foldlM syncPair sync (_ ++ discoveredModels discoveries)
      rw [List.foldlM_cons, List.foldlM_append, hdiscovery]
      exact bind_congr ih

/-- A channel that is there already is only reported. -/
theorem syncPair_of_mem {sync : DiscoverySync} {pair : String × String}
    (h : pair.2 ∈ targetChannels (sync.routesByModel.lookup pair.1)) :
    syncPair sync pair = .ok { sync with
      actions := sync.actions ++ [discoveryReport (sync.routesByModel.lookup pair.1) pair] } := by
  have haction := planAction_eq_unchanged_iff.mpr h
  unfold syncPair syncDiscoveredModel discoveryReport
  generalize modelDiscoverySyncPlanAction (sync.routesByModel.lookup pair.1) pair.2 = plan
    at haction ⊢
  obtain ⟨action, existingTargetCount⟩ := plan
  obtain rfl : action = .unchanged := haction
  rfl

/-- Else the route goes into both maps. -/
theorem syncPair_of_not_mem {sync : DiscoverySync} {pair : String × String}
    (h : pair.2 ∉ targetChannels (sync.routesByModel.lookup pair.1)) :
    ∃ route, discover (sync.routesByModel.lookup pair.1) pair.2 = some route ∧
      syncPair sync pair = .ok ⟨sync.routesByModel.insert pair.1 route,
        sync.changedRoutes.insert pair.1 route,
        sync.actions ++ [discoveryReport (sync.routesByModel.lookup pair.1) pair]⟩ := by
  unfold syncPair syncDiscoveredModel discoveryReport
  cases hroute : sync.routesByModel.lookup pair.1 with
  | none => exact ⟨discoveredModelRoute pair.2, rfl, rfl⟩
  | some route =>
      rw [hroute] at h
      refine ⟨appendDiscoveredRouteTarget route pair.2, rfl, ?_⟩
      have hplan : modelDiscoverySyncPlanAction (some route) pair.2 =
          (.wouldAddTarget, route.routeTargetCount) :=
        if_neg fun hany => h (any_channel_iff.mp hany)
      rw [hplan]
      show applyDiscoveredModelRouteChange sync.routesByModel sync.changedRoutes pair.1 pair.2
        .wouldAddTarget >>= _ = _
      unfold applyDiscoveredModelRouteChange
      rw [hroute]
      rfl

/-- One pair: the working routes, the report, and the changed routes over the staged ones. -/
theorem exists_syncPair (staged : IdMap ModelRouteConfig) (sync : DiscoverySync)
    (pair : String × String)
    (hchanged : ∀ model, sync.routesByModel.lookup model =
      (sync.changedRoutes.lookup model).or (staged.lookup model)) :
    ∃ sync', syncPair sync pair = .ok sync' ∧
      (fun model => sync'.routesByModel.lookup model) =
        discoverAt (fun model => sync.routesByModel.lookup model) pair ∧
      sync'.actions =
        sync.actions ++ [discoveryReport (sync.routesByModel.lookup pair.1) pair] ∧
      ∀ model, sync'.routesByModel.lookup model =
        (sync'.changedRoutes.lookup model).or (staged.lookup model) := by
  -- the channel is a target of the model already, or it becomes one
  by_cases h : pair.2 ∈ targetChannels (sync.routesByModel.lookup pair.1)
  · exact ⟨_, syncPair_of_mem h, (discoverAt_of_mem h).symm, rfl, hchanged⟩
  · obtain ⟨route, hroute, hsync⟩ := syncPair_of_not_mem h
    refine ⟨_, hsync, ?_, rfl, ?_⟩
    · funext model
      by_cases hmodel : model = pair.1
      · subst hmodel
        rw [discoverAt_self]
        exact (Finmap.lookup_insert _).trans hroute.symm
      · rw [discoverAt_of_ne hmodel]
        exact Finmap.lookup_insert_of_ne _ hmodel
    · intro model
      show (sync.routesByModel.insert pair.1 route).lookup model =
        ((sync.changedRoutes.insert pair.1 route).lookup model).or _
      by_cases hmodel : model = pair.1
      · subst hmodel
        rw [Finmap.lookup_insert, Finmap.lookup_insert]
        rfl
      · rw [Finmap.lookup_insert_of_ne _ hmodel, Finmap.lookup_insert_of_ne _ hmodel]
        exact hchanged model

theorem exists_sync (staged : IdMap ModelRouteConfig) (pairs : List (String × String))
    (sync : DiscoverySync)
    (hchanged : ∀ model, sync.routesByModel.lookup model =
      (sync.changedRoutes.lookup model).or (staged.lookup model)) :
    ∃ sync', pairs.foldlM syncPair sync = .ok sync' ∧
      (fun model => sync'.routesByModel.lookup model) =
        pairs.foldl discoverAt (fun model => sync.routesByModel.lookup model) ∧
      sync'.actions = sync.actions ++
        discoveryReports (fun model => sync.routesByModel.lookup model) pairs ∧
      ∀ model, sync'.routesByModel.lookup model =
        (sync'.changedRoutes.lookup model).or (staged.lookup model) := by
  induction pairs generalizing sync with
  | nil => exact ⟨sync, rfl, rfl, (List.append_nil _).symm, hchanged⟩
  | cons pair pairs ih =>
      obtain ⟨next, hnext, hroutes, hactions, hchanged⟩ := exists_syncPair staged sync pair hchanged
      obtain ⟨sync', hrun, hroutes', hactions', hchanged'⟩ := ih next hchanged
      refine ⟨sync', ?_, ?_, ?_, hchanged'⟩
      · rw [List.foldlM_cons, hnext]
        exact hrun
      · rw [hroutes', hroutes]
        rfl
      · rw [hactions', hactions, hroutes, List.append_assoc]
        rfl

/-- Pairs whose channels are all there leave both maps alone. -/
theorem sync_of_mem (pairs : List (String × String)) (sync : DiscoverySync)
    (h : ∀ pair ∈ pairs, pair.2 ∈ targetChannels (sync.routesByModel.lookup pair.1)) :
    ∃ actions, pairs.foldlM syncPair sync = .ok { sync with actions } := by
  induction pairs generalizing sync with
  | nil => exact ⟨sync.actions, rfl⟩
  | cons pair pairs ih =>
      rw [List.foldlM_cons, syncPair_of_mem (h pair List.mem_cons_self)]
      exact ih _ fun pair' hpair => h pair' (List.mem_cons_of_mem _ hpair)

/-- The working route of a model comes from the channels that have it. -/
theorem foldl_discoverAt (pairs : List (String × String))
    (routes : String → Option ModelRouteConfig) (model : String) :
    pairs.foldl discoverAt routes model =
      ((pairs.filter fun pair => pair.1 = model).map Prod.snd).foldl discover (routes model) := by
  unfold discoverAt
  rw [Grouping.foldl_changeAt, List.foldl_map]

end OneAiKey
