/-
  OneAiKey.ModelCatalog — the models that a client is shown
  (`src/model_catalog.rs`, `public_model_catalog_projection` of `src/state.rs` and
  `visible_models_for_client` of `src/control_plane.rs`).

  The registry keeps a catalog of the public models whose routes have a target that the
  configuration lets be used.  `/v1/models` lists those of them that the client may use
  and that have a target on a channel that is not disabled.  The control plane computes
  the same list from the configuration alone.

  A target of the catalog refers to the health of its channel; here it is the health at
  the moment when the catalog is read.
-/
import OneAiKey.Auth
import OneAiKey.Registry

namespace OneAiKey

open Std

/-! ## §1. The catalog of the registry. -/

/-- `ProviderAdapter::model_catalog_capability`: the path of the catalog. -/
def ProviderKind.modelCatalogCapability : ProviderKind → Option String
  | openAiCompatible => some "/v1/models"
  | genericHttp => none

structure PublicModelCatalogTarget where
  channelId : String
  health : ChannelHealth
  deriving DecidableEq, Repr

structure PublicModelCatalogEntry where
  publicModel : String
  targets : List PublicModelCatalogTarget
  deriving DecidableEq, Repr

/-- The entry of an enabled target, if its channel may be used. -/
def publicModelCatalogTarget (channels : TreeMap String RegistryChannel) (target : RouteTarget) :
    Option PublicModelCatalogTarget := do
  let channel ← channels[target.channelId]?
  if !channel.configuredEnabled || !channel.accountEnabled then none
  else channel.poolState.providerKind.modelCatalogCapability.map fun _ =>
    ⟨target.channelId, channel.health⟩

def publicModelCatalogProjection (modelRoutes : IdMap ModelRoute)
    (channels : TreeMap String RegistryChannel) : List PublicModelCatalogEntry :=
  let routes := ((IdMap.sortedEntries modelRoutes).map (·.2)).insertionSort
    (·.publicModel ≤ ·.publicModel)
  routes.filterMap fun route =>
    let targets := (route.targets.filter (·.enabled)).filterMap
      (publicModelCatalogTarget channels)
    if targets.isEmpty then none else some ⟨route.publicModel, targets⟩

/-- `ChannelRegistry::public_model_catalog`. -/
def ChannelRegistrySnapshot.publicModelCatalog (snapshot : ChannelRegistrySnapshot) :
    List PublicModelCatalogEntry :=
  publicModelCatalogProjection snapshot.modelRoutes snapshot.channels

/-! ## §2. The list of a client. -/

def publicRouteTargetRuntimeVisible (target : PublicModelCatalogTarget)
    (allowedChannels : List String) : Bool :=
  if !allowedChannels.isEmpty && !allowedChannels.any (· == target.channelId) then false
  else !target.health.isDisabled

def anyPublicRouteTargetRuntimeVisible (targets : List PublicModelCatalogTarget)
    (allowedChannels : List String) : Bool :=
  targets.any (publicRouteTargetRuntimeVisible · allowedChannels)

/-- The public models of the entries that the client may use. -/
def publicRouteCatalog (publicCatalog : List PublicModelCatalogEntry)
    (runtimeCatalogs : RuntimeCatalogSnapshot) (allowedModelGroups allowedChannels : List String) :
    List String :=
  (publicCatalog.filter fun route =>
    runtimeCatalogs.clientModelAllowed allowedModelGroups route.publicModel &&
      anyPublicRouteTargetRuntimeVisible route.targets allowedChannels).map (·.publicModel)

def openaiModelCatalogResponse (modelIds : List String) : Json :=
  .object [("object", .string "list"), ("data", .array (modelIds.map fun id =>
    .object [("id", .string id), ("object", .string "model"),
      ("owned_by", .string "one-ai-key")]))]

def compiledOpenaiModels (publicCatalog : List PublicModelCatalogEntry)
    (runtimeCatalogs : RuntimeCatalogSnapshot) (allowedModelGroups allowedChannels : List String) :
    Json :=
  let publicRoutes := publicRouteCatalog publicCatalog runtimeCatalogs allowedModelGroups
    allowedChannels
  openaiModelCatalogResponse (publicRoutes.insertionSort (· ≤ ·)).dedup

/-- The answer to `/v1/models`. -/
def modelsResponse (registry : ChannelRegistrySnapshot) (catalogs : RuntimeCatalogSnapshot)
    (client : AuthorizedClient) : Json :=
  compiledOpenaiModels registry.publicModelCatalog catalogs client.allowedModelGroups
    client.allowedChannels

/-- The response has an item for the model. -/
def Json.ListsModel (response : Json) (model : String) : Prop :=
  ∃ items, response.get "data" = some (.array items) ∧
    ∃ item ∈ items, item.get "id" = some (.string model)

/-! ## §3. The list of the control plane. -/

def clientModelAllowed (modelGroups : IdMap ResolvedModelGroup) (allowedModelGroups : List String)
    (model : String) : Bool :=
  allowedModelGroups.isEmpty ||
    allowedModelGroups.any fun allowed =>
      allowed == model ||
        (modelGroups.lookup allowed).any fun group => group.models.any (· == model)

/-- The configuration lets the client use the target. -/
def configuredTargetVisible (config : FullResolvedConfig) (clientToken : ResolvedClientToken)
    (target : RouteTarget) : Bool :=
  if !target.enabled then false
  else if !clientToken.allowedChannels.isEmpty &&
      !clientToken.allowedChannels.any (· == target.channelId) then false
  else (config.pools.lookup target.channelId).any fun pool =>
    pool.configuredEnabled && pool.accountEnabled &&
      pool.providerKind.modelCatalogCapability.isSome

def visibleModelsForClient (config : FullResolvedConfig) (clientToken : ResolvedClientToken) :
    List String :=
  let visible := (IdMap.sortedEntries config.modelRoutes).filter fun entry =>
    clientModelAllowed config.modelGroups clientToken.allowedModelGroups entry.1 &&
      entry.2.targets.any (configuredTargetVisible config clientToken)
  ((visible.map (·.1)).insertionSort (· ≤ ·)).dedup

/-! ## §4. What the lists hold. -/

theorem listsModel_response {modelIds : List String} {model : String} :
    (openaiModelCatalogResponse modelIds).ListsModel model ↔ model ∈ modelIds := by
  constructor
  · intro h
    obtain ⟨items, hdata, item, hitem, hid⟩ := h
    obtain rfl : _ = items := by injection (Option.some.inj hdata)
    obtain ⟨id, hmem, rfl⟩ := List.mem_map.mp hitem
    obtain rfl : id = model := by injection (Option.some.inj hid)
    exact hmem
  · intro h
    exact ⟨_, rfl, _, List.mem_map.mpr ⟨model, h, rfl⟩, rfl⟩

theorem outOfScope_iff {allowedChannels : List String} {channelId : String} :
    (!allowedChannels.isEmpty && !allowedChannels.any (· == channelId)) = false ↔
      channelIsAllowed channelId allowedChannels = true := by
  unfold channelIsAllowed
  cases allowedChannels.isEmpty <;> cases allowedChannels.any (· == channelId) <;> simp

theorem publicRouteTargetRuntimeVisible_iff {target : PublicModelCatalogTarget}
    {allowedChannels : List String} :
    publicRouteTargetRuntimeVisible target allowedChannels = true ↔
      channelIsAllowed target.channelId allowedChannels = true ∧
        target.health.isDisabled = false := by
  unfold publicRouteTargetRuntimeVisible
  rw [← outOfScope_iff]
  split
  · next hout => simp [hout]
  · next hin =>
      have hfalse := Bool.eq_false_iff.mpr hin
      simp [hfalse]

/-- The target is enabled, in scope, and on a channel that may be used and is not disabled. -/
structure TargetVisible (registry : ChannelRegistrySnapshot) (allowedChannels : List String)
    (target : RouteTarget) (channel : RegistryChannel) : Prop where
  enabled : target.enabled = true
  found : registry.get target.channelId = some channel
  configured : channel.configuredEnabled = true
  account : channel.accountEnabled = true
  inScope : channelIsAllowed target.channelId allowedChannels = true
  healthy : channel.health.isDisabled = false
  capable : channel.poolState.providerKind.modelCatalogCapability.isSome = true

theorem publicModelCatalogTarget_iff {channels : TreeMap String RegistryChannel}
    {target : RouteTarget} {entry : PublicModelCatalogTarget} :
    publicModelCatalogTarget channels target = some entry ↔
      ∃ channel, channels[target.channelId]? = some channel ∧
        channel.configuredEnabled = true ∧ channel.accountEnabled = true ∧
        channel.poolState.providerKind.modelCatalogCapability.isSome = true ∧
        entry = ⟨target.channelId, channel.health⟩ := by
  unfold publicModelCatalogTarget
  cases channels[target.channelId]? with
  | none => simp
  | some channel =>
      -- the three conditions, one after the other
      show (if !channel.configuredEnabled || !channel.accountEnabled then none
        else channel.poolState.providerKind.modelCatalogCapability.map fun _ =>
          PublicModelCatalogTarget.mk target.channelId channel.health) = some entry ↔ _
      cases hconfigured : channel.configuredEnabled with
      | false => simp [hconfigured]
      | true =>
          cases haccount : channel.accountEnabled with
          | false => simp [haccount]
          | true =>
              cases hcapable : channel.poolState.providerKind.modelCatalogCapability with
              | none => simp [hcapable]
              | some path =>
                  simp only [Bool.not_true, Bool.or_self, Bool.false_eq_true, if_false,
                    Option.map_some, Option.some.injEq]
                  constructor
                  · exact fun h => ⟨channel, rfl, hconfigured, haccount, by rw [hcapable]; rfl,
                      h.symm⟩
                  · intro h
                    obtain ⟨_, rfl, -, -, -, hentry⟩ := h
                    exact hentry.symm

/-- What `/v1/models` lists. -/
theorem modelsResponse_lists_iff {registry : ChannelRegistrySnapshot}
    {catalogs : RuntimeCatalogSnapshot} {client : AuthorizedClient} {model : String} :
    (modelsResponse registry catalogs client).ListsModel model ↔
      catalogs.clientModelAllowed client.allowedModelGroups model = true ∧
      ∃ key route, registry.modelRoutes.lookup key = some route ∧ route.publicModel = model ∧
        ∃ target ∈ route.targets, ∃ channel,
          TargetVisible registry client.allowedChannels target channel := by
  unfold modelsResponse compiledOpenaiModels
  dsimp only
  rw [listsModel_response, List.mem_dedup, List.mem_insertionSort]
  unfold publicRouteCatalog ChannelRegistrySnapshot.publicModelCatalog publicModelCatalogProjection
  simp only [List.mem_map, List.mem_filter, List.mem_filterMap, List.mem_insertionSort,
    Bool.and_eq_true]
  constructor
  · -- a listed model comes from a route whose entry kept a target, which passed
    -- the projection first and the checks of the running registry after it
    intro h
    obtain ⟨entry, ⟨⟨route, ⟨pair, hpair, hroute⟩, hentry⟩, hallowed, hvisible⟩, hmodel⟩ := h
    split at hentry
    · cases hentry
    · obtain rfl := Option.some.inj hentry
      obtain ⟨visible, hmem, hruntime⟩ := List.any_eq_true.mp hvisible
      obtain ⟨target, htarget, hprojected⟩ := List.mem_filterMap.mp hmem
      obtain ⟨hin, henabled⟩ := List.mem_filter.mp htarget
      obtain ⟨channel, hfound, hconfigured, haccount, hcapable, rfl⟩ :=
        publicModelCatalogTarget_iff.mp hprojected
      obtain ⟨hscope, hhealthy⟩ := publicRouteTargetRuntimeVisible_iff.mp hruntime
      refine ⟨hmodel ▸ hallowed, pair.1, route, ?_, hmodel, target, hin, channel, ?_⟩
      · rw [← hroute]
        exact IdMap.mem_sortedEntries.mp hpair
      · exact ⟨henabled, hfound, hconfigured, haccount, hscope, hhealthy, hcapable⟩
  · intro h
    obtain ⟨hallowed, key, route, hlookup, rfl, target, hin, channel, hvisible⟩ := h
    -- the target keeps the entry of its route, so the entry is not dropped as empty
    have hprojected : publicModelCatalogTarget registry.channels target =
        some ⟨target.channelId, channel.health⟩ :=
      publicModelCatalogTarget_iff.mpr ⟨channel, hvisible.found, hvisible.configured,
        hvisible.account, hvisible.capable, rfl⟩
    have hmem : (⟨target.channelId, channel.health⟩ : PublicModelCatalogTarget) ∈
        (route.targets.filter (·.enabled)).filterMap
          (publicModelCatalogTarget registry.channels) :=
      List.mem_filterMap.mpr ⟨target, List.mem_filter.mpr ⟨hin, hvisible.enabled⟩, hprojected⟩
    refine ⟨⟨route.publicModel, _⟩, ⟨⟨route, ⟨(key, route), ?_, rfl⟩, if_neg ?_⟩, hallowed, ?_⟩, rfl⟩
    · exact IdMap.mem_sortedEntries.mpr hlookup
    · intro hempty
      rw [List.isEmpty_iff.mp hempty] at hmem
      cases hmem
    · exact List.any_eq_true.mpr ⟨_, hmem,
        publicRouteTargetRuntimeVisible_iff.mpr ⟨hvisible.inScope, hvisible.healthy⟩⟩

/-- The configuration lets the client use the target, in parts. -/
theorem configuredTargetVisible_iff {config : FullResolvedConfig}
    {clientToken : ResolvedClientToken} {target : RouteTarget} :
    configuredTargetVisible config clientToken target = true ↔
      target.enabled = true ∧
      channelIsAllowed target.channelId clientToken.allowedChannels = true ∧
      ∃ pool, config.pools.lookup target.channelId = some pool ∧
        pool.configuredEnabled = true ∧ pool.accountEnabled = true ∧
        pool.providerKind.modelCatalogCapability.isSome = true := by
  unfold configuredTargetVisible
  rw [← outOfScope_iff]
  cases target.enabled with
  | false => simp
  | true =>
      split
      · next hfalse => simp at hfalse
      · split
        · next hout => simp [hout]
        · next hin =>
            have hfalse := Bool.eq_false_iff.mpr hin
            rw [hfalse]
            cases config.pools.lookup target.channelId with
            | none => simp
            | some pool => simp [and_assoc]

/-- What the control plane lists. -/
theorem mem_visibleModelsForClient {config : FullResolvedConfig}
    {clientToken : ResolvedClientToken} {model : String} :
    model ∈ visibleModelsForClient config clientToken ↔
      clientModelAllowed config.modelGroups clientToken.allowedModelGroups model = true ∧
      ∃ route, config.modelRoutes.lookup model = some route ∧
        ∃ target ∈ route.targets, configuredTargetVisible config clientToken target = true := by
  unfold visibleModelsForClient
  dsimp only
  rw [List.mem_dedup, List.mem_insertionSort]
  simp only [List.mem_map, List.mem_filter, Bool.and_eq_true, List.any_eq_true]
  constructor
  · intro h
    obtain ⟨entry, ⟨hentry, hallowed, hvisible⟩, rfl⟩ := h
    exact ⟨hallowed, entry.2, IdMap.mem_sortedEntries.mp hentry, hvisible⟩
  · intro h
    obtain ⟨hallowed, route, hlookup, hvisible⟩ := h
    exact ⟨(model, route), ⟨IdMap.mem_sortedEntries.mpr hlookup, hallowed, hvisible⟩, rfl⟩

end OneAiKey
