/-
  OneAiKey.Resolve.Rows — what a resolution makes of the rows of a document
  (`src/config.rs`).

  A row is put under its trimmed id.  Where the ids of a section are distinct, also
  once they are trimmed, every row is kept; otherwise a value is still made of some
  row.

  Main results:
    * `row_of_collected`, `collected_of_row` — the rows behind a collected section;
    * `ChannelResolved.of_resolvePool`, `AccountResolved.of_resolvePoolAccount`,
      `RouteResolved.of_resolveModelRoute` — what is made of a row;
    * `ResolvedBy.channel_of_row`, `ResolvedBy.row_of_channel` and their like — which
      rows are behind a configuration.
-/
import OneAiKey.Resolve.Order

namespace OneAiKey

open Collect

/-! ## §1. Sections. -/

section Rows

variable {β γ : Type} {m : IdMap β} {order : IterationOrder m} {result : IdMap γ}
  {entry : (Σ _ : String, β) → Except String (String × γ)}

/-- An order visits exactly the rows of its section. -/
theorem IterationOrder.mem_iff_lookup {id : String} {row : β} :
    ⟨id, row⟩ ∈ order.1 ↔ m.lookup id = some row := by
  have hmem : (⟨id, row⟩ : Σ _ : String, β) ∈ m.entries ↔
      (⟨id, row⟩ : Σ _ : String, β) ∈ (order.1 : Multiset (Σ _ : String, β)) := by
    exact iff_of_eq (congrArg _ order.2.symm)
  rw [Finmap.lookup_eq_some_iff, hmem]
  exact Multiset.mem_coe.symm

/-- A value comes from a row that has its key once it is trimmed. -/
theorem row_of_collected (hkey : ∀ a key value, entry a = .ok (key, value) →
      key = trimString a.1) (h : collect entry order.1 ∅ = .ok result) {key : String}
    {value : γ} (hvalue : result.lookup key = some value) :
    ∃ id row, m.lookup id = some row ∧ trimString id = key ∧
      entry ⟨id, row⟩ = .ok (key, value) := by
  refine @collect_forall _ _ _ _ _ entry (fun key value => ∃ id row, m.lookup id = some row ∧
    trimString id = key ∧ entry ⟨id, row⟩ = .ok (key, value)) order.1 ?_ _ _ ?_ h key value hvalue
  · rintro ⟨id, row⟩ hmem key value hentry
    exact ⟨id, row, IterationOrder.mem_iff_lookup.mp hmem, (hkey _ _ _ hentry).symm, hentry⟩
  · intro key value hempty
    rw [Finmap.lookup_empty] at hempty
    cases hempty

/-- Every row is kept when no other has its id. -/
theorem collected_of_row (hkey : ∀ a key value, entry a = .ok (key, value) →
      key = trimString a.1) (hdistinct : DistinctIds m)
    (h : collect entry order.1 ∅ = .ok result) {id : String} {row : β}
    (hrow : m.lookup id = some row) :
    ∃ value, result.lookup (trimString id) = some value ∧
      entry ⟨id, row⟩ = .ok (trimString id, value) := by
  obtain ⟨hrows, -⟩ := collect_lookup hkey (order.nodup_trimmed_iff.mpr hdistinct) h
  obtain ⟨value, hentry, hvalue⟩ := hrows ⟨id, row⟩ (IterationOrder.mem_iff_lookup.mpr hrow)
  exact ⟨value, hvalue, hentry⟩

end Rows

/-! ## §2. Channels. -/

/-- A missing value is the only error. -/
theorem okOrElse_eq_ok_iff {α : Type} {value : Option α} {message : String} {a : α} :
    okOrElse value message = .ok a ↔ value = some a := by
  cases value with
  | none => simp [okOrElse]
  | some b => simp [okOrElse]

variable {environment : ResolveEnvironment} {sections : ResolvedSections} {name : String}
  {pool : PoolConfig}

/-- The parts of a channel's configuration, each by the function that makes it. -/
structure ChannelResolved (sections : ResolvedSections) (name : String) (pool : PoolConfig)
    (config : FullPoolConfig) : Prop where
  configuredEnabled : config.configuredEnabled = pool.enabled
  credentialSetId : config.credentialSetId = trimString pool.credentialSet
  keyImport : ∃ imported, sections.credentialSets.lookup config.credentialSetId =
    some imported ∧ config.keyImportReport = imported.report
  account : resolvePoolAccount name pool sections.providers sections.accounts = .ok {
    providerId := config.providerId
    accountId := config.accountId
    providerEnabled := config.providerEnabled
    accountConfiguredEnabled := config.accountConfiguredEnabled
    accountEnabled := config.accountEnabled
    providerKind := config.providerKind
    apiBase := config.keyPool.apiBase
    authHeader := config.authHeader
    authPrefix := config.authPrefix }
  endpointCapabilities : pool.endpointCapabilities.resolveWithBase
    config.providerKind.defaultEndpointCapabilities = .ok config.endpointCapabilities
  routingProfileId : resolvePoolRoutingProfileId name pool sections.defaultRoutingProfile =
    .ok config.routingProfileId
  routingPolicy : ∃ profile, sections.routingProfiles.lookup config.routingProfileId =
      some profile ∧
    config.routingPolicy = ⟨profile.sameRequestCredentialRetryEnabled,
      profile.maxSameRequestRetries, profile.routeTargetRetryEnabled,
      profile.defaultCredentialCooldown⟩
  errorClassifier : ∃ rules sources,
    resolvePoolErrorPolicy name pool sections.policyProfiles = .ok (rules, sources) ∧
    rules.intoClassifierWithContext ("pools." ++ name ++ ".effective_error_rules") =
      .ok config.errorClassifier

/-- The credential set of a channel is one of the document. -/
theorem ChannelResolved.credentialSet {config : FullPoolConfig}
    (h : ChannelResolved sections name pool config) :
    config.credentialSetId ∈ sections.credentialSets := by
  obtain ⟨imported, himported, -⟩ := h.keyImport
  exact Finmap.mem_iff.mpr ⟨imported, himported⟩

/-- What the row of a channel decides, as the source resolves it. -/
theorem ChannelResolved.of_resolvePool {key : String} {config : FullPoolConfig}
    (h : resolvePool environment sections (name, pool) = .ok (key, config)) :
    key = name ∧ ChannelResolved sections name pool config := by
  -- one equation for each step of the resolver
  unfold resolvePool at h
  obtain ⟨credentialSetId, hset, h⟩ := bind_eq_ok.mp h
  obtain ⟨account, haccount, h⟩ := bind_eq_ok.mp h
  obtain ⟨endpointCapabilities, hcapabilities, h⟩ := bind_eq_ok.mp h
  obtain ⟨routingProfileId, hprofileId, h⟩ := bind_eq_ok.mp h
  obtain ⟨routingProfile, hprofile, h⟩ := bind_eq_ok.mp h
  obtain ⟨⟨rules, sources⟩, hrules, h⟩ := bind_eq_ok.mp h
  obtain ⟨probeResultPolicy, -, h⟩ := bind_eq_ok.mp h
  obtain ⟨imported, himported, h⟩ := bind_eq_ok.mp h
  obtain ⟨errorClassifier, hclassifier, h⟩ := bind_eq_ok.mp h
  obtain ⟨rfl, rfl⟩ := Prod.mk.inj (Except.ok.inj h)
  obtain ⟨id, hid, hset⟩ := bind_eq_ok.mp hset
  obtain ⟨_, -, hset⟩ := bind_eq_ok.mp hset
  obtain rfl := Except.ok.inj hset
  exact ⟨rfl, {
    configuredEnabled := rfl
    credentialSetId := normalizeResourceId_eq_ok hid
    keyImport := ⟨imported, okOrElse_eq_ok_iff.mp himported, rfl⟩
    account := haccount
    endpointCapabilities := hcapabilities
    routingProfileId := hprofileId
    routingPolicy := ⟨routingProfile, okOrElse_eq_ok_iff.mp hprofile, rfl⟩
    errorClassifier := ⟨rules, sources, hrules, hclassifier⟩ }⟩

/-- The account that a channel names, and the provider that the account names. -/
structure AccountResolved (sections : ResolvedSections) (accountRef : String)
    (account : AccountConfig) (provider : ProviderConfig)
    (upstream : ResolvedUpstreamAccount) : Prop where
  lookup_account : sections.accounts.lookup (trimString accountRef) = some account
  lookup_provider : sections.providers.lookup account.provider = some provider
  providerId : upstream.providerId = "provider:" ++ account.provider
  accountId : upstream.accountId = "account:" ++ trimString accountRef
  providerEnabled : upstream.providerEnabled = provider.enabled
  accountConfiguredEnabled : upstream.accountConfiguredEnabled = account.enabled
  accountEnabled : upstream.accountEnabled = (account.enabled && provider.enabled)
  providerKind : upstream.providerKind = provider.providerKind
  apiBase : normalizeApiBase ("account " ++ trimString accountRef) account.apiBase =
    .ok upstream.apiBase
  authHeader : normalizeAuthHeader ("account " ++ trimString accountRef) account.authHeader =
    .ok upstream.authHeader
  authPrefix : upstream.authPrefix = account.authPrefix

/-- With an account, its row decides provider, address and header, and the row of the provider the
kind. -/
theorem AccountResolved.of_resolvePoolAccount {upstream : ResolvedUpstreamAccount}
    (h : resolvePoolAccount name pool sections.providers sections.accounts = .ok upstream)
    {accountRef : String} (haccount : pool.account = some accountRef) :
    ∃ account provider, AccountResolved sections accountRef account provider upstream := by
  -- one equation for each step of the resolver
  unfold resolvePoolAccount at h
  rw [haccount] at h
  obtain ⟨accountKey, hkey, h⟩ := bind_eq_ok.mp h
  obtain rfl := normalizeResourceId_eq_ok hkey
  obtain ⟨account, hfound, h⟩ := bind_eq_ok.mp h
  obtain ⟨provider, hprovider, h⟩ := bind_eq_ok.mp h
  obtain ⟨apiBase, hbase, h⟩ := bind_eq_ok.mp h
  obtain ⟨authHeader, hheader, h⟩ := bind_eq_ok.mp h
  obtain rfl := Except.ok.inj h
  exact ⟨account, provider, {
    lookup_account := okOrElse_eq_ok_iff.mp hfound
    lookup_provider := okOrElse_eq_ok_iff.mp hprovider
    providerId := rfl
    accountId := rfl
    providerEnabled := rfl
    accountConfiguredEnabled := rfl
    accountEnabled := rfl
    providerKind := rfl
    apiBase := hbase
    authHeader := hheader
    authPrefix := rfl }⟩

/-- A channel without an account has ids of its own. -/
theorem ids_of_own_account {upstream : ResolvedUpstreamAccount}
    (h : resolvePoolAccount name pool sections.providers sections.accounts = .ok upstream)
    (haccount : pool.account = none) :
    upstream.accountId = "account:" ++ name ∧
      upstream.providerId = "provider:" ++ pool.providerKind.stableIdFragment := by
  unfold resolvePoolAccount at h
  rw [haccount] at h
  obtain ⟨apiBase, -, h⟩ := bind_eq_ok.mp h
  obtain ⟨authHeader, -, h⟩ := bind_eq_ok.mp h
  obtain rfl := Except.ok.inj h
  exact ⟨rfl, rfl⟩

/-- The account id of a channel is a text with a mark in front of it. -/
theorem accountId_of_resolvePoolAccount {upstream : ResolvedUpstreamAccount}
    (h : resolvePoolAccount name pool sections.providers sections.accounts = .ok upstream) :
    ∃ id, upstream.accountId = "account:" ++ id := by
  cases haccount : pool.account with
  | none => exact ⟨name, (ids_of_own_account h haccount).1⟩
  | some accountRef =>
      obtain ⟨account, provider, hresolved⟩ := AccountResolved.of_resolvePoolAccount h haccount
      exact ⟨trimString accountRef, hresolved.accountId⟩

/-- A reference that is there is trimmed. -/
theorem normalizeOptionalId_eq_ok {field : String} {raw id : Option String}
    (h : normalizeOptionalId field raw = .ok id) : id = raw.map trimString := by
  cases raw with
  | none =>
      cases h
      rfl
  | some raw =>
      change (normalizeResourceId field raw).map some = .ok id at h
      cases hnormal : normalizeResourceId field raw with
      | error message =>
          rw [hnormal] at h
          cases h
      | ok normal =>
          rw [hnormal] at h
          cases h
          rw [normalizeResourceId_eq_ok hnormal, Option.map_some]

/-- The routing profile of a channel, or the one for all channels. -/
theorem routingProfileId_eq {defaultRoutingProfile rawDefault : Option String} {id : String}
    (h : resolvePoolRoutingProfileId name pool defaultRoutingProfile = .ok id)
    (hdefault : normalizeOptionalId "default_routing_profile" rawDefault =
      .ok defaultRoutingProfile) :
    ∃ raw, pool.routingProfile.or rawDefault = some raw ∧ id = trimString raw := by
  unfold resolvePoolRoutingProfileId at h
  cases hown : pool.routingProfile with
  | some raw =>
      rw [hown] at h
      exact ⟨raw, rfl, normalizeResourceId_eq_ok h⟩
  | none =>
      rw [hown] at h
      cases rawDefault with
      | none =>
          cases hdefault
          cases h
      | some raw =>
          obtain rfl := normalizeOptionalId_eq_ok hdefault
          cases h
          exact ⟨raw, rfl, rfl⟩

/-! ## §3. Routes and profiles. -/

/-- A target of a route comes from one of the row, with its channel trimmed. -/
structure TargetResolved (row : ModelRouteTargetConfig) (target : RouteTarget) : Prop where
  channelId : target.channelId = trimString row.channel
  upstreamModel : target.upstreamModel = row.upstreamModel
  priority : target.priority = row.priority
  weight : target.weight = row.weight
  enabled : target.enabled = row.enabled

/-- What the row of a target decides. -/
theorem TargetResolved.of_resolveRouteTarget {pools : IdMap FullPoolConfig}
    {publicModel : String} {row : ModelRouteTargetConfig} {target : RouteTarget}
    (h : resolveRouteTarget pools publicModel row = .ok target) : TargetResolved row target := by
  obtain ⟨channelId, hchannel, h⟩ := bind_eq_ok.mp h
  obtain ⟨pool, -, h⟩ := bind_eq_ok.mp h
  obtain rfl := Except.ok.inj h
  exact ⟨normalizeResourceId_eq_ok hchannel, rfl, rfl, rfl, rfl⟩

/-- A route of the configuration: its targets are those of the row, by priority. -/
structure RouteResolved (row : ModelRouteConfig) (route : ModelRoute) : Prop where
  strategy : parseRouteStrategy row.strategy = .ok route.strategy
  targets : ∃ targets, List.Forall₂ TargetResolved row.targets targets ∧
    route.targets = targets.insertionSort (·.priority ≤ ·.priority)

/-- What the row of a route decides: its targets are resolved one by one and then sorted. -/
theorem RouteResolved.of_resolveModelRoute {pools : IdMap FullPoolConfig}
    {entry : Σ _ : String, ModelRouteConfig} {key : String} {route : ModelRoute}
    (h : resolveModelRoute pools entry = .ok (key, route)) : RouteResolved entry.2 route := by
  obtain ⟨strategy, hstrategy, h⟩ := bind_eq_ok.mp h
  obtain ⟨_, -, h⟩ := bind_eq_ok.mp h
  obtain ⟨targets, htargets, h⟩ := bind_eq_ok.mp h
  cases h
  refine ⟨hstrategy, targets, ?_, rfl⟩
  exact (forall₂_of_mapM htargets).imp fun _ _ h => TargetResolved.of_resolveRouteTarget h

/-- A routing profile has the values of its row. -/
structure RoutingProfileResolved (id : String) (row : RoutingProfileConfig)
    (profile : ResolvedRoutingProfile) : Prop where
  id_eq : profile.id = id
  defaultCredentialCooldown : profile.defaultCredentialCooldown =
    Duration.fromSecs row.defaultCredentialCooldownSeconds
  sameRequestCredentialRetryEnabled :
    profile.sameRequestCredentialRetryEnabled = row.sameRequestRetryEnabled
  maxSameRequestRetries : profile.maxSameRequestRetries = row.sameRequestMaxRetries
  routeTargetRetryEnabled : profile.routeTargetRetryEnabled = row.routeTargetRetryEnabled

/-- What the row of a routing profile decides. -/
theorem RoutingProfileResolved.of_resolve {entry : Σ _ : String, RoutingProfileConfig}
    {key : String} {profile : ResolvedRoutingProfile}
    (h : resolveRoutingProfileEntry entry = .ok (key, profile)) :
    RoutingProfileResolved key entry.2 profile := by
  obtain ⟨id, -, h⟩ := bind_eq_ok.mp h
  obtain ⟨resolved, hresolved, h⟩ := bind_eq_ok.mp h
  obtain ⟨rfl, rfl⟩ := Prod.mk.inj (Except.ok.inj h)
  obtain ⟨_, -, hresolved⟩ := bind_eq_ok.mp hresolved
  obtain ⟨_, -, hresolved⟩ := bind_eq_ok.mp hresolved
  obtain ⟨_, -, hresolved⟩ := bind_eq_ok.mp hresolved
  obtain rfl := Except.ok.inj hresolved
  exact ⟨rfl, rfl, rfl, rfl, rfl⟩

/-- A policy profile has the rules of its row; an action that is absent has its default. -/
structure PolicyProfileResolved (id : String) (row : PolicyProfileConfig)
    (profile : ResolvedPolicyProfile) : Prop where
  id_eq : profile.id = id
  errorRules : profile.errorRules = row.errorRules
  probeResultPolicy : ProbeResultPolicy.fromConfig row.probeResultActions =
    .ok profile.probeResultPolicy

/-- What the row of a policy profile decides. -/
theorem PolicyProfileResolved.of_resolve {entry : Σ _ : String, PolicyProfileConfig}
    {key : String} {profile : ResolvedPolicyProfile}
    (h : resolvePolicyProfile entry = .ok (key, profile)) :
    PolicyProfileResolved key entry.2 profile := by
  obtain ⟨id, -, h⟩ := bind_eq_ok.mp h
  obtain ⟨_, -, h⟩ := bind_eq_ok.mp h
  obtain ⟨_, -, h⟩ := bind_eq_ok.mp h
  obtain ⟨probeResultPolicy, hpolicy, h⟩ := bind_eq_ok.mp h
  cases h
  exact ⟨rfl, rfl, hpolicy⟩

/-- A channel without a profile has none, and a named one has to be there. -/
theorem lookupPolicyProfile_eq_ok {unknown : String}
    {policyProfiles : IdMap ResolvedPolicyProfile} {profileId : Option String}
    {profile : Option ResolvedPolicyProfile}
    (h : lookupPolicyProfile unknown policyProfiles profileId = .ok profile) :
    profile = profileId.bind policyProfiles.lookup := by
  unfold lookupPolicyProfile at h
  split at h
  · cases h
    rfl
  · split at h
    · next hfound =>
        cases h
        exact hfound.symm
    · cases h

/-- The rules of a channel: its own before those of the profile that it names. -/
theorem rules_of_resolvePoolErrorPolicy {policyProfiles : IdMap ResolvedPolicyProfile}
    {rules : ErrorRulesConfig} {sources : ResolvedErrorPolicySources}
    (h : resolvePoolErrorPolicy name pool policyProfiles = .ok (rules, sources)) :
    rules = mergeErrorRules pool.errorRules
      (((pool.policyProfile.bind fun id => policyProfiles.lookup (trimString id)).map
        (·.errorRules)).getD .default) := by
  obtain ⟨_, -, h⟩ := bind_eq_ok.mp h
  obtain ⟨profileId, hprofileId, h⟩ := bind_eq_ok.mp h
  obtain ⟨profile, hprofile, h⟩ := bind_eq_ok.mp h
  obtain ⟨_, -, h⟩ := bind_eq_ok.mp h
  obtain ⟨rfl, -⟩ := Prod.mk.inj (Except.ok.inj h)
  rw [lookupPolicyProfile_eq_ok hprofile, normalizeOptionalId_eq_ok hprofileId]
  cases pool.policyProfile <;> rfl

/-- What an account row becomes: the provider that it names is trimmed. -/
theorem provider_of_resolveAccount {providers : IdMap ProviderConfig}
    {entry : Σ _ : String, AccountConfig} {key : String} {account : AccountConfig}
    (h : resolveAccount providers entry = .ok (key, account)) :
    account = { entry.2 with provider := trimString entry.2.provider } := by
  obtain ⟨id, -, h⟩ := bind_eq_ok.mp h
  obtain ⟨providerId, hprovider, h⟩ := bind_eq_ok.mp h
  obtain ⟨_, -, h⟩ := bind_eq_ok.mp h
  obtain ⟨-, rfl⟩ := Prod.mk.inj (Except.ok.inj h)
  rw [normalizeResourceId_eq_ok hprovider]

/-- A provider is taken over as it is. -/
theorem resolveProvider_eq {entry : Σ _ : String, ProviderConfig} {key : String}
    {provider : ProviderConfig} (h : resolveProvider entry = .ok (key, provider)) :
    provider = entry.2 := by
  obtain ⟨id, -, h⟩ := bind_eq_ok.mp h
  exact (Prod.mk.inj (Except.ok.inj h)).2.symm

/-! ## §4. The rows behind a configuration. -/

namespace ResolvedBy

variable {document : RegistryDocument} {orders : SectionOrders document}
  {config : FullResolvedConfig} {poolConfigs : IdMap PoolConfig}

/-- A document that resolves has no two channels with the same trimmed id. -/
theorem distinct_pools (h : ResolvedBy environment document orders config poolConfigs sections) :
    DistinctIds document.pools :=
  distinct_of_collectDistinct resolvePoolId_key h.poolIds

/-- A channel is found under its trimmed id. -/
theorem lookup_poolConfigs
    (h : ResolvedBy environment document orders config poolConfigs sections) {id : String}
    {pool : PoolConfig} (hrow : document.pools.lookup id = some pool) :
    poolConfigs.lookup (trimString id) = some pool := by
  have hcollected := ((collectDistinct_eq_ok_iff resolvePoolId_key).mp h.poolIds).2
  obtain ⟨value, hvalue, hentry⟩ :=
    collected_of_row resolvePoolId_key h.distinct_pools hcollected hrow
  obtain ⟨_, -, hpure⟩ := bind_eq_ok.mp hentry
  obtain rfl := (Prod.mk.inj (Except.ok.inj hpure)).2
  exact hvalue

/-- A row of a channel is resolved. -/
theorem channel_of_row
    (h : ResolvedBy environment document orders config poolConfigs sections) {id : String}
    {pool : PoolConfig} (hrow : document.pools.lookup id = some pool) :
    ∃ channel, config.pools.lookup (trimString id) = some channel ∧
      ChannelResolved sections (trimString id) pool channel := by
  have hname : ∀ (entry : String × PoolConfig) key value,
      resolvePool environment sections entry = .ok (key, value) → key = entry.1 :=
    fun entry key value hentry => (ChannelResolved.of_resolvePool hentry).1
  have hnodup : ((IdMap.sortedEntries poolConfigs).map Prod.fst).Nodup := by
    rw [IdMap.map_fst_sortedEntries]
    exact IdMap.nodup_sortedKeys poolConfigs
  obtain ⟨hentries, -⟩ := collect_lookup hname hnodup h.pools
  obtain ⟨channel, hentry, hchannel⟩ := hentries (trimString id, pool)
    (IdMap.mem_sortedEntries.mpr (h.lookup_poolConfigs hrow))
  exact ⟨channel, hchannel, (ChannelResolved.of_resolvePool hentry).2⟩

/-- A channel of the configuration has a row. -/
theorem row_of_channel
    (h : ResolvedBy environment document orders config poolConfigs sections) {name : String}
    {channel : FullPoolConfig} (hchannel : config.pools.lookup name = some channel) :
    ∃ id pool, document.pools.lookup id = some pool ∧ trimString id = name ∧
      ChannelResolved sections name pool channel := by
  have hcollected := ((collectDistinct_eq_ok_iff resolvePoolId_key).mp h.poolIds).2
  have hpool : ∃ pool, poolConfigs.lookup name = some pool ∧
      ChannelResolved sections name pool channel := by
    refine @collect_forall _ _ _ _ _ (resolvePool environment sections)
      (fun key value => ∃ pool, poolConfigs.lookup key = some pool ∧
        ChannelResolved sections key pool value) (IdMap.sortedEntries poolConfigs) ?_ _ _ ?_
      h.pools name channel hchannel
    · rintro ⟨name, pool⟩ hmem key value hentry
      obtain ⟨rfl, hresolved⟩ := ChannelResolved.of_resolvePool hentry
      exact ⟨pool, IdMap.mem_sortedEntries.mp hmem, hresolved⟩
    · intro key value hempty
      rw [Finmap.lookup_empty] at hempty
      cases hempty
  obtain ⟨pool, hpool, hresolved⟩ := hpool
  obtain ⟨id, row, hrow, hid, hentry⟩ := row_of_collected resolvePoolId_key hcollected hpool
  obtain ⟨_, -, hpure⟩ := bind_eq_ok.mp hentry
  obtain rfl := (Prod.mk.inj (Except.ok.inj hpure)).2
  exact ⟨id, row, hrow, hid, hresolved⟩

/-- Routes are put under their public models as they are. -/
theorem route_of_row
    (h : ResolvedBy environment document orders config poolConfigs sections) {model : String}
    {row : ModelRouteConfig} (hrow : document.modelRoutes.lookup model = some row) :
    ∃ route, config.modelRoutes.lookup model = some route ∧ RouteResolved row route := by
  obtain ⟨hentries, -⟩ := collect_lookup (resolveModelRoute_key config.pools)
    orders.modelRoutes.nodup_keys h.modelRoutes
  obtain ⟨route, hentry, hroute⟩ := hentries ⟨model, row⟩ (IterationOrder.mem_iff_lookup.mpr hrow)
  exact ⟨route, hroute, .of_resolveModelRoute hentry⟩

/-- Every resolved route has a row. -/
theorem row_of_route
    (h : ResolvedBy environment document orders config poolConfigs sections) {model : String}
    {route : ModelRoute} (hroute : config.modelRoutes.lookup model = some route) :
    ∃ row, document.modelRoutes.lookup model = some row ∧ RouteResolved row route := by
  obtain ⟨-, hother⟩ := collect_lookup (resolveModelRoute_key config.pools)
    orders.modelRoutes.nodup_keys h.modelRoutes
  have hmem : model ∈ orders.modelRoutes.1.map Sigma.fst := by
    by_contra hnot
    have hnone := hother model hnot
    rw [hroute, Finmap.lookup_empty] at hnone
    cases hnone
  obtain ⟨row, hrow⟩ := Finmap.mem_iff.mp (orders.modelRoutes.mem_iff.mpr hmem)
  obtain ⟨route', hroute', hresolved⟩ := h.route_of_row hrow
  obtain rfl : route = route' := Option.some.inj (hroute.symm.trans hroute')
  exact ⟨row, hrow, hresolved⟩

/-- Every row of a routing profile is resolved. -/
theorem routingProfile_of_row
    (h : ResolvedBy environment document orders config poolConfigs sections) {id : String}
    {row : RoutingProfileConfig} (hrow : document.routingProfiles.lookup id = some row) :
    ∃ profile, config.routingProfiles.lookup (trimString id) = some profile ∧
      RoutingProfileResolved (trimString id) row profile := by
  have hcollected :=
    ((collectDistinct_eq_ok_iff resolveRoutingProfileEntry_key).mp h.routingProfiles).2
  obtain ⟨profile, hprofile, hentry⟩ := collected_of_row resolveRoutingProfileEntry_key
    (distinct_of_collectDistinct resolveRoutingProfileEntry_key h.routingProfiles) hcollected hrow
  rw [h.routingProfiles_eq]
  exact ⟨profile, hprofile, .of_resolve hentry⟩

/-- Every resolved routing profile has a row. -/
theorem row_of_routingProfile
    (h : ResolvedBy environment document orders config poolConfigs sections) {key : String}
    {profile : ResolvedRoutingProfile}
    (hprofile : config.routingProfiles.lookup key = some profile) :
    ∃ id row, document.routingProfiles.lookup id = some row ∧ trimString id = key ∧
      RoutingProfileResolved key row profile := by
  have hcollected :=
    ((collectDistinct_eq_ok_iff resolveRoutingProfileEntry_key).mp h.routingProfiles).2
  rw [h.routingProfiles_eq] at hprofile
  obtain ⟨id, row, hrow, hid, hentry⟩ :=
    row_of_collected resolveRoutingProfileEntry_key hcollected hprofile
  exact ⟨id, row, hrow, hid, .of_resolve hentry⟩

/-- Every row of a policy profile is resolved. -/
theorem policyProfile_of_row
    (h : ResolvedBy environment document orders config poolConfigs sections) {id : String}
    {row : PolicyProfileConfig} (hrow : document.policyProfiles.lookup id = some row) :
    ∃ profile, config.policyProfiles.lookup (trimString id) = some profile ∧
      PolicyProfileResolved (trimString id) row profile := by
  have hcollected := ((collectDistinct_eq_ok_iff resolvePolicyProfile_key).mp h.policyProfiles).2
  obtain ⟨profile, hprofile, hentry⟩ := collected_of_row resolvePolicyProfile_key
    (distinct_of_collectDistinct resolvePolicyProfile_key h.policyProfiles) hcollected hrow
  rw [h.policyProfiles_eq]
  exact ⟨profile, hprofile, .of_resolve hentry⟩

/-- Every resolved policy profile has a row. -/
theorem row_of_policyProfile
    (h : ResolvedBy environment document orders config poolConfigs sections) {key : String}
    {profile : ResolvedPolicyProfile}
    (hprofile : config.policyProfiles.lookup key = some profile) :
    ∃ id row, document.policyProfiles.lookup id = some row ∧ trimString id = key ∧
      PolicyProfileResolved key row profile := by
  have hcollected := ((collectDistinct_eq_ok_iff resolvePolicyProfile_key).mp h.policyProfiles).2
  rw [h.policyProfiles_eq] at hprofile
  obtain ⟨id, row, hrow, hid, hentry⟩ :=
    row_of_collected resolvePolicyProfile_key hcollected hprofile
  exact ⟨id, row, hrow, hid, .of_resolve hentry⟩

/-- The policy profiles are there under their trimmed ids. -/
theorem mem_policyProfiles_iff
    (h : ResolvedBy environment document orders config poolConfigs sections) {key : String} :
    key ∈ config.policyProfiles ↔ ∃ id ∈ document.policyProfiles, trimString id = key := by
  constructor
  · intro hmem
    obtain ⟨profile, hprofile⟩ := Finmap.mem_iff.mp hmem
    obtain ⟨id, row, hrow, hid, -⟩ := h.row_of_policyProfile hprofile
    exact ⟨id, Finmap.mem_iff.mpr ⟨row, hrow⟩, hid⟩
  · rintro ⟨id, hmem, rfl⟩
    obtain ⟨row, hrow⟩ := Finmap.mem_iff.mp hmem
    obtain ⟨profile, hprofile, -⟩ := h.policyProfile_of_row hrow
    exact Finmap.mem_iff.mpr ⟨profile, hprofile⟩

/-- The keys of a set are loaded from the file of its row. -/
theorem row_of_keyImport
    (h : ResolvedBy environment document orders config poolConfigs sections) {key : String}
    {imported : KeyImport} (himported : sections.credentialSets.lookup key = some imported) :
    ∃ id row, document.credentialSets.lookup id = some row ∧ trimString id = key ∧
      environment.loadCredentialSet key row.keysFile = .ok imported := by
  obtain ⟨id, row, hrow, hid, hentry⟩ :=
    row_of_collected (resolveCredentialSet_key environment) h.credentialSets himported
  obtain ⟨id', -, hentry⟩ := bind_eq_ok.mp hentry
  obtain ⟨_, hloaded, hentry⟩ := bind_eq_ok.mp hentry
  obtain ⟨rfl, rfl⟩ := Prod.mk.inj (Except.ok.inj hentry)
  exact ⟨id, row, hrow, hid, hloaded⟩

/-- Every resolved credential set has a row. -/
theorem row_of_credentialSet
    (h : ResolvedBy environment document orders config poolConfigs sections) {key : String}
    (hmem : key ∈ sections.credentialSets) :
    ∃ id ∈ document.credentialSets, trimString id = key := by
  obtain ⟨imported, himported⟩ := Finmap.mem_iff.mp hmem
  obtain ⟨id, row, hrow, hid, -⟩ := h.row_of_keyImport himported
  exact ⟨id, Finmap.mem_iff.mpr ⟨row, hrow⟩, hid⟩

/-- Every account of the sections has a row. -/
theorem row_of_account
    (h : ResolvedBy environment document orders config poolConfigs sections) {key : String}
    {account : AccountConfig} (haccount : sections.accounts.lookup key = some account) :
    ∃ id row, document.accounts.lookup id = some row ∧ trimString id = key ∧
      account = { row with provider := trimString row.provider } := by
  obtain ⟨id, row, hrow, hid, hentry⟩ :=
    row_of_collected (resolveAccount_key sections.providers) h.accounts haccount
  have haccount := @provider_of_resolveAccount sections.providers ⟨id, row⟩ key account hentry
  exact ⟨id, row, hrow, hid, haccount⟩

/-- Every resolved provider is a row of the document. -/
theorem row_of_provider
    (h : ResolvedBy environment document orders config poolConfigs sections) {key : String}
    {provider : ProviderConfig} (hprovider : sections.providers.lookup key = some provider) :
    ∃ id, document.providers.lookup id = some provider ∧ trimString id = key := by
  obtain ⟨id, row, hrow, hid, hentry⟩ :=
    row_of_collected resolveProvider_key h.providers hprovider
  rw [resolveProvider_eq hentry]
  exact ⟨id, hrow, hid⟩

end ResolvedBy

end OneAiKey
