/-
  OneAiKey.ReloadDiff.Hidden — what a reload can change although the diff reports
  nothing (`src/management_runtime_diff.rs`).

  A summary stands for a larger resource.  The columns that it leaves out, and what a
  printed text does not tell apart, are not seen by the operator who confirms the
  reload.

  Main results:
    * `channelColumnsKept_iff` — of one channel: the columns that are left out, and what
      a reload makes of them;
    * `sameBehaviour_iff_uncomparedColumns` — where the compared columns agree, a reload
      keeps the behaviour exactly when it keeps the others;
    * `reload_diff_hides_nothing_iff` — so an empty diff can be trusted exactly for these
      documents.
-/
import OneAiKey.ReloadDiff.Columns

namespace OneAiKey

open Collect
open Grouping

/-! ## §1. Configurations that behave alike. -/

/-- What the configuration says about how a channel is used. -/
structure ChannelBehaviour where
  configuredEnabled : Bool
  accountEnabled : Bool
  apiBase : String
  authHeader : String
  authPrefix : String
  /-- The keys are those of a credential set, read from a path. -/
  credentialSetId : CredentialSetId
  keysPath : String
  errorClassifier : ErrorClassifier
  routingPolicy : RoutingPolicy
  deriving DecidableEq, Repr

def FullPoolConfig.behaviour (channel : FullPoolConfig) : ChannelBehaviour where
  configuredEnabled := channel.configuredEnabled
  accountEnabled := channel.accountEnabled
  apiBase := channel.keyPool.apiBase
  authHeader := channel.authHeader
  authPrefix := channel.authPrefix
  credentialSetId := channel.credentialSetId
  keysPath := channel.keyImportReport.sourcePath
  errorClassifier := channel.errorClassifier
  routingPolicy := channel.routingPolicy

/-- The same channels, routes, groups, profiles and default channel. -/
structure SameBehaviour (config config' : FullResolvedConfig) : Prop where
  channels : ∀ id, (config.pools.lookup id).map (·.behaviour) =
    (config'.pools.lookup id).map (·.behaviour)
  modelRoutes : ∀ model, (config.modelRoutes.lookup model).map (fun route =>
      (route.targets, route.strategy)) =
    (config'.modelRoutes.lookup model).map fun route => (route.targets, route.strategy)
  modelGroups : config.modelGroups = config'.modelGroups
  policyProfiles : config.policyProfiles = config'.policyProfiles
  routingProfiles : config.routingProfiles = config'.routingProfiles
  defaultPool : config.defaultPool = config'.defaultPool

/-- What no summary of a channel, its account or its credential set has. -/
def FullPoolConfig.unsummarized (channel : FullPoolConfig) :
    String × String × String × String × ErrorClassifier :=
  (channel.keyPool.apiBase, channel.authHeader, channel.authPrefix,
    channel.keyImportReport.sourcePath, channel.errorClassifier)

/-! ## §2. The columns that are not compared. -/

/-- Where the keys of a set come from: from the file of its row, or from where the
repository has them. -/
def keysPath (environment : ProcessEnvironment) (setId : CredentialSetId) (keysFile : String) :
    Except String String := do
  let selection ← environment
  let imported ← selection.loadCredentialSet setId keysFile
  return imported.report.sourcePath

/-- The error rules of a row before those of the profile that it names. -/
def stagedErrorRules (document : RegistryDocument) (pool : PoolConfig) : ErrorRulesConfig :=
  mergeErrorRules pool.errorRules
    (((pool.policyProfile.bind fun id => document.policyProfiles.lookup (trimString id)).map
      (·.errorRules)).getD .default)

/-- An account row has the upstream that a channel runs with. -/
structure AccountColumnsKept (id : String) (account : AccountConfig)
    (channel : FullPoolConfig) : Prop where
  apiBase : normalizeApiBase ("account " ++ id) account.apiBase = .ok channel.keyPool.apiBase
  authHeader : normalizeAuthHeader ("account " ++ id) account.authHeader =
    .ok channel.authHeader
  authPrefix : account.authPrefix = channel.authPrefix

/-- The account, the credential set and the rules of a staged channel have the values that
run. -/
structure ChannelColumnsKept (environment : ProcessEnvironment) (document : RegistryDocument)
    (name : String) (channel : FullPoolConfig) (pool : PoolConfig) : Prop where
  account : ∀ id account, pool.account = some id → document.accounts.lookup id = some account →
    AccountColumnsKept id account channel
  keysFile : ∀ set, document.credentialSets.lookup pool.credentialSet = some set →
    keysPath environment pool.credentialSet set.keysFile =
      .ok channel.keyImportReport.sourcePath
  errorRules : (stagedErrorRules document pool).intoClassifierWithContext
    ("pools." ++ name ++ ".effective_error_rules") = .ok channel.errorClassifier

/-- A target without the kind of its channel. -/
def RouteTarget.columns (target : RouteTarget) : ModelRouteTargetConfig where
  channel := target.channelId
  upstreamModel := target.upstreamModel
  priority := target.priority
  weight := target.weight
  enabled := target.enabled

/-- The targets of a row as a route has them. -/
def ModelRouteConfig.sortedTargets (row : ModelRouteConfig) : List ModelRouteTargetConfig :=
  (row.targets.map fun target => { target with channel := trimString target.channel }).insertionSort
    (·.priority ≤ ·.priority)

/-- The rows of the staged document `document'` also have in these columns the values that
run.  `document` is the one of the runtime. -/
structure UncomparedColumns (environment : ProcessEnvironment)
    (document document' : RegistryDocument) (config : FullResolvedConfig) : Prop where
  pools : ∀ id channel pool, config.pools.lookup id = some channel →
    document'.pools.lookup id = some pool →
    ChannelColumnsKept environment document' id channel pool
  /-- A channel without an account lends its name to an account that is not a row. -/
  accountEnabled : ¬ document.NamesAccounts → ∀ id channel pool accountId account provider,
    config.pools.lookup id = some channel → document'.pools.lookup id = some pool →
    pool.account = some accountId → document'.accounts.lookup accountId = some account →
    document'.providers.lookup account.provider = some provider →
    channel.accountEnabled = (account.enabled && provider.enabled)
  /-- Printed and sorted, targets lose their order, and an absent upstream model is an
  empty one. -/
  modelRoutes : ∀ model route row, config.modelRoutes.lookup model = some route →
    document'.modelRoutes.lookup model = some row →
    route.targets.map RouteTarget.columns = row.sortedTargets
  policyProfiles : ∀ id profile row, config.policyProfiles.lookup id = some profile →
    document'.policyProfiles.lookup id = some row → PolicyProfileResolved id row profile
  defaultPool : normalizeOptionalId "default_pool" document'.defaultPool =
    .ok config.defaultPool

/-! ## §3. Model groups. -/

/-- The models of a group do not depend on the routes that they are checked against. -/
theorem resolveGroupModels_unique {modelRoutes modelRoutes' : IdMap ModelRoute}
    {groupId groupId' : String} {models seen result result' : List String}
    (h : resolveGroupModels modelRoutes groupId models seen = .ok result)
    (h' : resolveGroupModels modelRoutes' groupId' models seen = .ok result') :
    result = result' := by
  induction models generalizing seen with
  | nil =>
      cases h
      cases h'
      rfl
  | cons model models ih =>
      unfold resolveGroupModels at h h'
      obtain ⟨_, -, h⟩ := bind_eq_ok.mp h
      obtain ⟨_, -, h⟩ := bind_eq_ok.mp h
      obtain ⟨_, -, h'⟩ := bind_eq_ok.mp h'
      obtain ⟨_, -, h'⟩ := bind_eq_ok.mp h'
      exact ih h h'

theorem resolveModelGroup_unique {modelRoutes modelRoutes' : IdMap ModelRoute}
    {entry : Σ _ : String, ModelGroupConfig} {key : String} {group group' : ResolvedModelGroup}
    (h : resolveModelGroup modelRoutes entry = .ok (key, group))
    (h' : resolveModelGroup modelRoutes' entry = .ok (key, group')) : group = group' := by
  have hid := resolveModelGroup_id h
  have hid' := resolveModelGroup_id h'
  obtain ⟨groupId, -, h⟩ := bind_eq_ok.mp h
  obtain ⟨_, -, h⟩ := bind_eq_ok.mp h
  obtain ⟨models, hmodels, h⟩ := bind_eq_ok.mp h
  obtain ⟨groupId', -, h'⟩ := bind_eq_ok.mp h'
  obtain ⟨_, -, h'⟩ := bind_eq_ok.mp h'
  obtain ⟨models', hmodels', h'⟩ := bind_eq_ok.mp h'
  cases h
  cases h'
  rw [resolveGroupModels_unique hmodels hmodels']

section Resolved

variable {environment environment' : ResolveEnvironment} {document document' : RegistryDocument}
  {orders : SectionOrders document} {orders' : SectionOrders document'}
  {config config' : FullResolvedConfig} {poolConfigs poolConfigs' : IdMap PoolConfig}
  {sections sections' : ResolvedSections}

/-- Groups are not staged, so a reload keeps them. -/
theorem modelGroups_subset (hgroups : document.modelGroups = document'.modelGroups)
    (h : ResolvedBy environment document orders config poolConfigs sections)
    (h' : ResolvedBy environment' document' orders' config' poolConfigs' sections')
    {key : String} {group : ResolvedModelGroup}
    (hgroup : config.modelGroups.lookup key = some group) :
    config'.modelGroups.lookup key = some group := by
  have hcollected := ((collectDistinct_eq_ok_iff
    (resolveModelGroup_key config.modelRoutes)).mp h.modelGroups).2
  have hcollected' := ((collectDistinct_eq_ok_iff
    (resolveModelGroup_key config'.modelRoutes)).mp h'.modelGroups).2
  obtain ⟨id, row, hrow, rfl, hentry⟩ :=
    row_of_collected (resolveModelGroup_key config.modelRoutes) hcollected hgroup
  rw [hgroups] at hrow
  obtain ⟨group', hgroup', hentry'⟩ := collected_of_row
    (resolveModelGroup_key config'.modelRoutes)
    (distinct_of_collectDistinct (resolveModelGroup_key config'.modelRoutes) h'.modelGroups)
    hcollected' hrow
  rw [hgroup', resolveModelGroup_unique hentry hentry']

/-- Two documents with the same model groups resolve to the same ones. -/
theorem modelGroups_eq (hgroups : document.modelGroups = document'.modelGroups)
    (h : ResolvedBy environment document orders config poolConfigs sections)
    (h' : ResolvedBy environment' document' orders' config' poolConfigs' sections') :
    config.modelGroups = config'.modelGroups := by
  apply IdMap.eq_of_entries
  · exact fun key group hgroup => modelGroups_subset hgroups h h' hgroup
  · intro key hmem
    obtain ⟨group, hgroup⟩ := Finmap.mem_iff.mp hmem
    exact Finmap.mem_iff.mpr ⟨group, modelGroups_subset hgroups.symm h' h hgroup⟩

/-! ## §4. The staged rows of what runs. -/

/-- A routing profile is all in its row. -/
theorem RoutingProfileResolved.unique {id : String} {row : RoutingProfileConfig}
    {profile profile' : ResolvedRoutingProfile} (h : RoutingProfileResolved id row profile)
    (h' : RoutingProfileResolved id row profile') : profile = profile' := by
  obtain ⟨hid, hcooldown, hretry, hmax, htarget⟩ := h
  obtain ⟨hid', hcooldown', hretry', hmax', htarget'⟩ := h'
  cases profile with
  | mk id keySelection =>
      cases profile' with
      | mk id' keySelection' =>
          cases keySelection
          cases keySelection'
          rw [ResolvedRoutingProfile.mk.injEq]
          exact ⟨hid.trans hid'.symm, rfl, hcooldown.trans hcooldown'.symm,
            hretry.trans hretry'.symm, hmax.trans hmax'.symm, htarget.trans htarget'.symm⟩

/-- A row of a policy profile resolves in one way. -/
theorem PolicyProfileResolved.unique {id : String} {row : PolicyProfileConfig}
    {profile profile' : ResolvedPolicyProfile} (h : PolicyProfileResolved id row profile)
    (h' : PolicyProfileResolved id row profile') : profile = profile' := by
  have hpolicy : profile.probeResultPolicy = profile'.probeResultPolicy :=
    Except.ok.inj (h.probeResultPolicy.symm.trans h'.probeResultPolicy)
  cases profile
  rw [ResolvedPolicyProfile.mk.injEq]
  exact ⟨h.id_eq.trans h'.id_eq.symm, h.errorRules.trans h'.errorRules.symm, hpolicy⟩

theorem TargetResolved.columns_eq {row : ModelRouteTargetConfig} {target : RouteTarget}
    (h : TargetResolved row target) :
    target.columns = { row with channel := trimString row.channel } := by
  unfold RouteTarget.columns
  rw [h.channelId, h.upstreamModel, h.priority, h.weight, h.enabled]

/-- Resolved targets have the columns of their rows, with the channel trimmed. -/
theorem columns_of_targets {rows : List ModelRouteTargetConfig} {targets : List RouteTarget}
    (h : List.Forall₂ TargetResolved rows targets) :
    targets.map RouteTarget.columns =
      rows.map fun target => { target with channel := trimString target.channel } := by
  induction h with
  | nil => rfl
  | cons hrow _ ih => rw [List.map_cons, List.map_cons, ih, hrow.columns_eq]

/-- The targets of a route, kinds apart, are those of its row. -/
theorem RouteResolved.columns_eq {row : ModelRouteConfig} {route : ModelRoute}
    (h : RouteResolved row route) :
    route.targets.map RouteTarget.columns = row.sortedTargets := by
  obtain ⟨targets, htargets, hsorted⟩ := h.targets
  have hcommutes : (targets.insertionSort (·.priority ≤ ·.priority)).map RouteTarget.columns =
      (targets.map RouteTarget.columns).insertionSort (·.priority ≤ ·.priority) :=
    List.map_insertionSort _ _ RouteTarget.columns targets fun _ _ _ _ => Iff.rfl
  rw [hsorted, hcommutes, columns_of_targets htargets]
  rfl

/-- Targets that are the same but for the kind, which is that of the channel. -/
theorem targets_eq_of_columns {kind : String → ProviderKind} {targets targets' : List RouteTarget}
    (hkinds : ∀ target ∈ targets, target.providerKind = kind target.channelId)
    (hkinds' : ∀ target ∈ targets', target.providerKind = kind target.channelId)
    (h : targets.map RouteTarget.columns = targets'.map RouteTarget.columns) :
    targets = targets' := by
  induction targets generalizing targets' with
  | nil => exact (List.map_eq_nil_iff.mp h.symm).symm
  | cons target targets ih =>
      cases targets' with
      | nil => cases h
      | cons target' targets' =>
          obtain ⟨hcolumns, hrest⟩ := List.cons.inj h
          obtain ⟨hchannel, hmodel, hpriority, hweight, henabled⟩ :=
            ModelRouteTargetConfig.mk.inj hcolumns
          obtain ⟨hkind, hkinds⟩ := List.forall_mem_cons.mp hkinds
          obtain ⟨hkind', hkinds'⟩ := List.forall_mem_cons.mp hkinds'
          rw [ih hkinds hkinds' hrest, List.cons.injEq]
          refine ⟨?_, rfl⟩
          have hsame : target.providerKind = target'.providerKind := by
            rw [hkind, hkind', hchannel]
          cases target
          rw [RouteTarget.mk.injEq]
          exact ⟨hchannel, hsame, hmodel, hpriority, hweight, henabled⟩

section Agreement

variable {channels : List (String × FullPoolConfig)}
  (h : ResolvedBy environment document orders config poolConfigs sections)
  (h' : ResolvedBy environment' document' orders' config' poolConfigs' sections')
  (hchannels : ∀ name channel, (name, channel) ∈ channels ↔
    config.pools.lookup name = some channel)
  (hcompared : ComparedColumns channels config document')

include hchannels hcompared

/-- A staged account row is named by a running channel. -/
theorem channel_of_stagedAccount {id : String} {row : AccountConfig}
    (hrow : document'.accounts.lookup id = some row) :
    (∃ name channel, config.pools.lookup name = some channel ∧
        channel.accountId = "account:" ++ id ∧
        channel.providerId = "provider:" ++ row.provider) ∧
      (row.enabled = true ↔ ∀ name channel, config.pools.lookup name = some channel →
        channel.accountId = "account:" ++ id → channel.accountConfiguredEnabled = true) := by
  have hcolumns := hcompared.accounts id
  rw [hrow, Option.map_some, eq_comm] at hcolumns
  obtain ⟨⟨⟨name, channel⟩, hmem, haccount, hprovider⟩, henabled⟩ :=
    accountColumns_filter hcolumns
  refine ⟨⟨name, channel, (hchannels name channel).mp hmem, haccount, hprovider⟩, ?_⟩
  rw [henabled]
  simp only [Prod.forall, hchannels]

/-- A provider that the diff finds on both sides has a channel, and is enabled just when all of
its channels say so. -/
theorem channel_of_stagedProvider {id : String} {row : ProviderConfig}
    (hrow : document'.providers.lookup id = some row) :
    (∃ name channel, config.pools.lookup name = some channel ∧
        channel.providerId = "provider:" ++ id) ∧
      (row.enabled = true ↔ ∀ name channel, config.pools.lookup name = some channel →
        channel.providerId = "provider:" ++ id → channel.providerEnabled = true) := by
  have hcolumns := hcompared.providers id
  rw [hrow, eq_comm] at hcolumns
  obtain ⟨⟨⟨name, channel⟩, hmem, hprovider⟩, henabled⟩ := providerColumns_filter hcolumns
  refine ⟨⟨name, channel, (hchannels name channel).mp hmem, hprovider⟩, ?_⟩
  rw [henabled]
  simp only [Prod.forall, hchannels]

include h

/-- What runs has trimmed ids, and so have the staged rows that agree with it. -/
theorem trimmed_of_stagedAccount {id : String} {row : AccountConfig}
    (hrow : document'.accounts.lookup id = some row) :
    trimString id = id ∧ trimString row.provider = row.provider := by
  obtain ⟨⟨name, channel, hchannel, haccount, hprovider⟩, -⟩ :=
    channel_of_stagedAccount hchannels hcompared hrow
  obtain ⟨accountId, haccountId, haccountTrimmed⟩ := accountId_of_channel h hchannel
  obtain ⟨providerId, hproviderId, hproviderTrimmed⟩ := providerId_of_channel h hchannel
  obtain rfl : accountId = id := account_injective (haccountId.symm.trans haccount)
  have hsame : providerId = row.provider :=
    provider_injective (hproviderId.symm.trans hprovider)
  exact ⟨haccountTrimmed, hsame ▸ hproviderTrimmed⟩

theorem trimmed_of_stagedProvider {id : String} {row : ProviderConfig}
    (hrow : document'.providers.lookup id = some row) : trimString id = id := by
  obtain ⟨⟨name, channel, hchannel, hprovider⟩, -⟩ :=
    channel_of_stagedProvider hchannels hcompared hrow
  obtain ⟨providerId, hproviderId, htrimmed⟩ := providerId_of_channel h hchannel
  obtain rfl : providerId = id := provider_injective (hproviderId.symm.trans hprovider)
  exact htrimmed

theorem trimmed_of_stagedCredentialSet {id : String} (hid : id ∈ document'.credentialSets) :
    trimString id = id := by
  obtain ⟨⟨name, channel⟩, hmem, rfl⟩ := (hcompared.credentialSets id).mp hid
  obtain ⟨_, pool, -, -, hresolved⟩ := h.row_of_channel ((hchannels name channel).mp hmem)
  show trimString channel.credentialSetId = channel.credentialSetId
  rw [hresolved.credentialSetId, trimString_trimString]

omit hchannels in
theorem trimmed_of_stagedPolicyProfile {id : String} (hid : id ∈ document'.policyProfiles) :
    trimString id = id := by
  obtain ⟨rawId, -, rfl⟩ := h.mem_policyProfiles_iff.mp ((hcompared.policyProfiles id).mpr hid)
  exact trimString_trimString rawId

/-- The account and the provider that a staged channel names, by the rows of their ids. -/
structure StagedUpstream (document : RegistryDocument) (pool : PoolConfig)
    (staged : FullPoolConfig) (id : String) (account : AccountConfig)
    (provider : ProviderConfig) : Prop where
  named : pool.account = some id
  lookup_account : document.accounts.lookup id = some account
  lookup_provider : document.providers.lookup account.provider = some provider
  providerKind : staged.providerKind = provider.providerKind
  accountEnabled : staged.accountEnabled = (account.enabled && provider.enabled)
  columns : AccountColumnsKept id account staged

include h'

/-- The channel that agrees in its columns has an account and a provider in the staged document.
-/
theorem exists_stagedUpstream {name : String} {channel staged : FullPoolConfig}
    {pool : PoolConfig} (hchannel : config.pools.lookup name = some channel)
    (hagree : ChannelColumnsAgree document' channel pool)
    (hresolved : ChannelResolved sections' name pool staged) :
    ∃ id account provider, StagedUpstream document' pool staged id account provider := by
  obtain ⟨id, hnamed, hid⟩ := hagree.account
  obtain ⟨accountId, haccountId, htrimmed⟩ := accountId_of_channel h hchannel
  obtain rfl : accountId = id := account_injective (haccountId.symm.trans hid)
  obtain ⟨account, provider, hupstream⟩ :=
    AccountResolved.of_resolvePoolAccount hresolved.account hnamed
  -- the resolution reads the rows of these very ids, as they are trimmed
  obtain ⟨rawId, row, hrow, hrawId, haccount⟩ := h'.row_of_account hupstream.lookup_account
  rw [htrimmed] at hrawId
  obtain ⟨hidTrimmed, hproviderTrimmed⟩ := trimmed_of_stagedAccount h hchannels hcompared hrow
  obtain rfl : rawId = accountId := hidTrimmed.symm.trans hrawId
  rw [hproviderTrimmed] at haccount
  subst haccount
  obtain ⟨providerId, hprovider, hproviderId⟩ := h'.row_of_provider hupstream.lookup_provider
  rw [trimmed_of_stagedProvider h hchannels hcompared hprovider] at hproviderId
  subst hproviderId
  exact ⟨rawId, row, provider, {
    named := hnamed
    lookup_account := hrow
    lookup_provider := hprovider
    providerKind := hupstream.providerKind
    accountEnabled := hupstream.accountEnabled
    columns := by
      have hbase := hupstream.apiBase
      have hheader := hupstream.authHeader
      rw [htrimmed] at hbase hheader
      exact ⟨hbase, hheader, hupstream.authPrefix.symm⟩ }⟩

omit hchannels in
/-- The staged row of a channel that runs, and what a reload makes of it. -/
theorem staged_of_channel {id : String} {channel : FullPoolConfig}
    (hchannel : config.pools.lookup id = some channel) :
    ∃ pool staged, document'.pools.lookup id = some pool ∧
      config'.pools.lookup id = some staged ∧ ChannelColumnsAgree document' channel pool ∧
      ChannelResolved sections' id pool staged := by
  obtain ⟨pool, hpool, hagree⟩ := exists_of_rel_some_left hchannel (hcompared.pools id)
  obtain ⟨rawId, _, -, hraw, -⟩ := h.row_of_channel hchannel
  have hid : trimString id = id := by rw [← hraw, trimString_trimString]
  obtain ⟨staged, hstaged, hresolved⟩ := h'.channel_of_row hpool
  rw [hid] at hstaged hresolved
  exact ⟨pool, staged, hpool, hstaged, hagree, hresolved⟩

omit hchannels in
/-- No channel is new. -/
theorem mem_pools_of_staged {id : String} (hmem : id ∈ config'.pools) : id ∈ config.pools := by
  obtain ⟨staged, hstaged⟩ := Finmap.mem_iff.mp hmem
  obtain ⟨rawId, pool, hpool, hraw, -⟩ := h'.row_of_channel hstaged
  obtain ⟨channel, hchannel, -⟩ := exists_of_rel_some_right hpool (hcompared.pools rawId)
  obtain ⟨_, _, -, hid, -⟩ := h.row_of_channel hchannel
  have htrimmed : trimString rawId = rawId := by rw [← hid, trimString_trimString]
  rw [← hraw, htrimmed]
  exact Finmap.mem_iff.mpr ⟨channel, hchannel⟩

omit hchannels in

/-- Routing profiles that agree in their columns are equal once resolved. -/
theorem routingProfiles_eq : config.routingProfiles = config'.routingProfiles := by
  -- a resolved profile has a trimmed id, which is the key of its row
  have htrimmed : ∀ id profile, config.routingProfiles.lookup id = some profile →
      trimString id = id := by
    intro id profile hprofile
    obtain ⟨rawId, _, -, hraw, -⟩ := h.row_of_routingProfile hprofile
    rw [← hraw, trimString_trimString]
  apply IdMap.eq_of_entries
  · intro id profile hprofile
    obtain ⟨row, hrow, hresolved⟩ :=
      exists_of_rel_some_left hprofile (hcompared.routingProfiles id)
    obtain ⟨profile', hprofile', hresolved'⟩ := h'.routingProfile_of_row hrow
    rw [htrimmed id profile hprofile] at hprofile' hresolved'
    rw [hprofile', hresolved.unique hresolved']
  · intro id hmem
    obtain ⟨profile', hprofile'⟩ := Finmap.mem_iff.mp hmem
    obtain ⟨rawId, row, hrow, hraw, -⟩ := h'.row_of_routingProfile hprofile'
    obtain ⟨profile, hprofile, -⟩ :=
      exists_of_rel_some_right hrow (hcompared.routingProfiles rawId)
    rw [← hraw, htrimmed rawId profile hprofile]
    exact Finmap.mem_iff.mpr ⟨profile, hprofile⟩

omit hchannels in

/-- Both sides have the same policy profiles, by their ids. -/
theorem policyProfiles_mem_iff {id : String} :
    id ∈ config.policyProfiles ↔ id ∈ config'.policyProfiles := by
  rw [hcompared.policyProfiles, h'.mem_policyProfiles_iff]
  constructor
  · exact fun hid => ⟨id, hid, trimmed_of_stagedPolicyProfile h hcompared hid⟩
  · rintro ⟨rawId, hraw, rfl⟩
    rw [trimmed_of_stagedPolicyProfile h hcompared hraw]
    exact hraw

/-! ## §5. What a reload makes of a channel. -/

section Channel

variable {name : String} {channel staged : FullPoolConfig} {pool : PoolConfig}
  (hchannel : config.pools.lookup name = some channel)
  (hagree : ChannelColumnsAgree document' channel pool)
  (hresolved : ChannelResolved sections' name pool staged)

include hchannel hagree hresolved

omit hchannels in
/-- The compared columns keep whether a channel is enabled, its credential set and how it
retries. -/
theorem compared_of_staged : staged.configuredEnabled = channel.configuredEnabled ∧
    staged.credentialSetId = channel.credentialSetId ∧
    staged.routingPolicy = channel.routingPolicy := by
  obtain ⟨_, _, -, -, hrunning⟩ := h.row_of_channel hchannel
  refine ⟨hresolved.configuredEnabled.trans hagree.enabled, ?_, ?_⟩
  · -- the id of the running channel is trimmed, and so is the staged text
    rw [hresolved.credentialSetId, hagree.credentialSet, hrunning.credentialSetId,
      trimString_trimString]
  · obtain ⟨raw, -, hid⟩ := routingProfileId_eq hrunning.routingProfileId h.defaultRoutingProfile
    obtain ⟨raw', hraw', hid'⟩ :=
      routingProfileId_eq hresolved.routingProfileId h'.defaultRoutingProfile
    obtain rfl : raw' = channel.routingProfileId :=
      Option.some.inj (hraw'.symm.trans hagree.routingProfile)
    have hsameId : staged.routingProfileId = channel.routingProfileId := by
      rw [hid', hid, trimString_trimString]
    obtain ⟨profile, hprofile, hpolicy⟩ := hrunning.routingPolicy
    obtain ⟨profile', hprofile', hpolicy'⟩ := hresolved.routingPolicy
    rw [← h'.routingProfiles_eq, ← routingProfiles_eq h h' hcompared, h.routingProfiles_eq,
      hsameId, hprofile] at hprofile'
    obtain rfl := Option.some.inj hprofile'
    rw [hpolicy, hpolicy']

/-- The columns of a channel decide the kind of its provider. -/
theorem providerKind_of_staged : staged.providerKind = channel.providerKind := by
  obtain ⟨id, account, provider, hupstream⟩ :=
    exists_stagedUpstream h h' hchannels hcompared hchannel hagree hresolved
  rw [hupstream.providerKind, ← hagree.providerKind]
  unfold stagedChannelProviderKind
  rw [hupstream.named, Option.bind_some, hupstream.lookup_account, Option.bind_some,
    hupstream.lookup_provider]
  rfl

/-- Where every channel names an account, the flags of accounts and providers are compared. -/
theorem accountEnabled_of_staged (hnames : document.NamesAccounts) :
    channel.accountEnabled = staged.accountEnabled := by
  obtain ⟨id, account, provider, hupstream⟩ :=
    exists_stagedUpstream h h' hchannels hcompared hchannel hagree hresolved
  obtain ⟨id', hnamed, hid⟩ := hagree.account
  obtain rfl : id' = id := Option.some.inj (hnamed.symm.trans hupstream.named)
  obtain ⟨accountId, running, runningProvider, hrunning⟩ :=
    exists_channelUpstream hnames h hchannel
  obtain rfl : accountId = id' := account_injective (hrunning.accountId_eq.symm.trans hid)
  -- the channels of an account have its provider and its flag
  have haccounts : ∀ name' channel', config.pools.lookup name' = some channel' →
      channel'.accountId = "account:" ++ accountId →
      channel'.accountConfiguredEnabled = running.enabled ∧
        channel'.providerId = "provider:" ++ running.provider := by
    intro name' channel' hchannel' hsame
    obtain ⟨accountId', running', _, hrunning'⟩ := exists_channelUpstream hnames h hchannel'
    obtain rfl : accountId' = accountId :=
      account_injective (hrunning'.accountId_eq.symm.trans hsame)
    obtain rfl : running' = running :=
      Option.some.inj (hrunning'.lookup_account.symm.trans hrunning.lookup_account)
    exact ⟨hrunning'.accountConfiguredEnabled, hrunning'.providerId_eq⟩
  have hproviders : ∀ name' channel', config.pools.lookup name' = some channel' →
      channel'.providerId = "provider:" ++ running.provider →
      channel'.providerEnabled = runningProvider.enabled := by
    intro name' channel' hchannel' hsame
    obtain ⟨_, running', provider', hrunning'⟩ := exists_channelUpstream hnames h hchannel'
    have hprovider : running'.provider = running.provider :=
      provider_injective (hrunning'.providerId_eq.symm.trans hsame)
    have hlookup := hrunning'.lookup_provider
    rw [hprovider, hrunning.lookup_provider] at hlookup
    obtain rfl := Option.some.inj hlookup
    exact hrunning'.providerEnabled
  obtain ⟨⟨_, first, hfirst, hfirstAccount, hfirstProvider⟩, henabled⟩ :=
    channel_of_stagedAccount hchannels hcompared hupstream.lookup_account
  have hprovider : account.provider = running.provider :=
    provider_injective (hfirstProvider.symm.trans (haccounts _ first hfirst hfirstAccount).2)
  obtain ⟨-, hproviderEnabled⟩ :=
    channel_of_stagedProvider hchannels hcompared hupstream.lookup_provider
  rw [hprovider] at hproviderEnabled
  have haccountFlag : account.enabled = running.enabled := by
    rw [Bool.eq_iff_iff, henabled]
    constructor
    · intro hall
      rw [← (haccounts name channel hchannel hid).1]
      exact hall name channel hchannel hid
    · intro hrow name' channel' hchannel' hsame
      rw [(haccounts name' channel' hchannel' hsame).1, hrow]
  have hproviderFlag : provider.enabled = runningProvider.enabled := by
    rw [Bool.eq_iff_iff, hproviderEnabled]
    constructor
    · intro hall
      rw [← hproviders name channel hchannel hrunning.providerId_eq]
      exact hall name channel hchannel hrunning.providerId_eq
    · intro hrow name' channel' hchannel' hsame
      rw [hproviders name' channel' hchannel' hsame, hrow]
  rw [hrunning.accountEnabled, hupstream.accountEnabled, haccountFlag, hproviderFlag]

/-- The path of the keys, by the row of the set. -/
theorem keysPath_of_staged : ∃ set, document'.credentialSets.lookup pool.credentialSet =
    some set ∧ keysPath (.ok environment') pool.credentialSet set.keysFile =
      .ok staged.keyImportReport.sourcePath := by
  obtain ⟨imported, himported, hreport⟩ := hresolved.keyImport
  obtain ⟨rawId, set, hset, hraw, hloaded⟩ := h'.row_of_keyImport himported
  have hid : staged.credentialSetId = pool.credentialSet :=
    (compared_of_staged h h' hcompared hchannel hagree hresolved).2.1.trans
      hagree.credentialSet.symm
  rw [trimmed_of_stagedCredentialSet h hchannels hcompared (Finmap.mem_iff.mpr ⟨set, hset⟩),
    hid] at hraw
  subst hraw
  rw [hid] at hloaded
  refine ⟨set, hset, ?_⟩
  show (environment'.loadCredentialSet pool.credentialSet set.keysFile).bind _ = _
  rw [hloaded, hreport]
  rfl

omit hchannels hchannel hagree in
/-- The rules that a reload compiles are those of the rows. -/
theorem errorRules_of_staged : (stagedErrorRules document' pool).intoClassifierWithContext
    ("pools." ++ name ++ ".effective_error_rules") = .ok staged.errorClassifier := by
  obtain ⟨rules, sources, hrules, hclassifier⟩ := hresolved.errorClassifier
  -- the profile that the channel was resolved with has the rules of its row
  have hlookup : ∀ id, (sections'.policyProfiles.lookup (trimString id)).map (·.errorRules) =
      (document'.policyProfiles.lookup (trimString id)).map (·.errorRules) := by
    intro id
    rw [← h'.policyProfiles_eq]
    cases hprofile : config'.policyProfiles.lookup (trimString id) with
    | none =>
        cases hrow : document'.policyProfiles.lookup (trimString id) with
        | none => rfl
        | some row =>
            obtain ⟨profile, hfound, -⟩ := h'.policyProfile_of_row hrow
            rw [trimString_trimString, hprofile] at hfound
            cases hfound
    | some profile =>
        obtain ⟨rawId, row, hrow, hraw, hprofile⟩ := h'.row_of_policyProfile hprofile
        rw [trimmed_of_stagedPolicyProfile h hcompared (Finmap.mem_iff.mpr ⟨row, hrow⟩)] at hraw
        rw [← hraw, hrow, Option.map_some, Option.map_some, hprofile.errorRules]
  -- so what was compiled is what the two rows merge to
  have hmerged : rules = stagedErrorRules document' pool := by
    rw [rules_of_resolvePoolErrorPolicy hrules]
    unfold stagedErrorRules
    cases pool.policyProfile with
    | none => rfl
    | some id => rw [Option.bind_some, Option.bind_some, hlookup id]
  rw [← hmerged]
  exact hclassifier

/-- The columns of a staged channel that are not compared are what a reload makes of it. -/
theorem channelColumnsKept_iff :
    ChannelColumnsKept (.ok environment') document' name channel pool ↔
      channel.unsummarized = staged.unsummarized := by
  obtain ⟨id, account, provider, hupstream⟩ :=
    exists_stagedUpstream h h' hchannels hcompared hchannel hagree hresolved
  obtain ⟨set, hset, hpath⟩ :=
    keysPath_of_staged h h' hchannels hcompared hchannel hagree hresolved
  have hrules := errorRules_of_staged h h' hcompared hresolved
  -- column by column, both sides have what the staged channel resolves to
  obtain ⟨hbase, hheader, hmark⟩ := hupstream.columns
  unfold FullPoolConfig.unsummarized
  simp only [Prod.mk.injEq]
  constructor
  · intro hkept
    obtain ⟨hbase', hheader', hmark'⟩ :=
      hkept.account id account hupstream.named hupstream.lookup_account
    exact ⟨Except.ok.inj (hbase'.symm.trans hbase), Except.ok.inj (hheader'.symm.trans hheader),
      hmark'.symm.trans hmark, Except.ok.inj ((hkept.keysFile set hset).symm.trans hpath),
      Except.ok.inj (hkept.errorRules.symm.trans hrules)⟩
  · rintro ⟨hsameBase, hsameHeader, hsameMark, hsamePath, hsameRules⟩
    refine ⟨?_, ?_, hsameRules ▸ hrules⟩
    · intro id' account' hnamed haccount
      obtain rfl := Option.some.inj (hupstream.named.symm.trans hnamed)
      obtain rfl := Option.some.inj (hupstream.lookup_account.symm.trans haccount)
      exact ⟨hsameBase ▸ hbase, hsameHeader ▸ hheader, hsameMark ▸ hmark⟩
    · intro set' hset'
      obtain rfl := Option.some.inj (hset.symm.trans hset')
      rw [hpath, hsamePath]

end Channel

/-! ## §6. Where the compared columns agree. -/

/-- The channels behave alike if the other columns agree too. -/
theorem UncomparedColumns.channels_alike
    (hkept : UncomparedColumns (.ok environment') document document' config) (id : String) :
    (config.pools.lookup id).map (·.behaviour) =
      (config'.pools.lookup id).map (·.behaviour) := by
  cases hchannel : config.pools.lookup id with
  | none =>
      cases hstaged : config'.pools.lookup id with
      | none => rfl
      | some staged =>
          have hmem := mem_pools_of_staged h h' hcompared (Finmap.mem_iff.mpr ⟨staged, hstaged⟩)
          exact absurd hmem (Finmap.lookup_eq_none.mp hchannel)
  | some channel =>
      obtain ⟨pool, staged, hpool, hstaged, hagree, hresolved⟩ :=
        staged_of_channel h h' hcompared hchannel
      -- one half of the behaviour is compared, the other half is in the other columns
      obtain ⟨henabled, hset, hpolicy⟩ :=
        compared_of_staged h h' hcompared hchannel hagree hresolved
      have hopen := (channelColumnsKept_iff h h' hchannels hcompared hchannel hagree
        hresolved).mp (hkept.pools id channel pool hchannel hpool)
      have haccount : channel.accountEnabled = staged.accountEnabled := by
        by_cases hnames : document.NamesAccounts
        · exact accountEnabled_of_staged h h' hchannels hcompared hchannel hagree hresolved hnames
        · obtain ⟨accountId, account, provider, hupstream⟩ :=
            exists_stagedUpstream h h' hchannels hcompared hchannel hagree hresolved
          rw [hupstream.accountEnabled]
          exact hkept.accountEnabled hnames id channel pool accountId account provider hchannel
            hpool hupstream.named hupstream.lookup_account hupstream.lookup_provider
      unfold FullPoolConfig.unsummarized at hopen
      simp only [Prod.mk.injEq] at hopen
      obtain ⟨hbase, hheader, hmark, hpath, hclassifier⟩ := hopen
      rw [hstaged, Option.map_some, Option.map_some]
      unfold FullPoolConfig.behaviour
      rw [henabled, haccount, hbase, hheader, hmark, hset, hpath, hclassifier, hpolicy]

/-- The targets of a route are compared as texts; kinds apart, they are those of the row. -/
theorem route_of_staged (hroutes : ResolvedRoutes config) (hroutes' : ResolvedRoutes config')
    {model : String} {route : ModelRoute} (hroute : config.modelRoutes.lookup model = some route) :
    ∃ row staged, document'.modelRoutes.lookup model = some row ∧
      config'.modelRoutes.lookup model = some staged ∧ staged.strategy = route.strategy ∧
      (route.targets = staged.targets ↔
        route.targets.map RouteTarget.columns = row.sortedTargets) := by
  obtain ⟨row, hrow, hagree⟩ := exists_of_rel_some_left hroute (hcompared.modelRoutes model)
  obtain ⟨staged, hstaged, hresolved⟩ := h'.route_of_row hrow
  -- the strategy is a compared column
  have hstrategy : staged.strategy = route.strategy :=
    Except.ok.inj (hresolved.strategy.symm.trans hagree.strategy)
  refine ⟨row, staged, hrow, hstaged, hstrategy, ?_⟩
  rw [← hresolved.columns_eq]
  constructor
  · intro hsame
    rw [hsame]
  · -- the kind of a target is that of its channel, which is compared
    intro hcolumns
    refine @targets_eq_of_columns (fun id => ((config'.pools.lookup id).map
      (·.providerKind)).getD .genericHttp) _ _ ?_ ?_ hcolumns
    · intro target htarget
      obtain ⟨channel, hchannel, hkind⟩ := hroutes.targets model route hroute target htarget
      obtain ⟨pool, stagedChannel, -, hstagedChannel, hagree, hresolved⟩ :=
        staged_of_channel h h' hcompared hchannel
      rw [hkind, hstagedChannel, Option.map_some, Option.getD_some]
      exact (providerKind_of_staged h h' hchannels hcompared hchannel hagree hresolved).symm
    · intro target htarget
      obtain ⟨channel, hchannel, hkind⟩ := hroutes'.targets model staged hstaged target htarget
      rw [hkind, hchannel, Option.map_some, Option.getD_some]

/-- With the columns that the diff leaves out kept, routes lead to the same targets by the same
strategy. -/
theorem UncomparedColumns.routes_alike (hroutes : ResolvedRoutes config)
    (hroutes' : ResolvedRoutes config')
    (hkept : UncomparedColumns (.ok environment') document document' config) (model : String) :
    (config.modelRoutes.lookup model).map (fun route => (route.targets, route.strategy)) =
      (config'.modelRoutes.lookup model).map fun route => (route.targets, route.strategy) := by
  cases hroute : config.modelRoutes.lookup model with
  | none =>
      cases hstaged : config'.modelRoutes.lookup model with
      | none => rfl
      | some staged =>
          obtain ⟨row, hrow, -⟩ := h'.row_of_route hstaged
          obtain ⟨route, hfound, -⟩ :=
            exists_of_rel_some_right hrow (hcompared.modelRoutes model)
          rw [hroute] at hfound
          cases hfound
  | some route =>
      obtain ⟨row, staged, hrow, hstaged, hstrategy, htargets⟩ :=
        route_of_staged h h' hchannels hcompared hroutes hroutes' hroute
      rw [hstaged, Option.map_some, Option.map_some, hstrategy,
        htargets.mpr (hkept.modelRoutes model route row hroute hrow)]

/-- Where the compared columns agree, a reload keeps the behaviour exactly when it keeps the
other columns. -/
theorem sameBehaviour_iff_uncomparedColumns (hroutes : ResolvedRoutes config)
    (hroutes' : ResolvedRoutes config') (hgroups : document.modelGroups = document'.modelGroups) :
    SameBehaviour config config' ↔
      UncomparedColumns (.ok environment') document document' config := by
  constructor
  · intro hsame
    -- a channel that is in both behaves alike in both
    have hbehaviour : ∀ id channel staged, config.pools.lookup id = some channel →
        config'.pools.lookup id = some staged → channel.behaviour = staged.behaviour := by
      intro id channel staged hchannel hstaged
      have hid := hsame.channels id
      rw [hchannel, hstaged] at hid
      exact Option.some.inj hid
    refine ⟨?_, ?_, ?_, ?_, hsame.defaultPool ▸ h'.defaultPool⟩
    · intro id channel pool hchannel hpool
      obtain ⟨pool', staged, hpool', hstaged, hagree, hresolved⟩ :=
        staged_of_channel h h' hcompared hchannel
      obtain rfl := Option.some.inj (hpool.symm.trans hpool')
      rw [channelColumnsKept_iff h h' hchannels hcompared hchannel hagree hresolved]
      exact congrArg (fun behaviour : ChannelBehaviour => (behaviour.apiBase,
        behaviour.authHeader, behaviour.authPrefix, behaviour.keysPath,
        behaviour.errorClassifier)) (hbehaviour id channel staged hchannel hstaged)
    -- the account's switch is no column of the channel, so it is read off the row of the account
    · intro _ id channel pool accountId account provider hchannel hpool hnamed haccount hprovider
      obtain ⟨pool', staged, hpool', hstaged, hagree, hresolved⟩ :=
        staged_of_channel h h' hcompared hchannel
      obtain rfl := Option.some.inj (hpool.symm.trans hpool')
      obtain ⟨accountId', account', provider', hupstream⟩ :=
        exists_stagedUpstream h h' hchannels hcompared hchannel hagree hresolved
      obtain rfl := Option.some.inj (hupstream.named.symm.trans hnamed)
      obtain rfl := Option.some.inj (hupstream.lookup_account.symm.trans haccount)
      obtain rfl := Option.some.inj (hupstream.lookup_provider.symm.trans hprovider)
      rw [← hupstream.accountEnabled]
      exact congrArg ChannelBehaviour.accountEnabled
        (hbehaviour id channel staged hchannel hstaged)
    -- the targets of a route, in the order of the resolution
    · intro model route row hroute hrow
      obtain ⟨row', staged, hrow', hstaged, -, htargets⟩ :=
        route_of_staged h h' hchannels hcompared hroutes hroutes' hroute
      obtain rfl := Option.some.inj (hrow.symm.trans hrow')
      have hmodel := hsame.modelRoutes model
      rw [hroute, hstaged] at hmodel
      exact htargets.mp (congrArg Prod.fst (Option.some.inj hmodel))
    · intro id profile row hprofile hrow
      obtain ⟨staged, hstaged, hresolved⟩ := h'.policyProfile_of_row hrow
      have hid := trimmed_of_stagedPolicyProfile h hcompared (Finmap.mem_iff.mpr ⟨row, hrow⟩)
      rw [hid] at hstaged hresolved
      rw [hsame.policyProfiles, hstaged] at hprofile
      exact Option.some.inj hprofile ▸ hresolved
  -- the columns decide channels and routes; groups, profiles and the default are compared as they
  -- are
  · intro hkept
    refine ⟨hkept.channels_alike h h' hchannels hcompared,
      hkept.routes_alike h h' hchannels hcompared hroutes hroutes', modelGroups_eq hgroups h h',
      ?_, routingProfiles_eq h h' hcompared, ?_⟩
    · apply IdMap.eq_of_entries
      · intro id profile hprofile
        have hmem := (policyProfiles_mem_iff h h' hcompared).mp
          (Finmap.mem_iff.mpr ⟨profile, hprofile⟩)
        obtain ⟨staged, hstaged⟩ := Finmap.mem_iff.mp hmem
        obtain ⟨rawId, row, hrow, hraw, hresolved⟩ := h'.row_of_policyProfile hstaged
        rw [trimmed_of_stagedPolicyProfile h hcompared (Finmap.mem_iff.mpr ⟨row, hrow⟩)] at hraw
        subst hraw
        rw [hstaged, (hkept.policyProfiles rawId profile row hprofile hrow).unique hresolved]
      · exact fun id hmem => (policyProfiles_mem_iff h h' hcompared).mpr hmem
    · exact Except.ok.inj (hkept.defaultPool.symm.trans h'.defaultPool)

end Agreement

end Resolved

/-! ## §7. An empty diff of a running registry. -/

theorem channelColumnsKept_overlay_iff {environment : ProcessEnvironment}
    {bootstrap document : RegistryDocument} {name : String} {channel : FullPoolConfig}
    {pool : PoolConfig} :
    ChannelColumnsKept environment (overlayStagedResources bootstrap document) name channel pool ↔
      ChannelColumnsKept environment document name channel pool :=
  ⟨fun h => ⟨h.account, h.keysFile, h.errorRules⟩,
    fun h => ⟨h.account, h.keysFile, h.errorRules⟩⟩

theorem uncomparedColumns_overlay_iff {environment : ProcessEnvironment}
    {bootstrap document document' : RegistryDocument} {config : FullResolvedConfig} :
    UncomparedColumns environment (overlayStagedResources bootstrap document)
        (overlayStagedResources bootstrap document') config ↔
      UncomparedColumns environment document document' config := by
  constructor
  · intro h
    refine ⟨?_, h.accountEnabled, h.modelRoutes, h.policyProfiles, h.defaultPool⟩
    exact fun id channel pool hchannel hpool =>
      channelColumnsKept_overlay_iff.mp (h.pools id channel pool hchannel hpool)
  · intro h
    refine ⟨?_, h.accountEnabled, h.modelRoutes, h.policyProfiles, h.defaultPool⟩
    exact fun id channel pool hchannel hpool =>
      channelColumnsKept_overlay_iff.mpr (h.pools id channel pool hchannel hpool)

variable {ρ τ : Type}

/-- A registry that was built from a configuration goes on showing it. -/
theorem AppState.Shows.later {built live : AppState ρ τ} {config : FullResolvedConfig}
    (h : built.Shows config) (hchannels : live.channels.LaterOf built.channels)
    (hcatalogs : live.runtimeCatalogs = built.runtimeCatalogs) : live.Shows config where
  channels := by
    rw [hcatalogs]
    exact h.channels
  modelRoutes := hchannels.modelRoutes.trans h.modelRoutes
  policyProfiles := by
    rw [hcatalogs]
    exact h.policyProfiles
  routingProfiles := by
    rw [hcatalogs]
    exact h.routingProfiles

/-- Of a running registry and a staged document, with the configuration that a reload of
the document installs: an empty diff means that the configurations behave alike exactly
when staged rows that agree with what runs in the compared columns agree with it in the
others too. -/
theorem reload_diff_hides_nothing_iff {environment environment' : ProcessEnvironment}
    {orders orders' : ∀ document : RegistryDocument, SectionOrders document}
    {validationBootstrap document document' : RegistryDocument}
    {config config' : FullResolvedConfig}
    (hresolve : resolveStagedRegistryDocument environment orders validationBootstrap document =
      .ok config)
    {version : Option Nat} {inputs : RebuildInputs} (hvisits : inputs.Visits config)
    {s built : AppState ρ τ}
    (hrebuild : rebuildRuntimeFromResolvedConfig config version inputs s = (.ok (), built))
    {live : AppState ρ τ} (hchannels : live.channels.LaterOf built.channels)
    (hcatalogs : live.runtimeCatalogs = built.runtimeCatalogs)
    (hstaged : resolveStagedRegistryDocument environment' orders' validationBootstrap document' =
      .ok config')
    (stagedRegistryVersion : Option Nat) :
    ((availableResponse live (runtimeExplainResponse live stagedRegistryVersion)
        document').NoChange → SameBehaviour config config') ↔
      (ComparedColumns live.runtimeCatalogs.managementProjection config document' →
        UncomparedColumns environment' document document' config) := by
  obtain ⟨selection, -, hselected⟩ := resolve_of_resolveStagedRegistryDocument hresolve
  obtain ⟨selection', rfl, hselected'⟩ := resolve_of_resolveStagedRegistryDocument hstaged
  obtain ⟨poolConfigs, sections, h⟩ := exists_resolvedBy hselected
  obtain ⟨poolConfigs', sections', h'⟩ := exists_resolvedBy hselected'
  have hroutes := ResolvedRoutes.of_resolve hselected
  have hshows := (AppState.shows_of_rebuild hvisits hrebuild).later hchannels hcatalogs
  have hagree : SummariesAgree live document' ↔
      ComparedColumns live.runtimeCatalogs.managementProjection config document' := by
    rw [← summariesAgree_overlay_iff, summariesAgree_iff_comparedColumns h h' hshows hroutes]
    exact comparedColumns_overlay_iff
  rw [noChange_iff, hagree]
  apply forall_congr'
  intro hcompared
  rw [sameBehaviour_iff_uncomparedColumns h h' (fun _ _ => hshows.mem_channels_iff)
    (comparedColumns_overlay_iff.mpr hcompared) hroutes (.of_resolve hselected') rfl]
  exact uncomparedColumns_overlay_iff

/-- A document that agrees with what was made of it does so in all columns. -/
theorem uncomparedColumns_of_resolve {environment : ProcessEnvironment}
    {orders : ∀ document : RegistryDocument, SectionOrders document}
    {validationBootstrap document : RegistryDocument} {config : FullResolvedConfig}
    (hresolve : resolveStagedRegistryDocument environment orders validationBootstrap document =
      .ok config)
    {channels : List (String × FullPoolConfig)}
    (hchannels : channels.Perm (IdMap.sortedEntries config.pools))
    (hcompared : ComparedColumns channels config document) :
    UncomparedColumns environment document document config := by
  obtain ⟨selection, rfl, hselected⟩ := resolve_of_resolveStagedRegistryDocument hresolve
  obtain ⟨poolConfigs, sections, h⟩ := exists_resolvedBy hselected
  have hroutes := ResolvedRoutes.of_resolve hselected
  have hmem : ∀ name channel, (name, channel) ∈ channels ↔
      config.pools.lookup name = some channel := by
    intro name channel
    rw [hchannels.mem_iff, IdMap.mem_sortedEntries]
  have hsame : SameBehaviour config config := ⟨fun _ => rfl, fun _ => rfl, rfl, rfl, rfl, rfl⟩
  exact uncomparedColumns_overlay_iff.mp ((sameBehaviour_iff_uncomparedColumns h h hmem
    (comparedColumns_overlay_iff.mpr hcompared) hroutes hroutes rfl).mp hsame)

/-- Staging what runs changes nothing that is not compared either. -/
theorem reload_diff_hides_nothing_iff_spaced :
    ∃ config s', resolveStagedRegistryDocument (.ok oneKeyEnvironment) sortedOrders
        spacedBootstrap spacedBootstrap = .ok config ∧
      rebuildRuntimeFromResolvedConfig config (some 2) (freshInputs config) emptyApp =
        (.ok (), s') ∧
      ((availableResponse s' (runtimeExplainResponse s' (some 2)) spacedBootstrap).NoChange →
        SameBehaviour config config) := by
  have hresolve : resolveStagedRegistryDocument (.ok oneKeyEnvironment) sortedOrders
    spacedBootstrap spacedBootstrap = .ok _ := rfl
  have hvisits : ∀ config, (freshInputs config).Visits config := fun _ => .refl _
  have hiff := @reload_diff_hides_nothing_iff String String _ _ _ _ _ _ _ _ _ hresolve (some 2)
    (freshInputs _) (hvisits _) emptyApp _ rfl _ (.refl _) rfl hresolve (some 2)
  exact ⟨_, _, hresolve, rfl, hiff.mpr (uncomparedColumns_of_resolve hresolve (.refl _))⟩

/-! The account is given another base. -/

def movedDocument : RegistryDocument :=
  { spacedBootstrap with
    toRegistryResources := { spacedBootstrap.toRegistryResources with
      accounts := [⟨"main", ⟨"openai", "https://relay.example.net/v1", "authorization",
        "Bearer ", true⟩⟩].toFinmap } }

/-- The address of an account is not among the compared columns. The staged document differs from
the running one in nothing else, so the diff is empty, and a reload would send the requests of the
channel elsewhere. -/
theorem moved_account_not_reported :
    ¬ ∀ (environment environment' : ProcessEnvironment)
        (orders orders' : ∀ document : RegistryDocument, SectionOrders document)
        (validationBootstrap document document' : RegistryDocument)
        (config config' : FullResolvedConfig) (version : Option Nat) (inputs : RebuildInputs)
        (s built live : AppState String String) (stagedRegistryVersion : Option Nat),
      resolveStagedRegistryDocument environment orders validationBootstrap document =
        .ok config → inputs.Visits config →
      rebuildRuntimeFromResolvedConfig config version inputs s = (.ok (), built) →
      live.channels.LaterOf built.channels → live.runtimeCatalogs = built.runtimeCatalogs →
      resolveStagedRegistryDocument environment' orders' validationBootstrap document' =
        .ok config' →
      (availableResponse live (runtimeExplainResponse live stagedRegistryVersion)
        document').NoChange → SameBehaviour config config' := by
  intro h
  have hresolve : resolveStagedRegistryDocument (.ok oneKeyEnvironment) sortedOrders
    spacedBootstrap spacedBootstrap = .ok _ := rfl
  have hstaged : resolveStagedRegistryDocument (.ok oneKeyEnvironment) sortedOrders
    spacedBootstrap movedDocument = .ok _ := rfl
  have hvisits : ∀ config, (freshInputs config).Visits config := fun _ => .refl _
  have hrunning := (@summariesAgree_after_reload String String _ _ _ _ _ (some 2) (freshInputs _)
    emptyApp _ hresolve (hvisits _) rfl).mpr spacedBootstrap_settled
  have hsame := h _ _ _ _ _ _ movedDocument _ _ (some 2) (freshInputs _) emptyApp _ _ (some 3)
    hresolve (hvisits _) rfl (.refl _) rfl hstaged (noChange_iff.mpr ?_)
  · -- the channel would send its requests to the other base
    have hchat := congrArg (Option.map ChannelBehaviour.apiBase) (hsame.channels "chat")
    have hbase : some "https://api.example.com/v1" = some "https://relay.example.net/v1" := hchat
    revert hbase
    decide
  · -- the staged summaries are those of the document that runs
    exact ⟨hrunning.providers, hrunning.accounts, hrunning.credentialSets, hrunning.channels,
      hrunning.modelRoutes, hrunning.policyProfiles, hrunning.routingProfiles⟩

end OneAiKey
