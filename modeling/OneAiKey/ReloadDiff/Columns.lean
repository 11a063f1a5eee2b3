/-
  OneAiKey.ReloadDiff.Columns — which columns of the staged rows the diff compares
  (`src/management_runtime_diff.rs`).

  The running side of a section is put together from the channels of the runtime, the
  staged side from the rows of the document.  Taken apart into columns, two sides that
  agree say of every staged row which of its columns have the values that run, and
  nothing of the other columns.

  Main results:
    * `activeProviderSummaries_eq_iff`, `activeChannelSummaries_eq_iff` and their like —
      one section, column by column;
    * `summariesAgree_iff_comparedColumns` — all seven sections together.
-/
import OneAiKey.ReloadDiff.Settled

namespace OneAiKey

open Collect
open Grouping

/-! ## §1. The columns that are compared. -/

/-- A staged channel and the running one of its id. -/
structure ChannelColumnsAgree (document : RegistryDocument) (channel : FullPoolConfig)
    (pool : PoolConfig) : Prop where
  enabled : pool.enabled = channel.configuredEnabled
  /-- The staged channel names the account of the running one. -/
  account : ∃ id, pool.account = some id ∧ channel.accountId = "account:" ++ id
  credentialSet : pool.credentialSet = channel.credentialSetId
  routingProfile : pool.routingProfile.or document.defaultRoutingProfile =
    some channel.routingProfileId
  providerKind : stagedChannelProviderKind document pool = channel.providerKind
  endpointCapabilities : pool.endpointCapabilities.resolveWithBase
    channel.providerKind.defaultEndpointCapabilities = .ok channel.endpointCapabilities

/-- A provider, as the channels that lead to it have it: its kind is that of the first of
them, and it is enabled if it is for all of them. -/
def providerColumns : List (String × FullPoolConfig) → Option ProviderConfig
  | [] => none
  | entry :: rest =>
      some ⟨entry.2.providerKind, (entry :: rest).all (·.2.providerEnabled)⟩

/-- The provider and the flag of an account, as its channels have them. -/
def accountColumns : List (String × FullPoolConfig) → Option (String × Bool)
  | [] => none
  | entry :: rest =>
      some (entry.2.providerId, (entry :: rest).all (·.2.accountConfiguredEnabled))

/-- A staged route and the running one of its model: the targets are compared as printed
texts, whatever their order. -/
structure RouteColumnsAgree (route : ModelRoute) (row : ModelRouteConfig) : Prop where
  strategy : parseRouteStrategy row.strategy = .ok route.strategy
  targets : (route.targets.map RouteTarget.print).Perm
    (row.targets.map ModelRouteTargetConfig.print)

/-- The rows of the document have the ids that run, and these columns of them the values that
run.  `channels` are the running channels in the order in which the runtime has them. -/
structure ComparedColumns (channels : List (String × FullPoolConfig))
    (config : FullResolvedConfig) (document : RegistryDocument) : Prop where
  providers : ∀ id, document.providers.lookup id =
    providerColumns (channels.filter fun entry => entry.2.providerId = "provider:" ++ id)
  accounts : ∀ id, (document.accounts.lookup id).map (fun account =>
      ("provider:" ++ account.provider, account.enabled)) =
    accountColumns (channels.filter fun entry => entry.2.accountId = "account:" ++ id)
  credentialSets : ∀ id, id ∈ document.credentialSets ↔
    ∃ entry ∈ channels, entry.2.credentialSetId = id
  pools : ∀ id, Option.Rel (ChannelColumnsAgree document) (config.pools.lookup id)
    (document.pools.lookup id)
  modelRoutes : ∀ model, Option.Rel RouteColumnsAgree (config.modelRoutes.lookup model)
    (document.modelRoutes.lookup model)
  policyProfiles : ∀ id, id ∈ config.policyProfiles ↔ id ∈ document.policyProfiles
  routingProfiles : ∀ id, Option.Rel (fun profile row => RoutingProfileResolved id row profile)
    (config.routingProfiles.lookup id) (document.routingProfiles.lookup id)

/-! ## §2. Maps of summaries, entry by entry. -/

section Maps

variable {α β γ : Type} {x : Option α} {y : Option β}

theorem map_eq_map_iff_rel {f : α → γ} {g : β → γ} :
    x.map f = y.map g ↔ Option.Rel (fun a b => f a = g b) x y := by
  cases x <;> cases y <;> simp

theorem rel_congr {R S : α → β → Prop}
    (h : ∀ a b, x = some a → y = some b → (R a b ↔ S a b)) :
    Option.Rel R x y ↔ Option.Rel S x y := by
  cases x <;> cases y <;> simp
  exact h _ _ rfl rfl

/-- Of a section that has the ids of the rows. -/
theorem eq_stagedSummaries_iff {active : IdMap γ} {m : IdMap α} {rows : IdMap β} {f : α → γ}
    {g : β → γ} (hactive : ∀ key, active.lookup key = (m.lookup key).map f) :
    active = stagedSummaries rows id g ↔
      ∀ key, Option.Rel (fun a b => f a = g b) (m.lookup key) (rows.lookup key) := by
  constructor
  · intro h key
    rw [← map_eq_map_iff_rel, ← hactive, h, lookup_stagedSummaries_id]
  · intro h
    apply Finmap.ext_lookup
    intro key
    rw [hactive, lookup_stagedSummaries_id]
    exact map_eq_map_iff_rel.mpr (h key)

/-- Of a section whose ids have a mark in front of them. -/
theorem eq_markedSummaries_iff {active : IdMap γ} {rows : IdMap β} {mark : String → String}
    (hmark : Function.Injective mark) {g : β → γ}
    (hmarked : ∀ key ∈ active, ∃ id, mark id = key) :
    active = stagedSummaries rows mark g ↔
      ∀ id, active.lookup (mark id) = (rows.lookup id).map g := by
  constructor
  · intro h id
    rw [h]
    exact lookup_stagedSummaries hmark id
  · intro h
    apply IdMap.eq_of_entries
    · intro key value hvalue
      obtain ⟨id, rfl⟩ := hmarked key (Finmap.mem_iff.mpr ⟨value, hvalue⟩)
      rw [lookup_stagedSummaries hmark, ← h, hvalue]
    · intro key hmem
      obtain ⟨id, hid, rfl⟩ := (mem_stagedSummaries_iff hmark).mp hmem
      obtain ⟨row, hrow⟩ := Finmap.mem_iff.mp hid
      rw [Finmap.mem_iff, h, hrow]
      exact ⟨g row, rfl⟩

theorem exists_of_rel_some_left {R : α → β → Prop} {a : α} (hx : x = some a)
    (h : Option.Rel R x y) : ∃ b, y = some b ∧ R a b := by
  subst hx
  cases y with
  | none => cases h
  | some b => exact ⟨b, rfl, Option.rel_some_some.mp h⟩

theorem exists_of_rel_some_right {R : α → β → Prop} {b : β} (hy : y = some b)
    (h : Option.Rel R x y) : ∃ a, x = some a ∧ R a b := by
  subst hy
  cases x with
  | none => cases h
  | some a => exact ⟨a, rfl, Option.rel_some_some.mp h⟩

end Maps

/-- What is left of a running channel's kind in the summary. -/
theorem stableIdFragment_injective : Function.Injective ProviderKind.stableIdFragment := by
  intro kind kind'
  cases kind <;> cases kind' <;> decide

theorem providerSummary_injective : Function.Injective providerSummary := by
  rintro ⟨kind, enabled⟩ ⟨kind', enabled'⟩ h
  obtain ⟨hkind, henabled⟩ := ProviderSummary.mk.inj h
  rw [ProviderConfig.mk.injEq]
  exact ⟨stableIdFragment_injective hkind, henabled⟩

/-- The labels alone decide whether the capabilities can be resolved. -/
theorem resolveWithBase_isOk {config : EndpointCapabilitiesConfig}
    {base resolved : ResolvedEndpointCapabilities} (h : config.resolveWithBase base = .ok resolved)
    (base' : ResolvedEndpointCapabilities) :
    ∃ resolved', config.resolveWithBase base' = .ok resolved' := by
  unfold EndpointCapabilitiesConfig.resolveWithBase at h ⊢
  obtain ⟨_, hlabels, -⟩ := bind_eq_ok.mp h
  exact ⟨_, bind_eq_ok.mpr ⟨_, hlabels, rfl⟩⟩

/-! ## §3. Providers and accounts. -/

/-- Every channel of a provider is added to it. -/
theorem foldl_addChannel_provider (entries : List (String × FullPoolConfig))
    (provider : ProviderTopologyProjection) :
    entries.foldl .addChannel provider =
      { provider with enabled := provider.enabled && entries.all (·.2.providerEnabled) } := by
  induction entries generalizing provider with
  | nil => rw [List.all_nil, Bool.and_true]; rfl
  | cons entry entries ih =>
      rw [List.foldl_cons, ih, List.all_cons, ← Bool.and_assoc]
      rfl

theorem foldl_addChannel_account (entries : List (String × FullPoolConfig))
    (account : AccountTopologyProjection) :
    entries.foldl .addChannel account =
      { account with
        enabled := account.enabled && entries.all (·.2.accountConfiguredEnabled) } := by
  induction entries generalizing account with
  | nil => rw [List.all_nil, Bool.and_true]; rfl
  | cons entry entries ih =>
      rw [List.foldl_cons, ih, List.all_cons, ← Bool.and_assoc]
      rfl

/-- What a provider's columns say of the channels. -/
theorem providerColumns_filter {channels : List (String × FullPoolConfig)} {key : String}
    {provider : ProviderConfig}
    (h : providerColumns (channels.filter fun entry => entry.2.providerId = key) =
      some provider) :
    (∃ entry ∈ channels, entry.2.providerId = key) ∧
      (provider.enabled = true ↔
        ∀ entry ∈ channels, entry.2.providerId = key → entry.2.providerEnabled = true) := by
  cases hfilter : channels.filter fun entry => decide (entry.2.providerId = key) with
  | nil =>
      rw [hfilter] at h
      cases h
  | cons first rest =>
      rw [hfilter] at h
      cases h
      have hfirst : first ∈ channels.filter fun entry => decide (entry.2.providerId = key) :=
        hfilter ▸ List.mem_cons_self
      refine ⟨⟨first, (List.mem_filter.mp hfirst).1, of_decide_eq_true
        (List.mem_filter.mp hfirst).2⟩, ?_⟩
      dsimp only
      rw [← hfilter, List.all_eq_true]
      simp only [List.mem_filter, decide_eq_true_eq, and_imp]

theorem accountColumns_filter {channels : List (String × FullPoolConfig)} {key provider : String}
    {enabled : Bool}
    (h : accountColumns (channels.filter fun entry => entry.2.accountId = key) =
      some (provider, enabled)) :
    (∃ entry ∈ channels, entry.2.accountId = key ∧ entry.2.providerId = provider) ∧
      (enabled = true ↔ ∀ entry ∈ channels, entry.2.accountId = key →
        entry.2.accountConfiguredEnabled = true) := by
  cases hfilter : channels.filter fun entry => decide (entry.2.accountId = key) with
  | nil =>
      rw [hfilter] at h
      cases h
  | cons first rest =>
      rw [hfilter] at h
      cases h
      have hfirst : first ∈ channels.filter fun entry => decide (entry.2.accountId = key) :=
        hfilter ▸ List.mem_cons_self
      refine ⟨⟨first, (List.mem_filter.mp hfirst).1, of_decide_eq_true
        (List.mem_filter.mp hfirst).2, rfl⟩, ?_⟩
      rw [← hfilter, List.all_eq_true]
      simp only [List.mem_filter, decide_eq_true_eq, and_imp]

section Marked

variable {ρ τ : Type}

theorem lookup_providerSummaries_columns (state : AppState ρ τ) (key : String) :
    (activeProviderSummaries state).lookup key =
      (providerColumns (state.runtimeCatalogs.managementProjection.filter fun entry =>
        entry.2.providerId = key)).map providerSummary := by
  rw [lookup_activeProviderSummaries]
  unfold providersOfChannels
  rw [lookup_group]
  cases state.runtimeCatalogs.managementProjection.filter fun entry =>
      decide (entry.2.providerId = key) with
  | nil => rfl
  | cons entry entries =>
      rw [List.head?_cons, Option.map_some, foldl_addChannel_provider]
      rfl

theorem lookup_accountSummaries_columns (state : AppState ρ τ) (key : String) :
    (activeAccountSummaries state).lookup key =
      (accountColumns (state.runtimeCatalogs.managementProjection.filter fun entry =>
        entry.2.accountId = key)).map fun columns => ⟨columns.1, columns.2⟩ := by
  rw [lookup_activeAccountSummaries]
  unfold accountsOfChannels
  rw [lookup_group]
  cases state.runtimeCatalogs.managementProjection.filter fun entry =>
      decide (entry.2.accountId = key) with
  | nil => rfl
  | cons entry entries =>
      rw [List.head?_cons, Option.map_some, foldl_addChannel_account]
      rfl

end Marked

/-! ## §4. The sections. -/

section Sections

variable {ρ τ : Type} {state : AppState ρ τ} {environment environment' : ResolveEnvironment}
  {document document' : RegistryDocument} {orders : SectionOrders document}
  {orders' : SectionOrders document'} {config config' : FullResolvedConfig}
  {poolConfigs poolConfigs' : IdMap PoolConfig} {sections sections' : ResolvedSections}

/-- Of summaries without a field, only the ids are compared. -/
theorem eq_iff_mem {γ : Type} [Subsingleton γ] {m m' : IdMap γ} :
    m = m' ↔ ∀ key, key ∈ m ↔ key ∈ m' := by
  constructor
  · rintro rfl key
    exact Iff.rfl
  · intro h
    apply IdMap.eq_of_entries
    · intro key value hvalue
      obtain ⟨value', hvalue'⟩ :=
        Finmap.mem_iff.mp ((h key).mp (Finmap.mem_iff.mpr ⟨value, hvalue⟩))
      rw [hvalue', Subsingleton.elim value' value]
    · exact fun key => (h key).mpr

instance : Subsingleton CredentialSetSummary := ⟨fun _ _ => rfl⟩

instance : Subsingleton PolicyProfileSummary := ⟨fun _ _ => rfl⟩

/-- The ids that a running channel has are trimmed. -/
theorem accountId_of_channel
    (h : ResolvedBy environment document orders config poolConfigs sections) {name : String}
    {channel : FullPoolConfig} (hchannel : config.pools.lookup name = some channel) :
    ∃ id, channel.accountId = "account:" ++ id ∧ trimString id = id := by
  obtain ⟨rawName, pool, -, hraw, hresolved⟩ := h.row_of_channel hchannel
  cases haccount : pool.account with
  | none =>
      have hname : trimString name = name := by rw [← hraw, trimString_trimString]
      exact ⟨name, (ids_of_own_account hresolved.account haccount).1, hname⟩
  | some accountRef =>
      obtain ⟨account, provider, hupstream⟩ := hresolved.upstream haccount
      exact ⟨trimString accountRef, hupstream.accountId_eq, trimString_trimString accountRef⟩

theorem providerId_of_channel
    (h : ResolvedBy environment document orders config poolConfigs sections) {name : String}
    {channel : FullPoolConfig} (hchannel : config.pools.lookup name = some channel) :
    ∃ id, channel.providerId = "provider:" ++ id ∧ trimString id = id := by
  obtain ⟨_, pool, -, -, hresolved⟩ := h.row_of_channel hchannel
  cases haccount : pool.account with
  | none =>
      refine ⟨_, (ids_of_own_account hresolved.account haccount).2, ?_⟩
      cases pool.providerKind <;> decide
  | some accountRef =>
      obtain ⟨account, provider, hupstream⟩ := hresolved.upstream haccount
      obtain ⟨_, source, -, -, hsource⟩ := h.row_of_account hupstream.lookup_account
      refine ⟨account.provider, hupstream.providerId_eq, ?_⟩
      rw [hsource, trimString_trimString]

section Running

variable (h : ResolvedBy environment document orders config poolConfigs sections)
  (hshows : state.Shows config)

include h hshows

theorem activeProviderSummaries_eq_iff :
    activeProviderSummaries state = stagedProviderSummaries document' ↔
      ∀ id, document'.providers.lookup id =
        providerColumns (state.runtimeCatalogs.managementProjection.filter fun entry =>
          entry.2.providerId = "provider:" ++ id) := by
  have hmarked : ∀ key ∈ activeProviderSummaries state, ∃ id, "provider:" ++ id = key := by
    intro key hmem
    obtain ⟨⟨name, channel⟩, hentry, rfl⟩ := mem_activeProviderSummaries_iff.mp hmem
    obtain ⟨id, hid, -⟩ := providerId_of_channel h (hshows.mem_channels_iff.mp hentry)
    exact ⟨id, hid.symm⟩
  unfold stagedProviderSummaries
  rw [eq_markedSummaries_iff provider_injective hmarked]
  apply forall_congr'
  intro id
  rw [lookup_providerSummaries_columns, eq_comm]
  exact (Option.map_injective providerSummary_injective).eq_iff

theorem activeAccountSummaries_eq_iff :
    activeAccountSummaries state = stagedAccountSummaries document' ↔
      ∀ id, (document'.accounts.lookup id).map (fun account =>
          ("provider:" ++ account.provider, account.enabled)) =
        accountColumns (state.runtimeCatalogs.managementProjection.filter fun entry =>
          entry.2.accountId = "account:" ++ id) := by
  have hmarked : ∀ key ∈ activeAccountSummaries state, ∃ id, "account:" ++ id = key := by
    intro key hmem
    obtain ⟨⟨name, channel⟩, hentry, rfl⟩ := mem_activeAccountSummaries_iff.mp hmem
    obtain ⟨id, hid, -⟩ := accountId_of_channel h (hshows.mem_channels_iff.mp hentry)
    exact ⟨id, hid.symm⟩
  have hinjective : Function.Injective fun columns : String × Bool =>
      (⟨columns.1, columns.2⟩ : AccountSummary) := by
    rintro ⟨provider, enabled⟩ ⟨provider', enabled'⟩ hsame
    obtain ⟨hprovider, henabled⟩ := AccountSummary.mk.inj hsame
    exact Prod.ext hprovider henabled
  unfold stagedAccountSummaries
  rw [eq_markedSummaries_iff account_injective hmarked]
  apply forall_congr'
  intro id
  -- a summary of a row is made of the two columns
  rw [lookup_accountSummaries_columns, eq_comm, ← (Option.map_injective hinjective).eq_iff,
    Option.map_map]
  exact Iff.rfl

omit h hshows in
theorem activeCredentialSetSummaries_eq_iff :
    activeCredentialSetSummaries state = stagedCredentialSetSummaries document' ↔
      ∀ id, id ∈ document'.credentialSets ↔
        ∃ entry ∈ state.runtimeCatalogs.managementProjection, entry.2.credentialSetId = id := by
  rw [eq_iff_mem]
  apply forall_congr'
  intro id
  have hstaged : id ∈ stagedCredentialSetSummaries document' ↔ id ∈ document'.credentialSets :=
    IdMap.mem_iff_of_lookup (lookup_stagedSummaries_id id)
  rw [mem_activeCredentialSetSummaries_iff, hstaged]
  exact iff_comm

omit h in
theorem activeModelRouteSummaries_eq_iff (hroutes : ResolvedRoutes config) :
    activeModelRouteSummaries state = stagedModelRouteSummaries document' ↔
      ∀ model, Option.Rel RouteColumnsAgree (config.modelRoutes.lookup model)
        (document'.modelRoutes.lookup model) := by
  unfold stagedModelRouteSummaries
  rw [eq_stagedSummaries_iff (hshows.lookup_modelRouteSummaries hroutes)]
  apply forall_congr'
  intro model
  apply rel_congr
  intro route row _ _
  constructor
  · intro hsummary
    obtain ⟨hstrategy, htargets⟩ := ModelRouteSummary.mk.inj hsummary
    refine ⟨?_, insertionSort_eq_iff_perm.mp htargets⟩
    unfold parseRouteStrategy
    rw [← hstrategy]
    cases route.strategy <;> rfl
  · rintro ⟨hstrategy, htargets⟩
    exact ModelRouteSummary.ext (asStr_of_parseRouteStrategy hstrategy)
      (insertionSort_eq_iff_perm.mpr htargets)

theorem activePolicyProfileSummaries_eq_iff :
    activePolicyProfileSummaries state = stagedPolicyProfileSummaries document' ↔
      ∀ id, id ∈ config.policyProfiles ↔ id ∈ document'.policyProfiles := by
  rw [eq_iff_mem]
  apply forall_congr'
  intro id
  have hstaged : id ∈ stagedPolicyProfileSummaries document' ↔ id ∈ document'.policyProfiles :=
    IdMap.mem_iff_of_lookup (lookup_stagedSummaries_id id)
  rw [IdMap.mem_iff_of_lookup (hshows.lookup_policyProfileSummaries (.of_resolvedBy h) id),
    hstaged]

theorem activeRoutingProfileSummaries_eq_iff :
    activeRoutingProfileSummaries state = stagedRoutingProfileSummaries document' ↔
      ∀ id, Option.Rel (fun profile row => RoutingProfileResolved id row profile)
        (config.routingProfiles.lookup id) (document'.routingProfiles.lookup id) := by
  unfold stagedRoutingProfileSummaries
  rw [eq_stagedSummaries_iff (hshows.lookup_routingProfileSummaries (.of_resolvedBy h))]
  apply forall_congr'
  intro id
  apply rel_congr
  intro profile row hprofile _
  constructor
  · intro hsummary
    -- the profile that runs has whole seconds, so the summary has all of it
    obtain ⟨_, source, -, -, hresolved⟩ := h.row_of_routingProfile hprofile
    rw [hresolved.summary_eq] at hsummary
    obtain ⟨-, hseconds, hretry, hmax, htarget⟩ := RoutingProfileSummary.mk.inj hsummary
    exact ⟨hresolved.id_eq, hseconds ▸ hresolved.defaultCredentialCooldown,
      hretry ▸ hresolved.sameRequestCredentialRetryEnabled,
      hmax ▸ hresolved.maxSameRequestRetries, htarget ▸ hresolved.routeTargetRetryEnabled⟩
  · exact fun hresolved => hresolved.summary_eq

end Running

/-- A channel that runs and a staged row, by their summaries and by their columns. -/
theorem channelSummary_eq_iff {name : String} {channel staged : FullPoolConfig}
    {pool : PoolConfig} {id : String} (hid : channel.accountId = "account:" ++ id)
    (hresolved : ChannelResolved sections' name pool staged)
    (hdefault : normalizeOptionalId "default_routing_profile" document'.defaultRoutingProfile =
      .ok sections'.defaultRoutingProfile) :
    (ChannelTopologyProjection.fromPoolConfig ("", channel)).summary =
        channelSummary document' pool ↔
      ChannelColumnsAgree document' channel pool := by
  obtain ⟨capabilities, hcapabilities⟩ := resolveWithBase_isOk hresolved.endpointCapabilities
    channel.providerKind.defaultEndpointCapabilities
  constructor
  · intro hsummary
    -- the printed kind of a provider tells the kind
    have hkind : stagedChannelProviderKind document' pool = channel.providerKind :=
      (stableIdFragment_injective (congrArg ChannelSummary.providerKind hsummary)).symm
    obtain ⟨raw, hraw, -⟩ := routingProfileId_eq hresolved.routingProfileId hdefault
    have hprofile : channel.routingProfileId =
        (pool.routingProfile.or document'.defaultRoutingProfile).getD "" :=
      congrArg ChannelSummary.routingProfileId hsummary
    have hsame := congrArg ChannelSummary.endpointCapabilities hsummary
    unfold channelSummary at hsame
    dsimp only at hsame
    rw [hkind, hcapabilities] at hsame
    change channel.endpointCapabilities = capabilities at hsame
    refine ⟨(congrArg ChannelSummary.enabled hsummary).symm, ⟨id, ?_, hid⟩,
      (congrArg ChannelSummary.credentialSetId hsummary).symm, ?_, hkind, ?_⟩
    · exact accountRef_of_mark (hid.symm.trans (congrArg ChannelSummary.accountId hsummary))
    · rw [hprofile, hraw, Option.getD_some]
    · rw [hcapabilities, hsame]
  -- column by column, the ids with their prefix
  · intro hagree
    obtain ⟨accountId, hnamed, haccountId⟩ := hagree.account
    apply ChannelSummary.ext
    · exact hagree.enabled.symm
    · exact congrArg ProviderKind.stableIdFragment hagree.providerKind.symm
    · unfold channelSummary
      dsimp only
      rw [hagree.providerKind, hagree.endpointCapabilities]
      rfl
    · show channel.accountId = (pool.account.map fun account => "account:" ++ account).getD ""
      rw [hnamed, haccountId]
      rfl
    · exact hagree.credentialSet.symm
    · show channel.routingProfileId =
        (pool.routingProfile.or document'.defaultRoutingProfile).getD ""
      rw [hagree.routingProfile, Option.getD_some]

section Both

variable (h : ResolvedBy environment document orders config poolConfigs sections)
  (h' : ResolvedBy environment' document' orders' config' poolConfigs' sections')
  (hshows : state.Shows config)

include h h' hshows

theorem activeChannelSummaries_eq_iff :
    activeChannelSummaries state = stagedChannelSummaries document' ↔
      ∀ id, Option.Rel (ChannelColumnsAgree document') (config.pools.lookup id)
        (document'.pools.lookup id) := by
  unfold stagedChannelSummaries
  have hactive : ∀ id, (activeChannelSummaries state).lookup id =
      (config.pools.lookup id).map fun channel =>
        (ChannelTopologyProjection.fromPoolConfig ("", channel)).summary :=
    hshows.lookup_channelSummaries
  rw [eq_stagedSummaries_iff hactive]
  apply forall_congr'
  intro id
  apply rel_congr
  intro channel pool hchannel hpool
  obtain ⟨accountId, haccountId, -⟩ := accountId_of_channel h hchannel
  obtain ⟨staged, -, hstaged⟩ := h'.channel_of_row hpool
  exact channelSummary_eq_iff haccountId hstaged h'.defaultRoutingProfile

/-- The diff compares these columns, and no others. -/
theorem summariesAgree_iff_comparedColumns (hroutes : ResolvedRoutes config) :
    SummariesAgree state document' ↔
      ComparedColumns state.runtimeCatalogs.managementProjection config document' := by
  -- section by section
  constructor
  · intro hagree
    exact {
      providers := (activeProviderSummaries_eq_iff h hshows).mp hagree.providers
      accounts := (activeAccountSummaries_eq_iff h hshows).mp hagree.accounts
      credentialSets := activeCredentialSetSummaries_eq_iff.mp hagree.credentialSets
      pools := (activeChannelSummaries_eq_iff h h' hshows).mp hagree.channels
      modelRoutes := (activeModelRouteSummaries_eq_iff hshows hroutes).mp hagree.modelRoutes
      policyProfiles := (activePolicyProfileSummaries_eq_iff h hshows).mp hagree.policyProfiles
      routingProfiles :=
        (activeRoutingProfileSummaries_eq_iff h hshows).mp hagree.routingProfiles }
  · intro hcompared
    exact {
      providers := (activeProviderSummaries_eq_iff h hshows).mpr hcompared.providers
      accounts := (activeAccountSummaries_eq_iff h hshows).mpr hcompared.accounts
      credentialSets := activeCredentialSetSummaries_eq_iff.mpr hcompared.credentialSets
      channels := (activeChannelSummaries_eq_iff h h' hshows).mpr hcompared.pools
      modelRoutes := (activeModelRouteSummaries_eq_iff hshows hroutes).mpr hcompared.modelRoutes
      policyProfiles :=
        (activePolicyProfileSummaries_eq_iff h hshows).mpr hcompared.policyProfiles
      routingProfiles :=
        (activeRoutingProfileSummaries_eq_iff h hshows).mpr hcompared.routingProfiles }

end Both

end Sections

/-! ## §5. Only the resources of the staged document. -/

theorem channelColumnsAgree_overlay_iff {bootstrap document : RegistryDocument}
    {channel : FullPoolConfig} {pool : PoolConfig} :
    ChannelColumnsAgree (overlayStagedResources bootstrap document) channel pool ↔
      ChannelColumnsAgree document channel pool :=
  ⟨fun h => ⟨h.enabled, h.account, h.credentialSet, h.routingProfile, h.providerKind,
      h.endpointCapabilities⟩,
    fun h => ⟨h.enabled, h.account, h.credentialSet, h.routingProfile, h.providerKind,
      h.endpointCapabilities⟩⟩

theorem comparedColumns_overlay_iff {bootstrap document : RegistryDocument}
    {channels : List (String × FullPoolConfig)} {config : FullResolvedConfig} :
    ComparedColumns channels config (overlayStagedResources bootstrap document) ↔
      ComparedColumns channels config document := by
  have hpools : ∀ id, Option.Rel
      (ChannelColumnsAgree (overlayStagedResources bootstrap document))
        (config.pools.lookup id) (document.pools.lookup id) ↔
      Option.Rel (ChannelColumnsAgree document) (config.pools.lookup id)
        (document.pools.lookup id) :=
    fun id => rel_congr fun _ _ _ _ => channelColumnsAgree_overlay_iff
  exact ⟨fun h => ⟨h.providers, h.accounts, h.credentialSets, fun id => (hpools id).mp (h.pools id),
      h.modelRoutes, h.policyProfiles, h.routingProfiles⟩,
    fun h => ⟨h.providers, h.accounts, h.credentialSets, fun id => (hpools id).mpr (h.pools id),
      h.modelRoutes, h.policyProfiles, h.routingProfiles⟩⟩

end OneAiKey
