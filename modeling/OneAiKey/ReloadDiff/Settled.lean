/-
  OneAiKey.ReloadDiff.Settled — what the diff reports right after a reload
  (`src/management_runtime_diff.rs`).

  A runtime that was just built from a document is compared with that document.  The
  runtime has trimmed ids and only the resources that a channel leads to; the document
  has its rows as they are written.

  Main results:
    * `summariesAgree_iff_settled` — the two sides agree exactly when nothing of the
      document is lost on the way into the runtime;
    * `reload_diff_empty_iff` — and the diff is empty exactly then.
-/
import OneAiKey.ModelCatalog.Agreement
import OneAiKey.RegistryStore.LoadBack
import OneAiKey.ReloadDiff
import OneAiKey.Resolve.Rows

namespace OneAiKey

open Collect
open Grouping

/-! ## §1. The maps of the summaries. -/

section Maps

variable {β γ : Type}

/-- Two maps are equal when one has the entries of the other and no others. -/
theorem IdMap.eq_of_entries {m m' : IdMap β}
    (hentries : ∀ key value, m.lookup key = some value → m'.lookup key = some value)
    (hkeys : ∀ key, key ∈ m' → key ∈ m) : m = m' := by
  apply Finmap.ext_lookup
  intro key
  cases hvalue : m.lookup key with
  | some value => exact (hentries key value hvalue).symm
  | none =>
      symm
      rw [Finmap.lookup_eq_none]
      intro hmem
      exact Finmap.lookup_eq_none.mp hvalue (hkeys key hmem)

/-- The values of a map, put under the ids that they carry. -/
theorem lookup_ofValues {m : IdMap β} {id : β → String} {f : β → γ}
    (hid : ∀ key value, m.lookup key = some value → id value = key) (key : String) :
    (ofEntries (m.values.map fun value => (id value, f value))).lookup key =
      (m.lookup key).map f := by
  -- the values carry their own keys, so no entry replaces another
  have hkeys : ((m.values.map fun value => (id value, f value)).map Prod.fst) =
      IdMap.sortedKeys m := by
    unfold IdMap.values
    rw [List.map_map, List.map_map, ← IdMap.map_fst_sortedEntries]
    apply List.map_congr_left
    intro entry hmem
    exact hid entry.1 entry.2 (IdMap.mem_sortedEntries.mp hmem)
  have hnodup : ((m.values.map fun value => (id value, f value)).map Prod.fst).Nodup :=
    hkeys ▸ IdMap.nodup_sortedKeys m
  apply Option.ext
  intro c
  rw [lookup_ofEntries_iff hnodup, Option.map_eq_some_iff]
  unfold IdMap.values
  simp only [List.mem_map, Prod.exists, exists_eq_right, IdMap.mem_sortedEntries,
    Prod.mk.injEq]
  constructor
  · rintro ⟨value, ⟨key', hvalue⟩, hkey, rfl⟩
    rw [hid key' value hvalue] at hkey
    exact ⟨value, hkey ▸ hvalue, rfl⟩
  · rintro ⟨value, hvalue, rfl⟩
    exact ⟨value, ⟨key, hvalue⟩, hid key value hvalue, rfl⟩

/-- The rows of a section are found under their ids. -/
theorem lookup_stagedSummaries_iff {rows : IdMap β} {id : String → String}
    (hid : Function.Injective id) {summary : β → γ} {key : String} {value : γ} :
    (stagedSummaries rows id summary).lookup key = some value ↔
      ∃ rowId row, rows.lookup rowId = some row ∧ id rowId = key ∧ summary row = value := by
  have hnodup : (((IdMap.sortedEntries rows).map fun entry =>
      (id entry.1, summary entry.2)).map Prod.fst).Nodup := by
    have hkeys : (((IdMap.sortedEntries rows).map fun entry =>
        (id entry.1, summary entry.2)).map Prod.fst) = (IdMap.sortedKeys rows).map id := by
      rw [← IdMap.map_fst_sortedEntries, List.map_map, List.map_map]
      rfl
    rw [hkeys]
    exact (IdMap.nodup_sortedKeys rows).map hid
  unfold stagedSummaries
  rw [lookup_ofEntries_iff hnodup]
  simp only [List.mem_map, Prod.exists, IdMap.mem_sortedEntries, Prod.mk.injEq]

/-- A staged summary is found under the id of its row. -/
theorem lookup_stagedSummaries {rows : IdMap β} {id : String → String}
    (hid : Function.Injective id) {summary : β → γ} (rowId : String) :
    (stagedSummaries rows id summary).lookup (id rowId) = (rows.lookup rowId).map summary := by
  apply Option.ext
  intro value
  rw [lookup_stagedSummaries_iff hid, Option.map_eq_some_iff]
  constructor
  · rintro ⟨rowId', row, hrow, hkey, rfl⟩
    rw [hid hkey] at hrow
    exact ⟨row, hrow, rfl⟩
  · rintro ⟨row, hrow, rfl⟩
    exact ⟨rowId, row, hrow, rfl, rfl⟩

/-- The same for a section whose ids are shown as they are. -/
theorem lookup_stagedSummaries_id {rows : IdMap β} {summary : β → γ} (rowId : String) :
    (stagedSummaries rows id summary).lookup rowId = (rows.lookup rowId).map summary :=
  lookup_stagedSummaries Function.injective_id rowId

/-- The staged ids are those of the rows. -/
theorem mem_stagedSummaries_iff {rows : IdMap β} {id : String → String}
    (hid : Function.Injective id) {summary : β → γ} {key : String} :
    key ∈ stagedSummaries rows id summary ↔ ∃ rowId ∈ rows, id rowId = key := by
  simp only [Finmap.mem_iff, lookup_stagedSummaries_iff hid]
  constructor
  · rintro ⟨_, rowId, row, hrow, hkey, -⟩
    exact ⟨rowId, ⟨row, hrow⟩, hkey⟩
  · rintro ⟨rowId, ⟨row, hrow⟩, hkey⟩
    exact ⟨_, rowId, row, hrow, hkey, rfl⟩

end Maps

/-- Different providers have different topology ids. -/
theorem provider_injective : Function.Injective ("provider:" ++ ·) :=
  fun _ _ h => (String.append_right_inj _).mp h

/-- Different accounts have different topology ids. -/
theorem account_injective : Function.Injective ("account:" ++ ·) :=
  fun _ _ h => (String.append_right_inj _).mp h

/-- The mark in front of an account id is not empty, so there is an account behind it. -/
theorem accountRef_of_mark {accountRef : Option String} {id : String}
    (h : "account:" ++ id = (accountRef.map fun account => "account:" ++ account).getD "") :
    accountRef = some id := by
  cases accountRef with
  | none =>
      have hlength := congrArg String.length h
      rw [String.length_append] at hlength
      have hmark : "account:".length = 8 := rfl
      have hempty : ((none : Option String).map fun account =>
        "account:" ++ account).getD "" = "" := rfl
      have hzero : "".length = 0 := rfl
      rw [hempty] at hlength
      omega
  | some account =>
      rw [Option.map_some, Option.getD_some] at h
      rw [account_injective h]

/-! ## §2. The runtime of a configuration. -/

/-- A profile carries its own id. -/
structure ResolvedProfiles (config : FullResolvedConfig) : Prop where
  policyId : ∀ key profile, config.policyProfiles.lookup key = some profile → profile.id = key
  routingId : ∀ key profile, config.routingProfiles.lookup key = some profile → profile.id = key

/-- What the diff reads of the runtime is of the configuration. -/
structure AppState.Shows {ρ τ : Type} (state : AppState ρ τ) (config : FullResolvedConfig) :
    Prop where
  channels : state.runtimeCatalogs.managementProjection.Perm (IdMap.sortedEntries config.pools)
  modelRoutes : state.channels.modelRoutes = config.modelRoutes
  policyProfiles : state.runtimeCatalogs.policyProfiles = config.policyProfiles
  routingProfiles : state.runtimeCatalogs.routingProfiles = config.routingProfiles

variable {ρ τ : Type} {state : AppState ρ τ} {config : FullResolvedConfig}

/-- After a rebuild the runtime shows the configuration that it was rebuilt from. -/
theorem AppState.shows_of_rebuild {version : Option Nat} {inputs : RebuildInputs}
    {s s' : AppState ρ τ} (hvisits : inputs.Visits config)
    (h : rebuildRuntimeFromResolvedConfig config version inputs s = (.ok (), s')) :
    s'.Shows config := by
  obtain ⟨built, -, rfl⟩ := eq_of_rebuild_ok h
  exact ⟨hvisits, rfl, rfl, rfl⟩

namespace AppState.Shows

/-- The channels that the runtime shows are those of the configuration. -/
theorem mem_channels_iff (h : state.Shows config) {name : String} {channel : FullPoolConfig} :
    (name, channel) ∈ state.runtimeCatalogs.managementProjection ↔
      config.pools.lookup name = some channel := by
  rw [h.channels.mem_iff, IdMap.mem_sortedEntries]

/-- The summary of an active channel is that of its configuration. -/
theorem lookup_channelSummaries (h : state.Shows config) (name : String) :
    (activeChannelSummaries state).lookup name =
      (config.pools.lookup name).map fun channel =>
        (ChannelTopologyProjection.fromPoolConfig (name, channel)).summary := by
  -- the state has the channels of the configuration, in an order of its own
  have hperm : (state.runtimeCatalogs.channelTopologies.map fun channel =>
      (channel.id, channel.summary)).Perm ((IdMap.sortedEntries config.pools).map fun entry =>
        (entry.1, (ChannelTopologyProjection.fromPoolConfig entry).summary)) := by
    unfold RuntimeCatalogSnapshot.channelTopologies
    refine ((List.perm_insertionSort _ _).map _).trans ?_
    rw [List.map_map]
    exact h.channels.map _
  have hnodup : ((state.runtimeCatalogs.channelTopologies.map fun channel =>
      (channel.id, channel.summary)).map Prod.fst).Nodup := by
    rw [(hperm.map Prod.fst).nodup_iff, List.map_map]
    show ((IdMap.sortedEntries config.pools).map Prod.fst).Nodup
    rw [IdMap.map_fst_sortedEntries]
    exact IdMap.nodup_sortedKeys config.pools
  apply Option.ext
  intro summary
  unfold activeChannelSummaries
  rw [lookup_ofEntries_iff hnodup, hperm.mem_iff, Option.map_eq_some_iff]
  simp only [List.mem_map, Prod.exists, IdMap.mem_sortedEntries, Prod.mk.injEq]
  constructor
  · rintro ⟨name', channel, hchannel, rfl, rfl⟩
    exact ⟨channel, hchannel, rfl⟩
  · rintro ⟨channel, hchannel, rfl⟩
    exact ⟨name, channel, hchannel, rfl, rfl⟩

/-- The summary of an active route is that of its configuration. -/
theorem lookup_modelRouteSummaries (h : state.Shows config) (hroutes : ResolvedRoutes config)
    (model : String) : (activeModelRouteSummaries state).lookup model =
      (config.modelRoutes.lookup model).map activeModelRouteSummary := by
  unfold activeModelRouteSummaries
  rw [h.modelRoutes]
  exact lookup_ofValues hroutes.publicModel model

/-- A policy profile has no columns: its summary says that it is there. -/
theorem lookup_policyProfileSummaries (h : state.Shows config)
    (hprofiles : ResolvedProfiles config) (id : String) :
    (activePolicyProfileSummaries state).lookup id =
      (config.policyProfiles.lookup id).map fun _ => ⟨⟩ := by
  unfold activePolicyProfileSummaries
  rw [h.policyProfiles]
  exact lookup_ofValues hprofiles.policyId id

/-- The summary of an active routing profile is that of its configuration. -/
theorem lookup_routingProfileSummaries (h : state.Shows config)
    (hprofiles : ResolvedProfiles config) (id : String) :
    (activeRoutingProfileSummaries state).lookup id =
      (config.routingProfiles.lookup id).map activeRoutingProfileSummary := by
  unfold activeRoutingProfileSummaries
  rw [h.routingProfiles]
  exact lookup_ofValues hprofiles.routingId id

end AppState.Shows

/-- A provider is listed under its own id. -/
theorem id_of_providersOfChannels {poolConfigs : List (String × FullPoolConfig)} (key : String)
    (provider : ProviderTopologyProjection)
    (h : (providersOfChannels poolConfigs).lookup key = some provider) : provider.id = key := by
  refine @group_forall _ _ _ _ _ _ _ (fun key provider => provider.id = key) _ ?_ ?_ key
    provider h
  · exact fun _ _ => rfl
  · exact fun _ _ _ hid => hid

/-- An account is listed under its own id. -/
theorem id_of_accountsOfChannels {poolConfigs : List (String × FullPoolConfig)} (key : String)
    (account : AccountTopologyProjection)
    (h : (accountsOfChannels poolConfigs).lookup key = some account) : account.id = key := by
  refine @group_forall _ _ _ _ _ _ _ (fun key account => account.id = key) _ ?_ ?_ key account h
  · exact fun _ _ => rfl
  · exact fun _ _ _ hid => hid

/-- A credential set is listed under its own id. -/
theorem id_of_credentialSetsOfChannels {poolConfigs : List (String × FullPoolConfig)}
    (key : String) (set : CredentialSetTopologyProjection)
    (h : (credentialSetsOfChannels poolConfigs).lookup key = some set) : set.id = key := by
  refine @group_forall _ _ _ _ _ _ _ (fun key set => set.id = key) _ ?_ ?_ key set h
  · exact fun _ _ => rfl
  · exact fun _ _ _ hid => hid

/-- Of a provider the diff compares the kind and whether it is enabled. -/
theorem lookup_activeProviderSummaries (state : AppState ρ τ) (id : String) :
    (activeProviderSummaries state).lookup id =
      ((providersOfChannels state.runtimeCatalogs.managementProjection).lookup id).map
        fun provider => ⟨provider.providerKind.stableIdFragment, provider.enabled⟩ :=
  lookup_ofValues id_of_providersOfChannels id

/-- Of an account the diff compares the provider and whether it is enabled. -/
theorem lookup_activeAccountSummaries (state : AppState ρ τ) (id : String) :
    (activeAccountSummaries state).lookup id =
      ((accountsOfChannels state.runtimeCatalogs.managementProjection).lookup id).map
        fun account => ⟨account.providerId, account.enabled⟩ :=
  lookup_ofValues id_of_accountsOfChannels id

/-- Of a credential set the diff compares nothing but that it is there. -/
theorem lookup_activeCredentialSetSummaries (state : AppState ρ τ) (id : String) :
    (activeCredentialSetSummaries state).lookup id =
      ((credentialSetsOfChannels state.runtimeCatalogs.managementProjection).lookup id).map
        fun _ => ⟨⟩ :=
  lookup_ofValues id_of_credentialSetsOfChannels id

/-- A map over the values keeps the keys. -/
theorem IdMap.mem_iff_of_lookup {β γ : Type} {m : IdMap β} {m' : IdMap γ} {f : β → γ}
    {key : String} (h : m'.lookup key = (m.lookup key).map f) : key ∈ m' ↔ key ∈ m := by
  rw [Finmap.mem_iff, Finmap.mem_iff, h]
  cases m.lookup key <;> simp

/-- The active providers are those that some channel of the configuration has. -/
theorem mem_activeProviderSummaries_iff {id : String} :
    id ∈ activeProviderSummaries state ↔
      ∃ entry ∈ state.runtimeCatalogs.managementProjection, entry.2.providerId = id := by
  rw [IdMap.mem_iff_of_lookup (lookup_activeProviderSummaries state id)]
  exact mem_group_iff

/-- The active accounts are those that some channel has. -/
theorem mem_activeAccountSummaries_iff {id : String} :
    id ∈ activeAccountSummaries state ↔
      ∃ entry ∈ state.runtimeCatalogs.managementProjection, entry.2.accountId = id := by
  rw [IdMap.mem_iff_of_lookup (lookup_activeAccountSummaries state id)]
  exact mem_group_iff

/-- The active credential sets are those that some channel has. -/
theorem mem_activeCredentialSetSummaries_iff {id : String} :
    id ∈ activeCredentialSetSummaries state ↔
      ∃ entry ∈ state.runtimeCatalogs.managementProjection, entry.2.credentialSetId = id := by
  rw [IdMap.mem_iff_of_lookup (lookup_activeCredentialSetSummaries state id)]
  exact mem_group_iff

/-- The provider of an account is the one of some channel of the account. -/
theorem providerId_of_activeAccountSummaries {id : String} {summary : AccountSummary}
    (h : (activeAccountSummaries state).lookup id = some summary) :
    ∃ entry ∈ state.runtimeCatalogs.managementProjection, entry.2.accountId = id ∧
      summary.providerId = entry.2.providerId := by
  rw [lookup_activeAccountSummaries, Option.map_eq_some_iff] at h
  obtain ⟨account, haccount, rfl⟩ := h
  refine @group_forall _ _ _ _ _ _ _ (fun key account =>
    ∃ entry ∈ state.runtimeCatalogs.managementProjection, entry.2.accountId = key ∧
      account.providerId = entry.2.providerId) _ ?_ ?_ id account haccount
  · exact fun entry hmem => ⟨entry, hmem, rfl, rfl⟩
  · exact fun _ _ _ hid => hid

/-! ## §3. Routes. -/

/-- A strategy is shown under the name by which it is configured, a missing one under the
default's. -/
theorem asStr_of_parseRouteStrategy {raw : Option String} {strategy : RouteStrategy}
    (h : parseRouteStrategy raw = .ok strategy) :
    strategy.asStr = raw.getD "priority_weighted_sticky" := by
  unfold parseRouteStrategy at h
  split at h
  · next heq =>
      cases h
      exact heq.symm
  · next heq =>
      cases h
      exact heq.symm
  · cases h

/-- Texts are sorted to the same list when they are the same but for their order. -/
theorem insertionSort_eq_iff_perm {xs ys : List String} :
    xs.insertionSort (· ≤ ·) = ys.insertionSort (· ≤ ·) ↔ xs.Perm ys := by
  constructor
  · intro h
    have hxs := (List.perm_insertionSort (· ≤ ·) xs).symm
    rw [h] at hxs
    exact hxs.trans (List.perm_insertionSort (· ≤ ·) ys)
  · intro h
    have hsorted := ((List.perm_insertionSort (· ≤ ·) xs).trans h).trans
      (List.perm_insertionSort (· ≤ ·) ys).symm
    exact hsorted.eq_of_pairwise (fun a b _ _ hab hba => le_antisymm hab hba)
      (List.pairwise_insertionSort _ _) (List.pairwise_insertionSort _ _)

/-- The text of a target of a row, and of a target of a route. -/
def ModelRouteTargetConfig.print (row : ModelRouteTargetConfig) : String :=
  printTarget row.channel row.upstreamModel row.priority row.weight row.enabled

/-- A target of an active route as the diff prints it. -/
def RouteTarget.print (target : RouteTarget) : String :=
  printTarget target.channelId target.upstreamModel target.priority target.weight target.enabled

/-- A target prints as its row does, if the row names its channel without blanks around it. -/
theorem TargetResolved.print_eq {row : ModelRouteTargetConfig} {target : RouteTarget}
    (h : TargetResolved row target) (htrimmed : trimString row.channel = row.channel) :
    target.print = row.print := by
  unfold RouteTarget.print ModelRouteTargetConfig.print
  rw [h.channelId, h.upstreamModel, h.priority, h.weight, h.enabled, htrimmed]

/-- The text of the target is the shorter one, by what is trimmed. -/
theorem TargetResolved.length_print {row : ModelRouteTargetConfig} {target : RouteTarget}
    (h : TargetResolved row target) :
    target.print.length + row.channel.length =
      row.print.length + (trimString row.channel).length := by
  unfold RouteTarget.print ModelRouteTargetConfig.print printTarget
  rw [h.channelId, h.upstreamModel, h.priority, h.weight, h.enabled]
  simp only [String.length_append]
  omega

/-- The texts are as long together only if nothing is trimmed. -/
theorem length_prints_le {rows : List ModelRouteTargetConfig} {targets : List RouteTarget}
    (h : List.Forall₂ TargetResolved rows targets) :
    (targets.map fun target => target.print.length).sum ≤
        (rows.map fun row => row.print.length).sum ∧
      ((targets.map fun target => target.print.length).sum =
          (rows.map fun row => row.print.length).sum →
        ∀ row ∈ rows, trimString row.channel = row.channel) := by
  induction h with
  | nil => simp
  | @cons row target rows targets hrow _ ih =>
      have hlength := hrow.length_print
      have hle := length_trimString_le row.channel
      simp only [List.map_cons, List.sum_cons, List.forall_mem_cons]
      refine ⟨by omega, fun hsum => ⟨?_, ih.2 (by omega)⟩⟩
      apply trimString_eq_of_length
      omega

/-- The targets of a route print as their rows do. -/
theorem prints_eq {rows : List ModelRouteTargetConfig} {targets : List RouteTarget}
    (h : List.Forall₂ TargetResolved rows targets)
    (htrimmed : ∀ row ∈ rows, trimString row.channel = row.channel) :
    targets.map RouteTarget.print = rows.map ModelRouteTargetConfig.print := by
  induction h with
  | nil => rfl
  | cons hrow _ ih =>
      rw [List.map_cons, List.map_cons, hrow.print_eq (htrimmed _ List.mem_cons_self),
        ih fun target hmem => htrimmed target (List.mem_cons_of_mem _ hmem)]

/-- A route and its row have one summary when the row's channels are trimmed. -/
theorem RouteResolved.summary_eq_iff {row : ModelRouteConfig} {route : ModelRoute}
    (h : RouteResolved row route) :
    activeModelRouteSummary route = stagedModelRouteSummary row ↔
      ∀ target ∈ row.targets, trimString target.channel = target.channel := by
  obtain ⟨targets, htargets, hsorted⟩ := h.targets
  have hperm : route.targets.Perm targets := hsorted ▸ List.perm_insertionSort _ targets
  have hprints : activeModelRouteSummary route = stagedModelRouteSummary row ↔
      (targets.map RouteTarget.print).Perm (row.targets.map ModelRouteTargetConfig.print) := by
    rw [ModelRouteSummary.ext_iff]
    unfold activeModelRouteSummary stagedModelRouteSummary
    simp only [asStr_of_parseRouteStrategy h.strategy, true_and]
    rw [insertionSort_eq_iff_perm]
    exact ⟨(hperm.map RouteTarget.print).symm.trans, (hperm.map RouteTarget.print).trans⟩
  rw [hprints]
  constructor
  · intro hsame
    have hsum := (hsame.map String.length).sum_eq
    rw [List.map_map, List.map_map] at hsum
    exact (length_prints_le htargets).2 hsum
  · intro htrimmed
    rw [prints_eq htargets htrimmed]

/-! ## §4. Settled documents. -/

/-- A channel names an account, and what it names is written as its id. -/
structure PoolConfig.Settled (defaultRoutingProfile : Option String) (id : String)
    (pool : PoolConfig) : Prop where
  id_trimmed : trimString id = id
  account : ∃ accountRef, pool.account = some accountRef ∧ trimString accountRef = accountRef
  credentialSet : trimString pool.credentialSet = pool.credentialSet
  routingProfile : ∀ raw, pool.routingProfile.or defaultRoutingProfile = some raw →
    trimString raw = raw

/-- Every id and every reference of the document is written as it is used, every channel
names an account, and every account, provider and credential set has a channel that leads
to it. -/
structure RegistryDocument.Settled (document : RegistryDocument) : Prop where
  channels : ∀ id pool, document.pools.lookup id = some pool →
    pool.Settled document.defaultRoutingProfile id
  accounts : ∀ id account, document.accounts.lookup id = some account →
    trimString id = id ∧ trimString account.provider = account.provider ∧
    ∃ name pool, document.pools.lookup name = some pool ∧ pool.account = some id
  providers : ∀ id ∈ document.providers, trimString id = id ∧
    ∃ accountId account, document.accounts.lookup accountId = some account ∧
      account.provider = id
  credentialSets : ∀ id ∈ document.credentialSets, trimString id = id ∧
    ∃ name pool, document.pools.lookup name = some pool ∧ pool.credentialSet = id
  policyProfiles : ∀ id ∈ document.policyProfiles, trimString id = id
  routingProfiles : ∀ id ∈ document.routingProfiles, trimString id = id
  targets : ∀ model route, document.modelRoutes.lookup model = some route →
    ∀ target ∈ route.targets, trimString target.channel = target.channel

/-- What `resolve` makes of the profiles: each keeps its id and its row. -/
theorem ResolvedProfiles.of_resolvedBy {environment : ResolveEnvironment}
    {document : RegistryDocument} {orders : SectionOrders document}
    {poolConfigs : IdMap PoolConfig} {sections : ResolvedSections}
    (h : ResolvedBy environment document orders config poolConfigs sections) :
    ResolvedProfiles config where
  policyId := by
    intro key profile hprofile
    obtain ⟨id, row, -, -, hresolved⟩ := h.row_of_policyProfile hprofile
    exact hresolved.id_eq
  routingId := by
    intro key profile hprofile
    obtain ⟨id, row, -, -, hresolved⟩ := h.row_of_routingProfile hprofile
    exact hresolved.id_eq

/-- The summary of a resolved routing profile is that of its row. -/
theorem RoutingProfileResolved.summary_eq {id : String} {row : RoutingProfileConfig}
    {profile : ResolvedRoutingProfile} (h : RoutingProfileResolved id row profile) :
    activeRoutingProfileSummary profile = routingProfileSummary row := by
  have hseconds : (Duration.fromSecs row.defaultCredentialCooldownSeconds).asSecs =
      row.defaultCredentialCooldownSeconds := Nat.mul_div_cancel _ (by decide)
  unfold activeRoutingProfileSummary routingProfileSummary
  rw [h.defaultCredentialCooldown, h.sameRequestCredentialRetryEnabled, h.maxSameRequestRetries,
    h.routeTargetRetryEnabled, hseconds]

/-! ## §5. What the channels of a runtime say together. -/

section Agreement

variable {environment : ResolveEnvironment} {document : RegistryDocument}
  {orders : SectionOrders document} {poolConfigs : IdMap PoolConfig}
  {sections : ResolvedSections}

/-- Every channel of the document names an account. -/
def RegistryDocument.NamesAccounts (document : RegistryDocument) : Prop :=
  ∀ id pool, document.pools.lookup id = some pool → ∃ accountRef, pool.account = some accountRef

/-- The account and the provider behind a channel that names an account. -/
structure ChannelUpstream (sections : ResolvedSections) (channel : FullPoolConfig)
    (accountId : String) (account : AccountConfig) (provider : ProviderConfig) : Prop where
  lookup_account : sections.accounts.lookup accountId = some account
  lookup_provider : sections.providers.lookup account.provider = some provider
  accountId_eq : channel.accountId = "account:" ++ accountId
  providerId_eq : channel.providerId = "provider:" ++ account.provider
  accountConfiguredEnabled : channel.accountConfiguredEnabled = account.enabled
  providerEnabled : channel.providerEnabled = provider.enabled
  accountEnabled : channel.accountEnabled = (account.enabled && provider.enabled)
  providerKind : channel.providerKind = provider.providerKind

/-- A channel that names an account has its upstream from there. -/
theorem ChannelResolved.upstream {name : String} {pool : PoolConfig} {channel : FullPoolConfig}
    (h : ChannelResolved sections name pool channel) {accountRef : String}
    (hnamed : pool.account = some accountRef) :
    ∃ account provider,
      ChannelUpstream sections channel (trimString accountRef) account provider := by
  obtain ⟨account, provider, hupstream⟩ := AccountResolved.of_resolvePoolAccount h.account hnamed
  exact ⟨account, provider, hupstream.lookup_account, hupstream.lookup_provider,
    hupstream.accountId, hupstream.providerId, hupstream.accountConfiguredEnabled,
    hupstream.providerEnabled, hupstream.accountEnabled, hupstream.providerKind⟩

section Upstreams

variable (hnames : document.NamesAccounts)
  (h : ResolvedBy environment document orders config poolConfigs sections)

include hnames h

/-- Every channel of the configuration has an account and a provider among the resolved ones. -/
theorem exists_channelUpstream {name : String} {channel : FullPoolConfig}
    (hchannel : config.pools.lookup name = some channel) :
    ∃ accountId account provider,
      ChannelUpstream sections channel accountId account provider := by
  obtain ⟨id, pool, hpool, -, hresolved⟩ := h.row_of_channel hchannel
  obtain ⟨accountRef, hnamed⟩ := hnames id pool hpool
  exact ⟨trimString accountRef, hresolved.upstream hnamed⟩

/-- All channels of a provider say the same about it, so nothing is lost in the conjunction. -/
theorem provider_of_activeProviderSummaries (hshows : state.Shows config) {key : String}
    {summary : ProviderSummary}
    (hsummary : (activeProviderSummaries state).lookup key = some summary) :
    ∃ id provider, sections.providers.lookup id = some provider ∧ key = "provider:" ++ id ∧
      summary = providerSummary provider := by
  rw [lookup_activeProviderSummaries, Option.map_eq_some_iff] at hsummary
  obtain ⟨topology, htopology, rfl⟩ := hsummary
  have hprovider : ∃ id provider, sections.providers.lookup id = some provider ∧
      key = "provider:" ++ id ∧ topology.providerKind = provider.providerKind ∧
      topology.enabled = provider.enabled := by
    -- as for accounts
    refine @group_forall _ _ _ _ _ _ _ (fun key (topology : ProviderTopologyProjection) =>
      ∃ id provider, sections.providers.lookup id = some provider ∧ key = "provider:" ++ id ∧
        topology.providerKind = provider.providerKind ∧
        topology.enabled = provider.enabled) _ ?_ ?_ key topology htopology
    · rintro ⟨name, channel⟩ hmem
      obtain ⟨accountId, account, provider, hupstream⟩ :=
        exists_channelUpstream hnames h (hshows.mem_channels_iff.mp hmem)
      exact ⟨account.provider, provider, hupstream.lookup_provider, hupstream.providerId_eq,
        hupstream.providerKind, hupstream.providerEnabled⟩
    · rintro ⟨name, channel⟩ hmem topology ⟨id, provider, hprovider, hkey, hkind, henabled⟩
      obtain ⟨accountId, account, provider', hupstream⟩ :=
        exists_channelUpstream hnames h (hshows.mem_channels_iff.mp hmem)
      obtain rfl : account.provider = id :=
        provider_injective (hupstream.providerId_eq.symm.trans hkey)
      obtain rfl : provider' = provider :=
        Option.some.inj (hupstream.lookup_provider.symm.trans hprovider)
      refine ⟨account.provider, provider', hprovider, hkey, hkind, ?_⟩
      show (topology.enabled && channel.providerEnabled) = provider'.enabled
      rw [henabled, hupstream.providerEnabled, Bool.and_self]
  obtain ⟨id, provider, hprovider, hkey, hkind, henabled⟩ := hprovider
  refine ⟨id, provider, hprovider, hkey, ?_⟩
  rw [hkind, henabled]
  rfl

/-- An active account is a resolved one, and its summary is that of its configuration. -/
theorem account_of_activeAccountSummaries (hshows : state.Shows config) {key : String}
    {summary : AccountSummary}
    (hsummary : (activeAccountSummaries state).lookup key = some summary) :
    ∃ id account, sections.accounts.lookup id = some account ∧ key = "account:" ++ id ∧
      summary = accountSummary account := by
  rw [lookup_activeAccountSummaries, Option.map_eq_some_iff] at hsummary
  obtain ⟨topology, htopology, rfl⟩ := hsummary
  have haccount : ∃ id account, sections.accounts.lookup id = some account ∧
      key = "account:" ++ id ∧ topology.providerId = "provider:" ++ account.provider ∧
      topology.enabled = account.enabled := by
    -- every channel of the account shows the same row, and so does what is made of them
    refine @group_forall _ _ _ _ _ _ _ (fun key (topology : AccountTopologyProjection) =>
      ∃ id account, sections.accounts.lookup id = some account ∧ key = "account:" ++ id ∧
        topology.providerId = "provider:" ++ account.provider ∧
        topology.enabled = account.enabled) _ ?_ ?_ key topology htopology
    · rintro ⟨name, channel⟩ hmem
      obtain ⟨accountId, account, provider, hupstream⟩ :=
        exists_channelUpstream hnames h (hshows.mem_channels_iff.mp hmem)
      exact ⟨accountId, account, hupstream.lookup_account, hupstream.accountId_eq,
        hupstream.providerId_eq, hupstream.accountConfiguredEnabled⟩
    · rintro ⟨name, channel⟩ hmem topology ⟨id, account, haccount, hkey, hprovider, henabled⟩
      obtain ⟨accountId, account', provider, hupstream⟩ :=
        exists_channelUpstream hnames h (hshows.mem_channels_iff.mp hmem)
      obtain rfl : accountId = id :=
        account_injective (hupstream.accountId_eq.symm.trans hkey)
      obtain rfl : account' = account :=
        Option.some.inj (hupstream.lookup_account.symm.trans haccount)
      refine ⟨accountId, account', haccount, hkey, hprovider, ?_⟩
      show (topology.enabled && channel.accountConfiguredEnabled) = account'.enabled
      rw [henabled, hupstream.accountConfiguredEnabled, Bool.and_self]
  obtain ⟨id, account, haccount, hkey, hprovider, henabled⟩ := haccount
  refine ⟨id, account, haccount, hkey, ?_⟩
  rw [hprovider, henabled]
  rfl

end Upstreams

/-! ## §6. From a settled document to the runtime. -/

/-- The rows behind a channel of the runtime, each found as it is written. -/
structure ChannelRows (document : RegistryDocument) (name : String) (channel : FullPoolConfig)
    (pool : PoolConfig) (accountRef : String) (account : AccountConfig)
    (provider : ProviderConfig) : Prop where
  lookup_pool : document.pools.lookup name = some pool
  account_eq : pool.account = some accountRef
  lookup_account : document.accounts.lookup accountRef = some account
  lookup_provider : document.providers.lookup account.provider = some provider
  accountId : channel.accountId = "account:" ++ accountRef
  providerId : channel.providerId = "provider:" ++ account.provider
  providerKind : channel.providerKind = provider.providerKind

namespace RegistryDocument.Settled

variable (hsettled : document.Settled)

include hsettled

theorem namesAccounts : document.NamesAccounts := by
  intro id pool hpool
  obtain ⟨accountRef, hnamed, -⟩ := (hsettled.channels id pool hpool).account
  exact ⟨accountRef, hnamed⟩

variable (h : ResolvedBy environment document orders config poolConfigs sections)

include h

/-- An account of the runtime is the row of its id. -/
theorem lookup_account {id : String} {account : AccountConfig}
    (haccount : sections.accounts.lookup id = some account) :
    document.accounts.lookup id = some account := by
  obtain ⟨rawId, row, hrow, hid, hsource⟩ := h.row_of_account haccount
  obtain ⟨hidTrimmed, hproviderTrimmed, -⟩ := hsettled.accounts rawId row hrow
  rw [hproviderTrimmed] at hsource
  rw [← hid, hidTrimmed, hrow, hsource]

/-- A resolved provider is a row of the document, under an id without blanks around it. -/
theorem lookup_provider {id : String} {provider : ProviderConfig}
    (hprovider : sections.providers.lookup id = some provider) :
    document.providers.lookup id = some provider := by
  obtain ⟨rawId, hrow, hid⟩ := h.row_of_provider hprovider
  rw [← hid, (hsettled.providers rawId (Finmap.mem_iff.mpr ⟨provider, hrow⟩)).1, hrow]

/-- Every channel of the configuration comes from a row, with an account and a provider of the
document. -/
theorem exists_channelRows {name : String} {channel : FullPoolConfig}
    (hchannel : config.pools.lookup name = some channel) :
    ∃ pool accountRef account provider,
      ChannelRows document name channel pool accountRef account provider ∧
      ChannelResolved sections name pool channel := by
  obtain ⟨id, pool, hpool, hid, hresolved⟩ := h.row_of_channel hchannel
  have hsettledPool := hsettled.channels id pool hpool
  obtain rfl : id = name := hsettledPool.id_trimmed.symm.trans hid
  obtain ⟨accountRef, hnamed, hrefTrimmed⟩ := hsettledPool.account
  obtain ⟨account, provider, hupstream⟩ := hresolved.upstream hnamed
  rw [hrefTrimmed] at hupstream
  exact ⟨pool, accountRef, account, provider, {
    lookup_pool := hpool
    account_eq := hnamed
    lookup_account := hsettled.lookup_account h hupstream.lookup_account
    lookup_provider := hsettled.lookup_provider h hupstream.lookup_provider
    accountId := hupstream.accountId_eq
    providerId := hupstream.providerId_eq
    providerKind := hupstream.providerKind }, hresolved⟩

/-- A channel row becomes a channel of its id. -/
theorem channel_of_row {id : String} {pool : PoolConfig}
    (hpool : document.pools.lookup id = some pool) :
    ∃ channel, config.pools.lookup id = some channel ∧
      ChannelResolved sections id pool channel := by
  obtain ⟨channel, hchannel, hresolved⟩ := h.channel_of_row hpool
  rw [(hsettled.channels id pool hpool).id_trimmed] at hchannel hresolved
  exact ⟨channel, hchannel, hresolved⟩

/-- With settled rows the active channels are summarised as the staged ones are. -/
theorem channelSummaries (hshows : state.Shows config) :
    activeChannelSummaries state = stagedChannelSummaries document := by
  apply IdMap.eq_of_entries
  · intro name summary hsummary
    rw [hshows.lookup_channelSummaries, Option.map_eq_some_iff] at hsummary
    obtain ⟨channel, hchannel, rfl⟩ := hsummary
    obtain ⟨pool, accountRef, account, provider, hrows, hresolved⟩ :=
      hsettled.exists_channelRows h hchannel
    -- the kind of the channel is that of the account's provider
    have hkind : stagedChannelProviderKind document pool = channel.providerKind := by
      unfold stagedChannelProviderKind
      rw [hrows.account_eq, Option.bind_some, hrows.lookup_account, Option.bind_some,
        hrows.lookup_provider, hrows.providerKind]
      rfl
    obtain ⟨raw, hraw, hprofile⟩ :=
      routingProfileId_eq hresolved.routingProfileId h.defaultRoutingProfile
    have hpool := hsettled.channels name pool hrows.lookup_pool
    have hrawTrimmed := hpool.routingProfile raw hraw
    refine (lookup_stagedSummaries_id name).trans ?_
    rw [hrows.lookup_pool, Option.map_some]
    apply congrArg some
    -- column by column
    apply ChannelSummary.ext
    · exact hresolved.configuredEnabled.symm
    · exact congrArg ProviderKind.stableIdFragment hkind
    · unfold channelSummary
      dsimp only
      rw [hkind, hresolved.endpointCapabilities]
      rfl
    · show (pool.account.map _).getD "" = channel.accountId
      rw [hrows.account_eq, hrows.accountId]
      rfl
    · exact (hresolved.credentialSetId.trans hpool.credentialSet).symm
    · show (pool.routingProfile.or _).getD "" = channel.routingProfileId
      rw [hraw, hprofile, hrawTrimmed]
      rfl
  · intro name hmem
    obtain ⟨_, hid, rfl⟩ := (mem_stagedSummaries_iff Function.injective_id).mp hmem
    obtain ⟨pool, hpool⟩ := Finmap.mem_iff.mp hid
    obtain ⟨channel, hchannel, -⟩ := hsettled.channel_of_row h hpool
    exact (IdMap.mem_iff_of_lookup (hshows.lookup_channelSummaries _)).mpr
      (Finmap.mem_iff.mpr ⟨channel, hchannel⟩)

/-- With settled rows every provider is in use, and the active ones are summarised as the staged
ones are. -/
theorem providerSummaries (hshows : state.Shows config) :
    activeProviderSummaries state = stagedProviderSummaries document := by
  apply IdMap.eq_of_entries
  · intro key summary hsummary
    obtain ⟨id, provider, hprovider, rfl, rfl⟩ :=
      provider_of_activeProviderSummaries hsettled.namesAccounts h hshows hsummary
    refine (lookup_stagedSummaries provider_injective id).trans ?_
    rw [hsettled.lookup_provider h hprovider, Option.map_some]
  · intro key hmem
    obtain ⟨id, hid, rfl⟩ := (mem_stagedSummaries_iff provider_injective).mp hmem
    -- from the provider to an account, and from there to a channel
    obtain ⟨-, accountId, account, haccount, rfl⟩ := hsettled.providers id hid
    obtain ⟨-, -, name, pool, hpool, hnamed⟩ := hsettled.accounts accountId account haccount
    obtain ⟨channel, hchannel, -⟩ := hsettled.channel_of_row h hpool
    obtain ⟨pool', accountRef, account', provider, hrows, -⟩ :=
      hsettled.exists_channelRows h hchannel
    obtain rfl : pool' = pool := Option.some.inj (hrows.lookup_pool.symm.trans hpool)
    obtain rfl : accountRef = accountId :=
      Option.some.inj (hrows.account_eq.symm.trans hnamed)
    obtain rfl : account' = account :=
      Option.some.inj (hrows.lookup_account.symm.trans haccount)
    exact mem_activeProviderSummaries_iff.mpr
      ⟨(name, channel), hshows.mem_channels_iff.mpr hchannel, hrows.providerId⟩

/-- With settled rows every account is in use, and the active ones are summarised as the staged
ones are. -/
theorem accountSummaries (hshows : state.Shows config) :
    activeAccountSummaries state = stagedAccountSummaries document := by
  apply IdMap.eq_of_entries
  · intro key summary hsummary
    obtain ⟨id, account, haccount, rfl, rfl⟩ :=
      account_of_activeAccountSummaries hsettled.namesAccounts h hshows hsummary
    refine (lookup_stagedSummaries account_injective id).trans ?_
    rw [hsettled.lookup_account h haccount, Option.map_some]
  · intro key hmem
    obtain ⟨id, hid, rfl⟩ := (mem_stagedSummaries_iff account_injective).mp hmem
    obtain ⟨account, haccount⟩ := Finmap.mem_iff.mp hid
    obtain ⟨-, -, name, pool, hpool, hnamed⟩ := hsettled.accounts id account haccount
    obtain ⟨channel, hchannel, -⟩ := hsettled.channel_of_row h hpool
    obtain ⟨pool', accountRef, account', provider, hrows, -⟩ :=
      hsettled.exists_channelRows h hchannel
    obtain rfl : pool' = pool := Option.some.inj (hrows.lookup_pool.symm.trans hpool)
    obtain rfl : accountRef = id := Option.some.inj (hrows.account_eq.symm.trans hnamed)
    exact mem_activeAccountSummaries_iff.mpr
      ⟨(name, channel), hshows.mem_channels_iff.mpr hchannel, hrows.accountId⟩

/-- With settled rows every credential set is in use. -/
theorem credentialSetSummaries (hshows : state.Shows config) :
    activeCredentialSetSummaries state = stagedCredentialSetSummaries document := by
  apply IdMap.eq_of_entries
  -- a set that a channel uses is in the document
  · intro key summary hsummary
    obtain ⟨⟨name, channel⟩, hmem, rfl⟩ :=
      mem_activeCredentialSetSummaries_iff.mp (Finmap.mem_iff.mpr ⟨summary, hsummary⟩)
    obtain ⟨pool, accountRef, account, provider, hrows, hresolved⟩ :=
      hsettled.exists_channelRows h (hshows.mem_channels_iff.mp hmem)
    obtain ⟨setId, hset, hsetKey⟩ := h.row_of_credentialSet hresolved.credentialSet
    rw [(hsettled.credentialSets setId hset).1] at hsetKey
    obtain ⟨row, hrow⟩ := Finmap.mem_iff.mp (hsetKey ▸ hset)
    refine (lookup_stagedSummaries_id _).trans ?_
    rw [hrow]
    rfl
  -- and a set of the document is used by a channel
  · intro key hmem
    obtain ⟨id, hid, rfl⟩ := (mem_stagedSummaries_iff Function.injective_id).mp hmem
    obtain ⟨-, name, pool, hpool, rfl⟩ := hsettled.credentialSets id hid
    obtain ⟨channel, hchannel, hresolved⟩ := hsettled.channel_of_row h hpool
    refine mem_activeCredentialSetSummaries_iff.mpr
      ⟨(name, channel), hshows.mem_channels_iff.mpr hchannel, ?_⟩
    exact hresolved.credentialSetId.trans (hsettled.channels name pool hpool).credentialSet

/-- With settled rows the active routes are summarised as the staged ones are, target by target.
-/
theorem modelRouteSummaries (hshows : state.Shows config) (hroutes : ResolvedRoutes config) :
    activeModelRouteSummaries state = stagedModelRouteSummaries document := by
  apply Finmap.ext_lookup
  intro model
  rw [hshows.lookup_modelRouteSummaries hroutes]
  refine Eq.trans ?_ (lookup_stagedSummaries_id model).symm
  cases hroute : config.modelRoutes.lookup model with
  | none =>
      cases hrow : document.modelRoutes.lookup model with
      | none => rfl
      | some row =>
          obtain ⟨route, hfound, -⟩ := h.route_of_row hrow
          rw [hroute] at hfound
          cases hfound
  | some route =>
      obtain ⟨row, hrow, hresolved⟩ := h.row_of_route hroute
      rw [hrow, Option.map_some, Option.map_some,
        hresolved.summary_eq_iff.mpr (hsettled.targets model row hrow)]

/-- With settled rows the resolved policy profiles have the ids of the staged ones. -/
theorem policyProfileSummaries (hshows : state.Shows config)
    (hprofiles : ResolvedProfiles config) :
    activePolicyProfileSummaries state = stagedPolicyProfileSummaries document := by
  apply IdMap.eq_of_entries
  · intro key summary hsummary
    have hmem := (IdMap.mem_iff_of_lookup (hshows.lookup_policyProfileSummaries hprofiles key)).mp
      (Finmap.mem_iff.mpr ⟨summary, hsummary⟩)
    obtain ⟨profileId, hprofile, rfl⟩ := h.mem_policyProfiles_iff.mp hmem
    rw [hsettled.policyProfiles profileId hprofile]
    obtain ⟨row, hrow⟩ := Finmap.mem_iff.mp hprofile
    refine (lookup_stagedSummaries_id profileId).trans ?_
    rw [hrow]
    rfl
  · intro key hmem
    obtain ⟨_, hprofile, rfl⟩ := (mem_stagedSummaries_iff Function.injective_id).mp hmem
    exact (IdMap.mem_iff_of_lookup (hshows.lookup_policyProfileSummaries hprofiles _)).mpr
      (h.mem_policyProfiles_iff.mpr ⟨_, hprofile, hsettled.policyProfiles _ hprofile⟩)

/-- With settled rows the routing profiles are summarised as the staged ones are. -/
theorem routingProfileSummaries (hshows : state.Shows config)
    (hprofiles : ResolvedProfiles config) :
    activeRoutingProfileSummaries state = stagedRoutingProfileSummaries document := by
  apply IdMap.eq_of_entries
  · intro key summary hsummary
    rw [hshows.lookup_routingProfileSummaries hprofiles, Option.map_eq_some_iff] at hsummary
    obtain ⟨profile, hprofile, rfl⟩ := hsummary
    obtain ⟨profileId, row, hrow, rfl, hresolved⟩ := h.row_of_routingProfile hprofile
    rw [hsettled.routingProfiles profileId (Finmap.mem_iff.mpr ⟨row, hrow⟩)]
    refine (lookup_stagedSummaries_id profileId).trans ?_
    rw [hrow, Option.map_some, hresolved.summary_eq]
  · intro key hmem
    obtain ⟨profileId, hprofile, rfl⟩ := (mem_stagedSummaries_iff Function.injective_id).mp hmem
    obtain ⟨row, hrow⟩ := Finmap.mem_iff.mp hprofile
    obtain ⟨profile, hfound, -⟩ := h.routingProfile_of_row hrow
    rw [hsettled.routingProfiles profileId hprofile] at hfound
    exact (IdMap.mem_iff_of_lookup (hshows.lookup_routingProfileSummaries hprofiles _)).mpr
      (Finmap.mem_iff.mpr ⟨profile, hfound⟩)

end RegistryDocument.Settled

/-! ## §7. From the runtime back to the document. -/

/-- What the section of the channels says of a row. -/
theorem SummariesAgree.channel_of_row (hagree : SummariesAgree state document)
    (hshows : state.Shows config)
    (h : ResolvedBy environment document orders config poolConfigs sections) {name : String}
    {pool : PoolConfig} (hpool : document.pools.lookup name = some pool) :
    ∃ channel, config.pools.lookup name = some channel ∧
      ChannelResolved sections name pool channel ∧
      pool.Settled document.defaultRoutingProfile name ∧
      (ChannelTopologyProjection.fromPoolConfig (name, channel)).summary =
        channelSummary document pool := by
  have hlookup := hshows.lookup_channelSummaries name
  rw [hagree.channels] at hlookup
  have hstaged : (stagedChannelSummaries document).lookup name =
      some (channelSummary document pool) := by
    refine (lookup_stagedSummaries_id name).trans ?_
    rw [hpool]
    rfl
  rw [hstaged, eq_comm, Option.map_eq_some_iff] at hlookup
  obtain ⟨channel, hchannel, hsummary⟩ := hlookup
  -- the channel is there under the id as it is written, so the id is trimmed
  obtain ⟨rawName, _, -, hraw, -⟩ := h.row_of_channel hchannel
  have hname : trimString name = name := by rw [← hraw, trimString_trimString]
  obtain ⟨channel', hchannel', hresolved⟩ := h.channel_of_row hpool
  rw [hname] at hchannel' hresolved
  obtain rfl : channel' = channel := Option.some.inj (hchannel'.symm.trans hchannel)
  refine ⟨channel', hchannel, hresolved, ⟨hname, ?_, ?_, ?_⟩, hsummary⟩
  · -- without an account the staged id would be empty
    have haccount : channel'.accountId =
        (pool.account.map fun account => "account:" ++ account).getD "" :=
      congrArg ChannelSummary.accountId hsummary
    obtain ⟨accountId, hmark⟩ := accountId_of_resolvePoolAccount hresolved.account
    change channel'.accountId = "account:" ++ accountId at hmark
    have hnamed := accountRef_of_mark (hmark.symm.trans haccount)
    obtain ⟨account, provider, hupstream⟩ :=
      AccountResolved.of_resolvePoolAccount hresolved.account hnamed
    refine ⟨accountId, hnamed, ?_⟩
    exact account_injective (hupstream.accountId.symm.trans hmark)
  · exact hresolved.credentialSetId.symm.trans (congrArg ChannelSummary.credentialSetId hsummary)
  · intro raw hraw
    obtain ⟨raw', hraw', hprofile⟩ :=
      routingProfileId_eq hresolved.routingProfileId h.defaultRoutingProfile
    obtain rfl : raw' = raw := Option.some.inj (hraw'.symm.trans hraw)
    have hsame : channel'.routingProfileId =
        (pool.routingProfile.or document.defaultRoutingProfile).getD "" :=
      congrArg ChannelSummary.routingProfileId hsummary
    rw [hraw, hprofile] at hsame
    exact hsame

/-- And of a channel of the runtime: it has a row of its id, and an account row. -/
theorem SummariesAgree.row_of_channel (hagree : SummariesAgree state document)
    (hshows : state.Shows config)
    (h : ResolvedBy environment document orders config poolConfigs sections) {name : String}
    {channel : FullPoolConfig} (hchannel : config.pools.lookup name = some channel) :
    ∃ pool accountRef account, document.pools.lookup name = some pool ∧
      pool.Settled document.defaultRoutingProfile name ∧ pool.account = some accountRef ∧
      trimString accountRef = accountRef ∧ ChannelResolved sections name pool channel ∧
      sections.accounts.lookup accountRef = some account ∧
      channel.accountId = "account:" ++ accountRef ∧
      channel.providerId = "provider:" ++ account.provider := by
  obtain ⟨rawName, pool, hpool, hraw, -⟩ := h.row_of_channel hchannel
  obtain ⟨channel', hchannel', hresolved, hsettled, -⟩ :=
    hagree.channel_of_row hshows h hpool
  obtain rfl : rawName = name := hsettled.id_trimmed.symm.trans hraw
  obtain rfl : channel' = channel := Option.some.inj (hchannel'.symm.trans hchannel)
  obtain ⟨accountRef, hnamed, htrimmed⟩ := hsettled.account
  obtain ⟨account, provider, hupstream⟩ := hresolved.upstream hnamed
  rw [htrimmed] at hupstream
  exact ⟨pool, accountRef, account, hpool, hsettled, hnamed, htrimmed, hresolved,
    hupstream.lookup_account, hupstream.accountId_eq, hupstream.providerId_eq⟩

/-- An account row that the two sides agree on. -/
theorem SummariesAgree.account_of_row (hagree : SummariesAgree state document)
    (hshows : state.Shows config)
    (h : ResolvedBy environment document orders config poolConfigs sections) {id : String}
    {row : AccountConfig} (hrow : document.accounts.lookup id = some row) :
    trimString id = id ∧ trimString row.provider = row.provider ∧
      ∃ name pool, document.pools.lookup name = some pool ∧ pool.account = some id := by
  have hsummary : (activeAccountSummaries state).lookup ("account:" ++ id) =
      some (accountSummary row) := by
    rw [hagree.accounts]
    refine (lookup_stagedSummaries account_injective id).trans ?_
    rw [hrow]
    rfl
  obtain ⟨⟨name, channel⟩, hmem, hid, hprovider⟩ :=
    providerId_of_activeAccountSummaries hsummary
  obtain ⟨pool, accountRef, account, hpool, -, hnamed, htrimmed, -, haccount, haccountId,
    hproviderId⟩ := hagree.row_of_channel hshows h (hshows.mem_channels_iff.mp hmem)
  obtain rfl : accountRef = id := account_injective (haccountId.symm.trans hid)
  refine ⟨htrimmed, ?_, name, pool, hpool, hnamed⟩
  -- the provider of the runtime is trimmed, and the staged one has the same text
  obtain ⟨_, source, -, -, hsource⟩ := h.row_of_account haccount
  have hsame : row.provider = account.provider :=
    provider_injective (hprovider.trans hproviderId)
  rw [hsame, hsource, trimString_trimString]

theorem RegistryDocument.Settled.of_summariesAgree (hagree : SummariesAgree state document)
    (hshows : state.Shows config) (hroutes : ResolvedRoutes config)
    (hprofiles : ResolvedProfiles config)
    (h : ResolvedBy environment document orders config poolConfigs sections) :
    document.Settled where
  channels := by
    intro name pool hpool
    obtain ⟨channel, -, -, hsettled, -⟩ := hagree.channel_of_row hshows h hpool
    exact hsettled
  accounts := fun id row hrow => hagree.account_of_row hshows h hrow
  providers := by
    intro id hid
    have hmem : "provider:" ++ id ∈ activeProviderSummaries state := by
      rw [hagree.providers]
      exact (mem_stagedSummaries_iff provider_injective).mpr ⟨id, hid, rfl⟩
    -- a staged provider has an active channel, and that channel an account row
    obtain ⟨⟨name, channel⟩, hentry, hkey⟩ := mem_activeProviderSummaries_iff.mp hmem
    obtain ⟨pool, accountRef, account, -, -, -, -, -, haccount, -, hproviderId⟩ :=
      hagree.row_of_channel hshows h (hshows.mem_channels_iff.mp hentry)
    obtain rfl : account.provider = id := provider_injective (hproviderId.symm.trans hkey)
    obtain ⟨accountId, row, hrow, -, hsource⟩ := h.row_of_account haccount
    have hprovider : account.provider = row.provider := by
      rw [hsource]
      exact (hagree.account_of_row hshows h hrow).2.1
    refine ⟨?_, accountId, row, hrow, hprovider.symm⟩
    rw [hprovider]
    exact (hagree.account_of_row hshows h hrow).2.1
  credentialSets := by
    intro id hid
    have hmem : id ∈ activeCredentialSetSummaries state := by
      rw [hagree.credentialSets]
      exact (mem_stagedSummaries_iff Function.injective_id).mpr ⟨id, hid, rfl⟩
    obtain ⟨⟨name, channel⟩, hentry, rfl⟩ := mem_activeCredentialSetSummaries_iff.mp hmem
    obtain ⟨pool, _, _, hpool, hsettled, -, -, hresolved, -⟩ :=
      hagree.row_of_channel hshows h (hshows.mem_channels_iff.mp hentry)
    -- what the runtime names is the resolved set, and that the settled row
    have hset := hresolved.credentialSetId.trans hsettled.credentialSet
    refine ⟨?_, name, pool, hpool, hset.symm⟩
    show trimString channel.credentialSetId = channel.credentialSetId
    rw [hset, hsettled.credentialSet]
  policyProfiles := by
    intro id hid
    have hmem : id ∈ activePolicyProfileSummaries state := by
      rw [hagree.policyProfiles]
      exact (mem_stagedSummaries_iff Function.injective_id).mpr ⟨id, hid, rfl⟩
    have hprofile :=
      (IdMap.mem_iff_of_lookup (hshows.lookup_policyProfileSummaries hprofiles id)).mp hmem
    obtain ⟨rawId, -, rfl⟩ := h.mem_policyProfiles_iff.mp hprofile
    exact trimString_trimString rawId
  routingProfiles := by
    intro id hid
    have hmem : id ∈ activeRoutingProfileSummaries state := by
      rw [hagree.routingProfiles]
      exact (mem_stagedSummaries_iff Function.injective_id).mpr ⟨id, hid, rfl⟩
    obtain ⟨profile, hprofile⟩ := Finmap.mem_iff.mp
      ((IdMap.mem_iff_of_lookup (hshows.lookup_routingProfileSummaries hprofiles id)).mp hmem)
    obtain ⟨rawId, row, -, rfl, -⟩ := h.row_of_routingProfile hprofile
    exact trimString_trimString rawId
  targets := by
    intro model row hrow
    obtain ⟨route, hroute, hresolved⟩ := h.route_of_row hrow
    -- the summary of the runtime is that of the resolved route
    have hlookup := hshows.lookup_modelRouteSummaries hroutes model
    have hstaged : (stagedModelRouteSummaries document).lookup model =
        some (stagedModelRouteSummary row) := by
      refine (lookup_stagedSummaries_id model).trans ?_
      rw [hrow]
      rfl
    rw [hagree.modelRoutes, hstaged, hroute, Option.map_some, Option.some.injEq] at hlookup
    exact hresolved.summary_eq_iff.mp hlookup.symm

/-- The runtime of a document has the summaries of the document when it is settled. -/
theorem summariesAgree_iff_settled (hshows : state.Shows config)
    (hresolve : resolve environment document orders = .ok config) :
    SummariesAgree state document ↔ document.Settled := by
  obtain ⟨poolConfigs, sections, h⟩ := exists_resolvedBy hresolve
  have hroutes := ResolvedRoutes.of_resolve hresolve
  have hprofiles := ResolvedProfiles.of_resolvedBy h
  constructor
  · intro hagree
    exact .of_summariesAgree hagree hshows hroutes hprofiles h
  · intro hsettled
    exact {
      providers := hsettled.providerSummaries h hshows
      accounts := hsettled.accountSummaries h hshows
      credentialSets := hsettled.credentialSetSummaries h hshows
      channels := hsettled.channelSummaries h hshows
      modelRoutes := hsettled.modelRouteSummaries h hshows hroutes
      policyProfiles := hsettled.policyProfileSummaries h hshows hprofiles
      routingProfiles := hsettled.routingProfileSummaries h hshows hprofiles }

end Agreement

/-! ## §8. The diff after a reload. -/

/-- Only the resources of the staged document are staged. -/
theorem resolve_of_resolveStagedRegistryDocument {environment : ProcessEnvironment}
    {orders : ∀ document : RegistryDocument, SectionOrders document}
    {validationBootstrap document : RegistryDocument}
    (h : resolveStagedRegistryDocument environment orders validationBootstrap document =
      .ok config) :
    ∃ selection, environment = .ok selection ∧
      resolve selection (overlayStagedResources validationBootstrap document) (orders _) =
        .ok config := by
  unfold resolveStagedRegistryDocument at h
  cases hcompiled : compileWithProcessCredentialSource environment orders
      (overlayStagedResources validationBootstrap document) with
  | error message =>
      rw [hcompiled] at h
      cases h
  | ok resolved =>
      rw [hcompiled] at h
      cases h
      obtain ⟨selection, hselection, hresolve⟩ := bind_eq_ok.mp hcompiled
      exact ⟨selection, hselection, hresolve⟩

theorem settled_overlay_iff {validationBootstrap document : RegistryDocument} :
    (overlayStagedResources validationBootstrap document).Settled ↔ document.Settled :=
  ⟨fun h => ⟨h.channels, h.accounts, h.providers, h.credentialSets, h.policyProfiles,
      h.routingProfiles, h.targets⟩,
    fun h => ⟨h.channels, h.accounts, h.providers, h.credentialSets, h.policyProfiles,
      h.routingProfiles, h.targets⟩⟩

/-- The comparison reads resources only, so the document may as well be laid over the bootstrap
first. -/
theorem summariesAgree_overlay_iff {validationBootstrap document : RegistryDocument} :
    SummariesAgree state (overlayStagedResources validationBootstrap document) ↔
      SummariesAgree state document :=
  ⟨fun h => ⟨h.providers, h.accounts, h.credentialSets, h.channels, h.modelRoutes,
      h.policyProfiles, h.routingProfiles⟩,
    fun h => ⟨h.providers, h.accounts, h.credentialSets, h.channels, h.modelRoutes,
      h.policyProfiles, h.routingProfiles⟩⟩

/-- What a reload of a document leaves agrees with it exactly when it is settled. -/
theorem summariesAgree_after_reload {environment : ProcessEnvironment}
    {orders : ∀ document : RegistryDocument, SectionOrders document}
    {validationBootstrap document : RegistryDocument} {version : Option Nat}
    {inputs : RebuildInputs} {s s' : AppState ρ τ}
    (hresolve : resolveStagedRegistryDocument environment orders validationBootstrap document =
      .ok config)
    (hvisits : inputs.Visits config)
    (hrebuild : rebuildRuntimeFromResolvedConfig config version inputs s = (.ok (), s')) :
    SummariesAgree s' document ↔ document.Settled := by
  obtain ⟨selection, -, hselected⟩ := resolve_of_resolveStagedRegistryDocument hresolve
  have hiff := summariesAgree_iff_settled (AppState.shows_of_rebuild hvisits hrebuild) hselected
  rw [summariesAgree_overlay_iff, settled_overlay_iff] at hiff
  exact hiff

/-- Right after a reload of a document, the diff against that document reports nothing exactly
when the document is settled.  The two sides are made in different ways: the active one from
the channels that run, the staged one from the rows of the document.  A row that no channel
leads to is on one side only, and an id with blanks around it is another id there. -/
theorem reload_diff_empty_iff {environment : ProcessEnvironment}
    {orders : ∀ document : RegistryDocument, SectionOrders document}
    {validationBootstrap document : RegistryDocument} {config : FullResolvedConfig}
    (hresolve : resolveStagedRegistryDocument environment orders validationBootstrap document =
      .ok config)
    {version : Option Nat} {inputs : RebuildInputs} (hvisits : inputs.Visits config)
    {s s' : AppState ρ τ}
    (hrebuild : rebuildRuntimeFromResolvedConfig config version inputs s = (.ok (), s'))
    (stagedRegistryVersion : Option Nat) :
    (availableResponse s' (runtimeExplainResponse s' stagedRegistryVersion) document).NoChange ↔
      document.Settled := by
  rw [noChange_iff]
  exact summariesAgree_after_reload hresolve hvisits hrebuild

/-! One channel with all that it names, and then with a provider that nobody names. -/

theorem lookup_one_iff {β : Type} {id id' : String} {row row' : β} :
    ((⟨id, row⟩ :: [] : List (Σ _ : String, β)).toFinmap).lookup id' = some row' ↔
      id' = id ∧ row' = row := by
  rw [Finmap.dlookup_list_toFinmap]
  by_cases hid : id' = id
  · subst hid
    rw [List.dlookup_cons_eq, Option.some.injEq]
    exact ⟨fun hrow => ⟨rfl, hrow.symm⟩, fun hboth => hboth.2.symm⟩
  · rw [List.dlookup_cons_ne _ _ hid]
    exact iff_of_false nofun fun hboth => hid hboth.1

theorem spacedBootstrap_settled : spacedBootstrap.Settled where
  channels := by
    intro id pool hpool
    -- every section has one row
    obtain ⟨rfl, rfl⟩ := lookup_one_iff.mp hpool
    refine ⟨by decide, ⟨"main", rfl, by decide⟩, by decide, ?_⟩
    intro raw hraw
    obtain rfl : "sticky" = raw := Option.some.inj hraw
    decide
  accounts := by
    intro id account haccount
    obtain ⟨rfl, rfl⟩ := lookup_one_iff.mp haccount
    exact ⟨by decide, by decide, "chat", shadowedPool, rfl, rfl⟩
  providers := by
    intro id hid
    obtain ⟨provider, hprovider⟩ := Finmap.mem_iff.mp hid
    obtain ⟨rfl, -⟩ := lookup_one_iff.mp hprovider
    exact ⟨by decide, "main", _, rfl, rfl⟩
  credentialSets := by
    intro id hid
    obtain ⟨set, hset⟩ := Finmap.mem_iff.mp hid
    obtain ⟨rfl, -⟩ := lookup_one_iff.mp hset
    exact ⟨by decide, "chat", shadowedPool, rfl, rfl⟩
  policyProfiles := fun id hid => absurd hid Finmap.notMem_empty
  routingProfiles := by
    intro id hid
    obtain ⟨profile, hprofile⟩ := Finmap.mem_iff.mp hid
    obtain ⟨rfl, -⟩ := lookup_one_iff.mp hprofile
    decide
  targets := IdMap.forall_empty

/-- The document has blanks around no id and nothing that no channel leads to, so the diff is
empty after its reload. -/
theorem reload_diff_empty_iff_spaced :
    ∃ config s', resolveStagedRegistryDocument (.ok oneKeyEnvironment) sortedOrders
        spacedBootstrap spacedBootstrap = .ok config ∧
      rebuildRuntimeFromResolvedConfig config (some 2) (freshInputs config) emptyApp =
        (.ok (), s') ∧
      (availableResponse s' (runtimeExplainResponse s' (some 2)) spacedBootstrap).NoChange := by
  have hresolve : resolveStagedRegistryDocument (.ok oneKeyEnvironment) sortedOrders
    spacedBootstrap spacedBootstrap = .ok _ := rfl
  have hvisits : ∀ config, (freshInputs config).Visits config := fun _ => .refl _
  have hiff := @reload_diff_empty_iff String String _ _ _ _ _ hresolve (some 2)
    (freshInputs _) (hvisits _) emptyApp _ rfl (some 2)
  exact ⟨_, _, hresolve, rfl, hiff.mpr spacedBootstrap_settled⟩

/-- A second provider, which no channel uses. -/
def spareProviderDocument : RegistryDocument :=
  { spacedBootstrap with
    toRegistryResources := { spacedBootstrap.toRegistryResources with
      providers := [⟨"openai", ⟨.openAiCompatible, true⟩⟩,
        ⟨"spare", ⟨.genericHttp, true⟩⟩].toFinmap } }

/-- The spare provider has no channel, so the runtime does not show it, and the diff says that a
reload would add it, as it does after every reload. -/
theorem spare_provider_reported_after_reload :
    ¬ ∀ (environment : ProcessEnvironment)
        (orders : ∀ document : RegistryDocument, SectionOrders document)
        (validationBootstrap document : RegistryDocument) (config : FullResolvedConfig)
        (version : Option Nat) (inputs : RebuildInputs) (s s' : AppState String String)
        (stagedRegistryVersion : Option Nat),
      resolveStagedRegistryDocument environment orders validationBootstrap document =
        .ok config → inputs.Visits config →
      rebuildRuntimeFromResolvedConfig config version inputs s = (.ok (), s') →
      (availableResponse s' (runtimeExplainResponse s' stagedRegistryVersion)
        document).NoChange := by
  intro h
  have hresolve : resolveStagedRegistryDocument (.ok oneKeyEnvironment) sortedOrders
    spacedBootstrap spareProviderDocument = .ok _ := rfl
  have hvisits : ∀ config, (freshInputs config).Visits config := fun _ => .refl _
  have hnone := h _ _ _ _ _ (some 2) (freshInputs _) emptyApp _ (some 2) hresolve (hvisits _) rfl
  have hiff := @summariesAgree_after_reload String String _ _ _ _ _ (some 2) (freshInputs _)
    emptyApp _ hresolve (hvisits _) rfl
  have hsettled := hiff.mp (noChange_iff.mp hnone)
  -- the provider would have to be the one of the only account
  obtain ⟨-, accountId, account, haccount, hprovider⟩ :=
    hsettled.providers "spare" (by decide)
  obtain ⟨-, rfl⟩ := lookup_one_iff.mp haccount
  revert hprovider
  decide

end OneAiKey
