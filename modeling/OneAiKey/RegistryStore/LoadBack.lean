/-
  OneAiKey.RegistryStore.LoadBack — what a command leaves in the registry store, and
  what the loader makes of it (`src/registry_store.rs`).

  A command is validated on a document in memory and written to the rows on its own.
  The validator trims the ids that a channel or an account refers to; the loader joins
  the rows by the ids as they are written.

  Main results:
    * `loadRegistryResources_eq_ok` — a store is loaded when its sections are and every
      channel can be joined;
    * `resolve_alike` — channels that show the same rows resolve to the same
      configurations;
    * `loads_back_iff` — what a command leaves can be loaded back exactly when the ids
      that the command refers to are ids of rows as they are written;
    * `accepted_commands_load_back` — and so in every state that the store reaches; a
      store that was only given such commands always loads.
-/
import OneAiKey.RegistryStore
import OneAiKey.Resolve.Order

namespace OneAiKey

open Collect

/-! ## §1. Reading a table of the store. -/

section Reading

variable {β ρ : Type}

/-- A table is read row by row in the order of its keys; it is read exactly if every row is. -/
theorem readTable_sortedEntries_iff {decode : String → ρ → Except RusqliteError β}
    {table : IdMap ρ} {m : IdMap β} :
    readTable decode (IdMap.sortedEntries table) = .ok m ↔ ReadsAs decode table m := by
  have hnodup : ((IdMap.sortedEntries table).map Prod.fst).Nodup := by
    rw [IdMap.map_fst_sortedEntries]
    exact IdMap.nodup_sortedKeys table
  rw [readTable_eq_ok_iff hnodup, IdMap.map_fst_sortedEntries]
  -- a key is in the table and in what was read, or in neither
  constructor
  · rintro ⟨hrows, hother⟩ key
    cases hrow : table.lookup key with
    | none =>
        have hmem : key ∉ IdMap.sortedKeys table := by
          rw [IdMap.mem_sortedKeys]
          exact Finmap.lookup_eq_none.mp hrow
        rw [hother key hmem]
        exact .none
    | some row =>
        obtain ⟨value, hdecode, hvalue⟩ := hrows (key, row) (IdMap.mem_sortedEntries.mpr hrow)
        rw [hvalue]
        exact .some hdecode
  · intro h
    constructor
    · intro entry hentry
      obtain ⟨value, hvalue, hdecode⟩ := h.exists_value (IdMap.mem_sortedEntries.mp hentry)
      exact ⟨value, hdecode, hvalue⟩
    · intro key hkey
      apply Finmap.lookup_eq_none.mpr
      intro hmem
      exact hkey (IdMap.mem_sortedKeys.mpr (h.mem_iff.mp hmem))

/-- A table is read when each of its rows is. -/
theorem exists_readsAs {decode : String → ρ → Except RusqliteError β} {table : IdMap ρ}
    (h : ∀ key row, table.lookup key = some row → ∃ value, decode key row = .ok value) :
    ∃ m, ReadsAs decode table m := by
  have hentries : ∀ entry ∈ IdMap.sortedEntries table, ∃ key value,
      (do let value ← decode entry.1 entry.2; return (entry.1, value) :
        Except RusqliteError (String × β)) = .ok (key, value) := by
    intro entry hentry
    obtain ⟨value, hvalue⟩ := h entry.1 entry.2 (IdMap.mem_sortedEntries.mp hentry)
    exact ⟨entry.1, value, bind_eq_ok.mpr ⟨value, hvalue, rfl⟩⟩
  obtain ⟨m, hm⟩ := exists_collect hentries ∅
  exact ⟨m, readTable_sortedEntries_iff.mp hm⟩

end Reading

/-! ## §2. Loading, section by section. -/

/-- The sections of the resources are what the rows say; the channels aside. -/
structure SectionsRead (rows : RegistryRows) (resources : RegistryResources) : Prop where
  defaultPool : resources.defaultPool = (loadRegistryDefaults rows).defaultPool
  providers : ReadsAs (fun _ => loadProvider) rows.providers resources.providers
  accounts : resources.accounts = rows.accounts
  credentialSets : ReadsAs (fun _ => loadCredentialSet) rows.credentialSets
    resources.credentialSets
  policyProfiles : resources.policyProfiles = rows.policyProfiles
  defaultRoutingProfile :
    resources.defaultRoutingProfile = (loadRegistryDefaults rows).defaultRoutingProfile
  routingProfiles : resources.routingProfiles = rows.routingProfiles
  modelRoutes : ReadsAs (loadModelRoute rows.modelRouteTargets) rows.modelRoutes
    resources.modelRoutes

/-- The resources are loaded exactly if every section is read, and the channels with the accounts
and providers they refer to. -/
theorem loadRegistryResources_eq_ok {rows : RegistryRows} {resources : RegistryResources} :
    loadRegistryResources rows = .ok resources ↔ SectionsRead rows resources ∧
      ReadsAs (fun _ => loadChannel rows.accounts resources.providers) rows.channels
        resources.pools := by
  constructor
  · intro h
    unfold loadRegistryResources at h
    -- table by table
    obtain ⟨providers, hproviders, h⟩ := bind_eq_ok.mp h
    obtain ⟨credentialSets, hsets, h⟩ := bind_eq_ok.mp h
    obtain ⟨pools, hpools, h⟩ := bind_eq_ok.mp h
    obtain ⟨modelRoutes, hroutes, h⟩ := bind_eq_ok.mp h
    obtain rfl := Except.ok.inj h
    rw [readTable_sortedEntries_iff] at hproviders hsets hpools hroutes
    exact ⟨⟨rfl, hproviders, rfl, hsets, rfl, rfl, rfl, hroutes⟩, hpools⟩
  · rintro ⟨h, hpools⟩
    obtain ⟨defaultPool, providers, accounts, credentialSets, policyProfiles,
      defaultRoutingProfile, routingProfiles, modelRoutes, pools⟩ := resources
    obtain ⟨rfl, hproviders, rfl, hsets, rfl, rfl, rfl, hroutes⟩ := h
    unfold loadRegistryResources
    exact bind_eq_ok.mpr ⟨providers, readTable_sortedEntries_iff.mpr hproviders,
      bind_eq_ok.mpr ⟨credentialSets, readTable_sortedEntries_iff.mpr hsets,
      bind_eq_ok.mpr ⟨pools, readTable_sortedEntries_iff.mpr hpools,
      bind_eq_ok.mpr ⟨modelRoutes, readTable_sortedEntries_iff.mpr hroutes, rfl⟩⟩⟩⟩

/-- The two lookups of the loader: the account, and the account's provider. -/
def RegistryRows.Joins (rows : RegistryRows) (accountId : String) : Prop :=
  ∃ account, rows.accounts.lookup accountId = some account ∧ account.provider ∈ rows.providers

/-- Every channel can be joined. -/
def RegistryRows.Joined (rows : RegistryRows) : Prop :=
  ∀ id row, rows.channels.lookup id = some row → rows.Joins row.accountId

/-- A join that finds nothing is an error. -/
theorem joined_eq_ok {β : Type} {x : Option β} {value : β} :
    joined x = .ok value ↔ x = some value := by
  cases x with
  | none => simp [joined]
  | some value' => simp [joined]

/-- A channel shows its row: the fields that are stored, and its account. -/
structure Shows (row : ChannelRow) (pool : PoolConfig) : Prop where
  account : pool.account = some row.accountId
  row : channelRow pool = row

/-- A loaded channel shows its row, and its account and provider are there. -/
theorem loadChannel_eq_ok {accounts : IdMap AccountConfig} {providers : IdMap ProviderConfig}
    {row : ChannelRow} {pool : PoolConfig} (h : loadChannel accounts providers row = .ok pool) :
    Shows row pool ∧ ∃ account, accounts.lookup row.accountId = some account ∧
      account.provider ∈ providers := by
  unfold loadChannel at h
  obtain ⟨account, haccount, h⟩ := bind_eq_ok.mp h
  obtain ⟨provider, hprovider, h⟩ := bind_eq_ok.mp h
  obtain rfl := Except.ok.inj h
  refine ⟨⟨rfl, rfl⟩, account, joined_eq_ok.mp haccount, ?_⟩
  exact Finmap.mem_iff.mpr ⟨provider, joined_eq_ok.mp hprovider⟩

/-- That they are there is all that a channel needs to be loaded. -/
theorem exists_loadChannel {accounts : IdMap AccountConfig} {providers : IdMap ProviderConfig}
    {row : ChannelRow} {account : AccountConfig}
    (haccount : accounts.lookup row.accountId = some account)
    (hprovider : account.provider ∈ providers) :
    ∃ pool, loadChannel accounts providers row = .ok pool := by
  obtain ⟨provider, hprovider⟩ := Finmap.mem_iff.mp hprovider
  unfold loadChannel
  refine ⟨_, bind_eq_ok.mpr ⟨account, joined_eq_ok.mpr haccount,
    bind_eq_ok.mpr ⟨provider, joined_eq_ok.mpr hprovider, rfl⟩⟩⟩

/-- The channels that are read show their rows, and could be joined. -/
theorem shown_of_readsAs {rows : RegistryRows} {resources : RegistryResources}
    (h : SectionsRead rows resources)
    (hpools : ReadsAs (fun _ => loadChannel rows.accounts resources.providers) rows.channels
      resources.pools) :
    RelatedMaps Shows rows.channels resources.pools ∧ rows.Joined := by
  constructor
  · intro id
    have hid := hpools id
    cases hrow : rows.channels.lookup id with
    | none =>
        rw [hrow] at hid
        cases hpool : resources.pools.lookup id with
        | none => exact .none
        | some pool => simp [hpool] at hid
    | some row =>
        obtain ⟨pool, hpool, hload⟩ := hpools.exists_value hrow
        rw [hpool]
        exact .some (loadChannel_eq_ok hload).1
  · intro id row hrow
    obtain ⟨pool, -, hload⟩ := hpools.exists_value hrow
    obtain ⟨-, account, haccount, hprovider⟩ := loadChannel_eq_ok hload
    exact ⟨account, haccount, h.providers.mem_iff.mp hprovider⟩

/-- With the sections read, the channels are when they can be joined. -/
theorem exists_pools_of_joined {rows : RegistryRows} {resources : RegistryResources}
    (h : SectionsRead rows resources) (hjoined : rows.Joined) :
    ∃ pools, loadRegistryResources rows = .ok { resources with pools } ∧
      RelatedMaps Shows rows.channels pools := by
  have hrows : ∀ id row, rows.channels.lookup id = some row →
      ∃ pool, loadChannel rows.accounts resources.providers row = .ok pool := by
    intro id row hrow
    obtain ⟨account, haccount, hprovider⟩ := hjoined id row hrow
    exact exists_loadChannel haccount (h.providers.mem_iff.mpr hprovider)
  obtain ⟨pools, hpools⟩ :=
    @exists_readsAs _ _ (fun _ => loadChannel rows.accounts resources.providers) _ hrows
  have hsections : SectionsRead rows { resources with pools } :=
    ⟨h.defaultPool, h.providers, h.accounts, h.credentialSets, h.policyProfiles,
      h.defaultRoutingProfile, h.routingProfiles, h.modelRoutes⟩
  exact ⟨pools, loadRegistryResources_eq_ok.mpr ⟨hsections, hpools⟩,
    (shown_of_readsAs hsections hpools).1⟩

/-! ## §3. What a command writes. -/

section Update

variable {β : Type} {m : IdMap β}

theorem IdMap.lookup_update_self (key : String) (f : β → β) :
    (IdMap.update m key f).lookup key = (m.lookup key).map f := by
  unfold IdMap.update
  split <;> simp_all

theorem IdMap.lookup_update_of_ne {key key' : String} (f : β → β) (h : key' ≠ key) :
    (IdMap.update m key f).lookup key' = m.lookup key' := by
  unfold IdMap.update
  split
  · exact Finmap.lookup_insert_of_ne m h
  · rfl

theorem IdMap.mem_update {key key' : String} {f : β → β} :
    key' ∈ IdMap.update m key f ↔ key' ∈ m := by
  by_cases h : key' = key
  · subst h
    rw [Finmap.mem_iff, Finmap.mem_iff, IdMap.lookup_update_self]
    simp
  · rw [Finmap.mem_iff, Finmap.mem_iff, IdMap.lookup_update_of_ne f h]

/-- Enabling changes one row, which has to be there. -/
theorem enable_eq_ok {m' : IdMap β} {kind id : String} {f : β → β} :
    enable m kind id f = .ok m' ↔ ∃ value, m.lookup id = some value ∧ m' = m.insert id (f value) := by
  unfold enable
  cases m.lookup id with
  | none => simp
  | some value => simp [eq_comm]

end Update

/-- A batch of routes writes the two tables of the routes. -/
theorem upsertModelRoutes_eq (routes : List (String × ModelRouteConfig)) (rows : RegistryRows) :
    routes.foldl (fun rows route => upsertModelRoute rows route.1 route.2) rows =
      { rows with
        modelRoutes := routes.foldl (fun m route => m.insert route.1 route.2.strategy)
          rows.modelRoutes
        modelRouteTargets := routes.foldl (fun m route => m.insert route.1 route.2.targets)
          rows.modelRouteTargets } := by
  induction routes generalizing rows with
  | nil => rfl
  | cons route routes ih =>
      rw [List.foldl_cons, ih]
      rfl

/-- A command leaves the versions alone. -/
theorem RegistryCommand.registryVersions_write (command : RegistryCommand)
    (rows : RegistryRows) : (command.write rows).registryVersions = rows.registryVersions := by
  cases command with
  | upsertModelRouteBatch expected routes =>
      show (routes.foldl (fun rows route => OneAiKey.upsertModelRoute rows route.1 route.2)
        rows).registryVersions = _
      rw [upsertModelRoutes_eq]
  | _ => rfl

/-- The version grows by one. -/
theorem currentRegistryVersion_written (command : RegistryCommand) (rows : RegistryRows) :
    currentRegistryVersion
        (command.write (insertRegistryVersion rows (currentRegistryVersion rows + 1))) =
      currentRegistryVersion rows + 1 := by
  show (command.write _).registryVersions.foldr max 0 = _
  rw [RegistryCommand.registryVersions_write]
  show max (currentRegistryVersion rows + 1) (currentRegistryVersion rows) = _
  omega

/-- A batch that is not refused stages its routes. -/
theorem RegistryCommand.staged_of_batch {expected : Option Nat}
    {routes : List (String × ModelRouteConfig)} {currentVersion : Nat}
    {document staged : RegistryDocument}
    (h : (upsertModelRouteBatch expected routes).stage currentVersion document = .ok staged) :
    staged = { document with
      modelRoutes := routes.foldl (fun m route => m.insert route.1 route.2)
        document.modelRoutes } := by
  dsimp only [RegistryCommand.stage] at h
  split at h
  · cases h
  · exact (Except.ok.inj h).symm

/-! ### The sections. -/

/-- A new version touches no section. -/
theorem SectionsRead.insertRegistryVersion {rows : RegistryRows}
    {resources : RegistryResources} (h : SectionsRead rows resources) (version : Nat) :
    SectionsRead (insertRegistryVersion rows version) resources :=
  ⟨h.defaultPool, h.providers, h.accounts, h.credentialSets, h.policyProfiles,
    h.defaultRoutingProfile, h.routingProfiles, h.modelRoutes⟩

/-- A row keeps its kind when it is set enabled or disabled. -/
theorem loadProvider_enabled {row : ProviderRow} {provider : ProviderConfig}
    (h : loadProvider row = .ok provider) (enabled : Bool) :
    loadProvider { row with enabled } = .ok { provider with enabled } := by
  unfold loadProvider at h ⊢
  obtain ⟨kind, hkind, h⟩ := bind_eq_ok.mp h
  obtain rfl := Except.ok.inj h
  exact bind_eq_ok.mpr ⟨kind, hkind, rfl⟩

/-- A provider is read as it was written. -/
theorem loadProvider_providerRow (provider : ProviderConfig) :
    loadProvider (providerRow provider) = .ok provider := by
  obtain ⟨kind, enabled⟩ := provider
  cases kind <;> rfl

/-- A route and its targets are written together. -/
theorem SectionsRead.upsertModelRoute {rows : RegistryRows} {resources : RegistryResources}
    (h : SectionsRead rows resources) (publicModel : String) (route : ModelRouteConfig) :
    SectionsRead (upsertModelRoute rows publicModel route)
      { resources with modelRoutes := resources.modelRoutes.insert publicModel route } := by
  refine ⟨h.defaultPool, h.providers, h.accounts, h.credentialSets, h.policyProfiles,
    h.defaultRoutingProfile, h.routingProfiles, ?_⟩
  intro key
  show Option.Rel (fun strategy value => loadModelRoute
      (rows.modelRouteTargets.insert publicModel route.targets) key strategy = .ok value)
    ((rows.modelRoutes.insert publicModel route.strategy).lookup key)
    ((resources.modelRoutes.insert publicModel route).lookup key)
  unfold loadModelRoute
  by_cases hkey : key = publicModel
  · subst hkey
    rw [Finmap.lookup_insert, Finmap.lookup_insert, Finmap.lookup_insert]
    exact .some rfl
  · rw [Finmap.lookup_insert_of_ne _ hkey, Finmap.lookup_insert_of_ne _ hkey,
      Finmap.lookup_insert_of_ne _ hkey]
    exact h.modelRoutes key

/-- Routes that are written one by one are read as the last of each name. -/
theorem SectionsRead.upsertModelRoutes {rows : RegistryRows} {resources : RegistryResources}
    (h : SectionsRead rows resources) (routes : List (String × ModelRouteConfig)) :
    SectionsRead (routes.foldl (fun rows route => OneAiKey.upsertModelRoute rows route.1 route.2)
        rows)
      { resources with
        modelRoutes := routes.foldl (fun m route => m.insert route.1 route.2)
          resources.modelRoutes } := by
  induction routes generalizing rows resources with
  | nil => exact h
  | cons route routes ih => exact ih (h.upsertModelRoute route.1 route.2)

/-- What a command makes of the document is what its rows say; the channels aside. -/
theorem SectionsRead.write {rows : RegistryRows} {document staged : RegistryDocument}
    {command : RegistryCommand} {currentVersion : Nat}
    (h : SectionsRead rows document.toRegistryResources)
    (hstage : command.stage currentVersion document = .ok staged) :
    SectionsRead (command.write rows) staged.toRegistryResources := by
  obtain ⟨hpool, hproviders, haccounts, hsets, hpolicies, hdefault, hrouting, hroutes⟩ := id h
  cases command with
  -- the row of a provider is not the provider: it is read back through the loader
  | setProviderEnabled id enabled =>
      obtain ⟨providers, henable, hstage⟩ := bind_eq_ok.mp hstage
      obtain rfl := Except.ok.inj hstage
      obtain ⟨provider, hprovider, rfl⟩ := enable_eq_ok.mp henable
      obtain ⟨row, hrow, hload⟩ := hproviders.exists_row hprovider
      have hupdate := IdMap.update_of_lookup (fun row : ProviderRow => { row with enabled }) hrow
      refine ⟨hpool, ?_, haccounts, hsets, hpolicies, hdefault, hrouting, hroutes⟩
      show ReadsAs _ (IdMap.update rows.providers id ({ · with enabled })) _
      rw [hupdate]
      exact hproviders.insert (loadProvider_enabled hload enabled)
  | upsertProvider id provider =>
      obtain rfl := Except.ok.inj hstage
      exact ⟨hpool, hproviders.insert (loadProvider_providerRow provider), haccounts, hsets,
        hpolicies, hdefault, hrouting, hroutes⟩
  | setAccountEnabled id enabled =>
      obtain ⟨accounts, henable, hstage⟩ := bind_eq_ok.mp hstage
      obtain rfl := Except.ok.inj hstage
      obtain ⟨account, haccount, rfl⟩ := enable_eq_ok.mp henable
      refine ⟨hpool, hproviders, ?_, hsets, hpolicies, hdefault, hrouting, hroutes⟩
      rw [haccounts] at haccount
      show document.accounts.insert id _ = IdMap.update rows.accounts id _
      rw [haccounts, IdMap.update_of_lookup _ haccount]
  | upsertAccount id account =>
      obtain rfl := Except.ok.inj hstage
      refine ⟨hpool, hproviders, ?_, hsets, hpolicies, hdefault, hrouting, hroutes⟩
      show document.accounts.insert id account = rows.accounts.insert id account
      rw [haccounts]
  -- channels are no section of the resources
  | setChannelEnabled id enabled =>
      obtain ⟨pools, -, hstage⟩ := bind_eq_ok.mp hstage
      obtain rfl := Except.ok.inj hstage
      exact ⟨hpool, hproviders, haccounts, hsets, hpolicies, hdefault, hrouting, hroutes⟩
  | upsertChannel id channel =>
      obtain rfl := Except.ok.inj hstage
      exact ⟨hpool, hproviders, haccounts, hsets, hpolicies, hdefault, hrouting, hroutes⟩
  | upsertModelRoute publicModel route =>
      obtain rfl := Except.ok.inj hstage
      exact h.upsertModelRoute publicModel route
  | upsertModelRouteBatch expected routes =>
      obtain rfl := RegistryCommand.staged_of_batch hstage
      exact h.upsertModelRoutes routes
  | upsertPolicyProfile id profile =>
      obtain rfl := Except.ok.inj hstage
      refine ⟨hpool, hproviders, haccounts, hsets, ?_, hdefault, hrouting, hroutes⟩
      show document.policyProfiles.insert id profile = rows.policyProfiles.insert id profile
      rw [hpolicies]
  | upsertRoutingProfile id profile =>
      obtain rfl := Except.ok.inj hstage
      refine ⟨hpool, hproviders, haccounts, hsets, hpolicies, hdefault, ?_, hroutes⟩
      show document.routingProfiles.insert id profile = rows.routingProfiles.insert id profile
      rw [hrouting]

/-! ### The channels. -/

/-- Enabling a row and enabling what it shows is the same. -/
theorem Shows.enabled {row : ChannelRow} {pool : PoolConfig} (h : Shows row pool)
    (enabled : Bool) : Shows { row with enabled } { pool with enabled } := by
  obtain ⟨haccount, rfl⟩ := h
  exact ⟨haccount, rfl⟩

/-- The channels of the staged document show the rows that are written, unless a channel
has no account. -/
theorem shows_written {rows : RegistryRows} {document staged : RegistryDocument}
    {command : RegistryCommand} {currentVersion : Nat}
    (h : RelatedMaps Shows rows.channels document.pools)
    (haccount : ∀ id channel, command = .upsertChannel id channel →
      ∃ accountId, channel.account = some accountId)
    (hstage : command.stage currentVersion document = .ok staged) :
    RelatedMaps Shows (command.write rows).channels staged.pools := by
  cases command with
  | setProviderEnabled id enabled =>
      obtain ⟨providers, -, hstage⟩ := bind_eq_ok.mp hstage
      obtain rfl := Except.ok.inj hstage
      exact h
  | setAccountEnabled id enabled =>
      obtain ⟨accounts, -, hstage⟩ := bind_eq_ok.mp hstage
      obtain rfl := Except.ok.inj hstage
      exact h
  | setChannelEnabled id enabled =>
      obtain ⟨pools, henable, hstage⟩ := bind_eq_ok.mp hstage
      obtain rfl := Except.ok.inj hstage
      obtain ⟨pool, hpool, rfl⟩ := enable_eq_ok.mp henable
      have hid := h id
      rw [hpool] at hid
      cases hrow : rows.channels.lookup id with
      | none => simp [hrow] at hid
      | some row =>
          rw [hrow] at hid
          cases hid with
          | some hshows =>
              show RelatedMaps Shows (IdMap.update rows.channels id ({ · with enabled })) _
              -- the row and the staged channel get the same flag
              rw [IdMap.update_of_lookup _ hrow]
              exact h.insert (hshows.enabled enabled)
  | upsertChannel id channel =>
      obtain rfl := Except.ok.inj hstage
      obtain ⟨accountId, hid⟩ := haccount id channel rfl
      have hshows : Shows (channelRow channel) channel := by
        refine ⟨?_, rfl⟩
        show channel.account = some (channel.account.getD "")
        rw [hid]
        rfl
      exact h.insert hshows
  | upsertModelRouteBatch expected routes =>
      obtain rfl := RegistryCommand.staged_of_batch hstage
      show RelatedMaps Shows (routes.foldl (fun rows route =>
        OneAiKey.upsertModelRoute rows route.1 route.2) rows).channels document.pools
      rw [upsertModelRoutes_eq]
      exact h
  | upsertProvider | upsertAccount | upsertModelRoute | upsertPolicyProfile
  | upsertRoutingProfile =>
      obtain rfl := Except.ok.inj hstage
      exact h

/-! ## §4. The ids that a command refers to. -/

/-- The ids that a command refers to are ids of rows, as they are written. -/
def RegistryCommand.RefersExactly (command : RegistryCommand) (rows : RegistryRows) : Prop :=
  match command with
  | upsertChannel _ channel => ∃ accountId, channel.account = some accountId ∧
      rows.Joins accountId
  | upsertAccount accountId account =>
      (∃ channelId row, rows.channels.lookup channelId = some row ∧
        row.accountId = accountId) → account.provider ∈ rows.providers
  | _ => True

/-- Accounts that keep their providers are joined as before. -/
theorem RegistryRows.Joins.mono {rows rows' : RegistryRows} {accountId : String}
    (h : rows.Joins accountId)
    (haccount : ∀ account, rows.accounts.lookup accountId = some account →
      ∃ account', rows'.accounts.lookup accountId = some account' ∧
        account'.provider = account.provider)
    (hprovider : ∀ id, id ∈ rows.providers → id ∈ rows'.providers) :
    rows'.Joins accountId := by
  obtain ⟨account, hlookup, hmem⟩ := h
  obtain ⟨account', hlookup', heq⟩ := haccount account hlookup
  refine ⟨account', hlookup', ?_⟩
  rw [heq]
  exact hprovider _ hmem

/-- Behind an account that is written, every channel of another account is joined as before. -/
theorem joins_upsertAccount {rows : RegistryRows} {id accountId : String}
    {account : AccountConfig} :
    ((RegistryCommand.upsertAccount id account).write rows).Joins accountId ↔
      if accountId = id then account.provider ∈ rows.providers else rows.Joins accountId := by
  show (∃ account', (rows.accounts.insert id account).lookup accountId = some account' ∧
    account'.provider ∈ rows.providers) ↔ _
  by_cases h : accountId = id
  · subst h
    rw [Finmap.lookup_insert, if_pos rfl]
    simp
  · rw [Finmap.lookup_insert_of_ne _ h, if_neg h]
    exact Iff.rfl

/-- Rows whose channels could be joined can be again exactly when the command's ids are ids
of rows. -/
theorem joined_write_iff {rows : RegistryRows} (command : RegistryCommand)
    (h : rows.Joined) (hempty : "" ∉ rows.accounts) :
    (command.write rows).Joined ↔ command.RefersExactly rows := by
  cases command with
  | setProviderEnabled id enabled =>
      refine iff_of_true (fun channelId row hrow => ?_) trivial
      exact (h channelId row hrow).mono (fun account haccount => ⟨account, haccount, rfl⟩)
        fun providerId hmem => IdMap.mem_update.mpr hmem
  | upsertProvider id provider =>
      refine iff_of_true (fun channelId row hrow => ?_) trivial
      exact (h channelId row hrow).mono (fun account haccount => ⟨account, haccount, rfl⟩)
        fun providerId hmem => Finmap.mem_insert.mpr (Or.inr hmem)
  | setAccountEnabled id enabled =>
      refine iff_of_true (fun channelId row hrow => ?_) trivial
      refine (h channelId row hrow).mono (fun account haccount => ?_) fun _ hmem => hmem
      by_cases hid : row.accountId = id
      · refine ⟨{ account with enabled }, ?_, rfl⟩
        show (IdMap.update rows.accounts id _).lookup row.accountId = _
        rw [hid] at haccount ⊢
        rw [IdMap.lookup_update_self, haccount]
        rfl
      · refine ⟨account, ?_, rfl⟩
        show (IdMap.update rows.accounts id _).lookup row.accountId = _
        rw [IdMap.lookup_update_of_ne _ hid, haccount]
  | upsertAccount id account =>
      constructor
      · rintro hjoined ⟨channelId, row, hrow, hid⟩
        have hjoins := joins_upsertAccount.mp (hjoined channelId row hrow)
        rw [if_pos hid] at hjoins
        exact hjoins
      · intro hrefers channelId row hrow
        apply joins_upsertAccount.mpr
        by_cases hid : row.accountId = id
        · rw [if_pos hid]
          exact hrefers ⟨channelId, row, hrow, hid⟩
        · rw [if_neg hid]
          exact h channelId row hrow
  | setChannelEnabled id enabled =>
      refine iff_of_true (fun channelId row hrow => ?_) trivial
      -- the row keeps its account
      have hrow' : (IdMap.update rows.channels id ({ · with enabled })).lookup channelId =
        some row := hrow
      by_cases hid : channelId = id
      · rw [hid, IdMap.lookup_update_self] at hrow'
        obtain ⟨row', hlookup, rfl⟩ := Option.map_eq_some_iff.mp hrow'
        exact h id row' hlookup
      · rw [IdMap.lookup_update_of_ne _ hid] at hrow'
        exact h channelId row hrow'
  | upsertChannel id channel =>
      constructor
      · intro hjoined
        have hjoins : rows.Joins (channel.account.getD "") :=
          hjoined id (channelRow channel) (Finmap.lookup_insert _)
        cases haccount : channel.account with
        | some accountId =>
            rw [haccount] at hjoins
            exact ⟨accountId, haccount, hjoins⟩
        | none =>
            rw [haccount] at hjoins
            obtain ⟨account, hlookup, -⟩ := hjoins
            exact absurd (Finmap.mem_iff.mpr ⟨account, hlookup⟩) hempty
      · rintro ⟨accountId, haccount, hjoins⟩ channelId row hrow
        have hrow' : (rows.channels.insert id (channelRow channel)).lookup channelId =
          some row := hrow
        by_cases hid : channelId = id
        · subst hid
          rw [Finmap.lookup_insert] at hrow'
          obtain rfl := Option.some.inj hrow'
          show rows.Joins (channel.account.getD "")
          rw [haccount]
          exact hjoins
        · rw [Finmap.lookup_insert_of_ne _ hid] at hrow'
          exact h channelId row hrow'
  | upsertModelRouteBatch expected routes =>
      refine iff_of_true ?_ trivial
      show (routes.foldl (fun rows route => OneAiKey.upsertModelRoute rows route.1 route.2)
        rows).Joined
      rw [upsertModelRoutes_eq]
      exact h
  | upsertModelRoute | upsertPolicyProfile | upsertRoutingProfile =>
      exact iff_of_true h trivial

/-! ## §5. Channels that show the same row. -/

/-- Two channels of one row: they can differ in what is taken from the account. -/
def SameRow (pool pool' : PoolConfig) : Prop := ∃ row, Shows row pool ∧ Shows row pool'

/-- Two maps that show the same rows agree in all that a row has. -/
theorem relatedMaps_sameRow {channels : IdMap ChannelRow} {pools pools' : IdMap PoolConfig}
    (h : RelatedMaps Shows channels pools) (h' : RelatedMaps Shows channels pools') :
    RelatedMaps SameRow pools pools' := by
  intro id
  have hid := h id
  have hid' := h' id
  -- both show the row, where there is one
  cases hrow : channels.lookup id with
  | none =>
      rw [hrow] at hid hid'
      generalize pools.lookup id = pool at hid ⊢
      generalize pools'.lookup id = pool' at hid' ⊢
      cases hid
      cases hid'
      exact .none
  | some row =>
      rw [hrow] at hid hid'
      generalize pools.lookup id = pool at hid ⊢
      generalize pools'.lookup id = pool' at hid' ⊢
      cases hid with
      | some hshows =>
          cases hid' with
          | some hshows' => exact .some ⟨row, hshows, hshows'⟩

/-- The agreement is symmetric. -/
theorem RelatedMaps.symm_sameRow {pools pools' : IdMap PoolConfig}
    (h : RelatedMaps SameRow pools pools') : RelatedMaps SameRow pools' pools := by
  intro id
  have hid := h id
  generalize pools.lookup id = pool at hid ⊢
  generalize pools'.lookup id = pool' at hid ⊢
  cases hid with
  | none => exact .none
  | some hrow =>
      obtain ⟨row, hshows, hshows'⟩ := hrow
      exact .some ⟨row, hshows', hshows⟩

/-- A channel with an account is resolved from its row. -/
theorem resolvePool_sameRow {environment : ResolveEnvironment} {sections : ResolvedSections}
    {name : String} {pool pool' : PoolConfig} (h : SameRow pool pool') :
    resolvePool environment sections (name, pool) =
      resolvePool environment sections (name, pool') := by
  obtain ⟨row, ⟨haccount, hrow⟩, haccount', hrow'⟩ := h
  -- what is left of a channel without its account, its kind and its endpoint is its row
  obtain ⟨endpoints, enabled, account, policy, routing, kind, base, credentialSet, header,
    authPrefix, rules⟩ := pool
  obtain ⟨endpoints', enabled', account', policy', routing', kind', base', credentialSet',
    header', authPrefix', rules'⟩ := pool'
  subst haccount haccount'
  have hfields := hrow.trans hrow'.symm
  simp only [channelRow, ChannelRow.mk.injEq] at hfields
  obtain ⟨-, rfl, rfl, rfl, rfl, rfl, rfl⟩ := hfields
  rfl

/-- The scopes of a token depend on which channels there are, not on what they are. -/
theorem resolveAllowedChannels_congr {poolConfigs poolConfigs' : IdMap PoolConfig}
    (h : ∀ id, id ∈ poolConfigs ↔ id ∈ poolConfigs') (tokenName : String)
    (channels allowedChannels : List String) :
    resolveAllowedChannels poolConfigs tokenName channels allowedChannels =
      resolveAllowedChannels poolConfigs' tokenName channels allowedChannels := by
  induction channels generalizing allowedChannels with
  | nil => rfl
  | cons channel channels ih =>
      unfold resolveAllowedChannels
      simp only [h, ih]

/-- The scopes of all tokens depend on which channels there are only. -/
theorem resolveTokenScopes_congr {poolConfigs poolConfigs' : IdMap PoolConfig}
    (h : ∀ id, id ∈ poolConfigs ↔ id ∈ poolConfigs') (tokens : List ResolvedClientToken) :
    resolveTokenScopes poolConfigs tokens = resolveTokenScopes poolConfigs' tokens := by
  unfold resolveTokenScopes
  simp only [resolveAllowedChannels_congr h]

/-- The entries of a section in the order of their ids. -/
def sortedOrder {β : Type} (m : IdMap β) : IterationOrder m :=
  ⟨(IdMap.sortedEntries m).map fun entry => ⟨entry.1, entry.2⟩, by
    have hnodup : ((IdMap.sortedEntries m).map fun entry =>
        (⟨entry.1, entry.2⟩ : Σ _ : String, β)).Nodup := by
      apply List.Nodup.of_map Sigma.fst
      rw [List.map_map]
      show ((IdMap.sortedEntries m).map Prod.fst).Nodup
      rw [IdMap.map_fst_sortedEntries]
      exact IdMap.nodup_sortedKeys m
    refine (Multiset.Nodup.ext (Multiset.coe_nodup.mpr hnodup) m.nodupKeys.nodup).mpr ?_
    rintro ⟨key, value⟩
    rw [Multiset.mem_coe, List.mem_map]
    constructor
    · rintro ⟨entry, hentry, heq⟩
      cases heq
      exact Finmap.mem_lookup_iff.mp (IdMap.mem_sortedEntries.mp hentry)
    · intro hmem
      exact ⟨(key, value), IdMap.mem_sortedEntries.mpr (Finmap.mem_lookup_iff.mpr hmem), rfl⟩⟩

/-- The channels of a document, in any order, and those of another that show the same rows. -/
theorem poolConfigs_sameRow {pools pools' : IdMap PoolConfig}
    (h : RelatedMaps SameRow pools pools') (order : IterationOrder pools)
    {poolConfigs : IdMap PoolConfig}
    (hpools : collectDistinct (duplicateId "pools") resolvePoolId order.1 ∅ = .ok poolConfigs) :
    ∃ poolConfigs', collectDistinct (duplicateId "pools") resolvePoolId (sortedOrder pools').1 ∅ =
        .ok poolConfigs' ∧
      RelatedMaps SameRow poolConfigs poolConfigs' := by
  have hsorted : collectDistinct (duplicateId "pools") resolvePoolId (sortedOrder pools).1 ∅ =
      .ok poolConfigs :=
    (collectDistinct_perm (order.perm (sortedOrder pools)) ∅ poolConfigs).mp hpools
  refine collectDistinct_related ?_ .empty hsorted
  show List.Forall₂ _ ((IdMap.sortedEntries pools).map _) ((IdMap.sortedEntries pools').map _)
  rw [List.forall₂_map_left_iff, List.forall₂_map_right_iff]
  refine (IdMap.forall₂_sortedEntries h).imp ?_
  rintro ⟨id, pool⟩ ⟨id', pool'⟩ ⟨rfl, hrow⟩ key value hentry
  obtain ⟨key', hkey, hpure⟩ := bind_eq_ok.mp hentry
  obtain ⟨rfl, rfl⟩ := Prod.mk.inj (Except.ok.inj hpure)
  exact ⟨pool', bind_eq_ok.mpr ⟨key', hkey, rfl⟩, hrow⟩

/-- A document with other channels that show the same rows can be resolved the same way. -/
theorem exists_resolve_of_sameRow {environment : ResolveEnvironment}
    {document : RegistryDocument} {pools' : IdMap PoolConfig}
    (hrow : RelatedMaps SameRow document.pools pools') {orders : SectionOrders document}
    {config : FullResolvedConfig} (h : resolve environment document orders = .ok config) :
    ∃ orders', resolve environment { document with pools := pools' } orders' = .ok config := by
  unfold resolve at h
  obtain ⟨responseFilter, hfilter, h⟩ := bind_eq_ok.mp h
  obtain ⟨management, hmanagement, h⟩ := bind_eq_ok.mp h
  obtain ⟨_, hadmin, h⟩ := bind_eq_ok.mp h
  obtain ⟨windowCapacity, hcapacity, h⟩ := bind_eq_ok.mp h
  obtain ⟨ipAllowlist, hallowlist, h⟩ := bind_eq_ok.mp h
  obtain ⟨tokens, htokens, h⟩ := bind_eq_ok.mp h
  obtain ⟨_, hsome, h⟩ := bind_eq_ok.mp h
  obtain ⟨poolConfigs, hpools, h⟩ := bind_eq_ok.mp h
  obtain ⟨poolConfigs', hpools', hconfigs⟩ := poolConfigs_sameRow hrow orders.pools hpools
  obtain ⟨clientTokens, hscopes, h⟩ := bind_eq_ok.mp h
  obtain ⟨defaultPool, hdefault, h⟩ := bind_eq_ok.mp h
  obtain ⟨timeoutProfile, htimeouts, h⟩ := bind_eq_ok.mp h
  obtain ⟨routing, hrouting, h⟩ := bind_eq_ok.mp h
  obtain ⟨sections, hsections, h⟩ := bind_eq_ok.mp h
  obtain ⟨pools, hresolved, h⟩ := bind_eq_ok.mp h
  -- the scopes see the ids of the channels, and each channel is resolved from its row
  rw [resolveTokenScopes_congr fun id => hconfigs.mem_iff] at hscopes
  have hentries : List.Forall₂ (fun entry entry' => resolvePool environment sections entry =
      resolvePool environment sections entry') (IdMap.sortedEntries poolConfigs)
      (IdMap.sortedEntries poolConfigs') := by
    refine (IdMap.forall₂_sortedEntries hconfigs).imp ?_
    rintro ⟨id, pool⟩ ⟨id', pool'⟩ ⟨rfl, hsame⟩
    exact resolvePool_sameRow hsame
  rw [collect_congr hentries] at hresolved
  let orders' : SectionOrders { document with pools := pools' } :=
    { pools := sortedOrder pools'
      credentialSets := orders.credentialSets
      providers := orders.providers
      accounts := orders.accounts
      policyProfiles := orders.policyProfiles
      routingProfiles := orders.routingProfiles
      modelRoutes := orders.modelRoutes
      modelGroups := orders.modelGroups }
  refine ⟨orders', ?_⟩
  unfold resolve
  exact bind_eq_ok.mpr ⟨responseFilter, hfilter, bind_eq_ok.mpr ⟨management, hmanagement,
    bind_eq_ok.mpr ⟨_, hadmin, bind_eq_ok.mpr ⟨windowCapacity, hcapacity,
    bind_eq_ok.mpr ⟨ipAllowlist, hallowlist, bind_eq_ok.mpr ⟨tokens, htokens,
    bind_eq_ok.mpr ⟨_, hsome, bind_eq_ok.mpr ⟨poolConfigs', hpools',
    bind_eq_ok.mpr ⟨clientTokens, hscopes, bind_eq_ok.mpr ⟨defaultPool, hdefault,
    bind_eq_ok.mpr ⟨timeoutProfile, htimeouts, bind_eq_ok.mpr ⟨routing, hrouting,
    bind_eq_ok.mpr ⟨sections, hsections, bind_eq_ok.mpr ⟨pools, hresolved,
      h⟩⟩⟩⟩⟩⟩⟩⟩⟩⟩⟩⟩⟩⟩

/-- The configurations that two documents can be resolved to, over any bootstrap
configuration, are the same. -/
def ResolvesAlike (document document' : RegistryDocument) : Prop :=
  ∀ environment bootstrap config,
    (∃ orders, resolve environment (overlayStagedResources bootstrap document) orders =
      .ok config) ↔
    ∃ orders, resolve environment (overlayStagedResources bootstrap document') orders =
      .ok config

/-- Documents whose channels agree in what a row has are resolved alike. -/
theorem resolve_alike {document document' : RegistryDocument} {pools' : IdMap PoolConfig}
    (hrow : RelatedMaps SameRow document.pools pools')
    (h : document'.toRegistryResources = { document.toRegistryResources with pools := pools' }) :
    ResolvesAlike document document' := by
  intro environment bootstrap config
  have hoverlay : overlayStagedResources bootstrap document' =
      { overlayStagedResources bootstrap document with pools := pools' } := by
    unfold overlayStagedResources RegistryDocument.applyResources
    rw [h]
  rw [hoverlay]
  have hpools : RelatedMaps SameRow (overlayStagedResources bootstrap document).pools pools' :=
    hrow
  constructor
  · rintro ⟨orders, hconfig⟩
    exact exists_resolve_of_sameRow hpools hconfig
  · rintro ⟨orders, hconfig⟩
    have hpools' : RelatedMaps SameRow
        { overlayStagedResources bootstrap document with pools := pools' }.pools
        document.pools := RelatedMaps.symm_sameRow hrow
    exact exists_resolve_of_sameRow hpools' hconfig

/-! ## §6. A command on the store. -/

/-- A statement goes through exactly if the database does not fail at it. -/
theorem StoreFaults.run_eq_ok {faults : StoreFaults} {statement : StoreStatement} {u : Unit} :
    faults.run statement = .ok u ↔ faults statement = Option.none := by
  unfold StoreFaults.run
  cases faults statement <;> simp

/-- A command goes through: no statement of its transaction fails, the rows load, they
can be staged, and the validator accepts what is staged. -/
def RegistryCommand.Accepted (command : RegistryCommand) (faults : StoreFaults)
    (validate : RegistryDocument → Except RegistryStoreError Unit) (rows : RegistryRows) :
    Prop :=
  (∀ statement, faults statement = none) ∧ ∃ document staged,
    loadRegistryForValidation rows = .ok document ∧
    command.stage (currentRegistryVersion rows) document = .ok staged ∧ validate staged = .ok ()

section Transaction

variable {command : RegistryCommand} {faults : StoreFaults}
  {validate : RegistryDocument → Except RegistryStoreError Unit} {rows rows' : RegistryRows}
  {commit : RegistryStoreCommit}

/-- A transaction that commits has been accepted, and the document that it leaves has been
validated. -/
theorem RegistryCommand.transact_eq_ok
    (h : command.transact faults validate rows = .ok (commit, rows')) :
    command.Accepted faults validate rows ∧
    (∃ document, loadRegistryForValidation rows = .ok document ∧
      command.stage (currentRegistryVersion rows) document =
        .ok commit.documentForValidation) ∧
    validate commit.documentForValidation = .ok () ∧
    commit.registryVersion = currentRegistryVersion rows + 1 ∧
    rows' = command.write (insertRegistryVersion rows (currentRegistryVersion rows + 1)) := by
  unfold RegistryCommand.transact at h
  obtain ⟨_, hconnect, h⟩ := bind_eq_ok.mp h
  obtain ⟨_, hload, h⟩ := bind_eq_ok.mp h
  obtain ⟨document, hdocument, h⟩ := bind_eq_ok.mp h
  obtain ⟨_, -, h⟩ := bind_eq_ok.mp h
  obtain ⟨staged, hstage, h⟩ := bind_eq_ok.mp h
  obtain ⟨_, hvalidate, h⟩ := bind_eq_ok.mp h
  obtain ⟨_, hversion, h⟩ := bind_eq_ok.mp h
  obtain ⟨_, hinsert, h⟩ := bind_eq_ok.mp h
  obtain ⟨_, hwrite, h⟩ := bind_eq_ok.mp h
  obtain ⟨_, hcommit, h⟩ := bind_eq_ok.mp h
  obtain ⟨rfl, rfl⟩ := Prod.mk.inj (Except.ok.inj h)
  rw [StoreFaults.run_eq_ok] at hconnect hload hversion hinsert hwrite hcommit
  have hloaded : loadRegistryForValidation rows = .ok document := by
    cases hrows : loadRegistryForValidation rows with
    | ok document' =>
        rw [hrows] at hdocument
        obtain rfl := Except.ok.inj hdocument
        rfl
    | error err =>
        rw [hrows] at hdocument
        cases hdocument
  -- every statement of the transaction was run
  have hfaults : ∀ statement, faults statement = none := by
    intro statement
    cases statement <;> assumption
  exact ⟨⟨hfaults, document, staged, hloaded, hstage, hvalidate⟩,
    ⟨document, hloaded, hstage⟩, hvalidate, rfl, rfl⟩

/-- An accepted command commits. -/
theorem RegistryCommand.exists_transact (h : command.Accepted faults validate rows) :
    ∃ out, command.transact faults validate rows = .ok out := by
  obtain ⟨hfaults, document, staged, hdocument, hstage, hvalidate⟩ := h
  have hrun : ∀ statement, faults.run statement = .ok () :=
    fun statement => StoreFaults.run_eq_ok.mpr (hfaults statement)
  have hfirst : command.readVersionFirst faults = .ok () := by
    cases command with
    | upsertModelRouteBatch expected routes => exact hrun .readVersion
    | _ => rfl
  have hloaded : (loadRegistryForValidation rows).mapError RegistryStoreError.persistence =
      .ok document := by
    rw [hdocument]
    rfl
  unfold RegistryCommand.transact
  exact ⟨_, bind_eq_ok.mpr ⟨(), hrun .connect, bind_eq_ok.mpr ⟨(), hrun .load,
    bind_eq_ok.mpr ⟨document, hloaded, bind_eq_ok.mpr ⟨(), hfirst,
    bind_eq_ok.mpr ⟨staged, hstage, bind_eq_ok.mpr ⟨(), hvalidate,
    bind_eq_ok.mpr ⟨(), hrun .readVersion, bind_eq_ok.mpr ⟨(), hrun .insertVersion,
    bind_eq_ok.mpr ⟨(), hrun .writeRows, bind_eq_ok.mpr ⟨(), hrun .commit,
      rfl⟩⟩⟩⟩⟩⟩⟩⟩⟩⟩⟩

end Transaction

/-- The validator accepts no document with an empty account id. -/
theorem empty_not_mem_of_validated {environment : ProcessEnvironment}
    {orders : ∀ document : RegistryDocument, SectionOrders document}
    {bootstrap document : RegistryDocument}
    (h : stagedRegistryValidator environment orders bootstrap document = .ok ()) :
    "" ∉ document.accounts := by
  intro hmem
  unfold stagedRegistryValidator resolveStagedRegistryDocument at h
  cases hcompiled : compileWithProcessCredentialSource environment orders
      (overlayStagedResources bootstrap document) with
  | error err =>
      rw [hcompiled] at h
      cases h
  | ok config =>
      obtain ⟨selection, -, hresolve⟩ := bind_eq_ok.mp hcompiled
      obtain ⟨poolConfigs, sections, hresolved⟩ := exists_resolvedBy hresolve
      have hentry := (orders (overlayStagedResources bootstrap document)).accounts.mem_iff.mp hmem
      obtain ⟨entry, hin, hid⟩ := List.mem_map.mp hentry
      obtain ⟨key, value, hok⟩ := entry_of_collect hresolved.accounts entry hin
      obtain ⟨id, hnormal, -⟩ := bind_eq_ok.mp hok
      rw [hid] at hnormal
      cases hnormal

/-- A command removes no account. -/
theorem RegistryCommand.mem_accounts_write {command : RegistryCommand} {rows : RegistryRows}
    {id : String} (h : id ∈ rows.accounts) : id ∈ (command.write rows).accounts := by
  cases command with
  | setAccountEnabled => exact IdMap.mem_update.mpr h
  | upsertAccount => exact Finmap.mem_insert.mpr (Or.inr h)
  | upsertModelRouteBatch expected routes =>
      show id ∈ (routes.foldl (fun rows route =>
        OneAiKey.upsertModelRoute rows route.1 route.2) rows).accounts
      rw [upsertModelRoutes_eq]
      exact h
  | _ => exact h

/-! ## §7. What is accepted can be loaded back. -/

/-- A command that is refused leaves the store as it is; one that is accepted leaves the
next version, with rows that load to a document that resolves like the one that was
validated. -/
def LoadsBack (validate : RegistryDocument → Except RegistryStoreError Unit)
    (rows : RegistryRows) :
    Except RegistryStoreError RegistryStoreCommit × RegistryRows → Prop
  | (.error _, rows') => rows' = rows
  | (.ok commit, rows') => validate commit.documentForValidation = .ok () ∧
      commit.registryVersion = currentRegistryVersion rows + 1 ∧
      currentRegistryVersion rows' = commit.registryVersion ∧
      ∃ document, loadRegistryForValidation rows' = .ok document ∧
        ResolvesAlike commit.documentForValidation document

/-- The document for validation is that of the loaded resources. -/
theorem loadRegistryForValidation_eq_ok {rows : RegistryRows} {document : RegistryDocument} :
    loadRegistryForValidation rows = .ok document ↔ ∃ resources,
      loadRegistryResources rows = .ok resources ∧
        resources.intoDocumentForValidation = document := by
  unfold loadRegistryForValidation
  cases loadRegistryResources rows with
  | error err => simp [Except.map]
  | ok resources => simp [Except.map]

section Accepted

variable {command : RegistryCommand} {faults : StoreFaults} {environment : ProcessEnvironment}
  {orders : ∀ document : RegistryDocument, SectionOrders document}
  {bootstrap : RegistryDocument} {rows rows' : RegistryRows} {commit : RegistryStoreCommit}

/-- The rows behind a command that goes through: its sections are read as they are staged,
and its channels can be joined exactly when the ids that it refers to are ids of rows. -/
theorem sections_of_transact
    (h : command.transact faults (stagedRegistryValidator environment orders bootstrap) rows =
      .ok (commit, rows')) :
    SectionsRead rows' commit.documentForValidation.toRegistryResources ∧
    (command.RefersExactly rows →
      RelatedMaps Shows rows'.channels commit.documentForValidation.pools) ∧
    (rows'.Joined ↔ command.RefersExactly rows) := by
  obtain ⟨-, ⟨document, hdocument, hstage⟩, hvalidate, -, rfl⟩ :=
    RegistryCommand.transact_eq_ok h
  obtain ⟨resources, hresources, rfl⟩ := loadRegistryForValidation_eq_ok.mp hdocument
  obtain ⟨hread, hpools⟩ := loadRegistryResources_eq_ok.mp hresources
  obtain ⟨hshows, hjoined⟩ := shown_of_readsAs hread hpools
  -- a new version changes no section
  have hread' : SectionsRead (insertRegistryVersion rows (currentRegistryVersion rows + 1))
      resources.intoDocumentForValidation.toRegistryResources :=
    hread.insertRegistryVersion (currentRegistryVersion rows + 1)
  have hsections := hread'.write hstage
  refine ⟨hsections, fun hrefers => ?_, ?_⟩
  · have haccount : ∀ id channel, command = .upsertChannel id channel →
        ∃ accountId, channel.account = some accountId := by
      rintro id channel rfl
      obtain ⟨accountId, haccount, -⟩ := hrefers
      exact ⟨accountId, haccount⟩
    have hshows' : RelatedMaps Shows
        (insertRegistryVersion rows (currentRegistryVersion rows + 1)).channels
        resources.intoDocumentForValidation.pools := hshows
    exact shows_written hshows' haccount hstage
  · -- the validated document has no account with an empty id, nor had the rows
    have hempty : "" ∉ rows.accounts := by
      intro hmem
      apply empty_not_mem_of_validated hvalidate
      rw [hsections.accounts]
      exact RegistryCommand.mem_accounts_write hmem
    have hjoined' : (insertRegistryVersion rows (currentRegistryVersion rows + 1)).Joined :=
      hjoined
    exact joined_write_iff command hjoined' hempty

end Accepted

/-- When the rows that a command leaves are read back as the document that was validated. -/
theorem loads_back_iff (command : RegistryCommand) (faults : StoreFaults)
    (environment : ProcessEnvironment)
    (orders : ∀ document : RegistryDocument, SectionOrders document)
    (bootstrap : RegistryDocument) (rows : RegistryRows) :
    LoadsBack (stagedRegistryValidator environment orders bootstrap) rows
      (applyCommand command faults (stagedRegistryValidator environment orders bootstrap) rows) ↔
    (command.Accepted faults (stagedRegistryValidator environment orders bootstrap) rows →
      command.RefersExactly rows) := by
  unfold applyCommand
  cases h : command.transact faults (stagedRegistryValidator environment orders bootstrap)
      rows with
  | error err =>
      -- a command that is refused leaves the rows, and was not to go through
      refine iff_of_true rfl fun haccepted => ?_
      obtain ⟨out, hout⟩ := RegistryCommand.exists_transact haccepted
      rw [h] at hout
      cases hout
  | ok out =>
      obtain ⟨commit, rows'⟩ := out
      obtain ⟨haccepted, -, hvalidate, hversion, hrows⟩ := RegistryCommand.transact_eq_ok h
      obtain ⟨hsections, hshown, hjoined⟩ := sections_of_transact h
      constructor
      · rintro ⟨-, -, -, document, hload, -⟩ -
        obtain ⟨resources, hresources, -⟩ := loadRegistryForValidation_eq_ok.mp hload
        obtain ⟨hread, hpools⟩ := loadRegistryResources_eq_ok.mp hresources
        exact hjoined.mp (shown_of_readsAs hread hpools).2
      · intro hrefers
        have hexact := hrefers haccepted
        obtain ⟨pools, hresources, hshows⟩ :=
          exists_pools_of_joined hsections (hjoined.mpr hexact)
        refine ⟨hvalidate, hversion, ?_, _,
          loadRegistryForValidation_eq_ok.mpr ⟨_, hresources, rfl⟩, ?_⟩
        · show currentRegistryVersion rows' = _
          rw [hversion, hrows, currentRegistryVersion_written]
        · exact resolve_alike (relatedMaps_sameRow (hshown hexact) hshows) rfl

/-! ## §8. Runs of the store. -/

/-- There is a document exactly if the resources can be loaded. -/
theorem loaded_iff {rows : RegistryRows} :
    (∃ document, loadRegistryForValidation rows = .ok document) ↔
      ∃ resources, loadRegistryResources rows = .ok resources := by
  simp only [loadRegistryForValidation_eq_ok]
  exact ⟨fun ⟨_, resources, h, _⟩ => ⟨resources, h⟩,
    fun ⟨resources, h⟩ => ⟨_, resources, h, rfl⟩⟩

/-- A table is read back if each of its rows is. -/
theorem readsAs_mapValues {β ρ : Type} {decode : String → ρ → Except RusqliteError β}
    {f : β → ρ} {m : IdMap β}
    (h : ∀ key value, m.lookup key = some value → decode key (f value) = .ok value) :
    ReadsAs decode (IdMap.mapValues f m) m := by
  intro key
  rw [IdMap.lookup_mapValues]
  cases hvalue : m.lookup key with
  | none => exact .none
  | some value => exact .some (h key value hvalue)

/-- The rows of a document say what the document says. -/
theorem sectionsRead_replaceDocumentRows (rows : RegistryRows) (document : RegistryDocument) :
    SectionsRead (replaceDocumentRows rows document) document.toRegistryResources where
  defaultPool := rfl
  providers := readsAs_mapValues fun _ provider _ => loadProvider_providerRow provider
  accounts := rfl
  credentialSets := readsAs_mapValues fun _ _ _ => rfl
  policyProfiles := rfl
  defaultRoutingProfile := rfl
  routingProfiles := rfl
  modelRoutes := by
    apply readsAs_mapValues
    intro publicModel route hroute
    show loadModelRoute (IdMap.mapValues (·.targets) document.modelRoutes) publicModel
      route.strategy = .ok route
    unfold loadModelRoute
    rw [IdMap.lookup_mapValues, hroute]
    rfl

/-- The check of a bootstrap document compares ids as they are written. -/
theorem joined_of_supported {rows : RegistryRows} {document : RegistryDocument} {u : Unit}
    (h : validateStoreSupportedRegistryDocument document = .ok u) :
    (replaceDocumentRows rows document).Joined := by
  unfold validateStoreSupportedRegistryDocument at h
  obtain ⟨_, -, h⟩ := bind_eq_ok.mp h
  obtain ⟨_, -, h⟩ := bind_eq_ok.mp h
  obtain ⟨_, -, h⟩ := bind_eq_ok.mp h
  obtain ⟨_, haccounts, h⟩ := bind_eq_ok.mp h
  obtain ⟨_, hchannels, -⟩ := bind_eq_ok.mp h
  intro id row hrow
  have hlookup : (IdMap.mapValues channelRow document.pools).lookup id = some row := hrow
  rw [IdMap.lookup_mapValues] at hlookup
  obtain ⟨channel, hchannel, rfl⟩ := Option.map_eq_some_iff.mp hlookup
  have hvalid := forM_eq_ok hchannels (id, channel) (IdMap.mem_sortedEntries.mpr hchannel)
  obtain ⟨accountId, hfilter, hvalid⟩ := bind_eq_ok.mp hvalid
  obtain ⟨_, hknown, -⟩ := bind_eq_ok.mp hvalid
  -- a supported channel names its account
  have haccountId : channel.account = some accountId := by
    cases haccount : channel.account with
    | none =>
        rw [haccount] at hfilter
        cases hfilter
    | some accountId' =>
        rw [haccount] at hfilter
        unfold okOrElse at hfilter
        split at hfilter <;> simp_all [Option.filter]
  obtain ⟨account, haccount⟩ := Finmap.mem_iff.mp (of_decide_eq_true (ensure_eq_ok hknown))
  have hprovider := forM_eq_ok haccounts (accountId, account)
    (IdMap.mem_sortedEntries.mpr haccount)
  refine ⟨account, ?_, ?_⟩
  · show document.accounts.lookup (channel.account.getD "") = some account
    rw [haccountId]
    exact haccount
  · show account.provider ∈ IdMap.mapValues providerRow document.providers
    obtain ⟨provider, hlookup⟩ :=
      Finmap.mem_iff.mp (of_decide_eq_true (ensure_eq_ok hprovider))
    refine Finmap.mem_iff.mpr ⟨providerRow provider, ?_⟩
    rw [IdMap.lookup_mapValues, hlookup]
    rfl

/-- What is bootstrapped loads. -/
theorem exists_loaded_of_bootstrapRows {faults : StoreFaults} {document : RegistryDocument}
    {rows rows' : RegistryRows} {u : Unit}
    (hsupported : validateStoreSupportedRegistryDocument document = .ok u)
    (h : bootstrapRows faults document rows = .ok rows') :
    ∃ document', loadRegistryForValidation rows' = .ok document' := by
  -- if no statement has failed, the rows are those of the document
  have hrows : rows' = replaceDocumentRows (insertRegistryVersion rows 1) document := by
    unfold bootstrapRows at h
    cases hrun : (do
        faults.run .insertVersion
        faults.run .writeRows
        faults.run .commit
        return replaceDocumentRows (insertRegistryVersion rows 1) document :
          Except RegistryStoreError RegistryRows) with
    | error err =>
        rw [hrun] at h
        cases h
    | ok rows'' =>
        rw [hrun] at h
        obtain ⟨_, -, hrun⟩ := bind_eq_ok.mp hrun
        obtain ⟨_, -, hrun⟩ := bind_eq_ok.mp hrun
        obtain ⟨_, -, hrun⟩ := bind_eq_ok.mp hrun
        rw [← Except.ok.inj h]
        exact (Except.ok.inj hrun).symm
  rw [hrows, loaded_iff]
  obtain ⟨pools, hpools, -⟩ := exists_pools_of_joined
    (sectionsRead_replaceDocumentRows (insertRegistryVersion rows 1) document)
    (joined_of_supported hsupported)
  exact ⟨_, hpools⟩

/-- A call that is no command, or a command that refers to ids of rows if it goes through. -/
def StoreCall.Exact (call : StoreCall) (rows : RegistryRows) : Prop :=
  match call with
  | applyCommand faults environment orders bootstrap command =>
      command.Accepted faults (stagedRegistryValidator environment orders bootstrap) rows →
        command.RefersExactly rows
  | _ => True

/-- Wrapping the error of a computation keeps its success. -/
theorem mapError_eq_ok {ε ε' α : Type} {f : ε → ε'} {x : Except ε α} {a : α} :
    x.mapError f = .ok a ↔ x = .ok a := by
  cases x <;> simp [Except.mapError]

/-- One call. -/
theorem exists_loaded_next {call : StoreCall} {rows : RegistryRows}
    (h : ∃ document, loadRegistryForValidation rows = .ok document) (hexact : call.Exact rows) :
    ∃ document, loadRegistryForValidation (call.next rows) = .ok document := by
  cases call with
  | bootstrapFromDocument faults document =>
      unfold StoreCall.next
      dsimp only
      split
      case h_1 rows' hrows' =>
        obtain ⟨_, hsupported, hrows'⟩ := bind_eq_ok.mp hrows'
        obtain ⟨_, -, hrows'⟩ := bind_eq_ok.mp hrows'
        obtain ⟨_, -, hrows'⟩ := bind_eq_ok.mp hrows'
        obtain ⟨_, -, hrows'⟩ := bind_eq_ok.mp hrows'
        exact exists_loaded_of_bootstrapRows (mapError_eq_ok.mp hsupported) hrows'
      case h_2 => exact h
  | loadOrBootstrapStartupDocument faults bootstrap =>
      unfold StoreCall.next
      dsimp only
      split
      case h_1 document rows' hrows' =>
        obtain ⟨_, -, hrows'⟩ := bind_eq_ok.mp hrows'
        split at hrows'
        · obtain ⟨_, hsupported, hrows'⟩ := bind_eq_ok.mp hrows'
          obtain ⟨rows'', hbootstrap, hpure⟩ := bind_eq_ok.mp hrows'
          obtain ⟨rfl, rfl⟩ := Prod.mk.inj (Except.ok.inj hpure)
          exact exists_loaded_of_bootstrapRows (mapError_eq_ok.mp hsupported) hbootstrap
        · obtain ⟨_, -, hrows'⟩ := bind_eq_ok.mp hrows'
          -- a registry is there: it is read and stays
          obtain ⟨_, -, hpure⟩ := bind_eq_ok.mp hrows'
          obtain ⟨rfl, rfl⟩ := Prod.mk.inj (Except.ok.inj hpure)
          exact h
      case h_2 => exact h
  | applyCommand faults environment orders bootstrap command =>
      -- the write loads back as the document that was validated
      have hback := (loads_back_iff command faults environment orders bootstrap rows).mpr hexact
      show ∃ document, loadRegistryForValidation (OneAiKey.applyCommand command faults
        (stagedRegistryValidator environment orders bootstrap) rows).2 = .ok document
      generalize OneAiKey.applyCommand command faults
        (stagedRegistryValidator environment orders bootstrap) rows = out at hback ⊢
      obtain ⟨result, rows'⟩ := out
      cases result with
      | error err =>
          obtain rfl : rows' = rows := hback
          exact h
      | ok commit =>
          obtain ⟨-, -, -, document, hload, -⟩ := hback
          exact ⟨document, hload⟩

/-- A run whose commands refer to ids of rows, from rows that load. -/
theorem exists_loaded_of_exact {calls : List StoreCall} {rows : RegistryRows}
    (h : ∃ document, loadRegistryForValidation rows = .ok document)
    (hexact : ∀ before call after, calls = before ++ call :: after →
      call.Exact (before.foldl (fun rows call => call.next rows) rows)) :
    ∃ document, loadRegistryForValidation
      (calls.foldl (fun rows call => call.next rows) rows) = .ok document := by
  induction calls generalizing rows with
  | nil => exact h
  | cons call calls ih =>
      have hcall : call.Exact rows := hexact [] call calls rfl
      apply ih (exists_loaded_next h hcall)
      intro before call' after heq
      exact hexact (call :: before) call' after (by rw [heq]; rfl)

/-- Of every state that the store reaches: the next command is loaded back exactly when the
ids that it refers to are ids of rows, or it is refused; and while the commands of a run do
that, the store loads. -/
theorem accepted_commands_load_back (calls : List StoreCall) :
    (∀ (command : RegistryCommand) (faults : StoreFaults) (environment : ProcessEnvironment)
        (orders : ∀ document : RegistryDocument, SectionOrders document)
        (bootstrap : RegistryDocument),
      LoadsBack (stagedRegistryValidator environment orders bootstrap) (storeAfter calls)
        (applyCommand command faults (stagedRegistryValidator environment orders bootstrap)
          (storeAfter calls)) ↔
      (command.Accepted faults (stagedRegistryValidator environment orders bootstrap)
        (storeAfter calls) → command.RefersExactly (storeAfter calls))) ∧
    ((∀ before call after, calls = before ++ call :: after → call.Exact (storeAfter before)) →
      ∃ document, loadRegistryForValidation (storeAfter calls) = .ok document) := by
  refine ⟨fun command faults environment orders bootstrap =>
    loads_back_iff command faults environment orders bootstrap (storeAfter calls), ?_⟩
  have hempty : ∃ document, loadRegistryForValidation .empty = .ok document := ⟨_, rfl⟩
  exact exists_loaded_of_exact hempty

/-! A channel is put behind its account, with a blank before the account's id. -/

/-- A bootstrap document whose names have no blanks. -/
def spacedBootstrap : RegistryDocument :=
  { shadowedDocument with
    toRegistryResources := { shadowedDocument.toRegistryResources with
      providers := [⟨"openai", ⟨.openAiCompatible, true⟩⟩].toFinmap } }

/-- A command whose account has a blank before its name. -/
def spacedCommand : RegistryCommand :=
  .upsertChannel "chat" { shadowedPool with account := some " main" }

/-- Every section in the order of its ids. -/
def sortedOrders (document : RegistryDocument) : SectionOrders document where
  pools := sortedOrder document.pools
  credentialSets := sortedOrder document.credentialSets
  providers := sortedOrder document.providers
  accounts := sortedOrder document.accounts
  policyProfiles := sortedOrder document.policyProfiles
  routingProfiles := sortedOrder document.routingProfiles
  modelRoutes := sortedOrder document.modelRoutes
  modelGroups := sortedOrder document.modelGroups

/-- The store of `spacedBootstrap`. -/
def spacedRows : RegistryRows := storeAfter [.bootstrapFromDocument .none spacedBootstrap]

/-- The validation trims the name of the account, so the command is accepted. -/
theorem spacedCommand_accepted :
    ((applyCommand spacedCommand .none
        (stagedRegistryValidator (.ok oneKeyEnvironment) sortedOrders spacedBootstrap)
        spacedRows).1.map fun commit => commit.registryVersion) = .ok 2 := by
  rfl

/-- The join does not trim it, so the row cannot be read any more. -/
theorem spacedCommand_not_loaded :
    loadRegistryForValidation (applyCommand spacedCommand .none
      (stagedRegistryValidator (.ok oneKeyEnvironment) sortedOrders spacedBootstrap)
      spacedRows).2 = .error .invalidQuery := by
  rfl

/-- The validator trims the account's id, the row keeps it as it is written, and the loader
does not find it.  The join of the loader compares the ids as they are, so the store holds a
version that cannot be loaded any more. -/
theorem spaced_account_not_loaded_back :
    ¬ ∀ (calls : List StoreCall) (command : RegistryCommand) (faults : StoreFaults)
        (environment : ProcessEnvironment)
        (orders : ∀ document : RegistryDocument, SectionOrders document)
        (bootstrap : RegistryDocument),
      LoadsBack (stagedRegistryValidator environment orders bootstrap) (storeAfter calls)
        (applyCommand command faults (stagedRegistryValidator environment orders bootstrap)
          (storeAfter calls)) := by
  intro h
  have hback := h [.bootstrapFromDocument .none spacedBootstrap] spacedCommand .none
    (.ok oneKeyEnvironment) sortedOrders spacedBootstrap
  have haccepted := spacedCommand_accepted
  have hload := spacedCommand_not_loaded
  unfold spacedRows at haccepted hload
  generalize applyCommand spacedCommand .none _ _ = out at hback haccepted hload
  obtain ⟨result, rows'⟩ := out
  cases result with
  | error err => cases haccepted
  | ok commit =>
      obtain ⟨-, -, -, document, hdocument, -⟩ := hback
      rw [hload] at hdocument
      cases hdocument

end OneAiKey
