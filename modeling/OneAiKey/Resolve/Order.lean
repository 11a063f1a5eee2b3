/-
  OneAiKey.Resolve.Order — what the iteration order of the sections can do to a
  resolution (`src/config.rs`).

  Two ids of a section may be the same id once they are trimmed.  The loops
  over channels, policy profiles, routing profiles and model groups refuse
  that.  The loops over credential sets, providers and accounts do not: the
  entry that the hash map happens to yield last replaces the other.

  Main results:
    * `resolve_agree` — where those three sections have no such ids, the order
      does not matter;
    * `distinct_of_resolve` — an accepted document has none in the other four;
    * `order_independent_iff` — and where they have, it does.
-/
import Mathlib.Data.List.DropRight
import OneAiKey.Resolve

namespace OneAiKey

open Collect

/-! ## §1. Ids that are the same once they are trimmed. -/

theorem trim_starts_dropWhile (s : List Char) : trim s <+: s.dropWhile isWhitespace :=
  List.rdropWhile_prefix isWhitespace _

/-- A trimmed text is a part of the text. -/
theorem trim_within (s : List Char) : trim s <:+: s :=
  (trim_starts_dropWhile s).isInfix.trans (List.dropWhile_suffix isWhitespace).isInfix

theorem trim_trim (s : List Char) : trim (trim s) = trim s := by
  have hstart : (trim s).dropWhile isWhitespace = trim s := by
    obtain ⟨rest, hrest⟩ := trim_starts_dropWhile s
    cases htrim : trim s with
    | nil => rfl
    | cons c cs =>
        -- the first character is the one at which the first pass has stopped
        rw [htrim, List.cons_append] at hrest
        have hhead := @List.dropWhile_get_zero_not _ isWhitespace s (by simp [← hrest])
        simp only [← hrest, List.get_eq_getElem, List.getElem_cons_zero] at hhead
        exact List.dropWhile_cons_of_neg hhead
  show List.rdropWhile isWhitespace ((trim s).dropWhile isWhitespace) = trim s
  rw [hstart]
  exact List.rdropWhile_idempotent isWhitespace _

/-- A trimmed text has nothing left to trim. -/
theorem trimString_trimString (s : String) : trimString (trimString s) = trimString s := by
  unfold trimString
  rw [String.toList_ofList, trim_trim]

/-- Trimming makes no text longer. -/
theorem length_trimString_le (s : String) : (trimString s).length ≤ s.length := by
  unfold trimString
  rw [String.length_ofList, ← String.length_toList]
  exact (trim_within s.toList).length_le

/-- Nothing can be trimmed without the text getting shorter. -/
theorem trimString_eq_of_length {s : String} (h : (trimString s).length = s.length) :
    trimString s = s := by
  unfold trimString at h ⊢
  rw [String.length_ofList, ← String.length_toList] at h
  rw [(trim_within s.toList).eq_of_length h, String.ofList_toList]

/-- No two ids of a section are the same id. -/
def DistinctIds {β : Type} (m : IdMap β) : Prop :=
  ∀ id id', id ∈ m → id' ∈ m → trimString id = trimString id' → id = id'

/-- Two orders of a section visit the same rows. -/
theorem IterationOrder.perm {β : Type} {m : IdMap β} (order order' : IterationOrder m) :
    order.1.Perm order'.1 := by
  apply Multiset.coe_eq_coe.mp
  rw [order.2, order'.2]

/-- An order visits no row twice. -/
theorem IterationOrder.nodup_keys {β : Type} {m : IdMap β} (order : IterationOrder m) :
    (order.1.map Sigma.fst).Nodup := by
  have hkeys : Multiset.NodupKeys m.entries := m.nodupKeys
  rw [← order.2] at hkeys
  exact hkeys

/-- An order visits every row. -/
theorem IterationOrder.mem_iff {β : Type} {m : IdMap β} (order : IterationOrder m)
    {id : String} : id ∈ m ↔ id ∈ order.1.map Sigma.fst := by
  have hkeys : m.entries.map Sigma.fst = ↑(order.1.map Sigma.fst) :=
    congrArg (Multiset.map Sigma.fst) order.2.symm
  show id ∈ m.entries.map Sigma.fst ↔ _
  rw [hkeys]
  exact Multiset.mem_coe

/-- Whether trimmed ids are distinct can be seen from any order. -/
theorem IterationOrder.nodup_trimmed_iff {β : Type} {m : IdMap β} (order : IterationOrder m) :
    (order.1.map fun entry => trimString entry.1).Nodup ↔ DistinctIds m := by
  have hmap : (order.1.map fun entry => trimString entry.1) =
      (order.1.map Sigma.fst).map trimString := by
    rw [List.map_map]
    rfl
  rw [hmap, List.nodup_map_iff_inj_on order.nodup_keys]
  unfold DistinctIds
  simp only [order.mem_iff]
  exact ⟨fun h id id' hid hid' heq => h id hid id' hid' heq,
    fun h id hid id' hid' heq => h id id' hid hid' heq⟩

/-! ## §2. The id of an entry. -/

theorem ensure_eq_ok {condition : Bool} {message : String} {result : Unit}
    (h : ensure condition message = .ok result) : condition = true := by
  unfold ensure at h
  split at h
  · assumption
  · cases h

/-- A normalized id is the trimmed one. -/
theorem normalizeResourceId_eq_ok {field id id' : String}
    (h : normalizeResourceId field id = .ok id') : id' = trimString id := by
  obtain ⟨_, -, hpure⟩ := bind_eq_ok.mp h
  exact (Except.ok.inj hpure).symm

/-- An entry whose id is normalized first is put under its normalized id. -/
theorem key_eq_of_normalize {β : Type} {field id key : String} {value : β}
    {rest : String → Except String (String × β)}
    (hrest : ∀ id key value, rest id = .ok (key, value) → key = id)
    (h : normalizeResourceId field id >>= rest = .ok (key, value)) : key = trimString id := by
  obtain ⟨id', hid, h⟩ := bind_eq_ok.mp h
  rw [hrest id' key value h]
  exact normalizeResourceId_eq_ok hid

section Keys

variable (environment : ResolveEnvironment)

/-- A credential set is put under its trimmed id. -/
theorem resolveCredentialSet_key (entry : Σ _ : String, CredentialSetConfig) (key : String)
    (value : KeyImport) (h : resolveCredentialSet environment entry = .ok (key, value)) :
    key = trimString entry.1 := by
  refine key_eq_of_normalize (fun id key value h => ?_) h
  obtain ⟨imported, -, h⟩ := bind_eq_ok.mp h
  exact (congrArg Prod.fst (Except.ok.inj h)).symm

/-- A provider is put under its trimmed id. -/
theorem resolveProvider_key (entry : Σ _ : String, ProviderConfig) (key : String)
    (value : ProviderConfig) (h : resolveProvider entry = .ok (key, value)) :
    key = trimString entry.1 := by
  refine key_eq_of_normalize (fun id key value h => ?_) h
  exact (congrArg Prod.fst (Except.ok.inj h)).symm

/-- An account is put under its trimmed id. -/
theorem resolveAccount_key (providers : IdMap ProviderConfig)
    (entry : Σ _ : String, AccountConfig) (key : String) (value : AccountConfig)
    (h : resolveAccount providers entry = .ok (key, value)) : key = trimString entry.1 := by
  refine key_eq_of_normalize (fun id key value h => ?_) h
  obtain ⟨providerId, -, h⟩ := bind_eq_ok.mp h
  obtain ⟨_, -, h⟩ := bind_eq_ok.mp h
  exact (congrArg Prod.fst (Except.ok.inj h)).symm

/-- A policy profile is put under its trimmed id. -/
theorem resolvePolicyProfile_key (entry : Σ _ : String, PolicyProfileConfig) (key : String)
    (value : ResolvedPolicyProfile) (h : resolvePolicyProfile entry = .ok (key, value)) :
    key = trimString entry.1 := by
  refine key_eq_of_normalize (fun id key value h => ?_) h
  obtain ⟨_, -, h⟩ := bind_eq_ok.mp h
  obtain ⟨_, -, h⟩ := bind_eq_ok.mp h
  obtain ⟨_, -, h⟩ := bind_eq_ok.mp h
  exact (congrArg Prod.fst (Except.ok.inj h)).symm

/-- A routing profile is put under its trimmed id. -/
theorem resolveRoutingProfileEntry_key (entry : Σ _ : String, RoutingProfileConfig)
    (key : String) (value : ResolvedRoutingProfile)
    (h : resolveRoutingProfileEntry entry = .ok (key, value)) : key = trimString entry.1 := by
  refine key_eq_of_normalize (fun id key value h => ?_) h
  obtain ⟨_, -, h⟩ := bind_eq_ok.mp h
  exact (congrArg Prod.fst (Except.ok.inj h)).symm

/-- A channel is put under its trimmed id. -/
theorem resolvePoolId_key (entry : Σ _ : String, PoolConfig) (key : String) (value : PoolConfig)
    (h : resolvePoolId entry = .ok (key, value)) : key = trimString entry.1 := by
  refine key_eq_of_normalize (fun id key value h => ?_) h
  exact (congrArg Prod.fst (Except.ok.inj h)).symm

/-- A model group is put under its trimmed id. -/
theorem resolveModelGroup_key (modelRoutes : IdMap ModelRoute)
    (entry : Σ _ : String, ModelGroupConfig) (key : String) (value : ResolvedModelGroup)
    (h : resolveModelGroup modelRoutes entry = .ok (key, value)) : key = trimString entry.1 := by
  refine key_eq_of_normalize (fun id key value h => ?_) h
  obtain ⟨_, -, h⟩ := bind_eq_ok.mp h
  obtain ⟨_, -, h⟩ := bind_eq_ok.mp h
  exact (congrArg Prod.fst (Except.ok.inj h)).symm

/-- A route keeps its public model as it is. -/
theorem resolveModelRoute_key (pools : IdMap FullPoolConfig)
    (entry : Σ _ : String, ModelRouteConfig) (key : String) (value : ModelRoute)
    (h : resolveModelRoute pools entry = .ok (key, value)) : key = entry.1 := by
  obtain ⟨_, -, h⟩ := bind_eq_ok.mp h
  obtain ⟨_, -, h⟩ := bind_eq_ok.mp h
  obtain ⟨_, -, h⟩ := bind_eq_ok.mp h
  exact (congrArg Prod.fst (Except.ok.inj h)).symm

end Keys

/-! ## §3. Two orders. -/

/-- The sections whose loops replace an entry without a word have no ids to replace. -/
structure UnguardedDistinct (document : RegistryDocument) : Prop where
  credentialSets : DistinctIds document.credentialSets
  providers : DistinctIds document.providers
  accounts : DistinctIds document.accounts

variable {environment : ResolveEnvironment} {document : RegistryDocument}

/-- One section, in two orders. -/
theorem collect_agree {β γ : Type} {m : IdMap β} {entry : (Σ _ : String, β) →
    Except String (String × γ)} (hkey : ∀ a key value, entry a = .ok (key, value) →
      key = trimString a.1) (hdistinct : DistinctIds m) (order order' : IterationOrder m) :
    Agree (collect entry order.1 ∅) (collect entry order'.1 ∅) :=
  collect_perm hkey (order.perm order') (order.nodup_trimmed_iff.mpr hdistinct) ∅

/-- The sections do not depend on the order if their trimmed ids are distinct. -/
theorem resolveSections_agree (h : UnguardedDistinct document)
    (orders orders' : SectionOrders document) :
    Agree (resolveSections environment document orders)
      (resolveSections environment document orders') := by
  unfold resolveSections
  apply (collect_agree (resolveCredentialSet_key environment) h.credentialSets _ _).bind
  intro credentialSets
  apply (collect_agree resolveProvider_key h.providers _ _).bind
  intro providers
  apply (collect_agree (resolveAccount_key providers) h.accounts _ _).bind
  intro accounts
  apply (collectDistinct_perm (orders.policyProfiles.perm orders'.policyProfiles) ∅).bind
  intro policyProfiles
  apply (collectDistinct_perm (orders.routingProfiles.perm orders'.routingProfiles) ∅).bind
  intro routingProfiles
  exact .refl _

/-- Without ids to replace the order does not matter. -/
theorem resolve_agree (h : UnguardedDistinct document)
    (orders orders' : SectionOrders document) :
    Agree (resolve environment document orders) (resolve environment document orders') := by
  unfold resolve
  -- up to the channels nothing is read from a section
  refine (Agree.refl _).bind fun responseFilter => (Agree.refl _).bind fun management => ?_
  refine (Agree.refl _).bind fun _ => (Agree.refl _).bind fun windowCapacity => ?_
  refine (Agree.refl _).bind fun ipAllowlist => (Agree.refl _).bind fun tokens => ?_
  refine (Agree.refl _).bind fun _ => ?_
  apply (collectDistinct_perm (orders.pools.perm orders'.pools) ∅).bind
  intro poolConfigs
  refine (Agree.refl _).bind fun clientTokens => (Agree.refl _).bind fun defaultPool => ?_
  refine (Agree.refl _).bind fun timeoutProfile => (Agree.refl _).bind fun routing => ?_
  apply (resolveSections_agree h orders orders').bind
  intro sections
  -- the channels are visited in the order of their names
  refine (Agree.refl _).bind fun pools => ?_
  have hroutes : Agree (collect (resolveModelRoute pools) orders.modelRoutes.1 ∅)
      (collect (resolveModelRoute pools) orders'.modelRoutes.1 ∅) :=
    collect_perm (resolveModelRoute_key pools) (orders.modelRoutes.perm orders'.modelRoutes)
      orders.modelRoutes.nodup_keys ∅
  apply hroutes.bind
  intro modelRoutes
  apply (collectDistinct_perm (orders.modelGroups.perm orders'.modelGroups) ∅).bind
  intro modelGroups
  exact .refl _

/-! ## §4. What an accepted document has. -/

/-- No two ids of any section are the same id. -/
structure AllDistinct (document : RegistryDocument) : Prop extends
    UnguardedDistinct document where
  pools : DistinctIds document.pools
  policyProfiles : DistinctIds document.policyProfiles
  routingProfiles : DistinctIds document.routingProfiles
  modelGroups : DistinctIds document.modelGroups

/-- The loops over the sections have come to the end. -/
structure SectionsResolved (environment : ResolveEnvironment) (document : RegistryDocument)
    (orders : SectionOrders document) (sections : ResolvedSections) : Prop where
  credentialSets : collect (resolveCredentialSet environment) orders.credentialSets.1 ∅ =
    .ok sections.credentialSets
  providers : collect resolveProvider orders.providers.1 ∅ = .ok sections.providers
  accounts : collect (resolveAccount sections.providers) orders.accounts.1 ∅ =
    .ok sections.accounts
  policyProfiles : collectDistinct (duplicateId "policy_profiles") resolvePolicyProfile
    orders.policyProfiles.1 ∅ = .ok sections.policyProfiles
  routingProfiles : collectDistinct (duplicateId "routing_profiles") resolveRoutingProfileEntry
    orders.routingProfiles.1 ∅ = .ok sections.routingProfiles
  defaultRoutingProfile : normalizeOptionalId "default_routing_profile"
    document.defaultRoutingProfile = .ok sections.defaultRoutingProfile

/-- What has been resolved of each section. -/
theorem SectionsResolved.of_resolveSections {orders : SectionOrders document}
    {sections : ResolvedSections}
    (h : resolveSections environment document orders = .ok sections) :
    SectionsResolved environment document orders sections := by
  unfold resolveSections at h
  obtain ⟨credentialSets, hsets, h⟩ := bind_eq_ok.mp h
  obtain ⟨providers, hproviders, h⟩ := bind_eq_ok.mp h
  obtain ⟨accounts, haccounts, h⟩ := bind_eq_ok.mp h
  obtain ⟨policyProfiles, hpolicies, h⟩ := bind_eq_ok.mp h
  obtain ⟨routingProfiles, hrouting, h⟩ := bind_eq_ok.mp h
  obtain ⟨defaultRoutingProfile, hdefault, h⟩ := bind_eq_ok.mp h
  obtain ⟨_, -, h⟩ := bind_eq_ok.mp h
  obtain rfl := Except.ok.inj h
  exact ⟨hsets, hproviders, haccounts, hpolicies, hrouting, hdefault⟩

/-- What the parts of a resolved configuration come from. -/
structure ResolvedBy (environment : ResolveEnvironment) (document : RegistryDocument)
    (orders : SectionOrders document) (config : FullResolvedConfig)
    (poolConfigs : IdMap PoolConfig) (sections : ResolvedSections) : Prop extends
    SectionsResolved environment document orders sections where
  poolIds : collectDistinct (duplicateId "pools") resolvePoolId orders.pools.1 ∅ =
    .ok poolConfigs
  defaultPool : normalizeOptionalId "default_pool" document.defaultPool = .ok config.defaultPool
  pools : collect (resolvePool environment sections) (IdMap.sortedEntries poolConfigs) ∅ =
    .ok config.pools
  modelRoutes : collect (resolveModelRoute config.pools) orders.modelRoutes.1 ∅ =
    .ok config.modelRoutes
  modelGroups : collectDistinct (duplicateId "model_groups")
    (resolveModelGroup config.modelRoutes) orders.modelGroups.1 ∅ = .ok config.modelGroups
  policyProfiles_eq : config.policyProfiles = sections.policyProfiles
  routingProfiles_eq : config.routingProfiles = sections.routingProfiles

/-- The one place where a whole resolution is taken apart. -/
theorem exists_resolvedBy {orders : SectionOrders document} {config : FullResolvedConfig}
    (h : resolve environment document orders = .ok config) :
    ∃ poolConfigs sections,
      ResolvedBy environment document orders config poolConfigs sections := by
  -- every check and section in the order of the source; a failure of any is the result
  unfold resolve at h
  obtain ⟨responseFilter, -, h⟩ := bind_eq_ok.mp h
  obtain ⟨management, -, h⟩ := bind_eq_ok.mp h
  obtain ⟨_, -, h⟩ := bind_eq_ok.mp h
  obtain ⟨windowCapacity, -, h⟩ := bind_eq_ok.mp h
  obtain ⟨ipAllowlist, -, h⟩ := bind_eq_ok.mp h
  obtain ⟨tokens, -, h⟩ := bind_eq_ok.mp h
  obtain ⟨_, -, h⟩ := bind_eq_ok.mp h
  obtain ⟨poolConfigs, hpoolIds, h⟩ := bind_eq_ok.mp h
  obtain ⟨clientTokens, -, h⟩ := bind_eq_ok.mp h
  obtain ⟨defaultPool, hdefaultPool, h⟩ := bind_eq_ok.mp h
  obtain ⟨timeoutProfile, -, h⟩ := bind_eq_ok.mp h
  obtain ⟨routing, -, h⟩ := bind_eq_ok.mp h
  obtain ⟨sections, hsections, h⟩ := bind_eq_ok.mp h
  obtain ⟨pools, hpools, h⟩ := bind_eq_ok.mp h
  obtain ⟨modelRoutes, hroutes, h⟩ := bind_eq_ok.mp h
  obtain ⟨modelGroups, hgroups, h⟩ := bind_eq_ok.mp h
  obtain ⟨_, -, h⟩ := bind_eq_ok.mp h
  obtain ⟨managementPrincipals, -, h⟩ := bind_eq_ok.mp h
  obtain rfl := Except.ok.inj h
  exact ⟨poolConfigs, sections, {
    toSectionsResolved := .of_resolveSections hsections
    poolIds := hpoolIds
    defaultPool := hdefaultPool
    pools := hpools
    modelRoutes := hroutes
    modelGroups := hgroups
    policyProfiles_eq := rfl
    routingProfiles_eq := rfl }⟩

/-- A loop that refuses duplicates succeeds on distinct ids only. -/
theorem distinct_of_collectDistinct {β γ : Type} {m : IdMap β} {duplicate : String → String}
    {entry : (Σ _ : String, β) → Except String (String × γ)}
    (hkey : ∀ a key value, entry a = .ok (key, value) → key = trimString a.1)
    {order : IterationOrder m} {result : IdMap γ}
    (h : collectDistinct duplicate entry order.1 ∅ = .ok result) : DistinctIds m :=
  order.nodup_trimmed_iff.mp (nodup_of_collectDistinct hkey h).1

/-- The guarded sections of an accepted document have no two ids that are the same. -/
theorem distinct_of_resolve {orders : SectionOrders document} {config : FullResolvedConfig}
    (h : resolve environment document orders = .ok config) :
    DistinctIds document.pools ∧ DistinctIds document.policyProfiles ∧
      DistinctIds document.routingProfiles ∧ DistinctIds document.modelGroups := by
  obtain ⟨poolConfigs, sections, hresolved⟩ := exists_resolvedBy h
  exact ⟨distinct_of_collectDistinct resolvePoolId_key hresolved.poolIds,
    distinct_of_collectDistinct resolvePolicyProfile_key hresolved.policyProfiles,
    distinct_of_collectDistinct resolveRoutingProfileEntry_key hresolved.routingProfiles,
    distinct_of_collectDistinct (resolveModelGroup_key config.modelRoutes)
      hresolved.modelGroups⟩

/-! ## §5. When the order does not matter. -/

/-- A resolution does not depend on the order, and refuses ids that are the same. -/
structure OrderFree (environment : ResolveEnvironment) (document : RegistryDocument) : Prop where
  agree : ∀ orders orders' : SectionOrders document,
    Agree (resolve environment document orders) (resolve environment document orders')
  distinct : ∀ (orders : SectionOrders document) (config : FullResolvedConfig),
    resolve environment document orders = .ok config → AllDistinct document

/-- With distinct ids in the sections that overwrite silently, every order resolves the same. -/
theorem OrderFree.of_distinct (h : UnguardedDistinct document) :
    OrderFree environment document where
  agree := resolve_agree h
  distinct := by
    intro orders config hconfig
    obtain ⟨hpools, hpolicies, hrouting, hgroups⟩ := distinct_of_resolve hconfig
    exact ⟨h, hpools, hpolicies, hrouting, hgroups⟩

/-- A document resolves to the same in every order exactly if the ids of the sections that
overwrite silently are distinct, or if it resolves in no order. -/
theorem orderFree_iff (environment : ResolveEnvironment) (document : RegistryDocument) :
    OrderFree environment document ↔ UnguardedDistinct document ∨
      ∀ orders config, resolve environment document orders ≠ .ok config := by
  constructor
  · intro h
    by_cases haccepted : ∃ orders config, resolve environment document orders = .ok config
    · obtain ⟨orders, config, hconfig⟩ := haccepted
      exact Or.inl (h.distinct orders config hconfig).toUnguardedDistinct
    · right
      intro orders config hconfig
      exact haccepted ⟨orders, config, hconfig⟩
  · intro h
    rcases h with h | hrejected
    · exact .of_distinct h
    · -- a document that is refused in every order is refused in any two
      refine ⟨fun orders orders' config => ?_, fun orders config hconfig => ?_⟩
      · have h := hrejected orders config
        have h' := hrejected orders' config
        exact ⟨fun hconfig => absurd hconfig h, fun hconfig => absurd hconfig h'⟩
      · exact absurd hconfig (hrejected orders config)

/-! Two providers of one id, `openai`: a relay, and what it is meant to be. -/

/-- One key in every keys file; of the tables, ASCII. -/
def oneKeyEnvironment : ResolveEnvironment where
  loadCredentialSet := fun _ path => .ok {
    credentials := [{ secret := "sk-main", source := ⟨some path, some 1, none⟩ }]
    report := ⟨path, 1, 1, 1, 0, 0, 0, none, none, 1, 0, []⟩ }
  hashToken := fun token => "digest of " ++ token
  hashGeneration := fun input => input.channelId.length
  buildRegex := fun _ => .error "no pattern"
  caseTables := ⟨fun c => [c.toLower], Char.isAlpha, fun c => c == '\''⟩
  credentialStorePath := none

/-- The channel of `shadowedDocument`. -/
def shadowedPool : PoolConfig where
  endpointCapabilities := ⟨none, none, none, none, []⟩
  enabled := true
  account := some "main"
  policyProfile := none
  routingProfile := some "sticky"
  providerKind := .openAiCompatible
  apiBase := ""
  credentialSet := "keys"
  authHeader := "authorization"
  authPrefix := "Bearer "
  errorRules := .default

/-- A document whose two providers have the same id but for a blank before it. -/
def shadowedDocument : RegistryDocument where
  listen := ⟨"127.0.0.1:4000", true⟩
  clientTokens := [⟨"client", "token", true, [], []⟩]
  management := some ⟨"admin", none, [], none, none⟩
  maxRequestBodyBytes := 2097152
  maxModelCatalogBodyBytes := 524288
  maxErrorBodyBytes := 1048576
  timeouts := ⟨none, none, none⟩
  routing := ⟨none, none, none⟩
  responseFilter := ⟨false, none, none, none, []⟩
  modelGroups := ∅
  defaultPool := none
  providers := [⟨"openai", ⟨.openAiCompatible, true⟩⟩, ⟨" openai", ⟨.genericHttp, true⟩⟩].toFinmap
  accounts := [⟨"main", ⟨"openai", "https://api.example.com/v1", "authorization", "Bearer ",
    true⟩⟩].toFinmap
  credentialSets := [⟨"keys", ⟨"keys.txt"⟩⟩].toFinmap
  policyProfiles := ∅
  defaultRoutingProfile := none
  routingProfiles := [⟨"sticky", ⟨.stickyUntilFailure, 20, false, 0, false⟩⟩].toFinmap
  modelRoutes := ∅
  pools := [⟨"chat", shadowedPool⟩].toFinmap

/-- The order in which the sections are written, with the providers as given. -/
def shadowedOrders (providers : IterationOrder shadowedDocument.providers) :
    SectionOrders shadowedDocument where
  pools := ⟨[⟨"chat", shadowedPool⟩], rfl⟩
  credentialSets := ⟨[⟨"keys", ⟨"keys.txt"⟩⟩], rfl⟩
  providers := providers
  accounts := ⟨[⟨"main", ⟨"openai", "https://api.example.com/v1", "authorization", "Bearer ",
    true⟩⟩], rfl⟩
  policyProfiles := ⟨[], rfl⟩
  routingProfiles := ⟨[⟨"sticky", ⟨.stickyUntilFailure, 20, false, 0, false⟩⟩], rfl⟩
  modelRoutes := ⟨[], rfl⟩
  modelGroups := ⟨[], rfl⟩

/-- What the channel's provider turns out to be. -/
def channelProviderKind (orders : SectionOrders shadowedDocument) :
    Except String (Option ProviderKind) :=
  (resolve oneKeyEnvironment shadowedDocument orders).map fun config =>
    (config.pools.lookup "chat").map (·.providerKind)

/-- The provider that is visited last overwrites the other, and gives the channel its kind: the
same document is resolved to a different one in either order. -/
theorem shadowed_provider_chosen_by_order :
    (channelProviderKind (shadowedOrders
        ⟨[⟨"openai", ⟨.openAiCompatible, true⟩⟩, ⟨" openai", ⟨.genericHttp, true⟩⟩], rfl⟩) =
      .ok (some .genericHttp)) ∧
    (channelProviderKind (shadowedOrders
        ⟨[⟨" openai", ⟨.genericHttp, true⟩⟩, ⟨"openai", ⟨.openAiCompatible, true⟩⟩],
          Quot.sound (.swap _ _ _)⟩) =
      .ok (some .openAiCompatible)) ∧
    ¬ OrderFree oneKeyEnvironment shadowedDocument := by
  refine ⟨rfl, rfl, ?_⟩
  intro h
  have hchosen : channelProviderKind (shadowedOrders
      ⟨[⟨" openai", ⟨.genericHttp, true⟩⟩, ⟨"openai", ⟨.openAiCompatible, true⟩⟩],
        Quot.sound (.swap _ _ _)⟩) = .ok (some .genericHttp) :=
    (h.agree (shadowedOrders
      ⟨[⟨"openai", ⟨.openAiCompatible, true⟩⟩, ⟨" openai", ⟨.genericHttp, true⟩⟩], rfl⟩)
      _).map_eq_ok rfl
  cases hchosen

end OneAiKey
