/-
  OneAiKey.Resolve — resolving a configuration document (`src/config.rs`).

  Ids and references are trimmed while they are read; the sections are hash
  maps whose loops run in an order that is not defined.  A resolution takes
  those orders as an argument, `SectionOrders`.

  `ResolveEnvironment` is what a resolution asks of the world and of libraries:
  the keys of a credential set, the token hash, the hasher behind the channel
  generation, the regex compiler and the Unicode tables.
-/
import Mathlib.Data.List.Sort
import Mathlib.Data.String.Basic
import OneAiKey.Config
import OneAiKey.Lib.Collect

namespace OneAiKey

/-! ## §1. Iteration orders. -/

/-- The entries of a map as some iteration over it visits them. -/
def IterationOrder {β : Type} (m : IdMap β) : Type :=
  { entries : List (Σ _ : String, β) // (entries : Multiset (Σ _ : String, β)) = m.entries }

/-- An order for each section that a resolution visits. -/
structure SectionOrders (document : RegistryDocument) where
  pools : IterationOrder document.pools
  credentialSets : IterationOrder document.credentialSets
  providers : IterationOrder document.providers
  accounts : IterationOrder document.accounts
  policyProfiles : IterationOrder document.policyProfiles
  routingProfiles : IterationOrder document.routingProfiles
  modelRoutes : IterationOrder document.modelRoutes
  modelGroups : IterationOrder document.modelGroups

/-- The keys in order. -/
def IdMap.sortedKeys {β : Type} (m : IdMap β) : List String :=
  m.liftOn (fun entries => entries.keys.insertionSort (· ≤ ·)) fun s t h => by
    have hkeys : s.keys.Perm t.keys := h.map Sigma.fst
    have hsorted := ((List.perm_insertionSort (· ≤ ·) s.keys).trans hkeys).trans
      (List.perm_insertionSort (· ≤ ·) t.keys).symm
    exact hsorted.eq_of_pairwise (fun a b _ _ hab hba => le_antisymm hab hba)
      (List.pairwise_insertionSort _ _) (List.pairwise_insertionSort _ _)

/-- The entries, sorted by their keys. -/
def IdMap.sortedEntries {β : Type} (m : IdMap β) : List (String × β) :=
  IdMap.sortedKeys m |>.filterMap fun key => (m.lookup key).map fun value => (key, value)

section Sorted

variable {β γ : Type} {m : IdMap β}

theorem IdMap.mem_sortedKeys {key : String} : key ∈ IdMap.sortedKeys m ↔ key ∈ m := by
  induction m using Finmap.induction_on with
  | H entries =>
      show key ∈ entries.keys.insertionSort (· ≤ ·) ↔ key ∈ entries.toFinmap
      rw [List.mem_insertionSort, Finmap.mem_toFinmap]
      exact Iff.rfl

theorem IdMap.nodup_sortedKeys (m : IdMap β) : (IdMap.sortedKeys m).Nodup := by
  induction m using Finmap.induction_on with
  | H entries =>
      show (entries.keys.insertionSort (· ≤ ·)).Nodup
      exact (List.perm_insertionSort (· ≤ ·) entries.keys).nodup_iff.mpr entries.keys_nodup

theorem IdMap.pairwise_sortedKeys (m : IdMap β) :
    (IdMap.sortedKeys m).Pairwise (· ≤ ·) := by
  induction m using Finmap.induction_on with
  | H entries => exact List.pairwise_insertionSort (· ≤ ·) entries.keys

/-- Maps of the same keys are visited in the same order. -/
theorem IdMap.sortedKeys_congr {m' : IdMap γ} (h : ∀ key, key ∈ m ↔ key ∈ m') :
    IdMap.sortedKeys m = IdMap.sortedKeys m' := by
  have hperm : (IdMap.sortedKeys m).Perm (IdMap.sortedKeys m') := by
    rw [List.perm_ext_iff_of_nodup (IdMap.nodup_sortedKeys m) (IdMap.nodup_sortedKeys m')]
    intro key
    rw [IdMap.mem_sortedKeys, IdMap.mem_sortedKeys]
    exact h key
  exact hperm.eq_of_pairwise (fun a b _ _ hab hba => le_antisymm hab hba)
    (IdMap.pairwise_sortedKeys m) (IdMap.pairwise_sortedKeys m')

theorem IdMap.mem_sortedEntries {key : String} {value : β} :
    (key, value) ∈ IdMap.sortedEntries m ↔ m.lookup key = some value := by
  unfold IdMap.sortedEntries
  rw [List.mem_filterMap]
  constructor
  · rintro ⟨key', -, h⟩
    obtain ⟨value', hvalue, heq⟩ := Option.map_eq_some_iff.mp h
    cases heq
    exact hvalue
  · intro h
    have hkey : key ∈ m := Finmap.mem_iff.mpr ⟨value, h⟩
    refine ⟨key, IdMap.mem_sortedKeys.mpr hkey, ?_⟩
    rw [h]
    rfl

/-- Maps that relate key by key are visited in related steps. -/
theorem IdMap.forall₂_sortedEntries {R : β → γ → Prop} {m' : IdMap γ}
    (h : ∀ key, Option.Rel R (m.lookup key) (m'.lookup key)) :
    List.Forall₂ (fun entry entry' => entry.1 = entry'.1 ∧ R entry.2 entry'.2)
      (IdMap.sortedEntries m) (IdMap.sortedEntries m') := by
  -- both maps have the same keys, so their entries come in the same order
  have hkeys : ∀ key, key ∈ m ↔ key ∈ m' := by
    intro key
    rw [Finmap.mem_iff, Finmap.mem_iff]
    have hkey := h key
    revert hkey
    cases m.lookup key <;> cases m'.lookup key <;> simp
  unfold IdMap.sortedEntries
  rw [← IdMap.sortedKeys_congr hkeys]
  induction IdMap.sortedKeys m with
  | nil => exact .nil
  | cons key keys ih =>
      rw [List.filterMap_cons, List.filterMap_cons]
      have hkey := h key
      revert hkey
      cases m.lookup key with
      | none =>
          cases m'.lookup key with
          | none => exact fun _ => ih
          | some value' => nofun
      | some value =>
          cases m'.lookup key with
          | none => nofun
          | some value' =>
              intro hkey
              cases hkey with
              | some hvalue => exact .cons ⟨rfl, hvalue⟩ ih

theorem IdMap.map_fst_sortedEntries (m : IdMap β) :
    (IdMap.sortedEntries m).map Prod.fst = IdMap.sortedKeys m := by
  unfold IdMap.sortedEntries
  rw [List.map_filterMap]
  have hkeys : ∀ key ∈ IdMap.sortedKeys m,
      ((m.lookup key).map fun value => (key, value)).map Prod.fst = some key := by
    intro key hkey
    obtain ⟨value, hvalue⟩ := Finmap.mem_iff.mp (IdMap.mem_sortedKeys.mp hkey)
    rw [hvalue]
    rfl
  rw [List.filterMap_congr hkeys, List.filterMap_some]

end Sorted

/-! ## §2. Small checks. -/

/-- An id is trimmed and may not be blank; the error names the section. -/
def normalizeResourceId (field id : String) : Except String String := do
  let id := trimString id
  ensure (!id.isEmpty) (field ++ " id must not be empty")
  return id

/-- A header is trimmed and may not be blank. -/
def normalizeAuthHeader (field authHeader : String) : Except String String := do
  let authHeader := trimString authHeader
  ensure (!authHeader.isEmpty) (field ++ " auth_header must not be empty")
  return authHeader

/-- A reference that may be absent. -/
def normalizeOptionalId (field : String) : Option String → Except String (Option String)
  | none => .ok none
  | some id => (normalizeResourceId field id).map some

/-- A number of seconds that has to be positive. -/
def secondsDuration (seconds : Nat) (field : String) : Except String Duration := do
  ensure (0 < seconds) (field ++ " must be greater than zero")
  return Duration.fromSecs seconds

/-- A bound that has to be positive. -/
def positiveUsize (value : Nat) (field : String) : Except String Nat := do
  ensure (0 < value) (field ++ " must be greater than zero")
  return value

/-- A bound that has to be positive and may not be greater than `max`. -/
def boundedPositiveUsize (value : Nat) (field : String) (max : Nat) : Except String Nat := do
  ensure (1 ≤ value && value ≤ max) (field ++ " must be in range 1 to " ++ toString max)
  return value

/-- The greatest capacity of an event window. -/
def eventWindowCapacityHardMax : Nat := 4096

/-- The capacity of the window of management events without a configured one. -/
def defaultManagementEventWindowCapacity : Nat := 1024

/-- The capacity of the window of filter events without a configured one. -/
def defaultResponseFilterEventWindowCapacity : Nat := 1024

/-- How long a filter event is an alert, without a configured time. -/
def defaultResponseFilterAlertWindowSeconds : Nat := 900

/-- The timeouts with their defaults; a timeout of no seconds is refused. -/
def TimeoutConfig.resolve (timeouts : TimeoutConfig) : Except String ResolvedTimeoutProfile := do
  return {
    connect := ← secondsDuration (timeouts.connectSeconds.getD 10) "timeouts.connect_seconds"
    nonStreamingTotal := ← secondsDuration (timeouts.nonStreamingTotalSeconds.getD 120)
      "timeouts.non_streaming_total_seconds"
    streamingIdle := ← secondsDuration (timeouts.streamingIdleSeconds.getD 300)
      "timeouts.streaming_idle_seconds" }

/-- The bounds of routing and telemetry with their defaults; a bound of zero is refused. -/
def RoutingConfig.resolve (routing : RoutingConfig) : Except String ResolvedRoutingConfig := do
  return {
    maxRouteCandidates := ← positiveUsize (routing.maxRouteCandidates.getD 16)
      "routing.max_route_candidates"
    maxModelCatalogChannels := ← positiveUsize (routing.maxModelCatalogChannels.getD 16)
      "routing.max_model_catalog_channels"
    telemetryBufferCapacity := ← boundedPositiveUsize
      (routing.telemetryBufferCapacity.getD 1024) "routing.telemetry_buffer_capacity"
      eventWindowCapacityHardMax }

/-- Without a list the interface is for loopback peers, and only if the process listens there. -/
def resolveManagementIpAllowlist (listen : ListenAddress) (ipAllowlist : Option (List String)) :
    Except String ResolvedManagementIpAllowlist :=
  match ipAllowlist with
  | some [] => .error "management.ip_allowlist must not be empty"
  | some addresses => .ok (.explicit addresses)
  | none =>
      if listen.isLoopback then .ok .loopbackOnly
      else .error ("management.ip_allowlist must be set when management is enabled on " ++
        "non-loopback listen address " ++ listen.address)

/-- A strategy by its name; without one, the rotating strategy. -/
def parseRouteStrategy (raw : Option String) : Except String RouteStrategy :=
  match raw.getD "priority_weighted_sticky" with
  | "priority" => .ok .priority
  | "priority_weighted_sticky" => .ok .priorityWeightedSticky
  | other => .error ("unsupported route strategy " ++ other)

/-! ## §3. The environment. -/

/-- What a channel gets from its account and provider, or from its own fields. -/
structure ResolvedUpstreamAccount where
  providerId : String
  accountId : String
  providerEnabled : Bool
  accountConfiguredEnabled : Bool
  accountEnabled : Bool
  providerKind : ProviderKind
  apiBase : String
  authHeader : String
  authPrefix : String
  deriving DecidableEq, Repr

/-- What is hashed into a channel's configuration generation. -/
structure ChannelConfigGenerationInput where
  channelId : String
  configuredEnabled : Bool
  account : ResolvedUpstreamAccount
  endpointCapabilities : ResolvedEndpointCapabilities
  credentialSetId : CredentialSetId
  routingProfileId : String
  routingPolicy : RoutingPolicy
  errorRules : ErrorRulesConfig
  deriving DecidableEq, Repr

structure ResolveEnvironment where
  /-- `CredentialRepository::load_credential_set`: of a set and its keys file. -/
  loadCredentialSet : CredentialSetId → String → Except String KeyImport
  /-- `hash_token`. -/
  hashToken : String → String
  /-- The `DefaultHasher`. -/
  hashGeneration : ChannelConfigGenerationInput → Nat
  buildRegex : String → Except String Regex
  caseTables : CaseTables
  credentialStorePath : Option String

variable (environment : ResolveEnvironment)

/-- An id that stays the same over restarts, since it is made of a hash. -/
def ResolveEnvironment.stableId (label value : String) : String :=
  label ++ "_" ++ environment.hashToken value

/-- Zero stands for no generation. -/
def channelConfigGeneration (input : ChannelConfigGenerationInput) : Nat :=
  match environment.hashGeneration input with
  | 0 => 1
  | generation => generation

/-! ## §4. The response filter. -/

/-- A value or pattern that the kind of a rule needs; a blank one is missing. -/
def requiredResponseFilterValue (ruleId field : String) (value : Option String) :
    Except String String := do
  let value := trimString (value.getD "")
  ensure (!value.isEmpty) ("response_filter rule " ++ ruleId ++ " requires non-empty " ++ field)
  return value

/-- A literal needs a value, a regular expression a pattern. -/
def resolveResponseFilterKind (id : String) (rule : ResponseFilterRuleConfig) :
    Except String ResponseFilterRuleKind :=
  match rule.kind with
  | .literal => do
      return .literal (← requiredResponseFilterValue id "value" rule.value) rule.caseSensitive
  | .regex => do
      return .regex (← requiredResponseFilterValue id "pattern" rule.pattern)
  | .requiredLiteral => do
      return .requiredLiteral (← requiredResponseFilterValue id "value" rule.value)
        rule.caseSensitive
  | .requiredRegex => do
      return .requiredRegex (← requiredResponseFilterValue id "pattern" rule.pattern)

/-- The loop over the enabled rules. -/
def resolveResponseFilterRules : List ResponseFilterRuleConfig → List String →
    Except String (List ResponseFilterRuleSpec)
  | [], _ => .ok []
  | rule :: rules, seen => do
      let id := trimString rule.id
      ensure (!id.isEmpty) "response_filter rule id must not be empty"
      ensure (!seen.contains id) ("duplicate response_filter rule id " ++ id)
      let kind ← resolveResponseFilterKind id rule
      let rest ← resolveResponseFilterRules rules (id :: seen)
      return { id, kind, action := rule.action } :: rest

/-- The filter with its enabled rules; a disabled rule is neither checked nor compiled. -/
def ResponseFilterConfig.resolve (config : ResponseFilterConfig) :
    Except String ResolvedResponseFilterConfig := do
  let rules ← resolveResponseFilterRules (config.rules.filter (·.enabled)) []
  let policy ← ResponseFilterPolicy.compile environment.buildRegex environment.caseTables {
    enabled := config.enabled
    replacement := config.replacement.getD ""
    rules := rules }
  return {
    policy := policy
    eventWindowCapacity := ← boundedPositiveUsize
      (config.eventWindowCapacity.getD defaultResponseFilterEventWindowCapacity)
      "response_filter.event_window_capacity" eventWindowCapacityHardMax
    alertWindow := ← secondsDuration
      (config.alertWindowSeconds.getD defaultResponseFilterAlertWindowSeconds)
      "response_filter.alert_window_seconds" }

/-! ## §5. Client tokens and principals. -/

/-- The loop over the client tokens, with the names and the hashes seen so far. -/
def resolveClientTokens : List ClientTokenConfig → List String → List String →
    Except String (List ResolvedClientToken)
  | [], _, _ => .ok []
  | config :: configs, names, hashes => do
      let token := trimString config.token
      ensure (!token.isEmpty) "client token must not be empty"
      let name := trimString config.name
      ensure (!name.isEmpty) "client token name must not be empty"
      ensure (!names.contains name) ("duplicate client token name " ++ name)
      let tokenHash := environment.hashToken token
      ensure (!hashes.contains tokenHash) ("duplicate client token secret for " ++ name)
      let rest ← resolveClientTokens configs (name :: names) (tokenHash :: hashes)
      return {
        id := environment.stableId "client" name
        name := name
        tokenHash := tokenHash
        enabled := config.enabled
        allowedModelGroups := config.allowedModelGroups
        allowedChannels := config.allowedChannels } :: rest

/-- The channels of a token's scope, each once. -/
def resolveAllowedChannels (poolConfigs : IdMap PoolConfig) (tokenName : String) :
    List String → List String → Except String (List String)
  | [], allowedChannels => .ok allowedChannels
  | channel :: channels, allowedChannels => do
      let channelId ← normalizeResourceId ("client token " ++ tokenName ++ " allowed_channels")
        channel
      ensure (decide (channelId ∈ poolConfigs))
        ("client token " ++ tokenName ++ " references unknown channel " ++ channelId)
      resolveAllowedChannels poolConfigs tokenName channels
        (if allowedChannels.contains channelId then allowedChannels
          else allowedChannels ++ [channelId])

/-- The channels of every token, each of which has to be configured. -/
def resolveTokenScopes (poolConfigs : IdMap PoolConfig) (tokens : List ResolvedClientToken) :
    Except String (List ResolvedClientToken) :=
  tokens.mapM fun token => do
    let allowedChannels ← resolveAllowedChannels poolConfigs token.name token.allowedChannels []
    return { token with allowedChannels }

/-- The loop over the configured principals, with the names, hashes and ids seen so far. -/
def resolvePrincipals : List ManagementPrincipalConfig → List String → List String →
    List String → Except String (List ResolvedManagementPrincipal)
  | [], _, _, _ => .ok []
  | principal :: principals, names, hashes, ids => do
      let name := trimString principal.name
      ensure (!name.isEmpty) "management.principals name must not be empty"
      ensure (!names.contains name) ("duplicate management principal name " ++ name)
      let token := trimString principal.token
      ensure (!token.isEmpty) "management.principals token must not be empty"
      let tokenHash := environment.hashToken token
      ensure (!hashes.contains tokenHash) ("duplicate management principal secret for " ++ name)
      let id := environment.stableId "management" name
      ensure (!ids.contains id) ("duplicate management principal id for " ++ name)
      let rest ← resolvePrincipals principals (name :: names) (tokenHash :: hashes) (id :: ids)
      return { id, name, role := principal.role, tokenHash, enabled := principal.enabled } :: rest

/-- The admin of the configured token, and then the principals with names, hashes and ids of their
own. -/
def resolveManagementPrincipals (adminToken : String)
    (principals : List ManagementPrincipalConfig) :
    Except String (List ResolvedManagementPrincipal) := do
  let adminTokenHash := environment.hashToken adminToken
  let bootstrapId := environment.stableId "management" "admin"
  let rest ← resolvePrincipals environment principals ["local-admin"] [adminTokenHash]
    [bootstrapId]
  return {
    id := bootstrapId
    name := "local-admin"
    role := .admin
    tokenHash := adminTokenHash
    enabled := true } :: rest

/-! ## §6. Profiles. -/

/-- The probe actions with their defaults, if no outcome gets an action that does not fit it. -/
def ProbeResultPolicy.fromConfig (config : ProbeResultActionConfig) :
    Except String ProbeResultPolicy := do
  let policy : ProbeResultPolicy := {
    success := config.success.getD .restore
    invalid := config.invalid.getD .expire
    quotaExhausted := config.quotaExhausted.getD .noop
    rateLimited := config.rateLimited.getD .noop
    providerUnavailable := config.providerUnavailable.getD .noop
    unsupportedModel := config.unsupportedModel.getD .noop
    unknown := config.unknown.getD .noop
    cooldown := Duration.fromSecs (max (config.cooldownSeconds.getD 20) 1) }
  ensure (policy.providerUnavailable ≠ .expire)
    "probe_result_actions.provider_unavailable cannot expire credentials"
  ensure (policy.providerUnavailable ≠ .quotaExhaust)
    "probe_result_actions.provider_unavailable cannot quota-exhaust credentials"
  ensure (policy.unsupportedModel ≠ .expire)
    "probe_result_actions.unsupported_model cannot expire credentials"
  ensure (policy.unsupportedModel ≠ .quotaExhaust)
    "probe_result_actions.unsupported_model cannot quota-exhaust credentials"
  return policy

/-- A success restores a credential and an invalid key expires it; nothing else changes anything.
-/
def ProbeResultPolicy.default : ProbeResultPolicy :=
  ⟨.restore, .expire, .noop, .noop, .noop, .noop, .noop, Duration.fromSecs 20⟩

/-- A routing profile with its seconds as a duration, if its fields fit together. -/
def resolveRoutingProfile (id : String) (profile : RoutingProfileConfig) :
    Except String ResolvedRoutingProfile := do
  ensure (0 < profile.defaultCredentialCooldownSeconds)
    ("routing_profiles." ++ id ++ ".default_credential_cooldown_seconds " ++
      "must be greater than zero")
  let maxRetries := profile.sameRequestMaxRetries
  ensure (profile.sameRequestRetryEnabled || maxRetries == 0)
    ("routing_profiles." ++ id ++ ".same_request_credential_retry.max_retries " ++
      "must be 0 when disabled")
  ensure (!profile.sameRequestRetryEnabled || 0 < maxRetries)
    ("routing_profiles." ++ id ++ ".same_request_credential_retry.max_retries " ++
      "must be greater than zero when enabled")
  return {
    id := id
    keySelection := profile.keySelection
    defaultCredentialCooldown := Duration.fromSecs profile.defaultCredentialCooldownSeconds
    sameRequestCredentialRetryEnabled := profile.sameRequestRetryEnabled
    maxSameRequestRetries := maxRetries
    routeTargetRetryEnabled := profile.routeTargetRetryEnabled }

/-- A policy profile whose rules make a classifier. -/
def resolvePolicyProfile (entry : Σ _ : String, PolicyProfileConfig) :
    Except String (String × ResolvedPolicyProfile) := do
  let profile := entry.2
  let id ← normalizeResourceId "policy_profiles" entry.1
  validateUniqueAdaptationRuleIds ("policy_profile " ++ id) profile.errorRules.adaptationRules
  let _ ← profile.errorRules.intoClassifierWithContext ("policy_profiles." ++ id ++ ".error_rules")
  let probeResultPolicy ← ProbeResultPolicy.fromConfig profile.probeResultActions
  return (id, { id, probeResultPolicy, errorRules := profile.errorRules })

/-! ## §7. The sections that channels refer to. -/

/-- The text of a refused id. -/
def duplicateId (sectionName id : String) : String := "duplicate " ++ sectionName ++ " id " ++ id

/-- A credential set with the keys of its file. -/
def resolveCredentialSet (entry : Σ _ : String, CredentialSetConfig) :
    Except String (String × KeyImport) := do
  let id ← normalizeResourceId "credential_sets" entry.1
  let imported ← environment.loadCredentialSet id entry.2.keysFile
  return (id, imported)

/-- A provider under its trimmed id. -/
def resolveProvider (entry : Σ _ : String, ProviderConfig) :
    Except String (String × ProviderConfig) := do
  let id ← normalizeResourceId "providers" entry.1
  return (id, entry.2)

/-- An account under its trimmed id, with its fields normalized; its provider has to be there. -/
def resolveAccount (providers : IdMap ProviderConfig) (entry : Σ _ : String, AccountConfig) :
    Except String (String × AccountConfig) := do
  let id ← normalizeResourceId "accounts" entry.1
  let providerId ← normalizeResourceId "accounts.provider" entry.2.provider
  ensure (decide (providerId ∈ providers))
    ("account " ++ id ++ " references unknown provider " ++ providerId)
  return (id, { entry.2 with provider := providerId })

/-- A routing profile under its trimmed id. -/
def resolveRoutingProfileEntry (entry : Σ _ : String, RoutingProfileConfig) :
    Except String (String × ResolvedRoutingProfile) := do
  let id ← normalizeResourceId "routing_profiles" entry.1
  let resolved ← resolveRoutingProfile id entry.2
  return (id, resolved)

/-- A channel under its trimmed id, not yet resolved. -/
def resolvePoolId (entry : Σ _ : String, PoolConfig) : Except String (String × PoolConfig) := do
  let id ← normalizeResourceId "pools" entry.1
  return (id, entry.2)

/-! ## §8. Channels. -/

/-- The kinds of providers as configuration files and generated ids spell them. -/
def ProviderKind.stableIdFragment : ProviderKind → String
  | openAiCompatible => "openai_compatible"
  | genericHttp => "generic_http"

/-- A channel has to name a credential set. -/
def resolvePoolCredentialSetId (channelId : String) (pool : PoolConfig) :
    Except String CredentialSetId := do
  let id ← normalizeResourceId "pool.credential_set" pool.credentialSet
  ensure (!id.isEmpty) ("pool " ++ channelId ++ " must reference a credential_set")
  return id

/-- A channel without an account is its own endpoint; one with an account has the
account's. -/
def resolvePoolAccount (channelId : String) (pool : PoolConfig)
    (providers : IdMap ProviderConfig) (accounts : IdMap AccountConfig) :
    Except String ResolvedUpstreamAccount :=
  match pool.account with
  | none => do
      let field := "pool " ++ channelId
      return {
        providerId := "provider:" ++ pool.providerKind.stableIdFragment
        accountId := "account:" ++ channelId
        providerEnabled := true
        accountConfiguredEnabled := true
        accountEnabled := true
        providerKind := pool.providerKind
        apiBase := ← normalizeApiBase field pool.apiBase
        authHeader := ← normalizeAuthHeader field pool.authHeader
        authPrefix := pool.authPrefix }
  | some accountRef => do
      let accountKey ← normalizeResourceId "pool.account" accountRef
      let account ← okOrElse (accounts.lookup accountKey)
        ("pool " ++ channelId ++ " references unknown account " ++ accountKey)
      let provider ← okOrElse (providers.lookup account.provider)
        ("account " ++ accountKey ++ " references unknown provider " ++ account.provider)
      let field := "account " ++ accountKey
      return {
        providerId := "provider:" ++ account.provider
        accountId := "account:" ++ accountKey
        providerEnabled := provider.enabled
        accountConfiguredEnabled := account.enabled
        accountEnabled := account.enabled && provider.enabled
        providerKind := provider.providerKind
        apiBase := ← normalizeApiBase field account.apiBase
        authHeader := ← normalizeAuthHeader field account.authHeader
        authPrefix := account.authPrefix }

/-- A channel without a routing profile takes the default one. -/
def resolvePoolRoutingProfileId (channelId : String) (pool : PoolConfig)
    (defaultRoutingProfile : Option String) : Except String String :=
  match pool.routingProfile with
  | some id => normalizeResourceId ("pool " ++ channelId ++ " routing_profile") id
  | none =>
      match defaultRoutingProfile with
      | some id => .ok id
      | none => .error ("pool " ++ channelId ++
          " requires routing_profile or default_routing_profile")

/-- The fields of a channel's own rules before those of its profile. -/
def mergeErrorRules (own profile : ErrorRulesConfig) : ErrorRulesConfig where
  relayProfile := own.relayProfile.or profile.relayProfile
  balanceScope := own.balanceScope.or profile.balanceScope
  keepCodes := own.keepCodes.or profile.keepCodes
  switchCodes := own.switchCodes.or profile.switchCodes
  expireCodes := own.expireCodes.or profile.expireCodes
  keepStatuses := own.keepStatuses.or profile.keepStatuses
  switchStatuses := own.switchStatuses.or profile.switchStatuses
  expireStatuses := own.expireStatuses.or profile.expireStatuses
  adaptationRules := normalizeAdaptationRuleIds profile.adaptationRules ++
    normalizeAdaptationRuleIds own.adaptationRules

/-- The profile that a channel refers to, if it refers to one. -/
def lookupPolicyProfile (unknown : String) (policyProfiles : IdMap ResolvedPolicyProfile) :
    Option String → Except String (Option ResolvedPolicyProfile)
  | none => .ok none
  | some id =>
      match policyProfiles.lookup id with
      | some profile => .ok (some profile)
      | none => .error (unknown ++ id)

/-- The rules of a channel laid over those of its profile, with a note of where each comes from.
-/
def resolvePoolErrorPolicy (channelId : String) (pool : PoolConfig)
    (policyProfiles : IdMap ResolvedPolicyProfile) :
    Except String (ErrorRulesConfig × ResolvedErrorPolicySources) := do
  validateUniqueAdaptationRuleIds ("pool " ++ channelId) pool.errorRules.adaptationRules
  let profileId ← normalizeOptionalId "pool.policy_profile" pool.policyProfile
  let profile ← lookupPolicyProfile ("pool " ++ channelId ++ " references unknown policy_profile ")
    policyProfiles profileId
  let profileRules := (profile.map (·.errorRules)).getD .default
  let merged := mergeErrorRules pool.errorRules profileRules
  validateUniqueMergedAdaptationRuleIds channelId merged.adaptationRules
  let fromProfile := match profileId with
    | some profileId => profileRules.adaptationRules.map fun rule =>
        AdaptationRuleSource.mk (trimString rule.id) (.profile profileId)
    | none => []
  let fromPool := pool.errorRules.adaptationRules.map fun rule =>
    AdaptationRuleSource.mk (trimString rule.id) .poolOverride
  return (merged, {
    profileId := profileId
    hasPoolOverride := pool.errorRules.hasOverride
    adaptationRuleSources := fromProfile ++ fromPool })

/-- The probe actions of the channel's profile, or the default ones. -/
def resolvePoolProbeResultPolicy (pool : PoolConfig)
    (policyProfiles : IdMap ResolvedPolicyProfile) : Except String ProbeResultPolicy := do
  let profileId ← normalizeOptionalId "pool.policy_profile" pool.policyProfile
  let profile ← lookupPolicyProfile "pool references unknown policy_profile " policyProfiles
    profileId
  return (profile.map (·.probeResultPolicy)).getD .default

/-- What the channels refer to. -/
structure ResolvedSections where
  credentialSets : IdMap KeyImport
  providers : IdMap ProviderConfig
  accounts : IdMap AccountConfig
  policyProfiles : IdMap ResolvedPolicyProfile
  routingProfiles : IdMap ResolvedRoutingProfile
  defaultRoutingProfile : Option String

/-- The body of the loop over the channels. -/
def resolvePool (sections : ResolvedSections) (entry : String × PoolConfig) :
    Except String (String × FullPoolConfig) := do
  let (name, pool) := entry
  -- the references of the channel, each with an error of its own
  let credentialSetId ← resolvePoolCredentialSetId name pool
  let account ← resolvePoolAccount name pool sections.providers sections.accounts
  let endpointCapabilities ← pool.endpointCapabilities.resolveWithBase
    account.providerKind.defaultEndpointCapabilities
  let routingProfileId ← resolvePoolRoutingProfileId name pool sections.defaultRoutingProfile
  let routingProfile ← okOrElse (sections.routingProfiles.lookup routingProfileId)
    ("pool " ++ name ++ " references unknown routing_profile " ++ routingProfileId)
  let routingPolicy : RoutingPolicy := {
    retrySwitchedKeyInSameRequest := routingProfile.sameRequestCredentialRetryEnabled
    maxSameRequestRetries := routingProfile.maxSameRequestRetries
    routeTargetRetryEnabled := routingProfile.routeTargetRetryEnabled
    defaultCredentialCooldown := routingProfile.defaultCredentialCooldown }
  let (effectiveErrorRules, errorPolicySources) ←
    resolvePoolErrorPolicy name pool sections.policyProfiles
  let probeResultPolicy ← resolvePoolProbeResultPolicy pool sections.policyProfiles
  -- the keys of the set were imported when the set was resolved
  let imported ← okOrElse (sections.credentialSets.lookup credentialSetId)
    ("pool " ++ name ++ " references unknown credential_set " ++ credentialSetId)
  let errorClassifier ← effectiveErrorRules.intoClassifierWithContext
    ("pools." ++ name ++ ".effective_error_rules")
  return (name, {
    configGeneration := channelConfigGeneration environment {
      channelId := name
      configuredEnabled := pool.enabled
      account := account
      endpointCapabilities := endpointCapabilities
      credentialSetId := credentialSetId
      routingProfileId := routingProfileId
      routingPolicy := routingPolicy
      errorRules := effectiveErrorRules }
    configuredEnabled := pool.enabled
    providerId := account.providerId
    accountId := account.accountId
    providerEnabled := account.providerEnabled
    accountConfiguredEnabled := account.accountConfiguredEnabled
    accountEnabled := account.accountEnabled
    credentialSetId := credentialSetId
    errorPolicySources := errorPolicySources
    probeResultPolicy := probeResultPolicy
    routingProfileId := routingProfileId
    routingPolicy := routingPolicy
    routingPolicySources := ⟨routingProfileId⟩
    providerKind := account.providerKind
    endpointCapabilities := endpointCapabilities
    authHeader := account.authHeader
    authPrefix := account.authPrefix
    errorClassifier := errorClassifier
    keyImportReport := imported.report
    keyPool := {
      name := name
      credentialNamespace := credentialSetId
      apiBase := account.apiBase
      credentials := imported.credentials } })

/-! ## §9. Routes and groups. -/

/-- A target whose channel has to be configured; the channel gives it the kind of the provider. -/
def resolveRouteTarget (pools : IdMap FullPoolConfig) (publicModel : String)
    (target : ModelRouteTargetConfig) : Except String RouteTarget := do
  let channelId ← normalizeResourceId "model_routes.target.channel" target.channel
  let pool ← okOrElse (pools.lookup channelId)
    ("model_routes." ++ publicModel ++ " target channel " ++ channelId ++ " does not exist")
  return {
    channelId := channelId
    providerKind := pool.providerKind
    upstreamModel := target.upstreamModel
    priority := target.priority
    weight := target.weight
    enabled := target.enabled }

/-- The public model of a route is taken as it is. -/
def resolveModelRoute (pools : IdMap FullPoolConfig) (entry : Σ _ : String, ModelRouteConfig) :
    Except String (String × ModelRoute) := do
  let publicModel := entry.1
  let strategy ← parseRouteStrategy entry.2.strategy
  ensure (!entry.2.targets.isEmpty)
    ("model_routes." ++ publicModel ++ ".targets must not be empty")
  let targets ← entry.2.targets.mapM (resolveRouteTarget pools publicModel)
  return (publicModel, {
    publicModel := publicModel
    targets := targets.insertionSort (·.priority ≤ ·.priority)
    strategy := strategy })

/-- The models of a group, each once. -/
def resolveGroupModels (modelRoutes : IdMap ModelRoute) (groupId : String) :
    List String → List String → Except String (List String)
  | [], models => .ok models
  | model :: rest, models => do
      let model := trimString model
      ensure (!model.isEmpty)
        ("model_groups." ++ groupId ++ ".models must not contain empty model ids")
      ensure (decide (model ∈ modelRoutes))
        ("model_groups." ++ groupId ++ " references unknown public model " ++ model)
      resolveGroupModels modelRoutes groupId rest
        (if models.contains model then models else models ++ [model])

/-- A model group that is not empty and whose models have routes. -/
def resolveModelGroup (modelRoutes : IdMap ModelRoute) (entry : Σ _ : String, ModelGroupConfig) :
    Except String (String × ResolvedModelGroup) := do
  let groupId ← normalizeResourceId "model_groups" entry.1
  ensure (!entry.2.models.isEmpty) ("model_groups." ++ groupId ++ ".models must not be empty")
  let models ← resolveGroupModels modelRoutes groupId entry.2.models []
  return (groupId, { id := groupId, models := models })

/-! ## §10. The document. -/

/-- The sections that channels refer to; a later credential set, provider or account
replaces an earlier one of its id. -/
def resolveSections (document : RegistryDocument) (orders : SectionOrders document) :
    Except String ResolvedSections := do
  let credentialSets ← Collect.collect (resolveCredentialSet environment)
    orders.credentialSets.1 ∅
  let providers ← Collect.collect resolveProvider orders.providers.1 ∅
  let accounts ← Collect.collect (resolveAccount providers) orders.accounts.1 ∅
  let policyProfiles ← Collect.collectDistinct (duplicateId "policy_profiles")
    resolvePolicyProfile orders.policyProfiles.1 ∅
  let routingProfiles ← Collect.collectDistinct (duplicateId "routing_profiles")
    resolveRoutingProfileEntry orders.routingProfiles.1 ∅
  let defaultRoutingProfile ← normalizeOptionalId "default_routing_profile"
    document.defaultRoutingProfile
  ensure (defaultRoutingProfile.all fun id => decide (id ∈ routingProfiles))
    ("default_routing_profile " ++ defaultRoutingProfile.getD "" ++ " does not exist")
  return {
    credentialSets, providers, accounts, policyProfiles, routingProfiles, defaultRoutingProfile }

/-- `resolve_inner_with_credential_repository_and_store_path`, with the response filter
that its caller resolves first. -/
def resolve (document : RegistryDocument) (orders : SectionOrders document) :
    Except String FullResolvedConfig := do
  let responseFilter ← document.responseFilter.resolve environment
  let management ← okOrElse document.management "management.admin_token must be set"
  let adminToken := trimString management.adminToken
  ensure (!adminToken.isEmpty) "management.admin_token must not be empty"
  let managementEventWindowCapacity ← boundedPositiveUsize
    (management.eventWindowCapacity.getD defaultManagementEventWindowCapacity)
    "management.event_window_capacity" eventWindowCapacityHardMax
  let managementIpAllowlist ← resolveManagementIpAllowlist document.listen management.ipAllowlist
  let tokens ← resolveClientTokens environment document.clientTokens [] []
  ensure (environment.credentialStorePath.isSome || !tokens.isEmpty)
    "at least one client token must be configured"
  -- the ids of the channels come first: the scopes of the tokens refer to them
  let poolConfigs ← Collect.collectDistinct (duplicateId "pools") resolvePoolId orders.pools.1 ∅
  let clientTokens ← resolveTokenScopes poolConfigs tokens
  let defaultPool ← normalizeOptionalId "default_pool" document.defaultPool
  let timeoutProfile ← document.timeouts.resolve
  let routing ← document.routing.resolve
  -- the sections that a channel may refer to, and then the channels in the order of their ids
  let sections ← resolveSections environment document orders
  let pools ← Collect.collect (resolvePool environment sections)
    (IdMap.sortedEntries poolConfigs) ∅
  let modelRoutes ← Collect.collect (resolveModelRoute pools) orders.modelRoutes.1 ∅
  let modelGroups ← Collect.collectDistinct (duplicateId "model_groups")
    (resolveModelGroup modelRoutes) orders.modelGroups.1 ∅
  -- the default channel has to be one of the resolved ones
  ensure (defaultPool.all fun id => decide (id ∈ pools))
    ("default_pool " ++ defaultPool.getD "" ++ " does not exist")
  let managementPrincipals ← resolveManagementPrincipals environment adminToken
    management.principals
  return {
    listen := document.listen
    clientTokens := clientTokens
    managementPrincipals := managementPrincipals
    managementIpAllowlist := managementIpAllowlist
    maxRequestBodyBytes := document.maxRequestBodyBytes
    maxModelCatalogBodyBytes := document.maxModelCatalogBodyBytes
    maxErrorBodyBytes := document.maxErrorBodyBytes
    timeoutProfile := timeoutProfile
    routing := routing
    responseFilter := responseFilter
    managementEventLogPath := management.eventLogPath
    managementEventWindowCapacity := managementEventWindowCapacity
    credentialStorePath := environment.credentialStorePath
    policyProfiles := sections.policyProfiles
    routingProfiles := sections.routingProfiles
    defaultPool := defaultPool
    pools := pools
    modelGroups := modelGroups
    modelRoutes := modelRoutes }

end OneAiKey
