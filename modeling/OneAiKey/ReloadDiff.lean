/-
  OneAiKey.ReloadDiff — what a reload would change (`src/management_runtime_diff.rs`,
  the topologies of `src/state.rs`).

  An operator asks for the diff before a reload.  The active side is what the
  runtime keeps for the management interface: the providers, accounts and
  credential sets are put together from the channels that use them.  The staged
  side is the rows of the stored document, as they are written there.  Seven
  sections compare the two by id, each by a summary of the resource.

  Of a topology only what a summary reads is kept, of the explanation of the
  runtime only what the diff copies.

  Main results:
    * `diffMaps_empty_iff` — a section is empty when its two maps are equal;
    * `noChange_iff` — an answer reports nothing when all seven pairs are.
-/
import OneAiKey.Lib.Grouping
import OneAiKey.RegistryAudit

namespace OneAiKey

open Grouping

/-! ## §1. Texts. -/

/-- The strategies as the configuration and the summaries spell them. -/
def RouteStrategy.asStr : RouteStrategy → String
  | priority => "priority"
  | priorityWeightedSticky => "priority_weighted_sticky"

/-- The values of a map. -/
def IdMap.values {β : Type} (m : IdMap β) : List β := (IdMap.sortedEntries m).map Prod.snd

/-! ## §2. The topologies. -/

/-- A provider as the active runtime shows it: what its channels say of it. -/
structure ProviderTopologyProjection where
  id : String
  providerKind : ProviderKind
  enabled : Bool
  deriving DecidableEq, Repr

/-- An account as the active runtime shows it; its key, address and header are not shown. -/
structure AccountTopologyProjection where
  id : String
  providerId : String
  enabled : Bool
  deriving DecidableEq, Repr

/-- A credential set as the active runtime shows it: its id. -/
structure CredentialSetTopologyProjection where
  id : CredentialSetId
  deriving DecidableEq, Repr

/-- A channel as the active runtime shows it. -/
structure ChannelTopologyProjection where
  id : String
  configuredEnabled : Bool
  accountId : String
  credentialSetId : CredentialSetId
  providerKind : ProviderKind
  endpointCapabilities : ResolvedEndpointCapabilities
  routingProfileId : String
  deriving DecidableEq, Repr

/-- What the first channel of a provider says about it. -/
def ProviderTopologyProjection.start (entry : String × FullPoolConfig) :
    ProviderTopologyProjection :=
  ⟨entry.2.providerId, entry.2.providerKind, true⟩

/-- `ProviderTopologyProjectionBuilder::add_channel`. -/
def ProviderTopologyProjection.addChannel (provider : ProviderTopologyProjection)
    (entry : String × FullPoolConfig) : ProviderTopologyProjection :=
  { provider with enabled := provider.enabled && entry.2.providerEnabled }

/-- What the first channel of an account says about it. -/
def AccountTopologyProjection.start (entry : String × FullPoolConfig) :
    AccountTopologyProjection :=
  ⟨entry.2.accountId, entry.2.providerId, true⟩

/-- `AccountTopologyProjectionBuilder::add_channel`. -/
def AccountTopologyProjection.addChannel (account : AccountTopologyProjection)
    (entry : String × FullPoolConfig) : AccountTopologyProjection :=
  { account with enabled := account.enabled && entry.2.accountConfiguredEnabled }

/-- The part of a channel's configuration that is shown. -/
def ChannelTopologyProjection.fromPoolConfig (entry : String × FullPoolConfig) :
    ChannelTopologyProjection where
  id := entry.1
  configuredEnabled := entry.2.configuredEnabled
  accountId := entry.2.accountId
  credentialSetId := entry.2.credentialSetId
  providerKind := entry.2.providerKind
  endpointCapabilities := entry.2.endpointCapabilities
  routingProfileId := entry.2.routingProfileId

section Topologies

variable (poolConfigs : List (String × FullPoolConfig))

/-- The providers of the channels.  The first channel of a provider starts its entry, the others
are added to it. -/
def providersOfChannels : IdMap ProviderTopologyProjection :=
  group (·.2.providerId) .start .addChannel poolConfigs

/-- The accounts of the channels, grouped as the providers are. -/
def accountsOfChannels : IdMap AccountTopologyProjection :=
  group (·.2.accountId) .start .addChannel poolConfigs

/-- The credential sets of the channels. -/
def credentialSetsOfChannels : IdMap CredentialSetTopologyProjection :=
  group (·.2.credentialSetId) (fun entry => ⟨entry.2.credentialSetId⟩) (fun set _ => set)
    poolConfigs

end Topologies

namespace RuntimeCatalogSnapshot

variable (catalogs : RuntimeCatalogSnapshot)

/-- The providers of the active runtime in the order of their ids. -/
def providerTopologies : List ProviderTopologyProjection :=
  (providersOfChannels catalogs.managementProjection).values

/-- The accounts of the active runtime in the order of their ids. -/
def accountTopologies : List AccountTopologyProjection :=
  (accountsOfChannels catalogs.managementProjection).values

/-- The credential sets of the active runtime in the order of their ids. -/
def credentialSetTopologies : List CredentialSetTopologyProjection :=
  (credentialSetsOfChannels catalogs.managementProjection).values

/-- The channels of the active runtime in the order of their ids. -/
def channelTopologies : List ChannelTopologyProjection :=
  (catalogs.managementProjection.map .fromPoolConfig).insertionSort fun left right =>
    left.id ≤ right.id

end RuntimeCatalogSnapshot

/-! ## §3. The comparison of two maps. -/

/-- A resource that is on both sides, with the names of the fields in which the sides differ. -/
structure RuntimeReloadResourceChange where
  id : String
  changedFields : List String
  deriving DecidableEq, Repr

/-- The differences of one kind of resource, by their ids. -/
structure RuntimeReloadResourceDiff where
  resourceType : String
  added : List String
  removed : List String
  changed : List RuntimeReloadResourceChange
  deriving DecidableEq, Repr

/-- The names of the fields that differ. -/
def changedFieldPairs (fields : List (String × Bool)) : List String :=
  fields.filterMap fun field => if field.2 then some field.1 else none

/-- What a reload would add, remove and change: the ids of one side only, and those of both whose
summaries differ in some field. -/
def diffMaps {T : Type} (resourceType : String) (active staged : IdMap T)
    (changedFields : T → T → List String) : RuntimeReloadResourceDiff :=
  let oneSided := (active.sortedKeys ++ staged.sortedKeys).filter fun id =>
    !(decide (id ∈ active) && decide (id ∈ staged))
  let changed := (IdMap.sortedEntries active).filterMap fun entry =>
    (staged.lookup entry.1).bind fun stagedSummary =>
      let fields := changedFields entry.2 stagedSummary
      if fields.isEmpty then none else some (RuntimeReloadResourceChange.mk entry.1 fields)
  { resourceType := resourceType
    added := sortedTexts (oneSided.filter fun id => decide (id ∈ staged))
    removed := sortedTexts (oneSided.filter fun id => !decide (id ∈ staged))
    changed := changed.insertionSort fun left right => left.id ≤ right.id }

/-- Every id of the section becomes its place among them. -/
def redactResourceDiffIds (diff : RuntimeReloadResourceDiff) (refPrefix : String) :
    RuntimeReloadResourceDiff :=
  let ids := sortedTexts (diff.added ++ diff.removed ++ diff.changed.map (·.id))
  let redacted : String → String := fun id =>
    match ids.idxOf? id with
    | some index => refPrefix ++ ":" ++ toString index
    | none => id
  { diff with
    added := diff.added.map redacted
    removed := diff.removed.map redacted
    changed := diff.changed.map fun change => { change with id := redacted change.id } }

/-- The same for routes, whose ids are names of models and are shown redacted. -/
def diffModelRouteMaps {T : Type} (resourceType : String) (active staged : IdMap T)
    (changedFields : T → T → List String) : RuntimeReloadResourceDiff :=
  redactResourceDiffIds (diffMaps resourceType active staged changedFields) "model_route"

/-- The number of changes in a section. -/
def sectionChangeCount (diff : RuntimeReloadResourceDiff) : Nat :=
  diff.added.length + diff.removed.length + diff.changed.length

/-- What is left of the values, and of the budget. -/
def truncateVec {α : Type} (values : List α) (remaining : Nat) : List α × Nat :=
  if values.length ≤ remaining then (values, remaining - values.length)
  else (values.take remaining, 0)

/-- One turn of the loop over the sections. -/
def truncateSection (diff : RuntimeReloadResourceDiff) (remaining : Nat) :
    RuntimeReloadResourceDiff × Nat :=
  let (added, remaining) := truncateVec diff.added remaining
  let (removed, remaining) := truncateVec diff.removed remaining
  let (changed, remaining) := truncateVec diff.changed remaining
  ({ diff with added, removed, changed }, remaining)

/-- The sections that are left, and the number of changes that are not. -/
def applyResourceChangeBudget : List RuntimeReloadResourceDiff → Nat →
    List RuntimeReloadResourceDiff × Nat
  | [], _ => ([], 0)
  | diff :: sections, remaining =>
      let (kept, remaining) := truncateSection diff remaining
      let (rest, omitted) := applyResourceChangeBudget sections remaining
      (kept :: rest, (sectionChangeCount diff - sectionChangeCount kept) + omitted)

/-- A section that reports nothing. -/
def RuntimeReloadResourceDiff.Empty (diff : RuntimeReloadResourceDiff) : Prop :=
  diff.added = [] ∧ diff.removed = [] ∧ diff.changed = []

theorem changedFieldPairs_eq_nil_iff {fields : List (String × Bool)} :
    changedFieldPairs fields = [] ↔ ∀ field ∈ fields, field.2 = false := by
  unfold changedFieldPairs
  rw [List.filterMap_eq_nil_iff]
  simp

theorem insertionSort_eq_nil_iff {α : Type} {r : α → α → Prop} [DecidableRel r] {xs : List α} :
    xs.insertionSort r = [] ↔ xs = [] := by
  rw [← List.length_eq_zero_iff, ← List.length_eq_zero_iff, List.length_insertionSort]

theorem sortedTexts_eq_nil_iff {texts : List String} : sortedTexts texts = [] ↔ texts = [] := by
  unfold sortedTexts
  rw [List.dedup_eq_nil, insertionSort_eq_nil_iff]

/-- When the changed fields tell summaries apart, an empty section means equal maps. -/
theorem diffMaps_empty_iff {T : Type} {resourceType : String} {active staged : IdMap T}
    {changedFields : T → T → List String}
    (hfields : ∀ a s, changedFields a s = [] ↔ a = s) :
    (diffMaps resourceType active staged changedFields).Empty ↔ active = staged := by
  unfold RuntimeReloadResourceDiff.Empty diffMaps
  simp only [sortedTexts_eq_nil_iff, insertionSort_eq_nil_iff, List.filter_eq_nil_iff,
    List.filterMap_eq_nil_iff, List.mem_filter, List.mem_append, IdMap.mem_sortedKeys]
  constructor
  · rintro ⟨hadded, hremoved, hchanged⟩
    -- no id is on one side only
    have hboth : ∀ id, id ∈ active ∨ id ∈ staged → id ∈ active ∧ id ∈ staged := by
      intro id hid
      by_contra hnot
      have hone : (!(decide (id ∈ active) && decide (id ∈ staged))) = true := by
        simp only [Bool.not_eq_true', Bool.and_eq_false_iff, decide_eq_false_iff_not]
        exact not_and_or.mp hnot
      have hnotStaged := hadded id ⟨hid, hone⟩
      have hstaged := hremoved id ⟨hid, hone⟩
      simp at hnotStaged hstaged
      exact hnotStaged hstaged
    apply Finmap.ext_lookup
    intro id
    cases hactive : active.lookup id with
    | none =>
        cases hstaged : staged.lookup id with
        | none => rfl
        | some s =>
            have hmem := (hboth id (Or.inr (Finmap.mem_iff.mpr ⟨s, hstaged⟩))).1
            exact absurd hmem (Finmap.lookup_eq_none.mp hactive)
    | some a =>
        obtain ⟨s, hstaged⟩ :=
          Finmap.mem_iff.mp (hboth id (Or.inl (Finmap.mem_iff.mpr ⟨a, hactive⟩))).2
        have hsame := hchanged (id, a) (IdMap.mem_sortedEntries.mpr hactive)
        simp only [hstaged, Option.bind_some, ite_eq_left_iff, reduceCtorEq, imp_false, not_not,
          List.isEmpty_iff] at hsame
        rw [hstaged, (hfields a s).mp hsame]
  · rintro rfl
    refine ⟨fun id hid => ?_, fun id hid => ?_, fun entry hmem => ?_⟩
    · simp at hid
    · simp at hid
    · rw [IdMap.mem_sortedEntries.mp hmem, Option.bind_some,
        (hfields entry.2 entry.2).mpr rfl]
      rfl

/-- Other ids for the resources do not make a section empty. -/
theorem redactResourceDiffIds_empty_iff {diff : RuntimeReloadResourceDiff} {refPrefix : String} :
    (redactResourceDiffIds diff refPrefix).Empty ↔ diff.Empty := by
  unfold RuntimeReloadResourceDiff.Empty redactResourceDiffIds
  simp only [List.map_eq_nil_iff]

theorem truncateVec_nil {α : Type} (remaining : Nat) :
    truncateVec ([] : List α) remaining = ([], remaining) := rfl

theorem truncateVec_eq_nil_iff {α : Type} {values : List α} {remaining : Nat}
    (h : 0 < remaining) : (truncateVec values remaining).1 = [] ↔ values = [] := by
  unfold truncateVec
  split
  · exact Iff.rfl
  · next hlong =>
      simp only [List.take_eq_nil_iff]
      constructor
      · rintro (hzero | hnil)
        · omega
        · exact hnil
      · exact Or.inr

/-- Within a budget, the first change is kept. -/
theorem truncateSection_empty_iff {diff : RuntimeReloadResourceDiff} {remaining : Nat}
    (h : 0 < remaining) : (truncateSection diff remaining).1.Empty ↔ diff.Empty := by
  unfold RuntimeReloadResourceDiff.Empty truncateSection
  dsimp only
  -- an empty list takes nothing from the budget of the next one
  rw [truncateVec_eq_nil_iff h]
  apply and_congr_right
  intro hadded
  rw [hadded, truncateVec_nil, truncateVec_eq_nil_iff h]
  apply and_congr_right
  intro hremoved
  rw [hremoved, truncateVec_nil, truncateVec_eq_nil_iff h]

theorem truncateSection_of_empty {diff : RuntimeReloadResourceDiff} (h : diff.Empty)
    (remaining : Nat) : (truncateSection diff remaining).2 = remaining := by
  obtain ⟨hadded, hremoved, hchanged⟩ := h
  unfold truncateSection
  dsimp only
  rw [hadded, truncateVec_nil, hremoved, truncateVec_nil, hchanged, truncateVec_nil]

/-- The budget does not hide that there are changes. -/
theorem applyResourceChangeBudget_empty_iff {sections : List RuntimeReloadResourceDiff}
    {remaining : Nat} (h : 0 < remaining) :
    (∀ diff ∈ (applyResourceChangeBudget sections remaining).1, diff.Empty) ↔
      ∀ diff ∈ sections, diff.Empty := by
  induction sections with
  | nil => exact Iff.rfl
  | cons diff sections ih =>
      unfold applyResourceChangeBudget
      dsimp only
      rw [List.forall_mem_cons, List.forall_mem_cons, truncateSection_empty_iff h]
      apply and_congr_right
      intro hdiff
      rw [truncateSection_of_empty hdiff]
      exact ih

/-! ## §4. The summaries. -/

/-- The columns of a provider that the diff compares. -/
@[ext]
structure ProviderSummary where
  providerKind : String
  enabled : Bool
  deriving DecidableEq, Repr

/-- The columns of an account that the diff compares. -/
@[ext]
structure AccountSummary where
  providerId : String
  enabled : Bool
  deriving DecidableEq, Repr

/-- A credential set has nothing to compare but its id. -/
structure CredentialSetSummary where
  deriving DecidableEq, Repr

/-- The columns of a channel that the diff compares. -/
@[ext]
structure ChannelSummary where
  enabled : Bool
  providerKind : String
  endpointCapabilities : ResolvedEndpointCapabilities
  accountId : String
  credentialSetId : String
  routingProfileId : String
  deriving DecidableEq, Repr

/-- The columns of a route that the diff compares: its strategy, and its targets as texts. -/
@[ext]
structure ModelRouteSummary where
  strategy : String
  targets : List String
  deriving DecidableEq, Repr

/-- Nor has a policy profile. -/
structure PolicyProfileSummary where
  deriving DecidableEq, Repr

/-- The columns of a routing profile that the diff compares. -/
@[ext]
structure RoutingProfileSummary where
  keySelection : String
  defaultCredentialCooldownSeconds : Nat
  sameRequestCredentialRetryEnabled : Bool
  maxSameRequestRetries : Nat
  routeTargetRetryEnabled : Bool
  deriving DecidableEq, Repr

/-- The columns in which two providers differ, by the names that an operator sees. -/
def providerChangedFields (active staged : ProviderSummary) : List String :=
  changedFieldPairs [
    ("provider_kind", active.providerKind != staged.providerKind),
    ("enabled", active.enabled != staged.enabled)]

/-- The columns in which two accounts differ. -/
def accountChangedFields (active staged : AccountSummary) : List String :=
  changedFieldPairs [
    ("provider_id", active.providerId != staged.providerId),
    ("enabled", active.enabled != staged.enabled)]

/-- Two credential sets with the same id never differ for the diff. -/
def credentialSetChangedFields (_active _staged : CredentialSetSummary) : List String := []

/-- The columns in which two channels differ. -/
def channelChangedFields (active staged : ChannelSummary) : List String :=
  changedFieldPairs [
    ("enabled", active.enabled != staged.enabled),
    ("provider_kind", active.providerKind != staged.providerKind),
    ("endpoint_capabilities", active.endpointCapabilities != staged.endpointCapabilities),
    ("account_id", active.accountId != staged.accountId),
    ("credential_set_id", active.credentialSetId != staged.credentialSetId),
    ("routing_profile_id", active.routingProfileId != staged.routingProfileId)]

/-- The columns in which two routes differ. -/
def modelRouteChangedFields (active staged : ModelRouteSummary) : List String :=
  changedFieldPairs [
    ("strategy", active.strategy != staged.strategy),
    ("targets", active.targets != staged.targets)]

/-- Two policy profiles with the same id never differ for the diff. -/
def policyProfileChangedFields (_active _staged : PolicyProfileSummary) : List String := []

/-- The columns in which two routing profiles differ. -/
def routingProfileChangedFields (active staged : RoutingProfileSummary) : List String :=
  changedFieldPairs [
    ("key_selection", active.keySelection != staged.keySelection),
    ("default_credential_cooldown_seconds",
      active.defaultCredentialCooldownSeconds != staged.defaultCredentialCooldownSeconds),
    ("same_request_credential_retry_enabled",
      active.sameRequestCredentialRetryEnabled != staged.sameRequestCredentialRetryEnabled),
    ("max_same_request_retries",
      active.maxSameRequestRetries != staged.maxSameRequestRetries),
    ("route_target_retry_enabled",
      active.routeTargetRetryEnabled != staged.routeTargetRetryEnabled)]

/-- The changed fields of a summary tell it apart. -/
theorem providerChangedFields_eq_nil_iff (active staged : ProviderSummary) :
    providerChangedFields active staged = [] ↔ active = staged := by
  rw [providerChangedFields, changedFieldPairs_eq_nil_iff, ProviderSummary.ext_iff]
  simp

theorem accountChangedFields_eq_nil_iff (active staged : AccountSummary) :
    accountChangedFields active staged = [] ↔ active = staged := by
  rw [accountChangedFields, changedFieldPairs_eq_nil_iff, AccountSummary.ext_iff]
  simp

/-- Two empty summaries are equal. -/
theorem credentialSetChangedFields_eq_nil_iff (active staged : CredentialSetSummary) :
    credentialSetChangedFields active staged = [] ↔ active = staged :=
  iff_of_true rfl rfl

theorem policyProfileChangedFields_eq_nil_iff (active staged : PolicyProfileSummary) :
    policyProfileChangedFields active staged = [] ↔ active = staged :=
  iff_of_true rfl rfl

theorem channelChangedFields_eq_nil_iff (active staged : ChannelSummary) :
    channelChangedFields active staged = [] ↔ active = staged := by
  rw [channelChangedFields, changedFieldPairs_eq_nil_iff, ChannelSummary.ext_iff]
  simp

theorem modelRouteChangedFields_eq_nil_iff (active staged : ModelRouteSummary) :
    modelRouteChangedFields active staged = [] ↔ active = staged := by
  rw [modelRouteChangedFields, changedFieldPairs_eq_nil_iff, ModelRouteSummary.ext_iff]
  simp

theorem routingProfileChangedFields_eq_nil_iff (active staged : RoutingProfileSummary) :
    routingProfileChangedFields active staged = [] ↔ active = staged := by
  rw [routingProfileChangedFields, changedFieldPairs_eq_nil_iff, RoutingProfileSummary.ext_iff]
  simp

/-! ## §5. The active side. -/

section Active

variable {ρ τ : Type} (state : AppState ρ τ)

/-- The providers of the runtime: only those that a channel uses are there. -/
def activeProviderSummaries : IdMap ProviderSummary :=
  ofEntries (state.runtimeCatalogs.providerTopologies.map fun provider =>
    (provider.id, ⟨provider.providerKind.stableIdFragment, provider.enabled⟩))

/-- The accounts of the runtime: only those that a channel uses are there. -/
def activeAccountSummaries : IdMap AccountSummary :=
  ofEntries (state.runtimeCatalogs.accountTopologies.map fun account =>
    (account.id, ⟨account.providerId, account.enabled⟩))

/-- The credential sets of the runtime: only those that a channel uses are there. -/
def activeCredentialSetSummaries : IdMap CredentialSetSummary :=
  ofEntries (state.runtimeCatalogs.credentialSetTopologies.map fun credentialSet =>
    (credentialSet.id, ⟨⟩))

/-- The columns of an active channel. -/
def ChannelTopologyProjection.summary (channel : ChannelTopologyProjection) : ChannelSummary where
  enabled := channel.configuredEnabled
  providerKind := channel.providerKind.stableIdFragment
  endpointCapabilities := channel.endpointCapabilities
  accountId := channel.accountId
  credentialSetId := channel.credentialSetId
  routingProfileId := channel.routingProfileId

/-- The channels of the runtime. -/
def activeChannelSummaries : IdMap ChannelSummary :=
  ofEntries (state.runtimeCatalogs.channelTopologies.map fun channel =>
    (channel.id, channel.summary))

/-- A target, printed; an upstream model that is absent is printed as an empty one. -/
def printTarget (channel : String) (upstreamModel : Option String) (priority weight : UInt16)
    (enabled : Bool) : String :=
  channel ++ "|" ++ upstreamModel.getD "" ++ "|" ++ toString priority ++ "|" ++
    toString weight ++ "|" ++ toString enabled

/-- The columns of an active route; the printed targets are sorted. -/
def activeModelRouteSummary (route : ModelRoute) : ModelRouteSummary where
  strategy := route.strategy.asStr
  targets := (route.targets.map fun target => printTarget target.channelId target.upstreamModel
    target.priority target.weight target.enabled).insertionSort (· ≤ ·)

/-- The routes of the runtime. -/
def activeModelRouteSummaries : IdMap ModelRouteSummary :=
  ofEntries (state.channels.modelRoutes.values.map fun route =>
    (route.publicModel, activeModelRouteSummary route))

/-- The policy profiles of the runtime, whether a channel uses them or not. -/
def activePolicyProfileSummaries : IdMap PolicyProfileSummary :=
  ofEntries (state.runtimeCatalogs.policyProfiles.values.map fun profile => (profile.id, ⟨⟩))

/-- The columns of an active routing profile. -/
def activeRoutingProfileSummary (profile : ResolvedRoutingProfile) : RoutingProfileSummary where
  keySelection := "sticky_until_failure"
  defaultCredentialCooldownSeconds := profile.defaultCredentialCooldown.asSecs
  sameRequestCredentialRetryEnabled := profile.sameRequestCredentialRetryEnabled
  maxSameRequestRetries := profile.maxSameRequestRetries
  routeTargetRetryEnabled := profile.routeTargetRetryEnabled

/-- The routing profiles of the runtime, whether a channel uses them or not. -/
def activeRoutingProfileSummaries : IdMap RoutingProfileSummary :=
  ofEntries (state.runtimeCatalogs.routingProfiles.values.map fun profile =>
    (profile.id, activeRoutingProfileSummary profile))

end Active

/-! ## §6. The staged side. -/

/-- The rows of a section under the ids that the diff has for them. -/
def stagedSummaries {β T : Type} (rows : IdMap β) (id : String → String) (summary : β → T) :
    IdMap T :=
  ofEntries ((IdMap.sortedEntries rows).map fun entry => (id entry.1, summary entry.2))

/-- The columns of a provider of the document. -/
def providerSummary (provider : ProviderConfig) : ProviderSummary where
  providerKind := provider.providerKind.stableIdFragment
  enabled := provider.enabled

/-- The columns of an account of the document; its provider is shown with the prefix of a topology
id. -/
def accountSummary (account : AccountConfig) : AccountSummary where
  providerId := "provider:" ++ account.provider
  enabled := account.enabled

/-- The columns of a routing profile of the document. -/
def routingProfileSummary (profile : RoutingProfileConfig) : RoutingProfileSummary where
  keySelection := "sticky_until_failure"
  defaultCredentialCooldownSeconds := profile.defaultCredentialCooldownSeconds
  sameRequestCredentialRetryEnabled := profile.sameRequestRetryEnabled
  maxSameRequestRetries := profile.sameRequestMaxRetries
  routeTargetRetryEnabled := profile.routeTargetRetryEnabled

/-- The columns of a route of the document, with the default for a missing strategy. -/
def stagedModelRouteSummary (route : ModelRouteConfig) : ModelRouteSummary where
  strategy := route.strategy.getD "priority_weighted_sticky"
  targets := (route.targets.map fun target => printTarget target.channel target.upstreamModel
    target.priority target.weight target.enabled).insertionSort (· ≤ ·)

section Staged

variable (staged : RegistryDocument)

/-- The providers of the document, all of them. -/
def stagedProviderSummaries : IdMap ProviderSummary :=
  stagedSummaries staged.providers ("provider:" ++ ·) providerSummary

/-- The accounts of the document, all of them. -/
def stagedAccountSummaries : IdMap AccountSummary :=
  stagedSummaries staged.accounts ("account:" ++ ·) accountSummary

/-- The credential sets of the document, all of them. -/
def stagedCredentialSetSummaries : IdMap CredentialSetSummary :=
  stagedSummaries staged.credentialSets id fun _ => ⟨⟩

/-- The kind of the account's provider, if both can be found as they are written. -/
def stagedChannelProviderKind (pool : PoolConfig) : ProviderKind :=
  ((pool.account.bind fun accountId => staged.accounts.lookup accountId).bind fun account =>
    (staged.providers.lookup account.provider).map (·.providerKind)).getD pool.providerKind

/-- The columns of a channel of the document, with the defaults that a resolution would fill in.
-/
def channelSummary (pool : PoolConfig) : ChannelSummary :=
  let providerKind := stagedChannelProviderKind staged pool
  { enabled := pool.enabled
    providerKind := providerKind.stableIdFragment
    endpointCapabilities :=
      match pool.endpointCapabilities.resolveWithBase providerKind.defaultEndpointCapabilities with
      | .ok capabilities => capabilities
      | .error _ => providerKind.defaultEndpointCapabilities
    accountId := (pool.account.map fun account => "account:" ++ account).getD ""
    credentialSetId := pool.credentialSet
    routingProfileId := (pool.routingProfile.or staged.defaultRoutingProfile).getD "" }

/-- The channels of the document. -/
def stagedChannelSummaries : IdMap ChannelSummary :=
  stagedSummaries staged.pools id (channelSummary staged)

/-- The routes of the document. -/
def stagedModelRouteSummaries : IdMap ModelRouteSummary :=
  stagedSummaries staged.modelRoutes id stagedModelRouteSummary

/-- The policy profiles of the document. -/
def stagedPolicyProfileSummaries : IdMap PolicyProfileSummary :=
  stagedSummaries staged.policyProfiles id fun _ => ⟨⟩

/-- The routing profiles of the document. -/
def stagedRoutingProfileSummaries : IdMap RoutingProfileSummary :=
  stagedSummaries staged.routingProfiles id routingProfileSummary

end Staged

/-! ## §7. The answer. -/

section Answer

variable {ρ τ : Type}

/-- The sections of the diff, in the order in which they are shown. -/
def runtimeReloadResourceDiff (state : AppState ρ τ) (staged : RegistryDocument) :
    List RuntimeReloadResourceDiff := [
  diffMaps "providers" (activeProviderSummaries state) (stagedProviderSummaries staged)
    providerChangedFields,
  diffMaps "accounts" (activeAccountSummaries state) (stagedAccountSummaries staged)
    accountChangedFields,
  diffMaps "credential_sets" (activeCredentialSetSummaries state)
    (stagedCredentialSetSummaries staged) credentialSetChangedFields,
  diffMaps "channels" (activeChannelSummaries state) (stagedChannelSummaries staged)
    channelChangedFields,
  diffModelRouteMaps "model_route" (activeModelRouteSummaries state)
    (stagedModelRouteSummaries staged) modelRouteChangedFields,
  diffMaps "policy_profiles" (activePolicyProfileSummaries state)
    (stagedPolicyProfileSummaries staged) policyProfileChangedFields,
  diffMaps "routing_profiles" (activeRoutingProfileSummaries state)
    (stagedRoutingProfileSummaries staged) routingProfileChangedFields]

/-- What the diff copies from `RuntimeExplainResponse`. -/
structure RuntimeExplainResponse where
  activeRegistryGeneration : Nat
  activeRegistryVersion : Option Nat
  stagedRegistryVersion : Option Nat
  runtimeReloadRequired : Bool
  deriving DecidableEq, Repr

/-- The versions of runtime and store, side by side. -/
def runtimeExplainResponse (state : AppState ρ τ) (stagedRegistryVersion : Option Nat) :
    RuntimeExplainResponse where
  activeRegistryGeneration := state.channels.registryGeneration
  activeRegistryVersion := state.activeRegistryVersion
  stagedRegistryVersion := stagedRegistryVersion
  runtimeReloadRequired := stagedRegistryVersion != state.activeRegistryVersion

/-- What an operator is advised to do next. -/
structure RuntimeReloadDiffNextAction where
  summary : String
  templateId : String
  safeArgv : List String
  sideEffectClass : String
  requiresConfirmation : Bool
  deriving DecidableEq, Repr

/-- How much of the diff is shown. -/
structure RuntimeReloadDiffBudget where
  maxResourceChanges : Nat
  totalResourceChanges : Nat
  omittedResourceChanges : Nat
  truncated : Bool
  deriving DecidableEq, Repr

/-- The answer to a request for the diff. -/
structure RuntimeReloadDiffResponse extends RuntimeExplainResponse where
  status : String
  reason : String
  reasonCode : String
  mutatingReloadSent : Bool
  reloadApplyStatus : String
  nextAction : RuntimeReloadDiffNextAction
  budget : RuntimeReloadDiffBudget
  resourceChanges : List RuntimeReloadResourceDiff
  deriving DecidableEq, Repr

/-- At most this many changes are shown. -/
def reloadDiffBudget : Nat := 64

/-- The code and the text of an answer. -/
def reloadDiffReason (truncated : Bool) (totalResourceChanges : Nat) : String × String :=
  if truncated then
    ("reload_diff_truncated",
      "A typed reload diff is available but was truncated to the configured budget.")
  else if totalResourceChanges = 0 then
    ("reload_diff_empty",
      "A typed reload diff is available and no resource-level changes were found.")
  else
    ("reload_diff_available",
      "A typed reload diff is available for the current staged registry document.")

/-- The answer when there is a staged document. -/
def availableResponse (state : AppState ρ τ) (explain : RuntimeExplainResponse)
    (staged : RegistryDocument) : RuntimeReloadDiffResponse :=
  let sections := runtimeReloadResourceDiff state staged
  let totalResourceChanges := (sections.map sectionChangeCount).sum
  let bounded := applyResourceChangeBudget sections reloadDiffBudget
  let truncated := decide (0 < bounded.2)
  { toRuntimeExplainResponse := explain
    status := "ok"
    reason := (reloadDiffReason truncated totalResourceChanges).2
    reasonCode := (reloadDiffReason truncated totalResourceChanges).1
    mutatingReloadSent := false
    reloadApplyStatus := "dry_run_available"
    nextAction := {
      summary := "Reload diff is read-only and complete for this request. No further " ++
        "diagnostic action is required."
      templateId := "no_action_required"
      safeArgv := []
      sideEffectClass := "runtime_readonly"
      requiresConfirmation := false }
    budget := ⟨reloadDiffBudget, totalResourceChanges, bounded.2, truncated⟩
    resourceChanges := bounded.1 }

/-- An answer whose sections report nothing. -/
def RuntimeReloadDiffResponse.NoChange (response : RuntimeReloadDiffResponse) : Prop :=
  ∀ diff ∈ response.resourceChanges, diff.Empty

/-- The summaries of the runtime are those of the document. -/
structure SummariesAgree (state : AppState ρ τ) (staged : RegistryDocument) : Prop where
  providers : activeProviderSummaries state = stagedProviderSummaries staged
  accounts : activeAccountSummaries state = stagedAccountSummaries staged
  credentialSets : activeCredentialSetSummaries state = stagedCredentialSetSummaries staged
  channels : activeChannelSummaries state = stagedChannelSummaries staged
  modelRoutes : activeModelRouteSummaries state = stagedModelRouteSummaries staged
  policyProfiles : activePolicyProfileSummaries state = stagedPolicyProfileSummaries staged
  routingProfiles : activeRoutingProfileSummaries state = stagedRoutingProfileSummaries staged

theorem noChange_iff {state : AppState ρ τ} {explain : RuntimeExplainResponse}
    {staged : RegistryDocument} :
    (availableResponse state explain staged).NoChange ↔ SummariesAgree state staged := by
  unfold RuntimeReloadDiffResponse.NoChange availableResponse
  dsimp only
  rw [applyResourceChangeBudget_empty_iff (by decide : 0 < reloadDiffBudget)]
  unfold runtimeReloadResourceDiff diffModelRouteMaps
  simp only [List.forall_mem_cons, List.not_mem_nil, false_implies, implies_true, and_true,
    redactResourceDiffIds_empty_iff, diffMaps_empty_iff providerChangedFields_eq_nil_iff,
    diffMaps_empty_iff accountChangedFields_eq_nil_iff,
    diffMaps_empty_iff credentialSetChangedFields_eq_nil_iff,
    diffMaps_empty_iff policyProfileChangedFields_eq_nil_iff,
    diffMaps_empty_iff channelChangedFields_eq_nil_iff,
    diffMaps_empty_iff modelRouteChangedFields_eq_nil_iff,
    diffMaps_empty_iff routingProfileChangedFields_eq_nil_iff]
  constructor
  · rintro ⟨hproviders, haccounts, hsets, hchannels, hroutes, hpolicies, hrouting⟩
    exact ⟨hproviders, haccounts, hsets, hchannels, hroutes, hpolicies, hrouting⟩
  · intro h
    exact ⟨h.providers, h.accounts, h.credentialSets, h.channels, h.modelRoutes,
      h.policyProfiles, h.routingProfiles⟩

end Answer

end OneAiKey
