/-
  OneAiKey.UpstreamTemplates — upstream shortcuts and their expansion
  (`src/upstream_templates.rs`).

  A configuration file may list upstreams in short form.  Before it is read, each of them is
  written out: a provider, an account, a credential set, a policy profile, a pool, and a
  target in the route of each of its models.  This happens on the YAML values, beside what the
  file says explicitly, through three insertions that treat an id that is already there in
  different ways:

    insert_unique               an error
    insert_if_absent            an error unless the same is written there
    insert_model_route_target   one more target, an error if the channel has one

  `SerdeYaml` is what `serde_yaml` makes of the configuration records: `to_value` and
  `from_value`, with the texts of their errors.
-/
import OneAiKey.Lib.NamedEntries
import OneAiKey.Resolve

namespace OneAiKey

/-! ## §1. YAML values. -/

/-- The numbers of a YAML value; a float is compared by its bits. -/
inductive YamlNumber where
  | posInt (value : Nat)
  | negInt (value : Int)
  | float (bits : UInt64)
  deriving DecidableEq, Repr

/-- `serde_yaml::Value`.  A mapping keeps its entries in the order of insertion. -/
inductive YamlValue where
  | null
  | bool (value : Bool)
  | number (value : YamlNumber)
  | string (value : String)
  | sequence (values : List YamlValue)
  | mapping (entries : List (YamlValue × YamlValue))
  | tagged (tag : String) (value : YamlValue)

/-- A mapping as the list of its entries, in the order in which they were inserted. -/
abbrev YamlMapping := List (YamlValue × YamlValue)

/-- No mapping inside has a key twice. -/
inductive YamlValue.WellFormed : YamlValue → Prop
  | null : WellFormed .null
  | bool (value : Bool) : WellFormed (.bool value)
  | number (value : YamlNumber) : WellFormed (.number value)
  | string (value : String) : WellFormed (.string value)
  | sequence {values : List YamlValue} (inside : ∀ value ∈ values, WellFormed value) :
      WellFormed (.sequence values)
  | mapping {entries : List (YamlValue × YamlValue)} (distinct : (entries.map Prod.fst).Nodup)
      (keys : ∀ entry ∈ entries, WellFormed entry.1)
      (values : ∀ entry ∈ entries, WellFormed entry.2) : WellFormed (.mapping entries)
  | tagged (tag : String) {value : YamlValue} (inside : WellFormed value) :
      WellFormed (.tagged tag value)

namespace YamlValue

/-- The text of a plain string; a key of the program is one. -/
def asText : YamlValue → Option String
  | string value => some value
  | _ => none

/-- `as_mapping`, which looks behind tags. -/
def asMapping : YamlValue → Option YamlMapping
  | mapping entries => some entries
  | tagged _ value => value.asMapping
  | _ => none

/-- Change the mapping of `as_mapping_mut`; `message` is the error where there is none. -/
def modifyMapping (message : String) (f : YamlMapping → Except String YamlMapping) :
    YamlValue → Except String YamlValue
  | mapping entries => (f entries).map mapping
  | tagged tag value => (value.modifyMapping message f).map (tagged tag)
  | _ => .error message

end YamlValue

namespace YamlMapping

/-- Is there an entry under this text? -/
def containsKey (m : YamlMapping) (key : String) : Bool :=
  NamedEntries.contains YamlValue.asText key m

/-- The value under a text.  A key that is no text is never looked up. -/
def get (m : YamlMapping) (key : String) : Option YamlValue :=
  NamedEntries.lookup YamlValue.asText key m

/-- A value under a text: in the place of the one that was there, else at the end. -/
def insert (m : YamlMapping) (key : String) (value : YamlValue) : YamlMapping :=
  if m.containsKey key then
    m.map fun entry =>
      if NamedEntries.has YamlValue.asText key entry then (entry.1, value) else entry
  else m ++ [(.string key, value)]

/-- `get_mut`, and what is done to the value. -/
def modify (m : YamlMapping) (key : String) (f : YamlValue → Except String YamlValue) :
    Except String YamlMapping :=
  NamedEntries.modify YamlValue.asText key f m

/-- `remove`, which is a `swap_remove`. -/
def remove (m : YamlMapping) (key : String) : YamlMapping :=
  NamedEntries.swapRemove (NamedEntries.has YamlValue.asText key) m

end YamlMapping

/-- The conversions of `serde_yaml` for the records that an expansion writes and reads. -/
structure SerdeYaml where
  providerToValue : ProviderConfig → Except String YamlValue
  providerFromValue : YamlValue → Except String ProviderConfig
  accountToValue : AccountConfig → Except String YamlValue
  credentialSetToValue : CredentialSetConfig → Except String YamlValue
  policyProfileToValue : PolicyProfileConfig → Except String YamlValue
  policyProfileFromValue : YamlValue → Except String PolicyProfileConfig
  poolToValue : PoolConfig → Except String YamlValue
  modelRouteToValue : ModelRouteConfig → Except String YamlValue
  modelRouteFromValue : YamlValue → Except String ModelRouteConfig

/-! ## §2. The insertions. -/

/-- What `section_mapping_mut` gives access to, and what is done to it. -/
def sectionMappingMut (root : YamlMapping) (sectionName : String)
    (f : YamlMapping → Except String YamlMapping) : Except String YamlMapping :=
  let root :=
    if root.containsKey sectionName then root else root.insert sectionName (.mapping [])
  root.modify sectionName (·.modifyMapping (sectionName ++ " must be a YAML mapping") f)

/-- A new entry of a section; one that is there already is an error, since the shortcut would
overwrite it. -/
def insertUnique {τ : Type} (toValue : τ → Except String YamlValue) (root : YamlMapping)
    (sectionName id : String) (value : τ) : Except String YamlMapping :=
  sectionMappingMut root sectionName fun sectionMap => do
    ensure (!sectionMap.containsKey id)
      ("upstream template expansion would overwrite " ++ sectionName ++ "." ++ id)
    return sectionMap.insert id (← toValue value)

/-- A target for a model: the first makes a route, the others are put behind.  A second target of
the channel is an error. -/
def insertModelRouteTarget (serde : SerdeYaml) (root : YamlMapping) (model : String)
    (target : ModelRouteTargetConfig) : Except String YamlMapping :=
  sectionMappingMut root "model_routes" fun sectionMap =>
    if !sectionMap.containsKey model then do
      return sectionMap.insert model
        (← serde.modelRouteToValue { strategy := some "priority", targets := [target] })
    else
      sectionMap.modify model fun existing => do
        -- a route that cannot be read is an error, as is a second target of the channel
        let route ← serde.modelRouteFromValue existing
        ensure (!route.targets.any (·.channel == target.channel))
          ("upstream template expansion would duplicate model_routes." ++ model ++
            " target channel " ++ target.channel)
        serde.modelRouteToValue { route with targets := route.targets ++ [target] }

/-- An entry that several shortcuts may share; one that is there already has to be the same. -/
def insertIfAbsent {τ : Type} [DecidableEq τ] (toValue : τ → Except String YamlValue)
    (fromValue : YamlValue → Except String τ) (root : YamlMapping) (sectionName id : String)
    (value : τ) : Except String YamlMapping :=
  sectionMappingMut root sectionName fun sectionMap =>
    match sectionMap.get id with
    | some existing => do
        -- what is there is compared as a record, not as YAML
        let existing ← (fromValue existing).mapError fun err =>
          "upstream template expansion found invalid existing " ++ sectionName ++ "." ++ id ++
            ": " ++ err
        ensure (existing = value)
          ("upstream template expansion would conflict with existing " ++ sectionName ++ "." ++
            id)
        return sectionMap
    | none => do return sectionMap.insert id (← toValue value)

/-! ## §3. The templates. -/

/-- How to talk to an upstream: the kind of its API, and where a key goes. -/
structure UpstreamCommonAdapter where
  providerKind : ProviderKind
  authHeader : String
  authPrefix : String
  deriving DecidableEq, Repr

/-- The adapters that a template may be built on. -/
inductive UpstreamCommonAdapterKind where
  | openAiCompatibleBearer
  | openAiCompatibleApiKey
  deriving DecidableEq, Repr

/-- The sites that the program knows. -/
inductive ManagedUpstreamSiteKind where
  | genericRelayCn
  | deepseekOfficial
  | xiaomiMimoTokenPlanCn
  deriving DecidableEq, Repr

/-- A template is an adapter alone, or a site with the adapter that it uses. -/
inductive UpstreamTemplateKind where
  | common (adapterKind : UpstreamCommonAdapterKind)
  | managedSite (siteKind : ManagedUpstreamSiteKind)
  deriving DecidableEq, Repr

/-- What a site fills in that a shortcut would otherwise have to say. -/
structure UpstreamSiteOverride where
  providerId : Option String
  apiBase : Option String
  policyProfileId : Option String
  policyProfile : Option PolicyProfileConfig
  defaultModels : List String
  deriving DecidableEq, Repr

/-- A template with its adapter and its site looked up. -/
structure UpstreamTemplateDefaults where
  adapter : UpstreamCommonAdapter
  site : UpstreamSiteOverride
  deriving DecidableEq, Repr

/-- An adapter under the name of its template. -/
structure UpstreamCommonAdapterTemplateEntry where
  name : String
  kind : UpstreamCommonAdapterKind

/-- A site under the name of its template, with its adapter. -/
structure ManagedUpstreamSiteTemplateEntry where
  name : String
  kind : ManagedUpstreamSiteKind
  adapterKind : UpstreamCommonAdapterKind

/-- The key is a bearer token. -/
def openAiCompatibleBearer : UpstreamCommonAdapter where
  providerKind := .openAiCompatible
  authHeader := "authorization"
  authPrefix := "Bearer "

/-- The key is the whole value of a header of its own. -/
def openAiCompatibleApiKey : UpstreamCommonAdapter where
  providerKind := .openAiCompatible
  authHeader := "api-key"
  authPrefix := ""

/-- The adapters by the names of their templates. -/
def upstreamCommonAdapterRegistry : List UpstreamCommonAdapterTemplateEntry :=
  [⟨"openai_compatible_bearer", .openAiCompatibleBearer⟩,
    ⟨"openai_compatible_api_key", .openAiCompatibleApiKey⟩]

/-- The sites by the names of their templates. -/
def managedUpstreamSiteRegistry : List ManagedUpstreamSiteTemplateEntry :=
  [⟨"generic_relay_cn", .genericRelayCn, .openAiCompatibleBearer⟩,
    ⟨"deepseek_official", .deepseekOfficial, .openAiCompatibleBearer⟩,
    ⟨"xiaomi_mimo_token_plan_cn", .xiaomiMimoTokenPlanCn, .openAiCompatibleApiKey⟩]

/-- A rule that takes a code and a limit type of a relay as a rate limit of the credential, for
twenty seconds. -/
def relayRateLimitRule (id code limitType : String) : ErrorAdaptationRuleConfig where
  id := id
  enabled := true
  matcher := { codes := [code], limitTypes := [limitType], statuses := [] }
  action := {
    kind := some .rateLimited
    primaryScope := some .credential
    retryable := some true
    cooldownSeconds := some 20 }

/-- No action is configured. -/
def ProbeResultActionConfig.default : ProbeResultActionConfig :=
  ⟨none, none, none, none, none, none, none, none⟩

/-- The error rules that the generic relay brings. -/
def genericRelayCnPolicyProfile : PolicyProfileConfig where
  errorRules := {
    relayProfile := none
    balanceScope := none
    keepCodes := some ["key_switch_cooldown"]
    switchCodes := some ["insufficient_quota", "quota_exceeded", "rate_limit_exceeded",
      "rate_limit_cooldown", "billing_hard_limit_reached"]
    expireCodes := some ["invalid_api_key"]
    keepStatuses := none
    switchStatuses := some ["429", "5xx"]
    expireStatuses := some ["401", "403"]
    adaptationRules := [
      relayRateLimitRule "relay-rate-limit-cooldown" "rate_limit_cooldown" "cooldown",
      relayRateLimitRule "relay-rate-limit-rpm" "rate_limit_exceeded" "rpm",
      relayRateLimitRule "relay-rate-limit-tpm" "rate_limit_exceeded" "tpm"] }
  probeResultActions := .default

/-- The error rules that this site brings. -/
def xiaomiMimoPolicyProfile : PolicyProfileConfig where
  errorRules := {
    relayProfile := none
    balanceScope := none
    keepCodes := none
    switchCodes := some ["rate_limit_exceeded", "too_many_requests"]
    expireCodes := some ["invalid_key", "invalid_api_key"]
    keepStatuses := none
    switchStatuses := some ["429", "5xx"]
    expireStatuses := some ["401", "403"]
    adaptationRules := [] }
  probeResultActions := .default

/-- The generic relay: its address is a placeholder, and it has no models of its own. -/
def genericRelayCnSiteOverride : UpstreamSiteOverride where
  providerId := some "generic_relay_cn"
  apiBase := some "https://relay.example/v1"
  policyProfileId := some "generic-relay-cn"
  policyProfile := some genericRelayCnPolicyProfile
  defaultModels := []

/-- The site brings its models, and no profile. -/
def deepseekOfficialSiteOverride : UpstreamSiteOverride where
  providerId := some "deepseek"
  apiBase := some "https://api.deepseek.com/v1"
  policyProfileId := none
  policyProfile := none
  defaultModels := ["deepseek-chat", "deepseek-reasoner"]

/-- The site brings its models and a profile. -/
def xiaomiMimoTokenPlanCnSiteOverride : UpstreamSiteOverride where
  providerId := some "xiaomi_mimo"
  apiBase := some "https://token-plan-cn.xiaomimimo.com/v1"
  policyProfileId := some "xiaomi-mimo-token-plan"
  policyProfile := some xiaomiMimoPolicyProfile
  defaultModels := ["mimo-v2.5-pro"]

/-- What a template without a site fills in. -/
def UpstreamSiteOverride.empty : UpstreamSiteOverride where
  providerId := none
  apiBase := none
  policyProfileId := none
  policyProfile := none
  defaultModels := []

namespace UpstreamCommonAdapterKind

def parse (template : String) : Option UpstreamCommonAdapterKind :=
  (upstreamCommonAdapterRegistry.find? (·.name == template)).map (·.kind)

/-- The adapter of a kind. -/
def adapter : UpstreamCommonAdapterKind → UpstreamCommonAdapter
  | openAiCompatibleBearer => OneAiKey.openAiCompatibleBearer
  | openAiCompatibleApiKey => OneAiKey.openAiCompatibleApiKey

end UpstreamCommonAdapterKind

namespace ManagedUpstreamSiteKind

def parse (template : String) : Option ManagedUpstreamSiteKind :=
  (managedUpstreamSiteRegistry.find? (·.name == template)).map (·.kind)

/-- The entry of a site in the registry. -/
def templateEntry (kind : ManagedUpstreamSiteKind) : Option ManagedUpstreamSiteTemplateEntry :=
  managedUpstreamSiteRegistry.find? (·.kind = kind)

/-- The registry has every kind, so its `expect` never panics. -/
theorem isSome_templateEntry (kind : ManagedUpstreamSiteKind) :
    kind.templateEntry.isSome = true := by
  cases kind <;> rfl

/-- The adapter of a site; every site has an entry, so there is one. -/
def adapterKind (kind : ManagedUpstreamSiteKind) : UpstreamCommonAdapterKind :=
  (kind.templateEntry.get kind.isSome_templateEntry).adapterKind

/-- What a site fills in. -/
def siteOverride : ManagedUpstreamSiteKind → UpstreamSiteOverride
  | genericRelayCn => genericRelayCnSiteOverride
  | deepseekOfficial => deepseekOfficialSiteOverride
  | xiaomiMimoTokenPlanCn => xiaomiMimoTokenPlanCnSiteOverride

def defaults (kind : ManagedUpstreamSiteKind) : UpstreamTemplateDefaults :=
  ⟨kind.adapterKind.adapter, kind.siteOverride⟩

end ManagedUpstreamSiteKind

namespace UpstreamTemplateKind

def parse (template : String) : Option UpstreamTemplateKind :=
  ((UpstreamCommonAdapterKind.parse template).map .common).or
    ((ManagedUpstreamSiteKind.parse template).map .managedSite)

def defaults : UpstreamTemplateKind → UpstreamTemplateDefaults
  | common adapterKind => ⟨adapterKind.adapter, .empty⟩
  | managedSite siteKind => siteKind.defaults

end UpstreamTemplateKind

/-- A template by its name; a name of no template is the caller's error. -/
def upstreamTemplateDefaults (template : String) : Option UpstreamTemplateDefaults :=
  (UpstreamTemplateKind.parse template).map (·.defaults)

/-! ## §4. The expansion. -/

/-- A model of a shortcut, by its name alone or with another name at the upstream. -/
inductive UpstreamShortcutModelConfig where
  | name (publicModel : String)
  | route (publicModel : String) (upstreamModel : Option String)
  deriving DecidableEq, Repr

/-- A model of a shortcut with its names trimmed. -/
structure UpstreamShortcutModelRoute where
  publicModel : String
  upstreamModel : Option String
  deriving DecidableEq, Repr

/-- A shortcut: one entry that stands for a provider, an account, a credential set, a channel and
its routes. -/
structure UpstreamShortcutConfig where
  template : String
  keysFile : String
  apiBase : Option String
  provider : Option String
  account : Option String
  credentialSet : Option String
  policyProfile : Option String
  authHeader : Option String
  authPrefix : Option String
  relayProfile : Option RelayProfile
  balanceScope : Option BalanceScope
  enabled : Bool
  models : List UpstreamShortcutModelConfig
  deriving DecidableEq, Repr

/-- A model as a route.  A name for the upstream that is given may not be blank. -/
def UpstreamShortcutModelConfig.intoRoute :
    UpstreamShortcutModelConfig → Except String UpstreamShortcutModelRoute
  | name publicModel => .ok { publicModel := trimString publicModel, upstreamModel := none }
  | route publicModel none => .ok { publicModel := trimString publicModel, upstreamModel := none }
  | route publicModel (some model) => do
      let model := trimString model
      ensure (!model.isEmpty) "upstream_model must not be empty"
      return { publicModel := trimString publicModel, upstreamModel := some model }

/-- The priority of a target that a shortcut makes. -/
def defaultRouteTargetPriority : UInt16 := 100

/-- The weight of a target that a shortcut makes. -/
def defaultRouteTargetWeight : UInt16 := 1

/-- Resolved capabilities as a channel would configure them, every endpoint explicit. -/
def ResolvedEndpointCapabilities.toConfig (capabilities : ResolvedEndpointCapabilities) :
    EndpointCapabilitiesConfig where
  chatCompletions := some capabilities.chatCompletions
  responses := some capabilities.responses
  embeddings := some capabilities.embeddings
  models := some capabilities.models
  diagnosticLabels := capabilities.diagnosticLabels

/-- The values that the loop over the shortcuts computes before its first insertion. -/
structure UpstreamShortcutIds where
  channelId : String
  template : UpstreamTemplateDefaults
  providerId : String
  accountId : String
  credentialSetId : String
  policyProfileId : Option String
  apiBase : String
  authHeader : String
  authPrefix : String
  deriving DecidableEq, Repr

namespace UpstreamShortcutConfig

/-- The ids of the resources that a shortcut makes: those it names, those of the site, or ones
built from its own id. -/
def ids (upstream : UpstreamShortcutConfig) (rawId : String) :
    Except String UpstreamShortcutIds := do
  -- the errors of the ids come before the one of a missing base
  let channelId ← normalizeResourceId "upstreams" rawId
  let template ← okOrElse (upstreamTemplateDefaults upstream.template)
    ("unsupported upstream template " ++ upstream.template)
  let provider ← normalizeOptionalId "upstreams.provider" upstream.provider
  let account ← normalizeOptionalId "upstreams.account" upstream.account
  let credentialSet ← normalizeOptionalId "upstreams.credential_set" upstream.credentialSet
  let policyProfile ← normalizeOptionalId "upstreams.policy_profile" upstream.policyProfile
  let apiBase ← okOrElse (upstream.apiBase.or template.site.apiBase)
    ("upstream " ++ channelId ++ " template " ++ upstream.template ++ " requires api_base")
  return {
    channelId := channelId
    template := template
    providerId := (provider.or template.site.providerId).getD (channelId ++ "_provider")
    accountId := account.getD (channelId ++ "_account")
    credentialSetId := credentialSet.getD (channelId ++ "_credentials")
    policyProfileId := policyProfile.or template.site.policyProfileId
    apiBase := apiBase
    authHeader := upstream.authHeader.getD template.adapter.authHeader
    authPrefix := upstream.authPrefix.getD template.adapter.authPrefix }

/-- The models of a shortcut, or those of the site if it names none. -/
def modelRoutes (upstream : UpstreamShortcutConfig) (template : UpstreamTemplateDefaults) :
    Except String (List UpstreamShortcutModelRoute) :=
  if upstream.models.isEmpty then
    .ok (template.site.defaultModels.map fun model =>
      { publicModel := model, upstreamModel := none })
  -- the first model that is wrong ends the conversion
  else upstream.models.mapM UpstreamShortcutModelConfig.intoRoute

/-- The account that a shortcut makes. -/
def accountConfig (upstream : UpstreamShortcutConfig) (ids : UpstreamShortcutIds) : AccountConfig where
  provider := ids.providerId
  apiBase := ids.apiBase
  authHeader := ids.authHeader
  authPrefix := ids.authPrefix
  enabled := upstream.enabled

/-- The channel that a shortcut makes, without a routing profile of its own. -/
def poolConfig (upstream : UpstreamShortcutConfig) (ids : UpstreamShortcutIds) : PoolConfig where
  endpointCapabilities := ids.template.adapter.providerKind.defaultEndpointCapabilities.toConfig
  enabled := upstream.enabled
  account := some ids.accountId
  policyProfile := ids.policyProfileId
  routingProfile := none
  providerKind := ids.template.adapter.providerKind
  apiBase := ids.apiBase
  credentialSet := ids.credentialSetId
  authHeader := ids.authHeader
  authPrefix := ids.authPrefix
  errorRules := { ErrorRulesConfig.default with
    relayProfile := upstream.relayProfile
    balanceScope := upstream.balanceScope }

end UpstreamShortcutConfig

/-- The target of a shortcut in the route of a model. -/
def shortcutTarget (ids : UpstreamShortcutIds) (modelRoute : UpstreamShortcutModelRoute) :
    ModelRouteTargetConfig where
  channel := ids.channelId
  upstreamModel := modelRoute.upstreamModel
  priority := defaultRouteTargetPriority
  weight := defaultRouteTargetWeight
  enabled := true

/-- One turn of the loop over the models. -/
def insertModelRoute (serde : SerdeYaml) (ids : UpstreamShortcutIds) (root : YamlMapping)
    (modelRoute : UpstreamShortcutModelRoute) : Except String YamlMapping := do
  ensure (!modelRoute.publicModel.isEmpty)
    ("upstream " ++ ids.channelId ++ " models must not contain empty names")
  insertModelRouteTarget serde root modelRoute.publicModel (shortcutTarget ids modelRoute)

/-- The policy profile that the template brings, under the id that is used for it. -/
def insertSitePolicyProfile (serde : SerdeYaml) (ids : UpstreamShortcutIds)
    (root : YamlMapping) : Except String YamlMapping :=
  match ids.policyProfileId, ids.template.site.policyProfile with
  | some policyProfileId, some policyProfile =>
      insertIfAbsent serde.policyProfileToValue serde.policyProfileFromValue root
        "policy_profiles" policyProfileId policyProfile
  | _, _ => .ok root

/-- One turn of the loop over the shortcuts. -/
def expandUpstream (serde : SerdeYaml) (root : YamlMapping)
    (entry : String × UpstreamShortcutConfig) : Except String YamlMapping := do
  let ids ← entry.2.ids entry.1
  let root ← insertIfAbsent serde.providerToValue serde.providerFromValue root "providers"
    ids.providerId { providerKind := ids.template.adapter.providerKind, enabled := true }
  let root ← insertUnique serde.accountToValue root "accounts" ids.accountId
    (entry.2.accountConfig ids)
  let root ← insertUnique serde.credentialSetToValue root "credential_sets" ids.credentialSetId
    { keysFile := entry.2.keysFile }
  let root ← insertSitePolicyProfile serde ids root
  let root ← insertUnique serde.poolToValue root "pools" ids.channelId (entry.2.poolConfig ids)
  let modelRoutes ← entry.2.modelRoutes ids.template
  modelRoutes.foldlM (insertModelRoute serde ids) root

/-- The shortcuts as a vector, sorted by their ids. -/
def sortUpstreams {upstreams : IdMap UpstreamShortcutConfig} (order : IterationOrder upstreams) :
    List (String × UpstreamShortcutConfig) :=
  (order.1.map fun entry => (entry.1, entry.2)).insertionSort fun a b => a.1 ≤ b.1

/-- `expand_in_value`: the shortcuts one after the other in the order of their ids, whatever the
order of the map. -/
def expandInValue (serde : SerdeYaml) (value : YamlValue)
    {upstreams : IdMap UpstreamShortcutConfig} (order : IterationOrder upstreams) :
    Except String YamlValue :=
  value.modifyMapping "root config must be a YAML mapping" fun root =>
    (sortUpstreams order).foldlM (expandUpstream serde) (root.remove "upstreams")

end OneAiKey
