/-
  OneAiKey.UpstreamTemplates.Records — configuration records as YAML values.

  What `serde_yaml` does with the records of `src/config.rs`: a record is a mapping from its
  field names, in their order; `None` is null; an enumeration is the text of its variant.  A
  field that has a default may be missing when a record is read, and a field of another name
  is an error.

  `recordSerde` is the expansion's view of it, without policy profiles: no template of the
  common adapters brings one.
-/
import OneAiKey.UpstreamTemplates

namespace OneAiKey

/-! ## §1. Writing. -/

namespace YamlValue

/-- The mapping of a record, its fields in the order in which the source declares them. -/
def record (fields : List (String × YamlValue)) : YamlValue :=
  mapping (fields.map fun field => (string field.1, field.2))

/-- What `serde` makes of an `Option`: null if there is nothing, else the value itself, without a
wrapper. -/
def option {τ : Type} (toValue : τ → YamlValue) : Option τ → YamlValue
  | none => null
  | some value => toValue value

/-- A list of texts as a sequence of strings. -/
def texts (values : List String) : YamlValue := sequence (values.map string)

/-- A number that is not negative, as all numbers of the records are. -/
def nat (value : Nat) : YamlValue := number (.posInt value)

/-- A record is well formed when its fields have different names.  The records below have their
field names written out, so this is decided once for each of them. -/
theorem WellFormed.record {fields : List (String × YamlValue)}
    (distinct : (fields.map Prod.fst).Nodup)
    (values : ∀ field ∈ fields, field.2.WellFormed) : (YamlValue.record fields).WellFormed := by
  refine .mapping ?_ ?_ ?_
  · have hkeys := distinct.map (f := YamlValue.string) fun a b h => string.inj h
    rw [List.map_map] at hkeys ⊢
    exact hkeys
  · intro entry hentry
    obtain ⟨field, -, rfl⟩ := List.mem_map.mp hentry
    exact .string field.1
  · intro entry hentry
    obtain ⟨field, hfield, rfl⟩ := List.mem_map.mp hentry
    exact values field hfield

end YamlValue

open YamlValue (record option texts nat)

/-- The names of the variants as a configuration file spells them (`rename_all = "snake_case"`).
-/
def RelayProfile.asConfig : RelayProfile → String
  | officialOpenAi => "official_openai"
  | genericRelay => "generic_relay"
  | untrustedRelay => "untrusted_relay"

/-- The names of the variants as a configuration file spells them. -/
def EndpointSupport.asConfig : EndpointSupport → String
  | supported => "supported"
  | unsupported => "unsupported"
  | unknown => "unknown"

/-- The names of the variants as a configuration file spells them. -/
def ModelsEndpointCapability.asConfig : ModelsEndpointCapability → String
  | localProjection => "local_projection"
  | unsupported => "unsupported"
  | unknown => "unknown"

/-- A provider as a YAML value, with all of its fields: a default is written out like any other
value. -/
def ProviderConfig.toValue (config : ProviderConfig) : YamlValue :=
  record [
    ("provider_kind", .string config.providerKind.stableIdFragment),
    ("enabled", .bool config.enabled)]

/-- An account as a YAML value, with all of its fields.  None of the five is left out when it
has its default, so the entry that an expansion adds can be read without the defaults. -/
def AccountConfig.toValue (config : AccountConfig) : YamlValue :=
  record [
    ("provider", .string config.provider),
    ("api_base", .string config.apiBase),
    ("auth_header", .string config.authHeader),
    ("auth_prefix", .string config.authPrefix),
    ("enabled", .bool config.enabled)]

/-- A credential set as a YAML value: the path of its keys file is all that it has. -/
def CredentialSetConfig.toValue (config : CredentialSetConfig) : YamlValue :=
  record [("keys_file", .string config.keysFile)]

/-- The capabilities of a channel as a YAML value; what is not declared of an endpoint is
written as null.  A reader takes a null of these fields for a missing one. -/
def EndpointCapabilitiesConfig.toValue (config : EndpointCapabilitiesConfig) : YamlValue :=
  record [
    ("chat_completions", option (fun support => .string support.asConfig) config.chatCompletions),
    ("responses", option (fun support => .string support.asConfig) config.responses),
    ("embeddings", option (fun support => .string support.asConfig) config.embeddings),
    ("models", option (fun support => .string support.asConfig) config.models),
    ("diagnostic_labels", texts config.diagnosticLabels)]

/-- An adaptation rule as a YAML value, its matcher and its action as records of their own.
The statuses stay the texts that they are in the document: they are parsed when the document is
resolved, not when it is expanded. -/
def ErrorAdaptationRuleConfig.toValue (config : ErrorAdaptationRuleConfig) : YamlValue :=
  record [
    ("id", .string config.id),
    ("enabled", .bool config.enabled),
    ("matcher", record [
      ("codes", texts config.matcher.codes),
      ("limit_types", texts config.matcher.limitTypes),
      ("statuses", texts config.matcher.statuses)]),
    ("action", record [
      ("kind", option (fun kind => .string kind.asConfig) config.action.kind),
      ("primary_scope", option (fun scope => .string scope.asConfig) config.action.primaryScope),
      ("retryable", option .bool config.action.retryable),
      ("cooldown_seconds", option nat config.action.cooldownSeconds)])]

/-- The error rules of a policy profile or a channel as a YAML value; a list that is not
configured is null, which is not the empty list. -/
def ErrorRulesConfig.toValue (config : ErrorRulesConfig) : YamlValue :=
  record [
    ("relay_profile", option (fun profile => .string profile.asConfig) config.relayProfile),
    ("balance_scope", option (fun scope => .string scope.asConfig) config.balanceScope),
    ("keep_codes", option texts config.keepCodes),
    ("switch_codes", option texts config.switchCodes),
    ("expire_codes", option texts config.expireCodes),
    ("keep_statuses", option texts config.keepStatuses),
    ("switch_statuses", option texts config.switchStatuses),
    ("expire_statuses", option texts config.expireStatuses),
    ("adaptation_rules", .sequence (config.adaptationRules.map (·.toValue)))]

/-- A channel as a YAML value, with the capabilities and the error rules inside it.  The order
of the fields is that of the structure in the source, and the kind of the provider is written
as its stable text. -/
def PoolConfig.toValue (config : PoolConfig) : YamlValue :=
  record [
    ("endpoint_capabilities", config.endpointCapabilities.toValue),
    ("enabled", .bool config.enabled),
    ("account", option .string config.account),
    ("policy_profile", option .string config.policyProfile),
    ("routing_profile", option .string config.routingProfile),
    ("provider_kind", .string config.providerKind.stableIdFragment),
    ("api_base", .string config.apiBase),
    ("credential_set", .string config.credentialSet),
    ("auth_header", .string config.authHeader),
    ("auth_prefix", .string config.authPrefix),
    ("error_rules", config.errorRules.toValue)]

/-- A target of a route as a YAML value.  Priority and weight are 16-bit numbers.  Writing
cannot lose anything of them, and reading has to refuse what does not fit. -/
def ModelRouteTargetConfig.toValue (config : ModelRouteTargetConfig) : YamlValue :=
  record [
    ("channel", .string config.channel),
    ("upstream_model", option .string config.upstreamModel),
    ("priority", nat config.priority.toNat),
    ("weight", nat config.weight.toNat),
    ("enabled", .bool config.enabled)]

/-- A model route as a YAML value, its targets in their order. -/
def ModelRouteConfig.toValue (config : ModelRouteConfig) : YamlValue :=
  record [
    ("strategy", option .string config.strategy),
    ("targets", .sequence (config.targets.map (·.toValue)))]

/-- What is written for an optional text is well formed, whether there is a text or not. -/
theorem YamlValue.wellFormed_option (value : Option String) :
    (option .string value).WellFormed := by
  cases value with
  | none => exact .null
  | some value => exact .string value

/-- A target is written as a well-formed value: its five fields have different names.  The
values are texts, numbers and truth values, which are well formed by themselves. -/
theorem ModelRouteTargetConfig.wellFormed_toValue (config : ModelRouteTargetConfig) :
    config.toValue.WellFormed := by
  refine .record (by decide : ["channel", "upstream_model", "priority", "weight",
    "enabled"].Nodup) ?_
  simp only [List.forall_mem_cons]
  exact ⟨.string _, YamlValue.wellFormed_option _, .number _, .number _, .bool _, nofun⟩

/-- A model route is written as a well-formed value, because every target in it is.  An
expansion puts such values into the document, which has to stay one without repeated keys. -/
theorem ModelRouteConfig.wellFormed_toValue (config : ModelRouteConfig) :
    config.toValue.WellFormed := by
  refine .record (by decide : ["strategy", "targets"].Nodup) ?_
  simp only [List.forall_mem_cons]
  refine ⟨YamlValue.wellFormed_option _, .sequence ?_, nofun⟩
  intro value hvalue
  obtain ⟨target, -, rfl⟩ := List.mem_map.mp hvalue
  exact target.wellFormed_toValue

/-! ## §2. Reading. -/

namespace YamlValue

/-- A string, and nothing that only looks like one: a number or a boolean is not converted. -/
def readText : YamlValue → Except String String
  | string value => .ok value
  | _ => .error "invalid type, expected a string"

/-- A boolean value. -/
def readBool : YamlValue → Except String Bool
  | bool value => .ok value
  | _ => .error "invalid type, expected a boolean"

/-- A number of 16 bits; a greater one is an error, as `serde` does not wrap it.  Negative
numbers and numbers with a fraction are refused with every other value. -/
def readU16 : YamlValue → Except String UInt16
  | number (.posInt value) =>
      if value < UInt16.size then .ok (UInt16.ofNat value)
      else .error "invalid value, expected u16"
  | _ => .error "invalid type, expected u16"

/-- An optional value: null is `None`, and anything else has to be a value of the type. -/
def readOption {τ : Type} (read : YamlValue → Except String τ) :
    YamlValue → Except String (Option τ)
  | null => .ok none
  | value => (read value).map some

/-- A sequence whose values are read one by one; the first that cannot be read is the error of the
whole. -/
def readSequence {τ : Type} (read : YamlValue → Except String τ) :
    YamlValue → Except String (List τ)
  | sequence values => values.mapM read
  | _ => .error "invalid type, expected a sequence"

/-- The mapping of a record, which has no other fields than these.  A field that the structure
does not have is an error at this place, before any of its fields is read. -/
def readRecord (fields : List String) : YamlValue → Except String YamlMapping
  | mapping entries => do
      -- `deny_unknown_fields`
      ensure (entries.all fun entry => entry.1.asText.any fields.contains) "unknown field"
      return entries
  | _ => .error "invalid type, expected a mapping"

end YamlValue

namespace YamlMapping

/-- A field that has to be there. -/
def field {τ : Type} (m : YamlMapping) (key : String) (read : YamlValue → Except String τ) :
    Except String τ := do
  read (← okOrElse (m.get key) ("missing field " ++ key))

/-- A field with a default.  The default is for a field that is missing, not for one that is null.
-/
def fieldOr {τ : Type} (m : YamlMapping) (key : String) (default : τ)
    (read : YamlValue → Except String τ) : Except String τ :=
  match m.get key with
  | some value => read value
  | none => .ok default

end YamlMapping

open YamlValue (readText readBool readU16 readOption readSequence readRecord)

/-- The kinds of providers by the names that a configuration file gives them. -/
def ProviderKind.fromValue : YamlValue → Except String ProviderKind
  | .string "openai_compatible" => .ok .openAiCompatible
  | .string "generic_http" => .ok .genericHttp
  | _ => .error "unknown variant"

/-- A provider as it is read: it may leave out whether it is enabled.  Its kind has no default,
so a provider without one is an error. -/
def ProviderConfig.fromValue (value : YamlValue) : Except String ProviderConfig := do
  let fields ← readRecord ["provider_kind", "enabled"] value
  return {
    providerKind := ← fields.field "provider_kind" ProviderKind.fromValue
    enabled := ← fields.fieldOr "enabled" true readBool }

/-- A target as it is read: only its channel has to be there.  The defaults of the others are
those of the source: no upstream model of its own, the default priority and weight, and
enabled. -/
def ModelRouteTargetConfig.fromValue (value : YamlValue) :
    Except String ModelRouteTargetConfig := do
  let fields ← readRecord ["channel", "upstream_model", "priority", "weight", "enabled"] value
  return {
    channel := ← fields.field "channel" readText
    upstreamModel := ← fields.fieldOr "upstream_model" none (readOption readText)
    priority := ← fields.fieldOr "priority" defaultRouteTargetPriority readU16
    weight := ← fields.fieldOr "weight" defaultRouteTargetWeight readU16
    enabled := ← fields.fieldOr "enabled" true readBool }

/-- A model route as it is read: strategy and targets may both be missing.  A route without a
strategy keeps none here; the default strategy is chosen when the route is resolved. -/
def ModelRouteConfig.fromValue (value : YamlValue) : Except String ModelRouteConfig := do
  let fields ← readRecord ["strategy", "targets"] value
  return {
    strategy := ← fields.fieldOr "strategy" none (readOption readText)
    targets := ← fields.fieldOr "targets" [] (readSequence ModelRouteTargetConfig.fromValue) }

/-! ## §3. Reading what was written. -/

/-- An optional text is read as it was written. -/
theorem YamlValue.readOption_option (value : Option String) :
    readOption readText (option .string value) = .ok value := by
  cases value <;> rfl

/-- A 16-bit number is read as it was written, since it is in the range that the reader checks. -/
theorem YamlValue.readU16_nat (value : UInt16) : readU16 (nat value.toNat) = .ok value := by
  show (if value.toNat < UInt16.size then _ else _) = _
  rw [if_pos value.toNat_lt, UInt16.ofNat_toNat]

/-- A sequence is read as it was written if each of its values is.  By induction over the
values, as the reading stops at the first that is refused. -/
theorem YamlValue.readSequence_sequence {τ : Type} {toValue : τ → YamlValue}
    {read : YamlValue → Except String τ} (h : ∀ value, read (toValue value) = .ok value)
    (values : List τ) : readSequence read (.sequence (values.map toValue)) = .ok values := by
  show (values.map toValue).mapM read = .ok values
  induction values with
  | nil => rfl
  | cons value values ih =>
      rw [List.map_cons, List.mapM_cons, h value, ih]
      rfl

/-- A target is read as it was written.  All five fields are written, so none of the defaults
is used. -/
theorem ModelRouteTargetConfig.fromValue_toValue (config : ModelRouteTargetConfig) :
    fromValue config.toValue = .ok config := by
  obtain ⟨channel, upstreamModel, priority, weight, enabled⟩ := config
  show (do
    let upstreamModel ← readOption readText (option .string upstreamModel)
    let priority ← readU16 (nat priority.toNat)
    let weight ← readU16 (nat weight.toNat)
    return ModelRouteTargetConfig.mk channel upstreamModel priority weight enabled) = _
  rw [YamlValue.readOption_option, YamlValue.readU16_nat, YamlValue.readU16_nat]
  rfl

/-- A model route is read as it was written.  This is the round trip that an expansion relies
on when it adds a target to a route that is there already. -/
theorem ModelRouteConfig.fromValue_toValue (config : ModelRouteConfig) :
    fromValue config.toValue = .ok config := by
  show (do
    let strategy ← readOption readText (option .string config.strategy)
    let targets ← readSequence ModelRouteTargetConfig.fromValue
      (.sequence (config.targets.map ModelRouteTargetConfig.toValue))
    return ModelRouteConfig.mk strategy targets) = _
  -- field by field, in the order of the reader
  rw [YamlValue.readOption_option,
    YamlValue.readSequence_sequence ModelRouteTargetConfig.fromValue_toValue]
  rfl

/-- The records above as the `serde_yaml` of an expansion.  Policy profiles are refused in both
directions.  A document without policy profiles is enough for the runs below, and nothing is
assumed of profiles. -/
def recordSerde : SerdeYaml where
  providerToValue := fun config => .ok config.toValue
  providerFromValue := ProviderConfig.fromValue
  accountToValue := fun config => .ok config.toValue
  credentialSetToValue := fun config => .ok config.toValue
  policyProfileToValue := fun _ => .error "no policy profiles"
  policyProfileFromValue := fun _ => .error "no policy profiles"
  poolToValue := fun config => .ok config.toValue
  modelRouteToValue := fun config => .ok config.toValue
  modelRouteFromValue := ModelRouteConfig.fromValue

end OneAiKey
