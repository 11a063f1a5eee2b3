/-
  OneAiKey.Config — configuration documents and resolved configurations
  (`src/config.rs`, `src/registry.rs`, `src/endpoint_capabilities.rs`).

  A section of a document is a hash map from ids to entries, an `IdMap` here: a
  finite map without an order.  The order in which a loop visits its entries is
  not defined; a resolution takes it as an argument.  Paths and addresses are
  texts; of the listen address only whether it is a loopback one matters.
-/
import Mathlib.Data.Finmap
import OneAiKey.ErrorRules
import OneAiKey.ResponseFilter
import OneAiKey.RoutePlan
import OneAiKey.State

namespace OneAiKey

/-- A `HashMap` with texts as its keys. -/
abbrev IdMap (β : Type) := Finmap fun _ : String => β

/-! ## §1. Endpoint capabilities. -/

/-- What a channel can do at an endpoint: `unknown` is for a provider of which nothing has been
declared.  Requests are routed without regard to it; it decides what the explanation of an
endpoint family says to operators. -/
inductive EndpointSupport where
  | supported
  | unsupported
  | unknown
  deriving DecidableEq, Repr

/-- What stands behind the models endpoint of a channel; the proxy answers it from its own
routes, so there is no plain `supported` here. -/
inductive ModelsEndpointCapability where
  | localProjection
  | unsupported
  | unknown
  deriving DecidableEq, Repr

/-- The capabilities that a channel declares; what it leaves out is decided by the kind of its
provider.  The labels are for operators only and decide nothing. -/
structure EndpointCapabilitiesConfig where
  chatCompletions : Option EndpointSupport
  responses : Option EndpointSupport
  embeddings : Option EndpointSupport
  models : Option ModelsEndpointCapability
  diagnosticLabels : List String
  deriving DecidableEq, Repr

/-- The capabilities of a channel after the defaults of its provider's kind have been filled
in.  Nothing is optional any more: each endpoint has a support, if only an unknown one. -/
structure ResolvedEndpointCapabilities where
  chatCompletions : EndpointSupport
  responses : EndpointSupport
  embeddings : EndpointSupport
  models : ModelsEndpointCapability
  diagnosticLabels : List String
  deriving DecidableEq, Repr

/-- The capabilities of a kind of provider, over which a channel lays what it declares itself. -/
def ProviderKind.defaultEndpointCapabilities : ProviderKind → ResolvedEndpointCapabilities
  | openAiCompatible =>
      ⟨.supported, .unknown, .unknown, .localProjection, ["openai_compatible"]⟩
  | genericHttp => ⟨.unknown, .unknown, .unknown, .unknown, ["generic_http"]⟩

/-- A label is shown to operators: it is short and of plain characters.  The length is counted
in bytes and checked before the characters, and the first check that fails gives the text of
the error. -/
def validateDiagnosticLabel (label : String) : Except String Unit := do
  ensure (!label.isEmpty) "endpoint capability diagnostic label must not be empty"
  ensure (label.utf8ByteSize ≤ 64)
    "endpoint capability diagnostic label must be at most 64 bytes"
  ensure (label.toList.all fun c => c.isAlphanum || ['-', '_', '.', ':'].contains c)
    "endpoint capability diagnostic label contains unsupported characters"

/-- The texts of a `BTreeSet`: in order, each once. -/
def sortedTexts (texts : List String) : List String := (texts.insertionSort (· ≤ ·)).dedup

/-- What a channel declares goes first, and the base fills the gaps; the labels of both are kept,
in order and each once. -/
def EndpointCapabilitiesConfig.resolveWithBase (config : EndpointCapabilitiesConfig)
    (base : ResolvedEndpointCapabilities) : Except String ResolvedEndpointCapabilities := do
  for label in config.diagnosticLabels do
    validateDiagnosticLabel label
  return {
    chatCompletions := config.chatCompletions.getD base.chatCompletions
    responses := config.responses.getD base.responses
    embeddings := config.embeddings.getD base.embeddings
    models := config.models.getD base.models
    diagnosticLabels := sortedTexts (base.diagnosticLabels ++ config.diagnosticLabels) }

/-! ## §2. The sections of a document. -/

/-- A provider as a document configures it. -/
structure ProviderConfig where
  providerKind : ProviderKind
  enabled : Bool
  deriving DecidableEq, Repr

/-- An account at a provider: the address, and how a key is put into the header of a request.
A channel that names an account takes all three of them from it, and the provider as well. -/
structure AccountConfig where
  provider : String
  apiBase : String
  authHeader : String
  authPrefix : String
  enabled : Bool
  deriving DecidableEq, Repr

/-- A credential set: the file from which its keys are imported. -/
structure CredentialSetConfig where
  keysFile : String
  deriving DecidableEq, Repr

/-- A channel of a document.  With an account, provider, address and header come from there, else
from the channel's own fields. -/
structure PoolConfig where
  endpointCapabilities : EndpointCapabilitiesConfig
  enabled : Bool
  account : Option String
  policyProfile : Option String
  routingProfile : Option String
  providerKind : ProviderKind
  apiBase : String
  credentialSet : String
  authHeader : String
  authPrefix : String
  errorRules : ErrorRulesConfig
  deriving DecidableEq, Repr

/-- A group of models that client tokens can be restricted to. -/
structure ModelGroupConfig where
  models : List String
  deriving DecidableEq, Repr

/-- What a probe of a credential may do to the credential.  Nothing is done by itself: the
action is planned with the result and applied when an operator asks for it. -/
inductive ProbeResultActionKind where
  | noop
  | expire
  | quotaExhaust
  | restore
  | cooldown
  deriving DecidableEq, Repr

/-- The action for each outcome of a probe, where a profile configures one.  What it leaves out
is filled in when the profile is resolved, each outcome with its own default. -/
structure ProbeResultActionConfig where
  success : Option ProbeResultActionKind
  invalid : Option ProbeResultActionKind
  quotaExhausted : Option ProbeResultActionKind
  rateLimited : Option ProbeResultActionKind
  providerUnavailable : Option ProbeResultActionKind
  unsupportedModel : Option ProbeResultActionKind
  unknown : Option ProbeResultActionKind
  cooldownSeconds : Option Nat
  deriving DecidableEq, Repr

/-- Error rules and probe actions that several channels share. -/
structure PolicyProfileConfig where
  errorRules : ErrorRulesConfig
  probeResultActions : ProbeResultActionConfig
  deriving DecidableEq, Repr

/-- There is one strategy: a credential is kept until it fails. -/
inductive KeySelectionStrategy where
  | stickyUntilFailure
  deriving DecidableEq, Repr

/-- How the channels that name the profile select and retry.  The retry with another credential
and the retry with another target are switched on apart from each other, and only the first has
a bound of its own. -/
structure RoutingProfileConfig where
  keySelection : KeySelectionStrategy
  defaultCredentialCooldownSeconds : Nat
  /-- `same_request_credential_retry`. -/
  sameRequestRetryEnabled : Bool
  sameRequestMaxRetries : Nat
  /-- `route_target_retry`. -/
  routeTargetRetryEnabled : Bool
  deriving DecidableEq, Repr

/-- A target of a model route: a channel, and the model that is asked for there.  Without an
upstream model the requested one is asked for.  A lower priority number comes first, and
weights count among targets of equal priority. -/
structure ModelRouteTargetConfig where
  channel : String
  upstreamModel : Option String
  priority : UInt16
  weight : UInt16
  enabled : Bool
  deriving DecidableEq, Repr

/-- A model route of a document; the name of its strategy is checked when it is resolved. -/
structure ModelRouteConfig where
  strategy : Option String
  targets : List ModelRouteTargetConfig
  deriving DecidableEq, Repr

/-! ## §3. The document. -/

/-- A client token with the secret itself; resolved, only the hash of the secret is left.  An
empty list of groups or of channels stands for no restriction. -/
structure ClientTokenConfig where
  name : String
  token : String
  enabled : Bool
  allowedModelGroups : List String
  allowedChannels : List String
  deriving DecidableEq, Repr

/-- The roles of the management interface.  Each of them may do what the one before it may. -/
inductive ManagementRole where
  | readonly
  | operator
  | admin
  deriving DecidableEq, Repr

/-- The roles in their order. -/
def ManagementRole.rank : ManagementRole → Nat
  | readonly => 0
  | operator => 1
  | admin => 2

/-- A role may do what is asked of any role up to it. -/
def ManagementRole.allows (role minimum : ManagementRole) : Bool :=
  decide (minimum.rank ≤ role.rank)

/-- A person or a tool with access to the management interface.  As with client tokens, only
the hash of the token is left when it is resolved. -/
structure ManagementPrincipalConfig where
  name : String
  token : String
  role : ManagementRole
  enabled : Bool
  deriving DecidableEq, Repr

/-- The management interface: who may use it, from where, and where its events are logged.
Without a path the events are kept in memory only, and a restart or a reload does not find
them. -/
structure ManagementConfig where
  adminToken : String
  ipAllowlist : Option (List String)
  principals : List ManagementPrincipalConfig
  eventLogPath : Option String
  eventWindowCapacity : Option Nat
  deriving DecidableEq, Repr

/-- The timeouts of requests to an upstream; a default stands for each that is missing.  The
connection, the whole of an answer and the pause between two parts of a stream have one each. -/
structure TimeoutConfig where
  connectSeconds : Option Nat
  nonStreamingTotalSeconds : Option Nat
  streamingIdleSeconds : Option Nat
  deriving DecidableEq, Repr

/-- Bounds on what a request considers and on what telemetry keeps.  A bound of 0 is refused,
and where one is missing there is a default. -/
structure RoutingConfig where
  maxRouteCandidates : Option Nat
  maxModelCatalogChannels : Option Nat
  telemetryBufferCapacity : Option Nat
  deriving DecidableEq, Repr

/-- The kinds of filter rules: what is written, a literal or a regular expression, and whether it
must occur or must not. -/
inductive ResponseFilterRuleKindConfig where
  | literal
  | regex
  | requiredLiteral
  | requiredRegex
  deriving DecidableEq, Repr

/-- A filter rule; a literal has a value and a regular expression a pattern.  Which of the two
is needed depends on the kind, so both are optional. -/
structure ResponseFilterRuleConfig where
  id : String
  enabled : Bool
  kind : ResponseFilterRuleKindConfig
  action : ResponseFilterAction
  caseSensitive : Bool
  value : Option String
  pattern : Option String
  deriving DecidableEq, Repr

/-- The response filter of a document, with the bounds of its own event window.  A filter that
is switched off, or has no rules, leaves every response as it is. -/
structure ResponseFilterConfig where
  enabled : Bool
  replacement : Option String
  eventWindowCapacity : Option Nat
  alertWindowSeconds : Option Nat
  rules : List ResponseFilterRuleConfig
  deriving DecidableEq, Repr

/-- The address that the process listens on, as it is written, and whether it is a
loopback address. -/
structure ListenAddress where
  address : String
  isLoopback : Bool
  deriving DecidableEq, Repr

/-- The resources that a registry store keeps.  Each section is a map by id, and the two
defaults name an entry of one of them. -/
structure RegistryResources where
  defaultPool : Option String
  providers : IdMap ProviderConfig
  accounts : IdMap AccountConfig
  credentialSets : IdMap CredentialSetConfig
  policyProfiles : IdMap PolicyProfileConfig
  defaultRoutingProfile : Option String
  routingProfiles : IdMap RoutingProfileConfig
  modelRoutes : IdMap ModelRouteConfig
  pools : IdMap PoolConfig

/-- A configuration document: the resources, and what only the bootstrap file may say.  A
staged document takes these parts from the bootstrap file, so a reload never changes them. -/
structure RegistryDocument extends RegistryResources where
  listen : ListenAddress
  clientTokens : List ClientTokenConfig
  management : Option ManagementConfig
  maxRequestBodyBytes : Nat
  maxModelCatalogBodyBytes : Nat
  maxErrorBodyBytes : Nat
  timeouts : TimeoutConfig
  routing : RoutingConfig
  responseFilter : ResponseFilterConfig
  modelGroups : IdMap ModelGroupConfig

/-- `apply_resources`; `into_resources` is the projection. -/
def RegistryDocument.applyResources (document : RegistryDocument)
    (resources : RegistryResources) : RegistryDocument :=
  { document with toRegistryResources := resources }

/-- `RegistryOverlay::overlay_staged_resources`. -/
def overlayStagedResources (bootstrap stagedResources : RegistryDocument) : RegistryDocument :=
  bootstrap.applyResources stagedResources.toRegistryResources

/-! ## §4. The resolved configuration. -/

/-- The probe actions with all defaults filled in.  A probe that is applied looks its outcome
up here, and there is an action for each. -/
structure ProbeResultPolicy where
  success : ProbeResultActionKind
  invalid : ProbeResultActionKind
  quotaExhausted : ProbeResultActionKind
  rateLimited : ProbeResultActionKind
  providerUnavailable : ProbeResultActionKind
  unsupportedModel : ProbeResultActionKind
  unknown : ProbeResultActionKind
  cooldown : Duration
  deriving DecidableEq, Repr

/-- A policy profile after its rules have been checked.  Its rules are kept as they were
configured, since a channel merges them with its own before they are compiled. -/
structure ResolvedPolicyProfile where
  id : String
  errorRules : ErrorRulesConfig
  probeResultPolicy : ProbeResultPolicy
  deriving DecidableEq, Repr

/-- A routing profile after its bounds have been checked, its seconds as durations. -/
structure ResolvedRoutingProfile where
  id : String
  keySelection : KeySelectionStrategy
  defaultCredentialCooldown : Duration
  sameRequestCredentialRetryEnabled : Bool
  maxSameRequestRetries : Nat
  routeTargetRetryEnabled : Bool
  deriving DecidableEq, Repr

/-- A model group with its trimmed id and models. -/
structure ResolvedModelGroup where
  id : String
  models : List String
  deriving DecidableEq, Repr

/-- A client token as a request is compared with it: by the hash of its secret. -/
structure ResolvedClientToken where
  id : String
  name : String
  tokenHash : String
  enabled : Bool
  allowedModelGroups : List String
  allowedChannels : List String
  deriving DecidableEq, Repr

/-- A principal as a request is compared with it: by the hash of its secret. -/
structure ResolvedManagementPrincipal where
  id : String
  name : String
  role : ManagementRole
  tokenHash : String
  enabled : Bool
  deriving DecidableEq, Repr

/-- The peers that may reach the management interface; without a list these are the loopback ones.
-/
inductive ResolvedManagementIpAllowlist where
  | explicit (addresses : List String)
  | loopbackOnly
  deriving DecidableEq, Repr

/-- The address of a peer, as its canonical text, and whether it is a loopback address. -/
structure PeerAddress where
  address : String
  isLoopback : Bool
  deriving DecidableEq, Repr

/-- Is the peer on the list? -/
def ResolvedManagementIpAllowlist.allowsIp (peer : PeerAddress) :
    ResolvedManagementIpAllowlist → Bool
  | explicit addresses => addresses.contains peer.address
  | loopbackOnly => peer.isLoopback

/-- The timeouts as durations. -/
structure ResolvedTimeoutProfile where
  connect : Duration
  nonStreamingTotal : Duration
  streamingIdle : Duration
  deriving DecidableEq, Repr

/-- The bounds of routing and telemetry with their defaults filled in. -/
structure ResolvedRoutingConfig where
  maxRouteCandidates : Nat
  maxModelCatalogChannels : Nat
  telemetryBufferCapacity : Nat
  deriving DecidableEq, Repr

/-- The filter with its rules compiled. -/
structure ResolvedResponseFilterConfig where
  policy : ResponseFilterPolicy
  eventWindowCapacity : Nat
  alertWindow : Duration

/-- Where a channel has an adaptation rule from. -/
inductive ErrorPolicyRuleSource where
  | profile (profileId : String)
  | poolOverride
  deriving DecidableEq, Repr

/-- An adaptation rule by its id, with its source. -/
structure AdaptationRuleSource where
  id : String
  source : ErrorPolicyRuleSource
  deriving DecidableEq, Repr

/-- Where the error rules of a channel come from, as the management interface shows it. -/
structure ResolvedErrorPolicySources where
  profileId : Option String
  hasPoolOverride : Bool
  adaptationRuleSources : List AdaptationRuleSource
  deriving DecidableEq, Repr

/-- The routing profile of a channel, as the management interface shows it. -/
structure ResolvedRoutingPolicySources where
  profileId : String
  deriving DecidableEq, Repr

/-- A line of a keys file that repeats the key of an earlier one; the key itself is not kept. -/
structure DuplicateCredentialOccurrence where
  firstSourceLine : Nat
  duplicateSourceLine : Nat
  fingerprint : CredentialFingerprint
  deriving DecidableEq, Repr

/-- What became of the lines of a keys file. -/
structure KeyImportReport where
  sourcePath : String
  physicalLineCount : Nat
  nonEmptyCount : Nat
  uniqueCount : Nat
  duplicateOccurrenceCount : Nat
  ignoredEmptyCount : Nat
  invalidLineCount : Nat
  claimedCount : Option Nat
  claimSource : Option String
  importGeneration : Nat
  lastImportedAtUnixSeconds : Int
  duplicateFingerprints : List DuplicateCredentialOccurrence
  deriving DecidableEq, Repr

/-- The credentials of a keys file, with the report on it. -/
structure KeyImport where
  credentials : List PoolCredentialInput
  report : KeyImportReport
  deriving DecidableEq, Repr

/-- A channel's resolved configuration in full; the runtime reads the part above. -/
structure FullPoolConfig extends ResolvedPoolConfig where
  configuredEnabled : Bool
  providerEnabled : Bool
  accountConfiguredEnabled : Bool
  accountEnabled : Bool
  errorPolicySources : ResolvedErrorPolicySources
  probeResultPolicy : ProbeResultPolicy
  routingProfileId : String
  routingPolicySources : ResolvedRoutingPolicySources
  endpointCapabilities : ResolvedEndpointCapabilities
  errorClassifier : ErrorClassifier
  keyImportReport : KeyImportReport
  deriving DecidableEq, Repr

/-- A resolved configuration in full. -/
structure FullResolvedConfig where
  listen : ListenAddress
  clientTokens : List ResolvedClientToken
  managementPrincipals : List ResolvedManagementPrincipal
  managementIpAllowlist : ResolvedManagementIpAllowlist
  maxRequestBodyBytes : Nat
  maxModelCatalogBodyBytes : Nat
  maxErrorBodyBytes : Nat
  timeoutProfile : ResolvedTimeoutProfile
  routing : ResolvedRoutingConfig
  responseFilter : ResolvedResponseFilterConfig
  managementEventLogPath : Option String
  managementEventWindowCapacity : Nat
  credentialStorePath : Option String
  policyProfiles : IdMap ResolvedPolicyProfile
  routingProfiles : IdMap ResolvedRoutingProfile
  defaultPool : Option String
  pools : IdMap FullPoolConfig
  modelGroups : IdMap ResolvedModelGroup
  modelRoutes : IdMap ModelRoute

end OneAiKey
