/-
  OneAiKey.ErrorRules — the configured error rules and the classifier that is
  built from them (`src/config.rs`, `src/error.rs`).

  A policy profile and a channel each carry error rules.  Both are checked by
  building a classifier; a channel's classifier is built from the two merged.
  Error texts name the place in the configuration, `context`.
-/
import OneAiKey.Error
import OneAiKey.SuccessGuard

namespace OneAiKey

/-- `anyhow::ensure!`. -/
def ensure (condition : Bool) (message : String) : Except String Unit :=
  if condition then .ok () else .error message

/-- `Option::ok_or_else`. -/
def okOrElse {α : Type} (value : Option α) (message : String) : Except String α :=
  match value with
  | some value => .ok value
  | none => .error message

/-- `str::trim`, as a string. -/
def trimString (s : String) : String := String.ofList (trim s.toList)

/-! ## §1. The classifier. -/

/-- What kind of upstream answers.  The 401 or 403 of a relay may have nothing to do with the key
that was sent. -/
inductive RelayProfile where
  | officialOpenAi
  | genericRelay
  | untrustedRelay
  deriving DecidableEq, Repr

/-- What an exhausted balance is put down to. -/
inductive BalanceScope where
  | credential
  | channel
  | account
  | provider
  | clientToken
  deriving DecidableEq, Repr

/-- The HTTP statuses that a rule is for: one of them, or a hundred as in `5xx`. -/
inductive StatusMatcher where
  | exact (status : Nat)
  | range (start stop : Nat)
  deriving DecidableEq, Repr

/-- `str::parse::<u16>`. -/
def parseU16 (raw : List Char) : Except String Nat :=
  match parseUnsigned 16 raw with
  | some value => .ok value
  | none =>
      if raw.isEmpty then .error "cannot parse integer from empty string"
      else if (parseUnsigned (4 * raw.length) raw).isSome then
        .error "number too large to fit in target type"
      else .error "invalid digit found in string"

/-- A status as it is configured: three digits, or a digit and `xx`.  Both have to be between 1xx
and 5xx. -/
def StatusMatcher.parse (raw : String) : Except String StatusMatcher :=
  if "xx".toList <:+ raw.toList then do
    let hundreds ← parseU16 (raw.toList.take (raw.toList.length - 2))
    ensure (1 ≤ hundreds && hundreds ≤ 5) ("invalid HTTP status range " ++ raw)
    return .range (hundreds * 100) (hundreds * 100 + 99)
  else do
    let status ← parseU16 raw.toList
    ensure (100 ≤ status && status ≤ 599) ("invalid HTTP status " ++ toString status)
    return .exact status

/-- What an upstream error must look like for a rule to apply. -/
structure ErrorAdaptationMatcher where
  codes : List String
  limitTypes : List String
  statuses : List StatusMatcher
  deriving DecidableEq, Repr

/-- What a rule makes of an error; an empty field leaves that part of the classification as it is.
-/
structure ErrorAdaptationAction where
  kind : Option FailureKind
  primaryScope : Option FailureScope
  retryable : Option Bool
  cooldown : Option Duration
  deriving DecidableEq, Repr

/-- An adaptation rule after it has been checked. -/
structure ErrorAdaptationRule where
  id : String
  enabled : Bool
  matcher : ErrorAdaptationMatcher
  action : ErrorAdaptationAction
  deriving DecidableEq, Repr

/-- The classifier of a channel: codes and statuses by what they do to a credential, and the rules
that override them. -/
structure ErrorClassifier where
  relayProfile : RelayProfile
  balanceScope : BalanceScope
  keepCodes : List String
  switchCodes : List String
  expireCodes : List String
  keepStatuses : List StatusMatcher
  switchStatuses : List StatusMatcher
  expireStatuses : List StatusMatcher
  adaptationRules : List ErrorAdaptationRule
  deriving DecidableEq, Repr

/-- A classifier before the defaults have been filled in and the statuses have been parsed. -/
structure ErrorClassifierSpec where
  relayProfile : RelayProfile
  balanceScope : BalanceScope
  keepCodes : Option (List String)
  switchCodes : Option (List String)
  expireCodes : Option (List String)
  keepStatuses : Option (List String)
  switchStatuses : Option (List String)
  expireStatuses : Option (List String)
  adaptationRules : List ErrorAdaptationRule
  deriving DecidableEq, Repr

/-- The classifier of an upstream without configured rules. -/
def ErrorClassifier.default : ErrorClassifier where
  relayProfile := .officialOpenAi
  balanceScope := .credential
  keepCodes := ["key_switch_cooldown"]
  switchCodes := ["insufficient_quota", "quota_exceeded", "rate_limit_exceeded",
    "rate_limit_cooldown", "billing_hard_limit_reached"]
  expireCodes := ["invalid_api_key"]
  keepStatuses := []
  switchStatuses := [.exact 502, .exact 503, .exact 504]
  expireStatuses := [.exact 401, .exact 403]
  adaptationRules := []

/-- The configured statuses, or the default ones if none are configured. -/
def parseStatuses (raw : Option (List String)) (default : List StatusMatcher) :
    Except String (List StatusMatcher) :=
  match raw with
  | some items => items.mapM StatusMatcher.parse
  | none => .ok default

/-- The classifier of a specification.  It fails at the first status that does not parse. -/
def ErrorClassifierSpec.build (spec : ErrorClassifierSpec) : Except String ErrorClassifier := do
  let default := ErrorClassifier.default
  return {
    relayProfile := spec.relayProfile
    balanceScope := spec.balanceScope
    keepCodes := spec.keepCodes.getD default.keepCodes
    switchCodes := spec.switchCodes.getD default.switchCodes
    expireCodes := spec.expireCodes.getD default.expireCodes
    keepStatuses := ← parseStatuses spec.keepStatuses default.keepStatuses
    switchStatuses := ← parseStatuses spec.switchStatuses default.switchStatuses
    expireStatuses := ← parseStatuses spec.expireStatuses default.expireStatuses
    adaptationRules := spec.adaptationRules }

/-! ## §2. The configured rules. -/

/-- The matcher of a rule as it is configured, with its statuses as texts. -/
structure ErrorAdaptationMatcherConfig where
  codes : List String
  limitTypes : List String
  statuses : List String
  deriving DecidableEq, Repr

/-- The action of a rule as it is configured. -/
structure ErrorAdaptationActionConfig where
  kind : Option FailureKind
  primaryScope : Option FailureScope
  retryable : Option Bool
  cooldownSeconds : Option Nat
  deriving DecidableEq, Repr

/-- An adaptation rule as it is configured; its id names it in error texts and in the merge. -/
structure ErrorAdaptationRuleConfig where
  id : String
  enabled : Bool
  matcher : ErrorAdaptationMatcherConfig
  action : ErrorAdaptationActionConfig
  deriving DecidableEq, Repr

/-- The error rules of a policy profile or a channel. -/
structure ErrorRulesConfig where
  relayProfile : Option RelayProfile
  balanceScope : Option BalanceScope
  keepCodes : Option (List String)
  switchCodes : Option (List String)
  expireCodes : Option (List String)
  keepStatuses : Option (List String)
  switchStatuses : Option (List String)
  expireStatuses : Option (List String)
  adaptationRules : List ErrorAdaptationRuleConfig
  deriving DecidableEq, Repr

/-- No rules at all. -/
def ErrorRulesConfig.default : ErrorRulesConfig :=
  ⟨none, none, none, none, none, none, none, none, []⟩

/-- The kinds as a configuration file and the error texts of the checks spell them. -/
def FailureKind.asConfig : FailureKind → String
  | rateLimited => "rate_limited"
  | keySwitchCooldown => "key_switch_cooldown"
  | authInvalid => "auth_invalid"
  | quotaExhausted => "quota_exhausted"
  | relayBalanceUnavailable => "relay_balance_unavailable"
  | providerUnavailable => "provider_unavailable"
  | responseFilterRejected => "response_filter_rejected"
  | clientError => "client_error"
  | unknown => "unknown"

/-- The scopes as a configuration file and the error texts of the checks spell them. -/
def FailureScope.asConfig : FailureScope → String
  | requestOnly => "request_only"
  | credential => "credential"
  | account => "account"
  | channel => "channel"
  | deployment => "deployment"
  | modelGroup => "model_group"
  | providerAdapter => "provider_adapter"
  | clientToken => "client_token"

/-- The balance scopes as a configuration file and the error texts of the checks spell them. -/
def BalanceScope.asConfig : BalanceScope → String
  | credential => "credential"
  | channel => "channel"
  | account => "account"
  | provider => "provider"
  | clientToken => "client_token"

/-- The scopes that no failure transition implements. -/
def FailureScope.unimplemented : FailureScope → Bool
  | account | deployment | providerAdapter | clientToken => true
  | requestOnly | credential | channel | modelGroup => false

/-- The kinds and scopes that an adaptation rule may combine. -/
def supportedAdaptation : FailureKind → FailureScope → Bool
  | .authInvalid, .credential
  | .rateLimited, .credential
  | .quotaExhausted, .credential
  | .relayBalanceUnavailable, .channel
  | .providerUnavailable, .channel
  | .keySwitchCooldown, .credential
  | .clientError, .requestOnly
  | .clientError, .modelGroup
  | .unknown, .requestOnly => true
  | _, _ => false

/-- Kind and scope are configured both or neither, and only together as the failure transitions
implement them. -/
def validateAdaptationActionCombination (context : String) (kind : Option FailureKind)
    (scope : Option FailureScope) : Except String Unit :=
  match kind, scope with
  | some kind, none =>
      .error (context ++ ".action kind " ++ kind.asConfig ++
        " requires explicit supported primary_scope")
  | none, some scope =>
      .error (context ++ ".action primary_scope " ++ scope.asConfig ++
        " requires explicit supported kind")
  | none, none => .ok ()
  | some kind, some scope =>
      if scope.unimplemented then
        .error (context ++ ".action.primary_scope " ++ scope.asConfig ++ " is not implemented")
      else
        ensure (supportedAdaptation kind scope)
          (context ++ ".action kind " ++ kind.asConfig ++ " with primary_scope " ++
            scope.asConfig ++ " is not implemented")

/-- A key switch changes no state, so a rule that yields one may neither retry nor set a cooldown.
-/
def ensureKeySwitchCooldownActionHasNoOverrides (context : String) (retryable : Option Bool)
    (cooldownSeconds : Option Nat) : Except String Unit := do
  ensure (retryable ≠ some true)
    (context ++ ".action kind key_switch_cooldown with primary_scope credential " ++
      "cannot be retryable")
  ensure cooldownSeconds.isNone
    (context ++ ".action kind key_switch_cooldown with primary_scope credential " ++
      "cannot set cooldown_seconds")

/-- The same for a rule that leaves out kind or scope, and so can meet an error that is a key
switch already. -/
def validateKeySwitchCooldownActionOverride (context : String)
    (matcher : ErrorAdaptationMatcher) (action : ErrorAdaptationActionConfig) :
    Except String Unit :=
  if !matcher.codes.isEmpty && !matcher.codes.contains "key_switch_cooldown" then .ok ()
  else
    let effectiveKind := action.kind.getD .keySwitchCooldown
    let effectiveScope := action.primaryScope.getD .credential
    if effectiveKind = .keySwitchCooldown ∧ effectiveScope = .credential then
      ensureKeySwitchCooldownActionHasNoOverrides context action.retryable action.cooldownSeconds
    else .ok ()

/-- The matcher with its statuses parsed. -/
def ErrorAdaptationMatcherConfig.intoMatcher (matcher : ErrorAdaptationMatcherConfig) :
    Except String ErrorAdaptationMatcher := do
  return {
    codes := matcher.codes
    limitTypes := matcher.limitTypes
    statuses := ← matcher.statuses.mapM StatusMatcher.parse }

/-- The checked action; a cooldown of no seconds is refused. -/
def ErrorAdaptationActionConfig.intoAction (action : ErrorAdaptationActionConfig)
    (context : String) : Except String ErrorAdaptationAction := do
  validateAdaptationActionCombination context action.kind action.primaryScope
  if action.kind = some .keySwitchCooldown ∧ action.primaryScope = some .credential then
    ensureKeySwitchCooldownActionHasNoOverrides context action.retryable action.cooldownSeconds
  ensure (action.cooldownSeconds ≠ some 0)
    (context ++ ".action.cooldown_seconds must be greater than zero")
  return {
    kind := action.kind
    primaryScope := action.primaryScope
    retryable := action.retryable
    cooldown := action.cooldownSeconds.map Duration.fromSecs }

/-- The checked rule.  Its action is checked before its matcher, so that is the error which is
reported of two. -/
def ErrorAdaptationRuleConfig.intoRule (rule : ErrorAdaptationRuleConfig) (context : String) :
    Except String ErrorAdaptationRule := do
  let id := trimString rule.id
  ensure (!id.isEmpty) "adaptation rule id must not be empty"
  let action ← rule.action.intoAction context
  let matcher ← rule.matcher.intoMatcher
  ensure (!matcher.codes.isEmpty || !matcher.limitTypes.isEmpty || !matcher.statuses.isEmpty)
    ("adaptation rule " ++ id ++ " matcher must not be empty")
  validateKeySwitchCooldownActionOverride context matcher rule.action
  return { id, enabled := rule.enabled, matcher, action }

/-- Only the first two scopes are implemented. -/
def validateBalanceScope (context : String) (balanceScope : BalanceScope) :
    Except String BalanceScope :=
  match balanceScope with
  | .credential | .channel => .ok balanceScope
  | .account | .provider | .clientToken =>
      .error (context ++ ".balance_scope " ++ balanceScope.asConfig ++ " is not implemented")

/-- The classifier of configured rules.  Error texts begin with `context`, and those of a rule
with its id behind that. -/
def ErrorRulesConfig.intoClassifierWithContext (rules : ErrorRulesConfig) (context : String) :
    Except String ErrorClassifier := do
  let balanceScope ← validateBalanceScope context (rules.balanceScope.getD .credential)
  let adaptationRules ← rules.adaptationRules.mapM fun rule =>
    rule.intoRule (context ++ ".adaptation_rules." ++ trimString rule.id)
  ErrorClassifierSpec.build {
    relayProfile := rules.relayProfile.getD .officialOpenAi
    balanceScope := balanceScope
    keepCodes := rules.keepCodes
    switchCodes := rules.switchCodes
    expireCodes := rules.expireCodes
    keepStatuses := rules.keepStatuses
    switchStatuses := rules.switchStatuses
    expireStatuses := rules.expireStatuses
    adaptationRules := adaptationRules }

/-- Has a channel any rules of its own, over those of its profile? -/
def ErrorRulesConfig.hasOverride (rules : ErrorRulesConfig) : Bool :=
  rules.relayProfile.isSome || rules.balanceScope.isSome || rules.keepCodes.isSome ||
    rules.switchCodes.isSome || rules.expireCodes.isSome || rules.keepStatuses.isSome ||
    rules.switchStatuses.isSome || rules.expireStatuses.isSome ||
    !rules.adaptationRules.isEmpty

/-! ## §3. Rule ids. -/

/-- The loop of the two uniqueness checks, with the texts of its two errors. -/
def validateUniqueRuleIds (emptyId : String) (duplicateId : String → String) :
    List ErrorAdaptationRuleConfig → List String → Except String Unit
  | [], _ => .ok ()
  | rule :: rules, seen => do
      let id := trimString rule.id
      ensure (!id.isEmpty) emptyId
      ensure (!seen.contains id) (duplicateId id)
      validateUniqueRuleIds emptyId duplicateId rules (id :: seen)

/-- The ids of the rules of one profile or channel. -/
def validateUniqueAdaptationRuleIds (context : String)
    (rules : List ErrorAdaptationRuleConfig) : Except String Unit :=
  validateUniqueRuleIds (context ++ " adaptation rule id must not be empty")
    (fun id => "duplicate error adaptation rule id " ++ id ++ " in " ++ context) rules []

/-- The ids of the rules of a channel and its profile together. -/
def validateUniqueMergedAdaptationRuleIds (channelId : String)
    (rules : List ErrorAdaptationRuleConfig) : Except String Unit :=
  validateUniqueRuleIds ("pool " ++ channelId ++ " adaptation rule id must not be empty")
    (fun id => "duplicate merged error adaptation rule id " ++ id ++ " for pool " ++ channelId)
    rules []

/-- The rules with their ids trimmed, as the checks have compared them. -/
def normalizeAdaptationRuleIds (rules : List ErrorAdaptationRuleConfig) :
    List ErrorAdaptationRuleConfig :=
  rules.map fun rule => { rule with id := trimString rule.id }

end OneAiKey
