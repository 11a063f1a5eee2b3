/-
  OneAiKey.Classifier — the classification of an upstream's error response
  (`ErrorClassifier::classify_failure` of `src/error.rs`), and the deadline that
  follows from it.

  A response is classified by the code in its body or by its status; the first
  adaptation rule that matches may then overwrite the verdict.  A cooldown comes
  from the `Retry-After` header, else from the rule; `transition_after_failure`
  falls back to the default of the channel's policy and adds it to the clock.

  `ClassifierEnvironment` is `serde_json::from_slice` and
  `httpdate::parse_http_date`, whose answer is in nanoseconds since the epoch.

  Main results:
    * `mutationAfterFailure_isSome_iff` — the one way in which a transition panics;
    * `deadline_fits_iff` — and when a classified response leads to it.
-/
import OneAiKey.Resolve.Order

namespace OneAiKey

/-- What the classifier takes from libraries: a JSON parser and one for dates. -/
structure ClassifierEnvironment where
  fromSlice : Bytes → JsonParse
  parseHttpDate : String → Option Nat

/-! ## §1. The evidence of a response. -/

/-- What the classifier reads from a response; the message is not among it. -/
structure UpstreamErrorEvidence where
  status : Nat
  code : Option String
  limitType : Option String
  hasTopLevelErrorObject : Bool
  deriving DecidableEq, Repr

/-- `Value::as_str`. -/
def Json.asStr : Json → Option String
  | string value => some value
  | _ => none

/-- A field of the error object, else of the value itself; it counts only as a text. -/
def Json.errorField (key : String) (value : Json) : Option String :=
  (((value.get "error").bind (·.get key)).or (value.get key)).bind (·.asStr)

/-- The value that a body holds. -/
def ClassifierEnvironment.bodyValue (environment : ClassifierEnvironment) (body : Bytes) :
    Option Json :=
  match environment.fromSlice body with
  | .value value => some value
  | .eof | .invalid => none

/-- The evidence of a response. -/
def UpstreamErrorEvidence.fromResponse (environment : ClassifierEnvironment) (status : Nat)
    (body : Bytes) : UpstreamErrorEvidence :=
  let value := environment.bodyValue body
  { status := status
    code := value.bind (·.errorField "code")
    limitType := value.bind (·.errorField "limit_type")
    hasTopLevelErrorObject := (value.bind (·.get "error")).any (·.isObject) }

/-! ## §2. The verdict of the codes and the statuses. -/

/-- A kind, the scope it is blamed on, whether to retry, and how sure that is. -/
abbrev Classification := FailureKind × FailureScope × Bool × FailureConfidence

/-- Is the code listed? -/
def containsCode (codes : List String) (code : String) : Bool := codes.contains code

/-- A status, or one of a range. -/
def StatusMatcher.matchesStatus (status : Nat) : StatusMatcher → Bool
  | exact value => value == status
  | range start stop => start ≤ status && status ≤ stop

/-- Does one of the matchers match? -/
def matchesStatus (matchers : List StatusMatcher) (status : Nat) : Bool :=
  matchers.any (·.matchesStatus status)

/-- The codes that say more than the list they are in. -/
def knownCode : String → Option Classification
  | "key_switch_cooldown" => some (.keySwitchCooldown, .credential, false, .high)
  | "model_not_found" | "unsupported_endpoint" | "unsupported_parameter" =>
      some (.clientError, .modelGroup, false, .medium)
  | _ => none

/-- The verdict of an exhausted balance, by the scope that the balance belongs to. -/
def balanceVerdict : BalanceScope → Classification
  | .credential => (.quotaExhausted, .credential, false, .medium)
  | .channel => (.relayBalanceUnavailable, .channel, true, .medium)
  | .account => (.unknown, .account, false, .medium)
  | .provider => (.unknown, .providerAdapter, false, .medium)
  | .clientToken => (.unknown, .clientToken, false, .medium)

namespace ErrorClassifier

/-- The verdict of a code that switches the credential. -/
def switchVerdict (classifier : ErrorClassifier) : String → Classification
  | "insufficient_quota" | "quota_exceeded" | "billing_hard_limit_reached" =>
      balanceVerdict classifier.balanceScope
  | "rate_limit_exceeded" | "rate_limit_cooldown" =>
      (.rateLimited, .credential, true, .medium)
  | _ => (.rateLimited, .credential, true, .low)

/-- The verdict on a code, if the classifier knows it: the keep list goes before the others. -/
def classifyCode (classifier : ErrorClassifier) (code : String) : Option Classification :=
  if containsCode classifier.keepCodes code then
    some ((knownCode code).getD (.unknown, .requestOnly, false, .low))
  else if containsCode classifier.expireCodes code then
    some (.authInvalid, .credential, false, if code = "invalid_api_key" then .high else .low)
  else if containsCode classifier.switchCodes code then some (classifier.switchVerdict code)
  else knownCode code

/-- The verdict on a status alone. -/
def classifyStatus (classifier : ErrorClassifier) (status : Nat) : Classification :=
  if matchesStatus classifier.keepStatuses status then (.unknown, .requestOnly, false, .low)
  else if matchesStatus classifier.expireStatuses status then
    if (classifier.relayProfile = .genericRelay ∨ classifier.relayProfile = .untrustedRelay) ∧
        (status = 401 ∨ status = 403) then
      (.clientError, .requestOnly, false, .medium)
    else (.authInvalid, .credential, false, .medium)
  else if matchesStatus classifier.switchStatuses status then
    if 500 ≤ status ∧ status ≤ 599 then (.providerUnavailable, .channel, true, .low)
    else (.rateLimited, .credential, true, .low)
  else if status = 429 then (.rateLimited, .credential, false, .low)
  else (.unknown, .requestOnly, false, .low)

/-- An error object without a code is the client's error, unless the status says otherwise. -/
def classifyCodeLessTopLevelErrorStatus (classifier : ErrorClassifier) (status : Nat) :
    Classification :=
  match classifier.classifyStatus status with
  | (.providerUnavailable, .channel, true, confidence) =>
      (.providerUnavailable, .channel, true, confidence)
  | (.rateLimited, .credential, retryable, confidence) =>
      (.rateLimited, .credential, retryable, confidence)
  | (.clientError, .requestOnly, false, confidence) =>
      (.clientError, .requestOnly, false, confidence)
  | _ => (.clientError, .requestOnly, false, .medium)

/-- A known code decides; the status does otherwise. -/
def classifyEvidence (classifier : ErrorClassifier) (evidence : UpstreamErrorEvidence) :
    Classification :=
  match evidence.code.bind classifier.classifyCode with
  | some verdict => verdict
  | none =>
      if evidence.code.isNone && evidence.hasTopLevelErrorObject then
        classifier.classifyCodeLessTopLevelErrorStatus evidence.status
      else classifier.classifyStatus evidence.status

end ErrorClassifier

/-! ## §3. The cooldown and the adaptation rules. -/

/-- `retry_after_with_now`, at a wall clock value in nanoseconds. -/
def retryAfterWithNow (environment : ClassifierEnvironment) (headers : List (String × String))
    (now : Nat) : Option Duration × Option RetryAfterSource :=
  match findHeader headers "retry-after" with
  | none => (none, none)
  | some value =>
      match parseUnsigned 64 (trim value.toList) with
      | some seconds => (some (Duration.fromSecs seconds), some .deltaSeconds)
      | none =>
          match environment.parseHttpDate (trimString value) with
          | some retryAt => (some (retryAt - now), some .httpDate)
          | none => (none, none)

/-- A matcher that asks for nothing. -/
def ErrorAdaptationMatcher.isEmpty (matcher : ErrorAdaptationMatcher) : Bool :=
  matcher.codes.isEmpty && matcher.limitTypes.isEmpty && matcher.statuses.isEmpty

/-- Every list that is not empty has to match. -/
def ErrorAdaptationMatcher.matchesEvidence (matcher : ErrorAdaptationMatcher)
    (evidence : UpstreamErrorEvidence) : Bool :=
  (matcher.codes.isEmpty || evidence.code.any (containsCode matcher.codes)) &&
    (matcher.limitTypes.isEmpty || evidence.limitType.any (containsCode matcher.limitTypes)) &&
    (matcher.statuses.isEmpty || matchesStatus matcher.statuses evidence.status)

/-- An enabled rule with an id whose matcher asks for something and finds it. -/
def ErrorAdaptationRule.matchesEvidence (rule : ErrorAdaptationRule)
    (evidence : UpstreamErrorEvidence) : Bool :=
  rule.enabled && !(trimString rule.id).isEmpty && !rule.matcher.isEmpty &&
    rule.matcher.matchesEvidence evidence

/-- The rule that a response meets, if any. -/
def ErrorClassifier.adaptationRuleFor (classifier : ErrorClassifier)
    (evidence : UpstreamErrorEvidence) : Option ErrorAdaptationRule :=
  classifier.adaptationRules.find? (·.matchesEvidence evidence)

/-- What a rule changes of a verdict. -/
def ErrorAdaptationRule.apply (rule : ErrorAdaptationRule) (failure : ClassifiedFailure) :
    ClassifiedFailure :=
  { failure with
    kind := rule.action.kind.getD failure.kind
    primaryScope := rule.action.primaryScope.getD failure.primaryScope
    retryable := rule.action.retryable.getD failure.retryable
    -- the header goes before the rule
    cooldown := failure.cooldown.or rule.action.cooldown
    adaptationRuleId := some rule.id }

/-- The first rule that matches changes the verdict. -/
def ErrorClassifier.applyAdaptationRules (classifier : ErrorClassifier)
    (evidence : UpstreamErrorEvidence) (failure : ClassifiedFailure) : ClassifiedFailure :=
  match classifier.adaptationRuleFor evidence with
  | none => failure
  | some rule => rule.apply failure

/-- The verdict on a response, with the rules applied and the cooldown that the response asks for.
-/
def ErrorClassifier.classifyFailure (classifier : ErrorClassifier)
    (environment : ClassifierEnvironment) (now : Nat) (status : Nat)
    (headers : List (String × String)) (body : Bytes) : ClassifiedFailure :=
  let evidence := UpstreamErrorEvidence.fromResponse environment status body
  let verdict := classifier.classifyEvidence evidence
  let retryAfter := retryAfterWithNow environment headers now
  classifier.applyAdaptationRules evidence {
    kind := verdict.1
    primaryScope := verdict.2.1
    retryable := verdict.2.2.1
    cooldown := retryAfter.1
    retryAfterSource := retryAfter.2
    confidence := verdict.2.2.2
    upstreamStatus := some status
    upstreamCode := evidence.code
    upstreamLimitType := evidence.limitType
    classifierId := defaultErrorClassifierId
    classifierVersion := errorClassifierVersion
    adaptationRuleId := none }

/-! ## §4. The deadline. -/

/-- The cooldown whose end a failure gets for a deadline, if it gets one: a provider that is
unavailable only when it asks for a cooldown, the others the default if need be. -/
def deadlineCooldown (kind : FailureKind) (scope : FailureScope) (source : FailureSource)
    (cooldown : Option Duration) (defaultCooldown : Duration) : Option Duration :=
  match kind, scope with
  | .rateLimited, .credential | .responseFilterRejected, .channel =>
      some (cooldown.getD defaultCooldown)
  | .relayBalanceUnavailable, .channel =>
      if source = .upstreamTransaction then some (cooldown.getD defaultCooldown) else none
  | .providerUnavailable, .channel => cooldown
  | _, _ => none

/-- Adding the cooldown to the clock stays within what an `Instant` holds. -/
def FitsClock (now : Instant) (cooldown : Duration) : Prop :=
  Duration.asSecs (now + cooldown) ≤ Instant.maxSeconds

theorem add_isSome_iff (now : Instant) (cooldown : Duration) :
    (now.add cooldown).isSome = true ↔ FitsClock now cooldown := by
  unfold Instant.add FitsClock
  by_cases h : Duration.asSecs (now + cooldown) ≤ Instant.maxSeconds
  · simp [h]
  · simp [h]

theorem cooldownDeadline_isSome_iff (input : TransitionInput) :
    (cooldownDeadline input).isSome = true ↔
      FitsClock input.now
        (input.failure.cooldown.getD input.policy.defaultCredentialCooldown) :=
  add_isSome_iff _ _

/-- A transition panics only where it adds a cooldown to the clock.  The cases of the kind and
the scope are gone through once, and what is left of each is whether it has a deadline at all. -/
theorem mutationAfterFailure_isSome_iff (input : TransitionInput) :
    (mutationAfterFailure input).isSome = true ↔
      ∀ cooldown, deadlineCooldown input.failure.kind input.failure.primaryScope
          input.failureSource input.failure.cooldown
          input.policy.defaultCredentialCooldown = some cooldown →
        FitsClock input.now cooldown := by
  have hdeadline := cooldownDeadline_isSome_iff input
  unfold mutationAfterFailure deadlineCooldown
  cases input.failure.kind with
  | rateLimited =>
      cases input.failure.primaryScope with
      | credential => simpa [Option.isSome_bind] using hdeadline
      | _ => simp
  | responseFilterRejected =>
      cases input.failure.primaryScope with
      | channel => simpa [Option.isSome_bind] using hdeadline
      | _ => simp
  | relayBalanceUnavailable =>
      cases input.failure.primaryScope with
      | channel =>
          by_cases hsource : input.failureSource = .upstreamTransaction
          · simpa [hsource, Option.isSome_bind] using hdeadline
          · simp [hsource]
      | _ => simp
  -- this kind has no default cooldown: without one of its own nothing is added
  | providerUnavailable =>
      cases input.failure.primaryScope with
      | channel =>
          cases hcooldown : input.failure.cooldown with
          | none => simp
          | some cooldown =>
              have hadd := add_isSome_iff input.now cooldown
              simpa [Option.isSome_bind] using hadd
      | _ => simp
  | _ => cases input.failure.primaryScope <;> simp

theorem transitionAfterFailure_isSome (input : TransitionInput) :
    (transitionAfterFailure input).isSome = (mutationAfterFailure input).isSome := by
  unfold transitionAfterFailure
  cases mutationAfterFailure input with
  | none => rfl
  | some mutation => rfl

/-- The cooldown that a response leads to: the header's, else that of the rule it meets,
else the default, where the kind and the scope call for one. -/
def ErrorClassifier.responseCooldown (classifier : ErrorClassifier)
    (environment : ClassifierEnvironment) (now : Nat) (status : Nat)
    (headers : List (String × String)) (body : Bytes) (source : FailureSource)
    (defaultCooldown : Duration) : Option Duration :=
  let evidence := UpstreamErrorEvidence.fromResponse environment status body
  let verdict := classifier.classifyEvidence evidence
  let rule := classifier.adaptationRuleFor evidence
  deadlineCooldown ((rule.bind (·.action.kind)).getD verdict.1)
    ((rule.bind (·.action.primaryScope)).getD verdict.2.1) source
    ((retryAfterWithNow environment headers now).1.or (rule.bind (·.action.cooldown)))
    defaultCooldown

theorem deadlineCooldown_classifyFailure (classifier : ErrorClassifier)
    (environment : ClassifierEnvironment) (now : Nat) (status : Nat)
    (headers : List (String × String)) (body : Bytes) (source : FailureSource)
    (defaultCooldown : Duration) :
    let failure := classifier.classifyFailure environment now status headers body
    deadlineCooldown failure.kind failure.primaryScope source failure.cooldown
        defaultCooldown =
      classifier.responseCooldown environment now status headers body source
        defaultCooldown := by
  unfold ErrorClassifier.classifyFailure ErrorClassifier.applyAdaptationRules
    ErrorClassifier.responseCooldown
  dsimp only
  cases classifier.adaptationRuleFor
      (UpstreamErrorEvidence.fromResponse environment status body) with
  | none =>
      show _ = deadlineCooldown _ _ source (Option.or _ none) defaultCooldown
      rw [Option.or_none]
      rfl
  | some rule => rfl

/-- Classifying a response and deciding what follows panics just when the cooldown that the
response leads to does not fit the clock, whatever the response, the rules, the policy and
the clocks. -/
theorem deadline_fits_iff (classifier : ErrorClassifier) (environment : ClassifierEnvironment)
    (now : Nat) (status : Nat) (headers : List (String × String)) (body : Bytes)
    (input : TransitionInput) :
    (transitionAfterFailure { input with
        failure := classifier.classifyFailure environment now status headers body }).isSome =
        true ↔
      ∀ cooldown, classifier.responseCooldown environment now status headers body
          input.failureSource input.policy.defaultCredentialCooldown = some cooldown →
        FitsClock input.now cooldown := by
  rw [transitionAfterFailure_isSome, mutationAfterFailure_isSome_iff]
  show (∀ cooldown, deadlineCooldown
    (classifier.classifyFailure environment now status headers body).kind
    (classifier.classifyFailure environment now status headers body).primaryScope
    input.failureSource
    (classifier.classifyFailure environment now status headers body).cooldown
    input.policy.defaultCredentialCooldown = some cooldown → _) ↔ _
  rw [deadlineCooldown_classifyFailure]

/-! ## §5. A header that ends the request. -/

/-- No body is JSON, and no header a date. -/
def plainEnvironment : ClassifierEnvironment where
  fromSlice _ := .invalid
  parseHttpDate _ := none

/-- The first report of a request on a channel with this policy, at this clock value. -/
def firstFailure (policy : RoutingPolicy) (now : Instant) : TransitionInput where
  snapshot := {
    requestId := "r"
    configGeneration := 1
    channelHealthGeneration := 1
    clientTokenId := "client"
    requestedModel := none
    endpoint := .chatCompletions
    routeTargetIndex := none
    channelId := "chat"
    providerId := "provider:openai"
    accountId := "account:main"
    providerKind := .openAiCompatible
    credentialId := "cred"
    credentialFingerprint := "print"
    classifierId := defaultErrorClassifierId
    classifierVersion := errorClassifierVersion
    retryCandidates := []
    bodyReplayable := true
    streaming := false
    partialOutputStarted := false
    routeTargetAvailable := false
    effectiveDeadline := none
    attempt := 0
    selectionReason := .modelMapping }
  failure := classifyTransportFailure
  failureSource := .upstreamTransaction
  now := now
  nextAttemptBudget := none
  policy := policy

/-- A 429 with `Retry-After: 18446744073709551615`, on the channel of an accepted
configuration.  The header is the greatest number of seconds that a duration can hold, and no
bound is put on it, so adding it to the clock overflows and the transition has no result. -/
theorem retryAfter_overflows :
    ∃ config channel,
      resolve oneKeyEnvironment shadowedDocument (shadowedOrders
        ⟨[⟨"openai", ⟨.openAiCompatible, true⟩⟩, ⟨" openai", ⟨.genericHttp, true⟩⟩], rfl⟩) =
          .ok config ∧
      config.pools.lookup "chat" = some channel ∧
      transitionAfterFailure { firstFailure channel.routingPolicy 0 with
        failure := channel.errorClassifier.classifyFailure plainEnvironment 0 429
          [("retry-after", "18446744073709551615")] [] } = none :=
  ⟨_, _, rfl, rfl, rfl⟩

end OneAiKey
