/-
  OneAiKey.Routing — what one failure means: the state mutation and the retry
  directive (`src/routing.rs`).

  `transitionAfterFailure` is one cascade of guards.  Its two results are
  computed by two definitions here, `mutationAfterFailure` and
  `retryAfterFailure`, because the source computes them one after the other
  and neither reads the other.  A cooldown deadline that leaves the range of
  an `Instant` panics in the source: then there is no result.

  Main results:
    * `retry_gate_sound` — the conditions under which a retry directive is
      returned at all, and the further ones of each directive;
    * `mutation_independent_of_gate` — the mutation does not depend on the
      retry gate's inputs.
-/
import OneAiKey.Credentials
import OneAiKey.Error
import OneAiKey.Provider

namespace OneAiKey

/-- `ChannelId(pub String)`. -/
abbrev ChannelId := String

/-- Why a channel was selected: it is the default one, a route leads to it, or the request names
it. -/
inductive SelectionReason where
  | defaultPool
  | modelMapping
  | namedChannel
  deriving DecidableEq, Repr

/-- What an attempt was planned with; it stays fixed while the attempt runs. -/
structure RequestSelectionSnapshot where
  requestId : String
  configGeneration : Nat
  channelHealthGeneration : Nat
  clientTokenId : String
  requestedModel : Option String
  endpoint : EndpointKind
  routeTargetIndex : Option Nat
  channelId : ChannelId
  providerId : String
  accountId : String
  providerKind : ProviderKind
  credentialId : CredentialId
  credentialFingerprint : CredentialFingerprint
  classifierId : String
  classifierVersion : String
  retryCandidates : List CredentialId
  bodyReplayable : Bool
  streaming : Bool
  partialOutputStarted : Bool
  routeTargetAvailable : Bool
  effectiveDeadline : Option Instant
  attempt : Nat
  selectionReason : SelectionReason
  deriving DecidableEq, Repr

/-- Why a failed attempt is not repeated. -/
inductive RetryDecisionReason where
  | policyDisabled
  | failureNotRetryable
  | bodyNotReplayable
  | streamingNotRetryable
  | partialOutputStarted
  | attemptLimitReached
  | noFrozenCandidate
  | effectiveDeadlineExhausted
  | routeTargetRetryDisabled
  | noRouteCandidate
  deriving DecidableEq, Repr

/-- What the decision after a failure asks for. -/
inductive RetryDirective where
  | returnCurrentError (reason : RetryDecisionReason)
  | retryCredential (credentialId : CredentialId)
  | retryRouteTarget
  | retrySameTarget
  deriving DecidableEq, Repr

/-- What the loop over the attempts does with a directive; a drift means that the frozen
candidates do not have the credential next. -/
inductive RetryAttemptContinuation where
  | retryCredential (credentialId : CredentialId)
  | retryRouteTarget
  | retrySameTarget
  | returnCurrentError (reason : RetryDecisionReason)
  | frozenCandidateDrift (credentialId : CredentialId)
  deriving DecidableEq, Repr

/-- `CONSERVATIVE_RETRY_BUDGET`. -/
def conservativeRetryBudget : Duration := Duration.fromMillis 1500

/-- The reason that a mutation records. -/
inductive FailureReason where
  | upstreamAuthInvalid
  | upstreamRateLimited
  | upstreamQuotaExhausted
  | relayBalanceUnavailable
  | upstreamProviderUnavailable
  | responseFilterRejected
  | keySwitchCooldown
  | clientOrModelError
  | unknown
  deriving DecidableEq, Repr

/-- Where a failure was seen. -/
inductive FailureSource where
  | upstreamTransaction
  | localTransport
  | guardedSuccessEnvelope
  | responseFilterPrecommit
  deriving DecidableEq, Repr

/-- Whether a retry may be charged twice. -/
inductive DuplicateChargeRisk where
  | none
  | unknown
  deriving DecidableEq, Repr

/-- The change of state that a failure asks for. -/
inductive StateMutation where
  | noop (reason : FailureReason)
  | markCredentialCoolingDown (channelId : ChannelId) (credentialId : CredentialId)
      (untilInstant : Instant) (reason : FailureReason)
  | expireCredential (channelId : ChannelId) (credentialId : CredentialId)
      (reason : FailureReason)
  | markCredentialQuotaExhausted (channelId : ChannelId) (credentialId : CredentialId)
      (reason : FailureReason)
  | markRelayBalanceChannelCoolingDown (channelId : ChannelId) (untilInstant : Instant)
      (reason : FailureReason)
  | markProviderAccountChannelCoolingDownOrDegraded (channelId : ChannelId)
      (providerId accountId : String) (untilInstant : Option Instant) (reason : FailureReason)
  | markChannelCoolingDown (channelId : ChannelId) (untilInstant : Instant)
      (reason : FailureReason)
  deriving DecidableEq, Repr

/-- The retry settings of a channel. -/
structure RoutingPolicy where
  retrySwitchedKeyInSameRequest : Bool
  maxSameRequestRetries : Nat
  routeTargetRetryEnabled : Bool
  defaultCredentialCooldown : Duration
  deriving DecidableEq, Repr

/-- Everything the decision after a failure may look at. -/
structure TransitionInput where
  snapshot : RequestSelectionSnapshot
  failure : ClassifiedFailure
  failureSource : FailureSource
  now : Instant
  nextAttemptBudget : Option Duration
  policy : RoutingPolicy
  deriving DecidableEq, Repr

/-- What the decision says: a mutation, a directive, and how risky a retry is. -/
structure TransitionResult where
  mutation : StateMutation
  retry : RetryDirective
  duplicateChargeRisk : DuplicateChargeRisk
  effectiveDeadlineRemainingMs : Option Nat
  deriving DecidableEq, Repr

/-! ## §1. Frozen retry candidates. -/

/-- The credentials that a request may still try, fixed when it was planned, with a cursor. -/
structure FrozenRetryCandidates where
  candidates : List CredentialId
  nextIndex : Nat
  deriving DecidableEq, Repr

namespace FrozenRetryCandidates

/-- The cursor starts at the first candidate. -/
def new (candidates : List CredentialId) : FrozenRetryCandidates := ⟨candidates, 0⟩

/-- The candidates that the cursor has not passed. -/
def remaining (f : FrozenRetryCandidates) : List CredentialId := f.candidates.drop f.nextIndex

/-- `none` when `credentialId` is not the next candidate. -/
def advanceIfNext (f : FrozenRetryCandidates) (credentialId : CredentialId) :
    Option FrozenRetryCandidates :=
  if f.candidates[f.nextIndex]? = some credentialId then
    some { f with nextIndex := f.nextIndex + 1 }
  else none

end FrozenRetryCandidates

/-- `apply_retry_directive_to_attempt_state`: the continuation, with the frozen
candidates and the attempt number after it. -/
def applyRetryDirectiveToAttemptState (directive : RetryDirective)
    (frozen : Option FrozenRetryCandidates) (attempt : Nat) :
    RetryAttemptContinuation × Option FrozenRetryCandidates × Nat :=
  match directive with
  | .retryCredential credentialId =>
      match frozen.bind (·.advanceIfNext credentialId) with
      | some advanced => (.retryCredential credentialId, some advanced, attempt + 1)
      | none => (.frozenCandidateDrift credentialId, frozen, attempt)
  | .retryRouteTarget => (.retryRouteTarget, frozen, attempt + 1)
  | .retrySameTarget => (.retrySameTarget, frozen, attempt + 1)
  | .returnCurrentError reason => (.returnCurrentError reason, frozen, attempt)

/-! ## §2. The state mutation. -/

/-- The deadline `now + cooldown.unwrap_or(default_credential_cooldown)`. -/
def cooldownDeadline (input : TransitionInput) : Option Instant :=
  input.now.add (input.failure.cooldown.getD input.policy.defaultCredentialCooldown)

/-- The mutation for a kind of failure and its scope, if there is one. -/
def mutationAfterFailure (input : TransitionInput) : Option StateMutation :=
  let channelId := input.snapshot.channelId
  let credentialId := input.snapshot.credentialId
  match input.failure.kind, input.failure.primaryScope with
  | .authInvalid, .credential =>
      some (.expireCredential channelId credentialId .upstreamAuthInvalid)
  | .rateLimited, .credential => do
      let untilInstant ← cooldownDeadline input
      some (.markCredentialCoolingDown channelId credentialId untilInstant .upstreamRateLimited)
  | .quotaExhausted, .credential =>
      some (.markCredentialQuotaExhausted channelId credentialId .upstreamQuotaExhausted)
  | .relayBalanceUnavailable, .channel =>
      if input.failureSource = .upstreamTransaction then do
        let untilInstant ← cooldownDeadline input
        some (.markRelayBalanceChannelCoolingDown channelId untilInstant
          .relayBalanceUnavailable)
      else some (.noop .relayBalanceUnavailable)
  | .providerUnavailable, .channel => do
      let untilInstant ← match input.failure.cooldown with
        | some cooldown => (input.now.add cooldown).map some
        | none => some none
      some (.markProviderAccountChannelCoolingDownOrDegraded channelId
        input.snapshot.providerId input.snapshot.accountId untilInstant
        .upstreamProviderUnavailable)
  | .responseFilterRejected, .credential =>
      some (.expireCredential channelId credentialId .responseFilterRejected)
  | .responseFilterRejected, .channel => do
      let untilInstant ← cooldownDeadline input
      some (.markChannelCoolingDown channelId untilInstant .responseFilterRejected)
  | .keySwitchCooldown, _ => some (.noop .keySwitchCooldown)
  | .clientError, .modelGroup | .clientError, .requestOnly =>
      some (.noop .clientOrModelError)
  | _, _ => some (.noop .unknown)

/-! ## §3. The retry gate. -/

/-- The configured budget is not used. -/
def conservativeNextAttemptBudget (_configured : Option Duration) : Duration :=
  conservativeRetryBudget

/-- Only the two generating endpoints are retried. -/
def endpointRetryEligible : EndpointKind → Bool
  | .chatCompletions | .responses => true
  | _ => false

/-- `status` is one of 502, 503 and 504. -/
def transientStatus (status : Nat) : Bool := 502 ≤ status && status ≤ 504

/-- A spent balance of the channel that no upstream response reported. -/
def rejectsSourceGatedChannelBalance (input : TransitionInput) : Bool :=
  input.failure.kind == .relayBalanceUnavailable && input.failure.primaryScope == .channel
    && input.failureSource != .upstreamTransaction

/-- Is there evidence in the response that it is this credential that failed? -/
def credentialRetryEvidenceAllowed (failure : ClassifiedFailure) : Bool :=
  ((failure.kind == .rateLimited && failure.primaryScope == .credential)
    || (failure.kind == .quotaExhausted && failure.primaryScope == .credential))
  && (failure.upstreamCode.isSome || failure.upstreamLimitType.isSome
    || failure.adaptationRuleId.isSome || failure.retryAfterSource.isSome)

/-- A `ProviderUnavailable` blamed on the channel. -/
def providerUnavailableOnChannel (failure : ClassifiedFailure) : Bool :=
  failure.kind == .providerUnavailable && failure.primaryScope == .channel

/-- The first attempt may be repeated at the same target after a failure of the provider without a
cooldown. -/
def sameTargetTransientRetryAllowed (input : TransitionInput) : Bool :=
  input.snapshot.attempt == 0 && input.failure.cooldown.isNone
    && providerUnavailableOnChannel input.failure
    && match input.failureSource with
      | .localTransport => true
      | .upstreamTransaction => input.failure.upstreamStatus.any transientStatus
      | .guardedSuccessEnvelope | .responseFilterPrecommit => false

/-- Is there evidence enough for a retry?  A request that names its channel is never repeated. -/
def conservativeRetryEvidenceAllowed (input : TransitionInput) : Bool :=
  if input.snapshot.selectionReason = .namedChannel then false
  else if !endpointRetryEligible input.snapshot.endpoint then false
  else
    match input.failureSource with
    | .localTransport => providerUnavailableOnChannel input.failure
    | .upstreamTransaction =>
        if providerUnavailableOnChannel input.failure then
          input.failure.upstreamStatus.any transientStatus
        else credentialRetryEvidenceAllowed input.failure
    | .guardedSuccessEnvelope | .responseFilterPrecommit => false

/-- Route fallback after an exhausted credential retry is switched off. -/
def credentialRetryExhaustedRouteFallbackAllowed (_input : TransitionInput) : Bool := false

/-- Without another credential: the next target where a fallback is allowed, else the error at
hand. -/
def credentialRetryExhaustedDirective (input : TransitionInput)
    (terminalReason : RetryDecisionReason) : RetryDirective :=
  if credentialRetryExhaustedRouteFallbackAllowed input then .retryRouteTarget
  else .returnCurrentError terminalReason

/-- The time that is left to the request, if it has a deadline. -/
def effectiveDeadlineRemaining (input : TransitionInput) : Option Duration :=
  input.snapshot.effectiveDeadline.map (·.saturatingDurationSince input.now)

/-- Is less left than another attempt needs? -/
def effectiveDeadlineExhausted (input : TransitionInput) : Bool :=
  (effectiveDeadlineRemaining input).any fun remaining =>
    remaining == 0 || decide (remaining < conservativeNextAttemptBudget input.nextAttemptBudget)

/-- The retry directive of a channel-scoped failure. -/
def channelRetryDirective (input : TransitionInput) : RetryDirective :=
  if !input.policy.routeTargetRetryEnabled then .returnCurrentError .routeTargetRetryDisabled
  else if input.snapshot.routeTargetAvailable then .retryRouteTarget
  else if sameTargetTransientRetryAllowed input then .retrySameTarget
  else .returnCurrentError .noRouteCandidate

/-- The retry directive of a credential-scoped failure. -/
def credentialRetryDirective (input : TransitionInput) : RetryDirective :=
  if !input.policy.retrySwitchedKeyInSameRequest then
    credentialRetryExhaustedDirective input .policyDisabled
  else if input.policy.maxSameRequestRetries ≤ input.snapshot.attempt then
    if credentialRetryExhaustedRouteFallbackAllowed input then .retryRouteTarget
    else .returnCurrentError .attemptLimitReached
  else
    match input.snapshot.retryCandidates.head? with
    | some credentialId =>
        if credentialId = input.snapshot.credentialId then
          credentialRetryExhaustedDirective input .noFrozenCandidate
        else .retryCredential credentialId
    | none => credentialRetryExhaustedDirective input .noFrozenCandidate

/-- The gates of a retry in the order of the source; the first that refuses gives the reason. -/
def retryAfterFailure (input : TransitionInput) : RetryDirective :=
  if rejectsSourceGatedChannelBalance input || !input.failure.retryable then
    .returnCurrentError .failureNotRetryable
  else if !input.snapshot.bodyReplayable then .returnCurrentError .bodyNotReplayable
  else if input.snapshot.streaming then .returnCurrentError .streamingNotRetryable
  else if input.snapshot.partialOutputStarted then .returnCurrentError .partialOutputStarted
  else if 1 ≤ input.snapshot.attempt then .returnCurrentError .attemptLimitReached
  else if effectiveDeadlineExhausted input then
    .returnCurrentError .effectiveDeadlineExhausted
  else if input.failure.primaryScope == .providerAdapter
      || !conservativeRetryEvidenceAllowed input then
    .returnCurrentError .failureNotRetryable
  else if input.failure.primaryScope = .channel then channelRetryDirective input
  else if input.failure.primaryScope = .credential then credentialRetryDirective input
  else .returnCurrentError .failureNotRetryable

/-- Any retry may be charged twice, whatever the source of the failure. -/
def duplicateChargeRisk (_source : FailureSource) : RetryDirective → DuplicateChargeRisk
  | .returnCurrentError _ => .none
  | _ => .unknown

/-- `transition_after_failure`; `none` is the panic of a deadline that overflows. -/
def transitionAfterFailure (input : TransitionInput) : Option TransitionResult := do
  let mutation ← mutationAfterFailure input
  let retry := retryAfterFailure input
  some {
    mutation := mutation
    retry := retry
    duplicateChargeRisk := duplicateChargeRisk input.failureSource retry
    effectiveDeadlineRemainingMs := (effectiveDeadlineRemaining input).map fun remaining =>
      min (Duration.asMillis remaining) (2 ^ 64 - 1) }

/-! ## §4. What the retry gate checks. -/

/-- The evidence a retry needs: a provider failure on the channel, seen by the local
transport or as a 502, 503 or 504, or a credential-scoped limit that the upstream
names. -/
def RetryEvidence (input : TransitionInput) : Prop :=
  (input.failure.kind = .providerUnavailable ∧ input.failure.primaryScope = .channel ∧
    (input.failureSource = .localTransport ∨
      (input.failureSource = .upstreamTransaction ∧
        ∃ status ∈ input.failure.upstreamStatus, status = 502 ∨ status = 503 ∨ status = 504))) ∨
  (input.failure.primaryScope = .credential ∧
    (input.failure.kind = .rateLimited ∨ input.failure.kind = .quotaExhausted) ∧
    input.failureSource = .upstreamTransaction ∧
    (input.failure.upstreamCode.isSome ∨ input.failure.upstreamLimitType.isSome ∨
      input.failure.adaptationRuleId.isSome ∨ input.failure.retryAfterSource.isSome))

/-- Every condition a retry directive needs. -/
structure RetryGateOpen (input : TransitionInput) : Prop where
  retryable : input.failure.retryable = true
  bodyReplayable : input.snapshot.bodyReplayable = true
  not_streaming : input.snapshot.streaming = false
  no_partial_output : input.snapshot.partialOutputStarted = false
  first_attempt : input.snapshot.attempt = 0
  not_named_channel : input.snapshot.selectionReason ≠ .namedChannel
  endpoint_eligible : input.snapshot.endpoint = .chatCompletions ∨
    input.snapshot.endpoint = .responses
  deadline_fits : ∀ deadline ∈ input.snapshot.effectiveDeadline,
    input.now + Duration.fromMillis 1500 ≤ deadline
  evidence : RetryEvidence input

theorem deadline_of_not_exhausted {input : TransitionInput}
    (h : effectiveDeadlineExhausted input = false) :
    ∀ deadline ∈ input.snapshot.effectiveDeadline,
      input.now + Duration.fromMillis 1500 ≤ deadline := by
  intro deadline hd
  rw [Option.mem_def] at hd
  unfold effectiveDeadlineExhausted effectiveDeadlineRemaining at h
  rw [hd] at h
  simp only [Option.map_some, Option.any_some, Bool.or_eq_false_iff] at h
  have hle : Duration.fromMillis 1500 ≤ deadline - input.now :=
    Nat.le_of_not_lt (of_decide_eq_false h.2)
  have hpos : 0 < Duration.fromMillis 1500 := by decide
  -- the remaining time is positive, so the subtraction did not saturate
  have hlt : input.now < deadline := Nat.lt_of_sub_pos (Nat.lt_of_lt_of_le hpos hle)
  calc input.now + Duration.fromMillis 1500
      ≤ input.now + (deadline - input.now) := Nat.add_le_add_left hle _
    _ = deadline := Nat.add_sub_cancel' (Nat.le_of_lt hlt)

theorem transientStatus_iff (status : Nat) :
    transientStatus status = true ↔ status = 502 ∨ status = 503 ∨ status = 504 := by
  unfold transientStatus
  simp only [Bool.and_eq_true, decide_eq_true_eq]
  omega

theorem providerUnavailableOnChannel_iff (failure : ClassifiedFailure) :
    providerUnavailableOnChannel failure = true ↔
      failure.kind = .providerUnavailable ∧ failure.primaryScope = .channel := by
  unfold providerUnavailableOnChannel
  simp

theorem credentialRetryEvidenceAllowed_iff (failure : ClassifiedFailure) :
    credentialRetryEvidenceAllowed failure = true ↔
      failure.primaryScope = .credential ∧
        (failure.kind = .rateLimited ∨ failure.kind = .quotaExhausted) ∧
        (failure.upstreamCode.isSome ∨ failure.upstreamLimitType.isSome ∨
          failure.adaptationRuleId.isSome ∨ failure.retryAfterSource.isSome) := by
  unfold credentialRetryEvidenceAllowed
  simp only [Bool.and_eq_true, Bool.or_eq_true, beq_iff_eq]
  tauto

/-- A passed evidence check has retry evidence, with the selection not by channel name
and an endpoint that may be retried. -/
theorem conservativeRetryEvidenceAllowed_true {input : TransitionInput}
    (h : conservativeRetryEvidenceAllowed input = true) :
    input.snapshot.selectionReason ≠ .namedChannel ∧
      (input.snapshot.endpoint = .chatCompletions ∨ input.snapshot.endpoint = .responses) ∧
      RetryEvidence input := by
  unfold conservativeRetryEvidenceAllowed at h
  split at h
  · cases h
  next hnamed =>
  split at h
  · cases h
  next hendpoint =>
  refine ⟨hnamed, ?_, ?_⟩
  · cases he : input.snapshot.endpoint <;> simp_all [endpointRetryEligible]
  · unfold RetryEvidence
    -- the evidence depends on where the failure was observed
    cases hs : input.failureSource with
    | localTransport =>
        rw [hs] at h
        rw [providerUnavailableOnChannel_iff] at h
        exact Or.inl ⟨h.1, h.2, Or.inl rfl⟩
    | upstreamTransaction =>
        rw [hs] at h
        dsimp only at h
        split at h
        · next hprov =>
            rw [providerUnavailableOnChannel_iff] at hprov
            rw [Option.any_eq_true] at h
            obtain ⟨status, hstatus, htransient⟩ := h
            rw [transientStatus_iff] at htransient
            exact Or.inl ⟨hprov.1, hprov.2, Or.inr ⟨rfl, status, hstatus, htransient⟩⟩
        · rw [credentialRetryEvidenceAllowed_iff] at h
          exact Or.inr ⟨h.1, h.2.1, rfl, h.2.2⟩
    | guardedSuccessEnvelope => rw [hs] at h; cases h
    | responseFilterPrecommit => rw [hs] at h; cases h

/-- Inversion of the cascade: either the current error is returned, or the gate is
open and the scope's own directive decides. -/
theorem retryAfterFailure_cases (input : TransitionInput) :
    (∃ reason, retryAfterFailure input = .returnCurrentError reason) ∨
    (RetryGateOpen input ∧
      ((input.failure.primaryScope = .channel ∧
          retryAfterFailure input = channelRetryDirective input) ∨
        (input.failure.primaryScope = .credential ∧
          retryAfterFailure input = credentialRetryDirective input))) := by
  unfold retryAfterFailure
  split
  · exact Or.inl ⟨_, rfl⟩
  next hretryable =>
  split
  · exact Or.inl ⟨_, rfl⟩
  next hreplayable =>
  split
  · exact Or.inl ⟨_, rfl⟩
  next hstreaming =>
  split
  · exact Or.inl ⟨_, rfl⟩
  next hpartial =>
  split
  · exact Or.inl ⟨_, rfl⟩
  next hattempt =>
  split
  · exact Or.inl ⟨_, rfl⟩
  next hdeadline =>
  split
  · exact Or.inl ⟨_, rfl⟩
  next hevidence =>
  -- every guard of the gate has let the failure through
  have hopen : RetryGateOpen input := by
    simp only [Bool.or_eq_true, Bool.not_eq_true', not_or, Bool.not_eq_false]
      at hretryable hreplayable hevidence
    obtain ⟨hnamed, hendpoint, hev⟩ := conservativeRetryEvidenceAllowed_true hevidence.2
    exact {
      retryable := hretryable.2
      bodyReplayable := hreplayable
      not_streaming := by simpa using hstreaming
      no_partial_output := by simpa using hpartial
      first_attempt := by omega
      not_named_channel := hnamed
      endpoint_eligible := hendpoint
      deadline_fits := deadline_of_not_exhausted (by simpa using hdeadline)
      evidence := hev }
  split
  · next hchannel => exact Or.inr ⟨hopen, Or.inl ⟨hchannel, rfl⟩⟩
  · split
    · next hcredential => exact Or.inr ⟨hopen, Or.inr ⟨hcredential, rfl⟩⟩
    · exact Or.inl ⟨_, rfl⟩

/-! ## §5. What each directive needs. -/

/-- The directives of a channel-scoped failure. -/
theorem channelRetryDirective_cases (input : TransitionInput) :
    (∃ reason, channelRetryDirective input = .returnCurrentError reason) ∨
    (channelRetryDirective input = .retryRouteTarget ∧
      input.snapshot.routeTargetAvailable = true ∧
      input.policy.routeTargetRetryEnabled = true) ∨
    (channelRetryDirective input = .retrySameTarget ∧
      input.snapshot.routeTargetAvailable = false ∧
      input.policy.routeTargetRetryEnabled = true ∧ input.failure.cooldown = none) := by
  unfold channelRetryDirective
  split
  · exact Or.inl ⟨_, rfl⟩
  next henabled =>
  have henabled' : input.policy.routeTargetRetryEnabled = true := by simpa using henabled
  split
  · next havailable => exact Or.inr (Or.inl ⟨rfl, havailable, henabled'⟩)
  next hnone =>
  split
  · next hsame =>
      refine Or.inr (Or.inr ⟨rfl, by simpa using hnone, henabled', ?_⟩)
      unfold sameTargetTransientRetryAllowed at hsame
      simp only [Bool.and_eq_true, Option.isNone_iff_eq_none] at hsame
      exact hsame.1.1.2
  · exact Or.inl ⟨_, rfl⟩

/-- The directives of a credential-scoped failure: there is no fallback to a route
target. -/
theorem credentialRetryDirective_cases (input : TransitionInput) :
    (∃ reason, credentialRetryDirective input = .returnCurrentError reason) ∨
    (∃ credentialId, credentialRetryDirective input = .retryCredential credentialId ∧
      input.snapshot.retryCandidates.head? = some credentialId ∧
      credentialId ≠ input.snapshot.credentialId ∧
      input.policy.retrySwitchedKeyInSameRequest = true ∧
      input.snapshot.attempt < input.policy.maxSameRequestRetries) := by
  have hexhausted : ∀ reason,
      credentialRetryExhaustedDirective input reason = .returnCurrentError reason := by
    intro reason
    rfl
  unfold credentialRetryDirective
  split
  · exact Or.inl ⟨_, hexhausted _⟩
  next henabled =>
  split
  · exact Or.inl ⟨_, rfl⟩
  next hlimit =>
  split
  · next credentialId hhead =>
      split
      · exact Or.inl ⟨_, hexhausted _⟩
      · next hne =>
          exact Or.inr ⟨credentialId, rfl, hhead, hne, by simpa using henabled, by omega⟩
  · exact Or.inl ⟨_, hexhausted _⟩

theorem transitionAfterFailure_retry {input : TransitionInput} {result : TransitionResult}
    (h : transitionAfterFailure input = some result) :
    mutationAfterFailure input = some result.mutation ∧
      result.retry = retryAfterFailure input := by
  unfold transitionAfterFailure at h
  cases hm : mutationAfterFailure input with
  | none =>
      rw [hm] at h
      cases h
  | some mutation =>
      rw [hm] at h
      cases h
      exact ⟨rfl, rfl⟩

/-- The inputs agree on everything but what only the retry gate reads. -/
structure SameMutationInputs (input input' : TransitionInput) : Prop where
  kind : input'.failure.kind = input.failure.kind
  primaryScope : input'.failure.primaryScope = input.failure.primaryScope
  cooldown : input'.failure.cooldown = input.failure.cooldown
  failureSource : input'.failureSource = input.failureSource
  now : input'.now = input.now
  channelId : input'.snapshot.channelId = input.snapshot.channelId
  credentialId : input'.snapshot.credentialId = input.snapshot.credentialId
  providerId : input'.snapshot.providerId = input.snapshot.providerId
  accountId : input'.snapshot.accountId = input.snapshot.accountId
  defaultCredentialCooldown :
    input'.policy.defaultCredentialCooldown = input.policy.defaultCredentialCooldown

/-- The mutation does not depend on what the retry gate reads: replayability,
streaming, attempt, deadline, candidates, targets, evidence and retry policy. -/
theorem mutation_independent_of_gate {input input' : TransitionInput}
    (h : SameMutationInputs input input') :
    mutationAfterFailure input' = mutationAfterFailure input := by
  unfold mutationAfterFailure cooldownDeadline
  simp only [h.kind, h.primaryScope, h.cooldown, h.failureSource, h.now, h.channelId,
    h.credentialId, h.providerId, h.accountId, h.defaultCredentialCooldown]

/-- A retry directive is returned only through the open gate, and each directive only
under its own conditions; the mutation is the same whatever the gate decides. -/
theorem retry_gate_sound (input : TransitionInput) (result : TransitionResult)
    (h : transitionAfterFailure input = some result) :
    ((∀ reason, result.retry ≠ .returnCurrentError reason) → RetryGateOpen input) ∧
    (∀ credentialId, result.retry = .retryCredential credentialId →
      input.snapshot.retryCandidates.head? = some credentialId ∧
      credentialId ≠ input.snapshot.credentialId ∧
      input.policy.retrySwitchedKeyInSameRequest = true ∧
      1 ≤ input.policy.maxSameRequestRetries) ∧
    (result.retry = .retryRouteTarget →
      input.snapshot.routeTargetAvailable = true ∧
      input.policy.routeTargetRetryEnabled = true) ∧
    (result.retry = .retrySameTarget →
      input.failure.cooldown = none ∧ input.snapshot.routeTargetAvailable = false) ∧
    (∀ input' result', SameMutationInputs input input' →
      transitionAfterFailure input' = some result' → result'.mutation = result.mutation) := by
  obtain ⟨hmutation, hretry⟩ := transitionAfterFailure_retry h
  have hlast : ∀ input' result', SameMutationInputs input input' →
      transitionAfterFailure input' = some result' → result'.mutation = result.mutation := by
    intro input' result' hsame h'
    have hmutation' := (transitionAfterFailure_retry h').1
    rw [mutation_independent_of_gate hsame, hmutation] at hmutation'
    exact (Option.some.inj hmutation').symm
  rw [hretry]
  -- each directive that goes on comes from one branch of the gate, and rules out
  -- the other two
  rcases retryAfterFailure_cases input with ⟨reason, hr⟩ | ⟨hopen, ⟨-, hr⟩ | ⟨-, hr⟩⟩
  · rw [hr]
    exact ⟨fun hne => absurd rfl (hne reason), nofun, nofun, nofun, hlast⟩
  · rw [hr]
    rcases channelRetryDirective_cases input with
      ⟨reason, hc⟩ | ⟨hc, havailable, henabled⟩ | ⟨hc, hnone, -, hcooldown⟩
    · rw [hc]
      exact ⟨fun _ => hopen, nofun, nofun, nofun, hlast⟩
    · rw [hc]
      exact ⟨fun _ => hopen, nofun, fun _ => ⟨havailable, henabled⟩, nofun, hlast⟩
    · rw [hc]
      exact ⟨fun _ => hopen, nofun, nofun, fun _ => ⟨hcooldown, hnone⟩, hlast⟩
  · rw [hr]
    rcases credentialRetryDirective_cases input with
      ⟨reason, hc⟩ | ⟨credentialId, hc, hhead, hne, henabled, hlimit⟩
    · rw [hc]
      exact ⟨fun _ => hopen, nofun, nofun, nofun, hlast⟩
    · rw [hc]
      refine ⟨fun _ => hopen, ?_, nofun, nofun, hlast⟩
      intro credentialId' heq
      cases heq
      exact ⟨hhead, hne, henabled, by omega⟩

/-- A rate limit that the upstream names, on a first, replayable chat completion. -/
def rateLimitedInput : TransitionInput where
  snapshot := {
    requestId := "req-1", configGeneration := 1, channelHealthGeneration := 0
    clientTokenId := "token", requestedModel := some "model", endpoint := .chatCompletions
    routeTargetIndex := some 0, channelId := "channel", providerId := "provider"
    accountId := "account", providerKind := .openAiCompatible, credentialId := "cred_a"
    credentialFingerprint := "a", classifierId := defaultErrorClassifierId
    classifierVersion := errorClassifierVersion, retryCandidates := ["cred_b"]
    bodyReplayable := true, streaming := false, partialOutputStarted := false
    routeTargetAvailable := false, effectiveDeadline := some (Duration.fromMillis 5000)
    attempt := 0, selectionReason := .modelMapping }
  failure := { classifyTransportFailure with
    kind := .rateLimited, primaryScope := .credential, upstreamStatus := some 429
    upstreamCode := some "rate_limit_exceeded" }
  failureSource := .upstreamTransaction
  now := Duration.fromMillis 1000
  nextAttemptBudget := none
  policy := {
    retrySwitchedKeyInSameRequest := true, maxSameRequestRetries := 1
    routeTargetRetryEnabled := true, defaultCredentialCooldown := Duration.fromSecs 60 }

/-- The gate opens for the next credential, and the theorem gives what the open gate says of the
request. -/
theorem retry_gate_sound_rateLimited :
    retryAfterFailure rateLimitedInput = .retryCredential "cred_b" ∧
      RetryGateOpen rateLimitedInput := by
  refine ⟨by decide, ?_⟩
  have hresult : transitionAfterFailure rateLimitedInput = some {
      mutation := .markCredentialCoolingDown "channel" "cred_a" (Duration.fromSecs 61)
        .upstreamRateLimited
      retry := .retryCredential "cred_b"
      duplicateChargeRisk := .unknown
      effectiveDeadlineRemainingMs := some 4000 } := by decide
  exact (retry_gate_sound rateLimitedInput _ hresult).1 nofun

end OneAiKey
