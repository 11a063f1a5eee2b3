/-
  OneAiKey.FailureState.Summaries — failures and their transitions, told together
  (`src/failure_observer.rs`, `src/management_runtime.rs`).

  A call of `transition_observed_failure` records a failure, and behind it the transition
  that it caused.  The two are only matched when the buffer is read: a transition belongs to
  the last failure of its request and channel that has none.  In between, other requests
  record what they have:

      request 1    failure            transition
      request 2             failure               transition
      buffer       ─────────────────▶ read at any time, the oldest events lost

  Main result:
    * `failure_summaries_tell_own_transitions` — whatever is in the buffer, a summary tells
      the transition of its own failure, unless a failure that has one has been lost to a
      contended lock.
-/
import OneAiKey.Events.Rings
import OneAiKey.FailureState.Telemetry
import OneAiKey.Lib.OpenEntries
import OneAiKey.RoutePlan.Summary

namespace OneAiKey

open OpenEntries

/-! ## §1. What is recorded. -/

/-- `UpstreamFailureTelemetry`, as far as the summaries read it. -/
structure UpstreamFailureTelemetry where
  endpointFamily : String
  publicModel : Option String
  credentialIdHash : String
  attempt : Nat
  failureSource : String
  failureKind : String
  failureScope : String
  retryable : Bool
  status : Option Nat
  directive : String
  denialReason : Option String
  retryDecision : String
  retryDecisionReason : Option String
  deriving DecidableEq, Repr

/-- The events of the telemetry buffer; of those that no summary is made from, only the kind. -/
inductive BufferedTelemetry where
  | upstreamFailureObserved (requestId channelId : String) (failure : UpstreamFailureTelemetry)
  | applied (telemetry : RoutingTelemetry)
  | routeSelected
  | routeAdmissionDenied
  | transitionApplied
  | credentialLifecyclePersistenceDropped
  deriving DecidableEq, Repr

/-- The code of a source in `FAILURE_SOURCE_TELEMETRY_CONTRACT`. -/
def failureSourceCode : FailureSource → String
  | .upstreamTransaction => "upstream_transaction"
  | .localTransport => "local_transport"
  | .guardedSuccessEnvelope => "guarded_success_envelope"
  | .responseFilterPrecommit => "response_filter_precommit"

/-- The reasons as the telemetry spells them. -/
def retryDecisionReasonCode : RetryDecisionReason → String
  | .policyDisabled => "policy_disabled"
  | .failureNotRetryable => "failure_not_retryable"
  | .bodyNotReplayable => "body_not_replayable"
  | .streamingNotRetryable => "streaming_not_retryable"
  | .partialOutputStarted => "partial_output_started"
  | .attemptLimitReached => "attempt_limit_reached"
  | .noFrozenCandidate => "no_frozen_candidate"
  | .effectiveDeadlineExhausted => "effective_deadline_exhausted"
  | .routeTargetRetryDisabled => "route_target_retry_disabled"
  | .noRouteCandidate => "no_route_candidate"

/-- A directive as the telemetry spells it: its name, its decision and its reason. -/
def retryDecisionTelemetry : RetryDirective → String × String × Option String
  | .returnCurrentError reason =>
      ("return_error", "return_current_error", some (retryDecisionReasonCode reason))
  | .retryCredential _ =>
      ("retry_credential", "retry_credential", some "credential_retry_allowed")
  | .retryRouteTarget =>
      ("retry_route_target", "retry_route_target", some "route_target_retry_allowed")
  | .retrySameTarget =>
      ("retry_same_target", "retry_same_target", some "pre_output_transient_retry_allowed")

/-- The kinds of failures as the telemetry spells them. -/
def failureKindCode : FailureKind → String
  | .rateLimited => "rate_limited"
  | .keySwitchCooldown => "key_switch_cooldown"
  | .authInvalid => "auth_invalid"
  | .quotaExhausted => "quota_exhausted"
  | .relayBalanceUnavailable => "relay_balance_unavailable"
  | .providerUnavailable => "provider_unavailable"
  | .responseFilterRejected => "response_filter_rejected"
  | .clientError => "client_error"
  | .unknown => "unknown"

/-- The scopes of failures as the telemetry spells them. -/
def failureScopeCode : FailureScope → String
  | .requestOnly => "request_only"
  | .credential => "credential"
  | .account => "account"
  | .channel => "channel"
  | .deployment => "deployment"
  | .modelGroup => "model_group"
  | .providerAdapter => "provider_adapter"
  | .clientToken => "client_token"

def upstreamFailureTelemetry (snapshot : RequestSelectionSnapshot) (failure : ClassifiedFailure)
    (failureSource : FailureSource) (result : TransitionResult) : UpstreamFailureTelemetry :=
  let (directive, retryDecision, retryDecisionReason) := retryDecisionTelemetry result.retry
  { endpointFamily := snapshot.endpoint.familyCode
    publicModel := snapshot.requestedModel
    credentialIdHash := shortHash snapshot.credentialId
    attempt := snapshot.attempt
    failureSource := failureSourceCode failureSource
    failureKind := failureKindCode failure.kind
    failureScope := failureScopeCode failure.primaryScope
    retryable := failure.retryable
    status := failure.upstreamStatus
    directive := directive
    denialReason := retryDecisionReason
    retryDecision := retryDecision
    retryDecisionReason := retryDecisionReason }

/-! ## §2. The summaries. -/

/-- `str::contains`. -/
def containsText (value text : List Char) : Bool := value.tails.any (text.isPrefixOf ·)

/-- Nothing is shown that could be more than an id. -/
def safeManagementId (value : String) : Option String :=
  let trimmed := trim value.toList
  if trimmed.isEmpty || decide (128 < (String.ofList trimmed).utf8ByteSize) then none
  else if !trimmed.all fun c => c.isAlphanum || ['-', '_', '.', ':'].contains c then none
  else if ["sk-", "://", "http", "telegram", "promo", "invite"].any fun text =>
      containsText (trimmed.map Char.toLower) text.toList then none
  else some (String.ofList trimmed)

/-- A code that is no identifier is not shown. -/
def safeManagementCode (value : String) : String := (safeManagementId value).getD "unknown"

/-- A failure and what it changed, as an operator sees it. -/
structure FailureTransitionSummary where
  requestId : Option String
  channelId : Option String
  endpointFamily : String
  publicModel : Option String
  clientTokenRef : Option String
  selectedCredentialIdHash : Option String
  attempt : Nat
  failureSource : String
  failureKind : String
  failureScope : String
  retryable : Bool
  status : Option Nat
  mutationKind : String
  transitionAction : String
  affectedResourceKind : String
  affectedCredentialIdHash : Option String
  resultingState : String
  reason : Option String
  directive : Option String
  denialReason : Option String
  retryDecision : Option String
  retryDecisionReason : Option String
  deriving DecidableEq, Repr

/-- The summary of a failure that has not changed anything yet. -/
def failureTransitionSummaryFromFailure (requestId channelId : String)
    (failure : UpstreamFailureTelemetry) : FailureTransitionSummary where
  requestId := safeManagementId requestId
  channelId := safeManagementId channelId
  endpointFamily := safeManagementCode failure.endpointFamily
  publicModel := failure.publicModel.bind safeManagementId
  clientTokenRef := none
  selectedCredentialIdHash := safeManagementId failure.credentialIdHash
  attempt := failure.attempt
  failureSource := safeManagementCode failure.failureSource
  failureKind := safeManagementCode failure.failureKind
  failureScope := safeManagementCode failure.failureScope
  retryable := failure.retryable
  status := failure.status
  -- until a transition is told, the failure has changed nothing
  mutationKind := "noop"
  transitionAction := "noop"
  affectedResourceKind := "none"
  affectedCredentialIdHash := none
  resultingState := "noop"
  reason := none
  directive := safeManagementId failure.directive
  denialReason := failure.denialReason.bind safeManagementId
  retryDecision := safeManagementId failure.retryDecision
  retryDecisionReason := failure.retryDecisionReason.bind safeManagementId

/-- The name of a credential's transition by the state that it leads to. -/
def credentialTransitionAction (state : String) : String :=
  match state with
  | "expired" => "expire_credential"
  | "cooling_down" => "mark_credential_cooling_down"
  | "quota_exhausted" => "mark_credential_quota_exhausted"
  | _ => "credential_transition"

/-- The name of a channel's transition by the state that it leads to and the reason. -/
def channelTransitionAction (state reason : String) : String :=
  match state, reason with
  | "cooling_down", "relay_balance_unavailable" => "mark_relay_balance_channel_cooling_down"
  | "cooling_down", "upstream_provider_unavailable" =>
      "mark_provider_account_channel_cooling_down"
  | "degraded", "upstream_provider_unavailable" => "mark_provider_account_channel_degraded"
  | "cooling_down", _ => "mark_channel_cooling_down"
  | "degraded", _ => "mark_channel_degraded"
  | _, _ => "channel_health_transition"

/-- The summary, told of a credential's transition. -/
def applyCredentialTransitionSummary (summary : FailureTransitionSummary)
    (credentialId state reason : String) : FailureTransitionSummary :=
  { summary with
    mutationKind := "credential_transition"
    transitionAction := credentialTransitionAction state
    affectedResourceKind := "credential"
    affectedCredentialIdHash := some (shortHash credentialId)
    resultingState := safeManagementCode state
    reason := safeManagementId reason }

/-- The summary, told of a channel's transition. -/
def applyChannelTransitionSummary (summary : FailureTransitionSummary) (state reason : String) :
    FailureTransitionSummary :=
  { summary with
    mutationKind := "channel_health_transition"
    transitionAction := channelTransitionAction state reason
    affectedResourceKind := "channel"
    resultingState := safeManagementCode state
    reason := safeManagementId reason }

/-- The request that a transition belongs to. -/
def RoutingTelemetry.requestId : RoutingTelemetry → String
  | channelHealthTransitionApplied requestId _ _ _
  | credentialTransitionApplied requestId _ _ _ _ => requestId

/-- The channel that a transition belongs to. -/
def RoutingTelemetry.channelId : RoutingTelemetry → String
  | channelHealthTransitionApplied _ channelId _ _
  | credentialTransitionApplied _ channelId _ _ _ => channelId

/-- A transition in a summary. -/
def RoutingTelemetry.applySummary (summary : FailureTransitionSummary) :
    RoutingTelemetry → FailureTransitionSummary
  | channelHealthTransitionApplied _ _ state reason =>
      applyChannelTransitionSummary summary state reason
  | credentialTransitionApplied _ _ credentialId state reason =>
      applyCredentialTransitionSummary summary credentialId state reason

/-- A summary with the request and the channel that later transitions are matched by. -/
structure FailureTransitionSummaryBuilder where
  requestId : String
  channelId : String
  summary : FailureTransitionSummary
  deriving DecidableEq, Repr

/-- What `pending_failure_transition_summary` looks for, from behind. -/
def FailureTransitionSummaryBuilder.pendingFor (requestId channelId : String)
    (builder : FailureTransitionSummaryBuilder) : Bool :=
  builder.requestId == requestId && builder.channelId == channelId &&
    builder.summary.mutationKind == "noop"

/-- The body of the loop of `failure_transition_summaries`. -/
def BufferedTelemetry.effect : BufferedTelemetry → Effect FailureTransitionSummaryBuilder
  | upstreamFailureObserved requestId channelId failure =>
      .append ⟨requestId, channelId,
        failureTransitionSummaryFromFailure requestId channelId failure⟩
  | applied telemetry =>
      .complete (FailureTransitionSummaryBuilder.pendingFor telemetry.requestId telemetry.channelId)
        fun builder => { builder with summary := telemetry.applySummary builder.summary }
  | routeSelected | routeAdmissionDenied | transitionApplied
  | credentialLifecyclePersistenceDropped => .nothing

/-- The summaries of a buffer. -/
def failureTransitionSummaries (snapshot : List BufferedTelemetry) :
    List FailureTransitionSummary :=
  (entries BufferedTelemetry.effect snapshot).map (·.summary)

/-! ## §3. Requests that fail. -/

/-- A recorded failure, and the transition that its own call has recorded by now. -/
structure ObservedFailure where
  requestId : String
  channelId : String
  failure : UpstreamFailureTelemetry
  transition : Option RoutingTelemetry
  deriving DecidableEq, Repr

/-- What an operator should see of a failure. -/
def ObservedFailure.summary (observed : ObservedFailure) : FailureTransitionSummary :=
  let summary :=
    failureTransitionSummaryFromFailure observed.requestId observed.channelId observed.failure
  match observed.transition with
  | none => summary
  | some telemetry => telemetry.applySummary summary

/-- A call that has a transition still to record: the position of its failure, if that has been
recorded. -/
structure PendingTransition where
  failure : Option Nat
  telemetry : RoutingTelemetry
  deriving DecidableEq, Repr

/-- The buffer, and beside it what it is about. -/
structure FailureTelemetryState where
  buffer : RoutingTelemetryBuffer BufferedTelemetry
  log : List BufferedTelemetry
  observed : List ObservedFailure
  pending : List PendingTransition

namespace FailureTelemetryState

/-- `record_routing_telemetry_to_buffer`, where the lock is free. -/
def record (s : FailureTelemetryState) (event : BufferedTelemetry) : FailureTelemetryState :=
  { s with buffer := s.buffer.push event, log := s.log ++ [event] }

/-- The first half of `transition_observed_failure`, up to the failure. -/
def observe (s : FailureTelemetryState) (input : TransitionInput) (result : TransitionResult)
    (telemetry : List RoutingTelemetry) (contended : Bool) : FailureTelemetryState :=
  let requestId := input.snapshot.requestId
  let channelId := input.snapshot.channelId
  let failure := upstreamFailureTelemetry input.snapshot input.failure input.failureSource result
  if contended then
    { s with pending := s.pending ++ telemetry.map fun telemetry => ⟨none, telemetry⟩ }
  else
    { s.record (.upstreamFailureObserved requestId channelId failure) with
      observed := s.observed ++ [⟨requestId, channelId, failure, none⟩]
      pending := s.pending ++ telemetry.map fun telemetry => ⟨some s.observed.length, telemetry⟩ }

/-- The other half: the transition is told of the failure of the same call. -/
def transition (s : FailureTelemetryState) (item : PendingTransition) (contended : Bool) :
    FailureTelemetryState :=
  let s := { s with pending := s.pending.erase item }
  if contended then s
  else
    { s.record (.applied item.telemetry) with
      observed := match item.failure with
        | none => s.observed
        | some position => s.observed.modify position fun observed =>
            { observed with transition := some item.telemetry } }

end FailureTelemetryState

inductive FailureTelemetryLabel where
  | observe (mutationState : MutationState) (readings : Readings) (input : TransitionInput)
      (result : TransitionResult) (contended : Bool)
  | transition (item : PendingTransition) (contended : Bool)
  | other (event : BufferedTelemetry)
  | replaceCapacity (capacity : Nat)

/-- Any requests at once.  A request waits for each of its calls, and no two requests have one
id. -/
def failureTelemetrySystem : TransitionSystem FailureTelemetryState FailureTelemetryLabel where
  Init s := s.buffer.events = [] ∧ s.log = [] ∧ s.observed = [] ∧ s.pending = []
  Step s label s' :=
    match label with
    | .observe mutationState readings input result contended =>
        transitionAfterFailure input = some result ∧
          (∀ item ∈ s.pending, item.telemetry.requestId ≠ input.snapshot.requestId) ∧
          s' = s.observe input result
            (stateMutationTelemetry mutationState input.snapshot readings result.mutation) contended
    | .transition item contended => item ∈ s.pending ∧ s' = s.transition item contended
    | .other event =>
        event ∈ [.routeSelected, .routeAdmissionDenied, .transitionApplied,
          .credentialLifecyclePersistenceDropped] ∧ s' = s.record event
    | .replaceCapacity capacity => s' = { s with buffer := s.buffer.replaceCapacity capacity }

/-- A failure that has a transition is not lost to a contended lock: the transition would be
told of an older failure of the request.  Transitions may be lost, and other failures. -/
def FailureTelemetryLabel.KeepsFailure : FailureTelemetryLabel → Prop
  | observe mutationState readings input result contended =>
      contended = true →
        stateMutationTelemetry mutationState input.snapshot readings result.mutation = []
  | _ => True

/-! ## §4. One call. -/

theorem mutationKind_applySummary (telemetry : RoutingTelemetry)
    (summary : FailureTransitionSummary) :
    (telemetry.applySummary summary).mutationKind ≠ "noop" := by
  cases telemetry with
  | channelHealthTransitionApplied requestId channelId state reason => exact of_decide_eq_true rfl
  | credentialTransitionApplied requestId channelId credentialId state reason =>
      exact of_decide_eq_true rfl

/-- What a call says of a mutation names its request and channel, and is one event at most. -/
def OwnTelemetry (snapshot : RequestSelectionSnapshot) (telemetry : List RoutingTelemetry) :
    Prop :=
  telemetry = [] ∨ ∃ event, telemetry = [event] ∧ event.requestId = snapshot.requestId ∧
    event.channelId = snapshot.channelId

theorem ownTelemetry_ite {snapshot : RequestSelectionSnapshot} {c : Prop} [Decidable c]
    {event : RoutingTelemetry} (hrequest : event.requestId = snapshot.requestId)
    (hchannel : event.channelId = snapshot.channelId) :
    OwnTelemetry snapshot (if c then [event] else []) := by
  by_cases h : c
  · rw [if_pos h]
    exact .inr ⟨event, rfl, hrequest, hchannel⟩
  · rw [if_neg h]
    exact .inl rfl

theorem ownTelemetry_stateMutation (s : MutationState) (snapshot : RequestSelectionSnapshot)
    (r : Readings) (mutation : StateMutation) :
    OwnTelemetry snapshot (stateMutationTelemetry s snapshot r mutation) := by
  cases mutation with
  | noop reason => exact .inl rfl
  | markCredentialCoolingDown channelId credentialId untilInstant reason =>
      exact ownTelemetry_ite rfl rfl
  | expireCredential channelId credentialId reason => exact ownTelemetry_ite rfl rfl
  | markCredentialQuotaExhausted channelId credentialId reason => exact ownTelemetry_ite rfl rfl
  | markRelayBalanceChannelCoolingDown channelId untilInstant reason =>
      exact ownTelemetry_ite rfl rfl
  | markProviderAccountChannelCoolingDownOrDegraded channelId providerId accountId untilInstant
      reason => exact ownTelemetry_ite rfl rfl
  | markChannelCoolingDown channelId untilInstant reason => exact ownTelemetry_ite rfl rfl

namespace ObservedFailure

/-- What the program should keep of a failure. -/
def builder (observed : ObservedFailure) : FailureTransitionSummaryBuilder :=
  ⟨observed.requestId, observed.channelId, observed.summary⟩

/-- Does the failure still wait for a transition of this request and channel? -/
def openFor (requestId channelId : String) (observed : ObservedFailure) : Bool :=
  observed.requestId == requestId && observed.channelId == channelId && observed.transition.isNone

/-- The failure with its transition. -/
def told (telemetry : RoutingTelemetry) (observed : ObservedFailure) : ObservedFailure :=
  { observed with transition := some telemetry }

/-- A summary is pending until it has a transition. -/
theorem pendingFor_builder (requestId channelId : String) (observed : ObservedFailure) :
    observed.builder.pendingFor requestId channelId = observed.openFor requestId channelId := by
  unfold FailureTransitionSummaryBuilder.pendingFor openFor
  have hkind : (observed.builder.summary.mutationKind == "noop") = observed.transition.isNone := by
    unfold builder summary
    cases observed.transition with
    | none => rfl
    | some telemetry => exact beq_eq_false_iff_ne.mpr (mutationKind_applySummary telemetry _)
  rw [hkind]
  rfl

theorem builder_told {telemetry : RoutingTelemetry} {observed : ObservedFailure}
    (h : observed.openFor telemetry.requestId telemetry.channelId = true) :
    (observed.told telemetry).builder =
      { observed.builder with summary := telemetry.applySummary observed.builder.summary } := by
  unfold openFor at h
  rw [Bool.and_eq_true, Option.isNone_iff_eq_none] at h
  unfold builder told summary
  rw [h.2]

end ObservedFailure

/-! ## §5. All that can happen. -/

/-- A call that is still to record a transition: its failure is the last of the request, and
has none. -/
structure Awaits (observed : List ObservedFailure) (item : PendingTransition) (position : Nat)
    (failure : ObservedFailure) : Prop where
  recorded : item.failure = some position
  found : observed[position]? = some failure
  requestId_eq : failure.requestId = item.telemetry.requestId
  channelId_eq : failure.channelId = item.telemetry.channelId
  untold : failure.transition = none
  last : item.telemetry.requestId ∉ (observed.map (·.requestId)).drop (position + 1)

structure FailureTelemetryState.Consistent (s : FailureTelemetryState) : Prop where
  told : entries BufferedTelemetry.effect s.log = s.observed.map ObservedFailure.builder
  awaits : ∀ item ∈ s.pending, ∃ position failure, Awaits s.observed item position failure
  distinct : (s.pending.map (·.telemetry.requestId)).Nodup
  retained : s.buffer.events <:+ s.log
  bounded : s.buffer.events.length ≤ s.buffer.capacity

namespace RoutingTelemetryBuffer

variable {Telemetry : Type} {b : RoutingTelemetryBuffer Telemetry} {log : List Telemetry}

theorem retained_push (hretained : b.events <:+ log) (hbounded : b.events.length ≤ b.capacity)
    (event : Telemetry) :
    (b.push event).events <:+ log ++ [event] ∧
      (b.push event).events.length ≤ (b.push event).capacity := by
  have hring := b.ring_push event
  have hevents : (b.push event).events = (b.ring.push u64Max event).events :=
    congrArg BoundedRing.events hring
  have hcapacity : (b.push event).capacity = b.capacity :=
    (congrArg BoundedRing.capacity hring).trans (BoundedRing.capacity_push b.ring event)
  rw [hevents, hcapacity]
  -- no room at all, a full ring, or a free place
  by_cases hzero : b.capacity = 0
  · have hnil : b.events = [] := List.eq_nil_of_length_eq_zero (by omega)
    rw [BoundedRing.push_of_zero (r := b.ring) hzero]
    show b.events <:+ _ ∧ b.events.length ≤ _
    rw [hnil]
    exact ⟨List.nil_suffix, Nat.zero_le _⟩
  by_cases hfull : b.events.length = b.capacity
  · rw [BoundedRing.push_of_full (r := b.ring) hzero hfull]
    refine ⟨List.suffix_append_self_iff.mpr ((List.tail_suffix _).trans hretained), ?_⟩
    show (b.events.tail ++ [event]).length ≤ b.capacity
    rw [List.length_append, List.length_tail, List.length_singleton]
    omega
  · rw [BoundedRing.push_of_room (r := b.ring) hzero hfull]
    refine ⟨List.suffix_append_self_iff.mpr hretained, ?_⟩
    show (b.events ++ [event]).length ≤ b.capacity
    rw [List.length_append, List.length_singleton]
    omega

theorem retained_replaceCapacity (hretained : b.events <:+ log) (capacity : Nat) :
    (b.replaceCapacity capacity).events <:+ log ∧
      (b.replaceCapacity capacity).events.length ≤ (b.replaceCapacity capacity).capacity := by
  have hevents : (b.replaceCapacity capacity).events =
      b.events.drop (b.events.length - capacity) :=
    congrArg BoundedRing.events (b.ring_replaceCapacity capacity)
  rw [hevents]
  refine ⟨(List.drop_suffix _ _).trans hretained, ?_⟩
  show (b.events.drop _).length ≤ capacity
  rw [List.length_drop]
  omega

end RoutingTelemetryBuffer

theorem Awaits.concat {observed : List ObservedFailure} {item : PendingTransition} {position : Nat}
    {failure : ObservedFailure} (h : Awaits observed item position failure)
    {newest : ObservedFailure} (hnewest : item.telemetry.requestId ≠ newest.requestId) :
    Awaits (observed ++ [newest]) item position failure := by
  obtain ⟨hlt, -⟩ := List.getElem?_eq_some_iff.mp h.found
  refine { h with found := ?_, last := ?_ }
  · rw [List.getElem?_append_left hlt]
    exact h.found
  · rw [List.map_append, List.drop_append_of_le_length (by rw [List.length_map]; exact hlt)]
    intro hmem
    rcases List.mem_append.mp hmem with hmem | hmem
    · exact h.last hmem
    · exact hnewest (List.mem_singleton.mp hmem)

theorem map_requestId_told (observed : List ObservedFailure) (position : Nat)
    (telemetry : RoutingTelemetry) :
    (observed.modify position (ObservedFailure.told telemetry)).map (·.requestId) =
      observed.map (·.requestId) := by
  induction observed generalizing position with
  | nil => cases position <;> rfl
  | cons failure observed ih =>
      cases position with
      | zero => rfl
      | succ position => exact congrArg (failure.requestId :: ·) (ih position)

/-- Calls of other requests do not notice. -/
theorem Awaits.told_other {observed : List ObservedFailure} {item : PendingTransition}
    {position other : Nat} {failure : ObservedFailure} (h : Awaits observed item position failure)
    (hother : position ≠ other) (telemetry : RoutingTelemetry) :
    Awaits (observed.modify other (ObservedFailure.told telemetry)) item position failure := by
  refine { h with found := ?_, last := ?_ }
  · rw [List.getElem?_modify_ne _ _ (Ne.symm hother)]
    exact h.found
  · rw [map_requestId_told]
    exact h.last

/-- The entries, when a transition comes that is awaited. -/
theorem Awaits.entries_applied {log : List BufferedTelemetry} {observed : List ObservedFailure}
    (htold : entries BufferedTelemetry.effect log = observed.map ObservedFailure.builder)
    {item : PendingTransition} {position : Nat} {failure : ObservedFailure}
    (h : Awaits observed item position failure) :
    entries BufferedTelemetry.effect (log ++ [.applied item.telemetry]) =
      (observed.modify position (ObservedFailure.told item.telemetry)).map
        ObservedFailure.builder := by
  have hopen : failure.openFor item.telemetry.requestId item.telemetry.channelId = true := by
    unfold ObservedFailure.openFor
    rw [h.requestId_eq, h.channelId_eq, h.untold, beq_self_eq_true, beq_self_eq_true]
    rfl
  have hlast : (observed.drop (position + 1)).any
      (ObservedFailure.openFor item.telemetry.requestId item.telemetry.channelId) = false := by
    rw [List.any_eq_false]
    intro later hlater hopen
    unfold ObservedFailure.openFor at hopen
    rw [Bool.and_eq_true, Bool.and_eq_true, beq_iff_eq] at hopen
    refine h.last ?_
    rw [← List.map_drop, ← hopen.1.1]
    exact List.mem_map_of_mem hlater
  rw [entries_concat, htold, ← updateLast_eq_modify _ h.found hopen hlast]
  exact (map_updateLast (ObservedFailure.pendingFor_builder _ _)
    (fun _ => ObservedFailure.builder_told) observed).symm

namespace FailureTelemetryState

variable {s : FailureTelemetryState}

/-- A failure without a transition is lost. -/
theorem Consistent.observe_lost (h : s.Consistent) (input : TransitionInput)
    (result : TransitionResult) : (s.observe input result [] true).Consistent := by
  have hpending : (s.observe input result [] true).pending = s.pending := List.append_nil _
  refine ⟨h.told, ?_, ?_, h.retained, h.bounded⟩
  · rw [hpending]
    exact h.awaits
  · rw [hpending]
    exact h.distinct

/-- A failure is recorded. -/
theorem Consistent.observe (h : s.Consistent) {input : TransitionInput} {result : TransitionResult}
    {telemetry : List RoutingTelemetry} (hown : OwnTelemetry input.snapshot telemetry)
    (hfree : ∀ item ∈ s.pending, item.telemetry.requestId ≠ input.snapshot.requestId) :
    (s.observe input result telemetry false).Consistent := by
  -- the transition is told once, and its own summary waits behind it
  obtain ⟨hretained, hbounded⟩ := RoutingTelemetryBuffer.retained_push h.retained h.bounded
    (.upstreamFailureObserved input.snapshot.requestId input.snapshot.channelId
      (upstreamFailureTelemetry input.snapshot input.failure input.failureSource result))
  refine ⟨?_, ?_, ?_, hretained, hbounded⟩
  · show entries _ (s.log ++ [_]) = (s.observed ++ [_]).map _
    rw [entries_concat, h.told, List.map_append]
    rfl
  · intro item hitem
    rcases List.mem_append.mp hitem with hitem | hitem
    · obtain ⟨position, failure, hawaits⟩ := h.awaits item hitem
      exact ⟨position, failure, hawaits.concat (hfree item hitem)⟩
    · obtain rfl | ⟨event, rfl, hrequest, hchannel⟩ := hown
      · cases hitem
      · cases List.mem_singleton.mp hitem
        refine ⟨s.observed.length, _, rfl, List.getElem?_concat_length, hrequest.symm,
          hchannel.symm, rfl, ?_⟩
        show event.requestId ∉ ((s.observed ++ [_]).map _).drop _
        rw [List.drop_eq_nil_of_le (by
          rw [List.length_map, List.length_append, List.length_singleton])]
        exact List.not_mem_nil
  · show ((s.pending ++ telemetry.map fun telemetry => _).map _).Nodup
    rw [List.map_append]
    obtain rfl | ⟨event, rfl, hrequest, -⟩ := hown
    · rw [List.map_nil, List.map_nil, List.append_nil]
      exact h.distinct
    · refine List.nodup_append'.mpr ⟨h.distinct, List.nodup_singleton _, ?_⟩
      intro requestId hmem hnew
      obtain ⟨item, hitem, rfl⟩ := List.mem_map.mp hmem
      exact hfree item hitem ((List.mem_singleton.mp hnew).trans hrequest)

/-- A transition is recorded, or lost. -/
theorem Consistent.transition (h : s.Consistent) {item : PendingTransition}
    (hitem : item ∈ s.pending) (contended : Bool) : (s.transition item contended).Consistent := by
  have hnodup : s.pending.Nodup := h.distinct.of_map _
  have hdistinct : ((s.pending.erase item).map (·.telemetry.requestId)).Nodup :=
    h.distinct.sublist ((List.erase_sublist).map _)
  cases contended with
  | true =>
      exact ⟨h.told, fun other hother => h.awaits other (List.mem_of_mem_erase hother), hdistinct,
        h.retained, h.bounded⟩
  | false =>
      obtain ⟨position, failure, hawaits⟩ := h.awaits item hitem
      obtain ⟨hretained, hbounded⟩ := RoutingTelemetryBuffer.retained_push h.retained h.bounded
        (.applied item.telemetry)
      have hobserved : (s.transition item false).observed =
          s.observed.modify position (ObservedFailure.told item.telemetry) := by
        unfold FailureTelemetryState.transition
        rw [hawaits.recorded]
        rfl
      refine ⟨?_, ?_, hdistinct, hretained, hbounded⟩
      · rw [hobserved]
        exact hawaits.entries_applied h.told
      · intro other hother
        rw [hobserved]
        obtain ⟨hne, hmem⟩ := hnodup.mem_erase_iff.mp hother
        obtain ⟨position', failure', hawaits'⟩ := h.awaits other hmem
        refine ⟨position', failure', hawaits'.told_other ?_ item.telemetry⟩
        rintro rfl
        -- two calls of one request would have one failure
        have hsame : failure' = failure :=
          Option.some.inj (hawaits'.found.symm.trans hawaits.found)
        refine hne (List.inj_on_of_nodup_map h.distinct hmem hitem ?_)
        rw [← hawaits'.requestId_eq, ← hawaits.requestId_eq, hsame]

end FailureTelemetryState

/-- No summary is made from the other events. -/
theorem effect_eq_nothing {event : BufferedTelemetry}
    (h : event ∈ [BufferedTelemetry.routeSelected, .routeAdmissionDenied, .transitionApplied,
      .credentialLifecyclePersistenceDropped]) : event.effect = .nothing := by
  simp only [List.mem_cons, List.not_mem_nil, or_false] at h
  obtain rfl | rfl | rfl | rfl := h <;> rfl

theorem failureTelemetry_step {s s' : FailureTelemetryState} {label : FailureTelemetryLabel}
    (h : s.Consistent)
    (hstep : (failureTelemetrySystem.restrict fun _ label => label.KeepsFailure).Step s label s') :
    s'.Consistent := by
  obtain ⟨hstep, hkeeps⟩ := hstep
  cases label with
  | observe mutationState readings input result contended =>
      obtain ⟨-, hfree, rfl⟩ := hstep
      cases contended with
      -- nobody could take the lock, so the failure was not recorded and has no transition
      | true =>
          rw [hkeeps rfl]
          exact h.observe_lost input result
      | false => exact h.observe (ownTelemetry_stateMutation _ _ _ _) hfree
  | transition item contended =>
      obtain ⟨hitem, rfl⟩ := hstep
      exact h.transition hitem contended
  -- other entries push old ones out of the buffer, in order
  | other event =>
      obtain ⟨hevent, rfl⟩ := hstep
      obtain ⟨hretained, hbounded⟩ :=
        RoutingTelemetryBuffer.retained_push h.retained h.bounded event
      refine ⟨?_, h.awaits, h.distinct, hretained, hbounded⟩
      show entries _ (s.log ++ [event]) = _
      rw [entries_concat, effect_eq_nothing hevent]
      exact h.told
  | replaceCapacity capacity =>
      cases hstep
      obtain ⟨hretained, hbounded⟩ :=
        RoutingTelemetryBuffer.retained_replaceCapacity h.retained capacity
      exact ⟨h.told, h.awaits, h.distinct, hretained, hbounded⟩

theorem consistent_of_reachable {s : FailureTelemetryState}
    (h : (failureTelemetrySystem.restrict fun _ label => label.KeepsFailure).Reachable s) :
    s.Consistent := by
  refine h.invariant (fun s hinit => ?_) fun s label s' hs hstep => failureTelemetry_step hs hstep
  obtain ⟨hbuffer, hlog, hobserved, hpending⟩ := hinit
  refine ⟨?_, ?_, ?_, ?_, ?_⟩
  · rw [hlog, hobserved]
    rfl
  · rw [hpending]
    nofun
  · rw [hpending]
    exact List.nodup_nil
  · rw [hbuffer]
    exact List.nil_suffix
  · rw [hbuffer]
    exact Nat.zero_le _

/-! ## §6. The summaries of a buffer. -/

/-- Is the entry a failure, not a transition? -/
def BufferedTelemetry.isFailure : BufferedTelemetry → Bool
  | upstreamFailureObserved _ _ _ => true
  | _ => false

theorem appends_effect (event : BufferedTelemetry) : event.effect.appends = event.isFailure := by
  cases event <;> rfl

/-- Whatever the buffer has lost of the oldest events, and wherever the requests are: its
summaries are those of the failures that are in it, in their order, each with the transition of
its own call as far as that has been recorded. -/
theorem failure_summaries_tell_own_transitions {s : FailureTelemetryState}
    (h : (failureTelemetrySystem.restrict fun _ label => label.KeepsFailure).Reachable s) :
    failureTransitionSummaries s.buffer.events =
      (s.observed.drop
        (s.observed.length - s.buffer.events.countP BufferedTelemetry.isFailure)).map
          ObservedFailure.summary := by
  have hconsistent := consistent_of_reachable h
  have hentries := entries_of_suffix BufferedTelemetry.effect hconsistent.retained
  have hfailures : (fun event : BufferedTelemetry => event.effect.appends) =
      BufferedTelemetry.isFailure := funext appends_effect
  rw [hconsistent.told, List.length_map, hfailures, ← List.map_drop] at hentries
  unfold failureTransitionSummaries
  rw [hentries, List.map_map]
  rfl

def requestWithId (requestId : String) : TransitionInput :=
  { retryAfterReport with
    snapshot := { retryAfterReport.snapshot with requestId := requestId } }

def transportResult : TransitionResult where
  mutation := .markProviderAccountChannelCoolingDownOrDegraded "a" "provider" "account"
    (some (Duration.fromSecs 60)) .upstreamProviderUnavailable
  retry := .returnCurrentError .noRouteCandidate
  duplicateChargeRisk := .none
  effectiveDeadlineRemainingMs := none

def channelCoolsDown (requestId : String) : RoutingTelemetry :=
  .channelHealthTransitionApplied requestId "a" "cooling_down" "upstream_provider_unavailable"

def observeTransport (s : FailureTelemetryState) (requestId : String) : FailureTelemetryState :=
  s.observe (requestWithId requestId) transportResult [channelCoolsDown requestId] false

/-- Two requests fail, and then the first records its transition. -/
theorem failure_summaries_tell_own_transitions_two :
    let start : FailureTelemetryState := ⟨.new 3, [], [], []⟩
    let s := (observeTransport (observeTransport start "r1") "r2").transition
      ⟨some 0, channelCoolsDown "r1"⟩ false
    (failureTransitionSummaries s.buffer.events).map (·.transitionAction) =
      ["mark_provider_account_channel_cooling_down", "noop"] := by
  intro start s
  let system := failureTelemetrySystem.restrict fun _ label => label.KeepsFailure
  let label (requestId : String) : FailureTelemetryLabel :=
    .observe (pairMutationState pairStart.pool) (.at' 2) (requestWithId requestId) transportResult
      false
  -- two requests fail, and then the transition of the first is recorded
  have hfirst : system.Step start (label "r1") (observeTransport start "r1") :=
    ⟨⟨rfl, nofun, rfl⟩, nofun⟩
  have hsecond : system.Step (observeTransport start "r1") (label "r2")
      (observeTransport (observeTransport start "r1") "r2") := by
    refine ⟨⟨rfl, ?_, rfl⟩, nofun⟩
    intro item hitem
    cases List.mem_singleton.mp hitem
    exact of_decide_eq_true rfl
  have hthird : system.Step (observeTransport (observeTransport start "r1") "r2")
      (.transition ⟨some 0, channelCoolsDown "r1"⟩ false) s :=
    ⟨⟨List.mem_cons_self, rfl⟩, trivial⟩
  have hstart : system.Init start := ⟨rfl, rfl, rfl, rfl⟩
  have hreachable : system.Reachable s :=
    (((TransitionSystem.Reachable.init hstart).step hfirst).step hsecond).step hthird
  rw [failure_summaries_tell_own_transitions hreachable]
  decide +kernel

end OneAiKey
