/-
  OneAiKey.Forward.Filtered — where the body of a returned response comes from
  (the response filter on the branches of `forward_with_pool` in `src/proxy.rs`).

  A turn commits to an upstream response in one of four places: a status that is
  not guarded, a guarded prefix that passed, and a buffered error body, as it is
  or rewritten.  A fallback to the next target carries the raw error body too,
  but it is given only while a target is left, and the outer loop then ends with
  what a later target gives.

  Main results:
    * `forwardTurn_end` — the ends of a turn, with what each body is;
    * `forwardTargets_origin` — the returned response comes from the target that
      returned it, never from an abandoned one;
    * `returned_body_filtered` — it is local, filtered, or content-encoded.
-/
import OneAiKey.FilterStream
import OneAiKey.Forward

namespace OneAiKey

/-! ## §1. The filter before the commit. -/

def ResponseFilterAction.lifecycleFailureScope : ResponseFilterAction → Option FailureScope
  | rejectAndExpireCredential => some .credential
  | rejectAndCooldownChannel => some .channel
  | redact | reject => none

/-- The first matched rule whose action has a lifecycle scope. -/
def filterRejection (matched : List ResponseFilterMatch) : FilterRejection :=
  matched.findSome? fun matchedRule =>
    matchedRule.action.lifecycleFailureScope.map fun scope => (matchedRule.ruleId, scope)

section Inspection

variable (tables : CaseTables) (policy : ResponseFilterPolicy)

def inspectResponseFilterBeforeCommit (headers : List (String × String))
    (guardOutcome : GuardOutcome) (replayed : Bytes) : Except Fault (Option FilterRejection) :=
  if hasNonIdentityContentEncoding headers then .ok none
  else
    match Utf8.decode replayed with
    | none => .ok none
    | some text =>
        match policy.inspectTextWithRequiredMissing tables text (guardOutcome == .pass) with
        | .error fault => .error fault
        | .ok (.rejected matched) => .ok (some (filterRejection matched))
        | .ok _ => .ok none

def inspectResponseFilterBufferedBodyBeforeCommit (headers : List (String × String))
    (body : Bytes) : Except Fault BufferedBodyDecision :=
  if hasNonIdentityContentEncoding headers then .ok .unchanged
  else
    match Utf8.decode body with
    | none => .ok .unchanged
    | some text =>
        match policy.inspectTextWithRequiredMissing tables text false with
        | .error fault => .error fault
        | .ok .unchanged => .ok .unchanged
        | .ok (.redacted text _) => .ok (.redacted (Utf8.encode text))
        | .ok (.rejected matched) => .ok (.rejected (filterRejection matched))

/-- The verdicts that an upstream response meets are those of the policy.  A fault of the
filter is a panic, after which there is no response. -/
structure UpstreamResponse.InspectedBy (upstream : UpstreamResponse) : Prop where
  precommit : ∀ outcome replayed stream,
    upstream.guard = .ok (.passThrough outcome replayed stream) →
    inspectResponseFilterBeforeCommit tables policy upstream.headers outcome replayed =
      .ok upstream.precommit
  buffered : ∀ body, upstream.limitedBody = .ok body →
    inspectResponseFilterBufferedBodyBeforeCommit tables policy upstream.headers body =
      .ok upstream.bufferedDecision

def World.InspectedBy (world : World) : Prop :=
  ∀ routeAttempt n upstream, ((world.target routeAttempt).turn n).upstream = .ok upstream →
    upstream.InspectedBy tables policy

end Inspection

/-! ## §2. The body that is sent. -/

/-- `response_content_kind`. -/
def responseContentKind (headers : List (String × String)) : ResponseContentKind :=
  match findHeader headers "content-type" with
  | none => .unknown
  | some value =>
      let mediaType := (trim ((splitAt ';' value.toList).headD [])).map Char.toLower
      if mediaType = "text/event-stream".toList then .sse
      else if mediaType = "application/json".toList ∨ "+json".toList <:+ mediaType then .json
      else .unknown

/-- The stream that the client reads. -/
inductive StreamedBody where
  | filtered (filter : StreamFilter) (stream : ByteStream)
  | direct (stream : ByteStream)

/-- `stream_response_from_byte_stream_with_filter_events`, as far as the body goes. -/
def streamedBody (tables : CaseTables) (policy : ResponseFilterPolicy)
    (headers : List (String × String)) (eventContext : Option ResponseFilterEventContext)
    (stream : ByteStream) : StreamedBody :=
  if policy.isEffective && !hasNonIdentityContentEncoding headers then
    .filtered ⟨tables, policy, responseContentKind headers, eventContext⟩ stream
  else .direct stream

def ResponseBody.IsLocal : ResponseBody → Prop
  | routerError _ _ _ => True
  | filteredStream _ | redacted _ | buffered _ => False

/-- The body is one that the filter went through. -/
inductive Filtered (tables : CaseTables) (policy : ResponseFilterPolicy)
    (upstream : UpstreamResponse) : ResponseBody → Prop where
  /-- It is filtered unit by unit while it is streamed. -/
  | streamed {stream : ByteStream} :
      (∀ eventContext, streamedBody tables policy upstream.headers eventContext stream =
        .filtered ⟨tables, policy, responseContentKind upstream.headers, eventContext⟩ stream) →
      Filtered tables policy upstream (.filteredStream stream)
  /-- The rules rewrote it. -/
  | redacted {body : Bytes} {text redactedText : Text} {matched : List ResponseFilterMatch} :
      upstream.limitedBody = .ok body → Utf8.decode body = some text →
      policy.inspectTextWithRequiredMissing tables text false =
        .ok (.redacted redactedText matched) →
      Filtered tables policy upstream (.redacted (Utf8.encode redactedText))
  /-- The rules left it as it is. -/
  | unchanged {body : Bytes} {text : Text} :
      upstream.limitedBody = .ok body → Utf8.decode body = some text →
      policy.inspectTextWithRequiredMissing tables text false = .ok .unchanged →
      Filtered tables policy upstream (.buffered body)
  /-- It is no text, which the filter passes on. -/
  | notText {body : Bytes} :
      upstream.limitedBody = .ok body → Utf8.decode body = none →
      Filtered tables policy upstream (.buffered body)

/-! ## §3. The ends of a turn. -/

/-- A turn that met `upstream` commits to it with this response. -/
inductive Committed (upstream : UpstreamResponse) : Response → Prop where
  | unguarded :
      shouldGuardSuccessStatus upstream.status = false →
      Committed upstream ⟨upstream.status, .filteredStream upstream.stream⟩
  | guarded {outcome : GuardOutcome} {replayed : Bytes} {stream : ByteStream} :
      upstream.guard = .ok (.passThrough outcome replayed stream) → upstream.precommit = none →
      Committed upstream
        ⟨upstream.status, .filteredStream (prefixedBodyStream replayed stream)⟩
  | unchanged {body : Bytes} :
      upstream.limitedBody = .ok body → upstream.bufferedDecision = .unchanged →
      Committed upstream ⟨upstream.status, .buffered body⟩
  | redacted {body redacted : Bytes} :
      upstream.limitedBody = .ok body → upstream.bufferedDecision = .redacted redacted →
      Committed upstream ⟨upstream.status, .redacted redacted⟩

/-- How a turn may end: a fallback whose response is not local needs a target that is
left. -/
inductive EndOrigin (met : Except String UpstreamResponse) (routeTargetAvailable : Bool) :
    TurnEnd → Prop where
  | again (state : AttemptState) : EndOrigin met routeTargetAvailable (.again state)
  | panicked : EndOrigin met routeTargetAvailable (.done .panicked)
  | fallback {response : Response} :
      routeTargetAvailable = true ∨ response.body.IsLocal →
      EndOrigin met routeTargetAvailable (.done (.routeFallback response))
  | ownResponse {response : Response} :
      response.body.IsLocal → EndOrigin met routeTargetAvailable (.done (.response response))
  | committed {upstream : UpstreamResponse} {response : Response} :
      met = .ok upstream → Committed upstream response →
      EndOrigin met routeTargetAvailable (.done (.response response))

section Turn

variable {world : World} {req : ForwardRequest} {target : ForwardTarget} {poolState : PoolState}
  {classifier : FailureClassifier} {routeTargetAvailable : Bool} {turn : TurnWorld}
  {snapshot : RequestSelectionSnapshot} {frozen : FrozenRetryCandidates}

/-- Fallback is the directive only while a target is left. -/
theorem retryRouteTarget_needs_target {failure : ClassifiedFailure}
    {failureSource : FailureSource} {now : Instant}
    (h : transitionObservedFailure world poolState snapshot failure failureSource now =
      some .retryRouteTarget) : snapshot.routeTargetAvailable = true := by
  unfold transitionObservedFailure at h
  obtain ⟨result, hresult, hretry⟩ := Option.map_eq_some_iff.mp h
  obtain ⟨-, hdirective⟩ := transitionAfterFailure_retry hresult
  rw [hretry] at hdirective
  rcases retryAfterFailure_cases _ with ⟨reason, hreturn⟩ | ⟨-, ⟨-, hchannel⟩ | ⟨-, hcredential⟩⟩
  · rw [hreturn] at hdirective
    cases hdirective
  · rw [hchannel] at hdirective
    rcases channelRetryDirective_cases _ with ⟨reason, hd⟩ | ⟨-, havailable, -⟩ | ⟨hd, -⟩
    · rw [hd] at hdirective
      cases hdirective
    · exact havailable
    · rw [hd] at hdirective
      cases hdirective
  · rw [hcredential] at hdirective
    rcases credentialRetryDirective_cases _ with ⟨reason, hd⟩ | ⟨credentialId, hd, -⟩
    · rw [hd] at hdirective
      cases hdirective
    · rw [hd] at hdirective
      cases hdirective

theorem failureBranch_end {met : Except String UpstreamResponse} {failure : ClassifiedFailure}
    {failureSource : FailureSource} {fallback : Response} {onReturn onDrift : TurnEnd}
    (hreturn : EndOrigin met snapshot.routeTargetAvailable onReturn)
    (hdrift : EndOrigin met snapshot.routeTargetAvailable onDrift) :
    EndOrigin met snapshot.routeTargetAvailable
      (failureBranch world poolState turn snapshot frozen failure failureSource fallback
        onReturn onDrift).2 := by
  unfold failureBranch
  cases htransition : transitionObservedFailure world poolState snapshot failure failureSource
      turn.transitionNow with
  | none => exact .panicked
  | some directive =>
      dsimp only
      cases directive with
      | returnCurrentError reason => exact hreturn
      | retryRouteTarget => exact .fallback (Or.inl (retryRouteTarget_needs_target htransition))
      | retrySameTarget => exact .again _
      | retryCredential credentialId =>
          unfold applyRetryDirectiveToAttemptState
          dsimp only
          -- the candidate is the next frozen one, or has drifted
          cases (some frozen).bind (·.advanceIfNext credentialId) with
          | none => exact hdrift
          | some advanced => exact .again _

theorem filterRejectionEnd_end {met : Except String UpstreamResponse} {available : Bool}
    {rejection : FilterRejection} {upstreamStatus : Nat} :
    EndOrigin met available
      (filterRejectionEnd world poolState turn snapshot rejection upstreamStatus) := by
  have hlocal : EndOrigin met available
      (.done (.response responseFilterPrecommitRejectedResponse)) := .ownResponse trivial
  unfold filterRejectionEnd
  dsimp only
  split
  · exact hlocal
  · split
    · split
      · exact .panicked
      · exact hlocal
    · exact hlocal

theorem afterSend_end :
    EndOrigin turn.upstream snapshot.routeTargetAvailable
      (afterSend world poolState classifier turn snapshot frozen).2 := by
  have hdrift : EndOrigin turn.upstream snapshot.routeTargetAvailable driftEnd :=
    .ownResponse trivial
  unfold afterSend
  split
  · exact failureBranch_end (.ownResponse trivial) hdrift
  · next upstream hmet =>
      split
      · split
        · next hunguarded => exact .committed hmet (.unguarded (by simpa using hunguarded))
        · split
          · exact failureBranch_end (.ownResponse trivial) hdrift
          · next hguard =>
              split
              · exact filterRejectionEnd_end
              · next hprecommit => exact .committed hmet (.guarded hguard hprecommit)
          · exact failureBranch_end (.ownResponse trivial) hdrift
      · split
        · exact failureBranch_end (.ownResponse trivial) hdrift
        · next body hbody =>
            -- the error body, where the branch returns it and where it drifts
            refine failureBranch_end ?_ ?_
            all_goals
              split
              · next hdecision => exact .committed hmet (.unchanged hbody hdecision)
              · next hdecision => exact .committed hmet (.redacted hbody hdecision)
              · exact filterRejectionEnd_end

theorem forwardTurn_end (state : AttemptState) :
    EndOrigin turn.upstream routeTargetAvailable
      (forwardTurn world req target poolState classifier routeTargetAvailable turn state).2 := by
  unfold forwardTurn
  dsimp only
  split
  · next response hunavailable =>
      refine .fallback (Or.inr ?_)
      -- a target that is given up before the send gets one of the gateway's own answers
      unfold routeStateUnavailableResponseForAttempt at hunavailable
      split at hunavailable
      · cases hunavailable
        trivial
      split at hunavailable
      · cases hunavailable
        trivial
      generalize target.routeState.mostRestrictive turn.routeState = routeState at hunavailable
      cases routeState <;> cases hunavailable <;> trivial
  · split
    · exact .panicked
    · exact .fallback (Or.inr trivial)
    · next pool selected _ =>
        exact @afterSend_end world poolState classifier turn
          (selectionSnapshot req target poolState classifier routeTargetAvailable turn selected
            (freezeRetryCandidates poolState turn pool state.frozenRetryCandidates).remaining
            state.attempt) _

end Turn

/-! ## §4. The two loops. -/

/-- A response that the work on a target returns, and one that it gives up with. -/
def ResultOrigin (turn : Nat → TurnWorld) (routeTargetAvailable : Bool)
    (result : PoolForwardResult) : Prop :=
  (∀ response, result = .response response → response.body.IsLocal ∨
    ∃ n upstream, (turn n).upstream = .ok upstream ∧ Committed upstream response) ∧
  ∀ response, result = .routeFallback response →
    routeTargetAvailable = true ∨ response.body.IsLocal

section Loops

variable (world : World) (req : ForwardRequest)

/-- The inner loop, by induction on its turns. -/
theorem forwardLoop_origin (target : ForwardTarget) (poolState : PoolState)
    (classifier : FailureClassifier) (routeTargetAvailable : Bool) (turn : Nat → TurnWorld)
    (fuel : Nat) : ∀ (n : Nat) (state : AttemptState),
      ResultOrigin turn routeTargetAvailable
        (forwardLoop world req target poolState classifier routeTargetAvailable turn fuel n
          state).2 := by
  induction fuel with
  | zero =>
      intro n state
      exact ⟨nofun, nofun⟩
  | succ fuel ih =>
      intro n state
      -- by how the turn ends: only the last two ways return a response
      have hend := @forwardTurn_end world req target poolState classifier routeTargetAvailable
        (turn n) state
      unfold forwardLoop
      generalize forwardTurn world req target poolState classifier routeTargetAvailable (turn n)
        state = out at hend
      obtain ⟨events, turnEnd⟩ := out
      dsimp only at hend
      cases hend with
      | again next => exact ih (n + 1) next
      | panicked => exact ⟨nofun, nofun⟩
      | fallback havailable =>
          refine ⟨nofun, ?_⟩
          intro response heq
          cases heq
          exact havailable
      | ownResponse hlocal =>
          refine ⟨?_, nofun⟩
          intro response heq
          cases heq
          exact Or.inl hlocal
      | committed hmet hcommitted =>
          refine ⟨?_, nofun⟩
          intro response heq
          cases heq
          exact Or.inr ⟨n, _, hmet, hcommitted⟩

theorem forwardWithPool_origin (fuel : Nat) (target : ForwardTarget) (routeAttempt : Nat)
    (routeTargetAvailable : Bool) (initialAttempt : Nat) :
    ResultOrigin (world.target routeAttempt).turn routeTargetAvailable
      (forwardWithPool fuel world req target routeAttempt routeTargetAvailable
        initialAttempt).2 := by
  unfold forwardWithPool
  split
  · refine ⟨?_, nofun⟩
    intro response heq
    cases heq
    exact Or.inl trivial
  · exact forwardLoop_origin world req target _ _ routeTargetAvailable _ fuel 0 _

/-- The response that the request ends with: local, or returned as its response by the
target behind `before`, which had committed to it in one of its turns. -/
def ReturnedBy (fuel : Nat) (targets : List ForwardTarget) (routeAttempt : Nat)
    (response : Response) : Prop :=
  response.body.IsLocal ∨
    ∃ before target after, targets = before ++ target :: after ∧
      (forwardWithPool fuel world req target (routeAttempt + before.length) (!after.isEmpty)
        (if 0 < routeAttempt + before.length then 1 else 0)).2 = .response response ∧
      ∃ n upstream,
        ((world.target (routeAttempt + before.length)).turn n).upstream = .ok upstream ∧
          Committed upstream response

variable {world req}

theorem ReturnedBy.cons {fuel : Nat} {target : ForwardTarget} {targets : List ForwardTarget}
    {routeAttempt : Nat} {response : Response}
    (h : ReturnedBy world req fuel targets (routeAttempt + 1) response) :
    ReturnedBy world req fuel (target :: targets) routeAttempt response := by
  rcases h with hlocal | ⟨before, returning, after, hsplit, hreturned, hcommitted⟩
  · exact Or.inl hlocal
  · refine Or.inr ⟨target :: before, returning, after, by rw [hsplit]; rfl, ?_⟩
    have hlength : routeAttempt + (target :: before).length = routeAttempt + 1 + before.length := by
      rw [List.length_cons]
      omega
    rw [hlength]
    exact ⟨hreturned, hcommitted⟩

/-- The outer loop, by induction on the targets that are left.  The last response of an
abandoned target is returned only when no target was left at the start. -/
theorem forwardTargets_origin {fuel : Nat} {response : Response} (targets : List ForwardTarget) :
    ∀ (lastResponse : Option Response) (routeAttempt : Nat),
      (targets = [] → lastResponse = none) →
      (forwardTargets fuel world req lastResponse routeAttempt targets).2 = .response response →
      ReturnedBy world req fuel targets routeAttempt response := by
  induction targets with
  | nil =>
      intro lastResponse routeAttempt hlast h
      rw [hlast rfl] at h
      cases h
      exact Or.inl trivial
  | cons target targets ih =>
      intro lastResponse routeAttempt _ h
      have horigin := forwardWithPool_origin world req fuel target routeAttempt
        (!targets.isEmpty) (if 0 < routeAttempt then 1 else 0)
      unfold forwardTargets at h
      dsimp only at h
      cases hpool : forwardWithPool fuel world req target routeAttempt (!targets.isEmpty)
          (if 0 < routeAttempt then 1 else 0) with
      | mk events result =>
          rw [hpool] at h horigin
          cases result with
          | panicked => cases h
          | outOfFuel => cases h
          | response returned =>
              cases h
              rcases horigin.1 response rfl with hlocal | hcommitted
              · exact Or.inl hlocal
              · refine Or.inr ⟨[], target, targets, rfl, ?_, hcommitted⟩
                show (forwardWithPool fuel world req target routeAttempt (!targets.isEmpty)
                  (if 0 < routeAttempt then 1 else 0)).2 = .response response
                rw [hpool]
          | routeFallback abandoned =>
              dsimp only at h
              cases targets with
              | nil =>
                  -- the last target cannot have given up with an upstream body
                  cases h
                  rcases horigin.2 response rfl with havailable | hlocal
                  · cases havailable
                  · exact Or.inl hlocal
              | cons next targets =>
                  exact (ih (some abandoned) (routeAttempt + 1) nofun h).cons

end Loops

/-! ## §5. Every committed body is filtered. -/

section Policy

variable {tables : CaseTables} {policy : ResponseFilterPolicy} {upstream : UpstreamResponse}

theorem streamed_filtered (heffective : policy.isEffective = true)
    (hidentity : hasNonIdentityContentEncoding upstream.headers = false) (stream : ByteStream) :
    Filtered tables policy upstream (.filteredStream stream) := by
  refine .streamed fun eventContext => ?_
  unfold streamedBody
  rw [heffective, hidentity]
  rfl

/-- What the inspection of a buffered body says about the text of the body. -/
theorem buffered_inspection {headers : List (String × String)} {body : Bytes}
    {decision : BufferedBodyDecision}
    (hidentity : hasNonIdentityContentEncoding headers = false)
    (h : inspectResponseFilterBufferedBodyBeforeCommit tables policy headers body =
      .ok decision) :
    (Utf8.decode body = none ∧ decision = .unchanged) ∨
    ∃ text verdict, Utf8.decode body = some text ∧
      policy.inspectTextWithRequiredMissing tables text false = .ok verdict ∧
      ((verdict = .unchanged ∧ decision = .unchanged) ∨
        (∃ redactedText matched, verdict = .redacted redactedText matched ∧
          decision = .redacted (Utf8.encode redactedText)) ∨
        ∃ matched, verdict = .rejected matched ∧
          decision = .rejected (filterRejection matched)) := by
  unfold inspectResponseFilterBufferedBodyBeforeCommit at h
  rw [if_neg (by simp [hidentity])] at h
  cases hdecode : Utf8.decode body with
  -- a body that is no text is passed on as it is
  | none =>
      rw [hdecode] at h
      cases h
      exact Or.inl ⟨rfl, rfl⟩
  | some text =>
      rw [hdecode] at h
      dsimp only at h
      refine Or.inr ⟨text, ?_⟩
      cases hverdict : policy.inspectTextWithRequiredMissing tables text false with
      | error fault =>
          rw [hverdict] at h
          cases h
      | ok verdict =>
          rw [hverdict] at h
          refine ⟨verdict, rfl, rfl, ?_⟩
          cases verdict with
          | unchanged =>
              cases h
              exact Or.inl ⟨rfl, rfl⟩
          | redacted redactedText matched =>
              cases h
              exact Or.inr (Or.inl ⟨_, _, rfl, rfl⟩)
          | rejected matched =>
              cases h
              exact Or.inr (Or.inr ⟨_, rfl, rfl⟩)

theorem committed_filtered (heffective : policy.isEffective = true)
    (hidentity : hasNonIdentityContentEncoding upstream.headers = false)
    (hinspected : upstream.InspectedBy tables policy) {response : Response}
    (h : Committed upstream response) : Filtered tables policy upstream response.body := by
  cases h with
  | unguarded _ => exact streamed_filtered heffective hidentity _
  | guarded _ _ => exact streamed_filtered heffective hidentity _
  -- of the verdicts of an inspection, only the two that leave the body fit
  | @unchanged body hbody hdecision =>
      have hverdict := hinspected.buffered body hbody
      rw [hdecision] at hverdict
      rcases buffered_inspection hidentity hverdict with ⟨hdecode, -⟩ |
        ⟨text, verdict, hdecode, hinspect, ⟨rfl, -⟩ | ⟨redactedText, matched, -, hne⟩ |
          ⟨matched, -, hne⟩⟩
      · exact .notText hbody hdecode
      · exact .unchanged hbody hdecode hinspect
      · cases hne
      · cases hne
  -- and only one fits a redaction
  | @redacted body redacted hbody hdecision =>
      have hverdict := hinspected.buffered body hbody
      rw [hdecision] at hverdict
      rcases buffered_inspection hidentity hverdict with ⟨-, hne⟩ |
        ⟨text, verdict, hdecode, hinspect, ⟨-, hne⟩ | ⟨redactedText, matched, rfl, heq⟩ |
          ⟨matched, -, hne⟩⟩
      · cases hne
      · cases hne
      · cases heq
        exact .redacted hbody hdecode hinspect
      · cases hne

end Policy

/-! ## §6. The returned response. -/

/-- Whatever a request meets, and for every effective policy: the response it ends with
is local, or one target returned it as its response, after committing to the upstream's
response in one of its turns; and then its body went through the filter, unless the
upstream sent it with a content encoding.  What an abandoned target gave up with is never
returned. -/
theorem returned_body_filtered (tables : CaseTables) (policy : ResponseFilterPolicy)
    (fuel : Nat) (world : World) (req : ForwardRequest) (response : Response)
    (heffective : policy.isEffective = true) (hinspected : world.InspectedBy tables policy)
    (h : (forwardWithPools fuel world req).2 = .response response) :
    response.body.IsLocal ∨
      ∃ before target after, req.routePlan.targets = before ++ target :: after ∧
        (forwardWithPool fuel world req target before.length (!after.isEmpty)
          (if 0 < before.length then 1 else 0)).2 = .response response ∧
        ∃ n upstream, ((world.target before.length).turn n).upstream = .ok upstream ∧
          Committed upstream response ∧
          (Filtered tables policy upstream response.body ∨
            hasNonIdentityContentEncoding upstream.headers = true) := by
  rcases forwardTargets_origin req.routePlan.targets none 0 (fun _ => rfl) h with
    hlocal | ⟨before, target, after, hsplit, hreturned, n, upstream, hmet, hcommitted⟩
  · exact Or.inl hlocal
  · rw [Nat.zero_add] at hreturned hmet
    refine Or.inr ⟨before, target, after, hsplit, hreturned, n, upstream, hmet, hcommitted, ?_⟩
    cases hidentity : hasNonIdentityContentEncoding upstream.headers with
    | true => exact Or.inr rfl
    | false =>
        exact Or.inl (committed_filtered heffective hidentity
          (hinspected before.length n upstream hmet) hcommitted)

/-- Tables without case and without ignorable characters. -/
def caselessTables : CaseTables := ⟨fun ch => [ch], fun _ => false, fun _ => false⟩

/-- One rule, which redacts `b`. -/
def redactB : ResponseFilterPolicy :=
  ⟨true, "[filtered]".toList, [⟨"b", .redact, .literal ['b'] ['b'] true⟩]⟩

/-- An upstream that answers 400 with one byte, which the filter lets pass. -/
def oneByteResponse (headers : List (String × String)) (byte : UInt8) : UpstreamResponse where
  status := 400
  headers := headers
  stream := .upstream []
  guard := .error .incompleteEnvelope
  precommit := none
  limitedBody := .ok [byte]
  bufferedDecision := .unchanged

def oneTargetChannel : PoolState where
  configGeneration := 1
  providerId := "provider"
  accountId := "account"
  credentialSetId := "set"
  providerKind := .openAiCompatible
  apiBase := "https://a.example/v1"
  authHeader := "authorization"
  authPrefix := "Bearer "
  retrySwitchedKeyInSameRequest := false
  maxSameRequestRetries := 0
  routeTargetRetryEnabled := true
  defaultCredentialCooldown := 20
  pool := "set"

/-- Every failure is the client's. -/
def clientErrorClassifier : FailureClassifier where
  classifierId := "classifier"
  classifierVersion := "1"
  classifyFailure _ _ _ := { classifyTransportFailure with
    kind := .clientError
    primaryScope := .requestOnly
    retryable := false }

/-- An upstream that always answers like this. -/
def answeringWorld (upstream : UpstreamResponse) : World where
  target _ := {
    channel := some (oneTargetChannel, clientErrorClassifier)
    turn := fun _ => {
      routeState := .available
      pool := .ofConfig ⟨"a", "set", "https://a.example/v1", [⟨"k", .unknown⟩]⟩
      selectReadings := .at' 0
      candidatesNow := 0
      channelHealthGeneration := 0
      upstream := .ok upstream
      transitionNow := 0
      filterTransitionNow := 0 } }
  connectTimeout := 10
  transformRequestForTarget _ _ _ := ("/v1/chat/completions", [])

def oneTargetRequest : ForwardRequest where
  routePlan := ⟨"r", 1, none, .namedChannel, [⟨none, "a", none, .available⟩]⟩
  method := "POST"
  path := "/v1/chat/completions"
  query := none
  body := []
  clientTokenId := "client"
  requestContext := ⟨.chatCompletions, none, true, false⟩
  selectionReason := .namedChannel
  effectiveDeadline := none

/-- A world whose upstream never gets to the guard is inspected when its buffered body is. -/
theorem answeringWorld_inspected {upstream : UpstreamResponse} {tables : CaseTables}
    {policy : ResponseFilterPolicy} {err : IoError} {body : Bytes}
    (hguard : upstream.guard = .error err) (hbody : upstream.limitedBody = .ok body)
    (hbuffered : inspectResponseFilterBufferedBodyBeforeCommit tables policy upstream.headers
      body = .ok upstream.bufferedDecision) :
    (answeringWorld upstream).InspectedBy tables policy := by
  intro routeAttempt n met hmet
  obtain rfl : upstream = met := by injection hmet
  refine ⟨?_, ?_⟩
  · intro outcome replayed stream heq
    rw [hguard] at heq
    cases heq
  · intro body' heq
    rw [hbody] at heq
    obtain rfl : body = body' := by injection heq
    exact hbuffered

/-- The error body `a` is inspected and returned. -/
theorem returned_body_filtered_plain :
    let world := answeringWorld (oneByteResponse [] 97)
    redactB.isEffective = true ∧ world.InspectedBy caselessTables redactB ∧
      (forwardWithPools 1 world oneTargetRequest).2 = .response ⟨400, .buffered [97]⟩ ∧
      Filtered caselessTables redactB (oneByteResponse [] 97) (.buffered [97]) := by
  intro world
  have hinspected : world.InspectedBy caselessTables redactB :=
    answeringWorld_inspected rfl rfl rfl
  have hend : (forwardWithPools 1 world oneTargetRequest).2 = .response ⟨400, .buffered [97]⟩ :=
    rfl
  refine ⟨by decide, hinspected, hend, ?_⟩
  rcases returned_body_filtered caselessTables redactB 1 world oneTargetRequest _ (by decide)
    hinspected hend with
    hlocal | ⟨before, target, after, -, -, n, upstream, hmet, -, hfiltered⟩
  · cases hlocal
  · obtain rfl : oneByteResponse [] 97 = upstream := by injection hmet
    rcases hfiltered with hfiltered | hencoded
    · exact hfiltered
    · exact absurd hencoded (by decide)

/-- The byte `b` under a `content-encoding` header goes past the rule that redacts it.  The
policy is effective and in force; the client gets the byte, and not what the rules make of it. -/
theorem encoded_body_unfiltered :
    let world := answeringWorld (oneByteResponse [("content-encoding", "gzip")] 98)
    redactB.isEffective = true ∧ world.InspectedBy caselessTables redactB ∧
      (forwardWithPools 1 world oneTargetRequest).2 = .response ⟨400, .buffered [98]⟩ ∧
      ¬ (ResponseBody.buffered [98]).IsLocal ∧
      ∀ routeAttempt n upstream, ((world.target routeAttempt).turn n).upstream = .ok upstream →
        ¬ Filtered caselessTables redactB upstream (.buffered [98]) := by
  intro world
  refine ⟨by decide, answeringWorld_inspected rfl rfl rfl, rfl, fun h => h, ?_⟩
  intro routeAttempt n upstream _ hfiltered
  -- the byte is a text, and the rules rewrite that text
  have hdecode : Utf8.decode [98] = some ['b'] := by decide
  have hverdict : redactB.inspectTextWithRequiredMissing caselessTables ['b'] false =
      .ok (.redacted "[filtered]".toList [⟨"b", .redact, "rule_matched"⟩]) := by decide
  cases hfiltered with
  | unchanged _ htext hunchanged =>
      rw [hdecode] at htext
      obtain rfl : ['b'] = _ := by injection htext
      rw [hverdict] at hunchanged
      cases hunchanged
  | notText _ htext =>
      rw [hdecode] at htext
      cases htext

end OneAiKey
