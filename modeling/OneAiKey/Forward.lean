/-
  OneAiKey.Forward — one client request on its way through the targets of its
  plan (`forward_with_pools` and `forward_with_pool` of `src/proxy.rs`).

  The outer loop goes through the targets, the inner one makes attempts on one
  target.  What the code meets on the way is a `World`: for each target the
  channel found in the registry, and for each turn of the inner loop the state
  of the shared pool (anyone may have changed it since the last turn), the clock
  readings, what the upstream does and what the response filter says.

  A run gives its trace beside its end: the sends, the directives obtained
  after a failure, and the targets given up without a send.  The inner loop has
  no bound in the source; here it runs on fuel and can end as `outOfFuel`.
-/
import OneAiKey.RoutePlan
import OneAiKey.SuccessGuard
import OneAiKey.Upstream

namespace OneAiKey

/-! ## §1. Requests and responses. -/

/-- What planning and retrying look at in a request. -/
structure RequestContext where
  endpoint : EndpointKind
  requestedModel : Option String
  bodyReplayable : Bool
  streaming : Bool
  deriving DecidableEq, Repr

/-- A target of a plan with the state that its channel had when planned. -/
structure ForwardTarget where
  routeTargetIndex : Option Nat
  channelId : String
  upstreamModel : Option String
  routeState : ChannelRouteState
  deriving DecidableEq, Repr

/-- The plan of a request, which nothing changes any more. -/
structure FrozenRoutePlan where
  requestId : String
  registryGeneration : Nat
  publicModel : Option String
  selectionReason : SelectionReason
  targets : List ForwardTarget
  deriving DecidableEq, Repr

/-- A request with its plan. -/
structure ForwardRequest where
  routePlan : FrozenRoutePlan
  method : String
  path : String
  query : Option String
  body : Bytes
  clientTokenId : String
  requestContext : RequestContext
  selectionReason : SelectionReason
  effectiveDeadline : Option Instant
  deriving DecidableEq, Repr

/-- Where the body of a response comes from. -/
inductive ResponseBody where
  /-- Made by the gateway. -/
  | routerError (code message : String) (reasons : List String)
  /-- The upstream's body, streamed through the response filter. -/
  | filteredStream (stream : ByteStream)
  /-- The upstream's body, as the response filter rewrote it. -/
  | redacted (bytes : Bytes)
  /-- The upstream's body, as it was read. -/
  | buffered (bytes : Bytes)

/-- What the client gets. -/
structure Response where
  status : Nat
  body : ResponseBody

/-- An answer of the router itself. -/
def jsonErrorWithCode (status : Nat) (code message : String) : Response :=
  ⟨status, .routerError code message []⟩

/-- An error of the router under its general code. -/
def jsonError (status : Nat) (message : String) : Response :=
  jsonErrorWithCode status "key_pool_router_error" message

/-- The answer if there is no credential to send. -/
def credentialPoolExhaustedResponse (message : String) : Response :=
  jsonErrorWithCode 503 "credential_pool_exhausted" message

/-- The answer if there is no channel to send to, with the reasons. -/
def noRouteCandidateResponse (reasonClasses : List String) : Response :=
  ⟨503, .routerError "no_route_candidate" "no route candidate" reasonClasses⟩

/-- The answer to a success that carries an error. -/
def guardedSuccessEnvelopeResponse : Response :=
  jsonErrorWithCode 502 "guarded_success_envelope"
    "upstream returned a structured error envelope with success status"

/-- The answer to a body that the filter rejects before any of it is sent. -/
def responseFilterPrecommitRejectedResponse : Response :=
  jsonErrorWithCode 502 "response_filter_rejected"
    "upstream response content was blocked by response filter"

/-! ## §2. Admission of a target. -/

/-- The states by how far a channel is from serving. -/
def routeStateSeverity : ChannelRouteState → Nat
  | .available => 0
  | .degraded => 1
  | .providerCoolingDown => 2
  | .credentialCoolingDown => 3
  | .runtimeUnavailable => 4
  | .coolingDown => 5
  | .noAvailableCredentials => 6
  | .disabled => 7
  | .unknownChannel => 8

/-- The worse of two states. -/
def ChannelRouteState.mostRestrictive (state other : ChannelRouteState) : ChannelRouteState :=
  if routeStateSeverity state < routeStateSeverity other then other else state

/-- The answer for a channel that cannot be used in this state. -/
def routeStateUnavailableResponse (channelId : String) : ChannelRouteState → Option Response
  | .coolingDown => some (noRouteCandidateResponse ["channel_cooling_down"])
  | .available | .degraded | .providerCoolingDown | .credentialCoolingDown => none
  | .disabled =>
      some (jsonErrorWithCode 503 "channel_disabled" ("channel " ++ channelId ++ " is disabled"))
  | .noAvailableCredentials =>
      some (jsonErrorWithCode 503 "credential_pool_exhausted"
        ("credential pool for channel " ++ channelId ++ " has no available credentials"))
  | .runtimeUnavailable =>
      some (jsonErrorWithCode 503 "channel_runtime_unavailable"
        ("channel " ++ channelId ++ " runtime state is temporarily unavailable"))
  | .unknownChannel =>
      some (jsonErrorWithCode 400 "unknown_channel" ("unknown channel " ++ channelId))

/-- A target that has become soft-suppressed since the plan was made is given up, if
there is another one. -/
def routeStateUnavailableResponseForAttempt (channelId : String)
    (state frozenState : ChannelRouteState) (routeTargetAvailable : Bool) : Option Response :=
  if state = .providerCoolingDown ∧ frozenState ≠ .providerCoolingDown
      ∧ routeTargetAvailable = true then
    some (noRouteCandidateResponse ["provider_cooling_down"])
  else if state = .credentialCoolingDown ∧ frozenState ≠ .credentialCoolingDown
      ∧ routeTargetAvailable = true then
    some (noRouteCandidateResponse ["credential_cooling_down"])
  else routeStateUnavailableResponse channelId state

/-! ## §3. The world of a request. -/

/-- A rejection by the response filter: the rule whose action has a lifecycle scope, if
one of the matched rules has. -/
abbrev FilterRejection := Option (String × FailureScope)

/-- The verdict of the response filter on a buffered body. -/
inductive BufferedBodyDecision where
  | unchanged
  | redacted (bytes : Bytes)
  | rejected (rejection : FilterRejection)

/-- A response of the upstream, and what its examination gives. -/
structure UpstreamResponse where
  status : Nat
  headers : List (String × String)
  /-- The body, for the statuses that are not guarded. -/
  stream : ByteStream
  /-- What `guard_success_response` finds. -/
  guard : Except IoError GuardResult
  /-- What the response filter says about the guarded prefix. -/
  precommit : Option FilterRejection
  /-- What `read_limited_body` reads. -/
  limitedBody : Except String Bytes
  /-- What the response filter says about the buffered body. -/
  bufferedDecision : BufferedBodyDecision

/-- What one turn of the inner loop meets. -/
structure TurnWorld where
  routeState : ChannelRouteState
  pool : KeyPool
  selectReadings : Readings
  candidatesNow : Instant
  channelHealthGeneration : Nat
  upstream : Except String UpstreamResponse
  transitionNow : Instant
  filterTransitionNow : Instant

/-- What one target meets: the channel that the registry has under its id, and the
turns of the inner loop by their number. -/
structure TargetWorld where
  channel : Option (PoolState × FailureClassifier)
  turn : Nat → TurnWorld

/-- What a request meets: its targets by their number, and the timeout and the request
transformation of the gateway. -/
structure World where
  target : Nat → TargetWorld
  connectTimeout : Duration
  transformRequestForTarget : ProviderKind → ForwardRequest → Option String → String × Bytes

/-! ## §4. Traces and ends. -/

/-- What can be seen of a forwarding. -/
inductive ForwardEvent where
  /-- A request to the upstream. -/
  | sent (snapshot : RequestSelectionSnapshot) (upstream : UpstreamRequest) (body : Bytes)
  /-- The directive that followed a failure. -/
  | directed (directive : RetryDirective)
  /-- A turn that gave its target up without a send. -/
  | skipped (channelId : String)
  deriving DecidableEq, Repr

/-- How the work on a target ends. -/
inductive PoolForwardResult where
  | response (response : Response)
  | routeFallback (response : Response)
  /-- A panic: an index out of range, or a deadline that does not fit the clock. -/
  | panicked
  | outOfFuel

/-- The variables of the inner loop. -/
structure AttemptState where
  attempt : Nat
  retryCredentialId : Option CredentialId
  frozenRetryCandidates : Option FrozenRetryCandidates
  deriving DecidableEq, Repr

/-- How one turn ends: the work on the target is done, or goes on. -/
inductive TurnEnd where
  | done (result : PoolForwardResult)
  | again (state : AttemptState)

/-! ## §5. One turn of the inner loop. -/

section Turn

variable (world : World) (req : ForwardRequest) (target : ForwardTarget) (poolState : PoolState)
  (classifier : FailureClassifier) (routeTargetAvailable : Bool) (turn : TurnWorld)

/-- The retry settings of the channel. -/
def routingPolicyForPool : RoutingPolicy where
  retrySwitchedKeyInSameRequest := poolState.retrySwitchedKeyInSameRequest
  maxSameRequestRetries := poolState.maxSameRequestRetries
  routeTargetRetryEnabled := poolState.routeTargetRetryEnabled
  defaultCredentialCooldown := poolState.defaultCredentialCooldown

/-- The credential of a turn: the one a retry named, the last resort of a cooling
channel, or the next available one. -/
def selectForTurn (routeState : ChannelRouteState) (retryCredentialId : Option CredentialId) :
    KeyPool × Except PoolFailure SelectedKey :=
  match retryCredentialId with
  | some credentialId =>
      turn.pool.selectCredentialById credentialId turn.selectReadings.first
  | none =>
      if routeState = .credentialCoolingDown then
        turn.pool.selectCoolingDownLastResort turn.selectReadings
      else turn.pool.select turn.selectReadings.first

/-- The frozen candidates, taken from the pool at the first selection. -/
def freezeRetryCandidates (pool : KeyPool) (frozen : Option FrozenRetryCandidates) :
    FrozenRetryCandidates :=
  match frozen with
  | some frozen => frozen
  | none =>
      if 0 < poolState.maxSameRequestRetries then
        .new ((pool.retryCandidatesFromCurrent poolState.maxSameRequestRetries
          turn.candidatesNow).2.map (·.credentialId))
      else .new []

/-- What an attempt with the selected key is planned with. -/
def selectionSnapshot (selected : SelectedKey) (retryCandidates : List CredentialId)
    (attempt : Nat) : RequestSelectionSnapshot where
  requestId := req.routePlan.requestId
  configGeneration := poolState.configGeneration
  channelHealthGeneration := turn.channelHealthGeneration
  clientTokenId := req.clientTokenId
  requestedModel := req.requestContext.requestedModel
  endpoint := req.requestContext.endpoint
  routeTargetIndex := target.routeTargetIndex
  channelId := target.channelId
  providerId := poolState.providerId
  accountId := poolState.accountId
  providerKind := poolState.providerKind
  credentialId := selected.credentialId
  credentialFingerprint := selected.credentialFingerprint
  classifierId := classifier.classifierId
  classifierVersion := classifier.classifierVersion
  retryCandidates := retryCandidates
  bodyReplayable := req.requestContext.bodyReplayable
  streaming := req.requestContext.streaming
  -- a retry is decided before anything has been written to the client
  partialOutputStarted := false
  routeTargetAvailable := routeTargetAvailable
  effectiveDeadline := req.effectiveDeadline
  attempt := attempt
  selectionReason := req.selectionReason

/-- `transition_observed_failure`, without its effects on the runtime; `none` is the
panic of a deadline that overflows. -/
def transitionObservedFailure (snapshot : RequestSelectionSnapshot)
    (failure : ClassifiedFailure) (failureSource : FailureSource) (now : Instant) :
    Option RetryDirective :=
  (transitionAfterFailure {
    snapshot := snapshot
    failure := failure
    failureSource := failureSource
    now := now
    nextAttemptBudget := if snapshot.streaming then none else some world.connectTimeout
    policy := routingPolicyForPool poolState }).map (·.retry)

/-- A failure branch: obtain the directive, apply it to the loop's variables, and go on
as the continuation says.  `onReturn` and `onDrift` are the branch's own ends. -/
def failureBranch (snapshot : RequestSelectionSnapshot) (frozen : FrozenRetryCandidates)
    (failure : ClassifiedFailure) (failureSource : FailureSource)
    (fallback : Response) (onReturn onDrift : TurnEnd) : List ForwardEvent × TurnEnd :=
  match transitionObservedFailure world poolState snapshot failure failureSource
      turn.transitionNow with
  | none => ([], .done .panicked)
  | some directive =>
      match applyRetryDirectiveToAttemptState directive (some frozen) snapshot.attempt with
      | (.retrySameTarget, frozen, attempt) =>
          ([.directed directive], .again ⟨attempt, none, frozen⟩)
      | (.retryRouteTarget, _, _) => ([.directed directive], .done (.routeFallback fallback))
      | (.retryCredential credentialId, frozen, attempt) =>
          ([.directed directive], .again ⟨attempt, some credentialId, frozen⟩)
      | (.returnCurrentError _, _, _) => ([.directed directive], onReturn)
      | (.frozenCandidateDrift _, _, _) => ([.directed directive], onDrift)

/-- The end of a turn whose candidate is not the next frozen one. -/
def driftEnd : TurnEnd :=
  .done (.response (jsonError 502 "retry candidate drifted from frozen request selection"))

/-- `response_filter_failure`. -/
def responseFilterFailure (snapshot : RequestSelectionSnapshot) (ruleId : String)
    (scope : FailureScope) (upstreamStatus : Nat) : ClassifiedFailure where
  kind := .responseFilterRejected
  primaryScope := scope
  retryable := true
  cooldown := none
  retryAfterSource := none
  confidence := .high
  upstreamStatus := some upstreamStatus
  upstreamCode := none
  upstreamLimitType := none
  classifierId := snapshot.classifierId
  classifierVersion := snapshot.classifierVersion
  adaptationRuleId := some ruleId

/-- A rejection by the response filter; its directive is not followed. -/
def filterRejectionEnd (snapshot : RequestSelectionSnapshot) (rejection : FilterRejection)
    (upstreamStatus : Nat) : TurnEnd :=
  let response := PoolForwardResult.response responseFilterPrecommitRejectedResponse
  match rejection with
  | none => .done response
  | some (ruleId, scope) =>
      if snapshot.bodyReplayable && !snapshot.streaming && !snapshot.partialOutputStarted then
        match transitionObservedFailure world poolState snapshot
            (responseFilterFailure snapshot ruleId scope upstreamStatus)
            .responseFilterPrecommit turn.filterTransitionNow with
        | none => .done .panicked
        | some _ => .done response
      else .done response

/-- What follows a send. -/
def afterSend (snapshot : RequestSelectionSnapshot) (frozen : FrozenRetryCandidates) :
    List ForwardEvent × TurnEnd :=
  match turn.upstream with
  | .error err =>
      let response := jsonError 502 ("upstream error: " ++ err)
      failureBranch world poolState turn snapshot frozen classifyTransportFailure .localTransport
        response (.done (.response response)) driftEnd
  | .ok upstream =>
      if 200 ≤ upstream.status ∧ upstream.status ≤ 299 then
        if !shouldGuardSuccessStatus upstream.status then
          ([], .done (.response ⟨upstream.status, .filteredStream upstream.stream⟩))
        else
          match upstream.guard with
          | .ok (.classified failure) =>
              let response := guardedSuccessEnvelopeResponse
              failureBranch world poolState turn snapshot frozen failure .guardedSuccessEnvelope
                response (.done (.response response)) driftEnd
          | .ok (.passThrough _ replayed stream) =>
              match upstream.precommit with
              | some rejection =>
                  ([], filterRejectionEnd world poolState turn snapshot rejection 200)
              | none =>
                  ([], .done (.response
                    ⟨upstream.status, .filteredStream (prefixedBodyStream replayed stream)⟩))
          | .error err =>
              let response := jsonError 502 ("upstream body error: " ++ err.text)
              failureBranch world poolState turn snapshot frozen classifyTransportFailure
                .localTransport response (.done (.response response)) driftEnd
      else
        match upstream.limitedBody with
        | .error err =>
            let response := jsonError 502 ("upstream body error: " ++ err)
            failureBranch world poolState turn snapshot frozen
              (classifier.classifyFailure upstream.status upstream.headers [])
              .upstreamTransaction response (.done (.response response)) driftEnd
        | .ok bytes =>
            let response : Response := ⟨upstream.status, .buffered bytes⟩
            -- this branch lets a drifted candidate fall through to the current error
            let current : TurnEnd :=
              match upstream.bufferedDecision with
              | .unchanged => .done (.response response)
              | .redacted redacted =>
                  .done (.response ⟨upstream.status, .redacted redacted⟩)
              | .rejected rejection =>
                  filterRejectionEnd world poolState turn snapshot rejection upstream.status
            failureBranch world poolState turn snapshot frozen
              (classifier.classifyFailure upstream.status upstream.headers bytes)
              .upstreamTransaction response current current

/-- One turn of the inner loop. -/
def forwardTurn (state : AttemptState) : List ForwardEvent × TurnEnd :=
  let routeState := target.routeState.mostRestrictive turn.routeState
  match routeStateUnavailableResponseForAttempt target.channelId routeState target.routeState
      routeTargetAvailable with
  | some response => ([.skipped target.channelId], .done (.routeFallback response))
  | none =>
      match selectForTurn turn routeState state.retryCredentialId with
      -- the source would panic at the index
      | (_, .error .indexOutOfBounds) => ([], .done .panicked)
      | (_, .error (.error message)) =>
          ([.skipped target.channelId],
            .done (.routeFallback (credentialPoolExhaustedResponse message)))
      | (pool, .ok selected) =>
          -- the candidates for a retry are frozen at the first selection
          let frozen := freezeRetryCandidates poolState turn pool state.frozenRetryCandidates
          let snapshot := selectionSnapshot req target poolState classifier routeTargetAvailable
            turn selected frozen.remaining state.attempt
          let outbound := world.transformRequestForTarget poolState.providerKind req
            target.upstreamModel
          let upstream := forwardUpstreamRequest poolState selected outbound.1
            (req.query.getD "")
          let rest := afterSend world poolState classifier turn snapshot frozen
          (.sent snapshot upstream outbound.2 :: rest.1, rest.2)

end Turn

/-! ## §6. The two loops. -/

/-- The inner loop from its `n`-th turn on. -/
def forwardLoop (world : World) (req : ForwardRequest) (target : ForwardTarget)
    (poolState : PoolState) (classifier : FailureClassifier) (routeTargetAvailable : Bool)
    (turn : Nat → TurnWorld) (fuel n : Nat) (state : AttemptState) :
    List ForwardEvent × PoolForwardResult :=
  match fuel with
  | 0 => ([], .outOfFuel)
  | fuel + 1 =>
      match forwardTurn world req target poolState classifier routeTargetAvailable (turn n)
          state with
      | (events, .done result) => (events, result)
      | (events, .again state) =>
          let rest := forwardLoop world req target poolState classifier routeTargetAvailable
            turn fuel (n + 1) state
          (events ++ rest.1, rest.2)

def forwardWithPool (fuel : Nat) (world : World) (req : ForwardRequest) (target : ForwardTarget)
    (routeAttempt : Nat) (routeTargetAvailable : Bool) (initialAttempt : Nat) :
    List ForwardEvent × PoolForwardResult :=
  match (world.target routeAttempt).channel with
  | none => ([], .response (jsonError 400 ("unknown pool " ++ target.channelId)))
  | some (poolState, classifier) =>
      forwardLoop world req target poolState classifier routeTargetAvailable
        (world.target routeAttempt).turn fuel 0 ⟨initialAttempt, none, none⟩

/-- How a request ends. -/
inductive ForwardResult where
  | response (response : Response)
  | panicked
  | outOfFuel

/-- The outer loop, from target number `routeAttempt` on. -/
def forwardTargets (fuel : Nat) (world : World) (req : ForwardRequest)
    (lastResponse : Option Response) (routeAttempt : Nat) :
    List ForwardTarget → List ForwardEvent × ForwardResult
  | [] => ([], .response (lastResponse.getD (jsonError 400 "no matching pool")))
  | target :: targets =>
      let routeTargetAvailable := !targets.isEmpty
      let initialAttempt := if 0 < routeAttempt then 1 else 0
      match forwardWithPool fuel world req target routeAttempt routeTargetAvailable
          initialAttempt with
      | (events, .response response) => (events, .response response)
      | (events, .panicked) => (events, .panicked)
      | (events, .outOfFuel) => (events, .outOfFuel)
      | (events, .routeFallback response) =>
          if routeTargetAvailable then
            let rest := forwardTargets fuel world req (some response) (routeAttempt + 1) targets
            (events ++ rest.1, rest.2)
          else (events, .response response)

/-- The targets of the plan one after the other. -/
def forwardWithPools (fuel : Nat) (world : World) (req : ForwardRequest) :
    List ForwardEvent × ForwardResult :=
  forwardTargets fuel world req none 0 req.routePlan.targets

end OneAiKey
