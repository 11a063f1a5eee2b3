/-
  OneAiKey.Proxy — a client request from its admission to the forwarding
  (`proxy_openai_compatible` and `proxy_named_pool` of `src/proxy.rs`).

  The routed handler finds the targets of a request by its model, the named one
  goes to the channel in the request's path.  What a handler reads of the state,
  it reads piece by piece; `ProxyReads` holds each piece as it is found.

  Telemetry is left out.
-/
import OneAiKey.Auth
import OneAiKey.Forward.Sends
import OneAiKey.Provider.Request
import OneAiKey.Registry

namespace OneAiKey

/-! ## §1. Requests and reads. -/

/-- A request as it arrives, as much of it as the proxy reads. -/
structure InboundRequest where
  method : String
  path : String
  query : Option String
  /-- The header, if it is text. -/
  authorization : Option String
  /-- The header, if it is a number. -/
  contentLength : Option Nat
  /-- The chunks of the body, or how the connection fails. -/
  body : List (Except String Bytes)

/-- What does not change while the process runs. -/
structure ProxyEnvironment where
  /-- `hash_token`. -/
  hashToken : String → String
  codec : JsonCodec
  maxRequestBodyBytes : Nat
  maxRouteCandidates : Nat
  nonStreamingTotal : Duration
  connectTimeout : Duration

/-- What a handler finds at each of its reads, in their order. -/
structure ProxyReads where
  clientTokens : List ResolvedClientToken
  requestId : String
  /-- Where the plan is made. -/
  planRegistry : ChannelRegistrySnapshot
  observation : RouteObservation
  /-- Where the named handler finds the adapter. -/
  adapterRegistry : ChannelRegistrySnapshot
  /-- Where the named handler looks for claimed upstream models. -/
  claimRegistry : ChannelRegistrySnapshot
  /-- Where the model scope is checked. -/
  catalogs : RuntimeCatalogSnapshot
  now : Instant
  /-- What forwarding meets. -/
  target : Nat → TargetWorld

/-- `axum::body::to_bytes`. -/
def toBytes (limit : Nat) : List (Except String Bytes) → Except String Bytes
  | [] => .ok []
  | .error err :: _ => .error err
  | .ok chunk :: body =>
      if limit < chunk.length then .error "length limit exceeded"
      else (toBytes (limit - chunk.length) body).map (chunk ++ ·)

/-- `bounded_request_body_stream`: the bytes before its first error, behind `sent` others. -/
def boundedRequestBody (limit sent : Nat) : List (Except String Bytes) → Bytes
  | [] => []
  | .error _ :: _ => []
  | .ok chunk :: body =>
      if limit < saturatingAdd sent chunk.length then []
      else chunk ++ boundedRequestBody limit (saturatingAdd sent chunk.length) body

/-- How a handler ends. -/
inductive ProxyEnd where
  /-- The list of public models, for this scope. -/
  | modelCatalog (allowedModelGroups allowedChannels : List String)
  | ended (result : ForwardResult)

abbrev ProxyEnd.answered (response : Response) : ProxyEnd := .ended (.response response)

/-- `effective_deadline_for_request`; `none` is the panic of an overflow. -/
def effectiveDeadlineForRequest (streaming : Bool) (nonStreamingTotal : Duration)
    (now : Instant) : Option (Option Instant) :=
  if streaming then some none else (now.add nonStreamingTotal).map some

/-! ## §2. The plan. -/

/-- The reasons as answers spell them. -/
def RoutePreviewReason.asStr : RoutePreviewReason → String
  | targetDisabled => "target_disabled"
  | clientChannelScope => "client_channel_scope"
  | channelDisabled => "channel_disabled"
  | channelCoolingDown => "channel_cooling_down"
  | providerCoolingDown => "provider_cooling_down"
  | credentialCoolingDown => "credential_cooling_down"
  | noAvailableCredentials => "no_available_credentials"
  | runtimeUnavailable => "runtime_unavailable"
  | channelDegraded => "channel_degraded"
  | degradedLastResort => "degraded_last_resort"
  | providerCoolingDownLastResort => "provider_cooling_down_last_resort"
  | credentialCoolingDownLastResort => "credential_cooling_down_last_resort"
  | unknownChannel => "unknown_channel"
  | candidateLimit => "candidate_limit"

/-- A target with such a reason does not count when one asks if all are cooling down. -/
def routePreviewReasonExcludesCandidateFromCoolingDenominator : RoutePreviewReason → Bool
  | .targetDisabled | .clientChannelScope | .channelDisabled | .unknownChannel
  | .candidateLimit => true
  | _ => false

/-- The candidates that a denial speaks about. -/
def relevantRouteCandidates (preview : RoutePreview) : List RoutePreviewCandidate :=
  preview.candidates.filter fun candidate =>
    !candidate.reasons.any routePreviewReasonExcludesCandidateFromCoolingDenominator

/-- Is there a target that counts, and are all of those cooling down? -/
def allRelevantRouteCandidatesAreCoolingDown (preview : RoutePreview) : Bool :=
  !(relevantRouteCandidates preview).isEmpty &&
    (relevantRouteCandidates preview).all (·.reasons.contains .channelCoolingDown)

/-- The reasons of the targets that count, sorted and each once. -/
def relevantRouteCandidateReasonCodes (preview : RoutePreview) : List String :=
  (((relevantRouteCandidates preview).flatMap fun candidate =>
    candidate.reasons.map (·.asStr)).insertionSort (· ≤ ·)).dedup

namespace FrozenRoutePlan

/-- The plan of one channel that no route chose. -/
def single (selectionReason : SelectionReason) (requestId : String) (registryGeneration : Nat)
    (channelId : String) (routeState : ChannelRouteState) : FrozenRoutePlan where
  requestId := requestId
  registryGeneration := registryGeneration
  publicModel := none
  selectionReason := selectionReason
  targets := [⟨none, channelId, none, routeState⟩]

/-- The plan with the default channel alone. -/
def singleDefault : String → Nat → String → ChannelRouteState → FrozenRoutePlan :=
  single .defaultPool

/-- The plan with the named channel alone. -/
def singleNamed : String → Nat → String → ChannelRouteState → FrozenRoutePlan :=
  single .namedChannel

/-- A plan as forwarding keeps it, with the states of the channels. -/
def fromPlan (plan : RoutePlan) (channelStates : ChannelId → Option ChannelRouteState) :
    FrozenRoutePlan where
  requestId := plan.requestId
  registryGeneration := plan.registryGeneration
  publicModel := plan.publicModel
  selectionReason := .modelMapping
  targets := plan.targets.map fun target =>
    ⟨some target.targetIndex, target.channelId, target.upstreamModel,
      (channelStates target.channelId).getD .unknownChannel⟩

end FrozenRoutePlan

/-- `route_plan_for_openai_request`. -/
def routePlanForOpenaiRequest (maxRouteCandidates : Nat) (requestId : String)
    (model : Option String) (allowedChannels : List String)
    (routeContext : ChannelRoutePlanContext) : Except Response FrozenRoutePlan :=
  match routeContext.modelRoute with
  | some route =>
      let input : RoutePreviewInput := {
        requestId := requestId
        registryGeneration := routeContext.registryGeneration
        publicModel := model
        route := some route
        channelStates := routeContext.modelRouteChannelStates
        allowedChannels := allowedChannels
        candidateLimit := maxRouteCandidates }
      match planRoute input with
      | .ok plan => .ok (.fromPlan plan routeContext.modelRouteChannelStates)
      | .error _ =>
          let preview := previewRoute input
          if allRelevantRouteCandidatesAreCoolingDown preview then
            .error (noRouteCandidateResponse ["channel_cooling_down"])
          else if !(relevantRouteCandidateReasonCodes preview).isEmpty then
            .error (noRouteCandidateResponse (relevantRouteCandidateReasonCodes preview))
          else .ok ⟨requestId, routeContext.registryGeneration, model, .modelMapping, []⟩
  | none =>
      match routeContext.defaultChannel with
      | none => .error (jsonError 400 "no matching pool")
      | some poolName =>
          if !allowedChannels.isEmpty && !allowedChannels.any (· == poolName) then
            .error (jsonError 400 "no matching pool")
          else
            let routeState := routeContext.defaultChannelRouteState.getD .unknownChannel
            match routeStateUnavailableResponse poolName routeState with
            | some response => .error response
            | none =>
                .ok (.singleDefault requestId routeContext.registryGeneration poolName routeState)

/-! ## §3. The routed handler. -/

section Handlers

variable (environment : ProxyEnvironment) (reads : ProxyReads) (request : InboundRequest)

/-- The world of the forwarding. -/
def ProxyEnvironment.world (target : Nat → TargetWorld) : World where
  target := target
  connectTimeout := environment.connectTimeout
  transformRequestForTarget kind req upstreamModel :=
    let parts := kind.transformRequestForTarget environment.codec req.method req.path req.body
      upstreamModel
    (parts.path, parts.body)

/-- `authorize_client`, and the answer if the client is not known. -/
def authorizedClient : Except ProxyEnd AuthorizedClient :=
  match authorizeClient environment.hashToken reads.clientTokens request.authorization with
  | some client => .ok client
  | none => .error (.answered (jsonError 401 "invalid router api key"))

/-- The whole body. -/
def readBody : Except ProxyEnd Bytes :=
  match toBytes environment.maxRequestBodyBytes request.body with
  | .ok body => .ok body
  | .error err =>
      .error (.answered (jsonError 413 ("request body exceeded limit or is invalid: " ++ err)))

/-- The body of a routed request; the list of models is answered without it. -/
def openaiBody (client : AuthorizedClient) : Except ProxyEnd Bytes :=
  if openaiEndpoint request.method request.path = .models then
    .error (.modelCatalog client.allowedModelGroups client.allowedChannels)
  else readBody environment request

/-- A restricted token needs a model that it may use. -/
def checkRoutedModelScope (client : AuthorizedClient) (model : Option String) :
    Except ProxyEnd Unit :=
  if client.allowedModelGroups.isEmpty then .ok ()
  else if model.any (reads.catalogs.clientModelAllowed client.allowedModelGroups) then .ok ()
  else .error (.answered (jsonError 403 "model not allowed for client token"))

/-- The deadline, or the panic of an overflow. -/
def requestDeadline (streaming : Bool) : Except ProxyEnd (Option Instant) :=
  match effectiveDeadlineForRequest streaming environment.nonStreamingTotal reads.now with
  | some deadline => .ok deadline
  | none => .error (.ended .panicked)

/-- The plan of a routed request. -/
def routedPlan (client : AuthorizedClient) (model : Option String) :
    Except ProxyEnd FrozenRoutePlan :=
  let routeContext := reads.planRegistry.routePlanContext reads.observation model
  if model.isSome && routeContext.modelRoute.isNone
      && routeContext.hasClaimedUpstreamModel client.allowedChannels then
    .error (.answered (jsonError 403 "model must be requested through its public route"))
  else
    match routePlanForOpenaiRequest environment.maxRouteCandidates reads.requestId model
        client.allowedChannels routeContext with
    | .error response => .error (.answered response)
    | .ok routePlan =>
        if routePlan.targets.isEmpty then .error (.answered (jsonError 400 "no matching pool"))
        else .ok routePlan

/-- `proxy_openai_compatible` up to the forwarding. -/
def openaiForwardRequest : Except ProxyEnd ForwardRequest := do
  let client ← authorizedClient environment reads request
  let body ← openaiBody environment request client
  let context := openaiRequestContext environment.codec request.method request.path body
  let routePlan ← routedPlan environment reads client context.requestedModel
  checkRoutedModelScope reads client context.requestedModel
  let effectiveDeadline ← requestDeadline environment reads context.streaming
  return {
    routePlan := routePlan
    method := request.method
    path := request.path
    query := request.query
    body := body
    clientTokenId := client.id
    requestContext := context
    selectionReason := routePlan.selectionReason
    effectiveDeadline := effectiveDeadline }

/-- The forwarding of an admitted request. -/
def forwardAdmitted (fuel : Nat) :
    Except ProxyEnd ForwardRequest → List ForwardEvent × ProxyEnd
  | .error proxyEnd => ([], proxyEnd)
  | .ok req =>
      let out := forwardWithPools fuel (environment.world reads.target) req
      (out.1, .ended out.2)

def proxyOpenaiCompatible (fuel : Nat) : List ForwardEvent × ProxyEnd :=
  forwardAdmitted environment reads fuel (openaiForwardRequest environment reads request)

/-! ## §4. The named handler, on a channel that can be sent to again. -/

/-- A channel outside the scope of the client is refused. -/
def checkNamedChannelScope (client : AuthorizedClient) (poolName : String) :
    Except ProxyEnd Unit :=
  if !client.allowedChannels.isEmpty && !client.allowedChannels.any (· == poolName) then
    .error (.answered (jsonError 403 "channel not allowed for client token"))
  else .ok ()

/-- The plan of a named request, and the adapter of its channel. -/
def namedPlan (poolName : String) : Except ProxyEnd (FrozenRoutePlan × ProviderKind) :=
  let routeContext := reads.planRegistry.namedRoutePlanContext reads.observation poolName
  match reads.adapterRegistry.get poolName with
  | none => .error (.answered (jsonError 400 ("unknown pool " ++ poolName)))
  | some channel =>
      match routeStateUnavailableResponse poolName routeContext.2 with
      | some response => .error (.answered response)
      | none =>
          .ok (.singleNamed reads.requestId routeContext.1 poolName routeContext.2,
            channel.poolState.providerKind)

/-- The checks of a model, which are made only if the adapter finds one. -/
def checkNamedModel (client : AuthorizedClient) (poolName : String) :
    Option String → Except ProxyEnd Unit
  | none => .ok ()
  | some model =>
      if reads.claimRegistry.hasClaimedUpstreamModel model [poolName] then
        .error (.answered (jsonError 403 "model must be requested through its public route"))
      else if !client.allowedModelGroups.isEmpty
          && !reads.catalogs.clientModelAllowed client.allowedModelGroups model then
        .error (.answered (jsonError 403 "model not allowed for client token"))
      else .ok ()

/-- The replayable branch of `proxy_named_pool` up to the forwarding. -/
def namedForwardRequest (kind : ProviderKind) (client : AuthorizedClient) (poolName : String)
    (routePlan : FrozenRoutePlan) (path : String) : Except ProxyEnd ForwardRequest := do
  let body ← readBody environment request
  let context := kind.requestContext environment.codec request.method path body
  checkNamedModel reads client poolName context.requestedModel
  let effectiveDeadline ← requestDeadline environment reads context.streaming
  return {
    routePlan := routePlan
    method := request.method
    path := path
    query := request.query
    body := body
    clientTokenId := client.id
    requestContext := context
    selectionReason := .namedChannel
    effectiveDeadline := effectiveDeadline }

/-! ## §5. The named handler, on a channel whose requests pass through. -/

/-- A request whose body is passed on as it arrives. -/
structure StreamingForwardRequest where
  routePlan : FrozenRoutePlan
  method : String
  path : String
  query : Option String
  contentLength : Option Nat
  body : List (Except String Bytes)
  clientTokenId : String
  requestContext : RequestContext

/-- The streaming branch of `proxy_named_pool`; the adapter sees no body. -/
def streamingForwardRequest (kind : ProviderKind) (client : AuthorizedClient)
    (routePlan : FrozenRoutePlan) (path : String) : StreamingForwardRequest where
  routePlan := routePlan
  method := request.method
  path := path
  query := request.query
  contentLength := request.contentLength
  body := request.body
  clientTokenId := client.id
  requestContext := kind.requestContext environment.codec request.method path []

/-- The snapshot of the one attempt of a streamed request. -/
def streamingSnapshot (req : StreamingForwardRequest) (target : ForwardTarget)
    (poolState : PoolState) (classifier : FailureClassifier) (turn : TurnWorld)
    (selected : SelectedKey) : RequestSelectionSnapshot where
  requestId := req.routePlan.requestId
  configGeneration := poolState.configGeneration
  channelHealthGeneration := turn.channelHealthGeneration
  clientTokenId := req.clientTokenId
  requestedModel := req.requestContext.requestedModel
  endpoint := req.requestContext.endpoint
  routeTargetIndex := target.routeTargetIndex
  channelId := target.channelId
  providerId := poolState.providerId
  accountId := poolState.accountId
  providerKind := poolState.providerKind
  credentialId := selected.credentialId
  credentialFingerprint := selected.credentialFingerprint
  classifierId := classifier.classifierId
  classifierVersion := classifier.classifierVersion
  retryCandidates := []
  -- a streamed body can be sent once, so none of the fields allows a retry
  bodyReplayable := false
  streaming := false
  partialOutputStarted := false
  routeTargetAvailable := false
  effectiveDeadline := none
  attempt := 0
  selectionReason := .namedChannel

/-- The end of a turn as the end of a request that goes to one target only. -/
def TurnEnd.forwardResult : TurnEnd → ForwardResult
  | done (.response response) => .response response
  | done (.routeFallback response) => .response response
  | done .panicked => .panicked
  | done .outOfFuel => .outOfFuel
  | again _ => .outOfFuel

/-- What follows the send of a streamed request: a failure is reported, its directive is not
followed. -/
def afterStreamingSend (world : World) (poolState : PoolState) (classifier : FailureClassifier)
    (turn : TurnWorld) (snapshot : RequestSelectionSnapshot) : ForwardResult :=
  -- a failure is reported before the response is returned
  let observed (failure : ClassifiedFailure) (failureSource : FailureSource)
      (result : ForwardResult) : ForwardResult :=
    match transitionObservedFailure world poolState snapshot failure failureSource
        turn.transitionNow with
    | none => .panicked
    | some _ => result
  match turn.upstream with
  | .error err =>
      observed classifyTransportFailure .localTransport
        (.response (jsonError 502 ("upstream error: " ++ err)))
  | .ok upstream =>
      if 200 ≤ upstream.status ∧ upstream.status ≤ 299 then
        -- a success without a body is not inspected
        if !shouldGuardSuccessStatus upstream.status then
          .response ⟨upstream.status, .filteredStream upstream.stream⟩
        else
          match upstream.guard with
          | .ok (.classified failure) =>
              observed failure .guardedSuccessEnvelope (.response guardedSuccessEnvelopeResponse)
          | .ok (.passThrough _ replayed stream) =>
              match upstream.precommit with
              | some rejection =>
                  (filterRejectionEnd world poolState turn snapshot rejection 200).forwardResult
              | none =>
                  .response ⟨upstream.status, .filteredStream (prefixedBodyStream replayed stream)⟩
          | .error err =>
              observed classifyTransportFailure .localTransport
                (.response (jsonError 502 ("upstream body error: " ++ err.text)))
      else
        -- an error is classified by its body, as far as that could be read
        match upstream.limitedBody with
        | .error err =>
            observed (classifier.classifyFailure upstream.status upstream.headers [])
              .upstreamTransaction (.response (jsonError 502 ("upstream body error: " ++ err)))
        | .ok bytes =>
            observed (classifier.classifyFailure upstream.status upstream.headers bytes)
              .upstreamTransaction
              (match upstream.bufferedDecision with
                | .unchanged => .response ⟨upstream.status, .buffered bytes⟩
                | .redacted redacted => .response ⟨upstream.status, .redacted redacted⟩
                | .rejected rejection =>
                    (filterRejectionEnd world poolState turn snapshot rejection
                      upstream.status).forwardResult)

/-- The attempt of a streamed request on the channel it found. -/
def streamingAttempt (world : World) (req : StreamingForwardRequest) (target : ForwardTarget)
    (poolState : PoolState) (classifier : FailureClassifier) (turn : TurnWorld) :
    List ForwardEvent × ForwardResult :=
  let routeState := target.routeState.mostRestrictive turn.routeState
  match routeStateUnavailableResponse target.channelId routeState with
  | some response => ([], .response response)
  | none =>
      match selectForTurn turn routeState none with
      | (_, .error .indexOutOfBounds) => ([], .panicked)
      | (_, .error (.error message)) =>
          ([], .response (credentialPoolExhaustedResponse message))
      | (_, .ok selected) =>
          let snapshot := streamingSnapshot req target poolState classifier turn selected
          let upstream := forwardUpstreamRequest poolState selected req.path (req.query.getD "")
          ([.sent snapshot upstream
              (boundedRequestBody environment.maxRequestBodyBytes 0 req.body)],
            afterStreamingSend world poolState classifier turn snapshot)

/-- `forward_streaming_named_pool`. -/
def forwardStreamingNamedPool (req : StreamingForwardRequest) :
    List ForwardEvent × ForwardResult :=
  match req.routePlan.targets with
  | [] => ([], .response (jsonError 400 "no matching pool"))
  | target :: _ =>
      match (reads.target 0).channel with
      | none => ([], .response (jsonError 400 ("unknown pool " ++ target.channelId)))
      | some (poolState, classifier) =>
          if req.contentLength.any fun length => environment.maxRequestBodyBytes < length then
            ([], .response (jsonError 413 ("request body exceeded limit of "
              ++ toString environment.maxRequestBodyBytes ++ " bytes")))
          else
            streamingAttempt environment (environment.world reads.target) req target poolState
              classifier ((reads.target 0).turn 0)

/-- `proxy_named_pool` up to the choice of the branch; the path is what stands behind the
channel's name. -/
def namedAdmission (poolName : String) :
    Except ProxyEnd (AuthorizedClient × FrozenRoutePlan × ProviderKind) := do
  let client ← authorizedClient environment reads request
  checkNamedChannelScope client poolName
  let plan ← namedPlan reads poolName
  return (client, plan)

/-- A request that names its channel. -/
def proxyNamedPool (poolName tail : String) (fuel : Nat) : List ForwardEvent × ProxyEnd :=
  let path := "/" ++ tail
  match namedAdmission environment reads request poolName with
  | .error proxyEnd => ([], proxyEnd)
  | .ok (client, routePlan, kind) =>
      match kind.namedPoolRequestMode with
      | .replayableWithModelContext =>
          forwardAdmitted environment reads fuel
            (namedForwardRequest environment reads request kind client poolName routePlan path)
      | .streamingPassThrough =>
          let out := forwardStreamingNamedPool environment reads
            (streamingForwardRequest environment request kind client routePlan path)
          (out.1, .ended out.2)

end Handlers

end OneAiKey
