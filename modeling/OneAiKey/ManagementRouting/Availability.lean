/-
  OneAiKey.ManagementRouting.Availability — why a client can or cannot use an endpoint
  family (`endpoint_family_availability_explain` of `src/management_routing.rs`).

  The checks stand in a row, and the first that fails is the reason.  The route of the
  model is cut down to the targets whose capabilities name the family, and planned as a
  request would be.

  Main results:
    * `routeWithEndpointFamilyTargets_eq` — the loop over the targets counts each once;
    * `endpoint_family_availability_exact` — a client can use a family just when one target
      of the route supports it and is not blocked, and the proxy then forwards requests for
      the model.
-/
import OneAiKey.ManagementRouting.Agreement

namespace OneAiKey

/-! ## §1. Endpoint families. -/

/-- The families of endpoints that a model may be used at. -/
inductive EndpointFamily where
  | chatCompletions
  | responses
  | embeddings
  deriving DecidableEq, Repr

namespace EndpointFamily

/-- A family by its name. -/
def parse (value : String) : Option EndpointFamily :=
  if value = "chat_completions" then some .chatCompletions
  else if value = "responses" then some .responses
  else if value = "embeddings" then some .embeddings
  else none

/-- The name of a family. -/
def asStr : EndpointFamily → String
  | chatCompletions => "chat_completions"
  | responses => "responses"
  | embeddings => "embeddings"

/-- What a channel says about a family. -/
def support (family : EndpointFamily) (capabilities : EndpointCapabilitiesStatus) :
    EndpointSupport :=
  match family with
  | chatCompletions => capabilities.chatCompletions
  | responses => capabilities.responses
  | embeddings => capabilities.embeddings

end EndpointFamily

/-- The capabilities of each channel that has some. -/
abbrev CapabilitiesByChannel := String → Option EndpointCapabilitiesStatus

/-- A route with the targets that support the family, and counts of the others. -/
structure EndpointFamilyRouteTargets where
  route : Option ModelRoute
  hasUnsupportedTarget : Bool
  supportedTargetCount : Nat
  unsupportedTargetCount : Nat
  unknownOrMissingTargetCount : Nat
  deriving DecidableEq, Repr

/-- What the loop over the targets has come to. -/
structure FamilyTargetLoop where
  hasUnsupportedTarget : Bool
  unsupportedTargetCount : Nat
  unknownOrMissingTargetCount : Nat
  targets : List RouteTarget

/-- One turn of the loop over the targets. -/
def familyTargetStep (family : EndpointFamily) (capabilities : CapabilitiesByChannel)
    (loop : FamilyTargetLoop) (target : RouteTarget) : FamilyTargetLoop :=
  match capabilities target.channelId with
  | none => { loop with unknownOrMissingTargetCount := loop.unknownOrMissingTargetCount + 1 }
  | some status =>
      match family.support status with
      | .supported => { loop with targets := loop.targets ++ [target] }
      | .unsupported => { loop with
          hasUnsupportedTarget := true
          unsupportedTargetCount := loop.unsupportedTargetCount + 1 }
      | .unknown =>
          { loop with unknownOrMissingTargetCount := loop.unknownOrMissingTargetCount + 1 }

/-- The route with only the targets that support the family, and the counts. -/
def routeWithEndpointFamilyTargets (route : ModelRoute) (family : EndpointFamily)
    (capabilities : CapabilitiesByChannel) : EndpointFamilyRouteTargets :=
  let loop := route.targets.foldl (familyTargetStep family capabilities) ⟨false, 0, 0, []⟩
  { route :=
      if loop.targets.isEmpty then none
      else some ⟨route.publicModel, loop.targets, route.strategy⟩
    hasUnsupportedTarget := loop.hasUnsupportedTarget
    supportedTargetCount := loop.targets.length
    unsupportedTargetCount := loop.unsupportedTargetCount
    unknownOrMissingTargetCount := loop.unknownOrMissingTargetCount }

/-- What is known of a target and the family. -/
def familySupport (family : EndpointFamily) (capabilities : CapabilitiesByChannel)
    (target : RouteTarget) : EndpointSupport :=
  ((capabilities target.channelId).map family.support).getD .unknown

theorem foldl_familyTargetStep (family : EndpointFamily) (capabilities : CapabilitiesByChannel)
    (targets : List RouteTarget) (loop : FamilyTargetLoop) :
    targets.foldl (familyTargetStep family capabilities) loop = {
      hasUnsupportedTarget := loop.hasUnsupportedTarget ||
        targets.any (familySupport family capabilities · = .unsupported)
      unsupportedTargetCount := loop.unsupportedTargetCount +
        targets.countP (familySupport family capabilities · = .unsupported)
      unknownOrMissingTargetCount := loop.unknownOrMissingTargetCount +
        targets.countP (familySupport family capabilities · = .unknown)
      targets := loop.targets ++
        targets.filter (familySupport family capabilities · = .supported) } := by
  induction targets generalizing loop with
  | nil => simp
  | cons target targets ih =>
      rw [List.foldl_cons, ih]
      -- the step on one target, by what is known of it
      unfold familyTargetStep
      cases hcapabilities : capabilities target.channelId with
      | none =>
          have hsupport : familySupport family capabilities target = .unknown := by
            unfold familySupport
            rw [hcapabilities]
            rfl
          simp [hsupport]
          omega
      | some status =>
          have hsupport : familySupport family capabilities target = family.support status := by
            unfold familySupport
            rw [hcapabilities]
            rfl
          cases hfamily : family.support status with
          | supported => simp [hsupport, hfamily]
          | unsupported =>
              simp [hsupport, hfamily]
              omega
          | unknown =>
              simp [hsupport, hfamily]
              omega

/-- The targets that are left, if there are any. -/
def supportingTargets (route : ModelRoute) (family : EndpointFamily)
    (capabilities : CapabilitiesByChannel) : List RouteTarget :=
  route.targets.filter (familySupport family capabilities · = .supported)

theorem routeWithEndpointFamilyTargets_eq (route : ModelRoute) (family : EndpointFamily)
    (capabilities : CapabilitiesByChannel) :
    routeWithEndpointFamilyTargets route family capabilities = {
      route :=
        if (supportingTargets route family capabilities).isEmpty then none
        else some ⟨route.publicModel, supportingTargets route family capabilities, route.strategy⟩
      hasUnsupportedTarget :=
        route.targets.any (familySupport family capabilities · = .unsupported)
      supportedTargetCount := (supportingTargets route family capabilities).length
      unsupportedTargetCount :=
        route.targets.countP (familySupport family capabilities · = .unsupported)
      unknownOrMissingTargetCount :=
        route.targets.countP (familySupport family capabilities · = .unknown) } := by
  unfold routeWithEndpointFamilyTargets
  rw [foldl_familyTargetStep]
  simp [supportingTargets]

/-- Each target is counted once. -/
theorem familyTargetCounts (route : ModelRoute) (family : EndpointFamily)
    (capabilities : CapabilitiesByChannel) :
    let targets := routeWithEndpointFamilyTargets route family capabilities
    targets.supportedTargetCount + targets.unsupportedTargetCount +
      targets.unknownOrMissingTargetCount = route.targets.length := by
  rw [routeWithEndpointFamilyTargets_eq]
  dsimp only
  unfold supportingTargets
  rw [← List.countP_eq_length_filter]
  induction route.targets with
  | nil => rfl
  | cons target targets ih =>
      rw [List.countP_cons, List.countP_cons, List.countP_cons, List.length_cons]
      cases familySupport family capabilities target <;> simp <;> omega

/-! ## §2. The explanation. -/

/-- What the outcome rests on. -/
structure EndpointFamilyAvailabilityEvidence where
  clientTokenRefSupplied : Bool
  clientTokenKnown : Bool
  clientTokenEnabled : Option Bool
  modelAllowed : Bool
  modelVisible : Bool
  routePresent : Bool
  routeTargetCount : Nat
  endpointFamilyTargetCount : Nat
  unsupportedTargetCount : Nat
  unknownOrMissingTargetCount : Nat
  previewCandidateCount : Nat
  selectedTargetPresent : Bool
  candidateLimit : Nat
  admissionPrimaryReasonCode : Option String
  candidateReasonCodes : List String
  deriving DecidableEq, Repr

/-- Can the client use the model at this family, and if not, why? -/
structure EndpointFamilyAvailabilityOutcome where
  status : String
  canUse : Bool
  blockingDomain : String
  reasonCode : String
  nextAction : String
  deriving DecidableEq, Repr

/-- The answer: the outcome with its evidence. -/
structure EndpointFamilyAvailabilityExplain where
  outcome : EndpointFamilyAvailabilityOutcome
  endpointFamily : String
  routeKind : String
  registryGeneration : Nat
  evidence : EndpointFamilyAvailabilityEvidence
  deriving DecidableEq, Repr

/-- What an outcome is found from. -/
structure EndpointFamilyAvailabilityExplainInput where
  clientTokens : List ResolvedClientToken
  clientTokenRef : Option String
  endpointFamily : String
  publicModel : String
  registryGeneration : Nat
  modelAllowed : Bool
  modelVisible : Bool
  routeKind : String
  route : Option ModelRoute
  channelStates : ChannelId → Option ChannelRouteState
  endpointCapabilities : CapabilitiesByChannel
  candidateLimit : Nat

/-- The loop over the reasons, which ends with the eighth code. -/
def candidateReasonCodesLoop : List String → List RoutePreviewReason → List String
  | reasonCodes, [] => reasonCodes
  | reasonCodes, reason :: reasons =>
      let reasonCodes :=
        if reasonCodes.contains reason.asStr then reasonCodes else reasonCodes ++ [reason.asStr]
      if 8 ≤ reasonCodes.length then reasonCodes else candidateReasonCodesLoop reasonCodes reasons

/-- The reasons of all candidates, each once. -/
def endpointFamilyCandidateReasonCodes (preview : RoutePreview) : List String :=
  candidateReasonCodesLoop [] (preview.candidates.flatMap (·.reasons))

def endpointFamilyAvailabilityEvidence (input : EndpointFamilyAvailabilityExplainInput)
    (client : Option ResolvedClientToken) (familyTargets : Option EndpointFamilyRouteTargets)
    (preview : Option RoutePreview) : EndpointFamilyAvailabilityEvidence where
  clientTokenRefSupplied := input.clientTokenRef.isSome
  clientTokenKnown := client.isSome
  clientTokenEnabled := client.map (·.enabled)
  modelAllowed := input.modelAllowed
  modelVisible := input.modelVisible
  routePresent := input.route.isSome
  routeTargetCount := (input.route.map (·.targets.length)).getD 0
  endpointFamilyTargetCount := (familyTargets.map (·.supportedTargetCount)).getD 0
  unsupportedTargetCount := (familyTargets.map (·.unsupportedTargetCount)).getD 0
  unknownOrMissingTargetCount := (familyTargets.map (·.unknownOrMissingTargetCount)).getD 0
  previewCandidateCount := (preview.map (·.candidates.length)).getD 0
  selectedTargetPresent := (preview.bind (·.selectedTargetIndex)).isSome
  candidateLimit := input.candidateLimit
  admissionPrimaryReasonCode :=
    (preview.map routeAdmissionSummary).map (·.primaryReasonCode)
  candidateReasonCodes := (preview.map endpointFamilyCandidateReasonCodes).getD []

/-- An outcome with its evidence as an answer. -/
def endpointFamilyAvailabilityExplainResult (input : EndpointFamilyAvailabilityExplainInput)
    (outcome : EndpointFamilyAvailabilityOutcome)
    (evidence : EndpointFamilyAvailabilityEvidence) : EndpointFamilyAvailabilityExplain where
  outcome := outcome
  endpointFamily := input.endpointFamily
  routeKind := input.routeKind
  registryGeneration := input.registryGeneration
  evidence := evidence

/-- The outcome of a check that failed. -/
def blockedOutcome (blockingDomain reasonCode nextAction : String) :
    EndpointFamilyAvailabilityOutcome :=
  ⟨"unavailable", false, blockingDomain, reasonCode, nextAction⟩

/-- The client can use the model. -/
def availableOutcome : EndpointFamilyAvailabilityOutcome :=
  ⟨"available", true, "none", "available", "none"⟩

/-- The first token of this id or name, enabled or not. -/
def explainedClient (clientTokens : List ResolvedClientToken) (reference : String) :
    Option ResolvedClientToken :=
  clientTokens.find? fun token => token.id == reference || token.name == reference

/-- What is planned for the targets that support the family. -/
def familyPreviewInput (input : EndpointFamilyAvailabilityExplainInput)
    (client : ResolvedClientToken) (family : EndpointFamily) (familyRoute : ModelRoute) :
    RoutePreviewInput where
  requestId := "endpoint-family-explain:" ++ input.publicModel ++ ":" ++ family.asStr
  registryGeneration := input.registryGeneration
  publicModel := some input.publicModel
  route := some familyRoute
  channelStates := input.channelStates
  allowedChannels := client.allowedChannels
  candidateLimit := input.candidateLimit

/-- The outcome, and what it is made of. -/
def endpointFamilyAvailabilityExplainFromParts (input : EndpointFamilyAvailabilityExplainInput) :
    EndpointFamilyAvailabilityExplain :=
  match input.clientTokenRef with
  | none =>
      endpointFamilyAvailabilityExplainResult input
        (blockedOutcome "client_token" "token_missing" "provide_client_token_ref")
        (endpointFamilyAvailabilityEvidence input none none none)
  | some reference =>
  match explainedClient input.clientTokens reference with
  | none =>
      endpointFamilyAvailabilityExplainResult input
        (blockedOutcome "client_token" "token_unknown" "check_client_token_ref")
        (endpointFamilyAvailabilityEvidence input none none none)
  | some client =>
  if !client.enabled then
    endpointFamilyAvailabilityExplainResult input
      (blockedOutcome "client_token" "token_disabled" "enable_client_token")
      (endpointFamilyAvailabilityEvidence input (some client) none none)
  else
  -- the token is looked at before the family, and the family before the model
  match EndpointFamily.parse input.endpointFamily with
  | none =>
      endpointFamilyAvailabilityExplainResult input
        (blockedOutcome "endpoint_family" "unsupported_endpoint_family"
          "use_supported_endpoint_family")
        (endpointFamilyAvailabilityEvidence input (some client) none none)
  | some family =>
  if !input.modelAllowed || !input.modelVisible then
    endpointFamilyAvailabilityExplainResult input
      (blockedOutcome "model" "model_missing" "publish_or_route_model")
      (endpointFamilyAvailabilityEvidence input (some client) none none)
  else
  match input.route with
  | none =>
      endpointFamilyAvailabilityExplainResult input
        (blockedOutcome "route" "no_route" "configure_route_or_default_channel")
        (endpointFamilyAvailabilityEvidence input (some client) none none)
  | some route =>
  -- from here on the evidence has the counts of the targets
  let familyTargets := routeWithEndpointFamilyTargets route family input.endpointCapabilities
  match familyTargets.route with
  | none =>
      endpointFamilyAvailabilityExplainResult input
        (blockedOutcome "endpoint_family"
          (if familyTargets.hasUnsupportedTarget then "endpoint_family_unsupported"
            else "endpoint_family_mismatch")
          "configure_endpoint_capabilities_or_route")
        (endpointFamilyAvailabilityEvidence input (some client) (some familyTargets) none)
  | some familyRoute =>
  -- only the targets that support the family are planned
  let preview := previewRoute (familyPreviewInput input client family familyRoute)
  if preview.selectedTargetIndex.isNone then
    endpointFamilyAvailabilityExplainResult input
      (blockedOutcome "target" "no_usable_key_or_target" "enable_target_or_key")
      (endpointFamilyAvailabilityEvidence input (some client) (some familyTargets) (some preview))
  else
    endpointFamilyAvailabilityExplainResult input availableOutcome
      (endpointFamilyAvailabilityEvidence input (some client) (some familyTargets) (some preview))

/-- The parts, as they are read. -/
def explainInput (maxRouteCandidates : Nat) (reads : PreviewReads)
    (clientTokenRef : Option String) (endpointFamily publicModel : String) :
    EndpointFamilyAvailabilityExplainInput :=
  let client := clientTokenRef.bind (explainedClient reads.clientTokens)
  let enabledClient := client.filter (·.enabled)
  let routeContext := reads.planRegistry.routePlanContext reads.observation (some publicModel)
  let previewRoute := (routingPreviewRoute routeContext publicModel).toOption
  let routeKind := (previewRoute.map (·.routeKind)).getD "no_route"
  let modelAllowed := enabledClient.any fun client =>
    reads.catalogs.clientModelAllowed client.allowedModelGroups publicModel
  { clientTokens := reads.clientTokens
    clientTokenRef := clientTokenRef
    endpointFamily := endpointFamily
    publicModel := publicModel
    registryGeneration := routeContext.registryGeneration
    modelAllowed := modelAllowed
    -- a model is visible if the client may use it and something would answer for it
    modelVisible := enabledClient.any fun client =>
      modelAllowed && (routeContext.modelRoute.isSome || routeKind == "default_channel"
        || routeContext.hasClaimedUpstreamModel client.allowedChannels)
    routeKind := routeKind
    route := previewRoute.bind (·.route)
    channelStates := routeContextChannelStates routeContext
    endpointCapabilities :=
      reads.statusCatalogs.endpointCapabilitiesByChannel routeContext.registryGeneration
    candidateLimit := maxRouteCandidates }

def endpointFamilyAvailabilityExplain (maxRouteCandidates : Nat) (reads : PreviewReads)
    (clientTokenRef : Option String) (endpointFamily publicModel : String) :
    EndpointFamilyAvailabilityExplain :=
  endpointFamilyAvailabilityExplainFromParts
    (explainInput maxRouteCandidates reads clientTokenRef endpointFamily publicModel)

/-! ## §3. When a client can use a family. -/

section FromParts

variable {input : EndpointFamilyAvailabilityExplainInput}

/-- The targets that support a family are planned, unless each of them is blocked. -/
theorem familyPlan_selected_iff {client : ResolvedClientToken} {family : EndpointFamily}
    {route : ModelRoute} {targets : List RouteTarget} :
    (previewRoute (familyPreviewInput input client family
        { route with targets := targets })).selectedTargetIndex.isNone = false ↔
      ∃ target ∈ targets,
        ¬ HardBlocked (familyPreviewInput input client family route) target := by
  rw [@selectedTargetIndex_eq (familyPreviewInput input client family
    { route with targets := targets }) { route with targets := targets } rfl]
  rw [Option.isNone_eq_false_iff, List.isSome_head?, Ne, List.map_eq_nil_iff,
    plannedEntries_eq_nil_iff]
  constructor
  · intro hplanned
    by_contra hblocked
    refine hplanned fun i target ht => ?_
    by_contra hnot
    exact hblocked ⟨target, List.mem_of_getElem? ht, hnot⟩
  · rintro ⟨target, hmem, hnot⟩ hall
    obtain ⟨i, hi⟩ := List.mem_iff_getElem?.mp hmem
    exact hnot (hall i target hi)

/-- Each check is passed, and a target that supports the family is not blocked. -/
def PassesChecks (input : EndpointFamilyAvailabilityExplainInput) : Prop :=
  ∃ reference client family route, input.clientTokenRef = some reference ∧
    explainedClient input.clientTokens reference = some client ∧ client.enabled = true ∧
    EndpointFamily.parse input.endpointFamily = some family ∧
    (input.modelAllowed = true ∧ input.modelVisible = true) ∧ input.route = some route ∧
    ∃ target ∈ route.targets,
      familySupport family input.endpointCapabilities target = .supported ∧
      ¬ HardBlocked (familyPreviewInput input client family route) target

/-- A route that is cut down has the targets that support the family, and there are some. -/
theorem familyRoute_eq_some_iff {route familyRoute : ModelRoute} {family : EndpointFamily}
    {capabilities : CapabilitiesByChannel} :
    (routeWithEndpointFamilyTargets route family capabilities).route = some familyRoute ↔
      supportingTargets route family capabilities ≠ [] ∧
        familyRoute = { route with targets := supportingTargets route family capabilities } := by
  rw [routeWithEndpointFamilyTargets_eq]
  dsimp only
  by_cases hempty : supportingTargets route family capabilities = []
  · simp [hempty]
  · rw [if_neg (by simpa using hempty), Option.some.injEq]
    constructor
    · exact fun h => ⟨hempty, h.symm⟩
    · exact fun h => h.2.symm

theorem passesChecks_of_canUse
    (h : (endpointFamilyAvailabilityExplainFromParts input).outcome.canUse = true) :
    PassesChecks input := by
  unfold endpointFamilyAvailabilityExplainFromParts at h
  -- a check that fails cannot be used
  split at h
  · cases h
  next reference href =>
  split at h
  · cases h
  next client hclient =>
  split at h
  · cases h
  next henabled =>
  split at h
  · cases h
  next family hfamily =>
  split at h
  · cases h
  next hmodel =>
  split at h
  · cases h
  next route hroute =>
  dsimp only at h
  split at h
  · cases h
  next familyRoute hfamilyRoute =>
  split at h
  · cases h
  next hselected =>
  obtain ⟨-, rfl⟩ := familyRoute_eq_some_iff.mp hfamilyRoute
  obtain ⟨target, hmem, hnot⟩ :=
    familyPlan_selected_iff.mp (Bool.eq_false_of_not_eq_true hselected)
  obtain ⟨htarget, hsupported⟩ := List.mem_filter.mp hmem
  exact ⟨reference, client, family, route, href, hclient, by simpa using henabled, hfamily,
    by simpa using hmodel, hroute, target, htarget, by simpa using hsupported, hnot⟩

theorem canUse_of_passesChecks (h : PassesChecks input) :
    (endpointFamilyAvailabilityExplainFromParts input).outcome.canUse = true := by
  obtain ⟨reference, client, family, route, href, hclient, henabled, hfamily, ⟨hallowed, hvisible⟩,
    hroute, target, htarget, hsupported, hnot⟩ := h
  have hmem : target ∈ supportingTargets route family input.endpointCapabilities :=
    List.mem_filter.mpr ⟨htarget, by simpa using hsupported⟩
  have hfamilyRoute : (routeWithEndpointFamilyTargets route family
      input.endpointCapabilities).route = some { route with
        targets := supportingTargets route family input.endpointCapabilities } :=
    familyRoute_eq_some_iff.mpr ⟨List.ne_nil_of_mem hmem, rfl⟩
  have hselected := (@familyPlan_selected_iff input client family route
    (supportingTargets route family input.endpointCapabilities)).mpr ⟨target, hmem, hnot⟩
  unfold endpointFamilyAvailabilityExplainFromParts
  simp only [href, hclient, henabled, hfamily, hallowed, hvisible, hroute, hfamilyRoute,
    hselected, Bool.not_true, Bool.or_self, Bool.false_eq_true, if_false]
  rfl

end FromParts

/-! ## §4. The evidence. -/

theorem candidateReasonCodesLoop_spec {reasonCodes : List String}
    (hnodup : reasonCodes.Nodup) (hlength : reasonCodes.length < 8)
    (reasons : List RoutePreviewReason) :
    (candidateReasonCodesLoop reasonCodes reasons).Nodup ∧
      (candidateReasonCodesLoop reasonCodes reasons).length ≤ 8 := by
  induction reasons generalizing reasonCodes with
  | nil => exact ⟨hnodup, Nat.le_of_lt hlength⟩
  | cons reason reasons ih =>
      unfold candidateReasonCodesLoop
      dsimp only
      by_cases hmem : reason.asStr ∈ reasonCodes
      · rw [if_pos (List.contains_iff_mem.mpr hmem), if_neg (Nat.not_le_of_lt hlength)]
        exact ih hnodup hlength
      · have hnodup' : (reasonCodes ++ [reason.asStr]).Nodup :=
          List.nodup_append.mpr ⟨hnodup, List.nodup_singleton _, fun a ha b hb hab =>
            hmem (List.mem_singleton.mp hb ▸ hab ▸ ha)⟩
        have hlength' : (reasonCodes ++ [reason.asStr]).length = reasonCodes.length + 1 := by simp
        rw [if_neg (fun h => hmem (List.contains_iff_mem.mp h))]
        split
        · exact ⟨hnodup', by omega⟩
        · exact ih hnodup' (by omega)

/-- The checks before the targets have all passed: the client is known and enabled, the
family is one of the three, the model is allowed and visible, and it has a route. -/
structure EndpointFamilyAvailabilityExplain.LooksAtTargets
    (explain : EndpointFamilyAvailabilityExplain) : Prop where
  enabled : explain.evidence.clientTokenEnabled = some true
  family : (EndpointFamily.parse explain.endpointFamily).isSome = true
  allowed : explain.evidence.modelAllowed = true
  visible : explain.evidence.modelVisible = true
  route : explain.evidence.routePresent = true

/-- What the evidence says fits the outcome.  The targets are counted, each once, just when
the outcome depends on them. -/
structure EndpointFamilyAvailabilityExplain.Coherent
    (explain : EndpointFamilyAvailabilityExplain) : Prop where
  selected : explain.evidence.selectedTargetPresent = explain.outcome.canUse
  available : explain.outcome.status = "available" ↔ explain.outcome.canUse = true
  counts : explain.LooksAtTargets →
    explain.evidence.endpointFamilyTargetCount + explain.evidence.unsupportedTargetCount +
      explain.evidence.unknownOrMissingTargetCount = explain.evidence.routeTargetCount
  uncounted : ¬ explain.LooksAtTargets →
    explain.evidence.endpointFamilyTargetCount = 0 ∧ explain.evidence.unsupportedTargetCount = 0 ∧
      explain.evidence.unknownOrMissingTargetCount = 0
  reasonCodes : explain.evidence.candidateReasonCodes.Nodup ∧
    explain.evidence.candidateReasonCodes.length ≤ 8

/-- A check that fails before there is a plan. -/
theorem coherent_of_unplanned {input : EndpointFamilyAvailabilityExplainInput}
    {blockingDomain reasonCode nextAction : String} {client : Option ResolvedClientToken}
    (hearly : ¬ (endpointFamilyAvailabilityExplainResult input
      (blockedOutcome blockingDomain reasonCode nextAction)
      (endpointFamilyAvailabilityEvidence input client none none)).LooksAtTargets) :
    (endpointFamilyAvailabilityExplainResult input
      (blockedOutcome blockingDomain reasonCode nextAction)
      (endpointFamilyAvailabilityEvidence input client none none)).Coherent where
  selected := rfl
  available := by
    show "unavailable" = "available" ↔ false = true
    decide
  counts h := absurd h hearly
  uncounted _ := ⟨rfl, rfl, rfl⟩
  reasonCodes := ⟨List.nodup_nil, Nat.zero_le 8⟩

theorem coherent_of_planned (input : EndpointFamilyAvailabilityExplainInput)
    {outcome : EndpointFamilyAvailabilityOutcome} {client : ResolvedClientToken}
    {family : EndpointFamily} {route : ModelRoute} {preview : Option RoutePreview}
    (henabled : client.enabled = true)
    (hfamily : EndpointFamily.parse input.endpointFamily = some family)
    (hmodel : input.modelAllowed = true ∧ input.modelVisible = true)
    (hroute : input.route = some route)
    (houtcome : outcome.status = "available" ↔ outcome.canUse = true)
    (hselected : (preview.bind (·.selectedTargetIndex)).isSome = outcome.canUse) :
    (endpointFamilyAvailabilityExplainResult input outcome
      (endpointFamilyAvailabilityEvidence input (some client)
        (some (routeWithEndpointFamilyTargets route family input.endpointCapabilities))
        preview)).Coherent where
  selected := hselected
  available := houtcome
  counts _ := by
    show _ = (input.route.map (·.targets.length)).getD 0
    rw [hroute]
    exact familyTargetCounts route family input.endpointCapabilities
  uncounted hnot := by
    refine absurd ⟨congrArg some henabled, ?_, hmodel.1, hmodel.2, ?_⟩ hnot
    · exact Option.isSome_of_eq_some hfamily
    · exact Option.isSome_of_eq_some hroute
  reasonCodes := by
    show ((preview.map endpointFamilyCandidateReasonCodes).getD []).Nodup ∧ _
    cases preview with
    | none => exact ⟨List.nodup_nil, Nat.zero_le 8⟩
    | some preview => exact candidateReasonCodesLoop_spec List.nodup_nil (by decide) _

/-- One case for each check, in their order. -/
theorem explain_coherent (input : EndpointFamilyAvailabilityExplainInput) :
    (endpointFamilyAvailabilityExplainFromParts input).Coherent := by
  have hblocked : "unavailable" = "available" ↔ false = true := by decide
  unfold endpointFamilyAvailabilityExplainFromParts
  -- the checks before the targets are looked at: each failure contradicts one of the
  -- preconditions
  split
  · exact coherent_of_unplanned fun h => absurd h.enabled (Option.some_ne_none true).symm
  split
  · exact coherent_of_unplanned fun h => absurd h.enabled (Option.some_ne_none true).symm
  split
  · next client _ hdisabled =>
      refine coherent_of_unplanned fun h => ?_
      have henabled : client.enabled = true := Option.some.inj h.enabled
      simp [henabled] at hdisabled
  next henabled =>
  split
  · next hfamily =>
      refine coherent_of_unplanned fun h => ?_
      have hsome : (EndpointFamily.parse input.endpointFamily).isSome = true := h.family
      simp [hfamily] at hsome
  next family hfamily =>
  split
  · next hmodel =>
      refine coherent_of_unplanned fun h => ?_
      have hallowed : input.modelAllowed = true := h.allowed
      have hvisible : input.modelVisible = true := h.visible
      simp [hallowed, hvisible] at hmodel
  next hmodel =>
  split
  · next hroute =>
      refine coherent_of_unplanned fun h => ?_
      have hsome : input.route.isSome = true := h.route
      simp [hroute] at hsome
  next route hroute =>
  simp only [Bool.not_eq_true', Bool.not_eq_false] at henabled
  simp only [Bool.or_eq_true, Bool.not_eq_true', not_or, Bool.not_eq_false] at hmodel
  -- from here on the counts of the targets are reported
  dsimp only
  split
  · exact coherent_of_planned input henabled hfamily hmodel hroute hblocked rfl
  split
  · next hnone =>
      refine coherent_of_planned input henabled hfamily hmodel hroute hblocked ?_
      exact Option.isSome_eq_false_iff.mpr hnone
  · next hsome =>
      refine coherent_of_planned input henabled hfamily hmodel hroute (by decide) ?_
      exact Option.isNone_eq_false_iff.mp (Bool.eq_false_of_not_eq_true hsome)

/-! ## §5. What a client that can use a family gets. -/

section Explain

variable {maxRouteCandidates : Nat} {reads : PreviewReads} {clientTokenRef : Option String}
  {endpointFamily publicModel : String}

/-- The target is one of the route, supports the family, and the client may be sent to it. -/
structure UsableTarget (reads : PreviewReads) (client : ResolvedClientToken) (publicModel : String)
    (family : EndpointFamily) (route : ModelRoute) (target : RouteTarget) : Prop where
  mem : target ∈ route.targets
  supported : familySupport family (reads.statusCatalogs.endpointCapabilitiesByChannel
    reads.planRegistry.registryGeneration) target = .supported
  unblocked : ¬ HardBlocked (previewInput 0 publicModel client
    (reads.planRegistry.routePlanContext reads.observation (some publicModel)) route) target

/-- The reference means an enabled client that may ask for the model, and the route of the
model has a target for it. -/
def FamilyUsable (reads : PreviewReads) (clientTokenRef : Option String)
    (endpointFamily publicModel : String) : Prop :=
  ∃ reference client family routeKind route target, clientTokenRef = some reference ∧
    explainedClient reads.clientTokens reference = some client ∧ client.enabled = true ∧
    EndpointFamily.parse endpointFamily = some family ∧
    reads.catalogs.clientModelAllowed client.allowedModelGroups publicModel = true ∧
    routingPreviewRoute (reads.planRegistry.routePlanContext reads.observation
      (some publicModel)) publicModel = .ok ⟨routeKind, some route⟩ ∧
    UsableTarget reads client publicModel family route target

/-- A route is configured, or made of the default channel. -/
theorem visible_of_route {routeContext : ChannelRoutePlanContext} {routeKind : String}
    {route : ModelRoute}
    (h : routingPreviewRoute routeContext publicModel = .ok ⟨routeKind, some route⟩) :
    routeContext.modelRoute.isSome = true ∨ routeKind = "default_channel" := by
  unfold routingPreviewRoute at h
  split at h
  · next hroute => exact .inl (by rw [hroute]; rfl)
  · split at h
    · cases h
    · split at h
      · cases h
      · exact .inr (congrArg RoutingPreviewRoute.routeKind (Except.ok.inj h)).symm

/-- The input of an explanation leads to the route of the preview. -/
theorem explainInput_route_iff {route : ModelRoute} :
    (explainInput maxRouteCandidates reads clientTokenRef endpointFamily publicModel).route =
        some route ↔
      ∃ routeKind, routingPreviewRoute (reads.planRegistry.routePlanContext reads.observation
        (some publicModel)) publicModel = .ok ⟨routeKind, some route⟩ := by
  show (routingPreviewRoute _ publicModel).toOption.bind (·.route) = some route ↔ _
  cases routingPreviewRoute (reads.planRegistry.routePlanContext reads.observation
      (some publicModel)) publicModel with
  | error err => simp [Except.toOption]
  | ok previewRoute =>
      obtain ⟨routeKind, found⟩ := previewRoute
      simp [Except.toOption]

theorem passesChecks_iff_usable :
    PassesChecks (explainInput maxRouteCandidates reads clientTokenRef endpointFamily
        publicModel) ↔
      FamilyUsable reads clientTokenRef endpointFamily publicModel := by
  constructor
  · rintro ⟨reference, client, family, route, href, hclient, henabled, hfamily, ⟨hallowed, -⟩,
      hroute, target, htarget, hsupported, hnot⟩
    obtain ⟨routeKind, hroute⟩ := explainInput_route_iff.mp hroute
    have href : clientTokenRef = some reference := href
    have hclient : explainedClient reads.clientTokens reference = some client := hclient
    refine ⟨reference, client, family, routeKind, route, target, href, hclient, henabled, hfamily,
      ?_, hroute, htarget, hsupported, hnot⟩
    -- the input looks the client up again for each of its questions
    have hallowed : ((clientTokenRef.bind (explainedClient reads.clientTokens)).filter
      (·.enabled)).any (fun client =>
        reads.catalogs.clientModelAllowed client.allowedModelGroups publicModel) = true := hallowed
    rw [href, Option.bind_some, hclient] at hallowed
    simpa [henabled] using hallowed
  · rintro ⟨reference, client, family, routeKind, route, target, rfl, hclient, henabled, hfamily,
      hallowed, hroute, htarget, hsupported, hnot⟩
    have henabledClient : ((some reference).bind (explainedClient reads.clientTokens)).filter
        (·.enabled) = some client := by
      rw [Option.bind_some, hclient]
      simp [henabled]
    have hmodel : (explainInput maxRouteCandidates reads (some reference) endpointFamily
        publicModel).modelAllowed = true := by
      show (Option.filter _ _).any _ = true
      rw [henabledClient]
      exact hallowed
    -- a model with a route is visible, whether the route is configured or the default
    have hvisible : (explainInput maxRouteCandidates reads (some reference) endpointFamily
        publicModel).modelVisible = true := by
      show (Option.filter _ _).any _ = true
      rw [henabledClient, hroute]
      simp only [Option.any_some, Except.toOption, Option.map_some, Option.getD_some, hallowed,
        Bool.true_and]
      rcases visible_of_route hroute with hconfigured | hdefault
      · rw [hconfigured, Bool.true_or, Bool.true_or]
      · rw [hdefault, beq_self_eq_true, Bool.or_true, Bool.true_or]
    exact ⟨reference, client, family, route, rfl, hclient, henabled, hfamily, ⟨hmodel, hvisible⟩,
      explainInput_route_iff.mpr ⟨routeKind, hroute⟩, target, htarget, hsupported, hnot⟩

/-- An enabled client that is meant first is the first enabled one that is meant. -/
theorem routingPreviewClient_of_explained {clientTokens : List ResolvedClientToken}
    {reference : String} {client : ResolvedClientToken}
    (hclient : explainedClient clientTokens reference = some client)
    (henabled : client.enabled = true) :
    routingPreviewClient clientTokens (some reference) = .ok client := by
  have hfind : (clientTokens.find? fun token =>
      token.enabled && (token.id == reference || token.name == reference)) = some client := by
    obtain ⟨hmeant, before, after, rfl, hbefore⟩ := List.find?_eq_some_iff_append.mp hclient
    refine List.find?_eq_some_iff_append.mpr ⟨?_, before, after, rfl, ?_⟩
    · rw [henabled, hmeant, Bool.true_and]
    · intro token htoken
      have hother := hbefore token htoken
      simp only [Bool.not_eq_true'] at hother ⊢
      rw [hother, Bool.and_false]
  unfold routingPreviewClient
  dsimp only
  rw [hfind]

/-- A usable target is planned for. -/
theorem forwards_of_usable {environment : ProxyEnvironment} {proxyReads : ProxyReads}
    {request : InboundRequest} {client : ResolvedClientToken} {body : Bytes}
    {deadline : Option Instant} {reference routeKind : String} {family : EndpointFamily}
    {route : ModelRoute} {target : RouteTarget}
    (hsame : reads.SameAs proxyReads)
    (hclient : explainedClient reads.clientTokens reference = some client)
    (henabled : client.enabled = true)
    (hallowed : reads.catalogs.clientModelAllowed client.allowedModelGroups publicModel = true)
    (hroute : routingPreviewRoute (reads.planRegistry.routePlanContext reads.observation
      (some publicModel)) publicModel = .ok ⟨routeKind, some route⟩)
    (husable : UsableTarget reads client publicModel family route target)
    (hasks : proxyReads.Asks environment request client.authorized publicModel body deadline)
    (hclaims : ¬ (proxyReads.routeContext publicModel).Claims client.allowedChannels) :
    ∃ req, openaiForwardRequest environment proxyReads request = .ok req := by
  have hfound := routingPreviewClient_of_explained hclient henabled
  rw [hsame.planRegistry, hsame.observation] at hroute
  have hscope : ¬ (!client.allowedModelGroups.isEmpty &&
      !proxyReads.catalogs.clientModelAllowed client.allowedModelGroups publicModel) = true := by
    rw [← hsame.catalogs, hallowed]
    simp
  refine (forwardsAsPredicted hsame hfound hasks hclaims).forwarded.mpr
    ⟨_, routingPreviewForModel_routed hsame hfound hscope hroute, ?_⟩
  refine (Option.isSome_map).trans ((selectedTarget_isSome_iff_planned rfl).mpr fun hnil => ?_)
  obtain ⟨i, hi⟩ := List.mem_iff_getElem?.mp husable.mem
  have hunblocked := husable.unblocked
  rw [hsame.planRegistry, hsame.observation] at hunblocked
  exact hunblocked (plannedEntries_eq_nil_iff.mp hnil i target hi)

/-- A client can use a family just when one target of the route supports it and is not
blocked.  The evidence fits the outcome, with each target of the route counted once when the
outcome depends on the targets and none before.  The proxy then forwards requests of the client
for the model, if the model is not claimed as an upstream model. -/
theorem endpoint_family_availability_exact (maxRouteCandidates : Nat) (reads : PreviewReads)
    (clientTokenRef : Option String) (endpointFamily publicModel : String) :
    let explain := endpointFamilyAvailabilityExplain maxRouteCandidates reads clientTokenRef
      endpointFamily publicModel
    explain.Coherent ∧
    (explain.outcome.canUse = true ↔
      FamilyUsable reads clientTokenRef endpointFamily publicModel) ∧
    (explain.outcome.canUse = true → ∀ environment proxyReads request client body deadline,
      reads.SameAs proxyReads →
      clientTokenRef.bind (explainedClient reads.clientTokens) = some client →
      proxyReads.Asks environment request client.authorized publicModel body deadline →
      ¬ (proxyReads.routeContext publicModel).Claims client.allowedChannels →
      ∃ req, openaiForwardRequest environment proxyReads request = .ok req) := by
  intro explain
  have husable : explain.outcome.canUse = true ↔
      FamilyUsable reads clientTokenRef endpointFamily publicModel :=
    ⟨fun h => passesChecks_iff_usable.mp (passesChecks_of_canUse h),
      fun h => canUse_of_passesChecks (passesChecks_iff_usable.mpr h)⟩
  refine ⟨explain_coherent _, husable, ?_⟩
  intro hcan environment proxyReads request client body deadline hsame hmeant hasks hclaims
  obtain ⟨reference, found, family, routeKind, route, target, rfl, hclient, henabled, -, hallowed,
    hroute, htarget⟩ := husable.mp hcan
  obtain rfl : client = found := Option.some.inj (hmeant.symm.trans hclient)
  exact forwards_of_usable hsame hclient henabled hallowed hroute htarget hasks hclaims

end Explain

/-- The catalogs of the registry with the route `chat-model`. -/
def chatCatalogs : RuntimeCatalogSnapshot := ⟨1, ∅, ∅, ∅, [("chat", chatChannel)]⟩

def chatAvailabilityReads : PreviewReads :=
  { routedPreviewReads with catalogs := chatCatalogs, statusCatalogs := chatCatalogs }

/-- The token can use chat completions for `chat-model`, and its request is forwarded. -/
theorem endpoint_family_availability_exact_chat_model :
    (endpointFamilyAvailabilityExplain 16 chatAvailabilityReads (some "team") "chat_completions"
      "chat-model").outcome.canUse = true ∧
    ∃ req, openaiForwardRequest routedEnvironment { routedReads with catalogs := chatCatalogs }
      chatModelRequest = .ok req := by
  have hunclaimed : ¬ (routedReads.routeContext "chat-model").Claims [] := by
    intro hclaims
    have hroute : (routedReads.routeContext "chat-model").modelRoute.isSome = true := rfl
    rw [hclaims.1] at hroute
    cases hroute
  have hcan : (endpointFamilyAvailabilityExplain 16 chatAvailabilityReads (some "team")
      "chat_completions" "chat-model").outcome.canUse = true := rfl
  exact ⟨hcan, (endpoint_family_availability_exact 16 chatAvailabilityReads (some "team")
    "chat_completions" "chat-model").2.2 hcan _ _ _ { modelToken with allowedModelGroups := [] } _ _
    ⟨rfl, rfl, rfl⟩ rfl ⟨rfl, rfl, rfl, rfl⟩ hunclaimed⟩

end OneAiKey
