/-
  OneAiKey.Proxy.RequestedModel — the model that is checked and the model that is
  sent (`src/provider.rs`, `src/proxy.rs`).

  All checks of a routed request are made on the requested model.  What the
  upstream takes for the model is the last segment of a models path, without its
  percent-encoding, and the field of the body otherwise.  An OpenAI-compatible
  channel has the upstream model of the target written into both places; without
  that the request is forwarded as it came.

  Main results:
    * `receivedModel_rewritten` — a rewritten request carries the upstream model;
    * `requested_model_sent_iff` — when the upstream receives the model that the
      plan means.
-/
import OneAiKey.Proxy.Scope

namespace OneAiKey

open Collect (bind_eq_ok)

/-! ## §1. The received model. -/

/-- The bytes of a model's name. -/
def modelBytes (model : String) : Bytes := Utf8.encode model.toList

/-- The request is a `GET` on the path of one model. -/
def retrievesModel (method path : String) : Bool :=
  (openaiModelFromRetrievePath method path).isSome

/-- What the upstream takes for the model of a request that came on `path`. -/
def receivedModel (codec : JsonCodec) (method path : String) (sent : UpstreamRequestParts) :
    Option Bytes :=
  if retrievesModel method path then
    some (PercentCoding.decode (lastSegment sent.path.toList))
  else ((codec.parsed sent.body).bind (·.model)).map modelBytes

/-- The texts among the fields of a value. -/
def Json.textField (key : String) (value : Json) : Option String :=
  (value.get key).bind (·.asStr)

/-- What rewriting relies on: a value that was read and has a text assigned is written, and
what is written is read with the same texts. -/
structure JsonCodec.Faithful (codec : JsonCodec) : Prop where
  written : ∀ body value key text, codec.parsed body = some value →
    (codec.toVec (value.assign key (.string text))).isSome
  readBack : ∀ body value key text out, codec.parsed body = some value →
    codec.toVec (value.assign key (.string text)) = some out →
    ∃ value', codec.parsed out = some value' ∧
      ∀ field, value'.textField field = (value.assign key (.string text)).textField field

/-- A field that is there has the value that is assigned to it. -/
theorem Json.get_assign {key : String} {value new old : Json} (h : value.get key = some old) :
    (value.assign key new).get key = some new := by
  cases value with
  | object fields =>
      show ((fields.map fun field => if field.1 = key then (key, new) else field).find?
        fun field => field.1 = key).map Prod.snd = some new
      have hfields : (fields.find? fun field => field.1 = key).map Prod.snd = some old := h
      clear h
      induction fields with
      | nil => cases hfields
      | cons field fields ih =>
          rw [List.map_cons]
          by_cases hkey : field.1 = key
          · rw [if_pos hkey, List.find?_cons_of_pos (by simp)]
            rfl
          · rw [if_neg hkey, List.find?_cons_of_neg (by simpa using hkey)]
            rw [List.find?_cons_of_neg (by simpa using hkey)] at hfields
            exact ih hfields
  | _ => cases h

/-! ## §2. The rewriting. -/

section Rewriting

variable {codec : JsonCodec} {method path : String} {body : Bytes}

theorem behindModelsPath_of_retrieves (h : retrievesModel method path = true) :
    method = "GET" ∧ (behindModelsPath path).isSome = true := by
  unfold retrievesModel openaiModelFromRetrievePath at h
  split at h
  · cases h
  · next hmethod =>
      refine ⟨not_not.mp hmethod, ?_⟩
      rw [Option.isSome_map] at h
      cases hbehind : behindModelsPath path with
      | none =>
          rw [hbehind] at h
          cases h
      | some model => rfl

/-- The path of a model is rewritten to the path of the upstream model. -/
theorem rewrite_retrievePath (h : retrievesModel method path = true) (upstreamModel : String) :
    ∃ sentPath, rewriteOpenaiModelRetrievePath method path upstreamModel = some sentPath ∧
      PercentCoding.decode (lastSegment sentPath.toList) = modelBytes upstreamModel := by
  obtain ⟨hmethod, hbehind⟩ := behindModelsPath_of_retrieves h
  have hslash := slash_not_mem_encodePathSegment upstreamModel
  -- the encoded model has no slash, so it is the last segment
  have hdecoded : ∀ before : List Char, PercentCoding.decode
      (lastSegment (before ++ '/' :: encodePathSegment upstreamModel)) =
      modelBytes upstreamModel := by
    intro before
    rw [lastSegment_append hslash]
    exact decode_encodePathSegment upstreamModel
  unfold rewriteOpenaiModelRetrievePath
  rw [if_neg (not_not.mpr hmethod)]
  -- the path begins with the version, or without it
  by_cases hlong : (stripPrefix? "/v1/models/".toList path.toList).isSome = true
  · rw [if_pos hlong]
    refine ⟨_, rfl, ?_⟩
    rw [String.toList_ofList]
    exact hdecoded "/v1/models".toList
  · rw [if_neg hlong]
    have hshort : (stripPrefix? "/models/".toList path.toList).isSome = true := by
      unfold behindModelsPath at hbehind
      rw [Bool.not_eq_true, Option.isSome_eq_false_iff, Option.isNone_iff_eq_none] at hlong
      rw [hlong] at hbehind
      exact hbehind
    rw [if_pos hshort]
    refine ⟨_, rfl, ?_⟩
    rw [String.toList_ofList]
    exact hdecoded "/models".toList

/-- The model of a body is rewritten to the upstream model. -/
theorem rewrite_body (hcodec : codec.Faithful) {model : String}
    (h : (codec.parsed body).bind (·.model) = some model) (upstreamModel : String) :
    ∃ sentBody, rewriteOpenaiModelBody codec body upstreamModel = some sentBody ∧
      (codec.parsed sentBody).bind (·.model) = some upstreamModel := by
  obtain ⟨value, hvalue, hmodel⟩ := Option.bind_eq_some_iff.mp h
  obtain ⟨field, hfield, htext⟩ := Option.bind_eq_some_iff.mp hmodel
  obtain ⟨sentBody, hwritten⟩ := Option.isSome_iff_exists.mp
    (hcodec.written body value "model" upstreamModel hvalue)
  obtain ⟨value', hread, hfields⟩ :=
    hcodec.readBack body value "model" upstreamModel sentBody hvalue hwritten
  cases field with
  | string old =>
      refine ⟨sentBody, ?_, ?_⟩
      · unfold rewriteOpenaiModelBody
        rw [hvalue, Option.bind_some, hfield]
        exact hwritten
      · rw [hread]
        show value'.textField "model" = some upstreamModel
        rw [hfields]
        unfold Json.textField
        rw [Json.get_assign hfield]
        rfl
  | _ => cases htext

/-- A requested model that does not stand in the path stands in the body. -/
theorem body_of_not_retrieves {model : String} (hretrieves : ¬ retrievesModel method path = true)
    (h : (openaiRequestContext codec method path body).requestedModel = some model) :
    (codec.parsed body).bind (·.model) = some model := by
  have hnone : openaiModelFromRetrievePath method path = none := by
    unfold retrievesModel at hretrieves
    rw [Bool.not_eq_true, Option.isSome_eq_false_iff, Option.isNone_iff_eq_none] at hretrieves
    exact hretrieves
  have hcontext : ((codec.parsed body).bind (·.model)).or
      (openaiModelFromRetrievePath method path) = some model := h
  rw [hnone, Option.or_none] at hcontext
  exact hcontext

/-- A rewritten request carries the upstream model, wherever the model was found. -/
theorem receivedModel_rewritten (hcodec : codec.Faithful) {model : String}
    (h : (openaiRequestContext codec method path body).requestedModel = some model)
    (upstreamModel : String) :
    receivedModel codec method path
        (openaiTransformRequestForTarget codec method path body (some upstreamModel)) =
      some (modelBytes upstreamModel) := by
  unfold receivedModel openaiTransformRequestForTarget
  by_cases hretrieves : retrievesModel method path = true
  · rw [if_pos hretrieves]
    obtain ⟨sentPath, hrewritten, hdecoded⟩ := rewrite_retrievePath hretrieves upstreamModel
    dsimp only
    rw [hrewritten, Option.getD_some, hdecoded]
  · rw [if_neg hretrieves]
    obtain ⟨sentBody, hrewritten, hsent⟩ :=
      rewrite_body hcodec (body_of_not_retrieves hretrieves h) upstreamModel
    dsimp only
    rw [hrewritten, Option.getD_some, hsent]
    rfl

end Rewriting

/-! ## §3. The model that is sent. -/

/-- The request as it came carries the model `expected`, where `model` is the requested one. -/
def CarriesModel (method path model expected : String) : Prop :=
  if retrievesModel method path then
    PercentCoding.decode (lastSegment path.toList) = modelBytes expected
  else model = expected

/-- The request is rewritten, or carries the model that is meant already. -/
def ModelReachesUpstream (kind : ProviderKind) (method path model : String)
    (upstreamModel : Option String) : Prop :=
  (kind = .openAiCompatible ∧ upstreamModel ≠ none) ∨
    CarriesModel method path model (upstreamModel.getD model)

section Sent

variable {codec : JsonCodec} {method path model : String} {body : Bytes}

theorem modelBytes_injective {model model' : String} (h : modelBytes model = modelBytes model') :
    model = model' :=
  String.toList_inj.mp (Utf8.encode_injective h)

/-- A request that is forwarded as it came. -/
theorem receivedModel_unchanged
    (h : (openaiRequestContext codec method path body).requestedModel = some model)
    (expected : String) :
    receivedModel codec method path ⟨path, body⟩ = some (modelBytes expected) ↔
      CarriesModel method path model expected := by
  unfold receivedModel CarriesModel
  by_cases hretrieves : retrievesModel method path = true
  · rw [if_pos hretrieves, if_pos hretrieves, Option.some.injEq]
  · rw [if_neg hretrieves, if_neg hretrieves]
    rw [body_of_not_retrieves hretrieves h, Option.map_some, Option.some.injEq]
    constructor
    · exact modelBytes_injective
    · intro heq
      rw [heq]

/-- The upstream receives the model that is meant exactly if it reaches it. -/
theorem receivedModel_iff (hcodec : codec.Faithful)
    (h : (openaiRequestContext codec method path body).requestedModel = some model)
    (kind : ProviderKind) (upstreamModel : Option String) :
    receivedModel codec method path
        (kind.transformRequestForTarget codec method path body upstreamModel) =
      some (modelBytes (upstreamModel.getD model)) ↔
      ModelReachesUpstream kind method path model upstreamModel := by
  unfold ModelReachesUpstream
  cases kind with
  -- this adapter rewrites nothing
  | genericHttp =>
      show receivedModel codec method path ⟨path, body⟩ = _ ↔ _
      rw [receivedModel_unchanged h]
      constructor
      · exact Or.inr
      · intro hreaches
        rcases hreaches with hkind | hcarries
        · cases hkind.1
        · exact hcarries
  | openAiCompatible =>
      cases upstreamModel with
      | none =>
          show receivedModel codec method path ⟨path, body⟩ = _ ↔ _
          rw [receivedModel_unchanged h]
          constructor
          · exact Or.inr
          · intro hreaches
            rcases hreaches with hrewritten | hcarries
            · exact absurd rfl hrewritten.2
            · exact hcarries
      -- both sides hold: the request is rewritten
      | some upstreamModel =>
          constructor
          · intro _
            exact .inl ⟨rfl, Option.some_ne_none _⟩
          · intro _
            exact receivedModel_rewritten hcodec h upstreamModel

end Sent

/-- An admitted request is forwarded with its own method and path, and the context is read
off what is forwarded. -/
theorem openaiForwardRequest_context {environment : ProxyEnvironment} {reads : ProxyReads}
    {request : InboundRequest} {req : ForwardRequest}
    (h : openaiForwardRequest environment reads request = .ok req) :
    req.method = request.method ∧ req.path = request.path ∧ req.query = request.query ∧
      req.requestContext = openaiRequestContext environment.codec request.method request.path
        req.body := by
  unfold openaiForwardRequest at h
  obtain ⟨client, -, h⟩ := bind_eq_ok.mp h
  obtain ⟨body, -, h⟩ := bind_eq_ok.mp h
  obtain ⟨routePlan, -, h⟩ := bind_eq_ok.mp h
  obtain ⟨done, -, h⟩ := bind_eq_ok.mp h
  obtain ⟨effectiveDeadline, -, h⟩ := bind_eq_ok.mp h
  rw [← Except.ok.inj h]
  exact ⟨rfl, rfl, rfl, rfl⟩

/-- Every send of a routed request with a requested model goes to a target of its plan, the one
whose index in the route the send's own snapshot names (a route may have a channel in several
targets), and the upstream receives the upstream model of this target, or the requested model if
there is none, exactly if that model reaches the upstream. -/
theorem requested_model_sent_iff (environment : ProxyEnvironment) (reads : ProxyReads)
    (request : InboundRequest) (fuel : Nat) (hcodec : environment.codec.Faithful)
    (model : String) (snapshot : RequestSelectionSnapshot) (upstream : UpstreamRequest)
    (body : Bytes)
    (hsent : ForwardEvent.sent snapshot upstream body ∈
      (proxyOpenaiCompatible environment reads request fuel).1)
    (hmodel : snapshot.requestedModel = some model) :
    ∃ req target poolState selected sentPath,
      openaiForwardRequest environment reads request = .ok req ∧
      target ∈ req.routePlan.targets ∧ snapshot.channelId = target.channelId ∧
      snapshot.routeTargetIndex = target.routeTargetIndex ∧
      snapshot.providerKind = poolState.providerKind ∧
      upstream = forwardUpstreamRequest poolState selected sentPath (request.query.getD "") ∧
      (receivedModel environment.codec request.method request.path ⟨sentPath, body⟩ =
          some (modelBytes (target.upstreamModel.getD model)) ↔
        ModelReachesUpstream poolState.providerKind request.method request.path model
          target.upstreamModel) := by
  unfold proxyOpenaiCompatible at hsent
  cases hadmitted : openaiForwardRequest environment reads request with
  | error proxyEnd =>
      rw [hadmitted] at hsent
      cases hsent
  | ok req =>
      rw [hadmitted] at hsent
      obtain ⟨hmethod, hpath, hquery, hcontext⟩ := openaiForwardRequest_context hadmitted
      obtain ⟨k, target, poolState, classifier, htarget, -, hsentOn⟩ :=
        forwardWithPools_sentTo _ hsent rfl
      obtain ⟨n, available, routeState, retried, pool, selected, candidates, attempt, -,
        hsnapshot, hupstream, hbody⟩ := hsentOn
      -- the model was read off the body that the request came with
      have hrequested : (openaiRequestContext environment.codec request.method request.path
          req.body).requestedModel = some model := by
        rw [← hcontext, ← hmodel, hsnapshot]
        rfl
      refine ⟨req, target, poolState, selected,
        (poolState.providerKind.transformRequestForTarget environment.codec req.method req.path
          req.body target.upstreamModel).path, rfl, List.mem_of_getElem? htarget, ?_, ?_, ?_, ?_, ?_⟩
      · rw [hsnapshot]
        rfl
      · rw [hsnapshot]
        rfl
      · rw [hsnapshot]
        rfl
      · rw [hupstream, hquery]
        rfl
      · rw [hbody]
        show receivedModel environment.codec request.method request.path
          (poolState.providerKind.transformRequestForTarget environment.codec req.method req.path
            req.body target.upstreamModel) = _ ↔ _
        rw [hmethod, hpath]
        exact receivedModel_iff hcodec hrequested _ _

/-! ## §4. A model in a body, and one in a path. -/

/-- JSON texts with the field `model` and nothing else, its value without escapes. -/
def plainModelCodec : JsonCodec where
  fromSlice body :=
    let opening := Utf8.encode "\x7b\"model\":\"".toList
    let inner := (body.drop opening.length).dropLast.dropLast
    if body = opening ++ inner ++ Utf8.encode "\"\x7d".toList then
      match Utf8.decode inner with
      | some text => .value (.object [("model", .string (String.ofList text))])
      | none => .invalid
    else .invalid
  toVec
    | .object [("model", .string text)] =>
        some (Utf8.encode "\x7b\"model\":\"".toList ++ Utf8.encode text.toList ++
          Utf8.encode "\"\x7d".toList)
    | _ => none

theorem plainModelCodec_parsed {body : Bytes} {value : Json}
    (h : plainModelCodec.parsed body = some value) :
    ∃ text, value = .object [("model", .string text)] := by
  unfold JsonCodec.parsed plainModelCodec at h
  dsimp only at h
  split at h
  · next heq =>
      split at heq
      · split at heq
        · next text _ =>
            cases h
            exact ⟨_, (JsonParse.value.inj heq).symm⟩
        · cases heq
      · cases heq
  · cases h

theorem plainModelCodec_readBack (text : String) :
    plainModelCodec.parsed (Utf8.encode "\x7b\"model\":\"".toList ++ Utf8.encode text.toList ++
      Utf8.encode "\"\x7d".toList) = some (.object [("model", .string text)]) := by
  have hinner : ((Utf8.encode "\x7b\"model\":\"".toList ++ Utf8.encode text.toList ++
      Utf8.encode "\"\x7d".toList).drop
        (Utf8.encode "\x7b\"model\":\"".toList).length).dropLast.dropLast =
      Utf8.encode text.toList := by
    rw [List.append_assoc, List.drop_left]
    have hclosing : Utf8.encode "\"\x7d".toList = [34] ++ [125] := rfl
    rw [hclosing, ← List.append_assoc, List.dropLast_concat, List.dropLast_concat]
  unfold JsonCodec.parsed plainModelCodec
  dsimp only
  rw [hinner, if_pos rfl, Utf8.decode_encode]
  dsimp only
  rw [String.ofList_toList]

/-- Assigning a text to a field of such a value. -/
theorem plainModelCodec_assign (old key text : String) :
    ∃ new, (Json.object [("model", .string old)]).assign key (.string text) =
      .object [("model", .string new)] := by
  by_cases hkey : "model" = key
  · refine ⟨text, ?_⟩
    unfold Json.assign
    dsimp only
    rw [List.map_singleton, if_pos hkey, ← hkey]
  · refine ⟨old, ?_⟩
    unfold Json.assign
    dsimp only
    rw [List.map_singleton, if_neg hkey]

theorem plainModelCodec_faithful : plainModelCodec.Faithful where
  written body value key text h := by
    obtain ⟨old, rfl⟩ := plainModelCodec_parsed h
    obtain ⟨new, hnew⟩ := plainModelCodec_assign old key text
    rw [hnew]
    rfl
  readBack body value key text out h hout := by
    obtain ⟨old, rfl⟩ := plainModelCodec_parsed h
    obtain ⟨new, hnew⟩ := plainModelCodec_assign old key text
    rw [hnew] at hout ⊢
    rw [← Option.some.inj hout]
    exact ⟨_, plainModelCodec_readBack new, fun _ => rfl⟩

/-- The registry with the default channel `chat`, which serves `chat-model` as `gpt-4o`. -/
def routedRegistry : ChannelRegistrySnapshot :=
  let registry := chatRegistry .openAiCompatible
  compileChannelRegistrySnapshot 1 (some "chat")
    [⟨"chat-model", ⟨"chat-model", [⟨"chat", .openAiCompatible, some "gpt-4o", 0, 1, true⟩],
      .priority⟩⟩].toFinmap registry.failureDomains registry.channels
    registry.credentialSetRuntimes

/-- What a routed request of an unrestricted token finds. -/
def routedReads : ProxyReads :=
  { chatReads .openAiCompatible with
    clientTokens := [{ modelToken with allowedModelGroups := [] }]
    planRegistry := routedRegistry
    adapterRegistry := routedRegistry
    claimRegistry := routedRegistry }

def routedEnvironment : ProxyEnvironment := { proxyEnvironment with codec := plainModelCodec }

/-- A chat request for `chat-model`. -/
def chatModelRequest : InboundRequest :=
  { emptyRequest with
    path := "/v1/chat/completions"
    body := [.ok (Utf8.encode "\x7b\"model\":\"chat-model\"\x7d".toList)] }

/-- A request for the description of a model. -/
def retrieveRequest (model : String) : InboundRequest :=
  { emptyRequest with method := "GET", path := "/v1/models/" ++ model }

/-- The chat request is sent with the upstream model in its body. -/
theorem requested_model_sent_iff_chat_model :
    ∃ snapshot upstream body, ForwardEvent.sent snapshot upstream body ∈
        (proxyOpenaiCompatible routedEnvironment routedReads chatModelRequest 1).1 ∧
      snapshot.requestedModel = some "chat-model" ∧
      ∃ req target poolState selected sentPath,
        openaiForwardRequest routedEnvironment routedReads chatModelRequest = .ok req ∧
        target ∈ req.routePlan.targets ∧ snapshot.channelId = target.channelId ∧
        snapshot.routeTargetIndex = target.routeTargetIndex ∧
        snapshot.providerKind = poolState.providerKind ∧
        upstream = forwardUpstreamRequest poolState selected sentPath "" ∧
        (receivedModel plainModelCodec "POST" "/v1/chat/completions" ⟨sentPath, body⟩ =
            some (modelBytes (target.upstreamModel.getD "chat-model")) ↔
          ModelReachesUpstream poolState.providerKind "POST" "/v1/chat/completions" "chat-model"
            target.upstreamModel) :=
  ⟨_, _, _, List.mem_cons_self, rfl, requested_model_sent_iff routedEnvironment routedReads
    chatModelRequest 1 plainModelCodec_faithful "chat-model" _ _ _ List.mem_cons_self rfl⟩

/-- The upstream model `gpt-4o` is refused under its own name, and asked for when a character
of it is percent-encoded. -/
theorem encoded_model_reaches_upstream :
    (openaiForwardRequest routedEnvironment routedReads (retrieveRequest "gpt-4o")).toOption =
        none ∧
      ∃ req snapshot upstream body,
        openaiForwardRequest routedEnvironment routedReads (retrieveRequest "gpt%2D4o") =
          .ok req ∧
        req.routePlan.targets = [⟨none, "chat", none, .available⟩] ∧
        ForwardEvent.sent snapshot upstream body ∈
          (proxyOpenaiCompatible routedEnvironment routedReads
            (retrieveRequest "gpt%2D4o") 1).1 ∧
        snapshot.requestedModel = some "gpt%2D4o" ∧
        (∃ poolState selected, upstream =
          forwardUpstreamRequest poolState selected "/v1/models/gpt%2D4o" "") ∧
        receivedModel plainModelCodec "GET" "/v1/models/gpt%2D4o"
            ⟨"/v1/models/gpt%2D4o", body⟩ = some (modelBytes "gpt-4o") ∧
        modelBytes "gpt-4o" ≠ modelBytes "gpt%2D4o" :=
  ⟨rfl, _, _, _, _, rfl, rfl, List.mem_cons_self, rfl, ⟨_, _, rfl⟩, rfl, by decide⟩

end OneAiKey
