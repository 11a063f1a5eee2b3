/-
  OneAiKey.Provider.Request — what a provider adapter reads off a request, and
  how it rewrites the request for a route target (`src/provider.rs`).

  The requested model is the string field `model` of a JSON body, or else what
  stands behind the models path of a `GET`.  A target with an upstream model has
  it written into both places.

  JSON is read and written by a library; `JsonCodec` is what it answers.
-/
import OneAiKey.Classifier
import OneAiKey.Forward
import OneAiKey.Lib.PercentCoding

namespace OneAiKey

/-! ## §1. JSON bodies. -/

/-- `serde_json::from_slice` and `serde_json::to_vec`. -/
structure JsonCodec where
  fromSlice : Bytes → JsonParse
  toVec : Json → Option Bytes

/-- `serde_json::from_slice(body).ok()`. -/
def JsonCodec.parsed (codec : JsonCodec) (body : Bytes) : Option Json :=
  match codec.fromSlice body with
  | .value value => some value
  | _ => none

/-- `Value::as_bool`. -/
def Json.asBool : Json → Option Bool
  | bool value => some value
  | _ => none

/-- An assignment through `Value::get_mut`. -/
def Json.assign (json : Json) (key : String) (value : Json) : Json :=
  match json with
  | object fields =>
      object (fields.map fun field => if field.1 = key then (key, value) else field)
  | json => json

/-- The string field `model`. -/
def Json.model (value : Json) : Option String := (value.get "model").bind (·.asStr)

/-! ## §2. The context of a request. -/

def openaiEndpoint (method path : String) : EndpointKind :=
  if method = "GET" ∧ (path = "/v1/models" ∨ path = "/models") then .models
  else if path = "/v1/chat/completions" ∨ path = "/chat/completions" then .chatCompletions
  else if path = "/v1/responses" ∨ path = "/responses" then .responses
  else if path = "/v1/embeddings" ∨ path = "/embeddings" then .embeddings
  else .generic

/-- What stands behind a models path, which may be nothing. -/
def behindModelsPath (path : String) : Option (List Char) :=
  (stripPrefix? "/v1/models/".toList path.toList).or (stripPrefix? "/models/".toList path.toList)

def openaiModelFromRetrievePath (method path : String) : Option String :=
  if method ≠ "GET" then none
  else ((behindModelsPath path).filter fun model => !model.isEmpty).map String.ofList

def openaiRequestContext (codec : JsonCodec) (method path : String) (body : Bytes) :
    RequestContext :=
  let value := codec.parsed body
  { endpoint := openaiEndpoint method path
    requestedModel := (value.bind (·.model)).or (openaiModelFromRetrievePath method path)
    bodyReplayable := true
    streaming := ((value.bind (·.get "stream")).bind (·.asBool)).getD false }

inductive NamedPoolRequestMode where
  | replayableWithModelContext
  | streamingPassThrough
  deriving DecidableEq, Repr

namespace ProviderKind

/-- `ProviderAdapter::request_context`. -/
def requestContext (codec : JsonCodec) (method path : String) (body : Bytes) :
    ProviderKind → RequestContext
  | openAiCompatible => openaiRequestContext codec method path body
  | genericHttp => ⟨.generic, none, false, false⟩

/-- `ProviderAdapter::named_pool_request_mode`. -/
def namedPoolRequestMode : ProviderKind → NamedPoolRequestMode
  | openAiCompatible => .replayableWithModelContext
  | genericHttp => .streamingPassThrough

end ProviderKind

/-! ## §3. The request for a target. -/

/-- The bytes that stand for themselves in a path segment. -/
def isUnreservedByte (b : UInt8) : Bool :=
  (65 ≤ b && b ≤ 90) || (97 ≤ b && b ≤ 122) || (48 ≤ b && b ≤ 57) || b == 45 || b == 46 ||
    b == 95 || b == 126

def encodePathSegment (segment : String) : List Char :=
  PercentCoding.encode isUnreservedByte (Utf8.encode segment.toList)

def rewriteOpenaiModelRetrievePath (method path upstreamModel : String) : Option String :=
  if method ≠ "GET" then none
  else if (stripPrefix? "/v1/models/".toList path.toList).isSome then
    some (String.ofList ("/v1/models/".toList ++ encodePathSegment upstreamModel))
  else if (stripPrefix? "/models/".toList path.toList).isSome then
    some (String.ofList ("/models/".toList ++ encodePathSegment upstreamModel))
  else none

def rewriteOpenaiModelBody (codec : JsonCodec) (body : Bytes) (upstreamModel : String) :
    Option Bytes :=
  (codec.parsed body).bind fun value =>
    match value.get "model" with
    | some (.string _) => codec.toVec (value.assign "model" (.string upstreamModel))
    | _ => none

/-- The path and the body of an upstream request. -/
structure UpstreamRequestParts where
  path : String
  body : Bytes
  deriving DecidableEq, Repr

def openaiTransformRequestForTarget (codec : JsonCodec) (method path : String) (body : Bytes) :
    Option String → UpstreamRequestParts
  | none => ⟨path, body⟩
  | some upstreamModel =>
      ⟨(rewriteOpenaiModelRetrievePath method path upstreamModel).getD path,
        (rewriteOpenaiModelBody codec body upstreamModel).getD body⟩

/-- `ProviderAdapter::transform_request_for_target`. -/
def ProviderKind.transformRequestForTarget (codec : JsonCodec) (method path : String)
    (body : Bytes) (upstreamModel : Option String) : ProviderKind → UpstreamRequestParts
  | openAiCompatible => openaiTransformRequestForTarget codec method path body upstreamModel
  | genericHttp => ⟨path, body⟩

/-! ## §4. Models in paths. -/

/-- What stands behind the last slash. -/
def lastSegment (path : List Char) : List Char := (path.reverse.takeWhile (· ≠ '/')).reverse

theorem lastSegment_append {before segment : List Char} (h : '/' ∉ segment) :
    lastSegment (before ++ '/' :: segment) = segment := by
  unfold lastSegment
  have hall : ∀ c ∈ segment.reverse, decide (c ≠ '/') = true := by
    intro c hc
    rw [decide_eq_true_eq]
    intro heq
    exact h (heq ▸ List.mem_reverse.mp hc)
  rw [List.reverse_append, List.reverse_cons, List.append_assoc,
    List.takeWhile_append_of_pos hall]
  simp

theorem isUnreservedByte_ascii (b : UInt8) (h : isUnreservedByte b = true) : b < 128 ∧ b ≠ 37 := by
  constructor
  · unfold isUnreservedByte at h
    simp only [Bool.or_eq_true, Bool.and_eq_true, decide_eq_true_eq, beq_iff_eq,
      UInt8.le_iff_toNat_le, ← UInt8.toNat_inj] at h
    rw [UInt8.lt_iff_toNat_lt]
    simp at h ⊢
    omega
  · intro heq
    rw [heq] at h
    exact absurd h (by decide)

/-- An encoded segment has no slash. -/
theorem slash_not_mem_encodePathSegment (segment : String) : '/' ∉ encodePathSegment segment := by
  refine PercentCoding.not_mem_encode (by decide) (by decide) ?_ _
  intro b hb heq
  have hcode := congrArg String.utf8EncodeChar heq
  rw [PercentCoding.ofNat_ascii (isUnreservedByte_ascii b hb).1] at hcode
  have hslash : b = 47 := (List.cons.inj hcode).1.symm
  rw [hslash] at hb
  exact absurd hb (by decide)

theorem decode_encodePathSegment (segment : String) :
    PercentCoding.decode (encodePathSegment segment) = Utf8.encode segment.toList :=
  PercentCoding.decode_encode isUnreservedByte_ascii _

end OneAiKey
