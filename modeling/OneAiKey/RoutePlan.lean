/-
  OneAiKey.RoutePlan — route preview and route plan (`src/route_plan.rs`).

  `previewRoute` gives every target of a route a verdict: hard blockers first,
  then the best admission tier among the rest, then the order by priority (and
  the weighted rotation), then the candidate limit.  The source keeps one
  vector of candidates and writes the verdicts into it at the targets'
  indices; so does the model.

  `priority` and `weight` are `u16` in the source.  The channel states are a
  hash map that is only looked up, here a partial function.  The weight sum is
  a `u64` there and a natural number here: 65535 times the length of any list
  that fits memory is far below `2^64`.
-/
import Mathlib.Data.List.Sort
import OneAiKey.Routing

namespace OneAiKey

/-- How the targets of one priority are ordered. -/
inductive RouteStrategy where
  | priority
  | priorityWeightedSticky
  deriving DecidableEq, Repr

/-- A target of a route. -/
structure RouteTarget where
  channelId : ChannelId
  providerKind : ProviderKind
  upstreamModel : Option String
  priority : UInt16
  weight : UInt16
  enabled : Bool
  deriving DecidableEq, Repr

/-- A route from a model's public name to channels. -/
structure ModelRoute where
  publicModel : String
  targets : List RouteTarget
  strategy : RouteStrategy
  deriving DecidableEq, Repr

/-- A target that a plan may use, with its index in the route. -/
structure RouteCandidate where
  targetIndex : Nat
  channelId : ChannelId
  providerKind : ProviderKind
  upstreamModel : Option String
  priority : UInt16
  weight : UInt16
  deriving DecidableEq, Repr

/-- The targets to try, in order. -/
structure RoutePlan where
  requestId : String
  registryGeneration : Nat
  publicModel : Option String
  targets : List RouteCandidate
  selectedIndex : Nat
  deriving DecidableEq, Repr

/-- Why a target is planned or left out. -/
inductive RoutePreviewReason where
  | targetDisabled
  | clientChannelScope
  | channelDisabled
  | channelCoolingDown
  | providerCoolingDown
  | credentialCoolingDown
  | noAvailableCredentials
  | runtimeUnavailable
  | channelDegraded
  | degradedLastResort
  | providerCoolingDownLastResort
  | credentialCoolingDownLastResort
  | unknownChannel
  | candidateLimit
  deriving DecidableEq, Repr

/-- A target of the route with what became of it. -/
structure RoutePreviewCandidate where
  targetIndex : Nat
  channelId : ChannelId
  providerKind : ProviderKind
  upstreamModel : Option String
  priority : UInt16
  weight : UInt16
  targetEnabled : Bool
  included : Bool
  selected : Bool
  planPosition : Option Nat
  reasons : List RoutePreviewReason
  deriving DecidableEq, Repr

/-- What planning did with every target of a route. -/
structure RoutePreview where
  requestId : String
  registryGeneration : Nat
  publicModel : Option String
  routeFound : Bool
  candidateLimit : Nat
  selectedTargetIndex : Option Nat
  candidates : List RoutePreviewCandidate
  deriving DecidableEq, Repr

/-- A channel as routing sees it. -/
inductive ChannelRouteState where
  | available
  | providerCoolingDown
  | credentialCoolingDown
  | coolingDown
  | degraded
  | disabled
  | noAvailableCredentials
  | runtimeUnavailable
  | unknownChannel
  deriving DecidableEq, Repr

/-- Why there is no plan. -/
inductive RoutePlanError where
  | noRoute
  | noEnabledTargets
  deriving DecidableEq, Repr

/-- What a plan is made from. -/
structure RoutePreviewInput where
  requestId : String
  registryGeneration : Nat
  publicModel : Option String
  route : Option ModelRoute
  channelStates : ChannelId → Option ChannelRouteState
  allowedChannels : List String
  candidateLimit : Nat

/-- The source's input of `plan_route` has the same fields. -/
abbrev RoutePlanInput := RoutePreviewInput

/-! ## §1. Reasons and tiers. -/

/-- A target with such a reason is never sent to. -/
def routePreviewReasonIsHardBlocker : RoutePreviewReason → Bool
  | .targetDisabled | .clientChannelScope | .channelDisabled | .channelCoolingDown
  | .noAvailableCredentials | .runtimeUnavailable | .unknownChannel | .candidateLimit => true
  | _ => false

/-- A target with such a reason comes behind the others. -/
def routePreviewReasonIsSoftSuppression : RoutePreviewReason → Bool
  | .channelDegraded | .providerCoolingDown | .credentialCoolingDown => true
  | _ => false

/-- The target was taken since there was none better. -/
def routePreviewReasonIsLastResort : RoutePreviewReason → Bool
  | .degradedLastResort | .providerCoolingDownLastResort
  | .credentialCoolingDownLastResort => true
  | _ => false

/-- The classes of channels in the order in which they are tried. -/
inductive RouteAdmissionTier where
  | available
  | degraded
  | providerAccountCooling
  | credentialCooling
  deriving DecidableEq, Repr

/-- The derived order of the tiers. -/
def RouteAdmissionTier.rank : RouteAdmissionTier → Nat
  | available => 0
  | degraded => 1
  | providerAccountCooling => 2
  | credentialCooling => 3

/-- The class of a channel by its state. -/
def routeStateAdmissionTier : Option ChannelRouteState → RouteAdmissionTier
  | some .degraded => .degraded
  | some .providerCoolingDown => .providerAccountCooling
  | some .credentialCoolingDown => .credentialCooling
  | _ => .available

/-- A client without a scope may use every channel. -/
def channelIsAllowed (channelId : ChannelId) (allowedChannels : List String) : Bool :=
  allowedChannels.isEmpty || allowedChannels.any (· == channelId)

/-- The hard blockers of a target, in the order of the checks. -/
def hardBlockers (input : RoutePreviewInput) (target : RouteTarget) :
    List RoutePreviewReason :=
  let state := input.channelStates target.channelId
  (if !target.enabled then [.targetDisabled] else [])
    ++ (if !channelIsAllowed target.channelId input.allowedChannels then
          [.clientChannelScope] else [])
    ++ (if state = some .disabled then [.channelDisabled] else [])
    ++ (if state = some .coolingDown then [.channelCoolingDown] else [])
    ++ (if state = some .noAvailableCredentials then [.noAvailableCredentials] else [])
    ++ (if state = some .runtimeUnavailable then [.runtimeUnavailable] else [])
    ++ (if state = some .unknownChannel then [.unknownChannel] else [])

/-- The reason of a target that a better tier suppresses. -/
def suppressionReasons : Option ChannelRouteState → List RoutePreviewReason
  | some .degraded => [.channelDegraded]
  | some .providerCoolingDown => [.providerCoolingDown]
  | some .credentialCoolingDown => [.credentialCoolingDown]
  | _ => []

/-- The reason of a target whose soft tier is the best there is. -/
def lastResortReasons : Option ChannelRouteState → List RoutePreviewReason
  | some .degraded => [.degradedLastResort]
  | some .providerCoolingDown => [.providerCoolingDownLastResort]
  | some .credentialCoolingDown => [.credentialCoolingDownLastResort]
  | _ => []

/-! ## §2. The stages of the preview. -/

/-- A target with its index, as the source's vector of eligible targets holds it. -/
abbrev Entry := Nat × RouteCandidate

/-- A target before anything is known about it but the blockers. -/
def previewCandidate (input : RoutePreviewInput) (index : Nat) (target : RouteTarget) :
    RoutePreviewCandidate where
  targetIndex := index
  channelId := target.channelId
  providerKind := target.providerKind
  upstreamModel := target.upstreamModel
  priority := target.priority
  weight := target.weight
  targetEnabled := target.enabled
  included := false
  selected := false
  planPosition := none
  reasons := hardBlockers input target

/-- The target as a plan keeps it. -/
def RoutePreviewCandidate.toRouteCandidate (c : RoutePreviewCandidate) : RouteCandidate where
  targetIndex := c.targetIndex
  channelId := c.channelId
  providerKind := c.providerKind
  upstreamModel := c.upstreamModel
  priority := c.priority
  weight := c.weight

/-- More reasons behind those that are there. -/
def RoutePreviewCandidate.push (rs : List RoutePreviewReason) (c : RoutePreviewCandidate) :
    RoutePreviewCandidate :=
  { c with reasons := c.reasons ++ rs }

/-- The targets of the route with their indices. -/
def initialCandidates (input : RoutePreviewInput) (route : ModelRoute) :
    List RoutePreviewCandidate :=
  route.targets.zipIdx.map fun entry => previewCandidate input entry.2 entry.1

/-- The targets that nothing blocks. -/
def eligibleEntries (candidates : List RoutePreviewCandidate) : List Entry :=
  (candidates.filter (·.reasons.isEmpty)).map fun c => (c.targetIndex, c.toRouteCandidate)

/-- The sort key `(priority, index)`. -/
def keyLE (a b : Entry) : Prop :=
  a.2.priority < b.2.priority ∨ (a.2.priority = b.2.priority ∧ a.1 ≤ b.1)

instance : DecidableRel keyLE := fun a b =>
  inferInstanceAs (Decidable (a.2.priority < b.2.priority ∨
    (a.2.priority = b.2.priority ∧ a.1 ≤ b.1)))

/-- `sort_by_key`, which is stable. -/
def sortEntries (entries : List Entry) : List Entry := entries.insertionSort keyLE

/-- The state of a target's channel. -/
def entryState (input : RoutePreviewInput) (e : Entry) : Option ChannelRouteState :=
  input.channelStates e.2.channelId

/-- The class of a target, as a number to sort by. -/
def entryRank (input : RoutePreviewInput) (e : Entry) : Nat :=
  (routeStateAdmissionTier (entryState input e)).rank

/-- One round of the tier loop: suppress the target, or retain it. -/
def admissionStep (input : RoutePreviewInput) (preferred : Nat)
    (acc : List RoutePreviewCandidate × List Entry) (e : Entry) :
    List RoutePreviewCandidate × List Entry :=
  if preferred < entryRank input e then
    (acc.1.modify e.1 (·.push (suppressionReasons (entryState input e))), acc.2)
  else
    (acc.1.modify e.1 (·.push (lastResortReasons (entryState input e))), acc.2 ++ [e])

/-- Keep the best tier that is present. -/
def admitBestTier (input : RoutePreviewInput) (candidates : List RoutePreviewCandidate)
    (eligible : List Entry) : List RoutePreviewCandidate × List Entry :=
  match (eligible.map (entryRank input)).min? with
  | none => (candidates, eligible)
  | some preferred => eligible.foldl (admissionStep input preferred) (candidates, [])

/-- The ticket search: the first target whose weight interval holds the ticket. -/
def ticketSearch : (weights : List Nat) → (ticket : Nat) → Option Nat
  | [], _ => none
  | weight :: rest, ticket =>
      if ticket < weight then some 0
      else (ticketSearch rest (ticket - weight)).map (· + 1)

/-- `u64::from(target.weight.max(1))`. -/
def entryWeight (e : Entry) : Nat := max e.2.weight.toNat 1

/-- The leading targets of equal priority. -/
def tierLength (targets : List Entry) : Nat :=
  match targets.head? with
  | none => 0
  | some first => (targets.takeWhile fun e => e.2.priority == first.2.priority).length

/-- `rotate_left` on the first `n` elements. -/
def rotateLeading {α : Type} (n k : Nat) (xs : List α) : List α :=
  (xs.take n).drop k ++ (xs.take n).take k ++ xs.drop n

/-- How far the leading tier is rotated (`selected_index`, 0 at the start). -/
def stickyRotation (targets : List Entry) (requestId : String) : Nat :=
  let weights := (targets.take (tierLength targets)).map entryWeight
  (ticketSearch weights ((fnv1a requestId).toNat % weights.sum)).getD 0

/-- The first priority, rotated by the ticket of the request. -/
def orderWeightedPriorityTierWithIndices (targets : List Entry) (requestId : String) :
    List Entry :=
  if tierLength targets ≤ 1 then targets
  else rotateLeading (tierLength targets) (stickyRotation targets requestId) targets

/-- The first `limit` entries are planned, all of them when the limit is 0. -/
def limitedLength (candidateLimit length : Nat) : Nat :=
  if 0 < candidateLimit then min candidateLimit length else length

/-- Mark one planned target. -/
def RoutePreviewCandidate.markPlanned (position : Nat) (c : RoutePreviewCandidate) :
    RoutePreviewCandidate :=
  { c with
    included := true
    planPosition := some position
    selected := if position = 0 then true else c.selected }

/-- The planned targets with their positions. -/
def markIncluded (candidates : List RoutePreviewCandidate) (planned : List Entry) :
    List RoutePreviewCandidate :=
  planned.zipIdx.foldl (fun cs e => cs.modify e.1.1 (·.markPlanned e.2)) candidates

def markLimited (candidates : List RoutePreviewCandidate) (rest : List Entry) :
    List RoutePreviewCandidate :=
  rest.foldl (fun cs e => cs.modify e.1 (·.push [.candidateLimit])) candidates

/-! ## §3. Preview and plan. -/

def previewRoute (input : RoutePreviewInput) : RoutePreview :=
  match input.route with
  | none => {
      requestId := input.requestId
      registryGeneration := input.registryGeneration
      publicModel := input.publicModel
      routeFound := false
      candidateLimit := input.candidateLimit
      selectedTargetIndex := none
      candidates := [] }
  | some route =>
      let candidates := initialCandidates input route
      let eligible := sortEntries (eligibleEntries candidates)
      -- of the targets that nothing blocks only those of the best rank stay
      let (candidates, eligible) := admitBestTier input candidates eligible
      let eligible :=
        if route.strategy = .priorityWeightedSticky then
          orderWeightedPriorityTierWithIndices eligible input.requestId
        else eligible
      -- the plan is the first part of the order, what is behind it is marked as cut off
      let limitedLen := limitedLength input.candidateLimit eligible.length
      let candidates := markIncluded candidates (eligible.take limitedLen)
      let candidates := markLimited candidates (eligible.drop limitedLen)
      { requestId := input.requestId
        registryGeneration := input.registryGeneration
        publicModel := input.publicModel
        routeFound := true
        candidateLimit := input.candidateLimit
        selectedTargetIndex := (candidates.find? (·.selected)).map (·.targetIndex)
        candidates := candidates }

/-- The sort key of `plan_route`. -/
def planKey (c : RoutePreviewCandidate) : Nat := c.planPosition.getD (2 ^ 64 - 1)

def planRoute (input : RoutePlanInput) : Except RoutePlanError RoutePlan :=
  if input.route.isNone then .error .noRoute
  else
    let preview := previewRoute input
    let included := preview.candidates.filter (·.included)
    let included := included.insertionSort fun a b => planKey a ≤ planKey b
    let targets := included.map (·.toRouteCandidate)
    if targets.isEmpty then .error .noEnabledTargets
    else .ok {
      requestId := preview.requestId
      registryGeneration := preview.registryGeneration
      publicModel := preview.publicModel
      targets := targets
      selectedIndex := 0 }

end OneAiKey
