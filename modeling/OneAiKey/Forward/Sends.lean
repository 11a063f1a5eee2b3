/-
  OneAiKey.Forward.Sends — what a request sends, to which target and on which
  channel.

  A send is made from the target of its number in the plan, on the channel that
  the registry had under the target's name when the work on the target began.
  The steps follow the two loops: a turn, the turns on one target, the targets.
-/
import OneAiKey.Forward.SendBudget

namespace OneAiKey

/-! ## §1. One turn. -/

section Turn

variable {world : World} {req : ForwardRequest} {target : ForwardTarget} {poolState : PoolState}
  {classifier : FailureClassifier} {routeTargetAvailable : Bool}

/-- If the event is a send, it was made in this turn for the target, with what the channel
holds and a key of its pool. -/
def ForwardEvent.SentIn (world : World) (req : ForwardRequest) (target : ForwardTarget)
    (poolState : PoolState) (classifier : FailureClassifier) (turn : TurnWorld) :
    ForwardEvent → Prop
  | sent snapshot upstream body =>
      ∃ routeTargetAvailable routeState retryCredentialId pool selected retryCandidates attempt,
        selectForTurn turn routeState retryCredentialId = (pool, .ok selected) ∧
        snapshot = selectionSnapshot req target poolState classifier routeTargetAvailable turn
          selected retryCandidates attempt ∧
        upstream = forwardUpstreamRequest poolState selected
          (world.transformRequestForTarget poolState.providerKind req target.upstreamModel).1
          (req.query.getD "") ∧
        body =
          (world.transformRequestForTarget poolState.providerKind req target.upstreamModel).2
  | _ => True

theorem failureBranch_not_sent {turn : TurnWorld} {snapshot : RequestSelectionSnapshot}
    {frozen : FrozenRetryCandidates} {failure : ClassifiedFailure}
    {failureSource : FailureSource} {fallback : Response} {onReturn onDrift : TurnEnd} :
    ∀ event ∈ (failureBranch world poolState turn snapshot frozen failure failureSource fallback
      onReturn onDrift).1, event.isSend = false := by
  unfold failureBranch
  split
  · intro event hmem
    cases hmem
  · split
    all_goals
      intro event hmem
      rw [List.mem_singleton.mp hmem]
      rfl

/-- Nothing is sent between the end of a send and the end of its turn. -/
theorem afterSend_not_sent {turn : TurnWorld} {snapshot : RequestSelectionSnapshot}
    {frozen : FrozenRetryCandidates} :
    ∀ event ∈ (afterSend world poolState classifier turn snapshot frozen).1,
      event.isSend = false := by
  rcases @afterSend_cases world poolState classifier turn snapshot frozen with
    ⟨turnEnd, -, hend⟩ | ⟨_, _, _, _, _, -, -, hbranch⟩
  · rw [hend]
    exact fun event hmem => absurd hmem List.not_mem_nil
  · rw [hbranch]
    exact failureBranch_not_sent

theorem ForwardEvent.SentIn.of_not_sent {turn : TurnWorld} {event : ForwardEvent}
    (h : event.isSend = false) : event.SentIn world req target poolState classifier turn := by
  cases event with
  | sent snapshot upstream body => cases h
  | directed directive => trivial
  | skipped channelId => trivial

theorem forwardTurn_sentIn {turn : TurnWorld} {state : AttemptState} :
    ∀ event ∈ (forwardTurn world req target poolState classifier routeTargetAvailable turn
      state).1, event.SentIn world req target poolState classifier turn := by
  -- a skipped target sends nothing
  have hskipped : ∀ event ∈ [ForwardEvent.skipped target.channelId],
      event.SentIn world req target poolState classifier turn := by
    intro event hmem
    rw [List.mem_singleton.mp hmem]
    trivial
  unfold forwardTurn
  dsimp only
  split
  · exact hskipped
  · split
    · intro event hmem
      cases hmem
    · exact hskipped
    · next pool selected hselected =>
        intro event hmem
        rcases List.mem_cons.mp hmem with hsent | hrest
        · rw [hsent]
          exact ⟨_, _, _, _, _, _, _, hselected, rfl, rfl, rfl⟩
        · exact .of_not_sent (afterSend_not_sent event hrest)

/-! ## §2. The loops. -/

/-- The event happened in one of the turns on the target. -/
def ForwardEvent.SentOn (world : World) (req : ForwardRequest) (target : ForwardTarget)
    (poolState : PoolState) (classifier : FailureClassifier) (turn : Nat → TurnWorld)
    (event : ForwardEvent) : Prop :=
  ∃ n, event.SentIn world req target poolState classifier (turn n)

/-- The turns on one target, by induction on the fuel. -/
theorem forwardLoop_sentOn {turn : Nat → TurnWorld} {fuel : Nat} :
    ∀ {n : Nat} {state : AttemptState},
      ∀ event ∈ (forwardLoop world req target poolState classifier routeTargetAvailable turn
        fuel n state).1, event.SentOn world req target poolState classifier turn := by
  induction fuel with
  | zero =>
      intro n state event hmem
      cases hmem
  | succ fuel ih =>
      intro n state event hmem
      unfold forwardLoop at hmem
      have hturn := @forwardTurn_sentIn world req target poolState classifier
        routeTargetAvailable (turn n) state
      cases hout : forwardTurn world req target poolState classifier routeTargetAvailable
          (turn n) state with
      | mk events turnEnd =>
          rw [hout] at hmem hturn
          -- the turn is the last one, or another follows
          cases turnEnd with
          | done result => exact ⟨n, hturn event hmem⟩
          | again next =>
              rcases List.mem_append.mp hmem with hfirst | hrest
              · exact ⟨n, hturn event hfirst⟩
              · exact ih event hrest

end Turn

section Targets

variable {world : World} {req : ForwardRequest}

/-- If the event is a send, it was made for one of the targets, which have the numbers from
`routeAttempt` on. -/
def ForwardEvent.SentTo (world : World) (req : ForwardRequest) (routeAttempt : Nat)
    (targets : List ForwardTarget) (event : ForwardEvent) : Prop :=
  event.isSend = true → ∃ k target poolState classifier, targets[k]? = some target ∧
    (world.target (routeAttempt + k)).channel = some (poolState, classifier) ∧
    event.SentOn world req target poolState classifier (world.target (routeAttempt + k)).turn

theorem forwardWithPool_sentTo {fuel routeAttempt initialAttempt : Nat} {target : ForwardTarget}
    {routeTargetAvailable : Bool} {targets : List ForwardTarget} :
    ∀ event ∈ (forwardWithPool fuel world req target routeAttempt routeTargetAvailable
      initialAttempt).1, event.SentTo world req routeAttempt (target :: targets) := by
  unfold forwardWithPool
  split
  · intro event hmem
    cases hmem
  · next poolState classifier hchannel =>
      intro event hmem _
      exact ⟨0, target, poolState, classifier, rfl, hchannel, forwardLoop_sentOn event hmem⟩

theorem ForwardEvent.SentTo.cons {routeAttempt : Nat} {target : ForwardTarget}
    {targets : List ForwardTarget} {event : ForwardEvent}
    (h : event.SentTo world req (routeAttempt + 1) targets) :
    event.SentTo world req routeAttempt (target :: targets) := by
  intro hsend
  obtain ⟨k, target', poolState, classifier, htarget, hchannel, hsent⟩ := h hsend
  have hnumber : routeAttempt + (k + 1) = routeAttempt + 1 + k := by omega
  refine ⟨k + 1, target', poolState, classifier, htarget, ?_, ?_⟩
  · rw [hnumber]
    exact hchannel
  · rw [hnumber]
    exact hsent

/-- The targets, by induction on those that are left. -/
theorem forwardTargets_sentTo {fuel : Nat} {targets : List ForwardTarget} :
    ∀ {lastResponse : Option Response} {routeAttempt : Nat},
      ∀ event ∈ (forwardTargets fuel world req lastResponse routeAttempt targets).1,
        event.SentTo world req routeAttempt targets := by
  induction targets with
  | nil =>
      intro lastResponse routeAttempt event hmem
      cases hmem
  | cons target targets ih =>
      intro lastResponse routeAttempt event hmem
      unfold forwardTargets at hmem
      dsimp only at hmem
      have hpool := @forwardWithPool_sentTo world req fuel routeAttempt
        (if 0 < routeAttempt then 1 else 0) target (!targets.isEmpty) targets
      cases hout : forwardWithPool fuel world req target routeAttempt (!targets.isEmpty)
          (if 0 < routeAttempt then 1 else 0) with
      | mk events result =>
          rw [hout] at hmem hpool
          -- every result but a fallback ends with this target's own events
          cases result with
          | response response => exact hpool event hmem
          | panicked => exact hpool event hmem
          | outOfFuel => exact hpool event hmem
          | routeFallback response =>
              dsimp only at hmem
              split at hmem
              · rcases List.mem_append.mp hmem with hfirst | hrest
                · exact hpool event hfirst
                · exact (ih event hrest).cons
              · exact hpool event hmem

/-- Every send of a request is made for a target of its plan. -/
theorem forwardWithPools_sentTo {fuel : Nat} :
    ∀ event ∈ (forwardWithPools fuel world req).1,
      event.SentTo world req 0 req.routePlan.targets :=
  forwardTargets_sentTo

end Targets

end OneAiKey
