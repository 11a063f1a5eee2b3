/-
  OneAiKey.Forward.SendBudget — a client request is sent upstream at most twice.

  The abstract view is an automaton over the trace of a request, `SendPhase`:
  the first send waits for a directive, only a retry directive (of a request
  that may be retried) or a skipped target leads to the phase of the last send,
  and nothing leads on from there.  Every run of the two loops is accepted by
  it, and the counts are read off the automaton.

  Main results:
    * `forwardTurn_spec` — what one turn does, as steps of the automaton;
    * `forwardWithPools_accepted` — every run is a trace of the automaton;
    * `at_most_two_sends` — termination, the two bounds, and what stands between
      two sends.
-/
import OneAiKey.Forward
import OneAiKey.Lib.TraceAcceptor

namespace OneAiKey

/-! ## §1. The automaton. -/

/-- Where a request stands with its sends. -/
inductive SendPhase where
  /-- Nothing was sent, and no target was left. -/
  | fresh
  /-- The first attempt was sent; its directive is open. -/
  | awaiting
  /-- One more send is left. -/
  | later
  /-- No send is left. -/
  | spent
  deriving DecidableEq, Repr

def RetryDirective.isRetry : RetryDirective → Bool
  | returnCurrentError _ => false
  | _ => true

def ForwardEvent.isSend : ForwardEvent → Bool
  | sent _ _ _ => true
  | _ => false

/-- The event is a directive to try again. -/
def ForwardEvent.IsRetry (event : ForwardEvent) : Prop :=
  ∃ directive, event = .directed directive ∧ directive.isRetry = true

/-- The steps; a retry directive needs a request that may be retried. -/
def SendPhase.step (mayRetry : Bool) : SendPhase → ForwardEvent → Option SendPhase
  | fresh, .skipped _ => some later
  | fresh, .sent _ _ _ => some awaiting
  | awaiting, .directed directive =>
      if directive.isRetry then (if mayRetry then some later else none) else some spent
  | later, .skipped _ => some later
  | later, .sent _ _ _ => some spent
  | spent, .directed directive => if directive.isRetry then none else some spent
  | _, _ => none

/-- The sends that are left. -/
def SendPhase.budget (mayRetry : Bool) : SendPhase → Nat
  | fresh => if mayRetry then 2 else 1
  | awaiting => if mayRetry then 1 else 0
  | later => 1
  | spent => 0

/-- A send takes one unit from the budget, and nothing adds to it. -/
theorem SendPhase.step_budget {mayRetry : Bool} (ph : SendPhase) (event : ForwardEvent)
    (ph' : SendPhase) (h : ph.step mayRetry event = some ph') :
    ph'.budget mayRetry + (if event.isSend = true then 1 else 0) ≤ ph.budget mayRetry := by
  cases event with
  | skipped channelId =>
      cases ph <;> cases h <;> cases mayRetry <;> simp [SendPhase.budget, ForwardEvent.isSend]
  | sent snapshot upstream body =>
      cases ph <;> cases h <;> cases mayRetry <;> simp [SendPhase.budget, ForwardEvent.isSend]
  | directed directive =>
      cases hretry : directive.isRetry <;> cases ph <;> cases mayRetry <;>
        simp [SendPhase.step, hretry] at h <;> subst h <;>
        simp [SendPhase.budget, ForwardEvent.isSend]

/-- A send was made and no retry directive has come. -/
def SendPhase.Committed (ph : SendPhase) : Prop := ph = awaiting ∨ ph = spent

theorem SendPhase.step_committed {mayRetry : Bool} (ph : SendPhase) (event : ForwardEvent)
    (ph' : SendPhase) (hph : ph.Committed) (h : ph.step mayRetry event = some ph')
    (hevent : ¬ event.IsRetry) : ph'.Committed := by
  have hdirective : ∀ directive, event = .directed directive → directive.isRetry = false := by
    intro directive heq
    by_contra hretry
    exact hevent ⟨directive, heq, by simpa using hretry⟩
  cases event with
  | directed directive =>
      have hfalse := hdirective directive rfl
      rcases hph with rfl | rfl
      · simp only [SendPhase.step, hfalse] at h
        cases h
        exact Or.inr rfl
      · simp only [SendPhase.step, hfalse] at h
        cases h
        exact Or.inr rfl
  | sent snapshot upstream body => rcases hph with rfl | rfl <;> cases h
  | skipped channelId => rcases hph with rfl | rfl <;> cases h

/-- Between two sends of an accepted trace stands a retry directive. -/
theorem retry_between_sends {mayRetry : Bool} {ph ph' : SendPhase}
    {before between after : List ForwardEvent} {first second : ForwardEvent}
    (h : TraceAcceptor.run (SendPhase.step mayRetry) ph
      (before ++ first :: (between ++ second :: after)) = some ph')
    (hfirst : first.isSend = true) (hsecond : second.isSend = true) :
    ∃ event ∈ between, event.IsRetry := by
  rw [TraceAcceptor.run_append] at h
  obtain ⟨ph₁, -, h⟩ := Option.bind_eq_some_iff.mp h
  rw [TraceAcceptor.run_cons] at h
  obtain ⟨ph₂, hsent, h⟩ := Option.bind_eq_some_iff.mp h
  rw [TraceAcceptor.run_append] at h
  obtain ⟨ph₃, hbetween, h⟩ := Option.bind_eq_some_iff.mp h
  rw [TraceAcceptor.run_cons] at h
  obtain ⟨ph₄, hagain, -⟩ := Option.bind_eq_some_iff.mp h
  -- behind the first send the budget is in use
  have hcommitted : ph₂.Committed := by
    cases first with
    | sent snapshot upstream body =>
        cases ph₁ <;> cases hsent
        · exact Or.inl rfl
        · exact Or.inr rfl
    | directed directive => cases hfirst
    | skipped channelId => cases hfirst
  -- and a second send needs it free
  have hopen : ¬ ph₃.Committed := by
    cases second with
    | sent snapshot upstream body =>
        rintro (rfl | rfl) <;> cases hagain
    | directed directive => cases hsecond
    | skipped channelId => cases hsecond
  exact TraceAcceptor.exists_escape SendPhase.step_committed hbetween hcommitted hopen

/-! ## §2. One turn. -/

/-- The request's own conditions for a second send. -/
def ForwardRequest.mayRetry (req : ForwardRequest) : Bool :=
  req.requestContext.bodyReplayable && !req.requestContext.streaming
    && !(req.selectionReason == .namedChannel) && endpointRetryEligible req.requestContext.endpoint

/-- The phase of a turn that begins with this attempt number. -/
def phaseOfAttempt (attempt : Nat) : SendPhase := if attempt = 0 then .fresh else .later

/-- The phase after the send of that turn. -/
def phaseAfterSend (attempt : Nat) : SendPhase := if attempt = 0 then .awaiting else .spent

/-- The work on the target ends here, and the request with it. -/
def TurnEnd.Final (turnEnd : TurnEnd) : Prop :=
  (∃ response, turnEnd = .done (.response response)) ∨ turnEnd = .done .panicked

/-- What a turn that begins with attempt number `attempt` does: its events are accepted,
and it ends the request, or leads to the phase of the last send: to the next target, or
to the next turn, which only a turn at attempt 0 does. -/
def TurnSpec (mayRetry : Bool) (ph : SendPhase) (attempt : Nat)
    (out : List ForwardEvent × TurnEnd) : Prop :=
  ∃ ph', TraceAcceptor.run (SendPhase.step mayRetry) ph out.1 = some ph' ∧
    (out.2.Final ∨ (ph' = .later ∧ ((∃ response, out.2 = .done (.routeFallback response)) ∨
      (attempt = 0 ∧ ∃ state, out.2 = .again state ∧ 1 ≤ state.attempt))))

section Turn

variable {world : World} {req : ForwardRequest} {target : ForwardTarget} {poolState : PoolState}
  {classifier : FailureClassifier} {routeTargetAvailable : Bool} {turn : TurnWorld}
  {snapshot : RequestSelectionSnapshot} {frozen : FrozenRetryCandidates}

/-- The snapshot describes the request. -/
def Describes (req : ForwardRequest) (snapshot : RequestSelectionSnapshot) : Prop :=
  snapshot.bodyReplayable = req.requestContext.bodyReplayable ∧
    snapshot.streaming = req.requestContext.streaming ∧
    snapshot.endpoint = req.requestContext.endpoint ∧
    snapshot.selectionReason = req.selectionReason

theorem retryGateOpen_of_isRetry {input : TransitionInput}
    (h : (retryAfterFailure input).isRetry = true) : RetryGateOpen input := by
  rcases retryAfterFailure_cases input with ⟨reason, hr⟩ | ⟨hopen, -⟩
  · rw [hr] at h
    cases h
  · exact hopen

/-- A retry directive comes only at attempt 0 of a request that may be retried. -/
theorem retry_needs_first_attempt {failure : ClassifiedFailure} {failureSource : FailureSource}
    {now : Instant} {directive : RetryDirective} (hreq : Describes req snapshot)
    (h : transitionObservedFailure world poolState snapshot failure failureSource now =
      some directive) (hretry : directive.isRetry = true) :
    snapshot.attempt = 0 ∧ req.mayRetry = true := by
  unfold transitionObservedFailure at h
  obtain ⟨result, hresult, rfl⟩ := Option.map_eq_some_iff.mp h
  obtain ⟨-, hdirective⟩ := transitionAfterFailure_retry hresult
  -- a directive to retry has passed every gate
  have hopen := retryGateOpen_of_isRetry (hdirective ▸ hretry)
  refine ⟨hopen.first_attempt, ?_⟩
  obtain ⟨hbody, hstreaming, hendpoint, hreason⟩ := hreq
  have h1 : req.requestContext.bodyReplayable = true := hbody.symm.trans hopen.bodyReplayable
  have h2 : req.requestContext.streaming = false := hstreaming.symm.trans hopen.not_streaming
  have h3 : ¬ req.selectionReason = .namedChannel :=
    fun heq => hopen.not_named_channel (hreason.trans heq)
  have h4 : endpointRetryEligible req.requestContext.endpoint = true := by
    rw [← hendpoint]
    rcases hopen.endpoint_eligible with heq | heq
    · show endpointRetryEligible snapshot.endpoint = true
      rw [show snapshot.endpoint = .chatCompletions from heq]
      rfl
    · show endpointRetryEligible snapshot.endpoint = true
      rw [show snapshot.endpoint = .responses from heq]
      rfl
  unfold ForwardRequest.mayRetry
  simp [h1, h2, h3, h4]

/-- From the phase after a send, a failure branch ends the request or spends the retry. -/
theorem failureBranch_spec {failure : ClassifiedFailure} {failureSource : FailureSource}
    {fallback : Response} {onReturn onDrift : TurnEnd} (hreq : Describes req snapshot)
    (hreturn : onReturn.Final) (hdrift : onDrift.Final) :
    TurnSpec req.mayRetry (phaseAfterSend snapshot.attempt) snapshot.attempt
      (failureBranch world poolState turn snapshot frozen failure failureSource fallback
        onReturn onDrift) := by
  unfold failureBranch
  cases htransition : transitionObservedFailure world poolState snapshot failure failureSource
      turn.transitionNow with
  | none => exact ⟨_, rfl, Or.inl (Or.inr rfl)⟩
  | some directive =>
      dsimp only
      -- a retry directive leads from the first send to the phase of the last one
      have hretry : directive.isRetry = true → snapshot.attempt = 0 ∧
          TraceAcceptor.run (SendPhase.step req.mayRetry) (phaseAfterSend snapshot.attempt)
            [.directed directive] = some .later := by
        intro hisRetry
        obtain ⟨hattempt, hmay⟩ := retry_needs_first_attempt hreq htransition hisRetry
        refine ⟨hattempt, ?_⟩
        unfold phaseAfterSend
        rw [if_pos hattempt, hmay, TraceAcceptor.run_cons]
        show ((SendPhase.awaiting.step true (.directed directive)).bind _) = _
        simp [SendPhase.step, hisRetry, TraceAcceptor.run]
      cases directive with
      | returnCurrentError reason =>
          have hspent : TraceAcceptor.run (SendPhase.step req.mayRetry)
              (phaseAfterSend snapshot.attempt) [.directed (.returnCurrentError reason)] =
              some .spent := by
            unfold phaseAfterSend
            split <;> rfl
          exact ⟨_, hspent, Or.inl hreturn⟩
      | retryRouteTarget =>
          obtain ⟨-, hrun⟩ := hretry rfl
          exact ⟨_, hrun, Or.inr ⟨rfl, Or.inl ⟨fallback, rfl⟩⟩⟩
      | retrySameTarget =>
          obtain ⟨hattempt, hrun⟩ := hretry rfl
          exact ⟨_, hrun, Or.inr ⟨rfl, Or.inr ⟨hattempt, _, rfl, Nat.le_add_left _ _⟩⟩⟩
      | retryCredential credentialId =>
          obtain ⟨hattempt, hrun⟩ := hretry rfl
          cases hnext : frozen.advanceIfNext credentialId with
          | none =>
              have happly : applyRetryDirectiveToAttemptState (.retryCredential credentialId)
                  (some frozen) snapshot.attempt =
                  (.frozenCandidateDrift credentialId, some frozen, snapshot.attempt) := by
                simp only [applyRetryDirectiveToAttemptState, Option.bind_some, hnext]
              rw [happly]
              exact ⟨_, hrun, Or.inl hdrift⟩
          | some advanced =>
              have happly : applyRetryDirectiveToAttemptState (.retryCredential credentialId)
                  (some frozen) snapshot.attempt =
                  (.retryCredential credentialId, some advanced, snapshot.attempt + 1) := by
                simp only [applyRetryDirectiveToAttemptState, Option.bind_some, hnext]
              rw [happly]
              exact ⟨_, hrun, Or.inr ⟨rfl, Or.inr ⟨hattempt, _, rfl, Nat.le_add_left _ _⟩⟩⟩

theorem filterRejectionEnd_final {rejection : FilterRejection} {upstreamStatus : Nat} :
    (filterRejectionEnd world poolState turn snapshot rejection upstreamStatus).Final := by
  unfold filterRejectionEnd
  dsimp only
  split
  · exact Or.inl ⟨_, rfl⟩
  · split
    · split
      · exact Or.inr rfl
      · exact Or.inl ⟨_, rfl⟩
    · exact Or.inl ⟨_, rfl⟩

/-- What follows a send: the request ends at once, or a failure branch is taken whose own ends
end the request. -/
theorem afterSend_cases :
    (∃ turnEnd : TurnEnd, turnEnd.Final ∧
      afterSend world poolState classifier turn snapshot frozen = ([], turnEnd)) ∨
    ∃ failure failureSource fallback onReturn onDrift, onReturn.Final ∧ onDrift.Final ∧
      afterSend world poolState classifier turn snapshot frozen =
        failureBranch world poolState turn snapshot frozen failure failureSource fallback
          onReturn onDrift := by
  have hdriftEnd : driftEnd.Final := Or.inl ⟨_, rfl⟩
  -- a failure that is answered with the branch's own response
  have hanswered : ∀ failure failureSource (response : Response),
      ∃ failure' failureSource' fallback onReturn onDrift, onReturn.Final ∧ onDrift.Final ∧
        failureBranch world poolState turn snapshot frozen failure failureSource response
            (.done (.response response)) driftEnd =
          failureBranch world poolState turn snapshot frozen failure' failureSource' fallback
            onReturn onDrift :=
    fun failure failureSource response =>
      ⟨failure, failureSource, response, _, _, Or.inl ⟨_, rfl⟩, hdriftEnd, rfl⟩
  unfold afterSend
  split
  · exact Or.inr (hanswered _ _ _)
  · next upstream _ =>
      split
      · split
        · exact Or.inl ⟨_, Or.inl ⟨_, rfl⟩, rfl⟩
        · split
          · exact Or.inr (hanswered _ _ _)
          · split
            · exact Or.inl ⟨_, filterRejectionEnd_final, rfl⟩
            · exact Or.inl ⟨_, Or.inl ⟨_, rfl⟩, rfl⟩
          · exact Or.inr (hanswered _ _ _)
      · split
        · exact Or.inr (hanswered _ _ _)
        · refine Or.inr ⟨_, _, _, _, _, ?_, ?_, rfl⟩
          -- the body as it is, redacted or rejected, is the answer in both places
          all_goals
            split
            · exact Or.inl ⟨_, rfl⟩
            · exact Or.inl ⟨_, rfl⟩
            · exact filterRejectionEnd_final

theorem afterSend_spec (hreq : Describes req snapshot) :
    TurnSpec req.mayRetry (phaseAfterSend snapshot.attempt) snapshot.attempt
      (afterSend world poolState classifier turn snapshot frozen) := by
  rcases @afterSend_cases world poolState classifier turn snapshot frozen with
    ⟨turnEnd, hfinal, hend⟩ | ⟨_, _, _, _, _, hreturn, hdrift, hbranch⟩
  · rw [hend]
    exact ⟨_, rfl, Or.inl hfinal⟩
  · rw [hbranch]
    exact failureBranch_spec hreq hreturn hdrift

/-- One turn of the inner loop. -/
theorem forwardTurn_spec (state : AttemptState) :
    TurnSpec req.mayRetry (phaseOfAttempt state.attempt) state.attempt
      (forwardTurn world req target poolState classifier routeTargetAvailable turn state) := by
  -- a target that is skipped sends nothing and leaves the phase as it is
  have hskip : ∀ response, TurnSpec req.mayRetry (phaseOfAttempt state.attempt) state.attempt
      ([.skipped target.channelId], .done (.routeFallback response)) := by
    intro response
    refine ⟨.later, ?_, Or.inr ⟨rfl, Or.inl ⟨response, rfl⟩⟩⟩
    unfold phaseOfAttempt
    split <;> rfl
  unfold forwardTurn
  dsimp only
  split
  · exact hskip _
  · split
    · exact ⟨_, rfl, Or.inl (Or.inr rfl)⟩
    · exact hskip _
    · next pool selected _ =>
        have hreq : ∀ retryCandidates, Describes req (selectionSnapshot req target poolState
            classifier routeTargetAvailable turn selected retryCandidates state.attempt) :=
          fun _ => ⟨rfl, rfl, rfl, rfl⟩
        -- the send, and then what follows it in the same turn
        obtain ⟨ph', hrun, hend⟩ := @afterSend_spec world req poolState classifier turn _
          (freezeRetryCandidates poolState turn pool state.frozenRetryCandidates) (hreq _)
        refine ⟨ph', ?_, hend⟩
        rw [TraceAcceptor.run_cons]
        have hsent : ∀ snapshot upstream body, (phaseOfAttempt state.attempt).step req.mayRetry
            (.sent snapshot upstream body) = some (phaseAfterSend state.attempt) := by
          intro snapshot upstream body
          unfold phaseOfAttempt phaseAfterSend
          split <;> rfl
        rw [hsent]
        exact hrun

end Turn

/-! ## §3. The inner loop. -/

section Loop

variable (world : World) (req : ForwardRequest) (target : ForwardTarget) (poolState : PoolState)
  (classifier : FailureClassifier) (routeTargetAvailable : Bool) (turn : Nat → TurnWorld)

/-- The work on one target is accepted, and leaves its target only in the phase of the
last send. -/
def LoopSpec (mayRetry : Bool) (ph : SendPhase) (out : List ForwardEvent × PoolForwardResult) :
    Prop :=
  ∃ ph', TraceAcceptor.run (SendPhase.step mayRetry) ph out.1 = some ph' ∧
    ∀ response, out.2 = .routeFallback response → ph' = .later

/-- The inner loop, by induction on its fuel. -/
theorem forwardLoop_spec (fuel : Nat) : ∀ (n : Nat) (state : AttemptState),
    LoopSpec req.mayRetry (phaseOfAttempt state.attempt)
      (forwardLoop world req target poolState classifier routeTargetAvailable turn fuel n
        state) := by
  induction fuel with
  | zero => exact fun n state => ⟨_, rfl, fun response h => by cases h⟩
  | succ fuel ih =>
      intro n state
      obtain ⟨ph', hrun, hend⟩ := @forwardTurn_spec world req target poolState classifier
        routeTargetAvailable (turn n) state
      unfold forwardLoop
      cases hturn : forwardTurn world req target poolState classifier routeTargetAvailable
          (turn n) state with
      | mk events turnEnd =>
          rw [hturn] at hrun hend
          cases turnEnd with
          | done result =>
              refine ⟨ph', hrun, ?_⟩
              intro response hresult
              rcases hend with (⟨response', heq⟩ | heq) | ⟨hlater, -⟩
              · have hdone : TurnEnd.done result = .done (.response response') := heq
                cases hdone
                cases hresult
              · have hdone : TurnEnd.done result = .done .panicked := heq
                cases hdone
                cases hresult
              · exact hlater
          | again next =>
              -- a turn that goes on has sent, and the next one is a later attempt
              rcases hend with (⟨response, heq⟩ | heq) |
                ⟨hlater, ⟨response, heq⟩ | ⟨-, next', heq, hattempt⟩⟩
              · cases heq
              · cases heq
              · cases heq
              · cases heq
                obtain ⟨ph'', hrest, hfallback⟩ := ih (n + 1) next
                have hphase : phaseOfAttempt next.attempt = ph' := by
                  unfold phaseOfAttempt
                  rw [if_neg (by omega), hlater]
                rw [hphase] at hrest
                exact ⟨ph'', TraceAcceptor.run_append_some hrun hrest, hfallback⟩

/-- A turn that goes on began at attempt 0, and its next turn does not. -/
theorem forwardTurn_again {state next : AttemptState} {n : Nat} {events : List ForwardEvent}
    (h : forwardTurn world req target poolState classifier routeTargetAvailable (turn n) state =
      (events, .again next)) : state.attempt = 0 ∧ 1 ≤ next.attempt := by
  obtain ⟨ph', -, hend⟩ := @forwardTurn_spec world req target poolState classifier
    routeTargetAvailable (turn n) state
  rw [h] at hend
  rcases hend with (⟨response, heq⟩ | heq) | ⟨-, ⟨response, heq⟩ | ⟨hattempt, next', heq, hnext⟩⟩
  · cases heq
  · cases heq
  · cases heq
  · cases heq
    exact ⟨hattempt, hnext⟩

theorem forwardTurn_done_ne_outOfFuel {state : AttemptState} {n : Nat}
    {events : List ForwardEvent} {result : PoolForwardResult}
    (h : forwardTurn world req target poolState classifier routeTargetAvailable (turn n) state =
      (events, .done result)) : result ≠ .outOfFuel := by
  obtain ⟨ph', -, hend⟩ := @forwardTurn_spec world req target poolState classifier
    routeTargetAvailable (turn n) state
  rw [h] at hend
  rintro rfl
  rcases hend with (⟨response, heq⟩ | heq) | ⟨-, ⟨response, heq⟩ | ⟨-, next, heq, -⟩⟩ <;>
    cases heq

/-- From a later attempt one turn is enough. -/
theorem forwardLoop_one_turn (fuel n : Nat) (state : AttemptState) (hlater : 1 ≤ state.attempt) :
    forwardLoop world req target poolState classifier routeTargetAvailable turn (fuel + 1) n
        state =
      forwardLoop world req target poolState classifier routeTargetAvailable turn 1 n state ∧
    (forwardLoop world req target poolState classifier routeTargetAvailable turn 1 n
      state).2 ≠ .outOfFuel := by
  unfold forwardLoop
  cases hturn : forwardTurn world req target poolState classifier routeTargetAvailable
      (turn n) state with
  | mk events turnEnd =>
      cases turnEnd with
      | done result => exact ⟨rfl, forwardTurn_done_ne_outOfFuel _ _ _ _ _ _ _ hturn⟩
      | again next =>
          have hfirst := (forwardTurn_again _ _ _ _ _ _ _ hturn).1
          omega

/-- From the first attempt two turns are enough. -/
theorem forwardLoop_two_turns (fuel n : Nat) (state : AttemptState) :
    forwardLoop world req target poolState classifier routeTargetAvailable turn (fuel + 2) n
        state =
      forwardLoop world req target poolState classifier routeTargetAvailable turn 2 n state ∧
    (forwardLoop world req target poolState classifier routeTargetAvailable turn 2 n
      state).2 ≠ .outOfFuel := by
  unfold forwardLoop
  cases hturn : forwardTurn world req target poolState classifier routeTargetAvailable
      (turn n) state with
  | mk events turnEnd =>
      cases turnEnd with
      | done result => exact ⟨rfl, forwardTurn_done_ne_outOfFuel _ _ _ _ _ _ _ hturn⟩
      | again next =>
          have hnext := (forwardTurn_again _ _ _ _ _ _ _ hturn).2
          obtain ⟨hsame, hends⟩ := forwardLoop_one_turn world req target poolState classifier
            routeTargetAvailable turn fuel (n + 1) next hnext
          dsimp only
          rw [hsame]
          exact ⟨rfl, hends⟩

end Loop

/-! ## §4. The outer loop. -/

section Targets

variable (world : World) (req : ForwardRequest)

theorem forwardWithPool_spec (fuel : Nat) (target : ForwardTarget) (routeAttempt : Nat)
    (routeTargetAvailable : Bool) (initialAttempt : Nat) :
    LoopSpec req.mayRetry (phaseOfAttempt initialAttempt)
      (forwardWithPool fuel world req target routeAttempt routeTargetAvailable
        initialAttempt) := by
  unfold forwardWithPool
  split
  · exact ⟨_, rfl, fun response h => by cases h⟩
  · exact forwardLoop_spec world req target _ _ routeTargetAvailable _ fuel 0
      ⟨initialAttempt, none, none⟩

theorem forwardWithPool_two_turns (fuel : Nat) (target : ForwardTarget) (routeAttempt : Nat)
    (routeTargetAvailable : Bool) (initialAttempt : Nat) :
    forwardWithPool (fuel + 2) world req target routeAttempt routeTargetAvailable
        initialAttempt =
      forwardWithPool 2 world req target routeAttempt routeTargetAvailable initialAttempt ∧
    (forwardWithPool 2 world req target routeAttempt routeTargetAvailable
      initialAttempt).2 ≠ .outOfFuel := by
  unfold forwardWithPool
  split
  · exact ⟨rfl, fun h => by cases h⟩
  · exact forwardLoop_two_turns world req target _ _ routeTargetAvailable _ fuel 0 _

/-- The outer loop from target `routeAttempt` on, by induction on the targets that are
left. -/
theorem forwardTargets_accepted (fuel : Nat) (targets : List ForwardTarget) :
    ∀ (lastResponse : Option Response) (routeAttempt : Nat),
      ∃ ph', TraceAcceptor.run (SendPhase.step req.mayRetry)
        (phaseOfAttempt (if 0 < routeAttempt then 1 else 0))
        (forwardTargets fuel world req lastResponse routeAttempt targets).1 = some ph' := by
  induction targets with
  | nil => exact fun lastResponse routeAttempt => ⟨_, rfl⟩
  | cons target targets ih =>
      intro lastResponse routeAttempt
      obtain ⟨ph', hrun, hfallback⟩ := forwardWithPool_spec world req fuel target routeAttempt
        (!targets.isEmpty) (if 0 < routeAttempt then 1 else 0)
      unfold forwardTargets
      dsimp only
      cases hpool : forwardWithPool fuel world req target routeAttempt (!targets.isEmpty)
          (if 0 < routeAttempt then 1 else 0) with
      | mk events result =>
          rw [hpool] at hrun hfallback
          cases result with
          | response response => exact ⟨ph', hrun⟩
          | panicked => exact ⟨ph', hrun⟩
          | outOfFuel => exact ⟨ph', hrun⟩
          | routeFallback response =>
              dsimp only
              cases htargets : !targets.isEmpty with
              | false => exact ⟨ph', hrun⟩
              | true =>
                obtain ⟨ph'', hrest⟩ := ih (some response) (routeAttempt + 1)
                -- the next target begins in the phase of the last send
                have hphase : phaseOfAttempt (if 0 < routeAttempt + 1 then 1 else 0) = ph' := by
                  rw [hfallback response rfl, if_pos (Nat.succ_pos routeAttempt)]
                  rfl
                rw [hphase] at hrest
                exact ⟨ph'', TraceAcceptor.run_append_some hrun hrest⟩

/-- Two turns for each target are enough for the whole run. -/
theorem forwardTargets_two_turns (fuel : Nat) (targets : List ForwardTarget) :
    ∀ (lastResponse : Option Response) (routeAttempt : Nat),
      forwardTargets (fuel + 2) world req lastResponse routeAttempt targets =
        forwardTargets 2 world req lastResponse routeAttempt targets ∧
      (forwardTargets 2 world req lastResponse routeAttempt targets).2 ≠ .outOfFuel := by
  induction targets with
  | nil => exact fun lastResponse routeAttempt => ⟨rfl, fun h => by cases h⟩
  | cons target targets ih =>
      intro lastResponse routeAttempt
      obtain ⟨hsame, hends⟩ := forwardWithPool_two_turns world req fuel target routeAttempt
        (!targets.isEmpty) (if 0 < routeAttempt then 1 else 0)
      unfold forwardTargets
      dsimp only
      rw [hsame]
      cases hpool : forwardWithPool 2 world req target routeAttempt (!targets.isEmpty)
          (if 0 < routeAttempt then 1 else 0) with
      | mk events result =>
          rw [hpool] at hends
          cases result with
          | response response => exact ⟨rfl, fun h => by cases h⟩
          | panicked => exact ⟨rfl, fun h => by cases h⟩
          | outOfFuel => exact absurd rfl hends
          -- only a fallback goes on to the next target
          | routeFallback response =>
              dsimp only
              split
              · obtain ⟨hrestSame, hrestEnds⟩ := ih (some response) (routeAttempt + 1)
                rw [hrestSame]
                exact ⟨rfl, hrestEnds⟩
              · exact ⟨rfl, fun h => by cases h⟩

/-- Every run of the two loops is a trace of the automaton. -/
theorem forwardWithPools_accepted (fuel : Nat) :
    ∃ ph', TraceAcceptor.run (SendPhase.step req.mayRetry) .fresh
      (forwardWithPools fuel world req).1 = some ph' :=
  forwardTargets_accepted world req fuel req.routePlan.targets none 0

end Targets

/-! ## §5. At most two sends. -/

/-- Whatever a request meets on its way through its targets: the run ends, with a response
or a panic, and does not depend on how much fuel beyond two turns a target has; there are
at most two sends, and at most one for a request that must not be sent again; and between
two sends stands a retry directive. -/
theorem at_most_two_sends (world : World) (req : ForwardRequest) (fuel : Nat) :
    forwardWithPools (fuel + 2) world req = forwardWithPools 2 world req ∧
    (forwardWithPools (fuel + 2) world req).2 ≠ .outOfFuel ∧
    (forwardWithPools (fuel + 2) world req).1.countP ForwardEvent.isSend ≤ 2 ∧
    ((req.requestContext.bodyReplayable = false ∨ req.requestContext.streaming = true ∨
        req.selectionReason = .namedChannel ∨
        (req.requestContext.endpoint ≠ .chatCompletions ∧
          req.requestContext.endpoint ≠ .responses)) →
      (forwardWithPools (fuel + 2) world req).1.countP ForwardEvent.isSend ≤ 1) ∧
    ∀ (before between after : List ForwardEvent) (first second : ForwardEvent),
      (forwardWithPools (fuel + 2) world req).1 =
        before ++ first :: (between ++ second :: after) →
      first.isSend = true → second.isSend = true →
      ∃ event ∈ between, event.IsRetry := by
  -- two turns for each target are enough, so more fuel changes nothing
  obtain ⟨hsame, hends⟩ := forwardTargets_two_turns world req fuel req.routePlan.targets none 0
  obtain ⟨ph', hrun⟩ := forwardWithPools_accepted world req (fuel + 2)
  have hcount := TraceAcceptor.countP_le_budget SendPhase.step_budget hrun
  refine ⟨hsame, ?_, ?_, ?_, ?_⟩
  · show (forwardTargets (fuel + 2) world req none 0 req.routePlan.targets).2 ≠ .outOfFuel
    rw [hsame]
    exact hends
  · -- the budget of a fresh request: two sends, or one where retries are off
    have hbudget : SendPhase.fresh.budget req.mayRetry ≤ 2 := by
      show (if req.mayRetry = true then 2 else 1) ≤ 2
      split <;> omega
    omega
  · intro hrestricted
    -- each of these properties switches retries off
    have hmay : req.mayRetry = false := by
      unfold ForwardRequest.mayRetry
      rcases hrestricted with hbody | hstreaming | hnamed | ⟨hchat, hresponses⟩
      · simp [hbody]
      · simp [hstreaming]
      · simp [hnamed]
      · have hendpoint : endpointRetryEligible req.requestContext.endpoint = false := by
          cases he : req.requestContext.endpoint with
          | chatCompletions => exact absurd he hchat
          | responses => exact absurd he hresponses
          | _ => rfl
        simp [hendpoint]
    rw [hmay] at hcount
    have hbudget : SendPhase.fresh.budget false = 1 := rfl
    omega
  · intro before between after first second htrace hfirst hsecond
    rw [htrace] at hrun
    exact retry_between_sends hrun hfirst hsecond

end OneAiKey
