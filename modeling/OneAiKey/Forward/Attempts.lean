/-
  OneAiKey.Forward.Attempts — the attempt number of a send against the sends that
  were made before it (`forward_with_pools` and `forward_with_pool` of
  `src/proxy.rs`).

  The outer loop gives every target but the first the attempt number 1, whether
  or not an earlier one was sent.  The attempt number decides about a retry and
  about the time that a send may take, so a plan whose first target is skipped
  loses its retry and most of its time.

  Main results:
    * `forwardTurn_start` — a turn skips its target, sends or panics;
    * `forwardLoop_first`, `forwardLoop_later` — the work on the first target,
      and on a later one;
    * `attempts_match_sends_iff` — when the numbers agree.
-/
import OneAiKey.Forward.Filtered
import OneAiKey.Forward.Sends

namespace OneAiKey

/-! ## §1. What the attempt number is for. -/

/-- `upstream_timeout_for_effective_deadline`, at a clock value. -/
def upstreamTimeoutForEffectiveDeadline (effectiveDeadline : Option Instant) (now : Instant)
    (nonStreamingTotal : Duration) (retryAttempt : Bool) : Duration :=
  let baseTimeout :=
    if retryAttempt then min nonStreamingTotal conservativeRetryBudget else nonStreamingTotal
  match effectiveDeadline with
  | some deadline => min (deadline.saturatingDurationSince now) baseTimeout
  | none => baseTimeout

/-- The time that a send may take, if it is bounded. -/
def sendTimeout (nonStreamingTotal : Duration) (now : Instant)
    (snapshot : RequestSelectionSnapshot) : Option Duration :=
  if snapshot.streaming then none
  else some (upstreamTimeoutForEffectiveDeadline snapshot.effectiveDeadline now nonStreamingTotal
    (0 < snapshot.attempt))

/-- The send has the time and, after any failure, the retry of a first one. -/
def TreatedAsFirst (snapshot : RequestSelectionSnapshot) : Prop :=
  (∀ nonStreamingTotal now, sendTimeout nonStreamingTotal now snapshot =
    sendTimeout nonStreamingTotal now { snapshot with attempt := 0 }) ∧
  ∀ input : TransitionInput, input.snapshot = snapshot →
    retryAfterFailure input =
      retryAfterFailure { input with snapshot := { snapshot with attempt := 0 } }

/-- Every send of the trace carries the number of the sends before it, of which there were
`sends` before the trace. -/
def CountsFrom (sends : Nat) : List ForwardEvent → Prop
  | [] => True
  | .sent snapshot _ _ :: events => snapshot.attempt = sends ∧ CountsFrom (sends + 1) events
  | .directed _ :: events => CountsFrom sends events
  | .skipped _ :: events => CountsFrom sends events

/-- The attempt numbers count the sends, and skipped targets cost nothing: a send that only
skipped targets precede is treated as a first one. -/
structure AttemptsMatchSends (trace : List ForwardEvent) : Prop where
  counted : CountsFrom 0 trace
  skipsCostNothing : ∀ (before after : List ForwardEvent) (snapshot : RequestSelectionSnapshot)
    (upstream : UpstreamRequest) (body : Bytes),
    trace = before ++ .sent snapshot upstream body :: after →
    (∀ event ∈ before, event.isSend = false) → TreatedAsFirst snapshot

theorem countsFrom_append {sends : Nat} {events events' : List ForwardEvent} :
    CountsFrom sends (events ++ events') ↔
      CountsFrom sends events ∧ CountsFrom (sends + events.countP ForwardEvent.isSend) events' := by
  induction events generalizing sends with
  | nil => exact ⟨fun h => ⟨trivial, h⟩, fun h => h.2⟩
  | cons event events ih =>
      cases event with
      | sent snapshot upstream body =>
          rw [List.countP_cons_of_pos rfl, Nat.add_comm _ 1, ← Nat.add_assoc]
          show _ ∧ CountsFrom (sends + 1) (events ++ events') ↔
            (_ ∧ CountsFrom (sends + 1) events) ∧ _
          rw [ih, and_assoc]
      | directed directive =>
          rw [List.countP_cons_of_neg Bool.false_ne_true]
          exact ih
      | skipped channelId =>
          rw [List.countP_cons_of_neg Bool.false_ne_true]
          exact ih

theorem countsFrom_of_not_sent {sends : Nat} {events : List ForwardEvent}
    (h : ∀ event ∈ events, event.isSend = false) : CountsFrom sends events := by
  induction events with
  | nil => trivial
  | cons event events ih =>
      have hrest := ih fun other hmem => h other (List.mem_cons_of_mem _ hmem)
      cases event with
      | sent snapshot upstream body => cases h _ List.mem_cons_self
      | directed directive => exact hrest
      | skipped channelId => exact hrest

theorem countP_of_not_sent {events : List ForwardEvent}
    (h : ∀ event ∈ events, event.isSend = false) : events.countP ForwardEvent.isSend = 0 := by
  rw [List.countP_eq_zero]
  intro event hmem
  rw [h event hmem]
  exact Bool.false_ne_true

/-- A first send among events without one. -/
theorem countsFrom_sent {sends : Nat} {snapshot : RequestSelectionSnapshot}
    {upstream : UpstreamRequest} {body : Bytes} {rest : List ForwardEvent}
    (hattempt : snapshot.attempt = sends) (hrest : ∀ event ∈ rest, event.isSend = false) :
    CountsFrom sends (.sent snapshot upstream body :: rest) :=
  ⟨hattempt, countsFrom_of_not_sent hrest⟩

/-- Two counts that begin differently agree only about events without a send. -/
theorem not_sent_of_counts {sends sends' : Nat} {events : List ForwardEvent}
    (hne : sends ≠ sends') (h : CountsFrom sends events) (h' : CountsFrom sends' events) :
    ¬ ∃ event ∈ events, event.isSend = true := by
  induction events with
  | nil => simp
  | cons event events ih =>
      cases event with
      | sent snapshot upstream body => exact absurd (h.1.symm.trans h'.1) hne
      | directed directive => simpa [ForwardEvent.isSend] using ih h h'
      | skipped channelId => simpa [ForwardEvent.isSend] using ih h h'

/-- When the numbers agree, skipped targets cost nothing. -/
theorem attemptsMatchSends_iff {trace : List ForwardEvent} :
    AttemptsMatchSends trace ↔ CountsFrom 0 trace := by
  constructor
  · exact fun h => h.counted
  · intro hcounted
    refine ⟨hcounted, ?_⟩
    intro before after snapshot upstream body htrace hbefore
    rw [htrace, countsFrom_append, countP_of_not_sent hbefore] at hcounted
    have hattempt : snapshot.attempt = 0 := hcounted.2.1
    have hsame : { snapshot with attempt := 0 } = snapshot := by
      rw [← hattempt]
    unfold TreatedAsFirst
    rw [hsame]
    refine ⟨fun _ _ => rfl, ?_⟩
    intro input hinput
    rw [← hinput]

/-! ## §2. How the work on a target begins. -/

inductive TargetStart where
  /-- The registry has no such channel. -/
  | refused
  | skipped
  | sent
  | panicked
  deriving DecidableEq, Repr

/-- How a turn begins. -/
def turnStart (target : ForwardTarget) (routeTargetAvailable : Bool) (turn : TurnWorld)
    (retryCredentialId : Option CredentialId) : TargetStart :=
  let routeState := target.routeState.mostRestrictive turn.routeState
  match routeStateUnavailableResponseForAttempt target.channelId routeState target.routeState
      routeTargetAvailable with
  | some _ => .skipped
  | none =>
      match selectForTurn turn routeState retryCredentialId with
      | (_, .error .indexOutOfBounds) => .panicked
      | (_, .error (.error _)) => .skipped
      | (_, .ok _) => .sent

/-- How the work on target number `routeAttempt` begins: with its first turn. -/
def targetStart (world : World) (routeAttempt : Nat) (target : ForwardTarget)
    (routeTargetAvailable : Bool) : TargetStart :=
  match (world.target routeAttempt).channel with
  | none => .refused
  | some _ =>
      turnStart target routeTargetAvailable ((world.target routeAttempt).turn 0) none

/-- Of the targets from number `routeAttempt` on, one is sent after skipped ones only. -/
def sendsAfterSkips (world : World) : Nat → List ForwardTarget → Prop
  | _, [] => False
  | routeAttempt, target :: targets =>
      match targetStart world routeAttempt target (!targets.isEmpty) with
      | .sent => True
      | .skipped => sendsAfterSkips world (routeAttempt + 1) targets
      | .refused | .panicked => False

/-- The first target of the plan is skipped, and a later one is sent after skipped ones
only. -/
def SkippedBeforeFirstSend (world : World) (req : ForwardRequest) : Prop :=
  match req.routePlan.targets with
  | [] => False
  | target :: targets =>
      targetStart world 0 target (!targets.isEmpty) = .skipped ∧ sendsAfterSkips world 1 targets

/-! ## §3. One turn. -/

section Turn

variable {world : World} {req : ForwardRequest} {target : ForwardTarget} {poolState : PoolState}
  {classifier : FailureClassifier} {routeTargetAvailable : Bool} {turn : TurnWorld}

/-- What a turn does, by how it begins. -/
theorem forwardTurn_start (state : AttemptState) :
    match turnStart target routeTargetAvailable turn state.retryCredentialId with
    | .skipped => ∃ response,
        forwardTurn world req target poolState classifier routeTargetAvailable turn state =
          ([.skipped target.channelId], .done (.routeFallback response))
    | .sent => ∃ snapshot upstream body rest turnEnd,
        forwardTurn world req target poolState classifier routeTargetAvailable turn state =
          (.sent snapshot upstream body :: rest, turnEnd) ∧
        snapshot.attempt = state.attempt ∧ ∀ event ∈ rest, event.isSend = false
    | .panicked =>
        forwardTurn world req target poolState classifier routeTargetAvailable turn state =
          ([], .done .panicked)
    | .refused => False := by
  unfold turnStart forwardTurn
  dsimp only
  cases routeStateUnavailableResponseForAttempt target.channelId
      (target.routeState.mostRestrictive turn.routeState) target.routeState
      routeTargetAvailable with
  | some response => exact ⟨response, rfl⟩
  | none =>
      dsimp only
      cases selectForTurn turn (target.routeState.mostRestrictive turn.routeState)
          state.retryCredentialId with
      | mk pool selected =>
          cases selected with
          | error failure =>
              cases failure with
              | indexOutOfBounds => rfl
              | error message => exact ⟨_, rfl⟩
          | ok selected => exact ⟨_, _, _, _, _, rfl, rfl, afterSend_not_sent⟩

/-- A turn that goes on leaves the next one the next attempt number. -/
theorem failureBranch_again {snapshot : RequestSelectionSnapshot}
    {frozen : FrozenRetryCandidates} {failure : ClassifiedFailure}
    {failureSource : FailureSource} {fallback : Response} {onReturn onDrift : TurnEnd}
    {next : AttemptState} (hreturn : onReturn.Final) (hdrift : onDrift.Final)
    (h : (failureBranch world poolState turn snapshot frozen failure failureSource fallback
      onReturn onDrift).2 = .again next) : next.attempt = snapshot.attempt + 1 := by
  -- a turn that ends for good does not go on
  have hnotFinal : ∀ turnEnd : TurnEnd, turnEnd.Final → turnEnd ≠ .again next := by
    intro turnEnd hfinal heq
    rcases hfinal with ⟨response, hend⟩ | hend
    · rw [hend] at heq
      cases heq
    · rw [hend] at heq
      cases heq
  unfold failureBranch at h
  cases htransition : transitionObservedFailure world poolState snapshot failure failureSource
      turn.transitionNow with
  | none =>
      rw [htransition] at h
      cases h
  | some directive =>
      rw [htransition] at h
      cases directive with
      | returnCurrentError reason => exact absurd h (hnotFinal _ hreturn)
      | retryRouteTarget => cases h
      | retrySameTarget =>
          cases h
          rfl
      -- another credential has to be the next of the frozen ones
      | retryCredential credentialId =>
          unfold applyRetryDirectiveToAttemptState at h
          dsimp only [Option.bind_some] at h
          cases hnext : frozen.advanceIfNext credentialId with
          | none =>
              rw [hnext] at h
              exact absurd h (hnotFinal _ hdrift)
          | some advanced =>
              rw [hnext] at h
              cases h
              rfl

theorem forwardTurn_next_attempt {state next : AttemptState} {events : List ForwardEvent}
    (h : forwardTurn world req target poolState classifier routeTargetAvailable turn state =
      (events, .again next)) : next.attempt = state.attempt + 1 := by
  unfold forwardTurn at h
  dsimp only at h
  split at h
  · cases h
  · split at h
    · cases h
    · cases h
    -- only a directive to retry asks for another turn
    · next pool selected _ =>
        obtain ⟨-, hend⟩ := Prod.mk.inj h
        rcases @afterSend_cases world poolState classifier turn
            (selectionSnapshot req target poolState classifier routeTargetAvailable turn selected
              (freezeRetryCandidates poolState turn pool state.frozenRetryCandidates).remaining
              state.attempt)
            (freezeRetryCandidates poolState turn pool state.frozenRetryCandidates) with
          ⟨turnEnd, hfinal, hafter⟩ | ⟨_, _, _, _, _, hreturn, hdrift, hafter⟩
        · rw [hafter] at hend
          rcases hfinal with ⟨response, heq⟩ | heq
          · rw [heq] at hend
            cases hend
          · rw [heq] at hend
            cases hend
        · rw [hafter] at hend
          exact failureBranch_again hreturn hdrift hend

end Turn

/-! ## §4. The work on one target. -/

section Loop

variable {world : World} {req : ForwardRequest} {target : ForwardTarget} {poolState : PoolState}
  {classifier : FailureClassifier} {routeTargetAvailable : Bool} {turn : Nat → TurnWorld}

/-- After a send with a later attempt number no further target is tried. -/
theorem not_routeFallback_of_later_send {fuel n : Nat} {state : AttemptState}
    {snapshot : RequestSelectionSnapshot} {upstream : UpstreamRequest} {body : Bytes}
    {rest : List ForwardEvent} {result : PoolForwardResult} (hlater : state.attempt ≠ 0)
    (hrest : ∀ event ∈ rest, event.isSend = false)
    (h : forwardLoop world req target poolState classifier routeTargetAvailable turn fuel n
      state = (.sent snapshot upstream body :: rest, result)) (response : Response) :
    result ≠ .routeFallback response := by
  intro hfallback
  obtain ⟨ph', hrun, hphase⟩ := forwardLoop_spec world req target poolState classifier
    routeTargetAvailable turn fuel n state
  rw [h] at hrun hphase
  have hlast := hphase response hfallback
  unfold phaseOfAttempt at hrun
  rw [if_neg hlater, TraceAcceptor.run_cons] at hrun
  -- the send leads to the phase without a send, and only a retry directive leads out of it
  have hspent : TraceAcceptor.run (SendPhase.step req.mayRetry) .spent rest = some ph' := hrun
  have hstay : ∀ (events : List ForwardEvent) (ph : SendPhase),
      (∀ event ∈ events, event.isSend = false) →
      TraceAcceptor.run (SendPhase.step req.mayRetry) .spent events = some ph → ph = .spent := by
    intro events
    induction events with
    | nil =>
        intro ph _ hnil
        exact (Option.some.inj hnil).symm
    | cons event events ih =>
        intro ph hnone hcons
        rw [TraceAcceptor.run_cons] at hcons
        obtain ⟨ph₁, hstep, htail⟩ := Option.bind_eq_some_iff.mp hcons
        have hph₁ : ph₁ = .spent := by
          cases event with
          | sent snapshot upstream body => cases hnone _ List.mem_cons_self
          | skipped channelId => cases hstep
          | directed directive =>
              unfold SendPhase.step at hstep
              dsimp only at hstep
              split at hstep
              · cases hstep
              · exact (Option.some.inj hstep).symm
        rw [hph₁] at htail
        exact ih ph (fun other hmem => hnone other (List.mem_cons_of_mem _ hmem)) htail
  rw [hstay rest ph' hrest hspent] at hlast
  cases hlast

/-- From attempt 1 on, the work on a target is one turn. -/
theorem forwardLoop_later (fuel n : Nat) (state : AttemptState) (hlater : state.attempt = 1) :
    match turnStart target routeTargetAvailable (turn n) state.retryCredentialId with
    | .skipped => ∃ response,
        forwardLoop world req target poolState classifier routeTargetAvailable turn (fuel + 1) n
          state = ([.skipped target.channelId], .routeFallback response)
    | .sent => ∃ snapshot upstream body rest result,
        forwardLoop world req target poolState classifier routeTargetAvailable turn (fuel + 1) n
          state = (.sent snapshot upstream body :: rest, result) ∧
        snapshot.attempt = 1 ∧ (∀ event ∈ rest, event.isSend = false) ∧
        ∀ response, result ≠ .routeFallback response
    | .panicked =>
        forwardLoop world req target poolState classifier routeTargetAvailable turn (fuel + 1) n
          state = ([], .panicked)
    | .refused => False := by
  have hturn := @forwardTurn_start world req target poolState classifier routeTargetAvailable
    (turn n) state
  cases hstart : turnStart target routeTargetAvailable (turn n) state.retryCredentialId with
  | refused =>
      rw [hstart] at hturn
      exact hturn
  | skipped =>
      rw [hstart] at hturn
      obtain ⟨response, hout⟩ := hturn
      refine ⟨response, ?_⟩
      unfold forwardLoop
      rw [hout]
  | panicked =>
      rw [hstart] at hturn
      have hout : forwardTurn world req target poolState classifier routeTargetAvailable (turn n)
          state = ([], .done .panicked) := hturn
      unfold forwardLoop
      rw [hout]
  | sent =>
      rw [hstart] at hturn
      obtain ⟨snapshot, upstream, body, rest, turnEnd, hout, hattempt, hrest⟩ := hturn
      cases turnEnd with
      | again next =>
          -- a turn is repeated on the first attempt only
          have hfirst := (forwardTurn_again world req target poolState classifier
            routeTargetAvailable turn hout).1
          rw [hlater] at hfirst
          cases hfirst
      | done result =>
          have hloop : forwardLoop world req target poolState classifier routeTargetAvailable turn
              (fuel + 1) n state = (.sent snapshot upstream body :: rest, result) := by
            unfold forwardLoop
            rw [hout]
          exact ⟨snapshot, upstream, body, rest, result, hloop, hattempt.trans hlater, hrest,
            not_routeFallback_of_later_send (by rw [hlater]; exact Nat.one_ne_zero) hrest hloop⟩

/-- The numbers agree after one send, and a target that is given up then was not sent. -/
theorem forwardLoop_later_counted (fuel n : Nat) (state : AttemptState)
    (hlater : state.attempt = 1) :
    CountsFrom 1 (forwardLoop world req target poolState classifier routeTargetAvailable turn
      (fuel + 1) n state).1 ∧
    ∀ response, (forwardLoop world req target poolState classifier routeTargetAvailable turn
        (fuel + 1) n state).2 = .routeFallback response →
      (forwardLoop world req target poolState classifier routeTargetAvailable turn
        (fuel + 1) n state).1.countP ForwardEvent.isSend = 0 := by
  have hloop := @forwardLoop_later world req target poolState classifier routeTargetAvailable
    turn fuel n state hlater
  -- by how the turn begins
  cases hstart : turnStart target routeTargetAvailable (turn n) state.retryCredentialId with
  | refused =>
      rw [hstart] at hloop
      exact hloop.elim
  | skipped =>
      rw [hstart] at hloop
      obtain ⟨response, heq⟩ := hloop
      rw [heq]
      exact ⟨trivial, fun _ _ => rfl⟩
  | panicked =>
      rw [hstart] at hloop
      dsimp only at hloop
      rw [hloop]
      exact ⟨trivial, fun _ _ => rfl⟩
  | sent =>
      rw [hstart] at hloop
      obtain ⟨snapshot, upstream, body, rest, result, heq, hattempt, hrest, hnot⟩ := hloop
      rw [heq]
      exact ⟨countsFrom_sent hattempt hrest,
        fun response hfallback => absurd hfallback (hnot response)⟩

/-- On the first target the numbers agree, and another target is tried after one send or
after a skip. -/
theorem forwardLoop_first (fuel : Nat) (state : AttemptState) (hfirst : state.attempt = 0) :
    match turnStart target routeTargetAvailable (turn 0) state.retryCredentialId with
    | .skipped => ∃ response,
        forwardLoop world req target poolState classifier routeTargetAvailable turn (fuel + 2) 0
          state = ([.skipped target.channelId], .routeFallback response)
    | .sent => ∃ events result,
        forwardLoop world req target poolState classifier routeTargetAvailable turn (fuel + 2) 0
          state = (events, result) ∧
        CountsFrom 0 events ∧
        ∀ response, result = .routeFallback response → events.countP ForwardEvent.isSend = 1
    | .panicked =>
        forwardLoop world req target poolState classifier routeTargetAvailable turn (fuel + 2) 0
          state = ([], .panicked)
    | .refused => False := by
  have hturn := @forwardTurn_start world req target poolState classifier routeTargetAvailable
    (turn 0) state
  cases hstart : turnStart target routeTargetAvailable (turn 0) state.retryCredentialId with
  | refused =>
      rw [hstart] at hturn
      exact hturn
  | skipped =>
      rw [hstart] at hturn
      obtain ⟨response, hout⟩ := hturn
      refine ⟨response, ?_⟩
      unfold forwardLoop
      rw [hout]
  | panicked =>
      rw [hstart] at hturn
      dsimp only at hturn
      show forwardLoop world req target poolState classifier routeTargetAvailable turn (fuel + 2)
        0 state = ([], .panicked)
      unfold forwardLoop
      rw [hturn]
  | sent =>
      rw [hstart] at hturn
      obtain ⟨snapshot, upstream, body, rest, turnEnd, hout, hattempt, hrest⟩ := hturn
      have hcounted : CountsFrom 0 (.sent snapshot upstream body :: rest) :=
        countsFrom_sent (hattempt.trans hfirst) hrest
      have hone : (ForwardEvent.sent snapshot upstream body :: rest).countP
          ForwardEvent.isSend = 1 := by
        rw [List.countP_cons_of_pos rfl, countP_of_not_sent hrest]
      cases turnEnd with
      | done result =>
          refine ⟨_, result, ?_, hcounted, fun _ _ => hone⟩
          unfold forwardLoop
          rw [hout]
      | again next =>
          -- the second turn is one with attempt 1, after one send
          have hnext : next.attempt = 1 := by
            rw [forwardTurn_next_attempt hout, hfirst]
          obtain ⟨hlater, hgivenUp⟩ := @forwardLoop_later_counted world req target poolState
            classifier routeTargetAvailable turn fuel 1 next hnext
          have hloop : forwardLoop world req target poolState classifier routeTargetAvailable turn
              (fuel + 2) 0 state =
              (.sent snapshot upstream body :: rest ++
                (forwardLoop world req target poolState classifier routeTargetAvailable turn
                  (fuel + 1) 1 next).1,
                (forwardLoop world req target poolState classifier routeTargetAvailable turn
                  (fuel + 1) 1 next).2) := by
            conv_lhs => unfold forwardLoop
            rw [hout]
          refine ⟨_, _, hloop, ?_, ?_⟩
          · rw [countsFrom_append, hone]
            exact ⟨hcounted, hlater⟩
          · intro response hfallback
            rw [List.countP_append, hone, hgivenUp response hfallback]

end Loop

/-! ## §5. The targets. -/

section Targets

variable {world : World} {req : ForwardRequest}

/-- The work on a later target, by how it begins. -/
theorem forwardWithPool_later (fuel routeAttempt : Nat) (target : ForwardTarget)
    (routeTargetAvailable : Bool) :
    CountsFrom 1 (forwardWithPool (fuel + 1) world req target routeAttempt routeTargetAvailable
      1).1 ∧
    match targetStart world routeAttempt target routeTargetAvailable with
    | .skipped => ∃ response,
        forwardWithPool (fuel + 1) world req target routeAttempt routeTargetAvailable 1 =
          ([.skipped target.channelId], .routeFallback response)
    | .sent =>
        (∃ event ∈ (forwardWithPool (fuel + 1) world req target routeAttempt
          routeTargetAvailable 1).1, event.isSend = true) ∧
        ∀ response, (forwardWithPool (fuel + 1) world req target routeAttempt
          routeTargetAvailable 1).2 ≠ .routeFallback response
    | .refused | .panicked =>
        (forwardWithPool (fuel + 1) world req target routeAttempt routeTargetAvailable 1).1 = [] ∧
        ∀ response, (forwardWithPool (fuel + 1) world req target routeAttempt
          routeTargetAvailable 1).2 ≠ .routeFallback response := by
  unfold forwardWithPool targetStart
  cases (world.target routeAttempt).channel with
  -- the channel is gone from the registry
  | none => exact ⟨trivial, rfl, nofun⟩
  | some channel =>
      obtain ⟨poolState, classifier⟩ := channel
      dsimp only
      refine ⟨(forwardLoop_later_counted fuel 0 ⟨1, none, none⟩ rfl).1, ?_⟩
      have hloop := @forwardLoop_later world req target poolState classifier routeTargetAvailable
        (world.target routeAttempt).turn fuel 0 ⟨1, none, none⟩ rfl
      dsimp only at hloop
      cases hstart : turnStart target routeTargetAvailable ((world.target routeAttempt).turn 0)
          none with
      | refused =>
          rw [hstart] at hloop
          -- only a target without a channel is refused
          exact hloop.elim
      | skipped =>
          rw [hstart] at hloop
          exact hloop
      | panicked =>
          rw [hstart] at hloop
          dsimp only at hloop ⊢
          rw [hloop]
          exact ⟨rfl, nofun⟩
      | sent =>
          rw [hstart] at hloop
          obtain ⟨snapshot, upstream, body, rest, result, heq, -, -, hnot⟩ := hloop
          dsimp only
          rw [heq]
          exact ⟨⟨_, List.mem_cons_self, rfl⟩, hnot⟩

/-- A target that is not given up is the last one. -/
theorem forwardTargets_cons_last {fuel routeAttempt initialAttempt : Nat}
    {lastResponse : Option Response} {target : ForwardTarget} {targets : List ForwardTarget}
    {events : List ForwardEvent} {result : PoolForwardResult}
    (hattempt : (if 0 < routeAttempt then 1 else 0) = initialAttempt)
    (hout : forwardWithPool fuel world req target routeAttempt (!targets.isEmpty)
      initialAttempt = (events, result))
    (hnot : ∀ response, result ≠ .routeFallback response) :
    (forwardTargets fuel world req lastResponse routeAttempt (target :: targets)).1 = events := by
  unfold forwardTargets
  dsimp only
  rw [hattempt, hout]
  cases result with
  | response response => rfl
  | panicked => rfl
  | outOfFuel => rfl
  | routeFallback response => exact absurd rfl (hnot response)

/-- A target that is given up is followed by the targets after it. -/
theorem forwardTargets_cons_fallback {fuel routeAttempt initialAttempt : Nat}
    {lastResponse : Option Response} {target : ForwardTarget} {targets : List ForwardTarget}
    {events : List ForwardEvent} {response : Response}
    (hattempt : (if 0 < routeAttempt then 1 else 0) = initialAttempt)
    (hout : forwardWithPool fuel world req target routeAttempt (!targets.isEmpty)
      initialAttempt = (events, .routeFallback response)) :
    (forwardTargets fuel world req lastResponse routeAttempt (target :: targets)).1 =
      events ++ (forwardTargets fuel world req (some response) (routeAttempt + 1) targets).1 := by
  conv_lhs => unfold forwardTargets
  dsimp only
  rw [hattempt, hout]
  dsimp only
  split
  · rfl
  · next hlast =>
      have hnil : targets = [] := by simpa using hlast
      rw [hnil]
      exact (List.append_nil events).symm

/-- The later targets: at most the number 1 is given out, and something is sent exactly when
one target is sent after skipped ones only. -/
theorem forwardTargets_later (fuel : Nat) (targets : List ForwardTarget) :
    ∀ (lastResponse : Option Response) (routeAttempt : Nat), 0 < routeAttempt →
      CountsFrom 1 (forwardTargets (fuel + 1) world req lastResponse routeAttempt targets).1 ∧
      ((∃ event ∈ (forwardTargets (fuel + 1) world req lastResponse routeAttempt targets).1,
        event.isSend = true) ↔ sendsAfterSkips world routeAttempt targets) := by
  induction targets with
  | nil =>
      intro lastResponse routeAttempt _
      refine ⟨trivial, ?_⟩
      show (∃ event ∈ ([] : List ForwardEvent), event.isSend = true) ↔ False
      simp
  | cons target targets ih =>
      intro lastResponse routeAttempt hlater
      obtain ⟨hcounted, hpool⟩ := @forwardWithPool_later world req fuel routeAttempt target
        (!targets.isEmpty)
      have hattempt : (if 0 < routeAttempt then 1 else 0) = 1 := if_pos hlater
      unfold sendsAfterSkips
      cases hout : forwardWithPool (fuel + 1) world req target routeAttempt (!targets.isEmpty)
          1 with
      | mk events result =>
          rw [hout] at hcounted hpool
          cases hstart : targetStart world routeAttempt target (!targets.isEmpty) with
          | refused | panicked =>
              rw [hstart] at hpool
              obtain ⟨hnone, hnot⟩ := hpool
              rw [forwardTargets_cons_last hattempt hout hnot]
              refine ⟨hcounted, ?_⟩
              -- nothing was sent, and no later target is tried
              rw [show events = [] from hnone]
              simp
          | sent =>
              rw [hstart] at hpool
              obtain ⟨hsent, hnot⟩ := hpool
              rw [forwardTargets_cons_last hattempt hout hnot]
              exact ⟨hcounted, fun _ => trivial, fun _ => hsent⟩
          | skipped =>
              rw [hstart] at hpool
              obtain ⟨response, heq⟩ := hpool
              -- a skipped target hands over to the next one
              obtain ⟨hevents, hresult⟩ := Prod.mk.inj heq
              rw [hevents, hresult] at hout
              rw [forwardTargets_cons_fallback hattempt hout]
              obtain ⟨hrestCounted, hrestSends⟩ := ih (some response) (routeAttempt + 1)
                (Nat.succ_pos _)
              refine ⟨hrestCounted, ?_⟩
              dsimp only
              rw [← hrestSends]
              simp [ForwardEvent.isSend]

/-- The first target, by how it begins. -/
theorem forwardWithPool_first (fuel : Nat) (target : ForwardTarget)
    (routeTargetAvailable : Bool) :
    match targetStart world 0 target routeTargetAvailable with
    | .skipped => ∃ response,
        forwardWithPool (fuel + 2) world req target 0 routeTargetAvailable 0 =
          ([.skipped target.channelId], .routeFallback response)
    | .sent | .refused | .panicked =>
        CountsFrom 0 (forwardWithPool (fuel + 2) world req target 0 routeTargetAvailable 0).1 ∧
        ∀ response, (forwardWithPool (fuel + 2) world req target 0 routeTargetAvailable 0).2 =
            .routeFallback response →
          (forwardWithPool (fuel + 2) world req target 0 routeTargetAvailable 0).1.countP
            ForwardEvent.isSend = 1 := by
  unfold forwardWithPool targetStart
  cases (world.target 0).channel with
  -- the channel is gone from the registry
  | none => exact ⟨trivial, nofun⟩
  | some channel =>
      obtain ⟨poolState, classifier⟩ := channel
      have hloop := @forwardLoop_first world req target poolState classifier routeTargetAvailable
        (world.target 0).turn fuel ⟨0, none, none⟩ rfl
      dsimp only at hloop ⊢
      cases hstart : turnStart target routeTargetAvailable ((world.target 0).turn 0) none with
      | refused =>
          rw [hstart] at hloop
          exact hloop.elim
      | skipped =>
          rw [hstart] at hloop
          exact hloop
      | panicked =>
          rw [hstart] at hloop
          dsimp only at hloop ⊢
          rw [hloop]
          exact ⟨trivial, nofun⟩
      | sent =>
          rw [hstart] at hloop
          obtain ⟨events, result, heq, hcounted, hgivenUp⟩ := hloop
          dsimp only
          rw [heq]
          exact ⟨hcounted, hgivenUp⟩

end Targets

/-- For every plan, request and world (what every turn meets, and so every sequence of
outcomes): at each send the attempt number is the number of sends made before, and skipped
targets cost no retry and no time, exactly when the plan's first target is not skipped
before another target is sent after skipped ones only. -/
theorem attempts_match_sends_iff (world : World) (req : ForwardRequest) (fuel : Nat) :
    AttemptsMatchSends (forwardWithPools (fuel + 2) world req).1 ↔
      ¬ SkippedBeforeFirstSend world req := by
  rw [attemptsMatchSends_iff]
  unfold forwardWithPools SkippedBeforeFirstSend
  cases req.routePlan.targets with
  | nil => exact ⟨fun _ h => h, fun _ => trivial⟩
  | cons target targets =>
      have hpool := @forwardWithPool_first world req fuel target (!targets.isEmpty)
      have hattempt : (if 0 < 0 then 1 else 0) = 0 := if_neg (Nat.lt_irrefl 0)
      dsimp only
      cases hout : forwardWithPool (fuel + 2) world req target 0 (!targets.isEmpty) 0 with
      | mk events result =>
          rw [hout] at hpool
          by_cases hstart : targetStart world 0 target (!targets.isEmpty) = .skipped
          · rw [hstart] at hpool
            obtain ⟨response, heq⟩ := hpool
            obtain ⟨hevents, hresult⟩ := Prod.mk.inj heq
            rw [hevents, hresult] at hout
            rw [forwardTargets_cons_fallback hattempt hout]
            obtain ⟨hlater, hsends⟩ := @forwardTargets_later world req (fuel + 1) targets
              (some response) 1 Nat.one_pos
            rw [and_iff_right hstart, ← hsends]
            -- the skip counts nothing
            show CountsFrom 0 (forwardTargets (fuel + 2) world req (some response) 1 targets).1 ↔ _
            constructor
            · intro hcounted hsent
              exact not_sent_of_counts (Nat.zero_ne_one) hcounted hlater hsent
            · intro hnone
              refine countsFrom_of_not_sent fun event hmem => ?_
              by_contra hsend
              exact hnone ⟨event, hmem, by simpa using hsend⟩
          · -- the first target is the first send, or the last target
            refine ⟨fun _ hskipped => hstart hskipped.1, fun _ => ?_⟩
            have hfirst : CountsFrom 0 events ∧ ∀ response, result = .routeFallback response →
                events.countP ForwardEvent.isSend = 1 := by
              cases htarget : targetStart world 0 target (!targets.isEmpty) with
              | skipped => exact absurd htarget hstart
              | refused =>
                  rw [htarget] at hpool
                  exact hpool
              | sent =>
                  rw [htarget] at hpool
                  exact hpool
              | panicked =>
                  rw [htarget] at hpool
                  exact hpool
            by_cases hfallback : ∃ response, result = .routeFallback response
            · obtain ⟨response, hresult⟩ := hfallback
              rw [hresult] at hout
              rw [forwardTargets_cons_fallback hattempt hout, countsFrom_append,
                hfirst.2 response hresult]
              exact ⟨hfirst.1, (@forwardTargets_later world req (fuel + 1) targets
                (some response) 1 Nat.one_pos).1⟩
            · rw [forwardTargets_cons_last hattempt hout
                fun response hresult => hfallback ⟨response, hresult⟩]
              exact hfirst.1

/-- The first channel has been disabled since the plan was made. -/
def disabledFirstWorld : World :=
  { answeringWorld (oneByteResponse [] 97) with
    target := fun routeAttempt =>
      let answering := (answeringWorld (oneByteResponse [] 97)).target routeAttempt
      if routeAttempt = 0 then
        { answering with turn := fun n => { answering.turn n with routeState := .disabled } }
      else answering }

def twoTargetRequest : ForwardRequest :=
  { oneTargetRequest with
    routePlan := ⟨"r", 1, none, .modelMapping,
      [⟨some 0, "a", none, .available⟩, ⟨some 1, "b", none, .available⟩]⟩ }

/-- The first target is skipped because its channel is disabled, and the request's only send
has the number 1: it has no retry and 1.5 s instead of 60. -/
theorem first_send_numbered_one :
    ¬ AttemptsMatchSends (forwardWithPools 2 disabledFirstWorld twoTargetRequest).1 ∧
    ∃ snapshot upstream body after,
      (forwardWithPools 2 disabledFirstWorld twoTargetRequest).1 =
        .skipped "a" :: .sent snapshot upstream body :: after ∧
      after.countP ForwardEvent.isSend = 0 ∧ snapshot.attempt = 1 ∧
      sendTimeout (Duration.fromMillis 60000) 0 snapshot = some (Duration.fromMillis 1500) ∧
      sendTimeout (Duration.fromMillis 60000) 0 { snapshot with attempt := 0 } =
        some (Duration.fromMillis 60000) := by
  refine ⟨fun h => ?_, _, _, _, _, rfl, rfl, rfl, by decide, by decide⟩
  -- the number of the only send is not the number of the sends before it
  exact absurd h.counted.1 (by decide)

end OneAiKey
