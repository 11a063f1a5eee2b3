/-
  OneAiKey.Commands — the credential commands of an operator
  (`src/management_commands.rs`, `src/management_errors.rs`).

  A command checks the credential, and checks it again when its task has
  started; it writes the durable state, appends its event, and then takes the
  gates of the credential set, checks once more and changes the pool.  When one
  of these fails, the durable state is written back from the pool.  No lock is
  held from one of these phases to the next: `advance` is one phase, and between
  two phases anyone else may run.

  `CommandEffect` lists what a phase has done to the store, the event log and
  the pool.  An event is recorded when it can be read in the file of the log, which
  is not the same as that its append has succeeded.
-/
import OneAiKey.CredentialStore
import OneAiKey.Events
import OneAiKey.FailureState

namespace OneAiKey

/-! ## §1. Errors. -/

/-- The errors of the management service by the kind of answer they become. -/
inductive ManagementServiceError where
  | badRequest (message : String)
  | notFound (message : String)
  | conflict (message : String)
  | preconditionFailed (message : String)
  | persistence (message : String)
  | eventAppendFailed (message : String) (staleHistoryId : Option Nat)
  deriving DecidableEq, Repr

/-- What a client sees of an error; an event that could not be recorded is a persistence error. -/
def ManagementServiceError.intoPublicError : ManagementServiceError → ManagementServiceError
  | eventAppendFailed message _ =>
      .persistence ("failed to record management event: " ++ message)
  | other => other

/-- The answers to the errors of the credential store, without their details. -/
def credentialLifecycleStoreError : CredentialStoreError → ManagementServiceError
  | .notWritable =>
      .conflict "credential lifecycle persistence requires a writable credential store"
  | .persistence _ => .persistence "credential store persistence error"

/-! ## §2. The commands. -/

/-- The commands for a credential. -/
inductive CredentialCommandKind where
  | expire
  | quotaExhaust
  | restore
  | disable
  | enable
  | clearCooldown
  deriving DecidableEq, Repr

/-- The name that `{kind:?}` prints. -/
def CredentialCommandKind.name : CredentialCommandKind → String
  | expire => "Expire"
  | quotaExhaust => "QuotaExhaust"
  | restore => "Restore"
  | disable => "Disable"
  | enable => "Enable"
  | clearCooldown => "ClearCooldown"

/-- A command names a channel, or a credential set through one of its channels. -/
inductive CredentialCommandScope where
  | channel (channelId : String)
  | credentialSet (credentialSetId canonicalChannelId : String)
  deriving DecidableEq, Repr

/-- A command with its actor and reason. -/
structure CredentialCommand where
  kind : CredentialCommandKind
  actor : ManagementEventActor
  scope : CredentialCommandScope
  credentialId : CredentialId
  reason : String
  reasonClass : Option String
  deriving DecidableEq, Repr

/-- The answer to an accepted command: the credential as it is afterwards. -/
structure CredentialMutationResponse where
  channelId : String
  credentialSetId : CredentialSetId
  selectorGeneration : Nat
  snapshot : CredentialSnapshot
  deriving DecidableEq, Repr

/-- The answer for a credential that the pool does not have. -/
def unknownCredentialError (credentialId : CredentialId) : ManagementServiceError :=
  .notFound ("unknown credential " ++ credentialId)

/-- The channel of a command and its credential set, from the channels' sets. -/
def CredentialCommandScope.resolve (scope : CredentialCommandScope)
    (credentialSetOf : String → Option CredentialSetId) :
    Except ManagementServiceError (String × CredentialSetId) :=
  let (channelId, requestedCredentialSetId) := match scope with
    | channel channelId => (channelId, none)
    | credentialSet credentialSetId canonicalChannelId =>
        (canonicalChannelId, some credentialSetId)
  match credentialSetOf channelId with
  | none => .error (.notFound ("unknown channel " ++ channelId))
  | some credentialSetId =>
      match requestedCredentialSetId with
      | none => .ok (channelId, credentialSetId)
      | some requested =>
          if requested ≠ credentialSetId then
            .error (.notFound ("unknown credential_set " ++ requested))
          else .ok (channelId, credentialSetId)

/-! ## §3. The decision. -/

/-- What a state says to a command. -/
inductive CredentialCommandStateDecision where
  | alreadyApplied
  | ready
  | rejected
  deriving DecidableEq, Repr

/-- A state has already what the command asks for, is ready for it, or rejects it. -/
def credentialCommandStateDecision (kind : CredentialCommandKind)
    (state : CredentialStateSnapshot) : CredentialCommandStateDecision :=
  match kind, state with
  | .expire, .expired _ | .quotaExhaust, .quotaExhausted _ | .restore, .available
  | .disable, .disabled _ | .enable, .available | .clearCooldown, .available =>
      .alreadyApplied
  | .clearCooldown, .coolingDown _ _
  | .restore, .expired _ | .restore, .quotaExhausted _
  | .expire, .available | .expire, .coolingDown _ _ | .expire, .quotaExhausted _
  | .quotaExhaust, .available | .quotaExhaust, .coolingDown _ _ | .quotaExhaust, .expired _
  | .disable, .available | .disable, .coolingDown _ _ | .disable, .quotaExhausted _
  | .enable, .disabled _ => .ready
  | .clearCooldown, .expired _ | .clearCooldown, .quotaExhausted _
  | .clearCooldown, .disabled _
  | .restore, .coolingDown _ _ | .restore, .disabled _
  | .expire, .disabled _
  | .quotaExhaust, .disabled _
  | .disable, .expired _
  | .enable, .coolingDown _ _ | .enable, .expired _ | .enable, .quotaExhausted _ => .rejected

/-- Is the state still the one of the first check?  A cooldown may have changed its reason and
seconds, the other states keep their reasons. -/
def commandPreconditionStateMatches (before current : CredentialStateSnapshot) : Bool :=
  match before, current with
  | .available, .available => true
  | .coolingDown _ _, .coolingDown _ _ => true
  | .expired before, .expired current => before == current
  | .quotaExhausted before, .quotaExhausted current => before == current
  | .disabled before, .disabled current => before == current
  | _, _ => false

/-- What the first check has found. -/
structure CommandPrecondition where
  channelId : String
  credentialSetId : CredentialSetId
  generation : Nat
  state : CredentialStateSnapshot
  deriving DecidableEq, Repr

/-- What a check says of a command that it does not refuse. -/
inductive CommandReadiness where
  | ready (snapshot : CredentialSnapshot)
  | alreadyApplied (response : CredentialMutationResponse)
  deriving DecidableEq, Repr

/-- The answer for a state that rejects the command. -/
def notAccepted (kind : CredentialCommandKind) (credentialId : CredentialId) :
    ManagementServiceError :=
  .conflict ("credential " ++ credentialId ++ " is not in a state accepted by " ++ kind.name)

/-- The second check, against what the first one saw. -/
def checkCommandPrecondition (kind : CredentialCommandKind) (credentialId : CredentialId)
    (precondition : CommandPrecondition) (currentGeneration : Nat)
    (currentSnapshot : CredentialSnapshot) : Except ManagementServiceError CommandReadiness :=
  match credentialCommandStateDecision kind currentSnapshot.state with
  | .alreadyApplied => .ok (.alreadyApplied ⟨precondition.channelId,
      precondition.credentialSetId, currentGeneration, currentSnapshot⟩)
  | .rejected => .error (notAccepted kind credentialId)
  | .ready =>
      if currentGeneration ≠ precondition.generation ||
          !commandPreconditionStateMatches precondition.state currentSnapshot.state then
        .error (.conflict ("credential " ++ credentialId ++
          " changed while management command was being persisted"))
      else .ok (.ready currentSnapshot)

/-! ## §4. What a command writes. -/

/-- The durable state that a command asks for, if it asks for one. -/
def lifecycleUpdateForCommand (kind : CredentialCommandKind) (credentialSetId : CredentialSetId)
    (credentialId : CredentialId) (reason : String)
    (preconditionState : CredentialStateSnapshot) : Option CredentialLifecycleUpdate :=
  let state : Option CredentialLifecycleState := match kind with
    | .expire => some (.expired reason)
    | .quotaExhaust => some (.quotaExhausted reason)
    | .restore | .enable => some .available
    | .disable => some (.disabled reason)
    | .clearCooldown =>
        match preconditionState with
        | .coolingDown _ _ => some .available
        | _ => none
  state.map fun state => ⟨credentialSetId, credentialId, state⟩

/-- The durable state that a snapshot shows. -/
def CredentialStateSnapshot.lifecycleState : CredentialStateSnapshot → CredentialLifecycleState
  | available | coolingDown _ _ => .available
  | expired reason => .expired reason
  | quotaExhausted reason => .quotaExhausted reason
  | disabled reason => .disabled reason

/-- The durable state that gives a credential its earlier state back. -/
def lifecycleUpdateForSnapshot (credentialSetId : CredentialSetId) (credentialId : CredentialId)
    (state : CredentialStateSnapshot) : CredentialLifecycleUpdate :=
  ⟨credentialSetId, credentialId, state.lifecycleState⟩

/-- The class of the reason where a command has none of its own. -/
def lifecycleReasonClassForCommand : CredentialCommandKind → String
  | .expire => "manual_expire"
  | .quotaExhaust => "manual_quota_exhaust"
  | .restore => "manual_restore"
  | .disable => "manual_disable"
  | .enable => "manual_enable"
  | .clearCooldown => "manual_clear_cooldown"

/-- Who changed the durable state, and why. -/
def lifecycleEvidenceForCommand (kind : CredentialCommandKind) (reasonClass : Option String)
    (actor : ManagementEventActor) (channelId : String) : CredentialLifecycleEvidence :=
  .managementCommand (reasonClass.getD (lifecycleReasonClassForCommand kind)) actor.id actor.name
    actor.role channelId

/-- The event of a command (`record_credential_command_transaction`). -/
def CredentialCommandKind.eventKind : CredentialCommandKind → String
  | expire => "credential_expired"
  | quotaExhaust => "credential_quota_exhausted"
  | restore => "credential_restored"
  | disable => "credential_disabled"
  | enable => "credential_enabled"
  | clearCooldown => "credential_cooldown_cleared"

/-- The event of a command. -/
def CredentialCommand.audit (command : CredentialCommand) (channelId : String) :
    ManagementAuditEvent :=
  eventAudit command.kind.eventKind channelId command.credentialId (some command.actor)

/-- The pool operation of a command. -/
def CredentialCommandKind.poolOp (kind : CredentialCommandKind) (credentialId : CredentialId)
    (reason : String) : PoolOp :=
  match kind with
  | expire => .expireCredentialById credentialId reason
  | quotaExhaust => .applyCredentialQuotaExhausted credentialId reason
  | restore => .restoreCredentialById credentialId
  | disable => .disableCredentialById credentialId reason
  | enable => .enableCredentialById credentialId
  | clearCooldown => .clearCredentialCooldownById credentialId

/-- The pool afterwards and the snapshot for the response; the quota exhaustion returns
none of its own. -/
def CredentialCommand.applyTo (command : CredentialCommand) (r : Readings) (pool : KeyPool) :
    KeyPool × Option CredentialSnapshot :=
  match (command.kind.poolOp command.credentialId command.reason).exec r pool with
  | (pool, .snapshot found) => (pool, found)
  | (pool, _) => (pool, pool.credentialSnapshotById command.credentialId r.second r.third)

/-! ## §5. The phases of a command. -/

/-- What the phases of a command share with everyone else: the pool and the selector
generation of the credential set, the store, and the event log. -/
structure CommandWorld where
  pool : KeyPool
  selectorGeneration : Nat
  store : CredentialStore
  events : EventLogFile

/-- What one phase meets: the clock at its check and at its change of the pool, the time of
day, and a failure of what it calls. -/
structure CommandInputs where
  check : Readings
  change : Readings
  check_le : check.third ≤ change.first
  unixSeconds : Nat
  fault : Option String
  /-- How much of the event's record an append has written that fails. -/
  written : WrittenPart

/-- An append that fails, with how much of the record it wrote. -/
def CommandInputs.appendFault (inputs : CommandInputs) : Option AppendFault :=
  inputs.fault.map fun message => ⟨message, inputs.written⟩

/-- Where a command is between two of its writes. -/
inductive CommandPhase where
  /-- About to make the first check. -/
  | resolved (channelId : String) (credentialSetId : CredentialSetId)
  /-- About to start the task and to check again. -/
  | checked (precondition : CommandPrecondition)
  /-- About to write the durable state. -/
  | rechecked (precondition : CommandPrecondition)
  /-- About to append the event. -/
  | persisted (precondition : CommandPrecondition) (historyId : Option Nat)
  /-- About to check a last time and to change the pool. -/
  | recorded (precondition : CommandPrecondition)
  /-- About to look what the pool holds. -/
  | failed (precondition : CommandPrecondition) (err : ManagementServiceError)
  /-- About to write that back. -/
  | compensating (precondition : CommandPrecondition) (err : ManagementServiceError)
      (snapshot : CredentialSnapshot)
  | done (result : Except ManagementServiceError CredentialMutationResponse)

/-- The writes of a command. -/
inductive CommandEffect where
  | persisted (state : CredentialLifecycleState)
  | recorded (event : ManagementEvent)
  | applied (op : PoolOp)
  | compensated (state : CredentialLifecycleState)
  deriving DecidableEq, Repr

namespace CredentialCommand

variable (command : CredentialCommand)

/-- The snapshot of the command's credential. -/
def snapshotIn (pool : KeyPool) (r : Readings) : Option CredentialSnapshot :=
  pool.credentialSnapshotById command.credentialId r.first r.second

/-- The durable state that the command asks for in the state that it was checked in. -/
def update (precondition : CommandPrecondition) : Option CredentialLifecycleUpdate :=
  lifecycleUpdateForCommand command.kind precondition.credentialSetId command.credentialId
    command.reason precondition.state

/-- The first check. -/
def firstCheck (inputs : CommandInputs) (w : CommandWorld) (channelId : String)
    (credentialSetId : CredentialSetId) : CommandPhase :=
  match command.snapshotIn w.pool inputs.check with
  | none => .done (.error (unknownCredentialError command.credentialId))
  | some snapshot =>
      match credentialCommandStateDecision command.kind snapshot.state with
      | .alreadyApplied =>
          .done (.ok ⟨channelId, credentialSetId, w.selectorGeneration, snapshot⟩)
      | .rejected => .done (.error (notAccepted command.kind command.credentialId))
      | .ready => .checked ⟨channelId, credentialSetId, w.selectorGeneration, snapshot.state⟩

/-- The check against the precondition, at the head of the task and at its end. -/
def checkAgain (inputs : CommandInputs) (w : CommandWorld)
    (precondition : CommandPrecondition) : Except ManagementServiceError CommandReadiness :=
  match command.snapshotIn w.pool inputs.check with
  | none => .error (unknownCredentialError command.credentialId)
  | some snapshot =>
      checkCommandPrecondition command.kind command.credentialId precondition
        w.selectorGeneration snapshot

/-- The end of the task: the last check, and the change of the pool. -/
def finalApply (inputs : CommandInputs) (w : CommandWorld) (precondition : CommandPrecondition) :
    CommandWorld × CommandPhase × List CommandEffect :=
  match command.checkAgain inputs w precondition with
  | .error err => (w, .failed precondition err, [])
  | .ok (.alreadyApplied response) => (w, .done (.ok response), [])
  | .ok (.ready current) =>
      match command.applyTo inputs.change w.pool with
      | (_, none) =>
          (w, .failed precondition (unknownCredentialError command.credentialId), [])
      | (pool, some snapshot) =>
          let generation :=
            advanceSelectorGeneration w.selectorGeneration (some current.state) snapshot.state
          ({ w with pool := pool, selectorGeneration := generation },
            .done (.ok ⟨precondition.channelId, precondition.credentialSetId, generation,
              snapshot⟩),
            [.applied (command.kind.poolOp command.credentialId command.reason)])

/-- The event, if the append leaves it in the file to be read. -/
def recordedBy (inputs : CommandInputs) (w : CommandWorld) (channelId : String) :
    List CommandEffect :=
  if w.events.leavesRecord inputs.appendFault then
    [.recorded ((command.audit channelId).toEvent (w.events.nextId + 1) inputs.unixSeconds)]
  else []

/-- One phase of a command.  A task that ends abnormally leaves the same response as an
event that could not be appended. -/
def advance (inputs : CommandInputs) (w : CommandWorld) :
    CommandPhase → CommandWorld × CommandPhase × List CommandEffect
  | .resolved channelId credentialSetId =>
      (w, command.firstCheck inputs w channelId credentialSetId, [])
  -- what was checked before the task began is checked again, under the mutation gate; the gate is
  -- let go before the store is written
  | .checked precondition =>
      match inputs.fault with
      | some message => (w, .failed precondition (.eventAppendFailed message none), [])
      | none =>
          match command.checkAgain inputs w precondition with
          | .error err => (w, .failed precondition err, [])
          | .ok (.alreadyApplied response) => (w, .done (.ok response), [])
          | .ok (.ready _) => (w, .rechecked precondition, [])
  | .rechecked precondition =>
      -- a cooldown is not persisted, so there is nothing to write for it
      match command.update precondition with
      | none => (w, .persisted precondition none, [])
      | some update =>
          match w.store.persistLifecycleUpdate update
              (lifecycleEvidenceForCommand command.kind command.reasonClass command.actor
                precondition.channelId) inputs.fault with
          | (store, .error err) =>
              ({ w with store := store },
                .failed precondition (credentialLifecycleStoreError err), [])
          | (store, .ok historyId) =>
              ({ w with store := store }, .persisted precondition (some historyId),
                [.persisted update.state])
  | .persisted precondition historyId =>
      match w.events.recordAuditEventNow (command.audit precondition.channelId)
          inputs.unixSeconds inputs.appendFault with
      | (events, .error message) =>
          ({ w with events := events },
            .failed precondition (.eventAppendFailed message historyId),
            command.recordedBy inputs w precondition.channelId)
      | (events, .ok ()) =>
          ({ w with events := events }, .recorded precondition,
            command.recordedBy inputs w precondition.channelId)
  | .recorded precondition => command.finalApply inputs w precondition
  -- without an update of the store there is nothing to take back
  | .failed precondition err =>
      if (command.update precondition).isNone then (w, .done (.error err.intoPublicError), [])
      else
        match command.snapshotIn w.pool inputs.check with
        | none => (w, .done (.error err.intoPublicError), [])
        | some snapshot => (w, .compensating precondition err snapshot, [])
  | .compensating precondition err snapshot =>
      let staleHistoryId := match err with
        | .eventAppendFailed _ staleHistoryId => staleHistoryId
        | _ => none
      -- the store gets the state that the pool has; if the event was not appended, the history
      -- loses the entry of the command
      let update := lifecycleUpdateForSnapshot precondition.credentialSetId
        command.credentialId snapshot.state
      match w.store.persistLifecycleSnapshot update staleHistoryId inputs.fault with
      | (store, .error storeErr) =>
          ({ w with store := store },
            .done (.error (credentialLifecycleStoreError storeErr)), [])
      | (store, .ok ()) =>
          ({ w with store := store }, .done (.error err.intoPublicError),
            [.compensated update.state])
  | .done result => (w, .done result, [])

end CredentialCommand

end OneAiKey
