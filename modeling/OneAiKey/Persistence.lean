/-
  OneAiKey.Persistence — the runtime pools and the stored durable states side by
  side (`src/failure_state_executor.rs`, `src/management_commands.rs`, the
  persistence worker of `src/state.rs`).

  Three parties share the pools and the store: the requests, which select
  credentials and report their failures; the persistence worker, which writes
  the reported exclusions one by one; and any number of credential commands,
  each somewhere between two of its phases.  `LifecycleWorld.next` is one step
  of one of them.

  A pool is found by the runtime it was built for and by its credential set: a
  reload leaves the pools of the runtime before it to the commands and requests
  that still hold them.

  Main results:
    * `next_report` — what a failure report does to the pool and to the queue;
    * `settled_report` / `settled_persist` / `settled_receive` — what the steps do
      to the rows that the waiting requests will leave;
    * `advance_rows` / `advance_pool` — what a phase of a command leaves alone.
-/
import OneAiKey.Commands.Saga
import OneAiKey.Lib.WriteBehind

namespace OneAiKey

/-! ## §1. The world. -/

/-- A credential set at run time, without its gates. -/
structure RuntimeCredentialSet where
  pool : KeyPool
  selectorGeneration : Nat

/-- A credential set of the runtime with a number. -/
structure SetAddress where
  runtime : Nat
  credentialSetId : CredentialSetId
  deriving DecidableEq, Repr

/-- A command, the runtime that it has resolved its channel in, and its next phase. -/
structure InFlightCommand where
  command : CredentialCommand
  runtime : Nat
  phase : CommandPhase

structure LifecycleWorld where
  sets : SetAddress → Option RuntimeCredentialSet
  store : CredentialStore
  events : EventLogFile
  persistence : LifecyclePersistenceQueue
  /-- The request that the worker has received and not written yet. -/
  received : Option AutomaticLifecyclePersistenceRequest
  /-- The commands in the order of their start, those with a result included. -/
  commands : List InFlightCommand
  /-- The requests that were handed over although the pool has ignored the report. -/
  ignored : List AutomaticLifecyclePersistenceRequest
  clock : Instant

inductive LifecycleEvent where
  /-- A request selects a credential. -/
  | select (address : SetAddress) (op : PoolOp) (readings : Readings)
  /-- A request reports a failure, through some channel of the set. -/
  | report (address : SetAddress) (channel : ChannelRuntime)
      (failureDomains : FailureDomainRegistry) (snapshot : RequestSelectionSnapshot)
      (readings : Readings) (mutation : StateMutation)
  /-- The worker receives a request. -/
  | receive
  /-- The worker writes the request that it has received. -/
  | persist (fault : Option String)
  /-- An operator starts a command. -/
  | start (command : CredentialCommand) (runtime : Nat)
      (credentialSetOf : String → Option CredentialSetId)
  /-- A command runs its next phase. -/
  | advance (index : Nat) (inputs : CommandInputs)

/-! ## §2. One step. -/

/-- The operations that only look for a credential to use. -/
def PoolOp.isSelection : PoolOp → Bool
  | select | selectCredentialById _ | selectCoolingDownLastResort
  | retryCandidatesFromCurrent _ => true
  | _ => false

/-- The update that the worker writes for a request. -/
def AutomaticLifecyclePersistenceRequest.update
    (request : AutomaticLifecyclePersistenceRequest) : CredentialLifecycleUpdate :=
  ⟨request.credentialSetId, request.credentialId, request.state.intoLifecycleState⟩

def AutomaticLifecyclePersistenceRequest.evidence
    (request : AutomaticLifecyclePersistenceRequest) : CredentialLifecycleEvidence :=
  .automaticFailure request.reasonClass request.channelId

/-- Does the pool hold something else than a request says? -/
def ignoredBy (pool : KeyPool) (request : AutomaticLifecyclePersistenceRequest) : Bool :=
  pool.lifecycleOf request.credentialId != some request.state.intoLifecycleState

/-- The credential set that a phase works on. -/
def CommandPhase.credentialSetId : CommandPhase → Option CredentialSetId
  | resolved _ credentialSetId => some credentialSetId
  | checked precondition | rechecked precondition | persisted precondition _
  | recorded precondition | failed precondition _ | compensating precondition _ _ =>
      some precondition.credentialSetId
  | done _ => none

namespace LifecycleWorld

/-- What a report shares with the rest of the world. -/
def mutationState (w : LifecycleWorld) (set : RuntimeCredentialSet) (channel : ChannelRuntime)
    (failureDomains : FailureDomainRegistry) : MutationState :=
  ⟨channel, failureDomains, set.pool, set.selectorGeneration, w.persistence⟩

/-- The world after a report. -/
def afterReport (w : LifecycleWorld) (address : SetAddress) (r : Readings) (s : MutationState) :
    LifecycleWorld :=
  { w with
    sets := Function.update w.sets address (some ⟨s.pool, s.selectorGeneration⟩)
    persistence := s.persistence
    ignored := w.ignored ++
      (s.persistence.requests.drop w.persistence.requests.length).filter (ignoredBy s.pool)
    clock := r.third }

/-- What a command shares with the rest of the world. -/
def commandWorld (w : LifecycleWorld) (set : RuntimeCredentialSet) : CommandWorld :=
  ⟨set.pool, set.selectorGeneration, w.store, w.events⟩

/-- The world after a phase of the command at an index. -/
def afterPhase (w : LifecycleWorld) (index : Nat) (inFlight : InFlightCommand)
    (address : SetAddress) (inputs : CommandInputs) (shared : CommandWorld)
    (phase : CommandPhase) : LifecycleWorld :=
  { w with
    sets := Function.update w.sets address (some ⟨shared.pool, shared.selectorGeneration⟩)
    store := shared.store
    events := shared.events
    commands := w.commands.set index { inFlight with phase := phase }
    clock := inputs.change.third }

/-- One step; `none` if the event cannot happen now. -/
def next (w : LifecycleWorld) : LifecycleEvent → Option LifecycleWorld
  | .select address op r =>
      (w.sets address).bind fun set =>
        if op.isSelection = true ∧ w.clock ≤ r.first then
          some { w with
            sets := Function.update w.sets address
              (some ⟨(op.exec r set.pool).1, set.selectorGeneration⟩)
            clock := r.third }
        else none
  | .report address channel failureDomains snapshot r mutation =>
      (w.sets address).bind fun set =>
        if channel.poolState.credentialSetId = address.credentialSetId ∧ w.clock ≤ r.first then
          some (w.afterReport address r
            (applyStateMutation (w.mutationState set channel failureDomains) snapshot r mutation))
        else none
  | .receive =>
      match w.received, w.persistence.requests with
      | none, request :: requests =>
          some { w with
            persistence := { w.persistence with requests := requests }
            received := some request }
      | _, _ => none
  | .persist fault =>
      w.received.map fun request =>
        { w with
          store := (w.store.persistLifecycleUpdate request.update request.evidence fault).1
          received := none }
  | .start command runtime credentialSetOf =>
      some { w with
        commands := w.commands ++ [⟨command, runtime, command.startPhase credentialSetOf⟩] }
  | .advance index inputs =>
      w.commands[index]?.bind fun inFlight =>
        inFlight.phase.credentialSetId.bind fun credentialSetId =>
          (w.sets ⟨inFlight.runtime, credentialSetId⟩).bind fun set =>
            if w.clock ≤ inputs.check.first then
              match inFlight.command.advance inputs (w.commandWorld set) inFlight.phase with
              | (shared, phase, _) => some (w.afterPhase index inFlight
                  ⟨inFlight.runtime, credentialSetId⟩ inputs shared phase)
            else none

end LifecycleWorld

/-- Runs from a quiet moment at which the store has the durable states of the one
runtime's pools. -/
def lifecycleSystem : TransitionSystem LifecycleWorld LifecycleEvent where
  Init w :=
    (∀ address set, w.sets address = some set →
      address.runtime = 0 ∧ poolSystem.Reachable ⟨set.pool, w.clock⟩ ∧
        ∀ id l, set.pool.lifecycleOf id = some l →
          w.store.rowState address.credentialSetId id = l) ∧
    w.persistence.requests = [] ∧ w.received = none ∧ w.commands = [] ∧ w.ignored = []
  Step w event w' := w.next event = some w'

/-! ## §3. The rows that are on their way. -/

/-- A credential of a set, as the store knows it. -/
abbrev CredentialKey := CredentialSetId × CredentialId

def AutomaticLifecyclePersistenceRequest.write (request : AutomaticLifecyclePersistenceRequest) :
    CredentialKey × CredentialLifecycleState :=
  ((request.credentialSetId, request.credentialId), request.state.intoLifecycleState)

def CredentialStore.rows (store : CredentialStore) (key : CredentialKey) :
    CredentialLifecycleState :=
  store.rowState key.1 key.2

namespace LifecycleWorld

/-- The writes that wait for the worker, the one that it has received first. -/
def pendingWrites (w : LifecycleWorld) : List (CredentialKey × CredentialLifecycleState) :=
  (w.received.toList ++ w.persistence.requests).map (·.write)

/-- The rows when the worker has written everything that waits for it. -/
def settled (w : LifecycleWorld) : CredentialKey → CredentialLifecycleState :=
  WriteBehind.settle w.store.rows w.pendingWrites

end LifecycleWorld

/-! ## §4. The queue. -/

/-- Does the queue take another request? -/
def LifecyclePersistenceQueue.Accepts (queue : LifecyclePersistenceQueue) : Prop :=
  queue.hasSender = true ∧ queue.closed = false ∧
    queue.requests.length < lifecyclePersistenceCapacity

instance (queue : LifecyclePersistenceQueue) : Decidable queue.Accepts :=
  inferInstanceAs (Decidable (_ ∧ _ ∧ _))

theorem LifecyclePersistenceQueue.requests_tryEnqueue (queue : LifecyclePersistenceQueue)
    (request : AutomaticLifecyclePersistenceRequest) :
    (queue.tryEnqueue request).1.requests =
      queue.requests ++ if queue.Accepts then [request] else [] := by
  obtain ⟨hasSender, closed, requests⟩ := queue
  unfold LifecyclePersistenceQueue.tryEnqueue LifecyclePersistenceQueue.Accepts
  cases hasSender with
  | false => simp
  | true =>
      cases closed with
      | true => simp
      | false =>
          by_cases hfull : lifecyclePersistenceCapacity ≤ requests.length
          · have hnot : ¬ requests.length < lifecyclePersistenceCapacity := by omega
            simp [hfull]
          · have hlt : requests.length < lifecyclePersistenceCapacity := by omega
            simp [hfull, hlt]

/-! ## §5. A failure report. -/

/-- The exclusion that a report asks for, and the credential. -/
def StateMutation.automatic :
    StateMutation → Option (CredentialId × AutomaticLifecyclePersistenceState)
  | expireCredential _ credentialId reason => some (credentialId, .expired (reasonText reason))
  | markCredentialQuotaExhausted _ credentialId reason =>
      some (credentialId, .quotaExhausted (reasonText reason))
  | _ => none

/-- The pool operation of an exclusion. -/
def AutomaticLifecyclePersistenceState.poolOp (credentialId : CredentialId) :
    AutomaticLifecyclePersistenceState → PoolOp
  | expired reason => .applyCredentialExpired credentialId reason
  | quotaExhausted reason => .applyCredentialQuotaExhausted credentialId reason

theorem AutomaticLifecyclePersistenceState.poolOp_isDurable (id : CredentialId)
    (state : AutomaticLifecyclePersistenceState) : (state.poolOp id).IsDurable := by
  cases state <;> exact ⟨trivial, fun h => h⟩

def CredentialLifecycleState.IsDisabled : CredentialLifecycleState → Prop
  | disabled _ => True
  | _ => False

instance : DecidablePred CredentialLifecycleState.IsDisabled := fun l => by
  cases l <;> unfold CredentialLifecycleState.IsDisabled <;> infer_instance

/-- A report excludes its credential unless it is disabled. -/
theorem AutomaticLifecyclePersistenceState.lifecycleEffect_poolOp (id id' : CredentialId)
    (state : AutomaticLifecyclePersistenceState) (l : CredentialLifecycleState) :
    (state.poolOp id).lifecycleEffect id' l =
      if id = id' ∧ ¬ l.IsDisabled then state.intoLifecycleState else l := by
  by_cases hid : id = id'
  · cases state <;> cases l <;>
      simp [poolOp, PoolOp.lifecycleEffect, hid, CredentialLifecycleState.IsDisabled,
        intoLifecycleState]
  · cases state <;> cases l <;> simp [poolOp, PoolOp.lifecycleEffect, hid]

theorem KeyPool.credentialSnapshotById_isSome (p : KeyPool) (id : CredentialId)
    (guardNow remainingNow : Instant) :
    (p.credentialSnapshotById id guardNow remainingNow).isSome = (p.lifecycleOf id).isSome := by
  have hstate := p.credentialSnapshotById_state id guardNow remainingNow
  have hsome := congrArg Option.isSome hstate
  rw [Option.isSome_map, Option.isSome_map] at hsome
  unfold KeyPool.lifecycleOf
  rw [hsome, Option.isSome_map]

theorem applyCredentialMutation_spec (s : MutationState) (id : CredentialId) (r : Readings)
    (op : Instant → KeyPool → KeyPool) :
    (applyCredentialMutation s id r op).1.pool = op r.second s.pool ∧
      (applyCredentialMutation s id r op).1.persistence = s.persistence ∧
      (applyCredentialMutation s id r op).2 = ((op r.second s.pool).lifecycleOf id).isSome := by
  have hfound := (op r.second s.pool).credentialSnapshotById_isSome id r.third r.third
  unfold applyCredentialMutation
  dsimp only
  cases hsnap : (op r.second s.pool).credentialSnapshotById id r.third r.third with
  | none =>
      rw [hsnap] at hfound
      exact ⟨rfl, rfl, hfound⟩
  | some after =>
      rw [hsnap] at hfound
      exact ⟨rfl, rfl, hfound⟩

/-- A report of an expiry or of a quota exhaustion: the pool runs its operation, and the
request is handed over if the pool has the credential. -/
theorem applyStateMutation_automatic {mutation : StateMutation} {id : CredentialId}
    {state : AutomaticLifecyclePersistenceState} (h : mutation.automatic = some (id, state))
    (s : MutationState) (snapshot : RequestSelectionSnapshot) (r : Readings) :
    ∃ request : AutomaticLifecyclePersistenceRequest,
      request.credentialSetId = s.channel.poolState.credentialSetId ∧
      request.credentialId = id ∧ request.state = state ∧
      (applyStateMutation s snapshot r mutation).pool =
        ((state.poolOp id).exec (.at' r.second) s.pool).1 ∧
      (applyStateMutation s snapshot r mutation).persistence =
        if (((state.poolOp id).exec (.at' r.second) s.pool).1.lifecycleOf id).isSome = true then
          (s.persistence.tryEnqueue request).1
        else s.persistence := by
  -- a request is queued only when the pool has the credential
  have henqueue : ∀ (op : Instant → KeyPool → KeyPool)
      (request : AutomaticLifecyclePersistenceRequest),
      (enqueueAutomaticLifecyclePersistence (applyCredentialMutation s id r op) request).pool =
          op r.second s.pool ∧
        (enqueueAutomaticLifecyclePersistence (applyCredentialMutation s id r op)
            request).persistence =
          if ((op r.second s.pool).lifecycleOf id).isSome = true then
            (s.persistence.tryEnqueue request).1
          else s.persistence := by
    intro op request
    obtain ⟨hpool, hqueue, hfound⟩ := applyCredentialMutation_spec s id r op
    unfold enqueueAutomaticLifecyclePersistence
    rw [hfound]
    by_cases hsome : ((op r.second s.pool).lifecycleOf id).isSome = true
    · rw [if_pos hsome, if_pos hsome, ← hqueue]
      exact ⟨hpool, rfl⟩
    · rw [if_neg hsome, if_neg hsome]
      exact ⟨hpool, hqueue⟩
  cases mutation with
  | expireCredential channelId credentialId reason =>
      cases h
      exact ⟨automaticLifecyclePersistenceRequest s snapshot id
        (.expired (reasonText reason)) reason, rfl, rfl, rfl, henqueue _ _⟩
  | markCredentialQuotaExhausted channelId credentialId reason =>
      cases h
      exact ⟨automaticLifecyclePersistenceRequest s snapshot id
        (.quotaExhausted (reasonText reason)) reason, rfl, rfl, rfl, henqueue _ _⟩
  | _ => cases h

/-- The credential that a mutation lets cool down. -/
def StateMutation.coolingDown : StateMutation → Option (CredentialId × Instant × String)
  | markCredentialCoolingDown _ credentialId untilInstant reason =>
      some (credentialId, untilInstant, reasonText reason)
  | _ => none

/-- Any other report hands nothing over, and changes the pool by a cooldown at most. -/
theorem applyStateMutation_other {mutation : StateMutation} (h : mutation.automatic = none)
    (s : MutationState) (snapshot : RequestSelectionSnapshot) (r : Readings) :
    (applyStateMutation s snapshot r mutation).persistence = s.persistence ∧
      (applyStateMutation s snapshot r mutation).pool =
        match mutation.coolingDown with
        | some (id, untilInstant, reason) =>
            ((PoolOp.applyCredentialCooldownUntil id untilInstant reason).exec
              (.at' r.second) s.pool).1
        | none => s.pool := by
  cases mutation with
  | expireCredential channelId credentialId reason => cases h
  | markCredentialQuotaExhausted channelId credentialId reason => cases h
  | markCredentialCoolingDown channelId credentialId untilInstant reason =>
      obtain ⟨hpool, hqueue, -⟩ := applyCredentialMutation_spec s credentialId r fun now pool =>
        (pool.applyCredentialCooldownUntil credentialId untilInstant (reasonText reason) now).1
      exact ⟨hqueue, hpool⟩
  | _ => exact ⟨rfl, rfl⟩

/-! ## §6. A phase of a command. -/

/-- The command has written its durable state, or is about to look what to write back. -/
def CommandPhase.Writing : CommandPhase → Prop
  | persisted _ _ | recorded _ | failed _ _ | compensating _ _ _ => True
  | _ => False

namespace CredentialStore

theorem Written.rows {α : Type} {store store' : CredentialStore}
    {update : CredentialLifecycleUpdate} {fault : Option String} {a : α}
    (h : Written store update fault (store', .ok a)) :
    store'.rows =
      Function.update store.rows (update.credentialSetId, update.credentialId) update.state := by
  funext key
  show store'.rowState key.1 key.2 = _
  rw [h.rowState, Function.update_apply]
  simp only [Prod.ext_iff]
  rfl

/-- The credentials are those they were, and the lifecycle rows stay about them. -/
structure Kept (store store' : CredentialStore) : Prop where
  sqlite : store'.sqlite = store.sqlite
  credentials : store'.credentials = store.credentials
  consistent : store.Consistent → store'.Consistent

theorem Kept.refl (store : CredentialStore) : store.Kept store := ⟨rfl, rfl, fun h => h⟩

theorem Written.kept {α : Type} {store : CredentialStore} {update : CredentialLifecycleUpdate}
    {fault : Option String} {outcome : CredentialStore × Except CredentialStoreError α}
    (h : Written store update fault outcome) : store.Kept outcome.1 where
  sqlite := by cases h <;> rfl
  credentials := by cases h <;> rfl
  consistent := fun hconsistent => hconsistent.written h

end CredentialStore

namespace CredentialCommand

theorem update_key {command : CredentialCommand} {precondition : CommandPrecondition}
    {update : CredentialLifecycleUpdate} (h : command.update precondition = some update) :
    update.credentialSetId = precondition.credentialSetId ∧
      update.credentialId = command.credentialId := by
  unfold CredentialCommand.update lifecycleUpdateForCommand at h
  obtain ⟨state, -, hupdate⟩ := Option.map_eq_some_iff.mp h
  rw [← hupdate]
  exact ⟨rfl, rfl⟩

/-- What a phase can do: nothing to the store and to the pool, a write of the row of the
command's credential, or the command's operation on the pool. -/
inductive PhaseEffect (command : CredentialCommand) (inputs : CommandInputs)
    (shared shared' : CommandWorld) (phase phase' : CommandPhase) : Prop where
  | nothing (store : shared'.store = shared.store) (pool : shared'.pool = shared.pool)
  | wrote (credentialSetId : CredentialSetId) (state : CredentialLifecycleState)
      (set : phase.credentialSetId = some credentialSetId)
      (rows : shared'.store.rows =
        Function.update shared.store.rows (credentialSetId, command.credentialId) state)
      (pool : shared'.pool = shared.pool) (kept : shared.store.Kept shared'.store)
      (writing : phase.Writing ∨ phase'.Writing)
  | applied (store : shared'.store = shared.store)
      (pool : shared'.pool =
        ((command.kind.poolOp command.credentialId command.reason).exec
          inputs.change shared.pool).1)
      (writing : phase.Writing)

/-- Every phase does one of these, and stays with the credential set of the command. -/
theorem advance_cases (command : CredentialCommand) (inputs : CommandInputs)
    (shared : CommandWorld) (phase : CommandPhase) :
    PhaseEffect command inputs shared (command.advance inputs shared phase).1 phase
        (command.advance inputs shared phase).2.1 ∧
      ((command.advance inputs shared phase).2.1.credentialSetId = none ∨
        (command.advance inputs shared phase).2.1.credentialSetId = phase.credentialSetId) := by
  cases phase with
  | resolved channelId credentialSetId =>
      refine ⟨.nothing rfl rfl, ?_⟩
      show (command.firstCheck inputs shared channelId credentialSetId).credentialSetId = none ∨
        (command.firstCheck inputs shared channelId credentialSetId).credentialSetId = _
      unfold firstCheck
      split
      · exact .inl rfl
      · split
        · exact .inl rfl
        · exact .inl rfl
        · exact .inr rfl
  | checked precondition =>
      -- the second check only looks
      unfold advance
      cases inputs.fault with
      | some message => exact ⟨.nothing rfl rfl, .inr rfl⟩
      | none =>
          dsimp only
          split
          · exact ⟨.nothing rfl rfl, .inr rfl⟩
          · exact ⟨.nothing rfl rfl, .inl rfl⟩
          · exact ⟨.nothing rfl rfl, .inr rfl⟩
  | rechecked precondition =>
      -- the row is written, or the write is refused
      unfold advance
      dsimp only
      split
      · exact ⟨.nothing rfl rfl, .inr rfl⟩
      · next update hupdate =>
          obtain ⟨hset, hid⟩ := update_key hupdate
          split
          · next store err hwrite =>
              have hwritten := CredentialStore.written_persistLifecycleUpdate hwrite
              exact ⟨.nothing hwritten.unchanged rfl, .inr rfl⟩
          · next store historyId hwrite =>
              have hwritten := CredentialStore.written_persistLifecycleUpdate hwrite
              have hrows := hwritten.rows
              rw [hset, hid] at hrows
              exact ⟨.wrote _ _ rfl hrows rfl hwritten.kept (.inr trivial), .inr rfl⟩
  | persisted precondition historyId =>
      unfold advance
      dsimp only
      split <;> exact ⟨.nothing rfl rfl, .inr rfl⟩
  | recorded precondition =>
      -- the pool changes in this phase and in no other
      show PhaseEffect command inputs shared (command.finalApply inputs shared precondition).1 _
          (command.finalApply inputs shared precondition).2.1 ∧
        ((command.finalApply inputs shared precondition).2.1.credentialSetId = none ∨
          (command.finalApply inputs shared precondition).2.1.credentialSetId = _)
      have hset : (command.finalApply inputs shared precondition).2.1.credentialSetId = none ∨
          (command.finalApply inputs shared precondition).2.1.credentialSetId =
            some precondition.credentialSetId := by
        unfold finalApply
        split
        · exact .inr rfl
        · exact .inl rfl
        · split
          · exact .inr rfl
          · exact .inl rfl
      refine ⟨?_, hset⟩
      rcases command.finalApply_cases inputs shared precondition with ⟨_, _, hfinal⟩ | ⟨_, hfinal⟩ <;>
        rw [hfinal]
      · exact .applied rfl rfl trivial
      · exact .nothing rfl rfl
  | failed precondition err =>
      unfold advance
      dsimp only
      split
      · exact ⟨.nothing rfl rfl, .inl rfl⟩
      · split
        · exact ⟨.nothing rfl rfl, .inl rfl⟩
        · exact ⟨.nothing rfl rfl, .inr rfl⟩
  | compensating precondition err snapshot =>
      -- the row is written back
      unfold advance
      dsimp only
      split
      · next store storeErr hwrite =>
          have hwritten := CredentialStore.written_persistLifecycleSnapshot hwrite
          exact ⟨.nothing hwritten.unchanged rfl, .inl rfl⟩
      · next store hwrite =>
          have hwritten := CredentialStore.written_persistLifecycleSnapshot hwrite
          exact ⟨.wrote _ _ rfl hwritten.rows rfl hwritten.kept (.inl trivial), .inl rfl⟩
  | done result => exact ⟨.nothing rfl rfl, .inl rfl⟩

end CredentialCommand

/-- A command has no effect on other credentials. -/
theorem CredentialCommandKind.lifecycleEffect_poolOp_of_ne (kind : CredentialCommandKind)
    {id id' : CredentialId} (hne : id ≠ id') (reason : String) (l : CredentialLifecycleState) :
    (kind.poolOp id reason).lifecycleEffect id' l = l := by
  cases kind <;> cases l <;> simp [poolOp, PoolOp.lifecycleEffect, hne]

namespace CredentialCommand.PhaseEffect

variable {command : CredentialCommand} {inputs : CommandInputs} {shared shared' : CommandWorld}
  {phase phase' : CommandPhase}

/-- The rows of other credentials are left alone. -/
theorem rows_of_ne (h : PhaseEffect command inputs shared shared' phase phase')
    {setId : CredentialSetId} (hset : phase.credentialSetId = some setId) {key : CredentialKey}
    (hkey : key ≠ (setId, command.credentialId)) :
    shared'.store.rows key = shared.store.rows key := by
  cases h with
  | nothing store pool => rw [store]
  | wrote setId' state set rows pool kept writing =>
      rw [hset] at set
      cases set
      rw [rows]
      exact Function.update_of_ne hkey _ _
  | applied store pool writing => rw [store]

/-- The durable states of other credentials are left alone. -/
theorem lifecycleOf_of_ne (h : PhaseEffect command inputs shared shared' phase phase')
    {t : Instant} (hwf : WellFormed t shared.pool) (ht : t ≤ inputs.change.first)
    {id : CredentialId} (hid : id ≠ command.credentialId) :
    shared'.pool.lifecycleOf id = shared.pool.lifecycleOf id := by
  cases h with
  | nothing store pool => rw [pool]
  | wrote setId' state set rows pool kept writing => rw [pool]
  | applied store pool writing =>
      rw [pool, hwf.lifecycleOf_exec (command.kind.poolOp_isDurable _ _) ht]
      have hnone : ((command.kind.poolOp command.credentialId command.reason).lifecycleEffect
          id ·) = fun l => l := by
        funext l
        exact command.kind.lifecycleEffect_poolOp_of_ne (Ne.symm hid) command.reason l
      rw [hnone, Option.map_id']

theorem kept (h : PhaseEffect command inputs shared shared' phase phase') :
    shared.store.Kept shared'.store := by
  cases h with
  | nothing store pool =>
      rw [store]
      exact .refl _
  | wrote setId' state set rows pool kept writing => exact kept
  | applied store pool writing =>
      rw [store]
      exact .refl _

theorem wellFormed (h : PhaseEffect command inputs shared shared' phase phase') {t : Instant}
    (hwf : WellFormed t shared.pool) (ht : t ≤ inputs.check.first) :
    WellFormed inputs.change.third shared'.pool := by
  have hlast := Nat.le_trans ht inputs.first_le_last
  cases h with
  | nothing store pool =>
      rw [pool]
      exact hwf.mono hlast
  | wrote setId' state set rows pool kept writing =>
      rw [pool]
      exact hwf.mono hlast
  | applied store pool writing =>
      rw [pool]
      exact PoolOp.exec_wellFormed hwf
        (Nat.le_trans ht (Nat.le_trans inputs.check.first_le_third inputs.check_le)) _

end CredentialCommand.PhaseEffect

/-! ## §7. What every step keeps. -/

namespace LifecycleWorld

/-- The clock goes forward, and the store keeps its credentials. -/
theorem next_kept {w w' : LifecycleWorld} {event : LifecycleEvent}
    (h : w.next event = some w') : w.clock ≤ w'.clock ∧ w.store.Kept w'.store := by
  cases event with
  | select address op r =>
      obtain ⟨set, -, hguard⟩ := Option.bind_eq_some_iff.mp h
      by_cases hselect : op.isSelection = true ∧ w.clock ≤ r.first
      · rw [if_pos hselect] at hguard
        cases hguard
        exact ⟨Nat.le_trans hselect.2 r.first_le_third, .refl _⟩
      · rw [if_neg hselect] at hguard
        cases hguard
  | report address channel failureDomains snapshot r mutation =>
      obtain ⟨set, -, hguard⟩ := Option.bind_eq_some_iff.mp h
      by_cases hreport : channel.poolState.credentialSetId = address.credentialSetId ∧
          w.clock ≤ r.first
      · rw [if_pos hreport] at hguard
        cases hguard
        exact ⟨Nat.le_trans hreport.2 r.first_le_third, .refl _⟩
      · rw [if_neg hreport] at hguard
        cases hguard
  -- the worker only takes a request from the queue
  | receive =>
      unfold next at h
      cases hreceived : w.received with
      | some request =>
          rw [hreceived] at h
          cases h
      | none =>
          cases hrequests : w.persistence.requests with
          | nil =>
              rw [hreceived, hrequests] at h
              cases h
          | cons request requests =>
              rw [hreceived, hrequests] at h
              cases h
              exact ⟨Nat.le_refl _, .refl _⟩
  | persist fault =>
      obtain ⟨request, -, rfl⟩ := Option.map_eq_some_iff.mp h
      -- a write keeps the rows of all other credentials
      exact ⟨Nat.le_refl _, (CredentialStore.written_persistLifecycleUpdate rfl).kept⟩
  | start command runtime credentialSetOf =>
      cases h
      exact ⟨Nat.le_refl _, .refl _⟩
  | advance index inputs =>
      obtain ⟨inFlight, -, h⟩ := Option.bind_eq_some_iff.mp h
      obtain ⟨setId, -, h⟩ := Option.bind_eq_some_iff.mp h
      obtain ⟨set, -, hguard⟩ := Option.bind_eq_some_iff.mp h
      by_cases hclock : w.clock ≤ inputs.check.first
      · rw [if_pos hclock] at hguard
        obtain ⟨heffect, -⟩ :=
          inFlight.command.advance_cases inputs (w.commandWorld set) inFlight.phase
        cases hguard
        exact ⟨Nat.le_trans hclock inputs.first_le_last, heffect.kept⟩
      · rw [if_neg hclock] at hguard
        cases hguard

end LifecycleWorld

end OneAiKey
