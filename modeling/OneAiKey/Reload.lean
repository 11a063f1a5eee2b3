/-
  OneAiKey.Reload — the reload of the runtime (`rebuild_runtime_from_resolved_config`
  of `src/state.rs`, `apply_runtime_reload` of `src/management_runtime.rs`).

  A reload reads the event log, visits the channels of the new configuration one
  by one, and replaces the runtime.  The first channel of a credential set reads
  the rows of the set and builds its pool.  Only the registry is locked: between
  any two of these steps the requests, the worker and the commands go on, on the
  pools of the runtime that is still current and of those before it.

  `released` are the credentials for which a restore or an enable was accepted
  since they were excluded.  It is accepted in the phase that changes the pool; its
  row is written before, and is written back when the command fails after that.

  Main results:
    * `fromConfig_execAll` — a new pool runs the replayed and the restored
      operations;
    * `rowState_restored` — the rows that a load returns restore the stored states.
-/
import OneAiKey.Persistence

namespace OneAiKey

/-! ## §1. The reload. -/

/-- A reload between the read of the event log and the replacement. -/
structure RuntimeReload where
  poolConfigs : List (String × ResolvedPoolConfig)
  persistedEvents : List DomainEvent
  /-- The channels that are still to be visited. -/
  remaining : List (String × ResolvedPoolConfig)
  /-- What has been built so far. -/
  runtime : Runtime

structure ReloadWorld where
  world : LifecycleWorld
  /-- The number of the runtime that new requests and commands use. -/
  current : Nat
  reload : Option RuntimeReload
  released : CredentialKey → Prop

inductive ReloadEvent where
  | lifecycle (event : LifecycleEvent)
  /-- The event log is read, if there is one. -/
  | readEvents (config : ResolvedConfig) (poolConfigs : List (String × ResolvedPoolConfig))
      (hasLogPath : Bool)
  /-- The next channel is visited, with the clock at the replay and at the restore. -/
  | visitChannel (persistedEvents : List (DomainEvent × Readings))
      (lifecycleSnapshots : List (CredentialLifecycleSnapshot × Readings))
      (fault : Option String) (clock : Instant)
  /-- The reload fails. -/
  | abandon
  | replaceRuntime

/-- The durable state of a credential in the runtime with a number. -/
def LifecycleWorld.durableIn (w : LifecycleWorld) (runtime : Nat) (key : CredentialKey) :
    Option CredentialLifecycleState :=
  (w.sets ⟨runtime, key.1⟩).bind fun set => set.pool.lifecycleOf key.2

/-- The runtime that has been built gets a number. -/
def LifecycleWorld.withRuntime (w : LifecycleWorld) (number : Nat) (runtime : Runtime) :
    LifecycleWorld :=
  { w with
    sets := fun address =>
      if address.runtime = number then
        runtime.credentialSetRuntimes[address.credentialSetId]?.map fun pool => ⟨pool, 1⟩
      else w.sets address }

/-- A command starts in the current runtime. -/
def LifecycleEvent.StartsIn (event : LifecycleEvent) (current : Nat) : Prop :=
  match event with
  | .start _ runtime _ => runtime = current
  | _ => True

/-- What the stores hold for the pool of a channel. -/
def CredentialStore.startupEvidence (store : CredentialStore)
    (persistedEvents : List (DomainEvent × Readings))
    (lifecycleSnapshots : List (CredentialLifecycleSnapshot × Readings)) : StartupEvidence where
  lifecycleSnapshotAuthority := store.hasLifecycleSnapshotAuthority
  persistedEvents := persistedEvents
  loadLifecycleSnapshots := fun _ => .ok lifecycleSnapshots

/-! ## §2. What an operator has released. -/

def CredentialCommandKind.Releases : CredentialCommandKind → Prop
  | restore | enable => True
  | _ => False

/-- A restore or an enable is accepted: its last check passes, and its operation is run on the
pool.  One that fails before that, or that finds nothing to do, releases nothing. -/
def ReleaseAccepted (w : LifecycleWorld) (event : ReloadEvent) (key : CredentialKey) : Prop :=
  ∃ (index : Nat) (inputs : CommandInputs) (inFlight : InFlightCommand)
      (set : RuntimeCredentialSet) (op : PoolOp),
    event = .lifecycle (.advance index inputs) ∧
    w.commands[index]? = some inFlight ∧
    inFlight.phase.credentialSetId = some key.1 ∧
    w.sets ⟨inFlight.runtime, key.1⟩ = some set ∧
    .applied op ∈ (inFlight.command.advance inputs (w.commandWorld set) inFlight.phase).2.2 ∧
    inFlight.command.kind.Releases ∧ inFlight.command.credentialId = key.2

/-- A step leaves a credential in an exclusion that it was not in. -/
def NewlyExcluded (before after : Option CredentialLifecycleState) : Prop :=
  ∃ l, after = some l ∧ l.Excluded ∧ before ≠ some l

namespace ReloadWorld

/-- The durable state in the current runtime. -/
def durable (s : ReloadWorld) (key : CredentialKey) : Option CredentialLifecycleState :=
  s.world.durableIn s.current key

/-- An accepted release counts until the credential is excluded anew. -/
def ReleasedAfter (s : ReloadWorld) (event : ReloadEvent) (s' : ReloadWorld)
    (key : CredentialKey) : Prop :=
  (s.released key ∨ ReleaseAccepted s.world event key) ∧
    ¬ NewlyExcluded (s.durable key) (s'.durable key)

/-! ## §3. One step. -/

/-- A turn of the loop over the channels. -/
def VisitChannel (s : ReloadWorld) (persistedEvents : List (DomainEvent × Readings))
    (lifecycleSnapshots : List (CredentialLifecycleSnapshot × Readings)) (fault : Option String)
    (clock : Instant) (s' : ReloadWorld) : Prop :=
  ∃ reload entry remaining runtime,
    s.reload = some reload ∧ reload.remaining = entry :: remaining ∧
    persistedEvents.map Prod.fst = reload.persistedEvents ∧
    (reload.runtime.credentialSetRuntimes[entry.2.credentialSetId]? = none →
      s.world.store.loadLifecycleSnapshots entry.2.credentialSetId fault =
        .ok (lifecycleSnapshots.map Prod.fst)) ∧
    ReadingsFrom s.world.clock
      (persistedEvents.map Prod.snd ++ lifecycleSnapshots.map Prod.snd) ∧
    s.world.clock ≤ clock ∧
    (∀ r ∈ persistedEvents.map Prod.snd ++ lifecycleSnapshots.map Prod.snd, r.third ≤ clock) ∧
    buildChannel (s.world.store.startupEvidence persistedEvents lifecycleSnapshots)
      reload.poolConfigs reload.runtime entry = .ok runtime ∧
    s'.world = { s.world with clock := clock } ∧ s'.current = s.current ∧
    s'.reload = some { reload with remaining := remaining, runtime := runtime }

def Step (s : ReloadWorld) (event : ReloadEvent) (s' : ReloadWorld) : Prop :=
  (match event with
    | .lifecycle event =>
        event.StartsIn s.current ∧ s.world.next event = some s'.world ∧
        s'.current = s.current ∧ s'.reload = s.reload
    | .readEvents config poolConfigs hasLogPath =>
        s.reload = none ∧ poolConfigs.Perm config.pools ∧
        (∀ entry ∈ poolConfigs,
          ((KeyPool.ofConfig entry.2.keyPool).credentials.map (·.id)).Nodup) ∧
        s'.world = s.world ∧ s'.current = s.current ∧
        s'.reload = some ⟨poolConfigs,
          if hasLogPath then s.world.events.recorded.filterMap (·.toDomainEvent) else [],
          poolConfigs, ⟨∅, ∅⟩⟩
    | .visitChannel persistedEvents lifecycleSnapshots fault clock =>
        s.VisitChannel persistedEvents lifecycleSnapshots fault clock s'
    | .abandon => s'.world = s.world ∧ s'.current = s.current ∧ s'.reload = none
    | .replaceRuntime => ∃ reload, s.reload = some reload ∧ reload.remaining = [] ∧
        s'.world = s.world.withRuntime (s.current + 1) reload.runtime ∧
        s'.current = s.current + 1 ∧ s'.reload = none) ∧
  s'.released = s.ReleasedAfter event s'

end ReloadWorld

/-- Runs from a quiet moment of the first runtime. -/
def reloadSystem : TransitionSystem ReloadWorld ReloadEvent where
  Init s := lifecycleSystem.Init s.world ∧ s.world.store.Consistent ∧
    (∀ setId, (s.world.store.credentialIds setId).Nodup) ∧
    s.current = 0 ∧ s.reload = none ∧ ∀ key, ¬ s.released key
  Step s event s' := s.Step event s'

/-! ## §4. What a new pool runs. -/

/-- The operation that the replay of an event runs, if its channel is one of some channels. -/
def replayOpOf (channelIds : List String) (event : DomainEvent × Readings) :
    Option (PoolOp × Readings) :=
  event.1.poolOp.bind fun op =>
    if eventAppliesToCredentialSet channelIds op.1 then some (op.2, event.2) else none

def replayOps (channelIds : List String) (persistedEvents : List (DomainEvent × Readings)) :
    List (PoolOp × Readings) :=
  persistedEvents.filterMap (replayOpOf channelIds)

/-- An operation is replayed with the event's channel and clock readings. -/
theorem replayOpOf_some {channelIds : List String} {event : DomainEvent × Readings}
    {entry : PoolOp × Readings} (h : replayOpOf channelIds event = some entry) :
    entry.2 = event.2 ∧ ∃ channelId, event.1.poolOp = some (channelId, entry.1) := by
  obtain ⟨op, hop, happlies⟩ := Option.bind_eq_some_iff.mp h
  by_cases hchannel : eventAppliesToCredentialSet channelIds op.1 = true
  · rw [if_pos hchannel] at happlies
    cases happlies
    exact ⟨rfl, op.1, hop⟩
  · rw [if_neg hchannel] at happlies
    cases happlies

/-- One turn of the replay. -/
theorem applyPersistedEvent_eq (channelIds : List String) (pool : KeyPool)
    (event : DomainEvent × Readings) :
    applyPersistedEvent channelIds pool event =
      match replayOpOf channelIds event with
      | some entry => (entry.1.exec entry.2 pool).1
      | none => pool := by
  unfold applyPersistedEvent replayOpOf
  cases event.1.poolOp with
  | none => rfl
  | some op =>
      show (if eventAppliesToCredentialSet channelIds op.1 = true then _ else _) =
        match (if eventAppliesToCredentialSet channelIds op.1 = true then some (op.2, event.2)
          else none) with
        | some entry => (entry.1.exec entry.2 pool).1
        | none => pool
      by_cases hchannel : eventAppliesToCredentialSet channelIds op.1 = true
      · rw [if_pos hchannel, if_pos hchannel]
      · rw [if_neg hchannel, if_neg hchannel]

theorem applyPersistedEvents_eq_replayOps (channelIds : List String) (pool : KeyPool)
    (persistedEvents : List (DomainEvent × Readings)) :
    applyPersistedEvents channelIds pool persistedEvents =
      pool.execAll (replayOps channelIds persistedEvents) := by
  induction persistedEvents generalizing pool with
  | nil => rfl
  | cons event persistedEvents ih =>
      show applyPersistedEvents channelIds (applyPersistedEvent channelIds pool event) _ = _
      rw [ih, applyPersistedEvent_eq]
      unfold replayOps
      cases hop : replayOpOf channelIds event with
      | none => rw [List.filterMap_cons_none hop]
      | some entry =>
          rw [List.filterMap_cons_some hop]
          rfl

theorem DomainEvent.poolOp_isDurable {event : DomainEvent} {channelId : ChannelId} {op : PoolOp}
    (h : event.poolOp = some (channelId, op)) : op.IsDurable := by
  cases event <;> cases h <;> exact ⟨trivial, fun h => h⟩

theorem replayOps_isDurable (channelIds : List String)
    (persistedEvents : List (DomainEvent × Readings)) :
    ∀ entry ∈ replayOps channelIds persistedEvents, entry.1.IsDurable := by
  intro entry he
  obtain ⟨event, -, hop⟩ := List.mem_filterMap.mp he
  obtain ⟨-, channelId, hchannel⟩ := replayOpOf_some hop
  exact DomainEvent.poolOp_isDurable hchannel

/-- Snapshots that are restored run their operations. -/
theorem applyLifecycleSnapshots_eq {pool restored : KeyPool}
    {entries : List (CredentialLifecycleSnapshot × Readings)}
    (h : applyLifecycleSnapshots pool entries = .ok restored) :
    restored = pool.execAll (entries.map fun entry => (entry.1.poolOp, entry.2)) := by
  induction entries generalizing pool with
  | nil =>
      cases h
      rfl
  | cons entry entries ih =>
      have hsplit : (applyLifecycleSnapshot pool entry >>= fun p =>
          applyLifecycleSnapshots p entries) = .ok restored := h
      unfold applyLifecycleSnapshot at hsplit
      by_cases hfound : ((entry.1.poolOp.exec entry.2 pool).1.indexForId
          entry.1.credentialId).isSome = true
      · dsimp only at hsplit
        rw [if_pos hfound] at hsplit
        exact ih hsplit
      · dsimp only at hsplit
        rw [if_neg hfound] at hsplit
        cases hsplit

/-- The operations of a new pool: the replayed ones, and then the restored ones. -/
def startupOps (channelIds : List String) (persistedEvents : List (DomainEvent × Readings))
    (lifecycleSnapshots : List (CredentialLifecycleSnapshot × Readings)) :
    List (PoolOp × Readings) :=
  replayOps channelIds persistedEvents ++
    lifecycleSnapshots.map fun entry => (entry.1.poolOp, entry.2)

theorem fromConfig_execAll {config : ResolvedPoolConfig} {channelIds : List String}
    {persistedEvents : List (DomainEvent × Readings)}
    {lifecycleSnapshots : List (CredentialLifecycleSnapshot × Readings)} {pool : KeyPool}
    (h : RuntimeCredentialSet.fromConfig config channelIds persistedEvents lifecycleSnapshots =
      .ok pool) :
    ∃ fresh, KeyPool.new config.keyPool = .ok fresh ∧
      pool = fresh.execAll (startupOps channelIds persistedEvents lifecycleSnapshots) := by
  unfold RuntimeCredentialSet.fromConfig at h
  cases hfresh : KeyPool.new config.keyPool with
  | error failure =>
      rw [hfresh] at h
      cases h
  | ok fresh =>
      rw [hfresh] at h
      refine ⟨fresh, rfl, ?_⟩
      rw [applyLifecycleSnapshots_eq h, applyPersistedEvents_eq_replayOps]
      unfold startupOps KeyPool.execAll
      rw [List.foldl_append]

theorem startupOps_isDurable (channelIds : List String)
    (persistedEvents : List (DomainEvent × Readings))
    (lifecycleSnapshots : List (CredentialLifecycleSnapshot × Readings)) :
    ∀ entry ∈ startupOps channelIds persistedEvents lifecycleSnapshots, entry.1.IsDurable := by
  intro entry he
  rcases List.mem_append.mp he with hreplayed | hrestored
  · exact replayOps_isDurable channelIds persistedEvents entry hreplayed
  · obtain ⟨row, -, rfl⟩ := List.mem_map.mp hrestored
    exact row.1.poolOp_isDurable

/-! ## §5. The clock of a new pool. -/

/-- Readings that are left out leave the others in order. -/
theorem ReadingsFrom.sublist {rs rs' : List Readings} (h : rs.Sublist rs') :
    ∀ {t : Instant}, ReadingsFrom t rs' → ReadingsFrom t rs := by
  induction h with
  | slnil =>
      intro t _
      trivial
  | cons r _ ih =>
      intro t hclock
      exact ih (hclock.2.mono (Nat.le_trans hclock.1 r.first_le_third))
  | cons_cons r _ ih =>
      intro t hclock
      exact ⟨hclock.1, ih hclock.2⟩

theorem replayOps_readings_sublist (channelIds : List String)
    (persistedEvents : List (DomainEvent × Readings)) :
    ((replayOps channelIds persistedEvents).map Prod.snd).Sublist
      (persistedEvents.map Prod.snd) := by
  induction persistedEvents with
  | nil => exact .slnil
  | cons event persistedEvents ih =>
      unfold replayOps
      cases hop : replayOpOf channelIds event with
      | none =>
          rw [List.filterMap_cons_none hop]
          exact ih.cons _
      | some entry =>
          rw [List.filterMap_cons_some hop]
          show (entry.2 :: _).Sublist (event.2 :: _)
          rw [(replayOpOf_some hop).1]
          exact ih.cons_cons _

theorem startupOps_readings_sublist (channelIds : List String)
    (persistedEvents : List (DomainEvent × Readings))
    (lifecycleSnapshots : List (CredentialLifecycleSnapshot × Readings)) :
    ((startupOps channelIds persistedEvents lifecycleSnapshots).map Prod.snd).Sublist
      (persistedEvents.map Prod.snd ++ lifecycleSnapshots.map Prod.snd) := by
  unfold startupOps
  rw [List.map_append, List.map_map]
  exact (replayOps_readings_sublist channelIds persistedEvents).append (.refl _)

/-- A pool is well formed at a clock value after all operations of a history. -/
theorem WellFormed.execAll {t t' : Instant} {pool : KeyPool} (h : WellFormed t pool)
    (ht : t ≤ t') {history : List (PoolOp × Readings)}
    (hclock : ReadingsFrom t (history.map Prod.snd))
    (hlast : ∀ r ∈ history.map Prod.snd, r.third ≤ t') : WellFormed t' (pool.execAll history) := by
  induction history generalizing t pool with
  | nil => exact h.mono ht
  | cons entry history ih =>
      exact ih (entry.1.exec_wellFormed h hclock.1) (hlast _ List.mem_cons_self) hclock.2
        (fun r hr => hlast r (List.mem_cons_of_mem _ hr))

/-! ## §6. What the rows restore. -/

/-- The rows that a load returns restore the stored states. -/
theorem rowState_restored {store : CredentialStore} (hconsistent : store.Consistent)
    (hsqlite : store.sqlite = true) {setId : CredentialSetId}
    (hdistinct : (store.credentialIds setId).Nodup)
    {rows : List CredentialLifecycleSnapshot} {fault : Option String}
    (hload : store.loadLifecycleSnapshots setId fault = .ok rows) (id : CredentialId) :
    lifecycleAfter id .available (rows.map CredentialLifecycleSnapshot.poolOp) =
      store.rowState setId id := by
  have hnone : fault = none := by
    cases fault with
    | none => rfl
    | some message =>
        unfold CredentialStore.loadLifecycleSnapshots at hload
        rw [hsqlite] at hload
        cases hload
  rw [hnone, CredentialStore.loadLifecycleSnapshots_ok hconsistent hsqlite] at hload
  have hrows : rows = rowsFor
      (fun id => store.lifecycleStates.find? (CredentialStore.isRowOf setId id))
      (store.credentialIds setId) := (Except.ok.inj hload).symm
  rw [hrows, CredentialStore.rowState_eq_getD]
  by_cases hid : id ∈ store.credentialIds setId
  · exact lifecycleAfter_rows CredentialStore.credentialId_of_find hid hdistinct
  · rw [lifecycleAfter_rows_of_notMem CredentialStore.credentialId_of_find hid]
    -- a row would be about a credential of the set
    have hmissing : store.lifecycleStates.find? (CredentialStore.isRowOf setId id) = none := by
      rw [List.find?_eq_none]
      intro row hrow hmatch
      obtain ⟨hset, hrowId⟩ := CredentialStore.isRowOf_iff.mp hmatch
      have hmem := hconsistent.mem_credentialIds hrow
      rw [hset, hrowId] at hmem
      exact hid hmem
    rw [hmissing]
    rfl

end OneAiKey
