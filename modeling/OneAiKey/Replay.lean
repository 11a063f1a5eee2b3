/-
  OneAiKey.Replay — what a restart makes of the recorded events and of the stored
  durable states (`apply_persisted_events` and `apply_lifecycle_snapshots` of
  `src/state.rs`).

  A command and the replay of its event run the same pool operation, the replay
  with the event's code for a reason.  The replay passes over an event whose
  channel does not reference the credential set any more.

  Main results:
    * `replay_faithful` — the replay leaves every credential in the durable kind
      that the commands of the referencing channels have left, and a stored state
      restores itself, reason included;
    * `removed_channel_forgotten` — a command through a channel that was removed
      since is not replayed.
-/
import OneAiKey.Pool.Durable

namespace OneAiKey

/-! ## §1. A command and its event. -/

theorem CredentialCommand.applyTo_fst (command : CredentialCommand) (r : Readings) (pool : KeyPool) :
    (command.applyTo r pool).1 =
      ((command.kind.poolOp command.credentialId command.reason).exec r pool).1 := by
  unfold CredentialCommand.applyTo
  cases command.kind <;> rfl

namespace CredentialCommandKind

theorem poolOp_isDurable (kind : CredentialCommandKind) (id : CredentialId)
    (reason : String) : (kind.poolOp id reason).IsDurable := by
  cases kind <;> exact ⟨trivial, fun h => h⟩

/-- The reason of a command has no part in its durable kind. -/
theorem poolOp_sameKindEffect (kind : CredentialCommandKind) (id : CredentialId)
    (reason reason' : String) :
    (kind.poolOp id reason).SameKindEffect (kind.poolOp id reason') := by
  intro id' l l' hl
  by_cases hid : id = id'
  · cases kind <;> cases l <;> cases l' <;>
      simp_all [poolOp, PoolOp.lifecycleEffect, CredentialLifecycleState.kind]
  · cases kind <;> cases l <;> cases l' <;>
      simp_all [poolOp, PoolOp.lifecycleEffect, CredentialLifecycleState.kind]

end CredentialCommandKind

/-- The operation that replays the event of a command. -/
def replayOp (command : CredentialCommand) : PoolOp :=
  command.kind.poolOp command.credentialId (managementEventReasonCode command.kind.eventKind)

/-- The event of a command replays as its operation, with the code for the reason. -/
theorem replay_of_command (command : CredentialCommand) (channelId : String)
    (eventId createdAtUnixSeconds : Nat) :
    ((command.audit channelId).toEvent eventId createdAtUnixSeconds).toDomainEvent.bind
      DomainEvent.poolOp = some (channelId, replayOp command) := by
  obtain ⟨kind, actor, scope, credentialId, reason, reasonClass⟩ := command
  cases kind <;> rfl

/-! ## §2. Live and replayed. -/

/-- A command as it was applied and recorded, and the clock readings of its replay. -/
structure RecordedCommand where
  command : CredentialCommand
  channelId : ChannelId
  readings : Readings
  eventId : Nat
  createdAtUnixSeconds : Nat
  replayReadings : Readings

namespace RecordedCommand

def event (recorded : RecordedCommand) : ManagementEvent :=
  (recorded.command.audit recorded.channelId).toEvent recorded.eventId
    recorded.createdAtUnixSeconds

def op (recorded : RecordedCommand) : PoolOp :=
  recorded.command.kind.poolOp recorded.command.credentialId recorded.command.reason

end RecordedCommand

/-- The live pool after the commands of a history. -/
def applyRecorded (pool : KeyPool) (history : List RecordedCommand) : KeyPool :=
  history.foldl (fun pool recorded => (recorded.command.applyTo recorded.readings pool).1) pool

/-- The events of a log that a replay looks at, with the clock readings of the replay. -/
def domainEvents (log : List (ManagementEvent × Readings)) : List (DomainEvent × Readings) :=
  log.filterMap fun entry => entry.1.toDomainEvent.map fun event => (event, entry.2)

/-- The log of a history. -/
def recordedLog (history : List RecordedCommand) : List (ManagementEvent × Readings) :=
  history.map fun recorded => (recorded.event, recorded.replayReadings)

/-- The commands of a history that were recorded through one of some channels. -/
def through (channelIds : List String) (history : List RecordedCommand) :
    List RecordedCommand :=
  history.filter fun recorded => eventAppliesToCredentialSet channelIds recorded.channelId

theorem applyRecorded_eq_execAll (pool : KeyPool) (history : List RecordedCommand) :
    applyRecorded pool history =
      pool.execAll (history.map fun recorded => (recorded.op, recorded.readings)) := by
  induction history generalizing pool with
  | nil => rfl
  | cons recorded history ih =>
      show applyRecorded (recorded.command.applyTo recorded.readings pool).1 history = _
      rw [ih, CredentialCommand.applyTo_fst]
      rfl

/-- A replay runs the operations of the events whose channel references the set. -/
theorem applyPersistedEvents_eq_execAll (channelIds : List String) (pool : KeyPool)
    (history : List RecordedCommand) :
    applyPersistedEvents channelIds pool (domainEvents (recordedLog history)) =
      pool.execAll ((through channelIds history).map fun recorded =>
        (replayOp recorded.command, recorded.replayReadings)) := by
  induction history generalizing pool with
  | nil => rfl
  | cons recorded history ih =>
      have hreplay := replay_of_command recorded.command recorded.channelId recorded.eventId
        recorded.createdAtUnixSeconds
      obtain ⟨event, hevent, hop⟩ := Option.bind_eq_some_iff.mp hreplay
      have hdomain : domainEvents (recordedLog (recorded :: history)) =
          (event, recorded.replayReadings) :: domainEvents (recordedLog history) := by
        apply List.filterMap_cons_some
        show recorded.event.toDomainEvent.map _ = _
        rw [show recorded.event.toDomainEvent = some event from hevent]
        rfl
      rw [hdomain]
      show applyPersistedEvents channelIds
        (applyPersistedEvent channelIds pool (event, recorded.replayReadings)) _ = _
      rw [ih]
      unfold applyPersistedEvent
      rw [hop]
      show KeyPool.execAll (if eventAppliesToCredentialSet channelIds recorded.channelId then _
        else _) _ = _
      -- an event of a channel that does not reference the set is passed over
      by_cases happlies : eventAppliesToCredentialSet channelIds recorded.channelId = true
      · rw [if_pos happlies]
        unfold through
        rw [List.filter_cons, if_pos happlies]
        rfl
      · rw [if_neg happlies]
        unfold through
        rw [List.filter_cons, if_neg happlies]

theorem ReadingsFrom.mono {t t' : Instant} (ht : t' ≤ t) {rs : List Readings}
    (h : ReadingsFrom t rs) : ReadingsFrom t' rs := by
  cases rs with
  | nil => trivial
  | cons r rs => exact ⟨Nat.le_trans ht h.1, h.2⟩

/-- Readings that are left out leave the others in order. -/
theorem ReadingsFrom.filter {α : Type} (f : α → Readings) (q : α → Bool) {l : List α} :
    ∀ {t : Instant}, ReadingsFrom t (l.map f) → ReadingsFrom t ((l.filter q).map f) := by
  induction l with
  | nil =>
      intro t h
      exact h
  | cons a l ih =>
      intro t h
      by_cases hq : q a = true
      · rw [List.filter_cons, if_pos hq]
        exact ⟨h.1, ih h.2⟩
      · rw [List.filter_cons, if_neg hq]
        exact ih (h.2.mono (Nat.le_trans h.1 (f a).first_le_third))

theorem forall₂_sameKindEffect (history : List RecordedCommand) :
    List.Forall₂ PoolOp.SameKindEffect
      (history.map fun recorded => replayOp recorded.command)
      (history.map fun recorded => recorded.op) := by
  induction history with
  | nil => exact .nil
  | cons recorded history ih =>
      exact .cons (recorded.command.kind.poolOp_sameKindEffect _ _ _) ih

/-- The replay of a history leaves the kinds that the commands through the referencing
channels have left. -/
theorem sameKinds_applyPersistedEvents {t t' : Instant} {pool fresh : KeyPool}
    (hpool : WellFormed t pool) (hfresh : WellFormed t' fresh) (hsame : fresh.SameKinds pool)
    (channelIds : List String) {history : List RecordedCommand}
    (hclock : ReadingsFrom t (history.map (·.readings)))
    (hreplay : ReadingsFrom t' (history.map (·.replayReadings))) :
    (applyPersistedEvents channelIds fresh (domainEvents (recordedLog history))).SameKinds
      (applyRecorded pool (through channelIds history)) := by
  rw [applyPersistedEvents_eq_execAll, applyRecorded_eq_execAll]
  apply hsame.execAll hfresh hpool
  · intro entry he
    obtain ⟨recorded, -, rfl⟩ := List.mem_map.mp he
    exact recorded.command.kind.poolOp_isDurable _ _
  · intro entry he
    obtain ⟨recorded, -, rfl⟩ := List.mem_map.mp he
    exact recorded.command.kind.poolOp_isDurable _ _
  · rw [List.map_map]
    exact hreplay.filter _ _
  · rw [List.map_map]
    exact hclock.filter _ _
  · rw [List.map_map, List.map_map]
    exact forall₂_sameKindEffect _

/-! ## §3. Stored states. -/

/-- The rows a load finds, one look for each id. -/
def rowsFor (find : CredentialId → Option CredentialLifecycleSnapshot)
    (ids : List CredentialId) : List CredentialLifecycleSnapshot :=
  ids.filterMap find

/-- Restoring the rows of some ids leaves every other id as it was. -/
theorem lifecycleAfter_rows_of_notMem {find : CredentialId → Option CredentialLifecycleSnapshot}
    (hfind : ∀ id row, find id = some row → row.credentialId = id) {id : CredentialId}
    {ids : List CredentialId} (hid : id ∉ ids) (l : CredentialLifecycleState) :
    lifecycleAfter id l ((rowsFor find ids).map CredentialLifecycleSnapshot.poolOp) = l := by
  induction ids generalizing l with
  | nil => rfl
  | cons id' ids ih =>
      rw [List.mem_cons, not_or] at hid
      cases hrow : find id' with
      | none =>
          rw [rowsFor, List.filterMap_cons_none hrow]
          exact ih hid.2 l
      | some row =>
          rw [rowsFor, List.filterMap_cons_some hrow]
          have hne : row.credentialId ≠ id := by
            rw [hfind id' row hrow]
            exact fun h => hid.1 h.symm
          show lifecycleAfter id (row.poolOp.lifecycleEffect id l) _ = l
          -- the row is about another credential
          have hsame : row.poolOp.lifecycleEffect id l = l := by
            unfold CredentialLifecycleSnapshot.poolOp
            cases row.state <;> cases l <;> simp [PoolOp.lifecycleEffect, hne]
          rw [hsame]
          exact ih hid.2 l

/-- Restoring the rows of an available credential gives it the state of its row. -/
theorem lifecycleAfter_rows {find : CredentialId → Option CredentialLifecycleSnapshot}
    (hfind : ∀ id row, find id = some row → row.credentialId = id) {id : CredentialId}
    {ids : List CredentialId} (hid : id ∈ ids) (hdistinct : ids.Nodup) :
    lifecycleAfter id .available ((rowsFor find ids).map CredentialLifecycleSnapshot.poolOp) =
      ((find id).map (·.state)).getD .available := by
  induction ids with
  | nil => cases hid
  | cons id' ids ih =>
      obtain ⟨hnotMem, hdistinct⟩ := List.nodup_cons.mp hdistinct
      rcases List.mem_cons.mp hid with rfl | hmem
      · cases hrow : find id with
        | none =>
            -- no row of its own, and the rows behind are of other credentials
            rw [rowsFor, List.filterMap_cons_none hrow]
            exact lifecycleAfter_rows_of_notMem hfind hnotMem _
        | some row =>
            rw [rowsFor, List.filterMap_cons_some hrow]
            have hrowId := hfind id row hrow
            show lifecycleAfter id (row.poolOp.lifecycleEffect id .available) _ = row.state
            have hrestored : row.poolOp.lifecycleEffect id .available = row.state := by
              unfold CredentialLifecycleSnapshot.poolOp
              cases row.state <;> simp [PoolOp.lifecycleEffect, hrowId]
            rw [hrestored]
            exact lifecycleAfter_rows_of_notMem hfind hnotMem _
      · have hne : id' ≠ id := by
          intro h
          exact hnotMem (h ▸ hmem)
        cases hrow : find id' with
        | none =>
            rw [rowsFor, List.filterMap_cons_none hrow]
            exact ih hmem hdistinct
        | some row =>
            rw [rowsFor, List.filterMap_cons_some hrow]
            have hrowId : row.credentialId ≠ id := by
              rw [hfind id' row hrow]
              exact hne
            show lifecycleAfter id (row.poolOp.lifecycleEffect id .available) _ = _
            have hsame : row.poolOp.lifecycleEffect id .available = .available := by
              unfold CredentialLifecycleSnapshot.poolOp
              cases row.state <;> simp [PoolOp.lifecycleEffect, hrowId]
            rw [hsame]
            exact ih hmem hdistinct

theorem KeyPool.lifecycleOf_ne_none_iff {t : Instant} {p : KeyPool} (h : WellFormed t p)
    {id : CredentialId} : p.lifecycleOf id ≠ none ↔ id ∈ p.credentials.map (·.id) := by
  unfold KeyPool.lifecycleOf
  rw [Ne, Option.map_eq_none_iff, ← Ne, Option.ne_none_iff_exists']
  constructor
  · intro hs
    obtain ⟨s, hs⟩ := hs
    obtain ⟨i, c, hc, hid, -⟩ := h.stateOf_eq_some_iff.mp hs
    exact List.mem_map.mpr ⟨c, List.mem_of_getElem? hc, hid⟩
  · intro hmem
    obtain ⟨c, hmem, hid⟩ := List.mem_map.mp hmem
    obtain ⟨i, hc⟩ := List.getElem?_of_mem hmem
    exact ⟨c.state, h.stateOf_eq_some_iff.mpr ⟨i, c, hc, hid, rfl⟩⟩

theorem KeyPool.indexForId_isSome {p : KeyPool} {id : CredentialId}
    (hid : p.lifecycleOf id ≠ none) : (p.indexForId id).isSome = true := by
  unfold KeyPool.lifecycleOf KeyPool.stateOf at hid
  cases hindex : p.indexForId id with
  | none =>
      rw [hindex] at hid
      exact absurd rfl hid
  | some i => rfl

theorem CredentialLifecycleSnapshot.poolOp_isDurable (row : CredentialLifecycleSnapshot) :
    row.poolOp.IsDurable := by
  unfold CredentialLifecycleSnapshot.poolOp
  cases row.state <;> exact ⟨trivial, fun h => h⟩

/-- Snapshots of credentials that the pool has are all restored. -/
theorem applyLifecycleSnapshots_ok {t : Instant} {pool : KeyPool} (h : WellFormed t pool)
    {entries : List (CredentialLifecycleSnapshot × Readings)}
    (hknown : ∀ entry ∈ entries, pool.lifecycleOf entry.1.credentialId ≠ none)
    (hclock : ReadingsFrom t (entries.map Prod.snd)) :
    applyLifecycleSnapshots pool entries =
      .ok (pool.execAll (entries.map fun entry => (entry.1.poolOp, entry.2))) := by
  induction entries generalizing t pool with
  | nil => rfl
  | cons entry entries ih =>
      obtain ⟨ht, hrest⟩ := hclock
      have h' := entry.1.poolOp.exec_wellFormed h ht
      -- the operation keeps every id in the pool
      have hkept : ∀ id, pool.lifecycleOf id ≠ none →
          (entry.1.poolOp.exec entry.2 pool).1.lifecycleOf id ≠ none := by
        intro id hid
        rw [h.lifecycleOf_exec entry.1.poolOp_isDurable ht id]
        intro hnone
        exact hid (Option.map_eq_none_iff.mp hnone)
      have hfound := KeyPool.indexForId_isSome (hkept _ (hknown entry List.mem_cons_self))
      have hone : applyLifecycleSnapshot pool entry =
          .ok (entry.1.poolOp.exec entry.2 pool).1 := by
        unfold applyLifecycleSnapshot
        exact if_pos hfound
      show (applyLifecycleSnapshot pool entry >>= fun p => applyLifecycleSnapshots p entries) = _
      rw [hone]
      exact ih h' (fun e he => hkept _ (hknown e (List.mem_cons_of_mem _ he))) hrest

/-- A new pool that the rows of a store are restored into holds the rows' states. -/
theorem lifecycleOf_restored {t : Instant} {fresh : KeyPool} (h : WellFormed t fresh)
    (havailable : ∀ id l, fresh.lifecycleOf id = some l → l = .available)
    {store : CredentialStore} (hconsistent : store.Consistent) (hsqlite : store.sqlite = true)
    {setId : CredentialSetId} (hdistinct : (store.credentialIds setId).Nodup)
    (hids : ∀ id, id ∈ store.credentialIds setId ↔ fresh.lifecycleOf id ≠ none)
    {entries : List (CredentialLifecycleSnapshot × Readings)}
    (hload : store.loadLifecycleSnapshots setId none = .ok (entries.map Prod.fst))
    (hclock : ReadingsFrom t (entries.map Prod.snd)) :
    ∃ restored, applyLifecycleSnapshots fresh entries = .ok restored ∧
      (∃ t', WellFormed t' restored) ∧
      ∀ id, restored.lifecycleOf id =
        (fresh.lifecycleOf id).map fun _ => store.rowState setId id := by
  rw [CredentialStore.loadLifecycleSnapshots_ok hconsistent hsqlite] at hload
  have hrows : entries.map Prod.fst = rowsFor
      (fun id => store.lifecycleStates.find? (CredentialStore.isRowOf setId id))
      (store.credentialIds setId) := (Except.ok.inj hload).symm
  -- only rows of the set are read, and their credentials are in the pool
  have hknown : ∀ entry ∈ entries, fresh.lifecycleOf entry.1.credentialId ≠ none := by
    intro entry he
    have hmem : entry.1 ∈ entries.map Prod.fst := List.mem_map_of_mem he
    rw [hrows] at hmem
    obtain ⟨id, hid, hrow⟩ := List.mem_filterMap.mp hmem
    rw [CredentialStore.credentialId_of_find id _ hrow]
    exact (hids id).mp hid
  have hclock' : ReadingsFrom t
      ((entries.map fun entry => (entry.1.poolOp, entry.2)).map Prod.snd) := by
    rw [List.map_map]
    exact hclock
  have hops : ∀ entry ∈ entries.map (fun entry => (entry.1.poolOp, entry.2)),
      entry.1.IsDurable := by
    intro entry he
    obtain ⟨row, -, rfl⟩ := List.mem_map.mp he
    exact row.1.poolOp_isDurable
  -- so the restored pool is the fresh one after the operations of the rows
  obtain ⟨hwf, hlifecycle⟩ := lifecycleOf_execAll h hops hclock'
  refine ⟨_, applyLifecycleSnapshots_ok h hknown hclock, hwf, ?_⟩
  intro id
  rw [hlifecycle id]
  cases hl : fresh.lifecycleOf id with
  | none => rfl
  | some l =>
      obtain rfl := havailable id l hl
      have hid : id ∈ store.credentialIds setId := (hids id).mpr (by rw [hl]; simp)
      have hops' : (entries.map fun entry => (entry.1.poolOp, entry.2)).map Prod.fst =
          (entries.map Prod.fst).map CredentialLifecycleSnapshot.poolOp := by
        rw [List.map_map, List.map_map]
        rfl
      show some (lifecycleAfter id .available _) = some _
      rw [hops', hrows, lifecycleAfter_rows CredentialStore.credentialId_of_find hid hdistinct,
        CredentialStore.rowState_eq_getD]

/-! ## §4. A restart. -/

/-- A new pool has its credentials available. -/
theorem KeyPool.lifecycleOf_new {config : KeyPoolConfig} {fresh : KeyPool}
    (hfresh : KeyPool.new config = .ok fresh) (hdistinct : (fresh.credentials.map (·.id)).Nodup) :
    WellFormed 0 fresh ∧ (∀ id l, fresh.lifecycleOf id = some l → l = .available) := by
  have hwf : WellFormed 0 fresh :=
    poolSystem_init_wellFormed ⟨fresh, 0⟩ ⟨config, hfresh, hdistinct⟩
  refine ⟨hwf, ?_⟩
  intro id l hl
  obtain ⟨state, hstate, rfl⟩ := Option.map_eq_some_iff.mp hl
  obtain ⟨i, c, hc, -, rfl⟩ := hwf.stateOf_eq_some_iff.mp hstate
  obtain ⟨-, rfl⟩ := KeyPool.new_ok hfresh
  rw [WellFormed.state_credentialsOf (List.mem_of_getElem? hc)]
  rfl

theorem sameKinds_new {config config' : KeyPoolConfig} {pool fresh : KeyPool}
    (hpool : KeyPool.new config = .ok pool) (hdistinct : (pool.credentials.map (·.id)).Nodup)
    (hfresh : KeyPool.new config' = .ok fresh)
    (hdistinct' : (fresh.credentials.map (·.id)).Nodup)
    (hids : ∀ id, id ∈ fresh.credentials.map (·.id) ↔ id ∈ pool.credentials.map (·.id)) :
    fresh.SameKinds pool := by
  obtain ⟨hwf, havailable⟩ := KeyPool.lifecycleOf_new hpool hdistinct
  obtain ⟨hwf', havailable'⟩ := KeyPool.lifecycleOf_new hfresh hdistinct'
  intro id
  have hboth := hids id
  rw [← KeyPool.lifecycleOf_ne_none_iff hwf, ← KeyPool.lifecycleOf_ne_none_iff hwf'] at hboth
  cases hl : fresh.lifecycleOf id with
  | none =>
      cases hl' : pool.lifecycleOf id with
      | none => rfl
      | some l' =>
          rw [hl, hl'] at hboth
          simp at hboth
  | some l =>
      cases hl' : pool.lifecycleOf id with
      | none =>
          rw [hl, hl'] at hboth
          simp at hboth
      | some l' => rw [havailable' id l hl, havailable id l' hl']

/-- A restart with the same credentials, for a set that the channels `channelIds` reference.
Where the event log decides, the new pool has the durable kinds that the commands of the
referencing channels have left, and so those of all commands if no channel has gone.  Where
the store decides, it has the durable states that were stored. -/
theorem replay_faithful {config : KeyPoolConfig} {config' : ResolvedPoolConfig}
    {pool fresh : KeyPool} (hpool : KeyPool.new config = .ok pool)
    (hfresh : KeyPool.new config'.keyPool = .ok fresh)
    (hdistinct : (pool.credentials.map (·.id)).Nodup)
    (hdistinct' : (fresh.credentials.map (·.id)).Nodup)
    (hids : ∀ id, id ∈ fresh.credentials.map (·.id) ↔ id ∈ pool.credentials.map (·.id))
    (channelIds : List String) :
    (∀ history, ReadingsFrom 0 (history.map RecordedCommand.readings) →
      ReadingsFrom 0 (history.map RecordedCommand.replayReadings) →
      ∃ restored, RuntimeCredentialSet.fromConfig config' channelIds
          (credentialEventsForStartup false (domainEvents (recordedLog history))) [] =
            .ok restored ∧
        restored.SameKinds (applyRecorded pool (through channelIds history)) ∧
        ((∀ recorded ∈ history,
            eventAppliesToCredentialSet channelIds recorded.channelId = true) →
          restored.SameKinds (applyRecorded pool history))) ∧
    ∀ (live : KeyPool) (t : Instant) (store : CredentialStore) (setId : CredentialSetId)
      (log : List (DomainEvent × Readings))
      (entries : List (CredentialLifecycleSnapshot × Readings)),
      WellFormed t live →
      (∀ id, id ∈ live.credentials.map (·.id) ↔ id ∈ fresh.credentials.map (·.id)) →
      store.sqlite = true → store.Consistent → (store.credentialIds setId).Nodup →
      (∀ id, id ∈ store.credentialIds setId ↔ id ∈ fresh.credentials.map (·.id)) →
      (∀ id l, live.lifecycleOf id = some l → store.rowState setId id = l) →
      store.loadLifecycleSnapshots setId none = .ok (entries.map Prod.fst) →
      ReadingsFrom 0 (entries.map Prod.snd) →
      ∃ restored, RuntimeCredentialSet.fromConfig config' channelIds
          (credentialEventsForStartup true log) entries = .ok restored ∧
        ∀ id, restored.lifecycleOf id = live.lifecycleOf id := by
  obtain ⟨hwf, havailable⟩ := KeyPool.lifecycleOf_new hfresh hdistinct'
  constructor
  · -- the event log decides: both pools run the commands of the channels that are left
    intro history hclock hreplay
    obtain ⟨hwfPool, -⟩ := KeyPool.lifecycleOf_new hpool hdistinct
    have hsame := sameKinds_applyPersistedEvents hwfPool hwf
      (sameKinds_new hpool hdistinct hfresh hdistinct' hids) channelIds hclock hreplay
    refine ⟨_, ?_, hsame, ?_⟩
    · unfold RuntimeCredentialSet.fromConfig
      rw [hfresh]
      rfl
    · intro hall
      have hthrough : through channelIds history = history :=
        List.filter_eq_self.mpr hall
      rw [hthrough] at hsame
      exact hsame
  · -- the store decides: the events are passed over, the rows restored
    intro live t store setId log entries hlive hliveIds hsqlite hconsistent hstoreDistinct
      hstoreIds hstored hload hclock
    have hids' : ∀ id, id ∈ store.credentialIds setId ↔ fresh.lifecycleOf id ≠ none := by
      intro id
      rw [KeyPool.lifecycleOf_ne_none_iff hwf]
      exact hstoreIds id
    obtain ⟨restored, hrestored, -, hlifecycle⟩ := lifecycleOf_restored hwf havailable
      hconsistent hsqlite hstoreDistinct hids' hload hclock
    refine ⟨restored, ?_, ?_⟩
    · unfold RuntimeCredentialSet.fromConfig
      rw [hfresh]
      exact hrestored
    · intro id
      rw [hlifecycle id]
      -- both pools have the credential or neither has
      have hboth : live.lifecycleOf id ≠ none ↔ fresh.lifecycleOf id ≠ none := by
        rw [KeyPool.lifecycleOf_ne_none_iff hlive, KeyPool.lifecycleOf_ne_none_iff hwf]
        exact hliveIds id
      cases hl : live.lifecycleOf id with
      | none =>
          have hnone : fresh.lifecycleOf id = none := by
            by_contra hsome
            exact hboth.mpr hsome hl
          rw [hnone]
          rfl
      | some l =>
          have hsome : fresh.lifecycleOf id ≠ none := hboth.mp (by rw [hl]; simp)
          obtain ⟨l', hl'⟩ := Option.ne_none_iff_exists'.mp hsome
          rw [hl', hstored id l hl]
          rfl

/-! ## §5. A set whose channel was removed. -/

/-- A set of one credential. -/
def sharedKeys : KeyPoolConfig := ⟨"shared", "shared", "https://a.example/v1", [⟨"k", .unknown⟩]⟩

def sharedPool : KeyPool := .ofConfig sharedKeys

def sharedCredentialId : CredentialId := "cred_" ++ shortHash "shared:k"

/-- Channel `a` of the later configuration. -/
def remainingChannel : ResolvedPoolConfig where
  configGeneration := 1
  providerId := "provider"
  accountId := "account"
  credentialSetId := "shared"
  providerKind := .openAiCompatible
  routingPolicy := ⟨false, 0, true, Duration.fromSecs 20⟩
  authHeader := "authorization"
  authPrefix := "Bearer "
  keyPool := sharedKeys

/-- The operator disables the credential through a channel. -/
def disabledThrough (channelId : ChannelId) : RecordedCommand where
  command := {
    kind := .disable
    actor := ⟨"operator", "operator", "admin"⟩
    scope := .channel channelId
    credentialId := sharedCredentialId
    reason := "pause"
    reasonClass := none }
  channelId := channelId
  readings := .at' 0
  eventId := 1
  createdAtUnixSeconds := 0
  replayReadings := .at' 0

/-- A command through a channel that still references the set is replayed, and a stored
state restores itself. -/
theorem replay_faithful_remaining :
    ∃ restored, RuntimeCredentialSet.fromConfig remainingChannel ["a"]
        (credentialEventsForStartup false (domainEvents (recordedLog [disabledThrough "a"]))) [] =
          .ok restored ∧
      restored.SameKinds (applyRecorded sharedPool [disabledThrough "a"]) := by
  have hnew : KeyPool.new sharedKeys = .ok sharedPool := rfl
  have hnew' : KeyPool.new remainingChannel.keyPool = .ok sharedPool := rfl
  have hdistinct : (sharedPool.credentials.map (·.id)).Nodup := by decide
  obtain ⟨restored, hrestored, -, hsame⟩ :=
    (replay_faithful hnew hnew' hdistinct hdistinct (fun _ => Iff.rfl) ["a"]).1
      [disabledThrough "a"] ⟨Nat.le_refl _, trivial⟩ ⟨Nat.le_refl _, trivial⟩
  refine ⟨restored, hrestored, hsame ?_⟩
  intro recorded hmem
  rw [List.mem_singleton.mp hmem]
  rfl

/-- A command through a channel that was removed since is not replayed.  A replay takes the
events of the channels that the credential set has now, and the credential, which is in the set
as before, is available again. -/
theorem removed_channel_forgotten :
    ∃ restored, KeyPool.new sharedKeys = .ok sharedPool ∧
      KeyPool.new remainingChannel.keyPool = .ok sharedPool ∧
      RuntimeCredentialSet.fromConfig remainingChannel ["a"]
        (credentialEventsForStartup false (domainEvents (recordedLog [disabledThrough "b"]))) [] =
          .ok restored ∧
      (applyRecorded sharedPool [disabledThrough "b"]).lifecycleOf sharedCredentialId =
        some (.disabled "pause") ∧
      restored.lifecycleOf sharedCredentialId = some .available ∧
      ¬ restored.SameKinds (applyRecorded sharedPool [disabledThrough "b"]) := by
  refine ⟨_, rfl, rfl, rfl, rfl, rfl, ?_⟩
  intro hsame
  cases hsame sharedCredentialId

end OneAiKey
