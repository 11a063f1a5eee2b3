/-
  OneAiKey.ManagementRuntime.Readiness — the health endpoints tell the truth.

  While a router runs, a reload replaces its registry and its catalogs, calls change
  the pools, and reports and commands change the healths of the channels and the
  failure domains.  An answer is computed between two such steps; one that falls
  between the two writes of a reload is not covered.

  The clock is read often: each pool remembers its last reading, and an answer may
  read it anew for each pool and each channel.

  Main results:
    * `RunningRouter.coheres` — in every reachable state the registry fits the
      catalogs and every pool is well formed;
    * `readiness_is_truthful` — the answer counts the channels that a request can be
      routed to and that hand out a key, and the credentials of every pool.
-/
import OneAiKey.ChannelHealth.Soft
import OneAiKey.ManagementRuntime
import OneAiKey.Rebuild.Disablement
import OneAiKey.Reload

namespace OneAiKey

open Std

variable {ρ τ : Type}

/-! ## §1. The system. -/

structure RunningRouter (ρ τ : Type) where
  app : AppState ρ τ
  /-- The last clock value that was read under the lock of a pool. -/
  lastRead : CredentialSetId → Instant

inductive RouterEvent where
  | reload (config : FullResolvedConfig) (activeRegistryVersion : Option Nat)
      (inputs : RebuildInputs)
  | failedReload (config : FullResolvedConfig) (activeRegistryVersion : Option Nat)
      (inputs : RebuildInputs)
  /-- Any operation on the pool of a set. -/
  | poolCall (credentialSetId : CredentialSetId) (op : PoolOp) (r : Readings)
  /-- Whatever a report, a success or a command makes of the health of a channel. -/
  | channelHealth (channelId : String) (health : ChannelHealth) (generation : Nat)
      (relaySuppressionCount : Nat)
  | failureDomains (failureDomains : FailureDomainRegistry)
  /-- What changes neither the registry nor the catalogs. -/
  | other

/-- The registry after an operation on one of its pools. -/
def ChannelRegistrySnapshot.setPool (channels : ChannelRegistrySnapshot)
    (credentialSetId : CredentialSetId) (pool : KeyPool) : ChannelRegistrySnapshot :=
  { channels with
    credentialSetRuntimes := channels.credentialSetRuntimes.insert credentialSetId pool }

/-- The clock while the pool of a set is built: what is replayed and what is restored reads it
in order, from some moment to the last reading. -/
def RebuildInputs.ReadBy (inputs : RebuildInputs) (persistedEvents : List DomainEvent)
    (credentialSetId : CredentialSetId) (lastRead : Instant) : Prop :=
  ∀ rows, inputs.loadLifecycleSnapshots credentialSetId = .ok rows →
    let readings := (inputs.credentialEvents persistedEvents credentialSetId).map Prod.snd ++
      rows.map Prod.snd
    ∃ start, start ≤ lastRead ∧ ReadingsFrom start readings ∧
      ∀ r ∈ readings, r.third ≤ lastRead

/-- A configuration is loaded; the keys of a set have distinct ids. -/
structure RunningRouter.Loads (s : RunningRouter ρ τ) (config : FullResolvedConfig)
    (activeRegistryVersion : Option Nat) (inputs : RebuildInputs) (s' : RunningRouter ρ τ) :
    Prop where
  visits : inputs.Visits config
  distinct : ∀ entry ∈ inputs.poolConfigs,
    ((KeyPool.ofConfig entry.2.keyPool).credentials.map (·.id)).Nodup
  clock : ∀ events, replayEventsFromPath inputs config.managementEventLogPath = .ok events →
    ∀ credentialSetId, inputs.ReadBy (events.filterMap (·.toDomainEvent)) credentialSetId
      (s'.lastRead credentialSetId)
  rebuilt : rebuildRuntimeFromResolvedConfig config activeRegistryVersion inputs s.app =
    (.ok (), s'.app)

def RunningRouter.Step (s : RunningRouter ρ τ) (event : RouterEvent)
    (s' : RunningRouter ρ τ) : Prop :=
  match event with
  -- a reload reads the clock for the sets that it builds, and a failed one leaves everything as
  -- it was
  | .reload config activeRegistryVersion inputs =>
      s.Loads config activeRegistryVersion inputs s'
  | .failedReload config activeRegistryVersion inputs =>
      s'.lastRead = s.lastRead ∧ ∃ message,
        rebuildRuntimeFromResolvedConfig config activeRegistryVersion inputs s.app =
          (.error message, s'.app)
  | .poolCall credentialSetId op r => ∃ pool,
      s.app.channels.credentialSetRuntimes[credentialSetId]? = some pool ∧
      s.lastRead credentialSetId ≤ r.first ∧
      s'.app = { s.app with
        channels := s.app.channels.setPool credentialSetId (op.exec r pool).1 } ∧
      s'.lastRead = Function.update s.lastRead credentialSetId r.third
  | .channelHealth channelId health generation relaySuppressionCount => ∃ channel,
      s.app.channels.get channelId = some channel ∧
      s'.app = s.app.setChannel channelId { channel with
        health := health
        channelHealthGeneration := generation
        relaySuppressionCount := relaySuppressionCount } ∧
      s'.lastRead = s.lastRead
  | .failureDomains failureDomains =>
      s'.app = { s.app with
        channels := { s.app.channels with failureDomains := failureDomains } } ∧
      s'.lastRead = s.lastRead
  | .other => s'.app.channels = s.app.channels ∧
      s'.app.runtimeCatalogs = s.app.runtimeCatalogs ∧ s'.lastRead = s.lastRead

/-- A process begins with a first load: the startup builds the channels and the catalogs as
a reload does. -/
def runningSystem (ρ τ : Type) : TransitionSystem (RunningRouter ρ τ) RouterEvent where
  Init s := ∃ (start : RunningRouter ρ τ) (config : FullResolvedConfig)
    (activeRegistryVersion : Option Nat) (inputs : RebuildInputs),
    start.Loads config activeRegistryVersion inputs s
  Step s event s' := s.Step event s'

/-! ## §2. What a rebuild builds. -/

/-- One turn of the loop leaves the pools that are there and builds at most the one of its
entry. -/
theorem credentialSetRuntimes_rebuildChannel {inputs : RebuildInputs}
    {persistedEvents : List DomainEvent} {start next : BuiltPools}
    {entry : String × FullPoolConfig}
    (h : rebuildChannel inputs persistedEvents start entry = .ok next) :
    (start.credentialSetRuntimes[entry.2.credentialSetId]? ≠ none ∧
        next.credentialSetRuntimes = start.credentialSetRuntimes) ∨
      (start.credentialSetRuntimes[entry.2.credentialSetId]? = none ∧
        ∃ pool, rebuildCredentialSet inputs persistedEvents entry.2 = .ok pool ∧
          next.credentialSetRuntimes =
            start.credentialSetRuntimes.insert entry.2.credentialSetId pool) := by
  unfold rebuildChannel at h
  dsimp only at h
  cases hfound : start.credentialSetRuntimes[entry.2.credentialSetId]? with
  | some pool =>
      rw [hfound] at h
      obtain rfl := Except.ok.inj h
      exact .inl ⟨Option.some_ne_none pool, rfl⟩
  | none =>
      rw [hfound] at h
      refine .inr ⟨rfl, ?_⟩
      cases hpool : rebuildCredentialSet inputs persistedEvents entry.2 with
      | error message =>
          rw [hpool] at h
          cases h
      | ok pool =>
          rw [hpool] at h
          obtain rfl := Except.ok.inj h
          exact ⟨pool, rfl, rfl⟩

/-- The pools of a rebuild are those of the sets that the channels use, each built for one
of its channels. -/
theorem credentialSetRuntimes_rebuildPools {inputs : RebuildInputs}
    {persistedEvents : List DomainEvent} {built : BuiltPools}
    (h : rebuildPools inputs persistedEvents = .ok built) :
    (∀ entry ∈ inputs.poolConfigs, ∃ pool,
      built.credentialSetRuntimes[entry.2.credentialSetId]? = some pool) ∧
    ∀ (credentialSetId : CredentialSetId) pool,
      built.credentialSetRuntimes[credentialSetId]? = some pool →
      ∃ entry ∈ inputs.poolConfigs, entry.2.credentialSetId = credentialSetId ∧
        rebuildCredentialSet inputs persistedEvents entry.2 = .ok pool := by
  unfold rebuildPools at h
  -- Pools stay, and each is there from the start or is built for an entry.
  have hloop : ∀ (entries : List (String × FullPoolConfig)) (start : BuiltPools),
      entries.foldlM (rebuildChannel inputs persistedEvents) start = .ok built →
      (∀ credentialSetId : CredentialSetId,
        start.credentialSetRuntimes[credentialSetId]? ≠ none →
        built.credentialSetRuntimes[credentialSetId]? ≠ none) ∧
      (∀ entry ∈ entries, built.credentialSetRuntimes[entry.2.credentialSetId]? ≠ none) ∧
      ∀ (credentialSetId : CredentialSetId) pool,
        built.credentialSetRuntimes[credentialSetId]? = some pool →
        start.credentialSetRuntimes[credentialSetId]? = some pool ∨
          ∃ entry ∈ entries, entry.2.credentialSetId = credentialSetId ∧
            rebuildCredentialSet inputs persistedEvents entry.2 = .ok pool := by
    intro entries
    induction entries with
    | nil =>
        intro start hstart
        obtain rfl := Except.ok.inj hstart
        refine ⟨fun _ hfound => hfound, ?_, fun _ _ hfound => .inl hfound⟩
        intro entry hmem
        cases hmem
    | cons entry entries ih =>
        intro start hstart
        obtain ⟨next, hnext, hrest⟩ := Collect.bind_eq_ok.mp hstart
        obtain ⟨hkept, hnamed, hbuilt⟩ := ih next hrest
        rcases credentialSetRuntimes_rebuildChannel hnext with ⟨hfound, heq⟩ |
          ⟨hfound, pool, hpool, heq⟩
        · rw [heq] at hkept hbuilt
          refine ⟨hkept, ?_, ?_⟩
          · intro other hmem
            rcases List.mem_cons.mp hmem with rfl | hmem
            · exact hkept _ hfound
            · exact hnamed other hmem
          · intro credentialSetId pool hpool
            rcases hbuilt credentialSetId pool hpool with hstart | ⟨other, hmem, hother⟩
            · exact .inl hstart
            · exact .inr ⟨other, List.mem_cons_of_mem _ hmem, hother⟩
        · rw [heq] at hkept hbuilt
          simp only [getElem?_insert_channel] at hkept hbuilt
          refine ⟨?_, ?_, ?_⟩
          · intro credentialSetId hne
            apply hkept
            split
            · exact Option.some_ne_none pool
            · exact hne
          · intro other hmem
            rcases List.mem_cons.mp hmem with rfl | hmem
            · apply hkept
              rw [if_pos rfl]
              exact Option.some_ne_none pool
            · exact hnamed other hmem
          · intro credentialSetId pool' hpool'
            rcases hbuilt credentialSetId pool' hpool' with hstart | ⟨other, hmem, hother⟩
            · by_cases hid : entry.2.credentialSetId = credentialSetId
              · rw [if_pos hid] at hstart
                obtain rfl := Option.some.inj hstart
                exact .inr ⟨entry, List.mem_cons_self, hid, hpool⟩
              · rw [if_neg hid] at hstart
                exact .inl hstart
            · exact .inr ⟨other, List.mem_cons_of_mem _ hmem, hother⟩
  obtain ⟨-, hnamed, hbuilt⟩ := hloop _ _ h
  refine ⟨fun entry hmem => Option.ne_none_iff_exists'.mp (hnamed entry hmem), ?_⟩
  intro credentialSetId pool hpool
  rcases hbuilt credentialSetId pool hpool with hstart | hentry
  · rw [show (⟨∅, ∅⟩ : BuiltPools).credentialSetRuntimes = ∅ from rfl,
      TreeMap.getElem?_emptyc] at hstart
    cases hstart
  · exact hentry

/-- A pool that is built is well formed at its last reading. -/
theorem wellFormed_rebuildCredentialSet {inputs : RebuildInputs}
    {persistedEvents : List DomainEvent} {config : FullPoolConfig} {pool : KeyPool}
    {lastRead : Instant}
    (hdistinct : ((KeyPool.ofConfig config.keyPool).credentials.map (·.id)).Nodup)
    (hclock : inputs.ReadBy persistedEvents config.credentialSetId lastRead)
    (h : rebuildCredentialSet inputs persistedEvents config = .ok pool) :
    WellFormed lastRead pool := by
  unfold rebuildCredentialSet at h
  cases hrows : inputs.loadLifecycleSnapshots config.credentialSetId with
  | error message =>
      rw [hrows] at h
      cases h
  | ok rows =>
      rw [hrows] at h
      obtain ⟨fresh, hfresh, hpool⟩ := fromConfig_execAll h
      obtain ⟨start, hstart, hreadings, hlast⟩ := hclock rows hrows
      have hsub := startupOps_readings_sublist
        (credentialSetChannels (inputs.poolConfigs.map fun entry =>
          (entry.1, entry.2.toResolvedPoolConfig)) config.credentialSetId)
        (inputs.credentialEvents persistedEvents config.credentialSetId) rows
      rw [hpool]
      obtain ⟨hne, rfl⟩ := KeyPool.new_ok hfresh
      exact (WellFormed.ofConfig hne hdistinct).execAll hstart (hreadings.sublist hsub)
        fun r hr => hlast r (hsub.subset hr)

/-! ## §3. The invariant. -/

structure RunningRouter.Coheres (s : RunningRouter ρ τ) : Prop where
  fits : s.app.channels.Fits s.app.runtimeCatalogs
  wellFormed : ∀ credentialSetId pool,
    s.app.channels.credentialSetRuntimes[credentialSetId]? = some pool →
    WellFormed (s.lastRead credentialSetId) pool

/-- A channel may be changed in what the catalogs do not say. -/
theorem ChannelRegistrySnapshot.Fits.insertChannel {channels channels' : ChannelRegistrySnapshot}
    {catalogs : RuntimeCatalogSnapshot} (h : channels.Fits catalogs) {channelId : String}
    {channel channel' : RegistryChannel} (hfound : channels.get channelId = some channel)
    (hchannels : channels'.channels = channels.channels.insert channelId channel')
    (hruntimes : channels'.credentialSetRuntimes = channels.credentialSetRuntimes)
    (hpool : channel'.poolState = channel.poolState) :
    channels'.Fits catalogs := by
  -- the channel is written back with the set that it had
  have hget : ∀ id, channels'.get id = if channelId = id then some channel' else
      channels.get id := by
    intro id
    unfold ChannelRegistrySnapshot.get
    rw [hchannels, getElem?_insert_channel]
  refine ⟨h.nodup, ?_, ?_, by rw [hruntimes]; exact h.pools⟩
  · intro entry hentry
    obtain ⟨known, hknown, hset, hreference⟩ := h.known entry hentry
    rw [hget]
    by_cases hid : channelId = entry.1
    · rw [if_pos hid]
      rw [← hid, hfound] at hknown
      obtain rfl := Option.some.inj hknown
      exact ⟨channel', rfl, by rw [hpool, hset], by rw [hpool, hreference]⟩
    · rw [if_neg hid]
      exact ⟨known, hknown, hset, hreference⟩
  · intro id known hknown
    rw [hget] at hknown
    by_cases hid : channelId = id
    · rw [← hid]
      exact h.listed channelId channel hfound
    · rw [if_neg hid] at hknown
      exact h.listed id known hknown

/-- A pool may be replaced by another. -/
theorem ChannelRegistrySnapshot.Fits.setPool {channels : ChannelRegistrySnapshot}
    {catalogs : RuntimeCatalogSnapshot} (h : channels.Fits catalogs)
    {credentialSetId : CredentialSetId} {pool : KeyPool}
    (hfound : channels.credentialSetRuntimes[credentialSetId]? = some pool) (pool' : KeyPool) :
    (channels.setPool credentialSetId pool').Fits catalogs := by
  refine ⟨h.nodup, h.known, h.listed, ?_⟩
  intro id
  rw [← h.pools id]
  show (∃ p, (channels.credentialSetRuntimes.insert credentialSetId pool')[id]? = some p) ↔ _
  rw [getElem?_insert_channel]
  by_cases hid : credentialSetId = id
  · rw [if_pos hid, ← hid]
    exact iff_of_true ⟨pool', rfl⟩ ⟨pool, hfound⟩
  · rw [if_neg hid]

/-- A load builds what the catalogs say. -/
theorem RunningRouter.Loads.coheres {s s' : RunningRouter ρ τ} {config : FullResolvedConfig}
    {activeRegistryVersion : Option Nat} {inputs : RebuildInputs}
    (h : s.Loads config activeRegistryVersion inputs s') : s'.Coheres := by
  obtain ⟨built, hbuilt, happ⟩ := eq_of_rebuild_ok h.rebuilt
  obtain ⟨events, hevents, hrest⟩ := Collect.bind_eq_ok.mp hbuilt
  obtain ⟨fresh, hfresh, hfinal⟩ := Collect.bind_eq_ok.mp hrest
  -- the runtime after the load is made of the configuration alone
  have hruntimes : s'.app.channels.credentialSetRuntimes = fresh.credentialSetRuntimes := by
    rw [happ, ← Except.ok.inj hfinal]
    rfl
  have hprojection : s'.app.runtimeCatalogs.managementProjection = inputs.poolConfigs := by
    rw [happ]
    rfl
  have hget : ∀ channelId, s'.app.channels.get channelId = built.pools[channelId]? := by
    intro channelId
    rw [happ]
    rfl
  obtain ⟨hnamed, hpools⟩ := credentialSetRuntimes_rebuildPools hfresh
  refine ⟨⟨?_, ?_, ?_, ?_⟩, ?_⟩
  · rw [hprojection, (h.visits.map Prod.fst).nodup_iff, IdMap.map_fst_sortedEntries]
    exact IdMap.nodup_sortedKeys config.pools
  · rw [hprojection]
    intro entry hentry
    obtain ⟨_, _, hchannel⟩ := get_rebuiltChannels h.visits hbuilt entry.1
    have hlookup : config.pools.lookup entry.1 = some entry.2 :=
      IdMap.mem_sortedEntries.mp (h.visits.mem_iff.mp hentry)
    rw [hlookup, Option.map_some] at hchannel
    exact ⟨_, (hget entry.1).trans hchannel, rfl, rfl⟩
  · rw [hprojection]
    intro channelId channel hfound
    obtain ⟨_, _, hchannel⟩ := get_rebuiltChannels h.visits hbuilt channelId
    rw [hget, hchannel] at hfound
    obtain ⟨pool, hlookup, -⟩ := Option.map_eq_some_iff.mp hfound
    exact List.mem_map_of_mem (h.visits.mem_iff.mpr (IdMap.mem_sortedEntries.mpr hlookup))
  · rw [hprojection, hruntimes]
    intro credentialSetId
    -- every set with a pool is the set of some channel, and every channel's set has a pool
    constructor
    · rintro ⟨pool, hpool⟩
      obtain ⟨entry, hentry, hset, -⟩ := hpools credentialSetId pool hpool
      exact ⟨entry, hentry, hset⟩
    · rintro ⟨entry, hentry, rfl⟩
      exact hnamed entry hentry
  · rw [hruntimes]
    intro credentialSetId pool hpool
    obtain ⟨entry, hentry, rfl, hpoolBuilt⟩ := hpools credentialSetId pool hpool
    exact wellFormed_rebuildCredentialSet (h.distinct entry hentry)
      (h.clock events hevents entry.2.credentialSetId) hpoolBuilt

theorem RunningRouter.Coheres.of_eq {s s' : RunningRouter ρ τ} (h : s.Coheres)
    (hchannels : s'.app.channels = s.app.channels)
    (hcatalogs : s'.app.runtimeCatalogs = s.app.runtimeCatalogs)
    (hread : s'.lastRead = s.lastRead) : s'.Coheres where
  fits := by
    rw [hchannels, hcatalogs]
    exact h.fits
  wellFormed := by
    rw [hchannels, hread]
    exact h.wellFormed

/-- Of a call, only its own pool and the last reading of it change. -/
theorem RunningRouter.Coheres.poolCall {s s' : RunningRouter ρ τ} (h : s.Coheres)
    {credentialSetId : CredentialSetId} {op : PoolOp} {r : Readings} {pool : KeyPool}
    (hfound : s.app.channels.credentialSetRuntimes[credentialSetId]? = some pool)
    (hclock : s.lastRead credentialSetId ≤ r.first)
    (happ : s'.app = { s.app with
      channels := s.app.channels.setPool credentialSetId (op.exec r pool).1 })
    (hread : s'.lastRead = Function.update s.lastRead credentialSetId r.third) :
    s'.Coheres where
  fits := by
    rw [happ]
    exact h.fits.setPool hfound _
  wellFormed := by
    intro id pool' hpool'
    rw [happ] at hpool'
    have hinsert : (s.app.channels.credentialSetRuntimes.insert credentialSetId
        (op.exec r pool).1)[id]? = some pool' := hpool'
    rw [getElem?_insert_channel] at hinsert
    rw [hread]
    by_cases hid : credentialSetId = id
    · rw [if_pos hid] at hinsert
      rw [← hid, Function.update_self, ← Option.some.inj hinsert]
      exact PoolOp.exec_wellFormed (h.wellFormed credentialSetId pool hfound) hclock op
    · rw [if_neg hid] at hinsert
      rw [Function.update_of_ne (Ne.symm hid)]
      exact h.wellFormed id pool' hinsert

theorem RunningRouter.Coheres.step {s s' : RunningRouter ρ τ} (h : s.Coheres)
    {event : RouterEvent} (hstep : s.Step event s') : s'.Coheres := by
  cases event with
  | reload config activeRegistryVersion inputs => exact hstep.coheres
  | failedReload config activeRegistryVersion inputs =>
      obtain ⟨hread, message, hfailed⟩ := hstep
      -- a reload that fails leaves the state as it was
      have happ := eq_of_rebuild_error hfailed
      exact h.of_eq (by rw [happ]) (by rw [happ]) hread
  | poolCall credentialSetId op r =>
      obtain ⟨pool, hfound, hclock, happ, hread⟩ := hstep
      exact h.poolCall hfound hclock happ hread
  | channelHealth channelId health generation relaySuppressionCount =>
      obtain ⟨channel, hfound, happ, hread⟩ := hstep
      refine ⟨?_, ?_⟩
      · rw [happ]
        exact h.fits.insertChannel hfound rfl rfl rfl
      · rw [happ, hread]
        exact h.wellFormed
  -- the domains are in none of the parts that have to fit
  | failureDomains failureDomains =>
      obtain ⟨happ, hread⟩ := hstep
      refine ⟨?_, ?_⟩
      · rw [happ]
        exact ⟨h.fits.nodup, h.fits.known, h.fits.listed, h.fits.pools⟩
      · rw [happ, hread]
        exact h.wellFormed
  | other =>
      obtain ⟨hchannels, hcatalogs, hread⟩ := hstep
      exact h.of_eq hchannels hcatalogs hread

theorem RunningRouter.coheres {s : RunningRouter ρ τ} (h : (runningSystem ρ τ).Reachable s) :
    s.Coheres := by
  refine h.invariant ?_ ?_
  · rintro s ⟨start, config, activeRegistryVersion, inputs, hloads⟩
    exact hloads.coheres
  · intro s event s' hs hstep
    exact hs.step hstep

/-! ## §4. What the answer says. -/

/-- A channel serves: it is switched on and routable, and its pool hands out a key. -/
def ChannelRegistrySnapshot.Serves (channels : ChannelRegistrySnapshot)
    (clock : SnapshotReadings) (channelId : String) (channel : RegistryChannel) : Prop :=
  channel.configuredEnabled = true ∧ channel.accountEnabled = true ∧
  (channel.health.isAvailableForRouting (clock.routingAt channelId) = true ∨
    channel.health.isDegraded = true) ∧
  ∃ pool key, channels.credentialSetRuntimes[channel.poolState.pool]? = some pool ∧
    (pool.select (clock.sampledAt channel.poolState.credentialSetId)).2 = .ok key

theorem CredentialSnapshotFilter.available_admits_iff (now : Instant) (state : CredentialState) :
    CredentialSnapshotFilter.admits now .available state = true ↔
      state.isAvailableAt now = true := by
  cases state with
  | available => exact iff_of_true rfl rfl
  | coolingDown untilInstant reason =>
      unfold admits CredentialState.statusAt CredentialState.isAvailableAt
      by_cases hnow : now < untilInstant
      · simp [hnow]
      · simp [hnow, Nat.le_of_not_lt hnow]
  | expired reason => exact iff_of_false Bool.false_ne_true Bool.false_ne_true
  | quotaExhausted reason => exact iff_of_false Bool.false_ne_true Bool.false_ne_true
  | disabled reason => exact iff_of_false Bool.false_ne_true Bool.false_ne_true

/-- A pool hands out a key exactly if its snapshot shows an available one. -/
theorem WellFormed.select_ok_iff_count {t now : Instant} {pool : KeyPool}
    (h : WellFormed t pool) (ht : t ≤ now) :
    (∃ key, (pool.select now).2 = .ok key) ↔
      0 < CredentialSnapshotFilter.countIn now .available pool.credentials := by
  rw [h.select_ok_iff ht]
  unfold CredentialSnapshotFilter.countIn KeyPool.HasCredential
  rw [List.countP_pos_iff]
  simp only [CredentialSnapshotFilter.available_admits_iff]
  constructor
  · rintro ⟨i, c, hc, hs⟩
    exact ⟨c, List.mem_of_getElem? hc, hs⟩
  · rintro ⟨c, hc, hs⟩
    obtain ⟨i, hi⟩ := List.mem_iff_getElem?.mp hc
    exact ⟨i, c, hi, hs⟩

namespace RunningRouter.Coheres

variable {s : RunningRouter ρ τ} {clock : SnapshotReadings}

/-- The pool of a channel. -/
theorem pool_of_get (h : s.Coheres) {channelId : String} {channel : RegistryChannel}
    (hfound : s.app.channels.get channelId = some channel) :
    channel.poolState.pool = channel.poolState.credentialSetId ∧ ∃ pool,
      s.app.channels.credentialSetRuntimes[channel.poolState.pool]? = some pool ∧
      WellFormed (s.lastRead channel.poolState.credentialSetId) pool := by
  obtain ⟨entry, hentry, -, hset, hreference⟩ := h.fits.entry_of_get hfound
  obtain ⟨pool, hpool⟩ := (h.fits.pools entry.2.credentialSetId).mpr ⟨entry, hentry, rfl⟩
  rw [hset, hreference]
  exact ⟨rfl, pool, hpool, h.wellFormed _ pool hpool⟩

/-- A channel is counted as serving exactly if it serves. -/
theorem countsAsServing_iff (h : s.Coheres)
    (hclock : ∀ credentialSetId, s.lastRead credentialSetId ≤ clock.sampledAt credentialSetId)
    {channelId : String} {channel : RegistryChannel}
    (hfound : s.app.channels.get channelId = some channel) :
    s.app.channels.countsAsServing clock channelId channel = true ↔
      s.app.channels.Serves clock channelId channel := by
  obtain ⟨hreference, pool, hpool, hwell⟩ := h.pool_of_get hfound
  have hsample : (s.app.channels.sampleOf clock
      channel.poolState.credentialSetId).hasAvailableCredentials = true ↔
      ∃ key, (pool.select (clock.sampledAt channel.poolState.credentialSetId)).2 = .ok key := by
    unfold ChannelRegistrySnapshot.sampleOf ChannelRegistrySnapshot.snapshotOf
    rw [← hreference, hpool, Option.map_some, Option.getD_some, hreference,
      (readiness_sample pool _).2.2, decide_eq_true_iff,
      hwell.select_ok_iff_count (hclock _)]
  unfold ChannelRegistrySnapshot.countsAsServing ChannelRegistrySnapshot.Serves
  rw [Bool.and_eq_true, Bool.and_eq_true, Bool.and_eq_true, Bool.or_eq_true, hsample, hpool,
    and_assoc, and_assoc]
  simp only [Option.some.injEq, exists_and_left, exists_eq_left']

end RunningRouter.Coheres

/-- A routable health is none that stops a request. -/
theorem hardRouteState_of_routable {channel : ChannelRuntime} {now now' : Instant}
    (hconfigured : channel.configuredEnabled = true) (haccount : channel.accountEnabled = true)
    (hhealth : channel.health.isAvailableForRouting now = true ∨
      channel.health.isDegraded = true) (hnow : now ≤ now')
    (failureDomainState : Option ChannelRouteState) :
    hardRouteState channel failureDomainState now' = none := by
  unfold hardRouteState
  rw [hconfigured, haccount]
  simp only [Bool.not_true, Bool.false_eq_true, if_false]
  cases hstate : channel.health with
  | available => rfl
  | degraded reason => rfl
  | disabled reason =>
      rw [hstate] at hhealth
      rcases hhealth with hhealth | hhealth <;> cases hhealth
  | coolingDown untilInstant reason =>
      rw [hstate] at hhealth
      rcases hhealth with hhealth | hhealth
      · have hpassed : untilInstant ≤ now := of_decide_eq_true hhealth
        exact if_neg fun hactive =>
          absurd hactive.1 (Nat.not_lt_of_le (Nat.le_trans hpassed hnow))
      · cases hhealth

/-- An open failure domain cools its provider down, and that is all it says. -/
theorem FailureDomainRegistry.routeState_eq_some {registry : FailureDomainRegistry}
    {providerId accountId : String} {accountNow providerNow : Instant}
    {state : ChannelRouteState}
    (h : registry.routeState providerId accountId accountNow providerNow = some state) :
    state = .providerCoolingDown := by
  unfold FailureDomainRegistry.routeState at h
  split at h
  · exact (Option.some.inj h).symm
  · split at h
    · exact (Option.some.inj h).symm
    · cases h

/-- A routable channel whose pool has a key is available, degraded, or behind an open
domain. -/
theorem routeStateForPool_of_routable {channel : ChannelRuntime} {pool : KeyPool}
    {failureDomains : FailureDomainRegistry} {now : Instant} {r : RouteReadings}
    (hconfigured : channel.configuredEnabled = true) (haccount : channel.accountEnabled = true)
    (hhealth : channel.health.isAvailableForRouting now = true ∨
      channel.health.isDegraded = true) (hnow : now ≤ r.channel)
    (hpool : pool.hasAvailableCredentialsReadOnly r.credentials = true) :
    (routeStateForPool channel (some pool) failureDomains r).IsSoft := by
  unfold routeStateForPool routeStateFromDomain
  dsimp only
  rw [hardRouteState_of_routable hconfigured haccount hhealth hnow, hpool]
  simp only [Bool.not_true, Bool.false_eq_true, if_false]
  cases hdomain : failureDomains.routeState channel.poolState.providerId
      channel.poolState.accountId r.account r.provider with
  | some state => exact .inr (.inr (FailureDomainRegistry.routeState_eq_some hdomain))
  | none =>
      cases hstate : channel.health with
      | available => exact .inl rfl
      | coolingDown untilInstant reason => exact .inl rfl
      | degraded reason => exact .inr (.inl rfl)
      | disabled reason =>
          rw [hstate] at hhealth
          rcases hhealth with hhealth | hhealth <;> cases hhealth

/-- A hard state says that the channel is switched off or cools down. -/
theorem hardRouteState_eq_some {channel : ChannelRuntime}
    {failureDomainState : Option ChannelRouteState} {now : Instant} {state : ChannelRouteState}
    (h : hardRouteState channel failureDomainState now = some state) :
    state = .disabled ∨ state = .coolingDown := by
  unfold hardRouteState at h
  split at h
  · exact .inl (Option.some.inj h).symm
  · split at h
    · exact .inl (Option.some.inj h).symm
    -- an enabled channel: by its health
    · cases hstate : channel.health with
      | available =>
          rw [hstate] at h
          cases h
      | degraded reason =>
          rw [hstate] at h
          cases h
      | disabled reason =>
          rw [hstate] at h
          exact .inl (Option.some.inj h).symm
      | coolingDown untilInstant reason =>
          rw [hstate] at h
          dsimp only at h
          split at h
          · exact .inr (Option.some.inj h).symm
          · cases h

/-- Without an open domain, nothing but a routable health is not hard. -/
theorem routable_of_hardRouteState {channel : ChannelRuntime} {now : Instant}
    (h : hardRouteState channel none now = none) :
    channel.configuredEnabled = true ∧ channel.accountEnabled = true ∧
      (channel.health.isAvailableForRouting now = true ∨ channel.health.isDegraded = true) := by
  unfold hardRouteState at h
  cases hconfigured : channel.configuredEnabled with
  | false =>
      rw [hconfigured] at h
      cases h
  | true =>
      cases haccount : channel.accountEnabled with
      | false =>
          rw [hconfigured, haccount] at h
          cases h
      | true =>
          rw [hconfigured, haccount] at h
          refine ⟨rfl, rfl, ?_⟩
          cases hstate : channel.health with
          | available => exact .inl rfl
          | degraded reason => exact .inr rfl
          | disabled reason =>
              rw [hstate] at h
              cases h
          | coolingDown untilInstant reason =>
              rw [hstate] at h
              -- without an open domain a cooldown is hard while it lasts, so this one has passed
              refine .inl (decide_eq_true (Nat.le_of_not_lt fun hactive => ?_))
              have hcooling : (if now < untilInstant ∧
                  channelCooldownIsProviderFailureDomainSoftState
                    (.coolingDown untilInstant reason) none = false
                then some ChannelRouteState.coolingDown else none) = none := h
              rw [if_pos ⟨hactive, rfl⟩] at hcooling
              cases hcooling

/-- What a route state of the best two kinds says about the channel and its pool. -/
theorem routable_of_routeStateForPool {channel : ChannelRuntime} {pool : KeyPool}
    {failureDomains : FailureDomainRegistry} {r : RouteReadings}
    (h : routeStateForPool channel (some pool) failureDomains r = .available ∨
      routeStateForPool channel (some pool) failureDomains r = .degraded) :
    channel.configuredEnabled = true ∧ channel.accountEnabled = true ∧
      (channel.health.isAvailableForRouting r.channel = true ∨
        channel.health.isDegraded = true) ∧
      pool.hasAvailableCredentialsReadOnly r.credentials = true := by
  unfold routeStateForPool routeStateFromDomain at h
  dsimp only at h
  -- the reasons against a channel are asked in turn; with each of them the state would be another
  cases hhard : hardRouteState channel (failureDomains.routeState channel.poolState.providerId
      channel.poolState.accountId r.account r.provider) r.channel with
  | some state =>
      rw [hhard] at h
      rcases hardRouteState_eq_some hhard with rfl | rfl <;> rcases h with h | h <;> cases h
  | none =>
      rw [hhard] at h
      cases hpool : pool.hasAvailableCredentialsReadOnly r.credentials with
      | false =>
          rw [hpool] at h
          simp only [Bool.not_false, if_true] at h
          by_cases hcooling : pool.hasCoolingDownCredentialsReadOnly r.cooldowns = true
          · simp only [if_pos hcooling] at h
            rcases h with h | h <;> cases h
          · simp only [if_neg hcooling] at h
            rcases h with h | h <;> cases h
      | true =>
          cases hdomain : failureDomains.routeState channel.poolState.providerId
              channel.poolState.accountId r.account r.provider with
          | some state =>
              obtain rfl := FailureDomainRegistry.routeState_eq_some hdomain
              rw [hpool, hdomain] at h
              rcases h with h | h <;> cases h
          | none =>
              rw [hdomain] at hhard
              obtain ⟨hconfigured, haccount, hhealth⟩ := routable_of_hardRouteState hhard
              exact ⟨hconfigured, haccount, hhealth, rfl⟩

/-! ## §5. Readiness. -/

/-- An observation finds the pool of a channel unlocked, after the answer has read it. -/
def RouteObservation.Follows (observation : RouteObservation) (clock : SnapshotReadings)
    (channelId : String) (channel : RegistryChannel) : Prop :=
  observation.locked channelId = false ∧
  clock.routingAt channelId ≤ (observation.readings channelId).channel ∧
  clock.sampledAt channel.poolState.credentialSetId ≤
    (observation.readings channelId).credentials

/-- An observation finds the pool of a channel unlocked, before the answer reads it. -/
def RouteObservation.Precedes (observation : RouteObservation) (s : RunningRouter ρ τ)
    (clock : SnapshotReadings) (channelId : String) (channel : RegistryChannel) : Prop :=
  observation.locked channelId = false ∧
  (observation.readings channelId).channel ≤ clock.routingAt channelId ∧
  s.lastRead channel.poolState.credentialSetId ≤ (observation.readings channelId).credentials ∧
  (observation.readings channelId).credentials ≤
    clock.sampledAt channel.poolState.credentialSetId

theorem WellFormed.hasAvailable_iff_select {t now : Instant} {pool : KeyPool}
    (h : WellFormed t pool) (ht : t ≤ now) :
    pool.hasAvailableCredentialsReadOnly now = true ↔ ∃ key, (pool.select now).2 = .ok key := by
  rw [h.hasAvailable_iff ht, h.select_ok_iff ht]

/-- What is available stays so while the clock goes on. -/
theorem WellFormed.hasAvailable_mono {t now now' : Instant} {pool : KeyPool}
    (h : WellFormed t pool) (ht : t ≤ now) (hnow : now ≤ now')
    (havailable : pool.hasAvailableCredentialsReadOnly now = true) :
    pool.hasAvailableCredentialsReadOnly now' = true := by
  rw [h.hasAvailable_iff ht] at havailable
  rw [h.hasAvailable_iff (Nat.le_trans ht hnow)]
  obtain ⟨i, c, hc, hs⟩ := havailable
  exact ⟨i, c, hc, CredentialState.isAvailableAt_mono hnow hs⟩

theorem ChannelHealth.isAvailableForRouting_mono {health : ChannelHealth} {now now' : Instant}
    (hnow : now ≤ now') (h : health.isAvailableForRouting now = true) :
    health.isAvailableForRouting now' = true := by
  cases health with
  | coolingDown untilInstant reason =>
      exact decide_eq_true (Nat.le_trans (of_decide_eq_true h) hnow)
  | available => rfl
  | degraded reason => cases h
  | disabled reason => cases h

namespace RunningRouter.Coheres

variable {s : RunningRouter ρ τ} {clock : SnapshotReadings}

omit clock in
theorem routeState_eq {channelId : String} {channel : RegistryChannel}
    (hfound : s.app.channels.get channelId = some channel) {pool : KeyPool}
    (hpool : s.app.channels.credentialSetRuntimes[channel.poolState.pool]? = some pool)
    {observation : RouteObservation} (hunlocked : observation.locked channelId = false) :
    s.app.channels.routeState observation channelId =
      routeStateForPool channel.toChannelRuntime (some pool) s.app.channels.failureDomains
        (observation.readings channelId) := by
  unfold ChannelRegistrySnapshot.routeState
  rw [hfound]
  dsimp only
  rw [hunlocked, hpool]
  rfl

/-- A request finds a serving channel soft. -/
theorem isSoft_of_serves (h : s.Coheres)
    (hclock : ∀ credentialSetId, s.lastRead credentialSetId ≤ clock.sampledAt credentialSetId)
    {channelId : String} {channel : RegistryChannel}
    (hfound : s.app.channels.get channelId = some channel)
    (hserves : s.app.channels.Serves clock channelId channel) {observation : RouteObservation}
    (hfollows : observation.Follows clock channelId channel) :
    (s.app.channels.routeState observation channelId).IsSoft := by
  obtain ⟨hconfigured, haccount, hhealth, pool, key, hpool, hkey⟩ := hserves
  obtain ⟨hunlocked, hrouting, hsampled⟩ := hfollows
  obtain ⟨-, pool', hpool', hwell⟩ := h.pool_of_get hfound
  obtain rfl := Option.some.inj (hpool.symm.trans hpool')
  have havailable := (hwell.hasAvailable_iff_select (hclock _)).mpr ⟨key, hkey⟩
  rw [routeState_eq hfound hpool hunlocked]
  exact routeStateForPool_of_routable hconfigured haccount hhealth hrouting
    (hwell.hasAvailable_mono (hclock _) hsampled havailable)

/-- What a request has found available or degraded serves. -/
theorem serves_of_routeState (h : s.Coheres) {channelId : String} {channel : RegistryChannel}
    (hfound : s.app.channels.get channelId = some channel) {observation : RouteObservation}
    (hprecedes : observation.Precedes s clock channelId channel)
    (hstate : s.app.channels.routeState observation channelId = .available ∨
      s.app.channels.routeState observation channelId = .degraded) :
    s.app.channels.Serves clock channelId channel := by
  obtain ⟨hunlocked, hrouting, hread, hsampled⟩ := hprecedes
  obtain ⟨-, pool, hpool, hwell⟩ := h.pool_of_get hfound
  rw [routeState_eq hfound hpool hunlocked] at hstate
  obtain ⟨hconfigured, haccount, hhealth, havailable⟩ := routable_of_routeStateForPool hstate
  have hkey := (hwell.hasAvailable_iff_select (Nat.le_trans hread hsampled)).mp
    (hwell.hasAvailable_mono hread hsampled havailable)
  obtain ⟨key, hkey⟩ := hkey
  refine ⟨hconfigured, haccount, ?_, pool, key, hpool, hkey⟩
  rcases hhealth with hhealth | hhealth
  · exact .inl (ChannelHealth.isAvailableForRouting_mono hrouting hhealth)
  · exact .inr hhealth

/-- The ids of the channels that are counted as serving. -/
def servingIds (s : RunningRouter ρ τ) (clock : SnapshotReadings) : List String :=
  (s.app.channels.channels.toList.filter fun entry =>
    s.app.channels.countsAsServing clock entry.1 entry.2).map Prod.fst

theorem nodup_servingIds (s : RunningRouter ρ τ) (clock : SnapshotReadings) :
    (servingIds s clock).Nodup := by
  have hkeys : (s.app.channels.channels.toList.map Prod.fst).Nodup := by
    rw [TreeMap.map_fst_toList_eq_keys]
    exact TreeMap.nodup_keys
  exact (List.filter_sublist.map Prod.fst).nodup hkeys

theorem mem_servingIds_iff (h : s.Coheres)
    (hclock : ∀ credentialSetId, s.lastRead credentialSetId ≤ clock.sampledAt credentialSetId)
    {channelId : String} :
    channelId ∈ servingIds s clock ↔ ∃ channel,
      s.app.channels.get channelId = some channel ∧
        s.app.channels.Serves clock channelId channel := by
  unfold servingIds
  rw [List.mem_map]
  constructor
  · rintro ⟨entry, hentry, rfl⟩
    obtain ⟨hmem, hcounts⟩ := List.mem_filter.mp hentry
    have hfound : s.app.channels.get entry.1 = some entry.2 :=
      TreeMap.mem_toList_iff_getElem?_eq_some.mp hmem
    exact ⟨entry.2, hfound, (h.countsAsServing_iff hclock hfound).mp hcounts⟩
  · rintro ⟨channel, hfound, hserves⟩
    exact ⟨(channelId, channel), List.mem_filter.mpr
      ⟨TreeMap.mem_toList_iff_getElem?_eq_some.mpr hfound,
        (h.countsAsServing_iff hclock hfound).mpr hserves⟩, rfl⟩

end RunningRouter.Coheres

/-- What an answer says of a state, `serving` being the channels that serve. -/
structure TruthfulReadiness (s : RunningRouter ρ τ) (clock : SnapshotReadings)
    (responseFilterAlerts : Nat) (serving : List String) : Prop where
  nodup : serving.Nodup
  mem_iff : ∀ channelId, channelId ∈ serving ↔ ∃ channel,
    s.app.channels.get channelId = some channel ∧
      s.app.channels.Serves clock channelId channel
  /-- A request that follows finds them available, degraded, or behind an open domain. -/
  routable : ∀ channelId channel (observation : RouteObservation),
    s.app.channels.get channelId = some channel → channelId ∈ serving →
    observation.Follows clock channelId channel →
    (s.app.channels.routeState observation channelId).IsSoft
  /-- What a request has found available or degraded is among them. -/
  routed : ∀ channelId channel (observation : RouteObservation),
    s.app.channels.get channelId = some channel →
    observation.Precedes s clock channelId channel →
    s.app.channels.routeState observation channelId = .available ∨
      s.app.channels.routeState observation channelId = .degraded →
    channelId ∈ serving
  response :
    let pools := s.app.channels.credentialSetRuntimes.toList
    let available (entry : CredentialSetId × KeyPool) :=
      CredentialSnapshotFilter.countIn (clock.sampledAt entry.1) .available entry.2.credentials
    let sample := collectRuntimeSnapshot s.app.channels s.app.runtimeCatalogs clock
    let response := readinessResponse sample
    (response.status = "ready" ↔ serving ≠ []) ∧
    response.servingChannels = serving.length ∧
    response.channels = s.app.channels.channels.size ∧
    (∀ filter, response.credentials.countFor filter = (pools.map fun entry =>
      filter.countIn (clock.sampledAt entry.1) entry.2.credentials).sum) ∧
    response.operatorInputAlerts = pools.countP (fun entry => decide (available entry < 2)) ∧
    response.blockingAlerts = max (pools.countP fun entry => decide (available entry = 0))
      (if serving = [] then 1 else 0) ∧
    ((resilienceHealthResponse sample responseFilterAlerts).status = "ok" ↔
      serving ≠ [] ∧ (∀ entry ∈ pools, 2 ≤ available entry) ∧
      (∀ channelId channel, s.app.channels.get channelId = some channel →
        ChannelRegistrySnapshot.countsAsCoolingDown clock channelId channel = false) ∧
      responseFilterAlerts = 0)
  /-- The health answer says the same, and no reason to be blocked without one. -/
  healthResponse :
    let pools := s.app.channels.credentialSetRuntimes.toList
    let response := servingHealthResponse
      (collectRuntimeSnapshot s.app.channels s.app.runtimeCatalogs clock)
    (response.status = "ready" ↔ serving ≠ []) ∧ (response.serving = true ↔ serving ≠ []) ∧
    (response.blockingReasons = [] ↔ serving ≠ [] ∧ ∀ entry ∈ pools,
      CredentialSnapshotFilter.countIn (clock.sampledAt entry.1) .available
        entry.2.credentials ≠ 0)

/-- The status of a readiness answer. -/
theorem readinessResponse_status (sample : RuntimeSnapshotSample) :
    (readinessResponse sample).status = "ready" ↔ 0 < sample.servingChannels := by
  unfold readinessResponse runtimeReadinessProjection
  by_cases hserving : 0 < sample.servingChannels
  · simp [hserving]
  · simp [hserving]

theorem servingHealthResponse_blockingReasons (sample : RuntimeSnapshotSample) :
    (servingHealthResponse sample).blockingReasons = [] ↔
      0 < sample.servingChannels ∧ sample.credentialSetBlockingAlerts = 0 := by
  unfold servingHealthResponse
  dsimp only
  rw [List.append_eq_nil_iff]
  refine and_congr ?_ ?_
  · by_cases hnone : sample.servingChannels = 0
    · simp [hnone]
    · simp [hnone, Nat.pos_of_ne_zero hnone]
  · by_cases hblocking : sample.credentialSetBlockingAlerts = 0
    · simp [hblocking]
    · simp [hblocking, Nat.pos_of_ne_zero hblocking]

theorem resilienceHealthResponse_status (sample : RuntimeSnapshotSample)
    (responseFilterAlerts : Nat) :
    (resilienceHealthResponse sample responseFilterAlerts).status = "ok" ↔
      0 < sample.servingChannels ∧ sample.credentialSetBlockingAlerts = 0 ∧
      sample.operatorInputAlerts = 0 ∧ sample.credentialSetsWithoutSpare = 0 ∧
      sample.channelsCoolingDown = 0 ∧ responseFilterAlerts = 0 := by
  unfold resilienceHealthResponse
  dsimp only
  split
  · next hblocked =>
      refine iff_of_false (by decide) ?_
      omega
  · next hblocked =>
      split
      · next hdegraded =>
          refine iff_of_false (by decide) ?_
          omega
      · next hdegraded =>
          refine iff_of_true rfl ?_
          omega

/-- In every state that a router reaches, the health endpoints count the channels that a
request can be routed to and that hand out a key, and the credentials of every pool once. -/
theorem readiness_is_truthful {s : RunningRouter ρ τ}
    (h : (runningSystem ρ τ).Reachable s) {clock : SnapshotReadings}
    (hclock : ∀ credentialSetId, s.lastRead credentialSetId ≤ clock.sampledAt credentialSetId)
    (responseFilterAlerts : Nat) :
    ∃ serving, TruthfulReadiness s clock responseFilterAlerts serving := by
  have hs := RunningRouter.coheres h
  have hmem := fun channelId =>
    @RunningRouter.Coheres.mem_servingIds_iff ρ τ s clock hs hclock channelId
  obtain ⟨hcounts, hinput, hblocking, hspare, hchannels, hserving, hcooling⟩ :=
    collectRuntimeSnapshot_spec hs.fits clock
  -- the sample counts the serving channels, so the list of them has that length
  have hlength : (collectRuntimeSnapshot s.app.channels s.app.runtimeCatalogs
      clock).servingChannels = (RunningRouter.Coheres.servingIds s clock).length := by
    rw [hserving, List.countP_eq_length_filter]
    exact (List.length_map _).symm
  refine ⟨RunningRouter.Coheres.servingIds s clock,
    RunningRouter.Coheres.nodup_servingIds s clock, hmem, ?_, ?_, ?_, ?_⟩
  -- a serving channel is one that the proxy would still try, and the other way round
  · intro channelId channel observation hfound hmember hfollows
    obtain ⟨channel', hfound', hserves⟩ := (hmem channelId).mp hmember
    obtain rfl := Option.some.inj (hfound.symm.trans hfound')
    exact hs.isSoft_of_serves hclock hfound hserves hfollows
  · intro channelId channel observation hfound hprecedes hstate
    exact (hmem channelId).mpr ⟨channel, hfound,
      hs.serves_of_routeState hfound hprecedes hstate⟩
  · intro pools available sample response
    refine ⟨?_, hlength, hchannels, hcounts, hinput, ?_, ?_⟩
    · rw [readinessResponse_status, hlength, List.length_pos_iff]
    · show max sample.credentialSetBlockingAlerts
        (if decide (0 < sample.servingChannels) = true then 0 else 1) = _
      rw [hblocking, hlength]
      congr 1
      by_cases hnone : RunningRouter.Coheres.servingIds s clock = []
      · rw [if_pos hnone, hnone]
        rfl
      · rw [if_neg hnone, if_pos (decide_eq_true (List.length_pos_iff.mpr hnone))]
    -- a resilient runtime has a spare in every set; then no set is blocking either
    · rw [resilienceHealthResponse_status, hlength, hblocking, hinput, hspare, hcooling,
        List.length_pos_iff]
      simp only [List.countP_eq_zero, decide_eq_true_iff]
      refine and_congr_right fun _ => ?_
      constructor
      · rintro ⟨-, hinputs, -, hcool, hfilter⟩
        refine ⟨fun entry hentry => Nat.le_of_not_lt (hinputs entry hentry), ?_, hfilter⟩
        intro channelId channel hfound
        have hentry := TreeMap.mem_toList_iff_getElem?_eq_some.mpr hfound
        exact Bool.eq_false_iff.mpr (hcool (channelId, channel) hentry)
      · rintro ⟨hspares, hcool, hfilter⟩
        refine ⟨?_, ?_, ?_, ?_, hfilter⟩
        · intro entry hentry hzero
          have hspareOf : 2 ≤ available entry := hspares entry hentry
          have hnone : available entry = 0 := hzero
          omega
        · exact fun entry hentry => Nat.not_lt_of_le (hspares entry hentry)
        · exact fun entry hentry => Nat.not_lt_of_le (hspares entry hentry)
        · intro entry hentry
          exact Bool.eq_false_iff.mp
            (hcool entry.1 entry.2 (TreeMap.mem_toList_iff_getElem?_eq_some.mp hentry))
  · intro pools response
    refine ⟨?_, ?_, ?_⟩
    · -- both answers have the status of the projection
      rw [← List.length_pos_iff, ← hlength]
      exact readinessResponse_status _
    · show decide (0 < RuntimeSnapshotSample.servingChannels _) = true ↔ _
      rw [decide_eq_true_iff, hlength, List.length_pos_iff]
    · rw [servingHealthResponse_blockingReasons, hlength, hblocking, List.length_pos_iff]
      simp only [List.countP_eq_zero, decide_eq_true_iff, ne_eq]
      rfl

/-- A second channel with the credential set of `chat`. -/
def backupChannel : FullPoolConfig :=
  { chatChannel with keyPool := { chatChannel.keyPool with name := "backup" } }

/-- Two channels that share their keys. -/
def sharedKeysConfig : FullResolvedConfig :=
  { chatConfig none with pools := [⟨"chat", chatChannel⟩, ⟨"backup", backupChannel⟩].toFinmap }

def sharedKeysInputs : RebuildInputs :=
  { unreadableInputs with poolConfigs := [("chat", chatChannel), ("backup", backupChannel)] }

/-- A router that has just loaded the two channels. -/
def sharedKeysRouter : RunningRouter String String where
  app := (rebuildRuntimeFromResolvedConfig sharedKeysConfig (some 1) sharedKeysInputs emptyApp).2
  lastRead := fun _ => 0

theorem sharedKeysRouter_loads : (⟨emptyApp, fun _ => 0⟩ : RunningRouter String String).Loads
    sharedKeysConfig (some 1) sharedKeysInputs sharedKeysRouter where
  -- the configuration's own order is the other one
  visits := by
    have hkeys : IdMap.sortedKeys sharedKeysConfig.pools = ["backup", "chat"] := by
      decide +kernel
    have hentries : IdMap.sortedEntries sharedKeysConfig.pools =
        [("backup", backupChannel), ("chat", chatChannel)] := by
      unfold IdMap.sortedEntries
      rw [hkeys]
      rfl
    unfold RebuildInputs.Visits
    rw [hentries]
    exact .swap _ _ _
  distinct := by
    intro entry hentry
    rcases List.mem_pair.mp hentry with rfl | rfl
    · exact List.nodup_singleton _
    · exact List.nodup_singleton _
  clock := by
    intro events hevents credentialSetId rows hrows
    obtain rfl := Except.ok.inj hevents
    obtain rfl := Except.ok.inj hrows
    -- nothing is replayed, so the readings of the clock are none
    refine ⟨0, Nat.le_refl 0, ?_, ?_⟩
    · have hempty : sharedKeysInputs.credentialEvents [] credentialSetId = [] := by
        unfold RebuildInputs.credentialEvents credentialEventsForStartup
        rfl
      show ReadingsFrom 0
        ((sharedKeysInputs.credentialEvents [] credentialSetId).map Prod.snd ++ [])
      rw [hempty]
      trivial
    · intro r hr
      cases hr
  rebuilt := rfl

/-- A first load of two channels with one key between them, and an answer a while later:
both channels serve, and the key is counted once. -/
theorem readiness_is_truthful_shared_keys :
    (runningSystem String String).Reachable sharedKeysRouter ∧
      ∃ serving, TruthfulReadiness sharedKeysRouter (.at' 1) 0 serving ∧ serving.length = 2 ∧
        (readinessResponse (collectRuntimeSnapshot sharedKeysRouter.app.channels
          sharedKeysRouter.app.runtimeCatalogs (.at' 1))).credentials.countFor .available = 1 := by
  have hreachable : (runningSystem String String).Reachable sharedKeysRouter :=
    .init ⟨_, sharedKeysConfig, some 1, sharedKeysInputs, sharedKeysRouter_loads⟩
  obtain ⟨serving, htruth⟩ :=
    @readiness_is_truthful _ _ _ hreachable (.at' 1) (fun _ => Nat.zero_le 1) 0
  refine ⟨hreachable, serving, htruth, ?_, ?_⟩
  · rw [← htruth.response.2.1]
    decide +kernel
  · rw [htruth.response.2.2.2.1]
    decide +kernel

end OneAiKey
