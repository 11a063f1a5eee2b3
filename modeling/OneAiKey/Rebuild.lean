/-
  OneAiKey.Rebuild — the replacement of the runtime
  (`rebuild_runtime_from_resolved_config` of `src/state.rs`).

  The method reads the event log and the stores, builds the channels one by one,
  and then writes one part of the state after another.  It is a computation that
  may fail over a state: what it has written before a failure would stay written.

  The generation counter is a natural number, the one of the source a `u64`.

  Main results:
    * `rebuildRuntimeFromResolvedConfig_eq` — the rebuild as one case distinction;
    * `reload_all_or_nothing` — a failed reload changes nothing, and whatever the
      reloads, the registry and the catalogs are those of the last successful one.
-/
import OneAiKey.Events
import OneAiKey.Lib.TransitionSystem
import OneAiKey.Registry

namespace OneAiKey

open Std

/-! ## §1. The state. -/

/-- A ring of the last events. -/
structure EventBuffer (α : Type) where
  capacity : Nat
  droppedEvents : Nat
  /-- The oldest first. -/
  events : List α
  deriving DecidableEq, Repr

/-- `replace_capacity`: the oldest events go, and are counted. -/
def EventBuffer.replaceCapacity {α : Type} (buffer : EventBuffer α) (capacity : Nat) :
    EventBuffer α where
  capacity := capacity
  droppedEvents := buffer.droppedEvents + (buffer.events.length - capacity)
  events := buffer.events.drop (buffer.events.length - capacity)

variable {ρ τ : Type}

/-- What a reload replaces.  `ρ` and `τ` are the events of the response filter and of the
routing telemetry, which a reload moves but does not look at. -/
structure AppState (ρ τ : Type) where
  channels : ChannelRegistrySnapshot
  runtimeCatalogs : RuntimeCatalogSnapshot
  responseFilter : ResponseFilterPolicy
  responseFilterEvents : EventBuffer ρ
  routingTelemetry : EventBuffer τ
  responseFilterAlertWindow : Duration
  managementIpAllowlist : ResolvedManagementIpAllowlist
  activeRegistryVersion : Option Nat
  /-- `REGISTRY_GENERATION_COUNTER`, which is one for the process. -/
  registryGenerationCounter : Nat

/-- A method of the state that may fail. -/
abbrev AppM (ρ τ : Type) := ExceptT String (StateM (AppState ρ τ))

/-! ## §2. What a rebuild reads. -/

/-- What a rebuild finds outside the state, and the order in which it visits the channels. -/
structure RebuildInputs where
  /-- `EventLog::read_events_from_path`. -/
  readEventsFromPath : String → Except String (List ManagementEvent)
  poolConfigs : List (String × FullPoolConfig)
  hasLifecycleSnapshotAuthority : Bool
  /-- The stored states of a set, with the clock when each is restored. -/
  loadLifecycleSnapshots : CredentialSetId →
    Except String (List (CredentialLifecycleSnapshot × Readings))
  /-- The clock when the pool of a set replays the event of a number. -/
  replayReadings : CredentialSetId → Nat → Readings

/-- The entries of the configuration, in some order. -/
def RebuildInputs.Visits (inputs : RebuildInputs) (config : FullResolvedConfig) : Prop :=
  inputs.poolConfigs.Perm (IdMap.sortedEntries config.pools)

def replayEventsFromPath (inputs : RebuildInputs) :
    Option String → Except String (List ManagementEvent)
  | some path => inputs.readEventsFromPath path
  | none => .ok []

/-! ## §3. The channels. -/

/-- What the loop over the channels has built. -/
structure BuiltPools where
  pools : TreeMap String RegistryChannel
  credentialSetRuntimes : TreeMap CredentialSetId KeyPool

/-- `PoolState::from_config`: the channel begins available. -/
def RegistryChannel.fromConfig (config : FullPoolConfig) (runtime : CredentialSetId) :
    RegistryChannel where
  toChannelRuntime := .fromPoolState (.fromConfig config.toResolvedPoolConfig runtime)
    config.configuredEnabled config.accountEnabled
  probeResultPolicy := config.probeResultPolicy
  errorClassifier := config.errorClassifier

/-- The events as the pool of a set replays them. -/
def RebuildInputs.credentialEvents (inputs : RebuildInputs) (persistedEvents : List DomainEvent)
    (credentialSetId : CredentialSetId) : List (DomainEvent × Readings) :=
  credentialEventsForStartup inputs.hasLifecycleSnapshotAuthority
    (persistedEvents.mapIdx fun i event => (event, inputs.replayReadings credentialSetId i))

/-- The pool of a channel's credential set, built for the first channel of the set. -/
def rebuildCredentialSet (inputs : RebuildInputs) (persistedEvents : List DomainEvent)
    (config : FullPoolConfig) : Except String KeyPool :=
  match inputs.loadLifecycleSnapshots config.credentialSetId with
  | .error err => .error ("credential lifecycle runtime reload failed: " ++ err)
  | .ok lifecycleSnapshots =>
      RuntimeCredentialSet.fromConfig config.toResolvedPoolConfig
        (credentialSetChannels (inputs.poolConfigs.map fun entry =>
          (entry.1, entry.2.toResolvedPoolConfig)) config.credentialSetId)
        (inputs.credentialEvents persistedEvents config.credentialSetId) lifecycleSnapshots

/-- One turn of the loop over the channels. -/
def rebuildChannel (inputs : RebuildInputs) (persistedEvents : List DomainEvent)
    (built : BuiltPools) (entry : String × FullPoolConfig) : Except String BuiltPools :=
  let setId := entry.2.credentialSetId
  let pools := built.pools.insert entry.1 (.fromConfig entry.2 setId)
  match built.credentialSetRuntimes[setId]? with
  | some _ => .ok { built with pools := pools }
  | none =>
      (rebuildCredentialSet inputs persistedEvents entry.2).map fun pool =>
        { pools := pools
          credentialSetRuntimes := built.credentialSetRuntimes.insert setId pool }

def rebuildPools (inputs : RebuildInputs) (persistedEvents : List DomainEvent) :
    Except String BuiltPools :=
  inputs.poolConfigs.foldlM (rebuildChannel inputs persistedEvents) ⟨∅, ∅⟩

/-- The health of a channel is written, if there is such a channel. -/
def setChannelHealth (pools : TreeMap String RegistryChannel) (channelId : String)
    (health : ChannelHealth) : TreeMap String RegistryChannel :=
  match pools[channelId]? with
  | some channel => pools.insert channelId { channel with health := health }
  | none => pools

/-- The loop's body of `apply_persisted_channel_events`. -/
def applyPersistedChannelEvent (pools : TreeMap String RegistryChannel) :
    DomainEvent → TreeMap String RegistryChannel
  | .channelDisabled channelId reason => setChannelHealth pools channelId (.disabled reason)
  | .channelEnabled channelId => setChannelHealth pools channelId .available
  | _ => pools

def applyPersistedChannelEvents (pools : TreeMap String RegistryChannel)
    (persistedEvents : List DomainEvent) : TreeMap String RegistryChannel :=
  persistedEvents.foldl applyPersistedChannelEvent pools

/-! ## §4. The rebuild. -/

def nextRegistryGeneration : AppM ρ τ Nat := do
  let counter := (← get).registryGenerationCounter + 1
  modify fun s => { s with registryGenerationCounter := counter }
  return counter

def rebuildRuntimeFromResolvedConfig (config : FullResolvedConfig)
    (activeRegistryVersion : Option Nat) (inputs : RebuildInputs) : AppM ρ τ Unit := do
  let events ← MonadExcept.ofExcept (replayEventsFromPath inputs config.managementEventLogPath)
  let persistedEvents := events.filterMap (·.toDomainEvent)
  let failureDomains := FailureDomainRegistry.new
    (inputs.poolConfigs.map fun entry => (entry.2.providerId, entry.2.accountId))
  let built ← MonadExcept.ofExcept (rebuildPools inputs persistedEvents)
  let pools := applyPersistedChannelEvents built.pools persistedEvents
  let registryGeneration ← nextRegistryGeneration
  modify fun s => { s with
    channels := compileChannelRegistrySnapshot registryGeneration config.defaultPool
      config.modelRoutes failureDomains pools built.credentialSetRuntimes }
  modify fun s => { s with
    runtimeCatalogs := {
      registryGeneration := registryGeneration
      policyProfiles := config.policyProfiles
      routingProfiles := config.routingProfiles
      modelGroups := modelGroupMemberships config.modelGroups
      managementProjection := inputs.poolConfigs } }
  modify fun s => { s with responseFilter := config.responseFilter.policy }
  modify fun s => { s with
    responseFilterEvents :=
      s.responseFilterEvents.replaceCapacity config.responseFilter.eventWindowCapacity }
  modify fun s => { s with
    routingTelemetry :=
      s.routingTelemetry.replaceCapacity config.routing.telemetryBufferCapacity }
  modify fun s => { s with responseFilterAlertWindow := config.responseFilter.alertWindow }
  modify fun s => { s with managementIpAllowlist := config.managementIpAllowlist }
  modify fun s => { s with activeRegistryVersion := activeRegistryVersion }

/-- What the fallible part of a rebuild yields: the channels with their pools and the
replayed healths. -/
def rebuiltChannels (config : FullResolvedConfig) (inputs : RebuildInputs) :
    Except String BuiltPools := do
  let events ← replayEventsFromPath inputs config.managementEventLogPath
  let built ← rebuildPools inputs (events.filterMap (·.toDomainEvent))
  return { built with
    pools := applyPersistedChannelEvents built.pools (events.filterMap (·.toDomainEvent)) }

/-- The state after all replacements. -/
def AppState.replaceRuntime (s : AppState ρ τ) (config : FullResolvedConfig)
    (activeRegistryVersion : Option Nat) (inputs : RebuildInputs) (built : BuiltPools) :
    AppState ρ τ where
  channels := compileChannelRegistrySnapshot (s.registryGenerationCounter + 1)
    config.defaultPool config.modelRoutes
    (FailureDomainRegistry.new
      (inputs.poolConfigs.map fun entry => (entry.2.providerId, entry.2.accountId)))
    built.pools built.credentialSetRuntimes
  runtimeCatalogs := {
    registryGeneration := s.registryGenerationCounter + 1
    policyProfiles := config.policyProfiles
    routingProfiles := config.routingProfiles
    modelGroups := modelGroupMemberships config.modelGroups
    managementProjection := inputs.poolConfigs }
  responseFilter := config.responseFilter.policy
  -- the windows keep their events, as far as the new capacity allows
  responseFilterEvents :=
    s.responseFilterEvents.replaceCapacity config.responseFilter.eventWindowCapacity
  routingTelemetry :=
    s.routingTelemetry.replaceCapacity config.routing.telemetryBufferCapacity
  responseFilterAlertWindow := config.responseFilter.alertWindow
  managementIpAllowlist := config.managementIpAllowlist
  activeRegistryVersion := activeRegistryVersion
  registryGenerationCounter := s.registryGenerationCounter + 1

theorem ofExcept_bind {α β : Type} (x : Except String α) (f : α → AppM ρ τ β)
    (s : AppState ρ τ) :
    ((MonadExcept.ofExcept x : AppM ρ τ α) >>= f) s =
      match x with
      | .error message => (.error message, s)
      | .ok a => f a s := by
  cases x with
  | error message => rfl
  | ok a => rfl

/-- Everything that may fail comes before everything that is written. -/
theorem rebuildRuntimeFromResolvedConfig_eq (config : FullResolvedConfig)
    (activeRegistryVersion : Option Nat) (inputs : RebuildInputs) (s : AppState ρ τ) :
    rebuildRuntimeFromResolvedConfig config activeRegistryVersion inputs s =
      match rebuiltChannels config inputs with
      | .error message => (.error message, s)
      | .ok built =>
          (.ok (), s.replaceRuntime config activeRegistryVersion inputs built) := by
  unfold rebuildRuntimeFromResolvedConfig rebuiltChannels
  rw [ofExcept_bind]
  cases replayEventsFromPath inputs config.managementEventLogPath with
  | error message => rfl
  | ok events =>
      dsimp only
      rw [ofExcept_bind]
      show _ = match (Except.bind (rebuildPools inputs (events.filterMap (·.toDomainEvent)))
        fun built => Except.ok { built with
          pools := applyPersistedChannelEvents built.pools
            (events.filterMap (·.toDomainEvent)) }) with
        | Except.error message => (Except.error message, s)
        | Except.ok built =>
            (Except.ok (), s.replaceRuntime config activeRegistryVersion inputs built)
      cases rebuildPools inputs (events.filterMap (·.toDomainEvent)) with
      | error message => rfl
      | ok built => rfl

/-- A failed rebuild leaves the state as it found it. -/
theorem eq_of_rebuild_error {config : FullResolvedConfig} {activeRegistryVersion : Option Nat}
    {inputs : RebuildInputs} {s s' : AppState ρ τ} {message : String}
    (h : rebuildRuntimeFromResolvedConfig config activeRegistryVersion inputs s =
      (.error message, s')) : s' = s := by
  rw [rebuildRuntimeFromResolvedConfig_eq] at h
  cases hbuilt : rebuiltChannels config inputs with
  | error message' =>
      simp only [hbuilt] at h
      exact (Prod.mk.inj h).2.symm
  | ok built =>
      simp only [hbuilt] at h
      cases (Prod.mk.inj h).1

/-- A rebuild that succeeds has built the channels, and replaced every part. -/
theorem eq_of_rebuild_ok {config : FullResolvedConfig} {activeRegistryVersion : Option Nat}
    {inputs : RebuildInputs} {s s' : AppState ρ τ}
    (h : rebuildRuntimeFromResolvedConfig config activeRegistryVersion inputs s =
      (.ok (), s')) :
    ∃ built, rebuiltChannels config inputs = .ok built ∧
      s' = s.replaceRuntime config activeRegistryVersion inputs built := by
  rw [rebuildRuntimeFromResolvedConfig_eq] at h
  cases hbuilt : rebuiltChannels config inputs with
  | error message =>
      simp only [hbuilt] at h
      cases (Prod.mk.inj h).1
  | ok built =>
      simp only [hbuilt] at h
      exact ⟨built, rfl, (Prod.mk.inj h).2.symm⟩

/-! ## §5. Sequences of reloads. -/

structure ReloadState (ρ τ : Type) where
  app : AppState ρ τ
  /-- The generation and the version of each runtime so far, the last first. -/
  installed : List (Nat × Option Nat)

inductive ReloadAttempt where
  | reload (config : FullResolvedConfig) (activeRegistryVersion : Option Nat)
      (inputs : RebuildInputs)
  /-- Anything else that the process does in between. -/
  | other

/-- The runtimes so far, after an attempt. -/
def installedAfterReload (result : Except String Unit) (app : AppState ρ τ)
    (installed : List (Nat × Option Nat)) (activeRegistryVersion : Option Nat) :
    List (Nat × Option Nat) :=
  match result with
  | .ok () => (app.channels.registryGeneration, activeRegistryVersion) :: installed
  | .error _ => installed

/-- The rest of the process keeps the generations and the version; another instance may
take a generation from the counter. -/
structure AppState.Other (s s' : AppState ρ τ) : Prop where
  channels : s'.channels.registryGeneration = s.channels.registryGeneration
  runtimeCatalogs : s'.runtimeCatalogs = s.runtimeCatalogs
  activeRegistryVersion : s'.activeRegistryVersion = s.activeRegistryVersion
  counter : s.registryGenerationCounter ≤ s'.registryGenerationCounter

def reloadsSystem (ρ τ : Type) : TransitionSystem (ReloadState ρ τ) ReloadAttempt where
  Init s := s.app.channels.registryGeneration = s.app.runtimeCatalogs.registryGeneration ∧
    s.app.channels.registryGeneration ≤ s.app.registryGenerationCounter ∧
    s.installed = [(s.app.channels.registryGeneration, s.app.activeRegistryVersion)]
  Step s attempt s' :=
    match attempt with
    | .reload config activeRegistryVersion inputs =>
        inputs.Visits config ∧ ∃ result,
          rebuildRuntimeFromResolvedConfig config activeRegistryVersion inputs s.app =
            (result, s'.app) ∧
          s'.installed = installedAfterReload result s'.app s.installed activeRegistryVersion
    | .other => s.app.Other s'.app ∧ s'.installed = s.installed

/-- The parts of the state belong together, and the counter is ahead of them. -/
structure ReloadState.Coherent (s : ReloadState ρ τ) : Prop where
  generations : s.app.channels.registryGeneration = s.app.runtimeCatalogs.registryGeneration
  counter : s.app.channels.registryGeneration ≤ s.app.registryGenerationCounter
  increasing : s.installed.Pairwise fun later earlier => earlier.1 < later.1
  current : ∃ earlier, s.installed =
    (s.app.channels.registryGeneration, s.app.activeRegistryVersion) :: earlier

theorem ReloadState.Coherent.reload {s s' : ReloadState ρ τ} (h : s.Coherent)
    {config : FullResolvedConfig} {activeRegistryVersion : Option Nat} {inputs : RebuildInputs}
    {result : Except String Unit}
    (hrebuild : rebuildRuntimeFromResolvedConfig config activeRegistryVersion inputs s.app =
      (result, s'.app))
    (hinstalled : s'.installed =
      installedAfterReload result s'.app s.installed activeRegistryVersion) : s'.Coherent := by
  cases result with
  | error message =>
      have happ := eq_of_rebuild_error hrebuild
      have hsame : s' = s := by
        cases s
        cases s'
        cases happ
        cases hinstalled
        rfl
      rw [hsame]
      exact h
  | ok _ =>
      obtain ⟨built, -, happ⟩ := eq_of_rebuild_ok hrebuild
      have hgeneration : s'.app.channels.registryGeneration =
          s.app.registryGenerationCounter + 1 := by rw [happ]; rfl
      have hversion : s'.app.activeRegistryVersion = activeRegistryVersion := by rw [happ]; rfl
      refine ⟨by rw [happ]; rfl, by rw [happ]; exact Nat.le_refl _, ?_, s.installed, ?_⟩
      · rw [hinstalled]
        refine List.pairwise_cons.mpr ⟨?_, h.increasing⟩
        -- every earlier generation is at most the one of the last runtime
        intro earlier hearlier
        obtain ⟨rest, hrest⟩ := h.current
        have hincreasing := h.increasing
        have hcounter := h.counter
        rw [hrest] at hearlier hincreasing
        show earlier.1 < s'.app.channels.registryGeneration
        rw [hgeneration]
        rcases List.mem_cons.mp hearlier with rfl | hmem
        · exact Nat.lt_succ_of_le hcounter
        · have hlt : earlier.1 < s.app.channels.registryGeneration :=
            (List.pairwise_cons.mp hincreasing).1 earlier hmem
          omega
      · rw [hinstalled, hversion]
        rfl

theorem ReloadState.Coherent.other {s s' : ReloadState ρ τ} (h : s.Coherent)
    (hother : s.app.Other s'.app) (hinstalled : s'.installed = s.installed) : s'.Coherent where
  generations := by rw [hother.channels, hother.runtimeCatalogs, h.generations]
  counter := by
    rw [hother.channels]
    exact Nat.le_trans h.counter hother.counter
  increasing := by
    rw [hinstalled]
    exact h.increasing
  current := by
    rw [hinstalled, hother.channels, hother.activeRegistryVersion]
    exact h.current

theorem ReloadState.coherent {s : ReloadState ρ τ} (h : (reloadsSystem ρ τ).Reachable s) :
    s.Coherent := by
  refine h.invariant ?_ ?_
  · intro s hinit
    obtain ⟨hgenerations, hcounter, hinstalled⟩ := hinit
    refine ⟨hgenerations, hcounter, ?_, [], hinstalled⟩
    rw [hinstalled]
    exact List.pairwise_singleton _ _
  · intro s attempt s' hs hstep
    cases attempt with
    | reload config activeRegistryVersion inputs =>
        obtain ⟨-, result, hrebuild, hinstalled⟩ := hstep
        exact hs.reload hrebuild hinstalled
    | other => exact hs.other hstep.1 hstep.2

/-- A reload that fails leaves the whole state as it was.  After any reloads the registry
and the catalogs have one generation, the generations of the runtimes so far increase, and
the generation and the version are those of the last runtime. -/
theorem reload_all_or_nothing :
    (∀ (config : FullResolvedConfig) (activeRegistryVersion : Option Nat)
        (inputs : RebuildInputs) (s s' : AppState ρ τ) (message : String),
      rebuildRuntimeFromResolvedConfig config activeRegistryVersion inputs s =
        (.error message, s') → s' = s) ∧
    ∀ s : ReloadState ρ τ, (reloadsSystem ρ τ).Reachable s →
      s.app.channels.registryGeneration = s.app.runtimeCatalogs.registryGeneration ∧
      (s.installed.Pairwise fun later earlier => earlier.1 < later.1) ∧
      s.installed.head? =
        some (s.app.channels.registryGeneration, s.app.activeRegistryVersion) := by
  constructor
  · intro config activeRegistryVersion inputs s s' message h
    exact eq_of_rebuild_error h
  · intro s h
    have hs := ReloadState.coherent h
    obtain ⟨earlier, hinstalled⟩ := hs.current
    refine ⟨hs.generations, hs.increasing, ?_⟩
    rw [hinstalled]
    rfl

/-! ## §6. A reload that fails and one that succeeds. -/

/-- An enabled channel with one key. -/
def chatChannel : FullPoolConfig where
  configGeneration := 1
  providerId := "provider:main"
  accountId := "account:main"
  credentialSetId := "keys"
  providerKind := .openAiCompatible
  routingPolicy := ⟨false, 0, true, Duration.fromSecs 20⟩
  authHeader := "authorization"
  authPrefix := "Bearer "
  keyPool := {
    name := "chat"
    credentialNamespace := "keys"
    apiBase := "https://api.example.com/v1"
    credentials := [{ secret := "sk-main", source := ⟨some "keys.txt", some 1, none⟩ }] }
  configuredEnabled := true
  providerEnabled := true
  accountConfiguredEnabled := true
  accountEnabled := true
  errorPolicySources := ⟨none, false, []⟩
  probeResultPolicy := .default
  routingProfileId := "sticky"
  routingPolicySources := ⟨"sticky"⟩
  endpointCapabilities := ProviderKind.openAiCompatible.defaultEndpointCapabilities
  errorClassifier := .default
  keyImportReport := ⟨"keys.txt", 1, 1, 1, 0, 0, 0, none, none, 1, 0, []⟩

/-- The channel `chat`, and the file of the management events. -/
def chatConfig (managementEventLogPath : Option String) : FullResolvedConfig where
  listen := ⟨"127.0.0.1:4000", true⟩
  clientTokens := []
  managementPrincipals := []
  managementIpAllowlist := .loopbackOnly
  maxRequestBodyBytes := 2097152
  maxModelCatalogBodyBytes := 524288
  maxErrorBodyBytes := 1048576
  timeoutProfile := ⟨Duration.fromSecs 10, Duration.fromSecs 300, Duration.fromSecs 120⟩
  routing := ⟨8, 64, 1024⟩
  responseFilter := ⟨⟨false, [], []⟩, 1024, Duration.fromSecs 300⟩
  managementEventLogPath := managementEventLogPath
  managementEventWindowCapacity := 1024
  credentialStorePath := none
  policyProfiles := ∅
  routingProfiles := ∅
  defaultPool := some "chat"
  pools := [⟨"chat", chatChannel⟩].toFinmap
  modelGroups := ∅
  modelRoutes := ∅

/-- No file of events can be read, and no state is stored. -/
def unreadableInputs : RebuildInputs where
  readEventsFromPath _ := .error "permission denied"
  poolConfigs := [("chat", chatChannel)]
  hasLifecycleSnapshotAuthority := false
  loadLifecycleSnapshots _ := .ok []
  replayReadings _ _ := .at' 0

/-- A process without channels, before its first reload. -/
def emptyApp : AppState String String where
  channels := compileChannelRegistrySnapshot 1 none ∅ (.new []) ∅ ∅
  runtimeCatalogs := ⟨1, ∅, ∅, ∅, []⟩
  responseFilter := ⟨false, [], []⟩
  responseFilterEvents := ⟨1024, 0, []⟩
  routingTelemetry := ⟨1024, 0, []⟩
  responseFilterAlertWindow := Duration.fromSecs 300
  managementIpAllowlist := .loopbackOnly
  activeRegistryVersion := some 1
  registryGenerationCounter := 1

/-- A reload whose event log cannot be read, and then one that has none. -/
theorem reload_all_or_nothing_twice :
    (rebuildRuntimeFromResolvedConfig (chatConfig (some "events.jsonl")) (some 2)
      unreadableInputs emptyApp).2 = emptyApp ∧
    ∃ s : ReloadState String String, (reloadsSystem String String).Reachable s ∧
      s.app.channels.registryGeneration = 2 ∧ s.app.runtimeCatalogs.registryGeneration = 2 ∧
      (s.installed.Pairwise fun later earlier => earlier.1 < later.1) ∧
      s.installed = [(2, some 3), (1, some 1)] := by
  have hvisits : ∀ path, unreadableInputs.Visits (chatConfig path) :=
    fun _ => .refl _
  have hfailed : (reloadsSystem String String).Step ⟨emptyApp, [(1, some 1)]⟩
      (.reload (chatConfig (some "events.jsonl")) (some 2) unreadableInputs)
      ⟨emptyApp, [(1, some 1)]⟩ := ⟨hvisits _, .error "permission denied", rfl, rfl⟩
  have hreachable : (reloadsSystem String String).Reachable
      ⟨(rebuildRuntimeFromResolvedConfig (chatConfig none) (some 3)
        unreadableInputs emptyApp).2, [(2, some 3), (1, some 1)]⟩ := by
    refine ⟨⟨emptyApp, [(1, some 1)]⟩,
      [.reload (chatConfig (some "events.jsonl")) (some 2) unreadableInputs,
        .reload (chatConfig none) (some 3) unreadableInputs],
      ⟨rfl, Nat.le_refl _, rfl⟩, ?_⟩
    exact .cons hfailed (.cons ⟨hvisits _, .ok (), rfl, rfl⟩ (.nil _))
  obtain ⟨hgenerations, hincreasing, -⟩ := reload_all_or_nothing.2 _ hreachable
  exact ⟨reload_all_or_nothing.1 (chatConfig (some "events.jsonl")) (some 2)
      unreadableInputs emptyApp _ "permission denied" rfl,
    _, hreachable, rfl, hgenerations.symm, hincreasing, rfl⟩

end OneAiKey
