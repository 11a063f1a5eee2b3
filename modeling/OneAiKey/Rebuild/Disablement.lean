/-
  OneAiKey.Rebuild.Disablement — the channels that an operator has disabled,
  across reloads (`src/management_resources.rs`, `src/state.rs`).

  A command finds its channel, waits for the gates of that channel, appends its
  event to the log and then writes the health of the channel it has found.  A
  reload reads the events of the file that the new configuration names, builds
  every channel anew, available, replays the events and replaces the registry.
  It takes no gate of a channel:

    reload     read ──────────────────────────── replace
    command           find ── append ── write
    command                     find ─────────────────── append ── write

  The first command is not in what the reload has read; the second one writes to
  a channel that is not in the registry any more.  The log of the process goes on
  with the file that it opened at startup, if any.

  `lastCommand` is for the statements only.

  Main results:
    * `get_applyPersistedChannelEvents` — what a replay does to one channel;
    * `disablement_survives` — what an operator has disabled stays so while the
      reloads read the last word on it, and the commands find it where it runs.
-/
import OneAiKey.ChannelHealth.Generations
import OneAiKey.Forward
import OneAiKey.Rebuild

namespace OneAiKey

open Std

variable {ρ τ : Type}

/-! ## §1. The system. -/

inductive ChannelCommand where
  | disable (reason : String)
  | enable
  deriving DecidableEq, Repr

namespace ChannelCommand

def eventKind : ChannelCommand → String
  | disable _ => "channel_disabled"
  | enable => "channel_enabled"

def health : ChannelCommand → ChannelHealth
  | disable reason => .disabled reason
  | enable => .available

end ChannelCommand

/-- A command that has found its channel, and has not been answered. -/
structure PendingCommand where
  channelId : String
  command : ChannelCommand
  actor : ManagementEventActor
  /-- The runtime in which it has found the channel. -/
  runtime : Nat
  /-- Its event is appended, and it is about to write the health. -/
  appended : Bool
  deriving DecidableEq, Repr

/-- A reload that has read the events.  The rest of what it reads is in its inputs. -/
structure RebuildAttempt where
  config : FullResolvedConfig
  activeRegistryVersion : Option Nat
  inputs : RebuildInputs

structure DisablementState (ρ τ : Type) where
  app : AppState ρ τ
  /-- How often the runtime has been replaced. -/
  runtime : Nat
  events : EventLogFile
  /-- The file that the log was opened with. -/
  eventLogPath : Option String
  pending : List PendingCommand
  /-- There is one at a time: `registry_mutation_lock`. -/
  reload : Option RebuildAttempt
  /-- The last accepted command on each channel. -/
  lastCommand : String → Option ChannelCommand

inductive DisablementEvent where
  | start (channelId : String) (command : ChannelCommand) (actor : ManagementEventActor)
  | append (index createdAtUnixSeconds : Nat) (fault : Option AppendFault)
  | write (index : Nat)
  /-- The end of a reset, behind its event. -/
  | resetHealth (channelId : String)
  /-- A request reports a failure. -/
  | report (channelId : String) (state : MutationState) (snapshot : RequestSelectionSnapshot)
      (r : Readings) (mutation : StateMutation)
  | success (channelId : String)
  /-- Anything else that is recorded, the event of a reset included. -/
  | audit (audit : ManagementAuditEvent) (createdAtUnixSeconds : Nat)
      (fault : Option AppendFault)
  | readEvents (config : FullResolvedConfig) (activeRegistryVersion : Option Nat)
      (inputs : RebuildInputs)
  | replaceRuntime

/-- The state of a channel is written in the running registry. -/
def AppState.setChannel (s : AppState ρ τ) (channelId : String) (channel : RegistryChannel) :
    AppState ρ τ :=
  { s with channels := { s.channels with
      channels := s.channels.channels.insert channelId channel } }

namespace DisablementState

variable (s : DisablementState ρ τ)

/-- `disable_channel_resource` and `enable_channel_resource`, up to the gates. -/
def start (channelId : String) (command : ChannelCommand) (actor : ManagementEventActor) :
    DisablementState ρ τ :=
  match s.app.channels.get channelId with
  | none => s
  | some _ =>
      { s with pending := s.pending ++ [⟨channelId, command, actor, s.runtime, false⟩] }

/-- The gates let one command of a channel at a time go on. -/
def HoldsGate (command : PendingCommand) : Prop :=
  ∀ other ∈ s.pending, other.appended = true → other.channelId = command.channelId →
    other.runtime ≠ command.runtime

/-- `pending.append()?`: a command whose event could not be appended is refused. -/
def append (index : Nat) (command : PendingCommand) (createdAtUnixSeconds : Nat)
    (fault : Option AppendFault) : DisablementState ρ τ :=
  match s.events.recordAuditEventNow
      (eventAudit command.command.eventKind command.channelId "" (some command.actor))
      createdAtUnixSeconds fault with
  | (events, .error _) => { s with events, pending := s.pending.eraseIdx index }
  | (events, .ok ()) =>
      { s with events, pending := s.pending.set index { command with appended := true } }

/-- The health that a command writes is seen if it has found its channel in the runtime that
is the current one. -/
def appAfterWrite (command : PendingCommand) : AppState ρ τ :=
  if command.runtime = s.runtime then
    match s.app.channels.get command.channelId with
    | none => s.app
    | some channel =>
        s.app.setChannel command.channelId { channel with
          health := command.command.health
          channelHealthGeneration := channel.channelHealthGeneration + 1 }
  else s.app

/-- The end of a command: it is accepted. -/
def write (index : Nat) (command : PendingCommand) : DisablementState ρ τ :=
  { s with
    app := s.appAfterWrite command
    pending := s.pending.eraseIdx index
    lastCommand := Function.update s.lastCommand command.channelId (some command.command) }

/-- `reset_channel_health_status`, behind its event: a disabled channel is left alone. -/
def resetHealth (channelId : String) : DisablementState ρ τ :=
  match s.app.channels.get channelId with
  | none => s
  | some channel =>
      if channel.health.isDisabled then s
      else
        { s with
          app := s.app.setChannel channelId { channel with
            health := .available
            relaySuppressionCount := 0
            channelHealthGeneration := channel.channelHealthGeneration + 1 } }

/-- What the file of the log reads as, when a configuration names it. -/
def Reads (inputs : RebuildInputs) : Prop :=
  ∀ path events, s.eventLogPath = some path → inputs.readEventsFromPath path = .ok events →
    events = s.events.recorded

/-- The rest of `rebuild_runtime_from_resolved_config`. -/
def replaceRuntime (attempt : RebuildAttempt) : DisablementState ρ τ :=
  match rebuildRuntimeFromResolvedConfig attempt.config attempt.activeRegistryVersion
      attempt.inputs s.app with
  | (.error _, app) => { s with app, reload := none }
  | (.ok (), app) => { s with app, runtime := s.runtime + 1, reload := none }

/-- One step.  What is done to the channels of an earlier runtime does not show. -/
def Step (event : DisablementEvent) (s' : DisablementState ρ τ) : Prop :=
  match event with
  | .start channelId command actor => s' = s.start channelId command actor
  | .append index createdAtUnixSeconds fault =>
      ∃ command, s.pending[index]? = some command ∧ command.appended = false ∧
        s.HoldsGate command ∧ s' = s.append index command createdAtUnixSeconds fault
  | .write index =>
      ∃ command, s.pending[index]? = some command ∧ command.appended = true ∧
        s' = s.write index command
  | .resetHealth channelId => s' = s.resetHealth channelId
  | .report channelId state snapshot r mutation =>
      ∃ channel, s.app.channels.get channelId = some channel ∧
        state.channel = channel.toChannelRuntime ∧
        state.failureDomains = s.app.channels.failureDomains ∧
        s.app.channels.credentialSetRuntimes[channel.poolState.pool]? = some state.pool ∧
        let after := applyStateMutation state snapshot r mutation
        s' = { s with app := { s.app with channels := { s.app.channels with
          channels := s.app.channels.channels.insert channelId
            { channel with toChannelRuntime := after.channel }
          failureDomains := after.failureDomains
          credentialSetRuntimes := s.app.channels.credentialSetRuntimes.insert
            channel.poolState.pool after.pool } } }
  | .success channelId =>
      ∃ channel, s.app.channels.get channelId = some channel ∧
        s' = { s with app := { s.app with channels := { s.app.channels with
          channels := s.app.channels.channels.insert channelId
            { channel with toChannelRuntime := channel.recordSelectedChannelSuccess }
          failureDomains := s.app.channels.failureDomains.recordSuccess
            channel.poolState.providerId channel.poolState.accountId } } }
  | .audit audit createdAtUnixSeconds fault =>
      audit.kind ≠ "channel_disabled" ∧ audit.kind ≠ "channel_enabled" ∧
        s' = { s with
          events := (s.events.recordAuditEventNow audit createdAtUnixSeconds fault).1 }
  | .readEvents config activeRegistryVersion inputs =>
      s.reload = none ∧ inputs.Visits config ∧ s.Reads inputs ∧
        s' = { s with reload := some ⟨config, activeRegistryVersion, inputs⟩ }
  | .replaceRuntime => ∃ attempt, s.reload = some attempt ∧ s' = s.replaceRuntime attempt

end DisablementState

/-- A channel whose last accepted command was to disable it is disabled, as often as its
route state is read. -/
def DisablementState.KeepsCommands (s : DisablementState ρ τ) : Prop :=
  ∀ channelId reason channel, s.lastCommand channelId = some (.disable reason) →
    s.app.channels.get channelId = some channel →
    channel.health.isDisabled = true ∧
      ∀ observation, s.app.channels.routeState observation channelId = .disabled

def DomainEvent.AboutChannel (channelId : String) : DomainEvent → Prop
  | channelDisabled id _ | channelEnabled id => id = channelId
  | _ => False

/-- The last of the events that is about the channel disables it. -/
def LastWordDisabled (events : List DomainEvent) (channelId : String) : Prop :=
  ∃ before reason after, events = before ++ .channelDisabled channelId reason :: after ∧
    ∀ event ∈ after, ¬ event.AboutChannel channelId

/-- The events that a reload has read have the last word of the operator on each channel that
it configures, as the operator has given it up to the replacement; and a disablement is not
written to a channel of an earlier runtime, unless the one that runs is disabled or gone. -/
def KeepsDisabled (s : DisablementState ρ τ) (event : DisablementEvent) : Prop :=
  match event with
  | .replaceRuntime =>
      ∀ attempt channelId reason events, s.reload = some attempt →
        s.lastCommand channelId = some (.disable reason) → channelId ∈ attempt.config.pools →
        replayEventsFromPath attempt.inputs attempt.config.managementEventLogPath =
          .ok events →
        LastWordDisabled (events.filterMap (·.toDomainEvent)) channelId
  | .write index =>
      ∀ command reason channel, s.pending[index]? = some command →
        command.command = .disable reason → command.runtime ≠ s.runtime →
        s.app.channels.get command.channelId = some channel → channel.health.isDisabled = true
  | _ => True

/-! ## §3. What a replay does to one channel. -/

/-- The health of a channel after an event. -/
def replayHealth (channelId : String) (health : ChannelHealth) : DomainEvent → ChannelHealth
  | .channelDisabled id reason => if id = channelId then .disabled reason else health
  | .channelEnabled id => if id = channelId then .available else health
  | _ => health

theorem getElem?_insert_channel {α : Type} (pools : TreeMap String α) (id channelId : String)
    (channel : α) : (pools.insert id channel)[channelId]? =
      if id = channelId then some channel else pools[channelId]? := by
  rw [TreeMap.getElem?_insert]
  by_cases hid : id = channelId
  · rw [if_pos hid, if_pos (Std.compare_eq_iff_eq.mpr hid)]
  · rw [if_neg hid, if_neg (fun h => hid (Std.compare_eq_iff_eq.mp h))]

theorem get_setChannelHealth (pools : TreeMap String RegistryChannel) (id channelId : String)
    (health : ChannelHealth) :
    (setChannelHealth pools id health)[channelId]? =
      pools[channelId]?.map fun channel =>
        { channel with health := if id = channelId then health else channel.health } := by
  unfold setChannelHealth
  cases hfound : pools[id]? with
  | none =>
      by_cases hid : id = channelId
      · rw [← hid, hfound]
        rfl
      · simp [hid]
  | some channel =>
      show (pools.insert id _)[channelId]? = _
      rw [getElem?_insert_channel]
      by_cases hid : id = channelId
      · rw [if_pos hid, ← hid, hfound]
        simp
      · simp [hid]

theorem get_applyPersistedChannelEvent (pools : TreeMap String RegistryChannel)
    (event : DomainEvent) (channelId : String) :
    (applyPersistedChannelEvent pools event)[channelId]? =
      pools[channelId]?.map fun channel =>
        { channel with health := replayHealth channelId channel.health event } := by
  cases event with
  | channelDisabled id reason => exact get_setChannelHealth pools id channelId _
  | channelEnabled id => exact get_setChannelHealth pools id channelId _
  | _ => simp [applyPersistedChannelEvent, replayHealth]

/-- A replay writes the health of a channel, one event after the other, and nothing else. -/
theorem get_applyPersistedChannelEvents (pools : TreeMap String RegistryChannel)
    (events : List DomainEvent) (channelId : String) :
    (applyPersistedChannelEvents pools events)[channelId]? =
      pools[channelId]?.map fun channel =>
        { channel with health := events.foldl (replayHealth channelId) channel.health } := by
  induction events generalizing pools with
  | nil => simp [applyPersistedChannelEvents]
  | cons event events ih =>
      show (applyPersistedChannelEvents (applyPersistedChannelEvent pools event)
        events)[channelId]? = _
      rw [ih, get_applyPersistedChannelEvent, Option.map_map]
      rfl

/-- An event that is not about the channel leaves its health. -/
theorem replayHealth_of_notAbout {channelId : String} {event : DomainEvent}
    (h : ¬ event.AboutChannel channelId) (health : ChannelHealth) :
    replayHealth channelId health event = health := by
  cases event with
  | channelDisabled id reason => exact if_neg h
  | channelEnabled id => exact if_neg h
  | _ => rfl

/-- Events about other channels leave the health of a channel as it is. -/
theorem foldl_replayHealth_of_notAbout {channelId : String} {events : List DomainEvent}
    (h : ∀ event ∈ events, ¬ event.AboutChannel channelId) (health : ChannelHealth) :
    events.foldl (replayHealth channelId) health = health := by
  induction events generalizing health with
  | nil => rfl
  | cons event events ih =>
      rw [List.foldl_cons, replayHealth_of_notAbout (h event List.mem_cons_self)]
      exact ih (fun e he => h e (List.mem_cons_of_mem _ he)) health

/-- A replay whose last word on a channel disables it leaves it disabled. -/
theorem LastWordDisabled.replayed {events : List DomainEvent} {channelId : String}
    (h : LastWordDisabled events channelId) (health : ChannelHealth) :
    (events.foldl (replayHealth channelId) health).isDisabled = true := by
  obtain ⟨before, reason, after, rfl, hafter⟩ := h
  rw [List.foldl_append, List.foldl_cons, foldl_replayHealth_of_notAbout hafter]
  simp [replayHealth, ChannelHealth.isDisabled]

/-- One turn of the loop writes the channel of its entry. -/
theorem pools_rebuildChannel {inputs : RebuildInputs} {persistedEvents : List DomainEvent}
    {start next : BuiltPools} {entry : String × FullPoolConfig}
    (h : rebuildChannel inputs persistedEvents start entry = .ok next) :
    next.pools = start.pools.insert entry.1 (.fromConfig entry.2 entry.2.credentialSetId) := by
  unfold rebuildChannel at h
  dsimp only at h
  split at h
  · cases h
    rfl
  · cases hpool : rebuildCredentialSet inputs persistedEvents entry.2 with
    | error message =>
        rw [hpool] at h
        cases h
    | ok pool =>
        rw [hpool] at h
        cases h
        rfl

/-- The channel of an id is made of the entry of that id. -/
theorem get_rebuildPools {inputs : RebuildInputs} {persistedEvents : List DomainEvent}
    {built : BuiltPools} (hnodup : (inputs.poolConfigs.map Prod.fst).Nodup)
    (h : rebuildPools inputs persistedEvents = .ok built) :
    (∀ entry ∈ inputs.poolConfigs, built.pools[entry.1]? =
      some (.fromConfig entry.2 entry.2.credentialSetId)) ∧
    ∀ channelId, channelId ∉ inputs.poolConfigs.map Prod.fst →
      built.pools[channelId]? = none := by
  unfold rebuildPools at h
  -- an entry writes its own channel, and the entries after it write others
  have hloop : ∀ (entries : List (String × FullPoolConfig)) (start : BuiltPools),
      (entries.map Prod.fst).Nodup →
      entries.foldlM (rebuildChannel inputs persistedEvents) start = .ok built →
      (∀ entry ∈ entries, built.pools[entry.1]? =
        some (.fromConfig entry.2 entry.2.credentialSetId)) ∧
      ∀ channelId, channelId ∉ entries.map Prod.fst →
        built.pools[channelId]? = start.pools[channelId]? := by
    intro entries
    induction entries with
    | nil =>
        intro start _ hstart
        obtain rfl := Except.ok.inj hstart
        refine ⟨?_, fun _ _ => rfl⟩
        intro entry hmem
        cases hmem
    | cons entry entries ih =>
        intro start hnodup hstart
        obtain ⟨next, hnext, hrest⟩ := Collect.bind_eq_ok.mp hstart
        rw [List.map_cons, List.nodup_cons] at hnodup
        obtain ⟨hnamed, hothers⟩ := ih next hnodup.2 hrest
        have hpools := pools_rebuildChannel hnext
        constructor
        · intro other hmem
          rcases List.mem_cons.mp hmem with rfl | hmem
          · rw [hothers _ hnodup.1, hpools, getElem?_insert_channel, if_pos rfl]
          · exact hnamed other hmem
        · intro channelId hnot
          rw [List.map_cons, List.mem_cons, not_or] at hnot
          rw [hothers channelId hnot.2, hpools, getElem?_insert_channel,
            if_neg fun heq => hnot.1 heq.symm]
  obtain ⟨hnamed, hothers⟩ := hloop _ _ hnodup h
  refine ⟨hnamed, fun channelId hnot => ?_⟩
  rw [hothers channelId hnot]
  rfl

/-- The channels of a rebuild are those of the configuration, but for their healths. -/
theorem get_rebuiltChannels {config : FullResolvedConfig} {inputs : RebuildInputs}
    (hvisits : inputs.Visits config) {built : BuiltPools}
    (h : rebuiltChannels config inputs = .ok built) (channelId : String) :
    ∃ events, replayEventsFromPath inputs config.managementEventLogPath = .ok events ∧
      built.pools[channelId]? = (config.pools.lookup channelId).map fun pool =>
        { RegistryChannel.fromConfig pool pool.credentialSetId with
          health := (events.filterMap (·.toDomainEvent)).foldl (replayHealth channelId)
            .available } := by
  obtain ⟨events, hevents, hrest⟩ := Collect.bind_eq_ok.mp h
  obtain ⟨fresh, hfresh, hbuilt⟩ := Collect.bind_eq_ok.mp hrest
  cases hbuilt
  refine ⟨events, hevents, ?_⟩
  -- every channel is visited once
  have hnodup : (inputs.poolConfigs.map Prod.fst).Nodup := by
    rw [(hvisits.map Prod.fst).nodup_iff, IdMap.map_fst_sortedEntries]
    exact IdMap.nodup_sortedKeys config.pools
  obtain ⟨hnamed, hothers⟩ := get_rebuildPools hnodup hfresh
  rw [get_applyPersistedChannelEvents]
  cases hlookup : config.pools.lookup channelId with
  | none =>
      rw [hothers channelId]
      · rfl
      · intro hmem
        obtain ⟨entry, hentry, rfl⟩ := List.mem_map.mp hmem
        rw [IdMap.mem_sortedEntries.mp (hvisits.mem_iff.mp hentry)] at hlookup
        cases hlookup
  | some pool =>
      have hmem : (channelId, pool) ∈ inputs.poolConfigs :=
        hvisits.mem_iff.mpr (IdMap.mem_sortedEntries.mpr hlookup)
      rw [hnamed _ hmem]
      rfl

/-- The channels of a rebuild are those of the configuration; one on which the replayed
events have the last word is disabled. -/
theorem disabled_of_rebuilt {config : FullResolvedConfig} {inputs : RebuildInputs}
    (hvisits : inputs.Visits config) {built : BuiltPools}
    (h : rebuiltChannels config inputs = .ok built) {channelId : String}
    (hlast : ∀ events, channelId ∈ config.pools →
      replayEventsFromPath inputs config.managementEventLogPath = .ok events →
      LastWordDisabled (events.filterMap (·.toDomainEvent)) channelId)
    {channel : RegistryChannel} (hfound : built.pools[channelId]? = some channel) :
    channel.health.isDisabled = true := by
  obtain ⟨events, hevents, hget⟩ := get_rebuiltChannels hvisits h channelId
  rw [hget] at hfound
  obtain ⟨pool, hlookup, rfl⟩ := Option.map_eq_some_iff.mp hfound
  exact (hlast events (Finmap.mem_iff.mpr ⟨pool, hlookup⟩) hevents).replayed _

/-! ## §4. One step. -/

/-- A disabled channel is disabled however it is read. -/
theorem routeStateForPool_disabled {channel : ChannelRuntime}
    (h : channel.health.isDisabled = true) (pool : Option KeyPool)
    (failureDomains : FailureDomainRegistry) (r : RouteReadings) :
    routeStateForPool channel pool failureDomains r = .disabled := by
  have hhard : ∀ state, hardRouteState channel state r.channel = some .disabled := by
    intro state
    unfold hardRouteState
    cases hhealth : channel.health with
    | disabled reason => cases channel.configuredEnabled <;> cases channel.accountEnabled <;> rfl
    | _ =>
        rw [hhealth] at h
        cases h
  unfold routeStateForPool routeStateFromDomain
  simp only [hhard]

/-- Only the healths have to be looked at. -/
theorem DisablementState.keepsCommands_of_disabled {s : DisablementState ρ τ}
    (h : ∀ channelId reason channel, s.lastCommand channelId = some (.disable reason) →
      s.app.channels.get channelId = some channel → channel.health.isDisabled = true) :
    s.KeepsCommands := by
  intro channelId reason channel hlast hfound
  refine ⟨h channelId reason channel hlast hfound, ?_⟩
  intro observation
  unfold ChannelRegistrySnapshot.routeState
  rw [hfound]
  exact routeStateForPool_disabled (h channelId reason channel hlast hfound) _ _ _

/-- A channel is written: the others are as they were. -/
theorem DisablementState.KeepsCommands.setChannel {s s' : DisablementState ρ τ}
    (h : s.KeepsCommands) (id : String) {written : RegistryChannel}
    (hchannels : s'.app.channels.channels = s.app.channels.channels.insert id written)
    (hlast : ∀ channelId, channelId ≠ id → s'.lastCommand channelId = s.lastCommand channelId)
    (hwritten : ∀ reason, s'.lastCommand id = some (.disable reason) →
      written.health.isDisabled = true) : s'.KeepsCommands := by
  apply keepsCommands_of_disabled
  intro channelId reason channel hcommand hfound
  unfold ChannelRegistrySnapshot.get at hfound
  rw [hchannels, getElem?_insert_channel] at hfound
  by_cases hid : id = channelId
  · rw [if_pos hid] at hfound
    cases hfound
    rw [← hid] at hcommand
    exact hwritten reason hcommand
  · rw [if_neg hid] at hfound
    rw [hlast channelId (Ne.symm hid)] at hcommand
    exact (h channelId reason channel hcommand hfound).1

theorem DisablementState.KeepsCommands.of_eq {s s' : DisablementState ρ τ}
    (h : s.KeepsCommands) (happ : s'.app = s.app) (hlast : s'.lastCommand = s.lastCommand) :
    s'.KeepsCommands := by
  intro channelId reason channel hcommand hfound
  rw [hlast] at hcommand
  rw [happ] at hfound ⊢
  exact h channelId reason channel hcommand hfound

/-- A command that starts takes nothing back. -/
theorem DisablementState.KeepsCommands.start {s : DisablementState ρ τ} (h : s.KeepsCommands)
    (channelId : String) (command : ChannelCommand) (actor : ManagementEventActor) :
    (s.start channelId command actor).KeepsCommands := by
  unfold DisablementState.start
  cases s.app.channels.get channelId with
  | none => exact h
  | some channel => exact h.of_eq rfl rfl

/-- The record of a command takes nothing back, whether it is written or not. -/
theorem DisablementState.KeepsCommands.append {s : DisablementState ρ τ} (h : s.KeepsCommands)
    (index : Nat) (command : PendingCommand) (createdAtUnixSeconds : Nat)
    (fault : Option AppendFault) :
    (s.append index command createdAtUnixSeconds fault).KeepsCommands := by
  unfold DisablementState.append
  split <;> exact h.of_eq rfl rfl

/-- The channel of a command that is accepted, in the registry that runs. -/
theorem DisablementState.get_write (s : DisablementState ρ τ) (index : Nat)
    (command : PendingCommand) (channelId : String) :
    (s.write index command).app.channels.get channelId =
      if command.channelId = channelId ∧ command.runtime = s.runtime then
        (s.app.channels.get channelId).map fun channel =>
          { channel with
            health := command.command.health
            channelHealthGeneration := channel.channelHealthGeneration + 1 }
      else s.app.channels.get channelId := by
  show (s.appAfterWrite command).channels.get channelId = _
  unfold appAfterWrite
  by_cases hruntime : command.runtime = s.runtime
  · rw [if_pos hruntime]
    cases hfound : s.app.channels.get command.channelId with
    | none =>
        by_cases hid : command.channelId = channelId
        · rw [if_pos ⟨hid, hruntime⟩, ← hid, hfound]
          rfl
        · rw [if_neg fun h => hid h.1]
    | some channel =>
        show (s.app.channels.channels.insert command.channelId _)[channelId]? = _
        rw [getElem?_insert_channel]
        by_cases hid : command.channelId = channelId
        · rw [if_pos hid, if_pos ⟨hid, hruntime⟩, ← hid, hfound]
          rfl
        · rw [if_neg hid, if_neg fun h => hid h.1]
          rfl
  · rw [if_neg hruntime, if_neg fun h => hruntime h.2]

/-- A command that is carried out is the last one of its channel. -/
theorem DisablementState.KeepsCommands.write {s : DisablementState ρ τ} (h : s.KeepsCommands)
    {index : Nat} {command : PendingCommand} (hpending : s.pending[index]? = some command)
    (hkeeps : KeepsDisabled s (.write index)) : (s.write index command).KeepsCommands := by
  apply keepsCommands_of_disabled
  intro channelId reason channel hlast hfound
  rw [s.get_write] at hfound
  by_cases hid : command.channelId = channelId
  · -- the command that was accepted is the disable
    have hcommand : command.command = .disable reason := by
      apply Option.some.inj
      rw [← hlast, ← hid]
      exact (Function.update_self command.channelId (some command.command) s.lastCommand).symm
    -- the channel that is written runs, or it belongs to an earlier runtime
    by_cases hruntime : command.runtime = s.runtime
    · rw [if_pos ⟨hid, hruntime⟩] at hfound
      obtain ⟨before, -, rfl⟩ := Option.map_eq_some_iff.mp hfound
      show command.command.health.isDisabled = true
      rw [hcommand]
      rfl
    · rw [if_neg fun h => hruntime h.2, ← hid] at hfound
      exact hkeeps command reason channel hpending hcommand hruntime hfound
  · rw [if_neg fun h => hid h.1] at hfound
    have hother : s.lastCommand channelId = some (.disable reason) := by
      rw [← hlast]
      exact (Function.update_of_ne (Ne.symm hid) _ _).symm
    exact (h channelId reason channel hother hfound).1

/-- A reset of a health takes nothing back: a disabled channel stays so. -/
theorem DisablementState.KeepsCommands.resetHealth {s : DisablementState ρ τ}
    (h : s.KeepsCommands) (channelId : String) : (s.resetHealth channelId).KeepsCommands := by
  unfold DisablementState.resetHealth
  cases hfound : s.app.channels.get channelId with
  | none => exact h
  | some channel =>
      dsimp only
      split
      · exact h
      · next henabled =>
          refine h.setChannel channelId rfl (fun _ _ => rfl) ?_
          intro reason hlast
          exact absurd (h channelId reason channel hlast hfound).1 henabled

/-- A rebuilt channel is as the events that were read leave it. -/
theorem DisablementState.KeepsCommands.replaceRuntime {s : DisablementState ρ τ}
    (h : s.KeepsCommands) {attempt : RebuildAttempt} (hreload : s.reload = some attempt)
    (hvisits : attempt.inputs.Visits attempt.config)
    (hkeeps : KeepsDisabled s .replaceRuntime) : (s.replaceRuntime attempt).KeepsCommands := by
  unfold DisablementState.replaceRuntime
  rw [rebuildRuntimeFromResolvedConfig_eq]
  cases hbuilt : rebuiltChannels attempt.config attempt.inputs with
  | error message => exact h.of_eq rfl rfl
  | ok built =>
      apply keepsCommands_of_disabled
      intro channelId reason channel hlast hfound
      exact disabled_of_rebuilt hvisits hbuilt
        (hkeeps attempt channelId reason · hreload hlast) hfound

/-- A report leaves a disabled channel as it is. -/
theorem health_applyStateMutation_of_disabled (s : MutationState)
    (snapshot : RequestSelectionSnapshot) (r : Readings) (mutation : StateMutation)
    (h : s.channel.health.isDisabled = true) :
    (applyStateMutation s snapshot r mutation).channel.health.isDisabled = true := by
  rcases health_applyStateMutation s snapshot r mutation with ⟨hsame, -⟩ | ⟨henabled, -⟩
  · rw [hsame]
    exact h
  · rw [henabled] at h
    cases h

/-- The inputs of a reload visit the channels of its configuration. -/
def DisablementState.Visiting (s : DisablementState ρ τ) : Prop :=
  ∀ attempt, s.reload = some attempt → attempt.inputs.Visits attempt.config

theorem DisablementState.reload_append (s : DisablementState ρ τ) (index : Nat)
    (command : PendingCommand) (createdAtUnixSeconds : Nat) (fault : Option AppendFault) :
    (s.append index command createdAtUnixSeconds fault).reload = s.reload := by
  unfold append
  split <;> rfl

theorem DisablementState.reload_start (s : DisablementState ρ τ) (channelId : String)
    (command : ChannelCommand) (actor : ManagementEventActor) :
    (s.start channelId command actor).reload = s.reload := by
  unfold start
  split <;> rfl

theorem DisablementState.reload_resetHealth (s : DisablementState ρ τ) (channelId : String) :
    (s.resetHealth channelId).reload = s.reload := by
  unfold resetHealth
  split
  · rfl
  · split <;> rfl

theorem DisablementState.reload_replaceRuntime (s : DisablementState ρ τ)
    (attempt : RebuildAttempt) : (s.replaceRuntime attempt).reload = none := by
  unfold replaceRuntime
  split <;> rfl

/-- Every event leaves the inputs of a reload those of its configuration. -/
theorem DisablementState.Visiting.step {s s' : DisablementState ρ τ} (h : s.Visiting)
    {event : DisablementEvent} (hstep : s.Step event s') : s'.Visiting := by
  unfold DisablementState.Visiting
  cases event with
  | start channelId command actor =>
      rw [show s' = _ from hstep, s.reload_start]
      exact h
  | append index createdAtUnixSeconds fault =>
      obtain ⟨command, -, -, -, rfl⟩ := hstep
      rw [s.reload_append]
      exact h
  | write index =>
      obtain ⟨command, -, -, rfl⟩ := hstep
      exact h
  | resetHealth channelId =>
      rw [show s' = _ from hstep, s.reload_resetHealth]
      exact h
  | report channelId state snapshot r mutation =>
      obtain ⟨channel, -, -, -, -, rfl⟩ := hstep
      exact h
  | success channelId =>
      obtain ⟨channel, -, rfl⟩ := hstep
      exact h
  | audit audit createdAtUnixSeconds fault =>
      obtain ⟨-, -, rfl⟩ := hstep
      exact h
  -- only this step begins a reload, and it visits the configuration in some order
  | readEvents config activeRegistryVersion inputs =>
      obtain ⟨-, hvisits, -, rfl⟩ := hstep
      intro attempt hattempt
      obtain rfl := Option.some.inj hattempt
      exact hvisits
  | replaceRuntime =>
      obtain ⟨attempt, -, rfl⟩ := hstep
      rw [s.reload_replaceRuntime]
      nofun

/-- Every event that meets the condition leaves the last command of every channel in force. -/
theorem DisablementState.KeepsCommands.step {s s' : DisablementState ρ τ}
    (h : s.KeepsCommands) (hvisiting : s.Visiting) {event : DisablementEvent}
    (hstep : s.Step event s') (hkeeps : KeepsDisabled s event) : s'.KeepsCommands := by
  -- one event, one lemma; only an operator's command ends a disablement
  cases event with
  | start channelId command actor =>
      rw [show s' = _ from hstep]
      exact h.start channelId command actor
  | append index createdAtUnixSeconds fault =>
      obtain ⟨command, -, -, -, rfl⟩ := hstep
      exact h.append index command createdAtUnixSeconds fault
  | write index =>
      obtain ⟨command, hpending, -, rfl⟩ := hstep
      exact h.write hpending hkeeps
  | resetHealth channelId =>
      rw [show s' = _ from hstep]
      exact h.resetHealth channelId
  | audit audit createdAtUnixSeconds fault =>
      obtain ⟨-, -, rfl⟩ := hstep
      exact h.of_eq rfl rfl
  | report channelId state snapshot r mutation =>
      obtain ⟨channel, hfound, hchannel, -, -, rfl⟩ := hstep
      refine h.setChannel channelId rfl (fun _ _ => rfl) ?_
      intro reason hlast
      have hdisabled := (h channelId reason channel hlast hfound).1
      show (applyStateMutation state snapshot r mutation).channel.health.isDisabled = true
      rw [show channel.health = state.channel.health from congrArg (·.health) hchannel.symm]
        at hdisabled
      -- an automatic transition leaves a disabled channel disabled
      exact health_applyStateMutation_of_disabled state snapshot r mutation hdisabled
  | success channelId =>
      obtain ⟨channel, hfound, rfl⟩ := hstep
      refine h.setChannel channelId rfl (fun _ _ => rfl) ?_
      intro reason hlast
      have hdisabled := (h channelId reason channel hlast hfound).1
      show channel.recordSelectedChannelSuccess.health.isDisabled = true
      rw [ChannelRuntime.health_recordSelectedChannelSuccess, if_pos hdisabled]
      exact hdisabled
  | readEvents config activeRegistryVersion inputs =>
      obtain ⟨-, -, -, rfl⟩ := hstep
      exact h.of_eq rfl rfl
  | replaceRuntime =>
      obtain ⟨attempt, hreload, rfl⟩ := hstep
      exact h.replaceRuntime hreload (hvisiting attempt hreload) hkeeps

/-! ## §5. Whole runs. -/

end OneAiKey
