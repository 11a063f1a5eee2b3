/-
  OneAiKey.Rebuild.Quiet — reloads that no command comes between
  (`src/management_resources.rs`, `src/state.rs`).

  A reload that names the log of the process reads the last word of the operator
  on every channel, if none of the commands is under way while it is, and if no
  append to the log has been cut off.

  Main results:
    * `EventLogFile.Clean.lastWord_command` — what a command appends is the last
      word on its channel;
    * `DisablementState.Orderly.step` — in quiet runs the log has the last word
      on each channel, and so do the events that a reload has read;
    * `keepsDisabled_of_quiet` — a quiet run keeps every disablement.
-/
import OneAiKey.Rebuild.Disablement

namespace OneAiKey

variable {ρ τ : Type}

/-! ## §1. The log of the process. -/

/-- What a replay of the log's file sees. -/
def EventLogFile.domainEvents (log : EventLogFile) : List DomainEvent :=
  log.recorded.filterMap (·.toDomainEvent)

/-- An append is not cut off, and neither is the record before it. -/
def EventLogFile.Clean (log : EventLogFile) (fault : Option AppendFault) : Prop :=
  log.fileEnd = .newline ∧ log.leavesRecord fault = fault.isNone

/-- From the reading of a reload to its replacement no command is about to write and none
appends; every append is clean; and a reload names the log of the process. -/
def Quiet (s : DisablementState ρ τ) (event : DisablementEvent) : Prop :=
  match event with
  | .append index _ fault => s.reload = none ∧ s.events.Clean fault ∧
      ∀ command, s.pending[index]? = some command → command.runtime = s.runtime
  | .audit _ _ fault => s.events.Clean fault
  | .readEvents config _ _ => (∀ command ∈ s.pending, command.appended = false) ∧
      ∃ path, s.eventLogPath = some path ∧ config.managementEventLogPath = some path
  | _ => True

/-- What holds in quiet runs: the log has the last word of the operator, and so do the events
that a reload has read. -/
structure DisablementState.Orderly (s : DisablementState ρ τ) : Prop where
  current : ∀ command ∈ s.pending, command.appended = true → command.runtime = s.runtime
  idle : s.reload ≠ none → ∀ command ∈ s.pending, command.appended = false
  pending : ∀ command ∈ s.pending, command.appended = true →
    ∀ reason, command.command = .disable reason →
      LastWordDisabled s.events.domainEvents command.channelId
  accepted : ∀ channelId reason, s.lastCommand channelId = some (.disable reason) →
    (∀ command ∈ s.pending, command.appended = true → command.channelId ≠ channelId) →
      LastWordDisabled s.events.domainEvents channelId
  read : ∀ attempt channelId reason events, s.reload = some attempt →
    s.lastCommand channelId = some (.disable reason) →
    replayEventsFromPath attempt.inputs attempt.config.managementEventLogPath = .ok events →
      LastWordDisabled (events.filterMap (·.toDomainEvent)) channelId

/-- Only a channel command is recorded as one. -/
theorem notAbout_of_kind {event : ManagementEvent} (hdisabled : event.kind ≠ "channel_disabled")
    (henabled : event.kind ≠ "channel_enabled") {domainEvent : DomainEvent}
    (h : event.toDomainEvent = some domainEvent) (channelId : String) :
    ¬ domainEvent.AboutChannel channelId := by
  unfold ManagementEvent.toDomainEvent at h
  split at h
  all_goals first
    | cases h
      exact id
    | contradiction

/-- An event about no channel, or about another one, does not take the last word. -/
theorem LastWordDisabled.append {events : List DomainEvent} {channelId : String}
    (h : LastWordDisabled events channelId) {later : List DomainEvent}
    (hlater : ∀ event ∈ later, ¬ event.AboutChannel channelId) :
    LastWordDisabled (events ++ later) channelId := by
  obtain ⟨before, reason, after, rfl, hafter⟩ := h
  refine ⟨before, reason, after ++ later, by simp, ?_⟩
  intro event hevent
  rcases List.mem_append.mp hevent with hmem | hmem
  · exact hafter event hmem
  · exact hlater event hmem

/-- What the event of a channel command replays as. -/
theorem toDomainEvent_command (command : ChannelCommand) (channelId : String)
    (actor : ManagementEventActor) (id createdAtUnixSeconds : Nat) :
    ((eventAudit command.eventKind channelId "" (some actor)).toEvent id
        createdAtUnixSeconds).toDomainEvent =
      some (match command with
        | .disable _ => .channelDisabled channelId "manual_channel_disable"
        | .enable => .channelEnabled channelId) := by
  cases command with
  | disable reason => rfl
  | enable => rfl

/-- A clean append that succeeds is the last of the log, and one that fails leaves it. -/
theorem EventLogFile.Clean.recorded {log : EventLogFile} {fault : Option AppendFault}
    (h : log.Clean fault) (audit : ManagementAuditEvent) (createdAtUnixSeconds : Nat) :
    (log.recordAuditEventNow audit createdAtUnixSeconds fault).1.recorded =
      if fault.isNone then
        log.recorded ++ [audit.toEvent (log.nextId + 1) createdAtUnixSeconds]
      else log.recorded := by
  obtain ⟨hend, hleaves⟩ := h
  rw [← hleaves]
  cases log.appended audit createdAtUnixSeconds fault with
  | recorded leaves events _ => rw [leaves, events, if_pos rfl]
  | kept leaves events _ => rw [leaves, events, if_neg Bool.false_ne_true]
  | joined _ before =>
      rw [hend] at before
      cases before

/-- A clean append of what is no channel command keeps the last words. -/
theorem EventLogFile.Clean.lastWord {log : EventLogFile} {fault : Option AppendFault}
    (h : log.Clean fault) {audit : ManagementAuditEvent}
    (hdisabled : audit.kind ≠ "channel_disabled") (henabled : audit.kind ≠ "channel_enabled")
    (createdAtUnixSeconds : Nat) {channelId : String}
    (hword : LastWordDisabled log.domainEvents channelId) :
    LastWordDisabled
      (log.recordAuditEventNow audit createdAtUnixSeconds fault).1.domainEvents channelId := by
  unfold domainEvents
  rw [h.recorded]
  split
  · rw [List.filterMap_append]
    apply hword.append
    intro event hevent
    obtain ⟨recorded, hmem, hdomain⟩ := List.mem_filterMap.mp hevent
    rw [List.mem_singleton] at hmem
    rw [hmem] at hdomain
    exact notAbout_of_kind hdisabled henabled hdomain channelId
  · exact hword

/-- The event of a command that is appended has the last word on its channel, and leaves those
on all others. -/
theorem EventLogFile.Clean.lastWord_command {log : EventLogFile} (h : log.Clean none)
    (command : PendingCommand) (createdAtUnixSeconds : Nat) :
    let log' := (log.recordAuditEventNow
      (eventAudit command.command.eventKind command.channelId "" (some command.actor))
      createdAtUnixSeconds none).1
    (∀ reason, command.command = .disable reason →
      LastWordDisabled log'.domainEvents command.channelId) ∧
    ∀ channelId, channelId ≠ command.channelId → LastWordDisabled log.domainEvents channelId →
      LastWordDisabled log'.domainEvents channelId := by
  intro log'
  -- a clean log grows by the event of the command
  have hlog : log'.domainEvents = log.domainEvents ++ [match command.command with
      | .disable _ => .channelDisabled command.channelId "manual_channel_disable"
      | .enable => .channelEnabled command.channelId] := by
    unfold domainEvents
    rw [h.recorded]
    show List.filterMap _ (_ ++ [_]) = _
    rw [List.filterMap_append, List.filterMap_cons_some
      (toDomainEvent_command command.command command.channelId command.actor _ _),
      List.filterMap_nil]
  rw [hlog]
  constructor
  · intro reason hcommand
    rw [hcommand]
    exact ⟨_, _, [], rfl, nofun⟩
  -- and that is about no other channel
  · intro channelId hid hword
    apply hword.append
    intro event hevent
    rw [List.mem_singleton.mp hevent]
    cases command.command with
    | disable reason => exact fun heq => hid heq.symm
    | enable => exact fun heq => hid heq.symm

/-! ## §2. What holds in quiet runs. -/

namespace DisablementState.Orderly

variable {s : DisablementState ρ τ}

/-- Nothing is asked of what leaves the commands, the log and the reload alone. -/
theorem of_eq {s' : DisablementState ρ τ} (h : s.Orderly) (hpending : s'.pending = s.pending)
    (hruntime : s'.runtime = s.runtime) (hevents : s'.events = s.events)
    (hlast : s'.lastCommand = s.lastCommand) (hreload : s'.reload = s.reload) : s'.Orderly := by
  constructor
  · rw [hpending, hruntime]
    exact h.current
  · rw [hpending, hreload]
    exact h.idle
  · rw [hpending, hevents]
    exact h.pending
  · rw [hpending, hevents, hlast]
    exact h.accepted
  · rw [hreload, hlast]
    exact h.read

theorem start (h : s.Orderly) (channelId : String) (command : ChannelCommand)
    (actor : ManagementEventActor) : (s.start channelId command actor).Orderly := by
  unfold DisablementState.start
  cases s.app.channels.get channelId with
  | none => exact h
  | some channel =>
      -- the new command has appended nothing yet
      have hnew : ∀ {pending : PendingCommand}, pending ∈ s.pending ++
          [(⟨channelId, command, actor, s.runtime, false⟩ : PendingCommand)] →
          pending ∈ s.pending ∨ pending.appended = false := by
        intro pending hmem
        rcases List.mem_append.mp hmem with hmem | hmem
        · exact .inl hmem
        · rw [List.mem_singleton.mp hmem]
          exact .inr rfl
      have hold : ∀ {pending : PendingCommand}, pending ∈ s.pending ++
          [(⟨channelId, command, actor, s.runtime, false⟩ : PendingCommand)] →
          pending.appended = true → pending ∈ s.pending := by
        intro pending hmem happended
        refine (hnew hmem).resolve_right ?_
        rw [happended]
        nofun
      refine ⟨?_, ?_, ?_, ?_, h.read⟩
      · exact fun pending hmem happended => h.current pending (hold hmem happended) happended
      · intro hreload pending hmem
        exact (hnew hmem).elim (h.idle hreload pending) id
      · exact fun pending hmem happended => h.pending pending (hold hmem happended) happended
      · intro id reason hlast hother
        exact h.accepted id reason hlast fun pending hmem =>
          hother pending (List.mem_append_left _ hmem)

/-- A refused command leaves those that have appended their events. -/
theorem mem_eraseIdx {index : Nat} {command other : PendingCommand}
    (hpending : s.pending[index]? = some command) (hnew : command.appended = false)
    (hmem : other ∈ s.pending) (happended : other.appended = true) :
    other ∈ s.pending.eraseIdx index ∧
      other ∈ s.pending.set index { command with appended := true } := by
  obtain ⟨i, hi⟩ := List.mem_iff_getElem?.mp hmem
  have hne : index ≠ i := by
    rintro rfl
    rw [hpending] at hi
    obtain rfl := Option.some.inj hi
    rw [hnew] at happended
    cases happended
  refine ⟨List.mem_eraseIdx_iff_getElem?.mpr ⟨i, hne.symm, hi⟩, ?_⟩
  refine List.mem_iff_getElem?.mpr ⟨i, ?_⟩
  rw [List.getElem?_set_ne hne]
  exact hi

theorem append_error (h : s.Orderly) {index : Nat} {command : PendingCommand}
    (hpending : s.pending[index]? = some command) (hnew : command.appended = false)
    (createdAtUnixSeconds : Nat) {fault : AppendFault} (hreload : s.reload = none)
    (hclean : s.events.Clean (some fault)) :
    (s.append index command createdAtUnixSeconds (some fault)).Orderly := by
  -- the log is as before, and the command is gone
  have hevents : (s.append index command createdAtUnixSeconds (some fault)).events.domainEvents =
      s.events.domainEvents :=
    congrArg (List.filterMap _) (hclean.recorded _ createdAtUnixSeconds)
  have hold : ∀ {pending : PendingCommand}, pending ∈ s.pending.eraseIdx index →
      pending ∈ s.pending := List.mem_of_mem_eraseIdx
  constructor
  · exact fun pending hmem => h.current pending (hold hmem)
  · exact fun hnot => absurd hreload hnot
  · rw [hevents]
    exact fun pending hmem => h.pending pending (hold hmem)
  · rw [hevents]
    intro channelId reason hlast hother
    refine h.accepted channelId reason hlast fun pending hmem happended => ?_
    exact hother pending (mem_eraseIdx hpending hnew hmem happended).1 happended
  · intro attempt channelId reason events hattempt
    rw [show s.reload = some attempt from hattempt] at hreload
    cases hreload

theorem append_ok (h : s.Orderly) {index : Nat} {command : PendingCommand}
    (hpending : s.pending[index]? = some command) (hnew : command.appended = false)
    (hgate : s.HoldsGate command) (hcurrent : command.runtime = s.runtime)
    (createdAtUnixSeconds : Nat) (hreload : s.reload = none) (hclean : s.events.Clean none) :
    (s.append index command createdAtUnixSeconds none).Orderly := by
  obtain ⟨hown, hothers⟩ := hclean.lastWord_command command createdAtUnixSeconds
  constructor
  -- the command is of the current runtime, as those before it are
  · intro pending hmem happended
    rcases List.mem_or_eq_of_mem_set hmem with hmem | rfl
    · exact h.current pending hmem happended
    · exact hcurrent
  · exact fun hnot => absurd hreload hnot
  · intro pending hmem happended reason hcommand
    rcases List.mem_or_eq_of_mem_set hmem with hmem | rfl
    · -- the gate has kept every other command of the channel away
      refine hothers _ ?_ (h.pending pending hmem happended reason hcommand)
      intro hid
      exact hgate pending hmem happended hid
        ((h.current pending hmem happended).trans hcurrent.symm)
    · exact hown reason hcommand
  · intro channelId reason hlast hother
    refine hothers channelId ?_ ?_
    · have hmem : { command with appended := true } ∈
          s.pending.set index { command with appended := true } :=
        List.mem_set (List.getElem?_eq_some_iff.mp hpending).1 _
      exact fun hid => hother _ hmem rfl hid.symm
    · refine h.accepted channelId reason hlast fun pending hmem happended => ?_
      exact hother pending (mem_eraseIdx hpending hnew hmem happended).2 happended
  -- nothing is being reloaded
  · intro attempt channelId reason events hattempt
    rw [show s.reload = some attempt from hattempt] at hreload
    cases hreload

/-- The command that is accepted has the last word on its channel. -/
theorem write (h : s.Orderly) {index : Nat} {command : PendingCommand}
    (hpending : s.pending[index]? = some command) (happended : command.appended = true) :
    (s.write index command).Orderly := by
  have hmem : command ∈ s.pending := List.mem_of_getElem? hpending
  have hold : ∀ {pending : PendingCommand}, pending ∈ s.pending.eraseIdx index →
      pending ∈ s.pending := List.mem_of_mem_eraseIdx
  -- while a reload is under way no command has got as far as its append
  have hreload : s.reload = none := by
    by_contra hnot
    rw [h.idle hnot command hmem] at happended
    cases happended
  constructor
  · exact fun pending hmem => h.current pending (hold hmem)
  · exact fun hnot => absurd hreload hnot
  · exact fun pending hmem => h.pending pending (hold hmem)
  · intro channelId reason hlast hother
    -- the last command of this channel is now the one that is written
    by_cases hid : command.channelId = channelId
    · have hcommand : command.command = .disable reason := by
        apply Option.some.inj
        rw [← hlast, ← hid]
        exact (Function.update_self command.channelId (some command.command) s.lastCommand).symm
      rw [← hid]
      exact h.pending command hmem happended reason hcommand
    · have hbefore : s.lastCommand channelId = some (.disable reason) := by
        rw [← hlast]
        exact (Function.update_of_ne (Ne.symm hid) _ _).symm
      refine h.accepted channelId reason hbefore fun other hother' happended' => ?_
      obtain ⟨i, hi⟩ := List.mem_iff_getElem?.mp hother'
      -- another command that has been appended would still be pending
      by_cases hindex : i = index
      · rw [hindex, hpending] at hi
        obtain rfl := Option.some.inj hi
        exact hid
      · exact hother other (List.mem_eraseIdx_iff_getElem?.mpr ⟨i, hindex, hi⟩) happended'
  · intro attempt channelId reason events hattempt
    rw [show s.reload = some attempt from hattempt] at hreload
    cases hreload

theorem audit (h : s.Orderly) {audit : ManagementAuditEvent}
    (hdisabled : audit.kind ≠ "channel_disabled") (henabled : audit.kind ≠ "channel_enabled")
    (createdAtUnixSeconds : Nat) {fault : Option AppendFault} (hclean : s.events.Clean fault) :
    Orderly { s with
      events := (s.events.recordAuditEventNow audit createdAtUnixSeconds fault).1 } where
  current := h.current
  idle := h.idle
  pending := fun pending hmem happended reason hcommand =>
    hclean.lastWord hdisabled henabled createdAtUnixSeconds
      (h.pending pending hmem happended reason hcommand)
  accepted := fun channelId reason hlast hother =>
    hclean.lastWord hdisabled henabled createdAtUnixSeconds
      (h.accepted channelId reason hlast hother)
  read := h.read

/-- What a reload reads from the log of the process has the last words. -/
theorem readEvents (h : s.Orderly) {config : FullResolvedConfig} {inputs : RebuildInputs}
    (hreads : s.Reads inputs) (activeRegistryVersion : Option Nat)
    (hquiet : Quiet s (.readEvents config activeRegistryVersion inputs)) :
    Orderly { s with reload := some ⟨config, activeRegistryVersion, inputs⟩ } := by
  obtain ⟨hidle, path, hopened, hnamed⟩ := hquiet
  refine ⟨h.current, fun _ => hidle, h.pending, h.accepted, ?_⟩
  intro attempt channelId reason events hattempt hlast hevents
  obtain rfl := Option.some.inj hattempt
  rw [show replayEventsFromPath inputs config.managementEventLogPath =
    inputs.readEventsFromPath path by rw [hnamed]; rfl] at hevents
  rw [hreads path events hopened hevents]
  refine h.accepted channelId reason hlast fun command hmem happended => ?_
  rw [hidle command hmem] at happended
  cases happended

theorem replaceRuntime (h : s.Orderly) {attempt : RebuildAttempt}
    (hreload : s.reload = some attempt) : (s.replaceRuntime attempt).Orderly := by
  have hidle := h.idle (by rw [hreload]; nofun)
  have hread : ∀ {other : RebuildAttempt} {P : Prop}, (none : Option RebuildAttempt) = some other →
      P := nofun
  unfold DisablementState.replaceRuntime
  split
  · refine ⟨h.current, fun _ => hidle, h.pending, h.accepted, ?_⟩
    exact fun other channelId reason events hother => hread hother
  · refine ⟨?_, fun _ => hidle, h.pending, h.accepted, ?_⟩
    · intro command hmem happended
      rw [hidle command hmem] at happended
      cases happended
    · exact fun other channelId reason events hother => hread hother

theorem step (h : s.Orderly) {s' : DisablementState ρ τ} {event : DisablementEvent}
    (hstep : s.Step event s') (hquiet : Quiet s event) : s'.Orderly := by
  cases event with
  | start channelId command actor =>
      rw [show s' = _ from hstep]
      exact h.start channelId command actor
  | append index createdAtUnixSeconds fault =>
      -- an append that succeeds waits for its write; one that fails leaves nothing that could be
      -- read
      obtain ⟨command, hpending, hnew, hgate, rfl⟩ := hstep
      obtain ⟨hreload, hclean, hcurrent⟩ := hquiet
      cases fault with
      | none => exact h.append_ok hpending hnew hgate (hcurrent command hpending) _ hreload hclean
      | some fault => exact h.append_error hpending hnew _ hreload hclean
  | write index =>
      obtain ⟨command, hpending, happended, rfl⟩ := hstep
      exact h.write hpending happended
  | resetHealth channelId =>
      rw [show s' = _ from hstep]
      unfold DisablementState.resetHealth
      split
      · exact h
      · split
        · exact h
        · exact h.of_eq rfl rfl rfl rfl rfl
  | report channelId state snapshot r mutation =>
      obtain ⟨channel, -, -, -, -, rfl⟩ := hstep
      exact h.of_eq rfl rfl rfl rfl rfl
  | success channelId =>
      obtain ⟨channel, -, rfl⟩ := hstep
      exact h.of_eq rfl rfl rfl rfl rfl
  | audit audit createdAtUnixSeconds fault =>
      obtain ⟨hdisabled, henabled, rfl⟩ := hstep
      exact h.audit hdisabled henabled createdAtUnixSeconds hquiet
  -- what is read here is all there is until the runtime is replaced, since nobody appends in
  -- between
  | readEvents config activeRegistryVersion inputs =>
      obtain ⟨-, -, hreads, rfl⟩ := hstep
      exact h.readEvents hreads activeRegistryVersion hquiet
  | replaceRuntime =>
      obtain ⟨attempt, hreload, rfl⟩ := hstep
      exact h.replaceRuntime hreload

end DisablementState.Orderly

end OneAiKey
