/-
  OneAiKey.Events — the management events and their log (`src/events.rs`).

  `EventLog` is the log in memory: an append that fails leaves it as it was.
  `EventLogFile` has the file behind it as well.  There a record is written in two
  writes, first the JSON and then the newline, and a failing append may have written
  any part of it: its event may be read back although it was refused, and what is
  appended to a torn line is lost.

  The bytes of the file, and what a crash leaves of them, are the subject of the
  event file; the window of recent events is `WindowedLog`, beside the log.

  Main results:
    * `EventLogFile.appended` — what an append can do to the file.
-/
import OneAiKey.State

namespace OneAiKey

/-! ## §1. The records. -/

structure ManagementEventActor where
  id : String
  name : String
  role : String
  deriving DecidableEq, Repr

structure ManagementEvent where
  id : Nat
  createdAtUnixSeconds : Nat
  kind : String
  action : String
  resourceType : String
  resourceId : String
  outcome : String
  requestId : Option String
  generation : Option Nat
  channelId : String
  credentialId : String
  reason : String
  reasonCode : String
  actor : Option ManagementEventActor
  deriving DecidableEq, Repr

structure ManagementAuditEvent where
  kind : String
  action : String
  resourceType : String
  resourceId : String
  channelId : String
  credentialId : String
  outcome : String
  requestId : Option String
  generation : Option Nat
  reasonCode : String
  actor : Option ManagementEventActor
  deriving DecidableEq, Repr

def ManagementAuditEvent.applied (kind resourceType resourceId reasonCode : String)
    (actor : Option ManagementEventActor) : ManagementAuditEvent where
  kind := kind
  action := kind
  resourceType := resourceType
  resourceId := resourceId
  channelId := ""
  credentialId := ""
  outcome := "applied"
  requestId := none
  generation := none
  reasonCode := reasonCode
  actor := actor

def managementEventReasonCode (kind : String) : String :=
  match kind with
  | "credential_expired" => "manual_expire"
  | "credential_quota_exhausted" => "manual_quota_exhaust"
  | "credential_restored" => "manual_restore"
  | "credential_disabled" => "manual_disable"
  | "credential_enabled" => "manual_enable"
  | "credential_cooldown_cleared" => "manual_clear_cooldown"
  | "channel_disabled" => "manual_channel_disable"
  | "channel_enabled" => "manual_channel_enable"
  | "client_token_created" => "manual_client_token_create"
  | "client_token_scope_updated" => "manual_client_token_scope_update"
  | "client_token_disabled" => "manual_client_token_disable"
  | "client_token_enabled" => "manual_client_token_enable"
  | other => other

def startsWith (text beginning : String) : Bool := beginning.toList.isPrefixOf text.toList

/-- The resource type and the resource id. -/
def managementEventResource (kind channelId credentialId : String) : String × String :=
  if startsWith kind "credential_" then ("credential", credentialId)
  else if startsWith kind "client_token_" then ("client_token", channelId)
  else if startsWith kind "channel_" then ("channel", channelId)
  else ("management", channelId)

/-! ## §2. Replay. -/

def ManagementEvent.replayReason (event : ManagementEvent) : String :=
  if event.reasonCode.isEmpty then event.reason else event.reasonCode

/-- The event as a replay sees it; an audit event is none. -/
def ManagementEvent.toDomainEvent (event : ManagementEvent) : Option DomainEvent :=
  match event.kind with
  | "credential_expired" =>
      some (.expired event.channelId event.credentialId event.replayReason)
  | "credential_quota_exhausted" =>
      some (.quotaExhausted event.channelId event.credentialId event.replayReason)
  | "credential_restored" => some (.restored event.channelId event.credentialId)
  | "credential_disabled" =>
      some (.disabled event.channelId event.credentialId event.replayReason)
  | "credential_enabled" => some (.enabled event.channelId event.credentialId)
  | "credential_cooldown_cleared" => some (.cooldownCleared event.channelId event.credentialId)
  | "channel_disabled" => some (.channelDisabled event.channelId event.replayReason)
  | "channel_enabled" => some (.channelEnabled event.channelId)
  | _ => none

/-! ## §3. Recording. -/

/-- A log as the process remembers it, with the events whose append succeeded. -/
structure EventLog where
  nextId : Nat
  recorded : List ManagementEvent
  deriving DecidableEq, Repr

/-- An empty text takes the default. -/
def orDefault (text default : String) : String := if text.isEmpty then default else text

/-- The event that an audit record becomes. -/
def ManagementAuditEvent.toEvent (audit : ManagementAuditEvent)
    (id createdAtUnixSeconds : Nat) : ManagementEvent :=
  let resource := managementEventResource audit.kind audit.channelId audit.credentialId
  let reasonCode := orDefault audit.reasonCode (managementEventReasonCode audit.kind)
  { id := id
    createdAtUnixSeconds := createdAtUnixSeconds
    kind := audit.kind
    action := orDefault audit.action audit.kind
    resourceType := orDefault audit.resourceType resource.1
    resourceId := orDefault audit.resourceId resource.2
    outcome := orDefault audit.outcome "applied"
    requestId := audit.requestId
    generation := audit.generation
    channelId := audit.channelId
    credentialId := audit.credentialId
    reason := reasonCode
    reasonCode := reasonCode
    actor := audit.actor }

/-- `record_audit_event_now` without the file: the id is taken also when the write fails, and
nothing is remembered then.  What a failed write leaves behind in the file is the matter of
`EventLogFile`. -/
def EventLog.recordAuditEventNow (log : EventLog) (audit : ManagementAuditEvent)
    (createdAtUnixSeconds : Nat) (fault : Option String) : EventLog × Except String Unit :=
  let log := { log with nextId := log.nextId + 1 }
  match fault with
  | some message => (log, .error message)
  | none =>
      ({ log with recorded := log.recorded ++ [audit.toEvent log.nextId createdAtUnixSeconds] },
        .ok ())

/-- The audit record of `record_event_now`; the operator's reason is not recorded. -/
def eventAudit (kind channelId credentialId : String) (actor : Option ManagementEventActor) :
    ManagementAuditEvent :=
  let resource := managementEventResource kind channelId credentialId
  { kind := kind
    action := kind
    resourceType := resource.1
    resourceId := resource.2
    channelId := channelId
    credentialId := credentialId
    outcome := "applied"
    requestId := none
    generation := none
    reasonCode := managementEventReasonCode kind
    actor := actor }

/-! ## §4. The file behind a log. -/

/-- How the file of a log ends. -/
inductive FileEnd where
  /-- Behind a newline, or the file is empty. -/
  | newline
  /-- In a whole record that lacks its newline. -/
  | unterminated
  /-- In anything else. -/
  | torn
  deriving DecidableEq, Repr

/-- How much of its record a failing append has written. -/
inductive WrittenPart where
  | nothing
  /-- Some of the JSON. -/
  | part
  /-- All of the JSON, and not the newline. -/
  | json
  deriving DecidableEq, Repr

/-- A failure of `create_dir_all`, `open`, `to_writer` or `write_all`. -/
structure AppendFault where
  message : String
  written : WrittenPart
  deriving DecidableEq, Repr

/-- A log with its file. -/
structure EventLogFile where
  nextId : Nat
  /-- The events that have a line of the file to themselves, which are those that a replay
  can read. -/
  recorded : List ManagementEvent
  fileEnd : FileEnd
  deriving DecidableEq, Repr

/-- One call of `record_audit_event_now`. -/
structure EventAppend where
  audit : ManagementAuditEvent
  createdAtUnixSeconds : Nat
  fault : Option AppendFault
  deriving DecidableEq, Repr

namespace EventLogFile

/-- Does an append leave a line that is read as its event? -/
def leavesRecord (log : EventLogFile) (fault : Option AppendFault) : Bool :=
  log.fileEnd == .newline && fault.all fun fault => fault.written == .json

/-- What an append writes to the file.  Behind a line that is not ended it joins that line,
and the two together are no JSON. -/
def write (log : EventLogFile) (event : ManagementEvent) (fault : Option AppendFault) :
    EventLogFile :=
  if fault.any (·.written == .nothing) then log
  else
    { log with
      recorded := match log.fileEnd with
        | .newline => if log.leavesRecord fault then log.recorded ++ [event] else log.recorded
        | .unterminated => log.recorded.dropLast
        | .torn => log.recorded
      fileEnd :=
        if fault.isNone then .newline
        else if log.leavesRecord fault then .unterminated
        else .torn }

/-- `record_audit_event_now`: the id is taken also when the append fails. -/
def recordAuditEventNow (log : EventLogFile) (audit : ManagementAuditEvent)
    (createdAtUnixSeconds : Nat) (fault : Option AppendFault) :
    EventLogFile × Except String Unit :=
  let log := { log with nextId := log.nextId + 1 }
  let event := audit.toEvent log.nextId createdAtUnixSeconds
  (log.write event fault,
    match fault with
    | some fault => .error fault.message
    | none => .ok ())

/-- What an append can do to the file. -/
inductive Appended (log log' : EventLogFile) (event : ManagementEvent)
    (fault : Option AppendFault) : Prop where
  /-- The event gets a line to itself. -/
  | recorded (leaves : log.leavesRecord fault = true)
      (events : log'.recorded = log.recorded ++ [event])
      (fileEnd : log'.fileEnd = .unterminated → fault ≠ none)
  | kept (leaves : log.leavesRecord fault = false) (events : log'.recorded = log.recorded)
      (fileEnd : log'.fileEnd = .unterminated → log.fileEnd = .unterminated)
  /-- It joins a record that lacked its newline, and neither can be read. -/
  | joined (leaves : log.leavesRecord fault = false) (before : log.fileEnd = .unterminated)
      (events : log'.recorded = log.recorded.dropLast)
      (fileEnd : log'.fileEnd ≠ .unterminated)

theorem appended (log : EventLogFile) (audit : ManagementAuditEvent)
    (createdAtUnixSeconds : Nat) (fault : Option AppendFault) :
    Appended log (log.recordAuditEventNow audit createdAtUnixSeconds fault).1
      (audit.toEvent (log.nextId + 1) createdAtUnixSeconds) fault := by
  obtain ⟨nextId, recorded, fileEnd⟩ := log
  cases fileEnd with
  | newline =>
      rcases fault with _ | ⟨message, written⟩
      · exact .recorded rfl rfl nofun
      · cases written with
        | nothing | part => exact .kept rfl rfl nofun
        | json => exact .recorded rfl rfl fun _ => nofun
  | unterminated =>
      rcases fault with _ | ⟨message, written⟩
      · exact .joined rfl rfl rfl nofun
      · cases written with
        | nothing => exact .kept rfl rfl fun h => h
        | part | json => exact .joined rfl rfl rfl nofun
  | torn =>
      rcases fault with _ | ⟨message, written⟩
      · exact .kept rfl rfl nofun
      · cases written <;> exact .kept rfl rfl nofun

/-- Appends one after the other. -/
def appendAll (log : EventLogFile) (appends : List EventAppend) : EventLogFile :=
  appends.foldl (fun log append =>
    (log.recordAuditEventNow append.audit append.createdAtUnixSeconds append.fault).1) log

end EventLogFile

end OneAiKey
