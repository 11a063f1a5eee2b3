/-
  OneAiKey.EventFile — the file of the management events (`src/events.rs`).

  A record is one JSON line.  It is written straight to the file, first the
  JSON and then the newline, so that a crash leaves any part of its bytes.
  Opening the log reads the file line by line and forgives a last line that is
  no JSON.

  `fromStr` is `serde_json::from_str` at `ManagementEvent`.  The state of a run
  is the file, the log of the running process and, for the statements only, the
  events whose JSON is on disk.
-/
import OneAiKey.Events
import OneAiKey.Lib.JsonText
import OneAiKey.Lib.TransitionSystem
import OneAiKey.Lib.Utf8

namespace OneAiKey

/-! ## §1. Writing. -/

def ManagementEventActor.toJson (actor : ManagementEventActor) : List Char :=
  JsonText.object
    [("id".toList, JsonText.quote actor.id.toList),
      ("name".toList, JsonText.quote actor.name.toList),
      ("role".toList, JsonText.quote actor.role.toList)]

/-- The fields in the order of their declaration; only the actor is skipped when there
is none. -/
def ManagementEvent.members (event : ManagementEvent) : List (List Char × List Char) :=
  [("id".toList, JsonText.number event.id),
    ("created_at_unix_seconds".toList, JsonText.number event.createdAtUnixSeconds),
    ("kind".toList, JsonText.quote event.kind.toList),
    ("action".toList, JsonText.quote event.action.toList),
    ("resource_type".toList, JsonText.quote event.resourceType.toList),
    ("resource_id".toList, JsonText.quote event.resourceId.toList),
    ("outcome".toList, JsonText.quote event.outcome.toList),
    ("request_id".toList,
      event.requestId.elim JsonText.null fun id => JsonText.quote id.toList),
    ("generation".toList, event.generation.elim JsonText.null JsonText.number),
    ("channel_id".toList, JsonText.quote event.channelId.toList),
    ("credential_id".toList, JsonText.quote event.credentialId.toList),
    ("reason".toList, JsonText.quote event.reason.toList),
    ("reason_code".toList, JsonText.quote event.reasonCode.toList)] ++
  event.actor.elim [] fun actor => [("actor".toList, actor.toJson)]

def ManagementEvent.toJson (event : ManagementEvent) : List Char := JsonText.object event.members

/-- The bytes of `serde_json::to_writer`. -/
def ManagementEvent.jsonBytes (event : ManagementEvent) : List UInt8 := Utf8.encode event.toJson

/-- What an append writes: the JSON and the newline. -/
def ManagementEvent.record (event : ManagementEvent) : List UInt8 := event.jsonBytes ++ [10]

/-! ## §2. Reading. -/

/-- `read_until`, again and again: each line with its newline, which only the last line
may lack. -/
def rawLines : List UInt8 → List (List UInt8)
  | [] => []
  | b :: bytes =>
      if b = 10 then [b] :: rawLines bytes
      else match rawLines bytes with
        | [] => [[b]]
        | line :: lines => (b :: line) :: lines

/-- `Lines::next` takes the newline off, and then a carriage return. -/
def chomp (text : List Char) : List Char :=
  if text.getLast? = some '\n' then
    if text.dropLast.getLast? = some '\r' then text.dropLast.dropLast else text.dropLast
  else text

/-- The text of a line; bytes that are no UTF-8 are an error. -/
def lineText (line : List UInt8) : Option (List Char) := (Utf8.decode line).map chomp

variable (fromStr : List Char → Except String ManagementEvent)

/-- The loop of `read_events_from_path`. -/
def readEvents : List (List UInt8) → Except String (List ManagementEvent)
  | [] => .ok []
  | line :: lines =>
      match lineText line with
      | none => .error "stream did not contain valid UTF-8"
      | some text =>
          if (trim text).isEmpty then readEvents lines
          else match fromStr text with
            | .ok event => (readEvents lines).map (event :: ·)
            | .error message =>
                -- a corrupt trailing line is ignored
                if lines.isEmpty then .ok [] else .error message

def readEventsFromPath (bytes : List UInt8) : Except String (List ManagementEvent) :=
  readEvents fromStr (rawLines bytes)

/-- `open_with_window_capacity`: the next id follows the greatest one read. -/
def EventLog.openFile (bytes : List UInt8) : Except String EventLog :=
  (readEventsFromPath fromStr bytes).map fun events =>
    { nextId := events.foldl (fun nextId event => max nextId event.id) 0
      recorded := events }

/-! ## §3. Appends, crashes and reopenings. -/

structure EventFile where
  bytes : List UInt8
  /-- The log of the running process, if one runs. -/
  log : Option EventLog
  /-- The events whose JSON is on disk, in the order of their appends. -/
  recorded : List ManagementEvent
  deriving DecidableEq, Repr

inductive EventFileStep where
  /-- The process starts (again) and opens the log; it stops when that fails. -/
  | reopen
  | append (audit : ManagementAuditEvent) (createdAtUnixSeconds : Nat)
  /-- The process dies in an append, with so many bytes of it written. -/
  | crash (audit : ManagementAuditEvent) (createdAtUnixSeconds written : Nat)
  deriving DecidableEq, Repr

/-- The event that the log makes of an audit record. -/
def EventLog.nextEvent (log : EventLog) (audit : ManagementAuditEvent)
    (createdAtUnixSeconds : Nat) : ManagementEvent :=
  audit.toEvent (log.nextId + 1) createdAtUnixSeconds

/-- The event is fully recorded when its JSON is on disk. -/
def recordedAfter (recorded : List ManagementEvent) (event : ManagementEvent)
    (written : Nat) : List ManagementEvent :=
  if event.jsonBytes.length ≤ written then recorded ++ [event] else recorded

def EventFile.next (s : EventFile) : EventFileStep → Option EventFile
  | .reopen => some { s with log := (EventLog.openFile fromStr s.bytes).toOption }
  | .append audit createdAtUnixSeconds =>
      s.log.map fun log =>
        { bytes := s.bytes ++ (log.nextEvent audit createdAtUnixSeconds).record
          log := some (log.recordAuditEventNow audit createdAtUnixSeconds none).1
          recorded := s.recorded ++ [log.nextEvent audit createdAtUnixSeconds] }
  | .crash audit createdAtUnixSeconds written =>
      s.log.map fun log =>
        { bytes := s.bytes ++ (log.nextEvent audit createdAtUnixSeconds).record.take written
          log := none
          recorded :=
            recordedAfter s.recorded (log.nextEvent audit createdAtUnixSeconds) written }

/-- A run starts before the file exists. -/
def eventFileSystem : TransitionSystem EventFile EventFileStep where
  Init s := s = ⟨[], none, []⟩
  Step s step s' := s.next fromStr step = some s'

/-! ## §4. The text of a record. -/

theorem ManagementEventActor.neutral_toJson (actor : ManagementEventActor) :
    JsonText.Neutral actor.toJson := by
  apply JsonText.neutral_object
  simp [JsonText.neutral_quote]

theorem ManagementEventActor.plain_toJson (actor : ManagementEventActor) :
    JsonText.Plain actor.toJson := by
  apply JsonText.plain_object
  simp [JsonText.plain_quote]

theorem ManagementEvent.neutral_members (event : ManagementEvent) :
    ∀ entry ∈ event.members, JsonText.Neutral entry.2 := by
  have hid : JsonText.Neutral
      (event.requestId.elim JsonText.null fun id => JsonText.quote id.toList) := by
    cases event.requestId with
    | none => exact JsonText.neutral_null
    | some id => exact JsonText.neutral_quote id.toList
  have hgeneration : JsonText.Neutral (event.generation.elim JsonText.null JsonText.number) := by
    cases event.generation with
    | none => exact JsonText.neutral_null
    | some generation => exact JsonText.neutral_number generation
  cases hactor : event.actor with
  | none =>
      simp [members, hactor, hid, hgeneration, JsonText.neutral_quote, JsonText.neutral_number]
  | some actor =>
      simp [members, hactor, hid, hgeneration, JsonText.neutral_quote, JsonText.neutral_number,
        actor.neutral_toJson]

theorem ManagementEvent.plain_toJson (event : ManagementEvent) :
    JsonText.Plain event.toJson := by
  apply JsonText.plain_object
  have hid : JsonText.Plain
      (event.requestId.elim JsonText.null fun id => JsonText.quote id.toList) := by
    cases event.requestId with
    | none => exact JsonText.plain_null
    | some id => exact JsonText.plain_quote id.toList
  have hgeneration : JsonText.Plain (event.generation.elim JsonText.null JsonText.number) := by
    cases event.generation with
    | none => exact JsonText.plain_null
    | some generation => exact JsonText.plain_number generation
  cases hactor : event.actor with
  | none => simp [members, hactor, hid, hgeneration, JsonText.plain_quote, JsonText.plain_number]
  | some actor =>
      simp [members, hactor, hid, hgeneration, JsonText.plain_quote, JsonText.plain_number,
        actor.plain_toJson]

theorem ManagementEvent.neutral_toJson (event : ManagementEvent) :
    JsonText.Neutral event.toJson := JsonText.neutral_object event.neutral_members

/-- A record begins with its id. -/
theorem ManagementEvent.toJson_eq (event : ManagementEvent) :
    ∃ rest, event.toJson = '{' :: '"' :: 'i' :: rest := by
  obtain ⟨entries, hentries⟩ : ∃ entries,
      event.members = ("id".toList, JsonText.number event.id) :: entries := ⟨_, rfl⟩
  unfold toJson
  rw [hentries]
  cases entries with
  | nil => exact ⟨_, rfl⟩
  | cons entry entries =>
      unfold JsonText.object
      rw [List.map_cons, List.map_cons, List.intercalate_cons_cons]
      exact ⟨_, rfl⟩

end OneAiKey
