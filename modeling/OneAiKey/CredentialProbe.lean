/-
  OneAiKey.CredentialProbe — what probes have found out about credentials
  (`src/credential_repository.rs`, `src/credential_probe.rs`).

  A probe sends one request with a credential and records an outcome.  The results stay in
  a table, and the latest one of a credential counts; the table is asked for it one by one
  (`ORDER BY id DESC LIMIT 1`) and for many at once (grouped, and joined on the largest id).

  A failure of the database itself is left out of the reads.

  Main results:
    * `probeStore_valid` — ids ascend, and no result is without its credential, in every
      reachable state;
    * `ProbeStore.Valid.find_latestProbeResults` — the two ways find the same results.
-/
import OneAiKey.CredentialImport
import OneAiKey.Lib.LatestRow
import OneAiKey.Lib.TransitionSystem
import OneAiKey.ManagementStatus

namespace OneAiKey

open LatestRow

/-! ## §1. The tables. -/

/-- What a probe of a credential found. -/
inductive CredentialProbeOutcome where
  | success
  | invalid
  | quotaExhausted
  | rateLimited
  | providerUnavailable
  | unsupportedModel
  | unknown
  deriving DecidableEq, Repr

/-- A probe result as it is recorded. -/
structure CredentialProbeResultRecordInput where
  credentialSetId : CredentialSetId
  credentialId : CredentialId
  channelId : ChannelId
  providerId : String
  accountId : String
  outcome : CredentialProbeOutcome
  classifierId : Option String
  adaptationRuleId : Option String
  upstreamStatus : Option Nat
  upstreamCode : Option String
  upstreamLimitType : Option String
  latencyMs : Nat
  deriving DecidableEq, Repr

/-- A row of `credential_probe_results`. -/
structure CredentialProbeResultRecord extends CredentialProbeResultRecordInput where
  id : Nat
  createdAtUnixSeconds : Int
  deriving DecidableEq, Repr

/-- The tables `credentials` and `credential_probe_results`, and the last id that the latter
has given. -/
structure ProbeStore where
  credentials : List CredentialRow
  probeResults : List CredentialProbeResultRecord
  lastId : Nat

/-! ## §2. The statements. -/

/-- Does the table have the credential in this set? -/
def sqliteCredentialIdExists (rows : List CredentialRow) (credentialSetId : CredentialSetId)
    (credentialId : CredentialId) : Bool :=
  rows.any fun row =>
    row.credentialSetId == credentialSetId && row.credentialId == some credentialId

/-- The credentials of a set, `ORDER BY position`. -/
def inPositionOrder (rows : List CredentialRow) (credentialSetId : CredentialSetId) :
    List CredentialRow :=
  (rows.filter fun row => row.credentialSetId == credentialSetId).mergeSort
    fun row row' => decide (row.position ≤ row'.position)

namespace ProbeStore

/-- `record_probe_result`, with the largest id that the table can give.  A failing database
leaves everything as it is.  A credential that the set does not have is refused, and so is the
id beyond the largest. -/
def recordProbeResult (s : ProbeStore) (input : CredentialProbeResultRecordInput)
    (createdAtUnixSeconds : Int) (fault : Option String) :
    ProbeStore × Except String CredentialProbeResultRecord :=
  match fault with
  | some message => (s, .error message)
  | none =>
      if !sqliteCredentialIdExists s.credentials input.credentialSetId input.credentialId then
        (s, .error ("unknown credential " ++ input.credentialId ++ " in credential set " ++
          input.credentialSetId))
      else if 2 ^ 63 ≤ s.lastId + 1 then (s, .error "database or disk is full")
      else
        let record : CredentialProbeResultRecord :=
          { toCredentialProbeResultRecordInput := input
            id := s.lastId + 1
            createdAtUnixSeconds := createdAtUnixSeconds }
        ({ s with probeResults := s.probeResults ++ [record], lastId := s.lastId + 1 },
          .ok record)

/-- `WHERE credential_set_id = …`. -/
def probeResultsOf (s : ProbeStore) (credentialSetId : CredentialSetId) :
    List CredentialProbeResultRecord :=
  s.probeResults.filter fun record => record.credentialSetId == credentialSetId

/-- The latest result of a credential. -/
def loadLatestProbeResult (s : ProbeStore) (credentialSetId : CredentialSetId)
    (credentialId : CredentialId) : Option CredentialProbeResultRecord :=
  latest (·.credentialId) (·.id) (s.probeResultsOf credentialSetId) credentialId

/-- The latest result of each credential of a set that `requested` asks for. -/
def latestProbeResults (s : ProbeStore) (credentialSetId : CredentialSetId)
    (requested : CredentialId → Bool) : List CredentialProbeResultRecord :=
  latestRows (·.credentialId) (·.id) (fun record : CredentialProbeResultRecord =>
    record.credentialSetId == credentialSetId && requested record.credentialId) s.probeResults

/-- The map that the rows are collected into, of which a later one replaces an earlier. -/
def loadLatestProbeResultsForCredentials (s : ProbeStore) (credentialSetId : CredentialSetId)
    (credentialIds : List CredentialId) (credentialId : CredentialId) :
    Option CredentialProbeResultRecord :=
  (s.latestProbeResults credentialSetId credentialIds.contains).reverse.find? fun record =>
    record.credentialId = credentialId

/-- The positions of the given credentials that have one. -/
def loadCredentialPositionsForCredentials (s : ProbeStore) (credentialSetId : CredentialSetId)
    (credentialIds : List CredentialId) (credentialId : CredentialId) : Option Nat :=
  ((s.credentials.filter fun row => row.credentialSetId == credentialSetId &&
      row.credentialId.any credentialIds.contains).reverse.find? fun row =>
    row.credentialId = some credentialId).map (·.position)

end ProbeStore

/-- A row without an id cannot be read. -/
def CredentialRow.readId (row : CredentialRow) : Except String CredentialId :=
  match row.credentialId with
  | some credentialId => .ok credentialId
  | none => .error "Invalid column type Null at index: 0, name: credential_id"

/-- `LIMIT ? OFFSET ?` of two numbers cast to `i64`: a negative limit is none, a negative
offset is zero. -/
def sqlWindow {α : Type} (offset limit : Nat) (rows : List α) : List α :=
  let rest := if offset < 2 ^ 63 then rows.drop offset else rows
  if limit < 2 ^ 63 then rest.take limit else rest

theorem sqlWindow_eq {α : Type} {offset limit : Nat} (hoffset : offset < 2 ^ 63)
    (hlimit : limit < 2 ^ 63) (rows : List α) :
    sqlWindow offset limit rows = (rows.drop offset).take limit := by
  unfold sqlWindow
  rw [if_pos hoffset, if_pos hlimit]

theorem map_sqlWindow {α β : Type} (f : α → β) (offset limit : Nat) (rows : List α) :
    (sqlWindow offset limit rows).map f = sqlWindow offset limit (rows.map f) := by
  unfold sqlWindow
  dsimp only
  rw [apply_ite (List.map f), List.map_take, apply_ite (List.map f), List.map_drop]

/-- A page of ids, with the number of all that match. -/
structure CredentialIdPage where
  total : Nat
  credentialIds : List CredentialId
  deriving DecidableEq, Repr

namespace ProbeStore

/-- The total is counted without the join on `credentials`. -/
def loadLatestProbeOutcomeCredentialIds (s : ProbeStore) (credentialSetId : CredentialSetId)
    (outcome : CredentialProbeOutcome) (offset limit : Nat) : CredentialIdPage :=
  let rows := (s.latestProbeResults credentialSetId fun _ => true).filter fun record =>
    record.credentialSetId == credentialSetId && record.outcome == outcome
  let joined := (inPositionOrder s.credentials credentialSetId).flatMap fun credential =>
    (rows.filter fun record => credential.credentialId = some record.credentialId).map
      (·.credentialId)
  ⟨rows.length, sqlWindow offset limit joined⟩

/-- `NOT EXISTS` a result. -/
def loadUnprobedCredentialIds (s : ProbeStore) (credentialSetId : CredentialSetId)
    (offset limit : Nat) : Except String CredentialIdPage :=
  let unprobed := (inPositionOrder s.credentials credentialSetId).filter fun credential =>
    !(s.probeResultsOf credentialSetId).any fun record =>
      credential.credentialId = some record.credentialId
  ((sqlWindow offset limit unprobed).mapM CredentialRow.readId).map fun credentialIds =>
    ⟨unprobed.length, credentialIds⟩

end ProbeStore

/-- How many credentials have each outcome as their latest. -/
structure CredentialProbeSummaryRecord where
  success : Nat
  invalid : Nat
  quotaExhausted : Nat
  rateLimited : Nat
  providerUnavailable : Nat
  unsupportedModel : Nat
  unknown : Nat
  deriving DecidableEq, Repr

/-- No result of any outcome. -/
def CredentialProbeSummaryRecord.default : CredentialProbeSummaryRecord := ⟨0, 0, 0, 0, 0, 0, 0⟩

/-- The latest results of a credential set, counted by their outcomes. -/
def ProbeStore.loadProbeSummaryForCredentialSet (s : ProbeStore)
    (credentialSetId : CredentialSetId) : CredentialProbeSummaryRecord :=
  let rows := s.latestProbeResults credentialSetId fun _ => true
  let count (outcome : CredentialProbeOutcome) : Nat :=
    rows.countP fun record => record.outcome == outcome
  { success := count .success
    invalid := count .invalid
    quotaExhausted := count .quotaExhausted
    rateLimited := count .rateLimited
    providerUnavailable := count .providerUnavailable
    unsupportedModel := count .unsupportedModel
    unknown := count .unknown }

/-! ## §3. What is shown of them. -/

/-- `CredentialProbeOutcomeStatus` has the same names. -/
structure CredentialProbeResultStatus where
  outcome : CredentialProbeOutcome
  channelId : ChannelId
  providerId : String
  accountId : String
  classifierId : Option String
  adaptationRuleId : Option String
  upstreamStatus : Option Nat
  upstreamCode : Option String
  upstreamLimitType : Option String
  latencyMs : Nat
  createdAtUnixSeconds : Int
  deriving DecidableEq, Repr

/-- The part of a result that a listing shows. -/
def credentialProbeResultStatus (record : CredentialProbeResultRecord) :
    CredentialProbeResultStatus where
  outcome := record.outcome
  channelId := record.channelId
  providerId := record.providerId
  accountId := record.accountId
  classifierId := record.classifierId
  adaptationRuleId := record.adaptationRuleId
  upstreamStatus := record.upstreamStatus
  upstreamCode := record.upstreamCode
  upstreamLimitType := record.upstreamLimitType
  latencyMs := record.latencyMs
  createdAtUnixSeconds := record.createdAtUnixSeconds

/-- The filters of a listing by the latest probe. -/
inductive CredentialProbeFilter where
  | all
  | success
  | invalid
  | quotaExhausted
  | rateLimited
  | providerUnavailable
  | unsupportedModel
  | unknown
  | unprobed
  deriving DecidableEq, Repr

/-- Does the latest result of a credential, or that it has none, fit the filter? -/
def probeFilterMatches (filter : CredentialProbeFilter)
    (latestProbe : Option CredentialProbeResultStatus) : Bool :=
  match filter with
  | .all => true
  | .unprobed => latestProbe.isNone
  | .success => latestProbe.any (·.outcome == .success)
  | .invalid => latestProbe.any (·.outcome == .invalid)
  | .quotaExhausted => latestProbe.any (·.outcome == .quotaExhausted)
  | .rateLimited => latestProbe.any (·.outcome == .rateLimited)
  | .providerUnavailable => latestProbe.any (·.outcome == .providerUnavailable)
  | .unsupportedModel => latestProbe.any (·.outcome == .unsupportedModel)
  | .unknown => latestProbe.any (·.outcome == .unknown)

/-- The outcome that a filter asks for, if it asks for one. -/
def probeFilterOutcome : CredentialProbeFilter → Option CredentialProbeOutcome
  | .success => some .success
  | .invalid => some .invalid
  | .quotaExhausted => some .quotaExhausted
  | .rateLimited => some .rateLimited
  | .providerUnavailable => some .providerUnavailable
  | .unsupportedModel => some .unsupportedModel
  | .unknown => some .unknown
  | .all | .unprobed => none

/-- A filter for an outcome asks for that outcome. -/
theorem probeFilterMatches_of_outcome {filter : CredentialProbeFilter}
    {outcome : CredentialProbeOutcome} (h : probeFilterOutcome filter = some outcome)
    (latestProbe : Option CredentialProbeResultStatus) :
    probeFilterMatches filter latestProbe = latestProbe.any (·.outcome == outcome) := by
  cases filter <;> cases h <;> rfl

/-- The counts of a credential set as an operator sees them. -/
structure CredentialProbeSummaryStatus where
  totalCredentials : Nat
  probedCredentials : Nat
  unprobedCredentials : Nat
  success : Nat
  invalid : Nat
  quotaExhausted : Nat
  rateLimited : Nat
  providerUnavailable : Nat
  unsupportedModel : Nat
  unknown : Nat
  deriving DecidableEq, Repr

/-- The counts; who has no result is the rest. -/
def credentialProbeSummaryStatus (totalCredentials : Nat)
    (summary : CredentialProbeSummaryRecord) : CredentialProbeSummaryStatus :=
  let probedCredentials := summary.success + summary.invalid + summary.quotaExhausted +
    summary.rateLimited + summary.providerUnavailable + summary.unsupportedModel +
    summary.unknown
  { totalCredentials := totalCredentials
    probedCredentials := probedCredentials
    unprobedCredentials := totalCredentials - probedCredentials
    success := summary.success
    invalid := summary.invalid
    quotaExhausted := summary.quotaExhausted
    rateLimited := summary.rateLimited
    providerUnavailable := summary.providerUnavailable
    unsupportedModel := summary.unsupportedModel
    unknown := summary.unknown }

/-- `Path::file_name`. -/
def pathFileName (path : String) : Option String :=
  match ((path.splitOn "/").filter fun component => component ≠ "" ∧ component ≠ ".").getLast? with
  | some component => if component = ".." then none else some component
  | none => none

/-- `source_id`. -/
def credentialSourceId (path : String) : String := (pathFileName path).getD "unknown-source"

/-- Where a credential was found. -/
structure CredentialSourceStatus where
  sourceId : Option String
  sourceLine : Option Nat
  batchId : Option String
  deriving DecidableEq, Repr

/-- A credential as a listing shows it, without its secret. -/
structure CredentialStatus where
  id : String
  credentialRef : Option String
  fingerprint : String
  state : CredentialStateSnapshot
  source : CredentialSourceStatus
  latestProbe : Option CredentialProbeResultStatus
  deriving DecidableEq, Repr

/-- A row of a listing from the pool's snapshot and the store's part. -/
def credentialStatusWithLatestProbeAndRef (snapshot : CredentialSnapshot)
    (latestProbe : Option CredentialProbeResultStatus) (credentialRef : Option String) :
    CredentialStatus where
  id := snapshot.id
  credentialRef := credentialRef
  fingerprint := snapshot.fingerprint
  state := redactCredentialState snapshot.state
  source := ⟨snapshot.source.sourcePath.map credentialSourceId, snapshot.source.sourceLine,
    snapshot.source.batchId⟩
  latestProbe := latestProbe

/-- A row without the store's part. -/
def credentialStatus (snapshot : CredentialSnapshot) : CredentialStatus :=
  credentialStatusWithLatestProbeAndRef snapshot none none

/-- The reference of a position. -/
def credentialRefForPosition (position : Nat) : String := "cr:v1:pos:" ++ toString position

/-! ## §4. Runs. -/

/-- What can happen to the store between two readings. -/
inductive ProbeStoreLabel where
  | record (input : CredentialProbeResultRecordInput) (createdAtUnixSeconds : Int)
      (fault : Option String)
  /-- A write of `credentials`: no statement takes a credential or its id away. -/
  | write (credentials : List CredentialRow)

/-- A new database, and all that is written to the two tables. -/
def probeStoreSystem : TransitionSystem ProbeStore ProbeStoreLabel where
  Init s := s.probeResults = [] ∧ s.lastId = 0
  Step s label s' :=
    match label with
    | .record input createdAtUnixSeconds fault =>
        s' = (s.recordProbeResult input createdAtUnixSeconds fault).1
    | .write credentials =>
        (∀ credentialSetId credentialId,
          sqliteCredentialIdExists s.credentials credentialSetId credentialId = true →
          sqliteCredentialIdExists credentials credentialSetId credentialId = true) ∧
        s' = { s with credentials }

/-- The results in the order of their ids, each with its credential. -/
structure ProbeStore.Valid (s : ProbeStore) : Prop where
  ascending : Ascending (·.id) s.probeResults
  le_lastId : ∀ record ∈ s.probeResults, record.id ≤ s.lastId
  lastId_lt : s.lastId < 2 ^ 63
  known : ∀ record ∈ s.probeResults,
    sqliteCredentialIdExists s.credentials record.credentialSetId record.credentialId = true

namespace ProbeStore

variable {s s' : ProbeStore} {credentialSetId : CredentialSetId}

/-- A result is recorded, with the next id, or nothing is.  The new id is larger than all
before it, which is what makes the latest result the last recorded one. -/
theorem recordProbeResult_cases (s : ProbeStore) (input : CredentialProbeResultRecordInput)
    (createdAtUnixSeconds : Int) (fault : Option String) :
    (s.recordProbeResult input createdAtUnixSeconds fault).1 = s ∨
    ∃ record : CredentialProbeResultRecord,
      record.toCredentialProbeResultRecordInput = input ∧ record.id = s.lastId + 1 ∧
      s.lastId + 1 < 2 ^ 63 ∧
      sqliteCredentialIdExists s.credentials input.credentialSetId input.credentialId = true ∧
      (s.recordProbeResult input createdAtUnixSeconds fault).1 =
        { s with probeResults := s.probeResults ++ [record], lastId := s.lastId + 1 } := by
  unfold recordProbeResult
  cases fault with
  | some message => exact .inl rfl
  | none =>
      dsimp only
      cases hknown : sqliteCredentialIdExists s.credentials input.credentialSetId
        input.credentialId with
      | false => exact .inl rfl
      | true =>
          rw [if_neg (by decide)]
          by_cases hfull : 2 ^ 63 ≤ s.lastId + 1
          · rw [if_pos hfull]
            exact .inl rfl
          · rw [if_neg hfull]
            exact .inr ⟨_, rfl, rfl, Nat.lt_of_not_le hfull, rfl, rfl⟩

theorem Valid.recordProbeResult (h : s.Valid) (input : CredentialProbeResultRecordInput)
    (createdAtUnixSeconds : Int) (fault : Option String) :
    (s.recordProbeResult input createdAtUnixSeconds fault).1.Valid := by
  rcases s.recordProbeResult_cases input createdAtUnixSeconds fault with
    hsame | ⟨record, hinput, hid, hlt, hknown, hnext⟩
  · rw [hsame]
    exact h
  · rw [hnext]
    -- the new id is greater than every id so far
    have hbefore : ∀ other ∈ s.probeResults, other.id < record.id := by
      intro other hother
      rw [hid]
      exact Nat.lt_succ_of_le (h.le_lastId other hother)
    refine ⟨h.ascending.concat hbefore, ?_, hlt, ?_⟩
    · intro other hother
      rcases List.mem_append.mp hother with hother | hother
      · exact Nat.le_succ_of_le (h.le_lastId other hother)
      · rw [List.mem_singleton.mp hother, hid]
    · intro other hother
      rcases List.mem_append.mp hother with hother | hother
      · exact h.known other hother
      · rw [List.mem_singleton.mp hother, hinput]
        exact hknown

end ProbeStore

theorem probeStore_valid {s : ProbeStore} (h : probeStoreSystem.Reachable s) : s.Valid := by
  refine h.invariant (fun s₀ hinit => ?_) fun s label s' hs hstep => ?_
  · obtain ⟨hempty, hzero⟩ := hinit
    refine ⟨?_, ?_, by rw [hzero]; decide, ?_⟩
    · rw [hempty]
      exact List.Pairwise.nil
    · intro record hrecord
      rw [hempty] at hrecord
      cases hrecord
    · intro record hrecord
      rw [hempty] at hrecord
      cases hrecord
  -- recording has its own lemma; a write of credentials keeps the results valid
  · cases label with
    | record input createdAtUnixSeconds fault =>
        cases hstep
        exact hs.recordProbeResult input createdAtUnixSeconds fault
    | write credentials =>
        obtain ⟨hkept, rfl⟩ := hstep
        exact ⟨hs.ascending, hs.le_lastId, hs.lastId_lt,
          fun record hrecord => hkept _ _ (hs.known record hrecord)⟩

/-! ## §5. The latest results. -/

namespace ProbeStore

/-- The condition on the credentials does not matter to one that meets it. -/
theorem latest_requested (s : ProbeStore) (credentialSetId : CredentialSetId)
    {requested : CredentialId → Bool} {credentialId : CredentialId}
    (hrequested : requested credentialId = true) :
    latest (·.credentialId) (·.id) (s.probeResults.filter fun record =>
        record.credentialSetId == credentialSetId && requested record.credentialId)
      credentialId = s.loadLatestProbeResult credentialSetId credentialId := by
  unfold loadLatestProbeResult probeResultsOf latest
  rw [List.filter_filter, List.filter_filter]
  congr 1
  refine List.filter_congr fun record _ => ?_
  by_cases hid : record.credentialId = credentialId
  · rw [hid, hrequested, Bool.and_true]
  · rw [decide_eq_false hid, Bool.false_and, Bool.false_and]

namespace Valid

variable {s : ProbeStore}

/-- The grouped rows of a credential that is asked for are its latest one. -/
theorem filter_latestProbeResults (h : s.Valid) (credentialSetId : CredentialSetId)
    {requested : CredentialId → Bool} {credentialId : CredentialId}
    (hrequested : requested credentialId = true) :
    (s.latestProbeResults credentialSetId requested).filter
        (fun record => record.credentialId = credentialId) =
      (s.loadLatestProbeResult credentialSetId credentialId).toList := by
  unfold latestProbeResults
  rw [filter_latestRows h.ascending, latest_requested s credentialSetId hrequested]

theorem find_latestProbeResults (h : s.Valid) (credentialSetId : CredentialSetId)
    {credentialIds : List CredentialId} {credentialId : CredentialId}
    (hmem : credentialId ∈ credentialIds) :
    s.loadLatestProbeResultsForCredentials credentialSetId credentialIds credentialId =
      s.loadLatestProbeResult credentialSetId credentialId := by
  have hrequested : credentialIds.contains credentialId = true := List.contains_iff_mem.mpr hmem
  unfold loadLatestProbeResultsForCredentials
  rw [← List.head?_filter, List.filter_reverse,
    h.filter_latestProbeResults credentialSetId hrequested]
  cases s.loadLatestProbeResult credentialSetId credentialId <;> rfl

end Valid

end ProbeStore

end OneAiKey
