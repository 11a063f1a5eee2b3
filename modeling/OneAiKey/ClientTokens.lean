/-
  OneAiKey.ClientTokens — the client tokens and their management
  (`src/client_token_store.rs`, `src/management_client_tokens.rs`).

  The table of the tokens is in SQLite, and the gateway authenticates against a
  copy in memory.  An operation checks the copy, records its audit event, runs the
  statements of the store, and puts the token that the store returns into the copy.
  Nothing orders the operations, so each of these is a step of its own; a statement
  of SQLite is one step.

  A store that is not writable refuses every operation; here the operation fails
  before its first statement.  The lists of scopes are stored as JSON texts and read
  back as they were; the timestamps of a row are read by nobody and left out.
-/
import OneAiKey.Auth
import OneAiKey.Commands
import OneAiKey.Lib.KeyedList
import OneAiKey.Lib.TransitionSystem
import OneAiKey.Lib.WriteBehind
import OneAiKey.RegistryStore

namespace OneAiKey

/-! ## §1. The table. -/

/-- A row of `client_tokens`, without its id. -/
structure ClientTokenRow where
  name : String
  tokenHash : String
  enabled : Bool
  allowedModelGroups : List String
  allowedChannels : List String
  deriving DecidableEq, Repr

/-- `row_to_client_token`. -/
def rowToClientToken (id : String) (row : ClientTokenRow) : ResolvedClientToken where
  id := id
  name := row.name
  tokenHash := row.tokenHash
  enabled := row.enabled
  allowedModelGroups := row.allowedModelGroups
  allowedChannels := row.allowedChannels

/-- A token as the store keeps it. -/
def ResolvedClientToken.row (token : ResolvedClientToken) : ClientTokenRow where
  name := token.name
  tokenHash := token.tokenHash
  enabled := token.enabled
  allowedModelGroups := token.allowedModelGroups
  allowedChannels := token.allowedChannels

/-- `UNIQUE`: the column tells the rows apart. -/
def UniqueColumn (rows : IdMap ClientTokenRow) (column : ClientTokenRow → String) : Prop :=
  ∀ id id' row row', rows.lookup id = some row → rows.lookup id' = some row' →
    column row = column row' → id = id'

/-- The table, by its primary key. -/
structure ClientTokenRows where
  rows : IdMap ClientTokenRow
  name_unique : UniqueColumn rows (·.name)
  tokenHash_unique : UniqueColumn rows (·.tokenHash)

theorem UniqueColumn.insert {rows : IdMap ClientTokenRow} {column : ClientTokenRow → String}
    (h : UniqueColumn rows column) {id : String} {row : ClientTokenRow}
    (hfree : ∀ id' row', rows.lookup id' = some row' → column row' = column row → id' = id) :
    UniqueColumn (rows.insert id row) column := by
  intro id₁ id₂ row₁ row₂ h₁ h₂ heq
  by_cases hid₁ : id₁ = id
  · by_cases hid₂ : id₂ = id
    · rw [hid₁, hid₂]
    · rw [hid₁, Finmap.lookup_insert] at h₁
      rw [Finmap.lookup_insert_of_ne _ hid₂] at h₂
      rw [← Option.some.inj h₁] at heq
      exact absurd (hfree id₂ row₂ h₂ heq.symm) hid₂
  · rw [Finmap.lookup_insert_of_ne _ hid₁] at h₁
    by_cases hid₂ : id₂ = id
    · rw [hid₂, Finmap.lookup_insert] at h₂
      rw [← Option.some.inj h₂] at heq
      exact absurd (hfree id₁ row₁ h₁ heq) hid₁
    · rw [Finmap.lookup_insert_of_ne _ hid₂] at h₂
      exact h id₁ id₂ row₁ row₂ h₁ h₂ heq

/-- A change of a row that the column does not show. -/
theorem UniqueColumn.update {rows : IdMap ClientTokenRow} {column : ClientTokenRow → String}
    (h : UniqueColumn rows column) (id : String) {f : ClientTokenRow → ClientTokenRow}
    (hf : ∀ row, column (f row) = column row) :
    UniqueColumn (IdMap.update rows id f) column := by
  cases hrow : rows.lookup id with
  | none =>
      unfold IdMap.update
      rw [hrow]
      exact h
  | some row =>
      rw [IdMap.update_of_lookup f hrow]
      refine h.insert fun id' row' hrow' heq => ?_
      exact h id' id row' row hrow' hrow (heq.trans (hf row))

namespace ClientTokenRows

/-- The table without rows. -/
def empty : ClientTokenRows where
  rows := ∅
  name_unique _ _ _ _ h := by cases h
  tokenHash_unique _ _ _ _ h := by cases h

/-- `load_token_by_id`. -/
def loadTokenById (rows : ClientTokenRows) (id : String) : Option ResolvedClientToken :=
  (rows.rows.lookup id).map (rowToClientToken id)

/-- No row has the id, the name or the hash. -/
def Free (rows : ClientTokenRows) (token : ResolvedClientToken) : Prop :=
  rows.rows.lookup token.id = none ∧ ∀ entry ∈ IdMap.sortedEntries rows.rows,
    entry.2.name ≠ token.name ∧ entry.2.tokenHash ≠ token.tokenHash

instance (rows : ClientTokenRows) (token : ResolvedClientToken) :
    Decidable (rows.Free token) :=
  inferInstanceAs (Decidable (_ ∧ ∀ entry ∈ IdMap.sortedEntries rows.rows, _ ∧ _))

/-- `insert_resolved_token`; `none` is a violated constraint. -/
def insertResolvedToken (rows : ClientTokenRows) (token : ResolvedClientToken) :
    Option ClientTokenRows :=
  if h : rows.Free token then
    some {
      rows := rows.rows.insert token.id token.row
      name_unique := rows.name_unique.insert fun id' row' hrow heq =>
        absurd heq (h.2 (id', row') (IdMap.mem_sortedEntries.mpr hrow)).1
      tokenHash_unique := rows.tokenHash_unique.insert fun id' row' hrow heq =>
        absurd heq (h.2 (id', row') (IdMap.mem_sortedEntries.mpr hrow)).2 }
  else none

/-- An `UPDATE … WHERE id = …` that leaves the unique columns alone. -/
def update (rows : ClientTokenRows) (id : String) (f : ClientTokenRow → ClientTokenRow)
    (hname : ∀ row, (f row).name = row.name) (hhash : ∀ row, (f row).tokenHash = row.tokenHash) :
    ClientTokenRows where
  rows := IdMap.update rows.rows id f
  name_unique := rows.name_unique.update id hname
  tokenHash_unique := rows.tokenHash_unique.update id hhash

/-- The row of a token with the flag changed. -/
def updateEnabled (rows : ClientTokenRows) (id : String) (enabled : Bool) : ClientTokenRows :=
  rows.update id (fun row => { row with enabled := enabled }) (fun _ => rfl) fun _ => rfl

/-- Both columns of the scope are written. -/
def updateScopeColumns (rows : ClientTokenRows) (id : String)
    (allowedModelGroups allowedChannels : List String) : ClientTokenRows :=
  rows.update id (fun row =>
    { row with allowedModelGroups := allowedModelGroups, allowedChannels := allowedChannels })
    (fun _ => rfl) fun _ => rfl

end ClientTokenRows

/-- By name, then by id. -/
def clientTokenLE (a b : ResolvedClientToken) : Prop :=
  a.name < b.name ∨ (a.name = b.name ∧ a.id ≤ b.id)

instance : DecidableRel clientTokenLE := fun a b =>
  inferInstanceAs (Decidable (a.name < b.name ∨ (a.name = b.name ∧ a.id ≤ b.id)))

/-- `load_tokens`. -/
def loadTokens (rows : ClientTokenRows) : List ResolvedClientToken :=
  ((IdMap.sortedEntries rows.rows).map fun entry => rowToClientToken entry.1 entry.2).insertionSort
    clientTokenLE

/-- `replace_runtime_client_token`. -/
def replaceRuntimeClientToken (tokens : List ResolvedClientToken)
    (updated : ResolvedClientToken) : List ResolvedClientToken :=
  (KeyedList.put (·.id) updated tokens).insertionSort clientTokenLE

/-! ## §2. The operations. -/

/-- The errors of the token store. -/
inductive ClientTokenStoreError where
  | notWritable
  | duplicate
  | notFound
  | persistence (message : String)
  deriving DecidableEq, Repr

/-- The answers to them, without their details. -/
def clientTokenStoreError : ClientTokenStoreError → ManagementServiceError
  | .notWritable =>
      .conflict "client token persistence requires a writable credential store"
  | .duplicate => .conflict "client token already exists"
  | .notFound => .notFound "unknown client token"
  | .persistence _ => .persistence "client token store persistence error"

/-- A token to be made. -/
structure ClientTokenCreate where
  name : String
  token : String
  allowedModelGroups : List String
  allowedChannels : List String

/-- A change of a token's scope; a part that is absent stays. -/
structure ClientTokenScopeUpdate where
  allowedModelGroups : Option (List String)
  allowedChannels : Option (List String)

/-- The assignments to the token that was loaded. -/
def ClientTokenScopeUpdate.patch (update : ClientTokenScopeUpdate)
    (token : ResolvedClientToken) : ResolvedClientToken :=
  { token with
    allowedModelGroups := update.allowedModelGroups.getD token.allowedModelGroups
    allowedChannels := update.allowedChannels.getD token.allowedChannels }

/-- The names trimmed, each once, without the blank ones. -/
def normalizeUniqueNonEmpty (values : List String) : List String :=
  values.foldl (fun normalized value =>
    let value := trimString value
    if value.isEmpty || normalized.contains value then normalized
    else normalized ++ [value]) []

/-- One turn of the loop; the channels are those of the registry. -/
def normalizeAllowedChannel (knownChannel : String → Bool) (normalized : List String)
    (channel : String) : Except ManagementServiceError (List String) :=
  let channel := trimString channel
  if channel.isEmpty then .ok normalized
  else if !knownChannel channel then .error (.notFound ("unknown channel " ++ channel))
  else if normalized.contains channel then .ok normalized
  else .ok (normalized ++ [channel])

/-- The channels of a scope, each of which has to be known. -/
def normalizeAllowedChannels (knownChannel : String → Bool) (allowedChannels : List String) :
    Except ManagementServiceError (List String) :=
  allowedChannels.foldlM (normalizeAllowedChannel knownChannel) []

/-- A token to be made, with its scope normalized. -/
def clientTokenCreate (knownChannel : String → Bool) (name token : String)
    (allowedModelGroups allowedChannels : List String) :
    Except ManagementServiceError ClientTokenCreate :=
  (normalizeAllowedChannels knownChannel allowedChannels).map fun channels =>
    ⟨name, token, normalizeUniqueNonEmpty allowedModelGroups, channels⟩

/-- The channels of a change, if it has any. -/
def normalizeOptionalChannels (knownChannel : String → Bool) :
    Option (List String) → Except ManagementServiceError (Option (List String))
  | some channels => (normalizeAllowedChannels knownChannel channels).map some
  | none => .ok none

/-- A change of scope, normalized. -/
def clientTokenScopeUpdate (knownChannel : String → Bool)
    (allowedModelGroups allowedChannels : Option (List String)) :
    Except ManagementServiceError ClientTokenScopeUpdate := do
  let groups := allowedModelGroups.map normalizeUniqueNonEmpty
  let channels ← normalizeOptionalChannels knownChannel allowedChannels
  if groups.isNone && channels.isNone then
    .error (.conflict
      "client token scope update must include allowed_model_groups or allowed_channels")
  else return ⟨groups, channels⟩

/-- What a management request asks for. -/
inductive ClientTokenRequest where
  | create (name token : String) (allowedModelGroups allowedChannels : List String)
  | setEnabled (tokenId : String) (enabled : Bool)
  | updateScope (tokenId : String) (allowedModelGroups allowedChannels : Option (List String))

/-- The request with its scopes normalized. -/
inductive ClientTokenOperation where
  | create (create : ClientTokenCreate)
  | setEnabled (tokenId : String) (enabled : Bool)
  | updateScope (tokenId : String) (update : ClientTokenScopeUpdate)

/-- What a request asks the store to do, if its scope is well formed. -/
def ClientTokenRequest.operation (knownChannel : String → Bool) :
    ClientTokenRequest → Except ManagementServiceError ClientTokenOperation
  | create name token allowedModelGroups allowedChannels =>
      (clientTokenCreate knownChannel name token allowedModelGroups allowedChannels).map .create
  | setEnabled tokenId enabled => .ok (.setEnabled tokenId enabled)
  | updateScope tokenId allowedModelGroups allowedChannels =>
      (clientTokenScopeUpdate knownChannel allowedModelGroups allowedChannels).map
        (.updateScope tokenId)

section Operations

variable (hashToken : String → String)

/-- The token that a creation inserts. -/
def ClientTokenCreate.resolved (create : ClientTokenCreate) : ResolvedClientToken where
  id := "client_" ++ hashToken (trimString create.name)
  name := trimString create.name
  tokenHash := hashToken (trimString create.token)
  enabled := true
  allowedModelGroups := create.allowedModelGroups
  allowedChannels := create.allowedChannels

namespace ClientTokenOperation

/-- The id that the operation is about. -/
def tokenId : ClientTokenOperation → String
  | create input => (input.resolved hashToken).id
  | setEnabled tokenId _ => tokenId
  | updateScope tokenId _ => tokenId

/-- The check against the copy in memory. -/
def check (clientTokens : List ResolvedClientToken) :
    ClientTokenOperation → Except ManagementServiceError Unit
  | create input =>
      let token := input.resolved hashToken
      if clientTokens.any (·.id == token.id) || clientTokens.any (·.tokenHash == token.tokenHash)
      then .error (.conflict "client token already exists")
      else .ok ()
  | setEnabled tokenId _ | updateScope tokenId _ =>
      if clientTokens.any (·.id == tokenId) then .ok ()
      else .error (.notFound "unknown client token")

/-- The event of an operation. -/
def audit (actor : ManagementEventActor) : ClientTokenOperation → ManagementAuditEvent
  | create input =>
      .applied "client_token_created" "client_token" (input.resolved hashToken).id
        "manual_client_token_create" (some actor)
  | setEnabled tokenId true =>
      .applied "client_token_enabled" "client_token" tokenId "manual_client_token_enable"
        (some actor)
  | setEnabled tokenId false =>
      .applied "client_token_disabled" "client_token" tokenId "manual_client_token_disable"
        (some actor)
  | updateScope tokenId _ =>
      .applied "client_token_scope_updated" "client_token" tokenId
        "manual_client_token_scope_update" (some actor)

end ClientTokenOperation

/-! ## §3. The statements of the store. -/

/-- How far an operation is. -/
inductive ClientTokenPhase where
  | checked
  | audited
  /-- The row has been loaded for a change of its scope, and the change assigned. -/
  | loaded (token : ResolvedClientToken)
  /-- The row has been written and is to be loaded once more. -/
  | written
  /-- The store has returned this token. -/
  | returned (token : ResolvedClientToken)
  | finished (result : Except ManagementServiceError ResolvedClientToken)

/-- `create_token`. -/
def createToken (create : ClientTokenCreate) (rows : ClientTokenRows) :
    Except ClientTokenStoreError (ClientTokenRows × ClientTokenPhase) :=
  let token := create.resolved hashToken
  if token.name.isEmpty || (trimString create.token).isEmpty then
    .error (.persistence "client token name and token must not be empty")
  else
    match rows.insertResolvedToken token with
    | some rows => .ok (rows, .returned token)
    | none => .error .duplicate

/-- The `UPDATE` of `set_enabled`. -/
def updateEnabledStatement (tokenId : String) (enabled : Bool) (rows : ClientTokenRows) :
    Except ClientTokenStoreError (ClientTokenRows × ClientTokenPhase) :=
  match rows.loadTokenById tokenId with
  | some _ => .ok (rows.updateEnabled tokenId enabled, .written)
  | none => .error .notFound

/-- The first statement of `update_scope`, and the assignments. -/
def loadForScopeStatement (tokenId : String) (update : ClientTokenScopeUpdate)
    (rows : ClientTokenRows) :
    Except ClientTokenStoreError (ClientTokenRows × ClientTokenPhase) :=
  match rows.loadTokenById tokenId with
  | some token => .ok (rows, .loaded (update.patch token))
  | none => .error .notFound

/-- The last statement of `set_enabled` and of `update_scope`. -/
def reloadStatement (tokenId : String) (rows : ClientTokenRows) :
    Except ClientTokenStoreError (ClientTokenRows × ClientTokenPhase) :=
  match rows.loadTokenById tokenId with
  | some token => .ok (rows, .returned token)
  | none => .error .notFound

/-- The next statement of an operation, unless the store has returned or is not reached. -/
def ClientTokenOperation.statement (rows : ClientTokenRows) :
    ClientTokenOperation → ClientTokenPhase →
      Option (Except ClientTokenStoreError (ClientTokenRows × ClientTokenPhase))
  | create input, .audited => some (createToken hashToken input rows)
  | setEnabled tokenId enabled, .audited => some (updateEnabledStatement tokenId enabled rows)
  | updateScope tokenId update, .audited => some (loadForScopeStatement tokenId update rows)
  | updateScope tokenId _, .loaded token =>
      some (.ok (rows.updateScopeColumns tokenId token.allowedModelGroups token.allowedChannels,
        .written))
  | operation, .written => some (reloadStatement (operation.tokenId hashToken) rows)
  | _, _ => none

end Operations

/-- The error of an operation that cannot go on: its event is not recorded, or a statement
fails. -/
def ClientTokenPhase.failure (message : String) : ClientTokenPhase → Option ManagementServiceError
  | checked => some (.eventAppendFailed message none)
  | audited | loaded _ | written => some (clientTokenStoreError (.persistence message))
  | returned _ | finished _ => none

/-! ## §4. The fields of a token. -/

/-- What an operation can change. -/
inductive TokenField where
  | enabled
  | allowedModelGroups
  | allowedChannels
  deriving DecidableEq

/-- The value of a field of a row. -/
inductive TokenValue where
  | flag (enabled : Bool)
  | scope (names : List String)
  deriving DecidableEq

/-- The fields that operations change. -/
def ClientTokenRow.field (row : ClientTokenRow) : TokenField → TokenValue
  | .enabled => .flag row.enabled
  | .allowedModelGroups => .scope row.allowedModelGroups
  | .allowedChannels => .scope row.allowedChannels

/-- The table as one from fields to values. -/
def ClientTokenRows.field (rows : ClientTokenRows) (key : String × TokenField) :
    Option TokenValue :=
  (rows.rows.lookup key.1).map (·.field key.2)

/-- A field of a token, and what it is to be. -/
abbrev TokenChange := (String × TokenField) × Option TokenValue

section Changes

variable (hashToken : String → String)

/-- The value that the operation was asked to give a field. -/
def ClientTokenOperation.value : ClientTokenOperation → TokenField → Option TokenValue
  | create input, field => some ((input.resolved hashToken).row.field field)
  | setEnabled _ enabled, .enabled => some (.flag enabled)
  | updateScope _ update, .allowedModelGroups => update.allowedModelGroups.map .scope
  | updateScope _ update, .allowedChannels => update.allowedChannels.map .scope
  | _, _ => none

/-- What the operation was asked to change. -/
def ClientTokenOperation.changes (operation : ClientTokenOperation) : List TokenChange :=
  [TokenField.enabled, .allowedModelGroups, .allowedChannels].filterMap fun field =>
    (operation.value hashToken field).map fun value =>
      ((operation.tokenId hashToken, field), some value)

/-- What the statement of this phase commits, if it succeeds. -/
def ClientTokenOperation.committedBy (operation : ClientTokenOperation) :
    ClientTokenPhase → List TokenChange
  | .audited =>
      match operation with
      | create _ | setEnabled _ _ => operation.changes hashToken
      | updateScope _ _ => []
  | .loaded _ => operation.changes hashToken
  | _ => []

/-! ## §5. The operations side by side. -/

/-- An operation with how far it has come. -/
structure ClientTokenCall where
  operation : ClientTokenOperation
  phase : ClientTokenPhase

/-- The table, the tokens that requests are checked with, and the operations under way. -/
structure ClientTokenState where
  rows : ClientTokenRows
  clientTokens : List ResolvedClientToken
  audits : List ManagementAuditEvent
  /-- The operations so far, by their numbers. -/
  calls : Nat → Option ClientTokenCall
  /-- The changes that the store has committed, the last one last. -/
  committed : List TokenChange

/-- What can happen next. -/
inductive ClientTokenEvent where
  | start (n : Nat) (request : ClientTokenRequest) (knownChannel : String → Bool)
  /-- The audit event is recorded. -/
  | record (n : Nat) (actor : ManagementEventActor)
  /-- The next statement is executed. -/
  | statement (n : Nat)
  /-- The event cannot be recorded, or the next statement fails. -/
  | fail (n : Nat) (message : String)
  /-- The copy in memory gets the token that the store has returned. -/
  | replace (n : Nat)

namespace ClientTokenState

/-- An operation moves to a phase; the others stay where they are. -/
def setCall (s : ClientTokenState) (n : Nat) (operation : ClientTokenOperation)
    (phase : ClientTokenPhase) : ClientTokenState :=
  { s with calls := Function.update s.calls n (some ⟨operation, phase⟩) }

/-- A request that is refused leaves nothing behind. -/
def start (s : ClientTokenState) (n : Nat) (request : ClientTokenRequest)
    (knownChannel : String → Bool) : ClientTokenState :=
  match request.operation knownChannel with
  | .error _ => s
  | .ok operation =>
      match operation.check hashToken s.clientTokens with
      | .error _ => s
      | .ok _ => s.setCall n operation .checked

/-- After the statement of an operation. -/
def afterStatement (s : ClientTokenState) (n : Nat) (call : ClientTokenCall) :
    Except ClientTokenStoreError (ClientTokenRows × ClientTokenPhase) → ClientTokenState
  | .error err => s.setCall n call.operation (.finished (.error (clientTokenStoreError err)))
  | .ok (rows, phase) =>
      { s.setCall n call.operation phase with
        rows := rows
        committed := s.committed ++ call.operation.committedBy hashToken call.phase }

/-- No operation is under way. -/
def Idle (s : ClientTokenState) : Prop :=
  ∀ n call, s.calls n = some call → ∃ result, call.phase = .finished result

end ClientTokenState

/-- The copy in memory is what was loaded from the table at the start. -/
def clientTokenSystem : TransitionSystem ClientTokenState ClientTokenEvent where
  Init s := s.clientTokens = loadTokens s.rows ∧ (∀ n, s.calls n = none) ∧ s.committed = []
  Step s event s' :=
    match event with
    | .start n request knownChannel => s.calls n = none ∧
        s' = s.start hashToken n request knownChannel
    | .record n actor => ∃ operation, s.calls n = some ⟨operation, .checked⟩ ∧
        s' = { s.setCall n operation .audited with
          audits := s.audits ++ [operation.audit hashToken actor] }
    | .statement n => ∃ call result, s.calls n = some call ∧
        call.operation.statement hashToken s.rows call.phase = some result ∧
        s' = s.afterStatement hashToken n call result
    | .fail n message => ∃ operation phase err, s.calls n = some ⟨operation, phase⟩ ∧
        phase.failure message = some err ∧
        s' = s.setCall n operation (.finished (.error err))
    | .replace n => ∃ operation token, s.calls n = some ⟨operation, .returned token⟩ ∧
        s' = { s.setCall n operation (.finished (.ok token)) with
          clientTokens := replaceRuntimeClientToken s.clientTokens token }

end Changes

end OneAiKey
