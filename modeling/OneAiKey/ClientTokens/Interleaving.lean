/-
  OneAiKey.ClientTokens.Interleaving — concurrent operations on client tokens.

  Two operations on a token can lose a change in the table, since a change of the
  scope writes back both columns as it has loaded them, and can leave a stale token
  in memory, since the copy gets what the store has returned some time ago.

  A step is `Orderly` if it does neither: a change of the scope finds the column it
  is not about as it has loaded it, and a token that is put into memory is the row,
  or another operation on it is still to put there what it reads.  In a run of such
  steps the table holds each last committed value, and memory follows.

  Main results:
    * `field_of_effect` — a statement changes what it commits, and nothing else;
    * `client_tokens_converge` — the run theorem;
    * `client_token_change_lost` — a disabled token that is accepted, and a scope
      that is written back.
-/
import OneAiKey.ClientTokens

namespace OneAiKey

open WriteBehind (waiting)

/-! ## §1. The table after a statement. -/

/-- An update concerns the row with the id, and no other. -/
theorem IdMap.lookup_update {β : Type} (m : IdMap β) (id : String) (f : β → β) (id' : String) :
    (IdMap.update m id f).lookup id' =
      if id' = id then (m.lookup id).map f else m.lookup id' := by
  unfold IdMap.update
  cases hrow : m.lookup id with
  | none =>
      by_cases hid : id' = id
      · rw [if_pos hid, hid]
        exact hrow
      · rw [if_neg hid]
  | some row =>
      by_cases hid : id' = id
      · rw [if_pos hid, hid]
        exact Finmap.lookup_insert m
      · rw [if_neg hid]
        exact Finmap.lookup_insert_of_ne m hid

namespace ClientTokenRows

variable {rows rows' : ClientTokenRows} {id : String} {token : ResolvedClientToken}

/-- A token is loaded from the row with its id. -/
theorem loadTokenById_eq_some :
    rows.loadTokenById id = some token ↔
      token.id = id ∧ rows.rows.lookup id = some token.row := by
  unfold loadTokenById
  rw [Option.map_eq_some_iff]
  constructor
  · intro h
    obtain ⟨row, hrow, rfl⟩ := h
    exact ⟨rfl, hrow⟩
  · intro h
    exact ⟨token.row, h.2, by rw [← h.1]; rfl⟩

/-- An insertion succeeds where no row has the id yet. -/
theorem insertResolvedToken_eq_some (h : rows.insertResolvedToken token = some rows') :
    rows.rows.lookup token.id = none ∧ rows'.rows = rows.rows.insert token.id token.row := by
  unfold insertResolvedToken at h
  split at h
  · next hfree =>
      rw [← Option.some.inj h]
      exact ⟨hfree.1, rfl⟩
  · cases h

/-- The table that is loaded has the tokens that can be loaded one by one. -/
theorem mem_loadTokens : token ∈ loadTokens rows ↔ rows.loadTokenById token.id = some token := by
  unfold loadTokens
  rw [List.mem_insertionSort, List.mem_map, loadTokenById_eq_some]
  constructor
  · intro h
    obtain ⟨entry, hentry, rfl⟩ := h
    exact ⟨rfl, IdMap.mem_sortedEntries.mp hentry⟩
  · intro h
    exact ⟨(token.id, token.row), IdMap.mem_sortedEntries.mpr h.2, rfl⟩

end ClientTokenRows

instance : Std.Total clientTokenLE where
  total a b := by
    unfold clientTokenLE
    rcases lt_trichotomy a.name b.name with h | h | h
    · exact .inl (.inl h)
    · rcases le_total a.id b.id with hid | hid
      · exact .inl (.inr ⟨h, hid⟩)
      · exact .inr (.inr ⟨h.symm, hid⟩)
    · exact .inr (.inl h)

instance : IsTrans ResolvedClientToken clientTokenLE where
  trans a b c hab hbc := by
    unfold clientTokenLE at hab hbc ⊢
    rcases hab with hab | ⟨hab, hid⟩
    · rcases hbc with hbc | ⟨hbc, -⟩
      · exact .inl (lt_trans hab hbc)
      · exact .inl (hbc ▸ hab)
    · rcases hbc with hbc | ⟨hbc, hid'⟩
      · exact .inl (hab ▸ hbc)
      · exact .inr ⟨hab.trans hbc, le_trans hid hid'⟩

/-- Tokens that are equal in the order of the table have the same id. -/
theorem clientTokenLE_antisymm (a b : ResolvedClientToken) (hab : clientTokenLE a b)
    (hba : clientTokenLE b a) : a.id = b.id := by
  rcases hab with hab | ⟨hname, hid⟩
  · rcases hba with hba | ⟨hname, -⟩
    · exact absurd hba (lt_asymm hab)
    · exact absurd hname (ne_of_gt hab)
  · rcases hba with hba | ⟨-, hid'⟩
    · exact absurd hname (ne_of_gt hba)
    · exact le_antisymm hid hid'

/-- No id is loaded twice. -/
theorem distinct_loadTokens (rows : ClientTokenRows) :
    KeyedList.Distinct (·.id) (loadTokens rows) := by
  have hids : KeyedList.Distinct (·.id)
      ((IdMap.sortedEntries rows.rows).map fun entry => rowToClientToken entry.1 entry.2) := by
    unfold KeyedList.Distinct
    rw [List.map_map]
    show ((IdMap.sortedEntries rows.rows).map Prod.fst).Nodup
    rw [IdMap.map_fst_sortedEntries]
    exact IdMap.nodup_sortedKeys rows.rows
  exact hids.perm (List.perm_insertionSort clientTokenLE _)

/-- The table is loaded in its order. -/
theorem pairwise_loadTokens (rows : ClientTokenRows) :
    (loadTokens rows).Pairwise clientTokenLE :=
  List.pairwise_insertionSort clientTokenLE _

/-! ## §2. What a statement does. -/

section Statement

variable (hashToken : String → String)

/-- The statements that succeed, with the table and the phase before and after. -/
inductive StatementEffect (rows : ClientTokenRows) :
    ClientTokenOperation → ClientTokenPhase → ClientTokenRows → ClientTokenPhase → Prop where
  | insert (input : ClientTokenCreate) (rows' : ClientTokenRows) :
      rows.insertResolvedToken (input.resolved hashToken) = some rows' →
      StatementEffect rows (.create input) .audited rows' (.returned (input.resolved hashToken))
  | enable (id : String) (enabled : Bool) (token : ResolvedClientToken) :
      rows.loadTokenById id = some token →
      StatementEffect rows (.setEnabled id enabled) .audited (rows.updateEnabled id enabled)
        .written
  | load (id : String) (update : ClientTokenScopeUpdate) (token : ResolvedClientToken) :
      rows.loadTokenById id = some token →
      StatementEffect rows (.updateScope id update) .audited rows (.loaded (update.patch token))
  | scope (id : String) (update : ClientTokenScopeUpdate) (token : ResolvedClientToken) :
      StatementEffect rows (.updateScope id update) (.loaded token)
        (rows.updateScopeColumns id token.allowedModelGroups token.allowedChannels) .written
  | reload (operation : ClientTokenOperation) (token : ResolvedClientToken) :
      rows.loadTokenById (operation.tokenId hashToken) = some token →
      StatementEffect rows operation .written rows (.returned token)

/-- What a statement does that succeeds. -/
theorem statementEffect_of_ok {rows rows' : ClientTokenRows} {operation : ClientTokenOperation}
    {phase phase' : ClientTokenPhase}
    (h : operation.statement hashToken rows phase = some (.ok (rows', phase'))) :
    StatementEffect hashToken rows operation phase rows' phase' := by
  unfold ClientTokenOperation.statement at h
  split at h
  · -- an insert fails at an empty name or token, and at a row that is there
    next input =>
      have hcreate := Option.some.inj h
      unfold createToken at hcreate
      dsimp only at hcreate
      split at hcreate
      · cases hcreate
      · split at hcreate
        · next hinsert =>
            cases hcreate
            exact .insert input _ hinsert
        · cases hcreate
  -- an update fails at a row that is not there
  · next id enabled =>
      have hwrite := Option.some.inj h
      unfold updateEnabledStatement at hwrite
      split at hwrite
      · next token hrow =>
          cases hwrite
          exact .enable id enabled token hrow
      · cases hwrite
  · next id update =>
      have hload := Option.some.inj h
      unfold loadForScopeStatement at hload
      split at hload
      · next token hrow =>
          cases hload
          exact .load id update token hrow
      · cases hload
  -- the second statement of a scope update has its row from the first
  · next id update token =>
      cases h
      exact .scope id update token
  · have hload := Option.some.inj h
    unfold reloadStatement at hload
    split at hload
    · next token hrow =>
        cases hload
        exact .reload _ token hrow
    · cases hload
  · cases h

/-- A statement that is refused is the first one, or finds no row to load again. -/
theorem phase_of_refused {rows : ClientTokenRows} {operation : ClientTokenOperation}
    {phase : ClientTokenPhase} {err : ClientTokenStoreError}
    (h : operation.statement hashToken rows phase = some (.error err)) :
    phase = .audited ∨
      phase = .written ∧ rows.rows.lookup (operation.tokenId hashToken) = none := by
  unfold ClientTokenOperation.statement at h
  split at h
  · exact .inl rfl
  · exact .inl rfl
  · exact .inl rfl
  · cases h
  · refine .inr ⟨rfl, ?_⟩
    have hload := Option.some.inj h
    unfold reloadStatement at hload
    split at hload
    · cases hload
    · next hnone =>
        unfold ClientTokenRows.loadTokenById at hnone
        exact Option.map_eq_none_iff.mp hnone
  · cases h

/-- A scope that is written back is the one in the table. -/
def ClientTokenOperation.WritesBackTable (rows : ClientTokenRows) :
    ClientTokenOperation → ClientTokenPhase → Prop
  | updateScope id update, .loaded token => ∀ row, rows.rows.lookup id = some row →
      (update.allowedModelGroups = none → token.allowedModelGroups = row.allowedModelGroups) ∧
      (update.allowedChannels = none → token.allowedChannels = row.allowedChannels)
  | _, _ => True

/-- What is asked for, field by field. -/
theorem waiting_changes (operation : ClientTokenOperation) (id : String) (field : TokenField) :
    waiting (operation.changes hashToken) (id, field) =
      if id = operation.tokenId hashToken then (operation.value hashToken field).map some
      else none := by
  unfold ClientTokenOperation.changes
  by_cases hid : id = operation.tokenId hashToken
  · rw [if_pos hid, hid]
    cases henabled : operation.value hashToken .enabled <;>
      cases hgroups : operation.value hashToken .allowedModelGroups <;>
      cases hchannels : operation.value hashToken .allowedChannels <;>
      cases field <;> simp [waiting, henabled, hgroups, hchannels]
  · rw [if_neg hid]
    cases henabled : operation.value hashToken .enabled <;>
      cases hgroups : operation.value hashToken .allowedModelGroups <;>
      cases hchannels : operation.value hashToken .allowedChannels <;>
      simp [waiting, henabled, hgroups, hchannels, hid]

/-- An update that keeps name and hash changes the one field that it is for. -/
theorem field_update (rows : ClientTokenRows) (id : String) {f : ClientTokenRow → ClientTokenRow}
    (hname : ∀ row, (f row).name = row.name) (hhash : ∀ row, (f row).tokenHash = row.tokenHash)
    {row : ClientTokenRow} (hrow : rows.rows.lookup id = some row) (id' : String)
    (field : TokenField) :
    (rows.update id f hname hhash).field (id', field) =
      if id' = id then some ((f row).field field) else rows.field (id', field) := by
  show ((IdMap.update rows.rows id f).lookup id').map (·.field field) = _
  rw [IdMap.lookup_update, hrow]
  by_cases hid : id' = id
  · rw [if_pos hid, if_pos hid]
    rfl
  · rw [if_neg hid, if_neg hid]
    rfl

/-- What a statement that commits the changes of an operation leaves in a field of its token. -/
theorem getD_waiting_changes_self (rows : ClientTokenRows) {operation : ClientTokenOperation}
    {id : String} (hid : id = operation.tokenId hashToken) (field : TokenField) :
    (waiting (operation.changes hashToken) (id, field)).getD (rows.field (id, field)) =
      (operation.value hashToken field).or (rows.field (id, field)) := by
  rw [waiting_changes, if_pos hid]
  cases operation.value hashToken field with
  | none => rfl
  | some value => rfl

/-- A call changes nothing of another token. -/
theorem getD_waiting_changes_of_ne (rows : ClientTokenRows) {operation : ClientTokenOperation}
    {id : String} (hid : id ≠ operation.tokenId hashToken) (field : TokenField) :
    (waiting (operation.changes hashToken) (id, field)).getD (rows.field (id, field)) =
      rows.field (id, field) := by
  rw [waiting_changes, if_neg hid]
  rfl

/-- A statement changes what it commits, and nothing else. -/
theorem field_of_effect {rows rows' : ClientTokenRows} {operation : ClientTokenOperation}
    {phase phase' : ClientTokenPhase}
    (h : StatementEffect hashToken rows operation phase rows' phase')
    (hloaded : ∀ id update token, operation = .updateScope id update → phase = .loaded token →
      (∃ original, token = update.patch original) ∧ ∃ row, rows.rows.lookup id = some row)
    (horderly : operation.WritesBackTable rows phase) (key : String × TokenField) :
    rows'.field key =
      (waiting (operation.committedBy hashToken phase) key).getD (rows.field key) := by
  obtain ⟨id', field⟩ := key
  cases h with
  | insert input rows' hinsert =>
      obtain ⟨-, hrows⟩ := ClientTokenRows.insertResolvedToken_eq_some hinsert
      show (rows'.rows.lookup id').map (·.field field) =
        (waiting ((ClientTokenOperation.create input).changes hashToken) (id', field)).getD _
      by_cases hid : id' = (input.resolved hashToken).id
      · rw [getD_waiting_changes_self hashToken rows hid, hrows, hid, Finmap.lookup_insert]
        rfl
      · rw [getD_waiting_changes_of_ne hashToken rows hid, hrows,
          Finmap.lookup_insert_of_ne _ hid]
        rfl
  | enable id enabled token hload =>
      obtain ⟨-, hrow⟩ := ClientTokenRows.loadTokenById_eq_some.mp hload
      show (rows.updateEnabled id enabled).field (id', field) =
        (waiting ((ClientTokenOperation.setEnabled id enabled).changes hashToken)
          (id', field)).getD _
      rw [ClientTokenRows.updateEnabled, field_update rows id _ _ hrow]
      by_cases hid : id' = id
      · rw [if_pos hid, getD_waiting_changes_self hashToken rows hid, hid]
        unfold ClientTokenRows.field
        rw [hrow]
        cases field <;> rfl
      · rw [if_neg hid, getD_waiting_changes_of_ne hashToken rows hid]
  | load id update token hload => rfl
  | scope id update token =>
      obtain ⟨⟨original, rfl⟩, row, hrow⟩ := hloaded id update token rfl rfl
      obtain ⟨hgroups, hchannels⟩ := horderly row hrow
      show (rows.updateScopeColumns id _ _).field (id', field) =
        (waiting ((ClientTokenOperation.updateScope id update).changes hashToken)
          (id', field)).getD _
      rw [ClientTokenRows.updateScopeColumns, field_update rows id _ _ hrow]
      by_cases hid : id' = id
      · rw [if_pos hid, getD_waiting_changes_self hashToken rows hid, hid]
        unfold ClientTokenRows.field
        rw [hrow]
        -- a column that is not in the update is the one of the row
        cases field with
        | enabled => rfl
        | allowedModelGroups =>
            cases hvalue : update.allowedModelGroups with
            | none => simp [ClientTokenOperation.value, ClientTokenRow.field, hvalue, hgroups]
            | some groups => simp [ClientTokenOperation.value, ClientTokenRow.field, hvalue,
                ClientTokenScopeUpdate.patch]
        | allowedChannels =>
            cases hvalue : update.allowedChannels with
            | none => simp [ClientTokenOperation.value, ClientTokenRow.field, hvalue, hchannels]
            | some channels => simp [ClientTokenOperation.value, ClientTokenRow.field, hvalue,
                ClientTokenScopeUpdate.patch]
      · rw [if_neg hid, getD_waiting_changes_of_ne hashToken rows hid]
  | reload operation token hload =>
      cases operation <;> rfl

/-- A statement leaves the rows of other tokens alone. -/
theorem loadTokenById_of_effect {rows rows' : ClientTokenRows} {operation : ClientTokenOperation}
    {phase phase' : ClientTokenPhase}
    (h : StatementEffect hashToken rows operation phase rows' phase') {id : String}
    (hid : id ≠ operation.tokenId hashToken) :
    rows'.loadTokenById id = rows.loadTokenById id := by
  unfold ClientTokenRows.loadTokenById
  cases h with
  | insert input rows' hinsert =>
      obtain ⟨-, hrows⟩ := ClientTokenRows.insertResolvedToken_eq_some hinsert
      have hne : id ≠ (input.resolved hashToken).id := hid
      rw [hrows, Finmap.lookup_insert_of_ne _ hne]
  | enable id' enabled token hload =>
      show ((IdMap.update rows.rows id' _).lookup id).map _ = _
      rw [IdMap.lookup_update]
      exact congrArg _ (if_neg hid)
  | load id' update token hload => rfl
  | scope id' update token =>
      show ((IdMap.update rows.rows id' _).lookup id).map _ = _
      rw [IdMap.lookup_update]
      exact congrArg _ (if_neg hid)
  | reload operation token hload => rfl

/-- An update loses no row. -/
theorem exists_row_update {rows : IdMap ClientTokenRow} {id id' : String} {row : ClientTokenRow}
    (f : ClientTokenRow → ClientTokenRow) (hrow : rows.lookup id = some row) :
    ∃ row', (IdMap.update rows id' f).lookup id = some row' := by
  rw [IdMap.lookup_update]
  by_cases hid : id = id'
  · rw [if_pos hid, ← hid, hrow]
    exact ⟨f row, rfl⟩
  · rw [if_neg hid]
    exact ⟨row, hrow⟩

/-- No statement takes a row away. -/
theorem exists_row_of_effect {rows rows' : ClientTokenRows} {operation : ClientTokenOperation}
    {phase phase' : ClientTokenPhase}
    (h : StatementEffect hashToken rows operation phase rows' phase') {id : String}
    {row : ClientTokenRow} (hrow : rows.rows.lookup id = some row) :
    ∃ row', rows'.rows.lookup id = some row' := by
  cases h with
  | insert input rows' hinsert =>
      obtain ⟨-, hrows⟩ := ClientTokenRows.insertResolvedToken_eq_some hinsert
      rw [hrows]
      by_cases hid : id = (input.resolved hashToken).id
      · rw [hid]
        exact ⟨_, Finmap.lookup_insert _⟩
      · rw [Finmap.lookup_insert_of_ne _ hid]
        exact ⟨row, hrow⟩
  | enable id' enabled token hload => exact exists_row_update _ hrow
  | load id' update token hload => exact ⟨row, hrow⟩
  | scope id' update token => exact exists_row_update _ hrow
  | reload operation token hload => exact ⟨row, hrow⟩

end Statement

/-! ## §3. What the operations under way stand for. -/

section Calls

variable (hashToken : String → String)

/-- Each field that the operation was asked to change has a committed value. -/
def ClientTokenOperation.Committed (operation : ClientTokenOperation)
    (committed : List TokenChange) : Prop :=
  ∀ change ∈ operation.changes hashToken, ∃ value, waiting committed change.1 = some value

/-- What the phase of an operation says of the table. -/
def ClientTokenCall.Sound (rows : ClientTokenRows) (committed : List TokenChange)
    (call : ClientTokenCall) : Prop :=
  match call.phase with
  | .checked | .audited | .finished (.error _) => True
  | .loaded token => ∃ id update original row, call.operation = .updateScope id update ∧
      token = update.patch original ∧ rows.rows.lookup id = some row
  | .written => (∃ row, rows.rows.lookup (call.operation.tokenId hashToken) = some row) ∧
      call.operation.Committed hashToken committed
  | .returned token => token.id = call.operation.tokenId hashToken ∧
      call.operation.Committed hashToken committed
  | .finished (.ok _) => call.operation.Committed hashToken committed

/-- The operation is still to put into memory what the table holds. -/
def ClientTokenCall.Owes (rows : ClientTokenRows) (id : String) (call : ClientTokenCall) : Prop :=
  call.operation.tokenId hashToken = id ∧
    (call.phase = .written ∨
      ∃ token, call.phase = .returned token ∧ rows.loadTokenById id = some token)

namespace ClientTokenState

variable (s : ClientTokenState)

/-- Memory has what the table has under the id. -/
def Agrees (id : String) : Prop :=
  ∀ token, token.id = id → (token ∈ s.clientTokens ↔ s.rows.loadTokenById id = some token)

/-- Another call has still to bring the token into the runtime. -/
def OwedByOther (n : Nat) (id : String) : Prop :=
  ∃ m call, m ≠ n ∧ s.calls m = some call ∧ call.Owes hashToken s.rows id

/-- The runtime has the token as the table has it, or a call has still to bring it there. -/
def Settled (id : String) : Prop :=
  s.Agrees id ∨ ∃ m call, s.calls m = some call ∧ call.Owes hashToken s.rows id

/-- The step neither writes back a scope that has changed since, nor leaves memory behind the
table for good. -/
def Orderly : ClientTokenEvent → Prop
  | .statement n => ∀ call, s.calls n = some call →
      call.operation.WritesBackTable s.rows call.phase
  | .replace n => ∀ operation token, s.calls n = some ⟨operation, .returned token⟩ →
      s.rows.loadTokenById token.id = some token ∨ s.OwedByOther hashToken n token.id
  | .fail n _ => ∀ operation, s.calls n = some ⟨operation, .written⟩ →
      s.Agrees (operation.tokenId hashToken) ∨
        s.OwedByOther hashToken n (operation.tokenId hashToken)
  | .start _ _ _ | .record _ _ => True

structure Converging : Prop where
  sound : ∀ n call, s.calls n = some call → call.Sound hashToken s.rows s.committed
  kept : ∀ key value, waiting s.committed key = some value → s.rows.field key = value
  settled : ∀ id, s.Settled hashToken id
  distinct : KeyedList.Distinct (·.id) s.clientTokens
  sorted : s.clientTokens.Pairwise clientTokenLE

end ClientTokenState

variable {hashToken} {s s' : ClientTokenState}

/-- What a call relies on stays true while other calls commit. -/
theorem ClientTokenCall.Sound.mono {rows rows' : ClientTokenRows}
    {committed committed' : List TokenChange} {call : ClientTokenCall}
    (h : call.Sound hashToken rows committed)
    (hrows : ∀ id row, rows.rows.lookup id = some row →
      ∃ row', rows'.rows.lookup id = some row')
    (hcommitted : ∀ key value, waiting committed key = some value →
      ∃ value', waiting committed' key = some value') :
    call.Sound hashToken rows' committed' := by
  have hasked : call.operation.Committed hashToken committed →
      call.operation.Committed hashToken committed' := by
    intro hall change hchange
    obtain ⟨value, hvalue⟩ := hall change hchange
    exact hcommitted change.1 value hvalue
  obtain ⟨operation, phase⟩ := call
  -- by the phase: what it relies on is kept by the other calls
  cases phase with
  | checked => trivial
  | audited => trivial
  | loaded token =>
      obtain ⟨id, update, original, row, hoperation, htoken, hrow⟩ := h
      obtain ⟨row', hrow'⟩ := hrows id row hrow
      exact ⟨id, update, original, row', hoperation, htoken, hrow'⟩
  | written =>
      obtain ⟨⟨row, hrow⟩, hall⟩ := h
      exact ⟨hrows _ row hrow, hasked hall⟩
  | returned token => exact ⟨h.1, hasked h.2⟩
  | finished result =>
      cases result with
      | ok token => exact hasked h
      | error err => trivial

/-- What a state that differs in one call has in its other calls. -/
theorem calls_update {n m : Nat} {new call : ClientTokenCall}
    {calls : Nat → Option ClientTokenCall}
    (h : Function.update calls n (some new) m = some call) :
    (m = n ∧ call = new) ∨ (m ≠ n ∧ calls m = some call) := by
  by_cases hm : m = n
  · rw [hm, Function.update_self] at h
    exact .inl ⟨hm, (Option.some.inj h).symm⟩
  · rw [Function.update_of_ne hm] at h
    exact .inr ⟨hm, h⟩

/-- A step of one operation leaves a token settled that it has nothing to do with. -/
theorem ClientTokenState.Settled.of_other {n : Nat} {id : String} (h : s.Settled hashToken id)
    (hrows : s'.rows.loadTokenById id = s.rows.loadTokenById id)
    (htokens : ∀ token, token.id = id → (token ∈ s'.clientTokens ↔ token ∈ s.clientTokens))
    (hcalls : ∀ m, m ≠ n → s'.calls m = s.calls m)
    (hn : ∀ call, s.calls n = some call → ¬ call.Owes hashToken s.rows id) :
    s'.Settled hashToken id := by
  rcases h with hagrees | ⟨m, call, hcall, howes⟩
  · left
    intro token htoken
    rw [htokens token htoken, hrows]
    exact hagrees token htoken
  · right
    have hm : m ≠ n := by
      intro hm
      rw [hm] at hcall
      exact hn call hcall howes
    refine ⟨m, call, ?_, howes.1, ?_⟩
    · rw [hcalls m hm]
      exact hcall
    · rw [hrows]
      exact howes.2

/-- What another operation owes, it owes still. -/
theorem ClientTokenState.OwedByOther.settled {n : Nat} {id : String}
    (h : s.OwedByOther hashToken n id)
    (hrows : s'.rows.loadTokenById id = s.rows.loadTokenById id)
    (hcalls : ∀ m, m ≠ n → s'.calls m = s.calls m) : s'.Settled hashToken id := by
  obtain ⟨m, call, hm, hcall, hid, howes⟩ := h
  refine .inr ⟨m, call, ?_, hid, ?_⟩
  · rw [hcalls m hm]
    exact hcall
  · rw [hrows]
    exact howes

/-! ## §4. The steps. -/

/-- The invariant after a step that changes the phase of one call and nothing else. -/
theorem ClientTokenState.Converging.of_call (h : s.Converging hashToken) {n : Nat}
    {new : ClientTokenCall}
    (hrows : s'.rows = s.rows) (hcommitted : s'.committed = s.committed)
    (htokens : s'.clientTokens = s.clientTokens)
    (hcalls : s'.calls = Function.update s.calls n (some new))
    (hsound : new.Sound hashToken s.rows s.committed)
    (hsettled : ∀ id, s'.Settled hashToken id) : s'.Converging hashToken where
  sound m call hcall := by
    rw [hcalls] at hcall
    rw [hrows, hcommitted]
    rcases calls_update hcall with ⟨-, rfl⟩ | ⟨-, hcall⟩
    · exact hsound
    · exact h.sound m call hcall
  kept := by
    rw [hrows, hcommitted]
    exact h.kept
  settled := hsettled
  distinct := by
    rw [htokens]
    exact h.distinct
  sorted := by
    rw [htokens]
    exact h.sorted

/-- A step that changes the phase of an operation which owes nothing, and no table. -/
theorem ClientTokenState.Converging.of_idle_call (h : s.Converging hashToken) {n : Nat}
    {new : ClientTokenCall}
    (hrows : s'.rows = s.rows) (hcommitted : s'.committed = s.committed)
    (htokens : s'.clientTokens = s.clientTokens)
    (hcalls : s'.calls = Function.update s.calls n (some new))
    (hsound : new.Sound hashToken s.rows s.committed)
    (hn : ∀ call id, s.calls n = some call → ¬ call.Owes hashToken s.rows id) :
    s'.Converging hashToken := by
  refine h.of_call hrows hcommitted htokens hcalls hsound fun id => ?_
  refine (h.settled id).of_other (by rw [hrows]) (fun token _ => by rw [htokens]) ?_
    fun call hcall => hn call id hcall
  intro m hm
  rw [hcalls, Function.update_of_ne hm]

/-- A call owes the runtime a token only behind its statement. -/
theorem not_owes_of_phase {rows : ClientTokenRows} {id : String} {call : ClientTokenCall}
    (hwritten : call.phase ≠ .written) (hreturned : ∀ token, call.phase ≠ .returned token) :
    ¬ call.Owes hashToken rows id := by
  intro howes
  rcases howes.2 with hphase | ⟨token, hphase, -⟩
  · exact hwritten hphase
  · exact hreturned token hphase

/-- A new call owes nothing. -/
theorem ClientTokenState.Converging.start (h : s.Converging hashToken) {n : Nat}
    {request : ClientTokenRequest} {knownChannel : String → Bool} (hfree : s.calls n = none) :
    (s.start hashToken n request knownChannel).Converging hashToken := by
  unfold ClientTokenState.start
  split
  · exact h
  · split
    · exact h
    · refine h.of_idle_call rfl rfl rfl rfl trivial ?_
      intro call id hcall
      rw [hfree] at hcall
      cases hcall

/-- The audit record changes neither table nor runtime. -/
theorem ClientTokenState.Converging.record (h : s.Converging hashToken) {n : Nat}
    {operation : ClientTokenOperation} {audits : List ManagementAuditEvent}
    (hcall : s.calls n = some ⟨operation, .checked⟩) :
    ({ s.setCall n operation .audited with audits := audits }).Converging hashToken := by
  refine h.of_idle_call rfl rfl rfl rfl trivial ?_
  intro call id hcall'
  rw [hcall] at hcall'
  rw [← Option.some.inj hcall']
  exact not_owes_of_phase nofun nofun

/-- A call that fails leaves nothing behind that the runtime would have to get. -/
theorem ClientTokenState.Converging.fail (h : s.Converging hashToken) {n : Nat} {message : String}
    {operation : ClientTokenOperation} {phase : ClientTokenPhase} {err : ManagementServiceError}
    (hcall : s.calls n = some ⟨operation, phase⟩)
    (hfailure : phase.failure message = some err)
    (horderly : s.Orderly hashToken (.fail n message)) :
    (s.setCall n operation (.finished (.error err))).Converging hashToken := by
  -- an operation that has not written owes nothing
  have hidle : phase ≠ .written →
      (s.setCall n operation (.finished (.error err))).Converging hashToken := by
    intro hwritten
    refine h.of_idle_call rfl rfl rfl rfl trivial ?_
    intro call id hcall'
    rw [hcall] at hcall'
    rw [← Option.some.inj hcall']
    refine not_owes_of_phase hwritten ?_
    intro token hphase
    have hreturned : phase = .returned token := hphase
    rw [hreturned] at hfailure
    cases hfailure
  cases phase with
  | checked => exact hidle nofun
  | audited => exact hidle nofun
  | loaded token => exact hidle nofun
  | written =>
      refine h.of_call rfl rfl rfl rfl trivial fun id => ?_
      have hother : ∀ m, m ≠ n →
          (s.setCall n operation (.finished (.error err))).calls m = s.calls m :=
        fun m hm => Function.update_of_ne hm _ _
      by_cases hid : id = operation.tokenId hashToken
      · -- what the operation owed is there, or owed by another one
        rw [hid]
        rcases horderly operation hcall with hagrees | howed
        · exact .inl hagrees
        · exact howed.settled rfl hother
      · refine (h.settled id).of_other rfl (fun token _ => Iff.rfl) hother ?_
        intro call hcall' howes
        rw [hcall] at hcall'
        rw [← Option.some.inj hcall'] at howes
        exact hid howes.1.symm
  | returned token => cases hfailure
  | finished result => cases hfailure

/-- A replacement settles its token if the table still has what the call has read. -/
theorem ClientTokenState.Converging.replace (h : s.Converging hashToken) {n : Nat}
    {operation : ClientTokenOperation} {token : ResolvedClientToken}
    (hcall : s.calls n = some ⟨operation, .returned token⟩)
    (horderly : s.Orderly hashToken (.replace n)) :
    ({ s.setCall n operation (.finished (.ok token)) with
      clientTokens := replaceRuntimeClientToken s.clientTokens token }).Converging hashToken := by
  obtain ⟨hid, hasked⟩ := h.sound n _ hcall
  have hmem : ∀ other, other ∈ replaceRuntimeClientToken s.clientTokens token ↔
      other = token ∨ (other ∈ s.clientTokens ∧ other.id ≠ token.id) := by
    intro other
    unfold replaceRuntimeClientToken
    rw [List.mem_insertionSort, KeyedList.mem_put h.distinct]
  have hother : ∀ m, m ≠ n →
      (s.setCall n operation (.finished (.ok token))).calls m = s.calls m :=
    fun m hm => Function.update_of_ne hm _ _
  constructor
  · intro m call hcall'
    rcases calls_update hcall' with ⟨-, rfl⟩ | ⟨-, hcall'⟩
    · exact hasked
    · exact h.sound m call hcall'
  · exact h.kept
  · intro id
    -- only the id of the token that is put is in question
    by_cases hne : id = token.id
    · rw [hne]
      rcases horderly operation token hcall with hrow | howed
      · -- the token is the row
        left
        intro other hother'
        show other ∈ replaceRuntimeClientToken s.clientTokens token ↔
          s.rows.loadTokenById token.id = some other
        rw [hmem other, hrow]
        constructor
        · intro hin
          rcases hin with rfl | ⟨-, hdiffers⟩
          · rfl
          · exact absurd hother' hdiffers
        · intro hsame
          exact .inl (Option.some.inj hsame).symm
      · exact howed.settled rfl hother
    · refine (h.settled id).of_other rfl ?_ hother ?_
      · intro other hother'
        show other ∈ replaceRuntimeClientToken s.clientTokens token ↔ other ∈ s.clientTokens
        rw [hmem other]
        constructor
        · intro hin
          rcases hin with rfl | hin
          · exact absurd hother'.symm hne
          · exact hin.1
        · intro hin
          exact .inr ⟨hin, by rw [hother']; exact hne⟩
      · intro call hcall' howes
        rw [hcall] at hcall'
        rw [← Option.some.inj hcall'] at howes
        exact hne (howes.1.symm.trans hid.symm)
  · exact (h.distinct.put token).perm (List.perm_insertionSort clientTokenLE _)
  · exact List.pairwise_insertionSort clientTokenLE _

/-- A statement that is refused has changed nothing. -/
theorem ClientTokenState.Converging.statement_error (h : s.Converging hashToken) {n : Nat}
    {call : ClientTokenCall} {err : ClientTokenStoreError} (hcall : s.calls n = some call)
    (hresult : call.operation.statement hashToken s.rows call.phase = some (.error err)) :
    (s.afterStatement hashToken n call (.error err)).Converging hashToken := by
  refine h.of_idle_call rfl rfl rfl rfl trivial ?_
  intro call' id hcall'
  rw [hcall] at hcall'
  rw [← Option.some.inj hcall']
  rcases phase_of_refused hashToken hresult with hphase | ⟨hphase, hnone⟩
  · refine not_owes_of_phase ?_ fun token => ?_
    · rw [hphase]
      nofun
    · rw [hphase]
      nofun
  · -- the row that is to be loaded again is there
    obtain ⟨operation, phase⟩ := call
    have hwritten : phase = .written := hphase
    rw [hwritten] at hcall
    obtain ⟨⟨row, hrow⟩, -⟩ := h.sound n _ hcall
    exact absurd (hrow.symm.trans hnone) nofun

/-- What a statement commits is committed. -/
theorem committed_of_effect {rows rows' : ClientTokenRows} {committed : List TokenChange}
    {operation : ClientTokenOperation} {phase phase' : ClientTokenPhase}
    (h : StatementEffect hashToken rows operation phase rows' phase')
    (hsound : (⟨operation, phase⟩ : ClientTokenCall).Sound hashToken rows committed) :
    (∃ update token, phase' = .loaded token ∧ operation = .updateScope
        (operation.tokenId hashToken) update) ∨
      operation.Committed hashToken (committed ++ operation.committedBy hashToken phase) := by
  have hall : operation.Committed hashToken
      (committed ++ operation.changes hashToken) := by
    intro change hchange
    obtain ⟨value, hvalue⟩ := WriteBehind.exists_waiting_of_mem hchange
    refine ⟨value, ?_⟩
    rw [WriteBehind.waiting_append, hvalue]
    rfl
  cases h with
  | insert input rows' hinsert => exact .inr hall
  | enable id enabled token hload => exact .inr hall
  | load id update token hload => exact .inl ⟨update, _, rfl, rfl⟩
  | scope id update token => exact .inr hall
  | reload operation token hload =>
      right
      have hnothing : operation.committedBy hashToken .written = [] := by
        cases operation <;> rfl
      rw [hnothing, List.append_nil]
      exact hsound.2

/-- After a statement, its operation owes what the table holds, unless it has only loaded. -/
theorem owes_of_effect {rows rows' : ClientTokenRows} {operation : ClientTokenOperation}
    {phase phase' : ClientTokenPhase}
    (h : StatementEffect hashToken rows operation phase rows' phase') :
    (phase = .audited ∧ rows' = rows) ∨
      (⟨operation, phase'⟩ : ClientTokenCall).Owes hashToken rows'
        (operation.tokenId hashToken) := by
  cases h with
  | insert input rows' hinsert =>
      obtain ⟨-, hrows⟩ := ClientTokenRows.insertResolvedToken_eq_some hinsert
      refine .inr ⟨rfl, .inr ⟨_, rfl, ?_⟩⟩
      show rows'.loadTokenById (input.resolved hashToken).id = _
      rw [ClientTokenRows.loadTokenById_eq_some, hrows]
      exact ⟨rfl, Finmap.lookup_insert _⟩
  | enable id enabled token hload => exact .inr ⟨rfl, .inl rfl⟩
  | load id update token hload => exact .inl ⟨rfl, rfl⟩
  | scope id update token => exact .inr ⟨rfl, .inl rfl⟩
  | reload operation token hload => exact .inr ⟨rfl, .inr ⟨token, rfl, hload⟩⟩

/-- A call is sound after its own statement. -/
theorem sound_of_effect {rows rows' : ClientTokenRows} {committed : List TokenChange}
    {operation : ClientTokenOperation} {phase phase' : ClientTokenPhase}
    (h : StatementEffect hashToken rows operation phase rows' phase')
    (hsound : (⟨operation, phase⟩ : ClientTokenCall).Sound hashToken rows committed) :
    (⟨operation, phase'⟩ : ClientTokenCall).Sound hashToken rows'
      (committed ++ operation.committedBy hashToken phase) := by
  -- what the statement commits, unless the loaded token is still to be written
  have hcommitted := committed_of_effect h hsound
  -- by the statement: each finds the row that the next one needs
  cases h with
  | insert input rows' hinsert =>
      rcases hcommitted with ⟨update, token, hphase, -⟩ | hall
      · cases hphase
      · exact ⟨rfl, hall⟩
  | enable id enabled token hload =>
      rcases hcommitted with ⟨update, token, hphase, -⟩ | hall
      · cases hphase
      · obtain ⟨-, hrow⟩ := ClientTokenRows.loadTokenById_eq_some.mp hload
        exact ⟨exists_row_update _ hrow, hall⟩
  | load id update token hload =>
      obtain ⟨-, hrow⟩ := ClientTokenRows.loadTokenById_eq_some.mp hload
      exact ⟨id, update, token, _, rfl, rfl, hrow⟩
  | scope id update token =>
      rcases hcommitted with ⟨update, token, hphase, -⟩ | hall
      · cases hphase
      · obtain ⟨id', update', original, row, hoperation, -, hrow⟩ := hsound
        cases hoperation
        exact ⟨exists_row_update _ hrow, hall⟩
  | reload operation token hload =>
      rcases hcommitted with ⟨update, token, hphase, -⟩ | hall
      · cases hphase
      · exact ⟨(ClientTokenRows.loadTokenById_eq_some.mp hload).1, hall⟩

/-- A statement changes the table, and the call owes the change to the runtime. -/
theorem ClientTokenState.Converging.statement_ok (h : s.Converging hashToken) {n : Nat}
    {call : ClientTokenCall} {rows : ClientTokenRows} {phase : ClientTokenPhase}
    (hcall : s.calls n = some call)
    (hresult : call.operation.statement hashToken s.rows call.phase = some (.ok (rows, phase)))
    (horderly : s.Orderly hashToken (.statement n)) :
    (s.afterStatement hashToken n call (.ok (rows, phase))).Converging hashToken := by
  have heffect := statementEffect_of_ok hashToken hresult
  have hsound := h.sound n call hcall
  -- the row after the statement: what it has written, else what was there
  have hfield : ∀ key, rows.field key =
      (waiting (call.operation.committedBy hashToken call.phase) key).getD (s.rows.field key) := by
    refine field_of_effect hashToken heffect ?_ (horderly call hcall)
    intro id update token hoperation hphase
    obtain ⟨operation, phase⟩ := call
    have hloaded : phase = .loaded token := hphase
    rw [hloaded] at hsound
    obtain ⟨id', update', original, row, hsame, rfl, hrow⟩ := hsound
    cases hoperation.symm.trans hsame
    exact ⟨⟨original, rfl⟩, row, hrow⟩
  have hother : ∀ m, m ≠ n →
      (s.afterStatement hashToken n call (.ok (rows, phase))).calls m = s.calls m :=
    fun m hm => Function.update_of_ne hm _ _
  constructor
  · intro m call' hcall'
    rcases calls_update hcall' with ⟨-, rfl⟩ | ⟨-, hcall'⟩
    · exact sound_of_effect heffect hsound
    · refine (h.sound m call' hcall').mono ?_ ?_
      -- only the token of this call can have become unsettled
      · intro id row hrow
        exact exists_row_of_effect hashToken heffect hrow
      · -- what was committed before stays so, or is committed anew
        intro key value hvalue
        show ∃ value', waiting (s.committed ++ _) key = some value'
        rw [WriteBehind.waiting_append, hvalue]
        cases waiting (call.operation.committedBy hashToken call.phase) key with
        | none => exact ⟨value, rfl⟩
        | some later => exact ⟨later, rfl⟩
  · -- the last value is this statement's, or the one that the row had
    intro key value hvalue
    show rows.field key = value
    have hlast : waiting (s.committed ++ call.operation.committedBy hashToken call.phase) key =
        some value := hvalue
    rw [WriteBehind.waiting_append] at hlast
    rw [hfield key]
    cases hlater : waiting (call.operation.committedBy hashToken call.phase) key with
    | none =>
        rw [hlater] at hlast
        exact h.kept key value hlast
    | some later =>
        rw [hlater] at hlast
        exact Option.some.inj hlast
  · intro id
    by_cases hid : id = call.operation.tokenId hashToken
    · rcases owes_of_effect heffect with ⟨hphase, hrows⟩ | howes
      · -- only loaded: nothing is owed that was not before
        refine (h.settled id).of_other ?_ (fun token _ => Iff.rfl) hother ?_
        · exact congrArg (fun rows => ClientTokenRows.loadTokenById rows id) hrows
        · intro call' hcall'
          rw [hcall] at hcall'
          rw [← Option.some.inj hcall']
          refine not_owes_of_phase ?_ fun token => ?_
          · rw [hphase]
            nofun
          · rw [hphase]
            nofun
      · -- the operation has yet to put its token into memory
        refine .inr ⟨n, ⟨call.operation, phase⟩, ?_, ?_⟩
        · exact Function.update_self _ _ _
        · rw [hid]
          exact howes
    · refine (h.settled id).of_other ?_ (fun token _ => Iff.rfl) hother ?_
      · exact loadTokenById_of_effect hashToken heffect hid
      · intro call' hcall' howes
        rw [hcall] at hcall'
        rw [← Option.some.inj hcall'] at howes
        exact hid howes.1.symm
  · exact h.distinct
  · exact h.sorted

/-- Every orderly step keeps the invariant, by the kind of event. -/
theorem ClientTokenState.Converging.step {event : ClientTokenEvent} (h : s.Converging hashToken)
    (hstep : (clientTokenSystem hashToken).Step s event s')
    (horderly : s.Orderly hashToken event) : s'.Converging hashToken := by
  cases event with
  | start n request knownChannel =>
      obtain ⟨hfree, rfl⟩ := hstep
      exact h.start hfree
  | record n actor =>
      obtain ⟨operation, hcall, rfl⟩ := hstep
      exact h.record hcall
  | statement n =>
      obtain ⟨call, result, hcall, hresult, rfl⟩ := hstep
      cases result with
      | error err => exact h.statement_error hcall hresult
      | ok after => exact h.statement_ok hcall hresult horderly
  | fail n message =>
      obtain ⟨operation, phase, err, hcall, hfailure, rfl⟩ := hstep
      exact h.fail hcall hfailure horderly
  | replace n =>
      obtain ⟨operation, token, hcall, rfl⟩ := hstep
      exact h.replace hcall horderly

/-- At the start, runtime and table agree. -/
theorem ClientTokenState.Converging.init (h : (clientTokenSystem hashToken).Init s) :
    s.Converging hashToken := by
  obtain ⟨htokens, hcalls, hcommitted⟩ := h
  constructor
  · intro n call hcall
    rw [hcalls n] at hcall
    cases hcall
  · intro key value hvalue
    rw [hcommitted] at hvalue
    cases hvalue
  · intro id
    left
    intro token htoken
    rw [htokens, ClientTokenRows.mem_loadTokens, htoken]
  · rw [htokens]
    exact distinct_loadTokens s.rows
  · rw [htokens]
    exact pairwise_loadTokens s.rows

/-! ## §5. Runs. -/

/-- Once nothing is under way, memory is what a start would load. -/
theorem ClientTokenState.Converging.eq_loadTokens (h : s.Converging hashToken) (hidle : s.Idle) :
    s.clientTokens = loadTokens s.rows := by
  refine h.distinct.eq_of_sorted (distinct_loadTokens s.rows) clientTokenLE_antisymm h.sorted
    (pairwise_loadTokens s.rows) fun token => ?_
  rw [ClientTokenRows.mem_loadTokens]
  rcases h.settled token.id with hagrees | ⟨n, call, hcall, howes⟩
  · exact hagrees token rfl
  · obtain ⟨result, hfinished⟩ := hidle n call hcall
    refine absurd howes (not_owes_of_phase ?_ fun token => ?_)
    · rw [hfinished]
      nofun
    · rw [hfinished]
      nofun

/-- No client of the table has the hash of a row that is disabled. -/
theorem authorizeClient_loadTokens_of_disabled {rows : ClientTokenRows} {id : String}
    {row : ClientTokenRow} (hrow : rows.rows.lookup id = some row) (hdisabled : row.enabled = false)
    {authorization : Option String} {token : String}
    (hbearer : bearerToken authorization = some token) (hhash : hashToken token = row.tokenHash) :
    authorizeClient hashToken (loadTokens rows) authorization = none := by
  unfold authorizeClient
  rw [hbearer]
  show ((loadTokens rows).find? _).map _ = none
  rw [Option.map_eq_none_iff, List.find?_eq_none]
  intro client hclient hmatches
  rw [ClientTokenRows.mem_loadTokens] at hclient
  obtain ⟨-, hclientRow⟩ := ClientTokenRows.loadTokenById_eq_some.mp hclient
  obtain ⟨henabled, hsame⟩ := Bool.and_eq_true_iff.mp hmatches
  have hid : client.id = id := rows.tokenHash_unique _ _ _ _ hclientRow hrow
    ((eq_of_beq hsame).trans hhash)
  rw [hid, hrow] at hclientRow
  have hflag : client.enabled = row.enabled := by
    rw [Option.some.inj hclientRow]
    rfl
  rw [hflag, hdisabled] at henabled
  cases henabled

/-- In a run of orderly steps, each field that an operation has changed holds the value that
was committed last, and of an operation that has succeeded each field has such a value.  When
nothing is under way, memory is the table, and a token that was last disabled is not
accepted. -/
theorem client_tokens_converge (hashToken : String → String) (s : ClientTokenState)
    (h : ((clientTokenSystem hashToken).restrict (·.Orderly hashToken)).Reachable s) :
    (∀ key value, waiting s.committed key = some value → s.rows.field key = value) ∧
    (∀ n operation token, s.calls n = some ⟨operation, .finished (.ok token)⟩ →
      ∀ change ∈ operation.changes hashToken, ∃ value,
        waiting s.committed change.1 = some value) ∧
    (s.Idle → s.clientTokens = loadTokens s.rows ∧
      ∀ id, waiting s.committed (id, .enabled) = some (some (.flag false)) →
        ∀ row, s.rows.rows.lookup id = some row →
        ∀ authorization token, bearerToken authorization = some token →
          hashToken token = row.tokenHash →
          authorizeClient hashToken s.clientTokens authorization = none) := by
  have hs : s.Converging hashToken := h.invariant (fun _ => .init)
    fun _ _ _ hs hstep => hs.step hstep.1 hstep.2
  refine ⟨hs.kept, ?_, ?_⟩
  · intro n operation token hcall
    exact hs.sound n _ hcall
  · intro hidle
    have htokens := hs.eq_loadTokens hidle
    refine ⟨htokens, ?_⟩
    intro id hlast row hrow authorization token hbearer hhash
    have hfield := hs.kept _ _ hlast
    unfold ClientTokenRows.field at hfield
    rw [hrow] at hfield
    have hdisabled : row.enabled = false :=
      TokenValue.flag.inj (Option.some.inj (Option.some.inj (congrArg some hfield)))
    rw [htokens]
    exact authorizeClient_loadTokens_of_disabled hrow hdisabled hbearer hhash

end Calls

/-! ## §6. Operations on one token. -/

def digestOf (token : String) : String := "digest of " ++ token

/-- A token for the model `gpt-4o`. -/
def teamToken : ResolvedClientToken :=
  ⟨"client_team", "team", "digest of secret", true, ["gpt-4o"], []⟩

/-- The table with this token, loaded. -/
def teamState : ClientTokenState where
  rows := (ClientTokenRows.empty.insertResolvedToken teamToken).getD .empty
  clientTokens := [teamToken]
  audits := []
  calls _ := none
  committed := []

theorem teamState_init : (clientTokenSystem digestOf).Init teamState :=
  ⟨rfl, fun _ => rfl, rfl⟩

def adminActor : ManagementEventActor := ⟨"management_admin", "admin", "admin"⟩

theorem orderly_statement {s : ClientTokenState} {n : Nat} {call : ClientTokenCall}
    (hcall : s.calls n = some call) (h : call.operation.WritesBackTable s.rows call.phase) :
    s.Orderly digestOf (.statement n) := by
  intro call' hcall'
  rw [hcall] at hcall'
  rw [← Option.some.inj hcall']
  exact h

theorem orderly_replace {s : ClientTokenState} {n : Nat} {operation : ClientTokenOperation}
    {token : ResolvedClientToken} (hcall : s.calls n = some ⟨operation, .returned token⟩)
    (hrow : s.rows.loadTokenById token.id = some token) : s.Orderly digestOf (.replace n) := by
  intro operation' token' hcall'
  rw [hcall] at hcall'
  cases hcall'
  exact .inl hrow

/-- The token is disabled, and nothing comes between. -/
theorem client_tokens_converge_disable :
    ∃ s : ClientTokenState, s.Idle ∧
      waiting s.committed ("client_team", .enabled) = some (some (.flag false)) ∧
      s.clientTokens = loadTokens s.rows ∧
      authorizeClient digestOf s.clientTokens (some "Bearer secret") = none := by
  have hreachable : ∃ s,
      ((clientTokenSystem digestOf).restrict (·.Orderly digestOf)).Reachable s ∧ s.Idle ∧
      waiting s.committed ("client_team", .enabled) = some (some (.flag false)) ∧
      s.rows.rows.lookup "client_team" = some { teamToken.row with enabled := false } := by
    -- the operation alone, step by step, and then the replacement of the tokens
    refine ⟨_, ⟨teamState, [.start 0 (.setEnabled "client_team" false) fun _ => true,
      .record 0 adminActor, .statement 0, .statement 0, .replace 0], teamState_init,
      .cons ⟨⟨rfl, rfl⟩, trivial⟩ (.cons ⟨⟨_, rfl, rfl⟩, trivial⟩
        (.cons ⟨⟨_, _, rfl, rfl, rfl⟩, orderly_statement rfl trivial⟩
        (.cons ⟨⟨_, _, rfl, rfl, rfl⟩, orderly_statement rfl trivial⟩
        (.cons ⟨⟨_, _, rfl, rfl⟩, orderly_replace rfl rfl⟩ (.nil _)))))⟩, ?_, ?_, ?_⟩
    · intro n call hcall
      match n with
      | 0 => exact ⟨_, congrArg _ (Option.some.inj hcall).symm⟩
      | n + 1 => cases hcall
    · rfl
    · rfl
  obtain ⟨s, hs, hidle, hlast, hrow⟩ := hreachable
  obtain ⟨htokens, hdisabled⟩ := (client_tokens_converge digestOf s hs).2.2 hidle
  exact ⟨s, hidle, hlast, htokens, hdisabled _ hlast _ hrow (some "Bearer secret") "secret" rfl rfl⟩

/-- A token that was last disabled is accepted, since a change of its scope puts into memory
what it has loaded before; and of two changes of the scope the later one writes back what the
earlier one has changed. -/
theorem client_token_change_lost :
    (∃ s, (clientTokenSystem digestOf).Reachable s ∧ s.Idle ∧
      waiting s.committed ("client_team", .enabled) = some (some (.flag false)) ∧
      s.clientTokens ≠ loadTokens s.rows ∧
      authorizeClient digestOf s.clientTokens (some "Bearer secret") ≠ none) ∧
    ∃ s, (clientTokenSystem digestOf).Reachable s ∧ s.Idle ∧
      waiting s.committed ("client_team", .allowedModelGroups) =
        some (some (.scope ["gpt-5"])) ∧
      s.rows.field ("client_team", .allowedModelGroups) = some (.scope ["gpt-4o"]) := by
  -- first a token that stays enabled in memory, then a scope that is overwritten in the table
  constructor
  · refine ⟨_, ⟨teamState, [.start 0 (.updateScope "client_team" (some ["gpt-5"]) none)
      fun _ => true, .start 1 (.setEnabled "client_team" false) fun _ => true,
      .record 0 adminActor, .record 1 adminActor, .statement 0, .statement 0, .statement 0,
      .statement 1, .statement 1, .replace 1, .replace 0], teamState_init,
      .cons ⟨rfl, rfl⟩ (.cons ⟨rfl, rfl⟩ (.cons ⟨_, rfl, rfl⟩ (.cons ⟨_, rfl, rfl⟩
        (.cons ⟨_, _, rfl, rfl, rfl⟩ (.cons ⟨_, _, rfl, rfl, rfl⟩ (.cons ⟨_, _, rfl, rfl, rfl⟩
        (.cons ⟨_, _, rfl, rfl, rfl⟩ (.cons ⟨_, _, rfl, rfl, rfl⟩ (.cons ⟨_, _, rfl, rfl⟩
        (.cons ⟨_, _, rfl, rfl⟩ (.nil _)))))))))))⟩, ?_, ?_, ?_, ?_⟩
    · intro n call hcall
      match n with
      | 0 => exact ⟨_, congrArg _ (Option.some.inj hcall).symm⟩
      | 1 => exact ⟨_, congrArg _ (Option.some.inj hcall).symm⟩
      | n + 2 => cases hcall
    · rfl
    · decide
    · decide
  · refine ⟨_, ⟨teamState, [.start 0 (.updateScope "client_team" (some ["gpt-5"]) none)
      fun _ => true, .start 1 (.updateScope "client_team" none (some ["chat"])) fun _ => true,
      .record 0 adminActor, .record 1 adminActor, .statement 0, .statement 1, .statement 0,
      .statement 1, .statement 0, .statement 1, .replace 0, .replace 1], teamState_init,
      .cons ⟨rfl, rfl⟩ (.cons ⟨rfl, rfl⟩ (.cons ⟨_, rfl, rfl⟩ (.cons ⟨_, rfl, rfl⟩
        (.cons ⟨_, _, rfl, rfl, rfl⟩ (.cons ⟨_, _, rfl, rfl, rfl⟩ (.cons ⟨_, _, rfl, rfl, rfl⟩
        (.cons ⟨_, _, rfl, rfl, rfl⟩ (.cons ⟨_, _, rfl, rfl, rfl⟩ (.cons ⟨_, _, rfl, rfl, rfl⟩
        (.cons ⟨_, _, rfl, rfl⟩ (.cons ⟨_, _, rfl, rfl⟩ (.nil _))))))))))))⟩, ?_, ?_, ?_⟩
    · intro n call hcall
      match n with
      | 0 => exact ⟨_, congrArg _ (Option.some.inj hcall).symm⟩
      | 1 => exact ⟨_, congrArg _ (Option.some.inj hcall).symm⟩
      | n + 2 => cases hcall
    · rfl
    · rfl

end OneAiKey
