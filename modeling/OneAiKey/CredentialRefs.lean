/-
  OneAiKey.CredentialRefs — references to credentials in paths and pages
  (`src/management_credential_refs.rs`).

  A page shows a credential with a reference to its position in the store, and a path may
  have the reference in place of the id:

      position ── credential_ref_for_position ──▶ text ── resolve ──▶ id

  Positions are unique in a set; imports append rows, and nothing moves or takes away one.

  Main result:
    * `credential_ref_stays_valid` — a reference that was shown is resolved to the
      credential that it was shown with, whatever has been written since.
-/
import OneAiKey.CredentialImport.Interleaving
import OneAiKey.CredentialProbe.Apply
import OneAiKey.Lib.DecimalText

namespace OneAiKey

open DecimalText

/-! ## §1. References. -/

structure CredentialRef where
  position : Nat
  deriving DecidableEq, Repr

def invalidCredentialRef : ManagementServiceError :=
  .badRequest "credential_ref must match cr:v1:pos:<non-negative-position>"

/-- What does not start as a reference is none; leading zeros are refused. -/
def parseCredentialRef (value : String) :
    Except ManagementServiceError (Option CredentialRef) :=
  if !"cr:".toList.isPrefixOf value.toList then .ok none
  else
    match stripPrefix? "cr:v1:pos:".toList value.toList with
    | none => .error invalidCredentialRef
    | some position =>
        if position.isEmpty || (decide (1 < position.length) && position.head? == some '0') ||
            !position.all Char.isDigit then .error invalidCredentialRef
        else
          match parseUnsigned 64 position with
          | none => .error invalidCredentialRef
          | some position => .ok (some ⟨position⟩)

/-- `load_credential_resource_by_position`, as far as it is read here; as an `i64` a larger
position is negative. -/
def ProbeStore.loadCredentialByPosition (s : ProbeStore) (credentialSetId : CredentialSetId)
    (position : Nat) : Option CredentialRow :=
  if position < 2 ^ 63 then
    s.credentials.find? fun row =>
      row.credentialSetId == credentialSetId && row.position == position
  else none

/-- The credential at a position. -/
def credentialIdForRef (handle : CredentialStoreHandle) (credentialSetId : CredentialSetId)
    (credentialRef : CredentialRef) : Except ManagementServiceError CredentialId :=
  match handle with
  | .readOnlyFileBootstrap => .error (credentialResourceStoreError .notWritable)
  | .sqlite store =>
      match store.loadCredentialByPosition credentialSetId credentialRef.position with
      | none =>
          .error (.notFound ("unknown credential_ref " ++
            credentialRefForPosition credentialRef.position ++ " in credential_set " ++
            credentialSetId))
      | some row =>
          row.readId.mapError fun message => credentialResourceStoreError (.persistence message)

def resolveCredentialPathSegment (handle : CredentialStoreHandle)
    (credentialSetId : CredentialSetId) (pathSegment : String) :
    Except ManagementServiceError CredentialId := do
  match ← parseCredentialRef pathSegment with
  | none => return pathSegment
  | some credentialRef => credentialIdForRef handle credentialSetId credentialRef

/-! ## §2. The writes of the rows. -/

/-- `update_credential_operator_metadata`, without the record that it returns. -/
def updateCredentialOperatorMetadata (rows : List CredentialRow)
    (credentialSetId : CredentialSetId) (credentialId : CredentialId)
    (label note : Option String) : Except String (List CredentialRow) :=
  let unknown : String :=
    "unknown credential " ++ credentialId ++ " in credential set " ++ credentialSetId
  if !sqliteCredentialIdExists rows credentialSetId credentialId then .error unknown
  else
    match rows.find? fun row => row.credentialSetId == credentialSetId &&
      credentialIdForSecret credentialSetId row.secret == credentialId with
    | none => .error unknown
    | some found =>
        .ok (rows.map fun row =>
          if row.credentialSetId = credentialSetId ∧ row.secret = found.secret then
            { row with label, note }
          else row)

inductive CredentialRowsLabel where
  | append (persistentFingerprint : String → String) (credentialSetId : CredentialSetId)
      (batchId : String) (excludedSecrets : List String) (clock : Nat → Int)
      (secrets : List String) (fault : Option String)
  | metadata (credentialSetId : CredentialSetId) (credentialId : CredentialId)
      (label note : Option String)

/-- What a position belongs to. -/
def rowKey (row : CredentialRow) : CredentialSetId × Nat × Option CredentialId :=
  (row.credentialSetId, row.position, row.credentialId)

/-- The index `credentials_set_position_unique`. -/
def UniquePositions (rows : List CredentialRow) : Prop :=
  (rows.map fun row => (row.credentialSetId, row.position)).Nodup

/-- The tables of a running process. -/
def credentialRowsSystem : TransitionSystem CredentialTables CredentialRowsLabel where
  Init tables := UniquePositions tables.credentials
  Step tables label tables' :=
    match label with
    | .append persistentFingerprint credentialSetId batchId excludedSecrets clock secrets fault =>
        tables' = (appendCredentialsExcludingSecrets persistentFingerprint credentialSetId batchId
          excludedSecrets clock tables secrets fault).1
    | .metadata credentialSetId credentialId label note =>
        tables' = { tables with
          credentials := (updateCredentialOperatorMetadata tables.credentials credentialSetId
            credentialId label note).toOption.getD tables.credentials }

/-! ## §3. Rows stay where they are. -/

theorem uniquePositions_congr {rows rows' : List CredentialRow}
    (h : rows'.map rowKey = rows.map rowKey) (hrows : UniquePositions rows) :
    UniquePositions rows' := by
  have hpositions := congrArg (List.map fun key => (key.1, key.2.1)) h
  rw [List.map_map, List.map_map] at hpositions
  unfold UniquePositions at hrows ⊢
  exact (congrArg List.Nodup hpositions).mpr hrows

theorem lt_nextCredentialPosition {rows : List CredentialRow} {row : CredentialRow}
    (hrow : row ∈ rows) : row.position < nextCredentialPosition rows row.credentialSetId := by
  have hmem : row.position ∈ (rows.filter fun other =>
      other.credentialSetId == row.credentialSetId).map (·.position) :=
    List.mem_map_of_mem (List.mem_filter.mpr ⟨hrow, beq_self_eq_true _⟩)
  unfold nextCredentialPosition
  cases hmax : ((rows.filter fun other =>
      other.credentialSetId == row.credentialSetId).map (·.position)).max? with
  | none =>
      rw [List.max?_eq_none_iff] at hmax
      rw [hmax] at hmem
      cases hmem
  | some last =>
      exact Nat.lt_succ_of_le ((List.max?_eq_some_iff.mp hmax).2 _ hmem)

/-- The rows of before are found again in front. -/
theorem map_rowKey_of_forall₂ {rows old : List CredentialRow}
    (h : List.Forall₂ (fun row row' : CredentialRow =>
      row' = { row with lastSeenAtUnixSeconds := row'.lastSeenAtUnixSeconds }) rows old) :
    old.map rowKey = rows.map rowKey := by
  induction h with
  | nil => rfl
  | cons hrow _ ih =>
      rw [List.map_cons, List.map_cons, ih, hrow]
      rfl

section Append

variable {persistentFingerprint : String → String} {credentialSetId : CredentialSetId}
  {batchId : String} {excludedSecrets : List String} {clock : Nat → Int}

theorem mem_newRows {row : CredentialRow} {lines : List (String × Nat)} {position : Nat}
    (h : row ∈ newRows persistentFingerprint credentialSetId batchId clock position lines) :
    row.credentialSetId = credentialSetId ∧ position ≤ row.position := by
  induction lines generalizing position with
  | nil => cases h
  | cons line lines ih =>
      rcases List.mem_cons.mp h with rfl | h
      · exact ⟨rfl, Nat.le_refl _⟩
      · exact ⟨(ih h).1, Nat.le_of_succ_le (ih h).2⟩

theorem uniquePositions_newRows (lines : List (String × Nat)) (position : Nat) :
    UniquePositions
      (newRows persistentFingerprint credentialSetId batchId clock position lines) := by
  unfold UniquePositions
  induction lines generalizing position with
  | nil => exact List.nodup_nil
  | cons line lines ih =>
      refine List.nodup_cons.mpr ⟨fun hmem => ?_, ih (position + 1)⟩
      obtain ⟨row, hrow, heq⟩ := List.mem_map.mp hmem
      have hle := (mem_newRows hrow).2
      have hposition : row.position = position := congrArg Prod.snd heq
      omega

/-- A batch leaves the rows where they are, and its own come behind them.  The new positions
begin behind the largest of the set, so no two rows have the same. -/
theorem appendTransaction_rows {tables tables' : CredentialTables} {secrets : List String}
    {keyImport : KeyImport} (hrows : UniquePositions tables.credentials)
    (h : appendTransaction persistentFingerprint credentialSetId batchId excludedSecrets clock
      tables secrets = .ok (tables', keyImport)) :
    UniquePositions tables'.credentials ∧
      tables.credentials.map rowKey ⊆ tables'.credentials.map rowKey := by
  obtain ⟨old, hold, heq⟩ := (importAccounted_of_ok h).rows
  have hkeys := map_rowKey_of_forall₂ hold
  have hunique := uniquePositions_congr hkeys hrows
  refine ⟨?_, ?_⟩
  · rw [heq]
    unfold UniquePositions at hunique ⊢
    rw [List.map_append]
    refine List.nodup_append'.mpr ⟨hunique, uniquePositions_newRows _ _, ?_⟩
    -- the new rows of the set are behind all that it had
    intro key hkey hkey'
    obtain ⟨row', hrow', rfl⟩ := List.mem_map.mp hkey'
    obtain ⟨row, hrow, hsame⟩ := List.mem_map.mp hkey
    obtain ⟨hset, hle⟩ := mem_newRows hrow'
    have hkeyed : rowKey row ∈ tables.credentials.map rowKey :=
      hkeys ▸ List.mem_map_of_mem hrow
    obtain ⟨before, hbefore, hbeforeKey⟩ := List.mem_map.mp hkeyed
    have hlt := lt_nextCredentialPosition hbefore
    have hsetBefore : before.credentialSetId = row.credentialSetId := congrArg Prod.fst hbeforeKey
    have hpositionBefore : before.position = row.position :=
      congrArg (fun key => key.2.1) hbeforeKey
    have hsetSame : row.credentialSetId = row'.credentialSetId := congrArg Prod.fst hsame
    have hpositionSame : row.position = row'.position := congrArg Prod.snd hsame
    rw [hsetBefore, hsetSame, hset, hpositionBefore, hpositionSame] at hlt
    omega
  · rw [heq, List.map_append, hkeys]
    exact List.subset_append_left _ _

end Append

theorem updateCredentialOperatorMetadata_rowKey {rows rows' : List CredentialRow}
    {credentialSetId : CredentialSetId} {credentialId : CredentialId} {label note : Option String}
    (h : updateCredentialOperatorMetadata rows credentialSetId credentialId label note =
      .ok rows') :
    rows'.map rowKey = rows.map rowKey := by
  unfold updateCredentialOperatorMetadata at h
  dsimp only at h
  split at h
  · cases h
  split at h
  · cases h
  · cases h
    rw [List.map_map]
    refine List.map_congr_left fun row _ => ?_
    show rowKey (if _ then _ else _) = _
    split <;> rfl

/-- One write of the rows.  Labels and notes are columns of their own, which no lookup by
position reads. -/
theorem credentialRows_step {tables tables' : CredentialTables} {label : CredentialRowsLabel}
    (hrows : UniquePositions tables.credentials)
    (hstep : credentialRowsSystem.Step tables label tables') :
    UniquePositions tables'.credentials ∧
      tables.credentials.map rowKey ⊆ tables'.credentials.map rowKey := by
  have hsame : UniquePositions tables.credentials ∧
      tables.credentials.map rowKey ⊆ tables.credentials.map rowKey :=
    ⟨hrows, List.Subset.refl _⟩
  cases label with
  -- an import that fails is rolled back; one that succeeds puts its rows at new positions
  | append persistentFingerprint credentialSetId batchId excludedSecrets clock secrets fault =>
      cases hstep
      unfold appendCredentialsExcludingSecrets
      cases fault with
      | some message => exact hsame
      | none =>
          dsimp only
          cases happend : appendTransaction persistentFingerprint credentialSetId batchId
            excludedSecrets clock tables secrets with
          | error message => exact hsame
          | ok result => exact appendTransaction_rows hrows happend
  -- labels and notes are in no key
  | metadata credentialSetId credentialId label note =>
      cases hstep
      cases hupdate : updateCredentialOperatorMetadata tables.credentials credentialSetId
        credentialId label note with
      | error message => exact hsame
      | ok rows =>
          have hkeys := updateCredentialOperatorMetadata_rowKey hupdate
          exact ⟨uniquePositions_congr hkeys hrows, hkeys ▸ List.Subset.refl _⟩

theorem credentialRows_run {tables tables' : CredentialTables} {labels : List CredentialRowsLabel}
    (hrows : UniquePositions tables.credentials)
    (hrun : credentialRowsSystem.Run tables labels tables') :
    UniquePositions tables'.credentials ∧
      tables.credentials.map rowKey ⊆ tables'.credentials.map rowKey := by
  induction hrun with
  | nil _ => exact ⟨hrows, List.Subset.refl _⟩
  | cons hstep _ ih =>
      obtain ⟨hnext, hsub⟩ := credentialRows_step hrows hstep
      exact ⟨(ih hnext).1, List.Subset.trans hsub (ih hnext).2⟩

theorem uniquePositions_of_reachable {tables : CredentialTables}
    (h : credentialRowsSystem.Reachable tables) : UniquePositions tables.credentials := by
  obtain ⟨start, labels, hstart, hrun⟩ := h
  exact (credentialRows_run hstart hrun).1

/-! ## §4. One text for each position. -/

theorem toList_credentialRefForPosition (position : Nat) :
    (credentialRefForPosition position).toList =
      "cr:v1:pos:".toList ++ Nat.toDigits 10 position := by
  unfold credentialRefForPosition
  rw [String.toList_append, Nat.toString_eq_repr, Nat.toList_repr]

/-- A reference is read as its position.  Writing and reading agree for every position that the
program can have. -/
theorem parseCredentialRef_ref {position : Nat} (h : position < 2 ^ 64) :
    parseCredentialRef (credentialRefForPosition position) = .ok (some ⟨position⟩) := by
  have hcanonical := canonical_toDigits position
  have hstart : "cr:".toList.isPrefixOf ("cr:v1:pos:".toList ++ Nat.toDigits 10 position) =
      true := rfl
  have hempty : (Nat.toDigits 10 position).isEmpty = false :=
    List.isEmpty_eq_false_iff.mpr hcanonical.ne_nil
  have hall := all_isDigit_toDigits position
  have hlead : (decide (1 < (Nat.toDigits 10 position).length) &&
      (Nat.toDigits 10 position).head? == some '0') = false := by
    rw [Bool.and_eq_false_iff, decide_eq_false_iff_not, beq_eq_false_iff_ne]
    exact Decidable.not_or_of_imp hcanonical.head?_ne
  unfold parseCredentialRef
  rw [toList_credentialRefForPosition, hstart, stripPrefix?_append]
  dsimp only
  rw [hempty, hlead, hall, parseUnsigned_digits hcanonical.ne_nil hall,
    Nat.ofDigitChars_ten_toDigits, if_pos h]
  rfl

theorem eq_of_stripPrefix? {pre s rest : List Char} (h : stripPrefix? pre s = some rest) :
    s = pre ++ rest := by
  unfold stripPrefix? at h
  split at h
  · rename_i hstart
    obtain ⟨tail, rfl⟩ := List.isPrefixOf_iff_prefix.mp hstart
    rw [List.drop_left] at h
    rw [Option.some.inj h]
  · cases h

/-- No other text is read as that position.  Leading zeros and signs are refused, so a position
has one text only. -/
theorem eq_ref_of_parseCredentialRef {value : String} {credentialRef : CredentialRef}
    (h : parseCredentialRef value = .ok (some credentialRef)) :
    value = credentialRefForPosition credentialRef.position := by
  unfold parseCredentialRef at h
  split at h
  · cases h
  split at h
  · cases h
  · rename_i digits hdigits
    split at h
    · cases h
    · rename_i hform
      rw [Bool.not_eq_true, Bool.or_eq_false_iff, Bool.or_eq_false_iff] at hform
      obtain ⟨⟨hempty, hlead⟩, hall⟩ := hform
      have hne : digits ≠ [] := List.isEmpty_eq_false_iff.mp hempty
      rw [Bool.not_eq_false'] at hall
      -- a number without superfluous zeros is the text of its value
      have hcanonical : Canonical digits := by
        refine ⟨hne, List.all_eq_true.mp hall, fun hlong => ?_⟩
        rw [decide_eq_true hlong, Bool.true_and] at hlead
        exact beq_eq_false_iff_ne.mp hlead
      rw [parseUnsigned_digits hne hall] at h
      split at h
      · cases h
      · rename_i position hposition
        cases h
        split at hposition
        · cases hposition
          refine String.toList_injective ?_
          rw [eq_of_stripPrefix? hdigits, toList_credentialRefForPosition,
            toDigits_ofDigitChars hcanonical]
        · cases hposition

/-! ## §5. What a reference is resolved to. -/

theorem find_position {rows : List CredentialRow} (hrows : UniquePositions rows)
    {row : CredentialRow} (hrow : row ∈ rows) :
    (rows.find? fun other => other.credentialSetId == row.credentialSetId &&
      other.position == row.position) = some row := by
  cases hfind : rows.find? fun other => other.credentialSetId == row.credentialSetId &&
      other.position == row.position with
  | none =>
      have hnone := List.find?_eq_none.mp hfind row hrow
      rw [beq_self_eq_true, beq_self_eq_true] at hnone
      exact absurd rfl hnone
  | some other =>
      have hmatch := List.find?_some hfind
      rw [Bool.and_eq_true, beq_iff_eq, beq_iff_eq] at hmatch
      exact congrArg some (List.inj_on_of_nodup_map hrows (List.mem_of_find?_eq_some hfind) hrow
        (Prod.ext hmatch.1 hmatch.2))

theorem resolve_ref {store : ProbeStore} (hrows : UniquePositions store.credentials)
    {credentialSetId : CredentialSetId} {position : Nat} {credentialId : CredentialId}
    (hmem : (credentialSetId, position, some credentialId) ∈ store.credentials.map rowKey)
    (hposition : position < 2 ^ 63) :
    resolveCredentialPathSegment (.sqlite store) credentialSetId
      (credentialRefForPosition position) = .ok credentialId := by
  obtain ⟨row, hrow, hkey⟩ := List.mem_map.mp hmem
  have hset : row.credentialSetId = credentialSetId := congrArg Prod.fst hkey
  have hat : row.position = position := congrArg (fun key => key.2.1) hkey
  have hid : row.credentialId = some credentialId := congrArg (fun key => key.2.2) hkey
  -- positions are unique, so the row that is found is this one
  have hload : store.loadCredentialByPosition credentialSetId position = some row := by
    unfold ProbeStore.loadCredentialByPosition
    rw [if_pos hposition, ← hset, ← hat]
    exact find_position hrows hrow
  have hread : row.readId = .ok credentialId := by
    unfold CredentialRow.readId
    rw [hid]
  have hparse := parseCredentialRef_ref (hposition.trans (by decide : 2 ^ 63 < 2 ^ 64))
  unfold resolveCredentialPathSegment
  rw [hparse]
  show credentialIdForRef (.sqlite store) credentialSetId ⟨position⟩ = _
  unfold credentialIdForRef
  dsimp only
  rw [hload]
  dsimp only
  rw [hread]
  rfl

/-- An id that the program has made is no reference, wherever it stands in a path.  Such an id
has another prefix, so the parser does not take it for a reference, and the path segment is the
id. -/
theorem resolve_id (handle : CredentialStoreHandle)
    (pathSetId credentialSetId : CredentialSetId) (secret : String) :
    resolveCredentialPathSegment handle pathSetId
        (credentialIdForSecret credentialSetId secret) =
      .ok (credentialIdForSecret credentialSetId secret) := by
  have hparse : parseCredentialRef (credentialIdForSecret credentialSetId secret) = .ok none := by
    have hstart : "cr:".toList.isPrefixOf (credentialIdForSecret credentialSetId secret).toList =
        false := by
      unfold credentialIdForSecret
      rw [String.toList_append]
      rfl
    unfold parseCredentialRef
    rw [hstart]
    rfl
  unfold resolveCredentialPathSegment
  rw [hparse]
  rfl

/-- A shown reference is that of a row of the credential.  The page looks its references up by
the ids of the credentials that it shows. -/
theorem shown_ref {store : ProbeStore} {credentialSetId : CredentialSetId}
    {snapshots : List CredentialSnapshot} {status : CredentialStatus}
    (hstatus : status ∈ credentialStatusesWithLatestProbe (.sqlite store) credentialSetId snapshots)
    {ref : String} (href : status.credentialRef = some ref) :
    ∃ row ∈ store.credentials, row.credentialSetId = credentialSetId ∧
      row.credentialId = some status.id ∧ credentialRefForPosition row.position = ref := by
  unfold credentialStatusesWithLatestProbe at hstatus
  obtain ⟨snapshot, -, rfl⟩ := List.mem_map.mp hstatus
  obtain ⟨position, hposition, rfl⟩ := Option.map_eq_some_iff.mp href
  unfold CredentialStoreHandle.credentialPositionsFor at hposition
  obtain ⟨row, hfind, rfl⟩ := Option.map_eq_some_iff.mp hposition
  have hrow := List.mem_reverse.mp (List.mem_of_find?_eq_some hfind)
  have hid := List.find?_some hfind
  rw [decide_eq_true_eq] at hid
  rw [List.mem_filter, Bool.and_eq_true, beq_iff_eq] at hrow
  exact ⟨row, hrow.1, hrow.2.1, hid, rfl⟩

/-- A reference that a page has shown is resolved to the credential of that page, on the
page's store and on the store after any imports and changes of labels and notes.  No other
text is read as the same reference, and every id that the program makes is resolved to itself,
on any store and in the path of any set. -/
theorem credential_ref_stays_valid {tables tables' : CredentialTables}
    {labels : List CredentialRowsLabel} (htables : credentialRowsSystem.Reachable tables)
    (hrun : credentialRowsSystem.Run tables labels tables')
    (hi64 : ∀ row ∈ tables.credentials, row.position < 2 ^ 63)
    {store store' : ProbeStore} (hstore : store.credentials = tables.credentials)
    (hstore' : store'.credentials = tables'.credentials) {credentialSetId : CredentialSetId}
    {snapshots : List CredentialSnapshot} {status : CredentialStatus}
    (hstatus : status ∈ credentialStatusesWithLatestProbe (.sqlite store) credentialSetId snapshots)
    {ref : String} (href : status.credentialRef = some ref) :
    resolveCredentialPathSegment (.sqlite store') credentialSetId ref = .ok status.id ∧
      (∀ text, parseCredentialRef text = parseCredentialRef ref → text = ref) ∧
      ∀ handle pathSetId madeFor secret,
        resolveCredentialPathSegment handle pathSetId (credentialIdForSecret madeFor secret) =
          .ok (credentialIdForSecret madeFor secret) := by
  obtain ⟨row, hrow, hset, hid, rfl⟩ := shown_ref hstatus href
  rw [hstore] at hrow
  obtain ⟨hunique, hkept⟩ := credentialRows_run (uniquePositions_of_reachable htables) hrun
  have hposition := hi64 row hrow
  have hkey : (credentialSetId, row.position, some status.id) ∈
      tables.credentials.map rowKey := by
    rw [← hset, ← hid]
    exact List.mem_map_of_mem hrow
  refine ⟨resolve_ref (hstore'.symm ▸ hunique) (hstore'.symm ▸ hkept hkey) hposition, ?_, ?_⟩
  · intro text htext
    rw [parseCredentialRef_ref (hposition.trans (by decide : 2 ^ 63 < 2 ^ 64))] at htext
    exact eq_ref_of_parseCredentialRef htext
  · exact resolve_id

/-- The tables after an import of one key. -/
def importKey (tables : CredentialTables) (key : String) : CredentialTables :=
  (appendCredentialsExcludingSecrets digestOfSecret "set" "management-api" [] (fun _ => 0) tables
    [key] none).1

/-- The first credential of a set, as a page shows it and after another import. -/
theorem credential_ref_stays_valid_imported :
    let tables := importKey importStart.tables "a"
    resolveCredentialPathSegment (.sqlite ⟨(importKey tables "b").credentials, [], 0⟩) "set"
      "cr:v1:pos:0" = .ok (credentialIdForSecret "set" "a") := by
  intro tables
  have hfirst : credentialRowsSystem.Step importStart.tables
      (.append digestOfSecret "set" "management-api" [] (fun _ => 0) ["a"] none) tables := rfl
  have hnext : credentialRowsSystem.Step tables
      (.append digestOfSecret "set" "management-api" [] (fun _ => 0) ["b"] none)
      (importKey tables "b") := rfl
  have hstart : credentialRowsSystem.Init importStart.tables := List.nodup_nil
  have htables : credentialRowsSystem.Reachable tables :=
    (TransitionSystem.Reachable.init hstart).step hfirst
  let snapshot : CredentialSnapshot :=
    ⟨credentialIdForSecret "set" "a", "fingerprint", .available, ⟨none, none, none⟩⟩
  have hstatus : credentialStatusWithLatestProbeAndRef snapshot none (some "cr:v1:pos:0") ∈
      credentialStatusesWithLatestProbe (.sqlite ⟨tables.credentials, [], 0⟩) "set" [snapshot] := by
    decide +kernel
  exact (credential_ref_stays_valid htables (.cons hnext (.nil _)) (by decide +kernel) rfl rfl
    hstatus rfl).1

end OneAiKey
