/-
  OneAiKey.CredentialStore — the stored lifecycle states of the credentials
  (`src/credential_repository.rs`).

  A row of `credential_lifecycle_states` exists for an excluded credential only:
  writing `available` deletes it.  Every write is one transaction, so a write
  that fails leaves the store as it was; `fault` is a failure of the database
  itself, which no state of the tables shows.

  Main results:
    * `Written.rowState` — what a write does to every row;
    * `loadLifecycleSnapshots_ok` — what a restart reads back.
-/
import OneAiKey.State

namespace OneAiKey

/-! ## §1. The records. -/

/-- The errors of the store. -/
inductive CredentialStoreError where
  | notWritable
  | persistence (message : String)
  deriving DecidableEq, Repr

/-- A durable state for a credential. -/
structure CredentialLifecycleUpdate where
  credentialSetId : CredentialSetId
  credentialId : CredentialId
  state : CredentialLifecycleState
  deriving DecidableEq, Repr

/-- The snapshot that an update leaves. -/
def CredentialLifecycleUpdate.snapshot (update : CredentialLifecycleUpdate) :
    CredentialLifecycleSnapshot :=
  ⟨update.credentialSetId, update.credentialId, update.state⟩

/-- Who changed a durable state. -/
inductive CredentialLifecycleHistorySource where
  | managementCommand
  | compensation
  | automaticFailure
  deriving DecidableEq, Repr

/-- Who changed a durable state, and why. -/
structure CredentialLifecycleEvidence where
  source : CredentialLifecycleHistorySource
  reasonClass : Option String
  actorId : Option String
  actorName : Option String
  actorRole : Option String
  channelId : Option String
  deriving DecidableEq, Repr

/-- An operator's change. -/
def CredentialLifecycleEvidence.managementCommand
    (reasonClass actorId actorName actorRole channelId : String) :
    CredentialLifecycleEvidence where
  source := .managementCommand
  reasonClass := some reasonClass
  actorId := some actorId
  actorName := some actorName
  actorRole := some actorRole
  channelId := some channelId

/-- A change that a failure made. -/
def CredentialLifecycleEvidence.automaticFailure (reasonClass channelId : String) :
    CredentialLifecycleEvidence where
  source := .automaticFailure
  reasonClass := some reasonClass
  actorId := none
  actorName := none
  actorRole := none
  channelId := some channelId

/-- A change of a durable state with its evidence. -/
structure CredentialLifecycleHistoryRecord where
  id : Nat
  update : CredentialLifecycleUpdate
  evidence : CredentialLifecycleEvidence
  deriving DecidableEq, Repr

/-- The handle with the tables that the lifecycle functions use.  `sqlite` is false for the
read-only bootstrap from files. -/
structure CredentialStore where
  sqlite : Bool
  /-- The table `credentials`, by position. -/
  credentials : List (CredentialSetId × CredentialId)
  /-- The table `credential_lifecycle_states`. -/
  lifecycleStates : List CredentialLifecycleSnapshot
  /-- The table `credential_lifecycle_history`, and its next row id. -/
  lifecycleHistory : List CredentialLifecycleHistoryRecord
  nextHistoryId : Nat

namespace CredentialStore

/-! ## §2. Writing. -/

/-- Does the table have the credential in this set? -/
def credentialIdExists (store : CredentialStore) (credentialSetId : CredentialSetId)
    (credentialId : CredentialId) : Bool :=
  store.credentials.any fun row => row.1 == credentialSetId && row.2 == credentialId

/-- The primary key of a lifecycle row. -/
def isRowOf (credentialSetId : CredentialSetId) (credentialId : CredentialId)
    (row : CredentialLifecycleSnapshot) : Bool :=
  row.credentialSetId == credentialSetId && row.credentialId == credentialId

/-- The delete of an `available` state, and the upsert of any other. -/
def writeLifecycleState (store : CredentialStore) (update : CredentialLifecycleUpdate) :
    CredentialStore :=
  let others := store.lifecycleStates.filter fun row =>
    !isRowOf update.credentialSetId update.credentialId row
  { store with
    lifecycleStates := match update.state with
      | .available => others
      | .expired _ | .quotaExhausted _ | .disabled _ => others ++ [update.snapshot] }

/-- The error for a credential that the table does not have. -/
def unknownCredential (update : CredentialLifecycleUpdate) : CredentialStoreError :=
  .persistence ("unknown credential " ++ update.credentialId ++ " in credential set "
    ++ update.credentialSetId)

/-- `persist_lifecycle_update_with_evidence_blocking`: the row, and a history record whose
id is returned. -/
def persistLifecycleUpdate (store : CredentialStore) (update : CredentialLifecycleUpdate)
    (evidence : CredentialLifecycleEvidence) (fault : Option String) :
    CredentialStore × Except CredentialStoreError Nat :=
  if !store.sqlite then (store, .error .notWritable)
  else match fault with
    | some message => (store, .error (.persistence message))
    | none =>
        if !store.credentialIdExists update.credentialSetId update.credentialId then
          (store, .error (unknownCredential update))
        else
          ({ store.writeLifecycleState update with
              lifecycleHistory :=
                store.lifecycleHistory ++ [⟨store.nextHistoryId, update, evidence⟩]
              nextHistoryId := store.nextHistoryId + 1 },
            .ok store.nextHistoryId)

/-- `persist_lifecycle_snapshot`: the row, and a stale history record of the credential is
deleted. -/
def persistLifecycleSnapshot (store : CredentialStore) (update : CredentialLifecycleUpdate)
    (staleHistoryId : Option Nat) (fault : Option String) :
    CredentialStore × Except CredentialStoreError Unit :=
  if !store.sqlite then (store, .error .notWritable)
  else match fault with
    | some message => (store, .error (.persistence message))
    | none =>
        if !store.credentialIdExists update.credentialSetId update.credentialId then
          (store, .error (unknownCredential update))
        else
          ({ store.writeLifecycleState update with
              lifecycleHistory := store.lifecycleHistory.filter fun record =>
                !(some record.id == staleHistoryId
                  && record.update.credentialSetId == update.credentialSetId
                  && record.update.credentialId == update.credentialId) },
            .ok ())

/-! ## §3. Reading. -/

/-- The row of a credential; none stands for an available one. -/
def rowState (store : CredentialStore) (credentialSetId : CredentialSetId)
    (credentialId : CredentialId) : CredentialLifecycleState :=
  match store.lifecycleStates.find? (isRowOf credentialSetId credentialId) with
  | some row => row.state
  | none => .available

/-- The ids of the set's credentials, by position. -/
def credentialIds (store : CredentialStore) (credentialSetId : CredentialSetId) :
    List CredentialId :=
  (store.credentials.filter fun row => row.1 == credentialSetId).map Prod.snd

/-- `load_lifecycle_snapshots_for_startup`: the rows in the order of the credentials; a row
of a credential that the set does not have fails the load. -/
def loadLifecycleSnapshots (store : CredentialStore) (credentialSetId : CredentialSetId)
    (fault : Option String) : Except CredentialStoreError (List CredentialLifecycleSnapshot) :=
  if !store.sqlite then .ok []
  else match fault with
    | some message => .error (.persistence message)
    | none =>
        let ids := store.credentialIds credentialSetId
        let rows := store.lifecycleStates.filter fun row =>
          row.credentialSetId == credentialSetId
        match rows.find? fun row => !ids.contains row.credentialId with
        | some orphan => .error (.persistence
            ("credential lifecycle state references unknown credential " ++
              orphan.credentialId ++ " in credential set " ++ credentialSetId))
        | none => .ok (ids.filterMap fun id => rows.find? fun row => row.credentialId == id)

/-- Only a database decides the states at a start. -/
def hasLifecycleSnapshotAuthority (store : CredentialStore) : Bool := store.sqlite

/-! ## §4. What a write does to the rows. -/

theorem isRowOf_iff {setId : CredentialSetId} {id : CredentialId}
    {row : CredentialLifecycleSnapshot} :
    isRowOf setId id row = true ↔ row.credentialSetId = setId ∧ row.credentialId = id := by
  simp [isRowOf]

theorem find?_filter_not_isRowOf (rows : List CredentialLifecycleSnapshot)
    (setId setId' : CredentialSetId) (id id' : CredentialId) :
    (rows.filter fun row => !isRowOf setId id row).find? (isRowOf setId' id') =
      if setId' = setId ∧ id' = id then none else rows.find? (isRowOf setId' id') := by
  rw [List.find?_filter]
  by_cases hkey : setId' = setId ∧ id' = id
  · obtain ⟨rfl, rfl⟩ := hkey
    simp
  · rw [if_neg hkey]
    congr 1
    funext row
    by_cases hrow : isRowOf setId' id' row = true
    · have hother : isRowOf setId id row = false := by
        rw [Bool.eq_false_iff]
        intro hboth
        rw [isRowOf_iff] at hrow hboth
        exact hkey ⟨hrow.1.symm.trans hboth.1, hrow.2.symm.trans hboth.2⟩
      simp [hrow, hother]
    · simp [hrow]

/-- A write sets the row of its credential and no other.  Here the rows of two sets with the
same credential id are told apart. -/
theorem rowState_writeLifecycleState (store : CredentialStore)
    (update : CredentialLifecycleUpdate) (setId : CredentialSetId) (id : CredentialId) :
    (store.writeLifecycleState update).rowState setId id =
      if setId = update.credentialSetId ∧ id = update.credentialId then update.state
      else store.rowState setId id := by
  have hothers := find?_filter_not_isRowOf store.lifecycleStates update.credentialSetId setId
    update.credentialId id
  -- only an exclusion adds a row, and it is the last one
  have hlast : ((store.lifecycleStates.filter fun row =>
        !isRowOf update.credentialSetId update.credentialId row) ++
          [update.snapshot]).find? (isRowOf setId id) =
      if setId = update.credentialSetId ∧ id = update.credentialId then some update.snapshot
      else store.lifecycleStates.find? (isRowOf setId id) := by
    rw [List.find?_append, hothers]
    by_cases hkey : setId = update.credentialSetId ∧ id = update.credentialId
    · obtain ⟨rfl, rfl⟩ := hkey
      simp [isRowOf, CredentialLifecycleUpdate.snapshot]
    · have hnot : isRowOf setId id update.snapshot = false := by
        rw [Bool.eq_false_iff]
        intro hrow
        rw [isRowOf_iff] at hrow
        exact hkey ⟨hrow.1.symm, hrow.2.symm⟩
      simp [hkey, hnot]
  unfold rowState writeLifecycleState
  by_cases hkey : setId = update.credentialSetId ∧ id = update.credentialId
  · rw [if_pos hkey] at hothers hlast ⊢
    cases hstate : update.state with
    | available =>
        simp only [hothers]
    | expired reason | quotaExhausted reason | disabled reason =>
        simp only [hlast]
        exact hstate
  · rw [if_neg hkey] at hothers hlast ⊢
    cases update.state with
    | available =>
        simp only [hothers]
    | expired reason | quotaExhausted reason | disabled reason =>
        simp only [hlast]

/-- Does the database take a write about the credential? -/
def Accepts (store : CredentialStore) (credentialSetId : CredentialSetId)
    (credentialId : CredentialId) (fault : Option String) : Prop :=
  store.sqlite = true ∧ fault = none ∧
    store.credentialIdExists credentialSetId credentialId = true

/-- What a write comes to.  The two writes differ in what they do to the history only. -/
inductive Written {α : Type} (store : CredentialStore) (update : CredentialLifecycleUpdate)
    (fault : Option String) : CredentialStore × Except CredentialStoreError α → Prop where
  | refused (err : CredentialStoreError)
      (hrefuses : ¬ store.Accepts update.credentialSetId update.credentialId fault) :
      Written store update fault (store, .error err)
  | wrote (lifecycleHistory : List CredentialLifecycleHistoryRecord) (nextHistoryId : Nat) (a : α)
      (haccepts : store.Accepts update.credentialSetId update.credentialId fault) :
      Written store update fault
        ({ store.writeLifecycleState update with lifecycleHistory, nextHistoryId }, .ok a)

section Write

variable {store store' : CredentialStore} {update : CredentialLifecycleUpdate}
  {fault : Option String}

theorem written_persistLifecycleUpdate {evidence : CredentialLifecycleEvidence}
    {outcome : CredentialStore × Except CredentialStoreError Nat}
    (h : store.persistLifecycleUpdate update evidence fault = outcome) :
    Written store update fault outcome := by
  rw [← h]
  unfold persistLifecycleUpdate
  cases hsqlite : store.sqlite with
  | false => exact .refused _ (by simp [Accepts, hsqlite])
  | true =>
      cases fault with
      | some message => exact .refused _ (by simp [Accepts])
      | none =>
          cases hexists : store.credentialIdExists update.credentialSetId update.credentialId with
          | false => exact .refused _ (by simp [Accepts, hexists])
          | true => exact .wrote _ _ _ ⟨hsqlite, rfl, hexists⟩

theorem written_persistLifecycleSnapshot {staleHistoryId : Option Nat}
    {outcome : CredentialStore × Except CredentialStoreError Unit}
    (h : store.persistLifecycleSnapshot update staleHistoryId fault = outcome) :
    Written store update fault outcome := by
  rw [← h]
  unfold persistLifecycleSnapshot
  cases hsqlite : store.sqlite with
  | false => exact .refused _ (by simp [Accepts, hsqlite])
  | true =>
      cases fault with
      | some message => exact .refused _ (by simp [Accepts])
      | none =>
          cases hexists : store.credentialIdExists update.credentialSetId update.credentialId with
          | false => exact .refused _ (by simp [Accepts, hexists])
          | true => exact .wrote _ _ _ ⟨hsqlite, rfl, hexists⟩

variable {α : Type} {outcome : CredentialStore × Except CredentialStoreError α}

/-- A write that succeeds was taken by the database, -/
theorem Written.accepts {a : α} (h : Written store update fault (store', .ok a)) :
    store.Accepts update.credentialSetId update.credentialId fault := by
  cases h with
  | wrote _ _ _ haccepts => exact haccepts

/-- and has written the row. -/
theorem Written.rowState {a : α} (h : Written store update fault (store', .ok a))
    (setId : CredentialSetId) (id : CredentialId) :
    store'.rowState setId id =
      if setId = update.credentialSetId ∧ id = update.credentialId then update.state
      else store.rowState setId id := by
  cases h with
  | wrote => exact rowState_writeLifecycleState store update setId id

/-- A write that fails has changed nothing. -/
theorem Written.unchanged {err : CredentialStoreError}
    (h : Written store update fault (store', (.error err : Except CredentialStoreError α))) :
    store' = store := by
  cases h with
  | refused => rfl

/-- A write that the database takes succeeds. -/
theorem Written.exists_ok (h : Written store update fault outcome)
    (haccepts : store.Accepts update.credentialSetId update.credentialId fault) :
    ∃ store' a, outcome = (store', .ok a) := by
  cases h with
  | refused _ hrefuses => exact absurd haccepts hrefuses
  | wrote lifecycleHistory nextHistoryId a => exact ⟨_, a, rfl⟩

end Write

/-! ## §5. What a load reads back. -/

/-- Every lifecycle row is about a credential of the store. -/
def Consistent (store : CredentialStore) : Prop :=
  ∀ row ∈ store.lifecycleStates,
    store.credentialIdExists row.credentialSetId row.credentialId = true

theorem Consistent.writeLifecycleState {store : CredentialStore} (h : store.Consistent)
    {update : CredentialLifecycleUpdate}
    (hexists : store.credentialIdExists update.credentialSetId update.credentialId = true) :
    (store.writeLifecycleState update).Consistent := by
  have hothers : ∀ row ∈ store.lifecycleStates.filter fun row =>
      !isRowOf update.credentialSetId update.credentialId row,
      store.credentialIdExists row.credentialSetId row.credentialId = true := by
    intro row hrow
    exact h row (List.mem_filter.mp hrow).1
  intro row hrow
  show store.credentialIdExists row.credentialSetId row.credentialId = true
  unfold CredentialStore.writeLifecycleState at hrow
  cases hstate : update.state with
  | available =>
      simp only [hstate] at hrow
      exact hothers row hrow
  | expired reason | quotaExhausted reason | disabled reason =>
      simp only [hstate] at hrow
      rcases List.mem_append.mp hrow with hrow | hrow
      · exact hothers row hrow
      · rw [List.mem_singleton.mp hrow]
        exact hexists

/-- The writes keep the store consistent. -/
theorem Consistent.written {store : CredentialStore} (h : store.Consistent)
    {update : CredentialLifecycleUpdate} {fault : Option String} {α : Type}
    {outcome : CredentialStore × Except CredentialStoreError α}
    (hwritten : Written store update fault outcome) : outcome.1.Consistent := by
  cases hwritten with
  | refused => exact h
  | wrote lifecycleHistory nextHistoryId a haccepts => exact h.writeLifecycleState haccepts.2.2

/-- A row of a set is about a credential of the set. -/
theorem Consistent.mem_credentialIds {store : CredentialStore} (h : store.Consistent)
    {row : CredentialLifecycleSnapshot} (hrow : row ∈ store.lifecycleStates) :
    row.credentialId ∈ store.credentialIds row.credentialSetId := by
  obtain ⟨found, hfound, hkey⟩ := List.any_eq_true.mp (h row hrow)
  rw [Bool.and_eq_true, beq_iff_eq, beq_iff_eq] at hkey
  exact List.mem_map.mpr ⟨found, List.mem_filter.mpr ⟨hfound, beq_iff_eq.mpr hkey.1⟩, hkey.2⟩

/-- A load finds the row of each credential of the set.  It never stops at a row, since all of
them can be read, and it does not look at other sets. -/
theorem loadLifecycleSnapshots_ok {store : CredentialStore} (h : store.Consistent)
    (hsqlite : store.sqlite = true) (setId : CredentialSetId) :
    store.loadLifecycleSnapshots setId none = .ok ((store.credentialIds setId).filterMap
      fun id => store.lifecycleStates.find? (isRowOf setId id)) := by
  have horphans : (store.lifecycleStates.filter fun row =>
      row.credentialSetId == setId).find? (fun row =>
        !(store.credentialIds setId).contains row.credentialId) = none := by
    rw [List.find?_eq_none]
    intro row hrow
    obtain ⟨hmem, hset⟩ := List.mem_filter.mp hrow
    have hid := h.mem_credentialIds hmem
    rw [beq_iff_eq.mp hset] at hid
    simp [hid]
  unfold loadLifecycleSnapshots
  rw [hsqlite]
  simp only [Bool.not_true, Bool.false_eq_true, if_false, horphans, List.find?_filter]
  congr 2
  funext id
  congr 1
  funext row
  simp only [isRowOf, Bool.decide_and, Bool.decide_eq_true]

/-- The row that is found for a credential is about it. -/
theorem credentialId_of_find {store : CredentialStore} {setId : CredentialSetId}
    (id : CredentialId) (row : CredentialLifecycleSnapshot)
    (h : store.lifecycleStates.find? (isRowOf setId id) = some row) : row.credentialId = id :=
  (isRowOf_iff.mp (List.find?_some h)).2

/-- The state that the row of a credential restores. -/
theorem rowState_eq_getD (store : CredentialStore) (setId : CredentialSetId)
    (id : CredentialId) :
    store.rowState setId id =
      ((store.lifecycleStates.find? (isRowOf setId id)).map (·.state)).getD .available := by
  unfold rowState
  cases store.lifecycleStates.find? (isRowOf setId id) <;> rfl

end CredentialStore

end OneAiKey
