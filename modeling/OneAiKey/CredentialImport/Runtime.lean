/-
  OneAiKey.CredentialImport.Runtime — an import into a running pool
  (`credential_import_response_for_set` of `src/management_credentials.rs`).

  The request looks at the pool, records an audit event, stores the batch, and adds what was
  stored to the pool.  Each of these holds one lock or one transaction; between two of them
  other imports, selections and lifecycle changes run:

      idle ──▶ checked ──▶ audited ──▶ persisted ──▶ idle

  A credential set keeps its pool from one build of the runtime to the next; a run of
  `credentialImportSystem` is what happens to one such pool.

  Main results:
    * `ImportPool.containsSecret_iff` — the look at the pool sees its secrets;
    * `ImportPool.addCredentials` — new secrets are all added;
    * `Stored.of_ok` — what a batch adds to the set's rows and to its counts.
-/
import Mathlib.Algebra.Group.Prod
import OneAiKey.Commands
import OneAiKey.CredentialImport.Accounting
import OneAiKey.CredentialProbe
import OneAiKey.Pool.Durable
import OneAiKey.Upstream

namespace OneAiKey

open Collect (bind_eq_ok)
open FirstOccurrence

/-! ## §1. The request. -/

/-- `PoolState`, as far as an import changes it. -/
structure CredentialSetPool where
  pool : KeyPool
  selectorGeneration : Nat
  keyImportReport : KeyImportReport

/-- The answers to the errors of the credential store, without their details. -/
def credentialStoreError : CredentialStoreError → ManagementServiceError
  | .notWritable => .conflict "credential import requires a writable credential store"
  | .persistence _ => .persistence "credential store persistence error"

/-- The event of an import, recorded before the import. -/
def recordCredentialManagementAudit (log : EventLog) (actor : ManagementEventActor)
    (kind resourceType resourceId reasonCode : String) (createdAtUnixSeconds : Nat)
    (fault : Option String) : EventLog × Except ManagementServiceError Unit :=
  (log.recordAuditEventNow (.applied kind resourceType resourceId reasonCode (some actor))
    createdAtUnixSeconds fault).map id fun result =>
      result.mapError fun message => .eventAppendFailed message none

/-- The keys that the pool has already. -/
def runtimeExistingSecretsForImport (pool : KeyPool) (keys : List String) : List String :=
  ((keys.map trimString).filter fun key => !key.isEmpty).filter pool.containsSecret

/-- An import of blank keys alone is refused. -/
def ensureImportHasNonEmptyKey (keys : List String) : Except ManagementServiceError Unit :=
  if keys.any fun key => !(trimString key).isEmpty then .ok ()
  else .error (.conflict "credential import requires at least one non-empty key")

/-- The keys in the tables of the set, but for those that the pool has. -/
def appendCredentialImportForSet (persistentFingerprint : String → String)
    (credentialSetId : CredentialSetId) (keys : List String) (batchId : String)
    (runtimeExistingSecrets : List String) (clock : Nat → Int) (tables : CredentialTables)
    (fault : Option String) : CredentialTables × Except ManagementServiceError KeyImport :=
  (appendCredentialsExcludingSecrets persistentFingerprint credentialSetId batchId
    runtimeExistingSecrets clock tables keys fault).map id fun result =>
      result.mapError fun message => credentialStoreError (.persistence message)

/-- What bringing an import into the pool gives. -/
structure CredentialImportRuntimeApply where
  credentials : List CredentialStatus
  importReport : KeyImportReport
  selectorGeneration : Nat
  deriving DecidableEq, Repr

/-- The text of an error; no import ends with the panic. -/
def PoolFailure.message : PoolFailure → String
  | error message => message
  | indexOutOfBounds => "index out of bounds"

/-- The report of the pool behind an import of which so many credentials were added. -/
def KeyImportReport.applied (report importReport : KeyImportReport) (credentials : Nat) :
    KeyImportReport :=
  { report with
    physicalLineCount := report.physicalLineCount + importReport.physicalLineCount
    nonEmptyCount := report.nonEmptyCount + importReport.nonEmptyCount
    uniqueCount := report.uniqueCount + credentials
    duplicateOccurrenceCount :=
      report.duplicateOccurrenceCount + importReport.duplicateOccurrenceCount
    ignoredEmptyCount := report.ignoredEmptyCount + importReport.ignoredEmptyCount
    importGeneration := importReport.importGeneration
    lastImportedAtUnixSeconds := importReport.lastImportedAtUnixSeconds
    duplicateFingerprints := report.duplicateFingerprints ++ importReport.duplicateFingerprints }

/-- With a count that does not match, the credentials stay in the pool. -/
def applyCredentialImportToRuntime (runtime : CredentialSetPool) (keyImport : KeyImport) :
    CredentialSetPool × Except ManagementServiceError CredentialImportRuntimeApply :=
  match runtime.pool.addCredentials keyImport.credentials with
  | (pool, .error failure) => ({ runtime with pool }, .error (.persistence failure.message))
  | (pool, .ok snapshots) =>
      let credentials := snapshots.map credentialStatus
      if credentials.length ≠ keyImport.report.uniqueCount then
        ({ runtime with pool }, .error (.persistence
          ("credential import persisted " ++ toString keyImport.report.uniqueCount ++
            " credentials but applied " ++ toString credentials.length ++ " to runtime pool")))
      else
        let selectorGeneration := if credentials.isEmpty then runtime.selectorGeneration
          else runtime.selectorGeneration + 1
        ({ pool, selectorGeneration,
            keyImportReport := runtime.keyImportReport.applied keyImport.report
              credentials.length },
          .ok ⟨credentials, keyImport.report, selectorGeneration⟩)

/-- The answer to an import. -/
structure CredentialImportResponse where
  credentialSetId : CredentialSetId
  channelIds : List ChannelId
  selectorGeneration : Nat
  requestedCredentials : Nat
  importedCredentials : Nat
  duplicateCredentials : Nat
  ignoredEmptyCredentials : Nat
  credentials : List CredentialStatus
  deriving DecidableEq, Repr

/-- The answer, from the report of the tables and the pool. -/
def credentialImportResponseFromApply (credentialSetId : CredentialSetId)
    (channelIds : List ChannelId) (requestedCredentials : Nat)
    (runtimeApply : CredentialImportRuntimeApply) : CredentialImportResponse where
  credentialSetId := credentialSetId
  channelIds := channelIds
  selectorGeneration := runtimeApply.selectorGeneration
  requestedCredentials := requestedCredentials
  importedCredentials := runtimeApply.credentials.length
  duplicateCredentials := runtimeApply.importReport.duplicateOccurrenceCount
  ignoredEmptyCredentials := runtimeApply.importReport.ignoredEmptyCount
  credentials := runtimeApply.credentials

/-! ## §2. Imports under way. -/

/-- How far an import has come. -/
inductive ImportPhase where
  | idle
  | checked (keys : List String) (batchId : String) (existing : List String)
  | audited (keys : List String) (batchId : String) (existing : List String)
  | persisted (requestedCredentials : Nat) (keyImport : KeyImport)

/-- The stores, the runtime of one credential set, and the imports into it. -/
structure ImportWorld where
  tables : CredentialTables
  log : EventLog
  runtime : CredentialSetPool
  /-- The last clock value that anyone has read at the pool. -/
  clock : Instant
  phase : Nat → ImportPhase

/-- What can happen next: a step of an import, or a call of the pool. -/
inductive ImportLabel where
  | check (task : Nat) (keys : List String) (batchId : Option String)
  | audit (task : Nat) (actor : ManagementEventActor) (createdAtUnixSeconds : Nat)
      (fault : Option String)
  | persist (task : Nat) (clock : Nat → Int) (fault : Option String)
  | apply (task : Nat)
  /-- A selection, a failure report or a lifecycle command, and the generation it leaves. -/
  | poolOp (op : PoolOp) (readings : Readings) (selectorGeneration : Nat)
  /-- Another write of the stores. -/
  | write (tables : CredentialTables) (log : EventLog)

namespace ImportWorld

/-- A task moves to a phase. -/
def enter (w : ImportWorld) (task : Nat) (phase : ImportPhase) : ImportWorld :=
  { w with phase := Function.update w.phase task phase }

/-- The first step: the keys that the pool has are looked up. -/
def check (w : ImportWorld) (task : Nat) (keys : List String) (batchId : Option String) :
    ImportWorld :=
  match ensureImportHasNonEmptyKey keys with
  | .error _ => w
  | .ok () => w.enter task (.checked keys (batchId.getD "management-api")
      (runtimeExistingSecretsForImport w.runtime.pool keys))

/-- The second step: the event is recorded, or the import ends. -/
def audit (w : ImportWorld) (credentialSetId : CredentialSetId) (task : Nat)
    (keys : List String) (batchId : String) (existing : List String)
    (actor : ManagementEventActor) (createdAtUnixSeconds : Nat) (fault : Option String) :
    ImportWorld :=
  match recordCredentialManagementAudit w.log actor "credential_set_credentials_imported"
    "credential_set" credentialSetId "manual_credential_import" createdAtUnixSeconds fault with
  | (log, .error _) => { w.enter task .idle with log }
  | (log, .ok ()) => { w.enter task (.audited keys batchId existing) with log }

/-- The third step: the keys are written to the tables, or the import ends. -/
def persist (w : ImportWorld) (persistentFingerprint : String → String)
    (credentialSetId : CredentialSetId) (task : Nat) (keys : List String) (batchId : String)
    (existing : List String) (clock : Nat → Int) (fault : Option String) : ImportWorld :=
  match appendCredentialImportForSet persistentFingerprint credentialSetId keys batchId existing
    clock w.tables fault with
  | (tables, .error _) => { w.enter task .idle with tables }
  | (tables, .ok keyImport) => { w.enter task (.persisted keys.length keyImport) with tables }

/-- The last step: the keys come into the pool. -/
def apply (w : ImportWorld) (task : Nat) (keyImport : KeyImport) : ImportWorld :=
  { w.enter task .idle with
    runtime := (applyCredentialImportToRuntime w.runtime keyImport).1 }

/-- A call of the pool between the steps. -/
def exec (w : ImportWorld) (op : PoolOp) (r : Readings) (selectorGeneration : Nat) :
    ImportWorld :=
  { w with
    runtime := { w.runtime with
      pool := (op.exec r w.runtime.pool).1
      selectorGeneration := selectorGeneration }
    clock := r.third }

end ImportWorld

/-- The five counts that an import adds to. -/
abbrev ImportCounts := Nat × Nat × Nat × Nat × Nat

/-- The counts of a set's row. -/
def CredentialSetMetadata.counts (row : CredentialSetMetadata) : ImportCounts :=
  (row.physicalLineCount, row.nonEmptyCount, row.uniqueCount, row.duplicateOccurrenceCount,
    row.ignoredEmptyCount)

/-- The counts of a report. -/
def KeyImportReport.counts (report : KeyImportReport) : ImportCounts :=
  (report.physicalLineCount, report.nonEmptyCount, report.uniqueCount,
    report.duplicateOccurrenceCount, report.ignoredEmptyCount)

/-- The counts of the set's row. -/
def CredentialTables.counts (tables : CredentialTables) (credentialSetId : CredentialSetId) :
    ImportCounts :=
  (tables.credentialSets.lookup credentialSetId).elim 0 (·.counts)

/-- The secrets of the pool in its order. -/
def KeyPool.secrets (p : KeyPool) : List String := p.credentials.map (·.secret)

/-- The secrets that an import asks for. -/
def wantedSecrets (keys : List String) : List String := (nonBlank keys.zipIdx).map secretOf

/-- Any number of imports of secrets from `known`, and whatever else runs, in any order.
At the start the pool is built from credentials among which are those of the set's rows. -/
def credentialImportSystem (persistentFingerprint : String → String)
    (credentialSetId : CredentialSetId) (known : Set String) (start : List String) :
    TransitionSystem ImportWorld ImportLabel where
  Init w :=
    (∃ config, KeyPool.new config = .ok w.runtime.pool ∧
      config.credentialNamespace = credentialSetId ∧
      config.credentials.map (·.secret) = start) ∧
    start.Nodup ∧ (∀ secret ∈ start, secret ∈ known) ∧
    (∀ secret ∈ storedSecrets w.tables.credentials credentialSetId, secret ∈ start) ∧
    w.tables.counts credentialSetId = w.runtime.keyImportReport.counts ∧
    ∀ task, w.phase task = .idle
  Step w label w' :=
    match label with
    | .check task keys batchId =>
        w.phase task = .idle ∧ (∀ secret ∈ wantedSecrets keys, secret ∈ known) ∧
        w' = w.check task keys batchId
    | .audit task actor createdAtUnixSeconds fault => ∃ keys batchId existing,
        w.phase task = .checked keys batchId existing ∧
        w' = w.audit credentialSetId task keys batchId existing actor createdAtUnixSeconds fault
    | .persist task clock fault => ∃ keys batchId existing,
        w.phase task = .audited keys batchId existing ∧
        w' = w.persist persistentFingerprint credentialSetId task keys batchId existing clock
          fault
    | .apply task => ∃ requestedCredentials keyImport,
        w.phase task = .persisted requestedCredentials keyImport ∧ w' = w.apply task keyImport
    | .poolOp op r selectorGeneration =>
        op.KeepsCredentials ∧ w.clock ≤ r.first ∧ w' = w.exec op r selectorGeneration
    | .write tables log =>
        -- another write leaves the secrets and the counts of the set
        storedSecrets tables.credentials credentialSetId =
          storedSecrets w.tables.credentials credentialSetId ∧
        tables.counts credentialSetId = w.tables.counts credentialSetId ∧
        w' = { w with tables, log }

/-! ## §3. The pool. -/

/-- A pool of the credential set, with secrets from `known` only. -/
structure ImportPool (credentialSetId : CredentialSetId) (known : Set String) (t : Instant)
    (p : KeyPool) : Prop where
  wellFormed : WellFormed t p
  credentialNamespace : p.config.credentialNamespace = credentialSetId
  ids : ∀ c ∈ p.credentials, c.id = credentialIdForSecret credentialSetId c.secret
  known : ∀ secret ∈ p.secrets, secret ∈ known

theorem id_credentialsOf {credentialNamespace : String} {inputs : List PoolCredentialInput}
    {c : Credential} (hc : c ∈ KeyPool.credentialsOf credentialNamespace inputs) :
    c.id = credentialIdForSecret credentialNamespace c.secret := by
  obtain ⟨input, -, rfl⟩ := List.mem_map.mp hc
  rfl

theorem secrets_credentialsOf (credentialNamespace : String)
    (inputs : List PoolCredentialInput) :
    (KeyPool.credentialsOf credentialNamespace inputs).map (·.secret) =
      inputs.map (·.secret) := by
  unfold KeyPool.credentialsOf
  rw [List.map_map]
  rfl

/-- Ids of distinct secrets are distinct. -/
theorem nodup_ids {credentialSetId : CredentialSetId} {known : Set String}
    (hinj : Set.InjOn (credentialIdForSecret credentialSetId) known) {cs : List Credential}
    (hids : ∀ c ∈ cs, c.id = credentialIdForSecret credentialSetId c.secret)
    (hknown : ∀ secret ∈ cs.map (·.secret), secret ∈ known)
    (hnodup : (cs.map (·.secret)).Nodup) : (cs.map (·.id)).Nodup := by
  have hmap : cs.map (·.id) = (cs.map (·.secret)).map (credentialIdForSecret credentialSetId) := by
    rw [List.map_map]
    exact List.map_congr_left hids
  rw [hmap]
  exact hnodup.map_on fun a ha b hb heq => hinj (hknown a ha) (hknown b hb) heq

/-- Credentials with new and distinct ids are no duplicates. -/
theorem KeyPool.firstDuplicate_eq_none {p : KeyPool} {cs : List Credential}
    {newIds : Std.TreeSet CredentialId}
    (hnew : ∀ c ∈ cs, c.id ∉ p.credentialIndex ∧ c.id ∉ newIds) (hnodup : (cs.map (·.id)).Nodup) :
    firstDuplicate p newIds cs = none := by
  induction cs generalizing newIds with
  | nil => rfl
  | cons c cs ih =>
      rw [List.map_cons, List.nodup_cons] at hnodup
      obtain ⟨hindex, hseen⟩ := hnew c List.mem_cons_self
      unfold firstDuplicate
      rw [if_neg (not_or.mpr ⟨hindex, hseen⟩)]
      refine ih (fun c' hc' => ?_) hnodup.2
      obtain ⟨hindex', hseen'⟩ := hnew c' (List.mem_cons_of_mem _ hc')
      refine ⟨hindex', fun hmem => ?_⟩
      rcases Std.TreeSet.mem_insert.mp hmem with heq | hmem
      · have hsame : c.id = c'.id := Std.LawfulEqOrd.eq_of_compare heq
        exact hnodup.1 (List.mem_map.mpr ⟨c', hc', hsame.symm⟩)
      · exact hseen' hmem

theorem WellFormed.mem_credentialIndex_iff {t : Instant} {p : KeyPool} (h : WellFormed t p)
    (id : CredentialId) : id ∈ p.credentialIndex ↔ ∃ c ∈ p.credentials, c.id = id := by
  rw [Std.TreeMap.mem_iff_isSome_getElem?, Option.isSome_iff_exists]
  constructor
  · intro hfound
    obtain ⟨i, hi⟩ := hfound
    obtain ⟨c, hc, hid⟩ := (h.index_iff id i).mp hi
    exact ⟨c, List.mem_of_getElem? hc, hid⟩
  · intro hmem
    obtain ⟨c, hc, hid⟩ := hmem
    obtain ⟨i, hi⟩ := List.getElem?_of_mem hc
    exact ⟨i, (h.index_iff id i).mpr ⟨c, hi, hid⟩⟩

namespace ImportPool

variable {credentialSetId : CredentialSetId} {known : Set String} {t : Instant} {p : KeyPool}

/-- The id of a secret is in the index if the secret is in the pool. -/
theorem mem_credentialIndex_iff (h : ImportPool credentialSetId known t p)
    (hinj : Set.InjOn (credentialIdForSecret credentialSetId) known) {secret : String}
    (hsecret : secret ∈ known) :
    credentialIdForSecret credentialSetId secret ∈ p.credentialIndex ↔ secret ∈ p.secrets := by
  rw [h.wellFormed.mem_credentialIndex_iff]
  unfold KeyPool.secrets
  rw [List.mem_map]
  constructor
  · intro hmem
    obtain ⟨c, hc, hid⟩ := hmem
    rw [h.ids c hc] at hid
    exact ⟨c, hc, hinj (h.known _ (List.mem_map_of_mem hc)) hsecret hid⟩
  · intro hmem
    obtain ⟨c, hc, hcs⟩ := hmem
    exact ⟨c, hc, by rw [h.ids c hc, hcs]⟩

theorem containsSecret_iff (h : ImportPool credentialSetId known t p)
    (hinj : Set.InjOn (credentialIdForSecret credentialSetId) known) {secret : String}
    (hsecret : secret ∈ known) : p.containsSecret secret = true ↔ secret ∈ p.secrets := by
  rw [← h.mem_credentialIndex_iff hinj hsecret, ← h.credentialNamespace]
  exact decide_eq_true_iff

/-- No two credentials of the pool have one secret. -/
theorem nodup_secrets (h : ImportPool credentialSetId known t p) : p.secrets.Nodup := by
  unfold KeyPool.secrets
  rw [List.Nodup, List.pairwise_map, List.pairwise_iff_getElem]
  intro i j hi hj hlt heq
  have hsame : p.credentials[i].id = p.credentials[j].id := by
    rw [h.ids _ (List.getElem_mem hi), h.ids _ (List.getElem_mem hj), heq]
  have hij := h.wellFormed.index_unique (List.getElem?_eq_getElem hi)
    (List.getElem?_eq_getElem hj) hsame
  omega

/-- New credentials are all added. -/
theorem addCredentials (h : ImportPool credentialSetId known t p)
    (hinj : Set.InjOn (credentialIdForSecret credentialSetId) known)
    {inputs : List PoolCredentialInput}
    (hknown : ∀ secret ∈ inputs.map (·.secret), secret ∈ known)
    (hnodup : (inputs.map (·.secret)).Nodup)
    (hnew : ∀ secret ∈ inputs.map (·.secret), secret ∉ p.secrets) :
    ∃ pool snapshots, p.addCredentials inputs = (pool, .ok snapshots) ∧
      snapshots.length = inputs.length ∧
      pool.secrets = p.secrets ++ inputs.map (·.secret) ∧
      ImportPool credentialSetId known t pool := by
  have hsecrets := secrets_credentialsOf p.config.credentialNamespace inputs
  -- an id is the hash of its secret, so new secrets have new ids
  have hids : ∀ c ∈ KeyPool.credentialsOf p.config.credentialNamespace inputs,
      c.id = credentialIdForSecret credentialSetId c.secret := by
    intro c hc
    rw [← h.credentialNamespace]
    exact id_credentialsOf hc
  have hmem : ∀ c ∈ KeyPool.credentialsOf p.config.credentialNamespace inputs,
      c.secret ∈ inputs.map (·.secret) := fun c hc => hsecrets ▸ List.mem_map_of_mem hc
  have hunindexed : ∀ c ∈ KeyPool.credentialsOf p.config.credentialNamespace inputs,
      c.id ∉ p.credentialIndex ∧ c.id ∉ (∅ : Std.TreeSet CredentialId) := by
    intro c hc
    refine ⟨?_, Std.TreeSet.not_mem_emptyc⟩
    rw [hids c hc, h.mem_credentialIndex_iff hinj (hknown _ (hmem c hc))]
    exact hnew _ (hmem c hc)
  -- no id is there already, so the source refuses none
  have hnone := KeyPool.firstDuplicate_eq_none hunindexed
    (nodup_ids hinj hids (by rwa [hsecrets]) (by rwa [hsecrets]))
  have hwell := h.wellFormed.addCredentials inputs
  unfold KeyPool.addCredentials at hwell ⊢
  dsimp only at hwell ⊢
  rw [hnone] at hwell ⊢
  have hadded := KeyPool.credentials_foldl_pushCredential
    (KeyPool.credentialsOf p.config.credentialNamespace inputs) p
  have hall : ((KeyPool.credentialsOf p.config.credentialNamespace inputs).foldl
      KeyPool.pushCredential p).secrets = p.secrets ++ inputs.map (·.secret) := by
    unfold KeyPool.secrets
    rw [hadded, List.map_append, hsecrets]
  refine ⟨_, _, rfl, ?_, hall, hwell, ?_, ?_, ?_⟩
  · rw [List.length_map]
    exact List.length_map _
  · rw [KeyPool.config_foldl_pushCredential]
    exact h.credentialNamespace
  · intro c hc
    rw [hadded] at hc
    exact (List.mem_append.mp hc).elim (h.ids c) (hids c)
  · intro secret hsecret
    rw [hall] at hsecret
    exact (List.mem_append.mp hsecret).elim (h.known secret) (hknown secret)

/-- The other operations change no credential but its state. -/
theorem secrets_exec (h : ImportPool credentialSetId known t p) {op : PoolOp}
    (hop : op.KeepsCredentials) (r : Readings) :
    (op.exec r p).1.secrets = p.secrets ∧
      ∀ c ∈ (op.exec r p).1.credentials, c.id = credentialIdForSecret credentialSetId c.secret := by
  have hlength := p.length_exec hop r
  -- position by position, only the state of a credential changes
  have hsame : ∀ (i : Nat) (c' : Credential), (op.exec r p).1.credentials[i]? = some c' →
      ∃ c, p.credentials[i]? = some c ∧ c'.id = c.id ∧ c'.secret = c.secret := by
    intro i c' hc'
    have hlt : i < p.credentials.length := hlength ▸ (List.getElem?_eq_some_iff.mp hc').1
    have hc := List.getElem?_eq_getElem hlt
    have hexec := op.exec_credential h.wellFormed hc r
    rw [hc'] at hexec
    cases hexec
    exact ⟨_, hc, rfl, rfl⟩
  constructor
  · unfold KeyPool.secrets
    refine List.ext_getElem (by rw [List.length_map, List.length_map, hlength]) ?_
    intro i hi hi'
    rw [List.length_map] at hi hi'
    obtain ⟨c, hc, -, hsecret⟩ := hsame i _ (List.getElem?_eq_getElem hi)
    rw [List.getElem?_eq_getElem hi'] at hc
    rw [List.getElem_map, List.getElem_map, hsecret, Option.some.inj hc]
  · intro c' hc'
    obtain ⟨i, hi⟩ := List.getElem?_of_mem hc'
    obtain ⟨c, hc, hid, hsecret⟩ := hsame i c' hi
    rw [hid, hsecret]
    exact h.ids c (List.mem_of_getElem? hc)

theorem exec (h : ImportPool credentialSetId known t p) {op : PoolOp}
    (hop : op.KeepsCredentials) {r : Readings} (hr : t ≤ r.first) :
    ImportPool credentialSetId known r.third (op.exec r p).1 := by
  obtain ⟨hsecrets, hids⟩ := h.secrets_exec hop r
  refine ⟨op.exec_wellFormed h.wellFormed hr, ?_, hids, ?_⟩
  · rw [op.exec_config]
    exact h.credentialNamespace
  · rw [hsecrets]
    exact h.known

/-- A new pool. -/
theorem of_new (hinj : Set.InjOn (credentialIdForSecret credentialSetId) known)
    {config : KeyPoolConfig} (hnew : KeyPool.new config = .ok p)
    (hnamespace : config.credentialNamespace = credentialSetId)
    (hnodup : (config.credentials.map (·.secret)).Nodup)
    (hknown : ∀ secret ∈ config.credentials.map (·.secret), secret ∈ known) :
    p.secrets = config.credentials.map (·.secret) ∧ ImportPool credentialSetId known t p := by
  unfold KeyPool.new at hnew
  split at hnew
  · cases hnew
  · next hne =>
      cases hnew
      have hsecrets : (KeyPool.ofConfig config).secrets = config.credentials.map (·.secret) :=
        secrets_credentialsOf config.credentialNamespace config.credentials
      have hids : ∀ c ∈ (KeyPool.ofConfig config).credentials,
          c.id = credentialIdForSecret credentialSetId c.secret := by
        intro c hc
        rw [← hnamespace]
        exact id_credentialsOf hc
      refine ⟨hsecrets, ?_, hnamespace, hids, ?_⟩
      · refine WellFormed.ofConfig (fun hempty => hne (List.isEmpty_iff.mpr hempty)) ?_
        exact nodup_ids hinj hids (fun secret hs => hknown secret (hsecrets ▸ hs))
          (show (KeyPool.ofConfig config).secrets.Nodup from hsecrets.symm ▸ hnodup)
      · exact fun secret hs => hknown secret (hsecrets ▸ hs)

end ImportPool

/-! ## §4. The store. -/

/-- What a batch adds to the rows and to the counts of the set. -/
structure Stored (credentialSetId : CredentialSetId) (keys existing : List String)
    (tables tables' : CredentialTables) (keyImport : KeyImport) : Prop where
  taken : ∀ secret, secret ∈ keyImport.credentials.map (·.secret) ↔
    secret ∈ wantedSecrets keys ∧
      secret ∉ storedSecrets tables.credentials credentialSetId ∧ secret ∉ existing
  stored : ∀ secret, secret ∈ storedSecrets tables'.credentials credentialSetId ↔
    secret ∈ storedSecrets tables.credentials credentialSetId ∨
      secret ∈ keyImport.credentials.map (·.secret)
  counts : tables'.counts credentialSetId = tables.counts credentialSetId + keyImport.report.counts
  distinct : (keyImport.credentials.map (·.secret)).Nodup
  unique : keyImport.report.uniqueCount = keyImport.credentials.length
  requested : keyImport.report.uniqueCount + keyImport.report.duplicateOccurrenceCount +
    keyImport.report.ignoredEmptyCount = keys.length

/-- The keys that are not blank, trimmed. -/
theorem wantedSecrets_eq (keys : List String) :
    wantedSecrets keys = (keys.map trimString).filter fun key => !key.isEmpty := by
  have hkeys : keys.map trimString = keys.zipIdx.map secretOf := by
    rw [← List.zipIdx_map_fst 0 keys, List.map_map, List.zipIdx_map_fst]
    rfl
  unfold wantedSecrets nonBlank
  rw [hkeys, List.filter_map]
  rfl

section Stored

variable {persistentFingerprint : String → String} {credentialSetId : CredentialSetId}
  {batchId : String} {existing keys : List String} {clock : Nat → Int}
  {tables tables' : CredentialTables} {keyImport : KeyImport}

theorem storedSecrets_newRows (position : Nat) (lines : List (String × Nat)) :
    storedSecrets (newRows persistentFingerprint credentialSetId batchId clock position lines)
      credentialSetId = lines.map secretOf := by
  induction lines generalizing position with
  | nil => rfl
  | cons line lines ih =>
      have hset : ((rowFrom persistentFingerprint credentialSetId batchId clock position
          line).credentialSetId == credentialSetId) = true := beq_self_eq_true credentialSetId
      have hrest := ih (position + 1)
      unfold storedSecrets at hrest ⊢
      unfold newRows
      rw [List.filter_cons, if_pos hset, List.map_cons, hrest]
      rfl

theorem storedSecrets_append (rows rows' : List CredentialRow) :
    storedSecrets (rows ++ rows') credentialSetId =
      storedSecrets rows credentialSetId ++ storedSecrets rows' credentialSetId := by
  unfold storedSecrets
  rw [List.filter_append, List.map_append]

/-- The counts of the batch go to the row of the set.  The row of the set is added to, not
replaced, so that the counts of earlier batches stay. -/
theorem counts_appendTransaction
    (h : appendTransaction persistentFingerprint credentialSetId batchId existing clock tables
      keys = .ok (tables', keyImport)) :
    tables'.counts credentialSetId =
      tables.counts credentialSetId + keyImport.report.counts := by
  obtain ⟨hknown, hset, h⟩ := bind_eq_ok.mp h
  obtain ⟨s, -, h⟩ := bind_eq_ok.mp h
  obtain ⟨setReport, -, h⟩ := bind_eq_ok.mp h
  cases h
  unfold CredentialTables.counts
  cases hrow : tables.credentialSets.lookup credentialSetId with
  | none =>
      -- a set without a row is refused at the start
      rw [hrow] at hset
      cases hset
  | some row =>
      dsimp only
      rw [IdMap.update_of_lookup _ hrow, Finmap.lookup_insert]
      rfl

theorem Stored.of_ok
    (h : appendTransaction persistentFingerprint credentialSetId batchId existing clock tables
      keys = .ok (tables', keyImport)) :
    Stored credentialSetId keys existing tables tables' keyImport := by
  have haccount := importAccounted_of_ok h
  -- the imported credentials are those of the taken lines
  have htaken : keyImport.credentials.map (·.secret) =
      (takenLines credentialSetId existing tables keys).map secretOf := by
    rw [haccount.credentials, List.map_map]
    rfl
  refine ⟨?_, ?_, counts_appendTransaction h, haccount.distinct, haccount.unique, ?_⟩
  · intro secret
    rw [htaken]
    unfold takenLines
    rw [mem_map_firsts, List.mem_append, not_or]
    rfl
  · intro secret
    obtain ⟨old, hold, hrows⟩ := haccount.rows
    have hkept : List.Forall₂ (CredentialRow.Kept ∅) tables.credentials old :=
      hold.imp fun row row' hrow => ⟨hrow, fun hmem => absurd hmem Finmap.notMem_empty⟩
    rw [hrows, storedSecrets_append, storedSecrets_kept hkept, storedSecrets_newRows,
      List.mem_append, htaken]
  · have hphysical := haccount.physical
    have hnonEmpty := haccount.nonEmpty
    omega

end Stored

end OneAiKey
