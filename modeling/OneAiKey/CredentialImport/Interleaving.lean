/-
  OneAiKey.CredentialImport.Interleaving — imports beside imports and everything else.

  Two imports may ask for the same key, and one may look at the pool before the other has
  stored and after it has added.  Every reachable world is, seen as a store with a cache
  behind it, a reachable state of `StoreThenCache.system`: the rows of the set are the
  store, the pool is the cache, and the counts of the two reports are the accounts.

  Main result:
    * `imports_lose_nothing` — what has been stored is added to the pool without an error,
      and once nothing is on its way the pool has the stored secrets and its report counts
      what the store counts.
-/
import OneAiKey.CredentialImport.Runtime
import OneAiKey.Lib.StoreThenCache

namespace OneAiKey

open StoreThenCache

/-! ## §1. The world as a store and a cache. -/

def ImportPhase.outline : ImportPhase → Phase String ImportCounts
  | idle => .idle
  | checked keys _ existing | audited keys _ existing =>
      .looked {secret | secret ∈ wantedSecrets keys} {secret | secret ∈ existing}
  | persisted _ keyImport =>
      .taken {secret | secret ∈ keyImport.credentials.map (·.secret)} keyImport.report.counts

def ImportWorld.outline (credentialSetId : CredentialSetId) (w : ImportWorld) :
    State Nat String ImportCounts where
  stored := {secret | secret ∈ storedSecrets w.tables.credentials credentialSetId}
  cached := {secret | secret ∈ w.runtime.pool.secrets}
  storedAccount := w.tables.counts credentialSetId
  cachedAccount := w.runtime.keyImportReport.counts
  phase task := (w.phase task).outline

theorem outline_update (phase : Nat → ImportPhase) (task : Nat) (next : ImportPhase) :
    (fun i => (Function.update phase task next i).outline) =
      Function.update (fun i => (phase i).outline) task next.outline := by
  funext i
  by_cases hi : i = task
  · rw [hi, Function.update_self, Function.update_self]
  · rw [Function.update_of_ne hi, Function.update_of_ne hi]

theorem outline_enter (credentialSetId : CredentialSetId) (w : ImportWorld) (task : Nat)
    (next : ImportPhase) :
    (w.enter task next).outline credentialSetId =
      (w.outline credentialSetId).enter task next.outline :=
  State.ext rfl rfl rfl rfl (outline_update w.phase task next)

/-- What an import knows of its own keys. -/
def ImportPhase.Valid (known : Set String) : ImportPhase → Prop
  | idle => True
  | checked keys _ _ | audited keys _ _ => ∀ secret ∈ wantedSecrets keys, secret ∈ known
  | persisted requestedCredentials keyImport =>
      (∀ secret ∈ keyImport.credentials.map (·.secret), secret ∈ known) ∧
      (keyImport.credentials.map (·.secret)).Nodup ∧
      keyImport.report.uniqueCount = keyImport.credentials.length ∧
      keyImport.report.uniqueCount + keyImport.report.duplicateOccurrenceCount +
        keyImport.report.ignoredEmptyCount = requestedCredentials

structure ImportInvariant (credentialSetId : CredentialSetId) (known : Set String)
    (start : List String) (w : ImportWorld) : Prop where
  outline : (system Nat {secret | secret ∈ start}).Reachable (w.outline credentialSetId)
  pool : ImportPool credentialSetId known w.clock w.runtime.pool
  valid : ∀ task, (w.phase task).Valid known

variable {persistentFingerprint : String → String} {credentialSetId : CredentialSetId}
  {known : Set String} {start : List String} {w w' : ImportWorld} {label : ImportLabel}

theorem valid_update {phase : Nat → ImportPhase} {task : Nat} {next : ImportPhase}
    (h : ∀ i, (phase i).Valid known) (hnext : next.Valid known) (i : Nat) :
    (Function.update phase task next i).Valid known := by
  by_cases hi : i = task
  · rw [hi, Function.update_self]
    exact hnext
  · rw [Function.update_of_ne hi]
    exact h i

/-! ## §2. The last two steps. -/

/-- A batch that fails leaves the tables. -/
theorem tables_of_error {keys existing : List String} {batchId : String} {clock : Nat → Int}
    {tables tables' : CredentialTables} {fault : Option String} {err : ManagementServiceError}
    (h : appendCredentialImportForSet persistentFingerprint credentialSetId keys batchId existing
      clock tables fault = (tables', .error err)) : tables' = tables := by
  unfold appendCredentialImportForSet appendCredentialsExcludingSecrets at h
  split at h
  · exact (congrArg Prod.fst h).symm
  · split at h
    · exact (congrArg Prod.fst h).symm
    · cases congrArg Prod.snd h

theorem Stored.of_append {keys existing : List String} {batchId : String} {clock : Nat → Int}
    {tables tables' : CredentialTables} {fault : Option String} {keyImport : KeyImport}
    (h : appendCredentialImportForSet persistentFingerprint credentialSetId keys batchId existing
      clock tables fault = (tables', .ok keyImport)) :
    Stored credentialSetId keys existing tables tables' keyImport := by
  unfold appendCredentialImportForSet appendCredentialsExcludingSecrets at h
  split at h
  · cases congrArg Prod.snd h
  · split at h
    · cases congrArg Prod.snd h
    · next hrun =>
        cases h
        exact .of_ok hrun

/-- New credentials are applied as they are. -/
theorem applyCredentialImportToRuntime_ok {t : Instant} {runtime : CredentialSetPool}
    {requestedCredentials : Nat} {keyImport : KeyImport}
    (hpool : ImportPool credentialSetId known t runtime.pool)
    (hinj : Set.InjOn (credentialIdForSecret credentialSetId) known)
    (hvalid : (ImportPhase.persisted requestedCredentials keyImport).Valid known)
    (hnew : ∀ secret ∈ keyImport.credentials.map (·.secret), secret ∉ runtime.pool.secrets) :
    ∃ runtime' runtimeApply,
      applyCredentialImportToRuntime runtime keyImport = (runtime', .ok runtimeApply) ∧
      runtimeApply.credentials.length = keyImport.credentials.length ∧
      runtimeApply.importReport = keyImport.report ∧
      runtime'.pool.secrets = runtime.pool.secrets ++ keyImport.credentials.map (·.secret) ∧
      runtime'.keyImportReport.counts =
        runtime.keyImportReport.counts + keyImport.report.counts ∧
      ImportPool credentialSetId known t runtime'.pool := by
  obtain ⟨hknown, hnodup, hunique, -⟩ := hvalid
  obtain ⟨pool, snapshots, hadd, hlength, hsecrets, hpool'⟩ :=
    hpool.addCredentials hinj hknown hnodup hnew
  have hlength' : (snapshots.map credentialStatus).length = keyImport.credentials.length :=
    (List.length_map _).trans hlength
  have hcount : (snapshots.map credentialStatus).length = keyImport.report.uniqueCount :=
    hlength'.trans hunique.symm
  unfold applyCredentialImportToRuntime
  rw [hadd]
  dsimp only
  rw [if_neg (not_not_intro hcount)]
  refine ⟨_, _, rfl, hlength', rfl, hsecrets, ?_, hpool'⟩
  dsimp only
  rw [hcount]
  rfl

namespace ImportInvariant

/-- What has been stored is not in the pool yet. -/
theorem notMem_pool (h : ImportInvariant credentialSetId known start w) {task : Nat}
    {requestedCredentials : Nat} {keyImport : KeyImport}
    (htask : w.phase task = .persisted requestedCredentials keyImport) :
    ∀ secret ∈ keyImport.credentials.map (·.secret), secret ∉ w.runtime.pool.secrets := by
  have hphase : (w.outline credentialSetId).phase task =
      (ImportPhase.persisted requestedCredentials keyImport).outline :=
    congrArg ImportPhase.outline htask
  have hapart := (safe_of_reachable h.outline).taken_uncached task _ _ hphase
  exact fun secret hsecret => Set.disjoint_left.mp hapart hsecret

theorem apply (h : ImportInvariant credentialSetId known start w)
    (hinj : Set.InjOn (credentialIdForSecret credentialSetId) known) {task : Nat}
    {requestedCredentials : Nat} {keyImport : KeyImport}
    (htask : w.phase task = .persisted requestedCredentials keyImport) :
    ∃ runtime' runtimeApply,
      applyCredentialImportToRuntime w.runtime keyImport = (runtime', .ok runtimeApply) ∧
      runtimeApply.credentials.length = keyImport.credentials.length ∧
      runtimeApply.importReport = keyImport.report ∧
      runtime'.pool.secrets = w.runtime.pool.secrets ++ keyImport.credentials.map (·.secret) ∧
      runtime'.keyImportReport.counts =
        w.runtime.keyImportReport.counts + keyImport.report.counts ∧
      ImportPool credentialSetId known w.clock runtime'.pool :=
  applyCredentialImportToRuntime_ok h.pool hinj (htask ▸ h.valid task) (h.notMem_pool htask)

/-! ## §3. The steps. -/

/-- A step of the import that is one of the outline, or leaves it. -/
theorem of_outline (h : ImportInvariant credentialSetId known start w)
    (hstep : Step (w.outline credentialSetId) (w'.outline credentialSetId) ∨
      w'.outline credentialSetId = w.outline credentialSetId)
    (hpool : ImportPool credentialSetId known w'.clock w'.runtime.pool)
    (hvalid : ∀ task, (w'.phase task).Valid known) :
    ImportInvariant credentialSetId known start w' := by
  refine ⟨?_, hpool, hvalid⟩
  rcases hstep with hstep | hsame
  · exact h.outline.step (e := ()) hstep
  · rw [hsame]
    exact h.outline

theorem check (h : ImportInvariant credentialSetId known start w)
    (hinj : Set.InjOn (credentialIdForSecret credentialSetId) known) {task : Nat}
    (hidle : w.phase task = .idle) {keys : List String}
    (hknown : ∀ secret ∈ wantedSecrets keys, secret ∈ known) (batchId : Option String) :
    ImportInvariant credentialSetId known start (w.check task keys batchId) := by
  unfold ImportWorld.check
  split
  · exact h
  · refine h.of_outline (.inl ?_) h.pool (valid_update h.valid hknown)
    have hlook := Step.look (s := w.outline credentialSetId) (congrArg ImportPhase.outline hidle)
      {secret | secret ∈ wantedSecrets keys}
    -- the secrets that the request finds are those of the pool
    have hexisting : {secret | secret ∈ wantedSecrets keys} ∩ (w.outline credentialSetId).cached =
        {secret | secret ∈ runtimeExistingSecretsForImport w.runtime.pool keys} := by
      ext secret
      show secret ∈ wantedSecrets keys ∧ secret ∈ w.runtime.pool.secrets ↔
        secret ∈ runtimeExistingSecretsForImport w.runtime.pool keys
      unfold runtimeExistingSecretsForImport
      rw [List.mem_filter, ← wantedSecrets_eq]
      exact and_congr_right fun hmem => (h.pool.containsSecret_iff hinj (hknown secret hmem)).symm
    rw [hexisting] at hlook
    rw [outline_enter]
    exact hlook

theorem audit (h : ImportInvariant credentialSetId known start w) {task : Nat}
    {keys : List String} {batchId : String} {existing : List String}
    (hchecked : w.phase task = .checked keys batchId existing) (actor : ManagementEventActor)
    (createdAtUnixSeconds : Nat) (fault : Option String) :
    ImportInvariant credentialSetId known start
      (w.audit credentialSetId task keys batchId existing actor createdAtUnixSeconds fault) := by
  have hvalid := h.valid task
  rw [hchecked] at hvalid
  have hphase : (w.outline credentialSetId).phase task =
      .looked {secret | secret ∈ wantedSecrets keys} {secret | secret ∈ existing} :=
    congrArg ImportPhase.outline hchecked
  unfold ImportWorld.audit
  split
  · refine h.of_outline (.inl ?_) h.pool (valid_update h.valid trivial)
    exact (outline_enter credentialSetId w task .idle).symm ▸ Step.giveUp hphase
  · -- the audit event is none of the outline's business
    refine h.of_outline (.inr ?_) h.pool (valid_update h.valid hvalid)
    refine (outline_enter credentialSetId w task (.audited keys batchId existing)).trans ?_
    exact State.ext rfl rfl rfl rfl (Function.update_eq_self_iff.mpr hphase.symm)

theorem persist (h : ImportInvariant credentialSetId known start w) {task : Nat}
    {keys : List String} {batchId : String} {existing : List String}
    (haudited : w.phase task = .audited keys batchId existing) (clock : Nat → Int)
    (fault : Option String) :
    ImportInvariant credentialSetId known start
      (w.persist persistentFingerprint credentialSetId task keys batchId existing clock
        fault) := by
  have hvalid := h.valid task
  rw [haudited] at hvalid
  have hphase : (w.outline credentialSetId).phase task =
      .looked {secret | secret ∈ wantedSecrets keys} {secret | secret ∈ existing} :=
    congrArg ImportPhase.outline haudited
  unfold ImportWorld.persist
  -- the transaction fails, or it takes what is neither stored nor known to the pool
  split
  · next tables err hrun =>
      obtain rfl := tables_of_error hrun
      refine h.of_outline (.inl ?_) h.pool (valid_update h.valid trivial)
      exact (outline_enter credentialSetId w task .idle).symm ▸ Step.giveUp hphase
  · next tables keyImport hrun =>
      have hstored := Stored.of_append hrun
      have htaken : {secret | secret ∈ keyImport.credentials.map (·.secret)} =
          fresh (w.outline credentialSetId) {secret | secret ∈ wantedSecrets keys}
            {secret | secret ∈ existing} := by
        ext secret
        show secret ∈ keyImport.credentials.map (·.secret) ↔ secret ∈ wantedSecrets keys ∧
          ¬ (secret ∈ storedSecrets w.tables.credentials credentialSetId ∨ secret ∈ existing)
        rw [hstored.taken, not_or]
      refine h.of_outline (.inl ?_) h.pool (valid_update h.valid ?_)
      · have htake := Step.take hphase keyImport.report.counts
        rw [← htaken] at htake
        -- in the abstract system this is the step that takes the new secrets
        have hnext : ({ w.enter task (.persisted keys.length keyImport) with tables } :
            ImportWorld).outline credentialSetId =
            { (w.outline credentialSetId).enter task
                (.taken {secret | secret ∈ keyImport.credentials.map (·.secret)}
                  keyImport.report.counts) with
              stored := (w.outline credentialSetId).stored ∪
                {secret | secret ∈ keyImport.credentials.map (·.secret)}
              storedAccount := (w.outline credentialSetId).storedAccount +
                keyImport.report.counts } :=
          State.ext (Set.ext hstored.stored) rfl hstored.counts rfl (outline_update _ _ _)
        rw [hnext]
        exact htake
      · exact ⟨fun secret hs => hvalid secret ((hstored.taken secret).mp hs).1, hstored.distinct,
          hstored.unique, hstored.requested⟩

theorem applied (h : ImportInvariant credentialSetId known start w)
    (hinj : Set.InjOn (credentialIdForSecret credentialSetId) known) {task : Nat}
    {requestedCredentials : Nat} {keyImport : KeyImport}
    (htask : w.phase task = .persisted requestedCredentials keyImport) :
    ImportInvariant credentialSetId known start (w.apply task keyImport) := by
  obtain ⟨runtime', runtimeApply, hrun, -, -, hsecrets, hcounts, hpool⟩ := h.apply hinj htask
  have hphase : (w.outline credentialSetId).phase task =
      .taken {secret | secret ∈ keyImport.credentials.map (·.secret)} keyImport.report.counts :=
    congrArg ImportPhase.outline htask
  unfold ImportWorld.apply
  rw [hrun]
  refine h.of_outline (.inl ?_) hpool (valid_update h.valid trivial)
  -- seen from outside, the items that the task holds come into the cache
  have hnext : ({ w.enter task .idle with runtime := runtime' } : ImportWorld).outline
      credentialSetId = { (w.outline credentialSetId).enter task .idle with
        cached := (w.outline credentialSetId).cached ∪
          {secret | secret ∈ keyImport.credentials.map (·.secret)}
        cachedAccount := (w.outline credentialSetId).cachedAccount +
          keyImport.report.counts } := by
    refine State.ext rfl (Set.ext fun secret => ?_) rfl hcounts (outline_update _ _ _)
    show secret ∈ runtime'.pool.secrets ↔ _
    rw [hsecrets, List.mem_append]
    rfl
  rw [hnext]
  exact Step.put hphase

end ImportInvariant

/-- One case per step of the system. -/
theorem ImportInvariant.step (h : ImportInvariant credentialSetId known start w)
    (hinj : Set.InjOn (credentialIdForSecret credentialSetId) known)
    (hstep : (credentialImportSystem persistentFingerprint credentialSetId known start).Step w
      label w') : ImportInvariant credentialSetId known start w' := by
  cases label with
  | check task keys batchId =>
      obtain ⟨hidle, hknown, rfl⟩ := hstep
      exact h.check hinj hidle hknown batchId
  | audit task actor createdAtUnixSeconds fault =>
      obtain ⟨keys, batchId, existing, hchecked, rfl⟩ := hstep
      exact h.audit hchecked actor createdAtUnixSeconds fault
  | persist task clock fault =>
      obtain ⟨keys, batchId, existing, haudited, rfl⟩ := hstep
      exact h.persist haudited clock fault
  | apply task =>
      obtain ⟨requestedCredentials, keyImport, htask, rfl⟩ := hstep
      exact h.applied hinj htask
  -- operations of the pool neither add nor lose a secret
  | poolOp op r selectorGeneration =>
      obtain ⟨hop, hclock, rfl⟩ := hstep
      refine h.of_outline (.inr ?_) (h.pool.exec hop hclock) h.valid
      refine State.ext rfl ?_ rfl rfl rfl
      show {secret | secret ∈ (op.exec r w.runtime.pool).1.secrets} = _
      rw [(h.pool.secrets_exec hop r).1]
      rfl
  -- other writers leave the secrets of the set and its counts
  | write tables log =>
      obtain ⟨hsecrets, hcounts, rfl⟩ := hstep
      refine h.of_outline (.inr (State.ext ?_ rfl hcounts rfl rfl)) h.pool h.valid
      show {secret | secret ∈ storedSecrets tables.credentials credentialSetId} = _
      rw [hsecrets]
      rfl

theorem importInvariant_of_reachable
    (hinj : Set.InjOn (credentialIdForSecret credentialSetId) known)
    (h : (credentialImportSystem persistentFingerprint credentialSetId known start).Reachable w) :
    ImportInvariant credentialSetId known start w := by
  refine h.invariant ?_ fun _ _ _ hw hstep => hw.step hinj hstep
  intro w₀ hinit
  obtain ⟨⟨config, hnew, hnamespace, hstart⟩, hnodup, hknown, hstored, hcounts, hidle⟩ := hinit
  obtain ⟨hsecrets, hpool⟩ :=
    ImportPool.of_new hinj hnew hnamespace (hstart.symm ▸ hnodup) (hstart.symm ▸ hknown)
  rw [hstart] at hsecrets
  refine ⟨.init ⟨?_, ?_, hcounts, fun task => ?_⟩, hpool, fun task => ?_⟩
  · intro secret hsecret
    show secret ∈ w₀.runtime.pool.secrets
    rw [hsecrets]
    exact hstored secret hsecret
  · show {secret | secret ∈ w₀.runtime.pool.secrets} = _
    rw [hsecrets]
  · exact congrArg ImportPhase.outline (hidle task)
  · rw [hidle task]
    trivial

/-! ## §4. Nothing is lost. -/

/-- What the imports into a credential set guarantee at any time. -/
structure ImportsLossless (persistentFingerprint : String → String)
    (credentialSetId : CredentialSetId) (start : List String) (w : ImportWorld) : Prop where
  /-- What an import asks for is in the store behind it, unless it is in the pool. -/
  stored : ∀ task keys batchId existing clock fault tables keyImport,
    w.phase task = .audited keys batchId existing →
    appendCredentialImportForSet persistentFingerprint credentialSetId keys batchId existing
      clock w.tables fault = (tables, .ok keyImport) →
    ∀ secret ∈ wantedSecrets keys,
      secret ∈ storedSecrets tables.credentials credentialSetId ∨
        secret ∈ w.runtime.pool.secrets
  /-- What was stored is added, all of it, and the response accounts for every key. -/
  applies : ∀ task requestedCredentials keyImport,
    w.phase task = .persisted requestedCredentials keyImport →
    ∃ runtime runtimeApply,
      applyCredentialImportToRuntime w.runtime keyImport = (runtime, .ok runtimeApply) ∧
      runtime.pool.secrets =
        w.runtime.pool.secrets ++ keyImport.credentials.map (·.secret) ∧
      ∀ channelIds,
        let response := credentialImportResponseFromApply credentialSetId channelIds
          requestedCredentials runtimeApply
        response.importedCredentials = keyImport.credentials.length ∧
        response.importedCredentials + response.duplicateCredentials +
          response.ignoredEmptyCredentials = response.requestedCredentials
  distinct : w.runtime.pool.secrets.Nodup
  /-- What is stored is in the pool, or an import is about to add it. -/
  covered : ∀ secret ∈ storedSecrets w.tables.credentials credentialSetId,
    secret ∈ w.runtime.pool.secrets ∨ ∃ task requestedCredentials keyImport,
      w.phase task = .persisted requestedCredentials keyImport ∧
        secret ∈ keyImport.credentials.map (·.secret)
  /-- With no import between the store and the pool, the two agree. -/
  settled : (∀ task requestedCredentials keyImport,
      w.phase task ≠ .persisted requestedCredentials keyImport) →
    (∀ secret, secret ∈ w.runtime.pool.secrets ↔
      secret ∈ start ∨ secret ∈ storedSecrets w.tables.credentials credentialSetId) ∧
    w.runtime.keyImportReport.counts = w.tables.counts credentialSetId

/-- Only a persisted import has taken something. -/
theorem ImportPhase.outline_eq_taken {phase : ImportPhase} {items : Set String}
    {amount : ImportCounts} (h : phase.outline = .taken items amount) :
    ∃ requestedCredentials keyImport, phase = .persisted requestedCredentials keyImport ∧
      items = {secret | secret ∈ keyImport.credentials.map (·.secret)} := by
  cases phase with
  | persisted requestedCredentials keyImport =>
      cases h
      exact ⟨requestedCredentials, keyImport, rfl, rfl⟩
  | _ => cases h

/-- However the imports into a credential set, the selections and the lifecycle changes
interleave: no import fails behind the store, no stored secret stays out of the pool. -/
theorem imports_lose_nothing (persistentFingerprint : String → String)
    (credentialSetId : CredentialSetId) (known : Set String) (start : List String)
    (hinj : Set.InjOn (credentialIdForSecret credentialSetId) known) (w : ImportWorld)
    (h : (credentialImportSystem persistentFingerprint credentialSetId known start).Reachable w) :
    ImportsLossless persistentFingerprint credentialSetId start w := by
  have hinv := importInvariant_of_reachable hinj h
  have hsafe := safe_of_reachable hinv.outline
  refine ⟨?_, ?_, hinv.pool.nodup_secrets, ?_, ?_⟩
  · intro task keys batchId existing clock fault tables keyImport haudited hrun secret hwanted
    have hstored := Stored.of_append hrun
    have hexisting := hsafe.excluded_cached task _ _ (congrArg ImportPhase.outline haudited)
    by_cases hmem : secret ∈ keyImport.credentials.map (·.secret)
    · exact .inl ((hstored.stored secret).mpr (.inr hmem))
    · -- it was not taken: it is stored already, or the pool had it
      rw [hstored.taken, not_and, not_and_or, not_not, not_not] at hmem
      rcases hmem hwanted with hold | hseen
      · exact .inl ((hstored.stored secret).mpr (.inl hold))
      · exact .inr (hexisting hseen)
  -- what has been taken goes into the pool, and the counts add up to the request
  · intro task requestedCredentials keyImport htask
    obtain ⟨runtime, runtimeApply, hrun, hlength, hreport, hsecrets, -, -⟩ := hinv.apply hinj htask
    refine ⟨runtime, runtimeApply, hrun, hsecrets, fun channelIds => ⟨hlength, ?_⟩⟩
    have hvalid := hinv.valid task
    rw [htask] at hvalid
    obtain ⟨-, -, hunique, hrequested⟩ := hvalid
    show runtimeApply.credentials.length + runtimeApply.importReport.duplicateOccurrenceCount +
      runtimeApply.importReport.ignoredEmptyCount = requestedCredentials
    rw [hlength, hreport, ← hunique]
    exact hrequested
  · intro secret hsecret
    refine (hsafe.covered secret hsecret).imp_right fun hpending => ?_
    obtain ⟨task, items, amount, hphase, hmem⟩ := hpending
    obtain ⟨requestedCredentials, keyImport, htask, rfl⟩ :=
      ImportPhase.outline_eq_taken hphase
    exact ⟨task, requestedCredentials, keyImport, htask, hmem⟩
  -- with no import under way, store and pool have the same secrets
  · intro hnone
    obtain ⟨hcached, haccounts⟩ := hsafe.settled fun task items amount hphase => by
      obtain ⟨requestedCredentials, keyImport, htask, -⟩ := ImportPhase.outline_eq_taken hphase
      exact hnone task requestedCredentials keyImport htask
    exact ⟨fun secret => Set.ext_iff.mp hcached secret, haccounts.symm⟩

/-- A pool with one key, and no rows yet. -/
def importStart : ImportWorld where
  tables := ⟨Finmap.singleton "set" ⟨"keys.txt", 0, 0, 0, 0, 0, 0, none, none, 1, 0⟩, [], []⟩
  log := ⟨0, []⟩
  runtime := {
    pool := KeyPool.ofConfig
      ⟨"pool", "set", "https://api.example.com", [⟨"a", ⟨none, none, none⟩⟩]⟩
    selectorGeneration := 1
    keyImportReport := ⟨"keys.txt", 0, 0, 0, 0, 0, 0, none, none, 1, 0, []⟩ }
  clock := 0
  phase _ := .idle

section Racing

abbrev racingSystem : TransitionSystem ImportWorld ImportLabel :=
  credentialImportSystem digestOfSecret "set" {"a", "b"} ["a"]

def racingActor : ManagementEventActor := ⟨"token-1", "ops", "operator"⟩

def racingExisting (keys : List String) : List String :=
  runtimeExistingSecretsForImport importStart.runtime.pool keys

/-- Two imports of one key look at the pool before either of them stores it. -/
def racingChecked : ImportWorld := (importStart.check 0 ["b"] none).check 1 [" b ", "a"] none

def racingAudited : ImportWorld :=
  (racingChecked.audit "set" 0 ["b"] "management-api" (racingExisting ["b"]) racingActor 0
    none).audit "set" 1 [" b ", "a"] "management-api" (racingExisting [" b ", "a"]) racingActor 0
      none

def racingImports : ImportWorld :=
  (racingAudited.persist digestOfSecret "set" 0 ["b"] "management-api" (racingExisting ["b"])
    (fun _ => 0) none).persist digestOfSecret "set" 1 [" b ", "a"] "management-api"
      (racingExisting [" b ", "a"]) (fun _ => 0) none

theorem ImportWorld.check_of_ok {keys : List String}
    (h : ensureImportHasNonEmptyKey keys = .ok ()) (w : ImportWorld) (task : Nat)
    (batchId : Option String) :
    w.check task keys batchId = w.enter task (.checked keys (batchId.getD "management-api")
      (runtimeExistingSecretsForImport w.runtime.pool keys)) := by
  unfold ImportWorld.check
  rw [h]

/-- An import leaves the others where they are. -/
theorem ImportWorld.phase_persist_of_ne {task other : Nat} (h : other ≠ task) (w : ImportWorld)
    (keys : List String) (batchId : String) (existing : List String) (clock : Nat → Int)
    (fault : Option String) :
    (w.persist persistentFingerprint credentialSetId task keys batchId existing clock
      fault).phase other = w.phase other := by
  unfold ImportWorld.persist
  split <;> exact Function.update_of_ne h _ _

theorem importStart_check : importStart.check 0 ["b"] none =
    importStart.enter 0 (.checked ["b"] "management-api" (racingExisting ["b"])) := by
  refine ImportWorld.check_of_ok ?_ importStart 0 none
  unfold ensureImportHasNonEmptyKey
  rw [if_pos (by decide +kernel)]

theorem racingChecked_eq : racingChecked =
    (importStart.enter 0 (.checked ["b"] "management-api" (racingExisting ["b"]))).enter 1
      (.checked [" b ", "a"] "management-api" (racingExisting [" b ", "a"])) := by
  unfold racingChecked
  rw [importStart_check]
  refine ImportWorld.check_of_ok ?_ _ 1 none
  unfold ensureImportHasNonEmptyKey
  rw [if_pos (by decide +kernel)]

theorem reachable_importStart : racingSystem.Reachable importStart := by
  refine .init ⟨⟨⟨"pool", "set", "https://api.example.com", [⟨"a", ⟨none, none, none⟩⟩]⟩, rfl,
    rfl, rfl⟩, List.nodup_singleton _, ?_, ?_, ?_, fun _ => rfl⟩
  · intro secret hsecret
    exact .inl (List.mem_singleton.mp hsecret)
  · intro secret hsecret
    cases hsecret
  · unfold CredentialTables.counts importStart
    rw [Finmap.lookup_singleton_eq]
    rfl

theorem reachable_racingChecked : racingSystem.Reachable racingChecked := by
  have hfirst : racingSystem.Step importStart (.check 0 ["b"] none)
      (importStart.check 0 ["b"] none) := by
    refine ⟨rfl, fun secret hsecret => ?_, rfl⟩
    have hwanted : wantedSecrets ["b"] = ["b"] := by decide +kernel
    rw [hwanted] at hsecret
    exact .inr (List.mem_singleton.mp hsecret)
  have hsecond : racingSystem.Step (importStart.check 0 ["b"] none)
      (.check 1 [" b ", "a"] none) racingChecked := by
    refine ⟨?_, fun secret hsecret => ?_, rfl⟩
    · rw [importStart_check]
      rfl
    · have hwanted : wantedSecrets [" b ", "a"] = ["b", "a"] := by decide +kernel
      rw [hwanted] at hsecret
      rcases List.mem_cons.mp hsecret with heq | hsecret
      · exact .inr heq
      · exact .inl (List.mem_singleton.mp hsecret)
  exact (reachable_importStart.step hfirst).step hsecond

theorem reachable_racingImports : racingSystem.Reachable racingImports := by
  have hfirst : racingSystem.Step racingChecked (.audit 0 racingActor 0 none)
      (racingChecked.audit "set" 0 ["b"] "management-api" (racingExisting ["b"]) racingActor 0
        none) := ⟨_, _, _, congrFun (congrArg ImportWorld.phase racingChecked_eq) 0, rfl⟩
  have hsecond : racingSystem.Step (racingChecked.audit "set" 0 ["b"] "management-api"
      (racingExisting ["b"]) racingActor 0 none) (.audit 1 racingActor 0 none) racingAudited :=
    ⟨_, _, _, congrFun (congrArg ImportWorld.phase racingChecked_eq) 1, rfl⟩
  have hthird : racingSystem.Step racingAudited (.persist 0 (fun _ => 0) none)
      (racingAudited.persist digestOfSecret "set" 0 ["b"] "management-api"
        (racingExisting ["b"]) (fun _ => 0) none) := ⟨_, _, _, rfl, rfl⟩
  have hfourth : racingSystem.Step (racingAudited.persist digestOfSecret "set" 0 ["b"]
      "management-api" (racingExisting ["b"]) (fun _ => 0) none)
      (.persist 1 (fun _ => 0) none) racingImports :=
    ⟨_, _, _, ImportWorld.phase_persist_of_ne Nat.one_ne_zero _ _ _ _ _ _, rfl⟩
  exact (((reachable_racingChecked.step hfirst).step hsecond).step hthird).step hfourth

end Racing

/-- The second of two imports of one key takes nothing. -/
theorem racing_imports_lose_nothing :
    storedSecrets racingImports.tables.credentials "set" = ["b"] ∧
      ImportsLossless digestOfSecret "set" ["a"] racingImports := by
  refine ⟨by decide +kernel, ?_⟩
  refine imports_lose_nothing digestOfSecret "set" {"a", "b"} ["a"] ?_ racingImports
    reachable_racingImports
  have hne : credentialIdForSecret "set" "a" ≠ credentialIdForSecret "set" "b" := by decide
  rintro a (rfl | rfl) b (rfl | rfl) heq
  · rfl
  · exact absurd heq hne
  · exact absurd heq hne.symm
  · rfl

end OneAiKey
