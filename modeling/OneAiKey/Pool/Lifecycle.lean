/-
  OneAiKey.Pool.Lifecycle — each credential's own state machine, and what the
  pool does to it over whole runs.

  `PoolOp.effect` is the abstract machine: what one operation does to the
  lifecycle state of one credential, given only whether that credential is
  the current one.  `PoolOp.exec_credential` says that the pool, with all its
  indices and lazy promotion, refines it, and `PoolOp.exec_returned` that no
  operation hands out a credential outside `Available` and `CoolingDown`.

  Main results:
    * `disabled_until_enabled` — a disabled credential stays disabled and is
      never handed out until it is enabled;
    * `durable_unless_cooled_as_current` — an expired or quota-exhausted
      credential stays so as long as no cooldown report reaches it while it is
      the current one; such a report does turn it into a cooldown
      (`late_cooldown_replaces_expiry`).
-/
import OneAiKey.Pool.Preservation

namespace OneAiKey

open Std

/-! ## §1. The lifecycle machine of one credential. -/

/-- What one operation does to the state of credential `id`. -/
def PoolOp.effect (r : Readings) (isCurrent : Bool) (id : CredentialId) (s : CredentialState) :
    PoolOp → CredentialState
  | applyCredentialCooldownUntil id' d reason =>
      if id' = id ∧ isCurrent = true ∧ s.isDisabled = false then .coolingDown d reason else s
  | reportExpiredFailureById id' reason
  | applyCredentialExpired id' reason
  | expireCredentialById id' reason =>
      if id' = id ∧ s.isDisabled = false then .expired reason else s
  | applyCredentialQuotaExhausted id' reason =>
      if id' = id ∧ s.isDisabled = false then .quotaExhausted reason else s
  | restoreCredentialById id' => if id' = id ∧ s.Durable then .available else s
  | disableCredentialById id' reason => if id' = id then .disabled reason else s
  | enableCredentialById id' => if id' = id then .available else s
  | clearCredentialCooldownById id' =>
      if id' = id ∧ s.isCoolingDownAt r.first = true then .available else s
  | select | selectCredentialById _ | selectCoolingDownLastResort
  | retryCandidatesFromCurrent _ | addCredentials _ => s

/-- The credential `id` is in the pool, in a state with property `P`. -/
def KeyPool.InState (p : KeyPool) (id : CredentialId) (P : CredentialState → Prop) : Prop :=
  ∃ (i : Nat) (c : Credential), p.credentials[i]? = some c ∧ c.id = id ∧ P c.state

/-- The credential `id` is the one the sticky pointer stands on. -/
def KeyPool.IsCurrent (p : KeyPool) (id : CredentialId) : Prop :=
  ∃ c : Credential, p.credentials[p.current]? = some c ∧ c.id = id

/-! ## §2. Which credentials an operation changes. -/

namespace KeyPool

/-- A refresh changes no credential. -/
theorem credentials_refresh (p : KeyPool) (now : Instant) :
    (p.refreshAvailableIndices now).credentials = p.credentials :=
  (sameCredentials_refresh p now).credentials

/-- A selection changes no credential. -/
theorem credentials_select (p : KeyPool) (now : Instant) :
    (p.select now).1.credentials = p.credentials := by
  unfold select
  rcases p.nextAvailableFrom_cases p.current now with ⟨i, -, hn⟩ | hn <;> rw [hn] <;>
    exact credentials_refresh p now

/-- A selection by id changes no credential. -/
theorem credentials_selectCredentialById (p : KeyPool) (id : CredentialId) (now : Instant) :
    (p.selectCredentialById id now).1.credentials = p.credentials := by
  unfold selectCredentialById
  split
  · rfl
  · dsimp only
    split <;> exact credentials_refresh p now

/-- The last resort changes no credential: it uses one that is cooling down as it is. -/
theorem credentials_selectCoolingDownLastResort (p : KeyPool) (r : Readings) :
    (p.selectCoolingDownLastResort r).1.credentials = p.credentials := by
  have htwice : ((p.refreshAvailableIndices r.first).refreshAvailableIndices
      r.second).credentials = p.credentials := by
    rw [credentials_refresh, credentials_refresh]
  unfold selectCoolingDownLastResort
  rcases (p.refreshAvailableIndices r.first).nextAvailableFrom_cases
    (p.refreshAvailableIndices r.first).current r.second with ⟨i, -, hn⟩ | hn
  · simp only [hn]
    exact htwice
  · simp only [hn]
    split <;> exact htwice

/-- Listing the candidates for a retry changes no credential. -/
theorem credentials_retryCandidatesFromCurrent (p : KeyPool) (limit : Nat) (now : Instant) :
    (p.retryCandidatesFromCurrent limit now).1.credentials = p.credentials := by
  unfold retryCandidatesFromCurrent
  split
  · rfl
  · exact credentials_refresh p now

/-- The move to another credential changes none. -/
theorem credentials_switchAwayFrom (p : KeyPool) (failed : Nat) (now : Instant) :
    (p.switchAwayFrom failed now).1.credentials = p.credentials := by
  unfold switchAwayFrom
  rcases p.nextAvailableFrom_cases ((p.current + 1) % p.credentials.length) now with
    ⟨i, -, hn⟩ | hn
  · rw [hn]
    dsimp only
    split <;> exact credentials_refresh p now
  · rw [hn]
    exact credentials_refresh p now

/-- New credentials stand behind the others. -/
theorem credentials_foldl_pushCredential (cs : List Credential) (p : KeyPool) :
    (cs.foldl pushCredential p).credentials = p.credentials ++ cs := by
  induction cs generalizing p with
  | nil => simp
  | cons c cs ih =>
      rw [List.foldl_cons, ih]
      show p.credentials ++ [c] ++ cs = _
      rw [List.append_assoc]
      rfl

/-- An import only appends. -/
theorem credentials_addCredentials (p : KeyPool) (inputs : List PoolCredentialInput) :
    ∃ cs, (p.addCredentials inputs).1.credentials = p.credentials ++ cs := by
  unfold addCredentials
  dsimp only
  split
  · exact ⟨[], by simp⟩
  · exact ⟨_, credentials_foldl_pushCredential _ p⟩

end KeyPool

namespace WellFormed

variable {t : Instant} {p : KeyPool} {i j : Nat} {c : Credential} {id : CredentialId}

/-- The id index leads to `i` exactly for the id of the credential there. -/
theorem indexForId_eq (h : WellFormed t p) (hc : p.credentials[i]? = some c) :
    p.indexForId id = some i ↔ id = c.id := by
  show p.credentialIndex[id]? = some i ↔ _
  rw [h.index_iff, hc]
  constructor
  · rintro ⟨c', hc', rfl⟩
    cases hc'
    rfl
  · rintro rfl
    exact ⟨c, rfl, rfl⟩

/-- The test of the source is on the state of the credential. -/
theorem stateAt_eq (hc : p.credentials[i]? = some c) (test : CredentialState → Bool) :
    p.stateAt i test = test c.state := by
  unfold KeyPool.stateAt
  rw [hc]
  rfl

end WellFormed

namespace KeyPool

/-- The credentials after the one `id` leads to is marked, if its position passes
`test`. -/
def markWhen (p : KeyPool) (id : CredentialId) (test : Nat → Bool)
    (mark : Credential → Credential) : List Credential :=
  match p.indexForId id with
  | none => p.credentials
  | some j => if test j then p.credentials.modify j mark else p.credentials

/-- In a well-formed pool, marking by id marks the credential of that id. -/
theorem markWhen_getElem? {t : Instant} {p : KeyPool} (h : WellFormed t p) {i : Nat}
    {c : Credential} (hc : p.credentials[i]? = some c) (id : CredentialId) (test : Nat → Bool)
    (mark : Credential → Credential) :
    (p.markWhen id test mark)[i]? =
      some (if id = c.id ∧ test i = true then mark c else c) := by
  unfold markWhen
  cases hj : p.indexForId id with
  | none =>
      have hid : id ≠ c.id := by
        intro hid
        rw [(h.indexForId_eq hc).mpr hid] at hj
        cases hj
      simp [hid, hc]
  | some j =>
      -- the position that the id leads to is this one just when the id is its own
      have hji : j = i ↔ id = c.id := by
        rw [← h.indexForId_eq hc, hj, Option.some_inj]
      dsimp only
      by_cases htest : test j = true
      · rw [if_pos htest, List.getElem?_modify, hc]
        by_cases hid : id = c.id
        · obtain rfl := hji.mpr hid
          simp [hid, htest]
        · simp [hid, mt hji.mp hid]
      · rw [if_neg htest, hc]
        by_cases hid : id = c.id
        · obtain rfl := hji.mpr hid
          simp [htest]
        · simp [hid]

/-! Each mutator, as far as the credentials go. -/

/-- A report with a deadline marks the named credential if it is the current one and not disabled.
-/
theorem credentials_applyCredentialCooldownUntil (p : KeyPool) (id : CredentialId)
    (d : Instant) (reason : String) (now : Instant) :
    (p.applyCredentialCooldownUntil id d reason now).1.credentials =
      p.markWhen id
        (fun j => decide (j < p.credentials.length) && !p.stateAt j (·.isDisabled)
          && decide (j = p.current))
        (·.markCoolingDown d reason) := by
  unfold applyCredentialCooldownUntil markWhen reportSwitchableFailureUntil
  cases p.indexForId id with
  | none => rfl
  | some j =>
      dsimp only
      by_cases hlt : p.credentials.length ≤ j
      · simp [hlt, Nat.not_lt_of_le hlt]
      · by_cases hdis : p.stateAt j (·.isDisabled) = true
        · simp [hlt, hdis]
        · by_cases hcur : j = p.current
          · rw [if_neg hlt, if_neg hdis, if_neg (not_not_intro hcur)]
            rw [credentials_switchAwayFrom,
              (sameCredentials_markIndexCoolingDown _ j d).credentials]
            have hlt' := Nat.lt_of_not_le hlt
            subst hcur
            simp [hlt', hdis, modifyCredential]
          · simp [hlt, hdis, hcur]

/-- A report of an expired key marks the named credential unless it is disabled. -/
theorem credentials_reportExpiredFailureById (p : KeyPool) (id : CredentialId)
    (reason : String) (now : Instant) :
    (p.reportExpiredFailureById id reason now).1.credentials =
      p.markWhen id
        (fun j => decide (j < p.credentials.length) && !p.stateAt j (·.isDisabled))
        (·.markExpired reason) := by
  unfold reportExpiredFailureById markWhen reportExpiredFailure
  cases p.indexForId id with
  | none => rfl
  | some j =>
      dsimp only
      by_cases hlt : p.credentials.length ≤ j
      · simp [hlt, Nat.not_lt_of_le hlt]
      · by_cases hdis : p.stateAt j (·.isDisabled) = true
        · simp [hlt, hdis]
        · have hmark : ((p.modifyCredential j (·.markExpired reason)).markIndexUnavailable
              j).credentials = p.credentials.modify j (·.markExpired reason) :=
            (sameCredentials_markIndexUnavailable _ j).credentials
          rw [if_neg hlt, if_neg hdis]
          split
          · rw [hmark]
            simp [Nat.lt_of_not_le hlt, hdis]
          · rw [credentials_switchAwayFrom, hmark]
            simp [Nat.lt_of_not_le hlt, hdis]

/-- The operator's expiry is the failure report, with a snapshot at the end. -/
theorem expireCredentialById_fst (p : KeyPool) (id : CredentialId) (reason : String)
    (now : Instant) :
    (p.expireCredentialById id reason now).1 =
      (p.reportExpiredFailureById id reason now).1 := by
  unfold expireCredentialById reportExpiredFailureById
  cases p.indexForId id <;> rfl

/-- An exhausted quota marks the named credential unless it is disabled. -/
theorem credentials_applyCredentialQuotaExhausted (p : KeyPool) (id : CredentialId)
    (reason : String) (now : Instant) :
    (p.applyCredentialQuotaExhausted id reason now).1.credentials =
      p.markWhen id (fun j => !p.stateAt j (·.isDisabled)) (·.markQuotaExhausted reason) := by
  unfold applyCredentialQuotaExhausted markWhen
  cases p.indexForId id with
  | none => rfl
  | some j =>
      dsimp only
      by_cases hdis : p.stateAt j (·.isDisabled) = true
      · simp [hdis]
      · have hmark : ((p.modifyCredential j (·.markQuotaExhausted reason)).markIndexUnavailable
            j).credentials = p.credentials.modify j (·.markQuotaExhausted reason) :=
          (sameCredentials_markIndexUnavailable _ j).credentials
        rw [if_neg hdis]
        split
        · rw [credentials_switchAwayFrom, hmark]
          simp [hdis]
        · rw [hmark]
          simp [hdis]

/-- `restore` is for the two durable exclusions only. -/
theorem credentials_restoreCredentialById (p : KeyPool) (id : CredentialId) (r : Readings) :
    (p.restoreCredentialById id r).1.credentials =
      p.markWhen id (fun j => p.stateAt j (·.isExpired) || p.stateAt j (·.isQuotaExhausted))
        (·.markAvailable) := by
  unfold restoreCredentialById markWhen
  cases p.indexForId id with
  | none => rfl
  | some j =>
      dsimp only
      split
      · exact (sameCredentials_markIndexAvailable _ j).credentials
      · rfl

/-- `disable` marks the named credential, whatever state it is in. -/
theorem credentials_disableCredentialById (p : KeyPool) (id : CredentialId) (reason : String)
    (now : Instant) :
    (p.disableCredentialById id reason now).1.credentials =
      p.markWhen id (fun _ => true) (·.markDisabled reason) := by
  unfold disableCredentialById markWhen
  cases p.indexForId id with
  | none => rfl
  | some j =>
      have hmark : ((p.modifyCredential j (·.markDisabled reason)).markIndexUnavailable
          j).credentials = p.credentials.modify j (·.markDisabled reason) :=
        (sameCredentials_markIndexUnavailable _ j).credentials
      dsimp only
      split
      · rcases nextAvailableFrom_cases _ _ now with ⟨i, -, hn⟩ | hn
        · rw [hn]
          exact (credentials_refresh _ now).trans hmark
        · rw [hn]
          exact (credentials_refresh _ now).trans hmark
      · exact hmark

/-- `enable` makes the named credential available, whatever state it is in. -/
theorem credentials_enableCredentialById (p : KeyPool) (id : CredentialId) :
    (p.enableCredentialById id).1.credentials =
      p.markWhen id (fun _ => true) (·.markAvailable) := by
  unfold enableCredentialById markWhen
  cases p.indexForId id with
  | none => rfl
  | some j => exact (sameCredentials_markIndexAvailable _ j).credentials

/-- `clear_cooldown` makes the named credential available if its cooldown is not over. -/
theorem credentials_clearCredentialCooldownById (p : KeyPool) (id : CredentialId)
    (r : Readings) :
    (p.clearCredentialCooldownById id r).1.credentials =
      p.markWhen id (fun j => p.stateAt j (·.isCoolingDownAt r.first)) (·.markAvailable) := by
  unfold clearCredentialCooldownById markWhen
  cases p.indexForId id with
  | none => rfl
  | some j =>
      dsimp only
      split
      · exact (sameCredentials_markIndexAvailable _ j).credentials
      · rfl

end KeyPool

/-! ## §3. The pool refines the lifecycle machine. -/

/-- What an operation does to a credential of a well-formed pool is the step of its
lifecycle machine. -/
theorem PoolOp.exec_credential {t : Instant} {p : KeyPool} (h : WellFormed t p) {i : Nat}
    {c : Credential} (hc : p.credentials[i]? = some c) (op : PoolOp) (r : Readings) :
    (op.exec r p).1.credentials[i]? =
      some { c with state := op.effect r (decide (i = p.current)) c.id c.state } := by
  have hlt : i < p.credentials.length := (List.getElem?_eq_some_iff.mp hc).1
  have hst : ∀ test, p.stateAt i test = test c.state := WellFormed.stateAt_eq hc
  cases op with
  -- handing out a credential changes no state
  | select =>
      show (p.select r.first).1.credentials[i]? = _
      rw [KeyPool.credentials_select]
      exact hc
  | selectCredentialById id =>
      show (p.selectCredentialById id r.first).1.credentials[i]? = _
      rw [KeyPool.credentials_selectCredentialById]
      exact hc
  | selectCoolingDownLastResort =>
      show (p.selectCoolingDownLastResort r).1.credentials[i]? = _
      rw [KeyPool.credentials_selectCoolingDownLastResort]
      exact hc
  | retryCandidatesFromCurrent limit =>
      show (p.retryCandidatesFromCurrent limit r.first).1.credentials[i]? = _
      rw [KeyPool.credentials_retryCandidatesFromCurrent]
      exact hc
  -- new credentials come behind position `i`
  | addCredentials inputs =>
      obtain ⟨cs, hcs⟩ := p.credentials_addCredentials inputs
      show (p.addCredentials inputs).1.credentials[i]? = _
      rw [hcs, List.getElem?_append_left hlt]
      exact hc
  -- from here on one credential is marked, when its state passes the test
  | applyCredentialCooldownUntil id d reason =>
      show (p.applyCredentialCooldownUntil id d reason r.first).1.credentials[i]? = _
      rw [KeyPool.credentials_applyCredentialCooldownUntil, KeyPool.markWhen_getElem? h hc, hst]
      simp only [effect, hlt, decide_true, Bool.true_and, Bool.and_eq_true, Bool.not_eq_true',
        Credential.markCoolingDown, and_comm]
      split <;> rfl
  | reportExpiredFailureById id reason | applyCredentialExpired id reason =>
      show (p.reportExpiredFailureById id reason r.first).1.credentials[i]? = _
      rw [KeyPool.credentials_reportExpiredFailureById, KeyPool.markWhen_getElem? h hc, hst]
      simp only [effect, hlt, decide_true, Bool.true_and, Bool.not_eq_true',
        Credential.markExpired]
      split <;> rfl
  | applyCredentialQuotaExhausted id reason =>
      show (p.applyCredentialQuotaExhausted id reason r.first).1.credentials[i]? = _
      rw [KeyPool.credentials_applyCredentialQuotaExhausted, KeyPool.markWhen_getElem? h hc, hst]
      simp only [effect, Bool.not_eq_true', Credential.markQuotaExhausted]
      split <;> rfl
  | expireCredentialById id reason =>
      show (p.expireCredentialById id reason r.first).1.credentials[i]? = _
      rw [KeyPool.expireCredentialById_fst, KeyPool.credentials_reportExpiredFailureById,
        KeyPool.markWhen_getElem? h hc, hst]
      simp only [effect, hlt, decide_true, Bool.true_and, Bool.not_eq_true',
        Credential.markExpired]
      split <;> rfl
  | restoreCredentialById id =>
      show (p.restoreCredentialById id r).1.credentials[i]? = _
      rw [KeyPool.credentials_restoreCredentialById, KeyPool.markWhen_getElem? h hc, hst, hst]
      -- the pool asks for the two durable kinds one by one, the machine for both
      have hdur : (c.state.isExpired || c.state.isQuotaExhausted) = true ↔ c.state.Durable :=
        Bool.or_eq_true_iff
      simp only [effect, hdur]
      by_cases hboth : id = c.id ∧ c.state.Durable
      · rw [if_pos hboth, if_pos hboth]
        rfl
      · rw [if_neg hboth, if_neg hboth]
  | disableCredentialById id reason =>
      show (p.disableCredentialById id reason r.first).1.credentials[i]? = _
      rw [KeyPool.credentials_disableCredentialById, KeyPool.markWhen_getElem? h hc]
      simp only [effect, and_true, Credential.markDisabled]
      split <;> rfl
  | enableCredentialById id =>
      show (p.enableCredentialById id).1.credentials[i]? = _
      rw [KeyPool.credentials_enableCredentialById, KeyPool.markWhen_getElem? h hc]
      simp only [effect, and_true, Credential.markAvailable]
      split <;> rfl
  | clearCredentialCooldownById id =>
      show (p.clearCredentialCooldownById id r).1.credentials[i]? = _
      rw [KeyPool.credentials_clearCredentialCooldownById, KeyPool.markWhen_getElem? h hc, hst]
      simp only [effect, Credential.markAvailable]
      split <;> rfl

/-! ## §4. Which credentials an operation hands out. -/

/-- Neither durably excluded nor disabled. -/
def CredentialState.Selectable (s : CredentialState) : Prop :=
  ¬ s.Durable ∧ s.isDisabled = false

/-- What is available is selectable. -/
theorem CredentialState.selectable_of_isAvailableAt {now : Instant} {s : CredentialState}
    (h : s.isAvailableAt now = true) : s.Selectable :=
  ⟨not_durable_of_isAvailableAt h, not_disabled_of_isAvailableAt h⟩

/-- What is cooling down is selectable as a last resort. -/
theorem CredentialState.selectable_coolingDown (d : Instant) (reason : String) :
    (CredentialState.coolingDown d reason).Selectable := by
  refine ⟨?_, rfl⟩
  intro h
  rcases h with h | h <;> cases h

namespace KeyPool

theorem InState.imp {p : KeyPool} {id : CredentialId} {P Q : CredentialState → Prop}
    (h : p.InState id P) (hPQ : ∀ s, P s → Q s) : p.InState id Q := by
  obtain ⟨i, c, hc, hid, hP⟩ := h
  exact ⟨i, c, hc, hid, hPQ _ hP⟩

/-- A credential is in one state only. -/
theorem InState.both {t : Instant} {p : KeyPool} (hwf : WellFormed t p) {id : CredentialId}
    {P Q : CredentialState → Prop} (hP : p.InState id P) (hQ : p.InState id Q) :
    ∃ s, P s ∧ Q s := by
  obtain ⟨i, c, hc, hid, hP⟩ := hP
  obtain ⟨j, c', hc', hid', hQ⟩ := hQ
  obtain rfl := hwf.index_unique hc hc' (hid.trans hid'.symm)
  rw [hc] at hc'
  cases hc'
  exact ⟨c.state, hP, hQ⟩

/-- The state of a credential is the same in pools with the same credentials. -/
theorem InState.congr {p p' : KeyPool} (h : p'.credentials = p.credentials)
    {id : CredentialId} {P : CredentialState → Prop} (hs : p'.InState id P) : p.InState id P := by
  unfold InState at hs
  rw [h] at hs
  exact hs

/-- The key at a position carries the id of the credential there. -/
theorem returned_selectedKeyAt {p : KeyPool} {i : Nat} {c : Credential}
    (hc : p.credentials[i]? = some c) {id : CredentialId}
    (hid : id ∈ (PoolOutput.key (p.selectedKeyAt i)).returned) : c.id = id := by
  unfold selectedKeyAt at hid
  rw [hc] at hid
  exact (List.mem_singleton.mp hid).symm

/-- A listed position holds a selectable credential. -/
theorem selectable_of_listed {t : Instant} {p : KeyPool} (h : WellFormed t p) {i : Nat}
    (hi : i ∈ p.availableIndices) {id : CredentialId}
    (hid : id ∈ (PoolOutput.key (p.selectedKeyAt i)).returned) :
    p.InState id (·.Selectable) := by
  obtain ⟨c, hc, hav, -⟩ := h.listed hi
  exact ⟨i, c, hc, returned_selectedKeyAt hc hid, CredentialState.selectable_of_isAvailableAt hav⟩

variable {t : Instant} {p : KeyPool} {id : CredentialId}

/-- A selection returns a credential in a selectable state. -/
theorem returned_select (h : WellFormed t p) {now : Instant} (ht : t ≤ now)
    (hid : id ∈ (PoolOutput.key (p.select now).2).returned) : p.InState id (·.Selectable) := by
  refine InState.congr (credentials_refresh p now) ?_
  unfold select at hid
  rcases p.nextAvailableFrom_cases p.current now with ⟨i, hi, hn⟩ | hn
  · rw [hn] at hid
    exact selectable_of_listed (h.refresh ht) hi hid
  · rw [hn] at hid
    cases hid

/-- A selection by id returns a credential in a selectable state. -/
theorem returned_selectCredentialById (h : WellFormed t p) {now : Instant} (ht : t ≤ now)
    {id' : CredentialId}
    (hid : id ∈ (PoolOutput.key (p.selectCredentialById id' now).2).returned) :
    p.InState id (·.Selectable) := by
  refine InState.congr (credentials_refresh p now) ?_
  unfold selectCredentialById at hid
  split at hid
  · cases hid
  · dsimp only at hid
    split at hid
    · next hi => exact selectable_of_listed (h.refresh ht) hi hid
    · cases hid

/-- The last resort hands out an available credential or one that cools down. -/
theorem returned_selectCoolingDownLastResort (h : WellFormed t p) {r : Readings}
    (ht : t ≤ r.first)
    (hid : id ∈ (PoolOutput.key (p.selectCoolingDownLastResort r).2).returned) :
    p.InState id (·.Selectable) := by
  have h1 : WellFormed r.first (p.refreshAvailableIndices r.first) := h.refresh ht
  have h2 := h1.refresh r.first_le
  refine InState.congr (credentials_refresh p r.first) ?_
  refine InState.congr (credentials_refresh _ r.second) ?_
  unfold selectCoolingDownLastResort at hid
  rcases (p.refreshAvailableIndices r.first).nextAvailableFrom_cases
    (p.refreshAvailableIndices r.first).current r.second with ⟨i, hi, hn⟩ | hn
  · simp only [hn] at hid
    exact selectable_of_listed h2 hi hid
  · simp only [hn] at hid
    split at hid
    · next i hi =>
        -- the position has a deadline, so its credential cools down
        have hcool := List.find?_some hi
        unfold coolingAt at hcool
        rw [Option.any_eq_true] at hcool
        obtain ⟨d, hd, -⟩ := hcool
        obtain ⟨c, reason, hc, hs, -⟩ := h2.waiting hd
        refine ⟨i, c, hc, returned_selectedKeyAt hc hid, ?_⟩
        rw [hs]
        exact CredentialState.selectable_coolingDown d reason
    · cases hid

/-- The list for a retry has credentials in selectable states only. -/
theorem returned_retryCandidatesFromCurrent (h : WellFormed t p) {now : Instant} (ht : t ≤ now)
    {limit : Nat}
    (hid : id ∈ (PoolOutput.candidates (p.retryCandidatesFromCurrent limit now).2).returned) :
    p.InState id (·.Selectable) := by
  refine InState.congr (credentials_refresh p now) ?_
  unfold retryCandidatesFromCurrent at hid
  split at hid
  · cases hid
  · obtain ⟨candidate, hcand, rfl⟩ := List.mem_map.mp hid
    obtain ⟨i, hi, hat⟩ := List.mem_filterMap.mp hcand
    have hlisted : i ∈ (p.refreshAvailableIndices now).availableIndices := by
      have hmem := (List.mem_filter.mp (List.mem_of_mem_take hi)).1
      exact (mem_availableIndicesFrom _ _ i).mp hmem
    obtain ⟨c, hc, hav, -⟩ := (h.refresh ht).listed hlisted
    unfold candidateAt at hat
    rw [hc] at hat
    cases hat
    exact ⟨i, c, hc, rfl, CredentialState.selectable_of_isAvailableAt hav⟩

end KeyPool

/-- No operation hands out a credential that is durably excluded or disabled. -/
theorem PoolOp.exec_returned {t : Instant} {p : KeyPool} (h : WellFormed t p) {r : Readings}
    (ht : t ≤ r.first) (op : PoolOp) {id : CredentialId}
    (hid : id ∈ (op.exec r p).2.returned) : p.InState id (·.Selectable) := by
  cases op with
  | select => exact KeyPool.returned_select h ht hid
  | selectCredentialById id' => exact KeyPool.returned_selectCredentialById h ht hid
  | selectCoolingDownLastResort => exact KeyPool.returned_selectCoolingDownLastResort h ht hid
  | retryCandidatesFromCurrent limit => exact KeyPool.returned_retryCandidatesFromCurrent h ht hid
  | _ => cases hid

/-! ## §5. Lifecycle states over whole runs. -/

/-- One step, as the lifecycle machine of the credential `id` sees it. -/
theorem poolSystem_step_inState {s s' : TimedPool} {call : PoolCall} {id : CredentialId}
    {P : CredentialState → Prop} (hwf : WellFormed s.clock s.pool)
    (hstep : poolSystem.Step s call s') (h : s.pool.InState id P) :
    ∃ st isCurrent, P st ∧ (isCurrent = true ↔ s.pool.IsCurrent id) ∧
      s'.pool.InState id (· = call.op.effect call.readings isCurrent id st) := by
  obtain ⟨i, c, hc, rfl, hP⟩ := h
  obtain ⟨-, hexec, -⟩ := hstep
  have hcred := PoolOp.exec_credential hwf hc call.op call.readings
  rw [hexec] at hcred
  refine ⟨c.state, decide (i = s.pool.current), hP, ?_, i, _, hcred, rfl, rfl⟩
  rw [decide_eq_true_iff]
  constructor
  · rintro rfl
    exact ⟨c, hc, rfl⟩
  · rintro ⟨c', hc', hid⟩
    exact hwf.index_unique hc hc' hid.symm

/-- A credential whose state excludes it is not handed out by the next operation. -/
theorem poolSystem_step_not_returned {s s' : TimedPool} {call : PoolCall} {id : CredentialId}
    (hwf : WellFormed s.clock s.pool) (hstep : poolSystem.Step s call s')
    (h : s.pool.InState id (fun st => ¬ st.Selectable)) : id ∉ call.output.returned := by
  intro hid
  obtain ⟨ht, hexec, -⟩ := hstep
  have hsel : s.pool.InState id (·.Selectable) :=
    PoolOp.exec_returned hwf ht call.op (by rw [hexec]; exact hid)
  obtain ⟨st, hnot, hyes⟩ := h.both hwf hsel
  exact hnot hyes

/-- Only an enable changes a disabled state into another kind of state. -/
theorem PoolOp.effect_disabled {r : Readings} {isCurrent : Bool} {id : CredentialId}
    {s : CredentialState} {op : PoolOp} (hs : s.isDisabled = true)
    (hop : op ≠ .enableCredentialById id) :
    (op.effect r isCurrent id s).isDisabled = true := by
  cases s with
  | disabled reason =>
      cases op with
      | disableCredentialById id' reason' =>
          simp only [PoolOp.effect]
          split <;> rfl
      | enableCredentialById id' =>
          have hid : id' ≠ id := by
            rintro rfl
            exact hop rfl
          simp only [PoolOp.effect]
          rw [if_neg hid]
          rfl
      | _ =>
          simp [PoolOp.effect, CredentialState.isDisabled, CredentialState.Durable,
            CredentialState.isExpired, CredentialState.isQuotaExhausted,
            CredentialState.isCoolingDownAt]
  | _ => cases hs

/-- After a disable that found its credential, the credential stays disabled and is never
handed out, until it is enabled.  Any calls may follow in any order, with reports, restores and
last resorts among them. -/
theorem disabled_until_enabled (s s₁ s₂ : TimedPool) (call : PoolCall) (es : List PoolCall)
    (id : CredentialId) (reason : String) (hs : poolSystem.Reachable s)
    (hcall : poolSystem.Step s call s₁) (hop : call.op = .disableCredentialById id reason)
    (hfound : call.output ≠ .snapshot none) (hrun : poolSystem.Run s₁ es s₂)
    (hno : ∀ e ∈ es, e.op ≠ .enableCredentialById id) :
    s₂.pool.InState id (·.isDisabled = true) ∧ ∀ e ∈ es, id ∉ e.output.returned := by
  have hwf := poolSystem_wellFormed hs
  have hwf₁ := poolSystem_step_wellFormed s call s₁ hwf hcall
  have hdis₁ : s₁.pool.InState id (·.isDisabled = true) := by
    obtain ⟨i, c, hc, hid⟩ : ∃ (i : Nat) (c : Credential),
        s.pool.credentials[i]? = some c ∧ c.id = id := by
      obtain ⟨-, hexec, -⟩ := hcall
      rw [hop] at hexec
      cases hi : s.pool.indexForId id with
      | none =>
          refine absurd ?_ hfound
          have hout : PoolOutput.snapshot
              (s.pool.disableCredentialById id reason call.readings.first).2 = call.output :=
            congrArg Prod.snd hexec
          rw [← hout]
          unfold KeyPool.disableCredentialById
          rw [hi]
      | some i => exact ⟨i, hwf.indexForId_some hi⟩
    obtain ⟨st, isCurrent, -, -, hst⟩ :=
      poolSystem_step_inState hwf hcall (P := fun _ => True) ⟨i, c, hc, hid, trivial⟩
    refine hst.imp ?_
    rintro _ rfl
    rw [hop]
    simp [PoolOp.effect, CredentialState.isDisabled]
  -- the invariant of the run: well formed, and still disabled
  have hstep : ∀ (u : TimedPool) (e : PoolCall) (u' : TimedPool),
      (WellFormed u.clock u.pool ∧ u.pool.InState id (·.isDisabled = true)) →
      (poolSystem.restrict fun _ e => e.op ≠ .enableCredentialById id).Step u e u' →
      (WellFormed u'.clock u'.pool ∧ u'.pool.InState id (·.isDisabled = true)) ∧
        id ∉ e.output.returned := by
    rintro u e u' ⟨hwfu, hdis⟩ ⟨hst, hne⟩
    refine ⟨⟨poolSystem_step_wellFormed u e u' hwfu hst, ?_⟩, ?_⟩
    · obtain ⟨st, isCurrent, hdst, -, hu'⟩ := poolSystem_step_inState hwfu hst hdis
      refine hu'.imp ?_
      rintro _ rfl
      exact PoolOp.effect_disabled hdst hne
    · refine poolSystem_step_not_returned hwfu hst (hdis.imp ?_)
      rintro st hdst ⟨-, hsel⟩
      rw [hdst] at hsel
      cases hsel
  have hrun' := hrun.restrict hno
  exact ⟨(hrun'.invariant (fun u e u' hI hst => (hstep u e u' hI hst).1) ⟨hwf₁, hdis₁⟩).2,
    hrun'.labels hstep ⟨hwf₁, hdis₁⟩⟩

/-- A disabled credential with a cooldown still pending: neither the expiry of its
deadline, nor the last resort, nor a clear brings it back. -/
theorem disabled_until_enabled_pair :
    let s := pairStart.after (.applyCredentialCooldownUntil firstId 5 "429") (.at' 1)
    let s₁ := s.after (.disableCredentialById firstId "operator") (.at' 3)
    let s₂ := s₁.after .selectCoolingDownLastResort (.at' 6)
    let s₃ := s₂.after (.clearCredentialCooldownById firstId) (.at' 7)
    s₃.pool.InState firstId (·.isDisabled = true) ∧
      firstId ∉ (s₁.call .selectCoolingDownLastResort (.at' 6)).output.returned := by
  intro s s₁ s₂ s₃
  have hs : poolSystem.Reachable s := (TransitionSystem.Reachable.init pairStart_init).step
    (poolSystem_step _ _ _ (by decide))
  have h := disabled_until_enabled s s₁ s₃
    (s.call (.disableCredentialById firstId "operator") (.at' 3))
    [s₁.call .selectCoolingDownLastResort (.at' 6),
      s₂.call (.clearCredentialCooldownById firstId) (.at' 7)]
    firstId "operator" hs (poolSystem_step _ _ _ (by decide)) rfl
    (fun hnone => by cases hnone)
    (.cons (poolSystem_step _ _ _ (by decide))
      (.cons (poolSystem_step _ _ _ (by decide)) (.nil _)))
    (List.forall_mem_cons.mpr ⟨nofun,
      List.forall_mem_cons.mpr ⟨nofun, List.forall_mem_nil _⟩⟩)
  exact ⟨h.1, h.2 _ List.mem_cons_self⟩

/-! ## §6. Durable exclusion, and the report that breaks it. -/

/-- The call reports a cooldown for `id` while `id` is the current credential. -/
def CoolsCurrent (id : CredentialId) (s : TimedPool) (call : PoolCall) : Prop :=
  (∃ d reason, call.op = .applyCredentialCooldownUntil id d reason) ∧ s.pool.IsCurrent id

/-- The operator has not restored, enabled or disabled `id` with this operation. -/
def PoolOp.LeavesTo (id : CredentialId) (op : PoolOp) : Prop :=
  op ≠ .restoreCredentialById id ∧ op ≠ .enableCredentialById id ∧
    ∀ reason, op ≠ .disableCredentialById id reason

/-- A durable exclusion is not the operator's. -/
theorem CredentialState.Durable.not_disabled {s : CredentialState} (h : s.Durable) :
    s.isDisabled = false := by
  cases s <;> simp_all [Durable, isExpired, isQuotaExhausted, isDisabled]

/-- Apart from a cooldown report about the current credential, only the operator
changes a durably excluded state into another kind of state. -/
theorem PoolOp.effect_durable {r : Readings} {isCurrent : Bool} {id : CredentialId}
    {s : CredentialState} {op : PoolOp} (hs : s.Durable) (hop : op.LeavesTo id)
    (hcur : (∃ d reason, op = .applyCredentialCooldownUntil id d reason) → isCurrent = false) :
    (op.effect r isCurrent id s).Durable := by
  obtain ⟨hrestore, henable, hdisable⟩ := hop
  -- only a restore, an enable and a disable of this credential lead out of a durable exclusion
  cases op with
  | applyCredentialCooldownUntil id' d reason =>
      simp only [PoolOp.effect]
      rw [if_neg]
      · exact hs
      · -- only the current credential may be cooled down out of a durable state
        rintro ⟨rfl, htrue, -⟩
        rw [hcur ⟨d, reason, rfl⟩] at htrue
        cases htrue
  | restoreCredentialById id' =>
      simp only [PoolOp.effect]
      rw [if_neg fun h => hrestore (by rw [h.1])]
      exact hs
  | enableCredentialById id' =>
      simp only [PoolOp.effect]
      rw [if_neg fun h => henable (by rw [h])]
      exact hs
  | disableCredentialById id' reason =>
      simp only [PoolOp.effect]
      rw [if_neg fun h => hdisable reason (by rw [h])]
      exact hs
  | clearCredentialCooldownById id' =>
      simp only [PoolOp.effect]
      rw [if_neg]
      · exact hs
      · -- a durable state is no cooldown to clear
        rintro ⟨-, hcool⟩
        cases s with
        | coolingDown d reason => rcases hs with h | h <;> cases h
        | _ => cases hcool
  -- these marks are durable themselves
  | reportExpiredFailureById id' reason
  | applyCredentialExpired id' reason
  | expireCredentialById id' reason =>
      simp only [PoolOp.effect]
      split
      · exact Or.inl rfl
      · exact hs
  | applyCredentialQuotaExhausted id' reason =>
      simp only [PoolOp.effect]
      split
      · exact Or.inr rfl
      · exact hs
  | _ => exact hs

/-- A late cooldown report about the current, durably excluded credential turns the
exclusion into a cooldown. -/
theorem late_cooldown_replaces_expiry {s s' : TimedPool} {call : PoolCall} {id : CredentialId}
    (hwf : WellFormed s.clock s.pool) (hdur : s.pool.InState id (·.Durable))
    (hstep : poolSystem.Step s call s') (hcools : CoolsCurrent id s call) :
    s'.pool.InState id (fun st => ∃ d reason, st = .coolingDown d reason) := by
  obtain ⟨⟨d, reason, hop⟩, hcur⟩ := hcools
  obtain ⟨st, isCurrent, hst, hiff, hs'⟩ := poolSystem_step_inState hwf hstep hdur
  refine hs'.imp ?_
  rintro _ rfl
  rw [hop]
  exact ⟨d, reason, if_pos ⟨rfl, hiff.mpr hcur, hst.not_disabled⟩⟩

/-- An expired or quota-exhausted credential stays so and is never handed out, in
every run that leaves it to the operator and brings no cooldown report about it
while it is current.  Such a report does replace the exclusion. -/
theorem durable_unless_cooled_as_current (s : TimedPool) (id : CredentialId)
    (hs : poolSystem.Reachable s) (hdur : s.pool.InState id (·.Durable)) :
    (∀ (es : List PoolCall) (s' : TimedPool),
      (poolSystem.restrict fun u e => ¬ CoolsCurrent id u e).Run s es s' →
      (∀ e ∈ es, e.op.LeavesTo id) →
      s'.pool.InState id (·.Durable) ∧ ∀ e ∈ es, id ∉ e.output.returned) ∧
    (∀ (call : PoolCall) (s' : TimedPool), poolSystem.Step s call s' → CoolsCurrent id s call →
      s'.pool.InState id (fun st => ∃ d reason, st = .coolingDown d reason)) := by
  have hwf := poolSystem_wellFormed hs
  refine ⟨?_, fun call s' hstep hcools => late_cooldown_replaces_expiry hwf hdur hstep hcools⟩
  intro es s' hrun hleaves
  -- the invariant of the run: well formed, and still durably excluded
  have hstep : ∀ (u : TimedPool) (e : PoolCall) (u' : TimedPool),
      (WellFormed u.clock u.pool ∧ u.pool.InState id (·.Durable)) →
      ((poolSystem.restrict fun u e => ¬ CoolsCurrent id u e).restrict
        fun _ e => e.op.LeavesTo id).Step u e u' →
      (WellFormed u'.clock u'.pool ∧ u'.pool.InState id (·.Durable)) ∧
        id ∉ e.output.returned := by
    rintro u e u' ⟨hwfu, hduru⟩ ⟨⟨hst, hnot⟩, hleave⟩
    refine ⟨⟨poolSystem_step_wellFormed u e u' hwfu hst, ?_⟩, ?_⟩
    · obtain ⟨st, isCurrent, hdst, hiff, hu'⟩ := poolSystem_step_inState hwfu hst hduru
      refine hu'.imp ?_
      rintro _ rfl
      refine PoolOp.effect_durable hdst hleave ?_
      intro hop
      by_contra htrue
      rw [Bool.not_eq_false] at htrue
      exact hnot ⟨hop, hiff.mp htrue⟩
    · refine poolSystem_step_not_returned hwfu hst (hduru.imp ?_)
      rintro st hdst ⟨hsel, -⟩
      exact hsel hdst
  have hrun' := hrun.restrict hleaves
  exact ⟨(hrun'.invariant (fun u e u' hI hst => (hstep u e u' hI hst).1) ⟨hwf, hdur⟩).2,
    hrun'.labels hstep ⟨hwf, hdur⟩⟩

/-- A pool of one credential, for the run below. -/
def soloConfig : KeyPoolConfig := { pairConfig with credentials := [⟨"k1", .unknown⟩] }

def soloStart : TimedPool := ⟨.ofConfig soloConfig, 0⟩

theorem soloStart_init : poolSystem.Init soloStart := ⟨soloConfig, rfl, by decide⟩

/-- The credential after an expiry that found no alternative: current and expired. -/
def soloExpired : TimedPool := soloStart.after (.applyCredentialExpired firstId "401") (.at' 1)

theorem soloExpired_reachable : poolSystem.Reachable soloExpired :=
  (TransitionSystem.Reachable.init soloStart_init).step (poolSystem_step _ _ _ (by decide))

theorem soloExpired_durable : soloExpired.pool.InState firstId (·.Durable) :=
  ⟨0, _, rfl, by decide, by decide⟩

/-- Commands about the expired credential that leave it excluded. -/
theorem durable_unless_cooled_as_current_solo :
    let s := soloExpired
    let s₁ := s.after (.clearCredentialCooldownById firstId) (.at' 2)
    let s₂ := s₁.after (.applyCredentialQuotaExhausted firstId "quota") (.at' 3)
    s₂.pool.InState firstId (·.Durable) := by
  intro s s₁ s₂
  have h := (durable_unless_cooled_as_current soloExpired firstId soloExpired_reachable
    soloExpired_durable).1
    [s.call (.clearCredentialCooldownById firstId) (.at' 2),
      s₁.call (.applyCredentialQuotaExhausted firstId "quota") (.at' 3)] s₂
    (.cons ⟨poolSystem_step _ _ _ (by decide), by rintro ⟨⟨d, reason, hop⟩, -⟩; cases hop⟩
      (.cons ⟨poolSystem_step _ _ _ (by decide), by rintro ⟨⟨d, reason, hop⟩, -⟩; cases hop⟩
        (.nil _)))
    (List.forall_mem_cons.mpr ⟨⟨nofun, nofun,
        nofun⟩,
      List.forall_mem_cons.mpr ⟨⟨nofun, nofun,
        nofun⟩, List.forall_mem_nil _⟩⟩)
  exact h.1

/-- The exclusion is lost to a late 429: the expired credential cools down, and once
the deadline has passed it is selected again. -/
theorem expired_credential_selected_again :
    let s₁ := soloExpired.after (.applyCredentialCooldownUntil firstId 5 "429") (.at' 2)
    poolSystem.Reachable soloExpired ∧ soloExpired.pool.InState firstId (·.Durable) ∧
      poolSystem.Run soloExpired
        [soloExpired.call (.applyCredentialCooldownUntil firstId 5 "429") (.at' 2),
          s₁.call .select (.at' 6)]
        (s₁.after .select (.at' 6)) ∧
      s₁.pool.InState firstId (· = .coolingDown 5 "429") ∧
      firstId ∈ (s₁.call .select (.at' 6)).output.returned := by
  intro s₁
  refine ⟨soloExpired_reachable, soloExpired_durable, ?_, ?_, ?_⟩
  · exact .cons (poolSystem_step _ _ _ (by decide))
      (.cons (poolSystem_step _ _ _ (by decide)) (.nil _))
  · exact ⟨0, _, rfl, by decide, by decide⟩
  · decide

end OneAiKey
