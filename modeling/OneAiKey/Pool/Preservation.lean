/-
  OneAiKey.Pool.Preservation — the representation invariant over every run.

  `Pool/Invariant.lean` says what marking one credential and promoting the
  passed deadlines do.  Every operation is a composition of these, so each
  keeps `WellFormed` in a few steps, and by induction so does every run.

  Main results:
    * `PoolOp.exec_wellFormed` — one operation keeps the invariant;
    * `poolSystem_wellFormed` — every reachable pool is well formed;
    * `pool_representation_invariant` — what this says about the five
      structures, one by one.
-/
import OneAiKey.Pool.Invariant

namespace OneAiKey

open Std

/-! ## §1. Every operation keeps the invariant. -/

namespace KeyPool

/-- Starting elsewhere lists the same credentials. -/
theorem mem_availableIndicesFrom (p : KeyPool) (start i : Nat) :
    i ∈ p.availableIndicesFrom start ↔ i ∈ p.availableIndices := by
  unfold availableIndicesFrom
  rw [List.mem_append, List.mem_filter, List.mem_filter, TreeSet.mem_toList]
  rcases Nat.lt_or_ge i start with hlt | hge
  · simp [hlt, Nat.not_le_of_lt hlt]
  · simp [hge, Nat.not_lt_of_le hge]

/-- `next_available_from` refreshes the pool and finds a listed position, if there is
one. -/
theorem nextAvailableFrom_cases (p : KeyPool) (start : Nat) (now : Instant) :
    (∃ i ∈ (p.refreshAvailableIndices now).availableIndices,
      p.nextAvailableFrom start now = (p.refreshAvailableIndices now, some i)) ∨
    p.nextAvailableFrom start now = (p.refreshAvailableIndices now, none) := by
  unfold nextAvailableFrom
  dsimp only
  cases hf : ((p.refreshAvailableIndices now).availableIndicesFrom start).head? with
  | none => exact Or.inr rfl
  | some i =>
      refine Or.inl ⟨i, ?_, rfl⟩
      rw [← mem_availableIndicesFrom _ start]
      exact List.mem_of_mem_head? hf

end KeyPool

namespace WellFormed

variable {t now : Instant} {p : KeyPool}

/-- What is listed is a credential of the pool. -/
theorem lt_of_listed (h : WellFormed t p) {i : Nat} (hi : i ∈ p.availableIndices) :
    i < p.credentials.length := by
  obtain ⟨c, hc, -⟩ := h.listed hi
  exact (List.getElem?_eq_some_iff.mp hc).1

/-- Moving the sticky pointer to a listed position. -/
theorem setCurrent_listed (h : WellFormed t p) {i : Nat} (hi : i ∈ p.availableIndices) :
    WellFormed t { p with current := i } :=
  h.setCurrent (h.lt_of_listed hi)

/-- A selection keeps the pool well formed: it moves within the index. -/
theorem select (h : WellFormed t p) (ht : t ≤ now) : WellFormed now (p.select now).1 := by
  have hr := h.refresh ht
  unfold KeyPool.select
  rcases p.nextAvailableFrom_cases p.current now with ⟨i, hi, hn⟩ | hn
  · rw [hn]
    exact hr.setCurrent_listed hi
  · rw [hn]
    exact hr

/-- A selection by id keeps the pool well formed: it changes the current index and nothing else.
-/
theorem selectCredentialById (h : WellFormed t p) (ht : t ≤ now) (id : CredentialId) :
    WellFormed now (p.selectCredentialById id now).1 := by
  unfold KeyPool.selectCredentialById
  cases p.indexForId id with
  | none => exact h.mono ht
  | some i =>
      dsimp only
      split
      · next hi => exact (h.refresh ht).setCurrent_listed hi
      · exact h.refresh ht

/-- All indices around the end are indices of the pool. -/
theorem mem_indicesFrom (p : KeyPool) {start i : Nat} (hs : start ≤ p.credentials.length)
    (hi : i ∈ p.indicesFrom start) : i < p.credentials.length := by
  unfold KeyPool.indicesFrom at hi
  rw [List.mem_append, List.mem_range'_1, List.mem_range] at hi
  omega

/-- The last resort takes a credential that is cooling down and leaves it in that state. -/
theorem selectCoolingDownLastResort (h : WellFormed t p) {r : Readings} (ht : t ≤ r.first) :
    WellFormed r.third (p.selectCoolingDownLastResort r).1 := by
  have h1 : WellFormed r.first (p.refreshAvailableIndices r.first) := h.refresh ht
  have h2 : WellFormed r.second
      ((p.refreshAvailableIndices r.first).refreshAvailableIndices r.second) :=
    h1.refresh r.first_le
  unfold KeyPool.selectCoolingDownLastResort
  rcases (p.refreshAvailableIndices r.first).nextAvailableFrom_cases
    (p.refreshAvailableIndices r.first).current r.second with ⟨i, hi, hn⟩ | hn
  · simp only [hn]
    exact (h2.setCurrent_listed hi).mono r.second_le
  · simp only [hn]
    split
    · next i hi =>
        have hmem := List.mem_of_find?_eq_some hi
        exact (h2.setCurrent (mem_indicesFrom _ (Nat.le_of_lt h2.current_lt) hmem)).mono
          r.second_le
    · exact h2.mono r.second_le

/-- Listing candidates for a retry only refreshes. -/
theorem retryCandidatesFromCurrent (h : WellFormed t p) (ht : t ≤ now) (limit : Nat) :
    WellFormed now (p.retryCandidatesFromCurrent limit now).1 := by
  unfold KeyPool.retryCandidatesFromCurrent
  split
  · exact h.mono ht
  · exact h.refresh ht

/-- The common end of the failure reports. -/
theorem switchAwayFrom (h : WellFormed t p) (ht : t ≤ now) (failed : Nat) :
    WellFormed now (p.switchAwayFrom failed now).1 := by
  have hr := h.refresh ht
  unfold KeyPool.switchAwayFrom
  rcases p.nextAvailableFrom_cases ((p.current + 1) % p.credentials.length) now with
    ⟨i, hi, hn⟩ | hn
  · rw [hn]
    dsimp only
    split
    · exact hr.setCurrent_listed hi
    · exact hr
  · rw [hn]
    exact hr

/-- A report with a deadline moves one credential from the one index to the other. -/
theorem applyCredentialCooldownUntil (h : WellFormed t p) (ht : t ≤ now) (id : CredentialId)
    (d : Instant) (reason : String) :
    WellFormed now (p.applyCredentialCooldownUntil id d reason now).1 := by
  unfold KeyPool.applyCredentialCooldownUntil
  cases hi : p.indexForId id with
  | none => exact h.mono ht
  | some i =>
      obtain ⟨c, hc, -⟩ := h.indexForId_some hi
      dsimp only
      unfold KeyPool.reportSwitchableFailureUntil
      split
      · exact h.mono ht
      split
      · exact h.mono ht
      split
      · exact h.mono ht
      · exact (h.markCoolingDown hc d reason).switchAwayFrom ht i

/-- A report of an expired key takes its credential out of both indices. -/
theorem reportExpiredFailure (h : WellFormed t p) (ht : t ≤ now) {i : Nat} {c : Credential}
    (hc : p.credentials[i]? = some c) (reason : String) :
    WellFormed now (p.reportExpiredFailure i reason now).1 := by
  unfold KeyPool.reportExpiredFailure
  have hmark : WellFormed t
      ((p.modifyCredential i (·.markExpired reason)).markIndexUnavailable i) :=
    h.markExcluded hc rfl fun _ _ hgone => hgone
  split
  · exact h.mono ht
  split
  · exact h.mono ht
  dsimp only
  split
  · exact hmark.mono ht
  · exact hmark.switchAwayFrom ht i

/-- The report of an expired key by id: an unknown id changes nothing. -/
theorem reportExpiredFailureById (h : WellFormed t p) (ht : t ≤ now) (id : CredentialId)
    (reason : String) : WellFormed now (p.reportExpiredFailureById id reason now).1 := by
  unfold KeyPool.reportExpiredFailureById
  cases hi : p.indexForId id with
  | none => exact h.mono ht
  | some i =>
      obtain ⟨c, hc, -⟩ := h.indexForId_some hi
      exact h.reportExpiredFailure ht hc reason

/-- An exhausted quota takes its credential out of both indices. -/
theorem applyCredentialQuotaExhausted (h : WellFormed t p) (ht : t ≤ now) (id : CredentialId)
    (reason : String) : WellFormed now (p.applyCredentialQuotaExhausted id reason now).1 := by
  unfold KeyPool.applyCredentialQuotaExhausted
  cases hi : p.indexForId id with
  | none => exact h.mono ht
  | some i =>
      obtain ⟨c, hc, -⟩ := h.indexForId_some hi
      have hmark : WellFormed t
          ((p.modifyCredential i (·.markQuotaExhausted reason)).markIndexUnavailable i) :=
        h.markExcluded hc rfl fun _ _ hgone => hgone
      dsimp only
      split
      · exact h.mono ht
      split
      · exact hmark.switchAwayFrom ht i
      · exact hmark.mono ht

/-- The command `expire` is the report of an expired key. -/
theorem expireCredentialById (h : WellFormed t p) (ht : t ≤ now) (id : CredentialId)
    (reason : String) : WellFormed now (p.expireCredentialById id reason now).1 := by
  unfold KeyPool.expireCredentialById
  cases hi : p.indexForId id with
  | none => exact h.mono ht
  | some i =>
      obtain ⟨c, hc, -⟩ := h.indexForId_some hi
      exact h.reportExpiredFailure ht hc reason

/-- The command `restore` lists a credential that was in neither index. -/
theorem restoreCredentialById (h : WellFormed t p) (id : CredentialId) (r : Readings) :
    WellFormed t (p.restoreCredentialById id r).1 := by
  unfold KeyPool.restoreCredentialById
  cases hi : p.indexForId id with
  | none => exact h
  | some i =>
      obtain ⟨c, hc, -⟩ := h.indexForId_some hi
      dsimp only
      split
      · exact h.markAvailable hc
      · exact h

/-- The command `disable` takes a credential out of both indices, whatever state it was in. -/
theorem disableCredentialById (h : WellFormed t p) (ht : t ≤ now) (id : CredentialId)
    (reason : String) : WellFormed now (p.disableCredentialById id reason now).1 := by
  unfold KeyPool.disableCredentialById
  cases hi : p.indexForId id with
  | none => exact h.mono ht
  | some i =>
      obtain ⟨c, hc, -⟩ := h.indexForId_some hi
      have hmark : WellFormed t
          ((p.modifyCredential i (·.markDisabled reason)).markIndexUnavailable i) :=
        h.markExcluded hc rfl fun _ _ hgone => hgone
      dsimp only
      split
      · -- the disabled credential was current: the pointer moves if it can
        rcases KeyPool.nextAvailableFrom_cases _ _ now with ⟨j, hj, hn⟩ | hn
        · rw [hn]
          exact (hmark.refresh ht).setCurrent_listed hj
        · rw [hn]
          exact hmark.refresh ht
      · exact hmark.mono ht

/-- The command `enable` lists a credential, whatever state it was in. -/
theorem enableCredentialById (h : WellFormed t p) (id : CredentialId) :
    WellFormed t (p.enableCredentialById id).1 := by
  unfold KeyPool.enableCredentialById
  cases hi : p.indexForId id with
  | none => exact h
  | some i =>
      obtain ⟨c, hc, -⟩ := h.indexForId_some hi
      exact h.markAvailable hc

/-- The command `clear_cooldown` lists a credential that was waiting for its deadline. -/
theorem clearCredentialCooldownById (h : WellFormed t p) (id : CredentialId) (r : Readings) :
    WellFormed t (p.clearCredentialCooldownById id r).1 := by
  unfold KeyPool.clearCredentialCooldownById
  cases hi : p.indexForId id with
  | none => exact h
  | some i =>
      obtain ⟨c, hc, -⟩ := h.indexForId_some hi
      dsimp only
      split
      · exact h.markAvailable hc
      · exact h

end WellFormed

/-! ## §2. Import and construction. -/

namespace KeyPool

/-- With no duplicate found, every new id is neither in the pool nor earlier in the
batch. -/
theorem firstDuplicate_none {p : KeyPool} :
    ∀ (cs : List Credential) (newIds : TreeSet CredentialId),
      firstDuplicate p newIds cs = none →
      (∀ c ∈ cs, c.id ∉ p.credentialIndex ∧ c.id ∉ newIds) ∧ (cs.map (·.id)).Nodup
  | [], _, _ => by simp
  | c :: cs, newIds, h => by
      unfold firstDuplicate at h
      split at h
      · cases h
      · next hnew =>
          rw [not_or] at hnew
          obtain ⟨hrest, hnodup⟩ := firstDuplicate_none cs (newIds.insert c.id) h
          have hne : ∀ c' ∈ cs, c'.id ≠ c.id := by
            intro c' hc' heq
            exact (hrest c' hc').2 (by rw [heq]; exact TreeSet.mem_insert_self)
          refine ⟨?_, ?_⟩
          · intro c' hc'
            rcases List.mem_cons.mp hc' with rfl | hc'
            · exact hnew
            · refine ⟨(hrest c' hc').1, fun hmem => (hrest c' hc').2 ?_⟩
              exact TreeSet.mem_insert.mpr (Or.inr hmem)
          · rw [List.map_cons, List.nodup_cons]
            refine ⟨?_, hnodup⟩
            rintro hmem
            obtain ⟨c', hc', heq⟩ := List.mem_map.mp hmem
            exact hne c' hc' heq

/-- With distinct ids, the id index finds exactly the credentials. -/
theorem indexCredentials_iff {cs : List Credential} (hnd : (cs.map (·.id)).Nodup)
    (id : CredentialId) (i : Nat) :
    (indexCredentials cs)[id]? = some i ↔ ∃ c, cs[i]? = some c ∧ c.id = id := by
  unfold indexCredentials
  have hfst : (cs.zipIdx.map fun entry => (entry.1.id, entry.2)).map Prod.fst
      = cs.map (·.id) := by
    rw [List.map_map, show Prod.fst ∘ (fun entry : Credential × Nat => (entry.1.id, entry.2))
      = (·.id) ∘ Prod.fst from rfl, ← List.map_map, List.zipIdx_map_fst]
  -- ids are distinct, so no insertion replaces another
  have hdistinct : (cs.zipIdx.map fun entry => (entry.1.id, entry.2)).Pairwise
      (fun a b => ¬ compare a.1 b.1 = .eq) := by
    rw [← hfst, List.Nodup, List.pairwise_map] at hnd
    exact hnd.imp fun hne heq => hne (LawfulEqOrd.eq_of_compare heq)
  have hmem : ∀ {c : Credential} {j : Nat}, cs[j]? = some c → c.id = id →
      (TreeMap.ofList (cs.zipIdx.map fun entry => (entry.1.id, entry.2)))[id]? = some j := by
    intro c j hj hid
    refine TreeMap.getElem?_ofList_of_mem (ReflCmp.compare_self) hdistinct ?_
    exact List.mem_map.mpr ⟨(c, j), List.mk_mem_zipIdx_iff_getElem?.mpr hj, by rw [hid]⟩
  constructor
  · intro hi
    by_cases hex : ∃ c ∈ cs, c.id = id
    · obtain ⟨c, hc, hid⟩ := hex
      obtain ⟨j, hj⟩ := List.mem_iff_getElem?.mp hc
      rw [hmem hj hid] at hi
      cases hi
      exact ⟨c, hj, hid⟩
    · rw [TreeMap.getElem?_ofList_of_contains_eq_false] at hi
      · cases hi
      · rw [hfst]
        simpa using hex
  · rintro ⟨c, hc, hid⟩
    exact hmem hc hid

end KeyPool

namespace WellFormed

variable {t now : Instant} {p : KeyPool}

/-- At an index of a list with one more credential stands an old one, or the new one. -/
theorem getElem?_concat_iff {cs : List Credential} {c c' : Credential} {i : Nat} :
    (cs ++ [c])[i]? = some c' ↔ cs[i]? = some c' ∨ i = cs.length ∧ c' = c := by
  rcases Nat.lt_trichotomy i cs.length with hlt | rfl | hgt
  · rw [List.getElem?_append_left hlt]
    exact (or_iff_left fun h => Nat.ne_of_lt hlt h.1).symm
  · rw [List.getElem?_concat_length, List.getElem?_eq_none (Nat.le_refl _)]
    simp [eq_comm]
  · rw [List.getElem?_eq_none (by rw [List.length_append]; exact hgt),
      List.getElem?_eq_none (Nat.le_of_lt hgt)]
    exact iff_of_false nofun fun h => h.elim nofun fun h => Nat.ne_of_gt hgt h.1

/-- Appending one new, available credential. -/
theorem pushCredential (h : WellFormed t p) {c : Credential}
    (hnew : c.id ∉ p.credentialIndex) (hstate : c.state = .available) :
    WellFormed t (p.pushCredential c) := by
  unfold KeyPool.pushCredential
  refine ⟨?_, ?_, h.inverse, ?_, ?_⟩
  · show p.current < (p.credentials ++ [c]).length
    rw [List.length_append]
    exact Nat.lt_add_right _ h.current_lt
  · intro id i
    show (p.credentialIndex.insert c.id p.credentials.length)[id]? = some i ↔
      ∃ c', (p.credentials ++ [c])[i]? = some c' ∧ c'.id = id
    rw [TreeMap.getElem?_insert]
    simp only [getElem?_concat_iff]
    by_cases hid : c.id = id
    · subst hid
      -- an old credential of the new id would be in the index
      have hold : ∀ c', p.credentials[i]? = some c' → c'.id ≠ c.id := by
        intro c' hc' hidc
        have hfound := (h.index_iff c.id i).mpr ⟨c', hc', hidc⟩
        refine hnew ?_
        rw [TreeMap.mem_iff_isSome_getElem?, hfound]
        rfl
      simp only [ReflCmp.compare_self, if_true]
      constructor
      · intro hi
        cases hi
        exact ⟨c, Or.inr ⟨rfl, rfl⟩, rfl⟩
      · rintro ⟨c', hc' | ⟨rfl, -⟩, hidc⟩
        · exact absurd hidc (hold c' hc')
        · rfl
    · have hne : ¬ compare c.id id = .eq := fun heq => hid (LawfulEqOrd.eq_of_compare heq)
      rw [if_neg hne, h.index_iff]
      constructor
      · rintro ⟨c', hc', hidc⟩
        exact ⟨c', Or.inl hc', hidc⟩
      · rintro ⟨c', hc' | ⟨-, rfl⟩, hidc⟩
        · exact ⟨c', hc', hidc⟩
        · exact absurd hidc hid
  · intro i c' hc'
    show Classified t (i ∈ p.availableIndices.insert p.credentials.length) _ _
    rcases getElem?_concat_iff.mp hc' with hc' | ⟨rfl, rfl⟩
    · have hlt := (List.getElem?_eq_some_iff.mp hc').1
      have hcl := h.classified i c' hc'
      have hne : ¬ p.credentials.length = i := by omega
      simpa [TreeSet.mem_insert, hne] using hcl
    · rw [hstate]
      exact ⟨TreeSet.mem_insert_self, (h.inRange _ (Nat.le_refl _)).2⟩
  · intro i hi
    have hle : p.credentials.length < i := by
      rw [List.length_append] at hi
      exact hi
    obtain ⟨hnot, hnone⟩ := h.inRange i (Nat.le_of_lt hle)
    refine ⟨?_, hnone⟩
    show i ∉ p.availableIndices.insert p.credentials.length
    rw [TreeSet.mem_insert]
    have hne : ¬ p.credentials.length = i := by omega
    simpa [hne] using hnot

/-- Appending a batch of new credentials. -/
theorem foldl_pushCredential (cs : List Credential) :
    ∀ p : KeyPool, WellFormed t p → (∀ c ∈ cs, c.id ∉ p.credentialIndex) →
      (∀ c ∈ cs, c.state = .available) → (cs.map (·.id)).Nodup →
      WellFormed t (cs.foldl KeyPool.pushCredential p) := by
  induction cs with
  | nil => intro p h _ _ _; exact h
  | cons c cs ih =>
      intro p h hnew hstate hnd
      rw [List.map_cons, List.nodup_cons] at hnd
      refine ih _ (h.pushCredential (hnew c List.mem_cons_self)
        (hstate c List.mem_cons_self)) ?_ ?_ hnd.2
      · intro c' hc' hmem
        have hmem' : c'.id ∈ p.credentialIndex.insert c.id p.credentials.length := hmem
        rw [TreeMap.mem_insert] at hmem'
        rcases hmem' with heq | hmem'
        · refine hnd.1 (List.mem_map.mpr ⟨c', hc', ?_⟩)
          exact (LawfulEqOrd.eq_of_compare heq).symm
        · exact hnew c' (List.mem_cons_of_mem _ hc') hmem'
      · exact fun c' hc' => hstate c' (List.mem_cons_of_mem _ hc')

/-- New credentials are available. -/
theorem state_credentialsOf {credentialNamespace : String} {inputs : List PoolCredentialInput}
    {c : Credential} (hc : c ∈ KeyPool.credentialsOf credentialNamespace inputs) :
    c.state = .available := by
  obtain ⟨input, -, rfl⟩ := List.mem_map.mp hc
  rfl

/-- New credentials are listed behind the ones that are there. -/
theorem addCredentials (h : WellFormed t p) (inputs : List PoolCredentialInput) :
    WellFormed t (p.addCredentials inputs).1 := by
  unfold KeyPool.addCredentials
  dsimp only
  split
  · exact h
  · next hnone =>
      obtain ⟨hnew, hnd⟩ := KeyPool.firstDuplicate_none _ _ hnone
      exact foldl_pushCredential _ p h (fun c hc => (hnew c hc).1)
        (fun c hc => state_credentialsOf hc) hnd

/-- A new pool with distinct ids. -/
theorem ofConfig {config : KeyPoolConfig} (hne : config.credentials ≠ [])
    (hnd : ((KeyPool.ofConfig config).credentials.map (·.id)).Nodup) :
    WellFormed t (KeyPool.ofConfig config) := by
  refine ⟨?_, KeyPool.indexCredentials_iff hnd, DeadlineIndex.inverse_empty, ?_, ?_⟩
  · show 0 < (config.credentials.map _).length
    rw [List.length_map]
    exact List.length_pos_iff.mpr hne
  · intro i c hc
    rw [state_credentialsOf (List.mem_of_getElem? hc)]
    refine ⟨?_, rfl⟩
    show i ∈ TreeSet.ofList (List.range (KeyPool.ofConfig config).credentials.length)
    rw [TreeSet.mem_ofList, List.contains_iff_mem, List.mem_range]
    exact (List.getElem?_eq_some_iff.mp hc).1
  · intro i hi
    refine ⟨?_, rfl⟩
    show i ∉ TreeSet.ofList (List.range (KeyPool.ofConfig config).credentials.length)
    rw [TreeSet.mem_ofList, List.contains_iff_mem, List.mem_range]
    exact Nat.not_lt_of_le hi

end WellFormed

/-! ## §3. Every run keeps the invariant. -/

/-- One operation keeps the invariant, up to its last clock reading. -/
theorem PoolOp.exec_wellFormed {t : Instant} {p : KeyPool} (h : WellFormed t p) {r : Readings}
    (ht : t ≤ r.first) (op : PoolOp) : WellFormed r.third (op.exec r p).1 := by
  have hlast : r.first ≤ r.third := r.first_le_third
  have hall : t ≤ r.third := Nat.le_trans ht hlast
  -- by the operation; each has its own lemma
  cases op with
  | select => exact (h.select ht).mono hlast
  | selectCredentialById id => exact (h.selectCredentialById ht id).mono hlast
  | selectCoolingDownLastResort => exact h.selectCoolingDownLastResort ht
  | retryCandidatesFromCurrent limit => exact (h.retryCandidatesFromCurrent ht limit).mono hlast
  | addCredentials inputs => exact (h.addCredentials inputs).mono hall
  | applyCredentialCooldownUntil id d reason =>
      exact (h.applyCredentialCooldownUntil ht id d reason).mono hlast
  | reportExpiredFailureById id reason =>
      exact (h.reportExpiredFailureById ht id reason).mono hlast
  | applyCredentialExpired id reason =>
      exact (h.reportExpiredFailureById ht id reason).mono hlast
  | applyCredentialQuotaExhausted id reason =>
      exact (h.applyCredentialQuotaExhausted ht id reason).mono hlast
  | expireCredentialById id reason => exact (h.expireCredentialById ht id reason).mono hlast
  | restoreCredentialById id => exact (h.restoreCredentialById id r).mono hall
  | disableCredentialById id reason => exact (h.disableCredentialById ht id reason).mono hlast
  | enableCredentialById id => exact (h.enableCredentialById id).mono hall
  | clearCredentialCooldownById id => exact (h.clearCredentialCooldownById id r).mono hall

/-- One call, at a time that is not before the last: whatever it is, the pool stays well formed.
-/
theorem poolSystem_step_wellFormed (s : TimedPool) (call : PoolCall) (s' : TimedPool)
    (h : WellFormed s.clock s.pool) (hstep : poolSystem.Step s call s') :
    WellFormed s'.clock s'.pool := by
  obtain ⟨ht, hexec, hclock⟩ := hstep
  have hwf := PoolOp.exec_wellFormed h ht call.op
  rw [hexec] at hwf
  rw [hclock]
  exact hwf

/-- A pool is made of a configuration that has credentials. -/
theorem KeyPool.new_ok {config : KeyPoolConfig} {p : KeyPool} (h : KeyPool.new config = .ok p) :
    config.credentials ≠ [] ∧ p = KeyPool.ofConfig config := by
  unfold KeyPool.new at h
  split at h
  · cases h
  · next hne =>
      cases h
      exact ⟨by simpa using hne, rfl⟩

/-- A new pool is well formed. -/
theorem poolSystem_init_wellFormed (s : TimedPool) (h : poolSystem.Init s) :
    WellFormed s.clock s.pool := by
  obtain ⟨config, hnew, hnd⟩ := h
  obtain ⟨hne, hp⟩ := KeyPool.new_ok hnew
  rw [hp] at hnd ⊢
  exact .ofConfig hne hnd

/-- Every reachable pool is well formed. -/
theorem poolSystem_wellFormed {s : TimedPool} (h : poolSystem.Reachable s) :
    WellFormed s.clock s.pool :=
  h.invariant poolSystem_init_wellFormed poolSystem_step_wellFormed

/-! ## §4. The structures of a reachable pool. -/

/-- How the structures of a pool agree at clock value `t`, one by one. -/
structure RepresentationInvariant (t : Instant) (p : KeyPool) : Prop where
  current_valid : p.current < p.credentials.length
  available_valid : ∀ i ∈ p.availableIndices, i < p.credentials.length
  deadline_valid : ∀ i ∈ p.cooldownDeadlineByIndex, i < p.credentials.length
  disjoint : ∀ i ∈ p.availableIndices, i ∉ p.cooldownDeadlineByIndex
  inverse : ∀ (d : Instant) (i : Nat),
    (∃ bucket, p.cooldownDeadlines[d]? = some bucket ∧ i ∈ bucket) ↔
      p.cooldownDeadlineByIndex[i]? = some d
  no_empty_bucket : ∀ (d : Instant) (bucket : TreeSet Nat),
    p.cooldownDeadlines[d]? = some bucket → bucket.isEmpty = false
  deadline_state : ∀ (i : Nat) (d : Instant), p.cooldownDeadlineByIndex[i]? = some d →
    ∃ c reason, p.credentials[i]? = some c ∧ c.state = .coolingDown d reason
  available_state : ∀ i ∈ p.availableIndices, ∃ c, p.credentials[i]? = some c ∧
    (c.state = .available ∨ ∃ d reason, c.state = .coolingDown d reason ∧ d ≤ t)
  available_listed : ∀ (i : Nat) (c : Credential), p.credentials[i]? = some c →
    c.state = .available → i ∈ p.availableIndices
  cooling_exactly_one : ∀ (i : Nat) (c : Credential) (d : Instant) (reason : String),
    p.credentials[i]? = some c → c.state = .coolingDown d reason →
    Xor (i ∈ p.availableIndices) (i ∈ p.cooldownDeadlineByIndex)
  excluded_neither : ∀ (i : Nat) (c : Credential), p.credentials[i]? = some c →
    (c.state.isExpired || c.state.isQuotaExhausted || c.state.isDisabled) = true →
    i ∉ p.availableIndices ∧ i ∉ p.cooldownDeadlineByIndex

namespace WellFormed

variable {t : Instant} {p : KeyPool}

theorem mem_deadlines_iff (p : KeyPool) (i : Nat) :
    i ∈ p.cooldownDeadlineByIndex ↔ ∃ d, p.cooldownDeadlineByIndex[i]? = some d := by
  rw [TreeMap.mem_iff_isSome_getElem?, Option.isSome_iff_exists]

theorem not_mem_deadlines {i : Nat} (h : p.cooldownDeadlineByIndex[i]? = none) :
    i ∉ p.cooldownDeadlineByIndex := by
  rw [mem_deadlines_iff, h]
  rintro ⟨d, hd⟩
  cases hd

/-- A credential that is cooling down is in one of the two indices. -/
theorem cooling_exactly_one (h : WellFormed t p) {i : Nat} {c : Credential} {d : Instant}
    {reason : String} (hc : p.credentials[i]? = some c) (hs : c.state = .coolingDown d reason) :
    Xor (i ∈ p.availableIndices) (i ∈ p.cooldownDeadlineByIndex) := by
  have hcl := h.classified i c hc
  rw [hs] at hcl
  rcases hcl with ⟨hl, hnone, -⟩ | ⟨hnot, hd⟩
  · exact Or.inl ⟨hl, not_mem_deadlines hnone⟩
  · exact Or.inr ⟨(mem_deadlines_iff p i).mpr ⟨d, hd⟩, hnot⟩

/-- An excluded credential is in neither of the two indices. -/
theorem excluded_neither (h : WellFormed t p) {i : Nat} {c : Credential}
    (hc : p.credentials[i]? = some c)
    (hs : (c.state.isExpired || c.state.isQuotaExhausted || c.state.isDisabled) = true) :
    i ∉ p.availableIndices ∧ i ∉ p.cooldownDeadlineByIndex := by
  have hcl := h.classified i c hc
  cases hst : c.state with
  | available => rw [hst] at hs; cases hs
  | coolingDown d reason => rw [hst] at hs; cases hs
  | expired reason => rw [hst] at hcl; exact ⟨hcl.1, not_mem_deadlines hcl.2⟩
  | quotaExhausted reason => rw [hst] at hcl; exact ⟨hcl.1, not_mem_deadlines hcl.2⟩
  | disabled reason => rw [hst] at hcl; exact ⟨hcl.1, not_mem_deadlines hcl.2⟩

/-- A listed credential is available, or its cooldown is over. -/
theorem available_state (h : WellFormed t p) {i : Nat} (hi : i ∈ p.availableIndices) :
    ∃ c, p.credentials[i]? = some c ∧
      (c.state = .available ∨ ∃ d reason, c.state = .coolingDown d reason ∧ d ≤ t) := by
  obtain ⟨c, hc, hav, -⟩ := h.listed hi
  refine ⟨c, hc, ?_⟩
  cases hst : c.state with
  | available => exact Or.inl rfl
  | coolingDown d reason =>
      rw [hst] at hav
      exact Or.inr ⟨d, reason, rfl, by simpa [CredentialState.isAvailableAt] using hav⟩
  | expired reason => rw [hst] at hav; cases hav
  | quotaExhausted reason => rw [hst] at hav; cases hav
  | disabled reason => rw [hst] at hav; cases hav

/-- The parts of the representation invariant, one by one. -/
theorem representationInvariant (h : WellFormed t p) : RepresentationInvariant t p where
  current_valid := h.current_lt
  available_valid := fun _ hi => h.lt_of_listed hi
  deadline_valid := by
    intro i hi
    obtain ⟨d, hd⟩ := (mem_deadlines_iff p i).mp hi
    obtain ⟨c, -, hc, -⟩ := h.waiting hd
    exact (List.getElem?_eq_some_iff.mp hc).1
  disjoint := by
    intro i hi
    obtain ⟨c, -, -, hnone⟩ := h.listed hi
    exact not_mem_deadlines hnone
  inverse := h.inverse.filed_iff
  no_empty_bucket := h.inverse.noEmpty
  deadline_state := by
    intro i d hd
    obtain ⟨c, reason, hc, hs, -⟩ := h.waiting hd
    exact ⟨c, reason, hc, hs⟩
  available_state := fun _ hi => h.available_state hi
  available_listed := by
    intro i c hc hs
    have hcl := h.classified i c hc
    rw [hs] at hcl
    exact hcl.1
  cooling_exactly_one := fun _ _ _ _ hc hs => h.cooling_exactly_one hc hs
  excluded_neither := fun _ _ hc hs => h.excluded_neither hc hs

end WellFormed

/-- In every reachable pool the five structures agree: credentials, current index, available
indices, deadlines by index and indices by deadline.  The pool may have come from any keys by
any calls with any deadlines. -/
theorem pool_representation_invariant (s : TimedPool) (h : poolSystem.Reachable s) :
    RepresentationInvariant s.clock s.pool :=
  (poolSystem_wellFormed h).representationInvariant

/-- A pool of two credentials, for concrete runs. -/
def pairConfig : KeyPoolConfig where
  name := "pair"
  credentialNamespace := "ns"
  apiBase := "https://api.example.com/v1"
  credentials := [⟨"k1", .unknown⟩, ⟨"k2", .unknown⟩]

def pairStart : TimedPool := ⟨.ofConfig pairConfig, 0⟩

def firstId : CredentialId := (Credential.withSource "ns" "k1" .unknown).id

theorem pairStart_init : poolSystem.Init pairStart := ⟨pairConfig, rfl, by decide⟩

/-- The invariant with a deadline pending and its credential disabled. -/
theorem pool_representation_invariant_pair :
    RepresentationInvariant 3
      ((pairStart.after (.applyCredentialCooldownUntil firstId 5 "429") (.at' 1)).after
        (.disableCredentialById firstId "operator") (.at' 3)).pool := by
  have h1 := (TransitionSystem.Reachable.init pairStart_init).step
    (poolSystem_step pairStart (.applyCredentialCooldownUntil firstId 5 "429") (.at' 1)
      (by decide))
  have h2 := h1.step (poolSystem_step _ (.disableCredentialById firstId "operator") (.at' 3)
    (by decide))
  exact pool_representation_invariant _ h2

end OneAiKey
