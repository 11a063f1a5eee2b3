/-
  OneAiKey.Pool.Invariant — the representation invariant of the credential
  pool.

  `Classified` says for one position how its credential's state, the
  available set and the deadline index agree; `WellFormed` says it of every
  position, with the id index, the two deadline maps and `current` in order.
  Each mutator marks one credential and files its position anew
  (`WellFormed.reclassify`), and `refreshAvailableIndices` moves exactly the
  passed deadlines (`refresh_spec`).

  Main results:
    * `WellFormed.markAvailable`, `.markExcluded`, `.markCoolingDown` — the
      three ways a mutator marks a credential keep the invariant;
    * `WellFormed.refresh_spec` — so does a refresh, which removes exactly the
      passed deadlines;
    * `WellFormed.mem_refresh_iff` — after a refresh, the available set is
      exactly the set of credentials that are available at that clock value.
-/
import OneAiKey.Pool

namespace OneAiKey

open Std

/-! ## §1. The invariant. -/

/-- How the state of one credential, its membership in the available set and its
recorded deadline agree at clock value `t`. -/
def Classified (t : Instant) (listed : Prop) (deadline : Option Instant) :
    CredentialState → Prop
  | .available => listed ∧ deadline = none
  | .coolingDown d _ =>
      (listed ∧ deadline = none ∧ d ≤ t) ∨ (¬ listed ∧ deadline = some d)
  | .expired _ | .quotaExhausted _ | .disabled _ => ¬ listed ∧ deadline = none

/-- The representation invariant of a pool, at a clock value no later reading
goes behind. -/
structure WellFormed (t : Instant) (p : KeyPool) : Prop where
  current_lt : p.current < p.credentials.length
  index_iff : ∀ (id : CredentialId) (i : Nat), p.credentialIndex[id]? = some i ↔
    ∃ c, p.credentials[i]? = some c ∧ c.id = id
  inverse : DeadlineIndex.Inverse p.cooldownDeadlines p.cooldownDeadlineByIndex
  classified : ∀ (i : Nat) (c : Credential), p.credentials[i]? = some c →
    Classified t (i ∈ p.availableIndices) p.cooldownDeadlineByIndex[i]? c.state
  inRange : ∀ i : Nat, p.credentials.length ≤ i →
    i ∉ p.availableIndices ∧ p.cooldownDeadlineByIndex[i]? = none

/-- A cooldown that is over stays over. -/
theorem Classified.mono {t t' : Instant} (ht : t ≤ t') {listed : Prop}
    {deadline : Option Instant} {s : CredentialState} (h : Classified t listed deadline s) :
    Classified t' listed deadline s := by
  cases s with
  | coolingDown d reason =>
      rcases h with ⟨hl, hn, hd⟩ | h
      · exact Or.inl ⟨hl, hn, Nat.le_trans hd ht⟩
      · exact Or.inr h
  | _ => exact h

/-- A listed position holds a credential that is available. -/
theorem Classified.available {t : Instant} {listed : Prop} {deadline : Option Instant}
    {s : CredentialState} (h : Classified t listed deadline s) (hl : listed) :
    s.isAvailableAt t = true ∧ deadline = none := by
  cases s with
  | available => exact ⟨rfl, h.2⟩
  | coolingDown d reason =>
      rcases h with ⟨-, hn, hd⟩ | ⟨hnot, -⟩
      · exact ⟨by simpa [CredentialState.isAvailableAt] using hd, hn⟩
      · exact absurd hl hnot
  | _ => exact absurd hl h.1

/-- A position with a deadline holds a credential that cools down until then. -/
theorem Classified.cooling {t d : Instant} {listed : Prop} {s : CredentialState}
    (h : Classified t listed (some d) s) :
    ¬ listed ∧ ∃ reason, s = .coolingDown d reason := by
  cases s with
  | coolingDown d' reason =>
      rcases h with ⟨-, hn, -⟩ | ⟨hnot, hd⟩
      · cases hn
      · cases hd
        exact ⟨hnot, reason, rfl⟩
  | _ => cases h.2

namespace WellFormed

variable {t t' : Instant} {p : KeyPool}

/-- Time alone does not hurt the invariant. -/
theorem mono (h : WellFormed t p) (ht : t ≤ t') : WellFormed t' p :=
  { h with classified := fun i c hc => (h.classified i c hc).mono ht }

/-- The classification of the credential at an index. -/
theorem credentialAt (h : WellFormed t p) {i : Nat} (hi : i < p.credentials.length) :
    ∃ c, p.credentials[i]? = some c ∧
      Classified t (i ∈ p.availableIndices) p.cooldownDeadlineByIndex[i]? c.state :=
  ⟨p.credentials[i], List.getElem?_eq_getElem hi, h.classified i _ (List.getElem?_eq_getElem hi)⟩

/-- The credential at a listed position. -/
theorem listed (h : WellFormed t p) {i : Nat} (hi : i ∈ p.availableIndices) :
    ∃ c, p.credentials[i]? = some c ∧ c.state.isAvailableAt t = true ∧
      p.cooldownDeadlineByIndex[i]? = none := by
  have hlt : i < p.credentials.length := by
    by_contra hge
    exact (h.inRange i (Nat.le_of_not_lt hge)).1 hi
  obtain ⟨c, hc, hcl⟩ := h.credentialAt hlt
  exact ⟨c, hc, hcl.available hi⟩

/-- The credential at a position with a deadline. -/
theorem waiting (h : WellFormed t p) {i : Nat} {d : Instant}
    (hi : p.cooldownDeadlineByIndex[i]? = some d) :
    ∃ c reason, p.credentials[i]? = some c ∧ c.state = .coolingDown d reason ∧
      i ∉ p.availableIndices := by
  have hlt : i < p.credentials.length := by
    by_contra hge
    rw [(h.inRange i (Nat.le_of_not_lt hge)).2] at hi
    cases hi
  obtain ⟨c, hc, hcl⟩ := h.credentialAt hlt
  rw [hi] at hcl
  obtain ⟨hnot, reason, hs⟩ := hcl.cooling
  exact ⟨c, reason, hc, hs, hnot⟩

/-- The id index finds credentials only. -/
theorem indexForId_some (h : WellFormed t p) {id : CredentialId} {i : Nat}
    (hi : p.indexForId id = some i) : ∃ c, p.credentials[i]? = some c ∧ c.id = id :=
  (h.index_iff id i).mp hi

/-- Credentials at two positions have different ids. -/
theorem index_unique (h : WellFormed t p) {i j : Nat} {c c' : Credential}
    (hi : p.credentials[i]? = some c) (hj : p.credentials[j]? = some c')
    (hid : c.id = c'.id) : i = j := by
  have h1 : p.credentialIndex[c.id]? = some i := (h.index_iff c.id i).mpr ⟨c, hi, rfl⟩
  have h2 : p.credentialIndex[c.id]? = some j := (h.index_iff c.id j).mpr ⟨c', hj, hid.symm⟩
  rw [h1] at h2
  exact Option.some.inj h2

/-- A pool is never empty. -/
theorem length_pos (h : WellFormed t p) : 0 < p.credentials.length :=
  Nat.lt_of_le_of_lt (Nat.zero_le _) h.current_lt

/-- The sticky pointer may move to any credential. -/
theorem setCurrent (h : WellFormed t p) {i : Nat} (hi : i < p.credentials.length) :
    WellFormed t { p with current := i } :=
  { h with current_lt := hi }

end WellFormed

/-! ## §2. What an index update leaves alone. -/

namespace KeyPool

/-- Only the available set and the deadline maps differ. -/
structure SameCredentials (p p' : KeyPool) : Prop where
  config : p'.config = p.config
  credentials : p'.credentials = p.credentials
  credentialIndex : p'.credentialIndex = p.credentialIndex
  current : p'.current = p.current

theorem SameCredentials.refl (p : KeyPool) : SameCredentials p p := ⟨rfl, rfl, rfl, rfl⟩

theorem SameCredentials.trans {p p' p'' : KeyPool} (h : SameCredentials p p')
    (h' : SameCredentials p' p'') : SameCredentials p p'' :=
  ⟨h'.config.trans h.config, h'.credentials.trans h.credentials,
    h'.credentialIndex.trans h.credentialIndex, h'.current.trans h.current⟩

/-- By induction over the list. -/
theorem SameCredentials.foldl {α : Type} {f : KeyPool → α → KeyPool}
    (hf : ∀ p a, SameCredentials p (f p a)) (l : List α) (p : KeyPool) :
    SameCredentials p (l.foldl f p) := by
  induction l generalizing p with
  | nil => exact .refl p
  | cons a l ih =>
      rw [List.foldl_cons]
      exact (hf p a).trans (ih (f p a))

/-- Forgetting a deadline changes no credential. -/
theorem sameCredentials_removeCooldownDeadline (p : KeyPool) (i : Nat) :
    SameCredentials p (p.removeCooldownDeadline i) := by
  unfold removeCooldownDeadline
  split <;> exact ⟨rfl, rfl, rfl, rfl⟩

/-- Listing an index changes no credential. -/
theorem sameCredentials_markIndexAvailable (p : KeyPool) (i : Nat) :
    SameCredentials p (p.markIndexAvailable i) :=
  (sameCredentials_removeCooldownDeadline p i).trans ⟨rfl, rfl, rfl, rfl⟩

/-- Dropping an index changes no credential. -/
theorem sameCredentials_markIndexUnavailable (p : KeyPool) (i : Nat) :
    SameCredentials p (p.markIndexUnavailable i) :=
  (sameCredentials_removeCooldownDeadline p i).trans ⟨rfl, rfl, rfl, rfl⟩

/-- Setting the deadline of an index changes no credential. -/
theorem sameCredentials_markIndexCoolingDown (p : KeyPool) (i : Nat) (d : Instant) :
    SameCredentials p (p.markIndexCoolingDown i d) :=
  (sameCredentials_markIndexUnavailable p i).trans ⟨rfl, rfl, rfl, rfl⟩

/-- Promoting an index changes no credential. -/
theorem sameCredentials_promoteIndex (now deadline : Instant) (p : KeyPool) (i : Nat) :
    SameCredentials p (promoteIndex now deadline p i) := by
  unfold promoteIndex
  split
  · dsimp only
    split <;> exact ⟨rfl, rfl, rfl, rfl⟩
  · exact .refl p

/-- Promoting all indices of a deadline changes no credential. -/
theorem sameCredentials_promoteDeadline (now : Instant) (p : KeyPool) (deadline : Instant) :
    SameCredentials p (promoteDeadline now p deadline) := by
  unfold promoteDeadline
  split
  · exact .refl p
  · next indices _ =>
      have h0 : SameCredentials p
          { p with cooldownDeadlines := p.cooldownDeadlines.erase deadline } :=
        ⟨rfl, rfl, rfl, rfl⟩
      exact h0.trans (.foldl (sameCredentials_promoteIndex now deadline) _ _)

/-- A refresh changes no credential: a cooldown that is over stays in the state of its credential.
-/
theorem sameCredentials_refresh (p : KeyPool) (now : Instant) :
    SameCredentials p (p.refreshAvailableIndices now) :=
  .foldl (sameCredentials_promoteDeadline now) _ p

/-! ## §3. Filing one position anew. -/

theorem availableIndices_removeCooldownDeadline (p : KeyPool) (i : Nat) :
    (p.removeCooldownDeadline i).availableIndices = p.availableIndices := by
  unfold removeCooldownDeadline
  split <;> rfl

/-- Forgetting a deadline concerns one credential. -/
theorem deadline_removeCooldownDeadline (p : KeyPool) (i k : Nat) :
    (p.removeCooldownDeadline i).cooldownDeadlineByIndex[k]? =
      if k = i then none else p.cooldownDeadlineByIndex[k]? := by
  unfold removeCooldownDeadline
  by_cases hk : k = i
  · subst hk
    cases hd : p.cooldownDeadlineByIndex[k]? with
    | none => simp [hd]
    | some d => simp
  · have hne : ¬ i = k := fun h => hk h.symm
    cases p.cooldownDeadlineByIndex[i]? with
    | none => simp [hk]
    | some d => simp [TreeMap.getElem?_erase, hk, hne]

/-- Forgetting a deadline keeps the two maps of deadlines inverse to each other. -/
theorem inverse_removeCooldownDeadline (p : KeyPool)
    (h : DeadlineIndex.Inverse p.cooldownDeadlines p.cooldownDeadlineByIndex) (i : Nat) :
    DeadlineIndex.Inverse (p.removeCooldownDeadline i).cooldownDeadlines
      (p.removeCooldownDeadline i).cooldownDeadlineByIndex := by
  unfold removeCooldownDeadline
  split
  · exact h
  · next d hd => exact h.remove hd

end KeyPool

namespace WellFormed

variable {t : Instant} {p p' : KeyPool} {i : Nat} {c : Credential}

/-- A mutator that marks the credential at `i`, files `i` accordingly and leaves
every other position alone keeps the invariant. -/
theorem reclassify (h : WellFormed t p) (hc : p.credentials[i]? = some c)
    {mark : Credential → Credential} (hid : (mark c).id = c.id)
    (hsame : KeyPool.SameCredentials (p.modifyCredential i mark) p')
    (hinv : DeadlineIndex.Inverse p'.cooldownDeadlines p'.cooldownDeadlineByIndex)
    (hlisted : ∀ k, k ≠ i → (k ∈ p'.availableIndices ↔ k ∈ p.availableIndices))
    (hdeadline : ∀ k, k ≠ i →
      p'.cooldownDeadlineByIndex[k]? = p.cooldownDeadlineByIndex[k]?)
    (hi : Classified t (i ∈ p'.availableIndices) p'.cooldownDeadlineByIndex[i]?
      (mark c).state) : WellFormed t p' := by
  have hcreds : p'.credentials = p.credentials.modify i mark := hsame.credentials
  have hlen : p'.credentials.length = p.credentials.length := by
    rw [hcreds, List.length_modify]
  have hat : ∀ k, p'.credentials[k]? =
      (if i = k then mark else id) <$> p.credentials[k]? := by
    intro k
    rw [hcreds, List.getElem?_modify]
    split <;> simp
  have hci : p'.credentials[i]? = some (mark c) := by
    rw [hat i, hc]
    simp
  have hck : ∀ k, k ≠ i → p'.credentials[k]? = p.credentials[k]? := by
    intro k hk
    rw [hat k, if_neg fun heq => hk heq.symm]
    simp
  -- field by field: at `i` what the mutator did, elsewhere what held before
  refine ⟨?_, ?_, hinv, ?_, ?_⟩
  · rw [hlen, hsame.current]
    exact h.current_lt
  · intro id k
    rw [hsame.credentialIndex]
    show p.credentialIndex[id]? = some k ↔ _
    rw [h.index_iff]
    by_cases hk : k = i
    · subst hk
      rw [hci, hc]
      constructor
      · rintro ⟨c', hc', rfl⟩
        cases hc'
        exact ⟨mark c, rfl, hid⟩
      · rintro ⟨c', hc', rfl⟩
        cases hc'
        exact ⟨c, rfl, hid.symm⟩
    · rw [hck k hk]
  · intro k c' hc'
    by_cases hk : k = i
    · subst hk
      rw [hci] at hc'
      cases hc'
      exact hi
    · rw [hck k hk] at hc'
      have hcl := h.classified k c' hc'
      rw [hdeadline k hk]
      rwa [← hlisted k hk] at hcl
  · intro k hk
    rw [hlen] at hk
    have hki : k ≠ i := by
      rintro rfl
      rw [List.getElem?_eq_none hk] at hc
      cases hc
    rw [hlisted k hki, hdeadline k hki]
    exact h.inRange k hk

/-- Marking a credential available. -/
theorem markAvailable (h : WellFormed t p) (hc : p.credentials[i]? = some c) :
    WellFormed t ((p.modifyCredential i (·.markAvailable)).markIndexAvailable i) := by
  refine h.reclassify hc rfl (KeyPool.sameCredentials_markIndexAvailable _ i)
    (KeyPool.inverse_removeCooldownDeadline (p.modifyCredential i _) h.inverse i) ?_ ?_ ?_
  · intro k hk
    unfold KeyPool.markIndexAvailable
    simp only [KeyPool.availableIndices_removeCooldownDeadline]
    rw [TreeSet.mem_insert]
    have hne : ¬ i = k := fun heq => hk heq.symm
    simp [hne, KeyPool.modifyCredential]
  · intro k hk
    unfold KeyPool.markIndexAvailable
    simp only [KeyPool.deadline_removeCooldownDeadline]
    rw [if_neg hk]
    rfl
  · show Classified t _ _ CredentialState.available
    unfold KeyPool.markIndexAvailable
    simp only [KeyPool.deadline_removeCooldownDeadline]
    exact ⟨TreeSet.mem_insert_self, rfl⟩

/-- A position that is taken out of both structures. -/
theorem unlisted (p : KeyPool) (i : Nat) :
    i ∉ (p.markIndexUnavailable i).availableIndices ∧
      (p.markIndexUnavailable i).cooldownDeadlineByIndex[i]? = none := by
  unfold KeyPool.markIndexUnavailable
  simp only [KeyPool.deadline_removeCooldownDeadline]
  refine ⟨?_, rfl⟩
  rw [TreeSet.mem_erase]
  simp

/-- Dropping one index leaves the others listed. -/
theorem listed_markIndexUnavailable (p : KeyPool) {i k : Nat} (hk : k ≠ i) :
    k ∈ (p.markIndexUnavailable i).availableIndices ↔ k ∈ p.availableIndices := by
  unfold KeyPool.markIndexUnavailable
  simp only [KeyPool.availableIndices_removeCooldownDeadline]
  rw [TreeSet.mem_erase]
  have hne : ¬ i = k := fun heq => hk heq.symm
  simp [hne]

/-- Dropping one index leaves the deadlines of the others. -/
theorem deadline_markIndexUnavailable (p : KeyPool) {i k : Nat} (hk : k ≠ i) :
    (p.markIndexUnavailable i).cooldownDeadlineByIndex[k]? = p.cooldownDeadlineByIndex[k]? := by
  unfold KeyPool.markIndexUnavailable
  simp only [KeyPool.deadline_removeCooldownDeadline]
  exact if_neg hk

/-- Marking a credential with a state that excludes it. -/
theorem markExcluded (h : WellFormed t p) (hc : p.credentials[i]? = some c)
    {mark : Credential → Credential} (hid : (mark c).id = c.id)
    (hstate : ∀ listed deadline, ¬ listed ∧ deadline = none →
      Classified t listed deadline (mark c).state) :
    WellFormed t ((p.modifyCredential i mark).markIndexUnavailable i) := by
  refine h.reclassify hc hid (KeyPool.sameCredentials_markIndexUnavailable _ i)
    (KeyPool.inverse_removeCooldownDeadline (p.modifyCredential i _) h.inverse i) ?_ ?_ ?_
  · intro k hk
    rw [listed_markIndexUnavailable _ hk]
    rfl
  · intro k hk
    rw [deadline_markIndexUnavailable _ hk]
    rfl
  · exact hstate _ _ (unlisted _ i)

/-- Marking a credential as cooling down, with any deadline. -/
theorem markCoolingDown (h : WellFormed t p) (hc : p.credentials[i]? = some c)
    (d : Instant) (reason : String) :
    WellFormed t
      ((p.modifyCredential i (·.markCoolingDown d reason)).markIndexCoolingDown i d) := by
  have hgone := unlisted (p.modifyCredential i (·.markCoolingDown d reason)) i
  refine h.reclassify hc rfl (KeyPool.sameCredentials_markIndexCoolingDown _ i d) ?_ ?_ ?_ ?_
  -- the old deadline is taken out before the new one is filed
  · have hinv : DeadlineIndex.Inverse _ _ :=
      KeyPool.inverse_removeCooldownDeadline
        (p.modifyCredential i (·.markCoolingDown d reason)) h.inverse i
    exact hinv.record hgone.2 d
  · intro k hk
    show k ∈ ((p.modifyCredential i _).markIndexUnavailable i).availableIndices ↔ _
    rw [listed_markIndexUnavailable _ hk]
    rfl
  · intro k hk
    have hne : ¬ i = k := fun heq => hk heq.symm
    show (((p.modifyCredential i _).markIndexUnavailable i).cooldownDeadlineByIndex.insert
      i d)[k]? = _
    rw [TreeMap.getElem?_insert]
    simp only [Nat.compare_eq_eq, hne, if_false]
    rw [deadline_markIndexUnavailable _ hk]
    rfl
  · -- out of the available set, and filed under its own deadline
    refine Or.inr ⟨hgone.1, ?_⟩
    exact TreeMap.getElem?_insert_self

end WellFormed

/-! ## §4. Promotion of passed deadlines. -/

namespace KeyPool

/-- The state of a credential does not depend on the indices. -/
theorem stateAt_congr {p p' : KeyPool} (h : SameCredentials p p') (i : Nat)
    (test : CredentialState → Bool) : p'.stateAt i test = p.stateAt i test := by
  unfold stateAt
  rw [h.credentials]

theorem cooldownDeadlines_promoteIndex (now deadline : Instant) (p : KeyPool) (i : Nat) :
    (promoteIndex now deadline p i).cooldownDeadlines = p.cooldownDeadlines := by
  unfold promoteIndex
  split
  · dsimp only
    split <;> rfl
  · rfl

/-- Promoting one index drops its deadline, if that is the one at hand. -/
theorem deadline_promoteIndex (now deadline : Instant) (p : KeyPool) (i k : Nat) (e : Instant) :
    (promoteIndex now deadline p i).cooldownDeadlineByIndex[k]? = some e ↔
      p.cooldownDeadlineByIndex[k]? = some e ∧ ¬ (k = i ∧ e = deadline) := by
  unfold promoteIndex
  by_cases hd : p.cooldownDeadlineByIndex[i]? = some deadline
  -- the deadline of the promoted position goes, the others stay
  · rw [if_pos hd]
    have herase : ∀ q : KeyPool,
        q.cooldownDeadlineByIndex = p.cooldownDeadlineByIndex.erase i →
        (q.cooldownDeadlineByIndex[k]? = some e ↔
          p.cooldownDeadlineByIndex[k]? = some e ∧ ¬ (k = i ∧ e = deadline)) := by
      intro q hq
      rw [hq, TreeMap.getElem?_erase]
      by_cases hk : k = i
      · subst hk
        rw [hd]
        simp
        exact fun h => h.symm
      · have hne : ¬ i = k := fun heq => hk heq.symm
        simp [hk, hne]
    dsimp only
    split <;> exact herase _ rfl
  -- the position has another deadline by now, so nothing changes
  · rw [if_neg hd]
    constructor
    · intro he
      refine ⟨he, ?_⟩
      rintro ⟨rfl, rfl⟩
      exact hd he
    · exact fun h => h.1

/-- Promoting one index lists it, if the deadline is its own and its credential is
available. -/
theorem listed_promoteIndex (now deadline : Instant) (p : KeyPool) (i k : Nat) :
    k ∈ (promoteIndex now deadline p i).availableIndices ↔
      k ∈ p.availableIndices ∨ (k = i ∧ p.cooldownDeadlineByIndex[k]? = some deadline ∧
        p.stateAt k (·.isAvailableAt now) = true) := by
  unfold promoteIndex
  by_cases hd : p.cooldownDeadlineByIndex[i]? = some deadline
  · rw [if_pos hd]
    dsimp only
    have hsame : KeyPool.stateAt { p with
        cooldownDeadlineByIndex := p.cooldownDeadlineByIndex.erase i } i
        (·.isAvailableAt now) = p.stateAt i (·.isAvailableAt now) := rfl
    rw [hsame]
    -- the index is listed only if the cooldown is over
    by_cases hs : p.stateAt i (·.isAvailableAt now) = true
    · rw [if_pos hs]
      show k ∈ p.availableIndices.insert i ↔ _
      rw [TreeSet.mem_insert]
      simp only [Nat.compare_eq_eq]
      constructor
      · rintro (rfl | hk)
        · exact Or.inr ⟨rfl, hd, hs⟩
        · exact Or.inl hk
      · rintro (hk | ⟨rfl, -, -⟩)
        · exact Or.inr hk
        · exact Or.inl rfl
    · rw [if_neg hs]
      show k ∈ p.availableIndices ↔ _
      constructor
      · exact Or.inl
      · rintro (hk | ⟨rfl, -, hav⟩)
        · exact hk
        · exact absurd hav hs
  · rw [if_neg hd]
    constructor
    · exact Or.inl
    · rintro (hk | ⟨rfl, hdk, -⟩)
      · exact hk
      · exact absurd hdk hd

/-- Promoting single credentials leaves the map by deadlines to the caller. -/
theorem cooldownDeadlines_foldl_promoteIndex (now deadline : Instant) (l : List Nat)
    (p : KeyPool) :
    (l.foldl (promoteIndex now deadline) p).cooldownDeadlines = p.cooldownDeadlines := by
  induction l generalizing p with
  | nil => rfl
  | cons i l ih =>
      rw [List.foldl_cons, ih, cooldownDeadlines_promoteIndex]

/-- Promoting the indices of a deadline removes it from them and from no other index. -/
theorem deadline_foldl_promoteIndex (now deadline : Instant) (l : List Nat) (p : KeyPool)
    (k : Nat) (e : Instant) :
    (l.foldl (promoteIndex now deadline) p).cooldownDeadlineByIndex[k]? = some e ↔
      p.cooldownDeadlineByIndex[k]? = some e ∧ ¬ (k ∈ l ∧ e = deadline) := by
  induction l generalizing p with
  | nil => simp
  | cons i l ih =>
      rw [List.foldl_cons, ih, deadline_promoteIndex]
      rw [List.mem_cons]
      tauto

/-- Promoting an index lists it if the cooldown of its credential is over. -/
theorem listed_foldl_promoteIndex (now deadline : Instant) (l : List Nat) (p : KeyPool)
    (k : Nat) :
    k ∈ (l.foldl (promoteIndex now deadline) p).availableIndices ↔
      k ∈ p.availableIndices ∨ (k ∈ l ∧ p.cooldownDeadlineByIndex[k]? = some deadline ∧
        p.stateAt k (·.isAvailableAt now) = true) := by
  induction l generalizing p with
  | nil => simp
  | cons i l ih =>
      rw [List.foldl_cons, ih, listed_promoteIndex, deadline_promoteIndex,
        stateAt_congr (sameCredentials_promoteIndex now deadline p i), List.mem_cons]
      tauto

end KeyPool

namespace WellFormed

variable {t now deadline : Instant} {p : KeyPool}

/-- A promoted deadline is gone, every other one is kept. -/
theorem deadline_promoteDeadline (h : WellFormed t p) (now deadline : Instant) (k : Nat)
    (e : Instant) :
    (KeyPool.promoteDeadline now p deadline).cooldownDeadlineByIndex[k]? = some e ↔
      deadline ≠ e ∧ p.cooldownDeadlineByIndex[k]? = some e := by
  unfold KeyPool.promoteDeadline
  cases hb : p.cooldownDeadlines[deadline]? with
  -- without a bucket nobody waits for this deadline
  | none =>
      show p.cooldownDeadlineByIndex[k]? = some e ↔ _
      constructor
      · intro he
        refine ⟨?_, he⟩
        rintro rfl
        obtain ⟨b, hb', -⟩ := (h.inverse.filed_iff _ k).mpr he
        rw [hb] at hb'
        cases hb'
      · exact fun h => h.2
  | some indices =>
      dsimp only
      rw [KeyPool.deadline_foldl_promoteIndex]
      show p.cooldownDeadlineByIndex[k]? = some e ∧ _ ↔ _
      constructor
      · rintro ⟨he, hnot⟩
        refine ⟨?_, he⟩
        rintro rfl
        obtain ⟨b, hb', hk⟩ := (h.inverse.filed_iff _ k).mpr he
        rw [hb] at hb'
        cases hb'
        exact hnot ⟨TreeSet.mem_toList.mpr hk, rfl⟩
      · rintro ⟨hne, he⟩
        exact ⟨he, fun hk => hne hk.2.symm⟩

/-- The keys of a passed deadline are listed. -/
theorem listed_promoteDeadline (h : WellFormed t p) (hd : deadline ≤ now) (k : Nat) :
    k ∈ (KeyPool.promoteDeadline now p deadline).availableIndices ↔
      k ∈ p.availableIndices ∨ p.cooldownDeadlineByIndex[k]? = some deadline := by
  unfold KeyPool.promoteDeadline
  cases hb : p.cooldownDeadlines[deadline]? with
  | none =>
      show k ∈ p.availableIndices ↔ _
      constructor
      · exact Or.inl
      · rintro (hk | he)
        · exact hk
        -- no index waits for a deadline that is not filed
        · obtain ⟨b, hb', -⟩ := (h.inverse.filed_iff _ k).mpr he
          rw [hb] at hb'
          cases hb'
  | some indices =>
      dsimp only
      rw [KeyPool.listed_foldl_promoteIndex]
      show k ∈ p.availableIndices ∨ (_ ∧ p.cooldownDeadlineByIndex[k]? = some deadline ∧
        p.stateAt k _ = true) ↔ _
      constructor
      · rintro (hk | ⟨-, he, -⟩)
        · exact Or.inl hk
        · exact Or.inr he
      · rintro (hk | he)
        · exact Or.inl hk
        · refine Or.inr ⟨?_, he, ?_⟩
          · obtain ⟨b, hb', hk⟩ := (h.inverse.filed_iff _ k).mpr he
            rw [hb] at hb'
            cases hb'
            exact TreeSet.mem_toList.mpr hk
          · -- the credential cools down until the passed deadline
            obtain ⟨c, reason, hc, hs, -⟩ := h.waiting he
            unfold KeyPool.stateAt
            rw [hc]
            simpa [hs, CredentialState.isAvailableAt] using hd

/-- With the deadline itself removed, the maps are inverse again. -/
theorem inverse_promoteDeadline (h : WellFormed t p) (now deadline : Instant) :
    DeadlineIndex.Inverse (KeyPool.promoteDeadline now p deadline).cooldownDeadlines
      (KeyPool.promoteDeadline now p deadline).cooldownDeadlineByIndex := by
  have hk := h.deadline_promoteDeadline now deadline
  revert hk
  unfold KeyPool.promoteDeadline
  cases hb : p.cooldownDeadlines[deadline]? with
  | none =>
      intro _
      exact h.inverse
  | some indices =>
      intro hk
      dsimp only at hk ⊢
      rw [KeyPool.cooldownDeadlines_foldl_promoteIndex]
      exact h.inverse.popBucket deadline hk

/-- Promoting a passed deadline keeps the invariant. -/
theorem promoteDeadline (h : WellFormed now p) (hd : deadline ≤ now) :
    WellFormed now (KeyPool.promoteDeadline now p deadline) := by
  have hsame := KeyPool.sameCredentials_promoteDeadline now p deadline
  -- what the promotion does to each deadline and to each listed index
  have hdl := h.deadline_promoteDeadline now deadline
  have hls := fun k => h.listed_promoteDeadline hd k
  refine ⟨?_, ?_, h.inverse_promoteDeadline now deadline, ?_, ?_⟩
  · rw [hsame.current, hsame.credentials]
    exact h.current_lt
  · rw [hsame.credentials, hsame.credentialIndex]
    exact h.index_iff
  · intro i c hc
    rw [hsame.credentials] at hc
    have hcl := h.classified i c hc
    cases hi : p.cooldownDeadlineByIndex[i]? with
    | none =>
        have hnone : (KeyPool.promoteDeadline now p deadline).cooldownDeadlineByIndex[i]? = none := by
          rw [Option.eq_none_iff_forall_ne_some]
          intro e he
          rw [hdl, hi] at he
          cases he.2
        rw [hnone, hls i, hi]
        rw [hi] at hcl
        simpa using hcl
    | some e =>
        rw [hi] at hcl
        obtain ⟨hnot, reason, hs⟩ := hcl.cooling
        rw [hs]
        by_cases he : deadline = e
        · -- the deadline has passed: the position moves to the available set
          subst he
          refine Or.inl ⟨(hls i).mpr (Or.inr hi), ?_, hd⟩
          rw [Option.eq_none_iff_forall_ne_some]
          intro e he
          rw [hdl, hi] at he
          exact he.1 (Option.some.inj he.2)
        -- another deadline: the credential goes on waiting for it
        · refine Or.inr ⟨?_, (hdl i e).mpr ⟨he, hi⟩⟩
          rw [hls i, hi]
          rintro (hk | hk)
          · exact hnot hk
          · exact he (Option.some.inj hk).symm
  · intro i hi
    rw [hsame.credentials] at hi
    obtain ⟨hnot, hnone⟩ := h.inRange i hi
    refine ⟨?_, ?_⟩
    · rw [hls i, hnone]
      simpa using hnot
    · rw [Option.eq_none_iff_forall_ne_some]
      intro e he
      rw [hdl, hnone] at he
      cases he.2

/-- By induction over the deadlines that are due: the pool stays well formed, and exactly these
deadlines are gone. -/
theorem foldl_promoteDeadline (ds : List Instant) (hds : ∀ d ∈ ds, d ≤ now) :
    ∀ p : KeyPool, WellFormed now p →
      WellFormed now (ds.foldl (KeyPool.promoteDeadline now) p) ∧
      ∀ (k : Nat) (e : Instant),
        (ds.foldl (KeyPool.promoteDeadline now) p).cooldownDeadlineByIndex[k]? = some e ↔
          p.cooldownDeadlineByIndex[k]? = some e ∧ e ∉ ds := by
  induction ds with
  | nil =>
      intro p h
      exact ⟨h, by simp⟩
  | cons d ds ih =>
      intro p h
      have hd : d ≤ now := hds d List.mem_cons_self
      obtain ⟨hwf, hk⟩ := ih (fun d hd => hds d (List.mem_cons_of_mem _ hd)) _
        (h.promoteDeadline hd)
      refine ⟨hwf, ?_⟩
      intro k e
      rw [List.foldl_cons, hk, h.deadline_promoteDeadline, List.mem_cons]
      tauto

/-- The passed deadlines of the pool. -/
theorem mem_passed (h : WellFormed t p) {k : Nat} {e : Instant}
    (he : p.cooldownDeadlineByIndex[k]? = some e) (now : Instant) :
    e ∈ p.cooldownDeadlines.keys.filter (· ≤ now) ↔ e ≤ now := by
  obtain ⟨b, hb, -⟩ := (h.inverse.filed_iff e k).mpr he
  have hmem : e ∈ p.cooldownDeadlines := by
    rw [TreeMap.mem_iff_isSome_getElem?, hb]
    rfl
  rw [List.mem_filter, TreeMap.mem_keys]
  simp [hmem]

/-- A refresh keeps the invariant and removes exactly the passed deadlines. -/
theorem refresh_spec (h : WellFormed t p) (ht : t ≤ now) :
    WellFormed now (p.refreshAvailableIndices now) ∧
    ∀ (k : Nat) (e : Instant),
      (p.refreshAvailableIndices now).cooldownDeadlineByIndex[k]? = some e ↔
        p.cooldownDeadlineByIndex[k]? = some e ∧ now < e := by
  have hpassed : ∀ d ∈ p.cooldownDeadlines.keys.filter (· ≤ now), d ≤ now := by
    intro d hd
    simpa using (List.mem_filter.mp hd).2
  obtain ⟨hwf, hk⟩ := foldl_promoteDeadline _ hpassed p (h.mono ht)
  refine ⟨hwf, ?_⟩
  intro k e
  show (List.foldl _ p _).cooldownDeadlineByIndex[k]? = some e ↔ _
  rw [hk k e]
  constructor
  · rintro ⟨he, hnot⟩
    rw [h.mem_passed he] at hnot
    exact ⟨he, Nat.lt_of_not_le hnot⟩
  · rintro ⟨he, hlt⟩
    rw [h.mem_passed he]
    exact ⟨he, Nat.not_le_of_lt hlt⟩

/-- A refresh brings the pool to the present. -/
theorem refresh (h : WellFormed t p) (ht : t ≤ now) :
    WellFormed now (p.refreshAvailableIndices now) := (h.refresh_spec ht).1

/-- After a refresh, the available set is exactly what can be selected. -/
theorem mem_refresh_iff (h : WellFormed t p) (ht : t ≤ now) (i : Nat) :
    i ∈ (p.refreshAvailableIndices now).availableIndices ↔
      ∃ c, p.credentials[i]? = some c ∧ c.state.isAvailableAt now = true := by
  obtain ⟨hwf, hk⟩ := h.refresh_spec ht
  have hsame := KeyPool.sameCredentials_refresh p now
  constructor
  · intro hi
    obtain ⟨c, hc, hs, -⟩ := hwf.listed hi
    rw [hsame.credentials] at hc
    exact ⟨c, hc, hs⟩
  -- an available credential is listed; a cooldown that has passed has no deadline any more
  · rintro ⟨c, hc, hs⟩
    have hcl := hwf.classified i c (by rw [hsame.credentials]; exact hc)
    cases hst : c.state with
    | available =>
        rw [hst] at hcl
        exact hcl.1
    | coolingDown d reason =>
        rw [hst] at hcl hs
        rcases hcl with ⟨hl, -, -⟩ | ⟨-, hd⟩
        · exact hl
        · have hlt := ((hk i d).mp hd).2
          have hle : d ≤ now := by simpa [CredentialState.isAvailableAt] using hs
          exact absurd hle (Nat.not_le_of_lt hlt)
    | expired reason => simp [hst, CredentialState.isAvailableAt] at hs
    | quotaExhausted reason => simp [hst, CredentialState.isAvailableAt] at hs
    | disabled reason => simp [hst, CredentialState.isAvailableAt] at hs

end WellFormed

end OneAiKey
