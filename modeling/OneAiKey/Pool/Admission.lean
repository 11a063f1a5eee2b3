/-
  OneAiKey.Pool.Admission — admission reads the pool without refreshing it,
  selection refreshes it first (`src/pool.rs`, `route_state_for_pool` in
  `src/state.rs`).

  Both look at the same credentials.  Each view is compared with the states
  alone, `HasCredential`; that they agree then follows.

  Main results:
    * `WellFormed.hasAvailable_iff`, `.hasCoolingDown_iff` — what the read-only
      views say about the states;
    * `WellFormed.select_ok_iff`, `.selectCoolingDownLastResort_ok_iff` — when a
      selection succeeds, and with which credential;
    * `admission_agrees_with_selection` — the two, over every run.
-/
import OneAiKey.Pool.Lifecycle

namespace OneAiKey

open Std

/-! ## §1. The ends of an ordered list. -/

section Ordered

variable {l : List Nat} {now : Nat}

/-- Something in an increasing list has passed when the first has. -/
theorem head?_le_iff (hl : l.Pairwise (· < ·)) :
    l.head?.any (· ≤ now) = true ↔ ∃ d ∈ l, d ≤ now := by
  cases l with
  | nil => simp
  | cons d ds =>
      rw [List.pairwise_cons] at hl
      show decide (d ≤ now) = true ↔ _
      rw [decide_eq_true_eq]
      constructor
      · intro hd
        exact ⟨d, List.mem_cons_self, hd⟩
      · rintro ⟨e, he, hle⟩
        rcases List.mem_cons.mp he with rfl | he
        · exact hle
        · have hlt := hl.1 e he
          omega

/-- Something in an increasing list is still ahead when the last is. -/
theorem lt_getLast?_iff (hl : l.Pairwise (· < ·)) :
    l.getLast?.any (now < ·) = true ↔ ∃ d ∈ l, now < d := by
  induction l with
  | nil => simp
  | cons d ds ih =>
      rw [List.pairwise_cons] at hl
      cases ds with
      | nil => simp
      | cons e ds =>
          show (e :: ds).getLast?.any (now < ·) = true ↔ _
          rw [ih hl.2]
          constructor
          · rintro ⟨d', hd', hlt⟩
            exact ⟨d', List.mem_cons_of_mem d hd', hlt⟩
          · rintro ⟨d', hd', hlt⟩
            rcases List.mem_cons.mp hd' with rfl | hd'
            · -- the first is behind the second
              have hde := hl.1 e List.mem_cons_self
              exact ⟨e, List.mem_cons_self, by omega⟩
            · exact ⟨d', hd', hlt⟩

end Ordered

/-! ## §2. The read-only views. -/

/-- Some credential of the pool is in such a state. -/
def KeyPool.HasCredential (p : KeyPool) (P : CredentialState → Prop) : Prop :=
  ∃ (i : Nat) (c : Credential), p.credentials[i]? = some c ∧ P c.state

theorem KeyPool.ordered_deadlines (p : KeyPool) :
    p.cooldownDeadlines.keys.Pairwise (· < ·) := by
  have h := p.cooldownDeadlines.ordered_keys
  apply h.imp
  intro a b hab
  exact Nat.compare_eq_lt.mp hab

namespace WellFormed

variable {t now : Instant} {p : KeyPool}

/-- The deadlines on file are those of the positions. -/
theorem mem_deadline_keys (h : WellFormed t p) {d : Instant} :
    d ∈ p.cooldownDeadlines.keys ↔ ∃ i : Nat, p.cooldownDeadlineByIndex[i]? = some d := by
  rw [TreeMap.mem_keys, TreeMap.mem_iff_isSome_getElem?, Option.isSome_iff_exists]
  constructor
  · rintro ⟨b, hb⟩
    obtain ⟨i, hi⟩ := TreeSet.isEmpty_eq_false_iff_exists_mem.mp (h.inverse.noEmpty d b hb)
    exact ⟨i, (h.inverse.filed_iff d i).mp ⟨b, hb, hi⟩⟩
  · rintro ⟨i, hi⟩
    obtain ⟨b, hb, -⟩ := (h.inverse.filed_iff d i).mpr hi
    exact ⟨b, hb⟩

theorem hasAvailable_iff (h : WellFormed t p) (ht : t ≤ now) :
    p.hasAvailableCredentialsReadOnly now = true ↔ p.HasCredential (·.isAvailableAt now = true) := by
  unfold KeyPool.hasAvailableCredentialsReadOnly KeyPool.HasCredential
  constructor
  · intro hview
    split at hview
    · next hne =>
        rw [Bool.not_eq_true', TreeSet.isEmpty_eq_false_iff_exists_mem] at hne
        obtain ⟨i, hi⟩ := hne
        obtain ⟨c, hc, hs, -⟩ := h.listed hi
        exact ⟨i, c, hc, CredentialState.isAvailableAt_mono ht hs⟩
    · rw [head?_le_iff p.ordered_deadlines] at hview
      obtain ⟨d, hd, hle⟩ := hview
      obtain ⟨i, hi⟩ := h.mem_deadline_keys.mp hd
      obtain ⟨c, reason, hc, hs, -⟩ := h.waiting hi
      refine ⟨i, c, hc, ?_⟩
      rw [hs]
      exact decide_eq_true hle
  · rintro ⟨i, c, hc, hs⟩
    split
    · rfl
    · next hempty =>
        -- nothing is listed, so the credential waits for a deadline that has passed
        have hnot : i ∉ p.availableIndices := by
          intro hi
          apply hempty
          rw [Bool.not_eq_true', TreeSet.isEmpty_eq_false_iff_exists_mem]
          exact ⟨i, hi⟩
        have hcl := h.classified i c hc
        rw [head?_le_iff p.ordered_deadlines]
        cases hst : c.state with
        | available =>
            rw [hst] at hcl
            exact absurd hcl.1 hnot
        | coolingDown d reason =>
            rw [hst] at hcl hs
            rcases hcl with ⟨hi, -, -⟩ | ⟨-, hd⟩
            · exact absurd hi hnot
            · exact ⟨d, h.mem_deadline_keys.mpr ⟨i, hd⟩, of_decide_eq_true hs⟩
        | expired reason => simp [hst, CredentialState.isAvailableAt] at hs
        | quotaExhausted reason => simp [hst, CredentialState.isAvailableAt] at hs
        | disabled reason => simp [hst, CredentialState.isAvailableAt] at hs

theorem hasCoolingDown_iff (h : WellFormed t p) (ht : t ≤ now) :
    p.hasCoolingDownCredentialsReadOnly now = true ↔
      p.HasCredential (·.isCoolingDownAt now = true) := by
  unfold KeyPool.hasCoolingDownCredentialsReadOnly KeyPool.HasCredential
  rw [lt_getLast?_iff p.ordered_deadlines]
  constructor
  · rintro ⟨d, hd, hlt⟩
    obtain ⟨i, hi⟩ := h.mem_deadline_keys.mp hd
    obtain ⟨c, reason, hc, hs, -⟩ := h.waiting hi
    refine ⟨i, c, hc, ?_⟩
    rw [hs]
    exact decide_eq_true hlt
  · rintro ⟨i, c, hc, hs⟩
    have hcl := h.classified i c hc
    cases hst : c.state with
    | coolingDown d reason =>
        rw [hst] at hcl hs
        have hlt : now < d := of_decide_eq_true hs
        -- a cooldown that has been promoted has passed
        rcases hcl with ⟨-, -, hle⟩ | ⟨-, hd⟩
        · exact absurd (Nat.le_trans hle ht) (Nat.not_le_of_lt hlt)
        · exact ⟨d, h.mem_deadline_keys.mpr ⟨i, hd⟩, hlt⟩
    | available => simp [hst, CredentialState.isCoolingDownAt] at hs
    | expired reason => simp [hst, CredentialState.isCoolingDownAt] at hs
    | quotaExhausted reason => simp [hst, CredentialState.isCoolingDownAt] at hs
    | disabled reason => simp [hst, CredentialState.isCoolingDownAt] at hs

/-! ## §3. Selection. -/

/-- A refreshed pool finds a position when there is a credential to find. -/
theorem nextAvailableFrom_isSome (h : WellFormed t p) (ht : t ≤ now) (start : Nat) :
    (p.nextAvailableFrom start now).2.isSome = true ↔
      p.HasCredential (·.isAvailableAt now = true) := by
  constructor
  · intro hsome
    rcases p.nextAvailableFrom_cases start now with ⟨i, hi, -⟩ | hn
    · exact ⟨i, (h.mem_refresh_iff ht i).mp hi⟩
    · rw [hn] at hsome
      cases hsome
  · rintro ⟨i, hi⟩
    have hmem := (h.mem_refresh_iff ht i).mpr hi
    show ((p.refreshAvailableIndices now).availableIndicesFrom start).head?.isSome = true
    rw [List.isSome_head?]
    apply List.ne_nil_of_mem
    exact (KeyPool.mem_availableIndicesFrom _ start i).mpr hmem

/-- The credential whose key is handed out. -/
theorem selectedKeyAt_credential {i : Nat} {c : Credential} (hc : p.credentials[i]? = some c) :
    p.selectedKeyAt i = .ok ⟨p.config.apiBase, c.secret, c.id, c.fingerprint⟩ := by
  unfold KeyPool.selectedKeyAt
  rw [hc]

/-- What `select` hands out is available. -/
theorem select_credential (h : WellFormed t p) (ht : t ≤ now) {key : SelectedKey}
    (hkey : (p.select now).2 = .ok key) :
    ∃ c ∈ p.credentials, c.id = key.credentialId ∧ c.secret = key.key ∧
      c.state.isAvailableAt now = true := by
  unfold KeyPool.select at hkey
  rcases p.nextAvailableFrom_cases p.current now with ⟨i, hi, hn⟩ | hn
  · rw [hn] at hkey
    obtain ⟨c, hc, hs⟩ := (h.mem_refresh_iff ht i).mp hi
    have hc' : (p.refreshAvailableIndices now).credentials[i]? = some c := by
      rw [(KeyPool.sameCredentials_refresh p now).credentials]
      exact hc
    have hkey' : (p.refreshAvailableIndices now).selectedKeyAt i = .ok key := hkey
    rw [selectedKeyAt_credential hc'] at hkey'
    obtain rfl := Except.ok.inj hkey'
    exact ⟨c, List.mem_of_getElem? hc, rfl, rfl, hs⟩
  · rw [hn] at hkey
    cases hkey

theorem select_ok_iff (h : WellFormed t p) (ht : t ≤ now) :
    (∃ key, (p.select now).2 = .ok key) ↔ p.HasCredential (·.isAvailableAt now = true) := by
  constructor
  · rintro ⟨key, hkey⟩
    obtain ⟨c, hc, -, -, hs⟩ := h.select_credential ht hkey
    obtain ⟨i, hi⟩ := List.mem_iff_getElem?.mp hc
    exact ⟨i, c, hi, hs⟩
  · intro hcred
    have hsome := (h.nextAvailableFrom_isSome ht p.current).mpr hcred
    unfold KeyPool.select
    rcases p.nextAvailableFrom_cases p.current now with ⟨i, hi, hn⟩ | hn
    · rw [hn]
      obtain ⟨c, hc, -⟩ := (h.refresh ht).listed hi
      exact ⟨_, selectedKeyAt_credential hc⟩
    · rw [hn] at hsome
      cases hsome

/-- The last resort finds what is available or cools down. -/
theorem selectCoolingDownLastResort_ok_iff (h : WellFormed t p) (ht : t ≤ now) :
    (∃ key, (p.selectCoolingDownLastResort (.at' now)).2 = .ok key) ↔
      p.HasCredential fun s => s.isAvailableAt now = true ∨ s.isCoolingDownAt now = true := by
  have h1 : WellFormed now (p.refreshAvailableIndices now) := h.refresh ht
  have hsame := KeyPool.sameCredentials_refresh p now
  have hsame' := KeyPool.sameCredentials_refresh (p.refreshAvailableIndices now) now
  have h2 := h1.refresh (Nat.le_refl now)
  -- the pool that is searched has the credentials of `p`
  have hcreds : ((p.refreshAvailableIndices now).refreshAvailableIndices now).credentials =
      p.credentials := by
    rw [hsame'.credentials, hsame.credentials]
  constructor
  · rintro ⟨key, hkey⟩
    unfold KeyPool.selectCoolingDownLastResort at hkey
    rcases (p.refreshAvailableIndices now).nextAvailableFrom_cases
      (p.refreshAvailableIndices now).current now with ⟨i, hi, -⟩ | hn
    · obtain ⟨c, hc, hs, -⟩ := h2.listed hi
      rw [hcreds] at hc
      exact ⟨i, c, hc, Or.inl hs⟩
    · simp only [Readings.at', hn] at hkey
      split at hkey
      · next i hi =>
          have hcool := List.find?_some hi
          unfold KeyPool.coolingAt at hcool
          rw [Option.any_eq_true] at hcool
          obtain ⟨d, hd, hlt⟩ := hcool
          obtain ⟨c, reason, hc, hs, -⟩ := h2.waiting hd
          rw [hcreds] at hc
          refine ⟨i, c, hc, Or.inr ?_⟩
          rw [hs]
          exact hlt
      · cases hkey
  · rintro ⟨i, c, hc, hs⟩
    unfold KeyPool.selectCoolingDownLastResort
    rcases (p.refreshAvailableIndices now).nextAvailableFrom_cases
      (p.refreshAvailableIndices now).current now with ⟨j, hj, hn⟩ | hn
    · simp only [Readings.at', hn]
      obtain ⟨c', hc', -⟩ := h2.listed hj
      exact ⟨_, selectedKeyAt_credential hc'⟩
    · -- nothing is available, so the credential cools down and the search meets it
      have hnone : ¬ (p.refreshAvailableIndices now).HasCredential
          (·.isAvailableAt now = true) := by
        rw [← h1.nextAvailableFrom_isSome (Nat.le_refl now)
          (p.refreshAvailableIndices now).current, hn]
        exact Bool.false_ne_true
      have hc' : (p.refreshAvailableIndices now).credentials[i]? = some c := by
        rw [hsame.credentials]
        exact hc
      rcases hs with hs | hs
      · exact absurd ⟨i, c, hc', hs⟩ hnone
      · simp only [Readings.at', hn]
        have hlen : i < ((p.refreshAvailableIndices now).refreshAvailableIndices
            now).credentials.length := by
          rw [hcreds]
          exact (List.getElem?_eq_some_iff.mp hc).1
        have hmem : i ∈ ((p.refreshAvailableIndices now).refreshAvailableIndices now).indicesFrom
            ((p.refreshAvailableIndices now).refreshAvailableIndices now).current := by
          unfold KeyPool.indicesFrom
          rw [List.mem_append, List.mem_range'_1, List.mem_range]
          omega
        have hcool : ((p.refreshAvailableIndices now).refreshAvailableIndices now).coolingAt
            now i = true := by
          have hcl := h2.classified i c (by rw [hcreds]; exact hc)
          unfold KeyPool.coolingAt
          cases hst : c.state with
          | coolingDown d reason =>
              rw [hst] at hcl hs
              have hlt : now < d := of_decide_eq_true hs
              rcases hcl with ⟨-, -, hle⟩ | ⟨-, hd⟩
              · exact absurd hle (Nat.not_le_of_lt hlt)
              · rw [hd]
                exact decide_eq_true hlt
          | available => simp [hst, CredentialState.isCoolingDownAt] at hs
          | expired reason => simp [hst, CredentialState.isCoolingDownAt] at hs
          | quotaExhausted reason => simp [hst, CredentialState.isCoolingDownAt] at hs
          | disabled reason => simp [hst, CredentialState.isCoolingDownAt] at hs
        have hfound : (((p.refreshAvailableIndices now).refreshAvailableIndices now).indicesFrom
            ((p.refreshAvailableIndices now).refreshAvailableIndices now).current).find?
            (((p.refreshAvailableIndices now).refreshAvailableIndices now).coolingAt now) ≠
              none := by
          rw [Ne, List.find?_eq_none]
          intro hall
          exact hall i hmem hcool
        split
        · next j hj =>
            have hjlt := mem_indicesFrom _ (Nat.le_of_lt h2.current_lt)
              (List.mem_of_find?_eq_some hj)
            obtain ⟨c', hc', -⟩ := h2.credentialAt hjlt
            exact ⟨_, selectedKeyAt_credential hc'⟩
        · next hnot => exact absurd hnot hfound

end WellFormed

/-! ## §4. Admission and selection. -/

theorem CredentialState.isAvailableAt_iff {now : Instant} {s : CredentialState} :
    s.isAvailableAt now = true ↔
      s = .available ∨ ∃ d reason, s = .coolingDown d reason ∧ d ≤ now := by
  cases s <;> simp [isAvailableAt]

/-- At one clock value, admission and selection agree.  The check for available credentials
says whether a selection would succeed, and together with the one for credentials that are
cooling down, whether the last resort would; the last resort succeeds just when some credential
is available or cooling down; and what is selected is a key of the pool whose credential is
available, or whose cooldown is over. -/
theorem admission_agrees_with_selection (s : TimedPool) (h : poolSystem.Reachable s)
    (now : Instant) (hnow : s.clock ≤ now) :
    (s.pool.hasAvailableCredentialsReadOnly now = true ↔
      ∃ key, (s.pool.select now).2 = .ok key) ∧
    ((s.pool.hasAvailableCredentialsReadOnly now = true ∨
        s.pool.hasCoolingDownCredentialsReadOnly now = true) ↔
      ∃ key, (s.pool.selectCoolingDownLastResort (.at' now)).2 = .ok key) ∧
    (s.pool.HasCredential (fun state => state = .available ∨
        ∃ d reason, state = .coolingDown d reason) ↔
      ∃ key, (s.pool.selectCoolingDownLastResort (.at' now)).2 = .ok key) ∧
    ∀ key, (s.pool.select now).2 = .ok key →
      ∃ c ∈ s.pool.credentials, c.id = key.credentialId ∧ c.secret = key.key ∧
        (c.state = .available ∨ ∃ d reason, c.state = .coolingDown d reason ∧ d ≤ now) := by
  have hwf := poolSystem_wellFormed h
  -- a credential that cools down either still does or is due
  have hstates : (s.pool.HasCredential fun state => state = .available ∨
      ∃ d reason, state = .coolingDown d reason) ↔
      s.pool.HasCredential fun state =>
        state.isAvailableAt now = true ∨ state.isCoolingDownAt now = true := by
    unfold KeyPool.HasCredential
    constructor
    · rintro ⟨i, c, hc, hs⟩
      refine ⟨i, c, hc, ?_⟩
      rcases hs with hs | ⟨d, reason, hs⟩
      · rw [hs]
        exact Or.inl rfl
      · rw [hs]
        rcases Nat.lt_or_ge now d with hlt | hle
        · exact Or.inr (decide_eq_true hlt)
        · exact Or.inl (decide_eq_true hle)
    · rintro ⟨i, c, hc, hs⟩
      refine ⟨i, c, hc, ?_⟩
      revert hs
      cases c.state <;>
        simp [CredentialState.isAvailableAt, CredentialState.isCoolingDownAt]
  refine ⟨?_, ?_, ?_, ?_⟩
  · rw [hwf.hasAvailable_iff hnow, hwf.select_ok_iff hnow]
  · rw [hwf.hasAvailable_iff hnow, hwf.hasCoolingDown_iff hnow,
      hwf.selectCoolingDownLastResort_ok_iff hnow]
    constructor
    · rintro (⟨i, c, hc, hs⟩ | ⟨i, c, hc, hs⟩)
      · exact ⟨i, c, hc, Or.inl hs⟩
      · exact ⟨i, c, hc, Or.inr hs⟩
    · rintro ⟨i, c, hc, hs | hs⟩
      · exact Or.inl ⟨i, c, hc, hs⟩
      · exact Or.inr ⟨i, c, hc, hs⟩
  · rw [hstates, hwf.selectCoolingDownLastResort_ok_iff hnow]
  · intro key hkey
    obtain ⟨c, hc, hid, hsecret, hs⟩ := hwf.select_credential hnow hkey
    exact ⟨c, hc, hid, hsecret, CredentialState.isAvailableAt_iff.mp hs⟩

/-- The first credential waits until 9; at 9 both views find it again. -/
theorem admission_agrees_with_selection_cooled :
    ((pairStart.after (.applyCredentialCooldownUntil firstId 9 "429") (.at'
        1)).pool.hasAvailableCredentialsReadOnly 9 = true ↔
      ∃ key, ((pairStart.after (.applyCredentialCooldownUntil firstId 9 "429") (.at'
        1)).pool.select 9).2 = .ok key) ∧
    (pairStart.after (.applyCredentialCooldownUntil firstId 9 "429") (.at'
        1)).pool.hasAvailableCredentialsReadOnly 9 = true := by
  have h := admission_agrees_with_selection
    (pairStart.after (.applyCredentialCooldownUntil firstId 9 "429") (.at' 1))
    ((TransitionSystem.Reachable.init pairStart_init).step
      (poolSystem_step pairStart _ (.at' 1) (by decide)))
    9 (by decide)
  exact ⟨h.1, rfl⟩

end OneAiKey
