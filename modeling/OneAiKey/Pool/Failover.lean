/-
  OneAiKey.Pool.Failover — the retry candidates of a pool and the order in which the
  failure reports move its sticky pointer (`retry_candidates_from_current` and the
  three reports of `src/pool.rs`).

  At one clock value all of them look at the same list: the positions of the
  credentials that are available then.  The candidates are the walk around that list
  from the current position; a report takes the current position out of it and goes
  to the next one.

  Main results:
    * `toList_refresh` — what a refresh lists depends on the credentials only;
    * `FailureReport.apply_standing` — one report is one step of the walk;
    * `retry_candidates_predict_failover` — the candidates are the failover order.
-/
import OneAiKey.Lib.CyclicOrder
import OneAiKey.Pool.Admission

namespace OneAiKey

open Std
open CyclicOrder (after)

/-! ## §1. What can be selected at a clock value. -/

namespace KeyPool

/-- The positions of the credentials that are available, in order. -/
def selectableIndices (p : KeyPool) (now : Instant) : List Nat :=
  (List.range p.credentials.length).filter fun i => p.stateAt i (·.isAvailableAt now)

/-- The credential that the sticky pointer is at. -/
def currentId (p : KeyPool) : Option CredentialId :=
  p.credentials[p.current]?.map (·.id)

theorem stateAt_of_getElem? {p : KeyPool} {i : Nat} {c : Credential}
    (hc : p.credentials[i]? = some c) (test : CredentialState → Bool) :
    p.stateAt i test = test c.state := by
  unfold stateAt
  rw [hc]
  rfl

/-- A position can be selected just when its credential is available. -/
theorem mem_selectableIndices {p : KeyPool} {now : Instant} {i : Nat} :
    i ∈ p.selectableIndices now ↔
      ∃ c, p.credentials[i]? = some c ∧ c.state.isAvailableAt now = true := by
  unfold selectableIndices stateAt
  rw [List.mem_filter, List.mem_range]
  constructor
  · intro h
    have hc : p.credentials[i]? = some p.credentials[i] := List.getElem?_eq_getElem h.1
    rw [hc] at h
    exact ⟨_, hc, h.2⟩
  · intro h
    obtain ⟨c, hc, hs⟩ := h
    refine ⟨(List.getElem?_eq_some_iff.mp hc).1, ?_⟩
    rw [hc]
    exact hs

/-- The positions come in the order of the pool. -/
theorem sorted_selectableIndices (p : KeyPool) (now : Instant) :
    (p.selectableIndices now).Pairwise (· < ·) :=
  List.pairwise_lt_range.filter _

theorem lt_of_mem_selectableIndices {p : KeyPool} {now : Instant} {i : Nat}
    (hi : i ∈ p.selectableIndices now) : i < p.credentials.length := by
  obtain ⟨c, hc, -⟩ := mem_selectableIndices.mp hi
  exact (List.getElem?_eq_some_iff.mp hc).1

theorem selectableIndices_congr {p p' : KeyPool} (h : p'.credentials = p.credentials)
    (now : Instant) : p'.selectableIndices now = p.selectableIndices now := by
  unfold selectableIndices stateAt
  rw [h]

/-- Marking the credential at `i` with a state that is not available takes `i` out. -/
theorem selectableIndices_modify {p p' : KeyPool} {i : Nat} {now : Instant}
    {mark : Credential → Credential} (h : p'.credentials = p.credentials.modify i mark)
    (hmark : ∀ c, (mark c).state.isAvailableAt now = false) :
    p'.selectableIndices now = (p.selectableIndices now).filter (· ≠ i) := by
  have hstate : ∀ j, p'.stateAt j (·.isAvailableAt now) =
      (p.stateAt j (·.isAvailableAt now) && decide (j ≠ i)) := by
    intro j
    unfold stateAt
    rw [h, List.getElem?_modify]
    cases p.credentials[j]? with
    | none => rfl
    | some c =>
        by_cases hj : i = j
        · simp [hj, hmark]
        · simp [hj, Ne.symm hj]
  have hlen : p'.credentials.length = p.credentials.length := by
    rw [h, List.length_modify]
  unfold selectableIndices
  rw [List.filter_filter, hlen]
  congr 1
  funext j
  rw [hstate, Bool.and_comm]

end KeyPool

namespace WellFormed

variable {t now : Instant} {p : KeyPool}

/-- What a refresh lists depends on the credentials only. -/
theorem toList_refresh (h : WellFormed t p) (ht : t ≤ now) :
    (p.refreshAvailableIndices now).availableIndices.toList = p.selectableIndices now := by
  have hsorted : (p.refreshAvailableIndices now).availableIndices.toList.Pairwise (· < ·) :=
    TreeSet.ordered_toList.imp fun hlt => Nat.compare_eq_lt.mp hlt
  refine hsorted.eq_of_mem_iff (p.sorted_selectableIndices now) ?_
  intro i
  rw [TreeSet.mem_toList, h.mem_refresh_iff ht, KeyPool.mem_selectableIndices]

/-- The positions behind the current one, cyclically, are the walk from it. -/
theorem availableIndicesFrom_refresh (h : WellFormed t p) (ht : t ≤ now) :
    (p.refreshAvailableIndices now).availableIndicesFrom
        ((p.current + 1) % p.credentials.length) =
      after (p.selectableIndices now) p.current := by
  have hall : ∀ i ∈ p.selectableIndices now, i < p.credentials.length :=
    fun i hi => KeyPool.lt_of_mem_selectableIndices hi
  have hcurrent := h.current_lt
  unfold KeyPool.availableIndicesFrom after
  rw [h.toList_refresh ht]
  by_cases hlast : p.current + 1 = p.credentials.length
  · -- behind the last position the list begins anew
    rw [hlast, Nat.mod_self]
    have h1 : (p.selectableIndices now).filter (0 ≤ ·) = p.selectableIndices now := by simp
    have h2 : (p.selectableIndices now).filter (· < 0) = [] := by simp
    have h3 : (p.selectableIndices now).filter (p.current < ·) = [] := by
      rw [List.filter_eq_nil_iff]
      intro i hi
      have := hall i hi
      simp only [decide_eq_true_eq]
      omega
    have h4 : (p.selectableIndices now).filter (· ≤ p.current) = p.selectableIndices now := by
      rw [List.filter_eq_self]
      intro i hi
      have := hall i hi
      simp only [decide_eq_true_eq]
      omega
    rw [h1, h2, h3, h4, List.append_nil, List.nil_append]
  -- elsewhere the list begins behind the current position and ends at it
  · rw [Nat.mod_eq_of_lt (by omega)]
    congr 1
    apply List.filter_congr
    intro i _
    simp only [decide_eq_decide]
    omega

end WellFormed

/-! ## §2. One failure report. -/

/-- The reports that exclude a credential. -/
inductive FailureReport where
  | expired (reason : String)
  | quotaExhausted (reason : String)
  | cooldownUntil (untilInstant : Instant) (reason : String)
  deriving DecidableEq, Repr

namespace FailureReport

/-- The mutator that makes the report. -/
def apply (report : FailureReport) (p : KeyPool) (credentialId : CredentialId) (now : Instant) :
    KeyPool × SwitchOutcome :=
  match report with
  | expired reason => p.applyCredentialExpired credentialId reason now
  | quotaExhausted reason => p.applyCredentialQuotaExhausted credentialId reason now
  | cooldownUntil untilInstant reason =>
      p.applyCredentialCooldownUntil credentialId untilInstant reason now

/-- A cooldown ends after `now`. -/
def EndsAfter (now : Instant) : FailureReport → Prop
  | expired _ | quotaExhausted _ => True
  | cooldownUntil untilInstant _ => now < untilInstant

instance (now : Instant) (report : FailureReport) : Decidable (report.EndsAfter now) := by
  cases report <;> unfold EndsAfter <;> infer_instance

/-- The state that the report gives its credential. -/
def mark (report : FailureReport) (c : Credential) : Credential :=
  match report with
  | expired reason => c.markExpired reason
  | quotaExhausted reason => c.markQuotaExhausted reason
  | cooldownUntil untilInstant reason => c.markCoolingDown untilInstant reason

/-- The pool before it looks for the next position. -/
def marked (report : FailureReport) (p : KeyPool) (index : Nat) : KeyPool :=
  match report with
  | expired _ | quotaExhausted _ => (p.modifyCredential index report.mark).markIndexUnavailable index
  | cooldownUntil untilInstant _ =>
      (p.modifyCredential index report.mark).markIndexCoolingDown index untilInstant

variable {now : Instant} {p : KeyPool} {c : Credential}

/-- A credential is not available right after its failure was reported. -/
theorem mark_not_available {report : FailureReport} (hends : report.EndsAfter now)
    (c : Credential) : (report.mark c).state.isAvailableAt now = false := by
  cases report with
  | expired reason => rfl
  | quotaExhausted reason => rfl
  | cooldownUntil untilInstant reason =>
      have hlt : ¬ untilInstant ≤ now := Nat.not_le_of_lt hends
      simp [mark, Credential.markCoolingDown, CredentialState.isAvailableAt, hlt]

theorem marked_sameCredentials (report : FailureReport) (p : KeyPool) (index : Nat) :
    KeyPool.SameCredentials (p.modifyCredential index report.mark) (report.marked p index) := by
  cases report with
  | expired reason => exact KeyPool.sameCredentials_markIndexUnavailable _ index
  | quotaExhausted reason => exact KeyPool.sameCredentials_markIndexUnavailable _ index
  | cooldownUntil untilInstant reason =>
      exact KeyPool.sameCredentials_markIndexCoolingDown _ index untilInstant

/-- A report keeps the pool well formed. -/
theorem marked_wellFormed (report : FailureReport) {i : Nat} (h : WellFormed now p)
    (hc : p.credentials[i]? = some c) : WellFormed now (report.marked p i) := by
  cases report with
  | expired reason => exact h.markExcluded hc rfl fun _ _ hgone => hgone
  | quotaExhausted reason => exact h.markExcluded hc rfl fun _ _ hgone => hgone
  | cooldownUntil untilInstant reason => exact h.markCoolingDown hc untilInstant reason

/-- A report about the current credential, which is available, marks it and looks for the
next one. -/
theorem apply_current (report : FailureReport) (h : WellFormed now p)
    (hc : p.credentials[p.current]? = some c) (hs : c.state.isAvailableAt now = true) :
    report.apply p c.id now = (report.marked p p.current).switchAwayFrom p.current now := by
  have hindex : p.indexForId c.id = some p.current := (h.index_iff c.id p.current).mpr ⟨c, hc, rfl⟩
  have hin : ¬ p.credentials.length ≤ p.current := Nat.not_le_of_lt h.current_lt
  have henabled : p.stateAt p.current (·.isDisabled) = false := by
    rw [KeyPool.stateAt_of_getElem? hc]
    exact CredentialState.not_disabled_of_isAvailableAt hs
  cases report with
  | expired reason =>
      show p.applyCredentialExpired c.id reason now = _
      unfold KeyPool.applyCredentialExpired KeyPool.reportExpiredFailureById
      rw [hindex]
      dsimp only
      unfold KeyPool.reportExpiredFailure
      rw [if_neg hin, if_neg (by rw [henabled]; exact Bool.false_ne_true)]
      -- the mark leaves the cursor, so the report is about the current credential
      have hcurrent := (marked_sameCredentials (expired reason) p p.current).current
      have hstay : ¬ p.current ≠ (marked (expired reason) p p.current).current := by
        rw [hcurrent]
        exact fun hne => hne rfl
      exact if_neg hstay
  | quotaExhausted reason =>
      show p.applyCredentialQuotaExhausted c.id reason now = _
      unfold KeyPool.applyCredentialQuotaExhausted
      rw [hindex]
      dsimp only
      rw [if_neg (by rw [henabled]; exact Bool.false_ne_true)]
      have hcurrent := (marked_sameCredentials (quotaExhausted reason) p p.current).current
      have hstay : p.current = (marked (quotaExhausted reason) p p.current).current := by
        rw [hcurrent]
        rfl
      exact if_pos hstay
  | cooldownUntil untilInstant reason =>
      show p.applyCredentialCooldownUntil c.id untilInstant reason now = _
      unfold KeyPool.applyCredentialCooldownUntil
      rw [hindex]
      dsimp only
      unfold KeyPool.reportSwitchableFailureUntil
      rw [if_neg hin, if_neg (by rw [henabled]; exact Bool.false_ne_true),
        if_neg (fun hne => hne rfl)]
      rfl

end FailureReport

/-! ## §3. The walk. -/

/-- The pointer stands at an available credential, and the walk from there meets the
positions `rest` and then comes back. -/
structure Standing (now : Instant) (p : KeyPool) (rest : List Nat) : Prop where
  wellFormed : WellFormed now p
  walk : after (p.selectableIndices now) p.current = rest ++ [p.current]

namespace Standing

variable {t now : Instant} {p : KeyPool} {rest : List Nat}

theorem current_mem (h : Standing now p rest) : p.current ∈ p.selectableIndices now := by
  rw [← CyclicOrder.mem_after, h.walk]
  simp

/-- The walk over the pool visits no position twice. -/
theorem nodup_walk (h : Standing now p rest) : (rest ++ [p.current]).Nodup := by
  rw [← h.walk]
  exact CyclicOrder.nodup_after (p.sorted_selectableIndices now).nodup

theorem current_notMem (h : Standing now p rest) : p.current ∉ rest := by
  intro hmem
  exact (List.nodup_append.mp h.nodup_walk).2.2 _ hmem _ (List.mem_singleton.mpr rfl) rfl

/-- The positions that the walk meets are the available ones. -/
theorem mem_rest_iff (h : Standing now p rest) {i : Nat} :
    i ∈ rest ↔ i ∈ p.selectableIndices now ∧ i ≠ p.current := by
  rw [← @CyclicOrder.mem_after Nat _ (p.selectableIndices now) p.current i, h.walk, List.mem_append,
    List.mem_singleton]
  constructor
  · intro hi
    exact ⟨Or.inl hi, fun heq => h.current_notMem (heq ▸ hi)⟩
  · intro hi
    exact hi.1.resolve_right hi.2

/-- After `select` has handed out a credential. -/
theorem of_select {selected : SelectedKey} {p' : KeyPool} (h : WellFormed t p) (ht : t ≤ now)
    (hselect : p.select now = (p', .ok selected)) :
    (∃ rest, Standing now p' rest) ∧ p'.currentId = some selected.credentialId := by
  have hwf := h.select ht
  unfold KeyPool.select at hselect hwf
  rcases p.nextAvailableFrom_cases p.current now with ⟨i, hi, hn⟩ | hn
  · rw [hn] at hselect hwf
    obtain ⟨hp', hkey⟩ := Prod.mk.inj hselect
    dsimp only at hwf hkey
    rw [hp'] at hwf
    have hcredentials : p'.credentials = p.credentials := by
      rw [← hp']
      exact (KeyPool.sameCredentials_refresh p now).credentials
    have hcurrent : p'.current = i := by
      rw [← hp']
    have hmem : p'.current ∈ p'.selectableIndices now := by
      rw [hcurrent, KeyPool.mem_selectableIndices, hcredentials]
      exact (h.mem_refresh_iff ht i).mp hi
    refine ⟨⟨_, hwf, CyclicOrder.after_self (p'.sorted_selectableIndices now) hmem⟩, ?_⟩
    -- the key that was handed out is that of the current credential
    obtain ⟨c, hc, -⟩ := KeyPool.mem_selectableIndices.mp hmem
    have hci : (p.refreshAvailableIndices now).credentials[i]? = some c := by
      rw [(KeyPool.sameCredentials_refresh p now).credentials, ← hcredentials, ← hcurrent]
      exact hc
    rw [WellFormed.selectedKeyAt_credential hci] at hkey
    obtain rfl := Except.ok.inj hkey
    unfold KeyPool.currentId
    rw [hc]
    rfl
  · rw [hn] at hselect
    obtain ⟨-, hkey⟩ := Prod.mk.inj hselect
    cases hkey

/-- The candidates are the credentials that the walk meets, up to the limit. -/
theorem retryCandidates (h : Standing now p rest) (limit : Nat) :
    (p.retryCandidatesFromCurrent limit now).2 = (rest.take limit).filterMap p.candidateAt ∧
    Standing now (p.retryCandidatesFromCurrent limit now).1 rest ∧
    KeyPool.SameCredentials p (p.retryCandidatesFromCurrent limit now).1 := by
  have hnonempty : p.credentials ≠ [] := List.length_pos_iff.mp h.wellFormed.length_pos
  unfold KeyPool.retryCandidatesFromCurrent
  -- nothing is asked for
  by_cases hlimit : limit = 0
  · rw [if_pos (Or.inl hlimit), hlimit]
    exact ⟨rfl, h, .refl p⟩
  · rw [if_neg (fun hor => hor.elim hlimit hnonempty)]
    have hsame := KeyPool.sameCredentials_refresh p now
    have hcandidateAt : (p.refreshAvailableIndices now).candidateAt = p.candidateAt := by
      funext i
      unfold KeyPool.candidateAt
      rw [hsame.credentials]
    refine ⟨?_, ⟨h.wellFormed.refresh (Nat.le_refl now), ?_⟩, hsame⟩
    · dsimp only
      rw [hsame.current, hsame.credentials, h.wellFormed.availableIndicesFrom_refresh (Nat.le_refl now),
        h.walk, hcandidateAt]
      congr 2
      -- the walk ends with the current credential, which is left out
      have hlast : [p.current].filter (· ≠ p.current) = [] := by simp
      rw [List.filter_append, hlast, List.append_nil, List.filter_eq_self]
      intro i hi
      have hne : i ≠ p.current := fun heq => h.current_notMem (heq ▸ hi)
      simpa using hne
    · rw [KeyPool.selectableIndices_congr hsame.credentials, hsame.current]
      exact h.walk

end Standing

/-- One report about the current credential is one step of the walk. -/
theorem FailureReport.apply_standing {now : Instant} {p : KeyPool} {next : Nat} {rest : List Nat}
    {c : Credential} (h : Standing now p (next :: rest)) (report : FailureReport)
    (hends : report.EndsAfter now) (hc : p.credentials[p.current]? = some c) :
    (report.apply p c.id now).2 = .switched ∧
    Standing now (report.apply p c.id now).1 rest ∧
    (report.apply p c.id now).1.current = next ∧
    (report.apply p c.id now).1.credentials = p.credentials.modify p.current report.mark := by
  obtain ⟨c', hc', hs⟩ := KeyPool.mem_selectableIndices.mp h.current_mem
  rw [hc] at hc'
  obtain rfl := Option.some.inj hc'
  rw [report.apply_current h.wellFormed hc hs]
  have hsame := report.marked_sameCredentials p p.current
  have hwf := report.marked_wellFormed h.wellFormed hc
  have hselectable := KeyPool.selectableIndices_modify hsame.credentials
    (report.mark_not_available hends)
  have hcurrent : (report.marked p p.current).current = p.current := hsame.current
  -- the walk goes on without the failed position
  have hwalk : after ((report.marked p p.current).selectableIndices now) next = rest ++ [next] := by
    rw [hselectable]
    exact CyclicOrder.after_removed (p.sorted_selectableIndices now) h.walk
  have hfound : (report.marked p p.current).nextAvailableFrom
      (((report.marked p p.current).current + 1) % (report.marked p p.current).credentials.length)
      now = ((report.marked p p.current).refreshAvailableIndices now, some next) := by
    unfold KeyPool.nextAvailableFrom
    dsimp only
    rw [hwf.availableIndicesFrom_refresh (Nat.le_refl now), hselectable, hcurrent,
      CyclicOrder.after_filter, h.walk]
    have hne : next ≠ p.current := fun heq => h.current_notMem (heq ▸ List.mem_cons_self)
    simp [hne]
  have hne : next ≠ p.current := fun heq => h.current_notMem (heq ▸ List.mem_cons_self)
  have hrefreshed := KeyPool.sameCredentials_refresh (report.marked p p.current) now
  unfold KeyPool.switchAwayFrom
  rw [hfound]
  dsimp only
  rw [if_pos hne]
  refine ⟨rfl, ⟨?_, ?_⟩, rfl, ?_⟩
  · refine (hwf.refresh (Nat.le_refl now)).setCurrent ?_
    have hmem : next ∈ (report.marked p p.current).selectableIndices now := by
      rw [← CyclicOrder.mem_after, hwalk]
      simp
    rw [hrefreshed.credentials]
    exact KeyPool.lt_of_mem_selectableIndices hmem
  · rw [← hwalk]
    exact congrArg (after · next) (KeyPool.selectableIndices_congr hrefreshed.credentials now)
  · exact hrefreshed.credentials.trans hsame.credentials

/-! ## §4. Failing in turn. -/

namespace KeyPool

/-- Report the failures in turn: what each did, and where the pointer was then. -/
def failInTurn (p : KeyPool) (now : Instant) :
    List (CredentialId × FailureReport) → List (SwitchOutcome × Option CredentialId)
  | [] => []
  | (credentialId, report) :: failures =>
      let out := report.apply p credentialId now
      (out.2, out.1.currentId) :: out.1.failInTurn now failures

/-- The id of the credential at position `index`. -/
def idAt (p : KeyPool) (index : Nat) : Option CredentialId :=
  p.credentials[index]?.map (·.id)

theorem idAt_modify {p p' : KeyPool} {i : Nat} {mark : Credential → Credential}
    (h : p'.credentials = p.credentials.modify i mark) (hid : ∀ c, (mark c).id = c.id) :
    p'.idAt = p.idAt := by
  funext j
  unfold idAt
  rw [h, List.getElem?_modify]
  cases p.credentials[j]? with
  | none => rfl
  | some c =>
      by_cases hj : i = j
      · simp [hj, hid]
      · simp [hj]

/-- The candidates at positions of the pool. -/
theorem candidateIds {p : KeyPool} {indices : List Nat}
    (h : ∀ i ∈ indices, i < p.credentials.length) :
    ((indices.filterMap p.candidateAt).map (·.credentialId)).map some = indices.map p.idAt := by
  induction indices with
  | nil => rfl
  | cons i indices ih =>
      obtain ⟨c, hc⟩ : ∃ c, p.credentials[i]? = some c :=
        ⟨_, List.getElem?_eq_getElem (h i List.mem_cons_self)⟩
      have hhead : p.candidateAt i = some ⟨c.id, c.fingerprint⟩ := by
        unfold candidateAt
        rw [hc]
        rfl
      rw [List.filterMap_cons_some hhead, List.map_cons, List.map_cons, List.map_cons,
        ih fun j hj => h j (List.mem_cons_of_mem _ hj)]
      congr 1
      unfold idAt
      rw [hc]
      rfl

end KeyPool

theorem FailureReport.mark_id (report : FailureReport) (c : Credential) :
    (report.mark c).id = c.id := by
  cases report <;> rfl

/-- Reports about the current credential and then about each one that the walk meets move
the pointer along the walk. -/
theorem failInTurn_standing {now : Instant} (reports : List FailureReport) :
    ∀ {p : KeyPool} {rest : List Nat} {current : CredentialId} {names : List CredentialId},
      Standing now p rest → p.currentId = some current →
      names.map some <+: rest.map p.idAt → reports.length ≤ names.length →
      (∀ report ∈ reports, report.EndsAfter now) →
      p.failInTurn now ((current :: names).zip reports) =
        (names.take reports.length).map fun credentialId => (.switched, some credentialId) := by
  induction reports with
  | nil =>
      intro p rest current names _ _ _ _ _
      rfl
  | cons report reports ih =>
      intro p rest current names h hcurrent hnames hlen hends
      cases names with
      | nil => cases hlen
      | cons name names =>
          cases rest with
          | nil => exact absurd (List.prefix_nil.mp hnames) (by simp)
          | cons next rest =>
              rw [List.map_cons, List.map_cons, List.cons_prefix_cons] at hnames
              obtain ⟨hname, hnames⟩ := hnames
              obtain ⟨c, hc, hid⟩ := Option.map_eq_some_iff.mp hcurrent
              rw [← hid]
              obtain ⟨hswitched, hstanding, hnext, hcredentials⟩ := FailureReport.apply_standing h
                report (hends report List.mem_cons_self) hc
              have hidAt := KeyPool.idAt_modify hcredentials report.mark_id
              -- the pool switched to the next position that stands, as the list has it
              have hthere : (report.apply p c.id now).1.currentId = some name := by
                show (report.apply p c.id now).1.idAt (report.apply p c.id now).1.current = _
                rw [hidAt, hnext, ← hname]
              have hrest := ih hstanding hthere (by rw [hidAt]; exact hnames)
                (Nat.le_of_succ_le_succ hlen)
                fun other hmem => hends other (List.mem_cons_of_mem _ hmem)
              show (_, _) :: (report.apply p c.id now).1.failInTurn now
                ((name :: names).zip reports) = _
              rw [hswitched, hthere, hrest]
              rfl

/-- The candidates that are taken after `select` has handed out `current` are the order in
which failures move the pointer, and they are the other credentials that can be selected, as
far as the limit lets them. -/
structure PredictsFailover (now : Instant) (p : KeyPool) (current : CredentialId) (limit : Nat)
    (candidates : List CredentialCandidate) : Prop where
  order : ∀ reports : List FailureReport, reports.length ≤ candidates.length →
    (∀ report ∈ reports, report.EndsAfter now) →
    p.failInTurn now ((current :: candidates.map (·.credentialId)).zip reports) =
      ((candidates.map (·.credentialId)).take reports.length).map
        fun credentialId => (.switched, some credentialId)
  nodup : (candidates.map (·.credentialId)).Nodup
  current_notMem : current ∉ candidates.map (·.credentialId)
  selectable : ∀ candidate ∈ candidates, ∃ c ∈ p.credentials,
    c.id = candidate.credentialId ∧ c.fingerprint = candidate.fingerprint ∧
      c.state.isAvailableAt now = true
  limited : candidates.length ≤ limit
  complete : candidates.length < limit → ∀ c ∈ p.credentials,
    c.state.isAvailableAt now = true → c.id ≠ current →
    c.id ∈ candidates.map (·.credentialId)

/-- Where the rest of the walk is known, its first positions are the candidates, and each is what
the next failure leads to. -/
theorem Standing.predictsFailover {now : Instant} {p : KeyPool} {rest : List Nat}
    {current : CredentialId} (h : Standing now p rest) (hcurrent : p.currentId = some current)
    (limit : Nat) :
    PredictsFailover now p current limit ((rest.take limit).filterMap p.candidateAt) := by
  have hin : ∀ i ∈ rest, i < p.credentials.length := fun i hi =>
    KeyPool.lt_of_mem_selectableIndices (h.mem_rest_iff.mp hi).1
  have hids := @KeyPool.candidateIds p (rest.take limit) fun i hi =>
    hin i (List.mem_of_mem_take hi)
  have hlen : ((rest.take limit).filterMap p.candidateAt).length = (rest.take limit).length := by
    have := congrArg List.length hids
    simpa only [List.length_map] using this
  -- an id belongs to one position only
  have hinj : ∀ i ∈ rest ++ [p.current], ∀ j ∈ rest ++ [p.current],
      p.idAt i = p.idAt j → i = j := by
    intro i hi j hj heq
    rw [← h.walk, CyclicOrder.mem_after, KeyPool.mem_selectableIndices] at hi hj
    obtain ⟨c, hc, -⟩ := hi
    obtain ⟨c', hc', -⟩ := hj
    unfold KeyPool.idAt at heq
    rw [hc, hc'] at heq
    exact h.wellFormed.index_unique hc hc' (Option.some.inj heq)
  have hmem : ∀ {credentialId : CredentialId},
      credentialId ∈ ((rest.take limit).filterMap p.candidateAt).map (·.credentialId) ↔
        ∃ i ∈ rest.take limit, p.idAt i = some credentialId := by
    intro credentialId
    rw [← List.mem_map, ← hids]
    simp
  refine ⟨?_, ?_, ?_, ?_, ?_, ?_⟩
  · intro reports hreports hends
    refine failInTurn_standing reports h hcurrent ?_ ?_ hends
    · rw [hids]
      exact (List.take_prefix limit rest).map p.idAt
    · rw [List.length_map]
      exact hreports
  · apply List.Nodup.of_map some
    rw [hids]
    refine List.Nodup.map_on ?_ (h.nodup_walk.of_append_left.sublist (List.take_sublist _ _))
    intro i hi j hj heq
    exact hinj i (List.mem_append_left _ (List.mem_of_mem_take hi)) j
      (List.mem_append_left _ (List.mem_of_mem_take hj)) heq
  · intro hcandidate
    obtain ⟨i, hi, hid⟩ := hmem.mp hcandidate
    have hsame : p.idAt i = p.idAt p.current := hid.trans hcurrent.symm
    have heq := hinj i (List.mem_append_left _ (List.mem_of_mem_take hi)) p.current (by simp) hsame
    exact h.current_notMem (heq ▸ List.mem_of_mem_take hi)
  · intro candidate hcandidate
    obtain ⟨i, hi, hat⟩ := List.mem_filterMap.mp hcandidate
    obtain ⟨c, hc, hs⟩ := KeyPool.mem_selectableIndices.mp
      (h.mem_rest_iff.mp (List.mem_of_mem_take hi)).1
    unfold KeyPool.candidateAt at hat
    rw [hc] at hat
    obtain rfl := Option.some.inj hat
    exact ⟨c, List.mem_of_getElem? hc, rfl, rfl, hs⟩
  · rw [hlen, List.length_take]
    exact Nat.min_le_left _ _
  · intro hshort c hc hs hne
    -- nothing was cut off
    have hwhole : rest.take limit = rest := by
      rw [hlen, List.length_take] at hshort
      exact List.take_of_length_le (by omega)
    obtain ⟨i, hi⟩ := List.mem_iff_getElem?.mp hc
    refine hmem.mpr ⟨i, ?_, ?_⟩
    · rw [hwhole, h.mem_rest_iff]
      refine ⟨KeyPool.mem_selectableIndices.mpr ⟨c, hi, hs⟩, ?_⟩
      intro heq
      unfold KeyPool.currentId at hcurrent
      rw [← heq, hi] at hcurrent
      exact hne (Option.some.inj hcurrent)
    · unfold KeyPool.idAt
      rw [hi]
      rfl

/-- In every reachable pool, at every clock value not before the last one: the candidates
that are taken right after `select` predict the failover. -/
theorem retry_candidates_predict_failover (s : TimedPool) (h : poolSystem.Reachable s)
    (now : Instant) (ht : s.clock ≤ now) (selected : SelectedKey) (p : KeyPool)
    (hselect : s.pool.select now = (p, .ok selected)) (limit : Nat) :
    PredictsFailover now (p.retryCandidatesFromCurrent limit now).1 selected.credentialId limit
      (p.retryCandidatesFromCurrent limit now).2 := by
  obtain ⟨⟨rest, hstanding⟩, hcurrent⟩ := Standing.of_select (poolSystem_wellFormed h) ht hselect
  obtain ⟨hcandidates, hstanding', hsame⟩ := hstanding.retryCandidates limit
  have hcandidateAt : p.candidateAt = (p.retryCandidatesFromCurrent limit now).1.candidateAt := by
    funext i
    unfold KeyPool.candidateAt
    rw [hsame.credentials]
  rw [hcandidates, hcandidateAt]
  refine hstanding'.predictsFailover ?_ limit
  unfold KeyPool.currentId
  rw [hsame.credentials, hsame.current]
  exact hcurrent

/-- The pair's first credential is handed out, and the second is its only candidate. -/
theorem retry_candidates_predict_failover_pair :
    let p := (pairStart.pool.select 1).1
    PredictsFailover 1 (p.retryCandidatesFromCurrent 2 1).1 firstId 2
      (p.retryCandidatesFromCurrent 2 1).2 ∧
    (p.retryCandidatesFromCurrent 2 1).2.length = 1 := by
  intro p
  have hselect : pairStart.pool.select 1 =
      (p, .ok ⟨"https://api.example.com/v1", "k1", firstId,
        (Credential.withSource "ns" "k1" .unknown).fingerprint⟩) := rfl
  exact ⟨retry_candidates_predict_failover pairStart (.init pairStart_init) 1 (by decide) _ p
    hselect 2, rfl⟩

end OneAiKey
