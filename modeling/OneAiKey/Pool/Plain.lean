/-
  OneAiKey.Pool.Plain — the pool without its indices, and that nobody can tell
  the difference.

  `PlainPool` is what the pool is for: credentials in a row and a sticky pointer.
  Each operation scans the row.  The indices of `KeyPool` are an optimisation of
  these scans, and `KeyPool.plain` forgets them.

  Main results:
    * `WellFormed.nextAvailableFrom_eq` — the index finds what the scan finds;
    * `PoolOp.exec_plain` — one operation on a well-formed pool changes the plain
      pool, and returns, what the scanning operation does;
    * `pool_behaves_as_plain` — the two have the same runs.
-/
import OneAiKey.Pool.Admission
import OneAiKey.Pool.Failover
import OneAiKey.Lib.Simulation

namespace OneAiKey

open Std

/-! ## §1. The plain pool. -/

/-- A row of credentials and the position that was selected last. -/
structure PlainPool where
  config : KeyPoolConfig
  credentials : List Credential
  current : Nat

namespace PlainPool

/-- The error of a scan that finds nothing. -/
def failure (p : PlainPool) (rest : String) : Except PoolFailure SelectedKey :=
  .error (.error ("pool " ++ p.config.name ++ rest))

/-- The positions from `start` on, then the ones before it. -/
def around (p : PlainPool) (start : Nat) : List Nat :=
  (List.range p.credentials.length).filter (start ≤ ·) ++
    (List.range p.credentials.length).filter (· < start)

/-- Does the state of the credential at the index pass the test?  Where there is no credential,
none does. -/
def stateAt (p : PlainPool) (index : Nat) (test : CredentialState → Bool) : Bool :=
  p.credentials[index]?.any fun credential => test credential.state

/-- May position `index` be selected at `now`? -/
def usable (p : PlainPool) (now : Instant) (index : Nat) : Bool :=
  p.stateAt index (·.isAvailableAt now)

/-- The first usable credential from `start` on, around the end of the list. -/
def nextUsable (p : PlainPool) (start : Nat) (now : Instant) : Option Nat :=
  (p.around start).find? (p.usable now)

/-- Where the credential with this id stands. -/
def positionOf (p : PlainPool) (credentialId : CredentialId) : Option Nat :=
  p.credentials.findIdx? (·.id = credentialId)

/-- Change one credential. -/
def mark (p : PlainPool) (index : Nat) (f : Credential → Credential) : PlainPool :=
  { p with credentials := p.credentials.modify index f }

/-- The key of a credential, with what a request needs to send it. -/
def keyAt (p : PlainPool) (index : Nat) : Except PoolFailure SelectedKey :=
  match p.credentials[index]? with
  | none => .error .indexOutOfBounds
  | some credential => .ok {
      apiBase := p.config.apiBase
      key := credential.secret
      credentialId := credential.id
      credentialFingerprint := credential.fingerprint }

/-- Make `index` the current position and hand out its key. -/
def take (p : PlainPool) (index : Nat) : PlainPool × Except PoolFailure SelectedKey :=
  ({ p with current := index }, p.keyAt index)

/-- Keep the current credential while it is usable, else move on to the next that is. -/
def select (p : PlainPool) (now : Instant) : PlainPool × Except PoolFailure SelectedKey :=
  match p.nextUsable p.current now with
  | none => (p, p.failure " has no available credentials")
  | some index => p.take index

/-- Take one credential, if it can be used now. -/
def selectCredentialById (p : PlainPool) (credentialId : CredentialId) (now : Instant) :
    PlainPool × Except PoolFailure SelectedKey :=
  match p.positionOf credentialId with
  | none =>
      (p, .error (.error ("pool " ++ p.config.name ++ " has no credential " ++ credentialId)))
  | some index =>
      if p.usable now index then p.take index
      else
        (p, .error (.error
          ("credential " ++ credentialId ++ " in pool " ++ p.config.name ++ " is not available")))

/-- The next usable credential; failing that, the next one that still cools down. -/
def selectCoolingDownLastResort (p : PlainPool) (r : Readings) :
    PlainPool × Except PoolFailure SelectedKey :=
  match p.nextUsable p.current r.second with
  | some index => p.take index
  | none =>
      match (p.around p.current).find? fun index => p.stateAt index (·.isCoolingDownAt r.third) with
      | some index => p.take index
      | none => (p, p.failure " has no cooling-down credentials for last-resort selection")

/-- The usable credentials behind the current one, in the order in which they would be tried. -/
def retryCandidatesFromCurrent (p : PlainPool) (limit : Nat) (now : Instant) :
    List CredentialCandidate :=
  let others := (p.around ((p.current + 1) % p.credentials.length)).filter fun index =>
    p.usable now index && index ≠ p.current
  (others.take limit).filterMap fun index =>
    p.credentials[index]?.map fun credential => ⟨credential.id, credential.fingerprint⟩

/-- The first credential of a batch whose id is `known` or stands earlier in the batch. -/
def firstRepeated (known : List CredentialId) : List Credential → Option Credential
  | [] => none
  | credential :: rest =>
      if credential.id ∈ known then some credential
      else firstRepeated (credential.id :: known) rest

/-- Append credentials, all or, if one of them is there already, none. -/
def addCredentials (p : PlainPool) (inputs : List PoolCredentialInput) :
    PlainPool × Except PoolFailure (List CredentialSnapshot) :=
  let added := KeyPool.credentialsOf p.config.credentialNamespace inputs
  match firstRepeated (p.credentials.map (·.id)) added with
  | some credential =>
      (p, .error (.error
        ("credential " ++ credential.id ++ " already exists in pool " ++ p.config.name)))
  | none =>
      ({ p with credentials := p.credentials ++ added }, .ok (added.map fun c => c.snapshot 0 0))

/-- Move to the next usable position behind the current one, if there is one. -/
def advance (p : PlainPool) (now : Instant) : PlainPool :=
  match p.nextUsable ((p.current + 1) % p.credentials.length) now with
  | none => p
  | some next => { p with current := next }

/-- Move on from the current position after a failure. -/
def switchAway (p : PlainPool) (failed : Nat) (now : Instant) : PlainPool × SwitchOutcome :=
  match p.nextUsable ((p.current + 1) % p.credentials.length) now with
  | some next =>
      if next ≠ failed then ({ p with current := next }, .switched) else (p, .noAlternative)
  | none => (p, .noAlternative)

/-- A failure report: a disabled credential is left alone; only the current one is switched
away from. -/
def report (p : PlainPool) (credentialId : CredentialId) (onlyCurrent : Bool)
    (f : Credential → Credential) (now : Instant) : PlainPool × SwitchOutcome :=
  match p.positionOf credentialId with
  | none => (p, .staleFailure)
  | some index =>
      if p.stateAt index (·.isDisabled) then (p, .staleFailure)
      else if index = p.current then (p.mark index f).switchAway index now
      else if onlyCurrent then (p, .staleFailure)
      else (p.mark index f, .staleFailure)

/-- What is shown of a credential. -/
def snapshotAt (p : PlainPool) (index : Nat) (guardNow remainingNow : Instant) :
    Option CredentialSnapshot :=
  p.credentials[index]?.map (·.snapshot guardNow remainingNow)

/-- An operator's command on one credential, with the snapshot it returns. -/
def command (p : PlainPool) (credentialId : CredentialId) (act : Nat → PlainPool)
    (guardNow remainingNow : Instant) : PlainPool × Option CredentialSnapshot :=
  match p.positionOf credentialId with
  | none => (p, none)
  | some index => (act index, (act index).snapshotAt index guardNow remainingNow)

/-- Mark a credential available when its state passes a test. -/
def releaseWhen (p : PlainPool) (test : CredentialState → Bool) (index : Nat) : PlainPool :=
  if p.stateAt index test then p.mark index (·.markAvailable) else p

/-- Disable a credential; if it is the current one, move on. -/
def disable (p : PlainPool) (reason : String) (now : Instant) (index : Nat) : PlainPool :=
  let marked := p.mark index (·.markDisabled reason)
  if index = p.current then marked.advance now else marked

end PlainPool

/-- Run one operation on a plain pool. -/
def PoolOp.execPlain (r : Readings) (p : PlainPool) : PoolOp → PlainPool × PoolOutput
  | select => (p.select r.first).map id .key
  | selectCredentialById id' => (p.selectCredentialById id' r.first).map id .key
  | selectCoolingDownLastResort => (p.selectCoolingDownLastResort r).map id .key
  -- the plain pool has nothing to refresh
  | retryCandidatesFromCurrent limit =>
      (p, .candidates (p.retryCandidatesFromCurrent limit r.first))
  | addCredentials inputs => (p.addCredentials inputs).map id .added
  | applyCredentialCooldownUntil id' untilInstant reason =>
      (p.report id' true (·.markCoolingDown untilInstant reason) r.first).map id .outcome
  | reportExpiredFailureById id' reason =>
      (p.report id' false (·.markExpired reason) r.first).map id .outcome
  | applyCredentialExpired id' reason =>
      (p.report id' false (·.markExpired reason) r.first).map id .outcome
  | applyCredentialQuotaExhausted id' reason =>
      (p.report id' false (·.markQuotaExhausted reason) r.first).map id .outcome
  | expireCredentialById id' reason =>
      (p.command id' (fun _ => (p.report id' false (·.markExpired reason) r.first).1)
        r.first r.first).map id .snapshot
  | restoreCredentialById id' =>
      (p.command id' (p.releaseWhen fun s => s.isExpired || s.isQuotaExhausted)
        r.first r.second).map id .snapshot
  | disableCredentialById id' reason =>
      (p.command id' (p.disable reason r.first) r.first r.first).map id .snapshot
  | enableCredentialById id' =>
      (p.command id' (fun index => p.mark index (·.markAvailable)) 0 0).map id .snapshot
  | clearCredentialCooldownById id' =>
      (p.command id' (p.releaseWhen (·.isCoolingDownAt r.first))
        r.second r.third).map id .snapshot

/-- A plain pool and the last clock value anyone has read. -/
structure TimedPlainPool where
  pool : PlainPool
  clock : Instant

/-- The runs of a plain pool. -/
def plainPoolSystem : TransitionSystem TimedPlainPool PoolCall where
  Init t := ∃ config, config.credentials ≠ [] ∧
    t.pool = ⟨config, KeyPool.credentialsOf config.credentialNamespace config.credentials, 0⟩ ∧
    (t.pool.credentials.map (·.id)).Nodup
  Step t call t' :=
    t.clock ≤ call.readings.first ∧
    call.op.execPlain call.readings t.pool = (t'.pool, call.output) ∧
    t'.clock = call.readings.third

/-- A pool without its indices. -/
def KeyPool.plain (p : KeyPool) : PlainPool := ⟨p.config, p.credentials, p.current⟩

@[simp] theorem KeyPool.plain_config (p : KeyPool) : p.plain.config = p.config := rfl

@[simp] theorem KeyPool.plain_credentials (p : KeyPool) :
    p.plain.credentials = p.credentials := rfl

@[simp] theorem KeyPool.plain_current (p : KeyPool) : p.plain.current = p.current := rfl

/-- The pool without its indices, at the same time. -/
def TimedPool.plain (s : TimedPool) : TimedPlainPool := ⟨s.pool.plain, s.clock⟩

/-! ## §2. What the indices find. -/

namespace KeyPool

/-- Pools that differ in their indices only are one plain pool. -/
theorem SameCredentials.plain {p p' : KeyPool} (h : SameCredentials p p') :
    p'.plain = p.plain := by
  unfold KeyPool.plain
  rw [h.config, h.credentials, h.current]

/-- A refresh changes indices only. -/
theorem plain_refresh (p : KeyPool) (now : Instant) :
    (p.refreshAvailableIndices now).plain = p.plain :=
  (sameCredentials_refresh p now).plain

/-- The walk over all positions, and the scan's. -/
theorem indicesFrom_eq (p : KeyPool) {start : Nat} (hs : start ≤ p.credentials.length) :
    p.indicesFrom start = p.plain.around start := by
  unfold indicesFrom PlainPool.around
  show _ = (List.range p.credentials.length).filter (start ≤ ·) ++
    (List.range p.credentials.length).filter (· < start)
  congr 1
  · have hsorted : (List.range' start (p.credentials.length - start)).Pairwise (· < ·) :=
      List.pairwise_lt_range' 1
    refine hsorted.eq_of_mem_iff (List.pairwise_lt_range.filter _) ?_
    intro i
    rw [List.mem_filter, List.mem_range, List.mem_range'_1, decide_eq_true_eq]
    omega
  · have hsorted : (List.range start).Pairwise (· < ·) := List.pairwise_lt_range
    refine hsorted.eq_of_mem_iff (List.pairwise_lt_range.filter _) ?_
    intro i
    rw [List.mem_filter, List.mem_range, List.mem_range, decide_eq_true_eq]
    omega

end KeyPool

namespace WellFormed

variable {t now : Instant} {p : KeyPool}

/-- The available set, walked from `start`, is what the scan from `start` finds usable. -/
theorem availableIndicesFrom_eq (h : WellFormed t p) (ht : t ≤ now) (start : Nat) :
    (p.refreshAvailableIndices now).availableIndicesFrom start =
      (p.plain.around start).filter (p.plain.usable now) := by
  unfold KeyPool.availableIndicesFrom PlainPool.around
  rw [h.toList_refresh ht, List.filter_append, List.filter_comm, @List.filter_comm _ _ (· < start)]
  rfl

/-- The lookup in the index finds what the scan finds. -/
theorem nextAvailableFrom_eq (h : WellFormed t p) (ht : t ≤ now) (start : Nat) :
    p.nextAvailableFrom start now =
      (p.refreshAvailableIndices now, p.plain.nextUsable start now) := by
  unfold KeyPool.nextAvailableFrom PlainPool.nextUsable
  dsimp only
  rw [h.availableIndicesFrom_eq ht, List.head?_filter]

/-- After a refresh the index lists the usable credentials. -/
theorem mem_refresh_eq (h : WellFormed t p) (ht : t ≤ now) (i : Nat) :
    i ∈ (p.refreshAvailableIndices now).availableIndices ↔ p.plain.usable now i = true := by
  rw [h.mem_refresh_iff ht]
  unfold PlainPool.usable PlainPool.stateAt
  rw [Option.any_eq_true]
  rfl

/-- The id index finds the first credential of the id. -/
theorem indexForId_plain (h : WellFormed t p) (id : CredentialId) :
    p.indexForId id = p.plain.positionOf id := by
  unfold PlainPool.positionOf
  show _ = p.credentials.findIdx? _
  cases hf : p.credentials.findIdx? (·.id = id) with
  | none =>
      rw [List.findIdx?_eq_none_iff] at hf
      rw [Option.eq_none_iff_forall_ne_some]
      intro i hi
      obtain ⟨c, hc, hid⟩ := h.indexForId_some hi
      simpa [hid] using hf c (List.mem_of_getElem? hc)
  | some i =>
      obtain ⟨hlt, hid, -⟩ := List.findIdx?_eq_some_iff_getElem.mp hf
      rw [decide_eq_true_eq] at hid
      exact (h.index_iff id i).mpr ⟨p.credentials[i], List.getElem?_eq_getElem hlt, hid⟩

/-- A deadline on file that is ahead is a state that still cools down. -/
theorem coolingAt_eq (h : WellFormed t p) (ht : t ≤ now) (i : Nat) :
    p.coolingAt now i = p.plain.stateAt i (·.isCoolingDownAt now) := by
  unfold KeyPool.coolingAt PlainPool.stateAt
  show _ = p.credentials[i]?.any _
  rcases Nat.lt_or_ge i p.credentials.length with hi | hi
  · obtain ⟨c, hc, hcl⟩ := h.credentialAt hi
    rw [hc]
    cases hs : c.state with
    | coolingDown d reason =>
        rw [hs] at hcl
        -- a cooldown without a deadline has been promoted, and so it has passed
        rcases hcl with ⟨-, hnone, hd⟩ | ⟨-, hsome⟩
        · have hpassed : ¬ now < d := Nat.not_lt_of_le (Nat.le_trans hd ht)
          simp [hnone, hs, CredentialState.isCoolingDownAt, hpassed]
        · simp [hsome, hs, CredentialState.isCoolingDownAt]
    | available =>
        rw [hs] at hcl
        simp [hcl.2, hs, CredentialState.isCoolingDownAt]
    | expired reason =>
        rw [hs] at hcl
        simp [hcl.2, hs, CredentialState.isCoolingDownAt]
    | quotaExhausted reason =>
        rw [hs] at hcl
        simp [hcl.2, hs, CredentialState.isCoolingDownAt]
    | disabled reason =>
        rw [hs] at hcl
        simp [hcl.2, hs, CredentialState.isCoolingDownAt]
  · rw [(h.inRange i hi).2, List.getElem?_eq_none hi]
    rfl

end WellFormed

/-! ## §3. One operation. -/

/-- What an operation leaves and returns, with the indices forgotten. -/
def forget {α : Type} (x : KeyPool × α) : PlainPool × α := (x.1.plain, x.2)

namespace KeyPool

/-- Changing a credential does the same on both sides. -/
theorem plain_modifyCredential (p : KeyPool) (i : Nat) (f : Credential → Credential) :
    (p.modifyCredential i f).plain = p.plain.mark i f := rfl

theorem plain_markIndexAvailable (p : KeyPool) (i : Nat) :
    (p.markIndexAvailable i).plain = p.plain :=
  (sameCredentials_markIndexAvailable p i).plain

theorem plain_markIndexUnavailable (p : KeyPool) (i : Nat) :
    (p.markIndexUnavailable i).plain = p.plain :=
  (sameCredentials_markIndexUnavailable p i).plain

theorem plain_markIndexCoolingDown (p : KeyPool) (i : Nat) (d : Instant) :
    (p.markIndexCoolingDown i d).plain = p.plain :=
  (sameCredentials_markIndexCoolingDown p i d).plain

end KeyPool

namespace WellFormed

variable {t now : Instant} {p : KeyPool}

/-- A selection does to the pool what it does to the plain one. -/
theorem forget_select (h : WellFormed t p) (ht : t ≤ now) :
    forget (p.select now) = p.plain.select now := by
  unfold KeyPool.select PlainPool.select
  rw [h.nextAvailableFrom_eq ht, ← p.plain_refresh now, ← (p.sameCredentials_refresh now).current,
    KeyPool.plain_current]
  cases (p.refreshAvailableIndices now).plain.nextUsable (p.refreshAvailableIndices now).current now with
  | none => rfl
  | some i => rfl

/-- A selection by id does to the pool what it does to the plain one. -/
theorem forget_selectCredentialById (h : WellFormed t p) (ht : t ≤ now) (id : CredentialId) :
    forget (p.selectCredentialById id now) = p.plain.selectCredentialById id now := by
  unfold KeyPool.selectCredentialById PlainPool.selectCredentialById
  rw [h.indexForId_plain]
  cases p.plain.positionOf id with
  | none => rfl
  | some i =>
      dsimp only
      rw [← p.plain_refresh now]
      by_cases hi : i ∈ (p.refreshAvailableIndices now).availableIndices
      · have husable := (h.mem_refresh_eq ht i).mp hi
        rw [← p.plain_refresh now] at husable
        rw [if_pos hi, if_pos husable]
        rfl
      · have hnot := fun husable => hi ((h.mem_refresh_eq ht i).mpr husable)
        rw [← p.plain_refresh now] at hnot
        rw [if_neg hi, if_neg hnot]
        rfl

/-- The last resort scans both pools in the same order, and reads the clock as often. -/
theorem forget_selectCoolingDownLastResort (h : WellFormed t p) {r : Readings}
    (ht : t ≤ r.first) :
    forget (p.selectCoolingDownLastResort r) = p.plain.selectCoolingDownLastResort r := by
  have h1 : WellFormed r.first (p.refreshAvailableIndices r.first) := h.refresh ht
  have h2 : WellFormed r.second
      ((p.refreshAvailableIndices r.first).refreshAvailableIndices r.second) :=
    h1.refresh r.first_le
  have hplain : ((p.refreshAvailableIndices r.first).refreshAvailableIndices r.second).plain =
      p.plain := by
    rw [KeyPool.plain_refresh, KeyPool.plain_refresh]
  have hcurrent : (p.refreshAvailableIndices r.first).current =
      ((p.refreshAvailableIndices r.first).refreshAvailableIndices r.second).current :=
    (KeyPool.sameCredentials_refresh _ _).current.symm
  unfold KeyPool.selectCoolingDownLastResort PlainPool.selectCoolingDownLastResort
  dsimp only
  rw [h1.nextAvailableFrom_eq r.first_le, KeyPool.plain_refresh, ← hplain, hcurrent,
    KeyPool.plain_current]
  generalize ((p.refreshAvailableIndices r.first).refreshAvailableIndices r.second) = q at h2
  cases q.plain.nextUsable q.current r.second with
  | some i => rfl
  | none =>
      -- neither walk finds an available position: both look for a pending deadline
      dsimp only
      rw [KeyPool.indicesFrom_eq q (Nat.le_of_lt h2.current_lt),
        funext fun i => h2.coolingAt_eq r.second_le i]
      cases (q.plain.around q.current).find? fun i =>
        q.plain.stateAt i (·.isCoolingDownAt r.third) with
      | some i => rfl
      | none => rfl

/-- The candidates for a retry are the usable ones of the plain pool, in the same order. -/
theorem forget_retryCandidatesFromCurrent (h : WellFormed t p) (ht : t ≤ now) (limit : Nat) :
    forget (p.retryCandidatesFromCurrent limit now) =
      (p.plain, p.plain.retryCandidatesFromCurrent limit now) := by
  unfold KeyPool.retryCandidatesFromCurrent PlainPool.retryCandidatesFromCurrent
  split
  -- nothing is asked for; a pool is never empty
  · next hnone =>
      rcases hnone with hlimit | hempty
      · dsimp only
        rw [hlimit, List.take_zero]
        rfl
      · have hpos := h.length_pos
        rw [hempty] at hpos
        exact absurd hpos (Nat.lt_irrefl 0)
  · dsimp only
    have hsame := p.sameCredentials_refresh now
    rw [hsame.current, hsame.credentials, h.availableIndicesFrom_eq ht, List.filter_filter]
    refine Prod.ext (p.plain_refresh now) ?_
    show (List.take limit (List.filter (fun i => decide (i ≠ p.current) && p.plain.usable now i)
      _)).filterMap (p.refreshAvailableIndices now).candidateAt = _
    have hcandidate : (p.refreshAvailableIndices now).candidateAt = p.candidateAt := by
      funext i
      unfold KeyPool.candidateAt
      rw [hsame.credentials]
    rw [hcandidate]
    simp only [Bool.and_comm]
    rfl

/-- The id index has the ids of the credentials. -/
theorem mem_credentialIndex (h : WellFormed t p) (id : CredentialId) :
    id ∈ p.credentialIndex ↔ id ∈ p.credentials.map (·.id) := by
  rw [TreeMap.mem_iff_isSome_getElem?, Option.isSome_iff_exists, List.mem_map]
  constructor
  · rintro ⟨i, hi⟩
    obtain ⟨c, hc, hid⟩ := (h.index_iff id i).mp hi
    exact ⟨c, List.mem_of_getElem? hc, hid⟩
  · rintro ⟨c, hc, hid⟩
    obtain ⟨i, hi⟩ := List.getElem?_of_mem hc
    exact ⟨i, (h.index_iff id i).mpr ⟨c, hi, hid⟩⟩

/-- The set of new ids that the source grows is the list of known ids here: the two find the same
duplicate. -/
theorem firstDuplicate_eq (h : WellFormed t p) (added : List Credential) :
    ∀ (newIds : TreeSet CredentialId) (known : List CredentialId),
      (∀ id, id ∈ known ↔ id ∈ newIds ∨ id ∈ p.credentials.map (·.id)) →
      KeyPool.firstDuplicate p newIds added = PlainPool.firstRepeated known added := by
  induction added with
  | nil =>
      intro newIds known _
      rfl
  | cons c rest ih =>
      intro newIds known hknown
      unfold KeyPool.firstDuplicate PlainPool.firstRepeated
      have hiff : (c.id ∈ p.credentialIndex ∨ c.id ∈ newIds) ↔ c.id ∈ known := by
        rw [hknown, h.mem_credentialIndex, Or.comm]
      rw [if_congr hiff rfl rfl]
      split
      · rfl
      · refine ih (newIds.insert c.id) (c.id :: known) ?_
        intro id
        rw [List.mem_cons, hknown, TreeSet.mem_insert, Std.compare_eq_iff_eq, or_assoc, eq_comm]

/-- Appending the new credentials one by one. -/
theorem plain_pushCredentials (cs : List Credential) :
    ∀ p : KeyPool, (cs.foldl KeyPool.pushCredential p).plain =
      { p.plain with credentials := p.plain.credentials ++ cs } := by
  induction cs with
  | nil =>
      intro p
      show p.plain = ⟨p.config, p.credentials ++ [], p.current⟩
      rw [List.append_nil]
      rfl
  | cons c cs ih =>
      intro p
      rw [List.foldl_cons, ih]
      show PlainPool.mk p.config ((p.credentials ++ [c]) ++ cs) p.current =
        ⟨p.config, p.credentials ++ c :: cs, p.current⟩
      rw [List.append_assoc]
      rfl

/-- Credentials are added to both pools, or refused by both. -/
theorem forget_addCredentials (h : WellFormed t p) (inputs : List PoolCredentialInput) :
    forget (p.addCredentials inputs) = p.plain.addCredentials inputs := by
  unfold KeyPool.addCredentials PlainPool.addCredentials
  dsimp only [KeyPool.plain_config, KeyPool.plain_credentials]
  have hknown : ∀ id : CredentialId, id ∈ p.credentials.map (·.id) ↔
      id ∈ (∅ : TreeSet CredentialId) ∨ id ∈ p.credentials.map (·.id) := by
    intro id
    simp
  rw [h.firstDuplicate_eq _ ∅ _ hknown]
  cases PlainPool.firstRepeated (p.credentials.map (·.id))
    (KeyPool.credentialsOf p.config.credentialNamespace inputs) with
  | some c => rfl
  | none => exact Prod.ext (plain_pushCredentials _ p) rfl

/-- The move away from a failed credential ends at the same one. -/
theorem forget_switchAwayFrom (h : WellFormed t p) (ht : t ≤ now) (failed : Nat) :
    forget (p.switchAwayFrom failed now) = p.plain.switchAway failed now := by
  unfold KeyPool.switchAwayFrom PlainPool.switchAway
  rw [h.nextAvailableFrom_eq ht, ← p.plain_refresh now, ← (p.sameCredentials_refresh now).current,
    ← (p.sameCredentials_refresh now).credentials, KeyPool.plain_current,
    KeyPool.plain_credentials]
  generalize p.refreshAvailableIndices now = q
  cases q.plain.nextUsable ((q.current + 1) % q.credentials.length) now with
  | none => rfl
  | some next =>
      dsimp only
      split
      · rfl
      · rfl

/-- The credential that the scan finds. -/
theorem positionOf_some (h : WellFormed t p) {id : CredentialId} {i : Nat}
    (hi : p.plain.positionOf id = some i) : ∃ c, p.credentials[i]? = some c ∧ c.id = id := by
  rw [← h.indexForId_plain] at hi
  exact h.indexForId_some hi

/-- A failure with a deadline is reported to the plain pool as a mark on the current credential.
-/
theorem forget_applyCredentialCooldownUntil (h : WellFormed t p) (ht : t ≤ now)
    (id : CredentialId) (d : Instant) (reason : String) :
    forget (p.applyCredentialCooldownUntil id d reason now) =
      p.plain.report id true (·.markCoolingDown d reason) now := by
  unfold KeyPool.applyCredentialCooldownUntil PlainPool.report
  rw [h.indexForId_plain]
  cases hi : p.plain.positionOf id with
  | none => rfl
  | some i =>
      obtain ⟨c, hc, -⟩ := h.positionOf_some hi
      have hlt : ¬ p.credentials.length ≤ i := Nat.not_le_of_lt (List.getElem?_eq_some_iff.mp hc).1
      have hmarked := (h.markCoolingDown hc d reason).forget_switchAwayFrom ht i
      rw [KeyPool.plain_markIndexCoolingDown, KeyPool.plain_modifyCredential] at hmarked
      dsimp only
      unfold KeyPool.reportSwitchableFailureUntil
      rw [if_neg hlt]
      -- a disabled credential stays disabled
      by_cases hdisabled : p.stateAt i (·.isDisabled) = true
      · rw [if_pos hdisabled, if_pos (show p.plain.stateAt i _ = true from hdisabled)]
        rfl
      · rw [if_neg hdisabled, if_neg (show ¬ p.plain.stateAt i _ = true from hdisabled)]
        -- only the current credential cools down
        by_cases hcurrent : i = p.current
        · rw [if_neg (not_not.mpr hcurrent), if_pos (show i = p.plain.current from hcurrent)]
          exact hmarked
        · rw [if_pos hcurrent, if_neg (show ¬ i = p.plain.current from hcurrent), if_pos rfl]
          rfl

/-- A report that excludes its credential, whether or not it is the current one. -/
theorem forget_exclude (h : WellFormed t p) (ht : t ≤ now) {i : Nat} {c : Credential}
    (hc : p.credentials[i]? = some c) {f : Credential → Credential} (hid : (f c).id = c.id)
    (hstate : ∀ listed deadline, ¬ listed ∧ deadline = none →
      Classified t listed deadline (f c).state) :
    forget ((p.modifyCredential i f).markIndexUnavailable i |>.switchAwayFrom i now) =
        (p.plain.mark i f).switchAway i now ∧
      ((p.modifyCredential i f).markIndexUnavailable i).plain = p.plain.mark i f ∧
      ((p.modifyCredential i f).markIndexUnavailable i).current = p.current := by
  have hplain : ((p.modifyCredential i f).markIndexUnavailable i).plain = p.plain.mark i f := by
    rw [KeyPool.plain_markIndexUnavailable, KeyPool.plain_modifyCredential]
  have hswitch := (h.markExcluded hc hid hstate).forget_switchAwayFrom ht i
  rw [hplain] at hswitch
  exact ⟨hswitch, hplain, (KeyPool.sameCredentials_markIndexUnavailable _ i).current⟩

/-- An expired key is a mark on the plain pool, here for a credential that has been found. -/
theorem forget_reportExpiredFailure (h : WellFormed t p) (ht : t ≤ now) {id : CredentialId}
    {i : Nat} (hi : p.plain.positionOf id = some i) (reason : String) :
    forget (p.reportExpiredFailure i reason now) =
      p.plain.report id false (·.markExpired reason) now := by
  obtain ⟨c, hc, -⟩ := h.positionOf_some hi
  have hlt : ¬ p.credentials.length ≤ i := Nat.not_le_of_lt (List.getElem?_eq_some_iff.mp hc).1
  obtain ⟨hswitch, hplain, hstay⟩ :=
    h.forget_exclude ht hc (f := (·.markExpired reason)) rfl fun _ _ hgone => hgone
  unfold KeyPool.reportExpiredFailure PlainPool.report
  rw [hi, if_neg hlt]
  dsimp only
  by_cases hdisabled : p.stateAt i (·.isDisabled) = true
  · rw [if_pos hdisabled, if_pos (show p.plain.stateAt i _ = true from hdisabled)]
    rfl
  · rw [if_neg hdisabled, if_neg (show ¬ p.plain.stateAt i _ = true from hdisabled), hstay]
    by_cases hcurrent : i = p.current
    · rw [if_neg (not_not.mpr hcurrent), if_pos (show i = p.plain.current from hcurrent)]
      exact hswitch
    · rw [if_pos hcurrent, if_neg (show ¬ i = p.plain.current from hcurrent),
        if_neg Bool.false_ne_true]
      exact Prod.ext hplain rfl

/-- The report of an expired key, for any id. -/
theorem forget_reportExpiredFailureById (h : WellFormed t p) (ht : t ≤ now) (id : CredentialId)
    (reason : String) :
    forget (p.reportExpiredFailureById id reason now) =
      p.plain.report id false (·.markExpired reason) now := by
  unfold KeyPool.reportExpiredFailureById
  rw [h.indexForId_plain]
  cases hi : p.plain.positionOf id with
  | none =>
      unfold PlainPool.report
      rw [hi]
      rfl
  | some i => exact h.forget_reportExpiredFailure ht hi reason

/-- An exhausted quota is a mark on the plain pool, too. -/
theorem forget_applyCredentialQuotaExhausted (h : WellFormed t p) (ht : t ≤ now)
    (id : CredentialId) (reason : String) :
    forget (p.applyCredentialQuotaExhausted id reason now) =
      p.plain.report id false (·.markQuotaExhausted reason) now := by
  unfold KeyPool.applyCredentialQuotaExhausted PlainPool.report
  rw [h.indexForId_plain]
  cases hi : p.plain.positionOf id with
  | none => rfl
  | some i =>
      obtain ⟨c, hc, -⟩ := h.positionOf_some hi
      obtain ⟨hswitch, hplain, hstay⟩ :=
        h.forget_exclude ht hc (f := (·.markQuotaExhausted reason)) rfl fun _ _ hgone => hgone
      dsimp only
      by_cases hdisabled : p.stateAt i (·.isDisabled) = true
      · rw [if_pos hdisabled, if_pos (show p.plain.stateAt i _ = true from hdisabled)]
        rfl
      · rw [if_neg hdisabled, if_neg (show ¬ p.plain.stateAt i _ = true from hdisabled), hstay]
        by_cases hcurrent : i = p.current
        · rw [if_pos hcurrent, if_pos (show i = p.plain.current from hcurrent)]
          exact hswitch
        · rw [if_neg hcurrent, if_neg (show ¬ i = p.plain.current from hcurrent),
            if_neg Bool.false_ne_true]
          exact Prod.ext hplain rfl

/-- The command `expire` is the report with a snapshot behind it. -/
theorem forget_expireCredentialById (h : WellFormed t p) (ht : t ≤ now) (id : CredentialId)
    (reason : String) :
    forget (p.expireCredentialById id reason now) =
      p.plain.command id (fun _ => (p.plain.report id false (·.markExpired reason) now).1)
        now now := by
  unfold KeyPool.expireCredentialById PlainPool.command
  rw [h.indexForId_plain]
  cases hi : p.plain.positionOf id with
  | none => rfl
  | some i =>
      dsimp only
      rw [← h.forget_reportExpiredFailure ht hi reason]
      rfl

/-- Marking available under a condition on the state. -/
theorem plain_release (p : KeyPool) (i : Nat) (test : CredentialState → Bool) :
    (if p.stateAt i test then (p.modifyCredential i (·.markAvailable)).markIndexAvailable i
      else p).plain = p.plain.releaseWhen test i := by
  unfold PlainPool.releaseWhen
  by_cases htest : p.stateAt i test = true
  · rw [if_pos htest, if_pos (show p.plain.stateAt i test = true from htest),
      KeyPool.plain_markIndexAvailable, KeyPool.plain_modifyCredential]
  · rw [if_neg htest, if_neg (show ¬ p.plain.stateAt i test = true from htest)]

/-- The command `restore` releases a credential from the two durable exclusions. -/
theorem forget_restoreCredentialById (h : WellFormed t p) (id : CredentialId) (r : Readings) :
    forget (p.restoreCredentialById id r) =
      p.plain.command id (p.plain.releaseWhen fun s => s.isExpired || s.isQuotaExhausted)
        r.first r.second := by
  have htest : ∀ i, (p.stateAt i (·.isExpired) || p.stateAt i (·.isQuotaExhausted)) =
      p.stateAt i fun s => s.isExpired || s.isQuotaExhausted := by
    intro i
    unfold KeyPool.stateAt
    cases p.credentials[i]? <;> rfl
  unfold KeyPool.restoreCredentialById PlainPool.command
  rw [h.indexForId_plain]
  cases p.plain.positionOf id with
  | none => rfl
  | some i =>
      dsimp only
      rw [htest, ← plain_release]
      rfl

/-- The command `clear_cooldown` releases a credential from a cooldown that is not over. -/
theorem forget_clearCredentialCooldownById (h : WellFormed t p) (id : CredentialId)
    (r : Readings) :
    forget (p.clearCredentialCooldownById id r) =
      p.plain.command id (p.plain.releaseWhen (·.isCoolingDownAt r.first)) r.second r.third := by
  unfold KeyPool.clearCredentialCooldownById PlainPool.command
  rw [h.indexForId_plain]
  cases p.plain.positionOf id with
  | none => rfl
  | some i =>
      dsimp only
      rw [← plain_release]
      rfl

/-- The command `enable` makes a credential available, whatever state it was in. -/
theorem forget_enableCredentialById (h : WellFormed t p) (id : CredentialId) :
    forget (p.enableCredentialById id) =
      p.plain.command id (fun index => p.plain.mark index (·.markAvailable)) 0 0 := by
  unfold KeyPool.enableCredentialById PlainPool.command
  rw [h.indexForId_plain]
  cases p.plain.positionOf id with
  | none => rfl
  | some i =>
      dsimp only
      rw [← KeyPool.plain_modifyCredential, ← KeyPool.plain_markIndexAvailable _ i]
      rfl

/-- The command `disable` marks a credential and moves on if it is the current one. -/
theorem forget_disableCredentialById (h : WellFormed t p) (ht : t ≤ now) (id : CredentialId)
    (reason : String) :
    forget (p.disableCredentialById id reason now) =
      p.plain.command id (p.plain.disable reason now) now now := by
  unfold KeyPool.disableCredentialById PlainPool.command
  rw [h.indexForId_plain]
  cases hi : p.plain.positionOf id with
  | none => rfl
  | some i =>
      obtain ⟨c, hc, -⟩ := h.positionOf_some hi
      have hmarked : WellFormed t
          ((p.modifyCredential i (·.markDisabled reason)).markIndexUnavailable i) :=
        h.markExcluded hc rfl fun _ _ hgone => hgone
      obtain ⟨-, hplain, hstay⟩ :=
        h.forget_exclude ht hc (f := (·.markDisabled reason)) rfl fun _ _ hgone => hgone
      dsimp only
      unfold PlainPool.disable
      rw [hstay]
      -- only the current credential is moved away from
      by_cases hcurrent : i = p.current
      · rw [if_pos hcurrent, if_pos (show i = p.plain.current from hcurrent), ← hplain, ← hstay]
        generalize (p.modifyCredential i (·.markDisabled reason)).markIndexUnavailable i = q
          at hmarked
        unfold PlainPool.advance
        rw [hmarked.nextAvailableFrom_eq ht, ← q.plain_refresh now,
          ← (q.sameCredentials_refresh now).current,
          ← (q.sameCredentials_refresh now).credentials, KeyPool.plain_current,
          KeyPool.plain_credentials]
        generalize q.refreshAvailableIndices now = q'
        cases q'.plain.nextUsable ((q'.current + 1) % q'.credentials.length) now with
        | none => rfl
        | some next => rfl
      · rw [if_neg hcurrent, if_neg (show ¬ i = p.plain.current from hcurrent), ← hplain]
        rfl

end WellFormed

/-- One operation on a well-formed pool is the scanning operation on its plain pool. -/
theorem PoolOp.exec_plain {t : Instant} {p : KeyPool} (h : WellFormed t p) {r : Readings}
    (ht : t ≤ r.first) (op : PoolOp) : forget (op.exec r p) = op.execPlain r p.plain := by
  -- one call, one lemma; only the wrapping of the output differs
  cases op with
  | select => exact congrArg (Prod.map id PoolOutput.key) (h.forget_select ht)
  | selectCredentialById id' =>
      exact congrArg (Prod.map id PoolOutput.key) (h.forget_selectCredentialById ht id')
  | selectCoolingDownLastResort =>
      exact congrArg (Prod.map id PoolOutput.key) (h.forget_selectCoolingDownLastResort ht)
  | retryCandidatesFromCurrent limit =>
      exact congrArg (Prod.map id PoolOutput.candidates)
        (h.forget_retryCandidatesFromCurrent ht limit)
  | addCredentials inputs =>
      exact congrArg (Prod.map id PoolOutput.added) (h.forget_addCredentials inputs)
  | applyCredentialCooldownUntil id' d reason =>
      exact congrArg (Prod.map id PoolOutput.outcome)
        (h.forget_applyCredentialCooldownUntil ht id' d reason)
  | reportExpiredFailureById id' reason =>
      exact congrArg (Prod.map id PoolOutput.outcome)
        (h.forget_reportExpiredFailureById ht id' reason)
  | applyCredentialExpired id' reason =>
      exact congrArg (Prod.map id PoolOutput.outcome)
        (h.forget_reportExpiredFailureById ht id' reason)
  | applyCredentialQuotaExhausted id' reason =>
      exact congrArg (Prod.map id PoolOutput.outcome)
        (h.forget_applyCredentialQuotaExhausted ht id' reason)
  | expireCredentialById id' reason =>
      exact congrArg (Prod.map id PoolOutput.snapshot)
        (h.forget_expireCredentialById ht id' reason)
  | restoreCredentialById id' =>
      exact congrArg (Prod.map id PoolOutput.snapshot) (h.forget_restoreCredentialById id' r)
  | disableCredentialById id' reason =>
      exact congrArg (Prod.map id PoolOutput.snapshot)
        (h.forget_disableCredentialById ht id' reason)
  | enableCredentialById id' =>
      exact congrArg (Prod.map id PoolOutput.snapshot) (h.forget_enableCredentialById id')
  | clearCredentialCooldownById id' =>
      exact congrArg (Prod.map id PoolOutput.snapshot)
        (h.forget_clearCredentialCooldownById id' r)

/-! ## §4. Every run. -/

/-- A new pool is a new plain pool. -/
theorem poolSystem_plain_init (s : TimedPool) (h : poolSystem.Init s) :
    plainPoolSystem.Init s.plain := by
  obtain ⟨config, hnew, hnodup⟩ := h
  obtain ⟨hne, hpool⟩ := KeyPool.new_ok hnew
  refine ⟨config, hne, ?_, hnodup⟩
  show s.pool.plain = _
  rw [hpool]
  rfl

/-- Every step of a pool is one of its plain pool. -/
theorem poolSystem_simulates : TransitionSystem.Simulates poolSystem plainPoolSystem
    fun s t => WellFormed s.clock s.pool ∧ t = s.plain := by
  refine .of_map ?_
  intro s call s' h hstep
  refine ⟨?_, poolSystem_step_wellFormed s call s' h hstep⟩
  obtain ⟨ht, hexec, hclock⟩ := hstep
  refine ⟨ht, ?_, hclock⟩
  show call.op.execPlain call.readings s.pool.plain = _
  rw [← PoolOp.exec_plain h ht call.op, hexec]
  rfl

/-- Every step of the plain pool is one of the pool. -/
theorem poolSystem_simulated : TransitionSystem.Simulates plainPoolSystem poolSystem
    fun t s => WellFormed s.clock s.pool ∧ t = s.plain := by
  rintro t call t' s ⟨h, rfl⟩ ⟨ht, hexec, hclock⟩
  have hplain := PoolOp.exec_plain h ht call.op
  rw [show call.op.execPlain call.readings s.pool.plain = _ from hexec] at hplain
  have hout : (call.op.exec call.readings s.pool).2 = call.output := congrArg Prod.snd hplain
  have hstep : poolSystem.Step s call (s.after call.op call.readings) :=
    ⟨ht, Prod.ext rfl hout, rfl⟩
  refine ⟨_, hstep, poolSystem_step_wellFormed _ _ _ h hstep, ?_⟩
  have hpool : t'.pool = (call.op.exec call.readings s.pool).1.plain :=
    (congrArg Prod.fst hplain).symm
  calc t' = ⟨t'.pool, t'.clock⟩ := rfl
    _ = (s.after call.op call.readings).plain := by rw [hpool, hclock]; rfl

/-- Some position of the plain pool passes a test of its state. -/
theorem KeyPool.hasCredential_iff (p : KeyPool) (test : CredentialState → Bool) :
    p.HasCredential (test · = true) ↔ ∃ i, p.plain.stateAt i test = true := by
  unfold KeyPool.HasCredential PlainPool.stateAt
  refine exists_congr fun i => ?_
  rw [Option.any_eq_true]
  rfl

/-- A pool and its plain pool take the same calls with the same results, in every order and
number, and the read-only checks answer what a scan would. -/
theorem pool_behaves_as_plain (s₀ : TimedPool) (h₀ : poolSystem.Init s₀)
    (calls : List PoolCall) :
    plainPoolSystem.Init s₀.plain ∧
    ((∃ s, poolSystem.Run s₀ calls s) ↔ ∃ t, plainPoolSystem.Run s₀.plain calls t) ∧
    ∀ s, poolSystem.Run s₀ calls s →
      plainPoolSystem.Run s₀.plain calls s.plain ∧
      ∀ now, s.clock ≤ now →
        (s.pool.hasAvailableCredentialsReadOnly now = true ↔
          ∃ i, s.plain.pool.stateAt i (·.isAvailableAt now) = true) ∧
        (s.pool.hasCoolingDownCredentialsReadOnly now = true ↔
          ∃ i, s.plain.pool.stateAt i (·.isCoolingDownAt now) = true) := by
  have hwf₀ := poolSystem_init_wellFormed s₀ h₀
  refine ⟨poolSystem_plain_init s₀ h₀,
    poolSystem_simulates.run_iff poolSystem_simulated ⟨hwf₀, rfl⟩ calls, ?_⟩
  intro s hrun
  obtain ⟨t, hrun', hwf, rfl⟩ := poolSystem_simulates.run hrun s₀.plain ⟨hwf₀, rfl⟩
  refine ⟨hrun', fun now ht => ⟨?_, ?_⟩⟩
  · rw [hwf.hasAvailable_iff ht, KeyPool.hasCredential_iff]
    rfl
  · rw [hwf.hasCoolingDown_iff ht, KeyPool.hasCredential_iff]
    rfl

/-- A cooldown, a selection elsewhere and a passed deadline on the pool of two. -/
theorem pool_behaves_as_plain_pair :
    let s₁ := pairStart.after (.applyCredentialCooldownUntil firstId 5 "429") (.at' 1)
    let calls := [pairStart.call (.applyCredentialCooldownUntil firstId 5 "429") (.at' 1),
      s₁.call .select (.at' 7)]
    ∃ t, plainPoolSystem.Run pairStart.plain calls t := by
  intro s₁ calls
  refine (pool_behaves_as_plain pairStart pairStart_init calls).2.1.mp
    ⟨s₁.after .select (.at' 7), ?_⟩
  exact .cons (poolSystem_step _ _ _ (by decide)) (.cons (poolSystem_step _ _ _ (by decide)) (.nil _))

end OneAiKey
