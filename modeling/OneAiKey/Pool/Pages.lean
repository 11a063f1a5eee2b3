/-
  OneAiKey.Pool.Pages — the counts of a pool and the pages of its credentials
  (`src/pool.rs`).

  Two reports look at the same credentials in different ways:

    snapshot                  the live state, tested against one clock value
    credential_snapshot_page  the projected state, compared with the filter

  Both treat a cooldown whose deadline has passed as available, at the
  deadline itself too.  `CredentialSnapshotFilter.admits` says what a filter
  asks for in terms of the live state, and each report is described by it.

  Main results:
    * `snapshot_spec`, `credentialSnapshotPage_spec` — the two loops;
    * `pool_counts_and_pages_agree` — the counts, their sum, and the pages
      one after another.
-/
import OneAiKey.Pool.Lifecycle
import OneAiKey.Lib.SlidingWindow

namespace OneAiKey

/-! ## §1. The two reports. -/

structure KeyPoolSnapshot where
  currentIndex : Nat
  totalCredentials : Nat
  availableCredentials : Nat
  coolingDownCredentials : Nat
  expiredCredentials : Nat
  quotaExhaustedCredentials : Nat
  disabledCredentials : Nat
  deriving DecidableEq, Repr

inductive CredentialSnapshotFilter where
  | all
  | available
  | coolingDown
  | expired
  | quotaExhausted
  | disabled
  deriving DecidableEq, Repr

structure CredentialSnapshotPage where
  totalCredentials : Nat
  filteredCredentials : Nat
  credentials : List CredentialSnapshot
  deriving DecidableEq, Repr

def credentialSnapshotMatchesFilter (credential : CredentialSnapshot)
    (filter : CredentialSnapshotFilter) : Bool :=
  match credential.state, filter with
  | _, .all => true
  | .available, .available => true
  | .coolingDown _ _, .coolingDown => true
  | .expired _, .expired => true
  | .quotaExhausted _, .quotaExhausted => true
  | .disabled _, .disabled => true
  | _, _ => false

/-- The counters of `snapshot` after one more credential. -/
def KeyPoolSnapshot.count (now : Instant) (counts : KeyPoolSnapshot) (credential : Credential) :
    KeyPoolSnapshot :=
  if credential.state.isAvailableAt now then
    { counts with availableCredentials := counts.availableCredentials + 1 }
  else if credential.state.isCoolingDownAt now then
    { counts with coolingDownCredentials := counts.coolingDownCredentials + 1 }
  else if credential.state.isExpired then
    { counts with expiredCredentials := counts.expiredCredentials + 1 }
  else if credential.state.isQuotaExhausted then
    { counts with quotaExhaustedCredentials := counts.quotaExhaustedCredentials + 1 }
  else if credential.state.isDisabled then
    { counts with disabledCredentials := counts.disabledCredentials + 1 }
  else counts

namespace KeyPool

def snapshot (p : KeyPool) (now : Instant) : KeyPoolSnapshot :=
  p.credentials.foldl (KeyPoolSnapshot.count now)
    { currentIndex := p.current
      totalCredentials := p.credentials.length
      availableCredentials := 0
      coolingDownCredentials := 0
      expiredCredentials := 0
      quotaExhaustedCredentials := 0
      disabledCredentials := 0 }

/-- One turn of the paging loop, for the snapshot of one credential: the number of matches
so far and the page so far. -/
def pageStep (filter : CredentialSnapshotFilter) (offset limit : Nat)
    (acc : Nat × List CredentialSnapshot) (snapshot : CredentialSnapshot) :
    Nat × List CredentialSnapshot :=
  if !credentialSnapshotMatchesFilter snapshot filter then acc
  else
    let credentials :=
      if offset ≤ acc.1 ∧ acc.2.length < limit then acc.2 ++ [snapshot] else acc.2
    (acc.1 + 1, credentials)

/-- The snapshots of the credentials in pool order; each reads the clock on its own. -/
def snapshotsAt (p : KeyPool) (readings : Nat → Readings) : List CredentialSnapshot :=
  p.credentials.zipIdx.map fun entry =>
    entry.1.snapshot (readings entry.2).first (readings entry.2).second

def credentialSnapshotPage (p : KeyPool) (readings : Nat → Readings)
    (filter : CredentialSnapshotFilter) (offset limit : Nat) : CredentialSnapshotPage :=
  let found := (p.snapshotsAt readings).foldl (pageStep filter offset limit) (0, [])
  { totalCredentials := p.credentials.length
    filteredCredentials := found.1
    credentials := found.2 }

end KeyPool

/-! ## §2. What a filter asks for. -/

/-- The filter that a state belongs to when the clock shows `now`.  A cooldown whose deadline
has passed belongs to the available ones, whatever the state still says. -/
def CredentialState.statusAt (now : Instant) : CredentialState → CredentialSnapshotFilter
  | available => .available
  | coolingDown untilInstant _ => if now < untilInstant then .coolingDown else .available
  | expired _ => .expired
  | quotaExhausted _ => .quotaExhausted
  | disabled _ => .disabled

namespace CredentialState

theorem statusAt_coolingDown {now untilInstant : Instant} (h : now < untilInstant)
    (reason : String) : (coolingDown untilInstant reason).statusAt now = .coolingDown := if_pos h

theorem statusAt_passed {now untilInstant : Instant} (h : untilInstant ≤ now)
    (reason : String) : (coolingDown untilInstant reason).statusAt now = .available :=
  if_neg (Nat.not_lt_of_le h)

theorem statusAt_ne_all (now : Instant) (state : CredentialState) :
    state.statusAt now ≠ .all := by
  cases state with
  | coolingDown d reason =>
      -- the deadline decides between the two
      rcases Nat.lt_or_ge now d with hd | hd
      · rw [statusAt_coolingDown hd]
        nofun
      · rw [statusAt_passed hd]
        nofun
  | _ => nofun

end CredentialState

namespace CredentialSnapshotFilter

/-- Does the filter ask for a credential in this state? -/
def admits (now : Instant) (filter : CredentialSnapshotFilter) (state : CredentialState) : Bool :=
  filter = .all || filter = state.statusAt now

/-- The projected state matches a filter exactly if the filter asks for the live state. -/
theorem matchesFilter_snapshot (c : Credential) (now remainingNow : Instant)
    (filter : CredentialSnapshotFilter) :
    credentialSnapshotMatchesFilter (c.snapshot now remainingNow) filter =
      filter.admits now c.state := by
  unfold Credential.snapshot admits
  cases c.state with
  | coolingDown d reason =>
      unfold CredentialState.snapshot
      -- the guard of the projection is the test of the status
      rcases Nat.lt_or_ge now d with hd | hd
      · rw [CredentialState.statusAt_coolingDown hd]
        dsimp only
        rw [if_pos hd]
        cases filter <;> rfl
      · rw [CredentialState.statusAt_passed hd]
        dsimp only
        rw [if_neg (Nat.not_lt_of_le hd)]
        cases filter <;> rfl
  | _ => cases filter <;> rfl

/-- How many credentials of a list the filter asks for. -/
def countIn (now : Instant) (filter : CredentialSnapshotFilter) (credentials : List Credential) :
    Nat :=
  credentials.countP fun credential => filter.admits now credential.state

theorem countIn_cons (now : Instant) (filter : CredentialSnapshotFilter) (c : Credential)
    (l : List Credential) :
    filter.countIn now (c :: l) =
      filter.countIn now l + if filter.admits now c.state then 1 else 0 :=
  List.countP_cons

end CredentialSnapshotFilter

/-! ## §3. The counts. -/

namespace KeyPoolSnapshot

/-- The count that belongs to a filter. -/
def countFor (counts : KeyPoolSnapshot) : CredentialSnapshotFilter → Nat
  | .all => counts.totalCredentials
  | .available => counts.availableCredentials
  | .coolingDown => counts.coolingDownCredentials
  | .expired => counts.expiredCredentials
  | .quotaExhausted => counts.quotaExhaustedCredentials
  | .disabled => counts.disabledCredentials

/-- The counters with one more credential of a status. -/
def addOne (counts : KeyPoolSnapshot) : CredentialSnapshotFilter → KeyPoolSnapshot
  | .all => counts
  | .available => { counts with availableCredentials := counts.availableCredentials + 1 }
  | .coolingDown => { counts with coolingDownCredentials := counts.coolingDownCredentials + 1 }
  | .expired => { counts with expiredCredentials := counts.expiredCredentials + 1 }
  | .quotaExhausted =>
      { counts with quotaExhaustedCredentials := counts.quotaExhaustedCredentials + 1 }
  | .disabled => { counts with disabledCredentials := counts.disabledCredentials + 1 }

/-- The cascade of tests finds the status. -/
theorem count_eq (now : Instant) (counts : KeyPoolSnapshot) (c : Credential) :
    counts.count now c = counts.addOne (c.state.statusAt now) := by
  unfold count
  cases c.state with
  | coolingDown d reason =>
      unfold CredentialState.isAvailableAt CredentialState.isCoolingDownAt
      dsimp only
      -- the two tests of a cooldown are opposite
      rcases Nat.lt_or_ge now d with hd | hd
      · have hnot : ¬ d ≤ now := Nat.not_le_of_lt hd
        rw [CredentialState.statusAt_coolingDown hd, if_neg (by simpa using hnot),
          if_pos (decide_eq_true hd)]
        rfl
      · rw [CredentialState.statusAt_passed hd, if_pos (decide_eq_true hd)]
        rfl
  | _ => rfl

theorem countFor_addOne (counts : KeyPoolSnapshot) {filter : CredentialSnapshotFilter}
    (hfilter : filter ≠ .all) (status : CredentialSnapshotFilter) :
    (counts.addOne status).countFor filter =
      counts.countFor filter + if filter = status then 1 else 0 := by
  cases filter with
  | all => exact absurd rfl hfilter
  | _ => cases status <;> rfl

/-- The total and the pointer are set before the loop. -/
theorem addOne_fixed (counts : KeyPoolSnapshot) (status : CredentialSnapshotFilter) :
    (counts.addOne status).totalCredentials = counts.totalCredentials ∧
      (counts.addOne status).currentIndex = counts.currentIndex := by
  cases status <;> exact ⟨rfl, rfl⟩

/-- The five counts together. -/
def counted (counts : KeyPoolSnapshot) : Nat :=
  counts.availableCredentials + counts.coolingDownCredentials + counts.expiredCredentials +
    counts.quotaExhaustedCredentials + counts.disabledCredentials

theorem counted_addOne (counts : KeyPoolSnapshot) {status : CredentialSnapshotFilter}
    (hstatus : status ≠ .all) : (counts.addOne status).counted = counts.counted + 1 := by
  unfold counted
  cases status with
  | all => exact absurd rfl hstatus
  | _ =>
      dsimp only [addOne]
      omega

/-- The whole loop, from any counters. -/
theorem foldl_count (now : Instant) (credentials : List Credential) (counts : KeyPoolSnapshot) :
    let result := credentials.foldl (count now) counts
    (∀ filter, filter ≠ .all →
      result.countFor filter = counts.countFor filter + filter.countIn now credentials) ∧
    result.counted = counts.counted + credentials.length ∧
    result.totalCredentials = counts.totalCredentials ∧
    result.currentIndex = counts.currentIndex := by
  induction credentials generalizing counts with
  | nil => exact ⟨fun filter _ => rfl, rfl, rfl, rfl⟩
  | cons c l ih =>
      obtain ⟨hcounts, hcounted, htotal, hcurrent⟩ := ih (counts.count now c)
      rw [count_eq] at hcounts hcounted htotal hcurrent
      dsimp only
      rw [List.foldl_cons, count_eq]
      have hfixed := addOne_fixed counts (c.state.statusAt now)
      refine ⟨?_, ?_, htotal.trans hfixed.1, hcurrent.trans hfixed.2⟩
      · intro filter hfilter
        -- no state has the status `all`, so the filter asks for its own status only
        have hadmits : (filter.admits now c.state = true) = (filter = c.state.statusAt now) := by
          unfold CredentialSnapshotFilter.admits
          rw [decide_eq_false hfilter, Bool.false_or, decide_eq_true_eq]
        rw [hcounts filter hfilter, countFor_addOne counts hfilter,
          CredentialSnapshotFilter.countIn_cons]
        simp only [hadmits]
        omega
      · rw [hcounted, counted_addOne counts (CredentialState.statusAt_ne_all now c.state),
          List.length_cons]
        omega

end KeyPoolSnapshot

namespace KeyPool

/-- Each count is the number of credentials that its filter asks for, and the five of them
make the total. -/
theorem snapshot_spec (p : KeyPool) (now : Instant) :
    (∀ filter, (p.snapshot now).countFor filter =
      CredentialSnapshotFilter.countIn now filter p.credentials) ∧
    (p.snapshot now).counted = (p.snapshot now).totalCredentials ∧
    (p.snapshot now).totalCredentials = p.credentials.length ∧
    (p.snapshot now).currentIndex = p.current := by
  obtain ⟨hcounts, hcounted, htotal, hcurrent⟩ :=
    KeyPoolSnapshot.foldl_count now p.credentials ⟨p.current, p.credentials.length, 0, 0, 0, 0, 0⟩
  refine ⟨?_, ?_, htotal, hcurrent⟩
  · intro filter
    by_cases hfilter : filter = .all
    · rw [hfilter]
      have hall : CredentialSnapshotFilter.countIn now .all p.credentials = p.credentials.length :=
        List.countP_eq_length.mpr fun _ _ => rfl
      exact htotal.trans hall.symm
    · have hzero : (⟨p.current, p.credentials.length, 0, 0, 0, 0, 0⟩ : KeyPoolSnapshot).countFor
          filter = 0 := by
        cases filter with
        | all => exact absurd rfl hfilter
        | _ => rfl
      exact (hcounts filter hfilter).trans (by rw [hzero, Nat.zero_add])
  · exact (hcounted.trans (Nat.zero_add _)).trans htotal.symm

/-! ## §4. The pages. -/

/-- The loop over the snapshots, with what it has found so far as a list. -/
theorem foldl_pageStep (filter : CredentialSnapshotFilter) (offset limit : Nat)
    (snapshots found : List CredentialSnapshot) :
    snapshots.foldl (pageStep filter offset limit)
        (found.length, SlidingWindow.page 0 offset limit found) =
      ((found ++ snapshots.filter (credentialSnapshotMatchesFilter · filter)).length,
        SlidingWindow.page 0 offset limit
          (found ++ snapshots.filter (credentialSnapshotMatchesFilter · filter))) := by
  induction snapshots generalizing found with
  | nil => rw [List.filter_nil, List.append_nil, List.foldl_nil]
  | cons snapshot rest ih =>
      rw [List.foldl_cons, List.filter_cons]
      cases hmatch : credentialSnapshotMatchesFilter snapshot filter with
      | false =>
          rw [if_neg Bool.false_ne_true]
          -- no match: neither the number nor the page changes
          have hskip : pageStep filter offset limit
              (found.length, SlidingWindow.page 0 offset limit found) snapshot =
              (found.length, SlidingWindow.page 0 offset limit found) := by
            unfold pageStep
            rw [hmatch]
            rfl
          rw [hskip, ih]
      | true =>
          rw [if_pos rfl]
          -- the next match is counted, and taken if the page has begun and has room
          have htake : pageStep filter offset limit
              (found.length, SlidingWindow.page 0 offset limit found) snapshot =
              ((found ++ [snapshot]).length,
                SlidingWindow.page 0 offset limit (found ++ [snapshot])) := by
            unfold pageStep
            rw [hmatch, SlidingWindow.page_concat, List.length_append]
            rfl
          rw [htake, ih, List.append_assoc]
          rfl

/-- A page is that part of the matching snapshots, whatever the clock shows. -/
theorem credentialSnapshotPage_spec (p : KeyPool) (readings : Nat → Readings)
    (filter : CredentialSnapshotFilter) (offset limit : Nat) :
    let found := (p.snapshotsAt readings).filter (credentialSnapshotMatchesFilter · filter)
    p.credentialSnapshotPage readings filter offset limit =
      ⟨p.credentials.length, found.length, SlidingWindow.page 0 offset limit found⟩ := by
  have hempty : SlidingWindow.page 0 offset limit ([] : List CredentialSnapshot) = [] := by
    unfold SlidingWindow.page
    rw [List.drop_nil, List.take_nil]
  have hloop := foldl_pageStep filter offset limit (p.snapshotsAt readings) []
  rw [hempty, List.nil_append, List.length_nil] at hloop
  unfold credentialSnapshotPage
  rw [hloop]

/-- The credentials that a filter asks for, in pool order, as the management interface shows
them at one clock value. -/
def matching (p : KeyPool) (now : Instant) (filter : CredentialSnapshotFilter) :
    List CredentialSnapshot :=
  (p.credentials.filter fun credential => filter.admits now credential.state).map fun credential =>
    credential.snapshot now now

theorem filter_snapshotsAt (p : KeyPool) (now : Instant) (filter : CredentialSnapshotFilter) :
    (p.snapshotsAt fun _ => Readings.at' now).filter (credentialSnapshotMatchesFilter · filter) =
      p.matching now filter := by
  have hsnapshots : (p.snapshotsAt fun _ => Readings.at' now) =
      p.credentials.map fun credential => credential.snapshot now now := by
    -- with one clock value the position does not matter
    show p.credentials.zipIdx.map ((fun c : Credential => c.snapshot now now) ∘ Prod.fst) = _
    rw [← List.map_map, List.zipIdx_map_fst]
  rw [hsnapshots, List.filter_map]
  unfold matching
  congr 2
  funext c
  exact CredentialSnapshotFilter.matchesFilter_snapshot c now now filter

end KeyPool

/-- The ids of a reachable pool are distinct, so no credential stands twice on its pages. -/
theorem WellFormed.nodup_matching {t : Instant} {p : KeyPool} (h : WellFormed t p) (now : Instant)
    (filter : CredentialSnapshotFilter) : ((p.matching now filter).map (·.id)).Nodup := by
  have hids : (p.credentials.map (·.id)).Nodup := by
    rw [List.Nodup, List.pairwise_map, List.pairwise_iff_getElem]
    intro i j hi hj hij heq
    exact Nat.ne_of_lt hij
      (h.index_unique (List.getElem?_eq_getElem hi) (List.getElem?_eq_getElem hj) heq)
  unfold KeyPool.matching
  rw [List.map_map]
  exact hids.sublist (List.filter_sublist.map _)

/-- The counts of a pool are the numbers of credentials of each status, they make up the
total, every page reports the count of its filter, and the pages of any size, one after
another, are the matching credentials in pool order, each of them once. -/
theorem pool_counts_and_pages_agree {s : TimedPool} (hs : poolSystem.Reachable s)
    (now : Instant) :
    let counts := s.pool.snapshot now
    let page := s.pool.credentialSnapshotPage fun _ => Readings.at' now
    counts.availableCredentials + counts.coolingDownCredentials + counts.expiredCredentials +
        counts.quotaExhaustedCredentials + counts.disabledCredentials =
      counts.totalCredentials ∧
    counts.totalCredentials = s.pool.credentials.length ∧
    (∀ filter, counts.countFor filter =
      s.pool.credentials.countP fun credential => filter.admits now credential.state) ∧
    (∀ filter offset limit,
      (page filter offset limit).totalCredentials = counts.totalCredentials ∧
      (page filter offset limit).filteredCredentials = counts.countFor filter ∧
      (page filter offset limit).credentials.length ≤ limit) ∧
    ∀ filter limit n, (s.pool.matching now filter).length ≤ n * limit →
      ((List.range n).flatMap fun i => (page filter (i * limit) limit).credentials) =
          s.pool.matching now filter ∧
        ((s.pool.matching now filter).map (·.id)).Nodup := by
  intro counts page
  obtain ⟨hcounts, hcounted, htotal, -⟩ := s.pool.snapshot_spec now
  have hpage : ∀ filter offset limit, page filter offset limit =
      ⟨s.pool.credentials.length, (s.pool.matching now filter).length,
        SlidingWindow.page 0 offset limit (s.pool.matching now filter)⟩ := by
    intro filter offset limit
    show s.pool.credentialSnapshotPage _ filter offset limit = _
    rw [KeyPool.credentialSnapshotPage_spec, KeyPool.filter_snapshotsAt]
  refine ⟨hcounted, htotal, hcounts, ?_, ?_⟩
  · intro filter offset limit
    rw [hpage]
    refine ⟨htotal.symm, ?_, List.length_take_le _ _⟩
    rw [hcounts filter]
    unfold KeyPool.matching
    rw [List.length_map, ← List.countP_eq_length_filter]
    rfl
  · intro filter limit n hn
    refine ⟨?_, (poolSystem_wellFormed hs).nodup_matching now filter⟩
    -- n pages of this size reach the end of the list
    simp only [hpage]
    rw [SlidingWindow.flatMap_page, List.take_of_length_le hn]

/-- A credential at its deadline: available in the counts and on the page. -/
theorem pool_counts_and_pages_agree_pair :
    let s := pairStart.after (.applyCredentialCooldownUntil firstId 5 "429") (.at' 1)
    (s.pool.snapshot 4).availableCredentials = 1 ∧ (s.pool.snapshot 5).availableCredentials = 2 ∧
      ((List.range 2).flatMap fun i =>
        (s.pool.credentialSnapshotPage (fun _ => Readings.at' 5) .available (i * 1) 1).credentials) =
          s.pool.matching 5 .available := by
  intro s
  have hs : poolSystem.Reachable s := (TransitionSystem.Reachable.init pairStart_init).step
    (poolSystem_step _ _ _ (by decide))
  have h := pool_counts_and_pages_agree hs 5
  exact ⟨by decide, by decide, (h.2.2.2.2 .available 1 2 (by decide)).1⟩

end OneAiKey
