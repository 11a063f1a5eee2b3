/-
  OneAiKey.CredentialProbe.Agreement — the pages of credentials are pages of one list.

  The list is written down without an index and without a loop: the credentials of the
  pool in their order, each with its latest probe, that the two filters ask for.

  Main result:
    * `credential_listing_is_plain` — whatever way a page takes, and what the summary of the
      set counts.
-/
import OneAiKey.CredentialProbe.Listing

namespace OneAiKey

open LatestRow SlidingWindow

/-! ## §1. The plain list. -/

namespace CredentialStoreHandle

def latestProbe (handle : CredentialStoreHandle) (credentialSetId : CredentialSetId)
    (credentialId : CredentialId) : Option CredentialProbeResultRecord :=
  match handle with
  | readOnlyFileBootstrap => none
  | sqlite store => store.loadLatestProbeResult credentialSetId credentialId

def credentialPosition (handle : CredentialStoreHandle) (credentialSetId : CredentialSetId)
    (credentialId : CredentialId) : Option Nat :=
  match handle with
  | readOnlyFileBootstrap => none
  | sqlite store =>
      ((store.credentials.filter fun row => row.credentialSetId == credentialSetId).reverse.find?
        fun row => row.credentialId = some credentialId).map (·.position)

/-- A store has the credentials of the pool, in the same order. -/
def Agrees (handle : CredentialStoreHandle) (credentialSetId : CredentialSetId)
    (pool : KeyPool) : Prop :=
  ∀ store, handle = sqlite store → store.Valid ∧
    (inPositionOrder store.credentials credentialSetId).map (·.credentialId) =
      pool.credentials.map fun credential => some credential.id

end CredentialStoreHandle

/-- One credential as it is shown. -/
def statusOf (handle : CredentialStoreHandle) (credentialSetId : CredentialSetId)
    (snapshot : CredentialSnapshot) : CredentialStatus :=
  credentialStatusWithLatestProbeAndRef snapshot
    ((handle.latestProbe credentialSetId snapshot.id).map credentialProbeResultStatus)
    ((handle.credentialPosition credentialSetId snapshot.id).map credentialRefForPosition)

/-- The credentials that both filters ask for, at one clock value. -/
def plainCredentialStatuses (handle : CredentialStoreHandle) (credentialSetId : CredentialSetId)
    (pool : KeyPool) (now : Instant) (stateFilter : CredentialSnapshotFilter)
    (probeFilter : CredentialProbeFilter) : List CredentialStatus :=
  ((pool.matching now stateFilter).map (statusOf handle credentialSetId)).filter
    fun status => probeFilterMatches probeFilter status.latestProbe

/-! ## §2. The store. -/

theorem flatMap_ite_singleton {α : Type} (keep : α → Bool) (l : List α) :
    (l.flatMap fun a => if keep a then [a] else []) = l.filter keep := by
  induction l with
  | nil => rfl
  | cons a l ih =>
      rw [List.flatMap_cons, List.filter_cons, ih]
      split <;> rfl

/-- Rows that all have an id can be read.  The first row without an id would be an error for
the whole page. -/
theorem mapM_readId {rows : List CredentialRow} {credentialIds : List CredentialId}
    (h : rows.map (·.credentialId) = credentialIds.map some) :
    rows.mapM CredentialRow.readId = .ok credentialIds := by
  induction rows generalizing credentialIds with
  | nil =>
      cases credentialIds with
      | nil => rfl
      | cons id ids => cases h
  | cons row rows ih =>
      cases credentialIds with
      | nil => cases h
      | cons id ids =>
          obtain ⟨hid, hrest⟩ := List.cons_eq_cons.mp h
          dsimp only at hid
          have hread : row.readId = .ok id := by
            unfold CredentialRow.readId
            rw [hid]
          rw [List.mapM_cons, hread, ih hrest]
          rfl

namespace ProbeStore

variable {s : ProbeStore} {credentialSetId : CredentialSetId}

/-- The positions that are asked for are those of the table.  So a page that asks for many
positions at once shows the ones that each credential has by itself. -/
theorem loadCredentialPositions_eq (s : ProbeStore) {credentialIds : List CredentialId}
    {credentialId : CredentialId} (hmem : credentialId ∈ credentialIds) :
    s.loadCredentialPositionsForCredentials credentialSetId credentialIds credentialId =
      (CredentialStoreHandle.sqlite s).credentialPosition credentialSetId credentialId := by
  unfold loadCredentialPositionsForCredentials CredentialStoreHandle.credentialPosition
  dsimp only
  rw [← List.head?_filter, ← List.head?_filter, List.filter_reverse, List.filter_reverse,
    List.filter_filter, List.filter_filter]
  congr 3
  refine List.filter_congr fun row _ => ?_
  by_cases hid : row.credentialId = some credentialId
  · have hany : row.credentialId.any credentialIds.contains = true := by
      rw [hid]
      exact List.contains_iff_mem.mpr hmem
    rw [hany, Bool.and_true]
  · rw [decide_eq_false hid, Bool.false_and, Bool.false_and]

namespace Valid

/-- The grouped rows of a set are the latest results of its credentials. -/
theorem mem_latestProbeResults (h : s.Valid) {record : CredentialProbeResultRecord} :
    record ∈ s.latestProbeResults credentialSetId (fun _ => true) ↔
      s.loadLatestProbeResult credentialSetId record.credentialId = some record := by
  have hlatest := @latest_requested s credentialSetId (fun _ => true) record.credentialId rfl
  unfold latestProbeResults
  rw [mem_latestRows h.ascending, hlatest]

/-- The latest result is one of the table, about that credential of that set. -/
theorem of_loadLatest (h : s.Valid) {credentialId : CredentialId}
    {record : CredentialProbeResultRecord}
    (hlatest : s.loadLatestProbeResult credentialSetId credentialId = some record) :
    record ∈ s.probeResults ∧ record.credentialSetId = credentialSetId ∧
      record.credentialId = credentialId := by
  obtain ⟨hmem, hid, -⟩ := (latest_eq_some_iff (h.ascending.filter _)).mp hlatest
  rw [List.mem_filter, beq_iff_eq] at hmem
  exact ⟨hmem.1, hmem.2, hid⟩

variable {credentialIds : List CredentialId}

/-- A credential that has a result is one of the set's.  A result can only be recorded for a
credential of the set, and no credential leaves it. -/
theorem mem_of_loadLatest (h : s.Valid) (hids : (inPositionOrder s.credentials
      credentialSetId).map (·.credentialId) = credentialIds.map some)
    {credentialId : CredentialId} {record : CredentialProbeResultRecord}
    (hlatest : s.loadLatestProbeResult credentialSetId credentialId = some record) :
    credentialId ∈ credentialIds := by
  obtain ⟨hmem, hset, hid⟩ := h.of_loadLatest hlatest
  obtain ⟨row, hrow, hmatch⟩ := List.any_eq_true.mp (h.known record hmem)
  rw [hset, hid, Bool.and_eq_true, beq_iff_eq, beq_iff_eq] at hmatch
  have hordered : row ∈ inPositionOrder s.credentials credentialSetId := by
    unfold inPositionOrder
    rw [List.mem_mergeSort, List.mem_filter, beq_iff_eq]
    exact ⟨hrow, hmatch.1⟩
  have hsome := List.mem_map_of_mem (f := (·.credentialId)) hordered
  rw [hids, hmatch.2] at hsome
  obtain ⟨id, hidmem, heq⟩ := List.mem_map.mp hsome
  exact Option.some.inj heq ▸ hidmem

/-- As many results of an outcome as credentials whose latest result has it.  Each credential
has at most one latest result, so nothing is counted twice. -/
theorem length_filter_latest (h : s.Valid) (hids : (inPositionOrder s.credentials
      credentialSetId).map (·.credentialId) = credentialIds.map some)
    (hnodup : credentialIds.Nodup) (outcome : CredentialProbeOutcome) :
    ((s.latestProbeResults credentialSetId fun _ => true).filter
        fun record => record.outcome == outcome).length =
      (credentialIds.filter fun id =>
        (s.loadLatestProbeResult credentialSetId id).any (·.outcome == outcome)).length := by
  rw [← List.length_map (·.credentialId)]
  -- one latest result for each credential, so both lists have the same ids
  refine List.Perm.length_eq ((List.perm_ext_iff_of_nodup ?_ (hnodup.filter _)).mpr fun id => ?_)
  · exact (nodup_map_latestRows h.ascending).sublist (List.filter_sublist.map _)
  rw [List.mem_map, List.mem_filter]
  constructor
  · intro hrecord
    obtain ⟨record, hmem, rfl⟩ := hrecord
    rw [List.mem_filter, h.mem_latestProbeResults] at hmem
    exact ⟨h.mem_of_loadLatest hids hmem.1, by rw [hmem.1]; exact hmem.2⟩
  · intro hid
    obtain ⟨-, hany⟩ := hid
    cases hlatest : s.loadLatestProbeResult credentialSetId id with
    | none =>
        rw [hlatest] at hany
        cases hany
    | some record =>
        rw [hlatest] at hany
        obtain ⟨-, -, hrecord⟩ := h.of_loadLatest hlatest
        refine ⟨record, ?_, hrecord⟩
        rw [List.mem_filter, h.mem_latestProbeResults, hrecord]
        exact ⟨hlatest, hany⟩

/-- The query for an outcome finds the credentials whose latest result has it, in the order of the
positions. -/
theorem loadLatestProbeOutcomeCredentialIds_eq (h : s.Valid) (hids : (inPositionOrder
      s.credentials credentialSetId).map (·.credentialId) = credentialIds.map some)
    (hnodup : credentialIds.Nodup) (outcome : CredentialProbeOutcome) (offset limit : Nat) :
    let found := credentialIds.filter fun id =>
      (s.loadLatestProbeResult credentialSetId id).any (·.outcome == outcome)
    s.loadLatestProbeOutcomeCredentialIds credentialSetId outcome offset limit =
      ⟨found.length, sqlWindow offset limit found⟩ := by
  intro found
  -- the rows of the join are those of the set anyway
  have hrows : ((s.latestProbeResults credentialSetId fun _ => true).filter fun record =>
        record.credentialSetId == credentialSetId && record.outcome == outcome) =
      (s.latestProbeResults credentialSetId fun _ => true).filter
        fun record => record.outcome == outcome := by
    refine List.filter_congr fun record hrecord => ?_
    rw [h.mem_latestProbeResults] at hrecord
    rw [(h.of_loadLatest hrecord).2.1, beq_self_eq_true, Bool.true_and]
  -- a credential is joined with its latest result, if that has the outcome
  have hjoin : ∀ id, (((s.latestProbeResults credentialSetId fun _ => true).filter fun record =>
        record.outcome == outcome).filter fun record => some id = some record.credentialId).map
        (·.credentialId) =
      if (s.loadLatestProbeResult credentialSetId id).any (·.outcome == outcome) then [id]
      else [] := by
    intro id
    have hlatest := @filter_latestProbeResults s h credentialSetId (fun _ => true) id rfl
    have hswap : (((s.latestProbeResults credentialSetId fun _ => true).filter fun record =>
          record.outcome == outcome).filter fun record => some id = some record.credentialId) =
        ((s.latestProbeResults credentialSetId fun _ => true).filter fun record =>
          record.credentialId = id).filter fun record => record.outcome == outcome := by
      rw [List.filter_filter, List.filter_filter]
      refine List.filter_congr fun record _ => ?_
      rw [Bool.and_comm]
      refine congrArg (record.outcome == outcome && ·) (decide_eq_decide.mpr ?_)
      rw [Option.some_inj, eq_comm]
    rw [hswap, hlatest]
    cases hfound : s.loadLatestProbeResult credentialSetId id with
    | none => rfl
    | some record =>
        obtain ⟨-, -, hid⟩ := h.of_loadLatest hfound
        rw [Option.toList_some, List.filter_singleton, Option.any_some]
        cases record.outcome == outcome with
        | false => rfl
        | true => exact congrArg (fun id => [id]) hid
  have hjoined : ((inPositionOrder s.credentials credentialSetId).flatMap fun credential =>
        (((s.latestProbeResults credentialSetId fun _ => true).filter fun record =>
          record.outcome == outcome).filter fun record =>
            credential.credentialId = some record.credentialId).map (·.credentialId)) = found := by
    have hmap := congrArg (List.flatMap fun id? : Option CredentialId =>
      (((s.latestProbeResults credentialSetId fun _ => true).filter fun record =>
        record.outcome == outcome).filter fun record => id? = some record.credentialId).map
          (·.credentialId)) hids
    rw [List.flatMap_map, List.flatMap_map] at hmap
    rw [hmap]
    simp only [hjoin]
    exact flatMap_ite_singleton _ credentialIds
  unfold loadLatestProbeOutcomeCredentialIds
  dsimp only
  rw [hrows, hjoined, h.length_filter_latest hids hnodup]

end Valid

/-- The query for the unprobed finds the credentials without a result, in the order of the
positions. -/
theorem loadUnprobedCredentialIds_eq {credentialIds : List CredentialId}
    (hids : (inPositionOrder s.credentials credentialSetId).map (·.credentialId) =
      credentialIds.map some) (offset limit : Nat) :
    let found := credentialIds.filter fun id =>
      (s.loadLatestProbeResult credentialSetId id).isNone
    s.loadUnprobedCredentialIds credentialSetId offset limit =
      .ok ⟨found.length, sqlWindow offset limit found⟩ := by
  intro found
  have hnone : ∀ id, (!(s.probeResultsOf credentialSetId).any fun record =>
        some id = some record.credentialId) =
      (s.loadLatestProbeResult credentialSetId id).isNone := by
    intro id
    rw [Bool.eq_iff_iff, Bool.not_eq_true', List.any_eq_false, Option.isNone_iff_eq_none]
    unfold loadLatestProbeResult
    rw [latest_eq_none_iff]
    simp [eq_comm]
  -- the rows that are left have the ids that are left
  have hrows : ((inPositionOrder s.credentials credentialSetId).filter fun credential =>
        !(s.probeResultsOf credentialSetId).any fun record =>
          credential.credentialId = some record.credentialId).map (·.credentialId) =
      found.map some := by
    have hmap := congrArg (List.filter fun id? : Option CredentialId =>
      !(s.probeResultsOf credentialSetId).any fun record => id? = some record.credentialId) hids
    rw [List.filter_map, List.filter_map] at hmap
    refine hmap.trans (congrArg (List.map some) (List.filter_congr fun id _ => hnone id))
  have hlength := congrArg List.length hrows
  rw [List.length_map, List.length_map] at hlength
  have hpage := congrArg (sqlWindow offset limit) hrows
  rw [← map_sqlWindow, ← map_sqlWindow] at hpage
  unfold loadUnprobedCredentialIds
  dsimp only
  rw [mapM_readId hpage, hlength]
  rfl

end ProbeStore

/-! ## §3. The credentials of a page. -/

section Page

variable {handle : CredentialStoreHandle} {runtime : CredentialSetPool}
  {credentialSetId : CredentialSetId} {t now : Instant}

/-- A page shows each credential as it is shown alone.  The two lookups that a page makes for
all of its credentials agree with those of one. -/
theorem credentialStatusesWithLatestProbe_eq
    (hstore : handle.Agrees credentialSetId runtime.pool) (snapshots : List CredentialSnapshot) :
    credentialStatusesWithLatestProbe handle credentialSetId snapshots =
      snapshots.map (statusOf handle credentialSetId) := by
  unfold credentialStatusesWithLatestProbe
  refine List.map_congr_left fun snapshot hsnapshot => ?_
  have hmem : snapshot.id ∈ snapshots.map (·.id) := List.mem_map_of_mem hsnapshot
  unfold statusOf
  cases handle with
  | readOnlyFileBootstrap => rfl
  | sqlite store =>
      have hprobe := (hstore store rfl).1.find_latestProbeResults credentialSetId hmem
      have hposition := @ProbeStore.loadCredentialPositions_eq credentialSetId store _ _ hmem
      unfold CredentialStoreHandle.latestProbesFor CredentialStoreHandle.credentialPositionsFor
      dsimp only
      rw [hprobe, hposition]
      rfl

/-- The pool's listing without a filter is that of all credentials. -/
theorem matching_all (p : KeyPool) (now : Instant) :
    p.matching now .all = p.credentials.map fun credential => credential.snapshot now now := by
  unfold KeyPool.matching
  congr 1
  exact List.filter_eq_self.mpr fun credential _ => rfl

/-- The plain list, credential by credential. -/
theorem plainCredentialStatuses_all (p : KeyPool) (probeFilter : CredentialProbeFilter) :
    plainCredentialStatuses handle credentialSetId p now .all probeFilter =
      (p.credentials.filter fun credential => probeFilterMatches probeFilter
        ((handle.latestProbe credentialSetId credential.id).map credentialProbeResultStatus)).map
        fun credential => statusOf handle credentialSetId (credential.snapshot now now) := by
  unfold plainCredentialStatuses
  rw [matching_all, List.map_map, List.filter_map]
  rfl

/-- The credentials behind some ids of the pool.  Ids that the pool does not have would be left
out; here all of them are the pool's. -/
theorem snapshotsOfIds_eq (hpool : WellFormed t runtime.pool) {credentials : List Credential}
    (hmem : ∀ credential ∈ credentials, credential ∈ runtime.pool.credentials) :
    snapshotsOfIds runtime.pool (fun _ => .at' now) (credentials.map (·.id)) =
      credentials.map fun credential => credential.snapshot now now := by
  have hids : snapshotsOfIds runtime.pool (fun _ => .at' now) (credentials.map (·.id)) =
      (credentials.map (·.id)).filterMap fun id =>
        runtime.pool.credentialSnapshotById id now now := by
    show (credentials.map (·.id)).zipIdx.filterMap
      ((fun id => runtime.pool.credentialSnapshotById id now now) ∘ Prod.fst) = _
    rw [← List.filterMap_map, List.zipIdx_map_fst]
  rw [hids, List.filterMap_map, ← List.filterMap_eq_map]
  refine List.filterMap_congr fun credential hcredential => ?_
  obtain ⟨i, hi⟩ := List.getElem?_of_mem (hmem credential hcredential)
  have hindex : runtime.pool.indexForId credential.id = some i :=
    (hpool.indexForId_eq hi).mpr rfl
  show (runtime.pool.indexForId credential.id).bind
    (fun index => runtime.pool.snapshotAt index now now) = _
  rw [hindex]
  show (runtime.pool.credentials[i]?).map _ = _
  rw [hi]
  rfl

/-- A page of ids of the pool is the page of the credentials.  A filter on ids is the filter on
credentials that the plain list uses. -/
theorem credentialStatuses_of_ids (hpool : WellFormed t runtime.pool)
    (hstore : handle.Agrees credentialSetId runtime.pool) {probeFilter : CredentialProbeFilter}
    {keep : CredentialId → Bool} (hkeep : ∀ id, probeFilterMatches probeFilter
      ((handle.latestProbe credentialSetId id).map credentialProbeResultStatus) = keep id)
    (offset limit : Nat) :
    let found := (runtime.pool.credentials.map (·.id)).filter keep
    let plain := plainCredentialStatuses handle credentialSetId runtime.pool now .all probeFilter
    found.length = plain.length ∧
      credentialStatusesWithLatestProbe handle credentialSetId
          (snapshotsOfIds runtime.pool (fun _ => .at' now) (page 0 offset limit found)) =
        page 0 offset limit plain := by
  intro found plain
  have hplain : plain = (runtime.pool.credentials.filter fun credential =>
      keep credential.id).map fun credential =>
        statusOf handle credentialSetId (credential.snapshot now now) := by
    show plainCredentialStatuses _ _ _ _ _ _ = _
    rw [plainCredentialStatuses_all]
    simp only [hkeep]
  have hfound : found = (runtime.pool.credentials.filter fun credential =>
      keep credential.id).map (·.id) := List.filter_map
  refine ⟨by rw [hplain, hfound, List.length_map, List.length_map], ?_⟩
  have hpage : page 0 offset limit found = (page 0 offset limit
      (runtime.pool.credentials.filter fun credential => keep credential.id)).map (·.id) := by
    unfold page
    rw [hfound, List.map_take, List.map_drop]
  rw [hpage, snapshotsOfIds_eq hpool, credentialStatusesWithLatestProbe_eq hstore, hplain]
  · unfold page
    rw [List.map_map, List.map_take, List.map_drop]
    rfl
  · intro credential hcredential
    exact (List.mem_filter.mp (List.mem_of_mem_drop (List.mem_of_mem_take hcredential))).1

/-! ## §4. The scan. -/

/-- The loop of the scan counts what the filter accepts, and collects a page of it. -/
theorem probeFilterStep_eq (probeFilter : CredentialProbeFilter) (offset limit : Nat) :
    probeFilterStep probeFilter offset limit =
      collect (fun status => probeFilterMatches probeFilter status.latestProbe) offset limit := by
  funext acc status
  unfold probeFilterStep collect
  dsimp only
  by_cases hmatch : probeFilterMatches probeFilter status.latestProbe = true
  · rw [if_pos hmatch, hmatch]
    rfl
  · rw [if_neg hmatch, Bool.eq_false_of_not_eq_true hmatch]
    rfl

/-- Turn by turn the scan has seen the credentials of the state up to some position. -/
theorem scanProbeFilter_eq (hstore : handle.Agrees credentialSetId runtime.pool)
    (stateFilter : CredentialSnapshotFilter) (probeFilter : CredentialProbeFilter)
    (offset limit turn : Nat) :
    let statuses := (runtime.pool.matching now stateFilter).map (statusOf handle credentialSetId)
    let seen := (statuses.take (turn * 256)).filter fun status =>
      probeFilterMatches probeFilter status.latestProbe
    let plain := plainCredentialStatuses handle credentialSetId runtime.pool now stateFilter
      probeFilter
    scanProbeFilter handle runtime credentialSetId (fun _ _ => .at' now) stateFilter probeFilter
        offset limit turn (seen.length, page 0 offset limit seen) =
      (plain.length, page 0 offset limit plain) := by
  induction hleft : (runtime.pool.matching now stateFilter).length - turn * 256
    using Nat.strong_induction_on generalizing turn with
  | _ left ih =>
      intro statuses seen plain
      have hpage : runtime.pool.credentialSnapshotPage (fun _ => .at' now) stateFilter
          (turn * 256) 256 = ⟨runtime.pool.credentials.length,
            (runtime.pool.matching now stateFilter).length,
            page 0 (turn * 256) 256 (runtime.pool.matching now stateFilter)⟩ := by
        rw [KeyPool.credentialSnapshotPage_spec, KeyPool.filter_snapshotsAt]
      have hsize : credentialProbeFilterScanPageSize = 256 := rfl
      have hstatuses : statuses.length = (runtime.pool.matching now stateFilter).length :=
        List.length_map _
      -- at the end all have been seen
      have hdone : ∀ n, (runtime.pool.matching now stateFilter).length ≤ n →
          (statuses.take n).filter (fun status =>
            probeFilterMatches probeFilter status.latestProbe) = plain := by
        intro n hn
        rw [List.take_of_length_le (hstatuses.trans_le hn)]
        rfl
      rw [scanProbeFilter]
      dsimp only
      rw [hsize, hpage]
      dsimp only
      by_cases hempty : (page 0 (turn * 256) 256
          (runtime.pool.matching now stateFilter)).isEmpty = true
      · have hnone : (page 0 (turn * 256) 256
            (runtime.pool.matching now stateFilter)).length = 0 :=
          List.length_eq_zero_iff.mpr (List.isEmpty_iff.mp hempty)
        unfold page at hnone
        rw [List.length_take, List.length_drop] at hnone
        have hall : seen = plain := hdone _ (by omega)
        rw [if_pos hempty, hall]
      · -- one turn: the statuses of the page are seen too
        have hnext : seen ++ ((page 0 (turn * 256) 256 (runtime.pool.matching now
              stateFilter)).map (statusOf handle credentialSetId)).filter (fun status =>
                probeFilterMatches probeFilter status.latestProbe) =
            (statuses.take ((turn + 1) * 256)).filter (fun status =>
              probeFilterMatches probeFilter status.latestProbe) := by
          unfold page
          rw [Nat.add_mul, Nat.one_mul, List.take_add, List.filter_append, List.map_take,
            List.map_drop]
          rfl
        rw [if_neg hempty, credentialStatusesWithLatestProbe_eq hstore, probeFilterStep_eq,
          foldl_collect, hnext]
        by_cases hlast : (runtime.pool.matching now stateFilter).length ≤ (turn + 1) * 256
        · rw [if_pos hlast, hdone _ hlast]
        · rw [if_neg hlast]
          exact ih _ (by omega) (turn + 1) rfl

/-! ## §5. The four ways. -/

variable (channelIds : List ChannelId) (now : Instant)

/-- The page of the plain list, as a response. -/
def plainListing (handle : CredentialStoreHandle) (runtime : CredentialSetPool)
    (credentialSetId : CredentialSetId) (channelIds : List ChannelId) (now : Instant)
    (offset limit : Nat) (stateFilter : CredentialSnapshotFilter)
    (probeFilter : CredentialProbeFilter) : CredentialSetCredentialsResponse :=
  let plain := plainCredentialStatuses handle credentialSetId runtime.pool now stateFilter
    probeFilter
  credentialSetCredentialsResponse runtime credentialSetId channelIds
    runtime.pool.credentials.length plain.length offset limit stateFilter probeFilter
    ((plain.drop offset).take limit)

/-- A page found by the database is the page of the plain list.  The database gives the window
and the number of all that match, which are those of the plain list since its rows are in pool
order. -/
theorem responseForIdPage_eq (hpool : WellFormed t runtime.pool)
    (hstore : handle.Agrees credentialSetId runtime.pool) {probeFilter : CredentialProbeFilter}
    {keep : CredentialId → Bool} (hkeep : ∀ id, probeFilterMatches probeFilter
      ((handle.latestProbe credentialSetId id).map credentialProbeResultStatus) = keep id)
    (offset limit : Nat) :
    let found := (runtime.pool.credentials.map (·.id)).filter keep
    credentialSetCredentialsResponseForIdPage handle runtime credentialSetId channelIds
        (fun _ _ => .at' now) ⟨found.length, page 0 offset limit found⟩ offset limit .all
        probeFilter =
      plainListing handle runtime credentialSetId channelIds now offset limit .all
        probeFilter := by
  intro found
  obtain ⟨hlength, hpage⟩ :=
    @credentialStatuses_of_ids _ _ _ _ now hpool hstore _ _ hkeep offset limit
  have htotal := (runtime.pool.snapshot_spec (Readings.at' now).third).2.2.1
  unfold credentialSetCredentialsResponseForIdPage plainListing
  dsimp only
  rw [htotal, hlength, hpage]
  rfl

/-- A page of the pool is the page of the plain list.  Without a probe filter the pool alone
decides which credentials are on it. -/
theorem responseForSnapshotPage_eq (hstore : handle.Agrees credentialSetId runtime.pool)
    (stateFilter : CredentialSnapshotFilter) (offset limit : Nat) :
    credentialSetCredentialsResponseForSnapshotPage handle runtime credentialSetId channelIds
        (fun _ _ => .at' now) offset limit stateFilter .all =
      plainListing handle runtime credentialSetId channelIds now offset limit stateFilter
        .all := by
  have hplain : plainCredentialStatuses handle credentialSetId runtime.pool now stateFilter .all =
      (runtime.pool.matching now stateFilter).map (statusOf handle credentialSetId) :=
    List.filter_eq_self.mpr fun status _ => rfl
  unfold credentialSetCredentialsResponseForSnapshotPage plainListing
  dsimp only
  rw [KeyPool.credentialSnapshotPage_spec, KeyPool.filter_snapshotsAt, hplain,
    credentialStatusesWithLatestProbe_eq hstore]
  dsimp only
  unfold page
  rw [List.length_map, List.map_take, List.map_drop]
  rfl

/-- A page found by the scan is the page of the plain list.  The scan goes on through the pool
in pages of its own, and keeps of each what matches; together they are the plain list. -/
theorem responseForProbeFilterPage_eq (hstore : handle.Agrees credentialSetId runtime.pool)
    (stateFilter : CredentialSnapshotFilter) (probeFilter : CredentialProbeFilter)
    (offset limit : Nat) :
    credentialSetCredentialsResponseForProbeFilterPage handle runtime credentialSetId channelIds
        (fun _ _ => .at' now) offset limit stateFilter probeFilter =
      plainListing handle runtime credentialSetId channelIds now offset limit stateFilter
        probeFilter := by
  have hscan := @scanProbeFilter_eq _ _ _ now hstore stateFilter probeFilter offset limit 0
  have hempty : page 0 offset limit ([] : List CredentialStatus) = [] := by
    unfold page
    rw [List.drop_nil, List.take_nil]
  dsimp only at hscan
  rw [Nat.zero_mul, List.take_zero, List.filter_nil, hempty, List.length_nil] at hscan
  unfold credentialSetCredentialsResponseForProbeFilterPage credentialStatusesMatchingProbeFilter
  dsimp only
  rw [hscan]
  rfl

theorem probeFilterMatches_outcome {probeFilter : CredentialProbeFilter}
    {outcome : CredentialProbeOutcome} (h : probeFilterOutcome probeFilter = some outcome)
    (handle : CredentialStoreHandle) (credentialSetId : CredentialSetId) (id : CredentialId) :
    probeFilterMatches probeFilter
        ((handle.latestProbe credentialSetId id).map credentialProbeResultStatus) =
      (handle.latestProbe credentialSetId id).any (·.outcome == outcome) := by
  rw [probeFilterMatches_of_outcome h, Option.any_map]
  rfl

/-- The ids of a store's rows are those of the pool. -/
theorem CredentialStoreHandle.Agrees.ids {store : ProbeStore} {pool : KeyPool}
    (h : (CredentialStoreHandle.sqlite store).Agrees credentialSetId pool) :
    (inPositionOrder store.credentials credentialSetId).map (·.credentialId) =
      (pool.credentials.map (·.id)).map some := by
  rw [(h store rfl).2, List.map_map]
  rfl

theorem WellFormed.nodup_ids {p : KeyPool} (h : WellFormed t p) :
    (p.credentials.map (·.id)).Nodup := by
  rw [List.Nodup, List.pairwise_map, List.pairwise_iff_getElem]
  intro i j hi hj hlt heq
  exact Nat.ne_of_lt hlt
    (h.index_unique (List.getElem?_eq_getElem hi) (List.getElem?_eq_getElem hj) heq)

variable {offset limit : Nat} (hoffset : offset < 2 ^ 63) (hlimit : limit < 2 ^ 63)

include hoffset hlimit

/-- The ids that the store answers for an outcome are those of the pool with that latest result.
-/
theorem outcomeIds_eq (hpool : WellFormed t runtime.pool)
    (hstore : handle.Agrees credentialSetId runtime.pool) (outcome : CredentialProbeOutcome) :
    let found := (runtime.pool.credentials.map (·.id)).filter fun id =>
      (handle.latestProbe credentialSetId id).any (·.outcome == outcome)
    credentialProbeOutcomeCredentialIdsForSet handle credentialSetId outcome offset limit =
      ⟨found.length, page 0 offset limit found⟩ := by
  cases handle with
  | readOnlyFileBootstrap =>
      -- without a store no credential has a result
      have hnone : ((runtime.pool.credentials.map (·.id)).filter fun id =>
          (CredentialStoreHandle.readOnlyFileBootstrap.latestProbe credentialSetId id).any
            (·.outcome == outcome)) = [] := List.filter_eq_nil_iff.mpr fun id _ => Bool.false_ne_true
      dsimp only
      rw [hnone]
      unfold page
      rw [List.drop_nil, List.take_nil]
      rfl
  | sqlite store =>
      have hids := (hstore store rfl).1.loadLatestProbeOutcomeCredentialIds_eq hstore.ids
        hpool.nodup_ids outcome offset limit
      dsimp only at hids
      rw [sqlWindow_eq hoffset hlimit] at hids
      exact hids

/-- An unprobed page of the store, if there is a store.  Without a store the index has no
answer, and the caller goes on to the scan. -/
theorem unprobedIds_eq (hstore : handle.Agrees credentialSetId runtime.pool) :
    let found := (runtime.pool.credentials.map (·.id)).filter fun id =>
      (handle.latestProbe credentialSetId id).isNone
    unprobedCredentialIdsForSet handle credentialSetId offset limit = .ok none ∨
      unprobedCredentialIdsForSet handle credentialSetId offset limit =
        .ok (some ⟨found.length, page 0 offset limit found⟩) := by
  cases handle with
  | readOnlyFileBootstrap => exact .inl rfl
  | sqlite store =>
      refine .inr ?_
      have hids := ProbeStore.loadUnprobedCredentialIds_eq hstore.ids offset limit
      dsimp only at hids
      unfold unprobedCredentialIdsForSet
      dsimp only
      rw [hids, sqlWindow_eq hoffset hlimit]
      rfl

/-- Where no outcome index is used, the page is that of the plain list too.  That leaves the
index of the unprobed, the pool's own page and the scan. -/
theorem responseWithoutOutcomeIndex_eq (hpool : WellFormed t runtime.pool)
    (hstore : handle.Agrees credentialSetId runtime.pool)
    (stateFilter : CredentialSnapshotFilter) (probeFilter : CredentialProbeFilter) :
    credentialSetCredentialsResponseWithoutOutcomeIndex handle runtime credentialSetId channelIds
        (fun _ _ => .at' now) offset limit stateFilter probeFilter =
      .ok (plainListing handle runtime credentialSetId channelIds now offset limit stateFilter
        probeFilter) := by
  have hscan := responseForProbeFilterPage_eq channelIds now hstore stateFilter probeFilter offset
    limit
  unfold credentialSetCredentialsResponseWithoutOutcomeIndex
  -- the three remaining ways: the unprobed from the store, a page of the pool, the scan
  by_cases hunprobed : stateFilter = .all ∧ probeFilter = .unprobed
  · rw [if_pos hunprobed]
    obtain ⟨rfl, rfl⟩ := hunprobed
    rcases unprobedIds_eq hoffset hlimit hstore with hids | hids
    · rw [hids, ← hscan]
      rfl
    · have hkeep : ∀ id, probeFilterMatches .unprobed
          ((handle.latestProbe credentialSetId id).map credentialProbeResultStatus) =
          (handle.latestProbe credentialSetId id).isNone := fun id => Option.isNone_map
      rw [hids, ← responseForIdPage_eq channelIds now hpool hstore hkeep]
      rfl
  · rw [if_neg hunprobed]
    by_cases hall : probeFilter = .all
    · subst hall
      rw [← responseForSnapshotPage_eq channelIds now hstore]
      rfl
    · rw [← hscan]
      show (if probeFilter = .all then _ else _) = _
      rw [if_neg hall]
      rfl

/-- Whatever way a page takes.  The tests of the source only choose between ways that all give
the plain list. -/
theorem responseForSetPage_eq (hpool : WellFormed t runtime.pool)
    (hstore : handle.Agrees credentialSetId runtime.pool)
    (stateFilter : CredentialSnapshotFilter) (probeFilter : CredentialProbeFilter) :
    credentialSetCredentialsResponseForSetPage handle runtime credentialSetId channelIds
        (fun _ _ => .at' now) offset limit stateFilter probeFilter =
      .ok (plainListing handle runtime credentialSetId channelIds now offset limit stateFilter
        probeFilter) := by
  unfold credentialSetCredentialsResponseForSetPage
  cases hindex : if stateFilter = .all then probeFilterOutcome probeFilter else none with
  | none =>
      dsimp only
      exact responseWithoutOutcomeIndex_eq channelIds now hoffset hlimit hpool hstore stateFilter
        probeFilter
  | some outcome =>
      by_cases hstate : stateFilter = .all
      · subst hstate
        rw [if_pos rfl] at hindex
        dsimp only
        rw [outcomeIds_eq hoffset hlimit hpool hstore]
        exact congrArg Except.ok (responseForIdPage_eq channelIds now hpool hstore
          (probeFilterMatches_outcome hindex handle credentialSetId) offset limit)
      · rw [if_neg hstate] at hindex
        cases hindex

omit hoffset hlimit

/-! ## §6. The summary. -/

/-- The count that belongs to a filter. -/
def CredentialProbeSummaryStatus.countFor (summary : CredentialProbeSummaryStatus) :
    CredentialProbeFilter → Nat
  | .all => summary.totalCredentials
  | .success => summary.success
  | .invalid => summary.invalid
  | .quotaExhausted => summary.quotaExhausted
  | .rateLimited => summary.rateLimited
  | .providerUnavailable => summary.providerUnavailable
  | .unsupportedModel => summary.unsupportedModel
  | .unknown => summary.unknown
  | .unprobed => summary.unprobedCredentials

/-- The credentials whose latest result has an outcome. -/
def countOutcome (handle : CredentialStoreHandle) (credentialSetId : CredentialSetId)
    (credentialIds : List CredentialId) (outcome : CredentialProbeOutcome) : Nat :=
  (credentialIds.filter fun id =>
    (handle.latestProbe credentialSetId id).any (·.outcome == outcome)).length

def countUnprobed (handle : CredentialStoreHandle) (credentialSetId : CredentialSetId)
    (credentialIds : List CredentialId) : Nat :=
  (credentialIds.filter fun id => (handle.latestProbe credentialSetId id).isNone).length

theorem countOutcome_cons (handle : CredentialStoreHandle) (credentialSetId : CredentialSetId)
    (id : CredentialId) (ids : List CredentialId) (outcome : CredentialProbeOutcome) :
    countOutcome handle credentialSetId (id :: ids) outcome =
      countOutcome handle credentialSetId ids outcome +
        if (handle.latestProbe credentialSetId id).map (·.outcome) = some outcome then 1
        else 0 := by
  unfold countOutcome
  rw [← List.countP_eq_length_filter, ← List.countP_eq_length_filter, List.countP_cons]
  congr 1
  refine if_congr ?_ rfl rfl
  cases handle.latestProbe credentialSetId id with
  | none => simp
  | some record => simp

theorem countUnprobed_cons (handle : CredentialStoreHandle) (credentialSetId : CredentialSetId)
    (id : CredentialId) (ids : List CredentialId) :
    countUnprobed handle credentialSetId (id :: ids) =
      countUnprobed handle credentialSetId ids +
        if (handle.latestProbe credentialSetId id).map (·.outcome) = none then 1 else 0 := by
  unfold countUnprobed
  rw [← List.countP_eq_length_filter, ← List.countP_eq_length_filter, List.countP_cons]
  congr 1
  exact if_congr (by simp) rfl rfl

/-- A credential has no result, or its latest one has exactly one outcome.  Counting the
credentials by outcome, and those without a result, leaves none out. -/
theorem countOutcome_partition (handle : CredentialStoreHandle)
    (credentialSetId : CredentialSetId) (credentialIds : List CredentialId) :
    let count := countOutcome handle credentialSetId credentialIds
    count .success + count .invalid + count .quotaExhausted + count .rateLimited +
        count .providerUnavailable + count .unsupportedModel + count .unknown +
      countUnprobed handle credentialSetId credentialIds = credentialIds.length := by
  induction credentialIds with
  | nil => rfl
  | cons id ids ih =>
      dsimp only at ih ⊢
      simp only [countOutcome_cons, countUnprobed_cons, List.length_cons]
      cases (handle.latestProbe credentialSetId id).map (·.outcome) with
      | none =>
          simp only [reduceCtorEq, if_false, if_true]
          omega
      | some outcome =>
          cases outcome <;>
            simp only [reduceCtorEq, Option.some.injEq, if_false, if_true] <;>
            omega

/-- The record behind the summary counts the credentials of the pool.  The store counts
results, of which every credential has at most one that is the latest. -/
theorem summaryStatusFromStore_eq (hpool : WellFormed t runtime.pool)
    (hstore : handle.Agrees credentialSetId runtime.pool) (totalCredentials : Nat) :
    let count := countOutcome handle credentialSetId (runtime.pool.credentials.map (·.id))
    credentialSetProbeSummaryStatusFromStore handle credentialSetId totalCredentials =
      credentialProbeSummaryStatus totalCredentials ⟨count .success, count .invalid,
        count .quotaExhausted, count .rateLimited, count .providerUnavailable,
        count .unsupportedModel, count .unknown⟩ := by
  intro count
  cases handle with
  | readOnlyFileBootstrap =>
      have hnone : ∀ outcome, count outcome = 0 := fun outcome =>
        List.length_eq_zero_iff.mpr
          (List.filter_eq_nil_iff.mpr fun id _ => Bool.false_ne_true)
      simp only [hnone]
      rfl
  | sqlite store =>
      have hcount : ∀ outcome,
          ((store.latestProbeResults credentialSetId fun _ => true).countP fun record =>
            record.outcome == outcome) = count outcome := by
        intro outcome
        rw [List.countP_eq_length_filter]
        exact (hstore store rfl).1.length_filter_latest hstore.ids hpool.nodup_ids outcome
      unfold credentialSetProbeSummaryStatusFromStore ProbeStore.loadProbeSummaryForCredentialSet
      dsimp only
      simp only [hcount]

/-- The plain lists, counted by the ids of the pool. -/
theorem length_plainCredentialStatuses (pool : KeyPool) (now : Instant)
    {probeFilter : CredentialProbeFilter} {keep : CredentialId → Bool}
    (hkeep : ∀ id, probeFilterMatches probeFilter
      ((handle.latestProbe credentialSetId id).map credentialProbeResultStatus) = keep id) :
    (plainCredentialStatuses handle credentialSetId pool now .all probeFilter).length =
      ((pool.credentials.map (·.id)).filter keep).length := by
  rw [plainCredentialStatuses_all]
  simp only [hkeep]
  rw [List.length_map, List.filter_map, List.length_map]
  rfl

/-- The summary of the store counts what the plain list has.  So the numbers above a listing
are the totals that it shows for each filter. -/
theorem summary_countFor (hpool : WellFormed t runtime.pool)
    (hstore : handle.Agrees credentialSetId runtime.pool) (probeFilter : CredentialProbeFilter) :
    (credentialSetProbeSummaryStatusFromStore handle credentialSetId
        runtime.pool.credentials.length).countFor probeFilter =
      (plainCredentialStatuses handle credentialSetId runtime.pool now .all
        probeFilter).length := by
  have hsummary := @summaryStatusFromStore_eq handle runtime credentialSetId t hpool hstore
    runtime.pool.credentials.length
  have hpartition := countOutcome_partition handle credentialSetId
    (runtime.pool.credentials.map (·.id))
  -- a filter that stands for an outcome keeps the credentials that are counted for it
  have houtcome : ∀ outcome, probeFilterOutcome probeFilter = some outcome →
      (plainCredentialStatuses handle credentialSetId runtime.pool now .all probeFilter).length =
        countOutcome handle credentialSetId (runtime.pool.credentials.map (·.id)) outcome :=
    fun outcome h => length_plainCredentialStatuses _ _
      (probeFilterMatches_outcome h handle credentialSetId)
  dsimp only at hsummary hpartition
  rw [hsummary]
  rw [List.length_map] at hpartition
  cases probeFilter with
  | all =>
      rw [plainCredentialStatuses_all, List.length_map]
      exact (congrArg List.length (List.filter_eq_self.mpr fun credential _ => rfl)).symm
  | unprobed =>
      have hkeep : ∀ id, probeFilterMatches .unprobed
          ((handle.latestProbe credentialSetId id).map credentialProbeResultStatus) =
          (handle.latestProbe credentialSetId id).isNone := fun id => Option.isNone_map
      -- the summary has no count of its own for these: it is what the outcomes leave
      rw [length_plainCredentialStatuses _ _ hkeep]
      show runtime.pool.credentials.length - _ = countUnprobed _ _ _
      dsimp only
      omega
  | success => exact (houtcome _ rfl).symm
  | invalid => exact (houtcome _ rfl).symm
  | quotaExhausted => exact (houtcome _ rfl).symm
  | rateLimited => exact (houtcome _ rfl).symm
  | providerUnavailable => exact (houtcome _ rfl).symm
  | unsupportedModel => exact (houtcome _ rfl).symm
  | unknown => exact (houtcome _ rfl).symm

end Page

/-- With a store whose rows of the set are the credentials of the pool, in the same order:
every page is a page of the plain list, whichever index or loop it comes from, and the
summary of the set counts the plain lists. -/
theorem credential_listing_is_plain {handle : CredentialStoreHandle}
    {runtime : CredentialSetPool} {credentialSetId : CredentialSetId} {clock : Instant}
    (hpool : poolSystem.Reachable ⟨runtime.pool, clock⟩)
    (hstore : ∀ store, handle = .sqlite store → probeStoreSystem.Reachable store ∧
      (inPositionOrder store.credentials credentialSetId).map (·.credentialId) =
        runtime.pool.credentials.map fun credential => some credential.id)
    (channelIds : List ChannelId) (now : Instant) (probeFilter : CredentialProbeFilter) :
    (∀ offset limit stateFilter, offset < 2 ^ 63 → limit < 2 ^ 63 →
      credentialSetCredentialsResponseForSetPage handle runtime credentialSetId channelIds
          (fun _ _ => .at' now) offset limit stateFilter probeFilter =
        .ok (plainListing handle runtime credentialSetId channelIds now offset limit stateFilter
          probeFilter)) ∧
    (credentialSetProbeSummaryStatusFromStore handle credentialSetId
        runtime.pool.credentials.length).countFor probeFilter =
      (plainCredentialStatuses handle credentialSetId runtime.pool now .all
        probeFilter).length := by
  have hwf := poolSystem_wellFormed hpool
  have hagrees : handle.Agrees credentialSetId runtime.pool := fun store hsqlite =>
    ⟨probeStore_valid (hstore store hsqlite).1, (hstore store hsqlite).2⟩
  exact ⟨fun offset limit stateFilter hoffset hlimit => responseForSetPage_eq channelIds now hoffset
      hlimit hwf hagrees stateFilter probeFilter,
    summary_countFor now hwf hagrees probeFilter⟩

/-- A row of the pair's credentials. -/
def pairRow (credentialId : CredentialId) (position : Nat) : CredentialRow where
  credentialSetId := "set"
  credentialId := some credentialId
  secret := "secret"
  sourcePath := none
  sourceLine := none
  batchId := none
  fingerprint := "fingerprint"
  label := none
  note := none
  position := position
  firstImportedAtUnixSeconds := 0
  lastSeenAtUnixSeconds := 0

def secondId : CredentialId := (Credential.withSource "ns" "k2" .unknown).id

def pairRows : ProbeStore := ⟨[pairRow firstId 0, pairRow secondId 1], [], 0⟩

def pairProbe (outcome : CredentialProbeOutcome) : CredentialProbeResultRecordInput where
  credentialSetId := "set"
  credentialId := firstId
  channelId := "channel"
  providerId := "provider"
  accountId := "account"
  outcome := outcome
  classifierId := none
  adaptationRuleId := none
  upstreamStatus := none
  upstreamCode := none
  upstreamLimitType := none
  latencyMs := 10

/-- The first credential was out of quota, and works again. -/
def probedPair : ProbeStore :=
  ((pairRows.recordProbeResult (pairProbe .quotaExhausted) 1 none).1.recordProbeResult
    (pairProbe .success) 2 none).1

theorem reachable_probedPair : probeStoreSystem.Reachable probedPair := by
  have h₀ : probeStoreSystem.Init pairRows := ⟨rfl, rfl⟩
  have h₁ : probeStoreSystem.Step pairRows (.record (pairProbe .quotaExhausted) 1 none) _ := rfl
  have h₂ : probeStoreSystem.Step _ (.record (pairProbe .success) 2 none) probedPair := rfl
  exact ((TransitionSystem.Reachable.init h₀).step h₁).step h₂

def pairReport : KeyImportReport where
  sourcePath := "keys.txt"
  physicalLineCount := 2
  nonEmptyCount := 2
  uniqueCount := 2
  duplicateOccurrenceCount := 0
  ignoredEmptyCount := 0
  invalidLineCount := 0
  claimedCount := none
  claimSource := none
  importGeneration := 1
  lastImportedAtUnixSeconds := 0
  duplicateFingerprints := []

/-- The latest result of a credential is what counts: the first one is listed as a success, and no
longer as out of quota. The other has never been probed. -/
theorem credential_listing_is_plain_pair :
    let runtime : CredentialSetPool := ⟨pairStart.pool, 0, pairReport⟩
    let plain := plainCredentialStatuses (.sqlite probedPair) "set" pairStart.pool 0 .all
    (plain .success).map (·.id) = [firstId] ∧ plain .quotaExhausted = [] ∧
      (plain .unprobed).map (·.id) = [secondId] ∧
      credentialSetCredentialsResponseForSetPage (.sqlite probedPair) runtime "set" []
          (fun _ _ => .at' 0) 0 10 .all .success =
        .ok (plainListing (.sqlite probedPair) runtime "set" [] 0 0 10 .all .success) := by
  intro runtime plain
  have hstore : ∀ store, CredentialStoreHandle.sqlite probedPair = .sqlite store →
      probeStoreSystem.Reachable store ∧
        (inPositionOrder store.credentials "set").map (·.credentialId) =
          runtime.pool.credentials.map fun credential => some credential.id := by
    intro store hsqlite
    cases hsqlite
    have hsorted : inPositionOrder probedPair.credentials "set" = probedPair.credentials :=
      List.mergeSort_of_pairwise (by decide)
    refine ⟨reachable_probedPair, ?_⟩
    rw [hsorted]
    decide
  have hpool : poolSystem.Reachable ⟨runtime.pool, 0⟩ := .init pairStart_init
  have h := credential_listing_is_plain hpool hstore [] 0 .success
  exact ⟨by decide +kernel, by decide +kernel, by decide +kernel, h.1 0 10 .all (by decide) (by decide)⟩

end OneAiKey
