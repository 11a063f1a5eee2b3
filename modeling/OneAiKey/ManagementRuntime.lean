/-
  OneAiKey.ManagementRuntime — the runtime as the health endpoints show it
  (`collect_runtime_snapshot` and its callers in `src/management_runtime.rs`).

  One loop goes over the credential sets of the catalogs and samples each through
  the first of its channels that the registry knows; another goes over the channels
  and counts those that can serve.  Both share one cache of samples.

  The lengths of the event windows are read beside the loops and are left out, as
  are the alerts of the response filter, of which only the number is used.

  Main results:
    * `collectRuntimeSnapshot_eq` — of a registry that fits its catalogs, both loops
      compute their counts from the pools as they are.
-/
import OneAiKey.ManagementStatus
import OneAiKey.Pool.Admission
import OneAiKey.ReloadDiff.Budget

namespace OneAiKey

open Std
open Grouping

/-! ## §1. The topologies. -/

/-- The retry settings over all channels. -/
structure RuntimeTopologySummary where
  channels : Nat
  sameRequestRetryEnabledChannels : Nat
  maxSameRequestRetries : Nat
  deriving DecidableEq, Repr

/-- The settings with those of one more channel. -/
def RuntimeTopologySummary.addChannel (summary : RuntimeTopologySummary)
    (poolConfig : FullPoolConfig) : RuntimeTopologySummary :=
  let summary := { summary with channels := summary.channels + 1 }
  if poolConfig.routingPolicy.retrySwitchedKeyInSameRequest then
    { summary with
      sameRequestRetryEnabledChannels := summary.sameRequestRetryEnabledChannels + 1
      maxSameRequestRetries :=
        max summary.maxSameRequestRetries poolConfig.routingPolicy.maxSameRequestRetries }
  else summary

namespace RuntimeCatalogSnapshot

/-- The settings of the channels of the catalogs. -/
def runtimeTopologySummary (catalogs : RuntimeCatalogSnapshot) : RuntimeTopologySummary :=
  catalogs.managementProjection.foldl (fun summary entry => summary.addChannel entry.2) ⟨0, 0, 0⟩

/-- The channels that use a set (`CredentialSetTopologyProjectionBuilder`). -/
def credentialSetChannelIds (catalogs : RuntimeCatalogSnapshot)
    (credentialSetId : CredentialSetId) : List String :=
  sortedTexts ((catalogs.managementProjection.filter fun entry =>
    entry.2.credentialSetId == credentialSetId).map Prod.fst)

theorem runtimeTopologySummary_channels (catalogs : RuntimeCatalogSnapshot) :
    catalogs.runtimeTopologySummary.channels = catalogs.managementProjection.length := by
  have hloop : ∀ (entries : List (String × FullPoolConfig)) (summary : RuntimeTopologySummary),
      (entries.foldl (fun summary entry => summary.addChannel entry.2) summary).channels =
        summary.channels + entries.length := by
    intro entries
    induction entries with
    | nil => exact fun _ => rfl
    | cons entry entries ih =>
        intro summary
        have hone : (summary.addChannel entry.2).channels = summary.channels + 1 := by
          unfold RuntimeTopologySummary.addChannel
          cases entry.2.routingPolicy.retrySwitchedKeyInSameRequest <;> rfl
        rw [List.foldl_cons, ih, hone, List.length_cons]
        omega
  unfold runtimeTopologySummary
  rw [hloop, Nat.zero_add]

end RuntimeCatalogSnapshot

/-! ## §2. The two loops. -/

/-- The clock at the readings of one answer: when a set is sampled, and the two comparisons
of a channel's health. -/
structure SnapshotReadings where
  sampledAt : CredentialSetId → Instant
  cooldownAt : String → Instant
  routingAt : String → Instant

/-- All readings show one value. -/
def SnapshotReadings.at' (now : Instant) : SnapshotReadings where
  sampledAt := fun _ => now
  cooldownAt := fun _ => now
  routingAt := fun _ => now

/-- The counts that the health pages are made of. -/
structure RuntimeSnapshotSample where
  channels : Nat
  credentials : RuntimeCredentialCounts
  topologySummary : RuntimeTopologySummary
  routeTargetRetryEnabledChannels : Nat
  sameRequestCredentialRetryAttemptCapacity : Nat
  servingChannels : Nat
  credentialSetBlockingAlerts : Nat
  operatorInputAlerts : Nat
  credentialSetsWithoutSpare : Nat
  channelsCoolingDown : Nat
  deriving DecidableEq, Repr

/-- What the loop over the sets has counted. -/
structure CredentialSetTotals where
  credentials : RuntimeCredentialCounts
  operatorInputAlerts : Nat
  credentialSetBlockingAlerts : Nat
  credentialSetsWithoutSpare : Nat
  deriving DecidableEq, Repr

/-- The totals with one more credential set. -/
def CredentialSetTotals.addSample (totals : CredentialSetTotals)
    (sample : CredentialSetRuntimeSample) : CredentialSetTotals where
  credentials := totals.credentials.add sample.counts
  operatorInputAlerts :=
    if sample.readiness.needsOperatorInput then totals.operatorInputAlerts + 1
    else totals.operatorInputAlerts
  credentialSetBlockingAlerts :=
    if sample.readiness.blocking then totals.credentialSetBlockingAlerts + 1
    else totals.credentialSetBlockingAlerts
  credentialSetsWithoutSpare :=
    if sample.counts.available < 2 then totals.credentialSetsWithoutSpare + 1
    else totals.credentialSetsWithoutSpare

/-- What the loop over the channels has counted. -/
structure ChannelTotals where
  servingChannels : Nat
  channelsCoolingDown : Nat
  deriving DecidableEq, Repr

/-- `matches!(health, CoolingDown { until, .. } if now < until)`. -/
def ChannelHealth.isCoolingDownAt (now : Instant) : ChannelHealth → Bool
  | coolingDown untilInstant _ => decide (now < untilInstant)
  | _ => false

namespace ChannelRegistrySnapshot

section Loops

variable (channels : ChannelRegistrySnapshot) (clock : SnapshotReadings)

/-- `runtime_sample_for` on a channel, whose reference leads to a pool. -/
def runtimeSampleFor (cache : CredentialSetSnapshotCache) (channel : RegistryChannel) :
    Option (CredentialSetRuntimeSample × CredentialSetSnapshotCache) :=
  (channels.credentialSetRuntimes[channel.poolState.pool]?).map fun pool =>
    cache.runtimeSampleFor channel.poolState.credentialSetId
      (pool.snapshot (clock.sampledAt channel.poolState.credentialSetId))

/-- The channels of a set, up to the first that is known. -/
def sampleFirstChannel (cache : CredentialSetSnapshotCache) :
    List String → Option (CredentialSetRuntimeSample × CredentialSetSnapshotCache)
  | [] => none
  | channelId :: channelIds =>
      match (channels.get channelId).bind (channels.runtimeSampleFor clock cache) with
      | some sampled => some sampled
      | none => sampleFirstChannel cache channelIds

/-- One turn of the loop over the sets. -/
def addCredentialSet (acc : CredentialSetTotals × CredentialSetSnapshotCache)
    (channelIds : List String) : CredentialSetTotals × CredentialSetSnapshotCache :=
  match channels.sampleFirstChannel clock acc.2 channelIds with
  | some (sample, cache) => (acc.1.addSample sample, cache)
  | none => acc

/-- One turn of the loop over the channels. -/
def addChannel (acc : ChannelTotals × CredentialSetSnapshotCache) (channelId : String) :
    ChannelTotals × CredentialSetSnapshotCache :=
  match channels.get channelId with
  | none => acc
  | some channel =>
      if !channel.configuredEnabled || !channel.accountEnabled then acc
      else
        let totals :=
          if channel.health.isCoolingDownAt (clock.cooldownAt channelId) then
            { acc.1 with channelsCoolingDown := acc.1.channelsCoolingDown + 1 }
          else acc.1
        -- a channel that is cooling down is counted as such and serves nobody
        if !channel.health.isAvailableForRouting (clock.routingAt channelId) &&
            !channel.health.isDegraded then
          (totals, acc.2)
        else
          match channels.runtimeSampleFor clock acc.2 channel with
          | none => (totals, acc.2)
          | some (sample, cache) =>
              if sample.hasAvailableCredentials then
                ({ totals with servingChannels := totals.servingChannels + 1 }, cache)
              else (totals, cache)

end Loops

end ChannelRegistrySnapshot

/-- The counts of one walk over credential sets and channels. -/
def collectRuntimeSnapshot (channels : ChannelRegistrySnapshot)
    (catalogs : RuntimeCatalogSnapshot) (clock : SnapshotReadings) : RuntimeSnapshotSample :=
  let (sets, cache) :=
    (catalogs.credentialSetTopologies.map fun topology =>
      catalogs.credentialSetChannelIds topology.id).foldl (channels.addCredentialSet clock)
        (⟨.zero, 0, 0, 0⟩, ∅)
  let (serving, _) :=
    (catalogs.channelTopologies.map (·.id)).foldl (channels.addChannel clock) (⟨0, 0⟩, cache)
  let policies := catalogs.managementProjection.map (·.2.routingPolicy)
  { channels := catalogs.runtimeTopologySummary.channels
    credentials := sets.credentials
    topologySummary := catalogs.runtimeTopologySummary
    routeTargetRetryEnabledChannels := policies.countP (·.routeTargetRetryEnabled)
    sameRequestCredentialRetryAttemptCapacity :=
      ((policies.filter (·.retrySwitchedKeyInSameRequest)).map (·.maxSameRequestRetries)).sum
    servingChannels := serving.servingChannels
    credentialSetBlockingAlerts := sets.credentialSetBlockingAlerts
    operatorInputAlerts := sets.operatorInputAlerts
    credentialSetsWithoutSpare := sets.credentialSetsWithoutSpare
    channelsCoolingDown := serving.channelsCoolingDown }

/-! ## §3. The answers. -/

/-- The answer of the readiness page. -/
structure ReadinessResponse where
  status : String
  channels : Nat
  servingChannels : Nat
  credentials : RuntimeCredentialCounts
  blockingAlerts : Nat
  operatorInputAlerts : Nat
  deriving DecidableEq, Repr

/-- Readiness by the counts. -/
def readinessResponse (sample : RuntimeSnapshotSample) : ReadinessResponse :=
  let projection :=
    runtimeReadinessProjection sample.servingChannels sample.credentialSetBlockingAlerts
  { status := projection.status
    channels := sample.channels
    servingChannels := sample.servingChannels
    credentials := sample.credentials
    blockingAlerts := projection.blockingAlerts
    operatorInputAlerts := sample.operatorInputAlerts }

/-- The answer of the serving page. -/
structure ServingHealthResponse where
  status : String
  serving : Bool
  servingChannels : Nat
  blockingAlerts : Nat
  blockingReasons : List String
  deriving DecidableEq, Repr

/-- Whether any channel serves, by the same counts. -/
def servingHealthResponse (sample : RuntimeSnapshotSample) : ServingHealthResponse :=
  let projection :=
    runtimeReadinessProjection sample.servingChannels sample.credentialSetBlockingAlerts
  { status := projection.status
    serving := decide (0 < sample.servingChannels)
    servingChannels := sample.servingChannels
    blockingAlerts := projection.blockingAlerts
    blockingReasons :=
      (if sample.servingChannels = 0 then ["no_serving_channels"] else []) ++
        (if 0 < sample.credentialSetBlockingAlerts then ["credential_set_blocking_alerts"]
          else []) }

/-- The answer of the resilience page. -/
structure ResilienceHealthResponse where
  status : String
  operatorInputAlerts : Nat
  credentialSetsWithoutSpare : Nat
  channelsCoolingDown : Nat
  responseFilterAlerts : Nat
  deriving DecidableEq, Repr

/-- How much is left to fail, by the same counts. -/
def resilienceHealthResponse (sample : RuntimeSnapshotSample) (responseFilterAlerts : Nat) :
    ResilienceHealthResponse where
  status :=
    if sample.servingChannels = 0 ∨ 0 < sample.credentialSetBlockingAlerts then "blocked"
    else if 0 < sample.operatorInputAlerts ∨ 0 < sample.credentialSetsWithoutSpare ∨
        0 < sample.channelsCoolingDown ∨ 0 < responseFilterAlerts then "degraded"
    else "ok"
  operatorInputAlerts := sample.operatorInputAlerts
  credentialSetsWithoutSpare := sample.credentialSetsWithoutSpare
  channelsCoolingDown := sample.channelsCoolingDown
  responseFilterAlerts := responseFilterAlerts

/-! ## §4. What the loops count. -/

/-- The count that belongs to a filter. -/
def RuntimeCredentialCounts.countFor (counts : RuntimeCredentialCounts) :
    CredentialSnapshotFilter → Nat
  | .all => counts.total
  | .available => counts.available
  | .coolingDown => counts.coolingDown
  | .expired => counts.expired
  | .quotaExhausted => counts.quotaExhausted
  | .disabled => counts.disabled

@[simp] theorem RuntimeCredentialCounts.countFor_zero (filter : CredentialSnapshotFilter) :
    RuntimeCredentialCounts.zero.countFor filter = 0 := by
  cases filter <;> rfl

@[simp] theorem RuntimeCredentialCounts.countFor_add (total counts : RuntimeCredentialCounts)
    (filter : CredentialSnapshotFilter) :
    (total.add counts).countFor filter = total.countFor filter + counts.countFor filter := by
  cases filter <;> rfl

/-- A sample counts the credentials of the pool that a filter asks for. -/
theorem countFor_sample (pool : KeyPool) (now : Instant) (filter : CredentialSnapshotFilter) :
    (credentialSetRuntimeSampleFromSnapshot (pool.snapshot now)).counts.countFor filter =
      filter.countIn now pool.credentials := by
  rw [← (pool.snapshot_spec now).1 filter]
  unfold credentialSetRuntimeSampleFromSnapshot addKeyPoolSnapshotCounts
    RuntimeCredentialCounts.zero
  cases filter <;> exact Nat.zero_add _

/-- What is asked of the operator, and what blocks. -/
theorem readiness_sample (pool : KeyPool) (now : Instant) :
    let sample := credentialSetRuntimeSampleFromSnapshot (pool.snapshot now)
    let available := CredentialSnapshotFilter.countIn now .available pool.credentials
    sample.readiness.needsOperatorInput = decide (available < 2) ∧
      sample.readiness.blocking = decide (available = 0) ∧
      sample.hasAvailableCredentials = decide (0 < available) := by
  intro sample available
  have hpartition : sample.counts.Partition := (sample_of_snapshot pool now).1
  have havailable : sample.counts.available = available := countFor_sample pool now .available
  obtain ⟨haccepts, hinput, -, -⟩ := operationalState_spec hpartition
  rw [havailable] at haccepts hinput
  refine ⟨?_, ?_, by rw [← havailable]; rfl⟩
  · show (credentialSetOperationalState sample.counts).needsOperatorInput = _
    rw [Bool.eq_iff_iff, hinput, decide_eq_true_iff]
  · show (!(credentialSetOperationalState sample.counts).acceptingRequests) = _
    rw [Bool.eq_iff_iff, Bool.not_eq_true', ← Bool.not_eq_true, haccepts, decide_eq_true_iff]
    omega

theorem CredentialSetTotals.foldl_addSample (samples : List CredentialSetRuntimeSample)
    (totals : CredentialSetTotals) :
    let result := samples.foldl addSample totals
    (∀ filter, result.credentials.countFor filter =
      totals.credentials.countFor filter + (samples.map (·.counts.countFor filter)).sum) ∧
    result.operatorInputAlerts =
      totals.operatorInputAlerts + samples.countP (·.readiness.needsOperatorInput) ∧
    result.credentialSetBlockingAlerts =
      totals.credentialSetBlockingAlerts + samples.countP (·.readiness.blocking) ∧
    result.credentialSetsWithoutSpare =
      totals.credentialSetsWithoutSpare + samples.countP fun sample =>
        decide (sample.counts.available < 2) := by
  induction samples generalizing totals with
  | nil => exact ⟨fun _ => rfl, rfl, rfl, rfl⟩
  | cons sample samples ih =>
      -- by induction over the samples, each counted into the totals so far
      obtain ⟨hcounts, hinput, hblocking, hspare⟩ := ih (totals.addSample sample)
      simp only [List.foldl_cons, List.map_cons, List.sum_cons, List.countP_cons]
      refine ⟨?_, ?_, ?_, ?_⟩
      · intro filter
        rw [hcounts filter]
        show (totals.credentials.add sample.counts).countFor filter + _ = _
        rw [RuntimeCredentialCounts.countFor_add]
        omega
      · rw [hinput]
        unfold addSample
        cases sample.readiness.needsOperatorInput with
        | false => simp
        | true =>
            simp only [if_true]
            omega
      · rw [hblocking]
        unfold addSample
        cases sample.readiness.blocking with
        | false => simp
        | true =>
            simp only [if_true]
            omega
      · rw [hspare]
        unfold addSample
        by_cases hfew : sample.counts.available < 2
        · simp [hfew]
          omega
        · simp [hfew]

/-- The channels of the registry are those of the catalogs, and its pools those of their
sets. -/
structure ChannelRegistrySnapshot.Fits (channels : ChannelRegistrySnapshot)
    (catalogs : RuntimeCatalogSnapshot) : Prop where
  nodup : (catalogs.managementProjection.map Prod.fst).Nodup
  known : ∀ entry ∈ catalogs.managementProjection,
    ∃ channel, channels.get entry.1 = some channel ∧
      channel.poolState.credentialSetId = entry.2.credentialSetId ∧
      channel.poolState.pool = entry.2.credentialSetId
  listed : ∀ channelId channel, channels.get channelId = some channel →
    channelId ∈ catalogs.managementProjection.map Prod.fst
  pools : ∀ credentialSetId, (∃ pool, channels.credentialSetRuntimes[credentialSetId]? =
    some pool) ↔ ∃ entry ∈ catalogs.managementProjection,
      entry.2.credentialSetId = credentialSetId

namespace ChannelRegistrySnapshot

section Samples

variable (channels : ChannelRegistrySnapshot) (clock : SnapshotReadings)

/-- What the pool of a set shows, if there is one. -/
def snapshotOf (credentialSetId : CredentialSetId) : KeyPoolSnapshot :=
  ((channels.credentialSetRuntimes[credentialSetId]?).map fun pool =>
    pool.snapshot (clock.sampledAt credentialSetId)).getD ⟨0, 0, 0, 0, 0, 0, 0⟩

def sampleOf (credentialSetId : CredentialSetId) : CredentialSetRuntimeSample :=
  credentialSetRuntimeSampleFromSnapshot (channels.snapshotOf clock credentialSetId)

/-- Is the channel counted as serving? -/
def countsAsServing (channelId : String) (channel : RegistryChannel) : Bool :=
  channel.configuredEnabled && channel.accountEnabled &&
    (channel.health.isAvailableForRouting (clock.routingAt channelId) ||
      channel.health.isDegraded) &&
    (channels.sampleOf clock channel.poolState.credentialSetId).hasAvailableCredentials

/-- Is the channel counted as cooling down? -/
def countsAsCoolingDown (channelId : String) (channel : RegistryChannel) : Bool :=
  channel.configuredEnabled && channel.accountEnabled &&
    channel.health.isCoolingDownAt (clock.cooldownAt channelId)

end Samples

variable {channels : ChannelRegistrySnapshot} {catalogs : RuntimeCatalogSnapshot}
  {clock : SnapshotReadings}

namespace Fits

variable (h : channels.Fits catalogs)

include h

/-- The entry of a channel that is known. -/
theorem entry_of_get {channelId : String} {channel : RegistryChannel}
    (hfound : channels.get channelId = some channel) :
    ∃ entry ∈ catalogs.managementProjection, entry.1 = channelId ∧
      channel.poolState.credentialSetId = entry.2.credentialSetId ∧
      channel.poolState.pool = entry.2.credentialSetId := by
  obtain ⟨entry, hentry, rfl⟩ := List.mem_map.mp (h.listed channelId channel hfound)
  obtain ⟨channel', hfound', hset, hpool⟩ := h.known entry hentry
  obtain rfl := Option.some.inj (hfound.symm.trans hfound')
  exact ⟨entry, hentry, rfl, hset, hpool⟩

/-- A channel is sampled through the cache as its set is. -/
theorem runtimeSampleFor_eq {cache : CredentialSetSnapshotCache}
    (hcache : cache.Holds (channels.snapshotOf clock)) {channelId : String}
    {channel : RegistryChannel} (hfound : channels.get channelId = some channel) :
    ∃ cache', channels.runtimeSampleFor clock cache channel =
      some (channels.sampleOf clock channel.poolState.credentialSetId, cache') ∧
      cache'.Holds (channels.snapshotOf clock) := by
  obtain ⟨entry, hentry, -, hset, hreference⟩ := h.entry_of_get hfound
  obtain ⟨pool, hpool⟩ := (h.pools entry.2.credentialSetId).mpr ⟨entry, hentry, rfl⟩
  have hshown : channels.snapshotOf clock entry.2.credentialSetId =
      pool.snapshot (clock.sampledAt entry.2.credentialSetId) := by
    unfold snapshotOf
    rw [hpool]
    rfl
  obtain ⟨hsample, hkept⟩ := CredentialSetSnapshotCache.runtimeSampleFor_spec hcache
    entry.2.credentialSetId
  unfold runtimeSampleFor
  rw [hreference, hset, hpool, Option.map_some, ← hshown]
  refine ⟨_, ?_, hkept⟩
  congr 1
  exact Prod.ext hsample rfl

/-- A set is sampled through the first of its channels. -/
theorem sampleFirstChannel_eq {cache : CredentialSetSnapshotCache}
    (hcache : cache.Holds (channels.snapshotOf clock)) {credentialSetId : CredentialSetId}
    {channelIds : List String} (hne : channelIds ≠ [])
    (hchannels : ∀ channelId ∈ channelIds, ∃ channel, channels.get channelId = some channel ∧
      channel.poolState.credentialSetId = credentialSetId) :
    ∃ cache', channels.sampleFirstChannel clock cache channelIds =
      some (channels.sampleOf clock credentialSetId, cache') ∧
      cache'.Holds (channels.snapshotOf clock) := by
  cases channelIds with
  | nil => exact absurd rfl hne
  | cons channelId channelIds =>
      obtain ⟨channel, hfound, hset⟩ := hchannels channelId List.mem_cons_self
      obtain ⟨cache', hsample, hkept⟩ := h.runtimeSampleFor_eq hcache hfound
      refine ⟨cache', ?_, hkept⟩
      unfold sampleFirstChannel
      rw [hfound, Option.bind_some, hsample, hset]

/-- The loop over the sets adds their samples. -/
theorem foldl_addCredentialSet (credentialSetIds : List CredentialSetId)
    (channelIds : CredentialSetId → List String)
    (hsets : ∀ credentialSetId ∈ credentialSetIds, channelIds credentialSetId ≠ [] ∧
      ∀ channelId ∈ channelIds credentialSetId, ∃ channel,
        channels.get channelId = some channel ∧
        channel.poolState.credentialSetId = credentialSetId)
    (acc : CredentialSetTotals × CredentialSetSnapshotCache)
    (hcache : acc.2.Holds (channels.snapshotOf clock)) :
    let result := (credentialSetIds.map channelIds).foldl (channels.addCredentialSet clock) acc
    result.1 = (credentialSetIds.map (channels.sampleOf clock)).foldl
        CredentialSetTotals.addSample acc.1 ∧
      result.2.Holds (channels.snapshotOf clock) := by
  induction credentialSetIds generalizing acc with
  | nil => exact ⟨rfl, hcache⟩
  | cons credentialSetId credentialSetIds ih =>
      obtain ⟨hne, hchannels⟩ := hsets credentialSetId List.mem_cons_self
      obtain ⟨cache', hsample, hkept⟩ := h.sampleFirstChannel_eq hcache hne hchannels
      have hturn : channels.addCredentialSet clock acc (channelIds credentialSetId) =
          (acc.1.addSample (channels.sampleOf clock credentialSetId), cache') := by
        unfold addCredentialSet
        rw [hsample]
      dsimp only
      rw [List.map_cons, List.foldl_cons, hturn, List.map_cons, List.foldl_cons]
      exact ih (fun id hid => hsets id (List.mem_cons_of_mem _ hid)) _ hkept

/-- One channel is counted as what it is. -/
theorem addChannel_eq (acc : ChannelTotals × CredentialSetSnapshotCache)
    (hcache : acc.2.Holds (channels.snapshotOf clock)) {channelId : String}
    {channel : RegistryChannel} (hfound : channels.get channelId = some channel) :
    let result := channels.addChannel clock acc channelId
    result.1.servingChannels = acc.1.servingChannels +
        (if channels.countsAsServing clock channelId channel then 1 else 0) ∧
      result.1.channelsCoolingDown = acc.1.channelsCoolingDown +
        (if countsAsCoolingDown clock channelId channel then 1 else 0) ∧
      result.2.Holds (channels.snapshotOf clock) := by
  obtain ⟨cache', hsample, hkept⟩ := h.runtimeSampleFor_eq hcache hfound
  unfold addChannel countsAsServing countsAsCoolingDown
  simp only [hfound, hsample]
  cases hconfigured : channel.configuredEnabled with
  | false => exact ⟨rfl, rfl, hcache⟩
  | true =>
      cases haccount : channel.accountEnabled with
      | false => exact ⟨rfl, rfl, hcache⟩
      | true =>
          -- The first comparison decides about one count, the second about the other.
          cases channel.health.isCoolingDownAt (clock.cooldownAt channelId) <;>
          cases channel.health.isAvailableForRouting (clock.routingAt channelId) <;>
          cases channel.health.isDegraded <;>
          cases (channels.sampleOf clock
            channel.poolState.credentialSetId).hasAvailableCredentials <;>
          first
          | exact ⟨rfl, rfl, hcache⟩
          | exact ⟨rfl, rfl, hkept⟩

theorem foldl_addChannel (channelIds : List String)
    (hknown : ∀ channelId ∈ channelIds, ∃ channel, channels.get channelId = some channel)
    (acc : ChannelTotals × CredentialSetSnapshotCache)
    (hcache : acc.2.Holds (channels.snapshotOf clock)) :
    let result := channelIds.foldl (channels.addChannel clock) acc
    result.1.servingChannels = acc.1.servingChannels + channelIds.countP (fun channelId =>
        (channels.get channelId).any (channels.countsAsServing clock channelId)) ∧
      result.1.channelsCoolingDown = acc.1.channelsCoolingDown +
        channelIds.countP fun channelId =>
          (channels.get channelId).any (countsAsCoolingDown clock channelId) := by
  induction channelIds generalizing acc with
  | nil => exact ⟨rfl, rfl⟩
  | cons channelId channelIds ih =>
      obtain ⟨channel, hfound⟩ := hknown channelId List.mem_cons_self
      obtain ⟨hserving, hcooling, hkept⟩ := h.addChannel_eq acc hcache hfound
      obtain ⟨hservingRest, hcoolingRest⟩ :=
        ih (fun id hid => hknown id (List.mem_cons_of_mem _ hid)) _ hkept
      dsimp only at hservingRest hcoolingRest ⊢
      rw [List.foldl_cons, List.countP_cons, List.countP_cons, hfound, Option.any_some,
        Option.any_some, hservingRest, hserving, hcoolingRest, hcooling]
      omega

/-! ### The topologies and the registry. -/

/-- The channels of the topologies are those of the registry. -/
theorem channelTopologies_perm :
    (catalogs.channelTopologies.map (·.id)).Perm (channels.channels.toList.map Prod.fst) := by
  have hids : (catalogs.channelTopologies.map (·.id)).Perm
      (catalogs.managementProjection.map Prod.fst) := by
    unfold RuntimeCatalogSnapshot.channelTopologies
    refine ((List.perm_insertionSort _ _).map _).trans ?_
    rw [List.map_map]
    exact .refl _
  refine hids.trans ?_
  rw [TreeMap.map_fst_toList_eq_keys]
  rw [List.perm_ext_iff_of_nodup h.nodup TreeMap.nodup_keys]
  intro channelId
  rw [TreeMap.mem_keys, ← TreeMap.isSome_getElem?_iff_mem, Option.isSome_iff_exists]
  constructor
  · intro hmem
    obtain ⟨entry, hentry, rfl⟩ := List.mem_map.mp hmem
    obtain ⟨channel, hfound, -⟩ := h.known entry hentry
    exact ⟨channel, hfound⟩
  · rintro ⟨channel, hfound⟩
    exact h.listed channelId channel hfound

omit h in
/-- The ids of the sets that the channels use, each once. -/
theorem credentialSetTopologies_ids :
    catalogs.credentialSetTopologies.map (·.id) =
      IdMap.sortedKeys (credentialSetsOfChannels catalogs.managementProjection) := by
  have hid : ∀ key topology, (credentialSetsOfChannels catalogs.managementProjection).lookup key =
      some topology → topology.id = key := by
    intro key topology hlookup
    unfold credentialSetsOfChannels at hlookup
    refine group_forall (P := fun key (topology : CredentialSetTopologyProjection) =>
      topology.id = key) ?_ ?_ key topology hlookup
    · exact fun _ _ => rfl
    · exact fun _ _ _ htopology => htopology
  unfold RuntimeCatalogSnapshot.credentialSetTopologies IdMap.values
  rw [List.map_map, ← IdMap.map_fst_sortedEntries]
  refine List.map_congr_left fun entry hentry => ?_
  exact hid entry.1 entry.2 (IdMap.mem_sortedEntries.mp hentry)

theorem credentialSetTopologies_perm :
    (catalogs.credentialSetTopologies.map (·.id)).Perm
      (channels.credentialSetRuntimes.toList.map Prod.fst) := by
  rw [credentialSetTopologies_ids, TreeMap.map_fst_toList_eq_keys,
    List.perm_ext_iff_of_nodup (IdMap.nodup_sortedKeys _) TreeMap.nodup_keys]
  intro credentialSetId
  rw [IdMap.mem_sortedKeys, TreeMap.mem_keys, ← TreeMap.isSome_getElem?_iff_mem,
    Option.isSome_iff_exists, h.pools]
  exact mem_group_iff

theorem credentialSetChannelIds_spec {credentialSetId : CredentialSetId}
    (hset : credentialSetId ∈ catalogs.credentialSetTopologies.map (·.id)) :
    catalogs.credentialSetChannelIds credentialSetId ≠ [] ∧
      ∀ channelId ∈ catalogs.credentialSetChannelIds credentialSetId, ∃ channel,
        channels.get channelId = some channel ∧
        channel.poolState.credentialSetId = credentialSetId := by
  rw [credentialSetTopologies_ids, IdMap.mem_sortedKeys] at hset
  have hmem : ∀ channelId, channelId ∈ catalogs.credentialSetChannelIds credentialSetId ↔
      ∃ entry ∈ catalogs.managementProjection, entry.2.credentialSetId = credentialSetId ∧
        entry.1 = channelId := by
    intro channelId
    unfold RuntimeCatalogSnapshot.credentialSetChannelIds
    rw [mem_sortedTexts]
    simp only [List.mem_map, List.mem_filter, beq_iff_eq, and_assoc]
  constructor
  · obtain ⟨entry, hentry, hid⟩ := mem_group_iff.mp hset
    exact List.ne_nil_of_mem ((hmem entry.1).mpr ⟨entry, hentry, hid, rfl⟩)
  · intro channelId hchannel
    obtain ⟨entry, hentry, hid, rfl⟩ := (hmem channelId).mp hchannel
    obtain ⟨channel, hfound, hchannelSet, -⟩ := h.known entry hentry
    exact ⟨channel, hfound, hchannelSet.trans hid⟩

/-- Samples of the topologies are samples of the pools, up to their order. -/
theorem samples_perm :
    ((catalogs.credentialSetTopologies.map (·.id)).map (channels.sampleOf clock)).Perm
      (channels.credentialSetRuntimes.toList.map fun entry =>
        credentialSetRuntimeSampleFromSnapshot
          (entry.2.snapshot (clock.sampledAt entry.1))) := by
  refine (h.credentialSetTopologies_perm.map _).trans ?_
  rw [List.map_map]
  refine List.Perm.of_eq (List.map_congr_left fun entry hentry => ?_)
  have hfound : channels.credentialSetRuntimes[entry.1]? = some entry.2 :=
    TreeMap.mem_toList_iff_getElem?_eq_some.mp hentry
  show channels.sampleOf clock entry.1 = _
  unfold sampleOf snapshotOf
  rw [hfound]
  rfl

/-- Channels of the topologies are counted as channels of the registry. -/
theorem countP_channels (test : String → RegistryChannel → Bool) :
    ((catalogs.channelTopologies.map (·.id)).countP fun channelId =>
        (channels.get channelId).any (test channelId)) =
      channels.channels.toList.countP fun entry => test entry.1 entry.2 := by
  rw [h.channelTopologies_perm.countP_eq, List.countP_map]
  refine List.countP_congr fun entry hentry => ?_
  have hfound : channels.get entry.1 = some entry.2 :=
    TreeMap.mem_toList_iff_getElem?_eq_some.mp hentry
  show (channels.get entry.1).any (test entry.1) = true ↔ _
  rw [hfound, Option.any_some]

end Fits

end ChannelRegistrySnapshot

open ChannelRegistrySnapshot in
/-- Of a registry that fits its catalogs, each pool is counted once and as it is, and so is
each channel. -/
theorem collectRuntimeSnapshot_spec {channels : ChannelRegistrySnapshot}
    {catalogs : RuntimeCatalogSnapshot} (h : channels.Fits catalogs) (clock : SnapshotReadings) :
    let sample := collectRuntimeSnapshot channels catalogs clock
    let pools := channels.credentialSetRuntimes.toList
    let available (entry : CredentialSetId × KeyPool) :=
      CredentialSnapshotFilter.countIn (clock.sampledAt entry.1) .available entry.2.credentials
    (∀ filter, sample.credentials.countFor filter = (pools.map fun entry =>
      filter.countIn (clock.sampledAt entry.1) entry.2.credentials).sum) ∧
    sample.operatorInputAlerts = pools.countP (fun entry => decide (available entry < 2)) ∧
    sample.credentialSetBlockingAlerts =
      pools.countP (fun entry => decide (available entry = 0)) ∧
    sample.credentialSetsWithoutSpare =
      pools.countP (fun entry => decide (available entry < 2)) ∧
    sample.channels = channels.channels.size ∧
    sample.servingChannels = channels.channels.toList.countP (fun entry =>
      channels.countsAsServing clock entry.1 entry.2) ∧
    sample.channelsCoolingDown = channels.channels.toList.countP (fun entry =>
      countsAsCoolingDown clock entry.1 entry.2) := by
  -- the two loops of the source, each with the cache as the first leaves it
  have hsets := h.foldl_addCredentialSet
    (catalogs.credentialSetTopologies.map (·.id)) catalogs.credentialSetChannelIds
    (fun _ hset => h.credentialSetChannelIds_spec hset) (⟨.zero, 0, 0, 0⟩, ∅)
    (CredentialSetSnapshotCache.holds_empty (channels.snapshotOf clock))
  obtain ⟨htotals, hcache⟩ := hsets
  obtain ⟨hserving, hcooling⟩ := h.foldl_addChannel (catalogs.channelTopologies.map (·.id))
    (by
      intro channelId hmem
      obtain ⟨entry, hentry, rfl⟩ := List.mem_map.mp (h.channelTopologies_perm.mem_iff.mp hmem)
      exact ⟨entry.2, TreeMap.mem_toList_iff_getElem?_eq_some.mp hentry⟩)
    (⟨0, 0⟩, _) hcache
  obtain ⟨hcounts, hinput, hblocking, hspare⟩ := CredentialSetTotals.foldl_addSample
    ((catalogs.credentialSetTopologies.map (·.id)).map (channels.sampleOf clock))
    ⟨.zero, 0, 0, 0⟩
  rw [← htotals, List.map_map] at hcounts hinput hblocking hspare
  rw [List.map_map] at hserving hcooling
  intro sample pools available
  -- the loop goes over the sets in the order of the catalog, the sum over them in that of the
  -- registry
  have hperm := @Fits.samples_perm channels catalogs clock h
  refine ⟨?_, ?_, ?_, ?_, ?_, ?_, ?_⟩
  · intro filter
    refine (hcounts filter).trans ?_
    rw [(hperm.map _).sum_nat, List.map_map, RuntimeCredentialCounts.countFor_zero,
      Nat.zero_add]
    congr 1
    exact List.map_congr_left fun entry _ =>
      countFor_sample entry.2 (clock.sampledAt entry.1) filter
  · refine hinput.trans ?_
    rw [hperm.countP_eq, List.countP_map, Nat.zero_add]
    exact List.countP_congr fun entry _ => Bool.eq_iff_iff.mp
      (readiness_sample entry.2 (clock.sampledAt entry.1)).1
  · refine hblocking.trans ?_
    rw [hperm.countP_eq, List.countP_map, Nat.zero_add]
    exact List.countP_congr fun entry _ => Bool.eq_iff_iff.mp
      (readiness_sample entry.2 (clock.sampledAt entry.1)).2.1
  · refine hspare.trans ?_
    rw [hperm.countP_eq, List.countP_map, Nat.zero_add]
    refine List.countP_congr fun entry _ => ?_
    show decide ((credentialSetRuntimeSampleFromSnapshot _).counts.countFor .available < 2) =
      true ↔ _
    rw [countFor_sample]
  -- the catalogs list the channels of the registry, so counting either is the same
  · show catalogs.runtimeTopologySummary.channels = _
    rw [catalogs.runtimeTopologySummary_channels, ← TreeMap.length_toList,
      ← @List.length_map _ _ channels.channels.toList Prod.fst,
      ← h.channelTopologies_perm.length_eq]
    unfold RuntimeCatalogSnapshot.channelTopologies
    rw [List.length_map, (List.perm_insertionSort _ _).length_eq, List.length_map]
  · refine hserving.trans ?_
    rw [h.countP_channels, Nat.zero_add]
  · refine hcooling.trans ?_
    rw [h.countP_channels, Nat.zero_add]

end OneAiKey
