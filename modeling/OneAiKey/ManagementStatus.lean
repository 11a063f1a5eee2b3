/-
  OneAiKey.ManagementStatus — how the management interface describes a runtime
  (`src/management_status.rs`).

  Counts are taken of the snapshot of a credential set, and each set is
  snapshotted once for an answer: a cache keeps the first snapshot.  What an
  operator is told about a set (its state, its alerts, whether it blocks) is
  computed from the counts alone.

  Main results:
    * `runtimeSampleFor_spec` — through a cache that holds true snapshots, a
      sample is the one of the set, and the cache goes on holding them;
    * `operationalState_spec` — the states against the counts;
    * `channelHealthStatus_reason_masked` — a disabled channel shows no secret.
-/
import OneAiKey.ManagementStatus.ReasonMasked
import OneAiKey.Pool.Pages
import OneAiKey.Registry

namespace OneAiKey

open Std

/-! ## §1. Channel health. -/

/-- The health of a channel as an operator sees it. -/
structure ChannelHealthStatus where
  kind : String
  reason : Option String
  reasonCode : Option String
  source : Option String
  remainingSeconds : Option Nat
  suppressionCount : Nat
  generation : Nat
  deriving DecidableEq, Repr

/-- A code for the texts that the program itself writes as reasons. -/
def channelHealthReasonCode (reason : String) : String :=
  match reason with
  | "upstream reported expired credential" => "upstream_auth_invalid"
  | "switchable upstream failure" => "upstream_rate_limited"
  | "upstream reported quota exhausted" => "upstream_quota_exhausted"
  | "relay balance unavailable" => "relay_balance_unavailable"
  | "upstream provider unavailable" => "upstream_provider_unavailable"
  | "upstream key switch cooldown" => "key_switch_cooldown"
  | "client or model error" => "client_or_model_error"
  | "unknown upstream failure" => "unknown"
  | "manual_channel_disable" => "manual_channel_disable"
  | "manual_channel_health_reset" => "manual_channel_health_reset"
  | _ => "unknown"

/-- A reason that begins with "manual" is an operator's, any other the program's own. -/
def channelHealthSource (reason : String) : String :=
  if "manual".toList.isPrefixOf reason.toList then "management" else "automatic"

/-- A channel that is shown as available. -/
def ChannelHealthStatus.available (generation : Nat) : ChannelHealthStatus :=
  ⟨"available", none, none, none, none, 0, generation⟩

/-- The clock is read once for the comparison and once for what remains. -/
def channelHealthStatusFromHealthWithRuntime (health : ChannelHealth)
    (generation suppressionCount : Nat) (now remainingNow : Instant) : ChannelHealthStatus :=
  match health with
  | .available => .available generation
  | .coolingDown untilInstant reason =>
      if now < untilInstant then
        { kind := "cooling_down"
          reason := some reason
          reasonCode := some (channelHealthReasonCode reason)
          source := some (channelHealthSource reason)
          remainingSeconds := some (max (untilInstant.saturatingDurationSince remainingNow).asSecs 1)
          suppressionCount := suppressionCount
          generation := generation }
      else .available generation
  | .degraded reason =>
      { kind := "degraded"
        reason := some reason
        reasonCode := some (channelHealthReasonCode reason)
        source := some (channelHealthSource reason)
        remainingSeconds := none
        suppressionCount := suppressionCount
        generation := generation }
  | .disabled reason =>
      { kind := "disabled"
        reason := some (redactManagementReason reason)
        reasonCode := some "manual_channel_disable"
        source := some "management"
        remainingSeconds := none
        suppressionCount := 0
        generation := generation }

/-- The health of a channel with its generation and its suppressions. -/
def channelHealthStatus (channel : ChannelRuntime) (now remainingNow : Instant) :
    ChannelHealthStatus :=
  channelHealthStatusFromHealthWithRuntime channel.health channel.channelHealthGeneration
    channel.relaySuppressionCount now remainingNow

/-- Does routing take the channel at this moment? -/
def ChannelHealth.isAvailableForRouting (now : Instant) : ChannelHealth → Bool
  | available => true
  | coolingDown untilInstant _ => decide (untilInstant ≤ now)
  | degraded _ | disabled _ => false

/-- Degraded, and in no other state. -/
def ChannelHealth.isDegraded : ChannelHealth → Bool
  | degraded _ => true
  | _ => false

/-- What an operator gave as a reason is shown masked. -/
theorem channelHealthStatus_reason_masked {channel : ChannelRuntime}
    (h : channel.health.isDisabled = true) (now remainingNow : Instant) :
    ∀ reason ∈ (channelHealthStatus channel now remainingNow).reason,
      ReasonMasked reason.toList := by
  unfold channelHealthStatus channelHealthStatusFromHealthWithRuntime
  cases hhealth : channel.health with
  | disabled reason =>
      intro shown hshown
      obtain rfl := Option.some.inj hshown
      exact reasonMasked_redact reason
  | available =>
      rw [hhealth] at h
      cases h
  | coolingDown untilInstant reason =>
      rw [hhealth] at h
      cases h
  | degraded reason =>
      rw [hhealth] at h
      cases h

/-! ## §2. Credential states. -/

/-- A state with its reason masked. -/
def redactCredentialState : CredentialStateSnapshot → CredentialStateSnapshot
  | .available => .available
  | .coolingDown reason remainingSeconds =>
      .coolingDown (redactManagementReason reason) remainingSeconds
  | .expired reason => .expired (redactManagementReason reason)
  | .quotaExhausted reason => .quotaExhausted (redactManagementReason reason)
  | .disabled reason => .disabled (redactManagementReason reason)

/-! ## §3. Counts. -/

/-- How many credentials there are in each state. -/
structure RuntimeCredentialCounts where
  total : Nat
  available : Nat
  coolingDown : Nat
  expired : Nat
  quotaExhausted : Nat
  disabled : Nat
  deriving DecidableEq, Repr

namespace RuntimeCredentialCounts

/-- `RuntimeCredentialCounts::default`. -/
def zero : RuntimeCredentialCounts := ⟨0, 0, 0, 0, 0, 0⟩

/-- `add_runtime_counts`. -/
def add (total counts : RuntimeCredentialCounts) : RuntimeCredentialCounts where
  total := total.total + counts.total
  available := total.available + counts.available
  coolingDown := total.coolingDown + counts.coolingDown
  expired := total.expired + counts.expired
  quotaExhausted := total.quotaExhausted + counts.quotaExhausted
  disabled := total.disabled + counts.disabled

/-- The statuses make up the total. -/
def Partition (counts : RuntimeCredentialCounts) : Prop :=
  counts.total = counts.available + counts.coolingDown + counts.expired +
    counts.quotaExhausted + counts.disabled

end RuntimeCredentialCounts

/-- The counts with those of one more pool. -/
def addKeyPoolSnapshotCounts (counts : RuntimeCredentialCounts) (snapshot : KeyPoolSnapshot) :
    RuntimeCredentialCounts where
  total := counts.total + snapshot.totalCredentials
  available := counts.available + snapshot.availableCredentials
  coolingDown := counts.coolingDown + snapshot.coolingDownCredentials
  expired := counts.expired + snapshot.expiredCredentials
  quotaExhausted := counts.quotaExhausted + snapshot.quotaExhaustedCredentials
  disabled := counts.disabled + snapshot.disabledCredentials

/-! ## §4. What the counts say about a set. -/

/-- What a credential set can still serve, and what an operator has to do. -/
structure CredentialSetOperationalState where
  status : String
  servingMode : String
  acceptingRequests : Bool
  needsOperatorInput : Bool
  requiredAction : String
  deriving DecidableEq, Repr

/-- The state by the number of available credentials: none, one, or more, with or without lost
ones. -/
def credentialSetOperationalState (counts : RuntimeCredentialCounts) :
    CredentialSetOperationalState :=
  if counts.total = 0 ∨ counts.available = 0 then
    ⟨"exhausted", "stopped", false, true, "import_valid_credentials"⟩
  else if counts.available = 1 then
    ⟨"transition_required", "serving_degraded", true, true, "import_valid_credentials"⟩
  else if 0 < counts.expired ∨ 0 < counts.quotaExhausted ∨ 0 < counts.disabled then
    ⟨"degraded", "serving", true, false, "monitor_or_restore_credentials"⟩
  else ⟨"healthy", "serving", true, false, "none"⟩

/-- An alert about a credential set. -/
structure CredentialSetOperationalAlert where
  kind : String
  severity : String
  message : String
  deriving DecidableEq, Repr

/-- The alerts of a credential set by the same numbers as its state. -/
def credentialSetOperationalAlerts (counts : RuntimeCredentialCounts) :
    List CredentialSetOperationalAlert :=
  if counts.total = 0 ∨ counts.available = 0 then
    [⟨"credential_set_exhausted", "critical", "credential set has no available credentials; import validated credentials before serving requests"⟩]
  else if counts.available = 1 then
    [⟨"credential_set_transition_required", "warning", "credential set is serving on a single available credential; import validated replacement credentials"⟩]
  else if 0 < counts.expired ∨ 0 < counts.quotaExhausted ∨ 0 < counts.disabled then
    [⟨"credential_set_degraded", "info", "credential set contains unavailable credentials but still has replacement capacity"⟩]
  else []

/-- The part of the state that readiness is about. -/
structure CredentialSetReadinessProjection where
  needsOperatorInput : Bool
  blocking : Bool
  deriving DecidableEq, Repr

/-- The projection of the counts. -/
def credentialSetReadinessProjection (counts : RuntimeCredentialCounts) :
    CredentialSetReadinessProjection :=
  let operationalState := credentialSetOperationalState counts
  { needsOperatorInput := operationalState.needsOperatorInput
    blocking := !operationalState.acceptingRequests }

/-- The readiness of the whole runtime. -/
structure RuntimeReadinessProjection where
  status : String
  blockingAlerts : Nat
  deriving DecidableEq, Repr

/-- Ready as long as one channel serves. -/
def runtimeReadinessProjection (servingChannels credentialSetBlockingAlerts : Nat) :
    RuntimeReadinessProjection :=
  let ready := decide (0 < servingChannels)
  { status := if ready then "ready" else "not_ready"
    blockingAlerts := max credentialSetBlockingAlerts (if ready then 0 else 1) }

/-- The states of a set against its counts: requests are accepted while a credential is
available, the operator is asked for input while there is no spare one, and an alert is
shown just when the set is not healthy. -/
theorem operationalState_spec {counts : RuntimeCredentialCounts} (h : counts.Partition) :
    let state := credentialSetOperationalState counts
    (state.acceptingRequests = true ↔ 0 < counts.available) ∧
      (state.needsOperatorInput = true ↔ counts.available < 2) ∧
      (credentialSetOperationalAlerts counts = [] ↔ state.requiredAction = "none") ∧
      (state.requiredAction = "none" →
        counts.total = counts.available + counts.coolingDown) := by
  unfold RuntimeCredentialCounts.Partition at h
  unfold credentialSetOperationalState credentialSetOperationalAlerts
  by_cases hnone : counts.total = 0 ∨ counts.available = 0
  · have hzero : counts.available = 0 := by omega
    simp only [if_pos hnone]
    simp [hzero]
  · have hpos : counts.available ≠ 0 := fun h => hnone (.inr h)
    by_cases hone : counts.available = 1
    · simp only [if_neg hnone, if_pos hone]
      simp [hone]
    · have htwo : ¬ counts.available < 2 := by omega
      by_cases hlost : 0 < counts.expired ∨ 0 < counts.quotaExhausted ∨ 0 < counts.disabled
      · simp only [hnone, hone, hlost, htwo, if_true, if_false]
        simp [Nat.pos_of_ne_zero hpos]
      · simp only [hnone, hone, hlost, htwo, if_false]
        refine ⟨by simp [Nat.pos_of_ne_zero hpos], by simp, by simp, fun _ => ?_⟩
        omega

/-! ## §5. The samples of an answer. -/

/-- The first snapshot of each set, by the set's id. -/
abbrev CredentialSetSnapshotCache := TreeMap String KeyPoolSnapshot

/-- The counts of a credential set with what they say about it. -/
structure CredentialSetRuntimeSample where
  counts : RuntimeCredentialCounts
  readiness : CredentialSetReadinessProjection
  deriving DecidableEq, Repr

/-- Is there a credential to send? -/
def CredentialSetRuntimeSample.hasAvailableCredentials (sample : CredentialSetRuntimeSample) :
    Bool :=
  decide (0 < sample.counts.available)

/-- The sample of one snapshot. -/
def credentialSetRuntimeSampleFromSnapshot (snapshot : KeyPoolSnapshot) :
    CredentialSetRuntimeSample :=
  let counts := addKeyPoolSnapshotCounts .zero snapshot
  ⟨counts, credentialSetReadinessProjection counts⟩

namespace CredentialSetSnapshotCache

/-- `fresh` is what the pool shows when its lock is taken now. -/
def snapshotFor (cache : CredentialSetSnapshotCache) (credentialSetId : String)
    (fresh : KeyPoolSnapshot) : KeyPoolSnapshot × CredentialSetSnapshotCache :=
  match cache[credentialSetId]? with
  | some snapshot => (snapshot, cache)
  | none => (fresh, cache.insert credentialSetId fresh)

/-- The sample of a set, which is taken once for all channels that share the set. -/
def runtimeSampleFor (cache : CredentialSetSnapshotCache) (credentialSetId : String)
    (fresh : KeyPoolSnapshot) : CredentialSetRuntimeSample × CredentialSetSnapshotCache :=
  let (snapshot, cache) := cache.snapshotFor credentialSetId fresh
  (credentialSetRuntimeSampleFromSnapshot snapshot, cache)

/-- Every snapshot that is kept is the one of its set. -/
def Holds (truth : String → KeyPoolSnapshot) (cache : CredentialSetSnapshotCache) : Prop :=
  ∀ credentialSetId snapshot, cache[credentialSetId]? = some snapshot →
    snapshot = truth credentialSetId

theorem holds_empty (truth : String → KeyPoolSnapshot) : Holds truth ∅ := by
  intro credentialSetId snapshot h
  rw [TreeMap.getElem?_emptyc] at h
  cases h

theorem runtimeSampleFor_spec {truth : String → KeyPoolSnapshot}
    {cache : CredentialSetSnapshotCache} (h : Holds truth cache) (credentialSetId : String) :
    let sampled := cache.runtimeSampleFor credentialSetId (truth credentialSetId)
    sampled.1 = credentialSetRuntimeSampleFromSnapshot (truth credentialSetId) ∧
      Holds truth sampled.2 := by
  unfold runtimeSampleFor snapshotFor
  cases hfound : cache[credentialSetId]? with
  | some snapshot =>
      obtain rfl := h credentialSetId snapshot hfound
      exact ⟨rfl, h⟩
  | none =>
      refine ⟨rfl, ?_⟩
      intro id snapshot hid
      rw [TreeMap.getElem?_insert] at hid
      by_cases heq : compare credentialSetId id = .eq
      · rw [if_pos heq] at hid
        rw [← Std.compare_eq_iff_eq.mp heq]
        exact (Option.some.inj hid).symm
      · rw [if_neg heq] at hid
        exact h id snapshot hid

end CredentialSetSnapshotCache

/-- The sample of a pool: its counts, by status, and whether one is available. -/
theorem sample_of_snapshot (pool : KeyPool) (now : Instant) :
    let sample := credentialSetRuntimeSampleFromSnapshot (pool.snapshot now)
    sample.counts.Partition ∧ sample.counts.total = pool.credentials.length ∧
      (∀ filter, (pool.snapshot now).countFor filter =
        pool.credentials.countP fun credential => filter.admits now credential.state) := by
  obtain ⟨hcounts, hcounted, htotal, -⟩ := pool.snapshot_spec now
  refine ⟨?_, ?_, hcounts⟩
  · unfold RuntimeCredentialCounts.Partition
    dsimp only [credentialSetRuntimeSampleFromSnapshot, addKeyPoolSnapshotCounts,
      RuntimeCredentialCounts.zero]
    unfold KeyPoolSnapshot.counted at hcounted
    omega
  · dsimp only [credentialSetRuntimeSampleFromSnapshot, addKeyPoolSnapshotCounts,
      RuntimeCredentialCounts.zero]
    rw [Nat.zero_add]
    exact htotal

end OneAiKey
