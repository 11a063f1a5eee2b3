/-
  OneAiKey.FailureState — what a failure does to the runtime
  (`src/failure_state_executor.rs`, the persistence queue of `src/state.rs`).

  A credential mutation changes the pool of the credential set and hands an
  expiry or a quota exhaustion to the persistence queue, from which a worker
  writes it to the credential store.  A channel mutation changes the health of
  the channel, and a provider failure the shared failure domains as well.
-/
import OneAiKey.ChannelHealth

namespace OneAiKey

/-! ## §1. The persistence queue. -/

inductive LifecyclePersistenceDropReason where
  | unavailable
  | full
  | closed
  deriving DecidableEq, Repr

inductive AutomaticLifecyclePersistenceState where
  | expired (reason : String)
  | quotaExhausted (reason : String)
  deriving DecidableEq, Repr

def AutomaticLifecyclePersistenceState.intoLifecycleState :
    AutomaticLifecyclePersistenceState → CredentialLifecycleState
  | expired reason => .expired reason
  | quotaExhausted reason => .quotaExhausted reason

structure AutomaticLifecyclePersistenceRequest where
  credentialSetId : CredentialSetId
  credentialId : CredentialId
  state : AutomaticLifecyclePersistenceState
  reasonClass : String
  channelId : String
  deriving DecidableEq, Repr

/-- `mpsc::channel(1024)`. -/
def lifecyclePersistenceCapacity : Nat := 1024

/-- The queue with the requests that the worker has not received yet.  Without a running
worker there is no sender; the worker's end closes the channel. -/
structure LifecyclePersistenceQueue where
  hasSender : Bool
  closed : Bool
  requests : List AutomaticLifecyclePersistenceRequest
  deriving DecidableEq, Repr

/-- A request that is not accepted is dropped. -/
def LifecyclePersistenceQueue.tryEnqueue (queue : LifecyclePersistenceQueue)
    (request : AutomaticLifecyclePersistenceRequest) :
    LifecyclePersistenceQueue × Except LifecyclePersistenceDropReason Unit :=
  if !queue.hasSender then (queue, .error .unavailable)
  else if queue.closed then (queue, .error .closed)
  else if lifecyclePersistenceCapacity ≤ queue.requests.length then (queue, .error .full)
  else ({ queue with requests := queue.requests ++ [request] }, .ok ())

/-! ## §2. Credential snapshots. -/

def KeyPool.credentialSnapshotById (p : KeyPool) (credentialId : CredentialId)
    (guardNow remainingNow : Instant) : Option CredentialSnapshot :=
  (p.indexForId credentialId).bind fun index => p.snapshotAt index guardNow remainingNow

def sameSelectorStateKind : CredentialStateSnapshot → CredentialStateSnapshot → Bool
  | .available, .available => true
  | .coolingDown _ _, .coolingDown _ _ => true
  | .expired _, .expired _ => true
  | .quotaExhausted _, .quotaExhausted _ => true
  | .disabled _, .disabled _ => true
  | _, _ => false

/-- `advance_selector_generation_if_state_kind_changed`: the generation afterwards. -/
def advanceSelectorGeneration (generation : Nat) (before : Option CredentialStateSnapshot)
    (after : CredentialStateSnapshot) : Nat :=
  if before.any fun before => sameSelectorStateKind before after then generation
  else generation + 1

/-! ## §3. The mutations. -/

/-- The codes of the failure reasons. -/
def reasonCode : FailureReason → String
  | .upstreamAuthInvalid => "upstream_auth_invalid"
  | .upstreamRateLimited => "upstream_rate_limited"
  | .upstreamQuotaExhausted => "upstream_quota_exhausted"
  | .relayBalanceUnavailable => "relay_balance_unavailable"
  | .upstreamProviderUnavailable => "upstream_provider_unavailable"
  | .responseFilterRejected => "response_filter_rejected"
  | .keySwitchCooldown => "key_switch_cooldown"
  | .clientOrModelError => "client_or_model_error"
  | .unknown => "unknown"

/-- What `apply_state_mutation` reads and changes: the channel, the domains it shares, the
pool and the selector generation of its credential set, and the persistence queue. -/
structure MutationState where
  channel : ChannelRuntime
  failureDomains : FailureDomainRegistry
  pool : KeyPool
  selectorGeneration : Nat
  persistence : LifecyclePersistenceQueue

/-- A pool operation about one credential, between the two snapshots that decide about
the selector generation.  The remaining time of a snapshot is not looked at. -/
def applyCredentialMutation (s : MutationState) (credentialId : CredentialId) (r : Readings)
    (op : Instant → KeyPool → KeyPool) : MutationState × Bool :=
  let before := (s.pool.credentialSnapshotById credentialId r.first r.first).map (·.state)
  let pool := op r.second s.pool
  match pool.credentialSnapshotById credentialId r.third r.third with
  | some after =>
      ({ s with
          pool := pool
          selectorGeneration :=
            advanceSelectorGeneration s.selectorGeneration before after.state }, true)
  | none => ({ s with pool := pool }, false)

/-- The request that an automatic mutation hands to the queue. -/
def automaticLifecyclePersistenceRequest (s : MutationState)
    (snapshot : RequestSelectionSnapshot) (credentialId : CredentialId)
    (state : AutomaticLifecyclePersistenceState) (reason : FailureReason) :
    AutomaticLifecyclePersistenceRequest where
  credentialSetId := s.channel.poolState.credentialSetId
  credentialId := credentialId
  state := state
  reasonClass := reasonCode reason
  channelId := snapshot.channelId

/-- `enqueue_automatic_lifecycle_persistence`, for a credential that the pool has. -/
def enqueueAutomaticLifecyclePersistence (result : MutationState × Bool)
    (request : AutomaticLifecyclePersistenceRequest) : MutationState :=
  if result.2 then
    { result.1 with persistence := (result.1.persistence.tryEnqueue request).1 }
  else result.1

/-- `apply_state_mutation`, without its telemetry. -/
def applyStateMutation (s : MutationState) (snapshot : RequestSelectionSnapshot)
    (r : Readings) : StateMutation → MutationState
  | .markCredentialCoolingDown _ credentialId untilInstant reason =>
      (applyCredentialMutation s credentialId r fun now pool =>
        (pool.applyCredentialCooldownUntil credentialId untilInstant (reasonText reason) now).1).1
  | .expireCredential _ credentialId reason =>
      enqueueAutomaticLifecyclePersistence
        (applyCredentialMutation s credentialId r fun now pool =>
          (pool.applyCredentialExpired credentialId (reasonText reason) now).1)
        (automaticLifecyclePersistenceRequest s snapshot credentialId
          (.expired (reasonText reason)) reason)
  | .markCredentialQuotaExhausted _ credentialId reason =>
      enqueueAutomaticLifecyclePersistence
        (applyCredentialMutation s credentialId r fun now pool =>
          (pool.applyCredentialQuotaExhausted credentialId (reasonText reason) now).1)
        (automaticLifecyclePersistenceRequest s snapshot credentialId
          (.quotaExhausted (reasonText reason)) reason)
  | .markRelayBalanceChannelCoolingDown _ untilInstant reason =>
      { s with
        channel := (s.channel.applyAutomaticRelayBalanceSuppression
          snapshot.channelHealthGeneration untilInstant (reasonText reason) r.first).1 }
  | .markProviderAccountChannelCoolingDownOrDegraded _ providerId accountId untilInstant
      reason =>
      let health := match untilInstant with
        | some untilInstant => ChannelHealth.coolingDown untilInstant (reasonText reason)
        | none => .degraded (reasonText reason)
      { s with
        channel := (s.channel.applyAutomaticChannelHealthTransition
          snapshot.channelHealthGeneration health).1
        failureDomains := s.failureDomains.applyProviderUnavailable providerId accountId
          untilInstant (reasonText reason) }
  | .markChannelCoolingDown _ untilInstant reason =>
      { s with
        channel := (s.channel.applyAutomaticChannelHealthTransition
          snapshot.channelHealthGeneration
          (.coolingDown untilInstant (reasonText reason))).1 }
  | .noop _ => s

end OneAiKey
