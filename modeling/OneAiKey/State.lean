/-
  OneAiKey.State — the runtime that is built from a resolved configuration
  (`src/state.rs`, `src/config.rs`).

  A channel's `PoolState` holds the channel's own endpoint and a reference to
  the key pool of its credential set.  The pool is built once for each set, from
  the first channel of the set that the loop visits, and every later channel of
  the set shares it.  A reference is the id of the set; `credentialSetRuntimes`
  is the memory it points into.

  The loop runs over the entries of a hash map.  Their order is not defined, so
  a build takes the entries as a list, and any permutation of the
  configuration's entries is a possible build.
-/
import OneAiKey.Pool
import OneAiKey.Provider
import OneAiKey.Routing

namespace OneAiKey

open Std

abbrev CredentialSetId := String

/-! ## §1. The resolved configuration. -/

/-- What `str::trim` removes (the `White_Space` characters). -/
def isWhitespace (c : Char) : Bool :=
  (9 ≤ c.toNat && c.toNat ≤ 13) || c.toNat == 0x20 || c.toNat == 0x85 || c.toNat == 0xA0 ||
    c.toNat == 0x1680 || (0x2000 ≤ c.toNat && c.toNat ≤ 0x200A) || c.toNat == 0x2028 ||
    c.toNat == 0x2029 || c.toNat == 0x202F || c.toNat == 0x205F || c.toNat == 0x3000

/-- `str::trim`. -/
def trim (s : List Char) : List Char :=
  ((s.dropWhile isWhitespace).reverse.dropWhile isWhitespace).reverse

/-- An address without slashes at its end, which may not be blank. -/
def normalizeApiBase (field apiBase : String) : Except String String :=
  let apiBase := trimEndSlashes (trim apiBase.toList)
  if apiBase.isEmpty then .error (field ++ " api_base must not be empty")
  else .ok (String.ofList apiBase)

/-- The part of a channel's resolved configuration that its runtime reads. -/
structure ResolvedPoolConfig where
  configGeneration : Nat
  providerId : String
  accountId : String
  credentialSetId : CredentialSetId
  providerKind : ProviderKind
  routingPolicy : RoutingPolicy
  authHeader : String
  authPrefix : String
  keyPool : KeyPoolConfig
  deriving DecidableEq, Repr

/-- The channels of a resolved configuration: one entry for each name, every base
normalized, every credential set imported with at least one key. -/
structure ResolvedConfig where
  pools : List (String × ResolvedPoolConfig)
  distinct : (pools.map Prod.fst).Nodup
  normalized : ∀ entry ∈ pools, ∃ field apiBase,
    normalizeApiBase field apiBase = .ok entry.2.keyPool.apiBase
  imported : ∀ entry ∈ pools, entry.2.keyPool.credentials ≠ []

/-! ## §2. What is restored into a new pool. -/

/-- The persisted events that a restart replays. -/
inductive DomainEvent where
  | expired (channelId : ChannelId) (credentialId : CredentialId) (reason : String)
  | quotaExhausted (channelId : ChannelId) (credentialId : CredentialId) (reason : String)
  | restored (channelId : ChannelId) (credentialId : CredentialId)
  | disabled (channelId : ChannelId) (credentialId : CredentialId) (reason : String)
  | enabled (channelId : ChannelId) (credentialId : CredentialId)
  | cooldownCleared (channelId : ChannelId) (credentialId : CredentialId)
  | channelDisabled (channelId : ChannelId) (reason : String)
  | channelEnabled (channelId : ChannelId)
  deriving DecidableEq, Repr

/-- The pool operation that replays an event, with the channel it was recorded for. -/
def DomainEvent.poolOp : DomainEvent → Option (ChannelId × PoolOp)
  | expired channelId credentialId reason =>
      some (channelId, .expireCredentialById credentialId reason)
  | quotaExhausted channelId credentialId reason =>
      some (channelId, .applyCredentialQuotaExhausted credentialId reason)
  | restored channelId credentialId => some (channelId, .restoreCredentialById credentialId)
  | disabled channelId credentialId reason =>
      some (channelId, .disableCredentialById credentialId reason)
  | enabled channelId credentialId => some (channelId, .enableCredentialById credentialId)
  | cooldownCleared channelId credentialId =>
      some (channelId, .clearCredentialCooldownById credentialId)
  | channelDisabled _ _ | channelEnabled _ => none

/-- Is the event of a channel that uses the credential set? -/
def eventAppliesToCredentialSet (channelIds : List String) (eventChannelId : String) : Bool :=
  channelIds.any (· == eventChannelId)

/-- The loop's body of `apply_persisted_events`; an event comes with the clock
readings of its replay. -/
def applyPersistedEvent (channelIds : List String) (p : KeyPool)
    (event : DomainEvent × Readings) : KeyPool :=
  match event.1.poolOp with
  | some (channelId, op) =>
      if eventAppliesToCredentialSet channelIds channelId then (op.exec event.2 p).1 else p
  | none => p

/-- The recorded events on a new pool, in order. -/
def applyPersistedEvents (channelIds : List String) (p : KeyPool)
    (persistedEvents : List (DomainEvent × Readings)) : KeyPool :=
  persistedEvents.foldl (applyPersistedEvent channelIds) p

/-- With a lifecycle snapshot for each credential the event log has no say. -/
def credentialEventsForStartup (lifecycleSnapshotAuthority : Bool)
    (persistedEvents : List (DomainEvent × Readings)) : List (DomainEvent × Readings) :=
  if lifecycleSnapshotAuthority then [] else persistedEvents

/-- The states that are kept over a restart. -/
inductive CredentialLifecycleState where
  | available
  | expired (reason : String)
  | quotaExhausted (reason : String)
  | disabled (reason : String)
  deriving DecidableEq, Repr

/-- The kept state of a credential. -/
structure CredentialLifecycleSnapshot where
  credentialSetId : CredentialSetId
  credentialId : CredentialId
  state : CredentialLifecycleState
  deriving DecidableEq, Repr

/-- The pool operation that restores a snapshot. -/
def CredentialLifecycleSnapshot.poolOp (snapshot : CredentialLifecycleSnapshot) : PoolOp :=
  match snapshot.state with
  | .available => .enableCredentialById snapshot.credentialId
  | .expired reason => .expireCredentialById snapshot.credentialId reason
  | .quotaExhausted reason => .applyCredentialQuotaExhausted snapshot.credentialId reason
  | .disabled reason => .disableCredentialById snapshot.credentialId reason

/-- The loop's body of `apply_lifecycle_snapshots`.  An operation finds its
credential, and so has a snapshot to return, just when the id is in the pool. -/
def applyLifecycleSnapshot (p : KeyPool) (entry : CredentialLifecycleSnapshot × Readings) :
    Except String KeyPool :=
  let applied := (entry.1.poolOp.exec entry.2 p).1
  if (applied.indexForId entry.1.credentialId).isSome then .ok applied
  else .error ("credential lifecycle snapshot references unknown credential "
    ++ entry.1.credentialId ++ " in credential set " ++ entry.1.credentialSetId)

/-- The kept states on a new pool; one that cannot be applied is an error. -/
def applyLifecycleSnapshots (p : KeyPool)
    (lifecycleSnapshots : List (CredentialLifecycleSnapshot × Readings)) :
    Except String KeyPool :=
  lifecycleSnapshots.foldlM applyLifecycleSnapshot p

/-! ## §3. The runtime build. -/

/-- What the stores hold at a build: the event log, and the lifecycle snapshots of
each credential set (or the error their load ends with). -/
structure StartupEvidence where
  lifecycleSnapshotAuthority : Bool
  persistedEvents : List (DomainEvent × Readings)
  loadLifecycleSnapshots : CredentialSetId →
    Except String (List (CredentialLifecycleSnapshot × Readings))

/-- A channel at run time. -/
structure PoolState where
  configGeneration : Nat
  providerId : String
  accountId : String
  credentialSetId : CredentialSetId
  providerKind : ProviderKind
  apiBase : String
  authHeader : String
  authPrefix : String
  retrySwitchedKeyInSameRequest : Bool
  maxSameRequestRetries : Nat
  routeTargetRetryEnabled : Bool
  defaultCredentialCooldown : Duration
  /-- The reference to the shared pool. -/
  pool : CredentialSetId
  deriving DecidableEq, Repr

/-- A channel's state from its configuration. -/
def PoolState.fromConfig (config : ResolvedPoolConfig) (runtime : CredentialSetId) :
    PoolState where
  configGeneration := config.configGeneration
  providerId := config.providerId
  accountId := config.accountId
  credentialSetId := config.credentialSetId
  providerKind := config.providerKind
  apiBase := config.keyPool.apiBase
  authHeader := config.authHeader
  authPrefix := config.authPrefix
  retrySwitchedKeyInSameRequest := config.routingPolicy.retrySwitchedKeyInSameRequest
  maxSameRequestRetries := config.routingPolicy.maxSameRequestRetries
  routeTargetRetryEnabled := config.routingPolicy.routeTargetRetryEnabled
  defaultCredentialCooldown := config.routingPolicy.defaultCredentialCooldown
  pool := runtime

/-- The channels by name, and the key pools they share. -/
structure Runtime where
  pools : TreeMap String PoolState
  credentialSetRuntimes : TreeMap CredentialSetId KeyPool

/-- The text of a pool failure. -/
def PoolFailure.text : PoolFailure → String
  | error message => message
  | indexOutOfBounds => "index out of bounds"

/-- A credential set's state from its keys and what was kept of them. -/
def RuntimeCredentialSet.fromConfig (config : ResolvedPoolConfig) (channelIds : List String)
    (persistedEvents : List (DomainEvent × Readings))
    (lifecycleSnapshots : List (CredentialLifecycleSnapshot × Readings)) :
    Except String KeyPool :=
  match KeyPool.new config.keyPool with
  | .error failure => .error failure.text
  | .ok pool =>
      applyLifecycleSnapshots (applyPersistedEvents channelIds pool persistedEvents)
        lifecycleSnapshots

/-- The names of the channels of a credential set, in visiting order. -/
def credentialSetChannels (poolConfigs : List (String × ResolvedPoolConfig))
    (credentialSetId : CredentialSetId) : List String :=
  (poolConfigs.filter fun entry => entry.2.credentialSetId = credentialSetId).map Prod.fst

/-- One turn of the loop over the channels. -/
def buildChannel (evidence : StartupEvidence) (poolConfigs : List (String × ResolvedPoolConfig))
    (runtime : Runtime) (entry : String × ResolvedPoolConfig) : Except String Runtime :=
  let setId := entry.2.credentialSetId
  let state := PoolState.fromConfig entry.2 setId
  match runtime.credentialSetRuntimes[setId]? with
  | some _ => .ok { runtime with pools := runtime.pools.insert entry.1 state }
  | none =>
      match evidence.loadLifecycleSnapshots setId with
      | .error err => .error ("credential lifecycle startup restore failed: " ++ err)
      | .ok snapshots =>
          match RuntimeCredentialSet.fromConfig entry.2
              (credentialSetChannels poolConfigs setId)
              (credentialEventsForStartup evidence.lifecycleSnapshotAuthority
                evidence.persistedEvents) snapshots with
          | .error err => .error err
          | .ok pool => .ok {
              pools := runtime.pools.insert entry.1 state
              credentialSetRuntimes := runtime.credentialSetRuntimes.insert setId pool }

/-- The loop of `new_with_registry_store_and_validation_bootstrap` and of
`rebuild_runtime_from_resolved_config`. -/
def buildRuntime (evidence : StartupEvidence)
    (poolConfigs : List (String × ResolvedPoolConfig)) : Except String Runtime :=
  poolConfigs.foldlM (buildChannel evidence poolConfigs) ⟨∅, ∅⟩

/-! ## §4. The runtime at work. -/

/-- A pool operation through some channel of the set. -/
structure RuntimeCall where
  credentialSetId : CredentialSetId
  op : PoolOp
  readings : Readings
  output : PoolOutput

/-- Any build of the configuration, from the channels in any order and with any
evidence in the stores, and then any operations on the shared pools. -/
def runtimeSystem (config : ResolvedConfig) : TransitionSystem Runtime RuntimeCall where
  Init s := ∃ order evidence, order.Perm config.pools ∧ buildRuntime evidence order = .ok s
  Step s call s' := ∃ pool pool',
    s.credentialSetRuntimes[call.credentialSetId]? = some pool ∧
    call.op.exec call.readings pool = (pool', call.output) ∧
    s' = { s with
      credentialSetRuntimes := s.credentialSetRuntimes.insert call.credentialSetId pool' }

end OneAiKey
