/-
  OneAiKey.RegistryAudit — the audited changes of the registry
  (`src/management_registry.rs`, `apply_runtime_reload` of `src/management_runtime.rs`).

  A change takes `registry_mutation_lock`, reads the store, records its audit event with
  the version that it is about to commit, and then applies its command.  A reload of the
  runtime does the same with the runtime.  The lock keeps the changes apart; other parts
  of the process record events and use the runtime in between, so the recording and what
  comes after it are steps of their own.

  Nobody but the holder of the lock writes the store, so the reads of a change are one step.
  The routes that a model discovery comes to are an argument.
-/
import OneAiKey.Commands
import OneAiKey.Rebuild
import OneAiKey.RegistryStore

namespace OneAiKey

/-! ## §1. The handle of the store. -/

/-- A store that can be written, or the configuration file alone, which cannot. -/
inductive RegistryStoreHandle where
  | readOnly
  | sqlite (rows : RegistryRows)

namespace RegistryStoreHandle

/-- The version of the rows; a store without rows has none. -/
def version : RegistryStoreHandle → Nat
  | readOnly => 0
  | sqlite rows => currentRegistryVersion rows

/-- The version of the store; there is none without one. -/
def currentVersion (faults : StoreFaults) :
    RegistryStoreHandle → Except RegistryStoreError (Option Nat)
  | readOnly => .ok none
  | sqlite rows => do
      faults.run .connect
      faults.run .readVersion
      return some (currentRegistryVersion rows)

def loadRegistryForValidation (faults : StoreFaults) :
    RegistryStoreHandle → Except RegistryStoreError (Option RegistryDocument)
  | readOnly => .ok none
  | sqlite rows => do
      faults.run .connect
      faults.run .load
      let document ← (OneAiKey.loadRegistryForValidation rows).mapError .persistence
      return some document

/-- A command in a transaction of the store. -/
def applyCommand (command : RegistryCommand) (faults : StoreFaults)
    (validate : RegistryDocument → Except RegistryStoreError Unit) :
    RegistryStoreHandle → Except RegistryStoreError RegistryStoreCommit × RegistryStoreHandle
  | readOnly => (.error .notWritable, readOnly)
  | sqlite rows =>
      let out := OneAiKey.applyCommand command faults validate rows
      (out.1, sqlite out.2)

end RegistryStoreHandle

/-- What the management interface answers to an error of the store: an unknown resource is not
found, any other conflict is one. -/
def registryStoreError : RegistryStoreError → ManagementServiceError
  | .notWritable => .conflict "registry persistence requires a writable registry store"
  | .conflict message =>
      if startsWith message "unknown " then .notFound message else .conflict message
  | .validation message => .conflict message
  | .persistence _ => .persistence "registry store persistence error"

/-! ## §2. The requests. -/

/-- What the audit record says of a mutation. -/
structure RegistryMutationAudit where
  kind : String
  resourceType : String
  resourceId : String
  reasonCode : String
  deriving DecidableEq, Repr

/-- The requests that change the registry or reload the runtime. -/
inductive RegistryRequest where
  | providerEnabled (providerId : String) (enabled : Bool)
  | providerUpsert (providerId : String) (provider : ProviderConfig)
  | accountEnabled (accountId : String) (enabled : Bool)
  | accountUpsert (accountId : String) (account : AccountConfig)
  | channelEnabled (channelId : String) (enabled : Bool)
  | channelUpsert (channelId : String) (channel : PoolConfig)
  | modelRouteUpsert (publicModel : String) (expectedRegistryVersion : Nat)
      (route : ModelRouteConfig)
  | policyProfileUpsert (profileId : String) (profile : PolicyProfileConfig)
  | routingProfileUpsert (profileId : String) (profile : RoutingProfileConfig)
  | modelDiscoverySync (expectedRegistryVersion : Nat)
      (routes : List (String × ModelRouteConfig))
  | runtimeReload (expectedStagedRegistryVersion : Option Nat)

/-- What a request comes down to: one command, a batch of routes with the version that it
was made for, or a reload. -/
inductive RegistryMutation where
  | single (command : RegistryCommand)
  | batch (expectedRegistryVersion : Nat) (routes : List (String × ModelRouteConfig))
  | reload (expectedStagedRegistryVersion : Option Nat)

namespace RegistryRequest

/-- What a request asks the store to do. -/
def mutation : RegistryRequest → RegistryMutation
  | providerEnabled id enabled => .single (.setProviderEnabled id enabled)
  | providerUpsert id provider => .single (.upsertProvider id provider)
  | accountEnabled id enabled => .single (.setAccountEnabled id enabled)
  | accountUpsert id account => .single (.upsertAccount id account)
  | channelEnabled id enabled => .single (.setChannelEnabled id enabled)
  | channelUpsert id channel => .single (.upsertChannel id channel)
  | modelRouteUpsert publicModel expected route => .batch expected [(publicModel, route)]
  | policyProfileUpsert id profile => .single (.upsertPolicyProfile id profile)
  | routingProfileUpsert id profile => .single (.upsertRoutingProfile id profile)
  | modelDiscoverySync expected routes => .batch expected routes
  | runtimeReload expected => .reload expected

def audit : RegistryRequest → RegistryMutationAudit
  | providerEnabled id true =>
      ⟨"registry_provider_enabled", "registry_provider", id, "manual_registry_provider_enable"⟩
  | providerEnabled id false =>
      ⟨"registry_provider_disabled", "registry_provider", id, "manual_registry_provider_disable"⟩
  | providerUpsert id _ =>
      ⟨"registry_provider_upserted", "registry_provider", id, "manual_registry_provider_upsert"⟩
  | accountEnabled id true =>
      ⟨"registry_account_enabled", "registry_account", id, "manual_registry_account_enable"⟩
  | accountEnabled id false =>
      ⟨"registry_account_disabled", "registry_account", id, "manual_registry_account_disable"⟩
  | accountUpsert id _ =>
      ⟨"registry_account_upserted", "registry_account", id, "manual_registry_account_upsert"⟩
  | channelEnabled id true =>
      ⟨"registry_channel_enabled", "registry_channel", id, "manual_registry_channel_enable"⟩
  | channelEnabled id false =>
      ⟨"registry_channel_disabled", "registry_channel", id, "manual_registry_channel_disable"⟩
  | channelUpsert id _ =>
      ⟨"registry_channel_upserted", "registry_channel", id, "manual_registry_channel_upsert"⟩
  | modelRouteUpsert publicModel _ _ =>
      ⟨"registry_model_route_upserted", "registry_model_route", publicModel,
        "manual_registry_model_route_upsert"⟩
  | policyProfileUpsert id _ =>
      ⟨"registry_policy_profile_upserted", "registry_policy_profile", id,
        "manual_registry_policy_profile_upsert"⟩
  | routingProfileUpsert id _ =>
      ⟨"registry_routing_profile_upserted", "registry_routing_profile", id,
        "manual_registry_routing_profile_upsert"⟩
  | modelDiscoverySync _ _ =>
      ⟨"registry_model_route_discovery_synced", "registry_model_route_batch",
        "model_discovery_sync_apply", "model_discovery_sync_apply"⟩
  | runtimeReload _ => ⟨"runtime_reloaded", "runtime", "runtime", "manual_runtime_reload"⟩

end RegistryRequest

/-- The event of `record_registry_mutation_audit_event`, and of a reload. -/
def registryAuditEvent (actor : ManagementEventActor) (audit : RegistryMutationAudit)
    (generation : Option Nat) : ManagementAuditEvent :=
  { ManagementAuditEvent.applied audit.kind audit.resourceType audit.resourceId audit.reasonCode
      (some actor) with generation }

/-! ## §3. Before the event. -/

/-- What the reads of a change meet: which statements fail, and what a resolution asks. -/
structure RegistryReads where
  versionFaults : StoreFaults
  loadFaults : StoreFaults
  environment : ProcessEnvironment
  orders : ∀ document : RegistryDocument, SectionOrders document

/-- What a change does behind its event. -/
inductive RegistryAction where
  | applyCommand (command : RegistryCommand)
  | replaceRuntime (config : FullResolvedConfig) (activeRegistryVersion : Option Nat)

/-- `ok_or_else`. -/
def requireSome {α : Type} (value : Option α) (err : ManagementServiceError) :
    Except ManagementServiceError α :=
  match value with
  | some a => .ok a
  | none => .error err

/-- A check with its error. -/
def requireThat (condition : Bool) (err : ManagementServiceError) :
    Except ManagementServiceError Unit :=
  if condition then .ok () else .error err

/-- The version as a request reads it, which may fail. -/
def RegistryReads.currentVersion (reads : RegistryReads) (store : RegistryStoreHandle) :
    Except ManagementServiceError (Option Nat) :=
  (store.currentVersion reads.versionFaults).mapError registryStoreError

/-- The document as a request reads it, which may fail. -/
def RegistryReads.loadRegistry (reads : RegistryReads) (store : RegistryStoreHandle) :
    Except ManagementServiceError (Option RegistryDocument) :=
  (store.loadRegistryForValidation reads.loadFaults).mapError registryStoreError

/-- The answer where there is no store to write. -/
def notWritableConflict : ManagementServiceError :=
  .conflict "registry persistence requires a writable registry store"

section Prepare

variable (validationBootstrap : RegistryDocument) (reads : RegistryReads)
  (store : RegistryStoreHandle)

/-- `apply_audited_staged_registry_mutation`, up to its event: the command is not looked at. -/
def prepareSingle (command : RegistryCommand) :
    Except ManagementServiceError (Option Nat × RegistryAction) := do
  let version ← reads.currentVersion store
  let version ← requireSome version notWritableConflict
  return (some (version + 1), .applyCommand command)

/-- `preflight_staged_model_route_batch_for_state`. -/
def preflightStagedModelRouteBatch (expectedRegistryVersion : Nat)
    (routes : List (String × ModelRouteConfig)) : Except ManagementServiceError Unit := do
  let version ← reads.currentVersion store
  let version ← requireSome version notWritableConflict
  requireThat (version == expectedRegistryVersion)
    (.conflict "registry version changed during model discovery sync apply")
  let document ← reads.loadRegistry store
  let document ← requireSome document notWritableConflict
  (stagedRegistryValidator reads.environment reads.orders validationBootstrap
    { document with
      modelRoutes := routes.foldl (fun m route => m.insert route.1 route.2)
        document.modelRoutes }).mapError registryStoreError

/-- `apply_audited_staged_model_route_batch_for_state`, up to its event. -/
def prepareBatch (expectedRegistryVersion : Nat) (routes : List (String × ModelRouteConfig)) :
    Except ManagementServiceError (Option Nat × RegistryAction) := do
  preflightStagedModelRouteBatch validationBootstrap reads store expectedRegistryVersion routes
  return (some (expectedRegistryVersion + 1),
    .applyCommand (.upsertModelRouteBatch (some expectedRegistryVersion) routes))

/-- The text of an optional version. -/
def debugVersion : Option Nat → String
  | some version => "Some(" ++ toString version ++ ")"
  | none => "None"

/-- `apply_runtime_reload`, up to its event. -/
def prepareReload (expectedStagedRegistryVersion : Option Nat) :
    Except ManagementServiceError (Option Nat × RegistryAction) := do
  let expected ← requireSome expectedStagedRegistryVersion (.preconditionFailed
    "runtime reload requires expected_staged_registry_version precondition")
  let stagedRegistryVersion ← reads.currentVersion store
  requireThat (stagedRegistryVersion == some expected) (.preconditionFailed
    ("runtime reload precondition failed: staged registry version changed from " ++
      toString expected ++ " to " ++ debugVersion stagedRegistryVersion))
  let document ← reads.loadRegistry store
  let document ← requireSome document
    (.conflict "runtime reload requires a writable registry store")
  let config ← (resolveStagedRegistryDocument reads.environment reads.orders
    validationBootstrap document).mapError registryStoreError
  return (stagedRegistryVersion, .replaceRuntime config stagedRegistryVersion)

/-- What comes before the event: the generation that the event is to name, and what is to
be done behind it. -/
def RegistryMutation.prepare :
    RegistryMutation → Except ManagementServiceError (Option Nat × RegistryAction)
  | single command => prepareSingle reads store command
  | batch expected routes => prepareBatch validationBootstrap reads store expected routes
  | reload expected => prepareReload validationBootstrap reads store expected

end Prepare

/-! ## §4. The changes of a process. -/

/-- A change that holds the lock. -/
structure HeldMutation where
  request : RegistryRequest
  actor : ManagementEventActor
  generation : Option Nat
  action : RegistryAction
  /-- Its event, once it is recorded. -/
  event : Option ManagementEvent

/-- The audit record of the mutation that holds the lock. -/
def HeldMutation.auditEvent (held : HeldMutation) : ManagementAuditEvent :=
  registryAuditEvent held.actor held.request.audit held.generation

/-- A command that the store has committed, and the event that was recorded for it. -/
structure CommittedMutation where
  request : RegistryRequest
  actor : ManagementEventActor
  event : ManagementEvent
  registryVersion : Nat

/-- A replacement of the runtime: its event, and the store at that time. -/
structure ReplacedRuntime where
  event : ManagementEvent
  store : RegistryStoreHandle
  config : FullResolvedConfig

/-- Store, log and runtime under the lock that mutations take in turn. -/
structure RegistryAuditState (ρ τ : Type) where
  store : RegistryStoreHandle
  events : EventLogFile
  app : AppState ρ τ
  /-- The holder of `registry_mutation_lock`. -/
  holder : Option HeldMutation
  /-- The last one first, as are the replacements. -/
  committed : List CommittedMutation
  replaced : List ReplacedRuntime
  /-- The version that the process found. -/
  startVersion : Nat

inductive RegistryAuditLabel where
  /-- A change gets the lock, and reads the store. -/
  | acquire (request : RegistryRequest) (actor : ManagementEventActor) (reads : RegistryReads)
  | record (createdAtUnixSeconds : Nat) (fault : Option AppendFault)
  | applyCommand (faults : StoreFaults) (environment : ProcessEnvironment)
      (orders : ∀ document : RegistryDocument, SectionOrders document)
  | replaceRuntime (inputs : RebuildInputs)
  /-- Anything else that the process does in between. -/
  | other

/-- The kinds of audit records of mutations that write the store. -/
def registryMutationKinds : List String :=
  ["registry_provider_enabled", "registry_provider_disabled", "registry_provider_upserted",
    "registry_account_enabled", "registry_account_disabled", "registry_account_upserted",
    "registry_channel_enabled", "registry_channel_disabled", "registry_channel_upserted",
    "registry_model_route_upserted", "registry_policy_profile_upserted",
    "registry_routing_profile_upserted", "registry_model_route_discovery_synced"]

/-- An event of a change, or of a reload. -/
def ManagementEvent.IsRegistryAudit (event : ManagementEvent) : Prop :=
  event.kind ∈ registryMutationKinds ∨ event.kind = "runtime_reloaded"

/-- A record of a mutation of the registry or of a reload. -/
def ManagementAuditEvent.IsRegistryAudit (audit : ManagementAuditEvent) : Prop :=
  audit.kind ∈ registryMutationKinds ∨ audit.kind = "runtime_reloaded"

namespace RegistryAuditState

variable {ρ τ : Type} (s : RegistryAuditState ρ τ)

/-- A change that may not go on gives the lock back. -/
def acquire (validationBootstrap : RegistryDocument) (request : RegistryRequest)
    (actor : ManagementEventActor) (reads : RegistryReads) : RegistryAuditState ρ τ :=
  match request.mutation.prepare validationBootstrap reads s.store with
  | .error _ => s
  | .ok (generation, action) =>
      { s with holder := some ⟨request, actor, generation, action, none⟩ }

/-- A change whose event could not be appended is given up. -/
def record (held : HeldMutation) (createdAtUnixSeconds : Nat) (fault : Option AppendFault) :
    RegistryAuditState ρ τ :=
  match s.events.recordAuditEventNow held.auditEvent createdAtUnixSeconds fault with
  | (events, .error _) => { s with events, holder := none }
  | (events, .ok ()) =>
      { s with
        events
        holder := some { held with
          event := some (held.auditEvent.toEvent (s.events.nextId + 1) createdAtUnixSeconds) } }

def applyCommand (held : HeldMutation) (event : ManagementEvent) (command : RegistryCommand)
    (faults : StoreFaults) (validate : RegistryDocument → Except RegistryStoreError Unit) :
    RegistryAuditState ρ τ :=
  match s.store.applyCommand command faults validate with
  | (.error _, store) => { s with store, holder := none }
  | (.ok commit, store) =>
      { s with
        store
        holder := none
        committed := ⟨held.request, held.actor, event, commit.registryVersion⟩ :: s.committed }

/-- The reload itself, which replaces the runtime or leaves it as it is. -/
def replaceRuntime (event : ManagementEvent) (config : FullResolvedConfig)
    (activeRegistryVersion : Option Nat) (inputs : RebuildInputs) : RegistryAuditState ρ τ :=
  match rebuildRuntimeFromResolvedConfig config activeRegistryVersion inputs s.app with
  | (.error _, app) => { s with app, holder := none }
  | (.ok (), app) =>
      { s with app, holder := none, replaced := ⟨event, s.store, config⟩ :: s.replaced }

end RegistryAuditState

/-- The rest of the process: it leaves the store and the changes alone, and appends events
of its own, which may fail as well. -/
structure RegistryAuditState.Other {ρ τ : Type} (s s' : RegistryAuditState ρ τ) : Prop where
  store : s'.store = s.store
  holder : s'.holder = s.holder
  committed : s'.committed = s.committed
  replaced : s'.replaced = s.replaced
  startVersion : s'.startVersion = s.startVersion
  app : s.app.Other s'.app
  events : ∃ appends, s'.events = s.events.appendAll appends ∧
    ∀ append ∈ appends, ¬ append.audit.IsRegistryAudit

/-- A process starts with any store, and with a log that has no event of a change. -/
def registryAuditSystem (ρ τ : Type) (validationBootstrap : RegistryDocument) :
    TransitionSystem (RegistryAuditState ρ τ) RegistryAuditLabel where
  Init s := s.holder = none ∧ s.committed = [] ∧ s.replaced = [] ∧
    s.startVersion = s.store.version ∧ ∀ event ∈ s.events.recorded, ¬ event.IsRegistryAudit
  Step s label s' :=
    match label with
    | .acquire request actor reads => s.holder = none ∧
        s' = s.acquire validationBootstrap request actor reads
    | .record createdAtUnixSeconds fault => ∃ held, s.holder = some held ∧
        held.event = none ∧ s' = s.record held createdAtUnixSeconds fault
    | .applyCommand faults environment orders => ∃ held event command,
        s.holder = some held ∧ held.event = some event ∧
        held.action = .applyCommand command ∧
        s' = s.applyCommand held event command faults
          (stagedRegistryValidator environment orders validationBootstrap)
    | .replaceRuntime inputs => ∃ held event config activeRegistryVersion,
        s.holder = some held ∧ held.event = some event ∧
        held.action = .replaceRuntime config activeRegistryVersion ∧ inputs.Visits config ∧
        s' = s.replaceRuntime event config activeRegistryVersion inputs
    | .other => s.Other s'

end OneAiKey
