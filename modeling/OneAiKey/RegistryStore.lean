/-
  OneAiKey.RegistryStore — the registry store (`src/registry_store.rs`).

  The rows of an SQLite database, the loader that joins them to a document, and
  the commands that stage a change: load, change the document, validate it,
  write the rows, commit.  A command that fails drops its transaction.

  A table is a finite map from its primary key; the rows of `model_route_targets`
  are kept by public model, in the order of their positions.  A JSON column holds
  the value that it was written from.
-/
import OneAiKey.Resolve

namespace OneAiKey

open Collect

/-! ## §1. Tables. -/

section Tables

variable {β γ : Type}

/-- A row for each entry. -/
def IdMap.mapValues (f : β → γ) (m : IdMap β) : IdMap γ where
  entries := m.entries.map (Sigma.map id fun _ => f)
  nodupKeys := by
    obtain ⟨entries, h⟩ := m
    induction entries using Quot.ind with
    | mk entries => exact List.NodupKeys.map₂ (fun _ => f) entries h

theorem IdMap.lookup_mapValues (f : β → γ) (m : IdMap β) (key : String) :
    (IdMap.mapValues f m).lookup key = (m.lookup key).map f := by
  induction m using Finmap.induction_on with
  | H entries => exact List.dlookup_map₂ (f := fun _ => f) key

/-- `UPDATE … WHERE id = …`. -/
def IdMap.update (m : IdMap β) (key : String) (f : β → β) : IdMap β :=
  match m.lookup key with
  | some value => m.insert key (f value)
  | none => m

/-- `get_mut`, and the assignment through it. -/
theorem IdMap.update_of_lookup {m : IdMap β} {key : String} {value : β} (f : β → β)
    (h : m.lookup key = some value) : IdMap.update m key f = m.insert key (f value) := by
  unfold IdMap.update
  rw [h]

end Tables

/-- A row of `providers`. -/
structure ProviderRow where
  providerKind : String
  enabled : Bool
  deriving DecidableEq, Repr

/-- A row of `credential_sets`. -/
structure CredentialSetRow where
  sourceKind : String
  sourceRef : String
  deriving DecidableEq, Repr

/-- A row of `channels`. -/
structure ChannelRow where
  accountId : String
  credentialSetId : String
  policyProfileId : Option String
  routingProfileId : Option String
  errorRules : ErrorRulesConfig
  endpointCapabilities : EndpointCapabilitiesConfig
  enabled : Bool
  deriving DecidableEq, Repr

/-- The row of the defaults. -/
structure RegistryDefaults where
  defaultPool : Option String
  defaultRoutingProfile : Option String
  deriving DecidableEq, Repr

/-- The database. -/
structure RegistryRows where
  registryVersions : List Nat
  /-- The row of `registry_defaults`. -/
  registryDefaults : Option RegistryDefaults
  providers : IdMap ProviderRow
  accounts : IdMap AccountConfig
  credentialSets : IdMap CredentialSetRow
  channels : IdMap ChannelRow
  /-- The strategies. -/
  modelRoutes : IdMap (Option String)
  modelRouteTargets : IdMap (List ModelRouteTargetConfig)
  policyProfiles : IdMap PolicyProfileConfig
  routingProfiles : IdMap RoutingProfileConfig

/-- A database that only has its schema. -/
def RegistryRows.empty : RegistryRows :=
  ⟨[], none, ∅, ∅, ∅, ∅, ∅, ∅, ∅, ∅⟩

/-! ## §2. Errors and faults. -/

/-- What reading or writing rows can fail with. -/
inductive RusqliteError where
  | invalidQuery
  | fromSqlConversionFailure (column : Nat) (message : String)
  /-- A statement failed. -/
  | sqliteFailure (message : String)
  deriving DecidableEq, Repr

/-- The errors of the store. -/
inductive RegistryStoreError where
  | notWritable
  | conflict (message : String)
  | validation (message : String)
  | persistence (err : RusqliteError)
  deriving DecidableEq, Repr

/-- The statements at which a database can fail. -/
inductive StoreStatement where
  | connect
  | load
  | readVersion
  | insertVersion
  | writeRows
  | commit
  deriving DecidableEq, Repr

/-- The statements that do fail. -/
abbrev StoreFaults := StoreStatement → Option String

/-- A statement, which fails where a fault says so. -/
def StoreFaults.run (faults : StoreFaults) (statement : StoreStatement) :
    Except RegistryStoreError Unit :=
  match faults statement with
  | none => .ok ()
  | some message => .error (.persistence (.sqliteFailure message))

/-- No statement fails. -/
def StoreFaults.none : StoreFaults := fun _ => Option.none

/-! ## §3. Loading. -/

/-- The kinds of providers as rows keep them. -/
def providerKindToStr : ProviderKind → String
  | .openAiCompatible => "openai_compatible"
  | .genericHttp => "generic_http"

/-- The kind of a provider that a row names. -/
def providerKindFromStr (kind : String) : Except String ProviderKind :=
  match kind with
  | "openai_compatible" => .ok .openAiCompatible
  | "generic_http" => .ok .genericHttp
  | other => .error ("unknown provider kind " ++ other)

/-- A provider from its row. -/
def loadProvider (row : ProviderRow) : Except RusqliteError ProviderConfig := do
  let providerKind ← (providerKindFromStr row.providerKind).mapError
    (.fromSqlConversionFailure 1)
  return { providerKind, enabled := row.enabled }

/-- A credential set from its row; only files can be its source. -/
def loadCredentialSet (row : CredentialSetRow) : Except RusqliteError CredentialSetConfig :=
  if row.sourceKind ≠ "file" then .error .invalidQuery
  else .ok { keysFile := row.sourceRef }

/-- `ok_or(InvalidQuery)`. -/
def joined {β : Type} : Option β → Except RusqliteError β
  | some value => .ok value
  | none => .error .invalidQuery

/-- A channel takes its endpoint from its account and its kind from the account's
provider. -/
def loadChannel (accounts : IdMap AccountConfig) (providers : IdMap ProviderConfig)
    (row : ChannelRow) : Except RusqliteError PoolConfig := do
  let account ← joined (accounts.lookup row.accountId)
  let provider ← joined (providers.lookup account.provider)
  return {
    endpointCapabilities := row.endpointCapabilities
    enabled := row.enabled
    account := some row.accountId
    policyProfile := row.policyProfileId
    routingProfile := row.routingProfileId
    providerKind := provider.providerKind
    apiBase := account.apiBase
    credentialSet := row.credentialSetId
    authHeader := account.authHeader
    authPrefix := account.authPrefix
    errorRules := row.errorRules }

/-- A route from its row and the rows of its targets. -/
def loadModelRoute (targets : IdMap (List ModelRouteTargetConfig)) (publicModel : String)
    (strategy : Option String) : Except RusqliteError ModelRouteConfig :=
  .ok { strategy := strategy, targets := (targets.lookup publicModel).getD [] }

/-- The defaults, which are empty without a row. -/
def loadRegistryDefaults (rows : RegistryRows) : RegistryDefaults :=
  rows.registryDefaults.getD ⟨none, none⟩

/-- All tables, read one after the other. -/
def loadRegistryResources (rows : RegistryRows) : Except RusqliteError RegistryResources := do
  let defaults := loadRegistryDefaults rows
  let providers ← readTable (fun _ => loadProvider) (IdMap.sortedEntries rows.providers)
  let accounts := rows.accounts
  let credentialSets ← readTable (fun _ => loadCredentialSet)
    (IdMap.sortedEntries rows.credentialSets)
  let pools ← readTable (fun _ => loadChannel accounts providers)
    (IdMap.sortedEntries rows.channels)
  let modelRoutes ← readTable (loadModelRoute rows.modelRouteTargets)
    (IdMap.sortedEntries rows.modelRoutes)
  return {
    defaultPool := defaults.defaultPool
    providers := providers
    accounts := accounts
    credentialSets := credentialSets
    policyProfiles := rows.policyProfiles
    defaultRoutingProfile := defaults.defaultRoutingProfile
    routingProfiles := rows.routingProfiles
    modelRoutes := modelRoutes
    pools := pools }

/-- The stored part as a document; what the store does not keep gets fixed values. -/
def RegistryResources.intoDocumentForValidation (resources : RegistryResources) :
    RegistryDocument where
  toRegistryResources := resources
  listen := ⟨"127.0.0.1:0", true⟩
  clientTokens := []
  management := none
  maxRequestBodyBytes := 1048576
  maxModelCatalogBodyBytes := 524288
  maxErrorBodyBytes := 1024
  timeouts := ⟨none, none, none⟩
  routing := ⟨none, none, none⟩
  responseFilter := ⟨false, none, none, none, []⟩
  modelGroups := ∅

/-- The document that the tables hold. -/
def loadRegistryForValidation (rows : RegistryRows) : Except RusqliteError RegistryDocument :=
  (loadRegistryResources rows).map RegistryResources.intoDocumentForValidation

/-- `MAX(id)`. -/
def currentRegistryVersion (rows : RegistryRows) : Nat := rows.registryVersions.foldr max 0

/-! ## §4. Writing. -/

/-- One more version. -/
def insertRegistryVersion (rows : RegistryRows) (version : Nat) : RegistryRows :=
  { rows with registryVersions := version :: rows.registryVersions }

/-- A provider as a row. -/
def providerRow (provider : ProviderConfig) : ProviderRow :=
  ⟨providerKindToStr provider.providerKind, provider.enabled⟩

/-- A credential set as a row. -/
def credentialSetRow (credentialSet : CredentialSetConfig) : CredentialSetRow :=
  ⟨"file", credentialSet.keysFile⟩

/-- A channel without an account is written with an empty one. -/
def channelRow (channel : PoolConfig) : ChannelRow where
  accountId := channel.account.getD ""
  credentialSetId := channel.credentialSet
  policyProfileId := channel.policyProfile
  routingProfileId := channel.routingProfile
  errorRules := channel.errorRules
  endpointCapabilities := channel.endpointCapabilities
  enabled := channel.enabled

/-- The tables of a document; the versions stay. -/
def replaceDocumentRows (rows : RegistryRows) (document : RegistryDocument) : RegistryRows where
  registryVersions := rows.registryVersions
  registryDefaults := some ⟨document.defaultPool, document.defaultRoutingProfile⟩
  providers := IdMap.mapValues providerRow document.providers
  accounts := document.accounts
  credentialSets := IdMap.mapValues credentialSetRow document.credentialSets
  channels := IdMap.mapValues channelRow document.pools
  modelRoutes := IdMap.mapValues (·.strategy) document.modelRoutes
  modelRouteTargets := IdMap.mapValues (·.targets) document.modelRoutes
  policyProfiles := document.policyProfiles
  routingProfiles := document.routingProfiles

/-- A route with its targets, in the place of those that were there. -/
def upsertModelRoute (rows : RegistryRows) (publicModel : String) (route : ModelRouteConfig) :
    RegistryRows :=
  { rows with
    modelRoutes := rows.modelRoutes.insert publicModel route.strategy
    modelRouteTargets := rows.modelRouteTargets.insert publicModel route.targets }

/-! ## §5. Commands. -/

/-- The commands that change the tables. -/
inductive RegistryCommand where
  | setProviderEnabled (providerId : String) (enabled : Bool)
  | upsertProvider (providerId : String) (provider : ProviderConfig)
  | setAccountEnabled (accountId : String) (enabled : Bool)
  | upsertAccount (accountId : String) (account : AccountConfig)
  | setChannelEnabled (channelId : String) (enabled : Bool)
  | upsertChannel (channelId : String) (channel : PoolConfig)
  | upsertModelRoute (publicModel : String) (route : ModelRouteConfig)
  | upsertModelRouteBatch (expectedRegistryVersion : Option Nat)
      (routes : List (String × ModelRouteConfig))
  | upsertPolicyProfile (profileId : String) (profile : PolicyProfileConfig)
  | upsertRoutingProfile (profileId : String) (profile : RoutingProfileConfig)
  deriving DecidableEq, Repr

/-- The entry that a command sets enabled or disabled. -/
def enable {β : Type} (m : IdMap β) (kind id : String) (f : β → β) :
    Except RegistryStoreError (IdMap β) :=
  match m.lookup id with
  | some value => .ok (m.insert id (f value))
  | none => .error (.conflict ("unknown " ++ kind ++ " " ++ id))

/-- What a command makes of the document; `currentVersion` is what a batch compares
the version that it expects with. -/
def RegistryCommand.stage (command : RegistryCommand) (currentVersion : Nat)
    (document : RegistryDocument) : Except RegistryStoreError RegistryDocument :=
  match command with
  | setProviderEnabled id enabled => do
      let providers ← enable document.providers "provider" id ({ · with enabled })
      return { document with providers }
  | upsertProvider id provider =>
      .ok { document with providers := document.providers.insert id provider }
  | setAccountEnabled id enabled => do
      let accounts ← enable document.accounts "account" id ({ · with enabled })
      return { document with accounts }
  | upsertAccount id account =>
      .ok { document with accounts := document.accounts.insert id account }
  | setChannelEnabled id enabled => do
      let pools ← enable document.pools "channel" id ({ · with enabled })
      return { document with pools }
  | upsertChannel id channel =>
      .ok { document with pools := document.pools.insert id channel }
  | upsertModelRoute publicModel route =>
      .ok { document with modelRoutes := document.modelRoutes.insert publicModel route }
  | upsertModelRouteBatch expected routes =>
      if expected.any (· ≠ currentVersion) then
        .error (.conflict "registry version changed during model discovery sync apply")
      else .ok { document with
        modelRoutes := routes.foldl (fun m route => m.insert route.1 route.2)
          document.modelRoutes }
  | upsertPolicyProfile id profile =>
      .ok { document with policyProfiles := document.policyProfiles.insert id profile }
  | upsertRoutingProfile id profile =>
      .ok { document with routingProfiles := document.routingProfiles.insert id profile }

/-- The rows that a command writes. -/
def RegistryCommand.write (command : RegistryCommand) (rows : RegistryRows) : RegistryRows :=
  match command with
  | setProviderEnabled id enabled =>
      { rows with providers := IdMap.update rows.providers id ({ · with enabled }) }
  | upsertProvider id provider =>
      { rows with providers := rows.providers.insert id (providerRow provider) }
  | setAccountEnabled id enabled =>
      { rows with accounts := IdMap.update rows.accounts id ({ · with enabled }) }
  | upsertAccount id account => { rows with accounts := rows.accounts.insert id account }
  | setChannelEnabled id enabled =>
      { rows with channels := IdMap.update rows.channels id ({ · with enabled }) }
  | upsertChannel id channel =>
      { rows with channels := rows.channels.insert id (channelRow channel) }
  | upsertModelRoute publicModel route => OneAiKey.upsertModelRoute rows publicModel route
  | upsertModelRouteBatch _ routes =>
      routes.foldl (fun rows route => OneAiKey.upsertModelRoute rows route.1 route.2) rows
  | upsertPolicyProfile id profile =>
      { rows with policyProfiles := rows.policyProfiles.insert id profile }
  | upsertRoutingProfile id profile =>
      { rows with routingProfiles := rows.routingProfiles.insert id profile }

/-- A batch reads the version before it stages, the others behind the validation. -/
def RegistryCommand.readVersionFirst (faults : StoreFaults) :
    RegistryCommand → Except RegistryStoreError Unit
  | upsertModelRouteBatch .. => faults.run .readVersion
  | _ => .ok ()

/-- What a committed command returns: the new version, and the document as it is now. -/
structure RegistryStoreCommit where
  registryVersion : Nat
  documentForValidation : RegistryDocument

/-- The transaction of a command, with the rows that it commits. -/
def RegistryCommand.transact (command : RegistryCommand) (faults : StoreFaults)
    (validate : RegistryDocument → Except RegistryStoreError Unit) (rows : RegistryRows) :
    Except RegistryStoreError (RegistryStoreCommit × RegistryRows) := do
  faults.run .connect
  faults.run .load
  let document ← (loadRegistryForValidation rows).mapError .persistence
  command.readVersionFirst faults
  let document ← command.stage (currentRegistryVersion rows) document
  validate document
  faults.run .readVersion
  let nextVersion := currentRegistryVersion rows + 1
  faults.run .insertVersion
  faults.run .writeRows
  faults.run .commit
  return (⟨nextVersion, document⟩, command.write (insertRegistryVersion rows nextVersion))

/-- A command on the store; a transaction that fails is dropped. -/
def applyCommand (command : RegistryCommand) (faults : StoreFaults)
    (validate : RegistryDocument → Except RegistryStoreError Unit) (rows : RegistryRows) :
    Except RegistryStoreError RegistryStoreCommit × RegistryRows :=
  match command.transact faults validate rows with
  | .ok (commit, rows') => (.ok commit, rows')
  | .error err => (.error err, rows)

/-! ## §6. Validation. -/

/-- What `CredentialRepositorySelection::from_process_environment` opens, and with it
everything else that a resolution asks. -/
abbrev ProcessEnvironment := Except String ResolveEnvironment

/-- A document resolved with the credential source that the process was started with. -/
def compileWithProcessCredentialSource (environment : ProcessEnvironment)
    (orders : ∀ document : RegistryDocument, SectionOrders document)
    (document : RegistryDocument) : Except String FullResolvedConfig := do
  let selection ← environment
  resolve selection document (orders document)

/-- The document that a command would leave, resolved with what the process was started with. -/
def resolveStagedRegistryDocument (environment : ProcessEnvironment)
    (orders : ∀ document : RegistryDocument, SectionOrders document)
    (validationBootstrap document : RegistryDocument) :
    Except RegistryStoreError FullResolvedConfig :=
  (compileWithProcessCredentialSource environment orders
    (overlayStagedResources validationBootstrap document)).mapError fun err =>
      .validation ("registry validation failed: " ++ err)

/-- The check of a command before it is committed. -/
def stagedRegistryValidator (environment : ProcessEnvironment)
    (orders : ∀ document : RegistryDocument, SectionOrders document)
    (validationBootstrap document : RegistryDocument) : Except RegistryStoreError Unit :=
  (resolveStagedRegistryDocument environment orders validationBootstrap document).map fun _ => ()

/-! ## §7. Bootstrapping. -/

/-- What filling the tables from a document can fail with. -/
inductive BootstrapError where
  | unsupported (message : String)
  | store (err : RegistryStoreError)
  deriving DecidableEq, Repr

/-- What the store asks of a channel: what it refers to has to be there. -/
def validateChannel (document : RegistryDocument) (id : String) (channel : PoolConfig) :
    Except String Unit := do
  let accountId ← okOrElse (channel.account.filter fun account => !(trimString account).isEmpty)
    ("channel " ++ id ++ " requires canonical account reference")
  ensure (decide (accountId ∈ document.accounts))
    ("channel " ++ id ++ " references unknown account " ++ accountId)
  ensure (decide (channel.credentialSet ∈ document.credentialSets))
    ("channel " ++ id ++ " references unknown credential_set " ++ channel.credentialSet)
  ensure (channel.policyProfile.all fun profile => decide (profile ∈ document.policyProfiles))
    ("channel " ++ id ++ " references unknown policy_profile " ++
      channel.policyProfile.getD "")
  ensure (channel.routingProfile.all fun profile => decide (profile ∈ document.routingProfiles))
    ("channel " ++ id ++ " references unknown routing_profile " ++
      channel.routingProfile.getD "")

/-- The store has no model groups; every reference must be an id as it is written.  The
loops visit the sections in the order of their ids: which of several errors is reported
is the only difference. -/
def validateStoreSupportedRegistryDocument (document : RegistryDocument) :
    Except String Unit := do
  ensure (decide (document.modelGroups = ∅))
    "sqlite registry store does not persist model_groups yet"
  ensure (document.defaultPool.all fun pool => decide (pool ∈ document.pools))
    ("default_pool " ++ document.defaultPool.getD "" ++ " does not exist")
  ensure (document.defaultRoutingProfile.all fun id => decide (id ∈ document.routingProfiles))
    ("default_routing_profile " ++ document.defaultRoutingProfile.getD "" ++ " does not exist")
  (IdMap.sortedEntries document.accounts).forM fun (id, account) =>
    ensure (decide (account.provider ∈ document.providers))
      ("account " ++ id ++ " references unknown provider " ++ account.provider)
  (IdMap.sortedEntries document.pools).forM fun (id, channel) =>
    validateChannel document id channel
  (IdMap.sortedEntries document.modelRoutes).forM fun (publicModel, route) =>
    route.targets.forM fun target =>
      ensure (decide (target.channel ∈ document.pools))
        ("model route " ++ publicModel ++ " references unknown channel " ++ target.channel)

/-- The rows of the first version. -/
def bootstrapRows (faults : StoreFaults) (document : RegistryDocument) (rows : RegistryRows) :
    Except BootstrapError RegistryRows :=
  Except.mapError .store do
    faults.run .insertVersion
    faults.run .writeRows
    faults.run .commit
    return replaceDocumentRows (insertRegistryVersion rows 1) document

/-- The tables filled from a document, which has to find them empty. -/
def bootstrapFromDocument (faults : StoreFaults) (document : RegistryDocument)
    (rows : RegistryRows) : Except BootstrapError RegistryRows := do
  (validateStoreSupportedRegistryDocument document).mapError .unsupported
  (faults.run .connect).mapError .store
  (faults.run .readVersion).mapError .store
  (ensure rows.registryVersions.isEmpty "registry store already contains resource rows").mapError
    .unsupported
  bootstrapRows faults document rows

/-- The document that a start works with, and the rows behind it. -/
def loadOrBootstrapStartupDocument (faults : StoreFaults) (bootstrap : RegistryDocument)
    (rows : RegistryRows) : Except BootstrapError (RegistryDocument × RegistryRows) := do
  (faults.run .connect).mapError .store
  if rows.registryVersions.isEmpty then do
    (validateStoreSupportedRegistryDocument bootstrap).mapError .unsupported
    let rows ← bootstrapRows faults bootstrap rows
    return (bootstrap, rows)
  else do
    (faults.run .load).mapError .store
    let resources ← (loadRegistryResources rows).mapError fun err => .store (.persistence err)
    return (bootstrap.applyResources resources, rows)

/-! ## §8. Runs of the store. -/

/-- The calls of the store. -/
inductive StoreCall where
  | bootstrapFromDocument (faults : StoreFaults) (document : RegistryDocument)
  | loadOrBootstrapStartupDocument (faults : StoreFaults) (bootstrap : RegistryDocument)
  | applyCommand (faults : StoreFaults) (environment : ProcessEnvironment)
      (orders : ∀ document : RegistryDocument, SectionOrders document)
      (validationBootstrap : RegistryDocument) (command : RegistryCommand)

/-- The rows behind a call. -/
def StoreCall.next (call : StoreCall) (rows : RegistryRows) : RegistryRows :=
  match call with
  | bootstrapFromDocument faults document =>
      match OneAiKey.bootstrapFromDocument faults document rows with
      | .ok rows' => rows'
      | .error _ => rows
  | loadOrBootstrapStartupDocument faults bootstrap =>
      match OneAiKey.loadOrBootstrapStartupDocument faults bootstrap rows with
      | .ok (_, rows') => rows'
      | .error _ => rows
  | applyCommand faults environment orders validationBootstrap command =>
      (OneAiKey.applyCommand command faults
        (stagedRegistryValidator environment orders validationBootstrap) rows).2

/-- The store behind a sequence of calls, from the schema on. -/
def storeAfter (calls : List StoreCall) : RegistryRows :=
  calls.foldl (fun rows call => call.next rows) .empty

end OneAiKey
