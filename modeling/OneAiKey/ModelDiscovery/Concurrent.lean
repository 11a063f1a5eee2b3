/-
  OneAiKey.ModelDiscovery.Concurrent — model discovery beside other changes of the
  registry (`model_discovery_sync_apply` of `src/model_discovery.rs`,
  `staged_model_routes_for_state` of `src/management_registry.rs`).

  A sync reads the version of the store, then the routes, asks the upstreams for their
  models, and stores a batch made for the version that it read.  Every one of these is
  a transaction of its own, and any other change may be committed in between.

  Main results:
    * `StoreCall.advances` — a call that changes the store advances its version;
    * `discoverySyncSystem_fresh` — what the syncs hold, in every reachable state;
    * `discovery_sync_loses_no_update` — a sync that is stored was made for the very
      routes that it replaces, whatever was committed meanwhile.
-/
import OneAiKey.Lib.OptimisticRead
import OneAiKey.Lib.TransitionSystem
import OneAiKey.ModelDiscovery.Sync

namespace OneAiKey

open Collect OptimisticRead

/-! ## §1. Syncs and other calls. -/

/-- How far a sync has come. -/
inductive DiscoverySyncPhase where
  | idle
  | versionRead (expectedRegistryVersion : Nat)
  | loaded (expectedRegistryVersion : Nat) (stagedModelRoutes : IdMap ModelRouteConfig)

/-- The store, and the syncs that are under way. -/
structure DiscoverySyncState where
  rows : RegistryRows
  phase : Nat → DiscoverySyncPhase

/-- What the end of a sync meets. -/
structure DiscoverySyncApply where
  channels : List ModelDiscoveryResponse
  faults : StoreFaults
  environment : ProcessEnvironment
  orders : ∀ document : RegistryDocument, SectionOrders document
  validationBootstrap : RegistryDocument

/-- The store behind the end of a sync; without a changed route nothing is stored. -/
def DiscoverySyncApply.next (apply : DiscoverySyncApply) (expectedRegistryVersion : Nat)
    (stagedModelRoutes : IdMap ModelRouteConfig) (rows : RegistryRows) : RegistryRows :=
  match stagedRegistryModelDiscoverySyncChanges stagedModelRoutes apply.channels with
  | .error _ => rows
  | .ok changes =>
      if changes.routes.isEmpty then rows
      else
        (StoreCall.applyCommand apply.faults apply.environment apply.orders
          apply.validationBootstrap
          (.upsertModelRouteBatch (some expectedRegistryVersion) changes.routes)).next rows

inductive DiscoverySyncLabel where
  /-- Any other change of the store. -/
  | call (call : StoreCall)
  | readVersion (sync : Nat)
  | load (sync : Nat)
  | apply (sync : Nat) (apply : DiscoverySyncApply)
  /-- A sync that fails. -/
  | abandon (sync : Nat)

def DiscoverySyncState.enter (s : DiscoverySyncState) (sync : Nat)
    (phase : DiscoverySyncPhase) : DiscoverySyncState :=
  { s with phase := Function.update s.phase sync phase }

/-- Any number of syncs and other changes, in any order. -/
def discoverySyncSystem : TransitionSystem DiscoverySyncState DiscoverySyncLabel where
  Init s := ∀ sync, s.phase sync = .idle
  Step s label s' :=
    match label with
    | .call call => s' = { s with rows := call.next s.rows }
    | .readVersion sync =>
        s.phase sync = .idle ∧ s' = s.enter sync (.versionRead (currentRegistryVersion s.rows))
    | .load sync => ∃ expected document,
        s.phase sync = .versionRead expected ∧
        loadRegistryForValidation s.rows = .ok document ∧
        s' = s.enter sync (.loaded expected document.modelRoutes)
    | .apply sync apply => ∃ expected routes,
        s.phase sync = .loaded expected routes ∧
        s' = { s.enter sync .idle with rows := apply.next expected routes s.rows }
    | .abandon sync => s' = s.enter sync .idle

/-! ## §2. A change advances the version. -/

theorem applyCommand_next (faults : StoreFaults) (environment : ProcessEnvironment)
    (orders : ∀ document : RegistryDocument, SectionOrders document)
    (bootstrap : RegistryDocument) (command : RegistryCommand) (rows : RegistryRows) :
    (StoreCall.applyCommand faults environment orders bootstrap command).next rows = rows ∨
    ∃ commit rows', command.transact faults
        (stagedRegistryValidator environment orders bootstrap) rows = .ok (commit, rows') ∧
      (StoreCall.applyCommand faults environment orders bootstrap command).next rows = rows' := by
  have hnext : (StoreCall.applyCommand faults environment orders bootstrap command).next rows =
      (applyCommand command faults (stagedRegistryValidator environment orders bootstrap)
        rows).2 := rfl
  rw [hnext]
  unfold applyCommand
  cases command.transact faults (stagedRegistryValidator environment orders bootstrap) rows with
  | error err => exact Or.inl rfl
  | ok out => exact Or.inr ⟨out.1, out.2, rfl, rfl⟩

theorem currentRegistryVersion_transact {command : RegistryCommand} {faults : StoreFaults}
    {validate : RegistryDocument → Except RegistryStoreError Unit} {rows rows' : RegistryRows}
    {commit : RegistryStoreCommit}
    (h : command.transact faults validate rows = .ok (commit, rows')) :
    currentRegistryVersion rows' = currentRegistryVersion rows + 1 := by
  obtain ⟨-, -, -, -, rfl⟩ := RegistryCommand.transact_eq_ok h
  exact currentRegistryVersion_written command rows

theorem currentRegistryVersion_bootstrapRows {faults : StoreFaults} {document : RegistryDocument}
    {rows rows' : RegistryRows} (hempty : rows.registryVersions.isEmpty = true)
    (h : bootstrapRows faults document rows = .ok rows') :
    currentRegistryVersion rows < currentRegistryVersion rows' := by
  unfold bootstrapRows at h
  obtain ⟨_, -, h⟩ := bind_eq_ok.mp (mapError_eq_ok.mp h)
  obtain ⟨_, -, h⟩ := bind_eq_ok.mp h
  obtain ⟨_, -, h⟩ := bind_eq_ok.mp h
  obtain rfl := Except.ok.inj h
  rw [List.isEmpty_iff] at hempty
  show rows.registryVersions.foldr max 0 < (1 :: rows.registryVersions).foldr max 0
  rw [hempty]
  decide

/-- A call that changes the store advances its version. -/
theorem StoreCall.advances (call : StoreCall) (rows : RegistryRows) :
    Advances currentRegistryVersion rows (call.next rows) := by
  -- a call leaves the version alone or counts it up
  cases call with
  | bootstrapFromDocument faults document =>
      unfold StoreCall.next
      dsimp only
      split
      · next rows' h =>
          unfold OneAiKey.bootstrapFromDocument at h
          obtain ⟨_, -, h⟩ := bind_eq_ok.mp h
          obtain ⟨_, -, h⟩ := bind_eq_ok.mp h
          obtain ⟨_, -, h⟩ := bind_eq_ok.mp h
          obtain ⟨_, hempty, h⟩ := bind_eq_ok.mp h
          exact Or.inr (currentRegistryVersion_bootstrapRows
            (ensure_eq_ok (mapError_eq_ok.mp hempty)) h)
      · exact Or.inl rfl
  | loadOrBootstrapStartupDocument faults bootstrap =>
      unfold StoreCall.next
      dsimp only
      split
      · next document rows' h =>
          unfold OneAiKey.loadOrBootstrapStartupDocument at h
          obtain ⟨_, -, h⟩ := bind_eq_ok.mp h
          -- a store that has a version is only read
          by_cases hempty : rows.registryVersions.isEmpty = true
          · rw [if_pos hempty] at h
            obtain ⟨_, -, h⟩ := bind_eq_ok.mp h
            obtain ⟨rows'', hrows, h⟩ := bind_eq_ok.mp h
            obtain ⟨-, rfl⟩ := Prod.mk.inj (Except.ok.inj h)
            exact Or.inr (currentRegistryVersion_bootstrapRows hempty hrows)
          · rw [if_neg hempty] at h
            obtain ⟨_, -, h⟩ := bind_eq_ok.mp h
            obtain ⟨_, -, h⟩ := bind_eq_ok.mp h
            obtain ⟨-, rfl⟩ := Prod.mk.inj (Except.ok.inj h)
            exact Or.inl rfl
      · exact Or.inl rfl
  | applyCommand faults environment orders bootstrap command =>
      rcases applyCommand_next faults environment orders bootstrap command rows with
        h | ⟨commit, rows', htransact, h⟩
      · exact Or.inl h
      · right
        rw [h, currentRegistryVersion_transact htransact]
        exact Nat.lt_succ_self _

/-! ## §3. What a sync holds. -/

/-- The routes that the store would load; of a store that does not load, none. -/
def stagedModelRoutes (rows : RegistryRows) : Option (IdMap ModelRouteConfig) :=
  match loadRegistryForValidation rows with
  | .ok document => some document.modelRoutes
  | .error _ => none

/-- What a sync has read is no newer than the store, and its routes are those of the store
as long as the version is the same. -/
def DiscoverySyncPhase.Holds (rows : RegistryRows) : DiscoverySyncPhase → Prop
  | idle => True
  | versionRead expected => expected ≤ currentRegistryVersion rows
  | loaded expected routes =>
      FreshIf currentRegistryVersion stagedModelRoutes expected (some routes) rows

def DiscoverySyncState.Fresh (s : DiscoverySyncState) : Prop :=
  ∀ sync, (s.phase sync).Holds s.rows

/-- A change of the store leaves true what a sync holds. -/
theorem DiscoverySyncPhase.Holds.advance {rows rows' : RegistryRows} {phase : DiscoverySyncPhase}
    (h : phase.Holds rows) (hadvances : Advances currentRegistryVersion rows rows') :
    phase.Holds rows' := by
  cases phase with
  | idle => trivial
  | versionRead expected => exact Nat.le_trans h hadvances.le
  | loaded expected routes => exact FreshIf.step h hadvances

theorem DiscoverySyncState.Fresh.enter {s : DiscoverySyncState} (h : s.Fresh) {sync : Nat}
    {phase : DiscoverySyncPhase} (hphase : phase.Holds s.rows) : (s.enter sync phase).Fresh := by
  intro other
  show (Function.update s.phase sync phase other).Holds s.rows
  by_cases hother : other = sync
  · rw [hother, Function.update_self]
    exact hphase
  · rw [Function.update_of_ne hother]
    exact h other

theorem DiscoverySyncState.Fresh.advance {s : DiscoverySyncState} (h : s.Fresh)
    {rows : RegistryRows} (hadvances : Advances currentRegistryVersion s.rows rows) :
    DiscoverySyncState.Fresh { s with rows } :=
  fun sync => (h sync).advance hadvances

theorem DiscoverySyncApply.advances (apply : DiscoverySyncApply) (expected : Nat)
    (routes : IdMap ModelRouteConfig) (rows : RegistryRows) :
    Advances currentRegistryVersion rows (apply.next expected routes rows) := by
  unfold DiscoverySyncApply.next
  split
  · exact Or.inl rfl
  · split
    · exact Or.inl rfl
    · exact StoreCall.advances _ rows

/-- In every reachable state, what the syncs hold is fresh as far as their versions go. -/
theorem discoverySyncSystem_fresh {s : DiscoverySyncState}
    (h : discoverySyncSystem.Reachable s) : s.Fresh := by
  refine h.invariant ?_ ?_
  · intro s hinit sync
    rw [hinit sync]
    trivial
  · intro s label s' hfresh hstep
    cases label with
    | call call =>
        obtain rfl : s' = _ := hstep
        exact hfresh.advance (call.advances s.rows)
    | readVersion sync =>
        obtain ⟨-, rfl⟩ := hstep
        exact hfresh.enter (Nat.le_refl _)
    -- the document is not older than the version that was read before it
    | load sync =>
        obtain ⟨expected, document, hphase, hload, rfl⟩ := hstep
        have hle := hfresh sync
        rw [hphase] at hle
        refine hfresh.enter ⟨hle, fun _ => ?_⟩
        unfold stagedModelRoutes
        rw [hload]
    | apply sync apply =>
        obtain ⟨expected, routes, -, rfl⟩ := hstep
        have hidle : (s.enter sync .idle).Fresh := hfresh.enter trivial
        exact hidle.advance (apply.advances expected routes s.rows)
    | abandon sync =>
        obtain rfl : s' = _ := hstep
        exact hfresh.enter trivial

/-! ## §4. What a stored sync replaces. -/

/-- The rows behind a batch load to the document with the staged routes; everything else is
as it was. -/
theorem loaded_of_batch {faults : StoreFaults} {environment : ProcessEnvironment}
    {orders : ∀ document : RegistryDocument, SectionOrders document}
    {bootstrap : RegistryDocument} {expected : Nat} {changed : List (String × ModelRouteConfig)}
    {rows rows' : RegistryRows} {commit : RegistryStoreCommit}
    (h : (RegistryCommand.upsertModelRouteBatch (some expected) changed).transact faults
      (stagedRegistryValidator environment orders bootstrap) rows = .ok (commit, rows')) :
    ∃ document, loadRegistryForValidation rows = .ok document ∧
      currentRegistryVersion rows = expected ∧
      loadRegistryForValidation rows' = .ok { document with
        modelRoutes := withChangedRoutes document.modelRoutes changed } := by
  have hsections := (sections_of_transact h).1
  obtain ⟨-, ⟨document, hdocument, hstage⟩, -, -, rfl⟩ := RegistryCommand.transact_eq_ok h
  refine ⟨document, hdocument, ?_, ?_⟩
  · -- a batch for another version is refused
    by_contra hne
    have hstale : (some expected).any (· ≠ currentRegistryVersion rows) = true := by
      simpa using Ne.symm hne
    dsimp only [RegistryCommand.stage] at hstage
    rw [if_pos hstale] at hstage
    cases hstage
  · obtain ⟨resources, hresources, rfl⟩ := loadRegistryForValidation_eq_ok.mp hdocument
    obtain ⟨-, hpools⟩ := loadRegistryResources_eq_ok.mp hresources
    rw [RegistryCommand.staged_of_batch hstage] at hsections
    refine loadRegistryForValidation_eq_ok.mpr
      ⟨{ resources with modelRoutes := withChangedRoutes resources.modelRoutes changed },
        loadRegistryResources_eq_ok.mpr ⟨hsections, ?_⟩, rfl⟩
    -- the channels are read from the same rows
    show ReadsAs (fun _ => loadChannel
      (RegistryCommand.write (.upsertModelRouteBatch (some expected) changed)
        (insertRegistryVersion rows (currentRegistryVersion rows + 1))).accounts
      resources.providers)
      (RegistryCommand.write (.upsertModelRouteBatch (some expected) changed)
        (insertRegistryVersion rows (currentRegistryVersion rows + 1))).channels resources.pools
    unfold RegistryCommand.write
    dsimp only
    rw [upsertModelRoutes_eq]
    exact hpools

/-- Whatever was committed while a sync was under way: if the sync is stored, then it was
made for the routes that it replaces, and all that it does to the document is to append the
discovered channels to the routes of their models. -/
theorem discovery_sync_loses_no_update {s s' : DiscoverySyncState}
    (hs : discoverySyncSystem.Reachable s) {sync : Nat} {apply : DiscoverySyncApply}
    (hstep : discoverySyncSystem.Step s (.apply sync apply) s') :
    s'.rows = s.rows ∨
    ∃ document merged, loadRegistryForValidation s.rows = .ok document ∧
      loadRegistryForValidation s'.rows = .ok { document with modelRoutes := merged } ∧
      currentRegistryVersion s'.rows = currentRegistryVersion s.rows + 1 ∧
      (∀ model, ∃ added, Grown (document.modelRoutes.lookup model) (merged.lookup model)
        (discoveredChannels (discoveredModels apply.channels) model) added) ∧
      ∀ model, (∀ channelId, (model, channelId) ∉ discoveredModels apply.channels) →
        merged.lookup model = document.modelRoutes.lookup model := by
  obtain ⟨expected, routes, hphase, rfl⟩ := hstep
  have hholds := discoverySyncSystem_fresh hs sync
  rw [hphase] at hholds
  show apply.next expected routes s.rows = s.rows ∨ _
  obtain ⟨changes, hchanges, -, hlookup⟩ := exists_changes routes apply.channels
  unfold DiscoverySyncApply.next
  rw [hchanges]
  dsimp only
  by_cases hempty : changes.routes.isEmpty = true
  · exact Or.inl (if_pos hempty)
  · rw [if_neg hempty]
    rcases applyCommand_next apply.faults apply.environment apply.orders
      apply.validationBootstrap (.upsertModelRouteBatch (some expected) changes.routes) s.rows with
      hrefused | ⟨commit, rows', htransact, hnext⟩
    · exact Or.inl hrefused
    · right
      obtain ⟨document, hdocument, hversion, hloaded⟩ := loaded_of_batch htransact
      -- the version is the one that was read, so the routes are still the ones that were read
      have hfresh : stagedModelRoutes s.rows = some routes := FreshIf.fresh hholds hversion
      unfold stagedModelRoutes at hfresh
      rw [hdocument] at hfresh
      obtain rfl : document.modelRoutes = routes := Option.some.inj hfresh
      rw [hnext]
      refine ⟨document, _, hdocument, hloaded, currentRegistryVersion_transact htransact, ?_, ?_⟩
      · intro model
        rw [hlookup]
        exact exists_grown _ _
      · intro model hundiscovered
        have hnone : discoveredChannels (discoveredModels apply.channels) model = [] :=
          List.eq_nil_iff_forall_not_mem.mpr fun channelId hmem =>
            hundiscovered channelId (mem_discoveredChannels.mp hmem)
        rw [hlookup, hnone]
        rfl

/-- The channel of the store has a model that has no route. -/
def chatSync : DiscoverySyncApply where
  channels := [⟨"chat", ["gpt-4o"], none⟩]
  faults := .none
  environment := .ok oneKeyEnvironment
  orders := sortedOrders
  validationBootstrap := spacedBootstrap

/-- One sync with nothing in between: it is stored. -/
theorem discovery_sync_loses_no_update_chat :
    ∃ document merged, loadRegistryForValidation spacedRows = .ok document ∧
      loadRegistryForValidation (chatSync.next 1 document.modelRoutes spacedRows) =
        .ok { document with modelRoutes := merged } ∧
      ∃ added, Grown (document.modelRoutes.lookup "gpt-4o") (merged.lookup "gpt-4o")
        ["chat"] added := by
  obtain ⟨document, hload, hstored⟩ : ∃ document,
      loadRegistryForValidation spacedRows = .ok document ∧
      currentRegistryVersion (chatSync.next 1 document.modelRoutes spacedRows) = 2 :=
    ⟨_, rfl, rfl⟩
  -- the version is read, then the routes, then the batch is applied
  let s₀ : DiscoverySyncState := ⟨spacedRows, fun _ => .idle⟩
  let s₁ := s₀.enter 0 (.versionRead 1)
  let s₂ := s₁.enter 0 (.loaded 1 document.modelRoutes)
  have h₀ : discoverySyncSystem.Reachable s₀ := .init fun _ => rfl
  have h₁ : discoverySyncSystem.Reachable s₁ := h₀.step (e := .readVersion 0) ⟨rfl, rfl⟩
  have h₂ : discoverySyncSystem.Reachable s₂ :=
    h₁.step (e := .load 0) ⟨1, document, rfl, hload, rfl⟩
  have hstep : discoverySyncSystem.Step s₂ (.apply 0 chatSync) _ :=
    ⟨1, document.modelRoutes, rfl, rfl⟩
  rcases discovery_sync_loses_no_update h₂ hstep with hsame | ⟨document', merged, hload', hloaded,
    -, hgrown, -⟩
  · -- the version has advanced
    rw [show chatSync.next 1 document.modelRoutes spacedRows = spacedRows from hsame] at hstored
    cases hstored
  · rw [show loadRegistryForValidation spacedRows = .ok document' from hload'] at hload
    obtain rfl := Except.ok.inj hload
    exact ⟨document', merged, hload', hloaded, hgrown "gpt-4o"⟩

end OneAiKey
