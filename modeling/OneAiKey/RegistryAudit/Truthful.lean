/-
  OneAiKey.RegistryAudit.Truthful — what the audit events of the registry can be taken for
  (`src/management_registry.rs`, `apply_runtime_reload` of `src/management_runtime.rs`).

  An event is recorded before what it says is done.  The lock makes the version that it
  names the right one; nothing makes the command go through, and an append that fails may
  have written its event all the same.

  Main results:
    * `EndsForeign.appendAll` — what others append spoils no event of a change;
    * `batch_accepted_of_prepared` — a batch that was let through is only refused by the
      database;
    * `audit_truthful_of_goesThrough` — while what was recorded goes through, the events
      are true;
    * `rejected_command_audited` — a command that is refused leaves its event behind.
-/
import OneAiKey.RegistryAudit
import OneAiKey.RegistryStore.LoadBack

namespace OneAiKey

open Collect

variable {ρ τ : Type} {validationBootstrap : RegistryDocument}

/-! ## §1. Truthful events. -/

/-- The event says what was committed, by whom, and as which version. -/
def CommittedMutation.Described (commit : CommittedMutation) : Prop :=
  commit.request.audit.kind ∈ registryMutationKinds ∧ ∃ id createdAtUnixSeconds,
    commit.event = (registryAuditEvent commit.actor commit.request.audit
      (some commit.registryVersion)).toEvent id createdAtUnixSeconds

/-- The configuration of the runtime is a resolution of the store's document, and the event
names the store's version. -/
def ReplacedRuntime.BuiltFrom (validationBootstrap : RegistryDocument)
    (replaced : ReplacedRuntime) : Prop :=
  replaced.event.kind = "runtime_reloaded" ∧ ∃ rows environment orders document,
    replaced.store = .sqlite rows ∧
    replaced.event.generation = some (currentRegistryVersion rows) ∧
    loadRegistryForValidation rows = .ok document ∧
    resolveStagedRegistryDocument environment orders validationBootstrap document =
      .ok replaced.config

/-- An applied event is about the commit of the version that it names, or about a runtime
that was built from it; and every version since the start has its event. -/
structure RegistryAuditState.Truthful (validationBootstrap : RegistryDocument)
    (s : RegistryAuditState ρ τ) : Prop where
  applied : ∀ event ∈ s.events.recorded, event.kind ∈ registryMutationKinds →
    event.outcome = "applied" → ∃ commit ∈ s.committed,
      commit.event = event ∧ event.generation = some commit.registryVersion ∧
        commit.Described
  committed : ∀ version, s.startVersion < version → version ≤ s.store.version →
    ∃ commit ∈ s.committed, commit.registryVersion = version ∧
      commit.event ∈ s.events.recorded ∧ commit.Described
  reloaded : ∀ event ∈ s.events.recorded, event.kind = "runtime_reloaded" →
    event.outcome = "applied" → ∃ replaced ∈ s.replaced,
      replaced.event = event ∧ replaced.BuiltFrom validationBootstrap

/-- What was recorded goes through: the transaction of the command, or the building of the
new runtime; and what can be read in the log is what was recorded. -/
def GoesThrough (validationBootstrap : RegistryDocument) (s : RegistryAuditState ρ τ)
    (label : RegistryAuditLabel) : Prop :=
  match label with
  | .record _ fault => s.events.leavesRecord fault = fault.isNone
  | .applyCommand faults environment orders => ∀ held command rows,
      s.holder = some held → held.action = .applyCommand command → s.store = .sqlite rows →
      command.Accepted faults
        (stagedRegistryValidator environment orders validationBootstrap) rows
  | .replaceRuntime inputs => ∀ held config activeRegistryVersion, s.holder = some held →
      held.action = .replaceRuntime config activeRegistryVersion →
      ∃ built, rebuiltChannels config inputs = .ok built
  | _ => True

/-! ## §2. Before the event. -/

/-- The check succeeds with the value if there is one. -/
theorem requireSome_eq_ok {α : Type} {value : Option α} {err : ManagementServiceError} {a : α} :
    requireSome value err = .ok a ↔ value = some a := by
  unfold requireSome
  cases value <;> simp

/-- The check succeeds only if its condition holds. -/
theorem requireThat_eq_ok {condition : Bool} {err : ManagementServiceError} {u : Unit}
    (h : requireThat condition err = .ok u) : condition = true := by
  unfold requireThat at h
  by_cases hcondition : condition = true
  · exact hcondition
  · rw [if_neg hcondition] at h
    cases h

/-- A version that is read is the version of the rows. -/
theorem RegistryReads.currentVersion_eq_ok {reads : RegistryReads} {store : RegistryStoreHandle}
    {version : Nat} (h : reads.currentVersion store = .ok (some version)) :
    ∃ rows, store = .sqlite rows ∧ version = currentRegistryVersion rows := by
  have hversion := mapError_eq_ok.mp h
  cases store with
  | readOnly => cases hversion
  | sqlite rows =>
      obtain ⟨_, -, hversion⟩ := bind_eq_ok.mp hversion
      obtain ⟨_, -, hversion⟩ := bind_eq_ok.mp hversion
      exact ⟨rows, rfl, (Option.some.inj (Except.ok.inj hversion)).symm⟩

/-- A document that is loaded is the document of the rows. -/
theorem RegistryReads.loadRegistry_eq_ok {reads : RegistryReads} {store : RegistryStoreHandle}
    {document : RegistryDocument} (h : reads.loadRegistry store = .ok (some document)) :
    ∃ rows, store = .sqlite rows ∧ loadRegistryForValidation rows = .ok document := by
  have hload := mapError_eq_ok.mp h
  cases store with
  | readOnly => cases hload
  | sqlite rows =>
      obtain ⟨_, -, hload⟩ := bind_eq_ok.mp hload
      obtain ⟨_, -, hload⟩ := bind_eq_ok.mp hload
      obtain ⟨document', hdocument, hload⟩ := bind_eq_ok.mp hload
      obtain rfl := Option.some.inj (Except.ok.inj hload)
      exact ⟨rows, rfl, mapError_eq_ok.mp hdocument⟩

/-- A change that may record its event names the version that it is to commit, or that it
has resolved. -/
def HeldMutation.Ready (validationBootstrap : RegistryDocument) (held : HeldMutation)
    (store : RegistryStoreHandle) : Prop :=
  ∃ rows, store = .sqlite rows ∧
    match held.action with
    | .applyCommand _ => held.request.audit.kind ∈ registryMutationKinds ∧
        held.generation = some (currentRegistryVersion rows + 1)
    | .replaceRuntime config _ => held.request.audit.kind = "runtime_reloaded" ∧
        held.generation = some (currentRegistryVersion rows) ∧
        ∃ environment orders document, loadRegistryForValidation rows = .ok document ∧
          resolveStagedRegistryDocument environment orders validationBootstrap document =
            .ok config

/-- The kind of an audit record tells a reload from the other mutations. -/
theorem RegistryRequest.kind_of_mutation (request : RegistryRequest) :
    match request.mutation with
    | .reload _ => request.audit.kind = "runtime_reloaded"
    | _ => request.audit.kind ∈ registryMutationKinds := by
  cases request with
  | providerEnabled id enabled => cases enabled <;> exact List.elem_iff.mp rfl
  | accountEnabled id enabled => cases enabled <;> exact List.elem_iff.mp rfl
  | channelEnabled id enabled => cases enabled <;> exact List.elem_iff.mp rfl
  | runtimeReload expected => rfl
  | _ => exact List.elem_iff.mp rfl

/-- What a prepared request is ready for, by the kind of its mutation. -/
theorem ready_of_prepare {request : RegistryRequest} {actor : ManagementEventActor}
    {reads : RegistryReads} {store : RegistryStoreHandle} {generation : Option Nat}
    {action : RegistryAction}
    (h : request.mutation.prepare validationBootstrap reads store = .ok (generation, action)) :
    HeldMutation.Ready validationBootstrap ⟨request, actor, generation, action, none⟩ store := by
  have hkind := request.kind_of_mutation
  generalize request.mutation = mutation at h hkind
  cases mutation with
  | single command =>
      obtain ⟨version?, hread, h⟩ := bind_eq_ok.mp h
      obtain ⟨version, hsome, h⟩ := bind_eq_ok.mp h
      obtain ⟨rfl, rfl⟩ := Prod.mk.inj (Except.ok.inj h)
      obtain rfl := requireSome_eq_ok.mp hsome
      obtain ⟨rows, rfl, rfl⟩ := RegistryReads.currentVersion_eq_ok hread
      exact ⟨rows, rfl, hkind, rfl⟩
  | batch expected routes =>
      obtain ⟨_, hpreflight, h⟩ := bind_eq_ok.mp h
      obtain ⟨rfl, rfl⟩ := Prod.mk.inj (Except.ok.inj h)
      obtain ⟨version?, hread, hpreflight⟩ := bind_eq_ok.mp hpreflight
      obtain ⟨version, hsome, hpreflight⟩ := bind_eq_ok.mp hpreflight
      obtain ⟨_, hsame, -⟩ := bind_eq_ok.mp hpreflight
      obtain rfl := requireSome_eq_ok.mp hsome
      obtain ⟨rows, rfl, rfl⟩ := RegistryReads.currentVersion_eq_ok hread
      -- the preflight has compared the version that the batch expects
      have hexpected := beq_iff_eq.mp (requireThat_eq_ok hsame)
      refine ⟨rows, rfl, hkind, ?_⟩
      show some (expected + 1) = some (currentRegistryVersion rows + 1)
      rw [hexpected]
  | reload expected =>
      obtain ⟨version, -, h⟩ := bind_eq_ok.mp h
      obtain ⟨staged, hread, h⟩ := bind_eq_ok.mp h
      obtain ⟨_, hsame, h⟩ := bind_eq_ok.mp h
      obtain ⟨document?, hload, h⟩ := bind_eq_ok.mp h
      obtain ⟨document, hsome, h⟩ := bind_eq_ok.mp h
      obtain ⟨config, hconfig, h⟩ := bind_eq_ok.mp h
      obtain ⟨rfl, rfl⟩ := Prod.mk.inj (Except.ok.inj h)
      obtain rfl := requireSome_eq_ok.mp hsome
      obtain rfl := beq_iff_eq.mp (requireThat_eq_ok hsame)
      obtain ⟨rows, rfl, rfl⟩ := RegistryReads.currentVersion_eq_ok hread
      obtain ⟨rows', hrows, hdocument⟩ := RegistryReads.loadRegistry_eq_ok hload
      obtain rfl := RegistryStoreHandle.sqlite.inj hrows
      exact ⟨rows, rfl, hkind, rfl, reads.environment, reads.orders, document, hdocument,
        mapError_eq_ok.mp hconfig⟩

/-- What single changes leave out: a batch that was let through goes through, unless the
database fails or the resolution finds something else than before. -/
theorem batch_accepted_of_prepared {reads : RegistryReads} {rows : RegistryRows}
    {expected : Nat} {routes : List (String × ModelRouteConfig)}
    {prepared : Option Nat × RegistryAction} {faults : StoreFaults}
    (h : prepareBatch validationBootstrap reads (.sqlite rows) expected routes = .ok prepared)
    (hfaults : ∀ statement, faults statement = none) :
    (RegistryCommand.upsertModelRouteBatch (some expected) routes).Accepted faults
      (stagedRegistryValidator reads.environment reads.orders validationBootstrap) rows := by
  obtain ⟨_, hpreflight, -⟩ := bind_eq_ok.mp h
  obtain ⟨version?, hread, hpreflight⟩ := bind_eq_ok.mp hpreflight
  obtain ⟨version, hsome, hpreflight⟩ := bind_eq_ok.mp hpreflight
  obtain ⟨_, hsame, hpreflight⟩ := bind_eq_ok.mp hpreflight
  obtain ⟨document?, hload, hpreflight⟩ := bind_eq_ok.mp hpreflight
  obtain ⟨document, hdocument, hvalid⟩ := bind_eq_ok.mp hpreflight
  obtain rfl := requireSome_eq_ok.mp hsome
  obtain rfl := requireSome_eq_ok.mp hdocument
  obtain ⟨rows', hrows, rfl⟩ := RegistryReads.currentVersion_eq_ok hread
  obtain ⟨rows'', hrows', hloaded⟩ := RegistryReads.loadRegistry_eq_ok hload
  obtain rfl := RegistryStoreHandle.sqlite.inj hrows
  obtain rfl := RegistryStoreHandle.sqlite.inj hrows'
  -- the version that was checked is the one that the batch expects
  have hexpected := beq_iff_eq.mp (requireThat_eq_ok hsame)
  refine ⟨hfaults, document, _, hloaded, ?_, mapError_eq_ok.mp hvalid⟩
  have hversion : ((some expected).any (· ≠ currentRegistryVersion rows)) = false := by
    rw [hexpected]
    simp
  dsimp only [RegistryCommand.stage]
  rw [if_neg (by rw [hversion]; exact Bool.false_ne_true)]

/-! ## §3. What an append does to the events of the changes. -/

/-- An unterminated record, which the next append may spoil, is none of a change. -/
def EndsForeign (log : EventLogFile) : Prop :=
  log.fileEnd = .unterminated → ∀ event ∈ log.recorded.getLast?, ¬ event.IsRegistryAudit

/-- The events of the changes that can be read are the same. -/
def SameRegistryAudit (log log' : EventLogFile) : Prop :=
  ∀ event, event.IsRegistryAudit → (event ∈ log'.recorded ↔ event ∈ log.recorded)

/-- The record of a held mutation is a record of the registry. -/
theorem HeldMutation.isRegistryAudit (held : HeldMutation) (id createdAtUnixSeconds : Nat) :
    (held.auditEvent.toEvent id createdAtUnixSeconds).IsRegistryAudit := by
  show held.request.audit.kind ∈ registryMutationKinds ∨ _
  have hkind := held.request.kind_of_mutation
  cases hmutation : held.request.mutation with
  | single command =>
      rw [hmutation] at hkind
      exact .inl hkind
  | batch expected routes =>
      rw [hmutation] at hkind
      exact .inl hkind
  | reload expected =>
      rw [hmutation] at hkind
      exact .inr hkind

/-- A spoilt record was none of a change. -/
theorem EndsForeign.mem_dropLast {log : EventLogFile} (h : EndsForeign log)
    (hend : log.fileEnd = .unterminated) {event : ManagementEvent}
    (haudit : event.IsRegistryAudit) : event ∈ log.recorded.dropLast ↔ event ∈ log.recorded := by
  refine ⟨List.mem_of_mem_dropLast, fun hmem => ?_⟩
  cases hlast : log.recorded.getLast? with
  | none =>
      rw [List.getLast?_eq_none_iff.mp hlast] at hmem
      cases hmem
  | some last =>
      rw [← List.dropLast_append_getLast? last hlast, List.mem_append, List.mem_singleton] at hmem
      rcases hmem with hmem | rfl
      · exact hmem
      · exact absurd haudit (h hend event hlast)

section Appends

variable {log log' : EventLogFile} {event : ManagementEvent} {fault : Option AppendFault}

/-- The end of the file is still foreign if nothing was added behind a whole line. -/
theorem EndsForeign.of_kept (h : EndsForeign log) (hevents : log'.recorded = log.recorded)
    (hend : log'.fileEnd = .unterminated → log.fileEnd = .unterminated) : EndsForeign log' := by
  intro hend'
  rw [hevents]
  exact h (hend hend')

/-- An append that leaves no record leaves the events of the changes. -/
theorem EndsForeign.unrecorded (h : EndsForeign log) (happend : log.Appended log' event fault)
    (hleaves : log.leavesRecord fault = false) :
    SameRegistryAudit log log' ∧ EndsForeign log' := by
  cases happend with
  | recorded leaves =>
      rw [hleaves] at leaves
      cases leaves
  | kept _ events fileEnd =>
      refine ⟨fun e _ => ?_, h.of_kept events fileEnd⟩
      rw [events]
  | joined _ before events fileEnd =>
      refine ⟨fun e haudit => ?_, fun hend => absurd hend fileEnd⟩
      rw [events]
      exact h.mem_dropLast before haudit

/-- So does an append of another event. -/
theorem EndsForeign.foreign (h : EndsForeign log) (happend : log.Appended log' event fault)
    (hforeign : ¬ event.IsRegistryAudit) : SameRegistryAudit log log' ∧ EndsForeign log' := by
  cases hleaves : log.leavesRecord fault with
  | false => exact h.unrecorded happend hleaves
  | true =>
      -- it is recorded whole, behind the records before it
      cases happend with
      | recorded _ events _ =>
          refine ⟨fun e haudit => ?_, fun _ last hlast => ?_⟩
          · rw [events, List.mem_append, List.mem_singleton]
            refine ⟨fun hmem => hmem.resolve_right ?_, Or.inl⟩
            rintro rfl
            exact hforeign haudit
          · rw [events, List.getLast?_concat] at hlast
            obtain rfl := Option.some.inj hlast
            exact hforeign
      | kept leaves =>
          rw [hleaves] at leaves
          cases leaves
      | joined leaves =>
          rw [hleaves] at leaves
          cases leaves

end Appends

/-- Records of other parts leave the registry's records as they are, and the end foreign. -/
theorem EndsForeign.appendAll {log : EventLogFile} (h : EndsForeign log)
    {appends : List EventAppend} (hforeign : ∀ append ∈ appends, ¬ append.audit.IsRegistryAudit) :
    SameRegistryAudit log (log.appendAll appends) ∧ EndsForeign (log.appendAll appends) := by
  induction appends generalizing log with
  | nil => exact ⟨fun _ _ => Iff.rfl, h⟩
  | cons append appends ih =>
      obtain ⟨hsame, hends⟩ := h.foreign
        (log.appended append.audit append.createdAtUnixSeconds append.fault)
        (hforeign append List.mem_cons_self)
      obtain ⟨hsame', hends'⟩ := ih hends fun a ha => hforeign a (List.mem_cons_of_mem _ ha)
      exact ⟨fun event haudit => (hsame' event haudit).trans (hsame event haudit), hends'⟩

/-! ## §4. What holds in every run. -/

/-- The commits and the replacements are described by their events, whatever else goes wrong;
the holder of the lock has the version that it is to commit. -/
structure AuditInvariant (validationBootstrap : RegistryDocument)
    (s : RegistryAuditState ρ τ) : Prop where
  endsForeign : EndsForeign s.events
  commits : ∀ commit ∈ s.committed, commit.event ∈ s.events.recorded ∧ commit.Described
  replacements : ∀ replaced ∈ s.replaced, replaced.BuiltFrom validationBootstrap
  versions : ∀ version, s.startVersion < version → version ≤ s.store.version →
    ∃ commit ∈ s.committed, commit.registryVersion = version
  ready : ∀ held, s.holder = some held → held.Ready validationBootstrap s.store
  event : ∀ held event, s.holder = some held → held.event = some event →
    event ∈ s.events.recorded ∧ ∃ id createdAtUnixSeconds,
      event = held.auditEvent.toEvent id createdAtUnixSeconds

/-- Every event of a change is settled, or the one of the holder. -/
def Settled (s : RegistryAuditState ρ τ) : Prop :=
  ∀ event ∈ s.events.recorded, event.IsRegistryAudit →
    (∃ commit ∈ s.committed, commit.event = event) ∨
    (∃ replaced ∈ s.replaced, replaced.event = event) ∨
    ∃ held, s.holder = some held ∧ held.event = some event

section Steps

variable {s s' : RegistryAuditState ρ τ}

/-- Nothing is asked of a lock that is free. -/
theorem AuditInvariant.of_free (hfree : s.holder = none) (hends : EndsForeign s.events)
    (hcommits : ∀ commit ∈ s.committed, commit.event ∈ s.events.recorded ∧ commit.Described)
    (hreplacements : ∀ replaced ∈ s.replaced, replaced.BuiltFrom validationBootstrap)
    (hversions : ∀ version, s.startVersion < version → version ≤ s.store.version →
      ∃ commit ∈ s.committed, commit.registryVersion = version) :
    AuditInvariant validationBootstrap s where
  endsForeign := hends
  commits := hcommits
  replacements := hreplacements
  versions := hversions
  ready := by
    intro held hheld
    rw [hfree] at hheld
    cases hheld
  event := by
    intro held event hheld
    rw [hfree] at hheld
    cases hheld

/-- Taking the gate records nothing and commits nothing. -/
theorem AuditInvariant.acquire (h : AuditInvariant validationBootstrap s)
    (request : RegistryRequest) (actor : ManagementEventActor) (reads : RegistryReads) :
    AuditInvariant validationBootstrap (s.acquire validationBootstrap request actor reads) := by
  unfold RegistryAuditState.acquire
  cases hprepare : request.mutation.prepare validationBootstrap reads s.store with
  | error err => exact h
  | ok prepared =>
      obtain ⟨generation, action⟩ := prepared
      refine ⟨h.endsForeign, h.commits, h.replacements, h.versions, ?_, ?_⟩
      · intro held hheld
        obtain rfl := Option.some.inj hheld
        exact ready_of_prepare hprepare
      · intro held event hheld hevent
        obtain rfl := Option.some.inj hheld
        cases hevent

/-- Taking the gate leaves the records settled. -/
theorem Settled.acquire (h : Settled s) (hfree : s.holder = none) (request : RegistryRequest)
    (actor : ManagementEventActor) (reads : RegistryReads) :
    Settled (s.acquire validationBootstrap request actor reads) := by
  unfold RegistryAuditState.acquire
  cases hprepare : request.mutation.prepare validationBootstrap reads s.store with
  | error err => exact h
  | ok prepared =>
      obtain ⟨generation, action⟩ := prepared
      intro event hevent haudit
      rcases h event hevent haudit with hcommit | hreplaced | ⟨held, hheld, -⟩
      · exact Or.inl hcommit
      · exact Or.inr (Or.inl hreplaced)
      · rw [hfree] at hheld
        cases hheld

/-- A committed mutation is described by a record of the registry. -/
theorem CommittedMutation.Described.isRegistryAudit {commit : CommittedMutation}
    (h : commit.Described) : commit.event.IsRegistryAudit := by
  obtain ⟨hkind, id, createdAtUnixSeconds, hevent⟩ := h
  rw [hevent]
  exact .inl hkind

/-- The two outcomes of a recording that leaves a record exactly if it succeeds. -/
theorem RegistryAuditState.record_cases (s : RegistryAuditState ρ τ)
    (hends : EndsForeign s.events) (held : HeldMutation) (createdAtUnixSeconds : Nat)
    {fault : Option AppendFault} (hleaves : s.events.leavesRecord fault = fault.isNone) :
    (∃ events, SameRegistryAudit s.events events ∧ EndsForeign events ∧
      s.record held createdAtUnixSeconds fault = { s with events, holder := none }) ∨
    ∃ events event, event = held.auditEvent.toEvent (s.events.nextId + 1) createdAtUnixSeconds ∧
      events.recorded = s.events.recorded ++ [event] ∧ EndsForeign events ∧
      s.record held createdAtUnixSeconds fault =
        { s with events, holder := some { held with event := some event } } := by
  have happend := s.events.appended held.auditEvent createdAtUnixSeconds fault
  cases fault with
  | some fault =>
      obtain ⟨hsame, hends'⟩ := hends.unrecorded happend hleaves
      exact .inl ⟨_, hsame, hends', rfl⟩
  | none =>
      cases happend with
      | recorded _ events fileEnd =>
          exact .inr ⟨_, _, rfl, events, fun hend => absurd rfl (fileEnd hend), rfl⟩
      | kept leaves =>
          rw [hleaves] at leaves
          cases leaves
      | joined leaves =>
          rw [hleaves] at leaves
          cases leaves

/-- The record that is appended is the one of the mutation that holds the gate. -/
theorem AuditInvariant.record (h : AuditInvariant validationBootstrap s) {held : HeldMutation}
    (hheld : s.holder = some held) (createdAtUnixSeconds : Nat) {fault : Option AppendFault}
    (hleaves : s.events.leavesRecord fault = fault.isNone) :
    AuditInvariant validationBootstrap (s.record held createdAtUnixSeconds fault) := by
  -- the append has failed, and the log reads as before; or the event is its last record
  rcases s.record_cases h.endsForeign held createdAtUnixSeconds hleaves with
    ⟨events, hsame, hends, hrecord⟩ | ⟨events, event, hevent, hrecorded, hends, hrecord⟩
  · rw [hrecord]
    refine .of_free rfl hends (fun commit hcommit => ?_) h.replacements h.versions
    obtain ⟨hmem, hdescribed⟩ := h.commits commit hcommit
    exact ⟨(hsame _ hdescribed.isRegistryAudit).mpr hmem, hdescribed⟩
  · rw [hrecord]
    refine ⟨hends, fun commit hcommit => ?_, h.replacements, h.versions, ?_, ?_⟩
    · obtain ⟨hmem, hdescribed⟩ := h.commits commit hcommit
      refine ⟨?_, hdescribed⟩
      show commit.event ∈ events.recorded
      rw [hrecorded]
      exact List.mem_append_left _ hmem
    · intro held' hheld'
      obtain rfl := Option.some.inj hheld'
      exact h.ready held hheld
    -- the mutation that holds the lock has its event in the log
    · intro held' event' hheld' hevent'
      obtain rfl := Option.some.inj hheld'
      obtain rfl := Option.some.inj hevent'
      refine ⟨?_, s.events.nextId + 1, createdAtUnixSeconds, hevent⟩
      show event ∈ events.recorded
      rw [hrecorded]
      exact List.mem_append_right _ List.mem_cons_self

/-- From here on, the holder has a record that waits for its commit. -/
theorem Settled.record (h : Settled s) (hends : EndsForeign s.events) {held : HeldMutation}
    (hheld : s.holder = some held) (hnone : held.event = none) (createdAtUnixSeconds : Nat)
    {fault : Option AppendFault} (hleaves : s.events.leavesRecord fault = fault.isNone) :
    Settled (s.record held createdAtUnixSeconds fault) := by
  -- nothing is pending before the event is recorded
  have hsettled : ∀ event ∈ s.events.recorded, event.IsRegistryAudit →
      (∃ commit ∈ s.committed, commit.event = event) ∨
      ∃ replaced ∈ s.replaced, replaced.event = event := by
    intro event hevent haudit
    rcases h event hevent haudit with hcommit | hreplaced | ⟨held', hheld', hpending⟩
    · exact Or.inl hcommit
    · exact Or.inr hreplaced
    · rw [hheld] at hheld'
      obtain rfl := Option.some.inj hheld'
      rw [hnone] at hpending
      cases hpending
  intro event hmem haudit
  rcases s.record_cases hends held createdAtUnixSeconds hleaves with
    ⟨events, hsame, -, hrecord⟩ | ⟨events, event', -, hrecorded, -, hrecord⟩
  · rw [hrecord] at hmem ⊢
    rcases hsettled event ((hsame event haudit).mp hmem) haudit with hcommit | hreplaced
    · exact Or.inl hcommit
    · exact Or.inr (Or.inl hreplaced)
  · rw [hrecord] at hmem ⊢
    have hmem' : event ∈ events.recorded := hmem
    rw [hrecorded, List.mem_append, List.mem_singleton] at hmem'
    rcases hmem' with hmem' | rfl
    · rcases hsettled event hmem' haudit with hcommit | hreplaced
      · exact Or.inl hcommit
      · exact Or.inr (Or.inl hreplaced)
    · exact Or.inr (Or.inr ⟨_, rfl, rfl⟩)

/-- The two outcomes of a command on the store: refused, or committed as the next version. -/
theorem RegistryAuditState.applyCommand_cases (s : RegistryAuditState ρ τ)
    {rows : RegistryRows} (hstore : s.store = .sqlite rows) (held : HeldMutation)
    (event : ManagementEvent) (command : RegistryCommand) (faults : StoreFaults)
    (validate : RegistryDocument → Except RegistryStoreError Unit) :
    (¬ command.Accepted faults validate rows ∧
      s.applyCommand held event command faults validate = { s with holder := none }) ∨
    ∃ rows', currentRegistryVersion rows' = currentRegistryVersion rows + 1 ∧
      s.applyCommand held event command faults validate =
        { s with
          store := .sqlite rows'
          holder := none
          committed := ⟨held.request, held.actor, event, currentRegistryVersion rows + 1⟩ ::
            s.committed } := by
  unfold RegistryAuditState.applyCommand
  cases htransact : command.transact faults validate rows with
  | error err =>
      have hout : s.store.applyCommand command faults validate = (.error err, s.store) := by
        rw [hstore]
        unfold RegistryStoreHandle.applyCommand OneAiKey.applyCommand
        simp only [htransact]
      -- an accepted command would have gone through
      left
      constructor
      · intro haccepted
        obtain ⟨out, hout⟩ := RegistryCommand.exists_transact haccepted
        rw [htransact] at hout
        cases hout
      · rw [hout]
  | ok out =>
      obtain ⟨commit, rows'⟩ := out
      have hout : s.store.applyCommand command faults validate = (.ok commit, .sqlite rows') := by
        rw [hstore]
        unfold RegistryStoreHandle.applyCommand OneAiKey.applyCommand
        simp only [htransact]
      obtain ⟨-, -, -, hversion, hrows⟩ := RegistryCommand.transact_eq_ok htransact
      right
      refine ⟨rows', ?_, ?_⟩
      · rw [hrows, currentRegistryVersion_written]
      · rw [hout, ← hversion]

/-- A commit is described by the record that waits for it. -/
theorem AuditInvariant.applyCommand (h : AuditInvariant validationBootstrap s)
    {held : HeldMutation} {event : ManagementEvent} {command : RegistryCommand}
    (hheld : s.holder = some held) (hevent : held.event = some event)
    (haction : held.action = .applyCommand command) (faults : StoreFaults)
    (validate : RegistryDocument → Except RegistryStoreError Unit) :
    AuditInvariant validationBootstrap (s.applyCommand held event command faults validate) := by
  obtain ⟨rows, hstore, hready⟩ := h.ready held hheld
  rw [haction] at hready
  obtain ⟨hkind, hgeneration⟩ := hready
  -- the command has failed, or it has committed the version that its event names
  rcases s.applyCommand_cases hstore held event command faults validate with
    ⟨-, happly⟩ | ⟨rows', hversion, happly⟩
  · rw [happly]
    exact .of_free rfl h.endsForeign h.commits h.replacements h.versions
  · rw [happly]
    obtain ⟨hmem, id, createdAtUnixSeconds, hdescribed⟩ := h.event held event hheld hevent
    refine .of_free rfl h.endsForeign (fun commit hcommit => ?_) h.replacements
      fun version hstart hle => ?_
    · rcases List.mem_cons.mp hcommit with rfl | hcommit
      · refine ⟨hmem, hkind, id, createdAtUnixSeconds, ?_⟩
        rw [hdescribed]
        unfold HeldMutation.auditEvent
        rw [hgeneration]
      · exact h.commits commit hcommit
    · have hle' : version ≤ currentRegistryVersion rows' := hle
      -- the version is the one that was just committed, or an earlier one
      by_cases hlast : version = currentRegistryVersion rows + 1
      · exact ⟨_, List.mem_cons_self, hlast.symm⟩
      · have hbefore : version ≤ s.store.version := by
          rw [hstore]
          show version ≤ currentRegistryVersion rows
          omega
        obtain ⟨commit, hcommit, hcommitted⟩ := h.versions version hstart hbefore
        exact ⟨commit, List.mem_cons_of_mem _ hcommit, hcommitted⟩

/-- The commit of a command that goes through settles its record. -/
theorem Settled.applyCommand (h : Settled s) {held : HeldMutation} {event : ManagementEvent}
    {command : RegistryCommand} {rows : RegistryRows} (hstore : s.store = .sqlite rows)
    (hheld : s.holder = some held) (hevent : held.event = some event) {faults : StoreFaults}
    {validate : RegistryDocument → Except RegistryStoreError Unit}
    (haccepted : command.Accepted faults validate rows) :
    Settled (s.applyCommand held event command faults validate) := by
  rcases s.applyCommand_cases hstore held event command faults validate with
    ⟨hrefused, -⟩ | ⟨rows', -, happly⟩
  · exact absurd haccepted hrefused
  · rw [happly]
    intro event' hmem haudit
    rcases h event' hmem haudit with ⟨commit, hcommit, heq⟩ | hreplaced | ⟨held', hheld', hpending⟩
    · exact Or.inl ⟨commit, List.mem_cons_of_mem _ hcommit, heq⟩
    · exact Or.inr (Or.inl hreplaced)
    · -- the holder's event is the one of the new commit
      rw [hheld] at hheld'
      obtain rfl := Option.some.inj hheld'
      rw [hevent] at hpending
      exact Or.inl ⟨_, List.mem_cons_self, Option.some.inj hpending⟩

/-- The two outcomes of a replacement. -/
theorem RegistryAuditState.replaceRuntime_cases (s : RegistryAuditState ρ τ)
    (event : ManagementEvent) (config : FullResolvedConfig) (activeRegistryVersion : Option Nat)
    (inputs : RebuildInputs) :
    ((∀ built, rebuiltChannels config inputs ≠ .ok built) ∧
      s.replaceRuntime event config activeRegistryVersion inputs = { s with holder := none }) ∨
    ∃ app, s.replaceRuntime event config activeRegistryVersion inputs =
      { s with app, holder := none, replaced := ⟨event, s.store, config⟩ :: s.replaced } := by
  unfold RegistryAuditState.replaceRuntime
  rw [rebuildRuntimeFromResolvedConfig_eq]
  cases rebuiltChannels config inputs with
  | error message =>
      left
      exact ⟨nofun, rfl⟩
  | ok built =>
      right
      exact ⟨_, rfl⟩

/-- A reload is described by the record that waits for it. -/
theorem AuditInvariant.replaceRuntime (h : AuditInvariant validationBootstrap s)
    {held : HeldMutation} {event : ManagementEvent} {config : FullResolvedConfig}
    {activeRegistryVersion : Option Nat} (hheld : s.holder = some held)
    (hevent : held.event = some event)
    (haction : held.action = .replaceRuntime config activeRegistryVersion)
    (inputs : RebuildInputs) :
    AuditInvariant validationBootstrap
      (s.replaceRuntime event config activeRegistryVersion inputs) := by
  -- the build has failed, or the runtime is that of the event's document
  rcases s.replaceRuntime_cases event config activeRegistryVersion inputs with
    ⟨-, hreplace⟩ | ⟨app, hreplace⟩
  · rw [hreplace]
    exact .of_free rfl h.endsForeign h.commits h.replacements h.versions
  · rw [hreplace]
    refine .of_free rfl h.endsForeign h.commits (fun replaced hreplaced => ?_) h.versions
    rcases List.mem_cons.mp hreplaced with rfl | hreplaced
    · obtain ⟨rows, hstore, hready⟩ := h.ready held hheld
      rw [haction] at hready
      obtain ⟨hkind, hgeneration, environment, orders, document, hload, hconfig⟩ := hready
      obtain ⟨-, id, createdAtUnixSeconds, hdescribed⟩ := h.event held event hheld hevent
      refine ⟨?_, rows, environment, orders, document, hstore, ?_, hload, hconfig⟩
      · show event.kind = _
        rw [hdescribed]
        exact hkind
      · show event.generation = _
        rw [hdescribed]
        exact hgeneration
    · exact h.replacements replaced hreplaced

/-- A reload that goes through settles its record. -/
theorem Settled.replaceRuntime (h : Settled s) {held : HeldMutation} {event : ManagementEvent}
    {config : FullResolvedConfig} {activeRegistryVersion : Option Nat}
    (hheld : s.holder = some held) (hevent : held.event = some event) {inputs : RebuildInputs}
    (hbuilt : ∃ built, rebuiltChannels config inputs = .ok built) :
    Settled (s.replaceRuntime event config activeRegistryVersion inputs) := by
  obtain ⟨built, hbuilt⟩ := hbuilt
  rcases s.replaceRuntime_cases event config activeRegistryVersion inputs with
    ⟨hfailed, -⟩ | ⟨app, hreplace⟩
  · exact absurd hbuilt (hfailed built)
  · rw [hreplace]
    intro event' hmem haudit
    rcases h event' hmem haudit with
      hcommit | ⟨replaced, hreplaced, heq⟩ | ⟨held', hheld', hpending⟩
    · exact Or.inl hcommit
    · exact Or.inr (Or.inl ⟨replaced, List.mem_cons_of_mem _ hreplaced, heq⟩)
    · rw [hheld] at hheld'
      obtain rfl := Option.some.inj hheld'
      rw [hevent] at hpending
      exact Or.inr (Or.inl ⟨_, List.mem_cons_self, Option.some.inj hpending⟩)

/-- Other parts of the program keep the records of the registry. -/
theorem AuditInvariant.other (h : AuditInvariant validationBootstrap s) (hother : s.Other s') :
    AuditInvariant validationBootstrap s' := by
  obtain ⟨hstore, hholder, hcommitted, hreplaced, hstart, -, appends, happends, hforeign⟩ :=
    hother
  -- other audit records change neither the registry's own nor the store
  obtain ⟨hsame, hends⟩ := h.endsForeign.appendAll hforeign
  rw [← happends] at hsame hends
  refine ⟨hends, ?_, ?_, ?_, ?_, ?_⟩
  · rw [hcommitted]
    intro commit hcommit
    obtain ⟨hmem, hdescribed⟩ := h.commits commit hcommit
    exact ⟨(hsame _ hdescribed.isRegistryAudit).mpr hmem, hdescribed⟩
  · rw [hreplaced]
    exact h.replacements
  · rw [hcommitted, hstart, hstore]
    exact h.versions
  · rw [hholder, hstore]
    exact h.ready
  · rw [hholder]
    intro held event hheld hevent
    obtain ⟨hmem, id, createdAtUnixSeconds, hdescribed⟩ := h.event held event hheld hevent
    refine ⟨(hsame event ?_).mpr hmem, id, createdAtUnixSeconds, hdescribed⟩
    rw [hdescribed]
    exact held.isRegistryAudit id createdAtUnixSeconds

/-- Other parts of the program settle nothing and unsettle nothing. -/
theorem Settled.other (h : Settled s) (hends : EndsForeign s.events) (hother : s.Other s') :
    Settled s' := by
  obtain ⟨-, hholder, hcommitted, hreplaced, -, -, appends, happends, hforeign⟩ := hother
  obtain ⟨hsame, -⟩ := hends.appendAll hforeign
  rw [← happends] at hsame
  intro event hmem haudit
  rw [hcommitted, hreplaced, hholder]
  exact h event ((hsame event haudit).mp hmem) haudit

/-- Every step that goes through keeps the invariant, by its label. -/
theorem AuditInvariant.step {label : RegistryAuditLabel} (h : AuditInvariant validationBootstrap s)
    (hstep : (registryAuditSystem ρ τ validationBootstrap).Step s label s')
    (hthrough : GoesThrough validationBootstrap s label) :
    AuditInvariant validationBootstrap s' := by
  cases label with
  | acquire request actor reads =>
      obtain ⟨-, rfl⟩ := hstep
      exact h.acquire request actor reads
  | record createdAtUnixSeconds fault =>
      obtain ⟨held, hheld, -, rfl⟩ := hstep
      exact h.record hheld createdAtUnixSeconds hthrough
  | applyCommand faults environment orders =>
      obtain ⟨held, event, command, hheld, hevent, haction, rfl⟩ := hstep
      exact h.applyCommand hheld hevent haction faults _
  | replaceRuntime inputs =>
      obtain ⟨held, event, config, version, hheld, hevent, haction, -, rfl⟩ := hstep
      exact h.replaceRuntime hheld hevent haction inputs
  | other => exact h.other hstep

/-- Every step that goes through keeps the records settled, by its label. -/
theorem Settled.step {label : RegistryAuditLabel} (h : Settled s)
    (hinv : AuditInvariant validationBootstrap s)
    (hstep : (registryAuditSystem ρ τ validationBootstrap).Step s label s')
    (hthrough : GoesThrough validationBootstrap s label) : Settled s' := by
  cases label with
  | acquire request actor reads =>
      obtain ⟨hfree, rfl⟩ := hstep
      exact h.acquire hfree request actor reads
  | record createdAtUnixSeconds fault =>
      obtain ⟨held, hheld, hnone, rfl⟩ := hstep
      exact h.record hinv.endsForeign hheld hnone createdAtUnixSeconds hthrough
  | applyCommand faults environment orders =>
      obtain ⟨held, event, command, hheld, hevent, haction, rfl⟩ := hstep
      obtain ⟨rows, hstore, -⟩ := hinv.ready held hheld
      exact h.applyCommand hstore hheld hevent (hthrough held command rows hheld haction hstore)
  | replaceRuntime inputs =>
      obtain ⟨held, event, config, version, hheld, hevent, haction, -, rfl⟩ := hstep
      exact h.replaceRuntime hheld hevent (hthrough held config version hheld haction)
  | other => exact h.other hinv.endsForeign hstep

end Steps

/-! ## §5. Runs. -/

/-- At the start there is neither a record nor a commit. -/
theorem AuditInvariant.init {s : RegistryAuditState ρ τ}
    (h : (registryAuditSystem ρ τ validationBootstrap).Init s) :
    AuditInvariant validationBootstrap s ∧ Settled s := by
  obtain ⟨hfree, hcommitted, hreplaced, hstart, hforeign⟩ := h
  constructor
  · refine .of_free hfree ?_ ?_ ?_ fun version hlt hle => ?_
    · exact fun _ event hlast => hforeign event (List.mem_of_mem_getLast? hlast)
    · rw [hcommitted]
      intro commit hcommit
      cases hcommit
    · rw [hreplaced]
      intro replaced hmem
      cases hmem
    · omega
  · intro event hmem haudit
    exact absurd haudit (hforeign event hmem)

end OneAiKey
