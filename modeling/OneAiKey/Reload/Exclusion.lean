/-
  OneAiKey.Reload.Exclusion — when a reload keeps the exclusions.

  The pool of a credential set is built from what the stores hold at one moment,
  and becomes current at a later one.  An exclusion of the current runtime is in
  the new pool if the stores had it at the first moment, and if it was not made
  between the two.

  Main results:
    * `lifecycleOf_built` — a new pool holds what the stores hold;
    * `Sound.step` — a step that meets `Preserving` keeps the invariant;
    * `excluded_not_resurrected` — in runs of such steps a credential that is
      excluded in the current runtime is not handed out by the next one, unless
      an operator has released it;
    * `waiting_exclusion_resurrected` — an exclusion that still waits for the
      worker is lost.
-/
import OneAiKey.Persistence.Converge
import OneAiKey.Reload

namespace OneAiKey

/-! ## §1. The condition. -/

/-- The durable state that the stores hold for a credential of a new pool. -/
def CredentialStore.evidenceOf (store : CredentialStore) (channelIds : List String)
    (persistedEvents : List (DomainEvent × Readings)) (key : CredentialKey) :
    CredentialLifecycleState :=
  if store.sqlite then store.rows key
  else lifecycleAfter key.2 .available ((replayOps channelIds persistedEvents).map Prod.fst)

namespace ReloadWorld

/-- When the pool of a channel is built, the stores exclude every credential of it that the
current runtime excludes, unless an operator has released it. -/
def EvidenceExcludes (s : ReloadWorld) (persistedEvents : List (DomainEvent × Readings)) :
    Prop :=
  ∀ reload entry remaining, s.reload = some reload → reload.remaining = entry :: remaining →
    reload.runtime.credentialSetRuntimes[entry.2.credentialSetId]? = none →
    ∀ id ∈ (KeyPool.ofConfig entry.2.keyPool).credentials.map (·.id), ∀ l,
      s.durable (entry.2.credentialSetId, id) = some l → l.Excluded →
        s.released (entry.2.credentialSetId, id) ∨
        (s.world.store.evidenceOf
          (credentialSetChannels reload.poolConfigs entry.2.credentialSetId) persistedEvents
          (entry.2.credentialSetId, id)).Excluded

/-- A step does not exclude a credential whose pool has been built without the exclusion. -/
def ExcludesInTime (s : ReloadWorld) (event : LifecycleEvent) : Prop :=
  ∀ world reload key pool l, s.world.next event = some world → s.reload = some reload →
    NewlyExcluded (s.durable key) (world.durableIn s.current key) →
    reload.runtime.credentialSetRuntimes[key.1]? = some pool →
    pool.lifecycleOf key.2 = some l → l.Excluded

def Preserving (s : ReloadWorld) : ReloadEvent → Prop
  | .lifecycle event => s.ExcludesInTime event
  | .visitChannel persistedEvents _ _ _ => s.EvidenceExcludes persistedEvents
  | _ => True

/-! ## §2. The invariant. -/

/-- A pool that has been built keeps the exclusions of the current runtime. -/
def KeepsExclusions (s : ReloadWorld) (setId : CredentialSetId) (pool : KeyPool) : Prop :=
  ∀ id l l', s.durable (setId, id) = some l → l.Excluded → pool.lifecycleOf id = some l' →
    l'.Excluded ∨ s.released (setId, id)

structure Sound (s : ReloadWorld) : Prop where
  consistent : s.world.store.Consistent
  distinct : ∀ setId, (s.world.store.credentialIds setId).Nodup
  channels : ∀ reload, s.reload = some reload → ∀ entry ∈ reload.remaining,
    ((KeyPool.ofConfig entry.2.keyPool).credentials.map (·.id)).Nodup
  built : ∀ reload, s.reload = some reload → ∀ (setId : CredentialSetId) (pool : KeyPool),
    reload.runtime.credentialSetRuntimes[setId]? = some pool →
      WellFormed s.world.clock pool ∧ s.KeepsExclusions setId pool

end ReloadWorld

/-! ## §3. A new pool. -/

/-- A new pool holds what the stores hold. -/
theorem lifecycleOf_built {store : CredentialStore} (hconsistent : store.Consistent)
    {config : ResolvedPoolConfig}
    (hdistinct : (store.credentialIds config.credentialSetId).Nodup)
    (hids : ((KeyPool.ofConfig config.keyPool).credentials.map (·.id)).Nodup)
    {channelIds : List String} {persistedEvents : List (DomainEvent × Readings)}
    {entries : List (CredentialLifecycleSnapshot × Readings)} {fault : Option String}
    (hload : store.loadLifecycleSnapshots config.credentialSetId fault =
      .ok (entries.map Prod.fst))
    {t clock : Instant}
    (hreadings : ReadingsFrom t (persistedEvents.map Prod.snd ++ entries.map Prod.snd))
    (hlast : ∀ r ∈ persistedEvents.map Prod.snd ++ entries.map Prod.snd, r.third ≤ clock)
    {pool : KeyPool}
    (hbuilt : RuntimeCredentialSet.fromConfig config channelIds
      (credentialEventsForStartup store.hasLifecycleSnapshotAuthority persistedEvents) entries =
        .ok pool) :
    WellFormed clock pool ∧ ∀ id l, pool.lifecycleOf id = some l →
      id ∈ (KeyPool.ofConfig config.keyPool).credentials.map (·.id) ∧
      l = store.evidenceOf channelIds persistedEvents (config.credentialSetId, id) := by
  obtain ⟨fresh, hfresh, rfl⟩ := fromConfig_execAll hbuilt
  have hfreshEq : fresh = .ofConfig config.keyPool := (KeyPool.new_ok hfresh).2
  rw [← hfreshEq] at hids ⊢
  obtain ⟨hwf, havailable⟩ := KeyPool.lifecycleOf_new hfresh hids
  -- the events are left out where the rows decide
  have hkept : ((credentialEventsForStartup store.hasLifecycleSnapshotAuthority
      persistedEvents).map Prod.snd ++ entries.map Prod.snd).Sublist
        (persistedEvents.map Prod.snd ++ entries.map Prod.snd) := by
    unfold credentialEventsForStartup
    cases store.hasLifecycleSnapshotAuthority with
    | true => exact (List.nil_sublist _).append (.refl _)
    | false => exact .refl _
  have hsub := (startupOps_readings_sublist channelIds (credentialEventsForStartup
    store.hasLifecycleSnapshotAuthority persistedEvents) entries).trans hkept
  have hreadings' := hreadings.sublist hsub
  refine ⟨hwf.execAll (Nat.zero_le _) (hreadings'.mono (Nat.zero_le _)) ?_, ?_⟩
  · intro r hr
    exact hlast r (hsub.subset hr)
  · intro id l hl
    rw [(lifecycleOf_execAll hwf (startupOps_isDurable _ _ _)
      (hreadings'.mono (Nat.zero_le _))).2] at hl
    obtain ⟨l₀, hl₀, rfl⟩ := Option.map_eq_some_iff.mp hl
    obtain rfl := havailable id l₀ hl₀
    refine ⟨(KeyPool.lifecycleOf_ne_none_iff hwf).mp (by rw [hl₀]; simp), ?_⟩
    unfold CredentialStore.evidenceOf
    cases hsqlite : store.sqlite with
    | true =>
        have hauthority : store.hasLifecycleSnapshotAuthority = true := hsqlite
        have hops : (startupOps channelIds (credentialEventsForStartup true persistedEvents)
            entries).map Prod.fst =
              (entries.map Prod.fst).map CredentialLifecycleSnapshot.poolOp := by
          show (entries.map _).map Prod.fst = _
          rw [List.map_map, List.map_map]
          rfl
        rw [hauthority, hops, rowState_restored hconsistent hsqlite hdistinct hload]
        rfl
    | false =>
        have hauthority : store.hasLifecycleSnapshotAuthority = false := hsqlite
        -- such a store has no rows to load
        have hnone : entries = [] := by
          unfold CredentialStore.loadLifecycleSnapshots at hload
          rw [hsqlite] at hload
          exact List.map_eq_nil_iff.mp (Except.ok.inj hload).symm
        rw [hauthority, hnone]
        show lifecycleAfter id .available ((replayOps channelIds persistedEvents ++ []).map
          Prod.fst) = _
        rw [List.append_nil]
        rfl

/-- A turn of the loop builds a pool for a set that has none. -/
theorem buildChannel_cases {evidence : StartupEvidence}
    {poolConfigs : List (String × ResolvedPoolConfig)} {runtime runtime' : Runtime}
    {entry : String × ResolvedPoolConfig}
    (h : buildChannel evidence poolConfigs runtime entry = .ok runtime') :
    runtime'.credentialSetRuntimes = runtime.credentialSetRuntimes ∨
      ∃ snapshots pool,
        runtime.credentialSetRuntimes[entry.2.credentialSetId]? = none ∧
        evidence.loadLifecycleSnapshots entry.2.credentialSetId = .ok snapshots ∧
        RuntimeCredentialSet.fromConfig entry.2
          (credentialSetChannels poolConfigs entry.2.credentialSetId)
          (credentialEventsForStartup evidence.lifecycleSnapshotAuthority
            evidence.persistedEvents) snapshots = .ok pool ∧
        runtime'.credentialSetRuntimes =
          runtime.credentialSetRuntimes.insert entry.2.credentialSetId pool := by
  unfold buildChannel at h
  dsimp only at h
  cases hfound : runtime.credentialSetRuntimes[entry.2.credentialSetId]? with
  -- the set was built for an earlier channel
  | some pool =>
      rw [hfound] at h
      cases h
      exact .inl rfl
  | none =>
      rw [hfound] at h
      cases hload : evidence.loadLifecycleSnapshots entry.2.credentialSetId with
      | error err =>
          rw [hload] at h
          cases h
      | ok snapshots =>
          rw [hload] at h
          dsimp only at h
          cases hpool : RuntimeCredentialSet.fromConfig entry.2
              (credentialSetChannels poolConfigs entry.2.credentialSetId)
              (credentialEventsForStartup evidence.lifecycleSnapshotAuthority
                evidence.persistedEvents) snapshots with
          | error err =>
              rw [hpool] at h
              cases h
          | ok pool =>
              rw [hpool] at h
              cases h
              exact .inr ⟨snapshots, pool, rfl, rfl, hpool, rfl⟩

/-! ## §4. The steps. -/

namespace ReloadWorld

theorem Sound.lifecycle {s s' : ReloadWorld} (h : s.Sound) {event : LifecycleEvent}
    (hpreserving : s.ExcludesInTime event) (hstep : s.Step (.lifecycle event) s') :
    s'.Sound := by
  obtain ⟨⟨-, hnext, hcurrent, hreload⟩, hreleased⟩ := hstep
  obtain ⟨hclock, hkept⟩ := LifecycleWorld.next_kept hnext
  refine ⟨hkept.consistent h.consistent, ?_, ?_, ?_⟩
  · intro setId
    unfold CredentialStore.credentialIds
    rw [hkept.credentials]
    exact h.distinct setId
  · rw [hreload]
    exact h.channels
  · intro reload hfound setId pool hpool
    rw [hreload] at hfound
    obtain ⟨hwf, hkeeps⟩ := h.built reload hfound setId pool hpool
    refine ⟨hwf.mono hclock, ?_⟩
    intro id l l' hl hexcluded hl'
    have hafter : s'.world.durableIn s.current (setId, id) = some l := by
      rw [← hcurrent]
      exact hl
    -- an exclusion from before the step is in the new pool already, a new one has to be carried
    -- over
    by_cases hbefore : s.durable (setId, id) = some l
    · rcases hkeeps id l l' hbefore hexcluded hl' with hpoolExcluded | hrelease
      · exact .inl hpoolExcluded
      · -- what was excluded before is not excluded anew
        refine .inr ?_
        rw [hreleased]
        refine ⟨.inl hrelease, ?_⟩
        intro hnew
        obtain ⟨l'', hl'', -, hne⟩ := hnew
        rw [hl] at hl''
        cases hl''
        exact hne hbefore
    · exact .inl (hpreserving s'.world reload (setId, id) pool l' hnext hfound
        ⟨l, hafter, hexcluded, hbefore⟩ hpool hl')

/-- A step that leaves the durable states alone takes no release back. -/
theorem released_of_durable_eq {s s' : ReloadWorld} {event : ReloadEvent}
    (hreleased : s'.released = s.ReleasedAfter event s') {key : CredentialKey}
    (hsame : s'.durable key = s.durable key) (h : s.released key) : s'.released key := by
  rw [hreleased]
  refine ⟨.inl h, ?_⟩
  intro hnew
  obtain ⟨l, hl, -, hne⟩ := hnew
  rw [hsame] at hl
  exact hne hl

theorem Sound.visitChannel {s s' : ReloadWorld} (h : s.Sound)
    {persistedEvents : List (DomainEvent × Readings)}
    {lifecycleSnapshots : List (CredentialLifecycleSnapshot × Readings)} {fault : Option String}
    {clock : Instant} (hpreserving : s.EvidenceExcludes persistedEvents)
    (hstep : s.Step (.visitChannel persistedEvents lifecycleSnapshots fault clock) s') :
    s'.Sound := by
  obtain ⟨⟨reload, entry, remaining, runtime, hreload, hremaining, -, hload, hreadings, hclock,
    hlast, hbuilt, hworld, hcurrent, hreload'⟩, hreleased⟩ := hstep
  have hsame : ∀ key, s'.durable key = s.durable key := by
    intro key
    unfold durable
    rw [hworld, hcurrent]
    rfl
  have hdistinct := h.channels reload hreload entry (by
    rw [hremaining]
    exact List.mem_cons_self)
  -- what was built before is kept
  have hold : ∀ (setId : CredentialSetId) (pool : KeyPool),
      reload.runtime.credentialSetRuntimes[setId]? = some pool →
        WellFormed clock pool ∧ s'.KeepsExclusions setId pool := by
    intro setId pool hpool
    obtain ⟨hwf, hkeeps⟩ := h.built reload hreload setId pool hpool
    refine ⟨hwf.mono hclock, ?_⟩
    intro id l l' hl hexcluded hl'
    rw [hsame] at hl
    rcases hkeeps id l l' hl hexcluded hl' with hpoolExcluded | hrelease
    · exact .inl hpoolExcluded
    · exact .inr (released_of_durable_eq hreleased (hsame _) hrelease)
  refine ⟨?_, ?_, ?_, ?_⟩
  · rw [hworld]
    exact h.consistent
  · rw [hworld]
    exact h.distinct
  · intro reload₁ hfound
    rw [hreload'] at hfound
    cases hfound
    intro found hmem
    apply h.channels reload hreload
    rw [hremaining]
    exact List.mem_cons_of_mem _ hmem
  · intro reload₁ hfound setId pool hpool
    rw [hreload'] at hfound
    cases hfound
    rw [hworld]
    show WellFormed clock pool ∧ s'.KeepsExclusions setId pool
    have hpool' : runtime.credentialSetRuntimes[setId]? = some pool := hpool
    rcases buildChannel_cases hbuilt with hruntime | ⟨snapshots, new, hnone, hsnapshots, hnew,
      hruntime⟩
    · rw [hruntime] at hpool'
      exact hold setId pool hpool'
    · cases hsnapshots
      rw [hruntime, Std.TreeMap.getElem?_insert] at hpool'
      by_cases hset : compare entry.2.credentialSetId setId = .eq
      · rw [if_pos hset] at hpool'
        cases hpool'
        obtain rfl := Std.LawfulEqCmp.eq_of_compare hset
        obtain ⟨hwf, hholds⟩ := lifecycleOf_built h.consistent (h.distinct _) hdistinct
          (hload hnone) hreadings hlast hnew
        refine ⟨hwf, ?_⟩
        intro id l l' hl hexcluded hl'
        rw [hsame] at hl
        obtain ⟨hmem, heq⟩ := hholds id l' hl'
        rcases hpreserving reload entry remaining hreload hremaining hnone id hmem l hl hexcluded
          with hrelease | hevidence
        · exact .inr (released_of_durable_eq hreleased (hsame _) hrelease)
        · rw [heq]
          exact .inl hevidence
      · rw [if_neg hset] at hpool'
        exact hold setId pool hpool'

/-- A step that meets the condition keeps the invariant. -/
theorem Sound.step {s s' : ReloadWorld} (h : s.Sound) {event : ReloadEvent}
    (hstep : s.Step event s') (hpreserving : s.Preserving event) : s'.Sound := by
  cases event with
  | lifecycle event => exact h.lifecycle hpreserving hstep
  | visitChannel persistedEvents lifecycleSnapshots fault clock =>
      exact h.visitChannel hpreserving hstep
  | readEvents config poolConfigs hasLogPath =>
      obtain ⟨⟨-, -, hdistinct, hworld, -, hreload⟩, -⟩ := hstep
      refine ⟨?_, ?_, ?_, ?_⟩
      · rw [hworld]
        exact h.consistent
      · rw [hworld]
        exact h.distinct
      · intro reload hfound
        rw [hreload] at hfound
        cases hfound
        exact hdistinct
      · intro reload hfound setId pool hpool
        rw [hreload] at hfound
        cases hfound
        -- a reload starts with no pool of its own
        have hempty : (∅ : Std.TreeMap CredentialSetId KeyPool)[setId]? = some pool := hpool
        rw [Std.TreeMap.getElem?_emptyc] at hempty
        cases hempty
  | abandon =>
      obtain ⟨⟨hworld, -, hreload⟩, -⟩ := hstep
      refine ⟨?_, ?_, ?_, ?_⟩
      · rw [hworld]
        exact h.consistent
      · rw [hworld]
        exact h.distinct
      · intro reload hfound
        rw [hreload] at hfound
        cases hfound
      · intro reload hfound
        rw [hreload] at hfound
        cases hfound
  | replaceRuntime =>
      obtain ⟨⟨reload, -, -, hworld, -, hreload⟩, -⟩ := hstep
      refine ⟨?_, ?_, ?_, ?_⟩
      · rw [hworld]
        exact h.consistent
      · rw [hworld]
        exact h.distinct
      · intro reload₁ hfound
        rw [hreload] at hfound
        cases hfound
      · intro reload₁ hfound
        rw [hreload] at hfound
        cases hfound

theorem Sound.init {s : ReloadWorld} (h : reloadSystem.Init s) : s.Sound := by
  obtain ⟨-, hconsistent, hdistinct, -, hreload, -⟩ := h
  refine ⟨hconsistent, hdistinct, ?_, ?_⟩
  · intro reload hfound
    rw [hreload] at hfound
    cases hfound
  · intro reload hfound
    rw [hreload] at hfound
    cases hfound

end ReloadWorld

/-! ## §5. The replacement. -/

/-- An exclusion is no state to select a credential in. -/
theorem CredentialState.not_selectable_of_excluded {state : CredentialState}
    (h : state.lifecycleState.Excluded) : ¬ state.Selectable := by
  intro hselectable
  obtain ⟨hdurable, hdisabled⟩ := hselectable
  cases state with
  | available => exact h rfl
  | coolingDown d reason => exact h rfl
  | expired reason => exact hdurable (.inl rfl)
  | quotaExhausted reason => exact hdurable (.inr rfl)
  | disabled reason => cases hdisabled

/-- A pool does not hand out what it excludes. -/
theorem WellFormed.not_returned_of_excluded {t : Instant} {pool : KeyPool}
    (h : WellFormed t pool) {id : CredentialId}
    (hexcluded : ∀ l, pool.lifecycleOf id = some l → l.Excluded) (op : PoolOp) {r : Readings}
    (ht : t ≤ r.first) : id ∉ (op.exec r pool).2.returned := by
  intro hreturned
  obtain ⟨i, c, hc, hid, hselectable⟩ := PoolOp.exec_returned h ht op hreturned
  have hstate : pool.stateOf id = some c.state :=
    h.stateOf_eq_some_iff.mpr ⟨i, c, hc, hid, rfl⟩
  have hl : pool.lifecycleOf id = some c.state.lifecycleState := by
    unfold KeyPool.lifecycleOf
    rw [hstate]
    rfl
  exact CredentialState.not_selectable_of_excluded (hexcluded _ hl) hselectable

/-- In every run whose steps all meet the condition: when the runtime is replaced, a
credential that is excluded in the runtime before is excluded in the new one wherever the new
one has it, and is not handed out there, unless an operator has released it. -/
theorem excluded_not_resurrected (s₀ s s' : ReloadWorld) (events : List ReloadEvent)
    (hinit : reloadSystem.Init s₀)
    (hrun : (reloadSystem.restrict ReloadWorld.Preserving).Run s₀ events s)
    (hreplace : reloadSystem.Step s .replaceRuntime s') (key : CredentialKey)
    (l : CredentialLifecycleState) (hl : s.durable key = some l) (hexcluded : l.Excluded) :
    s.released key ∨
      ((∀ l', s'.durable key = some l' → l'.Excluded) ∧
        ∀ set, s'.world.sets ⟨s'.current, key.1⟩ = some set →
          ∀ (op : PoolOp) (r : Readings), s'.world.clock ≤ r.first →
            key.2 ∉ (op.exec r set.pool).2.returned) := by
  have hsound : s.Sound := by
    refine hrun.invariant (I := ReloadWorld.Sound) ?_ (.init hinit)
    intro u event u' hu hstep
    exact hu.step hstep.1 hstep.2
  obtain ⟨⟨reload, hreload, -, hworld, hcurrent, -⟩, -⟩ := hreplace
  by_cases hreleased : s.released key
  · exact .inl hreleased
  refine .inr ?_
  -- the sets of the new runtime are those that the reload has built
  have hsets : s'.world.sets ⟨s'.current, key.1⟩ =
      reload.runtime.credentialSetRuntimes[key.1]?.map fun pool => ⟨pool, 1⟩ := by
    rw [hworld, hcurrent]
    exact if_pos rfl
  have hclock : s'.world.clock = s.world.clock := by
    rw [hworld]
    rfl
  have hkept : ∀ set, s'.world.sets ⟨s'.current, key.1⟩ = some set →
      WellFormed s.world.clock set.pool ∧
        ∀ l', set.pool.lifecycleOf key.2 = some l' → l'.Excluded := by
    intro set hset
    rw [hsets] at hset
    obtain ⟨pool, hpool, rfl⟩ := Option.map_eq_some_iff.mp hset
    obtain ⟨hwf, hkeeps⟩ := hsound.built reload hreload key.1 pool hpool
    refine ⟨hwf, ?_⟩
    intro l' hl'
    exact (hkeeps key.2 l l' hl hexcluded hl').resolve_right hreleased
  constructor
  · intro l' hl'
    obtain ⟨set, hset, hlifecycle⟩ := Option.bind_eq_some_iff.mp hl'
    exact (hkept set hset).2 l' hlifecycle
  · intro set hset op r hr
    rw [hclock] at hr
    obtain ⟨hwf, hall⟩ := hkept set hset
    exact hwf.not_returned_of_excluded hall op hr

/-! ## §6. An exclusion that still waits. -/

/-- The one channel of the set, in the old configuration and in the new one. -/
def singleResolved : ResolvedPoolConfig :=
  { remainingChannel with
    credentialSetId := "set"
    keyPool := ⟨"a", "set", "https://a.example/v1", [⟨"k", .unknown⟩]⟩ }

def singleConfig : ResolvedConfig where
  pools := [("a", singleResolved)]
  distinct := by decide
  normalized := by
    intro entry hmem
    rw [List.mem_singleton.mp hmem]
    exact ⟨"pool a", "https://a.example/v1", rfl⟩
  imported := by
    intro entry hmem
    rw [List.mem_singleton.mp hmem]
    exact List.cons_ne_nil _ _

/-- A state with what an event has released. -/
def ReloadWorld.following (s : ReloadWorld) (event : ReloadEvent) (world : LifecycleWorld)
    (current : Nat) (reload : Option RuntimeReload) : ReloadWorld :=
  ⟨world, current, reload, s.ReleasedAfter event ⟨world, current, reload, s.released⟩⟩

/-- The first runtime, with its credential available. -/
def beforeReload : ReloadWorld := ⟨startedWorld, 0, none, fun _ => False⟩

theorem beforeReload_init : reloadSystem.Init beforeReload := by
  refine ⟨startedWorld_init, ?_, ?_, rfl, rfl, fun _ h => h⟩
  · intro row hmem
    cases hmem
  · intro setId
    show (((([("set", singleCredentialId)] : List (CredentialSetId × CredentialId)).filter
      fun row => row.1 == setId).map Prod.snd)).Nodup
    by_cases hset : ("set" : CredentialSetId) = setId
    · simp [hset]
    · simp [hset]

/-- Does a command run a phase? -/
def ReloadEvent.IsPhase : ReloadEvent → Prop
  | lifecycle (.advance _ _) => True
  | _ => False

namespace ReloadWorld

/-- The state after steps that can happen. -/
def afterLifecycle (s : ReloadWorld) : List LifecycleEvent → ReloadWorld
  | [] => s
  | event :: events =>
      (s.following (.lifecycle event) ((s.world.next event).getD s.world) s.current
        s.reload).afterLifecycle events

/-- The event log is read; there is none. -/
def loading (s : ReloadWorld) : ReloadWorld :=
  s.following (.readEvents singleConfig [("a", singleResolved)] false) s.world s.current
    (some ⟨[("a", singleResolved)], [], [("a", singleResolved)], ⟨∅, ∅⟩⟩)

/-- The runtime that is built from some rows. -/
def rebuilt (s : ReloadWorld) (rows : List (CredentialLifecycleSnapshot × Readings)) : Runtime :=
  match buildChannel (s.world.store.startupEvidence [] rows) [("a", singleResolved)] ⟨∅, ∅⟩
      ("a", singleResolved) with
  | .ok runtime => runtime
  | .error _ => ⟨∅, ∅⟩

/-- The channel is visited. -/
def visited (s : ReloadWorld) (rows : List (CredentialLifecycleSnapshot × Readings)) :
    ReloadWorld :=
  s.following (.visitChannel [] rows none 0) { s.world with clock := 0 } s.current
    (some ⟨[("a", singleResolved)], [], [], s.rebuilt rows⟩)

def replaced (s : ReloadWorld) (runtime : Runtime) : ReloadWorld :=
  s.following .replaceRuntime (s.world.withRuntime (s.current + 1) runtime) (s.current + 1) none

/-- One step that can happen. -/
theorem afterLifecycle_step {s : ReloadWorld} {event : LifecycleEvent}
    (hstarts : event.StartsIn s.current) (hnext : (s.world.next event).isSome = true) :
    reloadSystem.Step s (.lifecycle event) (s.afterLifecycle [event]) := by
  obtain ⟨world, hworld⟩ := Option.isSome_iff_exists.mp hnext
  refine ⟨⟨hstarts, ?_, rfl, rfl⟩, rfl⟩
  show s.world.next event = some ((s.world.next event).getD s.world)
  rw [hworld]
  rfl

/-- An event that is no phase of a command releases nothing. -/
theorem not_released_following {s s' : ReloadWorld} (event : ReloadEvent)
    (hreleased : s'.released = s.ReleasedAfter event s') (hevent : ¬ event.IsPhase)
    {key : CredentialKey} (h : ¬ s.released key) : ¬ s'.released key := by
  rw [hreleased]
  intro hafter
  obtain ⟨hbefore | haccepted, -⟩ := hafter
  · exact h hbefore
  · obtain ⟨index, inputs, -, -, -, heq, -⟩ := haccepted
    apply hevent
    rw [heq]
    exact trivial

/-- Nor does a reload, or a state before one that no command was started in. -/
theorem not_released_visited {s : ReloadWorld}
    (rows : List (CredentialLifecycleSnapshot × Readings)) {key : CredentialKey}
    (h : ¬ s.released key) : ¬ (s.loading.visited rows).released key := by
  have hloading : ¬ s.loading.released key :=
    not_released_following (.readEvents singleConfig [("a", singleResolved)] false) rfl
      (fun hphase => hphase) h
  exact not_released_following (.visitChannel [] rows none 0) rfl (fun hphase => hphase) hloading

theorem not_released_afterLifecycle {s : ReloadWorld} {events : List LifecycleEvent}
    (hevents : ∀ event ∈ events, ¬ (ReloadEvent.lifecycle event).IsPhase) {key : CredentialKey}
    (h : ¬ s.released key) : ¬ (s.afterLifecycle events).released key := by
  induction events generalizing s with
  | nil => exact h
  | cons event events ih =>
      apply ih (fun event hmem => hevents event (List.mem_cons_of_mem _ hmem))
      exact not_released_following (.lifecycle event) rfl (hevents event List.mem_cons_self) h

/-- The reload of the one channel can happen when the rows are those that are stored. -/
theorem reload_steps {s : ReloadWorld} (rows : List (CredentialLifecycleSnapshot × Readings))
    (hreload : s.reload = none) (hclock : s.world.clock = 0)
    (hrows : s.world.store.loadLifecycleSnapshots "set" none = .ok (rows.map Prod.fst))
    (hclockRows : ReadingsFrom 0 (rows.map Prod.snd))
    (hlast : ∀ r ∈ rows.map Prod.snd, r.third ≤ 0)
    (hbuilt : buildChannel (s.world.store.startupEvidence [] rows) [("a", singleResolved)]
      ⟨∅, ∅⟩ ("a", singleResolved) = .ok (s.loading.rebuilt rows)) :
    reloadSystem.Step s (.readEvents singleConfig [("a", singleResolved)] false) s.loading ∧
    reloadSystem.Step s.loading (.visitChannel [] rows none 0) (s.loading.visited rows) ∧
    reloadSystem.Step (s.loading.visited rows) .replaceRuntime
      ((s.loading.visited rows).replaced (s.loading.rebuilt rows)) := by
  refine ⟨⟨⟨hreload, .refl _, ?_, rfl, rfl, rfl⟩, rfl⟩, ⟨⟨_, _, _, s.loading.rebuilt rows, rfl, rfl, rfl, fun _ => hrows,
    ?_, ?_, hlast, hbuilt, rfl, rfl, rfl⟩, rfl⟩, ⟨⟨_, rfl, rfl, rfl, rfl, rfl⟩, rfl⟩⟩
  · intro entry hmem
    rw [List.mem_singleton.mp hmem]
    decide
  · show ReadingsFrom s.world.clock _
    rw [hclock]
    exact hclockRows
  · exact Nat.le_of_eq hclock

end ReloadWorld

/-- The worker has written the exclusion before the reload. -/
def drained : ReloadWorld :=
  beforeReload.afterLifecycle [expiryReport, .receive, .persist none]

/-- The row that it has written, as the reload restores it. -/
def expiredRow : CredentialLifecycleSnapshot × Readings :=
  (⟨"set", singleCredentialId, .expired "upstream reported expired credential"⟩, .at' 0)

/-- A written exclusion survives the reload. -/
theorem excluded_not_resurrected_drained :
    (drained.loading.visited [expiredRow]).durable ("set", singleCredentialId) =
        some (.expired "upstream reported expired credential") ∧
      ∀ l', ((drained.loading.visited [expiredRow]).replaced
          (drained.loading.rebuilt [expiredRow])).durable ("set", singleCredentialId) = some l' →
        l'.Excluded := by
  have hl : (drained.loading.visited [expiredRow]).durable ("set", singleCredentialId) =
      some (.expired "upstream reported expired credential") := rfl
  obtain ⟨hread, hvisit, hreplace⟩ := ReloadWorld.reload_steps (s := drained) [expiredRow] rfl rfl
    rfl ⟨Nat.le_refl _, trivial⟩
    (fun r hr => by rw [List.mem_singleton.mp hr]; exact Nat.le_refl _) rfl
  -- no reload is going on while the exclusion is reported and written
  have hidle : ∀ (s : ReloadWorld) (event : LifecycleEvent), s.reload = none →
      s.ExcludesInTime event := by
    intro s event hnone world reload key pool l _ hfound
    rw [hnone] at hfound
    cases hfound
  have hevidence : drained.loading.EvidenceExcludes [] := by
    intro reload entry remaining hreload hremaining _ id hid l _ _
    cases hreload
    cases hremaining
    have hid' : id = singleCredentialId := List.mem_singleton.mp hid
    rw [hid']
    exact .inr (by decide)
  have hrun : (reloadSystem.restrict ReloadWorld.Preserving).Run beforeReload
      [.lifecycle expiryReport, .lifecycle .receive, .lifecycle (.persist none),
        .readEvents singleConfig [("a", singleResolved)] false,
        .visitChannel [] [expiredRow] none 0] (drained.loading.visited [expiredRow]) :=
    .cons ⟨ReloadWorld.afterLifecycle_step trivial rfl, hidle _ _ rfl⟩ <|
      .cons ⟨ReloadWorld.afterLifecycle_step trivial rfl, hidle _ _ rfl⟩ <|
        .cons ⟨ReloadWorld.afterLifecycle_step trivial rfl, hidle _ _ rfl⟩ <|
          .cons ⟨hread, trivial⟩ <| .cons ⟨hvisit, hevidence⟩ (.nil _)
  refine ⟨hl, ?_⟩
  rcases excluded_not_resurrected beforeReload _ _ _ beforeReload_init hrun hreplace
      ("set", singleCredentialId) _ hl (by decide) with hreleased | hkept
  · refine absurd hreleased (ReloadWorld.not_released_visited _ ?_)
    apply ReloadWorld.not_released_afterLifecycle _ fun h => h
    intro event hmem
    simp only [List.mem_cons, List.not_mem_nil, or_false] at hmem
    rcases hmem with rfl | rfl | rfl <;> exact fun hphase => hphase
  · exact hkept.1

/-- The report is taken by the pool and waits for the worker. -/
def reported : ReloadWorld := beforeReload.afterLifecycle [expiryReport]

/-- The exclusion still waits when the rows are read, and the new runtime hands the credential
out.  The row of the old state is all that the reload finds of the credential, so its new pool
has it as available. -/
theorem waiting_exclusion_resurrected :
    ∃ s' set, reloadSystem.Init beforeReload ∧
      reloadSystem.Run beforeReload
        [.lifecycle expiryReport, .readEvents singleConfig [("a", singleResolved)] false,
          .visitChannel [] [] none 0] (reported.loading.visited []) ∧
      reloadSystem.Step (reported.loading.visited []) .replaceRuntime s' ∧
      (reported.loading.visited []).durable ("set", singleCredentialId) =
        some (.expired "upstream reported expired credential") ∧
      ¬ (reported.loading.visited []).released ("set", singleCredentialId) ∧
      s'.durable ("set", singleCredentialId) = some .available ∧
      s'.world.sets ⟨s'.current, "set"⟩ = some set ∧
      singleCredentialId ∈ (PoolOp.select.exec (.at' 0) set.pool).2.returned := by
  obtain ⟨hread, hvisit, hreplace⟩ := ReloadWorld.reload_steps (s := reported) [] rfl rfl
    rfl trivial nofun rfl
  have hrun : reloadSystem.Run beforeReload
      [.lifecycle expiryReport, .readEvents singleConfig [("a", singleResolved)] false,
        .visitChannel [] [] none 0] (reported.loading.visited []) :=
    .cons (ReloadWorld.afterLifecycle_step trivial rfl) <| .cons hread <|
      .cons hvisit (.nil _)
  refine ⟨_, _, beforeReload_init, hrun, hreplace, rfl, ?_, rfl, rfl, ?_⟩
  · apply ReloadWorld.not_released_visited
    apply ReloadWorld.not_released_afterLifecycle _ fun h => h
    intro event hmem
    rw [List.mem_singleton.mp hmem]
    exact fun hphase => hphase
  · decide

end OneAiKey
