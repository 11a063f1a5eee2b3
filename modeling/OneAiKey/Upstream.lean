/-
  OneAiKey.Upstream — which upstream a request, a probe and a model discovery of
  a channel go to (`src/proxy.rs`, `src/credential_probe.rs`,
  `src/model_discovery.rs`).

  All three take the auth header and prefix from the channel's own state.  The
  probe takes the base from there too; forwarding and discovery take it from the
  selected key, and so from the configuration the shared pool was built with.

  Main results:
    * `buildRuntime_spec` — the pool of a set carries the configuration of the
      first channel of the set that was visited;
    * `own_upstream_iff` — every channel reaches its own upstream, in every order
      of the build, just when channels that share a set share the base.
-/
import Mathlib.Data.List.DropRight
import OneAiKey.Pool.Preservation
import OneAiKey.State

namespace OneAiKey

open Std

/-! ## §1. What is sent. -/

/-- The address and the credential of an outgoing request. -/
structure UpstreamRequest where
  url : String
  authHeader : String
  authValue : String
  deriving DecidableEq, Repr

/-- The url and the auth of `forward_with_pool`. -/
def forwardUpstreamRequest (poolState : PoolState) (selected : SelectedKey)
    (outboundPath query : String) : UpstreamRequest where
  url := upstreamUrl poolState.providerKind selected.apiBase outboundPath (some query)
  authHeader := poolState.authHeader
  authValue := poolState.authPrefix ++ selected.key

/-- The url and the auth of `send_model_retrieve_probe_request` and of
`send_chat_completion_probe_request`. -/
def probeUpstreamRequest (poolState : PoolState) (selected : SelectedKey) (path : String) :
    UpstreamRequest where
  url := upstreamUrl poolState.providerKind poolState.apiBase path none
  authHeader := poolState.authHeader
  authValue := poolState.authPrefix ++ selected.key

/-- `model_catalog_capability`, as the path it leads to. -/
def modelCatalogPath : ProviderKind → Option String
  | .openAiCompatible => some "/v1/models"
  | .genericHttp => none

/-- The url and the auth of `discover_channel_models`, if the provider has a catalog. -/
def discoveryUpstreamRequest (poolState : PoolState) (selected : SelectedKey) :
    Option UpstreamRequest :=
  (modelCatalogPath poolState.providerKind).map fun path => {
    url := upstreamUrl poolState.providerKind selected.apiBase path none
    authHeader := poolState.authHeader
    authValue := poolState.authPrefix ++ selected.key }

/-! ## §2. The specification. -/

/-- The request that the channel's own configuration asks for. -/
def ownRequest (channel : ResolvedPoolConfig) (key path : String) (query : Option String) :
    UpstreamRequest where
  url := upstreamUrl channel.providerKind channel.keyPool.apiBase path query
  authHeader := channel.authHeader
  authValue := channel.authPrefix ++ key

/-- With this key, everything goes to the channel's own upstream. -/
structure OwnUpstream (channel : ResolvedPoolConfig) (state : PoolState)
    (selected : SelectedKey) : Prop where
  forward : ∀ path query, forwardUpstreamRequest state selected path query =
    ownRequest channel selected.key path (some query)
  probe : ∀ path, probeUpstreamRequest state selected path =
    ownRequest channel selected.key path none
  discovery : discoveryUpstreamRequest state selected =
    (modelCatalogPath channel.providerKind).map fun path =>
      ownRequest channel selected.key path none

/-- Every channel has a pool, and every key that an operation on it selects takes the
channel to its own upstream. -/
def SendsToOwnUpstream (config : ResolvedConfig) (s : Runtime) : Prop :=
  ∀ entry ∈ config.pools, ∃ state pool,
    s.pools[entry.1]? = some state ∧ s.credentialSetRuntimes[state.pool]? = some pool ∧
    ∀ (op : PoolOp) (r : Readings) (pool' : KeyPool) (selected : SelectedKey),
      op.exec r pool = (pool', .key (.ok selected)) → OwnUpstream entry.2 state selected

/-- Channels that share a credential set have the same base. -/
def SharedBasesAgree (config : ResolvedConfig) : Prop :=
  ∀ a ∈ config.pools, ∀ b ∈ config.pools, a.2.credentialSetId = b.2.credentialSetId →
    a.2.keyPool.apiBase = b.2.keyPool.apiBase

/-! ## §3. A pool keeps its configuration. -/

namespace KeyPool

@[simp] theorem config_refresh (p : KeyPool) (now : Instant) :
    (p.refreshAvailableIndices now).config = p.config := (sameCredentials_refresh p now).config

@[simp] theorem config_nextAvailableFrom (p : KeyPool) (start : Nat) (now : Instant) :
    (p.nextAvailableFrom start now).1.config = p.config := config_refresh p now

@[simp] theorem config_modifyCredential (p : KeyPool) (i : Nat) (mark : Credential → Credential) :
    (p.modifyCredential i mark).config = p.config := rfl

@[simp] theorem config_markIndexAvailable (p : KeyPool) (i : Nat) :
    (p.markIndexAvailable i).config = p.config := (sameCredentials_markIndexAvailable p i).config

@[simp] theorem config_markIndexUnavailable (p : KeyPool) (i : Nat) :
    (p.markIndexUnavailable i).config = p.config :=
  (sameCredentials_markIndexUnavailable p i).config

@[simp] theorem config_markIndexCoolingDown (p : KeyPool) (i : Nat) (d : Instant) :
    (p.markIndexCoolingDown i d).config = p.config :=
  (sameCredentials_markIndexCoolingDown p i d).config

@[simp] theorem config_switchAwayFrom (p : KeyPool) (failed : Nat) (now : Instant) :
    (p.switchAwayFrom failed now).1.config = p.config := by
  have hnext := config_nextAvailableFrom p ((p.current + 1) % p.credentials.length) now
  unfold switchAwayFrom
  split
  · next heq =>
      rw [heq] at hnext
      split <;> exact hnext
  · next heq =>
      rw [heq] at hnext
      exact hnext

@[simp] theorem config_reportExpiredFailure (p : KeyPool) (i : Nat) (reason : String)
    (now : Instant) : (p.reportExpiredFailure i reason now).1.config = p.config := by
  unfold reportExpiredFailure
  split
  · rfl
  · split
    · rfl
    · dsimp only
      split <;> simp

@[simp] theorem config_foldl_pushCredential (cs : List Credential) (p : KeyPool) :
    (cs.foldl pushCredential p).config = p.config := by
  induction cs generalizing p with
  | nil => rfl
  | cons c cs ih =>
      rw [List.foldl_cons, ih]
      rfl

/-- A selection does not touch the configuration of the pool. -/
theorem config_select (p : KeyPool) (now : Instant) : (p.select now).1.config = p.config := by
  have hnext := config_nextAvailableFrom p p.current now
  unfold select
  split <;> next heq => rw [heq] at hnext; exact hnext

/-- A selection by id does not touch the configuration either. -/
theorem config_selectCredentialById (p : KeyPool) (id : CredentialId) (now : Instant) :
    (p.selectCredentialById id now).1.config = p.config := by
  unfold selectCredentialById
  split
  · rfl
  · dsimp only
    split <;> exact config_refresh p now

/-- The last resort does not touch the configuration. -/
theorem config_selectCoolingDownLastResort (p : KeyPool) (r : Readings) :
    (p.selectCoolingDownLastResort r).1.config = p.config := by
  have hnext := config_nextAvailableFrom (p.refreshAvailableIndices r.first)
    (p.refreshAvailableIndices r.first).current r.second
  rw [config_refresh] at hnext
  unfold selectCoolingDownLastResort
  dsimp only
  split
  · next heq =>
      rw [heq] at hnext
      exact hnext
  · next heq =>
      rw [heq] at hnext
      split <;> exact hnext

end KeyPool

open KeyPool in
/-- No operation changes the configuration a pool was built with. -/
theorem PoolOp.exec_config (op : PoolOp) (r : Readings) (p : KeyPool) :
    (op.exec r p).1.config = p.config := by
  cases op with
  | select => exact config_select p _
  | selectCredentialById id => exact config_selectCredentialById p id _
  | selectCoolingDownLastResort => exact config_selectCoolingDownLastResort p r
  | retryCandidatesFromCurrent limit =>
      show (p.retryCandidatesFromCurrent limit r.first).1.config = _
      unfold KeyPool.retryCandidatesFromCurrent
      split
      · rfl
      · exact config_refresh p _
  | addCredentials inputs =>
      show (p.addCredentials inputs).1.config = _
      unfold KeyPool.addCredentials
      dsimp only
      split
      · rfl
      · exact config_foldl_pushCredential _ p
  | applyCredentialCooldownUntil id d reason =>
      show (p.applyCredentialCooldownUntil id d reason r.first).1.config = _
      unfold KeyPool.applyCredentialCooldownUntil KeyPool.reportSwitchableFailureUntil
      split
      · split
        · rfl
        · split
          · rfl
          · split <;> simp
      · rfl
  | reportExpiredFailureById id reason
  | applyCredentialExpired id reason =>
      show (p.reportExpiredFailureById id reason r.first).1.config = _
      unfold KeyPool.reportExpiredFailureById
      split <;> simp
  | applyCredentialQuotaExhausted id reason =>
      show (p.applyCredentialQuotaExhausted id reason r.first).1.config = _
      unfold KeyPool.applyCredentialQuotaExhausted
      split
      · split
        · rfl
        · dsimp only
          split <;> simp
      · rfl
  | expireCredentialById id reason =>
      show (p.expireCredentialById id reason r.first).1.config = _
      unfold KeyPool.expireCredentialById
      split <;> simp
  | restoreCredentialById id =>
      show (p.restoreCredentialById id r).1.config = _
      unfold KeyPool.restoreCredentialById
      split
      · rfl
      · dsimp only
        split <;> simp
  | disableCredentialById id reason =>
      show (p.disableCredentialById id reason r.first).1.config = _
      unfold KeyPool.disableCredentialById
      split
      · rfl
      · next index _ =>
          dsimp only
          split
          · have hnext := config_nextAvailableFrom
              ((p.modifyCredential index (·.markDisabled reason)).markIndexUnavailable index)
              ((((p.modifyCredential index (·.markDisabled reason)).markIndexUnavailable
                index).current + 1) % ((p.modifyCredential index
                (·.markDisabled reason)).markIndexUnavailable index).credentials.length) r.first
            -- the failover behind a disabled current credential keeps it too
            split <;> next heq => rw [heq] at hnext; simpa using hnext
          · simp
  | enableCredentialById id =>
      show (p.enableCredentialById id).1.config = _
      unfold KeyPool.enableCredentialById
      split <;> simp
  | clearCredentialCooldownById id =>
      show (p.clearCredentialCooldownById id r).1.config = _
      unfold KeyPool.clearCredentialCooldownById
      split
      · rfl
      · dsimp only
        split <;> simp

/-! ## §4. The base of a selected key. -/

namespace KeyPool

/-- A key comes with the address of its pool. -/
theorem apiBase_selectedKeyAt {p : KeyPool} {i : Nat} {selected : SelectedKey}
    (h : p.selectedKeyAt i = .ok selected) : selected.apiBase = p.config.apiBase := by
  unfold selectedKeyAt at h
  split at h
  · cases h
  · cases h
    rfl

/-- A selected key is for the address of its pool. -/
theorem apiBase_select {p : KeyPool} {now : Instant} {selected : SelectedKey}
    (h : (p.select now).2 = .ok selected) : selected.apiBase = p.config.apiBase := by
  have hnext := config_nextAvailableFrom p p.current now
  unfold select at h
  split at h
  · cases h
  · next heq =>
      rw [heq] at hnext
      rw [apiBase_selectedKeyAt h]
      exact congrArg (·.apiBase) hnext

/-- A key that is selected by id is for the address of its pool. -/
theorem apiBase_selectCredentialById {p : KeyPool} {id : CredentialId} {now : Instant}
    {selected : SelectedKey} (h : (p.selectCredentialById id now).2 = .ok selected) :
    selected.apiBase = p.config.apiBase := by
  unfold selectCredentialById at h
  split at h
  · cases h
  · dsimp only at h
    split at h
    · rw [apiBase_selectedKeyAt h, config_refresh]
    · cases h

/-- The last resort, too, is for the address of its pool. -/
theorem apiBase_selectCoolingDownLastResort {p : KeyPool} {r : Readings} {selected : SelectedKey}
    (h : (p.selectCoolingDownLastResort r).2 = .ok selected) :
    selected.apiBase = p.config.apiBase := by
  have hnext := config_nextAvailableFrom (p.refreshAvailableIndices r.first)
    (p.refreshAvailableIndices r.first).current r.second
  rw [config_refresh] at hnext
  unfold selectCoolingDownLastResort at h
  dsimp only at h
  split at h
  · next heq =>
      rw [heq] at hnext
      rw [apiBase_selectedKeyAt h]
      exact congrArg (·.apiBase) hnext
  · next heq =>
      rw [heq] at hnext
      split at h
      · rw [apiBase_selectedKeyAt h]
        exact congrArg (·.apiBase) hnext
      · cases h

end KeyPool

/-- A selected key carries the base of the pool it comes from. -/
theorem PoolOp.exec_apiBase {op : PoolOp} {r : Readings} {p p' : KeyPool}
    {selected : SelectedKey} (h : op.exec r p = (p', .key (.ok selected))) :
    selected.apiBase = p.config.apiBase := by
  have hout := congrArg Prod.snd h
  cases op with
  | select => exact KeyPool.apiBase_select (PoolOutput.key.inj hout)
  | selectCredentialById id => exact KeyPool.apiBase_selectCredentialById (PoolOutput.key.inj hout)
  | selectCoolingDownLastResort =>
      exact KeyPool.apiBase_selectCoolingDownLastResort (PoolOutput.key.inj hout)
  | _ => cases hout

/-! ## §5. What a build leaves behind. -/

/-- The replay of events leaves the configuration as it was. -/
theorem applyPersistedEvents_config (channelIds : List String)
    (events : List (DomainEvent × Readings)) (p : KeyPool) :
    (applyPersistedEvents channelIds p events).config = p.config := by
  unfold applyPersistedEvents
  induction events generalizing p with
  | nil => rfl
  | cons event events ih =>
      rw [List.foldl_cons, ih]
      unfold applyPersistedEvent
      split
      · split
        · exact PoolOp.exec_config _ _ p
        · rfl
      · rfl

/-- Restoring lifecycle snapshots leaves the configuration as it was. -/
theorem applyLifecycleSnapshots_config
    {snapshots : List (CredentialLifecycleSnapshot × Readings)} {p p' : KeyPool}
    (h : applyLifecycleSnapshots p snapshots = .ok p') : p'.config = p.config := by
  unfold applyLifecycleSnapshots at h
  induction snapshots generalizing p with
  | nil =>
      cases h
      rfl
  | cons snapshot snapshots ih =>
      rw [List.foldlM_cons] at h
      by_cases hid : ((snapshot.1.poolOp.exec snapshot.2 p).1.indexForId
          snapshot.1.credentialId).isSome = true
      · have hone : applyLifecycleSnapshot p snapshot =
            .ok (snapshot.1.poolOp.exec snapshot.2 p).1 := if_pos hid
        rw [hone] at h
        rw [ih h]
        exact PoolOp.exec_config _ _ p
      · have hone : ∃ err, applyLifecycleSnapshot p snapshot = .error err := ⟨_, if_neg hid⟩
        obtain ⟨err, herr⟩ := hone
        rw [herr] at h
        cases h

/-- A pool is built with the configuration of the channel it is built from. -/
theorem RuntimeCredentialSet.fromConfig_config {channel : ResolvedPoolConfig}
    {channelIds : List String} {events : List (DomainEvent × Readings)}
    {snapshots : List (CredentialLifecycleSnapshot × Readings)} {p : KeyPool}
    (h : RuntimeCredentialSet.fromConfig channel channelIds events snapshots = .ok p) :
    p.config = channel.keyPool := by
  unfold RuntimeCredentialSet.fromConfig at h
  split at h
  · cases h
  · next pool hnew =>
      rw [applyLifecycleSnapshots_config h, applyPersistedEvents_config]
      unfold KeyPool.new at hnew
      split at hnew
      · cases hnew
      · cases hnew
        rfl

/-- The channel of a credential set that is visited first. -/
def firstOfSet (visited : List (String × ResolvedPoolConfig)) (setId : CredentialSetId) :
    Option (String × ResolvedPoolConfig) :=
  visited.find? fun entry => entry.2.credentialSetId = setId

/-- The runtime of the visited channels: each with its own state, and one pool for
each of their sets, with the configuration of the first of them. -/
structure BuiltFrom (visited : List (String × ResolvedPoolConfig)) (s : Runtime) : Prop where
  channels : ∀ entry ∈ visited,
    s.pools[entry.1]? = some (PoolState.fromConfig entry.2 entry.2.credentialSetId)
  shared : ∀ setId, (s.credentialSetRuntimes[setId]?).map (·.config) =
    (firstOfSet visited setId).map (·.2.keyPool)

/-- The first channel of a set stays the first. -/
theorem firstOfSet_append_of_some {visited : List (String × ResolvedPoolConfig)}
    {setId : CredentialSetId} {first : String × ResolvedPoolConfig}
    (h : firstOfSet visited setId = some first) (entry : String × ResolvedPoolConfig) :
    firstOfSet (visited ++ [entry]) setId = some first := by
  unfold firstOfSet at h ⊢
  rw [List.find?_append, h]
  rfl

/-- A channel of another set is not asked. -/
theorem firstOfSet_append_of_ne {entry : String × ResolvedPoolConfig} {setId : CredentialSetId}
    (h : entry.2.credentialSetId ≠ setId) (visited : List (String × ResolvedPoolConfig)) :
    firstOfSet (visited ++ [entry]) setId = firstOfSet visited setId := by
  unfold firstOfSet
  rw [List.find?_append]
  simp [h]

/-- A channel whose set has not been met is the first of it. -/
theorem firstOfSet_append_of_none {visited : List (String × ResolvedPoolConfig)}
    {entry : String × ResolvedPoolConfig}
    (h : firstOfSet visited entry.2.credentialSetId = none) :
    firstOfSet (visited ++ [entry]) entry.2.credentialSetId = some entry := by
  unfold firstOfSet at h ⊢
  rw [List.find?_append, h]
  simp

section Build

variable {evidence : StartupEvidence} {order visited : List (String × ResolvedPoolConfig)}
  {entry : String × ResolvedPoolConfig} {s s' : Runtime}

/-- A channel inserted under a new name leaves the others alone. -/
theorem channels_insert (h : BuiltFrom visited s) (hnew : entry.1 ∉ visited.map Prod.fst)
    (other : String × ResolvedPoolConfig) (hother : other ∈ visited ++ [entry]) :
    (s.pools.insert entry.1
      (PoolState.fromConfig entry.2 entry.2.credentialSetId))[other.1]? =
      some (PoolState.fromConfig other.2 other.2.credentialSetId) := by
  rw [TreeMap.getElem?_insert]
  rcases List.mem_append.mp hother with hold | hlast
  · have hne : ¬ compare entry.1 other.1 = .eq := by
      intro heq
      refine hnew (List.mem_map.mpr ⟨other, hold, ?_⟩)
      exact (LawfulEqOrd.eq_of_compare heq).symm
    rw [if_neg hne]
    exact h.channels other hold
  · obtain rfl := List.mem_singleton.mp hlast
    rw [if_pos ReflCmp.compare_self]

/-- One turn of the loop. -/
theorem buildChannel_spec (h : BuiltFrom visited s) (hnew : entry.1 ∉ visited.map Prod.fst)
    (hs : buildChannel evidence order s entry = .ok s') :
    BuiltFrom (visited ++ [entry]) s' := by
  unfold buildChannel at hs
  dsimp only at hs
  -- a set that has been met already is not built a second time
  split at hs
  · -- the set has its pool: the channel gets the reference only
    next pool hpool =>
      cases hs
      refine ⟨channels_insert h hnew, ?_⟩
      intro setId
      show (s.credentialSetRuntimes[setId]?).map (·.config) = _
      rw [h.shared setId]
      by_cases hset : entry.2.credentialSetId = setId
      · have hfirst := h.shared setId
        rw [← hset, hpool] at hfirst
        cases hf : firstOfSet visited entry.2.credentialSetId with
        | none =>
            rw [hf] at hfirst
            cases hfirst
        | some first =>
            rw [← hset, firstOfSet_append_of_some hf entry, hf]
      · rw [firstOfSet_append_of_ne hset]
  · next hnone =>
      split at hs
      · cases hs
      · split at hs
        · cases hs
        · -- the first channel of its set: the pool is built from it
          next pool hpool =>
            cases hs
            refine ⟨channels_insert h hnew, ?_⟩
            intro setId
            show ((s.credentialSetRuntimes.insert entry.2.credentialSetId pool)[setId]?).map
              (·.config) = _
            rw [TreeMap.getElem?_insert]
            by_cases hset : entry.2.credentialSetId = setId
            · subst hset
              have hfirst := h.shared entry.2.credentialSetId
              rw [hnone] at hfirst
              rw [if_pos ReflCmp.compare_self,
                firstOfSet_append_of_none (Option.map_eq_none_iff.mp hfirst.symm)]
              exact congrArg some (RuntimeCredentialSet.fromConfig_config hpool)
            · have hne : ¬ compare entry.2.credentialSetId setId = .eq :=
                fun heq => hset (LawfulEqOrd.eq_of_compare heq)
              rw [if_neg hne, h.shared setId, firstOfSet_append_of_ne hset]

/-- The loop from any turn on, by induction on the channels that are left. -/
theorem buildChannels_spec (rest : List (String × ResolvedPoolConfig)) :
    ∀ (visited : List (String × ResolvedPoolConfig)) (s : Runtime), BuiltFrom visited s →
      ((visited ++ rest).map Prod.fst).Nodup →
      rest.foldlM (buildChannel evidence order) s = .ok s' → BuiltFrom (visited ++ rest) s' := by
  induction rest with
  | nil =>
      intro visited s h _ hs
      cases hs
      rw [List.append_nil]
      exact h
  | cons entry rest ih =>
      intro visited s h hnd hs
      rw [List.foldlM_cons] at hs
      cases hone : buildChannel evidence order s entry with
      | error err =>
          rw [hone] at hs
          cases hs
      | ok s₁ =>
          rw [hone] at hs
          -- names are distinct, so the channel was not visited before
          have hnew : entry.1 ∉ visited.map Prod.fst := by
            rw [List.map_append, List.nodup_append] at hnd
            intro hmem
            exact hnd.2.2 entry.1 hmem entry.1 (by simp) rfl
          have hsplit : visited ++ entry :: rest = (visited ++ [entry]) ++ rest := by simp
          rw [hsplit] at hnd ⊢
          exact ih _ s₁ (buildChannel_spec h hnew hone) hnd hs

/-- A finished build, whatever the stores held. -/
theorem buildRuntime_spec (hnd : (order.map Prod.fst).Nodup)
    (hs : buildRuntime evidence order = .ok s') : BuiltFrom order s' := by
  have hempty : BuiltFrom [] ⟨∅, ∅⟩ := by
    refine ⟨fun entry h => absurd h List.not_mem_nil, ?_⟩
    intro setId
    show ((∅ : TreeMap CredentialSetId KeyPool)[setId]?).map (·.config) = none
    simp
  exact buildChannels_spec order [] _ hempty (by simpa using hnd) hs

end Build

/-! ## §6. The pools at work. -/

/-- In every reachable state the pools have the configurations of some build. -/
theorem runtimeSystem_builtFrom {config : ResolvedConfig} {s : Runtime}
    (h : (runtimeSystem config).Reachable s) :
    ∃ order : List (String × ResolvedPoolConfig), order.Perm config.pools ∧
      BuiltFrom order s := by
  refine TransitionSystem.Reachable.invariant (I := fun s => ∃ order :
    List (String × ResolvedPoolConfig), order.Perm config.pools ∧ BuiltFrom order s) ?_ ?_ h
  · intro s₀ hinit
    obtain ⟨order, evidence, hperm, hbuild⟩ := hinit
    have hnd : (order.map Prod.fst).Nodup :=
      (hperm.map Prod.fst).nodup_iff.mpr config.distinct
    exact ⟨order, hperm, buildRuntime_spec hnd hbuild⟩
  · intro s₀ call s₁ hbuilt hstep
    obtain ⟨order, hperm, hspec⟩ := hbuilt
    obtain ⟨pool, pool', hpool, hexec, rfl⟩ := hstep
    refine ⟨order, hperm, hspec.channels, ?_⟩
    intro setId
    show ((s₀.credentialSetRuntimes.insert call.credentialSetId pool')[setId]?).map
      (·.config) = _
    rw [TreeMap.getElem?_insert]
    -- a call changes the pool of its own set, and never the configuration of that
    by_cases hset : call.credentialSetId = setId
    · subst hset
      have hkept := PoolOp.exec_config call.op call.readings pool
      rw [hexec] at hkept
      have hold := hspec.shared call.credentialSetId
      rw [hpool] at hold
      rw [if_pos ReflCmp.compare_self, ← hold]
      exact congrArg some hkept
    · have hne : ¬ compare call.credentialSetId setId = .eq :=
        fun heq => hset (LawfulEqOrd.eq_of_compare heq)
      rw [if_neg hne]
      exact hspec.shared setId

/-- The pool of a channel, with the first channel of its set. -/
theorem BuiltFrom.pool {order : List (String × ResolvedPoolConfig)} {s : Runtime}
    (h : BuiltFrom order s) {entry : String × ResolvedPoolConfig} (hmem : entry ∈ order) :
    ∃ first pool, firstOfSet order entry.2.credentialSetId = some first ∧
      s.credentialSetRuntimes[entry.2.credentialSetId]? = some pool ∧
      pool.config = first.2.keyPool := by
  cases hf : firstOfSet order entry.2.credentialSetId with
  | none =>
      have hnone := List.find?_eq_none.mp hf entry hmem
      simp at hnone
  | some first =>
      have hshared := h.shared entry.2.credentialSetId
      rw [hf] at hshared
      obtain ⟨pool, hpool, hconfig⟩ := Option.map_eq_some_iff.mp hshared
      exact ⟨first, pool, rfl, hpool, hconfig⟩

/-! ## §7. A build with empty stores. -/

/-- The stores of a first start. -/
def emptyStores : StartupEvidence where
  lifecycleSnapshotAuthority := true
  persistedEvents := []
  loadLifecycleSnapshots := fun _ => .ok []

/-- A new pool refreshes to itself. -/
theorem refresh_ofConfig (config : KeyPoolConfig) (now : Instant) :
    (KeyPool.ofConfig config).refreshAvailableIndices now = KeyPool.ofConfig config := by
  have hkeys : (KeyPool.ofConfig config).cooldownDeadlines.keys = [] := rfl
  unfold KeyPool.refreshAvailableIndices
  rw [hkeys]
  rfl

/-- A new pool has a key to select. -/
theorem select_ofConfig {config : KeyPoolConfig} (hne : config.credentials ≠ []) (now : Instant) :
    ∃ selected, ((KeyPool.ofConfig config).select now).2 = .ok selected := by
  -- a new pool lists all of its credentials
  have hlisted : ∀ i, i ∈ (KeyPool.ofConfig config).availableIndices ↔
      i < (KeyPool.ofConfig config).credentials.length := by
    intro i
    show i ∈ TreeSet.ofList (List.range (KeyPool.ofConfig config).credentials.length) ↔ _
    simp
  have hpos : 0 < (KeyPool.ofConfig config).credentials.length := by
    show 0 < (config.credentials.map _).length
    rw [List.length_map]
    exact List.length_pos_iff.mpr hne
  unfold KeyPool.select
  rcases (KeyPool.ofConfig config).nextAvailableFrom_cases
    (KeyPool.ofConfig config).current now with ⟨i, hi, hn⟩ | hn
  · rw [hn]
    rw [refresh_ofConfig, hlisted] at hi
    show ∃ selected, ((KeyPool.ofConfig config).refreshAvailableIndices now).selectedKeyAt i =
      .ok selected
    rw [refresh_ofConfig]
    unfold KeyPool.selectedKeyAt
    rw [List.getElem?_eq_getElem hi]
    exact ⟨_, rfl⟩
  · -- the first position is listed, so the search does not fail
    exfalso
    have hfirst : 0 ∈ ((KeyPool.ofConfig config).refreshAvailableIndices
        now).availableIndicesFrom (KeyPool.ofConfig config).current := by
      rw [KeyPool.mem_availableIndicesFrom, refresh_ofConfig, hlisted]
      exact hpos
    have hnone := congrArg Prod.snd hn
    unfold KeyPool.nextAvailableFrom at hnone
    rw [List.head?_eq_none_iff.mp hnone] at hfirst
    cases hfirst

/-- With empty stores the build succeeds, and its pools are new. -/
theorem buildRuntime_emptyStores {order : List (String × ResolvedPoolConfig)}
    (himported : ∀ entry ∈ order, entry.2.keyPool.credentials ≠ []) :
    ∃ s : Runtime, buildRuntime emptyStores order = .ok s ∧
      ∀ (setId : CredentialSetId) (pool : KeyPool), s.credentialSetRuntimes[setId]? = some pool →
        ∃ config : KeyPoolConfig, config.credentials ≠ [] ∧ pool = KeyPool.ofConfig config := by
  have hloop : ∀ (rest : List (String × ResolvedPoolConfig)) (s : Runtime),
      (∀ entry ∈ rest, entry.2.keyPool.credentials ≠ []) →
      (∀ (setId : CredentialSetId) (pool : KeyPool), s.credentialSetRuntimes[setId]? = some pool →
        ∃ config : KeyPoolConfig, config.credentials ≠ [] ∧ pool = KeyPool.ofConfig config) →
      ∃ s' : Runtime, rest.foldlM (buildChannel emptyStores order) s = .ok s' ∧
        ∀ (setId : CredentialSetId) (pool : KeyPool), s'.credentialSetRuntimes[setId]? = some pool →
          ∃ config : KeyPoolConfig, config.credentials ≠ [] ∧ pool = KeyPool.ofConfig config := by
    intro rest
    induction rest with
    | nil => exact fun s _ hs => ⟨s, rfl, hs⟩
    | cons entry rest ih =>
        intro s hrest hs
        have hkeys := hrest entry List.mem_cons_self
        rw [List.foldlM_cons]
        cases hpool : s.credentialSetRuntimes[entry.2.credentialSetId]? with
        -- the set has its pool already, and the channel adds none
        | some pool =>
            have hone : buildChannel emptyStores order s entry = .ok { s with
                pools := s.pools.insert entry.1
                  (PoolState.fromConfig entry.2 entry.2.credentialSetId) } := by
              unfold buildChannel
              dsimp only
              rw [hpool]
            rw [hone]
            exact ih _ (fun e he => hrest e (List.mem_cons_of_mem _ he)) hs
        | none =>
            -- nothing is stored or logged, so the new pool stays as it was imported
            have hnew : KeyPool.new entry.2.keyPool = .ok (KeyPool.ofConfig entry.2.keyPool) := by
              unfold KeyPool.new
              rw [if_neg (by simpa using hkeys)]
            have hone : buildChannel emptyStores order s entry = .ok {
                pools := s.pools.insert entry.1
                  (PoolState.fromConfig entry.2 entry.2.credentialSetId)
                credentialSetRuntimes := s.credentialSetRuntimes.insert entry.2.credentialSetId
                  (KeyPool.ofConfig entry.2.keyPool) } := by
              unfold buildChannel RuntimeCredentialSet.fromConfig
              dsimp only
              rw [hpool, hnew]
              rfl
            rw [hone]
            refine ih _ (fun e he => hrest e (List.mem_cons_of_mem _ he)) ?_
            intro setId pool hfound
            have hfound' : (s.credentialSetRuntimes.insert entry.2.credentialSetId
                (KeyPool.ofConfig entry.2.keyPool))[setId]? = some pool := hfound
            rw [TreeMap.getElem?_insert] at hfound'
            split at hfound'
            · exact ⟨entry.2.keyPool, hkeys, (Option.some.inj hfound').symm⟩
            · exact hs setId pool hfound'
  refine hloop order _ himported ?_
  intro setId pool hfound
  simp at hfound

/-! ## §8. Every channel reaches its own upstream. -/

/-- Trimming once is enough. -/
theorem trimEndSlashes_idem (s : List Char) : trimEndSlashes (trimEndSlashes s) = trimEndSlashes s := by
  unfold trimEndSlashes
  rw [List.reverse_reverse, List.dropWhile_idempotent]

/-- A normalized base has nothing more to trim. -/
theorem trimEndSlashes_normalizeApiBase {field raw base : String}
    (h : normalizeApiBase field raw = .ok base) : trimEndSlashes base.toList = base.toList := by
  unfold normalizeApiBase at h
  dsimp only at h
  split at h
  · cases h
  · cases h
    rw [String.toList_ofList, trimEndSlashes_idem]

/-- A path that does not start with the version segment is appended as it is. -/
theorem upstreamUrl_plain (kind : ProviderKind) (base : String) :
    upstreamUrl kind base "/x" (some "") =
      String.ofList (trimEndSlashes base.toList ++ "/x".toList) := by
  have hpath : ∀ b, normalizeOpenaiUpstreamPath b "/x".toList = "/x".toList := by
    intro b
    unfold normalizeOpenaiUpstreamPath
    split
    · rfl
    · rfl
  unfold upstreamUrl
  cases kind with
  | openAiCompatible =>
      dsimp only
      rw [hpath]
      rfl
  | genericHttp => rfl

/-- Two bases that give the same urls are the same up to slashes at the end. -/
theorem base_eq_of_upstreamUrl_eq {kind : ProviderKind} {base base' : String}
    (h : upstreamUrl kind base "/x" (some "") = upstreamUrl kind base' "/x" (some "")) :
    trimEndSlashes base.toList = trimEndSlashes base'.toList := by
  rw [upstreamUrl_plain, upstreamUrl_plain] at h
  exact List.append_cancel_right (String.ofList_injective h)

/-- The order of the build decides: a channel can be given the base of any channel that
shares its set. -/
theorem selects_base_of_sharing_channel {config : ResolvedConfig}
    {a b : String × ResolvedPoolConfig} (ha : a ∈ config.pools) (hb : b ∈ config.pools)
    (hset : a.2.credentialSetId = b.2.credentialSetId) :
    ∃ (s : Runtime) (pool pool' : KeyPool) (selected : SelectedKey),
      (runtimeSystem config).Reachable s ∧
      s.pools[b.1]? = some (PoolState.fromConfig b.2 b.2.credentialSetId) ∧
      s.credentialSetRuntimes[b.2.credentialSetId]? = some pool ∧
      PoolOp.exec (Readings.at' 0) pool .select = (pool', .key (.ok selected)) ∧
      selected.apiBase = a.2.keyPool.apiBase := by
  -- visit `a` first, with empty stores, and select through `b`
  have hperm : (a :: config.pools.erase a).Perm config.pools :=
    (List.perm_cons_erase ha).symm
  obtain ⟨s, hbuild, hfresh⟩ := buildRuntime_emptyStores
    (fun entry hentry => config.imported entry (hperm.mem_iff.mp hentry))
  have hspec := buildRuntime_spec
    ((hperm.map Prod.fst).nodup_iff.mpr config.distinct) hbuild
  have hb' : b ∈ a :: config.pools.erase a := hperm.mem_iff.mpr hb
  obtain ⟨first, pool, hfirst, hpool, hconfig⟩ := hspec.pool hb'
  have hfirst' : firstOfSet (a :: config.pools.erase a) b.2.credentialSetId = some a := by
    unfold firstOfSet
    simp [hset]
  obtain rfl : a = first := Option.some.inj (hfirst'.symm.trans hfirst)
  obtain ⟨keyPool, hne, rfl⟩ := hfresh _ _ hpool
  obtain ⟨selected, hselected⟩ := select_ofConfig hne 0
  have hexec : PoolOp.exec (Readings.at' 0) (KeyPool.ofConfig keyPool) .select =
      (((KeyPool.ofConfig keyPool).select 0).1, .key (.ok selected)) := by
    show (((KeyPool.ofConfig keyPool).select 0).1,
      PoolOutput.key ((KeyPool.ofConfig keyPool).select 0).2) = _
    rw [hselected]
  refine ⟨s, _, _, selected, .init ⟨_, emptyStores, hperm, hbuild⟩, hspec.channels b hb',
    hpool, hexec, ?_⟩
  rw [PoolOp.exec_apiBase hexec, hconfig]

/-- In every reachable state of every build, each channel's requests, probes and
discoveries go to its own upstream with its own auth, just when the channels that share
a credential set share the base. -/
theorem own_upstream_iff (config : ResolvedConfig) :
    (∀ s, (runtimeSystem config).Reachable s → SendsToOwnUpstream config s) ↔
      SharedBasesAgree config := by
  constructor
  -- two channels share a set: a state in which the pool sends to the base of the first
  · intro hown a ha b hb hset
    obtain ⟨s, pool, pool', selected, hreach, hchannel, hpool, hexec, hbase⟩ :=
      selects_base_of_sharing_channel ha hb hset
    obtain ⟨state, pool₁, hstate, hpool₁, hsend⟩ := hown s hreach b hb
    obtain rfl := Option.some.inj (hchannel.symm.trans hstate)
    obtain rfl : pool = pool₁ := Option.some.inj (hpool.symm.trans hpool₁)
    have hforward := (hsend .select _ _ selected hexec).forward "/x" ""
    have hurl : upstreamUrl b.2.providerKind selected.apiBase "/x" (some "") =
        upstreamUrl b.2.providerKind b.2.keyPool.apiBase "/x" (some "") :=
      congrArg UpstreamRequest.url hforward
    rw [hbase] at hurl
    -- equal addresses of requests come from equal bases, since both are normalized
    have htrimmed := base_eq_of_upstreamUrl_eq hurl
    obtain ⟨fieldA, rawA, hnormA⟩ := config.normalized a ha
    obtain ⟨fieldB, rawB, hnormB⟩ := config.normalized b hb
    rw [trimEndSlashes_normalizeApiBase hnormA,
      trimEndSlashes_normalizeApiBase hnormB] at htrimmed
    exact String.toList_injective htrimmed
  -- the pool has the base of the first channel of the set, whatever the order
  · intro hagree s hreach entry hentry
    obtain ⟨order, hperm, hspec⟩ := runtimeSystem_builtFrom hreach
    have hentry' : entry ∈ order := hperm.mem_iff.mpr hentry
    obtain ⟨first, pool, hfirst, hpool, hconfig⟩ := hspec.pool hentry'
    refine ⟨_, pool, hspec.channels entry hentry', hpool, ?_⟩
    intro op r pool' selected hexec
    have hset : first.2.credentialSetId = entry.2.credentialSetId := by
      simpa using List.find?_some hfirst
    have hbase : selected.apiBase = entry.2.keyPool.apiBase := by
      rw [PoolOp.exec_apiBase hexec, hconfig]
      exact hagree first (hperm.mem_iff.mp (List.mem_of_find?_eq_some hfirst)) entry hentry hset
    refine ⟨?_, fun path => rfl, ?_⟩
    · intro path query
      unfold forwardUpstreamRequest ownRequest
      rw [hbase]
      rfl
    · unfold discoveryUpstreamRequest ownRequest
      rw [hbase]
      rfl

/-! ## §9. Two channels with one set and two bases. -/

/-- A channel of the shared set. -/
def sharingChannel (name apiBase : String) : ResolvedPoolConfig where
  configGeneration := 1
  providerId := "provider:openai_compatible"
  accountId := "account:" ++ name
  credentialSetId := "shared-set"
  providerKind := .openAiCompatible
  routingPolicy := ⟨false, 0, true, 20⟩
  authHeader := "authorization"
  authPrefix := "Bearer "
  keyPool := ⟨name, "shared-set", apiBase, [⟨"shared-key", .unknown⟩]⟩

/-- Channels `a` and `b` with bases of their own. -/
def sharingConfig : ResolvedConfig where
  pools := [("a", sharingChannel "a" "https://a.example/v1"),
    ("b", sharingChannel "b" "https://b.example/v1")]
  distinct := by decide
  normalized := by
    intro entry hentry
    refine ⟨"pool", entry.2.keyPool.apiBase, ?_⟩
    rcases List.mem_cons.mp hentry with rfl | hentry
    · decide
    · rw [List.mem_singleton.mp hentry]
      decide
  imported := by
    intro entry hentry
    rcases List.mem_cons.mp hentry with rfl | hentry
    · exact List.cons_ne_nil _ _
    · rw [List.mem_singleton.mp hentry]
      exact List.cons_ne_nil _ _

/-- A request of channel `b` goes to `a`'s host, with `b`'s auth data; the probe of `b` goes to
`b`'s.  The two channels share a credential set, and the pool of the set has the address of the
channel that was visited first. -/
theorem shared_set_sends_to_other_base :
    ∃ (s : Runtime) (state : PoolState) (pool pool' : KeyPool) (selected : SelectedKey),
      (runtimeSystem sharingConfig).Reachable s ∧ s.pools["b"]? = some state ∧
      s.credentialSetRuntimes[state.pool]? = some pool ∧
      PoolOp.exec (Readings.at' 0) pool .select = (pool', .key (.ok selected)) ∧
      (forwardUpstreamRequest state selected "/v1/chat/completions" "").url =
        "https://a.example/v1/chat/completions" ∧
      (probeUpstreamRequest state selected "/v1/chat/completions").url =
        "https://b.example/v1/chat/completions" ∧
      ¬ SendsToOwnUpstream sharingConfig s := by
  have ha : ("a", sharingChannel "a" "https://a.example/v1") ∈ sharingConfig.pools :=
    List.mem_cons_self
  have hb : ("b", sharingChannel "b" "https://b.example/v1") ∈ sharingConfig.pools :=
    List.mem_cons_of_mem _ List.mem_cons_self
  obtain ⟨s, pool, pool', selected, hreach, hchannel, hpool, hexec, hbase⟩ :=
    selects_base_of_sharing_channel ha hb rfl
  have hurl : (forwardUpstreamRequest (PoolState.fromConfig
      (sharingChannel "b" "https://b.example/v1") "shared-set") selected
      "/v1/chat/completions" "").url = "https://a.example/v1/chat/completions" := by
    show upstreamUrl .openAiCompatible selected.apiBase "/v1/chat/completions" (some "") = _
    rw [hbase]
    show upstreamUrl .openAiCompatible "https://a.example/v1" "/v1/chat/completions"
      (some "") = _
    decide
  have hprobe : upstreamUrl .openAiCompatible "https://b.example/v1" "/v1/chat/completions"
      none = "https://b.example/v1/chat/completions" := by
    decide
  refine ⟨s, _, pool, pool', selected, hreach, hchannel, hpool, hexec, hurl, hprobe, ?_⟩
  intro hown
  obtain ⟨state, pool₁, hstate, hpool₁, hsend⟩ := hown _ hb
  obtain rfl := Option.some.inj (hchannel.symm.trans hstate)
  obtain rfl : pool = pool₁ := Option.some.inj (hpool.symm.trans hpool₁)
  -- its own request would go to its own base, and this one does not
  have hforward := (hsend .select _ _ selected hexec).forward "/v1/chat/completions" ""
  have howned : (ownRequest (sharingChannel "b" "https://b.example/v1") selected.key
      "/v1/chat/completions" (some "")).url = "https://b.example/v1/chat/completions" := by
    show upstreamUrl .openAiCompatible "https://b.example/v1" "/v1/chat/completions"
      (some "") = _
    decide
  have hsame := (congrArg UpstreamRequest.url hforward).trans howned
  have hdiff := hurl.symm.trans hsame
  exact absurd hdiff (by decide)

end OneAiKey
