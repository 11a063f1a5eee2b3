/-
  OneAiKey.FailureState.Telemetry — what `apply_state_mutation` says that it has done
  (`src/failure_state_executor.rs`).

  A channel transition is reported if it was applied.  A credential transition is reported
  if the pool has the credential afterwards, and the pool ignores some reports:

    expiry, quota exhaustion   of a disabled credential
    cooldown                   of a disabled one, and of one that is not current any more

  Main results:
    * `stateOf_applyCredentialMutation`, `selectorGeneration_applyCredentialMutation` — what a
      credential mutation does to the pool and to the selector generation;
    * `credential_telemetry_truthful_iff` — when the telemetry is true.
-/
import OneAiKey.ChannelHealth.Soft
import OneAiKey.Pool.Durable

namespace OneAiKey

/-! ## §1. Telemetry. -/

/-- The telemetry of the state executor. -/
inductive RoutingTelemetry where
  | channelHealthTransitionApplied (requestId channelId state reason : String)
  | credentialTransitionApplied (requestId channelId credentialId state reason : String)
  deriving DecidableEq, Repr

def credentialTransitionTelemetry (snapshot : RequestSelectionSnapshot)
    (credentialId : CredentialId) (state : String) (reason : FailureReason) : RoutingTelemetry :=
  .credentialTransitionApplied snapshot.requestId snapshot.channelId credentialId state
    (reasonCode reason)

def channelHealthTransitionTelemetry (snapshot : RequestSelectionSnapshot)
    (health : ChannelHealth) (reason : FailureReason) : RoutingTelemetry :=
  let state := match health with
    | .available => "available"
    | .degraded _ => "degraded"
    | .coolingDown _ _ => "cooling_down"
    | .disabled _ => "disabled"
  .channelHealthTransitionApplied snapshot.requestId snapshot.channelId state (reasonCode reason)

/-- The telemetry that `apply_state_mutation` returns. -/
def stateMutationTelemetry (s : MutationState) (snapshot : RequestSelectionSnapshot)
    (r : Readings) : StateMutation → List RoutingTelemetry
  -- a mutation that was refused is not told
  | .markCredentialCoolingDown _ credentialId untilInstant reason =>
      if (applyCredentialMutation s credentialId r fun now pool =>
          (pool.applyCredentialCooldownUntil credentialId untilInstant (reasonText reason)
            now).1).2 then
        [credentialTransitionTelemetry snapshot credentialId "cooling_down" reason]
      else []
  | .expireCredential _ credentialId reason =>
      if (applyCredentialMutation s credentialId r fun now pool =>
          (pool.applyCredentialExpired credentialId (reasonText reason) now).1).2 then
        [credentialTransitionTelemetry snapshot credentialId "expired" reason]
      else []
  | .markCredentialQuotaExhausted _ credentialId reason =>
      if (applyCredentialMutation s credentialId r fun now pool =>
          (pool.applyCredentialQuotaExhausted credentialId (reasonText reason) now).1).2 then
        [credentialTransitionTelemetry snapshot credentialId "quota_exhausted" reason]
      else []
  | .markRelayBalanceChannelCoolingDown _ untilInstant reason =>
      let applied := (s.channel.applyAutomaticRelayBalanceSuppression
        snapshot.channelHealthGeneration untilInstant (reasonText reason) r.first).2
      if applied.isSome then
        [channelHealthTransitionTelemetry snapshot (.coolingDown untilInstant (reasonText reason))
          reason]
      else []
  | .markProviderAccountChannelCoolingDownOrDegraded _ _ _ untilInstant reason =>
      let health := match untilInstant with
        | some untilInstant => ChannelHealth.coolingDown untilInstant (reasonText reason)
        | none => .degraded (reasonText reason)
      if (s.channel.applyAutomaticChannelHealthTransition snapshot.channelHealthGeneration
          health).2 then
        [channelHealthTransitionTelemetry snapshot health reason]
      else []
  | .markChannelCoolingDown _ untilInstant reason =>
      let health := ChannelHealth.coolingDown untilInstant (reasonText reason)
      if (s.channel.applyAutomaticChannelHealthTransition snapshot.channelHealthGeneration
          health).2 then
        [channelHealthTransitionTelemetry snapshot health reason]
      else []
  | .noop _ => []

/-! ## §2. What the telemetry is about. -/

/-- The name that telemetry gives a state. -/
def CredentialState.telemetryName : CredentialState → String
  | available => "available"
  | coolingDown _ _ => "cooling_down"
  | expired _ => "expired"
  | quotaExhausted _ => "quota_exhausted"
  | disabled _ => "disabled"

/-- What the selector generation tells apart. -/
inductive SelectorKind where
  | available
  | coolingDown
  | expired
  | quotaExhausted
  | disabled
  deriving DecidableEq, Repr

def CredentialStateSnapshot.selectorKind : CredentialStateSnapshot → SelectorKind
  | available => .available
  | coolingDown _ _ => .coolingDown
  | expired _ => .expired
  | quotaExhausted _ => .quotaExhausted
  | disabled _ => .disabled

/-- The kind of a credential's state at a clock value. -/
def KeyPool.selectorKindAt (p : KeyPool) (id : CredentialId) (now : Instant) :
    Option SelectorKind :=
  (p.stateOf id).map fun state => (state.snapshot now now).selectorKind

/-- The credential that a mutation is about. -/
def StateMutation.credential : StateMutation → Option CredentialId
  | markCredentialCoolingDown _ credentialId _ _ | expireCredential _ credentialId _
  | markCredentialQuotaExhausted _ credentialId _ => some credentialId
  | _ => none

/-- The guards of the pool: a credential that is disabled, and a cooldown of one that is not
current. -/
def KeyPool.Ignores (p : KeyPool) (mutation : StateMutation) (id : CredentialId) : Prop :=
  (∃ reason, p.stateOf id = some (.disabled reason)) ∨
    (∃ channelId untilInstant reason,
      mutation = .markCredentialCoolingDown channelId id untilInstant reason) ∧
      p.isCurrentId id = false

/-- A mutation reports that the credential is now in a state exactly if it put it there, and
moves the selector generation on exactly if the kind of the credential's state changed. -/
structure TelemetryTruthful (s : MutationState) (snapshot : RequestSelectionSnapshot)
    (r : Readings) (mutation : StateMutation) : Prop where
  reported : ∀ id state,
    (∃ requestId channelId reason, .credentialTransitionApplied requestId channelId id state
        reason ∈ stateMutationTelemetry s snapshot r mutation) ↔
      mutation.credential = some id ∧ ¬ s.pool.Ignores mutation id ∧
        ∃ after, (applyStateMutation s snapshot r mutation).pool.stateOf id = some after ∧
          after.telemetryName = state
  generation : ∀ id, mutation.credential = some id →
    (applyStateMutation s snapshot r mutation).selectorGeneration =
      if s.pool.selectorKindAt id r.first =
          (applyStateMutation s snapshot r mutation).pool.selectorKindAt id r.third
      then s.selectorGeneration else s.selectorGeneration + 1

/-! ## §3. One credential mutation. -/

theorem sameSelectorStateKind_iff (before after : CredentialStateSnapshot) :
    sameSelectorStateKind before after = true ↔ before.selectorKind = after.selectorKind := by
  cases before <;> cases after <;> simp [sameSelectorStateKind, CredentialStateSnapshot.selectorKind]

section Mutation

variable (s : MutationState) (id : CredentialId) (r : Readings) (op : Instant → KeyPool → KeyPool)

theorem pool_applyCredentialMutation :
    (applyCredentialMutation s id r op).1.pool = op r.second s.pool := by
  unfold applyCredentialMutation
  dsimp only
  cases (op r.second s.pool).credentialSnapshotById id r.third r.third <;> rfl

/-- The mutation is reported if the pool has the credential afterwards. -/
theorem applied_applyCredentialMutation :
    (applyCredentialMutation s id r op).2 = ((op r.second s.pool).stateOf id).isSome := by
  have hstate := (op r.second s.pool).credentialSnapshotById_state id r.third r.third
  have hsome := congrArg Option.isSome hstate
  rw [Option.isSome_map, Option.isSome_map] at hsome
  rw [← hsome]
  unfold applyCredentialMutation
  dsimp only
  cases (op r.second s.pool).credentialSnapshotById id r.third r.third <;> rfl

theorem selectorGeneration_applyCredentialMutation
    (hkeeps : (s.pool.stateOf id).isSome = ((op r.second s.pool).stateOf id).isSome) :
    (applyCredentialMutation s id r op).1.selectorGeneration =
      if s.pool.selectorKindAt id r.first = (op r.second s.pool).selectorKindAt id r.third
      then s.selectorGeneration else s.selectorGeneration + 1 := by
  have hbefore := s.pool.credentialSnapshotById_state id r.first r.first
  have hafter := (op r.second s.pool).credentialSnapshotById_state id r.third r.third
  unfold applyCredentialMutation KeyPool.selectorKindAt
  dsimp only
  rw [hbefore]
  cases hstate : (op r.second s.pool).stateOf id with
  | none =>
      rw [hstate] at hkeeps hafter
      rw [Option.isSome_none, Option.isSome_eq_false_iff, Option.isNone_iff_eq_none] at hkeeps
      rw [Option.map_eq_none_iff.mp hafter, hkeeps]
      rfl
  -- the kinds before and after decide
  | some after =>
      rw [hstate] at hkeeps hafter
      obtain ⟨before, hbefore⟩ := Option.isSome_iff_exists.mp hkeeps
      obtain ⟨found, hfound, hshown⟩ := Option.map_eq_some_iff.mp hafter
      rw [hfound, hbefore]
      show advanceSelectorGeneration s.selectorGeneration (some (before.snapshot r.first r.first))
        found.state = if some _ = some _ then _ else _
      rw [hshown]
      refine if_congr ?_ rfl rfl
      rw [Option.any_some, sameSelectorStateKind_iff, Option.some_inj]

end Mutation

/-! ## §4. What the three mutations have in common. -/

/-- A mutation about the credential `id` is an operation of its pool, and is reported with one
state. -/
structure CredentialReport (mutation : StateMutation) (id : CredentialId) (op : PoolOp)
    (state : String) (reason : FailureReason) : Prop where
  keeps : op.KeepsCredentials
  pool : ∀ s snapshot r, (applyStateMutation s snapshot r mutation).pool =
    (op.exec (.at' r.second) s.pool).1
  generation : ∀ s snapshot r, (applyStateMutation s snapshot r mutation).selectorGeneration =
    (applyCredentialMutation s id r fun now pool =>
      (op.exec (.at' now) pool).1).1.selectorGeneration
  telemetry : ∀ s snapshot r, stateMutationTelemetry s snapshot r mutation =
    if (applyCredentialMutation s id r fun now pool => (op.exec (.at' now) pool).1).2 then
      [credentialTransitionTelemetry snapshot id state reason]
    else []
  /-- If the pool does not ignore it, the credential is in that state afterwards. -/
  effect : ∀ r isCurrent before, before.isDisabled = false →
    ((∃ channelId untilInstant reason,
      mutation = .markCredentialCoolingDown channelId id untilInstant reason) →
        isCurrent = true) →
    (op.effect r isCurrent id before).telemetryName = state

theorem enqueue_pool (result : MutationState × Bool)
    (request : AutomaticLifecyclePersistenceRequest) :
    (enqueueAutomaticLifecyclePersistence result request).pool = result.1.pool ∧
      (enqueueAutomaticLifecyclePersistence result request).selectorGeneration =
        result.1.selectorGeneration := by
  unfold enqueueAutomaticLifecyclePersistence
  cases result.2 <;> exact ⟨rfl, rfl⟩

theorem exists_credentialReport {mutation : StateMutation} {id : CredentialId}
    (h : mutation.credential = some id) :
    ∃ op state reason, CredentialReport mutation id op state reason := by
  cases mutation with
  | markCredentialCoolingDown channelId credentialId untilInstant reason =>
      cases h
      refine ⟨.applyCredentialCooldownUntil id untilInstant (reasonText reason), "cooling_down",
        reason, trivial, ?_, fun _ _ _ => rfl, fun _ _ _ => rfl, ?_⟩
      · intro s snapshot r
        exact pool_applyCredentialMutation s id r _
      · intro r isCurrent before hdisabled hcurrent
        have heffect : PoolOp.effect r isCurrent id before
            (.applyCredentialCooldownUntil id untilInstant (reasonText reason)) =
            .coolingDown untilInstant (reasonText reason) :=
          if_pos ⟨rfl, hcurrent ⟨_, _, _, rfl⟩, hdisabled⟩
        rw [heffect]
        rfl
  -- a durable state is also queued for the store, which leaves the pool as it is
  | expireCredential channelId credentialId reason =>
      cases h
      refine ⟨.applyCredentialExpired id (reasonText reason), "expired", reason, trivial, ?_, ?_,
        fun _ _ _ => rfl, ?_⟩
      · intro s snapshot r
        exact (enqueue_pool _ _).1.trans (pool_applyCredentialMutation s id r _)
      · intro s snapshot r
        exact (enqueue_pool _ _).2
      · intro r isCurrent before hdisabled _
        have heffect : PoolOp.effect r isCurrent id before
            (.applyCredentialExpired id (reasonText reason)) = .expired (reasonText reason) :=
          if_pos ⟨rfl, hdisabled⟩
        rw [heffect]
        rfl
  | markCredentialQuotaExhausted channelId credentialId reason =>
      cases h
      refine ⟨.applyCredentialQuotaExhausted id (reasonText reason), "quota_exhausted", reason,
        trivial, ?_, ?_, fun _ _ _ => rfl, ?_⟩
      · intro s snapshot r
        exact (enqueue_pool _ _).1.trans (pool_applyCredentialMutation s id r _)
      · intro s snapshot r
        exact (enqueue_pool _ _).2
      · intro r isCurrent before hdisabled _
        have heffect : PoolOp.effect r isCurrent id before
            (.applyCredentialQuotaExhausted id (reasonText reason)) =
            .quotaExhausted (reasonText reason) :=
          if_pos ⟨rfl, hdisabled⟩
        rw [heffect]
        rfl
  | markRelayBalanceChannelCoolingDown _ _ _ => cases h
  | markProviderAccountChannelCoolingDownOrDegraded _ _ _ _ _ => cases h
  | markChannelCoolingDown _ _ _ => cases h
  | noop _ => cases h

/-- The other mutations report no credential. -/
theorem not_credentialTransition {mutation : StateMutation} (h : mutation.credential = none)
    (s : MutationState) (snapshot : RequestSelectionSnapshot) (r : Readings)
    {requestId channelId id state reason : String} :
    .credentialTransitionApplied requestId channelId id state reason ∉
      stateMutationTelemetry s snapshot r mutation := by
  have honly : ∀ (applied : Bool) (health : ChannelHealth) (reason' : FailureReason),
      RoutingTelemetry.credentialTransitionApplied requestId channelId id state reason ∉
        if applied = true then [channelHealthTransitionTelemetry snapshot health reason'] else [] := by
    intro applied health reason' hmem
    cases applied with
    | false => cases hmem
    | true => cases List.mem_singleton.mp hmem
  cases mutation with
  | markCredentialCoolingDown _ _ _ _ => cases h
  | expireCredential _ _ _ => cases h
  | markCredentialQuotaExhausted _ _ _ => cases h
  | markRelayBalanceChannelCoolingDown _ _ _ => exact honly _ _ _
  | markProviderAccountChannelCoolingDownOrDegraded _ _ _ _ _ => exact honly _ _ _
  | markChannelCoolingDown _ _ _ => exact honly _ _ _
  | noop _ => nofun

/-! ## §5. When the telemetry is true. -/

section Truthful

variable {t : Instant} {s : MutationState} {snapshot : RequestSelectionSnapshot} {r : Readings}
  {mutation : StateMutation} {id : CredentialId} {op : PoolOp} {state : String}
  {reason : FailureReason}

/-- The states before and after. -/
theorem CredentialReport.stateOf (report : CredentialReport mutation id op state reason)
    (h : WellFormed t s.pool) (ht : t ≤ r.first) (id' : CredentialId) :
    (applyStateMutation s snapshot r mutation).pool.stateOf id' =
      (s.pool.stateOf id').map
        (op.effect (.at' r.second) (s.pool.isCurrentId id') id') := by
  rw [report.pool]
  exact h.stateOf_exec report.keeps (Nat.le_trans ht r.first_le) id'

/-- The transition is reported for every credential that the pool has. -/
theorem CredentialReport.telemetry_eq (report : CredentialReport mutation id op state reason)
    (h : WellFormed t s.pool) (ht : t ≤ r.first) :
    stateMutationTelemetry s snapshot r mutation =
      if (s.pool.stateOf id).isSome then
        [credentialTransitionTelemetry snapshot id state reason]
      else [] := by
  have hstate := @CredentialReport.stateOf t s snapshot r _ _ _ _ _ report h ht id
  rw [report.pool] at hstate
  rw [report.telemetry, applied_applyCredentialMutation, hstate, Option.isSome_map]

theorem CredentialReport.generation_eq (report : CredentialReport mutation id op state reason)
    (h : WellFormed t s.pool) (ht : t ≤ r.first) :
    (applyStateMutation s snapshot r mutation).selectorGeneration =
      if s.pool.selectorKindAt id r.first =
          (applyStateMutation s snapshot r mutation).pool.selectorKindAt id r.third
      then s.selectorGeneration else s.selectorGeneration + 1 := by
  have hstate := @CredentialReport.stateOf t s snapshot r _ _ _ _ _ report h ht id
  rw [report.pool] at hstate ⊢
  rw [report.generation]
  refine selectorGeneration_applyCredentialMutation s id r _ ?_
  rw [hstate, Option.isSome_map]

/-- A credential report that the pool does not ignore. -/
theorem CredentialReport.effect_of_not_ignored
    (report : CredentialReport mutation id op state reason)
    (hnot : ¬ s.pool.Ignores mutation id) {before : CredentialState}
    (hbefore : s.pool.stateOf id = some before) (r : Readings) :
    (op.effect r (s.pool.isCurrentId id) id before).telemetryName = state := by
  unfold KeyPool.Ignores at hnot
  rw [not_or] at hnot
  refine report.effect r _ before ?_ ?_
  · cases before with
    | disabled reason => exact absurd ⟨reason, hbefore⟩ hnot.1
    | available | coolingDown _ _ | expired _ | quotaExhausted _ => rfl
  · intro hcooldown
    exact eq_true_of_ne_false fun hstale => hnot.2 ⟨hcooldown, hstale⟩

end Truthful

/-- **The telemetry of a mutation is true** exactly if the pool does not have the credential,
or does not ignore the report. -/
theorem credential_telemetry_truthful_iff {pool : TimedPool} (hpool : poolSystem.Reachable pool)
    (s : MutationState) (hs : s.pool = pool.pool) (snapshot : RequestSelectionSnapshot)
    (r : Readings) (hr : pool.clock ≤ r.first) (mutation : StateMutation) :
    TelemetryTruthful s snapshot r mutation ↔
      ∀ id, mutation.credential = some id →
        s.pool.stateOf id = none ∨ ¬ s.pool.Ignores mutation id := by
  have hwf : WellFormed pool.clock s.pool := hs ▸ poolSystem_wellFormed hpool
  constructor
  · intro htruthful id hid
    obtain ⟨op, state, reason, report⟩ := exists_credentialReport hid
    by_cases hnone : s.pool.stateOf id = none
    · exact Or.inl hnone
    · -- a credential that the pool has is reported, so the report cannot have been ignored
      right
      have htelemetry := @CredentialReport.telemetry_eq _ s snapshot r _ _ _ _ _ report hwf hr
      rw [if_pos (Option.isSome_iff_ne_none.mpr hnone)] at htelemetry
      have hreported := (htruthful.reported id state).mp ⟨snapshot.requestId, snapshot.channelId,
        reasonCode reason, by rw [htelemetry]; exact List.mem_singleton_self _⟩
      exact hreported.2.1
  · intro hnotIgnored
    constructor
    · intro id state
      constructor
      · -- what is reported is about the mutation's credential and was not ignored
        rintro ⟨requestId, channelId, code, hmem⟩
        cases hcredential : mutation.credential with
        | none => exact absurd hmem (not_credentialTransition hcredential s snapshot r)
        | some id' =>
            obtain ⟨op, state', reason, report⟩ := exists_credentialReport hcredential
            rw [@CredentialReport.telemetry_eq _ s snapshot r _ _ _ _ _ report hwf hr] at hmem
            -- it is in the pool, for it is reported
            cases hbefore : s.pool.stateOf id' with
            | none =>
                rw [hbefore] at hmem
                cases hmem
            | some before =>
                rw [hbefore] at hmem
                cases List.mem_singleton.mp hmem
                have hnot := (hnotIgnored id hcredential).resolve_left (by rw [hbefore]; nofun)
                refine ⟨rfl, hnot, _, ?_,
                  report.effect_of_not_ignored hnot hbefore (.at' r.second)⟩
                rw [report.stateOf hwf hr, hbefore]
                rfl
      · -- a state that the credential was put into is the one that the report names
        rintro ⟨hcredential, hnot, after, hafter, rfl⟩
        obtain ⟨op, state', reason, report⟩ := exists_credentialReport hcredential
        rw [report.stateOf hwf hr] at hafter
        obtain ⟨before, hbefore, rfl⟩ := Option.map_eq_some_iff.mp hafter
        rw [@CredentialReport.telemetry_eq _ s snapshot r _ _ _ _ _ report hwf hr, hbefore,
          report.effect_of_not_ignored hnot hbefore]
        exact ⟨_, _, _, List.mem_singleton_self _⟩
    · intro id hcredential
      obtain ⟨op, state, reason, report⟩ := exists_credentialReport hcredential
      exact report.generation_eq hwf hr

/-! A report about a credential that an operator has disabled meanwhile. -/

def pairMutationState (pool : KeyPool) : MutationState where
  channel := .fromPoolState sharedAccountChannel true true
  failureDomains := .new [("provider", "account")]
  pool := pool
  selectorGeneration := 1
  persistence := ⟨true, false, []⟩

def pairDisabled : TimedPool := pairStart.after (.disableCredentialById firstId "operator") (.at' 1)

theorem pairDisabled_reachable : poolSystem.Reachable pairDisabled :=
  (TransitionSystem.Reachable.init pairStart_init).step
    (poolSystem_step pairStart (.disableCredentialById firstId "operator") (.at' 1) (by decide))

theorem pairDisabled_stateOf : pairDisabled.pool.stateOf firstId = some (.disabled "operator") := by
  decide

/-- The report is true of a credential that is available, and not of one that an operator has
disabled. -/
theorem credential_telemetry_truthful_iff_pair :
    TelemetryTruthful (pairMutationState pairStart.pool) retryAfterReport.snapshot (.at' 2)
        (.expireCredential "a" firstId .upstreamAuthInvalid) ∧
      ¬ TelemetryTruthful (pairMutationState pairDisabled.pool) retryAfterReport.snapshot
        (.at' 2) (.expireCredential "a" firstId .upstreamAuthInvalid) := by
  constructor
  · refine (credential_telemetry_truthful_iff (.init pairStart_init) _ rfl _ (.at' 2) (by decide)
      _).mpr ?_
    intro id hid
    cases hid
    right
    rintro (⟨reason, hdisabled⟩ | ⟨⟨_, _, _, hcooldown⟩, -⟩)
    · have havailable : pairStart.pool.stateOf firstId = some .available := by decide
      cases havailable.symm.trans hdisabled
    · cases hcooldown
  · intro htruthful
    have hnot := (credential_telemetry_truthful_iff pairDisabled_reachable _ rfl _ (.at' 2)
      (by decide) _).mp htruthful firstId rfl
    rcases hnot with hnone | hnot
    · cases pairDisabled_stateOf.symm.trans hnone
    · exact hnot (Or.inl ⟨"operator", pairDisabled_stateOf⟩)

/-- The credential stays disabled, and is reported as expired. -/
theorem ignored_report_is_reported :
    poolSystem.Reachable pairDisabled ∧
      stateMutationTelemetry (pairMutationState pairDisabled.pool) retryAfterReport.snapshot
          (.at' 2) (.expireCredential "a" firstId .upstreamAuthInvalid) =
        [.credentialTransitionApplied "r" "a" firstId "expired" "upstream_auth_invalid"] ∧
      (applyStateMutation (pairMutationState pairDisabled.pool) retryAfterReport.snapshot
          (.at' 2) (.expireCredential "a" firstId .upstreamAuthInvalid)).pool.stateOf firstId =
        some (.disabled "operator") ∧
      ¬ TelemetryTruthful (pairMutationState pairDisabled.pool) retryAfterReport.snapshot
        (.at' 2) (.expireCredential "a" firstId .upstreamAuthInvalid) := by
  have htelemetry : stateMutationTelemetry (pairMutationState pairDisabled.pool)
      retryAfterReport.snapshot (.at' 2) (.expireCredential "a" firstId .upstreamAuthInvalid) =
        [.credentialTransitionApplied "r" "a" firstId "expired" "upstream_auth_invalid"] := by
    decide
  have hstays : (applyStateMutation (pairMutationState pairDisabled.pool)
      retryAfterReport.snapshot (.at' 2)
        (.expireCredential "a" firstId .upstreamAuthInvalid)).pool.stateOf firstId =
          some (.disabled "operator") := by
    decide
  refine ⟨pairDisabled_reachable, htelemetry, hstays, ?_⟩
  intro htruthful
  obtain ⟨-, -, after, hafter, hname⟩ := (htruthful.reported firstId "expired").mp
    ⟨_, _, _, htelemetry ▸ List.mem_singleton_self _⟩
  rw [hstays] at hafter
  cases hafter
  exact absurd hname (by decide)

end OneAiKey
