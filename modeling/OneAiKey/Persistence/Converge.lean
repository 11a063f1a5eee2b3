/-
  OneAiKey.Persistence.Converge — when the store keeps up with the pools.

  The rows that count are the settled ones: what the store will hold when the
  worker has written every request that waits for it.  A command writes the row
  before it changes the pool, so its credential is out of step as long as its
  window is open, from the write to the end of the command.

  The invariant is `Converging`: every credential with no open window has the
  durable state of its pool as its settled row.  At a quiet moment no window is
  open and nothing waits, so the settled rows are the rows.

  Main results:
    * `Converging.next` — a step that meets `Settling` keeps the invariant;
    * `durable_state_converges` — in runs of such steps no ignored report is handed
      to the worker, and every quiet moment finds store and pools in agreement;
    * `disabled_row_overwritten` — a report about a disabled credential ends with
      an expired row.
-/
import OneAiKey.Persistence

namespace OneAiKey

/-! ## §1. Windows. -/

/-- Does the command have its window open over a row? -/
def InFlightCommand.WritesTo (inFlight : InFlightCommand) (key : CredentialKey) : Prop :=
  inFlight.phase.Writing ∧ inFlight.phase.credentialSetId = some key.1 ∧
    inFlight.command.credentialId = key.2

namespace LifecycleWorld

def InWindow (w : LifecycleWorld) (key : CredentialKey) : Prop :=
  ∃ (index : Nat) (inFlight : InFlightCommand),
    w.commands[index]? = some inFlight ∧ inFlight.WritesTo key

/-- A command other than the one at an index has its window open. -/
def InOtherWindow (w : LifecycleWorld) (index : Nat) (key : CredentialKey) : Prop :=
  ∃ (index' : Nat) (inFlight : InFlightCommand),
    index' ≠ index ∧ w.commands[index']? = some inFlight ∧ inFlight.WritesTo key

/-! ## §2. The condition. -/

/-- The settled row of a credential is its durable state in a pool. -/
def Settles (w : LifecycleWorld) (credentialSetId : CredentialSetId) (pool : KeyPool)
    (credentialId : CredentialId) : Prop :=
  ∀ l, pool.lifecycleOf credentialId = some l → w.settled (credentialSetId, credentialId) = l

/-- A report finds its credential not disabled and room in the queue, or neither; and a
cooldown does not end an exclusion. -/
def ReportSettles (w : LifecycleWorld) (credentialSetId : CredentialSetId) (pool : KeyPool)
    (mutation : StateMutation) : Prop :=
  match mutation.automatic with
  | some (credentialId, state) => ∀ l, pool.lifecycleOf credentialId = some l →
      if l.IsDisabled then ¬ w.persistence.Accepts
      else w.persistence.Accepts ∨ l = state.intoLifecycleState ∨
        w.InWindow (credentialSetId, credentialId)
  | none => ∀ credentialId untilInstant reason,
      mutation.coolingDown = some (credentialId, untilInstant, reason) →
        pool.isCurrentId credentialId = true → ∀ l, pool.lifecycleOf credentialId = some l →
          l = .available ∨ l.IsDisabled ∨ w.InWindow (credentialSetId, credentialId)

/-- The worker's write succeeds, or makes no difference. -/
def PersistSettles (w : LifecycleWorld) (fault : Option String) : Prop :=
  ∀ request, w.received = some request →
    w.store.Accepts request.credentialSetId request.credentialId fault ∨
    WriteBehind.waiting (w.persistence.requests.map (·.write)) request.write.1 ≠ none ∨
    w.store.rows request.write.1 = request.write.2 ∨
    w.InWindow request.write.1

/-- The last phase of a command finds the row as the command leaves it, with nothing else
on its way, or another command will look after it. -/
def PhaseSettles (w : LifecycleWorld) (index : Nat) (inFlight : InFlightCommand)
    (credentialSetId : CredentialSetId) (set : RuntimeCredentialSet) (inputs : CommandInputs) :
    Prop :=
  let command := inFlight.command
  let key := (credentialSetId, command.credentialId)
  w.InOtherWindow index key ∨
  match inFlight.phase with
  | .recorded precondition =>
      match command.checkAgain inputs (w.commandWorld set) precondition with
      | .error _ => True
      | .ok (.alreadyApplied _) => w.Settles credentialSetId set.pool command.credentialId
      | .ok (.ready _) => w.settled key = command.kind.commandedState command.reason
  | .failed precondition _ =>
      command.update precondition = none →
        w.Settles credentialSetId set.pool command.credentialId
  | .compensating _ _ snapshot =>
      (w.store.Accepts credentialSetId command.credentialId inputs.fault →
        ∀ l, set.pool.lifecycleOf command.credentialId = some l →
          (WriteBehind.waiting w.pendingWrites key).getD snapshot.state.lifecycleState = l) ∧
      (¬ w.store.Accepts credentialSetId command.credentialId inputs.fault →
        w.Settles credentialSetId set.pool command.credentialId)
  | _ => True

def Settling (w : LifecycleWorld) : LifecycleEvent → Prop
  | .report address _ _ _ _ mutation => ∀ set, w.sets address = some set →
      w.ReportSettles address.credentialSetId set.pool mutation
  | .persist fault => w.PersistSettles fault
  | .advance index inputs => ∀ inFlight credentialSetId set,
      w.commands[index]? = some inFlight →
      inFlight.phase.credentialSetId = some credentialSetId →
      w.sets ⟨inFlight.runtime, credentialSetId⟩ = some set →
        w.PhaseSettles index inFlight credentialSetId set inputs
  | _ => True

/-! ## §3. The invariant. -/

structure Converging (w : LifecycleWorld) : Prop where
  wellFormed : ∀ address set, w.sets address = some set → WellFormed w.clock set.pool
  oneRuntime : ∀ address set, w.sets address = some set → address.runtime = 0
  settles : ∀ address set id, w.sets address = some set →
    ¬ w.InWindow (address.credentialSetId, id) → w.Settles address.credentialSetId set.pool id
  ignored : w.ignored = []

end LifecycleWorld

namespace LifecycleWorld

/-! ## §4. Frames. -/

section Frames

variable {w w' : LifecycleWorld}

/-- A step that leaves the pools alone keeps the invariant if it keeps the settled rows of
the credentials with no open window. -/
theorem Converging.of_same_sets (h : w.Converging) (hsets : w'.sets = w.sets)
    (hclock : w'.clock = w.clock) (hignored : w'.ignored = w.ignored)
    (hkeys : ∀ key, ¬ w'.InWindow key → ¬ w.InWindow key ∧ w'.settled key = w.settled key) :
    w'.Converging where
  wellFormed := by
    rw [hsets, hclock]
    exact h.wellFormed
  oneRuntime := by
    rw [hsets]
    exact h.oneRuntime
  settles := by
    intro address set id hset hwindow l hl
    rw [hsets] at hset
    obtain ⟨hbefore, hsettled⟩ := hkeys _ hwindow
    rw [hsettled]
    exact h.settles address set id hset hbefore l hl
  ignored := hignored.trans h.ignored

/-- A step about one pool keeps the invariant if it keeps it there, and leaves the settled
rows of the other sets alone. -/
theorem Converging.of_update (h : w.Converging) {address : SetAddress}
    {set set' : RuntimeCredentialSet} (hset : w.sets address = some set)
    (hsets : w'.sets = Function.update w.sets address (some set'))
    (hclock : w.clock ≤ w'.clock) (hignored : w'.ignored = [])
    (hwf : WellFormed w'.clock set'.pool)
    (hsettles : ∀ id, ¬ w'.InWindow (address.credentialSetId, id) →
      w'.Settles address.credentialSetId set'.pool id)
    (hothers : ∀ setId id, setId ≠ address.credentialSetId →
      ¬ w'.InWindow (setId, id) →
        ¬ w.InWindow (setId, id) ∧ w'.settled (setId, id) = w.settled (setId, id)) :
    w'.Converging where
  wellFormed := by
    intro address' found hfound
    rw [hsets, Function.update_apply] at hfound
    by_cases haddress : address' = address
    · rw [if_pos haddress] at hfound
      cases hfound
      exact hwf
    · rw [if_neg haddress] at hfound
      exact (h.wellFormed address' found hfound).mono hclock
  oneRuntime := by
    intro address' found hfound
    rw [hsets, Function.update_apply] at hfound
    by_cases haddress : address' = address
    · rw [haddress]
      exact h.oneRuntime address set hset
    · rw [if_neg haddress] at hfound
      exact h.oneRuntime address' found hfound
  settles := by
    intro address' found id hfound hwindow
    rw [hsets, Function.update_apply] at hfound
    by_cases haddress : address' = address
    · rw [if_pos haddress] at hfound
      cases hfound
      rw [haddress] at hwindow ⊢
      exact hsettles id hwindow
    · rw [if_neg haddress] at hfound
      -- there is one runtime, so another pool belongs to another set
      have hsetId : address'.credentialSetId ≠ address.credentialSetId := by
        intro heq
        apply haddress
        have hruntime := h.oneRuntime address set hset
        have hruntime' := h.oneRuntime address' found hfound
        cases address
        cases address'
        simp_all
      intro l hl
      obtain ⟨hbefore, hsettled⟩ := hothers _ id hsetId hwindow
      rw [hsettled]
      exact h.settles address' found id hfound hbefore l hl
  ignored := hignored

end Frames

/-! ## §5. The requests and the worker. -/

/-- A selection changes no durable state. -/
theorem lifecycleOf_selection {t : Instant} {pool : KeyPool} (h : WellFormed t pool) {op : PoolOp}
    (hop : op.isSelection = true) {r : Readings} (ht : t ≤ r.first) (id : CredentialId) :
    (op.exec r pool).1.lifecycleOf id = pool.lifecycleOf id := by
  have hdurable : op.IsDurable := by
    cases op <;> first | exact ⟨trivial, fun h => h⟩ | cases hop
  have heffect : (op.lifecycleEffect id ·) = fun l => l := by
    funext l
    cases op <;> first | rfl | cases hop
  rw [h.lifecycleOf_exec hdurable ht, heffect, Option.map_id']

theorem Converging.next_select {w w' : LifecycleWorld} (h : w.Converging) {address : SetAddress}
    {op : PoolOp} {r : Readings} (hnext : w.next (.select address op r) = some w') :
    w'.Converging := by
  obtain ⟨set, hset, hguard⟩ := Option.bind_eq_some_iff.mp hnext
  by_cases hselect : op.isSelection = true ∧ w.clock ≤ r.first
  · rw [if_pos hselect] at hguard
    cases hguard
    have hwf := h.wellFormed address set hset
    have hclock := Nat.le_trans hselect.2 r.first_le_third
    refine h.of_update hset rfl hclock h.ignored (op.exec_wellFormed hwf hselect.2) ?_ ?_
    · intro id hwindow l hl
      rw [lifecycleOf_selection hwf hselect.1 hselect.2] at hl
      exact h.settles address set id hset hwindow l hl
    · intro setId id hsetId hwindow
      exact ⟨hwindow, rfl⟩
  · rw [if_neg hselect] at hguard
    cases hguard

theorem Converging.next_receive {w w' : LifecycleWorld} (h : w.Converging)
    (hnext : w.next .receive = some w') : w'.Converging := by
  unfold LifecycleWorld.next at hnext
  cases hreceived : w.received with
  | some request =>
      rw [hreceived] at hnext
      cases hnext
  | none =>
      cases hrequests : w.persistence.requests with
      | nil =>
          rw [hreceived, hrequests] at hnext
          cases hnext
      | cons request requests =>
          rw [hreceived, hrequests] at hnext
          cases hnext
          -- the request moves from the queue to the worker and is still to be written
          refine h.of_same_sets rfl rfl rfl ?_
          intro key hwindow
          refine ⟨hwindow, ?_⟩
          show WriteBehind.settle w.store.rows ((request :: requests).map (·.write)) key = _
          unfold settled pendingWrites
          rw [hreceived, hrequests]
          rfl

/-- A write of the worker that succeeds has arrived, one that fails is lost. -/
theorem Converging.next_persist {w w' : LifecycleWorld} (h : w.Converging)
    {fault : Option String} (hsettling : w.PersistSettles fault)
    (hnext : w.next (.persist fault) = some w') : w'.Converging := by
  obtain ⟨request, hreceived, rfl⟩ := Option.map_eq_some_iff.mp hnext
  have hpending : w.pendingWrites =
      request.write :: w.persistence.requests.map (·.write) := by
    unfold pendingWrites
    rw [hreceived]
    rfl
  refine h.of_same_sets rfl rfl rfl ?_
  intro key hwindow
  refine ⟨hwindow, ?_⟩
  show WriteBehind.settle
      (w.store.persistLifecycleUpdate request.update request.evidence fault).1.rows
      (w.persistence.requests.map (·.write)) key = WriteBehind.settle w.store.rows _ key
  rw [hpending]
  cases hwrite : w.store.persistLifecycleUpdate request.update request.evidence fault with
  | mk store result =>
      cases result with
      -- the write went through: what was waiting first is now the row
      | ok historyId =>
          rw [(CredentialStore.written_persistLifecycleUpdate hwrite).rows]
          exact congrFun (WriteBehind.settle_drain w.store.rows request.write _) key
      | error err =>
          have hwritten := CredentialStore.written_persistLifecycleUpdate hwrite
          rw [hwritten.unchanged]
          -- the write is lost, which must not change what its key settles to
          refine (WriteBehind.settle_drop ?_).symm
          intro hkey hwaiting
          rcases hsettling request hreceived with haccepts | hlater | hrow | hopen
          · obtain ⟨store', historyId, hok⟩ := hwritten.exists_ok haccepts
            cases hok
          · rw [hkey] at hwaiting
            exact absurd hwaiting hlater
          · rw [hkey]
            exact hrow
          · rw [hkey] at hwindow
            exact absurd hopen hwindow

end LifecycleWorld

/-! ## §6. A failure report. -/

/-- A cooldown of the current credential ends an exclusion that is not an operator's. -/
theorem WellFormed.lifecycleOf_cooldown {t : Instant} {pool : KeyPool} (h : WellFormed t pool)
    (id' : CredentialId) (d : Instant) (reason : String) {r : Readings} (ht : t ≤ r.first)
    (id : CredentialId) :
    ((PoolOp.applyCredentialCooldownUntil id' d reason).exec r pool).1.lifecycleOf id =
      (pool.lifecycleOf id).map fun l =>
        if id' = id ∧ pool.isCurrentId id = true ∧ ¬ l.IsDisabled then .available else l := by
  unfold KeyPool.lifecycleOf
  have hkeeps : (PoolOp.applyCredentialCooldownUntil id' d reason).KeepsCredentials := trivial
  rw [h.stateOf_exec hkeeps ht id]
  cases pool.stateOf id with
  | none => rfl
  | some s =>
      show some (PoolOp.effect r (pool.isCurrentId id) id s
        (.applyCredentialCooldownUntil id' d reason)).lifecycleState = some _
      by_cases hid : id' = id
      · cases hcurrent : pool.isCurrentId id <;> cases s <;>
          simp [PoolOp.effect, hid, CredentialState.isDisabled, CredentialState.lifecycleState,
            CredentialLifecycleState.IsDisabled]
      · simp [PoolOp.effect, hid]

/-- What an exclusion report does to the durable state behind an id. -/
theorem WellFormed.lifecycleOf_automatic {t : Instant} {pool : KeyPool} (h : WellFormed t pool)
    (id : CredentialId) (state : AutomaticLifecyclePersistenceState) {r : Readings}
    (ht : t ≤ r.first) (id' : CredentialId) :
    ((state.poolOp id).exec r pool).1.lifecycleOf id' =
      (pool.lifecycleOf id').map fun l =>
        if id = id' ∧ ¬ l.IsDisabled then state.intoLifecycleState else l := by
  rw [h.lifecycleOf_exec (state.poolOp_isDurable id) ht]
  congr 1
  funext l
  exact state.lifecycleEffect_poolOp id id' l

namespace LifecycleWorld

/-- The requests that a report has handed over wait behind the others. -/
theorem pendingWrites_afterReport (w : LifecycleWorld) (address : SetAddress) (r : Readings)
    {s : MutationState} {handed : List AutomaticLifecyclePersistenceRequest}
    (h : s.persistence.requests = w.persistence.requests ++ handed) :
    (w.afterReport address r s).pendingWrites = w.pendingWrites ++ handed.map (·.write) := by
  show (w.received.toList ++ s.persistence.requests).map (·.write) = _
  unfold pendingWrites
  rw [h, ← List.append_assoc, List.map_append]

theorem ignored_afterReport (w : LifecycleWorld) (address : SetAddress) (r : Readings)
    {s : MutationState} {handed : List AutomaticLifecyclePersistenceRequest}
    (h : s.persistence.requests = w.persistence.requests ++ handed) :
    (w.afterReport address r s).ignored = w.ignored ++ handed.filter (ignoredBy s.pool) := by
  show w.ignored ++ (s.persistence.requests.drop w.persistence.requests.length).filter _ = _
  rw [h, List.drop_left]

/-- A report that hands nothing over keeps the invariant if it leaves the durable states of
the credentials with no open window alone. -/
theorem Converging.afterReport_of_nothing {w : LifecycleWorld} (h : w.Converging)
    {address : SetAddress} {set : RuntimeCredentialSet} (hset : w.sets address = some set)
    {r : Readings} (hclock : w.clock ≤ r.first) {s : MutationState}
    (hwf : WellFormed r.third s.pool)
    (hhanded : s.persistence.requests = w.persistence.requests ++ [])
    (hsame : ∀ id, ¬ w.InWindow (address.credentialSetId, id) →
      s.pool.lifecycleOf id = set.pool.lifecycleOf id) :
    (w.afterReport address r s).Converging := by
  have hsettled : (w.afterReport address r s).settled = w.settled := by
    show WriteBehind.settle w.store.rows (w.afterReport address r s).pendingWrites = _
    rw [w.pendingWrites_afterReport address r hhanded, List.map_nil, List.append_nil]
    rfl
  have hignored : (w.afterReport address r s).ignored = [] := by
    rw [w.ignored_afterReport address r hhanded, h.ignored]
    rfl
  refine h.of_update hset rfl (Nat.le_trans hclock r.first_le_third) hignored hwf ?_ ?_
  · intro id hwindow l hl
    rw [hsettled]
    rw [hsame id hwindow] at hl
    exact h.settles address set id hset hwindow l hl
  · intro setId id _ hwindow
    exact ⟨hwindow, congrFun hsettled _⟩

/-- A report of something else than an exclusion. -/
theorem Converging.next_otherReport {w : LifecycleWorld} (h : w.Converging)
    {address : SetAddress} {set : RuntimeCredentialSet} (hset : w.sets address = some set)
    {channel : ChannelRuntime} {failureDomains : FailureDomainRegistry}
    {snapshot : RequestSelectionSnapshot} {r : Readings} {mutation : StateMutation}
    (hclock : w.clock ≤ r.first) (hmutation : mutation.automatic = none)
    (hsettling : w.ReportSettles address.credentialSetId set.pool mutation) :
    (w.afterReport address r (applyStateMutation
      (w.mutationState set channel failureDomains) snapshot r mutation)).Converging := by
  obtain ⟨hqueue, hpool⟩ := applyStateMutation_other hmutation
    (w.mutationState set channel failureDomains) snapshot r
  generalize applyStateMutation (w.mutationState set channel failureDomains) snapshot r
    mutation = s at hqueue hpool ⊢
  have hwf := h.wellFormed address set hset
  have hsecond := Nat.le_trans hclock r.first_le
  have hhanded : s.persistence.requests = w.persistence.requests ++ [] := by
    rw [hqueue, List.append_nil]
    rfl
  cases hcooldown : mutation.coolingDown with
  | none =>
      rw [hcooldown] at hpool
      apply h.afterReport_of_nothing hset hclock _ hhanded
      · intro id _
        rw [hpool]
        rfl
      · rw [hpool]
        exact hwf.mono (Nat.le_trans hclock r.first_le_third)
  | some cooldown =>
      obtain ⟨id', d, reason⟩ := cooldown
      rw [hcooldown] at hpool
      apply h.afterReport_of_nothing hset hclock _ hhanded
      · intro id hwindow
        rw [hpool]
        show ((PoolOp.applyCredentialCooldownUntil id' d reason).exec (.at' r.second)
          set.pool).1.lifecycleOf id = _
        rw [hwf.lifecycleOf_cooldown id' d reason (r := .at' r.second) hsecond id]
        unfold ReportSettles at hsettling
        rw [hmutation] at hsettling
        cases hl : set.pool.lifecycleOf id with
        | none => rfl
        | some l =>
            show some (if id' = id ∧ set.pool.isCurrentId id = true ∧ ¬ l.IsDisabled then
              CredentialLifecycleState.available else l) = some l
            -- does the cooldown end a durable state of the current credential?
            by_cases hends : id' = id ∧ set.pool.isCurrentId id = true ∧ ¬ l.IsDisabled
            · rw [if_pos hends]
              obtain ⟨rfl, hcurrent, hnotDisabled⟩ := hends
              rcases hsettling id' d reason hcooldown hcurrent l hl with
                havailable | hdisabled | hopen
              · rw [havailable]
              · exact absurd hdisabled hnotDisabled
              · exact absurd hopen hwindow
            · rw [if_neg hends]
      · rw [hpool]
        exact ((PoolOp.applyCredentialCooldownUntil id' d reason).exec_wellFormed hwf
          (r := .at' r.second) hsecond).mono r.second_le

/-- A report of an expiry or of a quota exhaustion. -/
theorem Converging.next_automaticReport {w : LifecycleWorld} (h : w.Converging)
    {address : SetAddress} {set : RuntimeCredentialSet} (hset : w.sets address = some set)
    {channel : ChannelRuntime} {failureDomains : FailureDomainRegistry}
    {snapshot : RequestSelectionSnapshot} {r : Readings} {mutation : StateMutation}
    (hchannel : channel.poolState.credentialSetId = address.credentialSetId)
    (hclock : w.clock ≤ r.first) {id : CredentialId}
    {state : AutomaticLifecyclePersistenceState}
    (hmutation : mutation.automatic = some (id, state))
    (hsettling : w.ReportSettles address.credentialSetId set.pool mutation) :
    (w.afterReport address r (applyStateMutation
      (w.mutationState set channel failureDomains) snapshot r mutation)).Converging := by
  obtain ⟨request, hsetId, hid, hstate, hpool, hqueue⟩ := applyStateMutation_automatic hmutation
    (w.mutationState set channel failureDomains) snapshot r
  generalize applyStateMutation (w.mutationState set channel failureDomains) snapshot r
    mutation = s at hqueue hpool ⊢
  have hwf := h.wellFormed address set hset
  have hsecond := Nat.le_trans hclock r.first_le
  have hwf' : WellFormed r.third s.pool := by
    rw [hpool]
    exact ((state.poolOp id).exec_wellFormed hwf (r := .at' r.second) hsecond).mono r.second_le
  have hlifecycle : ∀ id', s.pool.lifecycleOf id' = (set.pool.lifecycleOf id').map fun l =>
      if id = id' ∧ ¬ l.IsDisabled then state.intoLifecycleState else l := by
    rw [hpool]
    exact hwf.lifecycleOf_automatic id state (r := .at' r.second) hsecond
  have hwrite : request.write =
      ((address.credentialSetId, id), state.intoLifecycleState) := by
    unfold AutomaticLifecyclePersistenceRequest.write
    rw [hsetId, hid, hstate]
    exact congrArg (fun setId => ((setId, id), state.intoLifecycleState)) hchannel
  -- the request is handed over if the pool has the credential and the queue takes it
  have hrequests : s.persistence.requests = w.persistence.requests ++
      if (set.pool.lifecycleOf id).isSome = true ∧ w.persistence.Accepts then [request] else [] := by
    rw [hqueue, ← hpool, hlifecycle, Option.isSome_map]
    by_cases hknown : (set.pool.lifecycleOf id).isSome = true
    · rw [if_pos hknown, LifecyclePersistenceQueue.requests_tryEnqueue]
      simp only [hknown, true_and]
      rfl
    · rw [if_neg hknown, if_neg (fun hboth => hknown hboth.1), List.append_nil]
      rfl
  -- nothing else changes
  have hother : ∀ id', id ≠ id' → s.pool.lifecycleOf id' = set.pool.lifecycleOf id' := by
    intro id' hne
    rw [hlifecycle id']
    simp only [hne, false_and, if_false, Option.map_id']
  unfold ReportSettles at hsettling
  rw [hmutation] at hsettling
  dsimp only at hsettling
  by_cases hhanded : (set.pool.lifecycleOf id).isSome = true ∧ w.persistence.Accepts
  · rw [if_pos hhanded] at hrequests
    obtain ⟨hknown, haccepts⟩ := hhanded
    obtain ⟨l₀, hl₀⟩ := Option.isSome_iff_exists.mp hknown
    have hnotDisabled : ¬ l₀.IsDisabled := by
      intro hdisabled
      have hrefused := hsettling l₀ hl₀
      rw [if_pos hdisabled] at hrefused
      exact hrefused haccepts
    have hnow : s.pool.lifecycleOf id = some state.intoLifecycleState := by
      rw [hlifecycle id, hl₀]
      exact congrArg some (if_pos ⟨rfl, hnotDisabled⟩)
    have hsettled : (w.afterReport address r s).settled =
        Function.update w.settled (address.credentialSetId, id) state.intoLifecycleState := by
      show WriteBehind.settle w.store.rows (w.afterReport address r s).pendingWrites = _
      rw [w.pendingWrites_afterReport address r hrequests, List.map_cons, List.map_nil,
        WriteBehind.settle_append, hwrite]
      rfl
    have hignored : (w.afterReport address r s).ignored = [] := by
      rw [w.ignored_afterReport address r hrequests, h.ignored]
      have hheld : ignoredBy s.pool request = false := by
        unfold ignoredBy
        rw [hid, hstate, hnow]
        exact bne_self_eq_false _
      simp [hheld]
    refine h.of_update hset rfl (Nat.le_trans hclock r.first_le_third) hignored hwf' ?_ ?_
    · intro id' hwindow l hl
      rw [hsettled]
      by_cases hsame : id = id'
      · rw [← hsame] at hl ⊢
        rw [Function.update_self]
        exact Option.some.inj (hnow.symm.trans hl)
      · have hkey : ((address.credentialSetId, id') : CredentialKey) ≠
            (address.credentialSetId, id) := by
          intro heq
          exact hsame (Prod.ext_iff.mp heq).2.symm
        rw [Function.update_of_ne hkey]
        rw [show s.pool.lifecycleOf id' = _ from hother id' hsame] at hl
        exact h.settles address set id' hset hwindow l hl
    · intro setId id' hsetId' hwindow
      refine ⟨hwindow, ?_⟩
      rw [hsettled]
      apply Function.update_of_ne
      intro heq
      exact hsetId' (Prod.ext_iff.mp heq).1
  · rw [if_neg hhanded] at hrequests
    apply h.afterReport_of_nothing hset hclock hwf' hrequests
    intro id' hwindow
    by_cases hsame : id = id'
    · obtain rfl := hsame
      rw [hlifecycle id]
      cases hl₀ : set.pool.lifecycleOf id with
      | none => rfl
      | some l₀ =>
          show some (if id = id ∧ ¬ l₀.IsDisabled then state.intoLifecycleState else l₀) = some l₀
          have hrefused : ¬ w.persistence.Accepts := by
            intro haccepts
            rw [hl₀] at hhanded
            exact hhanded ⟨rfl, haccepts⟩
          by_cases hdisabled : l₀.IsDisabled
          · rw [if_neg (fun hboth => hboth.2 hdisabled)]
          · have hcases := hsettling l₀ hl₀
            rw [if_neg hdisabled] at hcases
            rw [if_pos ⟨rfl, hdisabled⟩]
            rcases hcases with haccepts | hheld | hopen
            · exact absurd haccepts hrefused
            · rw [hheld]
            · exact absurd hopen hwindow
    · exact hother id' hsame

theorem Converging.next_report {w w' : LifecycleWorld} (h : w.Converging) {address : SetAddress}
    {channel : ChannelRuntime} {failureDomains : FailureDomainRegistry}
    {snapshot : RequestSelectionSnapshot} {r : Readings} {mutation : StateMutation}
    (hsettling : w.Settling (.report address channel failureDomains snapshot r mutation))
    (hnext : w.next (.report address channel failureDomains snapshot r mutation) = some w') :
    w'.Converging := by
  obtain ⟨set, hset, hguard⟩ := Option.bind_eq_some_iff.mp hnext
  by_cases hreport : channel.poolState.credentialSetId = address.credentialSetId ∧
      w.clock ≤ r.first
  · rw [if_pos hreport] at hguard
    cases hguard
    cases hmutation : mutation.automatic with
    | none => exact h.next_otherReport hset hreport.2 hmutation (hsettling set hset)
    | some excluded =>
        exact h.next_automaticReport hset hreport.1 hreport.2 hmutation (hsettling set hset)
  · rw [if_neg hreport] at hguard
    cases hguard

/-! ## §7. The commands. -/

/-- A new command has no window open. -/
theorem Converging.next_start {w w' : LifecycleWorld} (h : w.Converging)
    {command : CredentialCommand} {runtime : Nat}
    {credentialSetOf : String → Option CredentialSetId}
    (hnext : w.next (.start command runtime credentialSetOf) = some w') : w'.Converging := by
  cases hnext
  refine h.of_same_sets rfl rfl rfl ?_
  intro key hwindow
  refine ⟨?_, rfl⟩
  intro hopen
  obtain ⟨index, inFlight, hfound, hwrites⟩ := hopen
  apply hwindow
  refine ⟨index, inFlight, ?_, hwrites⟩
  have hlt := (List.getElem?_eq_some_iff.mp hfound).1
  show (w.commands ++ _)[index]? = some inFlight
  rw [List.getElem?_append_left hlt]
  exact hfound

/-- Another command's window stays open. -/
theorem inWindow_set_of_other {w w' : LifecycleWorld} {index : Nat} {inFlight : InFlightCommand}
    (hcommands : w'.commands = w.commands.set index inFlight) {key : CredentialKey}
    (hopen : w.InOtherWindow index key) : w'.InWindow key := by
  obtain ⟨index', other, hne, hfound, hwrites⟩ := hopen
  refine ⟨index', other, ?_, hwrites⟩
  rw [hcommands, List.getElem?_set_ne hne.symm]
  exact hfound

/-- The window of the command itself. -/
theorem inWindow_set_self {w w' : LifecycleWorld} {index : Nat}
    {before inFlight : InFlightCommand} (hfound : w.commands[index]? = some before)
    (hcommands : w'.commands = w.commands.set index inFlight) {key : CredentialKey}
    (hwrites : inFlight.WritesTo key) : w'.InWindow key := by
  have hlt := (List.getElem?_eq_some_iff.mp hfound).1
  refine ⟨index, inFlight, ?_, hwrites⟩
  rw [hcommands, List.getElem?_set_self hlt]

theorem InWindow.other {w : LifecycleWorld} {index : Nat} {inFlight : InFlightCommand}
    (hfound : w.commands[index]? = some inFlight) {key : CredentialKey}
    (hopen : w.InWindow key) (hself : ¬ inFlight.WritesTo key) : w.InOtherWindow index key := by
  obtain ⟨index', other, hfound', hwrites⟩ := hopen
  refine ⟨index', other, ?_, hfound', hwrites⟩
  intro heq
  rw [heq, hfound] at hfound'
  cases hfound'
  exact hself hwrites

/-- The rows that a world of a command will hold when the worker has caught up. -/
def SettlesIn (w : LifecycleWorld) (shared : CommandWorld) (key : CredentialKey) : Prop :=
  ∀ l, shared.pool.lifecycleOf key.2 = some l →
    WriteBehind.settle shared.store.rows w.pendingWrites key = l

section Leaving

variable {w : LifecycleWorld} {index : Nat} {set : RuntimeCredentialSet} {inputs : CommandInputs}
  {command : CredentialCommand} {runtime : Nat} {precondition : CommandPrecondition}

/-- The change of the pool ends with the state that the command has written. -/
theorem settlesIn_recorded (hwf : WellFormed w.clock set.pool)
    (hclock : w.clock ≤ inputs.check.first)
    (hsettling : w.PhaseSettles index ⟨command, runtime, .recorded precondition⟩
      precondition.credentialSetId set inputs)
    (halone : ¬ w.InOtherWindow index (precondition.credentialSetId, command.credentialId))
    (hleft : ¬ (command.finalApply inputs (w.commandWorld set) precondition).2.1.Writing) :
    w.SettlesIn (command.finalApply inputs (w.commandWorld set) precondition).1
      (precondition.credentialSetId, command.credentialId) := by
  have hcond := hsettling.resolve_left halone
  dsimp only at hcond
  unfold CredentialCommand.finalApply at hleft ⊢
  cases hcheck : command.checkAgain inputs (w.commandWorld set) precondition with
  | error err =>
      rw [hcheck] at hleft
      exact absurd trivial hleft
  | ok readiness =>
      rw [hcheck] at hcond hleft
      cases readiness with
      | alreadyApplied response => exact hcond
      -- the command was recorded and is still due: the change is made in memory
      | ready current =>
          obtain ⟨hsnap, hdecision, -⟩ := CredentialCommand.checkAgain_ready hcheck
          obtain ⟨state, hstate, hcurrent⟩ := CredentialCommand.snapshotIn_some hsnap
          have hchange : w.clock ≤ inputs.change.first :=
            Nat.le_trans hclock (Nat.le_trans inputs.check.first_le_third inputs.check_le)
          have hfst := command.applyTo_fst inputs.change (w.commandWorld set).pool
          dsimp only at hleft ⊢
          cases happly : command.applyTo inputs.change (w.commandWorld set).pool with
          | mk pool found =>
              rw [happly] at hfst hleft
              cases found with
              | none => exact absurd trivial hleft
              | some snapshot =>
                  intro l hl
                  have hstate' : set.pool.stateOf command.credentialId = some state := hstate
                  rw [hcurrent] at hdecision
                  -- which leaves the state that the command asks for
                  have hl' : pool.lifecycleOf command.credentialId =
                      some (command.kind.commandedState command.reason) := by
                    unfold KeyPool.lifecycleOf
                    rw [show pool = _ from hfst]
                    show (((command.kind.poolOp command.credentialId command.reason).exec
                      inputs.change set.pool).1.stateOf command.credentialId).map _ = _
                    rw [hwf.stateOf_exec (command.kind.poolOp_isDurable _ _).1 hchange, hstate']
                    exact congrArg some (commanded_of_ready hdecision).2
                  have heq : command.kind.commandedState command.reason = l :=
                    Option.some.inj (hl'.symm.trans hl)
                  rw [← heq]
                  exact hcond

/-- A failed command with nothing to write back, or whose credential is gone. -/
theorem settlesIn_failed {err : ManagementServiceError}
    (hsettling : w.PhaseSettles index ⟨command, runtime, .failed precondition err⟩
      precondition.credentialSetId set inputs)
    (halone : ¬ w.InOtherWindow index (precondition.credentialSetId, command.credentialId))
    (hleft : ¬ (command.advance inputs (w.commandWorld set)
      (.failed precondition err)).2.1.Writing) :
    w.SettlesIn (command.advance inputs (w.commandWorld set) (.failed precondition err)).1
      (precondition.credentialSetId, command.credentialId) := by
  have hcond := hsettling.resolve_left halone
  dsimp only at hcond
  unfold CredentialCommand.advance at hleft ⊢
  dsimp only at hleft ⊢
  cases hupdate : command.update precondition with
  | none => exact hcond hupdate
  | some update =>
      simp only [hupdate, Option.isNone_some, Bool.false_eq_true, if_false] at hleft ⊢
      cases hsnap : command.snapshotIn (w.commandWorld set).pool inputs.check with
      | none =>
          -- the pool does not have the credential
          intro l hl
          have hnone := CredentialCommand.snapshotIn_none hsnap
          unfold KeyPool.lifecycleOf at hl
          rw [show (w.commandWorld set).pool.stateOf command.credentialId = none from hnone] at hl
          cases hl
      | some snapshot =>
          rw [hsnap] at hleft
          exact absurd trivial hleft

/-- A compensation leaves the row with the state of the pool, as far as nothing else is on
its way. -/
theorem settlesIn_compensating {err : ManagementServiceError} {snapshot : CredentialSnapshot}
    (hsettling : w.PhaseSettles index ⟨command, runtime, .compensating precondition err snapshot⟩
      precondition.credentialSetId set inputs)
    (halone : ¬ w.InOtherWindow index (precondition.credentialSetId, command.credentialId)) :
    w.SettlesIn (command.advance inputs (w.commandWorld set)
        (.compensating precondition err snapshot)).1
      (precondition.credentialSetId, command.credentialId) := by
  obtain ⟨hwritten, hlost⟩ := hsettling.resolve_left halone
  unfold CredentialCommand.advance
  dsimp only
  split
  · next store storeErr hwrite =>
      have hrefused := CredentialStore.written_persistLifecycleSnapshot hwrite
      rw [hrefused.unchanged]
      apply hlost
      intro haccepts
      obtain ⟨store', _, hok⟩ := hrefused.exists_ok haccepts
      cases hok
  · next store hwrite =>
      intro l hl
      have htaken := CredentialStore.written_persistLifecycleSnapshot hwrite
      rw [htaken.rows]
      refine (WriteBehind.settle_update w.store.rows w.pendingWrites _ _).trans ?_
      exact hwritten htaken.accepts l hl

end Leaving

/-- A phase after which the window of the command is closed. -/
theorem settlesIn_leaving {w : LifecycleWorld} {index : Nat} {set : RuntimeCredentialSet}
    {inputs : CommandInputs} {inFlight : InFlightCommand} {setId : CredentialSetId}
    (hphase : inFlight.phase.credentialSetId = some setId) (hwriting : inFlight.phase.Writing)
    (hwf : WellFormed w.clock set.pool) (hclock : w.clock ≤ inputs.check.first)
    (hsettling : w.PhaseSettles index inFlight setId set inputs)
    (halone : ¬ w.InOtherWindow index (setId, inFlight.command.credentialId))
    (hleft : ¬ (inFlight.command.advance inputs (w.commandWorld set)
      inFlight.phase).2.1.Writing) :
    w.SettlesIn (inFlight.command.advance inputs (w.commandWorld set) inFlight.phase).1
      (setId, inFlight.command.credentialId) := by
  obtain ⟨command, runtime, phase⟩ := inFlight
  cases phase with
  | resolved channelId credentialSetId => exact hwriting.elim
  | checked precondition => exact hwriting.elim
  | rechecked precondition => exact hwriting.elim
  | done result => exact hwriting.elim
  | persisted precondition historyId =>
      -- the event is appended or not, the window stays open
      refine absurd ?_ hleft
      unfold CredentialCommand.advance
      dsimp only
      split <;> exact trivial
  | recorded precondition =>
      cases hphase
      exact settlesIn_recorded hwf hclock hsettling halone hleft
  | failed precondition err =>
      cases hphase
      exact settlesIn_failed hsettling halone hleft
  | compensating precondition err snapshot =>
      cases hphase
      exact settlesIn_compensating hsettling halone

theorem Converging.next_advance {w w' : LifecycleWorld} (h : w.Converging) {index : Nat}
    {inputs : CommandInputs} (hsettling : w.Settling (.advance index inputs))
    (hnext : w.next (.advance index inputs) = some w') : w'.Converging := by
  obtain ⟨inFlight, hfound, hnext⟩ := Option.bind_eq_some_iff.mp hnext
  obtain ⟨setId, hphase, hnext⟩ := Option.bind_eq_some_iff.mp hnext
  obtain ⟨set, hset, hguard⟩ := Option.bind_eq_some_iff.mp hnext
  have hcond := hsettling inFlight setId set hfound hphase hset
  have hwf := h.wellFormed _ set hset
  by_cases hclock : w.clock ≤ inputs.check.first
  · rw [if_pos hclock] at hguard
    have hchange : w.clock ≤ inputs.change.first :=
      Nat.le_trans hclock (Nat.le_trans inputs.check.first_le_third inputs.check_le)
    have hlast := Nat.le_trans hclock inputs.first_le_last
    obtain ⟨heffect, hsetId⟩ :=
      inFlight.command.advance_cases inputs (w.commandWorld set) inFlight.phase
    have hleaving : inFlight.phase.Writing → _ := fun hwriting =>
      settlesIn_leaving hphase hwriting hwf hclock hcond
    generalize inFlight.command.advance inputs (w.commandWorld set) inFlight.phase = out at *
    obtain ⟨shared, phase, effects⟩ := out
    cases hguard
    have hcommands : (w.afterPhase index inFlight ⟨inFlight.runtime, setId⟩ inputs shared
        phase).commands = w.commands.set index { inFlight with phase := phase } := rfl
    -- a window that was open and is not the command's own stays open
    have hother : ∀ key, ¬ inFlight.WritesTo key →
        ¬ (w.afterPhase index inFlight ⟨inFlight.runtime, setId⟩ inputs shared
          phase).InWindow key → ¬ w.InWindow key := by
      intro key hself hclosed hopen
      exact hclosed (inWindow_set_of_other hcommands (hopen.other hfound hself))
    refine h.of_update hset rfl hlast h.ignored (heffect.wellFormed hwf hclock) ?_ ?_
    · intro id hwindow l hl
      by_cases hid : id = inFlight.command.credentialId
      · subst hid
        have halone : ¬ w.InOtherWindow index (setId, inFlight.command.credentialId) := by
          intro hopen
          exact hwindow (inWindow_set_of_other hcommands hopen)
        have hleft : ¬ phase.Writing := by
          intro hwriting
          apply hwindow
          refine inWindow_set_self hfound hcommands ⟨hwriting, ?_, rfl⟩
          rcases hsetId with hnone | hsame
          · cases phase <;> first | exact False.elim hwriting | cases hnone
          · exact hsame.trans hphase
        by_cases hwriting : inFlight.phase.Writing
        · exact hleaving hwriting halone hleft l hl
        · have hself : ¬ inFlight.WritesTo (setId, inFlight.command.credentialId) := by
            intro hwrites
            exact hwriting hwrites.1
          cases heffect with
          | nothing store pool =>
              have hpool : shared.pool = set.pool := pool
              have hl' : set.pool.lifecycleOf inFlight.command.credentialId = some l := by
                rw [← hpool]
                exact hl
              have hbefore := h.settles _ set inFlight.command.credentialId hset
                (hother _ hself hwindow) l hl'
              show WriteBehind.settle shared.store.rows w.pendingWrites _ = l
              rw [show shared.store = w.store from store]
              exact hbefore
          | wrote setId' state set' rows pool kept writing =>
              exact absurd writing (fun hor => hor.elim hwriting hleft)
          | applied store pool writing => exact absurd writing hwriting
      · have hself : ¬ inFlight.WritesTo (setId, id) := by
          intro hwrites
          exact hid hwrites.2.2.symm
        have hkey : ((setId, id) : CredentialKey) ≠ (setId, inFlight.command.credentialId) := by
          intro heq
          exact hid (Prod.ext_iff.mp heq).2
        have hl' : set.pool.lifecycleOf id = some l :=
          (heffect.lifecycleOf_of_ne hwf hchange hid).symm.trans hl
        have hbefore := h.settles _ set id hset (hother _ hself hwindow) l hl'
        exact (WriteBehind.settle_congr (heffect.rows_of_ne hphase hkey)).trans hbefore
    · intro setId' id hne hwindow
      have hself : ¬ inFlight.WritesTo (setId', id) := by
        intro hwrites
        exact hne (Option.some.inj (hwrites.2.1.symm.trans hphase))
      have hkey : ((setId', id) : CredentialKey) ≠ (setId, inFlight.command.credentialId) := by
        intro heq
        exact hne (Prod.ext_iff.mp heq).1
      exact ⟨hother _ hself hwindow,
        WriteBehind.settle_congr (heffect.rows_of_ne hphase hkey)⟩
  · rw [if_neg hclock] at hguard
    cases hguard

/-! ## §8. Runs. -/

/-- A step that meets the condition keeps the invariant. -/
theorem Converging.next {w w' : LifecycleWorld} (h : w.Converging) {event : LifecycleEvent}
    (hsettling : w.Settling event) (hnext : w.next event = some w') : w'.Converging := by
  cases event with
  | select address op r => exact h.next_select hnext
  | report address channel failureDomains snapshot r mutation => exact h.next_report hsettling hnext
  | receive => exact h.next_receive hnext
  | persist fault => exact h.next_persist hsettling hnext
  | start command runtime credentialSetOf => exact h.next_start hnext
  | advance index inputs => exact h.next_advance hsettling hnext

theorem Converging.init {w : LifecycleWorld} (h : lifecycleSystem.Init w) : w.Converging := by
  obtain ⟨hsets, hrequests, hreceived, -, hignored⟩ := h
  have hpending : w.pendingWrites = [] := by
    unfold pendingWrites
    rw [hreceived, hrequests]
    rfl
  refine ⟨?_, ?_, ?_, hignored⟩
  · intro address set hset
    exact poolSystem_wellFormed (hsets address set hset).2.1
  · intro address set hset
    exact (hsets address set hset).1
  · intro address set id hset _ l hl
    unfold settled
    rw [hpending]
    exact (hsets address set hset).2.2 id l hl

/-- Nothing waits for the worker, and every command has its result. -/
def Quiet (w : LifecycleWorld) : Prop :=
  w.persistence.requests = [] ∧ w.received = none ∧
    ∀ inFlight ∈ w.commands, ¬ inFlight.phase.Running

end LifecycleWorld

/-- In every run whose steps all meet the condition no report that the pool has ignored is
handed to the worker, and whenever nothing waits and no command runs, the row of every
credential is its durable state in its pool. -/
theorem durable_state_converges (w w' : LifecycleWorld) (events : List LifecycleEvent)
    (hinit : lifecycleSystem.Init w)
    (hrun : (lifecycleSystem.restrict LifecycleWorld.Settling).Run w events w') :
    w'.ignored = [] ∧
    (w'.Quiet → ∀ address set id l, w'.sets address = some set →
      set.pool.lifecycleOf id = some l →
        w'.store.rowState address.credentialSetId id = l) := by
  have hconverging : w'.Converging := by
    refine hrun.invariant (I := LifecycleWorld.Converging) ?_ (.init hinit)
    intro u event u' hu hstep
    exact hu.next hstep.2 hstep.1
  refine ⟨hconverging.ignored, ?_⟩
  intro hquiet address set id l hset hl
  obtain ⟨hrequests, hreceived, hcommands⟩ := hquiet
  -- no command is between its durable write and its end
  have hclosed : ¬ w'.InWindow (address.credentialSetId, id) := by
    intro hopen
    obtain ⟨index, inFlight, hfound, hwriting, -, -⟩ := hopen
    apply hcommands inFlight (List.mem_of_getElem? hfound)
    generalize inFlight.phase = phase at hwriting
    cases phase <;> first | exact trivial | exact hwriting.elim
  have hsettled := hconverging.settles address set id hset hclosed l hl
  -- no request waits, so what would be settled is what the store has
  have hpending : w'.pendingWrites = [] := by
    unfold LifecycleWorld.pendingWrites
    rw [hreceived, hrequests]
    rfl
  unfold LifecycleWorld.settled at hsettled
  rw [hpending] at hsettled
  exact hsettled

/-! ## §9. A report about a disabled credential. -/

/-- The world after some steps. -/
def LifecycleWorld.nextAll (w : LifecycleWorld) : List LifecycleEvent → Option LifecycleWorld
  | [] => some w
  | event :: events => (w.next event).bind (·.nextAll events)

theorem lifecycleSystem_run {w w' : LifecycleWorld} {events : List LifecycleEvent}
    (h : w.nextAll events = some w') : lifecycleSystem.Run w events w' := by
  induction events generalizing w with
  | nil =>
      cases h
      exact .nil _
  | cons event events ih =>
      obtain ⟨w₁, hstep, hrest⟩ := Option.bind_eq_some_iff.mp h
      exact .cons hstep (ih hrest)

/-- A started runtime with one set of one new credential. -/
def startedWorld : LifecycleWorld where
  sets := Function.update (fun _ => none) ⟨0, "set"⟩ (some ⟨singlePool, 1⟩)
  store := singleWorld.store
  events := singleWorld.events
  persistence := ⟨true, false, []⟩
  received := none
  commands := []
  ignored := []
  clock := 0

theorem startedWorld_init : lifecycleSystem.Init startedWorld := by
  refine ⟨?_, rfl, rfl, rfl, rfl⟩
  intro address set hset
  have haddress : address = ⟨0, "set"⟩ := by
    by_contra hne
    have hnone : startedWorld.sets address = none := by
      show Function.update (fun _ => none) _ _ address = none
      rw [Function.update_of_ne hne]
    rw [hnone] at hset
    cases hset
  rw [haddress] at hset ⊢
  cases hset
  refine ⟨rfl, disableStart_init.1, ?_⟩
  intro id l hl
  have hnew : KeyPool.new ⟨"a", "set", "https://a.example/v1", [⟨"k", .unknown⟩]⟩ =
      .ok singlePool := rfl
  have hdistinct : (singlePool.credentials.map (·.id)).Nodup := by decide
  exact ((KeyPool.lifecycleOf_new hnew hdistinct).2 id l hl).symm

/-- Channel `a`, through which a request has been sent with the credential. -/
def requestChannel : ChannelRuntime :=
  .fromPoolState (.fromConfig { remainingChannel with credentialSetId := "set" } "set") true true

def requestSnapshot : RequestSelectionSnapshot where
  requestId := "request"
  configGeneration := 1
  channelHealthGeneration := 1
  clientTokenId := "token"
  requestedModel := none
  endpoint := .chatCompletions
  routeTargetIndex := none
  channelId := "a"
  providerId := "provider"
  accountId := "account"
  providerKind := .openAiCompatible
  credentialId := singleCredentialId
  credentialFingerprint := "print"
  classifierId := "default"
  classifierVersion := "1"
  retryCandidates := []
  bodyReplayable := true
  streaming := false
  partialOutputStarted := false
  routeTargetAvailable := false
  effectiveDeadline := none
  attempt := 0
  selectionReason := .defaultPool

/-- The upstream has answered the request with a 401. -/
def expiryReport : LifecycleEvent :=
  .report ⟨0, "set"⟩ requestChannel ⟨∅, ∅⟩ requestSnapshot (.at' 0)
    (.expireCredential "a" singleCredentialId .upstreamAuthInvalid)

/-- A report about the available credential is taken by the pool and by the queue. -/
theorem startedWorld_report_settling : startedWorld.Settling expiryReport := by
  intro set hset
  cases hset
  show ∀ l, singlePool.lifecycleOf singleCredentialId = some l → _
  intro l hl
  cases hl
  exact .inl ⟨rfl, rfl, by decide⟩

/-- The worker writes what the report has left, and the store agrees with the pool. -/
theorem durable_state_converges_reported :
    ∃ w set, startedWorld.nextAll [expiryReport, .receive, .persist none] = some w ∧
      w.ignored = [] ∧ w.sets ⟨0, "set"⟩ = some set ∧
      set.pool.lifecycleOf singleCredentialId =
        some (.expired "upstream reported expired credential") ∧
      w.store.rowState "set" singleCredentialId =
        .expired "upstream reported expired credential" := by
  have hpersist : ∀ request : AutomaticLifecyclePersistenceRequest,
      request.credentialSetId = "set" → request.credentialId = singleCredentialId →
        singleWorld.store.Accepts request.credentialSetId request.credentialId none := by
    intro request hset hid
    rw [hset, hid]
    exact ⟨rfl, rfl, by decide⟩
  obtain ⟨hignored, hquiet⟩ := durable_state_converges startedWorld _
    [expiryReport, .receive, .persist none] startedWorld_init
    (.cons ⟨rfl, startedWorld_report_settling⟩ (.cons ⟨rfl, trivial⟩ (.cons ⟨rfl, by
      intro request hreceived
      cases hreceived
      exact .inl (hpersist _ rfl rfl)⟩ (.nil _))))
  refine ⟨_, _, rfl, hignored, rfl, rfl, ?_⟩
  refine hquiet ⟨rfl, rfl, ?_⟩ ⟨0, "set"⟩ _ singleCredentialId _ rfl rfl
  intro inFlight hmem
  cases hmem

/-- The operator disables the credential, while a request with it is on its way; the
request is answered with a 401.  The pool ignores the report, the store does not. -/
theorem disabled_row_overwritten :
    ∃ w set, lifecycleSystem.Init startedWorld ∧
      lifecycleSystem.Run startedWorld
        ([.start disableCommand 0 singleChannel] ++ List.replicate 5 (.advance 0 calm) ++
          [expiryReport, .receive, .persist none]) w ∧
      w.Quiet ∧ w.sets ⟨0, "set"⟩ = some set ∧
      set.pool.lifecycleOf singleCredentialId = some (.disabled "pause") ∧
      w.ignored ≠ [] ∧
      w.store.rowState "set" singleCredentialId =
        .expired "upstream reported expired credential" := by
  refine ⟨_, _, startedWorld_init, lifecycleSystem_run rfl, ⟨rfl, rfl, ?_⟩, rfl, rfl, ?_, rfl⟩
  · intro inFlight hmem
    rw [List.mem_singleton.mp hmem]
    exact fun hrunning => hrunning
  · intro hnone
    cases hnone

end OneAiKey
