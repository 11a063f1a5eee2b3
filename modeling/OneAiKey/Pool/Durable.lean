/-
  OneAiKey.Pool.Durable — the state of one credential in a pool, and the durable
  state that a snapshot of it shows.

  `KeyPool.stateOf` is the view of a pool that the commands, the failure
  reports, the replay and the store share: the state behind an id.  An operation
  changes it by `PoolOp.effect` (`stateOf_exec`), so that nothing above this
  module looks into the indices of the pool.
-/
import OneAiKey.Pool.Lifecycle
import OneAiKey.Commands

namespace OneAiKey

/-! ## §1. The state behind an id. -/

/-- The durable part of a state: a cooldown is none. -/
def CredentialState.lifecycleState : CredentialState → CredentialLifecycleState
  | available | coolingDown _ _ => .available
  | expired reason => .expired reason
  | quotaExhausted reason => .quotaExhausted reason
  | disabled reason => .disabled reason

/-- An exclusion keeps a credential from being selected until an operator ends it. -/
def CredentialLifecycleState.Excluded (s : CredentialLifecycleState) : Prop := s ≠ .available

instance (s : CredentialLifecycleState) : Decidable s.Excluded :=
  inferInstanceAs (Decidable (s ≠ .available))

/-- The state of the credential with an id. -/
def KeyPool.stateOf (p : KeyPool) (id : CredentialId) : Option CredentialState :=
  (p.indexForId id).bind fun index => p.credentials[index]?.map (·.state)

/-- Does the sticky pointer stand on the credential with an id? -/
def KeyPool.isCurrentId (p : KeyPool) (id : CredentialId) : Bool :=
  p.indexForId id == some p.current

/-- The operations that do not add credentials. -/
def PoolOp.KeepsCredentials : PoolOp → Prop
  | addCredentials _ => False
  | _ => True

/-! ## §2. What an operation does to it. -/

namespace KeyPool

theorem length_markWhen (p : KeyPool) (id : CredentialId) (test : Nat → Bool)
    (mark : Credential → Credential) :
    (p.markWhen id test mark).length = p.credentials.length := by
  unfold markWhen
  cases p.indexForId id with
  | none => rfl
  | some j =>
      show (if test j then p.credentials.modify j mark else p.credentials).length = _
      by_cases hj : test j = true
      · rw [if_pos hj]
        exact List.length_modify _ _ _
      · rw [if_neg hj]

theorem length_exec (p : KeyPool) {op : PoolOp} (hop : op.KeepsCredentials) (r : Readings) :
    (op.exec r p).1.credentials.length = p.credentials.length := by
  cases op with
  | select => exact congrArg List.length (credentials_select p r.first)
  | selectCredentialById id =>
      exact congrArg List.length (credentials_selectCredentialById p id r.first)
  | selectCoolingDownLastResort =>
      exact congrArg List.length (credentials_selectCoolingDownLastResort p r)
  | retryCandidatesFromCurrent limit =>
      exact congrArg List.length (credentials_retryCandidatesFromCurrent p limit r.first)
  -- the one operation that adds credentials is excluded
  | addCredentials inputs => exact hop.elim
  | applyCredentialCooldownUntil id d reason =>
      show (p.applyCredentialCooldownUntil id d reason r.first).1.credentials.length = _
      rw [credentials_applyCredentialCooldownUntil, length_markWhen]
  | reportExpiredFailureById id reason | applyCredentialExpired id reason =>
      show (p.reportExpiredFailureById id reason r.first).1.credentials.length = _
      rw [credentials_reportExpiredFailureById, length_markWhen]
  | applyCredentialQuotaExhausted id reason =>
      show (p.applyCredentialQuotaExhausted id reason r.first).1.credentials.length = _
      rw [credentials_applyCredentialQuotaExhausted, length_markWhen]
  | expireCredentialById id reason =>
      show (p.expireCredentialById id reason r.first).1.credentials.length = _
      rw [expireCredentialById_fst, credentials_reportExpiredFailureById, length_markWhen]
  | restoreCredentialById id =>
      show (p.restoreCredentialById id r).1.credentials.length = _
      rw [credentials_restoreCredentialById, length_markWhen]
  | disableCredentialById id reason =>
      show (p.disableCredentialById id reason r.first).1.credentials.length = _
      rw [credentials_disableCredentialById, length_markWhen]
  | enableCredentialById id =>
      show (p.enableCredentialById id).1.credentials.length = _
      rw [credentials_enableCredentialById, length_markWhen]
  | clearCredentialCooldownById id =>
      show (p.clearCredentialCooldownById id r).1.credentials.length = _
      rw [credentials_clearCredentialCooldownById, length_markWhen]

end KeyPool

namespace WellFormed

variable {t : Instant} {p : KeyPool} {id : CredentialId}

theorem stateOf_eq_some_iff (h : WellFormed t p) {s : CredentialState} :
    p.stateOf id = some s ↔
      ∃ (i : Nat) (c : Credential), p.credentials[i]? = some c ∧ c.id = id ∧ c.state = s := by
  unfold KeyPool.stateOf
  constructor
  · intro hs
    obtain ⟨i, hi, hmap⟩ := Option.bind_eq_some_iff.mp hs
    obtain ⟨c, hc, hcs⟩ := Option.map_eq_some_iff.mp hmap
    obtain ⟨c', hc', hid⟩ := h.indexForId_some hi
    rw [hc] at hc'
    cases hc'
    exact ⟨i, c, hc, hid, hcs⟩
  · intro hs
    obtain ⟨i, c, hc, hid, hcs⟩ := hs
    have hi : p.indexForId id = some i := (h.indexForId_eq hc).mpr hid.symm
    rw [hi]
    show p.credentials[i]?.map (·.state) = some s
    rw [hc, Option.map_some, hcs]

/-- An operation takes the state behind an id one step of its lifecycle machine. -/
theorem stateOf_exec (h : WellFormed t p) {op : PoolOp} (hop : op.KeepsCredentials)
    {r : Readings} (ht : t ≤ r.first) (id : CredentialId) :
    (op.exec r p).1.stateOf id = (p.stateOf id).map (op.effect r (p.isCurrentId id) id) := by
  have h' : WellFormed r.third (op.exec r p).1 := op.exec_wellFormed h ht
  have hcurrent : ∀ {i : Nat} {c : Credential}, p.credentials[i]? = some c → c.id = id →
      decide (i = p.current) = p.isCurrentId id := by
    intro i c hc hid
    have hi : p.indexForId id = some i := (h.indexForId_eq hc).mpr hid.symm
    show _ = (p.indexForId id == some p.current)
    rw [hi]
    by_cases hcur : i = p.current <;> simp [hcur]
  apply Option.ext
  intro s'
  rw [h'.stateOf_eq_some_iff, Option.map_eq_some_iff]
  constructor
  · intro hs'
    obtain ⟨i, c', hc', hid, hstate⟩ := hs'
    -- no operation here adds a position, so the credential was there before
    have hlt : i < p.credentials.length := by
      have hlt' := (List.getElem?_eq_some_iff.mp hc').1
      rw [p.length_exec hop r] at hlt'
      exact hlt'
    have hc : p.credentials[i]? = some p.credentials[i] := List.getElem?_eq_getElem hlt
    have hexec := op.exec_credential h hc r
    rw [hc'] at hexec
    cases hexec
    refine ⟨p.credentials[i].state, h.stateOf_eq_some_iff.mpr ⟨i, _, hc, hid, rfl⟩, ?_⟩
    rw [← hcurrent hc hid, ← hstate, ← hid]
  · intro hs
    obtain ⟨s, hs, heffect⟩ := hs
    obtain ⟨i, c, hc, hid, hstate⟩ := h.stateOf_eq_some_iff.mp hs
    refine ⟨i, _, op.exec_credential h hc r, hid, ?_⟩
    show op.effect r (decide (i = p.current)) c.id c.state = s'
    rw [hcurrent hc hid, hid, hstate, heffect]

end WellFormed

/-! ## §3. Snapshots. -/

/-- The snapshot of a credential shows its state. -/
theorem KeyPool.credentialSnapshotById_state (p : KeyPool) (id : CredentialId)
    (guardNow remainingNow : Instant) :
    (p.credentialSnapshotById id guardNow remainingNow).map (·.state) =
      (p.stateOf id).map (·.snapshot guardNow remainingNow) := by
  unfold KeyPool.credentialSnapshotById KeyPool.stateOf KeyPool.snapshotAt
  cases p.indexForId id with
  | none => rfl
  | some i =>
      show ((p.credentials[i]?.map _).map _) = (p.credentials[i]?.map _).map _
      cases p.credentials[i]? <;> rfl

/-! ## §4. The machine on durable states. -/

/-- What an operation other than a cooldown report does to the durable state of credential
`id`. -/
def PoolOp.lifecycleEffect (id : CredentialId) (l : CredentialLifecycleState) :
    PoolOp → CredentialLifecycleState
  | reportExpiredFailureById id' reason
  | applyCredentialExpired id' reason
  | expireCredentialById id' reason =>
      match l with
      | .disabled _ => l
      | _ => if id' = id then .expired reason else l
  | applyCredentialQuotaExhausted id' reason =>
      match l with
      | .disabled _ => l
      | _ => if id' = id then .quotaExhausted reason else l
  -- only `enable` ends a disablement
  | restoreCredentialById id' =>
      match l with
      | .disabled _ => l
      | _ => if id' = id then .available else l
  | disableCredentialById id' reason => if id' = id then .disabled reason else l
  | enableCredentialById id' => if id' = id then .available else l
  | applyCredentialCooldownUntil _ _ _ | clearCredentialCooldownById _
  | select | selectCredentialById _ | selectCoolingDownLastResort
  | retryCandidatesFromCurrent _ | addCredentials _ => l

/-- A cooldown report, the only operation whose effect on the durable state depends on
more. -/
def PoolOp.IsCooldown : PoolOp → Prop
  | applyCredentialCooldownUntil _ _ _ => True
  | _ => False

/-- The lifecycle machine refines the machine on durable states. -/
theorem PoolOp.lifecycleState_effect {op : PoolOp} (hop : ¬ op.IsCooldown) (r : Readings)
    (isCurrent : Bool) (id : CredentialId) (s : CredentialState) :
    (op.effect r isCurrent id s).lifecycleState = op.lifecycleEffect id s.lifecycleState := by
  cases op with
  | applyCredentialCooldownUntil id' d reason => exact absurd trivial hop
  | reportExpiredFailureById id' reason
  | applyCredentialExpired id' reason
  | expireCredentialById id' reason
  | applyCredentialQuotaExhausted id' reason =>
      by_cases hid : id' = id
      · cases s <;> simp [effect, lifecycleEffect, hid, CredentialState.isDisabled,
          CredentialState.lifecycleState]
      · cases s <;> simp [effect, lifecycleEffect, hid, CredentialState.lifecycleState]
  | restoreCredentialById id' =>
      by_cases hid : id' = id
      · cases s <;> simp [effect, lifecycleEffect, hid, CredentialState.Durable,
          CredentialState.isExpired, CredentialState.isQuotaExhausted,
          CredentialState.lifecycleState]
      · cases s <;> simp [effect, lifecycleEffect, hid, CredentialState.lifecycleState]
  | disableCredentialById id' reason | enableCredentialById id' =>
      by_cases hid : id' = id
      · simp [effect, lifecycleEffect, hid, CredentialState.lifecycleState]
      · simp [effect, lifecycleEffect, hid]
  | clearCredentialCooldownById id' =>
      -- a cooldown has no durable state, so ending it changes none
      by_cases hid : id' = id
      · cases s with
        | coolingDown d reason =>
            by_cases hcooling : r.first < d <;>
              simp [effect, lifecycleEffect, hid, CredentialState.isCoolingDownAt, hcooling,
                CredentialState.lifecycleState]
        | _ => simp [effect, lifecycleEffect, CredentialState.isCoolingDownAt]
      · simp [effect, lifecycleEffect, hid]
  | select | selectCredentialById _ | selectCoolingDownLastResort
  | retryCandidatesFromCurrent _ | addCredentials _ => rfl

/-- The durable state of the credential with an id. -/
def KeyPool.lifecycleOf (p : KeyPool) (id : CredentialId) : Option CredentialLifecycleState :=
  (p.stateOf id).map CredentialState.lifecycleState

/-- The operations that take durable states to durable states. -/
def PoolOp.IsDurable (op : PoolOp) : Prop := op.KeepsCredentials ∧ ¬ op.IsCooldown

theorem WellFormed.lifecycleOf_exec {t : Instant} {p : KeyPool} (h : WellFormed t p)
    {op : PoolOp} (hop : op.IsDurable) {r : Readings} (ht : t ≤ r.first) (id : CredentialId) :
    (op.exec r p).1.lifecycleOf id = (p.lifecycleOf id).map (op.lifecycleEffect id ·) := by
  unfold KeyPool.lifecycleOf
  rw [h.stateOf_exec hop.1 ht id]
  cases p.stateOf id with
  | none => rfl
  | some s =>
      show some (op.effect r (p.isCurrentId id) id s).lifecycleState = some _
      rw [PoolOp.lifecycleState_effect hop.2]

/-! ## §5. Histories of operations. -/

/-- Clock readings of operations one after the other, from an instant on. -/
def ReadingsFrom : Instant → List Readings → Prop
  | _, [] => True
  | t, r :: rs => t ≤ r.first ∧ ReadingsFrom r.third rs

/-- A pool after a history of operations. -/
def KeyPool.execAll (p : KeyPool) (history : List (PoolOp × Readings)) : KeyPool :=
  history.foldl (fun p entry => (entry.1.exec entry.2 p).1) p

/-- A durable state after the operations of a history. -/
def lifecycleAfter (id : CredentialId) (l : CredentialLifecycleState) (ops : List PoolOp) :
    CredentialLifecycleState :=
  ops.foldl (fun l op => op.lifecycleEffect id l) l

/-- A history of durable operations takes each durable state through the machine. -/
theorem lifecycleOf_execAll {t : Instant} {p : KeyPool} (h : WellFormed t p)
    {history : List (PoolOp × Readings)} (hops : ∀ entry ∈ history, entry.1.IsDurable)
    (hclock : ReadingsFrom t (history.map Prod.snd)) :
    (∃ t', WellFormed t' (p.execAll history)) ∧
      ∀ id, (p.execAll history).lifecycleOf id =
        (p.lifecycleOf id).map (lifecycleAfter id · (history.map Prod.fst)) := by
  induction history generalizing t p with
  | nil =>
      refine ⟨⟨t, h⟩, ?_⟩
      intro id
      show p.lifecycleOf id = (p.lifecycleOf id).map fun l => l
      rw [Option.map_id']
  | cons entry history ih =>
      obtain ⟨ht, hrest⟩ := hclock
      have hop := hops entry List.mem_cons_self
      have hstep := ih (entry.1.exec_wellFormed h ht)
        (fun e he => hops e (List.mem_cons_of_mem _ he)) hrest
      refine ⟨hstep.1, ?_⟩
      intro id
      show ((entry.1.exec entry.2 p).1.execAll history).lifecycleOf id = _
      rw [hstep.2 id, h.lifecycleOf_exec hop ht id, Option.map_map]
      rfl

/-! ## §6. Kinds. -/

/-- A durable state without its reason. -/
inductive LifecycleKind where
  | available
  | expired
  | quotaExhausted
  | disabled
  deriving DecidableEq, Repr

def CredentialLifecycleState.kind : CredentialLifecycleState → LifecycleKind
  | available => .available
  | expired _ => .expired
  | quotaExhausted _ => .quotaExhausted
  | disabled _ => .disabled

/-- Operations that differ in their reasons at most. -/
def PoolOp.SameKindEffect (op op' : PoolOp) : Prop :=
  ∀ (id : CredentialId) (l l' : CredentialLifecycleState), l.kind = l'.kind →
    (op.lifecycleEffect id l).kind = (op'.lifecycleEffect id l').kind

/-- The same ids, each with the same durable kind. -/
def KeyPool.SameKinds (p q : KeyPool) : Prop :=
  ∀ id, (p.lifecycleOf id).map CredentialLifecycleState.kind =
    (q.lifecycleOf id).map CredentialLifecycleState.kind

theorem KeyPool.SameKinds.refl (p : KeyPool) : p.SameKinds p := fun _ => rfl

theorem kind_lifecycleAfter {ops ops' : List PoolOp}
    (h : List.Forall₂ PoolOp.SameKindEffect ops ops') (id : CredentialId) :
    ∀ l l' : CredentialLifecycleState, l.kind = l'.kind →
      (lifecycleAfter id l ops).kind = (lifecycleAfter id l' ops').kind := by
  induction h with
  | nil =>
      intro l l' hl
      exact hl
  | cons hop _ ih =>
      intro l l' hl
      exact ih _ _ (hop id l l' hl)

/-- Histories whose operations differ in their reasons at most keep pools of the same kinds
together, whenever they run. -/
theorem KeyPool.SameKinds.execAll {t t' : Instant} {p q : KeyPool} (hsame : p.SameKinds q)
    (hp : WellFormed t p) (hq : WellFormed t' q) {history history' : List (PoolOp × Readings)}
    (hops : ∀ entry ∈ history, entry.1.IsDurable)
    (hops' : ∀ entry ∈ history', entry.1.IsDurable)
    (hclock : ReadingsFrom t (history.map Prod.snd))
    (hclock' : ReadingsFrom t' (history'.map Prod.snd))
    (heffects : List.Forall₂ PoolOp.SameKindEffect (history.map Prod.fst)
      (history'.map Prod.fst)) :
    (p.execAll history).SameKinds (q.execAll history') := by
  intro id
  rw [(lifecycleOf_execAll hp hops hclock).2, (lifecycleOf_execAll hq hops' hclock').2]
  have hid := hsame id
  cases hpl : p.lifecycleOf id with
  | none =>
      rw [hpl] at hid
      rw [Option.map_eq_none_iff.mp hid.symm]
      rfl
  | some l =>
      rw [hpl] at hid
      obtain ⟨l', hl', hkind⟩ := Option.map_eq_some_iff.mp hid.symm
      rw [hl']
      show some _ = some _
      rw [kind_lifecycleAfter heffects id l l' hkind.symm]

end OneAiKey
