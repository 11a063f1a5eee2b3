/-
  OneAiKey.CredentialProbe.Apply — the latest probe of a credential, planned and applied
  (`src/management_credentials.rs`, `src/credential_probe.rs`, `src/management_commands.rs`).

  An operator looks at a plan first: the latest probe, a reference to it, and what the
  policy makes of it.  Later the operator sends the reference back, and the probe that is
  the latest by then is applied, if it is the one that the reference names:

      plan ── probes, imports, a reload ──▶ apply

  The model ends where the lifecycle command or the cooldown begins.

  Main result:
    * `probe_applied_only_as_planned` — a plan can be applied as long as its credential has
      not been probed again, and never after that.
-/
import Std.Data.String.ToNat
import OneAiKey.Commands
import OneAiKey.CredentialProbe.Agreement
import OneAiKey.Lib.DecimalText
import OneAiKey.Provider
import OneAiKey.SuccessGuard

namespace OneAiKey

open LatestRow

/-! ## §1. Plans. -/

/-- What applying a probe result does. -/
inductive CredentialProbeApplyActionStatus where
  | noop
  | expire
  | quotaExhaust
  | restore
  | cooldown
  deriving DecidableEq, Repr

/-- The action that the policy has for an outcome.  A cooldown takes its length from the
policy, and every other action is a change of the durable state or nothing. -/
def probeApplyAction (outcome : CredentialProbeOutcome) (policy : ProbeResultPolicy) :
    CredentialProbeApplyActionStatus :=
  let action := match outcome with
    | .success => policy.success
    | .invalid => policy.invalid
    | .quotaExhausted => policy.quotaExhausted
    | .rateLimited => policy.rateLimited
    | .providerUnavailable => policy.providerUnavailable
    | .unsupportedModel => policy.unsupportedModel
    | .unknown => policy.unknown
  match action with
  | .noop => .noop
  | .expire => .expire
  | .quotaExhaust => .quotaExhaust
  | .restore => .restore
  | .cooldown => .cooldown

def probeResultIsDefaultKeySwitchCooldown (probe : CredentialProbeResultRecord)
    (classifierId : String) : Bool :=
  probe.outcome == .unknown && probe.upstreamCode == some "key_switch_cooldown" &&
    probe.classifierId == some classifierId && probe.adaptationRuleId.isNone

/-- What a request knows of a credential set, as far as an apply reads it. -/
structure ProbeApplyScope where
  credentialSetId : CredentialSetId
  canonicalChannelId : String
  classifierId : String
  probeResultPolicy : ProbeResultPolicy
  deriving DecidableEq, Repr

/-- What applying the latest result would do, with a reference to that result. -/
structure CredentialProbeApplyPlan where
  probeResultRef : String
  action : CredentialProbeApplyActionStatus
  probe : CredentialProbeResultStatus
  deriving DecidableEq, Repr

/-- The reference of a result. -/
def credentialProbeResultRefForId (id : Nat) : String := "pr:v1:id:" ++ toString id

/-- The plan for one result. -/
def ProbeApplyScope.planFor (scope : ProbeApplyScope) (probe : CredentialProbeResultRecord) :
    CredentialProbeApplyPlan where
  probeResultRef := credentialProbeResultRefForId probe.id
  action :=
    if probeResultIsDefaultKeySwitchCooldown probe scope.classifierId then .noop
    else probeApplyAction probe.outcome scope.probeResultPolicy
  probe := credentialProbeResultStatus probe

/-- The plan for a credential from its latest result. -/
def credentialProbeApplyPlanForLatestResult (handle : CredentialStoreHandle)
    (scope : ProbeApplyScope) (credentialId : CredentialId) :
    Except ManagementServiceError CredentialProbeApplyPlan :=
  match handle with
  | .readOnlyFileBootstrap => .error (credentialResourceStoreError .notWritable)
  | .sqlite store =>
      match store.loadLatestProbeResult scope.credentialSetId credentialId with
      | none => .error (.notFound ("no probe result for selected credential in credential_set " ++
          scope.credentialSetId))
      | some probe => .ok (scope.planFor probe)

/-! ## §2. The apply. -/

/-- Digits only; leading zeros are dropped, and what is no `i64` is refused. -/
def normalizeProbeResultRef (value : String) : Option String := do
  let id ← stripPrefix? "pr:v1:id:".toList value.toList
  if id.isEmpty || !id.all Char.isDigit then none
  else (parseUnsigned 63 id).map credentialProbeResultRefForId

/-- Is the latest result still the one that the operator saw? -/
def validateProbeApplyPrecondition (expectedProbeResultRef : Option String)
    (plan : CredentialProbeApplyPlan) : Except ManagementServiceError Unit :=
  match expectedProbeResultRef with
  | none => .error (.conflict "probe_result_ref is required before applying latest probe evidence")
  | some expectedProbeResultRef =>
      match normalizeProbeResultRef expectedProbeResultRef with
      | none => .error (.badRequest "probe_result_ref must use pr:v1:id:<number>")
      | some expectedProbeResultRef =>
          if expectedProbeResultRef ≠ plan.probeResultRef then
            .error (.conflict "probe_result_ref does not match the latest probe result")
          else .ok ()

/-- The command of an action, if it has one. -/
def credentialSetProbeApplyCommand (action : CredentialProbeApplyActionStatus)
    (actor : ManagementEventActor) (credentialSetId canonicalChannelId : String)
    (credentialId : CredentialId) (reason : String) : Option CredentialCommand :=
  let command (kind : CredentialCommandKind) (reasonClass : String) : CredentialCommand :=
    ⟨kind, actor, .credentialSet credentialSetId canonicalChannelId, credentialId, reason,
      some reasonClass⟩
  match action with
  | .expire => some (command .expire "probe_invalid")
  | .quotaExhaust => some (command .quotaExhaust "probe_quota_exhausted")
  | .restore => some (command .restore "probe_success")
  | .cooldown | .noop => none

/-- What an apply sets out to do. -/
inductive ProbeMutation where
  | command (command : CredentialCommand)
  | cooldown (channelId : String) (credentialSetId : CredentialSetId)
      (credentialId : CredentialId) (reason : String)
  deriving DecidableEq, Repr

/-- What applying a result did. -/
structure CredentialProbeApply where
  action : CredentialProbeApplyActionStatus
  probe : CredentialProbeResultStatus
  mutation : Option ProbeMutation
  deriving DecidableEq, Repr

/-- The plan as carried out. -/
def CredentialProbeApplyPlan.applied (plan : CredentialProbeApplyPlan)
    (actor : ManagementEventActor) (scope : ProbeApplyScope) (credentialId : CredentialId)
    (reason : String) : CredentialProbeApply where
  action := plan.action
  probe := plan.probe
  mutation :=
    match credentialSetProbeApplyCommand plan.action actor scope.credentialSetId
      scope.canonicalChannelId credentialId reason with
    | some command => some (.command command)
    | none =>
        if plan.action = .cooldown then
          some (.cooldown scope.canonicalChannelId scope.credentialSetId credentialId reason)
        else none

/-- `apply_latest_credential_probe_response_for_set`, up to its mutation. -/
def applyLatestCredentialProbe (handle : CredentialStoreHandle) (actor : ManagementEventActor)
    (scope : ProbeApplyScope) (credentialId : CredentialId)
    (expectedProbeResultRef : Option String) (requireProbeResultRef : Bool) (reason : String) :
    Except ManagementServiceError CredentialProbeApply := do
  let plan ← credentialProbeApplyPlanForLatestResult handle scope credentialId
  if requireProbeResultRef then
    validateProbeApplyPrecondition expectedProbeResultRef plan
  return plan.applied actor scope credentialId reason

/-! ## §3. References. -/

theorem stripPrefix?_append (pre s : List Char) : stripPrefix? pre (pre ++ s) = some s := by
  unfold stripPrefix?
  rw [if_pos (List.isPrefixOf_iff_prefix.mpr (List.prefix_append pre s)), List.drop_left]

/-- Digits are read as the number that they are the decimal of.  A number that does not fit
into the bits is refused, not cut off. -/
theorem parseUnsigned_digits {bits : Nat} {s : List Char} (hne : s ≠ [])
    (hall : s.all Char.isDigit = true) :
    parseUnsigned bits s =
      if Nat.ofDigitChars 10 s 0 < 2 ^ bits then some (Nat.ofDigitChars 10 s 0) else none := by
  cases s with
  | nil => exact absurd rfl hne
  | cons first rest =>
      have hplus : first ≠ '+' := by
        intro heq
        rw [heq] at hall
        exact absurd (List.all_eq_true.mp hall '+' List.mem_cons_self) (by decide)
      unfold parseUnsigned
      split
      · rename_i heq
        exact absurd (List.cons_eq_cons.mp heq).1 hplus
      · dsimp only
        rw [hall]
        rfl

theorem credentialProbeResultRefForId_injective {id id' : Nat}
    (h : credentialProbeResultRefForId id = credentialProbeResultRefForId id') : id = id' :=
  Nat.repr_injective ((String.append_right_inj _).mp h)

/-- A reference that the program has made is accepted as it is.  Its digits have no leading
zero, so that normalizing writes the same text again. -/
theorem normalizeProbeResultRef_refForId {id : Nat} (h : id < 2 ^ 63) :
    normalizeProbeResultRef (credentialProbeResultRefForId id) =
      some (credentialProbeResultRefForId id) := by
  have htext : (credentialProbeResultRefForId id).toList =
      "pr:v1:id:".toList ++ Nat.toDigits 10 id := by
    unfold credentialProbeResultRefForId
    rw [String.toList_append, Nat.toString_eq_repr, Nat.toList_repr]
  have hempty : (Nat.toDigits 10 id).isEmpty = false :=
    List.isEmpty_eq_false_iff.mpr Nat.toDigits_ne_nil
  have hdigits := DecimalText.all_isDigit_toDigits id
  unfold normalizeProbeResultRef
  rw [htext, stripPrefix?_append]
  show (if _ then _ else _) = _
  rw [hempty, hdigits, if_neg (by decide), parseUnsigned_digits Nat.toDigits_ne_nil hdigits,
    Nat.ofDigitChars_ten_toDigits, if_pos h]
  rfl

/-! ## §4. What comes between. -/

/-- The results of a store are kept, and newer ones have larger ids. -/
structure ProbeStore.Extends (s s' : ProbeStore) : Prop where
  kept : ∀ record ∈ s.probeResults, record ∈ s'.probeResults
  newer : ∀ record ∈ s'.probeResults, record ∉ s.probeResults → s.lastId < record.id
  lastId_le : s.lastId ≤ s'.lastId

theorem ProbeStore.Extends.refl (s : ProbeStore) : s.Extends s :=
  ⟨fun _ h => h, fun _ h hnot => absurd h hnot, Nat.le_refl _⟩

/-- One write of the two tables.  Rows of results are added and never changed, and no
credential leaves a set. -/
theorem ProbeStore.Extends.step {s s' s'' : ProbeStore} {label : ProbeStoreLabel}
    (h : s.Extends s') (hstep : probeStoreSystem.Step s' label s'') : s.Extends s'' := by
  cases label with
  | write credentials =>
      obtain ⟨-, rfl⟩ := hstep
      exact ⟨h.kept, h.newer, h.lastId_le⟩
  | record input createdAtUnixSeconds fault =>
      cases hstep
      rcases s'.recordProbeResult_cases input createdAtUnixSeconds fault with
        hsame | ⟨record, -, hid, -, -, hnext⟩
      · rw [hsame]
        exact h
      · rw [hnext]
        refine ⟨fun other hother => List.mem_append_left _ (h.kept other hother), ?_,
          Nat.le_succ_of_le h.lastId_le⟩
        intro other hother hnot
        rcases List.mem_append.mp hother with hother | hother
        · exact h.newer other hother hnot
        · rw [List.mem_singleton.mp hother, hid]
          exact Nat.lt_succ_of_le h.lastId_le

theorem ProbeStore.Extends.run {s s' s'' : ProbeStore} {labels : List ProbeStoreLabel}
    (h : s.Extends s') (hrun : probeStoreSystem.Run s' labels s'') : s.Extends s'' := by
  induction hrun with
  | nil _ => exact h
  | cons hstep _ ih => exact ih (h.step hstep)

/-- The later store has a result of the credential that the earlier had not. -/
def ProbedSince (s s' : ProbeStore) (credentialSetId : CredentialSetId)
    (credentialId : CredentialId) : Prop :=
  ∃ record ∈ s'.probeResults, record.credentialSetId = credentialSetId ∧
    record.credentialId = credentialId ∧ record ∉ s.probeResults

section Later

variable {s s' : ProbeStore} {credentialSetId : CredentialSetId} {credentialId : CredentialId}
  {probe : CredentialProbeResultRecord}

theorem ProbeStore.Valid.loadLatest_iff (h : s.Valid) :
    s.loadLatestProbeResult credentialSetId credentialId = some probe ↔
      probe ∈ s.probeResults ∧ probe.credentialSetId = credentialSetId ∧
      probe.credentialId = credentialId ∧
      ∀ other ∈ s.probeResults, other.credentialSetId = credentialSetId →
        other.credentialId = credentialId → other.id ≤ probe.id := by
  have hmem : ∀ record, record ∈ s.probeResultsOf credentialSetId ↔
      record ∈ s.probeResults ∧ record.credentialSetId = credentialSetId := by
    intro record
    unfold ProbeStore.probeResultsOf
    rw [List.mem_filter, beq_iff_eq]
  have hascending : Ascending (·.id) (s.probeResultsOf credentialSetId) := h.ascending.filter _
  unfold ProbeStore.loadLatestProbeResult
  rw [latest_eq_some_iff hascending, hmem]
  constructor
  · intro hlatest
    obtain ⟨⟨hprobe, hset⟩, hid, hmax⟩ := hlatest
    exact ⟨hprobe, hset, hid,
      fun other hother hset hid => hmax other ((hmem other).mpr ⟨hother, hset⟩) hid⟩
  · intro hlatest
    obtain ⟨hprobe, hset, hid, hmax⟩ := hlatest
    exact ⟨⟨hprobe, hset⟩, hid, fun other hother hid =>
      hmax other ((hmem other).mp hother).1 ((hmem other).mp hother).2 hid⟩

/-- Not probed again: the latest result is the same. -/
theorem loadLatest_of_not_probed (hs : s.Valid) (hs' : s'.Valid) (hext : s.Extends s')
    (hlatest : s.loadLatestProbeResult credentialSetId credentialId = some probe)
    (hnot : ¬ ProbedSince s s' credentialSetId credentialId) :
    s'.loadLatestProbeResult credentialSetId credentialId = some probe := by
  obtain ⟨hprobe, hset, hid, hmax⟩ := hs.loadLatest_iff.mp hlatest
  refine hs'.loadLatest_iff.mpr ⟨hext.kept probe hprobe, hset, hid, ?_⟩
  intro other hother hset' hid'
  by_cases hold : other ∈ s.probeResults
  · exact hmax other hold hset' hid'
  · exact absurd ⟨other, hother, hset', hid', hold⟩ hnot

/-- Probed again: the latest result has a larger id.  Ids grow with every result that is
recorded, so the reference of an earlier plan cannot name the latest one any more. -/
theorem loadLatest_of_probed (hs : s.Valid) (hs' : s'.Valid) (hext : s.Extends s')
    (hlatest : s.loadLatestProbeResult credentialSetId credentialId = some probe)
    (hprobed : ProbedSince s s' credentialSetId credentialId) :
    ∃ probe', s'.loadLatestProbeResult credentialSetId credentialId = some probe' ∧
      probe.id < probe'.id := by
  obtain ⟨newer, hnewer, hset, hid, hnot⟩ := hprobed
  have hprobe := (hs.loadLatest_iff.mp hlatest).1
  cases hlatest' : s'.loadLatestProbeResult credentialSetId credentialId with
  | none =>
      unfold ProbeStore.loadLatestProbeResult at hlatest'
      refine absurd hid (latest_eq_none_iff.mp hlatest' newer ?_)
      exact List.mem_filter.mpr ⟨hnewer, beq_iff_eq.mpr hset⟩
  | some probe' =>
      refine ⟨probe', rfl, ?_⟩
      calc probe.id ≤ s.lastId := hs.le_lastId probe hprobe
        _ < newer.id := hext.newer newer hnewer hnot
        _ ≤ probe'.id := (hs'.loadLatest_iff.mp hlatest').2.2.2 newer hnewer hset hid

end Later

/-! ## §5. Planned and applied. -/

section Apply

variable {scope : ProbeApplyScope} {credentialId : CredentialId} {store : ProbeStore}
  {probe : CredentialProbeResultRecord}

theorem planForLatest_eq_ok_iff {plan : CredentialProbeApplyPlan} :
    credentialProbeApplyPlanForLatestResult (.sqlite store) scope credentialId = .ok plan ↔
      ∃ probe, store.loadLatestProbeResult scope.credentialSetId credentialId = some probe ∧
        scope.planFor probe = plan := by
  unfold credentialProbeApplyPlanForLatestResult
  dsimp only
  cases store.loadLatestProbeResult scope.credentialSetId credentialId with
  | none => simp
  | some probe => simp

theorem validateProbeApplyPrecondition_eq_ok_iff {expected : Option String}
    {plan : CredentialProbeApplyPlan} :
    validateProbeApplyPrecondition expected plan = .ok () ↔
      expected.bind normalizeProbeResultRef = some plan.probeResultRef := by
  unfold validateProbeApplyPrecondition
  cases expected with
  | none => simp
  | some text =>
      rw [Option.bind_some]
      dsimp only
      cases normalizeProbeResultRef text with
      | none => simp
      | some ref =>
          dsimp only
          by_cases heq : ref = plan.probeResultRef
          · rw [if_neg (not_not_intro heq), heq]
            exact iff_of_true rfl rfl
          · rw [if_pos heq]
            simp [heq]

/-- An apply is decided by its precondition. -/
theorem applyLatest_of_latest (actor : ManagementEventActor) (expected : Option String)
    (reason : String)
    (hlatest : store.loadLatestProbeResult scope.credentialSetId credentialId = some probe) :
    applyLatestCredentialProbe (.sqlite store) actor scope credentialId expected true reason =
      (validateProbeApplyPrecondition expected (scope.planFor probe)).map
        fun _ => (scope.planFor probe).applied actor scope credentialId reason := by
  have hplan := planForLatest_eq_ok_iff.mpr ⟨probe, hlatest, rfl⟩
  unfold applyLatestCredentialProbe
  rw [hplan]
  show (validateProbeApplyPrecondition expected (scope.planFor probe) >>= fun _ => _) = _
  cases validateProbeApplyPrecondition expected (scope.planFor probe) <;> rfl

end Apply

/-- A plan has been made, and the stores have been written since then, perhaps by a probe of
the same credential.  The reference of the plan is a valid one.  Without such a probe an
apply goes ahead exactly with a text of that reference, on the result that was shown, and
does the same as planned under the same scope.  After such a probe it is refused. -/
theorem probe_applied_only_as_planned {s s' : ProbeStore} {labels : List ProbeStoreLabel}
    (hs : probeStoreSystem.Reachable s) (hrun : probeStoreSystem.Run s labels s')
    {scope scope' : ProbeApplyScope} (hset : scope'.credentialSetId = scope.credentialSetId)
    {credentialId : CredentialId} {plan : CredentialProbeApplyPlan}
    (hplan : credentialProbeApplyPlanForLatestResult (.sqlite s) scope credentialId = .ok plan)
    (actor : ManagementEventActor) (reason : String) :
    normalizeProbeResultRef plan.probeResultRef = some plan.probeResultRef ∧
    (¬ ProbedSince s s' scope.credentialSetId credentialId → ∀ expected,
      ((∃ applied, applyLatestCredentialProbe (.sqlite s') actor scope' credentialId expected
          true reason = .ok applied) ↔
        expected.bind normalizeProbeResultRef = some plan.probeResultRef) ∧
      ∀ applied, applyLatestCredentialProbe (.sqlite s') actor scope' credentialId expected true
          reason = .ok applied →
        applied.probe = plan.probe ∧
        (scope' = scope → applied = plan.applied actor scope credentialId reason)) ∧
    (ProbedSince s s' scope.credentialSetId credentialId → ∀ text,
      normalizeProbeResultRef text = some plan.probeResultRef →
        applyLatestCredentialProbe (.sqlite s') actor scope' credentialId (some text) true
            reason =
          .error (.conflict "probe_result_ref does not match the latest probe result")) := by
  have hvalid := probeStore_valid hs
  have hvalid' := probeStore_valid (hs.run hrun)
  have hext := (ProbeStore.Extends.refl s).run hrun
  obtain ⟨probe, hlatest, rfl⟩ := planForLatest_eq_ok_iff.mp hplan
  have hid : probe.id < 2 ^ 63 :=
    (hvalid.le_lastId probe (hvalid.loadLatest_iff.mp hlatest).1).trans_lt hvalid.lastId_lt
  refine ⟨normalizeProbeResultRef_refForId hid, ?_, ?_⟩
  · intro hnot expected
    have hsame := loadLatest_of_not_probed hvalid hvalid' hext hlatest hnot
    rw [← hset] at hsame
    have happly := applyLatest_of_latest actor expected reason hsame
    have hok : (scope'.planFor probe).probeResultRef = (scope.planFor probe).probeResultRef := rfl
    have hprecondition := @validateProbeApplyPrecondition_eq_ok_iff expected (scope'.planFor probe)
    rw [hok] at hprecondition
    cases hvalidate : validateProbeApplyPrecondition expected (scope'.planFor probe) with
    | error err =>
        rw [hvalidate] at happly hprecondition
        rw [happly]
        refine ⟨⟨fun hexists => ?_, fun hexpected => ?_⟩, fun applied happlied => ?_⟩
        · obtain ⟨_, happlied⟩ := hexists
          cases happlied
        · cases hprecondition.mpr hexpected
        · cases happlied
    | ok _ =>
        rw [hvalidate] at happly hprecondition
        rw [happly]
        refine ⟨⟨fun _ => hprecondition.mp rfl, fun _ => ⟨_, rfl⟩⟩, fun applied happlied => ?_⟩
        cases happlied
        exact ⟨rfl, fun hscope => by rw [hscope]⟩
  · intro hprobed text htext
    obtain ⟨probe', hlatest', hlt⟩ := loadLatest_of_probed hvalid hvalid' hext hlatest hprobed
    rw [← hset] at hlatest'
    -- two ids, two references
    have hne : (scope.planFor probe).probeResultRef ≠ (scope'.planFor probe').probeResultRef :=
      fun heq => Nat.ne_of_lt hlt (credentialProbeResultRefForId_injective heq)
    rw [applyLatest_of_latest actor (some text) reason hlatest']
    unfold validateProbeApplyPrecondition
    dsimp only
    rw [htext]
    dsimp only
    rw [if_pos hne]
    rfl

/-- The pair after its first probe. -/
def exhaustedPair : ProbeStore := (pairRows.recordProbeResult (pairProbe .quotaExhausted) 1 none).1

theorem reachable_exhaustedPair : probeStoreSystem.Reachable exhaustedPair := by
  have h₀ : probeStoreSystem.Init pairRows := ⟨rfl, rfl⟩
  have h₁ : probeStoreSystem.Step pairRows (.record (pairProbe .quotaExhausted) 1 none)
      exhaustedPair := rfl
  exact (TransitionSystem.Reachable.init h₀).step h₁

def exhaustedProbe : CredentialProbeResultRecord :=
  { toCredentialProbeResultRecordInput := pairProbe .quotaExhausted
    id := 1
    createdAtUnixSeconds := 1 }

def pairScope : ProbeApplyScope where
  credentialSetId := "set"
  canonicalChannelId := "channel"
  classifierId := "default"
  probeResultPolicy :=
    { success := .restore
      invalid := .expire
      quotaExhausted := .quotaExhaust
      rateLimited := .noop
      providerUnavailable := .noop
      unsupportedModel := .noop
      unknown := .noop
      cooldown := 300 }

/-- The credential works again, so its exhaustion is not applied any more. -/
theorem probe_applied_only_as_planned_pair :
    let apply (store : ProbeStore) (text : String) :=
      applyLatestCredentialProbe (.sqlite store) ⟨"id", "operator", "admin"⟩ pairScope firstId
        (some text) true "reason"
    (∃ applied, apply exhaustedPair "pr:v1:id:001" = .ok applied) ∧
      apply probedPair "pr:v1:id:001" =
        .error (.conflict "probe_result_ref does not match the latest probe result") := by
  intro apply
  have hnone : probeStoreSystem.Run exhaustedPair [] exhaustedPair := .nil _
  have hrun : probeStoreSystem.Run exhaustedPair [.record (pairProbe .success) 2 none]
      probedPair := .cons rfl (.nil _)
  have hplan : credentialProbeApplyPlanForLatestResult (.sqlite exhaustedPair) pairScope firstId =
      .ok (pairScope.planFor exhaustedProbe) := rfl
  have htext : normalizeProbeResultRef "pr:v1:id:001" = some "pr:v1:id:1" := by decide +kernel
  -- without another probe the reference that was planned is accepted, in any spelling
  have hnot : ¬ ProbedSince exhaustedPair exhaustedPair "set" firstId := by
    intro hprobed
    obtain ⟨record, hrecord, -, -, hnew⟩ := hprobed
    exact hnew hrecord
  -- with one it is refused
  have hprobed : ProbedSince exhaustedPair probedPair "set" firstId :=
    ⟨{ exhaustedProbe with outcome := .success, id := 2, createdAtUnixSeconds := 2 },
      by decide +kernel, rfl, rfl, by decide +kernel⟩
  have hset : pairScope.credentialSetId = pairScope.credentialSetId := rfl
  have hbefore := probe_applied_only_as_planned reachable_exhaustedPair hnone hset hplan
    ⟨"id", "operator", "admin"⟩ "reason"
  have hafter := probe_applied_only_as_planned reachable_exhaustedPair hrun hset hplan
    ⟨"id", "operator", "admin"⟩ "reason"
  exact ⟨(hbefore.2.1 hnot (some "pr:v1:id:001")).1.mpr htext, hafter.2.2 hprobed _ htext⟩

end OneAiKey
