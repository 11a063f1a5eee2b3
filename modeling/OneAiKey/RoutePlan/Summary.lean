/-
  OneAiKey.RoutePlan.Summary — the admission summary of a preview
  (`src/route_plan.rs`) beside the counts of a denial's telemetry (`src/proxy.rs`).

  The summary counts a candidate as blocked by what any of its reasons is; the
  telemetry looks at the candidates that are not included, and at all of their
  reasons.  What reasons can be together decides that both are the same
  (`ReasonShape`):

      planned     last-resort marks
      limited     last-resort marks, then the candidate limit
      suppressed  soft suppressions
      blocked     hard blockers

  Main result:
    * `route_admission_summary_consistent` — the counts add up, they are those of the
      telemetry, and the status says what the best tier is.
-/
import OneAiKey.Proxy
import OneAiKey.RoutePlan.Exact

namespace OneAiKey

/-! ## §1. The summary. -/

/-- Whether a request would be admitted. -/
inductive RouteAdmissionStatus where
  | available
  | lastResort
  | unavailable
  deriving DecidableEq, Repr

/-- The statuses as answers spell them. -/
def RouteAdmissionStatus.asStr : RouteAdmissionStatus → String
  | available => "available"
  | lastResort => "last_resort"
  | unavailable => "unavailable"

/-- The target that would be tried first. -/
structure RouteAdmissionSelectedTarget where
  channelId : ChannelId
  planPosition : Nat
  deriving DecidableEq, Repr

/-- A plan in counts. -/
structure RouteAdmissionSummary where
  status : RouteAdmissionStatus
  reasonCode : String
  primaryReasonCode : String
  selectedTarget : Option RouteAdmissionSelectedTarget
  candidateCount : Nat
  includedCount : Nat
  blockedCount : Nat
  softSuppressedCount : Nat
  hardBlockedCount : Nat
  lastResortUsed : Bool
  lastResortReason : Option String
  deriving DecidableEq, Repr

/-- The first hard blocker, else the first soft reason. -/
def routeAdmissionUnavailableReason (preview : RoutePreview) : String :=
  let reasons := preview.candidates.flatMap (·.reasons)
  let reason := (reasons.find? routePreviewReasonIsHardBlocker).or
    (reasons.find? routePreviewReasonIsSoftSuppression)
  (reason.map (·.asStr)).getD "no_route_candidate"

/-- The counts of a preview. -/
def routeAdmissionSummary (preview : RoutePreview) : RouteAdmissionSummary :=
  let candidateCount := preview.candidates.length
  let includedCount := preview.candidates.countP (·.included)
  let selectedCandidate := preview.candidates.find? (·.selected)
  let selectedTarget := selectedCandidate.bind fun candidate =>
    candidate.planPosition.map fun planPosition => ⟨candidate.channelId, planPosition⟩
  -- the selected candidate says whether it is a last resort
  let lastResortReason := selectedCandidate.bind fun candidate =>
    (candidate.reasons.find? routePreviewReasonIsLastResort).map (·.asStr)
  let reasonCode := lastResortReason.getD
    (if selectedTarget.isSome then "available" else routeAdmissionUnavailableReason preview)
  { status :=
      if lastResortReason.isSome then .lastResort
      else if selectedTarget.isSome then .available
      else .unavailable
    reasonCode := reasonCode
    primaryReasonCode := reasonCode
    selectedTarget := selectedTarget
    candidateCount := candidateCount
    includedCount := includedCount
    blockedCount := candidateCount - includedCount
    softSuppressedCount := preview.candidates.countP fun candidate =>
      candidate.reasons.any routePreviewReasonIsSoftSuppression
    hardBlockedCount := preview.candidates.countP fun candidate =>
      candidate.reasons.any routePreviewReasonIsHardBlocker
    lastResortUsed := lastResortReason.isSome
    lastResortReason := lastResortReason }

/-! ## §2. The telemetry of a denial. -/

/-- The families as answers spell them. -/
def EndpointKind.familyCode : EndpointKind → String
  | models => "models"
  | chatCompletions => "chat_completions"
  | responses => "responses"
  | embeddings => "embeddings"
  | generic => "generic"

/-- The telemetry of a request that was not admitted. -/
structure RouteAdmissionDenial where
  endpoint : EndpointKind
  clientTokenRef : Option String
  routeKind : String
  reasonCode : String
  blockingDomain : String
  clientVisibleStatus : Nat

/-- `RoutingTelemetry::RouteAdmissionDenied`. -/
structure RouteAdmissionDenied where
  requestId : String
  registryGeneration : Nat
  endpointFamily : String
  publicModel : Option String
  clientTokenRef : Option String
  routeKind : String
  reasonCode : String
  blockingDomain : String
  admissionStatus : String
  admissionPrimaryReasonCode : String
  clientVisibleStatus : Nat
  upstreamStatus : Option Nat
  candidateCount : Nat
  includedCount : Nat
  blockedCount : Nat
  hardBlockedCount : Nat
  softSuppressedCount : Nat
  lastResortUsed : Bool
  hardReasonCodes : List String
  softReasonCodes : List String
  deriving DecidableEq, Repr

/-- The hard and the soft codes, each in order and at most eight. -/
def admissionReasonCodes (preview : RoutePreview) : List String × List String :=
  let reasons := preview.candidates.flatMap (·.reasons)
  let soft := reasons.filter routePreviewReasonIsSoftSuppression
  let hard := reasons.filter fun reason =>
    !routePreviewReasonIsSoftSuppression reason && routePreviewReasonIsHardBlocker reason
  ((sortedTexts (hard.map (·.asStr))).take 8, (sortedTexts (soft.map (·.asStr))).take 8)

/-- The targets with a hard blocker. -/
def hardBlockedCandidateCount (preview : RoutePreview) : Nat :=
  preview.candidates.countP fun candidate =>
    !candidate.included && candidate.reasons.any routePreviewReasonIsHardBlocker

/-- The targets that only soft reasons keep out. -/
def softSuppressedCandidateCount (preview : RoutePreview) : Nat :=
  preview.candidates.countP fun candidate =>
    !candidate.included && !candidate.reasons.isEmpty &&
      candidate.reasons.all routePreviewReasonIsSoftSuppression

/-- The event that `record_route_admission_denied` records. -/
def recordRouteAdmissionDenied (preview : RoutePreview) (denial : RouteAdmissionDenial) :
    RouteAdmissionDenied :=
  let (hardReasonCodes, softReasonCodes) := admissionReasonCodes preview
  let admissionSummary := routeAdmissionSummary preview
  { requestId := preview.requestId
    registryGeneration := preview.registryGeneration
    endpointFamily := denial.endpoint.familyCode
    publicModel := preview.publicModel
    clientTokenRef := denial.clientTokenRef
    routeKind := denial.routeKind
    reasonCode := denial.reasonCode
    blockingDomain := denial.blockingDomain
    admissionStatus := admissionSummary.status.asStr
    admissionPrimaryReasonCode := admissionSummary.primaryReasonCode
    clientVisibleStatus := denial.clientVisibleStatus
    upstreamStatus := none
    candidateCount := preview.candidates.length
    includedCount := preview.candidates.countP (·.included)
    -- counted from the candidates once more, and not taken from the summary
    blockedCount := preview.candidates.countP (!·.included)
    hardBlockedCount := hardBlockedCandidateCount preview
    softSuppressedCount := softSuppressedCandidateCount preview
    lastResortUsed := preview.candidates.any fun candidate =>
      candidate.included && candidate.reasons.any routePreviewReasonIsLastResort
    hardReasonCodes := hardReasonCodes
    softReasonCodes := softReasonCodes }

/-! ## §3. Which reasons are together. -/

/-- No reason is both hard and soft. -/
theorem RoutePreviewReason.not_soft_of_hard {reason : RoutePreviewReason}
    (h : routePreviewReasonIsHardBlocker reason = true) :
    routePreviewReasonIsSoftSuppression reason = false := by
  cases reason <;> first | rfl | cases h

/-- A reason of the last resort neither blocks nor suppresses. -/
theorem RoutePreviewReason.mild_of_lastResort {reason : RoutePreviewReason}
    (h : routePreviewReasonIsLastResort reason = true) :
    routePreviewReasonIsHardBlocker reason = false ∧
      routePreviewReasonIsSoftSuppression reason = false := by
  cases reason <;> first | exact ⟨rfl, rfl⟩ | cases h

/-- The three kinds of candidates. -/
inductive ReasonShape (c : RoutePreviewCandidate) : Prop
  | included (hincluded : c.included = true)
      (hreasons : ∀ reason ∈ c.reasons, routePreviewReasonIsLastResort reason = true)
  | hard (hincluded : c.included = false)
      (hsome : ∃ reason ∈ c.reasons, routePreviewReasonIsHardBlocker reason = true)
      (hreasons : ∀ reason ∈ c.reasons, routePreviewReasonIsHardBlocker reason = true ∨
        routePreviewReasonIsLastResort reason = true)
  | soft (hincluded : c.included = false) (hsome : c.reasons ≠ [])
      (hreasons : ∀ reason ∈ c.reasons, routePreviewReasonIsSoftSuppression reason = true)

/-- What a state gives as reasons of the last resort is of that class. -/
theorem lastResortReasons_lastResort {state : Option ChannelRouteState}
    {reason : RoutePreviewReason} (h : reason ∈ lastResortReasons state) :
    routePreviewReasonIsLastResort reason = true := by
  unfold lastResortReasons at h
  split at h
  · rw [List.mem_singleton.mp h]
    rfl
  · rw [List.mem_singleton.mp h]
    rfl
  · rw [List.mem_singleton.mp h]
    rfl
  · cases h

/-- What a state gives as suppressions is soft. -/
theorem suppressionReasons_all_soft {state : Option ChannelRouteState}
    {reason : RoutePreviewReason} (h : reason ∈ suppressionReasons state) :
    routePreviewReasonIsSoftSuppression reason = true := by
  unfold suppressionReasons at h
  split at h
  · rw [List.mem_singleton.mp h]
    rfl
  · rw [List.mem_singleton.mp h]
    rfl
  · rw [List.mem_singleton.mp h]
    rfl
  · cases h

/-- Every outcome of planning has the reasons of its class. -/
theorem Outcome.shape {input : RoutePreviewInput} {route : ModelRoute} {i : Nat}
    {target : RouteTarget} {c : RoutePreviewCandidate} (h : Outcome input route i target c) :
    ReasonShape c := by
  cases h with
  | blocked hblocked hout =>
      obtain ⟨reason, rest, hcons⟩ := List.exists_cons_of_ne_nil
        (fun hnil => (hardBlockers_nil_iff input target).mp hnil hblocked)
      have hmem : reason ∈ hardBlockers input target := hcons ▸ List.mem_cons_self
      exact .hard rfl ⟨reason, hmem, hardBlockers_hard hmem⟩
        fun reason hreason => .inl (hardBlockers_hard hreason)
  | suppressed hnot hlt hout =>
      obtain ⟨reason, hreason, -⟩ := suppressionReasons_soft hlt
      exact .soft rfl (List.ne_nil_of_mem hreason) fun _ => suppressionReasons_all_soft
  | limited hnot hle hout =>
      refine .hard rfl ⟨.candidateLimit, List.mem_append_right _ (List.mem_singleton_self _), rfl⟩ ?_
      intro reason hreason
      rcases List.mem_append.mp hreason with hreason | hreason
      · exact .inr (lastResortReasons_lastResort hreason)
      · rw [List.mem_singleton.mp hreason]
        exact .inl rfl
  | planned pos hnot hle hpos => exact .included rfl fun _ => lastResortReasons_lastResort

theorem any_eq_false_of {reasons : List RoutePreviewReason} {p : RoutePreviewReason → Bool}
    (h : ∀ reason ∈ reasons, p reason = false) : reasons.any p = false := by
  rw [List.any_eq_false]
  intro reason hreason
  rw [h reason hreason]
  exact Bool.false_ne_true

/-- What the two ways of counting ask of a candidate, for each kind. -/
theorem ReasonShape.answers {c : RoutePreviewCandidate} (h : ReasonShape c) :
    (c.included = true ∧ c.reasons.any routePreviewReasonIsHardBlocker = false ∧
      c.reasons.any routePreviewReasonIsSoftSuppression = false) ∨
    (c.included = false ∧ c.reasons.any routePreviewReasonIsHardBlocker = true ∧
      c.reasons.any routePreviewReasonIsSoftSuppression = false ∧
      c.reasons.all routePreviewReasonIsSoftSuppression = false) ∨
    (c.included = false ∧ c.reasons.any routePreviewReasonIsHardBlocker = false ∧
      c.reasons.any routePreviewReasonIsSoftSuppression = true ∧
      c.reasons.all routePreviewReasonIsSoftSuppression = true ∧
      c.reasons.isEmpty = false) := by
  cases h with
  | included hincluded hreasons =>
      refine .inl ⟨hincluded, any_eq_false_of ?_, any_eq_false_of ?_⟩
      · exact fun reason hreason =>
          (RoutePreviewReason.mild_of_lastResort (hreasons reason hreason)).1
      · exact fun reason hreason =>
          (RoutePreviewReason.mild_of_lastResort (hreasons reason hreason)).2
  -- a hard blocker stands among reasons that are not soft
  | hard hincluded hsome hreasons =>
      refine .inr (.inl ⟨hincluded, List.any_eq_true.mpr hsome, any_eq_false_of ?_, ?_⟩)
      · intro reason hreason
        rcases hreasons reason hreason with hhard | hlast
        · exact RoutePreviewReason.not_soft_of_hard hhard
        · exact (RoutePreviewReason.mild_of_lastResort hlast).2
      · obtain ⟨hard, hmem, hhard⟩ := hsome
        refine List.all_eq_false.mpr ⟨hard, hmem, ?_⟩
        rw [RoutePreviewReason.not_soft_of_hard hhard]
        exact Bool.false_ne_true
  | soft hincluded hsome hreasons =>
      obtain ⟨soft, rest, hcons⟩ := List.exists_cons_of_ne_nil hsome
      have hmem : soft ∈ c.reasons := hcons ▸ List.mem_cons_self
      refine .inr (.inr ⟨hincluded, any_eq_false_of ?_,
        List.any_eq_true.mpr ⟨soft, hmem, hreasons soft hmem⟩,
        List.all_eq_true.mpr hreasons, List.isEmpty_eq_false_iff.mpr hsome⟩)
      intro reason hreason
      by_contra hhard
      have hsoft := hreasons reason hreason
      rw [RoutePreviewReason.not_soft_of_hard (Bool.eq_true_of_not_eq_false hhard)] at hsoft
      exact Bool.false_ne_true hsoft

/-! ## §4. The counts. -/

/-- Without a route there are no candidates. -/
theorem candidates_of_no_route {input : RoutePreviewInput} (h : input.route = none) :
    (previewRoute input).candidates = [] := by
  unfold previewRoute
  rw [h]

/-- Every candidate is the outcome for a target of the route. -/
theorem outcome_of_candidate {input : RoutePreviewInput} {c : RoutePreviewCandidate}
    (hc : c ∈ (previewRoute input).candidates) :
    ∃ route i target, input.route = some route ∧ route.targets[i]? = some target ∧
      Outcome input route i target c := by
  cases h : input.route with
  | none =>
      rw [candidates_of_no_route h] at hc
      cases hc
  | some route =>
      obtain ⟨i, hi⟩ := List.mem_iff_getElem?.mp hc
      have hlt : i < route.targets.length := by
        rw [← length_candidates h]
        exact (List.getElem?_eq_some_iff.mp hi).1
      obtain ⟨c', hc', houtcome⟩ := previewRoute_outcome h (List.getElem?_eq_getElem hlt)
      rw [hi] at hc'
      cases hc'
      exact ⟨route, i, _, rfl, List.getElem?_eq_getElem hlt, houtcome⟩

/-- Every candidate of a preview has the reasons of its class. -/
theorem previewRoute_shape (input : RoutePreviewInput) :
    ∀ c ∈ (previewRoute input).candidates, ReasonShape c := by
  intro c hc
  obtain ⟨route, i, target, -, -, houtcome⟩ := outcome_of_candidate hc
  exact houtcome.shape

/-- A count splits where every element that counts is in just one of the parts. -/
theorem countP_add_of_split {p q r : RoutePreviewCandidate → Bool}
    {candidates : List RoutePreviewCandidate}
    (h : ∀ c ∈ candidates, (p c = false ∧ q c = false ∧ r c = false) ∨
      (p c = true ∧ q c = true ∧ r c = false) ∨ (p c = true ∧ q c = false ∧ r c = true)) :
    candidates.countP p = candidates.countP q + candidates.countP r := by
  induction candidates with
  | nil => rfl
  | cons c candidates ih =>
      have hrest := ih fun c' hc' => h c' (List.mem_cons_of_mem c hc')
      rw [List.countP_cons, List.countP_cons, List.countP_cons, hrest]
      rcases h c List.mem_cons_self with ⟨hp, hq, hr⟩ | ⟨hp, hq, hr⟩ | ⟨hp, hq, hr⟩
      · rw [hp, hq, hr, if_neg Bool.false_ne_true]
        omega
      · rw [hp, hq, hr, if_pos rfl, if_neg Bool.false_ne_true]
        omega
      · rw [hp, hq, hr, if_pos rfl, if_neg Bool.false_ne_true]
        omega

/-- Every target that is left out is counted once, as blocked or as suppressed. -/
theorem blocked_eq_hard_add_soft {preview : RoutePreview}
    (h : ∀ c ∈ preview.candidates, ReasonShape c) :
    preview.candidates.countP (!·.included) =
      (routeAdmissionSummary preview).hardBlockedCount +
        (routeAdmissionSummary preview).softSuppressedCount := by
  refine countP_add_of_split fun c hc => ?_
  rcases (h c hc).answers with ⟨hincluded, hhard, hsoft⟩ | ⟨hincluded, hhard, hsoft, -⟩ |
    ⟨hincluded, hhard, hsoft, -⟩
  · exact .inl ⟨by rw [hincluded]; rfl, hhard, hsoft⟩
  · exact .inr (.inl ⟨by rw [hincluded]; rfl, hhard, hsoft⟩)
  · exact .inr (.inr ⟨by rw [hincluded]; rfl, hhard, hsoft⟩)

theorem hardBlockedCandidateCount_eq {preview : RoutePreview}
    (h : ∀ c ∈ preview.candidates, ReasonShape c) :
    hardBlockedCandidateCount preview = (routeAdmissionSummary preview).hardBlockedCount := by
  refine List.countP_congr fun c hc => ?_
  rcases (h c hc).answers with ⟨hincluded, hhard, -⟩ | ⟨hincluded, hhard, -⟩ |
    ⟨hincluded, hhard, -⟩
  · rw [hincluded, hhard, Bool.and_false]
  · rw [hincluded, hhard]
    rfl
  · rw [hincluded, hhard, Bool.and_false]

theorem softSuppressedCandidateCount_eq {preview : RoutePreview}
    (h : ∀ c ∈ preview.candidates, ReasonShape c) :
    softSuppressedCandidateCount preview =
      (routeAdmissionSummary preview).softSuppressedCount := by
  refine List.countP_congr fun c hc => ?_
  rcases (h c hc).answers with ⟨hincluded, -, hsoft⟩ | ⟨hincluded, -, hsoft, hall⟩ |
    ⟨hincluded, -, hsoft, hall, hempty⟩
  · rw [hincluded, hsoft]
    rfl
  · rw [hsoft, hall, Bool.and_false]
  · rw [hincluded, hsoft, hall, hempty]
    rfl

/-- The blocked candidates of the summary are those that are not included. -/
theorem blockedCount_eq (preview : RoutePreview) :
    (routeAdmissionSummary preview).blockedCount = preview.candidates.countP (!·.included) := by
  show preview.candidates.length - preview.candidates.countP (·.included) = _
  have htotal : preview.candidates.length = preview.candidates.countP (·.included) +
      preview.candidates.countP fun c => ¬c.included :=
    List.length_eq_countP_add_countP fun c : RoutePreviewCandidate => c.included
  have hnot : preview.candidates.countP (!·.included) =
      preview.candidates.countP fun c => ¬c.included := by
    refine List.countP_congr fun c _ => ?_
    cases c.included <;> rfl
  rw [hnot]
  omega

/-! ## §5. The status. -/

/-- The best tier of the targets without a hard blocker is not `Available`: none of
them is in that tier. -/
def BestTierSoft (input : RoutePreviewInput) : Prop :=
  ∀ route ∈ input.route, ∀ target ∈ route.targets, ¬ HardBlocked input target →
    routeStateAdmissionTier (input.channelStates target.channelId) ≠ .available

theorem any_lastResortReasons_iff (state : Option ChannelRouteState) :
    (lastResortReasons state).any routePreviewReasonIsLastResort = true ↔
      0 < (routeStateAdmissionTier state).rank := by
  cases state with
  | none => decide
  | some state => cases state <;> decide

theorem rank_pos_iff {tier : RouteAdmissionTier} : 0 < tier.rank ↔ tier ≠ .available := by
  cases tier <;> decide

section Status

variable {input : RoutePreviewInput} {route : ModelRoute}

/-- An included candidate is marked as a last resort just when there is nothing better. -/
theorem Outcome.lastResort_iff {i : Nat} {target : RouteTarget} {c : RoutePreviewCandidate}
    (hroute : input.route = some route) (ht : route.targets[i]? = some target)
    (h : Outcome input route i target c) (hincluded : c.included = true) :
    c.reasons.any routePreviewReasonIsLastResort = true ↔ BestTierSoft input := by
  cases h with
  | blocked hblocked hout => cases hincluded
  | suppressed hnot hlt hout => cases hincluded
  | limited hnot hle hout => cases hincluded
  | planned pos hnot hle hpos =>
      show (lastResortReasons (input.channelStates target.channelId)).any _ = true ↔ _
      rw [any_lastResortReasons_iff]
      constructor
      · intro hpositive route' hroute' other hother hnot'
        obtain rfl : route = route' := Option.some.inj (hroute.symm.trans hroute')
        -- an included candidate is in the best tier, so no other is in a better one
        obtain ⟨j, hj⟩ := List.mem_iff_getElem?.mp hother
        have hmem : entryOf j other ∈ sortedEntries input route :=
          (mem_sortedEntries input route _).mpr ⟨other, hj, hnot', rfl⟩
        have hbest := @preferredRank_le input _ _ hmem
        exact rank_pos_iff.mp (Nat.lt_of_lt_of_le hpositive (hle.trans hbest))
      · intro hbest
        exact rank_pos_iff.mpr (hbest route hroute target (List.mem_of_getElem? ht) hnot)

/-- The selected candidate is the one that is planned first. -/
theorem selected_eq_position_zero {c : RoutePreviewCandidate}
    (hc : c ∈ (previewRoute input).candidates) :
    c.selected = decide (c.planPosition = some 0) := by
  obtain ⟨route, i, target, -, -, houtcome⟩ := outcome_of_candidate hc
  have hverdict := houtcome.verdict
  rw [Bool.eq_iff_iff, decide_eq_true_iff, hverdict.selected_iff, hverdict.position_iff,
    List.head?_eq_getElem?]

/-- If one candidate is included, one is selected. -/
theorem exists_selected {c : RoutePreviewCandidate}
    (hc : c ∈ (previewRoute input).candidates) (hincluded : c.included = true) :
    ∃ selected, (previewRoute input).candidates.find? (·.selected) = some selected := by
  obtain ⟨route, i, target, hroute, -, houtcome⟩ := outcome_of_candidate hc
  have hplanned := houtcome.verdict.included_iff.mp hincluded
  have hindex := selectedTargetIndex_eq hroute
  have hselected : (previewRoute input).selectedTargetIndex =
      ((previewRoute input).candidates.find? (·.selected)).map (·.targetIndex) := by
    unfold previewRoute
    rw [hroute]
  cases hfind : (previewRoute input).candidates.find? (·.selected) with
  | some selected => exact ⟨selected, rfl⟩
  | none =>
      rw [hselected, hfind] at hindex
      rw [List.head?_eq_none_iff.mp hindex.symm] at hplanned
      cases hplanned

/-- The included candidates are marked together or not at all. -/
theorem included_lastResort_iff {c : RoutePreviewCandidate}
    (hc : c ∈ (previewRoute input).candidates) (hincluded : c.included = true) :
    c.reasons.any routePreviewReasonIsLastResort = true ↔ BestTierSoft input := by
  obtain ⟨route, i, target, hroute, ht, houtcome⟩ := outcome_of_candidate hc
  exact houtcome.lastResort_iff hroute ht hincluded

theorem find_selected_eq (input : RoutePreviewInput) :
    (previewRoute input).candidates.find? (·.selected) =
      (previewRoute input).candidates.find? fun c => c.planPosition = some 0 := by
  rw [← List.head?_filter, ← List.head?_filter]
  exact congrArg _ (List.filter_congr fun c hc => selected_eq_position_zero hc)

/-- The selected candidate is included, at position 0. -/
theorem selected_spec {c : RoutePreviewCandidate}
    (h : (previewRoute input).candidates.find? (·.selected) = some c) :
    c ∈ (previewRoute input).candidates ∧ c.included = true ∧ c.planPosition = some 0 := by
  have hc := List.mem_of_find?_eq_some h
  have hposition : c.planPosition = some 0 := by
    rw [find_selected_eq] at h
    simpa using List.find?_some h
  obtain ⟨route, i, target, -, -, houtcome⟩ := outcome_of_candidate hc
  have hplanned := (houtcome.verdict.position_iff 0).mp hposition
  exact ⟨hc, houtcome.verdict.included_iff.mpr (List.mem_of_getElem? hplanned), hposition⟩

/-- One is selected just when one is included. -/
theorem selected_isSome_iff (input : RoutePreviewInput) :
    ((previewRoute input).candidates.find? (·.selected)).isSome = true ↔
      ∃ c ∈ (previewRoute input).candidates, c.included = true := by
  constructor
  · intro h
    obtain ⟨c, hfind⟩ := Option.isSome_iff_exists.mp h
    obtain ⟨hc, hincluded, -⟩ := selected_spec hfind
    exact ⟨c, hc, hincluded⟩
  · intro ⟨c, hc, hincluded⟩
    obtain ⟨selected, hfind⟩ := exists_selected hc hincluded
    rw [hfind]
    rfl

/-- The target of the summary is the candidate at position 0. -/
theorem selectedTarget_eq (input : RoutePreviewInput) :
    (routeAdmissionSummary (previewRoute input)).selectedTarget =
      ((previewRoute input).candidates.find? fun c => c.planPosition = some 0).map fun c =>
        ⟨c.channelId, 0⟩ := by
  show ((previewRoute input).candidates.find? (·.selected)).bind _ = _
  rw [← find_selected_eq]
  cases hfind : (previewRoute input).candidates.find? (·.selected) with
  | none => rfl
  | some c =>
      show c.planPosition.map _ = _
      rw [(selected_spec hfind).2.2]
      rfl

/-- The summary has a last-resort reason when something is included, and nothing that
is not blocked is available. -/
theorem lastResortUsed_iff (input : RoutePreviewInput) :
    (routeAdmissionSummary (previewRoute input)).lastResortUsed = true ↔
      (∃ c ∈ (previewRoute input).candidates, c.included = true) ∧ BestTierSoft input := by
  show (((previewRoute input).candidates.find? (·.selected)).bind fun candidate =>
    (candidate.reasons.find? routePreviewReasonIsLastResort).map (·.asStr)).isSome = true ↔ _
  rw [← selected_isSome_iff]
  cases hfind : (previewRoute input).candidates.find? (·.selected) with
  | none => simp
  | some c =>
      obtain ⟨hc, hincluded, -⟩ := selected_spec hfind
      show ((c.reasons.find? routePreviewReasonIsLastResort).map _).isSome = true ↔ _
      rw [Option.isSome_map, List.find?_isSome, ← included_lastResort_iff hc hincluded,
        List.any_eq_true]
      simp

/-- The telemetry asks every included candidate, the summary only the selected one. -/
theorem telemetry_lastResortUsed_iff (input : RoutePreviewInput) (denial : RouteAdmissionDenial) :
    (recordRouteAdmissionDenied (previewRoute input) denial).lastResortUsed = true ↔
      (∃ c ∈ (previewRoute input).candidates, c.included = true) ∧ BestTierSoft input := by
  show ((previewRoute input).candidates.any fun candidate => candidate.included &&
    candidate.reasons.any routePreviewReasonIsLastResort) = true ↔ _
  rw [List.any_eq_true]
  constructor
  · intro ⟨c, hc, hmarked⟩
    obtain ⟨hincluded, hmarked⟩ := (Bool.and_eq_true _ _).mp hmarked
    exact ⟨⟨c, hc, hincluded⟩, (included_lastResort_iff hc hincluded).mp hmarked⟩
  · intro ⟨⟨c, hc, hincluded⟩, hbest⟩
    refine ⟨c, hc, ?_⟩
    rw [hincluded, (included_lastResort_iff hc hincluded).mpr hbest]
    rfl

/-- There is a first target just when some target is planned. -/
theorem selectedTarget_isSome_iff (input : RoutePreviewInput) :
    (routeAdmissionSummary (previewRoute input)).selectedTarget.isSome = true ↔
      ∃ c ∈ (previewRoute input).candidates, c.included = true := by
  rw [selectedTarget_eq, Option.isSome_map, ← find_selected_eq, selected_isSome_iff]

end Status

/-- The counts add up and are those of the telemetry; the status says whether something
is included, and from which tier; the selected target is the first of the plan. -/
theorem route_admission_summary_consistent (input : RoutePreviewInput)
    (denial : RouteAdmissionDenial) :
    let preview := previewRoute input
    let summary := routeAdmissionSummary preview
    let telemetry := recordRouteAdmissionDenied preview denial
    (summary.candidateCount = summary.includedCount + summary.blockedCount ∧
      summary.blockedCount = summary.hardBlockedCount + summary.softSuppressedCount) ∧
    (telemetry.candidateCount = summary.candidateCount ∧
      telemetry.includedCount = summary.includedCount ∧
      telemetry.blockedCount = summary.blockedCount ∧
      telemetry.hardBlockedCount = summary.hardBlockedCount ∧
      telemetry.softSuppressedCount = summary.softSuppressedCount ∧
      telemetry.lastResortUsed = summary.lastResortUsed) ∧
    ((summary.status = .unavailable ↔ ∀ c ∈ preview.candidates, c.included = false) ∧
      (summary.status = .lastResort ↔
        BestTierSoft input ∧ ∃ c ∈ preview.candidates, c.included = true) ∧
      (summary.status = .available ↔
        ¬BestTierSoft input ∧ ∃ c ∈ preview.candidates, c.included = true)) ∧
    summary.selectedTarget =
      (preview.candidates.find? fun c => c.planPosition = some 0).map fun c =>
        ⟨c.channelId, 0⟩ := by
  intro preview summary telemetry
  -- every candidate is included, blocked for good, or put behind others
  have hshape := previewRoute_shape input
  have hblocked : summary.blockedCount = preview.candidates.countP (!·.included) :=
    blockedCount_eq preview
  have hlast : summary.lastResortUsed = true ↔
      (∃ c ∈ preview.candidates, c.included = true) ∧ BestTierSoft input :=
    lastResortUsed_iff input
  have hselected : summary.selectedTarget.isSome = true ↔
      ∃ c ∈ preview.candidates, c.included = true := selectedTarget_isSome_iff input
  refine ⟨⟨?_, hblocked.trans (blocked_eq_hard_add_soft hshape)⟩,
    ⟨rfl, rfl, hblocked.symm, hardBlockedCandidateCount_eq hshape,
      softSuppressedCandidateCount_eq hshape, ?_⟩, ?_, selectedTarget_eq input⟩
  -- what is not included is blocked
  · show preview.candidates.length = preview.candidates.countP (·.included) +
      (preview.candidates.length - preview.candidates.countP (·.included))
    have := List.countP_le_length (p := fun c : RoutePreviewCandidate => c.included)
      (l := preview.candidates)
    omega
  · rw [Bool.eq_iff_iff, hlast]
    exact telemetry_lastResortUsed_iff input denial
  · -- the status asks two questions in turn: a soft best tier, something included
    have hnone : (∀ c ∈ preview.candidates, c.included = false) ↔
        ¬∃ c ∈ preview.candidates, c.included = true := by simp
    rw [hnone]
    have hstatus : summary.status = if summary.lastResortUsed then .lastResort
      else if summary.selectedTarget.isSome then .available else .unavailable := rfl
    rw [hstatus]
    by_cases hincluded : ∃ c ∈ preview.candidates, c.included = true
    · rw [hselected.mpr hincluded]
      by_cases hbest : BestTierSoft input
      · rw [hlast.mpr ⟨hincluded, hbest⟩]
        simp [hincluded, hbest]
      · have hfalse : summary.lastResortUsed = false :=
          Bool.eq_false_iff.mpr fun h => hbest (hlast.mp h).2
        rw [hfalse]
        simp [hincluded, hbest]
    · have hfalse : summary.lastResortUsed = false :=
        Bool.eq_false_iff.mpr fun h => hincluded (hlast.mp h).1
      have hnot : summary.selectedTarget.isSome = false :=
        Bool.eq_false_iff.mpr fun h => hincluded (hselected.mp h)
      rw [hfalse, hnot]
      simp only [hincluded]
      simp

end OneAiKey
