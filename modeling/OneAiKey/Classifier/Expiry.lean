/-
  OneAiKey.Classifier.Expiry — what it takes to expire a credential
  (`classify_failure` of `src/error.rs` before `transition_after_failure` of
  `src/routing.rs`).

  Expiring is final: the credential is not used again until somebody restores it.  So
  it needs evidence: a code of the upstream's or a status that the configuration names,
  an adaptation rule that says so, or a rejection by the response filter.

  Main results:
    * `expires_iff` — the kinds and scopes that expire a credential;
    * `classifyCode_expires_iff`, `classifyStatus_expires_iff` — the verdicts that do;
    * `fromResponse_withErrorText` — the text of a message is no evidence;
    * `expiry_needs_evidence` — the evidence behind every expiry.
-/
import OneAiKey.Classifier
import OneAiKey.Lib.Utf8

namespace OneAiKey

/-! ## §1. The verdicts that expire a credential. -/

def StateMutation.Expires : StateMutation → Prop
  | .expireCredential _ _ _ => True
  | _ => False

/-- Two kinds of failures of the credential expire it.  Of all mutations only the expiry of a
credential is meant, not its exhaustion or a cooldown. -/
theorem expires_iff {input : TransitionInput} {result : TransitionResult}
    (h : transitionAfterFailure input = some result) :
    result.mutation.Expires ↔
      input.failure.primaryScope = .credential ∧
        (input.failure.kind = .authInvalid ∨ input.failure.kind = .responseFilterRejected) := by
  obtain ⟨mutation, hmutation, hresult⟩ := Option.bind_eq_some_iff.mp h
  obtain rfl := Option.some.inj hresult
  show mutation.Expires ↔ _
  unfold mutationAfterFailure at hmutation
  dsimp only at hmutation
  split at hmutation
  case h_1 hkind hscope =>
      obtain rfl := Option.some.inj hmutation
      simp [hkind, hscope, StateMutation.Expires]
  case h_2 hkind hscope =>
      obtain ⟨_, -, hsome⟩ := Option.bind_eq_some_iff.mp hmutation
      obtain rfl := Option.some.inj hsome
      simp [hkind, StateMutation.Expires]
  case h_3 hkind hscope =>
      obtain rfl := Option.some.inj hmutation
      simp [hkind, StateMutation.Expires]
  case h_4 hkind hscope =>
      by_cases hsource : input.failureSource = .upstreamTransaction
      · rw [if_pos hsource] at hmutation
        obtain ⟨_, -, hsome⟩ := Option.bind_eq_some_iff.mp hmutation
        obtain rfl := Option.some.inj hsome
        simp [hkind, StateMutation.Expires]
      · rw [if_neg hsource] at hmutation
        obtain rfl := Option.some.inj hmutation
        simp [hkind, StateMutation.Expires]
  case h_5 hkind hscope =>
      cases hcooldown : input.failure.cooldown with
      | none =>
          rw [hcooldown] at hmutation
          obtain rfl := Option.some.inj hmutation
          simp [hkind, StateMutation.Expires]
      | some cooldown =>
          rw [hcooldown] at hmutation
          obtain ⟨_, -, hsome⟩ := Option.bind_eq_some_iff.mp hmutation
          obtain rfl := Option.some.inj hsome
          simp [hkind, StateMutation.Expires]
  case h_6 hkind hscope =>
      obtain rfl := Option.some.inj hmutation
      simp [hkind, hscope, StateMutation.Expires]
  case h_7 hkind hscope =>
      obtain ⟨_, -, hsome⟩ := Option.bind_eq_some_iff.mp hmutation
      obtain rfl := Option.some.inj hsome
      simp [hscope, StateMutation.Expires]
  case h_8 hkind =>
      obtain rfl := Option.some.inj hmutation
      simp [hkind, StateMutation.Expires]
  case h_9 hkind hscope =>
      obtain rfl := Option.some.inj hmutation
      simp [hkind, StateMutation.Expires]
  case h_10 hkind hscope =>
      obtain rfl := Option.some.inj hmutation
      simp [hkind, StateMutation.Expires]
  case h_11 =>
      -- neither of the two kinds is left with the scope of the credential
      obtain rfl := Option.some.inj hmutation
      constructor
      · exact fun hexpires => hexpires.elim
      · intro hcredential
        rcases hcredential.2 with hkind | hkind
        · simp_all
        · simp_all

/-- A known code blames the key switch or the client. -/
theorem knownCode_kind {code : String} {verdict : Classification}
    (h : knownCode code = some verdict) :
    verdict.1 = .keySwitchCooldown ∨ verdict.1 = .clientError := by
  unfold knownCode at h
  split at h
  · obtain rfl := Option.some.inj h
    exact Or.inl rfl
  · obtain rfl := Option.some.inj h
    exact Or.inr rfl
  · obtain rfl := Option.some.inj h
    exact Or.inr rfl
  · obtain rfl := Option.some.inj h
    exact Or.inr rfl
  · cases h

theorem ErrorClassifier.switchVerdict_kind (classifier : ErrorClassifier) (code : String) :
    (classifier.switchVerdict code).1 ≠ .authInvalid := by
  have hbalance : ∀ scope, (balanceVerdict scope).1 ≠ .authInvalid := by
    intro scope
    cases scope <;> simp [balanceVerdict]
  unfold ErrorClassifier.switchVerdict
  split
  all_goals first | exact hbalance _ | simp

/-- Only a code of the list that expires, and not of the list that keeps, has the verdict
that expires. -/
theorem ErrorClassifier.classifyCode_expires_iff {classifier : ErrorClassifier} {code : String}
    {verdict : Classification} (h : classifier.classifyCode code = some verdict) :
    verdict.1 = .authInvalid ↔ code ∈ classifier.expireCodes ∧ code ∉ classifier.keepCodes := by
  have hcontains : ∀ codes : List String, containsCode codes code = true ↔ code ∈ codes := by
    intro codes
    exact List.contains_iff_mem
  -- no code known to the classifier itself expires a credential
  have hknown : ∀ verdict, knownCode code = some verdict → verdict.1 ≠ .authInvalid := by
    intro verdict hverdict
    rcases knownCode_kind hverdict with hkind | hkind
    · simp [hkind]
    · simp [hkind]
  unfold ErrorClassifier.classifyCode at h
  by_cases hkeep : containsCode classifier.keepCodes code = true
  · rw [if_pos hkeep] at h
    obtain rfl := Option.some.inj h
    have hnot : ((knownCode code).getD (.unknown, .requestOnly, false, .low)).1 ≠
        .authInvalid := by
      cases hcode : knownCode code with
      | none => simp
      | some verdict => exact hknown verdict hcode
    exact iff_of_false hnot fun hin => hin.2 ((hcontains _).mp hkeep)
  · rw [if_neg hkeep] at h
    by_cases hexpire : containsCode classifier.expireCodes code = true
    · rw [if_pos hexpire] at h
      obtain rfl := Option.some.inj h
      exact iff_of_true rfl ⟨(hcontains _).mp hexpire, fun hin => hkeep ((hcontains _).mpr hin)⟩
    · rw [if_neg hexpire] at h
      refine iff_of_false ?_ fun hin => hexpire ((hcontains _).mpr hin.1)
      by_cases hswitch : containsCode classifier.switchCodes code = true
      · rw [if_pos hswitch] at h
        obtain rfl := Option.some.inj h
        exact classifier.switchVerdict_kind code
      · rw [if_neg hswitch] at h
        exact hknown verdict h

/-- Only a status of the list that expires, and not of the list that keeps, has the verdict
that expires, and a bare 401 or 403 of a relay has not. -/
theorem ErrorClassifier.classifyStatus_expires_iff (classifier : ErrorClassifier)
    (status : Nat) :
    (classifier.classifyStatus status).1 = .authInvalid ↔
      matchesStatus classifier.expireStatuses status = true ∧
      matchesStatus classifier.keepStatuses status = false ∧
      ¬ ((classifier.relayProfile = .genericRelay ∨ classifier.relayProfile = .untrustedRelay) ∧
        (status = 401 ∨ status = 403)) := by
  unfold ErrorClassifier.classifyStatus
  by_cases hkeep : matchesStatus classifier.keepStatuses status = true
  · simp [hkeep]
  · rw [if_neg hkeep]
    by_cases hexpire : matchesStatus classifier.expireStatuses status = true
    · rw [if_pos hexpire]
      by_cases hrelay : (classifier.relayProfile = .genericRelay ∨
          classifier.relayProfile = .untrustedRelay) ∧ (status = 401 ∨ status = 403)
      · rw [if_pos hrelay]
        exact iff_of_false nofun fun h => h.2.2 hrelay
      · rw [if_neg hrelay]
        exact iff_of_true rfl ⟨hexpire, by simpa using hkeep, hrelay⟩
    · rw [if_neg hexpire]
      refine iff_of_false ?_ fun h => hexpire h.1
      split
      · split <;> simp
      · split <;> simp

/-- An error object without a code never has it. -/
theorem ErrorClassifier.codeLess_kind (classifier : ErrorClassifier) (status : Nat) :
    (classifier.classifyCodeLessTopLevelErrorStatus status).1 ≠ .authInvalid := by
  unfold ErrorClassifier.classifyCodeLessTopLevelErrorStatus
  split <;> simp

/-! ## §2. The evidence. -/

/-- What can be behind an expiry.  The message of the response is not among it, and neither is
a rule that comes behind the first matching one. -/
inductive ExpiryEvidence (classifier : ErrorClassifier) (evidence : UpstreamErrorEvidence)
    (failure : ClassifiedFailure) : Prop where
  /-- A code that expires, and is not kept. -/
  | code {code : String} :
      evidence.code = some code → code ∈ classifier.expireCodes →
      code ∉ classifier.keepCodes → ExpiryEvidence classifier evidence failure
  /-- No code that says anything, and a status that expires. -/
  | status :
      evidence.code.bind classifier.classifyCode = none →
      matchesStatus classifier.expireStatuses evidence.status = true →
      matchesStatus classifier.keepStatuses evidence.status = false →
      ¬ ((classifier.relayProfile = .genericRelay ∨ classifier.relayProfile = .untrustedRelay) ∧
        (evidence.status = 401 ∨ evidence.status = 403)) →
      ¬ (evidence.code = none ∧ evidence.hasTopLevelErrorObject = true) →
      ExpiryEvidence classifier evidence failure
  /-- The first rule that the response meets makes it one of a bad key. -/
  | rule {rule : ErrorAdaptationRule} :
      classifier.adaptationRuleFor evidence = some rule →
      rule.action.kind.isSome = true ∨ rule.action.primaryScope.isSome = true →
      failure.kind = .authInvalid → failure.primaryScope = .credential →
      ExpiryEvidence classifier evidence failure
  /-- The response filter rejected it, and blames the credential. -/
  | filterRejection :
      failure.kind = .responseFilterRejected → failure.primaryScope = .credential →
      ExpiryEvidence classifier evidence failure

/-- Where the verdict of the code and the status expires, one of the two is evidence. -/
theorem ErrorClassifier.classifyEvidence_expires {classifier : ErrorClassifier}
    {evidence : UpstreamErrorEvidence} {failure : ClassifiedFailure}
    (h : (classifier.classifyEvidence evidence).1 = .authInvalid) :
    ExpiryEvidence classifier evidence failure := by
  unfold ErrorClassifier.classifyEvidence at h
  cases hcode : evidence.code.bind classifier.classifyCode with
  | some verdict =>
      rw [hcode] at h
      obtain ⟨code, hhas, hverdict⟩ := Option.bind_eq_some_iff.mp hcode
      obtain ⟨hexpire, hkeep⟩ := (classifyCode_expires_iff hverdict).mp h
      exact .code hhas hexpire hkeep
  | none =>
      rw [hcode] at h
      dsimp only at h
      split at h
      · exact absurd h (classifier.codeLess_kind evidence.status)
      · next hobject =>
          obtain ⟨hexpire, hkeep, hrelay⟩ :=
            (classifier.classifyStatus_expires_iff evidence.status).mp h
          refine .status hcode hexpire hkeep hrelay ?_
          intro hcodeLess
          exact hobject (by rw [hcodeLess.1, hcodeLess.2]; rfl)

/-- Every classified response that expires the credential has evidence for it. -/
theorem ErrorClassifier.classifyFailure_expires {classifier : ErrorClassifier}
    {environment : ClassifierEnvironment} {now status : Nat} {headers : List (String × String)}
    {body : Bytes}
    (hscope : (classifier.classifyFailure environment now status headers body).primaryScope =
      .credential)
    (hkind : (classifier.classifyFailure environment now status headers body).kind =
        .authInvalid ∨
      (classifier.classifyFailure environment now status headers body).kind =
        .responseFilterRejected) :
    ExpiryEvidence classifier (UpstreamErrorEvidence.fromResponse environment status body)
      (classifier.classifyFailure environment now status headers body) := by
  rcases hkind with hauth | hfilter
  -- without a rule the evidence decides, and with one the fields that it sets
  · cases hrule : classifier.adaptationRuleFor
        (UpstreamErrorEvidence.fromResponse environment status body) with
    | none =>
        apply classifyEvidence_expires
        unfold classifyFailure applyAdaptationRules at hauth
        dsimp only at hauth
        rw [hrule] at hauth
        exact hauth
    | some rule =>
        by_cases hsets : rule.action.kind.isSome = true ∨ rule.action.primaryScope.isSome = true
        · exact .rule hrule hsets hauth hscope
        · -- the rule leaves the kind as it was
          apply classifyEvidence_expires
          have hkeeps : rule.action.kind = none := by
            cases hkind : rule.action.kind with
            | none => rfl
            | some kind => exact absurd (Or.inl (by rw [hkind]; rfl)) hsets
          unfold classifyFailure applyAdaptationRules at hauth
          dsimp only at hauth
          rw [hrule] at hauth
          unfold ErrorAdaptationRule.apply at hauth
          dsimp only at hauth
          rw [hkeeps] at hauth
          exact hauth
  · exact .filterRejection hfilter hscope

/-! ## §3. What is no evidence. -/

/-- The value with another text as its message, in the error object and beside it. -/
def Json.withMessage (text : String) : Json → Json
  | object fields => object (fields.map fun field =>
      if field.1 = "message" then (field.1, string text) else field)
  | value => value

def Json.withErrorText (text : String) : Json → Json
  | object fields => object (fields.map fun field =>
      if field.1 = "message" then (field.1, string text)
      else if field.1 = "error" then
        (field.1, match field.2 with
          | string _ => string text
          | value => value.withMessage text)
      else field)
  | value => value

theorem find?_map_key {α : Type} (update : String × α → String × α)
    (hkey : ∀ field, (update field).1 = field.1) (key : String) (fields : List (String × α)) :
    (fields.map update).find? (fun field => field.1 = key) =
      (fields.find? fun field => field.1 = key).map update := by
  rw [List.find?_map]
  congr 1
  congr 1
  funext field
  simp [hkey]

/-- An update of the members that keeps their names changes a member as it changes the values
of that name. -/
theorem Json.get_object_map {update : String × Json → String × Json}
    (hname : ∀ field, (update field).1 = field.1) {key : String} {f : Json → Json}
    (hvalue : ∀ value, (update (key, value)).2 = f value) (fields : List (String × Json)) :
    (object (fields.map update)).get key = ((object fields).get key).map f := by
  unfold get
  dsimp only
  rw [find?_map_key update hname]
  cases hfind : fields.find? fun field => field.1 = key with
  | none => rfl
  | some field =>
      have hkey : field.1 = key := by simpa using List.find?_some hfind
      have hupdated : (update field).2 = f field.2 := by
        rw [← hvalue field.2, ← hkey]
      exact congrArg some hupdated

/-- Another message changes no other member. -/
theorem Json.get_withMessage (text key : String) (hkey : key ≠ "message") (value : Json) :
    (value.withMessage text).get key = value.get key := by
  cases value with
  | object fields =>
      refine (get_object_map (f := id) (fun field => ?_) (fun value => ?_) fields).trans
        (congrFun Option.map_id _)
      · split <;> rfl
      · rw [if_neg hkey]
        rfl
  | _ => rfl

/-- The error of the value, with the other text. -/
theorem Json.get_error_withErrorText (text : String) (value : Json) :
    (value.withErrorText text).get "error" = (value.get "error").map fun
      | string _ => string text
      | error => error.withMessage text := by
  cases value with
  | object fields =>
      refine get_object_map (fun field => ?_) (fun value => rfl) fields
      split <;> [rfl; split <;> rfl]
  | _ => rfl

theorem Json.get_withErrorText (text key : String) (hmessage : key ≠ "message")
    (herror : key ≠ "error") (value : Json) :
    (value.withErrorText text).get key = value.get key := by
  cases value with
  | object fields =>
      refine (get_object_map (f := id) (fun field => ?_) (fun value => ?_) fields).trans
        (congrFun Option.map_id _)
      · split <;> [rfl; split <;> rfl]
      · rw [if_neg hmessage, if_neg herror]
        rfl
  | _ => rfl

theorem Json.errorField_withErrorText (text key : String) (hmessage : key ≠ "message")
    (herror : key ≠ "error") (value : Json) :
    (value.withErrorText text).errorField key = value.errorField key := by
  unfold errorField
  rw [get_error_withErrorText, get_withErrorText text key hmessage herror]
  congr 2
  cases value.get "error" with
  | none => rfl
  | some error =>
      cases error with
      | object fields => exact get_withMessage text key hmessage (object fields)
      | _ => rfl

/-- The text of a message is no evidence. -/
theorem UpstreamErrorEvidence.fromResponse_withErrorText {environment : ClassifierEnvironment}
    {status : Nat} {body body' : Bytes} {text : String}
    (h : environment.bodyValue body' = (environment.bodyValue body).map (·.withErrorText text)) :
    fromResponse environment status body' = fromResponse environment status body := by
  unfold fromResponse
  rw [h]
  cases environment.bodyValue body with
  | none => rfl
  | some value =>
      have hcode := value.errorField_withErrorText text "code" (by decide) (by decide)
      have hlimit := value.errorField_withErrorText text "limit_type" (by decide) (by decide)
      have hobject : ((value.withErrorText text).get "error").any (·.isObject) =
          (value.get "error").any (·.isObject) := by
        rw [Json.get_error_withErrorText]
        cases value.get "error" with
        | none => rfl
        | some error => cases error <;> rfl
      simp only [Option.map_some, Option.bind_some, hcode, hlimit, hobject]

/-- A response with another text is classified in the same way. -/
theorem ErrorClassifier.classifyFailure_withErrorText (classifier : ErrorClassifier)
    {environment : ClassifierEnvironment} {body body' : Bytes} {text : String}
    (h : environment.bodyValue body' = (environment.bodyValue body).map (·.withErrorText text))
    (now status : Nat) (headers : List (String × String)) :
    classifier.classifyFailure environment now status headers body' =
      classifier.classifyFailure environment now status headers body := by
  unfold classifyFailure
  rw [UpstreamErrorEvidence.fromResponse_withErrorText h]

/-- The rules behind one that the response meets do not count. -/
theorem ErrorClassifier.classifyFailure_later_rules (classifier : ErrorClassifier)
    {environment : ClassifierEnvironment} {status : Nat} {body : Bytes}
    {before after : List ErrorAdaptationRule} {rule : ErrorAdaptationRule}
    (hrules : classifier.adaptationRules = before ++ rule :: after)
    (hmeets : rule.matchesEvidence (.fromResponse environment status body) = true)
    (after' : List ErrorAdaptationRule) (now : Nat) (headers : List (String × String)) :
    ({ classifier with adaptationRules := before ++ rule :: after' } :
        ErrorClassifier).classifyFailure environment now status headers body =
      classifier.classifyFailure environment now status headers body := by
  have hfirst : ({ classifier with adaptationRules := before ++ rule :: after' } :
      ErrorClassifier).adaptationRuleFor (.fromResponse environment status body) =
        classifier.adaptationRuleFor (.fromResponse environment status body) := by
    have hfound : ∀ rules, (rule :: rules).find?
        (·.matchesEvidence (.fromResponse environment status body)) = some rule :=
      fun rules => List.find?_cons_of_pos hmeets
    unfold adaptationRuleFor
    rw [hrules, List.find?_append, List.find?_append, hfound, hfound]
  unfold classifyFailure applyAdaptationRules
  dsimp only
  rw [hfirst]
  rfl

/-! ## §4. Every expiry. -/

/-- For every classifier, response, policy and clock: when the transition expires the
credential there is evidence for it, and neither the rules behind the one that the response
meets nor the text of the message has a say in the classification. -/
theorem expiry_needs_evidence (classifier : ErrorClassifier)
    (environment : ClassifierEnvironment) (now status : Nat) (headers : List (String × String))
    (body : Bytes) :
    (∀ (input : TransitionInput) (result : TransitionResult),
      transitionAfterFailure { input with
        failure := classifier.classifyFailure environment now status headers body } =
          some result →
      result.mutation.Expires →
      ExpiryEvidence classifier (.fromResponse environment status body)
        (classifier.classifyFailure environment now status headers body)) ∧
    (∀ before rule after after', classifier.adaptationRules = before ++ rule :: after →
      rule.matchesEvidence (.fromResponse environment status body) = true →
      ({ classifier with adaptationRules := before ++ rule :: after' } :
          ErrorClassifier).classifyFailure environment now status headers body =
        classifier.classifyFailure environment now status headers body) ∧
    (∀ text body', environment.bodyValue body' =
        (environment.bodyValue body).map (·.withErrorText text) →
      classifier.classifyFailure environment now status headers body' =
        classifier.classifyFailure environment now status headers body) := by
  refine ⟨?_, ?_, ?_⟩
  · intro input result hresult hexpires
    obtain ⟨hscope, hkind⟩ := (expires_iff hresult).mp hexpires
    exact ErrorClassifier.classifyFailure_expires hscope hkind
  · intro before rule after after' hrules hmeets
    exact classifier.classifyFailure_later_rules hrules hmeets after' now headers
  · intro text body' hbody
    exact classifier.classifyFailure_withErrorText hbody now status headers

/-- What an upstream writes for a bad key, around the message. -/
def badKeyBody (message : String) : Bytes :=
  Utf8.encode "\x7b\"error\":\x7b\"code\":\"invalid_api_key\",\"message\":\"".toList ++
    Utf8.encode message.toList ++ Utf8.encode "\"\x7d\x7d".toList

def badKeyJson (message : String) : Json :=
  .object [("error", .object [("code", .string "invalid_api_key"), ("message", .string message)])]

/-- Of the bodies with a bad key, those with one of two messages are read. -/
def badKeyEnvironment : ClassifierEnvironment where
  fromSlice body :=
    match ["no such key", "key revoked"].find? (badKeyBody · == body) with
    | some message => .value (badKeyJson message)
    | none => .invalid
  parseHttpDate _ := none

theorem badKeyEnvironment_bodyValue : ∀ message ∈ ["no such key", "key revoked"],
    badKeyEnvironment.bodyValue (badKeyBody message) = some (badKeyJson message) := by
  have hfind : ∀ message ∈ ["no such key", "key revoked"],
      ["no such key", "key revoked"].find? (badKeyBody · == badKeyBody message) =
        some message := by
    decide +kernel
  intro message hmessage
  simp only [ClassifierEnvironment.bodyValue, badKeyEnvironment, hfind message hmessage]

/-- A rule for bad keys, which says nothing about the kind. -/
def notRetriedRule : ErrorAdaptationRule where
  id := "not-retried"
  enabled := true
  matcher := ⟨["invalid_api_key"], [], []⟩
  action := ⟨none, none, some false, none⟩

/-- The response with the bad key expires it, whatever rule comes second and whatever the
message. -/
theorem expiry_needs_evidence_bad_key :
    let classifier : ErrorClassifier := { ErrorClassifier.default with
      adaptationRules := [notRetriedRule] }
    let input := firstFailure ⟨false, 0, false, Duration.fromSecs 20⟩ 0
    let body := badKeyBody "no such key"
    let failure := classifier.classifyFailure badKeyEnvironment 0 401 [] body
    (∃ result, transitionAfterFailure { input with failure := failure } = some result ∧
      result.mutation.Expires ∧
      ExpiryEvidence classifier (.fromResponse badKeyEnvironment 401 body) failure) ∧
    ({ classifier with adaptationRules := [notRetriedRule, notRetriedRule] } :
      ErrorClassifier).classifyFailure badKeyEnvironment 0 401 [] body = failure ∧
    classifier.classifyFailure badKeyEnvironment 0 401 [] (badKeyBody "key revoked") =
      failure := by
  intro classifier input body failure
  obtain ⟨hexpiry, hrules, hmessage⟩ :=
    expiry_needs_evidence classifier badKeyEnvironment 0 401 [] body
  have hread := badKeyEnvironment_bodyValue "no such key" (by simp)
  have hread' := badKeyEnvironment_bodyValue "key revoked" (by simp)
  -- the status and the code of the body make it an invalid key
  have hkind : failure.kind = .authInvalid ∧ failure.primaryScope = .credential := by
    decide +kernel
  obtain ⟨result, hresult⟩ : ∃ result,
      transitionAfterFailure { input with failure := failure } = some result := by
    rw [← Option.isSome_iff_exists, transitionAfterFailure_isSome,
      mutationAfterFailure_isSome_iff]
    intro cooldown hcooldown
    dsimp only at hcooldown
    rw [hkind.1, hkind.2] at hcooldown
    cases hcooldown
  have hexpires := (expires_iff hresult).mpr ⟨hkind.2, .inl hkind.1⟩
  refine ⟨⟨result, hresult, hexpires, hexpiry input result hresult hexpires⟩, ?_, ?_⟩
  · exact hrules [] notRetriedRule [] [notRetriedRule] rfl (by decide +kernel)
  · refine hmessage "key revoked" (badKeyBody "key revoked") ?_
    rw [hread, hread']
    rfl

end OneAiKey
