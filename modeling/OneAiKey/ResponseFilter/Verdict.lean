/-
  OneAiKey.ResponseFilter.Verdict — the verdict of a policy, taken apart into its rules
  (`inspect_text_with_required_missing` of `src/response_filter.rs`).

  Every rule is tried on the text as it came; only the redacted text goes from rule to
  rule.  So a run over the rules is

    the rules that trigger, up to the first rejecting one   —  kind and matches
    the redactions of those before it, one after another    —  the text, or a fault

  Main results:
    * `inspectRules_eq` — this decomposition;
    * `redactLiteral_ends_iff` — the search loop ends, unless the literal has no visible
      character and the text has one;
    * `inspect_text_ends_iff` — when a whole policy ends.
-/
import Mathlib.Data.List.TakeWhile
import OneAiKey.Lib.Collect
import OneAiKey.ResponseFilter.Literal

namespace OneAiKey

open Redaction

/-! ## §1. One rule. -/

namespace CompiledResponseFilterRule

/-- A literal or a pattern triggers when it matches, a required one when it is allowed to be
missing and is. -/
def triggers (tables : CaseTables) (text : Text) (allowRequiredMissing : Bool)
    (rule : CompiledResponseFilterRule) : Bool :=
  match rule.matcher with
  | .literal _ normalizedValue caseSensitive =>
      contains (normalizeFilterText tables text caseSensitive) normalizedValue
  | .regex regex => regex.isMatch text
  | .requiredLiteral normalizedValue caseSensitive =>
      allowRequiredMissing &&
        !contains (normalizeFilterText tables text caseSensitive) normalizedValue
  | .requiredRegex regex => allowRequiredMissing && !regex.isMatch text

/-- The match that is reported. -/
def reported (rule : CompiledResponseFilterRule) : ResponseFilterMatch :=
  match rule.matcher with
  | .literal .. | .regex _ => rule.ruleMatched
  | .requiredLiteral .. | .requiredRegex _ => rule.requiredRuleMissing

/-- What a redacting rule makes of the text that the rules before it left. -/
def redact (tables : CaseTables) (replacement redactedText : Text)
    (rule : CompiledResponseFilterRule) : Except Fault Text :=
  match rule.matcher with
  | .literal value _ caseSensitive =>
      redactLiteral tables redactedText value caseSensitive replacement
  | .regex regex => .ok (regex.replaceAll redactedText replacement)
  | .requiredLiteral .. | .requiredRegex _ => .ok replacement

end CompiledResponseFilterRule

/-! ## §2. All rules. -/

/-- The rules up to the first rejecting one, with it. -/
def upToRejecting : List CompiledResponseFilterRule → List CompiledResponseFilterRule
  | [] => []
  | rule :: rules => if rule.action.isRejecting then [rule] else rule :: upToRejecting rules

/-- The rules before the first rejecting one. -/
def beforeRejecting (rules : List CompiledResponseFilterRule) : List CompiledResponseFilterRule :=
  rules.takeWhile fun rule => !rule.action.isRejecting

/-- The decision at the end of a run over the rules. -/
def decisionOf (matched : List ResponseFilterMatch) (rejects : Bool) (redactedText : Text) :
    ResponseFilterDecision :=
  if rejects then .rejected matched
  else if matched.isEmpty then .unchanged
  else .redacted redactedText matched

section Rules

variable (tables : CaseTables) (replacement text : Text) (allowRequiredMissing : Bool)

/-- The rules that trigger on the text. -/
def triggeredRules (rules : List CompiledResponseFilterRule) : List CompiledResponseFilterRule :=
  rules.filter fun rule => rule.triggers tables text allowRequiredMissing

/-- The redactions of the rules, one after another. -/
def redactAll (rules : List CompiledResponseFilterRule) (redactedText : Text) :
    Except Fault Text :=
  rules.foldlM (fun left rule => rule.redact tables replacement left) redactedText

/-- One round of the loop over the rules. -/
theorem inspectRules_cons (rule : CompiledResponseFilterRule)
    (rules : List CompiledResponseFilterRule) (matched : List ResponseFilterMatch)
    (redactedText : Text) :
    inspectRules tables replacement text allowRequiredMissing (rule :: rules) matched
        redactedText =
      if rule.triggers tables text allowRequiredMissing then
        if rule.action.isRejecting then .ok (.rejected (matched ++ [rule.reported]))
        else (rule.redact tables replacement redactedText).bind fun left =>
          inspectRules tables replacement text allowRequiredMissing rules
            (matched ++ [rule.reported]) left
      else inspectRules tables replacement text allowRequiredMissing rules matched
        redactedText := by
  obtain ⟨id, action, matcher⟩ := rule
  conv_lhs => unfold inspectRules
  cases matcher with
  | literal value normalizedValue caseSensitive =>
      show (if (!contains (normalizeFilterText tables text caseSensitive) normalizedValue) = true
        then _ else _) = if contains (normalizeFilterText tables text caseSensitive)
          normalizedValue = true then _ else _
      cases contains (normalizeFilterText tables text caseSensitive) normalizedValue <;> rfl
  | regex regex =>
      show (if (!regex.isMatch text) = true then _ else _) =
        if regex.isMatch text = true then _ else _
      cases regex.isMatch text <;> rfl
  -- a required rule asks the opposite, and only of a text that it must be in
  | requiredLiteral normalizedValue caseSensitive =>
      show (if contains (normalizeFilterText tables text caseSensitive) normalizedValue = true
        then _ else if (!allowRequiredMissing) = true then _ else _) =
        if (allowRequiredMissing &&
          !contains (normalizeFilterText tables text caseSensitive) normalizedValue) = true
        then _ else _
      cases contains (normalizeFilterText tables text caseSensitive) normalizedValue <;>
        cases allowRequiredMissing <;> rfl
  | requiredRegex regex =>
      show (if regex.isMatch text = true then _ else
        if (!allowRequiredMissing) = true then _ else _) =
        if (allowRequiredMissing && !regex.isMatch text) = true then _ else _
      cases regex.isMatch text <;> cases allowRequiredMissing <;> rfl

/-- **A run over the rules**: the rules that trigger decide, and the ones before the first
rejecting one redact. -/
theorem inspectRules_eq (rules : List CompiledResponseFilterRule)
    (matched : List ResponseFilterMatch) (redactedText : Text) :
    inspectRules tables replacement text allowRequiredMissing rules matched redactedText =
      (redactAll tables replacement
        (beforeRejecting (triggeredRules tables text allowRequiredMissing rules))
        redactedText).map
        (decisionOf
          (matched ++ (upToRejecting (triggeredRules tables text allowRequiredMissing
            rules)).map (·.reported))
          ((triggeredRules tables text allowRequiredMissing rules).any
            (·.action.isRejecting))) := by
  induction rules generalizing matched redactedText with
  | nil =>
      show _ = (Except.ok redactedText).map _
      simp [inspectRules, triggeredRules, upToRejecting, decisionOf, Except.map]
  | cons rule rules ih =>
      rw [inspectRules_cons]
      by_cases htriggers : rule.triggers tables text allowRequiredMissing = true
      · have hcons : triggeredRules tables text allowRequiredMissing (rule :: rules) =
            rule :: triggeredRules tables text allowRequiredMissing rules :=
          List.filter_cons_of_pos htriggers
        rw [if_pos htriggers, hcons]
        cases hrejecting : rule.action.isRejecting with
        | true =>
            -- the run ends here, with what was redacted before
            simp [beforeRejecting, upToRejecting, redactAll, decisionOf, hrejecting, Except.map,
              pure, Except.pure]
        | false =>
            have hbefore : beforeRejecting
                (rule :: triggeredRules tables text allowRequiredMissing rules) =
                rule :: beforeRejecting (triggeredRules tables text allowRequiredMissing rules) :=
              List.takeWhile_cons_of_pos (by rw [hrejecting]; rfl)
            have hupTo : upToRejecting
                (rule :: triggeredRules tables text allowRequiredMissing rules) =
                rule :: upToRejecting (triggeredRules tables text allowRequiredMissing rules) := by
              conv_lhs => unfold upToRejecting
              rw [hrejecting]
              rfl
            rw [hbefore, hupTo, List.any_cons, hrejecting, Bool.false_or, List.map_cons,
              if_neg Bool.false_ne_true]
            unfold redactAll
            rw [List.foldlM_cons]
            cases rule.redact tables replacement redactedText with
            | error fault => rfl
            | ok left =>
                show inspectRules tables replacement text allowRequiredMissing rules
                  (matched ++ [rule.reported]) left = _
                rw [ih, List.append_assoc, List.singleton_append]
                rfl
      · have hskip : triggeredRules tables text allowRequiredMissing (rule :: rules) =
            triggeredRules tables text allowRequiredMissing rules :=
          List.filter_cons_of_neg htriggers
        rw [if_neg htriggers, ih, hskip]

end Rules

theorem mem_beforeRejecting {rules : List CompiledResponseFilterRule}
    {rule : CompiledResponseFilterRule} (h : rule ∈ beforeRejecting rules) :
    rule ∈ rules ∧ rule.action = .redact := by
  refine ⟨(List.takeWhile_prefix _).subset h, ?_⟩
  have hnot := List.mem_takeWhile_imp h
  cases haction : rule.action with
  | redact => rfl
  | reject | rejectAndExpireCredential | rejectAndCooldownChannel =>
      rw [haction] at hnot
      cases hnot

/-- A whole policy, on a text that it looks at. -/
theorem inspectTextWithRequiredMissing_eq {tables : CaseTables} {policy : ResponseFilterPolicy}
    {text : Text} (henabled : policy.enabled = true) (htext : text ≠ [])
    (allowRequiredMissing : Bool) :
    policy.inspectTextWithRequiredMissing tables text allowRequiredMissing =
      (redactAll tables policy.replacement
        (beforeRejecting (triggeredRules tables text allowRequiredMissing policy.rules))
        text).map
        (decisionOf
          ((upToRejecting (triggeredRules tables text allowRequiredMissing
            policy.rules)).map (·.reported))
          ((triggeredRules tables text allowRequiredMissing policy.rules).any
            (·.action.isRejecting))) := by
  have hrun := inspectRules_eq tables policy.replacement text allowRequiredMissing policy.rules
    [] text
  rw [List.nil_append] at hrun
  rw [← hrun]
  unfold ResponseFilterPolicy.inspectTextWithRequiredMissing
  by_cases hrules : policy.rules = []
  · -- without rules the loop says the same
    rw [hrules]
    simp [inspectRules]
  · rw [if_neg (by simp [henabled, hrules, htext])]

/-! ## §3. The search loop ends. -/

section Ends

variable {tables : CaseTables} {caseSensitive : Bool} {replacement normalizedValue : Text}

/-- A literal with a visible character: each round passes a character of the searched text. -/
theorem redactLoop_ends (hvalue : normalizedValue ≠ []) (fuel : Nat) :
    ∀ {done rest passed leftover result : Text},
      searchedText tables caseSensitive done = passed ++ leftover →
      (leftover ++ searchedText tables caseSensitive rest).length < fuel →
      redactLoop (done ++ rest) replacement
        (normalizedTextWithOriginalRanges tables caseSensitive 0 (done ++ rest)) normalizedValue
        fuel result (byteLen done) (byteLen passed) ≠ .error .diverged := by
  induction fuel with
  | zero =>
      intro done rest passed leftover result _ hfuel
      omega
  | succ fuel ih =>
      intro done rest passed leftover result hdone hfuel
      cases hfound : (leftover ++ searchedText tables caseSensitive rest).dropInfix?
          normalizedValue with
      | none =>
          rw [redactLoop_rest hdone hfound]
          nofun
      | some found =>
          obtain ⟨before, behind⟩ := found
          rcases redactLoop_found hvalue fuel result hdone hfound with
            ⟨-, hpanics⟩ | ⟨-, kept, spanned, ch, rest', leftover', hrest, -, -, hdone', hnext⟩
          · rw [hpanics]
            nofun
          · have hsplit := (dropInfix_eq_some_iff.mp hfound).1
            have hpos := List.length_pos_iff.mpr hvalue
            -- what is left to search got shorter by the occurrence and what stood before it
            have hleft : leftover' ++ searchedText tables caseSensitive rest' = behind := by
              have hwhole : passed ++ before ++ normalizedValue ++
                  (leftover' ++ searchedText tables caseSensitive rest') =
                  passed ++ before ++ normalizedValue ++ behind := by
                rw [← List.append_assoc, ← hdone', ← searchedText_append,
                  show done ++ kept ++ (spanned ++ [ch]) ++ rest' = done ++ rest by
                    rw [hrest]; simp only [List.append_assoc],
                  searchedText_append, hdone, List.append_assoc, hsplit]
                simp only [List.append_assoc]
              exact List.append_cancel_left hwhole
            have hshorter : behind.length < fuel := by
              have hlength := congrArg List.length hsplit
              simp only [List.length_append] at hlength hfuel
              omega
            rw [hnext]
            subst hrest
            rw [show done ++ (kept ++ (spanned ++ [ch]) ++ rest') =
              done ++ kept ++ (spanned ++ [ch]) ++ rest' by simp only [List.append_assoc]]
            exact ih hdone' (by rw [hleft]; exact hshorter)

/-- A literal without one is found where the search starts, and the search starts there
again: with no fuel does the loop end. -/
theorem redactLoop_blank {text : Text} (htext : searchedText tables caseSensitive text ≠ [])
    (fuel : Nat) (result : Text) :
    redactLoop text replacement (normalizedTextWithOriginalRanges tables caseSensitive 0 text) []
      fuel result 0 0 = .error .diverged := by
  obtain ⟨left, ch, right, rfl, -, -, hstart⟩ :=
    @originalStartFor_split tables caseSensitive text [] _ (List.nil_append _).symm htext
  have hsearched : sliceFrom (normalizedTextWithOriginalRanges tables caseSensitive 0
      (left ++ ch :: right)).text 0 =
      .ok (searchedText tables caseSensitive (left ++ ch :: right)) := by
    rw [text_normalizedText]
    exact sliceFrom_byteLen [] _
  have hfind : find (searchedText tables caseSensitive (left ++ ch :: right)) [] = some 0 := by
    unfold find
    cases searchedText tables caseSensitive (left ++ ch :: right) <;> rfl
  have hend : (normalizedTextWithOriginalRanges tables caseSensitive 0
      (left ++ ch :: right)).originalEndFor 0 = .ok (some 0) := by
    have hnone : ∀ l : Text, sliceTo l 0 = .ok [] := fun l => sliceTo_byteLen [] l
    unfold NormalizedText.originalEndFor
    rw [hnone]
    rfl
  have hslice : slice (left ++ ch :: right) 0 (byteLen left) = .ok left :=
    slice_byteLen [] left (ch :: right)
  rw [byteLen_nil] at hstart
  induction fuel generalizing result with
  | zero => rfl
  | succ fuel ih =>
      -- both cursors are back at the beginning, with a longer result
      unfold redactLoop
      simp only [hsearched, hfind, byteLen_nil, Nat.add_zero, hstart, hend, hslice, bind,
        Except.bind]
      exact ih _

/-- With nothing visible in the text either, the first round is the last. -/
theorem redactLoop_invisible {text : Text} (htext : searchedText tables caseSensitive text = [])
    (fuel : Nat) :
    redactLoop text replacement (normalizedTextWithOriginalRanges tables caseSensitive 0 text) []
      (fuel + 1) [] 0 0 = .ok text := by
  have hnormalized : (normalizedTextWithOriginalRanges tables caseSensitive 0 text).text = [] := by
    rw [text_normalizedText, htext]
  -- no character is searched, so none has a place in the original
  have hranges : (normalizedTextWithOriginalRanges tables caseSensitive 0 text).originalRanges[0]? =
      none := by
    rw [List.getElem?_eq_none_iff, length_originalRanges, hnormalized]
    exact Nat.le_refl 0
  have hstart : (normalizedTextWithOriginalRanges tables caseSensitive 0 text).originalStartFor 0 =
      .ok none := by
    unfold NormalizedText.originalStartFor
    rw [hnormalized]
    show Except.ok _ = _
    rw [show ([] : Text).length = 0 from rfl, hranges]
    rfl
  unfold redactLoop
  rw [hnormalized]
  show ((normalizedTextWithOriginalRanges tables caseSensitive 0 text).originalStartFor 0).bind _ =
    _
  rw [hstart]
  show (sliceFrom text 0).bind _ = _
  rw [show sliceFrom text 0 = .ok text from sliceFrom_byteLen [] text]
  rfl

/-- **The search of a literal** ends, unless only the text has a visible character. -/
theorem redactLiteral_ends_iff {text value : Text} :
    redactLiteral tables text value caseSensitive replacement ≠ .error .diverged ↔
      normalizeFilterText tables value caseSensitive ≠ [] ∨
        searchedText tables caseSensitive text = [] := by
  unfold redactLiteral
  by_cases hvalue : normalizeFilterText tables value caseSensitive = []
  · by_cases htext : searchedText tables caseSensitive text = []
    · rw [hvalue, redactLoop_invisible htext]
      simp [htext]
    · rw [hvalue, redactLoop_blank htext]
      simp [htext]
  · have hends := @redactLoop_ends tables caseSensitive replacement _ hvalue
      ((normalizedTextWithOriginalRanges tables caseSensitive 0 text).text.length + 1)
      [] text [] [] [] rfl (by rw [text_normalizedText]; exact Nat.lt_succ_self _)
    simp only [hvalue, ne_eq, not_false_eq_true, true_or, iff_true]
    exact hends

end Ends

/-! ## §4. A policy ends. -/

/-- A redacting rule does not end on a text exactly if it searches for a literal without a
visible character. -/
theorem redact_diverges_iff {tables : CaseTables} {replacement left : Text}
    {rule : CompiledResponseFilterRule} :
    rule.redact tables replacement left = .error .diverged ↔
      ∃ value normalizedValue caseSensitive,
        rule.matcher = .literal value normalizedValue caseSensitive ∧
        normalizeFilterText tables value caseSensitive = [] ∧
        searchedText tables caseSensitive left ≠ [] := by
  unfold CompiledResponseFilterRule.redact
  cases rule.matcher with
  | literal value normalizedValue caseSensitive =>
      have hends := @redactLiteral_ends_iff tables caseSensitive replacement left value
      constructor
      · intro h
        have hnot := mt hends.mpr (not_not_intro h)
        rw [not_or, not_not] at hnot
        exact ⟨value, normalizedValue, caseSensitive, rfl, hnot.1, hnot.2⟩
      · rintro ⟨_, _, _, hmatcher, hvalue, hleft⟩
        cases hmatcher
        by_contra hnot
        exact (hends.mp hnot).elim (fun hne => hne hvalue) hleft
  | regex regex => exact ⟨nofun, fun ⟨_, _, _, hmatcher, _⟩ => nomatch hmatcher⟩
  | requiredLiteral normalizedValue caseSensitive =>
      exact ⟨nofun, fun ⟨_, _, _, hmatcher, _⟩ => nomatch hmatcher⟩
  | requiredRegex regex => exact ⟨nofun, fun ⟨_, _, _, hmatcher, _⟩ => nomatch hmatcher⟩

/-- The policy comes to a rule that redacts a literal without a visible character, and the
rules before it, none of which rejects, have left a text with one. -/
def ResponseFilterPolicy.SearchesBlank (tables : CaseTables) (policy : ResponseFilterPolicy)
    (text : Text) : Prop :=
  policy.enabled = true ∧ text ≠ [] ∧
    ∃ before rule behind left value normalizedValue caseSensitive,
      beforeRejecting (triggeredRules tables text true policy.rules) = before ++ rule :: behind ∧
      rule.matcher = .literal value normalizedValue caseSensitive ∧
      normalizeFilterText tables value caseSensitive = [] ∧
      redactAll tables policy.replacement before text = .ok left ∧
      searchedText tables caseSensitive left ≠ []

/-- A run is endless if it comes to such a search. -/
theorem inspectText_diverged_iff {tables : CaseTables} {policy : ResponseFilterPolicy}
    {text : Text} :
    policy.inspectText tables text = .error .diverged ↔ policy.SearchesBlank tables text := by
  unfold ResponseFilterPolicy.SearchesBlank
  by_cases hlooks : policy.enabled = true ∧ text ≠ []
  · obtain ⟨henabled, htext⟩ := hlooks
    -- the decision is made of the text, and does not hide that there is none
    have hmap : ∀ {x : Except Fault Text} {f : Text → ResponseFilterDecision},
        x.map f = .error .diverged ↔ x = .error .diverged := by
      intro x f
      cases x <;> simp [Except.map]
    unfold ResponseFilterPolicy.inspectText
    rw [inspectTextWithRequiredMissing_eq henabled htext, hmap]
    unfold redactAll
    -- the rules before the one that diverges have all returned a text
    rw [Collect.foldlM_eq_error_iff]
    constructor
    · rintro ⟨before, rule, behind, left, hrules, hleft, hdiverges⟩
      obtain ⟨value, normalizedValue, caseSensitive, hmatcher, hvalue, hvisible⟩ :=
        redact_diverges_iff.mp hdiverges
      exact ⟨henabled, htext, before, rule, behind, left, value, normalizedValue, caseSensitive,
        hrules, hmatcher, hvalue, hleft, hvisible⟩
    · rintro ⟨-, -, before, rule, behind, left, value, normalizedValue, caseSensitive, hrules,
        hmatcher, hvalue, hleft, hvisible⟩
      exact ⟨before, rule, behind, left, hrules, hleft, redact_diverges_iff.mpr
        ⟨value, normalizedValue, caseSensitive, hmatcher, hvalue, hvisible⟩⟩
  · have hskips : policy.inspectText tables text = .ok .unchanged := by
      unfold ResponseFilterPolicy.inspectText ResponseFilterPolicy.inspectTextWithRequiredMissing
      rw [if_pos]
      by_cases henabled : policy.enabled = true
      · simp [not_not.mp fun htext => hlooks ⟨henabled, htext⟩]
      · simp [henabled]
    rw [hskips]
    exact ⟨nofun, fun h => absurd ⟨h.1, h.2.1⟩ hlooks⟩

/-- The rule redacts a literal of ignored format characters only, which is nothing to search
for in a text that has others. -/
def CompiledResponseFilterRule.RedactsBlank (tables : CaseTables)
    (rule : CompiledResponseFilterRule) : Prop :=
  rule.action = .redact ∧ ∃ value normalizedValue caseSensitive,
    rule.matcher = .literal value normalizedValue caseSensitive ∧
    normalizeFilterText tables value caseSensitive = [] ∧
    ∃ text, searchedText tables caseSensitive text ≠ []

section Policy

variable {buildRegex : String → Except String Regex} {tables : CaseTables}
  {spec : ResponseFilterSpec} {policy : ResponseFilterPolicy}

/-- In front of the other rules, such a rule is searched for. -/
theorem searchesBlank_of_first
    (hcompile : ResponseFilterPolicy.compile buildRegex tables spec = .ok policy)
    (henabled : policy.enabled = true) {rule : CompiledResponseFilterRule}
    (hrule : rule ∈ policy.rules) (hblank : rule.RedactsBlank tables)
    (rules : List CompiledResponseFilterRule) :
    ∃ text, { policy with rules := rule :: rules }.SearchesBlank tables text := by
  obtain ⟨hredacts, value, normalizedValue, caseSensitive, hmatcher, hvalue, text, hvisible⟩ :=
    hblank
  have hnormalized := normalized_of_compile hcompile hrule hmatcher
  have htriggers : rule.triggers tables text true = true := by
    unfold CompiledResponseFilterRule.triggers
    rw [hmatcher]
    -- the empty literal is in every text
    apply contains_iff.mpr
    rw [hnormalized, hvalue]
    exact List.nil_infix
  have hfirst : beforeRejecting (triggeredRules tables text true (rule :: rules)) =
      [] ++ rule :: beforeRejecting (triggeredRules tables text true rules) := by
    unfold triggeredRules beforeRejecting
    rw [List.filter_cons_of_pos htriggers, List.takeWhile_cons_of_pos (by rw [hredacts]; rfl)]
    rfl
  have hne : text ≠ [] := by
    intro hempty
    rw [hempty] at hvisible
    exact hvisible rfl
  exact ⟨text, henabled, hne, [], rule, _, text, value, normalizedValue, caseSensitive, hfirst,
    hmatcher, hvalue, rfl, hvisible⟩

/-- A policy searches for the literals that it redacts. -/
theorem exists_redactsBlank {text : Text} (h : policy.SearchesBlank tables text) :
    ∃ rule ∈ policy.rules, rule.RedactsBlank tables := by
  obtain ⟨-, -, before, rule, behind, left, value, normalizedValue, caseSensitive, hrules,
    hmatcher, hvalue, -, hvisible⟩ := h
  have hmem : rule ∈ beforeRejecting (triggeredRules tables text true policy.rules) := by
    rw [hrules]
    exact List.mem_append_right _ List.mem_cons_self
  obtain ⟨htriggered, hredacts⟩ := mem_beforeRejecting hmem
  exact ⟨rule, List.mem_of_mem_filter htriggered, hredacts, value, normalizedValue,
    caseSensitive, hmatcher, hvalue, left, hvisible⟩

/-- **Inspection ends** on a text exactly if the policy does not search what is left of it for
a literal of ignored format characters only; and on every text, whatever the order of its
rules, exactly if an enabled policy redacts no such literal. -/
theorem inspect_text_ends_iff
    (hcompile : ResponseFilterPolicy.compile buildRegex tables spec = .ok policy) :
    (∀ text, policy.inspectText tables text ≠ .error .diverged ↔
      ¬ policy.SearchesBlank tables text) ∧
    ((∀ rules, rules.Perm policy.rules → ∀ text,
        { policy with rules := rules }.inspectText tables text ≠ .error .diverged) ↔
      (policy.enabled = true → ∀ rule ∈ policy.rules, ¬ rule.RedactsBlank tables)) := by
  refine ⟨fun text => not_congr inspectText_diverged_iff, ?_⟩
  constructor
  · intro h henabled rule hrule hblank
    obtain ⟨before, behind, hrules⟩ := List.append_of_mem hrule
    obtain ⟨text, hsearches⟩ :=
      searchesBlank_of_first hcompile henabled hrule hblank (before ++ behind)
    have hperm : (rule :: (before ++ behind)).Perm policy.rules :=
      hrules ▸ List.perm_middle.symm
    exact h _ hperm text (inspectText_diverged_iff.mpr hsearches)
  · intro h rules hperm text hdiverges
    have hsearches := inspectText_diverged_iff.mp hdiverges
    obtain ⟨rule, hrule, hblank⟩ := exists_redactsBlank hsearches
    exact h hsearches.1 rule (hperm.mem_iff.mp hrule) hblank

end Policy

/-- Both literals have visible characters, so every inspection ends, whatever the order of the
rules. -/
theorem inspect_text_ends_iff_secret :
    ∃ policy, ResponseFilterPolicy.compile (fun _ => .error "no pattern") greekTables
        ⟨true, "", [⟨"key", .literal "sk-" true, .redact⟩,
          ⟨"secret", .literal "secret" false, .redact⟩]⟩ = .ok policy ∧
      ∀ rules, rules.Perm policy.rules → ∀ text,
        { policy with rules := rules }.inspectText greekTables text ≠ .error .diverged := by
  have hcompile : ResponseFilterPolicy.compile (fun _ => .error "no pattern") greekTables
      ⟨true, "", [⟨"key", .literal "sk-" true, .redact⟩,
        ⟨"secret", .literal "secret" false, .redact⟩]⟩ = .ok _ := rfl
  refine ⟨_, hcompile, (inspect_text_ends_iff hcompile).2.mpr ?_⟩
  intro _ rule hrule hblank
  obtain ⟨-, value, normalizedValue, caseSensitive, hmatcher, hvalue, -⟩ := hblank
  rcases List.mem_pair.mp hrule with rfl | rfl
  · cases hmatcher
    exact List.cons_ne_nil _ _ hvalue
  · cases hmatcher
    exact List.cons_ne_nil _ _ hvalue

/-- A zero width space is a literal that `compile` accepts, and `a` is a text that it is
searched for in without end. -/
theorem zero_width_literal_does_not_end :
    ∃ policy, ResponseFilterPolicy.compile (fun _ => .error "no pattern") greekTables
        ⟨true, "[filtered]", [⟨"rule", .literal "\u200b" false, .redact⟩]⟩ = .ok policy ∧
      policy.inspectText greekTables "a".toList = .error .diverged ∧
      ∀ fuel, redactLoop "a".toList policy.replacement
        (normalizedTextWithOriginalRanges greekTables false 0 "a".toList)
        (normalizeFilterText greekTables "\u200b".toList false) fuel [] 0 0 =
          .error .diverged := by
  refine ⟨_, rfl, rfl, ?_⟩
  have hvisible : searchedText greekTables false "a".toList ≠ [] := List.cons_ne_nil 'a' []
  intro fuel
  exact redactLoop_blank hvisible fuel []

end OneAiKey
