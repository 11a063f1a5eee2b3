/-
  OneAiKey.ResponseFilter.Replacement — how the replacement is inserted
  (`compile` and `inspect_text_with_required_missing` of `src/response_filter.rs`).

  A literal rule copies the replacement.  A regex rule hands it to `replace_all`, which reads
  it as a template:

    literal rule   replacement.intercalate (pieces between the occurrences)
    regex rule     before ++ expand replacement ++ before ++ expand replacement ++ … ++ rest

  so the two agree as long as no dollar sign of the replacement begins a reference.  What the
  `regex` crate does is a parameter (`RegexCrate`).

  Main results:
    * `insertsReplacement_of_plain`, `escapedLiteralAgrees_of_plain` — without references;
    * `replacement_inserted_literally_iff` — exactly then.
-/
import OneAiKey.Lib.Interpolation
import OneAiKey.ResponseFilter.Verdict

namespace OneAiKey

open Redaction

/-! ## §1. What a search finds. -/

/-- One match of a regular expression. -/
structure Captures where
  /-- The text between the match before it and this one. -/
  before : Text
  matched : Text
  /-- What a reference by this number or name stands for, nothing if there is no such group. -/
  group : Text → Text

/-- What a search finds, and what stands behind the last of it. -/
structure Found where
  captures : List Captures
  /-- The text behind the last match. -/
  rest : Text

namespace Found

/-- The text with something else in the place of each match. -/
def spliced (found : Found) (insert : Captures → Text) : Text :=
  found.captures.flatMap (fun captures => captures.before ++ insert captures) ++ found.rest

/-- The parts that a redaction keeps. -/
def between (found : Found) : List Text := found.captures.map (·.before) ++ [found.rest]

/-- With one replacement for all, the kept parts are joined by it. -/
theorem spliced_const (found : Found) (replacement : Text) :
    found.spliced (fun _ => replacement) = replacement.intercalate found.between := by
  obtain ⟨captures, rest⟩ := found
  unfold spliced between
  induction captures with
  | nil => exact (List.intercalate_singleton).symm
  | cons first captures ih =>
      have hne : captures.map (·.before) ++ [rest] ≠ [] := by simp
      rw [List.map_cons, List.cons_append, List.intercalate_cons_of_ne_nil hne, ← ih,
        List.flatMap_cons]
      simp only [List.append_assoc]

end Found

/-- What the `regex` crate promises: of `build`, `is_match`, `replace_all` and `escape`.  The
matches of each pattern in each text are `captures`. -/
structure RegexCrate (buildRegex : String → Except String Regex) (escape : String → String)
    (captures : String → Text → Found) : Prop where
  whole : ∀ {pattern regex}, buildRegex pattern = .ok regex →
    ∀ text, (captures pattern text).spliced (·.matched) = text
  isMatch : ∀ {pattern regex}, buildRegex pattern = .ok regex →
    ∀ text, regex.isMatch text = !(captures pattern text).captures.isEmpty
  replaceAll : ∀ {pattern regex}, buildRegex pattern = .ok regex →
    ∀ text replacement, regex.replaceAll text replacement =
      (captures pattern text).spliced fun found => Interpolation.expand found.group replacement
  escapeNonempty : ∀ {value : String}, value.isEmpty = false → (escape value).isEmpty = false
  /-- The escaped text of a single character is a pattern. -/
  escapeChar : ∀ ch, ∃ regex, buildRegex (escape (String.singleton ch)) = .ok regex
  /-- An escaped text matches that text, from the left and without overlaps. -/
  escapeBetween : ∀ {value : String}, value.isEmpty = false → ∀ text,
    (captures (escape value) text).between = pieces (fun _ => false) value.toList text
  /-- It has no groups but the whole match. -/
  escapeGroup : ∀ {value : String} {text found}, found ∈ (captures (escape value) text).captures →
    found.matched = value.toList ∧ ∀ name, found.group name = value.toList ∨ found.group name = []

/-! ## §2. What the replacement is expected to do. -/

/-- The text with each match replaced by exactly the replacement. -/
def ReplacesMatches (found : Found) (replacement text redacted : Text) : Prop :=
  found.spliced (·.matched) = text ∧ redacted = found.spliced fun _ => replacement

section Expected

variable (tables : CaseTables) (buildRegex : String → Except String Regex)

/-- Wherever a regex rule redacts in a run over a policy, it replaces each match in the text
that the rules before it left by exactly the replacement. -/
def InsertsReplacement (captures : String → Text → Found) (replacement : String) : Prop :=
  ∀ spec policy, spec.replacement = replacement →
    ResponseFilterPolicy.compile buildRegex tables spec = .ok policy → policy.enabled = true →
  ∀ pattern regex, buildRegex pattern = .ok regex →
  ∀ text, text ≠ [] → ∀ allowRequiredMissing before rule after,
    triggeredRules tables text allowRequiredMissing policy.rules = before ++ rule :: after →
    (∀ triggered ∈ before ++ rule :: after, triggered.action = .redact) →
    rule.matcher = .regex regex →
  ∀ left, redactAll tables policy.replacement before text = .ok left →
    ∃ redacted, ReplacesMatches (captures pattern left) policy.replacement left redacted ∧
      policy.inspectTextWithRequiredMissing tables text allowRequiredMissing =
        (redactAll tables policy.replacement after redacted).map fun redactedText =>
          .redacted redactedText ((before ++ rule :: after).map (·.reported))

/-- The escaped literal as a regex rule and the literal as a case-sensitive one come to the
same, on texts without ignored format characters. -/
def EscapedLiteralAgrees (escape : String → String) (replacement value : String) : Prop :=
  ∀ id action enabled regexPolicy literalPolicy,
    ResponseFilterPolicy.compile buildRegex tables
      ⟨enabled, replacement, [⟨id, .regex (escape value), action⟩]⟩ = .ok regexPolicy →
    ResponseFilterPolicy.compile buildRegex tables
      ⟨enabled, replacement, [⟨id, .literal value true, action⟩]⟩ = .ok literalPolicy →
  ∀ text, (∀ ch ∈ text, isIgnoredFormatChar ch = false) → ∀ allowRequiredMissing,
    regexPolicy.inspectTextWithRequiredMissing tables text allowRequiredMissing =
      literalPolicy.inspectTextWithRequiredMissing tables text allowRequiredMissing

end Expected

/-! ## §3. Runs in which nothing is rejected. -/

section Redacting

variable {rules : List CompiledResponseFilterRule}

/-- If no rule rejects, all of them are applied. -/
theorem beforeRejecting_of_redact (h : ∀ rule ∈ rules, rule.action = .redact) :
    beforeRejecting rules = rules := by
  refine List.takeWhile_eq_self_iff.mpr ?_
  intro rule hrule
  rw [h rule hrule]
  rfl

/-- If no rule rejects, none is the last. -/
theorem upToRejecting_of_redact (h : ∀ rule ∈ rules, rule.action = .redact) :
    upToRejecting rules = rules := by
  induction rules with
  | nil => rfl
  | cons rule rules ih =>
      obtain ⟨hrule, hrules⟩ := List.forall_mem_cons.mp h
      unfold upToRejecting
      rw [hrule, ih hrules]
      rfl

/-- A redacting rule does not reject. -/
theorem any_isRejecting_of_redact (h : ∀ rule ∈ rules, rule.action = .redact) :
    rules.any (·.action.isRejecting) = false := by
  rw [List.any_eq_false]
  intro rule hrule
  rw [h rule hrule]
  nofun

/-- The verdict of rules that only redact: the text without the matches of the triggered ones. -/
theorem inspectText_of_redact {tables : CaseTables} {policy : ResponseFilterPolicy} {text : Text}
    (henabled : policy.enabled = true) (htext : text ≠ []) {allowRequiredMissing : Bool}
    (hrules : triggeredRules tables text allowRequiredMissing policy.rules = rules)
    (hredact : ∀ rule ∈ rules, rule.action = .redact) (hne : rules ≠ []) :
    policy.inspectTextWithRequiredMissing tables text allowRequiredMissing =
      (redactAll tables policy.replacement rules text).map fun redactedText =>
        .redacted redactedText (rules.map (·.reported)) := by
  have hmatched : (rules.map (·.reported)).isEmpty = false := by
    rw [List.isEmpty_eq_false_iff, Ne, List.map_eq_nil_iff]
    exact hne
  rw [inspectTextWithRequiredMissing_eq henabled htext, hrules, beforeRejecting_of_redact hredact,
    upToRejecting_of_redact hredact, any_isRejecting_of_redact hredact]
  refine congrArg (Except.map · _) ?_
  funext redactedText
  show (if (rules.map (·.reported)).isEmpty = true then _ else _) = _
  rw [hmatched]
  rfl

end Redacting

/-! ## §4. Policies with one rule. -/

section OneRule

variable {tables : CaseTables} {buildRegex : String → Except String Regex}

/-- A regular expression is built by the crate and kept. -/
theorem compileRule_regex {id pattern : String} {action : ResponseFilterAction}
    {rule : CompiledResponseFilterRule}
    (h : compileRule buildRegex tables ⟨id, .regex pattern, action⟩ = .ok rule) :
    ∃ regex, buildRegex pattern = .ok regex ∧
      rule = ⟨String.ofList (trim id.toList), action, .regex regex⟩ := by
  obtain ⟨-, matcher, hkind, rfl⟩ := compileRule_ok_iff.mp h
  cases hkind with
  | regex _ hbuild => exact ⟨_, hbuild, rfl⟩

/-- A literal is kept as it is, with the text that the search compares. -/
theorem compileRule_literal {id value : String} {caseSensitive : Bool}
    {action : ResponseFilterAction} {rule : CompiledResponseFilterRule}
    (h : compileRule buildRegex tables ⟨id, .literal value caseSensitive, action⟩ = .ok rule) :
    rule = ⟨String.ofList (trim id.toList), action, .literal value.toList
      (normalizeFilterText tables value.toList caseSensitive) caseSensitive⟩ := by
  obtain ⟨-, matcher, hkind, rfl⟩ := compileRule_ok_iff.mp h
  cases hkind with
  | literal _ _ => rfl

/-- A policy with one regular expression. -/
theorem compile_regex_rule {replacement pattern : String} {regex : Regex}
    (hpattern : pattern.isEmpty = false) (hbuild : buildRegex pattern = .ok regex) :
    ResponseFilterPolicy.compile buildRegex tables
        ⟨true, replacement, [⟨"rule", .regex pattern, .redact⟩]⟩ =
      .ok ⟨true, configuredReplacement replacement, [⟨"rule", .redact, .regex regex⟩]⟩ := by
  have hid : String.ofList (trim "rule".toList) = "rule" := by decide
  have hrule : compileRule buildRegex tables ⟨"rule", .regex pattern, .redact⟩ =
      .ok ⟨String.ofList (trim "rule".toList), .redact, .regex regex⟩ :=
    compileRule_ok_iff.mpr ⟨by decide, _, .regex hpattern hbuild, rfl⟩
  rw [hid] at hrule
  exact compile_one.mpr ⟨_, hrule, rfl⟩

/-- A policy with one literal. -/
theorem compile_literal_rule {replacement value : String} (hvalue : value.isEmpty = false) :
    ResponseFilterPolicy.compile buildRegex tables
        ⟨true, replacement, [⟨"rule", .literal value true, .redact⟩]⟩ =
      .ok ⟨true, configuredReplacement replacement, [⟨"rule", .redact, .literal value.toList
        (normalizeFilterText tables value.toList true) true⟩]⟩ := by
  have hid : String.ofList (trim "rule".toList) = "rule" := by decide
  have hrule := (@compileRule_ok_iff buildRegex tables "rule" (.literal value true) .redact _).mpr
    ⟨by decide, _, .literal true hvalue, rfl⟩
  rw [hid] at hrule
  exact compile_one.mpr ⟨_, hrule, rfl⟩

/-- The decision of a single rule. -/
theorem inspectText_one (replacement : Text) (rule : CompiledResponseFilterRule) {text : Text}
    (htext : text ≠ []) (allowRequiredMissing : Bool) :
    ResponseFilterPolicy.inspectTextWithRequiredMissing tables ⟨true, replacement, [rule]⟩ text
        allowRequiredMissing =
      if rule.triggers tables text allowRequiredMissing then
        if rule.action.isRejecting then .ok (.rejected [rule.reported])
        else (rule.redact tables replacement text).map fun redacted =>
          .redacted redacted [rule.reported]
      else .ok .unchanged := by
  have hrun : ResponseFilterPolicy.inspectTextWithRequiredMissing tables
      ⟨true, replacement, [rule]⟩ text allowRequiredMissing =
      inspectRules tables replacement text allowRequiredMissing [rule] [] text := by
    unfold ResponseFilterPolicy.inspectTextWithRequiredMissing
    rw [if_neg (by simp [htext])]
  rw [hrun, inspectRules_cons]
  cases rule.triggers tables text allowRequiredMissing with
  | false => rfl
  | true =>
      cases rule.action.isRejecting with
      | true => rfl
      | false =>
          cases rule.redact tables replacement text with
          | error fault => rfl
          | ok redacted => rfl

/-- A policy with one rule redacts once. -/
theorem inspectText_one_redact (replacement : Text) {rule : CompiledResponseFilterRule}
    {text : Text} (htext : text ≠ []) {allowRequiredMissing : Bool}
    (haction : rule.action = .redact)
    (htriggers : rule.triggers tables text allowRequiredMissing = true) :
    ResponseFilterPolicy.inspectTextWithRequiredMissing tables ⟨true, replacement, [rule]⟩ text
        allowRequiredMissing =
      (rule.redact tables replacement text).map fun redacted =>
        .redacted redacted [rule.reported] := by
  rw [inspectText_one replacement rule htext, if_pos htriggers, haction]
  rfl

/-- Rules that trigger alike and redact alike decide alike. -/
theorem inspectText_one_congr {enabled : Bool} {replacement text : Text}
    {rule rule' : CompiledResponseFilterRule} {allowRequiredMissing : Bool}
    (hreported : rule.reported = rule'.reported) (haction : rule.action = rule'.action)
    (htriggers : rule.triggers tables text allowRequiredMissing =
      rule'.triggers tables text allowRequiredMissing)
    (hredact : rule.redact tables replacement text = rule'.redact tables replacement text) :
    ResponseFilterPolicy.inspectTextWithRequiredMissing tables ⟨enabled, replacement, [rule]⟩ text
        allowRequiredMissing =
      ResponseFilterPolicy.inspectTextWithRequiredMissing tables ⟨enabled, replacement, [rule']⟩
        text allowRequiredMissing := by
  by_cases htext : text = []
  · subst htext
    unfold ResponseFilterPolicy.inspectTextWithRequiredMissing
    rw [if_pos (by simp), if_pos (by simp)]
  · cases enabled with
    | false => rfl
    | true =>
        rw [inspectText_one replacement rule htext, inspectText_one replacement rule' htext,
          hreported, haction, htriggers, hredact]

end OneRule

/-! ## §5. Replacements without references. -/

section Crate

variable {tables : CaseTables} {buildRegex : String → Except String Regex}
  {escape : String → String} {captures : String → Text → Found} {replacement value : String}

/-- The default replacement has no dollar sign, so the configured one has one exactly if the
operator wrote it. -/
theorem plain_configuredReplacement :
    Interpolation.plain (configuredReplacement replacement) =
      Interpolation.plain replacement.toList := by
  unfold configuredReplacement
  by_cases hempty : replacement.isEmpty = true
  · rw [if_pos hempty, String.toList_eq_nil_iff.mpr (String.isEmpty_iff.mp hempty)]
    decide
  · rw [if_neg hempty]

/-- A replacement without references is inserted as it is. -/
theorem replaceAll_of_plain (crate : RegexCrate buildRegex escape captures) {pattern : String}
    {regex : Regex} (hbuild : buildRegex pattern = .ok regex) {inserted : Text}
    (hplain : Interpolation.plain inserted = true) (text : Text) :
    regex.replaceAll text inserted = (captures pattern text).spliced fun _ => inserted := by
  rw [crate.replaceAll hbuild]
  simp only [Interpolation.expand_plain _ hplain]

/-- A configured replacement without references is inserted as it is, for every expression and
every text. -/
theorem insertsReplacement_of_plain (crate : RegexCrate buildRegex escape captures)
    (hplain : Interpolation.plain replacement.toList = true) :
    InsertsReplacement tables buildRegex captures replacement := by
  intro spec policy hreplacement hcompile henabled pattern regex hbuild text htext
    allowRequiredMissing before rule after htriggered hredact hmatcher left hleft
  have hconfigured : Interpolation.plain policy.replacement = true := by
    rw [replacement_of_compile hcompile, hreplacement, plain_configuredReplacement]
    exact hplain
  refine ⟨_, ⟨crate.whole hbuild left, rfl⟩, ?_⟩
  -- a plain replacement expands to itself
  have hstep : rule.redact tables policy.replacement left =
      .ok ((captures pattern left).spliced fun _ => policy.replacement) := by
    unfold CompiledResponseFilterRule.redact
    rw [hmatcher]
    exact congrArg Except.ok (replaceAll_of_plain crate hbuild hconfigured left)
  rw [inspectText_of_redact henabled htext htriggered hredact (by simp)]
  refine congrArg (Except.map _) ?_
  unfold redactAll at hleft ⊢
  rw [List.foldlM_append, hleft]
  show List.foldlM (fun left rule => rule.redact tables policy.replacement left) left
    (rule :: after) = _
  rw [List.foldlM_cons]
  show (rule.redact tables policy.replacement left).bind _ = _
  rw [hstep]
  rfl

/-- An escaped text is found where the text occurs. -/
theorem isMatch_escape (crate : RegexCrate buildRegex escape captures)
    (hvalue : value.isEmpty = false) {regex : Regex}
    (hbuild : buildRegex (escape value) = .ok regex) (text : Text) :
    regex.isMatch text = contains text value.toList := by
  have hne := toList_ne_nil hvalue
  have hbetween := crate.escapeBetween hvalue text
  have hnothing : visible (fun _ => false) text = text := visible_eq_self fun _ _ => rfl
  rw [crate.isMatch hbuild]
  unfold contains
  unfold Found.between at hbetween
  -- without an occurrence the text is one piece, with one it is at least two
  cases hfound : text.dropInfix? value.toList with
  | none =>
      rw [pieces_of_none (by rw [hnothing]; exact hfound)] at hbetween
      have hlength := congrArg List.length hbetween
      rw [List.length_append, List.length_map, List.length_singleton, List.length_singleton]
        at hlength
      rw [List.eq_nil_of_length_eq_zero (Nat.succ_injective hlength)]
      rfl
  | some found =>
      obtain ⟨first, behind⟩ := found
      rw [pieces_of_first (fun _ _ => rfl) hne hfound] at hbetween
      have hpos := List.length_pos_iff.mpr
        (@pieces_ne_nil Char (fun _ => false) _ value.toList behind)
      have hlength := congrArg List.length hbetween
      rw [List.length_append, List.length_map, List.length_singleton, List.length_cons] at hlength
      cases hcaptures : (captures (escape value) text).captures with
      | nil =>
          rw [hcaptures, List.length_nil] at hlength
          omega
      | cons first others => rfl

/-- An escaped literal as an expression redacts as the literal does. -/
theorem escapedLiteralAgrees_of_plain (crate : RegexCrate buildRegex escape captures)
    (hvalue : value.isEmpty = false)
    (hvisible : ∀ ch ∈ value.toList, isIgnoredFormatChar ch = false)
    (hplain : Interpolation.plain replacement.toList = true) :
    EscapedLiteralAgrees tables buildRegex escape replacement value := by
  intro id action enabled regexPolicy literalPolicy hregex hliteral text htext
    allowRequiredMissing
  obtain ⟨rule, hrule, rfl⟩ := compile_one.mp hregex
  obtain ⟨regex, hbuild, rfl⟩ := compileRule_regex hrule
  obtain ⟨rule', hrule', rfl⟩ := compile_one.mp hliteral
  rw [compileRule_literal hrule']
  have hne := toList_ne_nil hvalue
  have hconfigured : Interpolation.plain (configuredReplacement replacement) = true :=
    plain_configuredReplacement.trans hplain
  -- both rules match the same texts, and replace the same places
  refine inspectText_one_congr rfl rfl ?_ ?_
  · show regex.isMatch text = contains (visible isIgnoredFormatChar text)
      (visible isIgnoredFormatChar value.toList)
    rw [isMatch_escape crate hvalue hbuild, visible_eq_self htext, visible_eq_self hvisible]
  · show Except.ok (regex.replaceAll text (configuredReplacement replacement)) =
      redactLiteral tables text value.toList true (configuredReplacement replacement)
    rw [redactLiteral_eq_pieces tables text value.toList _
        (by rw [visible_eq_self hvisible]; exact hne), visible_eq_self hvisible,
      replaceAll_of_plain crate hbuild hconfigured, Found.spliced_const,
      crate.escapeBetween hvalue, pieces_of_visible hne (fun _ _ => rfl) htext]

/-! ## §6. Replacements with a reference. -/

/-- A pattern of one character, on that character: one match, with nothing before it and
nothing behind it. -/
theorem exists_only_match (crate : RegexCrate buildRegex escape captures) (ch : Char) :
    ∃ found, (captures (escape (String.singleton ch)) [ch]).captures = [found] ∧
      found.before = [] ∧ (captures (escape (String.singleton ch)) [ch]).rest = [] := by
  have hvalue : (String.singleton ch).isEmpty = false := by
    rw [Bool.eq_false_iff, Ne, String.isEmpty_iff, ← String.toList_eq_nil_iff,
      String.toList_singleton]
    exact List.cons_ne_nil ch []
  have hbetween := crate.escapeBetween hvalue [ch]
  rw [String.toList_singleton, pieces_self (List.cons_ne_nil _ _) fun _ _ => rfl] at hbetween
  unfold Found.between at hbetween
  -- between the matches and around them there are two pieces, so there is one match
  match hlist : (captures (escape (String.singleton ch)) [ch]).captures with
  | [] =>
      rw [hlist] at hbetween
      have hlength := congrArg List.length hbetween
      simp at hlength
  | [found] =>
      rw [hlist] at hbetween
      obtain ⟨hbefore, hrest⟩ := List.cons.inj hbetween
      exact ⟨found, rfl, hbefore, List.singleton_inj.mp hrest⟩
  | first :: second :: others =>
      rw [hlist] at hbetween
      have hlength := congrArg List.length hbetween
      simp at hlength

/-- A pattern of one character, on that character: a reference in the replacement makes the
redacted text shorter than the replacement. -/
theorem not_insertsReplacement (crate : RegexCrate buildRegex escape captures)
    (hplain : Interpolation.plain replacement.toList = false) :
    ¬ InsertsReplacement tables buildRegex captures replacement := by
  intro h
  obtain ⟨regex, hbuild⟩ := crate.escapeChar 'a'
  have hvalue : (String.singleton 'a').isEmpty = false := by decide
  have hescaped := crate.escapeNonempty hvalue
  obtain ⟨found, hcaptures, hbefore, hrest⟩ := exists_only_match crate 'a'
  have hsplice : ∀ insert : Captures → Text,
      (captures (escape (String.singleton 'a')) ['a']).spliced insert = insert found := by
    intro insert
    unfold Found.spliced
    rw [hcaptures, hrest, List.flatMap_singleton, hbefore, List.nil_append, List.append_nil]
  have hcompile := @compile_regex_rule tables _ replacement _ _ hescaped hbuild
  have htriggers : CompiledResponseFilterRule.triggers tables ['a'] true
      ⟨"rule", .redact, .regex regex⟩ = true := by
    show regex.isMatch ['a'] = true
    rw [crate.isMatch hbuild, hcaptures]
    rfl
  -- inserted as it is, the replacement would be all of the text
  obtain ⟨redacted, ⟨-, rfl⟩, hinspect⟩ := h _ _ rfl hcompile rfl _ _ hbuild ['a']
    (List.cons_ne_nil _ _) true [] ⟨"rule", .redact, .regex regex⟩ []
    (by
      unfold triggeredRules
      exact List.filter_cons_of_pos htriggers)
    (fun rule hrule => by rw [List.mem_singleton.mp hrule]) rfl ['a'] rfl
  rw [inspectText_one_redact _ (List.cons_ne_nil _ _) rfl htriggers, hsplice] at hinspect
  have hsame : regex.replaceAll ['a'] (configuredReplacement replacement) =
      configuredReplacement replacement := by
    have hdecision := Except.ok.inj hinspect
    exact (ResponseFilterDecision.redacted.inj hdecision).1
  rw [crate.replaceAll hbuild, hsplice] at hsame
  -- but a reference to one character at most makes it shorter
  have hgroup : ∀ name, (found.group name).length ≤ 1 := by
    intro name
    have hmem : found ∈ (captures (escape (String.singleton 'a')) ['a']).captures := by
      rw [hcaptures]
      exact List.mem_singleton_self found
    rcases (crate.escapeGroup hmem).2 name with hmatched | hnothing
    · rw [hmatched]
      exact Nat.le_refl 1
    · rw [hnothing]
      exact Nat.zero_le 1
  have hshorter := Interpolation.length_expand_lt hgroup
    (plain_configuredReplacement.trans hplain)
  rw [hsame] at hshorter
  exact Nat.lt_irrefl _ hshorter

/-- A literal with an ignored format character is found where the escaped one is not. -/
theorem visible_of_escapedLiteralAgrees (crate : RegexCrate buildRegex escape captures)
    (hvalue : value.isEmpty = false) (hbuild : ∃ regex, buildRegex (escape value) = .ok regex)
    (h : EscapedLiteralAgrees tables buildRegex escape replacement value) :
    ∀ ch ∈ value.toList, isIgnoredFormatChar ch = false := by
  obtain ⟨regex, hbuild⟩ := hbuild
  have hescaped := crate.escapeNonempty hvalue
  have hregex := @compile_regex_rule tables _ replacement _ _ hescaped hbuild
  have hliteral := @compile_literal_rule tables buildRegex replacement _ hvalue
  by_contra hhidden
  push Not at hhidden
  obtain ⟨ch, hch, hignored⟩ := hhidden
  replace hignored := eq_true_of_ne_false hignored
  -- a text without such characters that has the visible part of the literal
  obtain ⟨text, hne, hplainText, hin⟩ : ∃ text : Text, text ≠ [] ∧
      (∀ ch ∈ text, isIgnoredFormatChar ch = false) ∧
      visible isIgnoredFormatChar value.toList <:+: text := by
    by_cases hblank : visible isIgnoredFormatChar value.toList = []
    · rw [hblank]
      refine ⟨['a'], List.cons_ne_nil _ _, ?_, List.nil_infix⟩
      intro ch hch
      rw [List.mem_singleton.mp hch]
      rfl
    · refine ⟨_, hblank, ?_, List.infix_rfl⟩
      intro ch hch
      have hshown := (List.mem_filter.mp hch).2
      rw [Bool.not_eq_true'] at hshown
      exact hshown
  have hsame := h "rule" .redact true _ _ hregex hliteral text hplainText true
  -- the pattern asks for the hidden character too
  have hquiet : regex.isMatch text = false := by
    rw [isMatch_escape crate hvalue hbuild, Bool.eq_false_iff, Ne, contains_iff]
    intro hfound
    have hshown := hplainText ch (hfound.subset hch)
    rw [hignored] at hshown
    cases hshown
  have hloud : CompiledResponseFilterRule.triggers tables text true ⟨"rule", .redact,
      .literal value.toList (normalizeFilterText tables value.toList true) true⟩ = true := by
    show contains (visible isIgnoredFormatChar text)
      (visible isIgnoredFormatChar value.toList) = true
    rw [visible_eq_self hplainText]
    exact contains_iff.mpr hin
  have hnothing : ¬ CompiledResponseFilterRule.triggers tables text true
      ⟨"rule", .redact, .regex regex⟩ = true := by
    show ¬ regex.isMatch text = true
    rw [hquiet]
    exact Bool.false_ne_true
  rw [inspectText_one _ _ hne, if_neg hnothing, inspectText_one_redact _ hne rfl hloud] at hsame
  cases hredact : CompiledResponseFilterRule.redact tables (configuredReplacement replacement) text
      ⟨"rule", .redact, .literal value.toList (normalizeFilterText tables value.toList true) true⟩
    with
  | error fault =>
      rw [hredact] at hsame
      cases hsame
  | ok redacted =>
      rw [hredact] at hsame
      cases Except.ok.inj hsame

/-- **The replacement is inserted as it is**, by every regex rule and as by the literal rule,
exactly if it has no references and the literal no ignored format characters. -/
theorem replacement_inserted_literally_iff (crate : RegexCrate buildRegex escape captures)
    (tables : CaseTables) (replacement : String) (hvalue : value.isEmpty = false)
    (hbuild : ∃ regex, buildRegex (escape value) = .ok regex) :
    InsertsReplacement tables buildRegex captures replacement ∧
        EscapedLiteralAgrees tables buildRegex escape replacement value ↔
      Interpolation.plain replacement.toList = true ∧
        ∀ ch ∈ value.toList, isIgnoredFormatChar ch = false := by
  constructor
  · rintro ⟨hinserts, hagrees⟩
    refine ⟨?_, visible_of_escapedLiteralAgrees crate hvalue hbuild hagrees⟩
    by_contra hplain
    exact not_insertsReplacement crate (Bool.eq_false_iff.mpr hplain) hinserts
  · rintro ⟨hplain, hvisible⟩
    exact ⟨insertsReplacement_of_plain crate hplain,
      escapedLiteralAgrees_of_plain crate hvalue hvisible hplain⟩

end Crate

/-! Patterns that are the text they match. -/

def plainGroup (pattern name : Text) : Text :=
  if !name.isEmpty && name.all (· == '0') then pattern else []

def plainCaptures (pattern : String) (text : Text) : Found where
  captures := (pieces (fun _ => false) pattern.toList text).dropLast.map fun before =>
    ⟨before, pattern.toList, plainGroup pattern.toList⟩
  rest := lastPiece (pieces (fun _ => false) pattern.toList text)

def plainRegex (pattern : String) : Regex where
  isMatch text := !(plainCaptures pattern text).captures.isEmpty
  replaceAll text replacement := (plainCaptures pattern text).spliced fun found =>
    Interpolation.expand found.group replacement

def buildPlain (pattern : String) : Except String Regex :=
  if pattern.isEmpty then .error "no pattern" else .ok (plainRegex pattern)

theorem buildPlain_eq_ok {pattern : String} {regex : Regex}
    (h : buildPlain pattern = .ok regex) :
    pattern.toList ≠ [] ∧ regex = plainRegex pattern := by
  unfold buildPlain at h
  by_cases hempty : pattern.isEmpty = true
  · rw [if_pos hempty] at h
    cases h
  · rw [if_neg hempty] at h
    exact ⟨toList_ne_nil (eq_false_of_ne_true hempty), (Except.ok.inj h).symm⟩

theorem between_plainCaptures (pattern : String) (text : Text) :
    (plainCaptures pattern text).between = pieces (fun _ => false) pattern.toList text := by
  unfold plainCaptures Found.between
  have hne := @pieces_ne_nil Char (fun _ => false) _ pattern.toList text
  have hcomp : (fun captures : Captures => captures.before) ∘
      (fun before => ⟨before, pattern.toList, plainGroup pattern.toList⟩) = id := rfl
  rw [List.map_map, hcomp, List.map_id, lastPiece_eq_getLast hne]
  exact List.dropLast_append_getLast hne

theorem mem_plainCaptures {pattern : String} {text : Text} {found : Captures}
    (h : found ∈ (plainCaptures pattern text).captures) :
    found.matched = pattern.toList ∧ found.group = plainGroup pattern.toList := by
  obtain ⟨before, -, rfl⟩ := List.mem_map.mp h
  exact ⟨rfl, rfl⟩

theorem whole_plainCaptures {pattern : String} (hpattern : pattern.toList ≠ []) (text : Text) :
    (plainCaptures pattern text).spliced (·.matched) = text := by
  have hsame : (plainCaptures pattern text).spliced (·.matched) =
      (plainCaptures pattern text).spliced fun _ => pattern.toList := by
    unfold Found.spliced
    refine congrArg (· ++ _) (List.flatMap_congr ?_)
    intro found hfound
    exact congrArg (found.before ++ ·) (mem_plainCaptures hfound).1
  rw [hsame, Found.spliced_const, between_plainCaptures]
  exact intercalate_pieces hpattern fun _ _ => rfl

theorem plainCrate : RegexCrate buildPlain id plainCaptures where
  whole := fun hbuild text => whole_plainCaptures (buildPlain_eq_ok hbuild).1 text
  isMatch := fun hbuild text => by
    rw [(buildPlain_eq_ok hbuild).2]
    rfl
  replaceAll := fun hbuild text replacement => by
    rw [(buildPlain_eq_ok hbuild).2]
    rfl
  escapeNonempty := id
  escapeChar := by
    intro ch
    refine ⟨_, if_neg ?_⟩
    show ¬ (String.singleton ch).isEmpty = true
    rw [String.isEmpty_iff, ← String.toList_eq_nil_iff, String.toList_singleton]
    exact List.cons_ne_nil ch []
  escapeBetween := fun _ text => between_plainCaptures _ text
  escapeGroup := by
    intro value text found hfound
    obtain ⟨hmatched, hgroup⟩ := mem_plainCaptures hfound
    refine ⟨hmatched, ?_⟩
    intro name
    rw [hgroup]
    unfold plainGroup
    by_cases hwhole : (!name.isEmpty && name.all (· == '0')) = true
    · exact Or.inl (if_pos hwhole)
    · exact Or.inr (if_neg hwhole)

/-- The default replacement is inserted as it is; the one that refers to the match is not. -/
theorem replacement_inserted_literally_iff_plain :
    (InsertsReplacement greekTables buildPlain plainCaptures "[filtered]" ∧
      EscapedLiteralAgrees greekTables buildPlain id "[filtered]" "secret") ∧
    ¬ (InsertsReplacement greekTables buildPlain plainCaptures "[$0]" ∧
      EscapedLiteralAgrees greekTables buildPlain id "[$0]" "secret") := by
  have hbuild : ∃ regex, buildPlain (id "secret") = .ok regex := ⟨_, rfl⟩
  have hshown : ∀ ch ∈ "secret".toList, (!isIgnoredFormatChar ch) = true :=
    List.all_eq_true.mp rfl
  have hvisible : ∀ ch ∈ "secret".toList, isIgnoredFormatChar ch = false := by
    intro ch hch
    exact (Bool.not_eq_true' _).mp (hshown ch hch)
  constructor
  · exact (replacement_inserted_literally_iff plainCrate greekTables "[filtered]" rfl hbuild).mpr
      ⟨by decide, hvisible⟩
  · intro h
    have hplain := ((replacement_inserted_literally_iff plainCrate greekTables "[$0]" rfl
      hbuild).mp h).1
    exact absurd hplain (by decide)

/-- The regex rule gives the secret back that it was to remove; the literal rule does not.  The
crate takes `$0` in a replacement for the whole match. -/
theorem dollar_zero_returns_match :
    (∃ policy matched, ResponseFilterPolicy.compile buildPlain greekTables
        ⟨true, "[$0]", [⟨"rule", .regex "secret", .redact⟩]⟩ = .ok policy ∧
      policy.inspectText greekTables "secret".toList =
        .ok (.redacted "[secret]".toList matched)) ∧
    (∃ policy matched, ResponseFilterPolicy.compile buildPlain greekTables
        ⟨true, "[$0]", [⟨"rule", .literal "secret" true, .redact⟩]⟩ = .ok policy ∧
      policy.inspectText greekTables "secret".toList = .ok (.redacted "[$0]".toList matched)) ∧
    ¬ InsertsReplacement greekTables buildPlain plainCaptures "[$0]" := by
  -- the text is one match with nothing around it
  have hself : pieces (fun _ => false) "secret".toList "secret".toList = [[], []] :=
    pieces_self (List.cons_ne_nil _ _) fun _ _ => rfl
  refine ⟨?_, ⟨_, _, rfl, rfl⟩, not_insertsReplacement plainCrate (by decide)⟩
  refine ⟨_, [⟨"rule", .redact, "rule_matched"⟩], compile_regex_rule rfl rfl, ?_⟩
  have htriggers : CompiledResponseFilterRule.triggers greekTables "secret".toList true
      ⟨"rule", .redact, .regex (plainRegex "secret")⟩ = true := by
    show (!(plainCaptures "secret" "secret".toList).captures.isEmpty) = true
    unfold plainCaptures
    rw [hself]
    rfl
  -- the reference stands for the match itself
  have hredacts : (plainRegex "secret").replaceAll "secret".toList
      (configuredReplacement "[$0]") = "[secret]".toList := by
    show (plainCaptures "secret" "secret".toList).spliced _ = _
    unfold plainCaptures
    rw [hself]
    rfl
  refine (inspectText_one_redact _ (by decide) rfl htriggers).trans ?_
  show Except.ok (ResponseFilterDecision.redacted ((plainRegex "secret").replaceAll
    "secret".toList (configuredReplacement "[$0]")) _) = _
  rw [hredacts]
  rfl

end OneAiKey
