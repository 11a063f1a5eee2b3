/-
  OneAiKey.ResponseFilter — the response filter (`src/response_filter.rs`).

  A text is its list of characters; the offsets that the source computes with
  are byte offsets into its UTF-8 form, and a slice at an offset that is no
  character boundary, or whose start lies behind its end, panics.  The search
  loop of `redact_literal` may go round for ever: it runs on fuel that is enough
  for every loop that moves on.

  The regular expressions come from the `regex` crate and are a parameter, and
  so are the Unicode tables of the standard library.
-/
import OneAiKey.Lib.Redaction
import OneAiKey.Lib.Utf8
import OneAiKey.State

namespace OneAiKey

/-! ## §1. Texts. -/

/-- A text as its characters. -/
abbrev Text := List Char

/-- How a call of the filter fails to return. -/
inductive Fault where
  | panicked
  /-- The call does not end. -/
  | diverged
  deriving DecidableEq, Repr

/-- `str::len`. -/
def byteLen (text : Text) : Nat := (text.map Char.utf8Size).sum

/-- The text before and the text behind a byte offset, if it is a character boundary. -/
def splitAtByte : Nat → Text → Option (Text × Text)
  | 0, text => some ([], text)
  | _ + 1, [] => none
  | n + 1, ch :: text =>
      if ch.utf8Size ≤ n + 1 then
        (splitAtByte (n + 1 - ch.utf8Size) text).map fun parts => (ch :: parts.1, parts.2)
      else none

/-- `&text[..stop]`. -/
def sliceTo (text : Text) (stop : Nat) : Except Fault Text :=
  match splitAtByte stop text with
  | some (part, _) => .ok part
  | none => .error .panicked

/-- `&text[start..]`. -/
def sliceFrom (text : Text) (start : Nat) : Except Fault Text :=
  match splitAtByte start text with
  | some (_, part) => .ok part
  | none => .error .panicked

/-- `&text[start..stop]`. -/
def slice (text : Text) (start stop : Nat) : Except Fault Text :=
  if stop < start then .error .panicked
  else do
    let upto ← sliceTo text stop
    sliceFrom upto start

/-- `str::find`: the byte offset of the first occurrence. -/
def find (text pattern : Text) : Option Nat :=
  (text.dropInfix? pattern).map fun found => byteLen found.1

/-- `str::contains`. -/
def contains (text pattern : Text) : Bool := (text.dropInfix? pattern).isSome

/-- The Unicode tables that lowercasing reads. -/
structure CaseTables where
  /-- `char::to_lowercase`. -/
  lowercase : Char → Text
  cased : Char → Bool
  caseIgnorable : Char → Bool

/-- Behind the case-ignorable characters, is there a cased one? -/
def CaseTables.caseIgnorableThenCased (tables : CaseTables) (chars : Text) : Bool :=
  match chars.dropWhile tables.caseIgnorable with
  | [] => false
  | ch :: _ => tables.cased ch

/-- `str::to_lowercase`: of the text behind the characters `before` (the last one first). -/
def CaseTables.toLowercase (tables : CaseTables) (before : Text) : Text → Text
  | [] => []
  | ch :: text =>
      let lowered :=
        if ch = 'Σ' then
          -- a sigma at the end of a word
          if tables.caseIgnorableThenCased before && !tables.caseIgnorableThenCased text then ['ς']
          else ['σ']
        else tables.lowercase ch
      lowered ++ tables.toLowercase (ch :: before) text

/-- A compiled regular expression. -/
structure Regex where
  isMatch : Text → Bool
  /-- `replace_all`: of a text, with a replacement. -/
  replaceAll : Text → Text → Text

/-! ## §2. Rules and policies. -/

/-- What a rule does with a response that it matches. -/
inductive ResponseFilterAction where
  | redact
  | reject
  | rejectAndExpireCredential
  | rejectAndCooldownChannel
  deriving DecidableEq, Repr

/-- Every action but the redaction rejects the response. -/
def ResponseFilterAction.isRejecting (action : ResponseFilterAction) : Bool :=
  action != .redact

/-- The actions as configuration files spell them. -/
def ResponseFilterAction.asStr : ResponseFilterAction → String
  | redact => "redact"
  | reject => "reject"
  | rejectAndExpireCredential => "reject_and_expire_credential"
  | rejectAndCooldownChannel => "reject_and_cooldown_channel"

/-- What a rule looks for; a required rule matches where its value is missing. -/
inductive ResponseFilterRuleKind where
  | literal (value : String) (caseSensitive : Bool)
  | regex (pattern : String)
  | requiredLiteral (value : String) (caseSensitive : Bool)
  | requiredRegex (pattern : String)
  deriving DecidableEq, Repr

/-- A rule as it is configured. -/
structure ResponseFilterRuleSpec where
  id : String
  kind : ResponseFilterRuleKind
  action : ResponseFilterAction
  deriving DecidableEq, Repr

/-- A policy as it is configured. -/
structure ResponseFilterSpec where
  enabled : Bool
  replacement : String
  rules : List ResponseFilterRuleSpec
  deriving DecidableEq, Repr

/-- A compiled rule's test: a normalized literal or a compiled regular expression. -/
inductive ResponseFilterMatcher where
  | literal (value normalizedValue : Text) (caseSensitive : Bool)
  | regex (regex : Regex)
  | requiredLiteral (normalizedValue : Text) (caseSensitive : Bool)
  | requiredRegex (regex : Regex)

/-- A rule with its test. -/
structure CompiledResponseFilterRule where
  id : String
  action : ResponseFilterAction
  matcher : ResponseFilterMatcher

/-- A compiled policy. -/
structure ResponseFilterPolicy where
  enabled : Bool
  replacement : Text
  rules : List CompiledResponseFilterRule

/-- A report of a match, without any of the matched text. -/
structure ResponseFilterMatch where
  ruleId : String
  action : ResponseFilterAction
  reasonCode : String
  deriving DecidableEq, Repr

/-- The report of a rule that matched. -/
def CompiledResponseFilterRule.ruleMatched (rule : CompiledResponseFilterRule) :
    ResponseFilterMatch where
  ruleId := rule.id
  action := rule.action
  reasonCode := "rule_matched"

/-- The report of a required rule whose value is missing. -/
def CompiledResponseFilterRule.requiredRuleMissing (rule : CompiledResponseFilterRule) :
    ResponseFilterMatch where
  ruleId := rule.id
  action := rule.action
  reasonCode := "required_rule_missing"

/-- What the filter does with a text. -/
inductive ResponseFilterDecision where
  | unchanged
  | redacted (text : Text) (matched : List ResponseFilterMatch)
  | rejected (matched : List ResponseFilterMatch)
  deriving DecidableEq, Repr

/-! ## §3. Literals. -/

/-- The format characters that literal matching ignores. -/
def isIgnoredFormatChar (ch : Char) : Bool :=
  ch == '\u200b' || ch == '\u200c' || ch == '\u200d' || ch == '\ufeff'

/-- A text as literals are compared: without invisible characters, and in lower case unless case
matters. -/
def normalizeFilterText (tables : CaseTables) (text : Text) (caseSensitive : Bool) : Text :=
  let withoutHidden := Redaction.visible isIgnoredFormatChar text
  if caseSensitive then withoutHidden else tables.toLowercase [] withoutHidden

/-- A normalized text, and for each of its characters the bytes of the original it comes from. -/
structure NormalizedText where
  text : Text
  originalRanges : List (Nat × Nat)
  deriving DecidableEq, Repr

/-- Where the original has the character that starts at this byte of the normalized text. -/
def NormalizedText.originalStartFor (normalized : NormalizedText) (normalizedByte : Nat) :
    Except Fault (Option Nat) := do
  let upto ← sliceTo normalized.text normalizedByte
  return normalized.originalRanges[upto.length]?.map (·.1)

/-- Where the original has the end of the character before this byte of the normalized text. -/
def NormalizedText.originalEndFor (normalized : NormalizedText) (normalizedByte : Nat) :
    Except Fault (Option Nat) := do
  let upto ← sliceTo normalized.text normalizedByte
  if upto.length = 0 then return some 0
  return normalized.originalRanges[upto.length - 1]?.map (·.2)

/-- `normalized_text_with_original_ranges`, of the text that begins at byte `start`. -/
def normalizedTextWithOriginalRanges (tables : CaseTables) (caseSensitive : Bool) (start : Nat) :
    Text → NormalizedText
  | [] => ⟨[], []⟩
  | ch :: text =>
      let stop := start + ch.utf8Size
      let rest := normalizedTextWithOriginalRanges tables caseSensitive stop text
      if isIgnoredFormatChar ch then rest
      else
        let lowered := if caseSensitive then [ch] else tables.lowercase ch
        ⟨lowered ++ rest.text, lowered.map (fun _ => (start, stop)) ++ rest.originalRanges⟩

/-- The search loop of `redact_literal`, from what it has written and its two cursors. -/
def redactLoop (text replacement : Text) (normalized : NormalizedText) (normalizedValue : Text) :
    Nat → Text → Nat → Nat → Except Fault Text
  | 0, _, _, _ => .error .diverged
  | fuel + 1, result, originalCursor, normalizedCursor => do
      let searched ← sliceFrom normalized.text normalizedCursor
      match find searched normalizedValue with
      | none => return result ++ (← sliceFrom text originalCursor)
      | some relativeStart =>
          let normalizedStart := normalizedCursor + relativeStart
          let normalizedEnd := normalizedStart + byteLen normalizedValue
          match ← normalized.originalStartFor normalizedStart with
          | none => return result ++ (← sliceFrom text originalCursor)
          | some originalStart =>
              match ← normalized.originalEndFor normalizedEnd with
              | none => return result ++ (← sliceFrom text originalCursor)
              | some originalEnd =>
                  let kept ← slice text originalCursor originalStart
                  redactLoop text replacement normalized normalizedValue fuel
                    (result ++ kept ++ replacement) originalEnd normalizedEnd

/-- Every match of the literal in the text, replaced. -/
def redactLiteral (tables : CaseTables) (text value : Text) (caseSensitive : Bool)
    (replacement : Text) : Except Fault Text :=
  let normalizedValue := normalizeFilterText tables value caseSensitive
  let normalized := normalizedTextWithOriginalRanges tables caseSensitive 0 text
  -- each round that moves on passes a character of the normalized text
  redactLoop text replacement normalized normalizedValue (normalized.text.length + 1) [] 0 0

/-! ## §4. Compiling and inspecting. -/

section Compile

-- `RegexBuilder::build`, with the texts of its errors
variable (buildRegex : String → Except String Regex)

/-- A rule with a trimmed id, and with a value or a pattern that is not empty. -/
def compileRule (tables : CaseTables) (rule : ResponseFilterRuleSpec) :
    Except String CompiledResponseFilterRule := do
  let id := String.ofList (trim rule.id.toList)
  if id.isEmpty then throw "response filter rule id must not be empty"
  -- an empty value is refused for every kind
  let matcher ← match rule.kind with
    | .literal value caseSensitive => do
        if value.isEmpty then
          throw ("response filter rule " ++ id ++ " literal must not be empty")
        pure (ResponseFilterMatcher.literal value.toList
          (normalizeFilterText tables value.toList caseSensitive) caseSensitive)
    | .regex pattern => do
        if pattern.isEmpty then
          throw ("response filter rule " ++ id ++ " regex pattern must not be empty")
        match buildRegex pattern with
        | .ok regex => pure (.regex regex)
        | .error err => throw ("invalid response filter regex " ++ id ++ ": " ++ err)
    | .requiredLiteral value caseSensitive => do
        if value.isEmpty then
          throw ("response filter rule " ++ id ++ " required literal must not be empty")
        pure (.requiredLiteral (normalizeFilterText tables value.toList caseSensitive)
          caseSensitive)
    | .requiredRegex pattern => do
        if pattern.isEmpty then
          throw ("response filter rule " ++ id ++ " required regex pattern must not be empty")
        match buildRegex pattern with
        | .ok regex => pure (.requiredRegex regex)
        | .error err => throw ("invalid response filter required regex " ++ id ++ ": " ++ err)
  return { id, action := rule.action, matcher }

/-- A policy with all of its rules compiled; without a replacement it has the usual one. -/
def ResponseFilterPolicy.compile (tables : CaseTables) (spec : ResponseFilterSpec) :
    Except String ResponseFilterPolicy := do
  let replacement := if spec.replacement.isEmpty then "[filtered]" else spec.replacement
  let rules ← spec.rules.mapM (compileRule buildRegex tables)
  return { enabled := spec.enabled, replacement := replacement.toList, rules }

end Compile

/-- The policy of a program without a filter. -/
def ResponseFilterPolicy.disabled : ResponseFilterPolicy where
  enabled := false
  replacement := "[filtered]".toList
  rules := []

/-- The loop of `inspect_text_with_required_missing` over the rules. -/
def inspectRules (tables : CaseTables) (replacement text : Text) (allowRequiredMissing : Bool) :
    List CompiledResponseFilterRule → List ResponseFilterMatch → Text →
      Except Fault ResponseFilterDecision
  | [], matched, redactedText =>
      .ok (if matched.isEmpty then .unchanged else .redacted redactedText matched)
  | rule :: rules, matched, redactedText =>
      let next := inspectRules tables replacement text allowRequiredMissing rules
      match rule.matcher with
      | .literal value normalizedValue caseSensitive =>
          if !contains (normalizeFilterText tables text caseSensitive) normalizedValue then
            next matched redactedText
          else
            let matched := matched ++ [rule.ruleMatched]
            if rule.action.isRejecting then .ok (.rejected matched)
            else do
              next matched (← redactLiteral tables redactedText value caseSensitive replacement)
      | .regex regex =>
          if !regex.isMatch text then next matched redactedText
          else
            let matched := matched ++ [rule.ruleMatched]
            if rule.action.isRejecting then .ok (.rejected matched)
            else next matched (regex.replaceAll redactedText replacement)
      | .requiredLiteral normalizedValue caseSensitive =>
          if contains (normalizeFilterText tables text caseSensitive) normalizedValue then
            next matched redactedText
          else if !allowRequiredMissing then next matched redactedText
          else
            let matched := matched ++ [rule.requiredRuleMissing]
            if rule.action.isRejecting then .ok (.rejected matched) else next matched replacement
      | .requiredRegex regex =>
          if regex.isMatch text then next matched redactedText
          else if !allowRequiredMissing then next matched redactedText
          else
            let matched := matched ++ [rule.requiredRuleMissing]
            if rule.action.isRejecting then .ok (.rejected matched) else next matched replacement

/-- The decision about a text; a part of a body may leave the required rules aside. -/
def ResponseFilterPolicy.inspectTextWithRequiredMissing (tables : CaseTables)
    (policy : ResponseFilterPolicy) (text : Text) (allowRequiredMissing : Bool) :
    Except Fault ResponseFilterDecision :=
  if !policy.enabled || policy.rules.isEmpty || text.isEmpty then .ok .unchanged
  else inspectRules tables policy.replacement text allowRequiredMissing policy.rules [] text

/-- The decision about a whole text. -/
def ResponseFilterPolicy.inspectText (tables : CaseTables) (policy : ResponseFilterPolicy)
    (text : Text) : Except Fault ResponseFilterDecision :=
  policy.inspectTextWithRequiredMissing tables text true

/-- A policy that is enabled and has a rule. -/
def ResponseFilterPolicy.isEffective (policy : ResponseFilterPolicy) : Bool :=
  policy.enabled && !policy.rules.isEmpty

end OneAiKey
