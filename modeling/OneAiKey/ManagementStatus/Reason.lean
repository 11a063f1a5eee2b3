/-
  OneAiKey.ManagementStatus.Reason — the reasons that the management interface shows
  (`redact_management_reason` of `src/management_status.rs`).

  A reason goes through four passes: paths, labelled values, bearer values and
  segments that start as a secret key does.  Each is the same loop over the
  text with its own rule, so each is a `Masking.Rule`; indices count characters
  here and bytes there, and a `get` of a part that would split a character
  fails in the comparison.
-/
import OneAiKey.Lib.Masking
import OneAiKey.State

namespace OneAiKey

open Masking

/-! ## §1. Segments. -/

/-- The quotation mark `'` is character 39. -/
def sensitiveSegmentDelimiter (ch : Char) : Bool :=
  isWhitespace ch || ['"', Char.ofNat 39, ')', ']', '}', ',', ';'].contains ch

/-- The length of the segment that the text begins with. -/
def sensitiveSegmentLen (segment : List Char) : Nat :=
  (segment.takeWhile fun ch => !sensitiveSegmentDelimiter ch).length

/-- The length of the whitespace that the text begins with. -/
def leadingWhitespaceLen (value : List Char) : Nat := (value.takeWhile isWhitespace).length

/-- Does the text begin with `start`, but for the case of ASCII letters? -/
def startsWithIgnoreAsciiCase (value start : List Char) : Bool :=
  (value.take start.length).map Char.toLower == start.map Char.toLower

/-- A word behind a label is taken for a secret if it is no plain word: it has a digit, a hyphen
or an underscore. -/
def looksLikeSecretToken (value : List Char) : Bool :=
  "sk-".toList.isPrefixOf value || value.contains '-' || value.contains '_' ||
    value.any Char.isDigit

/-- A scheme, and the credential behind it.  Both are masked together.  A scheme with nothing
behind it is masked by itself, up to the next delimiter. -/
def authorizationValueLen (value : List Char) : Nat :=
  let schemeLen := sensitiveSegmentLen value
  let afterScheme := value.drop schemeLen
  let whitespaceLen := leadingWhitespaceLen afterScheme
  if whitespaceLen = 0 then schemeLen
  else schemeLen + whitespaceLen + sensitiveSegmentLen (afterScheme.drop whitespaceLen)

/-- What stands for a secret. -/
def redactedMark : List Char := "[redacted]".toList

/-- What stands for a path. -/
def redactedPathMark : List Char := "[redacted-path]".toList

/-! ## §2. The rules. -/

/-- `redact_segments`, for segments that begin with one of some texts.  Nothing of such a
segment is kept: the whole of it, up to the next delimiter, gives way to the replacement. -/
def segmentBlock (starts : List (List Char)) (replacement remaining : List Char) :
    Option (Block Char) :=
  if starts.any (·.isPrefixOf remaining) then
    some ⟨0, replacement, sensitiveSegmentLen remaining⟩
  else none

/-- A segment is masked exactly if it begins with one of the texts, and then all of it is.  The
passes over paths and over secret keys are the two uses of it. -/
theorem segmentBlock_eq_some {starts : List (List Char)} {replacement remaining : List Char}
    {b : Block Char} :
    segmentBlock starts replacement remaining = some b ↔
      (∃ start ∈ starts, start <+: remaining) ∧
        b = ⟨0, replacement, sensitiveSegmentLen remaining⟩ := by
  unfold segmentBlock
  by_cases h : starts.any (·.isPrefixOf remaining) = true
  · rw [if_pos h]
    simp only [List.any_eq_true, List.isPrefixOf_iff_prefix] at h
    exact ⟨fun heq => ⟨h, (Option.some.inj heq).symm⟩, fun heq => by rw [heq.2]⟩
  · rw [if_neg h]
    simp only [List.any_eq_true, List.isPrefixOf_iff_prefix] at h
    exact ⟨fun heq => absurd heq (by simp), fun heq => absurd heq.1 h⟩

/-- A segment that begins with such a text is not empty, so that masking it advances.  The
first character of the text is no delimiter, so the segment has at least that one. -/
theorem sensitiveSegmentLen_pos {start remaining : List Char}
    (h : start.head?.any (!sensitiveSegmentDelimiter ·) = true) (hstart : start <+: remaining) :
    0 < sensitiveSegmentLen remaining := by
  obtain ⟨rest, rfl⟩ := hstart
  cases start with
  | nil => cases h
  | cons a start =>
      have hplain : sensitiveSegmentDelimiter a = false := by simpa using h
      unfold sensitiveSegmentLen
      rw [List.cons_append, List.takeWhile_cons_of_pos (by rw [hplain]; rfl)]
      exact Nat.succ_pos _

/-- The pass that masks segments, for texts whose first character is no delimiter.  The
conditions are what makes a rule of it: every block moves on, and none is left empty. -/
def segmentRule (starts : List (List Char)) (replacement : List Char)
    (hstarts : ∀ start ∈ starts, start.head?.any (!sensitiveSegmentDelimiter ·) = true)
    (hreplacement : replacement ≠ []) : Rule Char where
  block := segmentBlock starts replacement
  advances remaining b h := by
    obtain ⟨⟨start, hstart, hin⟩, rfl⟩ := segmentBlock_eq_some.mp h
    have := sensitiveSegmentLen_pos (hstarts start hstart) hin
    show 0 < 0 + sensitiveSegmentLen remaining
    omega
  masked remaining b h hmask := by
    obtain ⟨-, rfl⟩ := segmentBlock_eq_some.mp h
    exact absurd hmask hreplacement

/-- `redact_key_value_secret_values`. -/
def keyValueBlock (labels : List (List Char)) (remaining : List Char) : Option (Block Char) :=
  match labels.find? (startsWithIgnoreAsciiCase remaining) with
  | none => none
  | some label =>
      let afterLabel := remaining.drop label.length
      let beforeSeparatorLen := leadingWhitespaceLen afterLabel
      let afterWhitespace := afterLabel.drop beforeSeparatorLen
      if afterWhitespace.head?.any fun ch => ch == ':' || ch == '=' then
        let afterSeparator := afterWhitespace.drop 1
        let afterSeparatorWhitespaceLen := leadingWhitespaceLen afterSeparator
        let value := afterSeparator.drop afterSeparatorWhitespaceLen
        -- label and separator stay as they are
        let kept := label.length + beforeSeparatorLen + 1 + afterSeparatorWhitespaceLen
        if label.map Char.toLower == "authorization".toList then
          if startsWithIgnoreAsciiCase value "bearer".toList then
            let afterBearer := value.drop "bearer".toList.length
            let bearerWhitespaceLen := leadingWhitespaceLen afterBearer
            some ⟨kept + "bearer".toList.length, ' ' :: redactedMark,
              bearerWhitespaceLen + sensitiveSegmentLen (afterBearer.drop bearerWhitespaceLen)⟩
          else some ⟨kept, redactedMark, authorizationValueLen value⟩
        else some ⟨kept, redactedMark, sensitiveSegmentLen value⟩
      -- without a separator only a word that looks like a token is masked
      else if 0 < beforeSeparatorLen then
        let value := afterLabel.drop beforeSeparatorLen
        let valueLen := sensitiveSegmentLen value
        if looksLikeSecretToken (value.take valueLen) then
          some ⟨label.length + beforeSeparatorLen, redactedMark, valueLen⟩
        else none
      else none

/-- `redact_bearer_secret_values`. -/
def bearerBlock (remaining : List Char) : Option (Block Char) :=
  if startsWithIgnoreAsciiCase remaining "bearer".toList then
    let afterLabel := remaining.drop "bearer".toList.length
    let whitespaceLen := leadingWhitespaceLen afterLabel
    if 0 < whitespaceLen then
      if redactedMark.isPrefixOf (afterLabel.drop whitespaceLen) then
        some ⟨"bearer".toList.length + whitespaceLen + redactedMark.length, [], 0⟩
      else
        some ⟨"bearer".toList.length + whitespaceLen, redactedMark,
          sensitiveSegmentLen (afterLabel.drop whitespaceLen)⟩
    else none
  else none

/-- The pass keeps at least the label, and what it puts behind it is not empty.  So the pass
moves on by a character at least, whatever the value is. -/
theorem keyValueBlock_kept {labels : List (List Char)} {remaining : List Char} {b : Block Char}
    (h : keyValueBlock labels remaining = some b) :
    (∃ label ∈ labels, label.length ≤ b.keep) ∧ b.mask ≠ [] := by
  unfold keyValueBlock at h
  split at h
  · cases h
  · rename_i label hfind
    have hlabel := List.mem_of_find?_eq_some hfind
    have hmark : redactedMark ≠ [] := by decide
    dsimp only at h
    split_ifs at h <;> cases h
    · exact ⟨⟨label, hlabel, by dsimp only; omega⟩, List.cons_ne_nil _ _⟩
    · exact ⟨⟨label, hlabel, by dsimp only; omega⟩, hmark⟩
    · exact ⟨⟨label, hlabel, by dsimp only; omega⟩, hmark⟩
    · exact ⟨⟨label, hlabel, by dsimp only; omega⟩, hmark⟩

/-- The pass that masks labelled values.  A block keeps its label at least, so that the pass
moves on if no label is empty. -/
def keyValueRule (labels : List (List Char)) (hlabels : ∀ label ∈ labels, label ≠ []) :
    Rule Char where
  block := keyValueBlock labels
  advances remaining b h := by
    obtain ⟨⟨label, hlabel, hkeep⟩, -⟩ := keyValueBlock_kept h
    have := List.length_pos_iff.mpr (hlabels label hlabel)
    omega
  masked remaining b h hmask := absurd hmask (keyValueBlock_kept h).2

/-- The pass that masks bearer values.  It steps over a mark that is there already, as the pass
over labels leaves one behind `bearer`. -/
def bearerRule : Rule Char where
  block := bearerBlock
  advances remaining b h := by
    unfold bearerBlock at h
    dsimp only at h
    split_ifs at h <;> cases h <;> dsimp only <;> omega
  masked remaining b h hmask := by
    unfold bearerBlock at h
    dsimp only at h
    split_ifs at h <;> cases h
    · rfl
    · exact absurd hmask (show redactedMark ≠ [] by decide)

/-! ## §3. The four passes. -/

/-- The beginnings of paths that would say something about the machine. -/
def pathStarts : List (List Char) :=
  ["/Users/", "/etc/", "/home/", "/opt/", "/private/tmp/", "/root/", "/tmp/", "/usr/", "/var/",
    "file:///etc/", "file:///Users/", "file:///home/", "file:///opt/", "file:///root/",
    "file:///usr/", "file:///var/", "~/"].map String.toList

/-- The labels of secrets.  `authorization` is treated differently: its value is a scheme with a
credential behind it. -/
def secretLabels : List (List Char) :=
  ["authorization", "access_token", "api_key", "api-key", "apikey", "token", "key"].map
    String.toList

/-- The pass over paths. -/
def pathRule : Rule Char :=
  segmentRule pathStarts redactedPathMark (by decide) (by decide)

/-- `redact_path_segments`. -/
def redactPathSegments (input : List Char) : List Char := pathRule.pass input

/-- The pass over labelled values. -/
def labeledRule : Rule Char := keyValueRule secretLabels (by decide)

/-- `redact_labeled_secret_values`. -/
def redactLabeledSecretValues (input : List Char) : List Char := labeledRule.pass input

/-- `redact_bearer_secret_values`, over the whole text. -/
def redactBearerSecretValues (input : List Char) : List Char := bearerRule.pass input

/-- The pass over segments that begin as a secret key does. -/
def secretRule : Rule Char :=
  segmentRule ["sk-".toList] redactedMark (by decide) (by decide)

/-- `redact_secret_segments`. -/
def redactSecretSegments (input : List Char) : List Char := secretRule.pass input

/-- `redact_management_reason`: the four passes in the order of the source, paths first and secret
keys last. -/
def redactManagementReason (reason : String) : String :=
  String.ofList (redactSecretSegments (redactBearerSecretValues (redactLabeledSecretValues
    (redactPathSegments reason.toList))))

end OneAiKey
