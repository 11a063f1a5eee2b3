/-
  OneAiKey.ResponseFilter.Redact — what case-sensitive redaction writes.

  The search loop of `redact_literal` walks over the normalized text and copies
  from the original one.  Its cursors always stand behind the same character:

    text             =  done ++ rest
    normalized.text  =  visible done ++ visible rest

  so one round copies the piece of `rest` before the next occurrence
  (`redactLoop_round`), and the whole loop writes the pieces of the text joined
  by the replacement:

      redactLiteral_eq_pieces      redact_literal  =  intercalate ∘ pieces

  From this the decision of a policy with one such rule follows
  (`inspectText_single_literal`).
-/
import OneAiKey.Lib.Collect
import OneAiKey.ResponseFilter

namespace OneAiKey

open Redaction

/-! ## §1. Slices at character boundaries. -/

theorem byteLen_nil : byteLen [] = 0 := rfl

theorem byteLen_cons (ch : Char) (text : Text) :
    byteLen (ch :: text) = ch.utf8Size + byteLen text := by
  unfold byteLen
  rw [List.map_cons, List.sum_cons]

theorem byteLen_append (text text' : Text) :
    byteLen (text ++ text') = byteLen text + byteLen text' := by
  unfold byteLen
  rw [List.map_append, List.sum_append]

theorem length_encode (text : Text) : (Utf8.encode text).length = byteLen text := by
  unfold Utf8.encode byteLen
  rw [List.length_flatMap]
  simp only [String.length_utf8EncodeChar]

/-- A text splits where one of its prefixes ends. -/
theorem splitAtByte_byteLen (left right : Text) :
    splitAtByte (byteLen left) (left ++ right) = some (left, right) := by
  induction left with
  | nil =>
      rw [byteLen_nil, List.nil_append]
      cases right <;> rfl
  | cons ch left ih =>
      have hpos := ch.utf8Size_pos
      rw [byteLen_cons]
      obtain ⟨n, hn⟩ : ∃ n, ch.utf8Size + byteLen left = n + 1 :=
        ⟨ch.utf8Size + byteLen left - 1, by omega⟩
      have hrest : n + 1 - ch.utf8Size = byteLen left := by omega
      have hle : ch.utf8Size ≤ n + 1 := by omega
      rw [hn, List.cons_append]
      unfold splitAtByte
      rw [if_pos hle, hrest, ih]
      rfl

theorem sliceTo_byteLen (left right : Text) :
    sliceTo (left ++ right) (byteLen left) = .ok left := by
  unfold sliceTo
  rw [splitAtByte_byteLen]

theorem sliceFrom_byteLen (left right : Text) :
    sliceFrom (left ++ right) (byteLen left) = .ok right := by
  unfold sliceFrom
  rw [splitAtByte_byteLen]

/-- A part of a text is cut out where it begins and ends. -/
theorem slice_byteLen (left part right : Text) :
    slice (left ++ part ++ right) (byteLen left) (byteLen (left ++ part)) = .ok part := by
  have hle : ¬ byteLen (left ++ part) < byteLen left := by
    rw [byteLen_append]
    omega
  unfold slice
  rw [if_neg hle, sliceTo_byteLen]
  exact sliceFrom_byteLen left part

/-! ## §2. Normalized texts. -/

section Normalized

variable (tables : CaseTables) (start : Nat) (text : Text)

theorem normalizeFilterText_caseSensitive :
    normalizeFilterText tables text true = visible isIgnoredFormatChar text := rfl

/-- With case kept, the normalized text is the visible one. -/
theorem normalizedText_text :
    (normalizedTextWithOriginalRanges tables true start text).text =
      visible isIgnoredFormatChar text := by
  induction text generalizing start with
  | nil => rfl
  | cons ch text ih =>
      unfold normalizedTextWithOriginalRanges
      cases hch : isIgnoredFormatChar ch with
      | true =>
          rw [visible_cons_hidden hch, ← ih (start + ch.utf8Size)]
          rfl
      | false =>
          rw [visible_cons_visible hch, ← ih (start + ch.utf8Size)]
          rfl

/-- The range of a visible character is its place in the original. -/
theorem originalRanges_at (left right : Text) {ch : Char} (hch : isIgnoredFormatChar ch = false) :
    (normalizedTextWithOriginalRanges tables true start (left ++ ch :: right)).originalRanges[
        (visible isIgnoredFormatChar left).length]? =
      some (start + byteLen left, start + byteLen (left ++ [ch])) := by
  induction left generalizing start with
  | nil =>
      rw [List.nil_append]
      unfold normalizedTextWithOriginalRanges
      rw [hch, byteLen_nil, List.nil_append, byteLen_cons, byteLen_nil]
      rfl
  | cons ch' left ih =>
      have hnext := ih (start + ch'.utf8Size)
      rw [List.cons_append]
      unfold normalizedTextWithOriginalRanges
      rw [List.cons_append, byteLen_cons, byteLen_cons, ← Nat.add_assoc, ← Nat.add_assoc, ← hnext]
      cases hch' : isIgnoredFormatChar ch' with
      | true =>
          rw [visible_cons_hidden hch']
          rfl
      | false =>
          rw [visible_cons_visible hch']
          rfl

/-- A visible character begins in the original where the text before it ends. -/
theorem originalStartFor_at (left right : Text) {ch : Char}
    (hch : isIgnoredFormatChar ch = false) :
    (normalizedTextWithOriginalRanges tables true 0 (left ++ ch :: right)).originalStartFor
        (byteLen (visible isIgnoredFormatChar left)) =
      .ok (some (byteLen left)) := by
  unfold NormalizedText.originalStartFor
  rw [normalizedText_text, visible_append, sliceTo_byteLen]
  show Except.ok _ = _
  rw [originalRanges_at tables 0 left right hch, Nat.zero_add]
  rfl

/-- A visible character ends in the original where the text behind it begins. -/
theorem originalEndFor_at (left right : Text) {ch : Char}
    (hch : isIgnoredFormatChar ch = false) :
    (normalizedTextWithOriginalRanges tables true 0 (left ++ ch :: right)).originalEndFor
        (byteLen (visible isIgnoredFormatChar (left ++ [ch]))) =
      .ok (some (byteLen (left ++ [ch]))) := by
  have hlength : (visible isIgnoredFormatChar (left ++ [ch])).length =
      (visible isIgnoredFormatChar left).length + 1 := by
    rw [visible_append, visible_cons_visible hch, List.length_append]
    rfl
  unfold NormalizedText.originalEndFor
  rw [normalizedText_text, ← List.singleton_append, ← List.append_assoc, visible_append (left ++ [ch]),
    sliceTo_byteLen]
  show (if (visible isIgnoredFormatChar (left ++ [ch])).length = 0 then Except.ok (some 0)
    else Except.ok _) = _
  rw [hlength, if_neg (Nat.succ_ne_zero _), Nat.add_sub_cancel, List.append_assoc,
    List.singleton_append, originalRanges_at tables 0 left right hch, Nat.zero_add, Nat.zero_add]
  rfl

end Normalized

/-! ## §3. The search loop. -/

section Loop

variable (tables : CaseTables) (replacement : Text) {normalizedValue : Text}

/-- The loop on a whole text, with both cursors behind the characters `done`. -/
private def redactFrom (tables : CaseTables) (replacement normalizedValue done rest : Text)
    (fuel : Nat) (result : Text) : Except Fault Text :=
  redactLoop (done ++ rest) replacement
    (normalizedTextWithOriginalRanges tables true 0 (done ++ rest)) normalizedValue fuel result
    (byteLen done) (byteLen (visible isIgnoredFormatChar done))

/-- No further occurrence: the loop copies the rest. -/
theorem redactLoop_end (done : Text) {rest : Text} (fuel : Nat) (result : Text)
    (h : (visible isIgnoredFormatChar rest).dropInfix? normalizedValue = none) :
    redactFrom tables replacement normalizedValue done rest (fuel + 1) result =
      .ok (result ++ rest) := by
  unfold redactFrom redactLoop
  rw [normalizedText_text, visible_append, sliceFrom_byteLen]
  have hfind : find (visible isIgnoredFormatChar rest) normalizedValue = none := by
    unfold find
    rw [h]
    rfl
  dsimp only [bind, Except.bind]
  rw [hfind]
  show (sliceFrom (done ++ rest) (byteLen done)).bind _ = _
  rw [sliceFrom_byteLen]
  rfl

/-- One round copies the piece before the next occurrence, and passes the occurrence. -/
theorem redactLoop_round (hvalue : normalizedValue ≠ []) (done : Text)
    {rest before behind : Text} (fuel : Nat) (result : Text)
    (h : (visible isIgnoredFormatChar rest).dropInfix? normalizedValue = some (before, behind)) :
    ∃ passed,
      rest = passed ++
        afterVisible isIgnoredFormatChar (before.length + normalizedValue.length) rest ∧
      redactFrom tables replacement normalizedValue done rest (fuel + 1) result =
        redactFrom tables replacement normalizedValue (done ++ passed)
          (afterVisible isIgnoredFormatChar (before.length + normalizedValue.length) rest) fuel
          (result ++ beforeVisible isIgnoredFormatChar before.length rest ++ replacement) := by
  obtain ⟨hsplit, -⟩ := dropInfix_eq_some_iff.mp h
  obtain ⟨occurrence, hrest, hocc, ⟨first, right, hfirst, hfirst'⟩, left, last, hlast, hlast'⟩ :=
    exists_occurrence hvalue hsplit
  have hbefore : visible isIgnoredFormatChar
      (beforeVisible isIgnoredFormatChar before.length rest) = before := by
    rw [visible_beforeVisible, hsplit, List.append_assoc, List.take_left]
  generalize beforeVisible isIgnoredFormatChar before.length rest = piece at *
  generalize afterVisible isIgnoredFormatChar (before.length + normalizedValue.length) rest =
    rest' at *
  subst hrest
  refine ⟨piece ++ occurrence, rfl, ?_⟩
  -- the two cursors behind the piece, and behind the occurrence
  have hstart : byteLen (visible isIgnoredFormatChar done) + byteLen before =
      byteLen (visible isIgnoredFormatChar (done ++ piece)) := by
    rw [visible_append, hbefore, byteLen_append]
  have hend : byteLen (visible isIgnoredFormatChar (done ++ piece)) + byteLen normalizedValue =
      byteLen (visible isIgnoredFormatChar (done ++ piece ++ left ++ [last])) := by
    rw [List.append_assoc (done ++ piece), ← hlast, visible_append (done ++ piece), hocc,
      byteLen_append (visible isIgnoredFormatChar (done ++ piece))]
  have hatFirst : done ++ (piece ++ occurrence ++ rest') =
      done ++ piece ++ first :: (right ++ rest') := by
    rw [hfirst]
    simp only [List.append_assoc, List.cons_append]
  have hatLast : done ++ (piece ++ occurrence ++ rest') =
      done ++ piece ++ left ++ last :: rest' := by
    rw [hlast]
    simp only [List.append_assoc, List.cons_append, List.nil_append]
  have hpassed : done ++ (piece ++ occurrence) = done ++ piece ++ left ++ [last] := by
    rw [hlast]
    simp only [List.append_assoc]
  have hwhole : done ++ (piece ++ occurrence) ++ rest' =
      done ++ (piece ++ occurrence ++ rest') := by
    simp only [List.append_assoc]
  have hstartFor := originalStartFor_at tables (done ++ piece) (right ++ rest') hfirst'
  have hendFor := originalEndFor_at tables (done ++ piece ++ left) rest' hlast'
  have hslice := slice_byteLen done piece (occurrence ++ rest')
  rw [← hatFirst] at hstartFor
  rw [← hatLast] at hendFor
  have hslice' : done ++ piece ++ (occurrence ++ rest') =
      done ++ (piece ++ occurrence ++ rest') := by
    simp only [List.append_assoc]
  rw [hslice'] at hslice
  have hsearched : sliceFrom
      (normalizedTextWithOriginalRanges tables true 0 (done ++ (piece ++ occurrence ++ rest'))).text
      (byteLen (visible isIgnoredFormatChar done)) =
        .ok (visible isIgnoredFormatChar (piece ++ occurrence ++ rest')) := by
    rw [normalizedText_text, visible_append done, sliceFrom_byteLen]
  have hfind : find (visible isIgnoredFormatChar (piece ++ occurrence ++ rest')) normalizedValue =
      some (byteLen before) := by
    unfold find
    rw [h]
    rfl
  unfold redactFrom
  conv_lhs => unfold redactLoop
  rw [hwhole, hpassed]
  simp only [hsearched, hfind, hstart, hstartFor, hend, hendFor, hslice, bind, Except.bind]

/-- The whole loop writes the pieces of the rest. -/
theorem redactLoop_eq_pieces (hvalue : normalizedValue ≠ []) :
    ∀ (fuel : Nat) (done rest result : Text),
      (visible isIgnoredFormatChar rest).length < fuel →
      redactFrom tables replacement normalizedValue done rest fuel result =
        .ok (result ++
          replacement.intercalate (pieces isIgnoredFormatChar normalizedValue rest)) := by
  intro fuel
  induction fuel with
  | zero =>
      intro done rest result hless
      exact absurd hless (Nat.not_lt_zero _)
  | succ fuel ih =>
      intro done rest result hless
      -- no further match: the rest is the last piece
      cases h : (visible isIgnoredFormatChar rest).dropInfix? normalizedValue with
      | none => rw [redactLoop_end tables replacement done fuel result h, pieces_of_none h, List.intercalate_singleton]
      | some found =>
          obtain ⟨before, behind⟩ := found
          obtain ⟨passed, -, hround⟩ :=
            redactLoop_round tables replacement hvalue done fuel result h
          -- what is left behind the match is shorter
          have hfuel : (visible isIgnoredFormatChar (afterVisible isIgnoredFormatChar
              (before.length + normalizedValue.length) rest)).length < fuel := by
            have hpos := List.length_pos_iff.mpr hvalue
            have hlength := congrArg List.length (dropInfix_eq_some_iff.mp h).1
            rw [visible_afterVisible, List.length_drop]
            simp only [List.length_append] at hlength
            omega
          rw [hround, ih _ _ _ hfuel, pieces_of_some hvalue h,
            List.intercalate_cons_of_ne_nil (pieces_ne_nil _ _)]
          simp only [List.append_assoc]

end Loop

/-- **Case-sensitive redaction** joins the pieces between the occurrences of the normalized
literal by the replacement. -/
theorem redactLiteral_eq_pieces (tables : CaseTables) (text value replacement : Text)
    (hvalue : visible isIgnoredFormatChar value ≠ []) :
    redactLiteral tables text value true replacement =
      .ok (replacement.intercalate
        (pieces isIgnoredFormatChar (visible isIgnoredFormatChar value) text)) := by
  have hloop := redactLoop_eq_pieces tables replacement hvalue
    ((visible isIgnoredFormatChar text).length + 1) [] text [] (Nat.lt_succ_self _)
  rw [← normalizedText_text tables 0 text] at hloop
  exact hloop

/-! ## §4. What compiles. -/

section Compile

variable {buildRegex : String → Except String Regex} {tables : CaseTables}

/-- The matcher of a kind of rule that passes its checks. -/
inductive CompilesTo (buildRegex : String → Except String Regex) (tables : CaseTables) :
    ResponseFilterRuleKind → ResponseFilterMatcher → Prop where
  | literal {value : String} (caseSensitive : Bool) (hvalue : value.isEmpty = false) :
      CompilesTo buildRegex tables (.literal value caseSensitive) (.literal value.toList
        (normalizeFilterText tables value.toList caseSensitive) caseSensitive)
  | regex {pattern : String} {regex : Regex} (hpattern : pattern.isEmpty = false)
      (hbuild : buildRegex pattern = .ok regex) :
      CompilesTo buildRegex tables (.regex pattern) (.regex regex)
  | requiredLiteral {value : String} (caseSensitive : Bool) (hvalue : value.isEmpty = false) :
      CompilesTo buildRegex tables (.requiredLiteral value caseSensitive) (.requiredLiteral
        (normalizeFilterText tables value.toList caseSensitive) caseSensitive)
  | requiredRegex {pattern : String} {regex : Regex} (hpattern : pattern.isEmpty = false)
      (hbuild : buildRegex pattern = .ok regex) :
      CompilesTo buildRegex tables (.requiredRegex pattern) (.requiredRegex regex)

/-- A compiled rule has the trimmed id, the action, and the matcher of its kind. -/
theorem compileRule_ok_iff {id : String} {kind : ResponseFilterRuleKind}
    {action : ResponseFilterAction} {rule : CompiledResponseFilterRule} :
    compileRule buildRegex tables ⟨id, kind, action⟩ = .ok rule ↔
      (String.ofList (trim id.toList)).isEmpty = false ∧ ∃ matcher,
        CompilesTo buildRegex tables kind matcher ∧
        rule = ⟨String.ofList (trim id.toList), action, matcher⟩ := by
  unfold compileRule
  generalize String.ofList (trim id.toList) = id
  -- the id is looked at first, before the kind of the rule
  by_cases hid : id.isEmpty = true
  · simp [hid, bind, Except.bind, throw, throwThe, MonadExceptOf.throw]
  · constructor
    · intro h
      refine ⟨eq_false_of_ne_true hid, ?_⟩
      -- both literals are checked alike, and so are both patterns
      cases kind with
      | literal value caseSensitive | requiredLiteral value caseSensitive =>
          by_cases hvalue : value.isEmpty = true
          · simp [hid, hvalue, bind, Except.bind, throw, throwThe, MonadExceptOf.throw] at h
          · simp only [hid, hvalue, Bool.false_eq_true, if_false, bind, Except.bind, pure,
              Except.pure] at h
            refine ⟨_, ?_, (Except.ok.inj h).symm⟩
            constructor
            exact eq_false_of_ne_true hvalue
      | regex pattern | requiredRegex pattern =>
          by_cases hpattern : pattern.isEmpty = true
          · simp [hid, hpattern, bind, Except.bind, throw, throwThe, MonadExceptOf.throw] at h
          · cases hbuild : buildRegex pattern with
            | error err =>
                simp [hid, hpattern, hbuild, bind, Except.bind, throw, throwThe,
                  MonadExceptOf.throw] at h
            | ok regex =>
                simp only [hid, hpattern, hbuild, Bool.false_eq_true, if_false, bind, Except.bind,
                  pure, Except.pure] at h
                refine ⟨_, ?_, (Except.ok.inj h).symm⟩
                constructor
                · exact eq_false_of_ne_true hpattern
                · exact hbuild
    · -- the other way each kind passes the checks that its matcher records
      rintro ⟨-, matcher, hkind, rfl⟩
      cases hkind with
      | literal caseSensitive hvalue | requiredLiteral caseSensitive hvalue =>
          simp only [hid, hvalue, Bool.false_eq_true, if_false, bind, Except.bind, pure,
            Except.pure]
      | regex hpattern hbuild | requiredRegex hpattern hbuild =>
          simp only [hid, hpattern, hbuild, Bool.false_eq_true, if_false, bind, Except.bind, pure,
            Except.pure]

/-- The replacement of a compiled policy. -/
def configuredReplacement (replacement : String) : Text :=
  (if replacement.isEmpty then "[filtered]" else replacement).toList

/-- A policy has the compiled rules, in their order. -/
theorem compile_ok_iff {spec : ResponseFilterSpec} {policy : ResponseFilterPolicy} :
    ResponseFilterPolicy.compile buildRegex tables spec = .ok policy ↔
      ∃ rules, spec.rules.mapM (compileRule buildRegex tables) = .ok rules ∧
        policy = ⟨spec.enabled, configuredReplacement spec.replacement, rules⟩ := by
  unfold ResponseFilterPolicy.compile
  rw [Collect.bind_eq_ok]
  constructor
  · rintro ⟨rules, hrules, h⟩
    exact ⟨rules, hrules, (Except.ok.inj h).symm⟩
  · rintro ⟨rules, hrules, rfl⟩
    exact ⟨rules, hrules, rfl⟩

theorem replacement_of_compile {spec : ResponseFilterSpec} {policy : ResponseFilterPolicy}
    (h : ResponseFilterPolicy.compile buildRegex tables spec = .ok policy) :
    policy.replacement = configuredReplacement spec.replacement := by
  obtain ⟨rules, -, rfl⟩ := compile_ok_iff.mp h
  rfl

/-- A policy of one rule. -/
theorem compile_one {enabled : Bool} {replacement : String} {ruleSpec : ResponseFilterRuleSpec}
    {policy : ResponseFilterPolicy} :
    ResponseFilterPolicy.compile buildRegex tables ⟨enabled, replacement, [ruleSpec]⟩ =
        .ok policy ↔
      ∃ rule, compileRule buildRegex tables ruleSpec = .ok rule ∧
        policy = ⟨enabled, configuredReplacement replacement, [rule]⟩ := by
  unfold ResponseFilterPolicy.compile
  rw [List.mapM_cons, List.mapM_nil]
  cases compileRule buildRegex tables ruleSpec with
  | error err => exact iff_of_false nofun nofun
  | ok rule =>
      constructor
      · intro h
        exact ⟨rule, rfl, (Except.ok.inj h).symm⟩
      · rintro ⟨rule', hrule, rfl⟩
        cases hrule
        rfl

/-- A compiled literal is normalized. -/
theorem normalized_of_compile {spec : ResponseFilterSpec} {policy : ResponseFilterPolicy}
    (h : ResponseFilterPolicy.compile buildRegex tables spec = .ok policy)
    {rule : CompiledResponseFilterRule} (hrule : rule ∈ policy.rules) {value normalizedValue : Text}
    {caseSensitive : Bool} (hmatcher : rule.matcher = .literal value normalizedValue caseSensitive) :
    normalizedValue = normalizeFilterText tables value caseSensitive := by
  obtain ⟨rules, hrules, rfl⟩ := compile_ok_iff.mp h
  obtain ⟨⟨id, kind, action⟩, -, hcompiled⟩ := Collect.exists_of_mem_mapM hrules hrule
  obtain ⟨-, matcher, hkind, rfl⟩ := compileRule_ok_iff.mp hcompiled
  obtain rfl := hmatcher
  cases hkind
  rfl

end Compile

/-! ## §5. A policy with one case-sensitive redact rule. -/

/-- The policy has one rule, which redacts the literal `value` and heeds its case. -/
structure ResponseFilterPolicy.SingleLiteral (tables : CaseTables) (policy : ResponseFilterPolicy)
    (value : Text) : Prop where
  enabled : policy.enabled = true
  rule : ∃ id, policy.rules =
    [⟨id, .redact, .literal value (normalizeFilterText tables value true) true⟩]

theorem toList_ne_nil {value : String} (h : value.isEmpty = false) : value.toList ≠ [] := by
  rw [Ne, String.toList_eq_nil_iff, ← String.isEmpty_iff, h]
  exact Bool.false_ne_true

/-- Compiling a specification with one redact literal. -/
theorem compile_literal {buildRegex : String → Except String Regex} {tables : CaseTables}
    {spec : ResponseFilterSpec} {id value : String} {caseSensitive : Bool}
    {policy : ResponseFilterPolicy}
    (hrules : spec.rules = [⟨id, .literal value caseSensitive, .redact⟩])
    (h : ResponseFilterPolicy.compile buildRegex tables spec = .ok policy) :
    policy.enabled = spec.enabled ∧ value.toList ≠ [] ∧ ∃ ruleId, policy.rules =
      [⟨ruleId, .redact, .literal value.toList
        (normalizeFilterText tables value.toList caseSensitive) caseSensitive⟩] := by
  obtain ⟨enabled, replacement, ruleSpecs⟩ := spec
  obtain rfl := hrules
  obtain ⟨rule, hrule, rfl⟩ := compile_one.mp h
  obtain ⟨-, matcher, hkind, rfl⟩ := compileRule_ok_iff.mp hrule
  cases hkind with
  | literal _ hvalue => exact ⟨rfl, toList_ne_nil hvalue, _, rfl⟩

/-- A policy of one literal compiles to one matcher, with the configured replacement. -/
theorem compile_single_literal {buildRegex : String → Except String Regex} {tables : CaseTables}
    {id value replacement : String} {policy : ResponseFilterPolicy}
    (h : ResponseFilterPolicy.compile buildRegex tables
      ⟨true, replacement, [⟨id, .literal value true, .redact⟩]⟩ = .ok policy) :
    policy.SingleLiteral tables value.toList ∧ value.toList ≠ [] := by
  obtain ⟨henabled, hvalue, hrule⟩ := compile_literal rfl h
  exact ⟨⟨henabled, hrule⟩, hvalue⟩

/-- One pass over the rule of a redact literal. -/
theorem inspectRules_single_literal (tables : CaseTables) (replacement value text : Text)
    (id : String) (caseSensitive : Bool) :
    inspectRules tables replacement text true
        [⟨id, .redact, .literal value (normalizeFilterText tables value caseSensitive)
          caseSensitive⟩] [] text =
      if contains (normalizeFilterText tables text caseSensitive)
          (normalizeFilterText tables value caseSensitive) then
        (redactLiteral tables text value caseSensitive replacement).map fun redacted =>
          .redacted redacted [⟨id, .redact, "rule_matched"⟩]
      else .ok .unchanged := by
  unfold inspectRules
  show (if (!contains (normalizeFilterText tables text caseSensitive)
    (normalizeFilterText tables value caseSensitive)) = true then _ else _) = _
  cases contains (normalizeFilterText tables text caseSensitive)
      (normalizeFilterText tables value caseSensitive) with
  | false => rfl
  | true =>
      cases redactLiteral tables text value caseSensitive replacement with
      | error fault => rfl
      | ok redacted => rfl

/-- Its decision on a text: what the pieces of the text say. -/
theorem inspectText_single_literal {tables : CaseTables} {policy : ResponseFilterPolicy}
    {value : Text} (hpolicy : policy.SingleLiteral tables value)
    (hvalue : visible isIgnoredFormatChar value ≠ []) (text : Text) :
    (visible isIgnoredFormatChar value <:+: visible isIgnoredFormatChar text ∧
        ∃ matched, policy.inspectText tables text = .ok (.redacted (policy.replacement.intercalate
          (pieces isIgnoredFormatChar (visible isIgnoredFormatChar value) text)) matched)) ∨
      (pieces isIgnoredFormatChar (visible isIgnoredFormatChar value) text = [text] ∧
        policy.inspectText tables text = .ok .unchanged) := by
  obtain ⟨id, hrule⟩ := hpolicy.rule
  unfold ResponseFilterPolicy.inspectText ResponseFilterPolicy.inspectTextWithRequiredMissing
  -- an empty text is not looked at
  by_cases hempty : text = []
  · right
    subst hempty
    refine ⟨pieces_of_none ?_, ?_⟩
    · rw [dropInfix_eq_none_iff, visible_nil, List.infix_nil]
      exact hvalue
    · rw [if_pos (by simp)]
  · rw [if_neg (by simp [hpolicy.enabled, hrule, hempty]), hrule, inspectRules_single_literal,
      normalizeFilterText_caseSensitive, normalizeFilterText_caseSensitive]
    unfold contains
    cases hfind :
        (visible isIgnoredFormatChar text).dropInfix? (visible isIgnoredFormatChar value) with
    | none => exact .inr ⟨pieces_of_none hfind, rfl⟩
    | some found =>
        left
        refine ⟨?_, [⟨id, .redact, "rule_matched"⟩], ?_⟩
        · by_contra hnot
          rw [← dropInfix_eq_none_iff, hfind] at hnot
          cases hnot
        · rw [redactLiteral_eq_pieces tables text value policy.replacement hvalue]
          rfl

end OneAiKey
