/-
  OneAiKey.ResponseFilter.Literal — what redaction of a literal replaces, with or without
  its case (`redact_literal` of `src/response_filter.rs`).

  The search loop walks over the searched text and copies from the original one.  Without
  the case a character of the original may be several of the searched text, and a match
  may end inside of them: the searched text has `partial` of the last character left.

    text             =  done ++ rest
    normalized.text  =  passed ++ partial ++ searchedText rest
    searchedText done = passed ++ partial

  Main results:
    * `redactLoop_spans` — what the loop writes is the rest with the spans replaced, and
      no kept piece has the literal;
    * `literal_redaction_removes_iff` — for which literals a report goes with a removal.
-/
import OneAiKey.ResponseFilter.Lowercase
import OneAiKey.ResponseFilter.Redact

namespace OneAiKey

open Redaction

/-! ## §1. Texts with spans replaced. -/

/-- The text of the kept pieces, each with the span behind it, and of the last piece. -/
def spannedText (spans : List (Text × Text)) (last : Text) : Text :=
  (spans.flatMap fun span => span.1 ++ span.2) ++ last

/-- The spans are replaced. -/
def replacedText (replacement : Text) (spans : List (Text × Text)) (last : Text) : Text :=
  (spans.flatMap fun span => span.1 ++ replacement) ++ last

/-- At least one span of the text, none of them empty, is replaced, and the rest is kept. -/
def SpansReplaced (replacement text redacted : Text) : Prop :=
  ∃ spans last, spans ≠ [] ∧ (∀ span ∈ spans, span.2 ≠ []) ∧ text = spannedText spans last ∧
    redacted = replacedText replacement spans last

/-! ## §2. Where a searched character comes from. -/

section Ranges

variable (tables : CaseTables) (caseSensitive : Bool)

theorem searchedText_append (text text' : Text) :
    searchedText tables caseSensitive (text ++ text') =
      searchedText tables caseSensitive text ++ searchedText tables caseSensitive text' := by
  unfold searchedText
  rw [visible_append, List.flatMap_append]

theorem searchedText_cons_hidden {ch : Char} (h : isIgnoredFormatChar ch = true) (text : Text) :
    searchedText tables caseSensitive (ch :: text) = searchedText tables caseSensitive text := by
  unfold searchedText
  rw [visible_cons_hidden h]

theorem searchedText_cons_visible {ch : Char} (h : isIgnoredFormatChar ch = false) (text : Text) :
    searchedText tables caseSensitive (ch :: text) =
      loweredChar tables caseSensitive ch ++ searchedText tables caseSensitive text := by
  unfold searchedText
  rw [visible_cons_visible h, List.flatMap_cons]

theorem text_normalizedText (start : Nat) (text : Text) :
    (normalizedTextWithOriginalRanges tables caseSensitive start text).text =
      searchedText tables caseSensitive text := by
  induction text generalizing start with
  | nil => rfl
  | cons ch text ih =>
      unfold normalizedTextWithOriginalRanges
      cases hch : isIgnoredFormatChar ch with
      | true =>
          rw [searchedText_cons_hidden tables caseSensitive hch, ← ih (start + ch.utf8Size)]
          rfl
      | false =>
          rw [searchedText_cons_visible tables caseSensitive hch, ← ih (start + ch.utf8Size)]
          rfl

/-- Each searched character has a range. -/
theorem length_originalRanges (start : Nat) (text : Text) :
    (normalizedTextWithOriginalRanges tables caseSensitive start text).originalRanges.length =
      (normalizedTextWithOriginalRanges tables caseSensitive start text).text.length := by
  induction text generalizing start with
  | nil => rfl
  | cons ch text ih =>
      have hrest := ih (start + ch.utf8Size)
      unfold normalizedTextWithOriginalRanges
      cases isIgnoredFormatChar ch with
      | true => exact hrest
      | false =>
          simp only [Bool.false_eq_true, if_false, List.length_append, List.length_map]
          omega

/-- The range of a searched character is the character of the original that it is of. -/
theorem originalRanges_split (start : Nat) {text : Text} {i : Nat}
    (h : i < (searchedText tables caseSensitive text).length) :
    ∃ left ch right, text = left ++ ch :: right ∧
      (searchedText tables caseSensitive left).length ≤ i ∧
      i < (searchedText tables caseSensitive (left ++ [ch])).length ∧
      (normalizedTextWithOriginalRanges tables caseSensitive start text).originalRanges[i]? =
        some (start + byteLen left, start + byteLen (left ++ [ch])) := by
  induction text generalizing start i with
  | nil => exact absurd h (Nat.not_lt_zero i)
  | cons ch text ih =>
      have hlen : ∀ l : Text, byteLen (ch :: l) = ch.utf8Size + byteLen l := byteLen_cons ch
      cases hch : isIgnoredFormatChar ch with
      | true =>
          rw [searchedText_cons_hidden tables caseSensitive hch] at h
          obtain ⟨left, ch', right, rfl, hleft, hi, hrange⟩ := ih (start + ch.utf8Size) h
          refine ⟨ch :: left, ch', right, rfl, ?_, ?_, ?_⟩
          · rw [searchedText_cons_hidden tables caseSensitive hch]
            exact hleft
          · rw [List.cons_append, searchedText_cons_hidden tables caseSensitive hch]
            exact hi
          · unfold normalizedTextWithOriginalRanges
            dsimp only
            rw [hch, if_pos rfl, hrange, List.cons_append, hlen, hlen, Nat.add_assoc,
              Nat.add_assoc]
      | false =>
          rw [searchedText_cons_visible tables caseSensitive hch, List.length_append] at h
          have hranges : (normalizedTextWithOriginalRanges tables caseSensitive start
              (ch :: text)).originalRanges =
              (loweredChar tables caseSensitive ch).map (fun _ => (start, start + ch.utf8Size)) ++
                (normalizedTextWithOriginalRanges tables caseSensitive (start + ch.utf8Size)
                  text).originalRanges := by
            conv_lhs => unfold normalizedTextWithOriginalRanges
            rw [hch]
            rfl
          -- position `i` comes from this character, or from the rest
          by_cases hhere : i < (loweredChar tables caseSensitive ch).length
          · refine ⟨[], ch, text, rfl, Nat.zero_le i, ?_, ?_⟩
            · rw [List.nil_append, searchedText_cons_visible tables caseSensitive hch,
                List.length_append]
              omega
            · rw [hranges, List.getElem?_append_left (by rwa [List.length_map]),
                List.getElem?_map, List.getElem?_eq_getElem hhere, List.nil_append, hlen]
              rfl
          · obtain ⟨left, ch', right, rfl, hleft, hi, hrange⟩ := ih (start + ch.utf8Size)
              (show i - (loweredChar tables caseSensitive ch).length < _ by omega)
            refine ⟨ch :: left, ch', right, rfl, ?_, ?_, ?_⟩
            · rw [searchedText_cons_visible tables caseSensitive hch, List.length_append]
              omega
            · rw [List.cons_append, searchedText_cons_visible tables caseSensitive hch,
                List.length_append]
              omega
            · rw [hranges, List.getElem?_append_right (by rw [List.length_map]; omega),
                List.length_map, hrange, List.cons_append, hlen, hlen, Nat.add_assoc,
                Nat.add_assoc]

variable {tables caseSensitive}

/-- The start for a place in the searched text: of the character that goes on there. -/
theorem originalStartFor_split {text upto behind : Text}
    (h : searchedText tables caseSensitive text = upto ++ behind) (hbehind : behind ≠ []) :
    ∃ left ch right, text = left ++ ch :: right ∧
      (searchedText tables caseSensitive left).length ≤ upto.length ∧
      upto.length < (searchedText tables caseSensitive (left ++ [ch])).length ∧
      (normalizedTextWithOriginalRanges tables caseSensitive 0 text).originalStartFor
        (byteLen upto) = .ok (some (byteLen left)) := by
  have hlt : upto.length < (searchedText tables caseSensitive text).length := by
    have hpos := List.length_pos_iff.mpr hbehind
    rw [h, List.length_append]
    omega
  obtain ⟨left, ch, right, htext, hleft, hch, hrange⟩ :=
    originalRanges_split tables caseSensitive 0 hlt
  refine ⟨left, ch, right, htext, hleft, hch, ?_⟩
  unfold NormalizedText.originalStartFor
  rw [text_normalizedText, h, sliceTo_byteLen]
  show Except.ok _ = _
  rw [hrange, Nat.zero_add]
  rfl

/-- The end for a place in the searched text: of the character that goes up to there. -/
theorem originalEndFor_split {text upto behind : Text}
    (h : searchedText tables caseSensitive text = upto ++ behind) (hupto : upto ≠ []) :
    ∃ left ch right, text = left ++ ch :: right ∧
      (searchedText tables caseSensitive left).length < upto.length ∧
      upto.length ≤ (searchedText tables caseSensitive (left ++ [ch])).length ∧
      (normalizedTextWithOriginalRanges tables caseSensitive 0 text).originalEndFor
        (byteLen upto) = .ok (some (byteLen (left ++ [ch]))) := by
  have hpos := List.length_pos_iff.mpr hupto
  have hlt : upto.length - 1 < (searchedText tables caseSensitive text).length := by
    rw [h, List.length_append]
    omega
  obtain ⟨left, ch, right, htext, hleft, hch, hrange⟩ :=
    originalRanges_split tables caseSensitive 0 hlt
  refine ⟨left, ch, right, htext, by omega, by omega, ?_⟩
  unfold NormalizedText.originalEndFor
  rw [text_normalizedText, h, sliceTo_byteLen]
  show (if upto.length = 0 then Except.ok (some 0) else Except.ok _) = _
  rw [if_neg (by omega), hrange, Nat.zero_add, Nat.zero_add]
  rfl

end Ranges

/-! ## §3. Parts of one text. -/

theorem eq_nil_of_byteLen {text : Text} (h : byteLen text = 0) : text = [] := by
  cases text with
  | nil => rfl
  | cons ch text =>
      have hpos := ch.utf8Size_pos
      rw [byteLen_cons] at h
      omega

/-- The shorter of two beginnings of a text is the beginning of the longer. -/
theorem prefix_of_byteLen_le {left left' text : Text} (hleft : left <+: text)
    (hleft' : left' <+: text) (hle : byteLen left ≤ byteLen left') : left <+: left' := by
  rcases List.prefix_or_prefix_of_prefix hleft hleft' with hinitial | ⟨more, rfl⟩
  · exact hinitial
  · rw [byteLen_append] at hle
    rw [eq_nil_of_byteLen (show byteLen more = 0 by omega), List.append_nil]

theorem searchedText_mono {tables : CaseTables} {caseSensitive : Bool} {left text : Text}
    (h : left <+: text) :
    searchedText tables caseSensitive left <+: searchedText tables caseSensitive text := by
  obtain ⟨right, rfl⟩ := h
  rw [searchedText_append]
  exact List.prefix_append _ _

/-! ## §4. The search loop. -/

section Loop

variable {tables : CaseTables} {caseSensitive : Bool} {replacement normalizedValue : Text}

/-- A round that finds the literal panics if the match starts inside the last span; else it
keeps a piece without the literal and replaces a span, whose last character the match ends in. -/
theorem redactLoop_found (hvalue : normalizedValue ≠ [])
    {done rest passed leftover before behind : Text} (fuel : Nat) (result : Text)
    (hdone : searchedText tables caseSensitive done = passed ++ leftover)
    (hfound : (leftover ++ searchedText tables caseSensitive rest).dropInfix? normalizedValue =
      some (before, behind)) :
    (before.length < leftover.length ∧
      redactLoop (done ++ rest) replacement
        (normalizedTextWithOriginalRanges tables caseSensitive 0 (done ++ rest)) normalizedValue
        (fuel + 1) result (byteLen done) (byteLen passed) = .error .panicked) ∨
    (leftover.length ≤ before.length ∧
      ∃ kept spanned ch rest' leftover', rest = kept ++ (spanned ++ [ch]) ++ rest' ∧
      ¬ normalizedValue <:+: searchedText tables caseSensitive kept ∧
      (searchedText tables caseSensitive (done ++ kept ++ spanned)).length <
        (passed ++ before ++ normalizedValue).length ∧
      searchedText tables caseSensitive (done ++ kept ++ (spanned ++ [ch])) =
        passed ++ before ++ normalizedValue ++ leftover' ∧
      redactLoop (done ++ rest) replacement
        (normalizedTextWithOriginalRanges tables caseSensitive 0 (done ++ rest)) normalizedValue
        (fuel + 1) result (byteLen done) (byteLen passed) =
      redactLoop (done ++ rest) replacement
        (normalizedTextWithOriginalRanges tables caseSensitive 0 (done ++ rest)) normalizedValue
        fuel (result ++ kept ++ replacement) (byteLen (done ++ kept ++ (spanned ++ [ch])))
        (byteLen (passed ++ before ++ normalizedValue))) := by
  obtain ⟨hsplit, -⟩ := dropInfix_eq_some_iff.mp hfound
  have htext : searchedText tables caseSensitive (done ++ rest) =
      (passed ++ before) ++ (normalizedValue ++ behind) := by
    rw [searchedText_append, hdone, List.append_assoc, hsplit]
    simp only [List.append_assoc]
  have htext' : searchedText tables caseSensitive (done ++ rest) =
      (passed ++ before ++ normalizedValue) ++ behind := by
    rw [htext]
    simp only [List.append_assoc]
  obtain ⟨left, ch, right, hleft, hle, hlt, hstart⟩ :=
    originalStartFor_split htext (List.append_ne_nil_of_left_ne_nil hvalue _)
  obtain ⟨left', ch', right', hleft', hlt', hle', hend⟩ :=
    originalEndFor_split htext' (List.append_ne_nil_of_right_ne_nil _ hvalue)
  have hsearched : sliceFrom
      (normalizedTextWithOriginalRanges tables caseSensitive 0 (done ++ rest)).text
      (byteLen passed) = .ok (leftover ++ searchedText tables caseSensitive rest) := by
    rw [text_normalizedText, searchedText_append, hdone, List.append_assoc, sliceFrom_byteLen]
  have hfind : find (leftover ++ searchedText tables caseSensitive rest) normalizedValue =
      some (byteLen before) := by
    unfold find
    rw [hfound]
    rfl
  have hround : ∀ fuel result, redactLoop (done ++ rest) replacement
        (normalizedTextWithOriginalRanges tables caseSensitive 0 (done ++ rest)) normalizedValue
        (fuel + 1) result (byteLen done) (byteLen passed) =
      (slice (done ++ rest) (byteLen done) (byteLen left)).bind fun kept =>
        redactLoop (done ++ rest) replacement
          (normalizedTextWithOriginalRanges tables caseSensitive 0 (done ++ rest)) normalizedValue
          fuel (result ++ kept ++ replacement) (byteLen (left' ++ [ch']))
          (byteLen (passed ++ before ++ normalizedValue)) := by
    intro fuel result
    conv_lhs => unfold redactLoop
    simp only [hsearched, hfind, ← byteLen_append, hstart, hend, bind, Except.bind]
  have hinitial : left <+: done ++ rest := ⟨ch :: right, hleft.symm⟩
  have hinitial' : left' ++ [ch'] <+: done ++ rest := ⟨right', by rw [hleft']; simp⟩
  have hpos := List.length_pos_iff.mpr hvalue
  have hlen : (passed ++ before ++ normalizedValue).length =
      (passed ++ before).length + normalizedValue.length := List.length_append
  have hlen' : (passed ++ before).length = passed.length + before.length := List.length_append
  have hdone' : (searchedText tables caseSensitive done).length =
      passed.length + leftover.length := by rw [hdone, List.length_append]
  by_cases hinside : before.length < leftover.length
  · -- the match starts in a character of `done`, before the original cursor
    have hback : byteLen left < byteLen done := by
      by_contra hnot
      have hshort := (@searchedText_mono tables caseSensitive _ _
        (prefix_of_byteLen_le ⟨rest, rfl⟩ hinitial (Nat.le_of_not_lt hnot))).length_le
      omega
    refine Or.inl ⟨hinside, ?_⟩
    rw [hround]
    unfold slice
    rw [if_pos hback]
    rfl
  · have hbehind : done <+: left := by
      rcases List.prefix_or_prefix_of_prefix ⟨rest, rfl⟩ hinitial with hforward | ⟨more, hmore⟩
      · exact hforward
      · cases more with
        | nil => exact ⟨[], by rw [← hmore, List.append_nil, List.append_nil]⟩
        | cons c more =>
            -- `ch` would be in `done`, which the match starts behind
            have hnext : left ++ c :: (more ++ rest) = left ++ ch :: right := by
              rw [← hleft, ← hmore]
              simp only [List.append_assoc, List.cons_append]
            obtain ⟨rfl, -⟩ := List.cons.inj (List.append_cancel_left hnext)
            have hshort := (@searchedText_mono tables caseSensitive (left ++ [c]) done
              ⟨more, by rw [← hmore]; simp⟩).length_le
            omega
    obtain ⟨kept, rfl⟩ := hbehind
    have hspan : done ++ kept <+: left' := by
      rcases List.prefix_or_prefix_of_prefix hinitial hinitial' with hforward | hbackward
      · rcases List.prefix_concat_iff.mp hforward with heq | hshorter
        · have hsame := congrArg (fun l => (searchedText tables caseSensitive l).length) heq
          omega
        · exact hshorter
      · have hshort := (@searchedText_mono tables caseSensitive _ _ hbackward).length_le
        omega
    obtain ⟨spanned, rfl⟩ := hspan
    have hrest : rest = kept ++ (spanned ++ [ch']) ++ right' := by
      have hwhole : done ++ rest = done ++ (kept ++ (spanned ++ [ch']) ++ right') := by
        rw [hleft']
        simp only [List.append_assoc, List.singleton_append]
      exact List.append_cancel_left hwhole
    have hslice := slice_byteLen done kept (spanned ++ [ch'] ++ right')
    rw [show done ++ kept ++ (spanned ++ [ch'] ++ right') = done ++ rest by
      rw [hrest]; simp only [List.append_assoc]] at hslice
    rw [List.append_assoc (done ++ kept)] at hle' hinitial'
    obtain ⟨leftover', hleftover⟩ : passed ++ before ++ normalizedValue <+:
        searchedText tables caseSensitive (done ++ kept ++ (spanned ++ [ch'])) :=
      List.prefix_of_prefix_length_le ⟨behind, htext'.symm⟩ (searchedText_mono hinitial') hle'
    refine Or.inr ⟨Nat.le_of_not_lt hinside, kept, spanned, ch', right', leftover', hrest, ?_,
      hlt', hleftover.symm, ?_⟩
    · intro hkeptInfix
      have hkept : searchedText tables caseSensitive (done ++ kept) <+: passed ++ before :=
        List.prefix_of_prefix_length_le (searchedText_mono hinitial)
          ⟨normalizedValue ++ behind, htext.symm⟩ hle
      rw [searchedText_append, hdone, List.append_assoc, List.prefix_append_right_inj] at hkept
      exact not_infix_before hvalue hfound
        ((hkeptInfix.trans (List.suffix_append leftover _).isInfix).trans hkept.isInfix)
    · rw [hround, hslice, List.append_assoc (done ++ kept)]
      rfl

/-- Without a further occurrence the loop copies the rest. -/
theorem redactLoop_rest {done rest passed leftover result : Text} {fuel : Nat}
    (hdone : searchedText tables caseSensitive done = passed ++ leftover)
    (hnone : (leftover ++ searchedText tables caseSensitive rest).dropInfix? normalizedValue =
      none) :
    redactLoop (done ++ rest) replacement
      (normalizedTextWithOriginalRanges tables caseSensitive 0 (done ++ rest)) normalizedValue
      (fuel + 1) result (byteLen done) (byteLen passed) = .ok (result ++ rest) := by
  have hsearched : sliceFrom
      (normalizedTextWithOriginalRanges tables caseSensitive 0 (done ++ rest)).text
      (byteLen passed) = .ok (leftover ++ searchedText tables caseSensitive rest) := by
    rw [text_normalizedText, searchedText_append, hdone, List.append_assoc, sliceFrom_byteLen]
  have hfind : find (leftover ++ searchedText tables caseSensitive rest) normalizedValue =
      none := by
    unfold find
    rw [hnone]
    rfl
  unfold redactLoop
  simp only [hsearched, hfind, sliceFrom_byteLen, bind, Except.bind]
  rfl

/-- What the loop writes is the rest with spans replaced; no kept piece has the literal, and
there is a span if there was an occurrence. -/
theorem redactLoop_spans (hvalue : normalizedValue ≠ []) (fuel : Nat) :
    ∀ {done rest passed leftover result out : Text},
      searchedText tables caseSensitive done = passed ++ leftover →
      redactLoop (done ++ rest) replacement
        (normalizedTextWithOriginalRanges tables caseSensitive 0 (done ++ rest)) normalizedValue
        fuel result (byteLen done) (byteLen passed) = .ok out →
      ∃ spans last, rest = spannedText spans last ∧
        out = result ++ replacedText replacement spans last ∧
        (∀ span ∈ spans, span.2 ≠ [] ∧
          ¬ normalizedValue <:+: searchedText tables caseSensitive span.1) ∧
        ¬ normalizedValue <:+: searchedText tables caseSensitive last ∧
        (normalizedValue <:+: leftover ++ searchedText tables caseSensitive rest →
          spans ≠ []) := by
  induction fuel with
  | zero => exact fun _ h => nomatch h
  | succ fuel ih =>
      intro done rest passed leftover result out hdone h
      cases hfound : (leftover ++ searchedText tables caseSensitive rest).dropInfix?
          normalizedValue with
      | none =>
          have hnot := dropInfix_eq_none_iff.mp hfound
          refine ⟨[], rest, rfl, ?_, nofun, ?_, fun hin => absurd hin hnot⟩
          · rw [redactLoop_rest hdone hfound] at h
            exact (Except.ok.inj h).symm
          · exact fun hin => hnot (hin.trans (List.suffix_append leftover _).isInfix)
      | some found =>
          obtain ⟨before, behind⟩ := found
          -- one round finds a span and goes on behind it, or ends in a panic
          rcases redactLoop_found hvalue fuel result hdone hfound with
            ⟨-, hpanics⟩ | ⟨-, kept, spanned, ch, rest', leftover', rfl, hkept, -, hdone', hnext⟩
          · rw [hpanics] at h
            cases h
          · rw [hnext, ← List.append_assoc, ← List.append_assoc] at h
            obtain ⟨spans, last, rfl, rfl, hspans, hlast, -⟩ := ih hdone' h
            refine ⟨(kept, spanned ++ [ch]) :: spans, last, ?_, ?_, ?_, hlast,
              fun _ => List.cons_ne_nil _ _⟩
            · simp [spannedText]
            · simp [replacedText]
            · intro pair hpair
              rcases List.mem_cons.mp hpair with rfl | hpair
              · exact ⟨List.append_ne_nil_of_right_ne_nil _ (List.cons_ne_nil _ _), hkept⟩
              · exact hspans pair hpair

end Loop

/-! ## §5. Redaction. -/

section Redact

variable {tables : CaseTables} {caseSensitive : Bool} {value text replacement : Text}

theorem redactLiteral_spans
    (hvalue : normalizeFilterText tables value caseSensitive ≠ []) {redacted : Text}
    (h : redactLiteral tables text value caseSensitive replacement = .ok redacted) :
    ∃ spans last, text = spannedText spans last ∧
      redacted = replacedText replacement spans last ∧
      (∀ span ∈ spans, span.2 ≠ [] ∧ ¬ normalizeFilterText tables value caseSensitive <:+:
        searchedText tables caseSensitive span.1) ∧
      ¬ normalizeFilterText tables value caseSensitive <:+:
        searchedText tables caseSensitive last ∧
      (normalizeFilterText tables value caseSensitive <:+:
        searchedText tables caseSensitive text → spans ≠ []) :=
  @redactLoop_spans tables caseSensitive replacement _ hvalue _ [] text [] [] [] redacted rfl h

/-- Redaction that finds nothing returns the text. -/
theorem redactLiteral_of_not_found
    (h : ¬ normalizeFilterText tables value caseSensitive <:+:
      searchedText tables caseSensitive text) :
    redactLiteral tables text value caseSensitive replacement = .ok text :=
  @redactLoop_rest tables caseSensitive replacement _ [] text [] [] [] _ rfl
    (dropInfix_eq_none_iff.mpr h)

end Redact

/-! ## §6. A policy with one redact literal. -/

/-- `contains`, as a statement. -/
theorem contains_iff {text pattern : Text} : contains text pattern = true ↔ pattern <:+: text := by
  unfold contains
  cases hfound : text.dropInfix? pattern with
  | none => simp [dropInfix_eq_none_iff.mp hfound]
  | some found =>
      have hin : pattern <:+: text := by
        by_contra hnot
        rw [dropInfix_eq_none_iff.mpr hnot] at hfound
        cases hfound
      simp [hin]

section Policy

variable {tables : CaseTables} {policy : ResponseFilterPolicy} {id : String} {value text : Text}
  {caseSensitive : Bool}

/-- When the policy says `Redacted`, and with which text. -/
theorem inspectText_redacted_iff
    (hrule : policy.rules = [⟨id, .redact, .literal value
      (normalizeFilterText tables value caseSensitive) caseSensitive⟩]) {redacted : Text} :
    (∃ matched, policy.inspectText tables text = .ok (.redacted redacted matched)) ↔
      policy.enabled = true ∧ text ≠ [] ∧
      normalizeFilterText tables value caseSensitive <:+:
        normalizeFilterText tables text caseSensitive ∧
      redactLiteral tables text value caseSensitive policy.replacement = .ok redacted := by
  unfold ResponseFilterPolicy.inspectText ResponseFilterPolicy.inspectTextWithRequiredMissing
  rw [hrule, inspectRules_single_literal, ← contains_iff]
  cases policy.enabled with
  | false => simp
  | true =>
      by_cases hempty : text = []
      · simp [hempty]
      · rw [if_neg (by simp [hempty])]
        split
        · next hcontains =>
            cases redactLiteral tables text value caseSensitive policy.replacement with
            | error fault => simp [Except.map]
            | ok found => simp [Except.map, hempty, hcontains]
        · next hcontains => simp [hcontains]

end Policy

/-! ## §7. What a report promises. -/

/-- The replacement has the literal, or makes it with the text beside it. -/
def ReplacementCombines (tables : CaseTables) (caseSensitive : Bool)
    (normalizedValue replacement redacted : Text) : Prop :=
  ∃ left right, left ++ replacement ++ right <:+: redacted ∧
    normalizedValue <:+: normalizeFilterText tables (left ++ replacement ++ right) caseSensitive ∧
    ¬ normalizedValue <:+: normalizeFilterText tables left caseSensitive ∧
    ¬ normalizedValue <:+: normalizeFilterText tables right caseSensitive

/-- If the text is reported as redacted, spans of it are replaced, the rest is kept, and the
literal is gone unless the replacement brings it back. -/
def ResponseFilterPolicy.RemovesReported (tables : CaseTables) (policy : ResponseFilterPolicy)
    (value : Text) (caseSensitive : Bool) (text : Text) : Prop :=
  ∀ redacted matched, policy.inspectText tables text = .ok (.redacted redacted matched) →
    SpansReplaced policy.replacement text redacted ∧
    (¬ ReplacementCombines tables caseSensitive (normalizeFilterText tables value caseSensitive)
        policy.replacement redacted →
      ¬ normalizeFilterText tables value caseSensitive <:+:
        normalizeFilterText tables redacted caseSensitive)

section Report

variable {tables : CaseTables} {caseSensitive : Bool}

/-- Pieces without the literal, joined by a replacement that does not combine into it. -/
theorem not_infix_replacedText {normalizedValue replacement redacted last : Text}
    (hcombines : ¬ ReplacementCombines tables caseSensitive normalizedValue replacement redacted)
    (hlast : ¬ normalizedValue <:+: normalizeFilterText tables last caseSensitive)
    (spans : List (Text × Text))
    (hspans : ∀ span ∈ spans,
      ¬ normalizedValue <:+: normalizeFilterText tables span.1 caseSensitive)
    (hin : replacedText replacement spans last <:+: redacted) :
    ¬ normalizedValue <:+:
      normalizeFilterText tables (replacedText replacement spans last) caseSensitive := by
  induction spans with
  | nil => exact hlast
  | cons span spans ih =>
      have hcons : replacedText replacement (span :: spans) last =
          span.1 ++ replacement ++ replacedText replacement spans last := by
        simp [replacedText]
      rw [hcons] at hin ⊢
      -- the occurrence would be in the piece, in the rest, or made by the replacement
      have hrest := ih (fun other hother => hspans other (List.mem_cons_of_mem span hother))
        ((List.suffix_append _ _).isInfix.trans hin)
      intro hfound
      exact hcombines ⟨span.1, _, hin, hfound, hspans span List.mem_cons_self, hrest⟩

theorem removesReported_of_agree (laws : tables.Unicode) {policy : ResponseFilterPolicy}
    {id : String} {value : Text}
    (hrule : policy.rules = [⟨id, .redact, .literal value
      (normalizeFilterText tables value caseSensitive) caseSensitive⟩])
    (hvalue : normalizeFilterText tables value caseSensitive ≠ [])
    (hagree : caseSensitive = true ∨
      ¬ tables.SigmaMayEndWord (normalizeFilterText tables value caseSensitive)) (text : Text) :
    policy.RemovesReported tables value caseSensitive text := by
  intro redacted matched hinspect
  obtain ⟨-, -, hdetected, hredacted⟩ := (inspectText_redacted_iff hrule).mp ⟨matched, hinspect⟩
  obtain ⟨spans, last, htext, rfl, hspans, hlast, hfound⟩ := redactLiteral_spans hvalue hredacted
  have hfree : ∀ kept, ¬ normalizeFilterText tables value caseSensitive <:+:
      searchedText tables caseSensitive kept → ¬ normalizeFilterText tables value caseSensitive <:+:
      normalizeFilterText tables kept caseSensitive :=
    fun kept hnot hin => hnot (infix_searchedText laws hagree hin)
  constructor
  · exact ⟨spans, last, hfound (infix_searchedText laws hagree hdetected),
      fun span hspan => (hspans span hspan).1, htext, rfl⟩
  · intro hcombines
    exact not_infix_replacedText hcombines (hfree last hlast) spans
      (fun span hspan => hfree _ (hspans span hspan).2) List.infix_rfl

/-- A longer replacement leaves traces. -/
theorem SpansReplaced.length_le {replacement text redacted : Text}
    (h : SpansReplaced replacement text redacted) : replacement.length ≤ redacted.length := by
  obtain ⟨spans, last, hspans, -, -, rfl⟩ := h
  obtain ⟨span, spans, rfl⟩ := List.exists_cons_of_ne_nil hspans
  simp only [replacedText, List.flatMap_cons, List.length_append]
  omega

/-- A policy that redacts the literal with so many stars. -/
theorem compile_stars (buildRegex : String → Except String Regex) {value : String}
    (hvalue : value.isEmpty = false) (stars : Nat) :
    ∃ policy, ResponseFilterPolicy.compile buildRegex tables
        ⟨true, String.ofList (List.replicate (stars + 1) '*'),
          [⟨"rule", .literal value caseSensitive, .redact⟩]⟩ = .ok policy ∧
      policy.replacement = List.replicate (stars + 1) '*' := by
  have hreplacement : (String.ofList (List.replicate (stars + 1) '*')).isEmpty = false := by
    rw [Bool.eq_false_iff, Ne, String.isEmpty_iff, ← String.toList_eq_nil_iff, String.toList_ofList]
    exact List.cons_ne_nil _ _
  have hrule := (@compileRule_ok_iff buildRegex tables "rule" (.literal value caseSensitive)
    .redact _).mpr ⟨by decide, _, .literal caseSensitive hvalue, rfl⟩
  refine ⟨_, compile_one.mpr ⟨_, hrule, rfl⟩, ?_⟩
  show configuredReplacement _ = _
  unfold configuredReplacement
  rw [if_neg (ne_true_of_eq_false hreplacement), String.toList_ofList]

/-- **Redaction of a literal** keeps what a report promises, for every policy and text, exactly
if the normalized literal is not empty and its case counts or no `ς` of it may end a word. -/
theorem literal_redaction_removes_iff (laws : tables.Unicode)
    (buildRegex : String → Except String Regex) {value : String}
    (hvalue : value.isEmpty = false) (caseSensitive : Bool) :
    (∀ spec id policy, spec.rules = [⟨id, .literal value caseSensitive, .redact⟩] →
      ResponseFilterPolicy.compile buildRegex tables spec = .ok policy →
      ∀ text, policy.RemovesReported tables value.toList caseSensitive text) ↔
    normalizeFilterText tables value.toList caseSensitive ≠ [] ∧
      (caseSensitive = true ∨ ¬ tables.SigmaMayEndWord
        (normalizeFilterText tables value.toList caseSensitive)) := by
  constructor
  · intro h
    -- a text that is reported and returned as it is, against more stars than it has characters
    have hkept : ∀ text : Text, text ≠ [] → normalizeFilterText tables value.toList
          caseSensitive <:+: normalizeFilterText tables text caseSensitive →
        (∀ replacement, redactLiteral tables text value.toList caseSensitive replacement =
          .ok text) → False := by
      intro text hne hdetected hsame
      obtain ⟨policy, hcompile, hstars⟩ :=
        @compile_stars tables caseSensitive buildRegex value hvalue text.length
      obtain ⟨henabled, -, id, hrule⟩ := compile_literal rfl hcompile
      obtain ⟨matched, hinspect⟩ := (inspectText_redacted_iff hrule).mpr
        ⟨henabled, hne, hdetected, hsame policy.replacement⟩
      have hspans := (h _ _ policy rfl hcompile text text matched hinspect).1
      have hle := hspans.length_le
      rw [hstars, List.length_replicate] at hle
      omega
    constructor
    · intro hempty
      -- the empty literal is everywhere, also where there is nothing to search
      refine hkept ['\u200b'] (List.cons_ne_nil _ _) ?_ ?_
      · rw [hempty]
        exact List.nil_infix
      · intro replacement
        unfold redactLiteral
        rw [hempty]
        rfl
    · cases caseSensitive with
      | true => exact Or.inl rfl
      | false =>
          right
          intro hword
          obtain ⟨text, hne, hdetected, hnot⟩ := detected_only laws hword
          exact hkept text hne hdetected fun _ => redactLiteral_of_not_found hnot
  · intro h spec id policy hrules hcompile text
    obtain ⟨hne, hagree⟩ := h
    obtain ⟨-, -, ruleId, hrule⟩ := compile_literal hrules hcompile
    exact removesReported_of_agree laws hrule hne hagree text

end Report

/-! A word that ends in sigma. -/

/-- Of the tables, alpha and sigma. -/
def greekTables : CaseTables where
  lowercase ch := if ch = 'Α' then ['α'] else if ch = 'Σ' then ['σ'] else [ch]
  cased ch := ch ∈ ['Α', 'Σ', 'α', 'σ', 'ς']
  caseIgnorable _ := false

theorem greekTables_lowercase (ch : Char) :
    ch = 'Α' ∧ greekTables.lowercase ch = ['α'] ∨ ch = 'Σ' ∧ greekTables.lowercase ch = ['σ'] ∨
      greekTables.lowercase ch = [ch] := by
  show _ ∧ (if ch = 'Α' then ['α'] else if ch = 'Σ' then ['σ'] else [ch]) = _ ∨ _
  by_cases halpha : ch = 'Α'
  · exact Or.inl ⟨halpha, if_pos halpha⟩
  · by_cases hsigma : ch = 'Σ'
    · exact Or.inr (Or.inl ⟨hsigma, (if_neg halpha).trans (if_pos hsigma)⟩)
    · exact Or.inr (Or.inr ((if_neg halpha).trans (if_neg hsigma)))

theorem greekTables_unicode : greekTables.Unicode where
  sigma := rfl
  finalSigma := rfl
  casedSigma := by
    intro ch hch
    rcases List.mem_pair.mp hch with rfl | rfl
    · exact ⟨rfl, rfl⟩
    · exact ⟨rfl, rfl⟩
  -- only the two capitals have another lower case
  uncased := by
    intro ch hcased
    rcases greekTables_lowercase ch with ⟨rfl, -⟩ | ⟨rfl, -⟩ | hsame
    · cases hcased
    · cases hcased
    · exact hsame
  ignorable := fun _ => nofun
  cased := by
    intro ch hcased _
    rcases greekTables_lowercase ch with ⟨-, halpha⟩ | ⟨-, hsigma⟩ | hsame
    · exact ⟨[], 'α', [], halpha, rfl, rfl, nofun⟩
    · exact ⟨[], 'σ', [], hsigma, rfl, rfl, nofun⟩
    · exact ⟨[], ch, [], hsame, hcased, rfl, nofun⟩
  stable := by
    intro ch c hc
    rcases greekTables_lowercase ch with ⟨-, halpha⟩ | ⟨-, hsigma⟩ | hsame
    · rw [halpha] at hc
      rw [List.mem_singleton.mp hc]
      rfl
    · rw [hsigma] at hc
      rw [List.mem_singleton.mp hc]
      rfl
    · rw [hsame] at hc
      rw [List.mem_singleton.mp hc, hsame]
  visible := by
    intro ch hch c hc
    rcases greekTables_lowercase ch with ⟨-, halpha⟩ | ⟨-, hsigma⟩ | hsame
    · rw [halpha] at hc
      rw [List.mem_singleton.mp hc]
      rfl
    · rw [hsigma] at hc
      rw [List.mem_singleton.mp hc]
      rfl
    · rw [hsame] at hc
      rw [List.mem_singleton.mp hc, hch]

/-- A literal that may end a word in sigma, and one that may not. -/
theorem literal_redaction_removes_iff_greek :
    ¬ (∀ spec id policy, spec.rules = [⟨id, .literal "ας" false, .redact⟩] →
      ResponseFilterPolicy.compile (fun _ => .error "no pattern") greekTables spec = .ok policy →
      ∀ text, policy.RemovesReported greekTables "ας".toList false text) ∧
    ∀ spec id policy, spec.rules = [⟨id, .literal "Α" false, .redact⟩] →
      ResponseFilterPolicy.compile (fun _ => .error "no pattern") greekTables spec = .ok policy →
      ∀ text, policy.RemovesReported greekTables "Α".toList false text := by
  constructor
  · intro h
    have hword := ((literal_redaction_removes_iff greekTables_unicode _ rfl false).mp h).2
    exact hword.elim nofun fun hnot => hnot ⟨['α'], [], rfl, rfl, rfl⟩
  · refine (literal_redaction_removes_iff greekTables_unicode _ rfl false).mpr ⟨nofun, Or.inr ?_⟩
    intro hword
    obtain ⟨before, behind, hsplit, -⟩ := hword
    have hmem : 'ς' ∈ ['α'] := by
      rw [show ['α'] = before ++ 'ς' :: behind from hsplit]
      simp
    exact absurd hmem (by decide)

/-- The capital word is reported, and stays.  Lowered as a whole its sigma ends a word, as the
one of the literal does; lowered character by character it does not, and the search for what is
to be removed finds nothing. -/
theorem sigma_word_reported_not_removed :
    ∃ policy, ResponseFilterPolicy.compile (fun _ => .error "no pattern") greekTables
        ⟨true, "[filtered]", [⟨"rule", .literal "ας" false, .redact⟩]⟩ = .ok policy ∧
      (∃ matched, policy.inspectText greekTables "ΑΣ".toList =
        .ok (.redacted "ΑΣ".toList matched)) ∧
      ¬ policy.RemovesReported greekTables "ας".toList false "ΑΣ".toList := by
  refine ⟨_, rfl, ⟨_, rfl⟩, ?_⟩
  intro h
  have hle := (h _ _ rfl).1.length_le
  exact absurd hle (by decide)

end OneAiKey
