/-
  OneAiKey.ResponseFilter.SharedCharacter — occurrences of a literal that meet inside one
  character (`redact_literal` of `src/response_filter.rs`).

  Without its case a character may be several of the searched text, each with the range of
  the one it comes from.  An occurrence may then end inside of them and the next one begin
  there:

    text            …  İ  …              searched  …  i  ̇  …
    first occurrence   ────┤ ends here                  ├──── the next one begins here

  The second span starts before the end of the first one, and the slice between them
  panics.

  Main results:
    * `redactLiteral_ok_iff` — this is the only way to a panic;
    * `literal_redaction_returns_iff` — for which literals there is none;
    * `verdict_by_triggers_iff` — the policies that decide by what triggers, in any order
      of their rules.
-/
import OneAiKey.ResponseFilter.Verdict

namespace OneAiKey

open Redaction

/-! ## §1. The cursors of the loop. -/

/-- An occurrence ends in the lower case of a character, and the next one begins in what is
left of it. -/
def SharesCharacter (tables : CaseTables) (caseSensitive : Bool) (normalizedValue text : Text) :
    Prop :=
  ∃ left ch right inside leftover before behind,
    text = left ++ ch :: right ∧
    searchedText tables caseSensitive (left ++ [ch]) =
      searchedText tables caseSensitive left ++ inside ++ leftover ∧
    inside ≠ [] ∧
    PassedOver normalizedValue (searchedText tables caseSensitive left ++ inside) ∧
    (leftover ++ searchedText tables caseSensitive right).dropInfix? normalizedValue =
      some (before, behind) ∧
    before.length < leftover.length

/-- The cursors behind `done` and behind `passed`: an occurrence has ended in the last
character of `done`, of which `leftover` is left. -/
structure Cursors (tables : CaseTables) (caseSensitive : Bool) (normalizedValue : Text)
    (done passed leftover : Text) : Prop where
  searched : searchedText tables caseSensitive done = passed ++ leftover
  occurrences : PassedOver normalizedValue passed
  last : leftover = [] ∨ ∃ left ch, done = left ++ [ch] ∧
    (searchedText tables caseSensitive left).length < passed.length

section Loop

variable {tables : CaseTables} {caseSensitive : Bool} {replacement normalizedValue : Text}

theorem Cursors.start : Cursors tables caseSensitive normalizedValue [] [] [] where
  searched := rfl
  occurrences := .start
  last := Or.inl rfl

/-- The cursors behind the next occurrence. -/
theorem Cursors.next {done rest passed leftover before behind kept spanned leftover' : Text}
    {ch : Char} (h : Cursors tables caseSensitive normalizedValue done passed leftover)
    (hfound : (leftover ++ searchedText tables caseSensitive rest).dropInfix? normalizedValue =
      some (before, behind))
    (hend : (searchedText tables caseSensitive (done ++ kept ++ spanned)).length <
      (passed ++ before ++ normalizedValue).length)
    (hdone : searchedText tables caseSensitive (done ++ kept ++ (spanned ++ [ch])) =
      passed ++ before ++ normalizedValue ++ leftover') :
    Cursors tables caseSensitive normalizedValue (done ++ kept ++ (spanned ++ [ch]))
      (passed ++ before ++ normalizedValue) leftover' where
  searched := hdone
  occurrences := by
    have hsplit := (dropInfix_eq_some_iff.mp hfound).1
    rw [hsplit] at hfound
    exact .occurrence h.occurrences (dropInfix_append_iff.mp hfound)
  last := Or.inr ⟨done ++ kept ++ spanned, ch, (List.append_assoc _ _ _).symm, hend⟩

/-- If the next occurrence begins in what is left of the last character, the text shares it. -/
theorem Cursors.shares {done rest passed leftover before behind : Text}
    (h : Cursors tables caseSensitive normalizedValue done passed leftover)
    (hfound : (leftover ++ searchedText tables caseSensitive rest).dropInfix? normalizedValue =
      some (before, behind))
    (hinside : before.length < leftover.length) :
    SharesCharacter tables caseSensitive normalizedValue (done ++ rest) := by
  rcases h.last with rfl | ⟨left, ch, rfl, hlast⟩
  · exact absurd hinside (Nat.not_lt_zero _)
  · have hleft : searchedText tables caseSensitive left <+: passed :=
      List.prefix_of_prefix_length_le (searchedText_mono (List.prefix_append left [ch]))
        ⟨leftover, h.searched.symm⟩ (Nat.le_of_lt hlast)
    obtain ⟨inside, rfl⟩ := hleft
    have hne : inside ≠ [] := by
      rintro rfl
      rw [List.append_nil] at hlast
      omega
    exact ⟨left, ch, rest, inside, leftover, before, behind, by simp, h.searched, hne, h.occurrences,
      hfound, hinside⟩

/-- A panic comes from a shared character. -/
theorem redactLoop_panics (hvalue : normalizedValue ≠ []) (fuel : Nat) :
    ∀ {done rest passed leftover result : Text},
      Cursors tables caseSensitive normalizedValue done passed leftover →
      redactLoop (done ++ rest) replacement
        (normalizedTextWithOriginalRanges tables caseSensitive 0 (done ++ rest)) normalizedValue
        fuel result (byteLen done) (byteLen passed) = .error .panicked →
      SharesCharacter tables caseSensitive normalizedValue (done ++ rest) := by
  induction fuel with
  | zero => exact fun _ h => nomatch h
  | succ fuel ih =>
      intro done rest passed leftover result hcursors h
      cases hfound : (leftover ++ searchedText tables caseSensitive rest).dropInfix?
          normalizedValue with
      | none =>
          rw [redactLoop_rest hcursors.searched hfound] at h
          cases h
      | some found =>
          obtain ⟨before, behind⟩ := found
          rcases redactLoop_found hvalue fuel result hcursors.searched hfound with
            ⟨hinside, -⟩ | ⟨-, kept, spanned, ch, rest', leftover', rfl, -, hend, hdone, hnext⟩
          · exact hcursors.shares hfound hinside
          · rw [hnext, ← List.append_assoc, ← List.append_assoc] at h
            rw [← List.append_assoc, ← List.append_assoc]
            exact ih (hcursors.next hfound hend hdone) h

/-- The loop gets behind every occurrence, or panics before. -/
theorem redactLoop_reaches (hvalue : normalizedValue ≠ []) {text passed : Text}
    (hpassed : PassedOver normalizedValue passed)
    (hinitial : passed <+: searchedText tables caseSensitive text) {fuel : Nat}
    (hfuel : (searchedText tables caseSensitive text).length < fuel) :
    redactLoop text replacement (normalizedTextWithOriginalRanges tables caseSensitive 0 text)
        normalizedValue fuel [] 0 0 = .error .panicked ∨
      ∃ done rest leftover result fuel', text = done ++ rest ∧
        Cursors tables caseSensitive normalizedValue done passed leftover ∧
        (searchedText tables caseSensitive text).length < fuel' + passed.length ∧
        redactLoop text replacement
            (normalizedTextWithOriginalRanges tables caseSensitive 0 text) normalizedValue fuel
            [] 0 0 =
          redactLoop text replacement
            (normalizedTextWithOriginalRanges tables caseSensitive 0 text) normalizedValue fuel'
            result (byteLen done) (byteLen passed) := by
  -- along the occurrences: the cursors behind one are where the next one is searched from
  induction hpassed with
  | start => exact Or.inr ⟨[], text, [], [], fuel, rfl, Cursors.start, hfuel, rfl⟩
  | @occurrence passed before hpassed hfirst ih =>
      have hbefore : passed <+: searchedText tables caseSensitive text := by
        obtain ⟨more, hmore⟩ := hinitial
        exact ⟨before ++ normalizedValue ++ more, by rw [← hmore]; simp only [List.append_assoc]⟩
      rcases ih hbefore with hpanics | ⟨done, rest, leftover, result, fuel', rfl, hcursors,
        hfuel', hrun⟩
      · exact Or.inl hpanics
      · obtain ⟨behind, hbehind⟩ := hinitial
        have hpos := List.length_pos_iff.mpr hvalue
        have hsplit : leftover ++ searchedText tables caseSensitive rest =
            before ++ normalizedValue ++ behind := by
          have hwhole : passed ++ (leftover ++ searchedText tables caseSensitive rest) =
              passed ++ (before ++ normalizedValue ++ behind) := by
            rw [← List.append_assoc, ← hcursors.searched, ← searchedText_append, ← hbehind]
            simp only [List.append_assoc]
          exact List.append_cancel_left hwhole
        have hfound : (leftover ++ searchedText tables caseSensitive rest).dropInfix?
            normalizedValue = some (before, behind) := by
          rw [hsplit]
          exact dropInfix_append_iff.mpr hfirst
        have hlength : (passed ++ before ++ normalizedValue).length =
            passed.length + before.length + normalizedValue.length := by
          rw [List.length_append, List.length_append]
        have hwithin : (passed ++ before ++ normalizedValue).length ≤
            (searchedText tables caseSensitive (done ++ rest)).length := by
          rw [← hbehind]
          exact (List.prefix_append _ behind).length_le
        -- each round passes a character at least, so there is fuel for one more
        obtain ⟨fuel', rfl⟩ : ∃ n, fuel' = n + 1 := ⟨fuel' - 1, by omega⟩
        rcases redactLoop_found hvalue fuel' result hcursors.searched hfound with
          ⟨-, hpanics⟩ | ⟨-, kept, spanned, ch, rest', leftover', rfl, -, hend, hdone, hnext⟩
        · exact Or.inl (hrun.trans hpanics)
        · refine Or.inr ⟨done ++ kept ++ (spanned ++ [ch]), rest', leftover',
            result ++ kept ++ replacement, fuel', ?_, hcursors.next hfound hend hdone, ?_,
            hrun.trans hnext⟩
          · simp only [List.append_assoc]
          · omega

/-- A shared character makes the loop panic. -/
theorem redactLoop_of_shares (hvalue : normalizedValue ≠ []) {text : Text}
    (h : SharesCharacter tables caseSensitive normalizedValue text) {fuel : Nat}
    (hfuel : (searchedText tables caseSensitive text).length < fuel) :
    redactLoop text replacement (normalizedTextWithOriginalRanges tables caseSensitive 0 text)
      normalizedValue fuel [] 0 0 = .error .panicked := by
  obtain ⟨left, ch, right, inside, leftover, before, behind, htext, hch, hinside, hpassed,
    hfound, hshort⟩ := h
  have hleft : (searchedText tables caseSensitive left).length <
      (searchedText tables caseSensitive left ++ inside).length := by
    have hpos := List.length_pos_iff.mpr hinside
    rw [List.length_append]
    omega
  have hchLength : (searchedText tables caseSensitive (left ++ [ch])).length =
      (searchedText tables caseSensitive left ++ inside).length + leftover.length := by
    rw [hch, List.length_append]
  have hsearched : searchedText tables caseSensitive text =
      searchedText tables caseSensitive left ++ inside ++
        (leftover ++ searchedText tables caseSensitive right) := by
    rw [htext, show left ++ ch :: right = left ++ [ch] ++ right by simp, searchedText_append, hch]
    simp only [List.append_assoc]
  rcases @redactLoop_reaches tables caseSensitive replacement _ hvalue _ _ hpassed
      ⟨_, hsearched.symm⟩ _ hfuel with hpanics | ⟨done, rest, leftover', result, fuel', hdone,
      hcursors, hfuel', hrun⟩
  · exact hpanics
  · have hlonger : (searchedText tables caseSensitive left ++ inside).length ≤
        (searchedText tables caseSensitive text).length := by
      rw [hsearched]
      exact (List.prefix_append _ _).length_le
    have hsame : leftover' ++ searchedText tables caseSensitive rest =
        leftover ++ searchedText tables caseSensitive right := by
      have hwhole : searchedText tables caseSensitive left ++ inside ++
          (leftover' ++ searchedText tables caseSensitive rest) =
          searchedText tables caseSensitive left ++ inside ++
            (leftover ++ searchedText tables caseSensitive right) := by
        rw [← hsearched, hdone, searchedText_append, hcursors.searched]
        simp only [List.append_assoc]
      exact List.append_cancel_left hwhole
    have hlength : (searchedText tables caseSensitive done).length =
        (searchedText tables caseSensitive left ++ inside).length + leftover'.length := by
      rw [hcursors.searched, List.length_append]
    have hinitial : left ++ [ch] <+: text := ⟨right, by rw [htext]; simp⟩
    have hinitial' : done <+: text := ⟨rest, hdone.symm⟩
    -- the original cursor is behind the shared character, of which `leftover` is left
    have hbehind : left ++ [ch] <+: done := by
      rcases List.prefix_or_prefix_of_prefix hinitial hinitial' with hforward | hback
      · exact hforward
      · rcases List.prefix_concat_iff.mp hback with heq | hback
        · rw [heq]
        · have hless := (@searchedText_mono tables caseSensitive _ _ hback).length_le
          omega
    have hleftover : leftover.length ≤ leftover'.length := by
      have hle := (@searchedText_mono tables caseSensitive _ _ hbehind).length_le
      omega
    obtain ⟨fuel', rfl⟩ : ∃ n, fuel' = n + 1 := ⟨fuel' - 1, by omega⟩
    rw [hrun]
    subst hdone
    rw [← hsame] at hfound
    -- the next occurrence begins in what is left of the character, before that cursor
    rcases @redactLoop_found tables caseSensitive replacement _ hvalue _ _ _ _ _ _ fuel' result
        hcursors.searched hfound with ⟨-, hpanics⟩ | ⟨hbehind, -⟩
    · exact hpanics
    · omega

end Loop

/-! ## §2. Redaction. -/

section Redact

variable {tables : CaseTables} {caseSensitive : Bool} {value : Text}

/-- Redaction of a literal with a visible character panics, or returns. -/
theorem redactLiteral_ok_iff (hvalue : normalizeFilterText tables value caseSensitive ≠ [])
    (text replacement : Text) :
    (∃ redacted, redactLiteral tables text value caseSensitive replacement = .ok redacted) ↔
      ¬ SharesCharacter tables caseSensitive (normalizeFilterText tables value caseSensitive)
        text := by
  have hfuel : (searchedText tables caseSensitive text).length <
      (normalizedTextWithOriginalRanges tables caseSensitive 0 text).text.length + 1 := by
    rw [text_normalizedText]
    exact Nat.lt_succ_self _
  constructor
  · rintro ⟨redacted, hredacted⟩ hshares
    have hpanics := @redactLoop_of_shares tables caseSensitive replacement _ hvalue text hshares _
      hfuel
    rw [show redactLoop _ _ _ _ _ _ _ _ = .ok redacted from hredacted] at hpanics
    cases hpanics
  · intro hnot
    -- it ends with a result, or with a panic; it does not loop
    cases hrun : redactLiteral tables text value caseSensitive replacement with
    | ok redacted => exact ⟨redacted, rfl⟩
    | error fault =>
        cases fault with
        | panicked =>
            exact absurd (@redactLoop_panics tables caseSensitive replacement _ hvalue _ [] text
              [] [] [] Cursors.start hrun) hnot
        | diverged => exact absurd hrun (redactLiteral_ends_iff.mpr (Or.inl hvalue))

end Redact

/-! ## §3. The character that is shared. -/

/-- Of the whole of Unicode, the capital `İ` alone has a lower case of several characters. -/
structure CaseTables.OnlyDottedExpands (tables : CaseTables) : Prop where
  dotted : tables.lowercase 'İ' = ['i', '\u0307']
  single : ∀ ch, ch ≠ 'İ' → ∃ c, tables.lowercase ch = [c]

/-- From the dot above to an `i`: the end and the beginning of the literal make an `İ`. -/
def DotToI (normalizedValue : Text) : Prop :=
  normalizedValue.head? = some '\u0307' ∧ normalizedValue.getLast? = some 'i'

section Dotted

variable {tables : CaseTables} {normalizedValue : Text}

theorem shares_dotted (expands : tables.OnlyDottedExpands) {caseSensitive : Bool}
    (hvalue : normalizedValue ≠ []) {text : Text}
    (h : SharesCharacter tables caseSensitive normalizedValue text) :
    caseSensitive = false ∧ DotToI normalizedValue := by
  obtain ⟨left, ch, right, inside, leftover, before, behind, -, hch, hinside, hpassed, hfound,
    hshort⟩ := h
  have hchar : searchedText tables caseSensitive [ch] = inside ++ leftover := by
    rw [searchedText_append, List.append_assoc] at hch
    exact List.append_cancel_left hch
  -- what is shared is several characters of the searched text, of one of the text itself
  have hlength : 2 ≤ (searchedText tables caseSensitive [ch]).length := by
    have hpos := List.length_pos_iff.mpr hinside
    rw [hchar, List.length_append]
    omega
  cases hvisible : isIgnoredFormatChar ch with
  | true =>
      rw [searchedText_cons_hidden tables caseSensitive hvisible] at hlength
      exact absurd hlength (show ¬ 2 ≤ 0 by omega)
  | false =>
      have hlowered : searchedText tables caseSensitive [ch] =
          loweredChar tables caseSensitive ch := by
        rw [searchedText_cons_visible tables caseSensitive hvisible]
        exact List.append_nil _
      cases caseSensitive with
      | true =>
          rw [hlowered] at hlength
          exact absurd hlength (show ¬ 2 ≤ 1 by omega)
      | false =>
          by_cases hdotted : ch = 'İ'
          · have hsplit : inside ++ leftover = ['i', '\u0307'] := by
              rw [← hchar, hlowered, hdotted]
              exact expands.dotted
            have hpieces := congrArg List.length hsplit
            rw [List.length_append] at hpieces
            have hposInside := List.length_pos_iff.mpr hinside
            have hone : inside.length = 1 ∧ leftover.length = 1 := by
              have htwo : ['i', '\u0307'].length = 2 := rfl
              omega
            obtain ⟨rfl, rfl⟩ : inside = ['i'] ∧ leftover = ['\u0307'] :=
              List.append_inj hsplit (by rw [hone.1]; rfl)
            -- the next occurrence begins with the dot, the last one ended with the `i`
            have hbefore : before = [] := List.eq_nil_of_length_eq_zero (by omega)
            refine ⟨rfl, ?_, ?_⟩
            · have hnext := (dropInfix_eq_some_iff.mp hfound).1
              rw [hbefore, List.nil_append] at hnext
              have hhead := congrArg List.head? hnext
              rw [List.head?_append_of_ne_nil normalizedValue hvalue] at hhead
              exact hhead.symm
            · obtain ⟨more, hmore⟩ := hpassed.suffix (List.append_ne_nil_of_right_ne_nil _ hinside)
              have hlast := congrArg List.getLast? hmore
              rw [List.getLast?_append_of_ne_nil _ hvalue,
                List.getLast?_append_of_ne_nil _ hinside] at hlast
              exact hlast
          · obtain ⟨c, hc⟩ := expands.single ch hdotted
            rw [hlowered, show loweredChar tables false ch = [c] from hc] at hlength
            exact absurd hlength (show ¬ 2 ≤ 1 by omega)

/-- The literal twice, with an `İ` where the one ends and the other begins: detection finds it
in this text, and redaction panics. -/
theorem exists_shares (laws : tables.Unicode) (expands : tables.OnlyDottedExpands) {value : Text}
    (h : DotToI (normalizeFilterText tables value false)) :
    ∃ text, text ≠ [] ∧
      SharesCharacter tables false (normalizeFilterText tables value false) text ∧
      normalizeFilterText tables value false <:+: normalizeFilterText tables text false := by
  have hlowered : ∀ c ∈ normalizeFilterText tables value false,
      CaseTables.Lowered tables c ∧ isIgnoredFormatChar c = false :=
    fun c hc => lowered_of_mem_normalize laws hc
  generalize normalizeFilterText tables value false = normalizedValue at h hlowered ⊢
  obtain ⟨tail, htail⟩ := List.head?_eq_some_iff.mp h.1
  obtain ⟨front, hfront⟩ := List.getLast?_eq_some_iff.mp h.2
  -- a normalized literal and its parts are searched for as they are
  have hsearched : ∀ part : Text, (∀ c ∈ part, c ∈ normalizedValue) →
      searchedText tables false part = part := by
    intro part hpart
    unfold searchedText
    rw [visible_eq_self fun c hc => (hlowered c (hpart c hc)).2]
    exact CaseTables.flatMap_lowercase_of_lowered fun c hc => (hlowered c (hpart c hc)).1
  have hinFront : ∀ c ∈ front, c ∈ normalizedValue := by
    intro c hc
    rw [hfront]
    exact List.mem_append_left _ hc
  have hinTail : ∀ c ∈ tail, c ∈ normalizedValue := by
    intro c hc
    rw [htail]
    exact List.mem_cons_of_mem _ hc
  have hatStart : ∀ behind, (normalizedValue ++ behind).dropInfix? normalizedValue =
      some ([], behind) :=
    fun behind => dropInfix_eq_some_iff.mpr ⟨rfl, fun _ _ _ => Nat.zero_le _⟩
  have hdotted : isIgnoredFormatChar 'İ' = false := by decide
  refine ⟨front ++ 'İ' :: tail, List.append_ne_nil_of_right_ne_nil _ (List.cons_ne_nil _ _),
    ⟨front, 'İ', tail, ['i'], ['\u0307'], [], [], rfl, ?_, List.cons_ne_nil _ _, ?_, ?_,
      Nat.zero_lt_one⟩, ?_⟩
  · -- in lower case the capital is the end of one literal and the beginning of the other
    rw [searchedText_append, List.append_assoc]
    congr 1
    rw [searchedText_cons_visible tables false hdotted]
    show tables.lowercase 'İ' ++ [] = _
    rw [expands.dotted]
    rfl
  · rw [hsearched front hinFront, ← hfront]
    have hfirst := hatStart []
    rw [List.append_nil] at hfirst
    have hpassed : PassedOver normalizedValue ([] ++ [] ++ normalizedValue) := .occurrence .start hfirst
    exact hpassed
  · rw [hsearched tail hinTail, List.singleton_append, ← htail]
    have hfirst := hatStart []
    rw [List.append_nil] at hfirst
    exact hfirst
  · -- detection lowers the text to the literal twice
    have hvisible : visible isIgnoredFormatChar (front ++ 'İ' :: tail) = front ++ 'İ' :: tail := by
      apply visible_eq_self
      intro c hc
      rcases List.mem_append.mp hc with hc | hc
      · exact (hlowered c (hinFront c hc)).2
      · rcases List.mem_cons.mp hc with rfl | hc
        · exact hdotted
        · exact (hlowered c (hinTail c hc)).2
    have hwhole : normalizeFilterText tables (front ++ 'İ' :: tail) false =
        normalizedValue ++ normalizedValue := by
      show tables.toLowercase [] (visible isIgnoredFormatChar (front ++ 'İ' :: tail)) = _
      rw [hvisible, CaseTables.toLowercase_append_of_lowered
        fun c hc => (hlowered c (hinFront c hc)).1]
      show front ++ ((if 'İ' = 'Σ' then _ else tables.lowercase 'İ') ++
        tables.toLowercase _ tail) = _
      rw [if_neg (by decide), expands.dotted, CaseTables.toLowercase_of_lowered
        fun c hc => (hlowered c (hinTail c hc)).1]
      calc front ++ (['i', '\u0307'] ++ tail)
          = (front ++ ['i']) ++ ('\u0307' :: tail) := by simp
        _ = normalizedValue ++ normalizedValue := by rw [← hfront, ← htail]
    rw [hwhole]
    exact (List.prefix_append _ _).isInfix

/-- **Redaction of a literal** returns exactly if the text does not share a character between
two occurrences; and it returns for every text exactly if the case counts or the literal does
not run from the dot above to an `i`. -/
theorem literal_redaction_returns_iff (laws : tables.Unicode)
    (expands : tables.OnlyDottedExpands) {caseSensitive : Bool} {value : Text}
    (hvalue : normalizeFilterText tables value caseSensitive ≠ []) :
    (∀ text replacement,
      (∃ redacted, redactLiteral tables text value caseSensitive replacement = .ok redacted) ↔
        ¬ SharesCharacter tables caseSensitive (normalizeFilterText tables value caseSensitive)
          text) ∧
    ((∀ text replacement, ∃ redacted,
      redactLiteral tables text value caseSensitive replacement = .ok redacted) ↔
        caseSensitive = true ∨ ¬ DotToI (normalizeFilterText tables value caseSensitive)) := by
  refine ⟨redactLiteral_ok_iff hvalue, ?_⟩
  constructor
  · intro h
    cases caseSensitive with
    | true => exact Or.inl rfl
    | false =>
        right
        intro hdot
        obtain ⟨text, -, hshares, -⟩ := exists_shares laws expands hdot
        exact (redactLiteral_ok_iff hvalue text []).mp (h text []) hshares
  · intro h text replacement
    refine (redactLiteral_ok_iff hvalue text replacement).mpr ?_
    intro hshares
    obtain ⟨rfl, hdot⟩ := shares_dotted expands hvalue hshares
    exact h.elim nofun fun hnot => hnot hdot

end Dotted

/-! The tables for the dotted and the final letters. -/

/-- Of the tables, the dotted `i` with its dot, and sigma. -/
def dottedTables : CaseTables where
  lowercase ch := if ch = 'İ' then ['i', '\u0307'] else if ch = 'Σ' then ['σ'] else [ch]
  cased ch := ch ∈ ['İ', 'i', 'Σ', 'σ', 'ς']
  caseIgnorable ch := ch = '\u0307'

theorem dottedTables_lowercase (ch : Char) :
    ch = 'İ' ∧ dottedTables.lowercase ch = ['i', '\u0307'] ∨
      ch = 'Σ' ∧ dottedTables.lowercase ch = ['σ'] ∨
      ch ≠ 'İ' ∧ dottedTables.lowercase ch = [ch] := by
  show _ ∧ (if ch = 'İ' then _ else if ch = 'Σ' then ['σ'] else [ch]) = _ ∨ _
  by_cases hdotted : ch = 'İ'
  · exact Or.inl ⟨hdotted, if_pos hdotted⟩
  · by_cases hsigma : ch = 'Σ'
    · exact Or.inr (Or.inl ⟨hsigma, (if_neg hdotted).trans (if_pos hsigma)⟩)
    · exact Or.inr (Or.inr ⟨hdotted, (if_neg hdotted).trans (if_neg hsigma)⟩)

theorem dottedTables_expands : dottedTables.OnlyDottedExpands where
  dotted := rfl
  single := by
    intro ch hch
    rcases dottedTables_lowercase ch with ⟨hdotted, -⟩ | ⟨-, hsigma⟩ | ⟨-, hsame⟩
    · exact absurd hdotted hch
    · exact ⟨'σ', hsigma⟩
    · exact ⟨ch, hsame⟩

theorem dottedTables_unicode : dottedTables.Unicode where
  sigma := rfl
  finalSigma := rfl
  casedSigma := by
    intro ch hch
    rcases List.mem_pair.mp hch with rfl | rfl
    · exact ⟨rfl, rfl⟩
    · exact ⟨rfl, rfl⟩
  uncased := by
    intro ch hcased
    rcases dottedTables_lowercase ch with ⟨rfl, -⟩ | ⟨rfl, -⟩ | ⟨-, hsame⟩
    · cases hcased
    · cases hcased
    · exact hsame
  ignorable := by
    intro ch hignorable c hc
    obtain rfl := of_decide_eq_true hignorable
    rw [List.mem_singleton.mp hc]
    rfl
  -- of the dotted capital the letter `i` is cased, and the dot above is ignorable
  cased := by
    intro ch hcased hletter
    rcases dottedTables_lowercase ch with ⟨-, hdotted⟩ | ⟨-, hsigma⟩ | ⟨-, hsame⟩
    · refine ⟨[], 'i', ['\u0307'], hdotted, rfl, rfl, ?_⟩
      intro mark hmark
      rw [List.mem_singleton.mp hmark]
      rfl
    · exact ⟨[], 'σ', [], hsigma, rfl, rfl, nofun⟩
    · exact ⟨[], ch, [], hsame, hcased, hletter, nofun⟩
  stable := by
    intro ch c hc
    rcases dottedTables_lowercase ch with ⟨-, hdotted⟩ | ⟨-, hsigma⟩ | ⟨-, hsame⟩
    · rw [hdotted] at hc
      rcases List.mem_pair.mp hc with rfl | rfl
      · rfl
      · rfl
    · rw [hsigma] at hc
      rw [List.mem_singleton.mp hc]
      rfl
    · rw [hsame] at hc
      rw [List.mem_singleton.mp hc, hsame]
  visible := by
    intro ch hch c hc
    rcases dottedTables_lowercase ch with ⟨-, hdotted⟩ | ⟨-, hsigma⟩ | ⟨-, hsame⟩
    · rw [hdotted] at hc
      rcases List.mem_pair.mp hc with rfl | rfl
      · rfl
      · rfl
    · rw [hsigma] at hc
      rw [List.mem_singleton.mp hc]
      rfl
    · rw [hsame] at hc
      rw [List.mem_singleton.mp hc, hch]

/-- The dot and an `i`, against an `i` alone. -/
theorem literal_redaction_returns_iff_dotted :
    ¬ (∀ text replacement, ∃ redacted,
      redactLiteral dottedTables text "\u0307i".toList false replacement = .ok redacted) ∧
    ∀ text replacement, ∃ redacted,
      redactLiteral dottedTables text "i".toList false replacement = .ok redacted := by
  have hdot : normalizeFilterText dottedTables "\u0307i".toList false ≠ [] :=
    List.cons_ne_nil _ _
  have hplain : normalizeFilterText dottedTables "i".toList false ≠ [] := List.cons_ne_nil _ _
  constructor
  · intro h
    have hshort := ((literal_redaction_returns_iff dottedTables_unicode dottedTables_expands
      hdot).2).mp h
    exact hshort.elim nofun fun hnot => hnot ⟨rfl, rfl⟩
  · refine ((literal_redaction_returns_iff dottedTables_unicode dottedTables_expands
      hplain).2).mpr (Or.inr ?_)
    intro h
    exact absurd (Option.some.inj h.1) (by decide)

/-- The literal is accepted, found in three capital letters, and its redaction panics.  Each
capital is lowered to two characters, and the literal runs from the second of one to the first
of the next; so the second match begins inside the character in which the first one ended. -/
theorem dotted_capitals_panic :
    ∃ policy, ResponseFilterPolicy.compile (fun _ => .error "no pattern") dottedTables
        ⟨true, "[filtered]", [⟨"rule", .literal "\u0307i" false, .redact⟩]⟩ = .ok policy ∧
      normalizeFilterText dottedTables "\u0307i".toList false ≠ [] ∧
      policy.inspectText dottedTables "İİİ".toList = .error .panicked :=
  ⟨_, rfl, List.cons_ne_nil _ _, rfl⟩

/-! ## §4. Verdicts by triggers. -/

inductive ResponseFilterDecision.Kind where
  | unchanged
  | redacted
  | rejected
  deriving DecidableEq, Repr

def ResponseFilterDecision.kind : ResponseFilterDecision → Kind
  | .unchanged => .unchanged
  | .redacted .. => .redacted
  | .rejected _ => .rejected

def ResponseFilterDecision.matched : ResponseFilterDecision → List ResponseFilterMatch
  | .unchanged => []
  | .redacted _ matched | .rejected matched => matched

/-- The decision says what triggers: a rejecting rule, none, or redacting ones only. -/
structure DecidedByTriggers (triggered : List CompiledResponseFilterRule)
    (decision : ResponseFilterDecision) : Prop where
  rejected : decision.kind = .rejected ↔ ∃ rule ∈ triggered, rule.action.isRejecting = true
  unchanged : decision.kind = .unchanged ↔ triggered = []
  matched : decision.matched = (upToRejecting triggered).map (·.reported)

/-- On every text that the policy looks at, with the rules in any order, there is a decision
that what triggers decides, and its kind is the same. -/
def ResponseFilterPolicy.VerdictByTriggers (tables : CaseTables) (policy : ResponseFilterPolicy) :
    Prop :=
  ∀ rules, rules.Perm policy.rules → ∀ text, text ≠ [] → ∀ allowRequiredMissing,
    ∃ decision decision',
      policy.inspectTextWithRequiredMissing tables text allowRequiredMissing = .ok decision ∧
      { policy with rules := rules }.inspectTextWithRequiredMissing tables text
        allowRequiredMissing = .ok decision' ∧
      DecidedByTriggers (triggeredRules tables text allowRequiredMissing policy.rules)
        decision ∧
      DecidedByTriggers (triggeredRules tables text allowRequiredMissing rules) decision' ∧
      decision.kind = decision'.kind

/-- If the rule redacts a literal, the redaction returns for every text. -/
def CompiledResponseFilterRule.SafeRedaction (rule : CompiledResponseFilterRule) : Prop :=
  ∀ value normalizedValue caseSensitive,
    rule.matcher = .literal value normalizedValue caseSensitive → rule.action = .redact →
      normalizedValue ≠ [] ∧ (caseSensitive = true ∨ ¬ DotToI normalizedValue)

theorem upToRejecting_eq_nil {rules : List CompiledResponseFilterRule} :
    upToRejecting rules = [] ↔ rules = [] := by
  cases rules with
  | nil => exact ⟨fun _ => rfl, fun _ => rfl⟩
  | cons rule rules =>
      unfold upToRejecting
      cases rule.action.isRejecting <;> simp

/-- The decision at the end of a run is decided by what triggers. -/
theorem decidedByTriggers_decisionOf (triggered : List CompiledResponseFilterRule)
    (redacted : Text) :
    DecidedByTriggers triggered (decisionOf ((upToRejecting triggered).map (·.reported))
      (triggered.any (·.action.isRejecting)) redacted) := by
  have hrejects : triggered.any (·.action.isRejecting) = true ↔
      ∃ rule ∈ triggered, rule.action.isRejecting = true := List.any_eq_true
  have hempty : ((upToRejecting triggered).map (·.reported)).isEmpty = true ↔ triggered = [] := by
    rw [List.isEmpty_iff, List.map_eq_nil_iff, upToRejecting_eq_nil]
  unfold decisionOf
  by_cases hrejecting : triggered.any (·.action.isRejecting) = true
  · rw [if_pos hrejecting]
    refine ⟨iff_of_true rfl (hrejects.mp hrejecting), iff_of_false nofun ?_, rfl⟩
    rintro rfl
    cases hrejecting
  · rw [if_neg hrejecting]
    by_cases hnone : triggered = []
    · rw [if_pos (hempty.mpr hnone)]
      refine ⟨iff_of_false nofun (mt hrejects.mpr hrejecting), iff_of_true rfl hnone, ?_⟩
      rw [hnone]
      rfl
    · rw [if_neg (mt hempty.mp hnone)]
      exact ⟨iff_of_false nofun (mt hrejects.mpr hrejecting), iff_of_false nofun hnone, rfl⟩

/-- Decisions about the same rules in another order are of the same kind. -/
theorem DecidedByTriggers.kind_eq {triggered triggered' : List CompiledResponseFilterRule}
    {decision decision' : ResponseFilterDecision} (h : DecidedByTriggers triggered decision)
    (h' : DecidedByTriggers triggered' decision') (hperm : triggered'.Perm triggered) :
    decision.kind = decision'.kind := by
  have hrejected : decision.kind = .rejected ↔ decision'.kind = .rejected := by
    rw [h.rejected, h'.rejected]
    constructor
    · rintro ⟨rule, hrule, hrejecting⟩
      exact ⟨rule, hperm.mem_iff.mpr hrule, hrejecting⟩
    · rintro ⟨rule, hrule, hrejecting⟩
      exact ⟨rule, hperm.mem_iff.mp hrule, hrejecting⟩
  have hunchanged : decision.kind = .unchanged ↔ decision'.kind = .unchanged := by
    rw [h.unchanged, h'.unchanged]
    constructor
    · rintro rfl
      exact hperm.eq_nil
    · rintro rfl
      exact hperm.symm.eq_nil
  -- two of the three kinds are decided by the triggers, and with them the third
  cases hkind : decision.kind with
  | unchanged => exact (hunchanged.mp hkind).symm
  | rejected => exact (hrejected.mp hkind).symm
  | redacted =>
      cases hkind' : decision'.kind with
      | unchanged => rw [hunchanged.mpr hkind'] at hkind; cases hkind
      | rejected => rw [hrejected.mpr hkind'] at hkind; cases hkind
      | redacted => rfl

section Compiled

variable {tables : CaseTables} {buildRegex : String → Except String Regex}
  {spec : ResponseFilterSpec} {policy : ResponseFilterPolicy}

/-- A safe rule redacts every text. -/
theorem redact_of_safe (expands : tables.OnlyDottedExpands) {rule : CompiledResponseFilterRule}
    (hnormalized : ∀ value normalizedValue caseSensitive,
      rule.matcher = .literal value normalizedValue caseSensitive →
        normalizedValue = normalizeFilterText tables value caseSensitive)
    (hsafe : rule.SafeRedaction) (hredacts : rule.action = .redact) (replacement left : Text) :
    ∃ redacted, rule.redact tables replacement left = .ok redacted := by
  unfold CompiledResponseFilterRule.redact
  cases hmatcher : rule.matcher with
  | literal value normalizedValue caseSensitive =>
      obtain ⟨hvalue, hdot⟩ := hsafe value normalizedValue caseSensitive hmatcher hredacts
      rw [hnormalized value normalizedValue caseSensitive hmatcher] at hvalue hdot
      refine (redactLiteral_ok_iff hvalue left replacement).mpr ?_
      intro hshares
      obtain ⟨rfl, hshared⟩ := shares_dotted expands hvalue hshares
      exact hdot.elim nofun fun hnot => hnot hshared
  | regex regex => exact ⟨_, rfl⟩
  | requiredLiteral normalizedValue caseSensitive => exact ⟨_, rfl⟩
  | requiredRegex regex => exact ⟨_, rfl⟩

/-- A policy whose redactions all return makes a decision, which what triggers decides. -/
theorem exists_decided {policy : ResponseFilterPolicy} (expands : tables.OnlyDottedExpands)
    (hnormalized : ∀ rule ∈ policy.rules, ∀ value normalizedValue caseSensitive,
      rule.matcher = .literal value normalizedValue caseSensitive →
        normalizedValue = normalizeFilterText tables value caseSensitive)
    (hsafe : ∀ rule ∈ policy.rules, rule.SafeRedaction) (henabled : policy.enabled = true)
    {text : Text} (htext : text ≠ []) (allowRequiredMissing : Bool) :
    ∃ decision,
      policy.inspectTextWithRequiredMissing tables text allowRequiredMissing = .ok decision ∧
      DecidedByTriggers (triggeredRules tables text allowRequiredMissing policy.rules)
        decision := by
  have hredacts : ∀ rule ∈ beforeRejecting
      (triggeredRules tables text allowRequiredMissing policy.rules), ∀ left, ∃ redacted,
        rule.redact tables policy.replacement left = .ok redacted := by
    intro rule hrule left
    obtain ⟨htriggered, haction⟩ := mem_beforeRejecting hrule
    have hmem := List.mem_of_mem_filter htriggered
    exact redact_of_safe expands (hnormalized rule hmem) (hsafe rule hmem) haction
      policy.replacement left
  obtain ⟨redacted, hredacted⟩ := Collect.exists_foldlM hredacts text
  refine ⟨_, ?_, decidedByTriggers_decisionOf _ redacted⟩
  rw [inspectTextWithRequiredMissing_eq henabled htext]
  unfold redactAll
  rw [hredacted]
  rfl

/-- An unsafe rule triggers on a text that it does not redact. -/
theorem exists_unredacted (laws : tables.Unicode) (expands : tables.OnlyDottedExpands)
    {rule : CompiledResponseFilterRule}
    (hnormalized : ∀ value normalizedValue caseSensitive,
      rule.matcher = .literal value normalizedValue caseSensitive →
        normalizedValue = normalizeFilterText tables value caseSensitive)
    (hrisky : ¬ rule.SafeRedaction) :
    rule.action = .redact ∧ ∃ text, text ≠ [] ∧ rule.triggers tables text true = true ∧
      ∀ replacement redacted, rule.redact tables replacement text ≠ .ok redacted := by
  unfold CompiledResponseFilterRule.SafeRedaction at hrisky
  push Not at hrisky
  obtain ⟨value, normalizedValue, caseSensitive, hmatcher, hredacts, hrisky⟩ := hrisky
  refine ⟨hredacts, ?_⟩
  obtain rfl := hnormalized value normalizedValue caseSensitive hmatcher
  unfold CompiledResponseFilterRule.triggers CompiledResponseFilterRule.redact
  rw [hmatcher]
  by_cases hvalue : normalizeFilterText tables value caseSensitive = []
  · -- the empty literal is found in every text, and not ended in `a`
    refine ⟨['a'], List.cons_ne_nil _ _, ?_, ?_⟩
    · exact contains_iff.mpr (hvalue ▸ List.nil_infix)
    · intro replacement redacted hredacted
      have hends := @redactLiteral_ends_iff tables caseSensitive replacement ['a'] value
      have hvisible : searchedText tables caseSensitive ['a'] ≠ [] := by
        rw [searchedText_cons_visible tables caseSensitive (by decide)]
        cases caseSensitive with
        | true => exact List.cons_ne_nil _ _
        | false =>
            obtain ⟨c, hc⟩ := expands.single 'a' (by decide)
            rw [show loweredChar tables false 'a' = [c] from hc]
            exact List.cons_ne_nil _ _
      have hreturns : redactLiteral tables ['a'] value caseSensitive replacement ≠
          .error .diverged := by
        rw [show redactLiteral tables ['a'] value caseSensitive replacement = .ok redacted
          from hredacted]
        nofun
      exact (hends.mp hreturns).elim (fun hne => hne hvalue) hvisible
  · obtain ⟨hfolds, hdot⟩ := hrisky hvalue
    obtain rfl : caseSensitive = false := Bool.eq_false_iff.mpr hfolds
    -- a text in which two matches share a capital I with dot
    obtain ⟨text, htext, hshares, hfound⟩ := exists_shares laws expands hdot
    refine ⟨text, htext, contains_iff.mpr hfound, ?_⟩
    intro replacement redacted hredacted
    exact (redactLiteral_ok_iff hvalue text replacement).mp ⟨redacted, hredacted⟩ hshares

/-- **The verdict** of a policy is decided by what triggers, whatever the order of its rules,
exactly if every literal that it redacts has a visible character and, unless its case counts,
does not run from the dot above to an `i`. -/
theorem verdict_by_triggers_iff (laws : tables.Unicode) (expands : tables.OnlyDottedExpands)
    (hcompile : ResponseFilterPolicy.compile buildRegex tables spec = .ok policy)
    (henabled : policy.enabled = true) :
    policy.VerdictByTriggers tables ↔ ∀ rule ∈ policy.rules, rule.SafeRedaction := by
  have hnormalized : ∀ rule ∈ policy.rules, ∀ value normalizedValue caseSensitive,
      rule.matcher = .literal value normalizedValue caseSensitive →
        normalizedValue = normalizeFilterText tables value caseSensitive :=
    fun rule hrule value normalizedValue caseSensitive => normalized_of_compile hcompile hrule
  constructor
  · intro h rule hrule
    by_contra hrisky
    obtain ⟨hredacts, text, htext, htriggers, hfails⟩ :=
      exists_unredacted laws expands (hnormalized rule hrule) hrisky
    obtain ⟨before, behind, hrules⟩ := List.append_of_mem hrule
    -- with the rule in front, its redaction is the first thing that is done
    obtain ⟨decision, decision', -, hdecision', -⟩ :=
      h (rule :: (before ++ behind)) (hrules ▸ List.perm_middle.symm) text htext true
    have hrun : ResponseFilterPolicy.inspectTextWithRequiredMissing tables
        { policy with rules := rule :: (before ++ behind) } text true =
        inspectRules tables policy.replacement text true (rule :: (before ++ behind)) [] text := by
      unfold ResponseFilterPolicy.inspectTextWithRequiredMissing
      rw [if_neg (by simp [henabled, htext])]
    rw [hrun, inspectRules_cons, if_pos htriggers, hredacts] at hdecision'
    obtain ⟨left, hleft, -⟩ := Collect.bind_eq_ok.mp hdecision'
    exact hfails policy.replacement left hleft
  · intro hsafe rules hperm text htext allowRequiredMissing
    have hsame : ∀ rule ∈ rules, rule ∈ policy.rules := fun rule => hperm.mem_iff.mp
    obtain ⟨decision, hdecision, hby⟩ :=
      exists_decided expands hnormalized hsafe henabled htext allowRequiredMissing
    obtain ⟨decision', hdecision', hby'⟩ := @exists_decided tables { policy with rules := rules }
      expands (fun rule hrule => hnormalized rule (hsame rule hrule))
      (fun rule hrule => hsafe rule (hsame rule hrule)) henabled text htext allowRequiredMissing
    exact ⟨decision, decision', hdecision, hdecision', hby, hby',
      hby.kind_eq hby' (hperm.filter _)⟩

end Compiled

/-- One literal is redacted, another rejected. -/
def redactThenReject (value : String) : ResponseFilterSpec where
  enabled := true
  replacement := "[filtered]"
  rules := [⟨"redacted", .literal value false, .redact⟩, ⟨"rejected", .literal "x" false, .reject⟩]

/-- A redacting and a rejecting rule for one literal. For the plain letter the text is rejected in
either order of the rules; the dotted one panics before the rejecting rule is reached. -/
theorem verdict_by_triggers_iff_dotted :
    ∃ policy policy',
      ResponseFilterPolicy.compile (fun _ => .error "no pattern") dottedTables
        (redactThenReject "i") = .ok policy ∧
      policy.VerdictByTriggers dottedTables ∧
      ResponseFilterPolicy.compile (fun _ => .error "no pattern") dottedTables
        (redactThenReject "\u0307i") = .ok policy' ∧
      ¬ policy'.VerdictByTriggers dottedTables := by
  have hplain : ResponseFilterPolicy.compile (fun _ => .error "no pattern") dottedTables
      (redactThenReject "i") = .ok _ := rfl
  have hdot : ResponseFilterPolicy.compile (fun _ => .error "no pattern") dottedTables
      (redactThenReject "\u0307i") = .ok _ := rfl
  refine ⟨_, _, hplain, ?_, hdot, ?_⟩
  · refine (verdict_by_triggers_iff dottedTables_unicode dottedTables_expands hplain rfl).mpr ?_
    intro rule hrule value normalizedValue caseSensitive hmatcher hredacts
    rcases List.mem_pair.mp hrule with rfl | rfl
    · cases hmatcher
      refine ⟨List.cons_ne_nil _ _, Or.inr ?_⟩
      intro h
      exact absurd (Option.some.inj h.1) (by decide)
    · cases hredacts
  · intro h
    have hsafe := (verdict_by_triggers_iff dottedTables_unicode dottedTables_expands hdot rfl).mp h
      _ List.mem_cons_self _ _ _ rfl rfl
    exact hsafe.2.elim nofun fun hnot => hnot ⟨rfl, rfl⟩

/-- The text has the rejected literal; behind the redaction of a zero width space it is never
looked for, and before it rejects. -/
theorem rejecting_rule_not_reached :
    ∃ policy, ResponseFilterPolicy.compile (fun _ => .error "no pattern") dottedTables
        (redactThenReject "\u200b") = .ok policy ∧
      (∃ rule ∈ triggeredRules dottedTables "x".toList true policy.rules,
        rule.action.isRejecting = true) ∧
      policy.inspectTextWithRequiredMissing dottedTables "x".toList true = .error .diverged ∧
      (∃ matched, { policy with rules := policy.rules.reverse }.inspectTextWithRequiredMissing
        dottedTables "x".toList true = .ok (.rejected matched)) ∧
      ¬ policy.VerdictByTriggers dottedTables := by
  have hrun : ResponseFilterPolicy.compile (fun _ => .error "no pattern") dottedTables
      (redactThenReject "\u200b") = .ok _ := rfl
  refine ⟨_, hrun, ⟨_, List.mem_cons_of_mem _ List.mem_cons_self, rfl⟩, rfl, ⟨_, rfl⟩, ?_⟩
  intro h
  obtain ⟨decision, -, hdecision, -⟩ :=
    h _ (List.Perm.refl _) "x".toList (List.cons_ne_nil _ _) true
  cases hdecision

end OneAiKey
