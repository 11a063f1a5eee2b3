/-
  OneAiKey.ResponseFilter.Lowercase — a text in lower case, as a whole and character by
  character (`normalize_filter_text` and `normalized_text_with_original_ranges` of
  `src/response_filter.rs`).

  Detection lowers a whole text, redaction each character on its own.  The two differ in
  one place: a capital sigma at the end of a word becomes `ς` in the whole text and `σ`
  on its own.  A literal whose sigmas cannot be at the end of a word is found by the one
  exactly where the other finds it.

  Main results:
    * `infix_searchedText` — what detection finds, redaction finds, unless the literal has
      a `ς` that may end a word;
    * `detected_only` — for such a literal there is a text that only detection finds it in.
-/
import OneAiKey.ResponseFilter

namespace OneAiKey

open Redaction

/-! ## §1. Unicode. -/

/-- What Unicode says about lower case, as far as final sigmas depend on it. -/
structure CaseTables.Unicode (tables : CaseTables) : Prop where
  sigma : tables.lowercase 'Σ' = ['σ']
  finalSigma : tables.lowercase 'ς' = ['ς']
  casedSigma : ∀ ch ∈ ['σ', 'ς'], tables.cased ch = true ∧ tables.caseIgnorable ch = false
  /-- Only cased characters have another lower case. -/
  uncased : ∀ ch, tables.cased ch = false → tables.lowercase ch = [ch]
  ignorable : ∀ ch, tables.caseIgnorable ch = true →
    ∀ c ∈ tables.lowercase ch, tables.caseIgnorable c = true
  /-- The lower case of a letter is a letter, perhaps with marks behind it. -/
  cased : ∀ ch, tables.cased ch = true → tables.caseIgnorable ch = false →
    ∃ left c marks, tables.lowercase ch = left ++ c :: marks ∧ tables.cased c = true ∧
      tables.caseIgnorable c = false ∧ ∀ mark ∈ marks, tables.caseIgnorable mark = true
  stable : ∀ ch, ∀ c ∈ tables.lowercase ch, tables.lowercase c = [c]
  visible : ∀ ch, isIgnoredFormatChar ch = false →
    ∀ c ∈ tables.lowercase ch, isIgnoredFormatChar c = false

/-! ## §2. Letters behind ignorable characters. -/

namespace CaseTables

variable (tables : CaseTables)

@[simp] theorem caseIgnorableThenCased_nil : tables.caseIgnorableThenCased [] = false := rfl

theorem caseIgnorableThenCased_cons (ch : Char) (text : Text) :
    tables.caseIgnorableThenCased (ch :: text) =
      if tables.caseIgnorable ch then tables.caseIgnorableThenCased text else tables.cased ch := by
  unfold caseIgnorableThenCased
  rw [List.dropWhile_cons]
  cases tables.caseIgnorable ch <;> rfl

/-- Only behind ignorable characters does the rest of a text count. -/
theorem caseIgnorableThenCased_append (left right : Text) :
    tables.caseIgnorableThenCased (left ++ right) =
      if left.all tables.caseIgnorable then tables.caseIgnorableThenCased right
      else tables.caseIgnorableThenCased left := by
  induction left with
  | nil => rfl
  | cons ch left ih =>
      rw [List.cons_append, caseIgnorableThenCased_cons, caseIgnorableThenCased_cons, ih,
        List.all_cons]
      cases tables.caseIgnorable ch <;> simp

theorem caseIgnorableThenCased_of_all {left : Text}
    (h : left.all tables.caseIgnorable = true) : tables.caseIgnorableThenCased left = false := by
  have hnil := tables.caseIgnorableThenCased_append left []
  rw [List.append_nil, if_pos h] at hnil
  exact hnil

end CaseTables

/-! ## §3. The two lower cases. -/

/-- The lower case of a character, if the case does not count. -/
def loweredChar (tables : CaseTables) (caseSensitive : Bool) (ch : Char) : Text :=
  if caseSensitive then [ch] else tables.lowercase ch

/-- The text that redaction searches. -/
def searchedText (tables : CaseTables) (caseSensitive : Bool) (text : Text) : Text :=
  (visible isIgnoredFormatChar text).flatMap (loweredChar tables caseSensitive)

/-- The lower case of a character between two texts, with a mark on a final sigma. -/
def CaseTables.markedChar (tables : CaseTables) (before : Text) (ch : Char) (behind : Text) :
    List (Char × Bool) :=
  if ch = 'Σ' then
    [('σ', tables.caseIgnorableThenCased before && !tables.caseIgnorableThenCased behind)]
  else (tables.lowercase ch).map (·, false)

/-- The characters of `text` in lower case, one by one, with the final sigmas of the whole
marked. -/
def CaseTables.markedLowercase (tables : CaseTables) (before : Text) : Text → List (Char × Bool)
  | [] => []
  | ch :: text => tables.markedChar before ch text ++ tables.markedLowercase (ch :: before) text

/-- A marked character as the whole text has it. -/
def sigmaEnding (marked : Char × Bool) : Char := if marked.2 then 'ς' else marked.1

namespace CaseTables

variable {tables : CaseTables}

theorem map_fst_markedChar (laws : tables.Unicode) (before : Text) (ch : Char) (behind : Text) :
    (tables.markedChar before ch behind).map Prod.fst = tables.lowercase ch := by
  unfold markedChar
  split
  · next hsigma =>
      rw [hsigma, laws.sigma]
      rfl
  · rw [List.map_map]
    exact List.map_id _

/-- Only a capital sigma between the right texts is marked. -/
theorem markedChar_split {before : Text} {ch : Char} {behind : Text} {c : Char}
    {left right : List (Char × Bool)}
    (h : tables.markedChar before ch behind = left ++ (c, true) :: right) :
    ch = 'Σ' ∧ c = 'σ' ∧ left = [] ∧ right = [] ∧
      tables.caseIgnorableThenCased before = true ∧
      tables.caseIgnorableThenCased behind = false := by
  unfold markedChar at h
  split at h
  · next hsigma =>
      cases left with
      | nil =>
          obtain ⟨hhead, rfl⟩ := List.cons.inj h
          obtain ⟨rfl, hfinal⟩ := Prod.mk.inj hhead
          rw [Bool.and_eq_true, Bool.not_eq_true'] at hfinal
          exact ⟨hsigma, rfl, rfl, rfl, hfinal.1, hfinal.2⟩
      | cons head left => cases left <;> simp at h
  · have hmem : (c, true) ∈ (tables.lowercase ch).map (·, false) := by
      rw [h]
      simp
    obtain ⟨_, -, hmark⟩ := List.mem_map.mp hmem
    cases (Prod.mk.inj hmark).2

/-- Lowering a text is lowering its characters, with the marked ones ending a word. -/
theorem toLowercase_eq_marked (before text : Text) :
    tables.toLowercase before text = (tables.markedLowercase before text).map sigmaEnding := by
  induction text generalizing before with
  | nil => rfl
  | cons ch text ih =>
      unfold toLowercase markedLowercase markedChar
      rw [List.map_append, ← ih]
      dsimp only
      split
      · cases tables.caseIgnorableThenCased before && !tables.caseIgnorableThenCased text <;> rfl
      · rw [List.map_map, show sigmaEnding ∘ (·, false) = id from rfl, List.map_id]

/-- Lowering the characters one by one leaves out the marks. -/
theorem flatMap_lowercase_eq_marked (laws : tables.Unicode) (before text : Text) :
    text.flatMap tables.lowercase = (tables.markedLowercase before text).map Prod.fst := by
  induction text generalizing before with
  | nil => rfl
  | cons ch text ih =>
      unfold markedLowercase
      rw [List.map_append, ← ih, List.flatMap_cons, map_fst_markedChar laws]

/-- A mark is on a capital sigma at the end of a word. -/
theorem markedLowercase_split (laws : tables.Unicode) {before text : Text} {c : Char}
    {left right : List (Char × Bool)}
    (h : tables.markedLowercase before text = left ++ (c, true) :: right) :
    ∃ left' right', text = left' ++ 'Σ' :: right' ∧ c = 'σ' ∧
      tables.caseIgnorableThenCased (left'.reverse ++ before) = true ∧
      tables.caseIgnorableThenCased right' = false ∧
      left.map Prod.fst = left'.flatMap tables.lowercase ∧
      right.map Prod.fst = right'.flatMap tables.lowercase := by
  induction text generalizing before left with
  | nil => exact absurd h (List.append_ne_nil_of_right_ne_nil left (List.cons_ne_nil _ _)).symm
  | cons ch text ih =>
      -- a mark behind the first character is one of the rest
      have hbehind : ∀ middle, left = tables.markedChar before ch text ++ middle →
          tables.markedLowercase (ch :: before) text = middle ++ (c, true) :: right →
          ∃ left' right', ch :: text = left' ++ 'Σ' :: right' ∧ c = 'σ' ∧
            tables.caseIgnorableThenCased (left'.reverse ++ before) = true ∧
            tables.caseIgnorableThenCased right' = false ∧
            left.map Prod.fst = left'.flatMap tables.lowercase ∧
            right.map Prod.fst = right'.flatMap tables.lowercase := by
        intro middle hleft hrest
        obtain ⟨left', right', rfl, hc, hbefore, hright, hmiddle, hfst⟩ := ih hrest
        refine ⟨ch :: left', right', rfl, hc, ?_, hright, ?_, hfst⟩
        · rw [List.reverse_cons, List.append_assoc]
          exact hbefore
        · rw [hleft, List.map_append, map_fst_markedChar laws, hmiddle, List.flatMap_cons]
      unfold markedLowercase at h
      rcases List.append_eq_append_iff.mp h with ⟨middle, hleft, hrest⟩ | ⟨middle, hblock, hrest⟩
      · exact hbehind middle hleft hrest
      · cases middle with
        | nil =>
            rw [List.append_nil] at hblock
            exact hbehind [] (by rw [List.append_nil, hblock]) hrest.symm
        | cons head middle =>
            obtain ⟨rfl, hright⟩ := List.cons.inj hrest
            obtain ⟨rfl, rfl, rfl, rfl, hbefore, hbehind'⟩ := markedChar_split hblock
            refine ⟨[], text, rfl, rfl, hbefore, hbehind', rfl, ?_⟩
            rw [hright]
            exact (flatMap_lowercase_eq_marked laws ('Σ' :: before) text).symm

/-- Only a sigma is ever marked. -/
theorem eq_sigma_of_marked (laws : tables.Unicode) {before text : Text} {c : Char}
    (h : (c, true) ∈ tables.markedLowercase before text) : c = 'σ' := by
  obtain ⟨left, right, hsplit⟩ := List.append_of_mem h
  obtain ⟨_, _, -, hc, -⟩ := markedLowercase_split laws hsplit
  exact hc

/-! ## §4. What the lower case keeps of the words. -/

/-- Seen from behind, a word ends where it did. -/
theorem caseIgnorableThenCased_reverse_lowercase (laws : tables.Unicode) (reversed : Text) :
    tables.caseIgnorableThenCased (reversed.flatMap fun ch => (tables.lowercase ch).reverse) =
      tables.caseIgnorableThenCased reversed := by
  induction reversed with
  | nil => rfl
  | cons ch reversed ih =>
      rw [List.flatMap_cons, caseIgnorableThenCased_append, caseIgnorableThenCased_cons, ih,
        List.all_reverse]
      -- an ignorable character lowers to ignorable ones, so both searches go on
      by_cases hignorable : tables.caseIgnorable ch = true
      · rw [if_pos hignorable, if_pos (List.all_eq_true.mpr (laws.ignorable ch hignorable))]
      · rw [if_neg hignorable]
        have hignorable' := Bool.eq_false_iff.mpr hignorable
        cases hcased : tables.cased ch with
        | false =>
            rw [laws.uncased ch hcased]
            simp [caseIgnorableThenCased_cons, hignorable', hcased]
        | true =>
            -- a cased character lowers to a cased one, which at most ignorable ones follow
            obtain ⟨left, c, marks, hlowercase, hc, hc', hmarks⟩ :=
              laws.cased ch hcased hignorable'
            have hall : marks.reverse.all tables.caseIgnorable = true := by
              rw [List.all_reverse]
              exact List.all_eq_true.mpr hmarks
            have hreversed : (tables.lowercase ch).reverse = marks.reverse ++ c :: left.reverse := by
              rw [hlowercase]
              simp
            have hnot : (tables.lowercase ch).all tables.caseIgnorable = false := by
              rw [hlowercase]
              simp [hc']
            rw [hreversed, caseIgnorableThenCased_append, if_pos hall, caseIgnorableThenCased_cons,
              hnot, hc', hc]
            rfl

/-- Lowering what follows a character does not put a letter behind it. -/
theorem caseIgnorableThenCased_lowercase (laws : tables.Unicode) {text : Text}
    (h : tables.caseIgnorableThenCased text = false) :
    tables.caseIgnorableThenCased (text.flatMap tables.lowercase) = false := by
  induction text with
  | nil => rfl
  | cons ch text ih =>
      rw [caseIgnorableThenCased_cons] at h
      rw [List.flatMap_cons, caseIgnorableThenCased_append]
      by_cases hignorable : tables.caseIgnorable ch = true
      · rw [if_pos hignorable] at h
        rw [if_pos (List.all_eq_true.mpr (laws.ignorable ch hignorable))]
        exact ih h
      · rw [if_neg hignorable] at h
        have hignorable' := Bool.eq_false_iff.mpr hignorable
        rw [laws.uncased ch h]
        simp [caseIgnorableThenCased_cons, hignorable', h]

/-- The two sigmas are letters both. -/
theorem caseIgnorableThenCased_sigmaEnding (laws : tables.Unicode) {marked : List (Char × Bool)}
    (h : ∀ c, (c, true) ∈ marked → c = 'σ') :
    tables.caseIgnorableThenCased (marked.map sigmaEnding) =
      tables.caseIgnorableThenCased (marked.map Prod.fst) := by
  induction marked with
  | nil => rfl
  | cons entry marked ih =>
      have hrest := ih fun c hc => h c (List.mem_cons_of_mem entry hc)
      obtain ⟨c, mark⟩ := entry
      rw [List.map_cons, List.map_cons, caseIgnorableThenCased_cons, caseIgnorableThenCased_cons,
        hrest]
      cases mark with
      | false => rfl
      | true =>
          obtain rfl := h c List.mem_cons_self
          obtain ⟨hsigma, hsigma'⟩ := laws.casedSigma 'σ' (by simp)
          obtain ⟨hfinal, hfinal'⟩ := laws.casedSigma 'ς' (by simp)
          simp [sigmaEnding, hsigma, hsigma', hfinal, hfinal']

/-! ## §5. What detection and redaction find. -/

/-- A `ς` of the pattern may be at the end of a word in a text that has the pattern. -/
def SigmaMayEndWord (tables : CaseTables) (pattern : Text) : Prop :=
  ∃ before behind, pattern = before ++ 'ς' :: behind ∧
    tables.caseIgnorableThenCased (before.reverse ++ ['σ']) = true ∧
    tables.caseIgnorableThenCased behind = false

/-- What is seen through the ignorable characters does not depend on what lies behind it. -/
theorem caseIgnorableThenCased_letter (laws : tables.Unicode) {left right : Text}
    (h : tables.caseIgnorableThenCased (left ++ right) = true) :
    tables.caseIgnorableThenCased (left ++ ['σ']) = true := by
  rw [caseIgnorableThenCased_append] at h ⊢
  obtain ⟨hcased, hignorable⟩ := laws.casedSigma 'σ' (by simp)
  split
  · rw [caseIgnorableThenCased_cons, hignorable, hcased]
    rfl
  · next hnot => rwa [if_neg hnot] at h

theorem caseIgnorableThenCased_front {left right : Text}
    (h : tables.caseIgnorableThenCased (left ++ right) = false) :
    tables.caseIgnorableThenCased left = false := by
  rw [caseIgnorableThenCased_append] at h
  split at h
  · next hall => exact tables.caseIgnorableThenCased_of_all hall
  · exact h

/-- An occurrence in the whole text is one in the characters, if none of its sigmas is
marked; and a marked one may end a word. -/
theorem infix_of_infix_toLowercase (laws : tables.Unicode) {pattern text : Text}
    (hpattern : ¬ SigmaMayEndWord tables pattern)
    (h : pattern <:+: tables.toLowercase [] text) :
    pattern <:+: text.flatMap tables.lowercase := by
  obtain ⟨left, right, hsplit⟩ := h
  rw [toLowercase_eq_marked] at hsplit
  obtain ⟨upto, behind, hmarked, hupto, rfl⟩ := List.map_eq_append_iff.mp hsplit.symm
  obtain ⟨front, occurrence, rfl, rfl, rfl⟩ := List.map_eq_append_iff.mp hupto
  have hsigma : ∀ c, (c, true) ∈ front ++ occurrence ++ behind → c = 'σ' := by
    intro c hc
    rw [← hmarked] at hc
    exact eq_sigma_of_marked laws hc
  -- is a sigma of the occurrence lowercased to its final form?
  by_cases hmark : ∃ c, (c, true) ∈ occurrence
  · exfalso
    obtain ⟨c, hc⟩ := hmark
    obtain ⟨left, right, rfl⟩ := List.append_of_mem hc
    have hassoc : tables.markedLowercase [] text =
        (front ++ left) ++ (c, true) :: (right ++ behind) := by
      rw [hmarked]
      simp only [List.append_assoc, List.cons_append]
    obtain ⟨left', right', -, rfl, hbefore, hright, hleft', hright'⟩ :=
      markedLowercase_split laws hassoc
    refine hpattern ⟨left.map sigmaEnding, right.map sigmaEnding, ?_, ?_, ?_⟩
    · rw [List.map_append]
      rfl
    · have hreversed : ((front ++ left).map Prod.fst).reverse =
          left'.reverse.flatMap fun ch => (tables.lowercase ch).reverse := by
        rw [hleft', List.reverse_flatMap]
        rfl
      rw [List.append_nil, ← caseIgnorableThenCased_reverse_lowercase laws, ← hreversed,
        ← List.map_reverse, ← caseIgnorableThenCased_sigmaEnding laws, List.map_reverse,
        List.map_append, List.reverse_append] at hbefore
      · exact caseIgnorableThenCased_letter laws hbefore
      · intro c hc
        have hmem := List.mem_append.mp (List.mem_reverse.mp hc)
        refine hsigma c ?_
        simp only [List.mem_append, List.mem_cons]
        rcases hmem with hmem | hmem <;> simp [hmem]
    · have hfalse := caseIgnorableThenCased_lowercase laws hright
      rw [← hright', ← caseIgnorableThenCased_sigmaEnding laws, List.map_append] at hfalse
      · exact caseIgnorableThenCased_front hfalse
      · intro c hc
        refine hsigma c ?_
        rcases List.mem_append.mp hc with hmem | hmem <;> simp [hmem]
  · -- no: letter by letter it is lowercased to the same text
    refine ⟨front.map Prod.fst, behind.map Prod.fst, ?_⟩
    have hunmarked : occurrence.map sigmaEnding = occurrence.map Prod.fst := by
      refine List.map_congr_left fun entry hentry => ?_
      obtain ⟨c, mark⟩ := entry
      cases mark with
      | false => rfl
      | true => exact absurd ⟨c, hentry⟩ hmark
    rw [hunmarked, flatMap_lowercase_eq_marked laws [] text, hmarked, List.map_append,
      List.map_append]

/-! ## §6. A text that only detection finds the pattern in. -/

/-- A character that is its own lower case, and no capital sigma. -/
structure Lowered (tables : CaseTables) (c : Char) : Prop where
  lowercase : tables.lowercase c = [c]
  not_sigma : c ≠ 'Σ'

/-- What lowering gives is lowered itself. -/
theorem lowered_of_mem (laws : tables.Unicode) {ch c : Char} (h : c ∈ tables.lowercase ch) :
    Lowered tables c where
  lowercase := laws.stable ch c h
  not_sigma := by
    intro hsigma
    have hstable := laws.stable ch c h
    rw [hsigma, laws.sigma] at hstable
    exact absurd (List.singleton_inj.mp hstable) (by decide)

theorem lowered_sigmas (laws : tables.Unicode) :
    Lowered tables 'σ' ∧ Lowered tables 'ς' := by
  have hsigma : 'σ' ∈ tables.lowercase 'Σ' := by
    rw [laws.sigma]
    exact List.mem_singleton_self 'σ'
  exact ⟨lowered_of_mem laws hsigma, laws.finalSigma, by decide⟩

/-- A character of the lowered text comes from one of the text, or is the sigma of a word's end.
-/
theorem mem_toLowercase (laws : tables.Unicode) {before text : Text} {c : Char}
    (h : c ∈ tables.toLowercase before text) :
    (∃ ch ∈ text, c ∈ tables.lowercase ch) ∨ c = 'ς' := by
  rw [toLowercase_eq_marked] at h
  obtain ⟨entry, hentry, rfl⟩ := List.mem_map.mp h
  obtain ⟨c, mark⟩ := entry
  cases mark with
  | false =>
      left
      have hmem : c ∈ text.flatMap tables.lowercase := by
        rw [flatMap_lowercase_eq_marked laws before]
        exact List.mem_map_of_mem hentry
      exact List.mem_flatMap.mp hmem
  | true => exact Or.inr rfl

/-- Text in lower case stays as it is. -/
theorem toLowercase_append_of_lowered {left : Text} (h : ∀ c ∈ left, Lowered tables c)
    (before right : Text) : tables.toLowercase before (left ++ right) =
      left ++ tables.toLowercase (left.reverse ++ before) right := by
  induction left generalizing before with
  | nil => rfl
  | cons c left ih =>
      have hc := h c List.mem_cons_self
      have hrest := ih (fun c' hc' => h c' (List.mem_cons_of_mem c hc')) (c :: before)
      show (if c = 'Σ' then _ else tables.lowercase c) ++
        tables.toLowercase (c :: before) (left ++ right) = _
      rw [if_neg hc.not_sigma, hc.lowercase, hrest, List.reverse_cons, List.append_assoc]
      rfl

/-- A text of lowered characters stays as it is. -/
theorem toLowercase_of_lowered {text : Text} (h : ∀ c ∈ text, Lowered tables c) (before : Text) :
    tables.toLowercase before text = text := by
  have happend := toLowercase_append_of_lowered h before []
  rw [List.append_nil] at happend
  exact happend.trans (List.append_nil text)

theorem flatMap_lowercase_of_lowered {text : Text} (h : ∀ c ∈ text, Lowered tables c) :
    text.flatMap tables.lowercase = text := by
  induction text with
  | nil => rfl
  | cons c text ih =>
      rw [List.flatMap_cons, (h c List.mem_cons_self).lowercase,
        ih fun c' hc' => h c' (List.mem_cons_of_mem c hc')]
      rfl

end CaseTables

section Found

variable {tables : CaseTables}

theorem searchedText_caseSensitive (text : Text) :
    searchedText tables true text = visible isIgnoredFormatChar text :=
  List.flatMap_singleton' _

/-- What detection finds, redaction finds. -/
theorem infix_searchedText (laws : tables.Unicode) {caseSensitive : Bool} {pattern text : Text}
    (hpattern : caseSensitive = true ∨ ¬ tables.SigmaMayEndWord pattern)
    (h : pattern <:+: normalizeFilterText tables text caseSensitive) :
    pattern <:+: searchedText tables caseSensitive text := by
  cases caseSensitive with
  | true =>
      rw [searchedText_caseSensitive]
      exact h
  | false =>
      have hpattern' : ¬ tables.SigmaMayEndWord pattern := hpattern.resolve_left nofun
      exact CaseTables.infix_of_infix_toLowercase laws hpattern' h

/-- The characters of a normalized literal. -/
theorem lowered_of_mem_normalize (laws : tables.Unicode) {value : Text} {c : Char}
    (h : c ∈ normalizeFilterText tables value false) :
    CaseTables.Lowered tables c ∧ isIgnoredFormatChar c = false := by
  rcases CaseTables.mem_toLowercase laws h with ⟨ch, hch, hc⟩ | rfl
  · have hvisible := (List.mem_filter.mp hch).2
    rw [Bool.not_eq_true'] at hvisible
    exact ⟨CaseTables.lowered_of_mem laws hc, laws.visible ch hvisible c hc⟩
  · exact ⟨(CaseTables.lowered_sigmas laws).2, by decide⟩

/-- If a `ς` of the literal may end a word, the literal with a capital sigma for it, behind a
letter, is detected but not found. -/
theorem detected_only (laws : tables.Unicode) {value : Text}
    (h : tables.SigmaMayEndWord (normalizeFilterText tables value false)) :
    ∃ text, text ≠ [] ∧
      normalizeFilterText tables value false <:+: normalizeFilterText tables text false ∧
      ¬ normalizeFilterText tables value false <:+: searchedText tables false text := by
  obtain ⟨before, behind, hvalue, hbefore, hbehind⟩ := h
  have hchars : ∀ c ∈ before ++ 'ς' :: behind,
      CaseTables.Lowered tables c ∧ isIgnoredFormatChar c = false := by
    intro c hc
    rw [← hvalue] at hc
    exact lowered_of_mem_normalize laws hc
  have hsigma := (CaseTables.lowered_sigmas laws).1
  have hbeforeLowered : ∀ c ∈ 'σ' :: before, CaseTables.Lowered tables c := by
    intro c hc
    rcases List.mem_cons.mp hc with rfl | hc
    · exact hsigma
    · exact (hchars c (List.mem_append_left _ hc)).1
  have hbehindLowered : ∀ c ∈ behind, CaseTables.Lowered tables c := fun c hc =>
    (hchars c (List.mem_append_right before (List.mem_cons_of_mem _ hc))).1
  have hvisible : visible isIgnoredFormatChar ('σ' :: before ++ 'Σ' :: behind) =
      'σ' :: before ++ 'Σ' :: behind := by
    apply visible_eq_self
    intro c hc
    simp only [List.cons_append, List.mem_cons, List.mem_append] at hc
    rcases hc with rfl | hc | rfl | hc
    · decide
    · exact (hchars c (by simp [hc])).2
    · decide
    · exact (hchars c (by simp [hc])).2
  -- the detection lowercases the whole text: the capital sigma ends a word
  have hdetected : tables.toLowercase [] ('σ' :: before ++ 'Σ' :: behind) =
      'σ' :: (before ++ 'ς' :: behind) := by
    have hword : (if tables.caseIgnorableThenCased (('σ' :: before).reverse ++ []) &&
        !tables.caseIgnorableThenCased behind then ['ς'] else ['σ']) = ['ς'] := by
      rw [List.append_nil, List.reverse_cons, hbefore, hbehind]
      rfl
    rw [CaseTables.toLowercase_append_of_lowered hbeforeLowered]
    show 'σ' :: before ++ ((if _ && !tables.caseIgnorableThenCased behind then _ else _) ++
      tables.toLowercase _ behind) = _
    rw [hword, CaseTables.toLowercase_of_lowered hbehindLowered]
    rfl
  -- the search lowercases letter by letter: the same sigma does not
  have hsearched : searchedText tables false ('σ' :: before ++ 'Σ' :: behind) =
      'σ' :: before ++ 'σ' :: behind := by
    unfold searchedText
    rw [hvisible]
    show List.flatMap tables.lowercase _ = _
    rw [List.flatMap_append, CaseTables.flatMap_lowercase_of_lowered hbeforeLowered,
      List.flatMap_cons, laws.sigma, CaseTables.flatMap_lowercase_of_lowered hbehindLowered]
    rfl
  refine ⟨'σ' :: before ++ 'Σ' :: behind, List.cons_ne_nil _ _, ?_, ?_⟩
  · unfold normalizeFilterText
    dsimp only
    rw [if_neg Bool.false_ne_true, hvisible, hdetected]
    show normalizeFilterText tables value false <:+: _
    rw [hvalue]
    exact ⟨['σ'], [], by simp⟩
  · -- the pattern has more final sigmas than the searched text
    rw [hvalue, hsearched]
    intro hinside
    have hcount := hinside.sublist.count_le 'ς'
    simp only [List.count_append, List.count_cons, List.cons_append] at hcount
    simp at hcount

end Found

end OneAiKey
