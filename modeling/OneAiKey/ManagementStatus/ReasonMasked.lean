/-
  OneAiKey.ManagementStatus.ReasonMasked — what `redact_management_reason` leaves.

  A pass can undo what an earlier one did only if it writes or joins something,
  so each property is shown to hold behind the pass that establishes it and to
  be kept by the passes behind that one.

    * no start of a path and no start of a secret key is left: the masks do not
      overlap them (`Masking.Rule.not_infix_pass`, `infix_of_infix_pass`);
    * behind every label with a separator, and behind every `bearer` with
      whitespace, a mask stands (`Masking.Rule.follows_pass`);
    * a text without a place where a pass begins to mask is unchanged.
-/
import Mathlib.Data.List.Infix
import Mathlib.Data.List.TakeWhile
import OneAiKey.ManagementStatus.Reason

namespace OneAiKey

open Masking Masking.Rule Redaction

/-! ## §1. What is masked. -/

/-- What stands between a label and its value. -/
def IsSeparator (c : Char) : Prop := c = ':' ∨ c = '='

/-- A text of whitespace only. -/
def AllWhitespace (ws : List Char) : Prop := ∀ c ∈ ws, isWhitespace c = true

/-- A label in any case, and a separator. -/
def LabelHead (x : List Char) : Prop :=
  ∃ l ws sep, l.map Char.toLower ∈ secretLabels ∧ AllWhitespace ws ∧ IsSeparator sep ∧
    x = l ++ (ws ++ [sep])

/-- A mask, which a scheme may precede. -/
def ValueTail (y : List Char) : Prop :=
  ∃ ws, AllWhitespace ws ∧
    (y = ws ++ redactedMark ∨
      ∃ b, b.map Char.toLower = "bearer".toList ∧ y = ws ++ (b ++ ' ' :: redactedMark))

/-- The scheme in any case, and whitespace. -/
def BearerHead (x : List Char) : Prop :=
  ∃ b c, b.map Char.toLower = "bearer".toList ∧ isWhitespace c = true ∧ x = b ++ [c]

/-- What follows the word `bearer` once it has been masked. -/
def BearerTail (y : List Char) : Prop := ∃ ws, AllWhitespace ws ∧ y = ws ++ redactedMark

/-- No start of a path or of a key is left, and what is labelled is masked. -/
structure ReasonMasked (out : List Char) : Prop where
  no_path : ∀ start ∈ pathStarts, ¬ start <:+: out
  no_key : ¬ "sk-".toList <:+: out
  labels : Follows LabelHead ValueTail out
  bearers : Follows BearerHead BearerTail out

/-- A label in any case, and behind whitespace a segment that looks like a secret.  No
separator stands between them. -/
def LabelledToken (x : List Char) : Prop :=
  ∃ l ws segment, l.map Char.toLower ∈ secretLabels ∧ AllWhitespace ws ∧ ws ≠ [] ∧
    (∀ c ∈ segment, sensitiveSegmentDelimiter c = false) ∧ looksLikeSecretToken segment = true ∧
    x = l ++ (ws ++ segment)

/-- No place where one of the passes begins to mask.  A label alone is no such place
("monkey", "the key was rotated"), and neither is a `bearer` without whitespace. -/
structure PlainReason (text : List Char) : Prop where
  no_path : ∀ start ∈ pathStarts, ¬ start <:+: text
  no_key : ¬ "sk-".toList <:+: text
  no_label : ∀ x, LabelHead x → ¬ x <:+: text
  no_token : ∀ x, LabelledToken x → ¬ x <:+: text
  no_bearer : ∀ x, BearerHead x → ¬ x <:+: text

/-! ## §2. Characters. -/

/-- What can stand in a label. -/
def isLabelChar (c : Char) : Bool :=
  (97 ≤ c.toNat && c.toNat ≤ 122) || c == '_' || c == '-'

/-- What ends a label. -/
def isBoundary (c : Char) : Bool :=
  isWhitespace c || c == ':' || c == '=' || c == '[' || c == ']'

/-- No whitespace character is a letter, so lower-casing leaves it alone. -/
theorem toLower_of_isWhitespace {c : Char} (h : isWhitespace c = true) : c.toLower = c := by
  unfold Char.toLower
  rw [dif_neg]
  rintro ⟨hlow, hhigh⟩
  have hlow' : 65 ≤ c.toNat := UInt32.le_iff_toNat_le.mp hlow
  have hhigh' : c.toNat ≤ 90 := UInt32.le_iff_toNat_le.mp hhigh
  simp only [isWhitespace, Bool.or_eq_true, Bool.and_eq_true, decide_eq_true_eq, beq_iff_eq] at h
  omega

/-- A boundary is not part of a label, in whatever case the label is written. -/
theorem not_isLabelChar_of_isBoundary {c : Char} (h : isBoundary c = true) :
    isLabelChar c.toLower = false := by
  unfold isBoundary at h
  rw [Bool.or_eq_true, Bool.or_eq_true, Bool.or_eq_true, Bool.or_eq_true] at h
  rcases h with (((h | h) | h) | h) | h
  · rw [toLower_of_isWhitespace h]
    have hne : ∀ d : Char, isWhitespace d = false → (c == d) = false := by
      intro d hd
      rw [beq_eq_false_iff_ne]
      rintro rfl
      rw [hd] at h
      cases h
    unfold isLabelChar
    rw [hne '_' (by decide), hne '-' (by decide), Bool.or_false, Bool.or_false]
    simp only [isWhitespace, Bool.or_eq_true, Bool.and_eq_true, decide_eq_true_eq,
      beq_iff_eq] at h
    simp only [Bool.and_eq_false_iff, decide_eq_false_iff_not]
    omega
  all_goals
    obtain rfl := eq_of_beq h
    decide

theorem IsSeparator.isBoundary {c : Char} (h : IsSeparator c) : isBoundary c = true := by
  rcases h with rfl | rfl <;> decide

theorem IsSeparator.not_isWhitespace {c : Char} (h : IsSeparator c) : isWhitespace c = false := by
  rcases h with rfl | rfl <;> decide

theorem isBoundary_of_isWhitespace {c : Char} (h : isWhitespace c = true) :
    isBoundary c = true := by
  unfold isBoundary
  rw [h]
  rfl

/-! ## §3. The tables. -/

/-- What all labels have in common: none holds a `b` or `sk`, so no label is inside `bearer` or a
secret key, and each has a character that no mark has. -/
theorem labels_chars : ∀ label ∈ secretLabels, label ≠ [] ∧ label.all isLabelChar = true ∧
    'b' ∉ label ∧ ¬ "sk".toList <:+: label ∧
    label.any (fun c => decide (c ∉ "bearer ".toList ++ redactedMark)) = true := by
  decide

/-- No label begins another, so the first label that fits a text is the only one. -/
theorem labels_prefix_free : ∀ label ∈ secretLabels, ∀ other ∈ secretLabels,
    label <+: other → label = other := by
  decide

theorem labels_lower : ∀ label ∈ secretLabels, label.map Char.toLower = label := by
  decide

/-- Every path has a slash, and no bracket or blank: it is neither inside a mark nor across one.
-/
theorem pathStarts_apart : ∀ start ∈ pathStarts,
    '[' ∉ start ∧ ']' ∉ start ∧ ' ' ∉ start ∧ '/' ∈ start := by
  decide

/-- The text of a label in any case. -/
def IsLabel (l : List Char) : Prop := l.map Char.toLower ∈ secretLabels

theorem IsLabel.ne_nil {l : List Char} (h : IsLabel l) : l ≠ [] := by
  rintro rfl
  exact (labels_chars [] h).1 rfl

theorem IsLabel.not_boundary {l : List Char} (h : IsLabel l) {c : Char} (hc : c ∈ l) :
    isBoundary c = false := by
  by_contra hne
  have hfalse := not_isLabelChar_of_isBoundary (Bool.eq_true_of_not_eq_false hne)
  have htrue := List.all_eq_true.mp (labels_chars _ h).2.1 _ (List.mem_map_of_mem hc)
  rw [hfalse] at htrue
  cases htrue

/-- The comparison of the source, as a split of the text. -/
theorem startsWithIgnoreAsciiCase_iff {value start : List Char} :
    startsWithIgnoreAsciiCase value start = true ↔
      ∃ l rest, value = l ++ rest ∧ l.map Char.toLower = start.map Char.toLower := by
  unfold startsWithIgnoreAsciiCase
  rw [beq_iff_eq]
  constructor
  · exact fun h => ⟨_, _, (List.take_append_drop start.length value).symm, h⟩
  · rintro ⟨l, rest, rfl, h⟩
    have hlength : start.length = l.length := by
      have := congrArg List.length h
      rw [List.length_map, List.length_map] at this
      exact this.symm
    rw [take_of_eq rfl hlength, h]

/-! ## §4. Masks. -/

/-- What the passes write: whitespace, letters of `bearer` and of the mask, up to the end
of a mask. -/
structure IsMasking (s : List Char) : Prop where
  chars : ∀ c ∈ s, isWhitespace c = true ∨ c.toLower ∈ "bearer ".toList ++ redactedMark
  last : s.getLast? = some ']'

/-- The end of a masking is one. -/
theorem IsMasking.of_suffix {s s' : List Char} (h : IsMasking s) (hs : s' <:+ s)
    (hne : s' ≠ []) : IsMasking s' where
  chars c hc := h.chars c (hs.subset hc)
  last := by
    obtain ⟨front, rfl⟩ := hs
    rw [← h.last, List.getLast?_append_of_ne_nil _ hne]

/-- What holds of the characters of a text is decided along the text. -/
theorem forall_mem_of_all {p : Char → Prop} [DecidablePred p] {l : List Char}
    (h : l.all (fun c => decide (p c)) = true) : ∀ c ∈ l, p c :=
  fun c hc => of_decide_eq_true (List.all_eq_true.mp h c hc)

/-- The mark itself. -/
theorem isMasking_mark : IsMasking redactedMark where
  chars := forall_mem_of_all (by decide)
  last := rfl

/-- A masking with whitespace or letters of `bearer` before it. -/
theorem IsMasking.append {front s : List Char} (h : IsMasking s)
    (hfront : ∀ c ∈ front, isWhitespace c = true ∨
      c.toLower ∈ "bearer ".toList ++ redactedMark) : IsMasking (front ++ s) where
  chars c hc := (List.mem_append.mp hc).elim (hfront c) (h.chars c)
  last := by
    have hne : s ≠ [] := by
      rintro rfl
      cases h.last
    rw [List.getLast?_append_of_ne_nil _ hne, h.last]

theorem bearer_chars {b : List Char} (h : b.map Char.toLower = "bearer".toList) :
    ∀ c ∈ b, isWhitespace c = true ∨ c.toLower ∈ "bearer ".toList ++ redactedMark := by
  have hsubset : ∀ c ∈ "bearer".toList, c ∈ "bearer ".toList ++ redactedMark :=
    forall_mem_of_all (by decide)
  intro c hc
  exact .inr (hsubset _ (h ▸ List.mem_map_of_mem hc))

/-- A scheme with the mark in place of its credential. -/
theorem isMasking_scheme {b ws : List Char} (hb : b.map Char.toLower = "bearer".toList)
    (hws : AllWhitespace ws) : IsMasking (b ++ (ws ++ redactedMark)) :=
  (isMasking_mark.append fun c hc => .inl (hws c hc)).append (bearer_chars hb)

/-- What follows a masked label is a masking. -/
theorem ValueTail.isMasking {y : List Char} (h : ValueTail y) : IsMasking y := by
  obtain ⟨ws, hws, rfl | ⟨b, hb, rfl⟩⟩ := h
  · exact isMasking_mark.append fun c hc => .inl (hws c hc)
  · have hscheme := @isMasking_scheme _ [' '] hb (forall_mem_of_all (by decide))
    exact hscheme.append fun c hc => .inl (hws c hc)

/-- No label begins in what the passes write. -/
theorem no_label_starts {l s rest : List Char} (hl : IsLabel l) (hs : IsMasking s) :
    ¬ l <+: s ++ rest := by
  intro hin
  rcases List.prefix_or_prefix_of_prefix hin (List.prefix_append s rest) with hshort | hlong
  · obtain ⟨-, -, -, -, hany⟩ := labels_chars _ hl
    obtain ⟨d, hd, hnot⟩ := List.any_eq_true.mp hany
    rw [decide_eq_true_iff] at hnot
    obtain ⟨c, hc, rfl⟩ := List.mem_map.mp hd
    rcases hs.chars c (hshort.subset hc) with hspace | hmasked
    · have := hl.not_boundary hc
      rw [isBoundary_of_isWhitespace hspace] at this
      cases this
    · exact hnot hmasked
  · have := hl.not_boundary (hlong.subset (List.mem_of_getLast? hs.last))
    cases this

/-- A label begins neither with whitespace nor with a separator. -/
theorem not_label_boundary {l rest : List Char} (hl : IsLabel l) {c : Char}
    (hc : isBoundary c = true) : ¬ l <+: c :: rest := by
  intro hin
  obtain ⟨a, l', rfl⟩ := List.exists_cons_of_ne_nil hl.ne_nil
  obtain ⟨rfl, -⟩ := List.cons_prefix_cons.mp hin
  have := hl.not_boundary List.mem_cons_self
  rw [hc] at this
  cases this

/-- A label and its separator neither overlap the mark nor occur in it. -/
theorem LabelHead.clear {x : List Char} (hx : LabelHead x) :
    Clear x redactedMark ∧ Clear x (' ' :: redactedMark) := by
  obtain ⟨l, ws, sep, hl, hws, hsep, rfl⟩ := hx
  have hnot : '[' ∉ (l ++ ws) ++ [sep] := by
    intro hin
    rcases List.mem_append.mp hin with hin | hin
    · rcases List.mem_append.mp hin with hin | hin
      · exact Bool.noConfusion (IsLabel.not_boundary hl hin)
      · exact Bool.noConfusion (hws _ hin)
    · rcases hsep with rfl | rfl
      · exact absurd hin (by decide)
      · exact absurd hin (by decide)
  rw [← List.append_assoc]
  rcases hsep with rfl | rfl
  · exact ⟨.of_last (by decide) (by decide) hnot, .of_last (by decide) (by decide) hnot⟩
  · exact ⟨.of_last (by decide) (by decide) hnot, .of_last (by decide) (by decide) hnot⟩

theorem mark_not_whitespace : ∀ c ∈ redactedMark, isWhitespace c = false :=
  forall_mem_of_all (by decide)

/-- The word `bearer` and the whitespace behind it neither overlap the mark nor occur in it. -/
theorem BearerHead.clear {x : List Char} (hx : BearerHead x) : Clear x redactedMark := by
  obtain ⟨b, c, hb, hc, rfl⟩ := hx
  refine .of_last (a := '[') ?_ (by decide) ?_
  · intro hin
    rw [mark_not_whitespace c hin] at hc
    cases hc
  · intro hin
    rcases List.mem_append.mp hin with hin | hin
    · have := hb ▸ List.mem_map_of_mem (f := Char.toLower) hin
      exact absurd this (by decide)
    · obtain rfl := List.mem_singleton.mp hin
      cases hc

/-! ## §5. The blocks of labelled values. -/

/-- Dropping by the length of the whitespace is dropping the whitespace. -/
theorem drop_leadingWhitespaceLen (value : List Char) :
    value.drop (leadingWhitespaceLen value) = value.dropWhile isWhitespace := by
  have hsplit : value = value.takeWhile isWhitespace ++ value.dropWhile isWhitespace :=
    List.takeWhile_append_dropWhile.symm
  calc value.drop (leadingWhitespaceLen value)
      = (value.takeWhile isWhitespace ++ value.dropWhile isWhitespace).drop
          (value.takeWhile isWhitespace).length := by rw [← hsplit]; rfl
    _ = value.dropWhile isWhitespace := List.drop_left

theorem allWhitespace_takeWhile (value : List Char) :
    AllWhitespace (value.takeWhile isWhitespace) :=
  fun _ hc => List.mem_takeWhile_imp hc

/-- Behind the leading whitespace stands none. -/
theorem head_dropWhile (value : List Char) :
    ∀ c ∈ (value.dropWhile isWhitespace).head?, isWhitespace c = false := by
  intro c hc
  cases h : value.dropWhile isWhitespace with
  | nil =>
      rw [h] at hc
      cases hc
  | cons d rest =>
      have hnot := @List.dropWhile_get_zero_not _ isWhitespace value (by rw [h]; exact Nat.succ_pos _)
      rw [h] at hc
      obtain rfl : d = c := Option.some.inj hc
      simpa [h] using hnot

/-- What the pass over labels writes is the mark, with a blank before it behind `bearer`. -/
theorem keyValueBlock_mask {labels : List (List Char)} {remaining : List Char} {b : Block Char}
    (h : keyValueBlock labels remaining = some b) :
    b.mask = redactedMark ∨ b.mask = ' ' :: redactedMark := by
  unfold keyValueBlock at h
  split at h
  · cases h
  · dsimp only at h
    split_ifs at h <;> cases h
    · exact .inr rfl
    · exact .inl rfl
    · exact .inl rfl
    · exact .inl rfl

/-- A label that is found, with what stands behind it. -/
theorem found_label {remaining label : List Char}
    (h : secretLabels.find? (startsWithIgnoreAsciiCase remaining) = some label) :
    ∃ l rest, IsLabel l ∧ label.length = l.length ∧ remaining = l ++ rest := by
  have hmem := List.mem_of_find?_eq_some h
  obtain ⟨l, rest, rfl, hl⟩ := startsWithIgnoreAsciiCase_iff.mp (List.find?_some h)
  rw [labels_lower label hmem] at hl
  refine ⟨l, rest, ?_, ?_, rfl⟩
  · unfold IsLabel
    rw [hl]
    exact hmem
  · rw [← hl, List.length_map]

/-- What a block of a label writes in place of its input. -/
theorem labeledBlock_written {remaining : List Char} {b : Block Char}
    (h : keyValueBlock secretLabels remaining = some b) :
    ∃ l ws rest, IsLabel l ∧ AllWhitespace ws ∧ remaining = l ++ (ws ++ rest) ∧
      ((∃ sep rest' y, IsSeparator sep ∧ ValueTail y ∧ rest = sep :: rest' ∧
          remaining.take b.keep ++ b.mask = l ++ (ws ++ sep :: y)) ∨
        (ws ≠ [] ∧ (∀ c ∈ rest.head?, isWhitespace c = false ∧ ¬ IsSeparator c) ∧
          looksLikeSecretToken (rest.take (sensitiveSegmentLen rest)) = true ∧
          remaining.take b.keep ++ b.mask = l ++ (ws ++ redactedMark))) := by
  unfold keyValueBlock at h
  split at h
  · cases h
  · rename_i label hfind
    obtain ⟨l, after, hl, hlength, rfl⟩ := found_label hfind
    have hafter : (l ++ after).drop label.length = after := by rw [hlength, List.drop_left]
    dsimp only at h
    rw [hafter, drop_leadingWhitespaceLen] at h
    have hsplit : after = after.takeWhile isWhitespace ++ after.dropWhile isWhitespace :=
      List.takeWhile_append_dropWhile.symm
    have hws := allWhitespace_takeWhile after
    have hhead := head_dropWhile after
    have hlen : leadingWhitespaceLen after = (after.takeWhile isWhitespace).length := rfl
    rw [hlen] at h
    -- from here on: the whitespace behind the label, and what follows it
    generalize after.takeWhile isWhitespace = ws at *
    generalize after.dropWhile isWhitespace = rest at *
    subst hsplit
    refine ⟨l, ws, rest, hl, hws, rfl, ?_⟩
    by_cases hsep : (rest.head?.any fun ch => ch == ':' || ch == '=') = true
    · refine .inl ?_
      rw [if_pos hsep] at h
      obtain ⟨sep, rest', rfl, hsep'⟩ : ∃ sep rest', rest = sep :: rest' ∧ IsSeparator sep := by
        cases rest with
        | nil => cases hsep
        | cons sep rest' =>
            refine ⟨sep, rest', rfl, ?_⟩
            rcases (Bool.or_eq_true _ _).mp hsep with hc | hc
            · exact .inl (eq_of_beq hc)
            · exact .inr (eq_of_beq hc)
      rw [List.drop_one, List.tail_cons, drop_leadingWhitespaceLen] at h
      have hsplit : rest' = rest'.takeWhile isWhitespace ++ rest'.dropWhile isWhitespace :=
        List.takeWhile_append_dropWhile.symm
      have hws' := allWhitespace_takeWhile rest'
      have hlen' : leadingWhitespaceLen rest' = (rest'.takeWhile isWhitespace).length := rfl
      rw [hlen'] at h
      generalize rest'.takeWhile isWhitespace = ws' at *
      generalize rest'.dropWhile isWhitespace = value at *
      subst hsplit
      refine ⟨sep, ws' ++ value, ?_⟩
      -- what is kept when nothing of the value is
      have hkept : (l ++ (ws ++ sep :: (ws' ++ value))).take
          (label.length + ws.length + 1 + ws'.length) = l ++ (ws ++ sep :: ws') := by
        refine @take_of_eq _ _ _ value _ ?_ ?_
        · simp only [List.append_assoc, List.cons_append]
        · simp only [List.length_append, List.length_cons]
          omega
      have hplain : ∃ y, IsSeparator sep ∧ ValueTail y ∧
          sep :: (ws' ++ value) = sep :: (ws' ++ value) ∧
          (l ++ (ws ++ sep :: (ws' ++ value))).take (label.length + ws.length + 1 + ws'.length) ++
            redactedMark = l ++ (ws ++ sep :: y) :=
        ⟨ws' ++ redactedMark, hsep', ⟨ws', hws', .inl rfl⟩, rfl, by
          rw [hkept]
          simp only [List.append_assoc, List.cons_append]⟩
      split_ifs at h with hauth hbearer
      · obtain ⟨scheme, credential, rfl, hscheme⟩ := startsWithIgnoreAsciiCase_iff.mp hbearer
        cases h
        refine ⟨ws' ++ (scheme ++ ' ' :: redactedMark), hsep',
          ⟨ws', hws', .inr ⟨scheme, hscheme, rfl⟩⟩, rfl, ?_⟩
        have hlength : "bearer".toList.length = scheme.length := by
          rw [← @List.length_map _ _ scheme Char.toLower, hscheme, List.length_map]
        have htake : (l ++ (ws ++ sep :: (ws' ++ (scheme ++ credential)))).take
            (label.length + ws.length + 1 + ws'.length + "bearer".toList.length) =
            l ++ (ws ++ sep :: (ws' ++ scheme)) := by
          refine @take_of_eq _ _ _ credential _ ?_ ?_
          · simp only [List.append_assoc, List.cons_append]
          · simp only [List.length_append, List.length_cons]
            omega
        rw [htake]
        simp only [List.append_assoc, List.cons_append]
      · cases h
        exact hplain
      · cases h
        exact hplain
    · rw [if_neg hsep] at h
      split_ifs at h with hspace hlooks
      cases h
      refine .inr ⟨List.length_pos_iff.mp hspace, ?_, ?_, ?_⟩
      · intro c hc
        refine ⟨hhead c hc, ?_⟩
        rintro (rfl | rfl)
        · rw [hc] at hsep
          exact hsep rfl
        · rw [hc] at hsep
          exact hsep rfl
      · exact hlooks
      · have htake : (l ++ (ws ++ rest)).take (label.length + ws.length) = l ++ ws := by
          refine @take_of_eq _ _ _ rest _ ?_ ?_
          · rw [List.append_assoc]
          · rw [List.length_append]
            omega
        rw [htake, List.append_assoc]

/-- The label at the start of a text is the one that is found. -/
theorem find_label {l : List Char} (hl : IsLabel l) (rest : List Char) :
    ∃ label, secretLabels.find? (startsWithIgnoreAsciiCase (l ++ rest)) = some label ∧
      label.length = l.length := by
  have hstarts : startsWithIgnoreAsciiCase (l ++ rest) (l.map Char.toLower) = true :=
    startsWithIgnoreAsciiCase_iff.mpr ⟨l, _, rfl, (labels_lower _ hl).symm⟩
  cases hfind : secretLabels.find? (startsWithIgnoreAsciiCase (l ++ rest)) with
  | none => exact absurd hstarts (List.find?_eq_none.mp hfind _ hl)
  | some label =>
      refine ⟨label, rfl, ?_⟩
      have hmem := List.mem_of_find?_eq_some hfind
      obtain ⟨l', rest', heq, hl'⟩ := startsWithIgnoreAsciiCase_iff.mp (List.find?_some hfind)
      rw [labels_lower label hmem] at hl'
      have hsame : label = l.map Char.toLower := by
        rcases List.prefix_or_prefix_of_prefix (heq ▸ List.prefix_append l' rest')
          (List.prefix_append l rest) with hshort | hlong
        · exact labels_prefix_free _ hmem _ hl (hl' ▸ hshort.map Char.toLower)
        · exact (labels_prefix_free _ hl _ hmem (hl' ▸ hlong.map Char.toLower)).symm
      rw [hsame, List.length_map]

/-- A label with a separator is not passed over. -/
theorem labeledBlock_ne_none {x rest : List Char} (hx : LabelHead x) :
    keyValueBlock secretLabels (x ++ rest) ≠ none := by
  obtain ⟨l, ws, sep, hl, hws, hsep, rfl⟩ := hx
  have hassoc : l ++ (ws ++ [sep]) ++ rest = l ++ (ws ++ sep :: rest) := by
    simp only [List.append_assoc, List.cons_append, List.nil_append]
  rw [hassoc]
  obtain ⟨label, hfind, hlength⟩ := find_label hl (ws ++ sep :: rest)
  have hafter : (l ++ (ws ++ sep :: rest)).drop label.length = ws ++ sep :: rest := by
    rw [hlength, List.drop_left]
  have hspan : (ws ++ sep :: rest).dropWhile isWhitespace = sep :: rest := by
    rw [List.dropWhile_append_of_pos hws,
      List.dropWhile_cons_of_neg (by rw [hsep.not_isWhitespace]; exact Bool.false_ne_true)]
  have hany : ((sep :: rest).head?.any fun ch => ch == ':' || ch == '=') = true := by
    rcases hsep with rfl | rfl <;> rfl
  unfold keyValueBlock
  rw [hfind]
  dsimp only
  rw [hafter, drop_leadingWhitespaceLen, hspan, if_pos hany]
  split_ifs <;> exact Option.some_ne_none _

/-- What looks like a secret still does with more behind it. -/
theorem looksLikeSecretToken_append {segment : List Char} (h : looksLikeSecretToken segment = true)
    (rest : List Char) : looksLikeSecretToken (segment ++ rest) = true := by
  unfold looksLikeSecretToken at h ⊢
  simp only [Bool.or_eq_true, List.isPrefixOf_iff_prefix, List.contains_iff_mem, List.any_eq_true,
    List.mem_append] at h ⊢
  rcases h with ((h | h) | h) | ⟨c, hc, hdigit⟩
  · exact .inl (.inl (.inl (h.trans (List.prefix_append segment rest))))
  · exact .inl (.inl (.inr (.inl h)))
  · exact .inl (.inr (.inl h))
  · exact .inr ⟨c, .inl hc, hdigit⟩

/-- A text without delimiters is at the start of the segment. -/
theorem take_sensitiveSegmentLen {segment : List Char}
    (h : ∀ c ∈ segment, sensitiveSegmentDelimiter c = false) (rest : List Char) :
    (segment ++ rest).take (sensitiveSegmentLen (segment ++ rest)) =
      segment ++ rest.takeWhile fun ch => !sensitiveSegmentDelimiter ch := by
  have hplain : ∀ c ∈ segment, (!sensitiveSegmentDelimiter c) = true := by
    intro c hc
    rw [h c hc]
    rfl
  unfold sensitiveSegmentLen
  rw [← List.takeWhile_append_of_pos hplain]
  exact (List.prefix_iff_eq_take.mp (List.takeWhile_prefix _)).symm

/-- A label with what looks like a secret behind it is not passed over. -/
theorem labeledBlock_token_ne_none {x rest : List Char} (hx : LabelledToken x) :
    keyValueBlock secretLabels (x ++ rest) ≠ none := by
  obtain ⟨l, ws, segment, hl, hws, hne, hsegment, hlooks, rfl⟩ := hx
  have hassoc : l ++ (ws ++ segment) ++ rest = l ++ (ws ++ (segment ++ rest)) := by
    simp only [List.append_assoc]
  rw [hassoc]
  obtain ⟨label, hfind, hlength⟩ := find_label hl (ws ++ (segment ++ rest))
  have hafter : (l ++ (ws ++ (segment ++ rest))).drop label.length = ws ++ (segment ++ rest) := by
    rw [hlength, List.drop_left]
  -- the whitespace ends at the segment, which has a first character
  obtain ⟨a, tail, rfl⟩ : ∃ a tail, segment = a :: tail := by
    cases segment with
    | nil => exact absurd hlooks (by decide)
    | cons a tail => exact ⟨a, tail, rfl⟩
  have ha : ¬ isWhitespace a = true := by
    intro hspace
    have hplain := hsegment a List.mem_cons_self
    unfold sensitiveSegmentDelimiter at hplain
    rw [hspace] at hplain
    cases hplain
  have hspan : leadingWhitespaceLen (ws ++ (a :: tail ++ rest)) = ws.length := by
    unfold leadingWhitespaceLen
    rw [List.takeWhile_append_of_pos hws, List.cons_append, List.takeWhile_cons_of_neg ha,
      List.append_nil]
  unfold keyValueBlock
  rw [hfind]
  dsimp only
  rw [hafter, hspan, List.drop_left, take_sensitiveSegmentLen hsegment,
    if_pos (List.length_pos_iff.mpr hne), if_pos (looksLikeSecretToken_append hlooks _)]
  split_ifs <;> exact Option.some_ne_none _

/-! ## §6. What each pass establishes. -/

/-- A label and another text up to its boundary. -/
theorem label_span {l l' rest rest' : List Char} (hl : IsLabel l)
    (hl' : ∀ c ∈ l', isBoundary c = false) (hrest : ∀ c ∈ rest.head?, isBoundary c = true)
    (hrest' : ∀ c ∈ rest'.head?, isBoundary c = true) (h : l ++ rest = l' ++ rest') :
    l = l' ∧ rest = rest' := by
  refine span_unique (p := fun c => !isBoundary c) ?_ ?_ ?_ ?_ h
  · exact fun c hc => by rw [hl.not_boundary hc]; rfl
  · exact fun c hc => by rw [hl' c hc]; rfl
  · exact fun c hc => by rw [hrest c hc]; rfl
  · exact fun c hc => by rw [hrest' c hc]; rfl

/-- A text splits in one way into whitespace and what does not begin with whitespace. -/
theorem whitespace_span {ws ws' rest rest' : List Char} {c : Char} (hws : AllWhitespace ws)
    (hws' : AllWhitespace ws') (hc : isWhitespace c = false)
    (hrest' : ∀ d ∈ rest'.head?, isWhitespace d = false) (h : ws ++ c :: rest = ws' ++ rest') :
    ws = ws' ∧ c :: rest = rest' := by
  refine span_unique hws hws' ?_ hrest' h
  intro d hd
  obtain rfl : c = d := Option.some.inj hd
  exact hc

/-- Behind a label stands a boundary, be it whitespace or the separator itself. -/
theorem head_boundary {ws rest : List Char} {c : Char} (hws : AllWhitespace ws)
    (hc : isBoundary c = true) : ∀ d ∈ (ws ++ c :: rest).head?, isBoundary d = true := by
  intro d hd
  cases ws with
  | nil =>
      obtain rfl : c = d := Option.some.inj hd
      exact hc
  | cons a ws =>
      obtain rfl : a = d := Option.some.inj hd
      exact isBoundary_of_isWhitespace (hws a List.mem_cons_self)

/-- After the pass over labels, what follows a label is masked. -/
theorem follows_labels_labeled (input : List Char) :
    Follows LabelHead ValueTail (redactLabeledSecretValues input) := by
  -- what the pass writes begins with a bracket or a blank, so it makes no label
  have hclear : ∀ x, LabelHead x → ClearOf labeledRule x := by
    intro x hx l b hb _
    rcases keyValueBlock_mask hb with hmask | hmask
    · rw [hmask]
      exact hx.clear.1
    · rw [hmask]
      exact hx.clear.2
  have hmarkHead : redactedMark = '[' :: "redacted]".toList := by decide
  intro x rest ht hx
  rcases suffix_pass ht with ⟨l', -, heq⟩ | ⟨l', b, s, -, hb, hs, hpart, heq⟩
  · -- the head is in the input: its block is written
    obtain ⟨rest', rfl⟩ := prefix_of_prefix_pass (hclear x hx) (heq ▸ List.prefix_append x rest)
    obtain ⟨b, hb⟩ := Option.ne_none_iff_exists'.mp (@labeledBlock_ne_none _ rest' hx)
    obtain ⟨l, ws, sep, hl, hws, hsep, rfl⟩ := hx
    have hne : l ++ (ws ++ [sep]) ++ rest' ≠ [] := by simp
    obtain ⟨l₀, ws₀, rest₀, hl₀, hws₀, hremaining, hwritten⟩ := labeledBlock_written hb
    rw [@pass_of_some _ labeledRule _ hne _ hb,
      ← List.append_assoc (List.take _ _) b.mask] at heq
    have hremaining' : l ++ (ws ++ sep :: rest') = l₀ ++ (ws₀ ++ rest₀) := by
      rw [← hremaining]
      simp only [List.append_assoc, List.cons_append, List.nil_append]
    -- both labels end at the first boundary, so they are the same one
    have hfree : ∀ c ∈ l₀, isBoundary c = false := fun c hc => IsLabel.not_boundary hl₀ hc
    rcases hwritten with ⟨sep₀, rest₁, y, hsep₀, hy, rfl, hwritten⟩ | ⟨hws₀ne, hhead, -⟩
    · obtain ⟨rfl, hbehind⟩ := label_span hl hfree (head_boundary hws hsep.isBoundary)
        (head_boundary hws₀ hsep₀.isBoundary) hremaining'
      obtain ⟨rfl, hcons⟩ := whitespace_span hws hws₀ hsep.not_isWhitespace
        (fun d hd => by obtain rfl : sep₀ = d := Option.some.inj hd; exact hsep₀.not_isWhitespace)
        hbehind
      obtain ⟨rfl, rfl⟩ := List.cons.inj hcons
      rw [hwritten] at heq
      simp only [List.append_assoc, List.cons_append, List.nil_append,
        List.append_cancel_left_eq, List.cons.injEq, true_and] at heq
      exact ⟨y, _, hy, heq⟩
    -- a block without a separator: the label that was found would have none either
    · obtain ⟨a, ws₁, rfl⟩ := List.exists_cons_of_ne_nil hws₀ne
      have hspace := isBoundary_of_isWhitespace (hws₀ a List.mem_cons_self)
      obtain ⟨rfl, hbehind⟩ := label_span hl hfree (head_boundary hws hsep.isBoundary)
        (fun d hd => by obtain rfl : a = d := Option.some.inj hd; exact hspace) hremaining'
      obtain ⟨-, rfl⟩ := whitespace_span hws hws₀ hsep.not_isWhitespace
        (fun d hd => (hhead d hd).1) hbehind
      exact absurd hsep (hhead sep rfl).2
  · -- the head begins in what a block writes, behind its start
    obtain ⟨l, ws, sep, hl, hws, hsep, rfl⟩ := hx
    obtain ⟨l₀, ws₀, rest₀, hl₀, hws₀, -, hwritten⟩ := labeledBlock_written hb
    obtain ⟨a, l₁, rfl⟩ := List.exists_cons_of_ne_nil (IsLabel.ne_nil hl₀)
    have hl₀' : ∀ l₂, l₂ <:+ l₁ → ∀ c ∈ l₂, isBoundary c = false := fun l₂ hl₂ c hc =>
      IsLabel.not_boundary hl₀ (List.mem_cons_of_mem a (hl₂.subset hc))
    have hstarts : l <+: s ++ labeledRule.pass (l'.drop (b.keep + b.skip)) :=
      ⟨ws ++ [sep] ++ rest, by rw [← heq, ← List.append_assoc l]⟩
    have hassoc : l ++ (ws ++ [sep]) ++ rest = l ++ (ws ++ sep :: rest) := by
      simp only [List.append_assoc, List.cons_append, List.nil_append]
    rcases hwritten with ⟨sep₀, rest₁, y, hsep₀, hy, -, hwritten⟩ | ⟨-, -, -, hwritten⟩
    · rw [hwritten, List.cons_append, List.tail_cons] at hpart
      rcases suffix_of_append hpart with hbehind | ⟨l₂, -, hl₂, rfl⟩
      · -- not in a label
        rcases suffix_of_append hbehind with hbehind | ⟨w, hw, hin, rfl⟩
        · rcases List.suffix_cons_iff.mp hbehind with rfl | hy'
          · exact absurd hstarts (not_label_boundary hl hsep₀.isBoundary)
          · exact absurd hstarts (no_label_starts hl (hy.isMasking.of_suffix hy' hs))
        · obtain ⟨c, w, rfl⟩ := List.exists_cons_of_ne_nil hw
          have hc := hws₀ c (hin.subset List.mem_cons_self)
          exact absurd hstarts (not_label_boundary hl (isBoundary_of_isWhitespace hc))
      · rw [hassoc, List.append_assoc, List.append_assoc, List.cons_append] at heq
        obtain ⟨rfl, hbehind⟩ := label_span hl (hl₀' l₂ hl₂) (head_boundary hws hsep.isBoundary)
          (head_boundary hws₀ hsep₀.isBoundary) heq
        obtain ⟨rfl, hcons⟩ := whitespace_span hws hws₀ hsep.not_isWhitespace
          (fun d hd => by obtain rfl : sep₀ = d := Option.some.inj hd; exact hsep₀.not_isWhitespace)
          hbehind
        exact ⟨y, _, hy, (List.cons.inj hcons).2⟩
    · rw [hwritten, List.cons_append, List.tail_cons] at hpart
      rcases suffix_of_append hpart with hbehind | ⟨l₂, -, hl₂, rfl⟩
      · have hmasking : IsMasking (ws₀ ++ redactedMark) :=
          isMasking_mark.append fun c hc => .inl (hws₀ c hc)
        exact absurd hstarts (no_label_starts hl (hmasking.of_suffix hbehind hs))
      · rw [hassoc, hmarkHead, List.append_assoc, List.append_assoc, List.cons_append] at heq
        have hbracket : isBoundary '[' = true := by decide
        obtain ⟨rfl, hbehind⟩ := label_span hl (hl₀' l₂ hl₂) (head_boundary hws hsep.isBoundary)
          (head_boundary hws₀ hbracket) heq
        obtain ⟨-, hcons⟩ := whitespace_span hws hws₀ hsep.not_isWhitespace
          (fun d hd => by obtain rfl : '[' = d := Option.some.inj hd; decide) hbehind
        obtain ⟨rfl, -⟩ := List.cons.inj hcons
        rcases hsep with hc | hc <;> cases hc

/-! ## §7. The blocks of bearer values. -/

/-- The scheme is as long as `bearer`, in whatever case it is written. -/
theorem length_scheme {scheme : List Char} (h : scheme.map Char.toLower = "bearer".toList) :
    "bearer".toList.length = scheme.length := by
  rw [← @List.length_map _ _ scheme Char.toLower, h]

/-- What a block of a bearer writes in place of its input. -/
theorem bearerBlock_written {remaining : List Char} {b : Block Char}
    (h : bearerBlock remaining = some b) :
    ∃ scheme ws rest, scheme.map Char.toLower = "bearer".toList ∧ AllWhitespace ws ∧ ws ≠ [] ∧
      remaining = scheme ++ (ws ++ rest) ∧ (b.mask ≠ [] → b.mask = redactedMark) ∧
      remaining.take b.keep ++ b.mask = scheme ++ (ws ++ redactedMark) := by
  unfold bearerBlock at h
  split at h
  case isFalse => cases h
  case isTrue hstarts =>
    obtain ⟨scheme, after, rfl, hscheme⟩ := startsWithIgnoreAsciiCase_iff.mp hstarts
    have hscheme' : scheme.map Char.toLower = "bearer".toList := hscheme.trans (by decide)
    have hlength := length_scheme hscheme'
    have hafter : (scheme ++ after).drop "bearer".toList.length = after := by
      rw [hlength, List.drop_left]
    dsimp only at h
    rw [hafter, drop_leadingWhitespaceLen] at h
    -- the text is the scheme, whitespace, and what follows
    have hsplit : after = after.takeWhile isWhitespace ++ after.dropWhile isWhitespace :=
      List.takeWhile_append_dropWhile.symm
    have hws := allWhitespace_takeWhile after
    have hlen : leadingWhitespaceLen after = (after.takeWhile isWhitespace).length := rfl
    rw [hlen] at h
    generalize after.takeWhile isWhitespace = ws at *
    generalize after.dropWhile isWhitespace = rest at *
    subst hsplit
    -- a mark that is there already is stepped over, not written again
    split_ifs at h with hspace hmarked
    · obtain ⟨rest', rfl⟩ := List.isPrefixOf_iff_prefix.mp hmarked
      cases h
      refine ⟨scheme, ws, _, hscheme', hws, List.length_pos_iff.mp hspace, rfl,
        fun hne => absurd rfl hne, ?_⟩
      rw [List.append_nil]
      refine @take_of_eq _ _ _ rest' _ ?_ ?_
      · simp only [List.append_assoc]
      · simp only [List.length_append]
        omega
    · cases h
      refine ⟨scheme, ws, rest, hscheme', hws, List.length_pos_iff.mp hspace, rfl,
        fun _ => rfl, ?_⟩
      have htake : (scheme ++ (ws ++ rest)).take ("bearer".toList.length + ws.length) =
          scheme ++ ws := by
        refine @take_of_eq _ _ _ rest _ ?_ ?_
        · rw [List.append_assoc]
        · rw [List.length_append, hlength]
      rw [htake, List.append_assoc]

/-- A bearer with whitespace is not passed over. -/
theorem bearerBlock_ne_none {x rest : List Char} (hx : BearerHead x) :
    bearerBlock (x ++ rest) ≠ none := by
  obtain ⟨scheme, c, hscheme, hc, rfl⟩ := hx
  have hstarts : startsWithIgnoreAsciiCase (scheme ++ [c] ++ rest) "bearer".toList = true :=
    startsWithIgnoreAsciiCase_iff.mpr
      ⟨scheme, c :: rest, by rw [List.append_assoc]; rfl, hscheme.trans (by decide)⟩
  have hafter : (scheme ++ [c] ++ rest).drop "bearer".toList.length = c :: rest := by
    rw [length_scheme hscheme, List.append_assoc, List.drop_left]
    rfl
  have hspace : 0 < leadingWhitespaceLen (c :: rest) := by
    unfold leadingWhitespaceLen
    rw [List.takeWhile_cons_of_pos hc]
    exact Nat.succ_pos _
  unfold bearerBlock
  rw [if_pos hstarts]
  dsimp only
  rw [hafter, if_pos hspace]
  split_ifs <;> exact Option.some_ne_none _

/-- The pass over bearer values starts nowhere but at a `b`. -/
theorem bearerBlock_of_not_b {c : Char} {rest : List Char} (hc : c.toLower ≠ 'b') :
    bearerBlock (c :: rest) = none := by
  unfold bearerBlock
  rw [if_neg]
  intro hstarts
  obtain ⟨l, rest', heq, hl⟩ := startsWithIgnoreAsciiCase_iff.mp hstarts
  cases l with
  | nil => exact absurd hl (by decide)
  | cons d l =>
      obtain ⟨rfl, -⟩ := List.cons.inj heq
      have hlist : "bearer".toList.map Char.toLower = 'b' :: "earer".toList := by decide
      rw [hlist] at hl
      exact hc (List.cons.inj hl).1

/-- A bearer that is masked already is copied. -/
theorem bearer_pass_marked {scheme rest : List Char}
    (h : scheme.map Char.toLower = "bearer".toList) :
    bearerRule.pass (scheme ++ ' ' :: redactedMark ++ rest) =
      scheme ++ ' ' :: redactedMark ++ bearerRule.pass rest := by
  have hlength := length_scheme h
  -- the marked value is one block that is kept whole, so a second pass changes nothing
  have hblock : bearerRule.block (scheme ++ ' ' :: redactedMark ++ rest) =
      some ⟨(scheme ++ ' ' :: redactedMark).length, [], 0⟩ := by
    have hstarts : startsWithIgnoreAsciiCase (scheme ++ ' ' :: redactedMark ++ rest)
        "bearer".toList = true :=
      startsWithIgnoreAsciiCase_iff.mpr
        ⟨scheme, ' ' :: redactedMark ++ rest, by rw [List.append_assoc], h.trans (by decide)⟩
    have hafter : (scheme ++ ' ' :: redactedMark ++ rest).drop "bearer".toList.length =
        ' ' :: (redactedMark ++ rest) := by
      rw [hlength, List.append_assoc, List.drop_left]
      rfl
    have hmark : redactedMark = '[' :: "redacted]".toList := by decide
    have hspace : leadingWhitespaceLen (' ' :: (redactedMark ++ rest)) = 1 := by
      rw [hmark]
      rfl
    have hmarked : redactedMark.isPrefixOf ((' ' :: (redactedMark ++ rest)).drop 1) = true :=
      List.isPrefixOf_iff_prefix.mpr (List.prefix_append redactedMark rest)
    show bearerBlock _ = _
    unfold bearerBlock
    rw [if_pos hstarts]
    dsimp only
    rw [hafter, hspace, if_pos Nat.one_pos, if_pos hmarked, hlength, List.length_append,
      List.length_cons, Nat.add_assoc, Nat.add_comm 1]
  have hne : scheme ++ ' ' :: redactedMark ++ rest ≠ [] := by simp
  rw [pass_of_some hne hblock, List.take_left, Nat.add_zero, List.drop_left, List.nil_append]

/-- Whitespace and the letters of a mask do not start a bearer. -/
theorem toLower_ne_b_of_isWhitespace {c : Char} (h : isWhitespace c = true) : c.toLower ≠ 'b' := by
  rw [toLower_of_isWhitespace h]
  rintro rfl
  cases h

theorem mark_toLower_ne_b : ∀ c ∈ redactedMark, c.toLower ≠ 'b' :=
  forall_mem_of_all (by decide)

/-- A bearer begins at the start of a block or not in it. -/
theorem not_bearer_inside {scheme ws s x rest : List Char}
    (hscheme : scheme.map Char.toLower = "bearer".toList) (hws : AllWhitespace ws)
    (hs : s <:+ (scheme ++ (ws ++ redactedMark)).tail) (hne : s ≠ []) (hx : BearerHead x) :
    ¬ x <+: s ++ rest := by
  obtain ⟨b, c, hb, -, rfl⟩ := hx
  have hlist : "bearer".toList = 'b' :: "earer".toList := by decide
  intro hin
  cases b with
  | nil => exact absurd hb (by decide)
  | cons d b =>
      obtain ⟨e, s, rfl⟩ := List.exists_cons_of_ne_nil hne
      obtain ⟨rfl, -⟩ := List.cons_prefix_cons.mp hin
      rw [List.map_cons, hlist] at hb
      have hd := (List.cons.inj hb).1
      -- no character behind the first is a `b`
      cases scheme with
      | nil => exact absurd hscheme (by decide)
      | cons a scheme =>
          rw [List.map_cons, hlist] at hscheme
          have htail := (List.cons.inj hscheme).2
          rcases List.mem_append.mp (hs.subset List.mem_cons_self) with hmem | hmem
          · have := htail ▸ List.mem_map_of_mem (f := Char.toLower) hmem
            rw [hd] at this
            exact absurd this (by decide)
          · rcases List.mem_append.mp hmem with hmem | hmem
            · exact toLower_ne_b_of_isWhitespace (hws _ hmem) hd
            · exact mark_toLower_ne_b _ hmem hd

/-! ## §8. The bearer pass. -/

/-- A text that is clear of the mark is clear of what the pass over bearer values writes. -/
theorem clearOf_bearer {x : List Char} (hx : Clear x redactedMark) : ClearOf bearerRule x := by
  intro l b hb hmask
  obtain ⟨-, -, -, -, -, -, -, hmark, -⟩ := bearerBlock_written hb
  rw [hmark hmask]
  exact hx

/-- After the pass over bearer values, what follows `bearer` is masked. -/
theorem follows_bearers_bearer (input : List Char) :
    Follows BearerHead BearerTail (redactBearerSecretValues input) := by
  intro x rest ht hx
  rcases suffix_pass ht with ⟨l', -, heq⟩ | ⟨l', b, s, -, hb, hs, hpart, heq⟩
  · obtain ⟨rest', rfl⟩ := prefix_of_prefix_pass (clearOf_bearer hx.clear)
      (heq ▸ List.prefix_append x rest)
    obtain ⟨b, hb⟩ := Option.ne_none_iff_exists'.mp (@bearerBlock_ne_none _ rest' hx)
    obtain ⟨scheme, c, hscheme, hc, rfl⟩ := hx
    obtain ⟨scheme₀, ws, rest₀, hscheme₀, hws, hwsne, hremaining, -, hwritten⟩ :=
      bearerBlock_written hb
    have hne : scheme ++ [c] ++ rest' ≠ [] := by simp
    rw [@pass_of_some _ bearerRule _ hne _ hb, ← List.append_assoc (List.take _ _) b.mask,
      hwritten] at heq
    -- both readings of the input begin with six letters
    have hlength : scheme.length = scheme₀.length := by
      rw [← length_scheme hscheme, length_scheme hscheme₀]
    rw [List.append_assoc] at hremaining
    obtain ⟨rfl, hbehind⟩ := List.append_inj hremaining hlength
    obtain ⟨d, ws, rfl⟩ := List.exists_cons_of_ne_nil hwsne
    obtain ⟨rfl, -⟩ := List.cons.inj hbehind
    simp only [List.append_assoc, List.cons_append, List.nil_append,
      List.append_cancel_left_eq, List.cons.injEq, true_and] at heq
    rw [← List.append_assoc] at heq
    exact ⟨ws ++ redactedMark, _, ⟨ws, fun e he => hws e (List.mem_cons_of_mem c he), rfl⟩, heq⟩
  · obtain ⟨scheme, ws, -, hscheme, hws, -, -, -, hwritten⟩ := bearerBlock_written hb
    rw [hwritten] at hpart
    exact absurd (heq ▸ List.prefix_append x rest)
      (not_bearer_inside hscheme hws hpart hs hx)

/-- The pass over bearer values writes only marks, so the labels stay masked. -/
theorem follows_labels_bearer {input : List Char} (h : Follows LabelHead ValueTail input) :
    Follows LabelHead ValueTail (redactBearerSecretValues input) := by
  refine follows_pass h (fun x hx => clearOf_bearer hx.clear.1) ?_ ?_
  · rintro x y rest ⟨l, ws, sep, hl, hws, hsep, rfl⟩ hy
    have hhead : ∀ c ∈ l ++ (ws ++ [sep]), c.toLower ≠ 'b' := by
      intro c hc
      rcases List.mem_append.mp hc with hc | hc
      · intro hb
        exact (labels_chars _ hl).2.2.1 (hb ▸ List.mem_map_of_mem hc)
      · rcases List.mem_append.mp hc with hc | hc
        · exact toLower_ne_b_of_isWhitespace (hws c hc)
        · obtain rfl := List.mem_singleton.mp hc
          rcases hsep with rfl | rfl <;> decide
    -- nothing is masked before the scheme, if there is one
    have hcopy : ∀ (front rest : List Char), (∀ c ∈ front, c.toLower ≠ 'b') →
        bearerRule.pass (front ++ rest) = front ++ bearerRule.pass rest := by
      intro front rest hfront
      refine pass_append_of_none ?_
      intro part hne hpart
      obtain ⟨c, part, rfl⟩ := List.exists_cons_of_ne_nil hne
      exact bearerBlock_of_not_b (hfront c (hpart.subset List.mem_cons_self))
    obtain ⟨ws', hws', rfl | ⟨scheme, hscheme, rfl⟩⟩ := hy
    · rw [hcopy _ _ hhead, hcopy (ws' ++ redactedMark)]
      intro c hc
      exact (List.mem_append.mp hc).elim (fun hc => toLower_ne_b_of_isWhitespace (hws' c hc))
        (mark_toLower_ne_b c)
    · rw [hcopy _ _ hhead, List.append_assoc ws',
        hcopy ws' _ fun c hc => toLower_ne_b_of_isWhitespace (hws' c hc),
        bearer_pass_marked hscheme, List.append_assoc ws']
  · rintro l b s rest hb hs hpart x ⟨l', ws, sep, hl, -, -, rfl⟩ hin
    obtain ⟨scheme, ws', -, hscheme, hws', -, -, -, hwritten⟩ := bearerBlock_written hb
    have hmasking := (isMasking_scheme hscheme hws').of_suffix
      ((hwritten ▸ hpart).trans (List.tail_suffix _)) hs
    exact no_label_starts hl hmasking ((List.prefix_append l' _).trans hin)

/-! ## §9. The pass over secret keys. -/

/-- A segment is replaced from its first character on. -/
theorem segmentBlock_mark {starts : List (List Char)} {replacement remaining : List Char}
    {b : Block Char} (h : segmentBlock starts replacement remaining = some b) :
    b.keep = 0 ∧ b.mask = replacement := by
  obtain ⟨-, rfl⟩ := segmentBlock_eq_some.mp h
  exact ⟨rfl, rfl⟩

/-- A text that is clear of the mark is clear of what the pass over secret keys writes. -/
theorem clearOf_secret {x : List Char} (hx : Clear x redactedMark) : ClearOf secretRule x := by
  intro l b hb _
  rw [(segmentBlock_mark hb).2]
  exact hx

theorem secretBlock_eq_none {remaining : List Char} (h : ¬ "sk-".toList <+: remaining) :
    secretRule.block remaining = none := by
  cases hb : secretRule.block remaining with
  | none => rfl
  | some b =>
      obtain ⟨⟨start, hstart, hin⟩, -⟩ := segmentBlock_eq_some.mp hb
      obtain rfl := List.mem_singleton.mp hstart
      exact absurd hin h

/-- A text up to a mask, without the first letters of a key, is copied. -/
theorem secret_pass_copies {front rest : List Char} (h : ¬ "sk".toList <:+: front)
    (hlast : front.getLast? = some ']') :
    secretRule.pass (front ++ rest) = front ++ secretRule.pass rest := by
  refine pass_append_of_none ?_
  intro part hne hpart
  refine secretBlock_eq_none ?_
  intro hin
  have hkey : "sk".toList <+: "sk-".toList := by decide
  rcases List.prefix_or_prefix_of_prefix hin (List.prefix_append part rest) with hshort | hlong
  · exact h ((hkey.trans hshort).isInfix.trans hpart.isInfix)
  · obtain ⟨before, rfl⟩ := hpart
    rw [List.getLast?_append_of_ne_nil _ hne] at hlast
    exact absurd (hlong.subset (List.mem_of_getLast? hlast)) (by decide)

/-- A masking holds no letter of `sk`. -/
theorem IsMasking.not_key {s : List Char} (h : IsMasking s) : 's' ∉ s ∧ 'k' ∉ s := by
  constructor
  · intro hc
    exact (h.chars 's' hc).elim (fun hs => by cases hs) (by decide)
  · intro hc
    exact (h.chars 'k' hc).elim (fun hs => by cases hs) (by decide)

/-- The parts inside what the pass writes are ends of the mark. -/
theorem secret_inner {l s : List Char} {b : Block Char} (hb : secretRule.block l = some b)
    (hpart : s <:+ (l.take b.keep ++ b.mask).tail) : s <:+ redactedMark.tail := by
  obtain ⟨hkeep, hmask⟩ := segmentBlock_mark hb
  rw [hkeep, hmask] at hpart
  exact hpart

/-- The pass over secret keys keeps the labels masked. -/
theorem follows_labels_secret {input : List Char} (h : Follows LabelHead ValueTail input) :
    Follows LabelHead ValueTail (redactSecretSegments input) := by
  refine follows_pass h (fun x hx => clearOf_secret hx.clear.1) ?_ ?_
  · rintro x y rest ⟨l, ws, sep, hl, hws, hsep, rfl⟩ hy
    have hbehind : ∀ c ∈ ws ++ sep :: y, c ≠ 's' ∧ c ≠ 'k' := by
      intro c hc
      rcases List.mem_append.mp hc with hc | hc
      · refine ⟨?_, ?_⟩ <;> rintro rfl <;> cases hws _ hc
      · rcases List.mem_cons.mp hc with rfl | hc
        · rcases hsep with rfl | rfl <;> decide
        · exact ⟨fun heq => hy.isMasking.not_key.1 (heq ▸ hc),
            fun heq => hy.isMasking.not_key.2 (heq ▸ hc)⟩
    -- a secret key is neither in the label, nor behind it, nor across its end
    have hkey : ¬ "sk".toList <:+: l ++ (ws ++ sep :: y) := by
      intro hin
      rcases List.infix_append_iff_ne_nil.mp hin with hlabel | hrest | ⟨u, v, -, hv, heq, -, hstarts⟩
      · exact (labels_chars _ hl).2.2.2.1 (hlabel.map Char.toLower)
      · exact (hbehind 's' (hrest.subset (by decide))).1 rfl
      · -- the last letter of the key would stand behind the label
        have hk : v.getLast? = some 'k' := by
          rw [← List.getLast?_append_of_ne_nil u hv, ← heq]
          decide
        exact (hbehind 'k' (hstarts.subset (List.mem_of_getLast? hk))).2 rfl
    -- the masked label ends in the bracket of the mark, so the pass copies it as a whole
    have hlast : (l ++ (ws ++ sep :: y)).getLast? = some ']' := by
      have hassoc : l ++ (ws ++ sep :: y) = (l ++ ws ++ [sep]) ++ y := by
        simp only [List.append_assoc, List.cons_append, List.nil_append]
      have hy' := hy.isMasking.last
      have hne : y ≠ [] := by
        rintro rfl
        cases hy'
      rw [hassoc, List.getLast?_append_of_ne_nil _ hne, hy']
    have hsame : ∀ tail : List Char,
        l ++ (ws ++ [sep]) ++ (y ++ tail) = l ++ (ws ++ sep :: y) ++ tail := by
      intro tail
      simp only [List.append_assoc, List.cons_append, List.nil_append]
    rw [hsame, hsame, secret_pass_copies hkey hlast]
  · rintro l b s rest hb hs hpart x ⟨l', ws, sep, hl, -, -, rfl⟩ hin
    have hmasking := isMasking_mark.of_suffix
      ((secret_inner hb hpart).trans (List.tail_suffix _)) hs
    exact no_label_starts hl hmasking ((List.prefix_append l' _).trans hin)

/-- The pass over secret keys keeps the bearer values masked. -/
theorem follows_bearers_secret {input : List Char} (h : Follows BearerHead BearerTail input) :
    Follows BearerHead BearerTail (redactSecretSegments input) := by
  refine follows_pass h (fun x hx => clearOf_secret hx.clear) ?_ ?_
  · rintro x y rest ⟨scheme, c, hscheme, hc, rfl⟩ ⟨ws, hws, rfl⟩
    -- a masked value is copied by this pass
    have hmasking : IsMasking (scheme ++ (c :: ws ++ redactedMark)) :=
      isMasking_scheme hscheme (List.forall_mem_cons.mpr ⟨hc, hws⟩)
    have hsame : ∀ tail : List Char, scheme ++ [c] ++ (ws ++ redactedMark ++ tail) =
        scheme ++ (c :: ws ++ redactedMark) ++ tail := by
      intro tail
      simp only [List.append_assoc, List.cons_append, List.nil_append]
    rw [hsame, hsame, secret_pass_copies ?_ hmasking.last]
    exact fun hin => hmasking.not_key.1 (hin.subset (by decide))
  · rintro l b s rest hb hs hpart x ⟨scheme, c, hscheme, -, rfl⟩ hin
    obtain ⟨e, s, rfl⟩ := List.exists_cons_of_ne_nil hs
    have hmem := ((secret_inner hb hpart).trans (List.tail_suffix _)).subset List.mem_cons_self
    -- and what the pass writes does not begin the word
    cases scheme with
    | nil => exact absurd hscheme (by decide)
    | cons d scheme =>
        obtain ⟨rfl, -⟩ := List.cons_prefix_cons.mp hin
        have hlist : "bearer".toList = 'b' :: "earer".toList := by decide
        rw [List.map_cons, hlist] at hscheme
        exact mark_toLower_ne_b _ hmem (List.cons.inj hscheme).1

/-! ## §10. The reason that is shown. -/

/-- No path begins or ends inside a mark. -/
theorem pathStart_noOverlap {start mask : List Char} (h : start ∈ pathStarts)
    (hmask : mask = redactedPathMark ∨ mask = redactedMark ∨ mask = ' ' :: redactedMark) :
    NoOverlap start mask := by
  obtain ⟨hopen, hclose, hspace, hslash⟩ := pathStarts_apart start h
  rcases hmask with rfl | rfl | rfl
  · exact noOverlap_of_ends ⟨'[', rfl, hopen⟩ ⟨']', rfl, hclose⟩ ⟨'/', hslash, by decide⟩
  · exact noOverlap_of_ends ⟨'[', rfl, hopen⟩ ⟨']', rfl, hclose⟩ ⟨'/', hslash, by decide⟩
  · exact noOverlap_of_ends ⟨' ', rfl, hspace⟩ ⟨']', rfl, hclose⟩ ⟨'/', hslash, by decide⟩

/-- No start of a path is left by the first pass, and none comes back. -/
theorem no_path_left {start : List Char} (h : start ∈ pathStarts) (input : List Char) :
    ¬ start <:+: redactSecretSegments (redactBearerSecretValues (redactLabeledSecretValues
      (redactPathSegments input))) := by
  have hfirst : ¬ start <:+: redactPathSegments input := by
    refine not_infix_pass (fun l b hb => segmentBlock_mark hb) ?_
      (pathStart_noOverlap h (.inl rfl)) ?_
    · rintro rfl
      exact List.not_mem_nil (pathStarts_apart [] h).2.2.2
    · intro rest hnone
      have hblock : segmentBlock pathStarts redactedPathMark (start ++ rest) =
          some ⟨0, redactedPathMark, sensitiveSegmentLen (start ++ rest)⟩ :=
        segmentBlock_eq_some.mpr ⟨⟨start, h, List.prefix_append start rest⟩, rfl⟩
      exact absurd (hnone.symm.trans hblock) (by simp)
  intro hin
  have hbearer := @infix_of_infix_pass _ secretRule _ _ (fun l b hb _ =>
    pathStart_noOverlap h (.inr (.inl (segmentBlock_mark hb).2))) hin
  have hlabeled := @infix_of_infix_pass _ bearerRule _ _ (fun l b hb hmask => by
    obtain ⟨-, -, -, -, -, -, -, hmark, -⟩ := bearerBlock_written hb
    exact pathStart_noOverlap h (.inr (.inl (hmark hmask)))) hbearer
  exact hfirst (@infix_of_infix_pass _ labeledRule _ _ (fun l b hb _ =>
    pathStart_noOverlap h (.inr (keyValueBlock_mask hb))) hlabeled)

/-- No text with the beginning of a secret key comes out of the last pass. -/
theorem no_key_left (input : List Char) : ¬ "sk-".toList <:+: redactSecretSegments input := by
  refine not_infix_pass (fun l b hb => segmentBlock_mark hb) (by decide)
    (noOverlap_of_ends ⟨'[', rfl, by decide⟩ ⟨']', rfl, by decide⟩ ⟨'s', by decide, by decide⟩) ?_
  intro rest hnone
  have hblock : segmentBlock ["sk-".toList] redactedMark ("sk-".toList ++ rest) =
      some ⟨0, redactedMark, sensitiveSegmentLen ("sk-".toList ++ rest)⟩ :=
    segmentBlock_eq_some.mpr
      ⟨⟨_, List.mem_cons_self, List.prefix_append _ rest⟩, rfl⟩
  exact absurd (hnone.symm.trans hblock) (by simp)

/-- A pass that finds nothing anywhere changes nothing. -/
theorem pass_eq_self {rule : Rule Char} {text : List Char}
    (h : ∀ part, part <:+ text → rule.block part = none) : rule.pass text = text := by
  have hcopy := @pass_append_of_none _ rule text []
    fun part _ hpart => by rw [List.append_nil]; exact h part hpart
  rw [List.append_nil, pass_nil, List.append_nil] at hcopy
  exact hcopy

/-- The pass over segments changes nothing exactly if none of the beginnings occurs. -/
theorem segmentBlock_none_iff {starts : List (List Char)} {replacement text : List Char} :
    (∀ part, part <:+ text → segmentBlock starts replacement part = none) ↔
      ∀ start ∈ starts, ¬ start <:+: text := by
  constructor
  · rintro hnone start hstart hin
    obtain ⟨part, hprefix, hsuffix⟩ := List.infix_iff_prefix_suffix.mp hin
    have hblock := segmentBlock_eq_some.mpr
      ⟨⟨start, hstart, hprefix⟩, (rfl : _ = Block.mk 0 replacement (sensitiveSegmentLen part))⟩
    rw [hnone part hsuffix] at hblock
    cases hblock
  · intro hplain part hpart
    cases hb : segmentBlock starts replacement part with
    | none => rfl
    | some b =>
        obtain ⟨⟨start, hstart, hin⟩, -⟩ := segmentBlock_eq_some.mp hb
        exact absurd (hin.isInfix.trans hpart.isInfix) (hplain start hstart)

/-- The pass over labels changes nothing exactly if there is neither a label with a separator nor
a label before something like a token. -/
theorem labeledBlock_none_iff {text : List Char} :
    (∀ part, part <:+ text → keyValueBlock secretLabels part = none) ↔
      (∀ x, LabelHead x → ¬ x <:+: text) ∧ ∀ x, LabelledToken x → ¬ x <:+: text := by
  constructor
  · intro hnone
    constructor
    · intro x hx hin
      obtain ⟨part, ⟨rest, rfl⟩, hsuffix⟩ := List.infix_iff_prefix_suffix.mp hin
      exact labeledBlock_ne_none hx (hnone _ hsuffix)
    · intro x hx hin
      obtain ⟨part, ⟨rest, rfl⟩, hsuffix⟩ := List.infix_iff_prefix_suffix.mp hin
      exact labeledBlock_token_ne_none hx (hnone _ hsuffix)
  · rintro ⟨hlabel, htoken⟩ part hpart
    cases hb : keyValueBlock secretLabels part with
    | none => rfl
    | some b =>
        obtain ⟨l, ws, rest, hl, hws, rfl, hwritten⟩ := labeledBlock_written hb
        -- a block is written behind a separator, or before a word that looks like a token
        rcases hwritten with ⟨sep, rest', -, hsep, -, rfl, -⟩ | ⟨hne, -, hlooks, -⟩
        · refine absurd ?_ (hlabel _ ⟨l, ws, sep, hl, hws, hsep, rfl⟩)
          refine List.IsInfix.trans (List.IsPrefix.isInfix ⟨rest', ?_⟩) hpart.isInfix
          simp only [List.append_assoc, List.cons_append, List.nil_append]
        · have hplain : ∀ c ∈ rest.take (sensitiveSegmentLen rest),
              sensitiveSegmentDelimiter c = false := by
            intro c hc
            have htake : rest.take (sensitiveSegmentLen rest) =
                rest.takeWhile fun ch => !sensitiveSegmentDelimiter ch :=
              (List.prefix_iff_eq_take.mp (List.takeWhile_prefix _)).symm
            rw [htake] at hc
            simpa using List.mem_takeWhile_imp hc
          refine absurd ?_ (htoken _ ⟨l, ws, _, hl, hws, hne, hplain, hlooks, rfl⟩)
          refine List.IsInfix.trans (List.IsPrefix.isInfix ?_) hpart.isInfix
          rw [List.prefix_append_right_inj, List.prefix_append_right_inj]
          exact List.take_prefix _ _

/-- The pass over bearer values changes nothing exactly if no `bearer` stands before whitespace.
-/
theorem bearerBlock_none_iff {text : List Char} :
    (∀ part, part <:+ text → bearerBlock part = none) ↔ ∀ x, BearerHead x → ¬ x <:+: text := by
  constructor
  · intro hnone x hx hin
    obtain ⟨part, ⟨rest, rfl⟩, hsuffix⟩ := List.infix_iff_prefix_suffix.mp hin
    exact bearerBlock_ne_none hx (hnone _ hsuffix)
  · intro hplain part hpart
    cases hb : bearerBlock part with
    | none => rfl
    | some b =>
        obtain ⟨scheme, ws, rest, hscheme, hws, hne, rfl, -⟩ := bearerBlock_written hb
        obtain ⟨c, ws, rfl⟩ := List.exists_cons_of_ne_nil hne
        refine absurd ?_ (hplain _ ⟨scheme, c, hscheme, hws c List.mem_cons_self, rfl⟩)
        refine List.IsInfix.trans (List.IsPrefix.isInfix ⟨ws ++ rest, ?_⟩) hpart.isInfix
        simp only [List.append_assoc, List.cons_append, List.nil_append]

/-- No pass begins to mask anywhere in a plain text, and only in such a text. -/
theorem plainReason_iff {text : List Char} :
    PlainReason text ↔ ∀ part, part <:+ text →
      segmentBlock pathStarts redactedPathMark part = none ∧
        keyValueBlock secretLabels part = none ∧ bearerBlock part = none ∧
        segmentBlock ["sk-".toList] redactedMark part = none := by
  simp only [imp_and, forall_and, segmentBlock_none_iff, labeledBlock_none_iff,
    bearerBlock_none_iff, List.forall_mem_singleton]
  constructor
  · exact fun h => ⟨h.no_path, ⟨h.no_label, h.no_token⟩, h.no_bearer, h.no_key⟩
  · rintro ⟨hpath, ⟨hlabel, htoken⟩, hbearer, hkey⟩
    exact ⟨hpath, hkey, hlabel, htoken, hbearer⟩

/-- Nothing is changed in a plain text. -/
theorem PlainReason.unchanged {reason : String} (h : PlainReason reason.toList) :
    redactManagementReason reason = reason := by
  have hnone := plainReason_iff.mp h
  have hpath : redactPathSegments reason.toList = reason.toList :=
    pass_eq_self fun part hpart => (hnone part hpart).1
  have hlabeled : redactLabeledSecretValues reason.toList = reason.toList :=
    pass_eq_self fun part hpart => (hnone part hpart).2.1
  have hbearer : redactBearerSecretValues reason.toList = reason.toList :=
    pass_eq_self fun part hpart => (hnone part hpart).2.2.1
  have hsecret : redactSecretSegments reason.toList = reason.toList :=
    pass_eq_self fun part hpart => (hnone part hpart).2.2.2
  unfold redactManagementReason
  rw [hpath, hlabeled, hbearer, hsecret, String.ofList_toList]

/-- All four passes together: each keeps what the ones before it have masked. -/
theorem reasonMasked_redact (reason : String) :
    ReasonMasked (redactManagementReason reason).toList := by
  unfold redactManagementReason
  rw [String.toList_ofList]
  exact {
    no_path := fun start h => no_path_left h reason.toList
    no_key := no_key_left _
    labels := follows_labels_secret (follows_labels_bearer (follows_labels_labeled _))
    bearers := follows_bearers_secret (follows_bearers_bearer _) }

/-- The reason that is shown has no start of a path or of a key in it and masks what is
labelled with a separator; it is the reason itself if no pass has a place to mask. -/
theorem management_reason_masked (reason : String) :
    ReasonMasked (redactManagementReason reason).toList ∧
      (PlainReason reason.toList → redactManagementReason reason = reason) :=
  ⟨reasonMasked_redact reason, PlainReason.unchanged⟩

/-- Labels and a scheme that label nothing.  What follows the `key` of `monkey` and the `token`
does not look like a secret, and nothing follows the scheme, so the text comes back as it was. -/
theorem management_reason_masked_plain :
    redactManagementReason "monkey token, rotated by its bearer" =
      "monkey token, rotated by its bearer" := by
  refine (management_reason_masked "monkey token, rotated by its bearer").2 ?_
  rw [plainReason_iff]
  intro part hpart
  rw [← List.mem_tails] at hpart
  revert part
  decide +kernel

example : redactManagementReason "token = sk-abc in /etc/keys" =
    "token = [redacted] in [redacted-path]" := by decide +kernel

example : redactManagementReason "token abc-1" = "token [redacted]" := by decide +kernel

end OneAiKey
