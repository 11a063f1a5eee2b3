/-
  OneAiKey.Lib.Redaction — replacing the occurrences of a pattern in a list
  that arrives in units.

  Occurrences are found with some elements hidden: `pieces` is what lies
  between the occurrences of the pattern, taken from the left, each from its
  first to its last visible element; a redaction joins the pieces with the
  replacement.

    * `not_infix_of_mem_pieces` — the pattern occurs in no piece;
    * `NoOverlap.infix_around` — a pattern that does not overlap the
      replacement occurs beside the replacement or not at all;
    * `not_infix_written_iff` — when units are redacted one by one, the pattern
      occurs in what is written exactly if it occurs in a piece or across the
      border of two units, between the last piece of the one and the first of
      the other.
-/
import Mathlib.Data.List.Chain
import Mathlib.Data.List.Infix

namespace Redaction

variable {α : Type}

/-! ## §1. The first occurrence. -/

section FirstOccurrence

variable [DecidableEq α]

/-- The search finds the leftmost occurrence. -/
theorem dropInfix_eq_some_iff {pattern l before behind : List α} :
    l.dropInfix? pattern = some (before, behind) ↔
      l = before ++ pattern ++ behind ∧
        ∀ before' behind', l = before' ++ pattern ++ behind' → before.length ≤ before'.length := by
  rw [List.dropInfix?_eq_some_iff]
  constructor
  · rintro ⟨⟨pattern', hl, heq⟩, hfirst⟩
    obtain rfl := eq_of_beq heq
    exact ⟨hl, fun before' behind' h => hfirst before' pattern' behind' h heq⟩
  · rintro ⟨hl, hfirst⟩
    refine ⟨⟨pattern, hl, BEq.rfl⟩, ?_⟩
    intro before' pattern' behind' h heq
    obtain rfl := eq_of_beq heq
    exact hfirst before' behind' h

/-- The search finds nothing exactly if there is no occurrence. -/
theorem dropInfix_eq_none_iff {pattern l : List α} :
    l.dropInfix? pattern = none ↔ ¬ pattern <:+: l := by
  -- the search collects what it has passed, which does not decide anything
  suffices hgo : ∀ acc, List.dropInfix?.go pattern l acc = none ↔ ¬ pattern <:+: l from hgo []
  induction l with
  | nil =>
      intro acc
      cases pattern with
      | nil => simp [List.dropInfix?.go]
      | cons a pattern => simp [List.dropInfix?.go]
  | cons a l ih =>
      intro acc
      rw [List.infix_cons_iff, not_or, ← ih (a :: acc)]
      show (match (a :: l).dropPrefix? pattern with
        | none => List.dropInfix?.go pattern l (a :: acc)
        | some behind => some (acc.reverse, behind)) = none ↔ _
      cases hstarts : (a :: l).dropPrefix? pattern with
      | none =>
          have hnot : ¬ pattern <+: a :: l := by
            rintro ⟨behind, h⟩
            have hsome := List.dropPrefix?_eq_some_iff.mpr ⟨pattern, h.symm, BEq.rfl⟩
            rw [hsome] at hstarts
            cases hstarts
          simp only [hnot, not_false_eq_true, true_and]
      | some behind =>
          obtain ⟨pattern', h, heq⟩ := List.dropPrefix?_eq_some_iff.mp hstarts
          obtain rfl := eq_of_beq heq
          have hyes : pattern' <+: a :: l := ⟨behind, h.symm⟩
          simp only [hyes, not_true_eq_false, false_and, reduceCtorEq]

/-- There is no occurrence before the first one. -/
theorem not_infix_before {pattern l before behind : List α} (hpattern : pattern ≠ [])
    (h : l.dropInfix? pattern = some (before, behind)) : ¬ pattern <:+: before := by
  obtain ⟨hl, hfirst⟩ := dropInfix_eq_some_iff.mp h
  rintro ⟨left, right, rfl⟩
  have hle := hfirst left (right ++ pattern ++ behind) (by rw [hl]; simp only [List.append_assoc])
  have hpos := List.length_pos_iff.mpr hpattern
  simp only [List.length_append] at hle
  omega

/-- The first occurrence is found whatever stands behind it. -/
theorem dropInfix_append_iff {pattern before behind : List α} :
    (before ++ pattern ++ behind).dropInfix? pattern = some (before, behind) ↔
      (before ++ pattern).dropInfix? pattern = some (before, []) := by
  rw [dropInfix_eq_some_iff, dropInfix_eq_some_iff, List.append_nil]
  constructor
  · rintro ⟨-, hfirst⟩
    refine ⟨rfl, ?_⟩
    intro before' behind' h
    exact hfirst before' (behind' ++ behind) (by rw [h]; simp only [List.append_assoc])
  · rintro ⟨-, hfirst⟩
    refine ⟨rfl, ?_⟩
    intro before' behind' h
    by_contra hless
    -- an earlier occurrence also ends earlier
    have hwithin : before' ++ pattern <+: before ++ pattern := by
      apply List.prefix_of_prefix_length_le ⟨behind', h.symm⟩ (List.prefix_append _ behind)
      rw [List.length_append, List.length_append]
      omega
    obtain ⟨more, hmore⟩ := hwithin
    exact hless (hfirst before' more hmore.symm)

/-- What a search from the left has passed, occurrence by occurrence. -/
inductive PassedOver (pattern : List α) : List α → Prop where
  | start : PassedOver pattern []
  | occurrence {l before : List α} : PassedOver pattern l →
      (before ++ pattern).dropInfix? pattern = some (before, []) →
      PassedOver pattern (l ++ before ++ pattern)

/-- It ends in an occurrence. -/
theorem PassedOver.suffix {pattern l : List α} (h : PassedOver pattern l) (hl : l ≠ []) :
    pattern <:+ l := by
  cases h with
  | start => exact absurd rfl hl
  | occurrence _ _ => exact List.suffix_append _ _

end FirstOccurrence

/-! ## §2. Pieces between occurrences. -/

/-- The piece before the first match. -/
def firstPiece (unit : List (List α)) : List α := unit.headD []

/-- The piece behind the last match. -/
def lastPiece (unit : List (List α)) : List α := unit.getLastD []

theorem lastPiece_eq_getLast {unit : List (List α)} (h : unit ≠ []) :
    lastPiece unit = unit.getLast h := by
  unfold lastPiece
  rw [List.getLastD_eq_getLast?, List.getLast?_eq_some_getLast h]
  rfl

theorem lastPiece_mem {unit : List (List α)} (h : unit ≠ []) : lastPiece unit ∈ unit := by
  rw [lastPiece_eq_getLast h]
  exact List.getLast_mem h

theorem firstPiece_mem {unit : List (List α)} (h : unit ≠ []) : firstPiece unit ∈ unit := by
  obtain ⟨piece, unit, rfl⟩ := List.exists_cons_of_ne_nil h
  exact List.mem_cons_self

section Pieces

variable (hidden : α → Bool)

/-- What is left without the hidden elements. -/
def visible (l : List α) : List α := l.filter fun a => !hidden a

/-- What stands before the visible element number `n`. -/
def beforeVisible : Nat → List α → List α
  | _, [] => []
  | n, a :: l =>
      if hidden a then a :: beforeVisible n l
      else match n with
        | 0 => []
        | n + 1 => a :: beforeVisible n l

/-- What follows the first `n` visible elements. -/
def afterVisible : Nat → List α → List α
  | 0, l => l
  | _ + 1, [] => []
  | n + 1, a :: l => if hidden a then afterVisible (n + 1) l else afterVisible n l

variable {hidden}

@[simp] theorem visible_nil : visible hidden ([] : List α) = [] := rfl

theorem visible_append (l l' : List α) :
    visible hidden (l ++ l') = visible hidden l ++ visible hidden l' := List.filter_append l l'

theorem visible_cons_hidden {a : α} (h : hidden a = true) (l : List α) :
    visible hidden (a :: l) = visible hidden l := by
  unfold visible
  rw [List.filter_cons, h]
  rfl

theorem visible_cons_visible {a : α} (h : hidden a = false) (l : List α) :
    visible hidden (a :: l) = a :: visible hidden l := by
  unfold visible
  rw [List.filter_cons, h]
  rfl

/-- A pattern of visible elements. -/
theorem visible_eq_self {pattern : List α} (h : ∀ a ∈ pattern, hidden a = false) :
    visible hidden pattern = pattern := by
  refine List.filter_eq_self.mpr ?_
  intro a ha
  rw [h a ha]
  rfl

@[simp] theorem afterVisible_zero (l : List α) : afterVisible hidden 0 l = l := by
  cases l with
  | nil => rfl
  | cons a l => rfl

/-- The part before a number of visible elements has just these. -/
theorem visible_beforeVisible (n : Nat) (l : List α) :
    visible hidden (beforeVisible hidden n l) = (visible hidden l).take n := by
  induction l generalizing n with
  | nil => rw [beforeVisible, visible_nil, List.take_nil]
  | cons a l ih =>
      cases ha : hidden a with
      | true =>
          unfold beforeVisible
          rw [if_pos ha, visible_cons_hidden ha, visible_cons_hidden ha, ih]
      | false =>
          rw [visible_cons_visible ha]
          cases n with
          | zero =>
              unfold beforeVisible
              rw [ha]
              rfl
          | succ n =>
              unfold beforeVisible
              rw [ha, List.take_succ_cons, ← ih]
              exact visible_cons_visible ha _

/-- The part behind a number of visible elements has the others. -/
theorem visible_afterVisible (n : Nat) (l : List α) :
    visible hidden (afterVisible hidden n l) = (visible hidden l).drop n := by
  induction l generalizing n with
  | nil => cases n with
    | zero => rfl
    | succ n => rfl
  | cons a l ih =>
      cases n with
      | zero => rfl
      | succ n =>
          cases ha : hidden a with
          | true => rw [afterVisible, if_pos ha, visible_cons_hidden ha, ih]
          | false =>
              rw [afterVisible, ha, visible_cons_visible ha, List.drop_succ_cons, ← ih]
              rfl

/-- The part behind a number of visible elements ends the list. -/
theorem afterVisible_suffix (n : Nat) (l : List α) : afterVisible hidden n l <:+ l := by
  induction l generalizing n with
  | nil => cases n with
    | zero => exact List.suffix_rfl
    | succ n => exact List.suffix_rfl
  | cons a l ih =>
      cases n with
      | zero => exact List.suffix_rfl
      | succ n =>
          unfold afterVisible
          split
          · exact (ih (n + 1)).trans (List.suffix_cons a l)
          · exact (ih n).trans (List.suffix_cons a l)

/-- The part behind at least one visible element is shorter, so that the search comes to an end.
-/
theorem length_afterVisible_lt {n : Nat} {l : List α} (hn : n ≠ 0) (hl : l ≠ []) :
    (afterVisible hidden n l).length < l.length := by
  obtain ⟨a, l, rfl⟩ := List.exists_cons_of_ne_nil hl
  obtain ⟨n, rfl⟩ := Nat.exists_eq_succ_of_ne_zero hn
  unfold afterVisible
  rw [List.length_cons]
  split
  · exact Nat.lt_succ_of_le (afterVisible_suffix _ l).length_le
  · exact Nat.lt_succ_of_le (afterVisible_suffix _ l).length_le

/-- The visible element number `n` follows what stands before it. -/
theorem exists_beforeVisible {n : Nat} {l : List α} (hn : n < (visible hidden l).length) :
    ∃ a behind, l = beforeVisible hidden n l ++ a :: behind ∧ hidden a = false := by
  induction l generalizing n with
  | nil => exact absurd hn (Nat.not_lt_zero n)
  | cons a l ih =>
      cases ha : hidden a with
      | true =>
          rw [visible_cons_hidden ha] at hn
          obtain ⟨a', behind, hl, ha'⟩ := ih hn
          refine ⟨a', behind, ?_, ha'⟩
          unfold beforeVisible
          rw [if_pos ha, List.cons_append, ← hl]
      | false =>
          rw [visible_cons_visible ha, List.length_cons] at hn
          cases n with
          -- nothing more to pass: this is the element
          | zero =>
              refine ⟨a, l, ?_, ha⟩
              unfold beforeVisible
              rw [ha]
              rfl
          | succ n =>
              obtain ⟨a', behind, hl, ha'⟩ := ih (Nat.lt_of_succ_lt_succ hn)
              refine ⟨a', behind, ?_, ha'⟩
              unfold beforeVisible
              rw [ha]
              exact congrArg (a :: ·) hl

/-- The last of the first `n` visible elements precedes what follows them. -/
theorem exists_afterVisible {n : Nat} {l : List α} (hpos : n ≠ 0)
    (hn : n ≤ (visible hidden l).length) :
    ∃ before a, l = before ++ a :: afterVisible hidden n l ∧ hidden a = false := by
  induction l generalizing n with
  | nil => exact absurd (Nat.le_zero.mp hn) hpos
  | cons a l ih =>
      obtain ⟨n, rfl⟩ := Nat.exists_eq_succ_of_ne_zero hpos
      cases ha : hidden a with
      | true =>
          rw [visible_cons_hidden ha] at hn
          obtain ⟨before, a', hl, ha'⟩ := ih hpos hn
          refine ⟨a :: before, a', ?_, ha'⟩
          unfold afterVisible
          rw [if_pos ha, List.cons_append, ← hl]
      | false =>
          rw [visible_cons_visible ha, List.length_cons] at hn
          have hrest : afterVisible hidden (n + 1) (a :: l) = afterVisible hidden n l := by
            conv_lhs => unfold afterVisible
            rw [ha]
            rfl
          rw [hrest]
          -- the last of the visible elements to pass is this one, or it comes later
          by_cases hzero : n = 0
          · subst hzero
            rw [afterVisible_zero]
            exact ⟨[], a, rfl, ha⟩
          · obtain ⟨before, a', hl, ha'⟩ := ih hzero (Nat.le_of_succ_le_succ hn)
            exact ⟨a :: before, a', congrArg (a :: ·) hl, ha'⟩

/-- An occurrence among the visible elements, from its first to its last element. -/
theorem exists_occurrence {pattern l before behind : List α} (hpattern : pattern ≠ [])
    (h : visible hidden l = before ++ pattern ++ behind) :
    ∃ occurrence, l = beforeVisible hidden before.length l ++ occurrence ++
          afterVisible hidden (before.length + pattern.length) l ∧
        visible hidden occurrence = pattern ∧
        (∃ a right, occurrence = a :: right ∧ hidden a = false) ∧
        ∃ left a, occurrence = left ++ [a] ∧ hidden a = false := by
  have hpos := List.length_pos_iff.mpr hpattern
  have hlength := congrArg List.length h
  simp only [List.length_append] at hlength
  have hfound : before.length < (visible hidden l).length := by omega
  have hpassed : before.length + pattern.length ≤ (visible hidden l).length := by omega
  obtain ⟨a, right, hfirst, ha⟩ := exists_beforeVisible hfound
  obtain ⟨left, b, hlast, hb⟩ := exists_afterVisible (by omega) hpassed
  have hbefore : visible hidden (beforeVisible hidden before.length l) = before := by
    rw [visible_beforeVisible, h, List.append_assoc, List.take_left]
  have hbehind :
      visible hidden (afterVisible hidden (before.length + pattern.length) l) = behind := by
    rw [visible_afterVisible, h, ← List.length_append, List.drop_left]
  generalize beforeVisible hidden before.length l = start at *
  generalize afterVisible hidden (before.length + pattern.length) l = rest at *
  have hupto : left ++ [b] <+: l := ⟨rest, by rw [hlast]; simp⟩
  have hvisible : visible hidden (left ++ [b]) = before ++ pattern := by
    have hall : visible hidden l = visible hidden (left ++ [b]) ++ visible hidden rest := by
      rw [← visible_append, List.append_assoc]
      exact congrArg (visible hidden) hlast
    rw [hbehind, h] at hall
    exact (List.append_cancel_right hall).symm
  have hstart : start <+: l := ⟨a :: right, hfirst.symm⟩
  -- the occurrence is what lies between the two cuts
  rcases List.prefix_or_prefix_of_prefix hstart hupto with ⟨occurrence, hocc⟩ | hshort
  · have hpart : visible hidden occurrence = pattern := by
      rw [← hocc, visible_append, hbefore] at hvisible
      exact List.append_cancel_left hvisible
    have hne : occurrence ≠ [] := by
      rintro rfl
      exact hpattern hpart.symm
    refine ⟨occurrence, ?_, hpart, ?_, ?_⟩
    · rw [hocc, List.append_assoc]
      exact hlast
    · obtain ⟨c, occurrence, rfl⟩ := List.exists_cons_of_ne_nil hne
      have hl : start ++ (c :: occurrence ++ rest) = start ++ a :: right := by
        rw [← hfirst, ← List.append_assoc, hocc, List.append_assoc]
        exact hlast.symm
      obtain ⟨rfl, -⟩ := List.cons.inj (List.append_cancel_left hl)
      exact ⟨c, occurrence, rfl, ha⟩
    · obtain ⟨init, c, rfl⟩ : ∃ init c, occurrence = init ++ [c] :=
        ⟨_, _, (List.dropLast_append_getLast hne).symm⟩
      rw [← List.append_assoc] at hocc
      obtain ⟨-, hlast'⟩ := List.append_inj' hocc rfl
      obtain rfl := List.singleton_inj.mp hlast'
      exact ⟨init, c, rfl, hb⟩
  · have hle := (hshort.filter fun a => !hidden a).length_le
    have hcount : (before ++ pattern).length ≤ before.length := by
      rw [← hvisible, ← congrArg List.length hbefore]
      exact hle
    rw [List.length_append] at hcount
    omega

variable [DecidableEq α]

/-- Where the pattern is found, something follows the place the search goes on from. -/
theorem length_afterVisible_occurrence {pattern l before behind : List α} (hpattern : pattern ≠ [])
    (h : (visible hidden l).dropInfix? pattern = some (before, behind)) :
    (afterVisible hidden (before.length + pattern.length) l).length < l.length := by
  have hpos := List.length_pos_iff.mpr hpattern
  refine length_afterVisible_lt (by omega) ?_
  rintro rfl
  obtain ⟨hnil, -⟩ := dropInfix_eq_some_iff.mp h
  rw [visible_nil] at hnil
  simp [hpattern] at hnil

variable (hidden) in
/-- The pieces of a list between the occurrences of the pattern. -/
def pieces (pattern l : List α) : List (List α) :=
  if hpattern : pattern = [] then [l]
  else match h : (visible hidden l).dropInfix? pattern with
    | none => [l]
    | some (before, _) =>
        have := length_afterVisible_occurrence hpattern h
        beforeVisible hidden before.length l ::
          pieces pattern (afterVisible hidden (before.length + pattern.length) l)
termination_by l.length

/-- Without a match the text is one piece. -/
theorem pieces_of_none {pattern l : List α} (h : (visible hidden l).dropInfix? pattern = none) :
    pieces hidden pattern l = [l] := by
  unfold pieces
  split
  · rfl
  · split
    · rfl
    · next h' => rw [h] at h'; cases h'

/-- At a match a piece ends, and the search goes on behind it. -/
theorem pieces_of_some {pattern l before behind : List α} (hpattern : pattern ≠ [])
    (h : (visible hidden l).dropInfix? pattern = some (before, behind)) :
    pieces hidden pattern l = beforeVisible hidden before.length l ::
      pieces hidden pattern (afterVisible hidden (before.length + pattern.length) l) := by
  conv => lhs; unfold pieces
  rw [dif_neg hpattern]
  split
  · next h' => rw [h] at h'; cases h'
  · next h' =>
      rw [h] at h'
      cases h'
      rfl

theorem pieces_ne_nil (pattern l : List α) : pieces hidden pattern l ≠ [] := by
  unfold pieces
  split
  · exact List.cons_ne_nil _ _
  · split <;> exact List.cons_ne_nil _ _

/-- A single piece is the list itself. -/
theorem eq_of_pieces_eq_singleton {pattern l piece : List α}
    (h : pieces hidden pattern l = [piece]) : piece = l := by
  by_cases hpattern : pattern = []
  · unfold pieces at h
    rw [dif_pos hpattern] at h
    exact (List.singleton_inj.mp h).symm
  · cases hfind : (visible hidden l).dropInfix? pattern with
    | none =>
        rw [pieces_of_none hfind] at h
        exact (List.singleton_inj.mp h).symm
    | some found =>
        rw [pieces_of_some hpattern hfind] at h
        exact absurd (List.cons.inj h).2 (pieces_ne_nil _ _)

/-- The first piece begins the list. -/
theorem firstPiece_pieces_prefix (pattern l : List α) :
    firstPiece (pieces hidden pattern l) <+: l := by
  by_cases hpattern : pattern = []
  · unfold pieces
    rw [dif_pos hpattern]
    exact List.prefix_rfl
  · cases hfind : (visible hidden l).dropInfix? pattern with
    | none =>
        rw [pieces_of_none hfind]
        exact List.prefix_rfl
    | some found =>
        obtain ⟨before, behind⟩ := found
        have hfound : before.length < (visible hidden l).length := by
          have hpos := List.length_pos_iff.mpr hpattern
          rw [(dropInfix_eq_some_iff.mp hfind).1, List.length_append, List.length_append]
          omega
        obtain ⟨a, rest, hl, -⟩ := exists_beforeVisible hfound
        rw [pieces_of_some hpattern hfind]
        exact ⟨a :: rest, hl.symm⟩

/-- The last piece ends the list. -/
theorem lastPiece_pieces_suffix (pattern l : List α) :
    lastPiece (pieces hidden pattern l) <:+ l := by
  fun_induction pieces hidden pattern l with
  | case1 l => exact List.suffix_rfl
  | case2 l _ hfind => exact List.suffix_rfl
  | case3 l _ before behind hfind hless ih =>
      have hrest := ih.trans (afterVisible_suffix (before.length + pattern.length) l)
      obtain ⟨piece, rest, hpieces⟩ := List.exists_cons_of_ne_nil
        (@pieces_ne_nil α hidden _ pattern
          (afterVisible hidden (before.length + pattern.length) l))
      rw [hpieces] at hrest ⊢
      exact hrest

/-- The pattern occurs in no piece. -/
theorem not_infix_of_mem_pieces {pattern : List α} (hpattern : pattern ≠ [])
    (hvisible : ∀ a ∈ pattern, hidden a = false) (l : List α) :
    ∀ piece ∈ pieces hidden pattern l, ¬ pattern <:+: piece := by
  have hfree {piece : List α} (h : ¬ pattern <:+: visible hidden piece) :
      ¬ pattern <:+: piece := by
    intro hin
    have hfilter : visible hidden pattern <:+: visible hidden piece := hin.filter _
    rw [visible_eq_self hvisible] at hfilter
    exact h hfilter
  fun_induction pieces hidden pattern l with
  | case1 l hnil => exact absurd hnil hpattern
  | case2 l _ hfind =>
      intro piece hpiece
      rw [List.mem_singleton.mp hpiece]
      exact hfree (dropInfix_eq_none_iff.mp hfind)
  | case3 l _ before behind hfind hless ih =>
      intro piece hpiece
      rcases List.mem_cons.mp hpiece with rfl | hpiece
      -- the first match begins behind this piece
      · apply hfree
        obtain ⟨hl, -⟩ := dropInfix_eq_some_iff.mp hfind
        rw [visible_beforeVisible, hl, List.append_assoc, List.take_left]
        exact not_infix_before hpattern hfind
      · exact ih piece hpiece

/-! Where nothing is hidden. -/

section NothingHidden

variable {pattern l : List α} (h : ∀ a ∈ l, hidden a = false)

omit [DecidableEq α] in
include h in

/-- Where nothing is hidden, the part before is counted off. -/
theorem beforeVisible_of_visible (n : Nat) : beforeVisible hidden n l = l.take n := by
  induction l generalizing n with
  | nil => rw [beforeVisible, List.take_nil]
  | cons a l ih =>
      obtain ⟨ha, hl⟩ := List.forall_mem_cons.mp h
      unfold beforeVisible
      rw [ha]
      cases n with
      | zero => rfl
      | succ n => exact congrArg (a :: ·) (ih hl n)

omit [DecidableEq α] in
include h in

/-- Where nothing is hidden, the part behind is what is left. -/
theorem afterVisible_of_visible (n : Nat) : afterVisible hidden n l = l.drop n := by
  induction l generalizing n with
  | nil => cases n with
    | zero => rfl
    | succ n => rfl
  | cons a l ih =>
      obtain ⟨ha, hl⟩ := List.forall_mem_cons.mp h
      cases n with
      | zero => rfl
      | succ n =>
          unfold afterVisible
          rw [ha]
          exact ih hl n

include h in
/-- The pieces before and behind the first occurrence. -/
theorem pieces_of_first (hpattern : pattern ≠ []) {before behind : List α}
    (hfound : l.dropInfix? pattern = some (before, behind)) :
    pieces hidden pattern l = before :: pieces hidden pattern behind := by
  have hsplit := (dropInfix_eq_some_iff.mp hfound).1
  rw [← visible_eq_self h] at hfound
  rw [pieces_of_some hpattern hfound, beforeVisible_of_visible h, afterVisible_of_visible h,
    ← List.length_append, hsplit, List.drop_left, List.append_assoc, List.take_left]

/-- What is hidden elsewhere makes no difference. -/
theorem pieces_of_visible (hpattern : pattern ≠ []) {hidden' : α → Bool} {l : List α}
    (h : ∀ a ∈ l, hidden a = false) (h' : ∀ a ∈ l, hidden' a = false) :
    pieces hidden pattern l = pieces hidden' pattern l := by
  cases hfound : l.dropInfix? pattern with
  | none =>
      rw [pieces_of_none (by rw [visible_eq_self h]; exact hfound),
        pieces_of_none (by rw [visible_eq_self h']; exact hfound)]
  | some found =>
      obtain ⟨before, behind⟩ := found
      have hsplit := (dropInfix_eq_some_iff.mp hfound).1
      have hpos := List.length_pos_iff.mpr hpattern
      have hbehind : ∀ a ∈ behind, a ∈ l := fun a ha => by
        rw [hsplit]
        exact List.mem_append_right _ ha
      have hshorter : behind.length < l.length := by
        rw [hsplit]
        simp only [List.length_append]
        omega
      rw [pieces_of_first h hpattern hfound, pieces_of_first h' hpattern hfound,
        pieces_of_visible hpattern (fun a ha => h a (hbehind a ha))
          (fun a ha => h' a (hbehind a ha))]
termination_by l.length

/-- Joined by the pattern, the pieces are the list again. -/
theorem intercalate_pieces (hpattern : pattern ≠ []) {l : List α}
    (h : ∀ a ∈ l, hidden a = false) : pattern.intercalate (pieces hidden pattern l) = l := by
  cases hfound : l.dropInfix? pattern with
  | none =>
      rw [pieces_of_none (by rw [visible_eq_self h]; exact hfound), List.intercalate_singleton]
  | some found =>
      obtain ⟨before, behind⟩ := found
      have hsplit := (dropInfix_eq_some_iff.mp hfound).1
      have hpos := List.length_pos_iff.mpr hpattern
      have hbehind : ∀ a ∈ behind, hidden a = false := fun a ha => h a (by
        rw [hsplit]
        exact List.mem_append_right _ ha)
      have hshorter : behind.length < l.length := by
        rw [hsplit]
        simp only [List.length_append]
        omega
      rw [pieces_of_first h hpattern hfound,
        List.intercalate_cons_of_ne_nil (pieces_ne_nil _ _), intercalate_pieces hpattern hbehind]
      exact hsplit.symm
termination_by l.length

/-- In the pattern itself nothing stands beside the occurrence. -/
theorem pieces_self (hpattern : pattern ≠ []) (h : ∀ a ∈ pattern, hidden a = false) :
    pieces hidden pattern pattern = [[], []] := by
  have hfound : pattern.dropInfix? pattern = some ([], []) :=
    dropInfix_eq_some_iff.mpr ⟨by simp, fun _ _ _ => Nat.zero_le _⟩
  have hnone : (visible hidden []).dropInfix? pattern = none :=
    dropInfix_eq_none_iff.mpr fun hin => hpattern (List.infix_nil.mp hin)
  rw [pieces_of_first h hpattern hfound, pieces_of_none hnone]

end NothingHidden

end Pieces

/-! ## §3. Patterns that do not overlap the replacement. -/

/-- Neither of two lists contains the other, and no end of the one starts the other. -/
structure NoOverlap (pattern replacement : List α) : Prop where
  outside : ¬ pattern <:+: replacement
  inside : ¬ replacement <:+: pattern
  behind : ∀ part, part ≠ [] → part <+: pattern → ¬ part <:+ replacement
  before : ∀ part, part ≠ [] → part <:+ pattern → ¬ part <+: replacement

variable {pattern replacement : List α}

/-- Texts without a common element do not overlap. -/
theorem NoOverlap.of_disjoint (hpattern : pattern ≠ []) (hreplacement : replacement ≠ [])
    (hdisjoint : ∀ a ∈ pattern, a ∉ replacement) : NoOverlap pattern replacement := by
  have hshared : ∀ part : List α, part ≠ [] → part ⊆ pattern → ¬ part ⊆ replacement := by
    intro part hpart hleft hright
    obtain ⟨a, rest, rfl⟩ := List.exists_cons_of_ne_nil hpart
    exact hdisjoint a (hleft List.mem_cons_self) (hright List.mem_cons_self)
  constructor
  · exact fun hin => hshared pattern hpattern (List.Subset.refl _) hin.subset
  · exact fun hin => hshared replacement hreplacement hin.subset (List.Subset.refl _)
  · exact fun part hpart hleft hright => hshared part hpart hleft.subset hright.subset
  · exact fun part hpart hleft hright => hshared part hpart hleft.subset hright.subset

/-- The replacement separates what it stands between. -/
theorem NoOverlap.infix_around (h : NoOverlap pattern replacement) {left right : List α} :
    pattern <:+: left ++ (replacement ++ right) ↔ pattern <:+: left ∨ pattern <:+: right := by
  constructor
  · intro hin
    rcases List.infix_append_iff_ne_nil.mp hin with hleft | hin | ⟨v, w, -, hw, hvw, -, hstarts⟩
    · exact .inl hleft
    · rcases List.infix_append_iff_ne_nil.mp hin with hout | hright | ⟨v, w, hv, -, hvw, hend, -⟩
      · exact absurd hout h.outside
      · exact .inr hright
      · exact absurd hend (h.behind v hv ⟨w, hvw.symm⟩)
    · -- the part behind `left` starts the replacement or contains it
      rcases List.prefix_or_prefix_of_prefix hstarts (List.prefix_append replacement right) with
        hshort | hlong
      · exact absurd hshort (h.before w hw ⟨v, hvw.symm⟩)
      · refine absurd (hlong.isInfix.trans ?_) h.inside
        exact ⟨v, [], by rw [hvw, List.append_nil]⟩
  · rintro (hleft | hright)
    · exact hleft.trans List.infix_append_left
    · exact (hright.trans List.infix_append_right).trans List.infix_append_right

/-- An occurrence meets at most one border of a unit that is not inside the pattern. -/
theorem infix_beside {left unit right : List α} (hunit : ¬ unit <:+: pattern) :
    pattern <:+: left ++ (unit ++ right) ↔ pattern <:+: left ++ unit ∨ pattern <:+: unit ++ right := by
  constructor
  · intro hin
    rcases List.infix_append_iff.mp hin with hleft | hright | ⟨v, w, hvw, hsuffix, hstarts⟩
    · exact .inl (hleft.trans List.infix_append_left)
    · exact .inr hright
    · rcases List.prefix_or_prefix_of_prefix hstarts (List.prefix_append unit right) with
        hshort | hlong
      · exact .inl (List.infix_append_iff.mpr (.inr (.inr ⟨v, w, hvw, hsuffix, hshort⟩)))
      · refine absurd (hlong.isInfix.trans ?_) hunit
        exact ⟨v, [], by rw [hvw, List.append_nil]⟩
  · rintro (hleft | hright)
    · rw [← List.append_assoc]
      exact hleft.trans List.infix_append_left
    · exact hright.trans List.infix_append_right

/-! ## §4. Units that are redacted one by one. -/

/-- What is written for the pieces of each unit. -/
def written (replacement : List α) (units : List (List (List α))) : List α :=
  (units.map replacement.intercalate).flatten

theorem written_cons (unit : List (List α)) (units : List (List (List α))) :
    written replacement (unit :: units) =
      replacement.intercalate unit ++ written replacement units := rfl

/-- Before the replacement that follows a piece nothing else can end an occurrence. -/
theorem infix_intercalate_append (h : NoOverlap pattern replacement) {unit : List (List α)}
    (hne : unit ≠ []) {right : List α} :
    pattern <:+: replacement.intercalate unit ++ right ↔
      (∃ piece ∈ unit.dropLast, pattern <:+: piece) ∨ pattern <:+: lastPiece unit ++ right := by
  induction unit with
  | nil => exact absurd rfl hne
  | cons piece unit ih =>
      cases unit with
      | nil => simp [lastPiece]
      | cons piece' unit =>
          have hlast : lastPiece (piece :: piece' :: unit) = lastPiece (piece' :: unit) := rfl
          rw [List.intercalate_cons_cons, List.append_assoc, List.append_assoc, h.infix_around,
            ih (List.cons_ne_nil _ _), hlast, List.dropLast_cons_cons, List.exists_mem_cons_iff,
            or_assoc]

/-- What precedes the units can meet their first piece only. -/
theorem infix_append_written (h : NoOverlap pattern replacement)
    {units : List (List (List α))} (hne : ∀ unit ∈ units, unit ≠ [])
    (hlong : units.IsChain fun unit _ => ∀ piece, unit = [piece] → ¬ piece <:+: pattern)
    {left : List α} :
    pattern <:+: left ++ written replacement units ↔
      pattern <:+: left ++ firstPiece (units.headD []) ∨ pattern <:+: written replacement units := by
  match units with
  | [] =>
      have hnil : pattern <:+: ([] : List α) → pattern <:+: left := fun hin => by
        rw [List.infix_nil.mp hin]
        exact List.nil_infix
      show pattern <:+: left ++ [] ↔ pattern <:+: left ++ [] ∨ pattern <:+: []
      rw [List.append_nil]
      exact ⟨.inl, fun hor => hor.elim id hnil⟩
  | [] :: units => exact absurd rfl (hne [] List.mem_cons_self)
  | [piece] :: [] =>
      rw [written_cons, List.intercalate_singleton]
      show pattern <:+: left ++ (piece ++ []) ↔ pattern <:+: left ++ piece ∨ pattern <:+: piece ++ []
      rw [List.append_nil]
      exact ⟨.inl, fun hor => hor.elim id fun hin => hin.trans List.infix_append_right⟩
  -- a unit without a match is no part of the pattern, so no occurrence bridges it
  | [piece] :: unit :: units =>
      have hpiece := (List.isChain_cons_cons.mp hlong).1 piece rfl
      rw [written_cons, List.intercalate_singleton, infix_beside hpiece]
      rfl
  -- the first replacement separates what is left of it from the rest
  | (piece :: piece' :: pieces) :: units =>
      rw [written_cons, List.intercalate_cons_cons, List.append_assoc, List.append_assoc,
        h.infix_around, ← List.append_assoc left, h.infix_around]
      show _ ↔ pattern <:+: left ++ piece ∨ _
      constructor
      · rintro (hleft | hright)
        · exact .inl hleft
        · exact .inr (.inr hright)
      · rintro (hleft | hpiece | hright)
        · exact .inl hleft
        · exact .inl (hpiece.trans List.infix_append_right)
        · exact .inr hright

/-- The pattern occurs in what is written exactly if it occurs in a piece, or across the
border of two units. -/
theorem not_infix_written_iff (hpattern : pattern ≠ []) (h : NoOverlap pattern replacement)
    {units : List (List (List α))} (hne : ∀ unit ∈ units, unit ≠ [])
    (hlong : units.IsChain fun unit _ => ∀ piece, unit = [piece] → ¬ piece <:+: pattern) :
    ¬ pattern <:+: written replacement units ↔
      (∀ unit ∈ units, ∀ piece ∈ unit, ¬ pattern <:+: piece) ∧
        units.IsChain fun unit unit' => ¬ pattern <:+: lastPiece unit ++ firstPiece unit' := by
  induction units with
  | nil =>
      have hnil : ¬ pattern <:+: ([] : List α) := fun hin => hpattern (List.infix_nil.mp hin)
      simp [written, hnil]
  | cons unit units ih =>
      have hunit := hne unit List.mem_cons_self
      have hne' : ∀ unit ∈ units, unit ≠ [] := fun u hu => hne u (List.mem_cons_of_mem _ hu)
      have hlong' := hlong.of_cons
      rw [written_cons, infix_intercalate_append h hunit, infix_append_written h hne' hlong',
        not_or, not_or, ih hne' hlong', List.forall_mem_cons]
      -- the last piece of `unit` is free, or the first piece of `units` ends it
      have hlast : ∀ right, ¬ pattern <:+: lastPiece unit ++ right →
          ¬ pattern <:+: lastPiece unit := fun right hnot hin =>
        hnot (hin.trans List.infix_append_left)
      have hmem : ∀ piece, piece ∈ unit ↔ piece ∈ unit.dropLast ∨ piece = lastPiece unit := by
        intro piece
        conv_lhs => rw [← List.dropLast_append_getLast hunit, ← lastPiece_eq_getLast hunit]
        rw [List.mem_append, List.mem_singleton]
      cases units with
      | nil =>
          have hnone : firstPiece (([] : List (List (List α))).headD []) = [] := rfl
          rw [hnone, List.append_nil]
          simp only [hmem, List.IsChain.singleton, List.IsChain.nil,
            List.not_mem_nil]
          grind
      | cons unit' units =>
          rw [List.isChain_cons_cons]
          show _ ∧ ¬ pattern <:+: lastPiece unit ++ firstPiece unit' ∧ _ ↔ _
          simp only [hmem]
          have hthis := hlast (firstPiece unit')
          grind

end Redaction
