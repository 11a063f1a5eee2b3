/-
  OneAiKey.Lib.Masking — one pass over a list that copies it and writes masks.

  A rule looks at what is left of the input.  It has the first element copied,
  or it gives a block: elements to copy, a mask to write, elements to leave out.
  The pass goes on behind the block.

    * `suffix_pass` — what the output is from any of its places on: an output
      of a rest of the input, or a part of a block and such an output;
    * `prefix_of_prefix_pass` — a pattern that no mask starts in begins the
      output only where it begins the input;
    * `not_infix_pass` — a pattern that is masked wherever it begins is gone;
    * `infix_of_infix_pass` — a pattern that overlaps no mask is not created;
    * `follows_pass` — what stands behind a pattern goes on standing there.
-/
import OneAiKey.Lib.Redaction

namespace Masking

open Redaction

variable {α : Type}

/-! ## §1. Rules and passes. -/

theorem suffix_of_append {t front rest : List α} (h : t <:+ front ++ rest) :
    t <:+ rest ∨ ∃ s, s ≠ [] ∧ s <:+ front ∧ t = s ++ rest := by
  rcases List.suffix_or_suffix_of_suffix h (List.suffix_append front rest) with hrest | ⟨s, rfl⟩
  · exact .inl hrest
  · cases s with
    | nil => exact .inl (List.suffix_refl rest)
    | cons a s =>
        exact .inr ⟨a :: s, List.cons_ne_nil a s, List.suffix_append_self_iff.mp h, rfl⟩

theorem prefix_of_append {w front rest : List α} (h : w <+: front ++ rest) :
    w <+: front ∨ ∃ part, part ≠ [] ∧ part <+: rest ∧ w = front ++ part := by
  rcases List.prefix_or_prefix_of_prefix h (List.prefix_append front rest) with hfront | ⟨part, rfl⟩
  · exact .inl hfront
  · cases part with
    | nil => exact .inl (by rw [List.append_nil])
    | cons a part =>
        exact .inr ⟨a :: part, List.cons_ne_nil a part, (List.prefix_append_right_inj front).mp h, rfl⟩

/-- A list splits in one way before the first element without a property. -/
theorem span_unique {p : α → Bool} {front front' rest rest' : List α}
    (hfront : ∀ a ∈ front, p a = true) (hfront' : ∀ a ∈ front', p a = true)
    (hrest : ∀ a ∈ rest.head?, p a = false) (hrest' : ∀ a ∈ rest'.head?, p a = false)
    (h : front ++ rest = front' ++ rest') : front = front' ∧ rest = rest' := by
  have hspan : ∀ {a b : List α}, (∀ x ∈ a, p x = true) → (∀ x ∈ b.head?, p x = false) →
      (a ++ b).takeWhile p = a := by
    intro a b ha hb
    rw [List.takeWhile_append_of_pos ha]
    cases b with
    | nil => rw [List.takeWhile_nil, List.append_nil]
    | cons c b => rw [List.takeWhile_cons_of_neg (by rw [hb c rfl]; exact Bool.false_ne_true),
        List.append_nil]
  have hsame : front = front' := by
    rw [← hspan hfront hrest, ← hspan hfront' hrest', h]
  exact ⟨hsame, List.append_cancel_left (hsame ▸ h)⟩

theorem take_of_eq {l front rest : List α} {n : Nat} (h : l = front ++ rest)
    (hn : n = front.length) : l.take n = front := by
  rw [h, hn, List.take_left]

structure Block (α : Type) where
  keep : Nat
  mask : List α
  skip : Nat

/-- A block takes something off the input, and leaves nothing out without a mask. -/
structure Rule (α : Type) where
  block : List α → Option (Block α)
  advances : ∀ l b, block l = some b → 0 < b.keep + b.skip
  masked : ∀ l b, block l = some b → b.mask = [] → b.skip = 0

namespace Rule

variable (rule : Rule α)

/-- The pass, when the first `k` elements are already accounted for. -/
def passFrom : Nat → List α → List α
  | _, [] => []
  | k + 1, _ :: rest => passFrom k rest
  | 0, a :: rest =>
      match rule.block (a :: rest) with
      | none => a :: passFrom 0 rest
      | some b =>
          (a :: rest).take b.keep ++ (b.mask ++ passFrom (b.keep + b.skip - 1) rest)

def pass (l : List α) : List α := rule.passFrom 0 l

variable {rule}

theorem passFrom_eq_drop (k : Nat) (l : List α) : rule.passFrom k l = rule.pass (l.drop k) := by
  induction k generalizing l with
  | zero => rfl
  | succ k ih =>
      cases l with
      | nil => rfl
      | cons a rest => exact ih rest

@[simp] theorem pass_nil : rule.pass [] = [] := rfl

theorem pass_of_none {a : α} {rest : List α} (h : rule.block (a :: rest) = none) :
    rule.pass (a :: rest) = a :: rule.pass rest := by
  unfold pass
  rw [passFrom, h]

theorem pass_of_some {l : List α} (hne : l ≠ []) {b : Block α} (h : rule.block l = some b) :
    rule.pass l = l.take b.keep ++ (b.mask ++ rule.pass (l.drop (b.keep + b.skip))) := by
  obtain ⟨a, rest, rfl⟩ := List.exists_cons_of_ne_nil hne
  have hpos := rule.advances _ b h
  have hdrop : (a :: rest).drop (b.keep + b.skip) = rest.drop (b.keep + b.skip - 1) := by
    obtain ⟨k, hk⟩ : ∃ k, b.keep + b.skip = k + 1 := ⟨b.keep + b.skip - 1, by omega⟩
    rw [hk]
    rfl
  rw [hdrop, ← passFrom_eq_drop]
  show rule.passFrom 0 (a :: rest) = _
  rw [passFrom, h]

/-- The steps of a pass. -/
theorem pass_induction {P : List α → Prop} (nil : P [])
    (copy : ∀ a rest, rule.block (a :: rest) = none → P rest → P (a :: rest))
    (block : ∀ l b, l ≠ [] → rule.block l = some b → P (l.drop (b.keep + b.skip)) → P l) :
    ∀ l, P l := by
  intro l
  induction hn : l.length using Nat.strong_induction_on generalizing l with
  | _ n ih =>
      cases l with
      | nil => exact nil
      | cons a rest =>
          cases h : rule.block (a :: rest) with
          | none =>
              exact copy a rest h (ih rest.length (by rw [← hn]; exact Nat.lt_succ_self _) rest rfl)
          | some b =>
              have hpos := rule.advances _ b h
              have hlength : ((a :: rest).drop (b.keep + b.skip)).length < n := by
                rw [List.length_drop, hn]
                have : 0 < n := by rw [← hn]; exact Nat.succ_pos _
                omega
              exact block _ b (List.cons_ne_nil _ _) h (ih _ hlength _ rfl)

/-- Where no block begins, the input is copied. -/
theorem pass_append_of_none {front rest : List α}
    (h : ∀ part, part ≠ [] → part <:+ front → rule.block (part ++ rest) = none) :
    rule.pass (front ++ rest) = front ++ rule.pass rest := by
  induction front with
  | nil => rfl
  | cons a front ih =>
      have hrest := ih fun part hne hpart => h part hne (hpart.trans (List.suffix_cons a front))
      show rule.pass (a :: (front ++ rest)) = a :: (front ++ rule.pass rest)
      have hstart : rule.block (a :: (front ++ rest)) = none :=
        h (a :: front) (List.cons_ne_nil _ _) (List.suffix_refl _)
      rw [pass_of_none hstart, hrest]

/-! ## §2. The output from a place on. -/

/-- What is left of the output is the output of a rest of the input, or it begins behind
the start of a block. -/
theorem suffix_pass {l t : List α} (h : t <:+ rule.pass l) :
    (∃ l', l' <:+ l ∧ t = rule.pass l') ∨
      ∃ l' b s, l' <:+ l ∧ rule.block l' = some b ∧ s ≠ [] ∧
        s <:+ (l'.take b.keep ++ b.mask).tail ∧
        t = s ++ rule.pass (l'.drop (b.keep + b.skip)) := by
  induction l using @pass_induction _ rule with
  | nil => exact .inl ⟨[], List.suffix_refl _, List.suffix_nil.mp h⟩
  | copy a rest hnone ih =>
      rw [pass_of_none hnone] at h
      rcases List.suffix_cons_iff.mp h with hall | hrest
      · exact .inl ⟨a :: rest, List.suffix_refl _, by rw [pass_of_none hnone, hall]⟩
      · rcases ih hrest with ⟨l', hl', ht⟩ | ⟨l', b, s, hl', hb⟩
        · exact .inl ⟨l', hl'.trans (List.suffix_cons a rest), ht⟩
        · exact .inr ⟨l', b, s, hl'.trans (List.suffix_cons a rest), hb⟩
  -- the suffix begins behind the block, or inside of it
  | block l b hne hb ih =>
      have hpass := pass_of_some hne hb
      rw [hpass, ← List.append_assoc] at h
      rcases suffix_of_append h with hrest | ⟨s, hs, hin, rfl⟩
      · rcases ih hrest with ⟨l', hl', ht⟩ | ⟨l', b', s, hl', hb'⟩
        · exact .inl ⟨l', hl'.trans (List.drop_suffix _ _), ht⟩
        · exact .inr ⟨l', b', s, hl'.trans (List.drop_suffix _ _), hb'⟩
      · -- all of the block, or a part behind its start
        cases hblock : l.take b.keep ++ b.mask with
        | nil => exact absurd (List.suffix_nil.mp (hblock ▸ hin)) hs
        | cons a part =>
            rw [hblock] at hin
            rcases List.suffix_cons_iff.mp hin with hall | hpart
            · refine .inl ⟨l, List.suffix_refl _, ?_⟩
              rw [hpass, ← List.append_assoc, hblock, hall]
            · exact .inr ⟨l, b, s, List.suffix_refl _, hb, hs, by rw [hblock]; exact hpart, rfl⟩

/-! ## §3. Patterns that no mask starts in. -/

/-- Neither the whole mask nor a beginning of it stands at the end of the pattern. -/
structure Clear (w mask : List α) : Prop where
  before : ∀ part, part ≠ [] → part <:+ w → ¬ part <+: mask
  inside : ¬ mask <:+: w

theorem Clear.of_suffix {w w' mask : List α} (h : Clear w mask) (hw : w' <:+ w) :
    Clear w' mask where
  before part hpart hin := h.before part hpart (hin.trans hw)
  inside hin := h.inside (hin.trans hw.isInfix)

theorem Clear.of_noOverlap {w mask : List α} (h : NoOverlap w mask) : Clear w mask where
  before := h.before
  inside := h.inside

/-- The last element of the pattern is not in the mask, and an element of the mask is not
in the pattern. -/
theorem Clear.of_last {front mask : List α} {last a : α} (hlast : last ∉ mask) (ha : a ∈ mask)
    (hnot : a ∉ front ++ [last]) : Clear (front ++ [last]) mask where
  before part hpart hin hstarts := by
    obtain ⟨before, hbefore⟩ := hin
    have hend : part.getLast? = some last := by
      have := congrArg List.getLast? hbefore
      rw [List.getLast?_append_of_ne_nil _ hpart, List.getLast?_concat] at this
      exact this
    exact hlast (hstarts.subset (List.mem_of_getLast? hend))
  inside hin := hnot (hin.subset ha)

/-- Both ends of the mask are not in the pattern, which has an element of its own. -/
theorem noOverlap_of_ends {w mask : List α} (hfirst : ∃ a ∈ mask.head?, a ∉ w)
    (hlast : ∃ a ∈ mask.getLast?, a ∉ w) (hown : ∃ a ∈ w, a ∉ mask) : NoOverlap w mask := by
  obtain ⟨first, hfirst, hnotFirst⟩ := hfirst
  obtain ⟨last, hlast, hnotLast⟩ := hlast
  obtain ⟨own, hown, hnotOwn⟩ := hown
  constructor
  · exact fun hin => hnotOwn (hin.subset hown)
  · exact fun hin => hnotFirst (hin.subset (List.mem_of_mem_head? hfirst))
  · rintro part hpart hin ⟨before, rfl⟩
    rw [List.getLast?_append_of_ne_nil _ hpart] at hlast
    exact hnotLast (hin.subset (List.mem_of_getLast? hlast))
  · rintro part hpart hin ⟨behind, rfl⟩
    rw [List.head?_append_of_ne_nil _ hpart] at hfirst
    exact hnotFirst (hin.subset (List.mem_of_mem_head? hfirst))

theorem Clear.starts_in_front {w mask front rest : List α} (h : Clear w mask)
    (hw : w <+: front ++ (mask ++ rest)) : w <+: front := by
  rcases prefix_of_append hw with hfront | ⟨part, hpart, hstarts, rfl⟩
  · exact hfront
  · -- the part behind `front` starts the mask or contains it
    rcases List.prefix_or_prefix_of_prefix hstarts (List.prefix_append mask rest) with hshort | hlong
    · exact absurd hshort (h.before part hpart (List.suffix_append front part))
    · exact absurd (hlong.isInfix.trans (List.suffix_append front part).isInfix) h.inside

/-- No mask of the rule starts in the pattern. -/
def ClearOf (rule : Rule α) (w : List α) : Prop :=
  ∀ l b, rule.block l = some b → b.mask ≠ [] → Clear w b.mask

theorem ClearOf.of_suffix {w w' : List α} (h : ClearOf rule w) (hw : w' <:+ w) :
    ClearOf rule w' :=
  fun l b hb hmask => (h l b hb hmask).of_suffix hw

theorem prefix_of_prefix_pass {w l : List α} (h : ClearOf rule w) (hw : w <+: rule.pass l) :
    w <+: l := by
  induction l using @pass_induction _ rule generalizing w with
  | nil => exact hw
  | copy a rest hnone ih =>
      rw [pass_of_none hnone] at hw
      cases w with
      | nil => exact List.nil_prefix
      | cons b w =>
          obtain ⟨rfl, hrest⟩ := List.cons_prefix_cons.mp hw
          exact List.cons_prefix_cons.mpr ⟨rfl, ih (h.of_suffix (List.suffix_cons b w)) hrest⟩
  | block l b hne hb ih =>
      rw [pass_of_some hne hb] at hw
      by_cases hmask : b.mask = []
      · -- nothing is left out either: the block is a copy
        rw [hmask, List.nil_append, rule.masked l b hb hmask, Nat.add_zero] at hw
        rw [rule.masked l b hb hmask, Nat.add_zero] at ih
        rcases prefix_of_append hw with hfront | ⟨part, -, hstarts, rfl⟩
        · exact hfront.trans (List.take_prefix _ _)
        · obtain ⟨rest, hrest⟩ := ih (h.of_suffix (List.suffix_append _ part)) hstarts
          exact ⟨rest, by rw [List.append_assoc, hrest, List.take_append_drop]⟩
      -- the mask cannot be met, so the text lies before it
      · exact ((h l b hb hmask).starts_in_front hw).trans (List.take_prefix _ _)

/-! ## §4. Patterns in the output. -/

theorem infix_iff_prefix_suffix {w l : List α} : w <:+: l ↔ ∃ t, t <:+ l ∧ w <+: t := by
  constructor
  · rintro ⟨before, behind, rfl⟩
    exact ⟨w ++ behind, ⟨before, by rw [List.append_assoc]⟩, List.prefix_append _ _⟩
  · rintro ⟨t, ht, hw⟩
    exact hw.isInfix.trans ht.isInfix

/-- The rule never keeps anything and always masks. -/
def Replaces (rule : Rule α) (mask : List α) : Prop :=
  ∀ l b, rule.block l = some b → b.keep = 0 ∧ b.mask = mask

/-- A pattern that is masked wherever it begins is not in the output. -/
theorem not_infix_pass {w mask l : List α} (hrule : Replaces rule mask) (hw : w ≠ [])
    (h : NoOverlap w mask) (hmasked : ∀ rest, rule.block (w ++ rest) ≠ none) :
    ¬ w <:+: rule.pass l := by
  have hclear : ClearOf rule w := fun l b hb _ => by
    rw [(hrule l b hb).2]
    exact .of_noOverlap h
  -- a pattern behind a part of the mask would begin in it
  have hbegin : ∀ s rest, s <:+ mask → s ≠ [] → ¬ w <+: s ++ rest := by
    intro s rest hs hne hin
    rcases List.prefix_or_prefix_of_prefix hin (List.prefix_append s rest) with hshort | hlong
    · exact h.outside (hshort.isInfix.trans hs.isInfix)
    · exact h.behind s hne hlong hs
  rw [infix_iff_prefix_suffix]
  rintro ⟨t, ht, hin⟩
  have hmask : mask ≠ [] := by
    rintro rfl
    exact h.inside List.nil_infix
  rcases suffix_pass ht with ⟨l', -, rfl⟩ | ⟨l', b, s, -, hb, hs, hpart, rfl⟩
  · obtain ⟨rest, rfl⟩ := prefix_of_prefix_pass hclear hin
    obtain ⟨b, hb⟩ := Option.ne_none_iff_exists'.mp (hmasked rest)
    obtain ⟨hkeep, rfl⟩ := hrule _ b hb
    have hne : w ++ rest ≠ [] := fun hnil => hw (List.append_eq_nil_iff.mp hnil).1
    rw [pass_of_some hne hb, hkeep, List.take_zero, List.nil_append] at hin
    exact hbegin _ _ (List.suffix_refl _) hmask hin
  · obtain ⟨hkeep, rfl⟩ := hrule l' b hb
    rw [hkeep, List.take_zero, List.nil_append] at hpart
    exact hbegin s _ (hpart.trans (List.tail_suffix _)) hs hin

/-- A pattern that overlaps no mask is in the output only if it is in the input. -/
theorem infix_of_infix_pass {w l : List α}
    (h : ∀ l b, rule.block l = some b → b.mask ≠ [] → NoOverlap w b.mask)
    (hin : w <:+: rule.pass l) : w <:+: l := by
  have hclear : ClearOf rule w := fun l b hb hmask => .of_noOverlap (h l b hb hmask)
  induction l using @pass_induction _ rule with
  | nil => exact hin
  | copy a rest hnone ih =>
      rw [pass_of_none hnone] at hin
      rcases List.infix_cons_iff.mp hin with hstart | hrest
      · rw [← pass_of_none hnone] at hstart
        exact (prefix_of_prefix_pass hclear hstart).isInfix
      · exact (ih hrest).trans (List.suffix_cons a rest).isInfix
  | block l b hne hb ih =>
      rw [pass_of_some hne hb] at hin
      -- a block without a mask is copied, one with a mask cannot meet the text
      by_cases hmask : b.mask = []
      · rw [hmask, List.nil_append, rule.masked l b hb hmask, Nat.add_zero] at hin
        rw [rule.masked l b hb hmask, Nat.add_zero] at ih
        rcases List.infix_append_iff_ne_nil.mp hin with hkept | hrest | ⟨u, v, -, -, rfl, hu, hv⟩
        · exact hkept.trans (List.take_prefix _ _).isInfix
        · exact (ih hrest).trans (List.drop_suffix _ _).isInfix
        · -- across the end of the block: both parts are in the input
          have hv' := prefix_of_prefix_pass (hclear.of_suffix (List.suffix_append u v)) hv
          obtain ⟨before, hbefore⟩ := hu
          obtain ⟨behind, hbehind⟩ := hv'
          refine ⟨before, behind, ?_⟩
          rw [← List.append_assoc before, hbefore, List.append_assoc, hbehind,
            List.take_append_drop]
      · rcases (h l b hb hmask).infix_around.mp hin with hkept | hrest
        · exact hkept.trans (List.take_prefix _ _).isInfix
        · exact (ih hrest).trans (List.drop_suffix _ _).isInfix

/-! ## §5. What stands behind a pattern. -/

/-- Behind every `Head` of the list stands a `Tail`. -/
def Follows (Head Tail : List α → Prop) (l : List α) : Prop :=
  ∀ x rest, x ++ rest <:+ l → Head x → ∃ y rest', Tail y ∧ rest = y ++ rest'

/-- A pass that copies a head with its tail, and begins no head in a block, keeps the
heads followed. -/
theorem follows_pass {Head Tail : List α → Prop} {l : List α} (h : Follows Head Tail l)
    (hclear : ∀ x, Head x → ClearOf rule x)
    (hcopied : ∀ x y rest, Head x → Tail y →
      rule.pass (x ++ (y ++ rest)) = x ++ (y ++ rule.pass rest))
    (hinner : ∀ l b s rest, rule.block l = some b → s ≠ [] →
      s <:+ (l.take b.keep ++ b.mask).tail → ∀ x, Head x → ¬ x <+: s ++ rest) :
    Follows Head Tail (rule.pass l) := by
  intro x rest ht hx
  rcases suffix_pass ht with ⟨l', hl', heq⟩ | ⟨l', b, s, -, hb, hs, hpart, heq⟩
  · obtain ⟨rest', rfl⟩ := prefix_of_prefix_pass (hclear x hx) (heq ▸ List.prefix_append x rest)
    obtain ⟨y, behind, hy, rfl⟩ := h x rest' hl' hx
    rw [hcopied x y behind hx hy] at heq
    exact ⟨y, _, hy, List.append_cancel_left heq⟩
  · exact absurd (heq ▸ List.prefix_append x rest) (hinner l' b s _ hb hs hpart x hx)

end Rule

end Masking
