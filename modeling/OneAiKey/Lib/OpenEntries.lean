/-
  OneAiKey.Lib.OpenEntries — logs whose later items complete the entries of earlier ones.

  An item of a log appends an entry, or changes the last entry that is still open for it:

      log       a   b   b'   a'
      entries   a + a'   b + b'

  Main results:
    * `updateLast_eq_modify` — which entry is changed;
    * `entries_append` — the entries of a later part of a log are the last entries of the
      whole log, whatever has been cut off in front.
-/
import Mathlib.Data.List.Basic

namespace OpenEntries

variable {α β ε : Type}

/-! ## §1. The last element that qualifies. -/

/-- Change the last element that qualifies, if there is one. -/
def updateLast (p : α → Bool) (f : α → α) : List α → List α
  | [] => []
  | a :: l => if l.any p then a :: updateLast p f l else if p a then f a :: l else a :: l

theorem updateLast_cons (p : α → Bool) (f : α → α) (a : α) (l : List α) :
    updateLast p f (a :: l) =
      if l.any p then a :: updateLast p f l else if p a then f a :: l else a :: l := rfl

theorem updateLast_of_none {p : α → Bool} {l : List α} (f : α → α) (h : l.any p = false) :
    updateLast p f l = l := by
  cases l with
  | nil => rfl
  | cons a l =>
      rw [List.any_cons, Bool.or_eq_false_iff] at h
      rw [updateLast_cons, if_neg (Bool.eq_false_iff.mp h.2), if_neg (Bool.eq_false_iff.mp h.1)]

theorem length_updateLast (p : α → Bool) (f : α → α) (l : List α) :
    (updateLast p f l).length = l.length := by
  induction l with
  | nil => rfl
  | cons a l ih =>
      rw [updateLast_cons]
      split
      · rw [List.length_cons, List.length_cons, ih]
      split <;> rfl

/-- Where the last one that qualifies is known. -/
theorem updateLast_eq_modify {p : α → Bool} {l : List α} {i : Nat} {a : α} (f : α → α)
    (ha : l[i]? = some a) (hp : p a = true) (hlast : (l.drop (i + 1)).any p = false) :
    updateLast p f l = l.modify i f := by
  induction l generalizing i with
  | nil => cases ha
  | cons b l ih =>
      rw [updateLast_cons]
      cases i with
      | zero =>
          cases ha
          rw [List.drop_succ_cons, List.drop_zero] at hlast
          rw [hlast, if_neg Bool.false_ne_true, if_pos hp, List.modify_zero_cons]
      | succ i =>
          rw [List.getElem?_cons_succ] at ha
          rw [List.drop_succ_cons] at hlast
          have hany : l.any p = true :=
            List.any_eq_true.mpr ⟨a, List.mem_of_getElem? ha, hp⟩
          rw [if_pos hany, List.modify_succ_cons, ih ha hlast]

theorem drop_updateLast (p : α → Bool) (f : α → α) (l : List α) (n : Nat) :
    (updateLast p f l).drop n = updateLast p f (l.drop n) := by
  induction l generalizing n with
  | nil => rw [List.drop_nil, updateLast, List.drop_nil]
  | cons a l ih =>
      cases n with
      | zero => rfl
      | succ n =>
          rw [List.drop_succ_cons, updateLast_cons]
          by_cases hlater : l.any p = true
          · rw [if_pos hlater, List.drop_succ_cons, ih]
          · -- nothing behind the first element qualifies
            have hdrop : (l.drop n).any p = false := by
              rw [Bool.eq_false_iff]
              intro hany
              obtain ⟨b, hb, hpb⟩ := List.any_eq_true.mp hany
              exact hlater (List.any_eq_true.mpr ⟨b, List.mem_of_mem_drop hb, hpb⟩)
            rw [if_neg hlater, updateLast_of_none f hdrop]
            split <;> rfl

theorem map_updateLast {p : α → Bool} {f : α → α} {q : β → Bool} {g : β → β} {φ : α → β}
    (hp : ∀ a, q (φ a) = p a) (hf : ∀ a, p a = true → φ (f a) = g (φ a)) (l : List α) :
    (updateLast p f l).map φ = updateLast q g (l.map φ) := by
  have hany (l : List α) : (l.map φ).any q = l.any p := by
    rw [List.any_map]
    exact congrArg (List.any l) (funext hp)
  induction l with
  | nil => rfl
  | cons a l ih =>
      rw [List.map_cons, updateLast_cons, updateLast_cons, hany, hp]
      by_cases hlater : l.any p = true
      · rw [if_pos hlater, if_pos hlater, List.map_cons, ih]
      · rw [if_neg hlater, if_neg hlater]
        by_cases ha : p a = true
        · rw [if_pos ha, if_pos ha, List.map_cons, hf a ha]
        · rw [if_neg ha, if_neg ha, List.map_cons]

/-! ## §2. The entries of a log. -/

/-- What an item of a log does to the entries. -/
inductive Effect (α : Type) where
  | append (a : α)
  | complete (p : α → Bool) (f : α → α)
  | nothing

def Effect.apply (l : List α) : Effect α → List α
  | append a => l ++ [a]
  | complete p f => updateLast p f l
  | nothing => l

def Effect.appends : Effect α → Bool
  | append _ => true
  | complete _ _ | nothing => false

theorem Effect.length_apply (l : List α) (e : Effect α) :
    (e.apply l).length = l.length + if e.appends then 1 else 0 := by
  cases e with
  | append a => exact List.length_append
  | complete p f => exact length_updateLast p f l
  | nothing => rfl

theorem Effect.drop_apply {l : List α} {n : Nat} (h : n ≤ l.length) (e : Effect α) :
    (e.apply l).drop n = e.apply (l.drop n) := by
  cases e with
  | append a => exact List.drop_append_of_le_length h
  | complete p f => exact drop_updateLast p f l n
  | nothing => rfl

/-- The entries after a log, over those that there are before it. -/
def entriesFrom (effect : ε → Effect α) (l : List α) (log : List ε) : List α :=
  log.foldl (fun l item => (effect item).apply l) l

def entries (effect : ε → Effect α) (log : List ε) : List α := entriesFrom effect [] log

/-- As many entries as have been appended. -/
theorem length_entriesFrom (effect : ε → Effect α) (l : List α) (log : List ε) :
    (entriesFrom effect l log).length =
      l.length + log.countP fun item => (effect item).appends := by
  induction log generalizing l with
  | nil => rfl
  | cons item log ih =>
      show (entriesFrom effect ((effect item).apply l) log).length = _
      rw [ih, Effect.length_apply, List.countP_cons]
      omega

theorem length_entries (effect : ε → Effect α) (log : List ε) :
    (entries effect log).length = log.countP fun item => (effect item).appends :=
  (length_entriesFrom effect [] log).trans (Nat.zero_add _)

theorem drop_entriesFrom (effect : ε → Effect α) {l : List α} {n : Nat} (h : n ≤ l.length)
    (log : List ε) :
    (entriesFrom effect l log).drop n = entriesFrom effect (l.drop n) log := by
  induction log generalizing l with
  | nil => rfl
  | cons item log ih =>
      have hle : n ≤ ((effect item).apply l).length := by
        rw [Effect.length_apply]
        exact Nat.le_trans h (Nat.le_add_right _ _)
      have hnext := ih hle
      rw [Effect.drop_apply h] at hnext
      exact hnext

theorem entries_concat (effect : ε → Effect α) (log : List ε) (item : ε) :
    entries effect (log ++ [item]) = (effect item).apply (entries effect log) :=
  List.foldl_concat _ _ _ _

theorem entries_append (effect : ε → Effect α) (log log' : List ε) :
    entries effect log' =
      (entries effect (log ++ log')).drop (entries effect log).length := by
  have hfrom : entries effect (log ++ log') = entriesFrom effect (entries effect log) log' :=
    List.foldl_append
  rw [hfrom, drop_entriesFrom effect (Nat.le_refl _), List.drop_length]
  rfl

/-- The entries of the end of a log, counted from behind. -/
theorem entries_of_suffix (effect : ε → Effect α) {log log' : List ε} (h : log' <:+ log) :
    entries effect log' = (entries effect log).drop
      ((entries effect log).length - log'.countP fun item => (effect item).appends) := by
  obtain ⟨before, rfl⟩ := h
  rw [entries_append effect before log', length_entries, length_entries, List.countP_append,
    Nat.add_sub_cancel]

end OpenEntries
