/-
  OneAiKey.Lib.SlidingWindow — the last elements of a history, read in pages.

  Positions count from the beginning of the history, of which only the end is retained:

    history     0   1   …   evicted   …   total - 1
    retained                ├─────────────────────┤

    * `push_rtake` — a full window that loses its first element for each new one holds the
      end of the history;
    * `page_eq_between_iff` — a page that skips what lies between the beginning of the
      window and its offset holds the retained elements of its positions, unless it begins
      before the window and ends inside;
    * `flatMap_page_perm_iff` — when the pages hold every retained element once;
    * `foldl_collect` — the loop that takes a page of what it keeps;
    * `page_concat`, `flatMap_page` — the pages of a whole list, while it grows and together.
-/
import Mathlib.Algebra.Order.BigOperators.Group.List
import Mathlib.Algebra.Order.Group.Nat
import Mathlib.Data.List.DropRight

namespace SlidingWindow

variable {α : Type}

/-! ## §1. The window. -/

/-- Add an element; a full window loses its first one. -/
def push (capacity : Nat) (retained : List α) (a : α) : List α :=
  if capacity = 0 then retained
  else if retained.length = capacity then retained.tail ++ [a]
  else retained ++ [a]

theorem push_rtake (capacity : Nat) (history : List α) (a : α) :
    push capacity (history.rtake capacity) a = (history ++ [a]).rtake capacity := by
  cases capacity with
  | zero =>
      rw [List.rtake_zero, List.rtake_zero]
      rfl
  | succ n =>
      rw [List.rtake_concat_succ]
      unfold push List.rtake
      rw [if_neg (Nat.succ_ne_zero n), List.length_drop]
      by_cases hfull : history.length - (history.length - (n + 1)) = n + 1
      · have hnext : history.length - (n + 1) + 1 = history.length - n := by omega
        rw [if_pos hfull, List.tail_drop, hnext]
      · -- a window with room holds the whole history
        have hwhole : history.length - (n + 1) = 0 := by omega
        have hwhole' : history.length - n = 0 := by omega
        rw [if_neg hfull, hwhole, hwhole']

/-! ## §2. Pages. -/

/-- The page of a window behind so many evicted elements. -/
def page (evicted offset limit : Nat) (retained : List α) : List α :=
  (retained.drop (offset - evicted)).take limit

/-- A page of a growing list takes what arrives from its offset on, until it is full. -/
theorem page_concat (offset limit : Nat) (l : List α) (a : α) :
    page 0 offset limit (l ++ [a]) =
      if offset ≤ l.length ∧ (page 0 offset limit l).length < limit then
        page 0 offset limit l ++ [a]
      else page 0 offset limit l := by
  unfold page
  rw [Nat.sub_zero, List.length_take, List.length_drop]
  by_cases hoffset : offset ≤ l.length
  · rw [List.drop_append_of_le_length hoffset, List.take_append, List.length_drop]
    by_cases hroom : min limit (l.length - offset) < limit
    · have hone : limit - (l.length - offset) = limit - (l.length - offset) - 1 + 1 := by omega
      rw [if_pos ⟨hoffset, hroom⟩, hone, List.take_succ_cons, List.take_nil]
    · have hfull : limit - (l.length - offset) = 0 := by omega
      rw [if_neg fun h => hroom h.2, hfull, List.take_zero, List.append_nil]
  · -- before the offset nothing is taken
    have hbefore : (l ++ [a]).length ≤ offset := by
      rw [List.length_append, List.length_singleton]
      omega
    have hbefore' : l.length ≤ offset := by omega
    rw [if_neg fun h => hoffset h.1, List.drop_eq_nil_of_le hbefore,
      List.drop_eq_nil_of_le hbefore']

/-- One turn of a loop that counts what it keeps, and takes its page of that. -/
def collect (keep : α → Bool) (offset limit : Nat) (acc : Nat × List α) (a : α) : Nat × List α :=
  if keep a then
    (acc.1 + 1, if offset ≤ acc.1 ∧ acc.2.length < limit then acc.2 ++ [a] else acc.2)
  else acc

theorem foldl_collect (keep : α → Bool) (offset limit : Nat) (l found : List α) :
    l.foldl (collect keep offset limit) (found.length, page 0 offset limit found) =
      ((found ++ l.filter keep).length, page 0 offset limit (found ++ l.filter keep)) := by
  induction l generalizing found with
  | nil => rw [List.filter_nil, List.append_nil, List.foldl_nil]
  | cons a l ih =>
      have hstep : collect keep offset limit (found.length, page 0 offset limit found) a =
          if keep a then ((found ++ [a]).length, page 0 offset limit (found ++ [a]))
          else (found.length, page 0 offset limit found) := by
        rw [page_concat, List.length_append]
        rfl
      rw [List.foldl_cons, List.filter_cons, hstep]
      by_cases hkeep : keep a = true
      · rw [if_pos hkeep, if_pos hkeep, ih, List.append_assoc]
        rfl
      · rw [if_neg hkeep, if_neg hkeep, ih]

/-- Behind the evicted elements the positions go on. -/
theorem drop_zipIdx (history : List α) (start evicted : Nat) :
    (history.zipIdx start).drop evicted = (history.drop evicted).zipIdx (start + evicted) := by
  induction evicted generalizing history start with
  | zero => rfl
  | succ n ih =>
      cases history with
      | nil => rfl
      | cons a l =>
          rw [List.zipIdx_cons, List.drop_succ_cons, List.drop_succ_cons, ih, Nat.add_right_comm]
          rfl

/-- The retained elements at the positions from `offset` on and before `stop`, if the first
one stands at position `evicted`. -/
def between (evicted offset stop : Nat) (retained : List α) : List α :=
  ((retained.zipIdx evicted).filter fun entry =>
    decide (offset ≤ entry.2) && decide (entry.2 < stop)).map (·.1)

theorem between_eq (evicted offset stop : Nat) (retained : List α) :
    between evicted offset stop retained =
      (retained.drop (offset - evicted)).take (stop - max offset evicted) := by
  induction retained generalizing evicted with
  | nil => simp [between]
  | cons a l ih =>
      have hrest := ih (evicted + 1)
      unfold between at hrest ⊢
      rw [List.zipIdx_cons, List.filter_cons]
      by_cases hbefore : evicted < offset
      · -- an element before `offset` is passed over
        have hskip : offset - evicted = offset - (evicted + 1) + 1 := by omega
        have hmax : max offset evicted = max offset (evicted + 1) := by omega
        rw [if_neg (by simp; omega), hrest, hskip, hmax, List.drop_succ_cons]
      · -- from `offset` on the elements are kept, up to `stop`
        have hnone : offset - evicted = 0 := by omega
        have hnone' : offset - (evicted + 1) = 0 := by omega
        rw [hnone', List.drop_zero] at hrest
        rw [hnone, List.drop_zero]
        -- the page still has room, or it is full
        by_cases hstop : evicted < stop
        · have hone : stop - max offset evicted = stop - max offset (evicted + 1) + 1 := by omega
          rw [if_pos (by simp; omega), List.map_cons, hrest, hone, List.take_succ_cons]
        · have hzero : stop - max offset evicted = 0 := by omega
          have hzero' : stop - max offset (evicted + 1) = 0 := by omega
          rw [if_neg (by simp; omega), hrest, hzero, hzero', List.take_zero, List.take_zero]

section Pages

variable {evicted offset limit : Nat} {retained : List α}

theorem page_eq_between_iff :
    page evicted offset limit retained = between evicted offset (offset + limit) retained ↔
      evicted ≤ offset ∨ limit = 0 ∨ retained = [] ∨
        evicted + retained.length ≤ offset + limit := by
  rw [between_eq, ← List.length_eq_zero_iff]
  unfold page
  rw [List.take_eq_take_iff, List.length_drop]
  omega

/-- A page is no shorter than what it should hold. -/
theorem length_between_le :
    (between evicted offset (offset + limit) retained).length ≤
      (page evicted offset limit retained).length := by
  rw [between_eq]
  unfold page
  rw [List.length_take, List.length_take]
  omega

/-- Consecutive stretches of positions, from the beginning. -/
theorem flatMap_between (n : Nat) :
    (List.range n).flatMap (fun i => between evicted (i * limit) (i * limit + limit) retained) =
      retained.take (n * limit - evicted) := by
  induction n with
  | zero => simp
  | succ n ih =>
      have hsum : (n + 1) * limit - evicted =
          (n * limit - evicted) + (n * limit + limit - max (n * limit) evicted) := by
        rw [Nat.succ_mul]
        omega
      rw [List.range_succ, List.flatMap_append, ih, List.flatMap_singleton, between_eq, hsum,
        List.take_add]

/-- The pages of a whole list, one after another. -/
theorem flatMap_page (n : Nat) :
    (List.range n).flatMap (fun i => page 0 (i * limit) limit retained) =
      retained.take (n * limit) := by
  have hpages : ∀ i, page 0 (i * limit) limit retained =
      between 0 (i * limit) (i * limit + limit) retained :=
    fun i => page_eq_between_iff.mpr (Or.inl (Nat.zero_le _))
  simp only [hpages]
  rw [flatMap_between, Nat.sub_zero]

/-- The pages hold every retained element once exactly if nothing was evicted, nothing is
retained, or the first page reaches to the end. -/
theorem flatMap_page_perm_iff (hlimit : 1 ≤ limit) {n : Nat}
    (hn : evicted + retained.length ≤ n * limit) :
    ((List.range n).flatMap fun i => page evicted (i * limit) limit retained).Perm retained ↔
      evicted = 0 ∨ retained = [] ∨ evicted + retained.length ≤ limit := by
  have hwhole : (List.range n).flatMap
      (fun i => between evicted (i * limit) (i * limit + limit) retained) = retained := by
    rw [flatMap_between, List.take_of_length_le (by omega)]
  constructor
  · intro hperm
    by_contra hnot
    rw [not_or, not_or, ← Ne, ← Ne, Nat.not_le] at hnot
    obtain ⟨hevicted, hretained, hlong⟩ := hnot
    have hpos := List.length_pos_iff.mpr hretained
    have hn0 : 0 < n := by
      by_contra hzero
      rw [Nat.eq_zero_of_not_pos hzero, Nat.zero_mul] at hn
      omega
    -- no page is too short, and the first one is too long
    have hfirst : (between evicted (0 * limit) (0 * limit + limit) retained).length <
        (page evicted (0 * limit) limit retained).length := by
      rw [between_eq]
      unfold page
      rw [List.length_take, List.length_take, Nat.zero_mul, List.length_drop]
      omega
    have hlonger := List.sum_lt_sum (l := List.range n)
      (fun i => (between evicted (i * limit) (i * limit + limit) retained).length)
      (fun i => (page evicted (i * limit) limit retained).length)
      (fun i _ => length_between_le) ⟨0, List.mem_range.mpr hn0, hfirst⟩
    rw [← List.length_flatMap, ← List.length_flatMap, hwhole, hperm.length_eq] at hlonger
    exact Nat.lt_irrefl _ hlonger
  · intro h
    have hpages : ∀ i, page evicted (i * limit) limit retained =
        between evicted (i * limit) (i * limit + limit) retained := by
      intro i
      refine page_eq_between_iff.mpr ?_
      rcases h with hzero | hnil | hshort
      · exact Or.inl (by omega)
      · exact Or.inr (Or.inr (Or.inl hnil))
      · exact Or.inr (Or.inr (Or.inr (by omega)))
    simp only [hpages, hwhole]
    exact List.Perm.refl _

end Pages

end SlidingWindow
