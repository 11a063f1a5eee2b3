/-
  OneAiKey.Lib.CyclicOrder — walking around the elements of an ordered list.

  `after l a` lists the elements of `l` in the order in which one meets them from
  `a` on: the greater ones first, then the others from the least up.  In a strictly
  ordered list `a` itself comes last.

    * `after_filter` — taking elements out does not change the order of the others;
    * `after_next` — the walk from the next element is the same, one step on;
    * `after_removed` — the walk from the next element once `a` is taken out.
-/
import Mathlib.Data.List.Sort

namespace CyclicOrder

variable {α : Type} [LinearOrder α] {l rest : List α} {a b : α}

/-- The elements behind `a`, then the ones up to `a`. -/
def after (l : List α) (a : α) : List α := l.filter (a < ·) ++ l.filter (· ≤ a)

theorem mem_after : b ∈ after l a ↔ b ∈ l := by
  unfold after
  rw [List.mem_append, List.mem_filter, List.mem_filter]
  rcases lt_or_ge a b with hlt | hle
  · simp [hlt, not_le_of_gt hlt]
  · simp [hle, not_lt_of_ge hle]

theorem nodup_after (h : l.Nodup) : (after l a).Nodup := by
  unfold after
  refine (h.filter _).append (h.filter _) ?_
  intro b hbehind hupTo
  have hlt : a < b := by simpa using (List.mem_filter.mp hbehind).2
  have hle : b ≤ a := by simpa using (List.mem_filter.mp hupTo).2
  exact absurd hlt (not_lt_of_ge hle)

theorem after_filter (keep : α → Bool) : after (l.filter keep) a = (after l a).filter keep := by
  unfold after
  rw [List.filter_append, List.filter_comm keep, List.filter_comm keep]

/-- An ordered list that is cut behind `a` is walked from the cut. -/
theorem after_append {upTo behind : List α} (hupTo : ∀ b ∈ upTo, b ≤ a)
    (hbehind : ∀ b ∈ behind, a < b) : after (upTo ++ behind) a = behind ++ upTo := by
  have h1 : upTo.filter (a < ·) = [] := by
    rw [List.filter_eq_nil_iff]
    intro b hb
    simpa using hupTo b hb
  have h2 : behind.filter (a < ·) = behind := by
    rw [List.filter_eq_self]
    intro b hb
    simpa using hbehind b hb
  have h3 : upTo.filter (· ≤ a) = upTo := by
    rw [List.filter_eq_self]
    intro b hb
    simpa using hupTo b hb
  have h4 : behind.filter (· ≤ a) = [] := by
    rw [List.filter_eq_nil_iff]
    intro b hb
    simpa using hbehind b hb
  unfold after
  rw [List.filter_append, List.filter_append, h1, h2, h3, h4, List.nil_append, List.append_nil]

/-- A strictly ordered list can be cut behind any `a`. -/
theorem exists_cut (hl : l.Pairwise (· < ·)) (a : α) :
    ∃ upTo behind, l = upTo ++ behind ∧ (∀ b ∈ upTo, b ≤ a) ∧ ∀ b ∈ behind, a < b := by
  induction l with
  | nil => exact ⟨[], [], rfl, by simp, by simp⟩
  | cons c l ih =>
      rw [List.pairwise_cons] at hl
      rcases lt_or_ge a c with hlt | hle
      · -- all of the list is behind `a`
        refine ⟨[], c :: l, rfl, by simp, ?_⟩
        intro b hb
        rcases List.mem_cons.mp hb with rfl | hb
        · exact hlt
        · exact hlt.trans (hl.1 b hb)
      · obtain ⟨upTo, behind, heq, hupTo, hbehind⟩ := ih hl.2
        refine ⟨c :: upTo, behind, by rw [heq, List.cons_append], ?_, hbehind⟩
        intro b hb
        rcases List.mem_cons.mp hb with rfl | hb
        · exact hle
        · exact hupTo b hb

/-- The walk from the next element is the same walk, one step on. -/
theorem after_next (hl : l.Pairwise (· < ·)) (h : after l a = b :: rest) :
    after l b = rest ++ [b] := by
  obtain ⟨upTo, behind, heq, hupTo, hbehind⟩ := exists_cut hl a
  rw [heq, after_append hupTo hbehind] at h
  rw [heq] at hl ⊢
  obtain ⟨hsortedUpTo, hsortedBehind, hacross⟩ := List.pairwise_append.mp hl
  cases behind with
  | nil =>
      -- the walk begins anew with the least element
      rw [List.nil_append] at h
      rw [h, List.pairwise_cons] at hsortedUpTo
      rw [List.append_nil, h]
      show after ([b] ++ rest) b = rest ++ [b]
      exact after_append (by simp) hsortedUpTo.1
  | cons c behind =>
      rw [List.cons_append] at h
      obtain ⟨rfl, rfl⟩ := List.cons.inj h
      rw [List.pairwise_cons] at hsortedBehind
      have hcut : upTo ++ c :: behind = (upTo ++ [c]) ++ behind := by simp
      rw [hcut, after_append ?_ hsortedBehind.1, List.append_assoc]
      intro b hb
      rcases List.mem_append.mp hb with hb | hb
      · exact le_of_lt (hacross b hb c List.mem_cons_self)
      · rw [List.mem_singleton.mp hb]

/-- An element of the list comes last in the walk from it. -/
theorem after_self (hl : l.Pairwise (· < ·)) (ha : a ∈ l) :
    after l a = after (l.filter (· ≠ a)) a ++ [a] := by
  obtain ⟨s, t, rfl⟩ := List.append_of_mem ha
  obtain ⟨-, htail, hacross⟩ := List.pairwise_append.mp hl
  rw [List.pairwise_cons] at htail
  have hs : ∀ b ∈ s, b < a := fun b hb => hacross b hb a List.mem_cons_self
  -- without `a`, what comes before it and what comes after it are next to each other
  have hwithout : (s ++ a :: t).filter (· ≠ a) = s ++ t := by
    rw [List.filter_append, List.filter_cons_of_neg (by simp)]
    congr 1
    · rw [List.filter_eq_self]
      intro b hb
      simpa using ne_of_lt (hs b hb)
    · rw [List.filter_eq_self]
      intro b hb
      simpa using (ne_of_lt (htail.1 b hb)).symm
  have hcut : s ++ a :: t = (s ++ [a]) ++ t := by simp
  rw [hwithout, hcut, after_append (fun b hb => (hs b hb).le) htail.1, after_append ?_ htail.1,
    List.append_assoc]
  intro b hb
  rcases List.mem_append.mp hb with hb | hb
  · exact (hs b hb).le
  · rw [List.mem_singleton.mp hb]

/-- Once `a` is taken out, the walk from the next element goes on where the walk from `a`
was. -/
theorem after_removed (hl : l.Pairwise (· < ·)) (h : after l a = b :: rest ++ [a]) :
    after (l.filter (· ≠ a)) b = rest ++ [b] := by
  have hnodup : (b :: rest ++ [a]).Nodup := by
    rw [← h]
    exact nodup_after hl.nodup
  have hgone : (b :: rest ++ [a]).filter (· ≠ a) = b :: rest := by
    have hlast : [a].filter (· ≠ a) = [] := by simp
    rw [List.filter_append, hlast, List.append_nil, List.filter_eq_self]
    intro c hc
    have hne : c ≠ a :=
      (List.nodup_append.mp hnodup).2.2 c hc a (List.mem_singleton.mpr rfl)
    simpa using hne
  have hnext : after (l.filter (· ≠ a)) a = b :: rest := by
    rw [after_filter, h, hgone]
  exact after_next (hl.filter _) hnext

end CyclicOrder
