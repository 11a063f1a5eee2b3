/-
  OneAiKey.Lib.FirstOccurrence — the elements of a list whose key is new.

  A loop that keeps an element when it has not seen its key before splits a list in
  two: `firsts`, in their order, and `repeats`.  `seen` is what it knows at the
  start.  Nothing gets lost:

    * `firsts_append_repeats_perm` — together they are the list;
    * `length_firsts_add_repeats` — and so are their lengths;
    * `mem_map_firsts` — which keys the firsts have;
    * `nodup_map_firsts` — of the firsts no two have one key;
    * `firsts_map_ne_repeats` — a mark that tells the elements apart tells the two
      parts apart.
-/
import Mathlib.Data.List.Nodup

namespace FirstOccurrence

variable {α κ : Type} [DecidableEq κ] (key : α → κ)

def firsts (seen : List κ) : List α → List α
  | [] => []
  | a :: xs => if key a ∈ seen then firsts seen xs else a :: firsts (key a :: seen) xs

def repeats (seen : List κ) : List α → List α
  | [] => []
  | a :: xs => if key a ∈ seen then a :: repeats seen xs else repeats (key a :: seen) xs

variable {key} {seen : List κ} {a : α} {xs : List α}

theorem firsts_cons_of_mem (h : key a ∈ seen) : firsts key seen (a :: xs) = firsts key seen xs :=
  if_pos h

theorem firsts_cons_of_notMem (h : key a ∉ seen) :
    firsts key seen (a :: xs) = a :: firsts key (key a :: seen) xs :=
  if_neg h

theorem repeats_cons_of_mem (h : key a ∈ seen) :
    repeats key seen (a :: xs) = a :: repeats key seen xs :=
  if_pos h

theorem repeats_cons_of_notMem (h : key a ∉ seen) :
    repeats key seen (a :: xs) = repeats key (key a :: seen) xs :=
  if_neg h

theorem firsts_append_repeats_perm (key : α → κ) (seen : List κ) (xs : List α) :
    (firsts key seen xs ++ repeats key seen xs).Perm xs := by
  induction xs generalizing seen with
  | nil => exact .refl _
  | cons a xs ih =>
      by_cases h : key a ∈ seen
      · rw [firsts_cons_of_mem h, repeats_cons_of_mem h]
        exact List.perm_middle.trans ((ih seen).cons a)
      · rw [firsts_cons_of_notMem h, repeats_cons_of_notMem h]
        exact (ih (key a :: seen)).cons a

theorem length_firsts_add_repeats (key : α → κ) (seen : List κ) (xs : List α) :
    (firsts key seen xs).length + (repeats key seen xs).length = xs.length := by
  rw [← List.length_append]
  exact (firsts_append_repeats_perm key seen xs).length_eq

theorem notMem_seen_of_mem_firsts (h : a ∈ firsts key seen xs) : key a ∉ seen := by
  induction xs generalizing seen with
  | nil => cases h
  | cons b xs ih =>
      by_cases hb : key b ∈ seen
      · rw [firsts_cons_of_mem hb] at h
        exact ih h
      · rw [firsts_cons_of_notMem hb] at h
        rcases List.mem_cons.mp h with rfl | h
        · exact hb
        · exact fun hmem => ih h (List.mem_cons_of_mem _ hmem)

/-- A key has a first occurrence if it occurs and is not known. -/
theorem mem_map_firsts {k : κ} :
    k ∈ (firsts key seen xs).map key ↔ k ∈ xs.map key ∧ k ∉ seen := by
  induction xs generalizing seen with
  | nil => exact iff_of_false List.not_mem_nil fun h => List.not_mem_nil h.1
  | cons a xs ih =>
      by_cases h : key a ∈ seen
      · rw [firsts_cons_of_mem h, ih, List.map_cons, List.mem_cons, or_and_right]
        refine (or_iff_right ?_).symm
        intro hk
        exact hk.2 (hk.1 ▸ h)
      · rw [firsts_cons_of_notMem h, List.map_cons, List.map_cons, List.mem_cons, List.mem_cons,
          ih, List.mem_cons, not_or]
        by_cases hk : k = key a
        · exact iff_of_true (.inl hk) ⟨.inl hk, hk ▸ h⟩
        · rw [or_iff_right hk, or_iff_right hk, and_iff_right hk]

theorem nodup_map_firsts (key : α → κ) (seen : List κ) (xs : List α) :
    ((firsts key seen xs).map key).Nodup := by
  induction xs generalizing seen with
  | nil => exact List.nodup_nil
  | cons a xs ih =>
      by_cases h : key a ∈ seen
      · rw [firsts_cons_of_mem h]
        exact ih seen
      · rw [firsts_cons_of_notMem h, List.map_cons]
        refine List.nodup_cons.mpr ⟨?_, ih _⟩
        intro hmem
        obtain ⟨b, hb, hkey⟩ := List.mem_map.mp hmem
        exact notMem_seen_of_mem_firsts hb (hkey ▸ List.mem_cons_self)

theorem firsts_map_ne_repeats {μ : Type} {mark : α → μ} (hnodup : (xs.map mark).Nodup)
    {a b : α} (ha : a ∈ firsts key seen xs) (hb : b ∈ repeats key seen xs) :
    mark a ≠ mark b := by
  have hperm := (firsts_append_repeats_perm key seen xs).map mark
  rw [List.map_append] at hperm
  have hparts := List.nodup_append.mp (hperm.nodup_iff.mpr hnodup)
  exact hparts.2.2 _ (List.mem_map_of_mem ha) _ (List.mem_map_of_mem hb)

end FirstOccurrence
