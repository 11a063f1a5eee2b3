/-
  OneAiKey.Lib.KeyedList — a list with one element for each key.

  `put` lets an element take the place of the one with its key, or adds it at the
  end.  What counts is which elements are there, and in a sorted list that says
  everything:

    * `mem_put` / `Distinct.put` — the new element and those of other keys;
    * `Distinct.eq_of_sorted` — two sorted lists of the same elements are equal.
-/
import Mathlib.Data.List.Nodup
import Mathlib.Data.List.Sort

namespace KeyedList

variable {α κ : Type} {key : α → κ}

/-- No key occurs twice. -/
def Distinct (key : α → κ) (xs : List α) : Prop := (xs.map key).Nodup

/-- The element of a key is determined. -/
theorem Distinct.eq_of_key {xs : List α} (h : Distinct key xs) {a b : α} (ha : a ∈ xs)
    (hb : b ∈ xs) (hkey : key a = key b) : a = b :=
  List.inj_on_of_nodup_map h ha hb hkey

theorem Distinct.perm {xs ys : List α} (h : Distinct key xs) (hperm : ys.Perm xs) :
    Distinct key ys :=
  (hperm.map key).nodup_iff.mpr h

/-- Sorted lists of the same elements are equal, if the order tells keys apart. -/
theorem Distinct.eq_of_sorted {le : α → α → Prop} {xs ys : List α} (hxs : Distinct key xs)
    (hys : Distinct key ys) (hantisymm : ∀ a b, le a b → le b a → key a = key b)
    (hsorted : xs.Pairwise le) (hsorted' : ys.Pairwise le) (hmem : ∀ a, a ∈ xs ↔ a ∈ ys) :
    xs = ys := by
  have hperm : xs.Perm ys :=
    (List.perm_ext_iff_of_nodup hxs.of_map hys.of_map).mpr hmem
  refine hperm.eq_of_pairwise ?_ hsorted hsorted'
  intro a b ha hb hab hba
  exact hys.eq_of_key ((hmem a).mp ha) hb (hantisymm a b hab hba)

section Put

variable [DecidableEq κ]

/-- The element takes the place of the first one with its key, or comes last. -/
def put (key : α → κ) (a : α) : List α → List α
  | [] => [a]
  | b :: xs => if key b = key a then a :: xs else b :: put key a xs

variable {a : α} {xs : List α}

theorem mem_put (h : Distinct key xs) {b : α} :
    b ∈ put key a xs ↔ b = a ∨ (b ∈ xs ∧ key b ≠ key a) := by
  induction xs with
  | nil => simp [put]
  | cons c xs ih =>
      obtain ⟨hfresh, hrest⟩ := List.nodup_cons.mp h
      unfold put
      by_cases hc : key c = key a
      · -- `c` gives its place away, and no later element has its key
        have hother : ∀ b ∈ xs, key b ≠ key a := by
          intro b hb hba
          exact hfresh (List.mem_map.mpr ⟨b, hb, hba.trans hc.symm⟩)
        rw [if_pos hc, List.mem_cons, List.mem_cons]
        constructor
        · intro hb
          rcases hb with hb | hb
          · exact .inl hb
          · exact .inr ⟨.inr hb, hother b hb⟩
        · intro hb
          rcases hb with hb | ⟨hb | hb, hne⟩
          · exact .inl hb
          · exact absurd (hb ▸ hc) hne
          · exact .inr hb
      -- `c` stays, and the element is put somewhere behind it
      · rw [if_neg hc, List.mem_cons, List.mem_cons, ih hrest]
        constructor
        · intro hb
          rcases hb with hb | hb | hb
          · exact .inr ⟨.inl hb, hb ▸ hc⟩
          · exact .inl hb
          · exact .inr ⟨.inr hb.1, hb.2⟩
        · intro hb
          rcases hb with hb | ⟨hb | hb, hne⟩
          · exact .inr (.inl hb)
          · exact .inl hb
          · exact .inr (.inr ⟨hb, hne⟩)

theorem Distinct.put (h : Distinct key xs) (a : α) : Distinct key (put key a xs) := by
  induction xs with
  | nil => exact List.nodup_singleton _
  | cons c xs ih =>
      obtain ⟨hfresh, hrest⟩ := List.nodup_cons.mp h
      unfold KeyedList.put
      by_cases hc : key c = key a
      · rw [if_pos hc]
        refine List.nodup_cons.mpr ⟨?_, hrest⟩
        rw [← hc]
        exact hfresh
      · rw [if_neg hc]
        refine List.nodup_cons.mpr ⟨?_, ih hrest⟩
        intro hmem
        obtain ⟨b, hb, hkey⟩ := List.mem_map.mp hmem
        rcases (mem_put hrest).mp hb with rfl | ⟨hb, -⟩
        · exact hc hkey.symm
        · exact hfresh (List.mem_map.mpr ⟨b, hb, hkey⟩)

end Put

end KeyedList
