/-
  OneAiKey.Lib.IndexedUpdate — a loop that updates a list at given indices.

  Each entry of a work list names an index and an update; the loop applies
  the updates in order.  When no index is named twice, the element at an
  index has had exactly its own update:

    * `getElem?_applyAll_of_mem` — an index that some entry names;
    * `getElem?_applyAll_of_forall_ne` — an index that no entry names;
    * `getElem?_applyAll_related` — what every update keeps, all of them keep.
-/
import Mathlib.Data.List.Nodup

namespace IndexedUpdate

variable {α β : Type}

/-- Apply `update b` at index `key b`, for each entry `b` in turn. -/
def applyAll (key : β → Nat) (update : β → α → α) (entries : List β) (xs : List α) : List α :=
  entries.foldl (fun xs b => xs.modify (key b) (update b)) xs

variable (key : β → Nat) (update : β → α → α)

@[simp] theorem applyAll_nil (xs : List α) : applyAll key update [] xs = xs := rfl

theorem applyAll_cons (b : β) (entries : List β) (xs : List α) :
    applyAll key update (b :: entries) xs =
      applyAll key update entries (xs.modify (key b) (update b)) := rfl

@[simp] theorem length_applyAll (entries : List β) (xs : List α) :
    (applyAll key update entries xs).length = xs.length := by
  induction entries generalizing xs with
  | nil => rfl
  | cons b entries ih => rw [applyAll_cons, ih, List.length_modify]

/-- An index that no entry names is left alone. -/
theorem getElem?_applyAll_of_forall_ne {entries : List β} {i : Nat}
    (h : ∀ b ∈ entries, key b ≠ i) (xs : List α) :
    (applyAll key update entries xs)[i]? = xs[i]? := by
  induction entries generalizing xs with
  | nil => rfl
  | cons b entries ih =>
      rw [applyAll_cons, ih (fun b' hb' => h b' (List.mem_cons_of_mem _ hb')),
        List.getElem?_modify]
      simp [h b List.mem_cons_self]

/-- An index that one entry names has had exactly that entry's update. -/
theorem getElem?_applyAll_of_mem {entries : List β} (hnd : (entries.map key).Nodup)
    {b : β} (hb : b ∈ entries) (xs : List α) :
    (applyAll key update entries xs)[key b]? = xs[key b]?.map (update b) := by
  induction entries generalizing xs with
  | nil => cases hb
  | cons b' entries ih =>
      rw [List.map_cons, List.nodup_cons] at hnd
      rw [applyAll_cons]
      rcases List.mem_cons.mp hb with rfl | hb
      · -- the later entries name other indices
        have hne : ∀ c ∈ entries, key c ≠ key b := by
          intro c hc heq
          exact hnd.1 (heq ▸ List.mem_map_of_mem hc)
        rw [getElem?_applyAll_of_forall_ne key update hne, List.getElem?_modify]
        simp
      · have hne : key b' ≠ key b := by
          intro heq
          exact hnd.1 (heq ▸ List.mem_map_of_mem hb)
        rw [ih hnd.2 hb, List.getElem?_modify]
        simp [hne]

/-- What every update keeps of an element, the loop keeps. -/
theorem getElem?_applyAll_related {R : α → α → Prop} (hrefl : ∀ a, R a a)
    (htrans : ∀ a a' a'', R a a' → R a' a'' → R a a'') {entries : List β}
    (hupdate : ∀ b ∈ entries, ∀ a, R a (update b a)) {xs : List α} {i : Nat} {a : α}
    (ha : xs[i]? = some a) :
    ∃ a', (applyAll key update entries xs)[i]? = some a' ∧ R a a' := by
  induction entries generalizing xs a with
  | nil => exact ⟨a, ha, hrefl a⟩
  | cons b entries ih =>
      have hrest := fun b' hb' => hupdate b' (List.mem_cons_of_mem _ hb')
      have hmodified : (xs.modify (key b) (update b))[i]? =
          some (if key b = i then update b a else a) := by
        rw [List.getElem?_modify, ha]
        rfl
      obtain ⟨a', ha', hR⟩ := ih hrest hmodified
      refine ⟨a', ha', htrans _ _ _ ?_ hR⟩
      split
      · exact hupdate b List.mem_cons_self a
      · exact hrefl a

end IndexedUpdate
