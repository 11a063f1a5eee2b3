/-
  OneAiKey.Lib.Grouping — finite maps that a loop over a list puts together.

  `ofEntries` inserts one entry after another.  `group` has a value for each key
  that an item has: the first item of the key starts the value, and every item of
  the key, the first one too, is added to it.

  Main results:
    * `lookup_ofEntries_iff` — of distinct keys, the entries are what is in the map;
    * `mem_group_iff` — the keys of a grouping are those of its items;
    * `lookup_group` — the value of a key is made of the items of the key alone;
    * `group_forall` — what an item establishes and the later items keep;
    * `foldl_changeAt` — of a loop that changes one key at a time, a key sees the items
      of its own only.
-/
import Mathlib.Data.Finmap
import Mathlib.Logic.Function.Basic

namespace Grouping

variable {α β κ : Type} [DecidableEq κ]

/-! ## §1. Entries. -/

/-- The map of the entries; a later one replaces an earlier one of its key. -/
def ofEntries (entries : List (κ × β)) : Finmap fun _ : κ => β :=
  entries.foldl (fun m entry => m.insert entry.1 entry.2) ∅

theorem lookup_foldl_insert {entries : List (κ × β)} (hnodup : (entries.map Prod.fst).Nodup)
    (m : Finmap fun _ : κ => β) {key : κ} {value : β} :
    (entries.foldl (fun m entry => m.insert entry.1 entry.2) m).lookup key = some value ↔
      (key, value) ∈ entries ∨ (key ∉ entries.map Prod.fst ∧ m.lookup key = some value) := by
  induction entries generalizing m with
  | nil => simp
  | cons entry entries ih =>
      obtain ⟨hfresh, hnodup⟩ := List.nodup_cons.mp hnodup
      rw [List.foldl_cons, ih hnodup]
      rw [List.map_cons, List.mem_cons, List.mem_cons, not_or]
      by_cases hkey : key = entry.1
      · -- the entry's own key: no later entry has it
        subst hkey
        rw [Finmap.lookup_insert]
        constructor
        · rintro (hmem | ⟨-, hvalue⟩)
          · exact absurd (List.mem_map_of_mem hmem) hfresh
          · exact Or.inl (Or.inl (Prod.ext rfl (Option.some.inj hvalue).symm))
        · rintro ((heq | hmem) | ⟨⟨hne, -⟩, -⟩)
          · exact Or.inr ⟨hfresh, congrArg some (congrArg Prod.snd heq).symm⟩
          · exact Or.inl hmem
          · exact absurd rfl hne
      -- another key: the entry does not count
      · rw [Finmap.lookup_insert_of_ne m hkey]
        have hne : ((key, value) = entry) = False :=
          eq_false fun heq => hkey (congrArg Prod.fst heq)
        rw [hne, false_or]
        simp only [hkey, not_false_eq_true, true_and]

theorem lookup_ofEntries_iff {entries : List (κ × β)} (hnodup : (entries.map Prod.fst).Nodup)
    {key : κ} {value : β} :
    (ofEntries entries).lookup key = some value ↔ (key, value) ∈ entries := by
  unfold ofEntries
  rw [lookup_foldl_insert hnodup, Finmap.lookup_empty]
  simp

/-! ## §2. Groups. -/

section Group

variable (key : α → κ) (start : α → β) (add : β → α → β)

/-- One turn of the loop. -/
def addItem (m : Finmap fun _ : κ => β) (a : α) : Finmap fun _ : κ => β :=
  m.insert (key a) (add ((m.lookup (key a)).getD (start a)) a)

def group (items : List α) : Finmap fun _ : κ => β := items.foldl (addItem key start add) ∅

variable {key start add}

theorem mem_group_iff {items : List α} {k : κ} :
    k ∈ group key start add items ↔ ∃ a ∈ items, key a = k := by
  have hloop : ∀ m : Finmap fun _ : κ => β,
      k ∈ items.foldl (addItem key start add) m ↔ (∃ a ∈ items, key a = k) ∨ k ∈ m := by
    induction items with
    | nil => simp
    | cons a items ih =>
        intro m
        rw [List.foldl_cons, ih]
        simp only [addItem, Finmap.mem_insert, List.mem_cons, exists_eq_or_imp,
          @eq_comm _ k (key a)]
        exact or_left_comm.trans or_assoc.symm
  unfold group
  rw [hloop]
  exact or_iff_left Finmap.notMem_empty

/-- The value of a key: its first item starts it, and all of its items are added. -/
theorem lookup_group {items : List α} {k : κ} :
    (group key start add items).lookup k =
      (items.filter fun a => key a = k).head?.map fun first =>
        (items.filter fun a => key a = k).foldl add (start first) := by
  -- for a loop that begins with any map
  have hloop : ∀ m : Finmap fun _ : κ => β,
      (items.foldl (addItem key start add) m).lookup k =
        ((m.lookup k).or ((items.filter fun a => key a = k).head?.map start)).map fun b =>
          (items.filter fun a => key a = k).foldl add b := by
    induction items with
    | nil =>
        intro m
        rw [List.filter_nil, List.head?_nil, Option.map_none, Option.or_none]
        exact Option.map_id'.symm
    | cons a items ih =>
        intro m
        rw [List.foldl_cons, ih, List.filter_cons]
        unfold addItem
        by_cases hk : key a = k
        · subst hk
          rw [if_pos (decide_eq_true rfl), Finmap.lookup_insert, List.head?_cons]
          cases m.lookup (key a) <;> rfl
        · rw [if_neg (by simpa using hk), Finmap.lookup_insert_of_ne m (Ne.symm hk)]
  unfold group
  rw [hloop, Finmap.lookup_empty, Option.none_or, Option.map_map]
  rfl

/-- What holds of a key's value once its first item was added, and when another is. -/
theorem group_forall {P : κ → β → Prop} {items : List α}
    (hstart : ∀ a ∈ items, P (key a) (add (start a) a))
    (hadd : ∀ a ∈ items, ∀ b, P (key a) b → P (key a) (add b a)) :
    ∀ k b, (group key start add items).lookup k = some b → P k b := by
  -- the property holds of what the loop has so far
  have hloop : ∀ m : Finmap fun _ : κ => β, (∀ k b, m.lookup k = some b → P k b) →
      ∀ k b, (items.foldl (addItem key start add) m).lookup k = some b → P k b := by
    induction items with
    | nil => exact fun m hm => hm
    | cons a items ih =>
        intro m hm
        refine ih (fun a' h => hstart a' (List.mem_cons_of_mem _ h))
          (fun a' h => hadd a' (List.mem_cons_of_mem _ h)) _ ?_
        intro k b hlookup
        unfold addItem at hlookup
        by_cases hk : k = key a
        · subst hk
          rw [Finmap.lookup_insert] at hlookup
          obtain rfl := Option.some.inj hlookup
          cases hfound : m.lookup (key a) with
          | none => exact hstart a List.mem_cons_self
          | some b => exact hadd a List.mem_cons_self b (hm _ b hfound)
        · rw [Finmap.lookup_insert_of_ne m hk] at hlookup
          exact hm k b hlookup
  exact hloop ∅ fun k b hlookup => by rw [Finmap.lookup_empty] at hlookup; cases hlookup

end Group

/-! ## §3. Changes of one key at a time. -/

section Change

variable (key : α → κ) (change : β → α → β)

/-- An item changes the value of its key. -/
def changeAt (values : κ → β) (a : α) : κ → β :=
  Function.update values (key a) (change (values (key a)) a)

theorem foldl_changeAt (items : List α) (values : κ → β) (k : κ) :
    items.foldl (changeAt key change) values k =
      (items.filter fun a => key a = k).foldl change (values k) := by
  induction items generalizing values with
  | nil => rfl
  | cons a items ih =>
      rw [List.foldl_cons, ih, List.filter_cons]
      by_cases hk : key a = k
      · subst hk
        rw [if_pos (decide_eq_true rfl), List.foldl_cons]
        unfold changeAt
        rw [Function.update_self]
      · rw [if_neg (by simpa using hk)]
        unfold changeAt
        rw [Function.update_of_ne (Ne.symm hk)]

end Change

end Grouping
