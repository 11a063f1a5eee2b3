/-
  OneAiKey.Lib.NamedEntries — mappings as lists of entries in the order of insertion, of
  which some keys have a name.

  An entry is found by the name of its key; keys without a name are passed over.  What an
  edit of such a mapping leaves alone is the subject:

    * `contains_iff`, `lookup_eq_none_iff` — which names are there;
    * `lookup_modify_self`, `lookup_modify_other` — an edit of one value;
    * `lookup_swapRemove` — removing a name leaves the others, when names are distinct;
    * `Grows` — entries added behind the old ones, under new names;
    * `forall₂_modify` — an edit, entry by entry.
-/
import Mathlib.Data.List.Forall2
import Mathlib.Data.List.Nodup

namespace NamedEntries

variable {κ β ν ε : Type}

/-! ## §1. Names. -/

section Names

variable (name : κ → Option ν)

/-- The names of a mapping, in order. -/
def names (entries : List (κ × β)) : List ν := entries.filterMap fun entry => name entry.1

variable {name}

theorem mem_names {a : ν} {entries : List (κ × β)} :
    a ∈ names name entries ↔ ∃ entry ∈ entries, name entry.1 = some a := List.mem_filterMap

theorem names_append (entries more : List (κ × β)) :
    names name (entries ++ more) = names name entries ++ names name more :=
  List.filterMap_append

theorem names_cons_self {a : ν} {entry : κ × β} (h : name entry.1 = some a)
    (entries : List (κ × β)) : names name (entry :: entries) = a :: names name entries :=
  List.filterMap_cons_some h

/-- Remove the first element of a kind and let the last one take its place. -/
def swapRemove {α : Type} (p : α → Bool) : List α → List α
  | [] => []
  | a :: l =>
      if p a then
        match l.getLast? with
        | none => []
        | some last => last :: l.dropLast
      else a :: swapRemove p l

/-- Up to the order, that element is removed. -/
theorem swapRemove_perm {α : Type} (p : α → Bool) (l : List α) :
    (swapRemove p l).Perm (l.eraseP p) := by
  induction l with
  | nil => exact .refl _
  | cons a l ih =>
      unfold swapRemove
      cases hp : p a with
      | true =>
          rw [if_pos rfl, List.eraseP_cons_of_pos hp]
          cases hlast : l.getLast? with
          | none =>
              rw [List.getLast?_eq_none_iff.mp hlast]
          | some last =>
              -- the last entry goes to the front, where it was removed
              obtain ⟨front, rfl⟩ := List.getLast?_eq_some_iff.mp hlast
              rw [List.dropLast_concat]
              exact (List.perm_append_singleton last front).symm
      | false =>
          have hnot : ¬ p a = true := by
            rw [hp]
            exact Bool.false_ne_true
          rw [if_neg Bool.false_ne_true, List.eraseP_cons_of_neg hnot]
          exact ih.cons a

/-- A removal takes away at most one name. -/
theorem names_swapRemove_perm (p : κ × β → Bool) (entries : List (κ × β)) :
    (names name (swapRemove p entries)).Perm (names name (entries.eraseP p)) :=
  (swapRemove_perm p entries).filterMap _

theorem nodup_names_swapRemove {p : κ × β → Bool} {entries : List (κ × β)}
    (h : (names name entries).Nodup) : (names name (swapRemove p entries)).Nodup :=
  (names_swapRemove_perm p entries).nodup_iff.mpr
    (h.sublist ((List.eraseP_sublist).filterMap _))

end Names

/-! ## §2. Growing. -/

/-- The new entries stand behind the old ones, under these names, none of which was there
before. -/
structure Grows (name : κ → Option ν) (added : List ν) (entries entries' : List (κ × β)) :
    Prop where
  behind : ∃ more, entries' = entries ++ more ∧
    more.map (fun entry => name entry.1) = added.map some
  distinct : added.Nodup
  fresh : ∀ a ∈ added, a ∉ names name entries

namespace Grows

theorem refl (entries : List (κ × β)) : Grows name [] entries entries :=
  ⟨⟨[], (List.append_nil entries).symm, rfl⟩, List.nodup_nil, nofun⟩

theorem names_eq {added : List ν} {entries entries' : List (κ × β)}
    (h : Grows name added entries entries') :
    names name entries' = names name entries ++ added := by
  obtain ⟨more, rfl, hmore⟩ := h.behind
  -- each new entry has a name, and it is the one given
  have hadded : names name more = added := by
    have hnames : names name more = (more.map fun entry => name entry.1).filterMap id := by
      rw [List.filterMap_map]
      rfl
    rw [hnames, hmore, List.filterMap_map]
    exact List.filterMap_some
  rw [names_append, hadded]

theorem push {added : List ν} {entries entries' : List (κ × β)}
    (h : Grows name added entries entries') {a : ν} {key : κ} (hname : name key = some a)
    (hfresh : a ∉ names name entries') (value : β) :
    Grows name (added ++ [a]) entries (entries' ++ [(key, value)]) := by
  have hnames := h.names_eq
  obtain ⟨more, rfl, hmore⟩ := h.behind
  rw [hnames, List.mem_append, not_or] at hfresh
  refine ⟨⟨more ++ [(key, value)], List.append_assoc _ _ _, ?_⟩, ?_, ?_⟩
  · rw [List.map_append, List.map_append, hmore]
    exact congrArg (added.map some ++ [·]) hname
  · exact List.nodup_append.mpr ⟨h.distinct, List.nodup_singleton a, fun b hb c hc heq =>
      hfresh.2 (by rw [← List.mem_singleton.mp hc, ← heq]; exact hb)⟩
  · intro b hb
    rcases List.mem_append.mp hb with hb | hb
    · exact h.fresh b hb
    · rw [List.mem_singleton.mp hb]
      exact hfresh.1

end Grows

variable [DecidableEq ν]

/-! ## §3. Finding entries. -/

section Finding

variable (name : κ → Option ν)

/-- Does the key of the entry have this name? -/
def has (a : ν) (entry : κ × β) : Bool := name entry.1 = some a

def contains (a : ν) (entries : List (κ × β)) : Bool := entries.any (has name a)

/-- The value of the first entry of a name. -/
def lookup (a : ν) (entries : List (κ × β)) : Option β :=
  (entries.find? (has name a)).map (·.2)

end Finding

variable {name : κ → Option ν}

theorem has_iff {a : ν} {entry : κ × β} : has name a entry = true ↔ name entry.1 = some a :=
  decide_eq_true_iff

theorem contains_iff {a : ν} {entries : List (κ × β)} :
    contains name a entries = true ↔ a ∈ names name entries := by
  unfold contains
  rw [List.any_eq_true, mem_names]
  simp only [has_iff]

theorem lookup_cons_self {a : ν} {entry : κ × β} (h : name entry.1 = some a)
    (entries : List (κ × β)) : lookup name a (entry :: entries) = some entry.2 := by
  unfold lookup
  rw [List.find?_cons_of_pos (has_iff.mpr h)]
  rfl

theorem lookup_cons_of_ne {a : ν} {entry : κ × β} (h : name entry.1 ≠ some a)
    (entries : List (κ × β)) : lookup name a (entry :: entries) = lookup name a entries := by
  unfold lookup
  rw [List.find?_cons_of_neg (mt has_iff.mp h)]

theorem lookup_eq_none_iff {a : ν} {entries : List (κ × β)} :
    lookup name a entries = none ↔ a ∉ names name entries := by
  unfold lookup
  rw [Option.map_eq_none_iff, List.find?_eq_none, mem_names]
  simp only [has_iff]
  exact ⟨fun h ⟨e, he, ha⟩ => h e he ha, fun h e he ha => h ⟨e, he, ha⟩⟩

theorem lookup_append_of_not_mem {a : ν} {entries : List (κ × β)}
    (h : a ∉ names name entries) (more : List (κ × β)) :
    lookup name a (entries ++ more) = lookup name a more := by
  have hnone : entries.find? (has name a) = none := Option.map_eq_none_iff.mp
    (lookup_eq_none_iff.mpr h)
  unfold lookup
  rw [List.find?_append, hnone, Option.none_or]

theorem lookup_append_of_mem {a : ν} {entries : List (κ × β)} (h : a ∈ names name entries)
    (more : List (κ × β)) : lookup name a (entries ++ more) = lookup name a entries := by
  obtain ⟨b, hb⟩ := Option.ne_none_iff_exists'.mp (mt lookup_eq_none_iff.mp (not_not.mpr h))
  unfold lookup at hb ⊢
  obtain ⟨e, he, -⟩ := Option.map_eq_some_iff.mp hb
  rw [List.find?_append, he, Option.some_or]

/-- With distinct names every entry is found. -/
theorem lookup_eq_some_iff {entries : List (κ × β)} (hdistinct : (names name entries).Nodup)
    {a : ν} {b : β} :
    lookup name a entries = some b ↔ ∃ entry ∈ entries, name entry.1 = some a ∧ entry.2 = b := by
  induction entries with
  | nil => simp [lookup]
  | cons e entries ih =>
      -- names are distinct, so the first entry of the name is the only one
      by_cases ha : name e.1 = some a
      · rw [lookup_cons_self ha]
        rw [names_cons_self ha, List.nodup_cons] at hdistinct
        constructor
        · intro hb
          exact ⟨e, List.mem_cons_self, ha, Option.some.inj hb⟩
        · rintro ⟨e', he', ha', rfl⟩
          rcases List.mem_cons.mp he' with rfl | he'
          · rfl
          · -- a second entry of the name
            exact absurd (mem_names.mpr ⟨e', he', ha'⟩) hdistinct.1
      · have hrest : (names name entries).Nodup :=
          hdistinct.sublist ((List.sublist_cons_self e entries).filterMap _)
        rw [lookup_cons_of_ne ha, ih hrest]
        constructor
        · rintro ⟨e', he', h⟩
          exact ⟨e', List.mem_cons_of_mem e he', h⟩
        · rintro ⟨e', he', ha', hb⟩
          rcases List.mem_cons.mp he' with rfl | he'
          · exact absurd ha' ha
          · exact ⟨e', he', ha', hb⟩

/-! ## §4. Removing an entry. -/

/-- The other names keep their values. -/
theorem lookup_swapRemove {entries : List (κ × β)} (hdistinct : (names name entries).Nodup)
    {a b : ν} (hne : a ≠ b) :
    lookup name a (swapRemove (has name b) entries) = lookup name a entries := by
  -- an entry of another name is not the one that is removed
  have hmem : ∀ entry : κ × β, name entry.1 = some a →
      (entry ∈ swapRemove (has name b) entries ↔ entry ∈ entries) := by
    intro entry ha
    rw [(swapRemove_perm (has name b) entries).mem_iff]
    refine List.mem_eraseP_of_neg ?_
    rw [has_iff, ha]
    exact fun h => hne (Option.some.inj h)
  refine Option.ext fun value => ?_
  rw [lookup_eq_some_iff (nodup_names_swapRemove hdistinct), lookup_eq_some_iff hdistinct]
  constructor
  · rintro ⟨entry, hentry, ha, hvalue⟩
    exact ⟨entry, (hmem entry ha).mp hentry, ha, hvalue⟩
  · rintro ⟨entry, hentry, ha, hvalue⟩
    exact ⟨entry, (hmem entry ha).mpr hentry, ha, hvalue⟩

theorem not_mem_names_swapRemove {entries : List (κ × β)} (hdistinct : (names name entries).Nodup)
    (a : ν) : a ∉ names name (swapRemove (has name a) entries) := by
  rw [(names_swapRemove_perm (has name a) entries).mem_iff]
  induction entries with
  | nil => exact List.not_mem_nil
  | cons e entries ih =>
      by_cases ha : name e.1 = some a
      · rw [names_cons_self ha, List.nodup_cons] at hdistinct
        -- the first entry of the name is removed, and there is no second one
        rw [List.eraseP_cons_of_pos (has_iff.mpr ha)]
        exact hdistinct.1
      · have hrest : (names name entries).Nodup :=
          hdistinct.sublist ((List.sublist_cons_self e entries).filterMap _)
        rw [List.eraseP_cons_of_neg (mt has_iff.mp ha), mem_names]
        rintro ⟨entry, hentry, hname⟩
        rcases List.mem_cons.mp hentry with rfl | hentry
        · exact ha hname
        · exact ih hrest (mem_names.mpr ⟨entry, hentry, hname⟩)

/-! ## §5. Editing one value. -/

variable (name) in
/-- Replace the value of the first entry of a name by what it is mapped to. -/
def modify (a : ν) (f : β → Except ε β) : List (κ × β) → Except ε (List (κ × β))
  | [] => .ok []
  | entry :: entries =>
      if has name a entry then (f entry.2).map fun b => (entry.1, b) :: entries
      else (modify a f entries).map (entry :: ·)

theorem map_eq_ok {α γ : Type} {x : Except ε α} {g : α → γ} {c : γ} :
    x.map g = .ok c ↔ ∃ a, x = .ok a ∧ g a = c := by
  cases x with
  | error e =>
      constructor
      · nofun
      · rintro ⟨a, h, -⟩
        cases h
  | ok a =>
      constructor
      · intro h
        exact ⟨a, rfl, Except.ok.inj h⟩
      · rintro ⟨a', h, hg⟩
        cases h
        exact congrArg Except.ok hg

/-- An edit keeps the keys. -/
theorem map_fst_modify {a : ν} {f : β → Except ε β} {entries entries' : List (κ × β)}
    (h : modify name a f entries = .ok entries') : entries'.map Prod.fst = entries.map Prod.fst := by
  induction entries generalizing entries' with
  | nil =>
      cases h
      rfl
  | cons e entries ih =>
      unfold modify at h
      by_cases ha : has name a e = true
      · rw [if_pos ha] at h
        obtain ⟨b, -, rfl⟩ := map_eq_ok.mp h
        rfl
      · rw [if_neg ha] at h
        obtain ⟨rest, hrest, rfl⟩ := map_eq_ok.mp h
        rw [List.map_cons, List.map_cons, ih hrest]

theorem names_modify {a : ν} {f : β → Except ε β} {entries entries' : List (κ × β)}
    (h : modify name a f entries = .ok entries') : names name entries' = names name entries := by
  have hkeys := congrArg (List.filterMap name) (map_fst_modify h)
  rw [List.filterMap_map, List.filterMap_map] at hkeys
  exact hkeys

theorem lookup_modify_self {a : ν} {f : β → Except ε β} {entries entries' : List (κ × β)}
    (h : modify name a f entries = .ok entries') {b : β} (hb : lookup name a entries = some b) :
    ∃ b', f b = .ok b' ∧ lookup name a entries' = some b' := by
  induction entries generalizing entries' with
  | nil => cases hb
  | cons e entries ih =>
      unfold modify at h
      by_cases ha : has name a e = true
      · rw [if_pos ha] at h
        obtain ⟨b', hb', rfl⟩ := map_eq_ok.mp h
        have hname : name (e.1, b').1 = some a := has_iff.mp ha
        rw [lookup_cons_self (has_iff.mp ha)] at hb
        rw [Option.some.inj hb] at hb'
        exact ⟨b', hb', lookup_cons_self hname entries⟩
      · rw [if_neg ha] at h
        obtain ⟨rest, hrest, rfl⟩ := map_eq_ok.mp h
        rw [lookup_cons_of_ne (mt has_iff.mpr ha)] at hb ⊢
        exact ih hrest hb

theorem lookup_modify_other {a c : ν} (hne : c ≠ a) {f : β → Except ε β}
    {entries entries' : List (κ × β)} (h : modify name a f entries = .ok entries') :
    lookup name c entries' = lookup name c entries := by
  induction entries generalizing entries' with
  | nil =>
      cases h
      rfl
  | cons e entries ih =>
      unfold modify at h
      by_cases ha : has name a e = true
      · rw [if_pos ha] at h
        obtain ⟨b', -, rfl⟩ := map_eq_ok.mp h
        -- the edited entry has a name other than the one looked up
        have hc : name e.1 ≠ some c := by
          rw [has_iff.mp ha]
          exact fun heq => hne (Option.some.inj heq).symm
        have hc' : name (e.1, b').1 ≠ some c := hc
        rw [lookup_cons_of_ne hc, lookup_cons_of_ne hc']
      · rw [if_neg ha] at h
        obtain ⟨rest, hrest, rfl⟩ := map_eq_ok.mp h
        by_cases hc : name e.1 = some c
        · rw [lookup_cons_self hc, lookup_cons_self hc]
        · rw [lookup_cons_of_ne hc, lookup_cons_of_ne hc, ih hrest]

omit [DecidableEq ν] in
/-- Where no entry has the name, each one is another. -/
theorem forall₂_of_not_mem {γ : Type} {R S : γ → κ × β → Prop} {a : ν} {base : List γ}
    {entries : List (κ × β)} (hrel : List.Forall₂ R base entries) (ha : a ∉ names name entries)
    (hother : ∀ c entry, R c entry → name entry.1 ≠ some a → S c entry) :
    List.Forall₂ S base entries := by
  induction hrel with
  | nil => exact .nil
  | @cons c e base entries hce hrel ih =>
      refine .cons (hother c e hce ?_) (ih ?_)
      · exact fun hname => ha (mem_names.mpr ⟨e, List.mem_cons_self, hname⟩)
      · intro hmem
        obtain ⟨entry, hentry, hname⟩ := mem_names.mp hmem
        exact ha (mem_names.mpr ⟨entry, List.mem_cons_of_mem e hentry, hname⟩)

/-- An edit, entry by entry: the entry of the name is edited, and every other one stays. -/
theorem forall₂_modify {γ : Type} {R S : γ → κ × β → Prop} {a : ν} {f : β → Except ε β}
    {base : List γ} {entries entries' : List (κ × β)} (hrel : List.Forall₂ R base entries)
    (hdistinct : (names name entries).Nodup) (h : modify name a f entries = .ok entries')
    (hedited : ∀ c entry b, R c entry → name entry.1 = some a → f entry.2 = .ok b →
      S c (entry.1, b))
    (hother : ∀ c entry, R c entry → name entry.1 ≠ some a → S c entry) :
    List.Forall₂ S base entries' := by
  induction hrel generalizing entries' with
  | nil =>
      cases h
      exact .nil
  | @cons c e base entries hce hrel ih =>
      unfold modify at h
      by_cases ha : has name a e = true
      · rw [if_pos ha] at h
        obtain ⟨b, hb, rfl⟩ := map_eq_ok.mp h
        -- the entries behind the edited one do not have its name
        rw [names_cons_self (has_iff.mp ha), List.nodup_cons] at hdistinct
        exact .cons (hedited c e b hce (has_iff.mp ha) hb)
          (forall₂_of_not_mem hrel hdistinct.1 hother)
      · rw [if_neg ha] at h
        obtain ⟨rest, hrest, rfl⟩ := map_eq_ok.mp h
        refine .cons (hother c e hce (mt has_iff.mpr ha)) (ih ?_ hrest)
        exact hdistinct.sublist ((List.sublist_cons_self e entries).filterMap _)

end NamedEntries
