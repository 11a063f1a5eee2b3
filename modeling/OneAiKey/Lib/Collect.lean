/-
  OneAiKey.Lib.Collect — loops that put the entries of an unordered collection
  into a finite map.

  Each entry yields a key and a value, or an error.  `collect` lets a later
  entry replace an earlier one of the same key; `collectDistinct` refuses it.
  The question is what the order of the entries can do:

    * `collectDistinct_perm` — nothing, when equal keys are refused;
    * `collect_perm` — nothing, when there are no equal keys;
    * `nodup_of_collectDistinct` — and `collectDistinct` accepts no others;
    * `collect_lookup`, `exists_collect` — what the collected map is.

  `readTable` is the loop over the rows of a table, whose keys differ, and
  `ReadsAs` what such a loop returns; `collectDistinct_related` compares the loops
  over two lists whose entries are related.

  `Agree` is the comparison: two computations agree when they have the same
  value, or an error both times.
-/
import Mathlib.Data.Finmap
import Mathlib.Data.List.Sort

namespace Collect

variable {ε α β γ κ : Type}

/-! ## §1. The same value, or an error both times. -/

/-- Which error it is does not count. -/
def Agree (x y : Except ε α) : Prop := ∀ a, x = .ok a ↔ y = .ok a

theorem Agree.refl (x : Except ε α) : Agree x x := fun _ => Iff.rfl

theorem Agree.trans {x y z : Except ε α} (h : Agree x y) (h' : Agree y z) : Agree x z :=
  fun a => (h a).trans (h' a)

theorem bind_eq_ok {x : Except ε α} {f : α → Except ε β} {b : β} :
    x >>= f = .ok b ↔ ∃ a, x = .ok a ∧ f a = .ok b := by
  cases x with
  | error e =>
      constructor
      · nofun
      · rintro ⟨a, h, -⟩
        cases h
  | ok a =>
      constructor
      · intro h
        exact ⟨a, rfl, h⟩
      · rintro ⟨a', h, hf⟩
        cases h
        exact hf

theorem Agree.bind {x y : Except ε α} {f g : α → Except ε β} (h : Agree x y)
    (hf : ∀ a, Agree (f a) (g a)) : Agree (x >>= f) (y >>= g) := by
  intro b
  rw [bind_eq_ok, bind_eq_ok]
  constructor
  · rintro ⟨a, hx, hfa⟩
    exact ⟨a, (h a).mp hx, (hf a b).mp hfa⟩
  · rintro ⟨a, hy, hga⟩
    exact ⟨a, (h a).mpr hy, (hf a b).mpr hga⟩

theorem Agree.map_eq_ok {x y : Except ε α} {f : α → β} {b : β} (h : Agree x y)
    (hx : x.map f = .ok b) : y.map f = .ok b := by
  cases x with
  | error e => cases hx
  | ok a =>
      rw [(h a).mp rfl]
      exact hx

/-- What entries are mapped to, one by one. -/
theorem forall₂_of_mapM {f : α → Except ε β} {entries : List α} {values : List β}
    (h : entries.mapM f = .ok values) :
    List.Forall₂ (fun a value => f a = .ok value) entries values := by
  induction entries generalizing values with
  | nil =>
      cases h
      exact .nil
  | cons a entries ih =>
      rw [List.mapM_cons] at h
      obtain ⟨first, hfirst, h⟩ := bind_eq_ok.mp h
      obtain ⟨rest, hrest, h⟩ := bind_eq_ok.mp h
      cases h
      exact .cons hfirst (ih hrest)

/-- What is mapped to comes from an entry. -/
theorem exists_of_mem_mapM {f : α → Except ε β} {entries : List α} {values : List β}
    (h : entries.mapM f = .ok values) {value : β} (hvalue : value ∈ values) :
    ∃ a ∈ entries, f a = .ok value := by
  have hrelated := forall₂_of_mapM h
  clear h
  induction hrelated with
  | nil => cases hvalue
  | @cons a first entries rest hfirst _ ih =>
      rcases List.mem_cons.mp hvalue with rfl | hmem
      · exact ⟨a, List.mem_cons_self, hfirst⟩
      · obtain ⟨b, hb, hvalue⟩ := ih hmem
        exact ⟨b, List.mem_cons_of_mem a hb, hvalue⟩

/-- A loop of checks passes when each check does. -/
theorem forM_eq_ok {f : α → Except ε Unit} {entries : List α} {u : Unit}
    (h : entries.forM f = .ok u) : ∀ entry ∈ entries, f entry = .ok () := by
  induction entries with
  | nil => nofun
  | cons entry entries ih =>
      obtain ⟨_, hentry, h⟩ := bind_eq_ok.mp h
      intro entry' hmem
      rcases List.mem_cons.mp hmem with rfl | hmem
      · exact hentry
      · exact ih h entry' hmem

/-- A loop fails at the first entry that fails on what the ones before it leave. -/
theorem foldlM_eq_error_iff {f : β → α → Except ε β} {entries : List α} {b : β} {e : ε} :
    entries.foldlM f b = .error e ↔ ∃ before a behind left,
      entries = before ++ a :: behind ∧ before.foldlM f b = .ok left ∧ f left a = .error e := by
  induction entries generalizing b with
  | nil =>
      constructor
      · nofun
      · rintro ⟨before, a, behind, left, h, -⟩
        exact absurd h (List.append_ne_nil_of_right_ne_nil before (List.cons_ne_nil a behind)).symm
  | cons entry entries ih =>
      rw [List.foldlM_cons]
      constructor
      · intro h
        cases hentry : f b entry with
        -- it fails here
        | error e' =>
            rw [hentry] at h
            cases h
            exact ⟨[], entry, entries, b, rfl, rfl, hentry⟩
        -- or behind, from what is left here
        | ok next =>
            rw [hentry] at h
            obtain ⟨before, a, behind, left, rfl, hbefore, hfails⟩ := ih.mp h
            refine ⟨entry :: before, a, behind, left, rfl, ?_, hfails⟩
            rw [List.foldlM_cons, hentry]
            exact hbefore
      · rintro ⟨before, a, behind, left, h, hbefore, hfails⟩
        cases before with
        | nil =>
            obtain ⟨rfl, rfl⟩ := List.cons.inj h
            cases hbefore
            rw [hfails]
            rfl
        | cons first before =>
            obtain ⟨rfl, rfl⟩ := List.cons.inj h
            rw [List.foldlM_cons] at hbefore
            obtain ⟨next, hfirst, hbefore⟩ := bind_eq_ok.mp hbefore
            rw [hfirst]
            exact ih.mpr ⟨before, a, behind, left, rfl, hbefore, hfails⟩

/-- A loop whose entries never fail does not fail. -/
theorem exists_foldlM {f : β → α → Except ε β} {entries : List α}
    (h : ∀ a ∈ entries, ∀ b, ∃ b', f b a = .ok b') (b : β) :
    ∃ b', entries.foldlM f b = .ok b' := by
  cases hrun : entries.foldlM f b with
  | ok b' => exact ⟨b', rfl⟩
  | error e =>
      obtain ⟨before, a, behind, left, rfl, -, hfails⟩ := foldlM_eq_error_iff.mp hrun
      obtain ⟨b', hok⟩ := h a (List.mem_append_right before List.mem_cons_self) left
      rw [hok] at hfails
      cases hfails

/-! ## §2. The loops. -/

section Loops

variable [DecidableEq κ] (duplicate : κ → ε) (entry : α → Except ε (κ × β))

/-- A later value replaces an earlier one. -/
def collect : List α → (Finmap fun _ : κ => β) → Except ε (Finmap fun _ : κ => β)
  | [], m => .ok m
  | a :: entries, m => do
      let (key, value) ← entry a
      collect entries (m.insert key value)

/-- A second value for a key is an error. -/
def collectDistinct : List α → (Finmap fun _ : κ => β) → Except ε (Finmap fun _ : κ => β)
  | [], m => .ok m
  | a :: entries, m => do
      let (key, value) ← entry a
      if key ∈ m then .error (duplicate key)
      else collectDistinct entries (m.insert key value)

variable {duplicate entry}

theorem collect_cons_ok {a : α} {entries : List α} {m m' : Finmap fun _ : κ => β} :
    collect entry (a :: entries) m = .ok m' ↔
      ∃ key value, entry a = .ok (key, value) ∧
        collect entry entries (m.insert key value) = .ok m' := by
  rw [collect, bind_eq_ok]
  constructor
  · rintro ⟨⟨key, value⟩, ha, h⟩
    exact ⟨key, value, ha, h⟩
  · rintro ⟨key, value, ha, h⟩
    exact ⟨(key, value), ha, h⟩

theorem collectDistinct_cons_ok {a : α} {entries : List α} {m m' : Finmap fun _ : κ => β} :
    collectDistinct duplicate entry (a :: entries) m = .ok m' ↔
      ∃ key value, entry a = .ok (key, value) ∧ key ∉ m ∧
        collectDistinct duplicate entry entries (m.insert key value) = .ok m' := by
  rw [collectDistinct, bind_eq_ok]
  constructor
  · rintro ⟨⟨key, value⟩, ha, h⟩
    by_cases hmem : key ∈ m
    · simp only [if_pos hmem] at h
      cases h
    · simp only [if_neg hmem] at h
      exact ⟨key, value, ha, hmem, h⟩
  · rintro ⟨key, value, ha, hmem, h⟩
    refine ⟨(key, value), ha, ?_⟩
    simp only [if_neg hmem]
    exact h

/-! ## §3. The order of the entries. -/

/-- With equal keys refused, the order does not matter. -/
theorem collectDistinct_perm {entries entries' : List α} (h : entries.Perm entries')
    (m : Finmap fun _ : κ => β) :
    Agree (collectDistinct duplicate entry entries m)
      (collectDistinct duplicate entry entries' m) := by
  induction h generalizing m with
  | nil => exact .refl _
  | cons a _ ih =>
      intro m'
      rw [collectDistinct_cons_ok, collectDistinct_cons_ok]
      simp only [ih _ m']
  | swap a b entries =>
      -- one direction is the other with the entries exchanged
      have hswap : ∀ a b m', collectDistinct duplicate entry (a :: b :: entries) m = .ok m' →
          collectDistinct duplicate entry (b :: a :: entries) m = .ok m' := by
        intro a b m' h
        obtain ⟨key, value, ha, hkey, h⟩ := collectDistinct_cons_ok.mp h
        obtain ⟨key', value', hb, hkey', h⟩ := collectDistinct_cons_ok.mp h
        rw [Finmap.mem_insert, not_or] at hkey'
        refine collectDistinct_cons_ok.mpr ⟨key', value', hb, hkey'.2,
          collectDistinct_cons_ok.mpr ⟨key, value, ha, ?_, ?_⟩⟩
        · rw [Finmap.mem_insert, not_or]
          exact ⟨Ne.symm hkey'.1, hkey⟩
        · rw [Finmap.insert_insert_of_ne _ hkey'.1]
          exact h
      exact fun m' => ⟨hswap b a m', hswap a b m'⟩
  | trans _ _ ih ih' => exact (ih m).trans (ih' m)

variable {name : α → κ}

/-- Without equal keys, the order does not matter either. -/
theorem collect_perm (hname : ∀ a key value, entry a = .ok (key, value) → key = name a)
    {entries entries' : List α} (h : entries.Perm entries') (hnodup : (entries.map name).Nodup)
    (m : Finmap fun _ : κ => β) :
    Agree (collect entry entries m) (collect entry entries' m) := by
  induction h generalizing m with
  | nil => exact .refl _
  | cons a _ ih =>
      intro m'
      rw [collect_cons_ok, collect_cons_ok]
      have hrest := (List.nodup_cons.mp hnodup).2
      simp only [ih hrest _ m']
  -- two entries of different names can be inserted in either order
  | swap a b entries =>
      have hswap : ∀ a b m', name a ≠ name b →
          collect entry (a :: b :: entries) m = .ok m' →
          collect entry (b :: a :: entries) m = .ok m' := by
        intro a b m' hne h
        obtain ⟨key, value, ha, h⟩ := collect_cons_ok.mp h
        obtain ⟨key', value', hb, h⟩ := collect_cons_ok.mp h
        have hkeys : key' ≠ key := by
          rw [hname a key value ha, hname b key' value' hb]
          exact Ne.symm hne
        refine collect_cons_ok.mpr ⟨key', value', hb, collect_cons_ok.mpr ⟨key, value, ha, ?_⟩⟩
        rw [Finmap.insert_insert_of_ne _ hkeys]
        exact h
      have hne : name b ≠ name a := by
        intro heq
        apply (List.nodup_cons.mp hnodup).1
        rw [heq]
        exact List.mem_cons_self
      exact fun m' => ⟨hswap b a m' hne, hswap a b m' (Ne.symm hne)⟩
  | trans h₁ _ ih ih' =>
      exact (ih hnodup m).trans (ih' ((h₁.map name).nodup_iff.mp hnodup) m)

/-- What is accepted has no equal keys. -/
theorem nodup_of_collectDistinct
    (hname : ∀ a key value, entry a = .ok (key, value) → key = name a) {entries : List α}
    {m m' : Finmap fun _ : κ => β}
    (h : collectDistinct duplicate entry entries m = .ok m') :
    (entries.map name).Nodup ∧ ∀ a ∈ entries, name a ∉ m := by
  induction entries generalizing m with
  | nil => exact ⟨List.nodup_nil, nofun⟩
  | cons a entries ih =>
      obtain ⟨key, value, ha, hkey, h⟩ := collectDistinct_cons_ok.mp h
      obtain rfl := hname a key value ha
      obtain ⟨hnodup, hfresh⟩ := ih h
      have hfresh' : ∀ b ∈ entries, name b ≠ name a ∧ name b ∉ m := by
        intro b hb
        have hmem := hfresh b hb
        rw [Finmap.mem_insert, not_or] at hmem
        exact hmem
      refine ⟨List.nodup_cons.mpr ⟨?_, hnodup⟩, ?_⟩
      · intro hmem
        obtain ⟨b, hb, heq⟩ := List.mem_map.mp hmem
        exact (hfresh' b hb).1 heq
      · intro b hb
        rcases List.mem_cons.mp hb with rfl | hb
        · exact hkey
        · exact (hfresh' b hb).2

/-! ## §4. What is collected. -/

/-- A collected map has the value of each entry, and otherwise what was there. -/
theorem collect_lookup (hname : ∀ a key value, entry a = .ok (key, value) → key = name a)
    {entries : List α} (hnodup : (entries.map name).Nodup) {m m' : Finmap fun _ : κ => β}
    (h : collect entry entries m = .ok m') :
    (∀ a ∈ entries, ∃ value, entry a = .ok (name a, value) ∧
      m'.lookup (name a) = some value) ∧
    ∀ key, key ∉ entries.map name → m'.lookup key = m.lookup key := by
  induction entries generalizing m with
  | nil =>
      cases h
      exact ⟨nofun, fun _ _ => rfl⟩
  | cons a entries ih =>
      obtain ⟨key, value, ha, h⟩ := collect_cons_ok.mp h
      obtain rfl := hname a key value ha
      obtain ⟨hfresh, hnodup⟩ := List.nodup_cons.mp hnodup
      obtain ⟨hentries, hother⟩ := ih hnodup h
      constructor
      · intro b hb
        rcases List.mem_cons.mp hb with rfl | hb
        · refine ⟨value, ha, ?_⟩
          rw [hother (name b) hfresh]
          exact Finmap.lookup_insert m
        · exact hentries b hb
      · intro key hkey
        rw [List.map_cons, List.mem_cons, not_or] at hkey
        rw [hother key hkey.2]
        exact Finmap.lookup_insert_of_ne m hkey.1

/-- Entries that all yield something are collected. -/
theorem exists_collect {entries : List α}
    (h : ∀ a ∈ entries, ∃ key value, entry a = .ok (key, value))
    (m : Finmap fun _ : κ => β) : ∃ m', collect entry entries m = .ok m' := by
  induction entries generalizing m with
  | nil => exact ⟨m, rfl⟩
  | cons a entries ih =>
      obtain ⟨key, value, ha⟩ := h a List.mem_cons_self
      have hrest := fun b hb => h b (List.mem_cons_of_mem a hb)
      obtain ⟨m', hm'⟩ := ih hrest (m.insert key value)
      exact ⟨m', collect_cons_ok.mpr ⟨key, value, ha, hm'⟩⟩

/-- What holds of every entry's value holds of every collected one. -/
theorem collect_forall {P : κ → β → Prop} {entries : List α}
    (hentry : ∀ a ∈ entries, ∀ key value, entry a = .ok (key, value) → P key value)
    {m m' : Finmap fun _ : κ => β} (hm : ∀ key value, m.lookup key = some value → P key value)
    (h : collect entry entries m = .ok m') :
    ∀ key value, m'.lookup key = some value → P key value := by
  induction entries generalizing m with
  | nil =>
      cases h
      exact hm
  | cons a entries ih =>
      obtain ⟨key, value, ha, h⟩ := collect_cons_ok.mp h
      refine ih (fun a' ha' => hentry a' (List.mem_cons_of_mem _ ha')) ?_ h
      intro key' value' hlookup
      by_cases hkey : key' = key
      · rw [hkey, Finmap.lookup_insert] at hlookup
        obtain rfl := Option.some.inj hlookup
        rw [hkey]
        exact hentry a List.mem_cons_self key value ha
      · rw [Finmap.lookup_insert_of_ne m hkey] at hlookup
        exact hm key' value' hlookup

/-- Of what is collected, every entry yielded something. -/
theorem entry_of_collect {entries : List α} {m m' : Finmap fun _ : κ => β}
    (h : collect entry entries m = .ok m') :
    ∀ a ∈ entries, ∃ key value, entry a = .ok (key, value) := by
  induction entries generalizing m with
  | nil => exact nofun
  | cons a entries ih =>
      obtain ⟨key, value, ha, h⟩ := collect_cons_ok.mp h
      intro b hb
      rcases List.mem_cons.mp hb with rfl | hb
      · exact ⟨key, value, ha⟩
      · exact ih h b hb

/-- `collectDistinct` is `collect` where there are no equal keys. -/
theorem collectDistinct_eq_ok_iff
    (hname : ∀ a key value, entry a = .ok (key, value) → key = name a) {entries : List α}
    {m m' : Finmap fun _ : κ => β} :
    collectDistinct duplicate entry entries m = .ok m' ↔
      ((entries.map name).Nodup ∧ ∀ a ∈ entries, name a ∉ m) ∧
        collect entry entries m = .ok m' := by
  constructor
  · intro h
    refine ⟨nodup_of_collectDistinct hname h, ?_⟩
    induction entries generalizing m with
    | nil => exact h
    | cons a entries ih =>
        obtain ⟨key, value, ha, -, h⟩ := collectDistinct_cons_ok.mp h
        exact collect_cons_ok.mpr ⟨key, value, ha, ih h⟩
  -- the name of the first entry is none of the later ones
  · rintro ⟨⟨hnodup, hfresh⟩, h⟩
    induction entries generalizing m with
    | nil => exact h
    | cons a entries ih =>
        obtain ⟨key, value, ha, h⟩ := collect_cons_ok.mp h
        obtain rfl := hname a key value ha
        obtain ⟨hhead, hnodup⟩ := List.nodup_cons.mp hnodup
        refine collectDistinct_cons_ok.mpr
          ⟨name a, value, ha, hfresh a List.mem_cons_self, ih h hnodup ?_⟩
        intro b hb
        rw [Finmap.mem_insert, not_or]
        refine ⟨?_, hfresh b (List.mem_cons_of_mem a hb)⟩
        intro heq
        exact hhead (heq ▸ List.mem_map_of_mem hb)

/-- Entries that yield the same are collected the same. -/
theorem collect_congr {α' : Type} {entry' : α' → Except ε (κ × β)} {entries : List α}
    {entries' : List α'} (h : List.Forall₂ (fun a a' => entry a = entry' a') entries entries')
    (m : Finmap fun _ : κ => β) : collect entry entries m = collect entry' entries' m := by
  induction h generalizing m with
  | nil => rfl
  | cons ha _ ih =>
      rw [collect, collect, ha]
      simp only [ih]

end Loops

/-! ## §5. Reading a table. -/

section Table

variable {ρ : Type} [DecidableEq κ] (decode : κ → ρ → Except ε β)

/-- The values of a table's rows, under their keys. -/
def readTable (rows : List (κ × ρ)) : Except ε (Finmap fun _ : κ => β) :=
  collect (fun row => do
    let value ← decode row.1 row.2
    return (row.1, value)) rows ∅

variable {decode}

/-- A table is read when each row is; nothing else is in the map. -/
theorem readTable_eq_ok_iff {rows : List (κ × ρ)} (hnodup : (rows.map Prod.fst).Nodup)
    {m : Finmap fun _ : κ => β} :
    readTable decode rows = .ok m ↔
      (∀ row ∈ rows, ∃ value, decode row.1 row.2 = .ok value ∧ m.lookup row.1 = some value) ∧
      ∀ key, key ∉ rows.map Prod.fst → m.lookup key = none := by
  have hentry : ∀ (row : κ × ρ) (key : κ) (value : β),
      (do let value ← decode row.1 row.2; return (row.1, value) : Except ε (κ × β)) =
        .ok (key, value) ↔ decode row.1 row.2 = .ok value ∧ key = row.1 := by
    intro row key value
    rw [bind_eq_ok]
    constructor
    · rintro ⟨value', hvalue, h⟩
      cases h
      exact ⟨hvalue, rfl⟩
    · rintro ⟨hvalue, rfl⟩
      exact ⟨value, hvalue, rfl⟩
  have hname : ∀ (row : κ × ρ) (key : κ) (value : β),
      (do let value ← decode row.1 row.2; return (row.1, value) : Except ε (κ × β)) =
        .ok (key, value) → key = row.1 := fun row key value h => ((hentry row key value).mp h).2
  constructor
  · intro h
    obtain ⟨hrows, hother⟩ := collect_lookup hname hnodup h
    refine ⟨fun row hrow => ?_, fun key hkey => ?_⟩
    · obtain ⟨value, hvalue, hlookup⟩ := hrows row hrow
      exact ⟨value, ((hentry row _ value).mp hvalue).1, hlookup⟩
    · rw [hother key hkey]
      exact Finmap.lookup_empty key
  · rintro ⟨hrows, hother⟩
    -- the loop ends, and with a map of the same values
    have hall : ∀ row ∈ rows, ∃ key value,
        (do let value ← decode row.1 row.2; return (row.1, value) : Except ε (κ × β)) =
          .ok (key, value) := by
      intro row hrow
      obtain ⟨value, hvalue, -⟩ := hrows row hrow
      exact ⟨row.1, value, (hentry row row.1 value).mpr ⟨hvalue, rfl⟩⟩
    obtain ⟨m', hm'⟩ := exists_collect hall ∅
    obtain ⟨hrows', hother'⟩ := collect_lookup hname hnodup hm'
    have hm : m' = m := by
      apply Finmap.ext_lookup
      intro key
      by_cases hkey : key ∈ rows.map Prod.fst
      · obtain ⟨row, hrow, rfl⟩ := List.mem_map.mp hkey
        obtain ⟨value, hvalue, hlookup⟩ := hrows row hrow
        obtain ⟨value', hvalue', hlookup'⟩ := hrows' row hrow
        have heq : decode row.1 row.2 = .ok value' := ((hentry row _ value').mp hvalue').1
        rw [hvalue] at heq
        rw [hlookup, hlookup', Except.ok.inj heq]
      · rw [hother' key hkey, hother key hkey]
        exact Finmap.lookup_empty key
    rw [← hm]
    exact hm'

/-- What a map that was read has under a key is what the row under that key says. -/
def ReadsAs (decode : κ → ρ → Except ε β) (table : Finmap fun _ : κ => ρ)
    (m : Finmap fun _ : κ => β) : Prop :=
  ∀ key, Option.Rel (fun row value => decode key row = .ok value) (table.lookup key)
    (m.lookup key)

variable {table : Finmap fun _ : κ => ρ} {m : Finmap fun _ : κ => β}

theorem ReadsAs.exists_value (h : ReadsAs decode table m) {key : κ} {row : ρ}
    (hrow : table.lookup key = some row) :
    ∃ value, m.lookup key = some value ∧ decode key row = .ok value := by
  have hkey := h key
  rw [hrow] at hkey
  cases hvalue : m.lookup key with
  | none => simp [hvalue] at hkey
  | some value =>
      rw [hvalue] at hkey
      cases hkey with
      | some hdecode => exact ⟨value, rfl, hdecode⟩

theorem ReadsAs.exists_row (h : ReadsAs decode table m) {key : κ} {value : β}
    (hvalue : m.lookup key = some value) :
    ∃ row, table.lookup key = some row ∧ decode key row = .ok value := by
  have hkey := h key
  rw [hvalue] at hkey
  cases hrow : table.lookup key with
  | none => simp [hrow] at hkey
  | some row =>
      rw [hrow] at hkey
      cases hkey with
      | some hdecode => exact ⟨row, rfl, hdecode⟩

theorem ReadsAs.mem_iff (h : ReadsAs decode table m) {key : κ} : key ∈ m ↔ key ∈ table := by
  rw [Finmap.mem_iff, Finmap.mem_iff]
  constructor
  · rintro ⟨value, hvalue⟩
    obtain ⟨row, hrow, -⟩ := h.exists_row hvalue
    exact ⟨row, hrow⟩
  · rintro ⟨row, hrow⟩
    obtain ⟨value, hvalue, -⟩ := h.exists_value hrow
    exact ⟨value, hvalue⟩

/-- A row and its value are written together. -/
theorem ReadsAs.insert (h : ReadsAs decode table m) {key : κ} {row : ρ} {value : β}
    (hdecode : decode key row = .ok value) :
    ReadsAs decode (table.insert key row) (m.insert key value) := by
  intro key'
  by_cases hkey : key' = key
  · subst hkey
    rw [Finmap.lookup_insert, Finmap.lookup_insert]
    exact .some hdecode
  · rw [Finmap.lookup_insert_of_ne _ hkey, Finmap.lookup_insert_of_ne _ hkey]
    exact h key'

end Table

/-! ## §6. Loops over related entries. -/

section Related

variable {α' β' : Type} [DecidableEq κ] {duplicate : κ → ε} {entry : α → Except ε (κ × β)}
  {entry' : α' → Except ε (κ × β')} {R : β → β' → Prop}

/-- Maps with related values under each key. -/
def RelatedMaps (R : β → β' → Prop) (m : Finmap fun _ : κ => β)
    (m' : Finmap fun _ : κ => β') : Prop :=
  ∀ key, Option.Rel R (m.lookup key) (m'.lookup key)

theorem RelatedMaps.empty : RelatedMaps R (∅ : Finmap fun _ : κ => β) ∅ := by
  intro key
  rw [Finmap.lookup_empty, Finmap.lookup_empty]
  exact .none

theorem RelatedMaps.mem_iff {m : Finmap fun _ : κ => β} {m' : Finmap fun _ : κ => β'}
    (h : RelatedMaps R m m') {key : κ} : key ∈ m ↔ key ∈ m' := by
  rw [Finmap.mem_iff, Finmap.mem_iff]
  have hkey := h key
  revert hkey
  cases m.lookup key <;> cases m'.lookup key <;> simp

theorem RelatedMaps.insert {m : Finmap fun _ : κ => β} {m' : Finmap fun _ : κ => β'}
    (h : RelatedMaps R m m') {key : κ} {value : β} {value' : β'} (hvalue : R value value') :
    RelatedMaps R (m.insert key value) (m'.insert key value') := by
  intro key'
  by_cases hkey : key' = key
  · subst hkey
    rw [Finmap.lookup_insert, Finmap.lookup_insert]
    exact .some hvalue
  · rw [Finmap.lookup_insert_of_ne _ hkey, Finmap.lookup_insert_of_ne _ hkey]
    exact h key'

/-- Entries that yield related values under the same keys are collected to related maps. -/
theorem collectDistinct_related {entries : List α} {entries' : List α'}
    (h : List.Forall₂ (fun a a' => ∀ key value, entry a = .ok (key, value) →
      ∃ value', entry' a' = .ok (key, value') ∧ R value value') entries entries')
    {start m : Finmap fun _ : κ => β} {start' : Finmap fun _ : κ => β'}
    (hstart : RelatedMaps R start start')
    (hm : collectDistinct duplicate entry entries start = .ok m) :
    ∃ m', collectDistinct duplicate entry' entries' start' = .ok m' ∧ RelatedMaps R m m' := by
  induction h generalizing start start' with
  | nil =>
      cases hm
      exact ⟨start', rfl, hstart⟩
  | cons ha _ ih =>
      obtain ⟨key, value, hvalue, hfresh, hm⟩ := collectDistinct_cons_ok.mp hm
      obtain ⟨value', hvalue', hR⟩ := ha key value hvalue
      obtain ⟨m', hm', hrelated⟩ := ih (hstart.insert hR) hm
      have hfresh' : key ∉ start' := fun hmem => hfresh (hstart.mem_iff.mpr hmem)
      exact ⟨m', collectDistinct_cons_ok.mpr ⟨key, value', hvalue', hfresh', hm'⟩, hrelated⟩

end Related

end Collect
