/-
  OneAiKey.Lib.WriteBehind — a keyed table with writes that are still on their way.

  The table is a function from keys to values, a pending write a key with a
  value, and the pending writes reach the table one after the other, oldest
  first.  `settle` is what the table holds when all of them have arrived, and
  `waiting` the last value that is on its way to a key.

    * `settle_append` / `settle_drain` — handing a write over adds it at the
      end, and its arrival changes nothing;
    * `settle_eq_getD` — the last pending write wins over the table;
    * `settle_update` — a write that goes to the table directly is lost where
      one for the same key is pending;
    * `waiting_append` — a later batch of writes wins;
    * `settle_drop` — a pending write may be lost where it would not be seen.
-/
import Mathlib.Logic.Function.Basic

namespace WriteBehind

variable {κ ν : Type} [DecidableEq κ]

/-- The table when all pending writes have arrived. -/
def settle (table : κ → ν) (pending : List (κ × ν)) : κ → ν :=
  pending.foldl (fun table write => Function.update table write.1 write.2) table

/-- The last value that is on its way to a key. -/
def waiting : List (κ × ν) → κ → Option ν
  | [], _ => none
  | write :: pending, k =>
      match waiting pending k with
      | some v => some v
      | none => if k = write.1 then some write.2 else none

theorem waiting_cons (write : κ × ν) (pending : List (κ × ν)) (k : κ) :
    waiting (write :: pending) k =
      match waiting pending k with
      | some v => some v
      | none => if k = write.1 then some write.2 else none := rfl

variable {table : κ → ν} {pending : List (κ × ν)}

@[simp]
theorem settle_nil (table : κ → ν) : settle table [] = table := rfl

/-- The arrival of the oldest write changes nothing. -/
theorem settle_drain (table : κ → ν) (write : κ × ν) (pending : List (κ × ν)) :
    settle (Function.update table write.1 write.2) pending = settle table (write :: pending) :=
  rfl

/-- A write that is handed over counts after those before it. -/
theorem settle_append (table : κ → ν) (pending : List (κ × ν)) (write : κ × ν) :
    settle table (pending ++ [write]) =
      Function.update (settle table pending) write.1 write.2 := by
  unfold settle
  rw [List.foldl_append]
  rfl

/-- The last pending write wins over the table. -/
theorem settle_eq_getD (table : κ → ν) (pending : List (κ × ν)) (k : κ) :
    settle table pending k = (waiting pending k).getD (table k) := by
  induction pending generalizing table with
  | nil => rfl
  | cons write pending ih =>
      show settle (Function.update table write.1 write.2) pending k = _
      rw [ih, waiting_cons]
      cases hlater : waiting pending k with
      | some v => rfl
      | none =>
          -- nothing later, so what counts is this write or the table
          by_cases hk : k = write.1
          · subst hk
            simp
          · simp [hk]

/-- Of two batches of writes the later one counts, where it has a write. -/
theorem waiting_append (pending later : List (κ × ν)) (k : κ) :
    waiting (pending ++ later) k = (waiting later k).or (waiting pending k) := by
  induction pending with
  | nil => simp [waiting]
  | cons write pending ih =>
      rw [List.cons_append, waiting_cons, ih, waiting_cons]
      cases waiting later k with
      | some v => rfl
      | none => rfl

/-- A write that is on its way, or one after it, waits for its key. -/
theorem exists_waiting_of_mem {write : κ × ν} (h : write ∈ pending) :
    ∃ v, waiting pending write.1 = some v := by
  induction pending with
  | nil => cases h
  | cons first pending ih =>
      rw [waiting_cons]
      cases hlater : waiting pending write.1 with
      | some v => exact ⟨v, rfl⟩
      | none =>
          rcases List.mem_cons.mp h with hfirst | hmem
          · exact ⟨first.2, by rw [hfirst]; exact if_pos rfl⟩
          · obtain ⟨v, hv⟩ := ih hmem
            rw [hlater] at hv
            cases hv

/-- A key that no pending write has to do with keeps its place in the table. -/
theorem settle_congr {table' : κ → ν} {k : κ} (h : table' k = table k) :
    settle table' pending k = settle table pending k := by
  rw [settle_eq_getD, settle_eq_getD, h]

/-- A direct write is what settles unless another value is on its way. -/
theorem settle_update (table : κ → ν) (pending : List (κ × ν)) (k : κ) (v : ν) :
    settle (Function.update table k v) pending k = (waiting pending k).getD v := by
  rw [settle_eq_getD, Function.update_self]

/-- A write may be lost if a later one is on its way to its key, or if the table has its
value already; for another key it makes no difference. -/
theorem settle_drop {write : κ × ν} {k : κ}
    (h : k = write.1 → waiting pending k = none → table k = write.2) :
    settle table (write :: pending) k = settle table pending k := by
  rw [settle_eq_getD, settle_eq_getD, waiting_cons]
  cases hlater : waiting pending k with
  | some v => rfl
  | none =>
      by_cases hk : k = write.1
      · rw [if_pos hk]
        exact (h hk hlater).symm
      · rw [if_neg hk]

end WriteBehind
