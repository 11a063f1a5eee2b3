/-
  OneAiKey.Lib.LatestRow — the last row of each group of a table.

  Rows have a key and a stamp; a new row gets a larger stamp than those before.  The last
  row of a group is asked for in two ways:

      latest       the rows of one key, ordered by their stamps, the first one
      latestRows   grouped by key, the largest stamp of each, joined with the table

  Main results:
    * `mem_latestRows`, `filter_latestRows` — the join has for each key the row that the
      order finds.
-/
import Mathlib.Data.List.Dedup
import Mathlib.Data.List.MinMax

namespace LatestRow

variable {α κ : Type} [DecidableEq κ] (key : α → κ) (stamp : α → Nat)

/-- `ORDER BY stamp DESC LIMIT 1`. -/
def latest (rows : List α) (k : κ) : Option α :=
  (rows.filter fun row => key row = k).argmax stamp

/-- `SELECT MAX(stamp) … GROUP BY key`. -/
def latestStamps (rows : List α) : List Nat :=
  (rows.map key).dedup.filterMap fun k =>
    ((rows.filter fun row => key row = k).map stamp).max?

/-- The join of a table with the largest stamps of some of its rows. -/
def latestRows (within : α → Bool) (rows : List α) : List α :=
  rows.filter fun row => (latestStamps key stamp (rows.filter within)).contains (stamp row)

/-- Later rows have larger stamps. -/
def Ascending (rows : List α) : Prop := rows.Pairwise fun row row' => stamp row < stamp row'

variable {key stamp} {rows : List α} {row : α} {k : κ} {within : α → Bool}

namespace Ascending

theorem nodup_stamps (h : Ascending stamp rows) : (rows.map stamp).Nodup :=
  List.pairwise_map.mpr (h.imp fun hlt => Nat.ne_of_lt hlt)

theorem nodup (h : Ascending stamp rows) : rows.Nodup := h.nodup_stamps.of_map stamp

/-- A row is known by its stamp. -/
theorem eq_of_stamp (h : Ascending stamp rows) {a b : α} (ha : a ∈ rows) (hb : b ∈ rows)
    (heq : stamp a = stamp b) : a = b :=
  List.inj_on_of_nodup_map h.nodup_stamps ha hb heq

theorem filter (h : Ascending stamp rows) (keep : α → Bool) :
    Ascending stamp (rows.filter keep) :=
  List.Pairwise.filter keep h

theorem concat (h : Ascending stamp rows) (hlt : ∀ other ∈ rows, stamp other < stamp row) :
    Ascending stamp (rows ++ [row]) :=
  List.pairwise_append.mpr ⟨h, List.pairwise_singleton _ _,
    fun other hother _ hlast => List.mem_singleton.mp hlast ▸ hlt other hother⟩

end Ascending

/-! ## §1. One row by order. -/

/-- The latest row of a key is the one with the largest stamp. -/
theorem latest_eq_some_iff (h : Ascending stamp rows) :
    latest key stamp rows k = some row ↔
      row ∈ rows ∧ key row = k ∧ ∀ other ∈ rows, key other = k → stamp other ≤ stamp row := by
  have hmem : ∀ other, other ∈ rows.filter (fun row => key row = k) ↔
      other ∈ rows ∧ key other = k := by
    intro other
    rw [List.mem_filter, decide_eq_true_eq]
  unfold latest
  constructor
  · intro hlatest
    obtain ⟨hrow, hkey⟩ := (hmem row).mp (List.argmax_mem hlatest)
    exact ⟨hrow, hkey, fun other hother hk =>
      List.le_of_mem_argmax ((hmem other).mpr ⟨hother, hk⟩) hlatest⟩
  · intro hrow
    obtain ⟨hrow, hkey, hmax⟩ := hrow
    have hrow' := (hmem row).mpr ⟨hrow, hkey⟩
    cases hlatest : (rows.filter fun row => key row = k).argmax stamp with
    | none =>
        rw [List.argmax_eq_none] at hlatest
        rw [hlatest] at hrow'
        cases hrow'
    -- stamps are distinct, so the row with the greatest one is this
    | some last =>
        obtain ⟨hlast, hlastKey⟩ := (hmem last).mp (List.argmax_mem hlatest)
        have hle := List.le_of_mem_argmax hrow' hlatest
        exact congrArg some (h.eq_of_stamp hlast hrow
          (Nat.le_antisymm (hmax last hlast hlastKey) hle))

theorem latest_eq_none_iff :
    latest key stamp rows k = none ↔ ∀ row ∈ rows, key row ≠ k := by
  unfold latest
  rw [List.argmax_eq_none, List.filter_eq_nil_iff]
  simp

/-! ## §2. All rows by grouping. -/

theorem mem_latestStamps {n : Nat} : n ∈ latestStamps key stamp rows ↔
    ∃ row ∈ rows, stamp row = n ∧ ∀ other ∈ rows, key other = key row → stamp other ≤ n := by
  unfold latestStamps
  rw [List.mem_filterMap]
  constructor
  -- the greatest stamp of a key is the stamp of some row of that key
  · intro hmem
    obtain ⟨k, -, hmax⟩ := hmem
    obtain ⟨hn, hle⟩ := List.max?_eq_some_iff.mp hmax
    obtain ⟨row, hrow, hstamp⟩ := List.mem_map.mp hn
    rw [List.mem_filter, decide_eq_true_eq] at hrow
    refine ⟨row, hrow.1, hstamp, fun other hother hk => hle _ (List.mem_map_of_mem ?_)⟩
    rw [List.mem_filter, decide_eq_true_eq]
    exact ⟨hother, hk.trans hrow.2⟩
  · intro hrow
    obtain ⟨row, hrow, hstamp, hle⟩ := hrow
    refine ⟨key row, List.mem_dedup.mpr (List.mem_map_of_mem hrow),
      List.max?_eq_some_iff.mpr ⟨?_, ?_⟩⟩
    · rw [← hstamp]
      exact List.mem_map_of_mem (List.mem_filter.mpr ⟨hrow, decide_eq_true rfl⟩)
    · intro m hm
      obtain ⟨other, hother, rfl⟩ := List.mem_map.mp hm
      rw [List.mem_filter, decide_eq_true_eq] at hother
      exact hle other hother.1 hother.2

/-- The join finds the rows that are the latest of their keys. -/
theorem mem_latestRows (h : Ascending stamp rows) :
    row ∈ latestRows key stamp within rows ↔
      latest key stamp (rows.filter within) (key row) = some row := by
  unfold latestRows
  rw [List.mem_filter, List.contains_iff_mem, mem_latestStamps,
    latest_eq_some_iff (h.filter within)]
  constructor
  · intro hrow
    obtain ⟨hrow, last, hlast, hstamp, hmax⟩ := hrow
    -- the join is on the stamp alone
    obtain rfl := h.eq_of_stamp (List.mem_filter.mp hlast).1 hrow hstamp
    exact ⟨hlast, rfl, hmax⟩
  · intro hrow
    obtain ⟨hrow, -, hmax⟩ := hrow
    exact ⟨(List.mem_filter.mp hrow).1, row, hrow, rfl, hmax⟩

/-- One row for each key that has rows. -/
theorem filter_latestRows (h : Ascending stamp rows) (k : κ) :
    (latestRows key stamp within rows).filter (fun row => key row = k) =
      (latest key stamp (rows.filter within) k).toList := by
  have hnodup : ((latestRows key stamp within rows).filter fun row => key row = k).Nodup :=
    (h.nodup.filter _).filter _
  -- a row of the key is among the latest ones just when it is the latest of its key
  have hmem : ∀ row, row ∈ (latestRows key stamp within rows).filter (fun row => key row = k) ↔
      latest key stamp (rows.filter within) k = some row := by
    intro row
    rw [List.mem_filter, decide_eq_true_eq, mem_latestRows h]
    constructor
    · intro hrow
      exact hrow.2 ▸ hrow.1
    · intro hlatest
      have hk := ((latest_eq_some_iff (h.filter within)).mp hlatest).2.1
      exact ⟨hk.symm ▸ hlatest, hk⟩
  cases hlatest : latest key stamp (rows.filter within) k with
  | none =>
      rw [Option.toList_none, List.eq_nil_iff_forall_not_mem]
      intro row hrow
      rw [hmem, hlatest] at hrow
      cases hrow
  | some row =>
      rw [Option.toList_some, ← List.perm_singleton,
        List.perm_ext_iff_of_nodup hnodup (List.nodup_singleton row)]
      intro other
      rw [hmem, hlatest, List.mem_singleton, Option.some_inj, eq_comm]

/-- No two of the latest rows have one key. -/
theorem nodup_map_latestRows (h : Ascending stamp rows) :
    ((latestRows key stamp within rows).map key).Nodup := by
  refine List.Nodup.map_on (fun row hrow other hother heq => ?_) (h.nodup.filter _)
  rw [mem_latestRows h] at hrow hother
  rw [heq, hother] at hrow
  exact (Option.some.inj hrow).symm

end LatestRow
