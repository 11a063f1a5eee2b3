/-
  OneAiKey.Lib.DeadlineIndex — a deadline queue kept as two maps.

  `buckets` files every key under its deadline, in deadline order, so that
  the due keys are a prefix; `byKey` gives each key's own deadline, so that
  a key can be unfiled without a search.  The two maps carry the same
  relation twice, and every operation has to update both:

    * `file` / `unfile` — put a key into a bucket, take it out again (a
      bucket that becomes empty is removed);
    * `Inverse` — the representation invariant: the two maps are inverse to
      each other and no bucket is empty;
    * `Inverse.record`, `Inverse.remove`, `Inverse.popBucket` — the three
      updates keep it.
-/
import Mathlib.Tactic.Linarith

open Std

namespace DeadlineIndex

variable {δ ι : Type} [Ord δ] [Ord ι]

/-- File key `k` under deadline `d`. -/
def file (buckets : TreeMap δ (TreeSet ι)) (d : δ) (k : ι) : TreeMap δ (TreeSet ι) :=
  buckets.insert d ((buckets[d]?.getD ∅).insert k)

/-- Take key `k` out of the bucket of deadline `d`, and drop an emptied bucket. -/
def unfile (buckets : TreeMap δ (TreeSet ι)) (d : δ) (k : ι) : TreeMap δ (TreeSet ι) :=
  match buckets[d]? with
  | none => buckets
  | some b =>
      if (b.erase k).isEmpty then buckets.erase d else buckets.insert d (b.erase k)

/-- Key `k` is filed under deadline `d`. -/
def Filed (buckets : TreeMap δ (TreeSet ι)) (d : δ) (k : ι) : Prop :=
  ∃ b : TreeSet ι, buckets[d]? = some b ∧ k ∈ b

/-- No bucket is empty. -/
def NoEmptyBucket (buckets : TreeMap δ (TreeSet ι)) : Prop :=
  ∀ (d : δ) (b : TreeSet ι), buckets[d]? = some b → b.isEmpty = false

/-- The two maps are exact inverses and no bucket is empty. -/
structure Inverse (buckets : TreeMap δ (TreeSet ι)) (byKey : TreeMap ι δ) : Prop where
  filed_iff : ∀ d k, Filed buckets d k ↔ byKey[k]? = some d
  noEmpty : NoEmptyBucket buckets

/-! ## §1. No operation leaves an empty bucket. -/

section NoEmptyBucket

variable [TransOrd δ]

theorem NoEmptyBucket.erase {buckets : TreeMap δ (TreeSet ι)} (h : NoEmptyBucket buckets)
    (d : δ) : NoEmptyBucket (buckets.erase d) := by
  intro d' b hb
  rw [TreeMap.getElem?_erase] at hb
  split at hb
  · cases hb
  · exact h d' b hb

theorem NoEmptyBucket.insert {buckets : TreeMap δ (TreeSet ι)} (h : NoEmptyBucket buckets)
    (d : δ) {b : TreeSet ι} (hne : b.isEmpty = false) :
    NoEmptyBucket (buckets.insert d b) := by
  intro d' b' hb'
  rw [TreeMap.getElem?_insert] at hb'
  split at hb'
  · cases hb'
    exact hne
  · exact h d' b' hb'

theorem NoEmptyBucket.file [TransOrd ι] {buckets : TreeMap δ (TreeSet ι)} (h : NoEmptyBucket buckets)
    (d : δ) (k : ι) : NoEmptyBucket (file buckets d k) :=
  h.insert d (TreeSet.isEmpty_insert)

theorem NoEmptyBucket.unfile {buckets : TreeMap δ (TreeSet ι)} (h : NoEmptyBucket buckets)
    (d : δ) (k : ι) : NoEmptyBucket (unfile buckets d k) := by
  unfold DeadlineIndex.unfile
  cases buckets[d]? with
  | none => exact h
  | some b =>
      dsimp only
      split
      · exact h.erase d
      · next he => exact h.insert d (by simpa using he)

theorem inverse_empty [TransOrd ι] :
    Inverse (∅ : TreeMap δ (TreeSet ι)) (∅ : TreeMap ι δ) where
  filed_iff := by simp [Filed]
  noEmpty := by simp [NoEmptyBucket]

end NoEmptyBucket

/-! ## §2. What filing and unfiling do to the filed pairs. -/

variable [TransOrd δ] [LawfulEqOrd δ]

theorem filed_erase (buckets : TreeMap δ (TreeSet ι)) (d d' : δ) (k : ι) :
    Filed (buckets.erase d) d' k ↔ d ≠ d' ∧ Filed buckets d' k := by
  unfold Filed
  by_cases hd : d = d'
  · subst hd
    simp
  · simp [TreeMap.getElem?_erase, hd]

/-- Replacing the bucket of another deadline changes nothing. -/
theorem filed_insert_of_ne (buckets : TreeMap δ (TreeSet ι)) {d d' : δ} (hd : d ≠ d')
    (b : TreeSet ι) (k : ι) : Filed (buckets.insert d b) d' k ↔ Filed buckets d' k := by
  simp [Filed, TreeMap.getElem?_insert, hd]

variable [TransOrd ι] [LawfulEqOrd ι]

theorem filed_file (buckets : TreeMap δ (TreeSet ι)) (d d' : δ) (k k' : ι) :
    Filed (file buckets d k) d' k' ↔ (d = d' ∧ k = k') ∨ Filed buckets d' k' := by
  by_cases hd : d = d'
  · subst hd
    unfold Filed file
    cases hb : buckets[d]? <;> simp
  · rw [file, filed_insert_of_ne buckets hd]
    simp [hd]

theorem filed_unfile (buckets : TreeMap δ (TreeSet ι)) (d d' : δ) (k k' : ι) :
    Filed (unfile buckets d k) d' k' ↔ Filed buckets d' k' ∧ ¬ (d = d' ∧ k = k') := by
  -- another deadline's bucket is not touched
  by_cases hd : d = d'
  · subst hd
    unfold unfile
    cases hb : buckets[d]? with
    | none => simp [Filed, hb]
    | some b =>
        by_cases he : (b.erase k).isEmpty = true
        · -- the bucket held at most `k`, and is gone
          have hgone : ∀ x, x ∉ b.erase k := TreeSet.isEmpty_iff_forall_not_mem.mp he
          simp only [he, if_true, filed_erase]
          constructor
          · rintro ⟨hne, -⟩
            exact absurd rfl hne
          · rintro ⟨⟨b', hb', hk'⟩, hne⟩
            rw [hb] at hb'
            cases hb'
            refine absurd (TreeSet.mem_erase.mpr ⟨?_, hk'⟩) (hgone k')
            simpa using fun h => hne ⟨trivial, h⟩
        · simp [he, Filed, hb, TreeSet.mem_erase, and_comm]
  · have hsame : Filed (unfile buckets d k) d' k' ↔ Filed buckets d' k' := by
      unfold unfile
      cases buckets[d]? with
      | none => rfl
      | some b =>
          dsimp only
          split
          · rw [filed_erase]
            exact and_iff_right hd
          · exact filed_insert_of_ne buckets hd _ k'
    rw [hsame]
    simp [hd]

/-! ## §3. The updates keep the two maps inverse. -/

variable {buckets : TreeMap δ (TreeSet ι)} {byKey : TreeMap ι δ}

/-- Unfiling a key from its own deadline, in both maps. -/
theorem Inverse.remove (h : Inverse buckets byKey) {d : δ} {k : ι}
    (hk : byKey[k]? = some d) : Inverse (unfile buckets d k) (byKey.erase k) where
  filed_iff := by
    intro d' k'
    rw [filed_unfile, h.filed_iff, TreeMap.getElem?_erase]
    by_cases hkk : k = k'
    · subst hkk
      simp [hk]
    · simp [hkk]
  noEmpty := h.noEmpty.unfile d k

/-- Filing a key that has no deadline yet, in both maps. -/
theorem Inverse.record (h : Inverse buckets byKey) {k : ι}
    (hk : byKey[k]? = none) (d : δ) : Inverse (file buckets d k) (byKey.insert k d) where
  filed_iff := by
    intro d' k'
    rw [filed_file, h.filed_iff, TreeMap.getElem?_insert]
    by_cases hkk : k = k'
    · subst hkk
      simp [hk]
    · simp [hkk]
  noEmpty := h.noEmpty.file d k

omit [TransOrd ι] [LawfulEqOrd ι] in
/-- Dropping the whole bucket of `d`, together with the deadline of each of its
keys. -/
theorem Inverse.popBucket (h : Inverse buckets byKey) (d : δ) {byKey' : TreeMap ι δ}
    (hk : ∀ (k : ι) (e : δ), byKey'[k]? = some e ↔ d ≠ e ∧ byKey[k]? = some e) :
    Inverse (buckets.erase d) byKey' where
  filed_iff := by
    intro d' k'
    rw [filed_erase, h.filed_iff, hk]
  noEmpty := h.noEmpty.erase d

end DeadlineIndex
