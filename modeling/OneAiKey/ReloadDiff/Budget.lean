/-
  OneAiKey.ReloadDiff.Budget — what a reload diff lists, and what its budget
  keeps (`src/management_runtime_diff.rs`).

  A section is the difference of two maps: what only the staged side has, what
  only the active side has, what both have and differs.  The ids of model routes
  are replaced by references before the answer leaves.  One budget for all
  sections then cuts their lists, one after the other, in place.

  Main results:
    * `diffMaps_exact` — the three lists of a section, for any summaries;
    * `redactResourceDiffIds_exact` — one reference for each id;
    * `applyResourceChangeBudget_exact` — the first changes are kept, the rest
      are counted.
-/
import Mathlib.Data.List.Infix
import Std.Data.String.ToNat
import OneAiKey.ReloadDiff

namespace OneAiKey

/-! ## §1. The lists of a section. -/

theorem mem_sortedTexts {texts : List String} {text : String} :
    text ∈ sortedTexts texts ↔ text ∈ texts := by
  unfold sortedTexts
  rw [List.mem_dedup, List.mem_insertionSort]

/-- A `BTreeSet` lists its texts in order, each once. -/
theorem pairwise_sortedTexts (texts : List String) : (sortedTexts texts).Pairwise (· < ·) := by
  have hle : (sortedTexts texts).Pairwise (· ≤ ·) :=
    (List.pairwise_insertionSort (· ≤ ·) texts).sublist (List.dedup_sublist _)
  have hne : (sortedTexts texts).Pairwise (· ≠ ·) := List.nodup_dedup _
  exact (hle.and hne).imp fun h => lt_of_le_of_ne h.1 h.2

/-- What the two maps say of a section: in order, without duplicates, nothing in two
lists. -/
structure RuntimeReloadResourceDiff.Exact {T : Type} (diff : RuntimeReloadResourceDiff)
    (active staged : IdMap T) (changedFields : T → T → List String) : Prop where
  added : ∀ id, id ∈ diff.added ↔ id ∈ staged ∧ id ∉ active
  removed : ∀ id, id ∈ diff.removed ↔ id ∈ active ∧ id ∉ staged
  changed : ∀ change, change ∈ diff.changed ↔
    ∃ activeSummary stagedSummary, active.lookup change.id = some activeSummary ∧
      staged.lookup change.id = some stagedSummary ∧
      change.changedFields = changedFields activeSummary stagedSummary ∧
      change.changedFields ≠ []
  added_sorted : diff.added.Pairwise (· < ·)
  removed_sorted : diff.removed.Pairwise (· < ·)
  changed_sorted : (diff.changed.map (·.id)).Pairwise (· < ·)
  added_removed : diff.added.Disjoint diff.removed
  added_changed : diff.added.Disjoint (diff.changed.map (·.id))
  removed_changed : diff.removed.Disjoint (diff.changed.map (·.id))

section Maps

variable {T : Type} (resourceType : String) (active staged : IdMap T)
  (changedFields : T → T → List String)

theorem mem_added_diffMaps (id : String) :
    id ∈ (diffMaps resourceType active staged changedFields).added ↔
      id ∈ staged ∧ id ∉ active := by
  unfold diffMaps
  dsimp only
  rw [mem_sortedTexts, List.mem_filter, List.mem_filter, List.mem_append, IdMap.mem_sortedKeys,
    IdMap.mem_sortedKeys]
  by_cases hactive : id ∈ active <;> by_cases hstaged : id ∈ staged <;> simp [hactive, hstaged]

theorem mem_removed_diffMaps (id : String) :
    id ∈ (diffMaps resourceType active staged changedFields).removed ↔
      id ∈ active ∧ id ∉ staged := by
  unfold diffMaps
  dsimp only
  rw [mem_sortedTexts, List.mem_filter, List.mem_filter, List.mem_append, IdMap.mem_sortedKeys,
    IdMap.mem_sortedKeys]
  by_cases hactive : id ∈ active <;> by_cases hstaged : id ∈ staged <;> simp [hactive, hstaged]

theorem mem_changed_diffMaps (change : RuntimeReloadResourceChange) :
    change ∈ (diffMaps resourceType active staged changedFields).changed ↔
      ∃ activeSummary stagedSummary, active.lookup change.id = some activeSummary ∧
        staged.lookup change.id = some stagedSummary ∧
        change.changedFields = changedFields activeSummary stagedSummary ∧
        change.changedFields ≠ [] := by
  unfold diffMaps
  dsimp only
  rw [List.mem_insertionSort, List.mem_filterMap]
  constructor
  · rintro ⟨⟨id, activeSummary⟩, hentry, hchange⟩
    obtain ⟨stagedSummary, hstaged, hchange⟩ := Option.bind_eq_some_iff.mp hchange
    dsimp only at hchange
    split at hchange
    · -- no field differs, so nothing is listed
      cases hchange
    · next hfields =>
        obtain rfl := Option.some.inj hchange
        refine ⟨activeSummary, stagedSummary, IdMap.mem_sortedEntries.mp hentry, hstaged, rfl, ?_⟩
        exact fun hnil => hfields (List.isEmpty_iff.mpr hnil)
  · rintro ⟨activeSummary, stagedSummary, hactive, hstaged, hfields, hne⟩
    refine ⟨(change.id, activeSummary), IdMap.mem_sortedEntries.mpr hactive, ?_⟩
    rw [hstaged, Option.bind_some, ← hfields]
    exact if_neg fun hempty => hne (List.isEmpty_iff.mp hempty)

/-- What a list keeps of another, under the names that the other has. -/
theorem filterMap_map_sublist {α β γ : Type} {f : α → Option β} {g : β → γ} {h : α → γ}
    (hname : ∀ a b, f a = some b → g b = h a) (xs : List α) :
    ((xs.filterMap f).map g).Sublist (xs.map h) := by
  induction xs with
  | nil => exact .slnil
  | cons a xs ih =>
      cases hf : f a with
      | none =>
          rw [List.filterMap_cons_none hf]
          exact ih.cons _
      | some b =>
          rw [List.filterMap_cons_some hf, List.map_cons, List.map_cons, hname a b hf]
          exact ih.cons_cons _

/-- The changes are found in the order of the active map, which sorting them leaves alone. -/
theorem pairwise_changed_diffMaps :
    ((diffMaps resourceType active staged changedFields).changed.map (·.id)).Pairwise
      (· < ·) := by
  unfold diffMaps
  dsimp only
  have hkeys : (IdMap.sortedKeys active).Pairwise (· < ·) :=
    ((IdMap.pairwise_sortedKeys active).and (IdMap.nodup_sortedKeys active)).imp
      fun h => lt_of_le_of_ne h.1 h.2
  rw [← IdMap.map_fst_sortedEntries] at hkeys
  -- each change has the key of its entry
  have hfound : (((IdMap.sortedEntries active).filterMap fun entry =>
      (staged.lookup entry.1).bind fun stagedSummary =>
        if (changedFields entry.2 stagedSummary).isEmpty then none
        else some (RuntimeReloadResourceChange.mk entry.1
          (changedFields entry.2 stagedSummary))).map (·.id)).Pairwise (· < ·) := by
    refine hkeys.sublist (filterMap_map_sublist ?_ _)
    intro entry change hchange
    obtain ⟨stagedSummary, -, hchange⟩ := Option.bind_eq_some_iff.mp hchange
    split at hchange
    · cases hchange
    · rw [← Option.some.inj hchange]
  rw [List.Pairwise.insertionSort_eq ((List.pairwise_map.mp hfound).imp le_of_lt)]
  exact hfound

/-- The lists of a section, for any two maps and any comparison of summaries. -/
theorem diffMaps_exact :
    (diffMaps resourceType active staged changedFields).Exact active staged changedFields where
  added := mem_added_diffMaps resourceType active staged changedFields
  removed := mem_removed_diffMaps resourceType active staged changedFields
  changed := mem_changed_diffMaps resourceType active staged changedFields
  added_sorted := pairwise_sortedTexts _
  removed_sorted := pairwise_sortedTexts _
  changed_sorted := pairwise_changed_diffMaps resourceType active staged changedFields
  added_removed := by
    intro id hadded hremoved
    rw [mem_added_diffMaps] at hadded
    rw [mem_removed_diffMaps] at hremoved
    exact hremoved.2 hadded.1
  added_changed := by
    intro id hadded hchanged
    rw [mem_added_diffMaps] at hadded
    obtain ⟨change, hmem, rfl⟩ := List.mem_map.mp hchanged
    obtain ⟨activeSummary, -, hactive, -⟩ := (mem_changed_diffMaps _ _ _ _ change).mp hmem
    exact hadded.2 (Finmap.mem_iff.mpr ⟨activeSummary, hactive⟩)
  removed_changed := by
    intro id hremoved hchanged
    rw [mem_removed_diffMaps] at hremoved
    obtain ⟨change, hmem, rfl⟩ := List.mem_map.mp hchanged
    obtain ⟨-, stagedSummary, -, hstaged, -⟩ := (mem_changed_diffMaps _ _ _ _ change).mp hmem
    exact hremoved.2 (Finmap.mem_iff.mpr ⟨stagedSummary, hstaged⟩)

end Maps

/-! ## §2. References instead of ids. -/

/-- The ids that a section lists. -/
def RuntimeReloadResourceDiff.ids (diff : RuntimeReloadResourceDiff) : List String :=
  diff.added ++ diff.removed ++ diff.changed.map (·.id)

/-- A reference is the place of its id, so it names one id only. -/
theorem redactResourceDiffIds_exact (diff : RuntimeReloadResourceDiff) (refPrefix : String) :
    ∃ reference : String → String,
      redactResourceDiffIds diff refPrefix =
        { diff with
          added := diff.added.map reference
          removed := diff.removed.map reference
          changed := diff.changed.map fun change => { change with id := reference change.id } } ∧
      (∀ id ∈ diff.ids, ∃ index : Nat, reference id = refPrefix ++ ":" ++ toString index ∧
        (sortedTexts diff.ids)[index]? = some id) ∧
      ∀ id ∈ diff.ids, ∀ id' ∈ diff.ids, reference id = reference id' → id = id' := by
  -- every listed id has a place in the sorted list
  have hplace : ∀ id ∈ diff.ids, ∃ index : Nat, (sortedTexts diff.ids).idxOf? id = some index ∧
      (sortedTexts diff.ids)[index]? = some id := by
    intro id hid
    have hmem : ((sortedTexts diff.ids).idxOf? id).isSome = true :=
      List.isSome_idxOf?.mpr (mem_sortedTexts.mpr hid)
    obtain ⟨index, hindex⟩ := Option.isSome_iff_exists.mp hmem
    obtain ⟨hlt, heq, -⟩ := List.idxOf?_eq_some_iff.mp hindex
    exact ⟨index, hindex, List.getElem?_eq_some_iff.mpr ⟨hlt, heq⟩⟩
  refine ⟨_, rfl, ?_, ?_⟩
  · intro id hid
    obtain ⟨index, hindex, hget⟩ := hplace id hid
    have hindex' : (sortedTexts (diff.added ++ diff.removed ++ diff.changed.map (·.id))).idxOf?
        id = some index := hindex
    refine ⟨index, ?_, hget⟩
    rw [hindex']
  · intro id hid id' hid' hsame
    obtain ⟨index, hindex, hget⟩ := hplace id hid
    obtain ⟨index', hindex', hget'⟩ := hplace id' hid'
    unfold RuntimeReloadResourceDiff.ids at hindex hindex'
    rw [hindex, hindex'] at hsame
    -- the same reference is the same place
    have hrepr : Nat.repr index = Nat.repr index' := String.append_right_inj _ |>.mp hsame
    rw [Nat.repr_injective hrepr, hget'] at hget
    exact (Option.some.inj hget).symm

/-! ## §3. The budget. -/

inductive ResourceChange where
  | added (id : String)
  | removed (id : String)
  | changed (change : RuntimeReloadResourceChange)
  deriving DecidableEq, Repr

/-- The changes of a section as its lists are read. -/
def RuntimeReloadResourceDiff.changes (diff : RuntimeReloadResourceDiff) : List ResourceChange :=
  diff.added.map .added ++ diff.removed.map .removed ++ diff.changed.map .changed

/-- The changes of all sections, each with the number of its section, counted from `n`. -/
def changesFrom (n : Nat) (sections : List RuntimeReloadResourceDiff) :
    List (Nat × ResourceChange) :=
  (sections.zipIdx n).flatMap fun entry => entry.1.changes.map fun change => (entry.2, change)

theorem length_changes (diff : RuntimeReloadResourceDiff) :
    diff.changes.length = sectionChangeCount diff := by
  unfold RuntimeReloadResourceDiff.changes sectionChangeCount
  simp only [List.length_append, List.length_map]

theorem length_changesFrom (n : Nat) (sections : List RuntimeReloadResourceDiff) :
    (changesFrom n sections).length = (sections.map sectionChangeCount).sum := by
  induction sections generalizing n with
  | nil => rfl
  | cons diff sections ih =>
      unfold changesFrom at ih ⊢
      rw [List.zipIdx_cons, List.flatMap_cons, List.length_append, ih, List.length_map,
        length_changes, List.map_cons, List.sum_cons]

theorem truncateVec_eq {α : Type} (values : List α) (remaining : Nat) :
    truncateVec values remaining = (values.take remaining, remaining - values.length) := by
  unfold truncateVec
  by_cases h : values.length ≤ remaining
  · rw [if_pos h, List.take_of_length_le h]
  · rw [if_neg h, Nat.sub_eq_zero_of_le (Nat.le_of_not_le h)]

/-- One section keeps its first changes and takes them from the budget. -/
theorem truncateSection_spec (diff : RuntimeReloadResourceDiff) (remaining : Nat) :
    (truncateSection diff remaining).1.resourceType = diff.resourceType ∧
      (truncateSection diff remaining).1.changes = diff.changes.take remaining ∧
      (truncateSection diff remaining).2 = remaining - sectionChangeCount diff := by
  unfold truncateSection
  simp only [truncateVec_eq, true_and]
  constructor
  · -- the three lists are cut one after the other, as one list would be
    unfold RuntimeReloadResourceDiff.changes
    dsimp only
    rw [List.take_append, List.take_append, List.length_append, List.length_map, List.length_map,
      List.map_take, List.map_take, List.map_take, Nat.sub_sub]
  · unfold sectionChangeCount
    omega

theorem sectionChangeCount_truncateSection (diff : RuntimeReloadResourceDiff)
    (remaining : Nat) :
    sectionChangeCount (truncateSection diff remaining).1 =
      min remaining (sectionChangeCount diff) := by
  rw [← length_changes, ← length_changes, (truncateSection_spec diff remaining).2.1,
    List.length_take]

/-- The loop over the sections, from any budget and any section on. -/
theorem applyResourceChangeBudget_spec (n : Nat) (sections : List RuntimeReloadResourceDiff)
    (remaining : Nat) :
    (applyResourceChangeBudget sections remaining).1.map (·.resourceType) =
        sections.map (·.resourceType) ∧
      changesFrom n (applyResourceChangeBudget sections remaining).1 =
        (changesFrom n sections).take remaining ∧
      (applyResourceChangeBudget sections remaining).2 =
        (changesFrom n sections).length - remaining := by
  induction sections generalizing n remaining with
  | nil => exact ⟨rfl, List.take_nil.symm, (Nat.zero_sub _).symm⟩
  | cons diff sections ih =>
      obtain ⟨htype, hchanges, hleft⟩ := truncateSection_spec diff remaining
      obtain ⟨ihtypes, ihchanges, ihomitted⟩ :=
        ih (n + 1) (remaining - sectionChangeCount diff)
      -- the section takes what it has, and the rest gets what is left
      have hsplit : changesFrom n (diff :: sections) =
          (diff.changes.map fun change => (n, change)) ++ changesFrom (n + 1) sections := rfl
      have hlength : (diff.changes.map fun change => (n, change)).length =
          sectionChangeCount diff := by
        rw [List.length_map, length_changes]
      unfold applyResourceChangeBudget
      dsimp only
      rw [hleft]
      refine ⟨?_, ?_, ?_⟩
      · rw [List.map_cons, List.map_cons, htype, ihtypes]
      · have hkept : changesFrom n ((truncateSection diff remaining).1 ::
            (applyResourceChangeBudget sections (remaining - sectionChangeCount diff)).1) =
            ((truncateSection diff remaining).1.changes.map fun change => (n, change)) ++
              changesFrom (n + 1)
                (applyResourceChangeBudget sections (remaining - sectionChangeCount diff)).1 := rfl
        rw [hkept, hsplit, hchanges, ihchanges, List.take_append, hlength, List.map_take]
      · rw [ihomitted, hsplit, List.length_append, hlength, sectionChangeCount_truncateSection]
        omega

/-- The first changes in the order of the sections and their lists are kept, as many as the
budget has, and the others are counted. -/
theorem applyResourceChangeBudget_exact (sections : List RuntimeReloadResourceDiff)
    (budget : Nat) :
    (applyResourceChangeBudget sections budget).1.map (·.resourceType) =
        sections.map (·.resourceType) ∧
      changesFrom 0 (applyResourceChangeBudget sections budget).1 =
        (changesFrom 0 sections).take (min budget (sections.map sectionChangeCount).sum) ∧
      (applyResourceChangeBudget sections budget).2 =
        (sections.map sectionChangeCount).sum -
          min budget (sections.map sectionChangeCount).sum := by
  obtain ⟨htypes, hchanges, homitted⟩ := applyResourceChangeBudget_spec 0 sections budget
  refine ⟨htypes, ?_, ?_⟩
  · rw [hchanges, ← length_changesFrom 0, ← List.take_eq_take_min]
  · rw [homitted, length_changesFrom]
    omega

/-- The diff of any two maps lists what differs, once and in order; its references tell the
ids apart; and a budget keeps the first changes of all sections and counts the others. -/
theorem reload_diff_lists_and_budget_exact {T : Type} (resourceType : String)
    (active staged : IdMap T) (changedFields : T → T → List String)
    (diff : RuntimeReloadResourceDiff) (refPrefix : String)
    (sections : List RuntimeReloadResourceDiff) (budget : Nat) :
    (diffMaps resourceType active staged changedFields).Exact active staged changedFields ∧
    (∃ reference : String → String,
      redactResourceDiffIds diff refPrefix =
        { diff with
          added := diff.added.map reference
          removed := diff.removed.map reference
          changed := diff.changed.map fun change => { change with id := reference change.id } } ∧
      (∀ id ∈ diff.ids, ∃ index : Nat, reference id = refPrefix ++ ":" ++ toString index ∧
        (sortedTexts diff.ids)[index]? = some id) ∧
      ∀ id ∈ diff.ids, ∀ id' ∈ diff.ids, reference id = reference id' → id = id') ∧
    (applyResourceChangeBudget sections budget).1.map (·.resourceType) =
        sections.map (·.resourceType) ∧
    changesFrom 0 (applyResourceChangeBudget sections budget).1 =
      (changesFrom 0 sections).take (min budget (sections.map sectionChangeCount).sum) ∧
    (applyResourceChangeBudget sections budget).2 =
      (sections.map sectionChangeCount).sum -
        min budget (sections.map sectionChangeCount).sum :=
  ⟨diffMaps_exact resourceType active staged changedFields,
    redactResourceDiffIds_exact diff refPrefix, applyResourceChangeBudget_exact sections budget⟩

/-- Two sections under a budget that runs out in the first one's second list. -/
example : applyResourceChangeBudget
    [⟨"accounts", ["a"], ["b", "c"], []⟩, ⟨"channels", ["d"], [], []⟩] 2 =
      ([⟨"accounts", ["a"], ["b"], []⟩, ⟨"channels", [], [], []⟩], 2) := by decide

end OneAiKey
