/-
  OneAiKey.RoutePlan.Exact — the preview says exactly what the route's targets
  and the channel states dictate.

  The specification speaks about target indices only: `HardBlocked`,
  `Eligible` (not blocked, and in the best admission tier among those),
  `IsRouteOrder` (sorted by priority and index, the leading block of equal
  priority rotated to the target of the request's ticket).  The stages of
  `previewRoute` are matched to it one by one; the vector of candidates is
  updated at distinct indices, so each candidate has had its own updates only
  (`IndexedUpdate`).

  Main results:
    * `admitBestTier_spec` — the tier loop keeps the best tier;
    * `route_planning_exact` — order, limit, positions, reasons and selection
      of the preview, and the plan made from it.
-/
import Mathlib.Data.List.TakeWhile
import OneAiKey.Lib.IndexedUpdate
import OneAiKey.RoutePlan.Ticket

namespace OneAiKey

open IndexedUpdate

/-! ## §1. The specification. -/

/-- A state that excludes a channel whatever else there is. -/
def ChannelRouteState.isHard : ChannelRouteState → Bool
  | disabled | coolingDown | noAvailableCredentials | runtimeUnavailable | unknownChannel => true
  | _ => false

/-- The target is disabled, out of the client's scope, or on a channel in a hard
state. -/
def HardBlocked (input : RoutePreviewInput) (target : RouteTarget) : Prop :=
  target.enabled = false ∨
  (input.allowedChannels ≠ [] ∧ target.channelId ∉ input.allowedChannels) ∨
  ∃ state ∈ input.channelStates target.channelId, state.isHard = true

/-- The admission tier of a target; a missing state counts as available. -/
def targetRank (input : RoutePreviewInput) (target : RouteTarget) : Nat :=
  match input.channelStates target.channelId with
  | some .degraded => 1
  | some .providerCoolingDown => 2
  | some .credentialCoolingDown => 3
  | _ => 0

/-- Target `i` has no hard blocker and is in the best tier among such targets. -/
def Eligible (input : RoutePreviewInput) (route : ModelRoute) (i : Nat) : Prop :=
  ∃ target, route.targets[i]? = some target ∧ ¬ HardBlocked input target ∧
    ∀ other ∈ route.targets, ¬ HardBlocked input other →
      targetRank input target ≤ targetRank input other

/-- The priority of target `i`. -/
def priorityAt (route : ModelRoute) (i : Nat) : Nat :=
  (route.targets[i]?.map (·.priority.toNat)).getD 0

/-- Target `i` comes before target `j`, by priority and then by index. -/
def Before (route : ModelRoute) (i j : Nat) : Prop :=
  priorityAt route i < priorityAt route j ∨ (priorityAt route i = priorityAt route j ∧ i < j)

/-- The length of target `i`'s stretch of tickets. -/
def weightAt (route : ModelRoute) (i : Nat) : Nat :=
  (route.targets[i]?.map fun target => max target.weight.toNat 1).getD 1

/-- The hash of the request falls on the stretch behind the first `k` targets of the block. -/
def TicketAt (input : RoutePreviewInput) (route : ModelRoute) (block : List Nat) (k : Nat) :
    Prop :=
  let ticket := (fnv1a input.requestId).toNat % (block.map (weightAt route)).sum
  ((block.take k).map (weightAt route)).sum ≤ ticket ∧
    ticket < ((block.take (k + 1)).map (weightAt route)).sum

/-- The eligible targets in order: sorted by priority and index, with the leading
block of equal lowest priority rotated by `k`.  Under `PriorityWeightedSticky` the
request's ticket says how far; under `Priority` nothing is rotated. -/
def IsRouteOrder (input : RoutePreviewInput) (route : ModelRoute) (order : List Nat) : Prop :=
  ∃ (block rest : List Nat) (k : Nat),
    (∀ i, i ∈ block ++ rest ↔ Eligible input route i) ∧
    (block ++ rest).Pairwise (Before route) ∧
    (∀ i ∈ block, ∀ j ∈ block, priorityAt route i = priorityAt route j) ∧
    (∀ i ∈ block, ∀ j ∈ rest, priorityAt route i < priorityAt route j) ∧
    (block = [] → rest = []) ∧
    (k = 0 ∨ k < block.length) ∧
    (route.strategy = .priority → k = 0) ∧
    (route.strategy = .priorityWeightedSticky → block ≠ [] → TicketAt input route block k) ∧
    order = block.drop k ++ block.take k ++ rest

/-- The route candidate that describes target `i`. -/
def candidateOf (i : Nat) (target : RouteTarget) : RouteCandidate where
  targetIndex := i
  channelId := target.channelId
  providerKind := target.providerKind
  upstreamModel := target.upstreamModel
  priority := target.priority
  weight := target.weight

/-- What the preview says about target `i`, when `planned` are the included targets
in order. -/
structure Verdict (planned : List Nat) (i : Nat) (target : RouteTarget)
    (c : RoutePreviewCandidate) : Prop where
  describes : c.toRouteCandidate = candidateOf i target
  target_enabled : c.targetEnabled = target.enabled
  included_iff : c.included = true ↔ i ∈ planned
  position_iff : ∀ pos, c.planPosition = some pos ↔ planned[pos]? = some i
  selected_iff : c.selected = true ↔ planned.head? = some i
  excluded_reason : c.included = false → ∃ reason ∈ c.reasons,
    routePreviewReasonIsHardBlocker reason = true ∨
      routePreviewReasonIsSoftSuppression reason = true
  included_reason : c.included = true → ∀ reason ∈ c.reasons,
    routePreviewReasonIsHardBlocker reason = false ∧
      routePreviewReasonIsSoftSuppression reason = false

/-! ## §2. Reasons. -/

/-- The list of blockers is empty exactly if nothing blocks the target. -/
theorem hardBlockers_nil_iff (input : RoutePreviewInput) (target : RouteTarget) :
    hardBlockers input target = [] ↔ ¬ HardBlocked input target := by
  -- the scope of the client, as the statement has it
  have hscope : channelIsAllowed target.channelId input.allowedChannels = true ↔
      ¬ (input.allowedChannels ≠ [] ∧ target.channelId ∉ input.allowedChannels) := by
    unfold channelIsAllowed
    simp only [Bool.or_eq_true, List.isEmpty_iff, List.any_eq_true, beq_iff_eq]
    constructor
    · rintro (hnil | ⟨allowed, hmem, rfl⟩) ⟨hne, hnot⟩
      · exact hne hnil
      · exact hnot hmem
    · intro h
      by_cases hnil : input.allowedChannels = []
      · exact Or.inl hnil
      · refine Or.inr ⟨target.channelId, ?_, rfl⟩
        by_contra hnot
        exact h ⟨hnil, hnot⟩
  unfold HardBlocked hardBlockers
  simp only [List.append_eq_nil_iff, ite_eq_right_iff, List.cons_ne_nil, imp_false,
    Bool.not_eq_true', Bool.not_eq_false, hscope]
  cases hs : input.channelStates target.channelId with
  | none => simp
  | some state => cases state <;> simp [ChannelRouteState.isHard]

/-- Every blocker of the first stage is a hard one. -/
theorem hardBlockers_hard {input : RoutePreviewInput} {target : RouteTarget}
    {reason : RoutePreviewReason} (h : reason ∈ hardBlockers input target) :
    routePreviewReasonIsHardBlocker reason = true := by
  unfold hardBlockers at h
  simp only [List.mem_append, List.mem_ite_nil_right, List.mem_singleton] at h
  rcases h with (((((⟨-, rfl⟩ | ⟨-, rfl⟩) | ⟨-, rfl⟩) | ⟨-, rfl⟩) | ⟨-, rfl⟩) | ⟨-, rfl⟩) | ⟨-, rfl⟩
    <;> rfl

/-- The reasons for a last resort neither block a target nor put it behind others. -/
theorem lastResortReasons_mild {state : Option ChannelRouteState} {reason : RoutePreviewReason}
    (h : reason ∈ lastResortReasons state) :
    routePreviewReasonIsHardBlocker reason = false ∧
      routePreviewReasonIsSoftSuppression reason = false := by
  unfold lastResortReasons at h
  split at h <;> simp_all [routePreviewReasonIsHardBlocker, routePreviewReasonIsSoftSuppression]

/-- A tier above another one is a soft tier, and gives a soft reason. -/
theorem suppressionReasons_soft {state : Option ChannelRouteState} {n : Nat}
    (h : n < (routeStateAdmissionTier state).rank) :
    ∃ reason ∈ suppressionReasons state, routePreviewReasonIsSoftSuppression reason = true := by
  unfold routeStateAdmissionTier at h
  split at h
  · exact ⟨.channelDegraded, List.mem_singleton_self _, rfl⟩
  · exact ⟨.providerCoolingDown, List.mem_singleton_self _, rfl⟩
  · exact ⟨.credentialCoolingDown, List.mem_singleton_self _, rfl⟩
  · cases h

/-! ## §3. The eligible entries. -/

/-- The entry of target `i`. -/
def entryOf (i : Nat) (target : RouteTarget) : Entry := (i, candidateOf i target)

/-- The rank of an entry is that of its target. -/
theorem entryRank_entryOf (input : RoutePreviewInput) (i : Nat) (target : RouteTarget) :
    entryRank input (entryOf i target) = targetRank input target := by
  unfold entryRank targetRank
  show (routeStateAdmissionTier (input.channelStates target.channelId)).rank = _
  cases input.channelStates target.channelId with
  | none => rfl
  | some state => cases state <;> rfl

/-- At every index stands the candidate of the target with that index. -/
theorem getElem?_initialCandidates (input : RoutePreviewInput) (route : ModelRoute) (i : Nat) :
    (initialCandidates input route)[i]? =
      route.targets[i]?.map (previewCandidate input i) := by
  unfold initialCandidates
  rw [List.getElem?_map, List.getElem?_zipIdx]
  cases route.targets[i]? <;> simp

/-- The entries that reach the tier loop: the targets without a hard blocker. -/
theorem mem_eligibleEntries (input : RoutePreviewInput) (route : ModelRoute) (e : Entry) :
    e ∈ eligibleEntries (initialCandidates input route) ↔
      ∃ target, route.targets[e.1]? = some target ∧ ¬ HardBlocked input target ∧
        e = entryOf e.1 target := by
  unfold eligibleEntries
  simp only [List.mem_map, List.mem_filter, List.isEmpty_iff]
  constructor
  · rintro ⟨c, ⟨hc, hnil⟩, rfl⟩
    obtain ⟨i, hi⟩ := List.mem_iff_getElem?.mp hc
    rw [getElem?_initialCandidates] at hi
    obtain ⟨target, ht, rfl⟩ := Option.map_eq_some_iff.mp hi
    exact ⟨target, ht, (hardBlockers_nil_iff input target).mp hnil, rfl⟩
  · rintro ⟨target, ht, hnot, he⟩
    refine ⟨previewCandidate input e.1 target, ⟨?_, ?_⟩, he.symm⟩
    · refine List.mem_iff_getElem?.mpr ⟨e.1, ?_⟩
      rw [getElem?_initialCandidates, ht]
      rfl
    · exact (hardBlockers_nil_iff input target).mpr hnot

/-- No target has two entries. -/
theorem nodup_eligibleEntries (input : RoutePreviewInput) (route : ModelRoute) :
    ((eligibleEntries (initialCandidates input route)).map Prod.fst).Nodup := by
  have hindex : (initialCandidates input route).map (·.targetIndex)
      = List.range route.targets.length := by
    unfold initialCandidates
    rw [List.map_map]
    show route.targets.zipIdx.map Prod.snd = _
    rw [List.zipIdx_map_snd, List.range_eq_range']
  unfold eligibleEntries
  rw [List.map_map]
  show (((initialCandidates input route).filter _).map (·.targetIndex)).Nodup
  have hsub := (List.filter_sublist (p := fun c : RoutePreviewCandidate => c.reasons.isEmpty)
    (l := initialCandidates input route)).map (·.targetIndex)
  rw [hindex] at hsub
  exact hsub.nodup List.nodup_range

/-! ## §4. Sorting by priority and index. -/

/-- Entries are sorted by priority, and by index among equal priorities. -/
theorem keyLE_iff (a b : Entry) :
    keyLE a b ↔ a.2.priority.toNat < b.2.priority.toNat ∨
      (a.2.priority.toNat = b.2.priority.toNat ∧ a.1 ≤ b.1) := by
  unfold keyLE
  rw [UInt16.lt_iff_toNat_lt, ← UInt16.toNat_inj]

theorem keyLE_total (a b : Entry) : keyLE a b ∨ keyLE b a := by
  rw [keyLE_iff, keyLE_iff]
  omega

theorem keyLE_trans {a b c : Entry} (hab : keyLE a b) (hbc : keyLE b c) : keyLE a c := by
  rw [keyLE_iff] at *
  omega

instance : Std.Total keyLE := ⟨keyLE_total⟩
instance : IsTrans Entry keyLE := ⟨fun _ _ _ => keyLE_trans⟩

/-- The sorted entries of the targets without a hard blocker. -/
def sortedEntries (input : RoutePreviewInput) (route : ModelRoute) : List Entry :=
  sortEntries (eligibleEntries (initialCandidates input route))

/-- The sorted entries are those of the targets that nothing blocks. -/
theorem mem_sortedEntries (input : RoutePreviewInput) (route : ModelRoute) (e : Entry) :
    e ∈ sortedEntries input route ↔
      ∃ target, route.targets[e.1]? = some target ∧ ¬ HardBlocked input target ∧
        e = entryOf e.1 target := by
  unfold sortedEntries sortEntries
  rw [List.mem_insertionSort, mem_eligibleEntries]

/-- A target has one entry. -/
theorem nodup_sortedEntries (input : RoutePreviewInput) (route : ModelRoute) :
    ((sortedEntries input route).map Prod.fst).Nodup :=
  ((List.perm_insertionSort keyLE _).map Prod.fst).nodup_iff.mpr
    (nodup_eligibleEntries input route)

/-- The sorted entries are in the order of the keys. -/
theorem pairwise_sortedEntries (input : RoutePreviewInput) (route : ModelRoute) :
    (sortedEntries input route).Pairwise keyLE :=
  List.pairwise_insertionSort keyLE _

/-! ## §5. The tier loop. -/

/-- What the tier loop writes at the index of an entry. -/
def tierMark (input : RoutePreviewInput) (preferred : Nat) (e : Entry) :
    RoutePreviewCandidate → RoutePreviewCandidate :=
  RoutePreviewCandidate.push (if preferred < entryRank input e then
    suppressionReasons (entryState input e) else lastResortReasons (entryState input e))

/-- The loop's two results, separately. -/
theorem foldl_admissionStep (input : RoutePreviewInput) (preferred : Nat) (entries : List Entry)
    (acc : List RoutePreviewCandidate × List Entry) :
    entries.foldl (admissionStep input preferred) acc =
      (applyAll Prod.fst (tierMark input preferred) entries acc.1,
        acc.2 ++ entries.filter fun e => decide (entryRank input e ≤ preferred)) := by
  induction entries generalizing acc with
  | nil => simp
  | cons e entries ih =>
      rw [List.foldl_cons, ih, applyAll_cons]
      unfold admissionStep tierMark
      by_cases h : preferred < entryRank input e
      · have hle : ¬ entryRank input e ≤ preferred := Nat.not_le_of_lt h
        simp [h, hle]
      · have hle : entryRank input e ≤ preferred := Nat.le_of_not_lt h
        simp [h, hle]

/-- The best rank of the entries, 0 when there are none. -/
def preferredRank (input : RoutePreviewInput) (entries : List Entry) : Nat :=
  ((entries.map (entryRank input)).min?).getD 0

/-- No entry has a better rank than the preferred one. -/
theorem preferredRank_le {input : RoutePreviewInput} {entries : List Entry} {e : Entry}
    (he : e ∈ entries) : preferredRank input entries ≤ entryRank input e := by
  unfold preferredRank
  cases hm : (entries.map (entryRank input)).min? with
  | none => exact Nat.zero_le _
  | some m =>
      exact (List.min?_eq_some_iff.mp hm).2 _ (List.mem_map_of_mem he)

/-- Some entry has the best rank. -/
theorem preferredRank_mem {input : RoutePreviewInput} {entries : List Entry} {e : Entry}
    (he : e ∈ entries) : ∃ e' ∈ entries, entryRank input e' = preferredRank input entries := by
  unfold preferredRank
  cases hm : (entries.map (entryRank input)).min? with
  | none =>
      rw [List.min?_eq_none_iff, List.map_eq_nil_iff] at hm
      rw [hm] at he
      cases he
  | some m =>
      obtain ⟨e', he', hrank⟩ := List.mem_map.mp (List.min?_eq_some_iff.mp hm).1
      exact ⟨e', he', hrank⟩

/-- The tier loop marks every entry and keeps the entries of the best rank. -/
theorem admitBestTier_spec (input : RoutePreviewInput) (candidates : List RoutePreviewCandidate)
    (entries : List Entry) :
    admitBestTier input candidates entries =
      (applyAll Prod.fst (tierMark input (preferredRank input entries)) entries candidates,
        entries.filter fun e => decide (entryRank input e ≤ preferredRank input entries)) := by
  unfold admitBestTier
  cases hm : (entries.map (entryRank input)).min? with
  | none =>
      rw [List.min?_eq_none_iff, List.map_eq_nil_iff] at hm
      subst hm
      rfl
  | some m =>
      have hp : preferredRank input entries = m := by
        unfold preferredRank
        rw [hm]
        rfl
      dsimp only
      rw [foldl_admissionStep, hp]
      rfl

/-- The retained entries, in order. -/
def retainedEntries (input : RoutePreviewInput) (route : ModelRoute) : List Entry :=
  (sortedEntries input route).filter fun e =>
    decide (entryRank input e ≤ preferredRank input (sortedEntries input route))

/-- The retained entries are the eligible targets. -/
theorem mem_retainedEntries (input : RoutePreviewInput) (route : ModelRoute) (i : Nat) :
    i ∈ (retainedEntries input route).map Prod.fst ↔ Eligible input route i := by
  unfold retainedEntries
  simp only [List.mem_map, List.mem_filter, decide_eq_true_eq]
  constructor
  -- the entry is of the best rank, so no target that may be used is better
  · rintro ⟨e, ⟨he, hrank⟩, rfl⟩
    obtain ⟨target, ht, hnot, heq⟩ := (mem_sortedEntries input route e).mp he
    refine ⟨target, ht, hnot, ?_⟩
    intro other hother hnot'
    obtain ⟨j, hj⟩ := List.mem_iff_getElem?.mp hother
    have hmem : entryOf j other ∈ sortedEntries input route :=
      (mem_sortedEntries input route _).mpr ⟨other, hj, hnot', rfl⟩
    have hle := @preferredRank_le input _ _ hmem
    rw [entryRank_entryOf] at hle
    rw [heq, entryRank_entryOf] at hrank
    exact Nat.le_trans hrank hle
  -- no target is better, so it is of the best rank
  · rintro ⟨target, ht, hnot, hbest⟩
    have hmem : entryOf i target ∈ sortedEntries input route :=
      (mem_sortedEntries input route _).mpr ⟨target, ht, hnot, rfl⟩
    refine ⟨entryOf i target, ⟨hmem, ?_⟩, rfl⟩
    obtain ⟨e', he', hrank⟩ := @preferredRank_mem input _ _ hmem
    obtain ⟨other, ho, hnot', heq⟩ := (mem_sortedEntries input route e').mp he'
    rw [← hrank, heq, entryRank_entryOf, entryRank_entryOf]
    exact hbest other (List.mem_of_getElem? ho) hnot'

/-- Every retained entry is the entry of its target. -/
theorem entry_of_mem_retained {input : RoutePreviewInput} {route : ModelRoute} {e : Entry}
    (he : e ∈ retainedEntries input route) :
    ∃ target, route.targets[e.1]? = some target ∧ e = entryOf e.1 target := by
  obtain ⟨target, ht, -, heq⟩ :=
    (mem_sortedEntries input route e).mp (List.mem_filter.mp he).1
  exact ⟨target, ht, heq⟩

/-- The entry of a target carries the target's priority. -/
theorem priorityAt_of_mem_retained {input : RoutePreviewInput} {route : ModelRoute} {e : Entry}
    (he : e ∈ retainedEntries input route) : priorityAt route e.1 = e.2.priority.toNat := by
  obtain ⟨target, ht, heq⟩ := entry_of_mem_retained he
  unfold priorityAt
  rw [ht]
  rw [heq]
  rfl

/-- It carries the target's weight, too; a weight of zero counts as one there as here. -/
theorem weightAt_of_mem_retained {input : RoutePreviewInput} {route : ModelRoute} {e : Entry}
    (he : e ∈ retainedEntries input route) : weightAt route e.1 = entryWeight e := by
  obtain ⟨target, ht, heq⟩ := entry_of_mem_retained he
  unfold weightAt
  rw [ht, heq]
  rfl

/-- The retained entries are in the order of the route. -/
theorem pairwise_retainedEntries (input : RoutePreviewInput) (route : ModelRoute) :
    ((retainedEntries input route).map Prod.fst).Pairwise (Before route) := by
  have hsub : (retainedEntries input route).Sublist (sortedEntries input route) :=
    List.filter_sublist
  have hkey := (pairwise_sortedEntries input route).sublist hsub
  have hnd : (retainedEntries input route).Pairwise (fun a b => a.1 ≠ b.1) :=
    List.pairwise_map.mp ((hsub.map Prod.fst).nodup (nodup_sortedEntries input route))
  rw [List.pairwise_map]
  refine (hkey.and hnd).imp_of_mem ?_
  rintro a b ha hb ⟨hle, hne⟩
  unfold Before
  rw [priorityAt_of_mem_retained ha, priorityAt_of_mem_retained hb]
  rcases hle with hlt | ⟨heq, hi⟩
  · exact Or.inl (UInt16.lt_iff_toNat_lt.mp hlt)
  · exact Or.inr ⟨by rw [heq], by omega⟩

/-! ## §6. The leading block and its rotation. -/

/-- Behind the leading block of a sorted list every priority is higher. -/
theorem priority_lt_of_mem_dropWhile {first : Entry} {rest : List Entry}
    (hsorted : (first :: rest).Pairwise keyLE) {b : Entry}
    (hb : b ∈ (first :: rest).dropWhile fun e => e.2.priority == first.2.priority) :
    first.2.priority.toNat < b.2.priority.toNat := by
  have hhead := List.head?_dropWhile_not (fun e : Entry => e.2.priority == first.2.priority)
    (first :: rest)
  have hsuffix := List.dropWhile_sublist (fun e : Entry => e.2.priority == first.2.priority)
    (l := first :: rest)
  cases hdw : (first :: rest).dropWhile fun e => e.2.priority == first.2.priority with
  | nil =>
      rw [hdw] at hb
      cases hb
  | cons d ds =>
      rw [hdw] at hb hhead hsuffix
      -- the first entry after the block has another priority, so a higher one
      have hdne : d.2.priority.toNat ≠ first.2.priority.toNat := by
        intro heq
        have hsame : d.2.priority = first.2.priority := UInt16.toNat_inj.mp heq
        simp [hsame] at hhead
      have hlt : first.2.priority.toNat < d.2.priority.toNat := by
        rcases List.mem_cons.mp (hsuffix.subset List.mem_cons_self) with rfl | hmem
        · exact absurd rfl hdne
        · have hle := (keyLE_iff _ _).mp (List.rel_of_pairwise_cons hsorted hmem)
          omega
      rcases List.mem_cons.mp hb with rfl | hb
      · exact hlt
      · have hle := (keyLE_iff _ _).mp
          (List.rel_of_pairwise_cons (hsorted.sublist hsuffix) hb)
        omega

/-- The leading block and the rest of a sorted list of entries. -/
theorem leading_block {entries : List Entry} (hsorted : entries.Pairwise keyLE) :
    (∀ a ∈ entries.take (tierLength entries), ∀ b ∈ entries.take (tierLength entries),
      a.2.priority.toNat = b.2.priority.toNat) ∧
    (∀ a ∈ entries.take (tierLength entries), ∀ b ∈ entries.drop (tierLength entries),
      a.2.priority.toNat < b.2.priority.toNat) ∧
    (entries.take (tierLength entries) = [] → entries.drop (tierLength entries) = []) := by
  cases entries with
  | nil => simp
  | cons first rest =>
      let same : Entry → Bool := fun e => e.2.priority == first.2.priority
      have htake : (first :: rest).take (tierLength (first :: rest)) =
          (first :: rest).takeWhile same :=
        (List.prefix_iff_eq_take.mp (List.takeWhile_prefix same)).symm
      -- the rest begins where the equal priorities end
      have hdrop : (first :: rest).drop (tierLength (first :: rest)) =
          (first :: rest).dropWhile same := by
        have hsplit := @List.takeWhile_append_dropWhile _ same (first :: rest)
        calc (first :: rest).drop ((first :: rest).takeWhile same).length
            = ((first :: rest).takeWhile same ++ (first :: rest).dropWhile same).drop
                ((first :: rest).takeWhile same).length := by rw [hsplit]
          _ = (first :: rest).dropWhile same := List.drop_left
      have hfirst : ∀ a ∈ (first :: rest).takeWhile same,
          a.2.priority.toNat = first.2.priority.toNat := by
        intro a ha
        have heq : a.2.priority = first.2.priority := by
          simpa [same] using List.mem_takeWhile_imp ha
        rw [heq]
      rw [htake, hdrop]
      refine ⟨?_, ?_, ?_⟩
      · intro a ha b hb
        rw [hfirst a ha, hfirst b hb]
      · intro a ha b hb
        rw [hfirst a ha]
        exact priority_lt_of_mem_dropWhile hsorted hb
      · intro hnil
        simp [same] at hnil

/-- The entries that the limit is applied to. -/
def orderedEntries (input : RoutePreviewInput) (route : ModelRoute) : List Entry :=
  if route.strategy = .priorityWeightedSticky then
    orderWeightedPriorityTierWithIndices (retainedEntries input route) input.requestId
  else retainedEntries input route

/-- Rotating the leading targets loses none and doubles none. -/
theorem rotateLeading_perm {α : Type} (n k : Nat) (xs : List α) :
    (rotateLeading n k xs).Perm xs := by
  unfold rotateLeading
  have hblock : ((xs.take n).drop k ++ (xs.take n).take k).Perm (xs.take n) :=
    List.perm_append_comm.trans (by rw [List.take_append_drop])
  refine (hblock.append_right _).trans ?_
  rw [List.take_append_drop]

/-- Where the search of the source stops is where the ticket falls in the block. -/
theorem ticketAt_of_search {input : RoutePreviewInput} {route : ModelRoute} {block : List Nat}
    {k : Nat} (h : ticketSearch (block.map (weightAt route))
      ((fnv1a input.requestId).toNat % (block.map (weightAt route)).sum) = some k) :
    TicketAt input route block k := by
  unfold TicketAt
  rw [List.map_take, List.map_take]
  exact ((ticketSearch_eq_some_iff _ _ _).mp h).2

/-- In both strategies the order is a rotation of the leading block. -/
theorem orderedEntries_eq_rotate (input : RoutePreviewInput) (route : ModelRoute) :
    ∃ k, (k = 0 ∨ k < tierLength (retainedEntries input route)) ∧
      (route.strategy = .priority → k = 0) ∧
      (route.strategy = .priorityWeightedSticky → 0 < tierLength (retainedEntries input route) →
        ticketSearch
          (((retainedEntries input route).take (tierLength (retainedEntries input route))).map
            entryWeight)
          ((fnv1a input.requestId).toNat % totalWeight (retainedEntries input route)) =
            some k) ∧
      orderedEntries input route =
        rotateLeading (tierLength (retainedEntries input route)) k
          (retainedEntries input route) := by
  unfold orderedEntries
  -- only this strategy rotates
  by_cases hsticky : route.strategy = .priorityWeightedSticky
  · have hpriority : ∀ k, route.strategy = .priority → k = 0 := by
      intro k hpriority
      rw [hpriority] at hsticky
      cases hsticky
    rw [if_pos hsticky, orderWeighted_eq_orderAtTicket]
    by_cases hblock : 0 < tierLength (retainedEntries input route)
    · obtain ⟨k, e, hsearch, hk, horder, -⟩ :=
        orderAtTicket_spec (Nat.mod_lt (fnv1a input.requestId).toNat (totalWeight_pos hblock))
      have hlt := ticketSearch_lt hsearch
      rw [List.length_map, List.length_take, Nat.min_eq_left (tierLength_le _)] at hlt
      exact ⟨k, Or.inr hlt, hpriority k, fun _ _ => hsearch, horder⟩
    · -- without a block there is nothing to rotate
      have hzero : tierLength (retainedEntries input route) = 0 := by omega
      refine ⟨0, Or.inl rfl, hpriority 0, fun _ h => absurd h hblock, ?_⟩
      unfold orderAtTicket rotateLeading
      rw [hzero]
      simp only [List.take_zero, List.drop_nil, List.take_nil]
  · rw [if_neg hsticky]
    exact ⟨0, Or.inl rfl, fun _ => rfl, fun h => absurd h hsticky, (rotateLeading_zero _ _).symm⟩

/-- What the planner orders is the order of the route, rotated by the ticket where the strategy
says so. -/
theorem isRouteOrder_orderedEntries (input : RoutePreviewInput) (route : ModelRoute) :
    IsRouteOrder input route ((orderedEntries input route).map Prod.fst) := by
  obtain ⟨k, hk, hpriority, hticket, horder⟩ := orderedEntries_eq_rotate input route
  have hsorted : (retainedEntries input route).Pairwise keyLE :=
    (pairwise_sortedEntries input route).sublist List.filter_sublist
  obtain ⟨hequal, hgreater, hempty⟩ := leading_block hsorted
  have hpri : ∀ e ∈ retainedEntries input route, priorityAt route e.1 = e.2.priority.toNat :=
    fun e he => priorityAt_of_mem_retained he
  -- the leading block and the rest are what was retained, in its order
  have hsplit : ((retainedEntries input route).take
      (tierLength (retainedEntries input route))).map Prod.fst ++
      ((retainedEntries input route).drop
        (tierLength (retainedEntries input route))).map Prod.fst =
      (retainedEntries input route).map Prod.fst := by
    rw [← List.map_append, List.take_append_drop]
  -- the stretches of the block's targets are the entries' weights
  have hweights : (((retainedEntries input route).take
      (tierLength (retainedEntries input route))).map Prod.fst).map (weightAt route) =
      ((retainedEntries input route).take (tierLength (retainedEntries input route))).map
        entryWeight := by
    rw [List.map_map]
    exact List.map_congr_left fun e he => weightAt_of_mem_retained (List.mem_of_mem_take he)
  refine ⟨_, _, k, ?_, hsplit ▸ pairwise_retainedEntries input route, ?_, ?_, ?_, ?_,
    hpriority, ?_, ?_⟩
  · intro i
    rw [hsplit]
    exact mem_retainedEntries input route i
  · intro i hi j hj
    obtain ⟨a, ha, rfl⟩ := List.mem_map.mp hi
    obtain ⟨b, hb, rfl⟩ := List.mem_map.mp hj
    rw [hpri a (List.mem_of_mem_take ha), hpri b (List.mem_of_mem_take hb)]
    exact hequal a ha b hb
  · intro i hi j hj
    obtain ⟨a, ha, rfl⟩ := List.mem_map.mp hi
    obtain ⟨b, hb, rfl⟩ := List.mem_map.mp hj
    rw [hpri a (List.mem_of_mem_take ha), hpri b (List.mem_of_mem_drop hb)]
    exact hgreater a ha b hb
  · intro hnil
    rw [List.map_eq_nil_iff] at hnil ⊢
    exact hempty hnil
  · rw [List.length_map, List.length_take,
      Nat.min_eq_left (tierLength_le (retainedEntries input route))]
    exact hk
  · intro hsticky hblock
    have hlength : 0 < tierLength (retainedEntries input route) := by
      refine Nat.pos_of_ne_zero fun hzero => hblock ?_
      rw [hzero]
      rfl
    refine ticketAt_of_search ?_
    rw [hweights]
    exact hticket hsticky hlength
  · rw [horder]
    unfold rotateLeading
    simp only [List.map_append, List.map_drop, List.map_take]

/-- The rotation keeps the entries. -/
theorem mem_orderedEntries (input : RoutePreviewInput) (route : ModelRoute) (e : Entry) :
    e ∈ orderedEntries input route ↔ e ∈ retainedEntries input route := by
  obtain ⟨k, -, -, -, horder⟩ := orderedEntries_eq_rotate input route
  rw [horder]
  exact (rotateLeading_perm _ _ _).mem_iff

/-- The ordered entries hold each target once. -/
theorem nodup_orderedEntries (input : RoutePreviewInput) (route : ModelRoute) :
    ((orderedEntries input route).map Prod.fst).Nodup := by
  obtain ⟨k, -, -, -, horder⟩ := orderedEntries_eq_rotate input route
  rw [horder]
  refine ((rotateLeading_perm _ k _).map Prod.fst).nodup_iff.mpr ?_
  exact ((List.filter_sublist).map Prod.fst).nodup (nodup_sortedEntries input route)

/-! ## §7. The verdict on each target. -/

/-- The included entries, in order. -/
def plannedEntries (input : RoutePreviewInput) (route : ModelRoute) : List Entry :=
  (orderedEntries input route).take
    (limitedLength input.candidateLimit (orderedEntries input route).length)

/-- The entries beyond the limit. -/
def limitedEntries (input : RoutePreviewInput) (route : ModelRoute) : List Entry :=
  (orderedEntries input route).drop
    (limitedLength input.candidateLimit (orderedEntries input route).length)

/-- What is planned and what is cut off are the ordered entries. -/
theorem planned_append_limited (input : RoutePreviewInput) (route : ModelRoute) :
    plannedEntries input route ++ limitedEntries input route = orderedEntries input route :=
  List.take_append_drop _ _

/-- The plan is the first part of the order, up to the limit; a limit of zero is none. -/
theorem planned_eq_take (input : RoutePreviewInput) (route : ModelRoute) :
    (plannedEntries input route).map Prod.fst =
      if input.candidateLimit = 0 then (orderedEntries input route).map Prod.fst
      else ((orderedEntries input route).map Prod.fst).take input.candidateLimit := by
  unfold plannedEntries limitedLength
  by_cases h0 : input.candidateLimit = 0
  · simp [h0]
  · rw [if_neg h0, if_pos (Nat.pos_of_ne_zero h0), ← List.map_take]
    congr 1
    exact List.take_eq_take_min.symm

/-- The candidates that the preview returns, stage by stage. -/
theorem previewRoute_candidates {input : RoutePreviewInput} {route : ModelRoute}
    (h : input.route = some route) :
    (previewRoute input).candidates =
      markLimited (markIncluded
        (applyAll Prod.fst
          (tierMark input (preferredRank input (sortedEntries input route)))
          (sortedEntries input route) (initialCandidates input route))
        (plannedEntries input route)) (limitedEntries input route) := by
  have htier : admitBestTier input (initialCandidates input route)
      (sortEntries (eligibleEntries (initialCandidates input route))) =
      (applyAll Prod.fst (tierMark input (preferredRank input (sortedEntries input route)))
        (sortedEntries input route) (initialCandidates input route),
        retainedEntries input route) := admitBestTier_spec input _ _
  unfold previewRoute
  rw [h]
  dsimp only
  rw [htier]
  rfl

section Stages

variable (cs : List RoutePreviewCandidate) {entries : List Entry} {i : Nat}

/-- Marking the planned candidates is a series of updates, each at an index of its own. -/
theorem markIncluded_eq_applyAll (entries : List Entry) :
    markIncluded cs entries =
      applyAll (fun e => e.1.1) (fun e => RoutePreviewCandidate.markPlanned e.2)
        entries.zipIdx cs := rfl

/-- Marking the candidates that are cut off is such a series of updates, too. -/
theorem markLimited_eq_applyAll (entries : List Entry) :
    markLimited cs entries =
      applyAll Prod.fst (fun _ => RoutePreviewCandidate.push [.candidateLimit]) entries cs := rfl

/-- A candidate that is not planned is left alone. -/
theorem markIncluded_of_notMem (h : i ∉ entries.map Prod.fst) :
    (markIncluded cs entries)[i]? = cs[i]? := by
  rw [markIncluded_eq_applyAll]
  refine getElem?_applyAll_of_forall_ne _ _ ?_ cs
  intro e he heq
  refine h (List.mem_map.mpr ⟨e.1, ?_, heq⟩)
  exact List.fst_mem_of_mem_zipIdx he

/-- A planned candidate gets its position in the plan. -/
theorem markIncluded_of_getElem? (hnd : (entries.map Prod.fst).Nodup) {pos : Nat} {e : Entry}
    (he : entries[pos]? = some e) :
    (markIncluded cs entries)[e.1]? = cs[e.1]?.map (·.markPlanned pos) := by
  rw [markIncluded_eq_applyAll]
  have hkeys : entries.zipIdx.map (fun e => e.1.1) = entries.map Prod.fst := by
    show entries.zipIdx.map (Prod.fst ∘ Prod.fst) = _
    rw [← List.map_map, List.zipIdx_map_fst]
  have hmem : (e, pos) ∈ entries.zipIdx := List.mk_mem_zipIdx_iff_getElem?.mpr he
  exact getElem?_applyAll_of_mem (fun e => e.1.1) _ (hkeys ▸ hnd) hmem cs

/-- A candidate that is not cut off is left alone. -/
theorem markLimited_of_notMem (h : i ∉ entries.map Prod.fst) :
    (markLimited cs entries)[i]? = cs[i]? := by
  rw [markLimited_eq_applyAll]
  exact getElem?_applyAll_of_forall_ne _ _
    (fun e he heq => h (List.mem_map.mpr ⟨e, he, heq⟩)) cs

/-- A candidate that is cut off gets the limit as its reason. -/
theorem markLimited_of_mem (hnd : (entries.map Prod.fst).Nodup) {e : Entry} (he : e ∈ entries) :
    (markLimited cs entries)[e.1]? = cs[e.1]?.map (·.push [.candidateLimit]) := by
  rw [markLimited_eq_applyAll]
  exact getElem?_applyAll_of_mem Prod.fst _ hnd he cs

end Stages

/-- A candidate that was never marked as planned. -/
theorem Verdict.of_excluded {planned : List Nat} {i : Nat} {target : RouteTarget}
    {c : RoutePreviewCandidate} (hdescribes : c.toRouteCandidate = candidateOf i target)
    (henabled : c.targetEnabled = target.enabled) (hincluded : c.included = false)
    (hposition : c.planPosition = none) (hselected : c.selected = false) (hnot : i ∉ planned)
    (hreason : ∃ reason ∈ c.reasons, routePreviewReasonIsHardBlocker reason = true ∨
      routePreviewReasonIsSoftSuppression reason = true) : Verdict planned i target c where
  describes := hdescribes
  target_enabled := henabled
  included_iff := by simp [hincluded, hnot]
  position_iff := by
    intro pos
    rw [hposition]
    constructor
    · intro h
      cases h
    · intro h
      exact absurd (List.mem_of_getElem? h) hnot
  selected_iff := by
    rw [hselected]
    constructor
    · intro h
      cases h
    · intro h
      exact absurd (List.mem_of_mem_head? h) hnot
  -- the reason that keeps it out
  excluded_reason := fun _ => hreason
  included_reason := by
    intro h
    rw [hincluded] at h
    cases h

section Verdicts

variable (input : RoutePreviewInput) (route : ModelRoute)

/-- No target is planned twice. -/
theorem nodup_plannedEntries : ((plannedEntries input route).map Prod.fst).Nodup := by
  have hnd := nodup_orderedEntries input route
  rw [← planned_append_limited, List.map_append] at hnd
  exact (List.nodup_append.mp hnd).1

/-- No target is cut off twice. -/
theorem nodup_limitedEntries : ((limitedEntries input route).map Prod.fst).Nodup := by
  have hnd := nodup_orderedEntries input route
  rw [← planned_append_limited, List.map_append] at hnd
  exact (List.nodup_append.mp hnd).2.1

/-- No target is both planned and cut off. -/
theorem planned_not_limited {i : Nat} (h : i ∈ (plannedEntries input route).map Prod.fst) :
    i ∉ (limitedEntries input route).map Prod.fst := by
  have hnd := nodup_orderedEntries input route
  rw [← planned_append_limited, List.map_append] at hnd
  exact fun h' => (List.nodup_append.mp hnd).2.2 i h i h' rfl

/-- Planned or beyond the limit: the retained targets. -/
theorem planned_or_limited_iff (i : Nat) :
    (i ∈ (plannedEntries input route).map Prod.fst ∨
      i ∈ (limitedEntries input route).map Prod.fst) ↔
      ∃ e ∈ retainedEntries input route, e.1 = i := by
  rw [← List.mem_append, ← List.map_append, planned_append_limited, List.mem_map]
  simp only [mem_orderedEntries]

/-- The candidates after the tier loop. -/
def tierCandidates : List RoutePreviewCandidate :=
  applyAll Prod.fst (tierMark input (preferredRank input (sortedEntries input route)))
    (sortedEntries input route) (initialCandidates input route)

variable {input route} {i : Nat} {target : RouteTarget}

/-- The tier loop does not touch a blocked target. -/
theorem tierCandidates_blocked (ht : route.targets[i]? = some target)
    (hblocked : HardBlocked input target) :
    (tierCandidates input route)[i]? = some (previewCandidate input i target) := by
  unfold tierCandidates
  rw [getElem?_applyAll_of_forall_ne, getElem?_initialCandidates, ht]
  · rfl
  · rintro e he rfl
    obtain ⟨target', ht', hnot, -⟩ := (mem_sortedEntries input route e).mp he
    rw [ht] at ht'
    cases ht'
    exact hnot hblocked

/-- The tier loop marks every other target once. -/
theorem tierCandidates_unblocked (ht : route.targets[i]? = some target)
    (hnot : ¬ HardBlocked input target) :
    (tierCandidates input route)[i]? =
      some (tierMark input (preferredRank input (sortedEntries input route))
        (entryOf i target) (previewCandidate input i target)) := by
  have hsorted : entryOf i target ∈ sortedEntries input route :=
    (mem_sortedEntries input route _).mpr ⟨target, ht, hnot, rfl⟩
  have hmark := getElem?_applyAll_of_mem Prod.fst
    (tierMark input (preferredRank input (sortedEntries input route)))
    (nodup_sortedEntries input route) hsorted (initialCandidates input route)
  have hinitial : (initialCandidates input route)[(entryOf i target).1]? =
      some (previewCandidate input i target) := by
    show (initialCandidates input route)[i]? = _
    rw [getElem?_initialCandidates, ht]
    rfl
  rw [hinitial] at hmark
  exact hmark

/-- A target outside the planned and the limited ones keeps the tier loop's candidate. -/
theorem candidate_of_not_retained
    (hout : ¬ ∃ e ∈ retainedEntries input route, e.1 = i) :
    (markLimited (markIncluded (tierCandidates input route) (plannedEntries input route))
      (limitedEntries input route))[i]? = (tierCandidates input route)[i]? := by
  rw [← planned_or_limited_iff, not_or] at hout
  rw [markLimited_of_notMem _ hout.2, markIncluded_of_notMem _ hout.1]

/-- A blocked target is not retained. -/
theorem not_retained_of_blocked (ht : route.targets[i]? = some target)
    (hblocked : HardBlocked input target) : ¬ ∃ e ∈ retainedEntries input route, e.1 = i := by
  rintro ⟨e, he, rfl⟩
  obtain ⟨target', ht', hnot, -⟩ :=
    (mem_sortedEntries input route e).mp (List.mem_filter.mp he).1
  rw [ht] at ht'
  cases ht'
  exact hnot hblocked

/-- A target of a worse rank than the preferred one is not retained. -/
theorem not_retained_of_suppressed (ht : route.targets[i]? = some target)
    (hlt : preferredRank input (sortedEntries input route) <
      entryRank input (entryOf i target)) : ¬ ∃ e ∈ retainedEntries input route, e.1 = i := by
  rintro ⟨e, he, rfl⟩
  obtain ⟨target', ht', heq⟩ := entry_of_mem_retained he
  rw [ht] at ht'
  cases ht'
  have hle := of_decide_eq_true (List.mem_filter.mp he).2
  rw [heq] at hle
  exact Nat.not_le_of_lt hlt hle

/-- A retained target carries last-resort reasons at most after the tier loop. -/
theorem tierCandidates_retained (ht : route.targets[i]? = some target)
    (hnot : ¬ HardBlocked input target)
    (hle : entryRank input (entryOf i target) ≤
      preferredRank input (sortedEntries input route)) :
    (tierCandidates input route)[i]? = some { previewCandidate input i target with
      reasons := lastResortReasons (entryState input (entryOf i target)) } := by
  have hmark : tierMark input (preferredRank input (sortedEntries input route))
      (entryOf i target) = RoutePreviewCandidate.push
        (lastResortReasons (entryState input (entryOf i target))) := by
    unfold tierMark
    rw [if_neg (Nat.not_lt_of_le hle)]
  rw [tierCandidates_unblocked ht hnot, hmark]
  have hnil : (previewCandidate input i target).reasons = [] :=
    (hardBlockers_nil_iff input target).mpr hnot
  unfold RoutePreviewCandidate.push
  rw [hnil]
  rfl

variable (input route i target) in
/-- What the stages make of the candidate of a target. -/
inductive Outcome : RoutePreviewCandidate → Prop
  | blocked (hblocked : HardBlocked input target)
      (hout : i ∉ (plannedEntries input route).map Prod.fst) :
      Outcome (previewCandidate input i target)
  | suppressed (hnot : ¬ HardBlocked input target)
      (hlt : preferredRank input (sortedEntries input route) <
        entryRank input (entryOf i target))
      (hout : i ∉ (plannedEntries input route).map Prod.fst) :
      Outcome { previewCandidate input i target with
        reasons := suppressionReasons (entryState input (entryOf i target)) }
  | limited (hnot : ¬ HardBlocked input target)
      (hle : entryRank input (entryOf i target) ≤
        preferredRank input (sortedEntries input route))
      (hout : i ∉ (plannedEntries input route).map Prod.fst) :
      Outcome { previewCandidate input i target with
        reasons := lastResortReasons (entryState input (entryOf i target)) ++
          [.candidateLimit] }
  | planned (pos : Nat) (hnot : ¬ HardBlocked input target)
      (hle : entryRank input (entryOf i target) ≤
        preferredRank input (sortedEntries input route))
      (hpos : ((plannedEntries input route).map Prod.fst)[pos]? = some i) :
      Outcome (({ previewCandidate input i target with
        reasons := lastResortReasons (entryState input (entryOf i target)) } :
          RoutePreviewCandidate).markPlanned pos)

/-- A retained target is planned, or it is beyond the limit. -/
theorem exists_outcome_of_retained (ht : route.targets[i]? = some target)
    (hnot : ¬ HardBlocked input target)
    (hle : entryRank input (entryOf i target) ≤
      preferredRank input (sortedEntries input route)) :
    ∃ c, (markLimited (markIncluded (tierCandidates input route) (plannedEntries input route))
        (limitedEntries input route))[i]? = some c ∧ Outcome input route i target c := by
  have hretained : entryOf i target ∈ retainedEntries input route :=
    List.mem_filter.mpr ⟨(mem_sortedEntries input route _).mpr ⟨target, ht, hnot, rfl⟩,
      by simpa using hle⟩
  have hc := tierCandidates_retained ht hnot hle
  -- within the limit, or behind it
  rcases (planned_or_limited_iff input route i).mpr ⟨_, hretained, rfl⟩ with hplanned | hlimited
  · obtain ⟨pos, hpos⟩ := List.mem_iff_getElem?.mp hplanned
    have hat := hpos
    rw [List.getElem?_map] at hat
    obtain ⟨e, he, rfl⟩ := Option.map_eq_some_iff.mp hat
    refine ⟨_, ?_, .planned pos hnot hle hpos⟩
    rw [markLimited_of_notMem _ (planned_not_limited input route hplanned),
      markIncluded_of_getElem? _ (nodup_plannedEntries input route) he, hc]
    rfl
  · have hunplanned : i ∉ (plannedEntries input route).map Prod.fst :=
      fun hp => planned_not_limited input route hp hlimited
    obtain ⟨e, he, rfl⟩ := List.mem_map.mp hlimited
    refine ⟨_, ?_, .limited hnot hle hunplanned⟩
    rw [markLimited_of_mem _ (nodup_limitedEntries input route) he,
      markIncluded_of_notMem _ hunplanned, hc]
    rfl

/-- The outcome for each target, from the stage that decides it. -/
theorem previewRoute_outcome (h : input.route = some route)
    (ht : route.targets[i]? = some target) :
    ∃ c, (previewRoute input).candidates[i]? = some c ∧ Outcome input route i target c := by
  rw [previewRoute_candidates h]
  -- blocked, behind a better class, or retained
  by_cases hblocked : HardBlocked input target
  · have hout := not_retained_of_blocked ht hblocked
    refine ⟨_, ?_, .blocked hblocked fun hp =>
      hout ((planned_or_limited_iff input route i).mp (Or.inl hp))⟩
    exact (candidate_of_not_retained hout).trans (tierCandidates_blocked ht hblocked)
  by_cases hle : entryRank input (entryOf i target) ≤
      preferredRank input (sortedEntries input route)
  · exact exists_outcome_of_retained ht hblocked hle
  · have hlt := Nat.lt_of_not_le hle
    have hout := not_retained_of_suppressed ht hlt
    have hnil : (previewCandidate input i target).reasons = [] :=
      (hardBlockers_nil_iff input target).mpr hblocked
    refine ⟨_, ?_, .suppressed hblocked hlt fun hp =>
      hout ((planned_or_limited_iff input route i).mp (Or.inl hp))⟩
    refine (candidate_of_not_retained hout).trans ?_
    rw [tierCandidates_unblocked ht hblocked]
    unfold tierMark RoutePreviewCandidate.push
    rw [if_pos hlt, hnil]
    rfl

/-- The verdict that an outcome is. -/
theorem Outcome.verdict {c : RoutePreviewCandidate} (h : Outcome input route i target c) :
    Verdict ((plannedEntries input route).map Prod.fst) i target c := by
  cases h with
  | blocked hblocked hout =>
      obtain ⟨reason, rest, hcons⟩ := List.exists_cons_of_ne_nil
        (fun hnil => (hardBlockers_nil_iff input target).mp hnil hblocked)
      have hmem : reason ∈ hardBlockers input target := hcons ▸ List.mem_cons_self
      exact .of_excluded rfl rfl rfl rfl rfl hout
        ⟨reason, hmem, Or.inl (hardBlockers_hard hmem)⟩
  | suppressed hnot hlt hout =>
      obtain ⟨reason, hreason, hsoft⟩ := suppressionReasons_soft hlt
      exact .of_excluded rfl rfl rfl rfl rfl hout ⟨reason, hreason, Or.inr hsoft⟩
  | limited hnot hle hout =>
      exact .of_excluded rfl rfl rfl rfl rfl hout
        ⟨.candidateLimit, List.mem_append_right _ (List.mem_singleton_self _), Or.inl rfl⟩
  | planned pos hnot hle hpos =>
      -- a target is planned once, so its position is the only one
      have hunique : ∀ pos', ((plannedEntries input route).map Prod.fst)[pos']? = some i ↔
          pos = pos' := by
        intro pos'
        constructor
        · intro hpos'
          exact (List.getElem?_inj (List.getElem?_eq_some_iff.mp hpos).1
            (nodup_plannedEntries input route)).mp (hpos.trans hpos'.symm)
        · rintro rfl
          exact hpos
      exact {
        describes := rfl
        target_enabled := rfl
        included_iff := ⟨fun _ => List.mem_of_getElem? hpos, fun _ => rfl⟩
        position_iff := fun pos' => by
          rw [hunique pos']
          exact Option.some_inj
        selected_iff := by
          rw [List.head?_eq_getElem?, hunique 0]
          show (if pos = 0 then true else false) = true ↔ _
          simp
        excluded_reason := fun hfalse => by cases hfalse
        included_reason := fun _ _ => lastResortReasons_mild }

/-- Every target of the route gets a candidate that says what became of it. -/
theorem previewRoute_verdict (h : input.route = some route)
    (ht : route.targets[i]? = some target) :
    ∃ c, (previewRoute input).candidates[i]? = some c ∧
      Verdict ((plannedEntries input route).map Prod.fst) i target c := by
  obtain ⟨c, hc, houtcome⟩ := previewRoute_outcome h ht
  exact ⟨c, hc, houtcome.verdict⟩

end Verdicts

/-! ## §8. The selected target and the plan. -/

section Plan

variable {input : RoutePreviewInput} {route : ModelRoute}

/-- There are as many candidates as targets. -/
theorem length_candidates (h : input.route = some route) :
    (previewRoute input).candidates.length = route.targets.length := by
  rw [previewRoute_candidates h, markLimited_eq_applyAll, length_applyAll,
    markIncluded_eq_applyAll, length_applyAll, length_applyAll]
  unfold initialCandidates
  rw [List.length_map, List.length_zipIdx]

/-- Every candidate of the preview is the verdict on a target. -/
theorem verdict_of_candidate (h : input.route = some route) {i : Nat}
    {c : RoutePreviewCandidate} (hc : (previewRoute input).candidates[i]? = some c) :
    ∃ target, route.targets[i]? = some target ∧
      Verdict ((plannedEntries input route).map Prod.fst) i target c := by
  have hlt : i < route.targets.length := by
    rw [← length_candidates h]
    exact (List.getElem?_eq_some_iff.mp hc).1
  obtain ⟨c', hc', hv⟩ := previewRoute_verdict h (List.getElem?_eq_getElem hlt)
  rw [hc] at hc'
  cases hc'
  exact ⟨_, List.getElem?_eq_getElem hlt, hv⟩

theorem Verdict.targetIndex {planned : List Nat} {i : Nat} {target : RouteTarget}
    {c : RoutePreviewCandidate} (hv : Verdict planned i target c) : c.targetIndex = i :=
  congrArg RouteCandidate.targetIndex hv.describes

/-- The selected target is the first planned one. -/
theorem selectedTargetIndex_eq (h : input.route = some route) :
    (previewRoute input).selectedTargetIndex =
      ((plannedEntries input route).map Prod.fst).head? := by
  have hsel : (previewRoute input).selectedTargetIndex =
      ((previewRoute input).candidates.find? (·.selected)).map (·.targetIndex) := by
    unfold previewRoute
    rw [h]
  rw [hsel]
  cases hf : (previewRoute input).candidates.find? (·.selected) with
  | some c =>
      obtain ⟨i, hi⟩ := List.mem_iff_getElem?.mp (List.mem_of_find?_eq_some hf)
      obtain ⟨target, -, hv⟩ := verdict_of_candidate h hi
      have hselected : c.selected = true := by simpa using List.find?_some hf
      rw [hv.selected_iff.mp hselected]
      exact congrArg some hv.targetIndex
  | none =>
      cases hhead : ((plannedEntries input route).map Prod.fst).head? with
      | none => rfl
      | some i =>
          -- a planned target has a candidate, and the first one is selected
          obtain ⟨e, he, rfl⟩ := List.mem_map.mp (List.mem_of_mem_head? hhead)
          have hretained : e ∈ retainedEntries input route :=
            (mem_orderedEntries input route e).mp (List.mem_of_mem_take he)
          obtain ⟨target, ht, -⟩ := entry_of_mem_retained hretained
          obtain ⟨c, hc, hv⟩ := previewRoute_verdict h ht
          have hnot := List.find?_eq_none.mp hf c (List.mem_of_getElem? hc)
          exact absurd (hv.selected_iff.mpr hhead) hnot

instance : Std.Total fun a b : RoutePreviewCandidate => planKey a ≤ planKey b :=
  ⟨fun _ _ => Nat.le_total _ _⟩

instance : IsTrans RoutePreviewCandidate fun a b => planKey a ≤ planKey b :=
  ⟨fun _ _ _ => Nat.le_trans⟩

/-- The candidate at an index of the preview. -/
def candidateAtIndex (input : RoutePreviewInput) (i : Nat) : RoutePreviewCandidate :=
  (previewRoute input).candidates[i]?.getD
    (previewCandidate input i ⟨"", .genericHttp, none, 0, 0, false⟩)

/-- The candidate of a planned entry stands at the index of its target. -/
theorem candidateAtIndex_planned (h : input.route = some route) {e : Entry}
    (he : e ∈ plannedEntries input route) :
    (previewRoute input).candidates[e.1]? = some (candidateAtIndex input e.1) ∧
      ∃ target, e = entryOf e.1 target ∧
        Verdict ((plannedEntries input route).map Prod.fst) e.1 target
          (candidateAtIndex input e.1) := by
  have hretained : e ∈ retainedEntries input route :=
    (mem_orderedEntries input route e).mp (List.mem_of_mem_take he)
  obtain ⟨target, ht, heq⟩ := entry_of_mem_retained hretained
  obtain ⟨c, hc, hv⟩ := previewRoute_verdict h ht
  have hat : candidateAtIndex input e.1 = c := by
    unfold candidateAtIndex
    rw [hc]
    rfl
  rw [hat]
  exact ⟨hc, target, heq, hv⟩

/-- What stands at a planned index is the candidate of the target with that index. -/
theorem planned_candidateAtIndex (h : input.route = some route) {i : Nat}
    (hi : i ∈ (plannedEntries input route).map Prod.fst) :
    (previewRoute input).candidates[i]? = some (candidateAtIndex input i) ∧
      ∃ target, Verdict ((plannedEntries input route).map Prod.fst) i target
        (candidateAtIndex input i) := by
  obtain ⟨e, he, rfl⟩ := List.mem_map.mp hi
  obtain ⟨hc, target, -, hv⟩ := candidateAtIndex_planned h he
  exact ⟨hc, target, hv⟩

/-- An included candidate is the one at a planned index. -/
theorem mem_included_iff (h : input.route = some route) {c : RoutePreviewCandidate} :
    c ∈ (previewRoute input).candidates.filter (·.included) ↔
      c ∈ ((plannedEntries input route).map Prod.fst).map (candidateAtIndex input) := by
  rw [List.mem_filter, List.mem_map]
  constructor
  · rintro ⟨hc, hinc⟩
    obtain ⟨i, hi⟩ := List.mem_iff_getElem?.mp hc
    obtain ⟨target, -, hv⟩ := verdict_of_candidate h hi
    have hmem := hv.included_iff.mp hinc
    refine ⟨i, hmem, ?_⟩
    have hat := (planned_candidateAtIndex h hmem).1
    rw [hi] at hat
    exact (Option.some.inj hat).symm
  · rintro ⟨i, hi, rfl⟩
    obtain ⟨hc, target, hv⟩ := planned_candidateAtIndex h hi
    exact ⟨List.mem_of_getElem? hc, hv.included_iff.mpr hi⟩

/-- The key of the sort is the position in the plan. -/
theorem planKey_candidateAtIndex (h : input.route = some route) {p : Nat}
    (hp : p < ((plannedEntries input route).map Prod.fst).length) :
    planKey (candidateAtIndex input ((plannedEntries input route).map Prod.fst)[p]) = p := by
  obtain ⟨-, target, hv⟩ := planned_candidateAtIndex h (List.getElem_mem hp)
  unfold planKey
  rw [(hv.position_iff p).mpr (List.getElem?_eq_getElem hp)]
  rfl

/-- No two candidates are equal, since their indices differ. -/
theorem nodup_candidates (h : input.route = some route) :
    (previewRoute input).candidates.Nodup := by
  rw [List.nodup_iff_getElem?_ne_getElem?]
  intro i j hij hj heq
  have hi := List.getElem?_eq_getElem (Nat.lt_trans hij hj)
  have hj' := heq.symm.trans hi
  obtain ⟨ti, -, hvi⟩ := verdict_of_candidate h hi
  obtain ⟨tj, -, hvj⟩ := verdict_of_candidate h hj'
  exact Nat.ne_of_lt hij (hvi.targetIndex.symm.trans hvj.targetIndex)

/-- The plan's sort puts the included candidates in the planned order. -/
theorem sorted_included (h : input.route = some route) :
    ((previewRoute input).candidates.filter (·.included)).insertionSort
        (fun a b => planKey a ≤ planKey b) =
      ((plannedEntries input route).map Prod.fst).map (candidateAtIndex input) := by
  -- candidates with different indices are different
  have hnodup : (((plannedEntries input route).map Prod.fst).map
      (candidateAtIndex input)).Nodup := by
    refine List.Nodup.map_on ?_ (nodup_plannedEntries input route)
    intro i hi j hj heq
    obtain ⟨-, ti, hvi⟩ := planned_candidateAtIndex h hi
    obtain ⟨-, tj, hvj⟩ := planned_candidateAtIndex h hj
    rw [← hvi.targetIndex, heq, hvj.targetIndex]
  have hperm : ((previewRoute input).candidates.filter (·.included)).Perm
      (((plannedEntries input route).map Prod.fst).map (candidateAtIndex input)) :=
    (List.perm_ext_iff_of_nodup ((nodup_candidates h).filter _) hnodup).mpr
      fun _ => mem_included_iff h
  -- both sides are the same candidates in the order of their positions
  refine ((List.perm_insertionSort _ _).trans hperm).eq_of_pairwise ?_
    (List.pairwise_insertionSort _ _) ?_
  · -- two planned candidates of one position are the same
    intro a b ha hb hab hba
    have ha' := (mem_included_iff h).mp ((List.mem_insertionSort _).mp ha)
    obtain ⟨i, hi, rfl⟩ := List.mem_map.mp ha'
    obtain ⟨j, hj, rfl⟩ := List.mem_map.mp hb
    obtain ⟨p, hp, rfl⟩ := List.getElem_of_mem hi
    obtain ⟨q, hq, rfl⟩ := List.getElem_of_mem hj
    rw [planKey_candidateAtIndex h hp, planKey_candidateAtIndex h hq] at hab hba
    obtain rfl : p = q := Nat.le_antisymm hab hba
    rfl
  · rw [List.pairwise_map, List.pairwise_iff_getElem]
    intro p q hp hq hpq
    rw [planKey_candidateAtIndex h hp, planKey_candidateAtIndex h hq]
    exact Nat.le_of_lt hpq

/-- The targets of the plan. -/
theorem planned_targets (h : input.route = some route) :
    (((previewRoute input).candidates.filter (·.included)).insertionSort
        (fun a b => planKey a ≤ planKey b)).map (·.toRouteCandidate) =
      (plannedEntries input route).map Prod.snd := by
  rw [sorted_included h, List.map_map, List.map_map]
  refine List.map_congr_left ?_
  intro e he
  obtain ⟨-, target, heq, hv⟩ := candidateAtIndex_planned h he
  show (candidateAtIndex input e.1).toRouteCandidate = e.2
  rw [hv.describes, heq]
  rfl

/-- A planned candidate is a target of the route, under its own index, and not blocked. -/
theorem target_of_planRoute (h : input.route = some route) {plan : RoutePlan}
    (hplan : planRoute input = .ok plan) {candidate : RouteCandidate}
    (hmem : candidate ∈ plan.targets) :
    ∃ target, route.targets[candidate.targetIndex]? = some target ∧
      candidate = candidateOf candidate.targetIndex target ∧ ¬ HardBlocked input target := by
  unfold planRoute at hplan
  rw [h] at hplan
  simp only [Option.isNone_some, Bool.false_eq_true, if_false, planned_targets h] at hplan
  split at hplan
  · cases hplan
  · cases hplan
    obtain ⟨e, he, rfl⟩ := List.mem_map.mp hmem
    -- a planned entry stands for an eligible target
    have hretained := (mem_orderedEntries input route e).mp (List.mem_of_mem_take he)
    obtain ⟨target, htarget, heq⟩ := entry_of_mem_retained hretained
    obtain ⟨target', htarget', hblocked, -⟩ := (mem_retainedEntries input route e.1).mp
      (List.mem_map_of_mem hretained)
    cases Option.some.inj (htarget'.symm.trans htarget)
    have hindex : e.2.targetIndex = e.1 := by
      rw [heq]
      rfl
    rw [hindex]
    exact ⟨target, htarget, congrArg Prod.snd heq, hblocked⟩

end Plan

/-- The preview and the plan are exactly what the targets, their channels' states, the client's
scope, the limit and the request's ticket dictate.  Without a route the preview is empty and
there is no plan.  With one, the eligible targets are ordered, the order is cut off at the
limit, and the preview says of every target of the route what became of it; the plan has the
targets that the preview marks, in that order. -/
theorem route_planning_exact (input : RoutePreviewInput) :
    match input.route with
    | none =>
        (previewRoute input).candidates = [] ∧
          (previewRoute input).selectedTargetIndex = none ∧ planRoute input = .error .noRoute
    | some route =>
        ∃ order planned : List Nat,
          IsRouteOrder input route order ∧ order.Nodup ∧
          planned = (if input.candidateLimit = 0 then order
            else order.take input.candidateLimit) ∧
          (previewRoute input).candidates.length = route.targets.length ∧
          (∀ (i : Nat) (target : RouteTarget), route.targets[i]? = some target →
            ∃ c, (previewRoute input).candidates[i]? = some c ∧
              Verdict planned i target c) ∧
          (previewRoute input).selectedTargetIndex = planned.head? ∧
          match planRoute input with
          | .error e => e = .noEnabledTargets ∧ planned = []
          | .ok plan =>
              planned ≠ [] ∧ plan.requestId = input.requestId ∧
              plan.registryGeneration = input.registryGeneration ∧
              plan.publicModel = input.publicModel ∧ plan.selectedIndex = 0 ∧
              plan.targets.map (·.targetIndex) = planned ∧
              ∀ candidate ∈ plan.targets, ∃ target,
                route.targets[candidate.targetIndex]? = some target ∧
                candidate = candidateOf candidate.targetIndex target := by
  cases h : input.route with
  | none =>
      dsimp only
      unfold planRoute previewRoute
      rw [h]
      exact ⟨rfl, rfl, rfl⟩
  | some route =>
      dsimp only
      refine ⟨_, _, isRouteOrder_orderedEntries input route, nodup_orderedEntries input route,
        planned_eq_take input route, length_candidates h,
        fun i target ht => previewRoute_verdict h ht, selectedTargetIndex_eq h, ?_⟩
      -- every planned entry is a target of the route, under its own index
      have hentry : ∀ e ∈ plannedEntries input route, ∃ target,
          route.targets[e.1]? = some target ∧ e = entryOf e.1 target := by
        intro e he
        exact entry_of_mem_retained
          ((mem_orderedEntries input route e).mp (List.mem_of_mem_take he))
      unfold planRoute
      rw [h]
      simp only [Option.isNone_some, Bool.false_eq_true, if_false, planned_targets h]
      by_cases hempty : plannedEntries input route = []
      · -- nothing is planned: the error
        rw [hempty]
        exact ⟨rfl, rfl⟩
      · have hne : ((plannedEntries input route).map Prod.snd).isEmpty = false := by
          simpa using hempty
        rw [hne]
        refine ⟨by simpa using hempty, ?_, ?_, ?_, rfl, ?_, ?_⟩
        · unfold previewRoute
          rw [h]
        · unfold previewRoute
          rw [h]
        · unfold previewRoute
          rw [h]
        · dsimp only
          -- each candidate of the plan carries the index that it was sorted under
          rw [List.map_map]
          refine List.map_congr_left ?_
          intro e he
          obtain ⟨target, -, heq⟩ := hentry e he
          rw [heq]
          rfl
        · intro candidate hcandidate
          obtain ⟨e, he, rfl⟩ := List.mem_map.mp hcandidate
          obtain ⟨target, ht, heq⟩ := hentry e he
          have hindex : e.2.targetIndex = e.1 := by
            rw [heq]
            rfl
          refine ⟨target, by rw [hindex]; exact ht, ?_⟩
          rw [hindex, heq]
          rfl

end OneAiKey
