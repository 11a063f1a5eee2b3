/-
  OneAiKey.Lib.StoreThenCache — additions that go to a store first and to a cache behind it.

  Many tasks add items.  A task looks which of its items the cache has, takes the
  others into the store unless the store has them too, and puts what it has taken into
  the cache.  Nothing is locked from one of these steps to the next:

      idle ── look ──▶ looked ── take ──▶ taken ── put ──▶ idle
                          └──── giveUp ────▶ idle

  Store and cache keep an account each, to which a task adds one amount, first there and
  later here.

  Main results:
    * `safe_of_reachable` — what holds of the store, the cache and the tasks at any time,
      and with it that what a task puts into the cache is new there;
    * `Safe.settled` — when nothing is on its way, the cache is what it started with and
      what is stored, and the accounts are the same.
-/
import Mathlib.Algebra.BigOperators.Group.Finset.Basic
import Mathlib.Data.Set.Lattice
import Mathlib.Order.CompletePartialOrder
import OneAiKey.Lib.TransitionSystem

namespace StoreThenCache

variable {ι α β : Type}

/-! ## §1. The system. -/

inductive Phase (α β : Type) where
  | idle
  | looked (wanted excluded : Set α)
  | taken (items : Set α) (amount : β)

@[ext]
structure State (ι α β : Type) where
  stored : Set α
  cached : Set α
  storedAccount : β
  cachedAccount : β
  phase : ι → Phase α β

/-- What a task takes: what it wants, less what it has seen in the cache and what is stored. -/
def fresh (s : State ι α β) (wanted excluded : Set α) : Set α :=
  wanted \ (s.stored ∪ excluded)

/-- What the cached account is still to get from a task. -/
def Phase.owed [Zero β] : Phase α β → β
  | taken _ amount => amount
  | _ => 0

section System

variable [DecidableEq ι] [AddCommMonoid β]

def State.enter (s : State ι α β) (i : ι) (next : Phase α β) : State ι α β :=
  { s with phase := Function.update s.phase i next }

inductive Step : State ι α β → State ι α β → Prop where
  | look {s : State ι α β} {i : ι} (hidle : s.phase i = .idle) (wanted : Set α) :
      Step s (s.enter i (.looked wanted (wanted ∩ s.cached)))
  | take {s : State ι α β} {i : ι} {wanted excluded : Set α}
      (hlooked : s.phase i = .looked wanted excluded) (amount : β) :
      Step s { s.enter i (.taken (fresh s wanted excluded) amount) with
        stored := s.stored ∪ fresh s wanted excluded
        storedAccount := s.storedAccount + amount }
  | giveUp {s : State ι α β} {i : ι} {wanted excluded : Set α}
      (hlooked : s.phase i = .looked wanted excluded) :
      Step s (s.enter i .idle)
  | put {s : State ι α β} {i : ι} {items : Set α} {amount : β}
      (htaken : s.phase i = .taken items amount) :
      Step s { s.enter i .idle with
        cached := s.cached ∪ items
        cachedAccount := s.cachedAccount + amount }

/-- The cache starts with all that is stored, and the accounts are the same. -/
def system (ι : Type) [DecidableEq ι] (start : Set α) :
    TransitionSystem (State ι α β) Unit where
  Init s := s.stored ⊆ s.cached ∧ s.cached = start ∧ s.storedAccount = s.cachedAccount ∧
    ∀ i, s.phase i = .idle
  Step s _ s' := Step s s'

end System

/-! ## §2. The invariant. -/

structure Safe [AddCommMonoid β] (start : Set α) (s : State ι α β) : Prop where
  /-- An item that a task wants and has not seen in the cache can only come there through the
  store. -/
  looked : ∀ i wanted excluded, s.phase i = .looked wanted excluded →
    wanted ∩ s.cached ⊆ s.stored ∪ excluded
  excluded_cached : ∀ i wanted excluded, s.phase i = .looked wanted excluded →
    excluded ⊆ s.cached
  taken_stored : ∀ i items amount, s.phase i = .taken items amount → items ⊆ s.stored
  taken_uncached : ∀ i items amount, s.phase i = .taken items amount → Disjoint items s.cached
  taken_apart : ∀ i j items items' amount amount', i ≠ j → s.phase i = .taken items amount →
    s.phase j = .taken items' amount' → Disjoint items items'
  /-- What is stored is in the cache, or on its way. -/
  covered : ∀ a ∈ s.stored, a ∈ s.cached ∨ ∃ i items amount, s.phase i = .taken items amount ∧
    a ∈ items
  start_cached : start ⊆ s.cached
  cached : s.cached ⊆ start ∪ s.stored
  accounted : ∃ pending : Finset ι, (∀ i items amount, s.phase i = .taken items amount →
      i ∈ pending) ∧
    s.storedAccount = s.cachedAccount + ∑ i ∈ pending, (s.phase i).owed

section Invariant

variable {start : Set α} {s s' : State ι α β} {i : ι}

theorem phase_update [DecidableEq ι] {phase : ι → Phase α β} {next p : Phase α β} {j : ι}
    (h : Function.update phase i next j = p) :
    (j = i ∧ next = p) ∨ (j ≠ i ∧ phase j = p) := by
  by_cases hji : j = i
  · rw [hji, Function.update_self] at h
    exact .inl ⟨hji, h⟩
  · rw [Function.update_of_ne hji] at h
    exact .inr ⟨hji, h⟩

variable [DecidableEq ι] [AddCommMonoid β]

/-- The sum over the tasks with another phase for one of them. -/
theorem sum_owed_update (phase : ι → Phase α β) (next : Phase α β) {pending : Finset ι}
    (hi : i ∈ pending) :
    ∑ j ∈ pending, (Function.update phase i next j).owed + (phase i).owed =
      ∑ j ∈ pending, (phase j).owed + next.owed := by
  -- the other tasks have the phases of before
  have hothers : ∑ j ∈ pending.erase i, (Function.update phase i next j).owed =
      ∑ j ∈ pending.erase i, (phase j).owed := by
    refine Finset.sum_congr rfl fun j hj => ?_
    rw [Function.update_of_ne (Finset.ne_of_mem_erase hj)]
  rw [← Finset.sum_erase_add _ _ hi, ← Finset.sum_erase_add _ (fun j => (phase j).owed) hi,
    hothers, Function.update_self]
  exact add_right_comm _ _ _

/-- A task that is given another phase, neither of them `taken`. -/
theorem Safe.of_phase (h : Safe start s) {next : Phase α β}
    (hnot : ∀ items amount, s.phase i ≠ .taken items amount)
    (hnext : ∀ items amount, next ≠ .taken items amount)
    (hlooked : ∀ wanted excluded, next = .looked wanted excluded →
      wanted ∩ s.cached ⊆ s.stored ∪ excluded ∧ excluded ⊆ s.cached) :
    Safe start (s.enter i next) := by
  -- the tasks that have taken something are the same
  have htaken : ∀ j items amount, Function.update s.phase i next j = .taken items amount →
      s.phase j = .taken items amount := by
    intro j items amount hj
    rcases phase_update hj with ⟨-, hnew⟩ | ⟨-, hold⟩
    · exact absurd hnew (hnext items amount)
    · exact hold
  have howed : ∀ p : Phase α β, (∀ items amount, p ≠ .taken items amount) → p.owed = 0 := by
    intro p hp
    cases p with
    | taken items amount => exact absurd rfl (hp items amount)
    | _ => rfl
  refine ⟨?_, ?_, ?_, ?_, ?_, ?_, h.start_cached, h.cached, ?_⟩
  · intro j wanted excluded hj
    rcases phase_update hj with ⟨-, hnew⟩ | ⟨-, hold⟩
    · exact (hlooked wanted excluded hnew).1
    · exact h.looked j wanted excluded hold
  · intro j wanted excluded hj
    rcases phase_update hj with ⟨-, hnew⟩ | ⟨-, hold⟩
    · exact (hlooked wanted excluded hnew).2
    · exact h.excluded_cached j wanted excluded hold
  · exact fun j items amount hj => h.taken_stored j items amount (htaken j items amount hj)
  · exact fun j items amount hj => h.taken_uncached j items amount (htaken j items amount hj)
  · exact fun j k items items' amount amount' hjk hj hk =>
      h.taken_apart j k items items' amount amount' hjk (htaken j items amount hj)
        (htaken k items' amount' hk)
  · intro a ha
    refine (h.covered a ha).imp_right fun ⟨j, items, amount, hj, hmem⟩ =>
      ⟨j, items, amount, ?_, hmem⟩
    have hji : j ≠ i := by
      intro heq
      rw [heq] at hj
      exact hnot items amount hj
    exact (Function.update_of_ne hji next s.phase).trans hj
  · obtain ⟨pending, hpending, haccount⟩ := h.accounted
    refine ⟨pending, fun j items amount hj => hpending j items amount (htaken j items amount hj),
      haccount.trans (congrArg (s.cachedAccount + ·) (Finset.sum_congr rfl fun j _ => ?_))⟩
    show _ = (Function.update s.phase i next j).owed
    by_cases hji : j = i
    · rw [hji, Function.update_self, howed _ hnot, howed _ hnext]
    · rw [Function.update_of_ne hji]

theorem Safe.take (h : Safe start s) {wanted excluded : Set α}
    (hi : s.phase i = .looked wanted excluded) (amount : β) :
    Safe start { s.enter i (.taken (fresh s wanted excluded) amount) with
      stored := s.stored ∪ fresh s wanted excluded
      storedAccount := s.storedAccount + amount } := by
  -- what is taken is not cached: the task would have seen it, or it would be stored
  have huncached : Disjoint (fresh s wanted excluded) s.cached := by
    rw [Set.disjoint_left]
    exact fun a ha hcached => ha.2 (h.looked i wanted excluded hi ⟨ha.1, hcached⟩)
  have hnew : ∀ items, items ⊆ s.stored → Disjoint (fresh s wanted excluded) items := by
    intro items hitems
    rw [Set.disjoint_left]
    exact fun a ha hmem => ha.2 (.inl (hitems hmem))
  refine ⟨?_, ?_, ?_, ?_, ?_, ?_, h.start_cached, ?_, ?_⟩
  · intro j wanted' excluded' hj
    rcases phase_update hj with ⟨-, hphase⟩ | ⟨-, hold⟩
    · cases hphase
    · exact fun a ha => (h.looked j _ _ hold ha).imp_left .inl
  · intro j wanted' excluded' hj
    rcases phase_update hj with ⟨-, hphase⟩ | ⟨-, hold⟩
    · cases hphase
    · exact h.excluded_cached j _ _ hold
  · intro j items owed hj
    rcases phase_update hj with ⟨-, hphase⟩ | ⟨-, hold⟩
    · cases hphase
      exact Set.subset_union_right
    · exact (h.taken_stored j _ _ hold).trans Set.subset_union_left
  · intro j items owed hj
    rcases phase_update hj with ⟨-, hphase⟩ | ⟨-, hold⟩
    · cases hphase
      exact huncached
    · exact h.taken_uncached j _ _ hold
  · intro j k items items' owed owed' hjk hj hk
    rcases phase_update hj with ⟨hji, hphase⟩ | ⟨-, hold⟩
    · cases hphase
      rcases phase_update hk with ⟨hki, -⟩ | ⟨-, hold'⟩
      · exact absurd (hji.trans hki.symm) hjk
      · exact hnew _ (h.taken_stored k _ _ hold')
    · rcases phase_update hk with ⟨-, hphase⟩ | ⟨-, hold'⟩
      · cases hphase
        exact (hnew _ (h.taken_stored j _ _ hold)).symm
      · exact h.taken_apart j k _ _ _ _ hjk hold hold'
  · intro a ha
    rcases ha with ha | ha
    · refine (h.covered a ha).imp_right fun ⟨j, items, owed, hj, hmem⟩ =>
        ⟨j, items, owed, ?_, hmem⟩
      have hji : j ≠ i := by
        intro heq
        rw [heq, hi] at hj
        cases hj
      exact (Function.update_of_ne hji _ s.phase).trans hj
    · exact .inr ⟨i, _, _, Function.update_self i _ s.phase, ha⟩
  · exact h.cached.trans (Set.union_subset_union_right _ Set.subset_union_left)
  · obtain ⟨pending, hpending, haccount⟩ := h.accounted
    refine ⟨insert i pending, ?_, ?_⟩
    · intro j items owed hj
      rcases phase_update hj with ⟨hji, -⟩ | ⟨-, hold⟩
      · exact hji ▸ Finset.mem_insert_self i pending
      · exact Finset.mem_insert_of_mem (hpending j items owed hold)
    · -- the task owed nothing, and now owes the amount
      have hnone : (s.phase i).owed = 0 := by rw [hi]; rfl
      have hsum := sum_owed_update s.phase (.taken (fresh s wanted excluded) amount)
        (Finset.mem_insert_self i pending)
      have hinsert : ∑ j ∈ insert i pending, (s.phase j).owed =
          ∑ j ∈ pending, (s.phase j).owed :=
        Finset.sum_insert_of_eq_zero_if_notMem fun _ => hnone
      rw [hnone, add_zero, hinsert] at hsum
      show s.storedAccount + amount = s.cachedAccount +
        ∑ j ∈ insert i pending, (Function.update s.phase i _ j).owed
      rw [hsum, haccount, add_assoc]
      rfl

theorem Safe.put (h : Safe start s) {items : Set α} {amount : β}
    (hi : s.phase i = .taken items amount) :
    Safe start { s.enter i .idle with
      cached := s.cached ∪ items
      cachedAccount := s.cachedAccount + amount } := by
  -- the tasks that have taken something are others
  have htaken : ∀ j other owed, Function.update s.phase i .idle j = .taken other owed →
      j ≠ i ∧ s.phase j = .taken other owed := by
    intro j other owed hj
    rcases phase_update hj with ⟨-, hphase⟩ | hold
    · cases hphase
    · exact hold
  refine ⟨?_, ?_, ?_, ?_, ?_, ?_, ?_, ?_, ?_⟩
  · intro j wanted excluded hj
    rcases phase_update hj with ⟨-, hphase⟩ | ⟨-, hold⟩
    · cases hphase
    · rintro a ⟨hwanted, hcached | hitem⟩
      · exact h.looked j _ _ hold ⟨hwanted, hcached⟩
      · exact .inl (h.taken_stored i items amount hi hitem)
  · intro j wanted excluded hj
    rcases phase_update hj with ⟨-, hphase⟩ | ⟨-, hold⟩
    · cases hphase
    · exact (h.excluded_cached j _ _ hold).trans Set.subset_union_left
  · exact fun j other owed hj => h.taken_stored j other owed (htaken j other owed hj).2
  · intro j other owed hj
    obtain ⟨hji, hold⟩ := htaken j other owed hj
    rw [Set.disjoint_union_right]
    exact ⟨h.taken_uncached j other owed hold, h.taken_apart j i _ _ _ _ hji hold hi⟩
  · exact fun j k other other' owed owed' hjk hj hk =>
      h.taken_apart j k _ _ _ _ hjk (htaken j other owed hj).2 (htaken k other' owed' hk).2
  · intro a ha
    rcases h.covered a ha with hcached | ⟨j, other, owed, hj, hmem⟩
    · exact .inl (.inl hcached)
    · by_cases hji : j = i
      · rw [hji, hi] at hj
        cases hj
        exact .inl (.inr hmem)
      · exact .inr ⟨j, other, owed, (Function.update_of_ne hji _ s.phase).trans hj, hmem⟩
  · exact h.start_cached.trans Set.subset_union_left
  · exact Set.union_subset h.cached
      ((h.taken_stored i items amount hi).trans Set.subset_union_right)
  · obtain ⟨pending, hpending, haccount⟩ := h.accounted
    refine ⟨pending, fun j other owed hj => hpending j other owed (htaken j other owed hj).2, ?_⟩
    have hsum := sum_owed_update s.phase .idle (hpending i items amount hi)
    have howed : (s.phase i).owed = amount := by rw [hi]; rfl
    have hidle : (Phase.idle : Phase α β).owed = 0 := rfl
    rw [howed, hidle, add_zero] at hsum
    show s.storedAccount = s.cachedAccount + amount +
      ∑ j ∈ pending, (Function.update s.phase i .idle j).owed
    rw [haccount, ← hsum, add_assoc, add_comm amount]

theorem Safe.step (h : Safe start s) (hstep : Step s s') : Safe start s' := by
  cases hstep with
  | @look i hidle wanted =>
      refine h.of_phase (fun items amount hi => ?_) (fun items amount hi => ?_) ?_
      · rw [hidle] at hi
        cases hi
      · cases hi
      · intro wanted' excluded hnext
        cases hnext
        exact ⟨Set.subset_union_right, Set.inter_subset_right⟩
  | take hlooked amount => exact h.take hlooked amount
  | giveUp hlooked =>
      refine h.of_phase (fun items amount hi => ?_) (fun items amount hi => ?_) ?_
      · rw [hlooked] at hi
        cases hi
      · cases hi
      · intro wanted' excluded hnext
        cases hnext
  | put htaken => exact h.put htaken

theorem safe_of_reachable (h : (system ι start).Reachable s) : Safe start s := by
  refine h.invariant ?_ fun _ _ _ hs hstep => hs.step hstep
  intro s₀ hinit
  obtain ⟨hstored, hstart, haccounts, hidle⟩ := hinit
  -- at the start every task is idle
  have hnone : ∀ i items amount, s₀.phase i ≠ .taken items amount := by
    intro i items amount hi
    rw [hidle] at hi
    cases hi
  refine ⟨?_, ?_, ?_, ?_, ?_, fun a ha => .inl (hstored ha), hstart.ge, ?_, ∅, ?_, ?_⟩
  · intro i wanted excluded hi
    rw [hidle] at hi
    cases hi
  · intro i wanted excluded hi
    rw [hidle] at hi
    cases hi
  · exact fun i items amount hi => absurd hi (hnone i items amount)
  · exact fun i items amount hi => absurd hi (hnone i items amount)
  · exact fun i j items items' amount amount' _ hi => absurd hi (hnone i items amount)
  · exact hstart.le.trans Set.subset_union_left
  · exact fun i items amount hi => absurd hi (hnone i items amount)
  · rw [Finset.sum_empty, add_zero, haccounts]

omit [DecidableEq ι] in
/-- When nothing is on its way, the cache has what it started with and what is stored. -/
theorem Safe.settled (h : Safe start s)
    (hnone : ∀ i items amount, s.phase i ≠ .taken items amount) :
    s.cached = start ∪ s.stored ∧ s.storedAccount = s.cachedAccount := by
  refine ⟨h.cached.antisymm (Set.union_subset h.start_cached fun a ha => ?_), ?_⟩
  · exact (h.covered a ha).resolve_right fun ⟨i, items, amount, hi, _⟩ => hnone i items amount hi
  · obtain ⟨pending, -, haccount⟩ := h.accounted
    rw [haccount, Finset.sum_eq_zero, add_zero]
    intro i _
    cases hphase : s.phase i with
    | taken items amount => exact absurd hphase (hnone i items amount)
    | _ => rfl

end Invariant

end StoreThenCache
