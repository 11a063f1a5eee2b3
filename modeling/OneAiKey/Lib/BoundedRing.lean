/-
  OneAiKey.Lib.BoundedRing — bounded queues that count what they lose.

  A ring keeps the last events it was offered.  It loses events in three ways, and counts
  them in different places:

    push at capacity 0      the new event, one at a time
    push into a full ring   the oldest event, one at a time
    a smaller capacity      the oldest events, all at once

  The counter stops at a ceiling.  `Accounts` relates a ring to all that happened to it
  before, and each operation keeps it:

    * `Accounts.push`, `Accounts.setCapacity`, `Accounts.lose` — one operation;
    * `Implementation.run_accounts` — any sequence of operations of anything that works
      like a ring.
-/
import Mathlib.Data.List.Infix
import Mathlib.Order.MinMax

/-- A queue of bounded length with a counter of lost events. -/
structure BoundedRing (α : Type) where
  capacity : Nat
  dropped : Nat
  events : List α

namespace BoundedRing

variable {α : Type} {ceiling : Nat}

/-! ## §1. The operations. -/

/-- Count lost events; the counter stops at the ceiling. -/
def lose (ceiling : Nat) (r : BoundedRing α) (count : Nat) : BoundedRing α :=
  { r with dropped := min (r.dropped + count) ceiling }

/-- Offer an event. -/
def push (ceiling : Nat) (r : BoundedRing α) (a : α) : BoundedRing α :=
  if r.capacity = 0 then r.lose ceiling 1
  else if r.events.length = r.capacity then
    ({ r with events := r.events.tail ++ [a] } : BoundedRing α).lose ceiling 1
  else { r with events := r.events ++ [a] }

theorem push_of_zero {r : BoundedRing α} (h : r.capacity = 0) (a : α) :
    r.push ceiling a = r.lose ceiling 1 := if_pos h

theorem push_of_full {r : BoundedRing α} (hcapacity : ¬ r.capacity = 0)
    (h : r.events.length = r.capacity) (a : α) :
    r.push ceiling a =
      ({ r with events := r.events.tail ++ [a] } : BoundedRing α).lose ceiling 1 := by
  unfold push
  rw [if_neg hcapacity, if_pos h]

theorem push_of_room {r : BoundedRing α} (hcapacity : ¬ r.capacity = 0)
    (h : ¬ r.events.length = r.capacity) (a : α) :
    r.push ceiling a = { r with events := r.events ++ [a] } := by
  unfold push
  rw [if_neg hcapacity, if_neg h]

theorem capacity_push (r : BoundedRing α) (a : α) :
    (r.push ceiling a).capacity = r.capacity := by
  by_cases hzero : r.capacity = 0
  · rw [push_of_zero hzero]
    rfl
  · by_cases hfull : r.events.length = r.capacity
    · rw [push_of_full hzero hfull]
      rfl
    · rw [push_of_room hzero hfull]

/-- Change the capacity; what does not fit any more is lost from the front. -/
def setCapacity (ceiling : Nat) (r : BoundedRing α) (capacity : Nat) : BoundedRing α :=
  ({ r with
      capacity := capacity
      events := r.events.drop (r.events.length - capacity) } : BoundedRing α).lose ceiling
    (r.events.length - capacity)

/-- Pop from the front until the capacity is reached. -/
def popFrontTo (capacity : Nat) : List α → List α
  | [] => []
  | a :: l => if capacity < (a :: l).length then popFrontTo capacity l else a :: l

theorem popFrontTo_eq (capacity : Nat) (l : List α) :
    popFrontTo capacity l = l.drop (l.length - capacity) := by
  induction l with
  | nil =>
      rw [List.drop_nil]
      rfl
  | cons a l ih =>
      unfold popFrontTo
      rw [List.length_cons]
      by_cases hover : capacity < l.length + 1
      · have hone : l.length + 1 - capacity = l.length - capacity + 1 := by omega
        rw [if_pos hover, ih, hone, List.drop_succ_cons]
      · -- from here on nothing is popped
        have hnone : l.length + 1 - capacity = 0 := by omega
        rw [if_neg hover, hnone, List.drop_zero]

/-! ## §2. The account. -/

/-- The ring holds the end of the accepted events, and everything else that was offered,
with the losses reported from outside, is in the counter. -/
structure Accounts (ceiling : Nat) (accepted : List α) (offered reported : Nat)
    (r : BoundedRing α) : Prop where
  suffix : r.events <:+ accepted
  bounded : r.events.length ≤ r.capacity
  retained_le : r.events.length ≤ offered
  counted : r.dropped = min (offered - r.events.length + reported) ceiling

/-- The part of an offer that is accepted. -/
def accepts (r : BoundedRing α) (a : α) : List α := if r.capacity = 0 then [] else [a]

theorem min_add_min (a b ceiling : Nat) : min (min a ceiling + b) ceiling = min (a + b) ceiling := by
  omega

namespace Accounts

variable {accepted : List α} {offered reported : Nat} {r : BoundedRing α}

theorem empty (capacity : Nat) :
    Accounts ceiling ([] : List α) 0 0 ⟨capacity, 0, []⟩ :=
  ⟨List.suffix_rfl, Nat.zero_le _, Nat.le_refl _, (Nat.zero_min _).symm⟩

theorem lose (h : Accounts ceiling accepted offered reported r) (count : Nat) :
    Accounts ceiling accepted offered (reported + count) (r.lose ceiling count) := by
  refine ⟨h.suffix, h.bounded, h.retained_le, ?_⟩
  show min (r.dropped + count) ceiling = min (offered - r.events.length + (reported + count)) ceiling
  rw [h.counted, min_add_min, Nat.add_assoc]

theorem push (h : Accounts ceiling accepted offered reported r) (a : α) :
    Accounts ceiling (accepted ++ r.accepts a) (offered + 1) reported (r.push ceiling a) := by
  have hle := h.retained_le
  unfold accepts
  by_cases hzero : r.capacity = 0
  · -- nothing is retained, and the offer is lost
    rw [push_of_zero hzero, if_pos hzero, List.append_nil]
    refine ⟨h.suffix, h.bounded, Nat.le_succ_of_le hle, ?_⟩
    show min (r.dropped + 1) ceiling = min (offered + 1 - r.events.length + reported) ceiling
    rw [h.counted, min_add_min]
    congr 1
    omega
  · rw [if_neg hzero]
    by_cases hfull : r.events.length = r.capacity
    · -- the oldest event makes room: as many are retained as before
      have hlength : (r.events.tail ++ [a]).length = r.events.length := by
        rw [List.length_append, List.length_tail, List.length_singleton]
        omega
      rw [push_of_full hzero hfull]
      refine ⟨?_, ?_, ?_, ?_⟩
      · exact List.suffix_append_self_iff.mpr ((List.tail_suffix _).trans h.suffix)
      · show (r.events.tail ++ [a]).length ≤ r.capacity
        rw [hlength]
        exact h.bounded
      · show (r.events.tail ++ [a]).length ≤ offered + 1
        rw [hlength]
        exact Nat.le_succ_of_le hle
      · show min (r.dropped + 1) ceiling =
          min (offered + 1 - (r.events.tail ++ [a]).length + reported) ceiling
        rw [h.counted, min_add_min, hlength]
        congr 1
        omega
    · rw [push_of_room hzero hfull]
      -- there is room: one more is retained, and nothing is lost
      have hbounded := h.bounded
      refine ⟨?_, ?_, ?_, ?_⟩
      · exact List.suffix_append_self_iff.mpr h.suffix
      · show (r.events ++ [a]).length ≤ r.capacity
        rw [List.length_append, List.length_singleton]
        omega
      · show (r.events ++ [a]).length ≤ offered + 1
        rw [List.length_append, List.length_singleton]
        exact Nat.succ_le_succ hle
      · show r.dropped = min (offered + 1 - (r.events ++ [a]).length + reported) ceiling
        rw [h.counted, List.length_append, List.length_singleton, Nat.add_sub_add_right]

theorem setCapacity (h : Accounts ceiling accepted offered reported r) (capacity : Nat) :
    Accounts ceiling accepted offered reported (r.setCapacity ceiling capacity) := by
  have hle := h.retained_le
  have hlength : (r.events.drop (r.events.length - capacity)).length =
      min r.events.length capacity := by
    rw [List.length_drop]
    omega
  refine ⟨(List.drop_suffix _ _).trans h.suffix, ?_, ?_, ?_⟩
  · show (r.events.drop _).length ≤ capacity
    rw [hlength]
    exact Nat.min_le_right _ _
  · show (r.events.drop _).length ≤ offered
    rw [hlength]
    omega
  · -- what leaves the ring enters the counter
    show min (r.dropped + (r.events.length - capacity)) ceiling =
      min (offered - (r.events.drop _).length + reported) ceiling
    rw [h.counted, min_add_min, hlength]
    congr 1
    omega

end Accounts

/-! ## §3. What works like a ring. -/

/-- An operation on a ring, whose events are made from the inputs `ι`. -/
inductive Op (ι : Type) where
  | push (input : ι)
  | replaceCapacity (capacity : Nat)
  | recordDroppedEvents (dropped : Nat)

namespace Op

variable {ι : Type}

/-- The number of pushes among the operations. -/
def pushes : List (Op ι) → Nat
  | [] => 0
  | .push _ :: ops => pushes ops + 1
  | _ :: ops => pushes ops

/-- The losses that the operations report from outside. -/
def reported : List (Op ι) → Nat
  | [] => 0
  | .recordDroppedEvents dropped :: ops => dropped + reported ops
  | _ :: ops => reported ops

/-- The capacity after the operations. -/
def capacityAfter (capacity : Nat) : List (Op ι) → Nat
  | [] => capacity
  | .replaceCapacity capacity' :: ops => capacityAfter capacity' ops
  | _ :: ops => capacityAfter capacity ops

end Op

/-- Operations on states `σ` that act as those of a ring do. -/
structure Implementation (σ ι α : Type) (ceiling : Nat) where
  ring : σ → BoundedRing α
  /-- The event that a push makes of its input. -/
  event : σ → ι → α
  push : σ → ι → σ × Option α
  replaceCapacity : σ → Nat → σ
  recordDroppedEvents : σ → Nat → σ
  ring_push : ∀ s input, ring (push s input).1 = (ring s).push ceiling (event s input)
  push_returns : ∀ s input, (push s input).2 = if (ring s).capacity = 0 then none
    else some (event s input)
  ring_replaceCapacity : ∀ s capacity,
    ring (replaceCapacity s capacity) = (ring s).setCapacity ceiling capacity
  ring_recordDroppedEvents : ∀ s dropped,
    ring (recordDroppedEvents s dropped) = (ring s).lose ceiling dropped

namespace Implementation

variable {σ ι : Type} (impl : Implementation σ ι α ceiling)

/-- One operation; the accepted events are collected beside the state. -/
def step (s : σ × List α) : Op ι → σ × List α
  | .push input => ((impl.push s.1 input).1, s.2 ++ (impl.push s.1 input).2.toList)
  | .replaceCapacity capacity => (impl.replaceCapacity s.1 capacity, s.2)
  | .recordDroppedEvents dropped => (impl.recordDroppedEvents s.1 dropped, s.2)

def run (s : σ) (ops : List (Op ι)) : σ × List α := ops.foldl impl.step (s, [])

/-- What every operation keeps, a run keeps. -/
theorem foldl_invariant {I : σ × List α → Prop} (hstep : ∀ s op, I s → I (impl.step s op))
    (ops : List (Op ι)) {s : σ × List α} (hs : I s) : I (ops.foldl impl.step s) := by
  induction ops generalizing s with
  | nil => exact hs
  | cons op ops ih => exact ih (hstep s op hs)

theorem capacity_foldl (ops : List (Op ι)) (s : σ × List α) :
    (impl.ring (ops.foldl impl.step s).1).capacity =
      Op.capacityAfter (impl.ring s.1).capacity ops := by
  induction ops generalizing s with
  | nil => rfl
  | cons op ops ih =>
      rw [List.foldl_cons, ih]
      cases op with
      | push input =>
          show Op.capacityAfter (impl.ring (impl.push s.1 input).1).capacity ops = _
          rw [impl.ring_push, capacity_push]
          rfl
      | replaceCapacity capacity =>
          show Op.capacityAfter (impl.ring (impl.replaceCapacity s.1 capacity)).capacity ops = _
          rw [impl.ring_replaceCapacity]
          rfl
      | recordDroppedEvents dropped =>
          show Op.capacityAfter (impl.ring (impl.recordDroppedEvents s.1 dropped)).capacity ops = _
          rw [impl.ring_recordDroppedEvents]
          rfl

/-- Each operation keeps the account, so a run does. -/
theorem accounts_foldl (ops : List (Op ι)) {s : σ × List α} {offered reported : Nat}
    (h : Accounts ceiling s.2 offered reported (impl.ring s.1)) :
    Accounts ceiling (ops.foldl impl.step s).2 (offered + Op.pushes ops)
      (reported + Op.reported ops) (impl.ring (ops.foldl impl.step s).1) := by
  induction ops generalizing s offered reported with
  | nil => exact h
  | cons op ops ih =>
      rw [List.foldl_cons]
      cases op with
      | push input =>
          -- what the push returns is what the ring accepts
          have haccepts : (impl.push s.1 input).2.toList =
              (impl.ring s.1).accepts (impl.event s.1 input) := by
            rw [impl.push_returns]
            unfold accepts
            split <;> rfl
          have hnext : Accounts ceiling (impl.step s (.push input)).2 (offered + 1) reported
              (impl.ring (impl.step s (.push input)).1) := by
            show Accounts ceiling (s.2 ++ (impl.push s.1 input).2.toList) (offered + 1) reported
              (impl.ring (impl.push s.1 input).1)
            rw [impl.ring_push, haccepts]
            exact h.push _
          show Accounts ceiling _ (offered + (Op.pushes ops + 1)) (reported + Op.reported ops) _
          rw [Nat.add_comm (Op.pushes ops), ← Nat.add_assoc]
          exact ih hnext
      | replaceCapacity capacity =>
          have hnext : Accounts ceiling s.2 offered reported
              (impl.ring (impl.replaceCapacity s.1 capacity)) := by
            rw [impl.ring_replaceCapacity]
            exact h.setCapacity capacity
          exact ih hnext
      | recordDroppedEvents dropped =>
          have hnext : Accounts ceiling s.2 offered (reported + dropped)
              (impl.ring (impl.recordDroppedEvents s.1 dropped)) := by
            rw [impl.ring_recordDroppedEvents]
            exact h.lose dropped
          -- the report goes into the counter before those of the rest
          show Accounts ceiling _ (offered + Op.pushes ops) (reported + (dropped + Op.reported ops)) _
          rw [← Nat.add_assoc]
          exact ih hnext

/-- A run from an empty ring. -/
theorem run_accounts {s : σ} {capacity : Nat} (hs : impl.ring s = ⟨capacity, 0, []⟩)
    (ops : List (Op ι)) :
    Accounts ceiling (impl.run s ops).2 (Op.pushes ops) (Op.reported ops)
      (impl.ring (impl.run s ops).1) := by
  have hempty : Accounts ceiling ([] : List α) 0 0 (impl.ring s) := by
    rw [hs]
    exact .empty capacity
  have h := impl.accounts_foldl ops (s := (s, [])) hempty
  rw [Nat.zero_add, Nat.zero_add] at h
  exact h

end Implementation
end BoundedRing
