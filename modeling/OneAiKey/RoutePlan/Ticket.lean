/-
  OneAiKey.RoutePlan.Ticket — which target of the leading block a request's ticket falls on
  (`src/route_plan.rs`).

  The targets of the leading block have stretches of tickets, in order and each as long as its
  weight; the ticket of a request is the hash of its id modulo the total weight.  The target
  with the ticket in its stretch comes first, and the block is rotated to it.

  Main results:
    * `ticketSearch_eq_some_iff` — a stretch lies between two prefix sums of the weights;
    * `orderWeighted_eq_orderAtTicket`, `orderAtTicket_spec` — the order is the rotation to the
      target of the ticket, in a block of any length.
-/
import OneAiKey.RoutePlan

namespace OneAiKey

/-! ## §1. The ticket search. -/

theorem ticketSearch_lt {weights : List Nat} {ticket i : Nat}
    (h : ticketSearch weights ticket = some i) : i < weights.length := by
  induction weights generalizing ticket i with
  | nil => cases h
  | cons weight rest ih =>
      unfold ticketSearch at h
      split at h
      · cases h
        exact Nat.succ_pos _
      · obtain ⟨j, hj, rfl⟩ := Option.map_eq_some_iff.mp h
        exact Nat.succ_lt_succ (ih hj)

/-- The tickets of a target are those between two sums of weights. -/
theorem ticketSearch_eq_some_iff (weights : List Nat) (ticket i : Nat) :
    ticketSearch weights ticket = some i ↔
      i < weights.length ∧ (weights.take i).sum ≤ ticket ∧ ticket < (weights.take (i + 1)).sum := by
  induction weights generalizing ticket i with
  | nil =>
      constructor
      · intro h
        cases h
      · rintro ⟨hi, -⟩
        exact absurd hi (Nat.not_lt_zero _)
  | cons weight rest ih =>
      unfold ticketSearch
      by_cases hfirst : ticket < weight
      · rw [if_pos hfirst]
        cases i with
        | zero => simpa using hfirst
        | succ j =>
            -- a later stretch begins behind the first weight
            constructor
            · intro h
              cases h
            · rintro ⟨-, hle, -⟩
              rw [List.take_succ_cons, List.sum_cons] at hle
              omega
      · rw [if_neg hfirst]
        cases i with
        -- the first stretch ends with the first weight
        | zero =>
            constructor
            · intro h
              obtain ⟨j, -, hj⟩ := Option.map_eq_some_iff.mp h
              cases hj
            · rintro ⟨-, -, hlt⟩
              simp at hlt
              omega
        | succ j =>
            -- the search goes on in the rest, whose stretches are shifted by the weight
            have hmap : (ticketSearch rest (ticket - weight)).map (· + 1) = some (j + 1) ↔
                ticketSearch rest (ticket - weight) = some j := by
              rw [Option.map_eq_some_iff]
              constructor
              · rintro ⟨k, hk, hkj⟩
                rw [hk, Nat.succ.inj hkj]
              · exact fun h => ⟨j, h, rfl⟩
            rw [hmap, ih, List.length_cons, List.take_succ_cons, List.take_succ_cons,
              List.sum_cons, List.sum_cons]
            omega

/-- Below the total weight the search ends on a target. -/
theorem ticketSearch_isSome {weights : List Nat} {ticket : Nat} (h : ticket < weights.sum) :
    ∃ i, ticketSearch weights ticket = some i := by
  induction weights generalizing ticket with
  | nil => exact absurd h (Nat.not_lt_zero _)
  | cons weight rest ih =>
      unfold ticketSearch
      rw [List.sum_cons] at h
      by_cases hfirst : ticket < weight
      · rw [if_pos hfirst]
        exact ⟨0, rfl⟩
      · rw [if_neg hfirst]
        obtain ⟨i, hi⟩ := @ih (ticket - weight) (by omega)
        rw [hi]
        exact ⟨i + 1, rfl⟩

/-! ## §2. The order for each ticket. -/

theorem tierLength_le (entries : List Entry) : tierLength entries ≤ entries.length := by
  unfold tierLength
  split
  · exact Nat.zero_le _
  · exact (List.takeWhile_sublist _).length_le

theorem stickyRotation_lt {entries : List Entry} (requestId : String)
    (h : 0 < tierLength entries) : stickyRotation entries requestId < tierLength entries := by
  unfold stickyRotation
  dsimp only
  cases hs : ticketSearch _ _ with
  | none => exact h
  | some i =>
      have hlt := ticketSearch_lt hs
      rw [List.length_map, List.length_take, Nat.min_eq_left (tierLength_le entries)] at hlt
      exact hlt

theorem rotateLeading_zero {α : Type} (n : Nat) (xs : List α) : rotateLeading n 0 xs = xs := by
  unfold rotateLeading
  simp

/-- The entries as the ticket orders them. -/
def orderAtTicket (targets : List Entry) (ticket : Nat) : List Entry :=
  let weights := (targets.take (tierLength targets)).map entryWeight
  rotateLeading (tierLength targets) ((ticketSearch weights ticket).getD 0) targets

/-- The weight of the leading block. -/
def totalWeight (targets : List Entry) : Nat :=
  ((targets.take (tierLength targets)).map entryWeight).sum

theorem entryWeight_pos (e : Entry) : 0 < entryWeight e := Nat.le_max_right _ _

theorem totalWeight_pos {targets : List Entry} (h : 0 < tierLength targets) :
    0 < totalWeight targets := by
  have hlength : 0 < (targets.take (tierLength targets)).length := by
    rw [List.length_take, Nat.min_eq_left (tierLength_le targets)]
    exact h
  unfold totalWeight
  cases hblock : targets.take (tierLength targets) with
  | nil =>
      rw [hblock] at hlength
      exact absurd hlength (Nat.lt_irrefl 0)
  | cons e rest =>
      rw [List.map_cons, List.sum_cons]
      exact Nat.add_pos_left (entryWeight_pos e) _

/-- A block of one target takes every ticket, so the early return changes nothing. -/
theorem orderWeighted_eq_orderAtTicket (targets : List Entry) (requestId : String) :
    orderWeightedPriorityTierWithIndices targets requestId =
      orderAtTicket targets ((fnv1a requestId).toNat % totalWeight targets) := by
  unfold orderWeightedPriorityTierWithIndices orderAtTicket
  by_cases hsmall : tierLength targets ≤ 1
  · rw [if_pos hsmall]
    -- the search can only find index 0, and rotating by 0 changes nothing
    have hzero : (ticketSearch ((targets.take (tierLength targets)).map entryWeight)
        ((fnv1a requestId).toNat % totalWeight targets)).getD 0 = 0 := by
      cases hsearch : ticketSearch _ _ with
      | none => rfl
      | some i =>
          have hlt := ticketSearch_lt hsearch
          rw [List.length_map, List.length_take] at hlt
          show i = 0
          omega
    dsimp only
    rw [hzero, rotateLeading_zero]
  · rw [if_neg hsmall]
    rfl

/-- The ticket search ends on a target of the block, and this target comes first. -/
theorem orderAtTicket_spec {targets : List Entry} {ticket : Nat}
    (hticket : ticket < totalWeight targets) :
    ∃ i e, ticketSearch ((targets.take (tierLength targets)).map entryWeight) ticket = some i ∧
      (targets.take (tierLength targets))[i]? = some e ∧
      orderAtTicket targets ticket = rotateLeading (tierLength targets) i targets ∧
      (orderAtTicket targets ticket).head? = some e := by
  obtain ⟨i, hi⟩ := ticketSearch_isSome hticket
  have hlt := ticketSearch_lt hi
  rw [List.length_map] at hlt
  have horder : orderAtTicket targets ticket = rotateLeading (tierLength targets) i targets := by
    unfold orderAtTicket
    dsimp only
    rw [hi]
    rfl
  refine ⟨i, _, hi, List.getElem?_eq_getElem hlt, horder, ?_⟩
  rw [horder]
  unfold rotateLeading
  rw [List.append_assoc, List.drop_eq_getElem_cons hlt]
  rfl

end OneAiKey
