/-
  OneAiKey.RoutePlan.Rotation — how often each upstream comes first (`src/route_plan.rs`).

  The ticket of a request is its hash modulo the total weight of the leading block.  The
  targets of the block divide the tickets among them, in order, each by its weight:

    ticket   0 … w₀-1 | w₀ … w₀+w₁-1 | … | … total-1
    first        0    |       1       |   | last

  Main results:
    * `countP_ticketSearch` — so many tickets fall on a target as its weight says;
    * `orderWeightedU64_eq` — the function with 64-bit arithmetic fails exactly if the sum of
      the weights does not fit;
    * `weighted_rotation_is_proportional` — the order, the shares and the arithmetic.
-/
import OneAiKey.RoutePlan.Exact
import Mathlib.Algebra.Order.BigOperators.Group.List

namespace OneAiKey

/-! ## §1. The shares of the ticket search. -/

/-- The numbers of a stretch, of which a range may see the beginning only. -/
theorem countP_range_stretch (lower upper n : Nat) :
    (List.range n).countP (fun t => decide (lower ≤ t ∧ t < upper)) = min n upper - lower := by
  induction n with
  | zero => simp
  | succ n ih =>
      rw [List.range_succ, List.countP_append, ih, List.countP_singleton]
      by_cases hin : lower ≤ n ∧ n < upper
      · rw [if_pos (by simpa using hin)]
        omega
      · -- the next number is outside, and both ends of the stretch decide the sum
        rw [if_neg (by simpa using hin)]
        omega

theorem sum_take_le (weights : List Nat) (i : Nat) : (weights.take i).sum ≤ weights.sum := by
  have hsplit : (weights.take i).sum + (weights.drop i).sum = weights.sum := by
    rw [← List.sum_append, List.take_append_drop]
  omega

/-- Each target has as many tickets as its weight says. -/
theorem countP_ticketSearch {weights : List Nat} {i weight : Nat} (hi : weights[i]? = some weight) :
    (List.range weights.sum).countP (fun ticket => ticketSearch weights ticket = some i) =
      weight := by
  obtain ⟨hlt, -⟩ := List.getElem?_eq_some_iff.mp hi
  have hnext : (weights.take (i + 1)).sum = (weights.take i).sum + weight := by
    rw [List.take_add_one, hi, List.sum_append]
    rfl
  have hle := sum_take_le weights (i + 1)
  have hstretch : ∀ ticket, ticketSearch weights ticket = some i ↔
      (weights.take i).sum ≤ ticket ∧ ticket < (weights.take (i + 1)).sum := by
    intro ticket
    rw [ticketSearch_eq_some_iff]
    exact and_iff_right hlt
  -- a stretch that begins at one sum and ends at the next is as long as the weight
  simp only [hstretch]
  rw [countP_range_stretch]
  omega

/-! ## §2. The order for each ticket. -/

/-- So many tickets belong to the target at a position of the block. -/
theorem countP_ticket {targets : List Entry} {i : Nat} {e : Entry}
    (hi : (targets.take (tierLength targets))[i]? = some e) :
    (List.range (totalWeight targets)).countP (fun ticket =>
      ticketSearch ((targets.take (tierLength targets)).map entryWeight) ticket = some i) =
        entryWeight e :=
  countP_ticketSearch (by rw [List.getElem?_map, hi]; rfl)

/-- Where the entries have different indices, so many tickets put the target first. -/
theorem countP_head {targets : List Entry} (hdistinct : (targets.map Prod.fst).Nodup) {e : Entry}
    (he : e ∈ targets.take (tierLength targets)) :
    (List.range (totalWeight targets)).countP (fun ticket =>
      (orderAtTicket targets ticket).head? = some e) = entryWeight e := by
  obtain ⟨i, hi⟩ := List.mem_iff_getElem?.mp he
  have hblock : (targets.take (tierLength targets)).Nodup :=
    (hdistinct.of_map Prod.fst).sublist (List.take_sublist _ _)
  rw [← countP_ticket hi]
  refine List.countP_congr ?_
  intro ticket hticket
  obtain ⟨j, f, hj, hf, -, hhead⟩ := orderAtTicket_spec (List.mem_range.mp hticket)
  rw [hhead, hj, decide_eq_true_eq, decide_eq_true_eq, Option.some_inj, Option.some_inj]
  -- distinct entries have one place each, so the head determines the index
  constructor
  · intro hfe
    rw [hfe] at hf
    obtain ⟨hjlt, hjget⟩ := List.getElem?_eq_some_iff.mp hf
    obtain ⟨hilt, higet⟩ := List.getElem?_eq_some_iff.mp hi
    exact (hblock.getElem_inj_iff).mp (hjget.trans higet.symm)
  · intro hji
    rw [hji, hi] at hf
    exact (Option.some.inj hf).symm

/-! ## §3. The arithmetic. -/

/-- `u64` addition; `none` is the overflow. -/
def u64Add (a b : Nat) : Option Nat := if a + b < 2 ^ 64 then some (a + b) else none

/-- `u64` subtraction; `none` is the underflow. -/
def u64Sub (a b : Nat) : Option Nat := if b ≤ a then some (a - b) else none

/-- `u64` remainder; `none` is the division by zero. -/
def u64Rem (a b : Nat) : Option Nat := if b = 0 then none else some (a % b)

/-- The sum of the weights, added up in list order. -/
def weightSumU64 (block : List Entry) : Option Nat :=
  block.foldlM (fun total e => u64Add total (entryWeight e)) 0

/-- The ticket loop; a loop that ends without a `break` selects index 0. -/
def ticketLoopU64 : (block : List Entry) → (index ticket : Nat) → Option Nat
  | [], _, _ => some 0
  | e :: rest, index, ticket =>
      if ticket < entryWeight e then some index
      else (u64Sub ticket (entryWeight e)).bind fun ticket => ticketLoopU64 rest (index + 1) ticket

/-- `rotate_left` on the first `n` elements; a rotation beyond them panics. -/
def rotateLeadingU64 {α : Type} (n k : Nat) (xs : List α) : Option (List α) :=
  if k ≤ n then some (rotateLeading n k xs) else none

/-- `order_weighted_priority_tier_with_indices` with the arithmetic of the machine. -/
def orderWeightedU64 (targets : List Entry) (requestId : String) : Option (List Entry) :=
  let tierLen := tierLength targets
  if tierLen ≤ 1 then some targets
  else
    (weightSumU64 (targets.take tierLen)).bind fun total =>
      (u64Rem (fnv1a requestId).toNat total).bind fun ticket =>
        (ticketLoopU64 (targets.take tierLen) 0 ticket).bind fun selectedIndex =>
          rotateLeadingU64 tierLen selectedIndex targets

/-- The sum overflows exactly if the whole of it does not fit. -/
theorem foldlM_u64Add (block : List Entry) {total : Nat} (htotal : total < 2 ^ 64) :
    block.foldlM (fun total e => u64Add total (entryWeight e)) total =
      if total + (block.map entryWeight).sum < 2 ^ 64 then
        some (total + (block.map entryWeight).sum)
      else none := by
  induction block generalizing total with
  | nil =>
      rw [List.map_nil, List.sum_nil, Nat.add_zero, if_pos htotal]
      rfl
  | cons e rest ih =>
      rw [List.foldlM_cons, List.map_cons, List.sum_cons, ← Nat.add_assoc]
      unfold u64Add
      by_cases hfits : total + entryWeight e < 2 ^ 64
      · rw [if_pos hfits]
        exact ih hfits
      · -- an overflow here is one of the whole sum, as weights are not negative
        have hover : ¬ total + entryWeight e + (rest.map entryWeight).sum < 2 ^ 64 := by omega
        rw [if_neg hfits, if_neg hover]
        rfl

/-- The subtraction stands behind its guard, so the loop is the ticket search. -/
theorem ticketLoopU64_eq (block : List Entry) (index ticket : Nat) :
    ticketLoopU64 block index ticket =
      some (((ticketSearch (block.map entryWeight) ticket).map (index + ·)).getD 0) := by
  induction block generalizing index ticket with
  | nil => rfl
  | cons e rest ih =>
      unfold ticketLoopU64
      rw [List.map_cons]
      unfold ticketSearch
      by_cases hfirst : ticket < entryWeight e
      · rw [if_pos hfirst, if_pos hfirst]
        rfl
      · rw [if_neg hfirst, if_neg hfirst]
        unfold u64Sub
        rw [if_pos (Nat.le_of_not_lt hfirst), Option.bind_some, ih, Option.map_map]
        congr 3
        funext i
        show index + 1 + i = index + (i + 1)
        omega

theorem entryWeight_le (e : Entry) : entryWeight e ≤ 65535 := by
  have hlt := e.2.weight.toNat_lt
  unfold entryWeight
  omega

theorem totalWeight_le (targets : List Entry) :
    totalWeight targets ≤ tierLength targets * 65535 := by
  unfold totalWeight
  have hsum := List.sum_le_card_nsmul ((targets.take (tierLength targets)).map entryWeight) 65535
    (List.forall_mem_map.mpr fun e _ => entryWeight_le e)
  rw [List.length_map, List.length_take, Nat.min_eq_left (tierLength_le targets)] at hsum
  exact hsum

/-- With 64-bit arithmetic the function does the same, unless the sum of the weights does
not fit. -/
theorem orderWeightedU64_eq (targets : List Entry) (requestId : String) :
    orderWeightedU64 targets requestId =
      if totalWeight targets < 2 ^ 64 then
        some (orderWeightedPriorityTierWithIndices targets requestId)
      else none := by
  have hle := totalWeight_le targets
  unfold orderWeightedU64 orderWeightedPriorityTierWithIndices
  dsimp only
  by_cases hsmall : tierLength targets ≤ 1
  · have hfits : totalWeight targets < 2 ^ 64 := by omega
    rw [if_pos hsmall, if_pos hsmall, if_pos hfits]
  · rw [if_neg hsmall, if_neg hsmall]
    unfold weightSumU64
    rw [foldlM_u64Add _ (by decide), Nat.zero_add]
    change (if totalWeight targets < 2 ^ 64 then some (totalWeight targets) else none).bind _ = _
    by_cases hfits : totalWeight targets < 2 ^ 64
    · rw [if_pos hfits, if_pos hfits, Option.bind_some]
      -- two targets at least, each of a positive weight
      have hpos := Nat.ne_of_gt (@totalWeight_pos targets (by omega))
      unfold u64Rem
      rw [if_neg hpos, Option.bind_some, ticketLoopU64_eq, Option.bind_some]
      have hselected : ((ticketSearch ((targets.take (tierLength targets)).map entryWeight)
          ((fnv1a requestId).toNat % totalWeight targets)).map (0 + ·)).getD 0 =
          stickyRotation targets requestId := by
        unfold stickyRotation
        simp only [Nat.zero_add, Option.map_id']
        rfl
      have hlt : stickyRotation targets requestId < tierLength targets :=
        stickyRotation_lt requestId (by omega)
      rw [hselected]
      unfold rotateLeadingU64
      rw [if_pos (Nat.le_of_lt hlt)]
    · rw [if_neg hfits, if_neg hfits]
      rfl

/-! ## §4. The rotation. -/

/-- An entry takes 72 bytes, so this many of them would need 18 PiB: more than a 64-bit
machine can be given, whose physical addresses have 52 bits. -/
def FitsMemory (targets : List Entry) : Prop := targets.length ≤ 2 ^ 48

instance (targets : List Entry) : Decidable (FitsMemory targets) :=
  inferInstanceAs (Decidable (targets.length ≤ 2 ^ 48))

theorem totalWeight_fits {targets : List Entry} (h : FitsMemory targets) :
    totalWeight targets < 2 ^ 64 := by
  have hsum := totalWeight_le targets
  have hlength := tierLength_le targets
  unfold FitsMemory at h
  omega

/-- For a sorted list of targets: the block of the tickets is the leading one of equal
priority; every ticket finds a target of the block, and the order is the rotation that puts
this target first, with the rest in place; the targets share the tickets by their weights; and
the 64-bit arithmetic of the code computes this order. -/
theorem weighted_rotation_is_proportional {targets : List Entry}
    (hsorted : targets.Pairwise keyLE) :
    let block := targets.take (tierLength targets)
    let rest := targets.drop (tierLength targets)
    let selected := fun ticket => ticketSearch (block.map entryWeight) ticket
    ((∀ a ∈ block, ∀ b ∈ block, a.2.priority.toNat = b.2.priority.toNat) ∧
      (∀ a ∈ block, ∀ b ∈ rest, a.2.priority.toNat < b.2.priority.toNat) ∧
      (targets ≠ [] → block ≠ [])) ∧
    (∀ requestId,
      (orderWeightedPriorityTierWithIndices targets requestId).Perm targets ∧
      (targets ≠ [] → ∃ ticket < totalWeight targets,
        orderWeightedPriorityTierWithIndices targets requestId = orderAtTicket targets ticket)) ∧
    (∀ ticket < totalWeight targets, ∃ i e,
      selected ticket = some i ∧ block[i]? = some e ∧
      orderAtTicket targets ticket = (block.drop i ++ block.take i) ++ rest ∧
      (orderAtTicket targets ticket).head? = some e) ∧
    (∀ i e, block[i]? = some e →
      (List.range (totalWeight targets)).countP (fun ticket => selected ticket = some i) =
        max e.2.weight.toNat 1) ∧
    ((targets.map Prod.fst).Nodup → ∀ e ∈ block,
      (List.range (totalWeight targets)).countP (fun ticket =>
        (orderAtTicket targets ticket).head? = some e) = max e.2.weight.toNat 1) ∧
    (∀ requestId, orderWeightedU64 targets requestId =
      if totalWeight targets < 2 ^ 64 then
        some (orderWeightedPriorityTierWithIndices targets requestId)
      else none) ∧
    (FitsMemory targets → ∀ requestId, orderWeightedU64 targets requestId =
      some (orderWeightedPriorityTierWithIndices targets requestId)) := by
  intro block rest selected
  obtain ⟨hequal, hhigher, hnil⟩ := leading_block hsorted
  have hblock : targets ≠ [] → block ≠ [] := by
    intro hne hempty
    apply hne
    rw [← List.take_append_drop (tierLength targets) targets]
    show block ++ rest = []
    rw [hempty, List.nil_append]
    exact hnil hempty
  refine ⟨⟨hequal, hhigher, hblock⟩, ?_, ?_, fun i e hi => countP_ticket hi,
    fun hdistinct e he => countP_head hdistinct he, orderWeightedU64_eq targets, ?_⟩
  · intro requestId
    rw [orderWeighted_eq_orderAtTicket]
    refine ⟨rotateLeading_perm _ _ _, ?_⟩
    intro hne
    -- a block of no targets would make the list empty
    have htier : 0 < tierLength targets := by
      by_contra hzero
      apply hblock hne
      show targets.take (tierLength targets) = []
      rw [Nat.eq_zero_of_not_pos hzero, List.take_zero]
    exact ⟨_, Nat.mod_lt _ (totalWeight_pos htier), rfl⟩
  · intro ticket hticket
    obtain ⟨i, e, hi, he, horder, hhead⟩ := orderAtTicket_spec hticket
    exact ⟨i, e, hi, he, horder, hhead⟩
  · intro hfits requestId
    rw [orderWeightedU64_eq, if_pos (totalWeight_fits hfits)]

/-- Two targets of weights 3 and 0 and one of a later priority: of four tickets the first
target has three and the second one. -/
theorem weighted_rotation_is_proportional_pair :
    let target := fun (i : Nat) (priority weight : UInt16) =>
      ((i, ⟨i, "main", .openAiCompatible, none, priority, weight⟩) : Entry)
    let targets := [target 0 1 3, target 1 1 0, target 2 2 5]
    (List.range 4).countP (fun ticket => (orderAtTicket targets ticket).head? = some (target 0 1 3))
        = 3 ∧
      (List.range 4).countP (fun ticket =>
        (orderAtTicket targets ticket).head? = some (target 1 1 0)) = 1 ∧
      ∀ requestId, orderWeightedU64 targets requestId =
        some (orderWeightedPriorityTierWithIndices targets requestId) := by
  intro target targets
  have h := @weighted_rotation_is_proportional targets (by decide)
  obtain ⟨-, -, -, -, hshares, -, hmachine⟩ := h
  exact ⟨hshares (by decide) (target 0 1 3) (by decide),
    hshares (by decide) (target 1 1 0) (by decide), hmachine (by decide)⟩

end OneAiKey
