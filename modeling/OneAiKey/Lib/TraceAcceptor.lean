/-
  OneAiKey.Lib.TraceAcceptor — partial automata that accept event traces.

  An automaton is a partial step function; a trace is accepted from a state if
  every event has a step.  Two rules read facts about an accepted trace off the
  steps:

    * `countP_le_budget` — if every charged event takes one unit from a budget
      of the state and no event adds to it, the charged events of a trace are at
      most the budget of its start;
    * `exists_escape` — a trace that leaves a set of states has an event of the
      kind that leads out of the set.
-/
import Mathlib.Tactic.Linarith

namespace TraceAcceptor

variable {σ ε : Type} {step : σ → ε → Option σ} {s s' : σ} {es es' : List ε}

/-- The state after the events, if each has a step. -/
def run (step : σ → ε → Option σ) : σ → List ε → Option σ
  | s, [] => some s
  | s, e :: es => (step s e).bind fun s' => run step s' es

theorem run_cons (e : ε) : run step s (e :: es) = (step s e).bind fun s' => run step s' es := rfl

theorem run_append : run step s (es ++ es') = (run step s es).bind fun s' => run step s' es' := by
  induction es generalizing s with
  | nil => rfl
  | cons e es ih =>
      rw [List.cons_append, run_cons, run_cons]
      cases step s e with
      | none => rfl
      | some s₁ => exact ih

/-- A trace that is accepted in two parts. -/
theorem run_append_some {s₁ : σ} (h : run step s es = some s₁) (h' : run step s₁ es' = some s') :
    run step s (es ++ es') = some s' := by
  rw [run_append, h]
  exact h'

/-- The charged events are paid for by the budget. -/
theorem countP_le_budget {budget : σ → Nat} {charged : ε → Bool}
    (hstep : ∀ s e s', step s e = some s' →
      budget s' + (if charged e = true then 1 else 0) ≤ budget s)
    (h : run step s es = some s') : es.countP charged + budget s' ≤ budget s := by
  induction es generalizing s with
  | nil =>
      obtain rfl : s = s' := Option.some.inj h
      rw [List.countP_nil, Nat.zero_add]
  | cons e es ih =>
      rw [run_cons] at h
      obtain ⟨s₁, hone, hrest⟩ := Option.bind_eq_some_iff.mp h
      have htail := ih hrest
      have hhead := hstep s e s₁ hone
      rw [List.countP_cons]
      omega

/-- A trace from inside a set to outside has an event that leads out. -/
theorem exists_escape {A : σ → Prop} {leaves : ε → Prop}
    (hstay : ∀ s e s', A s → step s e = some s' → ¬ leaves e → A s')
    (h : run step s es = some s') (hs : A s) (hs' : ¬ A s') : ∃ e ∈ es, leaves e := by
  induction es generalizing s with
  | nil =>
      cases h
      exact absurd hs hs'
  | cons e es ih =>
      rw [run_cons] at h
      obtain ⟨s₁, hone, hrest⟩ := Option.bind_eq_some_iff.mp h
      by_cases he : leaves e
      · exact ⟨e, List.mem_cons_self, he⟩
      · obtain ⟨e', hmem, hleaves⟩ := ih hrest (hstay s e s₁ hs hone he)
        exact ⟨e', List.mem_cons_of_mem _ hmem, hleaves⟩

end TraceAcceptor
