/-
  OneAiKey.Lib.Simulation — simulations between two transition systems with the
  same labels.

  `Simulates A B R` says that every step of `A` from related states has a step of
  `B` with the same label that leads to related states.  The induction over runs is
  packaged once:

    * `Simulates.run` — so has every run;
    * `Simulates.run_iff` — with a simulation in the other direction, the two
      systems have the same label sequences from related states;
    * `Simulates.of_map` — the case of an abstraction function over an invariant.
-/
import OneAiKey.Lib.TransitionSystem

namespace TransitionSystem

variable {σ τ ε : Type} {A : TransitionSystem σ ε} {B : TransitionSystem τ ε}
  {R : σ → τ → Prop}

/-- Every step of `A` is one of `B`, as far as the labels and the related states go. -/
def Simulates (A : TransitionSystem σ ε) (B : TransitionSystem τ ε) (R : σ → τ → Prop) : Prop :=
  ∀ s e s' t, R s t → A.Step s e s' → ∃ t', B.Step t e t' ∧ R s' t'

namespace Simulates

theorem run (h : Simulates A B R) {s s' : σ} {es : List ε} (hrun : A.Run s es s') :
    ∀ t, R s t → ∃ t', B.Run t es t' ∧ R s' t' := by
  induction hrun with
  | nil s =>
      intro t ht
      exact ⟨t, .nil t, ht⟩
  | cons hst _ ih =>
      intro t ht
      obtain ⟨t₁, hstep, ht₁⟩ := h _ _ _ _ ht hst
      obtain ⟨t', hrest, ht'⟩ := ih t₁ ht₁
      exact ⟨t', .cons hstep hrest, ht'⟩

/-- Simulations in both directions: the same label sequences are possible. -/
theorem run_iff (h : Simulates A B R) (h' : Simulates B A fun t s => R s t) {s : σ} {t : τ}
    (hst : R s t) (es : List ε) : (∃ s', A.Run s es s') ↔ ∃ t', B.Run t es t' := by
  constructor
  · rintro ⟨s', hrun⟩
    obtain ⟨t', hrun', -⟩ := h.run hrun t hst
    exact ⟨t', hrun'⟩
  · rintro ⟨t', hrun⟩
    obtain ⟨s', hrun', -⟩ := h'.run hrun s hst
    exact ⟨s', hrun'⟩

/-- An abstraction function that maps the steps from invariant states to steps. -/
theorem of_map {I : σ → Prop} {f : σ → τ}
    (hstep : ∀ s e s', I s → A.Step s e s' → B.Step (f s) e (f s') ∧ I s') :
    Simulates A B fun s t => I s ∧ t = f s := by
  rintro s e s' t ⟨hI, rfl⟩ hst
  obtain ⟨hB, hI'⟩ := hstep s e s' hI hst
  exact ⟨f s', hB, hI', rfl⟩

end Simulates

end TransitionSystem
