/-
  OneAiKey.Lib.TransitionSystem — labelled transition systems and their runs.

  A system is a set of initial states and a labelled step relation.  `Run`
  is the finite run relation, `Reachable` what a run reaches from an initial
  state.  Each induction over runs is packaged once:

    * `Run.invariant` / `Reachable.invariant` — what every step keeps, every
      run keeps;
    * `Run.labels` — what every step's label satisfies from invariant states,
      every label of a run satisfies;
    * `restrict` — the sub-system whose steps meet a condition on the state
      before the step and its label, for results of the form "in every run
      whose steps all meet the condition";
    * `Run.restrict_or_doomed` — the rule that shows such a condition exact;
    * `Behavior` — an infinite run, for what reads its states at several times.
-/
import Mathlib.Tactic.Linarith

/-- A labelled transition system over states `σ` and labels `ε`. -/
structure TransitionSystem (σ ε : Type) where
  /-- The states a run may start from. -/
  Init : σ → Prop
  /-- One step, with its label. -/
  Step : σ → ε → σ → Prop

namespace TransitionSystem

variable {σ ε : Type} {S : TransitionSystem σ ε} {I : σ → Prop}

/-- The labels `es`, taken in order, lead from one state to the other. -/
inductive Run (S : TransitionSystem σ ε) : σ → List ε → σ → Prop where
  | nil (s : σ) : Run S s [] s
  | cons {s s' s'' : σ} {e : ε} {es : List ε} :
      S.Step s e s' → Run S s' es s'' → Run S s (e :: es) s''

/-- What some run reaches from some initial state. -/
def Reachable (S : TransitionSystem σ ε) (s : σ) : Prop :=
  ∃ s₀ es, S.Init s₀ ∧ S.Run s₀ es s

/-- The steps of `S` that meet `C` on the state before the step and the label. -/
def restrict (S : TransitionSystem σ ε) (C : σ → ε → Prop) : TransitionSystem σ ε where
  Init := S.Init
  Step s e s' := S.Step s e s' ∧ C s e

/-! ## §1. Runs compose. -/

theorem Run.append {s s' s'' : σ} {es es' : List ε}
    (h : S.Run s es s') (h' : S.Run s' es' s'') : S.Run s (es ++ es') s'' := by
  induction h with
  | nil s => exact h'
  | cons hstep _ ih => exact .cons hstep (ih h')

theorem Reachable.run {s s' : σ} {es : List ε}
    (hs : S.Reachable s) (h : S.Run s es s') : S.Reachable s' := by
  obtain ⟨s₀, es₀, h₀, hr⟩ := hs
  exact ⟨s₀, es₀ ++ es, h₀, hr.append h⟩

theorem Reachable.step {s s' : σ} {e : ε}
    (hs : S.Reachable s) (h : S.Step s e s') : S.Reachable s' :=
  hs.run (.cons h (.nil s'))

theorem Reachable.init {s : σ} (h : S.Init s) : S.Reachable s :=
  ⟨s, [], h, .nil s⟩

/-! ## §2. The invariant rules. -/

/-- What every step keeps, a run keeps. -/
theorem Run.invariant (hstep : ∀ s e s', I s → S.Step s e s' → I s')
    {s s' : σ} {es : List ε} (h : S.Run s es s') (hs : I s) : I s' := by
  induction h with
  | nil s => exact hs
  | cons hst _ ih => exact ih (hstep _ _ _ hs hst)

/-- An invariant of the steps that holds initially holds of every reachable state. -/
theorem Reachable.invariant (hinit : ∀ s, S.Init s → I s)
    (hstep : ∀ s e s', I s → S.Step s e s' → I s')
    {s : σ} (h : S.Reachable s) : I s := by
  obtain ⟨s₀, es, h₀, hr⟩ := h
  exact hr.invariant hstep (hinit s₀ h₀)

/-- What a step's label satisfies from an invariant state, every label of a
run satisfies. -/
theorem Run.labels {L : ε → Prop}
    (hstep : ∀ s e s', I s → S.Step s e s' → I s' ∧ L e)
    {s s' : σ} {es : List ε} (h : S.Run s es s') (hs : I s) : ∀ e ∈ es, L e := by
  induction h with
  | nil s => intro e he; cases he
  | cons hst _ ih =>
      intro e he
      rcases List.mem_cons.mp he with rfl | he
      · exact (hstep _ _ _ hs hst).2
      · exact ih (hstep _ _ _ hs hst).1 e he

/-- A restricted run is a run. -/
theorem Run.of_restrict {C : σ → ε → Prop} {s s' : σ} {es : List ε}
    (h : (S.restrict C).Run s es s') : S.Run s es s' := by
  induction h with
  | nil s => exact .nil s
  | cons hst _ ih => exact .cons hst.1 ih

/-- A weaker condition on the steps leaves a restricted run one. -/
theorem Run.restrict_mono {C D : σ → ε → Prop}
    (h : ∀ s e s', S.Step s e s' → C s e → D s e) {s s' : σ} {es : List ε}
    (hrun : (S.restrict C).Run s es s') : (S.restrict D).Run s es s' := by
  induction hrun with
  | nil s => exact .nil s
  | cons hst _ ih => exact .cons ⟨hst.1, h _ _ _ hst.1 hst.2⟩ ih

/-- A run whose labels all meet a condition is a run of the restricted system. -/
theorem Run.restrict {C : ε → Prop} {s s' : σ} {es : List ε} (h : S.Run s es s')
    (hC : ∀ e ∈ es, C e) : (S.restrict fun _ e => C e).Run s es s' := by
  induction h with
  | nil s => exact .nil s
  | cons hst _ ih =>
      have hhead := hC _ List.mem_cons_self
      exact .cons ⟨hst, hhead⟩ (ih fun e he => hC e (List.mem_cons_of_mem _ he))

/-- A run whose steps all meet a condition keeps the invariant; a step that does not
dooms the rest of the run. -/
theorem Run.restrict_or_doomed {C : σ → ε → Prop} {D : σ → Prop}
    (hkeep : ∀ s e s', I s → S.Step s e s' → C s e → I s')
    (hdoom : ∀ s e s', I s → S.Step s e s' → ¬ C s e → D s')
    (hdoomed : ∀ s e s', D s → S.Step s e s' → D s')
    {s s' : σ} {es : List ε} (h : S.Run s es s') (hs : I s) :
    ((S.restrict C).Run s es s' ∧ I s') ∨ D s' := by
  induction h with
  | nil s => exact .inl ⟨.nil s, hs⟩
  | @cons s s₁ s' e es hst hrest ih =>
      by_cases hC : C s e
      · rcases ih (hkeep _ _ _ hs hst hC) with hrun | hD
        · exact .inl ⟨.cons ⟨hst, hC⟩ hrun.1, hrun.2⟩
        · exact .inr hD
      · exact .inr (Run.invariant hdoomed hrest (hdoom _ _ _ hs hst hC))

/-! ## §3. Infinite runs. -/

/-- An infinite run, with its labels. -/
structure Behavior (S : TransitionSystem σ ε) where
  state : Nat → σ
  label : Nat → ε
  init : S.Init (state 0)
  step : ∀ n, S.Step (state n) (label n) (state (n + 1))

namespace Behavior

theorem reachable (b : Behavior S) (n : Nat) : S.Reachable (b.state n) := by
  induction n with
  | zero => exact .init b.init
  | succ n ih => exact ih.step (b.step n)

/-- What no step from an invariant state decreases, grows in time. -/
theorem monotone {f : σ → Nat} (hinv : ∀ s, S.Reachable s → I s)
    (hstep : ∀ s e s', I s → S.Step s e s' → f s ≤ f s') (b : Behavior S) {i j : Nat}
    (h : i ≤ j) : f (b.state i) ≤ f (b.state j) := by
  induction j, h using Nat.le_induction with
  | base => exact Nat.le_refl _
  | succ j _ ih => exact Nat.le_trans ih (hstep _ _ _ (hinv _ (b.reachable j)) (b.step j))

/-- What the steps with certain labels keep, stays the same while there are no others. -/
theorem constant {α : Type} {f : σ → α} {L : ε → Prop}
    (hstep : ∀ s e s', S.Step s e s' → L e → f s' = f s) (b : Behavior S) {i j : Nat}
    (h : i ≤ j) (hquiet : ∀ n, i ≤ n → n < j → L (b.label n)) :
    f (b.state j) = f (b.state i) := by
  induction j, h using Nat.le_induction with
  | base => rfl
  | succ j hij ih =>
      have hlast := hstep _ _ _ (b.step j) (hquiet j hij (Nat.lt_succ_self j))
      rw [hlast]
      exact ih fun n hn hlt => hquiet n hn (Nat.lt_succ_of_lt hlt)

end Behavior

end TransitionSystem
