/-
  OneAiKey.Lib.OptimisticRead — reading a versioned state and coming back later.

  A state has a version, and whatever changes it also advances the version.  Who has
  read a version, then something of the state, and later finds the version unchanged,
  knows that what was read is still so, although the two reads were apart:

    * `FreshIf` — what such a reader may hold on to;
    * `FreshIf.read` — the two reads establish it;
    * `FreshIf.step` — every change keeps it.
-/
import Mathlib.Order.Defs.PartialOrder

namespace OptimisticRead

variable {σ δ : Type} {version : σ → Nat} {view : σ → δ} {s s' : σ} {v : Nat} {d : δ}

/-- A change of the state advances the version. -/
def Advances (version : σ → Nat) (s s' : σ) : Prop := s' = s ∨ version s < version s'

theorem Advances.le (h : Advances version s s') : version s ≤ version s' := by
  rcases h with rfl | h
  · exact Nat.le_refl _
  · exact Nat.le_of_lt h

/-- The version `v` was read, then `d`: if the version is still `v`, then `d` is still so. -/
structure FreshIf (version : σ → Nat) (view : σ → δ) (v : Nat) (d : δ) (s : σ) : Prop where
  le : v ≤ version s
  fresh : version s = v → view s = d

theorem FreshIf.read (hv : v ≤ version s) : FreshIf version view v (view s) s :=
  ⟨hv, fun _ => rfl⟩

theorem FreshIf.step (h : FreshIf version view v d s) (hs : Advances version s s') :
    FreshIf version view v d s' := by
  refine ⟨Nat.le_trans h.le hs.le, ?_⟩
  intro hv
  rcases hs with rfl | hs
  · exact h.fresh hv
  · exact absurd hs (by rw [hv]; exact Nat.not_lt_of_le h.le)

end OptimisticRead
