/-
  TradingPlatform.Lib.Smoothing

  Exponential smoothing over a field: a value that moves the fraction `a` of the
  way to each new observation.

  - `Smoothing.closed_form` is the value in terms of the starting one and of the
    observations since.
  - `Smoothing.weight` is the weight of each observation when the starting value
    is the mean of the first `w` of them; the weights are nonnegative and add up
    to one, so that the value stays between the extremes of the observations.
-/

import Mathlib.Algebra.BigOperators.Field
import Mathlib.Algebra.BigOperators.Intervals
import Mathlib.Analysis.Convex.Combination
import Mathlib.Tactic.Ring

namespace Smoothing

open Finset

variable {K : Type _} [Field K]

/-- The start decays by `1 - a` at each update, and each observation enters with weight `a`
    and decays from then on. -/
theorem closed_form {a : K} {s x : ℕ → K} {w n : ℕ}
    (hstep : ∀ k, w ≤ k → k < n → s (k + 1) = (x k - s k) * a + s k) (hn : w ≤ n) :
    s n = (1 - a) ^ (n - w) * s w + ∑ j ∈ Ico w n, a * (1 - a) ^ (n - 1 - j) * x j := by
  induction n, hn using Nat.le_induction with
  | base => simp
  | succ n hn ih =>
      have hdecay : ∑ j ∈ Ico w n, a * (1 - a) ^ (n + 1 - 1 - j) * x j =
          (1 - a) * ∑ j ∈ Ico w n, a * (1 - a) ^ (n - 1 - j) * x j := by
        rw [mul_sum]
        refine sum_congr rfl fun j hj => ?_
        have hexponent : n + 1 - 1 - j = n - 1 - j + 1 := by
          have hlt := (mem_Ico.mp hj).2
          omega
        rw [hexponent, pow_succ]
        ring
      have hpower : n + 1 - w = n - w + 1 := by omega
      rw [hstep n hn (Nat.lt_succ_self n), ih fun k hk hlt => hstep k hk (hlt.trans n.lt_succ_self),
        sum_Ico_succ_top hn, hdecay, hpower, pow_succ, Nat.add_sub_cancel, Nat.sub_self, pow_zero]
      ring

-- ============================================================================
-- Weights
-- ============================================================================

/-- The weight of observation `j` before index `n`, from a start that is the mean of the first
    `w` observations. -/
def weight (a : K) (w n j : ℕ) : K :=
  if j < w then (1 - a) ^ (n - w) / w else a * (1 - a) ^ (n - 1 - j)

section Weights

variable {a : K} {w n : ℕ}

theorem sum_weight_mul (x : ℕ → K) (hn : w ≤ n) :
    ∑ j ∈ range n, weight a w n j * x j =
      (1 - a) ^ (n - w) * ((∑ j ∈ range w, x j) / w) +
        ∑ j ∈ Ico w n, a * (1 - a) ^ (n - 1 - j) * x j := by
  have hseed : ∑ j ∈ range w, weight a w n j * x j =
      (1 - a) ^ (n - w) * ((∑ j ∈ range w, x j) / w) := by
    rw [sum_div, mul_sum]
    refine sum_congr rfl fun j hj => ?_
    rw [weight, if_pos (mem_range.mp hj)]
    ring
  have hlater : ∑ j ∈ Ico w n, weight a w n j * x j =
      ∑ j ∈ Ico w n, a * (1 - a) ^ (n - 1 - j) * x j := by
    refine sum_congr rfl fun j hj => ?_
    rw [weight, if_neg (not_lt.mpr (mem_Ico.mp hj).1)]
  rw [← sum_range_add_sum_Ico _ hn, hseed, hlater]

/-- A constant observation smooths to itself, whatever the fraction. -/
theorem sum_weight (hw : (w : K) ≠ 0) (hn : w ≤ n) : ∑ j ∈ range n, weight a w n j = 1 := by
  have hconstant := closed_form (a := a) (s := fun _ => 1) (x := fun _ => 1) (n := n)
    (fun k _ _ => by ring) hn
  have hmean : (∑ _j ∈ range w, (1 : K)) / w = 1 := by
    rw [sum_const, card_range, nsmul_one, div_self hw]
  calc ∑ j ∈ range n, weight a w n j = ∑ j ∈ range n, weight a w n j * 1 := by
        simp only [mul_one]
    _ = (1 - a) ^ (n - w) * 1 + ∑ j ∈ Ico w n, a * (1 - a) ^ (n - 1 - j) * 1 := by
        rw [sum_weight_mul _ hn, hmean]
    _ = 1 := hconstant.symm

variable [LinearOrder K] [IsStrictOrderedRing K]

theorem weight_nonneg (ha : 0 ≤ a) (ha' : a ≤ 1) (w n j : ℕ) : 0 ≤ weight a w n j := by
  have hrest : 0 ≤ 1 - a := sub_nonneg.mpr ha'
  unfold weight
  split
  · exact div_nonneg (pow_nonneg hrest _) (Nat.cast_nonneg w)
  · exact mul_nonneg ha (pow_nonneg hrest _)

/-- A weighted value lies between the extremes of what it weighs. -/
theorem between_of_weights {s : Finset ℕ} {weights x : ℕ → K} (hne : s.Nonempty)
    (hnonneg : ∀ j ∈ s, 0 ≤ weights j) (hsum : ∑ j ∈ s, weights j = 1) :
    s.inf' hne x ≤ ∑ j ∈ s, weights j * x j ∧ ∑ j ∈ s, weights j * x j ≤ s.sup' hne x := by
  have hmass : s.centerMass weights x = ∑ j ∈ s, weights j * x j := s.centerMass_eq_of_sum_1 x hsum
  have hpos : 0 < ∑ j ∈ s, weights j := hsum ▸ one_pos
  exact hmass ▸ ⟨inf_le_centerMass hnonneg hpos, centerMass_le_sup hnonneg hpos⟩

end Weights

end Smoothing
