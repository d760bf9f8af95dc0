/-
  TradingPlatform.Lib.Trace

  Runs of a labelled step relation, for any state and label type, each with the
  labels of its steps, the latest first.

  - `Trace.invariant` is the induction over a run; `Trace.invariant_of` proves a
    property of the run with the help of one that is already known.
  - `Trace.project` turns a run of a system into a run of one of its parts.
-/

import Mathlib.Data.List.ReduceOption

variable {σ τ ι : Type _}

/-- A run from `start`, with the labels of its steps, the latest first. -/
inductive Trace (step : σ → ι → σ → Prop) (start : σ) : List ι → σ → Prop
  | nil : Trace step start [] start
  | snoc {labels : List ι} {s s' : σ} {i : ι} :
      Trace step start labels s → step s i s' → Trace step start (i :: labels) s'

namespace Trace

section Invariant

variable {step : σ → ι → σ → Prop} {start : σ} {labels : List ι} {s : σ}

theorem invariant {P : List ι → σ → Prop} (hstart : P [] start)
    (hstep : ∀ labels s i s', step s i s' → P labels s → P (i :: labels) s')
    (hrun : Trace step start labels s) : P labels s := by
  induction hrun with
  | nil => exact hstart
  | snoc _ hlast ih => exact hstep _ _ _ _ hlast ih

/-- A property whose steps may use a known one. -/
theorem invariant_of {P Q : List ι → σ → Prop}
    (hknown : ∀ labels s, Trace step start labels s → Q labels s) (hstart : P [] start)
    (hstep : ∀ labels s i s', step s i s' → Q labels s → P labels s → P (i :: labels) s')
    (hrun : Trace step start labels s) : P labels s := by
  induction hrun with
  | nil => exact hstart
  | snoc hbefore hlast ih => exact hstep _ _ _ _ hlast (hknown _ _ hbefore) ih

end Invariant

-- ============================================================================
-- Parts of a system
-- ============================================================================

/-- Where a step labelled `some i` is a step `i` of the part, and any other leaves the part
    alone, a run of the system is a run of the part. -/
theorem project {step : σ → Option ι → σ → Prop} (partStep : τ → ι → τ → Prop) (part : σ → τ)
    (hpart : ∀ s i s', step s (some i) s' → partStep (part s) i (part s'))
    (hrest : ∀ s s', step s none s' → part s' = part s) {start : σ} {labels : List (Option ι)}
    {s : σ} (hrun : Trace step start labels s) :
    Trace partStep (part start) labels.reduceOption (part s) := by
  induction hrun with
  | nil => exact .nil
  | @snoc labels s s' i _ hlast ih =>
      cases i with
      | none =>
          rw [List.reduceOption_cons_of_none, hrest s s' hlast]
          exact ih
      | some i =>
          rw [List.reduceOption_cons_of_some]
          exact ih.snoc (hpart s i s' hlast)

end Trace
