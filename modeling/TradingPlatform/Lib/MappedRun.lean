/-
  TradingPlatform.Lib.MappedRun

  Fallible programs that commute with a map of their data.

  A program on mapped inputs returns the mapped result of the program on the
  inputs, or fails as it does.  One rule for each way to build a program: a
  sequence, a branch, a loop.
-/

import Mathlib.Data.List.Basic

namespace MappedRun

variable {ε α α' β β' σ σ' : Type _}

/-- In sequence: the rest commutes on every value that the first part returns. -/
theorem bind {f : α → α'} {g : β → β'} {next : α → Except ε β} {next' : α' → Except ε β'}
    {first : Except ε α} {first' : Except ε α'} (hfirst : first' = first.map f)
    (hnext : ∀ a, first = .ok a → next' (f a) = (next a).map g) :
    (first' >>= next') = (first >>= next).map g := by
  subst hfirst
  cases first with
  | error e => rfl
  | ok a => exact hnext a rfl

/-- A first part whose value does not change. -/
theorem bind_same {g : β → β'} {next : α → Except ε β} {next' : α → Except ε β'}
    {first first' : Except ε α} (hfirst : first' = first)
    (hnext : ∀ a, first = .ok a → next' a = (next a).map g) :
    (first' >>= next') = (first >>= next).map g := by
  subst hfirst
  cases first' with
  | error e => rfl
  | ok a => exact hnext a rfl

theorem ite {p p' : Prop} [Decidable p] [Decidable p'] {f : α → α'} {x y : Except ε α}
    {x' y' : Except ε α'} (hp : p' ↔ p) (hx : x' = x.map f) (hy : y' = y.map f) :
    (if p' then x' else y') = (if p then x else y).map f := by
  by_cases h : p
  · rw [if_pos h, if_pos (hp.mpr h), hx]
  · rw [if_neg h, if_neg (mt hp.mp h), hy]

/-- A loop whose every iteration commutes. -/
theorem foldlM {f : σ → σ'} {g : α → α'} {step : σ → α → Except ε σ}
    {step' : σ' → α' → Except ε σ'} (hstep : ∀ s a, step' (f s) (g a) = (step s a).map f)
    (xs : List α) : ∀ s, (xs.map g).foldlM step' (f s) = (xs.foldlM step s).map f := by
  induction xs with
  | nil => exact fun s => rfl
  | cons a rest ih =>
      intro s
      rw [List.map_cons, List.foldlM_cons, List.foldlM_cons]
      exact bind (hstep s a) fun next _ => ih next

end MappedRun
