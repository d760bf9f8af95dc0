/-
  TradingPlatform.Lib.History

  Quantities observed along a list, where the observation at an index sees only
  the elements up to that index.

  - `History.values f xs` lists what `f` says of each nonempty prefix of `xs`;
    the values of a prefix of `xs` are a prefix of its values.
  - `History.windowSum` is the sum over a trailing window, with the update rule
    of a rolling total.
-/

import Mathlib.Algebra.BigOperators.Group.List.Basic
import Mathlib.Tactic.Abel

namespace History

variable {α β : Type _}

/-- `f` of every nonempty prefix, shortest first. -/
def values (f : List α → β) (xs : List α) : List β :=
  (List.range xs.length).map fun i => f (xs.take (i + 1))

@[simp] theorem values_nil (f : List α → β) : values f [] = [] := rfl

@[simp] theorem values_length (f : List α → β) (xs : List α) :
    (values f xs).length = xs.length := by
  simp [values]

theorem values_getElem? (f : List α → β) {xs : List α} {i : Nat} (hi : i < xs.length) :
    (values f xs)[i]? = some (f (xs.take (i + 1))) := by
  simp [values, hi]

theorem values_take (f : List α → β) (xs : List α) (n : Nat) :
    (values f xs).take n = values f (xs.take n) := by
  apply List.ext_getElem
  · simp
  · intro i hi _
    have hin : i < n := by
      rw [List.length_take] at hi
      omega
    simp [values, List.take_take, Nat.min_eq_left (Nat.succ_le_of_lt hin)]

/-- The values of a longer prefix extend those of a shorter one by one element. -/
theorem values_take_succ (f : List α → β) {xs : List α} {k : Nat} (hk : k < xs.length) :
    values f (xs.take (k + 1)) = values f (xs.take k) ++ [f (xs.take (k + 1))] := by
  rw [← values_take, ← values_take,
    List.take_succ_eq_append_getElem (by simpa using hk)]
  simp [values]

/-- What reads the last element alone is read off every element. -/
theorem values_getLast? (g : α → β) (xs : List α) :
    values (fun history => history.getLast?.map g) xs = xs.map fun x => some (g x) := by
  refine List.ext_getElem (by simp) fun i hi _ => ?_
  rw [values_length] at hi
  have hlast : (xs.take (i + 1)).getLast? = some xs[i] := by
    rw [List.take_succ_eq_append_getElem hi, List.getLast?_concat]
  simp [values, hlast]

-- ============================================================================
-- Trailing windows
-- ============================================================================

/-- The sum of the last `w` elements (of all of them, if there are fewer). -/
def windowSum [AddCommGroup α] (w : Nat) (xs : List α) : α := (xs.drop (xs.length - w)).sum

@[simp] theorem windowSum_nil [AddCommGroup α] (w : Nat) : windowSum w ([] : List α) = 0 := by
  simp [windowSum]

/-- While the window fills, its sum gains the new element. -/
theorem windowSum_concat_of_lt [AddCommGroup α] {w : Nat} {xs : List α} (h : xs.length < w)
    (x : α) : windowSum w (xs ++ [x]) = windowSum w xs + x := by
  have hbefore : xs.length - w = 0 := by omega
  have hafter : (xs ++ [x]).length - w = 0 := by
    rw [List.length_append, List.length_singleton]
    omega
  rw [windowSum, windowSum, hbefore, hafter]
  simp

/-- A full window gains the new element and loses its oldest one. -/
theorem windowSum_concat_of_le [AddCommGroup α] {w : Nat} (hw : 0 < w) {xs : List α}
    (h : w ≤ xs.length) (x : α) :
    windowSum w (xs ++ [x]) = windowSum w xs + x - xs[xs.length - w] := by
  have hlt : xs.length - w < xs.length := by omega
  have hafter : (xs ++ [x]).length - w = xs.length - w + 1 := by
    rw [List.length_append, List.length_singleton]
    omega
  rw [windowSum, windowSum, hafter, List.drop_append_of_le_length (by omega),
    List.drop_eq_getElem_cons hlt]
  simp only [List.sum_append, List.sum_cons, List.sum_nil]
  abel

end History
