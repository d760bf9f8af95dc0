/-
  TradingPlatform.Lib.Drawdown

  The worst change from an entry of a list to a later one, in a linearly
  ordered field, and the running peak that finds it in one pass.

  `Changes xs` is the set of all ratios `later / earlier`, an entry to itself
  included.  `Tracked xs peak worst` says that `peak` is the greatest entry and
  `worst` the least ratio; `Tracked.concat` is one step of the pass.
-/

import Mathlib.Algebra.Order.Field.Basic
import Mathlib.Order.Bounds.Basic

namespace Drawdown

section Lists

variable {α : Type _} {xs : List α} {earlier later : α}

/-- An entry and one at the same position or a later one. -/
def Follows (xs : List α) (earlier later : α) : Prop :=
  ∃ i j : Nat, i ≤ j ∧ xs[i]? = some earlier ∧ xs[j]? = some later

theorem Follows.mem (h : Follows xs earlier later) : earlier ∈ xs ∧ later ∈ xs := by
  obtain ⟨i, j, -, hi, hj⟩ := h
  exact ⟨List.mem_of_getElem? hi, List.mem_of_getElem? hj⟩

theorem follows_self {x : α} (h : x ∈ xs) : Follows xs x x := by
  obtain ⟨i, hi⟩ := List.getElem?_of_mem h
  exact ⟨i, i, le_rfl, hi, hi⟩

theorem Follows.append (h : Follows xs earlier later) (ys : List α) :
    Follows (xs ++ ys) earlier later := by
  obtain ⟨i, j, hij, hi, hj⟩ := h
  have hextends : ∀ (k : Nat) x, xs[k]? = some x → (xs ++ ys)[k]? = some x := fun k x hk => by
    rw [List.getElem?_append_left (List.getElem?_eq_some_iff.mp hk).1, hk]
  exact ⟨i, j, hij, hextends i earlier hi, hextends j later hj⟩

/-- A new last entry follows itself and every entry before it. -/
theorem follows_concat {x : α} :
    Follows (xs ++ [x]) earlier later ↔
      Follows xs earlier later ∨ (later = x ∧ (earlier ∈ xs ∨ earlier = x)) := by
  constructor
  · intro h
    obtain ⟨i, j, hij, hi, hj⟩ := h
    by_cases hlast : j < xs.length
    · rw [List.getElem?_append_left (by omega)] at hi
      rw [List.getElem?_append_left hlast] at hj
      exact Or.inl ⟨i, j, hij, hi, hj⟩
    · rw [List.getElem?_append_right (by omega)] at hj
      have hlater : later = x := List.mem_singleton.mp (List.mem_of_getElem? hj)
      have hearlier := List.mem_append.mp (List.mem_of_getElem? hi)
      exact Or.inr ⟨hlater, hearlier.imp_right List.mem_singleton.mp⟩
  · rintro (hold | ⟨rfl, hmem⟩)
    · exact hold.append [x]
    · obtain ⟨i, hi⟩ := List.getElem?_of_mem
        (List.mem_append.mpr (hmem.imp_right List.mem_singleton.mpr))
      have hbound := (List.getElem?_eq_some_iff.mp hi).1
      rw [List.length_append, List.length_singleton] at hbound
      exact ⟨i, xs.length, by omega, hi, by simp⟩

theorem follows_map {β : Type _} (f : α → β) {earlier later : β} :
    Follows (xs.map f) earlier later ↔
      ∃ x y, Follows xs x y ∧ f x = earlier ∧ f y = later := by
  constructor
  · rintro ⟨i, j, hij, hi, hj⟩
    rw [List.getElem?_map] at hi hj
    obtain ⟨x, hx, rfl⟩ := Option.map_eq_some_iff.mp hi
    obtain ⟨y, hy, rfl⟩ := Option.map_eq_some_iff.mp hj
    exact ⟨x, y, ⟨i, j, hij, hx, hy⟩, rfl, rfl⟩
  · rintro ⟨x, y, ⟨i, j, hij, hx, hy⟩, rfl, rfl⟩
    exact ⟨i, j, hij, by rw [List.getElem?_map, hx, Option.map_some],
      by rw [List.getElem?_map, hy, Option.map_some]⟩

end Lists

variable {K : Type _} [Field K] [LinearOrder K]

/-- The ratios of later values to earlier ones. -/
def Changes (xs : List K) : Set K :=
  { ratio | ∃ earlier later, Follows xs earlier later ∧ ratio = later / earlier }

/-- What the pass knows of the entries so far. -/
structure Tracked (xs : List K) (peak worst : K) : Prop where
  positive : ∀ x ∈ xs, 0 < x
  peak : IsGreatest { x | x ∈ xs } peak
  worst : IsLeast (Changes xs) worst

theorem tracked_singleton {x : K} (hx : 0 < x) : Tracked [x] x 1 where
  positive := by simpa using hx
  peak := ⟨List.mem_singleton_self x, fun y hy => (List.mem_singleton.mp hy).le⟩
  worst := by
    have hself : x / x = 1 := div_self hx.ne'
    refine ⟨⟨x, x, follows_self (List.mem_singleton_self x), hself.symm⟩, ?_⟩
    rintro ratio ⟨earlier, later, hfollows, rfl⟩
    obtain ⟨hearlier, hlater⟩ := hfollows.mem
    rw [List.mem_singleton.mp hearlier, List.mem_singleton.mp hlater, hself]

variable {xs : List K} {peak worst : K}

theorem Tracked.worst_le_one (h : Tracked xs peak worst) : worst ≤ 1 :=
  h.worst.2 ⟨peak, peak, follows_self h.peak.1, (div_self (h.positive _ h.peak.1).ne').symm⟩

/-- More entries can only make it worse. -/
theorem Tracked.append_le (h : Tracked xs peak worst) {ys : List K} {peak' worst' : K}
    (h' : Tracked (xs ++ ys) peak' worst') : worst' ≤ worst := by
  obtain ⟨earlier, later, hfollows, hworst⟩ := h.worst.1
  exact h'.worst.2 ⟨earlier, later, hfollows.append ys, hworst⟩

/-- The unit of the entries is immaterial. -/
theorem Tracked.scale (h : Tracked xs peak worst) {c : K} (hc : 0 < c) {peak' worst' : K}
    (h' : Tracked (xs.map (c * ·)) peak' worst') : worst' = worst := by
  have hscaled : Changes (xs.map (c * ·)) = Changes xs := by
    ext ratio
    constructor
    · rintro ⟨earlier, later, hfollows, rfl⟩
      obtain ⟨x, y, hplain, rfl, rfl⟩ := (follows_map _).mp hfollows
      exact ⟨x, y, hplain, mul_div_mul_left y x hc.ne'⟩
    · rintro ⟨earlier, later, hfollows, rfl⟩
      exact ⟨c * earlier, c * later, (follows_map _).mpr ⟨earlier, later, hfollows, rfl, rfl⟩,
        (mul_div_mul_left later earlier hc.ne').symm⟩
  have hleast := h'.worst
  rw [hscaled] at hleast
  exact hleast.unique h.worst

variable [IsStrictOrderedRing K]

/-- A new entry is compared with the peak: no earlier entry is farther above it. -/
theorem Tracked.concat (h : Tracked xs peak worst) {x : K} (hx : 0 < x) :
    Tracked (xs ++ [x]) (max peak x) (min worst (x / max peak x)) := by
  have hpeak : 0 < peak := h.positive peak h.peak.1
  have hmax : 0 < max peak x := lt_max_of_lt_left hpeak
  refine ⟨?_, ⟨?_, ?_⟩, ⟨?_, ?_⟩⟩
  · intro y hy
    rcases List.mem_append.mp hy with hold | hnew
    · exact h.positive y hold
    · exact (List.mem_singleton.mp hnew) ▸ hx
  · rcases max_choice peak x with hmax | hmax <;> rw [hmax]
    · exact List.mem_append_left _ h.peak.1
    · exact List.mem_append_right _ (List.mem_singleton_self x)
  · intro y hy
    rcases List.mem_append.mp hy with hold | hnew
    · exact le_max_of_le_left (h.peak.2 hold)
    · exact le_max_of_le_right (List.mem_singleton.mp hnew).le
  · rcases min_choice worst (x / max peak x) with hmin | hmin <;> rw [hmin]
    · obtain ⟨earlier, later, hfollows, hratio⟩ := h.worst.1
      exact ⟨earlier, later, hfollows.append [x], hratio⟩
    · refine ⟨max peak x, x, follows_concat.mpr (Or.inr ⟨rfl, ?_⟩), rfl⟩
      exact (max_choice peak x).imp (fun hpeak => by rw [hpeak]; exact h.peak.1) id
  · rintro ratio ⟨earlier, later, hfollows, rfl⟩
    rcases follows_concat.mp hfollows with hold | ⟨rfl, hmem⟩
    · exact min_le_of_left_le (h.worst.2 ⟨earlier, later, hold, rfl⟩)
    · refine min_le_of_right_le (div_le_div_of_nonneg_left hx.le ?_ ?_)
      · exact hmem.elim (h.positive earlier) fun hself => hself ▸ hx
      · exact hmem.elim (fun hold => le_max_of_le_left (h.peak.2 hold))
          fun hself => le_max_of_le_right hself.le

theorem Tracked.worst_pos (h : Tracked xs peak worst) : 0 < worst := by
  obtain ⟨earlier, later, hfollows, rfl⟩ := h.worst.1
  exact div_pos (h.positive _ hfollows.mem.2) (h.positive _ hfollows.mem.1)

/-- The worst change is none exactly if no entry is below an earlier one. -/
theorem Tracked.worst_eq_one (h : Tracked xs peak worst) :
    worst = 1 ↔ ∀ earlier later, Follows xs earlier later → earlier ≤ later := by
  constructor
  · intro hworst earlier later hfollows
    have hratio : worst ≤ later / earlier := h.worst.2 ⟨earlier, later, hfollows, rfl⟩
    rwa [hworst, one_le_div (h.positive _ hfollows.mem.1)] at hratio
  · intro hsorted
    obtain ⟨earlier, later, hfollows, hworst⟩ := h.worst.1
    refine le_antisymm h.worst_le_one ?_
    rw [hworst, one_le_div (h.positive _ hfollows.mem.1)]
    exact hsorted earlier later hfollows

end Drawdown
