/-
  TradingPlatform.Lib.Loop

  Loops over a list as folds, for any state and element type.

  - `Loop.foldlM_refines` reduces a fallible loop to a pure one: a step that
    succeeds on every represented state, with the represented result of a pure
    step, makes the whole loop succeed with the pure loop's result.
  - `Loop.foldlM_follows` and `Loop.mapM_eq_ok` run a fallible loop or map whose
    iterations are all known to succeed; `Loop.mem_of_mapM_eq_ok` and
    `Loop.exists_of_mapM_eq_error` read the result of a map back.
  - `Loop.after` is the state of `for index, x in enumerate(xs)` after the first
    `k` iterations, with its invariant rule and the rule for two loops whose
    steps agree on a common prefix.
-/

import Mathlib.Data.List.Basic

namespace Loop

variable {σ τ α ε : Type _}

/-- A fallible loop refines a pure loop when each step does, on the states that
    `rep` represents and under an invariant `Inv` of the pure loop. -/
theorem foldlM_refines {f : σ → α → Except ε σ} {g : τ → α → τ} (rep : τ → σ)
    (Inv : τ → Prop) {xs : List α}
    (hstep : ∀ t, ∀ a ∈ xs, Inv t → f (rep t) a = .ok (rep (g t a)) ∧ Inv (g t a)) :
    ∀ {t : τ}, Inv t →
      xs.foldlM f (rep t) = .ok (rep (xs.foldl g t)) ∧ Inv (xs.foldl g t) := by
  induction xs with
  | nil => exact fun ht => ⟨rfl, ht⟩
  | cons a xs ih =>
      intro t ht
      obtain ⟨hfa, hInv⟩ := hstep t a (List.mem_cons_self ..) ht
      have hrest := ih (fun t b hb => hstep t b (List.mem_cons_of_mem _ hb)) hInv
      refine ⟨?_, hrest.2⟩
      rw [List.foldlM_cons, hfa]
      exact hrest.1

/-- A fallible loop whose `k`-th iteration goes from the `k`-th to the next of a known
    sequence of states ends in the last of them. -/
theorem foldlM_follows {f : σ → α → Except ε σ} (xs : List α) :
    ∀ (g : Nat → σ), (∀ k (hk : k < xs.length), f (g k) xs[k] = .ok (g (k + 1))) →
      xs.foldlM f (g 0) = .ok (g xs.length) := by
  induction xs with
  | nil => exact fun _ _ => rfl
  | cons a xs ih =>
      intro g hstep
      have hfirst : f (g 0) a = .ok (g 1) := hstep 0 (Nat.zero_lt_succ _)
      rw [List.foldlM_cons, hfirst]
      exact ih (fun k => g (k + 1)) fun k hk => hstep (k + 1) (Nat.succ_lt_succ hk)

/-- A fallible map that succeeds at every element. -/
theorem mapM_eq_ok {β : Type _} {f : α → Except ε β} {g : α → β} {xs : List α}
    (h : ∀ x ∈ xs, f x = .ok (g x)) : xs.mapM f = .ok (xs.map g) := by
  induction xs with
  | nil => rfl
  | cons a xs ih =>
      rw [List.mapM_cons, h a (List.mem_cons_self ..),
        ih fun x hx => h x (List.mem_cons_of_mem _ hx)]
      rfl

/-- What a fallible map returned, element by element. -/
theorem mem_of_mapM_eq_ok {β : Type _} {f : α → Except ε β} {xs : List α} {ys : List β}
    (h : xs.mapM f = .ok ys) : ∀ y ∈ ys, ∃ x ∈ xs, f x = .ok y := by
  induction xs generalizing ys with
  | nil =>
      cases h
      exact nofun
  | cons a xs ih =>
      rw [List.mapM_cons] at h
      cases hfirst : f a with
      | error e => rw [hfirst] at h; cases h
      | ok b =>
          cases hrest : xs.mapM f with
          | error e => rw [hfirst, hrest] at h; cases h
          | ok bs =>
              rw [hfirst, hrest] at h
              cases h
              refine List.forall_mem_cons.mpr ⟨⟨a, List.mem_cons_self .., hfirst⟩, ?_⟩
              intro y hy
              obtain ⟨x, hx, hxy⟩ := ih hrest y hy
              exact ⟨x, List.mem_cons_of_mem _ hx, hxy⟩

/-- A fallible map fails as one of its elements does. -/
theorem exists_of_mapM_eq_error {β : Type _} {f : α → Except ε β} {xs : List α} {e : ε}
    (h : xs.mapM f = .error e) : ∃ x ∈ xs, f x = .error e := by
  induction xs with
  | nil => cases h
  | cons a xs ih =>
      rw [List.mapM_cons] at h
      cases hfirst : f a with
      | error other =>
          rw [hfirst] at h
          cases h
          exact ⟨a, List.mem_cons_self .., hfirst⟩
      | ok b =>
          cases hrest : xs.mapM f with
          | error other =>
              rw [hfirst, hrest] at h
              cases h
              obtain ⟨x, hx, hxe⟩ := ih hrest
              exact ⟨x, List.mem_cons_of_mem _ hx, hxe⟩
          | ok bs => rw [hfirst, hrest] at h; cases h

-- ============================================================================
-- Enumerated loops
-- ============================================================================

/-- The state of `for index, x in enumerate(xs)` after `k` iterations. -/
def after (g : τ → α × Nat → τ) (xs : List α) (t : τ) (k : Nat) : τ :=
  (xs.zipIdx.take k).foldl g t

@[simp] theorem after_zero (g : τ → α × Nat → τ) (xs : List α) (t : τ) :
    after g xs t 0 = t := rfl

theorem after_succ (g : τ → α × Nat → τ) (xs : List α) (t : τ) {k : Nat}
    (hk : k < xs.length) :
    after g xs t (k + 1) = g (after g xs t k) (xs[k], k) := by
  have hlen : k < xs.zipIdx.length := by simpa using hk
  rw [after, List.take_succ_eq_append_getElem hlen, List.foldl_append]
  simp [after]

/-- An indexed invariant that holds after `m` iterations and that every later iteration
    advances. -/
theorem after_invariant_from {g : τ → α × Nat → τ} {xs : List α} {t : τ}
    {P : Nat → τ → Prop} {m : Nat} (hinit : P m (after g xs t m))
    (hstep : ∀ k (hk : k < xs.length), m ≤ k → P k (after g xs t k) →
      P (k + 1) (g (after g xs t k) (xs[k], k))) :
    ∀ k, m ≤ k → k ≤ xs.length → P k (after g xs t k) := by
  intro k hmk
  induction hmk with
  | refl => exact fun _ => hinit
  | @step k hmk ih =>
      intro hk
      rw [after_succ g xs t (by omega)]
      exact hstep k (by omega) hmk (ih (by omega))

/-- An indexed invariant that every iteration advances holds after each prefix. -/
theorem after_invariant {g : τ → α × Nat → τ} {xs : List α} {t : τ}
    {P : Nat → τ → Prop} (hinit : P 0 t)
    (hstep : ∀ k (hk : k < xs.length), P k (after g xs t k) →
      P (k + 1) (g (after g xs t k) (xs[k], k))) :
    ∀ k, k ≤ xs.length → P k (after g xs t k) :=
  fun k hk => after_invariant_from (m := 0) hinit (fun k hk _ => hstep k hk) k k.zero_le hk

/-- Two loops whose first `n` steps agree reach the same states on that prefix. -/
theorem after_congr {g g' : τ → α × Nat → τ} {xs ys : List α} {t : τ} {n : Nat}
    (hxs : n ≤ xs.length) (hys : n ≤ ys.length)
    (hstep : ∀ k (_ : k < n) (hx : k < xs.length) (hy : k < ys.length) s,
      g s (xs[k], k) = g' s (ys[k], k)) :
    ∀ k, k ≤ n → after g xs t k = after g' ys t k := by
  intro k
  induction k with
  | zero => exact fun _ => rfl
  | succ k ih =>
      intro hk
      rw [after_succ g xs t (by omega), after_succ g' ys t (by omega), ih (by omega)]
      exact hstep k (by omega) (by omega) (by omega) _

end Loop
