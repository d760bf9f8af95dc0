/-
  TradingPlatform.Lib.Overlay

  Partial maps that are written one after another, for any key and value type.

  A write is a partial map of its own: `layer` lets it override a base where it is
  defined, and `latest` does so for a list of writes, the earliest first.

  - `latest_apply`: the last write of a key decides, and a key that nothing writes
    keeps its base value.
  - `latest_perm`: writes of which no two share a key may come in any order.
-/

import Mathlib.Data.List.Perm.Basic

namespace Overlay

variable {κ ν : Type _}

/-- The base, overridden where the write is defined. -/
def layer (write base : κ → Option ν) : κ → Option ν := fun k => (write k).or (base k)

/-- The base after some writes, the earliest first. -/
def latest (writes : List (κ → Option ν)) (base : κ → Option ν) : κ → Option ν :=
  writes.foldl (fun base write => layer write base) base

/-- No key is written by both. -/
def Disjoint (first second : κ → Option ν) : Prop := ∀ k, first k = none ∨ second k = none

@[simp] theorem latest_nil (base : κ → Option ν) : latest [] base = base := rfl

theorem latest_cons (write : κ → Option ν) (writes : List (κ → Option ν)) (base : κ → Option ν) :
    latest (write :: writes) base = latest writes (layer write base) := rfl

/-- The last write of a key decides; absent any, the base does. -/
theorem latest_apply (writes : List (κ → Option ν)) (base : κ → Option ν) (k : κ) :
    latest writes base k = (writes.reverse.findSome? (· k)).or (base k) := by
  induction writes generalizing base with
  | nil => rfl
  | cons write writes ih =>
      rw [latest_cons, ih, List.reverse_cons, List.findSome?_append]
      cases hlater : writes.reverse.findSome? (· k) with
      | some v => rfl
      | none =>
          simp only [Option.none_or, List.findSome?_cons, List.findSome?_nil, layer]
          cases write k <;> rfl

theorem layer_comm {first second : κ → Option ν} (h : Disjoint first second)
    (base : κ → Option ν) : layer second (layer first base) = layer first (layer second base) := by
  funext k
  rcases h k with hnone | hnone
  · simp only [layer, hnone, Option.none_or]
  · simp only [layer, hnone, Option.none_or]

theorem Disjoint.symm {first second : κ → Option ν} (h : Disjoint first second) :
    Disjoint second first := fun k => (h k).symm

/-- Writes of which no two share a key may come in any order. -/
theorem latest_perm {writes writes' : List (κ → Option ν)} (hperm : writes.Perm writes')
    (hdisjoint : writes.Pairwise Disjoint) (base : κ → Option ν) :
    latest writes base = latest writes' base := by
  induction hperm generalizing base with
  | nil => rfl
  | cons write _ ih => exact ih (List.pairwise_cons.mp hdisjoint).2 (layer write base)
  | swap first second writes =>
      have hpair : Disjoint second first :=
        (List.pairwise_cons.mp hdisjoint).1 first (List.mem_cons_self ..)
      simp only [latest_cons, layer_comm hpair]
  | trans hfirst _ ihFirst ihSecond =>
      have hmiddle := hfirst.pairwise hdisjoint fun h => Disjoint.symm h
      exact (ihFirst hdisjoint base).trans (ihSecond hmiddle base)

end Overlay
