/-
  TradingPlatform.Lib.Crossing

  A quantity that moves above and below another, seen at the times 0, 1, 2, …

  `side t` says where it is at time `t`; a *crossing* is recorded when it gets
  strictly to a side on which it was not one step before.  `crossings side n`
  lists the sides reached this way up to time `n`.

  The list alternates exactly if there is no *repeated touch*: the two meet for
  some time and part to the side the quantity came from, after it had been
  elsewhere before (`crossings_alternate`).
-/

import Mathlib.Data.List.Chain

namespace Crossing

/-- The side reached by one step, if it is a new one. -/
def crossing (previous current : Ordering) : Option Ordering :=
  if current ≠ .eq ∧ previous ≠ current then some current else none

theorem crossing_eq_some {previous current reached : Ordering} :
    crossing previous current = some reached ↔
      current = reached ∧ reached ≠ .eq ∧ previous ≠ reached := by
  unfold crossing
  constructor
  · intro h
    split at h
    · cases h
      exact ⟨rfl, by assumption⟩
    · cases h
  · rintro ⟨rfl, hne, hnew⟩
    exact if_pos ⟨hne, hnew⟩

theorem crossing_eq_none {previous current : Ordering} :
    crossing previous current = none ↔ current = .eq ∨ previous = current := by
  unfold crossing
  constructor
  · intro h
    split at h
    · cases h
    · rename_i hnot
      exact or_iff_not_imp_left.mpr fun hne => not_not.mp fun hnew => hnot ⟨hne, hnew⟩
  · rintro (hlevel | hsame)
    · exact if_neg fun h => h.1 hlevel
    · exact if_neg fun h => h.2 hsame

/-- The crossings up to time `n`. -/
def crossings (side : Nat → Ordering) : Nat → List Ordering
  | 0 => []
  | n + 1 => crossings side n ++ (crossing (side n) (side (n + 1))).toList

/-- The quantity has been level since it left the side `last` after time `i`. -/
structure Settled (side : Nat → Ordering) (n : Nat) (last : Ordering) (i : Nat) : Prop where
  le : i ≤ n
  side_eq : side i = last
  ne : last ≠ .eq
  level : ∀ m, i < m → m ≤ n → side m = .eq

/-- It touches the level from the side on which it has not always been, and parts to it again
    at time `j`. -/
def TouchAt (side : Nat → Ordering) (j : Nat) : Prop :=
  ∃ k i, k < i ∧ i + 1 < j ∧ side i ≠ .eq ∧ side j = side i ∧ side k ≠ side i ∧
    ∀ m, i < m → m < j → side m = .eq

section Crossings

variable {side : Nat → Ordering} {n : Nat}

/-- Without a crossing it has been on one side only, from the start. -/
theorem crossings_eq_nil :
    crossings side n = [] ↔ ∀ i ≤ n, side i ≠ .eq → ∀ k ≤ i, side k = side i := by
  induction n with
  | zero =>
      refine ⟨fun _ i hi _ k hk => ?_, fun _ => rfl⟩
      obtain rfl : k = i := by omega
      rfl
  | succ n ih =>
      rw [crossings, List.append_eq_nil_iff, Option.toList_eq_nil_iff, crossing_eq_none, ih]
      constructor
      · rintro ⟨hbefore, hlast⟩ i hi hne k hk
        rcases Nat.lt_or_ge n i with hnew | hold
        · obtain rfl : i = n + 1 := by omega
          have hsame : side n = side (n + 1) := hlast.resolve_left hne
          rcases Nat.lt_or_ge n k with hself | hbelow
          · rw [show k = n + 1 by omega]
          · rw [← hsame] at hne ⊢
            exact hbefore n le_rfl hne k hbelow
        · exact hbefore i hold hne k hk
      · intro h
        refine ⟨fun i hi => h i (by omega), ?_⟩
        by_cases hlevel : side (n + 1) = .eq
        · exact Or.inl hlevel
        · exact Or.inr (h (n + 1) le_rfl hlevel n (by omega))

/-- The side it was last on, once it has left the level. -/
theorem exists_settled {i : Nat} (hi : i ≤ n) (hne : side i ≠ .eq) :
    ∃ last j, Settled side n last j := by
  induction n with
  | zero =>
      obtain rfl : i = 0 := by omega
      exact ⟨_, 0, le_rfl, rfl, hne, fun m hlow hhigh => by omega⟩
  | succ n ih =>
      by_cases hlevel : side (n + 1) = .eq
      · have hold : i ≤ n := by
          rcases Nat.lt_or_ge n i with hnew | hold
          · rw [show i = n + 1 by omega] at hne
            exact absurd hlevel hne
          · exact hold
        obtain ⟨last, j, hsettled⟩ := ih hold
        refine ⟨last, j, by have := hsettled.le; omega, hsettled.side_eq, hsettled.ne,
          fun m hlow hhigh => ?_⟩
        rcases Nat.lt_or_ge n m with hnew | hbelow
        · rw [show m = n + 1 by omega, hlevel]
        · exact hsettled.level m hlow hbelow
      · exact ⟨_, n + 1, le_rfl, rfl, hlevel, fun m hlow hhigh => by omega⟩

/-- One step earlier, if it is level now or was on the same side. -/
theorem Settled.before {last : Ordering} {i : Nat} (h : Settled side (n + 1) last i)
    (hsame : side (n + 1) = .eq ∨ side n = side (n + 1)) :
    ∃ j, Settled side n last j := by
  rcases Nat.lt_or_ge n i with hnew | hold
  · obtain rfl : i = n + 1 := by have := h.le; omega
    rcases hsame with hlevel | hsame
    · exact absurd (h.side_eq.symm.trans hlevel) h.ne
    · exact ⟨n, le_rfl, hsame.trans h.side_eq, h.ne, fun m hlow hhigh => by omega⟩
  · exact ⟨i, hold, h.side_eq, h.ne, fun m hlow hhigh => h.level m hlow (by omega)⟩

/-- The last crossing is to the side it was last on. -/
theorem getLast?_crossings {reached last : Ordering} {i : Nat}
    (hreached : (crossings side n).getLast? = some reached) (h : Settled side n last i) :
    reached = last := by
  induction n generalizing i with
  | zero => cases hreached
  | succ n ih =>
      rw [crossings] at hreached
      cases hcrossing : crossing (side n) (side (n + 1)) with
      | some side' =>
          rw [hcrossing, Option.toList_some, List.getLast?_concat] at hreached
          obtain rfl := Option.some.inj hreached
          obtain ⟨hside, hne, -⟩ := crossing_eq_some.mp hcrossing
          rcases h.le.eq_or_lt with rfl | hlt
          · exact hside.symm.trans h.side_eq
          · have hlevel := h.level (n + 1) hlt le_rfl
            exact absurd (hside.symm.trans hlevel) hne
      | none =>
          rw [hcrossing, Option.toList_none, List.append_nil] at hreached
          obtain ⟨j, hbefore⟩ := h.before (crossing_eq_none.mp hcrossing)
          exact ih hreached hbefore

/-- A crossing repeats the one before it exactly after a touch. -/
theorem repeats_iff_touchAt :
    (∃ reached, crossing (side n) (side (n + 1)) = some reached ∧
      (crossings side n).getLast? = some reached) ↔ TouchAt side (n + 1) := by
  constructor
  · rintro ⟨reached, hcrossing, hlast⟩
    obtain ⟨hside, hne, hnew⟩ := crossing_eq_some.mp hcrossing
    have hsome : crossings side n ≠ [] := by
      intro hnil
      rw [hnil] at hlast
      cases hlast
    rw [Ne, crossings_eq_nil] at hsome
    push Not at hsome
    obtain ⟨i₀, hi₀, hne₀, k₀, hk₀, hother⟩ := hsome
    obtain ⟨last, i, hsettled⟩ := exists_settled hi₀ hne₀
    obtain rfl := getLast?_crossings hlast hsettled
    have hlt : i < n := by
      rcases hsettled.le.eq_or_lt with rfl | hlt
      · exact absurd hsettled.side_eq hnew
      · exact hlt
    have hi₀i : i₀ ≤ i := by
      by_contra hafter
      exact hne₀ (hsettled.level i₀ (by omega) hi₀)
    obtain ⟨k, hki, hk⟩ : ∃ k, k < i ∧ side k ≠ side i := by
      by_cases hsame : side i₀ = side i
      · have hne' : k₀ ≠ i₀ := fun heq => hother (heq ▸ rfl)
        exact ⟨k₀, by omega, hsame ▸ hother⟩
      · have hne' : i₀ ≠ i := fun heq => hsame (heq ▸ rfl)
        exact ⟨i₀, by omega, hsame⟩
    exact ⟨k, i, hki, by omega, hsettled.side_eq ▸ hne, hside.trans hsettled.side_eq.symm, hk,
      fun m hlow hhigh => hsettled.level m hlow (by omega)⟩
  · rintro ⟨k, i, hki, hij, hne, hside, hk, hlevel⟩
    have hsettled : Settled side n (side i) i :=
      ⟨by omega, rfl, hne, fun m hlow hhigh => hlevel m hlow (by omega)⟩
    have hcrossing : crossing (side n) (side (n + 1)) = some (side i) := by
      refine crossing_eq_some.mpr ⟨hside, hne, ?_⟩
      rw [hlevel n (by omega) (by omega)]
      exact hne.symm
    refine ⟨side i, hcrossing, ?_⟩
    cases hlast : (crossings side n).getLast? with
    | none =>
        rw [List.getLast?_eq_none_iff, crossings_eq_nil] at hlast
        exact absurd (hlast i (by omega) hne k hki.le) hk
    | some reached => rw [getLast?_crossings hlast hsettled]

/-- The crossings alternate exactly if there is no repeated touch. -/
theorem crossings_alternate (side : Nat → Ordering) (n : Nat) :
    (crossings side n).IsChain (· ≠ ·) ↔ ∀ j ≤ n, ¬ TouchAt side j := by
  induction n with
  | zero =>
      refine ⟨fun _ j hj htouch => ?_, fun _ => List.isChain_nil⟩
      obtain ⟨k, i, hki, hij, -⟩ := htouch
      omega
  | succ n ih =>
      have hsingle : ((crossing (side n) (side (n + 1))).toList).IsChain (· ≠ ·) := by
        cases crossing (side n) (side (n + 1)) with
        | none => exact List.isChain_nil
        | some reached => exact List.isChain_singleton reached
      have hstep : (∀ x ∈ (crossings side n).getLast?,
          ∀ y ∈ (crossing (side n) (side (n + 1))).toList.head?, x ≠ y) ↔
          ¬ TouchAt side (n + 1) := by
        rw [← repeats_iff_touchAt]
        cases crossing (side n) (side (n + 1)) with
        | none => simp
        | some reached =>
            simp only [Option.mem_def, Option.toList_some, List.head?_cons, Option.some_inj]
            constructor
            · rintro hdistinct ⟨_, rfl, hlast⟩
              exact hdistinct _ hlast _ rfl rfl
            · rintro hrepeats x hx y rfl rfl
              exact hrepeats ⟨_, rfl, hx⟩
      rw [crossings, List.isChain_append, ih, hstep]
      constructor
      · rintro ⟨hbefore, -, hlast⟩ j hj
        rcases Nat.lt_or_ge n j with hnew | hold
        · rwa [show j = n + 1 by omega]
        · exact hbefore j hold
      · exact fun h => ⟨fun j hj => h j (by omega), hsingle, h (n + 1) le_rfl⟩

end Crossings

end Crossing
