/-
  TradingPlatform.Backtesting.MaximumDrawdown

  `calculate_maximum_drawdown` is the worst change from a point of the equity
  curve to a later one.

  The loop keeps the running peak and the worst drawdown; in terms of
  `Lib.Drawdown`, it tracks the equities seen so far.
-/

import TradingPlatform.Backtesting.Metrics
import TradingPlatform.Lib.Drawdown

namespace TradingPlatform
namespace Backtesting

open Python Drawdown

/-- A ratio of equities as a percentage change. -/
def percentChange (ratio : Decimal) : Decimal := (ratio - 1) * 100

theorem percentChange_le {a b : Decimal} : percentChange a ≤ percentChange b ↔ a ≤ b := by
  unfold percentChange
  constructor <;> intro h <;> linarith

theorem percentChange_nonpos {ratio : Decimal} : percentChange ratio ≤ 0 ↔ ratio ≤ 1 := by
  unfold percentChange
  constructor <;> intro h <;> linarith

theorem percentChange_eq_zero {ratio : Decimal} : percentChange ratio = 0 ↔ ratio = 1 := by
  unfold percentChange
  constructor <;> intro h <;> linarith

theorem percentChange_min (a b : Decimal) :
    percentChange (min a b) = min (percentChange a) (percentChange b) := by
  have hmono : Monotone percentChange := fun a b h => percentChange_le.mpr h
  exact hmono.map_min

/-- The equities of a curve are all positive. -/
def PositiveCurve (curve : List EquityPoint) : Prop := ∀ point ∈ curve, 0 < point.equity

theorem PositiveCurve.append {curve more : List EquityPoint} (h : PositiveCurve curve)
    (hmore : PositiveCurve more) : PositiveCurve (curve ++ more) := fun point hpoint =>
  (List.mem_append.mp hpoint).elim (h point) (hmore point)

/-- One iteration tracks one more equity. -/
theorem maximumDrawdownStep_tracked {equities : List Decimal} {peak worst : Decimal}
    (h : Tracked equities peak worst) {point : EquityPoint} (hpoint : 0 < point.equity) :
    ∃ peak' worst', maximumDrawdownStep (peak, percentChange worst) point =
        .ok (peak', percentChange worst') ∧
      Tracked (equities ++ [point.equity]) peak' worst' := by
  have hmax : max peak point.equity ≠ 0 := (lt_max_of_lt_right hpoint).ne'
  refine ⟨_, _, ?_, h.concat hpoint⟩
  rw [maximumDrawdownStep, divide_of_ne_zero hmax, ok_bind, percentChange_min]
  rfl

theorem foldlM_maximumDrawdownStep_tracked {points : List EquityPoint}
    (hpoints : PositiveCurve points) :
    ∀ {equities : List Decimal} {peak worst : Decimal}, Tracked equities peak worst →
      ∃ peak' worst', points.foldlM maximumDrawdownStep (peak, percentChange worst) =
          .ok (peak', percentChange worst') ∧
        Tracked (equities ++ points.map (·.equity)) peak' worst' := by
  induction points with
  | nil =>
      intro equities peak worst h
      exact ⟨peak, worst, rfl, by rwa [List.map_nil, List.append_nil]⟩
  | cons point rest ih =>
      intro equities peak worst h
      obtain ⟨peak₁, worst₁, hstep, h₁⟩ :=
        maximumDrawdownStep_tracked h (hpoints point (List.mem_cons_self ..))
      obtain ⟨peak₂, worst₂, hrest, h₂⟩ :=
        ih (fun q hq => hpoints q (List.mem_cons_of_mem _ hq)) h₁
      refine ⟨peak₂, worst₂, ?_, ?_⟩
      · rw [List.foldlM_cons, hstep]
        exact hrest
      · rwa [List.append_assoc] at h₂

/-- The result is the worst tracked ratio; the first point is compared with itself. -/
theorem calculateMaximumDrawdown_tracked {curve : List EquityPoint} (hne : curve ≠ [])
    (hcurve : PositiveCurve curve) :
    ∃ peak worst, calculateMaximumDrawdown curve = .ok (percentChange worst) ∧
      Tracked (curve.map (·.equity)) peak worst := by
  obtain ⟨first, rest, rfl⟩ := List.exists_cons_of_ne_nil hne
  have hfirst := hcurve first (List.mem_cons_self ..)
  obtain ⟨peak, worst, hloop, htracked⟩ := foldlM_maximumDrawdownStep_tracked
    (fun q hq => hcurve q (List.mem_cons_of_mem _ hq)) (tracked_singleton hfirst)
  have hstep : maximumDrawdownStep (first.equity, 0) first =
      .ok (first.equity, percentChange 1) := by
    rw [maximumDrawdownStep, max_self, divide_of_ne_zero hfirst.ne', ok_bind,
      div_self hfirst.ne']
    norm_num [percentChange]
    rfl
  refine ⟨peak, worst, ?_, htracked⟩
  rw [calculateMaximumDrawdown, getItem_of_lt (Nat.zero_lt_succ _), ok_bind,
    List.getElem_cons_zero, List.foldlM_cons, hstep, ok_bind, hloop]
  rfl

/-- The changes of a curve, by the positions of its points. -/
theorem changes_iff (curve : List EquityPoint) (change : Decimal) :
    (∃ i j, ∃ (hi : i ≤ j) (hj : j < curve.length),
      change = (curve[j].equity / curve[i].equity - 1) * 100) ↔
      ∃ ratio ∈ Changes (curve.map (·.equity)), change = percentChange ratio := by
  constructor
  · rintro ⟨i, j, hij, hj, rfl⟩
    refine ⟨_, ⟨_, _, (follows_map _).mpr ⟨curve[i], curve[j], ⟨i, j, hij, ?_, ?_⟩, rfl, rfl⟩,
      rfl⟩, rfl⟩
    · exact List.getElem?_eq_getElem (by omega)
    · exact List.getElem?_eq_getElem hj
  · rintro ⟨ratio, ⟨earlier, later, hfollows, rfl⟩, rfl⟩
    obtain ⟨x, y, ⟨i, j, hij, hx, hy⟩, rfl, rfl⟩ := (follows_map _).mp hfollows
    obtain ⟨hi, rfl⟩ := List.getElem?_eq_some_iff.mp hx
    obtain ⟨hj, rfl⟩ := List.getElem?_eq_some_iff.mp hy
    exact ⟨i, j, hij, hj, rfl⟩

theorem pairwise_iff_follows (curve : List EquityPoint) :
    (curve.Pairwise fun earlier later => earlier.equity ≤ later.equity) ↔
      ∀ earlier later, Follows (curve.map (·.equity)) earlier later → earlier ≤ later := by
  rw [List.pairwise_iff_getElem]
  constructor
  · intro hsorted earlier later hfollows
    obtain ⟨x, y, ⟨i, j, hij, hx, hy⟩, rfl, rfl⟩ := (follows_map _).mp hfollows
    obtain ⟨hi, rfl⟩ := List.getElem?_eq_some_iff.mp hx
    obtain ⟨hj, rfl⟩ := List.getElem?_eq_some_iff.mp hy
    rcases hij.eq_or_lt with rfl | hlt
    · exact le_rfl
    · exact hsorted i j hi hj hlt
  · intro hsorted i j hi hj hij
    exact hsorted _ _ ((follows_map _).mpr ⟨curve[i], curve[j], ⟨i, j, hij.le,
      List.getElem?_eq_getElem hi, List.getElem?_eq_getElem hj⟩, rfl, rfl⟩)

/-- The maximum drawdown is the least of zero and the percentage changes from a point to a later
    one: between -100 and zero, zero exactly on a nondecreasing curve, never raised by further
    points, and the same in every currency unit. -/
theorem calculateMaximumDrawdown_exact (curve : List EquityPoint) (hne : curve ≠ [])
    (hcurve : ∀ point ∈ curve, 0 < point.equity) :
    ∃ drawdown, calculateMaximumDrawdown curve = .ok drawdown ∧
      IsLeast ({0} ∪ { change | ∃ i j, ∃ (hi : i ≤ j) (hj : j < curve.length),
        change = (curve[j].equity / curve[i].equity - 1) * 100 }) drawdown ∧
      -100 < drawdown ∧ drawdown ≤ 0 ∧
      (drawdown = 0 ↔ curve.Pairwise fun earlier later => earlier.equity ≤ later.equity) ∧
      (∀ more, (∀ point ∈ more, 0 < point.equity) →
        ∃ longer, calculateMaximumDrawdown (curve ++ more) = .ok longer ∧ longer ≤ drawdown) ∧
      ∀ c > 0, calculateMaximumDrawdown
        (curve.map fun point => { point with equity := c * point.equity }) = .ok drawdown := by
  obtain ⟨peak, worst, hdrawdown, htracked⟩ := calculateMaximumDrawdown_tracked hne hcurve
  have hchange := changes_iff curve
  refine ⟨_, hdrawdown, ⟨?_, ?_⟩, ?_, ?_, ?_, fun more hmore => ?_, fun c hc => ?_⟩
  · exact Or.inr ((hchange _).mpr ⟨worst, htracked.worst.1, rfl⟩)
  · rintro change (rfl | hmem)
    · exact percentChange_nonpos.mpr htracked.worst_le_one
    · obtain ⟨ratio, hratio, rfl⟩ := (hchange _).mp hmem
      exact percentChange_le.mpr (htracked.worst.2 hratio)
  · have hpos := htracked.worst_pos
    rw [percentChange]
    linarith
  · exact percentChange_nonpos.mpr htracked.worst_le_one
  · rw [percentChange_eq_zero, htracked.worst_eq_one]
    exact (pairwise_iff_follows curve).symm
  · obtain ⟨peak', worst', hlonger, htracked'⟩ := calculateMaximumDrawdown_tracked
      (List.append_ne_nil_of_left_ne_nil hne more) (PositiveCurve.append hcurve hmore)
    rw [List.map_append] at htracked'
    exact ⟨_, hlonger, percentChange_le.mpr (htracked.append_le htracked')⟩
  · have hscaled : PositiveCurve
        (curve.map fun point => { point with equity := c * point.equity }) := by
      intro point hpoint
      obtain ⟨before, hbefore, rfl⟩ := List.mem_map.mp hpoint
      exact mul_pos hc (hcurve before hbefore)
    obtain ⟨peak', worst', hsame, htracked'⟩ := calculateMaximumDrawdown_tracked
      (List.map_eq_nil_iff.not.mpr hne) hscaled
    have hequities : (curve.map fun point => { point with equity := c * point.equity }).map
        (·.equity) = (curve.map (·.equity)).map (c * ·) := by
      rw [List.map_map, List.map_map]
      rfl
    rw [hequities] at htracked'
    rw [hsame, htracked.scale hc htracked']

/-- 100, 120, 90: the worst change is from the second point to the third. -/
theorem calculateMaximumDrawdown_exact_quarter :
    calculateMaximumDrawdown [⟨0, 100⟩, ⟨1, 120⟩, ⟨2, 90⟩] = .ok (-25) ∧
      ∃ drawdown, calculateMaximumDrawdown [⟨0, 100⟩, ⟨1, 120⟩, ⟨2, 90⟩] = .ok drawdown ∧
        -100 < drawdown ∧ drawdown ≤ 0 := by
  obtain ⟨drawdown, hdrawdown, -, hlower, hupper, -⟩ := calculateMaximumDrawdown_exact
    [⟨0, 100⟩, ⟨1, 120⟩, ⟨2, 90⟩] (by simp) (by
      intro point hpoint
      simp only [List.mem_cons, List.not_mem_nil, or_false] at hpoint
      rcases hpoint with rfl | rfl | rfl <;> norm_num)
  exact ⟨by decide +kernel, drawdown, hdrawdown, hlower, hupper⟩

end Backtesting
end TradingPlatform
