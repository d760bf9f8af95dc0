/-
  TradingPlatform.Backtesting.ExponentialAverage

  The closed form of `exponential_moving_averages`: from index `window - 1` on,
  the average is a weighted sum of all the closes so far, and it stays between
  the least and the greatest of them.
-/

import TradingPlatform.Backtesting.StrategySemantics
import TradingPlatform.Lib.Smoothing

namespace TradingPlatform
namespace Backtesting

open Python Schemas Finset

/-- The close of the bar at an index; zero past the end. -/
def closeAt (bars : List MarketBar) (index : Nat) : Decimal :=
  (bars[index]?.map (·.closePrice)).getD 0

theorem closeAt_of_lt {bars : List MarketBar} {index : Nat} (h : index < bars.length) :
    closeAt bars index = bars[index].closePrice := by
  rw [closeAt, List.getElem?_eq_getElem h]
  rfl

/-- The sum of the first closes, as a sum over their indices. -/
theorem sum_take_closes {bars : List MarketBar} {n : Nat} (h : n ≤ bars.length) :
    ((bars.take n).map (·.closePrice)).sum = ∑ j ∈ range n, closeAt bars j := by
  induction n with
  | zero => simp
  | succ n ih =>
      rw [List.take_succ_eq_append_getElem h, List.map_append, List.sum_append, ih (by omega),
        sum_range_succ, closeAt_of_lt h, List.map_singleton, List.sum_singleton]

/-- The weight of the close at index `j` in the average at index `i`. -/
def emaWeight (window i j : Nat) : Decimal :=
  Smoothing.weight (2 / (window + 1)) window (i + 1) j

section Averages

variable {bars : List MarketBar} {window : Nat}

/-- The average carried after `n` bars, unrolled down to the seed. -/
theorem emaBefore_closed_form {n : Nat} (hwindow : window ≤ n) (hn : n ≤ bars.length) :
    emaBefore window bars n =
      (1 - 2 / (window + 1)) ^ (n - window) * ((∑ j ∈ range window, closeAt bars j) / window) +
        ∑ j ∈ Ico window n, 2 / (window + 1) * (1 - 2 / (window + 1)) ^ (n - 1 - j) *
          closeAt bars j := by
  have hseed : emaBefore window bars window = (∑ j ∈ range window, closeAt bars j) / window := by
    have hnone : (bars.take window).drop window = [] :=
      List.drop_eq_nil_of_le (List.length_take_le ..)
    rw [emaBefore, hnone, List.foldl_nil, emaSeed, List.take_take, Nat.min_self,
      sum_take_closes (hwindow.trans hn)]
  rw [← hseed]
  refine Smoothing.closed_form (fun k hk hlt => ?_) hwindow
  have hbar : k < bars.length := by omega
  rw [emaBefore_succ hk hbar, emaUpdate, closeAt_of_lt hbar]

theorem emaWeight_nonneg (hwindow : 1 ≤ window) (i j : Nat) : 0 ≤ emaWeight window i j := by
  have hone : (1 : Decimal) ≤ window := by exact_mod_cast hwindow
  have hpos : (0 : Decimal) < window + 1 := by positivity
  refine Smoothing.weight_nonneg (div_nonneg zero_le_two hpos.le) ?_ _ _ _
  rw [div_le_one hpos]
  linarith

theorem sum_emaWeight {i : Nat} (hwindow : 1 ≤ window) (hi : window ≤ i + 1) :
    ∑ j ∈ range (i + 1), emaWeight window i j = 1 :=
  Smoothing.sum_weight (by exact_mod_cast (by omega : window ≠ 0)) hi

theorem emaBefore_eq_weighted {i : Nat} (hwindow : window ≤ i + 1) (hi : i < bars.length) :
    emaBefore window bars (i + 1) =
      ∑ j ∈ range (i + 1), emaWeight window i j * closeAt bars j := by
  rw [emaBefore_closed_form hwindow hi]
  exact (Smoothing.sum_weight_mul _ hwindow).symm

end Averages

/-- Nothing before the window is full; from then on the closed form, whose weights are
    nonnegative and add up to one, between the extremes of the closes so far. -/
theorem exponentialMovingAverages_closedForm (bars : List MarketBar) (window : Nat)
    (hwindow : 1 ≤ window) :
    ∃ values, exponentialMovingAverages bars window = .ok values ∧
      values.length = bars.length ∧
      (∀ i, i < bars.length → i + 1 < window → values[i]? = some none) ∧
      ∀ i, i < bars.length → window ≤ i + 1 → ∃ average, values[i]? = some (some average) ∧
        average =
          (1 - 2 / (window + 1)) ^ (i + 1 - window) *
              ((∑ j ∈ range window, closeAt bars j) / window) +
            ∑ j ∈ Ico window (i + 1),
              2 / (window + 1) * (1 - 2 / (window + 1)) ^ (i - j) * closeAt bars j ∧
        average = ∑ j ∈ range (i + 1), emaWeight window i j * closeAt bars j ∧
        (∀ j, 0 ≤ emaWeight window i j) ∧
        ∑ j ∈ range (i + 1), emaWeight window i j = 1 ∧
        (range (i + 1)).inf' nonempty_range_add_one (closeAt bars) ≤ average ∧
        average ≤ (range (i + 1)).sup' nonempty_range_add_one (closeAt bars) := by
  have hpositive : (1 : Int) ≤ window := by exact_mod_cast hwindow
  have hspec := exponentialMovingAverages_spec hpositive bars
  rw [Int.toNat_natCast] at hspec
  refine ⟨_, hspec, History.values_length .., fun i hi hwarm => ?_, fun i hi hfull => ?_⟩
  · rw [History.values_getElem? _ hi, emaOn, if_neg (by rw [List.length_take]; omega)]
  · have hvalue : emaOn window (bars.take (i + 1)) = some (emaBefore window bars (i + 1)) :=
      emaOn_take hfull hi
    have hweighted := emaBefore_eq_weighted hfull hi
    have hsum := sum_emaWeight hwindow hfull
    obtain ⟨hlow, hhigh⟩ := Smoothing.between_of_weights (x := closeAt bars)
      (nonempty_range_add_one (n := i)) (fun j _ => emaWeight_nonneg hwindow i j) hsum
    rw [← hweighted] at hlow hhigh
    exact ⟨_, by rw [History.values_getElem? _ hi, hvalue], emaBefore_closed_form hfull hi,
      hweighted, emaWeight_nonneg hwindow i, hsum, hlow, hhigh⟩

/-- Closes 10, 12 and 14 under a window of two: the third average is a weighted sum of them. -/
theorem exponentialMovingAverages_closedForm_three_bars :
    ∃ values average,
      exponentialMovingAverages [dailyBar 0 10 11 9 10, dailyBar 1 10 13 9 12,
        dailyBar 2 12 15 11 14] 2 = .ok values ∧
      values[2]? = some (some average) ∧
      average = ∑ j ∈ range (2 + 1), emaWeight 2 2 j * closeAt [dailyBar 0 10 11 9 10,
        dailyBar 1 10 13 9 12, dailyBar 2 12 15 11 14] j ∧
      ∑ j ∈ range (2 + 1), emaWeight 2 2 j = 1 := by
  obtain ⟨values, hvalues, -, -, hclosed⟩ := exponentialMovingAverages_closedForm
    [dailyBar 0 10 11 9 10, dailyBar 1 10 13 9 12, dailyBar 2 12 15 11 14] 2 (by decide)
  obtain ⟨average, haverage, -, hweighted, -, hsum, -⟩ := hclosed 2 (by decide) (by decide)
  exact ⟨values, average, hvalues, haverage, hweighted, hsum⟩

end Backtesting
end TradingPlatform
