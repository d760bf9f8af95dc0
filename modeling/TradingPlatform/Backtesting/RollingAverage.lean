/-
  TradingPlatform.Backtesting.RollingAverage

  `simple_moving_averages` against the mean of each window computed afresh, in
  exact arithmetic and in the 28-digit context that `Decimal` computes in.

  Over `numeric(18, 8)` closes and windows of at most 1000 bars, every value of
  `rolling_total` is a sum of at most 1001 closes, which the context can
  represent: no addition or subtraction of the loop rounds, however long the
  history, and the quotient is the one a fresh sum of the window gives.
-/

import TradingPlatform.Backtesting.ExponentialAverage
import TradingPlatform.Backtesting.RollingTotals
import TradingPlatform.Lib.DecimalContext

namespace TradingPlatform
namespace Backtesting

open Python Schemas Finset

-- ============================================================================
-- Rounded arithmetic
-- ============================================================================

/-- Every operation is exact and then rounded to the context. -/
def Arithmetic.rounded (context : DecimalContext) : Arithmetic :=
  ⟨fun a b => context.round (a + b), fun a b => context.round (a - b),
    fun a b => (Python.divide a b).map context.round⟩

/-- `decimal.DefaultContext`, which nothing in the program replaces. -/
def defaultContext : DecimalContext := ⟨28, -999999, 999999⟩

/-- The mean of the window that ends at an index, summed from zero and divided once. -/
def freshMean (arithmetic : Arithmetic) (bars : List MarketBar) (window : Nat)
    (index : Nat) : Except PyError Decimal :=
  let closes := ((bars.take (index + 1)).drop (index + 1 - window)).map (·.closePrice)
  arithmetic.divide (closes.foldl arithmetic.add 0) window

/-- The total after index `i` is the sum of the closes in its window. -/
theorem rollingTotal_eq_sum_Ico {bars : List MarketBar} {window i : Nat} (hi : i < bars.length)
    (hfull : window ≤ i + 1) :
    rollingTotal window bars (i + 1) = ∑ j ∈ Ico (i + 1 - window) (i + 1), closeAt bars j := by
  have hsplit := List.sum_take_add_sum_drop ((bars.take (i + 1)).map (·.closePrice))
    (i + 1 - window)
  rw [← List.map_take, ← List.map_drop, List.take_take, Nat.min_eq_left (Nat.sub_le ..),
    sum_take_closes (by omega), sum_take_closes hi] at hsplit
  rw [rollingTotal_eq_sum _ hi, sum_Ico_eq_sub _ (Nat.sub_le ..), ← hsplit, add_sub_cancel_left]

-- ============================================================================
-- Sums that the context can represent
-- ============================================================================

/-- A value of a `numeric(18, 8)` column. -/
def IsNumeric (price : Decimal) : Prop :=
  (∃ units : Int, price = units / 100000000) ∧ |price| < 10000000000

/-- At most 1001 closes add up to at most 28 digits. -/
theorem representable_sum {prices : List Decimal} (hprices : ∀ price ∈ prices, IsNumeric price)
    (hlength : prices.length ≤ 1001) : defaultContext.Representable prices.sum := by
  obtain ⟨units, hunits, hbound⟩ : ∃ units : Int, prices.sum = units / 100000000 ∧
      |units| ≤ prices.length * 1000000000000000000 := by
    clear hlength
    induction prices with
    | nil => exact ⟨0, by simp, by simp⟩
    | cons price prices ih =>
        obtain ⟨units, hunits, hbound⟩ := ih fun q hq => hprices q (List.mem_cons_of_mem _ hq)
        obtain ⟨⟨first, rfl⟩, hfirst⟩ := hprices _ (List.mem_cons_self ..)
        have hscale : (0 : Decimal) < 100000000 := by norm_num
        rw [abs_div, abs_of_pos hscale, div_lt_iff₀ hscale, ← Int.cast_abs] at hfirst
        have hfirst' : |first| < 1000000000000000000 := by
          have hproduct : (10000000000 : Decimal) * 100000000 =
              ((1000000000000000000 : Int) : Decimal) := by norm_num
          rw [hproduct] at hfirst
          exact_mod_cast hfirst
        refine ⟨first + units, ?_, ?_⟩
        · rw [List.sum_cons, hunits]
          push_cast
          ring
        · have htriangle := abs_add_le first units
          rw [List.length_cons]
          push_cast
          linarith
  refine ⟨units, -8, ?_, by decide, by decide, ?_⟩
  · have hlength' : (prices.length : Int) ≤ 1001 := by exact_mod_cast hlength
    have hdigits : (1001 : Int) * 1000000000000000000 < 10 ^ 28 := by norm_num
    show |units| < 10 ^ 28
    linarith
  · rw [hunits, div_eq_mul_inv]
    norm_num

-- ============================================================================
-- The default context
-- ============================================================================

section DefaultContext

variable {bars : List MarketBar} {window : Nat}

theorem isNumeric_of_mem_closes (hbars : ∀ bar ∈ bars, IsNumeric bar.closePrice) {k n : Nat}
    {price : Decimal} (h : price ∈ ((bars.take k).drop n).map (·.closePrice)) :
    IsNumeric price := by
  obtain ⟨bar, hbar, rfl⟩ := List.mem_map.mp h
  exact hbars bar (List.mem_of_mem_take (List.mem_of_mem_drop hbar))

/-- Between bars the total is a sum of at most `window` closes. -/
theorem representable_rollingTotal (hbars : ∀ bar ∈ bars, IsNumeric bar.closePrice)
    (hwindow : window ≤ 1000) {k : Nat} (hk : k ≤ bars.length) :
    defaultContext.Representable (rollingTotal window bars k) := by
  rw [rollingTotal_eq_sum _ hk]
  refine representable_sum (fun price => isNumeric_of_mem_closes hbars) ?_
  rw [List.length_map, List.length_drop, List.length_take]
  omega

/-- After the addition it is a sum of at most one close more. -/
theorem representable_added (hbars : ∀ bar ∈ bars, IsNumeric bar.closePrice)
    (hwindow : window ≤ 1000) {k : Nat} (hk : k < bars.length) :
    defaultContext.Representable (rollingTotal window bars k + bars[k].closePrice) := by
  have hadded : rollingTotal window bars k + bars[k].closePrice =
      (((bars.take k).drop (k - window)).map (·.closePrice) ++ [bars[k].closePrice]).sum := by
    rw [List.sum_append, List.sum_singleton, ← rollingTotal_eq_sum _ hk.le]
  rw [hadded]
  refine representable_sum (fun price hprice => ?_) ?_
  · rcases List.mem_append.mp hprice with hold | hnew
    · exact isNumeric_of_mem_closes hbars hold
    · rw [List.mem_singleton.mp hnew]
      exact hbars _ (List.getElem_mem hk)
  · rw [List.length_append, List.length_map, List.length_drop, List.length_take,
      List.length_singleton]
    omega

theorem rounded_unrounded (hbars : ∀ bar ∈ bars, IsNumeric bar.closePrice)
    (hwindow : window ≤ 1000) (hpos : 0 < window) :
    (Arithmetic.rounded defaultContext).Unrounded bars window where
  add _ hk := DecimalContext.round_of_representable (representable_added hbars hwindow hk)
  subtract k hk hfull := by
    have hafter := rollingTotal_succ hpos hk
    rw [dif_pos hfull] at hafter
    have hrepresentable : defaultContext.Representable (rollingTotal window bars (k + 1)) :=
      representable_rollingTotal hbars hwindow hk
    rw [hafter] at hrepresentable
    exact DecimalContext.round_of_representable hrepresentable

/-- Summing few closes from zero does not round either. -/
theorem foldl_add_rounded {prices : List Decimal} (hprices : ∀ price ∈ prices, IsNumeric price)
    (hlength : prices.length ≤ 1001) :
    prices.foldl (Arithmetic.rounded defaultContext).add 0 = prices.sum := by
  induction prices using List.reverseRecOn with
  | nil => rfl
  | append_singleton prices price ih =>
      have hbefore := ih (fun q hq => hprices q (List.mem_append_left _ hq))
        (by rw [List.length_append] at hlength; omega)
      have hrepresentable := representable_sum hprices hlength
      rw [List.sum_append, List.sum_singleton] at hrepresentable ⊢
      rw [List.foldl_append, hbefore]
      exact DecimalContext.round_of_representable hrepresentable

theorem divide_rounded (hpos : 0 < window) (total : Decimal) :
    (Arithmetic.rounded defaultContext).divide total window =
      .ok (defaultContext.round (total / window)) := by
  have hne : (window : Decimal) ≠ 0 := by exact_mod_cast hpos.ne'
  show (Python.divide total window).map defaultContext.round = _
  rw [divide_of_ne_zero hne]
  rfl

theorem freshMean_rounded (hbars : ∀ bar ∈ bars, IsNumeric bar.closePrice)
    (hwindow : window ≤ 1000) (hpos : 0 < window) {i : Nat} (hi : i < bars.length) :
    freshMean (.rounded defaultContext) bars window i =
      .ok (defaultContext.round (rollingTotal window bars (i + 1) / window)) := by
  rw [freshMean, foldl_add_rounded (fun price => isNumeric_of_mem_closes hbars),
    ← rollingTotal_eq_sum _ hi, divide_rounded hpos]
  rw [List.length_map, List.length_drop, List.length_take]
  omega

end DefaultContext

/-- The rolling average is the mean of its window.  Over `numeric(18, 8)` closes and windows of
    at most 1000 bars, the loop in the default context has the totals of exact arithmetic at
    every bar, and its averages are the window means computed afresh. -/
theorem simpleMovingAverages_driftFree (bars : List MarketBar) (window : Nat)
    (hpos : 1 ≤ window) :
    (∃ averages, simpleMovingAverages bars window = .ok averages ∧
      averages.length = bars.length ∧
      ∀ i, i < bars.length → averages[i]? = some (if i + 1 < window then none else
        some ((∑ j ∈ Ico (i + 1 - window) (i + 1), closeAt bars j) / window))) ∧
    (window ≤ 1000 → (∀ bar ∈ bars, IsNumeric bar.closePrice) →
      (∀ i (hi : i < bars.length), ∃ before after averages exactAverages,
        simpleMovingAveragesAfter (.rounded defaultContext) bars window i =
          .ok (before, averages) ∧
        simpleMovingAveragesAfter .exact bars window i = .ok (before, exactAverages) ∧
        (Arithmetic.rounded defaultContext).add before bars[i].closePrice =
          before + bars[i].closePrice ∧
        defaultContext.Representable (before + bars[i].closePrice) ∧
        dropOldest (.rounded defaultContext) bars window i (before + bars[i].closePrice) =
          .ok after ∧
        dropOldest .exact bars window i (before + bars[i].closePrice) = .ok after ∧
        defaultContext.Representable after) ∧
      ∃ averages, simpleMovingAveragesIn (.rounded defaultContext) bars window = .ok averages ∧
        averages.length = bars.length ∧
        (∀ i, i < bars.length → i + 1 < window → averages[i]? = some none) ∧
        ∀ i, i < bars.length → window ≤ i + 1 →
          ∃ mean, freshMean (.rounded defaultContext) bars window i = .ok mean ∧
            averages[i]? = some (some mean)) := by
  have hne : (window : Decimal) ≠ 0 := by exact_mod_cast (by omega : window ≠ 0)
  have hdivide : ∀ total, Arithmetic.exact.divide total window = .ok (total / window) :=
    fun total => divide_of_ne_zero hne
  refine ⟨?_, fun hwindow hbars => ⟨fun i hi => ?_, ?_⟩⟩
  · refine ⟨_, (simpleMovingAverages_eq_exact bars window).trans
      (simpleMovingAveragesIn_spec Arithmetic.exact_unrounded hpos hdivide),
      History.values_length .., fun i hi => ?_⟩
    rw [History.values_getElem? _ hi, averageOn_take _ _ hi]
    by_cases hfull : window ≤ i + 1
    · rw [if_pos hfull, if_neg (by omega), rollingTotal_eq_sum_Ico hi hfull]
    · rw [if_neg hfull, if_pos (by omega)]
  · have hrounded := rounded_unrounded hbars hwindow hpos
    exact ⟨_, _, _, _, simpleMovingAveragesAfter_spec hrounded hpos (divide_rounded hpos) hi.le,
      simpleMovingAveragesAfter_spec Arithmetic.exact_unrounded hpos hdivide hi.le,
      hrounded.add i hi, representable_added hbars hwindow hi, dropOldest_spec hrounded hpos hi,
      dropOldest_spec Arithmetic.exact_unrounded hpos hi,
      representable_rollingTotal hbars hwindow hi⟩
  · refine ⟨_, simpleMovingAveragesIn_spec (rounded_unrounded hbars hwindow hpos) hpos
      (divide_rounded hpos), History.values_length .., fun i hi hwarm => ?_, fun i hi hfull => ?_⟩
    · rw [History.values_getElem? _ hi, averageOn_take _ _ hi, if_neg (by omega)]
    · refine ⟨_, freshMean_rounded hbars hwindow hpos hi, ?_⟩
      rw [History.values_getElem? _ hi, averageOn_take _ _ hi, if_pos hfull]

/-- A window of two over the closes 10, 12 and 14: the third average is the mean of the last
    two, whichever way it is computed. -/
theorem simpleMovingAverages_driftFree_three_bars :
    ∃ averages mean,
      simpleMovingAveragesIn (.rounded defaultContext) [dailyBar 0 10 11 9 10,
        dailyBar 1 10 13 9 12, dailyBar 2 12 15 11 14] 2 = .ok averages ∧
      freshMean (.rounded defaultContext) [dailyBar 0 10 11 9 10, dailyBar 1 10 13 9 12,
        dailyBar 2 12 15 11 14] 2 2 = .ok mean ∧
      averages[2]? = some (some mean) := by
  have hbars : ∀ bar ∈ [dailyBar 0 10 11 9 10, dailyBar 1 10 13 9 12, dailyBar 2 12 15 11 14],
      IsNumeric bar.closePrice := by
    intro bar hbar
    simp only [List.mem_cons, List.not_mem_nil, or_false] at hbar
    obtain rfl | rfl | rfl := hbar
    · exact ⟨⟨1000000000, by norm_num [dailyBar]⟩, by norm_num [dailyBar]⟩
    · exact ⟨⟨1200000000, by norm_num [dailyBar]⟩, by norm_num [dailyBar]⟩
    · exact ⟨⟨1400000000, by norm_num [dailyBar]⟩, by norm_num [dailyBar]⟩
  obtain ⟨-, hcontext⟩ := simpleMovingAverages_driftFree
    [dailyBar 0 10 11 9 10, dailyBar 1 10 13 9 12, dailyBar 2 12 15 11 14] 2 (by decide)
  obtain ⟨-, averages, haverages, -, -, hmeans⟩ := hcontext (by decide) hbars
  obtain ⟨mean, hmean, haverage⟩ := hmeans 2 (by decide) (by decide)
  exact ⟨averages, mean, haverages, hmean, haverage⟩

end Backtesting
end TradingPlatform
