/-
  TradingPlatform.Backtesting.Metrics

  The performance figures of `app/backtesting/metrics.py`, and when they cannot
  fail.

  `Decimal.__pow__` with a fractional exponent is the parameter `power`.  The
  seconds of a `timedelta` are exact: `total_seconds` prints microseconds as a
  float, which is faithful for the fifteen digits that a market history needs.
-/

import TradingPlatform.Backtesting.Models

namespace TradingPlatform
namespace Backtesting

open Python

-- ============================================================================
-- The figures
-- ============================================================================

/-- Mark a whole-share benchmark to each close from the eligible entry bar. -/
def calculateBuyAndHoldEquityCurve (bars : List MarketBar) (startingCash : Decimal)
    (startIndex : Int) : Except PyError (List EquityPoint) :=
  if ¬ (0 ≤ startIndex ∧ startIndex < bars.length) then
    .error (.valueError "start_index is outside the loaded data range")
  else do
    let startBar ← getItem bars startIndex.toNat
    let quantity ← floorDivide startingCash startBar.openPrice
    let remainingCash := startingCash - quantity * startBar.openPrice
    return (bars.drop startIndex.toNat).map fun bar =>
      ⟨bar.timestamp, remainingCash + quantity * bar.closePrice⟩

/-- One iteration of the loop in `calculate_maximum_drawdown`, on the running peak and the
    worst drawdown. -/
def maximumDrawdownStep (loop : Decimal × Decimal) (point : EquityPoint) :
    Except PyError (Decimal × Decimal) := do
  let peak := max loop.1 point.equity
  let ratio ← divide point.equity peak
  return (peak, min loop.2 ((ratio - 1) * 100))

/-- The largest decline from a running peak, in percent. -/
def calculateMaximumDrawdown (equityCurve : List EquityPoint) : Except PyError Decimal := do
  let first ← getItem equityCurve 0
  let loop ← equityCurve.foldlM maximumDrawdownStep (first.equity, 0)
  return loop.2

/-- Days between two timestamps. -/
def elapsedDays (startTimestamp endTimestamp : Timestamp) : Decimal :=
  (endTimestamp - startTimestamp : Int) / 1000000 / 86400

/-- The annual growth rate in percent; `None` where no time has passed. -/
def calculateCagr (power : Decimal → Decimal → Except PyError Decimal)
    (startingCash finalValue : Decimal) (startTimestamp endTimestamp : Timestamp) :
    Except PyError (Option Decimal) :=
  let days := elapsedDays startTimestamp endTimestamp
  if days ≤ 0 then
    .ok none
  else do
    let years ← divide days 365.25
    let growth ← divide finalValue startingCash
    let exponent ← divide 1 years
    let yearly ← power growth exponent
    return some ((yearly - 1) * 100)

/-- The percentage of the trades that made a profit; 0 without trades. -/
def calculateWinRate (completedTrades : List CompletedTrade) : Except PyError Decimal :=
  if completedTrades.isEmpty then
    .ok 0
  else do
    let winningTrades := completedTrades.countP (·.profitLoss > 0)
    let ratio ← divide winningTrades completedTrades.length
    return ratio * 100

/-- `calculate_metrics`, which computes the benchmark's curve for its return. -/
def calculateMetrics (power : Decimal → Decimal → Except PyError Decimal)
    (bars : List MarketBar) (equityCurve : List EquityPoint)
    (completedTrades : List CompletedTrade) (startingCash finalPortfolioValue : Decimal)
    (buyAndHoldStartIndex : Int) : Except PyError BacktestMetrics := do
  if bars.isEmpty ∨ equityCurve.isEmpty then
    throw (.valueError "bars and equity_curve are required")
  if ¬ (0 ≤ buyAndHoldStartIndex ∧ buyAndHoldStartIndex < bars.length) then
    throw (.valueError "buy_and_hold_start_index is outside the loaded data range")
  let buyAndHoldStartBar ← getItem bars buyAndHoldStartIndex.toNat
  let buyAndHoldEquity ←
    calculateBuyAndHoldEquityCurve bars startingCash buyAndHoldStartIndex
  let buyAndHoldLast ← getLast buyAndHoldEquity
  let winRate ← calculateWinRate completedTrades
  let totalReturn ← divide finalPortfolioValue startingCash
  let buyAndHoldReturn ← divide buyAndHoldLast.equity startingCash
  let lastBar ← getLast bars
  let maximumDrawdown ← calculateMaximumDrawdown equityCurve
  let firstBar ← getItem bars 0
  let cagr ← calculateCagr power startingCash finalPortfolioValue firstBar.timestamp
    lastBar.timestamp
  return {
    totalReturnPercentage := (totalReturn - 1) * 100
    buyAndHoldReturnPercentage := (buyAndHoldReturn - 1) * 100
    buyAndHoldStartTimestamp := buyAndHoldStartBar.timestamp
    buyAndHoldStartPrice := buyAndHoldStartBar.openPrice
    buyAndHoldEndPrice := lastBar.closePrice
    winRatePercentage := winRate
    maximumDrawdownPercentage := maximumDrawdown
    cagrPercentage := cagr }

-- ============================================================================
-- None of them fails on a valid run
-- ============================================================================

/-- A power that is defined on every positive base, as `Decimal.__pow__` is. -/
def PowerTotal (power : Decimal → Decimal → Except PyError Decimal) : Prop :=
  ∀ base exponent, 0 < base → ∃ value, power base exponent = .ok value

/-- The benchmark curve: whole shares bought at the open of the start bar, marked to each
    close from there. -/
def buyAndHoldCurve (bars : List MarketBar) (startingCash : Decimal) (startBar : MarketBar)
    (startIndex : Nat) : List EquityPoint :=
  let quantity := ⌊startingCash / startBar.openPrice⌋₊
  (bars.drop startIndex).map fun bar =>
    ⟨bar.timestamp, startingCash - quantity * startBar.openPrice + quantity * bar.closePrice⟩

theorem calculateBuyAndHoldEquityCurve_spec {bars : List MarketBar} {startingCash : Decimal}
    (hcash : 0 ≤ startingCash) {startIndex : Nat} (hstart : startIndex < bars.length)
    (hopen : 0 < bars[startIndex].openPrice) :
    calculateBuyAndHoldEquityCurve bars startingCash startIndex =
      .ok (buyAndHoldCurve bars startingCash bars[startIndex] startIndex) := by
  rw [calculateBuyAndHoldEquityCurve, if_neg (by omega), Int.toNat_natCast,
    getItem_of_lt hstart, ok_bind, floorDivide_of_nonneg hcash hopen, ok_bind]
  rfl

/-- The running peak stays positive, so no drawdown divides by zero. -/
theorem maximumDrawdown_foldlM (points : List EquityPoint) :
    ∀ (loop : Decimal × Decimal), 0 < loop.1 →
      ∃ loop', points.foldlM maximumDrawdownStep loop = .ok loop' := by
  induction points with
  | nil => exact fun loop _ => ⟨loop, rfl⟩
  | cons point rest ih =>
      intro loop hpeak
      have hpeak' : 0 < max loop.1 point.equity := lt_max_of_lt_left hpeak
      obtain ⟨loop', hrest⟩ := ih (max loop.1 point.equity,
        min loop.2 ((point.equity / max loop.1 point.equity - 1) * 100)) hpeak'
      refine ⟨loop', ?_⟩
      rw [List.foldlM_cons, maximumDrawdownStep, divide_of_ne_zero hpeak'.ne']
      exact hrest

theorem calculateMaximumDrawdown_ok {point : EquityPoint} {rest : List EquityPoint}
    (hpos : 0 < point.equity) :
    ∃ drawdown, calculateMaximumDrawdown (point :: rest) = .ok drawdown := by
  obtain ⟨loop, hloop⟩ := maximumDrawdown_foldlM (point :: rest)
    (point.equity, 0) hpos
  refine ⟨loop.2, ?_⟩
  rw [calculateMaximumDrawdown, getItem_of_lt (Nat.zero_lt_succ _), ok_bind,
    List.getElem_cons_zero, hloop]
  rfl

theorem calculateWinRate_ok (completedTrades : List CompletedTrade) :
    ∃ rate, calculateWinRate completedTrades = .ok rate := by
  cases completedTrades with
  | nil => exact ⟨0, rfl⟩
  | cons trade rest =>
      have hne : (((trade :: rest).length : Nat) : Decimal) ≠ 0 := by
        rw [List.length_cons]
        positivity
      rw [calculateWinRate, if_neg (by simp)]
      simp only [divide_of_ne_zero hne]
      exact ⟨_, rfl⟩

theorem calculateCagr_ok {power : Decimal → Decimal → Except PyError Decimal}
    (hpower : PowerTotal power) {startingCash finalValue : Decimal} (hcash : 0 < startingCash)
    (hfinal : 0 < finalValue) (startTimestamp endTimestamp : Timestamp) :
    ∃ cagr, calculateCagr power startingCash finalValue startTimestamp endTimestamp =
      .ok cagr := by
  unfold calculateCagr
  by_cases hdays : elapsedDays startTimestamp endTimestamp ≤ 0
  · exact ⟨none, if_pos hdays⟩
  · have hpos : 0 < elapsedDays startTimestamp endTimestamp := not_le.mp hdays
    have hyears : elapsedDays startTimestamp endTimestamp / 365.25 ≠ 0 := by positivity
    obtain ⟨value, hvalue⟩ := hpower (finalValue / startingCash)
      (1 / (elapsedDays startTimestamp endTimestamp / 365.25)) (div_pos hfinal hcash)
    refine ⟨some ((value - 1) * 100), ?_⟩
    simp only [if_neg hdays]
    rw [divide_of_ne_zero (by norm_num), ok_bind, divide_of_ne_zero hcash.ne', ok_bind,
      divide_of_ne_zero hyears, ok_bind, hvalue]
    rfl

/-- The metrics of a run with positive equity and a start bar in range. -/
theorem calculateMetrics_ok {power : Decimal → Decimal → Except PyError Decimal}
    (hpower : PowerTotal power) {bars : List MarketBar} {equityCurve : List EquityPoint}
    (completedTrades : List CompletedTrade) {startingCash finalPortfolioValue : Decimal}
    (hcash : 0 < startingCash) (hfinal : 0 < finalPortfolioValue) {startIndex : Nat}
    (hstart : startIndex < bars.length) (hopen : 0 < bars[startIndex].openPrice)
    (hcurve : equityCurve ≠ []) (hequity : ∀ point ∈ equityCurve, 0 < point.equity) :
    ∃ metrics, calculateMetrics power bars equityCurve completedTrades startingCash
      finalPortfolioValue startIndex = .ok metrics := by
  have hbars : 0 < bars.length := by omega
  have hne : bars ≠ [] := List.ne_nil_of_length_pos hbars
  have hbenchmark : buyAndHoldCurve bars startingCash bars[startIndex] startIndex ≠ [] := by
    apply List.ne_nil_of_length_pos
    rw [buyAndHoldCurve, List.length_map, List.length_drop]
    omega
  obtain ⟨winRate, hwinRate⟩ := calculateWinRate_ok completedTrades
  obtain ⟨cagr, hcagr⟩ := calculateCagr_ok hpower hcash hfinal
    bars[0].timestamp (bars.getLast hne).timestamp
  obtain ⟨drawdown, hdrawdown⟩ : ∃ drawdown,
      calculateMaximumDrawdown equityCurve = .ok drawdown := by
    cases equityCurve with
    | nil => exact absurd rfl hcurve
    | cons point rest => exact calculateMaximumDrawdown_ok (hequity point (List.mem_cons_self ..))
  rw [calculateMetrics, if_neg (by simp [hne, hcurve]), if_neg (by omega), Int.toNat_natCast,
    getItem_of_lt hstart, calculateBuyAndHoldEquityCurve_spec hcash.le hstart hopen,
    hwinRate, hdrawdown, getLast_of_ne_nil hne, getItem_of_lt (by omega)]
  simp only [ok_bind]
  rw [getLast_of_ne_nil hbenchmark, ok_bind, divide_of_ne_zero hcash.ne', ok_bind,
    divide_of_ne_zero hcash.ne', ok_bind, hcagr]
  exact ⟨_, rfl⟩

end Backtesting
end TradingPlatform
