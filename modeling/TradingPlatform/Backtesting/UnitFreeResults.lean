/-
  TradingPlatform.Backtesting.UnitFreeResults

  The results of a backtest do not depend on the currency unit.

  Percentages are ratios of amounts in one unit, so the metrics commute with the
  change of unit like the engine does; `backtest_scale` is the whole pipeline.
-/

import TradingPlatform.Backtesting.CurrencyUnit
import TradingPlatform.Lib.MappedRun
import TradingPlatform.Services.PreviewRuns

namespace TradingPlatform
namespace Backtesting

open Python Schemas Services

-- ============================================================================
-- Metrics
-- ============================================================================

/-- Percentages stay, prices are in the other unit. -/
def BacktestMetrics.scale (c : Decimal) (metrics : BacktestMetrics) : BacktestMetrics :=
  { metrics with
    buyAndHoldStartPrice := c * metrics.buyAndHoldStartPrice
    buyAndHoldEndPrice := c * metrics.buyAndHoldEndPrice }

section Metrics

variable {c : Decimal} (hc : 0 < c)

theorem getItem_map {α β : Type} (f : α → β) (xs : List α) (i : Nat) :
    getItem (xs.map f) i = (getItem xs i).map f := by
  rw [getItem, getItem, List.getElem?_map]
  cases xs[i]? <;> rfl

theorem getLast_map {α β : Type} (f : α → β) (xs : List α) :
    getLast (xs.map f) = (getLast xs).map f := by
  rw [getLast, getLast, List.getLast?_map]
  cases xs.getLast? <;> rfl

include hc in
theorem divide_scale (a b : Decimal) : divide (c * a) (c * b) = divide a b := by
  have hzero (v : Decimal) : c * v = 0 ↔ v = 0 := mul_eq_zero_iff_left hc.ne'
  rw [divide, divide, mul_div_mul_left a b hc.ne', if_congr (hzero b) rfl rfl,
    if_congr (hzero a) rfl rfl]

include hc in
theorem floorDivide_scale (a b : Decimal) : floorDivide (c * a) (c * b) = floorDivide a b := by
  have hzero (v : Decimal) : c * v = 0 ↔ v = 0 := mul_eq_zero_iff_left hc.ne'
  rw [floorDivide, floorDivide, mul_div_mul_left a b hc.ne', if_congr (hzero b) rfl rfl,
    if_congr (hzero a) rfl rfl]

include hc in
theorem calculateBuyAndHoldEquityCurve_scale (bars : List MarketBar) (startingCash : Decimal)
    (startIndex : Int) :
    calculateBuyAndHoldEquityCurve (bars.map (MarketBar.scale c)) (c * startingCash) startIndex =
      (calculateBuyAndHoldEquityCurve bars startingCash startIndex).map
        (List.map (EquityPoint.scale c)) := by
  unfold calculateBuyAndHoldEquityCurve
  refine MappedRun.ite (by rw [List.length_map]) rfl ?_
  refine MappedRun.bind (getItem_map ..) fun startBar _ => ?_
  refine MappedRun.bind_same (floorDivide_scale hc ..) fun quantity _ => ?_
  refine congrArg Except.ok ?_
  rw [← List.map_drop, List.map_map, List.map_map]
  refine List.map_congr_left fun bar _ => ?_
  have hequity : c * startingCash - quantity * (c * startBar.openPrice) +
      quantity * (c * bar.closePrice) =
      c * (startingCash - quantity * startBar.openPrice + quantity * bar.closePrice) := by ring
  exact congrArg (EquityPoint.mk bar.timestamp) hequity

include hc in
theorem maximumDrawdownStep_scale (loop : Decimal × Decimal) (point : EquityPoint) :
    maximumDrawdownStep (c * loop.1, loop.2) (point.scale c) =
      (maximumDrawdownStep loop point).map fun next => (c * next.1, next.2) := by
  have hpeak : max (c * loop.1) (c * point.equity) = c * max loop.1 point.equity :=
    (mul_max_of_nonneg _ _ hc.le).symm
  unfold maximumDrawdownStep
  simp only [EquityPoint.scale, hpeak]
  exact MappedRun.bind_same (divide_scale hc ..) fun ratio _ => rfl

include hc in
theorem calculateMaximumDrawdown_scale (equityCurve : List EquityPoint) :
    calculateMaximumDrawdown (equityCurve.map (EquityPoint.scale c)) =
      calculateMaximumDrawdown equityCurve := by
  have hrun : calculateMaximumDrawdown (equityCurve.map (EquityPoint.scale c)) =
      (calculateMaximumDrawdown equityCurve).map id := by
    refine MappedRun.bind (getItem_map ..) fun first _ => ?_
    exact MappedRun.bind (MappedRun.foldlM (maximumDrawdownStep_scale hc) equityCurve
      (first.equity, 0)) fun _ _ => rfl
  rw [hrun]
  cases calculateMaximumDrawdown equityCurve <;> rfl

include hc in
theorem calculateWinRate_scale (completedTrades : List CompletedTrade) :
    calculateWinRate (completedTrades.map (CompletedTrade.scale c)) =
      calculateWinRate completedTrades := by
  have hwinning : (completedTrades.map (CompletedTrade.scale c)).countP (·.profitLoss > 0) =
      completedTrades.countP (·.profitLoss > 0) := by
    rw [List.countP_map]
    refine List.countP_congr fun trade _ => ?_
    simp only [Function.comp_apply, decide_eq_true_eq]
    exact mul_pos_iff_of_pos_left hc
  rw [calculateWinRate, calculateWinRate, List.isEmpty_map, List.length_map, hwinning]

include hc in
theorem calculateCagr_scale (power : Decimal → Decimal → Except PyError Decimal)
    (startingCash finalValue : Decimal) (startTimestamp endTimestamp : Timestamp) :
    calculateCagr power (c * startingCash) (c * finalValue) startTimestamp endTimestamp =
      calculateCagr power startingCash finalValue startTimestamp endTimestamp := by
  rw [calculateCagr, calculateCagr, divide_scale hc]

include hc in
theorem calculateMetrics_scale (power : Decimal → Decimal → Except PyError Decimal)
    (bars : List MarketBar) (equityCurve : List EquityPoint)
    (completedTrades : List CompletedTrade) (startingCash finalPortfolioValue : Decimal)
    (buyAndHoldStartIndex : Int) :
    calculateMetrics power (bars.map (MarketBar.scale c))
        (equityCurve.map (EquityPoint.scale c)) (completedTrades.map (CompletedTrade.scale c))
        (c * startingCash) (c * finalPortfolioValue) buyAndHoldStartIndex =
      (calculateMetrics power bars equityCurve completedTrades startingCash finalPortfolioValue
        buyAndHoldStartIndex).map (BacktestMetrics.scale c) := by
  unfold calculateMetrics
  rw [List.isEmpty_map, List.isEmpty_map, List.length_map, calculateWinRate_scale hc,
    calculateMaximumDrawdown_scale hc]
  refine MappedRun.ite Iff.rfl rfl ?_
  refine MappedRun.ite Iff.rfl rfl ?_
  refine MappedRun.bind (getItem_map ..) fun startBar _ => ?_
  refine MappedRun.bind (calculateBuyAndHoldEquityCurve_scale hc ..) fun curve _ => ?_
  refine MappedRun.bind (getLast_map ..) fun last _ => ?_
  refine MappedRun.bind_same rfl fun winRate _ => ?_
  refine MappedRun.bind_same (divide_scale hc ..) fun totalReturn _ => ?_
  refine MappedRun.bind_same (divide_scale hc ..) fun buyAndHoldReturn _ => ?_
  refine MappedRun.bind (getLast_map ..) fun lastBar _ => ?_
  refine MappedRun.bind_same rfl fun maximumDrawdown _ => ?_
  refine MappedRun.bind (getItem_map ..) fun firstBar _ => ?_
  exact MappedRun.bind_same (calculateCagr_scale hc ..) fun _ _ => rfl

end Metrics

-- ============================================================================
-- The whole backtest
-- ============================================================================

/-- What a backtest shows. -/
structure Backtest where
  signals : List Signal
  execution : ExecutionResult
  metrics : BacktestMetrics
  buyAndHoldEquityCurve : List EquityPoint
deriving DecidableEq, Repr

/-- Compile, execute, measure: `create_specification_preview` on given bars and cash. -/
def backtest (power : Decimal → Decimal → Except PyError Decimal)
    (specification : StrategySpecification) (bars : List MarketBar) (startingCash : Decimal) :
    Except PyError Backtest := do
  let compiled ← compileStrategy specification
  let eligibleIndex := compiled.firstSignalEligibleIndex bars
  let signals ← compiled.generateSignals bars
  let execution ← executeLongOnlySignals bars signals startingCash
    specification.stopLossPercent specification.takeProfitPercent
  let metrics ← calculateMetrics power bars execution.equityCurve execution.completedTrades
    startingCash execution.finalPortfolioValue eligibleIndex
  let buyAndHoldEquityCurve ← calculateBuyAndHoldEquityCurve bars startingCash eligibleIndex
  return ⟨signals, execution, metrics, buyAndHoldEquityCurve⟩

/-- A preview shows the backtest of the loaded bars with the fixed starting cash. -/
theorem createSpecificationPreview_backtest
    {power : Decimal → Decimal → Except PyError Decimal} {rendering : Rendering}
    {rows : List MarketDataRow} {specification : StrategySpecification}
    {parsedStrategy : ParsedStrategyResult} {preview : StrategyPreview}
    (h : createSpecificationPreview power rendering rows specification parsedStrategy =
      .ok preview) :
    ∃ shown, backtest power specification
        (loadMarketBars rows specification.symbol specification.interval) startingCash =
        .ok shown ∧
      preview.execution = shown.execution ∧ preview.metrics = shown.metrics := by
  obtain ⟨compiled, hcompiled, h⟩ := bind_eq_ok h
  dsimp only at h
  split at h
  · cases h
  obtain ⟨signals, hsignals, h⟩ := bind_eq_ok h
  obtain ⟨execution, hexecution, h⟩ := bind_eq_ok h
  obtain ⟨metrics, hmetrics, h⟩ := bind_eq_ok h
  obtain ⟨curve, hcurve, h⟩ := bind_eq_ok h
  obtain ⟨eligibleBar, -, h⟩ := bind_eq_ok h
  obtain ⟨benchmark, -, h⟩ := bind_eq_ok h
  obtain ⟨firstBar, -, h⟩ := bind_eq_ok h
  obtain ⟨lastBar, -, h⟩ := bind_eq_ok h
  obtain rfl := Except.ok.inj h
  refine ⟨⟨signals, execution, metrics, curve⟩, ?_, rfl, rfl⟩
  rw [backtest, hcompiled, ok_bind]
  simp only [hsignals, hexecution, hmetrics, hcurve, ok_bind]
  rfl

/-- What a backtest shows, in the other unit. -/
def Backtest.scale (c : Decimal) (shown : Backtest) : Backtest where
  signals := shown.signals
  execution := shown.execution.scale c
  metrics := shown.metrics.scale c
  buyAndHoldEquityCurve := shown.buyAndHoldEquityCurve.map (EquityPoint.scale c)

section Backtest

variable {c : Decimal} {specification : StrategySpecification} {bars : List MarketBar}
  {startingCash : Decimal}

theorem validateOperand_scale (c : Decimal) (operand : Operand) :
    validateOperand (operand.scale c) = validateOperand operand := by
  cases operand <;> rfl

theorem validateStrategySemantics_scale (c : Decimal) (specification : StrategySpecification) :
    validateStrategySemantics (specification.scale c) =
      validateStrategySemantics specification := by
  have hcondition (condition : Condition) :
      validateCondition (condition.scale c) = validateCondition condition := by
    simp only [validateCondition, Condition.scale, validateOperand_scale]
  simp only [validateStrategySemantics, StrategySpecification.scale, hcondition]
  rfl

theorem firstSignalEligibleIndex_scale (c : Decimal) (specification : StrategySpecification)
    (bars scaledBars : List MarketBar) :
    (CompiledStrategy.mk (specification.scale c)).firstSignalEligibleIndex scaledBars =
      (CompiledStrategy.mk specification).firstSignalEligibleIndex bars := by
  have hoperand (operand : Operand) : operandFirstEvaluableIndex (operand.scale c) =
      operandFirstEvaluableIndex operand := by
    cases operand <;> rfl
  simp only [CompiledStrategy.firstSignalEligibleIndex, conditionFirstEligibleIndex,
    StrategySpecification.scale, Condition.scale, hoperand]

/-- The signals of the scaled strategy on the scaled bars are the same. -/
theorem generateSignals_scale (hc : 0 < c) (hvalid : specification.Valid)
    (hscaled : (specification.scale c).Valid) (bars : List MarketBar) :
    (CompiledStrategy.mk (specification.scale c)).generateSignals
        (bars.map (MarketBar.scale c)) =
      (CompiledStrategy.mk specification).generateSignals bars := by
  rw [generateSignals_spec hscaled, generateSignals_spec hvalid, values_map,
    funext (signalsOn_scale hc specification)]

theorem MarketBar.Positive.scale (hc : 0 < c) {bar : MarketBar} (h : bar.Positive) :
    (bar.scale c).Positive where
  openPrice_pos := mul_pos hc h.openPrice_pos
  highPrice_pos := mul_pos hc h.highPrice_pos
  lowPrice_pos := mul_pos hc h.lowPrice_pos
  closePrice_pos := mul_pos hc h.closePrice_pos

/-- The run on the scaled bars, from the scaled cash. -/
theorem executeLongOnlySignals_scale (hc : 0 < c) {controls : RiskControls}
    (hcontrols : controls.Positive) (hbars : ∀ bar ∈ bars, bar.Positive)
    (hcash : 0 < startingCash) (signals : List Signal) :
    executeLongOnlySignals (bars.map (MarketBar.scale c)) signals (c * startingCash)
        controls.stopLossPercent controls.takeProfitPercent =
      (executeLongOnlySignals bars signals startingCash controls.stopLossPercent
        controls.takeProfitPercent).map (ExecutionResult.scale c) := by
  have hscaledCash : 0 < c * startingCash := mul_pos hc hcash
  by_cases hne : bars = []
  · subst hne
    simp only [executeLongOnlySignals, not_le.mpr hcash, not_le.mpr hscaledCash, List.map_nil]
    rfl
  · have hscaledBars : ∀ bar ∈ bars.map (MarketBar.scale c), bar.Positive := by
      intro bar hbar
      obtain ⟨original, horiginal, rfl⟩ := List.mem_map.mp hbar
      exact (hbars original horiginal).scale hc
    have hscaledNe : bars.map (MarketBar.scale c) ≠ [] := mt List.map_eq_nil_iff.mp hne
    rw [executeLongOnlySignals_eq hscaledCash hcontrols hscaledNe hscaledBars,
      executeLongOnlySignals_eq hcash hcontrols hne hbars, List.length_map,
      Book.run_scale hc controls bars signals startingCash bars.length le_rfl,
      Book.liquidate_scale, Book.result_scale]
    rfl

/-- Results do not depend on the currency unit: signals, times, quantities, reasons and
    percentages stay, and every amount of money is multiplied. -/
theorem backtest_scale (hc : 0 < c) (hvalid : validateStrategySemantics specification = .ok ())
    (hconsistent : ∀ bar ∈ bars, bar.Consistent) (hcash : 0 < startingCash)
    (power : Decimal → Decimal → Except PyError Decimal) :
    backtest power (specification.scale c) (bars.map (MarketBar.scale c)) (c * startingCash) =
      (backtest power specification bars startingCash).map (Backtest.scale c) := by
  have hscaled : validateStrategySemantics (specification.scale c) = .ok () := by
    rw [validateStrategySemantics_scale, hvalid]
  have hspecification := validateStrategySemantics_valid hvalid
  have hcontrols := riskControls_positive hspecification
  rw [backtest, backtest, compileStrategy_spec hvalid, compileStrategy_spec hscaled, ok_bind,
    ok_bind]
  dsimp only
  rw [firstSignalEligibleIndex_scale c specification bars]
  refine MappedRun.bind_same (generateSignals_scale hc hspecification
    (validateStrategySemantics_valid hscaled) bars) fun signals _ => ?_
  refine MappedRun.bind (executeLongOnlySignals_scale hc hcontrols
    (fun bar hbar => (hconsistent bar hbar).positive) hcash signals) fun execution _ => ?_
  refine MappedRun.bind (calculateMetrics_scale hc power bars ..) fun metrics _ => ?_
  exact MappedRun.bind (calculateBuyAndHoldEquityCurve_scale hc ..) fun _ _ => rfl

end Backtest

/-- Buy with the close above 10, sell with the close below it; a stop at ten percent. -/
def aboveTen : StrategySpecification :=
  { StrategySpecification.ofRules ⟨.price "close", .greaterThan, .constant 10⟩
      ⟨.price "close", .lessThan, .constant 10⟩ with stopLossPercent := some 10 }

/-- Bought at 11, stopped at 9.9. -/
def aboveTenBars : List MarketBar :=
  [dailyBar 0 10 12 9 11, dailyBar 1 11 12 10 12, dailyBar 2 12 12 8 9]

/-- In cents: a hundred times the prices, the threshold and the cash. -/
theorem backtest_scale_cents : ∃ shown,
    backtest wholePower aboveTen aboveTenBars 1000 = .ok shown ∧
    shown.execution.completedTrades.map (·.exitReason) = [.stopLoss] ∧
    backtest wholePower (aboveTen.scale 100) (aboveTenBars.map (MarketBar.scale 100))
        (100 * 1000) = .ok (shown.scale 100) := by
  obtain ⟨shown, hshown, hstopped⟩ : ∃ shown,
      backtest wholePower aboveTen aboveTenBars 1000 = .ok shown ∧
      shown.execution.completedTrades.map (·.exitReason) = [.stopLoss] :=
    exists_ok_of_any (by decide +kernel)
  refine ⟨shown, hshown, hstopped, ?_⟩
  rw [backtest_scale (by norm_num) rfl (by decide +kernel) (by norm_num) wholePower, hshown]
  rfl

end Backtesting
end TradingPlatform
