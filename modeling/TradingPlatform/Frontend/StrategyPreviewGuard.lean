/-
  TradingPlatform.Frontend.StrategyPreviewGuard

  `isStrategyPreview` of `lib/strategies/api.ts`, and which dumped responses it
  accepts.

  The guard checks the JSON types of the fields it names, and that every number
  among them is finite once it is read as a double: a dumped response passes
  exactly if none of its magnitudes overflows.
-/

import TradingPlatform.Core.JavaScript
import TradingPlatform.Schemas.PreviewResponse

namespace TradingPlatform
namespace Frontend

open JavaScript Schemas Backtesting

-- ============================================================================
-- The guard
-- ============================================================================

/-- `typeof value === "object" && value !== null && !Array.isArray(value)` -/
def isStrategyJson : Json → Bool
  | .object _ => true
  | _ => false

section Guard

variable (number : String → Option Decimal)

/-- A finite number, or a text that `Number` reads as one. -/
def numberLike (item : Json) : Bool :=
  isNumber item && isFinite item ||
    match item with
    | .str text => trim text ≠ "" && (number text).any fun v => Double.Finite v
    | _ => false

/-- The exit reasons that the guard accepts. -/
def exitReasons : List String :=
  ["strategy_exit", "stop_loss", "take_profit", "final_liquidation"]

/-- `typeof item === "string" && exitReasons.has(item)` -/
def isExitReason : Json → Bool
  | .str text => exitReasons.contains text
  | _ => false

/-- `item === null || typeof item === "string"` -/
def isNullableString : Json → Bool
  | .null | .str _ => true
  | _ => false

/-- A point of the comparison chart. -/
def isEquityPoint (item : Json) : Bool :=
  isStrategyJson item && property item "timestamp" isString &&
    property item "strategy_value" (numberLike number) &&
    property item "buy_and_hold_value" (numberLike number)

/-- A point of the price chart. -/
def isPricePoint (item : Json) : Bool :=
  isStrategyJson item && property item "timestamp" isString &&
    property item "close_price" (numberLike number)

/-- A completed trade. -/
def isTrade (item : Json) : Bool :=
  isStrategyJson item && property item "signal_timestamp" isString &&
    property item "entry_timestamp" isString &&
    property item "entry_price" (numberLike number) && property item "quantity" isInteger &&
    property item "exit_signal_timestamp" isNullableString &&
    property item "exit_timestamp" isString &&
    property item "exit_price" (numberLike number) &&
    property item "profit_loss" (numberLike number) &&
    property item "return_percentage" (numberLike number) &&
    property item "exit_reason" isExitReason

/-- The checks on `value.parsed_strategy`. -/
def isParsedStrategy (parsed : Json) : Bool :=
  isStrategyJson parsed && property parsed "specification" isStrategyJson &&
    property parsed "defaults_applied" isArray && property parsed "assumptions" isArray &&
    property parsed "requires_confirmation" isBoolean &&
    property parsed "original_text" isString && property parsed "interpretation" isString

/-- The checks on `value.backtest`. -/
def isBacktest (backtest : Json) : Bool :=
  isStrategyJson backtest && property backtest "symbol" isString &&
    property backtest "interval" isString && property backtest "start_date" isString &&
    property backtest "end_date" isString && property backtest "bar_count" isNumber &&
    property backtest "trade_count" isNumber &&
    property backtest "equity_curve" (everyItem (isEquityPoint number)) &&
    property backtest "price_series" (everyItem (isPricePoint number)) &&
    property backtest "trades" (everyItem (isTrade number))

/-- The guard of a preview. -/
def isStrategyPreview (value : Json) : Bool :=
  isStrategyJson value && property value "parsed_strategy" isParsedStrategy &&
    property value "backtest" (isBacktest number)

end Guard

end Frontend

-- ============================================================================
-- Magnitudes
-- ============================================================================

namespace Schemas

/-! The numbers of a response that the guard reads. -/

/-- The numbers of a point. -/
def EquityComparisonPoint.magnitudes (point : EquityComparisonPoint) : List Decimal :=
  [point.strategyValue, point.buyAndHoldValue]

/-- The numbers of a trade. -/
def BacktestTradeResponse.magnitudes (trade : BacktestTradeResponse) : List Decimal :=
  [trade.entryPrice, trade.quantity, trade.exitPrice, trade.profitLoss,
    trade.returnPercentage]

/-- The numbers that the page's guard reads as doubles. -/
def BacktestPreviewResponse.magnitudes (backtest : BacktestPreviewResponse) : List Decimal :=
  backtest.equityCurve.flatMap (·.magnitudes) ++ backtest.priceSeries.map (·.closePrice) ++
    backtest.trades.flatMap (·.magnitudes)

end Schemas

-- ============================================================================
-- Dumped responses
-- ============================================================================

namespace Frontend

open JavaScript Schemas Backtesting

section Dumped

variable {number : String → Option Decimal} {rendering : Rendering}

theorem numberLike_str (h : Reads number rendering) (v : Decimal) :
    numberLike number (.str (rendering.str v)) = decide (Double.Finite v) := by
  simp [numberLike, isNumber, h.number, h.notBlank]

theorem isExitReason_value (reason : ExitReason) :
    isExitReason (.str reason.value) = true := by
  cases reason <;> rfl

theorem isEquityPoint_modelDump (h : Reads number rendering) (point : EquityComparisonPoint) :
    isEquityPoint number (point.modelDump rendering) =
      point.magnitudes.all fun v => Double.Finite v := by
  simp [isEquityPoint, EquityComparisonPoint.modelDump, isStrategyJson, property, isString,
    numberLike_str h, EquityComparisonPoint.magnitudes, List.lookup_cons]

theorem isPricePoint_modelDump (h : Reads number rendering) (point : PriceSeriesPoint) :
    isPricePoint number (point.modelDump rendering) = decide (Double.Finite point.closePrice) := by
  simp [isPricePoint, PriceSeriesPoint.modelDump, isStrategyJson, property, isString,
    numberLike_str h, List.lookup_cons]

theorem isTrade_modelDump (h : Reads number rendering) (trade : BacktestTradeResponse) :
    isTrade number (trade.modelDump rendering) =
      trade.magnitudes.all fun v => Double.Finite v := by
  have hexitSignal : isNullableString (.ofOption (trade.exitSignalTimestamp.map fun t =>
      .str (rendering.isoformat t))) = true := by
    cases trade.exitSignalTimestamp <;> rfl
  simp [isTrade, BacktestTradeResponse.modelDump, isStrategyJson, property, isString,
    numberLike_str h, isInteger_int, hexitSignal, isExitReason_value,
    BacktestTradeResponse.magnitudes, List.lookup_cons, Bool.and_assoc]

theorem isParsedStrategy_modelDump (rendering : Rendering) (review : ParsedStrategyReview) :
    isParsedStrategy (review.modelDump rendering) = true := by
  simp [isParsedStrategy, ParsedStrategyReview.modelDump, isStrategyJson, property, isString,
    isBoolean, isArray, List.lookup_cons, StrategySpecification.modelDump]

theorem isBacktest_modelDump (h : Reads number rendering) (backtest : BacktestPreviewResponse) :
    isBacktest number (backtest.modelDump rendering) =
      backtest.magnitudes.all fun v => Double.Finite v := by
  simp [isBacktest, BacktestPreviewResponse.modelDump, isStrategyJson, property, isString,
    isNumber, everyItem, List.lookup_cons, isEquityPoint_modelDump h, isPricePoint_modelDump h,
    isTrade_modelDump h, BacktestPreviewResponse.magnitudes, List.all_map, List.all_append,
    List.all_flatMap, Function.comp_def, Bool.and_assoc]

/-- A dumped response is accepted exactly if no magnitude in it overflows a double. -/
theorem isStrategyPreview_modelDump (h : Reads number rendering)
    (response : StrategyPreviewResponse) :
    isStrategyPreview number (response.modelDump rendering) = true ↔
      ∀ v ∈ response.backtest.magnitudes, |v| < Double.overflow := by
  have hchecks : isStrategyPreview number (response.modelDump rendering) =
      response.backtest.magnitudes.all fun v => Double.Finite v := by
    simp [isStrategyPreview, StrategyPreviewResponse.modelDump, isStrategyJson, property,
      List.lookup_cons, isParsedStrategy_modelDump, isBacktest_modelDump h]
  rw [hchecks, List.all_eq_true]
  simp only [decide_eq_true_eq, Double.finite_iff]

end Dumped

end Frontend
end TradingPlatform
