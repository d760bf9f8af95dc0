/-
  TradingPlatform.Schemas.PreviewResponse

  The response models of a preview, of `app/schemas/strategy.py`: their
  validation and their dumps.

  A response is read back from its own dump: `Recoverable` says which ones, and
  every list, optional field and literal comes back as it was written.
-/

import TradingPlatform.Backtesting.Models
import TradingPlatform.Schemas.Validation

namespace TradingPlatform
namespace Schemas

open Pydantic Backtesting

-- ============================================================================
-- Models
-- ============================================================================

/-- What the user reviews: the parsed strategy with its interpretation. -/
structure ParsedStrategyReview where
  specification : StrategySpecification
  defaultsApplied : List AppliedDefault
  assumptions : List StrategyAssumption
  requiresConfirmation : Bool
  originalText : String
  interpretation : String
deriving Repr

/-- `from_parsed_result` -/
def ParsedStrategyReview.fromParsedResult (result : ParsedStrategyResult)
    (interpretation : String) : ParsedStrategyReview where
  specification := result.specification
  defaultsApplied := result.defaultsApplied
  assumptions := result.assumptions
  requiresConfirmation := result.requiresConfirmation
  originalText := result.originalText
  interpretation := interpretation

/-- A point of the comparison chart. -/
structure EquityComparisonPoint where
  timestamp : Timestamp
  strategyValue : Decimal
  buyAndHoldValue : Decimal
deriving DecidableEq, Repr

/-- A point of the price chart. -/
structure PriceSeriesPoint where
  timestamp : Timestamp
  closePrice : Decimal
deriving DecidableEq, Repr

/-- A completed trade, as shown. -/
structure BacktestTradeResponse where
  signalTimestamp : Timestamp
  entryTimestamp : Timestamp
  entryPrice : Decimal
  quantity : Int
  exitSignalTimestamp : Option Timestamp
  exitTimestamp : Timestamp
  exitPrice : Decimal
  profitLoss : Decimal
  returnPercentage : Decimal
  exitReason : ExitReason
deriving DecidableEq, Repr

/-- The backtest of a preview, as shown. -/
structure BacktestPreviewResponse where
  symbol : String
  interval : String
  startDate : Timestamp
  endDate : Timestamp
  barCount : Int
  startingCash : Decimal
  endingValue : Decimal
  totalReturnPercent : Decimal
  cagrPercent : Option Decimal
  maxDrawdownPercent : Decimal
  tradeCount : Int
  winRatePercent : Decimal
  buyAndHoldReturnPercent : Decimal
  equityCurve : List EquityComparisonPoint
  priceSeries : List PriceSeriesPoint
  trades : List BacktestTradeResponse
deriving DecidableEq, Repr

/-- The document of a completed preview job. -/
structure StrategyPreviewResponse where
  parsedStrategy : ParsedStrategyReview
  backtest : BacktestPreviewResponse
deriving Repr

-- ============================================================================
-- Validation
-- ============================================================================

/-- The `Literal` of exit reasons. -/
def ExitReason.members : List (String × ExitReason) :=
  [.strategyExit, .stopLoss, .takeProfit, .finalLiquidation].map fun reason =>
    (reason.value, reason)

section Validation

variable (reading : Reading)

/-- A `Decimal`. -/
def decimal : Validator Decimal := converted reading.decimal

/-- A `datetime`. -/
def datetime : Validator Timestamp := converted reading.datetime

/-- `ParsedStrategyReview.model_validate` -/
def ParsedStrategyReview.modelValidate (json : Json) :
    Except ValidationError ParsedStrategyReview := do
  let entries ← fields ["specification", "defaults_applied", "assumptions",
    "requires_confirmation", "original_text", "interpretation"] json
  let specification ← required entries "specification"
    (StrategySpecification.modelValidate reading)
  let defaultsApplied ← required entries "defaults_applied"
    (list (AppliedDefault.modelValidate reading))
  let assumptions ← required entries "assumptions"
    (list (StrategyAssumption.modelValidate reading))
  let requiresConfirmation ← required entries "requires_confirmation" (converted reading.bool)
  let originalText ← required entries "original_text" string
  let interpretation ← required entries "interpretation" string
  return ⟨specification, defaultsApplied, assumptions, requiresConfirmation, originalText,
    interpretation⟩

/-- `EquityComparisonPoint.model_validate` -/
def EquityComparisonPoint.modelValidate (json : Json) :
    Except ValidationError EquityComparisonPoint := do
  let entries ← fields ["timestamp", "strategy_value", "buy_and_hold_value"] json
  let timestamp ← required entries "timestamp" (datetime reading)
  let strategyValue ← required entries "strategy_value" (decimal reading)
  let buyAndHoldValue ← required entries "buy_and_hold_value" (decimal reading)
  return ⟨timestamp, strategyValue, buyAndHoldValue⟩

/-- `PriceSeriesPoint.model_validate` -/
def PriceSeriesPoint.modelValidate (json : Json) :
    Except ValidationError PriceSeriesPoint := do
  let entries ← fields ["timestamp", "close_price"] json
  let timestamp ← required entries "timestamp" (datetime reading)
  let closePrice ← required entries "close_price" (decimal reading)
  return ⟨timestamp, closePrice⟩

/-- `BacktestTradeResponse.model_validate` -/
def BacktestTradeResponse.modelValidate (json : Json) :
    Except ValidationError BacktestTradeResponse := do
  let entries ← fields ["signal_timestamp", "entry_timestamp", "entry_price", "quantity",
    "exit_signal_timestamp", "exit_timestamp", "exit_price", "profit_loss",
    "return_percentage", "exit_reason"] json
  let signalTimestamp ← required entries "signal_timestamp" (datetime reading)
  let entryTimestamp ← required entries "entry_timestamp" (datetime reading)
  let entryPrice ← required entries "entry_price" (decimal reading)
  let quantity ← required entries "quantity" (converted reading.int)
  let exitSignalTimestamp ← required entries "exit_signal_timestamp"
    (nullable (datetime reading))
  let exitTimestamp ← required entries "exit_timestamp" (datetime reading)
  let exitPrice ← required entries "exit_price" (decimal reading)
  let profitLoss ← required entries "profit_loss" (decimal reading)
  let returnPercentage ← required entries "return_percentage" (decimal reading)
  let exitReason ← required entries "exit_reason" (literal ExitReason.members)
  return ⟨signalTimestamp, entryTimestamp, entryPrice, quantity, exitSignalTimestamp,
    exitTimestamp, exitPrice, profitLoss, returnPercentage, exitReason⟩

/-- `BacktestPreviewResponse.model_validate` -/
def BacktestPreviewResponse.modelValidate (json : Json) :
    Except ValidationError BacktestPreviewResponse := do
  let entries ← fields ["symbol", "interval", "start_date", "end_date", "bar_count",
    "starting_cash", "ending_value", "total_return_percent", "cagr_percent",
    "max_drawdown_percent", "trade_count", "win_rate_percent", "buy_and_hold_return_percent",
    "equity_curve", "price_series", "trades"] json
  let symbol ← required entries "symbol" string
  let interval ← required entries "interval" string
  let startDate ← required entries "start_date" (datetime reading)
  let endDate ← required entries "end_date" (datetime reading)
  let barCount ← required entries "bar_count" (converted reading.int)
  let startingCash ← required entries "starting_cash" (decimal reading)
  let endingValue ← required entries "ending_value" (decimal reading)
  let totalReturnPercent ← required entries "total_return_percent" (decimal reading)
  let cagrPercent ← required entries "cagr_percent" (nullable (decimal reading))
  let maxDrawdownPercent ← required entries "max_drawdown_percent" (decimal reading)
  let tradeCount ← required entries "trade_count" (converted reading.int)
  let winRatePercent ← required entries "win_rate_percent" (decimal reading)
  let buyAndHoldReturnPercent ← required entries "buy_and_hold_return_percent"
    (decimal reading)
  let equityCurve ← required entries "equity_curve"
    (list (EquityComparisonPoint.modelValidate reading))
  let priceSeries ← required entries "price_series"
    (list (PriceSeriesPoint.modelValidate reading))
  let trades ← required entries "trades" (list (BacktestTradeResponse.modelValidate reading))
  return ⟨symbol, interval, startDate, endDate, barCount, startingCash, endingValue,
    totalReturnPercent, cagrPercent, maxDrawdownPercent, tradeCount, winRatePercent,
    buyAndHoldReturnPercent, equityCurve, priceSeries, trades⟩

/-- `StrategyPreviewResponse.model_validate` -/
def StrategyPreviewResponse.modelValidate (json : Json) :
    Except ValidationError StrategyPreviewResponse := do
  let entries ← fields ["parsed_strategy", "backtest"] json
  let parsedStrategy ← required entries "parsed_strategy"
    (ParsedStrategyReview.modelValidate reading)
  let backtest ← required entries "backtest" (BacktestPreviewResponse.modelValidate reading)
  return ⟨parsedStrategy, backtest⟩

end Validation

-- ============================================================================
-- Documents
-- ============================================================================

section Documents

variable (rendering : Rendering)

/-- The review as `serialize_preview` writes it. -/
def ParsedStrategyReview.modelDump (review : ParsedStrategyReview) : Json :=
  .object [("specification", review.specification.modelDump rendering),
    ("defaults_applied", .array (review.defaultsApplied.map (·.modelDump rendering))),
    ("assumptions", .array (review.assumptions.map (·.modelDump rendering))),
    ("requires_confirmation", .bool review.requiresConfirmation),
    ("original_text", .str review.originalText),
    ("interpretation", .str review.interpretation)]

/-- A point, its decimals as texts. -/
def EquityComparisonPoint.modelDump (point : EquityComparisonPoint) : Json :=
  .object [("timestamp", .str (rendering.isoformat point.timestamp)),
    ("strategy_value", .str (rendering.str point.strategyValue)),
    ("buy_and_hold_value", .str (rendering.str point.buyAndHoldValue))]

/-- A point, its decimal as text. -/
def PriceSeriesPoint.modelDump (point : PriceSeriesPoint) : Json :=
  .object [("timestamp", .str (rendering.isoformat point.timestamp)),
    ("close_price", .str (rendering.str point.closePrice))]

/-- A trade, its decimals as texts. -/
def BacktestTradeResponse.modelDump (trade : BacktestTradeResponse) : Json :=
  .object [("signal_timestamp", .str (rendering.isoformat trade.signalTimestamp)),
    ("entry_timestamp", .str (rendering.isoformat trade.entryTimestamp)),
    ("entry_price", .str (rendering.str trade.entryPrice)),
    ("quantity", .int trade.quantity),
    ("exit_signal_timestamp",
      .ofOption (trade.exitSignalTimestamp.map fun t => .str (rendering.isoformat t))),
    ("exit_timestamp", .str (rendering.isoformat trade.exitTimestamp)),
    ("exit_price", .str (rendering.str trade.exitPrice)),
    ("profit_loss", .str (rendering.str trade.profitLoss)),
    ("return_percentage", .str (rendering.str trade.returnPercentage)),
    ("exit_reason", .str trade.exitReason.value)]

/-- A backtest, its decimals as texts. -/
def BacktestPreviewResponse.modelDump (backtest : BacktestPreviewResponse) : Json :=
  .object [("symbol", .str backtest.symbol), ("interval", .str backtest.interval),
    ("start_date", .str (rendering.isoformat backtest.startDate)),
    ("end_date", .str (rendering.isoformat backtest.endDate)),
    ("bar_count", .int backtest.barCount),
    ("starting_cash", .str (rendering.str backtest.startingCash)),
    ("ending_value", .str (rendering.str backtest.endingValue)),
    ("total_return_percent", .str (rendering.str backtest.totalReturnPercent)),
    ("cagr_percent", .ofOption (backtest.cagrPercent.map fun v => .str (rendering.str v))),
    ("max_drawdown_percent", .str (rendering.str backtest.maxDrawdownPercent)),
    ("trade_count", .int backtest.tradeCount),
    ("win_rate_percent", .str (rendering.str backtest.winRatePercent)),
    ("buy_and_hold_return_percent", .str (rendering.str backtest.buyAndHoldReturnPercent)),
    ("equity_curve", .array (backtest.equityCurve.map (·.modelDump rendering))),
    ("price_series", .array (backtest.priceSeries.map (·.modelDump rendering))),
    ("trades", .array (backtest.trades.map (·.modelDump rendering)))]

/-- The document of the response. -/
def StrategyPreviewResponse.modelDump (response : StrategyPreviewResponse) : Json :=
  .object [("parsed_strategy", response.parsedStrategy.modelDump rendering),
    ("backtest", response.backtest.modelDump rendering)]

end Documents

-- ============================================================================
-- A dump is read back
-- ============================================================================

/-- A review that its own dump validates as. -/
structure ParsedStrategyReview.Recoverable (review : ParsedStrategyReview) : Prop where
  specification : review.specification.SchemaValid
  defaultsApplied : ∀ item ∈ review.defaultsApplied, item.value.SelfReading
  assumptions : ∀ item ∈ review.assumptions, item.SelfReading

section ReadBack

variable {reading : Reading} {rendering : Rendering}

theorem decimal_str (h : reading.Inverts rendering) (v : Decimal) :
    decimal reading (.str (rendering.str v)) = .ok v :=
  converted_of_eq_some (h.decimal v)

theorem datetime_isoformat (h : reading.Inverts rendering) (t : Timestamp) :
    datetime reading (.str (rendering.isoformat t)) = .ok t :=
  converted_of_eq_some (h.datetime t)

theorem literal_exitReason (reason : ExitReason) :
    literal ExitReason.members (.str reason.value) = .ok reason := by
  cases reason <;> rfl

theorem ParsedStrategyReview.modelValidate_modelDump (h : reading.Inverts rendering)
    {review : ParsedStrategyReview} (hreview : review.Recoverable) :
    ParsedStrategyReview.modelValidate reading (review.modelDump rendering) = .ok review := by
  have hspecification := StrategySpecification.modelValidate_modelDump h hreview.specification
  have hdefaults : list (AppliedDefault.modelValidate reading)
      (.array (review.defaultsApplied.map (·.modelDump rendering))) = .ok review.defaultsApplied :=
    list_map fun item hitem =>
      AppliedDefault.modelValidate_modelDump (hreview.defaultsApplied item hitem)
  have hassumptions : list (StrategyAssumption.modelValidate reading)
      (.array (review.assumptions.map (·.modelDump rendering))) = .ok review.assumptions :=
    list_map fun item hitem =>
      StrategyAssumption.modelValidate_modelDump (hreview.assumptions item hitem)
  have hrequires := converted_of_eq_some (h.bool review.requiresConfirmation)
  simp [modelValidate, modelDump, required, fields, string, hspecification, hdefaults,
    hassumptions, hrequires, List.lookup_cons, bind, Except.bind, pure, Except.pure]

theorem EquityComparisonPoint.modelValidate_modelDump (h : reading.Inverts rendering)
    (point : EquityComparisonPoint) :
    EquityComparisonPoint.modelValidate reading (point.modelDump rendering) = .ok point := by
  simp [modelValidate, modelDump, required, fields, decimal_str h, datetime_isoformat h,
    List.lookup_cons, bind, Except.bind, pure, Except.pure]

theorem PriceSeriesPoint.modelValidate_modelDump (h : reading.Inverts rendering)
    (point : PriceSeriesPoint) :
    PriceSeriesPoint.modelValidate reading (point.modelDump rendering) = .ok point := by
  simp [modelValidate, modelDump, required, fields, decimal_str h, datetime_isoformat h,
    List.lookup_cons, bind, Except.bind, pure, Except.pure]

theorem BacktestTradeResponse.modelValidate_modelDump (h : reading.Inverts rendering)
    (trade : BacktestTradeResponse) :
    BacktestTradeResponse.modelValidate reading (trade.modelDump rendering) = .ok trade := by
  have hquantity := converted_of_eq_some (h.int trade.quantity)
  have hexitSignal : nullable (datetime reading) (.ofOption (trade.exitSignalTimestamp.map fun t =>
      .str (rendering.isoformat t))) = .ok trade.exitSignalTimestamp :=
    nullable_ofOption (fun _ _ => nofun) fun t _ => datetime_isoformat h t
  simp [modelValidate, modelDump, required, fields, decimal_str h, datetime_isoformat h,
    hquantity, hexitSignal, literal_exitReason, List.lookup_cons, bind, Except.bind, pure,
    Except.pure]

theorem BacktestPreviewResponse.modelValidate_modelDump (h : reading.Inverts rendering)
    (backtest : BacktestPreviewResponse) :
    BacktestPreviewResponse.modelValidate reading (backtest.modelDump rendering) =
      .ok backtest := by
  have hbarCount := converted_of_eq_some (h.int backtest.barCount)
  have htradeCount := converted_of_eq_some (h.int backtest.tradeCount)
  have hcagr : nullable (decimal reading) (.ofOption (backtest.cagrPercent.map fun v =>
      .str (rendering.str v))) = .ok backtest.cagrPercent :=
    nullable_ofOption (fun _ _ => nofun) fun v _ => decimal_str h v
  have hequity : list (EquityComparisonPoint.modelValidate reading)
      (.array (backtest.equityCurve.map (·.modelDump rendering))) = .ok backtest.equityCurve :=
    list_map fun point _ => EquityComparisonPoint.modelValidate_modelDump h point
  have hprices : list (PriceSeriesPoint.modelValidate reading)
      (.array (backtest.priceSeries.map (·.modelDump rendering))) = .ok backtest.priceSeries :=
    list_map fun point _ => PriceSeriesPoint.modelValidate_modelDump h point
  have htrades : list (BacktestTradeResponse.modelValidate reading)
      (.array (backtest.trades.map (·.modelDump rendering))) = .ok backtest.trades :=
    list_map fun trade _ => BacktestTradeResponse.modelValidate_modelDump h trade
  simp [modelValidate, modelDump, required, fields, string, decimal_str h,
    datetime_isoformat h, hbarCount, htradeCount, hcagr, hequity, hprices, htrades,
    List.lookup_cons, bind, Except.bind, pure, Except.pure]

/-- A response is what its own dump validates as. -/
theorem StrategyPreviewResponse.modelValidate_modelDump (h : reading.Inverts rendering)
    {response : StrategyPreviewResponse} (hparsed : response.parsedStrategy.Recoverable) :
    StrategyPreviewResponse.modelValidate reading (response.modelDump rendering) =
      .ok response := by
  have hreview := ParsedStrategyReview.modelValidate_modelDump h hparsed
  have hbacktest := BacktestPreviewResponse.modelValidate_modelDump h response.backtest
  simp [modelValidate, modelDump, required, fields, hreview, hbacktest, List.lookup_cons, bind,
    Except.bind, pure, Except.pure]

end ReadBack

end Schemas
end TradingPlatform
