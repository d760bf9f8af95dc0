/-
  TradingPlatform.Services.StrategyPreview

  `create_specification_preview` of `app/services/strategy_preview.py`: compile,
  load, execute, measure.
-/

import TradingPlatform.Backtesting.MarketData
import TradingPlatform.Backtesting.Metrics
import TradingPlatform.Backtesting.StrategyCompiler
import TradingPlatform.Backtesting.Engine
import TradingPlatform.Services.StrategyInterpretation

namespace TradingPlatform
namespace Services

open Python Schemas Backtesting

/-- `STARTING_CASH` -/
def startingCash : Decimal := 10000

/-- What `create_specification_preview` returns. -/
structure StrategyPreview where
  parsedStrategy : ParsedStrategyResult
  interpretation : String
  execution : ExecutionResult
  metrics : BacktestMetrics
  barCount : Nat
  startTimestamp : Timestamp
  endTimestamp : Timestamp
  bars : List MarketBar
  comparisonStartIndex : Int
  buyAndHoldEquityCurve : List EquityPoint

/-- The one error of a preview over too few bars. -/
def marketDataUnavailable : PyError :=
  .marketDataUnavailableError
    "Not enough SPY daily market data is available for this strategy."

/-- `create_specification_preview` -/
def createSpecificationPreview (power : Decimal → Decimal → Except PyError Decimal)
    (rendering : Rendering) (rows : List MarketDataRow)
    (specification : StrategySpecification) (parsedStrategy : ParsedStrategyResult) :
    Except PyError StrategyPreview := do
  let compiled ← compileStrategy specification
  let bars := loadMarketBars rows specification.symbol specification.interval
  let eligibleIndex := compiled.firstSignalEligibleIndex bars
  if bars.isEmpty ∨ eligibleIndex ≥ bars.length then
    throw marketDataUnavailable
  let signals ← compiled.generateSignals bars
  let execution ← executeLongOnlySignals bars signals startingCash
    specification.stopLossPercent specification.takeProfitPercent
  let metrics ← calculateMetrics power bars execution.equityCurve execution.completedTrades
    startingCash execution.finalPortfolioValue eligibleIndex
  let buyAndHoldEquityCurve ← calculateBuyAndHoldEquityCurve bars startingCash eligibleIndex
  -- the comparison chart begins at the shared allocation point
  let eligibleBar ← getItem bars eligibleIndex.toNat
  let buyAndHoldEquityCurve ←
    setItem buyAndHoldEquityCurve 0 ⟨eligibleBar.timestamp, startingCash⟩
  let firstBar ← getItem bars 0
  let lastBar ← getLast bars
  return {
    parsedStrategy := parsedStrategy
    interpretation := interpretStrategy rendering parsedStrategy
    execution := execution
    metrics := metrics
    barCount := bars.length
    startTimestamp := firstBar.timestamp
    endTimestamp := lastBar.timestamp
    bars := bars
    comparisonStartIndex := eligibleIndex
    buyAndHoldEquityCurve := buyAndHoldEquityCurve }

/-- `create_preview`: the preview of a parsed strategy. -/
def createPreview (power : Decimal → Decimal → Except PyError Decimal)
    (rendering : Rendering) (rows : List MarketDataRow)
    (parsedStrategy : ParsedStrategyResult) : Except PyError StrategyPreview :=
  createSpecificationPreview power rendering rows parsedStrategy.specification parsedStrategy

/-- A power that is exact on whole exponents. -/
def wholePower (base exponent : Decimal) : Except PyError Decimal :=
  .ok (if exponent.den = 1 then base ^ exponent.num else 1)

theorem wholePower_total : PowerTotal wholePower := fun _ _ _ => ⟨_, rfl⟩

/-- Texts for worked examples. -/
def plainRendering : Rendering where
  str value := toString value.num ++ "/" ++ toString value.den
  general value := toString value.num ++ "/" ++ toString value.den
  isoformat timestamp := toString timestamp
  strNested _ := "[]"

-- ============================================================================
-- The serialized preview
-- ============================================================================

/-- A point of the strategy with that of the benchmark. -/
def EquityPoint.serialize (rendering : Rendering) (pair : EquityPoint × EquityPoint) : Json :=
  let (point, benchmark) := pair
  .object [("timestamp", .str (rendering.isoformat point.timestamp)),
    ("strategy_value", .str (rendering.str point.equity)),
    ("buy_and_hold_value", .str (rendering.str benchmark.equity))]

/-- A bar as a point of the price chart. -/
def MarketBar.serialize (rendering : Rendering) (bar : MarketBar) : Json :=
  .object [("timestamp", .str (rendering.isoformat bar.timestamp)),
    ("close_price", .str (rendering.str bar.closePrice))]

/-- A trade, its decimals as texts. -/
def CompletedTrade.serialize (rendering : Rendering) (trade : CompletedTrade) : Json :=
  .object [("signal_timestamp", .str (rendering.isoformat trade.signalTimestamp)),
    ("entry_timestamp", .str (rendering.isoformat trade.entryTimestamp)),
    ("entry_price", .str (rendering.str trade.entryPrice)),
    ("quantity", .int trade.quantity),
    ("exit_signal_timestamp",
      .ofOption (trade.exitSignalTimestamp.map fun t => .str (rendering.isoformat t))),
    ("exit_timestamp", .str (rendering.isoformat trade.exitTimestamp)),
    ("exit_price", .str (rendering.str trade.exitPrice)),
    ("profit_loss", .str (rendering.str trade.profitLoss)),
    ("return_percentage", .str (rendering.str trade.returnPercentage)),
    ("exit_reason", .str trade.exitReason.value)]

/-- `serialize_preview` of `app/services/preview_job_service.py`. -/
def serializePreview (rendering : Rendering) (parsed : ParsedStrategyResult)
    (preview : StrategyPreview) : Except PyError Json := do
  let pairs ← zipStrict
    (preview.execution.equityCurve.drop preview.comparisonStartIndex.toNat)
    preview.buyAndHoldEquityCurve
  return .object [
    ("parsed_strategy", .object [
      ("specification", parsed.specification.modelDump rendering),
      ("defaults_applied", .array (parsed.defaultsApplied.map (·.modelDump rendering))),
      ("assumptions", .array (parsed.assumptions.map (·.modelDump rendering))),
      ("requires_confirmation", .bool parsed.requiresConfirmation),
      ("original_text", .str parsed.originalText),
      ("interpretation", .str preview.interpretation)]),
    ("backtest", .object [
      ("symbol", .str parsed.specification.symbol),
      ("interval", .str parsed.specification.interval),
      ("start_date", .str (rendering.isoformat preview.startTimestamp)),
      ("end_date", .str (rendering.isoformat preview.endTimestamp)),
      ("bar_count", .int preview.barCount),
      ("starting_cash", .str (rendering.str startingCash)),
      ("ending_value", .str (rendering.str preview.execution.finalPortfolioValue)),
      ("total_return_percent", .str (rendering.str preview.metrics.totalReturnPercentage)),
      ("cagr_percent", .ofOption (preview.metrics.cagrPercentage.map fun v =>
        .str (rendering.str v))),
      ("max_drawdown_percent",
        .str (rendering.str preview.metrics.maximumDrawdownPercentage)),
      ("trade_count", .int preview.execution.completedTrades.length),
      ("win_rate_percent", .str (rendering.str preview.metrics.winRatePercentage)),
      ("buy_and_hold_return_percent",
        .str (rendering.str preview.metrics.buyAndHoldReturnPercentage)),
      ("equity_curve", .array (pairs.map (EquityPoint.serialize rendering))),
      ("price_series", .array (preview.bars.map (MarketBar.serialize rendering))),
      ("trades",
        .array (preview.execution.completedTrades.map (CompletedTrade.serialize rendering)))])]

end Services
end TradingPlatform
