/-
  TradingPlatform.Backtesting.Models

  The frozen dataclasses of `app/backtesting/models.py`, and the price
  conditions that the `market_data` table guarantees for every stored bar.
-/

import TradingPlatform.Core.Python

namespace TradingPlatform
namespace Backtesting

/-- One OHLCV bar. -/
structure MarketBar where
  timestamp : Timestamp
  openPrice : Decimal
  highPrice : Decimal
  lowPrice : Decimal
  closePrice : Decimal
  volume : Int
deriving DecidableEq, Repr

/-- What a signal asks for. -/
inductive SignalType where
  | buy
  | sell
deriving DecidableEq, Repr

/-- Why a position was closed. -/
inductive ExitReason where
  | strategyExit
  | stopLoss
  | takeProfit
  | finalLiquidation
deriving DecidableEq, Repr

/-- The `StrEnum` value of an exit reason. -/
def ExitReason.value : ExitReason → String
  | .strategyExit => "strategy_exit"
  | .stopLoss => "stop_loss"
  | .takeProfit => "take_profit"
  | .finalLiquidation => "final_liquidation"

/-- A signal, raised at the close of a bar. -/
structure Signal where
  timestamp : Timestamp
  signalType : SignalType
deriving DecidableEq, Repr

/-- A position from its entry to its exit; an exit by price has no signal. -/
structure CompletedTrade where
  signalTimestamp : Timestamp
  entryTimestamp : Timestamp
  entryPrice : Decimal
  quantity : Int
  exitSignalTimestamp : Option Timestamp
  exitTimestamp : Timestamp
  exitPrice : Decimal
  profitLoss : Decimal
  returnPercentage : Decimal
  exitReason : ExitReason
deriving DecidableEq, Repr

/-- The worth of the portfolio at the close of a bar. -/
structure EquityPoint where
  timestamp : Timestamp
  equity : Decimal
deriving DecidableEq, Repr

/-- What `execute_long_only_signals` returns. -/
structure ExecutionResult where
  finalPortfolioValue : Decimal
  totalRealizedProfitLoss : Decimal
  completedTrades : List CompletedTrade
  equityCurve : List EquityPoint
  ignoredSignals : List Signal
deriving DecidableEq, Repr

/-- A daily bar of a worked example: its day number and its four prices. -/
def dailyBar (day : Int) (openPrice highPrice lowPrice closePrice : Decimal) : MarketBar where
  timestamp := day * 86400000000
  openPrice := openPrice
  highPrice := highPrice
  lowPrice := lowPrice
  closePrice := closePrice
  volume := 1

/-- What `calculate_metrics` returns. -/
structure BacktestMetrics where
  totalReturnPercentage : Decimal
  buyAndHoldReturnPercentage : Decimal
  buyAndHoldStartTimestamp : Timestamp
  buyAndHoldStartPrice : Decimal
  buyAndHoldEndPrice : Decimal
  winRatePercentage : Decimal
  maximumDrawdownPercentage : Decimal
  cagrPercentage : Option Decimal
deriving DecidableEq, Repr

-- ============================================================================
-- Price conditions
-- ============================================================================

/-- All four prices of the bar are positive. -/
structure MarketBar.Positive (bar : MarketBar) : Prop where
  openPrice_pos : 0 < bar.openPrice
  highPrice_pos : 0 < bar.highPrice
  lowPrice_pos : 0 < bar.lowPrice
  closePrice_pos : 0 < bar.closePrice

/-- The price checks of the `market_data` table: positive prices, with the open
    and the close inside the low–high range. -/
structure MarketBar.Consistent (bar : MarketBar) : Prop where
  lowPrice_pos : 0 < bar.lowPrice
  low_le_open : bar.lowPrice ≤ bar.openPrice
  low_le_close : bar.lowPrice ≤ bar.closePrice
  open_le_high : bar.openPrice ≤ bar.highPrice
  close_le_high : bar.closePrice ≤ bar.highPrice

theorem MarketBar.Consistent.positive {bar : MarketBar} (h : bar.Consistent) :
    bar.Positive where
  openPrice_pos := lt_of_lt_of_le h.lowPrice_pos h.low_le_open
  highPrice_pos := lt_of_lt_of_le h.lowPrice_pos (h.low_le_open.trans h.open_le_high)
  lowPrice_pos := h.lowPrice_pos
  closePrice_pos := lt_of_lt_of_le h.lowPrice_pos h.low_le_close

instance (bar : MarketBar) : Decidable bar.Positive :=
  decidable_of_iff
    (0 < bar.openPrice ∧ 0 < bar.highPrice ∧ 0 < bar.lowPrice ∧ 0 < bar.closePrice)
    ⟨fun ⟨h₁, h₂, h₃, h₄⟩ => ⟨h₁, h₂, h₃, h₄⟩, fun ⟨h₁, h₂, h₃, h₄⟩ => ⟨h₁, h₂, h₃, h₄⟩⟩

instance (bar : MarketBar) : Decidable bar.Consistent :=
  decidable_of_iff
    (0 < bar.lowPrice ∧ bar.lowPrice ≤ bar.openPrice ∧ bar.lowPrice ≤ bar.closePrice ∧
      bar.openPrice ≤ bar.highPrice ∧ bar.closePrice ≤ bar.highPrice)
    ⟨fun ⟨h₁, h₂, h₃, h₄, h₅⟩ => ⟨h₁, h₂, h₃, h₄, h₅⟩,
     fun ⟨h₁, h₂, h₃, h₄, h₅⟩ => ⟨h₁, h₂, h₃, h₄, h₅⟩⟩

end Backtesting
end TradingPlatform
