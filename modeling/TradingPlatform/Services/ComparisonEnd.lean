/-
  TradingPlatform.Services.ComparisonEnd

  The last point of the comparison chart.

  The summary and the chart compute the benchmark separately, and the chart
  overwrites its first point with the starting cash.  Where the strategy becomes
  eligible only at the last bar that point is also the last, and the chart ends
  at the starting cash while the summary reports the return of that bar.
-/

import TradingPlatform.Services.PreviewRuns

namespace TradingPlatform
namespace Services

open Python Schemas Backtesting

section Preview

variable {specification : StrategySpecification} {bars : List MarketBar}

end Preview

-- ============================================================================
-- Eligible at the last bar only
-- ============================================================================

end Services
end TradingPlatform
