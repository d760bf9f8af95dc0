/-
  TradingPlatform.Backtesting.SmaCrossover

  The rolling averages of `app/backtesting/sma_crossover.py`, and its crossover
  signals.
-/

import TradingPlatform.Backtesting.Models

namespace TradingPlatform
namespace Backtesting

open Python

/-- One iteration of the loop in `simple_moving_averages`: the rolling total gains the
    new close and, once the window is full, loses the close that left it. -/
def simpleMovingAverageStep (bars : List MarketBar) (window : Nat)
    (loop : Decimal × List (Option Decimal)) (item : MarketBar × Nat) :
    Except PyError (Decimal × List (Option Decimal)) := do
  let (bar, index) := item
  let rollingTotal := loop.1 + bar.closePrice
  let rollingTotal ←
    if index ≥ window then do
      let oldest ← getItem bars (index - window)
      pure (rollingTotal - oldest.closePrice)
    else
      pure rollingTotal
  let average ←
    if index + 1 ≥ window then do
      let average ← divide rollingTotal window
      pure (some average)
    else
      pure none
  return (rollingTotal, loop.2 ++ [average])

/-- Trailing close-price averages; `None` until the window is full. -/
def simpleMovingAverages (bars : List MarketBar) (window : Int) :
    Except PyError (List (Option Decimal)) :=
  if window ≤ 0 then
    .error (.valueError "SMA window must be positive")
  else do
    let loop ← bars.zipIdx.foldlM (simpleMovingAverageStep bars window.toNat) (0, [])
    return loop.2

/-- One iteration of the loop in `generate_sma_crossover_signals`. -/
def smaCrossoverSignalStep (bars : List MarketBar) (shortSmas longSmas : List (Option Decimal))
    (signals : List Signal) (index : Nat) : Except PyError (List Signal) := do
  let previousShort ← getItem shortSmas (index - 1)
  let previousLong ← getItem longSmas (index - 1)
  let currentShort ← getItem shortSmas index
  let currentLong ← getItem longSmas index
  match previousShort, previousLong, currentShort, currentLong with
  | some previousShort, some previousLong, some currentShort, some currentLong =>
      if previousShort ≤ previousLong ∧ currentShort > currentLong then do
        let bar ← getItem bars index
        return signals ++ [⟨bar.timestamp, .buy⟩]
      else if previousShort ≥ previousLong ∧ currentShort < currentLong then do
        let bar ← getItem bars index
        return signals ++ [⟨bar.timestamp, .sell⟩]
      else
        return signals
  | _, _, _, _ => return signals

/-- One signal for each exact close-price SMA crossover. -/
def generateSmaCrossoverSignals (bars : List MarketBar) (shortWindow longWindow : Int) :
    Except PyError (List Signal) :=
  if shortWindow ≤ 0 ∨ longWindow ≤ 0 then
    .error (.valueError "SMA windows must be positive")
  else if shortWindow ≥ longWindow then
    .error (.valueError "short_window must be less than long_window")
  else do
    let shortSmas ← simpleMovingAverages bars shortWindow
    let longSmas ← simpleMovingAverages bars longWindow
    (List.range' 1 (bars.length - 1)).foldlM (smaCrossoverSignalStep bars shortSmas longSmas) []

end Backtesting
end TradingPlatform
