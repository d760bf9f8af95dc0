/-
  TradingPlatform.Backtesting.Engine

  The execution engine of `app/backtesting/engine.py`, function by function.

  The local variables of `execute_long_only_signals` are the fields of
  `LoopState`; the six position variables stay separate optional fields, as in
  the source, so nothing here says that they are set together.  Python's
  `ignored_signals.append` inside `execute_buy` and `execute_sell` is the list
  returned as their last component.
-/

import TradingPlatform.Backtesting.Models

namespace TradingPlatform
namespace Backtesting

open Python

-- ============================================================================
-- Closing and opening positions
-- ============================================================================

/-- `validate_risk_control`: a control is absent or positive. -/
def validateRiskControl (value : Option Decimal) (fieldName : String) :
    Except PyError Unit :=
  match value with
  | none => .ok ()
  | some v =>
      if v ≤ 0 then .error (.valueError (fieldName ++ " must be finite and positive"))
      else .ok ()

/-- The stop and take-profit prices of a position entered at `entryPrice`. -/
def calculateRiskLevels (entryPrice : Decimal)
    (stopLossPercent takeProfitPercent : Option Decimal) :
    Option Decimal × Option Decimal :=
  (stopLossPercent.map fun percent => entryPrice * (1 - percent / 100),
   takeProfitPercent.map fun percent => entryPrice * (1 + percent / 100))

/-- `close_position`: the cash after the exit, and the completed trade. -/
def closePosition (bar : MarketBar) (exitPrice : Decimal) (exitReason : ExitReason)
    (cash : Decimal) (quantity : Int) (entryPrice : Option Decimal)
    (entryTimestamp entrySignalTimestamp : Option Timestamp)
    (exitSignalTimestamp : Option Timestamp) :
    Except PyError (Decimal × CompletedTrade) :=
  if quantity ≤ 0 then
    .error (.runtimeError "cannot close a flat position")
  else
    match entryPrice, entryTimestamp, entrySignalTimestamp with
    | some entryPrice, some entryTimestamp, some entrySignalTimestamp => do
        let proceeds := quantity * exitPrice
        let cost := quantity * entryPrice
        let profitLoss := proceeds - cost
        let ratio ← divide profitLoss cost
        return (cash + proceeds,
          { signalTimestamp := entrySignalTimestamp
            entryTimestamp := entryTimestamp
            entryPrice := entryPrice
            quantity := quantity
            exitSignalTimestamp := exitSignalTimestamp
            exitTimestamp := bar.timestamp
            exitPrice := exitPrice
            profitLoss := profitLoss
            returnPercentage := ratio * 100
            exitReason := exitReason })
    | _, _, _ => .error (.runtimeError "open position is missing entry details")

/-- `execute_buy`: a signal is ignored while invested, or where no whole share is affordable. -/
def executeBuy (signal : Signal) (bar : MarketBar) (cash : Decimal) (quantity : Int)
    (entryPrice : Option Decimal) (entryTimestamp entrySignalTimestamp : Option Timestamp)
    (ignoredSignals : List Signal) :
    Except PyError (Decimal × Int × Option Decimal × Option Timestamp × Option Timestamp ×
      List Signal) :=
  if quantity > 0 then
    .ok (cash, quantity, entryPrice, entryTimestamp, entrySignalTimestamp,
      ignoredSignals ++ [signal])
  else do
    let sharesToBuy ← floorDivide cash bar.openPrice
    if sharesToBuy = 0 then
      return (cash, quantity, entryPrice, entryTimestamp, entrySignalTimestamp,
        ignoredSignals ++ [signal])
    else
      return (cash - sharesToBuy * bar.openPrice, sharesToBuy, some bar.openPrice,
        some bar.timestamp, some signal.timestamp, ignoredSignals)

/-- `execute_sell`: a signal is ignored while flat. -/
def executeSell (signal : Signal) (bar : MarketBar) (cash : Decimal) (quantity : Int)
    (entryPrice : Option Decimal) (entryTimestamp entrySignalTimestamp : Option Timestamp)
    (ignoredSignals : List Signal) :
    Except PyError (Decimal × Int × Option CompletedTrade × List Signal) :=
  if quantity = 0 then
    .ok (cash, quantity, none, ignoredSignals ++ [signal])
  else
    match entryPrice, entryTimestamp, entrySignalTimestamp with
    | some entryPrice, some entryTimestamp, some entrySignalTimestamp => do
        let proceeds := quantity * bar.openPrice
        let profitLoss := proceeds - quantity * entryPrice
        let ratio ← divide profitLoss (quantity * entryPrice)
        return (cash + proceeds, 0,
          some
            { signalTimestamp := entrySignalTimestamp
              entryTimestamp := entryTimestamp
              entryPrice := entryPrice
              quantity := quantity
              exitSignalTimestamp := some signal.timestamp
              exitTimestamp := bar.timestamp
              exitPrice := bar.openPrice
              profitLoss := profitLoss
              returnPercentage := ratio * 100
              exitReason := .strategyExit },
          ignoredSignals)
    | _, _, _ => .error (.runtimeError "open position is missing entry details")

-- ============================================================================
-- Risk exits
-- ============================================================================

/-- `entry_bar_index is None or current_bar_index <= entry_bar_index`: the entry
    bar itself cannot trigger a risk exit. -/
def notAfterEntry (entryBarIndex : Option Nat) (currentBarIndex : Nat) : Bool :=
  match entryBarIndex with
  | none => true
  | some entryBarIndex => currentBarIndex ≤ entryBarIndex

/-- `evaluate_opening_risk_exit`: a bar that opens beyond a level exits at its open, the stop first.
    -/
def evaluateOpeningRiskExit (bar : MarketBar) (quantity : Int)
    (entryBarIndex : Option Nat) (currentBarIndex : Nat)
    (stopPrice takeProfitPrice : Option Decimal) : Option (Decimal × ExitReason) :=
  if quantity = 0 ∨ notAfterEntry entryBarIndex currentBarIndex then
    none
  else if stopPrice.any (bar.openPrice ≤ ·) then
    some (bar.openPrice, .stopLoss)
  else if takeProfitPrice.any (bar.openPrice ≥ ·) then
    some (bar.openPrice, .takeProfit)
  else
    none

/-- `evaluate_intraday_risk_exit`: a bar that reaches a level exits at the level, the stop first. -/
def evaluateIntradayRiskExit (bar : MarketBar) (quantity : Int)
    (entryBarIndex : Option Nat) (currentBarIndex : Nat)
    (stopPrice takeProfitPrice : Option Decimal) : Option (Decimal × ExitReason) :=
  if quantity = 0 ∨ notAfterEntry entryBarIndex currentBarIndex then
    none
  else
    match stopPrice.filter (bar.lowPrice ≤ ·) with
    | some stopPrice => some (stopPrice, .stopLoss)
    | none =>
        (takeProfitPrice.filter (bar.highPrice ≥ ·)).map (·, .takeProfit)

-- ============================================================================
-- The loop over bars
-- ============================================================================

/-- The local variables of `execute_long_only_signals`. -/
structure LoopState where
  cash : Decimal
  quantity : Int
  entryPrice : Option Decimal
  entryTimestamp : Option Timestamp
  entrySignalTimestamp : Option Timestamp
  entryBarIndex : Option Nat
  stopPrice : Option Decimal
  takeProfitPrice : Option Decimal
  completedTrades : List CompletedTrade
  equityCurve : List EquityPoint
  ignoredSignals : List Signal
deriving DecidableEq, Repr

/-- The variables of the loop before the first bar. -/
def LoopState.initial (startingCash : Decimal) : LoopState where
  cash := startingCash
  quantity := 0
  entryPrice := none
  entryTimestamp := none
  entrySignalTimestamp := none
  entryBarIndex := none
  stopPrice := none
  takeProfitPrice := none
  completedTrades := []
  equityCurve := []
  ignoredSignals := []

/-- The assignment of `cleared_position()` to the six position variables. -/
def LoopState.clearedPosition (st : LoopState) : LoopState :=
  { st with
    entryPrice := none
    entryTimestamp := none
    entrySignalTimestamp := none
    entryBarIndex := none
    stopPrice := none
    takeProfitPrice := none }

/-- `signals_by_timestamp[timestamp]`, in the order of the signal list. -/
def signalsByTimestamp (signals : List Signal) (timestamp : Timestamp) : List Signal :=
  signals.filter (·.timestamp = timestamp)

/-- Close the position at a risk price: the statements after either risk check. -/
def LoopState.riskExit (st : LoopState) (bar : MarketBar) (exitPrice : Decimal)
    (exitReason : ExitReason) : Except PyError LoopState := do
  let (cash, completedTrade) ← closePosition bar exitPrice exitReason st.cash st.quantity
    st.entryPrice st.entryTimestamp st.entrySignalTimestamp none
  return { st with
    cash := cash
    completedTrades := st.completedTrades ++ [completedTrade]
    quantity := 0 }.clearedPosition

/-- One iteration of `for signal in pending_signals`.  The Boolean is
    `position_closed_at_open`. -/
def executeSignal (stopLossPercent takeProfitPercent : Option Decimal) (index : Nat)
    (bar : MarketBar) (loop : LoopState × Bool) (signal : Signal) :
    Except PyError (LoopState × Bool) := do
  let (st, closedAtOpen) := loop
  match signal.signalType with
  | .buy =>
      let wasFlat := st.quantity = 0
      let (cash, quantity, entryPrice, entryTimestamp, entrySignalTimestamp, ignoredSignals) ←
        executeBuy signal bar st.cash st.quantity st.entryPrice st.entryTimestamp
          st.entrySignalTimestamp st.ignoredSignals
      let st := { st with
        cash := cash
        quantity := quantity
        entryPrice := entryPrice
        entryTimestamp := entryTimestamp
        entrySignalTimestamp := entrySignalTimestamp
        ignoredSignals := ignoredSignals }
      match entryPrice with
      | some price =>
          if wasFlat ∧ quantity > 0 then
            let levels := calculateRiskLevels price stopLossPercent takeProfitPercent
            return ({ st with
              entryBarIndex := some index
              stopPrice := levels.1
              takeProfitPrice := levels.2 }, closedAtOpen)
          else
            return (st, closedAtOpen)
      | none => return (st, closedAtOpen)
  | .sell =>
      let (cash, quantity, completedTrade, ignoredSignals) ←
        executeSell signal bar st.cash st.quantity st.entryPrice st.entryTimestamp
          st.entrySignalTimestamp st.ignoredSignals
      let st := { st with
        cash := cash
        quantity := quantity
        ignoredSignals := ignoredSignals }
      match completedTrade with
      | some trade =>
          return ({ st with
            completedTrades := st.completedTrades ++ [trade] }.clearedPosition, true)
      | none => return (st, closedAtOpen)

/-- The block under `if index > 0`: opening risk exit, else the pending signals. -/
def executeOpening (bars : List MarketBar) (signals : List Signal)
    (stopLossPercent takeProfitPercent : Option Decimal) (index : Nat) (bar : MarketBar)
    (st : LoopState) : Except PyError (LoopState × Bool) :=
  if index > 0 then do
    let previousBar ← getItem bars (index - 1)
    let pendingSignals := signalsByTimestamp signals previousBar.timestamp
    match evaluateOpeningRiskExit bar st.quantity st.entryBarIndex index
        st.stopPrice st.takeProfitPrice with
    | some (exitPrice, exitReason) =>
        let st ← st.riskExit bar exitPrice exitReason
        return ({ st with ignoredSignals := st.ignoredSignals ++ pendingSignals }, true)
    | none =>
        pendingSignals.foldlM
          (executeSignal stopLossPercent takeProfitPercent index bar) (st, false)
  else
    return (st, false)

/-- The block under `if quantity > 0 and not position_closed_at_open`. -/
def executeIntraday (index : Nat) (bar : MarketBar) (loop : LoopState × Bool) :
    Except PyError LoopState :=
  let (st, closedAtOpen) := loop
  if st.quantity > 0 ∧ closedAtOpen = false then
    match evaluateIntradayRiskExit bar st.quantity st.entryBarIndex index
        st.stopPrice st.takeProfitPrice with
    | some (exitPrice, exitReason) => st.riskExit bar exitPrice exitReason
    | none => .ok st
  else
    .ok st

/-- One iteration of `for index, bar in enumerate(bars)`. -/
def executeBar (bars : List MarketBar) (signals : List Signal)
    (stopLossPercent takeProfitPercent : Option Decimal) (st : LoopState)
    (item : MarketBar × Nat) : Except PyError LoopState := do
  let (bar, index) := item
  let loop ← executeOpening bars signals stopLossPercent takeProfitPercent index bar st
  let st ← executeIntraday index bar loop
  return { st with
    equityCurve := st.equityCurve ++
      [⟨bar.timestamp, st.cash + st.quantity * bar.closePrice⟩] }

/-- The statements after the loop: final liquidation and the result. -/
def finishExecution (bars : List MarketBar) (st : LoopState) :
    Except PyError ExecutionResult := do
  let st ←
    if st.quantity > 0 then do
      let finalBar ← getLast bars
      let (cash, completedTrade) ← closePosition finalBar finalBar.closePrice
        .finalLiquidation st.cash st.quantity st.entryPrice st.entryTimestamp
        st.entrySignalTimestamp none
      pure { st with
        cash := cash
        completedTrades := st.completedTrades ++ [completedTrade] }
    else
      pure st
  return {
    finalPortfolioValue := st.cash
    totalRealizedProfitLoss := (st.completedTrades.map (·.profitLoss)).sum
    completedTrades := st.completedTrades
    equityCurve := st.equityCurve
    ignoredSignals := st.ignoredSignals }

/-- Execute signals and optional position-level risk controls. -/
def executeLongOnlySignals (bars : List MarketBar) (signals : List Signal)
    (startingCash : Decimal) (stopLossPercent takeProfitPercent : Option Decimal) :
    Except PyError ExecutionResult := do
  if startingCash ≤ 0 then
    throw (.valueError "starting_cash must be positive")
  if bars.isEmpty then
    throw (.valueError "at least one market bar is required")
  validateRiskControl stopLossPercent "stop_loss_percent"
  validateRiskControl takeProfitPercent "take_profit_percent"
  let st ← bars.zipIdx.foldlM
    (executeBar bars signals stopLossPercent takeProfitPercent)
    (LoopState.initial startingCash)
  finishExecution bars st

end Backtesting
end TradingPlatform
