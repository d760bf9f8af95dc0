/-
  TradingPlatform.Backtesting.CurrencyUnit

  A backtest in another currency unit: prices, constants and cash times `c`.

  What a strategy says of a history compares values of one unit, so the signals
  are the same (`signalsOn_scale`).  Every operation of the book commutes with
  the change of unit: whole shares and risk reasons are those of ratios, and
  money is scaled (`Book.run_scale`).
-/

import Mathlib.Algebra.BigOperators.Ring.List
import TradingPlatform.Backtesting.EngineRefinement
import TradingPlatform.Backtesting.StrategySemantics

namespace TradingPlatform
namespace Schemas

/-- Constants are prices; indicators follow the bars. -/
def Operand.scale (c : Decimal) : Operand → Operand
  | .constant value => .constant (c * value)
  | operand => operand

/-- Both sides of a condition in the other unit. -/
def Condition.scale (c : Decimal) (condition : Condition) : Condition where
  left := condition.left.scale c
  operator := condition.operator
  right := condition.right.scale c

/-- The constants of both rules in the other unit; a percentage has no unit. -/
def StrategySpecification.scale (c : Decimal) (specification : StrategySpecification) :
    StrategySpecification :=
  { specification with
    entry := specification.entry.scale c
    exit := specification.exit.scale c }

end Schemas

namespace Backtesting

open Schemas

/-- The prices of a bar in the other unit. -/
def MarketBar.scale (c : Decimal) (bar : MarketBar) : MarketBar :=
  { bar with
    openPrice := c * bar.openPrice
    highPrice := c * bar.highPrice
    lowPrice := c * bar.lowPrice
    closePrice := c * bar.closePrice }

/-- A trade of the same shares, with its prices and its profit in the other unit. -/
def CompletedTrade.scale (c : Decimal) (trade : CompletedTrade) : CompletedTrade :=
  { trade with
    entryPrice := c * trade.entryPrice
    exitPrice := c * trade.exitPrice
    profitLoss := c * trade.profitLoss }

/-- An equity point in the other unit. -/
def EquityPoint.scale (c : Decimal) (point : EquityPoint) : EquityPoint :=
  { point with equity := c * point.equity }

/-- A result in the other unit, with the same signals ignored. -/
def ExecutionResult.scale (c : Decimal) (result : ExecutionResult) : ExecutionResult where
  finalPortfolioValue := c * result.finalPortfolioValue
  totalRealizedProfitLoss := c * result.totalRealizedProfitLoss
  completedTrades := result.completedTrades.map (CompletedTrade.scale c)
  equityCurve := result.equityCurve.map (EquityPoint.scale c)
  ignoredSignals := result.ignoredSignals

-- ============================================================================
-- Signals
-- ============================================================================

section Signals

variable {c : Decimal}

theorem values_map {α β γ : Type} (f : List β → γ) (g : α → β) (xs : List α) :
    History.values f (xs.map g) = History.values (fun history => f (history.map g)) xs := by
  rw [History.values, History.values, List.length_map]
  exact List.map_congr_left fun i _ => by rw [List.map_take]

theorem closes_scale (c : Decimal) (bars : List MarketBar) :
    (bars.map (MarketBar.scale c)).map (·.closePrice) =
      (bars.map (·.closePrice)).map (c * ·) := by
  rw [List.map_map, List.map_map]
  rfl

theorem sum_scale (c : Decimal) (xs : List Decimal) : (xs.map (c * ·)).sum = c * xs.sum := by
  rw [List.sum_map_mul_left, List.map_id']

theorem smaOn_scale (c : Decimal) (window : Nat) (history : List MarketBar) :
    smaOn window (history.map (MarketBar.scale c)) = (smaOn window history).map (c * ·) := by
  have hsum : History.windowSum window ((history.map (MarketBar.scale c)).map (·.closePrice)) =
      c * History.windowSum window (history.map (·.closePrice)) := by
    rw [closes_scale, History.windowSum, History.windowSum, List.length_map, ← List.map_drop,
      sum_scale]
  rw [smaOn, smaOn, List.length_map, hsum]
  split
  · rw [mul_div_assoc]
    rfl
  · rfl

theorem emaSeed_scale (c : Decimal) (window : Nat) (history : List MarketBar) :
    emaSeed window (history.map (MarketBar.scale c)) = c * emaSeed window history := by
  rw [emaSeed, emaSeed, ← List.map_take, closes_scale, sum_scale, mul_div_assoc]

theorem foldl_emaUpdate_scale (c : Decimal) (window : Nat) (bars : List MarketBar) :
    ∀ average : Decimal,
      (bars.map (MarketBar.scale c)).foldl (emaUpdate window) (c * average) =
        c * bars.foldl (emaUpdate window) average := by
  induction bars with
  | nil => exact fun average => rfl
  | cons bar rest ih =>
      intro average
      have hstep : emaUpdate window (c * average) (bar.scale c) =
          c * emaUpdate window average bar := by
        show (c * bar.closePrice - c * average) * _ + c * average = c * (_ * _ + _)
        ring
      rw [List.map_cons, List.foldl_cons, List.foldl_cons, hstep]
      exact ih _

theorem emaOn_scale (c : Decimal) (window : Nat) (history : List MarketBar) :
    emaOn window (history.map (MarketBar.scale c)) = (emaOn window history).map (c * ·) := by
  rw [emaOn, emaOn, List.length_map, ← List.map_drop, emaSeed_scale, foldl_emaUpdate_scale]
  split <;> rfl

theorem valueOn_scale (c : Decimal) (operand : Operand) (history : List MarketBar) :
    (operand.scale c).valueOn (history.map (MarketBar.scale c)) =
      (operand.valueOn history).map (c * ·) := by
  cases operand with
  | price source =>
      simp only [Operand.scale, Operand.valueOn, List.getLast?_map, Option.map_map]
      rfl
  | constant value =>
      simp only [Operand.scale, Operand.valueOn, List.getLast?_map, Option.map_map]
      rfl
  | indicator name source period =>
      cases name with
      | sma => exact smaOn_scale c period.toNat history
      | ema => exact emaOn_scale c period.toNat history

/-- A pair of values in the other unit. -/
def scalePair (c : Decimal) (values : Decimal × Decimal) : Decimal × Decimal :=
  (c * values.1, c * values.2)

theorem valuesOn_scale (c : Decimal) (condition : Condition) (history : List MarketBar) :
    (condition.scale c).valuesOn (history.map (MarketBar.scale c)) =
      (condition.valuesOn history).map (scalePair c) := by
  simp only [Condition.valuesOn, Condition.scale, valueOn_scale]
  cases condition.left.valueOn history with
  | none => rfl
  | some left => cases condition.right.valueOn history <;> rfl

/-- Every operator compares values of one unit. -/
theorem relates_scale (hc : 0 < c) (operator : Operator) (previous : Option (Decimal × Decimal))
    (values : Decimal × Decimal) :
    operator.relates (previous.map (scalePair c)) (scalePair c values) =
      operator.relates previous values := by
  have hle (a b : Decimal) : c * a ≤ c * b ↔ a ≤ b := mul_le_mul_iff_of_pos_left hc
  have hlt (a b : Decimal) : c * a < c * b ↔ a < b := mul_lt_mul_iff_of_pos_left hc
  cases operator <;> cases previous <;>
    simp only [Operator.relates, scalePair, Option.map_some, Option.map_none, Option.any_some,
      Option.any_none, gt_iff_lt, ge_iff_le, hle, hlt]

theorem holdsOn_scale (hc : 0 < c) (condition : Condition) (history : List MarketBar) :
    (condition.scale c).holdsOn (history.map (MarketBar.scale c)) =
      condition.holdsOn history := by
  have hrelates : (condition.operator.relates
      ((condition.valuesOn history.dropLast).map (scalePair c))) ∘ scalePair c =
      condition.operator.relates (condition.valuesOn history.dropLast) :=
    funext fun values => relates_scale hc ..
  rw [Condition.holdsOn, Condition.holdsOn, ← List.map_dropLast, valuesOn_scale, valuesOn_scale,
    Option.any_map]
  exact congrArg (Option.any · _) hrelates

theorem signalsOn_scale (hc : 0 < c) (specification : StrategySpecification)
    (history : List MarketBar) :
    (specification.scale c).signalsOn (history.map (MarketBar.scale c)) =
      specification.signalsOn history := by
  have hentry := holdsOn_scale hc specification.entry history
  have hexit := holdsOn_scale hc specification.exit history
  simp only [StrategySpecification.signalsOn, StrategySpecification.scale, hentry, hexit,
    List.getLast?_map]
  cases history.getLast? <;> rfl

end Signals

-- ============================================================================
-- Positions
-- ============================================================================

/-- A fill in the other unit: its price is scaled, its reason is not. -/
def scaleFill (c : Decimal) (fill : Decimal × ExitReason) : Decimal × ExitReason :=
  (c * fill.1, fill.2)

theorem any_scale {c : Decimal} {p q : Decimal → Bool} (h : ∀ v, p (c * v) = q v)
    (level : Option Decimal) : (level.map (c * ·)).any p = level.any q := by
  cases level with
  | none => rfl
  | some v => exact h v

theorem filter_scale {c : Decimal} {p q : Decimal → Bool} (h : ∀ v, p (c * v) = q v)
    (level : Option Decimal) :
    (level.map (c * ·)).filter p = (level.filter q).map (c * ·) := by
  cases level with
  | none => rfl
  | some v =>
      rw [Option.map_some, Option.filter_some, Option.filter_some, h v]
      cases q v <;> rfl

namespace OpenPosition

/-- The position bought at the scaled price. -/
def scale {c : Decimal} (hc : 0 < c) (p : OpenPosition) : OpenPosition :=
  { p with
    entryPrice := c * p.entryPrice
    entryPrice_pos := mul_pos hc p.entryPrice_pos }

variable {c : Decimal} (hc : 0 < c)

@[simp] theorem scale_quantity (p : OpenPosition) : (p.scale hc).quantity = p.quantity := rfl

@[simp] theorem scale_entryBarIndex (p : OpenPosition) :
    (p.scale hc).entryBarIndex = p.entryBarIndex := rfl

theorem cost_scale (p : OpenPosition) : (p.scale hc).cost = c * p.cost := by
  show (p.quantity : Decimal) * (c * p.entryPrice) = c * (p.quantity * p.entryPrice)
  ring

theorem exitTrade_scale (p : OpenPosition) (exitTimestamp : Timestamp) (exitPrice : Decimal)
    (exitReason : ExitReason) (exitSignalTimestamp : Option Timestamp) :
    (p.scale hc).exitTrade exitTimestamp (c * exitPrice) exitReason exitSignalTimestamp =
      (p.exitTrade exitTimestamp exitPrice exitReason exitSignalTimestamp).scale c := by
  have hprofit : (p.quantity : Decimal) * (c * exitPrice) - c * p.cost =
      c * (p.quantity * exitPrice - p.cost) := by ring
  simp only [exitTrade, CompletedTrade.scale, scale_quantity, cost_scale, hprofit,
    mul_div_mul_left _ _ hc.ne']
  rfl

theorem stopPrice_scale (controls : RiskControls) (p : OpenPosition) :
    (p.scale hc).stopPrice controls = (p.stopPrice controls).map (c * ·) := by
  simp only [stopPrice, calculateRiskLevels, Option.map_map]
  exact Option.map_congr fun _ _ => mul_assoc ..

theorem takeProfitPrice_scale (controls : RiskControls) (p : OpenPosition) :
    (p.scale hc).takeProfitPrice controls = (p.takeProfitPrice controls).map (c * ·) := by
  simp only [takeProfitPrice, calculateRiskLevels, Option.map_map]
  exact Option.map_congr fun _ _ => mul_assoc ..

/-- The level that a price reaches is reached by the scaled price. -/
theorem openingExit_scale (p : OpenPosition) (controls : RiskControls) (index : Nat)
    (bar : MarketBar) :
    (p.scale hc).openingExit controls index (bar.scale c) =
      (p.openingExit controls index bar).map (scaleFill c) := by
  have hle (a b : Decimal) : decide (c * a ≤ c * b) = decide (a ≤ b) :=
    decide_eq_decide.mpr (mul_le_mul_iff_of_pos_left hc)
  have hstop := any_scale (p := fun v => (bar.scale c).openPrice ≤ v)
    (q := fun v => bar.openPrice ≤ v) (fun v => hle bar.openPrice v) (p.stopPrice controls)
  have htake := any_scale (p := fun v => (bar.scale c).openPrice ≥ v)
    (q := fun v => bar.openPrice ≥ v) (fun v => hle v bar.openPrice)
    (p.takeProfitPrice controls)
  rw [openingExit, openingExit, stopPrice_scale, takeProfitPrice_scale, scale_entryBarIndex,
    hstop, htake]
  split
  · rfl
  · split
    · rfl
    · split <;> rfl

theorem intradayExit_scale (p : OpenPosition) (controls : RiskControls) (index : Nat)
    (bar : MarketBar) :
    (p.scale hc).intradayExit controls index (bar.scale c) =
      (p.intradayExit controls index bar).map (scaleFill c) := by
  have hle (a b : Decimal) : decide (c * a ≤ c * b) = decide (a ≤ b) :=
    decide_eq_decide.mpr (mul_le_mul_iff_of_pos_left hc)
  have hstop := filter_scale (p := fun v => (bar.scale c).lowPrice ≤ v)
    (q := fun v => bar.lowPrice ≤ v) (fun v => hle bar.lowPrice v) (p.stopPrice controls)
  have htake := filter_scale (p := fun v => (bar.scale c).highPrice ≥ v)
    (q := fun v => bar.highPrice ≥ v) (fun v => hle v bar.highPrice)
    (p.takeProfitPrice controls)
  rw [intradayExit, intradayExit, stopPrice_scale, takeProfitPrice_scale, scale_entryBarIndex,
    hstop, htake]
  split
  · rfl
  · cases (p.stopPrice controls).filter fun v => bar.lowPrice ≤ v with
    | some level => rfl
    | none =>
        simp only [Option.map_none, Option.map_map]
        rfl

end OpenPosition

-- ============================================================================
-- Books
-- ============================================================================

namespace Book

/-- A book in the other unit. -/
def scale {c : Decimal} (hc : 0 < c) (b : Book) : Book where
  cash := c * b.cash
  position := b.position.map (OpenPosition.scale hc)
  trades := b.trades.map (CompletedTrade.scale c)
  equity := b.equity.map (EquityPoint.scale c)
  ignored := b.ignored

variable {c : Decimal} (hc : 0 < c)

theorem ignore_scale (b : Book) (signals : List Signal) :
    (b.scale hc).ignore signals = (b.ignore signals).scale hc := rfl

theorem close_scale (b : Book) (p : OpenPosition) (bar : MarketBar) (exitPrice : Decimal)
    (exitReason : ExitReason) (exitSignalTimestamp : Option Timestamp) :
    (b.scale hc).close (p.scale hc) (bar.scale c) (c * exitPrice) exitReason
        exitSignalTimestamp =
      (b.close p bar exitPrice exitReason exitSignalTimestamp).scale hc := by
  have hcash : c * b.cash + p.quantity * (c * exitPrice) =
      c * (b.cash + p.quantity * exitPrice) := by ring
  rw [close, OpenPosition.exitTrade_scale]
  simp only [close, scale, OpenPosition.scale_quantity, hcash, Option.map_none,
    List.map_append, List.map_cons, List.map_nil]
  rfl

theorem affordable_scale (b : Book) (bar : MarketBar) :
    (b.scale hc).affordable (bar.scale c) = b.affordable bar := by
  show ⌊c * b.cash / (c * bar.openPrice)⌋₊ = ⌊b.cash / bar.openPrice⌋₊
  rw [mul_div_mul_left _ _ hc.ne']

theorem enter_scale (b : Book) (index : Nat) (bar : MarketBar) (signal : Signal)
    (h : 0 < b.affordable bar ∧ 0 < bar.openPrice)
    (h' : 0 < (b.scale hc).affordable (bar.scale c) ∧ 0 < (bar.scale c).openPrice) :
    (b.scale hc).enter index (bar.scale c) signal h' =
      (b.enter index bar signal h).scale hc := by
  have hcash : c * b.cash - b.affordable bar * (c * bar.openPrice) =
      c * (b.cash - b.affordable bar * bar.openPrice) := by ring
  simp only [enter, affordable_scale]
  simp only [scale, MarketBar.scale, OpenPosition.scale, Option.map_some, hcash]

theorem buy_scale (b : Book) (index : Nat) (bar : MarketBar) (signal : Signal) :
    (b.scale hc).buy index (bar.scale c) signal = (b.buy index bar signal).scale hc := by
  have hopen : 0 < (bar.scale c).openPrice ↔ 0 < bar.openPrice := mul_pos_iff_of_pos_left hc
  unfold buy
  cases hposition : b.position with
  | some p =>
      have hscaled : (b.scale hc).position = some (p.scale hc) := by
        rw [scale, hposition, Option.map_some]
      rw [hscaled]
      rfl
  | none =>
      have hscaled : (b.scale hc).position = none := by
        rw [scale, hposition, Option.map_none]
      rw [hscaled]
      by_cases h : 0 < b.affordable bar ∧ 0 < bar.openPrice
      · have h' : 0 < (b.scale hc).affordable (bar.scale c) ∧ 0 < (bar.scale c).openPrice := by
          rw [affordable_scale, hopen]
          exact h
        simp only [dif_pos h, dif_pos h']
        exact enter_scale hc b index bar signal h h'
      · have h' : ¬ (0 < (b.scale hc).affordable (bar.scale c) ∧
            0 < (bar.scale c).openPrice) := by
          rw [affordable_scale, hopen]
          exact h
        simp only [dif_neg h, dif_neg h']
        exact ignore_scale hc b [signal]

theorem sell_scale (b : Book) (bar : MarketBar) (signal : Signal) :
    (b.scale hc).sell (bar.scale c) signal = (b.sell bar signal).scale hc := by
  unfold sell
  cases hposition : b.position with
  | some p =>
      have hscaled : (b.scale hc).position = some (p.scale hc) := by
        rw [scale, hposition, Option.map_some]
      rw [hscaled]
      exact close_scale ..
  | none =>
      have hscaled : (b.scale hc).position = none := by
        rw [scale, hposition, Option.map_none]
      rw [hscaled]
      rfl

/-- The state of the loop over pending signals. -/
def scaleState {c : Decimal} (hc : 0 < c) (state : Book × Bool) : Book × Bool :=
  (state.1.scale hc, state.2)

theorem signal_scale (index : Nat) (bar : MarketBar) (state : Book × Bool) (signal : Signal) :
    Book.signal index (bar.scale c) (scaleState hc state) signal =
      scaleState hc (Book.signal index bar state signal) := by
  unfold Book.signal
  cases signal.signalType with
  | buy => exact congrArg (·, state.2) (buy_scale ..)
  | sell =>
      have hheld : (state.1.scale hc).position.isSome = state.1.position.isSome :=
        Option.isSome_map ..
      simp only [scaleState, sell_scale, hheld]

theorem signals_scale (index : Nat) (bar : MarketBar) (pending : List Signal) :
    ∀ state : Book × Bool,
      pending.foldl (Book.signal index (bar.scale c)) (scaleState hc state) =
        scaleState hc (pending.foldl (Book.signal index bar) state) := by
  induction pending with
  | nil => exact fun state => rfl
  | cons signal rest ih =>
      intro state
      rw [List.foldl_cons, List.foldl_cons, signal_scale]
      exact ih _

/-- A fill of the position held, if there is one. -/
theorem fill_scale (b : Book) (exit exit' : OpenPosition → Option (Decimal × ExitReason))
    (h : ∀ p : OpenPosition, exit' (p.scale hc) = (exit p).map (scaleFill c)) :
    ((b.scale hc).position.bind fun p => (exit' p).map (p, ·)) =
      (b.position.bind fun p => (exit p).map (p, ·)).map fun fill =>
        (fill.1.scale hc, scaleFill c fill.2) := by
  show (b.position.map (OpenPosition.scale hc)).bind _ = _
  cases b.position with
  | none => rfl
  | some p =>
      simp only [Option.map_some, Option.bind_some, h, Option.map_map]
      rfl

theorem opening_scale (controls : RiskControls) (index : Nat) (bar : MarketBar)
    (pending : List Signal) (b : Book) :
    (b.scale hc).opening controls index (bar.scale c) pending =
      scaleState hc (b.opening controls index bar pending) := by
  have hfill := fill_scale hc b (fun p => p.openingExit controls index bar)
    (fun p => p.openingExit controls index (bar.scale c))
    fun p => p.openingExit_scale hc controls index bar
  unfold opening
  rw [hfill]
  cases b.position.bind fun p => (p.openingExit controls index bar).map (p, ·) with
  | none => exact signals_scale hc index bar pending (b, false)
  | some fill =>
      obtain ⟨p, price, reason⟩ := fill
      exact congrArg (fun closed => (closed.ignore pending, true)) (close_scale ..)

theorem intraday_scale (controls : RiskControls) (index : Nat) (bar : MarketBar)
    (state : Book × Bool) :
    intraday controls index (bar.scale c) (scaleState hc state) =
      (intraday controls index bar state).scale hc := by
  have hfill := fill_scale hc state.1 (fun p => p.intradayExit controls index bar)
    (fun p => p.intradayExit controls index (bar.scale c))
    fun p => p.intradayExit_scale hc controls index bar
  obtain ⟨b, closedAtOpen⟩ := state
  unfold intraday
  cases closedAtOpen
  · simp only [scaleState, Bool.false_eq_true, if_false]
    rw [hfill]
    cases b.position.bind fun p => (p.intradayExit controls index bar).map (p, ·) with
    | none => rfl
    | some fill => exact close_scale ..
  · rfl

theorem mark_scale (bar : MarketBar) (b : Book) :
    mark (bar.scale c) (b.scale hc) = (mark bar b).scale hc := by
  have hshares : (b.scale hc).shares = b.shares := by
    rw [shares, shares, scale]
    cases b.position <;> rfl
  have hvalue : (b.scale hc).value (c * bar.closePrice) = c * b.value bar.closePrice := by
    rw [value, value, hshares, scale]
    ring
  simp only [mark, MarketBar.scale, hvalue]
  simp only [scale, List.map_append]
  rfl

theorem bar_scale (controls : RiskControls) (pending : List Signal) (b : Book)
    (item : MarketBar × Nat) :
    (b.scale hc).bar controls pending (item.1.scale c, item.2) =
      (b.bar controls pending item).scale hc := by
  rw [bar, bar, opening_scale, intraday_scale, mark_scale]

theorem pendingSignals_scale (bars : List MarketBar) (signals : List Signal) (index : Nat) :
    pendingSignals (bars.map (MarketBar.scale c)) signals index =
      pendingSignals bars signals index := by
  rw [pendingSignals, pendingSignals, List.getElem?_map, Option.map_map]
  rfl

/-- The run of the scaled bars, from the scaled cash. -/
theorem run_scale (controls : RiskControls) (bars : List MarketBar) (signals : List Signal)
    (startingCash : Decimal) :
    ∀ k ≤ bars.length,
      run controls (bars.map (MarketBar.scale c)) signals (c * startingCash) k =
        (run controls bars signals startingCash k).scale hc := by
  intro k
  induction k with
  | zero => exact fun _ => rfl
  | succ k ih =>
      intro hk
      have hscaled : k < (bars.map (MarketBar.scale c)).length := by
        rw [List.length_map]
        exact hk
      rw [run_succ _ _ _ hscaled, run_succ _ _ _ hk, ih (Nat.le_of_succ_le hk),
        pendingSignals_scale, List.getElem_map]
      exact bar_scale hc controls _ _ (bars[k], k)

theorem liquidate_scale (bars : List MarketBar) (b : Book) :
    (b.scale hc).liquidate (bars.map (MarketBar.scale c)) = (b.liquidate bars).scale hc := by
  unfold liquidate
  rw [List.getLast?_map]
  cases hposition : b.position with
  | none =>
      have hscaled : (b.scale hc).position = none := by
        rw [scale, hposition, Option.map_none]
      rw [hscaled]
  | some p =>
      have hscaled : (b.scale hc).position = some (p.scale hc) := by
        rw [scale, hposition, Option.map_some]
      rw [hscaled]
      cases bars.getLast? with
      | none => rfl
      | some last => exact close_scale ..

theorem result_scale (b : Book) : (b.scale hc).result = b.result.scale c := by
  have hsum : ((b.trades.map (CompletedTrade.scale c)).map (·.profitLoss)).sum =
      c * (b.trades.map (·.profitLoss)).sum := by
    rw [← sum_scale, List.map_map, List.map_map]
    rfl
  simp only [result, scale, hsum]
  rfl

end Book

end Backtesting
end TradingPlatform
