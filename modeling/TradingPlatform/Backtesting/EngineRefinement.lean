/-
  TradingPlatform.Backtesting.EngineRefinement

  The engine refines the trading book.

  `Book.toLoopState` is the assignment of the engine's local variables that a
  book stands for.  Each function of the engine, run on such a state, succeeds
  and returns the state of the corresponding book operation, so a run of
  `execute_long_only_signals` over bars with positive prices never raises and
  returns the result of the book (`executeLongOnlySignals_eq`).
-/

import TradingPlatform.Backtesting.Ledger

namespace TradingPlatform
namespace Backtesting

open Python

/-- The local variables of the engine that represent a book. -/
def Book.toLoopState (controls : RiskControls) (b : Book) : LoopState where
  cash := b.cash
  quantity := b.position.elim 0 fun p => p.quantity
  entryPrice := b.position.map (·.entryPrice)
  entryTimestamp := b.position.map (·.entryTimestamp)
  entrySignalTimestamp := b.position.map (·.signalTimestamp)
  entryBarIndex := b.position.map (·.entryBarIndex)
  stopPrice := b.position.bind (·.stopPrice controls)
  takeProfitPrice := b.position.bind (·.takeProfitPrice controls)
  completedTrades := b.trades
  equityCurve := b.equity
  ignoredSignals := b.ignored

/-- Cash never goes negative, and a flat book has some. -/
structure Book.Solvent (b : Book) : Prop where
  cash_nonneg : 0 ≤ b.cash
  cash_pos : b.position = none → 0 < b.cash

theorem Book.initial_solvent {startingCash : Decimal} (h : 0 < startingCash) :
    (Book.initial startingCash).Solvent := ⟨h.le, fun _ => h⟩

-- ============================================================================
-- Bars with positive prices keep the book solvent
-- ============================================================================

namespace Book

/-- The fill price of an intraday exit is positive: a stop fills at or above the
    low, a take-profit level is above the entry price. -/
theorem intradayExit_price_pos {controls : RiskControls} (hc : controls.Positive)
    {p : OpenPosition} {index : Nat} {bar : MarketBar} (hlow : 0 < bar.lowPrice)
    {price : Decimal} {reason : ExitReason}
    (h : p.intradayExit controls index bar = some (price, reason)) : 0 < price := by
  obtain ⟨-, ⟨-, -, hle⟩ | ⟨-, htake, -⟩⟩ := OpenPosition.intradayExit_eq_some h
  · exact lt_of_lt_of_le hlow hle
  · exact p.entryPrice_pos.trans (OpenPosition.entryPrice_lt_takeProfitPrice hc htake)

theorem riskExit_price_pos {controls : RiskControls} (hc : controls.Positive)
    {p : OpenPosition} {index : Nat} {bar : MarketBar} (hbar : bar.Positive)
    {price : Decimal} {reason : ExitReason}
    (h : p.openingExit controls index bar = some (price, reason) ∨
      p.intradayExit controls index bar = some (price, reason)) : 0 < price := by
  rcases h with hopened | hinside
  · obtain ⟨-, rfl, -⟩ := OpenPosition.openingExit_eq_some hopened
    exact hbar.openPrice_pos
  · exact intradayExit_price_pos hc hbar.lowPrice_pos hinside

/-- The shares a buy takes cost no more than the cash there is. -/
theorem affordable_mul_le {b : Book} (h : b.Solvent) {bar : MarketBar}
    (hopen : 0 < bar.openPrice) : b.affordable bar * bar.openPrice ≤ b.cash := by
  have hfloor : (b.affordable bar : ℚ) ≤ b.cash / bar.openPrice :=
    Nat.floor_le (div_nonneg h.cash_nonneg hopen.le)
  rwa [le_div_iff₀ hopen] at hfloor

theorem close_solvent {b : Book} (h : b.Solvent) (p : OpenPosition) (bar : MarketBar)
    {exitPrice : Decimal} (hprice : 0 < exitPrice) (reason : ExitReason)
    (exitSignal : Option Timestamp) :
    (b.close p bar exitPrice reason exitSignal).Solvent := by
  have hq : (0 : ℚ) < p.quantity := by exact_mod_cast p.quantity_pos
  have hproceeds : 0 < p.quantity * exitPrice := mul_pos hq hprice
  have hcash : 0 < b.cash + p.quantity * exitPrice := by linarith [h.cash_nonneg]
  exact ⟨hcash.le, fun _ => hcash⟩

theorem Action.solvent {controls : RiskControls} (hc : controls.Positive) {index : Nat}
    {bar : MarketBar} (hbar : bar.Positive) {pending : List Signal} {b b' : Book}
    (haction : Action controls index bar pending b b') (h : b.Solvent) : b'.Solvent := by
  cases haction with
  | ignore => exact ⟨h.1, h.2⟩
  | enter _ _ _ hshares =>
      have hle := affordable_mul_le h hbar.openPrice_pos
      exact ⟨sub_nonneg.mpr hle, fun hnone => nomatch hnone⟩
  | strategyExit => exact close_solvent h _ _ hbar.openPrice_pos _ _
  | riskExit _ hexit => exact close_solvent h _ _ (riskExit_price_pos hc hbar hexit) _ _

theorem bar_solvent {b : Book} (h : b.Solvent) {controls : RiskControls}
    (hc : controls.Positive) (pending : List Signal) {item : MarketBar × Nat}
    (hbar : item.1.Positive) : (b.bar controls pending item).Solvent := by
  have hact : ∀ b b', Action controls item.2 item.1 pending b b' → b.Solvent → b'.Solvent :=
    fun _ _ haction => haction.solvent hc hbar
  have hclosed := (intraday_actions _).preserve hact ((opening_actions b).preserve hact h)
  exact ⟨hclosed.1, hclosed.2⟩

end Book

-- ============================================================================
-- Function specs
-- ============================================================================

section FunctionSpecs

variable {controls : RiskControls} {b : Book} {p : OpenPosition} {bar : MarketBar}

theorem toLoopState_holding (h : b.position = some p) :
    b.toLoopState controls =
      { cash := b.cash
        quantity := p.quantity
        entryPrice := some p.entryPrice
        entryTimestamp := some p.entryTimestamp
        entrySignalTimestamp := some p.signalTimestamp
        entryBarIndex := some p.entryBarIndex
        stopPrice := p.stopPrice controls
        takeProfitPrice := p.takeProfitPrice controls
        completedTrades := b.trades
        equityCurve := b.equity
        ignoredSignals := b.ignored } := by
  simp [Book.toLoopState, h]

theorem toLoopState_flat (h : b.position = none) :
    b.toLoopState controls =
      { LoopState.initial b.cash with
        completedTrades := b.trades
        equityCurve := b.equity
        ignoredSignals := b.ignored } := by
  simp [Book.toLoopState, LoopState.initial, h]

theorem toLoopState_ignore (pending : List Signal) :
    (b.ignore pending).toLoopState controls =
      { b.toLoopState controls with
        ignoredSignals := (b.toLoopState controls).ignoredSignals ++ pending } := rfl

theorem closePosition_spec (cash exitPrice : Decimal) (reason : ExitReason)
    (exitSignal : Option Timestamp) :
    closePosition bar exitPrice reason cash p.quantity (some p.entryPrice)
        (some p.entryTimestamp) (some p.signalTimestamp) exitSignal =
      .ok (cash + p.quantity * exitPrice,
        p.exitTrade bar.timestamp exitPrice reason exitSignal) := by
  have hq : ¬ (p.quantity : Int) ≤ 0 := by have := p.quantity_pos; omega
  have hcost : ((p.quantity : Int) : ℚ) * p.entryPrice ≠ 0 := by
    simpa [OpenPosition.cost] using p.cost_ne_zero
  rw [closePosition, if_neg hq]
  simp only [divide_of_ne_zero hcost]
  simp [bind, Except.bind, pure, Except.pure, OpenPosition.exitTrade, OpenPosition.cost]

theorem riskExit_spec (h : b.position = some p) (exitPrice : Decimal)
    (reason : ExitReason) :
    (b.toLoopState controls).riskExit bar exitPrice reason =
      .ok ((b.close p bar exitPrice reason none).toLoopState controls) := by
  rw [toLoopState_holding h, LoopState.riskExit]
  simp only [closePosition_spec]
  simp [bind, Except.bind, pure, Except.pure, Book.toLoopState, Book.close,
    LoopState.clearedPosition]

theorem executeBuy_holding (h : b.position = some p) (index : Nat) (closedAtOpen : Bool)
    (timestamp : Timestamp) :
    executeSignal controls.stopLossPercent controls.takeProfitPercent index bar
        (b.toLoopState controls, closedAtOpen) ⟨timestamp, .buy⟩ =
      .ok ((b.buy index bar ⟨timestamp, .buy⟩).toLoopState controls, closedAtOpen) := by
  have hq : p.quantity ≠ 0 := p.quantity_pos.ne'
  rw [toLoopState_holding h]
  simp [executeSignal, executeBuy, p.quantity_pos, hq, Book.buy, h, Book.ignore,
    Book.toLoopState, bind, Except.bind, pure, Except.pure]

theorem executeBuy_flat (h : b.position = none) (hs : b.Solvent) (hopen : 0 < bar.openPrice)
    (index : Nat) (closedAtOpen : Bool) (timestamp : Timestamp) :
    executeSignal controls.stopLossPercent controls.takeProfitPercent index bar
        (b.toLoopState controls, closedAtOpen) ⟨timestamp, .buy⟩ =
      .ok ((b.buy index bar ⟨timestamp, .buy⟩).toLoopState controls, closedAtOpen) := by
  have hfloor : floorDivide b.cash bar.openPrice = .ok (b.affordable bar : Int) :=
    floorDivide_of_nonneg hs.cash_nonneg hopen
  rw [toLoopState_flat h]
  by_cases hzero : b.affordable bar = 0
  · simp [executeSignal, executeBuy, LoopState.initial, hfloor, hzero, Book.buy, h,
      Book.ignore, Book.toLoopState, bind, Except.bind, pure, Except.pure]
  · have hpos : 0 < b.affordable bar := Nat.pos_of_ne_zero hzero
    simp [executeSignal, executeBuy, LoopState.initial, hfloor, hzero, hpos, hopen, Book.buy,
      Book.enter, h, Book.toLoopState, OpenPosition.stopPrice, OpenPosition.takeProfitPrice,
      bind, Except.bind, pure, Except.pure]

theorem executeSell_spec (index : Nat) (closedAtOpen : Bool) (timestamp : Timestamp) :
    executeSignal controls.stopLossPercent controls.takeProfitPercent index bar
        (b.toLoopState controls, closedAtOpen) ⟨timestamp, .sell⟩ =
      .ok ((b.sell bar ⟨timestamp, .sell⟩).toLoopState controls,
        closedAtOpen || b.position.isSome) := by
  cases h : b.position with
  | none =>
      rw [toLoopState_flat h]
      simp [executeSignal, executeSell, LoopState.initial, Book.sell, h, Book.ignore,
        Book.toLoopState, bind, Except.bind, pure, Except.pure]
  | some p =>
      have hq : p.quantity ≠ 0 := p.quantity_pos.ne'
      have hcost : (p.quantity : ℚ) * p.entryPrice ≠ 0 := p.cost_ne_zero
      rw [toLoopState_holding h]
      simp [executeSignal, executeSell, hq, divide_of_ne_zero hcost, Book.sell, h,
        Book.close, Book.toLoopState, LoopState.clearedPosition, OpenPosition.exitTrade,
        OpenPosition.cost, bind, Except.bind, pure, Except.pure]

theorem executeSignal_spec (hs : b.Solvent) (hopen : 0 < bar.openPrice) (index : Nat)
    (closedAtOpen : Bool) (signal : Signal) :
    executeSignal controls.stopLossPercent controls.takeProfitPercent index bar
        (b.toLoopState controls, closedAtOpen) signal =
      .ok (((Book.signal index bar (b, closedAtOpen) signal).1.toLoopState controls),
        (Book.signal index bar (b, closedAtOpen) signal).2) := by
  obtain ⟨timestamp, signalType⟩ := signal
  cases signalType with
  | buy =>
      cases h : b.position with
      | none => exact executeBuy_flat h hs hopen index closedAtOpen timestamp
      | some p => exact executeBuy_holding h index closedAtOpen timestamp
  | sell => exact executeSell_spec index closedAtOpen timestamp

theorem evaluateOpeningRiskExit_spec (index : Nat) :
    evaluateOpeningRiskExit bar (b.toLoopState controls).quantity
        (b.toLoopState controls).entryBarIndex index (b.toLoopState controls).stopPrice
        (b.toLoopState controls).takeProfitPrice =
      b.position.bind fun p => p.openingExit controls index bar := by
  cases h : b.position with
  | none => simp [evaluateOpeningRiskExit, toLoopState_flat h, LoopState.initial]
  | some p =>
      have hq : p.quantity ≠ 0 := p.quantity_pos.ne'
      simp [evaluateOpeningRiskExit, toLoopState_holding h, hq, notAfterEntry,
        OpenPosition.openingExit]

theorem evaluateIntradayRiskExit_spec (index : Nat) :
    evaluateIntradayRiskExit bar (b.toLoopState controls).quantity
        (b.toLoopState controls).entryBarIndex index (b.toLoopState controls).stopPrice
        (b.toLoopState controls).takeProfitPrice =
      b.position.bind fun p => p.intradayExit controls index bar := by
  cases h : b.position with
  | none => simp [evaluateIntradayRiskExit, toLoopState_flat h, LoopState.initial]
  | some p =>
      have hq : p.quantity ≠ 0 := p.quantity_pos.ne'
      have hguard : ((p.quantity : Int) = 0 ∨ notAfterEntry (some p.entryBarIndex) index = true) ↔
          index ≤ p.entryBarIndex := by
        simp [hq, notAfterEntry]
      rw [toLoopState_holding h]
      exact if_congr hguard rfl rfl

end FunctionSpecs

-- ============================================================================
-- The loop and the run
-- ============================================================================

section Run

variable {controls : RiskControls} {bars : List MarketBar} {signals : List Signal}

theorem executeOpening_spec (hc : controls.Positive) {b : Book} (hs : b.Solvent)
    {bar : MarketBar} (hbar : bar.Positive) {index : Nat} (hindex : index < bars.length) :
    executeOpening bars signals controls.stopLossPercent controls.takeProfitPercent index
        bar (b.toLoopState controls) =
      .ok ((b.opening controls index bar (Book.pendingSignals bars signals index)).1.toLoopState
          controls,
        (b.opening controls index bar (Book.pendingSignals bars signals index)).2) := by
  have hfold : ∀ pending : List Signal,
      pending.foldlM (executeSignal controls.stopLossPercent controls.takeProfitPercent index
          bar) (b.toLoopState controls, false) =
        .ok ((pending.foldl (Book.signal index bar) (b, false)).1.toLoopState controls,
          (pending.foldl (Book.signal index bar) (b, false)).2) := fun pending =>
    (Loop.foldlM_refines (fun s : Book × Bool => (s.1.toLoopState controls, s.2))
      (fun s => s.1.Solvent)
      (fun s signal hsignal hInv =>
        ⟨executeSignal_spec hInv hbar.openPrice_pos index s.2 signal,
          (Book.signal_action hsignal).solvent hc hbar hInv⟩)
      (t := (b, false)) hs).1
  rcases Nat.eq_zero_or_pos index with rfl | hpos
  · -- At index 0 the source skips the block; the book finds nothing to do there.
    have hnone : (b.position.bind fun p =>
        (p.openingExit controls 0 bar).map (p, ·)) = none := by
      cases b.position <;> simp [OpenPosition.openingExit]
    simp [executeOpening, Book.opening, hnone, Book.pendingSignals, pure, Except.pure]
  · have hlt : index - 1 < bars.length := by omega
    have hprev : getItem bars (index - 1) = .ok bars[index - 1] := getItem_of_lt hlt
    have hpending : Book.pendingSignals bars signals index =
        signalsByTimestamp signals bars[index - 1].timestamp := by
      rw [Book.pendingSignals, if_neg hpos.ne', List.getElem?_eq_getElem hlt]
      rfl
    rw [executeOpening, if_pos hpos, hprev, hpending]
    simp only [evaluateOpeningRiskExit_spec, bind, Except.bind]
    cases h : b.position with
    | none => simpa [Book.opening, h] using hfold _
    | some p =>
        cases hexit : p.openingExit controls index bar with
        | none => simpa [Book.opening, h, hexit] using hfold _
        | some exit =>
            simp [Book.opening, h, hexit, riskExit_spec h, toLoopState_ignore, pure,
              Except.pure]

theorem executeIntraday_spec (index : Nat) (bar : MarketBar) (state : Book × Bool) :
    executeIntraday index bar (state.1.toLoopState controls, state.2) =
      .ok ((Book.intraday controls index bar state).toLoopState controls) := by
  obtain ⟨b, closedAtOpen⟩ := state
  simp only [executeIntraday, evaluateIntradayRiskExit_spec]
  cases closedAtOpen with
  | true => simp [Book.intraday]
  | false =>
      cases h : b.position with
      | none => simp [Book.intraday, h, toLoopState_flat h, LoopState.initial]
      | some p =>
          have hq : 0 < (b.toLoopState controls).quantity := by
            simpa [toLoopState_holding h] using p.quantity_pos
          cases hexit : p.intradayExit controls index bar with
          | none => simp [Book.intraday, h, hexit]
          | some exit => simp [Book.intraday, h, hexit, hq, riskExit_spec h]

theorem executeBar_spec (hc : controls.Positive) {b : Book} (hs : b.Solvent)
    {item : MarketBar × Nat} (hbar : item.1.Positive) (hindex : item.2 < bars.length) :
    executeBar bars signals controls.stopLossPercent controls.takeProfitPercent
        (b.toLoopState controls) item =
      .ok ((b.bar controls (Book.pendingSignals bars signals item.2) item).toLoopState
        controls) := by
  obtain ⟨bar, index⟩ := item
  simp only [executeBar, executeOpening_spec hc hs hbar hindex, bind, Except.bind,
    executeIntraday_spec, pure, Except.pure, Book.bar]
  congr 1
  simp only [Book.toLoopState, Book.mark, Book.value, Book.shares]
  cases (Book.intraday controls index bar
    (b.opening controls index bar (Book.pendingSignals bars signals index))).position <;>
    simp

theorem validateRiskControl_pos {value : Option Decimal} (h : ∀ v ∈ value, 0 < v)
    (fieldName : String) : validateRiskControl value fieldName = .ok () := by
  cases value with
  | none => rfl
  | some v => simp [validateRiskControl, not_le.mpr (h v rfl)]

variable (signals) in
/-- The first `k` iterations of the engine compute the book after `k` bars and keep it
    solvent. -/
theorem executeBar_foldlM_take {startingCash : Decimal} (hcash : 0 < startingCash)
    (hc : controls.Positive) (hbars : ∀ bar ∈ bars, bar.Positive) (k : Nat) :
    (bars.zipIdx.take k).foldlM
        (executeBar bars signals controls.stopLossPercent controls.takeProfitPercent)
        (LoopState.initial startingCash) =
      .ok ((Book.run controls bars signals startingCash k).toLoopState controls) ∧
      (Book.run controls bars signals startingCash k).Solvent := by
  have hstep : ∀ b : Book, ∀ item ∈ bars.zipIdx.take k, b.Solvent →
      executeBar bars signals controls.stopLossPercent controls.takeProfitPercent
          (b.toLoopState controls) item =
        .ok ((b.bar controls (Book.pendingSignals bars signals item.2) item).toLoopState
          controls) ∧
      (b.bar controls (Book.pendingSignals bars signals item.2) item).Solvent := by
    intro b item hitem hb
    obtain ⟨hlt, hmem⟩ := List.mk_mem_zipIdx_iff_getElem?.mp (List.mem_of_mem_take hitem) |>
      List.getElem?_eq_some_iff.mp
    have hpos : item.1.Positive := hbars _ (hmem ▸ List.getElem_mem hlt)
    exact ⟨executeBar_spec hc hb hpos hlt, Book.bar_solvent hb hc _ hpos⟩
  exact Loop.foldlM_refines _ _ hstep (Book.initial_solvent hcash)

/-- The loop of the engine computes the run of the book and keeps it solvent. -/
theorem executeBar_foldlM {startingCash : Decimal} (hcash : 0 < startingCash)
    (hc : controls.Positive) (hbars : ∀ bar ∈ bars, bar.Positive) :
    bars.zipIdx.foldlM
        (executeBar bars signals controls.stopLossPercent controls.takeProfitPercent)
        (LoopState.initial startingCash) =
      .ok ((Book.run controls bars signals startingCash bars.length).toLoopState controls) ∧
      (Book.run controls bars signals startingCash bars.length).Solvent := by
  have h := executeBar_foldlM_take signals hcash hc hbars bars.length
  rwa [List.take_of_length_le (by simp)] at h

/-- The statements after the loop compute the liquidated book. -/
theorem finishExecution_spec (hne : bars ≠ []) (b : Book) :
    finishExecution bars (b.toLoopState controls) = .ok (b.liquidate bars).result := by
  have hlast : bars.getLast? = some (bars.getLast hne) := List.getLast?_eq_some_getLast hne
  cases h : b.position with
  | none =>
      simp [finishExecution, toLoopState_flat h, LoopState.initial, Book.liquidate, h,
        Book.result, bind, Except.bind, pure, Except.pure]
  | some p =>
      simp [finishExecution, toLoopState_holding h, p.quantity_pos, getLast_of_ne_nil hne,
        closePosition_spec, Book.liquidate, h, hlast, Book.close, Book.result,
        bind, Except.bind, pure, Except.pure]

/-- The engine never raises on bars with positive prices, and its result is that of
    the liquidated book. -/
theorem executeLongOnlySignals_eq {startingCash : Decimal} (hcash : 0 < startingCash)
    (hc : controls.Positive) (hne : bars ≠ []) (hbars : ∀ bar ∈ bars, bar.Positive) :
    executeLongOnlySignals bars signals startingCash controls.stopLossPercent
        controls.takeProfitPercent =
      .ok ((Book.run controls bars signals startingCash bars.length).liquidate bars).result := by
  have hempty : bars.isEmpty = false := by simpa using hne
  simp only [executeLongOnlySignals, not_le.mpr hcash, hempty, if_false,
    validateRiskControl_pos hc.1, validateRiskControl_pos hc.2,
    (executeBar_foldlM hcash hc hbars).1, finishExecution_spec hne, bind, Except.bind]
  rfl

end Run

end Backtesting
end TradingPlatform
