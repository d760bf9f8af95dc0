/-
  TradingPlatform.Backtesting.Accounting

  The accounting law of a run: cash is tied to the trade log on every path that
  touches it, so the final value is the starting cash plus the realized profit,
  each position was sized from the cash realized before it, and nothing the run
  reports (fills, equity) is ever zero or negative.
-/

import TradingPlatform.Backtesting.EngineRefinement

namespace TradingPlatform
namespace Backtesting

/-- Profit and loss realized by a list of trades. -/
def realized (trades : List CompletedTrade) : Decimal := (trades.map (·.profitLoss)).sum

@[simp] theorem realized_nil : realized [] = 0 := rfl

@[simp] theorem realized_append_singleton (trades : List CompletedTrade)
    (t : CompletedTrade) : realized (trades ++ [t]) = realized trades + t.profitLoss := by
  simp [realized]

/-- A whole-share quantity bought with `cash` at `price`. -/
def sizedFrom (cash price : Decimal) : Int := ⌊cash / price⌋

/-- A completed trade that was sized from `cash`, with positive fills and the profit
    its fills give. -/
structure CompletedTrade.Booked (cash : Decimal) (t : CompletedTrade) : Prop where
  quantity_eq : t.quantity = sizedFrom cash t.entryPrice
  quantity_pos : 1 ≤ t.quantity
  entryPrice_pos : 0 < t.entryPrice
  exitPrice_pos : 0 < t.exitPrice
  profitLoss_eq : t.profitLoss = t.quantity * (t.exitPrice - t.entryPrice)

/-- The loop invariant: cash against the trade log, and what the logs hold. -/
structure Book.Accounted (startingCash : Decimal) (b : Book) : Prop where
  solvent : b.Solvent
  balance : b.cash + b.position.elim 0 OpenPosition.cost = startingCash + realized b.trades
  position_sized : ∀ p ∈ b.position,
    (p.quantity : Int) = sizedFrom (startingCash + realized b.trades) p.entryPrice
  trades_booked : ∀ earlier t, earlier ++ [t] <+: b.trades →
    t.Booked (startingCash + realized earlier)
  equity_pos : ∀ point ∈ b.equity, 0 < point.equity

namespace Book

theorem initial_accounted {startingCash : Decimal} (h : 0 < startingCash) :
    (initial startingCash).Accounted startingCash where
  solvent := initial_solvent h
  balance := by simp [initial]
  position_sized := fun p hp => nomatch hp
  trades_booked := fun earlier t hpre => by simp [initial] at hpre
  equity_pos := fun point hpoint => nomatch hpoint

theorem ignore_accounted {startingCash : Decimal} {b : Book} (h : b.Accounted startingCash)
    (signals : List Signal) : (b.ignore signals).Accounted startingCash :=
  ⟨⟨h.solvent.1, h.solvent.2⟩, h.balance, h.position_sized, h.trades_booked, h.equity_pos⟩

/-- Selling a position at a positive price moves its cost into the trade log. -/
theorem close_accounted {startingCash : Decimal} {b : Book} (h : b.Accounted startingCash)
    {p : OpenPosition} (hp : b.position = some p) (bar : MarketBar) {exitPrice : Decimal}
    (hprice : 0 < exitPrice) (reason : ExitReason) (exitSignal : Option Timestamp) :
    (b.close p bar exitPrice reason exitSignal).Accounted startingCash where
  solvent := close_solvent h.solvent p bar hprice reason exitSignal
  balance := by
    have hbal := h.balance
    simp only [hp, Option.elim_some] at hbal
    simp only [close, realized_append_singleton, OpenPosition.exitTrade, Option.elim_none]
    linarith
  position_sized := fun q hq => nomatch hq
  trades_booked := by
    intro earlier t hpre
    rcases List.prefix_concat_iff.mp hpre with heq | hpre
    · obtain ⟨rfl, ht⟩ := List.append_inj' heq rfl
      obtain rfl : t = _ := List.head_eq_of_cons_eq ht
      refine ⟨h.position_sized p hp, ?_, p.entryPrice_pos, hprice, ?_⟩
      · have hq := p.quantity_pos
        show (1 : Int) ≤ p.quantity
        omega
      · simp only [OpenPosition.exitTrade, OpenPosition.cost, Int.cast_natCast]
        ring
    · exact h.trades_booked earlier t hpre
  equity_pos := h.equity_pos

/-- Entering a position spends the whole-share part of the realized cash. -/
theorem enter_accounted {startingCash : Decimal} {b : Book} (h : b.Accounted startingCash)
    (hflat : b.position = none) (index : Nat) {bar : MarketBar} (signal : Signal)
    (hshares : 0 < b.affordable bar ∧ 0 < bar.openPrice) :
    (b.enter index bar signal hshares).Accounted startingCash := by
  have hbal : b.cash = startingCash + realized b.trades := by
    simpa [hflat] using h.balance
  have hle := affordable_mul_le h.solvent hshares.2
  refine ⟨⟨sub_nonneg.mpr hle, fun hnone => nomatch hnone⟩, ?_, ?_, h.trades_booked,
    h.equity_pos⟩
  · simp only [enter, Option.elim_some, OpenPosition.cost, ← hbal]
    ring
  · intro p hp
    obtain rfl := Option.some.inj hp
    have hnonneg : 0 ≤ b.cash / bar.openPrice :=
      div_nonneg h.solvent.cash_nonneg hshares.2.le
    rw [sizedFrom, enter, ← hbal]
    exact Int.natCast_floor_eq_floor hnonneg

theorem Action.accounted {startingCash : Decimal} {controls : RiskControls}
    (hc : controls.Positive) {index : Nat} {bar : MarketBar} (hbar : bar.Positive)
    {pending : List Signal} {b b' : Book} (haction : Action controls index bar pending b b')
    (h : b.Accounted startingCash) : b'.Accounted startingCash := by
  cases haction with
  | ignore => exact ignore_accounted h _
  | enter _ _ hflat hshares => exact enter_accounted h hflat index _ hshares
  | strategyExit _ _ hp => exact close_accounted h hp bar hbar.openPrice_pos _ _
  | riskExit hp hexit => exact close_accounted h hp bar (riskExit_price_pos hc hbar hexit) _ _

/-- A solvent book is worth something at every positive price. -/
theorem value_pos {b : Book} (h : b.Solvent) {price : Decimal} (hprice : 0 < price) :
    0 < b.value price := by
  cases hp : b.position with
  | none => simpa [value, shares, hp] using h.cash_pos hp
  | some p =>
      have hq : (0 : ℚ) < p.quantity := by exact_mod_cast p.quantity_pos
      have hmarket : 0 < p.quantity * price := mul_pos hq hprice
      simp only [value, shares, hp, Option.elim_some]
      linarith [h.cash_nonneg]

theorem mark_accounted {startingCash : Decimal} {b : Book} (h : b.Accounted startingCash)
    {bar : MarketBar} (hbar : bar.Positive) : (b.mark bar).Accounted startingCash where
  solvent := ⟨h.solvent.1, h.solvent.2⟩
  balance := h.balance
  position_sized := h.position_sized
  trades_booked := h.trades_booked
  equity_pos := by
    intro point hpoint
    rcases List.mem_append.mp hpoint with hold | hnew
    · exact h.equity_pos point hold
    · obtain rfl := List.mem_singleton.mp hnew
      exact value_pos h.solvent hbar.closePrice_pos

section Run

variable {controls : RiskControls} {bars : List MarketBar} {signals : List Signal}
  {startingCash : Decimal}

theorem run_accounted (hcash : 0 < startingCash) (hc : controls.Positive)
    (hbars : ∀ bar ∈ bars, bar.Positive) :
    ∀ k, k ≤ bars.length →
      (run controls bars signals startingCash k).Accounted startingCash := by
  refine run_invariant (Q := fun _ b => b.Accounted startingCash) (initial_accounted hcash)
    (fun _ _ _ h => h) ?_ ?_
  · intro k hk b b' haction h
    exact haction.accounted hc (hbars _ (List.getElem_mem hk)) h
  · intro k hk b h
    exact mark_accounted h (hbars _ (List.getElem_mem hk))

/-- The last equity point of a run is the book's value at the last close. -/
theorem run_equity_getLast? {last : MarketBar} (hlast : bars.getLast? = some last) :
    (run controls bars signals startingCash bars.length).equity.getLast? =
      some ⟨last.timestamp,
        (run controls bars signals startingCash bars.length).value last.closePrice⟩ := by
  rw [List.getLast?_eq_getElem?] at hlast
  obtain ⟨hlt, rfl⟩ := List.getElem?_eq_some_iff.mp hlast
  have hrun := run_succ controls signals startingCash hlt
  rw [Nat.sub_add_cancel (by omega)] at hrun
  rw [hrun]
  simp only [bar, mark, List.getLast?_append, List.getLast?_singleton, Option.some_or]
  rfl

theorem liquidate_accounted (hbars : ∀ bar ∈ bars, bar.Positive)
    {b : Book} (h : b.Accounted startingCash) : (b.liquidate bars).Accounted startingCash := by
  rcases liquidate_cases bars b with ⟨p, hlt, hp, heq⟩ | heq <;> rw [heq]
  · have hmem : bars[bars.length - 1] ∈ bars := List.getElem_mem hlt
    exact close_accounted h hp _ (hbars _ hmem).closePrice_pos _ _
  · exact h

/-- Liquidation leaves a flat book holding its value at the last close. -/
theorem liquidate_flat {b : Book} {last : MarketBar} (hlast : bars.getLast? = some last) :
    (b.liquidate bars).position = none ∧
      (b.liquidate bars).cash = b.value last.closePrice ∧
      (b.liquidate bars).equity = b.equity := by
  cases hp : b.position with
  | none => simp [liquidate, hp, value, shares]
  | some p => simp [liquidate, hp, hlast, close, value, shares]

end Run
end Book

-- ============================================================================
-- The accounting law
-- ============================================================================

/-- The accounting law of the engine: the run never raises; profit is the sum of the
    fills; the final value is starting cash plus profit and is the last equity point;
    each trade is sized from the cash realized before it; every reported price and
    equity is positive. -/
theorem executeLongOnlySignals_accounting (bars : List MarketBar) (signals : List Signal)
    (startingCash : Decimal) (controls : RiskControls) (hne : bars ≠ [])
    (hbars : ∀ bar ∈ bars, bar.Consistent) (hcash : 0 < startingCash)
    (hc : controls.Positive) :
    ∃ r, executeLongOnlySignals bars signals startingCash controls.stopLossPercent
        controls.takeProfitPercent = .ok r ∧
      r.totalRealizedProfitLoss =
        (r.completedTrades.map fun t => (t.quantity : ℚ) * (t.exitPrice - t.entryPrice)).sum ∧
      r.finalPortfolioValue = startingCash + r.totalRealizedProfitLoss ∧
      r.equityCurve.getLast?.map (·.equity) = some r.finalPortfolioValue ∧
      (∀ k (hk : k < r.completedTrades.length),
        r.completedTrades[k].quantity =
          ⌊(startingCash + ((r.completedTrades.take k).map (·.profitLoss)).sum) /
            r.completedTrades[k].entryPrice⌋ ∧
        1 ≤ r.completedTrades[k].quantity) ∧
      (∀ t ∈ r.completedTrades, 0 < t.entryPrice ∧ 0 < t.exitPrice) ∧
      (∀ point ∈ r.equityCurve, 0 < point.equity) := by
  have hpositive : ∀ bar ∈ bars, bar.Positive := fun bar hbar => (hbars bar hbar).positive
  refine ⟨_, executeLongOnlySignals_eq hcash hc hne hpositive, ?_⟩
  have hlast : bars.getLast? = some (bars.getLast hne) := List.getLast?_eq_some_getLast hne
  have hrun : (Book.run controls bars signals startingCash bars.length).Accounted startingCash :=
    Book.run_accounted hcash hc hpositive bars.length le_rfl
  have hfinal := Book.liquidate_accounted hpositive hrun
  obtain ⟨hflat, hvalue, hequity⟩ := Book.liquidate_flat
    (b := Book.run controls bars signals startingCash bars.length) hlast
  set final := (Book.run controls bars signals startingCash bars.length).liquidate bars
  have hbooked : ∀ k (hk : k < final.trades.length),
      final.trades[k].Booked (startingCash + realized (final.trades.take k)) := by
    intro k hk
    apply hfinal.trades_booked
    rw [← List.take_succ_eq_append_getElem hk]
    exact List.take_prefix _ _
  have hmem : ∀ t ∈ final.trades, ∃ cash, t.Booked cash := by
    intro t ht
    obtain ⟨k, hk, rfl⟩ := List.mem_iff_getElem.mp ht
    exact ⟨_, hbooked k hk⟩
  refine ⟨?_, ?_, ?_, ?_, ?_, ?_⟩
  · show realized final.trades = _
    rw [realized]
    congr 1
    apply List.map_congr_left
    intro t ht
    obtain ⟨_, hbooked⟩ := hmem t ht
    exact hbooked.profitLoss_eq
  · have hbal := hfinal.balance
    rw [hflat, Option.elim_none, add_zero] at hbal
    exact hbal
  · show final.equity.getLast?.map (·.equity) = some final.cash
    rw [hequity, hvalue, Book.run_equity_getLast? hlast]
    rfl
  · intro k hk
    exact ⟨(hbooked k hk).quantity_eq, (hbooked k hk).quantity_pos⟩
  · intro t ht
    obtain ⟨_, hbooked⟩ := hmem t ht
    exact ⟨hbooked.entryPrice_pos, hbooked.exitPrice_pos⟩
  · exact hfinal.equity_pos

/-- Three bars, a buy on the first, a stop loss far above 100% and a take profit that is hit. -/
theorem executeLongOnlySignals_accounting_take_profit :
    ∃ r, executeLongOnlySignals [dailyBar 0 10 11 9 10, dailyBar 1 10 11 9 10,
        dailyBar 2 10 14 9 12] [⟨0, .buy⟩] 105 (some 150) (some 10) = .ok r ∧
      r.finalPortfolioValue = 105 + r.totalRealizedProfitLoss ∧
      ∀ point ∈ r.equityCurve, 0 < point.equity :=
  have ⟨r, hr, _, hfinal, _, _, _, hequity⟩ :=
    executeLongOnlySignals_accounting [dailyBar 0 10 11 9 10, dailyBar 1 10 11 9 10,
      dailyBar 2 10 14 9 12] [⟨0, .buy⟩] 105 ⟨some 150, some 10⟩ (by decide)
      (by decide +kernel) (by decide +kernel) (by decide +kernel)
  ⟨r, hr, hfinal, hequity⟩

end Backtesting
end TradingPlatform
