/-
  TradingPlatform.Backtesting.Magnitudes

  How large the numbers of a run can get.

  Stored prices lie between two positive bounds, and a share count is what
  `cash // open_price` returned, an integer of at most 28 digits.  The cash left
  by a purchase is less than one share, so the proceeds of the latest sale are
  all that a flat book holds: nothing accumulates over the trades of a run.
-/

import TradingPlatform.Backtesting.Accounting
import TradingPlatform.Backtesting.Metrics

namespace TradingPlatform
namespace Backtesting

/-- Bounds on the prices of a run and on the shares of a position. -/
structure Limits where
  low : Decimal
  high : Decimal
  shares : Decimal

namespace Limits

/-- Limits that can hold: prices are positive, and the bounds in order. -/
structure Sound (limits : Limits) : Prop where
  low_pos : 0 < limits.low
  low_le_high : limits.low ≤ limits.high
  shares_nonneg : 0 ≤ limits.shares

/-- What the shares of one position can be worth. -/
def proceeds (limits : Limits) : Decimal := limits.shares * limits.high

/-- The most that a run is ever worth. -/
def ceiling (limits : Limits) (startingCash : Decimal) : Decimal :=
  startingCash + limits.high + limits.proceeds

theorem Sound.high_nonneg {limits : Limits} (h : limits.Sound) : 0 ≤ limits.high :=
  h.low_pos.le.trans h.low_le_high

theorem Sound.proceeds_nonneg {limits : Limits} (h : limits.Sound) : 0 ≤ limits.proceeds :=
  mul_nonneg h.shares_nonneg h.high_nonneg

/-- Shares within the limit at a price within the limit. -/
theorem Sound.mul_le_proceeds {limits : Limits} (h : limits.Sound) {quantity price : Decimal}
    (hquantity : quantity ≤ limits.shares) (hprice : 0 ≤ price) (hhigh : price ≤ limits.high) :
    quantity * price ≤ limits.proceeds :=
  mul_le_mul hquantity hhigh hprice h.shares_nonneg

end Limits

/-- All prices of the bar are within the limits. -/
structure MarketBar.Within (limits : Limits) (bar : MarketBar) : Prop where
  consistent : bar.Consistent
  low_le : limits.low ≤ bar.lowPrice
  high_le : bar.highPrice ≤ limits.high

section Bars

variable {limits : Limits} {bar : MarketBar}

theorem MarketBar.Within.openPrice (h : bar.Within limits) :
    limits.low ≤ bar.openPrice ∧ bar.openPrice ≤ limits.high :=
  ⟨h.low_le.trans h.consistent.low_le_open, h.consistent.open_le_high.trans h.high_le⟩

theorem MarketBar.Within.closePrice (h : bar.Within limits) :
    limits.low ≤ bar.closePrice ∧ bar.closePrice ≤ limits.high :=
  ⟨h.low_le.trans h.consistent.low_le_close, h.consistent.close_le_high.trans h.high_le⟩

/-- A risk exit fills at the open, below the entry price, or inside the bar. -/
theorem riskExit_price_le {controls : RiskControls} (hc : controls.Positive)
    {p : OpenPosition} (hentry : p.entryPrice ≤ limits.high) (hbar : bar.Within limits)
    {index : Nat} {price : Decimal} {reason : ExitReason}
    (h : p.openingExit controls index bar = some (price, reason) ∨
      p.intradayExit controls index bar = some (price, reason)) : price ≤ limits.high := by
  rcases h with hopened | hinside
  · obtain ⟨-, rfl, -⟩ := OpenPosition.openingExit_eq_some hopened
    exact hbar.openPrice.2
  · obtain ⟨-, hlevel⟩ := OpenPosition.intradayExit_eq_some hinside
    rcases hlevel with ⟨-, hstop, -⟩ | ⟨-, -, hhigh⟩
    · obtain ⟨percent, hpercent, rfl⟩ := Option.map_eq_some_iff.mp hstop
      have hpos : 0 < percent / 100 := div_pos (hc.1 percent hpercent) (by norm_num)
      have hfactor : p.entryPrice * (1 - percent / 100) ≤ p.entryPrice * 1 :=
        mul_le_mul_of_nonneg_left (by linarith) p.entryPrice_pos.le
      linarith
    · exact hhigh.trans hbar.high_le

end Bars

-- ============================================================================
-- Trades
-- ============================================================================

/-- The numbers of a trade within the limits. -/
structure CompletedTrade.Within (limits : Limits) (t : CompletedTrade) : Prop where
  quantity : |(t.quantity : Decimal)| ≤ limits.shares
  entryPrice : 0 < t.entryPrice ∧ t.entryPrice ≤ limits.high
  exitPrice : 0 < t.exitPrice ∧ t.exitPrice ≤ limits.high
  profitLoss : |t.profitLoss| ≤ limits.proceeds
  returnPercentage : |t.returnPercentage| ≤ limits.high / limits.low * 100

theorem OpenPosition.exitTrade_within {limits : Limits} (hlimits : limits.Sound)
    {p : OpenPosition} (hlow : limits.low ≤ p.entryPrice) (hhigh : p.entryPrice ≤ limits.high)
    (hshares : (p.quantity : Decimal) ≤ limits.shares) {exitPrice : Decimal} (hpos : 0 < exitPrice)
    (hexit : exitPrice ≤ limits.high) (exitTimestamp : Timestamp) (reason : ExitReason)
    (exitSignal : Option Timestamp) :
    (p.exitTrade exitTimestamp exitPrice reason exitSignal).Within limits where
  quantity := by
    have hquantity : |((p.quantity : Int) : Decimal)| = p.quantity := by
      rw [Int.cast_natCast, abs_of_nonneg (Nat.cast_nonneg _)]
    exact hquantity.trans_le hshares
  entryPrice := ⟨p.entryPrice_pos, hhigh⟩
  exitPrice := ⟨hpos, hexit⟩
  profitLoss := by
    have hquantity : (0 : Decimal) ≤ p.quantity := Nat.cast_nonneg _
    have hproceeds := hlimits.mul_le_proceeds hshares hpos.le hexit
    have hcost := hlimits.mul_le_proceeds hshares p.entryPrice_pos.le hhigh
    have hsold : 0 ≤ p.quantity * exitPrice := mul_nonneg hquantity hpos.le
    have hbought := p.cost_pos.le
    simp only [exitTrade, cost] at hbought ⊢
    rw [abs_le]
    constructor <;> linarith
  returnPercentage := by
    have hquantity : (p.quantity : Decimal) ≠ 0 := Nat.cast_ne_zero.mpr p.quantity_pos.ne'
    have hentry := p.entryPrice_pos
    have hratio : (p.quantity * exitPrice - p.cost) / p.cost = exitPrice / p.entryPrice - 1 := by
      rw [sub_div, div_self p.cost_ne_zero, cost, mul_div_mul_left _ _ hquantity]
    have hone : 1 ≤ limits.high / limits.low := (one_le_div hlimits.low_pos).mpr hlimits.low_le_high
    have hquotient : exitPrice / p.entryPrice ≤ limits.high / limits.low :=
      div_le_div₀ hlimits.high_nonneg hexit hlimits.low_pos hlow
    have hpositive : 0 < exitPrice / p.entryPrice := div_pos hpos hentry
    simp only [exitTrade, hratio]
    rw [abs_mul, abs_of_pos (by norm_num : (0 : Decimal) < 100)]
    refine mul_le_mul_of_nonneg_right (abs_le.mpr ?_) (by norm_num)
    constructor <;> linarith

-- ============================================================================
-- Books
-- ============================================================================

namespace Book

/-- No position of the book, open or completed, has more shares. -/
structure SharesWithin (limits : Limits) (b : Book) : Prop where
  trades : ∀ t ∈ b.trades, (t.quantity : Decimal) ≤ limits.shares
  position : ∀ p ∈ b.position, (p.quantity : Decimal) ≤ limits.shares

/-- The numbers of a book are within the limits. -/
structure Within (limits : Limits) (startingCash : Decimal) (b : Book) : Prop where
  cash_le : b.cash ≤ limits.ceiling startingCash
  position : ∀ p ∈ b.position,
    limits.low ≤ p.entryPrice ∧ p.entryPrice ≤ limits.high ∧ b.cash ≤ limits.high
  trades : ∀ t ∈ b.trades, t.Within limits
  equity_le : ∀ point ∈ b.equity, point.equity ≤ limits.ceiling startingCash

section Actions

variable {limits : Limits} {startingCash : Decimal} {b b' : Book} {controls : RiskControls}
  {index : Nat} {bar : MarketBar} {pending : List Signal}

/-- A closed position is among the trades. -/
theorem SharesWithin.of_close {p : OpenPosition} (hp : b.position = some p)
    {exitPrice : Decimal} {reason : ExitReason} {exitSignal : Option Timestamp}
    (h : (b.close p bar exitPrice reason exitSignal).SharesWithin limits) :
    b.SharesWithin limits where
  trades t ht := h.trades t (List.mem_append_left _ ht)
  position q hq := by
    obtain rfl := Option.some.inj (hp.symm.trans hq)
    have hclosed := h.trades (p.exitTrade bar.timestamp exitPrice reason exitSignal)
      (List.mem_append_right _ (List.mem_singleton_self _))
    simpa [OpenPosition.exitTrade] using hclosed

/-- An action forgets no position. -/
theorem Action.sharesWithin (haction : Action controls index bar pending b b')
    (h : b'.SharesWithin limits) : b.SharesWithin limits := by
  cases haction with
  | ignore _ => exact ⟨h.trades, h.position⟩
  | enter _ _ hflat _ =>
      refine ⟨h.trades, fun p hp => ?_⟩
      rw [hflat] at hp
      cases hp
  | strategyExit _ _ hp => exact h.of_close hp
  | riskExit hp _ => exact h.of_close hp

theorem Within.close (hlimits : limits.Sound) (hcash : 0 < startingCash)
    (h : b.Within limits startingCash) (hshares : b.SharesWithin limits) {p : OpenPosition}
    (hp : b.position = some p) {exitPrice : Decimal} (hpos : 0 < exitPrice)
    (hexit : exitPrice ≤ limits.high) (reason : ExitReason) (exitSignal : Option Timestamp) :
    (b.close p bar exitPrice reason exitSignal).Within limits startingCash := by
  obtain ⟨hlow, hhigh, hrest⟩ := h.position p hp
  have hquantity := hshares.position p hp
  refine ⟨?_, fun q hq => (nomatch hq), ?_, h.equity_le⟩
  · have hproceeds := hlimits.mul_le_proceeds hquantity hpos.le hexit
    simp only [Book.close, Limits.ceiling]
    linarith
  · intro t ht
    rcases List.mem_append.mp ht with hold | hnew
    · exact h.trades t hold
    · obtain rfl := List.mem_singleton.mp hnew
      exact OpenPosition.exitTrade_within hlimits hlow hhigh hquantity hpos hexit ..

/-- A purchase leaves less than the price of one share. -/
theorem enter_cash_lt (b : Book) (index : Nat) {bar : MarketBar} (signal : Signal)
    (h : 0 < b.affordable bar ∧ 0 < bar.openPrice) :
    (b.enter index bar signal h).cash < bar.openPrice := by
  have hfloor : b.cash / bar.openPrice < b.affordable bar + 1 := Nat.lt_floor_add_one _
  rw [div_lt_iff₀ h.2] at hfloor
  simp only [enter]
  linarith

theorem Within.enter (hlimits : limits.Sound) (hcash : 0 < startingCash)
    (h : b.Within limits startingCash) (hbar : bar.Within limits) (index : Nat)
    (signal : Signal) (hshares : 0 < b.affordable bar ∧ 0 < bar.openPrice) :
    (b.enter index bar signal hshares).Within limits startingCash := by
  have hrest : (b.enter index bar signal hshares).cash ≤ limits.high :=
    (enter_cash_lt b index signal hshares).le.trans hbar.openPrice.2
  have hproceeds := hlimits.proceeds_nonneg
  refine ⟨?_, ?_, h.trades, h.equity_le⟩
  · rw [Limits.ceiling]
    linarith
  · intro p hp
    obtain rfl := Option.some.inj hp
    exact ⟨hbar.openPrice.1, hbar.openPrice.2, hrest⟩

theorem Action.within (hlimits : limits.Sound) (hcash : 0 < startingCash)
    (hc : controls.Positive) (hbar : bar.Within limits)
    (haction : Action controls index bar pending b b') (hshares : b.SharesWithin limits)
    (h : b.Within limits startingCash) : b'.Within limits startingCash := by
  cases haction with
  | ignore _ => exact ⟨h.cash_le, h.position, h.trades, h.equity_le⟩
  | enter _ _ _ haffordable => exact h.enter hlimits hcash hbar _ _ haffordable
  | strategyExit _ _ hp =>
      exact h.close hlimits hcash hshares hp hbar.consistent.positive.openPrice_pos
        hbar.openPrice.2 ..
  | riskExit hp hexit =>
      exact h.close hlimits hcash hshares hp
        (riskExit_price_pos hc hbar.consistent.positive hexit)
        (riskExit_price_le hc (h.position _ hp).2.1 hbar hexit) ..

/-- What a book is worth at a price within the limits. -/
theorem Within.value_le (hlimits : limits.Sound) (hcash : 0 < startingCash)
    (h : b.Within limits startingCash) (hshares : b.SharesWithin limits) {price : Decimal}
    (hpos : 0 ≤ price) (hprice : price ≤ limits.high) :
    b.value price ≤ limits.ceiling startingCash := by
  cases hp : b.position with
  | none => simpa [value, shares, hp] using h.cash_le
  | some p =>
      have hproceeds := hlimits.mul_le_proceeds (hshares.position p hp) hpos hprice
      have hrest := (h.position p hp).2.2
      simp only [value, shares, hp, Option.elim_some, Limits.ceiling]
      linarith

theorem Within.mark (hlimits : limits.Sound) (hcash : 0 < startingCash)
    (h : b.Within limits startingCash) (hshares : b.SharesWithin limits)
    (hbar : bar.Within limits) : (b.mark bar).Within limits startingCash where
  cash_le := h.cash_le
  position := h.position
  trades := h.trades
  equity_le := by
    intro point hpoint
    rcases List.mem_append.mp hpoint with hold | hnew
    · exact h.equity_le point hold
    · obtain rfl := List.mem_singleton.mp hnew
      exact h.value_le hlimits hcash hshares (hlimits.low_pos.le.trans hbar.closePrice.1)
        hbar.closePrice.2

end Actions

section Run

variable {limits : Limits} {startingCash : Decimal} {controls : RiskControls}
  {bars : List MarketBar} {signals : List Signal}

/-- A run whose positions are within the limit has all its numbers within the limits. -/
theorem run_within (hlimits : limits.Sound) (hcash : 0 < startingCash) (hc : controls.Positive)
    (hbars : ∀ bar ∈ bars, bar.Within limits) :
    ∀ k, k ≤ bars.length →
      (run controls bars signals startingCash k).SharesWithin limits →
      (run controls bars signals startingCash k).Within limits startingCash := by
  have hproceeds := hlimits.proceeds_nonneg
  have hhigh := hlimits.high_nonneg
  -- the positions of a later book are a bound on those of an earlier one
  refine run_invariant (Q := fun _ b => b.SharesWithin limits → b.Within limits startingCash)
    (P := fun _ b => b.SharesWithin limits → b.Within limits startingCash) ?_
    (fun _ _ _ h => h) ?_ ?_
  · intro _
    refine ⟨?_, fun p hp => (nomatch hp), fun t ht => (nomatch ht), fun e he => (nomatch he)⟩
    simp only [initial, Limits.ceiling]
    linarith
  · intro k hk b b' haction h hshares
    have hbefore := haction.sharesWithin hshares
    exact haction.within hlimits hcash hc (hbars _ (List.getElem_mem hk)) hbefore (h hbefore)
  · intro k hk b h hshares
    have hbefore : b.SharesWithin limits := ⟨hshares.trades, hshares.position⟩
    exact (h hbefore).mark hlimits hcash hbefore (hbars _ (List.getElem_mem hk))

theorem SharesWithin.of_liquidate {b : Book} (h : (b.liquidate bars).SharesWithin limits) :
    b.SharesWithin limits := by
  rcases liquidate_cases bars b with ⟨p, hlt, hp, heq⟩ | heq <;> rw [heq] at h
  · exact h.of_close hp
  · exact h

theorem Within.liquidate (hlimits : limits.Sound) (hcash : 0 < startingCash)
    (hbars : ∀ bar ∈ bars, bar.Within limits) {b : Book} (h : b.Within limits startingCash)
    (hshares : b.SharesWithin limits) : (b.liquidate bars).Within limits startingCash := by
  rcases liquidate_cases bars b with ⟨p, hlt, hp, heq⟩ | heq <;> rw [heq]
  · have hbar := hbars _ (List.getElem_mem hlt)
    exact h.close hlimits hcash hshares hp hbar.consistent.positive.closePrice_pos
      hbar.closePrice.2 ..
  · exact h

end Run
end Book

-- ============================================================================
-- The benchmark
-- ============================================================================

/-- The benchmark holds at most what its cash buys at the lowest price. -/
theorem buyAndHoldCurve_within {limits : Limits} (hlimits : limits.Sound)
    {startingCash : Decimal} (hcash : 0 < startingCash) {bars : List MarketBar}
    (hbars : ∀ bar ∈ bars, bar.Within limits) {startBar : MarketBar}
    (hstart : startBar.Within limits) (startIndex : Nat) :
    ∀ point ∈ buyAndHoldCurve bars startingCash startBar startIndex,
      0 ≤ point.equity ∧
        point.equity ≤ startingCash + startingCash / limits.low * limits.high := by
  intro point hpoint
  obtain ⟨bar, hbar, rfl⟩ := List.mem_map.mp hpoint
  have hopen := hstart.openPrice
  have hclose := (hbars bar (List.mem_of_mem_drop hbar)).closePrice
  have hpositive : 0 < startBar.openPrice := hlimits.low_pos.trans_le hopen.1
  have hquantity : (⌊startingCash / startBar.openPrice⌋₊ : Decimal) ≤
      startingCash / startBar.openPrice := Nat.floor_le (div_nonneg hcash.le hpositive.le)
  have hspent := (le_div_iff₀ hpositive).mp hquantity
  have hshares : (⌊startingCash / startBar.openPrice⌋₊ : Decimal) ≤
      startingCash / limits.low :=
    hquantity.trans (div_le_div_of_nonneg_left hcash.le hlimits.low_pos hopen.1)
  have hnonneg : (0 : Decimal) ≤ ⌊startingCash / startBar.openPrice⌋₊ := Nat.cast_nonneg _
  have hclosePos : 0 ≤ bar.closePrice := hlimits.low_pos.le.trans hclose.1
  have hworth : ⌊startingCash / startBar.openPrice⌋₊ * bar.closePrice ≤
      startingCash / limits.low * limits.high :=
    mul_le_mul hshares hclose.2 hclosePos (div_nonneg hcash.le hlimits.low_pos.le)
  have hheld := mul_nonneg hnonneg hclosePos
  have hcost := mul_nonneg hnonneg hpositive.le
  constructor <;> dsimp only <;> linarith

end Backtesting
end TradingPlatform
