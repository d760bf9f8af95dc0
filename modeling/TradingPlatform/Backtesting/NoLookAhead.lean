/-
  TradingPlatform.Backtesting.NoLookAhead

  Two runs of one strategy on bar lists with a common prefix.

  The book after `n` bars is a function of the first `n` bars
  (`strategyRun_congr`), because the signals pending at a bar are those of the
  history before it.  What happens later only appends to the logs, with later
  exits; and the opening phase of bar `n` reads nothing of that bar but its
  timestamp and its open (`opening_congr`).
-/

import TradingPlatform.Backtesting.MarkToMarket
import TradingPlatform.Backtesting.StrategySemantics

namespace TradingPlatform
namespace Backtesting

open Schemas Services

/-- `execute_long_only_signals(bars, compile_strategy(spec).generate_signals(bars), …)` -/
def executeStrategy (specification : StrategySpecification) (bars : List MarketBar)
    (startingCash : Decimal) (stopLossPercent takeProfitPercent : Option Decimal) :
    Except PyError ExecutionResult := do
  let compiled ← compileStrategy specification
  let signals ← compiled.generateSignals bars
  executeLongOnlySignals bars signals startingCash stopLossPercent takeProfitPercent

/-- The book of a strategy after the first `k` bars. -/
def strategyRun (controls : RiskControls) (specification : StrategySpecification)
    (bars : List MarketBar) (startingCash : Decimal) (k : Nat) : Book :=
  Book.run controls bars (History.values specification.signalsOn bars).flatten startingCash k

section Execution

variable {specification : StrategySpecification} {bars : List MarketBar}
  {startingCash : Decimal} {controls : RiskControls}

theorem executeStrategy_eq (hvalid : validateStrategySemantics specification = .ok ())
    (hne : bars ≠ []) (hbars : ∀ bar ∈ bars, bar.Positive) (hcash : 0 < startingCash)
    (hc : controls.Positive) :
    executeStrategy specification bars startingCash controls.stopLossPercent
        controls.takeProfitPercent =
      .ok ((strategyRun controls specification bars startingCash
        bars.length).liquidate bars).result := by
  rw [executeStrategy, compileStrategy_spec hvalid, Python.ok_bind,
    generateSignals_spec (validateStrategySemantics_valid hvalid), Python.ok_bind,
    executeLongOnlySignals_eq hcash hc hne hbars, strategyRun]

/-- One more bar of a strategy: its pending signals are those of the history before it. -/
theorem strategyRun_succ (hdistinct : (timestamps bars).Nodup) {k : Nat}
    (hk : k < bars.length) :
    strategyRun controls specification bars startingCash (k + 1) =
      (strategyRun controls specification bars startingCash k).bar controls
        (specification.signalsOn (bars.take k)) (bars[k], k) := by
  rw [strategyRun, Book.run_succ _ _ _ hk, pendingSignals_spec specification hdistinct hk.le]
  rfl

end Execution

-- ============================================================================
-- The past of a run
-- ============================================================================

theorem getElem_eq_of_take_eq {bars bars' : List MarketBar} {n k : Nat}
    (h : bars.take n = bars'.take n) (hkn : k < n) (hk : k < bars.length)
    (hk' : k < bars'.length) : bars[k] = bars'[k] := by
  have hget : (bars.take n)[k]? = (bars'.take n)[k]? := by rw [h]
  rw [List.getElem?_take_of_lt hkn, List.getElem?_take_of_lt hkn,
    List.getElem?_eq_getElem hk, List.getElem?_eq_getElem hk', Option.some_inj] at hget
  exact hget

theorem take_eq_of_take_eq {bars bars' : List MarketBar} {n k : Nat}
    (h : bars.take n = bars'.take n) (hkn : k ≤ n) : bars.take k = bars'.take k := by
  have htake := congrArg (List.take k) h
  rwa [List.take_take, List.take_take, Nat.min_eq_left hkn] at htake

/-- The book after `k` bars depends on those bars only. -/
theorem strategyRun_congr {specification : StrategySpecification} {controls : RiskControls}
    {startingCash : Decimal} {bars bars' : List MarketBar} {n : Nat}
    (hdistinct : (timestamps bars).Nodup) (hdistinct' : (timestamps bars').Nodup)
    (hn : n ≤ bars.length) (hn' : n ≤ bars'.length) (h : bars.take n = bars'.take n) :
    ∀ k, k ≤ n → strategyRun controls specification bars startingCash k =
      strategyRun controls specification bars' startingCash k := by
  refine Loop.after_congr hn hn' ?_
  intro k hkn hk hk' b
  rw [pendingSignals_spec specification hdistinct hk.le,
    pendingSignals_spec specification hdistinct' hk'.le, take_eq_of_take_eq h hkn.le,
    getElem_eq_of_take_eq h hkn hk hk']

-- ============================================================================
-- The future of a run
-- ============================================================================

/-- A book that went on from `base` at bar `n`: the logs were only appended to, with
    trades closed at bar `n` or later, or by the final liquidation. -/
structure Book.Continues (bars : List MarketBar) (n : Nat) (base b : Book) : Prop where
  trades : ∃ later, b.trades = base.trades ++ later ∧
    ∀ t ∈ later, n ≤ t.exitIndex bars ∨ t.exitReason = .finalLiquidation
  equity : base.equity <+: b.equity

namespace Book

variable {bars : List MarketBar}

theorem Continues.refl (n : Nat) (b : Book) : b.Continues bars n b :=
  ⟨⟨[], (List.append_nil _).symm, fun _ ht => absurd ht List.not_mem_nil⟩,
    List.prefix_refl _⟩

theorem Continues.close {n : Nat} {base b : Book} (h : base.Continues bars n b)
    {p : OpenPosition} {bar : MarketBar} {exitPrice : Decimal} {reason : ExitReason}
    {exitSignal : Option Timestamp}
    (hlate : n ≤ barIndex bars bar.timestamp ∨ reason = .finalLiquidation) :
    base.Continues bars n (b.close p bar exitPrice reason exitSignal) := by
  obtain ⟨later, hlater, hexits⟩ := h.trades
  refine ⟨⟨later ++ [p.exitTrade bar.timestamp exitPrice reason exitSignal], ?_, ?_⟩,
    h.equity⟩
  · rw [← List.append_assoc, ← hlater]
    rfl
  · intro t ht
    rcases List.mem_append.mp ht with hold | hnew
    · exact hexits t hold
    · obtain rfl := List.mem_singleton.mp hnew
      exact hlate

theorem Continues.action {controls : RiskControls} {index n : Nat} {bar : MarketBar}
    {pending : List Signal} {base b b' : Book} (h : base.Continues bars n b)
    (hlate : n ≤ barIndex bars bar.timestamp)
    (haction : Action controls index bar pending b b') : base.Continues bars n b' := by
  cases haction with
  | ignore => exact ⟨h.trades, h.equity⟩
  | enter => exact ⟨h.trades, h.equity⟩
  | strategyExit => exact h.close (Or.inl hlate)
  | riskExit => exact h.close (Or.inl hlate)

theorem Continues.mark {n : Nat} {base b : Book} (h : base.Continues bars n b)
    (bar : MarketBar) : base.Continues bars n (b.mark bar) :=
  ⟨h.trades, h.equity.trans (List.prefix_append _ _)⟩

theorem Continues.liquidate {n : Nat} {base b : Book} (h : base.Continues bars n b) :
    base.Continues bars n (b.liquidate bars) := by
  unfold Book.liquidate
  split
  · exact h.close (Or.inr rfl)
  · exact h

/-- The final book of a run continues its book after `n` bars. -/
theorem run_continues (controls : RiskControls) (signals : List Signal)
    (startingCash : Decimal) (hdistinct : (timestamps bars).Nodup) {n : Nat}
    (hn : n ≤ bars.length) :
    (run controls bars signals startingCash n).Continues bars n
      ((run controls bars signals startingCash bars.length).liquidate bars) := by
  apply Continues.liquidate
  refine run_invariant_from (P := fun _ b => Continues bars n _ b)
    (Q := fun _ b => Continues bars n _ b) (Continues.refl n _) (fun _ _ _ h => h) ?_ ?_
    bars.length hn le_rfl
  · intro k hk hnk b b' haction h
    exact h.action (by rwa [barIndex_getElem hdistinct hk]) haction
  · exact fun k _ b h => h.mark _

/-- Only the final liquidation gives that reason. -/
theorem run_exitReason_ne {controls : RiskControls} {signals : List Signal}
    {startingCash : Decimal} : ∀ k, k ≤ bars.length →
      ∀ t ∈ (run controls bars signals startingCash k).trades,
        t.exitReason ≠ .finalLiquidation := by
  refine run_invariant (P := fun _ b => ∀ t ∈ b.trades, t.exitReason ≠ .finalLiquidation)
    (Q := fun _ b => ∀ t ∈ b.trades, t.exitReason ≠ .finalLiquidation)
    (fun _ ht => absurd ht List.not_mem_nil) (fun _ _ _ h => h) ?_ (fun _ _ _ h => h)
  intro k hk b b' haction h
  have hclose : ∀ (p : OpenPosition) price reason exitSignal,
      reason ≠ ExitReason.finalLiquidation →
      ∀ t ∈ (b.close p bars[k] price reason exitSignal).trades,
        t.exitReason ≠ .finalLiquidation := by
    intro p price reason exitSignal hreason t ht
    rcases List.mem_append.mp ht with hold | hnew
    · exact h t hold
    · obtain rfl := List.mem_singleton.mp hnew
      exact hreason
  cases haction with
  | ignore => exact h
  | enter => exact h
  | strategyExit => exact hclose _ _ _ _ (by decide)
  | riskExit hp hexit =>
      apply hclose
      rcases hexit with hopening | hintraday
      · rcases (OpenPosition.openingExit_eq_some hopening).2.2 with rfl | rfl <;> decide
      · rcases (OpenPosition.intradayExit_eq_some hintraday).2 with ⟨rfl, -⟩ | ⟨rfl, -⟩ <;>
          decide

end Book

-- ============================================================================
-- Fills at one open
-- ============================================================================

/-- The buy that opened a trade: signal, fill time, price and shares. -/
def CompletedTrade.buy (t : CompletedTrade) : Timestamp × Timestamp × Decimal × Int :=
  (t.signalTimestamp, t.entryTimestamp, t.entryPrice, t.quantity)

/-- The buys of a run that were filled at the given time. -/
def ExecutionResult.buysAt (r : ExecutionResult) (timestamp : Timestamp) :
    List (Timestamp × Timestamp × Decimal × Int) :=
  (r.completedTrades.filter (·.entryTimestamp = timestamp)).map (·.buy)

/-- The trades of a run that the strategy closed at the given time. -/
def ExecutionResult.strategyExitsAt (r : ExecutionResult) (timestamp : Timestamp) :
    List CompletedTrade :=
  r.completedTrades.filter fun t => t.exitTimestamp = timestamp ∧ t.exitReason = .strategyExit

/-- What of a trade is decided when it is bought. -/
def OpenPosition.buy (p : OpenPosition) : Timestamp × Timestamp × Decimal × Int :=
  (p.signalTimestamp, p.entryTimestamp, p.entryPrice, p.quantity)

namespace Book

/-- The buys of a book at the given time, closed since or still held. -/
def buysAt (b : Book) (timestamp : Timestamp) : List (Timestamp × Timestamp × Decimal × Int) :=
  (b.trades.filter (·.entryTimestamp = timestamp)).map (·.buy) ++
    (b.position.toList.filter (·.entryTimestamp = timestamp)).map (·.buy)

/-- The exits by signal that were filled at the open of a bar. -/
def strategyExitsAt (b : Book) (timestamp : Timestamp) : List CompletedTrade :=
  b.trades.filter fun t => t.exitTimestamp = timestamp ∧ t.exitReason = .strategyExit

/-- Two books with the same fills at the given time. -/
structure SameFills (timestamp : Timestamp) (b b' : Book) : Prop where
  buys : b'.buysAt timestamp = b.buysAt timestamp
  strategyExits : b'.strategyExitsAt timestamp = b.strategyExitsAt timestamp

theorem SameFills.refl (timestamp : Timestamp) (b : Book) : SameFills timestamp b b := ⟨rfl, rfl⟩

theorem SameFills.trans {timestamp : Timestamp} {b b' b'' : Book}
    (h : SameFills timestamp b b') (h' : SameFills timestamp b' b'') :
    SameFills timestamp b b'' :=
  ⟨h'.buys.trans h.buys, h'.strategyExits.trans h.strategyExits⟩

variable {timestamp : Timestamp} {b : Book}

/-- Closing a position moves its buy into the log; another time or another reason adds no
    strategy exit. -/
theorem close_sameFills {p : OpenPosition} (hp : b.position = some p) {bar : MarketBar}
    {exitPrice : Decimal} {reason : ExitReason} {exitSignal : Option Timestamp}
    (hother : bar.timestamp ≠ timestamp ∨ reason ≠ .strategyExit) :
    SameFills timestamp b (b.close p bar exitPrice reason exitSignal) where
  buys := by
    by_cases hentry : p.entryTimestamp = timestamp <;>
      simp [buysAt, close, hp, OpenPosition.exitTrade, CompletedTrade.buy, OpenPosition.buy,
        hentry]
  strategyExits := by
    have hnot : ¬ (bar.timestamp = timestamp ∧ reason = .strategyExit) := by tauto
    simp [strategyExitsAt, close, OpenPosition.exitTrade, List.filter_append, hnot]

theorem Action.sameFills {controls : RiskControls} {index : Nat} {bar : MarketBar}
    {pending : List Signal} {b' : Book} (hother : bar.timestamp ≠ timestamp)
    (haction : Action controls index bar pending b b') : SameFills timestamp b b' := by
  cases haction with
  | ignore => exact ⟨rfl, rfl⟩
  | enter _ _ hflat => exact ⟨by simp [buysAt, Book.enter, hflat, hother], rfl⟩
  | strategyExit _ _ hp => exact close_sameFills hp (Or.inl hother)
  | riskExit hp => exact close_sameFills hp (Or.inl hother)

/-- The trading hours of a bar fill no buy and no strategy exit. -/
theorem intraday_sameFills (controls : RiskControls) (index : Nat) (bar : MarketBar)
    (state : Book × Bool) :
    SameFills timestamp state.1 (intraday controls index bar state) := by
  rcases intraday_cases controls index bar state with
    ⟨p, price, reason, hp, hexit, heq⟩ | heq <;> rw [heq]
  · exact close_sameFills hp (Or.inr (OpenPosition.intradayExit_ne_strategyExit hexit))
  · exact .refl ..

theorem liquidate_sameFills (bars : List MarketBar) :
    SameFills timestamp b (b.liquidate bars) := by
  rcases liquidate_cases bars b with ⟨p, hlt, hp, heq⟩ | heq <;> rw [heq]
  · exact close_sameFills hp (Or.inr (by decide))
  · exact .refl ..

/-- The fills of a whole run at bar `n` are those of the opening phase of that bar. -/
theorem run_sameFills {controls : RiskControls} {bars : List MarketBar}
    {signals : List Signal} {startingCash : Decimal} (hdistinct : (timestamps bars).Nodup)
    {n : Nat} (hn : n < bars.length) :
    SameFills bars[n].timestamp
      ((run controls bars signals startingCash n).opening controls n bars[n]
        (pendingSignals bars signals n)).1
      ((run controls bars signals startingCash bars.length).liquidate bars) := by
  refine SameFills.trans ?_ (liquidate_sameFills bars)
  refine run_invariant_from (m := n + 1) (P := fun _ b => SameFills bars[n].timestamp _ b)
    (Q := fun _ b => SameFills bars[n].timestamp _ b) ?_ (fun _ _ _ h => h) ?_
    (fun _ _ _ h => h.trans ⟨rfl, rfl⟩) bars.length hn le_rfl
  · rw [run_succ _ _ _ hn]
    exact (intraday_sameFills ..).trans ⟨rfl, rfl⟩
  · intro k hk hnk b b' haction h
    exact h.trans (haction.sameFills (timestamp_ne hdistinct hk hn (by omega)))

/-- The opening phase reads the timestamp and the open of its bar, and nothing else. -/
theorem opening_congr (controls : RiskControls) (index : Nat) {bar bar' : MarketBar}
    (htimestamp : bar.timestamp = bar'.timestamp) (hopen : bar.openPrice = bar'.openPrice)
    (pending : List Signal) (b : Book) :
    b.opening controls index bar pending = b.opening controls index bar' pending := by
  obtain ⟨timestamp, openPrice, high, low, close, volume⟩ := bar
  obtain ⟨timestamp', openPrice', high', low', close', volume'⟩ := bar'
  obtain rfl : timestamp = timestamp' := htimestamp
  obtain rfl : openPrice = openPrice' := hopen
  rfl

end Book

-- ============================================================================
-- No look-ahead
-- ============================================================================

/-- The trades of a run closed before bar `n`, other than by the final liquidation. -/
def ExecutionResult.closedBefore (r : ExecutionResult) (bars : List MarketBar) (n : Nat) :
    List CompletedTrade :=
  r.completedTrades.filter fun t => t.exitIndex bars < n ∧ t.exitReason ≠ .finalLiquidation

section Result

variable {specification : StrategySpecification} {controls : RiskControls}
  {bars : List MarketBar} {startingCash : Decimal}

variable (specification) in
/-- The result of a strategy, cut at bar `n`, is the book after `n` bars. -/
theorem strategyRun_past (hcash : 0 < startingCash) (hc : controls.Positive)
    (hdistinct : (timestamps bars).Nodup) (hbars : ∀ bar ∈ bars, bar.Positive) {n : Nat}
    (hn : n ≤ bars.length) {past final : Book}
    (hpast : past = strategyRun controls specification bars startingCash n)
    (hfinal : final =
      (strategyRun controls specification bars startingCash bars.length).liquidate bars) :
    final.result.equityCurve.take n = past.equity ∧ past.equity.length = n ∧
      final.result.closedBefore bars n = past.trades := by
  have hcharted : past.Charted bars startingCash n n :=
    hpast ▸ Book.run_charted hcash hc hdistinct hbars n hn
  have hreasons : ∀ t ∈ past.trades, t.exitReason ≠ .finalLiquidation :=
    hpast ▸ Book.run_exitReason_ne n hn
  have hcontinues : past.Continues bars n final :=
    hpast ▸ hfinal ▸ Book.run_continues controls _ startingCash hdistinct hn
  obtain ⟨later, htrades, hlater⟩ := hcontinues.trades
  have hlength : past.equity.length = n := by
    have hmap := congrArg List.length hcharted.equity_timestamps
    simpa [Nat.min_eq_left hn] using hmap
  refine ⟨?_, hlength, ?_⟩
  · obtain ⟨rest, hrest⟩ := hcontinues.equity
    show final.equity.take n = past.equity
    rw [← hrest, ← hlength, List.take_left]
  · show final.trades.filter _ = past.trades
    have hkept : past.trades.filter
        (fun t => t.exitIndex bars < n ∧ t.exitReason ≠ .finalLiquidation) = past.trades :=
      List.filter_eq_self.mpr fun t ht =>
        decide_eq_true ⟨(hcharted.trades_placed t ht).exit_lt, hreasons t ht⟩
    have hdropped : later.filter
        (fun t => t.exitIndex bars < n ∧ t.exitReason ≠ .finalLiquidation) = [] := by
      refine List.filter_eq_nil_iff.mpr fun t ht hin => ?_
      obtain ⟨hlt, hreason⟩ := of_decide_eq_true hin
      rcases hlater t ht with hle | hfinal
      · omega
      · exact hreason hfinal
    rw [htrades, List.filter_append, hkept, hdropped, List.append_nil]

variable (specification controls startingCash) in
/-- The fills of a strategy at bar `n` are those of the opening phase on the book after
    `n` bars, with the signals of the first `n` bars. -/
theorem strategyRun_fills (hdistinct : (timestamps bars).Nodup) {n : Nat}
    (hn : n < bars.length) {final opened : Book}
    (hfinal : final =
      (strategyRun controls specification bars startingCash bars.length).liquidate bars)
    (hopened : opened = ((strategyRun controls specification bars startingCash n).opening
      controls n bars[n] (specification.signalsOn (bars.take n))).1) :
    final.result.buysAt bars[n].timestamp = opened.buysAt bars[n].timestamp ∧
      final.result.strategyExitsAt bars[n].timestamp =
        opened.strategyExitsAt bars[n].timestamp := by
  have hsame : Book.SameFills bars[n].timestamp opened final := by
    rw [hopened, hfinal, ← pendingSignals_spec specification hdistinct hn.le]
    exact Book.run_sameFills hdistinct hn
  have hflat : final.position = none := by
    have hlast : bars.getLast? = some (bars.getLast (List.ne_nil_of_length_pos (by omega))) :=
      List.getLast?_eq_some_getLast _
    exact hfinal ▸ (Book.liquidate_flat hlast).1
  refine ⟨?_, hsame.strategyExits⟩
  rw [← hsame.buys, Book.buysAt, hflat, Option.toList_none, List.filter_nil, List.map_nil,
    List.append_nil]
  rfl

end Result

/-- Two runs of a strategy on bar lists that agree on their first `n` bars have the same
    first `n` equity points and the same trades closed before bar `n`; if the lists also
    agree on the time and the open of bar `n`, the runs fill the same buys and the same
    strategy exits there. -/
theorem executeStrategy_noLookAhead (specification : StrategySpecification)
    (startingCash : Decimal) (controls : RiskControls) (bars bars' : List MarketBar) (n : Nat)
    (hvalid : validateStrategySemantics specification = .ok ())
    (hcash : 0 < startingCash) (hc : controls.Positive)
    (hn : 1 ≤ n) (hlength : n ≤ bars.length) (hlength' : n ≤ bars'.length)
    (horder : bars.Pairwise fun x y => x.timestamp < y.timestamp)
    (horder' : bars'.Pairwise fun x y => x.timestamp < y.timestamp)
    (hbars : ∀ bar ∈ bars, bar.Positive) (hbars' : ∀ bar ∈ bars', bar.Positive)
    (hagree : bars.take n = bars'.take n) :
    ∃ r r', executeStrategy specification bars startingCash controls.stopLossPercent
        controls.takeProfitPercent = .ok r ∧
      executeStrategy specification bars' startingCash controls.stopLossPercent
        controls.takeProfitPercent = .ok r' ∧
      r.equityCurve.take n = r'.equityCurve.take n ∧ (r.equityCurve.take n).length = n ∧
      r.closedBefore bars n = r'.closedBefore bars' n ∧
      (∀ (h : n < bars.length) (h' : n < bars'.length),
        bars[n].timestamp = bars'[n].timestamp → bars[n].openPrice = bars'[n].openPrice →
        r.buysAt bars[n].timestamp = r'.buysAt bars'[n].timestamp ∧
        r.strategyExitsAt bars[n].timestamp = r'.strategyExitsAt bars'[n].timestamp) := by
  have hdistinct := timestamps_nodup horder
  have hdistinct' := timestamps_nodup horder'
  have hne : bars ≠ [] := List.ne_nil_of_length_pos (by omega)
  have hne' : bars' ≠ [] := List.ne_nil_of_length_pos (by omega)
  have hsame : strategyRun controls specification bars startingCash n =
      strategyRun controls specification bars' startingCash n :=
    strategyRun_congr hdistinct hdistinct' hlength hlength' hagree n le_rfl
  obtain ⟨hequity, hpoints, hclosed⟩ := strategyRun_past specification
    hcash hc hdistinct hbars hlength rfl rfl
  obtain ⟨hequity', -, hclosed'⟩ := strategyRun_past specification
    hcash hc hdistinct' hbars' hlength' rfl rfl
  refine ⟨_, _, executeStrategy_eq hvalid hne hbars hcash hc,
    executeStrategy_eq hvalid hne' hbars' hcash hc, ?_, ?_, ?_, ?_⟩
  · rw [hequity, hequity', hsame]
  · rw [hequity, hpoints]
  · rw [hclosed, hclosed', hsame]
  · intro h h' htimestamp hopen
    obtain ⟨hbuys, hexits⟩ := strategyRun_fills specification controls startingCash
      hdistinct h rfl rfl
    obtain ⟨hbuys', hexits'⟩ := strategyRun_fills specification controls startingCash
      hdistinct' h' rfl rfl
    rw [hbuys, hbuys', hexits, hexits', hsame, hagree,
      Book.opening_congr controls n htimestamp hopen, htimestamp]
    exact ⟨rfl, rfl⟩

/-- Buy above a close of 10, sell below it: the third and fourth bars differ in everything
    but the open of the third. -/
theorem executeStrategy_noLookAhead_threshold :
    ∃ r r', executeStrategy (.ofRules ⟨.price "close", .greaterThan, .constant 10⟩
        ⟨.price "close", .lessThan, .constant 10⟩)
        [dailyBar 0 10 11 9 10, dailyBar 1 10 12 9 11, dailyBar 2 11 12 10 11] 105
        none none = .ok r ∧
      executeStrategy (.ofRules ⟨.price "close", .greaterThan, .constant 10⟩
        ⟨.price "close", .lessThan, .constant 10⟩)
        [dailyBar 0 10 11 9 10, dailyBar 1 10 12 9 11, dailyBar 2 11 14 8 9,
          dailyBar 3 8 9 7 8] 105 none none = .ok r' ∧
      r.equityCurve.take 2 = r'.equityCurve.take 2 ∧
      r.buysAt 172800000000 = r'.buysAt 172800000000 :=
  have ⟨r, r', hr, hr', hequity, _, _, hfills⟩ :=
    executeStrategy_noLookAhead (.ofRules ⟨.price "close", .greaterThan, .constant 10⟩
        ⟨.price "close", .lessThan, .constant 10⟩) 105 ⟨none, none⟩
      [dailyBar 0 10 11 9 10, dailyBar 1 10 12 9 11, dailyBar 2 11 12 10 11]
      [dailyBar 0 10 11 9 10, dailyBar 1 10 12 9 11, dailyBar 2 11 14 8 9,
        dailyBar 3 8 9 7 8] 2
      (by decide +kernel) (by decide +kernel) (by decide) (by decide) (by decide) (by decide)
      (by decide) (by decide) (by decide +kernel) (by decide +kernel) rfl
  ⟨r, r', hr, hr', hequity, (hfills (by decide) (by decide) rfl rfl).1⟩

end Backtesting
end TradingPlatform
