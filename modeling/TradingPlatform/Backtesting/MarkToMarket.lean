/-
  TradingPlatform.Backtesting.MarkToMarket

  The equity curve as a function of the trade log.

  `markToMarket` values a trade log at the close of a bar: realized profit of
  the trades closed by then, and paper profit of the trades held over it.  The
  loop invariant `Charted` says that every equity point written so far is the
  mark-to-market of the trades completed so far plus the open position, and
  places each trade on the timeline.
-/

import TradingPlatform.Backtesting.Accounting
import TradingPlatform.Backtesting.Timeline

namespace TradingPlatform
namespace Backtesting

-- ============================================================================
-- Valuing a trade log
-- ============================================================================

/-- The entry and exit bars of a trade. -/
def CompletedTrade.entryIndex (bars : List MarketBar) (t : CompletedTrade) : Nat :=
  barIndex bars t.entryTimestamp

/-- The index of the bar on which the trade was closed. -/
def CompletedTrade.exitIndex (bars : List MarketBar) (t : CompletedTrade) : Nat :=
  barIndex bars t.exitTimestamp

/-- The value of a trade log at the close of bar `i`. -/
def markToMarket (bars : List MarketBar) (startingCash : Decimal)
    (trades : List CompletedTrade) (i : Nat) (closePrice : Decimal) : Decimal :=
  startingCash +
    ((trades.filter fun t => t.exitIndex bars ≤ i).map (·.profitLoss)).sum +
    ((trades.filter fun t => t.entryIndex bars ≤ i ∧ i < t.exitIndex bars).map
      fun t => (t.quantity : ℚ) * (closePrice - t.entryPrice)).sum

/-- What one trade adds to the value of the log at the close of bar `i`. -/
def CompletedTrade.contribution (bars : List MarketBar) (i : Nat) (closePrice : Decimal)
    (t : CompletedTrade) : Decimal :=
  if t.exitIndex bars ≤ i then t.profitLoss
  else if t.entryIndex bars ≤ i then t.quantity * (closePrice - t.entryPrice)
  else 0

/-- What the open position adds at the close of bar `i`. -/
def OpenPosition.contribution (bars : List MarketBar) (i : Nat) (closePrice : Decimal)
    (p : OpenPosition) : Decimal :=
  if barIndex bars p.entryTimestamp ≤ i then p.quantity * (closePrice - p.entryPrice) else 0

theorem markToMarket_eq_sum_contribution (bars : List MarketBar) (startingCash : Decimal)
    (trades : List CompletedTrade) (i : Nat) (closePrice : Decimal) :
    markToMarket bars startingCash trades i closePrice =
      startingCash + (trades.map (CompletedTrade.contribution bars i closePrice)).sum := by
  rw [markToMarket, add_assoc]
  congr 1
  induction trades with
  | nil => simp
  | cons t rest ih =>
      rw [List.map_cons, List.sum_cons, ← ih, CompletedTrade.contribution]
      by_cases hclosed : t.exitIndex bars ≤ i
      · have hheld : ¬ i < t.exitIndex bars := by omega
        simp [hclosed, hheld]
        ring
      · have hheld : i < t.exitIndex bars := by omega
        by_cases hentered : t.entryIndex bars ≤ i
        · simp [hclosed, hheld, hentered]
          ring
        · simp [hclosed, hheld, hentered]

/-- A closed position contributes to earlier bars what it contributed while open. -/
theorem contribution_exitTrade {bars : List MarketBar} {p : OpenPosition} {i : Nat}
    {exitTimestamp : Timestamp} (hi : i < barIndex bars exitTimestamp)
    (closePrice exitPrice : Decimal) (reason : ExitReason) (exitSignal : Option Timestamp) :
    (p.exitTrade exitTimestamp exitPrice reason exitSignal).contribution bars i closePrice =
      p.contribution bars i closePrice := by
  have hclosed : ¬ barIndex bars exitTimestamp ≤ i := by omega
  simp [CompletedTrade.contribution, OpenPosition.contribution, CompletedTrade.exitIndex,
    CompletedTrade.entryIndex, OpenPosition.exitTrade, hclosed]

/-- Sold at the close it is marked at, a position contributes its paper profit. -/
theorem contribution_exitTrade_self {bars : List MarketBar} {p : OpenPosition} {i : Nat}
    {exitTimestamp : Timestamp} (hi : barIndex bars exitTimestamp = i)
    (hentry : barIndex bars p.entryTimestamp ≤ i) (closePrice : Decimal)
    (reason : ExitReason) (exitSignal : Option Timestamp) :
    (p.exitTrade exitTimestamp closePrice reason exitSignal).contribution bars i closePrice =
      p.contribution bars i closePrice := by
  simp only [CompletedTrade.contribution, OpenPosition.contribution,
    CompletedTrade.exitIndex, OpenPosition.exitTrade, OpenPosition.cost, hi, hentry,
    le_refl, if_true]
  ring

-- ============================================================================
-- The loop invariant
-- ============================================================================

/-- An entry fill: its bar exists, and its signal is stamped with the bar before. -/
structure EnteredAt (bars : List MarketBar) (entryTimestamp signalTimestamp : Timestamp) :
    Prop where
  index_pos : 0 < barIndex bars entryTimestamp
  timestamp_eq : (timestamps bars)[barIndex bars entryTimestamp]? = some entryTimestamp
  signal_eq : (timestamps bars)[barIndex bars entryTimestamp - 1]? = some signalTimestamp

/-- A trade on the timeline, exited before bar `m`. -/
structure CompletedTrade.Placed (bars : List MarketBar) (m : Nat) (t : CompletedTrade) :
    Prop where
  entered : EnteredAt bars t.entryTimestamp t.signalTimestamp
  entry_le_exit : t.entryIndex bars ≤ t.exitIndex bars
  exit_lt : t.exitIndex bars < m
  exit_timestamp_eq : (timestamps bars)[t.exitIndex bars]? = some t.exitTimestamp

/-- After `n` marked closes, with every fill before bar `m`. -/
structure Book.Charted (bars : List MarketBar) (startingCash : Decimal) (n m : Nat)
    (b : Book) : Prop where
  accounted : b.Accounted startingCash
  trades_placed : ∀ t ∈ b.trades, t.Placed bars m
  trades_ordered : b.trades.Pairwise fun t u => t.exitIndex bars ≤ u.entryIndex bars
  position_entered : ∀ p ∈ b.position, EnteredAt bars p.entryTimestamp p.signalTimestamp
  position_lt : ∀ p ∈ b.position, barIndex bars p.entryTimestamp < m
  position_after : ∀ p ∈ b.position, ∀ t ∈ b.trades,
    t.exitIndex bars ≤ barIndex bars p.entryTimestamp
  equity_timestamps : b.equity.map (·.timestamp) = (timestamps bars).take n
  equity_eq : ∀ i bar, i < n → bars[i]? = some bar →
    b.equity[i]?.map (·.equity) =
      some (startingCash + (b.trades.map (CompletedTrade.contribution bars i bar.closePrice)).sum
        + b.position.elim 0 (OpenPosition.contribution bars i bar.closePrice))

namespace Book

variable {bars : List MarketBar} {startingCash : Decimal}

theorem initial_charted (h : 0 < startingCash) :
    (initial startingCash).Charted bars startingCash 0 0 where
  accounted := initial_accounted h
  trades_placed := fun _ ht => absurd ht List.not_mem_nil
  trades_ordered := .nil
  position_entered := nofun
  position_lt := nofun
  position_after := nofun
  equity_timestamps := rfl
  equity_eq := fun i _ hi => absurd hi (Nat.not_lt_zero i)

theorem Charted.mono {b : Book} {n m m' : Nat} (h : b.Charted bars startingCash n m)
    (hm : m ≤ m') : b.Charted bars startingCash n m' where
  accounted := h.accounted
  trades_placed := fun t ht =>
    let ht' := h.trades_placed t ht
    ⟨ht'.entered, ht'.entry_le_exit, lt_of_lt_of_le ht'.exit_lt hm, ht'.exit_timestamp_eq⟩
  trades_ordered := h.trades_ordered
  position_entered := h.position_entered
  position_lt := fun p hp => lt_of_lt_of_le (h.position_lt p hp) hm
  position_after := h.position_after
  equity_timestamps := h.equity_timestamps
  equity_eq := h.equity_eq

theorem ignore_charted {b : Book} {n m : Nat} (h : b.Charted bars startingCash n m)
    (signals : List Signal) : (b.ignore signals).Charted bars startingCash n m where
  accounted := ignore_accounted h.accounted signals
  trades_placed := h.trades_placed
  trades_ordered := h.trades_ordered
  position_entered := h.position_entered
  position_lt := h.position_lt
  position_after := h.position_after
  equity_timestamps := h.equity_timestamps
  equity_eq := h.equity_eq

/-- Closing the position at bar `k` leaves the points of the marked bars right: those
    before bar `k` see an open position, a point at bar `k` sees the price of the sale. -/
theorem close_charted {b : Book} {n k : Nat} (hk : k < bars.length) (hn : n ≤ k + 1)
    (hdistinct : (timestamps bars).Nodup) (h : b.Charted bars startingCash n (k + 1))
    {p : OpenPosition} (hp : b.position = some p) {exitPrice : Decimal}
    (hprice : 0 < exitPrice) (hlast : n = k + 1 → exitPrice = bars[k].closePrice)
    (reason : ExitReason) (exitSignal : Option Timestamp) :
    (b.close p bars[k] exitPrice reason exitSignal).Charted bars startingCash n (k + 1) := by
  have hindex := barIndex_getElem hdistinct hk
  have hentry : barIndex bars p.entryTimestamp ≤ k := Nat.le_of_lt_succ (h.position_lt p hp)
  refine ⟨close_accounted h.accounted hp bars[k] hprice reason exitSignal, ?_, ?_,
    nofun, nofun, nofun, h.equity_timestamps, ?_⟩
  · intro t ht
    rcases List.mem_append.mp ht with hold | hnew
    · exact h.trades_placed t hold
    · obtain rfl := List.mem_singleton.mp hnew
      refine ⟨h.position_entered p hp, ?_, ?_, ?_⟩
      · simpa [CompletedTrade.entryIndex, CompletedTrade.exitIndex, OpenPosition.exitTrade,
          hindex] using hentry
      · simp [CompletedTrade.exitIndex, OpenPosition.exitTrade, hindex]
      · simp [CompletedTrade.exitIndex, OpenPosition.exitTrade, hindex, hk, timestamps]
  · refine List.pairwise_append.mpr ⟨h.trades_ordered, List.pairwise_singleton .., ?_⟩
    intro t ht u hu
    obtain rfl := List.mem_singleton.mp hu
    exact h.position_after p hp t ht
  · intro i bar hi hbar
    have hcontribution :
        (p.exitTrade bars[k].timestamp exitPrice reason exitSignal).contribution bars i
            bar.closePrice = p.contribution bars i bar.closePrice := by
      rcases Nat.lt_or_eq_of_le (Nat.le_of_lt_succ (lt_of_lt_of_le hi hn)) with hlt | rfl
      · exact contribution_exitTrade (by omega) _ _ _ _
      · obtain rfl : bars[i] = bar := by simpa [hk] using hbar
        rw [hlast (by omega)]
        exact contribution_exitTrade_self hindex hentry _ _ _
    have hpoint := h.equity_eq i bar hi hbar
    rw [hp, Option.elim_some] at hpoint
    show b.equity[i]?.map (·.equity) = _
    rw [hpoint]
    simp only [close, List.map_append, List.map_cons, List.map_nil, List.sum_append,
      List.sum_cons, List.sum_nil, hcontribution, Option.elim_none]
    congr 1
    ring

/-- A position entered at bar `k` contributes nothing to the points before it. -/
theorem enter_charted {b : Book} {k : Nat} (hk : k < bars.length)
    (hdistinct : (timestamps bars).Nodup) (h : b.Charted bars startingCash k (k + 1))
    (hflat : b.position = none) {signals : List Signal} {signal : Signal}
    (hsignal : signal ∈ pendingSignals bars signals k)
    (hshares : 0 < b.affordable bars[k] ∧ 0 < bars[k].openPrice) :
    (b.enter k bars[k] signal hshares).Charted bars startingCash k (k + 1) := by
  have hindex := barIndex_getElem hdistinct hk
  obtain ⟨hpos, -, hprevious⟩ := mem_pendingSignals hsignal
  refine ⟨enter_accounted h.accounted hflat k signal hshares, h.trades_placed,
    h.trades_ordered, ?_, ?_, ?_, h.equity_timestamps, ?_⟩
  · intro p hp
    obtain rfl := Option.some.inj hp
    refine ⟨?_, ?_, ?_⟩
    · simpa [hindex] using hpos
    · simp [hindex, hk, timestamps]
    · simpa only [hindex] using hprevious
  · intro p hp
    obtain rfl := Option.some.inj hp
    simp [hindex]
  · intro p hp t ht
    obtain rfl := Option.some.inj hp
    show t.exitIndex bars ≤ barIndex bars bars[k].timestamp
    have hexit := (h.trades_placed t ht).exit_lt
    omega
  · intro i bar hi hbar
    have hlater : ¬ barIndex bars bars[k].timestamp ≤ i := by omega
    have hpoint := h.equity_eq i bar hi hbar
    rw [hflat, Option.elim_none] at hpoint
    show b.equity[i]?.map (·.equity) = _
    rw [hpoint]
    simp [enter, OpenPosition.contribution, hlater]

theorem Action.charted {controls : RiskControls} (hc : controls.Positive)
    {signals : List Signal} {k : Nat} (hk : k < bars.length)
    (hdistinct : (timestamps bars).Nodup) (hbar : bars[k].Positive) {b b' : Book}
    (haction : Action controls k bars[k] (pendingSignals bars signals k) b b')
    (h : b.Charted bars startingCash k (k + 1)) :
    b'.Charted bars startingCash k (k + 1) := by
  cases haction with
  | ignore => exact ignore_charted h _
  | enter hsignal _ hflat hshares => exact enter_charted hk hdistinct h hflat hsignal hshares
  | strategyExit _ _ hp =>
      exact close_charted hk (by omega) hdistinct h hp hbar.openPrice_pos (by omega) _ _
  | riskExit hp hexit =>
      exact close_charted hk (by omega) hdistinct h hp (riskExit_price_pos hc hbar hexit)
        (by omega) _ _

/-- Every trade placed before bar `k + 1` contributes its realized profit at bar `k`. -/
theorem sum_contribution_eq_realized {trades : List CompletedTrade} {k : Nat}
    (h : ∀ t ∈ trades, t.Placed bars (k + 1)) (closePrice : Decimal) :
    (trades.map (CompletedTrade.contribution bars k closePrice)).sum = realized trades := by
  rw [realized]
  congr 1
  apply List.map_congr_left
  intro t ht
  exact if_pos (Nat.le_of_lt_succ (h t ht).exit_lt)

/-- Marking bar `k` writes the mark-to-market of the log at bar `k`. -/
theorem mark_charted {b : Book} {k : Nat} (hk : k < bars.length) (hbar : bars[k].Positive)
    (h : b.Charted bars startingCash k (k + 1)) :
    (b.mark bars[k]).Charted bars startingCash (k + 1) (k + 1) := by
  have hlength : b.equity.length = k := by
    have hmap := congrArg List.length h.equity_timestamps
    simpa [Nat.min_eq_left hk.le] using hmap
  refine ⟨mark_accounted h.accounted hbar, h.trades_placed, h.trades_ordered,
    h.position_entered, h.position_lt, h.position_after, ?_, ?_⟩
  · rw [List.take_succ_eq_append_getElem (by simpa using hk), ← h.equity_timestamps]
    simp [mark, timestamps]
  · intro i bar hi hbari
    rcases Nat.lt_or_eq_of_le (Nat.le_of_lt_succ hi) with hlt | rfl
    · have hpoint := h.equity_eq i bar hlt hbari
      show (b.equity ++ _)[i]?.map _ = _
      rw [List.getElem?_append_left (by omega)]
      exact hpoint
    · obtain rfl : bars[i] = bar := by simpa [hk] using hbari
      have hbalance := h.accounted.balance
      show (b.equity ++ _)[i]?.map _ = some (startingCash + (b.trades.map _).sum + _)
      rw [List.getElem?_append_right (by omega), hlength, Nat.sub_self,
        sum_contribution_eq_realized h.trades_placed, ← hbalance]
      cases hp : b.position with
      | none => simp [value, shares, hp, mark]
      | some p =>
          have hentry : barIndex bars p.entryTimestamp ≤ i :=
            Nat.le_of_lt_succ (h.position_lt p hp)
          simp only [value, shares, hp, mark, Option.elim_some, OpenPosition.cost,
            OpenPosition.contribution, hentry, if_true, List.getElem?_cons_zero, Option.map_some]
          congr 1
          ring

section Run

variable {controls : RiskControls} {signals : List Signal}

theorem run_charted (hcash : 0 < startingCash) (hc : controls.Positive)
    (hdistinct : (timestamps bars).Nodup) (hbars : ∀ bar ∈ bars, bar.Positive) :
    ∀ k, k ≤ bars.length →
      (run controls bars signals startingCash k).Charted bars startingCash k k := by
  refine run_invariant (P := fun k b => b.Charted bars startingCash k k)
    (Q := fun k b => b.Charted bars startingCash k (k + 1)) (initial_charted hcash)
    (fun k b _ h => h.mono (Nat.le_succ k)) ?_ ?_
  · intro k hk b b' haction h
    exact haction.charted hc hk hdistinct (hbars _ (List.getElem_mem hk)) h
  · intro k hk b h
    exact mark_charted hk (hbars _ (List.getElem_mem hk)) h

theorem liquidate_charted (hdistinct : (timestamps bars).Nodup)
    (hbars : ∀ bar ∈ bars, bar.Positive) {b : Book}
    (h : b.Charted bars startingCash bars.length bars.length) :
    (b.liquidate bars).Charted bars startingCash bars.length bars.length := by
  rcases liquidate_cases bars b with ⟨p, hlt, hp, heq⟩ | heq <;> rw [heq]
  · have hclosed := close_charted hlt (by omega) hdistinct (h.mono (by omega)) hp
      (hbars _ (List.getElem_mem hlt)).closePrice_pos
      (fun _ => rfl) .finalLiquidation none
    exact hclosed.mono (by omega)
  · exact h

end Run
end Book

-- ============================================================================
-- The equity curve is the mark-to-market of the trade log
-- ============================================================================

/-- Every bar has one equity point, in bar order; each trade is entered one bar after
    its signal; trades do not overlap; and the equity at each bar is the
    mark-to-market of the completed trades at that bar's close. -/
theorem executeLongOnlySignals_markToMarket (bars : List MarketBar) (signals : List Signal)
    (startingCash : Decimal) (controls : RiskControls) (hne : bars ≠ [])
    (hdistinct : (timestamps bars).Nodup) (hbars : ∀ bar ∈ bars, bar.Consistent)
    (hcash : 0 < startingCash) (hc : controls.Positive) :
    ∃ r, executeLongOnlySignals bars signals startingCash controls.stopLossPercent
        controls.takeProfitPercent = .ok r ∧
      r.equityCurve.map (·.timestamp) = timestamps bars ∧
      (∀ t ∈ r.completedTrades,
        (timestamps bars)[t.entryIndex bars]? = some t.entryTimestamp ∧
        (timestamps bars)[t.exitIndex bars]? = some t.exitTimestamp ∧
        0 < t.entryIndex bars ∧
        (timestamps bars)[t.entryIndex bars - 1]? = some t.signalTimestamp ∧
        t.entryIndex bars ≤ t.exitIndex bars) ∧
      (∀ k (hk : k + 1 < r.completedTrades.length),
        r.completedTrades[k].exitIndex bars ≤ r.completedTrades[k + 1].entryIndex bars) ∧
      (∀ i (hi : i < bars.length),
        r.equityCurve[i]?.map (·.equity) =
          some (markToMarket bars startingCash r.completedTrades i bars[i].closePrice)) := by
  have hpositive : ∀ bar ∈ bars, bar.Positive := fun bar hbar => (hbars bar hbar).positive
  refine ⟨_, executeLongOnlySignals_eq hcash hc hne hpositive, ?_⟩
  have hlast : bars.getLast? = some (bars.getLast hne) := List.getLast?_eq_some_getLast hne
  have hrun : (Book.run controls bars signals startingCash bars.length).Charted bars startingCash
      bars.length bars.length :=
    Book.run_charted hcash hc hdistinct hpositive bars.length le_rfl
  have hfinal := Book.liquidate_charted hdistinct hpositive hrun
  obtain ⟨hflat, -, -⟩ := Book.liquidate_flat
    (b := Book.run controls bars signals startingCash bars.length) hlast
  set final := (Book.run controls bars signals startingCash bars.length).liquidate bars
  refine ⟨?_, ?_, ?_, ?_⟩
  · show final.equity.map (·.timestamp) = _
    rw [hfinal.equity_timestamps, List.take_of_length_le (by simp)]
  · intro t ht
    have hplaced := hfinal.trades_placed t ht
    exact ⟨hplaced.entered.timestamp_eq, hplaced.exit_timestamp_eq, hplaced.entered.index_pos,
      hplaced.entered.signal_eq, hplaced.entry_le_exit⟩
  · intro k hk
    exact List.pairwise_iff_getElem.mp hfinal.trades_ordered k (k + 1)
      (Nat.lt_of_succ_lt hk) hk (Nat.lt_succ_self k)
  · intro i hi
    have hpoint := hfinal.equity_eq i bars[i] hi (List.getElem?_eq_getElem hi)
    rw [hflat, Option.elim_none, add_zero] at hpoint
    rw [markToMarket_eq_sum_contribution]
    exact hpoint

/-- A round trip over four bars: sold at the open of the third, bought again at the last. -/
theorem executeLongOnlySignals_markToMarket_round_trip :
    ∃ r, executeLongOnlySignals [dailyBar 0 10 11 9 10, dailyBar 1 10 11 9 10,
        dailyBar 2 12 14 9 13, dailyBar 3 11 12 10 11]
        [⟨0, .buy⟩, ⟨86400000000, .sell⟩, ⟨172800000000, .buy⟩] 105 none none = .ok r ∧
      r.equityCurve[1]?.map (·.equity) = some (markToMarket [dailyBar 0 10 11 9 10,
        dailyBar 1 10 11 9 10, dailyBar 2 12 14 9 13, dailyBar 3 11 12 10 11] 105
        r.completedTrades 1 10) :=
  have ⟨r, hr, _, _, _, hequity⟩ :=
    executeLongOnlySignals_markToMarket [dailyBar 0 10 11 9 10,
      dailyBar 1 10 11 9 10, dailyBar 2 12 14 9 13, dailyBar 3 11 12 10 11]
      [⟨0, .buy⟩, ⟨86400000000, .sell⟩, ⟨172800000000, .buy⟩] 105 ⟨none, none⟩ (by decide)
      (by decide) (by decide +kernel) (by decide +kernel) (by decide)
  ⟨r, hr, hequity 1 (by decide)⟩

end Backtesting
end TradingPlatform
