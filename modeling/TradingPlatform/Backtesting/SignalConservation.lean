/-
  TradingPlatform.Backtesting.SignalConservation

  Where the signals of a run go.

  Every signal pending at a bar is executed or ignored, exactly once: a BUY
  opens a position, whose trade remembers it; a SELL closes one, whose trade
  names it; all others are in the ignored list, those swept away by an opening
  risk exit included.  `Book.accounted` collects the signals that a book can
  answer for, and each phase of a bar changes it by the signals it was given.
-/

import Mathlib.Algebra.BigOperators.Group.Multiset.Basic
import TradingPlatform.Backtesting.Accounting
import TradingPlatform.Backtesting.Timeline

namespace TradingPlatform
namespace Backtesting

-- ============================================================================
-- Accounted signals
-- ============================================================================

/-- The BUY that opened the position of the trade. -/
def CompletedTrade.entrySignal (t : CompletedTrade) : Signal := ⟨t.signalTimestamp, .buy⟩

/-- The SELL that closed the position, if a signal did. -/
def CompletedTrade.exitSignal (t : CompletedTrade) : Option Signal :=
  t.exitSignalTimestamp.map (⟨·, .sell⟩)

/-- One BUY per trade. -/
def entrySignals (trades : List CompletedTrade) : Multiset Signal :=
  ↑(trades.map (·.entrySignal))

/-- One SELL per trade that the strategy closed. -/
def exitSignals (trades : List CompletedTrade) : Multiset Signal :=
  ↑((trades.filter (·.exitReason = .strategyExit)).filterMap (·.exitSignal))

/-- The exit signal is recorded for the strategy exits and for no other exit. -/
def CompletedTrade.ExitSignalled (t : CompletedTrade) : Prop :=
  t.exitSignalTimestamp = none ↔ t.exitReason ≠ .strategyExit

/-- The signal that opened the position. -/
def OpenPosition.entrySignal (p : OpenPosition) : Signal := ⟨p.signalTimestamp, .buy⟩

/-- The signals stamped with one of the given timestamps. -/
def stampedIn (stamps : List Timestamp) (signals : List Signal) : Multiset Signal :=
  ↑(signals.filter (·.timestamp ∈ stamps))

theorem entrySignals_append (first second : List CompletedTrade) :
    entrySignals (first ++ second) = entrySignals first + entrySignals second := by
  simp [entrySignals, ← Multiset.coe_add]

theorem exitSignals_append (first second : List CompletedTrade) :
    exitSignals (first ++ second) = exitSignals first + exitSignals second := by
  simp [exitSignals, ← Multiset.coe_add]

namespace Book

/-- The signals that the logs and the open position of a book answer for. -/
def accounted (b : Book) : Multiset Signal :=
  ↑b.ignored + entrySignals b.trades + exitSignals b.trades +
    b.position.elim 0 fun p => {p.entrySignal}

section Phases

variable {controls : RiskControls} {index : Nat} {bar : MarketBar} {b : Book}
  {p : OpenPosition}

theorem accounted_ignore (signals : List Signal) :
    (b.ignore signals).accounted = b.accounted + ↑signals := by
  simp only [accounted, ignore, ← Multiset.coe_add]
  abel

theorem accounted_enter (hflat : b.position = none) (signal : Signal)
    (hbuy : signal.signalType = .buy) (h : 0 < b.affordable bar ∧ 0 < bar.openPrice) :
    (b.enter index bar signal h).accounted = b.accounted + {signal} := by
  have hentry : (⟨signal.timestamp, .buy⟩ : Signal) = signal := by rw [← hbuy]
  simp only [accounted, enter, hflat, Option.elim_some, Option.elim_none,
    OpenPosition.entrySignal, hentry]
  abel

/-- Closing a position moves its entry signal to the trade; a strategy exit also takes in
    the exit signal. -/
theorem accounted_close (hp : b.position = some p) (exitPrice : Decimal) (reason : ExitReason)
    (exitSignal : Option Timestamp) :
    (b.close p bar exitPrice reason exitSignal).accounted =
      b.accounted + exitSignals [p.exitTrade bar.timestamp exitPrice reason exitSignal] := by
  have hentry : entrySignals [p.exitTrade bar.timestamp exitPrice reason exitSignal] =
      {p.entrySignal} := rfl
  simp only [accounted, close, hp, entrySignals_append, exitSignals_append, hentry,
    Option.elim_some, Option.elim_none]
  abel

theorem accounted_close_of_ne (hp : b.position = some p) (exitPrice : Decimal)
    {reason : ExitReason} (hreason : reason ≠ .strategyExit) (exitSignal : Option Timestamp) :
    (b.close p bar exitPrice reason exitSignal).accounted = b.accounted := by
  have hnone : exitSignals [p.exitTrade bar.timestamp exitPrice reason exitSignal] = 0 := by
    simp [exitSignals, OpenPosition.exitTrade, hreason]
  rw [accounted_close hp, hnone, add_zero]

/-- A pending signal is accounted for once. -/
theorem accounted_signal (state : Book × Bool) (signal : Signal) :
    (Book.signal index bar state signal).1.accounted = state.1.accounted + {signal} := by
  obtain ⟨b, closed⟩ := state
  obtain ⟨timestamp, signalType⟩ := signal
  cases signalType with
  | buy =>
      cases hp : b.position with
      | some p => simpa [Book.signal, buy, hp] using accounted_ignore [⟨timestamp, .buy⟩]
      | none =>
          by_cases hshares : 0 < b.affordable bar ∧ 0 < bar.openPrice
          · simpa [Book.signal, buy, hp, hshares] using
              accounted_enter hp ⟨timestamp, .buy⟩ rfl hshares
          · simpa [Book.signal, buy, hp, hshares] using accounted_ignore [⟨timestamp, .buy⟩]
  | sell =>
      cases hp : b.position with
      | none => simpa [Book.signal, sell, hp] using accounted_ignore [⟨timestamp, .sell⟩]
      | some p =>
          have hsold : exitSignals [p.exitTrade bar.timestamp bar.openPrice .strategyExit
              (some timestamp)] = {⟨timestamp, .sell⟩} := rfl
          simp only [Book.signal, sell, hp, accounted_close hp, hsold]

theorem accounted_foldl_signal (pending : List Signal) :
    ∀ state : Book × Bool,
      (pending.foldl (Book.signal index bar) state).1.accounted =
        state.1.accounted + ↑pending := by
  induction pending with
  | nil => exact fun state => (add_zero _).symm
  | cons signal rest ih =>
      intro state
      rw [List.foldl_cons, ih, accounted_signal, add_assoc, Multiset.singleton_add,
        Multiset.cons_coe]

/-- The opening phase accounts for the pending signals, whether it executes or sweeps them. -/
theorem accounted_opening (pending : List Signal) :
    (b.opening controls index bar pending).1.accounted = b.accounted + ↑pending := by
  rcases opening_cases controls index bar pending b with
    ⟨p, price, reason, hp, hexit, heq⟩ | heq <;> rw [heq]
  · have hreason := OpenPosition.openingExit_ne_strategyExit hexit
    rw [accounted_ignore, accounted_close_of_ne hp _ hreason]
  · exact accounted_foldl_signal pending (b, false)

theorem accounted_intraday (state : Book × Bool) :
    (intraday controls index bar state).accounted = state.1.accounted := by
  rcases intraday_cases controls index bar state with
    ⟨p, price, reason, hp, hexit, heq⟩ | heq <;> rw [heq]
  exact accounted_close_of_ne hp _ (OpenPosition.intradayExit_ne_strategyExit hexit) _

theorem accounted_bar (pending : List Signal) (item : MarketBar × Nat) :
    (b.bar controls pending item).accounted = b.accounted + ↑pending :=
  (accounted_intraday _).trans (accounted_opening pending)

theorem accounted_liquidate (bars : List MarketBar) :
    (b.liquidate bars).accounted = b.accounted := by
  rcases liquidate_cases bars b with ⟨p, hlt, hp, heq⟩ | heq <;> rw [heq]
  exact accounted_close_of_ne hp _ (by decide) _

end Phases

-- ============================================================================
-- Over a run
-- ============================================================================

section Run

variable {controls : RiskControls} {bars : List MarketBar} {signals : List Signal}

/-- The signals pending at bar `k + 1` are new ones: no earlier bar has their timestamp. -/
theorem stampedBefore_succ (hdistinct : (timestamps bars).Nodup) {k : Nat}
    (hk : k < bars.length) :
    stampedIn ((timestamps bars).take k) signals +
        ↑(signalsByTimestamp signals bars[k].timestamp) =
      stampedIn ((timestamps bars).take (k + 1)) signals := by
  have hlt : k < (timestamps bars).length := by simpa using hk
  have hat : (timestamps bars)[k] = bars[k].timestamp := List.getElem_map ..
  have htake : (timestamps bars).take (k + 1) =
      (timestamps bars).take k ++ [bars[k].timestamp] := by
    rw [List.take_succ_eq_append_getElem hlt, hat]
  have hnew : bars[k].timestamp ∉ (timestamps bars).take k := by
    rw [← hat, List.mem_take_iff_getElem]
    rintro ⟨i, hi, heq⟩
    have := hdistinct.getElem_inj_iff.mp heq
    omega
  have hdisjoint : (signals : Multiset Signal).filter (fun s =>
      s.timestamp ∈ (timestamps bars).take k ∧ s.timestamp = bars[k].timestamp) = 0 := by
    rw [Multiset.filter_eq_nil]
    rintro s - ⟨hearlier, hs⟩
    exact hnew (hs ▸ hearlier)
  rw [stampedIn, stampedIn, signalsByTimestamp, ← Multiset.filter_coe, ← Multiset.filter_coe,
    ← Multiset.filter_coe, Multiset.filter_add_filter, hdisjoint, add_zero, htake]
  simp only [List.mem_append, List.mem_singleton]

/-- After `k` bars a book accounts for the signals stamped with a bar before the last of
    them. -/
theorem run_accounts (controls : RiskControls) (signals : List Signal) (startingCash : Decimal)
    (hdistinct : (timestamps bars).Nodup) :
    ∀ k, k ≤ bars.length →
      (run controls bars signals startingCash k).accounted =
        stampedIn ((timestamps bars).take (k - 1)) signals := by
  intro k
  induction k with
  | zero =>
      intro _
      simp [run_zero, initial, accounted, entrySignals, exitSignals, stampedIn]
  | succ k ih =>
      intro hk
      rw [run_succ controls signals startingCash hk, accounted_bar, ih (by omega),
        Nat.add_sub_cancel]
      cases k with
      | zero => exact add_zero _
      | succ j =>
          have hj : j < bars.length := by omega
          rw [pendingSignals, if_neg (Nat.succ_ne_zero j), Nat.succ_sub_one,
            List.getElem?_eq_getElem hj]
          exact stampedBefore_succ hdistinct hj

theorem close_exitSignalled {b : Book} {bar : MarketBar} {p : OpenPosition} {price : Decimal}
    {reason : ExitReason} {exitSignal : Option Timestamp}
    (h : ∀ t ∈ b.trades, t.ExitSignalled)
    (hnew : exitSignal = none ↔ reason ≠ .strategyExit) :
    ∀ t ∈ (b.close p bar price reason exitSignal).trades, t.ExitSignalled := by
  intro t ht
  rcases List.mem_append.mp ht with hold | hmem
  · exact h t hold
  · obtain rfl := List.mem_singleton.mp hmem
    exact hnew

theorem run_exitSignalled (controls : RiskControls) (bars : List MarketBar)
    (signals : List Signal) (startingCash : Decimal) :
    ∀ k, k ≤ bars.length →
      ∀ t ∈ (run controls bars signals startingCash k).trades, t.ExitSignalled := by
  refine run_invariant (Q := fun _ b => ∀ t ∈ b.trades, t.ExitSignalled)
    (P := fun _ b => ∀ t ∈ b.trades, t.ExitSignalled)
    (fun _ ht => absurd ht List.not_mem_nil) (fun _ _ _ h => h) ?_ (fun _ _ _ h => h)
  intro k hk b b' haction h
  cases haction with
  | ignore _ => exact h
  | enter _ _ _ _ => exact h
  | strategyExit _ _ _ => exact close_exitSignalled h (by simp)
  | riskExit _ hexit =>
      refine close_exitSignalled h ⟨fun _ => ?_, fun _ => rfl⟩
      rcases hexit with hopened | hinside
      · rcases (OpenPosition.openingExit_eq_some hopened).2.2 with rfl | rfl <;> decide
      · rcases (OpenPosition.intradayExit_eq_some hinside).2 with ⟨rfl, -⟩ | ⟨rfl, -⟩ <;> decide

end Run
end Book

/-- No signal is lost or duplicated: the signals stamped with a bar other than the last are
    the ignored ones, one BUY per trade and one SELL per strategy exit, and the other exits
    name no signal. -/
theorem executeLongOnlySignals_conserves (bars : List MarketBar) (signals : List Signal)
    (startingCash : Decimal) (controls : RiskControls) (hne : bars ≠ [])
    (hdistinct : (timestamps bars).Nodup) (hbars : ∀ bar ∈ bars, bar.Positive)
    (hcash : 0 < startingCash) (hc : controls.Positive) :
    ∃ r, executeLongOnlySignals bars signals startingCash controls.stopLossPercent
        controls.takeProfitPercent = .ok r ∧
      stampedIn (timestamps bars).dropLast signals =
        ↑r.ignoredSignals + entrySignals r.completedTrades + exitSignals r.completedTrades ∧
      ∀ t ∈ r.completedTrades,
        (t.exitSignalTimestamp = none ↔ t.exitReason ≠ .strategyExit) := by
  refine ⟨_, executeLongOnlySignals_eq hcash hc hne hbars, ?_, ?_⟩
  · have hrun := Book.run_accounts controls signals startingCash hdistinct bars.length le_rfl
    have hflat := (Book.liquidate_flat (b := Book.run controls bars signals startingCash
      bars.length) (List.getLast?_eq_some_getLast hne)).1
    rw [← Book.accounted_liquidate bars] at hrun
    rw [List.dropLast_eq_take, timestamps_length]
    simp only [Book.accounted, hflat, Option.elim_none, add_zero] at hrun
    exact hrun.symm
  · intro t ht
    have hrun := Book.run_exitSignalled controls bars signals startingCash bars.length le_rfl
    have hclosed : ∀ t ∈ ((Book.run controls bars signals startingCash
        bars.length).liquidate bars).trades, t.ExitSignalled := by
      unfold Book.liquidate
      split
      · exact Book.close_exitSignalled hrun (by simp)
      · exact hrun
    exact hclosed t ht

/-- A position bought at the second open and stopped out at the fourth, where a SELL is
    pending; the last signal has no next bar. -/
def sweptBars : List MarketBar :=
  [dailyBar 0 10 11 (19 / 2) 10, dailyBar 1 10 11 (19 / 2) 10, dailyBar 2 10 11 (19 / 2) 10,
    dailyBar 3 8 9 7 8]

/-- A sell without a position, a buy, and a sell. -/
def sweptSignals : List Signal :=
  [⟨172800000000, .sell⟩, ⟨0, .buy⟩, ⟨259200000000, .buy⟩]

theorem executeLongOnlySignals_conserves_swept :
    ∃ r, executeLongOnlySignals sweptBars sweptSignals 105 (some 10) none = .ok r ∧
      stampedIn (timestamps sweptBars).dropLast sweptSignals =
        ↑r.ignoredSignals + entrySignals r.completedTrades + exitSignals r.completedTrades ∧
      ∀ t ∈ r.completedTrades,
        (t.exitSignalTimestamp = none ↔ t.exitReason ≠ .strategyExit) :=
  executeLongOnlySignals_conserves sweptBars sweptSignals 105 ⟨some 10, none⟩ (by decide)
    (by decide +kernel) (by decide +kernel) (by decide) (by decide +kernel)

end Backtesting
end TradingPlatform
