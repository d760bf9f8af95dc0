/-
  TradingPlatform.Backtesting.Ledger

  The abstract model of the engine: a trading book that is either flat or holds
  one whole-share position.

  `OpenPosition` carries what the engine keeps in six optional variables,
  together with the two facts every exit relies on (at least one share, a
  positive entry price), so a half-set position cannot be built and no
  operation of a `Book` can fail.  The stop and take-profit prices are not
  stored: they are a function of the entry price and the risk controls.

  A bar acts on a book in three phases, in the engine's order:

    * `Book.opening`  — opening risk exit, or the signals of the previous bar;
    * `Book.intraday` — stop loss or take profit inside the bar;
    * `Book.mark`     — one equity point at the close.

  `Book.Action` lists once what the trading phases of a bar can do to a book,
  guards included; `Book.run_invariant` is the induction over a run that every
  invariant of the book goes through.  `EngineRefinement` shows that the engine
  computes exactly this.
-/

import Mathlib.Logic.Relation
import TradingPlatform.Backtesting.Engine
import TradingPlatform.Lib.Loop

namespace TradingPlatform
namespace Backtesting

/-- The optional position-level risk controls of a run. -/
structure RiskControls where
  stopLossPercent : Option Decimal
  takeProfitPercent : Option Decimal
deriving DecidableEq, Repr

/-- Every configured percentage is positive (no upper bound). -/
def RiskControls.Positive (controls : RiskControls) : Prop :=
  (∀ v ∈ controls.stopLossPercent, 0 < v) ∧ (∀ v ∈ controls.takeProfitPercent, 0 < v)

instance (controls : RiskControls) : Decidable controls.Positive :=
  inferInstanceAs (Decidable ((∀ v ∈ controls.stopLossPercent, 0 < v) ∧
    (∀ v ∈ controls.takeProfitPercent, 0 < v)))

-- ============================================================================
-- Positions
-- ============================================================================

/-- A held position: whole shares bought at one fill. -/
structure OpenPosition where
  quantity : Nat
  entryPrice : Decimal
  entryTimestamp : Timestamp
  signalTimestamp : Timestamp
  entryBarIndex : Nat
  quantity_pos : 0 < quantity
  entryPrice_pos : 0 < entryPrice

namespace OpenPosition

/-- What the shares were bought for. -/
def cost (p : OpenPosition) : Decimal := p.quantity * p.entryPrice

/-- The stop level of a position. -/
def stopPrice (controls : RiskControls) (p : OpenPosition) : Option Decimal :=
  (calculateRiskLevels p.entryPrice controls.stopLossPercent controls.takeProfitPercent).1

/-- The take-profit level of a position. -/
def takeProfitPrice (controls : RiskControls) (p : OpenPosition) : Option Decimal :=
  (calculateRiskLevels p.entryPrice controls.stopLossPercent controls.takeProfitPercent).2

/-- The trade completed by selling the position at `exitPrice`. -/
def exitTrade (p : OpenPosition) (exitTimestamp : Timestamp) (exitPrice : Decimal)
    (exitReason : ExitReason) (exitSignalTimestamp : Option Timestamp) : CompletedTrade where
  signalTimestamp := p.signalTimestamp
  entryTimestamp := p.entryTimestamp
  entryPrice := p.entryPrice
  quantity := p.quantity
  exitSignalTimestamp := exitSignalTimestamp
  exitTimestamp := exitTimestamp
  exitPrice := exitPrice
  profitLoss := p.quantity * exitPrice - p.cost
  returnPercentage := (p.quantity * exitPrice - p.cost) / p.cost * 100
  exitReason := exitReason

/-- The risk exit at the open of bar `index`, filled at the open. -/
def openingExit (controls : RiskControls) (p : OpenPosition) (index : Nat)
    (bar : MarketBar) : Option (Decimal × ExitReason) :=
  if index ≤ p.entryBarIndex then none
  else if (p.stopPrice controls).any (bar.openPrice ≤ ·) then some (bar.openPrice, .stopLoss)
  else if (p.takeProfitPrice controls).any (bar.openPrice ≥ ·) then
    some (bar.openPrice, .takeProfit)
  else none

/-- The risk exit inside bar `index`, filled at its level; the stop comes first. -/
def intradayExit (controls : RiskControls) (p : OpenPosition) (index : Nat)
    (bar : MarketBar) : Option (Decimal × ExitReason) :=
  if index ≤ p.entryBarIndex then none
  else
    match (p.stopPrice controls).filter (bar.lowPrice ≤ ·) with
    | some stopPrice => some (stopPrice, .stopLoss)
    | none =>
        ((p.takeProfitPrice controls).filter (bar.highPrice ≥ ·)).map (·, .takeProfit)

theorem cost_pos (p : OpenPosition) : 0 < p.cost :=
  mul_pos (by exact_mod_cast p.quantity_pos) p.entryPrice_pos

theorem cost_ne_zero (p : OpenPosition) : p.cost ≠ 0 := p.cost_pos.ne'

/-- An opening risk exit fills at the open, for a risk reason, after the entry bar. -/
theorem openingExit_eq_some {controls : RiskControls} {p : OpenPosition} {index : Nat}
    {bar : MarketBar} {price : Decimal} {reason : ExitReason}
    (h : p.openingExit controls index bar = some (price, reason)) :
    p.entryBarIndex < index ∧ price = bar.openPrice ∧
      (reason = .stopLoss ∨ reason = .takeProfit) := by
  unfold openingExit at h
  split at h
  · cases h
  · rename_i hlt
    split at h
    · cases h
      exact ⟨by omega, rfl, Or.inl rfl⟩
    · split at h
      · cases h
        exact ⟨by omega, rfl, Or.inr rfl⟩
      · cases h

/-- An intraday risk exit fills at a level the bar reached, after the entry bar. -/
theorem intradayExit_eq_some {controls : RiskControls} {p : OpenPosition} {index : Nat}
    {bar : MarketBar} {price : Decimal} {reason : ExitReason}
    (h : p.intradayExit controls index bar = some (price, reason)) :
    p.entryBarIndex < index ∧
      ((reason = .stopLoss ∧ p.stopPrice controls = some price ∧ bar.lowPrice ≤ price) ∨
       (reason = .takeProfit ∧ p.takeProfitPrice controls = some price ∧
          price ≤ bar.highPrice)) := by
  unfold intradayExit at h
  split at h
  · cases h
  · rename_i hlt
    refine ⟨by omega, ?_⟩
    split at h
    · rename_i stop hstop
      cases h
      obtain ⟨hs, hle⟩ := Option.filter_eq_some_iff.mp hstop
      exact Or.inl ⟨rfl, hs, by simpa using hle⟩
    · obtain ⟨take, htake, heq⟩ := Option.map_eq_some_iff.mp h
      cases heq
      obtain ⟨ht, hle⟩ := Option.filter_eq_some_iff.mp htake
      exact Or.inr ⟨rfl, ht, by simpa using hle⟩

/-- No risk exit is a strategy exit. -/
theorem openingExit_ne_strategyExit {controls : RiskControls} {p : OpenPosition} {index : Nat}
    {bar : MarketBar} {price : Decimal} {reason : ExitReason}
    (h : p.openingExit controls index bar = some (price, reason)) : reason ≠ .strategyExit := by
  obtain ⟨-, -, rfl | rfl⟩ := openingExit_eq_some h <;> decide

theorem intradayExit_ne_strategyExit {controls : RiskControls} {p : OpenPosition} {index : Nat}
    {bar : MarketBar} {price : Decimal} {reason : ExitReason}
    (h : p.intradayExit controls index bar = some (price, reason)) : reason ≠ .strategyExit := by
  obtain ⟨-, ⟨rfl, -⟩ | ⟨rfl, -⟩⟩ := intradayExit_eq_some h <;> decide

/-- A configured take-profit price lies above the (positive) entry price. -/
theorem entryPrice_lt_takeProfitPrice {controls : RiskControls} (hc : controls.Positive)
    {p : OpenPosition} {price : Decimal} (h : p.takeProfitPrice controls = some price) :
    p.entryPrice < price := by
  obtain ⟨percent, hpercent, rfl⟩ := Option.map_eq_some_iff.mp h
  have hpos : 0 < percent := hc.2 percent hpercent
  have := mul_pos p.entryPrice_pos (div_pos hpos (by norm_num : (0 : ℚ) < 100))
  linarith [mul_add p.entryPrice 1 (percent / 100)]

end OpenPosition

-- ============================================================================
-- Books
-- ============================================================================

/-- Cash, at most one open position, and the logs of a run. -/
structure Book where
  cash : Decimal
  position : Option OpenPosition
  trades : List CompletedTrade
  equity : List EquityPoint
  ignored : List Signal

namespace Book

/-- The book before the first bar. -/
def initial (startingCash : Decimal) : Book := ⟨startingCash, none, [], [], []⟩

/-- Shares held, as a multiplier of a price. -/
def shares (b : Book) : Decimal := b.position.elim 0 fun p => p.quantity

/-- What the book is worth when a share is worth `price`. -/
def value (b : Book) (price : Decimal) : Decimal := b.cash + b.shares * price

/-- The signals are recorded as ignored. -/
def ignore (b : Book) (signals : List Signal) : Book :=
  { b with ignored := b.ignored ++ signals }

/-- Sell the position `p` at `exitPrice`. -/
def close (b : Book) (p : OpenPosition) (bar : MarketBar) (exitPrice : Decimal)
    (exitReason : ExitReason) (exitSignalTimestamp : Option Timestamp) : Book :=
  { b with
    cash := b.cash + p.quantity * exitPrice
    position := none
    trades := b.trades ++
      [p.exitTrade bar.timestamp exitPrice exitReason exitSignalTimestamp] }

/-- Whole shares affordable at the open. -/
def affordable (b : Book) (bar : MarketBar) : Nat := ⌊b.cash / bar.openPrice⌋₊

/-- Put the cash into whole shares at the open. -/
def enter (b : Book) (index : Nat) (bar : MarketBar) (signal : Signal)
    (h : 0 < b.affordable bar ∧ 0 < bar.openPrice) : Book :=
  { b with
    cash := b.cash - b.affordable bar * bar.openPrice
    position := some
      { quantity := b.affordable bar
        entryPrice := bar.openPrice
        entryTimestamp := bar.timestamp
        signalTimestamp := signal.timestamp
        entryBarIndex := index
        quantity_pos := h.1
        entryPrice_pos := h.2 } }

/-- Buy as many whole shares as the cash allows, if flat. -/
def buy (b : Book) (index : Nat) (bar : MarketBar) (signal : Signal) : Book :=
  match b.position with
  | some _ => b.ignore [signal]
  | none =>
      if h : 0 < b.affordable bar ∧ 0 < bar.openPrice then b.enter index bar signal h
      else b.ignore [signal]

/-- Sell the whole position at the open, if there is one. -/
def sell (b : Book) (bar : MarketBar) (signal : Signal) : Book :=
  match b.position with
  | none => b.ignore [signal]
  | some p => b.close p bar bar.openPrice .strategyExit (some signal.timestamp)

/-- One pending signal.  The Boolean records that a sale happened at this open. -/
def signal (index : Nat) (bar : MarketBar) (state : Book × Bool) (signal : Signal) :
    Book × Bool :=
  match signal.signalType with
  | .buy => (state.1.buy index bar signal, state.2)
  | .sell => (state.1.sell bar signal, state.2 || state.1.position.isSome)

/-- The open of a bar: a risk exit swallows the pending signals. -/
def opening (controls : RiskControls) (index : Nat) (bar : MarketBar)
    (pending : List Signal) (b : Book) : Book × Bool :=
  match b.position.bind fun p => (p.openingExit controls index bar).map (p, ·) with
  | some (p, price, reason) => ((b.close p bar price reason none).ignore pending, true)
  | none => pending.foldl (Book.signal index bar) (b, false)

/-- The trading hours of a bar, unless the position was closed at the open. -/
def intraday (controls : RiskControls) (index : Nat) (bar : MarketBar)
    (state : Book × Bool) : Book :=
  if state.2 then state.1
  else
    match state.1.position.bind fun p => (p.intradayExit controls index bar).map (p, ·) with
    | some (p, price, reason) => state.1.close p bar price reason none
    | none => state.1

/-- The close of a bar: mark the book to market. -/
def mark (bar : MarketBar) (b : Book) : Book :=
  { b with equity := b.equity ++ [⟨bar.timestamp, b.value bar.closePrice⟩] }

/-- A whole bar. -/
def bar (controls : RiskControls) (pending : List Signal) (b : Book)
    (item : MarketBar × Nat) : Book :=
  (intraday controls item.2 item.1
    (b.opening controls item.2 item.1 pending)).mark item.1

/-- The signals raised on the bar before bar `index`. -/
def pendingSignals (bars : List MarketBar) (signals : List Signal) (index : Nat) :
    List Signal :=
  if index = 0 then []
  else (bars[index - 1]?.map fun previous =>
    signalsByTimestamp signals previous.timestamp).getD []

/-- The book after the first `k` bars of a run. -/
def run (controls : RiskControls) (bars : List MarketBar) (signals : List Signal)
    (startingCash : Decimal) (k : Nat) : Book :=
  Loop.after (fun b item => b.bar controls (pendingSignals bars signals item.2) item)
    bars (Book.initial startingCash) k

/-- Sell what is left at the last close. -/
def liquidate (bars : List MarketBar) (b : Book) : Book :=
  match b.position, bars.getLast? with
  | some p, some last => b.close p last last.closePrice .finalLiquidation none
  | _, _ => b

/-- The result of a book without an open position. -/
def result (b : Book) : ExecutionResult where
  finalPortfolioValue := b.cash
  totalRealizedProfitLoss := (b.trades.map (·.profitLoss)).sum
  completedTrades := b.trades
  equityCurve := b.equity
  ignoredSignals := b.ignored

-- ============================================================================
-- What a bar can do to a book
-- ============================================================================

/-- One effect of the trading phases of bar `index` on a book. -/
inductive Action (controls : RiskControls) (index : Nat) (bar : MarketBar)
    (pending : List Signal) : Book → Book → Prop where
  | ignore {b : Book} {signals : List Signal} (hsignals : ∀ s ∈ signals, s ∈ pending) :
      Action controls index bar pending b (b.ignore signals)
  | enter {b : Book} {signal : Signal} (hsignal : signal ∈ pending)
      (htype : signal.signalType = .buy) (hflat : b.position = none)
      (h : 0 < b.affordable bar ∧ 0 < bar.openPrice) :
      Action controls index bar pending b (b.enter index bar signal h)
  | strategyExit {b : Book} {p : OpenPosition} {signal : Signal} (hsignal : signal ∈ pending)
      (htype : signal.signalType = .sell) (hp : b.position = some p) :
      Action controls index bar pending b
        (b.close p bar bar.openPrice .strategyExit (some signal.timestamp))
  | riskExit {b : Book} {p : OpenPosition} {price : Decimal} {reason : ExitReason}
      (hp : b.position = some p)
      (hexit : p.openingExit controls index bar = some (price, reason) ∨
        p.intradayExit controls index bar = some (price, reason)) :
      Action controls index bar pending b (b.close p bar price reason none)

/-- Any number of effects of one bar. -/
abbrev Actions (controls : RiskControls) (index : Nat) (bar : MarketBar)
    (pending : List Signal) : Book → Book → Prop :=
  Relation.ReflTransGen (Action controls index bar pending)

/-- How the open of a bar goes: a risk exit sweeps the pending signals, or they act in turn. -/
theorem opening_cases (controls : RiskControls) (index : Nat) (bar : MarketBar)
    (pending : List Signal) (b : Book) :
    (∃ p price reason, b.position = some p ∧
      p.openingExit controls index bar = some (price, reason) ∧
      b.opening controls index bar pending =
        ((b.close p bar price reason none).ignore pending, true)) ∨
    b.opening controls index bar pending = pending.foldl (Book.signal index bar) (b, false) := by
  unfold opening
  split
  · rename_i p price reason hexit
    obtain ⟨q, hq, hmap⟩ := Option.bind_eq_some_iff.mp hexit
    obtain ⟨exit, hopened, heq⟩ := Option.map_eq_some_iff.mp hmap
    cases heq
    exact Or.inl ⟨p, price, reason, hq, hopened, rfl⟩
  · exact Or.inr rfl

/-- How the trading hours go: a risk exit, or nothing. -/
theorem intraday_cases (controls : RiskControls) (index : Nat) (bar : MarketBar)
    (state : Book × Bool) :
    (∃ p price reason, state.1.position = some p ∧
      p.intradayExit controls index bar = some (price, reason) ∧
      intraday controls index bar state = state.1.close p bar price reason none) ∨
    intraday controls index bar state = state.1 := by
  unfold intraday
  split
  · exact Or.inr rfl
  · split
    · rename_i p price reason hexit
      obtain ⟨q, hq, hmap⟩ := Option.bind_eq_some_iff.mp hexit
      obtain ⟨exit, hinside, heq⟩ := Option.map_eq_some_iff.mp hmap
      cases heq
      exact Or.inl ⟨p, price, reason, hq, hinside, rfl⟩
    · exact Or.inr rfl

/-- How a run ends: the position is sold at the last close, or there is none. -/
theorem liquidate_cases (bars : List MarketBar) (b : Book) :
    (∃ p, ∃ hlt : bars.length - 1 < bars.length, b.position = some p ∧
      b.liquidate bars = b.close p bars[bars.length - 1] bars[bars.length - 1].closePrice
        .finalLiquidation none) ∨
    b.liquidate bars = b := by
  unfold liquidate
  split
  · rename_i p last hp hlast
    rw [List.getLast?_eq_getElem?] at hlast
    obtain ⟨hlt, rfl⟩ := List.getElem?_eq_some_iff.mp hlast
    exact Or.inl ⟨p, hlt, hp, rfl⟩
  · exact Or.inr rfl

section Actions

variable {controls : RiskControls} {index : Nat} {bar : MarketBar} {pending : List Signal}

/-- A pending signal has one effect. -/
theorem signal_action {state : Book × Bool} {signal : Signal} (hsignal : signal ∈ pending) :
    Action controls index bar pending state.1 (Book.signal index bar state signal).1 := by
  have hmem : ∀ s ∈ [signal], s ∈ pending := fun s hs => by
    rw [List.mem_singleton] at hs
    exact hs ▸ hsignal
  unfold Book.signal
  split
  · rename_i htype
    unfold buy
    split
    · exact .ignore hmem
    · rename_i hflat
      split
      · rename_i h
        exact .enter hsignal htype hflat h
      · exact .ignore hmem
  · rename_i htype
    unfold sell
    split
    · exact .ignore hmem
    · rename_i p hp
      exact .strategyExit hsignal htype hp

theorem foldl_signal_actions {signals : List Signal} :
    ∀ (state : Book × Bool), (∀ s ∈ signals, s ∈ pending) →
      Actions controls index bar pending state.1
        (signals.foldl (Book.signal index bar) state).1 := by
  induction signals with
  | nil => exact fun _ _ => .refl
  | cons s rest ih =>
      intro state hsub
      exact (Relation.ReflTransGen.single (signal_action (hsub s (List.mem_cons_self ..)))).trans
        (ih _ fun s' hs' => hsub s' (List.mem_cons_of_mem _ hs'))

theorem opening_actions (b : Book) :
    Actions controls index bar pending b (b.opening controls index bar pending).1 := by
  rcases opening_cases controls index bar pending b with
    ⟨p, price, reason, hp, hexit, heq⟩ | heq <;> rw [heq]
  · exact (Relation.ReflTransGen.single (.riskExit hp (Or.inl hexit))).tail
      (.ignore fun s hs => hs)
  · exact foldl_signal_actions (b, false) fun s hs => hs

theorem intraday_actions (state : Book × Bool) :
    Actions controls index bar pending state.1 (intraday controls index bar state) := by
  rcases intraday_cases controls index bar state with
    ⟨p, price, reason, hp, hexit, heq⟩ | heq <;> rw [heq]
  exact .single (.riskExit hp (Or.inr hexit))

/-- What one effect of a bar preserves, the trading phases of the bar preserve. -/
theorem Actions.preserve {P : Book → Prop}
    (h : ∀ b b', Action controls index bar pending b b' → P b → P b') {b b' : Book}
    (hactions : Actions controls index bar pending b b') (hb : P b) : P b' := by
  induction hactions with
  | refl => exact hb
  | tail _ haction ih => exact h _ _ haction ih

end Actions

-- ============================================================================
-- Induction over a run
-- ============================================================================

theorem run_zero (controls : RiskControls) (bars : List MarketBar) (signals : List Signal)
    (startingCash : Decimal) :
    run controls bars signals startingCash 0 = initial startingCash := rfl

theorem run_succ (controls : RiskControls) {bars : List MarketBar} (signals : List Signal)
    (startingCash : Decimal) {k : Nat} (hk : k < bars.length) :
    run controls bars signals startingCash (k + 1) =
      (run controls bars signals startingCash k).bar controls
        (pendingSignals bars signals k) (bars[k], k) :=
  Loop.after_succ _ bars _ hk

/-- Invariants of a run from bar `m` on.  `P k` holds between bars, after the first `k`
    of them; `Q k` holds while bar `k` trades. -/
theorem run_invariant_from {controls : RiskControls} {bars : List MarketBar}
    {signals : List Signal} {startingCash : Decimal} {P Q : Nat → Book → Prop} {m : Nat}
    (hinit : P m (run controls bars signals startingCash m))
    (hopen : ∀ k b, k < bars.length → P k b → Q k b)
    (haction : ∀ k (hk : k < bars.length), m ≤ k → ∀ b b',
      Action controls k bars[k] (pendingSignals bars signals k) b b' → Q k b → Q k b')
    (hmark : ∀ k (hk : k < bars.length) b, Q k b → P (k + 1) (b.mark bars[k])) :
    ∀ k, m ≤ k → k ≤ bars.length → P k (run controls bars signals startingCash k) := by
  refine Loop.after_invariant_from hinit ?_
  intro k hk hmk hP
  apply hmark k hk
  have hopened := (opening_actions _).preserve (haction k hk hmk) (hopen k _ hk hP)
  exact (intraday_actions _).preserve (haction k hk hmk) hopened

/-- Invariants of a whole run. -/
theorem run_invariant {controls : RiskControls} {bars : List MarketBar}
    {signals : List Signal} {startingCash : Decimal} {P Q : Nat → Book → Prop}
    (hinit : P 0 (initial startingCash))
    (hopen : ∀ k b, k < bars.length → P k b → Q k b)
    (haction : ∀ k (hk : k < bars.length) b b',
      Action controls k bars[k] (pendingSignals bars signals k) b b' → Q k b → Q k b')
    (hmark : ∀ k (hk : k < bars.length) b, Q k b → P (k + 1) (b.mark bars[k])) :
    ∀ k, k ≤ bars.length → P k (run controls bars signals startingCash k) :=
  fun k hk => run_invariant_from (m := 0) hinit hopen (fun k hk _ => haction k hk) hmark
    k k.zero_le hk

end Book
end Backtesting
end TradingPlatform
