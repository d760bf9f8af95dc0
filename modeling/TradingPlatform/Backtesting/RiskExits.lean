/-
  TradingPlatform.Backtesting.RiskExits

  Risk exits fire exactly when and where they should.

  A position is sold at the open when the bar opens at or beyond a level, inside
  the bar when it reaches one, and never on its entry bar.  `HeldUntil` is what
  the loop knows of a position it still holds: no bar after the entry has
  reached a level.  It is carried through the phases of a bar in their order,
  since the opening check is what the pending signals and the intraday check
  may rely on.
-/

import TradingPlatform.Backtesting.EngineRefinement
import TradingPlatform.Backtesting.MarkToMarket

namespace TradingPlatform
namespace Backtesting

-- ============================================================================
-- Levels and sales
-- ============================================================================

namespace RiskControls

variable (controls : RiskControls) (entryPrice : Decimal) (bar : MarketBar)

/-- The stop of a position entered at `entryPrice`, if one is configured. -/
def stopLevel : Option Decimal :=
  controls.stopLossPercent.map fun stop => entryPrice * (1 - stop / 100)

/-- The take-profit level of an entry price. -/
def takeLevel : Option Decimal :=
  controls.takeProfitPercent.map fun take => entryPrice * (1 + take / 100)

/-- The bar reaches neither level. -/
def Untouched : Prop :=
  (∀ s ∈ controls.stopLevel entryPrice, s < bar.lowPrice) ∧
  (∀ t ∈ controls.takeLevel entryPrice, bar.highPrice < t)

/-- The bar opens strictly between the levels. -/
def OpensBetween : Prop :=
  (∀ s ∈ controls.stopLevel entryPrice, s < bar.openPrice) ∧
  (∀ t ∈ controls.takeLevel entryPrice, bar.openPrice < t)

end RiskControls

/-- A sale at `price` on `bar` for `reason`; `late` says that it is after the entry bar. -/
structure SaleExact (controls : RiskControls) (entryPrice : Decimal) (late : Prop)
    (bar : MarketBar) (price : Decimal) (reason : ExitReason) : Prop where
  stopLoss : reason = .stopLoss → late ∧
    ∃ s ∈ controls.stopLevel entryPrice, bar.lowPrice ≤ s ∧ price = min bar.openPrice s
  takeProfit : reason = .takeProfit → late ∧
    ∃ t ∈ controls.takeLevel entryPrice, t ≤ bar.highPrice ∧ price = max bar.openPrice t ∧
      ((∃ s ∈ controls.stopLevel entryPrice, bar.lowPrice ≤ s) → t ≤ bar.openPrice)
  strategyExit : reason = .strategyExit → price = bar.openPrice ∧
    (late → controls.OpensBetween entryPrice bar)
  finalLiquidation : reason = .finalLiquidation → price = bar.closePrice ∧
    (late → controls.Untouched entryPrice bar)
  within : bar.lowPrice ≤ price ∧ price ≤ bar.highPrice

/-- The entry fill of a trade or position: at the open of bar `e`. -/
structure FilledAt (bars : List MarketBar) (e : Nat) (timestamp : Timestamp) (price : Decimal) :
    Prop where
  fill : ∃ bar, bars[e]? = some bar ∧ timestamp = bar.timestamp ∧ price = bar.openPrice ∧
    bar.lowPrice ≤ price ∧ price ≤ bar.highPrice

/-- A completed trade over the bars `e` to `x`. -/
structure CompletedTrade.RiskExact (controls : RiskControls) (bars : List MarketBar) (e x : Nat)
    (t : CompletedTrade) : Prop where
  entry : FilledAt bars e t.entryTimestamp t.entryPrice
  held : ∀ k bar, e < k → k < x → bars[k]? = some bar → controls.Untouched t.entryPrice bar
  exit : ∃ bar, bars[x]? = some bar ∧ t.exitTimestamp = bar.timestamp ∧
    SaleExact controls t.entryPrice (e < x) bar t.exitPrice t.exitReason
  last : t.exitReason = .finalLiquidation → x + 1 = bars.length

-- ============================================================================
-- The checks of one bar
-- ============================================================================

section Checks

variable {controls : RiskControls} {p : OpenPosition} {index : Nat} {bar : MarketBar}
  {price : Decimal} {reason : ExitReason}

/-- A position that passes the opening check sees the bar open between its levels. -/
theorem opensBetween_of_openingExit (hlate : p.entryBarIndex < index)
    (h : p.openingExit controls index bar = none) : controls.OpensBetween p.entryPrice bar := by
  rw [OpenPosition.openingExit, if_neg (by omega)] at h
  split at h
  · cases h
  · rename_i hstop
    split at h
    · cases h
    · rename_i htake
      constructor
      · intro s hs
        have hlevel : p.stopPrice controls = some s := hs
        simpa [hlevel] using hstop
      · intro t ht
        have hlevel : p.takeProfitPrice controls = some t := ht
        simpa [hlevel] using htake

/-- The opening check sells when the bar opens at or beyond a level. -/
theorem openingExit_level (h : p.openingExit controls index bar = some (price, reason)) :
    (reason = .stopLoss ∧ ∃ s ∈ controls.stopLevel p.entryPrice, bar.openPrice ≤ s) ∨
    (reason = .takeProfit ∧ ∃ t ∈ controls.takeLevel p.entryPrice, t ≤ bar.openPrice) := by
  unfold OpenPosition.openingExit at h
  split at h
  · cases h
  · split at h
    · rename_i hstop
      cases h
      obtain ⟨s, hs, hle⟩ := (Option.any_eq_true ..).mp hstop
      exact Or.inl ⟨rfl, s, hs, by simpa using hle⟩
    · split at h
      · rename_i htake
        cases h
        obtain ⟨t, ht, hle⟩ := (Option.any_eq_true ..).mp htake
        exact Or.inr ⟨rfl, t, ht, by simpa using hle⟩
      · cases h

/-- A position that passes the intraday check is untouched by the bar. -/
theorem untouched_of_intradayExit (hlate : p.entryBarIndex < index)
    (h : p.intradayExit controls index bar = none) : controls.Untouched p.entryPrice bar := by
  rw [OpenPosition.intradayExit, if_neg (by omega)] at h
  split at h
  · cases h
  · rename_i hstop
    rw [Option.map_eq_none_iff] at h
    constructor
    · intro s hs
      simpa using Option.filter_eq_none_iff.mp hstop s hs
    · intro t ht
      simpa using Option.filter_eq_none_iff.mp h t ht

/-- Inside a bar the take-profit level counts only while the stop is not reached. -/
theorem stopLevel_lt_of_intradayExit
    (h : p.intradayExit controls index bar = some (price, .takeProfit)) :
    ∀ s ∈ controls.stopLevel p.entryPrice, s < bar.lowPrice := by
  unfold OpenPosition.intradayExit at h
  split at h
  · cases h
  · split at h
    · cases h
    · rename_i hstop
      intro s hs
      simpa using Option.filter_eq_none_iff.mp hstop s hs

-- ============================================================================
-- Every sale is exact
-- ============================================================================

theorem SaleExact.ofStop {entryPrice s : Decimal} {late : Prop} (hlate : late)
    (hs : s ∈ controls.stopLevel entryPrice) (hlow : bar.lowPrice ≤ s)
    (hbar : bar.Consistent) :
    SaleExact controls entryPrice late bar (min bar.openPrice s) .stopLoss where
  stopLoss := fun _ => ⟨hlate, s, hs, hlow, rfl⟩
  takeProfit := nofun
  strategyExit := nofun
  finalLiquidation := nofun
  within := ⟨le_min hbar.low_le_open hlow, (min_le_left _ _).trans hbar.open_le_high⟩

theorem SaleExact.ofTake {entryPrice t : Decimal} {late : Prop} (hlate : late)
    (ht : t ∈ controls.takeLevel entryPrice) (hhigh : t ≤ bar.highPrice)
    (hfirst : (∃ s ∈ controls.stopLevel entryPrice, bar.lowPrice ≤ s) → t ≤ bar.openPrice)
    (hbar : bar.Consistent) :
    SaleExact controls entryPrice late bar (max bar.openPrice t) .takeProfit where
  stopLoss := nofun
  takeProfit := fun _ => ⟨hlate, t, ht, hhigh, rfl, hfirst⟩
  strategyExit := nofun
  finalLiquidation := nofun
  within := ⟨hbar.low_le_open.trans (le_max_left _ _), max_le hbar.open_le_high hhigh⟩

theorem openingExit_exact (hbar : bar.Consistent)
    (h : p.openingExit controls index bar = some (price, reason)) :
    SaleExact controls p.entryPrice (p.entryBarIndex < index) bar price reason := by
  obtain ⟨hlate, rfl, -⟩ := OpenPosition.openingExit_eq_some h
  rcases openingExit_level h with ⟨rfl, s, hs, hle⟩ | ⟨rfl, t, ht, hle⟩
  · have hexact := SaleExact.ofStop hlate hs (hbar.low_le_open.trans hle) hbar
    rwa [min_eq_left hle] at hexact
  · have hexact := SaleExact.ofTake hlate ht (hle.trans hbar.open_le_high) (fun _ => hle) hbar
    rwa [max_eq_left hle] at hexact

/-- After an open between the levels, a sale inside the bar is at the level itself. -/
theorem intradayExit_exact (hbar : bar.Consistent)
    (hopens : p.entryBarIndex < index → controls.OpensBetween p.entryPrice bar)
    (h : p.intradayExit controls index bar = some (price, reason)) :
    SaleExact controls p.entryPrice (p.entryBarIndex < index) bar price reason := by
  obtain ⟨hlate, ⟨rfl, hs, hle⟩ | ⟨rfl, ht, hle⟩⟩ := OpenPosition.intradayExit_eq_some h
  · have hbelow : price < bar.openPrice := (hopens hlate).1 price hs
    have hexact := SaleExact.ofStop hlate hs hle hbar
    rwa [min_eq_right hbelow.le] at hexact
  · have habove : bar.openPrice < price := (hopens hlate).2 price ht
    have hfirst : (∃ s ∈ controls.stopLevel p.entryPrice, bar.lowPrice ≤ s) →
        price ≤ bar.openPrice := by
      rintro ⟨s, hs, hlow⟩
      exact absurd (stopLevel_lt_of_intradayExit h s hs) (not_lt.mpr hlow)
    have hexact := SaleExact.ofTake hlate ht hle hfirst hbar
    rwa [max_eq_right habove.le] at hexact

theorem signalExit_exact (hbar : bar.Consistent)
    (hopens : p.entryBarIndex < index → controls.OpensBetween p.entryPrice bar) :
    SaleExact controls p.entryPrice (p.entryBarIndex < index) bar bar.openPrice
      .strategyExit where
  stopLoss := nofun
  takeProfit := nofun
  strategyExit := fun _ => ⟨rfl, hopens⟩
  finalLiquidation := nofun
  within := ⟨hbar.low_le_open, hbar.open_le_high⟩

theorem liquidation_exact (hbar : bar.Consistent)
    (huntouched : p.entryBarIndex < index → controls.Untouched p.entryPrice bar) :
    SaleExact controls p.entryPrice (p.entryBarIndex < index) bar bar.closePrice
      .finalLiquidation where
  stopLoss := nofun
  takeProfit := nofun
  strategyExit := nofun
  finalLiquidation := fun _ => ⟨rfl, huntouched⟩
  within := ⟨hbar.low_le_close, hbar.close_le_high⟩

end Checks

-- ============================================================================
-- What the loop knows of a position
-- ============================================================================

/-- A position still held before bar `k` trades: no bar since the entry bar has
    reached a level. -/
structure OpenPosition.HeldUntil (controls : RiskControls) (bars : List MarketBar) (k : Nat)
    (p : OpenPosition) : Prop where
  entry : FilledAt bars p.entryBarIndex p.entryTimestamp p.entryPrice
  held : ∀ j bar, p.entryBarIndex < j → j < k → bars[j]? = some bar →
    controls.Untouched p.entryPrice bar

/-- Some bars witness the exactness of each trade in the log. -/
def TradesExact (controls : RiskControls) (bars : List MarketBar)
    (trades : List CompletedTrade) : Prop :=
  ∀ t ∈ trades, ∃ e x, t.RiskExact controls bars e x

namespace Book

/-- Before bar `k` trades. -/
structure RiskChecked (controls : RiskControls) (bars : List MarketBar) (k : Nat) (b : Book) :
    Prop where
  trades : TradesExact controls bars b.trades
  position : ∀ p ∈ b.position, p.HeldUntil controls bars k

/-- While bar `k` trades, from the opening check on: an older position has seen the bar
    open between its levels, and after a sale there is none. -/
structure RiskTrading (controls : RiskControls) (bars : List MarketBar) (k : Nat)
    (bar : MarketBar) (state : Book × Bool) : Prop where
  checked : state.1.RiskChecked controls bars k
  opens : ∀ p ∈ state.1.position, p.entryBarIndex < k → controls.OpensBetween p.entryPrice bar
  sold : state.2 = true → ∀ p ∈ state.1.position, p.entryBarIndex = k

section Phases

variable {controls : RiskControls} {bars : List MarketBar} {k : Nat} {bar : MarketBar} {b : Book}
  {p : OpenPosition}

/-- An exact sale of the position completes an exact trade. -/
theorem RiskChecked.close (h : b.RiskChecked controls bars k) (hp : b.position = some p)
    (hat : bars[k]? = some bar) {price : Decimal} {reason : ExitReason}
    (hexact : SaleExact controls p.entryPrice (p.entryBarIndex < k) bar price reason)
    (hlast : reason = .finalLiquidation → k + 1 = bars.length)
    (exitSignal : Option Timestamp) :
    TradesExact controls bars (b.close p bar price reason exitSignal).trades := by
  intro t ht
  rcases List.mem_append.mp ht with hold | hnew
  · exact h.trades t hold
  · obtain rfl := List.mem_singleton.mp hnew
    have hheld := h.position p hp
    exact ⟨p.entryBarIndex, k, hheld.entry, hheld.held, ⟨bar, hat, rfl, hexact⟩, hlast⟩

/-- Exact trades are all there is to check of a book that holds nothing. -/
theorem RiskChecked.of_flat (htrades : TradesExact controls bars b.trades)
    (hflat : b.position = none) : b.RiskChecked controls bars k where
  trades := htrades
  position p hp := by
    rw [hflat] at hp
    cases hp

theorem RiskTrading.of_flat {closed : Bool} (htrades : TradesExact controls bars b.trades)
    (hflat : b.position = none) : RiskTrading controls bars k bar (b, closed) where
  checked := .of_flat htrades hflat
  opens p hp := by
    rw [hflat] at hp
    cases hp
  sold _ p hp := by
    rw [hflat] at hp
    cases hp

theorem RiskTrading.of_unsold (h : b.RiskChecked controls bars k)
    (hopens : ∀ p ∈ b.position, p.entryBarIndex < k → controls.OpensBetween p.entryPrice bar) :
    RiskTrading controls bars k bar (b, false) where
  checked := h
  opens := hopens
  sold hsold := absurd hsold Bool.false_ne_true

theorem RiskTrading.ignore {closed : Bool} (h : RiskTrading controls bars k bar (b, closed))
    (signals : List Signal) : RiskTrading controls bars k bar (b.ignore signals, closed) :=
  ⟨⟨h.checked.trades, h.checked.position⟩, h.opens, h.sold⟩

theorem RiskTrading.enter {closed : Bool} (h : RiskTrading controls bars k bar (b, closed))
    (hat : bars[k]? = some bar) (hbar : bar.Consistent) (signal : Signal)
    (hshares : 0 < b.affordable bar ∧ 0 < bar.openPrice) :
    RiskTrading controls bars k bar (b.enter k bar signal hshares, closed) where
  checked :=
    { trades := h.checked.trades
      position := by
        intro p hp
        obtain rfl := Option.some.inj hp
        refine ⟨⟨bar, hat, rfl, rfl, hbar.low_le_open, hbar.open_le_high⟩, ?_⟩
        exact fun j _ hlate hbefore => absurd hbefore (Nat.lt_asymm hlate) }
  opens := by
    intro p hp hlate
    obtain rfl := Option.some.inj hp
    exact absurd hlate (Nat.lt_irrefl k)
  sold := by
    intro _ p hp
    obtain rfl := Option.some.inj hp
    rfl

theorem RiskTrading.sell {closed : Bool} (h : RiskTrading controls bars k bar (b, closed))
    (hat : bars[k]? = some bar) (hbar : bar.Consistent) (hp : b.position = some p)
    (signal : Signal) :
    RiskTrading controls bars k bar
      (b.close p bar bar.openPrice .strategyExit (some signal.timestamp), true) :=
  .of_flat (h.checked.close hp hat (signalExit_exact hbar (h.opens p hp)) nofun _) rfl

/-- A pending signal keeps what the opening check established. -/
theorem RiskTrading.signal {state : Book × Bool} (h : RiskTrading controls bars k bar state)
    (hat : bars[k]? = some bar) (hbar : bar.Consistent) (signal : Signal) :
    RiskTrading controls bars k bar (Book.signal k bar state signal) := by
  obtain ⟨b, closed⟩ := state
  obtain ⟨timestamp, signalType⟩ := signal
  cases signalType with
  | buy =>
      simp only [Book.signal, buy]
      split
      · exact h.ignore _
      · split
        · exact h.enter hat hbar _ _
        · exact h.ignore _
  | sell =>
      cases hp : b.position with
      | none => simpa [Book.signal, Book.sell, hp] using h.ignore [⟨timestamp, .sell⟩]
      | some p =>
          have hsold := h.sell hat hbar hp ⟨timestamp, .sell⟩
          simpa [Book.signal, Book.sell, hp] using hsold

theorem RiskTrading.foldl_signal (hat : bars[k]? = some bar) (hbar : bar.Consistent)
    (pending : List Signal) :
    ∀ {state : Book × Bool}, RiskTrading controls bars k bar state →
      RiskTrading controls bars k bar (pending.foldl (Book.signal k bar) state) := by
  induction pending with
  | nil => exact id
  | cons signal rest ih => exact fun h => ih (h.signal hat hbar signal)

/-- The opening phase: a risk exit is exact, and no risk exit means an open between
    the levels. -/
theorem RiskChecked.opening (h : b.RiskChecked controls bars k) (hat : bars[k]? = some bar)
    (hbar : bar.Consistent) (pending : List Signal) :
    RiskTrading controls bars k bar (b.opening controls k bar pending) := by
  cases hp : b.position with
  | none =>
      have hopened : b.opening controls k bar pending =
          pending.foldl (Book.signal k bar) (b, false) := by simp [Book.opening, hp]
      rw [hopened]
      exact RiskTrading.foldl_signal hat hbar pending (.of_flat h.trades hp)
  | some p =>
      cases hexit : p.openingExit controls k bar with
      | none =>
          have hopened : b.opening controls k bar pending =
              pending.foldl (Book.signal k bar) (b, false) := by simp [Book.opening, hp, hexit]
          rw [hopened]
          refine RiskTrading.foldl_signal hat hbar pending (.of_unsold h ?_)
          intro q hq hlate
          obtain rfl : p = q := Option.some.inj (hp.symm.trans hq)
          exact opensBetween_of_openingExit hlate hexit
      | some exit =>
          obtain ⟨price, reason⟩ := exit
          have hopened : b.opening controls k bar pending =
              ((b.close p bar price reason none).ignore pending, true) := by
            simp [Book.opening, hp, hexit]
          have hreason : reason = .finalLiquidation → k + 1 = bars.length := by
            intro hfinal
            obtain ⟨-, -, rfl | rfl⟩ := OpenPosition.openingExit_eq_some hexit <;> cases hfinal
          rw [hopened]
          exact .of_flat (h.close hp hat (openingExit_exact hbar hexit) hreason none) rfl

/-- The intraday phase: a position that is still held has not been touched by the bar. -/
theorem RiskTrading.intraday {state : Book × Bool} (h : RiskTrading controls bars k bar state)
    (hat : bars[k]? = some bar) (hbar : bar.Consistent) :
    (intraday controls k bar state).RiskChecked controls bars (k + 1) := by
  obtain ⟨b, closed⟩ := state
  -- The next bar needs of a held position that this bar left it untouched.
  have hnext : (∀ p ∈ b.position, p.entryBarIndex < k → controls.Untouched p.entryPrice bar) →
      b.RiskChecked controls bars (k + 1) := by
    refine fun huntouched => ⟨h.checked.trades, fun p hp => ?_⟩
    have hheld := h.checked.position p hp
    refine ⟨hheld.entry, fun j bar' hlate hj hat' => ?_⟩
    rcases Nat.lt_succ_iff_lt_or_eq.mp hj with hbefore | rfl
    · exact hheld.held j bar' hlate hbefore hat'
    · obtain rfl : bar = bar' := Option.some.inj (hat.symm.trans hat')
      exact huntouched p hp hlate
  cases closed with
  | true =>
      refine hnext fun p hp hlate => ?_
      exact absurd (h.sold rfl p hp) hlate.ne
  | false =>
      cases hp : b.position with
      | none =>
          have hquiet : Book.intraday controls k bar (b, false) = b := by
            simp [Book.intraday, hp]
          rw [hquiet]
          exact hnext fun p hmem => by simp [hp] at hmem
      | some p =>
          cases hexit : p.intradayExit controls k bar with
          | none =>
              have hquiet : Book.intraday controls k bar (b, false) = b := by
                simp [Book.intraday, hp, hexit]
              rw [hquiet]
              refine hnext fun q hq hlate => ?_
              obtain rfl : p = q := Option.some.inj (hp.symm.trans hq)
              exact untouched_of_intradayExit hlate hexit
          | some exit =>
              obtain ⟨price, reason⟩ := exit
              have hclosed : Book.intraday controls k bar (b, false) =
                  b.close p bar price reason none := by simp [Book.intraday, hp, hexit]
              have hreason : reason = .finalLiquidation → k + 1 = bars.length := by
                intro hfinal
                obtain ⟨-, ⟨rfl, -⟩ | ⟨rfl, -⟩⟩ := OpenPosition.intradayExit_eq_some hexit <;>
                  cases hfinal
              have hexact := intradayExit_exact hbar (h.opens p hp) hexit
              rw [hclosed]
              exact .of_flat (h.checked.close hp hat hexact hreason none) rfl

variable (controls) in
theorem run_riskChecked (signals : List Signal) (startingCash : Decimal)
    (hbars : ∀ bar ∈ bars, bar.Consistent) :
    ∀ k, k ≤ bars.length →
      (run controls bars signals startingCash k).RiskChecked controls bars k := by
  refine Loop.after_invariant (P := fun k (b : Book) => b.RiskChecked controls bars k)
    (.of_flat (fun _ ht => absurd ht List.not_mem_nil) rfl) ?_
  intro k hk h
  have hat : bars[k]? = some bars[k] := List.getElem?_eq_getElem hk
  have hbar := hbars _ (List.getElem_mem hk)
  have hclosed := (h.opening hat hbar (pendingSignals bars signals k)).intraday hat hbar
  exact ⟨hclosed.trades, hclosed.position⟩

theorem liquidate_tradesExact (hbars : ∀ bar ∈ bars, bar.Consistent)
    (h : b.RiskChecked controls bars bars.length) :
    TradesExact controls bars (b.liquidate bars).trades := by
  rcases liquidate_cases bars b with ⟨p, hlt, hp, heq⟩ | heq <;> rw [heq]
  · have hheld := h.position p hp
    have hat : bars[bars.length - 1]? = some bars[bars.length - 1] := List.getElem?_eq_getElem hlt
    have hchecked : b.RiskChecked controls bars (bars.length - 1) := by
      refine ⟨h.trades, fun q hq => ⟨(h.position q hq).entry, fun j bar hlate hj => ?_⟩⟩
      exact (h.position q hq).held j bar hlate (by omega)
    refine hchecked.close hp hat (liquidation_exact (hbars _ (List.getElem_mem hlt)) ?_)
      (fun _ => by omega) none
    exact fun hlate => hheld.held _ _ hlate hlt hat
  · exact h.trades

end Phases
end Book

-- ============================================================================
-- The completed trades of a run
-- ============================================================================

/-- The bars of an exact trade are the ones its timestamps name. -/
theorem CompletedTrade.RiskExact.at_barIndex {controls : RiskControls} {bars : List MarketBar}
    (hdistinct : (timestamps bars).Nodup) {e x : Nat} {t : CompletedTrade}
    (h : t.RiskExact controls bars e x) :
    t.RiskExact controls bars (t.entryIndex bars) (t.exitIndex bars) := by
  obtain ⟨entryBar, hentry, hentered, -⟩ := h.entry.fill
  obtain ⟨exitBar, hexit, hexited, -⟩ := h.exit
  obtain ⟨he, rfl⟩ := List.getElem?_eq_some_iff.mp hentry
  obtain ⟨hx, rfl⟩ := List.getElem?_eq_some_iff.mp hexit
  have hentryIndex : t.entryIndex bars = e := by
    rw [entryIndex, hentered]
    exact barIndex_getElem hdistinct he
  have hexitIndex : t.exitIndex bars = x := by
    rw [exitIndex, hexited]
    exact barIndex_getElem hdistinct hx
  rw [hentryIndex, hexitIndex]
  exact h

/-- Every completed trade was exited when and where its levels and its reason say, and
    filled inside the range of its bars. -/
theorem executeLongOnlySignals_riskExact (bars : List MarketBar) (signals : List Signal)
    (startingCash : Decimal) (controls : RiskControls) (hne : bars ≠ [])
    (hdistinct : (timestamps bars).Nodup) (hbars : ∀ bar ∈ bars, bar.Consistent)
    (hcash : 0 < startingCash) (hc : controls.Positive) :
    ∃ r, executeLongOnlySignals bars signals startingCash controls.stopLossPercent
        controls.takeProfitPercent = .ok r ∧
      ∀ t ∈ r.completedTrades,
        t.RiskExact controls bars (t.entryIndex bars) (t.exitIndex bars) := by
  have hpositive : ∀ bar ∈ bars, bar.Positive := fun bar hbar => (hbars bar hbar).positive
  refine ⟨_, executeLongOnlySignals_eq hcash hc hne hpositive, ?_⟩
  intro t ht
  have hrun := Book.run_riskChecked controls signals startingCash hbars
    bars.length le_rfl
  obtain ⟨e, x, hexact⟩ := Book.liquidate_tradesExact hbars hrun t ht
  exact hexact.at_barIndex hdistinct

/-- A stop inside the fourth bar, a gap over the take-profit level at the sixth, and a
    position bought at the last open. -/
def threeTradeBars : List MarketBar :=
  [dailyBar 0 10 11 9 10, dailyBar 1 10 12 8 10, dailyBar 2 10 12 (19 / 2) 10,
    dailyBar 3 10 11 8 9, dailyBar 4 10 11 10 11, dailyBar 5 13 14 8 9, dailyBar 6 10 11 10 11]

/-- Buys for three positions, and one that is ignored. -/
def threeTradeSignals : List Signal :=
  [⟨0, .buy⟩, ⟨172800000000, .buy⟩, ⟨259200000000, .buy⟩, ⟨432000000000, .buy⟩]

theorem executeLongOnlySignals_riskExact_three_trades :
    ∃ r, executeLongOnlySignals threeTradeBars threeTradeSignals 105 (some 10) (some 25) =
        .ok r ∧
      r.completedTrades.map (·.exitReason) = [.stopLoss, .takeProfit, .finalLiquidation] ∧
      ∀ t ∈ r.completedTrades,
        t.RiskExact ⟨some 10, some 25⟩ threeTradeBars (t.entryIndex threeTradeBars)
          (t.exitIndex threeTradeBars) := by
  obtain ⟨r, hr, hexact⟩ := executeLongOnlySignals_riskExact threeTradeBars threeTradeSignals 105
    ⟨some 10, some 25⟩ (by decide) (by decide +kernel) (by decide +kernel) (by decide)
    (by decide +kernel)
  have hreasons : (executeLongOnlySignals threeTradeBars threeTradeSignals 105 (some 10)
      (some 25)).toOption.map (fun r => r.completedTrades.map (·.exitReason)) =
      some [.stopLoss, .takeProfit, .finalLiquidation] := by decide +kernel
  refine ⟨r, hr, ?_, hexact⟩
  have hrun : executeLongOnlySignals threeTradeBars threeTradeSignals 105 (some 10) (some 25) =
      .ok r := hr
  rw [hrun] at hreasons
  exact Option.some.inj hreasons

end Backtesting
end TradingPlatform
