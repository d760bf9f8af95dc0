/-
  TradingPlatform.Backtesting.SignalExits

  When a strategy exit follows an exit signal raised while the position existed.

  A strategy whose two conditions hold on one bar raises BUY and SELL there, and
  the engine executes both at the next open.  Flat before it and with cash for a
  share, it buys and sells at one price, a round trip that no exit signal raised
  during the position explains; in every other state the exit is a real one.
-/

import TradingPlatform.Backtesting.NoLookAhead

namespace TradingPlatform
namespace Backtesting

open Python Schemas Services

/-- The exit was signalled after the entry was, and filled after the entry was. -/
structure CompletedTrade.ExitsLater (t : CompletedTrade) : Prop where
  signalled : ∃ exitSignal ∈ t.exitSignalTimestamp, t.signalTimestamp < exitSignal
  filled : t.entryTimestamp < t.exitTimestamp

/-- Every trade that the strategy closed was signalled and filled later. -/
def StrategyExitsLater (trades : List CompletedTrade) : Prop :=
  ∀ t ∈ trades, t.exitReason = .strategyExit → t.ExitsLater

/-- Both conditions hold at bar `k`, by the columns that `generate_signals` reads. -/
structure BothHold (specification : StrategySpecification) (bars : List MarketBar) (k : Nat) :
    Prop where
  entry : ∃ values, evaluateCondition specification.entry bars = .ok values ∧
    values[k]? = some true
  exit : ∃ values, evaluateCondition specification.exit bars = .ok values ∧
    values[k]? = some true

/-- The local variables of the engine before bar `k` of a strategy run. -/
def strategyStateBefore (specification : StrategySpecification) (bars : List MarketBar)
    (startingCash : Decimal) (stopLossPercent takeProfitPercent : Option Decimal) (k : Nat) :
    Except PyError LoopState := do
  let compiled ← compileStrategy specification
  let signals ← compiled.generateSignals bars
  (bars.zipIdx.take k).foldlM (executeBar bars signals stopLossPercent takeProfitPercent)
    (LoopState.initial startingCash)

section Specs

variable {specification : StrategySpecification} {bars : List MarketBar}
  {startingCash : Decimal} {controls : RiskControls}

theorem bothHold_iff (h : specification.Valid) {k : Nat} (hk : k < bars.length) :
    BothHold specification bars k ↔
      specification.entry.holdsOn (bars.take (k + 1)) = true ∧
      specification.exit.holdsOn (bars.take (k + 1)) = true := by
  have hcolumn : ∀ {condition : Condition}, condition.Valid →
      ((∃ values, evaluateCondition condition bars = .ok values ∧ values[k]? = some true) ↔
        condition.holdsOn (bars.take (k + 1)) = true) := by
    intro condition hvalid
    rw [evaluateCondition_spec hvalid.evaluable]
    simp [History.values_getElem? _ hk]
  rw [← hcolumn h.entry, ← hcolumn h.exit]
  exact ⟨fun hboth => ⟨hboth.entry, hboth.exit⟩, fun ⟨hentry, hexit⟩ => ⟨hentry, hexit⟩⟩

theorem strategyStateBefore_eq (hvalid : validateStrategySemantics specification = .ok ())
    (hbars : ∀ bar ∈ bars, bar.Positive) (hcash : 0 < startingCash) (hc : controls.Positive)
    (k : Nat) :
    strategyStateBefore specification bars startingCash controls.stopLossPercent
        controls.takeProfitPercent k =
      .ok ((strategyRun controls specification bars startingCash k).toLoopState controls) := by
  rw [strategyStateBefore, compileStrategy_spec hvalid, ok_bind,
    generateSignals_spec (validateStrategySemantics_valid hvalid), ok_bind,
    (executeBar_foldlM_take _ hcash hc hbars k).1, strategyRun]

theorem toLoopState_quantity_eq_zero {b : Book} :
    (b.toLoopState controls).quantity = 0 ↔ b.position = none := by
  cases h : b.position with
  | none => simp [Book.toLoopState, h]
  | some p => simp [Book.toLoopState, h, p.quantity_pos.ne']

end Specs

-- ============================================================================
-- One bar
-- ============================================================================

namespace Book

section Bar

variable {controls : RiskControls} {k : Nat} {bar : MarketBar} {b : Book} {p : OpenPosition}

variable (p bar) in
theorem close_exitsLater (price : Decimal) {reason : ExitReason}
    (exitSignal : Option Timestamp) (h : StrategyExitsLater b.trades)
    (hnew : reason = .strategyExit →
      (p.exitTrade bar.timestamp price reason exitSignal).ExitsLater) :
    StrategyExitsLater (b.close p bar price reason exitSignal).trades := by
  intro t ht hreason
  rcases List.mem_append.mp ht with hold | hmem
  · exact h t hold hreason
  · obtain rfl := List.mem_singleton.mp hmem
    exact hnew hreason

/-- A held position sold by an exit signal of the bar before exits later. -/
theorem exitTrade_exitsLater {timestamp : Timestamp} (hsignal : p.signalTimestamp < timestamp)
    (hentry : p.entryTimestamp < bar.timestamp) (price : Decimal) :
    (p.exitTrade bar.timestamp price .strategyExit (some timestamp)).ExitsLater :=
  ⟨⟨timestamp, rfl, hsignal⟩, hentry⟩

/-- Without shares to buy, a flat book ignores BUY and SELL. -/
theorem signal_flat (hp : b.position = none) (hpoor : ¬ 0 < b.affordable bar)
    (closed : Bool) (signal : Signal) :
    Book.signal k bar (b, closed) signal = (b.ignore [signal], closed) := by
  obtain ⟨timestamp, signalType⟩ := signal
  cases signalType with
  | buy => simp [Book.signal, buy, hp, hpoor]
  | sell => simp [Book.signal, sell, hp]

/-- The opening phase, for a strategy that raised BUY if `entry` and SELL if `exit`. -/
theorem opening_exitsLater (timestamp : Timestamp) (entry exit : Bool)
    (h : StrategyExitsLater b.trades)
    (hheld : ∀ p ∈ b.position, p.signalTimestamp < timestamp ∧
      p.entryTimestamp < bar.timestamp)
    (hflat : entry = true → exit = true → b.position = none → ¬ 0 < b.affordable bar) :
    StrategyExitsLater (b.opening controls k bar
      ((if entry then [⟨timestamp, .buy⟩] else []) ++
        (if exit then [⟨timestamp, .sell⟩] else []))).1.trades := by
  cases hp : b.position with
  | none =>
      -- A sale could only be of a position bought at this open.
      have hopened : ∀ pending, b.opening controls k bar pending =
          pending.foldl (Book.signal k bar) (b, false) := by simp [opening, hp]
      rw [hopened]
      cases entry with
      | false => cases exit <;> simpa [Book.signal, sell, hp, ignore] using h
      | true =>
          cases exit with
          | false =>
              simp only [if_true, Bool.false_eq_true, if_false, List.append_nil,
                List.foldl_cons, List.foldl_nil, Book.signal, buy, hp]
              split <;> exact h
          | true =>
              have hpoor := hflat rfl rfl hp
              have hbought := signal_flat (k := k) hp hpoor false ⟨timestamp, .buy⟩
              have hsold := signal_flat (k := k) (b := b.ignore [⟨timestamp, .buy⟩]) hp hpoor
                false ⟨timestamp, .sell⟩
              simp only [if_true, List.cons_append, List.nil_append, List.foldl_cons,
                List.foldl_nil, hbought, hsold]
              exact h
  | some p =>
      obtain ⟨hsignal, hentry⟩ := hheld p hp
      cases hexit : p.openingExit controls k bar with
      | some riskExit =>
          obtain ⟨price, reason⟩ := riskExit
          have hreason := OpenPosition.openingExit_ne_strategyExit hexit
          have hclosed := close_exitsLater bar p price none h
            fun hstrategy => absurd hstrategy hreason
          simpa [opening, hp, hexit, ignore] using hclosed
      | none =>
          have hopened : ∀ pending, b.opening controls k bar pending =
              pending.foldl (Book.signal k bar) (b, false) := by simp [opening, hp, hexit]
          have hsold := close_exitsLater bar p _ _ h
            fun _ => exitTrade_exitsLater hsignal hentry bar.openPrice
          rw [hopened]
          cases entry with
          | false =>
              cases exit with
              | false => exact h
              | true => simpa [Book.signal, sell, hp] using hsold
          | true =>
              cases exit with
              | false => simpa [Book.signal, buy, hp, ignore] using h
              | true => simpa [Book.signal, buy, sell, hp, ignore, close] using hsold

/-- The trading hours of a bar close positions for risk reasons only. -/
theorem intraday_exitsLater {state : Book × Bool} (h : StrategyExitsLater state.1.trades) :
    StrategyExitsLater (intraday controls k bar state).trades := by
  rcases intraday_cases controls k bar state with
    ⟨p, price, reason, -, hexit, heq⟩ | heq <;> rw [heq]
  · exact close_exitsLater _ _ _ _ h fun hstrategy =>
      absurd hstrategy (OpenPosition.intradayExit_ne_strategyExit hexit)
  · exact h

end Bar
end Book

-- ============================================================================
-- The run
-- ============================================================================

section Run

variable {specification : StrategySpecification} {bars : List MarketBar}
  {startingCash : Decimal} {controls : RiskControls}

/-- What is pending after a nonempty history: BUY, SELL, both or neither, stamped with
    its last bar. -/
theorem signalsOn_take_succ {k : Nat} (hk : k < bars.length) :
    specification.signalsOn (bars.take (k + 1)) =
      (if specification.entry.holdsOn (bars.take (k + 1)) then
        [⟨bars[k].timestamp, .buy⟩] else []) ++
      (if specification.exit.holdsOn (bars.take (k + 1)) then
        [⟨bars[k].timestamp, .sell⟩] else []) := by
  have hlast : (bars.take (k + 1)).getLast? = some bars[k] := by
    rw [List.take_succ_eq_append_getElem hk, List.getLast?_concat]
  rw [StrategySpecification.signalsOn, hlast, Option.elim_some]

/-- A position held before bar `k + 1` was signalled before bar `k` and filled before
    bar `k + 1`. -/
theorem held_before {k : Nat} (horder : bars.Pairwise fun x y => x.timestamp < y.timestamp)
    (hk : k + 1 < bars.length) {b : Book}
    (h : b.Charted bars startingCash (k + 1) (k + 1)) :
    ∀ p ∈ b.position, p.signalTimestamp < bars[k].timestamp ∧
      p.entryTimestamp < bars[k + 1].timestamp := by
  intro p hp
  obtain ⟨hpos, hentry, hsignal⟩ := h.position_entered p hp
  have hlt := h.position_lt p hp
  have hbefore : ∀ {i j : Nat} {timestamp : Timestamp}, (timestamps bars)[i]? = some timestamp →
      (hj : j < bars.length) → i < j → timestamp < bars[j].timestamp := by
    intro i j timestamp hi hj hij
    rw [timestamps_getElem?, List.getElem?_eq_getElem (by omega), Option.map_some,
      Option.some_inj] at hi
    rw [← hi]
    exact List.pairwise_iff_getElem.mp horder i j (by omega) hj hij
  exact ⟨hbefore hsignal (by omega) (by omega), hbefore hentry hk hlt⟩

theorem affordable_pos_iff {b : Book} {bar : MarketBar} (hopen : 0 < bar.openPrice) :
    0 < b.affordable bar ↔ bar.openPrice ≤ b.cash := by
  rw [Book.affordable, Nat.floor_pos, one_le_div hopen]

variable (specification) in
/-- No bar raises BUY and SELL before an open at which the strategy is flat and has cash
    for a share: then every strategy exit is a later one. -/
theorem strategyRun_exitsLater (hcash : 0 < startingCash) (hc : controls.Positive)
    (horder : bars.Pairwise fun x y => x.timestamp < y.timestamp)
    (hbars : ∀ bar ∈ bars, bar.Positive)
    (hseparate : ∀ k (hk : k + 1 < bars.length),
      specification.entry.holdsOn (bars.take (k + 1)) = true →
      specification.exit.holdsOn (bars.take (k + 1)) = true →
      (strategyRun controls specification bars startingCash (k + 1)).position = none →
      ¬ 0 < (strategyRun controls specification bars startingCash (k + 1)).affordable
        bars[k + 1]) :
    ∀ k, k ≤ bars.length →
      StrategyExitsLater (strategyRun controls specification bars startingCash k).trades := by
  have hdistinct := timestamps_nodup horder
  intro k
  induction k with
  | zero => exact fun _ _ ht => absurd ht List.not_mem_nil
  | succ k ih =>
      intro hk
      rw [strategyRun_succ hdistinct hk]
      refine Book.intraday_exitsLater ?_
      cases k with
      | zero =>
          -- The first bar has no history, so no pending signal.
          exact Book.opening_exitsLater 0 false false (ih (by omega)) nofun nofun
      | succ k =>
          have hcharted : (strategyRun controls specification bars startingCash (k + 1)).Charted
              bars startingCash (k + 1) (k + 1) :=
            Book.run_charted hcash hc hdistinct hbars (k + 1) (by omega)
          rw [signalsOn_take_succ (by omega)]
          exact Book.opening_exitsLater _ _ _ (ih (by omega)) (held_before horder hk hcharted)
            (hseparate k hk)

variable (controls) in
/-- Flat and with cash for a share, BUY and SELL pending at one open make a round trip
    whose exit is no later than its entry. -/
theorem roundTrip_of_both {k : Nat} (hk : k < bars.length) {b : Book} {bar : MarketBar}
    (hentry : specification.entry.holdsOn (bars.take (k + 1)) = true)
    (hexit : specification.exit.holdsOn (bars.take (k + 1)) = true)
    (hflat : b.position = none) (hshares : 0 < b.affordable bar ∧ 0 < bar.openPrice) :
    ∃ t ∈ (b.opening controls (k + 1) bar (specification.signalsOn (bars.take (k + 1)))).1.trades,
      t.exitTimestamp = bar.timestamp ∧ t.exitReason = .strategyExit ∧ ¬ t.ExitsLater := by
  rw [signalsOn_take_succ hk, hentry, hexit]
  have hopened : (b.opening controls (k + 1) bar
      ([⟨bars[k].timestamp, .buy⟩] ++ [⟨bars[k].timestamp, .sell⟩])).1.trades =
      b.trades ++ [{
        quantity := b.affordable bar
        entryPrice := bar.openPrice
        entryTimestamp := bar.timestamp
        signalTimestamp := bars[k].timestamp
        entryBarIndex := k + 1
        quantity_pos := hshares.1
        entryPrice_pos := hshares.2 : OpenPosition }.exitTrade bar.timestamp bar.openPrice
          .strategyExit (some bars[k].timestamp)] := by
    simp [Book.opening, hflat, Book.signal, Book.buy, hshares, Book.enter, Book.sell, Book.close]
  refine ⟨_, hopened ▸ List.mem_append_right _ (List.mem_singleton_self _), rfl, rfl, ?_⟩
  exact fun hlater => lt_irrefl bar.timestamp hlater.filled

end Run

/-- The strategy exits of a run are all later ones exactly when no bar at which both
    conditions hold is followed by an open with no shares held and cash for one. -/
theorem executeStrategy_exitsLater_iff (specification : StrategySpecification)
    (startingCash : Decimal) (controls : RiskControls) (bars : List MarketBar)
    (hvalid : validateStrategySemantics specification = .ok ()) (hne : bars ≠ [])
    (horder : bars.Pairwise fun x y => x.timestamp < y.timestamp)
    (hbars : ∀ bar ∈ bars, bar.Positive) (hcash : 0 < startingCash) (hc : controls.Positive) :
    (∃ r, executeStrategy specification bars startingCash controls.stopLossPercent
        controls.takeProfitPercent = .ok r ∧ StrategyExitsLater r.completedTrades) ↔
      ∀ k (hk : k + 1 < bars.length) st, BothHold specification bars k →
        strategyStateBefore specification bars startingCash controls.stopLossPercent
          controls.takeProfitPercent (k + 1) = .ok st →
        st.quantity = 0 → st.cash < bars[k + 1].openPrice := by
  have hspecification := validateStrategySemantics_valid hvalid
  have hdistinct := timestamps_nodup horder
  have hopen : ∀ k (hk : k < bars.length), 0 < bars[k].openPrice := fun k hk =>
    (hbars _ (List.getElem_mem hk)).openPrice_pos
  rw [executeStrategy_eq hvalid hne hbars hcash hc]
  constructor
  · -- a round trip of the opening phase is still in the log at the end
    rintro ⟨r, hr, hlater⟩ k hk st hboth hst hquantity
    obtain rfl := Except.ok.inj hr
    rw [strategyStateBefore_eq hvalid hbars hcash hc, Except.ok.injEq] at hst
    subst hst
    rw [toLoopState_quantity_eq_zero] at hquantity
    obtain ⟨hentry, hexit⟩ := (bothHold_iff hspecification (by omega)).mp hboth
    by_contra hrich
    have hshares := (affordable_pos_iff (hopen _ hk)).mpr (not_lt.mp hrich)
    obtain ⟨t, ht, hat, hreason, hnot⟩ := roundTrip_of_both controls (by omega)
      hentry hexit hquantity ⟨hshares, hopen _ hk⟩
    obtain ⟨-, hfills⟩ := strategyRun_fills specification controls startingCash hdistinct hk
      rfl rfl
    have hfilled : t ∈ ((strategyRun controls specification bars startingCash
        bars.length).liquidate bars).result.strategyExitsAt bars[k + 1].timestamp := by
      rw [hfills]
      exact List.mem_filter.mpr ⟨ht, decide_eq_true ⟨hat, hreason⟩⟩
    exact hnot (hlater t (List.mem_of_mem_filter hfilled) hreason)
  · intro hseparate
    refine ⟨_, rfl, ?_⟩
    have hrun := strategyRun_exitsLater specification hcash hc horder hbars
      (fun k hk hentry hexit hflat hshares => by
        have hboth := (bothHold_iff hspecification (by omega)).mpr ⟨hentry, hexit⟩
        have hpoor := hseparate k hk _ hboth (strategyStateBefore_eq hvalid hbars hcash hc _)
          (toLoopState_quantity_eq_zero.mpr hflat)
        exact absurd ((affordable_pos_iff (hopen _ hk)).mp hshares) (not_le.mpr hpoor))
      bars.length le_rfl
    show StrategyExitsLater (Book.liquidate bars _).trades
    unfold Book.liquidate
    split
    · exact Book.close_exitsLater _ _ _ _ hrun nofun
    · exact hrun

/-- Buy above 5, sell above 8: at a close of 9 the strategy holds its shares and sells
    them one bar later. -/
theorem executeStrategy_exitsLater_iff_threshold :
    ∃ r, executeStrategy (.ofRules ⟨.price "close", .greaterThan, .constant 5⟩
        ⟨.price "close", .greaterThan, .constant 8⟩)
        [dailyBar 0 6 7 5 6, dailyBar 1 6 9 5 9, dailyBar 2 10 11 9 7] 105 none none = .ok r ∧
      StrategyExitsLater r.completedTrades := by
  refine (executeStrategy_exitsLater_iff (.ofRules ⟨.price "close", .greaterThan, .constant 5⟩
    ⟨.price "close", .greaterThan, .constant 8⟩) 105 ⟨none, none⟩
    [dailyBar 0 6 7 5 6, dailyBar 1 6 9 5 9, dailyBar 2 10 11 9 7] (by decide +kernel)
    (by decide) (by decide) (by decide +kernel) (by decide) (by decide)).mpr ?_
  intro k hk st hboth hst hquantity
  have hexits : evaluateCondition ⟨.price "close", .greaterThan, .constant 8⟩
      [dailyBar 0 6 7 5 6, dailyBar 1 6 9 5 9, dailyBar 2 10 11 9 7] =
      .ok [false, true, false] := by decide +kernel
  have hheld : (strategyStateBefore (.ofRules ⟨.price "close", .greaterThan, .constant 5⟩
      ⟨.price "close", .greaterThan, .constant 8⟩)
      [dailyBar 0 6 7 5 6, dailyBar 1 6 9 5 9, dailyBar 2 10 11 9 7] 105 none none 2).toOption.map
        (·.quantity) = some 17 := by decide +kernel
  obtain rfl | rfl : k = 0 ∨ k = 1 := by
    simp only [List.length_cons, List.length_nil] at hk
    omega
  · obtain ⟨values, hvalues, hfirst⟩ := hboth.exit
    obtain rfl := Except.ok.inj (hexits.symm.trans hvalues)
    cases hfirst
  · rw [show strategyStateBefore _ _ _ none none 2 = .ok st from hst, Except.toOption,
      Option.map_some, hquantity] at hheld
    cases hheld

/-- Both conditions hold on the first of two bars: the shares bought at the open of the
    second are sold at that open, by a signal of the bar that raised the buy. -/
theorem executeStrategy_roundTrip :
    validateStrategySemantics (.ofRules ⟨.price "close", .greaterThan, .constant 5⟩
        ⟨.price "close", .greaterThan, .constant 8⟩) = .ok () ∧
      ∃ r, executeStrategy (.ofRules ⟨.price "close", .greaterThan, .constant 5⟩
          ⟨.price "close", .greaterThan, .constant 8⟩)
          [dailyBar 0 10 11 9 10, dailyBar 1 10 11 9 10] 105 none none = .ok r ∧
        ¬ StrategyExitsLater r.completedTrades := by
  refine ⟨by decide +kernel, ⟨105, 0, [⟨0, 86400000000, 10, 10, some 0, 86400000000, 10, 0, 0,
    .strategyExit⟩], [⟨0, 105⟩, ⟨86400000000, 105⟩], []⟩, by decide +kernel, ?_⟩
  intro hlater
  have htrade := hlater _ (List.mem_singleton_self _) rfl
  exact absurd htrade.filled (lt_irrefl _)

end Backtesting
end TradingPlatform
