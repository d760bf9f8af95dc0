/-
  TradingPlatform.Backtesting.InertControls

  Two runs on the same bars and signals, one with risk controls and one without.

  A book does not store its levels, so the two runs are in the same state until
  the first one makes a risk exit: a phase of a bar either does the same with
  and without the controls, or it writes a risk exit of that bar to the log
  (`Book.bar_inert`), where it stays.
-/

import TradingPlatform.Backtesting.NoLookAhead

namespace TradingPlatform
namespace Backtesting

/-- Neither a stop loss nor a take profit. -/
def RiskControls.unset : RiskControls := ⟨none, none⟩

theorem RiskControls.unset_positive : RiskControls.unset.Positive := ⟨nofun, nofun⟩

/-- `reason in {ExitReason.STOP_LOSS, ExitReason.TAKE_PROFIT}` -/
def ExitReason.IsRisk (reason : ExitReason) : Prop := reason = .stopLoss ∨ reason = .takeProfit

instance (reason : ExitReason) : Decidable reason.IsRisk :=
  inferInstanceAs (Decidable (reason = .stopLoss ∨ reason = .takeProfit))

namespace OpenPosition

variable (p : OpenPosition) (index : Nat) (bar : MarketBar)

@[simp] theorem openingExit_unset : p.openingExit .unset index bar = none := by
  simp [openingExit, stopPrice, takeProfitPrice, calculateRiskLevels, RiskControls.unset]

@[simp] theorem intradayExit_unset : p.intradayExit .unset index bar = none := by
  simp [intradayExit, stopPrice, takeProfitPrice, calculateRiskLevels, RiskControls.unset]

end OpenPosition

namespace Book

-- ============================================================================
-- One bar
-- ============================================================================

/-- The log has a risk exit of the bar with the given timestamp. -/
def RiskExitAt (timestamp : Timestamp) (b : Book) : Prop :=
  ∃ t ∈ b.trades, t.exitReason.IsRisk ∧ t.exitTimestamp = timestamp

section Bar

variable {controls : RiskControls} {index : Nat} {bar : MarketBar} {b : Book}

theorem close_riskExitAt (p : OpenPosition) (price : Decimal) {reason : ExitReason}
    (hreason : reason.IsRisk) :
    (b.close p bar price reason none).RiskExitAt bar.timestamp :=
  ⟨_, List.mem_append_right _ (List.mem_singleton_self _), hreason, rfl⟩

theorem opening_unset (pending : List Signal) :
    b.opening .unset index bar pending = pending.foldl (Book.signal index bar) (b, false) := by
  have hnone : (b.position.bind fun p => (p.openingExit .unset index bar).map (p, ·)) = none := by
    cases b.position <;> simp
  rw [opening, hnone]

theorem intraday_unset (state : Book × Bool) : intraday .unset index bar state = state.1 := by
  have hnone : (state.1.position.bind fun p =>
      (p.intradayExit .unset index bar).map (p, ·)) = none := by
    cases state.1.position <;> simp
  rw [intraday, hnone]
  exact ite_self _

/-- The opening phase does what it does without controls, or makes a risk exit. -/
theorem opening_inert (controls : RiskControls) (index : Nat) (bar : MarketBar)
    (pending : List Signal) (b : Book) :
    b.opening controls index bar pending = b.opening .unset index bar pending ∨
      (b.opening controls index bar pending).2 = true ∧
        (b.opening controls index bar pending).1.RiskExitAt bar.timestamp := by
  rw [opening_unset]
  rcases opening_cases controls index bar pending b with
    ⟨p, price, reason, -, hexit, heq⟩ | heq <;> rw [heq]
  · exact Or.inr ⟨rfl, close_riskExitAt p price (OpenPosition.openingExit_eq_some hexit).2.2⟩
  · exact Or.inl rfl

theorem intraday_inert (controls : RiskControls) (index : Nat) (bar : MarketBar)
    (state : Book × Bool) :
    intraday controls index bar state = state.1 ∨
      (intraday controls index bar state).RiskExitAt bar.timestamp := by
  rcases intraday_cases controls index bar state with
    ⟨p, price, reason, -, hexit, heq⟩ | heq <;> rw [heq]
  · refine Or.inr (close_riskExitAt p price ?_)
    exact (OpenPosition.intradayExit_eq_some hexit).2.imp And.left And.left
  · exact Or.inl rfl

/-- A bar does what it does without controls, or writes a risk exit to the log. -/
theorem bar_inert (controls : RiskControls) (pending : List Signal) (b : Book)
    (item : MarketBar × Nat) :
    b.bar controls pending item = b.bar .unset pending item ∨
      (b.bar controls pending item).RiskExitAt item.1.timestamp := by
  obtain ⟨bar, index⟩ := item
  simp only [Book.bar, intraday_unset]
  rcases opening_inert controls index bar pending b with hsame | ⟨hclosed, hexit⟩
  · rw [hsame]
    rcases intraday_inert controls index bar (b.opening .unset index bar pending) with
      hquiet | hexit
    · exact Or.inl (by rw [hquiet])
    · exact Or.inr hexit
  · refine Or.inr ?_
    rw [intraday, if_pos hclosed]
    exact hexit

end Bar

-- ============================================================================
-- A run
-- ============================================================================

section Run

variable {controls : RiskControls} {bars : List MarketBar} {signals : List Signal}
  {startingCash : Decimal}

/-- The book of a run after the last bar, liquidated. -/
def final (controls : RiskControls) (bars : List MarketBar) (signals : List Signal)
    (startingCash : Decimal) : Book :=
  (run controls bars signals startingCash bars.length).liquidate bars

/-- Every risk exit of the log is at bar `k` or later. -/
def RiskFreeBefore (bars : List MarketBar) (k : Nat) (b : Book) : Prop :=
  ∀ t ∈ b.trades, t.exitReason.IsRisk → k ≤ t.exitIndex bars

/-- The run is in the state of the run without controls until the first risk exit. -/
theorem run_inert (hdistinct : (timestamps bars).Nodup) :
    ∀ k, k ≤ bars.length →
      (final controls bars signals startingCash).RiskFreeBefore bars k →
      run controls bars signals startingCash k = run .unset bars signals startingCash k := by
  intro k
  induction k with
  | zero => exact fun _ _ => rfl
  | succ k ih =>
      intro hk hfree
      have hbefore : (final controls bars signals startingCash).RiskFreeBefore bars k :=
        fun t ht hrisk => Nat.le_of_succ_le (hfree t ht hrisk)
      have hstep := bar_inert controls (pendingSignals bars signals k)
        (run controls bars signals startingCash k) (bars[k], k)
      rw [← run_succ controls signals startingCash hk, ih (by omega) hbefore,
        ← run_succ .unset signals startingCash hk] at hstep
      rcases hstep with hsame | ⟨t, ht, hrisk, hat⟩
      · exact hsame
      · -- a risk exit at bar `k` would stay in the log
        obtain ⟨later, hlater, -⟩ :=
          (run_continues controls signals startingCash hdistinct hk).trades
        have hlogged : t ∈ (final controls bars signals startingCash).trades := by
          rw [final, hlater]
          exact List.mem_append_left _ ht
        have hexit : t.exitIndex bars = k := by
          rw [CompletedTrade.exitIndex, hat, barIndex_getElem hdistinct hk]
        have hlate := hfree t hlogged hrisk
        omega

/-- The final liquidation is at the last bar. -/
theorem final_liquidation_exitIndex (hdistinct : (timestamps bars).Nodup) {t : CompletedTrade}
    (ht : t ∈ (final controls bars signals startingCash).trades)
    (hreason : t.exitReason = .finalLiquidation) : t.exitIndex bars + 1 = bars.length := by
  have hrun : ∀ t ∈ (run controls bars signals startingCash bars.length).trades,
      t.exitReason ≠ .finalLiquidation := run_exitReason_ne bars.length le_rfl
  unfold final liquidate at ht
  split at ht
  · rename_i p last hp hlast
    rcases List.mem_append.mp ht with hold | hnew
    · exact absurd hreason (hrun t hold)
    · obtain rfl := List.mem_singleton.mp hnew
      rw [List.getLast?_eq_getElem?] at hlast
      obtain ⟨hlt, rfl⟩ := List.getElem?_eq_some_iff.mp hlast
      have hexit := barIndex_getElem hdistinct hlt
      show barIndex bars bars[bars.length - 1].timestamp + 1 = bars.length
      omega
  · exact absurd hreason (hrun t ht)

/-- The curve and the trades of a whole run, cut at bar `k`, are those of the book there. -/
theorem final_past (signals : List Signal) (hcash : 0 < startingCash) (hc : controls.Positive)
    (hdistinct : (timestamps bars).Nodup) (hbars : ∀ bar ∈ bars, bar.Positive) {k : Nat}
    (hk : k < bars.length) :
    (final controls bars signals startingCash).equity.take k =
        (run controls bars signals startingCash k).equity ∧
      (final controls bars signals startingCash).trades.filter (·.exitIndex bars < k) =
        (run controls bars signals startingCash k).trades := by
  have hcharted : (run controls bars signals startingCash k).Charted bars startingCash k k :=
    run_charted hcash hc hdistinct hbars k hk.le
  have hcontinues := run_continues controls signals startingCash hdistinct hk.le
  obtain ⟨rest, hrest⟩ := hcontinues.equity
  obtain ⟨later, hlater, hlate⟩ := hcontinues.trades
  have hlength : (run controls bars signals startingCash k).equity.length = k := by
    have hmap := congrArg List.length hcharted.equity_timestamps
    simpa [Nat.min_eq_left hk.le] using hmap
  constructor
  · rw [final, ← hrest, List.take_append_of_le_length hlength.ge,
      List.take_of_length_le hlength.le]
  · have hpast : (run controls bars signals startingCash k).trades.filter
        (·.exitIndex bars < k) = (run controls bars signals startingCash k).trades :=
      List.filter_eq_self.mpr fun t ht => by simpa using (hcharted.trades_placed t ht).exit_lt
    have hfuture : later.filter (·.exitIndex bars < k) = [] := by
      refine List.filter_eq_nil_iff.mpr fun t ht => ?_
      have hlogged : t ∈ (final controls bars signals startingCash).trades := by
        rw [final, hlater]
        exact List.mem_append_right _ ht
      rcases hlate t ht with hexit | hreason
      · simpa using hexit
      · have hexit := final_liquidation_exitIndex hdistinct hlogged hreason
        simp only [decide_eq_true_eq]
        omega
    rw [final, hlater, List.filter_append, hpast, hfuture, List.append_nil]

end Run
end Book

/-- A run without risk exits is the run without controls; in general the two agree before
    the first bar with a risk exit. -/
theorem executeLongOnlySignals_inert (bars : List MarketBar) (signals : List Signal)
    (startingCash : Decimal) (controls : RiskControls) (hne : bars ≠ [])
    (hdistinct : (timestamps bars).Nodup) (hbars : ∀ bar ∈ bars, bar.Consistent)
    (hcash : 0 < startingCash) (hc : controls.Positive) :
    ∃ r r₀, executeLongOnlySignals bars signals startingCash controls.stopLossPercent
        controls.takeProfitPercent = .ok r ∧
      executeLongOnlySignals bars signals startingCash none none = .ok r₀ ∧
      ((∀ t ∈ r.completedTrades, ¬ t.exitReason.IsRisk) → r = r₀) ∧
      ∀ k, k ≤ bars.length →
        (∀ t ∈ r.completedTrades, t.exitReason.IsRisk → k ≤ t.exitIndex bars) →
        r.equityCurve.take k = r₀.equityCurve.take k ∧
        r.completedTrades.filter (·.exitIndex bars < k) =
          r₀.completedTrades.filter (·.exitIndex bars < k) := by
  have hpositive : ∀ bar ∈ bars, bar.Positive := fun bar hbar => (hbars bar hbar).positive
  have hwhole : (Book.final controls bars signals startingCash).RiskFreeBefore bars bars.length →
      Book.final controls bars signals startingCash =
        Book.final .unset bars signals startingCash := fun hfree => by
    rw [Book.final, Book.final, Book.run_inert hdistinct bars.length le_rfl hfree]
  refine ⟨(Book.final controls bars signals startingCash).result,
    (Book.final .unset bars signals startingCash).result,
    executeLongOnlySignals_eq hcash hc hne hpositive,
    executeLongOnlySignals_eq hcash RiskControls.unset_positive hne hpositive, ?_, ?_⟩
  · intro hnone
    rw [hwhole fun t ht hrisk => absurd hrisk (hnone t ht)]
  · intro k hk hfree
    rcases Nat.lt_or_eq_of_le hk with hlt | rfl
    · obtain ⟨hequity, htrades⟩ :=
        Book.final_past signals hcash hc hdistinct hpositive hlt
      obtain ⟨hequity₀, htrades₀⟩ :=
        Book.final_past signals hcash RiskControls.unset_positive hdistinct hpositive hlt
      have hsame := Book.run_inert hdistinct k hk hfree
      simp only [Book.result]
      exact ⟨by rw [hequity, hequity₀, hsame], by rw [htrades, htrades₀, hsame]⟩
    · rw [hwhole hfree]
      exact ⟨rfl, rfl⟩

/-- A position bought at the second open and stopped out inside the fourth bar. -/
def stoppedBars : List MarketBar :=
  [dailyBar 0 10 11 (19 / 2) 10, dailyBar 1 10 11 (19 / 2) 10, dailyBar 2 10 11 (19 / 2) 11,
    dailyBar 3 10 11 8 9, dailyBar 4 9 10 8 9]

theorem executeLongOnlySignals_inert_stopped :
    ∃ r r₀, executeLongOnlySignals stoppedBars [⟨0, .buy⟩] 105 (some 10) (some 50) = .ok r ∧
      executeLongOnlySignals stoppedBars [⟨0, .buy⟩] 105 none none = .ok r₀ ∧
      r.equityCurve.take 3 = r₀.equityCurve.take 3 := by
  obtain ⟨r, r₀, hr, hr₀, -, hagree⟩ := executeLongOnlySignals_inert stoppedBars [⟨0, .buy⟩] 105
    ⟨some 10, some 50⟩ (by decide) (by decide +kernel) (by decide +kernel) (by decide)
    (by decide +kernel)
  have hfree : ∃ r, executeLongOnlySignals stoppedBars [⟨0, .buy⟩] 105 (some 10) (some 50) =
      .ok r ∧ ∀ t ∈ r.completedTrades, t.exitReason.IsRisk → 3 ≤ t.exitIndex stoppedBars :=
    Python.exists_ok_of_any (by decide +kernel)
  obtain ⟨r', hr', hfree⟩ := hfree
  obtain rfl : r = r' := Except.ok.inj (hr.symm.trans hr')
  exact ⟨r, r₀, hr, hr₀, (hagree 3 (by decide) hfree).1⟩

end Backtesting
end TradingPlatform
