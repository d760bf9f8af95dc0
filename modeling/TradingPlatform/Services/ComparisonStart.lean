/-
  TradingPlatform.Services.ComparisonStart

  The first point of the comparison chart.

  The chart starts at the first bar where *both* rules are evaluable, while the
  signals of each rule start at its own warm-up.  The premise of the chart, that
  the strategy still holds its starting cash there, is exactly that the rule
  with the shorter warm-up has not been met before.
-/

import TradingPlatform.Services.PreviewRuns

namespace TradingPlatform
namespace Backtesting

-- ============================================================================
-- Runs without signals
-- ============================================================================

/-- A flat book with nothing pending only marks the bar. -/
theorem Book.bar_flat {b : Book} (h : b.position = none) (controls : RiskControls)
    (item : MarketBar × Nat) : b.bar controls [] item = b.mark item.1 := by
  simp [Book.bar, Book.opening, Book.intraday, h]

/-- A run holds its starting cash as long as nothing was pending. -/
theorem strategyRun_quiet (controls : RiskControls)
    {specification : Schemas.StrategySpecification} {bars : List MarketBar}
    (startingCash : Decimal) (hdistinct : (timestamps bars).Nodup) {m : Nat}
    (hquiet : ∀ k, k ≤ m → specification.signalsOn (bars.take k) = []) :
    ∀ k, k ≤ m + 1 → k ≤ bars.length →
      (strategyRun controls specification bars startingCash k).position = none ∧
      (strategyRun controls specification bars startingCash k).cash = startingCash := by
  intro k
  induction k with
  | zero => exact fun _ _ => ⟨rfl, rfl⟩
  | succ k ih =>
      intro hkm hk
      obtain ⟨hflat, hcash⟩ := ih (by omega) (by omega)
      rw [strategyRun_succ hdistinct hk, hquiet k (by omega), Book.bar_flat hflat]
      exact ⟨hflat, hcash⟩

/-- The equity point of the last quiet bar is the starting cash. -/
theorem strategyRun_quiet_equity {controls : RiskControls}
    {specification : Schemas.StrategySpecification} {bars : List MarketBar}
    {startingCash : Decimal} (hcash : 0 < startingCash) (hc : controls.Positive)
    (hdistinct : (timestamps bars).Nodup) (hbars : ∀ bar ∈ bars, bar.Positive) {m : Nat}
    (hm : m < bars.length)
    (hquiet : ∀ k, k ≤ m → specification.signalsOn (bars.take k) = []) :
    (((strategyRun controls specification bars startingCash
        bars.length).liquidate bars).equity[m]?).map (·.equity) = some startingCash := by
  obtain ⟨hflat, hkept⟩ :=
    strategyRun_quiet controls startingCash hdistinct hquiet m (by omega) hm.le
  obtain ⟨hequity, hlength, -⟩ :=
    strategyRun_past specification hcash hc hdistinct hbars hm.le rfl rfl
  have hmark : (strategyRun controls specification bars startingCash (m + 1)).equity =
      (strategyRun controls specification bars startingCash m).equity ++
        [⟨bars[m].timestamp, startingCash⟩] := by
    rw [strategyRun_succ hdistinct hm, hquiet m le_rfl, Book.bar_flat hflat, Book.mark]
    simp only [Book.value, Book.shares, hflat, hkept, Option.elim_none, zero_mul, add_zero]
  obtain ⟨rest, hrest⟩ := (Book.run_continues controls
    (History.values specification.signalsOn bars).flatten startingCash hdistinct
    (Nat.succ_le_of_lt hm)).equity
  have hfinal : ((strategyRun controls specification bars startingCash
      bars.length).liquidate bars).equity =
        (strategyRun controls specification bars startingCash (m + 1)).equity ++ rest :=
    hrest.symm
  rw [hfinal, hmark, List.append_assoc, List.getElem?_append_right (by omega), hlength,
    Nat.sub_self]
  rfl

end Backtesting

namespace Services

open Python Schemas Backtesting

/-- The rule whose warm-up ends first. -/
def earlierRule (specification : StrategySpecification) : Condition :=
  if conditionFirstEligibleIndex specification.entry ≤
      conditionFirstEligibleIndex specification.exit then specification.entry
  else specification.exit

/-- The premise of the comparison chart: no signal before its first bar, and the strategy
    worth the starting cash there. -/
structure SharedStart (specification : StrategySpecification) (preview : StrategyPreview) :
    Prop where
  no_earlier_signal : ∀ signals,
    (CompiledStrategy.mk specification).generateSignals preview.bars = .ok signals →
      ∀ s ∈ signals, preview.comparisonStartIndex ≤ barIndex preview.bars s.timestamp
  equity_eq : preview.execution.equityCurve[preview.comparisonStartIndex.toNat]?.map
    (·.equity) = some startingCash

/-- A rule met before the comparison start is the earlier one. -/
theorem earlierRule_of_holdsOn {specification : StrategySpecification}
    (h : specification.Valid) {bars : List MarketBar} {i : Nat}
    (hi : i < eligibleIndex specification bars) {rule : Condition}
    (hrule : rule = specification.entry ∨ rule = specification.exit)
    (hholds : rule.holdsOn (bars.take (i + 1)) = true) :
    conditionFirstEligibleIndex (earlierRule specification) ≤ i ∧
      (earlierRule specification).holdsOn (bars.take (i + 1)) = true := by
  have hmax : (eligibleIndex specification bars : Int) =
      max (max (conditionFirstEligibleIndex specification.entry)
        (conditionFirstEligibleIndex specification.exit)) 0 :=
    (firstSignalEligibleIndex_eq specification bars).symm
  have hlength : (bars.take (i + 1)).length ≤ i + 1 := List.length_take_le ..
  have heligible : ∀ condition : Condition, condition.Valid →
      condition.holdsOn (bars.take (i + 1)) = true →
      conditionFirstEligibleIndex condition ≤ i := by
    intro condition hvalid hholds
    have := Condition.eligible_of_holdsOn hvalid.evaluable hholds
    omega
  unfold earlierRule
  rcases hrule with rfl | rfl
  · have hentry := heligible _ h.entry hholds
    rw [if_pos (by omega)]
    exact ⟨hentry, hholds⟩
  · have hexit := heligible _ h.exit hholds
    rw [if_neg (by omega)]
    exact ⟨hexit, hholds⟩

/-- A rule that is met raises a signal. -/
theorem signalsOn_eq_nil {specification : StrategySpecification} {bars : List MarketBar}
    {i : Nat} (hi : i < bars.length) :
    specification.signalsOn (bars.take (i + 1)) = [] ↔
      specification.entry.holdsOn (bars.take (i + 1)) = false ∧
        specification.exit.holdsOn (bars.take (i + 1)) = false := by
  rw [StrategySpecification.signalsOn, List.take_succ_eq_append_getElem hi,
    List.getLast?_concat, Option.elim_some]
  cases specification.entry.holdsOn (bars.take i ++ [bars[i]]) <;>
    cases specification.exit.holdsOn (bars.take i ++ [bars[i]]) <;> simp

/-- The signals of a strategy start at bar `m` exactly when no history before it raises one. -/
theorem no_earlier_signal_iff (specification : StrategySpecification) {bars : List MarketBar}
    (hdistinct : (timestamps bars).Nodup) {m : Nat} (hm : m ≤ bars.length) :
    (∀ s ∈ (History.values specification.signalsOn bars).flatten,
        m ≤ barIndex bars s.timestamp) ↔
      ∀ i, i < m → specification.signalsOn (bars.take (i + 1)) = [] := by
  have hindex : ∀ i (hi : i < bars.length), ∀ s ∈ specification.signalsOn (bars.take (i + 1)),
      barIndex bars s.timestamp = i := by
    intro i hi s hs
    rw [timestamp_of_mem_signalsOn_take hi hs, barIndex_getElem hdistinct hi]
  constructor
  · intro hlate i hi
    rw [List.eq_nil_iff_forall_not_mem]
    intro s hs
    have hmem : s ∈ (History.values specification.signalsOn bars).flatten :=
      List.mem_flatten.mpr ⟨_, List.mem_map.mpr ⟨i, List.mem_range.mpr (by omega), rfl⟩, hs⟩
    have := hlate s hmem
    rw [hindex i (by omega) s hs] at this
    omega
  · intro hnone s hs
    obtain ⟨raised, hraised, hs⟩ := List.mem_flatten.mp hs
    obtain ⟨i, hi, rfl⟩ := List.mem_map.mp hraised
    rw [List.mem_range] at hi
    rw [hindex i hi s hs]
    by_contra hlt
    rw [hnone i (by omega)] at hs
    exact List.not_mem_nil hs

-- ============================================================================
-- Rules with different warm-ups
-- ============================================================================

/-- Buy above a close of 10, evaluable at once; sell below the three-day average. -/
def unevenWarmups : StrategySpecification :=
  .ofRules ⟨.price "close", .greaterThan, .constant 10⟩
    ⟨.price "close", .lessThan, .indicator .sma "close" 3⟩

/-- Three bars over a year: the first close raises a buy, filled at the second open. -/
def unevenTable : MarketDataTable where
  rows := [dailyBar 0 12 13 11 12, dailyBar 1 10 13 9 12,
    { dailyBar 0 12 13 11 12 with timestamp := 31557600000000 }].map .ofSpyBar
  primaryKey := by decide
  prices := by decide +kernel

/-- At the first bar of the chart the strategy is already worth 12000. -/
theorem sharedStart_unevenWarmups :
    validateStrategySemantics unevenWarmups = .ok () ∧
      ∃ preview, createSpecificationPreview wholePower plainRendering unevenTable.rows
          unevenWarmups (.ofSpecification unevenWarmups "Buy above 10, sell below SMA 3.") =
          .ok preview ∧ ¬ SharedStart unevenWarmups preview := by
  refine ⟨by decide +kernel, ?_⟩
  have hequity : (createSpecificationPreview wholePower plainRendering unevenTable.rows
      unevenWarmups (.ofSpecification unevenWarmups "Buy above 10, sell below SMA 3.")).toOption.map
        (fun preview => preview.execution.equityCurve[preview.comparisonStartIndex.toNat]?.map
          (·.equity)) = some (some 12000) := by decide +kernel
  cases hpreview : createSpecificationPreview wholePower plainRendering unevenTable.rows
      unevenWarmups (.ofSpecification unevenWarmups "Buy above 10, sell below SMA 3.") with
  | error e => rw [hpreview] at hequity; cases hequity
  | ok preview =>
      refine ⟨preview, rfl, fun hshared => ?_⟩
      rw [hpreview, Except.toOption, Option.map_some, Option.some_inj,
        hshared.equity_eq] at hequity
      exact absurd hequity (by decide +kernel)

/-- The comparison chart keeps its premise exactly when the rule with the shorter warm-up
    is not met between its own warm-up and the first bar of the chart. -/
theorem createSpecificationPreview_sharedStart
    {power : Decimal → Decimal → Except PyError Decimal} {rendering : Rendering}
    {table : MarketDataTable} {specification : StrategySpecification}
    (hvalid : validateStrategySemantics specification = .ok ())
    {parsedStrategy : ParsedStrategyResult} {preview : StrategyPreview}
    (hpreview : createSpecificationPreview power rendering table.rows specification
      parsedStrategy = .ok preview) :
    SharedStart specification preview ↔
      ∀ i : Nat, conditionFirstEligibleIndex (earlierRule specification) ≤ i →
        (i : Int) < (CompiledStrategy.mk specification).firstSignalEligibleIndex
          (loadMarketBars table.rows specification.symbol specification.interval) →
        (earlierRule specification).holdsOn
          ((loadMarketBars table.rows specification.symbol specification.interval).take
            (i + 1)) = false := by
  have hspec := validateStrategySemantics_valid hvalid
  obtain ⟨bars, hload⟩ :
      ∃ bars, loadMarketBars table.rows specification.symbol specification.interval = bars :=
    ⟨_, rfl⟩
  have hdistinct : (timestamps bars).Nodup :=
    timestamps_nodup (hload ▸ table.loadMarketBars_ordered _ _)
  have hbars : ∀ bar ∈ bars, bar.Positive := fun bar hbar =>
    (table.loadMarketBars_consistent _ _ bar (hload ▸ hbar)).positive
  obtain ⟨hstart, metrics, -, rfl⟩ :=
    createSpecificationPreview_eq_ok hvalid hload hbars hpreview
  have hsignals := generateSignals_spec hspec bars
  have hiff := no_earlier_signal_iff specification hdistinct hstart.le
  rw [hload, firstSignalEligibleIndex_eq]
  constructor
  · intro hshared i hwarm hi
    have hi' : i < eligibleIndex specification bars := Int.ofNat_lt.mp hi
    have hnone := hiff.mp
      (fun s hs => Int.ofNat_le.mp (hshared.no_earlier_signal _ hsignals s hs)) i hi'
    obtain ⟨hentry, hexit⟩ := (signalsOn_eq_nil (by omega)).mp hnone
    show (earlierRule specification).holdsOn (bars.take (i + 1)) = false
    unfold earlierRule
    split
    · exact hentry
    · exact hexit
  · intro hunmet
    have hsilent : ∀ i, i < eligibleIndex specification bars →
        specification.signalsOn (bars.take (i + 1)) = [] := by
      intro i hi
      have hrule : ∀ rule, rule = specification.entry ∨ rule = specification.exit →
          rule.holdsOn (bars.take (i + 1)) = false := by
        intro rule hrule
        by_contra hholds
        obtain ⟨hwarm, hmet⟩ := earlierRule_of_holdsOn hspec hi hrule
          (Bool.eq_true_of_not_eq_false hholds)
        exact Bool.false_ne_true ((hunmet i hwarm (Int.ofNat_lt.mpr hi)).symm.trans hmet)
      exact (signalsOn_eq_nil (by omega)).mpr ⟨hrule _ (Or.inl rfl), hrule _ (Or.inr rfl)⟩
    refine ⟨?_, ?_⟩
    · intro signals hgenerated s hs
      obtain rfl : (History.values specification.signalsOn bars).flatten = signals :=
        Except.ok.inj (hsignals.symm.trans hgenerated)
      exact Int.ofNat_le.mpr (hiff.mpr hsilent s hs)
    · refine strategyRun_quiet_equity startingCash_pos (riskControls_positive hspec)
        hdistinct hbars hstart ?_
      intro k hk
      cases k with
      | zero => rfl
      | succ i => exact hsilent i hk

/-- Three bars of which the last alone closes above 10. -/
def quietTable : MarketDataTable where
  rows := [dailyBar 0 9 11 8 9, dailyBar 1 9 11 8 10,
    { dailyBar 0 10 13 9 12 with timestamp := 31557600000000 }].map .ofSpyBar
  primaryKey := by decide
  prices := by decide +kernel

/-- Over them the rules of `unevenWarmups` keep the premise. -/
theorem createSpecificationPreview_sharedStart_quiet :
    ∃ preview, createSpecificationPreview wholePower plainRendering quietTable.rows
        unevenWarmups (.ofSpecification unevenWarmups "Buy above 10, sell below SMA 3.") =
        .ok preview ∧ SharedStart unevenWarmups preview := by
  obtain ⟨preview, hpreview, -⟩ : ∃ preview,
      createSpecificationPreview wholePower plainRendering quietTable.rows unevenWarmups
        (.ofSpecification unevenWarmups "Buy above 10, sell below SMA 3.") = .ok preview ∧
      True := exists_ok_of_any (by decide +kernel)
  refine ⟨preview, hpreview,
    (createSpecificationPreview_sharedStart (by decide +kernel) hpreview).mpr ?_⟩
  have hbars : ∀ i < 2, (earlierRule unevenWarmups).holdsOn
      ((loadMarketBars quietTable.rows unevenWarmups.symbol unevenWarmups.interval).take
        (i + 1)) = false := by decide +kernel
  have hindex : (CompiledStrategy.mk unevenWarmups).firstSignalEligibleIndex
      (loadMarketBars quietTable.rows unevenWarmups.symbol unevenWarmups.interval) = 2 := by
    decide +kernel
  intro i _ hi
  exact hbars i (by omega)

end Services
end TradingPlatform
