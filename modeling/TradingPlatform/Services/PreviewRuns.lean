/-
  TradingPlatform.Services.PreviewRuns

  A validated strategy always runs to a result.  On ordered, consistent bars
  every guard of the pipeline is decided by one comparison, the eligible index
  against the number of bars: below it the preview is `assemblePreview` of the
  metrics, otherwise the market data is unavailable.
-/

import TradingPlatform.Backtesting.NoLookAhead
import TradingPlatform.Services.StrategyPreview

namespace TradingPlatform
namespace Services

open Python Schemas Backtesting

/-- The controls of a specification. -/
def riskControls (specification : StrategySpecification) : RiskControls :=
  ⟨specification.stopLossPercent, specification.takeProfitPercent⟩

theorem riskControls_positive {specification : StrategySpecification}
    (h : specification.Valid) : (riskControls specification).Positive :=
  ⟨fun v hv => (h.stopLoss v hv).1, fun v hv => (h.takeProfit v hv).1⟩

theorem startingCash_pos : 0 < startingCash := by norm_num [startingCash]

/-- The book of a preview after the last bar, liquidated. -/
def finalBook (specification : StrategySpecification) (bars : List MarketBar) : Book :=
  (strategyRun (riskControls specification) specification bars startingCash
    bars.length).liquidate bars

/-- The first eligible bar of a strategy. -/
def eligibleIndex (specification : StrategySpecification) (bars : List MarketBar) : Nat :=
  ((CompiledStrategy.mk specification).firstSignalEligibleIndex bars).toNat

theorem firstSignalEligibleIndex_eq (specification : StrategySpecification)
    (bars : List MarketBar) :
    (CompiledStrategy.mk specification).firstSignalEligibleIndex bars =
      eligibleIndex specification bars :=
  (Int.toNat_of_nonneg (le_max_right _ _)).symm

/-- The preview of a strategy on enough bars. -/
def assemblePreview (rendering : Rendering) (specification : StrategySpecification)
    (parsedStrategy : ParsedStrategyResult) (bars : List MarketBar)
    (hstart : eligibleIndex specification bars < bars.length) (metrics : BacktestMetrics) :
    StrategyPreview where
  parsedStrategy := parsedStrategy
  interpretation := interpretStrategy rendering parsedStrategy
  execution := (finalBook specification bars).result
  metrics := metrics
  barCount := bars.length
  startTimestamp := bars[0].timestamp
  endTimestamp := (bars.getLast (List.ne_nil_of_length_pos (by omega))).timestamp
  bars := bars
  comparisonStartIndex := eligibleIndex specification bars
  buyAndHoldEquityCurve :=
    (buyAndHoldCurve bars startingCash bars[eligibleIndex specification bars]
      (eligibleIndex specification bars)).set 0
      ⟨bars[eligibleIndex specification bars].timestamp, startingCash⟩

section Preview

variable {power : Decimal → Decimal → Except PyError Decimal} {rendering : Rendering}
  {rows : List MarketDataRow} {specification : StrategySpecification}
  {parsedStrategy : ParsedStrategyResult} {bars : List MarketBar}

theorem createSpecificationPreview_unavailable
    (hvalid : validateStrategySemantics specification = .ok ())
    (hload : loadMarketBars rows specification.symbol specification.interval = bars)
    (hshort : bars.length ≤ eligibleIndex specification bars) :
    createSpecificationPreview power rendering rows specification parsedStrategy =
      .error marketDataUnavailable := by
  rw [createSpecificationPreview, compileStrategy_spec hvalid, ok_bind]
  simp only [hload, firstSignalEligibleIndex_eq]
  rw [if_pos (Or.inr (by exact_mod_cast hshort))]
  rfl

/-- With enough bars, only the metrics are left to compute. -/
theorem createSpecificationPreview_eq
    (hvalid : validateStrategySemantics specification = .ok ())
    (hload : loadMarketBars rows specification.symbol specification.interval = bars)
    (hbars : ∀ bar ∈ bars, bar.Positive)
    (hstart : eligibleIndex specification bars < bars.length) :
    createSpecificationPreview power rendering rows specification parsedStrategy =
      (calculateMetrics power bars (finalBook specification bars).result.equityCurve
        (finalBook specification bars).result.completedTrades startingCash
        (finalBook specification bars).result.finalPortfolioValue
        (eligibleIndex specification bars)).map
        (assemblePreview rendering specification parsedStrategy bars hstart) := by
  have hne : bars ≠ [] := List.ne_nil_of_length_pos (by omega)
  have hspec := validateStrategySemantics_valid hvalid
  have hexecute : executeLongOnlySignals bars (History.values specification.signalsOn bars).flatten
      startingCash specification.stopLossPercent specification.takeProfitPercent =
        .ok (finalBook specification bars).result :=
    executeLongOnlySignals_eq startingCash_pos (riskControls_positive hspec) hne hbars
  have hcurve := calculateBuyAndHoldEquityCurve_spec startingCash_pos.le hstart
    (hbars _ (List.getElem_mem hstart)).openPrice_pos
  have hlength : 0 < (buyAndHoldCurve bars startingCash bars[eligibleIndex specification bars]
      (eligibleIndex specification bars)).length := by
    rw [buyAndHoldCurve, List.length_map, List.length_drop]
    omega
  rw [createSpecificationPreview, compileStrategy_spec hvalid, ok_bind]
  simp only [hload, firstSignalEligibleIndex_eq]
  rw [if_neg (by simp [hne, hstart]), generateSignals_spec hspec]
  simp only [ok_bind, hexecute, hcurve, Int.toNat_natCast, getItem_of_lt hstart,
    setItem_of_lt hlength, getItem_of_lt (show 0 < bars.length by omega),
    getLast_of_ne_nil hne]
  cases calculateMetrics power bars (finalBook specification bars).result.equityCurve
    (finalBook specification bars).result.completedTrades startingCash
    (finalBook specification bars).result.finalPortfolioValue
    (eligibleIndex specification bars) with
  | error e => rfl
  | ok metrics => rfl

/-- A run of a preview has one positive equity point per bar and a positive final value. -/
theorem finalBook_spec (hspec : specification.Valid)
    (horder : bars.Pairwise fun x y => x.timestamp < y.timestamp)
    (hbars : ∀ bar ∈ bars, bar.Positive) (hne : bars ≠ []) :
    (finalBook specification bars).result.equityCurve.length = bars.length ∧
      (∀ point ∈ (finalBook specification bars).result.equityCurve, 0 < point.equity) ∧
      0 < (finalBook specification bars).result.finalPortfolioValue := by
  have hc := riskControls_positive hspec
  have haccounted : (finalBook specification bars).Accounted startingCash :=
    Book.liquidate_accounted hbars
      (Book.run_accounted startingCash_pos hc hbars bars.length le_rfl)
  have hcharted : (finalBook specification bars).Charted bars startingCash bars.length
      bars.length :=
    Book.liquidate_charted (timestamps_nodup horder) hbars
      (Book.run_charted startingCash_pos hc (timestamps_nodup horder) hbars bars.length le_rfl)
  have hflat : (finalBook specification bars).position = none :=
    (Book.liquidate_flat (List.getLast?_eq_some_getLast hne)).1
  refine ⟨?_, haccounted.equity_pos, haccounted.solvent.cash_pos hflat⟩
  have hlength := congrArg List.length hcharted.equity_timestamps
  show (finalBook specification bars).equity.length = bars.length
  simpa using hlength

/-- The two curves of an assembled preview have one length. -/
theorem assemblePreview_curves (hspec : specification.Valid)
    (horder : bars.Pairwise fun x y => x.timestamp < y.timestamp)
    (hbars : ∀ bar ∈ bars, bar.Positive)
    (hstart : eligibleIndex specification bars < bars.length) (metrics : BacktestMetrics) :
    let preview := assemblePreview rendering specification parsedStrategy bars hstart metrics
    (preview.execution.equityCurve.drop preview.comparisonStartIndex.toNat).length =
      preview.buyAndHoldEquityCurve.length := by
  obtain ⟨hlength, -, -⟩ :=
    finalBook_spec hspec horder hbars (List.ne_nil_of_length_pos (by omega))
  simp only [assemblePreview, List.length_drop, hlength, Int.toNat_natCast, List.length_set,
    buyAndHoldCurve, List.length_map]

/-- Every returned preview is an assembled one, of computed metrics. -/
theorem createSpecificationPreview_eq_ok
    (hvalid : validateStrategySemantics specification = .ok ())
    (hload : loadMarketBars rows specification.symbol specification.interval = bars)
    (hbars : ∀ bar ∈ bars, bar.Positive) {preview : StrategyPreview}
    (hpreview : createSpecificationPreview power rendering rows specification parsedStrategy =
      .ok preview) :
    ∃ hstart metrics,
      calculateMetrics power bars (finalBook specification bars).result.equityCurve
        (finalBook specification bars).result.completedTrades startingCash
        (finalBook specification bars).result.finalPortfolioValue
        (eligibleIndex specification bars) = .ok metrics ∧
      preview = assemblePreview rendering specification parsedStrategy bars hstart metrics := by
  by_cases hstart : eligibleIndex specification bars < bars.length
  · rw [createSpecificationPreview_eq hvalid hload hbars hstart] at hpreview
    cases hmetrics : calculateMetrics power bars (finalBook specification bars).result.equityCurve
        (finalBook specification bars).result.completedTrades startingCash
        (finalBook specification bars).result.finalPortfolioValue
        (eligibleIndex specification bars) with
    | error e =>
        rw [hmetrics] at hpreview
        cases hpreview
    | ok metrics =>
        rw [hmetrics] at hpreview
        exact ⟨hstart, metrics, rfl, (Except.ok.inj hpreview).symm⟩
  · rw [createSpecificationPreview_unavailable hvalid hload (not_lt.mp hstart)] at hpreview
    cases hpreview

/-- The two curves of a returned preview have one length. -/
theorem createSpecificationPreview_curves
    (hvalid : validateStrategySemantics specification = .ok ())
    (hload : loadMarketBars rows specification.symbol specification.interval = bars)
    (horder : bars.Pairwise fun x y => x.timestamp < y.timestamp)
    (hbars : ∀ bar ∈ bars, bar.Positive) {preview : StrategyPreview}
    (hpreview : createSpecificationPreview power rendering rows specification parsedStrategy =
      .ok preview) :
    (preview.execution.equityCurve.drop preview.comparisonStartIndex.toNat).length =
      preview.buyAndHoldEquityCurve.length := by
  obtain ⟨hstart, metrics, -, rfl⟩ := createSpecificationPreview_eq_ok hvalid hload hbars hpreview
  exact assemblePreview_curves (validateStrategySemantics_valid hvalid) horder hbars hstart
    metrics

variable (rendering parsedStrategy) in
/-- With enough bars the preview is assembled, and its two curves have one length. -/
theorem createSpecificationPreview_ok (hpower : PowerTotal power)
    (hvalid : validateStrategySemantics specification = .ok ())
    (hload : loadMarketBars rows specification.symbol specification.interval = bars)
    (horder : bars.Pairwise fun x y => x.timestamp < y.timestamp)
    (hbars : ∀ bar ∈ bars, bar.Positive)
    (hstart : eligibleIndex specification bars < bars.length) :
    ∃ preview, createSpecificationPreview power rendering rows specification parsedStrategy =
        .ok preview ∧
      (preview.execution.equityCurve.drop preview.comparisonStartIndex.toNat).length =
        preview.buyAndHoldEquityCurve.length := by
  have hne : bars ≠ [] := List.ne_nil_of_length_pos (by omega)
  obtain ⟨hlength, hequity, hfinal⟩ := finalBook_spec (validateStrategySemantics_valid hvalid)
    horder hbars hne
  obtain ⟨metrics, hmetrics⟩ := calculateMetrics_ok hpower
    (finalBook specification bars).result.completedTrades startingCash_pos hfinal hstart
    (hbars _ (List.getElem_mem hstart)).openPrice_pos
    (List.ne_nil_of_length_pos (by omega)) hequity
  refine ⟨assemblePreview rendering specification parsedStrategy bars hstart metrics, ?_,
    assemblePreview_curves (validateStrategySemantics_valid hvalid) horder hbars hstart metrics⟩
  rw [createSpecificationPreview_eq hvalid hload hbars hstart, hmetrics]
  rfl

variable (rendering) in
theorem serializePreview_ok {preview : StrategyPreview} (parsed : ParsedStrategyResult)
    (hlength : (preview.execution.equityCurve.drop
      preview.comparisonStartIndex.toNat).length = preview.buyAndHoldEquityCurve.length) :
    ∃ document, serializePreview rendering parsed preview = .ok document := by
  rw [serializePreview, zipStrict_of_length_eq hlength]
  exact ⟨_, rfl⟩

end Preview

/-- A validated strategy on ordered, consistent bars raises `MarketDataUnavailableError`
    exactly when there are no bars or the strategy never becomes eligible, and otherwise
    returns a preview that serializes. -/
theorem createSpecificationPreview_total
    {power : Decimal → Decimal → Except PyError Decimal} (hpower : PowerTotal power)
    (rendering : Rendering) {rows : List MarketDataRow} (specification : StrategySpecification)
    (hvalid : validateStrategySemantics specification = .ok ())
    (parsedStrategy : ParsedStrategyResult) (bars : List MarketBar)
    (hload : loadMarketBars rows specification.symbol specification.interval = bars)
    (horder : bars.Pairwise fun x y => x.timestamp < y.timestamp)
    (hbars : ∀ bar ∈ bars, bar.Consistent) :
    ((∃ message, createSpecificationPreview power rendering rows specification
        parsedStrategy = .error (.marketDataUnavailableError message)) ↔
      bars = [] ∨
        (CompiledStrategy.mk specification).firstSignalEligibleIndex bars ≥ bars.length) ∧
    (¬ (bars = [] ∨
        (CompiledStrategy.mk specification).firstSignalEligibleIndex bars ≥ bars.length) →
      ∃ preview document,
        createSpecificationPreview power rendering rows specification parsedStrategy =
          .ok preview ∧
        serializePreview rendering parsedStrategy preview = .ok document) := by
  have hpositive : ∀ bar ∈ bars, bar.Positive := fun bar hbar => (hbars bar hbar).positive
  have hguard : (bars = [] ∨
      (CompiledStrategy.mk specification).firstSignalEligibleIndex bars ≥ bars.length) ↔
        bars.length ≤ eligibleIndex specification bars := by
    rw [firstSignalEligibleIndex_eq, ← List.length_eq_zero_iff]
    omega
  have henough : eligibleIndex specification bars < bars.length →
      ∃ preview document,
        createSpecificationPreview power rendering rows specification parsedStrategy =
          .ok preview ∧
        serializePreview rendering parsedStrategy preview = .ok document := by
    intro hstart
    obtain ⟨preview, hpreview, hlength⟩ := createSpecificationPreview_ok
      rendering parsedStrategy hpower hvalid hload horder
      hpositive hstart
    obtain ⟨document, hdocument⟩ := serializePreview_ok rendering parsedStrategy hlength
    exact ⟨preview, document, hpreview, hdocument⟩
  rw [hguard, not_le]
  refine ⟨⟨fun ⟨message, hmessage⟩ => ?_, fun hshort => ?_⟩, henough⟩
  · by_contra hstart
    obtain ⟨preview, _, hpreview, _⟩ := henough (not_le.mp hstart)
    rw [hpreview] at hmessage
    cases hmessage
  · exact ⟨_, createSpecificationPreview_unavailable hvalid hload hshort⟩

/-- One crossover-free strategy on two bars a year of 365.25 days apart. -/
theorem createSpecificationPreview_total_two_bars :
    ∃ preview document,
      createSpecificationPreview wholePower plainRendering
        ([dailyBar 0 10 11 9 10, { dailyBar 0 10 12 9 11 with timestamp := 31557600000000 }].map
          .ofSpyBar)
        (.ofRules ⟨.price "close", .greaterThan, .constant 10⟩
          ⟨.price "close", .lessThan, .constant 10⟩)
        (.ofSpecification (.ofRules ⟨.price "close", .greaterThan, .constant 10⟩
          ⟨.price "close", .lessThan, .constant 10⟩) "Buy above 10, sell below 10.") =
        .ok preview ∧
      serializePreview plainRendering
        (.ofSpecification (.ofRules ⟨.price "close", .greaterThan, .constant 10⟩
          ⟨.price "close", .lessThan, .constant 10⟩) "Buy above 10, sell below 10.") preview =
        .ok document :=
  (createSpecificationPreview_total wholePower_total plainRendering
    (.ofRules ⟨.price "close", .greaterThan, .constant 10⟩
      ⟨.price "close", .lessThan, .constant 10⟩) (by decide +kernel) _
    [dailyBar 0 10 11 9 10, { dailyBar 0 10 12 9 11 with timestamp := 31557600000000 }]
    (by decide +kernel) (by decide) (by decide +kernel)).2 (by decide +kernel)

end Services
end TradingPlatform
