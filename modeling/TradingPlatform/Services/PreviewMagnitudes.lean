/-
  TradingPlatform.Services.PreviewMagnitudes

  The numbers of a preview over stored prices.

  A `numeric(18, 8)` price is a positive multiple of `10⁻⁸` below `10¹⁰`, and
  `Decimal`'s integer division returns at most 28 digits.
-/

import TradingPlatform.Backtesting.Magnitudes
import TradingPlatform.Services.PreviewRuns

namespace TradingPlatform
namespace Services

open Python Schemas Backtesting

/-- The limits of stored prices and of share counts. -/
def storedLimits : Limits where
  low := 1 / 10 ^ 8
  high := 10 ^ 10
  shares := 10 ^ 28

theorem storedLimits_sound : storedLimits.Sound where
  low_pos := by norm_num [storedLimits]
  low_le_high := by norm_num [storedLimits]
  shares_nonneg := by norm_num [storedLimits]

/-- The prices of the row are `numeric(18, 8)` values. -/
structure MarketDataRow.Numeric (row : MarketDataRow) : Prop where
  low_le : storedLimits.low ≤ row.lowPrice
  high_le : row.highPrice ≤ storedLimits.high

/-- The numbers of a preview are within the limits. -/
structure StrategyPreview.Within (limits : Limits) (preview : StrategyPreview) : Prop where
  equity : ∀ point ∈ preview.execution.equityCurve,
    |point.equity| ≤ limits.ceiling startingCash
  benchmark : ∀ point ∈ preview.buyAndHoldEquityCurve,
    |point.equity| ≤ startingCash + startingCash / limits.low * limits.high
  closePrice : ∀ bar ∈ preview.bars, |bar.closePrice| ≤ limits.high
  trades : ∀ t ∈ preview.execution.completedTrades, t.Within limits

section Preview

variable {power : Decimal → Decimal → Except PyError Decimal} {rendering : Rendering}
  {specification : StrategySpecification} {parsedStrategy : ParsedStrategyResult}

theorem loadMarketBars_within (table : MarketDataTable)
    (hnumeric : ∀ row ∈ table.rows, MarketDataRow.Numeric row) (symbol interval : String) :
    ∀ bar ∈ loadMarketBars table.rows symbol interval, bar.Within storedLimits := by
  intro bar hbar
  have hconsistent := table.loadMarketBars_consistent symbol interval bar hbar
  obtain ⟨row, hrow, rfl⟩ := List.mem_map.mp hbar
  rw [List.mem_insertionSort] at hrow
  have hstored := hnumeric row (List.mem_of_mem_filter hrow)
  exact ⟨hconsistent, hstored.low_le, hstored.high_le⟩

/-- A preview over stored prices, whose share counts are within the limit, has all its numbers
    within the limits. -/
theorem createSpecificationPreview_within (table : MarketDataTable)
    (hnumeric : ∀ row ∈ table.rows, MarketDataRow.Numeric row)
    (hvalid : validateStrategySemantics specification = .ok ()) {preview : StrategyPreview}
    (hpreview : createSpecificationPreview power rendering table.rows specification
      parsedStrategy = .ok preview)
    (hshares : ∀ t ∈ preview.execution.completedTrades,
      (t.quantity : Decimal) ≤ storedLimits.shares) :
    preview.Within storedLimits := by
  have hspec := validateStrategySemantics_valid hvalid
  have hbars := loadMarketBars_within table hnumeric specification.symbol specification.interval
  have hpositive := fun bar hbar => (hbars bar hbar).consistent.positive
  obtain ⟨hstart, metrics, -, rfl⟩ :=
    createSpecificationPreview_eq_ok hvalid rfl hpositive hpreview
  have horder := table.loadMarketBars_ordered specification.symbol specification.interval
  generalize loadMarketBars table.rows specification.symbol specification.interval = bars at *
  have hne : bars ≠ [] := List.ne_nil_of_length_pos (by omega)
  obtain ⟨-, hequity, -⟩ := finalBook_spec hspec horder hpositive hne
  have hflat : (finalBook specification bars).position = none :=
    (Book.liquidate_flat (List.getLast?_eq_some_getLast hne)).1
  have hfinal : (finalBook specification bars).SharesWithin storedLimits := by
    refine ⟨hshares, fun p hp => ?_⟩
    rw [hflat] at hp
    cases hp
  have hrun := hfinal.of_liquidate
  have hwithin : (finalBook specification bars).Within storedLimits startingCash :=
    (Book.run_within storedLimits_sound startingCash_pos (riskControls_positive hspec) hbars _
      le_rfl hrun).liquidate storedLimits_sound startingCash_pos hbars hrun
  refine ⟨fun point hpoint => ?_, fun point hpoint => ?_, fun bar hbar => ?_, hwithin.trades⟩
  · rw [abs_of_pos (hequity point hpoint)]
    exact hwithin.equity_le point hpoint
  · rcases List.mem_or_eq_of_mem_set hpoint with hcurve | rfl
    · have hbounds := buyAndHoldCurve_within storedLimits_sound startingCash_pos hbars
        (hbars _ (List.getElem_mem hstart)) _ point hcurve
      rw [abs_of_nonneg hbounds.1]
      exact hbounds.2
    · rw [abs_of_pos startingCash_pos]
      refine le_add_of_nonneg_right (mul_nonneg ?_ storedLimits_sound.high_nonneg)
      exact div_nonneg startingCash_pos.le storedLimits_sound.low_pos.le
  · have hclose := (hbars bar hbar).closePrice
    rw [abs_of_pos (storedLimits_sound.low_pos.trans_le hclose.1)]
    exact hclose.2

end Preview

end Services
end TradingPlatform
