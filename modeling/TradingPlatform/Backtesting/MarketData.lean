/-
  TradingPlatform.Backtesting.MarketData

  `load_market_bars` of `app/backtesting/market_data.py`, over the rows of the
  `market_data` table.  The primary key and the price checks of the table make
  every loaded bar list a valid one.
-/

import Mathlib.Data.List.Sort
import TradingPlatform.Backtesting.Models

namespace TradingPlatform
namespace Backtesting

/-- A row of `market_data`, as far as the loader reads it. -/
structure MarketDataRow where
  symbol : String
  interval : String
  timestamp : Timestamp
  openPrice : Decimal
  highPrice : Decimal
  lowPrice : Decimal
  closePrice : Decimal
  volume : Int
deriving DecidableEq, Repr

/-- The bar of a row. -/
def MarketDataRow.toMarketBar (row : MarketDataRow) : MarketBar where
  timestamp := row.timestamp
  openPrice := row.openPrice
  highPrice := row.highPrice
  lowPrice := row.lowPrice
  closePrice := row.closePrice
  volume := row.volume

/-- The row that stores a daily SPY bar. -/
def MarketDataRow.ofSpyBar (bar : MarketBar) : MarketDataRow where
  symbol := "SPY"
  interval := "1d"
  timestamp := bar.timestamp
  openPrice := bar.openPrice
  highPrice := bar.highPrice
  lowPrice := bar.lowPrice
  closePrice := bar.closePrice
  volume := bar.volume

/-- The bars of a symbol and interval, `ORDER BY timestamp ASC`. -/
def loadMarketBars (rows : List MarketDataRow) (symbol interval : String) :
    List MarketBar :=
  ((rows.filter fun row => row.symbol = symbol ∧ row.interval = interval).insertionSort
    fun x y => x.timestamp ≤ y.timestamp).map (·.toMarketBar)

-- ============================================================================
-- What the table guarantees
-- ============================================================================

/-- The `market_data` table: its primary key and its price checks. -/
structure MarketDataTable where
  rows : List MarketDataRow
  primaryKey : rows.Pairwise fun x y =>
    (x.symbol, x.interval, x.timestamp) ≠ (y.symbol, y.interval, y.timestamp)
  prices : ∀ row ∈ rows, row.toMarketBar.Consistent

theorem MarketDataTable.loadMarketBars_consistent (table : MarketDataTable)
    (symbol interval : String) :
    ∀ bar ∈ loadMarketBars table.rows symbol interval, bar.Consistent := by
  intro bar hbar
  obtain ⟨row, hrow, rfl⟩ := List.mem_map.mp hbar
  rw [List.mem_insertionSort] at hrow
  exact table.prices row (List.mem_of_mem_filter hrow)

/-- Rows of one symbol and interval have distinct timestamps, so sorting them gives
    strictly increasing ones. -/
theorem MarketDataTable.loadMarketBars_ordered (table : MarketDataTable)
    (symbol interval : String) :
    (loadMarketBars table.rows symbol interval).Pairwise
      fun x y => x.timestamp < y.timestamp := by
  set selected := table.rows.filter fun row => row.symbol = symbol ∧ row.interval = interval
    with hselected
  have hdistinct : selected.Pairwise fun x y => x.timestamp ≠ y.timestamp := by
    refine (table.primaryKey.filter _).imp_of_mem fun hx hy hne heq => hne ?_
    obtain ⟨hxs, hxi⟩ := of_decide_eq_true (List.mem_filter.mp hx).2
    obtain ⟨hys, hyi⟩ := of_decide_eq_true (List.mem_filter.mp hy).2
    rw [hxs, hxi, hys, hyi, heq]
  have hsortedDistinct : (selected.insertionSort fun x y => x.timestamp ≤ y.timestamp).Pairwise
      fun x y => x.timestamp ≠ y.timestamp :=
    (List.perm_insertionSort _ selected).symm.pairwise hdistinct fun h => h.symm
  have hsorted : (selected.insertionSort fun x y => x.timestamp ≤ y.timestamp).Pairwise
      fun x y => x.timestamp ≤ y.timestamp := by
    have : Std.Total fun x y : MarketDataRow => x.timestamp ≤ y.timestamp :=
      ⟨fun x y => le_total x.timestamp y.timestamp⟩
    have : IsTrans MarketDataRow fun x y => x.timestamp ≤ y.timestamp :=
      ⟨fun _ _ _ => le_trans⟩
    exact List.pairwise_insertionSort _ selected
  rw [loadMarketBars, List.pairwise_map]
  exact (hsorted.and hsortedDistinct).imp fun ⟨hle, hne⟩ => lt_of_le_of_ne hle hne

end Backtesting
end TradingPlatform
