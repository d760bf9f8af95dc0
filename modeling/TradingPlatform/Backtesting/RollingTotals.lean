/-
  TradingPlatform.Backtesting.RollingTotals

  The loop of `simple_moving_averages` in a given arithmetic.

  `rolling_total` gains the new close and loses the one that leaves the window;
  as long as no sum or difference is rounded, it is the sum of the last `window`
  closes at every bar (`rollingTotal`), whatever the history before them.
-/

import TradingPlatform.Backtesting.SmaCrossover
import TradingPlatform.Lib.History
import TradingPlatform.Lib.Loop

namespace TradingPlatform
namespace Backtesting

open Python

-- ============================================================================
-- The loop in a given arithmetic
-- ============================================================================

/-- The operations that `simple_moving_averages` computes with. -/
structure Arithmetic where
  add : Decimal → Decimal → Decimal
  subtract : Decimal → Decimal → Decimal
  divide : Decimal → Decimal → Except PyError Decimal

/-- Exact rational arithmetic. -/
def Arithmetic.exact : Arithmetic := ⟨(· + ·), (· - ·), Python.divide⟩

section Loop

variable (arithmetic : Arithmetic) (bars : List MarketBar) (window : Nat)

/-- `rolling_total` after the `if index >= window` of the loop. -/
def dropOldest (index : Nat) (total : Decimal) : Except PyError Decimal :=
  if index ≥ window then do
    let oldest ← getItem bars (index - window)
    return arithmetic.subtract total oldest.closePrice
  else
    return total

/-- One round of the loop, with the operations of `arithmetic`. -/
def simpleMovingAverageStepIn (loop : Decimal × List (Option Decimal))
    (item : MarketBar × Nat) : Except PyError (Decimal × List (Option Decimal)) := do
  let (bar, index) := item
  let total ← dropOldest arithmetic bars window index (arithmetic.add loop.1 bar.closePrice)
  let average ←
    if index + 1 ≥ window then do
      let average ← arithmetic.divide total window
      pure (some average)
    else
      pure none
  return (total, loop.2 ++ [average])

/-- The loop state after the first bars. -/
def simpleMovingAveragesAfter (index : Nat) : Except PyError (Decimal × List (Option Decimal)) :=
  (bars.zipIdx.take index).foldlM (simpleMovingAverageStepIn arithmetic bars window) (0, [])

/-- `simple_moving_averages`, with the operations of `arithmetic`. -/
def simpleMovingAveragesIn (window : Int) : Except PyError (List (Option Decimal)) :=
  if window ≤ 0 then
    .error (.valueError "SMA window must be positive")
  else do
    let loop ← simpleMovingAveragesAfter arithmetic bars window.toNat bars.length
    return loop.2

end Loop

/-- The modelled loop is the one in exact arithmetic. -/
theorem simpleMovingAverageStep_eq_exact (bars : List MarketBar) (window : Nat) :
    simpleMovingAverageStep bars window = simpleMovingAverageStepIn .exact bars window := by
  funext loop ⟨bar, index⟩
  simp only [simpleMovingAverageStep, simpleMovingAverageStepIn, dropOldest]
  by_cases hfull : index ≥ window
  · rw [if_pos hfull, if_pos hfull]
    cases getItem bars (index - window) <;> rfl
  · rw [if_neg hfull, if_neg hfull]
    rfl

theorem simpleMovingAverages_eq_exact (bars : List MarketBar) (window : Int) :
    simpleMovingAverages bars window = simpleMovingAveragesIn .exact bars window := by
  have hwhole : bars.zipIdx.take bars.length = bars.zipIdx :=
    List.take_of_length_le (by rw [List.length_zipIdx])
  rw [simpleMovingAverages, simpleMovingAveragesIn, simpleMovingAverageStep_eq_exact,
    simpleMovingAveragesAfter, hwhole]

-- ============================================================================
-- The rolling total
-- ============================================================================

/-- The rolling total before index `k`. -/
def rollingTotal (window : Nat) (bars : List MarketBar) (k : Nat) : Decimal :=
  History.windowSum window ((bars.take k).map (·.closePrice))

/-- The update of the rolling total: the new close in, the oldest close out. -/
theorem rollingTotal_succ {window : Nat} (hw : 0 < window) {bars : List MarketBar} {k : Nat}
    (hk : k < bars.length) :
    rollingTotal window bars (k + 1) =
      if hfull : window ≤ k then
        rollingTotal window bars k + bars[k].closePrice - bars[k - window].closePrice
      else rollingTotal window bars k + bars[k].closePrice := by
  have hlength : ((bars.take k).map (·.closePrice)).length = k := by
    simp [Nat.min_eq_left hk.le]
  rw [rollingTotal, rollingTotal, List.take_succ_eq_append_getElem hk, List.map_append,
    List.map_singleton]
  split
  · rename_i hfull
    rw [History.windowSum_concat_of_le hw (by omega)]
    simp [Nat.min_eq_left hk.le]
  · rw [History.windowSum_concat_of_lt (by omega)]

-- ============================================================================
-- A loop that does not round
-- ============================================================================

section Unrounded

variable {bars : List MarketBar} {window : Nat}

theorem rollingTotal_eq_sum (window : Nat) {bars : List MarketBar} {k : Nat}
    (hk : k ≤ bars.length) :
    rollingTotal window bars k = (((bars.take k).drop (k - window)).map (·.closePrice)).sum := by
  rw [rollingTotal, History.windowSum, List.length_map, List.length_take, Nat.min_eq_left hk,
    List.map_drop]

/-- The sums and differences that the loop computes come out exact. -/
structure Arithmetic.Unrounded (arithmetic : Arithmetic) (bars : List MarketBar)
    (window : Nat) : Prop where
  add : ∀ k (hk : k < bars.length),
    arithmetic.add (rollingTotal window bars k) bars[k].closePrice =
      rollingTotal window bars k + bars[k].closePrice
  subtract : ∀ k (hk : k < bars.length), window ≤ k →
    arithmetic.subtract (rollingTotal window bars k + bars[k].closePrice)
        bars[k - window].closePrice =
      rollingTotal window bars k + bars[k].closePrice - bars[k - window].closePrice

theorem Arithmetic.exact_unrounded : Arithmetic.exact.Unrounded bars window :=
  ⟨fun _ _ => rfl, fun _ _ _ => rfl⟩

variable {arithmetic : Arithmetic}

theorem dropOldest_spec (h : arithmetic.Unrounded bars window) (hwindow : 0 < window) {k : Nat}
    (hk : k < bars.length) :
    dropOldest arithmetic bars window k (rollingTotal window bars k + bars[k].closePrice) =
      .ok (rollingTotal window bars (k + 1)) := by
  rw [dropOldest, rollingTotal_succ hwindow hk]
  by_cases hfull : window ≤ k
  · rw [if_pos hfull, dif_pos hfull, getItem_of_lt (by omega), ok_bind, h.subtract k hk hfull]
    rfl
  · rw [if_neg hfull, dif_neg hfull]
    rfl

/-- The average of the last closes, with a given quotient by the window. -/
def averageOn (quotient : Decimal → Decimal) (window : Nat) (history : List MarketBar) :
    Option Decimal :=
  if window ≤ history.length then
    some (quotient (History.windowSum window (history.map (·.closePrice))))
  else
    none

theorem averageOn_take (quotient : Decimal → Decimal) (window : Nat) {k : Nat}
    (hk : k ≤ bars.length) :
    averageOn quotient window (bars.take k) =
      if window ≤ k then some (quotient (rollingTotal window bars k)) else none := by
  rw [averageOn, List.length_take, Nat.min_eq_left hk, rollingTotal]

variable {quotient : Decimal → Decimal}

theorem simpleMovingAverageStepIn_spec (h : arithmetic.Unrounded bars window)
    (hwindow : 0 < window)
    (hdivide : ∀ total, arithmetic.divide total window = .ok (quotient total))
    {k : Nat} (hk : k < bars.length) :
    simpleMovingAverageStepIn arithmetic bars window
        (rollingTotal window bars k, History.values (averageOn quotient window) (bars.take k))
        (bars[k], k) =
      .ok (rollingTotal window bars (k + 1),
        History.values (averageOn quotient window) (bars.take (k + 1))) := by
  rw [History.values_take_succ _ hk, averageOn_take _ _ hk]
  simp only [simpleMovingAverageStepIn, h.add k hk, dropOldest_spec h hwindow hk, ok_bind]
  by_cases hfull : window ≤ k + 1
  · rw [if_pos hfull, if_pos hfull, hdivide]
    rfl
  · rw [if_neg hfull, if_neg hfull]
    rfl

theorem simpleMovingAveragesAfter_spec (h : arithmetic.Unrounded bars window)
    (hwindow : 0 < window)
    (hdivide : ∀ total, arithmetic.divide total window = .ok (quotient total))
    {k : Nat} (hk : k ≤ bars.length) :
    simpleMovingAveragesAfter arithmetic bars window k =
      .ok (rollingTotal window bars k,
        History.values (averageOn quotient window) (bars.take k)) := by
  have hlength : (bars.zipIdx.take k).length = k := by
    rw [List.length_take, List.length_zipIdx, Nat.min_eq_left hk]
  have hloop := Loop.foldlM_follows (f := simpleMovingAverageStepIn arithmetic bars window)
    (bars.zipIdx.take k)
    (fun j => (rollingTotal window bars j,
      History.values (averageOn quotient window) (bars.take j)))
    (fun j hj => by
      have hbar : j < bars.length := by omega
      simpa using simpleMovingAverageStepIn_spec h hwindow hdivide hbar)
  have hstart : rollingTotal window bars 0 = 0 := by simp [rollingTotal]
  rw [hstart, List.take_zero, History.values_nil, hlength] at hloop
  exact hloop

theorem simpleMovingAveragesIn_spec (h : arithmetic.Unrounded bars window)
    (hwindow : 0 < window)
    (hdivide : ∀ total, arithmetic.divide total window = .ok (quotient total)) :
    simpleMovingAveragesIn arithmetic bars window =
      .ok (History.values (averageOn quotient window) bars) := by
  rw [simpleMovingAveragesIn, if_neg (by omega), Int.toNat_natCast,
    simpleMovingAveragesAfter_spec h hwindow hdivide le_rfl, List.take_length]
  rfl

end Unrounded

end Backtesting
end TradingPlatform
