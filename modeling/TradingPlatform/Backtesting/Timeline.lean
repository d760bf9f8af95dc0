/-
  TradingPlatform.Backtesting.Timeline

  Bars as a timeline.  The engine and its results name bars by timestamp; on
  distinct timestamps `barIndex` turns such a name back into the index of the
  bar, and the signals pending at a bar are those stamped with the bar before.
-/

import TradingPlatform.Backtesting.Ledger

namespace TradingPlatform
namespace Backtesting

/-- The timestamps of the bars, in bar order. -/
def timestamps (bars : List MarketBar) : List Timestamp := bars.map (·.timestamp)

/-- The index of the bar with the given timestamp (the length if there is none). -/
def barIndex (bars : List MarketBar) (timestamp : Timestamp) : Nat :=
  (timestamps bars).idxOf timestamp

@[simp] theorem timestamps_length (bars : List MarketBar) :
    (timestamps bars).length = bars.length := List.length_map ..

@[simp] theorem timestamps_getElem? (bars : List MarketBar) (i : Nat) :
    (timestamps bars)[i]? = bars[i]?.map (·.timestamp) := List.getElem?_map ..

theorem barIndex_getElem {bars : List MarketBar} (hdistinct : (timestamps bars).Nodup)
    {i : Nat} (hi : i < bars.length) : barIndex bars bars[i].timestamp = i := by
  have hlt : i < (timestamps bars).length := by simpa using hi
  have heq : (timestamps bars)[i] = bars[i].timestamp := List.getElem_map ..
  rw [barIndex, ← heq]
  exact hdistinct.idxOf_getElem i hlt

theorem timestamp_ne {bars : List MarketBar} (hdistinct : (timestamps bars).Nodup)
    {i j : Nat} (hi : i < bars.length) (hj : j < bars.length) (h : i ≠ j) :
    bars[i].timestamp ≠ bars[j].timestamp := by
  intro heq
  apply h
  rw [← barIndex_getElem hdistinct hi, heq, barIndex_getElem hdistinct hj]

/-- Strictly increasing timestamps are pairwise distinct. -/
theorem timestamps_nodup {bars : List MarketBar}
    (h : bars.Pairwise fun x y => x.timestamp < y.timestamp) : (timestamps bars).Nodup :=
  List.pairwise_map.mpr (h.imp fun hlt => hlt.ne)

/-- A signal pending at bar `index` is stamped with the bar before. -/
theorem mem_pendingSignals {bars : List MarketBar} {signals : List Signal} {index : Nat}
    {s : Signal} (h : s ∈ Book.pendingSignals bars signals index) :
    0 < index ∧ s ∈ signals ∧ (timestamps bars)[index - 1]? = some s.timestamp := by
  unfold Book.pendingSignals at h
  split at h
  · cases h
  · rename_i hne
    cases hprev : bars[index - 1]? with
    | none => simp [hprev] at h
    | some previous =>
        simp only [hprev, Option.map_some, Option.getD_some, signalsByTimestamp,
          List.mem_filter, decide_eq_true_eq] at h
        exact ⟨Nat.pos_of_ne_zero hne, h.1, by simp [hprev, h.2]⟩

end Backtesting
end TradingPlatform
