/-
  TradingPlatform.Backtesting.CrossoverAlternation

  When the signals of `generate_sma_crossover_signals` alternate.

  A signal looks at two adjacent bars, and a tie at the first of them counts as
  not yet having crossed.  So averages that meet and part again without crossing
  raise a signal, and it repeats the one before: in terms of `Lib.Crossing`, the
  signals are the crossings of the side on which the short average lies.
-/

import TradingPlatform.Backtesting.RollingAverage
import TradingPlatform.Lib.Crossing
import TradingPlatform.Scripts.RunSmaBacktest

namespace TradingPlatform
namespace Backtesting

open Python Schemas Crossing Finset

/-- The mean of the closes in the window that ends at an index. -/
def closeMean (bars : List MarketBar) (window index : Nat) : Decimal :=
  (∑ j ∈ Ico (index + 1 - window) (index + 1), closeAt bars j) / window

/-- Where the short average lies at the bar `time` bars after both exist. -/
def averageSide (bars : List MarketBar) (shortWindow longWindow time : Nat) : Ordering :=
  cmp (closeMean bars shortWindow (longWindow - 1 + time))
    (closeMean bars longWindow (longWindow - 1 + time))

/-- The averages meet for one or more bars and part to the side they came from, after they had
    not been on that side at some earlier bar. -/
def RepeatedTouch (bars : List MarketBar) (shortWindow longWindow : Nat) : Prop :=
  ∃ time, longWindow - 1 + time < bars.length ∧
    TouchAt (averageSide bars shortWindow longWindow) time

/-- The side that a signal says was reached. -/
def SignalType.side : SignalType → Ordering
  | .buy => .gt
  | .sell => .lt

theorem SignalType.side_ne_iff {a b : SignalType} : a.side ≠ b.side ↔ a ≠ b := by
  cases a <;> cases b <;> decide

theorem smaOn_take {bars : List MarketBar} {window i : Nat} (hi : i < bars.length)
    (hfull : window ≤ i + 1) :
    smaOn window (bars.take (i + 1)) = some (closeMean bars window i) := by
  rw [smaOn, List.length_take, Nat.min_eq_left hi, if_pos hfull, closeMean,
    ← rollingTotal_eq_sum_Ico hi hfull]
  rfl

/-- The two rules, as the crossing of the side. -/
theorem crossing_cmp (previousShort previousLong short long : Decimal) :
    (crossing (cmp previousShort previousLong) (cmp short long)).toList =
      (if previousShort ≤ previousLong ∧ short > long then [.gt] else []) ++
        (if previousShort ≥ previousLong ∧ short < long then [.lt] else []) := by
  have hlt : ∀ {a b : Decimal}, a < b → cmp a b = .lt := (cmp_eq_lt_iff _ _).mpr
  have heq : ∀ a : Decimal, cmp a a = .eq := cmp_self_eq_eq
  have hgt : ∀ {a b : Decimal}, b < a → cmp a b = .gt := (cmp_eq_gt_iff _ _).mpr
  rcases lt_trichotomy short long with hc | rfl | hc
  · rw [hlt hc, if_neg fun h => lt_asymm hc h.2, List.nil_append]
    rcases lt_trichotomy previousShort previousLong with hp | rfl | hp
    · rw [hlt hp, if_neg fun h => not_le.mpr hp h.1]
      rfl
    · rw [heq, if_pos ⟨le_rfl, hc⟩]
      rfl
    · rw [hgt hp, if_pos ⟨hp.le, hc⟩]
      rfl
  · rw [heq, if_neg fun h => lt_irrefl _ h.2, if_neg fun h => lt_irrefl _ h.2]
    exact congrArg Option.toList (crossing_eq_none.mpr (Or.inl rfl))
  · rw [hgt hc, if_neg (c := previousShort ≥ previousLong ∧ short < long)
      fun h => lt_asymm hc h.2, List.append_nil]
    rcases lt_trichotomy previousShort previousLong with hp | rfl | hp
    · rw [hlt hp, if_pos ⟨hp.le, hc⟩]
      rfl
    · rw [heq, if_pos ⟨le_rfl, hc⟩]
      rfl
    · rw [hgt hp, if_neg fun h => not_le.mpr hp h.1]
      rfl

section Signals

variable {bars : List MarketBar} {shortWindow longWindow : Int}

/-- Before both averages exist at two adjacent bars, nothing is raised. -/
theorem signalsOn_warmUp (hshort : 1 ≤ shortWindow) (hwindows : shortWindow < longWindow)
    {history : List MarketBar} (h : history.length ≤ longWindow.toNat) :
    (Scripts.smaBacktestSpecification shortWindow longWindow).signalsOn history = [] := by
  have hquiet : ∀ operator : Operator, operator.isCross = true →
      (Condition.mk (.indicator .sma "close" shortWindow) operator
        (.indicator .sma "close" longWindow)).holdsOn history = false := by
    intro operator hcross
    refine Bool.eq_false_iff.mpr fun hholds => ?_
    have hlong : 1 ≤ longWindow := by omega
    have hevaluable : (Condition.mk (.indicator .sma "close" shortWindow) operator
        (.indicator .sma "close" longWindow)).Evaluable := ⟨hshort, hlong⟩
    have heligible := Condition.eligible_of_holdsOn hevaluable hholds
    simp only [conditionFirstEligibleIndex, operandFirstEvaluableIndex, hcross, if_true]
      at heligible
    omega
  rw [StrategySpecification.signalsOn, Scripts.smaBacktestSpecification,
    StrategySpecification.ofRules, hquiet .crossesAbove rfl, hquiet .crossesBelow rfl]
  cases history.getLast? <;> rfl

/-- From then on, the crossing between the two bars. -/
theorem signalsOn_warm (hshort : 1 ≤ shortWindow) (hwindows : shortWindow < longWindow)
    {time : Nat} (htime : longWindow.toNat + time < bars.length) :
    ((Scripts.smaBacktestSpecification shortWindow longWindow).signalsOn
        (bars.take (longWindow.toNat + time + 1))).map (·.signalType.side) =
      (crossing (averageSide bars shortWindow.toNat longWindow.toNat time)
        (averageSide bars shortWindow.toNat longWindow.toNat (time + 1))).toList := by
  have htake := List.take_succ_eq_append_getElem htime
  have hprevious : longWindow.toNat - 1 + time + 1 = longWindow.toNat + time := by omega
  have hcurrent : longWindow.toNat - 1 + (time + 1) = longWindow.toNat + time := by omega
  have hdropLast : (bars.take (longWindow.toNat + time + 1)).dropLast =
      bars.take (longWindow.toNat - 1 + time + 1) := by
    rw [htake, List.dropLast_concat, hprevious]
  have hlast : (bars.take (longWindow.toNat + time + 1)).getLast? =
      some bars[longWindow.toNat + time] := by
    rw [htake, List.getLast?_concat]
  rw [averageSide, averageSide, hcurrent, crossing_cmp, StrategySpecification.signalsOn, hlast,
    Scripts.smaBacktestSpecification, StrategySpecification.ofRules]
  simp only [Option.elim_some, Scripts.smaRule_holdsOn, hdropLast]
  rw [smaOn_take htime (by omega), smaOn_take htime (by omega),
    smaOn_take (by omega) (by omega), smaOn_take (by omega) (by omega)]
  simp only [Option.bind_some, Option.map_some, Operator.relates, Option.any_some,
    decide_eq_true_eq, List.map_append]
  congr 1
  · split <;> rfl
  · split <;> rfl

/-- As long as the long average never exists at two bars, nothing is raised. -/
theorem signals_warmUp (hshort : 1 ≤ shortWindow) (hwindows : shortWindow < longWindow)
    (h : bars.length ≤ longWindow.toNat) :
    (History.values (Scripts.smaBacktestSpecification shortWindow longWindow).signalsOn
      bars).flatten = [] := by
  rw [List.flatten_eq_nil_iff, History.values]
  intro signals hsignals
  obtain ⟨i, hi, rfl⟩ := List.mem_map.mp hsignals
  refine signalsOn_warmUp hshort hwindows ?_
  rw [List.length_take]
  omega

/-- The signals raised up to a bar are the crossings up to it. -/
theorem signals_take (hshort : 1 ≤ shortWindow) (hwindows : shortWindow < longWindow)
    {time : Nat} (htime : longWindow.toNat + time ≤ bars.length) :
    ((History.values (Scripts.smaBacktestSpecification shortWindow longWindow).signalsOn
        (bars.take (longWindow.toNat + time))).flatten).map (·.signalType.side) =
      crossings (averageSide bars shortWindow.toNat longWindow.toNat) time := by
  induction time with
  | zero =>
      have hwarm : (bars.take longWindow.toNat).length ≤ longWindow.toNat :=
        List.length_take_le ..
      rw [Nat.add_zero, signals_warmUp hshort hwindows hwarm]
      rfl
  | succ time ih =>
      have hbar : longWindow.toNat + time < bars.length := by omega
      rw [← Nat.add_assoc, History.values_take_succ _ hbar, List.flatten_append,
        List.flatten_singleton, List.map_append, ih (by omega), signalsOn_warm hshort hwindows hbar]
      rfl

end Signals

/-- The signals alternate exactly if the averages make no repeated touch. -/
theorem generateSmaCrossoverSignals_alternate_iff (bars : List MarketBar)
    (shortWindow longWindow : Int) (hshort : 1 ≤ shortWindow)
    (hwindows : shortWindow < longWindow) :
    (∃ signals, generateSmaCrossoverSignals bars shortWindow longWindow = .ok signals ∧
      signals.IsChain fun earlier later => earlier.signalType ≠ later.signalType) ↔
      ¬ RepeatedTouch bars shortWindow.toNat longWindow.toNat := by
  have hspec := Scripts.generateSmaCrossoverSignals_spec hshort hwindows bars
  have hchain : ∀ signals : List Signal,
      (signals.IsChain fun earlier later => earlier.signalType ≠ later.signalType) ↔
        (signals.map (·.signalType.side)).IsChain (· ≠ ·) := by
    intro signals
    rw [List.isChain_map]
    exact List.IsChain.iff fun a b => SignalType.side_ne_iff.symm
  have hrepeated : RepeatedTouch bars shortWindow.toNat longWindow.toNat ↔
      ∃ time, longWindow.toNat + time ≤ bars.length ∧
        TouchAt (averageSide bars shortWindow.toNat longWindow.toNat) time :=
    exists_congr fun time => and_congr_left fun _ => by omega
  rw [hspec, hrepeated]
  rcases Nat.lt_or_ge bars.length longWindow.toNat with hshorter | hlonger
  · refine iff_of_true ⟨_, rfl, ?_⟩ ?_
    · rw [signals_warmUp hshort hwindows hshorter.le]
      exact List.isChain_nil
    · rintro ⟨time, htime, -⟩
      omega
  · have hwhole : bars.take (longWindow.toNat + (bars.length - longWindow.toNat)) = bars :=
      List.take_of_length_le (by omega)
    have hends : longWindow.toNat + (bars.length - longWindow.toNat) ≤ bars.length := by omega
    have hsignals := signals_take hshort hwindows hends
    rw [hwhole] at hsignals
    constructor
    · rintro ⟨signals, heq, halternate⟩ ⟨time, htime, htouch⟩
      obtain rfl := Except.ok.inj heq
      rw [hchain, hsignals, crossings_alternate] at halternate
      exact halternate time (by omega) htouch
    · intro hnone
      refine ⟨_, rfl, ?_⟩
      rw [hchain, hsignals, crossings_alternate]
      exact fun time htime htouch => hnone ⟨time, by omega, htouch⟩

/-- The closes 10, 9, 10, 10, 11 with windows 1 and 2: the close rises above its average of two
    bars, meets it on the unchanged day and parts upwards again, for a second BUY. -/
theorem generateSmaCrossoverSignals_repeatedBuy :
    ∃ signals, generateSmaCrossoverSignals [dailyBar 0 10 10 10 10, dailyBar 1 9 9 9 9,
        dailyBar 2 10 10 10 10, dailyBar 3 10 10 10 10, dailyBar 4 11 11 11 11] 1 2 =
          .ok signals ∧
      ¬ signals.IsChain fun earlier later => earlier.signalType ≠ later.signalType := by
  refine ⟨[⟨2 * 86400000000, .buy⟩, ⟨4 * 86400000000, .buy⟩], by decide +kernel, ?_⟩
  rw [List.isChain_cons_cons]
  exact fun halternate => halternate.1 rfl

/-- The close parts downwards from the unchanged day and rises again: BUY, SELL and BUY, and no
    repeated touch. -/
theorem generateSmaCrossoverSignals_alternate_iff_parted :
    ¬ RepeatedTouch [dailyBar 0 10 10 10 10, dailyBar 1 9 9 9 9, dailyBar 2 10 10 10 10,
      dailyBar 3 10 10 10 10, dailyBar 4 9 9 9 9, dailyBar 5 10 10 10 10] 1 2 :=
  (generateSmaCrossoverSignals_alternate_iff _ 1 2 (by decide) (by decide)).mp
    ⟨[⟨2 * 86400000000, .buy⟩, ⟨4 * 86400000000, .sell⟩, ⟨5 * 86400000000, .buy⟩],
      by decide +kernel, by decide⟩

end Backtesting
end TradingPlatform
