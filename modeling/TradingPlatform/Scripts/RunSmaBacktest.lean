/-
  TradingPlatform.Scripts.RunSmaBacktest

  The strategy of `app/scripts/run_sma_backtest.py`, and its agreement with the
  hand-written crossover of `sma_crossover.py`.

  The compiled strategy evaluates two conditions over the whole bar list and
  interleaves the two columns; the hand-written one is a single loop with an
  `elif`.  Both raise, at each bar, what the strategy means on the history up to
  it: two crossovers in opposite directions never happen at one bar.
-/

import TradingPlatform.Backtesting.StrategySemantics
import TradingPlatform.Schemas.Validation

namespace TradingPlatform
namespace Scripts

open Python Schemas Services Backtesting

-- ============================================================================
-- The strategy of the script
-- ============================================================================

/-- One rule of the dictionary given to `StrategySpecification.model_validate`. -/
def smaRuleDocument (operator : String) (shortWindow longWindow : Int) : Json :=
  .object [
    ("left", .object [("type", .str "indicator"), ("name", .str "sma"), ("source", .str "close"),
      ("period", .int shortWindow)]),
    ("operator", .str operator),
    ("right", .object [("type", .str "indicator"), ("name", .str "sma"), ("source", .str "close"),
      ("period", .int longWindow)])]

/-- The dictionary that `run_sma_backtest` validates. -/
def smaBacktestDocument (symbol interval : String) (shortWindow longWindow : Int) : Json :=
  .object [
    ("symbol", .str symbol),
    ("interval", .str interval),
    ("entry", smaRuleDocument "crosses_above" shortWindow longWindow),
    ("exit", smaRuleDocument "crosses_below" shortWindow longWindow),
    ("execution", .object [("direction", .str "long"), ("position_size_percent", .int 100),
      ("signal_execution", .str "next_bar_open")])]

/-- The specification that validation makes of it. -/
def smaBacktestSpecification (shortWindow longWindow : Int) : StrategySpecification :=
  .ofRules
    ⟨.indicator .sma "close" shortWindow, .crossesAbove, .indicator .sma "close" longWindow⟩
    ⟨.indicator .sma "close" shortWindow, .crossesBelow, .indicator .sma "close" longWindow⟩

theorem smaBacktestDocument_modelValidate (reading : Pydantic.Reading)
    (shortWindow longWindow : Int) :
    StrategySpecification.modelValidate reading
        (smaBacktestDocument "SPY" "1d" shortWindow longWindow) =
      .ok (smaBacktestSpecification shortWindow longWindow) := rfl

section Crossover

variable {shortWindow longWindow : Int}

theorem smaBacktestSpecification_accepted (hshort : 1 ≤ shortWindow)
    (hwindows : shortWindow < longWindow) (hlong : longWindow ≤ 1000) :
    validateStrategySemantics (smaBacktestSpecification shortWindow longWindow) = .ok () := by
  have hshortPeriod : 1 ≤ shortWindow ∧ shortWindow ≤ 1000 := by omega
  have hlongPeriod : 1 ≤ longWindow ∧ longWindow ≤ 1000 := by omega
  simp [validateStrategySemantics, smaBacktestSpecification, StrategySpecification.ofRules,
    validateCondition, validateOperand, validateRiskPercent, require, hshortPeriod, hlongPeriod,
    bind, Except.bind]

-- ============================================================================
-- The hand-written crossover
-- ============================================================================

/-- A rule of the script on a history, in terms of the averages now and a bar before. -/
theorem smaRule_holdsOn (operator : Operator) (history : List MarketBar) :
    (Condition.mk (.indicator .sma "close" shortWindow) operator
      (.indicator .sma "close" longWindow)).holdsOn history =
      match smaOn shortWindow.toNat history, smaOn longWindow.toNat history with
      | some short, some long =>
          operator.relates
            ((smaOn shortWindow.toNat history.dropLast).bind fun previousShort =>
              (smaOn longWindow.toNat history.dropLast).map (previousShort, ·)) (short, long)
      | _, _ => false := by
  simp only [Condition.holdsOn, Condition.valuesOn, Operand.valueOn]
  cases smaOn shortWindow.toNat history <;> cases smaOn longWindow.toNat history <;> rfl

/-- Nothing is raised at the first bar: a crossover needs a bar before. -/
theorem signalsOn_first (hshort : 1 ≤ shortWindow) (hlong : 1 ≤ longWindow)
    (bars : List MarketBar) :
    (smaBacktestSpecification shortWindow longWindow).signalsOn (bars.take 1) = [] := by
  have hquiet : ∀ operator : Operator, operator.isCross = true →
      (Condition.mk (.indicator .sma "close" shortWindow) operator
        (.indicator .sma "close" longWindow)).holdsOn (bars.take 1) = false := by
    intro operator hcross
    have hempty : (bars.take 1).dropLast = [] := by cases bars <;> rfl
    have hevaluable : (Condition.mk (.indicator .sma "close" shortWindow) operator
        (.indicator .sma "close" longWindow)).Evaluable := ⟨hshort, hlong⟩
    rw [Condition.holdsOn, hempty, valuesOn_nil hevaluable]
    exact any_relates_none hcross _
  rw [StrategySpecification.signalsOn, smaBacktestSpecification, StrategySpecification.ofRules,
    hquiet .crossesAbove rfl, hquiet .crossesBelow rfl]
  cases (bars.take 1).getLast? <;> rfl

/-- The `elif` loses nothing: the averages do not cross both ways at one bar. -/
theorem crossover_exclusive (bar : MarketBar) (signals : List Signal)
    (previousShort previousLong short long : Decimal) :
    (if previousShort ≤ previousLong ∧ short > long then
        .ok (signals ++ [⟨bar.timestamp, .buy⟩])
      else if previousShort ≥ previousLong ∧ short < long then
        .ok (signals ++ [⟨bar.timestamp, .sell⟩])
      else .ok signals : Except PyError (List Signal)) =
      .ok (signals ++
        ((if Operator.relates .crossesAbove (some (previousShort, previousLong)) (short, long)
            then [⟨bar.timestamp, .buy⟩] else []) ++
          (if Operator.relates .crossesBelow (some (previousShort, previousLong)) (short, long)
            then [⟨bar.timestamp, .sell⟩] else []))) := by
  simp only [Operator.relates, Option.any_some, decide_eq_true_eq]
  by_cases habove : previousShort ≤ previousLong ∧ short > long
  · have hnot : ¬ (previousShort ≥ previousLong ∧ short < long) := fun hbelow =>
      lt_asymm habove.2 hbelow.2
    simp only [if_pos habove, if_neg hnot, List.append_nil]
  · simp only [if_neg habove, List.nil_append]
    split
    · rfl
    · rw [List.append_nil]

/-- One iteration of the hand-written loop raises what the two rules raise at its bar. -/
theorem smaCrossoverSignalStep_spec {bars : List MarketBar} {i : Nat} (hi : i + 1 < bars.length)
    (signals : List Signal) :
    smaCrossoverSignalStep bars (History.values (smaOn shortWindow.toNat) bars)
        (History.values (smaOn longWindow.toNat) bars) signals (i + 1) =
      .ok (signals ++
        (smaBacktestSpecification shortWindow longWindow).signalsOn (bars.take (i + 1 + 1))) := by
  have htake := List.take_succ_eq_append_getElem hi
  have hdropLast : (bars.take (i + 1 + 1)).dropLast = bars.take (i + 1) := by
    rw [htake, List.dropLast_concat]
  have hlast : (bars.take (i + 1 + 1)).getLast? = some bars[i + 1] := by
    rw [htake, List.getLast?_concat]
  rw [smaCrossoverSignalStep, Nat.add_sub_cancel, getItem_values _ (by omega),
    getItem_values _ (by omega), getItem_values _ hi, getItem_values _ hi, getItem_of_lt hi,
    StrategySpecification.signalsOn, hlast, smaBacktestSpecification,
    StrategySpecification.ofRules]
  simp only [ok_bind, Option.elim_some, smaRule_holdsOn, hdropLast]
  generalize smaOn shortWindow.toNat (bars.take (i + 1)) = previousShort
  generalize smaOn longWindow.toNat (bars.take (i + 1)) = previousLong
  generalize smaOn shortWindow.toNat (bars.take (i + 1 + 1)) = currentShort
  generalize smaOn longWindow.toNat (bars.take (i + 1 + 1)) = currentLong
  have hnone : (Except.ok signals : Except PyError (List Signal)) =
      .ok (signals ++ ([] ++ [])) := by rw [List.append_nil, List.append_nil]
  cases currentShort with
  | none => cases previousShort <;> cases previousLong <;> exact hnone
  | some short =>
      cases currentLong with
      | none => cases previousShort <;> cases previousLong <;> exact hnone
      | some long =>
          cases previousShort with
          | none => exact hnone
          | some previousShort =>
              cases previousLong with
              | none => exact hnone
              | some previousLong =>
                  exact crossover_exclusive bars[i + 1] signals previousShort previousLong
                    short long

/-- The hand-written loop raises, at each bar, what the rules raise there. -/
theorem generateSmaCrossoverSignals_spec (hshort : 1 ≤ shortWindow)
    (hwindows : shortWindow < longWindow) (bars : List MarketBar) :
    generateSmaCrossoverSignals bars shortWindow longWindow =
      .ok (History.values (smaBacktestSpecification shortWindow longWindow).signalsOn
        bars).flatten := by
  have hlong : 1 ≤ longWindow := by omega
  have hloop := Loop.foldlM_follows
    (f := smaCrossoverSignalStep bars (History.values (smaOn shortWindow.toNat) bars)
      (History.values (smaOn longWindow.toNat) bars))
    (List.range' 1 (bars.length - 1))
    (fun k => (History.values (smaBacktestSpecification shortWindow longWindow).signalsOn
      (bars.take (k + 1))).flatten)
    (fun k hk => by
      rw [List.length_range'] at hk
      have hbar : k + 1 < bars.length := by omega
      rw [List.getElem_range', Nat.one_mul, Nat.add_comm 1 k, smaCrossoverSignalStep_spec hbar,
        History.values_take_succ _ hbar, List.flatten_append, List.flatten_singleton])
  have hfirst : (History.values (smaBacktestSpecification shortWindow longWindow).signalsOn
      (bars.take 1)).flatten = [] := by
    cases bars with
    | nil => rfl
    | cons bar rest =>
        rw [History.values_take_succ _ (Nat.zero_lt_succ _), List.take_zero,
          History.values_nil, List.nil_append, List.flatten_singleton]
        exact signalsOn_first hshort hlong (bar :: rest)
  have hwhole : bars.take (bars.length - 1 + 1) = bars := List.take_of_length_le (by omega)
  rw [hfirst, List.length_range', hwhole] at hloop
  rw [generateSmaCrossoverSignals, if_neg (by omega), if_neg (by omega),
    simpleMovingAverages_spec hshort, simpleMovingAverages_spec hlong]
  exact hloop

end Crossover

/-- The compiled strategy of the script and the hand-written crossover raise the same
    signals, in the same order. -/
theorem generateSmaCrossoverSignals_eq_compiled (reading : Pydantic.Reading)
    (bars : List MarketBar) (shortWindow longWindow : Int) (hshort : 1 ≤ shortWindow)
    (hwindows : shortWindow < longWindow) (hlong : longWindow ≤ 1000) :
    ∃ specification compiled signals,
      StrategySpecification.modelValidate reading
        (smaBacktestDocument "SPY" "1d" shortWindow longWindow) = .ok specification ∧
      compileStrategy specification = .ok compiled ∧
      compiled.generateSignals bars = .ok signals ∧
      generateSmaCrossoverSignals bars shortWindow longWindow = .ok signals := by
  have haccepted := smaBacktestSpecification_accepted hshort hwindows hlong
  exact ⟨_, _, _, smaBacktestDocument_modelValidate reading shortWindow longWindow,
    compileStrategy_spec haccepted,
    generateSignals_spec (validateStrategySemantics_valid haccepted) bars,
    generateSmaCrossoverSignals_spec hshort hwindows bars⟩

/-- Windows of one and two bars: the short average crosses up at the third bar and down at
    the fourth. -/
theorem generateSmaCrossoverSignals_eq_compiled_two_signals :
    ∃ specification compiled signals,
      StrategySpecification.modelValidate ⟨fun _ => none, fun _ => none, fun _ => none,
        fun _ => none, fun _ => none⟩ (smaBacktestDocument "SPY" "1d" 1 2) = .ok specification ∧
      compileStrategy specification = .ok compiled ∧
      compiled.generateSignals [dailyBar 0 10 11 9 10, dailyBar 1 10 11 8 9,
        dailyBar 2 10 13 9 12, dailyBar 3 10 13 9 11] = .ok signals ∧
      generateSmaCrossoverSignals [dailyBar 0 10 11 9 10, dailyBar 1 10 11 8 9,
        dailyBar 2 10 13 9 12, dailyBar 3 10 13 9 11] 1 2 = .ok signals :=
  generateSmaCrossoverSignals_eq_compiled _ _ 1 2 (by decide) (by decide) (by decide)

end Scripts
end TradingPlatform
