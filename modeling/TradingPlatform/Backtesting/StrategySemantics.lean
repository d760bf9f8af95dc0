/-
  TradingPlatform.Backtesting.StrategySemantics

  What a strategy means, independently of how it is evaluated: an operand, a
  condition and the signals of a specification are functions of a *history*,
  the bars up to and including the current one.

  The specs below say that the evaluator computes exactly this over a whole bar
  list: the value at index `i` is the meaning on `bars.take (i + 1)`.  A meaning
  that is a function of the history alone cannot look ahead.
-/

import TradingPlatform.Backtesting.RollingTotals
import TradingPlatform.Backtesting.StrategyCompiler
import TradingPlatform.Backtesting.Timeline
import TradingPlatform.Lib.History

namespace TradingPlatform

open Backtesting

namespace Schemas

-- ============================================================================
-- Meaning on a history
-- ============================================================================

/-- The average of the last `window` closes. -/
def smaOn (window : Nat) (history : List MarketBar) : Option Decimal :=
  if window ≤ history.length then
    some (History.windowSum window (history.map (·.closePrice)) / window)
  else
    none

/-- The average of the first `window` closes. -/
def emaSeed (window : Nat) (history : List MarketBar) : Decimal :=
  ((history.take window).map (·.closePrice)).sum / window

/-- One update of an exponential average by a new bar. -/
def emaUpdate (window : Nat) (average : Decimal) (bar : MarketBar) : Decimal :=
  (bar.closePrice - average) * (2 / (window + 1)) + average

/-- The exponential average: the seed, updated by each later bar. -/
def emaOn (window : Nat) (history : List MarketBar) : Option Decimal :=
  if window ≤ history.length then
    some ((history.drop window).foldl (emaUpdate window) (emaSeed window history))
  else
    none

/-- The value of an operand at the last bar of a history. -/
def Operand.valueOn : Operand → List MarketBar → Option Decimal
  | .price _, history => history.getLast?.map (·.closePrice)
  | .constant value, history => history.getLast?.map fun _ => value
  | .indicator .sma _ period, history => smaOn period.toNat history
  | .indicator .ema _ period, history => emaOn period.toNat history

/-- How an operator relates the current values, given the previous ones. -/
def Operator.relates : Operator → Option (Decimal × Decimal) → Decimal × Decimal → Bool
  | .greaterThan, _, (left, right) => left > right
  | .lessThan, _, (left, right) => left < right
  | .greaterThanOrEqual, _, (left, right) => left ≥ right
  | .lessThanOrEqual, _, (left, right) => left ≤ right
  | .crossesAbove, previous, (left, right) =>
      previous.any fun (previousLeft, previousRight) =>
        previousLeft ≤ previousRight ∧ left > right
  | .crossesBelow, previous, (left, right) =>
      previous.any fun (previousLeft, previousRight) =>
        previousLeft ≥ previousRight ∧ left < right

/-- Both sides of a condition, once both have a value. -/
def Condition.valuesOn (condition : Condition) (history : List MarketBar) :
    Option (Decimal × Decimal) :=
  (condition.left.valueOn history).bind fun left =>
    (condition.right.valueOn history).map (left, ·)

/-- The condition is met at the last bar of the history. -/
def Condition.holdsOn (condition : Condition) (history : List MarketBar) : Bool :=
  (condition.valuesOn history).any
    (condition.operator.relates (condition.valuesOn history.dropLast))

/-- The signals raised at the last bar of the history. -/
def StrategySpecification.signalsOn (specification : StrategySpecification)
    (history : List MarketBar) : List Signal :=
  history.getLast?.elim [] fun bar =>
    (if specification.entry.holdsOn history then [⟨bar.timestamp, .buy⟩] else []) ++
    (if specification.exit.holdsOn history then [⟨bar.timestamp, .sell⟩] else [])

-- ============================================================================
-- Warm-up
-- ============================================================================

/-- An operand that evaluation accepts: no average over an empty window. -/
def Operand.Evaluable : Operand → Prop
  | .indicator _ _ period => 1 ≤ period
  | _ => True

/-- Both sides of the condition can be evaluated. -/
structure Condition.Evaluable (condition : Condition) : Prop where
  left : condition.left.Evaluable
  right : condition.right.Evaluable

theorem Operand.Valid.evaluable {operand : Operand} (h : operand.Valid) : operand.Evaluable := by
  cases operand with
  | price source => trivial
  | constant value => trivial
  | indicator name source period => exact h.1

theorem Condition.Valid.evaluable {condition : Condition} (h : condition.Valid) :
    condition.Evaluable :=
  ⟨h.left.evaluable, h.right.evaluable⟩

theorem operandFirstEvaluableIndex_nonneg {operand : Operand} (h : operand.Evaluable) :
    0 ≤ operandFirstEvaluableIndex operand := by
  cases operand with
  | price source => exact le_rfl
  | constant value => exact le_rfl
  | indicator name source period => exact sub_nonneg.mpr h

/-- An operand has a value from its warm-up bar on. -/
theorem Operand.valueOn_isSome {operand : Operand} (h : operand.Evaluable)
    {history : List MarketBar} :
    (operand.valueOn history).isSome ↔
      operandFirstEvaluableIndex operand < history.length := by
  have hlast : history.getLast?.isSome ↔ (0 : Int) < history.length := by
    cases history <;> simp
  cases operand with
  | price source => simpa [valueOn, operandFirstEvaluableIndex] using hlast
  | constant value => simpa [valueOn, operandFirstEvaluableIndex] using hlast
  | indicator name source period =>
      have hperiod : (1 : Int) ≤ period := h
      cases name with
      | sma =>
          simp only [valueOn, smaOn, operandFirstEvaluableIndex, Option.isSome_ite]
          omega
      | ema =>
          simp only [valueOn, emaOn, operandFirstEvaluableIndex, Option.isSome_ite]
          omega

theorem Condition.valuesOn_isSome {condition : Condition} (h : condition.Evaluable)
    {history : List MarketBar} :
    (condition.valuesOn history).isSome ↔
      max (operandFirstEvaluableIndex condition.left)
        (operandFirstEvaluableIndex condition.right) < history.length := by
  rw [max_lt_iff, ← Operand.valueOn_isSome h.left, ← Operand.valueOn_isSome h.right,
    Condition.valuesOn]
  cases condition.left.valueOn history <;> cases condition.right.valueOn history <;> simp

/-- A crossover needs previous values. -/
theorem Operator.previous_isSome_of_relates {operator : Operator}
    (hcross : operator.isCross = true) {previous : Option (Decimal × Decimal)}
    {current : Decimal × Decimal} (h : operator.relates previous current = true) :
    previous.isSome := by
  cases previous with
  | some values => rfl
  | none => cases operator <;> simp [relates, isCross] at hcross h

/-- A condition is never met before its warm-up is over. -/
theorem Condition.eligible_of_holdsOn {condition : Condition} (h : condition.Evaluable)
    {history : List MarketBar} (hholds : condition.holdsOn history = true) :
    conditionFirstEligibleIndex condition < history.length := by
  obtain ⟨values, hvalues, hrelates⟩ := (Option.any_eq_true ..).mp hholds
  have hcurrent := (Condition.valuesOn_isSome h).mp (Option.isSome_of_eq_some hvalues)
  unfold conditionFirstEligibleIndex
  split
  · rename_i hcross
    have hprevious := (Condition.valuesOn_isSome h).mp
      (Operator.previous_isSome_of_relates hcross hrelates)
    have hnonneg := operandFirstEvaluableIndex_nonneg h.left
    rw [List.length_dropLast] at hprevious
    show max _ _ + 1 < _
    omega
  · exact hcurrent

end Schemas

namespace Backtesting

open Python Schemas

-- ============================================================================
-- The evaluator computes the meaning
-- ============================================================================

theorem getItem_values {β : Type} (f : List MarketBar → β) {bars : List MarketBar} {i : Nat}
    (hi : i < bars.length) :
    getItem (History.values f bars) i = .ok (f (bars.take (i + 1))) :=
  getItem_of_getElem? (History.values_getElem? f hi)

theorem simpleMovingAverages_spec {window : Int} (hw : 1 ≤ window) (bars : List MarketBar) :
    simpleMovingAverages bars window =
      .ok (History.values (smaOn window.toNat) bars) := by
  obtain ⟨w, rfl⟩ := Int.eq_ofNat_of_zero_le (by omega : 0 ≤ window)
  have hne : (w : Decimal) ≠ 0 := by exact_mod_cast (by omega : w ≠ 0)
  rw [simpleMovingAverages_eq_exact]
  exact simpleMovingAveragesIn_spec Arithmetic.exact_unrounded (by omega)
    fun total => divide_of_ne_zero hne

/-- Filling in the value at index `k`. -/
theorem values_set {β : Type} (f : List MarketBar → Option β) {bars : List MarketBar}
    {k : Nat} (hk : k < bars.length) :
    (History.values f (bars.take k) ++ List.replicate (bars.length - k) none).set k
        (f (bars.take (k + 1))) =
      History.values f (bars.take (k + 1)) ++ List.replicate (bars.length - (k + 1)) none := by
  have hlength : (History.values f (bars.take k)).length = k := by
    rw [History.values_length, List.length_take]
    omega
  have hrest : bars.length - k = bars.length - (k + 1) + 1 := by omega
  rw [List.set_append_right _ _ (by omega), hlength, Nat.sub_self, hrest,
    List.replicate_succ, List.set_cons_zero, History.values_take_succ f hk, List.append_assoc]
  rfl

/-- The average that the exponential loop carries before index `k`. -/
def emaBefore (window : Nat) (bars : List MarketBar) (k : Nat) : Decimal :=
  ((bars.take k).drop window).foldl (emaUpdate window) (emaSeed window (bars.take k))

theorem emaOn_take {window k : Nat} (hk : window ≤ k) {bars : List MarketBar}
    (hlt : k ≤ bars.length) :
    emaOn window (bars.take k) = some (emaBefore window bars k) := by
  rw [emaOn, if_pos (by rw [List.length_take]; omega), emaBefore]

theorem emaBefore_succ {window k : Nat} (hk : window ≤ k) {bars : List MarketBar}
    (hlt : k < bars.length) :
    emaBefore window bars (k + 1) = emaUpdate window (emaBefore window bars k) bars[k] := by
  have hseed : emaSeed window (bars.take (k + 1)) = emaSeed window (bars.take k) := by
    rw [emaSeed, emaSeed, List.take_take, List.take_take, Nat.min_eq_left hk,
      Nat.min_eq_left (Nat.le_succ_of_le hk)]
  rw [emaBefore, hseed, List.take_succ_eq_append_getElem hlt,
    List.drop_append_of_le_length (by rw [List.length_take]; omega), List.foldl_append,
    emaBefore]
  rfl

theorem exponentialMovingAverageStep_spec {window k : Nat} (hk : window ≤ k)
    {bars : List MarketBar} (hlt : k < bars.length) :
    exponentialMovingAverageStep bars (2 / (window + 1))
        (emaBefore window bars k, History.values (emaOn window) (bars.take k) ++
          List.replicate (bars.length - k) none) k =
      .ok (emaBefore window bars (k + 1), History.values (emaOn window) (bars.take (k + 1)) ++
          List.replicate (bars.length - (k + 1)) none) := by
  have hvalue : emaOn window (bars.take (k + 1)) = some (emaBefore window bars (k + 1)) :=
    emaOn_take (Nat.le_succ_of_le hk) hlt
  rw [← values_set _ hlt, hvalue, emaBefore_succ hk hlt, exponentialMovingAverageStep,
    getItem_of_lt hlt]
  rfl

/-- Nothing has a value before the window is full. -/
theorem values_emaOn_of_lt {window : Nat} {bars : List MarketBar} (h : bars.length < window) :
    History.values (emaOn window) bars = List.replicate bars.length none := by
  rw [History.values, List.eq_replicate_iff]
  refine ⟨by simp, fun value hvalue => ?_⟩
  obtain ⟨i, -, rfl⟩ := List.mem_map.mp hvalue
  rw [emaOn, if_neg (by rw [List.length_take]; omega)]

/-- The seed is written at index `window - 1`. -/
theorem values_emaOn_seed {w : Nat} {bars : List MarketBar} (hw : w < bars.length) :
    (List.replicate bars.length none).set w (some (emaBefore (w + 1) bars (w + 1))) =
      History.values (emaOn (w + 1)) (bars.take (w + 1)) ++
        List.replicate (bars.length - (w + 1)) none := by
  have hlength : (bars.take w).length = w := by
    rw [List.length_take]
    omega
  have hempty : History.values (emaOn (w + 1)) (bars.take w) = List.replicate w none := by
    rw [values_emaOn_of_lt (by omega), hlength]
  have hsplit : List.replicate bars.length (none : Option Decimal) =
      List.replicate w none ++ List.replicate (bars.length - w) none := by
    rw [List.replicate_append_replicate]
    congr 1
    omega
  rw [← emaOn_take le_rfl hw, hsplit, ← hempty, values_set _ hw]

theorem exponentialMovingAverages_spec {window : Int} (hw : 1 ≤ window)
    (bars : List MarketBar) :
    exponentialMovingAverages bars window =
      .ok (History.values (emaOn window.toNat) bars) := by
  obtain ⟨w, rfl⟩ : ∃ w : Nat, window = (w + 1 : Nat) := ⟨window.toNat - 1, by omega⟩
  rw [exponentialMovingAverages, if_neg (by omega), Int.toNat_natCast]
  by_cases hshort : bars.length < w + 1
  · rw [if_pos hshort, values_emaOn_of_lt hshort]
  · have hne : ((w + 1 : Nat) : Decimal) ≠ 0 := by positivity
    have hne' : ((w + 1 : Nat) : Decimal) + 1 ≠ 0 := by positivity
    have hseed : ((bars.take (w + 1)).map (·.closePrice)).sum / ((w + 1 : Nat) : Decimal) =
        emaBefore (w + 1) bars (w + 1) := by
      simp [emaBefore, emaSeed, List.take_take]
    have hloop := Loop.foldlM_follows
      (f := exponentialMovingAverageStep bars (2 / ((w + 1 : Nat) + 1)))
      (List.range' (w + 1) (bars.length - (w + 1)))
      (fun k => (emaBefore (w + 1) bars (w + 1 + k),
        History.values (emaOn (w + 1)) (bars.take (w + 1 + k)) ++
          List.replicate (bars.length - (w + 1 + k)) none))
      (fun k hk => by
        rw [List.length_range'] at hk
        rw [List.getElem_range', Nat.one_mul]
        exact exponentialMovingAverageStep_spec (by omega) (by omega))
    have hend : w + 1 + (bars.length - (w + 1)) = bars.length := by omega
    rw [List.length_range', hend, List.take_length, Nat.sub_self, List.replicate_zero,
      List.append_nil] at hloop
    rw [if_neg hshort, divide_of_ne_zero hne, divide_of_ne_zero hne', hseed]
    simp only [ok_bind, Nat.add_sub_cancel]
    rw [values_emaOn_seed (by omega), hloop]
    rfl

theorem evaluateOperand_spec {operand : Operand} (h : operand.Evaluable)
    (bars : List MarketBar) :
    evaluateOperand operand bars = .ok (History.values operand.valueOn bars) := by
  cases operand with
  | price source => exact congrArg Except.ok (History.values_getLast? _ bars).symm
  | constant value => exact congrArg Except.ok (History.values_getLast? _ bars).symm
  | indicator name source period =>
      cases name with
      | sma => exact simpleMovingAverages_spec h bars
      | ema => exact exponentialMovingAverages_spec h bars

-- ============================================================================
-- Conditions and signals
-- ============================================================================

/-- A comparison of current values, for the operators that are not crossovers. -/
theorem compare_spec {operator : Operator} (hcross : operator.isCross = false)
    (previous : Option (Decimal × Decimal)) (left right : Decimal) :
    compare left right operator = .ok (operator.relates previous (left, right)) := by
  cases operator <;> first | rfl | cases hcross

/-- The two crossover tests of the evaluator. -/
theorem cross_spec {operator : Operator} (hcross : operator.isCross = true)
    (previousLeft previousRight left right : Decimal) :
    (if operator = .crossesAbove then
        pure (decide (previousLeft ≤ previousRight ∧ left > right))
      else
        pure (decide (previousLeft ≥ previousRight ∧ left < right)) : Except PyError Bool) =
      .ok (operator.relates (some (previousLeft, previousRight)) (left, right)) := by
  cases operator <;> first | rfl | cases hcross

/-- A crossover is not met where there are no previous values. -/
theorem any_relates_none {operator : Operator} (hcross : operator.isCross = true)
    (current : Option (Decimal × Decimal)) : current.any (operator.relates none) = false := by
  rw [Bool.eq_false_iff]
  intro hany
  obtain ⟨values, -, hrelates⟩ := (Option.any_eq_true ..).mp hany
  cases Operator.previous_isSome_of_relates hcross hrelates

/-- No condition has values on the empty history. -/
theorem valuesOn_nil {condition : Condition} (h : condition.Evaluable) :
    condition.valuesOn [] = none := by
  have hnonneg := operandFirstEvaluableIndex_nonneg h.left
  rw [← Option.not_isSome_iff_eq_none, Condition.valuesOn_isSome h, List.length_nil]
  omega

theorem evaluateConditionAt_spec {condition : Condition} (h : condition.Evaluable)
    {bars : List MarketBar} {i : Nat} (hi : i < bars.length) :
    evaluateConditionAt condition.operator (History.values condition.left.valueOn bars)
        (History.values condition.right.valueOn bars) i =
      .ok (condition.holdsOn (bars.take (i + 1))) := by
  have hdropLast : (bars.take (i + 1)).dropLast = bars.take i := by
    rw [List.take_succ_eq_append_getElem hi, List.dropLast_concat]
  have hleft := getItem_values condition.left.valueOn hi
  have hright := getItem_values condition.right.valueOn hi
  unfold evaluateConditionAt
  cases hcross : condition.operator.isCross with
  | false =>
      rw [if_neg Bool.false_ne_true, hleft, hright]
      simp only [ok_bind, Condition.holdsOn, Condition.valuesOn]
      cases condition.left.valueOn (bars.take (i + 1)) with
      | none => rfl
      | some left =>
          cases condition.right.valueOn (bars.take (i + 1)) with
          | none => rfl
          | some right => exact compare_spec hcross _ left right
  | true =>
      rw [if_pos rfl]
      cases i with
      | zero =>
          rw [if_pos rfl, Condition.holdsOn, hdropLast, List.take_zero, valuesOn_nil h,
            any_relates_none hcross]
      | succ j =>
          have hj : j < bars.length := by omega
          rw [if_neg (Nat.succ_ne_zero j), Nat.succ_sub_one, getItem_values _ hj,
            getItem_values _ hj, hleft, hright]
          simp only [ok_bind, Condition.holdsOn, hdropLast, Condition.valuesOn]
          cases condition.left.valueOn (bars.take (j + 1)) with
          | none => exact congrArg Except.ok (any_relates_none hcross _).symm
          | some previousLeft =>
              cases condition.right.valueOn (bars.take (j + 1)) with
              | none => exact congrArg Except.ok (any_relates_none hcross _).symm
              | some previousRight =>
                  cases condition.left.valueOn (bars.take (j + 1 + 1)) with
                  | none => rfl
                  | some left =>
                      cases condition.right.valueOn (bars.take (j + 1 + 1)) with
                      | none => rfl
                      | some right => exact cross_spec hcross _ _ left right

theorem evaluateCondition_spec {condition : Condition} (h : condition.Evaluable)
    (bars : List MarketBar) :
    evaluateCondition condition bars = .ok (History.values condition.holdsOn bars) := by
  rw [evaluateCondition, evaluateOperand_spec h.left, evaluateOperand_spec h.right]
  exact Loop.mapM_eq_ok fun i hi => evaluateConditionAt_spec h (List.mem_range.mp hi)

theorem generateSignalsStep_spec (specification : StrategySpecification)
    {bars : List MarketBar} {k : Nat} (hk : k < bars.length) :
    generateSignalsStep (History.values specification.entry.holdsOn bars)
        (History.values specification.exit.holdsOn bars)
        (History.values specification.signalsOn (bars.take k)).flatten (bars[k], k) =
      .ok (History.values specification.signalsOn (bars.take (k + 1))).flatten := by
  have hlast : (bars.take (k + 1)).getLast? = some bars[k] := by
    rw [List.take_succ_eq_append_getElem hk, List.getLast?_concat]
  rw [History.values_take_succ _ hk, List.flatten_append, List.flatten_singleton,
    StrategySpecification.signalsOn, hlast, Option.elim_some, generateSignalsStep]
  simp only [getItem_values _ hk, ok_bind]
  cases specification.entry.holdsOn (bars.take (k + 1)) <;>
    cases specification.exit.holdsOn (bars.take (k + 1)) <;> simp <;> rfl

/-- The signals of a strategy, bar by bar. -/
theorem generateSignals_spec {specification : StrategySpecification}
    (h : specification.Valid) (bars : List MarketBar) :
    (CompiledStrategy.mk specification).generateSignals bars =
      .ok (History.values specification.signalsOn bars).flatten := by
  have hloop := Loop.foldlM_follows
    (f := generateSignalsStep (History.values specification.entry.holdsOn bars)
      (History.values specification.exit.holdsOn bars))
    bars.zipIdx
    (fun k => (History.values specification.signalsOn (bars.take k)).flatten)
    (fun k hk => by
      rw [List.length_zipIdx] at hk
      simpa using generateSignalsStep_spec specification hk)
  rw [List.take_zero, List.length_zipIdx, List.take_length] at hloop
  rw [CompiledStrategy.generateSignals, evaluateCondition_spec h.entry.evaluable,
    evaluateCondition_spec h.exit.evaluable]
  exact hloop

theorem compileStrategy_spec {specification : StrategySpecification}
    (h : Services.validateStrategySemantics specification = .ok ()) :
    compileStrategy specification = .ok ⟨specification⟩ := by
  rw [compileStrategy, h]
  rfl

/-- Every signal of a history is stamped with its last bar. -/
theorem timestamp_of_mem_signalsOn {specification : StrategySpecification}
    {history : List MarketBar} {s : Signal} (h : s ∈ specification.signalsOn history) :
    ∃ bar, history.getLast? = some bar ∧ s.timestamp = bar.timestamp := by
  cases hlast : history.getLast? with
  | none => simp [StrategySpecification.signalsOn, hlast] at h
  | some bar =>
      refine ⟨bar, rfl, ?_⟩
      simp only [StrategySpecification.signalsOn, hlast, Option.elim_some,
        List.mem_append] at h
      rcases h with h | h <;> split at h <;> simp_all

theorem timestamp_of_mem_signalsOn_take {specification : StrategySpecification}
    {bars : List MarketBar} {k : Nat} (hk : k < bars.length) {s : Signal}
    (h : s ∈ specification.signalsOn (bars.take (k + 1))) :
    s.timestamp = bars[k].timestamp := by
  obtain ⟨bar, hbar, hs⟩ := timestamp_of_mem_signalsOn h
  rw [List.take_succ_eq_append_getElem hk, List.getLast?_concat, Option.some_inj] at hbar
  rw [hs, hbar]

theorem signalsByTimestamp_append (first second : List Signal) (timestamp : Timestamp) :
    signalsByTimestamp (first ++ second) timestamp =
      signalsByTimestamp first timestamp ++ signalsByTimestamp second timestamp :=
  List.filter_append ..

/-- Of the signals of the first `k` bars, those stamped with bar `i`. -/
theorem signalsByTimestamp_take (specification : StrategySpecification)
    {bars : List MarketBar} (hdistinct : (timestamps bars).Nodup) {i : Nat}
    (hi : i < bars.length) :
    ∀ k, k ≤ bars.length →
      signalsByTimestamp (History.values specification.signalsOn (bars.take k)).flatten
          bars[i].timestamp =
        if i < k then specification.signalsOn (bars.take (i + 1)) else [] := by
  intro k
  induction k with
  | zero => exact fun _ => rfl
  | succ k ih =>
      intro hk
      rw [History.values_take_succ _ hk, List.flatten_append, List.flatten_singleton,
        signalsByTimestamp_append, ih (by omega)]
      rcases eq_or_ne i k with rfl | hne
      · have hself : signalsByTimestamp (specification.signalsOn (bars.take (i + 1)))
            bars[i].timestamp = specification.signalsOn (bars.take (i + 1)) :=
          List.filter_eq_self.mpr fun s hs => by
            simp [timestamp_of_mem_signalsOn_take hi hs]
        rw [hself, if_neg (Nat.lt_irrefl i), if_pos (Nat.lt_succ_self i), List.nil_append]
      · -- the signals of another bar carry another timestamp
        have hother : signalsByTimestamp (specification.signalsOn (bars.take (k + 1)))
            bars[i].timestamp = [] :=
          List.filter_eq_nil_iff.mpr fun s hs => by
            simpa [timestamp_of_mem_signalsOn_take hk hs] using
              timestamp_ne hdistinct hk hi hne.symm
        have hiff : i < k + 1 ↔ i < k := by omega
        simp only [hother, List.append_nil, hiff]

/-- The signals that a bar list raises at bar `i` are those of its history there. -/
theorem signalsByTimestamp_spec (specification : StrategySpecification)
    {bars : List MarketBar} (hdistinct : (timestamps bars).Nodup) {i : Nat}
    (hi : i < bars.length) :
    signalsByTimestamp (History.values specification.signalsOn bars).flatten
        bars[i].timestamp = specification.signalsOn (bars.take (i + 1)) := by
  have htake := signalsByTimestamp_take specification hdistinct hi bars.length le_rfl
  rwa [List.take_length, if_pos hi] at htake

/-- The signals pending at bar `k` are those of the history before it. -/
theorem pendingSignals_spec (specification : StrategySpecification)
    {bars : List MarketBar} (hdistinct : (timestamps bars).Nodup) {k : Nat}
    (hk : k ≤ bars.length) :
    Book.pendingSignals bars (History.values specification.signalsOn bars).flatten k =
      specification.signalsOn (bars.take k) := by
  cases k with
  | zero => rfl
  | succ j =>
      rw [Book.pendingSignals, if_neg (Nat.succ_ne_zero j), Nat.succ_sub_one,
        List.getElem?_eq_getElem hk]
      exact signalsByTimestamp_spec specification hdistinct hk

end Backtesting
end TradingPlatform
