/-
  TradingPlatform.Backtesting.WarmUp

  The warm-up that the compiler predicts from periods alone is the one that
  evaluation has: an operand has no value exactly before its first evaluable
  index, and a condition reads a `None`, or a predecessor that does not exist,
  exactly before its first eligible index.
-/

import Mathlib.Order.Bounds.Defs
import TradingPlatform.Backtesting.StrategySemantics

namespace TradingPlatform
namespace Schemas

/-- What an operator says of two series at an index; a crossover also looks one step back. -/
def Operator.Means : Operator → (Nat → Decimal) → (Nat → Decimal) → Nat → Prop
  | .greaterThan, left, right, i => left i > right i
  | .lessThan, left, right, i => left i < right i
  | .greaterThanOrEqual, left, right, i => left i ≥ right i
  | .lessThanOrEqual, left, right, i => left i ≤ right i
  | .crossesAbove, left, right, i => left (i - 1) ≤ right (i - 1) ∧ left i > right i
  | .crossesBelow, left, right, i => left (i - 1) ≥ right (i - 1) ∧ left i < right i

/-- The relation of two pairs of values is what the operator says of the two series. -/
theorem Operator.relates_eq_true {operator : Operator} {left right : Nat → Decimal} {i : Nat}
    {previous : Option (Decimal × Decimal)}
    (hprevious : operator.isCross = true → previous = some (left (i - 1), right (i - 1))) :
    operator.relates previous (left i, right i) = true ↔ operator.Means left right i := by
  cases operator with
  | crossesAbove => simp [relates, Means, hprevious rfl]
  | crossesBelow => simp [relates, Means, hprevious rfl]
  | greaterThan => simp [relates, Means]
  | lessThan => simp [relates, Means]
  | greaterThanOrEqual => simp [relates, Means]
  | lessThanOrEqual => simp [relates, Means]

end Schemas

namespace Backtesting

open Python Schemas

/-- The value of a series at an index; `None`, or an index past the end, has none. -/
def valueAt (series : List (Option Decimal)) (i : Nat) : Option Decimal := series[i]?.join

/-- The series as a function, where it has values. -/
def readings (series : List (Option Decimal)) (i : Nat) : Decimal := (valueAt series i).getD 0

/-- `evaluate_condition` meets no `None` at index `i`: every entry it compares is a value. -/
structure Readable (operator : Operator) (left right : List (Option Decimal)) (i : Nat) :
    Prop where
  current : (valueAt left i).isSome ∧ (valueAt right i).isSome
  previous : operator.isCross = true →
    0 < i ∧ (valueAt left (i - 1)).isSome ∧ (valueAt right (i - 1)).isSome

section Operands

variable {operand : Operand} {bars : List MarketBar} {i : Nat}

theorem valueAt_values (f : List MarketBar → Option Decimal) (hi : i < bars.length) :
    valueAt (History.values f bars) i = f (bars.take (i + 1)) := by
  rw [valueAt, History.values_getElem? f hi, Option.join_some]

/-- An operand has a value from its first evaluable index on. -/
theorem valueAt_isSome (h : operand.Evaluable) (hi : i < bars.length) :
    (valueAt (History.values operand.valueOn bars) i).isSome ↔
      operandFirstEvaluableIndex operand ≤ i := by
  rw [valueAt_values _ hi, Operand.valueOn_isSome h, List.length_take]
  omega

end Operands

section Conditions

variable {condition : Condition} {bars : List MarketBar} {i : Nat}

/-- The entries of a condition are values exactly from its first eligible index on. -/
theorem readable_iff (h : condition.Evaluable) (hi : i < bars.length) :
    Readable condition.operator (History.values condition.left.valueOn bars)
        (History.values condition.right.valueOn bars) i ↔
      conditionFirstEligibleIndex condition ≤ i := by
  have hcurrent : (valueAt (History.values condition.left.valueOn bars) i).isSome ∧
      (valueAt (History.values condition.right.valueOn bars) i).isSome ↔
        max (operandFirstEvaluableIndex condition.left)
          (operandFirstEvaluableIndex condition.right) ≤ i := by
    rw [valueAt_isSome h.left hi, valueAt_isSome h.right hi, max_le_iff]
  unfold conditionFirstEligibleIndex
  cases hcross : condition.operator.isCross with
  | false =>
      rw [if_neg Bool.false_ne_true, ← hcurrent]
      refine ⟨fun hread => hread.current, fun hvalues => ⟨hvalues, fun hcrosses => ?_⟩⟩
      rw [hcross] at hcrosses
      cases hcrosses
  | true =>
      rw [if_pos rfl]
      have hnonneg := operandFirstEvaluableIndex_nonneg h.left
      constructor
      · intro hread
        obtain ⟨hpos, hleft, hright⟩ := hread.previous hcross
        have hleft := (valueAt_isSome h.left (show i - 1 < bars.length by omega)).mp hleft
        have hright := (valueAt_isSome h.right (show i - 1 < bars.length by omega)).mp hright
        show max _ _ + 1 ≤ (i : Int)
        omega
      · intro heligible
        change max _ _ + 1 ≤ (i : Int) at heligible
        refine ⟨hcurrent.mpr (by omega), fun _ => ⟨by omega, ?_, ?_⟩⟩
        · exact (valueAt_isSome h.left (by omega)).mpr (by omega)
        · exact (valueAt_isSome h.right (by omega)).mpr (by omega)

/-- Both sides of a condition at an index where both have a value. -/
theorem valuesOn_eq_readings (hi : i < bars.length)
    (hleft : (valueAt (History.values condition.left.valueOn bars) i).isSome)
    (hright : (valueAt (History.values condition.right.valueOn bars) i).isSome) :
    condition.valuesOn (bars.take (i + 1)) =
      some (readings (History.values condition.left.valueOn bars) i,
        readings (History.values condition.right.valueOn bars) i) := by
  rw [valueAt_values _ hi] at hleft hright
  obtain ⟨left, hleft⟩ := Option.isSome_iff_exists.mp hleft
  obtain ⟨right, hright⟩ := Option.isSome_iff_exists.mp hright
  rw [readings, readings, valueAt_values _ hi, valueAt_values _ hi, Condition.valuesOn, hleft,
    hright]
  rfl

/-- Where its entries are values, a condition is met exactly if its operator says so of them. -/
theorem holdsOn_eq_true_iff (hi : i < bars.length)
    (hread : Readable condition.operator (History.values condition.left.valueOn bars)
      (History.values condition.right.valueOn bars) i) :
    condition.holdsOn (bars.take (i + 1)) = true ↔
      condition.operator.Means (readings (History.values condition.left.valueOn bars))
        (readings (History.values condition.right.valueOn bars)) i := by
  have hdropLast : (bars.take (i + 1)).dropLast = bars.take i := by
    rw [List.take_succ_eq_append_getElem hi, List.dropLast_concat]
  rw [Condition.holdsOn, hdropLast, valuesOn_eq_readings hi hread.current.1 hread.current.2,
    Option.any_some]
  refine Operator.relates_eq_true fun hcross => ?_
  obtain ⟨hpos, hleft, hright⟩ := hread.previous hcross
  have hprevious := valuesOn_eq_readings (show i - 1 < bars.length by omega) hleft hright
  rwa [Nat.sub_add_cancel hpos] at hprevious

end Conditions

/-- The predicted warm-up is the one evaluation has, for every operand and every condition
    without an empty window. -/
theorem warmUp_exact (bars : List MarketBar) :
    (∀ operand : Operand, operand.Evaluable →
      ∃ values, evaluateOperand operand bars = .ok values ∧ values.length = bars.length ∧
        ∀ i, i < bars.length →
          (values[i]? = some none ↔ (i : Int) < operandFirstEvaluableIndex operand)) ∧
    (∀ condition : Condition, condition.Evaluable →
      ∃ left right values, evaluateOperand condition.left bars = .ok left ∧
        evaluateOperand condition.right bars = .ok right ∧
        evaluateCondition condition bars = .ok values ∧ values.length = bars.length ∧
        (∀ i, i < bars.length → (i : Int) < conditionFirstEligibleIndex condition →
          values[i]? = some false) ∧
        (∀ i, i < bars.length → conditionFirstEligibleIndex condition ≤ i →
          (values[i]? = some true ↔
            condition.operator.Means (readings left) (readings right) i)) ∧
        (∀ i, i < bars.length →
          (Readable condition.operator left right i ↔
            conditionFirstEligibleIndex condition ≤ i)) ∧
        (conditionFirstEligibleIndex condition < bars.length →
          IsLeast {j : Nat | ∀ i, j ≤ i → i < bars.length →
            Readable condition.operator left right i}
            (conditionFirstEligibleIndex condition).toNat)) := by
  refine ⟨fun operand h => ?_, fun condition h => ?_⟩
  · refine ⟨_, evaluateOperand_spec h bars, History.values_length .., fun i hi => ?_⟩
    rw [← not_le, ← valueAt_isSome h hi, valueAt_values _ hi, History.values_getElem? _ hi,
      Option.some_inj, Option.not_isSome_iff_eq_none]
  · refine ⟨_, _, _, evaluateOperand_spec h.left bars, evaluateOperand_spec h.right bars,
      evaluateCondition_spec h bars, History.values_length .., ?_, ?_, ?_, ?_⟩
    · intro i hi hwarm
      rw [History.values_getElem? _ hi, Option.some_inj, Bool.eq_false_iff]
      intro hholds
      have heligible := Condition.eligible_of_holdsOn h hholds
      rw [List.length_take] at heligible
      omega
    · intro i hi heligible
      rw [History.values_getElem? _ hi, Option.some_inj]
      exact holdsOn_eq_true_iff hi ((readable_iff h hi).mpr heligible)
    · exact fun i hi => readable_iff h hi
    · intro hshort
      constructor
      · intro i hji hi
        exact (readable_iff h hi).mpr (by omega)
      · intro j hj
        by_contra hlt
        have hread := hj j le_rfl (by omega)
        have heligible := (readable_iff h (show j < bars.length by omega)).mp hread
        omega

/-- The close crossing above its two-day average, on three bars: eligible at the third. -/
theorem warmUp_exact_crossover :
    ∃ left right values,
      evaluateOperand (.price "close")
        [dailyBar 0 10 11 9 10, dailyBar 1 10 11 8 9, dailyBar 2 10 13 9 12] = .ok left ∧
      evaluateOperand (.indicator .sma "close" 2)
        [dailyBar 0 10 11 9 10, dailyBar 1 10 11 8 9, dailyBar 2 10 13 9 12] = .ok right ∧
      evaluateCondition ⟨.price "close", .crossesAbove, .indicator .sma "close" 2⟩
        [dailyBar 0 10 11 9 10, dailyBar 1 10 11 8 9, dailyBar 2 10 13 9 12] = .ok values ∧
      IsLeast {j : Nat | ∀ i, j ≤ i → i < 3 → Readable .crossesAbove left right i} 2 := by
  obtain ⟨-, hcondition⟩ := warmUp_exact
    [dailyBar 0 10 11 9 10, dailyBar 1 10 11 8 9, dailyBar 2 10 13 9 12]
  obtain ⟨left, right, values, hleft, hright, hvalues, -, -, -, -, hleast⟩ := hcondition
    ⟨.price "close", .crossesAbove, .indicator .sma "close" 2⟩
    ⟨trivial, show (1 : Int) ≤ 2 by decide⟩
  exact ⟨left, right, values, hleft, hright, hvalues, hleast (by decide)⟩

end Backtesting
end TradingPlatform
