/-
  TradingPlatform.Backtesting.StrategyCompiler

  The strategy compiler of `app/backtesting/strategy_compiler.py`: operands and
  conditions evaluated over a whole bar list, and the signals they raise.
-/

import TradingPlatform.Backtesting.SmaCrossover
import TradingPlatform.Services.StrategySemantics

namespace TradingPlatform
namespace Backtesting

open Python Schemas Services

-- ============================================================================
-- Operands
-- ============================================================================

/-- One iteration of the loop in `exponential_moving_averages`. -/
def exponentialMovingAverageStep (bars : List MarketBar) (multiplier : Decimal)
    (loop : Decimal × List (Option Decimal)) (index : Nat) :
    Except PyError (Decimal × List (Option Decimal)) := do
  let bar ← getItem bars index
  let previous := (bar.closePrice - loop.1) * multiplier + loop.1
  return (previous, loop.2.set index (some previous))

/-- Seeded with the average of the first `window` closes, at index `window - 1`. -/
def exponentialMovingAverages (bars : List MarketBar) (window : Int) :
    Except PyError (List (Option Decimal)) :=
  if window ≤ 0 then
    .error (.strategyCompilationError "EMA window must be positive.")
  else
    let window := window.toNat
    let values := List.replicate bars.length none
    if bars.length < window then
      .ok values
    else do
      let first ← divide ((bars.take window).map (·.closePrice)).sum window
      let multiplier ← divide 2 (window + 1)
      let loop ← (List.range' window (bars.length - window)).foldlM
        (exponentialMovingAverageStep bars multiplier)
        (first, values.set (window - 1) (some first))
      return loop.2

/-- The value of an operand at every bar, `None` during its warm-up. -/
def evaluateOperand (operand : Operand) (bars : List MarketBar) :
    Except PyError (List (Option Decimal)) :=
  match operand with
  | .price _ => .ok (bars.map fun bar => some bar.closePrice)
  | .constant value => .ok (bars.map fun _ => some value)
  | .indicator .sma _ period => simpleMovingAverages bars period
  | .indicator .ema _ period => exponentialMovingAverages bars period

-- ============================================================================
-- Conditions
-- ============================================================================

/-- The dictionary of comparisons has no entry for the two crossover operators. -/
def compare (left right : Decimal) (operator : Operator) : Except PyError Bool :=
  match operator with
  | .greaterThan => .ok (left > right)
  | .lessThan => .ok (left < right)
  | .greaterThanOrEqual => .ok (left ≥ right)
  | .lessThanOrEqual => .ok (left ≤ right)
  | .crossesAbove | .crossesBelow =>
      .error (.strategyCompilationError "Unsupported comparison operator.")

/-- One iteration of the loop in `evaluate_condition`: what `values[index]` becomes. -/
def evaluateConditionAt (operator : Operator) (left right : List (Option Decimal))
    (index : Nat) : Except PyError Bool :=
  if operator.isCross then
    if index = 0 then
      .ok false
    else do
      let previousLeft ← getItem left (index - 1)
      let previousRight ← getItem right (index - 1)
      let currentLeft ← getItem left index
      let currentRight ← getItem right index
      match previousLeft, previousRight, currentLeft, currentRight with
      | some previousLeft, some previousRight, some currentLeft, some currentRight =>
          if operator = .crossesAbove then
            return decide (previousLeft ≤ previousRight ∧ currentLeft > currentRight)
          else
            return decide (previousLeft ≥ previousRight ∧ currentLeft < currentRight)
      | _, _, _, _ => return false
  else do
    let currentLeft ← getItem left index
    let currentRight ← getItem right index
    match currentLeft, currentRight with
    | some currentLeft, some currentRight => compare currentLeft currentRight operator
    | _, _ => return false

/-- Whether a condition holds at every bar. -/
def evaluateCondition (condition : Condition) (bars : List MarketBar) :
    Except PyError (List Bool) := do
  let left ← evaluateOperand condition.left bars
  let right ← evaluateOperand condition.right bars
  (List.range bars.length).mapM (evaluateConditionAt condition.operator left right)

-- ============================================================================
-- Warm-up
-- ============================================================================

/-- The first bar at which an operand has a value. -/
def operandFirstEvaluableIndex (operand : Operand) : Int :=
  match operand with
  | .indicator _ _ period => period - 1
  | _ => 0

/-- The first bar at which a condition can hold; a crossing looks at the bar before it. -/
def conditionFirstEligibleIndex (condition : Condition) : Int :=
  let warmupIndex := max (operandFirstEvaluableIndex condition.left)
    (operandFirstEvaluableIndex condition.right)
  if condition.operator.isCross then warmupIndex + 1 else warmupIndex

-- ============================================================================
-- Compiled strategies
-- ============================================================================

/-- A specification that passed `validate_strategy_semantics`. -/
structure CompiledStrategy where
  specification : StrategySpecification
deriving DecidableEq, Repr

/-- One iteration of the loop in `generate_signals`. -/
def generateSignalsStep (entryValues exitValues : List Bool) (signals : List Signal)
    (item : MarketBar × Nat) : Except PyError (List Signal) := do
  let (bar, index) := item
  let entry ← getItem entryValues index
  let signals := if entry then signals ++ [⟨bar.timestamp, .buy⟩] else signals
  let exit ← getItem exitValues index
  return if exit then signals ++ [⟨bar.timestamp, .sell⟩] else signals

/-- The signals of both rules; each is evaluated from its own warm-up on. -/
def CompiledStrategy.generateSignals (compiled : CompiledStrategy) (bars : List MarketBar) :
    Except PyError (List Signal) := do
  let entryValues ← evaluateCondition compiled.specification.entry bars
  let exitValues ← evaluateCondition compiled.specification.exit bars
  bars.zipIdx.foldlM (generateSignalsStep entryValues exitValues) []

/-- The first bar at which both rules can hold. -/
def CompiledStrategy.firstSignalEligibleIndex (compiled : CompiledStrategy)
    (_bars : List MarketBar) : Int :=
  max (max (conditionFirstEligibleIndex compiled.specification.entry)
    (conditionFirstEligibleIndex compiled.specification.exit)) 0

/-- `compile_strategy`. -/
def compileStrategy (specification : StrategySpecification) :
    Except PyError CompiledStrategy := do
  validateStrategySemantics specification
  return ⟨specification⟩

end Backtesting
end TradingPlatform
