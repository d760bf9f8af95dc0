/-
  TradingPlatform.Services.CanonicalRules

  One normal form for the many ways to write a rule.  An average over one bar is
  the close itself, and "a is less than b" says what "b is greater than a" says,
  crossovers included.

  `canonical` writes every rule the first way: no average of period one, and an
  operator that looks upwards.  Two specifications with one normal form are
  accepted together, raise the same signals at the same bars, warm up equally
  long, and have the same preview.
-/

import Mathlib.Data.List.Induction
import TradingPlatform.Backtesting.StrategySemantics
import TradingPlatform.Services.StrategyPreview

namespace TradingPlatform

open Backtesting

namespace Schemas

-- ============================================================================
-- Normal forms
-- ============================================================================

/-- An average over one bar is written as the price. -/
def Operand.canonical : Operand → Operand
  | .indicator name source period =>
      if period = 1 then .price source else .indicator name source period
  | .price source => .price source
  | .constant value => .constant value

/-- The operator that says the same with the operands exchanged. -/
def Operator.mirrored : Operator → Operator
  | .crossesAbove => .crossesBelow
  | .crossesBelow => .crossesAbove
  | .greaterThan => .lessThan
  | .lessThan => .greaterThan
  | .greaterThanOrEqual => .lessThanOrEqual
  | .lessThanOrEqual => .greaterThanOrEqual

/-- The operators of which the normal form has the mirror. -/
def Operator.downward : Operator → Bool
  | .crossesBelow | .lessThan | .lessThanOrEqual => true
  | .crossesAbove | .greaterThan | .greaterThanOrEqual => false

/-- The sides exchanged, and the operator with them. -/
def Condition.mirrored (condition : Condition) : Condition :=
  ⟨condition.right, condition.operator.mirrored, condition.left⟩

/-- The normal form of a condition: no operator points downward. -/
def Condition.canonical (condition : Condition) : Condition :=
  let simplified : Condition :=
    ⟨condition.left.canonical, condition.operator, condition.right.canonical⟩
  if condition.operator.downward then simplified.mirrored else simplified

/-- The normal form of a specification: that of its rules. -/
def StrategySpecification.canonical (specification : StrategySpecification) :
    StrategySpecification :=
  { specification with
    entry := specification.entry.canonical
    exit := specification.exit.canonical }

-- ============================================================================
-- An average over one bar
-- ============================================================================

theorem smaOn_one (history : List MarketBar) :
    smaOn 1 history = history.getLast?.map (·.closePrice) := by
  induction history using List.reverseRecOn with
  | nil => rfl
  | append_singleton past bar _ =>
      have hsum : History.windowSum 1 ((past ++ [bar]).map (·.closePrice)) = bar.closePrice := by
        rw [List.map_append, History.windowSum, List.length_append, List.length_map]
        simp
      rw [smaOn, if_pos (by simp), hsum, List.getLast?_concat]
      simp

/-- With a window of one bar, an update forgets the average it updates. -/
theorem emaUpdate_one (average : Decimal) (bar : MarketBar) :
    emaUpdate 1 average bar = bar.closePrice := by
  rw [emaUpdate]
  norm_num

theorem emaOn_one (history : List MarketBar) :
    emaOn 1 history = history.getLast?.map (·.closePrice) := by
  induction history using List.reverseRecOn with
  | nil => rfl
  | append_singleton past bar _ =>
      rw [emaOn, if_pos (by simp), List.getLast?_concat, Option.map_some]
      cases past with
      | nil => simp [emaSeed]
      | cons first rest =>
          rw [List.cons_append, List.drop_succ_cons, List.drop_zero, List.foldl_append,
            List.foldl_cons, List.foldl_nil, emaUpdate_one]

theorem Operand.valueOn_canonical (operand : Operand) (history : List MarketBar) :
    operand.canonical.valueOn history = operand.valueOn history := by
  cases operand with
  | price source => rfl
  | constant value => rfl
  | indicator name source period =>
      rw [canonical]
      split
      · rename_i hone
        subst hone
        cases name with
        | sma => exact (smaOn_one history).symm
        | ema => exact (emaOn_one history).symm
      · rfl

theorem Operand.operandFirstEvaluableIndex_canonical (operand : Operand) :
    operandFirstEvaluableIndex operand.canonical = operandFirstEvaluableIndex operand := by
  cases operand with
  | price source => rfl
  | constant value => rfl
  | indicator name source period =>
      rw [canonical]
      split
      · rename_i hone
        subst hone
        rfl
      · rfl

-- ============================================================================
-- Exchanged operands
-- ============================================================================

theorem Operator.relates_mirrored (operator : Operator) (previous : Option (Decimal × Decimal))
    (current : Decimal × Decimal) :
    operator.mirrored.relates (previous.map Prod.swap) current.swap =
      operator.relates previous current := by
  obtain ⟨left, right⟩ := current
  cases previous <;> cases operator <;> rfl

theorem Operator.isCross_mirrored (operator : Operator) :
    operator.mirrored.isCross = operator.isCross := by
  cases operator <;> rfl

namespace Condition

theorem valuesOn_mirrored (condition : Condition) (history : List MarketBar) :
    condition.mirrored.valuesOn history = (condition.valuesOn history).map Prod.swap := by
  rw [valuesOn, valuesOn, mirrored]
  cases condition.left.valueOn history <;> cases condition.right.valueOn history <;> rfl

theorem holdsOn_mirrored (condition : Condition) (history : List MarketBar) :
    condition.mirrored.holdsOn history = condition.holdsOn history := by
  rw [holdsOn, holdsOn, valuesOn_mirrored, valuesOn_mirrored, Option.any_map]
  congr 1
  funext current
  exact condition.operator.relates_mirrored _ current

theorem conditionFirstEligibleIndex_mirrored (condition : Condition) :
    conditionFirstEligibleIndex condition.mirrored = conditionFirstEligibleIndex condition := by
  simp only [conditionFirstEligibleIndex, mirrored, Operator.isCross_mirrored]
  rw [max_comm]

/-- A condition depends on its operands through their values only. -/
theorem holdsOn_congr {condition condition' : Condition}
    (hoperator : condition.operator = condition'.operator)
    (hleft : ∀ history, condition.left.valueOn history = condition'.left.valueOn history)
    (hright : ∀ history, condition.right.valueOn history = condition'.right.valueOn history)
    (history : List MarketBar) :
    condition.holdsOn history = condition'.holdsOn history := by
  have hvalues : ∀ past, condition.valuesOn past = condition'.valuesOn past := fun past => by
    rw [valuesOn, valuesOn, hleft, hright]
  rw [holdsOn, holdsOn, hvalues, hvalues, hoperator]

theorem holdsOn_canonical (condition : Condition) (history : List MarketBar) :
    condition.canonical.holdsOn history = condition.holdsOn history := by
  have hsimplified :
      Condition.holdsOn ⟨condition.left.canonical, condition.operator, condition.right.canonical⟩
        history = condition.holdsOn history := by
    apply holdsOn_congr
    · rfl
    · exact condition.left.valueOn_canonical
    · exact condition.right.valueOn_canonical
  rw [canonical]
  split
  · rw [holdsOn_mirrored, hsimplified]
  · exact hsimplified

theorem conditionFirstEligibleIndex_canonical (condition : Condition) :
    conditionFirstEligibleIndex condition.canonical = conditionFirstEligibleIndex condition := by
  have hsimplified : conditionFirstEligibleIndex
      ⟨condition.left.canonical, condition.operator, condition.right.canonical⟩ =
        conditionFirstEligibleIndex condition := by
    simp only [conditionFirstEligibleIndex, Operand.operandFirstEvaluableIndex_canonical]
  rw [canonical]
  split
  · rw [conditionFirstEligibleIndex_mirrored, hsimplified]
  · exact hsimplified

end Condition

theorem StrategySpecification.signalsOn_canonical (specification : StrategySpecification)
    (history : List MarketBar) :
    specification.canonical.signalsOn history = specification.signalsOn history := by
  simp only [signalsOn, canonical, Condition.holdsOn_canonical]

end Schemas

namespace Services

open Python Schemas

-- ============================================================================
-- Acceptance
-- ============================================================================

/-- A period of one is a valid one. -/
theorem validateOperand_canonical (operand : Operand) :
    validateOperand operand.canonical = .ok () ↔ validateOperand operand = .ok () := by
  cases operand with
  | price source => rfl
  | constant value => rfl
  | indicator name source period =>
      rw [Operand.canonical]
      split
      · rename_i hone
        subst hone
        simp [validateOperand, bind_eq_ok, require_eq_ok]
      · rfl

theorem validateCondition_canonical (condition : Condition) :
    validateCondition condition.canonical = .ok () ↔ validateCondition condition = .ok () := by
  rw [Condition.canonical]
  split
  · rw [Condition.mirrored, validateCondition, validateCondition, bind_eq_ok, bind_eq_ok,
      validateOperand_canonical, validateOperand_canonical, and_comm]
  · rw [validateCondition, validateCondition, bind_eq_ok, bind_eq_ok,
      validateOperand_canonical, validateOperand_canonical]

theorem validateStrategySemantics_canonical (specification : StrategySpecification) :
    validateStrategySemantics specification.canonical = .ok () ↔
      validateStrategySemantics specification = .ok () := by
  simp only [validateStrategySemantics, bind_eq_ok, require_eq_ok]
  simp only [StrategySpecification.canonical, validateCondition_canonical]

-- ============================================================================
-- Signals and previews
-- ============================================================================

section Canonical

variable {specification : StrategySpecification}

theorem generateSignals_canonical (hvalid : validateStrategySemantics specification = .ok ())
    (bars : List MarketBar) :
    (CompiledStrategy.mk specification.canonical).generateSignals bars =
      (CompiledStrategy.mk specification).generateSignals bars := by
  have hvalid' := (validateStrategySemantics_canonical specification).mpr hvalid
  rw [generateSignals_spec (validateStrategySemantics_valid hvalid'),
    generateSignals_spec (validateStrategySemantics_valid hvalid)]
  congr 3
  funext history
  exact specification.signalsOn_canonical history

theorem firstSignalEligibleIndex_canonical (specification : StrategySpecification)
    (bars : List MarketBar) :
    (CompiledStrategy.mk specification.canonical).firstSignalEligibleIndex bars =
      (CompiledStrategy.mk specification).firstSignalEligibleIndex bars := by
  simp only [CompiledStrategy.firstSignalEligibleIndex, StrategySpecification.canonical,
    Condition.conditionFirstEligibleIndex_canonical]

theorem createSpecificationPreview_canonical
    (hvalid : validateStrategySemantics specification = .ok ())
    (power : Decimal → Decimal → Except PyError Decimal) (rendering : Rendering)
    (rows : List MarketDataRow) (parsedStrategy : ParsedStrategyResult) :
    createSpecificationPreview power rendering rows specification.canonical parsedStrategy =
      createSpecificationPreview power rendering rows specification parsedStrategy := by
  have hvalid' := (validateStrategySemantics_canonical specification).mpr hvalid
  rw [createSpecificationPreview, createSpecificationPreview, compileStrategy_spec hvalid,
    compileStrategy_spec hvalid', ok_bind, ok_bind]
  simp only [firstSignalEligibleIndex_canonical, generateSignals_canonical hvalid]
  rfl

end Canonical

/-- Rules with one normal form are one strategy. -/
theorem sameRules_samePreview {specification specification' : StrategySpecification}
    (hvalid : validateStrategySemantics specification = .ok ())
    (hsame : specification'.canonical = specification.canonical) :
    validateStrategySemantics specification' = .ok () ∧
    (∀ bars, (CompiledStrategy.mk specification').generateSignals bars =
      (CompiledStrategy.mk specification).generateSignals bars) ∧
    ∀ power rendering rows parsedStrategy,
      createSpecificationPreview power rendering rows specification' parsedStrategy =
        createSpecificationPreview power rendering rows specification parsedStrategy := by
  have hvalid' : validateStrategySemantics specification' = .ok () := by
    rw [← validateStrategySemantics_canonical, hsame, validateStrategySemantics_canonical]
    exact hvalid
  refine ⟨hvalid', fun bars => ?_, fun power rendering rows parsedStrategy => ?_⟩
  · rw [← generateSignals_canonical hvalid', hsame, generateSignals_canonical hvalid]
  · rw [← createSpecificationPreview_canonical hvalid', hsame,
      createSpecificationPreview_canonical hvalid]

-- ============================================================================
-- A worked example
-- ============================================================================

/-- Buy when the close crosses above its 50-day average, sell when it is below it. -/
def aboveAverage : StrategySpecification :=
  .ofRules ⟨.price "close", .crossesAbove, .indicator .sma "close" 50⟩
    ⟨.price "close", .lessThan, .indicator .sma "close" 50⟩

/-- The same, from the average's side. -/
def averageBelow : StrategySpecification :=
  .ofRules ⟨.indicator .sma "close" 50, .crossesBelow, .indicator .ema "close" 1⟩
    ⟨.indicator .sma "close" 50, .greaterThan, .price "close"⟩

theorem sameRules_samePreview_average :
    validateStrategySemantics averageBelow = .ok () ∧
    (∀ bars, (CompiledStrategy.mk averageBelow).generateSignals bars =
      (CompiledStrategy.mk aboveAverage).generateSignals bars) ∧
    ∀ power rendering rows parsedStrategy,
      createSpecificationPreview power rendering rows averageBelow parsedStrategy =
        createSpecificationPreview power rendering rows aboveAverage parsedStrategy :=
  sameRules_samePreview (by decide) (by decide)

end Services
end TradingPlatform
