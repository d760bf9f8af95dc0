/-
  TradingPlatform.Schemas.StrategySpec

  The strategy language of `app/schemas/strategy_spec.py`.

  Fields that Pydantic restricts to a single literal (`symbol`, `interval`,
  `source`, the execution settings) keep their plain type here: the semantic
  validator checks them again, and nothing below relies on the schema having
  done it first.
-/

import TradingPlatform.Core.Json

namespace TradingPlatform
namespace Schemas

/-- The largest risk control, in percent. -/
def maxRiskPercent : Decimal := 50

/-- The indicators. -/
inductive IndicatorName where
  | sma
  | ema
deriving DecidableEq, Repr

/-- The text of an indicator. -/
def IndicatorName.value : IndicatorName → String
  | .sma => "sma"
  | .ema => "ema"

/-- The comparisons and crossings of a condition. -/
inductive Operator where
  | crossesAbove
  | crossesBelow
  | greaterThan
  | lessThan
  | greaterThanOrEqual
  | lessThanOrEqual
deriving DecidableEq, Repr

/-- The text of an operator. -/
def Operator.value : Operator → String
  | .crossesAbove => "crosses_above"
  | .crossesBelow => "crosses_below"
  | .greaterThan => "greater_than"
  | .lessThan => "less_than"
  | .greaterThanOrEqual => "greater_than_or_equal"
  | .lessThanOrEqual => "less_than_or_equal"

/-- `operator in {Operator.CROSSES_ABOVE, Operator.CROSSES_BELOW}` -/
def Operator.isCross : Operator → Bool
  | .crossesAbove | .crossesBelow => true
  | _ => false

/-- The union `IndicatorOperand | PriceOperand | ConstantOperand`, discriminated by
    `type`.  A constant is finite, as Pydantic requires of a `Decimal`. -/
inductive Operand where
  | indicator (name : IndicatorName) (source : String) (period : Int)
  | price (source : String)
  | constant (value : Decimal)
deriving DecidableEq, Repr

/-- A comparison or a crossing of two operands. -/
structure Condition where
  left : Operand
  operator : Operator
  right : Operand
deriving DecidableEq, Repr

/-- How signals are executed; the schema allows one value of each. -/
structure ExecutionSettings where
  direction : String
  positionSizePercent : Int
  signalExecution : String
deriving DecidableEq, Repr

/-- A strategy: when to enter, when to exit, and its risk controls. -/
structure StrategySpecification where
  version : String
  symbol : String
  interval : String
  entry : Condition
  exit : Condition
  execution : ExecutionSettings
  stopLossPercent : Option Decimal
  takeProfitPercent : Option Decimal
deriving DecidableEq, Repr

/-- The version 1 strategy of two rules, without risk controls. -/
def StrategySpecification.ofRules (entry exit : Condition) : StrategySpecification where
  version := "1.0"
  symbol := "SPY"
  interval := "1d"
  entry := entry
  exit := exit
  execution := ⟨"long", 100, "next_bar_open"⟩
  stopLossPercent := none
  takeProfitPercent := none

-- ============================================================================
-- Parsed strategies
-- ============================================================================

/-- `str | int | Decimal | bool | dict[str, object] | list[object]` -/
inductive FieldValue where
  | text (value : String)
  | integer (value : Int)
  | decimal (value : Decimal)
  | boolean (value : Bool)
  | nested (value : Json)
deriving Repr

/-- How sure the parser was of an assumption. -/
inductive AssumptionConfidence where
  | high
  | medium
  | low
deriving DecidableEq, Repr

/-- The text of a confidence. -/
def AssumptionConfidence.value : AssumptionConfidence → String
  | .high => "high"
  | .medium => "medium"
  | .low => "low"

/-- A value that the text did not give and the user has to confirm. -/
structure StrategyAssumption where
  field : String
  inferredValue : FieldValue
  reason : String
  confidence : AssumptionConfidence
  requiresConfirmation : Bool
deriving Repr

/-- A default that was filled in. -/
structure AppliedDefault where
  field : String
  value : FieldValue
  reason : String
deriving Repr

/-- What a parser returns for a text. -/
structure ParsedStrategyResult where
  specification : StrategySpecification
  assumptions : List StrategyAssumption
  defaultsApplied : List AppliedDefault
  requiresConfirmation : Bool
  originalText : String
deriving Repr

/-- A specification as if parsed from the text without defaults or assumptions. -/
def ParsedStrategyResult.ofSpecification (specification : StrategySpecification)
    (originalText : String) : ParsedStrategyResult :=
  ⟨specification, [], [], false, originalText⟩

-- ============================================================================
-- Documents
-- ============================================================================

/-! `model_dump(mode="json")` of the schemas: a `Decimal` is dumped as its text. -/

/-- `model_dump` of an operand. -/
def Operand.modelDump (rendering : Rendering) : Operand → Json
  | .indicator name source period =>
      .object [("type", .str "indicator"), ("name", .str name.value), ("source", .str source),
        ("period", .int period)]
  | .price source => .object [("type", .str "price"), ("source", .str source)]
  | .constant value =>
      .object [("type", .str "constant"), ("value", .str (rendering.str value))]

/-- `model_dump` of a condition. -/
def Condition.modelDump (rendering : Rendering) (condition : Condition) : Json :=
  .object [("left", condition.left.modelDump rendering),
    ("operator", .str condition.operator.value),
    ("right", condition.right.modelDump rendering)]

/-- `model_dump` of the execution settings. -/
def ExecutionSettings.modelDump (execution : ExecutionSettings) : Json :=
  .object [("direction", .str execution.direction),
    ("position_size_percent", .int execution.positionSizePercent),
    ("signal_execution", .str execution.signalExecution)]

/-- `model_dump` of a specification. -/
def StrategySpecification.modelDump (rendering : Rendering)
    (specification : StrategySpecification) : Json :=
  .object [("version", .str specification.version), ("symbol", .str specification.symbol),
    ("interval", .str specification.interval),
    ("entry", specification.entry.modelDump rendering),
    ("exit", specification.exit.modelDump rendering),
    ("execution", specification.execution.modelDump),
    ("stop_loss_percent",
      .ofOption (specification.stopLossPercent.map fun v => .str (rendering.str v))),
    ("take_profit_percent",
      .ofOption (specification.takeProfitPercent.map fun v => .str (rendering.str v)))]

/-- `model_dump` of a recorded value. -/
def FieldValue.modelDump (rendering : Rendering) : FieldValue → Json
  | .text value => .str value
  | .integer value => .int value
  | .decimal value => .str (rendering.str value)
  | .boolean value => .bool value
  | .nested value => value

/-- `model_dump` of an assumption. -/
def StrategyAssumption.modelDump (rendering : Rendering) (item : StrategyAssumption) : Json :=
  .object [("field", .str item.field),
    ("inferred_value", item.inferredValue.modelDump rendering),
    ("reason", .str item.reason), ("confidence", .str item.confidence.value),
    ("requires_confirmation", .bool item.requiresConfirmation)]

/-- `model_dump` of an applied default. -/
def AppliedDefault.modelDump (rendering : Rendering) (item : AppliedDefault) : Json :=
  .object [("field", .str item.field), ("value", item.value.modelDump rendering),
    ("reason", .str item.reason)]

end Schemas
end TradingPlatform
