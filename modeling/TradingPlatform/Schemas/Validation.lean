/-
  TradingPlatform.Schemas.Validation

  Validation of the strategy language: `model_validate` of the models of
  `app/schemas/strategy_spec.py`, next to their dumps of `StrategySpec`.

  `SchemaValid` says what a validated specification satisfies; such a
  specification is read back from its own dump.
-/

import TradingPlatform.Core.Pydantic
import TradingPlatform.Services.StrategySemantics

namespace TradingPlatform
namespace Schemas

open Pydantic

-- ============================================================================
-- Validators
-- ============================================================================

/-- The indicators by their texts. -/
def IndicatorName.members : List (String × IndicatorName) :=
  [.sma, .ema].map fun name => (name.value, name)

/-- The operators by their texts. -/
def Operator.members : List (String × Operator) :=
  [.crossesAbove, .crossesBelow, .greaterThan, .lessThan, .greaterThanOrEqual,
    .lessThanOrEqual].map fun operator => (operator.value, operator)

/-- The confidences by their texts. -/
def AssumptionConfidence.members : List (String × AssumptionConfidence) :=
  [.high, .medium, .low].map fun confidence => (confidence.value, confidence)

/-- A `Literal` of one string. -/
def literalString (value : String) : Validator String := literal [(value, value)]

/-- `Literal[True]` -/
def literalTrue : Validator Bool
  | .bool true => .ok true
  | _ => .error .malformed

/-- The union of operands, by its discriminator `type`. -/
def Operand.modelValidate (reading : Reading) (json : Json) :
    Except ValidationError Operand := do
  match ← required (← dict json) "type" string with
  | "indicator" =>
      let entries ← fields ["type", "name", "source", "period"] json
      let name ← required entries "name" (literal IndicatorName.members)
      let source ← required entries "source" (literalString "close")
      let period ← required entries "period" strictInt
      return .indicator name source period
  | "price" =>
      let entries ← fields ["type", "source"] json
      let source ← required entries "source" (literalString "close")
      return .price source
  | "constant" =>
      let entries ← fields ["type", "value"] json
      let value ← required entries "value" (converted reading.decimal)
      return .constant value
  | _ => throw .malformed

/-- `Condition.model_validate` -/
def Condition.modelValidate (reading : Reading) (json : Json) :
    Except ValidationError Condition := do
  let entries ← fields ["left", "operator", "right"] json
  let left ← required entries "left" (Operand.modelValidate reading)
  let operator ← required entries "operator" (literal Operator.members)
  let right ← required entries "right" (Operand.modelValidate reading)
  return ⟨left, operator, right⟩

/-- `ExecutionSettings.model_validate` -/
def ExecutionSettings.modelValidate (json : Json) :
    Except ValidationError ExecutionSettings := do
  let entries ← fields ["direction", "position_size_percent", "signal_execution"] json
  let direction ← required entries "direction" (literalString "long")
  let positionSizePercent ← required entries "position_size_percent" (literalInt 100)
  let signalExecution ← required entries "signal_execution" (literalString "next_bar_open")
  return ⟨direction, positionSizePercent, signalExecution⟩

/-- `Decimal | None`, with `gt=Decimal("0")` and `le=MAX_RISK_PERCENT`. -/
def riskPercent (reading : Reading) : Validator (Option Decimal) :=
  nullable (satisfying (fun v => 0 < v ∧ v ≤ maxRiskPercent) (converted reading.decimal))

/-- `StrategySpecification.model_validate` -/
def StrategySpecification.modelValidate (reading : Reading) (json : Json) :
    Except ValidationError StrategySpecification := do
  let entries ← fields ["version", "symbol", "interval", "entry", "exit", "execution",
    "stop_loss_percent", "take_profit_percent"] json
  let version ← withDefault entries "version" "1.0" (literalString "1.0")
  let symbol ← required entries "symbol" (literalString "SPY")
  let interval ← required entries "interval" (literalString "1d")
  let entry ← required entries "entry" (Condition.modelValidate reading)
  let exit ← required entries "exit" (Condition.modelValidate reading)
  let execution ← required entries "execution" ExecutionSettings.modelValidate
  let stopLossPercent ← withDefault entries "stop_loss_percent" none (riskPercent reading)
  let takeProfitPercent ← withDefault entries "take_profit_percent" none (riskPercent reading)
  return ⟨version, symbol, interval, entry, exit, execution, stopLossPercent,
    takeProfitPercent⟩

/-- The union of field values: the member whose JSON type the value has, and for other
    numbers what `number` chooses. -/
def FieldValue.modelValidate (reading : Reading) : Validator FieldValue
  | .str value => .ok (.text value)
  | .int value => .ok (.integer value)
  | .bool value => .ok (.boolean value)
  | .number value =>
      match reading.number value with
      | some (.inl n) => .ok (.integer n)
      | some (.inr v) => .ok (.decimal v)
      | none => .error .malformed
  | .array items => .ok (.nested (.array items))
  | .object entries => .ok (.nested (.object entries))
  | .null => .error .malformed

/-- `StrategyAssumption.model_validate` -/
def StrategyAssumption.modelValidate (reading : Reading) (json : Json) :
    Except ValidationError StrategyAssumption := do
  let entries ← fields ["field", "inferred_value", "reason", "confidence",
    "requires_confirmation"] json
  let name ← required entries "field" string
  let inferredValue ← required entries "inferred_value" (FieldValue.modelValidate reading)
  let reason ← required entries "reason" string
  let confidence ← required entries "confidence" (literal AssumptionConfidence.members)
  let requiresConfirmation ← withDefault entries "requires_confirmation" true literalTrue
  return ⟨name, inferredValue, reason, confidence, requiresConfirmation⟩

/-- `AppliedDefault.model_validate` -/
def AppliedDefault.modelValidate (reading : Reading) (json : Json) :
    Except ValidationError AppliedDefault := do
  let entries ← fields ["field", "value", "reason"] json
  let name ← required entries "field" string
  let value ← required entries "value" (FieldValue.modelValidate reading)
  let reason ← required entries "reason" string
  return ⟨name, value, reason⟩

-- ============================================================================
-- What validation gives
-- ============================================================================

/-- The literal of an operand's source. -/
def Operand.SchemaValid : Operand → Prop
  | .indicator _ source _ => source = "close"
  | .price source => source = "close"
  | .constant _ => True

/-- Both operands are within the schema. -/
structure Condition.SchemaValid (condition : Condition) : Prop where
  left : condition.left.SchemaValid
  right : condition.right.SchemaValid

/-- The one value that the schema allows. -/
structure ExecutionSettings.SchemaValid (execution : ExecutionSettings) : Prop where
  direction_eq : execution.direction = "long"
  positionSizePercent_eq : execution.positionSizePercent = 100
  signalExecution_eq : execution.signalExecution = "next_bar_open"

/-- The literals and bounds of a validated specification. -/
structure StrategySpecification.SchemaValid (specification : StrategySpecification) : Prop where
  version_eq : specification.version = "1.0"
  symbol_eq : specification.symbol = "SPY"
  interval_eq : specification.interval = "1d"
  entry : specification.entry.SchemaValid
  exit : specification.exit.SchemaValid
  execution : specification.execution.SchemaValid
  stopLoss : RiskPercentValid specification.stopLossPercent
  takeProfit : RiskPercentValid specification.takeProfitPercent

/-- A value that the union reads back from its dump: not a `Decimal`, which is dumped as
    text. -/
def FieldValue.SelfReading : FieldValue → Prop
  | .text _ | .integer _ | .boolean _ => True
  | .nested (.array _) | .nested (.object _) => True
  | .nested _ | .decimal _ => False

/-- The value is read back as what it is. -/
structure StrategyAssumption.SelfReading (item : StrategyAssumption) : Prop where
  inferredValue : item.inferredValue.SelfReading
  requiresConfirmation_eq : item.requiresConfirmation = true

-- ============================================================================
-- A dump is read back
-- ============================================================================

section ReadBack

variable {reading : Reading} {rendering : Rendering}

theorem Operand.modelValidate_modelDump (h : reading.Inverts rendering) {operand : Operand}
    (hvalid : operand.SchemaValid) :
    Operand.modelValidate reading (operand.modelDump rendering) = .ok operand := by
  cases operand with
  | indicator name source period =>
      obtain rfl : source = "close" := hvalid
      cases name <;> rfl
  | price source =>
      obtain rfl : source = "close" := hvalid
      rfl
  | constant value =>
      have hvalue := converted_of_eq_some (h.decimal value)
      simp [modelValidate, modelDump, required, fields, dict, string, hvalue, List.lookup_cons,
        bind, Except.bind, pure, Except.pure]

theorem Condition.modelValidate_modelDump (h : reading.Inverts rendering)
    {condition : Condition} (hvalid : condition.SchemaValid) :
    Condition.modelValidate reading (condition.modelDump rendering) = .ok condition := by
  have hleft := Operand.modelValidate_modelDump h hvalid.left
  have hright := Operand.modelValidate_modelDump h hvalid.right
  have hoperator : literal Operator.members (.str condition.operator.value) =
      .ok condition.operator := by
    cases condition.operator <;> rfl
  simp [modelValidate, modelDump, required, fields, hleft, hright, hoperator, List.lookup_cons,
    bind, Except.bind, pure, Except.pure]

theorem ExecutionSettings.modelValidate_modelDump {execution : ExecutionSettings}
    (hvalid : execution.SchemaValid) :
    ExecutionSettings.modelValidate execution.modelDump = .ok execution := by
  obtain ⟨direction, positionSizePercent, signalExecution⟩ := execution
  obtain ⟨rfl, rfl, rfl⟩ := hvalid
  rfl

theorem riskPercent_dump (h : reading.Inverts rendering) {value : Option Decimal}
    (hvalid : RiskPercentValid value) :
    riskPercent reading (.ofOption (value.map fun v => .str (rendering.str v))) = .ok value :=
  nullable_ofOption (fun _ _ => nofun) fun v hv =>
    satisfying_of_ok (converted_of_eq_some (h.decimal v)) (hvalid v hv)

/-- A validated specification is what its own dump validates as. -/
theorem StrategySpecification.modelValidate_modelDump (h : reading.Inverts rendering)
    {specification : StrategySpecification} (hvalid : specification.SchemaValid) :
    StrategySpecification.modelValidate reading (specification.modelDump rendering) =
      .ok specification := by
  have hentry := Condition.modelValidate_modelDump h hvalid.entry
  have hexit := Condition.modelValidate_modelDump h hvalid.exit
  have hexecution := ExecutionSettings.modelValidate_modelDump hvalid.execution
  have hstopLoss := riskPercent_dump h hvalid.stopLoss
  have htakeProfit := riskPercent_dump h hvalid.takeProfit
  have hversion : literalString "1.0" (.str specification.version) =
      .ok specification.version := by
    rw [hvalid.version_eq]
    rfl
  have hsymbol : literalString "SPY" (.str specification.symbol) = .ok specification.symbol := by
    rw [hvalid.symbol_eq]
    rfl
  have hinterval : literalString "1d" (.str specification.interval) =
      .ok specification.interval := by
    rw [hvalid.interval_eq]
    rfl
  simp [modelValidate, modelDump, required, withDefault, ifSet, fields, hversion, hsymbol,
    hinterval, hentry, hexit, hexecution, hstopLoss, htakeProfit, List.lookup_cons, bind,
    Except.bind, Except.map, pure, Except.pure]

variable (reading rendering) in
theorem FieldValue.modelValidate_modelDump {value : FieldValue} (hvalue : value.SelfReading) :
    FieldValue.modelValidate reading (value.modelDump rendering) = .ok value := by
  match value, hvalue with
  | .text _, _ | .integer _, _ | .boolean _, _ => rfl
  | .nested (.array _), _ | .nested (.object _), _ => rfl

theorem StrategyAssumption.modelValidate_modelDump {item : StrategyAssumption}
    (hitem : item.SelfReading) :
    StrategyAssumption.modelValidate reading (item.modelDump rendering) = .ok item := by
  have hvalue := FieldValue.modelValidate_modelDump reading rendering hitem.inferredValue
  have hconfidence : literal AssumptionConfidence.members (.str item.confidence.value) =
      .ok item.confidence := by
    cases item.confidence <;> rfl
  have hrequires : literalTrue (.bool item.requiresConfirmation) =
      .ok item.requiresConfirmation := by
    rw [hitem.requiresConfirmation_eq]
    rfl
  simp [modelValidate, modelDump, required, withDefault, ifSet, fields, string, hvalue,
    hconfidence, hrequires, List.lookup_cons, bind, Except.bind, Except.map, pure, Except.pure]

theorem AppliedDefault.modelValidate_modelDump {item : AppliedDefault}
    (hitem : item.value.SelfReading) :
    AppliedDefault.modelValidate reading (item.modelDump rendering) = .ok item := by
  have hvalue := FieldValue.modelValidate_modelDump reading rendering hitem
  simp [modelValidate, modelDump, required, fields, string, hvalue, List.lookup_cons, bind,
    Except.bind, pure, Except.pure]

end ReadBack

-- ============================================================================
-- A validated document is schema-valid
-- ============================================================================

section Inversion

open Python

variable {reading : Reading} {json : Json}

theorem literalString_eq_ok {expected result : String}
    (h : literalString expected json = .ok result) : result = expected := by
  unfold literalString literal at h
  split at h
  · split at h
    · rename_i member hmember
      obtain rfl := Except.ok.inj h
      simp only [List.lookup_cons] at hmember
      split at hmember
      · exact (Option.some.inj hmember).symm
      · cases hmember
    · cases h
  · cases h

theorem riskPercent_eq_ok {value : Option Decimal}
    (h : riskPercent reading json = .ok value) :
    RiskPercentValid value := by
  intro v hv
  obtain ⟨_, hsatisfied⟩ := nullable_eq_ok h v hv
  exact (satisfying_eq_ok hsatisfied).2

theorem Operand.schemaValid_of_modelValidate {operand : Operand}
    (h : Operand.modelValidate reading json = .ok operand) : operand.SchemaValid := by
  obtain ⟨entries, -, h⟩ := bind_eq_ok h
  obtain ⟨type, -, h⟩ := bind_eq_ok h
  split at h
  · obtain ⟨_, -, h⟩ := bind_eq_ok h
    obtain ⟨name, -, h⟩ := bind_eq_ok h
    obtain ⟨source, hsource, h⟩ := bind_eq_ok h
    obtain ⟨period, -, h⟩ := bind_eq_ok h
    obtain ⟨_, hliteral⟩ := required_eq_ok hsource
    cases h
    exact literalString_eq_ok hliteral
  · obtain ⟨_, -, h⟩ := bind_eq_ok h
    obtain ⟨source, hsource, h⟩ := bind_eq_ok h
    obtain ⟨_, hliteral⟩ := required_eq_ok hsource
    cases h
    exact literalString_eq_ok hliteral
  · obtain ⟨_, -, h⟩ := bind_eq_ok h
    obtain ⟨value, -, h⟩ := bind_eq_ok h
    cases h
    trivial
  · cases h

theorem Condition.schemaValid_of_modelValidate {condition : Condition}
    (h : Condition.modelValidate reading json = .ok condition) : condition.SchemaValid := by
  obtain ⟨entries, -, h⟩ := bind_eq_ok h
  obtain ⟨left, hleft, h⟩ := bind_eq_ok h
  obtain ⟨operator, -, h⟩ := bind_eq_ok h
  obtain ⟨right, hright, h⟩ := bind_eq_ok h
  obtain ⟨_, hleft⟩ := required_eq_ok hleft
  obtain ⟨_, hright⟩ := required_eq_ok hright
  cases h
  exact ⟨Operand.schemaValid_of_modelValidate hleft,
    Operand.schemaValid_of_modelValidate hright⟩

theorem ExecutionSettings.schemaValid_of_modelValidate {execution : ExecutionSettings}
    (h : ExecutionSettings.modelValidate json = .ok execution) : execution.SchemaValid := by
  obtain ⟨entries, -, h⟩ := bind_eq_ok h
  obtain ⟨direction, hdirection, h⟩ := bind_eq_ok h
  obtain ⟨size, hsize, h⟩ := bind_eq_ok h
  obtain ⟨signalExecution, hsignal, h⟩ := bind_eq_ok h
  obtain ⟨_, hdirection⟩ := required_eq_ok hdirection
  obtain ⟨_, hsize⟩ := required_eq_ok hsize
  obtain ⟨_, hsignal⟩ := required_eq_ok hsignal
  cases h
  refine ⟨literalString_eq_ok hdirection, ?_, literalString_eq_ok hsignal⟩
  unfold literalInt at hsize
  split at hsize
  · split at hsize
    · rename_i heq
      cases hsize
      exact heq
    · cases hsize
  · cases hsize

theorem StrategySpecification.schemaValid_of_modelValidate
    {specification : StrategySpecification}
    (h : StrategySpecification.modelValidate reading json = .ok specification) :
    specification.SchemaValid := by
  obtain ⟨entries, -, h⟩ := bind_eq_ok h
  obtain ⟨version, hversion, h⟩ := bind_eq_ok h
  obtain ⟨symbol, hsymbol, h⟩ := bind_eq_ok h
  obtain ⟨interval, hinterval, h⟩ := bind_eq_ok h
  obtain ⟨entry, hentry, h⟩ := bind_eq_ok h
  obtain ⟨exit, hexit, h⟩ := bind_eq_ok h
  obtain ⟨execution, hexecution, h⟩ := bind_eq_ok h
  obtain ⟨stopLossPercent, hstopLoss, h⟩ := bind_eq_ok h
  obtain ⟨takeProfitPercent, htakeProfit, h⟩ := bind_eq_ok h
  obtain ⟨_, hsymbol⟩ := required_eq_ok hsymbol
  obtain ⟨_, hinterval⟩ := required_eq_ok hinterval
  obtain ⟨_, hentry⟩ := required_eq_ok hentry
  obtain ⟨_, hexit⟩ := required_eq_ok hexit
  obtain ⟨_, hexecution⟩ := required_eq_ok hexecution
  have hrisk : ∀ {name : String} {value : Option Decimal},
      withDefault entries name none (riskPercent reading) = .ok value →
      RiskPercentValid value := by
    intro name value hvalue
    rcases withDefault_eq_ok hvalue with rfl | ⟨_, hvalidated⟩
    · nofun
    · exact riskPercent_eq_ok hvalidated
  cases h
  refine ⟨?_, literalString_eq_ok hsymbol, literalString_eq_ok hinterval,
    Condition.schemaValid_of_modelValidate hentry, Condition.schemaValid_of_modelValidate hexit,
    ExecutionSettings.schemaValid_of_modelValidate hexecution, hrisk hstopLoss,
    hrisk htakeProfit⟩
  rcases withDefault_eq_ok hversion with rfl | ⟨_, hliteral⟩
  · rfl
  · exact literalString_eq_ok hliteral

end Inversion

end Schemas
end TradingPlatform
