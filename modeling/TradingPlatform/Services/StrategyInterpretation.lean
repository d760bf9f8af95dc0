/-
  TradingPlatform.Services.StrategyInterpretation

  The plain-language reading of a parsed strategy, of
  `app/services/strategy_interpretation.py`.  Every function here is total.
-/

import TradingPlatform.Schemas.StrategySpec

namespace TradingPlatform
namespace Services

open Schemas

/-- `format_operand` -/
def formatOperand (rendering : Rendering) (operand : Operand) : String :=
  match operand with
  | .indicator name source period =>
      "the " ++ toString period ++ "-day " ++ name.value.toUpper ++ " of " ++ source
  | .price source => source
  | .constant value => rendering.str value

/-- `format_condition` -/
def formatCondition (rendering : Rendering) (condition : Condition) : String :=
  let operator := condition.operator.value.map fun c => if c = '_' then ' ' else c
  formatOperand rendering condition.left ++ " " ++ operator ++ " " ++
    formatOperand rendering condition.right

/-- `str` of a recorded value. -/
def FieldValue.str (rendering : Rendering) : FieldValue → String
  | .text value => value
  | .integer value => toString value
  | .decimal value => rendering.str value
  | .boolean value => if value then "True" else "False"
  | .nested value => rendering.strNested value

/-- The platform defaults have a label of their own. -/
def formatDefault (rendering : Rendering) (item : AppliedDefault) : String :=
  match item.field with
  | "symbol" => "Symbol: SPY"
  | "interval" => "Daily bars"
  | "execution.direction" => "Long-only"
  | "execution.position_size_percent" => "Use 100% of available cash"
  | "execution.signal_execution" => "Execute on the next available trading day's open"
  | field => field ++ ": " ++ FieldValue.str rendering item.value

/-- `format_risk_controls` -/
def formatRiskControls (rendering : Rendering) (result : ParsedStrategyResult) : String :=
  let stopLoss := result.specification.stopLossPercent.map fun v =>
    rendering.general v ++ "% stop loss"
  let takeProfit := result.specification.takeProfitPercent.map fun v =>
    rendering.general v ++ "% take profit"
  let controls := stopLoss.toList ++ takeProfit.toList
  if controls.isEmpty then "None."
  else "Use " ++ String.intercalate " and " controls ++ " relative to the entry fill price."

/-- `interpret_strategy`: the text that the user confirms. -/
def interpretStrategy (rendering : Rendering) (result : ParsedStrategyResult) : String :=
  let specification := result.specification
  let bulleted (items : List String) : List String :=
    if items.isEmpty then ["- None."] else items.map ("- " ++ ·)
  String.intercalate "\n" (
    ["Interpreted strategy:",
      "Buy " ++ specification.symbol ++ " when " ++
        formatCondition rendering specification.entry ++ ".",
      "Sell when " ++ formatCondition rendering specification.exit ++ ".",
      "Risk controls: " ++ formatRiskControls rendering result,
      "",
      "Platform defaults applied:"] ++
    bulleted (result.defaultsApplied.map (formatDefault rendering)) ++
    ["", "Assumptions made:"] ++
    bulleted (result.assumptions.map (·.reason)) ++
    ["", "Confirmation required: " ++ if result.requiresConfirmation then "Yes" else "No"])

end Services
end TradingPlatform
