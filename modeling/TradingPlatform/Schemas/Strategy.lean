/-
  TradingPlatform.Schemas.Strategy

  The payloads of the strategies routes, of `app/schemas/strategy.py`.
-/

import TradingPlatform.Schemas.Validation

namespace TradingPlatform
namespace Schemas

open Pydantic

-- ============================================================================
-- Constrained strings
-- ============================================================================

/-- The code points with the Unicode property `White_Space`. -/
def isWhitespace (c : Char) : Bool :=
  (9 ≤ c.val ∧ c.val ≤ 13) ∨ c.val = 0x20 ∨ c.val = 0x85 ∨ c.val = 0xA0 ∨ c.val = 0x1680 ∨
    (0x2000 ≤ c.val ∧ c.val ≤ 0x200A) ∨ c.val = 0x2028 ∨ c.val = 0x2029 ∨ c.val = 0x202F ∨
    c.val = 0x205F ∨ c.val = 0x3000

/-- `strip_whitespace=True` -/
def stripWhitespace (value : String) : String :=
  .ofList ((value.toList.dropWhile isWhitespace).reverse.dropWhile isWhitespace).reverse

/-- `StringConstraints(strip_whitespace=True, min_length=1, max_length=…)` -/
def strippedString (maxLength : Option Nat) : Validator String := fun json => do
  let value ← string json
  let value := stripWhitespace value
  if 1 ≤ value.length ∧ ∀ bound ∈ maxLength, value.length ≤ bound then
    return value
  else
    throw .malformed

/-- `StrategyName` -/
def strategyName : Validator String := strippedString (some 200)

/-- `StrategySourceText` -/
def strategySourceText : Validator String := strippedString none

/-- `StrategyJson` -/
abbrev StrategyJson := List (String × Json)

-- ============================================================================
-- Create and update
-- ============================================================================

/-- The body of a create. -/
structure StrategyCreate where
  name : String
  sourceText : String
  strategyJson : Option StrategyJson
deriving Repr

/-- `StrategyCreate.model_validate` -/
def StrategyCreate.modelValidate (json : Json) : Except ValidationError StrategyCreate := do
  let entries ← fields ["name", "source_text", "strategy_json"] json
  let name ← required entries "name" strategyName
  let sourceText ← required entries "source_text" strategySourceText
  let strategyJson ← withDefault entries "strategy_json" none (nullable dict)
  return ⟨name, sourceText, strategyJson⟩

/-- The fields that a request sets; `strategyJson` may be set to `None`. -/
structure StrategyUpdate where
  name : Option String
  sourceText : Option String
  strategyJson : Option (Option StrategyJson)
deriving Repr

/-- `reject_null_for_required_columns`, for one field that is set or not. -/
def rejectNull (fieldName : String) (value : Option (Option String)) :
    Except ValidationError (Option String) :=
  match value with
  | some none => .error (.valueError (fieldName ++ " cannot be null"))
  | some (some text) => .ok (some text)
  | none => .ok none

/-- `StrategyUpdate.model_validate`; a field that was not sent is not set. -/
def StrategyUpdate.modelValidate (json : Json) : Except ValidationError StrategyUpdate := do
  let entries ← fields ["name", "source_text", "strategy_json"] json
  let name ← ifSet entries "name" (nullable strategyName)
  let sourceText ← ifSet entries "source_text" (nullable strategySourceText)
  let strategyJson ← ifSet entries "strategy_json" (nullable dict)
  let name ← rejectNull "name" name
  let sourceText ← rejectNull "source_text" sourceText
  return ⟨name, sourceText, strategyJson⟩

-- ============================================================================
-- Preview
-- ============================================================================

/-- The body of a preview. -/
structure StrategyPreviewRequest where
  text : String
deriving Repr

/-- `StrategyPreviewRequest.model_validate` -/
def StrategyPreviewRequest.modelValidate (json : Json) :
    Except ValidationError StrategyPreviewRequest := do
  let entries ← fields ["text"] json
  let text ← required entries "text" strategySourceText
  return ⟨text⟩

-- ============================================================================
-- Confirmed save
-- ============================================================================

/-- The body of a confirmed save. -/
structure ConfirmedStrategySaveRequest where
  name : String
  sourceText : String
  specification : StrategySpecification
  defaultsApplied : List AppliedDefault
  assumptions : List StrategyAssumption
  requiresConfirmation : Bool
  confirmed : Bool
deriving Repr

/-- The validator after the fields: the save is confirmed, and the flags match the assumptions. -/
def ConfirmedStrategySaveRequest.validateConfirmationMetadata
    (request : ConfirmedStrategySaveRequest) :
    Except ValidationError ConfirmedStrategySaveRequest :=
  if request.confirmed = false then
    .error (.valueError "Explicit confirmation is required before saving a strategy.")
  else if request.requiresConfirmation ≠ !request.assumptions.isEmpty then
    .error (.valueError "Confirmation metadata does not match the strategy assumptions.")
  else if request.assumptions.any fun assumption => !assumption.requiresConfirmation then
    .error (.valueError "All recorded assumptions must require confirmation.")
  else
    .ok request

/-- `ConfirmedStrategySaveRequest.model_validate` -/
def ConfirmedStrategySaveRequest.modelValidate (reading : Reading) (json : Json) :
    Except ValidationError ConfirmedStrategySaveRequest := do
  let entries ← fields ["name", "source_text", "specification", "defaults_applied",
    "assumptions", "requires_confirmation", "confirmed"] json
  let name ← required entries "name" strategyName
  let sourceText ← required entries "source_text" strategySourceText
  let specification ← required entries "specification"
    (StrategySpecification.modelValidate reading)
  let defaultsApplied ← required entries "defaults_applied"
    (list (AppliedDefault.modelValidate reading))
  let assumptions ← required entries "assumptions"
    (list (StrategyAssumption.modelValidate reading))
  let requiresConfirmation ← required entries "requires_confirmation" (converted reading.bool)
  let confirmed ← required entries "confirmed" (converted reading.bool)
  ConfirmedStrategySaveRequest.validateConfirmationMetadata ⟨name, sourceText, specification,
    defaultsApplied, assumptions, requiresConfirmation, confirmed⟩

/-- What an accepted confirmed save satisfies. -/
structure ConfirmedStrategySaveRequest.Valid (request : ConfirmedStrategySaveRequest) :
    Prop where
  specification : request.specification.SchemaValid
  confirmed_eq : request.confirmed = true
  requiresConfirmation_eq : request.requiresConfirmation = !request.assumptions.isEmpty

/-- The public representation of a strategy row, without its owner. -/
structure StrategyResponse where
  id : Nat
  name : String
  sourceText : String
  strategyJson : Option StrategyJson
  createdAt : Timestamp
  updatedAt : Timestamp
deriving Repr

end Schemas
end TradingPlatform
