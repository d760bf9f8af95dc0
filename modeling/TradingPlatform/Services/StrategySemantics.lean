/-
  TradingPlatform.Services.StrategySemantics

  `validate_strategy_semantics` of `app/services/strategy_semantics.py`, and what
  acceptance by it gives.  A membership test of an enumeration in its own member
  set (`operator not in set(Operator)`) cannot fail and has no branch here; a
  `Decimal` here is always finite.
-/

import TradingPlatform.Schemas.StrategySpec

namespace TradingPlatform
namespace Schemas

-- ============================================================================
-- What acceptance gives
-- ============================================================================

/-- An operand the compiler can evaluate: indicator periods run from 1 to 1000. -/
def Operand.Valid : Operand → Prop
  | .indicator _ _ period => 1 ≤ period ∧ period ≤ 1000
  | _ => True

/-- Both operands are supported. -/
structure Condition.Valid (condition : Condition) : Prop where
  left : condition.left.Valid
  right : condition.right.Valid

/-- A configured risk percentage in the supported range. -/
def RiskPercentValid (value : Option Decimal) : Prop :=
  ∀ v ∈ value, 0 < v ∧ v ≤ maxRiskPercent

/-- The part of acceptance that execution relies on. -/
structure StrategySpecification.Valid (specification : StrategySpecification) : Prop where
  symbol_eq : specification.symbol = "SPY"
  interval_eq : specification.interval = "1d"
  entry : specification.entry.Valid
  exit : specification.exit.Valid
  stopLoss : RiskPercentValid specification.stopLossPercent
  takeProfit : RiskPercentValid specification.takeProfitPercent

end Schemas

namespace Services

open Schemas

-- ============================================================================
-- The validator
-- ============================================================================

/-- Raise `StrategyValidationError(message)` unless the check passes. -/
def require (check : Prop) [Decidable check] (message : String) : Except PyError Unit :=
  if check then .ok () else .error (.strategyValidationError message)

/-- `validate_risk_percent` -/
def validateRiskPercent (value : Option Decimal) (label : String) : Except PyError Unit :=
  match value with
  | none => .ok ()
  | some v =>
      require (¬ (v ≤ 0 ∨ v > maxRiskPercent))
        (label ++ " must be greater than 0% and no greater than 50%.")

/-- `validate_operand` -/
def validateOperand (operand : Operand) : Except PyError Unit :=
  match operand with
  | .indicator _ source period => do
      require (source = "close") "Only raw close price is currently supported."
      require (1 ≤ period ∧ period ≤ 1000)
        "Indicator periods must be positive integers no greater than 1,000."
  | .price source => require (source = "close") "Only raw close price is currently supported."
  | .constant _ => .ok ()

/-- `validate_condition`: the left operand first. -/
def validateCondition (condition : Condition) : Except PyError Unit := do
  validateOperand condition.left
  validateOperand condition.right

/-- Deterministic-execution constraints beyond the schema's shape checks. -/
def validateStrategySemantics (specification : StrategySpecification) :
    Except PyError Unit := do
  require (specification.symbol = "SPY") "Only SPY is supported in version 1."
  require (specification.interval = "1d") "Only daily (1d) bars are supported in version 1."
  require (specification.execution.direction = "long")
    "Only long-only strategies are supported in version 1."
  require (specification.execution.positionSizePercent = 100)
    "Position size must be exactly 100% in version 1."
  require (specification.execution.signalExecution = "next_bar_open")
    "Signals must execute at the next available bar open."
  validateCondition specification.entry
  validateCondition specification.exit
  validateRiskPercent specification.stopLossPercent "Stop-loss"
  validateRiskPercent specification.takeProfitPercent "Take-profit"

-- ============================================================================
-- An accepted specification is valid
-- ============================================================================

theorem require_eq_ok {check : Prop} [Decidable check] {message : String} :
    require check message = .ok () ↔ check := by
  unfold require
  split <;> simp [*]

/-- Two checks in sequence pass when both do. -/
theorem bind_eq_ok {first second : Except PyError Unit} :
    (first >>= fun _ => second) = .ok () ↔ first = .ok () ∧ second = .ok () := by
  cases first with
  | error e => simp [bind, Except.bind]
  | ok u => simp [bind, Except.bind]

theorem validateRiskPercent_eq_ok {value : Option Decimal} {label : String} :
    validateRiskPercent value label = .ok () ↔ RiskPercentValid value := by
  cases value with
  | none => simp [validateRiskPercent, RiskPercentValid]
  | some v => simp [validateRiskPercent, RiskPercentValid, require_eq_ok]

theorem validateOperand_valid {operand : Operand} (h : validateOperand operand = .ok ()) :
    operand.Valid := by
  cases operand with
  | indicator name source period =>
      have hperiod : 1 ≤ period ∧ period ≤ 1000 := require_eq_ok.mp (bind_eq_ok.mp h).2
      exact hperiod
  | price source => trivial
  | constant value => trivial

theorem validateCondition_valid {condition : Condition}
    (h : validateCondition condition = .ok ()) : condition.Valid :=
  have hboth := bind_eq_ok.mp h
  ⟨validateOperand_valid hboth.1, validateOperand_valid hboth.2⟩

theorem validateStrategySemantics_valid {specification : StrategySpecification}
    (h : validateStrategySemantics specification = .ok ()) :
    specification.Valid := by
  simp only [validateStrategySemantics, bind_eq_ok, require_eq_ok,
    validateRiskPercent_eq_ok] at h
  obtain ⟨hsymbol, hinterval, -, -, -, hentry, hexit, hstop, htake⟩ := h
  exact ⟨hsymbol, hinterval, validateCondition_valid hentry, validateCondition_valid hexit,
    hstop, htake⟩

end Services
end TradingPlatform
