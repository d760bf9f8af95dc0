/-
  TradingPlatform.Services.StrategyParser

  `normalize_strategy_draft` of `app/services/strategy_parser.py`: a provider's
  draft becomes a specification, with the defaults and the assumptions that
  were made on the way.

  The two lists that the source appends to are passed along as `Recorded`.
  What the regular expressions of `strategy_semantics.py` find in a text is
  `TextRecognition`, and nothing below depends on what they find.  As in the
  specification, a field restricted to a literal keeps its plain type.

  `normalizeStrategyDraft_spec`: a result is schema-valid, accepted by the
  semantic validator, and every recorded value reads back from its dump.
-/

import Mathlib.Data.List.Sort
import TradingPlatform.Backtesting.Ledger
import TradingPlatform.Schemas.Validation

namespace TradingPlatform
namespace Schemas

-- ============================================================================
-- Drafts
-- ============================================================================

/-- `Literal["indicator", "price", "constant"]` -/
inductive OperandType where
  | indicator
  | price
  | constant
deriving DecidableEq, Repr

/-- The text of a type. -/
def OperandType.value : OperandType → String
  | .indicator => "indicator"
  | .price => "price"
  | .constant => "constant"

/-- An operand as the provider returns it. -/
structure OperandDraft where
  type : OperandType
  name : Option IndicatorName
  source : Option String
  period : Option Int
  value : Option Decimal
deriving DecidableEq, Repr

/-- A condition as the provider returns it. -/
structure ConditionDraft where
  left : OperandDraft
  operator : Option Operator
  right : OperandDraft
deriving DecidableEq, Repr

/-- A strategy as the provider returns it; what the text leaves open is `None`. -/
structure StrategyParseDraft where
  symbol : Option String
  interval : Option String
  entry : Option ConditionDraft
  exit : Option ConditionDraft
  direction : Option String
  positionSizePercent : Option Int
  signalExecution : Option String
deriving DecidableEq, Repr

/-- `model_dump` of an operand. -/
def OperandDraft.modelDump (rendering : Rendering) (operand : OperandDraft) : Json :=
  .object [("type", .str operand.type.value),
    ("name", .ofOption (operand.name.map fun name => .str name.value)),
    ("source", .ofOption (operand.source.map .str)),
    ("period", .ofOption (operand.period.map .int)),
    ("value", .ofOption (operand.value.map fun v => .str (rendering.str v)))]

/-- `model_dump` of a condition. -/
def ConditionDraft.modelDump (rendering : Rendering) (condition : ConditionDraft) : Json :=
  .object [("left", condition.left.modelDump rendering),
    ("operator", .ofOption (condition.operator.map fun operator => .str operator.value)),
    ("right", condition.right.modelDump rendering)]

end Schemas

namespace Services

open Schemas Backtesting

-- ============================================================================
-- What is recognized in a text
-- ============================================================================

/-- What a shorthand stands for: two periods, and the crossing that enters. -/
structure NormalizationHint where
  name : String
  shortPeriod : Int
  longPeriod : Int
  bullishEntry : Bool
deriving DecidableEq, Repr

/-- The results of the regular expressions on a text: the percentages that the patterns of a
    risk control match, in order, whether its phrase occurs, and `find_normalization_hint`. -/
structure TextRecognition where
  stopLossPercents : String → List Decimal
  mentionsStopLoss : String → Bool
  takeProfitPercents : String → List Decimal
  mentionsTakeProfit : String → Bool
  findNormalizationHint : String → Except PyError (Option NormalizationHint)

/-- A text in which neither a percentage nor a shorthand is found. -/
def plainText : TextRecognition where
  stopLossPercents _ := []
  mentionsStopLoss _ := false
  takeProfitPercents _ := []
  mentionsTakeProfit _ := false
  findNormalizationHint _ := .ok none

/-- The message of a control with several percentages, in ascending order. -/
def conflictMessage (rendering : Rendering) (label : String) (values : List Decimal) : String :=
  "Conflicting " ++ label ++ " percentages were provided: " ++
    String.intercalate ", " ((values.insertionSort (· ≤ ·)).map fun v =>
      rendering.str v ++ "%") ++ "."

/-- `extract_control_percent`, from what its patterns match; equal values are one. -/
def extractControlPercent (rendering : Rendering) (matched : List Decimal) (mentioned : Bool)
    (label lowerLabel : String) : Except PyError (Option Decimal) :=
  match matched.eraseDups with
  | [] =>
      if mentioned then
        .error (.strategyValidationError (label ++ " must be an explicit percentage greater " ++
          "than 0% and no greater than 50%."))
      else
        .ok none
  | [value] => do
      validateRiskPercent (some value) label
      return some value
  | values => .error (.strategyValidationError (conflictMessage rendering lowerLabel values))

/-- `extract_risk_controls` -/
def extractRiskControls (rendering : Rendering) (recognition : TextRecognition)
    (strategyText : String) : Except PyError RiskControls := do
  let stopLoss ← extractControlPercent rendering (recognition.stopLossPercents strategyText)
    (recognition.mentionsStopLoss strategyText) "Stop-loss" "stop-loss"
  let takeProfit ← extractControlPercent rendering
    (recognition.takeProfitPercents strategyText)
    (recognition.mentionsTakeProfit strategyText) "Take-profit" "take-profit"
  return ⟨stopLoss, takeProfit⟩

-- ============================================================================
-- Defaults and assumptions
-- ============================================================================

/-- `defaults` and `assumptions`, as far as they have been recorded. -/
structure Recorded where
  defaults : List AppliedDefault
  assumptions : List StrategyAssumption
deriving Repr

/-- A default is recorded. -/
def Recorded.applyDefault (recorded : Recorded) (field : String) (value : FieldValue)
    (reason : String) : Recorded :=
  { recorded with defaults := recorded.defaults ++ [⟨field, value, reason⟩] }

/-- `assumptions.append(assumption(…))` -/
def Recorded.assume (recorded : Recorded) (field : String) (inferredValue : FieldValue)
    (reason : String) : Recorded :=
  { recorded with
    assumptions := recorded.assumptions ++ [⟨field, inferredValue, reason, .high, true⟩] }

/-- A field of the draft, or its fixed value, recorded as a default. -/
def Recorded.orDefault {α : Type} (recorded : Recorded) (embed : α → FieldValue)
    (draft : Option α) (field : String) (value : α) (reason : String) : α × Recorded :=
  match draft with
  | some given => (given, recorded)
  | none => (value, recorded.applyDefault field (embed value) reason)

/-- The source of an operand, "close" by default. -/
def Recorded.sourceOrDefault (recorded : Recorded) (source : Option String)
    (fieldName : String) : String × Recorded :=
  recorded.orDefault .text source (fieldName ++ ".source") "close"
    "Raw close price is the fixed source in version 1."

-- ============================================================================
-- Rules
-- ============================================================================

/-- `normalize_operand`: what the draft leaves open is filled in and recorded. -/
def normalizeOperand (operand : OperandDraft) (fieldName : String) (recorded : Recorded) :
    Except PyError (Operand × Recorded) :=
  match operand.type with
  | .indicator =>
      match operand.period with
      | none => .error (.strategyValidationError
          ("Specify the moving-average period for " ++ fieldName ++ "."))
      | some period =>
          let (name, recorded) := match operand.name with
            | some name => (name, recorded)
            | none => (.sma, recorded.assume (fieldName ++ ".name") (.text "sma")
                ("Unspecified moving-average type for " ++ fieldName ++
                  " was interpreted as SMA."))
          let (source, recorded) := recorded.sourceOrDefault operand.source fieldName
          .ok (.indicator name source period, recorded)
  | .price =>
      let (source, recorded) := recorded.sourceOrDefault operand.source fieldName
      .ok (.price source, recorded)
  | .constant =>
      match operand.value with
      | none => .error (.strategyValidationError
          ("Specify the numeric constant for " ++ fieldName ++ "."))
      | some value => .ok (.constant value, recorded)

/-- `normalize_condition`: an operator is never filled in. -/
def normalizeCondition (condition : ConditionDraft) (fieldName : String)
    (recorded : Recorded) : Except PyError (Condition × Recorded) :=
  match condition.operator with
  | none => .error (.strategyValidationError
      ("Specify the comparison operator for the " ++ fieldName ++ " rule."))
  | some operator => do
      let (left, recorded) ←
        normalizeOperand condition.left (fieldName ++ ".left") recorded
      let (right, recorded) ←
        normalizeOperand condition.right (fieldName ++ ".right") recorded
      return (⟨left, operator, right⟩, recorded)

/-- `crossover_draft` -/
def crossoverDraft (shortPeriod longPeriod : Int) (operator : Operator) : ConditionDraft where
  left := ⟨.indicator, none, none, some shortPeriod, none⟩
  operator := some operator
  right := ⟨.indicator, none, none, some longPeriod, none⟩

/-- `opposite_crossover_draft` -/
def oppositeCrossoverDraft (condition : ConditionDraft) : Except PyError ConditionDraft :=
  match condition.operator with
  | some .crossesAbove => .ok { condition with operator := some .crossesBelow }
  | some .crossesBelow => .ok { condition with operator := some .crossesAbove }
  | _ => .error (.strategyValidationError
      "An omitted rule can be inferred only from a supported crossover condition.")

/-- The rules of a shorthand, in the order entry and exit. -/
def inferShorthandPair (rendering : Rendering) (hint : NormalizationHint)
    (recorded : Recorded) : ConditionDraft × ConditionDraft × Recorded :=
  let bullish := crossoverDraft hint.shortPeriod hint.longPeriod .crossesAbove
  let bearish := crossoverDraft hint.shortPeriod hint.longPeriod .crossesBelow
  let (entry, exit) := if hint.bullishEntry then (bullish, bearish) else (bearish, bullish)
  (entry, exit, recorded.assume "entry_and_exit"
    (.nested (.object [("entry", entry.modelDump rendering), ("exit", exit.modelDump rendering)]))
    ("The " ++ hint.name ++ " was interpreted as " ++ toString hint.shortPeriod ++
      "-day SMA and " ++ toString hint.longPeriod ++ "-day SMA crossover rules."))

/-- The two rules to normalize: as drafted, inferred from a shorthand, or one as the opposite
    of the other. -/
def resolveRules (rendering : Rendering) (recognition : TextRecognition)
    (draft : StrategyParseDraft) (originalText : String) (recorded : Recorded) :
    Except PyError (ConditionDraft × ConditionDraft × Recorded) :=
  match draft.entry, draft.exit with
  | some entry, some exit => .ok (entry, exit, recorded)
  | none, some exit => do
      let entry ← oppositeCrossoverDraft exit
      return (entry, exit, recorded.assume "entry" (.nested (entry.modelDump rendering))
        "No entry rule was provided, so the opposite crossover was used as the entry.")
  | some entry, none => do
      let exit ← oppositeCrossoverDraft entry
      return (entry, exit, recorded.assume "exit" (.nested (exit.modelDump rendering))
        "No exit rule was provided, so the opposite crossover was used as the exit.")
  | none, none => do
      match ← recognition.findNormalizationHint originalText with
      | some hint => return inferShorthandPair rendering hint recorded
      | none => throw (.strategyValidationError
          "Specify an entry and exit rule, or use a supported crossover shorthand.")

-- ============================================================================
-- The draft
-- ============================================================================

/-- Apply fixed defaults and the small, user-visible assumption set. -/
def normalizeStrategyDraft (rendering : Rendering) (recognition : TextRecognition)
    (draft : StrategyParseDraft) (originalText : String) :
    Except PyError ParsedStrategyResult := do
  let recorded : Recorded := ⟨[], []⟩
  let (symbol, recorded) := recorded.orDefault .text draft.symbol "symbol" "SPY"
    "SPY is the only supported symbol."
  let (interval, recorded) := recorded.orDefault .text draft.interval "interval" "1d"
    "Daily bars are fixed in version 1."
  let (direction, recorded) := recorded.orDefault .text draft.direction
    "execution.direction" "long" "Long-only execution is fixed in version 1."
  let (positionSize, recorded) := recorded.orDefault .integer draft.positionSizePercent
    "execution.position_size_percent" 100
    "Position sizing is fixed at 100% of available cash in version 1."
  let (signalExecution, recorded) := recorded.orDefault .text draft.signalExecution
    "execution.signal_execution" "next_bar_open"
    "Signals execute at the next available trading bar open in version 1."
  let (entryDraft, exitDraft, recorded) ←
    resolveRules rendering recognition draft originalText recorded
  let riskControls ← extractRiskControls rendering recognition originalText
  let (entry, recorded) ← normalizeCondition entryDraft "entry" recorded
  let (exit, recorded) ← normalizeCondition exitDraft "exit" recorded
  let specification : StrategySpecification :=
    { version := "1.0"
      symbol := symbol
      interval := interval
      entry := entry
      exit := exit
      execution := ⟨direction, positionSize, signalExecution⟩
      stopLossPercent := riskControls.stopLossPercent
      takeProfitPercent := riskControls.takeProfitPercent }
  validateStrategySemantics specification
  return {
    specification := specification
    assumptions := recorded.assumptions
    defaultsApplied := recorded.defaults
    requiresConfirmation := !recorded.assumptions.isEmpty
    originalText := originalText }

-- ============================================================================
-- What is recorded reads back
-- ============================================================================

/-- Recorded values that are read back as what they are. -/
structure Recorded.SelfReading (recorded : Recorded) : Prop where
  defaults : ∀ item ∈ recorded.defaults, item.value.SelfReading
  assumptions : ∀ item ∈ recorded.assumptions, item.SelfReading

theorem selfReading_text (value : String) : (FieldValue.text value).SelfReading := trivial

theorem selfReading_integer (value : Int) : (FieldValue.integer value).SelfReading := trivial

section Recorded

variable {recorded : Recorded} {field : String} {value : FieldValue} {reason : String}

theorem Recorded.SelfReading.applyDefault (h : recorded.SelfReading)
    (hvalue : value.SelfReading) : (recorded.applyDefault field value reason).SelfReading where
  defaults := by
    intro item hitem
    rcases List.mem_append.mp hitem with hold | hnew
    · exact h.defaults item hold
    · obtain rfl := List.mem_singleton.mp hnew
      exact hvalue
  assumptions := h.assumptions

theorem Recorded.SelfReading.assume (h : recorded.SelfReading) (hvalue : value.SelfReading) :
    (recorded.assume field value reason).SelfReading where
  defaults := h.defaults
  assumptions := by
    intro item hitem
    rcases List.mem_append.mp hitem with hold | hnew
    · exact h.assumptions item hold
    · obtain rfl := List.mem_singleton.mp hnew
      exact ⟨hvalue, rfl⟩

theorem Recorded.SelfReading.orDefault {α : Type} (h : recorded.SelfReading)
    {embed : α → FieldValue} (hembed : ∀ v, (embed v).SelfReading) (draft : Option α)
    (field : String) (value : α) (reason : String) :
    (recorded.orDefault embed draft field value reason).2.SelfReading := by
  cases draft with
  | some given => exact h
  | none => exact h.applyDefault (hembed value)

theorem Recorded.SelfReading.sourceOrDefault (h : recorded.SelfReading)
    (source : Option String) (fieldName : String) :
    (recorded.sourceOrDefault source fieldName).2.SelfReading :=
  h.orDefault selfReading_text ..

theorem normalizeOperand_selfReading {operand : OperandDraft} {fieldName : String}
    {result : Operand × Recorded} (h : recorded.SelfReading)
    (hresult : normalizeOperand operand fieldName recorded = .ok result) :
    result.2.SelfReading := by
  unfold normalizeOperand at hresult
  split at hresult
  · split at hresult
    · cases hresult
    · obtain rfl := Except.ok.inj hresult
      refine Recorded.SelfReading.sourceOrDefault ?_ ..
      split
      · exact h
      · exact h.assume trivial
  · obtain rfl := Except.ok.inj hresult
    exact h.sourceOrDefault ..
  · split at hresult
    · cases hresult
    · obtain rfl := Except.ok.inj hresult
      exact h

theorem normalizeCondition_selfReading {condition : ConditionDraft} {fieldName : String}
    {result : Condition × Recorded} (h : recorded.SelfReading)
    (hresult : normalizeCondition condition fieldName recorded = .ok result) :
    result.2.SelfReading := by
  unfold normalizeCondition at hresult
  split at hresult
  · cases hresult
  · obtain ⟨left, hleft, hresult⟩ := Python.bind_eq_ok hresult
    obtain ⟨right, hright, hresult⟩ := Python.bind_eq_ok hresult
    obtain rfl := Except.ok.inj hresult
    exact normalizeOperand_selfReading (normalizeOperand_selfReading h hleft) hright

theorem resolveRules_selfReading {rendering : Rendering} {recognition : TextRecognition}
    {draft : StrategyParseDraft} {originalText : String}
    {result : ConditionDraft × ConditionDraft × Recorded} (h : recorded.SelfReading)
    (hresult : resolveRules rendering recognition draft originalText recorded = .ok result) :
    result.2.2.SelfReading := by
  unfold resolveRules at hresult
  split at hresult
  · obtain rfl := Except.ok.inj hresult
    exact h
  · obtain ⟨entry, -, hresult⟩ := Python.bind_eq_ok hresult
    obtain rfl := Except.ok.inj hresult
    exact h.assume trivial
  · obtain ⟨exit, -, hresult⟩ := Python.bind_eq_ok hresult
    obtain rfl := Except.ok.inj hresult
    exact h.assume trivial
  · obtain ⟨hint, -, hresult⟩ := Python.bind_eq_ok hresult
    split at hresult
    · obtain rfl := Except.ok.inj hresult
      exact h.assume trivial
    · cases hresult

end Recorded

-- ============================================================================
-- Results are valid
-- ============================================================================

theorem validateOperand_schemaValid {operand : Operand}
    (h : validateOperand operand = .ok ()) : operand.SchemaValid := by
  cases operand with
  | indicator name source period =>
      have hsource : source = "close" := require_eq_ok.mp (bind_eq_ok.mp h).1
      exact hsource
  | price source =>
      have hsource : source = "close" := require_eq_ok.mp h
      exact hsource
  | constant value => trivial

theorem validateCondition_schemaValid {condition : Condition}
    (h : validateCondition condition = .ok ()) : condition.SchemaValid :=
  have hboth := bind_eq_ok.mp h
  ⟨validateOperand_schemaValid hboth.1, validateOperand_schemaValid hboth.2⟩

/-- The semantic validator checks every literal but the version. -/
theorem validateStrategySemantics_schemaValid {specification : StrategySpecification}
    (hversion : specification.version = "1.0")
    (h : validateStrategySemantics specification = .ok ()) : specification.SchemaValid := by
  simp only [validateStrategySemantics, bind_eq_ok, require_eq_ok,
    validateRiskPercent_eq_ok] at h
  obtain ⟨hsymbol, hinterval, hdirection, hsize, hsignal, hentry, hexit, hstop, htake⟩ := h
  exact ⟨hversion, hsymbol, hinterval, validateCondition_schemaValid hentry,
    validateCondition_schemaValid hexit, ⟨hdirection, hsize, hsignal⟩, hstop, htake⟩

/-- What a normalized draft satisfies. -/
structure ParsedResultValid (originalText : String) (result : ParsedStrategyResult) : Prop where
  semantics : validateStrategySemantics result.specification = .ok ()
  specification : result.specification.SchemaValid
  defaultsApplied : ∀ item ∈ result.defaultsApplied, item.value.SelfReading
  assumptions : ∀ item ∈ result.assumptions, item.SelfReading
  requiresConfirmation_eq : result.requiresConfirmation = !result.assumptions.isEmpty
  originalText_eq : result.originalText = originalText

theorem normalizeStrategyDraft_spec {rendering : Rendering} {recognition : TextRecognition}
    {draft : StrategyParseDraft} {originalText : String} {result : ParsedStrategyResult}
    (h : normalizeStrategyDraft rendering recognition draft originalText = .ok result) :
    ParsedResultValid originalText result := by
  obtain ⟨⟨entryDraft, exitDraft, afterRules⟩, hrules, h⟩ := Python.bind_eq_ok h
  obtain ⟨riskControls, -, h⟩ := Python.bind_eq_ok h
  obtain ⟨⟨entry, afterEntry⟩, hentry, h⟩ := Python.bind_eq_ok h
  obtain ⟨⟨exit, afterExit⟩, hexit, h⟩ := Python.bind_eq_ok h
  obtain ⟨⟨⟩, hsemantics, h⟩ := Python.bind_eq_ok h
  obtain rfl := Except.ok.inj h
  have hrecorded : afterExit.SelfReading := by
    refine normalizeCondition_selfReading (normalizeCondition_selfReading ?_ hentry) hexit
    refine resolveRules_selfReading ?_ hrules
    have hempty : (Recorded.mk [] []).SelfReading := ⟨nofun, nofun⟩
    exact ((((hempty.orDefault selfReading_text ..).orDefault selfReading_text ..).orDefault
      selfReading_text ..).orDefault selfReading_integer ..).orDefault selfReading_text ..
  exact ⟨hsemantics, validateStrategySemantics_schemaValid rfl hsemantics, hrecorded.defaults,
    hrecorded.assumptions, rfl, rfl⟩

end Services
end TradingPlatform
