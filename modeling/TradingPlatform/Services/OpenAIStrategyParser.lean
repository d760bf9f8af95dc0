/-
  TradingPlatform.Services.OpenAIStrategyParser

  `OpenAIStrategyParser.parse` of `app/services/strategy_parser.py` and the
  adapter of the OpenAI SDK it asks for a draft.

  The SDK is outside: what a call of `responses.parse` ends in is
  `ResponseOutcome`.  A response that carries a parsed draft is used as it is;
  of any other only the dump is read, for a refusal.

  `parse_emptyDraft_iff`: which texts are understood when the provider leaves
  everything out, and as which specification.
-/

import TradingPlatform.Services.RiskPhrases
import TradingPlatform.Services.ShorthandOrientation
import TradingPlatform.Services.StrategyPreview
import TradingPlatform.Services.StrategyTextChecks

namespace TradingPlatform
namespace Services

open Python Schemas Backtesting Regex Pattern

/-- `Environment` of `app/core/config.py` -/
inductive Environment where
  | «local»
  | test
  | staging
  | production
deriving DecidableEq, Repr

/-- `StrategyParserError`, its subclasses, and what the application's own checks raise. -/
inductive ParserError where
  | strategyParserError (message : String)
  | strategyProviderError (message : String)
  | strategyProviderRefusalError (message : String)
  | strategyProviderTimeoutError (message : String)
  | strategyMalformedOutputError (message : String)
  | pipeline (error : PyError)
deriving DecidableEq, Repr

-- ============================================================================
-- The provider
-- ============================================================================

/-- `StructuredStrategyProvider`: `parse` of a model's name and a text. -/
abbrev StructuredStrategyProvider := String → String → Except ParserError StrategyParseDraft

/-- A message of the request. -/
structure InputMessage where
  role : String
  content : String
deriving DecidableEq, Repr

/-- The arguments of `responses.parse`; the text format is always `StrategyParseDraft`. -/
structure ResponseRequest where
  model : String
  input : List InputMessage
deriving DecidableEq, Repr

/-- How a call of the SDK ends. -/
inductive ResponseOutcome where
  /-- the built-in `TimeoutError` -/
  | timeoutError
  /-- any other exception: `type(error).__name__` and `str(error)` -/
  | raised (className message : String)
  /-- `response.output_parsed` and `response.model_dump(mode="python")` -/
  | returned (outputParsed : Option StrategyParseDraft) (modelDump : Json)

/-- The SDK with an API key; `None` when it cannot be imported. -/
abbrev OpenAI := Option (String → ResponseRequest → ResponseOutcome)

/-- The first message of every request. -/
def systemPrompt : String :=
  "Translate only the user's strategy into the supplied strict schema. " ++
  "Do not write code, SQL, explanations, or market-data analysis. " ++
  "Leave omitted fields null in the draft rather than inventing values. " ++
  "Recognize only close price, SMA, EMA, numeric constants, and the " ++
  "supported comparison/crossover operators. Percentage stop-loss and " ++
  "take-profit controls are handled separately by deterministic " ++
  "application code; do not encode them as entry or exit conditions."

/-- `value.get(key)`, of a value that may not be a dictionary. -/
def dictGet (key : String) : Json → Option Json
  | .object fields => fields.lookup key
  | _ => none

/-- `response_contains_refusal` -/
def responseContainsRefusal (response : Json) : Bool :=
  match dictGet "output" response with
  | some (.array output) => output.any fun item =>
      match dictGet "content" item with
      | some (.array content) => content.any fun part =>
          dictGet "type" part == some (.str "refusal")
      | _ => false
  | _ => false

/-- The provider's own text is shown in a local environment only. -/
def providerErrorMessage (environment : Environment) (className message : String) : String :=
  if environment = .local then
    "The strategy parser provider returned " ++ className ++ ": " ++ message
  else
    "The strategy parser provider returned an error."

/-- `OpenAIResponsesProvider(api_key)`, as the parser uses it: its `parse`. -/
def openAIResponsesProvider (environment : Environment) (sdk : OpenAI) (apiKey : String) :
    Except ParserError StructuredStrategyProvider :=
  match sdk with
  | none => .error (.strategyProviderError "OpenAI SDK is not installed.")
  | some client => .ok fun model strategyText =>
      match client apiKey ⟨model, [⟨"system", systemPrompt⟩, ⟨"user", strategyText⟩]⟩ with
      | .timeoutError => .error (.strategyProviderTimeoutError
          "The strategy parser timed out. Please try again.")
      | .raised className message =>
          if className = "APITimeoutError" then
            .error (.strategyProviderTimeoutError
              "The strategy parser timed out. Please try again.")
          else
            .error (.strategyProviderError (providerErrorMessage environment className message))
      | .returned (some parsed) _ => .ok parsed
      | .returned none modelDump =>
          if responseContainsRefusal modelDump then
            .error (.strategyProviderRefusalError "The strategy parser refused this request.")
          else
            .error (.strategyMalformedOutputError
              "The strategy parser returned malformed structured output.")

-- ============================================================================
-- The parser
-- ============================================================================

/-- The parser with its settings; the factory makes the provider of a key. -/
structure OpenAIStrategyParser where
  apiKey : Option String
  model : Option String
  providerFactory : String → Except ParserError StructuredStrategyProvider

/-- A setting that is neither missing nor empty, or the parser's error. -/
def requireSetting (setting : Option String) (message : String) : Except ParserError String :=
  match setting with
  | none => .error (.strategyParserError message)
  | some value => if value = "" then .error (.strategyParserError message) else .ok value

section Parse

variable (word : Char → Bool) (lower : String → String) (rendering : Rendering)

/-- `parse`: the text is validated before a provider sees it, and the draft is normalized. -/
def OpenAIStrategyParser.parse (parser : OpenAIStrategyParser) (strategyText : String) :
    Except ParserError ParsedStrategyResult := do
  if strip strategyText = "" then
    throw (.pipeline (.strategyValidationError "Enter a strategy description."))
  (validateStrategyText word lower rendering strategyText).mapError .pipeline
  let apiKey ← requireSetting parser.apiKey "OPENAI_API_KEY is required to parse a strategy."
  let model ← requireSetting parser.model "OPENAI_MODEL is required to parse a strategy."
  let provider ← parser.providerFactory apiKey
  let draft ← provider model strategyText
  (normalizeStrategyDraft rendering (textRecognition word lower) draft strategyText).mapError
    .pipeline

end Parse

-- ============================================================================
-- Extracted controls
-- ============================================================================

section Controls

variable {word : Char → Bool} {lower : String → String} {rendering : Rendering} {text : String}

theorem percentOf_toOption {label label' : String} {capture : Capture} {value : Decimal}
    (h : percentOf label capture = .ok value) :
    (percentOf label' capture).toOption = some value := by
  unfold percentOf at h ⊢
  cases hread : decimalOfText (.ofList capture.text) with
  | none =>
      rw [hread] at h
      cases h
  | some numeral =>
      cases numeral with
      | finite read =>
          rw [hread] at h
          exact congrArg some (Except.ok.inj h)
      | _ =>
          rw [hread] at h
          cases h

/-- Captures that are all read are the recognized ones. -/
theorem filterMap_percentOf {label : String} (captures : List Capture) :
    ∀ {values : List Decimal}, captures.mapM (percentOf label) = .ok values →
      captures.filterMap (fun capture => (percentOf "" capture).toOption) = values := by
  induction captures with
  | nil =>
      intro values h
      exact Except.ok.inj h
  | cons capture captures ih =>
      intro values h
      rw [List.mapM_cons] at h
      obtain ⟨value, hvalue, h⟩ := Python.bind_eq_ok h
      obtain ⟨rest, hrest, h⟩ := Python.bind_eq_ok h
      obtain rfl := Except.ok.inj h
      rw [List.filterMap_cons, percentOf_toOption hvalue, ih hrest]

/-- A control that could be extracted is what normalization extracts again. -/
theorem extractControlPercentFrom_recognized {patterns : List Pattern} {phrase : Pattern}
    {label lowerLabel : String} {value : Option Decimal}
    (h : extractControlPercentFrom rendering text patterns phrase label lowerLabel = .ok value) :
    extractControlPercent rendering (recognizedPercents patterns text)
      (phrase.search text.toList).isSome label lowerLabel = .ok value := by
  obtain ⟨values, hvalues, h⟩ := Python.bind_eq_ok h
  rw [recognizedPercents, filterMap_percentOf _ hvalues]
  exact h

theorem extractRiskControls_of_from {controls : RiskControls}
    (h : extractRiskControlsFrom word rendering text = .ok controls) :
    extractRiskControls rendering (textRecognition word lower) text = .ok controls := by
  obtain ⟨stopLoss, hstop, h⟩ := Python.bind_eq_ok h
  obtain ⟨takeProfit, htake, h⟩ := Python.bind_eq_ok h
  have hstop' := extractControlPercentFrom_recognized hstop
  have htake' := extractControlPercentFrom_recognized htake
  unfold extractRiskControls textRecognition
  dsimp only
  rw [hstop', ok_bind, htake', ok_bind]
  exact h

/-- The controls of a specification are those of its text. -/
theorem normalizeStrategyDraft_controls {recognition : TextRecognition}
    {draft : StrategyParseDraft} {result : ParsedStrategyResult}
    (h : normalizeStrategyDraft rendering recognition draft text = .ok result) :
    extractRiskControls rendering recognition text =
      .ok ⟨result.specification.stopLossPercent, result.specification.takeProfitPercent⟩ := by
  obtain ⟨_, _, h⟩ := Python.bind_eq_ok h
  obtain ⟨riskControls, hcontrols, h⟩ := Python.bind_eq_ok h
  obtain ⟨_, _, h⟩ := Python.bind_eq_ok h
  obtain ⟨_, _, h⟩ := Python.bind_eq_ok h
  obtain ⟨_, _, h⟩ := Python.bind_eq_ok h
  obtain rfl := Except.ok.inj h
  exact hcontrols

theorem extractControlPercent_valid {matched : List Decimal} {mentioned : Bool}
    {label lowerLabel : String} {value : Option Decimal}
    (h : extractControlPercent rendering matched mentioned label lowerLabel = .ok value) :
    RiskPercentValid value := by
  unfold extractControlPercent at h
  split at h
  · split at h
    · cases h
    · obtain rfl := Except.ok.inj h
      intro v hv
      cases hv
  · obtain ⟨⟨⟩, hvalid, h⟩ := Python.bind_eq_ok h
    obtain rfl := Except.ok.inj h
    exact validateRiskPercent_eq_ok.mp hvalid
  · cases h

theorem extractRiskControls_valid {recognition : TextRecognition} {controls : RiskControls}
    (h : extractRiskControls rendering recognition text = .ok controls) :
    RiskPercentValid controls.stopLossPercent ∧ RiskPercentValid controls.takeProfitPercent := by
  obtain ⟨stopLoss, hstop, h⟩ := Python.bind_eq_ok h
  obtain ⟨takeProfit, htake, h⟩ := Python.bind_eq_ok h
  obtain rfl := Except.ok.inj h
  exact ⟨extractControlPercent_valid hstop, extractControlPercent_valid htake⟩

end Controls

-- ============================================================================
-- A shorthand is understood
-- ============================================================================

/-- What a shorthand stands for, with the controls of its text. -/
def shorthandSpecification (hint : NormalizationHint) (controls : RiskControls) :
    StrategySpecification where
  version := "1.0"
  symbol := "SPY"
  interval := "1d"
  entry := smaRule hint.shortPeriod
    (if hint.bullishEntry then .crossesAbove else .crossesBelow) hint.longPeriod
  exit := smaRule hint.shortPeriod
    (if hint.bullishEntry then .crossesBelow else .crossesAbove) hint.longPeriod
  execution := ⟨"long", 100, "next_bar_open"⟩
  stopLossPercent := controls.stopLossPercent
  takeProfitPercent := controls.takeProfitPercent

/-- Both periods can be evaluated. -/
structure PeriodsSupported (hint : NormalizationHint) : Prop where
  short : 1 ≤ hint.shortPeriod ∧ hint.shortPeriod ≤ 1000
  long : 1 ≤ hint.longPeriod ∧ hint.longPeriod ≤ 1000

section Shorthand

variable {word : Char → Bool} {lower : String → String} {rendering : Rendering} {text : String}
  {hint : NormalizationHint} {controls : RiskControls}

theorem validateOperand_indicator {name : IndicatorName} {period : Int} :
    validateOperand (.indicator name "close" period) = .ok () ↔ 1 ≤ period ∧ period ≤ 1000 := by
  unfold validateOperand
  rw [bind_eq_ok, require_eq_ok, require_eq_ok, and_iff_right rfl]

theorem validateCondition_smaRule {operator : Operator} :
    validateCondition (smaRule hint.shortPeriod operator hint.longPeriod) = .ok () ↔
      PeriodsSupported hint := by
  unfold validateCondition smaRule
  dsimp only
  rw [bind_eq_ok, validateOperand_indicator, validateOperand_indicator]
  exact ⟨fun h => ⟨h.1, h.2⟩, fun h => ⟨h.short, h.long⟩⟩

theorem validateStrategySemantics_shorthand
    (hstop : RiskPercentValid controls.stopLossPercent)
    (htake : RiskPercentValid controls.takeProfitPercent) :
    validateStrategySemantics (shorthandSpecification hint controls) = .ok () ↔
      PeriodsSupported hint := by
  unfold validateStrategySemantics shorthandSpecification
  simp only [bind_eq_ok, require_eq_ok, validateRiskPercent_eq_ok, validateCondition_smaRule,
    hstop, htake, true_and, and_true, and_self]

variable (rendering) in
theorem resolveRules_emptyDraft
    (hhint : findNormalizationHint word lower text = .ok (some hint)) (recorded : Recorded) :
    ∃ after, resolveRules rendering (textRecognition word lower) emptyDraft text recorded =
      .ok (crossoverDraft hint.shortPeriod hint.longPeriod
          (if hint.bullishEntry then .crossesAbove else .crossesBelow),
        crossoverDraft hint.shortPeriod hint.longPeriod
          (if hint.bullishEntry then .crossesBelow else .crossesAbove), after) := by
  have hpair : resolveRules rendering (textRecognition word lower) emptyDraft text recorded =
      .ok (inferShorthandPair rendering hint recorded) := by
    unfold resolveRules textRecognition emptyDraft
    dsimp only
    rw [hhint, ok_bind]
    rfl
  rw [hpair]
  unfold inferShorthandPair
  cases hint.bullishEntry with
  | true => exact ⟨_, rfl⟩
  | false => exact ⟨_, rfl⟩

theorem normalizeCondition_crossoverDraft_ok (shortPeriod longPeriod : Int) (operator : Operator)
    (fieldName : String) (recorded : Recorded) :
    ∃ after, normalizeCondition (crossoverDraft shortPeriod longPeriod operator) fieldName
      recorded = .ok (smaRule shortPeriod operator longPeriod, after) := ⟨_, rfl⟩

/-- The empty draft is normalized to what the shorthand stands for. -/
theorem normalizeStrategyDraft_emptyDraft
    (hhint : findNormalizationHint word lower text = .ok (some hint))
    (hcontrols : extractRiskControls rendering (textRecognition word lower) text = .ok controls)
    (hperiods : PeriodsSupported hint) :
    ∃ result, normalizeStrategyDraft rendering (textRecognition word lower) emptyDraft text =
      .ok result ∧ result.specification = shorthandSpecification hint controls := by
  obtain ⟨hstop, htake⟩ := extractRiskControls_valid hcontrols
  have hsemantics : validateStrategySemantics (shorthandSpecification hint controls) = .ok () :=
    (validateStrategySemantics_shorthand hstop htake).mpr hperiods
  unfold normalizeStrategyDraft
  dsimp only
  generalize hrecorded : Prod.snd (Recorded.orDefault _ _ emptyDraft.signalExecution _ _ _) =
    recorded
  obtain ⟨afterRules, hrules⟩ := resolveRules_emptyDraft rendering hhint recorded
  obtain ⟨afterEntry, hentry⟩ := normalizeCondition_crossoverDraft_ok hint.shortPeriod
    hint.longPeriod (if hint.bullishEntry then .crossesAbove else .crossesBelow) "entry" afterRules
  obtain ⟨afterExit, hexit⟩ := normalizeCondition_crossoverDraft_ok hint.shortPeriod
    hint.longPeriod (if hint.bullishEntry then .crossesBelow else .crossesAbove) "exit" afterEntry
  rw [hrules, ok_bind, hcontrols, ok_bind]
  dsimp only
  rw [hentry, ok_bind]
  dsimp only
  rw [hexit, ok_bind]
  change ∃ result, (validateStrategySemantics (shorthandSpecification hint controls) >>= _) =
    .ok result ∧ _
  rw [hsemantics, ok_bind]
  exact ⟨_, rfl, rfl⟩

/-- And only what has a hint with such periods is. -/
theorem normalizeStrategyDraft_emptyDraft_inv {result : ParsedStrategyResult}
    (hcontrols : extractRiskControls rendering (textRecognition word lower) text = .ok controls)
    (h : normalizeStrategyDraft rendering (textRecognition word lower) emptyDraft text =
      .ok result) :
    ∃ hint, findNormalizationHint word lower text = .ok (some hint) ∧ PeriodsSupported hint ∧
      result.specification = shorthandSpecification hint controls := by
  obtain ⟨hint, hhint, hentry, hexit⟩ := normalizeStrategyDraft_hint h
  have hsemantics : validateStrategySemantics result.specification = .ok () :=
    (normalizeStrategyDraft_spec h).semantics
  have hspecification : result.specification = shorthandSpecification hint controls := by
    obtain ⟨_, _, h⟩ := Python.bind_eq_ok h
    obtain ⟨read, hread, h⟩ := Python.bind_eq_ok h
    obtain rfl := Except.ok.inj (hcontrols.symm.trans hread)
    obtain ⟨_, _, h⟩ := Python.bind_eq_ok h
    obtain ⟨_, _, h⟩ := Python.bind_eq_ok h
    obtain ⟨_, _, h⟩ := Python.bind_eq_ok h
    obtain rfl := Except.ok.inj h
    unfold shorthandSpecification
    dsimp only at hentry hexit ⊢
    rw [hentry, hexit]
    rfl
  obtain ⟨hstop, htake⟩ := extractRiskControls_valid hcontrols
  rw [hspecification] at hsemantics
  exact ⟨hint, hhint, (validateStrategySemantics_shorthand hstop htake).mp hsemantics,
    hspecification⟩

end Shorthand

-- ============================================================================
-- The parser understands shorthands
-- ============================================================================

/-- A text that the parser accepts when the provider leaves everything out. -/
structure Understood (word : Char → Bool) (lower : String → String) (rendering : Rendering)
    (strategyText : String) (hint : NormalizationHint) (controls : RiskControls) : Prop where
  notBlank : strip strategyText ≠ ""
  supported : ∀ entry ∈ unsupportedLanguage ++ ambiguousLanguage,
    ¬ contains entry.1 (lower strategyText)
  recognized : findNormalizationHint word lower strategyText = .ok (some hint)
  periods : PeriodsSupported hint
  extracted : extractRiskControlsFrom word rendering strategyText = .ok controls

section Parser

variable {word : Char → Bool} {lower : String → String} {rendering : Rendering}
  {parser : OpenAIStrategyParser} {strategyText apiKey model : String}
  {provider : StructuredStrategyProvider}

theorem requireSetting_of_ne {value message : String} (h : value ≠ "") :
    requireSetting (some value) message = .ok value := if_neg h

theorem mapError_eq_ok {ε ε' α : Type} {f : ε → ε'} {x : Except ε α} {a : α} :
    x.mapError f = .ok a ↔ x = .ok a := by
  cases x with
  | error e => exact iff_of_false (fun h => by cases h) (fun h => by cases h)
  | ok b => exact ⟨fun h => congrArg _ (Except.ok.inj h), fun h => congrArg _ (Except.ok.inj h)⟩

theorem mapError_eq_error {ε ε' α : Type} {f : ε → ε'} {x : Except ε α} {e : ε'} :
    x.mapError f = .error e ↔ ∃ cause, x = .error cause ∧ f cause = e := by
  cases x with
  | error cause =>
      refine ⟨fun h => ⟨cause, rfl, Except.error.inj h⟩, fun h => ?_⟩
      obtain ⟨_, hcause, rfl⟩ := h
      obtain rfl := Except.error.inj hcause
      rfl
  | ok a =>
      refine iff_of_false (fun h => by cases h) fun h => ?_
      obtain ⟨_, hcause, -⟩ := h
      cases hcause

/-- With its settings in place the parser is the checks, the provider and the normalization. -/
theorem parse_eq_ok (hkey : parser.apiKey = some apiKey) (hkeyNe : apiKey ≠ "")
    (hmodel : parser.model = some model) (hmodelNe : model ≠ "")
    (hprovider : parser.providerFactory apiKey = .ok provider) {result : ParsedStrategyResult} :
    parser.parse word lower rendering strategyText = .ok result ↔
      strip strategyText ≠ "" ∧
      validateStrategyText word lower rendering strategyText = .ok () ∧
      ∃ draft, provider model strategyText = .ok draft ∧
        normalizeStrategyDraft rendering (textRecognition word lower) draft strategyText =
          .ok result := by
  unfold OpenAIStrategyParser.parse
  rw [hkey, hmodel]
  by_cases hblank : strip strategyText = ""
  · rw [if_pos hblank]
    exact iff_of_false (fun h => by cases h) (fun h => h.1 hblank)
  · rw [if_neg hblank]
    constructor
    · intro h
      obtain ⟨⟨⟩, hvalid, h⟩ := Python.bind_eq_ok h
      rw [requireSetting_of_ne hkeyNe, ok_bind, requireSetting_of_ne hmodelNe, ok_bind, hprovider,
        ok_bind] at h
      obtain ⟨draft, hdraft, h⟩ := Python.bind_eq_ok h
      exact ⟨hblank, mapError_eq_ok.mp hvalid, draft, hdraft, mapError_eq_ok.mp h⟩
    · rintro ⟨-, hvalid, draft, hdraft, h⟩
      have hvalid' : (validateStrategyText word lower rendering strategyText).mapError
          ParserError.pipeline = .ok () := mapError_eq_ok.mpr hvalid
      show ((validateStrategyText word lower rendering strategyText).mapError
        ParserError.pipeline >>= _) = _
      rw [hvalid', ok_bind, requireSetting_of_ne hkeyNe, ok_bind, requireSetting_of_ne hmodelNe,
        ok_bind, hprovider, ok_bind, hdraft, ok_bind]
      exact mapError_eq_ok.mpr h

/-- Whatever the settings and the provider are, a parsed text has passed every check, and its
    controls are what it says. -/
theorem parse_checked {result : ParsedStrategyResult}
    (h : parser.parse word lower rendering strategyText = .ok result) :
    strip strategyText ≠ "" ∧ validateStrategyText word lower rendering strategyText = .ok () ∧
      ParsedResultValid strategyText result ∧
      extractRiskControlsFrom word rendering strategyText =
        .ok ⟨result.specification.stopLossPercent, result.specification.takeProfitPercent⟩ := by
  unfold OpenAIStrategyParser.parse at h
  by_cases hblank : strip strategyText = ""
  · rw [if_pos hblank] at h
    cases h
  · rw [if_neg hblank] at h
    obtain ⟨⟨⟩, hvalid, h⟩ := Python.bind_eq_ok h
    obtain ⟨_, -, h⟩ := Python.bind_eq_ok h
    obtain ⟨_, -, h⟩ := Python.bind_eq_ok h
    obtain ⟨_, -, h⟩ := Python.bind_eq_ok h
    obtain ⟨draft, -, h⟩ := Python.bind_eq_ok h
    have hvalid := mapError_eq_ok.mp hvalid
    have h := mapError_eq_ok.mp h
    obtain ⟨-, ⟨controls, hcontrols⟩, -⟩ := validateStrategyText_eq_ok.mp hvalid
    have hread := normalizeStrategyDraft_controls h
    obtain rfl := Except.ok.inj ((extractRiskControls_of_from hcontrols).symm.trans hread)
    exact ⟨hblank, hvalid, normalizeStrategyDraft_spec h, hcontrols⟩

/-- A text is understood without any help of the provider exactly when it passes the phrase
    checks, states its controls, and has a shorthand with periods that can be evaluated: what it
    says of moving averages is then no obstacle, and the specification is the shorthand's. -/
theorem parse_emptyDraft_iff (hkey : parser.apiKey = some apiKey) (hkeyNe : apiKey ≠ "")
    (hmodel : parser.model = some model) (hmodelNe : model ≠ "")
    (hprovider : parser.providerFactory apiKey = .ok provider)
    (hempty : provider model strategyText = .ok emptyDraft)
    (specification : StrategySpecification) :
    (∃ result, parser.parse word lower rendering strategyText = .ok result ∧
        result.specification = specification) ↔
      ∃ hint controls, Understood word lower rendering strategyText hint controls ∧
        specification = shorthandSpecification hint controls := by
  constructor
  · rintro ⟨result, hresult, rfl⟩
    obtain ⟨hblank, hvalid, draft, hdraft, hnormalized⟩ :=
      (parse_eq_ok hkey hkeyNe hmodel hmodelNe hprovider).mp hresult
    obtain rfl := Except.ok.inj (hempty.symm.trans hdraft)
    obtain ⟨hphrases, ⟨controls, hcontrols⟩, -⟩ := validateStrategyText_eq_ok.mp hvalid
    obtain ⟨hint, hhint, hperiods, hspecification⟩ :=
      normalizeStrategyDraft_emptyDraft_inv (extractRiskControls_of_from hcontrols) hnormalized
    exact ⟨hint, controls, ⟨hblank, hphrases, hhint, hperiods, hcontrols⟩, hspecification⟩
  · rintro ⟨hint, controls, h, rfl⟩
    have hresolvable : hasResolvableMovingAverage word (lower strategyText) = true := by
      refine findNormalizationHint_resolvable fun hnone => ?_
      rw [h.recognized] at hnone
      cases hnone
    have hvalid : validateStrategyText word lower rendering strategyText = .ok () :=
      validateStrategyText_eq_ok.mpr ⟨h.supported, ⟨controls, h.extracted⟩, fun _ => hresolvable⟩
    obtain ⟨result, hresult, hspecification⟩ :=
      normalizeStrategyDraft_emptyDraft h.recognized
        (extractRiskControls_of_from h.extracted) h.periods
    exact ⟨result, (parse_eq_ok hkey hkeyNe hmodel hmodelNe hprovider).mpr
      ⟨h.notBlank, hvalid, emptyDraft, hempty, hresult⟩, hspecification⟩

end Parser

/-- The SDK answers with a draft in which everything is null. -/
theorem parse_emptyDraft_iff_crossover : ∃ result,
    (OpenAIStrategyParser.mk (some "key") (some "model") (openAIResponsesProvider .production
        (some fun _ _ => .returned (some emptyDraft) .null))).parse plainWord String.toLower
      plainRendering "Trade a 50/200 crossover of moving averages with a 5% stop loss." =
        .ok result ∧
    result.specification =
      shorthandSpecification ⟨"crossover shorthand", 50, 200, true⟩ ⟨some 5, none⟩ :=
  (parse_emptyDraft_iff rfl (by decide) rfl (by decide) rfl rfl _).mpr
    ⟨_, _, ⟨by decide +kernel, by decide +kernel, by decide +kernel, ⟨by decide, by decide⟩,
      by decide +kernel⟩, rfl⟩

end Services
end TradingPlatform
