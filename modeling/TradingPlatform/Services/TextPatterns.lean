/-
  TradingPlatform.Services.TextPatterns

  The regular expressions of `app/services/strategy_semantics.py`, and what they
  extract from a text.

  Two properties of characters come from the runtime's Unicode tables and are
  parameters: `word`, the class `\w` of `\b`, and `str.lower`.  `\d` and `\s` are
  those of `Core.Numerals`.  Group 1 of a percentage pattern is the group
  `value` of the source.
-/

import Mathlib.Data.List.Infix
import TradingPlatform.Core.Numerals
import TradingPlatform.Lib.Regex
import TradingPlatform.Services.StrategyParser

namespace Regex

/-- `match.group(index)` -/
def Pattern.Found.group (m : Pattern.Found) (index : Nat) : Option Capture :=
  m.captures.find? (·.group = index)

end Regex

namespace TradingPlatform
namespace Services

open Python Schemas Backtesting Regex Pattern

-- ============================================================================
-- Characters
-- ============================================================================

/-- `\d` -/
def isDigit (c : Char) : Bool := (decimalDigit c).isSome

/-- `[+-]` -/
def isSign (c : Char) : Bool := c = '+' || c = '-'

/-- A lower-case letter of a pattern under `IGNORECASE`: both cases, the long s, the Kelvin
    sign, and the i with and without a dot. -/
def letter (c : Char) (d : Char) : Bool :=
  d.toLower = c || (c = 's' && d = '\u017f') || (c = 'k' && d = '\u212a') ||
    (c = 'i' && (d = '\u0130' || d = '\u0131'))

/-- The letters of a word, each of either case. -/
def letters (text : String) : List (Char → Bool) := text.toList.map letter

/-- `[- ]` -/
def dashOrSpace (c : Char) : Bool := c = '-' || c = ' '

/-- A property of the characters of a text is decided on the text, not on all characters. -/
instance (priority := 2000) decidableForallMemText {p : Char → Prop} [DecidablePred p]
    (text : List Char) : Decidable (∀ c ∈ text, p c) := List.decidableBAll p text

instance (priority := 2000) decidableForallMemEnd {p : Char → Prop} [DecidablePred p]
    (c : Option Char) : Decidable (∀ d ∈ c, p d) := Option.decidableForallMem c

/-- What the proofs use of `\w`: letters and digits are in it. -/
structure WordClass (word : Char → Bool) : Prop where
  letter : ∀ c d, c.isLower = true → letter c d = true → word d = true
  digit : ∀ c, isDigit c = true → word c = true

-- ============================================================================
-- Percentages
-- ============================================================================

/-- `[+-]?(?:\d+(?:\.\d+)?|\.\d+)` -/
def numeralPattern : Pattern :=
  .seq (optional (.set isSign))
    (.alt
      (.seq (several isDigit) (optional (.seq (.set (· = '.')) (several isDigit))))
      (.seq (.set (· = '.')) (several isDigit)))

/-- `\s*(?:%|percent\b)` -/
def percentSign (word : Char → Bool) : Pattern :=
  .seq (.many isSpace)
    (.alt (.set (· = '%')) (.seq (chars (letters "percent")) (.boundary word)))

/-- `PERCENT_VALUE` -/
def percentValue (word : Char → Bool) : Pattern :=
  .seq (.group 1 numeralPattern) (percentSign word)

/-- `{PERCENT_VALUE}\s+phrase\b` -/
def percentThen (word : Char → Bool) (phrase : List (Char → Bool)) : Pattern :=
  .seq (percentValue word) (.seq (several isSpace) (.seq (chars phrase) (.boundary word)))

/-- `\bphrase\s+{PERCENT_VALUE}` -/
def percentAfter (word : Char → Bool) (phrase : Pattern) : Pattern :=
  .seq (.boundary word) (.seq phrase (.seq (several isSpace) (percentValue word)))

/-- `stop[- ]loss` -/
def stopLoss : List (Char → Bool) := letters "stop" ++ dashOrSpace :: letters "loss"

/-- `take[- ]profit` -/
def takeProfit : List (Char → Bool) := letters "take" ++ dashOrSpace :: letters "profit"

/-- `phrase(?:\s+(?:of|at))?` -/
def ofOrAt (phrase : List (Char → Bool)) : Pattern :=
  .seq (chars phrase)
    (optional (.seq (several isSpace) (.alt (chars (letters "of")) (chars (letters "at")))))

/-- `position\s+los(?:e|es|ing)` -/
def positionLoses : Pattern :=
  .seq (chars (letters "position")) (.seq (several isSpace) (.seq (chars (letters "los"))
    (.alt (chars (letters "e")) (.alt (chars (letters "es")) (chars (letters "ing"))))))

/-- `gain(?:s|ing)?` -/
def gains : Pattern :=
  .seq (chars (letters "gain"))
    (optional (.alt (chars (letters "s")) (chars (letters "ing"))))

/-- `STOP_LOSS_PATTERNS` -/
def stopLossPatterns (word : Char → Bool) : List Pattern :=
  [percentThen word stopLoss,
    percentAfter word (ofOrAt stopLoss),
    percentAfter word
      (.seq (optional (.seq (chars (letters "the")) (several isSpace))) positionLoses)]

/-- `TAKE_PROFIT_PATTERNS` -/
def takeProfitPatterns (word : Char → Bool) : List Pattern :=
  [percentThen word takeProfit,
    percentAfter word (ofOrAt takeProfit),
    percentAfter word gains]

/-- `\bphrase\b` -/
def wholeWords (word : Char → Bool) (phrase : Pattern) : Pattern :=
  .seq (.boundary word) (.seq phrase (.boundary word))

/-- The stop-loss `phrase_pattern`. -/
def stopLossPhrase (word : Char → Bool) : Pattern :=
  .alt (wholeWords word (chars stopLoss))
    (.alt (wholeWords word positionLoses)
      (wholeWords word (.seq (chars (letters "tight"))
        (.seq (several isSpace) (chars (letters "stop"))))))

/-- The take-profit `phrase_pattern`. -/
def takeProfitPhrase (word : Char → Bool) : Pattern :=
  .alt (wholeWords word (chars takeProfit)) (wholeWords word gains)

-- ============================================================================
-- Extraction
-- ============================================================================

/-- The group `value` of every match of every pattern. -/
def capturedValues (patterns : List Pattern) (text : List Char) : List Capture :=
  patterns.flatMap fun r => (r.finditer text).filterMap (·.group 1)

/-- `Decimal(match.group("value"))` -/
def percentOf (label : String) (capture : Capture) : Except PyError Decimal :=
  match decimalOfText (.ofList capture.text) with
  | some (.finite value) => .ok value
  | _ => .error (.strategyValidationError (label ++ " must be an explicit percentage."))

/-- `extract_control_percent`, from the text. -/
def extractControlPercentFrom (rendering : Rendering) (text : String) (patterns : List Pattern)
    (phrasePattern : Pattern) (label lowerLabel : String) : Except PyError (Option Decimal) := do
  let values ← (capturedValues patterns text.toList).mapM (percentOf label)
  extractControlPercent rendering values (phrasePattern.search text.toList).isSome label lowerLabel

/-- `extract_risk_controls`, from the text. -/
def extractRiskControlsFrom (word : Char → Bool) (rendering : Rendering) (text : String) :
    Except PyError RiskControls := do
  let stopLoss ← extractControlPercentFrom rendering text (stopLossPatterns word)
    (stopLossPhrase word) "Stop-loss" "stop-loss"
  let takeProfit ← extractControlPercentFrom rendering text (takeProfitPatterns word)
    (takeProfitPhrase word) "Take-profit" "take-profit"
  return ⟨stopLoss, takeProfit⟩

-- ============================================================================
-- Shorthands
-- ============================================================================

/-- The characters of a text, as they are. -/
def literally (text : String) : Pattern := chars (text.toList.map fun c d => d = c)

/-- `\b(\d+)\s*/\s*(\d+)\s*(?:day\s*)?crossover\b` -/
def shorthandPattern (word : Char → Bool) : Pattern :=
  .seq (.boundary word) (.seq (.group 1 (several isDigit)) (.seq (.many isSpace)
    (.seq (.set (· = '/')) (.seq (.many isSpace) (.seq (.group 2 (several isDigit))
      (.seq (.many isSpace) (.seq (optional (.seq (literally "day") (.many isSpace)))
        (.seq (literally "crossover") (.boundary word)))))))))

/-- `int(shorthand.group(index))`; digits beyond the limit of `int` are an error. -/
def periodOf (shorthand : Found) (index : Nat) : Except PyError Int :=
  match shorthand.group index with
  | none => .error .indexError
  | some capture =>
      match intOfText (.ofList capture.text) with
      | some period => .ok period
      | none => .error (.valueError ("Exceeds the limit (4300 digits) for integer string " ++
          "conversion: value has " ++ toString capture.text.length ++
          " digits; use sys.set_int_max_str_digits() to increase the limit"))

/-- `find_normalization_hint` -/
def findNormalizationHint (word : Char → Bool) (lower : String → String)
    (strategyText : String) : Except PyError (Option NormalizationHint) :=
  let normalizedText := (lower strategyText).toList
  if "golden cross".toList <:+: normalizedText then
    .ok (some ⟨"golden cross", 50, 200, true⟩)
  else if "death cross".toList <:+: normalizedText then
    .ok (some ⟨"death cross", 50, 200, false⟩)
  else
    match (shorthandPattern word).search normalizedText with
    | none => .ok none
    | some shorthand => do
        let shortPeriod ← periodOf shorthand 1
        let longPeriod ← periodOf shorthand 2
        return some ⟨"crossover shorthand", shortPeriod, longPeriod, true⟩

-- ============================================================================
-- Recognition
-- ============================================================================

/-- The percentages of a control, as far as `Decimal` reads them. -/
def recognizedPercents (patterns : List Pattern) (text : String) : List Decimal :=
  (capturedValues patterns text.toList).filterMap fun capture =>
    (percentOf "" capture).toOption

/-- What the regular expressions recognize in a text. -/
def textRecognition (word : Char → Bool) (lower : String → String) : TextRecognition where
  stopLossPercents := recognizedPercents (stopLossPatterns word)
  mentionsStopLoss text := ((stopLossPhrase word).search text.toList).isSome
  takeProfitPercents := recognizedPercents (takeProfitPatterns word)
  mentionsTakeProfit text := ((takeProfitPhrase word).search text.toList).isSome
  findNormalizationHint := findNormalizationHint word lower

end Services
end TradingPlatform
