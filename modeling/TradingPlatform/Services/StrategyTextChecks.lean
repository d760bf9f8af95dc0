/-
  TradingPlatform.Services.StrategyTextChecks

  `validate_strategy_text` of `app/services/strategy_semantics.py`: the checks of
  a text before any provider reads it.

  The last check asks a text that mentions a moving average for periods, with a
  pattern of its own.  The shorthand that `find_normalization_hint` reads is
  written with such periods, so no text is turned away for periods that the
  shorthand would have given (`findNormalizationHint_resolvable`).
-/

import TradingPlatform.Services.TextPatterns

namespace TradingPlatform
namespace Services

open Python Schemas Regex Pattern

-- ============================================================================
-- Phrases
-- ============================================================================

/-- `UNSUPPORTED_LANGUAGE` -/
def unsupportedLanguage : List (String × String) :=
  [("rsi", "RSI is not supported in version 1."),
    ("macd", "MACD is not supported in version 1."),
    ("bollinger", "Bollinger Bands are not supported in version 1."),
    ("volume", "Volume rules and volume indicators are not supported in version 1."),
    ("trailing stop", "Trailing stops are not supported in version 1."),
    ("short ", "Short selling is not supported in version 1."),
    ("leverage", "Leverage is not supported in version 1."),
    ("option", "Options are not supported in version 1."),
    ("news", "News-based rules are not supported in version 1."),
    ("sentiment", "Sentiment-based rules are not supported in version 1."),
    ("fundamental", "Fundamental-based rules are not supported in version 1."),
    ("earnings", "Earnings-based rules are not supported in version 1."),
    ("analyst", "Analyst-rating rules are not supported in version 1."),
    ("python code", "Code generation is not supported for strategies."),
    ("sql query", "SQL generation is not supported for strategies."),
    ("select *", "SQL generation is not supported for strategies.")]

/-- `AMBIGUOUS_LANGUAGE` -/
def ambiguousLanguage : List (String × String) :=
  [("looks strong",
      "Specify a supported price or moving-average condition instead of 'looks strong'."),
    ("momentum",
      "Momentum is undefined here. Specify a supported price or moving-average condition."),
    ("risk increases",
      "Risk is undefined here. Specify a supported price or moving-average condition."),
    ("conditions are favorable", "Specify a supported price or moving-average condition."),
    ("good moving average", "Specify explicit moving-average periods."),
    ("tight stop", "Specify an explicit stop-loss percentage."),
    ("take profit when appropriate", "Specify an explicit take-profit percentage."),
    ("control my downside", "Specify an explicit stop-loss percentage."),
    ("good risk management", "Specify an explicit stop-loss or take-profit percentage.")]

/-- `phrase in text` -/
def contains (phrase text : String) : Prop := phrase.toList <:+: text.toList

instance (phrase text : String) : Decidable (contains phrase text) :=
  inferInstanceAs (Decidable (_ <:+: _))

/-- The loop over a dictionary of phrases: the first one in the text raises its message. -/
def rejectPhrases (language : List (String × String)) (normalizedText : String) :
    Except PyError Unit :=
  match language.find? fun entry => contains entry.1 normalizedText with
  | some entry => .error (.strategyValidationError entry.2)
  | none => .ok ()

-- ============================================================================
-- Periods
-- ============================================================================

/-- `\b\d+\s*(?:-?day\b|/)\s*\d*` -/
def periodPattern (word : Char → Bool) : Pattern :=
  .seq (.boundary word) (.seq (several isDigit) (.seq (.many isSpace)
    (.seq (.alt (.seq (optional (.set (· = '-'))) (.seq (literally "day") (.boundary word)))
      (.set (· = '/')))
    (.seq (.many isSpace) (.many isDigit)))))

/-- `has_resolvable_moving_average` -/
def hasResolvableMovingAverage (word : Char → Bool) (strategyText : String) : Bool :=
  ((periodPattern word).search strategyText.toList).isSome ||
    contains "golden cross" strategyText || contains "death cross" strategyText

/-- `validate_strategy_text` -/
def validateStrategyText (word : Char → Bool) (lower : String → String)
    (rendering : Rendering) (strategyText : String) : Except PyError Unit := do
  let normalizedText := lower strategyText
  rejectPhrases unsupportedLanguage normalizedText
  rejectPhrases ambiguousLanguage normalizedText
  let _riskControls ← extractRiskControlsFrom word rendering strategyText
  if contains "moving average" normalizedText ∧
      hasResolvableMovingAverage word normalizedText = false then
    throw (.strategyValidationError
      "Specify moving-average periods, such as '50-day SMA' or '50/200 crossover'.")

-- ============================================================================
-- The checks
-- ============================================================================

theorem rejectPhrases_eq_ok {language : List (String × String)} {normalizedText : String} :
    rejectPhrases language normalizedText = .ok () ↔
      ∀ entry ∈ language, ¬ contains entry.1 normalizedText := by
  unfold rejectPhrases
  cases h : language.find? fun entry => contains entry.1 normalizedText with
  | none => simpa using h
  | some entry =>
      have hfound := List.find?_some h
      have hmem := List.mem_of_find?_eq_some h
      simp only [reduceCtorEq, false_iff]
      exact fun hnone => hnone entry hmem (of_decide_eq_true hfound)

theorem hasResolvableMovingAverage_eq_true {word : Char → Bool} {text : String} :
    hasResolvableMovingAverage word text = true ↔
      ((periodPattern word).search text.toList).isSome = true ∨
        contains "golden cross" text ∨ contains "death cross" text := by
  rw [hasResolvableMovingAverage, Bool.or_eq_true, Bool.or_eq_true, decide_eq_true_eq,
    decide_eq_true_eq, or_assoc]

section Checks

variable {word : Char → Bool} {lower : String → String} {rendering : Rendering}
  {strategyText : String}

/-- Everything that an accepted text has passed. -/
theorem validateStrategyText_eq_ok :
    validateStrategyText word lower rendering strategyText = .ok () ↔
      (∀ entry ∈ unsupportedLanguage ++ ambiguousLanguage,
        ¬ contains entry.1 (lower strategyText)) ∧
      (∃ controls, extractRiskControlsFrom word rendering strategyText = .ok controls) ∧
      (contains "moving average" (lower strategyText) →
        hasResolvableMovingAverage word (lower strategyText) = true) := by
  rw [List.forall_mem_append, ← rejectPhrases_eq_ok, ← rejectPhrases_eq_ok, and_assoc]
  unfold validateStrategyText
  dsimp only
  rw [bind_eq_ok, bind_eq_ok]
  refine and_congr_right fun _ => and_congr_right fun _ => ?_
  cases hcontrols : extractRiskControlsFrom word rendering strategyText with
  | error e =>
      refine iff_of_false (fun h => ?_) (fun h => ?_)
      · cases h
      · obtain ⟨⟨controls, hok⟩, -⟩ := h
        cases hok
  | ok controls =>
      rw [ok_bind]
      split
      · rename_i h
        refine iff_of_false (fun hthrow => ?_) (fun hboth => ?_)
        · cases hthrow
        · rw [hboth.2 h.1] at h
          exact Bool.false_ne_true h.2.symm
      · rename_i h
        refine iff_of_true rfl ⟨⟨controls, rfl⟩, fun hmentions => ?_⟩
        simpa using fun hnone => h ⟨hmentions, hnone⟩

-- ============================================================================
-- Shorthands have periods
-- ============================================================================

/-- Where a shorthand is, the text before its second number has the form of periods. -/
theorem periodPattern_of_shorthand {pre body post : List Char} {captures : List Capture}
    (h : (shorthandPattern word).Matches pre body post captures) :
    ∃ start rest, body = start ++ rest ∧
      (periodPattern word).Matches pre start (rest ++ post) [] := by
  obtain ⟨_, _, _, _, rfl, -, ⟨rfl, -, hboundary⟩, digits, _, _, _, rfl, -, ⟨_, -, hdigits⟩,
    gap, _, _, _, rfl, -, ⟨hgap, -⟩, slash, rest, _, _, rfl, -, hslash, -⟩ := h
  obtain ⟨hne, hall, rfl⟩ := matches_several.mp hdigits
  have hperiod : (periodPattern word).Matches pre
      ([] ++ (digits ++ (gap ++ (slash ++ ([] ++ []))))) (rest ++ post) [] := by
    refine ⟨[], _, [], [], rfl, rfl, ⟨rfl, rfl, ?_⟩, digits, _, [], [], rfl, rfl,
      matches_several.mpr ⟨hne, hall, rfl⟩, gap, _, [], [], rfl, rfl, ⟨hgap, rfl⟩, slash, _, [],
      [], rfl, rfl, .inr ⟨hslash.1, rfl⟩, [], [], [], [], rfl, rfl, ⟨nofun, rfl⟩, nofun, rfl⟩
    simpa only [List.append_assoc, List.append_nil, List.nil_append] using hboundary
  refine ⟨digits ++ (gap ++ slash), rest, ?_, ?_⟩
  · simp only [List.append_assoc, List.nil_append]
  · simpa only [List.append_nil, List.nil_append] using hperiod

/-- Whatever `find_normalization_hint` reads a hint from has periods: a text without them has
    no hint. -/
theorem findNormalizationHint_resolvable
    (h : findNormalizationHint word lower strategyText ≠ .ok none) :
    hasResolvableMovingAverage word (lower strategyText) = true := by
  rw [hasResolvableMovingAverage_eq_true]
  unfold findNormalizationHint at h
  dsimp only at h
  split at h
  · rename_i hgolden
    exact .inr (.inl hgolden)
  · split at h
    · rename_i hdeath
      exact .inr (.inr hdeath)
    · cases hsearch : (shorthandPattern word).search (lower strategyText).toList with
      | none =>
          rw [hsearch] at h
          exact absurd rfl h
      | some shorthand =>
          have hvalid := search_matches hsearch
          obtain ⟨start, rest, hbody, hperiod⟩ := periodPattern_of_shorthand hvalid.matched
          have htext : shorthand.pre ++ start ++ (rest ++ shorthand.post) =
              (lower strategyText).toList := by
            rw [← hvalid.text_eq, hbody]
            simp only [List.append_assoc]
          cases hfound : (periodPattern word).search (lower strategyText).toList with
          | none => exact absurd hperiod (search_eq_none hfound htext)
          | some found => exact .inl rfl

end Checks

end Services
end TradingPlatform
