/-
  TradingPlatform.Services.InterpretationInjective

  The text that the user confirms determines the rules and the risk controls.

  A rule is read word by word: the first word of an operand tells its kind and
  with it its length (`operandWords_inj`), and no operand begins with the word
  that continues `greater than` (`conditionWords_inj`).  The two results may be
  rendered differently, since a `Decimal` has several texts of one value.
-/

import TradingPlatform.Lib.JoinedText
import TradingPlatform.Services.PlainReading
import TradingPlatform.Services.StrategyInterpretation
import TradingPlatform.Services.StrategyParser

namespace TradingPlatform

/-- No blank, no percent sign, and no letter but that of an exponent. -/
def isNumeralChar (c : Char) : Bool :=
  !c.isWhitespace && c != '%' && (!c.isAlpha || c == 'e' || c == 'E')

/-- `str` and `:g` of a `Decimal` lose no digits, and print numerals. -/
structure Rendering.KeepsDigits (number : String → Option Decimal) (rendering : Rendering) :
    Prop where
  str : ∀ v, number (rendering.str v) = some v
  general : ∀ v, number (rendering.general v) = some v
  str_numeral : ∀ v, (rendering.str v).toList.all isNumeralChar
  general_numeral : ∀ v, (rendering.general v).toList.all isNumeralChar

namespace Services

open Schemas JoinedText

-- ============================================================================
-- Words
-- ============================================================================

/-- A text without a space or a line feed. -/
def IsWord (text : String) : Prop := ' ' ∉ text.toList ∧ '\n' ∉ text.toList

instance (text : String) : Decidable (IsWord text) := inferInstanceAs (Decidable (_ ∧ _))

theorem IsWord.append {text₁ text₂ : String} (h₁ : IsWord text₁) (h₂ : IsWord text₂) :
    IsWord (text₁ ++ text₂) := by
  unfold IsWord
  rw [String.toList_append, List.mem_append, List.mem_append]
  exact ⟨not_or.mpr ⟨h₁.1, h₂.1⟩, not_or.mpr ⟨h₁.2, h₂.2⟩⟩

theorem isNumeralChar_of_mem {text : String} (h : text.toList.all isNumeralChar) {c : Char}
    (hc : c ∈ text.toList) : isNumeralChar c = true :=
  List.all_eq_true.mp h c hc

theorem isWord_of_numeral {text : String} (h : text.toList.all isNumeralChar) : IsWord text :=
  ⟨fun hmem => absurd (isNumeralChar_of_mem h hmem) (by decide),
    fun hmem => absurd (isNumeralChar_of_mem h hmem) (by decide)⟩

/-- A numeral is not a text with another letter in it. -/
theorem ne_of_numeral {text word : String} (h : text.toList.all isNumeralChar)
    (hword : word.toList.all isNumeralChar = false) : text ≠ word := by
  rintro rfl
  rw [hword] at h
  cases h

theorem sign_or_isDigit_of_mem_toString {i : Int} {c : Char} (h : c ∈ (toString i).toList) :
    c = '-' ∨ c.isDigit = true := by
  cases i with
  | ofNat n => exact .inr (isDigit_of_mem_toString h)
  | negSucc n =>
      have hmem : c ∈ ("-" ++ toString (n + 1)).toList := h
      rw [String.toList_append, List.mem_append] at hmem
      exact hmem.imp List.mem_singleton.mp isDigit_of_mem_toString

theorem isWord_toString (i : Int) : IsWord (toString i) :=
  ⟨fun hmem => absurd (sign_or_isDigit_of_mem_toString hmem) (by decide),
    fun hmem => absurd (sign_or_isDigit_of_mem_toString hmem) (by decide)⟩

theorem toString_int_injective : Function.Injective (toString : Int → String) := by
  intro i j h
  rw [← plainInteger_toString i, h, plainInteger_toString]

-- ============================================================================
-- Operands
-- ============================================================================

/-- The words of `format_operand`. -/
def operandWords (rendering : Rendering) : Operand → List String
  | .indicator name source period =>
      ["the", toString period ++ "-day", name.value.toUpper, "of", source]
  | .price source => [source]
  | .constant value => [rendering.str value]

theorem operandWords_ne_nil (rendering : Rendering) (operand : Operand) :
    operandWords rendering operand ≠ [] := by
  cases operand <;> exact List.cons_ne_nil _ _

theorem formatOperand_eq_words (rendering : Rendering) (operand : Operand) :
    formatOperand rendering operand =
      String.intercalate (String.singleton ' ') (operandWords rendering operand) := by
  cases operand with
  | indicator name source period =>
      rw [← String.toList_inj]
      simp [formatOperand, operandWords]
  | price source => rfl
  | constant value => rfl

theorem toUpper_value_injective {name₁ name₂ : IndicatorName}
    (h : name₁.value.toUpper = name₂.value.toUpper) : name₁ = name₂ := by
  have hnames : ∀ a b : IndicatorName, a.value.toUpper = b.value.toUpper → a = b := by
    intro a b
    cases a <;> cases b <;> decide +kernel
  exact hnames name₁ name₂ h

section Operands

variable {number : String → Option Decimal} {rendering₁ rendering₂ rendering : Rendering}

theorem isWord_of_mem_operandWords (hkeeps : rendering.KeepsDigits number) {operand : Operand}
    (hvalid : operand.SchemaValid) {word : String} (h : word ∈ operandWords rendering operand) :
    IsWord word := by
  cases operand with
  | indicator name source period =>
      obtain rfl : source = "close" := hvalid
      have hname : IsWord name.value.toUpper := by cases name <;> decide +kernel
      have hperiod : IsWord (toString period ++ "-day") :=
        (isWord_toString period).append (by decide)
      simp only [operandWords, List.mem_cons, List.not_mem_nil, or_false] at h
      rcases h with rfl | rfl | rfl | rfl | rfl
      · decide
      · exact hperiod
      · exact hname
      · decide
      · decide
  | price source =>
      obtain rfl : source = "close" := hvalid
      obtain rfl := List.mem_singleton.mp h
      decide
  | constant value =>
      obtain rfl := List.mem_singleton.mp h
      exact isWord_of_numeral (hkeeps.str_numeral value)

/-- The first word tells the kind of an operand, and the kind its length. -/
theorem operandWords_inj (h₁ : rendering₁.KeepsDigits number)
    (h₂ : rendering₂.KeepsDigits number) {operand₁ operand₂ : Operand}
    (hvalid₁ : operand₁.SchemaValid) (hvalid₂ : operand₂.SchemaValid)
    {rest₁ rest₂ : List String}
    (h : operandWords rendering₁ operand₁ ++ rest₁ = operandWords rendering₂ operand₂ ++ rest₂) :
    operand₁ = operand₂ ∧ rest₁ = rest₂ := by
  have hthe {rendering : Rendering} (hkeeps : rendering.KeepsDigits number) (v : Decimal) :
      rendering.str v ≠ "the" := ne_of_numeral (hkeeps.str_numeral v) (by decide)
  have hclose {rendering : Rendering} (hkeeps : rendering.KeepsDigits number) (v : Decimal) :
      rendering.str v ≠ "close" := ne_of_numeral (hkeeps.str_numeral v) (by decide)
  cases operand₁ with
  | indicator name₁ source₁ period₁ =>
      obtain rfl : source₁ = "close" := hvalid₁
      cases operand₂ with
      | indicator name₂ source₂ period₂ =>
          obtain rfl : source₂ = "close" := hvalid₂
          obtain ⟨-, hperiods, hnames, -, -, hrest⟩ : _ ∧ _ ∧ _ ∧ _ ∧ _ ∧ rest₁ = rest₂ := by
            simpa only [operandWords, List.cons_append, List.nil_append, List.cons.injEq] using h
          obtain rfl := toString_int_injective ((String.append_left_inj "-day").mp hperiods)
          obtain rfl := toUpper_value_injective hnames
          exact ⟨rfl, hrest⟩
      | price source₂ =>
          obtain rfl : source₂ = "close" := hvalid₂
          exact absurd (List.cons.inj h).1 (by decide)
      | constant value₂ => exact absurd (List.cons.inj h).1.symm (hthe h₂ value₂)
  | price source₁ =>
      obtain rfl : source₁ = "close" := hvalid₁
      cases operand₂ with
      | indicator name₂ source₂ period₂ => exact absurd (List.cons.inj h).1 (by decide)
      | price source₂ =>
          obtain ⟨rfl, hrest⟩ := List.cons.inj h
          exact ⟨rfl, hrest⟩
      | constant value₂ => exact absurd (List.cons.inj h).1.symm (hclose h₂ value₂)
  | constant value₁ =>
      cases operand₂ with
      | indicator name₂ source₂ period₂ =>
          exact absurd (List.cons.inj h).1 (hthe h₁ value₁)
      | price source₂ =>
          obtain rfl : source₂ = "close" := hvalid₂
          exact absurd (List.cons.inj h).1 (hclose h₁ value₁)
      | constant value₂ =>
          obtain ⟨htexts, hrest⟩ := List.cons.inj h
          have hread := congrArg number htexts
          rw [h₁.str, h₂.str] at hread
          exact ⟨congrArg Operand.constant (Option.some.inj hread), hrest⟩

/-- No operand begins with the word that makes `greater than` another operator. -/
theorem operandWords_ne_or (hkeeps : rendering.KeepsDigits number) {operand : Operand}
    (hvalid : operand.SchemaValid) (rest : List String) :
    operandWords rendering operand ≠ "or" :: rest := by
  intro h
  cases operand with
  | indicator name source period => exact absurd (List.cons.inj h).1 (by decide)
  | price source =>
      obtain rfl : source = "close" := hvalid
      exact absurd (List.cons.inj h).1 (by decide)
  | constant value =>
      exact absurd (List.cons.inj h).1 (ne_of_numeral (hkeeps.str_numeral value) (by decide))

end Operands

-- ============================================================================
-- Conditions
-- ============================================================================

/-- `operator.value.replace("_", " ")`, word by word. -/
def operatorWords : Operator → List String
  | .crossesAbove => ["crosses", "above"]
  | .crossesBelow => ["crosses", "below"]
  | .greaterThan => ["greater", "than"]
  | .lessThan => ["less", "than"]
  | .greaterThanOrEqual => ["greater", "than", "or", "equal"]
  | .lessThanOrEqual => ["less", "than", "or", "equal"]

theorem replaceUnderscores_eq_words (operator : Operator) :
    (operator.value.map fun c => if c = '_' then ' ' else c) =
      String.intercalate (String.singleton ' ') (operatorWords operator) := by
  cases operator <;> decide +kernel

theorem operatorWords_ne_nil (operator : Operator) : operatorWords operator ≠ [] := by
  cases operator <;> exact List.cons_ne_nil _ _

/-- The words of `format_condition`. -/
def conditionWords (rendering : Rendering) (condition : Condition) : List String :=
  operandWords rendering condition.left ++
    (operatorWords condition.operator ++ operandWords rendering condition.right)

theorem conditionWords_ne_nil (rendering : Rendering) (condition : Condition) :
    conditionWords rendering condition ≠ [] :=
  List.append_ne_nil_of_left_ne_nil (operandWords_ne_nil rendering condition.left) _

theorem formatCondition_eq_words (rendering : Rendering) (condition : Condition) :
    formatCondition rendering condition =
      String.intercalate (String.singleton ' ') (conditionWords rendering condition) := by
  have hspace : " " = String.singleton ' ' := by decide
  rw [formatCondition, conditionWords, String.intercalate_append_of_ne_nil
      (operandWords_ne_nil _ _) (List.append_ne_nil_of_left_ne_nil (operatorWords_ne_nil _) _),
    String.intercalate_append_of_ne_nil (operatorWords_ne_nil _) (operandWords_ne_nil _ _),
    formatOperand_eq_words, formatOperand_eq_words, replaceUnderscores_eq_words, hspace]
  simp only [String.append_assoc]

section Conditions

variable {number : String → Option Decimal} {rendering₁ rendering₂ rendering : Rendering}
  {condition₁ condition₂ condition : Condition}

theorem isWord_of_mem_conditionWords (hkeeps : rendering.KeepsDigits number)
    (hvalid : condition.SchemaValid) {word : String}
    (h : word ∈ conditionWords rendering condition) : IsWord word := by
  have hoperators : ∀ operator, ∀ word ∈ operatorWords operator, IsWord word := by
    intro operator
    cases operator <;> decide
  rw [conditionWords, List.mem_append, List.mem_append] at h
  rcases h with hleft | hoperator | hright
  · exact isWord_of_mem_operandWords hkeeps hvalid.1 hleft
  · exact hoperators condition.operator word hoperator
  · exact isWord_of_mem_operandWords hkeeps hvalid.2 hright

/-- An operator ends where no `or` follows. -/
theorem operatorWords_inj {operator₁ operator₂ : Operator} {rest₁ rest₂ : List String}
    (hrest₁ : ∀ rest, rest₁ ≠ "or" :: rest) (hrest₂ : ∀ rest, rest₂ ≠ "or" :: rest)
    (h : operatorWords operator₁ ++ rest₁ = operatorWords operator₂ ++ rest₂) :
    operator₁ = operator₂ ∧ rest₁ = rest₂ := by
  -- the same operator, two that differ in a word, or one that the other continues
  cases operator₁ <;> cases operator₂ <;>
    simp only [operatorWords, List.cons_append, List.nil_append, List.cons.injEq,
      String.reduceEq, true_and, and_false, false_and] at h
  all_goals first
    | exact ⟨rfl, h⟩
    | exact absurd h (hrest₁ _)
    | exact absurd h.symm (hrest₂ _)

theorem conditionWords_inj (h₁ : rendering₁.KeepsDigits number)
    (h₂ : rendering₂.KeepsDigits number) (hvalid₁ : condition₁.SchemaValid)
    (hvalid₂ : condition₂.SchemaValid)
    (h : conditionWords rendering₁ condition₁ = conditionWords rendering₂ condition₂) :
    condition₁ = condition₂ := by
  obtain ⟨left₁, operator₁, right₁⟩ := condition₁
  obtain ⟨left₂, operator₂, right₂⟩ := condition₂
  obtain ⟨rfl, hafterLeft⟩ := operandWords_inj h₁ h₂ hvalid₁.1 hvalid₂.1 h
  obtain ⟨rfl, hright⟩ := operatorWords_inj (operandWords_ne_or h₁ hvalid₁.2)
    (operandWords_ne_or h₂ hvalid₂.2) hafterLeft
  have hclosed : operandWords rendering₁ right₁ ++ [] = operandWords rendering₂ right₂ ++ [] := by
    rw [List.append_nil, List.append_nil]
    exact hright
  obtain ⟨rfl, -⟩ := operandWords_inj h₁ h₂ hvalid₁.2 hvalid₂.2 hclosed
  rfl

theorem formatCondition_injective (h₁ : rendering₁.KeepsDigits number)
    (h₂ : rendering₂.KeepsDigits number) (hvalid₁ : condition₁.SchemaValid)
    (hvalid₂ : condition₂.SchemaValid)
    (h : formatCondition rendering₁ condition₁ = formatCondition rendering₂ condition₂) :
    condition₁ = condition₂ := by
  rw [formatCondition_eq_words, formatCondition_eq_words] at h
  refine conditionWords_inj h₁ h₂ hvalid₁ hvalid₂ ?_
  exact stringIntercalate_inj (fun _ hword => (isWord_of_mem_conditionWords h₁ hvalid₁ hword).1)
    (fun _ hword => (isWord_of_mem_conditionWords h₂ hvalid₂ hword).1)
    (conditionWords_ne_nil _ _) (conditionWords_ne_nil _ _) h

theorem lineFeed_notMem_formatCondition (hkeeps : rendering.KeepsDigits number)
    (hvalid : condition.SchemaValid) : '\n' ∉ (formatCondition rendering condition).toList := by
  rw [formatCondition_eq_words]
  exact notMem_intercalate (by decide) fun _ hword =>
    (isWord_of_mem_conditionWords hkeeps hvalid hword).2

end Conditions

-- ============================================================================
-- Risk controls
-- ============================================================================

/-- The words of one control, if it is set: its percentage and its name. -/
def controlWords (rendering : Rendering) (percent : Option Decimal) (name : List String) :
    List String :=
  match percent with
  | none => []
  | some v => (rendering.general v ++ "%") :: name

/-- The words of `format_risk_controls`. -/
def riskWords (rendering : Rendering) : Option Decimal → Option Decimal → List String
  | none, none => ["None."]
  | stopLoss, takeProfit =>
      "Use" :: (controlWords rendering stopLoss ["stop", "loss"] ++
        (if stopLoss.isSome ∧ takeProfit.isSome then ["and"] else []) ++
        controlWords rendering takeProfit ["take", "profit"] ++
        ["relative", "to", "the", "entry", "fill", "price."])

theorem riskWords_ne_nil (rendering : Rendering) (stopLoss takeProfit : Option Decimal) :
    riskWords rendering stopLoss takeProfit ≠ [] := by
  cases stopLoss <;> cases takeProfit <;> exact List.cons_ne_nil _ _

theorem formatRiskControls_eq_words (rendering : Rendering) (result : ParsedStrategyResult) :
    formatRiskControls rendering result = String.intercalate (String.singleton ' ')
      (riskWords rendering result.specification.stopLossPercent
        result.specification.takeProfitPercent) := by
  unfold formatRiskControls
  rcases result.specification.stopLossPercent with - | stopLoss <;>
    rcases result.specification.takeProfitPercent with - | takeProfit
  · rfl
  all_goals
    rw [← String.toList_inj]
    simp [riskWords, controlWords]

section RiskControls

variable {number : String → Option Decimal} {rendering₁ rendering₂ rendering : Rendering}

theorem isWord_of_mem_riskWords (hkeeps : rendering.KeepsDigits number)
    {stopLoss takeProfit : Option Decimal} {word : String}
    (h : word ∈ riskWords rendering stopLoss takeProfit) : IsWord word := by
  have hpercent (v : Decimal) : IsWord (rendering.general v ++ "%") :=
    (isWord_of_numeral (hkeeps.general_numeral v)).append (by decide)
  have hfixed : ∀ word ∈ ["None.", "Use", "stop", "loss", "and", "take", "profit", "relative",
      "to", "the", "entry", "fill", "price."], IsWord word := by decide
  have hword : word ∈ ["None.", "Use", "stop", "loss", "and", "take", "profit", "relative",
      "to", "the", "entry", "fill", "price."] ∨ ∃ v, word = rendering.general v ++ "%" := by
    cases stopLoss <;> cases takeProfit <;>
      simp only [riskWords, controlWords, Option.isSome_none, Option.isSome_some, and_self,
        and_false, and_true, Bool.false_eq_true, if_true, if_false, List.cons_append,
        List.nil_append, List.mem_cons, List.not_mem_nil, or_false] at h ⊢
    all_goals grind
  rcases hword with hmem | ⟨v, rfl⟩
  · exact hfixed word hmem
  · exact hpercent v

theorem percent_inj (h₁ : rendering₁.KeepsDigits number) (h₂ : rendering₂.KeepsDigits number)
    {v₁ v₂ : Decimal} (h : rendering₁.general v₁ ++ "%" = rendering₂.general v₂ ++ "%") :
    v₁ = v₂ := by
  have hread := congrArg number ((String.append_left_inj "%").mp h)
  rw [h₁.general, h₂.general] at hread
  exact Option.some.inj hread

theorem riskWords_inj (h₁ : rendering₁.KeepsDigits number) (h₂ : rendering₂.KeepsDigits number)
    {stopLoss₁ stopLoss₂ takeProfit₁ takeProfit₂ : Option Decimal}
    (h : riskWords rendering₁ stopLoss₁ takeProfit₁ =
      riskWords rendering₂ stopLoss₂ takeProfit₂) :
    stopLoss₁ = stopLoss₂ ∧ takeProfit₁ = takeProfit₂ := by
  -- which controls are set shows in the words between the percentages
  cases stopLoss₁ <;> cases stopLoss₂ <;> cases takeProfit₁ <;> cases takeProfit₂ <;>
    simp only [riskWords, controlWords, Option.isSome_none, Option.isSome_some, and_self,
      and_false, and_true, Bool.false_eq_true, if_true, if_false, List.cons_append,
      List.nil_append, List.cons.injEq, String.reduceEq, true_and, reduceCtorEq] at h
  · exact ⟨rfl, rfl⟩
  · exact ⟨rfl, congrArg some (percent_inj h₁ h₂ h)⟩
  · exact ⟨congrArg some (percent_inj h₁ h₂ h), rfl⟩
  · exact ⟨congrArg some (percent_inj h₁ h₂ h.1), congrArg some (percent_inj h₁ h₂ h.2)⟩

end RiskControls

-- ============================================================================
-- The interpretation
-- ============================================================================

/-- `f"Buy {symbol} when {condition}."`, of the one symbol, and `f"Sell when {condition}."` -/
def ruleLine (rendering : Rendering) (action : String) (condition : Condition) : String :=
  action ++ formatCondition rendering condition ++ "."

theorem interpretStrategy_eq_lines (rendering : Rendering) (result : ParsedStrategyResult)
    (hsymbol : result.specification.symbol = "SPY") :
    ∃ rest, rest ≠ [] ∧ interpretStrategy rendering result =
      String.intercalate (String.singleton '\n') ("Interpreted strategy:" ::
        ruleLine rendering "Buy SPY when " result.specification.entry ::
        ruleLine rendering "Sell when " result.specification.exit ::
        ("Risk controls: " ++ formatRiskControls rendering result) :: rest) := by
  have hlf : "\n" = String.singleton '\n' := by decide
  unfold interpretStrategy ruleLine
  dsimp only
  rw [hsymbol, hlf]
  exact ⟨"" :: "Platform defaults applied:" :: _, List.cons_ne_nil _ _, by rfl⟩

section Interpretation

variable {number : String → Option Decimal} {rendering₁ rendering₂ rendering : Rendering}

theorem lineFeed_notMem_ruleLine (hkeeps : rendering.KeepsDigits number) {action : String}
    (haction : '\n' ∉ action.toList) {condition : Condition} (hvalid : condition.SchemaValid) :
    '\n' ∉ (ruleLine rendering action condition).toList := by
  rw [ruleLine, String.toList_append, String.toList_append, List.mem_append, List.mem_append]
  refine not_or.mpr ⟨not_or.mpr ⟨haction, ?_⟩, by decide⟩
  exact lineFeed_notMem_formatCondition hkeeps hvalid

theorem ruleLine_injective (h₁ : rendering₁.KeepsDigits number)
    (h₂ : rendering₂.KeepsDigits number) {action : String} {condition₁ condition₂ : Condition}
    (hvalid₁ : condition₁.SchemaValid) (hvalid₂ : condition₂.SchemaValid)
    (h : ruleLine rendering₁ action condition₁ = ruleLine rendering₂ action condition₂) :
    condition₁ = condition₂ :=
  formatCondition_injective h₁ h₂ hvalid₁ hvalid₂
    ((String.append_right_inj action).mp ((String.append_left_inj ".").mp h))

theorem lineFeed_notMem_riskLine (hkeeps : rendering.KeepsDigits number)
    (result : ParsedStrategyResult) :
    '\n' ∉ ("Risk controls: " ++ formatRiskControls rendering result).toList := by
  rw [formatRiskControls_eq_words, String.toList_append, List.mem_append]
  refine not_or.mpr ⟨by decide, ?_⟩
  exact notMem_intercalate (by decide) fun _ hword => (isWord_of_mem_riskWords hkeeps hword).2

/-- What the user confirms determines what runs: two results with one interpretation have the
    same rules and the same risk controls. -/
theorem interpretStrategy_determines {recognition : TextRecognition}
    {draft₁ draft₂ : StrategyParseDraft} {text₁ text₂ : String}
    {result₁ result₂ : ParsedStrategyResult} (hkeeps₁ : rendering₁.KeepsDigits number)
    (hkeeps₂ : rendering₂.KeepsDigits number)
    (h₁ : normalizeStrategyDraft rendering₁ recognition draft₁ text₁ = .ok result₁)
    (h₂ : normalizeStrategyDraft rendering₂ recognition draft₂ text₂ = .ok result₂)
    (h : interpretStrategy rendering₁ result₁ = interpretStrategy rendering₂ result₂) :
    result₁.specification.entry = result₂.specification.entry ∧
    result₁.specification.exit = result₂.specification.exit ∧
    result₁.specification.stopLossPercent = result₂.specification.stopLossPercent ∧
    result₁.specification.takeProfitPercent = result₂.specification.takeProfitPercent := by
  have hvalid₁ := (normalizeStrategyDraft_spec h₁).specification
  have hvalid₂ := (normalizeStrategyDraft_spec h₂).specification
  obtain ⟨rest₁, hne₁, hlines₁⟩ :=
    interpretStrategy_eq_lines rendering₁ result₁ hvalid₁.symbol_eq
  obtain ⟨rest₂, hne₂, hlines₂⟩ :=
    interpretStrategy_eq_lines rendering₂ result₂ hvalid₂.symbol_eq
  rw [hlines₁, hlines₂] at h
  obtain ⟨-, h⟩ := stringIntercalate_cons_inj (by decide) (by decide) (List.cons_ne_nil _ _)
    (List.cons_ne_nil _ _) h
  obtain ⟨hentry, h⟩ := stringIntercalate_cons_inj
    (lineFeed_notMem_ruleLine hkeeps₁ (by decide) hvalid₁.entry)
    (lineFeed_notMem_ruleLine hkeeps₂ (by decide) hvalid₂.entry)
    (List.cons_ne_nil _ _) (List.cons_ne_nil _ _) h
  obtain ⟨hexit, h⟩ := stringIntercalate_cons_inj
    (lineFeed_notMem_ruleLine hkeeps₁ (by decide) hvalid₁.exit)
    (lineFeed_notMem_ruleLine hkeeps₂ (by decide) hvalid₂.exit)
    (List.cons_ne_nil _ _) (List.cons_ne_nil _ _) h
  obtain ⟨hrisk, -⟩ := stringIntercalate_cons_inj (lineFeed_notMem_riskLine hkeeps₁ result₁)
    (lineFeed_notMem_riskLine hkeeps₂ result₂) hne₁ hne₂ h
  rw [String.append_right_inj, formatRiskControls_eq_words, formatRiskControls_eq_words] at hrisk
  have hwords := stringIntercalate_inj
    (fun _ hword => (isWord_of_mem_riskWords hkeeps₁ hword).1)
    (fun _ hword => (isWord_of_mem_riskWords hkeeps₂ hword).1)
    (riskWords_ne_nil _ _ _) (riskWords_ne_nil _ _ _) hrisk
  exact ⟨ruleLine_injective hkeeps₁ hkeeps₂ hvalid₁.entry hvalid₂.entry hentry,
    ruleLine_injective hkeeps₁ hkeeps₂ hvalid₁.exit hvalid₂.exit hexit,
    riskWords_inj hkeeps₁ hkeeps₂ hwords⟩

end Interpretation

-- ============================================================================
-- A worked example
-- ============================================================================

/-- An integer is written as one, as `str` and `:g` do; any other number as a fraction. -/
def numeralText (v : Decimal) : String :=
  if v.den = 1 then toString v.num else plainRendering.str v

/-- Whole decimals are written as integers. -/
def numeralRendering : Rendering where
  str := numeralText
  general := numeralText
  isoformat := plainRendering.isoformat
  strNested := plainRendering.strNested

/-- The number that `numeralRendering` wrote. -/
def numberOfText (text : String) : Option Decimal :=
  some (if '/' ∈ text.toList then plainFraction text.toList else plainInteger text.toList)

theorem numberOfText_numeralText (v : Decimal) : numberOfText (numeralText v) = some v := by
  unfold numeralText numberOfText
  split
  · rename_i hinteger
    rw [if_neg fun hmem => ne_slash_of_mem_toString hmem rfl, plainInteger_toString]
    exact congrArg some (Rat.den_eq_one_iff v |>.mp hinteger)
  · have hslash : '/' ∈ (plainRendering.str v).toList := by simp [plainRendering]
    rw [if_pos hslash]
    exact plainReading_inverts.decimal v

theorem isNumeralChar_of_isDigit {c : Char} (h : c.isDigit = true) : isNumeralChar c = true := by
  have hne (other : Char) (hother : other.isDigit = false) : c ≠ other := by
    rintro rfl
    rw [hother] at h
    cases h
  have hspace : c.isWhitespace = false := by
    simp only [Char.isWhitespace]
    simp [hne ' ' (by decide), hne '\t' (by decide), hne '\r' (by decide), hne '\n' (by decide)]
  have halpha : c.isAlpha = false := by
    have hdigit : 48 ≤ c.toNat ∧ c.toNat ≤ 57 := Char.isDigit_iff_toNat.mp h
    rw [Bool.eq_false_iff]
    intro halpha
    rcases isAlpha_iff.mp halpha with hupper | hlower
    · have hcode := isUpper_iff.mp hupper
      omega
    · have hcode := isLower_iff.mp hlower
      omega
  have hpercent : (c != '%') = true := bne_iff_ne.mpr (hne '%' (by decide))
  rw [isNumeralChar, hspace, halpha, hpercent]
  rfl

theorem isNumeralChar_of_mem_toString {i : Int} {c : Char} (h : c ∈ (toString i).toList) :
    isNumeralChar c = true := by
  rcases sign_or_isDigit_of_mem_toString h with rfl | hdigit
  · decide
  · exact isNumeralChar_of_isDigit hdigit

theorem numeralText_numeral (v : Decimal) : (numeralText v).toList.all isNumeralChar := by
  rw [List.all_eq_true]
  intro c hc
  unfold numeralText at hc
  split at hc
  · exact isNumeralChar_of_mem_toString hc
  · have hdenominator : toString v.den = toString (v.den : Int) := rfl
    simp only [plainRendering, hdenominator, String.toList_append, List.mem_append] at hc
    rcases hc with (hnumerator | hslash) | hdenominator
    · exact isNumeralChar_of_mem_toString hnumerator
    · obtain rfl := List.mem_singleton.mp hslash
      decide
    · exact isNumeralChar_of_mem_toString hdenominator

theorem numeralRendering_keepsDigits : numeralRendering.KeepsDigits numberOfText where
  str := numberOfText_numeralText
  general := numberOfText_numeralText
  str_numeral := numeralText_numeral
  general_numeral := numeralText_numeral

/-- What is recognized in `5% stop loss and 10% take profit`. -/
def bothControls : TextRecognition where
  stopLossPercents _ := [5]
  mentionsStopLoss _ := true
  takeProfitPercents _ := [10]
  mentionsTakeProfit _ := true
  findNormalizationHint _ := .ok none

/-- The SMA of 20 days crossing its 50 days, both ways, with a value that no indicator uses. -/
def bothWaysDraft (unused : Option Decimal) : StrategyParseDraft where
  symbol := none
  interval := none
  entry := some ⟨⟨.indicator, none, none, some 20, unused⟩, some .crossesAbove,
    ⟨.indicator, none, none, some 50, none⟩⟩
  exit := some ⟨⟨.indicator, none, none, some 20, none⟩, some .crossesBelow,
    ⟨.indicator, none, none, some 50, none⟩⟩
  direction := none
  positionSizePercent := none
  signalExecution := none

/-- Two drafts with one interpretation, from two texts. -/
theorem interpretStrategy_determines_bothWays : ∃ result₁ result₂ : ParsedStrategyResult,
    result₁.originalText ≠ result₂.originalText ∧
    interpretStrategy numeralRendering result₁ = interpretStrategy numeralRendering result₂ ∧
    result₁.specification.entry = result₂.specification.entry ∧
    result₁.specification.exit = result₂.specification.exit ∧
    result₁.specification.stopLossPercent = result₂.specification.stopLossPercent ∧
    result₁.specification.takeProfitPercent = result₂.specification.takeProfitPercent := by
  have hrun : ∃ results : ParsedStrategyResult × ParsedStrategyResult,
      (do
        let result₁ ← normalizeStrategyDraft numeralRendering bothControls (bothWaysDraft none)
          "20/50 SMA both ways, 5% stop loss and 10% take profit."
        let result₂ ← normalizeStrategyDraft numeralRendering bothControls
          (bothWaysDraft (some 3)) "20/50 SMA both ways; 5% stop loss and 10% take profit."
        return (result₁, result₂)) = Except.ok results ∧
      results.1.originalText ≠ results.2.originalText ∧
      interpretStrategy numeralRendering results.1 =
        interpretStrategy numeralRendering results.2 :=
    Python.exists_ok_of_any (by decide +kernel)
  obtain ⟨⟨result₁, result₂⟩, hresults, htexts, hinterpretations⟩ := hrun
  obtain ⟨first, h₁, hresults⟩ := Python.bind_eq_ok hresults
  obtain ⟨second, h₂, hresults⟩ := Python.bind_eq_ok hresults
  obtain ⟨rfl, rfl⟩ := Prod.mk.inj (Except.ok.inj hresults)
  exact ⟨first, second, htexts, hinterpretations, interpretStrategy_determines
    numeralRendering_keepsDigits numeralRendering_keepsDigits h₁ h₂ hinterpretations⟩

end Services
end TradingPlatform
