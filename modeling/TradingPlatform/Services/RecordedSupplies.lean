/-
  TradingPlatform.Services.RecordedSupplies

  What `normalize_strategy_draft` supplies is what it records, and the rest of
  the specification is what the draft gave.

  `supplied` is the inventory: one entry for a value that the draft leaves out,
  none for a value that it gives.  Every function appends its own entries
  (`Recorded.Grows`), and the paths of all of them are a part of `recordPaths`,
  where each stands once.
-/

import TradingPlatform.Services.PlainReading
import TradingPlatform.Services.StrategyParser

namespace TradingPlatform
namespace Schemas

-- ============================================================================
-- What is kept and what is supplied
-- ============================================================================

/-- The path of a field and the value that was supplied for it. -/
abbrev SuppliedValue := String × FieldValue

/-- The field and the value of a default. -/
def AppliedDefault.entry (item : AppliedDefault) : SuppliedValue := (item.field, item.value)

/-- The field and the value of an assumption. -/
def StrategyAssumption.entry (item : StrategyAssumption) : SuppliedValue :=
  (item.field, item.inferredValue)

/-- A value that the draft gives is unchanged. -/
def Unchanged {α : Type} (draft : Option α) (value : α) : Prop :=
  ∀ given, draft = some given → value = given

/-- The entry of a value that the draft leaves out. -/
def supplied {α : Type} (draft : Option α) (path : String) (value : FieldValue) :
    List SuppliedValue :=
  match draft with
  | some _ => []
  | none => [(path, value)]

/-- The operand of the draft's type, with the used fields that the draft gives. -/
def OperandDraft.Unchanged (draft : OperandDraft) : Operand → Prop
  | .indicator name source period =>
      draft.type = .indicator ∧ Schemas.Unchanged draft.name name ∧
        Schemas.Unchanged draft.source source ∧ draft.period = some period
  | .price source => draft.type = .price ∧ Schemas.Unchanged draft.source source
  | .constant value => draft.type = .constant ∧ draft.value = some value

/-- The source, if the operand has one and the draft has none. -/
def OperandDraft.suppliedDefaults (draft : OperandDraft) (path : String) :
    Operand → List SuppliedValue
  | .indicator _ source _ | .price source =>
      supplied draft.source (path ++ ".source") (.text source)
  | .constant _ => []

/-- The indicator, if the operand has one and the draft has none. -/
def OperandDraft.suppliedAssumptions (draft : OperandDraft) (path : String) :
    Operand → List SuppliedValue
  | .indicator name _ _ => supplied draft.name (path ++ ".name") (.text name.value)
  | .price _ | .constant _ => []

/-- The used fields of the operand are given. -/
def OperandDraft.Complete (draft : OperandDraft) : Prop :=
  match draft.type with
  | .indicator => draft.name.isSome ∧ draft.source.isSome ∧ draft.period.isSome
  | .price => draft.source.isSome
  | .constant => draft.value.isSome

/-- Whatever the draft gave is in the condition. -/
structure ConditionDraft.Unchanged (draft : ConditionDraft) (condition : Condition) : Prop where
  left : draft.left.Unchanged condition.left
  operator : draft.operator = some condition.operator
  right : draft.right.Unchanged condition.right

/-- The defaults of both sides, the left one's first. -/
def ConditionDraft.suppliedDefaults (draft : ConditionDraft) (path : String)
    (condition : Condition) : List SuppliedValue :=
  draft.left.suppliedDefaults (path ++ ".left") condition.left ++
    draft.right.suppliedDefaults (path ++ ".right") condition.right

/-- The assumptions of both sides, the left one's first. -/
def ConditionDraft.suppliedAssumptions (draft : ConditionDraft) (path : String)
    (condition : Condition) : List SuppliedValue :=
  draft.left.suppliedAssumptions (path ++ ".left") condition.left ++
    draft.right.suppliedAssumptions (path ++ ".right") condition.right

/-- Nothing of the condition has to be supplied. -/
structure ConditionDraft.Complete (draft : ConditionDraft) : Prop where
  left : draft.left.Complete
  operator : draft.operator.isSome
  right : draft.right.Complete

/-- The values outside of the rules that the draft gives. -/
structure StrategyParseDraft.SettingsUnchanged (draft : StrategyParseDraft)
    (specification : StrategySpecification) : Prop where
  symbol : Unchanged draft.symbol specification.symbol
  interval : Unchanged draft.interval specification.interval
  direction : Unchanged draft.direction specification.execution.direction
  positionSizePercent :
    Unchanged draft.positionSizePercent specification.execution.positionSizePercent
  signalExecution : Unchanged draft.signalExecution specification.execution.signalExecution

/-- The settings that the draft does not give, in the order in which they are filled in. -/
def StrategyParseDraft.suppliedSettings (draft : StrategyParseDraft)
    (specification : StrategySpecification) : List SuppliedValue :=
  supplied draft.symbol "symbol" (.text specification.symbol) ++
    (supplied draft.interval "interval" (.text specification.interval) ++
    (supplied draft.direction "execution.direction" (.text specification.execution.direction) ++
    (supplied draft.positionSizePercent "execution.position_size_percent"
      (.integer specification.execution.positionSizePercent) ++
    supplied draft.signalExecution "execution.signal_execution"
      (.text specification.execution.signalExecution))))

/-- Nothing of the draft has to be supplied. -/
structure StrategyParseDraft.Complete (draft : StrategyParseDraft) : Prop where
  symbol : draft.symbol.isSome
  interval : draft.interval.isSome
  entry : ∃ entry, draft.entry = some entry ∧ entry.Complete
  exit : ∃ exit, draft.exit = some exit ∧ exit.Complete
  direction : draft.direction.isSome
  positionSizePercent : draft.positionSizePercent.isSome
  signalExecution : draft.signalExecution.isSome

/-- The specification is what the draft says. -/
structure StrategyParseDraft.Says (draft : StrategyParseDraft)
    (specification : StrategySpecification) : Prop where
  symbol : draft.symbol = some specification.symbol
  interval : draft.interval = some specification.interval
  entry : ∃ entry, draft.entry = some entry ∧ entry.Unchanged specification.entry
  exit : ∃ exit, draft.exit = some exit ∧ exit.Unchanged specification.exit
  direction : draft.direction = some specification.execution.direction
  positionSizePercent :
    draft.positionSizePercent = some specification.execution.positionSizePercent
  signalExecution : draft.signalExecution = some specification.execution.signalExecution

-- ============================================================================
-- The paths of the records
-- ============================================================================

/-- The paths of a field in the two operands of a rule. -/
def operandPaths (field : String) (rule : String) : List String :=
  [rule ++ ".left" ++ field, rule ++ ".right" ++ field]

/-- Every path that is ever recorded, those of the defaults first. -/
def recordPaths : List String :=
  (["symbol", "interval", "execution.direction", "execution.position_size_percent",
    "execution.signal_execution"] ++
    (operandPaths ".source" "entry" ++ operandPaths ".source" "exit")) ++
  (["entry", "exit", "entry_and_exit"] ++
    (operandPaths ".name" "entry" ++ operandPaths ".name" "exit"))

theorem recordPaths_nodup : recordPaths.Nodup := by
  decide +kernel

theorem supplied_paths {α : Type} (draft : Option α) (path : String) (value : FieldValue) :
    ((supplied draft path value).map Prod.fst).Sublist [path] := by
  cases draft with
  | some given => exact List.nil_sublist _
  | none => exact .refl _

theorem OperandDraft.suppliedDefaults_paths (draft : OperandDraft) (path : String)
    (operand : Operand) :
    ((draft.suppliedDefaults path operand).map Prod.fst).Sublist [path ++ ".source"] := by
  cases operand with
  | indicator name source period => exact supplied_paths ..
  | price source => exact supplied_paths ..
  | constant value => exact List.nil_sublist _

theorem OperandDraft.suppliedAssumptions_paths (draft : OperandDraft) (path : String)
    (operand : Operand) :
    ((draft.suppliedAssumptions path operand).map Prod.fst).Sublist [path ++ ".name"] := by
  cases operand with
  | indicator name source period => exact supplied_paths ..
  | price source => exact List.nil_sublist _
  | constant value => exact List.nil_sublist _

theorem ConditionDraft.suppliedDefaults_paths (draft : ConditionDraft) (path : String)
    (condition : Condition) :
    ((draft.suppliedDefaults path condition).map Prod.fst).Sublist
      (operandPaths ".source" path) := by
  rw [ConditionDraft.suppliedDefaults, List.map_append]
  exact (OperandDraft.suppliedDefaults_paths ..).append (OperandDraft.suppliedDefaults_paths ..)

theorem ConditionDraft.suppliedAssumptions_paths (draft : ConditionDraft) (path : String)
    (condition : Condition) :
    ((draft.suppliedAssumptions path condition).map Prod.fst).Sublist
      (operandPaths ".name" path) := by
  rw [ConditionDraft.suppliedAssumptions, List.map_append]
  exact (OperandDraft.suppliedAssumptions_paths ..).append
    (OperandDraft.suppliedAssumptions_paths ..)

theorem StrategyParseDraft.suppliedSettings_paths (draft : StrategyParseDraft)
    (specification : StrategySpecification) :
    ((draft.suppliedSettings specification).map Prod.fst).Sublist
      ["symbol", "interval", "execution.direction", "execution.position_size_percent",
        "execution.signal_execution"] := by
  simp only [StrategyParseDraft.suppliedSettings, List.map_append]
  exact (supplied_paths ..).append ((supplied_paths ..).append ((supplied_paths ..).append
    ((supplied_paths ..).append (supplied_paths ..))))

-- ============================================================================
-- A complete draft
-- ============================================================================

theorem Unchanged.eq_some {α : Type} {draft : Option α} {value : α} (h : Unchanged draft value)
    (hsome : draft.isSome) : draft = some value := by
  obtain ⟨given, hgiven⟩ := Option.isSome_iff_exists.mp hsome
  rw [hgiven, h given hgiven]

theorem supplied_of_isSome {α : Type} {draft : Option α} {path : String} {value : FieldValue}
    (hsome : draft.isSome) : supplied draft path value = [] := by
  obtain ⟨given, rfl⟩ := Option.isSome_iff_exists.mp hsome
  rfl

theorem OperandDraft.Complete.supplied_eq_nil {draft : OperandDraft} {operand : Operand}
    (hcomplete : draft.Complete) (h : draft.Unchanged operand) (path : String) :
    draft.suppliedDefaults path operand = [] ∧ draft.suppliedAssumptions path operand = [] := by
  unfold OperandDraft.Complete at hcomplete
  cases operand with
  | indicator name source period =>
      rw [h.1] at hcomplete
      exact ⟨supplied_of_isSome hcomplete.2.1, supplied_of_isSome hcomplete.1⟩
  | price source =>
      rw [h.1] at hcomplete
      exact ⟨supplied_of_isSome hcomplete, rfl⟩
  | constant value => exact ⟨rfl, rfl⟩

theorem ConditionDraft.Complete.supplied_eq_nil {draft : ConditionDraft} {condition : Condition}
    (hcomplete : draft.Complete) (h : draft.Unchanged condition) (path : String) :
    draft.suppliedDefaults path condition = [] ∧
      draft.suppliedAssumptions path condition = [] := by
  obtain ⟨hleftDefaults, hleftAssumptions⟩ :=
    hcomplete.left.supplied_eq_nil h.left (path ++ ".left")
  obtain ⟨hrightDefaults, hrightAssumptions⟩ :=
    hcomplete.right.supplied_eq_nil h.right (path ++ ".right")
  rw [ConditionDraft.suppliedDefaults, ConditionDraft.suppliedAssumptions, hleftDefaults,
    hrightDefaults, hleftAssumptions, hrightAssumptions]
  exact ⟨rfl, rfl⟩

theorem StrategyParseDraft.Complete.suppliedSettings_eq_nil {draft : StrategyParseDraft}
    (hcomplete : draft.Complete) (specification : StrategySpecification) :
    draft.suppliedSettings specification = [] := by
  rw [StrategyParseDraft.suppliedSettings, supplied_of_isSome hcomplete.symbol,
    supplied_of_isSome hcomplete.interval, supplied_of_isSome hcomplete.direction,
    supplied_of_isSome hcomplete.positionSizePercent,
    supplied_of_isSome hcomplete.signalExecution]
  rfl

end Schemas

namespace Services

open Schemas

-- ============================================================================
-- The rules of a draft
-- ============================================================================

/-- The other direction of a crossing. -/
inductive Opposite : Operator → Operator → Prop where
  | below : Opposite .crossesAbove .crossesBelow
  | above : Opposite .crossesBelow .crossesAbove

/-- The rules that a draft and its text stand for, and the entry of what was inferred. -/
inductive RulesOf (rendering : Rendering) (recognition : TextRecognition)
    (draft : StrategyParseDraft) (originalText : String) :
    ConditionDraft → ConditionDraft → List SuppliedValue → Prop where
  | drafted {entry exit : ConditionDraft} (hentry : draft.entry = some entry)
      (hexit : draft.exit = some exit) :
      RulesOf rendering recognition draft originalText entry exit []
  | entryInferred {entry exit : ConditionDraft} {operator opposite : Operator}
      (hentry : draft.entry = none) (hexit : draft.exit = some exit)
      (hoperator : exit.operator = some operator) (hopposite : Opposite operator opposite)
      (hinferred : entry = { exit with operator := some opposite }) :
      RulesOf rendering recognition draft originalText entry exit
        [("entry", .nested (entry.modelDump rendering))]
  | exitInferred {entry exit : ConditionDraft} {operator opposite : Operator}
      (hentry : draft.entry = some entry) (hexit : draft.exit = none)
      (hoperator : entry.operator = some operator) (hopposite : Opposite operator opposite)
      (hinferred : exit = { entry with operator := some opposite }) :
      RulesOf rendering recognition draft originalText entry exit
        [("exit", .nested (exit.modelDump rendering))]
  | shorthand {hint : NormalizationHint} {entryOperator exitOperator : Operator}
      (hentry : draft.entry = none) (hexit : draft.exit = none)
      (hhint : recognition.findNormalizationHint originalText = .ok (some hint))
      (hopposite : Opposite entryOperator exitOperator)
      (hbullish : hint.bullishEntry = true ↔ entryOperator = .crossesAbove) :
      RulesOf rendering recognition draft originalText
        (crossoverDraft hint.shortPeriod hint.longPeriod entryOperator)
        (crossoverDraft hint.shortPeriod hint.longPeriod exitOperator)
        [("entry_and_exit", .nested (.object
          [("entry", (crossoverDraft hint.shortPeriod hint.longPeriod entryOperator).modelDump
            rendering),
          ("exit", (crossoverDraft hint.shortPeriod hint.longPeriod exitOperator).modelDump
            rendering)]))]

-- ============================================================================
-- What each function records
-- ============================================================================

/-- The entries that are appended on the way from one record to the next. -/
structure Recorded.Grows (before after : Recorded) (defaults assumptions : List SuppliedValue) :
    Prop where
  defaults : after.defaults.map AppliedDefault.entry =
    before.defaults.map AppliedDefault.entry ++ defaults
  assumptions : after.assumptions.map StrategyAssumption.entry =
    before.assumptions.map StrategyAssumption.entry ++ assumptions

section Grows

variable {first second third : Recorded} {defaults₁ defaults₂ assumptions₁ assumptions₂ :
  List SuppliedValue}

theorem Recorded.Grows.refl (recorded : Recorded) : recorded.Grows recorded [] [] :=
  ⟨(List.append_nil _).symm, (List.append_nil _).symm⟩

theorem Recorded.Grows.trans (h₁ : first.Grows second defaults₁ assumptions₁)
    (h₂ : second.Grows third defaults₂ assumptions₂) :
    first.Grows third (defaults₁ ++ defaults₂) (assumptions₁ ++ assumptions₂) := by
  constructor
  · rw [h₂.defaults, h₁.defaults, List.append_assoc]
  · rw [h₂.assumptions, h₁.assumptions, List.append_assoc]

theorem Recorded.grows_applyDefault (recorded : Recorded) (field : String) (value : FieldValue)
    (reason : String) : recorded.Grows (recorded.applyDefault field value reason)
      [(field, value)] [] :=
  ⟨List.map_append, (List.append_nil _).symm⟩

theorem Recorded.grows_assume (recorded : Recorded) (field : String) (value : FieldValue)
    (reason : String) : recorded.Grows (recorded.assume field value reason)
      [] [(field, value)] :=
  ⟨(List.append_nil _).symm, List.map_append⟩

/-- A fixed value is recorded exactly when the draft leaves the field out. -/
theorem Recorded.orDefault_records {α : Type} {embed : α → FieldValue} {draft : Option α}
    {field reason : String} {value result : α}
    (h : first.orDefault embed draft field value reason = (result, second)) :
    Unchanged draft result ∧ first.Grows second (supplied draft field (embed result)) [] := by
  cases draft with
  | some given =>
      obtain ⟨rfl, rfl⟩ := Prod.mk.inj h
      exact ⟨fun _ h => Option.some.inj h, .refl first⟩
  | none =>
      obtain ⟨rfl, rfl⟩ := Prod.mk.inj h
      exact ⟨nofun, first.grows_applyDefault ..⟩

end Grows

section Rules

variable {recorded : Recorded}

theorem normalizeOperand_records {draft : OperandDraft} {fieldName : String}
    {operand : Operand} {after : Recorded}
    (h : normalizeOperand draft fieldName recorded = .ok (operand, after)) :
    draft.Unchanged operand ∧ recorded.Grows after (draft.suppliedDefaults fieldName operand)
      (draft.suppliedAssumptions fieldName operand) := by
  unfold normalizeOperand Recorded.sourceOrDefault at h
  split at h
  · rename_i htype
    split at h
    · cases h
    · rename_i period hperiod
      cases hname : draft.name with
      | some name =>
          rw [hname] at h
          obtain ⟨rfl, rfl⟩ := Prod.mk.inj (Except.ok.inj h)
          obtain ⟨hsource, hgrows⟩ := Recorded.orDefault_records rfl
          refine ⟨⟨htype, ?_, hsource, hperiod⟩, ?_⟩
          · rw [hname]
            exact fun _ h => Option.some.inj h
          · rw [OperandDraft.suppliedAssumptions, hname]
            exact hgrows
      | none =>
          rw [hname] at h
          obtain ⟨rfl, rfl⟩ := Prod.mk.inj (Except.ok.inj h)
          obtain ⟨hsource, hgrows⟩ := Recorded.orDefault_records rfl
          refine ⟨⟨htype, ?_, hsource, hperiod⟩, ?_⟩
          · rw [hname]
            exact nofun
          · rw [OperandDraft.suppliedAssumptions, hname]
            exact (recorded.grows_assume ..).trans hgrows
  · rename_i htype
    obtain ⟨rfl, rfl⟩ := Prod.mk.inj (Except.ok.inj h)
    obtain ⟨hsource, hgrows⟩ := Recorded.orDefault_records rfl
    exact ⟨⟨htype, hsource⟩, hgrows⟩
  · rename_i htype
    split at h
    · cases h
    · rename_i value hvalue
      obtain ⟨rfl, rfl⟩ := Prod.mk.inj (Except.ok.inj h)
      exact ⟨⟨htype, hvalue⟩, .refl recorded⟩

theorem normalizeCondition_records {draft : ConditionDraft} {fieldName : String}
    {condition : Condition} {after : Recorded}
    (h : normalizeCondition draft fieldName recorded = .ok (condition, after)) :
    draft.Unchanged condition ∧ recorded.Grows after
      (draft.suppliedDefaults fieldName condition)
      (draft.suppliedAssumptions fieldName condition) := by
  unfold normalizeCondition at h
  split at h
  · cases h
  · rename_i operator hoperator
    obtain ⟨⟨left, afterLeft⟩, hleft, h⟩ := Python.bind_eq_ok h
    obtain ⟨⟨right, afterRight⟩, hright, h⟩ := Python.bind_eq_ok h
    obtain ⟨rfl, rfl⟩ := Prod.mk.inj (Except.ok.inj h)
    obtain ⟨hleftKept, hleftGrows⟩ := normalizeOperand_records hleft
    obtain ⟨hrightKept, hrightGrows⟩ := normalizeOperand_records hright
    exact ⟨⟨hleftKept, hoperator, hrightKept⟩, hleftGrows.trans hrightGrows⟩

theorem oppositeCrossoverDraft_eq_ok {condition opposite : ConditionDraft}
    (h : oppositeCrossoverDraft condition = .ok opposite) :
    ∃ operator other, condition.operator = some operator ∧ Opposite operator other ∧
      opposite = { condition with operator := some other } := by
  unfold oppositeCrossoverDraft at h
  split at h
  · rename_i hoperator
    exact ⟨_, _, hoperator, .below, (Except.ok.inj h).symm⟩
  · rename_i hoperator
    exact ⟨_, _, hoperator, .above, (Except.ok.inj h).symm⟩
  · cases h

theorem resolveRules_records {rendering : Rendering} {recognition : TextRecognition}
    {draft : StrategyParseDraft} {originalText : String} {entry exit : ConditionDraft}
    {after : Recorded}
    (h : resolveRules rendering recognition draft originalText recorded =
      .ok (entry, exit, after)) :
    ∃ inferred, RulesOf rendering recognition draft originalText entry exit inferred ∧
      recorded.Grows after [] inferred := by
  unfold resolveRules at h
  split at h
  · rename_i hentry hexit
    cases h
    exact ⟨[], .drafted hentry hexit, .refl recorded⟩
  · rename_i hentry hexit
    obtain ⟨inferred, hinferred, h⟩ := Python.bind_eq_ok h
    cases h
    obtain ⟨operator, opposite, hoperator, hopposite, heq⟩ :=
      oppositeCrossoverDraft_eq_ok hinferred
    exact ⟨_, .entryInferred hentry hexit hoperator hopposite heq, recorded.grows_assume ..⟩
  · rename_i hentry hexit
    obtain ⟨inferred, hinferred, h⟩ := Python.bind_eq_ok h
    cases h
    obtain ⟨operator, opposite, hoperator, hopposite, heq⟩ :=
      oppositeCrossoverDraft_eq_ok hinferred
    exact ⟨_, .exitInferred hentry hexit hoperator hopposite heq, recorded.grows_assume ..⟩
  · rename_i hentry hexit
    obtain ⟨found, hfound, h⟩ := Python.bind_eq_ok h
    split at h
    · rename_i hint
      cases hbullish : hint.bullishEntry
      · simp only [inferShorthandPair, hbullish] at h
        cases h
        exact ⟨_, .shorthand hentry hexit hfound .above (by simp [hbullish]),
          recorded.grows_assume ..⟩
      · simp only [inferShorthandPair, hbullish] at h
        cases h
        exact ⟨_, .shorthand hentry hexit hfound .below (by simp [hbullish]),
          recorded.grows_assume ..⟩
    · cases h

end Rules

-- ============================================================================
-- What the rules of a draft are
-- ============================================================================

section Rules

variable {rendering : Rendering} {recognition : TextRecognition} {draft : StrategyParseDraft}
  {originalText : String} {entry exit : ConditionDraft} {inferred : List SuppliedValue}

theorem RulesOf.inferred_paths
    (h : RulesOf rendering recognition draft originalText entry exit inferred) :
    (inferred.map Prod.fst).Sublist ["entry", "exit", "entry_and_exit"] := by
  cases h <;> simp only [List.map_nil, List.map_cons] <;> decide

/-- Rules that the draft gives are the ones normalized. -/
theorem RulesOf.given (h : RulesOf rendering recognition draft originalText entry exit inferred) :
    (∀ given, draft.entry = some given → entry = given) ∧
      ∀ given, draft.exit = some given → exit = given := by
  cases h <;> simp_all

theorem RulesOf.inferred_eq_nil
    (h : RulesOf rendering recognition draft originalText entry exit inferred)
    (hentry : draft.entry = some entry) (hexit : draft.exit = some exit) : inferred = [] := by
  cases h with
  | drafted => rfl
  | entryInferred hnone => cases hnone.symm.trans hentry
  | exitInferred _ hnone => cases hnone.symm.trans hexit
  | shorthand hnone => cases hnone.symm.trans hentry

end Rules

-- ============================================================================
-- The draft
-- ============================================================================

section Results

variable {rendering : Rendering} {recognition : TextRecognition} {draft : StrategyParseDraft}
  {originalText : String} {specification : StrategySpecification} {entry exit : ConditionDraft}
  {inferred : List SuppliedValue} {recorded : Recorded}

/-- The records of the whole draft. -/
structure RecordsOf (draft : StrategyParseDraft) (specification : StrategySpecification)
    (entry exit : ConditionDraft) (inferred : List SuppliedValue) (recorded : Recorded) :
    Prop where
  defaults : recorded.defaults.map AppliedDefault.entry =
    draft.suppliedSettings specification ++
      (entry.suppliedDefaults "entry" specification.entry ++
        exit.suppliedDefaults "exit" specification.exit)
  assumptions : recorded.assumptions.map StrategyAssumption.entry =
    inferred ++ (entry.suppliedAssumptions "entry" specification.entry ++
      exit.suppliedAssumptions "exit" specification.exit)

theorem RecordsOf.nodup (h : RecordsOf draft specification entry exit inferred recorded)
    (hrules : RulesOf rendering recognition draft originalText entry exit inferred) :
    (recorded.defaults.map (·.field) ++ recorded.assumptions.map (·.field)).Nodup := by
  have hdefaults : recorded.defaults.map (·.field) =
      (recorded.defaults.map AppliedDefault.entry).map Prod.fst := by
    rw [List.map_map]
    rfl
  have hassumptions : recorded.assumptions.map (·.field) =
      (recorded.assumptions.map StrategyAssumption.entry).map Prod.fst := by
    rw [List.map_map]
    rfl
  rw [hdefaults, hassumptions, h.defaults, h.assumptions]
  simp only [List.map_append]
  refine recordPaths_nodup.sublist
    (.append (.append ?_ (.append ?_ ?_)) (.append ?_ (.append ?_ ?_)))
  · exact draft.suppliedSettings_paths specification
  · exact entry.suppliedDefaults_paths "entry" specification.entry
  · exact exit.suppliedDefaults_paths "exit" specification.exit
  · exact hrules.inferred_paths
  · exact entry.suppliedAssumptions_paths "entry" specification.entry
  · exact exit.suppliedAssumptions_paths "exit" specification.exit

end Results

/-- Nothing is filled in silently: the specification has every value of the draft, each value
    it has beyond them is recorded once under its path, and confirmation is asked for exactly
    when something was assumed. -/
theorem normalizeStrategyDraft_recordsSupplied {rendering : Rendering}
    {recognition : TextRecognition} {draft : StrategyParseDraft} {originalText : String}
    {result : ParsedStrategyResult}
    (h : normalizeStrategyDraft rendering recognition draft originalText = .ok result) :
    draft.SettingsUnchanged result.specification ∧
    (∀ entry, draft.entry = some entry → entry.Unchanged result.specification.entry) ∧
    (∀ exit, draft.exit = some exit → exit.Unchanged result.specification.exit) ∧
    (∃ entry exit inferred,
      RulesOf rendering recognition draft originalText entry exit inferred ∧
      entry.Unchanged result.specification.entry ∧ exit.Unchanged result.specification.exit ∧
      RecordsOf draft result.specification entry exit inferred
        ⟨result.defaultsApplied, result.assumptions⟩) ∧
    (result.defaultsApplied.map (·.field) ++ result.assumptions.map (·.field)).Nodup ∧
    (result.requiresConfirmation = true ↔ result.assumptions ≠ []) ∧
    (draft.Complete →
      draft.Says result.specification ∧ result.defaultsApplied = [] ∧ result.assumptions = []) := by
  unfold normalizeStrategyDraft at h
  extract_lets start at h
  split at h
  rename_i symbol afterSymbol hsymbol
  split at h
  rename_i interval afterInterval hinterval
  split at h
  rename_i direction afterDirection hdirection
  split at h
  rename_i positionSize afterPositionSize hpositionSize
  split at h
  rename_i signalExecution afterSettings hsignalExecution
  obtain ⟨⟨entryDraft, exitDraft, afterRules⟩, hrules, h⟩ := Python.bind_eq_ok h
  obtain ⟨riskControls, -, h⟩ := Python.bind_eq_ok h
  obtain ⟨⟨entry, afterEntry⟩, hentry, h⟩ := Python.bind_eq_ok h
  obtain ⟨⟨exit, afterExit⟩, hexit, h⟩ := Python.bind_eq_ok h
  obtain ⟨⟨⟩, hsemantics, h⟩ := Python.bind_eq_ok h
  obtain rfl := Except.ok.inj h
  obtain ⟨hsymbolKept, hgrows₁⟩ := Recorded.orDefault_records hsymbol
  obtain ⟨hintervalKept, hgrows₂⟩ := Recorded.orDefault_records hinterval
  obtain ⟨hdirectionKept, hgrows₃⟩ := Recorded.orDefault_records hdirection
  obtain ⟨hpositionSizeKept, hgrows₄⟩ := Recorded.orDefault_records hpositionSize
  obtain ⟨hsignalExecutionKept, hgrows₅⟩ := Recorded.orDefault_records hsignalExecution
  obtain ⟨inferred, hrulesOf, hgrows₆⟩ := resolveRules_records hrules
  obtain ⟨hentryKept, hgrows₇⟩ := normalizeCondition_records hentry
  obtain ⟨hexitKept, hgrows₈⟩ := normalizeCondition_records hexit
  have hgrows := hgrows₁.trans (hgrows₂.trans (hgrows₃.trans (hgrows₄.trans hgrows₅)))
    |>.trans (hgrows₆.trans (hgrows₇.trans hgrows₈))
  have hrecords : RecordsOf draft ⟨"1.0", symbol, interval, entry, exit,
      ⟨direction, positionSize, signalExecution⟩, riskControls.stopLossPercent,
      riskControls.takeProfitPercent⟩ entryDraft exitDraft inferred afterExit :=
    ⟨hgrows.defaults, hgrows.assumptions⟩
  refine ⟨⟨hsymbolKept, hintervalKept, hdirectionKept, hpositionSizeKept,
    hsignalExecutionKept⟩, ?_, ?_, ⟨entryDraft, exitDraft, inferred, hrulesOf, hentryKept,
    hexitKept, hrecords⟩, hrecords.nodup hrulesOf, ?_, ?_⟩
  · rintro given hgiven
    obtain rfl := hrulesOf.given.1 given hgiven
    exact hentryKept
  · rintro given hgiven
    obtain rfl := hrulesOf.given.2 given hgiven
    exact hexitKept
  · simp
  · intro hcomplete
    obtain ⟨givenEntry, hgivenEntry, hentryComplete⟩ := hcomplete.entry
    obtain ⟨givenExit, hgivenExit, hexitComplete⟩ := hcomplete.exit
    obtain rfl := hrulesOf.given.1 givenEntry hgivenEntry
    obtain rfl := hrulesOf.given.2 givenExit hgivenExit
    refine ⟨⟨hsymbolKept.eq_some hcomplete.symbol, hintervalKept.eq_some hcomplete.interval,
      ⟨_, hgivenEntry, hentryKept⟩, ⟨_, hgivenExit, hexitKept⟩,
      hdirectionKept.eq_some hcomplete.direction,
      hpositionSizeKept.eq_some hcomplete.positionSizePercent,
      hsignalExecutionKept.eq_some hcomplete.signalExecution⟩, ?_, ?_⟩
    · refine List.map_eq_nil_iff.mp (hrecords.defaults.trans ?_)
      rw [hcomplete.suppliedSettings_eq_nil, (hentryComplete.supplied_eq_nil hentryKept _).1,
        (hexitComplete.supplied_eq_nil hexitKept _).1]
      rfl
    · refine List.map_eq_nil_iff.mp (hrecords.assumptions.trans ?_)
      rw [hrulesOf.inferred_eq_nil hgivenEntry hgivenExit,
        (hentryComplete.supplied_eq_nil hentryKept _).2,
        (hexitComplete.supplied_eq_nil hexitKept _).2]
      rfl

/-- Only an entry, of averages without a type. -/
def entryOnlyDraft : StrategyParseDraft where
  symbol := none
  interval := none
  entry := some (crossoverDraft 20 50 .crossesAbove)
  exit := none
  direction := none
  positionSizePercent := none
  signalExecution := none

/-- Nine defaults and five assumptions, each once. -/
theorem normalizeStrategyDraft_recordsSupplied_entry_only : ∃ result : ParsedStrategyResult,
    normalizeStrategyDraft plainRendering plainText entryOnlyDraft
      "Buy when the 20-day average crosses above the 50-day average." = .ok result ∧
    result.assumptions.map (·.field) =
      ["exit", "entry.left.name", "entry.right.name", "exit.left.name", "exit.right.name"] ∧
    entryOnlyDraft.SettingsUnchanged result.specification ∧
    (crossoverDraft 20 50 .crossesAbove).Unchanged result.specification.entry ∧
    (result.defaultsApplied.map (·.field) ++ result.assumptions.map (·.field)).Nodup ∧
    (result.requiresConfirmation = true ↔ result.assumptions ≠ []) := by
  obtain ⟨result, hresult, hassumptions⟩ : ∃ result : ParsedStrategyResult,
      normalizeStrategyDraft plainRendering plainText entryOnlyDraft
        "Buy when the 20-day average crosses above the 50-day average." = .ok result ∧
      result.assumptions.map (·.field) =
        ["exit", "entry.left.name", "entry.right.name", "exit.left.name", "exit.right.name"] :=
    Python.exists_ok_of_any (by decide +kernel)
  obtain ⟨hsettings, hentry, -, -, hnodup, hconfirmation, -⟩ :=
    normalizeStrategyDraft_recordsSupplied hresult
  exact ⟨result, hresult, hassumptions, hsettings, hentry _ rfl, hnodup, hconfirmation⟩

end Services
end TradingPlatform
