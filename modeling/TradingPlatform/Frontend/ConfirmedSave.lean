/-
  TradingPlatform.Frontend.ConfirmedSave

  A preview on its way back: the page keeps what it was sent, and its save sends
  the parsed strategy to `save_confirmed_strategy`.

  The text passes through two languages twice.  `trim` of the page and the
  stripping of the payloads differ in two characters, and the page's numbers are
  doubles.  What the server reads again is nevertheless what it had parsed,
  because every recorded value is a text, a small integer or a nested document
  (`FieldValue.Portable`).
-/

import TradingPlatform.Api.Strategies
import TradingPlatform.Frontend.PreviewJobGuard
import TradingPlatform.Frontend.StrategyWorkspace
import TradingPlatform.Services.RecordedSupplies

namespace TradingPlatform

-- ============================================================================
-- A specification is sent back as it was
-- ============================================================================

namespace Schemas

open JavaScript Pydantic Services

section Specification

variable {print : Decimal → Json} (hprint : PrintsIntegers print) (rendering : Rendering)
include hprint

theorem Operand.transfer_modelDump {operand : Operand} (hvalid : operand.Valid) :
    transfer print (operand.modelDump rendering) = operand.modelDump rendering := by
  cases operand with
  | indicator name source period =>
      have hperiod : |period| < 2 ^ 53 := by
        rw [abs_of_nonneg (by linarith [hvalid.1])]
        exact lt_of_le_of_lt hvalid.2 (by norm_num)
      simp [Operand.modelDump, transfer_int hprint hperiod]
  | price source => simp [Operand.modelDump]
  | constant value => simp [Operand.modelDump]

theorem Condition.transfer_modelDump {condition : Condition} (hvalid : condition.Valid) :
    transfer print (condition.modelDump rendering) = condition.modelDump rendering := by
  simp [Condition.modelDump, Operand.transfer_modelDump hprint rendering hvalid.left,
    Operand.transfer_modelDump hprint rendering hvalid.right]

/-- Its only numbers are the periods, of at most 1000, and the position size. -/
theorem StrategySpecification.transfer_modelDump {specification : StrategySpecification}
    (hvalid : specification.Valid)
    (hsize : specification.execution.positionSizePercent = 100) :
    transfer print (specification.modelDump rendering) = specification.modelDump rendering := by
  have hexecution : transfer print specification.execution.modelDump =
      specification.execution.modelDump := by
    simp [ExecutionSettings.modelDump, hsize, transfer_int hprint (n := 100) (by norm_num)]
  simp [StrategySpecification.modelDump, hexecution,
    Condition.transfer_modelDump hprint rendering hvalid.entry,
    Condition.transfer_modelDump hprint rendering hvalid.exit, transfer_ofOption_str]

end Specification

-- ============================================================================
-- Recorded values
-- ============================================================================

/-- A text or an integer of at most 53 bits: it is sent back as it was. -/
def FieldValue.Scalar : FieldValue → Prop
  | .text _ => True
  | .integer n => |n| < 2 ^ 53
  | _ => False

/-- A value that is sent back as one of the same kind. -/
def FieldValue.Portable : FieldValue → Prop
  | .nested (.object _) => True
  | value => value.Scalar

theorem FieldValue.Scalar.selfReading {value : FieldValue} (h : value.Scalar) :
    value.SelfReading := by
  match value, h with
  | .text _, _ | .integer _, _ => trivial

theorem FieldValue.Scalar.portable {value : FieldValue} (h : value.Scalar) : value.Portable := by
  match value, h with
  | .text _, _ => trivial
  | .integer _, h => exact h

/-- What comes back: a nested document has its numbers rounded. -/
def FieldValue.transferred (print : Decimal → Json) : FieldValue → FieldValue
  | .nested value => .nested (transfer print value)
  | value => value

/-- The item as the page sends it back. -/
def StrategyAssumption.transferred (print : Decimal → Json) (item : StrategyAssumption) :
    StrategyAssumption :=
  { item with inferredValue := item.inferredValue.transferred print }

section Recorded

variable {print : Decimal → Json} (hprint : PrintsIntegers print) (rendering : Rendering)

theorem FieldValue.transferred_selfReading {value : FieldValue} (hvalue : value.Portable) :
    (value.transferred print).SelfReading := by
  match value, hvalue with
  | .text _, _ | .integer _, _ => trivial
  | .nested (.object entries), _ =>
      rw [transferred, transfer_object]
      trivial

include hprint

theorem FieldValue.transfer_modelDump {value : FieldValue} (hvalue : value.Portable) :
    transfer print (value.modelDump rendering) =
      (value.transferred print).modelDump rendering := by
  match value, hvalue with
  | .text _, _ => rfl
  | .integer n, hn => exact transfer_int hprint hn
  | .nested (.object entries), _ => rfl

theorem AppliedDefault.transfer_modelDump {item : AppliedDefault} (hitem : item.value.Scalar) :
    transfer print (item.modelDump rendering) = item.modelDump rendering := by
  have hvalue : transfer print (item.value.modelDump rendering) =
      item.value.modelDump rendering := by
    match item.value, hitem with
    | .text _, _ => rfl
    | .integer n, hn => exact transfer_int hprint hn
  simp [AppliedDefault.modelDump, hvalue]

theorem StrategyAssumption.transfer_modelDump {item : StrategyAssumption}
    (hitem : item.inferredValue.Portable) :
    transfer print (item.modelDump rendering) =
      (item.transferred print).modelDump rendering := by
  simp [StrategyAssumption.modelDump, StrategyAssumption.transferred,
    FieldValue.transfer_modelDump hprint rendering hitem]

end Recorded

end Schemas

-- ============================================================================
-- What a normalized draft records is portable
-- ============================================================================

namespace Services

open Schemas

/-- Recorded values that survive the way through the page. -/
structure Recorded.Portable (recorded : Recorded) : Prop where
  defaults : ∀ item ∈ recorded.defaults, item.value.Scalar
  assumptions : ∀ item ∈ recorded.assumptions, item.inferredValue.Portable

theorem scalar_text (value : String) : (FieldValue.text value).Scalar := trivial

section Portable

variable {before after : Recorded} {defaults assumptions : List SuppliedValue}

theorem Recorded.Portable.grows (hbefore : before.Portable)
    (hgrows : before.Grows after defaults assumptions)
    (hdefaults : ∀ entry ∈ defaults, entry.2.Scalar)
    (hassumptions : ∀ entry ∈ assumptions, entry.2.Portable) : after.Portable := by
  constructor
  · intro item hitem
    have hentry : item.entry ∈ after.defaults.map AppliedDefault.entry := List.mem_map_of_mem hitem
    rw [hgrows.defaults, List.mem_append] at hentry
    rcases hentry with hold | hnew
    · obtain ⟨other, hother, heq⟩ := List.mem_map.mp hold
      have hvalue : other.value = item.value := congrArg Prod.snd heq
      rw [← hvalue]
      exact hbefore.defaults other hother
    · exact hdefaults item.entry hnew
  · intro item hitem
    have hentry : item.entry ∈ after.assumptions.map StrategyAssumption.entry :=
      List.mem_map_of_mem hitem
    rw [hgrows.assumptions, List.mem_append] at hentry
    rcases hentry with hold | hnew
    · obtain ⟨other, hother, heq⟩ := List.mem_map.mp hold
      have hvalue : other.inferredValue = item.inferredValue := congrArg Prod.snd heq
      rw [← hvalue]
      exact hbefore.assumptions other hother
    · exact hassumptions item.entry hnew

theorem forall_mem_supplied {P : FieldValue → Prop} {α : Type} (draft : Option α) (path : String)
    {value : FieldValue} (hvalue : P value) : ∀ entry ∈ supplied draft path value, P entry.2 := by
  cases draft with
  | some given => exact fun _ hentry => absurd hentry List.not_mem_nil
  | none => exact List.forall_mem_singleton.mpr hvalue

theorem ConditionDraft.suppliedDefaults_scalar (draft : ConditionDraft) (path : String)
    (condition : Condition) :
    ∀ entry ∈ draft.suppliedDefaults path condition, entry.2.Scalar := by
  have hoperand : ∀ (draft : OperandDraft) (path : String) (operand : Operand),
      ∀ entry ∈ draft.suppliedDefaults path operand, entry.2.Scalar := by
    intro draft path operand
    cases operand with
    | indicator | price => exact forall_mem_supplied _ _ (scalar_text _)
    | constant value => exact fun _ hentry => absurd hentry List.not_mem_nil
  intro entry hentry
  rcases List.mem_append.mp hentry with hleft | hright
  · exact hoperand _ _ _ entry hleft
  · exact hoperand _ _ _ entry hright

theorem ConditionDraft.suppliedAssumptions_portable (draft : ConditionDraft) (path : String)
    (condition : Condition) :
    ∀ entry ∈ draft.suppliedAssumptions path condition, entry.2.Portable := by
  have hoperand : ∀ (draft : OperandDraft) (path : String) (operand : Operand),
      ∀ entry ∈ draft.suppliedAssumptions path operand, entry.2.Portable := by
    intro draft path operand
    cases operand with
    | indicator => exact forall_mem_supplied _ _ (scalar_text _).portable
    | price | constant => exact fun _ hentry => absurd hentry List.not_mem_nil
  intro entry hentry
  rcases List.mem_append.mp hentry with hleft | hright
  · exact hoperand _ _ _ entry hleft
  · exact hoperand _ _ _ entry hright

theorem RulesOf.inferred_portable {rendering : Rendering} {recognition : TextRecognition}
    {draft : StrategyParseDraft} {originalText : String} {entry exit : ConditionDraft}
    {inferred : List SuppliedValue}
    (h : RulesOf rendering recognition draft originalText entry exit inferred) :
    ∀ item ∈ inferred, item.2.Portable := by
  cases h with
  | drafted => exact fun _ hitem => absurd hitem List.not_mem_nil
  | entryInferred | exitInferred | shorthand => exact List.forall_mem_singleton.mpr trivial

theorem Recorded.Portable.orDefault {α : Type} (hbefore : before.Portable)
    {embed : α → FieldValue} {value : α} (hvalue : (embed value).Scalar) (draft : Option α)
    (field reason : String) : (before.orDefault embed draft field value reason).2.Portable := by
  cases draft with
  | some given => exact hbefore
  | none =>
      exact hbefore.grows (before.grows_applyDefault field (embed value) reason)
        (List.forall_mem_singleton.mpr hvalue) fun _ hentry => absurd hentry List.not_mem_nil

theorem normalizeCondition_portable {draft : ConditionDraft} {fieldName : String}
    {condition : Condition} (hbefore : before.Portable)
    (h : normalizeCondition draft fieldName before = .ok (condition, after)) : after.Portable :=
  hbefore.grows (normalizeCondition_records h).2
    (ConditionDraft.suppliedDefaults_scalar draft fieldName condition)
    (ConditionDraft.suppliedAssumptions_portable draft fieldName condition)

end Portable

/-- The only recorded number outside of a nested document is the position size. -/
theorem normalizeStrategyDraft_portable {rendering : Rendering} {recognition : TextRecognition}
    {draft : StrategyParseDraft} {originalText : String} {result : ParsedStrategyResult}
    (h : normalizeStrategyDraft rendering recognition draft originalText = .ok result) :
    (⟨result.defaultsApplied, result.assumptions⟩ : Recorded).Portable := by
  obtain ⟨⟨entryDraft, exitDraft, afterRules⟩, hrules, h⟩ := Python.bind_eq_ok h
  obtain ⟨riskControls, -, h⟩ := Python.bind_eq_ok h
  obtain ⟨⟨entry, afterEntry⟩, hentry, h⟩ := Python.bind_eq_ok h
  obtain ⟨⟨exit, afterExit⟩, hexit, h⟩ := Python.bind_eq_ok h
  obtain ⟨⟨⟩, hsemantics, h⟩ := Python.bind_eq_ok h
  obtain rfl := Except.ok.inj h
  obtain ⟨inferred, hinferred, hgrows⟩ := resolveRules_records hrules
  refine normalizeCondition_portable (normalizeCondition_portable ?_ hentry) hexit
  refine Recorded.Portable.grows ?_ hgrows (fun _ hentry => absurd hentry List.not_mem_nil)
    hinferred.inferred_portable
  have hempty : (Recorded.mk [] []).Portable :=
    ⟨fun _ h => absurd h List.not_mem_nil, fun _ h => absurd h List.not_mem_nil⟩
  have hsize : (FieldValue.integer 100).Scalar := by
    show |(100 : Int)| < 2 ^ 53
    norm_num
  refine .orDefault (.orDefault (.orDefault (.orDefault (.orDefault hempty ?_ ..) ?_ ..) ?_ ..)
    hsize ..) ?_ ..
  · exact scalar_text "SPY"
  · exact scalar_text "1d"
  · exact scalar_text "long"
  · exact scalar_text "next_bar_open"

/-- The interpretation reads of an assumption its reason only. -/
theorem interpretStrategy_transferred (rendering : Rendering) (print : Decimal → Json)
    (result : ParsedStrategyResult) :
    interpretStrategy rendering
        { result with assumptions := result.assumptions.map (·.transferred print) } =
      interpretStrategy rendering result := by
  have hreasons : (result.assumptions.map (·.transferred print)).map (·.reason) =
      result.assumptions.map (·.reason) := by
    rw [List.map_map]
    rfl
  unfold interpretStrategy
  rw [hreasons]
  rfl

end Services

-- ============================================================================
-- Stripped texts
-- ============================================================================

namespace Schemas

open Pydantic

theorem stripWhitespace_length_le (value : String) :
    (stripWhitespace value).length ≤ value.length := by
  have hleft := (List.dropWhile_suffix isWhitespace (l := value.toList)).length_le
  have hright := (List.dropWhile_suffix isWhitespace
    (l := (value.toList.dropWhile isWhitespace).reverse)).length_le
  rw [List.length_reverse] at hright
  rw [stripWhitespace, String.length_ofList, List.length_reverse, ← String.length_toList]
  exact hright.trans hleft

/-- A text of any length, as long as a character remains. -/
theorem strippedString_str {maxLength : Option Nat} {value : String}
    (hlength : ∀ bound ∈ maxLength, value.length ≤ bound) :
    strippedString maxLength (.str value) =
      if stripWhitespace value = "" then .error .malformed else .ok (stripWhitespace value) := by
  have hbound : ∀ bound ∈ maxLength, (stripWhitespace value).length ≤ bound :=
    fun bound hbound => (stripWhitespace_length_le value).trans (hlength bound hbound)
  unfold strippedString
  rw [show string (.str value) = .ok value from rfl, Python.ok_bind]
  dsimp only
  by_cases hempty : stripWhitespace value = ""
  · rw [if_pos hempty, if_neg]
    · rfl
    · rw [hempty]
      exact fun h => absurd h.1 (by decide)
  · have hpositive : 1 ≤ (stripWhitespace value).length :=
      Nat.one_le_iff_ne_zero.mpr fun hzero => hempty (String.length_eq_zero_iff.mp hzero)
    rw [if_neg hempty, if_pos ⟨hpositive, hbound⟩]
    rfl

/-- A review whose save the server reads as it was written. -/
structure ParsedStrategyReview.Savable (review : ParsedStrategyReview) : Prop where
  schemaValid : review.specification.SchemaValid
  valid : review.specification.Valid
  defaultsApplied : ∀ item ∈ review.defaultsApplied, item.value.Scalar
  assumptions : ∀ item ∈ review.assumptions,
    item.inferredValue.Portable ∧ item.requiresConfirmation = true
  requiresConfirmation_eq : review.requiresConfirmation = !review.assumptions.isEmpty

end Schemas

-- ============================================================================
-- The requests of the page
-- ============================================================================

namespace Frontend

open JavaScript Pydantic Services
open Schemas (stripWhitespace StrategyPreviewRequest StrategyPreviewResponse
  ParsedStrategyReview ParsedStrategyResult StrategyAssumption)

/-- The body of `enqueueStrategyPreview`. -/
def previewBody (text : String) : Json := .object [("text", .str text)]

/-- `JSON.stringify` of the request. -/
def ConfirmedStrategySaveRequest.toJson (request : ConfirmedStrategySaveRequest) : Json :=
  .object [("name", .str request.name), ("source_text", .str request.sourceText),
    ("specification", request.specification), ("defaults_applied", request.defaultsApplied),
    ("assumptions", request.assumptions),
    ("requires_confirmation", .bool request.requiresConfirmation),
    ("confirmed", .bool request.confirmed)]

/-- The body of `saveConfirmedStrategy`, as the server reads it. -/
def ConfirmedStrategySaveRequest.body (print : Decimal → Json)
    (request : ConfirmedStrategySaveRequest) : Json :=
  transfer print request.toJson

theorem StrategyPreview.ofJson_modelDump (rendering : Rendering)
    (result : StrategyPreviewResponse) :
    (StrategyPreview.ofJson (result.modelDump rendering)).parsedStrategy =
      { specification := result.parsedStrategy.specification.modelDump rendering
        defaultsApplied := .array (result.parsedStrategy.defaultsApplied.map
          (·.modelDump rendering))
        assumptions := .array (result.parsedStrategy.assumptions.map (·.modelDump rendering))
        requiresConfirmation := result.parsedStrategy.requiresConfirmation
        originalText := result.parsedStrategy.originalText
        interpretation := result.parsedStrategy.interpretation } := rfl

section Save

variable {reading : Reading} {serialization : Rendering} {print : Decimal → Json}
  {review : ParsedStrategyReview} {name sourceText : String}

/-- The save of a page that shows a review. -/
def reviewSave (rendering : Rendering) (name sourceText : String)
    (review : ParsedStrategyReview) : ConfirmedStrategySaveRequest where
  name := name
  sourceText := sourceText
  specification := review.specification.modelDump rendering
  defaultsApplied := .array (review.defaultsApplied.map (·.modelDump rendering))
  assumptions := .array (review.assumptions.map (·.modelDump rendering))
  requiresConfirmation := review.requiresConfirmation
  confirmed := true

theorem transfer_defaultsApplied (hprint : PrintsIntegers print) (hreview : review.Savable) :
    transfer print (.array (review.defaultsApplied.map (·.modelDump serialization))) =
      .array (review.defaultsApplied.map (·.modelDump serialization)) := by
  rw [transfer_array, List.map_map]
  refine congrArg Json.array (List.map_congr_left fun item hitem => ?_)
  exact Schemas.AppliedDefault.transfer_modelDump hprint serialization
    (hreview.defaultsApplied item hitem)

theorem transfer_assumptions (hprint : PrintsIntegers print) (hreview : review.Savable) :
    transfer print (.array (review.assumptions.map (·.modelDump serialization))) =
      .array ((review.assumptions.map (·.transferred print)).map (·.modelDump serialization)) := by
  rw [transfer_array, List.map_map, List.map_map]
  refine congrArg Json.array (List.map_congr_left fun item hitem => ?_)
  exact StrategyAssumption.transfer_modelDump hprint serialization
    (hreview.assumptions item hitem).1

/-- The body keeps the specification and the defaults as they were dumped. -/
theorem reviewSave_body (hprint : PrintsIntegers print) (hreview : review.Savable) :
    (reviewSave serialization name sourceText review).body print =
      .object [("name", .str name), ("source_text", .str sourceText),
        ("specification", review.specification.modelDump serialization),
        ("defaults_applied", .array (review.defaultsApplied.map (·.modelDump serialization))),
        ("assumptions", .array ((review.assumptions.map (·.transferred print)).map
          (·.modelDump serialization))),
        ("requires_confirmation", .bool review.requiresConfirmation),
        ("confirmed", .bool true)] := by
  have hspecification := Schemas.StrategySpecification.transfer_modelDump hprint serialization
    hreview.valid hreview.schemaValid.execution.positionSizePercent_eq
  simp only [ConfirmedStrategySaveRequest.body, ConfirmedStrategySaveRequest.toJson, reviewSave,
    transfer_object, List.map_cons, List.map_nil, transfer_str, transfer_bool, hspecification,
    transfer_defaultsApplied hprint hreview, transfer_assumptions hprint hreview]

/-- The payload that the server validates; only a name that it strips to nothing is
    rejected. -/
theorem modelValidate_reviewSave (hsent : reading.Inverts serialization)
    (hprint : PrintsIntegers print) (hreview : review.Savable) (hname : name.length ≤ 200)
    (hsource : stripWhitespace sourceText ≠ "") :
    Schemas.ConfirmedStrategySaveRequest.modelValidate reading
        ((reviewSave serialization name sourceText review).body print) =
      if stripWhitespace name = "" then .error .malformed
      else .ok
        { name := stripWhitespace name
          sourceText := stripWhitespace sourceText
          specification := review.specification
          defaultsApplied := review.defaultsApplied
          assumptions := review.assumptions.map (·.transferred print)
          requiresConfirmation := review.requiresConfirmation
          confirmed := true } := by
  have hstrippedName : Schemas.strategyName (.str name) = _ :=
    Schemas.strippedString_str (by simpa using hname)
  have hstrippedSource : Schemas.strategySourceText (.str sourceText) = _ :=
    Schemas.strippedString_str (fun _ h => absurd h (Option.not_mem_none _))
  rw [if_neg hsource] at hstrippedSource
  have hspecification :=
    Schemas.StrategySpecification.modelValidate_modelDump hsent hreview.schemaValid
  have hdefaults : list (Schemas.AppliedDefault.modelValidate reading)
      (.array (review.defaultsApplied.map (·.modelDump serialization))) =
        .ok review.defaultsApplied :=
    list_map fun item hitem => Schemas.AppliedDefault.modelValidate_modelDump
      (hreview.defaultsApplied item hitem).selfReading
  have hassumptions : list (StrategyAssumption.modelValidate reading)
      (.array ((review.assumptions.map (·.transferred print)).map (·.modelDump serialization))) =
        .ok (review.assumptions.map (·.transferred print)) := by
    refine list_map fun item hitem => StrategyAssumption.modelValidate_modelDump ?_
    obtain ⟨recorded, hrecorded, rfl⟩ := List.mem_map.mp hitem
    obtain ⟨hportable, hrequires⟩ := hreview.assumptions recorded hrecorded
    exact ⟨Schemas.FieldValue.transferred_selfReading hportable, hrequires⟩
  have hrequires := converted_of_eq_some (hsent.bool review.requiresConfirmation)
  have hconfirmed := converted_of_eq_some (hsent.bool true)
  rw [reviewSave_body hprint hreview]
  unfold Schemas.ConfirmedStrategySaveRequest.modelValidate
  rw [fields_object rfl, Python.ok_bind, required_eq rfl, hstrippedName]
  split
  · rfl
  · rw [Python.ok_bind, required_eq rfl, hstrippedSource, Python.ok_bind, required_eq rfl,
      hspecification, Python.ok_bind, required_eq rfl, hdefaults, Python.ok_bind, required_eq rfl,
      hassumptions, Python.ok_bind, required_eq rfl, hrequires, Python.ok_bind, required_eq rfl,
      hconfirmed, Python.ok_bind]
    have hmetadata : review.requiresConfirmation =
        !(review.assumptions.map (·.transferred print)).isEmpty := by
      rw [hreview.requiresConfirmation_eq, List.isEmpty_map]
    have hall : (review.assumptions.map (·.transferred print)).any
        (fun assumption => !assumption.requiresConfirmation) = false := by
      rw [List.any_map, List.any_eq_false]
      intro item hitem
      simp [StrategyAssumption.transferred, (hreview.assumptions item hitem).2]
    rw [Schemas.ConfirmedStrategySaveRequest.validateConfirmationMetadata, if_neg (by simp),
      if_neg (not_not.mpr hmetadata), hall]
    rfl

end Save

-- ============================================================================
-- The result
-- ============================================================================

section RoundTrip

variable {reading : Reading} {rendering serialization : Rendering} {parsed : ParsedStrategyResult}
  {preview : Services.StrategyPreview}

variable (preview) in
theorem ParsedStrategyResult.savable {recognition : TextRecognition}
    {draft : Schemas.StrategyParseDraft} {originalText : String}
    (hparsed : normalizeStrategyDraft rendering recognition draft originalText = .ok parsed) :
    (ParsedStrategyReview.fromParsedResult parsed preview.interpretation).Savable := by
  have hvalid := normalizeStrategyDraft_spec hparsed
  have hportable := normalizeStrategyDraft_portable hparsed
  exact
    { schemaValid := hvalid.specification
      valid := validateStrategySemantics_valid hvalid.semantics
      defaultsApplied := hportable.defaults
      assumptions := fun item hitem => ⟨hportable.assumptions item hitem,
        (hvalid.assumptions item hitem).requiresConfirmation_eq⟩
      requiresConfirmation_eq := hvalid.requiresConfirmation_eq }

theorem createPreview_interpretation {power : Decimal → Decimal → Except PyError Decimal}
    {rows : List Backtesting.MarketDataRow}
    (hpreview : createPreview power rendering rows parsed = .ok preview) :
    preview.interpretation = interpretStrategy rendering parsed := by
  obtain ⟨compiled, -, h⟩ := Python.bind_eq_ok hpreview
  dsimp only at h
  split at h
  · cases h
  · obtain ⟨signals, -, h⟩ := Python.bind_eq_ok h
    obtain ⟨execution, -, h⟩ := Python.bind_eq_ok h
    obtain ⟨metrics, -, h⟩ := Python.bind_eq_ok h
    obtain ⟨curve, -, h⟩ := Python.bind_eq_ok h
    obtain ⟨eligibleBar, -, h⟩ := Python.bind_eq_ok h
    obtain ⟨comparison, -, h⟩ := Python.bind_eq_ok h
    obtain ⟨firstBar, -, h⟩ := Python.bind_eq_ok h
    obtain ⟨lastBar, -, h⟩ := Python.bind_eq_ok h
    cases h
    dsimp only

theorem serializePreview_curves {document : Json}
    (hdocument : serializePreview rendering parsed preview = .ok document) :
    (preview.execution.equityCurve.drop preview.comparisonStartIndex.toNat).length =
      preview.buyAndHoldEquityCurve.length := by
  obtain ⟨pairs, hpairs, -⟩ := Python.bind_eq_ok hdocument
  unfold Python.zipStrict at hpairs
  split at hpairs
  · cases hpairs
  · split at hpairs
    · cases hpairs
    · omega

theorem length_name_le {name sourceText : String} {input : StrategyInput}
    (h : validateStrategyInput name sourceText = .ok input) :
    JavaScript.length input.name ≤ 200 := by
  unfold validateStrategyInput at h
  dsimp only at h
  split at h
  · cases h
  · split at h
    · cases h
    · rename_i hlength
      cases h
      exact not_lt.mp hlength

theorem text_of_modelValidate {sourceText : String} {request : StrategyPreviewRequest}
    (h : StrategyPreviewRequest.modelValidate (previewBody sourceText) = .ok request) :
    stripWhitespace sourceText ≠ "" ∧ request.text = stripWhitespace sourceText := by
  have hstripped : Schemas.strategySourceText (.str sourceText) = _ :=
    Schemas.strippedString_str (fun _ h => absurd h (Option.not_mem_none _))
  unfold StrategyPreviewRequest.modelValidate previewBody at h
  rw [fields_object rfl, Python.ok_bind, required_eq rfl, hstripped] at h
  split at h
  · cases h
  · rename_i hsource
    cases h
    exact ⟨hsource, rfl⟩

/-- What is saved is what was previewed.  A text is submitted, parsed, backtested and stored;
    the page gets the completed job and saves it under the validated input.  The new row has
    the text that was parsed, the specification that was backtested, the records of the parser
    and the interpretation that was shown; only a name that the server strips to nothing is
    rejected, and then nothing is stored. -/
theorem saveConfirmedStrategy_previewed (hstored : reading.Inverts rendering)
    (hsent : reading.Inverts serialization) {print : Decimal → Json}
    (hprint : PrintsIntegers print) (recognition : TextRecognition)
    (power : Decimal → Decimal → Except PyError Decimal)
    (rows : List Backtesting.MarketDataRow) {draft : Schemas.StrategyParseDraft}
    {name sourceText : String} {input : StrategyInput} {request : StrategyPreviewRequest}
    {document : Json}
    (hinput : validateStrategyInput name sourceText = .ok input)
    (hrequest : StrategyPreviewRequest.modelValidate (previewBody input.sourceText) =
      .ok request)
    (hparsed : normalizeStrategyDraft rendering recognition draft request.text = .ok parsed)
    (hpreview : createPreview power rendering rows parsed = .ok preview)
    (hdocument : serializePreview rendering parsed preview = .ok document)
    {jobs : Jobs.JobId → Option Jobs.PreviewJob} {jobId : Jobs.JobId} {userId : String}
    {job : Jobs.PreviewJob} (hjob : Api.getJob jobs jobId userId = some job)
    (hcompleted : job.status = .completed) (hresult : job.previewResult = some document)
    (call : Api.Call) (table : Api.StrategyTable) (hfresh : table.get? call.newId = none) :
    ∃ answer result, Api.getPreviewJob reading jobs jobId userId = .job answer ∧
      answer.previewResult = some result ∧
      let page := StrategyPreview.ofJson (result.modelDump serialization)
      let body := (Workspace.confirmedSave ⟨⟨none, some page, none⟩, input.name,
        input.sourceText⟩ page).body print
      let saved : Schemas.ConfirmedStrategySaveRequest :=
        { name := stripWhitespace input.name
          sourceText := parsed.originalText
          specification := parsed.specification
          defaultsApplied := parsed.defaultsApplied
          assumptions := parsed.assumptions.map (·.transferred print)
          requiresConfirmation := parsed.requiresConfirmation
          confirmed := true }
      interpretStrategy rendering ⟨saved.specification, saved.assumptions,
        saved.defaultsApplied, saved.requiresConfirmation, saved.sourceText⟩ =
          page.parsedStrategy.interpretation ∧
      (saved.name = "" → Api.saveConfirmedStrategy reading rendering call body table =
        (.unprocessable .malformed, table)) ∧
      (saved.name ≠ "" →
        let strategy := call.newStrategy saved.name saved.sourceText
          (some (Api.confirmedJson rendering saved))
        Api.saveConfirmedStrategy reading rendering call body table =
          (.strategy 201 strategy.toResponse, table.insert strategy hfresh)) := by
  have hvalid := normalizeStrategyDraft_spec hparsed
  have hsavable := ParsedStrategyResult.savable preview hparsed
  -- the stored document is the response, and the page shows it
  have hvalidated : StrategyPreviewResponse.modelValidate reading document =
      .ok (.ofPreview parsed preview) := by
    have hdump := Api.serializePreview_eq_modelDump rendering parsed
      (serializePreview_curves hdocument)
    obtain rfl := Except.ok.inj (hdocument.symm.trans hdump)
    exact StrategyPreviewResponse.modelValidate_modelDump hstored
      ⟨hvalid.specification, hvalid.defaultsApplied, hvalid.assumptions⟩
  obtain ⟨answer, hanswer, hshown⟩ := Api.getPreviewJob_of_valid hvalidated hjob hresult
  refine ⟨answer, .ofPreview parsed preview, hanswer, hshown hcompleted, ?_⟩
  intro page body saved
  have hpage : page.parsedStrategy = _ :=
    StrategyPreview.ofJson_modelDump serialization (.ofPreview parsed preview)
  have hbody : body = (reviewSave serialization input.name input.sourceText
      (.fromParsedResult parsed preview.interpretation)).body print := by
    refine congrArg (ConfirmedStrategySaveRequest.body print) ?_
    rw [Workspace.confirmedSave, hpage]
    rfl
  have hname : input.name.length ≤ 200 :=
    (length_le input.name).trans (length_name_le hinput)
  obtain ⟨hsource, htext⟩ := text_of_modelValidate hrequest
  have hpayload := modelValidate_reviewSave hsent hprint hsavable hname hsource
  -- the text of the save is stripped to the text that was parsed
  rw [← hbody, ← htext, ← hvalid.originalText_eq] at hpayload
  refine ⟨?_, fun hblank => ?_, fun hnamed => ?_⟩
  · rw [hpage]
    exact (interpretStrategy_transferred rendering print parsed).trans
      (createPreview_interpretation hpreview).symm
  · rw [if_pos hblank] at hpayload
    rw [Api.saveConfirmedStrategy, hpayload]
  · rw [if_neg hnamed] at hpayload
    have hrevalidated : Api.revalidate parsed.specification = .ok () := by
      rw [Api.revalidate, hvalid.semantics, Python.ok_bind, Backtesting.compileStrategy,
        hvalid.semantics]
      rfl
    rw [Api.saveConfirmedStrategy, hpayload]
    dsimp only [ParsedStrategyReview.fromParsedResult]
    rw [hrevalidated]
    exact dif_pos hfresh

end RoundTrip

/-- Whole numbers are written as such. -/
def plainPrint (v : Decimal) : Json := if v.den = 1 then .int v.num else .number v

theorem plainPrint_printsIntegers : PrintsIntegers plainPrint := by
  intro n _
  rw [plainPrint, if_pos (Rat.den_intCast n), Rat.num_intCast]

/-- The threshold draft, previewed over two bars and saved as `Ten`. -/
theorem saveConfirmedStrategy_previewed_threshold :
    ∃ (page : StrategyPreview) (strategy : Api.Strategy) (table : Api.StrategyTable),
      Api.saveConfirmedStrategy plainReading plainRendering ⟨"user", 7, 0, .listStrategies⟩
          ((Workspace.confirmedSave ⟨⟨none, some page, none⟩, "Ten",
            "Buy above 10, sell below 10."⟩ page).body plainPrint) Api.emptyTable =
        (.strategy 201 strategy.toResponse, table) ∧
      strategy.name = "Ten" ∧ strategy.sourceText = "Buy above 10, sell below 10." := by
  obtain ⟨result, hresult, -⟩ : ∃ result : ParsedStrategyResult × Services.StrategyPreview × Json,
      (do
        let parsed ← normalizeStrategyDraft plainRendering plainText Api.thresholdDraft
          "Buy above 10, sell below 10."
        let preview ← createPreview wholePower plainRendering Api.twoBarTable.rows parsed
        let document ← serializePreview plainRendering parsed preview
        return (parsed, preview, document)) = Except.ok result ∧ True :=
    Python.exists_ok_of_any (by decide +kernel)
  obtain ⟨parsed, hparsed, hresult⟩ := Python.bind_eq_ok hresult
  obtain ⟨preview, hpreview, hresult⟩ := Python.bind_eq_ok hresult
  obtain ⟨document, hdocument, -⟩ := Python.bind_eq_ok hresult
  obtain ⟨answer, shown, -, -, hsaved⟩ := saveConfirmedStrategy_previewed plainReading_inverts
    plainReading_inverts plainPrint_printsIntegers plainText wholePower
    Api.twoBarTable.rows
    (show validateStrategyInput " Ten" "Buy above 10, sell below 10. " =
      .ok ⟨"Ten", "Buy above 10, sell below 10."⟩ from rfl)
    (show StrategyPreviewRequest.modelValidate (previewBody "Buy above 10, sell below 10.") =
      .ok ⟨"Buy above 10, sell below 10."⟩ from rfl)
    hparsed hpreview hdocument
    (show Api.getJob (fun _ => some { Jobs.createJob Jobs.defaultSettings 0 "user"
        "Buy above 10, sell below 10." none 0 with
          status := .completed, previewResult := some document }) 0 "user" = some _ from rfl)
    rfl rfl ⟨"user", 7, 0, .listStrategies⟩ Api.emptyTable rfl
  have hname : stripWhitespace "Ten" = "Ten" := by decide +kernel
  have horiginal := (normalizeStrategyDraft_spec hparsed).originalText_eq
  refine ⟨_, _, _, hsaved.2.2 ?_, hname, horiginal⟩
  show stripWhitespace "Ten" ≠ ""
  rw [hname]
  decide

end Frontend
end TradingPlatform
