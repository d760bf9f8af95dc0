/-
  TradingPlatform.Api.Strategies

  The strategies routes of `app/api/routes/strategies.py`, over the table
  `public.strategies`.

  A route is a function of an authenticated call and the table.  A call carries
  what the database would generate for it: the id of a new row and the time.
  The `SQLAlchemyError` handlers have no branch here; of the constraints, only
  the primary key can fail after the payload was validated.  A path id that is
  not a UUID is rejected before any of this.
-/

import Mathlib.Data.List.Sort
import TradingPlatform.Backtesting.StrategyCompiler
import TradingPlatform.Lib.Service
import TradingPlatform.Lib.Table
import TradingPlatform.Schemas.Strategy
import TradingPlatform.Services.StrategyInterpretation

namespace TradingPlatform
namespace Api

open Pydantic Schemas Services Backtesting

/-- A user's UUID. -/
abbrev UserId := String

/-- A strategy's UUID. -/
abbrev StrategyId := Nat

/-- A row of `public.strategies`. -/
structure Strategy where
  id : StrategyId
  userId : UserId
  name : String
  sourceText : String
  strategyJson : Option StrategyJson
  createdAt : Timestamp
  updatedAt : Timestamp
deriving Repr

/-- The table `public.strategies`, by its primary key. -/
abbrev StrategyTable := Table Strategy.id

/-- `StrategyResponse.model_validate` of a row. -/
def Strategy.toResponse (strategy : Strategy) : StrategyResponse where
  id := strategy.id
  name := strategy.name
  sourceText := strategy.sourceText
  strategyJson := strategy.strategyJson
  createdAt := strategy.createdAt
  updatedAt := strategy.updatedAt

/-- A request to one of the routes, with its JSON body. -/
inductive Request where
  | saveConfirmedStrategy (body : Json)
  | createStrategy (body : Json)
  | listStrategies
  | getStrategy (strategyId : StrategyId)
  | updateStrategy (strategyId : StrategyId) (body : Json)
  | deleteStrategy (strategyId : StrategyId)
deriving Repr

/-- An authenticated request, with the id and the time that the database gives it. -/
structure Call where
  user : UserId
  newId : StrategyId
  now : Timestamp
  request : Request
deriving Repr

/-- The answers of the strategies routes. -/
inductive Response where
  | strategy (statusCode : Nat) (body : StrategyResponse)
  | strategies (body : List StrategyResponse)
  | noContent
  | httpException (statusCode : Nat) (detail : String)
  | unprocessable (error : ValidationError)
deriving Repr

/-- The answer for a row that does not exist or is another user's. -/
def strategyNotFound : Response := .httpException 404 "Strategy not found."

/-- The text of an exception, `str(exc)`. -/
def errorDetail : PyError → String
  | .valueError message | .runtimeError message | .strategyValidationError message
  | .strategyCompilationError message | .marketDataUnavailableError message => message
  | .indexError | .assertionError | .divisionByZero | .invalidOperation => ""

-- ============================================================================
-- Reading and writing the table
-- ============================================================================

/-- `WHERE id = … AND user_id = …` -/
def getOwnedStrategy (table : StrategyTable) (strategyId : StrategyId) (userId : UserId) :
    Option Strategy :=
  table.rows.find? fun strategy => strategy.id = strategyId ∧ strategy.userId = userId

/-- Add a new row and commit; a taken id violates the primary key. -/
def commitNew (table : StrategyTable) (strategy : Strategy) : Response × StrategyTable :=
  if h : table.get? strategy.id = none then
    (.strategy 201 strategy.toResponse, table.insert strategy h)
  else
    (.httpException 409 "Strategy violates a database constraint.", table)

/-- The row that a call inserts, with its generated columns. -/
def Call.newStrategy (call : Call) (name sourceText : String)
    (strategyJson : Option StrategyJson) : Strategy where
  id := call.newId
  userId := call.user
  name := name
  sourceText := sourceText
  strategyJson := strategyJson
  createdAt := call.now
  updatedAt := call.now

/-- `setattr` of every field that the payload sets. -/
def applyUpdates (payload : StrategyUpdate) (strategy : Strategy) : Strategy :=
  { strategy with
    name := payload.name.getD strategy.name
    sourceText := payload.sourceText.getD strategy.sourceText
    strategyJson := payload.strategyJson.getD strategy.strategyJson }

/-- The row after the commit: no `UPDATE` unless a column changed, and the trigger sets
    `updated_at` on every `UPDATE`. -/
def flushUpdates (payload : StrategyUpdate) (now : Timestamp) (strategy : Strategy) :
    Strategy :=
  let updated := applyUpdates payload strategy
  if updated.name == strategy.name && updated.sourceText == strategy.sourceText &&
      updated.strategyJson == strategy.strategyJson then
    strategy
  else
    { updated with updatedAt := now }

@[simp] theorem flushUpdates_id (payload : StrategyUpdate) (now : Timestamp)
    (strategy : Strategy) : (flushUpdates payload now strategy).id = strategy.id := by
  simp only [flushUpdates]
  split <;> rfl

@[simp] theorem flushUpdates_userId (payload : StrategyUpdate) (now : Timestamp)
    (strategy : Strategy) : (flushUpdates payload now strategy).userId = strategy.userId := by
  simp only [flushUpdates]
  split <;> rfl

-- ============================================================================
-- Routes
-- ============================================================================

/-- The `strategy_json` of a confirmed save. -/
def confirmedJson (rendering : Rendering) (payload : ConfirmedStrategySaveRequest) :
    StrategyJson :=
  [("specification", payload.specification.modelDump rendering),
    ("defaults_applied", .array (payload.defaultsApplied.map (·.modelDump rendering))),
    ("assumptions", .array (payload.assumptions.map (·.modelDump rendering))),
    ("requires_confirmation", .bool payload.requiresConfirmation),
    ("confirmed", .bool true),
    ("parser_version", .str payload.specification.version),
    ("interpretation", .str (interpretStrategy rendering
      ⟨payload.specification, payload.assumptions, payload.defaultsApplied,
        payload.requiresConfirmation, payload.sourceText⟩))]

/-- The two validation passes of a confirmed save. -/
def revalidate (specification : StrategySpecification) : Except PyError Unit := do
  validateStrategySemantics specification
  let _ ← compileStrategy specification
  return ()

/-- The confirmed save: what it stores was validated twice, by the schema and by
    `validate_strategy_semantics`. -/
def saveConfirmedStrategy (reading : Reading) (rendering : Rendering) (call : Call)
    (body : Json) (table : StrategyTable) : Response × StrategyTable :=
  match ConfirmedStrategySaveRequest.modelValidate reading body with
  | .error error => (.unprocessable error, table)
  | .ok payload =>
      match revalidate payload.specification with
      | .error exc => (.httpException 422 (errorDetail exc), table)
      | .ok () =>
          commitNew table (call.newStrategy payload.name payload.sourceText
            (some (confirmedJson rendering payload)))

/-- The create route, which stores the client's `strategy_json` as it comes. -/
def createStrategy (call : Call) (body : Json) (table : StrategyTable) :
    Response × StrategyTable :=
  match StrategyCreate.modelValidate body with
  | .error error => (.unprocessable error, table)
  | .ok payload =>
      commitNew table (call.newStrategy payload.name payload.sourceText payload.strategyJson)

/-- `ORDER BY created_at DESC, id DESC` -/
def newestFirst (x y : Strategy) : Prop :=
  y.createdAt < x.createdAt ∨ (x.createdAt = y.createdAt ∧ y.id ≤ x.id)

instance : DecidableRel newestFirst := fun x y =>
  inferInstanceAs (Decidable (y.createdAt < x.createdAt ∨
    (x.createdAt = y.createdAt ∧ y.id ≤ x.id)))

/-- The user's rows, the newest first. -/
def listStrategies (call : Call) (table : StrategyTable) : Response × StrategyTable :=
  (.strategies (((table.rows.filter fun strategy => strategy.userId = call.user).insertionSort
    newestFirst).map (·.toResponse)), table)

/-- The user's row of that id. -/
def getStrategy (call : Call) (strategyId : StrategyId) (table : StrategyTable) :
    Response × StrategyTable :=
  match getOwnedStrategy table strategyId call.user with
  | none => (strategyNotFound, table)
  | some strategy => (.strategy 200 strategy.toResponse, table)

/-- The payload is validated before the row is looked up. -/
def updateStrategy (call : Call) (strategyId : StrategyId) (body : Json)
    (table : StrategyTable) : Response × StrategyTable :=
  match StrategyUpdate.modelValidate body with
  | .error error => (.unprocessable error, table)
  | .ok payload =>
      match getOwnedStrategy table strategyId call.user with
      | none => (strategyNotFound, table)
      | some strategy =>
          (.strategy 200 (flushUpdates payload call.now strategy).toResponse,
            table.modify strategyId (flushUpdates payload call.now)
              (flushUpdates_id payload call.now))

/-- The user's row of that id, deleted. -/
def deleteStrategy (call : Call) (strategyId : StrategyId) (table : StrategyTable) :
    Response × StrategyTable :=
  match getOwnedStrategy table strategyId call.user with
  | none => (strategyNotFound, table)
  | some _ => (.noContent, table.erase strategyId)

/-- One call to the router. -/
def handle (reading : Reading) (rendering : Rendering) (call : Call) (table : StrategyTable) :
    Response × StrategyTable :=
  match call.request with
  | .saveConfirmedStrategy body => saveConfirmedStrategy reading rendering call body table
  | .createStrategy body => createStrategy call body table
  | .listStrategies => listStrategies call table
  | .getStrategy strategyId => getStrategy call strategyId table
  | .updateStrategy strategyId body => updateStrategy call strategyId body table
  | .deleteStrategy strategyId => deleteStrategy call strategyId table

/-- A table before any request. -/
def emptyTable : StrategyTable := ⟨[], List.nodup_nil⟩

-- ============================================================================
-- What a call can do to the table
-- ============================================================================

/-- The rows after a call, given those before. -/
inductive Write (reading : Reading) (rendering : Rendering) (call : Call)
    (table : StrategyTable) : List Strategy → Prop where
  | unchanged : Write reading rendering call table table.rows
  | created {body : Json} {payload : StrategyCreate}
      (hrequest : call.request = .createStrategy body)
      (hpayload : StrategyCreate.modelValidate body = .ok payload)
      (hfresh : table.get? call.newId = none) :
      Write reading rendering call table (table.rows ++
        [call.newStrategy payload.name payload.sourceText payload.strategyJson])
  | saved {body : Json} {payload : ConfirmedStrategySaveRequest}
      (hrequest : call.request = .saveConfirmedStrategy body)
      (hpayload : ConfirmedStrategySaveRequest.modelValidate reading body = .ok payload)
      (hsemantics : validateStrategySemantics payload.specification = .ok ())
      (hfresh : table.get? call.newId = none) :
      Write reading rendering call table (table.rows ++
        [call.newStrategy payload.name payload.sourceText
          (some (confirmedJson rendering payload))])
  | updated {strategyId : StrategyId} {body : Json} {payload : StrategyUpdate}
      {strategy : Strategy} (hrequest : call.request = .updateStrategy strategyId body)
      (hpayload : StrategyUpdate.modelValidate body = .ok payload)
      (howned : getOwnedStrategy table strategyId call.user = some strategy) :
      Write reading rendering call table (table.rows.map fun row =>
        if row.id = strategyId then flushUpdates payload call.now row else row)
  | deleted {strategyId : StrategyId} {strategy : Strategy}
      (hrequest : call.request = .deleteStrategy strategyId)
      (howned : getOwnedStrategy table strategyId call.user = some strategy) :
      Write reading rendering call table (table.rows.filter fun row => row.id ≠ strategyId)

theorem getOwnedStrategy_eq_some {table : StrategyTable} {strategyId : StrategyId}
    {userId : UserId} {strategy : Strategy}
    (h : getOwnedStrategy table strategyId userId = some strategy) :
    strategy ∈ table.rows ∧ strategy.id = strategyId ∧ strategy.userId = userId :=
  ⟨List.mem_of_find?_eq_some h, by simpa using List.find?_some h⟩

theorem commitNew_cases (table : StrategyTable) (strategy : Strategy) :
    (table.get? strategy.id = none ∧
      (commitNew table strategy).1 = .strategy 201 strategy.toResponse ∧
      (commitNew table strategy).2.rows = table.rows ++ [strategy]) ∨
    ((commitNew table strategy).2 = table) := by
  unfold commitNew
  split
  · rename_i h
    exact Or.inl ⟨h, rfl, rfl⟩
  · exact Or.inr rfl

/-- Every call is one of these writes. -/
theorem handle_write (reading : Reading) (rendering : Rendering) (call : Call)
    (table : StrategyTable) :
    Write reading rendering call table (handle reading rendering call table).2.rows := by
  unfold handle
  split
  · rename_i body hrequest
    unfold saveConfirmedStrategy
    split
    · exact .unchanged
    · rename_i payload hpayload
      split
      · exact .unchanged
      · rename_i hvalid
        obtain ⟨_, hsemantics, -⟩ := Python.bind_eq_ok hvalid
        rcases commitNew_cases table (call.newStrategy payload.name payload.sourceText
          (some (confirmedJson rendering payload))) with ⟨hfresh, -, hrows⟩ | hrows
        · rw [hrows]
          exact .saved hrequest hpayload hsemantics hfresh
        · rw [hrows]
          exact .unchanged
  · rename_i body hrequest
    unfold createStrategy
    split
    · exact .unchanged
    · rename_i payload hpayload
      rcases commitNew_cases table (call.newStrategy payload.name payload.sourceText
        payload.strategyJson) with ⟨hfresh, -, hrows⟩ | hrows
      · rw [hrows]
        exact .created hrequest hpayload hfresh
      · rw [hrows]
        exact .unchanged
  · exact .unchanged
  · unfold getStrategy
    split <;> exact .unchanged
  · rename_i strategyId body hrequest
    unfold updateStrategy
    split
    · exact .unchanged
    · rename_i payload hpayload
      split
      · exact .unchanged
      · rename_i strategy howned
        exact .updated hrequest hpayload howned
  · rename_i strategyId hrequest
    unfold deleteStrategy
    split
    · exact .unchanged
    · rename_i strategy howned
      exact .deleted hrequest howned

end Api
end TradingPlatform
