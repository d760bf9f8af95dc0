/-
  TradingPlatform.Api.DatabaseFaults

  The strategies routes over a database that fails: the `SQLAlchemyError` and
  `IntegrityError` handlers of `app/api/routes/strategies.py`.

  A call meets at most one fault, since a route ends with the first one.  A
  commit that raises may or may not have reached the database, and a refresh
  that raises comes after it: both answer 500 over a row that is stored.

  - `handleFaulty_eq`: a fault replaces the answer and may undo the write, but
    never leaves a part of it.
-/

import TradingPlatform.Api.StrategyIsolation

namespace TradingPlatform
namespace Api

open Pydantic Schemas Services

-- ============================================================================
-- Faults
-- ============================================================================

/-- The statement that raises: a `SELECT`, the flush of a write (an `IntegrityError` or
    another `SQLAlchemyError`), the commit, or the `SELECT` of the refresh. -/
inductive DatabaseFault where
  | select
  | flush (integrity : Bool)
  | commit (persisted : Bool)
  | refresh
deriving DecidableEq, Repr

/-- The answer of the `SQLAlchemyError` handlers. -/
def databaseError : Response :=
  .httpException 500 "Unable to complete the strategy database operation."

/-- The answer of the `IntegrityError` handlers. -/
def constraintViolation : Response :=
  .httpException 409 "Strategy violates a database constraint."

-- ============================================================================
-- Routes
-- ============================================================================

section Routes

variable (fault : Option DatabaseFault)

/-- `get_owned_strategy` with its exceptions. -/
def fetchOwnedStrategy (table : StrategyTable) (strategyId : StrategyId) (userId : UserId) :
    Except Response Strategy :=
  if fault = some .select then
    .error databaseError
  else
    match getOwnedStrategy table strategyId userId with
    | none => .error strategyNotFound
    | some strategy => .ok strategy

/-- A commit with the handlers around it; `after` is the table once it is committed. -/
def commitFaulty (before after : StrategyTable) (answer : Response) : Response × StrategyTable :=
  match fault with
  | some (.flush integrity) => (if integrity then constraintViolation else databaseError, before)
  | some (.commit persisted) => (databaseError, if persisted then after else before)
  | some .select | some .refresh | none => (answer, after)

/-- `commit_and_refresh` -/
def commitAndRefresh (before after : StrategyTable) (answer : Response) :
    Response × StrategyTable :=
  if fault = some .refresh then (databaseError, after)
  else commitFaulty fault before after answer

/-- The table once the attributes an update set are flushed. -/
def flushed (table : StrategyTable) (strategyId : StrategyId) (payload : StrategyUpdate)
    (now : Timestamp) : StrategyTable :=
  table.modify strategyId (flushUpdates payload now) (flushUpdates_id payload now)

/-- The `INSERT` of a taken id raises, if the flush gets to it. -/
def commitNewFaulty (table : StrategyTable) (strategy : Strategy) : Response × StrategyTable :=
  if h : table.get? strategy.id = none then
    commitAndRefresh fault table (table.insert strategy h) (.strategy 201 strategy.toResponse)
  else if fault = some (.flush false) then
    (databaseError, table)
  else
    (constraintViolation, table)

/-- One call to the router that meets a fault, or none. -/
def handleFaulty (reading : Reading) (rendering : Rendering) (call : Call)
    (table : StrategyTable) : Response × StrategyTable :=
  match call.request with
  | .saveConfirmedStrategy body =>
      match ConfirmedStrategySaveRequest.modelValidate reading body with
      | .error error => (.unprocessable error, table)
      | .ok payload =>
          match revalidate payload.specification with
          | .error exc => (.httpException 422 (errorDetail exc), table)
          | .ok () =>
              commitNewFaulty fault table (call.newStrategy payload.name payload.sourceText
                (some (confirmedJson rendering payload)))
  | .createStrategy body =>
      match StrategyCreate.modelValidate body with
      | .error error => (.unprocessable error, table)
      | .ok payload =>
          commitNewFaulty fault table
            (call.newStrategy payload.name payload.sourceText payload.strategyJson)
  | .listStrategies =>
      if fault = some .select then (databaseError, table) else listStrategies call table
  | .getStrategy strategyId =>
      match fetchOwnedStrategy fault table strategyId call.user with
      | .error answer => (answer, table)
      | .ok strategy => (.strategy 200 strategy.toResponse, table)
  | .updateStrategy strategyId body =>
      match StrategyUpdate.modelValidate body with
      | .error error => (.unprocessable error, table)
      | .ok payload =>
          match fetchOwnedStrategy fault table strategyId call.user with
          | .error answer => (answer, table)
          | .ok strategy =>
              commitAndRefresh fault table (flushed table strategyId payload call.now)
                (.strategy 200 (flushUpdates payload call.now strategy).toResponse)
  | .deleteStrategy strategyId =>
      match fetchOwnedStrategy fault table strategyId call.user with
      | .error answer => (answer, table)
      | .ok _ => commitFaulty fault table (table.erase strategyId) .noContent

end Routes

-- ============================================================================
-- What a fault does to a call
-- ============================================================================

/-- The statement of the fault is one that the route executes. -/
def DatabaseFault.Strikes (request : Request) : DatabaseFault → Prop
  | .select =>
      match request with
      | .saveConfirmedStrategy _ | .createStrategy _ => False
      | _ => True
  | .flush _ | .commit _ =>
      match request with
      | .listStrategies | .getStrategy _ => False
      | _ => True
  | .refresh =>
      match request with
      | .saveConfirmedStrategy _ | .createStrategy _ | .updateStrategy _ _ => True
      | _ => False

instance (request : Request) (fault : DatabaseFault) : Decidable (fault.Strikes request) := by
  unfold DatabaseFault.Strikes
  cases fault <;> cases request <;> infer_instance

/-- The write of the call is committed. -/
def Persists (request : Request) (fault : Option DatabaseFault) : Prop :=
  match fault with
  | none => True
  | some fault => ¬ fault.Strikes request ∨ fault = .commit true ∨ fault = .refresh

instance (request : Request) (fault : Option DatabaseFault) :
    Decidable (Persists request fault) := by
  unfold Persists
  cases fault <;> infer_instance

/-- The answer of a call that meets the fault, from its answer without one.  A call that fails
    before the statement of the fault keeps its answer. -/
def DatabaseFault.answer (fault : DatabaseFault) (request : Request) (answer : Response) :
    Response :=
  if fault.Strikes request then
    match answer, fault with
    | .unprocessable _, _ | .httpException 422 _, _ => answer
    | .httpException 404 _, .select => databaseError
    | .httpException 404 _, _ => answer
    | .httpException _ _, .flush false => databaseError
    | .httpException _ _, _ => answer
    | _, .flush true => constraintViolation
    | _, _ => databaseError
  else
    answer

/-- The answer of a call that may meet a fault. -/
def faultAnswer (request : Request) (fault : Option DatabaseFault) (answer : Response) :
    Response :=
  match fault with
  | none => answer
  | some fault => fault.answer request answer

/-- The outcome of a call that meets a fault, from its outcome without one. -/
def faultOutcome (request : Request) (fault : Option DatabaseFault) (table : StrategyTable)
    (outcome : Response × StrategyTable) : Response × StrategyTable :=
  (faultAnswer request fault outcome.1, if Persists request fault then outcome.2 else table)

section Outcome

variable {fault : Option DatabaseFault} {table : StrategyTable}

theorem commitNewFaulty_eq {request : Request} (strategy : Strategy)
    (hcreates : (∃ body, request = .createStrategy body) ∨
      ∃ body, request = .saveConfirmedStrategy body) :
    commitNewFaulty fault table strategy =
      faultOutcome request fault table (commitNew table strategy) := by
  unfold commitNewFaulty commitNew
  by_cases h : table.get? strategy.id = none
  · rw [dif_pos h, dif_pos h]
    rcases hcreates with ⟨body, rfl⟩ | ⟨body, rfl⟩ <;>
      rcases fault with _ | (_ | (_ | _) | (_ | _) | _) <;> rfl
  · rw [dif_neg h, dif_neg h]
    rcases hcreates with ⟨body, rfl⟩ | ⟨body, rfl⟩ <;>
      rcases fault with _ | (_ | (_ | _) | (_ | _) | _) <;> rfl

/-- A call that was rejected before its first statement. -/
theorem faultOutcome_rejected {request : Request} {answer : Response}
    (hrejected : (∃ error, answer = .unprocessable error) ∨
      ∃ detail, answer = .httpException 422 detail) :
    faultOutcome request fault table (answer, table) = (answer, table) := by
  have hanswer : faultAnswer request fault answer = answer := by
    unfold faultAnswer DatabaseFault.answer
    rcases hrejected with ⟨error, rfl⟩ | ⟨detail, rfl⟩
    · cases fault with
      | none => rfl
      | some fault => exact ite_self _
    · cases fault with
      | none => rfl
      | some fault => exact ite_self _
  rw [faultOutcome, hanswer, ite_self]

/-- A fault replaces the answer of the call and may undo its write as a whole. -/
theorem handleFaulty_eq (fault : Option DatabaseFault) (reading : Reading)
    (rendering : Rendering) (call : Call) (table : StrategyTable) :
    handleFaulty fault reading rendering call table =
      faultOutcome call.request fault table (handle reading rendering call table) := by
  unfold handleFaulty handle
  cases hrequest : call.request with
  | saveConfirmedStrategy body =>
      dsimp only
      unfold saveConfirmedStrategy
      cases hpayload : ConfirmedStrategySaveRequest.modelValidate reading body with
      | error error => exact (faultOutcome_rejected (.inl ⟨_, rfl⟩)).symm
      | ok payload =>
          dsimp only
          cases hvalid : revalidate payload.specification with
          | error exc => exact (faultOutcome_rejected (.inr ⟨_, rfl⟩)).symm
          | ok _ => exact commitNewFaulty_eq _ (.inr ⟨body, rfl⟩)
  | createStrategy body =>
      dsimp only
      unfold createStrategy
      cases hpayload : StrategyCreate.modelValidate body with
      | error error => exact (faultOutcome_rejected (.inl ⟨_, rfl⟩)).symm
      | ok payload => exact commitNewFaulty_eq _ (.inl ⟨body, rfl⟩)
  | listStrategies =>
      rcases fault with _ | (_ | (_ | _) | (_ | _) | _) <;> rfl
  | getStrategy strategyId =>
      dsimp only
      unfold getStrategy fetchOwnedStrategy
      cases hfound : getOwnedStrategy table strategyId call.user with
      | none => rcases fault with _ | (_ | (_ | _) | (_ | _) | _) <;> rfl
      | some strategy => rcases fault with _ | (_ | (_ | _) | (_ | _) | _) <;> rfl
  | updateStrategy strategyId body =>
      dsimp only
      unfold updateStrategy fetchOwnedStrategy
      cases hpayload : StrategyUpdate.modelValidate body with
      | error error => exact (faultOutcome_rejected (.inl ⟨_, rfl⟩)).symm
      | ok payload =>
          dsimp only
          cases hfound : getOwnedStrategy table strategyId call.user with
          | none => rcases fault with _ | (_ | (_ | _) | (_ | _) | _) <;> rfl
          | some strategy => rcases fault with _ | (_ | (_ | _) | (_ | _) | _) <;> rfl
  | deleteStrategy strategyId =>
      dsimp only
      unfold deleteStrategy fetchOwnedStrategy
      cases hfound : getOwnedStrategy table strategyId call.user with
      | none => rcases fault with _ | (_ | (_ | _) | (_ | _) | _) <;> rfl
      | some strategy => rcases fault with _ | (_ | (_ | _) | (_ | _) | _) <;> rfl

end Outcome

-- ============================================================================
-- What a call is told
-- ============================================================================

/-- A status code below 400. -/
def Response.Success : Response → Prop
  | .strategy _ _ | .strategies _ | .noContent => True
  | .httpException _ _ | .unprocessable _ => False

theorem faultAnswer_cases (request : Request) (fault : Option DatabaseFault)
    (answer : Response) :
    faultAnswer request fault answer = answer ∨
      faultAnswer request fault answer = databaseError ∨
      faultAnswer request fault answer = constraintViolation := by
  unfold faultAnswer
  split
  · exact .inl rfl
  · unfold DatabaseFault.answer
    split
    · split <;> simp
    · exact .inl rfl

/-- A fault that strikes is never answered by a success. -/
theorem faultAnswer_success {request : Request} {fault : Option DatabaseFault}
    {answer : Response} (h : (faultAnswer request fault answer).Success) :
    Persists request fault ∧ faultAnswer request fault answer = answer := by
  unfold faultAnswer at h ⊢
  unfold Persists
  cases fault with
  | none => exact ⟨trivial, rfl⟩
  | some fault =>
      dsimp only at h ⊢
      unfold DatabaseFault.answer at h ⊢
      by_cases hstrikes : fault.Strikes request
      · rw [if_pos hstrikes] at h
        split at h <;> cases h
      · exact ⟨.inl hstrikes, if_neg hstrikes⟩

end Api
end TradingPlatform
