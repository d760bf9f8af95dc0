/-
  TradingPlatform.Workers.PreviewWorker

  One execution of `process_preview_job` (`app/workers/preview_worker.py`) with
  `run_preview_job` (`app/services/preview_job_service.py`), down to the commits
  of `app/services/job_store.py`.

  The parser and the preview factory may return or raise anything, and every
  commit may be refused.  A refused commit has no effect on the row and leaves
  the session refusing every statement until `rollback`; if the flush failed, the
  loaded object has also lost its attributes, and reading one is a statement.
-/

import TradingPlatform.Lib.Action
import TradingPlatform.Queue.PreviewQueue
import TradingPlatform.Services.StrategyPreview

namespace TradingPlatform
namespace Workers

open Jobs Services Schemas

-- ============================================================================
-- Exceptions
-- ============================================================================

/-- SQLAlchemy's errors; the first three are `TRANSIENT_DATABASE_ERRORS`. -/
inductive DatabaseError where
  | operationalError
  | timeoutError
  | disconnectionError
  | other
deriving DecidableEq, Repr

/-- Subclasses of `Exception`, as far as the handlers tell them apart. -/
inductive PreviewException where
  | strategyValidationError (message : String)
  | strategyCompilationError (message : String)
  | marketDataUnavailableError (message : String)
  | strategyProviderTimeoutError
  /-- `StrategyParserError` and its other subclasses -/
  | strategyParserError
  | database (error : DatabaseError)
  | pendingRollbackError
  | transientPreviewJobError
  | assertionError
  | other
deriving DecidableEq, Repr

/-- `isinstance(error, TRANSIENT_DATABASE_ERRORS)` -/
def PreviewException.TransientDatabase : PreviewException → Prop
  | .database error => error ≠ .other
  | _ => False

instance : DecidablePred PreviewException.TransientDatabase := fun error => by
  cases error <;> unfold PreviewException.TransientDatabase <;> infer_instance

/-- The errors of the pipeline's own code, as `serialize_preview` raises them. -/
def PreviewException.ofPyError : PyError → PreviewException
  | .strategyValidationError message => .strategyValidationError message
  | .strategyCompilationError message => .strategyCompilationError message
  | .marketDataUnavailableError message => .marketDataUnavailableError message
  | .assertionError => .assertionError
  | _ => .other

/-- Where an exception came from outside the worker's own code. -/
inductive Site where
  | claimJob
  | parse
  | updateProgress
  | previewFactory
  | serializePreview
  | completeJob
  | failJob
  /-- the transition in `run_preview_job`, of a job that was never loaded -/
  | transition
  /-- the transition in `process_preview_job` -/
  | lastResort
deriving DecidableEq, Repr

/-- What a refused commit raised, and where. -/
structure Fault where
  site : Site
  error : PreviewException
deriving DecidableEq, Repr

-- ============================================================================
-- The session
-- ============================================================================

/-- The `PreviewJob` object: as it was loaded, and as it is now. -/
structure LoadedJob where
  loaded : PreviewJob
  value : PreviewJob
  expired : Bool

/-- The object as it is read from its row. -/
def LoadedJob.load (row : PreviewJob) : LoadedJob := ⟨row, row, false⟩

/-- The object is read again at its next use. -/
def LoadedJob.expire (job : LoadedJob) : LoadedJob := { job with expired := true }

/-- The row after a flush of the object. -/
def LoadedJob.flushTo (job : LoadedJob) (row : PreviewJob) : PreviewJob :=
  if job.expired then row else job.loaded.flush job.value row

/-- The session of a worker that holds the lock of a job. -/
structure WorkerSession where
  /-- the committed row -/
  row : PreviewJob
  /-- the row after an `UPDATE` of the open transaction -/
  updated : Option PreviewJob
  /-- the local `job`: `None` until `claim_job` has loaded it -/
  job : Option LoadedJob
  unusable : Bool
  commitCount : Nat
  /-- what was raised from outside so far; no code reads it -/
  faults : List Fault

namespace WorkerSession

/-- The session before its first statement. -/
def opened (row : PreviewJob) : WorkerSession := ⟨row, none, none, false, 0, []⟩

/-- The row as a statement of the session sees it. -/
def visible (session : WorkerSession) : PreviewJob := session.updated.getD session.row

/-- A commit that was accepted. -/
def committed (session : WorkerSession) : WorkerSession :=
  { session with
    row := session.job.elim session.visible (·.flushTo session.visible)
    updated := none
    job := session.job.map fun job => { job with loaded := job.value }
    commitCount := session.commitCount + 1 }

/-- A commit that was refused, at the flush or after it. -/
def refused (session : WorkerSession) (fault : Fault) (atFlush : Bool) : WorkerSession :=
  { session with
    job := if atFlush then session.job.map LoadedJob.expire else session.job
    unusable := true
    commitCount := session.commitCount + 1
    faults := session.faults ++ [fault] }

/-- The session after a rollback. -/
def rolledBack (session : WorkerSession) : WorkerSession :=
  { session with
    updated := none
    job := session.job.map LoadedJob.expire
    unusable := false }

end WorkerSession

/-- A computation over the session of the worker. -/
abbrev WorkerM := EStateM PreviewException WorkerSession

/-- How the database answers a commit. -/
inductive CommitOutcome where
  | accepted
  | refused (error : DatabaseError) (atFlush : Bool)
deriving DecidableEq, Repr

/-- What an execution is given from outside. -/
structure Collaborators where
  parse : String → Except PreviewException ParsedStrategyResult
  previewFactory : ParsedStrategyResult → Except PreviewException StrategyPreview
  rendering : Rendering
  /-- the answer to the `n`-th commit -/
  commits : Nat → CommitOutcome
  /-- `datetime.now(UTC)` before the `n`-th commit -/
  clock : Nat → Timestamp

/-- `session.execute` of a guarded `UPDATE`: whether it matched the row. -/
def execute (change : PreviewJob → Option PreviewJob) : WorkerM Bool := fun session =>
  if session.unusable then
    .error .pendingRollbackError session
  else
    match change session.visible with
    | some row => .ok true { session with updated := some row }
    | none => .ok false session

/-- `session.get(PreviewJob, job_id)` -/
def getJob : WorkerM Unit := fun session =>
  if session.unusable then
    .error .pendingRollbackError session
  else
    .ok () { session with job := some (.load session.visible) }

/-- An attribute of `job` is read: one that has expired is loaded again. -/
def readJob : WorkerM PreviewJob := fun session =>
  match session.job with
  | none => .error .other session
  | some job =>
      if job.expired then
        if session.unusable then
          .error .pendingRollbackError session
        else
          .ok session.visible { session with job := some (.load session.visible) }
      else
        .ok job.value session

/-- Attributes of the object are set. -/
def assignJob (write : PreviewJob → PreviewJob) : WorkerM Unit := fun session =>
  .ok () { session with
    job := session.job.map fun job => { job with value := write job.value } }

/-- `session.rollback()` -/
def rollback : WorkerM Unit := fun session => .ok () session.rolledBack

/-- `session.commit()`: refused until a rollback once it has failed. -/
def commit (collaborators : Collaborators) (site : Site) : WorkerM Unit := fun session =>
  if session.unusable then
    .error .pendingRollbackError session
  else
    match collaborators.commits session.commitCount with
    | .accepted => .ok () session.committed
    | .refused error atFlush =>
        .error (.database error) (session.refused ⟨site, .database error⟩ atFlush)

/-- A call that leaves the session alone. -/
def call {α : Type} (site : Site) (outcome : Except PreviewException α) : WorkerM α :=
  fun session =>
    match outcome with
    | .ok value => .ok value session
    | .error error => .error error { session with faults := session.faults ++ [⟨site, error⟩] }

/-- `datetime.now(UTC)` -/
def now (collaborators : Collaborators) : WorkerM Timestamp := fun session =>
  .ok (collaborators.clock session.commitCount) session

section Worker

variable (collaborators : Collaborators)

-- ============================================================================
-- `job_store.py`
-- ============================================================================

/-- `claim_job`; `False` stands for `None`. -/
def claimJob (allowRunningRetry : Bool) : WorkerM Bool := do
  let startedAt ← now collaborators
  let matched ← execute (Jobs.claimJob allowRunningRetry startedAt)
  commit collaborators .claimJob
  if matched then
    getJob
    return true
  else
    return false

/-- `update_progress` -/
def updateProgress (stage : JobStage) (progress : Nat) : WorkerM Unit := do
  assignJob (Jobs.updateProgress · stage progress)
  commit collaborators .updateProgress

/-- `complete_job` -/
def completeJob (result : Json) : WorkerM Unit := do
  let _previousStatus ← readJob
  let completedAt ← now collaborators
  assignJob (Jobs.completeJob · result completedAt)
  commit collaborators .completeJob

/-- `fail_job` -/
def failJob (error : String) : WorkerM Unit := do
  let _previousStatus ← readJob
  let completedAt ← now collaborators
  assignJob (Jobs.failJob · error completedAt)
  commit collaborators .failJob

/-- `transition_job_after_operational_failure` with `will_retry=False`. -/
def transitionJobAfterOperationalFailure (site : Site) : WorkerM Unit := do
  let completedAt ← now collaborators
  let changed ← execute fun row =>
    if row.status.Nonterminal then
      some (Jobs.transitionJobAfterOperationalFailure false operationalFailureMessage completedAt
        row)
    else
      none
  commit collaborators site
  if changed then getJob

-- ============================================================================
-- `preview_job_service.py`
-- ============================================================================

/-- `raise_transient_failure` -/
def raiseTransientFailure : WorkerM Unit := do
  rollback
  throw .transientPreviewJobError

/-- `persist_failure`, retried only if the database is unavailable. -/
def persistFailure (message : String) : WorkerM Unit :=
  tryCatch (failJob collaborators message) fun error =>
    if error.TransientDatabase then do
      -- the argument `job.id` is read before the rollback
      let _jobId ← readJob
      raiseTransientFailure
    else
      throw error

/-- `assert job is not None` -/
def assertJob : WorkerM Unit := fun session =>
  if session.job.isSome then .ok () session else .error .assertionError session

/-- The `try` block of `run_preview_job`. -/
def executeJob (allowRunningRetry : Bool) : WorkerM Bool := do
  let claimed ← claimJob collaborators allowRunningRetry
  if claimed then
    let job ← readJob
    let parsed ← call .parse (collaborators.parse job.strategyText)
    updateProgress collaborators .validating 35
    updateProgress collaborators .compiling 50
    updateProgress collaborators .loadingData 70
    updateProgress collaborators .backtesting 85
    let preview ← call .previewFactory (collaborators.previewFactory parsed)
    updateProgress collaborators .generatingResults 95
    let result ← call .serializePreview
      ((serializePreview collaborators.rendering parsed preview).mapError .ofPyError)
    completeJob collaborators result
    return true
  else
    return false

/-- Its `except Exception` clause. -/
def handleUnexpected : WorkerM Unit := do
  let session ← get
  if session.job.isNone then
    rollback
    transitionJobAfterOperationalFailure collaborators .transition
  else
    persistFailure collaborators "Unable to complete the strategy preview."

/-- Its `except` clauses, in order. -/
def handleException : PreviewException → WorkerM Unit
  | .strategyValidationError message | .strategyCompilationError message
  | .marketDataUnavailableError message => do
      assertJob
      persistFailure collaborators message
  | .strategyProviderTimeoutError => raiseTransientFailure
  | .strategyParserError => do
      assertJob
      persistFailure collaborators "Unable to parse the strategy."
  | error =>
      if error.TransientDatabase then
        raiseTransientFailure
      else
        handleUnexpected collaborators

/-- `run_preview_job`, with its handlers; `False` means that the claim was refused. -/
def runPreviewJob (allowRunningRetry : Bool) : WorkerM Bool :=
  tryCatch (executeJob collaborators allowRunningRetry) fun error => do
    handleException collaborators error
    return true

-- ============================================================================
-- `preview_worker.py`
-- ============================================================================

/-- The `except` clauses of `process_preview_job`. -/
def handleWorkerException (error : PreviewException) : WorkerM Unit :=
  if error.TransientDatabase then do
    rollback
    throw .transientPreviewJobError
  else if error = .transientPreviewJobError then
    throw error
  else do
    rollback
    tryCatch (transitionJobAfterOperationalFailure collaborators .lastResort)
      fun persistenceError =>
        if persistenceError.TransientDatabase then do
          rollback
          throw .transientPreviewJobError
        else
          rollback

/-- The `finally` block; what it raises is logged. -/
def releaseLock : WorkerM Unit := do
  rollback
  let _unlocked ← execute fun _ => none

/-- `process_preview_job` for a valid payload, once the worker holds the lock. -/
def processPreviewJob (settings : Settings) (retriesLeft : Option Nat) : WorkerM Unit :=
  Action.withCleanup
    (tryCatch
      (do
        let _executed ← runPreviewJob collaborators
          (Queue.allowRunningRetry settings.maxRetries retriesLeft))
      (handleWorkerException collaborators))
    releaseLock

end Worker

end Workers
end TradingPlatform
