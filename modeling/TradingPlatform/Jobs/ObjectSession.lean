/-
  TradingPlatform.Jobs.ObjectSession

  What a failed commit leaves behind in the worker's session.

  `update_progress`, `complete_job` and `fail_job` assign to the loaded object
  and then commit.  When the commit fails, the object keeps what was assigned,
  and `run_preview_job` may call `fail_job` on it.  SQLAlchemy refuses every
  further use of a session whose commit failed until `rollback`, which reloads
  the object; the refusal is not one of `TRANSIENT_DATABASE_ERRORS`.  So nothing
  of the object is written after a failed commit, and each way in which the
  handlers can end is one step of the job system.
-/

import TradingPlatform.Jobs.TerminalStates

namespace TradingPlatform
namespace Jobs

/-- How PostgreSQL answers a commit: with one of `TRANSIENT_DATABASE_ERRORS`, or another. -/
inductive CommitOutcome where
  | accepted
  | transient
  | rejected
deriving DecidableEq, Repr

/-- What an operation of the worker raises. -/
inductive WorkerError where
  | transientDatabase
  /-- `TransientPreviewJobError` -/
  | transientJob
  | unexpected
deriving DecidableEq, Repr

/-- The session of an execution: the committed row, and the object as it was loaded and as it
    is now. -/
structure ObjectSession where
  row : PreviewJob
  loaded : PreviewJob
  job : PreviewJob
  rollbackPending : Bool

/-- A computation over the worker's session. -/
abbrev SessionM := ExceptT WorkerError (StateM ObjectSession)

/-- Attributes of the object are set. -/
def assign (write : PreviewJob → PreviewJob) : SessionM Unit :=
  modify fun session => { session with job := write session.job }

/-- `session.rollback()`: the object is read again. -/
def rollback : SessionM Unit :=
  modify fun session =>
    { session with
      loaded := session.row
      job := session.row
      rollbackPending := false }

/-- `session.commit()` after a change of the row. -/
def commitRow (outcome : CommitOutcome) (change : ObjectSession → PreviewJob) : SessionM Unit := do
  let session ← get
  if session.rollbackPending then throw .unexpected
  match outcome with
  | .accepted => set { session with row := change session, loaded := session.job }
  | .transient =>
      set { session with rollbackPending := true }
      throw .transientDatabase
  | .rejected =>
      set { session with rollbackPending := true }
      throw .unexpected

/-- The commit of the object's assigned columns. -/
def commitObject (outcome : CommitOutcome) : SessionM Unit :=
  commitRow outcome fun session => session.loaded.flush session.job session.row

/-- `raise_transient_failure`: the session is rolled back, and the job left to a retry. -/
def raiseTransientFailure : SessionM Unit := do
  rollback
  throw .transientJob

/-- `persist_failure`: a failure is stored, and retried only if the database is unavailable. -/
def persistFailure (outcome : CommitOutcome) (message : String) (now : Timestamp) :
    SessionM Unit :=
  tryCatch
    (do
      assign (failJob · message now)
      commitObject outcome)
    fun
    | .transientDatabase => raiseTransientFailure
    | error => throw error

/-- `run_preview_job` from one write of the object on: the write, and the handlers. -/
def writeObject (write : PreviewJob → PreviewJob) (outcome failure : CommitOutcome)
    (now : Timestamp) : SessionM Unit :=
  tryCatch
    (do
      assign write
      commitObject outcome)
    fun
    | .transientDatabase => raiseTransientFailure
    | _ => persistFailure failure "Unable to complete the strategy preview." now

/-- The handlers of `process_preview_job` around an execution. -/
def handleExecution (execution : SessionM Unit) (final : CommitOutcome) (now : Timestamp) :
    SessionM Unit :=
  tryCatch execution fun
    | .transientDatabase => raiseTransientFailure
    | .transientJob => throw .transientJob
    | .unexpected => do
        rollback
        tryCatch
          (commitRow final fun session =>
            transitionJobAfterOperationalFailure false operationalFailureMessage now session.row)
          fun
          | .transientDatabase => raiseTransientFailure
          | _ => rollback

/-- A session that has loaded the object from the row. -/
def ObjectSession.opened (row job : PreviewJob) : ObjectSession := ⟨row, job, job, false⟩

section Handlers

variable (write : PreviewJob → PreviewJob) (outcome failure final : CommitOutcome)
  (now : Timestamp) (row job : PreviewJob)

/-- The row after a write of the object and the handlers, and whether the worker raised. -/
def afterWrite : PreviewJob × Bool :=
  let (result, session) := (handleExecution (writeObject write outcome failure now) final now).run
    (ObjectSession.opened row job)
  (session.row, match result with
    | .ok () => false
    | .error _ => true)

/-- The `fail_job` on the object with the uncommitted assignments is refused, whatever
    PostgreSQL would answer; the guarded transition then decides. -/
theorem afterWrite_rejected :
    afterWrite write .rejected failure final now row job =
      match final with
      | .accepted =>
          (transitionJobAfterOperationalFailure false operationalFailureMessage now row, false)
      | .transient => (row, true)
      | .rejected => (row, false) := by
  cases final <;> rfl

end Handlers

/-- A worker whose commit fails takes one step of the job system: it raises with the row
    untouched, fails the row by the guarded transition, or returns with the row untouched. -/
theorem failedWrite_step {settings : Settings} {w : World} {p : ProcId} {m : MessageId} {j : JobId}
    {job row : PreviewJob} {steps : List (JobStage × Nat)}
    (hproc : w.procs p = some (.worker m j (.executing job steps))) (hrow : w.rows j = some row)
    (write : PreviewJob → PreviewJob) {outcome : CommitOutcome} (hfailed : outcome ≠ .accepted)
    (failure final : CommitOutcome) (now : Timestamp) :
    ∃ w', Step settings anyInterleaving w w' ∧
      w'.rows j = some (afterWrite write outcome failure final now row job).1 ∧
      w'.procs p = some (.worker m j
        (if (afterWrite write outcome failure final now row job).2 then .raising
          else .returning false)) := by
  have hraise : ∃ w', Step settings anyInterleaving w w' ∧ w'.rows j = some row ∧
      w'.procs p = some (.worker m j .raising) :=
    ⟨_, .raise hproc, hrow, by simp⟩
  cases outcome with
  | accepted => exact absurd rfl hfailed
  | transient => exact hraise
  | rejected =>
      rw [afterWrite_rejected]
      cases final with
      | accepted => exact ⟨_, .unexpected now hproc (Or.inr trivial) hrow, by simp, by simp⟩
      | transient => exact hraise
      | rejected => exact ⟨_, .unpersisted trivial hproc (Or.inr trivial), hrow, by simp⟩

end Jobs
end TradingPlatform
