/-
  TradingPlatform.Jobs.JobStore

  The `preview_jobs` row and the operations of `app/services/job_store.py` on it.

  Two kinds of write occur.  `claim_job` and
  `transition_job_after_operational_failure` are guarded `UPDATE`s: they read
  and write the stored row in one statement.  `update_progress`, `complete_job`
  and `fail_job` assign attributes of an ORM object loaded earlier; the commit
  writes the columns whose value differs from the loaded one, with no guard
  (`PreviewJob.flush`).
-/

import TradingPlatform.Core.Json

namespace TradingPlatform
namespace Jobs

/-- A preview job's UUID. -/
abbrev JobId := Nat

/-- The `status` of a preview job. -/
inductive JobStatus where
  | queued
  | running
  | completed
  | failed
deriving DecidableEq, Repr

/-- The `stage` of a preview job. -/
inductive JobStage where
  | queued
  | parsing
  | validating
  | compiling
  | loadingData
  | backtesting
  | generatingResults
  | completed
  | failed
deriving DecidableEq, Repr

/-- `status in ("queued", "running")` -/
def JobStatus.Nonterminal (status : JobStatus) : Prop := status = .queued ∨ status = .running

instance (status : JobStatus) : Decidable status.Nonterminal :=
  inferInstanceAs (Decidable (status = .queued ∨ status = .running))

/-- A row of `preview_jobs`. -/
structure PreviewJob where
  id : JobId
  userId : String
  status : JobStatus
  stage : JobStage
  progress : Nat
  strategyText : String
  strategyName : Option String
  errorMessage : Option String
  previewResult : Option Json
  attemptCount : Nat
  createdAt : Timestamp
  startedAt : Option Timestamp
  completedAt : Option Timestamp
  expiresAt : Timestamp
deriving Repr

/-- The settings that the job services read, with their defaults. -/
structure Settings where
  maxRetries : Nat := 2
  ttlHours : Nat := 24
  staleAfterSeconds : Nat := 300
  reconciliationBatchSize : Nat := 100
deriving DecidableEq, Repr

/-- The settings of an unconfigured deployment. -/
def defaultSettings : Settings := {}

-- ============================================================================
-- Inserting and guarded updates
-- ============================================================================

/-- The row inserted by `create_job`. -/
def createJob (settings : Settings) (jobId : JobId) (userId strategyText : String)
    (strategyName : Option String) (now : Timestamp) : PreviewJob where
  id := jobId
  userId := userId
  status := .queued
  stage := .queued
  progress := 5
  strategyText := strategyText
  strategyName := strategyName
  errorMessage := none
  previewResult := none
  attemptCount := 0
  createdAt := now
  startedAt := none
  completedAt := none
  expiresAt := now + settings.ttlHours * 3600000000

@[simp, grind =] theorem createJob_status (settings : Settings) (jobId : JobId)
    (userId strategyText : String) (strategyName : Option String) (now : Timestamp) :
    (createJob settings jobId userId strategyText strategyName now).status = .queued := rfl

@[simp, grind =] theorem createJob_attemptCount (settings : Settings) (jobId : JobId)
    (userId strategyText : String) (strategyName : Option String) (now : Timestamp) :
    (createJob settings jobId userId strategyText strategyName now).attemptCount = 0 := rfl

/-- The guarded `UPDATE` of `claim_job`; `none` when no row matched. -/
def claimJob (allowRunningRetry : Bool) (now : Timestamp) (row : PreviewJob) :
    Option PreviewJob :=
  if row.status = .queued ∨ (allowRunningRetry ∧ row.status = .running) then
    some { row with
      status := .running
      stage := .parsing
      progress := 20
      startedAt := some now
      completedAt := none
      errorMessage := none
      attemptCount := row.attemptCount + 1 }
  else
    none

/-- The error of a job that failed for no fault of its strategy. -/
def operationalFailureMessage : String := "Unable to complete the strategy preview."

/-- The guarded `UPDATE` of `transition_job_after_operational_failure`; the row is
    unchanged when it did not match. -/
def transitionJobAfterOperationalFailure (willRetry : Bool) (finalError : String)
    (now : Timestamp) (row : PreviewJob) : PreviewJob :=
  if row.status.Nonterminal then
    if willRetry then
      { row with
        status := .queued
        stage := .queued
        progress := 5
        startedAt := none
        completedAt := none
        errorMessage := none }
    else
      { row with
        status := .failed
        stage := .failed
        progress := 100
        completedAt := some now
        errorMessage := some finalError }
  else
    row

-- ============================================================================
-- Writes through a loaded object
-- ============================================================================

/-- A column at commit: written only if the object's value differs from the loaded one. -/
def flushColumn {α : Type} [BEq α] (loaded value stored : α) : α :=
  if value == loaded then stored else value

/-- `session.commit()` for one dirty object: `UPDATE … WHERE id = …` of the changed
    columns, whatever the stored row holds by now. -/
def PreviewJob.flush (loaded value stored : PreviewJob) : PreviewJob where
  id := flushColumn loaded.id value.id stored.id
  userId := flushColumn loaded.userId value.userId stored.userId
  status := flushColumn loaded.status value.status stored.status
  stage := flushColumn loaded.stage value.stage stored.stage
  progress := flushColumn loaded.progress value.progress stored.progress
  strategyText := flushColumn loaded.strategyText value.strategyText stored.strategyText
  strategyName := flushColumn loaded.strategyName value.strategyName stored.strategyName
  errorMessage := flushColumn loaded.errorMessage value.errorMessage stored.errorMessage
  previewResult := flushColumn loaded.previewResult value.previewResult stored.previewResult
  attemptCount := flushColumn loaded.attemptCount value.attemptCount stored.attemptCount
  createdAt := flushColumn loaded.createdAt value.createdAt stored.createdAt
  startedAt := flushColumn loaded.startedAt value.startedAt stored.startedAt
  completedAt := flushColumn loaded.completedAt value.completedAt stored.completedAt
  expiresAt := flushColumn loaded.expiresAt value.expiresAt stored.expiresAt

/-- `update_progress`, in the session. -/
def updateProgress (job : PreviewJob) (stage : JobStage) (progress : Nat) : PreviewJob :=
  { job with
    stage := stage
    progress := progress }

/-- `complete_job`, in the session; it does not look at the status. -/
def completeJob (job : PreviewJob) (result : Json) (now : Timestamp) : PreviewJob :=
  { job with
    status := .completed
    stage := .completed
    progress := 100
    previewResult := some result
    completedAt := some now }

/-- `fail_job`, in the session; it does not look at the status. -/
def failJob (job : PreviewJob) (error : String) (now : Timestamp) : PreviewJob :=
  { job with
    status := .failed
    stage := .failed
    progress := 100
    errorMessage := some error
    completedAt := some now }

-- ============================================================================
-- What the operations do to status and attempts
-- ============================================================================

theorem JobStatus.terminal_iff {status : JobStatus} :
    ¬ status.Nonterminal ↔ status = .completed ∨ status = .failed := by
  cases status <;> simp [JobStatus.Nonterminal]

/-- A claim takes a nonterminal row to running, and counts the attempt. -/
theorem claimJob_eq_some {allowRunningRetry : Bool} {now : Timestamp}
    {row claimed : PreviewJob} (h : claimJob allowRunningRetry now row = some claimed) :
    row.status.Nonterminal ∧ claimed.status = .running ∧
      claimed.attemptCount = row.attemptCount + 1 := by
  unfold claimJob at h
  split at h
  · rename_i heligible
    cases h
    exact ⟨heligible.imp_right And.right, rfl, rfl⟩
  · cases h

/-- A claim of a queued row is never refused. -/
theorem status_ne_queued_of_claimJob_eq_none {allowRunningRetry : Bool} {now : Timestamp}
    {row : PreviewJob} (h : claimJob allowRunningRetry now row = none) :
    row.status ≠ .queued := by
  intro hqueued
  rw [claimJob, if_pos (Or.inl hqueued)] at h
  cases h

section Transition

variable (willRetry : Bool) (finalError : String) (now : Timestamp) (row : PreviewJob)

@[simp, grind =] theorem transition_attemptCount :
    (transitionJobAfterOperationalFailure willRetry finalError now row).attemptCount =
      row.attemptCount := by
  unfold transitionJobAfterOperationalFailure
  split
  · split <;> rfl
  · rfl

theorem transition_status_of_nonterminal (h : row.status.Nonterminal) :
    (transitionJobAfterOperationalFailure willRetry finalError now row).status =
      if willRetry then .queued else .failed := by
  rw [transitionJobAfterOperationalFailure, if_pos h]
  cases willRetry <;> rfl

theorem transition_of_terminal (h : ¬ row.status.Nonterminal) :
    transitionJobAfterOperationalFailure willRetry finalError now row = row := by
  rw [transitionJobAfterOperationalFailure, if_neg h]

theorem transition_status_ne_running :
    (transitionJobAfterOperationalFailure willRetry finalError now row).status ≠ .running := by
  by_cases h : row.status.Nonterminal
  · rw [transition_status_of_nonterminal willRetry finalError now row h]
    cases willRetry <;> nofun
  · rw [transition_of_terminal willRetry finalError now row h]
    exact fun hrunning => h (Or.inr hrunning)

theorem transition_terminal :
    ¬ (transitionJobAfterOperationalFailure false finalError now row).status.Nonterminal := by
  by_cases h : row.status.Nonterminal
  · rw [transition_status_of_nonterminal false finalError now row h]
    decide
  · rwa [transition_of_terminal false finalError now row h]

end Transition

theorem flushColumn_self {α : Type} [BEq α] [ReflBEq α] (loaded stored : α) :
    flushColumn loaded loaded stored = stored := by
  simp [flushColumn]

/-- A column assigned `value` holds it after the commit, unless it was loaded as such. -/
theorem flushColumn_eq {α : Type} [BEq α] [LawfulBEq α] (loaded value stored : α) :
    flushColumn loaded value stored = value ∨
      (loaded = value ∧ flushColumn loaded value stored = stored) := by
  unfold flushColumn
  split
  · rename_i heq
    exact Or.inr ⟨(eq_of_beq heq).symm, rfl⟩
  · exact Or.inl rfl

section Flush

variable (job row : PreviewJob)

@[simp, grind =] theorem flush_updateProgress_status (stage : JobStage) (progress : Nat) :
    (job.flush (updateProgress job stage progress) row).status = row.status :=
  flushColumn_self _ _

@[simp, grind =] theorem flush_updateProgress_attemptCount (stage : JobStage) (progress : Nat) :
    (job.flush (updateProgress job stage progress) row).attemptCount = row.attemptCount :=
  flushColumn_self _ _

@[simp, grind =] theorem flush_completeJob_attemptCount (result : Json) (now : Timestamp) :
    (job.flush (completeJob job result now) row).attemptCount = row.attemptCount :=
  flushColumn_self _ _

@[simp, grind =] theorem flush_failJob_attemptCount (error : String) (now : Timestamp) :
    (job.flush (failJob job error now) row).attemptCount = row.attemptCount :=
  flushColumn_self _ _

theorem flush_completeJob_status (result : Json) (now : Timestamp) :
    (job.flush (completeJob job result now) row).status = .completed ∨
      (job.status = .completed ∧
        (job.flush (completeJob job result now) row).status = row.status) :=
  flushColumn_eq ..

theorem flush_failJob_status (error : String) (now : Timestamp) :
    (job.flush (failJob job error now) row).status = .failed ∨
      (job.status = .failed ∧ (job.flush (failJob job error now) row).status = row.status) :=
  flushColumn_eq ..

/-- `complete_job` leaves a terminal row, unless its object was loaded as terminal and the row
    is not. -/
theorem flush_completeJob_terminal (result : Json) (now : Timestamp)
    (h : ¬ job.status.Nonterminal → ¬ row.status.Nonterminal) :
    ¬ (job.flush (completeJob job result now) row).status.Nonterminal := by
  rcases flush_completeJob_status job row result now with hstatus | ⟨hjob, hstatus⟩
  · rw [hstatus]
    decide
  · rw [hstatus]
    exact h (by rw [hjob]; decide)

theorem flush_failJob_terminal (error : String) (now : Timestamp)
    (h : ¬ job.status.Nonterminal → ¬ row.status.Nonterminal) :
    ¬ (job.flush (failJob job error now) row).status.Nonterminal := by
  rcases flush_failJob_status job row error now with hstatus | ⟨hjob, hstatus⟩
  · rw [hstatus]
    decide
  · rw [hstatus]
    exact h (by rw [hjob]; decide)

end Flush

end Jobs
end TradingPlatform
