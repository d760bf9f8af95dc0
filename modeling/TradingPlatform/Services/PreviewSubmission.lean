/-
  TradingPlatform.Services.PreviewSubmission

  `submit_preview_job` of `app/services/preview_job_service.py` and its route
  under a single fault: one of its operations raises once, without effect, and
  the others succeed.

  The row is committed as queued before the message is enqueued.  Only the
  enqueue is wrapped by the compensation that fails the row; a refresh that
  raises after the insert's commit leaves the row queued, with the user told that
  the submission failed.
-/

import TradingPlatform.Jobs.JobStore
import TradingPlatform.Lib.Action

namespace TradingPlatform
namespace Services

open Jobs

/-- The operations that can raise. -/
inductive SubmissionOperation where
  | lockAcquire
  | insertCommit
  | refresh
  | enqueue
  | failCommit
  | rollback
  | unlock
deriving DecidableEq, Repr

/-- What `submit_preview_job` raises. -/
inductive SubmissionError where
  | raised (operation : SubmissionOperation)
  | runtimeError (message : String)
  | httpException (statusCode : Nat) (detail : String)
deriving DecidableEq, Repr

/-- What a call of `submit_preview_job` is given. -/
structure SubmissionRequest where
  settings : Settings
  jobId : JobId
  userId : String
  strategyText : String
  strategyName : Option String
  createdAt : Timestamp
  failedAt : Timestamp

/-- The job's committed row and message, and the session of the request. -/
structure Submission where
  row : Option PreviewJob
  messages : List JobId
  /-- added to the session, and not committed -/
  added : Option PreviewJob
  locked : Bool
  invalidated : Bool
  /-- the operation that raises when it is next performed -/
  fault : Option SubmissionOperation

/-- A computation over the state of a submission. -/
abbrev SubmissionM := EStateM SubmissionError Submission

namespace Submission

/-- The submission before its first operation. -/
def opened (fault : SubmissionOperation) : Submission := ⟨none, [], none, false, false, some fault⟩

/-- An operation raises if the fault is its own, and has its effect otherwise. -/
def perform (operation : SubmissionOperation) (effect : Submission → Submission) :
    SubmissionM Unit := fun s =>
  if s.fault = some operation then
    .error (.raised operation) { s with fault := none }
  else
    .ok () (effect s)

/-- `session.rollback()` -/
def rollback : SubmissionM Unit := perform .rollback fun s => { s with added := none }

-- ============================================================================
-- `job_store.py`
-- ============================================================================

/-- `acquire_preview_job_lock`, given the answers to its tries up to the deadline. -/
def acquirePreviewJobLock : List Bool → SubmissionM Bool
  | [] => return false
  | granted :: later => do
      perform .lockAcquire fun s => { s with locked := granted }
      if granted then
        return true
      else
        rollback
        acquirePreviewJobLock later

/-- `create_job`: the row is committed, and read again. -/
def createJob (request : SubmissionRequest) : SubmissionM PreviewJob := do
  let job := Jobs.createJob request.settings request.jobId request.userId request.strategyText
    request.strategyName request.createdAt
  modify fun s => { s with added := some job }
  perform .insertCommit fun s =>
    { s with
      row := s.added
      added := none }
  perform .refresh id
  return job

/-- `fail_job` -/
def failJob (request : SubmissionRequest) (job : PreviewJob) (error : String) :
    SubmissionM Unit :=
  perform .failCommit fun s =>
    { s with row := s.row.map (job.flush (Jobs.failJob job error request.failedAt)) }

/-- `release_preview_job_lock` -/
def releasePreviewJobLock : SubmissionM Unit := perform .unlock fun s => { s with locked := false }

/-- `session.invalidate()` -/
def invalidate : SubmissionM Unit := modify fun s => { s with invalidated := true }

end Submission

open Submission

-- ============================================================================
-- `submit_preview_job` and its route
-- ============================================================================

/-- The `try` block of `submit_preview_job`, under the lock. -/
def createAndEnqueue (request : SubmissionRequest) : SubmissionM JobId := do
  let job ← createJob request
  tryCatch (perform .enqueue fun s => { s with messages := s.messages ++ [job.id] }) fun error => do
    failJob request job "Unable to queue the strategy preview."
    throw error
  return job.id

/-- Its `finally` block. -/
def releaseSubmission : SubmissionM Unit :=
  tryCatch (do rollback; releasePreviewJobLock) fun _ => invalidate

/-- `submit_preview_job`; `answers` are those of `pg_try_advisory_lock`. -/
def submitPreviewJob (request : SubmissionRequest) (answers : List Bool) : SubmissionM JobId := do
  let acquired ← acquirePreviewJobLock answers
  if acquired then
    Action.withCleanup (createAndEnqueue request) releaseSubmission
  else
    throw (.runtimeError "Unable to safely submit the preview job.")

/-- The route `preview_strategy` of `app/api/routes/strategies.py`. -/
def previewStrategy (request : SubmissionRequest) (answers : List Bool) : SubmissionM JobId :=
  tryCatch (submitPreviewJob request answers) fun _ => do
    rollback
    throw (.httpException 503 "Unable to queue the strategy preview.")

-- ============================================================================
-- A single fault
-- ============================================================================

/-- No committed row of the job is queued or running. -/
def Submission.NothingRunnable (s : Submission) : Prop :=
  ∀ row, s.row = some row → ¬ row.status.Nonterminal

/-- Trying for the lock raises, gives up, or takes it; the row is not touched. -/
theorem acquirePreviewJobLock_cases (answers : List Bool) {s : Submission}
    (hadded : s.added = none) (hlocked : s.locked = false) :
    ((s.fault = some .lockAcquire ∨ s.fault = some .rollback) ∧
      ∃ error, acquirePreviewJobLock answers s = .error error { s with fault := none }) ∨
    (true ∉ answers ∧ acquirePreviewJobLock answers s = .ok false s) ∨
    (true ∈ answers ∧ acquirePreviewJobLock answers s = .ok true { s with locked := true }) := by
  induction answers with
  | nil => exact .inr (.inl ⟨List.not_mem_nil, rfl⟩)
  | cons granted later ih =>
      by_cases hraises : s.fault = some .lockAcquire
      · refine .inl ⟨.inl hraises, .raised .lockAcquire, ?_⟩
        simp only [acquirePreviewJobLock, Action.bind_eq, perform, if_pos hraises]
      · cases granted with
        | true =>
            refine .inr (.inr ⟨List.mem_cons_self .., ?_⟩)
            simp only [acquirePreviewJobLock, Action.bind_eq, perform, if_neg hraises, if_true]
            rfl
        | false =>
            have hsame : { s with locked := false } = s := by rw [← hlocked]
            by_cases hrollback : s.fault = some .rollback
            · refine .inl ⟨.inr hrollback, .raised .rollback, ?_⟩
              simp only [acquirePreviewJobLock, Action.bind_eq, perform, if_neg hraises, hsame,
                Submission.rollback, if_pos hrollback, Bool.false_eq_true, if_false]
            · have hclean : { s with added := none } = s := by rw [← hadded]
              have hlater : acquirePreviewJobLock (false :: later) s =
                  acquirePreviewJobLock later s := by
                simp only [acquirePreviewJobLock, Action.bind_eq, perform, if_neg hraises, hsame,
                  Submission.rollback, if_neg hrollback, hclean, Bool.false_eq_true, if_false]
              rw [hlater]
              simpa using ih

section SingleFault

variable (request : SubmissionRequest)

/-- The row that the insert commits. -/
def SubmissionRequest.row : PreviewJob :=
  Jobs.createJob request.settings request.jobId request.userId request.strategyText
    request.strategyName request.createdAt

/-- Under the lock, only the insert, the refresh and the enqueue can make the call raise. -/
theorem createAndEnqueue_raises {fault : SubmissionOperation} {error : SubmissionError}
    {s : Submission}
    (h : Action.withCleanup (createAndEnqueue request) releaseSubmission
      { opened fault with locked := true } = .error error s) :
    (fault = .insertCommit ∧ s.row = none) ∨
    (fault = .refresh ∧ s.row = some request.row) ∨
    (fault = .enqueue ∧ s.row = some (request.row.flush
      (Jobs.failJob request.row "Unable to queue the strategy preview." request.failedAt)
      request.row)) := by
  cases fault with
  | lockAcquire => cases h
  | insertCommit =>
      cases h
      exact .inl ⟨rfl, rfl⟩
  | refresh =>
      cases h
      exact .inr (.inl ⟨rfl, rfl⟩)
  | enqueue =>
      cases h
      exact .inr (.inr ⟨rfl, rfl⟩)
  | failCommit => cases h
  | rollback => cases h
  | unlock => cases h

theorem createAndEnqueue_refresh :
    ∃ s, Action.withCleanup (createAndEnqueue request) releaseSubmission
        { opened .refresh with locked := true } = .error (.raised .refresh) s ∧
      s.row = some request.row :=
  ⟨_, rfl, rfl⟩

theorem submitPreviewJob_granted {fault : SubmissionOperation} {answers : List Bool}
    (h : acquirePreviewJobLock answers (opened fault) =
      .ok true { opened fault with locked := true }) :
    submitPreviewJob request answers (opened fault) =
      Action.withCleanup (createAndEnqueue request) releaseSubmission
        { opened fault with locked := true } := by
  rw [submitPreviewJob, Action.bind_eq, h]
  rfl

/-- Without a refresh that raises, a call that raises leaves no row or a failed one. -/
theorem nothingRunnable_of_raises {fault : SubmissionOperation} {answers : List Bool}
    (hfault : fault = .refresh → true ∉ answers) {error : SubmissionError} {s : Submission}
    (h : submitPreviewJob request answers (opened fault) = .error error s) :
    s.NothingRunnable := by
  have hnone : s.row = none → s.NothingRunnable := fun hnone row hrow => by
    rw [hnone] at hrow
    cases hrow
  rcases acquirePreviewJobLock_cases answers (s := opened fault) rfl rfl with
    ⟨-, raised, hacquire⟩ | ⟨-, hacquire⟩ | ⟨hgranted, hacquire⟩
  · rw [submitPreviewJob, Action.bind_eq, hacquire] at h
    cases h
    exact hnone rfl
  · rw [submitPreviewJob, Action.bind_eq, hacquire] at h
    cases h
    exact hnone rfl
  · rw [submitPreviewJob_granted request hacquire] at h
    rcases createAndEnqueue_raises request h with ⟨-, hrow⟩ | ⟨hrefresh, -⟩ | ⟨-, hfailed⟩
    · exact hnone hrow
    · exact absurd hgranted (hfault hrefresh)
    · intro row hrow
      rw [hfailed] at hrow
      cases hrow
      exact flush_failJob_terminal _ _ _ _ fun hterminal => absurd (Or.inl rfl) hterminal

/-- The refresh raises after the commit: the call raises, and the queued row stays. -/
theorem submitPreviewJob_refresh {answers : List Bool} (hgranted : true ∈ answers) :
    ∃ s, submitPreviewJob request answers (opened .refresh) = .error (.raised .refresh) s ∧
      s.row = some request.row := by
  rcases acquirePreviewJobLock_cases answers (s := opened .refresh) rfl rfl with
    ⟨hfault, -⟩ | ⟨hrefused, -⟩ | ⟨-, hacquire⟩
  · rcases hfault with h | h <;> cases h
  · exact absurd hgranted hrefused
  · rw [submitPreviewJob_granted request hacquire]
    exact createAndEnqueue_refresh request

/-- The route answers 503 over the row that the call leaves. -/
theorem previewStrategy_row {answers : List Bool} {session : Submission} :
    (∀ {error s}, submitPreviewJob request answers session = .error error s →
      ∃ error' s', previewStrategy request answers session = .error error' s' ∧ s'.row = s.row) ∧
    ∀ {error' s'}, previewStrategy request answers session = .error error' s' →
      ∃ error s, submitPreviewJob request answers session = .error error s ∧ s'.row = s.row := by
  have hhandler : ∀ s : Submission, ∃ error s',
      (rollback >>= fun _ => throw (.httpException 503 "Unable to queue the strategy preview.") :
        SubmissionM JobId) s = .error error s' ∧ s'.row = s.row := by
    intro s
    by_cases hrollback : s.fault = some .rollback
    · refine ⟨.raised .rollback, { s with fault := none }, ?_, rfl⟩
      simp only [Action.bind_eq, Submission.rollback, perform, if_pos hrollback]
    · refine ⟨.httpException 503 "Unable to queue the strategy preview.",
        { s with added := none }, ?_, rfl⟩
      simp only [Action.bind_eq, Submission.rollback, perform, if_neg hrollback]
      rfl
  constructor
  · intro error s h
    rw [previewStrategy, Action.tryCatch_eq, h]
    exact hhandler s
  · intro error' s' h
    rw [previewStrategy, Action.tryCatch_eq] at h
    cases hsubmit : submitPreviewJob request answers session with
    | ok jobId s =>
        rw [hsubmit] at h
        cases h
    | error error s =>
        rw [hsubmit] at h
        obtain ⟨raised, after, hraised, hrow⟩ := hhandler s
        have hsame := hraised.symm.trans h
        cases hsame
        exact ⟨error, s, rfl, hrow⟩

end SingleFault

/-- A request whose lock is free. -/
def orphanedRequest : SubmissionRequest :=
  ⟨defaultSettings, 7, "user", "Buy above 10.", none, 0, 0⟩

/-- The insert is committed and the refresh raises: the row is left queued, without a message,
    and a worker that is given it claims it. -/
theorem submitPreviewJob_refreshRaises :
    ∃ s row claimed, submitPreviewJob orphanedRequest [true] (opened .refresh) =
        .error (.raised .refresh) s ∧
      s.row = some row ∧ row.status = .queued ∧ s.messages = [] ∧
      Jobs.claimJob false 0 row = some claimed ∧ ¬ s.NothingRunnable :=
  ⟨_, _, _, rfl, rfl, rfl, rfl, rfl, fun h => h _ rfl (Or.inl rfl)⟩

/-- A call of `submit_preview_job` that raises under a single fault leaves nothing runnable
    exactly if the fault is not a refresh after the lock was granted. -/
theorem submitPreviewJob_nothingRunnable_iff (request : SubmissionRequest)
    (fault : SubmissionOperation) (answers : List Bool) :
    (∀ error s, submitPreviewJob request answers (opened fault) = .error error s →
      s.NothingRunnable) ↔ (fault = .refresh → true ∉ answers) := by
  constructor
  · rintro h rfl hgranted
    obtain ⟨s, hrun, hrow⟩ := submitPreviewJob_refresh request hgranted
    exact h _ s hrun _ hrow (Or.inl rfl)
  · exact fun hfault error s hrun => nothingRunnable_of_raises request hfault hrun

/-- The same of the route, whose answer is then 503. -/
theorem previewStrategy_nothingRunnable_iff (request : SubmissionRequest)
    (fault : SubmissionOperation) (answers : List Bool) :
    (∀ error s, previewStrategy request answers (opened fault) = .error error s →
      s.NothingRunnable) ↔ (fault = .refresh → true ∉ answers) := by
  constructor
  · rintro h rfl hgranted
    obtain ⟨s, hrun, hrow⟩ := submitPreviewJob_refresh request hgranted
    obtain ⟨error, s', hanswer, hsame⟩ := (previewStrategy_row request).1 hrun
    exact h _ s' hanswer _ (hsame.trans hrow) (Or.inl rfl)
  · intro hfault error s hanswer
    obtain ⟨raised, before, hrun, hsame⟩ := (previewStrategy_row request).2 hanswer
    have hbefore := nothingRunnable_of_raises request hfault hrun
    rwa [Submission.NothingRunnable, hsame]

end Services
end TradingPlatform
