/-
  TradingPlatform.Jobs.System

  Preview jobs as a distributed system: API calls, RQ workers and reconciliation
  passes over three shared stores.

    * the rows of `preview_jobs`, one committed operation at a time;
    * the RQ messages, each queued, started by a worker, or scheduled for a retry;
    * the per-job advisory locks.

  A party is a process with a program counter, and `Step` has one constructor for
  each committed database operation, queue operation and lock operation of

    * `submit_preview_job` (`services/preview_job_service.py`),
    * `process_preview_job`, `run_preview_job` and `handle_preview_job_failure`
      (`workers/preview_worker.py`, `services/preview_job_service.py`),
    * `reconcile_preview_jobs` (`services/preview_reconciliation.py`),
    * RQ itself: delivery, acknowledgement, rescheduling, registry cleanup.

  Any party may move at any time.  `Environment` says what may happen beside the
  code: crashes, errors, timeouts, redelivery, and what a scan may return.

  A lock ends with the unlock of its holder or with the holder's connection, which
  `session.invalidate()` closes after an unlock that failed.  Which connection an
  unlock runs on is the subject of `Db.ConnectionPool`.
-/

import Mathlib.Logic.Function.Basic
import Mathlib.Logic.Relation
import TradingPlatform.Queue.PreviewQueue

namespace TradingPlatform
namespace Jobs

open Queue

/-- A process: a submission, a worker or a reconciliation pass. -/
abbrev ProcId := Nat
/-- An RQ message. -/
abbrev MessageId := Nat

-- ============================================================================
-- Messages
-- ============================================================================

/-- Where an RQ job is; a started one is in the hands of a worker process. -/
inductive Location where
  | queued
  | started (proc : ProcId)
  | scheduled
  | finished
  | failed
deriving DecidableEq, Repr

/-- An RQ message for a job, with the retries it has left. -/
structure Message where
  jobId : JobId
  retriesLeft : Option Nat
  location : Location
deriving DecidableEq, Repr

/-- In the queue, the started or the scheduled registry. -/
def Message.Live (message : Message) : Prop :=
  message.location ≠ .finished ∧ message.location ≠ .failed

instance (message : Message) : Decidable message.Live :=
  inferInstanceAs (Decidable (_ ∧ _))

/-- After the failure callback RQ decrements `retries_left` and schedules a retry, or moves
    the job to the failed registry. -/
def Message.afterFailure (message : Message) : Message :=
  if willRetry message.retriesLeft then
    { message with
      retriesLeft := message.retriesLeft.map (· - 1)
      location := .scheduled }
  else
    { message with location := .failed }

@[simp, grind =] theorem Message.afterFailure_jobId (message : Message) :
    message.afterFailure.jobId = message.jobId := by
  unfold afterFailure
  split <;> rfl

theorem Message.afterFailure_location (message : Message) :
    message.afterFailure.location = .failed ∨
      (message.afterFailure.location = .scheduled ∧
        message.afterFailure.retriesLeft.getD 0 + 1 = message.retriesLeft.getD 0) := by
  unfold afterFailure willRetry
  cases hretries : message.retriesLeft with
  | none => simp
  | some retries =>
      by_cases hpositive : retries > 0
      · simp [hpositive]
        omega
      · simp [hpositive]

-- ============================================================================
-- Processes
-- ============================================================================

/-- `submit_preview_job`: the lock is held until `releasing` is left. -/
inductive SubmitPhase where
  | locked
  | created (job : PreviewJob)
  | releasing
deriving Repr

/-- The progress updates of `run_preview_job`, in order; the preview is created between the
    fourth and the fifth. -/
def progressSteps : List (JobStage × Nat) :=
  [(.validating, 35), (.compiling, 50), (.loadingData, 70), (.backtesting, 85),
    (.generatingResults, 95)]

/-- `process_preview_job`, from delivery to what RQ does with its outcome. -/
inductive WorkerPhase where
  /-- `acquire_preview_job_lock` is polling -/
  | waiting
  /-- the lock is held, `claim_job` has not run -/
  | locked
  /-- the claim is committed, the object not loaded -/
  | claimed
  /-- `job` is the loaded object, `steps` the progress updates still to come -/
  | executing (job : PreviewJob) (steps : List (JobStage × Nat))
  /-- about to release the lock and return; `refused` records a claim that matched no row -/
  | returning (refused : Bool)
  /-- about to release the lock, a `TransientPreviewJobError` propagating -/
  | raising
  /-- returned without the lock: RQ acknowledges the message -/
  | returned
  /-- raised without the lock: RQ runs the failure callback -/
  | raised
  /-- the callback is committed: RQ reschedules or fails the message -/
  | calledBack
deriving Repr

/-- Between the claim and the last write of the execution. -/
def WorkerPhase.Executing : WorkerPhase → Prop
  | .claimed | .executing _ _ => True
  | _ => False

theorem WorkerPhase.executing_iff {phase : WorkerPhase} :
    phase.Executing ↔ phase = .claimed ∨ ∃ job steps, phase = .executing job steps := by
  cases phase <;> simp [WorkerPhase.Executing]

/-- One pass of `reconcile_preview_jobs`; `rest` are the candidates after the current one. -/
inductive ReconcilePhase where
  /-- the first active scan is done -/
  | scanned
  | examining (candidates : List PreviewJob)
  | locked (jobId : JobId) (rest : List PreviewJob)
  | refreshed (jobId : JobId) (job : PreviewJob) (rest : List PreviewJob)
  /-- the second scan did not show the job -/
  | decided (jobId : JobId) (job : PreviewJob) (rest : List PreviewJob)
  /-- a stale running row went back to queued -/
  | transitioned (jobId : JobId) (rest : List PreviewJob)
  | enqueueing (jobId : JobId) (job : PreviewJob) (rest : List PreviewJob)
  | releasing (jobId : JobId) (rest : List PreviewJob)
deriving Repr

/-- A process, and how far it has come. -/
inductive Proc where
  | submit (jobId : JobId) (phase : SubmitPhase)
  | worker (message : MessageId) (jobId : JobId) (phase : WorkerPhase)
  | reconcile (now : Timestamp) (active : List JobId) (phase : ReconcilePhase)
  /-- finished, or killed -/
  | gone
deriving Repr

/-- The job whose advisory lock the process holds. -/
def Proc.holds : Proc → Option JobId
  | .submit jobId _ => some jobId
  | .worker _ jobId phase =>
      match phase with
      | .locked | .claimed | .executing _ _ | .returning _ | .raising => some jobId
      | .waiting | .returned | .raised | .calledBack => none
  | .reconcile _ _ phase =>
      match phase with
      | .scanned | .examining _ => none
      | .locked jobId _ | .refreshed jobId _ _ | .decided jobId _ _ | .transitioned jobId _
      | .enqueueing jobId _ _ | .releasing jobId _ => some jobId
  | .gone => none

/-- The process after the `finally` block that releases its lock. -/
def Proc.afterRelease : Proc → Option Proc
  | .submit _ .releasing => some .gone
  | .worker message jobId (.returning _) => some (.worker message jobId .returned)
  | .worker message jobId .raising => some (.worker message jobId .raised)
  | .reconcile now active (.releasing _ rest) => some (.reconcile now active (.examining rest))
  | _ => none

-- ============================================================================
-- Reconciliation decisions
-- ============================================================================

/-- The error of a job that reconciliation gave up. -/
def recoveryFailureMessage : String :=
  "Unable to recover the strategy preview. Run the preview again."

/-- `is_stale`: a row without `started_at` counts as stale. -/
def isStale (settings : Settings) (now : Timestamp) (job : PreviewJob) : Bool :=
  match job.startedAt with
  | none => true
  | some startedAt => now - startedAt ≥ settings.staleAfterSeconds * 1000000

/-- The job has had its attempts. -/
def exhausted (settings : Settings) (job : PreviewJob) : Bool :=
  job.attemptCount ≥ settings.maxRetries + 1

/-- The job has reached its expiry. -/
def expired (now : Timestamp) (job : PreviewJob) : Bool := now ≥ job.expiresAt

/-- A running row that is neither stale, exhausted nor expired is left alone. -/
def awaitsActiveState (settings : Settings) (now : Timestamp) (job : PreviewJob) : Bool :=
  job.status = .running ∧ isStale settings now job = false ∧ exhausted settings job = false ∧
    expired now job = false

/-- The checks on a candidate's snapshot before its lock is tried. -/
def skipsCandidate (settings : Settings) (now : Timestamp) (active : List JobId)
    (job : PreviewJob) : Bool :=
  job.id ∈ active ∨ awaitsActiveState settings now job

/-- What a pass does with a job it has locked and found inactive. -/
inductive Recovery where
  | fail
  | wait
  | requeue
  | enqueue
deriving DecidableEq, Repr

/-- What a pass does with a nonterminal job that RQ does not know. -/
def decideRecovery (settings : Settings) (now : Timestamp) (job : PreviewJob) : Recovery :=
  if exhausted settings job ∨ expired now job then .fail
  else if job.status = .running ∧ isStale settings now job = false then .wait
  else if job.status = .running then .requeue
  else .enqueue

/-- The check after the second scan, under the lock. -/
def afterSecondScan (active : List JobId) (jobId : JobId) (job : PreviewJob)
    (rest : List PreviewJob) : ReconcilePhase :=
  if jobId ∈ active then .releasing jobId rest else .decided jobId job rest

attribute [grind =] afterSecondScan

/-- `max_retries - job.attempt_count` -/
def recoveryRetryCount (settings : Settings) (job : PreviewJob) : Int :=
  settings.maxRetries - job.attemptCount

-- ============================================================================
-- The world
-- ============================================================================

/-- The committed rows, the messages, the advisory locks and the processes. -/
structure World where
  rows : JobId → Option PreviewJob
  messages : MessageId → Option Message
  locks : JobId → Option ProcId
  procs : ProcId → Option Proc

namespace World

/-- Nothing has happened yet. -/
def initial : World := ⟨fun _ => none, fun _ => none, fun _ => none, fun _ => none⟩

/-- A row is committed. -/
def setRow (w : World) (jobId : JobId) (row : PreviewJob) : World :=
  { w with rows := Function.update w.rows jobId (some row) }

/-- A message is written. -/
def setMessage (w : World) (id : MessageId) (message : Message) : World :=
  { w with messages := Function.update w.messages id (some message) }

/-- A process advances. -/
def setProc (w : World) (id : ProcId) (proc : Proc) : World :=
  { w with procs := Function.update w.procs id (some proc) }

/-- A process takes the lock of a job. -/
def lock (w : World) (jobId : JobId) (id : ProcId) : World :=
  { w with locks := Function.update w.locks jobId (some id) }

/-- Everything the process holds is released, as `pg_advisory_unlock` by its owner or the
    end of its connection does. -/
def unlock (w : World) (id : ProcId) : World :=
  { w with locks := fun jobId => if w.locks jobId = some id then none else w.locks jobId }

section Projections

/-! Each store after each update, pointwise. -/

variable (w : World)

@[simp, grind =] theorem setRow_rows (j k : JobId) (row : PreviewJob) :
    (w.setRow j row).rows k = if k = j then some row else w.rows k :=
  Function.update_apply ..

@[simp, grind =] theorem setRow_messages (j : JobId) (row : PreviewJob) (m : MessageId) :
    (w.setRow j row).messages m = w.messages m := rfl

@[simp, grind =] theorem setRow_locks (j k : JobId) (row : PreviewJob) :
    (w.setRow j row).locks k = w.locks k := rfl

@[simp, grind =] theorem setRow_procs (j : JobId) (row : PreviewJob) (q : ProcId) :
    (w.setRow j row).procs q = w.procs q := rfl

@[simp, grind =] theorem setMessage_rows (m : MessageId) (message : Message) (j : JobId) :
    (w.setMessage m message).rows j = w.rows j := rfl

@[simp, grind =] theorem setMessage_messages (m k : MessageId) (message : Message) :
    (w.setMessage m message).messages k = if k = m then some message else w.messages k :=
  Function.update_apply ..

@[simp, grind =] theorem setMessage_locks (m : MessageId) (message : Message) (j : JobId) :
    (w.setMessage m message).locks j = w.locks j := rfl

@[simp, grind =] theorem setMessage_procs (m : MessageId) (message : Message) (q : ProcId) :
    (w.setMessage m message).procs q = w.procs q := rfl

@[simp, grind =] theorem setProc_rows (p : ProcId) (proc : Proc) (j : JobId) :
    (w.setProc p proc).rows j = w.rows j := rfl

@[simp, grind =] theorem setProc_messages (p : ProcId) (proc : Proc) (m : MessageId) :
    (w.setProc p proc).messages m = w.messages m := rfl

@[simp, grind =] theorem setProc_locks (p : ProcId) (proc : Proc) (j : JobId) :
    (w.setProc p proc).locks j = w.locks j := rfl

@[simp, grind =] theorem setProc_procs (p q : ProcId) (proc : Proc) :
    (w.setProc p proc).procs q = if q = p then some proc else w.procs q :=
  Function.update_apply ..

@[simp, grind =] theorem lock_rows (j k : JobId) (p : ProcId) :
    (w.lock j p).rows k = w.rows k := rfl

@[simp, grind =] theorem lock_messages (j : JobId) (p : ProcId) (m : MessageId) :
    (w.lock j p).messages m = w.messages m := rfl

@[simp, grind =] theorem lock_locks (j k : JobId) (p : ProcId) :
    (w.lock j p).locks k = if k = j then some p else w.locks k :=
  Function.update_apply ..

@[simp, grind =] theorem lock_procs (j : JobId) (p q : ProcId) :
    (w.lock j p).procs q = w.procs q := rfl

@[simp, grind =] theorem unlock_rows (p : ProcId) (j : JobId) :
    (w.unlock p).rows j = w.rows j := rfl

@[simp, grind =] theorem unlock_messages (p : ProcId) (m : MessageId) :
    (w.unlock p).messages m = w.messages m := rfl

@[simp, grind =] theorem unlock_locks (p : ProcId) (j : JobId) :
    (w.unlock p).locks j = if w.locks j = some p then none else w.locks j := rfl

@[simp, grind =] theorem unlock_procs (p q : ProcId) : (w.unlock p).procs q = w.procs q := rfl

end Projections
end World

-- ============================================================================
-- Steps
-- ============================================================================

/-- What may happen beside the code's own choices. -/
structure Environment where
  /-- the process may die now -/
  mayKill : World → ProcId → Prop
  /-- RQ may deliver a second message for the job -/
  mayRedeliver : World → JobId → Prop
  /-- the queue may refuse a message -/
  mayRefuseEnqueue : Prop
  /-- a database operation may fail -/
  mayFailDatabase : Prop
  /-- a worker waiting for the lock of the job may give up now -/
  mayTimeOut : World → JobId → Prop
  /-- a worker waiting for the lock of the job may meet an unexpected error now, and fail the
      job -/
  mayFailWaiting : World → JobId → Prop
  /-- the failure callback of the message may commit now -/
  mayCallBack : World → MessageId → Prop
  /-- an active scan may return this now -/
  mayScan : World → List JobId → Prop

/-- One committed operation of one process, or a move of RQ. -/
inductive Step (settings : Settings) (env : Environment) : World → World → Prop where
  -- submit_preview_job
  | submit {w : World} {p : ProcId} {j : JobId} (hproc : w.procs p = none)
      (hfresh : w.rows j = none) (hlock : w.locks j = none) :
      Step settings env w ((w.lock j p).setProc p (.submit j .locked))
  | create {w : World} {p : ProcId} {j : JobId} (userId strategyText : String)
      (strategyName : Option String) (now : Timestamp)
      (hproc : w.procs p = some (.submit j .locked)) :
      Step settings env w
        ((w.setRow j (createJob settings j userId strategyText strategyName now)).setProc p
          (.submit j (.created (createJob settings j userId strategyText strategyName now))))
  | enqueue {w : World} {p : ProcId} {j : JobId} {m : MessageId} {job : PreviewJob}
      (hproc : w.procs p = some (.submit j (.created job))) (hfresh : w.messages m = none) :
      Step settings env w
        ((w.setMessage m ⟨j, enqueueRetries settings.maxRetries none, .queued⟩).setProc p
          (.submit j .releasing))
  | enqueueFails {w : World} {p : ProcId} {j : JobId} {job row : PreviewJob}
      (now : Timestamp) (henv : env.mayRefuseEnqueue)
      (hproc : w.procs p = some (.submit j (.created job))) (hrow : w.rows j = some row) :
      Step settings env w
        ((w.setRow j (job.flush
            (failJob job "Unable to queue the strategy preview." now) row)).setProc p
          (.submit j .releasing))
  /-- `create_job`, or `fail_job` after a refused enqueue, raised -/
  | submitFails {w : World} {p : ProcId} {j : JobId} {phase : SubmitPhase}
      (henv : env.mayFailDatabase) (hproc : w.procs p = some (.submit j phase)) :
      Step settings env w (w.setProc p (.submit j .releasing))
  -- process_preview_job
  | deliver {w : World} {p : ProcId} {m : MessageId} {message : Message}
      (hproc : w.procs p = none) (hmessage : w.messages m = some message)
      (hqueued : message.location = .queued) :
      Step settings env w
        ((w.setMessage m { message with location := .started p }).setProc p
          (.worker m message.jobId .waiting))
  | acquire {w : World} {p : ProcId} {m : MessageId} {j : JobId}
      (hproc : w.procs p = some (.worker m j .waiting)) (hlock : w.locks j = none) :
      Step settings env w ((w.lock j p).setProc p (.worker m j .locked))
  | timeOut {w : World} {p q : ProcId} {m : MessageId} {j : JobId}
      (henv : env.mayTimeOut w j) (hproc : w.procs p = some (.worker m j .waiting))
      (hlock : w.locks j = some q) :
      Step settings env w (w.setProc p (.worker m j .returned))
  /-- an exception that is neither transient nor the preview's, such as in building the
      parser -/
  | unexpected {w : World} {p : ProcId} {m : MessageId} {j : JobId} {phase : WorkerPhase}
      {row : PreviewJob} (now : Timestamp) (hproc : w.procs p = some (.worker m j phase))
      (hphase : phase = .locked ∨ phase.Executing) (hrow : w.rows j = some row) :
      Step settings env w
        ((w.setRow j (transitionJobAfterOperationalFailure false operationalFailureMessage now
          row)).setProc p (.worker m j (.returning false)))
  /-- the transition of `unexpected` raised in its turn -/
  | unpersisted {w : World} {p : ProcId} {m : MessageId} {j : JobId} {phase : WorkerPhase}
      (henv : env.mayFailDatabase) (hproc : w.procs p = some (.worker m j phase))
      (hphase : phase = .locked ∨ phase.Executing) :
      Step settings env w (w.setProc p (.worker m j (.returning false)))
  /-- `except Exception` is not guarded by `acquired`: an error in `acquire_preview_job_lock`
      fails the row without the lock -/
  | unexpectedWaiting {w : World} {p : ProcId} {m : MessageId} {j : JobId} {row : PreviewJob}
      (now : Timestamp) (henv : env.mayFailWaiting w j)
      (hproc : w.procs p = some (.worker m j .waiting)) (hrow : w.rows j = some row) :
      Step settings env w
        ((w.setRow j (transitionJobAfterOperationalFailure false operationalFailureMessage now
          row)).setProc p (.worker m j .returned))
  /-- the transition of `unexpectedWaiting` raised in its turn -/
  | unpersistedWaiting {w : World} {p : ProcId} {m : MessageId} {j : JobId}
      (henv : env.mayFailDatabase) (hproc : w.procs p = some (.worker m j .waiting)) :
      Step settings env w (w.setProc p (.worker m j .returned))
  | claim {w : World} {p : ProcId} {m : MessageId} {j : JobId} {message : Message}
      {row claimed : PreviewJob} (now : Timestamp)
      (hproc : w.procs p = some (.worker m j .locked))
      (hmessage : w.messages m = some message) (hrow : w.rows j = some row)
      (hclaim : claimJob (allowRunningRetry settings.maxRetries message.retriesLeft) now row =
        some claimed) :
      Step settings env w ((w.setRow j claimed).setProc p (.worker m j .claimed))
  | refuse {w : World} {p : ProcId} {m : MessageId} {j : JobId} {message : Message}
      (now : Timestamp) (hproc : w.procs p = some (.worker m j .locked))
      (hmessage : w.messages m = some message)
      (hclaim : ∀ row, w.rows j = some row →
        claimJob (allowRunningRetry settings.maxRetries message.retriesLeft) now row = none) :
      Step settings env w (w.setProc p (.worker m j (.returning true)))
  | load {w : World} {p : ProcId} {m : MessageId} {j : JobId} {row : PreviewJob}
      (hproc : w.procs p = some (.worker m j .claimed)) (hrow : w.rows j = some row) :
      Step settings env w (w.setProc p (.worker m j (.executing row progressSteps)))
  | progress {w : World} {p : ProcId} {m : MessageId} {j : JobId} {job row : PreviewJob}
      {stage : JobStage} {percent : Nat} {steps : List (JobStage × Nat)}
      (hproc : w.procs p = some (.worker m j (.executing job ((stage, percent) :: steps))))
      (hrow : w.rows j = some row) :
      Step settings env w
        ((w.setRow j (job.flush (updateProgress job stage percent) row)).setProc p
          (.worker m j (.executing (updateProgress job stage percent) steps)))
  | complete {w : World} {p : ProcId} {m : MessageId} {j : JobId} {job row : PreviewJob}
      (result : Json) (now : Timestamp)
      (hproc : w.procs p = some (.worker m j (.executing job []))) (hrow : w.rows j = some row) :
      Step settings env w
        ((w.setRow j (job.flush (completeJob job result now) row)).setProc p
          (.worker m j (.returning false)))
  | fail {w : World} {p : ProcId} {m : MessageId} {j : JobId} {job row : PreviewJob}
      {steps : List (JobStage × Nat)} (error : String) (now : Timestamp)
      (hproc : w.procs p = some (.worker m j (.executing job steps)))
      (hrow : w.rows j = some row) :
      Step settings env w
        ((w.setRow j (job.flush (failJob job error now) row)).setProc p
          (.worker m j (.returning false)))
  /-- a provider timeout, or a failed commit -/
  | raise {w : World} {p : ProcId} {m : MessageId} {j : JobId} {job : PreviewJob}
      {steps : List (JobStage × Nat)}
      (hproc : w.procs p = some (.worker m j (.executing job steps))) :
      Step settings env w (w.setProc p (.worker m j .raising))
  | raiseLocked {w : World} {p : ProcId} {m : MessageId} {j : JobId} {phase : WorkerPhase}
      (henv : env.mayFailDatabase) (hproc : w.procs p = some (.worker m j phase))
      (hphase : phase = .locked ∨ phase.Executing) :
      Step settings env w (w.setProc p (.worker m j .raising))
  | raiseWaiting {w : World} {p : ProcId} {m : MessageId} {j : JobId}
      (henv : env.mayFailDatabase) (hproc : w.procs p = some (.worker m j .waiting)) :
      Step settings env w (w.setProc p (.worker m j .raised))
  -- the finally blocks
  | release {w : World} {p : ProcId} {proc after : Proc} (hproc : w.procs p = some proc)
      (hafter : proc.afterRelease = some after) :
      Step settings env w ((w.unlock p).setProc p after)
  -- RQ after process_preview_job
  | acknowledge {w : World} {p : ProcId} {m : MessageId} {j : JobId} {message : Message}
      (hproc : w.procs p = some (.worker m j .returned))
      (hmessage : w.messages m = some message) :
      Step settings env w
        ((w.setMessage m { message with location := .finished }).setProc p .gone)
  /-- `handle_preview_job_failure` -/
  | callBack {w : World} {p : ProcId} {m : MessageId} {j : JobId} {message : Message}
      {row : PreviewJob} (now : Timestamp) (henv : env.mayCallBack w m)
      (hproc : w.procs p = some (.worker m j .raised))
      (hmessage : w.messages m = some message) (hrow : w.rows j = some row) :
      Step settings env w
        ((w.setRow j (transitionJobAfterOperationalFailure (willRetry message.retriesLeft)
          operationalFailureMessage now row)).setProc p (.worker m j .calledBack))
  /-- the callback raised: RQ goes on without it -/
  | callBackFails {w : World} {p : ProcId} {m : MessageId} {j : JobId}
      (henv : env.mayFailDatabase) (hproc : w.procs p = some (.worker m j .raised)) :
      Step settings env w (w.setProc p (.worker m j .calledBack))
  | reschedule {w : World} {p : ProcId} {m : MessageId} {j : JobId} {message : Message}
      (hproc : w.procs p = some (.worker m j .calledBack))
      (hmessage : w.messages m = some message) :
      Step settings env w ((w.setMessage m message.afterFailure).setProc p .gone)
  | due {w : World} {m : MessageId} {message : Message}
      (hmessage : w.messages m = some message) (hscheduled : message.location = .scheduled) :
      Step settings env w (w.setMessage m { message with location := .queued })
  -- reconcile_preview_jobs
  | scan {w : World} {p : ProcId} {active : List JobId} (now : Timestamp)
      (hscan : env.mayScan w active) (hproc : w.procs p = none) :
      Step settings env w (w.setProc p (.reconcile now active .scanned))
  | list {w : World} {p : ProcId} {now : Timestamp} {active : List JobId}
      (candidates : List PreviewJob) (hproc : w.procs p = some (.reconcile now active .scanned))
      (hlimit : candidates.length ≤ settings.reconciliationBatchSize)
      (hcandidates : ∀ job ∈ candidates, w.rows job.id = some job ∧ job.status.Nonterminal) :
      Step settings env w (w.setProc p (.reconcile now active (.examining candidates)))
  -- `skip` and `lockCandidate` decide on the row as it was listed.  After the first
  -- `session.rollback()` of the pass the code reads an expired candidate again; what it then
  -- does to the row it decides anew under the lock, after `refresh`.
  | skip {w : World} {p : ProcId} {now : Timestamp} {active : List JobId} {job : PreviewJob}
      {rest : List PreviewJob}
      (hproc : w.procs p = some (.reconcile now active (.examining (job :: rest))))
      (hskip : skipsCandidate settings now active job = true ∨ w.locks job.id ≠ none) :
      Step settings env w (w.setProc p (.reconcile now active (.examining rest)))
  | lockCandidate {w : World} {p : ProcId} {now : Timestamp} {active : List JobId}
      {job : PreviewJob} {rest : List PreviewJob}
      (hproc : w.procs p = some (.reconcile now active (.examining (job :: rest))))
      (hexamine : skipsCandidate settings now active job = false)
      (hlock : w.locks job.id = none) :
      Step settings env w
        ((w.lock job.id p).setProc p (.reconcile now active (.locked job.id rest)))
  | refresh {w : World} {p : ProcId} {now : Timestamp} {active : List JobId} {j : JobId}
      {rest : List PreviewJob} {row : PreviewJob}
      (hproc : w.procs p = some (.reconcile now active (.locked j rest)))
      (hrow : w.rows j = some row) :
      Step settings env w
        (w.setProc p (.reconcile now active
          (if row.status.Nonterminal then .refreshed j row rest else .releasing j rest)))
  | rescan {w : World} {p : ProcId} {now : Timestamp} {active active' : List JobId} {j : JobId}
      {job : PreviewJob} {rest : List PreviewJob} (hscan : env.mayScan w active')
      (hproc : w.procs p = some (.reconcile now active (.refreshed j job rest))) :
      Step settings env w
        (w.setProc p (.reconcile now active' (afterSecondScan active' j job rest)))
  /-- the second scan raised: the lock is released and the pass ends -/
  | rescanFails {w : World} {p : ProcId} {now : Timestamp} {active : List JobId} {j : JobId}
      {job : PreviewJob} {rest : List PreviewJob}
      (hproc : w.procs p = some (.reconcile now active (.refreshed j job rest))) :
      Step settings env w ((w.unlock p).setProc p .gone)
  /-- any other operation of the pass raised -/
  | reconcileFails {w : World} {p : ProcId} {now : Timestamp} {active : List JobId}
      {phase : ReconcilePhase} (henv : env.mayFailDatabase ∨ env.mayRefuseEnqueue)
      (hproc : w.procs p = some (.reconcile now active phase)) :
      Step settings env w ((w.unlock p).setProc p .gone)
  | giveUp {w : World} {p : ProcId} {now : Timestamp} {active : List JobId} {j : JobId}
      {job row : PreviewJob} {rest : List PreviewJob} (completedAt : Timestamp)
      (hproc : w.procs p = some (.reconcile now active (.decided j job rest)))
      (hdecision : decideRecovery settings now job = .fail) (hrow : w.rows j = some row) :
      Step settings env w
        ((w.setRow j (transitionJobAfterOperationalFailure false recoveryFailureMessage
          completedAt row)).setProc p (.reconcile now active (.releasing j rest)))
  | leave {w : World} {p : ProcId} {now : Timestamp} {active : List JobId} {j : JobId}
      {job : PreviewJob} {rest : List PreviewJob}
      (hproc : w.procs p = some (.reconcile now active (.decided j job rest)))
      (hdecision : decideRecovery settings now job = .wait) :
      Step settings env w (w.setProc p (.reconcile now active (.releasing j rest)))
  | requeue {w : World} {p : ProcId} {now : Timestamp} {active : List JobId} {j : JobId}
      {job row : PreviewJob} {rest : List PreviewJob} (completedAt : Timestamp)
      (hproc : w.procs p = some (.reconcile now active (.decided j job rest)))
      (hdecision : decideRecovery settings now job = .requeue) (hrow : w.rows j = some row) :
      Step settings env w
        ((w.setRow j (transitionJobAfterOperationalFailure true operationalFailureMessage
          completedAt row)).setProc p (.reconcile now active (.transitioned j rest)))
  | refreshAgain {w : World} {p : ProcId} {now : Timestamp} {active : List JobId} {j : JobId}
      {rest : List PreviewJob} {row : PreviewJob}
      (hproc : w.procs p = some (.reconcile now active (.transitioned j rest)))
      (hrow : w.rows j = some row) :
      Step settings env w (w.setProc p (.reconcile now active (.enqueueing j row rest)))
  | decideEnqueue {w : World} {p : ProcId} {now : Timestamp} {active : List JobId} {j : JobId}
      {job : PreviewJob} {rest : List PreviewJob}
      (hproc : w.procs p = some (.reconcile now active (.decided j job rest)))
      (hdecision : decideRecovery settings now job = .enqueue) :
      Step settings env w (w.setProc p (.reconcile now active (.enqueueing j job rest)))
  | recover {w : World} {p : ProcId} {now : Timestamp} {active : List JobId} {j : JobId}
      {job : PreviewJob} {rest : List PreviewJob} {m : MessageId}
      (hproc : w.procs p = some (.reconcile now active (.enqueueing j job rest)))
      (hfresh : w.messages m = none) :
      Step settings env w
        ((w.setMessage m ⟨j, enqueueRetries settings.maxRetries
            (some (recoveryRetryCount settings job)), .queued⟩).setProc p
          (.reconcile now (j :: active) (.releasing j rest)))
  -- the environment
  | kill {w : World} {p : ProcId} {proc : Proc} (henv : env.mayKill w p)
      (hproc : w.procs p = some proc) : Step settings env w ((w.unlock p).setProc p .gone)
  /-- the registry cleanup takes over a started message whose worker is gone, and fails it -/
  | abandon {w : World} {p q : ProcId} {m : MessageId} {message : Message}
      (hproc : w.procs p = some .gone) (hfresh : w.procs q = none)
      (hmessage : w.messages m = some message) (hstarted : message.location = .started p) :
      Step settings env w
        ((w.setMessage m { message with location := .started q }).setProc q
          (.worker m message.jobId .raised))
  | redeliver {w : World} {m n : MessageId} {message : Message} (retriesLeft : Option Nat)
      (henv : env.mayRedeliver w message.jobId) (hmessage : w.messages m = some message)
      (hfresh : w.messages n = none) :
      Step settings env w (w.setMessage n ⟨message.jobId, retriesLeft, .queued⟩)

/-- The states that some interleaving reaches. -/
def Reachable (settings : Settings) (env : Environment) (w : World) : Prop :=
  Relation.ReflTransGen (Step settings env) .initial w

end Jobs
end TradingPlatform
