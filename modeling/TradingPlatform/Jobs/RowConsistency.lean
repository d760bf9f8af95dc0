/-
  TradingPlatform.Jobs.RowConsistency

  The columns of a committed preview row fit its status.

  `claim_job` and the guarded transition set every column that its new status
  speaks about, except `preview_result`, which only `complete_job` sets.
  `update_progress`, `complete_job` and `fail_job` write through the object that
  the worker loaded after its claim.  As long as the job has one live message,
  nothing else writes the row between the load and the last write: the object is
  the row, and its write is the whole new row.
-/

import TradingPlatform.Jobs.AttemptBudget
import TradingPlatform.Jobs.TerminalStates

namespace TradingPlatform
namespace Jobs

open Queue Relation

-- ============================================================================
-- Consistent rows
-- ============================================================================

/-- The stages of a running job. -/
def runningStages : List JobStage :=
  [.parsing, .validating, .compiling, .loadingData, .backtesting, .generatingResults]

/-- The columns fit the status. -/
def PreviewJob.Consistent (row : PreviewJob) : Prop :=
  match row.status with
  | .queued =>
      row.stage = .queued ∧ row.progress = 5 ∧ row.startedAt = none ∧ row.completedAt = none ∧
        row.errorMessage = none ∧ row.previewResult = none
  | .running =>
      row.stage ∈ runningStages ∧ 20 ≤ row.progress ∧ row.progress ≤ 95 ∧
        row.startedAt.isSome ∧ row.completedAt = none ∧ row.errorMessage = none ∧
        row.previewResult = none
  | .completed =>
      row.stage = .completed ∧ row.progress = 100 ∧ row.previewResult.isSome ∧
        row.completedAt.isSome ∧ row.errorMessage = none
  | .failed =>
      row.stage = .failed ∧ row.progress = 100 ∧ row.errorMessage.isSome ∧
        row.completedAt.isSome ∧ row.previewResult = none

namespace PreviewJob

variable {row : PreviewJob}

theorem consistent_running (h : row.status = .running) :
    row.Consistent ↔ row.stage ∈ runningStages ∧ 20 ≤ row.progress ∧ row.progress ≤ 95 ∧
      row.startedAt.isSome ∧ row.completedAt = none ∧ row.errorMessage = none ∧
      row.previewResult = none := by
  rw [Consistent, h]

theorem Consistent.previewResult (h : row.Consistent) (hstatus : row.status ≠ .completed) :
    row.previewResult = none := by
  unfold Consistent at h
  split at h
  · exact h.2.2.2.2.2
  · exact h.2.2.2.2.2.2
  · exact absurd ‹_› hstatus
  · exact h.2.2.2.2

theorem Consistent.previewResult_nonterminal (h : row.Consistent)
    (hstatus : row.status.Nonterminal) : row.previewResult = none := by
  refine h.previewResult fun hcompleted => ?_
  rw [hcompleted] at hstatus
  rcases hstatus with hstatus | hstatus <;> cases hstatus

end PreviewJob

-- ============================================================================
-- What each operation makes of a consistent row
-- ============================================================================

theorem createJob_consistent (settings : Settings) (jobId : JobId)
    (userId strategyText : String) (strategyName : Option String) (now : Timestamp) :
    (createJob settings jobId userId strategyText strategyName now).Consistent :=
  ⟨rfl, rfl, rfl, rfl, rfl, rfl⟩

theorem claimJob_consistent {allowRunningRetry : Bool} {now : Timestamp}
    {row claimed : PreviewJob} (h : row.Consistent)
    (hclaim : claimJob allowRunningRetry now row = some claimed) : claimed.Consistent := by
  have hresult := h.previewResult_nonterminal (claimJob_eq_some hclaim).1
  unfold claimJob at hclaim
  split at hclaim
  · cases hclaim
    have hstage : JobStage.parsing ∈ runningStages := by decide
    exact ⟨hstage, Nat.le_refl 20, (by decide : 20 ≤ 95), rfl, rfl, rfl, hresult⟩
  · cases hclaim

theorem transition_consistent {row : PreviewJob} (h : row.Consistent) (willRetry : Bool)
    (error : String) (now : Timestamp) :
    (transitionJobAfterOperationalFailure willRetry error now row).Consistent := by
  unfold transitionJobAfterOperationalFailure
  split
  · rename_i hstatus
    have hresult := h.previewResult_nonterminal hstatus
    cases willRetry with
    | true => exact ⟨rfl, rfl, rfl, rfl, rfl, hresult⟩
    | false => exact ⟨rfl, rfl, rfl, rfl, hresult⟩
  · exact h

theorem flushColumn_loaded {α : Type} [BEq α] [LawfulBEq α] (loaded value : α) :
    flushColumn loaded value loaded = value := by
  rcases flushColumn_eq loaded value loaded with h | ⟨h, hsame⟩
  · exact h
  · exact hsame.trans h

/-- The write of an object that is the stored row makes the row what the object is. -/
theorem flush_loaded {job : PreviewJob} (value : PreviewJob) (hresult : job.previewResult = none) :
    job.flush value job = value := by
  have hcolumn : flushColumn job.previewResult value.previewResult job.previewResult =
      value.previewResult := by
    rw [hresult]
    cases value.previewResult <;> rfl
  simp only [PreviewJob.flush, flushColumn_loaded, hcolumn]

theorem updateProgress_consistent {job : PreviewJob} (h : job.Consistent)
    (hrunning : job.status = .running) {stage : JobStage} {percent : Nat}
    (hstep : (stage, percent) ∈ progressSteps) :
    (updateProgress job stage percent).Consistent := by
  have hbounds : ∀ step ∈ progressSteps,
      step.1 ∈ runningStages ∧ 20 ≤ step.2 ∧ step.2 ≤ 95 := by decide
  obtain ⟨hstage, hlow, hhigh⟩ := hbounds _ hstep
  obtain ⟨-, -, -, hrest⟩ := (PreviewJob.consistent_running hrunning).mp h
  have hstatus : (updateProgress job stage percent).status = .running := hrunning
  exact (PreviewJob.consistent_running hstatus).mpr ⟨hstage, hlow, hhigh, hrest⟩

theorem completeJob_consistent {job : PreviewJob} (h : job.Consistent)
    (hrunning : job.status = .running) (result : Json) (now : Timestamp) :
    (completeJob job result now).Consistent := by
  obtain ⟨-, -, -, -, -, herror, -⟩ := (PreviewJob.consistent_running hrunning).mp h
  exact ⟨rfl, rfl, rfl, rfl, herror⟩

theorem failJob_consistent {job : PreviewJob} (h : job.Consistent)
    (hnonterminal : job.status.Nonterminal) (error : String) (now : Timestamp) :
    (failJob job error now).Consistent :=
  ⟨rfl, rfl, rfl, rfl, h.previewResult_nonterminal hnonterminal⟩

/-- A write of the progress, the result or the error of a running job. -/
theorem ObjectWrite.consistent {job value : PreviewJob} {steps : List (JobStage × Nat)}
    (hwrite : ObjectWrite job steps value) (h : job.Consistent)
    (hrunning : job.status = .running) (hsteps : steps <:+ progressSteps) :
    value.Consistent := by
  cases hwrite with
  | progress stage percent rest =>
      exact updateProgress_consistent h hrunning (hsteps.subset List.mem_cons_self)
  | complete result now => exact completeJob_consistent h hrunning result now
  | fail steps error now => exact failJob_consistent h (Or.inr hrunning) error now

-- ============================================================================
-- Over all runs with one live message
-- ============================================================================

namespace World

/-- Every committed row is consistent. -/
def RowsConsistent (w : World) : Prop :=
  ∀ j row, w.rows j = some row → row.Consistent

/-- The row of a job under execution is running, and is the object that the worker has loaded. -/
structure ExecutionsCurrent (w : World) : Prop where
  claimed : ∀ p m j, w.procs p = some (.worker m j .claimed) →
    ∃ row, w.rows j = some row ∧ row.status = .running
  executing : ∀ p m j job steps, w.procs p = some (.worker m j (.executing job steps)) →
    w.rows j = some job ∧ job.status = .running ∧ steps <:+ progressSteps

end World

/-- A step after which no job has two live messages. -/
def OneMessageStep (settings : Settings) (w w' : World) : Prop :=
  Step settings anyInterleaving w w' ∧ w'.OneLiveMessage

section Steps

variable {settings : Settings} {env : Environment} {w w' : World}

/-- With one live message, nothing writes the row of an executing worker beside it. -/
theorem row_of_onlyWorker (hstep : Step settings env w w') (hw : w.WellFormed)
    (hone : w.OneLiveMessage) {p : ProcId} {m : MessageId} {j : JobId} {phase : WorkerPhase}
    {row : PreviewJob} (hproc : w.procs p = some (.worker m j phase)) (hphase : phase.Executing)
    (hafter : w'.procs p = some (.worker m j phase)) (hrow : w'.rows j = some row) :
    w.rows j = some row := by
  -- another worker would hold a second live message
  have honly : ∀ q n other, w.procs q = some (.worker n j other) → other = phase := by
    intro q n other hq
    obtain ⟨mine, hmine, hjob, hstarted⟩ := hw.workersStarted p m j phase hproc
    obtain ⟨its, hits, hitsJob, hitsStarted⟩ := hw.workersStarted q n j other hq
    have hsame : m = n := hone m n mine its hmine hits (by simp [Message.Live, hstarted])
      (by simp [Message.Live, hitsStarted]) (hjob.trans hitsJob.symm)
    subst hsame
    obtain rfl := Option.some.inj (hmine.symm.trans hits)
    rw [hstarted] at hitsStarted
    cases hitsStarted
    rw [hproc] at hq
    cases hq
    rfl
  rcases row_of_worker hstep hw hproc hphase hafter hrow with
    hsame | ⟨q, n, -, -, -, hq, -, -⟩ | ⟨q, n, -, -, -, -, hq, -, -, -⟩
  · exact hsame
  · rw [← honly q n _ hq] at hphase
    exact False.elim hphase
  · rw [← honly q n _ hq] at hphase
    exact False.elim hphase

/-- The row of an executing worker stays as it is until the worker writes it. -/
theorem row_kept (hstep : Step settings env w w') (hw : w.WellFormed) (hone : w.OneLiveMessage)
    {p : ProcId} {m : MessageId} {j : JobId} {phase : WorkerPhase} {row : PreviewJob}
    (hproc : w.procs p = some (.worker m j phase)) (hphase : phase.Executing)
    (hafter : w'.procs p = some (.worker m j phase)) (hrow : w.rows j = some row) :
    w'.rows j = some row := by
  obtain ⟨after, hwritten⟩ := row_stays hstep hrow
  rw [hwritten, ← row_of_onlyWorker hstep hw hone hproc hphase hafter hwritten, hrow]

theorem executionsCurrent_step (hstep : Step settings env w w') (hw : w.WellFormed)
    (hone : w.OneLiveMessage) (hrows : w.RowsConsistent) (h : w.ExecutionsCurrent) :
    w'.ExecutionsCurrent := by
  constructor
  · intro p m j hproc
    rcases claimed_before hstep hproc with
      hbefore | ⟨-, allow, now, row, claimed, hrow, hclaim, hafter⟩
    · obtain ⟨row, hrow, hrunning⟩ := h.claimed p m j hbefore
      exact ⟨row, row_kept hstep hw hone hbefore trivial hproc hrow, hrunning⟩
    · exact ⟨claimed, hafter, (claimJob_eq_some hclaim).2.1⟩
  · intro p m j job steps hproc
    rcases executing_before hstep hproc with
      hbefore | ⟨hbefore, hrow, hafter, rfl⟩ |
      ⟨before, stage, percent, row, hbefore, rfl, hrow, hafter⟩
    · obtain ⟨hrow, hrunning, hsteps⟩ := h.executing p m j job steps hbefore
      exact ⟨row_kept hstep hw hone hbefore trivial hproc hrow, hrunning, hsteps⟩
    · obtain ⟨row, hclaimed, hrunning⟩ := h.claimed p m j hbefore
      obtain rfl := Option.some.inj (hrow.symm.trans hclaimed)
      exact ⟨hafter, hrunning, List.suffix_rfl⟩
    · obtain ⟨hstored, hrunning, hsteps⟩ := h.executing p m j before _ hbefore
      obtain rfl := Option.some.inj (hrow.symm.trans hstored)
      have hresult := (hrows j row hrow).previewResult_nonterminal (Or.inr hrunning)
      rw [flush_loaded _ hresult] at hafter
      exact ⟨hafter, hrunning, (List.suffix_cons ..).trans hsteps⟩

theorem rowsConsistent_step (hstep : Step settings env w w') (hw : w.WellFormed)
    (hexecutions : w.ExecutionsCurrent) (h : w.RowsConsistent) : w'.RowsConsistent := by
  intro j row hrow
  rcases row_before hstep hrow with hsame | hwrite
  · exact h j row hsame
  · cases hwrite with
    | inserted p userId strategyText strategyName now hproc _ => exact createJob_consistent ..
    | unqueued p job stored now hproc _ hstored =>
        obtain ⟨hcreated, hqueued, -⟩ := hw.submissionsFresh.2 p j job hproc
        obtain rfl := Option.some.inj (hstored.symm.trans hcreated)
        have hjob := h j stored hstored
        rw [flush_loaded _ (hjob.previewResult_nonterminal (Or.inl hqueued))]
        exact failJob_consistent hjob (Or.inl hqueued) ..
    | claimed p m _ now stored _ hproc _ hstored hclaim =>
        exact claimJob_consistent (h j stored hstored) hclaim
    | written p m job value stored steps hproc _ hstored hwrite =>
        obtain ⟨hcurrent, hrunning, hsteps⟩ := hexecutions.executing p m j job steps hproc
        obtain rfl := Option.some.inj (hstored.symm.trans hcurrent)
        have hjob := h j stored hstored
        rw [flush_loaded _ (hjob.previewResult_nonterminal (Or.inr hrunning))]
        exact hwrite.consistent hjob hrunning hsteps
    | gaveUp p m phase now stored hproc hphase _ hstored =>
        exact transition_consistent (h j stored hstored) ..
    | failedWaiting p m now stored henv hproc hstored =>
        exact transition_consistent (h j stored hstored) ..
    | calledBack p m message now stored henv hproc hmessage hstored =>
        exact transition_consistent (h j stored hstored) ..
    | reconciled p now active job stored rest retry error completedAt hproc hstored =>
        exact transition_consistent (h j stored hstored) ..

namespace World

/-- The invariant of the runs with one live message. -/
structure Current (w : World) : Prop where
  wellFormed : w.WellFormed
  oneLiveMessage : w.OneLiveMessage
  executionsCurrent : w.ExecutionsCurrent
  rowsConsistent : w.RowsConsistent

end World

theorem current_initial : World.initial.Current where
  wellFormed := wellFormed_initial
  oneLiveMessage := (show World.initial.Budgeted defaultSettings from
    budgeted_initial).oneLiveMessage
  executionsCurrent := by
    constructor <;> simp [World.initial]
  rowsConsistent := by
    intro j row h
    cases h

theorem current_step (hstep : OneMessageStep settings w w') (h : w.Current) : w'.Current where
  wellFormed := wellFormed_step hstep.1 h.wellFormed
  oneLiveMessage := hstep.2
  executionsCurrent := executionsCurrent_step hstep.1 h.wellFormed h.oneLiveMessage
    h.rowsConsistent h.executionsCurrent
  rowsConsistent := rowsConsistent_step hstep.1 h.wellFormed h.executionsCurrent h.rowsConsistent

end Steps

/-- In every run in which a job never has two live messages, every committed row is consistent,
    whatever crashes, errors, time-outs and redeliveries occur. -/
theorem rowsConsistent {settings : Settings} {w : World}
    (hrun : ReflTransGen (OneMessageStep settings) .initial w) {j : JobId} {row : PreviewJob}
    (hrow : w.rows j = some row) : row.Consistent :=
  (Transition.invariant current_initial (fun _ _ => current_step) hrun).rowsConsistent j row hrow

theorem oneLiveMessage_single {w : World} (h : ∀ m, w.messages (m + 1) = none) :
    w.OneLiveMessage := by
  intro m n message other hmessage hother _ _ _
  cases m with
  | zero =>
      cases n with
      | zero => rfl
      | succ n =>
          rw [h n] at hother
          cases hother
  | succ m =>
      rw [h m] at hmessage
      cases hmessage

/-- The first worker dies after its claim and its message is retried; the second completes the
    job with the document. -/
theorem retriedRun (document : Json) :
    ∃ w row, ReflTransGen (OneMessageStep defaultSettings) .initial w ∧ w.rows 0 = some row ∧
      row.userId = "user" ∧ row.status = .completed ∧ row.previewResult = some document ∧
      row.attemptCount = 2 := by
  have one {w w' : World} (hstep : Step defaultSettings anyInterleaving w w')
      (h : ∀ m, w'.messages (m + 1) = none) : OneMessageStep defaultSettings w w' :=
    ⟨hstep, oneLiveMessage_single h⟩
  have run : ReflTransGen (OneMessageStep defaultSettings) .initial _ :=
    .single (one (.submit (p := 0) (j := 0) rfl rfl rfl) fun _ => rfl)
  have run := run.tail (one (.create (p := 0) "user" "buy the dip" none 0 rfl) fun _ => rfl)
  have run := run.tail (one (.enqueue (p := 0) (m := 0) rfl rfl) fun _ => rfl)
  have run := run.tail (one (.release (p := 0) rfl rfl) fun _ => rfl)
  have run := run.tail (one (.deliver (p := 1) (m := 0) rfl rfl rfl) fun _ => rfl)
  have run := run.tail (one (.acquire (p := 1) rfl rfl) fun _ => rfl)
  have run := run.tail (one (.claim (p := 1) 1 rfl rfl rfl rfl) fun _ => rfl)
  have run := run.tail (one (.kill (p := 1) trivial rfl) fun _ => rfl)
  have run := run.tail (one (.abandon (p := 1) (q := 2) (m := 0) rfl rfl rfl rfl) fun _ => rfl)
  have run := run.tail (one (.callBack (p := 2) 2 trivial rfl rfl rfl) fun _ => rfl)
  have run := run.tail (one (.reschedule (p := 2) rfl rfl) fun _ => rfl)
  have run := run.tail (one (.due (m := 0) rfl rfl) fun _ => rfl)
  -- the retry
  have run := run.tail (one (.deliver (p := 3) (m := 0) rfl rfl rfl) fun _ => rfl)
  have run := run.tail (one (.acquire (p := 3) rfl rfl) fun _ => rfl)
  have run := run.tail (one (.claim (p := 3) 3 rfl rfl rfl rfl) fun _ => rfl)
  have run := run.tail (one (.load (p := 3) rfl rfl) fun _ => rfl)
  have run := run.tail (one (.progress (p := 3) rfl rfl) fun _ => rfl)
  have run := run.tail (one (.progress (p := 3) rfl rfl) fun _ => rfl)
  have run := run.tail (one (.progress (p := 3) rfl rfl) fun _ => rfl)
  have run := run.tail (one (.progress (p := 3) rfl rfl) fun _ => rfl)
  have run := run.tail (one (.progress (p := 3) rfl rfl) fun _ => rfl)
  have run := run.tail (one (.complete (p := 3) document 4 rfl rfl) fun _ => rfl)
  exact ⟨_, _, run, rfl, rfl, rfl, rfl, rfl⟩

theorem rowsConsistent_retried :
    ∃ w row, ReflTransGen (OneMessageStep defaultSettings) .initial w ∧ w.rows 0 = some row ∧
      row.status = .completed ∧ row.attemptCount = 2 ∧ row.Consistent := by
  obtain ⟨w, row, hrun, hrow, -, hstatus, -, hattempts⟩ := retriedRun (.object [])
  exact ⟨w, row, hrun, hrow, hstatus, hattempts, rowsConsistent hrun hrow⟩

end Jobs
end TradingPlatform
