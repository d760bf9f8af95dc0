/-
  TradingPlatform.Jobs.StepCases

  What one step can do to a row, to a message and to a process, said once.

  An invariant of the job system follows from these inversions: `row_before`
  says where a committed row comes from, `message_before` where a message comes
  from, and the `…_before` lemmas on phases how a process got where it is.
-/

import TradingPlatform.Jobs.System

namespace TradingPlatform
namespace Jobs

open Queue

/-- The four ways a `finally` block releases a lock. -/
theorem Proc.afterRelease_eq_some {proc after : Proc} (h : proc.afterRelease = some after) :
    (∃ j, proc = .submit j .releasing ∧ after = .gone) ∨
    (∃ m j refused, proc = .worker m j (.returning refused) ∧
      after = .worker m j .returned) ∨
    (∃ m j, proc = .worker m j .raising ∧ after = .worker m j .raised) ∨
    (∃ now active j rest, proc = .reconcile now active (.releasing j rest) ∧
      after = .reconcile now active (.examining rest)) := by
  cases proc with
  | submit j phase => cases phase <;> simp_all [Proc.afterRelease]
  | worker m j phase => cases phase <;> simp_all [Proc.afterRelease]
  | reconcile now active phase => cases phase <;> simp_all [Proc.afterRelease]
  | gone => cases h

-- ============================================================================
-- Rows
-- ============================================================================

/-- The write of a loaded object by the process that executes the job. -/
inductive ObjectWrite (job : PreviewJob) : List (JobStage × Nat) → PreviewJob → Prop where
  | progress (stage : JobStage) (percent : Nat) (steps : List (JobStage × Nat)) :
      ObjectWrite job ((stage, percent) :: steps) (updateProgress job stage percent)
  | complete (result : Json) (now : Timestamp) :
      ObjectWrite job [] (completeJob job result now)
  | fail (steps : List (JobStage × Nat)) (error : String) (now : Timestamp) :
      ObjectWrite job steps (failJob job error now)

/-- An object's write leaves a terminal row terminal. -/
theorem ObjectWrite.terminal {job value row : PreviewJob} {steps : List (JobStage × Nat)}
    (h : ObjectWrite job steps value) (hterminal : ¬ row.status.Nonterminal) :
    ¬ (job.flush value row).status.Nonterminal := by
  cases h with
  | progress stage percent steps =>
      rw [flush_updateProgress_status]
      exact hterminal
  | complete result now => exact flush_completeJob_terminal job row result now fun _ => hterminal
  | fail steps error now => exact flush_failJob_terminal job row error now fun _ => hterminal

theorem ObjectWrite.attemptCount {job value : PreviewJob} {steps : List (JobStage × Nat)}
    (h : ObjectWrite job steps value) (row : PreviewJob) :
    (job.flush value row).attemptCount = row.attemptCount := by
  cases h with
  | progress stage percent steps => exact flush_updateProgress_attemptCount ..
  | complete result now => exact flush_completeJob_attemptCount ..
  | fail steps error now => exact flush_failJob_attemptCount ..

/-- An object's write does not make a row running. -/
theorem ObjectWrite.running {job value row : PreviewJob} {steps : List (JobStage × Nat)}
    (h : ObjectWrite job steps value) (hrunning : (job.flush value row).status = .running) :
    row.status = .running := by
  cases h with
  | progress stage percent steps => rwa [flush_updateProgress_status] at hrunning
  | complete result now =>
      rcases flush_completeJob_status job row result now with hcompleted | ⟨-, hsame⟩
      · rw [hcompleted] at hrunning
        cases hrunning
      · rwa [hsame] at hrunning
  | fail steps error now =>
      rcases flush_failJob_status job row error now with hfailed | ⟨-, hsame⟩
      · rw [hfailed] at hrunning
        cases hrunning
      · rwa [hsame] at hrunning

/-- How a step writes the row of `j`, and who does. -/
inductive RowWrite (settings : Settings) (env : Environment) (w w' : World) (j : JobId) :
    PreviewJob → Prop where
  | inserted (p : ProcId) (userId strategyText : String) (strategyName : Option String)
      (now : Timestamp) (hproc : w.procs p = some (.submit j .locked))
      (hafter : w'.procs p = some (.submit j (.created
        (createJob settings j userId strategyText strategyName now)))) :
      RowWrite settings env w w' j (createJob settings j userId strategyText strategyName now)
  | unqueued (p : ProcId) (job row : PreviewJob) (now : Timestamp)
      (hproc : w.procs p = some (.submit j (.created job)))
      (hafter : w'.procs p = some (.submit j .releasing)) (hrow : w.rows j = some row) :
      RowWrite settings env w w' j
        (job.flush (failJob job "Unable to queue the strategy preview." now) row)
  | claimed (p : ProcId) (m : MessageId) (allowRunningRetry : Bool) (now : Timestamp)
      (row claimed : PreviewJob) (hproc : w.procs p = some (.worker m j .locked))
      (hafter : w'.procs p = some (.worker m j .claimed)) (hrow : w.rows j = some row)
      (hclaim : claimJob allowRunningRetry now row = some claimed) :
      RowWrite settings env w w' j claimed
  | written (p : ProcId) (m : MessageId) (job value row : PreviewJob)
      (steps : List (JobStage × Nat))
      (hproc : w.procs p = some (.worker m j (.executing job steps)))
      (hafter : w'.procs p ≠ w.procs p) (hrow : w.rows j = some row)
      (hwrite : ObjectWrite job steps value) :
      RowWrite settings env w w' j (job.flush value row)
  | gaveUp (p : ProcId) (m : MessageId) (phase : WorkerPhase) (now : Timestamp) (row : PreviewJob)
      (hproc : w.procs p = some (.worker m j phase))
      (hphase : phase = .locked ∨ phase.Executing)
      (hafter : w'.procs p = some (.worker m j (.returning false))) (hrow : w.rows j = some row) :
      RowWrite settings env w w' j
        (transitionJobAfterOperationalFailure false operationalFailureMessage now row)
  | failedWaiting (p : ProcId) (m : MessageId) (now : Timestamp) (row : PreviewJob)
      (henv : env.mayFailWaiting w j) (hproc : w.procs p = some (.worker m j .waiting))
      (hrow : w.rows j = some row) :
      RowWrite settings env w w' j
        (transitionJobAfterOperationalFailure false operationalFailureMessage now row)
  | calledBack (p : ProcId) (m : MessageId) (message : Message) (now : Timestamp)
      (row : PreviewJob) (henv : env.mayCallBack w m)
      (hproc : w.procs p = some (.worker m j .raised))
      (hmessage : w.messages m = some message) (hrow : w.rows j = some row) :
      RowWrite settings env w w' j
        (transitionJobAfterOperationalFailure (willRetry message.retriesLeft)
          operationalFailureMessage now row)
  | reconciled (p : ProcId) (now : Timestamp) (active : List JobId) (job row : PreviewJob)
      (rest : List PreviewJob) (willRetry : Bool) (error : String) (completedAt : Timestamp)
      (hproc : w.procs p = some (.reconcile now active (.decided j job rest)))
      (hrow : w.rows j = some row) :
      RowWrite settings env w w' j
        (transitionJobAfterOperationalFailure willRetry error completedAt row)

section Steps

variable {settings : Settings} {env : Environment} {w w' : World}

theorem World.rows_written {j k : JobId} {p : ProcId} {proc : Proc} {value row : PreviewJob}
    (hrow : ((w.setRow k value).setProc p proc).rows j = some row) :
    w.rows j = some row ∨ (k = j ∧ value = row) := by
  rw [setProc_rows, setRow_rows] at hrow
  split at hrow
  · rename_i hj
    exact Or.inr ⟨hj.symm, Option.some.inj hrow⟩
  · exact Or.inl hrow

/-- A row is as before the step, or what one operation of the store made of it. -/
theorem row_before (hstep : Step settings env w w') {j : JobId} {row : PreviewJob}
    (hrow : w'.rows j = some row) : w.rows j = some row ∨ RowWrite settings env w w' j row := by
  cases hstep with
  | create userId strategyText strategyName now hproc =>
      refine (World.rows_written hrow).imp_right ?_
      rintro ⟨rfl, rfl⟩
      exact .inserted _ userId strategyText strategyName now hproc (by simp)
  | enqueueFails now henv hproc hstored =>
      refine (World.rows_written hrow).imp_right ?_
      rintro ⟨rfl, rfl⟩
      exact .unqueued _ _ _ now hproc (by simp) hstored
  | claim now hproc hmessage hstored hclaim =>
      refine (World.rows_written hrow).imp_right ?_
      rintro ⟨rfl, rfl⟩
      exact .claimed _ _ _ now _ _ hproc (by simp) hstored hclaim
  | progress hproc hstored =>
      refine (World.rows_written hrow).imp_right ?_
      rintro ⟨rfl, rfl⟩
      exact .written _ _ _ _ _ _ hproc (by simp [hproc]) hstored (.progress ..)
  | complete result now hproc hstored =>
      refine (World.rows_written hrow).imp_right ?_
      rintro ⟨rfl, rfl⟩
      exact .written _ _ _ _ _ _ hproc (by simp [hproc]) hstored (.complete result now)
  | fail error now hproc hstored =>
      refine (World.rows_written hrow).imp_right ?_
      rintro ⟨rfl, rfl⟩
      exact .written _ _ _ _ _ _ hproc (by simp [hproc]) hstored (.fail _ error now)
  | unexpected now hproc hphase hstored =>
      refine (World.rows_written hrow).imp_right ?_
      rintro ⟨rfl, rfl⟩
      exact .gaveUp _ _ _ now _ hproc hphase (by simp) hstored
  | unexpectedWaiting now henv hproc hstored =>
      refine (World.rows_written hrow).imp_right ?_
      rintro ⟨rfl, rfl⟩
      exact .failedWaiting _ _ now _ henv hproc hstored
  | callBack now henv hproc hmessage hstored =>
      refine (World.rows_written hrow).imp_right ?_
      rintro ⟨rfl, rfl⟩
      exact .calledBack _ _ _ now _ henv hproc hmessage hstored
  | giveUp completedAt hproc hdecision hstored =>
      refine (World.rows_written hrow).imp_right ?_
      rintro ⟨rfl, rfl⟩
      exact .reconciled _ _ _ _ _ _ _ _ completedAt hproc hstored
  | requeue completedAt hproc hdecision hstored =>
      refine (World.rows_written hrow).imp_right ?_
      rintro ⟨rfl, rfl⟩
      exact .reconciled _ _ _ _ _ _ _ _ completedAt hproc hstored
  | _ => exact Or.inl hrow

/-- A row appears by `create_job`. -/
theorem row_created (hstep : Step settings env w w') {j : JobId} {row : PreviewJob}
    (hnone : w.rows j = none) (hrow : w'.rows j = some row) :
    ∃ p, w.procs p = some (.submit j .locked) ∧
      w'.procs p = some (.submit j (.created row)) := by
  rcases row_before hstep hrow with hsame | hwrite
  · rw [hnone] at hsame
    cases hsame
  · cases hwrite with
    | inserted p userId strategyText strategyName now hproc hafter => exact ⟨p, hproc, hafter⟩
    | _ => simp_all

/-- Rows are never deleted. -/
theorem row_stays (hstep : Step settings env w w') {j : JobId} {row : PreviewJob}
    (hrow : w.rows j = some row) : ∃ row', w'.rows j = some row' := by
  cases hstep with
  | _ => grind

-- ============================================================================
-- Messages
-- ============================================================================

/-- A message is about the job of an earlier one, or has just been enqueued by a submission or
    a recovery. -/
theorem message_before (hstep : Step settings env w w') {m : MessageId} {message : Message}
    (hmessage : w'.messages m = some message) :
    (∃ n before, w.messages n = some before ∧ before.jobId = message.jobId) ∨
    (∃ p job, w.procs p = some (.submit message.jobId (.created job)) ∧
      w'.procs p = some (.submit message.jobId .releasing)) ∨
    (∃ p now active job rest,
      w.procs p = some (.reconcile now active (.enqueueing message.jobId job rest))) := by
  cases hstep with
  | _ => grind

-- ============================================================================
-- Phases
-- ============================================================================

theorem submitLocked_before (hstep : Step settings env w w') {p : ProcId} {j : JobId}
    (hproc : w'.procs p = some (.submit j .locked)) :
    w.procs p = some (.submit j .locked) ∨
    (w.procs p = none ∧ w.rows j = none ∧ w'.rows j = none) := by
  cases hstep with
  | release hold hafter =>
      rcases Proc.afterRelease_eq_some hafter with
        ⟨j, rfl, rfl⟩ | ⟨m, j, refused, rfl, rfl⟩ | ⟨m, j, rfl, rfl⟩ |
        ⟨now, active, j, rest, rfl, rfl⟩ <;> grind
  | _ => grind

theorem submitCreated_before (hstep : Step settings env w w') {p : ProcId} {j : JobId}
    {job : PreviewJob} (hproc : w'.procs p = some (.submit j (.created job))) :
    w.procs p = some (.submit j (.created job)) ∨
    (w.procs p = some (.submit j .locked) ∧ w'.rows j = some job ∧ w'.messages = w.messages ∧
      ∃ userId strategyText strategyName now,
        job = createJob settings j userId strategyText strategyName now) := by
  cases hstep with
  | release hold hafter =>
      rcases Proc.afterRelease_eq_some hafter with
        ⟨j, rfl, rfl⟩ | ⟨m, j, refused, rfl, rfl⟩ | ⟨m, j, rfl, rfl⟩ |
        ⟨now, active, j, rest, rfl, rfl⟩ <;> grind
  | create userId strategyText strategyName now hbefore =>
      rename_i q k
      by_cases hp : p = q
      · subst hp
        obtain ⟨rfl, rfl⟩ : k = j ∧ createJob settings k userId strategyText strategyName now =
            job := by simpa using hproc
        exact Or.inr ⟨hbefore, by simp, rfl, userId, strategyText, strategyName, now, rfl⟩
      · exact Or.inl (by simpa [hp] using hproc)
  | _ => grind

theorem claimed_before (hstep : Step settings env w w') {p : ProcId} {m : MessageId} {j : JobId}
    (hproc : w'.procs p = some (.worker m j .claimed)) :
    w.procs p = some (.worker m j .claimed) ∨
    (w.procs p = some (.worker m j .locked) ∧ ∃ allowRunningRetry now row claimed,
      w.rows j = some row ∧ claimJob allowRunningRetry now row = some claimed ∧
      w'.rows j = some claimed) := by
  cases hstep with
  | release hold hafter =>
      rcases Proc.afterRelease_eq_some hafter with
        ⟨j, rfl, rfl⟩ | ⟨m, j, refused, rfl, rfl⟩ | ⟨m, j, rfl, rfl⟩ |
        ⟨now, active, j, rest, rfl, rfl⟩ <;> grind
  | claim now hbefore hmessage hrow hclaim =>
      rename_i q k n message row claimed
      by_cases hp : p = q
      · subst hp
        obtain ⟨rfl, rfl⟩ : k = m ∧ n = j := by simpa using hproc
        exact Or.inr ⟨hbefore, _, now, row, claimed, hrow, hclaim, by simp⟩
      · exact Or.inl (by simpa [hp] using hproc)
  | _ => grind

/-- The loaded object is the stored row at the load, and then what the progress updates made
    of it. -/
theorem executing_before (hstep : Step settings env w w') {p : ProcId} {m : MessageId}
    {j : JobId} {job : PreviewJob} {steps : List (JobStage × Nat)}
    (hproc : w'.procs p = some (.worker m j (.executing job steps))) :
    w.procs p = some (.worker m j (.executing job steps)) ∨
    (w.procs p = some (.worker m j .claimed) ∧ w.rows j = some job ∧ w'.rows j = some job ∧
      steps = progressSteps) ∨
    (∃ before stage percent row,
      w.procs p = some (.worker m j (.executing before ((stage, percent) :: steps))) ∧
      job = updateProgress before stage percent ∧ w.rows j = some row ∧
      w'.rows j = some (before.flush job row)) := by
  cases hstep with
  | release hold hafter =>
      rcases Proc.afterRelease_eq_some hafter with
        ⟨j, rfl, rfl⟩ | ⟨m, j, refused, rfl, rfl⟩ | ⟨m, j, rfl, rfl⟩ |
        ⟨now, active, j, rest, rfl, rfl⟩ <;> grind
  | progress hbefore hrow =>
      rename_i q k n before row stage percent rest
      by_cases hp : p = q
      · subst hp
        obtain ⟨rfl, rfl, rfl, rfl⟩ : k = m ∧ n = j ∧ updateProgress before stage percent = job ∧
            rest = steps := by simpa using hproc
        exact Or.inr (Or.inr ⟨before, stage, percent, row, hbefore, rfl, hrow, by simp⟩)
      · exact Or.inl (by simpa [hp] using hproc)
  | _ => grind

/-- A worker returns with its claim made after its last write, or after a failure it could not
    write down. -/
theorem returning_before (hstep : Step settings env w w') {p : ProcId} {m : MessageId}
    {j : JobId} (hproc : w'.procs p = some (.worker m j (.returning false))) :
    w.procs p = some (.worker m j (.returning false)) ∨
    (∃ phase, w.procs p = some (.worker m j phase) ∧ (phase = .locked ∨ phase.Executing) ∧
      (env.mayFailDatabase ∨ ∃ now row, w.rows j = some row ∧ w'.rows j =
        some (transitionJobAfterOperationalFailure false operationalFailureMessage now row))) ∨
    (∃ job row result now, w.procs p = some (.worker m j (.executing job [])) ∧
      w.rows j = some row ∧ w'.rows j = some (job.flush (completeJob job result now) row)) ∨
    (∃ job row steps error now, w.procs p = some (.worker m j (.executing job steps)) ∧
      w.rows j = some row ∧ w'.rows j = some (job.flush (failJob job error now) row)) := by
  cases hstep with
  | release hold hafter =>
      rcases Proc.afterRelease_eq_some hafter with
        ⟨j, rfl, rfl⟩ | ⟨m, j, refused, rfl, rfl⟩ | ⟨m, j, rfl, rfl⟩ |
        ⟨now, active, j, rest, rfl, rfl⟩ <;> grind
  | unexpected now hbefore hphase hrow =>
      rename_i q k n phase row
      by_cases hp : p = q
      · subst hp
        obtain ⟨rfl, rfl⟩ : k = m ∧ n = j := by simpa using hproc
        exact Or.inr (Or.inl ⟨phase, hbefore, hphase, Or.inr ⟨now, row, hrow, by simp⟩⟩)
      · exact Or.inl (by simpa [hp] using hproc)
  | complete result now hbefore hrow =>
      rename_i q k n job row
      by_cases hp : p = q
      · subst hp
        obtain ⟨rfl, rfl⟩ : k = m ∧ n = j := by simpa using hproc
        exact Or.inr (Or.inr (Or.inl ⟨job, row, result, now, hbefore, hrow, by simp⟩))
      · exact Or.inl (by simpa [hp] using hproc)
  | fail error now hbefore hrow =>
      rename_i q k n job row steps
      by_cases hp : p = q
      · subst hp
        obtain ⟨rfl, rfl⟩ : k = m ∧ n = j := by simpa using hproc
        exact Or.inr (Or.inr (Or.inr ⟨job, row, steps, error, now, hbefore, hrow, by simp⟩))
      · exact Or.inl (by simpa [hp] using hproc)
  | _ => grind

theorem calledBack_before (hstep : Step settings env w w') {p : ProcId} {m : MessageId}
    {j : JobId} (hproc : w'.procs p = some (.worker m j .calledBack)) :
    w.procs p = some (.worker m j .calledBack) ∨
    (w.procs p = some (.worker m j .raised) ∧
      (env.mayFailDatabase ∨ ∃ message now row, w.messages m = some message ∧
        w.rows j = some row ∧ w'.rows j = some (transitionJobAfterOperationalFailure
          (willRetry message.retriesLeft) operationalFailureMessage now row))) := by
  cases hstep with
  | release hold hafter =>
      rcases Proc.afterRelease_eq_some hafter with
        ⟨j, rfl, rfl⟩ | ⟨m, j, refused, rfl, rfl⟩ | ⟨m, j, rfl, rfl⟩ |
        ⟨now, active, j, rest, rfl, rfl⟩ <;> grind
  | callBack now henv hbefore hmessage hrow =>
      rename_i q k n message row
      by_cases hp : p = q
      · subst hp
        obtain ⟨rfl, rfl⟩ : k = m ∧ n = j := by simpa using hproc
        exact Or.inr ⟨hbefore, Or.inr ⟨message, now, row, hmessage, hrow, by simp⟩⟩
      · exact Or.inl (by simpa [hp] using hproc)
  | _ => grind

section Reconcile

variable {p : ProcId} {now : Timestamp} {active : List JobId} {j : JobId} {job : PreviewJob}
  {rest : List PreviewJob}

theorem refreshed_before (hstep : Step settings env w w')
    (hproc : w'.procs p = some (.reconcile now active (.refreshed j job rest))) :
    w.procs p = some (.reconcile now active (.refreshed j job rest)) ∨
    (w.rows j = some job ∧ w'.rows j = some job) := by
  cases hstep with
  | release hold hafter =>
      rcases Proc.afterRelease_eq_some hafter with
        ⟨j, rfl, rfl⟩ | ⟨m, j, refused, rfl, rfl⟩ | ⟨m, j, rfl, rfl⟩ |
        ⟨now, active, j, rest, rfl, rfl⟩ <;> grind
  | _ => grind

theorem decided_before (hstep : Step settings env w w')
    (hproc : w'.procs p = some (.reconcile now active (.decided j job rest))) :
    w.procs p = some (.reconcile now active (.decided j job rest)) ∨
    (∃ before, w.procs p = some (.reconcile now before (.refreshed j job rest)) ∧
      env.mayScan w active ∧ j ∉ active ∧ w'.rows = w.rows ∧ w'.messages = w.messages) := by
  cases hstep with
  | release hold hafter =>
      rcases Proc.afterRelease_eq_some hafter with
        ⟨j, rfl, rfl⟩ | ⟨m, j, refused, rfl, rfl⟩ | ⟨m, j, rfl, rfl⟩ |
        ⟨now, active, j, rest, rfl, rfl⟩ <;> grind
  | rescan hscan hbefore =>
      rename_i q now' first second k other rest'
      by_cases hp : p = q
      · subst hp
        rw [World.setProc_procs, if_pos rfl, afterSecondScan] at hproc
        split at hproc
        · cases hproc
        · rename_i hinactive
          cases hproc
          exact Or.inr ⟨_, hbefore, hscan, hinactive, rfl, rfl⟩
      · exact Or.inl (by simpa [hp] using hproc)
  | _ => grind

theorem transitioned_before (hstep : Step settings env w w')
    (hproc : w'.procs p = some (.reconcile now active (.transitioned j rest))) :
    w.procs p = some (.reconcile now active (.transitioned j rest)) ∨
    (∃ job, w.procs p = some (.reconcile now active (.decided j job rest)) ∧
      decideRecovery settings now job = .requeue) := by
  cases hstep with
  | release hold hafter =>
      rcases Proc.afterRelease_eq_some hafter with
        ⟨j, rfl, rfl⟩ | ⟨m, j, refused, rfl, rfl⟩ | ⟨m, j, rfl, rfl⟩ |
        ⟨now, active, j, rest, rfl, rfl⟩ <;> grind
  | _ => grind

theorem enqueueing_before (hstep : Step settings env w w')
    (hproc : w'.procs p = some (.reconcile now active (.enqueueing j job rest))) :
    w.procs p = some (.reconcile now active (.enqueueing j job rest)) ∨
    (w.procs p = some (.reconcile now active (.transitioned j rest)) ∧ w.rows j = some job ∧
      w'.rows = w.rows ∧ w'.messages = w.messages) ∨
    (w.procs p = some (.reconcile now active (.decided j job rest)) ∧
      decideRecovery settings now job = .enqueue ∧ w'.rows = w.rows ∧
      w'.messages = w.messages) := by
  cases hstep with
  | release hold hafter =>
      rcases Proc.afterRelease_eq_some hafter with
        ⟨j, rfl, rfl⟩ | ⟨m, j, refused, rfl, rfl⟩ | ⟨m, j, rfl, rfl⟩ |
        ⟨now, active, j, rest, rfl, rfl⟩ <;> grind
  | refreshAgain hbefore hrow =>
      rename_i q now' active' k rest' row
      by_cases hp : p = q
      · subst hp
        rw [World.setProc_procs, if_pos rfl] at hproc
        cases hproc
        exact Or.inr (Or.inl ⟨hbefore, hrow, rfl, rfl⟩)
      · exact Or.inl (by simpa [hp] using hproc)
  | decideEnqueue hbefore hdecision =>
      rename_i q now' active' k other rest'
      by_cases hp : p = q
      · subst hp
        rw [World.setProc_procs, if_pos rfl] at hproc
        cases hproc
        exact Or.inr (Or.inr ⟨hbefore, hdecision, rfl, rfl⟩)
      · exact Or.inl (by simpa [hp] using hproc)
  | _ => grind

end Reconcile

end Steps
end Jobs
end TradingPlatform
