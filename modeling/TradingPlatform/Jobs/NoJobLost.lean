/-
  TradingPlatform.Jobs.NoJobLost

  When every nonterminal job has somebody who will run it.

  A worker that cannot get the lock returns normally and its message is consumed:
  it takes the holder for a duplicate execution.  The holder may also be the
  submission that has just enqueued the message, a reconciliation pass, or a
  worker whose claim was refused.  A run in which lock waits time out only
  against a worker that still has its claim to make or has made it loses no job;
  with any other holder the last message of a queued job can be consumed.
-/

import TradingPlatform.Jobs.Structure

namespace TradingPlatform
namespace Jobs

open Queue Relation

-- ============================================================================
-- The claim, its environment, and the condition
-- ============================================================================

/-- A submission or a reconciliation pass has still to enqueue a message of the job. -/
def World.WillEnqueue (w : World) (j : JobId) : Prop :=
  (∃ p job, w.procs p = some (.submit j (.created job))) ∨
  (∃ p now active rest, w.procs p = some (.reconcile now active (.transitioned j rest))) ∨
  (∃ p now active job rest, w.procs p = some (.reconcile now active (.enqueueing j job rest)))

/-- In every reachable state, each queued or running row has a live message or a call in
    progress that will enqueue one. -/
def NoJobLost (settings : Settings) (env : Environment) : Prop :=
  ∀ w : World, Reachable settings env w → ∀ j row, w.rows j = some row →
    row.status.Nonterminal → w.HasLiveMessage j ∨ w.WillEnqueue j

/-- No crash, no redelivery and no database or queue error; a wait for a held lock may time
    out at any moment, and a scan may return anything. -/
def reliable : Environment where
  mayKill _ _ := False
  mayRedeliver _ _ := False
  mayRefuseEnqueue := False
  mayFailDatabase := False
  mayTimeOut _ _ := True
  mayFailWaiting _ _ := True
  mayCallBack _ _ := True
  mayScan _ _ := True

/-- A wait times out only while a worker holds the lock whose claim was not refused. -/
def timeOutDuringExecution : Environment :=
  { reliable with
    mayTimeOut := fun w j => ∀ q, w.locks j = some q →
      ∃ m phase, w.procs q = some (.worker m j phase) ∧ phase ≠ .returning true }

-- ============================================================================
-- Who is responsible for a job
-- ============================================================================

/-- The job whose row the worker has claimed and whose failure callback has not run. -/
def Proc.owns : Proc → Option JobId
  | .worker _ jobId phase =>
      match phase with
      | .claimed | .executing _ _ | .raising | .raised => some jobId
      | .waiting | .locked | .returning _ | .returned | .calledBack => none
  | _ => none

/-- The job for which the process will still enqueue, execute or retry a message, or fail the
    row. -/
def Proc.carries : Proc → Option JobId
  | .submit jobId (.created _) => some jobId
  | .worker _ jobId phase =>
      match phase with
      | .waiting | .locked | .claimed | .executing _ _ | .raising | .raised | .calledBack =>
          some jobId
      | .returning _ | .returned => none
  | .reconcile _ _ (.transitioned jobId _) => some jobId
  | .reconcile _ _ (.enqueueing jobId _ _) => some jobId
  | _ => none

attribute [grind =] Proc.owns Proc.carries

theorem Proc.owns_worker (m : MessageId) (j : JobId) (phase : WorkerPhase) :
    (Proc.worker m j phase).owns = none ∨ (Proc.worker m j phase).owns = some j := by
  cases phase <;> simp [Proc.owns]

theorem Proc.carries_worker (m : MessageId) (j : JobId) (phase : WorkerPhase) :
    (Proc.worker m j phase).carries = none ∨ (Proc.worker m j phase).carries = some j := by
  cases phase <;> simp [Proc.carries]

theorem Proc.carries_of_owns {proc : Proc} {j : JobId} (h : proc.owns = some j) :
    proc.carries = some j := by
  cases proc with
  | worker m k phase => cases phase <;> simp_all [Proc.owns, Proc.carries]
  | _ => cases h

/-- A worker inside its critical section carries its job until its claim is refused or the
    execution is over. -/
theorem Proc.carries_of_holds {m : MessageId} {j k : JobId} {phase : WorkerPhase}
    (hunrefused : phase ≠ .returning true) (h : (Proc.worker m j phase).holds = some k) :
    (Proc.worker m j phase).carries = some k ∨ (j = k ∧ phase = .returning false) := by
  cases phase <;> simp_all [Proc.holds, Proc.carries]

namespace World

/-- A message of the job is in the queue or scheduled. -/
def Waits (w : World) (j : JobId) : Prop :=
  ∃ m message, w.messages m = some message ∧ message.jobId = j ∧
    (message.location = .queued ∨ message.location = .scheduled)

/-- A process is answerable for the running job. -/
def Owned (w : World) (j : JobId) : Prop := ∃ p, (w.procs p).bind Proc.owns = some j

/-- A process will still bring the job to its next state. -/
def Carried (w : World) (j : JobId) : Prop := ∃ p, (w.procs p).bind Proc.carries = some j

/-- The row exists and is completed or failed. -/
def Terminal (w : World) (j : JobId) : Prop :=
  ∃ row, w.rows j = some row ∧ ¬ row.status.Nonterminal

/-- A running row is owned by a worker. -/
def RunningOwned (w : World) : Prop :=
  ∀ j row, w.rows j = some row → row.status = .running → w.Owned j

/-- A worker that returns after a claim leaves a terminal row, one that has loaded a terminal
    row executes on a terminal row, and so does a final failure callback leave one. -/
def FinishedTerminal (w : World) : Prop :=
  (∀ p m j, w.procs p = some (.worker m j (.returning false)) → w.Terminal j) ∧
  (∀ p m j job steps, w.procs p = some (.worker m j (.executing job steps)) →
    ¬ job.status.Nonterminal → w.Terminal j) ∧
  (∀ p m j message, w.procs p = some (.worker m j .calledBack) → w.messages m = some message →
    willRetry message.retriesLeft = false → w.Terminal j)

/-- Each queued or running row has a waiting message or a process that carries one. -/
def Unlost (w : World) : Prop :=
  ∀ j row, w.rows j = some row → row.status.Nonterminal → w.Waits j ∨ w.Carried j

/-- The invariant of the runs in which nothing is lost. -/
structure Accounted (w : World) : Prop where
  finishedTerminal : w.FinishedTerminal
  runningOwned : w.RunningOwned
  unlost : w.Unlost

end World

section Steps

variable {settings : Settings} {env : Environment} {w w' : World}

/-- In any environment a terminal row stays terminal, whichever terminal status it has. -/
theorem terminal_stays (hstep : Step settings env w w') (hw : w.WellFormed) {j : JobId}
    (h : w.Terminal j) : w'.Terminal j := by
  obtain ⟨row, hrow, hterminal⟩ := h
  obtain ⟨after, hafter⟩ := row_stays hstep hrow
  refine ⟨after, hafter, ?_⟩
  rcases row_before hstep hafter with hsame | hwrite
  · rwa [Option.some.inj (hsame.symm.trans hrow)]
  · cases hwrite with
    | inserted p _ _ _ _ hproc _ =>
        rw [hw.submissionsFresh.1 p j hproc] at hrow
        cases hrow
    | unqueued p job stored now hproc _ hstored =>
        obtain rfl := Option.some.inj (hstored.symm.trans hrow)
        exact flush_failJob_terminal job stored _ now fun _ => hterminal
    | claimed p m _ now stored claimed hproc _ hstored hclaim =>
        obtain rfl := Option.some.inj (hstored.symm.trans hrow)
        exact absurd (claimJob_eq_some hclaim).1 hterminal
    | written p m job value stored steps hproc _ hstored hwrite =>
        obtain rfl := Option.some.inj (hstored.symm.trans hrow)
        exact hwrite.terminal hterminal
    | gaveUp p m phase now stored hproc hphase _ hstored =>
        obtain rfl := Option.some.inj (hstored.symm.trans hrow)
        rwa [transition_of_terminal _ _ _ _ hterminal]
    | failedWaiting p m now stored henv hproc hstored =>
        obtain rfl := Option.some.inj (hstored.symm.trans hrow)
        rwa [transition_of_terminal _ _ _ _ hterminal]
    | calledBack p m message now stored henv hproc hmessage hstored =>
        obtain rfl := Option.some.inj (hstored.symm.trans hrow)
        rwa [transition_of_terminal _ _ _ _ hterminal]
    | reconciled p now active job stored rest retry error completedAt hproc hstored =>
        obtain rfl := Option.some.inj (hstored.symm.trans hrow)
        rwa [transition_of_terminal _ _ _ _ hterminal]

/-- A row that is running after a step was running before it, or has just been claimed. -/
theorem running_before (hstep : Step settings env w w') {j : JobId} {row : PreviewJob}
    (hrow : w'.rows j = some row) (hrunning : row.status = .running) :
    (∃ row, w.rows j = some row ∧ row.status = .running) ∨ w'.Owned j := by
  rcases row_before hstep hrow with hsame | hwrite
  · exact Or.inl ⟨row, hsame, hrunning⟩
  · cases hwrite with
    | inserted p _ _ _ _ hproc _ => cases hrunning
    | unqueued p job stored now hproc _ hstored =>
        exact Or.inl ⟨stored, hstored, ObjectWrite.running (.fail [] _ now) hrunning⟩
    | claimed p m _ now stored _ hproc hafter hstored hclaim =>
        exact Or.inr ⟨p, by rw [hafter]; rfl⟩
    | written p m job value stored steps hproc _ hstored hwrite =>
        exact Or.inl ⟨stored, hstored, hwrite.running hrunning⟩
    | gaveUp p m phase now stored hproc hphase _ hstored =>
        exact absurd hrunning (transition_status_ne_running _ _ _ _)
    | failedWaiting p m now stored henv hproc hstored =>
        exact absurd hrunning (transition_status_ne_running _ _ _ _)
    | calledBack p m message now stored henv hproc hmessage hstored =>
        exact absurd hrunning (transition_status_ne_running _ _ _ _)
    | reconciled p now active job stored rest retry error completedAt hproc hstored =>
        exact absurd hrunning (transition_status_ne_running _ _ _ _)

/-- An owner gives up its row only by leaving it queued, completed or failed. -/
theorem owner_step (hstep : Step settings timeOutDuringExecution w w')
    (hfinished : w.FinishedTerminal) {p : ProcId} {j : JobId}
    (howner : (w.procs p).bind Proc.owns = some j) :
    (w'.procs p).bind Proc.owns = some j ∨
      ∀ row, w'.rows j = some row → row.status ≠ .running := by
  have htransition := @transition_status_ne_running
  unfold World.FinishedTerminal World.Terminal at *
  cases hstep with
  | kill henv _ => exact False.elim henv
  | submitFails henv _ => exact False.elim henv
  | unpersisted henv _ _ => exact False.elim henv
  | raiseLocked henv _ _ => exact False.elim henv
  | callBackFails henv _ => exact False.elim henv
  | unpersistedWaiting henv _ => exact False.elim henv
  | release hproc hafter =>
      rcases Proc.afterRelease_eq_some hafter with
        ⟨j, rfl, rfl⟩ | ⟨m, j, refused, rfl, rfl⟩ | ⟨m, j, rfl, rfl⟩ |
        ⟨now, active, j, rest, rfl, rfl⟩ <;> grind
  | unexpected now hproc hphase hrow =>
      have howns := Proc.owns_worker
      grind
  | complete result now hproc hrow =>
      have hterminal := flush_completeJob_terminal
      grind [JobStatus.Nonterminal]
  | fail error now hproc hrow =>
      have hterminal := flush_failJob_terminal
      grind [JobStatus.Nonterminal]
  | _ => grind

theorem runningOwned_step (hstep : Step settings timeOutDuringExecution w w')
    (hfinished : w.FinishedTerminal) (h : w.RunningOwned) : w'.RunningOwned := by
  intro j row hrow hrunning
  rcases running_before hstep hrow hrunning with ⟨before, hbefore, hwas⟩ | howned
  · obtain ⟨p, howner⟩ := h j before hbefore hwas
    rcases owner_step hstep hfinished howner with hstill | hstopped
    · exact ⟨p, hstill⟩
    · exact absurd hrunning (hstopped row hrow)
  · exact howned

theorem returning_step (hstep : Step settings timeOutDuringExecution w w')
    (hw : w.WellFormed) (h : w.FinishedTerminal) {p : ProcId} {m : MessageId} {j : JobId}
    (hproc : w'.procs p = some (.worker m j (.returning false))) : w'.Terminal j := by
  rcases returning_before hstep hproc with
    hbefore | ⟨phase, hbefore, hphase, hfails | ⟨now, row, hrow, hafter⟩⟩ |
    ⟨job, row, result, now, hbefore, hrow, hafter⟩ |
    ⟨job, row, steps, error, now, hbefore, hrow, hafter⟩
  · exact terminal_stays hstep hw (h.1 p m j hbefore)
  · exact False.elim hfails
  · exact ⟨_, hafter, transition_terminal _ _ _⟩
  · refine ⟨_, hafter, flush_completeJob_terminal job row result now fun hjob => ?_⟩
    obtain ⟨stored, hstored, hterminal⟩ := h.2.1 p m j job [] hbefore hjob
    rwa [Option.some.inj (hrow.symm.trans hstored)]
  · refine ⟨_, hafter, flush_failJob_terminal job row error now fun hjob => ?_⟩
    obtain ⟨stored, hstored, hterminal⟩ := h.2.1 p m j job steps hbefore hjob
    rwa [Option.some.inj (hrow.symm.trans hstored)]

theorem executing_step (hstep : Step settings timeOutDuringExecution w w')
    (hw : w.WellFormed) (h : w.FinishedTerminal) {p : ProcId} {m : MessageId} {j : JobId}
    {job : PreviewJob} {steps : List (JobStage × Nat)}
    (hproc : w'.procs p = some (.worker m j (.executing job steps)))
    (hjob : ¬ job.status.Nonterminal) : w'.Terminal j := by
  rcases executing_before hstep hproc with
    hbefore | ⟨hbefore, hrow, -, -⟩ | ⟨before, stage, percent, row, hbefore, rfl, hrow, -⟩
  · exact terminal_stays hstep hw (h.2.1 p m j job steps hbefore hjob)
  · exact terminal_stays hstep hw ⟨job, hrow, hjob⟩
  · exact terminal_stays hstep hw (h.2.1 p m j before _ hbefore hjob)

theorem calledBack_step (hstep : Step settings timeOutDuringExecution w w')
    (hw : w.WellFormed) (h : w.FinishedTerminal) {p : ProcId} {m : MessageId} {j : JobId}
    {message : Message} (hproc : w'.procs p = some (.worker m j .calledBack))
    (hmessage : w'.messages m = some message)
    (hfinal : willRetry message.retriesLeft = false) : w'.Terminal j := by
  rcases calledBack_before hstep hproc with
    hbefore | ⟨hbefore, hfails | ⟨called, now, row, hcalled, hrow, hafter⟩⟩
  · rw [message_of_worker hstep hw.workersStarted hbefore hproc] at hmessage
    exact terminal_stays hstep hw (h.2.2 p m j message hbefore hmessage hfinal)
  · exact False.elim hfails
  · rw [message_of_worker hstep hw.workersStarted hbefore hproc, hcalled] at hmessage
    obtain rfl := Option.some.inj hmessage
    rw [hfinal] at hafter
    exact ⟨_, hafter, transition_terminal _ _ _⟩

theorem finishedTerminal_step (hstep : Step settings timeOutDuringExecution w w')
    (hw : w.WellFormed) (h : w.FinishedTerminal) : w'.FinishedTerminal :=
  ⟨fun _ _ _ => returning_step hstep hw h, fun _ _ _ _ _ => executing_step hstep hw h,
    fun _ _ _ _ => calledBack_step hstep hw h⟩

/-- A row appears by `create_job`, whose caller will enqueue its message. -/
theorem carried_of_created (hstep : Step settings env w w') {j : JobId} {row : PreviewJob}
    (hnone : w.rows j = none) (hrow : w'.rows j = some row) : w'.Carried j := by
  obtain ⟨p, -, hcreated⟩ := row_created hstep hnone hrow
  exact ⟨p, by rw [hcreated]; rfl⟩

/-- A waiting message stays, or is delivered to a worker. -/
theorem waiting_step (hstep : Step settings env w w') (hw : w.WellFormed) {j : JobId}
    (h : w.Waits j) : w'.Waits j ∨ w'.Carried j := by
  have hworkers := hw.workersStarted
  unfold World.WorkersStarted at hworkers
  obtain ⟨m, message, hmessage, rfl, hlocation⟩ := h
  cases hstep with
  | deliver hproc hdelivered hqueued =>
      rename_i p k delivered
      by_cases hm : m = k
      · exact Or.inr ⟨p, by grind⟩
      · exact Or.inl ⟨m, message, by grind⟩
  | due hdue hscheduled =>
      rename_i k moved
      by_cases hm : m = k
      · exact Or.inl ⟨m, { moved with location := .queued }, by grind⟩
      · exact Or.inl ⟨m, message, by grind⟩
  | _ => exact Or.inl ⟨m, message, by grind⟩

theorem waits_of_written (m : MessageId) (p : ProcId) (message : Message) (proc : Proc)
    (h : message.location = .queued ∨ message.location = .scheduled) :
    ((w.setMessage m message).setProc p proc).Waits message.jobId :=
  ⟨m, message, by simp, rfl, h⟩

/-- Under the condition, a process gives up a job only to a waiting message, to another process
    that carries one, or because the row is terminal. -/
theorem carrier_step (hstep : Step settings timeOutDuringExecution w w') (hw : w.WellFormed)
    (hfinished : w.FinishedTerminal) (howned : w.RunningOwned) {p : ProcId} {j : JobId}
    (h : (w.procs p).bind Proc.carries = some j) :
    w'.Waits j ∨ w'.Carried j ∨ w'.Terminal j := by
  have hfinished' := finishedTerminal_step hstep hw hfinished
  have hstays := terminal_stays (j := j) hstep hw
  have hworkers := hw.workersStarted
  unfold World.WorkersStarted at hworkers
  cases hstep with
  | kill henv _ => exact False.elim henv
  | submitFails henv _ => exact False.elim henv
  | enqueueFails _ henv _ _ => exact False.elim henv
  | unpersisted henv _ _ => exact False.elim henv
  | raiseLocked henv _ _ => exact False.elim henv
  | raiseWaiting henv _ => exact False.elim henv
  | unpersistedWaiting henv _ => exact False.elim henv
  | callBackFails henv _ => exact False.elim henv
  | redeliver _ henv _ _ => exact False.elim henv
  | reconcileFails henv _ => exact False.elim (henv.elim id id)
  | release hproc hafter =>
      refine Or.inr (Or.inl ⟨p, ?_⟩)
      rcases Proc.afterRelease_eq_some hafter with
        ⟨j, rfl, rfl⟩ | ⟨m, j, refused, rfl, rfl⟩ | ⟨m, j, rfl, rfl⟩ |
        ⟨now, active, j, rest, rfl, rfl⟩ <;> grind
  | enqueue hproc hfresh =>
      rename_i q k m job
      by_cases hp : p = q
      · have hj : k = j := by grind
        subst hj
        exact Or.inl (waits_of_written m q _ _ (Or.inl rfl))
      · exact Or.inr (Or.inl ⟨p, by grind⟩)
  | recover hproc hfresh =>
      rename_i q now active k job rest m
      by_cases hp : p = q
      · have hj : k = j := by grind
        subst hj
        exact Or.inl (waits_of_written m q _ _ (Or.inl rfl))
      · exact Or.inr (Or.inl ⟨p, by grind⟩)
  | reschedule hproc hmessage =>
      rename_i q m k message
      by_cases hp : p = q
      · have hj : message.jobId = j := by grind
        subst hj
        by_cases hretry : willRetry message.retriesLeft = true
        · rw [← message.afterFailure_jobId]
          refine Or.inl (waits_of_written m q _ _ (Or.inr ?_))
          rw [Message.afterFailure, if_pos hretry]
        · refine Or.inr (Or.inr (hstays ?_))
          exact hfinished.2.2 q m message.jobId message (by grind) hmessage
            (Bool.eq_false_iff.mpr hretry)
      · exact Or.inr (Or.inl ⟨p, by grind⟩)
  | timeOut henv hproc hlock =>
      rename_i q holder m k
      by_cases hp : p = q
      · have hj : k = j := by grind
        subst hj
        -- the holder is a worker that has its claim to make, or has made it
        obtain ⟨m', phase, hholder, hunrefused⟩ := henv holder hlock
        have hholds := (hw.locksHeld holder k).mp hlock
        rw [hholder] at hholds
        rcases Proc.carries_of_holds (m := m') hunrefused hholds with hcarries | ⟨-, hreturning⟩
        · exact Or.inr (Or.inl ⟨holder, by grind⟩)
        · rw [hreturning] at hholder
          exact Or.inr (Or.inr (hfinished.1 holder m' k hholder))
      · exact Or.inr (Or.inl ⟨p, by grind⟩)
  | refuse now hproc hmessage hclaim =>
      rename_i q m k message
      by_cases hp : p = q
      · have hj : message.jobId = k ∧ k = j := by grind
        obtain ⟨rfl, rfl⟩ := hj
        -- a refused row is terminal, or running and owned by another worker
        obtain ⟨row, hrow⟩ := hw.messagesHaveRows m message hmessage
        have hnotQueued := status_ne_queued_of_claimJob_eq_none (hclaim row hrow)
        by_cases hrunning : row.status = .running
        · obtain ⟨owner, howner⟩ := howned message.jobId row hrow hrunning
          obtain ⟨proc, hownerProc, howns⟩ := Option.bind_eq_some_iff.mp howner
          have hcarries := Proc.carries_of_owns howns
          exact Or.inr (Or.inl ⟨owner, by grind⟩)
        · exact Or.inr (Or.inr ⟨row, hrow, fun h => h.elim hnotQueued hrunning⟩)
      · exact Or.inr (Or.inl ⟨p, by grind⟩)
  | complete result now hproc hrow =>
      rename_i q m k job row
      by_cases hp : p = q
      · exact Or.inr (Or.inr (hfinished'.1 q m j (by grind)))
      · exact Or.inr (Or.inl ⟨p, by grind⟩)
  | fail error now hproc hrow =>
      rename_i q m k job row steps
      by_cases hp : p = q
      · exact Or.inr (Or.inr (hfinished'.1 q m j (by grind)))
      · exact Or.inr (Or.inl ⟨p, by grind⟩)
  | unexpected now hproc hphase hrow =>
      rename_i q m k phase row
      by_cases hp : p = q
      · have hcarries := Proc.carries_worker m k phase
        exact Or.inr (Or.inr (hfinished'.1 q m j (by grind)))
      · exact Or.inr (Or.inl ⟨p, by grind⟩)
  | unexpectedWaiting now henv hproc hrow =>
      rename_i q m k row
      by_cases hp : p = q
      · have hj : k = j := by grind
        subst hj
        exact Or.inr (Or.inr ⟨_, by simp, transition_terminal operationalFailureMessage now row⟩)
      · exact Or.inr (Or.inl ⟨p, by grind⟩)
  | _ => exact Or.inr (Or.inl ⟨p, by grind⟩)

theorem unlost_step (hstep : Step settings timeOutDuringExecution w w') (hw : w.WellFormed)
    (hfinished : w.FinishedTerminal) (howned : w.RunningOwned) (h : w.Unlost) : w'.Unlost := by
  intro j row hrow hnonterminal
  have hnotTerminal : ¬ w'.Terminal j := by
    rintro ⟨stored, hstored, hterminal⟩
    rw [hrow] at hstored
    cases hstored
    exact hterminal hnonterminal
  cases hbefore : w.rows j with
  | none => exact Or.inr (carried_of_created hstep hbefore hrow)
  | some before =>
      have hwas : before.status.Nonterminal := by
        by_contra hterminal
        exact hnotTerminal (terminal_stays hstep hw ⟨before, hbefore, hterminal⟩)
      rcases h j before hbefore hwas with hwaits | ⟨p, hcarries⟩
      · exact waiting_step hstep hw hwaits
      · rcases carrier_step hstep hw hfinished howned hcarries with hwaits | hcarried | hterminal
        · exact Or.inl hwaits
        · exact Or.inr hcarried
        · exact absurd hterminal hnotTerminal

theorem accounted_initial : World.initial.Accounted where
  finishedTerminal := by
    simp [World.FinishedTerminal, World.initial]
  runningOwned := by
    intro j row h
    cases h
  unlost := by
    intro j row h
    cases h

theorem accounted_step (hstep : Step settings timeOutDuringExecution w w') (hw : w.WellFormed)
    (h : w.Accounted) : w'.Accounted where
  finishedTerminal := finishedTerminal_step hstep hw h.finishedTerminal
  runningOwned := runningOwned_step hstep h.finishedTerminal h.runningOwned
  unlost := unlost_step hstep hw h.finishedTerminal h.runningOwned h.unlost

theorem Reachable.accounted (hrun : Reachable settings timeOutDuringExecution w) :
    w.Accounted :=
  Transition.invariant_of (fun _ => Reachable.wellFormed) accounted_initial
    (fun _ _ => accounted_step) hrun

theorem World.Waits.hasLiveMessage {j : JobId} (h : w.Waits j) : w.HasLiveMessage j := by
  obtain ⟨m, message, hmessage, hj, hlocation⟩ := h
  refine ⟨m, message, hmessage, hj, ?_⟩
  rcases hlocation with hlocation | hlocation <;> simp [Message.Live, hlocation]

/-- What a process carries is a started message, or one it will enqueue. -/
theorem World.Carried.live (hw : w.WellFormed) {j : JobId} (h : w.Carried j) :
    w.HasLiveMessage j ∨ w.WillEnqueue j := by
  obtain ⟨p, hcarries⟩ := h
  obtain ⟨proc, hproc, hcarries⟩ := Option.bind_eq_some_iff.mp hcarries
  cases proc with
  | submit k phase =>
      cases phase with
      | created job =>
          cases hcarries
          exact Or.inr (Or.inl ⟨p, job, hproc⟩)
      | locked => cases hcarries
      | releasing => cases hcarries
  | worker m k phase =>
      have hj : k = j := by
        rcases Proc.carries_worker m k phase with hnone | hsome
        · rw [hnone] at hcarries
          cases hcarries
        · rw [hsome] at hcarries
          exact Option.some.inj hcarries
      obtain ⟨message, hmessage, hjob, hstarted⟩ := hw.workersStarted p m k phase hproc
      exact Or.inl ⟨m, message, hmessage, hjob.trans hj, by simp [Message.Live, hstarted]⟩
  | reconcile now active phase =>
      cases phase with
      | transitioned k rest =>
          cases hcarries
          exact Or.inr (Or.inr (Or.inl ⟨p, now, active, rest, hproc⟩))
      | enqueueing k job rest =>
          cases hcarries
          exact Or.inr (Or.inr (Or.inr ⟨p, now, active, job, rest, hproc⟩))
      | _ => cases hcarries
  | gone => cases hcarries

end Steps

/-- A run whose lock waits time out only against executions loses no job. -/
theorem noJobLost (settings : Settings) : NoJobLost settings timeOutDuringExecution := by
  intro w hrun j row hrow hnonterminal
  rcases (Reachable.accounted hrun).unlost j row hrow hnonterminal with hwaits | hcarried
  · exact Or.inl hwaits.hasLiveMessage
  · exact hcarried.live (Reachable.wellFormed hrun)

/-- A job whose worker has claimed it still has that worker's message. -/
theorem noJobLost_claimed :
    ∃ w row, Reachable defaultSettings timeOutDuringExecution w ∧ w.rows 0 = some row ∧
      row.status = .running ∧ (w.HasLiveMessage 0 ∨ w.WillEnqueue 0) := by
  have run : Reachable defaultSettings timeOutDuringExecution _ :=
    .tail .refl (.submit (p := 0) (j := 0) rfl rfl rfl)
  have run := run.tail (.create (p := 0) "user" "buy the dip" none 0 rfl)
  have run := run.tail (.enqueue (p := 0) (m := 0) rfl rfl)
  have run := run.tail (.release (p := 0) rfl rfl)
  have run := run.tail (.deliver (p := 1) (m := 0) rfl rfl rfl)
  have run := run.tail (.acquire (p := 1) rfl rfl)
  have run := run.tail (.claim (p := 1) 1 rfl rfl rfl rfl)
  exact ⟨_, _, run, rfl, rfl, noJobLost defaultSettings _ run 0 _ rfl (Or.inr rfl)⟩

-- ============================================================================
-- A time-out against the submission
-- ============================================================================

/-- The worker of a message enqueued a moment ago waits for the lock that the submission still
    holds, gives up, and the message is acknowledged: the row stays queued. -/
theorem noJobLost_submissionHoldsLock : ¬ NoJobLost defaultSettings reliable := by
  intro hnever
  have run : Reachable defaultSettings reliable _ :=
    .tail .refl (.submit (p := 0) (j := 0) rfl rfl rfl)
  have run := run.tail (.create (p := 0) "user" "buy the dip" none 0 rfl)
  have run := run.tail (.enqueue (p := 0) (m := 0) rfl rfl)
  have run := run.tail (.deliver (p := 1) (m := 0) rfl rfl rfl)
  have run := run.tail (.timeOut (p := 1) trivial rfl rfl)
  have run := run.tail (.release (p := 0) rfl rfl)
  have run := run.tail (.acknowledge (p := 1) rfl rfl)
  rcases hnever _ run 0 _ rfl (Or.inl rfl) with
    ⟨m, message, hmessage, -, hlive⟩ | ⟨p, job, hproc⟩ | ⟨p, now, active, rest, hproc⟩ |
    ⟨p, now, active, job, rest, hproc⟩
  · match m, hmessage with
    | 0, hmessage =>
        cases hmessage
        exact hlive.1 rfl
    | _ + 1, hmessage => cases hmessage
  all_goals
    match p, hproc with
    | 0, hproc => cases hproc
    | 1, hproc => cases hproc
    | _ + 2, hproc => cases hproc

end Jobs
end TradingPlatform
