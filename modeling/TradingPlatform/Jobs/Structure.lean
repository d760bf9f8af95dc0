/-
  TradingPlatform.Jobs.Structure

  What holds in every reachable state whatever the environment does: a started
  message is in the hands of one worker, a lock is owned by the process that is
  inside its critical section, messages are about existing rows, and a job has no
  message before its submission enqueues one.
-/

import TradingPlatform.Jobs.StepCases
import TradingPlatform.Lib.Transition

namespace TradingPlatform
namespace Jobs

open Queue

attribute [grind =] Proc.holds

/-- A worker owns the lock from the acquisition to its `finally` block. -/
theorem Proc.holds_worker {m : MessageId} {j : JobId} {phase : WorkerPhase}
    (h : phase = .locked ∨ phase.Executing) : (Proc.worker m j phase).holds = some j := by
  rcases h with rfl | h
  · rfl
  · rcases WorkerPhase.executing_iff.mp h with rfl | ⟨job, steps, rfl⟩ <;> rfl

namespace World

/-- A worker's message is started, by that worker. -/
def WorkersStarted (w : World) : Prop :=
  ∀ p m j phase, w.procs p = some (.worker m j phase) →
    ∃ message, w.messages m = some message ∧ message.jobId = j ∧
      message.location = .started p

/-- A started message is in the hands of the worker it names, unless that one is gone. -/
def StartedHaveWorkers (w : World) : Prop :=
  ∀ m message p, w.messages m = some message → message.location = .started p →
    w.procs p = some .gone ∨ ∃ j phase, w.procs p = some (.worker m j phase)

/-- The lock of a job is owned by exactly the process inside its critical section. -/
def LocksHeld (w : World) : Prop :=
  ∀ p j, w.locks j = some p ↔ (w.procs p).bind Proc.holds = some j

/-- A message is about an existing row. -/
def MessagesHaveRows (w : World) : Prop :=
  ∀ m message, w.messages m = some message → ∃ row, w.rows message.jobId = some row

/-- A reconciliation pass that has read its job again works on an existing row. -/
def RecoveriesHaveRows (w : World) : Prop :=
  (∀ p now active j job rest,
    w.procs p = some (.reconcile now active (.refreshed j job rest)) → ∃ row, w.rows j = some row) ∧
  (∀ p now active j job rest,
    w.procs p = some (.reconcile now active (.decided j job rest)) → ∃ row, w.rows j = some row) ∧
  (∀ p now active j rest,
    w.procs p = some (.reconcile now active (.transitioned j rest)) → ∃ row, w.rows j = some row) ∧
  (∀ p now active j job rest,
    w.procs p = some (.reconcile now active (.enqueueing j job rest)) → ∃ row, w.rows j = some row)

/-- Before its enqueue, a submission's job has no message, and its row is as inserted. -/
def SubmissionsFresh (w : World) : Prop :=
  (∀ p j, w.procs p = some (.submit j .locked) → w.rows j = none) ∧
  (∀ p j job, w.procs p = some (.submit j (.created job)) →
    w.rows j = some job ∧ job.status = .queued ∧ job.attemptCount = 0 ∧
      ∀ m message, w.messages m = some message → message.jobId ≠ j)

/-- A message of the job is queued, started or scheduled. -/
def HasLiveMessage (w : World) (j : JobId) : Prop :=
  ∃ m message, w.messages m = some message ∧ message.jobId = j ∧ message.Live

/-- The structural invariant. -/
structure WellFormed (w : World) : Prop where
  workersStarted : w.WorkersStarted
  startedHaveWorkers : w.StartedHaveWorkers
  locksHeld : w.LocksHeld
  messagesHaveRows : w.MessagesHaveRows
  recoveriesHaveRows : w.RecoveriesHaveRows
  submissionsFresh : w.SubmissionsFresh

end World

/-- Every process either holds no lock or owns the one of its job. -/
theorem World.LocksHeld.owns {w : World} (h : w.LocksHeld) :
    ∀ p proc, w.procs p = some proc →
      proc.holds = none ∨ ∃ j, proc.holds = some j ∧ w.locks j = some p := by
  intro p proc hproc
  cases hholds : proc.holds with
  | none => exact Or.inl rfl
  | some j => exact Or.inr ⟨j, rfl, (h p j).mpr (by rw [hproc]; exact hholds)⟩

/-- Two processes inside the critical section of one job are the same. -/
theorem World.LocksHeld.exclusive {w : World} (h : w.LocksHeld) {p q : ProcId}
    {proc other : Proc} {j : JobId} (hproc : w.procs p = some proc)
    (hother : w.procs q = some other) (hholds : proc.holds = some j)
    (hotherHolds : other.holds = some j) : p = q := by
  have hp : w.locks j = some p := (h p j).mpr (by rw [hproc]; exact hholds)
  have hq : w.locks j = some q := (h q j).mpr (by rw [hother]; exact hotherHolds)
  exact Option.some.inj (hp.symm.trans hq)

section Steps

variable {settings : Settings} {env : Environment} {w w' : World}

theorem workersStarted_step (hstep : Step settings env w w') (h : w.WorkersStarted) :
    w'.WorkersStarted := by
  unfold World.WorkersStarted at *
  cases hstep with
  | release hproc hafter =>
      rcases Proc.afterRelease_eq_some hafter with
        ⟨j, rfl, rfl⟩ | ⟨m, j, refused, rfl, rfl⟩ | ⟨m, j, rfl, rfl⟩ |
        ⟨now, active, j, rest, rfl, rfl⟩ <;> grind
  | _ => grind

theorem startedHaveWorkers_step (hstep : Step settings env w w') (hworkers : w.WorkersStarted)
    (h : w.StartedHaveWorkers) : w'.StartedHaveWorkers := by
  have hfailed := Message.afterFailure_location
  unfold World.WorkersStarted World.StartedHaveWorkers at *
  cases hstep with
  | release hproc hafter =>
      rcases Proc.afterRelease_eq_some hafter with
        ⟨j, rfl, rfl⟩ | ⟨m, j, refused, rfl, rfl⟩ | ⟨m, j, rfl, rfl⟩ |
        ⟨now, active, j, rest, rfl, rfl⟩ <;> grind
  | _ => grind

theorem locksHeld_step (hstep : Step settings env w w') (h : w.LocksHeld) :
    w'.LocksHeld := by
  unfold World.LocksHeld at *
  cases hstep with
  | release hproc hafter =>
      rcases Proc.afterRelease_eq_some hafter with
        ⟨j, rfl, rfl⟩ | ⟨m, j, refused, rfl, rfl⟩ | ⟨m, j, rfl, rfl⟩ |
        ⟨now, active, j, rest, rfl, rfl⟩ <;> grind
  | unexpected now hproc hphase hrow =>
      have hholds := fun m j => Proc.holds_worker (m := m) (j := j) hphase
      grind
  | unpersisted henv hproc hphase =>
      have hholds := fun m j => Proc.holds_worker (m := m) (j := j) hphase
      grind
  | raiseLocked henv hproc hphase =>
      have hholds := fun m j => Proc.holds_worker (m := m) (j := j) hphase
      grind
  | _ => grind

theorem recoveriesHaveRows_step (hstep : Step settings env w w') (h : w.RecoveriesHaveRows) :
    w'.RecoveriesHaveRows := by
  unfold World.RecoveriesHaveRows at *
  cases hstep with
  | release hproc hafter =>
      rcases Proc.afterRelease_eq_some hafter with
        ⟨j, rfl, rfl⟩ | ⟨m, j, refused, rfl, rfl⟩ | ⟨m, j, rfl, rfl⟩ |
        ⟨now, active, j, rest, rfl, rfl⟩ <;> grind
  | _ => grind

theorem messagesHaveRows_step (hstep : Step settings env w w') (hw : w.WellFormed) :
    w'.MessagesHaveRows := by
  intro m message hmessage
  have hstored : ∃ row, w.rows message.jobId = some row := by
    rcases message_before hstep hmessage with
      ⟨n, before, hbefore, hjob⟩ | ⟨p, job, hproc, -⟩ | ⟨p, now, active, job, rest, hproc⟩
    · rw [← hjob]
      exact hw.messagesHaveRows n before hbefore
    · exact ⟨job, (hw.submissionsFresh.2 _ _ _ hproc).1⟩
    · exact hw.recoveriesHaveRows.2.2.2 _ _ _ _ _ _ hproc
  obtain ⟨row, hrow⟩ := hstored
  exact row_stays hstep hrow

/-- While a submission holds the lock of its job, nothing else writes the row. -/
theorem row_of_submission (hstep : Step settings env w w') (hw : w.WellFormed) {p : ProcId}
    {j : JobId} {job row : PreviewJob} (hproc : w.procs p = some (.submit j (.created job)))
    (hafter : w'.procs p = some (.submit j (.created job))) (hrow : w'.rows j = some row) :
    w.rows j = some row := by
  have hfresh := (hw.submissionsFresh.2 _ _ _ hproc).2.2.2
  rcases row_before hstep hrow with hsame | hwrite
  · exact hsame
  · have hexclusive : ∀ q proc, w.procs q = some proc → proc.holds = some j →
        proc = .submit j (.created job) ∧ p = q := by
      intro q proc hq hholds
      have hsame : p = q := hw.locksHeld.exclusive hproc hq rfl hholds
      subst hsame
      exact ⟨Option.some.inj (hq.symm.trans hproc), rfl⟩
    cases hwrite with
    | inserted q _ _ _ _ hq _ => cases (hexclusive q _ hq rfl).1
    | unqueued q other stored now hq hreleasing hstored =>
        obtain ⟨-, rfl⟩ := hexclusive q _ hq rfl
        rw [hafter] at hreleasing
        cases hreleasing
    | claimed q m _ now stored claimed hq _ hstored hclaim => cases (hexclusive q _ hq rfl).1
    | written q m other value stored steps hq _ hstored hwrite =>
        cases (hexclusive q _ hq rfl).1
    | gaveUp q m phase now stored hq hphase _ hstored =>
        cases (hexclusive q _ hq (Proc.holds_worker hphase)).1
    | failedWaiting q m now stored henv hq hstored =>
        obtain ⟨started, hstarted, hjob, -⟩ := hw.workersStarted _ _ _ _ hq
        exact absurd hjob (hfresh m started hstarted)
    | calledBack q m message now stored henv hq hmessage hstored =>
        obtain ⟨started, hstarted, hjob, -⟩ := hw.workersStarted _ _ _ _ hq
        exact absurd hjob (hfresh m started hstarted)
    | reconciled q now active other stored rest retry error completedAt hq hstored =>
        cases (hexclusive q _ hq rfl).1

theorem submissionsFresh_step (hstep : Step settings env w w') (hw : w.WellFormed) :
    w'.SubmissionsFresh := by
  have h := hw.submissionsFresh
  constructor
  · intro p j hproc
    by_contra hsome
    obtain ⟨row, hrow⟩ := Option.ne_none_iff_exists'.mp hsome
    rcases submitLocked_before hstep hproc with hbefore | ⟨-, -, hnone⟩
    · obtain ⟨q, hq, hcreated⟩ := row_created hstep (h.1 _ _ hbefore) hrow
      obtain rfl : p = q := hw.locksHeld.exclusive hbefore hq rfl rfl
      rw [hproc] at hcreated
      cases hcreated
    · exact hsome hnone
  · intro p j job hproc
    rcases submitCreated_before hstep hproc with
      hbefore | ⟨hbefore, hrow, hmessages, userId, strategyText, strategyName, now, rfl⟩
    · obtain ⟨hrow, hqueued, hattempts, hnoMessage⟩ := h.2 _ _ _ hbefore
      obtain ⟨row, hafter⟩ := row_stays hstep hrow
      refine ⟨?_, hqueued, hattempts, ?_⟩
      · rw [hafter, ← row_of_submission hstep hw hbefore hproc hafter, hrow]
      · rintro m message hmessage rfl
        rcases message_before hstep hmessage with
          ⟨n, before, hold, hjob⟩ | ⟨q, other, hq, hreleasing⟩ | ⟨q, now, active, other, rest, hq⟩
        · exact hnoMessage n before hold hjob
        · obtain rfl : p = q := hw.locksHeld.exclusive hbefore hq rfl rfl
          rw [hproc] at hreleasing
          cases hreleasing
        · obtain rfl : p = q := hw.locksHeld.exclusive hbefore hq rfl rfl
          rw [hbefore] at hq
          cases hq
    · refine ⟨hrow, rfl, rfl, ?_⟩
      rintro m message hmessage rfl
      rw [hmessages] at hmessage
      obtain ⟨row, hstored⟩ := hw.messagesHaveRows m message hmessage
      rw [h.1 _ _ hbefore] at hstored
      cases hstored

/-- No other process touches the message of a worker. -/
theorem message_of_worker (hstep : Step settings env w w') (h : w.WorkersStarted) {p : ProcId}
    {m : MessageId} {j : JobId} {phase after : WorkerPhase}
    (hproc : w.procs p = some (.worker m j phase))
    (hafter : w'.procs p = some (.worker m j after)) : w'.messages m = w.messages m := by
  obtain ⟨message, hmessage, -, hstarted⟩ := h p m j phase hproc
  unfold World.WorkersStarted at h
  cases hstep with
  | _ => grind

/-- While a worker executes the job, only a failure callback and a worker that fails while
    waiting write the row beside it. -/
theorem row_of_worker (hstep : Step settings env w w') (hw : w.WellFormed) {p : ProcId}
    {m : MessageId} {j : JobId} {phase : WorkerPhase} {row : PreviewJob}
    (hproc : w.procs p = some (.worker m j phase)) (hphase : phase.Executing)
    (hafter : w'.procs p = some (.worker m j phase)) (hrow : w'.rows j = some row) :
    w.rows j = some row ∨
    (∃ q n now before, env.mayFailWaiting w j ∧ w.procs q = some (.worker n j .waiting) ∧
      w.rows j = some before ∧
      row = transitionJobAfterOperationalFailure false operationalFailureMessage now before) ∨
    (∃ q n message now before, env.mayCallBack w n ∧ w.procs q = some (.worker n j .raised) ∧
      w.messages n = some message ∧ w.rows j = some before ∧
      row = transitionJobAfterOperationalFailure (willRetry message.retriesLeft)
        operationalFailureMessage now before) := by
  have hexclusive : ∀ q proc, w.procs q = some proc → proc.holds = some j →
      proc = .worker m j phase ∧ p = q := by
    intro q proc hq hholds
    have hsame : p = q :=
      hw.locksHeld.exclusive hproc hq (Proc.holds_worker (Or.inr hphase)) hholds
    subst hsame
    exact ⟨Option.some.inj (hq.symm.trans hproc), rfl⟩
  rcases row_before hstep hrow with hsame | hwrite
  · exact Or.inl hsame
  · cases hwrite with
    | inserted q _ _ _ _ hq _ => cases (hexclusive q _ hq rfl).1
    | unqueued q job stored now hq _ hstored => cases (hexclusive q _ hq rfl).1
    | claimed q n _ now stored claimed hq _ hstored hclaim =>
        cases (hexclusive q _ hq rfl).1
        exact False.elim hphase
    | written q n job value stored steps hq hmoved hstored hwrite =>
        obtain ⟨-, rfl⟩ := hexclusive q _ hq rfl
        exact absurd (hafter.trans hproc.symm) hmoved
    | gaveUp q n other now stored hq hother hreturning hstored =>
        obtain ⟨-, rfl⟩ := hexclusive q _ hq (Proc.holds_worker hother)
        rw [hafter] at hreturning
        cases hreturning
        exact False.elim hphase
    | failedWaiting q n now stored henv hq hstored =>
        exact Or.inr (Or.inl ⟨q, n, now, stored, henv, hq, hstored, rfl⟩)
    | calledBack q n message now stored henv hq hmessage hstored =>
        exact Or.inr (Or.inr ⟨q, n, message, now, stored, henv, hq, hmessage, hstored, rfl⟩)
    | reconciled q now active job stored rest retry error completedAt hq hstored =>
        cases (hexclusive q _ hq rfl).1

theorem wellFormed_initial : World.initial.WellFormed where
  workersStarted := by
    intro p m j phase h
    cases h
  startedHaveWorkers := by
    intro m message p h
    cases h
  locksHeld := by
    intro p j
    simp [World.initial]
  messagesHaveRows := by
    intro m message h
    cases h
  recoveriesHaveRows := by
    simp [World.RecoveriesHaveRows, World.initial]
  submissionsFresh := by
    simp [World.SubmissionsFresh, World.initial]

theorem wellFormed_step (hstep : Step settings env w w') (hw : w.WellFormed) :
    w'.WellFormed where
  workersStarted := workersStarted_step hstep hw.workersStarted
  startedHaveWorkers := startedHaveWorkers_step hstep hw.workersStarted hw.startedHaveWorkers
  locksHeld := locksHeld_step hstep hw.locksHeld
  messagesHaveRows := messagesHaveRows_step hstep hw
  recoveriesHaveRows := recoveriesHaveRows_step hstep hw.recoveriesHaveRows
  submissionsFresh := submissionsFresh_step hstep hw

theorem Reachable.wellFormed (hrun : Reachable settings env w) : w.WellFormed :=
  Transition.invariant wellFormed_initial (fun _ _ => wellFormed_step) hrun

end Steps
end Jobs
end TradingPlatform
