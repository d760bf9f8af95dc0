/-
  TradingPlatform.Jobs.Retention

  The job system beside `delete_expired_jobs`.

  The cleanup deletes expired rows whatever their status, so a row may vanish
  under a submission, under the worker that executes the job, and under a
  reconciliation pass.  `RetainedStep` adds the cleanup, and what each party does
  about a row that is gone.

  A run with cleanups is a run without them that nobody can tell apart from it
  (`Hidden`): the deleted rows are still there, and every operation that misses a
  row is one that failed.  So the invariants of the job system outlive the
  cleanup, and a deleted job never has a row again.
-/

import TradingPlatform.Jobs.AttemptBudget
import TradingPlatform.Jobs.TerminalStates

namespace TradingPlatform
namespace Jobs

open Queue Relation

-- ============================================================================
-- The cleanup
-- ============================================================================

/-- `expires_at < now` -/
def pastExpiry (now : Timestamp) (row : PreviewJob) : Bool := decide (row.expiresAt < now)

/-- `delete_expired_jobs`: `DELETE … WHERE expires_at < now`, whatever the status. -/
def deleteExpiredJobs (now : Timestamp) (rows : JobId → Option PreviewJob) :
    JobId → Option PreviewJob :=
  fun j => (rows j).filter fun row => !pastExpiry now row

/-- The stores and the parties, and the jobs whose rows have been deleted so far. -/
structure RetainedWorld where
  world : World
  deleted : JobId → Prop

namespace RetainedWorld

/-- Nothing has happened, and nothing was deleted. -/
def initial : RetainedWorld := ⟨World.initial, fun _ => False⟩

/-- `delete_expired_jobs` at a time. -/
def cleanUp (s : RetainedWorld) (now : Timestamp) : RetainedWorld where
  world := { s.world with rows := deleteExpiredJobs now s.world.rows }
  deleted j := s.deleted j ∨ ∃ row, s.world.rows j = some row ∧ pastExpiry now row = true

end RetainedWorld

-- ============================================================================
-- Steps
-- ============================================================================

/-- The process meets a row that is gone. -/
inductive MissingRow (settings : Settings) (env : Environment) : World → World → Prop where
  /-- `fail_job` after a refused enqueue flushes an object without a row -/
  | enqueueFails {w : World} {p : ProcId} {j : JobId} {job : PreviewJob}
      (henv : env.mayRefuseEnqueue) (hproc : w.procs p = some (.submit j (.created job)))
      (hrow : w.rows j = none) : MissingRow settings env w (w.setProc p (.submit j .releasing))
  /-- after the claim `session.get` finds nothing and the worker returns; or a flush finds no row
      to update, and the transition that `process_preview_job` then tries matches none -/
  | unexpected {w : World} {p : ProcId} {m : MessageId} {j : JobId} {phase : WorkerPhase}
      (hproc : w.procs p = some (.worker m j phase))
      (hphase : phase = .locked ∨ phase.Executing) (hrow : w.rows j = none) :
      MissingRow settings env w (w.setProc p (.worker m j (.returning false)))
  /-- the transition that an error while waiting for the lock leads to matches no row -/
  | unexpectedWaiting {w : World} {p : ProcId} {m : MessageId} {j : JobId}
      (henv : env.mayFailWaiting w j) (hproc : w.procs p = some (.worker m j .waiting))
      (hrow : w.rows j = none) : MissingRow settings env w (w.setProc p (.worker m j .returned))
  /-- the guarded `UPDATE` of the failure callback matches no row -/
  | callBack {w : World} {p : ProcId} {m : MessageId} {j : JobId} (henv : env.mayCallBack w m)
      (hproc : w.procs p = some (.worker m j .raised)) (hrow : w.rows j = none) :
      MissingRow settings env w (w.setProc p (.worker m j .calledBack))
  /-- `session.refresh` raises under the lock: the lock is released and the pass ends -/
  | refresh {w : World} {p : ProcId} {now : Timestamp} {active : List JobId} {j : JobId}
      {rest : List PreviewJob} (hproc : w.procs p = some (.reconcile now active (.locked j rest)))
      (hrow : w.rows j = none) : MissingRow settings env w ((w.unlock p).setProc p .gone)
  | giveUp {w : World} {p : ProcId} {now : Timestamp} {active : List JobId} {j : JobId}
      {job : PreviewJob} {rest : List PreviewJob}
      (hproc : w.procs p = some (.reconcile now active (.decided j job rest)))
      (hdecision : decideRecovery settings now job = .fail) (hrow : w.rows j = none) :
      MissingRow settings env w (w.setProc p (.reconcile now active (.releasing j rest)))
  | requeue {w : World} {p : ProcId} {now : Timestamp} {active : List JobId} {j : JobId}
      {job : PreviewJob} {rest : List PreviewJob}
      (hproc : w.procs p = some (.reconcile now active (.decided j job rest)))
      (hdecision : decideRecovery settings now job = .requeue) (hrow : w.rows j = none) :
      MissingRow settings env w (w.setProc p (.reconcile now active (.transitioned j rest)))
  /-- the second `session.refresh` raises -/
  | refreshAgain {w : World} {p : ProcId} {now : Timestamp} {active : List JobId} {j : JobId}
      {rest : List PreviewJob}
      (hproc : w.procs p = some (.reconcile now active (.transitioned j rest)))
      (hrow : w.rows j = none) : MissingRow settings env w ((w.unlock p).setProc p .gone)

/-- A step of the job system, or a cleanup. -/
inductive RetainedStep (settings : Settings) (env : Environment) :
    RetainedWorld → RetainedWorld → Prop where
  /-- a step of the job system; `uuid4` draws no id twice -/
  | step {s : RetainedWorld} {w' : World} (hstep : Step settings env s.world w')
      (huuid : ∀ p j, s.world.procs p = none → w'.procs p = some (.submit j .locked) →
        ¬ s.deleted j) : RetainedStep settings env s ⟨w', s.deleted⟩
  | missing {s : RetainedWorld} {w' : World} (hstep : MissingRow settings env s.world w') :
      RetainedStep settings env s ⟨w', s.deleted⟩
  | cleanUp {s : RetainedWorld} (now : Timestamp) : RetainedStep settings env s (s.cleanUp now)

/-- The states that some interleaving with cleanups reaches. -/
def RetainedReachable (settings : Settings) (env : Environment) (s : RetainedWorld) : Prop :=
  ReflTransGen (RetainedStep settings env) .initial s

-- ============================================================================
-- The run without cleanups
-- ============================================================================

/-- The phase without its record of a refused claim: a row that is gone refuses every claim, and
    a hidden one need not. -/
def WorkerPhase.forget : WorkerPhase → WorkerPhase
  | .returning _ => .returning false
  | phase => phase

/-- The process without that record. -/
def Proc.forget : Proc → Proc
  | .worker m j phase => .worker m j phase.forget
  | proc => proc

/-- Nobody can tell the two apart: the second has the deleted rows, too. -/
structure Hidden (deleted : JobId → Prop) (w v : World) : Prop where
  rows : ∀ j, ¬ deleted j → w.rows j = v.rows j
  gone : ∀ j, deleted j → w.rows j = none ∧ v.rows j ≠ none
  messages : w.messages = v.messages
  locks : w.locks = v.locks
  procs : ∀ p, (w.procs p).map Proc.forget = (v.procs p).map Proc.forget

/-- What may happen beside the code does not depend on what is hidden; the database may fail. -/
structure Environment.Blind (env : Environment) : Prop where
  database : env.mayFailDatabase
  kill : ∀ {deleted w v p}, Hidden deleted w v → env.mayKill w p → env.mayKill v p
  redeliver : ∀ {deleted w v j}, Hidden deleted w v → env.mayRedeliver w j → env.mayRedeliver v j
  timeOut : ∀ {deleted w v j}, Hidden deleted w v → env.mayTimeOut w j → env.mayTimeOut v j
  failWaiting : ∀ {deleted w v j},
    Hidden deleted w v → env.mayFailWaiting w j → env.mayFailWaiting v j
  callBack : ∀ {deleted w v m}, Hidden deleted w v → env.mayCallBack w m → env.mayCallBack v m
  scan : ∀ {deleted w v active}, Hidden deleted w v → env.mayScan w active → env.mayScan v active

section Forget

theorem WorkerPhase.forget_eq {phase other : WorkerPhase} (h : other.forget = phase.forget) :
    other = phase ∨ ∃ r r', phase = .returning r ∧ other = .returning r' := by
  cases phase with
  | returning r =>
      cases other with
      | returning r' => exact .inr ⟨r, r', rfl, rfl⟩
      | _ => cases h
  | _ =>
      cases other with
      | returning r' => cases h
      | _ => exact .inl h

theorem Proc.forget_eq {proc other : Proc} (h : other.forget = proc.forget) :
    other = proc ∨
      ∃ m j r r', proc = .worker m j (.returning r) ∧ other = .worker m j (.returning r') := by
  cases proc with
  | worker m j phase =>
      cases other with
      | worker m' j' phase' =>
          simp only [Proc.forget, Proc.worker.injEq] at h
          obtain ⟨rfl, rfl, hphase⟩ := h
          rcases WorkerPhase.forget_eq hphase with rfl | ⟨r, r', rfl, rfl⟩
          · exact .inl rfl
          · exact .inr ⟨m', j', r, r', rfl, rfl⟩
      | _ => cases h
  | _ =>
      cases other with
      | worker m' j' phase' => cases h
      | _ => exact .inl h

theorem Proc.holds_forget (proc : Proc) : proc.forget.holds = proc.holds := by
  cases proc with
  | worker m j phase => cases phase <;> rfl
  | _ => rfl

/-- After its release a process has nothing left to forget. -/
theorem Proc.afterRelease_forget {proc other : Proc} (h : other.forget = proc.forget) :
    other.afterRelease = proc.afterRelease := by
  rcases Proc.forget_eq h with rfl | ⟨m, j, r, r', rfl, rfl⟩
  · rfl
  · rfl

end Forget

namespace Hidden

variable {deleted : JobId → Prop} {w v : World} {p : ProcId} {j : JobId}

theorem row (h : Hidden deleted w v) {row : PreviewJob} (hrow : w.rows j = some row) :
    ¬ deleted j ∧ v.rows j = some row := by
  have hkept : ¬ deleted j := fun hdeleted => by
    rw [(h.gone j hdeleted).1] at hrow
    cases hrow
  exact ⟨hkept, by rwa [← h.rows j hkept]⟩

theorem message (h : Hidden deleted w v) {m : MessageId} {message : Option Message}
    (hmessage : w.messages m = message) : v.messages m = message := by
  rwa [← h.messages]

theorem lock (h : Hidden deleted w v) {owner : Option ProcId} (hlock : w.locks j = owner) :
    v.locks j = owner := by
  rwa [← h.locks]

theorem proc_none (h : Hidden deleted w v) (hproc : w.procs p = none) : v.procs p = none := by
  have hforget := h.procs p
  rw [hproc] at hforget
  exact Option.map_eq_none_iff.mp hforget.symm

theorem proc_forget (h : Hidden deleted w v) {proc : Proc} (hproc : w.procs p = some proc) :
    ∃ other, v.procs p = some other ∧ other.forget = proc.forget := by
  have hforget := h.procs p
  rw [hproc] at hforget
  exact Option.map_eq_some_iff.mp hforget.symm

/-- A process that is not about to release the lock after an execution is the same in both. -/
theorem proc (h : Hidden deleted w v) {proc : Proc} (hproc : w.procs p = some proc)
    (hbusy : ∀ m j r, proc ≠ .worker m j (.returning r)) : v.procs p = some proc := by
  obtain ⟨other, hother, hforget⟩ := h.proc_forget hproc
  rcases Proc.forget_eq hforget with rfl | ⟨m, j, r, r', rfl, rfl⟩
  · exact hother
  · exact absurd rfl (hbusy m j r)

theorem submit (h : Hidden deleted w v) {phase : SubmitPhase}
    (hproc : w.procs p = some (.submit j phase)) : v.procs p = some (.submit j phase) :=
  h.proc hproc fun _ _ _ heq => by cases heq

theorem reconcile (h : Hidden deleted w v) {now : Timestamp} {active : List JobId}
    {phase : ReconcilePhase} (hproc : w.procs p = some (.reconcile now active phase)) :
    v.procs p = some (.reconcile now active phase) :=
  h.proc hproc fun _ _ _ heq => by cases heq

theorem worker (h : Hidden deleted w v) {m : MessageId} {phase : WorkerPhase}
    (hproc : w.procs p = some (.worker m j phase)) (hbusy : ∀ r, phase ≠ .returning r) :
    v.procs p = some (.worker m j phase) :=
  h.proc hproc fun _ _ r heq => hbusy r (Proc.worker.inj heq).2.2

theorem critical (h : Hidden deleted w v) {m : MessageId} {phase : WorkerPhase}
    (hproc : w.procs p = some (.worker m j phase)) (hphase : phase = .locked ∨ phase.Executing) :
    v.procs p = some (.worker m j phase) :=
  h.worker hproc fun r heq => by
    subst heq
    rcases hphase with hlocked | hexecuting
    · cases hlocked
    · exact hexecuting

-- The same write on both sides.

theorem setProc_forget (h : Hidden deleted w v) {proc other : Proc}
    (hforget : proc.forget = other.forget) :
    Hidden deleted (w.setProc p proc) (v.setProc p other) where
  rows := h.rows
  gone := h.gone
  messages := h.messages
  locks := h.locks
  procs q := by
    rw [World.setProc_procs, World.setProc_procs]
    split
    · rw [Option.map_some, Option.map_some, hforget]
    · exact h.procs q

theorem setProc (h : Hidden deleted w v) (proc : Proc) :
    Hidden deleted (w.setProc p proc) (v.setProc p proc) := h.setProc_forget rfl

theorem setMessage (h : Hidden deleted w v) (m : MessageId) (message : Message) :
    Hidden deleted (w.setMessage m message) (v.setMessage m message) where
  rows := h.rows
  gone := h.gone
  messages := by
    unfold World.setMessage
    rw [h.messages]
  locks := h.locks
  procs := h.procs

theorem setLock (h : Hidden deleted w v) (j : JobId) (p : ProcId) :
    Hidden deleted (w.lock j p) (v.lock j p) where
  rows := h.rows
  gone := h.gone
  messages := h.messages
  locks := by
    unfold World.lock
    rw [h.locks]
  procs := h.procs

theorem unlock (h : Hidden deleted w v) (p : ProcId) :
    Hidden deleted (w.unlock p) (v.unlock p) where
  rows := h.rows
  gone := h.gone
  messages := h.messages
  locks := by
    unfold World.unlock
    rw [h.locks]
  procs := h.procs

theorem setRow (h : Hidden deleted w v) (hkept : ¬ deleted j) (row : PreviewJob) :
    Hidden deleted (w.setRow j row) (v.setRow j row) where
  rows k hk := by
    rw [World.setRow_rows, World.setRow_rows, h.rows k hk]
  gone k hk := by
    have hne : k ≠ j := fun heq => hkept (heq ▸ hk)
    rw [World.setRow_rows, World.setRow_rows, if_neg hne, if_neg hne]
    exact h.gone k hk
  messages := h.messages
  locks := h.locks
  procs := h.procs

/-- A write of a row that is hidden. -/
theorem setHidden (h : Hidden deleted w v) (hdeleted : deleted j) (row : PreviewJob) :
    Hidden deleted w (v.setRow j row) where
  rows k hk := by
    have hne : k ≠ j := fun heq => hk (heq ▸ hdeleted)
    rw [World.setRow_rows, if_neg hne, h.rows k hk]
  gone k hk := by
    refine ⟨(h.gone k hk).1, ?_⟩
    rw [World.setRow_rows]
    split
    · exact Option.some_ne_none row
    · exact (h.gone k hk).2
  messages := h.messages
  locks := h.locks
  procs := h.procs

end Hidden

-- ============================================================================
-- The simulation
-- ============================================================================

section Steps

variable {settings : Settings} {env : Environment} {deleted : JobId → Prop} {w w' v : World}

/-- A step of the job system is the same step with the deleted rows still there.  Only the claim
    of a job without a row is another one: with the row it fails. -/
theorem hidden_step (hblind : env.Blind) (hstep : Step settings env w w') (hv : v.WellFormed)
    (h : Hidden deleted w v)
    (huuid : ∀ p j, w.procs p = none → w'.procs p = some (.submit j .locked) → ¬ deleted j) :
    ∃ v', Step settings env v v' ∧ Hidden deleted w' v' := by
  cases hstep with
  | @submit p j hproc hfresh hlock =>
      have hkept : ¬ deleted j := huuid p j hproc (by rw [World.setProc_procs, if_pos rfl])
      have hfresh' : v.rows j = none := by rwa [← h.rows j hkept]
      exact ⟨_, .submit (h.proc_none hproc) hfresh' (h.lock hlock), (h.setLock j p).setProc _⟩
  | @create p j userId strategyText strategyName now hproc =>
      have hproc' := h.submit hproc
      have hkept : ¬ deleted j := fun hdeleted =>
        (h.gone j hdeleted).2 (hv.submissionsFresh.1 p j hproc')
      exact ⟨_, .create userId strategyText strategyName now hproc',
        (h.setRow hkept _).setProc _⟩
  | enqueue hproc hfresh =>
      exact ⟨_, .enqueue (h.submit hproc) (h.message hfresh), (h.setMessage _ _).setProc _⟩
  | enqueueFails now henv hproc hrow =>
      obtain ⟨hkept, hrow'⟩ := h.row hrow
      exact ⟨_, .enqueueFails now henv (h.submit hproc) hrow', (h.setRow hkept _).setProc _⟩
  | submitFails henv hproc => exact ⟨_, .submitFails henv (h.submit hproc), h.setProc _⟩
  | deliver hproc hmessage hqueued =>
      exact ⟨_, .deliver (h.proc_none hproc) (h.message hmessage) hqueued,
        (h.setMessage _ _).setProc _⟩
  | acquire hproc hlock =>
      have hproc' := h.worker hproc fun _ heq => by cases heq
      exact ⟨_, .acquire hproc' (h.lock hlock), (h.setLock _ _).setProc _⟩
  | timeOut henv hproc hlock =>
      have hproc' := h.worker hproc fun _ heq => by cases heq
      exact ⟨_, .timeOut (hblind.timeOut h henv) hproc' (h.lock hlock), h.setProc _⟩
  | unexpected now hproc hphase hrow =>
      obtain ⟨hkept, hrow'⟩ := h.row hrow
      exact ⟨_, .unexpected now (h.critical hproc hphase) hphase hrow',
        (h.setRow hkept _).setProc _⟩
  | unpersisted henv hproc hphase =>
      exact ⟨_, .unpersisted henv (h.critical hproc hphase) hphase, h.setProc _⟩
  | unexpectedWaiting now henv hproc hrow =>
      obtain ⟨hkept, hrow'⟩ := h.row hrow
      have hproc' := h.worker hproc fun _ heq => by cases heq
      exact ⟨_, .unexpectedWaiting now (hblind.failWaiting h henv) hproc' hrow',
        (h.setRow hkept _).setProc _⟩
  | unpersistedWaiting henv hproc =>
      have hproc' := h.worker hproc fun _ heq => by cases heq
      exact ⟨_, .unpersistedWaiting henv hproc', h.setProc _⟩
  | claim now hproc hmessage hrow hclaim =>
      obtain ⟨hkept, hrow'⟩ := h.row hrow
      exact ⟨_, .claim now (h.critical hproc (.inl rfl)) (h.message hmessage) hrow' hclaim,
        (h.setRow hkept _).setProc _⟩
  | @refuse p m j message now hproc hmessage hclaim =>
      have hproc' := h.critical hproc (.inl rfl)
      by_cases hdeleted : deleted j
      · exact ⟨_, .unpersisted hblind.database hproc' (.inl rfl), h.setProc_forget rfl⟩
      · refine ⟨_, .refuse now hproc' (h.message hmessage) fun row hrow => ?_, h.setProc _⟩
        rw [← h.rows j hdeleted] at hrow
        exact hclaim row hrow
  | load hproc hrow =>
      exact ⟨_, .load (h.critical hproc (.inr trivial)) (h.row hrow).2, h.setProc _⟩
  | progress hproc hrow =>
      obtain ⟨hkept, hrow'⟩ := h.row hrow
      exact ⟨_, .progress (h.critical hproc (.inr trivial)) hrow', (h.setRow hkept _).setProc _⟩
  | complete result now hproc hrow =>
      obtain ⟨hkept, hrow'⟩ := h.row hrow
      exact ⟨_, .complete result now (h.critical hproc (.inr trivial)) hrow',
        (h.setRow hkept _).setProc _⟩
  | fail error now hproc hrow =>
      obtain ⟨hkept, hrow'⟩ := h.row hrow
      exact ⟨_, .fail error now (h.critical hproc (.inr trivial)) hrow',
        (h.setRow hkept _).setProc _⟩
  | raise hproc => exact ⟨_, .raise (h.critical hproc (.inr trivial)), h.setProc _⟩
  | raiseLocked henv hproc hphase =>
      exact ⟨_, .raiseLocked henv (h.critical hproc hphase) hphase, h.setProc _⟩
  | raiseWaiting henv hproc =>
      have hproc' := h.worker hproc fun _ heq => by cases heq
      exact ⟨_, .raiseWaiting henv hproc', h.setProc _⟩
  | release hproc hafter =>
      obtain ⟨other, hproc', hforget⟩ := h.proc_forget hproc
      rw [← Proc.afterRelease_forget hforget] at hafter
      exact ⟨_, .release hproc' hafter, (h.unlock _).setProc _⟩
  | acknowledge hproc hmessage =>
      have hproc' := h.worker hproc fun _ heq => by cases heq
      exact ⟨_, .acknowledge hproc' (h.message hmessage), (h.setMessage _ _).setProc _⟩
  | callBack now henv hproc hmessage hrow =>
      obtain ⟨hkept, hrow'⟩ := h.row hrow
      have hproc' := h.worker hproc fun _ heq => by cases heq
      exact ⟨_, .callBack now (hblind.callBack h henv) hproc' (h.message hmessage) hrow',
        (h.setRow hkept _).setProc _⟩
  | callBackFails henv hproc =>
      have hproc' := h.worker hproc fun _ heq => by cases heq
      exact ⟨_, .callBackFails henv hproc', h.setProc _⟩
  | reschedule hproc hmessage =>
      have hproc' := h.worker hproc fun _ heq => by cases heq
      exact ⟨_, .reschedule hproc' (h.message hmessage), (h.setMessage _ _).setProc _⟩
  | due hmessage hscheduled =>
      exact ⟨_, .due (h.message hmessage) hscheduled, h.setMessage _ _⟩
  | scan now hscan hproc =>
      exact ⟨_, .scan now (hblind.scan h hscan) (h.proc_none hproc), h.setProc _⟩
  | list candidates hproc hlimit hcandidates =>
      exact ⟨_, .list candidates (h.reconcile hproc) hlimit fun job hjob =>
        ⟨(h.row (hcandidates job hjob).1).2, (hcandidates job hjob).2⟩, h.setProc _⟩
  | skip hproc hskip =>
      exact ⟨_, .skip (h.reconcile hproc) (by rwa [← h.locks]), h.setProc _⟩
  | lockCandidate hproc hexamine hlock =>
      exact ⟨_, .lockCandidate (h.reconcile hproc) hexamine (h.lock hlock),
        (h.setLock _ _).setProc _⟩
  | refresh hproc hrow =>
      exact ⟨_, .refresh (h.reconcile hproc) (h.row hrow).2, h.setProc _⟩
  | rescan hscan hproc =>
      exact ⟨_, .rescan (hblind.scan h hscan) (h.reconcile hproc), h.setProc _⟩
  | rescanFails hproc =>
      exact ⟨_, .rescanFails (h.reconcile hproc), (h.unlock _).setProc _⟩
  | reconcileFails henv hproc =>
      exact ⟨_, .reconcileFails henv (h.reconcile hproc), (h.unlock _).setProc _⟩
  | giveUp completedAt hproc hdecision hrow =>
      obtain ⟨hkept, hrow'⟩ := h.row hrow
      exact ⟨_, .giveUp completedAt (h.reconcile hproc) hdecision hrow',
        (h.setRow hkept _).setProc _⟩
  | leave hproc hdecision => exact ⟨_, .leave (h.reconcile hproc) hdecision, h.setProc _⟩
  | requeue completedAt hproc hdecision hrow =>
      obtain ⟨hkept, hrow'⟩ := h.row hrow
      exact ⟨_, .requeue completedAt (h.reconcile hproc) hdecision hrow',
        (h.setRow hkept _).setProc _⟩
  | refreshAgain hproc hrow =>
      exact ⟨_, .refreshAgain (h.reconcile hproc) (h.row hrow).2, h.setProc _⟩
  | decideEnqueue hproc hdecision =>
      exact ⟨_, .decideEnqueue (h.reconcile hproc) hdecision, h.setProc _⟩
  | recover hproc hfresh =>
      exact ⟨_, .recover (h.reconcile hproc) (h.message hfresh), (h.setMessage _ _).setProc _⟩
  | kill henv hproc =>
      obtain ⟨other, hproc', -⟩ := h.proc_forget hproc
      exact ⟨_, .kill (hblind.kill h henv) hproc', (h.unlock _).setProc _⟩
  | abandon hproc hfresh hmessage hstarted =>
      have hproc' := h.proc hproc fun _ _ _ heq => by cases heq
      exact ⟨_, .abandon hproc' (h.proc_none hfresh) (h.message hmessage) hstarted,
        (h.setMessage _ _).setProc _⟩
  | redeliver retriesLeft henv hmessage hfresh =>
      exact ⟨_, .redeliver retriesLeft (hblind.redeliver h henv) (h.message hmessage)
        (h.message hfresh), h.setMessage _ _⟩

/-- The row that a process misses is one that was deleted. -/
theorem Hidden.missing {j : JobId} (h : Hidden deleted w v) {row : PreviewJob}
    (hrow : w.rows j = none) (hrow' : v.rows j = some row) : deleted j := by
  by_contra hkept
  rw [h.rows j hkept, hrow'] at hrow
  cases hrow

/-- What a process does about a missing row is a failure with the row still there, or a write of
    the hidden row. -/
theorem hidden_missing (hblind : env.Blind) (hstep : MissingRow settings env w w')
    (hv : v.WellFormed) (h : Hidden deleted w v) :
    ∃ v', Step settings env v v' ∧ Hidden deleted w' v' := by
  cases hstep with
  | enqueueFails henv hproc hrow =>
      exact ⟨_, .submitFails hblind.database (h.submit hproc), h.setProc _⟩
  | unexpected hproc hphase hrow =>
      exact ⟨_, .unpersisted hblind.database (h.critical hproc hphase) hphase, h.setProc _⟩
  | unexpectedWaiting henv hproc hrow =>
      have hproc' := h.worker hproc fun _ heq => by cases heq
      exact ⟨_, .unpersistedWaiting hblind.database hproc', h.setProc _⟩
  | callBack henv hproc hrow =>
      have hproc' := h.worker hproc fun _ heq => by cases heq
      exact ⟨_, .callBackFails hblind.database hproc', h.setProc _⟩
  | refresh hproc hrow =>
      exact ⟨_, .reconcileFails (.inl hblind.database) (h.reconcile hproc), (h.unlock _).setProc _⟩
  | @giveUp p now active j job rest hproc hdecision hrow =>
      obtain ⟨row, hrow'⟩ := hv.recoveriesHaveRows.2.1 _ _ _ _ _ _ (h.reconcile hproc)
      exact ⟨_, .giveUp now (h.reconcile hproc) hdecision hrow',
        (h.setHidden (h.missing hrow hrow') _).setProc _⟩
  | @requeue p now active j job rest hproc hdecision hrow =>
      obtain ⟨row, hrow'⟩ := hv.recoveriesHaveRows.2.1 _ _ _ _ _ _ (h.reconcile hproc)
      exact ⟨_, .requeue now (h.reconcile hproc) hdecision hrow',
        (h.setHidden (h.missing hrow hrow') _).setProc _⟩
  | refreshAgain hproc hrow =>
      exact ⟨_, .reconcileFails (.inl hblind.database) (h.reconcile hproc), (h.unlock _).setProc _⟩

end Steps

section CleanUp

variable {s : RetainedWorld} {v : World} {now : Timestamp} {j : JobId}

theorem deleted_of_expired {row : PreviewJob} (hrow : s.world.rows j = some row)
    (hexpired : pastExpiry now row = true) : (s.cleanUp now).deleted j := .inr ⟨row, hrow, hexpired⟩

theorem cleanUp_rows_of_deleted (h : (s.cleanUp now).deleted j) (hgone : s.deleted j →
    s.world.rows j = none) : (s.cleanUp now).world.rows j = none := by
  show (s.world.rows j).filter _ = none
  rcases h with hdeleted | ⟨row, hrow, hexpired⟩
  · rw [hgone hdeleted, Option.filter_none]
  · rw [hrow, Option.filter_some, hexpired]
    rfl

theorem cleanUp_rows_of_kept (h : ¬ (s.cleanUp now).deleted j) :
    (s.cleanUp now).world.rows j = s.world.rows j := by
  show (s.world.rows j).filter _ = _
  cases hrow : s.world.rows j with
  | none => rfl
  | some row =>
      have hkept : pastExpiry now row = false := by
        rw [← Bool.not_eq_true]
        exact fun hexpired => h (.inr ⟨row, hrow, hexpired⟩)
      rw [Option.filter_some, hkept]
      rfl

/-- A cleanup is not a step: it hides more rows. -/
theorem hidden_cleanUp (now : Timestamp) (h : Hidden s.deleted s.world v) :
    Hidden (s.cleanUp now).deleted (s.cleanUp now).world v where
  rows j hkept := by
    rw [cleanUp_rows_of_kept hkept]
    exact h.rows j fun hdeleted => hkept (.inl hdeleted)
  gone j hdeleted := by
    refine ⟨cleanUp_rows_of_deleted hdeleted fun hbefore => (h.gone j hbefore).1, ?_⟩
    rcases hdeleted with hbefore | ⟨row, hrow, -⟩
    · exact (h.gone j hbefore).2
    · rw [(h.row hrow).2]
      exact Option.some_ne_none row
  messages := h.messages
  locks := h.locks
  procs := h.procs

end CleanUp

-- ============================================================================
-- Runs with cleanups
-- ============================================================================

section Runs

variable {settings : Settings} {env : Environment} {s s' : RetainedWorld} {v : World}

theorem hidden_initial :
    Hidden RetainedWorld.initial.deleted RetainedWorld.initial.world .initial where
  rows _ _ := rfl
  gone _ hdeleted := hdeleted.elim
  messages := rfl
  locks := rfl
  procs _ := rfl

theorem hidden_retainedStep (hblind : env.Blind) (hstep : RetainedStep settings env s s')
    (hv : v.WellFormed) (h : Hidden s.deleted s.world v) :
    ∃ v', ReflGen (Step settings env) v v' ∧ Hidden s'.deleted s'.world v' := by
  cases hstep with
  | step hstep huuid =>
      obtain ⟨v', hstep', h'⟩ := hidden_step hblind hstep hv h huuid
      exact ⟨v', .single hstep', h'⟩
  | missing hstep =>
      obtain ⟨v', hstep', h'⟩ := hidden_missing hblind hstep hv h
      exact ⟨v', .single hstep', h'⟩
  | cleanUp now => exact ⟨v, .refl, hidden_cleanUp now h⟩

/-- A run with cleanups continues as a run without. -/
theorem hidden_run (hblind : env.Blind) (hrun : ReflTransGen (RetainedStep settings env) s s')
    (hv : Reachable settings env v) (h : Hidden s.deleted s.world v) :
    ∃ v', ReflTransGen (Step settings env) v v' ∧ Hidden s'.deleted s'.world v' :=
  Transition.simulate (R := fun s v => Hidden s.deleted s.world v)
    (fun _ => Reachable.wellFormed) (fun _ _ _ => hidden_retainedStep hblind) hrun hv h

theorem RetainedReachable.hidden (hblind : env.Blind) (hrun : RetainedReachable settings env s) :
    ∃ v, Reachable settings env v ∧ Hidden s.deleted s.world v :=
  hidden_run hblind hrun .refl hidden_initial

end Runs

-- ============================================================================
-- What outlives the cleanup
-- ============================================================================

theorem exactScans_blind : exactScans.Blind where
  database := trivial
  kill _ h := h
  redeliver _ h := h
  timeOut _ h := h
  failWaiting _ h := h
  callBack _ h := h
  scan h hscan := fun j => by
    rw [hscan j, World.HasLiveMessage, World.HasLiveMessage, h.messages]

namespace Hidden

variable {settings : Settings} {deleted : JobId → Prop} {w v : World}

/-- A worker between its claim and its last write is one in both. -/
theorem executing (h : Hidden deleted w v) (j : JobId) : w.Executing j ↔ v.Executing j := by
  constructor
  · rintro ⟨p, m, phase, hproc, hphase⟩
    exact ⟨p, m, phase, h.critical hproc (.inr hphase), hphase⟩
  · rintro ⟨p, m, phase, hproc, hphase⟩
    have hforget := h.procs p
    rw [hproc] at hforget
    obtain ⟨proc, hproc', hsame⟩ := Option.map_eq_some_iff.mp hforget
    rcases Proc.forget_eq hsame.symm with rfl | ⟨m', j', r, r', rfl, hworker⟩
    · exact ⟨p, m, phase, hproc', hphase⟩
    · obtain ⟨-, -, rfl⟩ := Proc.worker.inj hworker
      exact hphase.elim

theorem locksHeld (h : Hidden deleted w v) (hv : v.LocksHeld) : w.LocksHeld := by
  intro p j
  have hholds : (w.procs p).bind Proc.holds = (v.procs p).bind Proc.holds := by
    have hforget := congrArg (Option.bind · Proc.holds) (h.procs p)
    simp only [Option.bind_map, Function.comp_def, Proc.holds_forget] at hforget
    exact hforget
  rw [h.locks, hholds]
  exact hv p j

theorem oneLiveMessage (h : Hidden deleted w v) (hv : v.OneLiveMessage) : w.OneLiveMessage := by
  unfold World.OneLiveMessage
  rw [h.messages]
  exact hv

theorem executionsLeft (h : Hidden deleted w v) (message : Message) :
    w.executionsLeft message = v.executionsLeft message := by
  have hawaits : ∀ p, (w.procs p).any Proc.awaitsClaim = (v.procs p).any Proc.awaitsClaim := by
    intro p
    cases hproc : w.procs p with
    | none => rw [h.proc_none hproc]
    | some proc =>
        obtain ⟨other, hother, hforget⟩ := h.proc_forget hproc
        rw [hother]
        rcases Proc.forget_eq hforget with rfl | ⟨m, j, r, r', rfl, rfl⟩
        · rfl
        · rfl
  unfold World.executionsLeft
  split
  · rfl
  · rfl
  · rw [hawaits]
  · rfl
  · rfl

theorem withinBudget (h : Hidden deleted w v) (hv : v.WithinBudget settings) :
    w.WithinBudget settings := by
  intro m message row hmessage hlive hrow
  rw [h.executionsLeft]
  exact hv m message row (h.message hmessage) hlive (h.row hrow).2

theorem attemptsBounded (h : Hidden deleted w v) (hv : v.AttemptsBounded settings) :
    w.AttemptsBounded settings := fun j row hrow => hv j row (h.row hrow).2

end Hidden

/-- Whenever the cleanup runs: the locks stay exclusive, a job has one live message, its attempts
    and what the message has left are within the budget, a deleted job has no row, and a run
    without cleanups reaches a state that differs by the deleted rows only. -/
theorem retention_budget {settings : Settings} {s : RetainedWorld}
    (hrun : RetainedReachable settings exactScans s) :
    s.world.LocksHeld ∧ s.world.OneLiveMessage ∧ s.world.WithinBudget settings ∧
      s.world.AttemptsBounded settings ∧ (∀ j, s.deleted j → s.world.rows j = none) ∧
      ∃ v, Reachable settings exactScans v ∧ Hidden s.deleted s.world v := by
  obtain ⟨v, hreached, h⟩ := hrun.hidden exactScans_blind
  have hbudgeted := Reachable.budgeted hreached
  exact ⟨h.locksHeld (Reachable.wellFormed hreached).locksHeld,
    h.oneLiveMessage hbudgeted.oneLiveMessage, h.withinBudget hbudgeted.withinBudget,
    h.attemptsBounded hbudgeted.attemptsBounded, fun j hdeleted => (h.gone j hdeleted).1,
    v, hreached, h⟩

/-- A step before the first cleanup. -/
theorem RetainedReachable.tail_step {settings : Settings} {env : Environment} {w w' : World}
    (hrun : RetainedReachable settings env ⟨w, fun _ => False⟩) (hstep : Step settings env w w') :
    RetainedReachable settings env ⟨w', fun _ => False⟩ :=
  hrun.tail (.step hstep fun _ _ _ _ => not_false)

/-- The row expires under the worker that executes the job: its claim is on record, and its next
    write finds no row. -/
theorem retention_budget_executing :
    ∃ s, RetainedReachable defaultSettings exactScans s ∧ s.deleted 0 ∧
      s.world.procs 1 = some (.worker 0 0 (.returning false)) ∧ s.world.rows 0 = none ∧
      s.world.OneLiveMessage := by
  have run : RetainedReachable defaultSettings exactScans ⟨_, fun _ => False⟩ :=
    RetainedReachable.tail_step .refl (.submit (p := 0) (j := 0) rfl rfl rfl)
  have run := run.tail_step (.create (p := 0) "user" "buy the dip" none 0 rfl)
  have run := run.tail_step (.enqueue (p := 0) (m := 0) rfl rfl)
  have run := run.tail_step (.release (p := 0) rfl rfl)
  have run := run.tail_step (.deliver (p := 1) (m := 0) rfl rfl rfl)
  have run := run.tail_step (.acquire (p := 1) rfl rfl)
  have run := run.tail_step (.claim (p := 1) 1 rfl rfl rfl rfl)
  have run := run.tail_step (.load (p := 1) rfl rfl)
  have run := run.tail (.cleanUp 100000000000)
  have run := run.tail (.missing (.unexpected (p := 1) rfl (.inr trivial) rfl))
  have hsafe := retention_budget run
  exact ⟨_, run, deleted_of_expired rfl (by decide), rfl,
    hsafe.2.2.2.2.1 0 (deleted_of_expired rfl (by decide)), hsafe.2.1⟩

end Jobs
end TradingPlatform
