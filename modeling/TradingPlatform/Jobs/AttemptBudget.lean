/-
  TradingPlatform.Jobs.AttemptBudget

  Attempts are bounded across crashes and recoveries.

  The budget is kept twice: as `attempt_count` in the row and as `retries_left`
  in the message.  A recovery makes a new message from what the row has left.
  If a scan shows every live message, the second scan under the lock makes a
  recovery's message the only live one, and what the row has spent and what the
  live message may still spend never exceed `max_retries + 1` together.
-/

import TradingPlatform.Jobs.Structure

namespace TradingPlatform
namespace Jobs

open Queue

-- ============================================================================
-- The environment and the claim
-- ============================================================================

/-- Workers, submissions and passes die at any point, databases and queues fail, waits time
    out; RQ does not deliver twice, and a scan shows exactly the jobs with a live message. -/
def exactScans : Environment where
  mayKill _ _ := True
  mayRedeliver _ _ := False
  mayRefuseEnqueue := True
  mayFailDatabase := True
  mayTimeOut _ _ := True
  mayFailWaiting _ _ := True
  mayCallBack _ _ := True
  mayScan w active := ∀ j, j ∈ active ↔ w.HasLiveMessage j

/-- The worker has not yet tried its claim. -/
def Proc.awaitsClaim : Proc → Bool
  | .worker _ _ .waiting | .worker _ _ .locked => true
  | _ => false

attribute [grind =] Proc.awaitsClaim

namespace World

/-- How many executions the message may still have, the one under way not counted once it has
    been claimed. -/
def executionsLeft (w : World) (message : Message) : Nat :=
  match message.location with
  | .queued | .scheduled => message.retriesLeft.getD 0 + 1
  | .started p =>
      if (w.procs p).any Proc.awaitsClaim then message.retriesLeft.getD 0 + 1
      else message.retriesLeft.getD 0
  | .finished | .failed => 0

/-- Two live messages of one job are the same. -/
def OneLiveMessage (w : World) : Prop :=
  ∀ m n message other, w.messages m = some message → w.messages n = some other →
    message.Live → other.Live → message.jobId = other.jobId → m = n

/-- What a row has spent and its live message may still spend is within the budget. -/
def WithinBudget (settings : Settings) (w : World) : Prop :=
  ∀ m message row, w.messages m = some message → message.Live →
    w.rows message.jobId = some row →
      row.attemptCount + w.executionsLeft message ≤ settings.maxRetries + 1

/-- No row has had more executions than its first and its retries. -/
def AttemptsBounded (settings : Settings) (w : World) : Prop :=
  ∀ j row, w.rows j = some row → row.attemptCount ≤ settings.maxRetries + 1

/-- The `retry_count` of every pass about to enqueue is at least 0. -/
def RetryCountsNonnegative (settings : Settings) (w : World) : Prop :=
  ∀ p now active j job rest, w.procs p = some (.reconcile now active (.enqueueing j job rest)) →
    0 ≤ recoveryRetryCount settings job

/-- No message of the job will be delivered again. -/
def NoLiveMessage (w : World) (j : JobId) : Prop :=
  ∀ m message, w.messages m = some message → message.jobId = j → ¬ message.Live

/-- The row, if there is one, has had that many attempts. -/
def Spent (w : World) (j : JobId) (attempts : Nat) : Prop :=
  ∀ row, w.rows j = some row → row.attemptCount = attempts

/-- From its second scan on, a pass works on a job without a live message; the attempts it has
    read are the row's, and before the enqueue they leave at least one. -/
structure RecoveriesExclusive (settings : Settings) (w : World) : Prop where
  refreshed : ∀ p now active j job rest,
    w.procs p = some (.reconcile now active (.refreshed j job rest)) → w.Spent j job.attemptCount
  decided : ∀ p now active j job rest,
    w.procs p = some (.reconcile now active (.decided j job rest)) →
      w.NoLiveMessage j ∧ w.Spent j job.attemptCount
  transitioned : ∀ p now active j rest,
    w.procs p = some (.reconcile now active (.transitioned j rest)) →
      w.NoLiveMessage j ∧ ∃ attempts ≤ settings.maxRetries, w.Spent j attempts
  enqueueing : ∀ p now active j job rest,
    w.procs p = some (.reconcile now active (.enqueueing j job rest)) →
      w.NoLiveMessage j ∧ job.attemptCount ≤ settings.maxRetries ∧ w.Spent j job.attemptCount

end World

/-- Only an unexhausted row is recovered. -/
theorem attemptCount_le_of_decideRecovery {settings : Settings} {now : Timestamp}
    {job : PreviewJob} (h : decideRecovery settings now job ≠ .fail) :
    job.attemptCount ≤ settings.maxRetries := by
  unfold decideRecovery exhausted at h
  by_contra hover
  rw [if_pos (Or.inl (by simp; omega))] at h
  exact h rfl

section Steps

variable {settings : Settings} {env : Environment} {w w' : World}

/-- Only a claim, under the lock, adds an attempt. -/
theorem attempts_before (hstep : Step settings exactScans w w') (hw : w.WellFormed) {j : JobId}
    {row : PreviewJob} (hrow : w'.rows j = some row) :
    (∃ before, w.rows j = some before ∧ row.attemptCount = before.attemptCount) ∨
    (w.rows j = none ∧ row.attemptCount = 0) ∨
    (∃ p m before, w.procs p = some (.worker m j .locked) ∧
      w'.procs p = some (.worker m j .claimed) ∧ w'.messages m = w.messages m ∧
      w.rows j = some before ∧ row.attemptCount = before.attemptCount + 1) := by
  rcases row_before hstep hrow with hsame | hwrite
  · exact Or.inl ⟨row, hsame, rfl⟩
  · cases hwrite with
    | inserted p _ _ _ _ hproc _ => exact Or.inr (Or.inl ⟨hw.submissionsFresh.1 p j hproc, rfl⟩)
    | unqueued p job stored now hproc _ hstored =>
        exact Or.inl ⟨stored, hstored, flush_failJob_attemptCount ..⟩
    | claimed p m _ now stored _ hproc hafter hstored hclaim =>
        exact Or.inr (Or.inr ⟨p, m, stored, hproc, hafter,
          message_of_worker hstep hw.workersStarted hproc hafter, hstored,
          (claimJob_eq_some hclaim).2.2⟩)
    | written p m job value stored steps hproc _ hstored hwrite =>
        exact Or.inl ⟨stored, hstored, hwrite.attemptCount stored⟩
    | gaveUp p m phase now stored hproc hphase _ hstored =>
        exact Or.inl ⟨stored, hstored, transition_attemptCount ..⟩
    | failedWaiting p m now stored henv hproc hstored =>
        exact Or.inl ⟨stored, hstored, transition_attemptCount ..⟩
    | calledBack p m message now stored henv hproc hmessage hstored =>
        exact Or.inl ⟨stored, hstored, transition_attemptCount ..⟩
    | reconciled p now active job stored rest retry error completedAt hproc hstored =>
        exact Or.inl ⟨stored, hstored, transition_attemptCount ..⟩

/-- A live message was live before, or has just been enqueued by a submission or a recovery. -/
theorem live_before (hstep : Step settings exactScans w w') (hw : w.WellFormed) {m : MessageId}
    {message : Message} (hmessage : w'.messages m = some message) (hlive : message.Live) :
    (∃ before, w.messages m = some before ∧ before.Live ∧ before.jobId = message.jobId) ∨
    (∃ p job, w.messages m = none ∧ w.procs p = some (.submit message.jobId (.created job)) ∧
      message = ⟨message.jobId, enqueueRetries settings.maxRetries none, .queued⟩) ∨
    (∃ p now active job rest, w.messages m = none ∧
      w.procs p = some (.reconcile now active (.enqueueing message.jobId job rest)) ∧
      w'.procs p = some (.reconcile now (message.jobId :: active)
        (.releasing message.jobId rest)) ∧
      message = ⟨message.jobId, enqueueRetries settings.maxRetries
        (some (recoveryRetryCount settings job)), .queued⟩) := by
  have hworkers := hw.workersStarted
  unfold World.WorkersStarted Message.Live at *
  cases hstep with
  | redeliver _ henv _ _ => exact False.elim henv
  | _ => grind [Message.afterFailure_jobId]

section Recovery

variable {p : ProcId} {now : Timestamp} {active : List JobId} {phase : ReconcilePhase}
  {j : JobId}

/-- Under the lock of a pass, the attempts of its job stay. -/
theorem spent_stays (hstep : Step settings exactScans w w') (hw : w.WellFormed)
    (hproc : w.procs p = some (.reconcile now active phase))
    (hholds : (Proc.reconcile now active phase).holds = some j)
    (hrow : ∃ row, w.rows j = some row) {attempts : Nat} (h : w.Spent j attempts) :
    w'.Spent j attempts := by
  intro row hafter
  rcases attempts_before hstep hw hafter with
    ⟨before, hbefore, hcount⟩ | ⟨hnone, -⟩ | ⟨q, m, before, hworker, -⟩
  · rw [hcount]
    exact h before hbefore
  · obtain ⟨stored, hstored⟩ := hrow
    rw [hnone] at hstored
    cases hstored
  · have hsame : p = q := hw.locksHeld.exclusive hproc hworker hholds rfl
    rw [hsame, hworker] at hproc
    cases hproc

/-- Under the lock of a pass, only its own enqueue makes a live message. -/
theorem noLiveMessage_stays (hstep : Step settings exactScans w w') (hw : w.WellFormed)
    (hproc : w.procs p = some (.reconcile now active phase))
    (hholds : (Proc.reconcile now active phase).holds = some j) (h : w.NoLiveMessage j) :
    w'.NoLiveMessage j ∨ ∃ rest,
      w'.procs p = some (.reconcile now (j :: active) (.releasing j rest)) := by
  by_contra hneither
  obtain ⟨hlive, hstays⟩ := not_or.mp hneither
  refine hlive ?_
  rintro m message hmessage rfl hmessageLive
  rcases live_before hstep hw hmessage hmessageLive with
    ⟨before, hbefore, hbeforeLive, hjob⟩ | ⟨q, job, -, hsubmit, -⟩ |
    ⟨q, now', active', job, rest, -, hrecovery, hreleasing, -⟩
  · exact h m before hbefore hjob hbeforeLive
  · have hsame : p = q := hw.locksHeld.exclusive hproc hsubmit hholds rfl
    rw [hsame, hsubmit] at hproc
    cases hproc
  · have hsame : p = q := hw.locksHeld.exclusive hproc hrecovery hholds rfl
    rw [← hsame] at hrecovery hreleasing
    rw [hproc] at hrecovery
    cases hrecovery
    exact hstays ⟨rest, hreleasing⟩

end Recovery

theorem spent_of_row {j : JobId} {row : PreviewJob} (hrow : w.rows j = some row) :
    w.Spent j row.attemptCount := by
  intro stored hstored
  rw [hrow] at hstored
  cases hstored
  rfl

theorem refreshed_step (hstep : Step settings exactScans w w') (hw : w.WellFormed)
    (h : w.RecoveriesExclusive settings) :
    ∀ p now active j job rest, w'.procs p = some (.reconcile now active (.refreshed j job rest)) →
      w'.Spent j job.attemptCount := by
  intro p now active j job rest hproc
  rcases refreshed_before hstep hproc with hbefore | ⟨-, hafter⟩
  · exact spent_stays hstep hw hbefore rfl (hw.recoveriesHaveRows.1 _ _ _ _ _ _ hbefore)
      (h.refreshed _ _ _ _ _ _ hbefore)
  · exact spent_of_row hafter

/-- A pass that has not enqueued still works on a job without a live message. -/
theorem noLiveMessage_step (hstep : Step settings exactScans w w') (hw : w.WellFormed)
    {p : ProcId} {now : Timestamp} {active active' : List JobId} {phase phase' : ReconcilePhase}
    {j : JobId} (hproc : w.procs p = some (.reconcile now active phase))
    (hholds : (Proc.reconcile now active phase).holds = some j)
    (hafter : w'.procs p = some (.reconcile now active' phase'))
    (hphase : ∀ rest, phase' ≠ .releasing j rest) (h : w.NoLiveMessage j) :
    w'.NoLiveMessage j := by
  rcases noLiveMessage_stays hstep hw hproc hholds h with hnone | ⟨rest, hreleasing⟩
  · exact hnone
  · rw [hafter] at hreleasing
    cases hreleasing
    exact absurd rfl (hphase rest)

theorem noLiveMessage_of_scan {active : List JobId} {j : JobId}
    (hscan : exactScans.mayScan w active) (h : j ∉ active) : w.NoLiveMessage j :=
  fun m message hmessage hjob hlive => h ((hscan j).mpr ⟨m, message, hmessage, hjob, hlive⟩)

theorem decided_step (hstep : Step settings exactScans w w') (hw : w.WellFormed)
    (h : w.RecoveriesExclusive settings) :
    ∀ p now active j job rest, w'.procs p = some (.reconcile now active (.decided j job rest)) →
      w'.NoLiveMessage j ∧ w'.Spent j job.attemptCount := by
  intro p now active j job rest hproc
  rcases decided_before hstep hproc with
    hbefore | ⟨first, hbefore, hscan, hinactive, hrows, hmessages⟩
  · obtain ⟨hnoLive, hspent⟩ := h.decided _ _ _ _ _ _ hbefore
    exact ⟨noLiveMessage_step hstep hw hbefore rfl hproc nofun hnoLive,
      spent_stays hstep hw hbefore rfl (hw.recoveriesHaveRows.2.1 _ _ _ _ _ _ hbefore) hspent⟩
  · have hnoLive := noLiveMessage_of_scan hscan hinactive
    have hspent := h.refreshed _ _ _ _ _ _ hbefore
    constructor
    · intro m message hmessage
      rw [hmessages] at hmessage
      exact hnoLive m message hmessage
    · intro row hrow
      rw [hrows] at hrow
      exact hspent row hrow

theorem transitioned_step (hstep : Step settings exactScans w w') (hw : w.WellFormed)
    (h : w.RecoveriesExclusive settings) :
    ∀ p now active j rest, w'.procs p = some (.reconcile now active (.transitioned j rest)) →
      w'.NoLiveMessage j ∧ ∃ attempts ≤ settings.maxRetries, w'.Spent j attempts := by
  intro p now active j rest hproc
  rcases transitioned_before hstep hproc with hbefore | ⟨job, hbefore, hdecision⟩
  · obtain ⟨hnoLive, attempts, hle, hspent⟩ := h.transitioned _ _ _ _ _ hbefore
    exact ⟨noLiveMessage_step hstep hw hbefore rfl hproc nofun hnoLive, attempts, hle,
      spent_stays hstep hw hbefore rfl (hw.recoveriesHaveRows.2.2.1 _ _ _ _ _ hbefore) hspent⟩
  · obtain ⟨hnoLive, hspent⟩ := h.decided _ _ _ _ _ _ hbefore
    have hle := attemptCount_le_of_decideRecovery (by rw [hdecision]; nofun)
    exact ⟨noLiveMessage_step hstep hw hbefore rfl hproc nofun hnoLive, _, hle,
      spent_stays hstep hw hbefore rfl (hw.recoveriesHaveRows.2.1 _ _ _ _ _ _ hbefore) hspent⟩

theorem enqueueing_step (hstep : Step settings exactScans w w') (hw : w.WellFormed)
    (h : w.RecoveriesExclusive settings) :
    ∀ p now active j job rest, w'.procs p = some (.reconcile now active (.enqueueing j job rest)) →
      w'.NoLiveMessage j ∧ job.attemptCount ≤ settings.maxRetries ∧
        w'.Spent j job.attemptCount := by
  intro p now active j job rest hproc
  rcases enqueueing_before hstep hproc with
    hbefore | ⟨hbefore, hrow, hrows, hmessages⟩ | ⟨hbefore, hdecision, hrows, hmessages⟩
  · obtain ⟨hnoLive, hle, hspent⟩ := h.enqueueing _ _ _ _ _ _ hbefore
    exact ⟨noLiveMessage_step hstep hw hbefore rfl hproc nofun hnoLive, hle,
      spent_stays hstep hw hbefore rfl (hw.recoveriesHaveRows.2.2.2 _ _ _ _ _ _ hbefore) hspent⟩
  · obtain ⟨hnoLive, attempts, hle, hspent⟩ := h.transitioned _ _ _ _ _ hbefore
    refine ⟨noLiveMessage_step hstep hw hbefore rfl hproc nofun hnoLive, ?_, ?_⟩
    · rw [hspent job hrow]
      exact hle
    · exact spent_of_row (by rw [hrows]; exact hrow)
  · obtain ⟨hnoLive, hspent⟩ := h.decided _ _ _ _ _ _ hbefore
    exact ⟨noLiveMessage_step hstep hw hbefore rfl hproc nofun hnoLive,
      attemptCount_le_of_decideRecovery (by rw [hdecision]; nofun),
      spent_stays hstep hw hbefore rfl (hw.recoveriesHaveRows.2.1 _ _ _ _ _ _ hbefore) hspent⟩

theorem recoveriesExclusive_step (hstep : Step settings exactScans w w') (hw : w.WellFormed)
    (h : w.RecoveriesExclusive settings) : w'.RecoveriesExclusive settings where
  refreshed := refreshed_step hstep hw h
  decided := decided_step hstep hw h
  transitioned := transitioned_step hstep hw h
  enqueueing := enqueueing_step hstep hw h

/-- A step makes at most one message. -/
theorem newMessage_unique (hstep : Step settings env w w') {m n : MessageId}
    {message other : Message} (hm : w.messages m = none) (hn : w.messages n = none)
    (hmessage : w'.messages m = some message) (hother : w'.messages n = some other) : m = n := by
  cases hstep with
  | _ => grind

/-- A message is enqueued for a job that has no live one. -/
theorem noLiveMessage_of_new (hstep : Step settings exactScans w w') (hw : w.WellFormed)
    (hrecoveries : w.RecoveriesExclusive settings) {m : MessageId} {message : Message}
    (hmessage : w'.messages m = some message) (hlive : message.Live) :
    (∃ before, w.messages m = some before ∧ before.Live ∧ before.jobId = message.jobId) ∨
    (w.messages m = none ∧ w.NoLiveMessage message.jobId) := by
  rcases live_before hstep hw hmessage hlive with
    hbefore | ⟨p, job, hnone, hsubmit, -⟩ | ⟨p, now, active, job, rest, hnone, hrecovery, -⟩
  · exact Or.inl hbefore
  · refine Or.inr ⟨hnone, fun n other hother hjob => ?_⟩
    exact absurd hjob ((hw.submissionsFresh.2 _ _ _ hsubmit).2.2.2 n other hother)
  · exact Or.inr ⟨hnone, (hrecoveries.enqueueing _ _ _ _ _ _ hrecovery).1⟩

theorem oneLiveMessage_step (hstep : Step settings exactScans w w') (hw : w.WellFormed)
    (hrecoveries : w.RecoveriesExclusive settings) (h : w.OneLiveMessage) :
    w'.OneLiveMessage := by
  intro m n message other hmessage hother hlive hotherLive hjob
  rcases noLiveMessage_of_new hstep hw hrecoveries hmessage hlive with
    ⟨before, hbefore, hbeforeLive, hsame⟩ | ⟨hm, hnoLive⟩ <;>
  rcases noLiveMessage_of_new hstep hw hrecoveries hother hotherLive with
    ⟨before', hbefore', hbeforeLive', hsame'⟩ | ⟨hn, hnoLive'⟩
  · exact h m n before before' hbefore hbefore' hbeforeLive hbeforeLive'
      (hsame.trans (hjob.trans hsame'.symm))
  · exact absurd hbeforeLive (hnoLive' m before hbefore (hsame.trans hjob))
  · exact absurd hbeforeLive' (hnoLive n before' hbefore' (hsame'.trans hjob.symm))
  · exact newMessage_unique hstep hm hn hmessage hother

section ExecutionsLeft

variable (w : World) {message : Message}

theorem executionsLeft_queued (h : message.location = .queued) :
    w.executionsLeft message = message.retriesLeft.getD 0 + 1 := by
  rw [World.executionsLeft, h]

theorem executionsLeft_scheduled (h : message.location = .scheduled) :
    w.executionsLeft message = message.retriesLeft.getD 0 + 1 := by
  rw [World.executionsLeft, h]

theorem executionsLeft_started {p : ProcId} (h : message.location = .started p) :
    w.executionsLeft message =
      if (w.procs p).any Proc.awaitsClaim then message.retriesLeft.getD 0 + 1
      else message.retriesLeft.getD 0 := by
  rw [World.executionsLeft, h]

end ExecutionsLeft

/-- What a step does to an existing message. -/
theorem message_step (hstep : Step settings exactScans w w') (hw : w.WellFormed)
    {m : MessageId} {message before : Message} (hmessage : w'.messages m = some message)
    (hbefore : w.messages m = some before) :
    message = before ∨ message.location = .finished ∨
    (∃ p j, before.location = .queued ∧ message = { before with location := .started p } ∧
      w'.procs p = some (.worker m j .waiting)) ∨
    (before.location = .scheduled ∧ message = { before with location := .queued }) ∨
    (∃ p, before.location = .started p ∧ message = before.afterFailure) ∨
    (∃ p q j, before.location = .started p ∧ message = { before with location := .started q } ∧
      w'.procs q = some (.worker m j .raised)) := by
  have hworkers := hw.workersStarted
  unfold World.WorkersStarted at *
  cases hstep with
  | redeliver _ henv _ _ => exact False.elim henv
  | _ => grind

/-- Only a delivery, to a new process, gives a worker a claim to make. -/
theorem awaitsClaim_before (hstep : Step settings exactScans w w') {p : ProcId} {proc : Proc}
    (hproc : w.procs p = some proc) (h : (w'.procs p).any Proc.awaitsClaim = true) :
    proc.awaitsClaim = true := by
  cases hstep with
  | release hold hafter =>
      rcases Proc.afterRelease_eq_some hafter with
        ⟨j, rfl, rfl⟩ | ⟨m, j, refused, rfl, rfl⟩ | ⟨m, j, rfl, rfl⟩ |
        ⟨now, active, j, rest, rfl, rfl⟩ <;> grind
  | _ => grind

theorem retriesLeft_le_executionsLeft (w : World) {message : Message} {p : ProcId}
    (h : message.location = .started p) :
    message.retriesLeft.getD 0 ≤ w.executionsLeft message := by
  rw [executionsLeft_started w h]
  split <;> omega

/-- A step gives an existing message no execution back. -/
theorem executionsLeft_before (hstep : Step settings exactScans w w') (hw : w.WellFormed)
    {m : MessageId} {message before : Message} (hmessage : w'.messages m = some message)
    (hbefore : w.messages m = some before) :
    w'.executionsLeft message ≤ w.executionsLeft before := by
  rcases message_step hstep hw hmessage hbefore with
    rfl | hfinished | ⟨p, j, hqueued, rfl, hwaiting⟩ | ⟨hscheduled, rfl⟩ | ⟨p, hstarted, rfl⟩ |
    ⟨p, q, j, hstarted, rfl, hraised⟩
  · cases hlocation : message.location with
    | started p =>
        obtain ⟨proc, hproc⟩ : ∃ proc, w.procs p = some proc := by
          rcases hw.startedHaveWorkers m message p hbefore hlocation with hgone | ⟨j, phase, hworks⟩
          · exact ⟨_, hgone⟩
          · exact ⟨_, hworks⟩
        rw [executionsLeft_started w hlocation, executionsLeft_started w' hlocation]
        by_cases hawaits : (w'.procs p).any Proc.awaitsClaim = true
        · have hawaited := awaitsClaim_before hstep hproc hawaits
          simp [hproc, hawaited, hawaits]
        · rw [if_neg hawaits]
          split <;> omega
    | _ => simp [World.executionsLeft, hlocation]
  · simp [World.executionsLeft, hfinished]
  · simp [World.executionsLeft, hqueued, hwaiting, Proc.awaitsClaim]
  · simp [World.executionsLeft, hscheduled]
  · have hretries := retriesLeft_le_executionsLeft w hstarted
    rcases before.afterFailure_location with hfailed | ⟨hscheduled, hcount⟩
    · simp [World.executionsLeft, hfailed]
    · rw [executionsLeft_scheduled w' hscheduled]
      omega
  · have hretries := retriesLeft_le_executionsLeft w hstarted
    simpa [World.executionsLeft, hraised, Proc.awaitsClaim] using hretries

theorem withinBudget_step (hstep : Step settings exactScans w w') (hw : w.WellFormed)
    (hrecoveries : w.RecoveriesExclusive settings) (hone : w.OneLiveMessage)
    (h : w.WithinBudget settings) : w'.WithinBudget settings := by
  intro m message row hmessage hlive hrow
  rcases live_before hstep hw hmessage hlive with
    ⟨before, hbefore, hbeforeLive, hjob⟩ | ⟨p, job, -, hsubmit, hnew⟩ |
    ⟨p, now, active, job, rest, -, hrecovery, -, hnew⟩
  · -- the message existed
    have hleft := executionsLeft_before hstep hw hmessage hbefore
    rcases attempts_before hstep hw hrow with
      ⟨stored, hstored, hcount⟩ | ⟨hnone, -⟩ |
      ⟨p, k, stored, hlocked, hclaimed, hkept, hstored, hcount⟩
    · have hbudget := h m before stored hbefore hbeforeLive (by rw [hjob]; exact hstored)
      omega
    · obtain ⟨stored, hstored⟩ := hw.messagesHaveRows m before hbefore
      rw [hjob, hnone] at hstored
      cases hstored
    · -- the claim takes the execution it counts from the only live message
      obtain ⟨claimed, hclaimedMessage, hclaimedJob, hstarted⟩ := hw.workersStarted _ _ _ _ hlocked
      have hsame : k = m := hone k m claimed before hclaimedMessage hbefore
        (by simp [Message.Live, hstarted]) hbeforeLive (hclaimedJob.trans hjob.symm)
      subst hsame
      have hbudget := h k before stored hbefore hbeforeLive (by rw [hjob]; exact hstored)
      rw [hkept, hclaimedMessage] at hmessage
      rw [hclaimedMessage] at hbefore
      cases hmessage
      cases hbefore
      have hwith : w.executionsLeft message = message.retriesLeft.getD 0 + 1 := by
        rw [executionsLeft_started w hstarted]
        simp [hlocked, Proc.awaitsClaim]
      have hwithout : w'.executionsLeft message = message.retriesLeft.getD 0 := by
        rw [executionsLeft_started w' hstarted]
        simp [hclaimed, Proc.awaitsClaim]
      omega
  · -- a submission has just enqueued it
    obtain ⟨hjob, -, hunspent, -⟩ := hw.submissionsFresh.2 p _ job hsubmit
    have hattempts : row.attemptCount = 0 := by
      rcases attempts_before hstep hw hrow with
        ⟨stored, hstored, hcount⟩ | ⟨-, hcount⟩ | ⟨q, k, stored, hlocked, -⟩
      · rw [hjob] at hstored
        cases hstored
        rw [hcount, hunspent]
      · exact hcount
      · have hsame : p = q := hw.locksHeld.exclusive hsubmit hlocked rfl rfl
        rw [hsame, hlocked] at hsubmit
        cases hsubmit
    have hretries := enqueueRetries_getD settings.maxRetries none (Int.natCast_nonneg _)
    rw [Option.getD_none] at hretries
    rw [hnew, executionsLeft_queued w' rfl]
    dsimp only
    omega
  · -- a recovery has just enqueued it
    obtain ⟨-, hle, hspent⟩ := hrecoveries.enqueueing _ _ _ _ _ _ hrecovery
    have hattempts : row.attemptCount = job.attemptCount :=
      spent_stays hstep hw hrecovery rfl (hw.recoveriesHaveRows.2.2.2 _ _ _ _ _ _ hrecovery)
        hspent row hrow
    have hretries := enqueueRetries_getD settings.maxRetries
      (some (recoveryRetryCount settings job)) (by rw [Option.getD_some, recoveryRetryCount]; omega)
    rw [Option.getD_some, recoveryRetryCount] at hretries
    rw [hnew, executionsLeft_queued w' rfl]
    dsimp only [recoveryRetryCount]
    omega

theorem attemptsBounded_step (hstep : Step settings exactScans w w') (hw : w.WellFormed)
    (hbudget : w.WithinBudget settings) (h : w.AttemptsBounded settings) :
    w'.AttemptsBounded settings := by
  intro j row hrow
  rcases attempts_before hstep hw hrow with
    ⟨stored, hstored, hcount⟩ | ⟨-, hcount⟩ | ⟨p, m, stored, hlocked, -, -, hstored, hcount⟩
  · rw [hcount]
    exact h j stored hstored
  · omega
  · -- the worker's message still has the execution that the claim counts
    obtain ⟨message, hmessage, rfl, hstarted⟩ := hw.workersStarted _ _ _ _ hlocked
    have hleft := hbudget m message stored hmessage (by simp [Message.Live, hstarted]) hstored
    rw [executionsLeft_started w hstarted, hlocked] at hleft
    simp only [Option.any_some, Proc.awaitsClaim, if_true] at hleft
    omega

namespace World

/-- The invariant of the budget. -/
structure Budgeted (settings : Settings) (w : World) : Prop where
  recoveriesExclusive : w.RecoveriesExclusive settings
  oneLiveMessage : w.OneLiveMessage
  withinBudget : w.WithinBudget settings
  attemptsBounded : w.AttemptsBounded settings

end World

theorem budgeted_initial : World.initial.Budgeted settings where
  recoveriesExclusive := by
    constructor <;> simp [World.initial]
  oneLiveMessage := by
    intro m n message other h
    cases h
  withinBudget := by
    intro m message row h
    cases h
  attemptsBounded := by
    intro j row h
    cases h

theorem budgeted_step (hstep : Step settings exactScans w w') (hw : w.WellFormed)
    (h : w.Budgeted settings) : w'.Budgeted settings where
  recoveriesExclusive := recoveriesExclusive_step hstep hw h.recoveriesExclusive
  oneLiveMessage := oneLiveMessage_step hstep hw h.recoveriesExclusive h.oneLiveMessage
  withinBudget :=
    withinBudget_step hstep hw h.recoveriesExclusive h.oneLiveMessage h.withinBudget
  attemptsBounded := attemptsBounded_step hstep hw h.withinBudget h.attemptsBounded

theorem Reachable.budgeted (hrun : Reachable settings exactScans w) : w.Budgeted settings :=
  Transition.invariant_of (fun _ => Reachable.wellFormed) budgeted_initial
    (fun _ _ => budgeted_step) hrun

end Steps

/-- In every reachable state a job has at most one live message, its attempts and what the
    message has left are within the budget, and no pass enqueues with a negative retry count. -/
theorem attemptBudget {settings : Settings} {w : World} (hrun : Reachable settings exactScans w) :
    w.OneLiveMessage ∧ w.WithinBudget settings ∧ w.AttemptsBounded settings ∧
      w.RetryCountsNonnegative settings := by
  have hbudgeted := Reachable.budgeted hrun
  refine ⟨hbudgeted.oneLiveMessage, hbudgeted.withinBudget, hbudgeted.attemptsBounded, ?_⟩
  intro p now active j job rest hproc
  have hleft := (hbudgeted.recoveriesExclusive.enqueueing _ _ _ _ _ _ hproc).2.1
  rw [recoveryRetryCount]
  omega

/-- A worker killed after its claim: the registry cleanup fails and reschedules the message. -/
theorem attemptBudget_killed :
    ∃ w row message, Reachable defaultSettings exactScans w ∧ w.rows 0 = some row ∧
      row.attemptCount = 1 ∧ w.messages 0 = some message ∧ message.Live ∧
      row.attemptCount + w.executionsLeft message ≤ 3 := by
  have run : Reachable defaultSettings exactScans _ :=
    .tail .refl (.submit (p := 0) (j := 0) rfl rfl rfl)
  have run := run.tail (.create (p := 0) "user" "buy the dip" none 0 rfl)
  have run := run.tail (.enqueue (p := 0) (m := 0) rfl rfl)
  have run := run.tail (.release (p := 0) rfl rfl)
  have run := run.tail (.deliver (p := 1) (m := 0) rfl rfl rfl)
  have run := run.tail (.acquire (p := 1) rfl rfl)
  have run := run.tail (.claim (p := 1) 1 rfl rfl rfl rfl)
  have run := run.tail (.kill (p := 1) trivial rfl)
  have run := run.tail (.abandon (p := 1) (q := 2) (m := 0) rfl rfl rfl rfl)
  have run := run.tail (.callBack (p := 2) 2 trivial rfl rfl rfl)
  have run := run.tail (.reschedule (p := 2) rfl rfl)
  exact ⟨_, _, _, run, rfl, rfl, rfl, by decide,
    (attemptBudget run).2.1 0 _ _ rfl (by decide) rfl⟩

end Jobs
end TradingPlatform
