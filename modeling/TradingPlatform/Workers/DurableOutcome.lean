/-
  TradingPlatform.Workers.DurableOutcome

  What `process_preview_job` leaves in the database, whatever fails.

  Until a terminal write is committed the row stays queued or running
  (`Unfinished`), and every exception that asks for a retry goes back to a
  provider timeout or a transient database error (`Retried`).  Each operation and
  each handler keeps this pair, so that the worker either returns with a
  terminal row, or raises `TransientPreviewJobError` over an unfinished one; a
  worker that returns over an unfinished row was refused its last write.
-/

import TradingPlatform.Workers.PreviewWorker

namespace TradingPlatform
namespace Workers

open Jobs Action

/-- The exceptions that are worth a retry. -/
def PreviewException.Retryable (error : PreviewException) : Prop :=
  error = .strategyProviderTimeoutError ∨ error.TransientDatabase

/-- A provider timeout or a transient database error has occurred. -/
def Retried (session : WorkerSession) : Prop :=
  ∃ fault ∈ session.faults, fault.error.Retryable

/-- The committed row is completed or failed. -/
def Terminal (session : WorkerSession) : Prop := ¬ session.row.status.Nonterminal

/-- No terminal write is committed. -/
structure Uncommitted (session : WorkerSession) : Prop where
  row : session.row.status.Nonterminal
  loaded : ∀ job, session.job = some job → job.expired = false → job.loaded.status.Nonterminal

/-- And none is on its way. -/
structure Unfinished (session : WorkerSession) : Prop extends Uncommitted session where
  visible : session.unusable = false → session.visible.status.Nonterminal

/-- An exception that asks for a retry has a reason to. -/
structure Interrupted (error : PreviewException) (session : WorkerSession) : Prop where
  unfinished : Unfinished session
  retried : error.Retryable → Retried session

/-- The same of an exception that has left `run_preview_job`. -/
structure Escaped (error : PreviewException) (session : WorkerSession) : Prop where
  unfinished : Unfinished session
  retried : error = .transientPreviewJobError ∨ error.TransientDatabase → Retried session

/-- An exception of the session or of the database. -/
structure Refused (error : PreviewException) (session : WorkerSession) : Prop
    extends Interrupted error session where
  ne : error ≠ .transientPreviewJobError

theorem Refused.escaped {error : PreviewException} {session : WorkerSession}
    (h : Refused error session) : Escaped error session :=
  ⟨h.unfinished, fun hretry => h.retried (Or.inr (hretry.resolve_left h.ne))⟩

-- ============================================================================
-- The session
-- ============================================================================

section Session

variable {session : WorkerSession}

theorem Uncommitted.refused (h : Uncommitted session) (fault : Fault) (atFlush : Bool) :
    Unfinished (session.refused fault atFlush) where
  row := h.row
  visible := nofun
  loaded job hjob hexpired := by
    cases atFlush with
    | false => exact h.loaded job hjob hexpired
    | true =>
        obtain ⟨before, -, rfl⟩ := Option.map_eq_some_iff.mp hjob
        cases hexpired

theorem Unfinished.rolledBack (h : Unfinished session) : Unfinished session.rolledBack where
  row := h.row
  visible _ := h.row
  loaded job hjob hexpired := by
    obtain ⟨before, -, rfl⟩ := Option.map_eq_some_iff.mp hjob
    cases hexpired

theorem Unfinished.assigned (h : Unfinished session) (write : PreviewJob → PreviewJob) :
    Unfinished { session with
      job := session.job.map fun job => { job with value := write job.value } } where
  row := h.row
  visible := h.visible
  loaded job hjob hexpired := by
    obtain ⟨before, hbefore, rfl⟩ := Option.map_eq_some_iff.mp hjob
    exact h.loaded before hbefore hexpired

theorem Unfinished.reloaded (h : Unfinished session) (husable : session.unusable = false) :
    Unfinished { session with job := some (.load session.visible) } where
  row := h.row
  visible := h.visible
  loaded job hjob _ := by
    cases hjob
    exact h.visible husable

theorem execute_of_usable (husable : session.unusable = false)
    {change : PreviewJob → Option PreviewJob} {row : PreviewJob}
    (hrow : change session.visible = some row) :
    execute change session = .ok true { session with updated := some row } := by
  simp [execute, husable, hrow]

theorem getJob_of_usable (husable : session.unusable = false) :
    getJob session = .ok () { session with job := some (.load session.visible) } := by
  simp [getJob, husable]

/-- An object that was loaded as unfinished and is now terminal makes the row so. -/
theorem committed_terminal {job : LoadedJob} (hjob : session.job = some job)
    (hexpired : job.expired = false) (hloaded : job.loaded.status.Nonterminal)
    (hvalue : ¬ job.value.status.Nonterminal) : Terminal session.committed := by
  have hrow : session.committed.row = job.loaded.flush job.value session.visible := by
    simp [WorkerSession.committed, hjob, LoadedJob.flushTo, hexpired]
  have hstatus := flushColumn_eq job.loaded.status job.value.status session.visible.status
  rw [Terminal, hrow]
  rcases hstatus with hwritten | ⟨hsame, -⟩
  · show ¬ (flushColumn job.loaded.status job.value.status session.visible.status).Nonterminal
    rwa [hwritten]
  · exact absurd (hsame ▸ hloaded) hvalue

end Session

-- ============================================================================
-- Reads and commits
-- ============================================================================

section Operations

variable (collaborators : Collaborators)

/-- How a commit can end. -/
theorem commit_cases (site : Site) (session : WorkerSession) :
    (session.unusable = true ∧
      commit collaborators site session = .error .pendingRollbackError session) ∨
    (session.unusable = false ∧ commit collaborators site session = .ok () session.committed) ∨
    (session.unusable = false ∧ ∃ error atFlush, commit collaborators site session =
      .error (.database error) (session.refused ⟨site, .database error⟩ atFlush)) := by
  cases husable : session.unusable with
  | true => exact .inl ⟨rfl, by simp [commit, husable]⟩
  | false =>
      cases hanswer : collaborators.commits session.commitCount with
      | accepted => exact .inr (.inl ⟨rfl, by simp [commit, husable, hanswer]⟩)
      | refused error atFlush =>
          exact .inr (.inr ⟨rfl, error, atFlush, by simp [commit, husable, hanswer]⟩)

theorem Uncommitted.refused_pendingRollbackError {session : WorkerSession}
    (h : Uncommitted session) (hunusable : session.unusable = true) :
    Refused .pendingRollbackError session where
  unfinished := { h with visible := fun husable => by rw [husable] at hunusable; cases hunusable }
  retried hretry := by rcases hretry with h | h <;> cases h
  ne := nofun

/-- The fault of a refused commit is the reason for its exception. -/
theorem Uncommitted.refused_database {session : WorkerSession} (h : Uncommitted session)
    (site : Site) (error : DatabaseError) (atFlush : Bool) :
    Refused (.database error) (session.refused ⟨site, .database error⟩ atFlush) where
  unfinished := h.refused _ _
  retried hretry := ⟨_, List.mem_append_right _ (List.mem_singleton_self _), hretry⟩
  ne := nofun

theorem ensures_commit {P : WorkerSession → Prop} (hP : ∀ s, P s → Uncommitted s)
    (site : Site) :
    Ensures P (commit collaborators site)
      (fun _ s' => ∃ s, P s ∧ s.unusable = false ∧ s.committed = s') Refused where
  returns {s _ s'} hs hrun := by
    rcases commit_cases collaborators site s with ⟨-, h⟩ | ⟨husable, h⟩ | ⟨-, error, atFlush, h⟩
    · rw [h] at hrun
      cases hrun
    · rw [h] at hrun
      cases hrun
      exact ⟨s, hs, husable, rfl⟩
    · rw [h] at hrun
      cases hrun
  raises {s e s'} hs hrun := by
    rcases commit_cases collaborators site s with
      ⟨hunusable, h⟩ | ⟨-, h⟩ | ⟨-, error, atFlush, h⟩
    · rw [h] at hrun
      cases hrun
      exact (hP s hs).refused_pendingRollbackError hunusable
    · rw [h] at hrun
      cases hrun
    · rw [h] at hrun
      cases hrun
      exact (hP s hs).refused_database site error atFlush

/-- The object is loaded, and its attributes can be read. -/
structure Loaded (session : WorkerSession) : Prop extends Unfinished session where
  job : ∃ job, session.job = some job ∧ job.expired = false

theorem ensures_readJob : Ensures Unfinished readJob (fun _ => Loaded) Refused where
  returns {s _ s'} hs hrun := by
    unfold readJob at hrun
    cases hjob : s.job with
    | none =>
        rw [hjob] at hrun
        cases hrun
    | some job =>
        rw [hjob] at hrun
        simp only at hrun
        split at hrun
        · split at hrun
          · cases hrun
          · rename_i husable
            cases hrun
            exact ⟨hs.reloaded (by simpa using husable), _, rfl, rfl⟩
        · rename_i hexpired
          cases hrun
          exact ⟨hs, job, hjob, by simpa using hexpired⟩
  raises {s e s'} hs hrun := by
    unfold readJob at hrun
    cases hjob : s.job with
    | none =>
        rw [hjob] at hrun
        cases hrun
        exact ⟨⟨hs, fun hretry => by rcases hretry with h | h <;> cases h⟩, nofun⟩
    | some job =>
        rw [hjob] at hrun
        simp only at hrun
        split at hrun
        · split at hrun
          · rename_i hunusable
            cases hrun
            exact hs.refused_pendingRollbackError hunusable
          · cases hrun
        · cases hrun

theorem faults_readJob {session session' : WorkerSession} {job : PreviewJob}
    (h : readJob session = .ok job session') : session'.faults = session.faults := by
  unfold readJob at h
  split at h
  · cases h
  · split at h
    · split at h <;> cases h
      rfl
    · cases h
      rfl

/-- Reading the clock leaves the session alone. -/
theorem ensures_now {P : WorkerSession → Prop} {E : PreviewException → WorkerSession → Prop} :
    Ensures P (now collaborators) (fun _ => P) E :=
  ensures_of_returns fun s hs => ⟨_, s, rfl, hs⟩

/-- `complete_job` and `fail_job`: the object is read, assigned and committed. -/
theorem ensures_terminalWrite (write : Timestamp → PreviewJob → PreviewJob)
    (hwrite : ∀ completedAt job, ¬ (write completedAt job).status.Nonterminal) (site : Site) :
    Ensures Unfinished
      (do
        let _previousStatus ← readJob
        let completedAt ← now collaborators
        assignJob (write completedAt)
        commit collaborators site)
      (fun _ => Terminal) Refused := by
  refine ensures_readJob.bind fun _ => (ensures_now collaborators).bind fun completedAt => ?_
  refine Ensures.bind (S := fun _ s => Unfinished s ∧ ∃ job, s.job = some job ∧
      job.expired = false ∧ ¬ job.value.status.Nonterminal)
    (ensures_of_returns fun s hs => ?_) fun _ => ?_
  · obtain ⟨job, hjob, hexpired⟩ := hs.job
    exact ⟨_, _, rfl, hs.toUnfinished.assigned _,
      { job with value := write completedAt job.value }, by rw [hjob]; rfl, hexpired, hwrite _ _⟩
  · refine (ensures_commit collaborators (fun s hs => hs.1.toUncommitted) site).imp_returns
      fun _ s' hs => ?_
    obtain ⟨s, ⟨hs, job, hjob, hexpired, hvalue⟩, -, rfl⟩ := hs
    exact committed_terminal hjob hexpired (hs.loaded job hjob hexpired) hvalue

theorem ensures_completeJob (result : Json) :
    Ensures Unfinished (completeJob collaborators result) (fun _ => Terminal) Refused :=
  ensures_terminalWrite collaborators
    (fun completedAt job => Jobs.completeJob job result completedAt)
    (fun _ _ => JobStatus.terminal_iff.mpr (.inl rfl)) .completeJob

theorem ensures_failJob (error : String) :
    Ensures Unfinished (failJob collaborators error) (fun _ => Terminal) Refused :=
  ensures_terminalWrite collaborators (fun completedAt job => Jobs.failJob job error completedAt)
    (fun _ _ => JobStatus.terminal_iff.mpr (.inr rfl)) .failJob

-- ============================================================================
-- The execution
-- ============================================================================

/-- Before the claim. -/
structure Fresh (session : WorkerSession) : Prop where
  row : session.row.status = .queued
  updated : session.updated = none
  job : session.job = none
  usable : session.unusable = false

/-- Between the claim and the terminal write, as long as nothing is refused. -/
structure Executing (session : WorkerSession) : Prop where
  row : session.row.status.Nonterminal
  updated : session.updated = none
  usable : session.unusable = false
  job : ∃ job, session.job = some job ∧ job.expired = false ∧
    job.loaded.status.Nonterminal ∧ job.value.status = job.loaded.status

theorem Executing.visible {session : WorkerSession} (h : Executing session) :
    session.visible = session.row := by
  rw [WorkerSession.visible, h.updated, Option.getD_none]

theorem Executing.unfinished {session : WorkerSession} (h : Executing session) :
    Unfinished session where
  row := h.row
  visible _ := h.visible ▸ h.row
  loaded job hjob _ := by
    obtain ⟨loaded, hloaded, -, hstatus, -⟩ := h.job
    obtain rfl : loaded = job := Option.some.inj (hloaded.symm.trans hjob)
    exact hstatus

/-- The row is updated to running, and the update is not committed. -/
structure Claiming (session : WorkerSession) : Prop where
  row : session.row.status.Nonterminal
  job : session.job = none
  updated : ∃ row, session.updated = some row ∧ row.status = .running

/-- It is committed, and the object not loaded. -/
structure Claimed (session : WorkerSession) : Prop where
  row : session.row.status = .running
  updated : session.updated = none
  usable : session.unusable = false

/-- The row is queued: the update of the claim matches it. -/
theorem ensures_execute_claimJob (allowRunningRetry : Bool) (startedAt : Timestamp) :
    Ensures Fresh (execute (Jobs.claimJob allowRunningRetry startedAt))
      (fun matched s => matched = true ∧ Claiming s) Interrupted := by
  refine ensures_of_returns fun s hs => ?_
  have hvisible : s.visible = s.row := by
    rw [WorkerSession.visible, hs.updated, Option.getD_none]
  cases hclaim : Jobs.claimJob allowRunningRetry startedAt s.row with
  | none => exact absurd hs.row (status_ne_queued_of_claimJob_eq_none hclaim)
  | some row =>
      have hrunning : row.status = .running := (claimJob_eq_some hclaim).2.1
      exact ⟨_, _, execute_of_usable hs.usable (hvisible ▸ hclaim), rfl, Or.inl hs.row, hs.job,
        row, rfl, hrunning⟩

theorem Claiming.committed {session : WorkerSession} (h : Claiming session)
    (husable : session.unusable = false) : Claimed session.committed := by
  obtain ⟨row, hupdated, hrunning⟩ := h.updated
  refine ⟨?_, rfl, husable⟩
  simp [WorkerSession.committed, WorkerSession.visible, h.job, hupdated, hrunning]

theorem ensures_getJob : Ensures Claimed getJob (fun _ => Executing) Interrupted := by
  refine ensures_of_returns fun s hs => ?_
  have hrow : s.row.status.Nonterminal := Or.inr hs.row
  have hvisible : s.visible = s.row := by
    rw [WorkerSession.visible, hs.updated, Option.getD_none]
  exact ⟨_, _, getJob_of_usable hs.usable, hrow, hs.updated, hs.usable, _, rfl, rfl,
    hvisible ▸ hrow, rfl⟩

theorem ensures_claimJob (allowRunningRetry : Bool) :
    Ensures Fresh (claimJob collaborators allowRunningRetry)
      (fun claimed s => claimed = true ∧ Executing s) Interrupted := by
  refine (ensures_now collaborators).bind fun startedAt =>
    (ensures_execute_claimJob allowRunningRetry startedAt).bind fun matched => ?_
  refine Ensures.bind (S := fun _ s => matched = true ∧ Claimed s) ?_ fun _ => ?_
  · refine (ensures_commit collaborators (P := fun s => matched = true ∧ Claiming s)
      (fun s hs => ⟨hs.2.row, fun job hjob => by rw [hs.2.job] at hjob; cases hjob⟩)
      .claimJob).weaken (fun _ hs => hs) (fun _ s' hs => ?_) (fun _ _ h => h.toInterrupted)
    obtain ⟨s, ⟨hmatched, hs⟩, husable, rfl⟩ := hs
    exact ⟨hmatched, hs.committed husable⟩
  · cases matched with
    | false => exact ensures_of_unreachable fun _ hs => Bool.false_ne_true hs.1
    | true =>
        exact (ensures_getJob.of_pre fun _ hs => hs.2).bind fun _ =>
          ensures_pure fun _ hs => ⟨rfl, hs⟩

/-- A progress update leaves the status alone. -/
theorem ensures_updateProgress (stage : JobStage) (progress : Nat) :
    Ensures Executing (updateProgress collaborators stage progress) (fun _ => Executing)
      Interrupted := by
  refine Ensures.bind (S := fun _ => Executing) (ensures_of_returns fun s hs => ?_) fun _ => ?_
  · obtain ⟨job, hjob, hexpired, hloaded, hvalue⟩ := hs.job
    exact ⟨_, _, rfl, hs.row, hs.updated, hs.usable,
      { job with value := Jobs.updateProgress job.value stage progress }, by rw [hjob]; rfl,
      hexpired, hloaded, hvalue⟩
  · refine (ensures_commit collaborators (fun s hs => hs.unfinished.toUncommitted)
      .updateProgress).weaken (fun _ hs => hs) (fun _ s' hs => ?_) (fun _ _ h => h.toInterrupted)
    obtain ⟨s, hs, husable, rfl⟩ := hs
    obtain ⟨job, hjob, hexpired, hloaded, hvalue⟩ := hs.job
    have hrow : s.committed.row.status = s.row.status := by
      simp only [WorkerSession.committed, hjob, Option.elim_some, LoadedJob.flushTo, hexpired,
        hs.visible, Bool.false_eq_true, if_false, PreviewJob.flush, hvalue, flushColumn_self]
    exact ⟨hrow ▸ hs.row, rfl, husable, { job with loaded := job.value },
      by simp [WorkerSession.committed, hjob], hexpired, hvalue ▸ hloaded, rfl⟩

theorem ensures_call {α : Type} (site : Site) (outcome : Except PreviewException α) :
    Ensures Executing (call site outcome) (fun _ => Executing) Interrupted where
  returns {s _ s'} hs hrun := by
    cases outcome with
    | error error => cases hrun
    | ok value =>
        cases hrun
        exact hs
  raises {s e s'} hs hrun := by
    cases outcome with
    | error error =>
        cases hrun
        have hs := hs.unfinished
        exact ⟨{ hs with }, fun hretry =>
          ⟨_, List.mem_append_right _ (List.mem_singleton_self _), hretry⟩⟩
    | ok value => cases hrun

/-- The `try` block of `run_preview_job`, from the claim on. -/
theorem ensures_executeJob (allowRunningRetry : Bool) :
    Ensures Fresh (executeJob collaborators allowRunningRetry) (fun _ => Terminal)
      Interrupted := by
  refine (ensures_claimJob collaborators allowRunningRetry).bind fun claimed => ?_
  cases claimed with
  | false => exact ensures_of_unreachable fun _ hs => Bool.false_ne_true hs.1
  | true =>
      have hread : Ensures (fun s => true = true ∧ Executing s) readJob (fun _ => Executing)
          Interrupted := by
        refine ensures_of_returns fun s hs => ?_
        obtain ⟨loaded, hjob, hexpired, -⟩ := hs.2.job
        exact ⟨loaded.value, s, by simp only [readJob, hjob, hexpired]; rfl, hs.2⟩
      refine hread.bind fun job => ?_
      refine (ensures_call .parse _).bind fun parsed => ?_
      refine (ensures_updateProgress collaborators .validating 35).bind fun _ => ?_
      refine (ensures_updateProgress collaborators .compiling 50).bind fun _ => ?_
      refine (ensures_updateProgress collaborators .loadingData 70).bind fun _ => ?_
      refine (ensures_updateProgress collaborators .backtesting 85).bind fun _ => ?_
      refine (ensures_call .previewFactory _).bind fun preview => ?_
      refine (ensures_updateProgress collaborators .generatingResults 95).bind fun _ => ?_
      refine (ensures_call .serializePreview _).bind fun result => ?_
      have hcomplete := (ensures_completeJob collaborators result).weaken
        (fun _ (hs : Executing _) => hs.unfinished) (fun _ _ h => h) (fun _ _ h => h.toInterrupted)
      exact hcomplete.bind fun _ => ensures_pure fun _ hs => hs

-- ============================================================================
-- The handlers
-- ============================================================================

theorem ensures_raiseTransientFailure :
    Ensures (fun s => Unfinished s ∧ Retried s) raiseTransientFailure (fun _ => Terminal)
      Escaped := by
  refine Ensures.bind (S := fun _ s => Unfinished s ∧ Retried s) ?_ fun _ =>
    ensures_throw fun _ hs => ⟨hs.1, fun _ => hs.2⟩
  exact ensures_of_returns fun s hs => ⟨_, _, rfl, hs.1.rolledBack, hs.2⟩

/-- Reading `job.id` after a failed flush is refused: the exception is then no longer a
    transient one. -/
theorem ensures_persistFailure (message : String) :
    Ensures Unfinished (persistFailure collaborators message) (fun _ => Terminal) Escaped := by
  refine (ensures_failJob collaborators message).tryCatch fun error => ?_
  by_cases htransient : error.TransientDatabase
  · rw [if_pos htransient]
    refine Ensures.bind (S := fun _ s => Unfinished s ∧ Retried s)
      ⟨fun {s job s'} hs hrun => ?_, fun {s e s'} hs hrun => ?_⟩ fun _ =>
        ensures_raiseTransientFailure
    · have hretried : Retried s := hs.retried (Or.inr htransient)
      refine ⟨(ensures_readJob.returns hs.unfinished hrun).toUnfinished, ?_⟩
      rwa [Retried, faults_readJob hrun]
    · exact (ensures_readJob.raises hs.unfinished hrun).escaped
  · rw [if_neg htransient]
    exact ensures_throw fun _ hs => hs.escaped

theorem ensures_assertJob :
    Ensures Unfinished assertJob (fun _ => Unfinished) Escaped where
  returns {s _ s'} hs hrun := by
    unfold assertJob at hrun
    split at hrun <;> cases hrun
    exact hs
  raises {s e s'} hs hrun := by
    unfold assertJob at hrun
    split at hrun <;> cases hrun
    exact ⟨hs, fun hretry => by rcases hretry with h | h <;> cases h⟩

/-- After `session.rollback()`. -/
structure RolledBack (session : WorkerSession) : Prop where
  row : session.row.status.Nonterminal
  updated : session.updated = none
  usable : session.unusable = false
  expired : ∀ job, session.job = some job → job.expired = true

theorem ensures_rollback {E : PreviewException → WorkerSession → Prop} :
    Ensures Unfinished rollback (fun _ => RolledBack) E := by
  refine ensures_of_returns fun s hs => ⟨_, _, rfl, hs.row, rfl, rfl, fun job hjob => ?_⟩
  obtain ⟨before, -, rfl⟩ := Option.map_eq_some_iff.mp hjob
  rfl

/-- The guarded transition to `failed` is executed, and not committed. -/
structure Failing (session : WorkerSession) : Prop where
  row : session.row.status.Nonterminal
  usable : session.unusable = false
  expired : ∀ job, session.job = some job → job.expired = true
  updated : ∃ row, session.updated = some row ∧ ¬ row.status.Nonterminal

theorem Failing.uncommitted {session : WorkerSession} (h : Failing session) :
    Uncommitted session where
  row := h.row
  loaded job hjob hexpired := by
    rw [h.expired job hjob] at hexpired
    cases hexpired

/-- The flush of an expired object changes nothing. -/
theorem Failing.committed {session : WorkerSession} (h : Failing session) :
    Terminal session.committed := by
  obtain ⟨row, hupdated, hterminal⟩ := h.updated
  have hrow : session.committed.row = row := by
    cases hjob : session.job with
    | none => simp [WorkerSession.committed, WorkerSession.visible, hjob, hupdated]
    | some job =>
        simp [WorkerSession.committed, WorkerSession.visible, hjob, hupdated,
          LoadedJob.flushTo, h.expired job hjob]
  rwa [Terminal, hrow]

theorem ensures_execute_transition {E : PreviewException → WorkerSession → Prop}
    (completedAt : Timestamp) :
    Ensures RolledBack
      (execute fun row =>
        if row.status.Nonterminal then
          some (Jobs.transitionJobAfterOperationalFailure false operationalFailureMessage
            completedAt row)
        else
          none)
      (fun _ => Failing) E := by
  refine ensures_of_returns fun s hs => ?_
  have hvisible : s.visible = s.row := by
    rw [WorkerSession.visible, hs.updated, Option.getD_none]
  exact ⟨_, _, execute_of_usable hs.usable (by rw [hvisible, if_pos hs.row]), hs.row, hs.usable,
    hs.expired, _, rfl, transition_terminal operationalFailureMessage completedAt s.row⟩

/-- The guarded transition fails the row, or its commit is refused. -/
theorem ensures_transition (site : Site) :
    Ensures RolledBack (transitionJobAfterOperationalFailure collaborators site)
      (fun _ => Terminal) (fun e s => Refused e s ∧ ⟨site, e⟩ ∈ s.faults) := by
  refine (ensures_now collaborators).bind fun completedAt =>
    (ensures_execute_transition completedAt).bind fun changed => ?_
  refine Ensures.bind (S := fun _ s => Terminal s ∧ s.unusable = false)
    ⟨fun {s _ s'} hs hrun => ?_, fun {s e s'} hs hrun => ?_⟩ fun _ => ?_
  · rcases commit_cases collaborators site s with
      ⟨-, h⟩ | ⟨husable, h⟩ | ⟨-, error, atFlush, h⟩ <;> rw [h] at hrun <;> cases hrun
    exact ⟨hs.committed, husable⟩
  · rcases commit_cases collaborators site s with
      ⟨hunusable, h⟩ | ⟨-, h⟩ | ⟨-, error, atFlush, h⟩ <;> rw [h] at hrun <;> cases hrun
    · rw [hs.usable] at hunusable
      cases hunusable
    · exact ⟨hs.uncommitted.refused_database site error atFlush,
        List.mem_append_right _ (List.mem_singleton_self _)⟩
  · cases changed with
    | false => exact ensures_pure fun _ hs => hs.1
    | true =>
        exact ensures_of_returns fun s hs => ⟨_, _, getJob_of_usable hs.2, hs.1⟩

theorem ensures_handleUnexpected :
    Ensures Unfinished (handleUnexpected collaborators) (fun _ => Terminal) Escaped := by
  refine Ensures.bind (S := fun _ => Unfinished)
    (ensures_of_returns fun s hs => ⟨_, _, rfl, hs⟩) fun session => ?_
  split
  · exact ensures_rollback.bind fun _ =>
      (ensures_transition collaborators .transition).imp_raises fun _ _ h => h.1.escaped
  · exact ensures_persistFailure collaborators _

/-- Each clause ends in a terminal row, or raises with the row unfinished. -/
theorem ensures_handleException (error : PreviewException) :
    Ensures (Interrupted error) (handleException collaborators error) (fun _ => Terminal)
      Escaped := by
  have hpersist : ∀ message, Ensures (Interrupted error)
      (assertJob >>= fun _ => persistFailure collaborators message) (fun _ => Terminal) Escaped :=
    fun message => (ensures_assertJob.bind fun _ =>
      ensures_persistFailure collaborators message).of_pre fun _ hs => hs.unfinished
  have hretry : error.Retryable →
      Ensures (Interrupted error) raiseTransientFailure (fun _ => Terminal) Escaped :=
    fun hretryable => ensures_raiseTransientFailure.of_pre fun _ hs =>
      ⟨hs.unfinished, hs.retried hretryable⟩
  have hunexpected : Ensures (Interrupted error) (handleUnexpected collaborators)
      (fun _ => Terminal) Escaped :=
    (ensures_handleUnexpected collaborators).of_pre fun _ hs => hs.unfinished
  cases error with
  | strategyValidationError message => exact hpersist message
  | strategyCompilationError message => exact hpersist message
  | marketDataUnavailableError message => exact hpersist message
  | strategyProviderTimeoutError => exact hretry (Or.inl rfl)
  | strategyParserError => exact hpersist _
  | database error =>
      by_cases htransient : (PreviewException.database error).TransientDatabase
      · simp only [handleException, if_pos htransient]
        exact hretry (Or.inr htransient)
      · simp only [handleException, if_neg htransient]
        exact hunexpected
  | pendingRollbackError => exact hunexpected
  | transientPreviewJobError => exact hunexpected
  | assertionError => exact hunexpected
  | other => exact hunexpected

theorem ensures_runPreviewJob (allowRunningRetry : Bool) :
    Ensures Fresh (runPreviewJob collaborators allowRunningRetry) (fun _ => Terminal) Escaped :=
  (ensures_executeJob collaborators allowRunningRetry).tryCatch fun error =>
    (ensures_handleException collaborators error).bind fun _ => ensures_pure fun _ hs => hs

/-- The worker returned: the row is terminal, or the last write was refused for good. -/
def Returned (session : WorkerSession) : Prop :=
  Terminal session ∨
    ∃ fault ∈ session.faults, fault.site = .lastResort ∧ ¬ fault.error.TransientDatabase

/-- The worker asked for a retry. -/
structure Raised (error : PreviewException) (session : WorkerSession) : Prop where
  error : error = .transientPreviewJobError
  row : session.row.status.Nonterminal
  retried : Retried session

theorem ensures_handleWorkerException (error : PreviewException) :
    Ensures (Escaped error) (handleWorkerException collaborators error) (fun _ => Returned)
      Raised := by
  have hraise : Ensures (fun s => Unfinished s ∧ Retried s)
      (rollback >>= fun _ => throw .transientPreviewJobError : WorkerM Unit) (fun _ => Returned)
      Raised :=
    Ensures.bind (S := fun _ s => Unfinished s ∧ Retried s)
      (ensures_of_returns fun s hs => ⟨_, _, rfl, hs.1.rolledBack, hs.2⟩)
      fun _ => ensures_throw fun _ hs => ⟨rfl, hs.1.row, hs.2⟩
  unfold handleWorkerException
  split
  · rename_i htransient
    exact hraise.of_pre fun _ hs => ⟨hs.unfinished, hs.retried (Or.inr htransient)⟩
  · split
    · rename_i heq
      exact ensures_throw fun _ hs => ⟨heq, hs.unfinished.row, hs.retried (Or.inl heq)⟩
    · refine (ensures_rollback.of_pre fun _ hs => hs.unfinished).bind fun _ => ?_
      have hterminal : Ensures RolledBack
          (transitionJobAfterOperationalFailure collaborators .lastResort) (fun _ => Returned)
          (fun e s => Refused e s ∧ ⟨.lastResort, e⟩ ∈ s.faults) :=
        (ensures_transition collaborators .lastResort).imp_returns fun _ _ => Or.inl
      refine hterminal.tryCatch fun persistenceError => ?_
      split
      · rename_i htransient
        exact hraise.of_pre fun _ hs =>
          ⟨hs.1.unfinished, hs.1.retried (Or.inr htransient)⟩
      · rename_i hpermanent
        exact ensures_of_returns fun s hs =>
          ⟨_, _, rfl, Or.inr ⟨_, hs.2, rfl, hpermanent⟩⟩

theorem after_releaseLock (session : WorkerSession) :
    after releaseLock session = session.rolledBack := rfl

theorem ensures_processPreviewJob (settings : Settings) (retriesLeft : Option Nat) :
    Ensures Fresh (processPreviewJob collaborators settings retriesLeft) (fun _ => Returned)
      Raised := by
  refine Ensures.withCleanup (Ensures.tryCatch
    ((ensures_runPreviewJob collaborators _).bind fun _ => ensures_pure fun _ hs => Or.inl hs)
    (ensures_handleWorkerException collaborators)) (fun _ s hs => ?_) (fun _ s hs => ?_)
  · rw [after_releaseLock]
    exact hs
  · rw [after_releaseLock]
    exact ⟨hs.error, hs.row, hs.retried⟩

end Operations

/-- Whatever the parser, the preview factory and the commits do: a worker that raises asks for a
    retry of an unfinished row, for a provider timeout or a transient database error; one that
    returns leaves a terminal row, unless its last-resort write was refused for good. -/
theorem processPreviewJob_durable (collaborators : Collaborators) (settings : Settings)
    (retriesLeft : Option Nat) (row : PreviewJob) (hqueued : row.status = .queued) :
    (∀ error session,
      processPreviewJob collaborators settings retriesLeft (.opened row) = .error error session →
        error = .transientPreviewJobError ∧
        (session.row.status = .queued ∨ session.row.status = .running) ∧
        ∃ fault ∈ session.faults,
          fault.error = .strategyProviderTimeoutError ∨ fault.error.TransientDatabase) ∧
    (∀ session,
      processPreviewJob collaborators settings retriesLeft (.opened row) = .ok () session →
        (session.row.status = .completed ∨ session.row.status = .failed) ∨
        ∃ fault ∈ session.faults,
          fault.site = .lastResort ∧ ¬ fault.error.TransientDatabase) := by
  have hfresh : Fresh (.opened row) := ⟨hqueued, rfl, rfl, rfl⟩
  have hrun := ensures_processPreviewJob collaborators settings retriesLeft
  constructor
  · intro error session h
    obtain ⟨herror, hrow, hretried⟩ := hrun.raises hfresh h
    exact ⟨herror, hrow, hretried⟩
  · intro session h
    exact (hrun.returns hfresh h).imp_left JobStatus.terminal_iff.mp

/-- The parser fails, the flush of the failure is refused as transient, `job.id` cannot be read
    for the retry, and the last-resort write is refused for good: the row stays running. -/
theorem processPreviewJob_durable_unpersisted :
    ∃ session, processPreviewJob
        ⟨fun _ => .error .strategyParserError, fun _ => .error .other,
          ⟨fun _ => "", fun _ => "", fun _ => "", fun _ => ""⟩,
          fun n => if n = 0 then .accepted else
            if n = 1 then .refused .operationalError true else .refused .other false,
          fun _ => 0⟩
        defaultSettings none
        (.opened (createJob defaultSettings 1 "user" "Buy above 10." none 0)) =
          .ok () session ∧
      session.row.status = .running ∧
      ∃ fault ∈ session.faults, fault.site = .lastResort ∧ ¬ fault.error.TransientDatabase := by
  refine ⟨_, rfl, rfl, ?_⟩
  obtain ⟨-, hreturned⟩ := processPreviewJob_durable
    ⟨fun _ => .error .strategyParserError, fun _ => .error .other,
      ⟨fun _ => "", fun _ => "", fun _ => "", fun _ => ""⟩,
      fun n => if n = 0 then .accepted else
        if n = 1 then .refused .operationalError true else .refused .other false,
      fun _ => 0⟩
    defaultSettings none (createJob defaultSettings 1 "user" "Buy above 10." none 0) rfl
  exact (hreturned _ rfl).resolve_left (by rintro (h | h) <;> cases h)

end Workers
end TradingPlatform
