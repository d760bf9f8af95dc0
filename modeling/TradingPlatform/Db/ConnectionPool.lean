/-
  TradingPlatform.Db.ConnectionPool

  `submit_preview_job` on a shared connection pool.

  An advisory lock belongs to the connection that took it, not to the session:
  `create_job` commits, which gives that connection back to the pool, and the
  unlock in the `finally` block runs on whatever connection the session is given
  then, if it is given one.  A failed unlock is answered by `session.invalidate()`,
  which closes the session's connection and no other.  A session that gets back
  the connection it returned last releases its lock; with another request in
  between, or with a time-out of the pool, the lock stays with a pooled
  connection.
-/

import Mathlib.Logic.Function.Basic
import TradingPlatform.Jobs.JobStore
import TradingPlatform.Lib.Transition

namespace TradingPlatform
namespace Db

open Jobs Relation

/-- A pooled connection. -/
abbrev ConnectionId := Nat
/-- A call of `submit_preview_job`. -/
abbrev CallId := Nat

-- ============================================================================
-- Calls and the pool
-- ============================================================================

/-- How far a call of `submit_preview_job` has come. -/
inductive CallPhase where
  /-- `acquire_preview_job_lock` -/
  | acquiring
  /-- the lock is held, `create_job` has not committed -/
  | creating
  /-- committed, before `session.refresh` -/
  | refreshing
  | enqueueing
  /-- `queue.enqueue` raised, before `fail_job` commits -/
  | failing
  /-- in the `finally` block, before `session.rollback` -/
  | finishing
  /-- before `release_preview_job_lock` -/
  | releasing
  /-- the call has returned or raised; the request's session is still open -/
  | returned
  | closed
deriving DecidableEq, Repr

/-- A call with its session: the connection it has checked out, and (for the conditions below,
    no code reads it) the one it gave back last. -/
structure Call where
  jobId : JobId
  phase : CallPhase
  connection : Option ConnectionId
  givenBack : Option ConnectionId
deriving DecidableEq, Repr

/-- After a statement on the connection. -/
def Call.on (call : Call) (connection : ConnectionId) (phase : CallPhase) : Call :=
  { call with
    phase := phase
    connection := some connection }

/-- After `session.commit()`, `session.rollback()` or `session.close()`. -/
def Call.giveBack (call : Call) (phase : CallPhase) : Call :=
  { call with
    phase := phase
    connection := none
    givenBack := call.connection.or call.givenBack }

/-- After `session.invalidate()`, which closes the connection of the session if it has one. -/
def Call.invalidated (call : Call) (phase : CallPhase) : Call :=
  { call with
    phase := phase
    connection := none }

/-- The calls with their sessions, and the advisory locks. -/
structure Api where
  calls : CallId → Option Call
  /-- the connection that owns the advisory lock of the job -/
  locks : JobId → Option ConnectionId

namespace Api

/-- No call has begun, and no lock is held. -/
def initial : Api := ⟨fun _ => none, fun _ => none⟩

/-- The call has advanced. -/
def setCall (s : Api) (i : CallId) (call : Call) : Api :=
  { s with calls := Function.update s.calls i (some call) }

/-- A lock is taken by a connection, or given up. -/
def setLock (s : Api) (jobId : JobId) (owner : Option ConnectionId) : Api :=
  { s with locks := Function.update s.locks jobId owner }

/-- `pg_advisory_unlock` on a connection that does not own the lock has no effect. -/
def unlock (s : Api) (jobId : JobId) (connection : ConnectionId) : Api :=
  if s.locks jobId = some connection then s.setLock jobId none else s

/-- PostgreSQL releases the locks of a closed connection. -/
def disconnect (s : Api) (connection : ConnectionId) : Api :=
  { s with locks := fun jobId =>
      if s.locks jobId = some connection then none else s.locks jobId }

/-- No session has the connection checked out. -/
def Idle (s : Api) (connection : ConnectionId) : Prop :=
  ∀ i call, s.calls i = some call → call.connection ≠ some connection

section Projections

variable (s : Api)

@[simp, grind =] theorem setCall_calls (i k : CallId) (call : Call) :
    (s.setCall i call).calls k = if k = i then some call else s.calls k :=
  Function.update_apply ..

@[simp, grind =] theorem setCall_locks (i : CallId) (call : Call) (j : JobId) :
    (s.setCall i call).locks j = s.locks j := rfl

@[simp, grind =] theorem setLock_calls (j : JobId) (owner : Option ConnectionId) (i : CallId) :
    (s.setLock j owner).calls i = s.calls i := rfl

@[simp, grind =] theorem setLock_locks (j k : JobId) (owner : Option ConnectionId) :
    (s.setLock j owner).locks k = if k = j then owner else s.locks k :=
  Function.update_apply ..

@[simp, grind =] theorem unlock_calls (j : JobId) (c : ConnectionId) (i : CallId) :
    (s.unlock j c).calls i = s.calls i := by
  unfold unlock
  split <;> rfl

@[simp, grind =] theorem unlock_locks (j k : JobId) (c : ConnectionId) :
    (s.unlock j c).locks k = if k = j ∧ s.locks j = some c then none else s.locks k := by
  unfold unlock
  by_cases howner : s.locks j = some c <;> by_cases hk : k = j <;> simp [howner, hk]

@[simp, grind =] theorem disconnect_calls (c : ConnectionId) (i : CallId) :
    (s.disconnect c).calls i = s.calls i := rfl

@[simp, grind =] theorem disconnect_locks (c : ConnectionId) (j : JobId) :
    (s.disconnect c).locks j = if s.locks j = some c then none else s.locks j := rfl

end Projections
end Api

-- ============================================================================
-- Steps
-- ============================================================================

/-- What the pool may do when a session asks for a connection. -/
structure Pool where
  /-- the session may be given this idle connection -/
  mayCheckOut : Call → ConnectionId → Prop
  /-- an unlock may be given no connection: `pool_timeout` has passed, or none can be opened -/
  mayFailCheckOut : Prop

/-- The connection on which the session's next statement runs. -/
def RunsOn (pool : Pool) (s : Api) (call : Call) (connection : ConnectionId) : Prop :=
  call.connection = some connection ∨
    (call.connection = none ∧ s.Idle connection ∧ pool.mayCheckOut call connection)

/-- One database, queue or pool operation of one call. -/
inductive ApiStep (pool : Pool) : Api → Api → Prop where
  /-- a request, whose session may have used a connection before -/
  | call {s : Api} {i : CallId} {j : JobId} (connection : Option ConnectionId)
      (hnew : s.calls i = none) (hlock : s.locks j = none)
      (hfresh : ∀ k other, s.calls k = some other → other.jobId ≠ j)
      (hidle : ∀ c, connection = some c → s.Idle c) :
      ApiStep pool s (s.setCall i ⟨j, .acquiring, connection, none⟩)
  | acquire {s : Api} {i : CallId} {call : Call} {c : ConnectionId}
      (hcall : s.calls i = some call) (hphase : call.phase = .acquiring)
      (hruns : RunsOn pool s call c) (hfree : s.locks call.jobId = none) :
      ApiStep pool s ((s.setLock call.jobId (some c)).setCall i (call.on c .creating))
  /-- the lock is held elsewhere: `session.rollback()`, then another try or an exception -/
  | acquireFails {s : Api} {i : CallId} {call : Call} {c owner : ConnectionId}
      {next : CallPhase} (hcall : s.calls i = some call) (hphase : call.phase = .acquiring)
      (hruns : RunsOn pool s call c) (hheld : s.locks call.jobId = some owner)
      (howner : owner ≠ c) (hnext : next = .acquiring ∨ next = .returned) :
      ApiStep pool s (s.setCall i ((call.on c .acquiring).giveBack next))
  /-- the statement, or the check-out for it, raised -/
  | acquireRaises {s : Api} {i : CallId} {call : Call} (hcall : s.calls i = some call)
      (hphase : call.phase = .acquiring) :
      ApiStep pool s (s.setCall i { call with phase := .returned })
  | commit {s : Api} {i : CallId} {call : Call} (hcall : s.calls i = some call)
      (hphase : call.phase = .creating) :
      ApiStep pool s (s.setCall i (call.giveBack .refreshing))
  | refresh {s : Api} {i : CallId} {call : Call} {c : ConnectionId}
      (hcall : s.calls i = some call) (hphase : call.phase = .refreshing)
      (hruns : RunsOn pool s call c) :
      ApiStep pool s (s.setCall i (call.on c .enqueueing))
  /-- `session.refresh` raised on its connection -/
  | refreshFails {s : Api} {i : CallId} {call : Call} {c : ConnectionId}
      (hcall : s.calls i = some call) (hphase : call.phase = .refreshing)
      (hruns : RunsOn pool s call c) :
      ApiStep pool s (s.setCall i (call.on c .finishing))
  /-- an exception from `create_job`, or from `fail_job` after one from `enqueue` -/
  | raise {s : Api} {i : CallId} {call : Call} (hcall : s.calls i = some call)
      (hphase : call.phase = .creating ∨ call.phase = .refreshing ∨ call.phase = .failing) :
      ApiStep pool s (s.setCall i { call with phase := .finishing })
  | enqueue {s : Api} {i : CallId} {call : Call} (hcall : s.calls i = some call)
      (hphase : call.phase = .enqueueing) :
      ApiStep pool s (s.setCall i { call with phase := .finishing })
  | enqueueFails {s : Api} {i : CallId} {call : Call} (hcall : s.calls i = some call)
      (hphase : call.phase = .enqueueing) :
      ApiStep pool s (s.setCall i { call with phase := .failing })
  | failJob {s : Api} {i : CallId} {call : Call} (hcall : s.calls i = some call)
      (hphase : call.phase = .failing) :
      ApiStep pool s (s.setCall i (call.giveBack .finishing))
  | rollback {s : Api} {i : CallId} {call : Call} (hcall : s.calls i = some call)
      (hphase : call.phase = .finishing) :
      ApiStep pool s (s.setCall i (call.giveBack .releasing))
  /-- `session.rollback()` raised on its connection, which `session.invalidate()` closes -/
  | rollbackFails {s : Api} {i : CallId} {call : Call} {c : ConnectionId}
      (hcall : s.calls i = some call) (hphase : call.phase = .finishing)
      (hconnection : call.connection = some c) :
      ApiStep pool s ((s.disconnect c).setCall i (call.invalidated .returned))
  | release {s : Api} {i : CallId} {call : Call} {c : ConnectionId}
      (hcall : s.calls i = some call) (hphase : call.phase = .releasing)
      (hruns : RunsOn pool s call c) :
      ApiStep pool s ((s.unlock call.jobId c).setCall i (call.on c .returned))
  /-- the unlock raised on its connection, which `session.invalidate()` closes -/
  | releaseFails {s : Api} {i : CallId} {call : Call} {c : ConnectionId}
      (hcall : s.calls i = some call) (hphase : call.phase = .releasing)
      (hruns : RunsOn pool s call c) :
      ApiStep pool s ((s.disconnect c).setCall i (call.invalidated .returned))
  /-- the check-out for the unlock raised: `session.invalidate()` finds no connection to close,
      and the call returns as if the lock were released -/
  | releaseUnconnected {s : Api} {i : CallId} {call : Call} (hpool : pool.mayFailCheckOut)
      (hcall : s.calls i = some call) (hphase : call.phase = .releasing)
      (hconnection : call.connection = none) :
      ApiStep pool s (s.setCall i (call.invalidated .returned))
  | close {s : Api} {i : CallId} {call : Call} (hcall : s.calls i = some call)
      (hphase : call.phase = .returned) :
      ApiStep pool s (s.setCall i (call.giveBack .closed))
  /-- the pool closes an idle connection past `pool_recycle`, or any connection is lost -/
  | discard {s : Api} {c : ConnectionId} : ApiStep pool s (s.disconnect c)

/-- The call has returned, normally or by an exception. -/
def CallPhase.Over (phase : CallPhase) : Prop := phase = .returned ∨ phase = .closed

/-- In every interleaving, once a call has returned no connection owns its job's lock. -/
def LocksReleased (pool : Pool) : Prop :=
  ∀ s : Api, ReflTransGen (ApiStep pool) .initial s →
    ∀ i call, s.calls i = some call → call.phase.Over → s.locks call.jobId = none

/-- Any idle connection, or none. -/
def anyIdle : Pool where
  mayCheckOut _ _ := True
  mayFailCheckOut := True

/-- A session that has given a connection back is given the same one again, and an unlock is
    given one. -/
def lastGivenBack : Pool where
  mayCheckOut call c := ∀ last, call.givenBack = some last → c = last
  mayFailCheckOut := False

-- ============================================================================
-- Under the condition
-- ============================================================================

/-- The connection the session has, or else had last. -/
def Call.affine (call : Call) : Option ConnectionId := call.connection.or call.givenBack

@[simp, grind =] theorem affine_on (call : Call) (c : ConnectionId) (phase : CallPhase) :
    (call.on c phase).affine = some c := rfl

@[simp, grind =] theorem affine_giveBack (call : Call) (phase : CallPhase) :
    (call.giveBack phase).affine = call.affine := by
  simp [Call.affine, Call.giveBack]

@[simp, grind =] theorem affine_phase (call : Call) (phase : CallPhase) :
    ({ call with phase := phase } : Call).affine = call.affine := rfl

@[simp, grind =] theorem invalidated_jobId (call : Call) (phase : CallPhase) :
    (call.invalidated phase).jobId = call.jobId := rfl

@[simp, grind =] theorem invalidated_phase (call : Call) (phase : CallPhase) :
    (call.invalidated phase).phase = phase := rfl

@[simp, grind =] theorem on_jobId (call : Call) (c : ConnectionId) (phase : CallPhase) :
    (call.on c phase).jobId = call.jobId := rfl

@[simp, grind =] theorem on_phase (call : Call) (c : ConnectionId) (phase : CallPhase) :
    (call.on c phase).phase = phase := rfl

@[simp, grind =] theorem giveBack_jobId (call : Call) (phase : CallPhase) :
    (call.giveBack phase).jobId = call.jobId := rfl

@[simp, grind =] theorem giveBack_phase (call : Call) (phase : CallPhase) :
    (call.giveBack phase).phase = phase := rfl

/-- Between the acquisition and the release. -/
def CallPhase.holding : CallPhase → Bool
  | .creating | .refreshing | .enqueueing | .failing | .finishing | .releasing => true
  | .acquiring | .returned | .closed => false

attribute [grind =] CallPhase.holding

namespace Api

/-- No two calls have the same job. -/
def DistinctJobs (s : Api) : Prop :=
  ∀ i k call other, s.calls i = some call → s.calls k = some other →
    call.jobId = other.jobId → i = k

/-- An owned lock is owned by the connection its call had last, and the call has not released
    it. -/
def Tracked (s : Api) : Prop :=
  ∀ i call c, s.calls i = some call → s.locks call.jobId = some c →
    call.phase.holding = true ∧ call.affine = some c

end Api

section Steps

variable {s s' : Api}

theorem affine_connection {call : Call} {c d : ConnectionId}
    (hconnection : call.connection = some c) (h : call.affine = some d) : c = d := by
  rw [Call.affine, hconnection, Option.some_or] at h
  exact Option.some.inj h

/-- Under the condition a session stays on its connection. -/
theorem runsOn_affine {call : Call} {c d : ConnectionId} (hruns : RunsOn lastGivenBack s call c)
    (h : call.affine = some d) : c = d := by
  rcases hruns with hconnection | ⟨hnone, -, hlast⟩
  · exact affine_connection hconnection h
  · rw [Call.affine, hnone, Option.none_or] at h
    exact hlast d h

theorem distinctJobs_step {pool : Pool} (hstep : ApiStep pool s s')
    (h : s.DistinctJobs) : s'.DistinctJobs := by
  unfold Api.DistinctJobs at *
  cases hstep with
  | _ => grind

theorem tracked_step (hstep : ApiStep lastGivenBack s s') (hjobs : s.DistinctJobs)
    (h : s.Tracked) : s'.Tracked := by
  unfold Api.DistinctJobs Api.Tracked at *
  cases hstep with
  | acquire hcall hphase hruns hfree => grind
  | refresh hcall hphase hruns =>
      have hsame := fun d => runsOn_affine (d := d) hruns
      grind
  | refreshFails hcall hphase hruns =>
      have hsame := fun d => runsOn_affine (d := d) hruns
      grind
  | rollbackFails hcall hphase hconnection =>
      have hsame := fun d => affine_connection (d := d) hconnection
      grind
  | release hcall hphase hruns =>
      -- the unlock runs on the owner, so that the lock is free when the call returns
      have hsame := fun d => runsOn_affine (d := d) hruns
      grind
  | releaseFails hcall hphase hruns =>
      -- so does one that fails, and its connection is closed
      have hsame := fun d => runsOn_affine (d := d) hruns
      grind
  | releaseUnconnected hpool hcall hphase hconnection => exact False.elim hpool
  | _ => grind

end Steps

/-- If a session is always given back the connection it returned last, and an unlock is given
    one, no call leaks its lock. -/
theorem locksReleased {s : Api} (hrun : ReflTransGen (ApiStep lastGivenBack) .initial s)
    {i : CallId} {call : Call} (hcall : s.calls i = some call) (hover : call.phase.Over) :
    s.locks call.jobId = none := by
  have hjobsStep (s s' : Api) (hstep : ApiStep lastGivenBack s s') :
      s.DistinctJobs → s'.DistinctJobs := distinctJobs_step hstep
  have hjobs : ∀ s, ReflTransGen (ApiStep lastGivenBack) .initial s → s.DistinctJobs := by
    intro s hreached
    refine Transition.invariant ?_ hjobsStep hreached
    intro i k call other h
    cases h
  have htracked : s.Tracked := by
    refine Transition.invariant_of hjobs ?_ (fun _ _ => tracked_step) hrun
    intro i call c h
    cases h
  cases hlock : s.locks call.jobId with
  | none => rfl
  | some c =>
      have hholding := (htracked i call c hcall hlock).1
      rcases hover with hphase | hphase <;> rw [hphase] at hholding <;> cases hholding

theorem idle_of_two {s : Api} {c : ConnectionId}
    (hfirst : ∀ call, s.calls 0 = some call → call.connection ≠ some c)
    (hsecond : ∀ call, s.calls 1 = some call → call.connection ≠ some c)
    (hothers : ∀ i, s.calls (i + 2) = none) : s.Idle c := by
  intro i call hcall
  match i, hcall with
  | 0, hcall => exact hfirst call hcall
  | 1, hcall => exact hsecond call hcall
  | i + 2, hcall =>
      rw [hothers i] at hcall
      cases hcall

/-- One request alone, on one connection. -/
theorem locksReleased_oneRequest :
    ∃ s call, ReflTransGen (ApiStep lastGivenBack) .initial s ∧ s.calls 0 = some call ∧
      call.phase = .returned ∧ s.locks call.jobId = none := by
  have run : ReflTransGen (ApiStep lastGivenBack) .initial _ :=
    .single (.call (i := 0) (j := 0) none rfl rfl nofun nofun)
  have run := run.tail (.acquire (i := 0) (c := 0) rfl rfl
    (Or.inr ⟨rfl, idle_of_two (by rintro call ⟨⟩; decide) nofun (fun _ => rfl), nofun⟩) rfl)
  have run := run.tail (.commit (i := 0) rfl rfl)
  have run := run.tail (.refresh (i := 0) (c := 0) rfl rfl
    (Or.inr ⟨rfl, idle_of_two (by rintro call ⟨⟩; decide) nofun (fun _ => rfl),
      by rintro last ⟨⟩; rfl⟩))
  have run := run.tail (.enqueue (i := 0) rfl rfl)
  have run := run.tail (.rollback (i := 0) rfl rfl)
  have run := run.tail (.release (i := 0) (c := 0) rfl rfl
    (Or.inr ⟨rfl, idle_of_two (by rintro call ⟨⟩; decide) nofun (fun _ => rfl),
      by rintro last ⟨⟩; rfl⟩))
  exact ⟨_, _, run, rfl, rfl, locksReleased run (i := 0) rfl (Or.inl rfl)⟩

-- ============================================================================
-- Another request in between, or no connection
-- ============================================================================

/-- The second request takes the first one's connection after its commit; the first one unlocks
    on another connection, and its lock stays. -/
theorem locksReleased_connectionTaken : ¬ LocksReleased anyIdle := by
  intro hreleased
  have run : ReflTransGen (ApiStep anyIdle) .initial _ :=
    .single (.call (i := 0) (j := 0) none rfl rfl nofun nofun)
  have run := run.tail (.acquire (i := 0) (c := 0) rfl rfl
    (Or.inr ⟨rfl, idle_of_two (by rintro call ⟨⟩; decide) nofun (fun _ => rfl), trivial⟩) rfl)
  have run := run.tail (.commit (i := 0) rfl rfl)
  -- the second request gets the connection that owns the first one's lock
  have run := run.tail (.call (i := 1) (j := 1) none rfl rfl (by
    intro k other hother
    match k, hother with
    | 0, hother =>
        cases hother
        decide
    | _ + 1, hother => cases hother) nofun)
  have run := run.tail (.acquire (i := 1) (c := 0) rfl rfl
    (Or.inr ⟨rfl, idle_of_two (by rintro call ⟨⟩; decide) (by rintro call ⟨⟩; decide)
      (fun _ => rfl), trivial⟩) rfl)
  -- the first one goes on with another connection
  have run := run.tail (.refresh (i := 0) (c := 1) rfl rfl
    (Or.inr ⟨rfl, idle_of_two (by rintro call ⟨⟩; decide) (by rintro call ⟨⟩; decide)
      (fun _ => rfl), trivial⟩))
  have run := run.tail (.enqueue (i := 0) rfl rfl)
  have run := run.tail (.rollback (i := 0) rfl rfl)
  have run := run.tail (.release (i := 0) (c := 1) rfl rfl
    (Or.inr ⟨rfl, idle_of_two (by rintro call ⟨⟩; decide) (by rintro call ⟨⟩; decide)
      (fun _ => rfl), trivial⟩))
  have hfree := hreleased _ run 0 _ rfl (Or.inl rfl)
  cases hfree

/-- One request alone, always given its own connection: the check-out for the unlock fails, the
    call returns, and its lock stays. -/
theorem locksReleased_unlockUnconnected :
    ¬ LocksReleased { lastGivenBack with mayFailCheckOut := True } := by
  intro hreleased
  have run : ReflTransGen (ApiStep { lastGivenBack with mayFailCheckOut := True }) .initial _ :=
    .single (.call (i := 0) (j := 0) none rfl rfl nofun nofun)
  have run := run.tail (.acquire (i := 0) (c := 0) rfl rfl
    (Or.inr ⟨rfl, idle_of_two (by rintro call ⟨⟩; decide) nofun (fun _ => rfl), nofun⟩) rfl)
  have run := run.tail (.commit (i := 0) rfl rfl)
  have run := run.tail (.refresh (i := 0) (c := 0) rfl rfl
    (Or.inr ⟨rfl, idle_of_two (by rintro call ⟨⟩; decide) nofun (fun _ => rfl),
      by rintro last ⟨⟩; rfl⟩))
  have run := run.tail (.enqueue (i := 0) rfl rfl)
  have run := run.tail (.rollback (i := 0) rfl rfl)
  have run := run.tail (.releaseUnconnected (i := 0) trivial rfl rfl rfl)
  have hfree := hreleased _ run 0 _ rfl (Or.inl rfl)
  cases hfree

end Db
end TradingPlatform
