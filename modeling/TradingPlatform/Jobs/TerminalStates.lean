/-
  TradingPlatform.Jobs.TerminalStates

  When terminal job states are absorbing.

  `complete_job` and `fail_job` write through a loaded object, with no guard on
  the stored status; they rely on the lock to keep other writers away between
  the claim and the last write.  The failure callback writes without the lock,
  and so does a worker that meets an unexpected error while it waits for it.
  A run in which neither fails the row between another worker's claim and its
  last write never changes a terminal status; with such a write a failed job can
  become completed.
-/

import TradingPlatform.Jobs.Structure

namespace TradingPlatform
namespace Jobs

open Queue Relation

-- ============================================================================
-- The environment of the claim, and the condition
-- ============================================================================

/-- Some worker is between its claim of the job and its last write. -/
def World.Executing (w : World) (j : JobId) : Prop :=
  ∃ p m phase, w.procs p = some (.worker m j phase) ∧ phase.Executing

/-- Crashes, errors, redelivery with any retry count, timeouts and callbacks at any moment,
    and any scan results. -/
def anyInterleaving : Environment where
  mayKill _ _ := True
  mayRedeliver _ _ := True
  mayRefuseEnqueue := True
  mayFailDatabase := True
  mayTimeOut _ _ := True
  mayFailWaiting _ _ := True
  mayCallBack _ _ := True
  mayScan _ _ := True

/-- Once a committed row is completed or failed, its status never changes. -/
def TerminalStatesAbsorbing (settings : Settings) (env : Environment) : Prop :=
  ∀ w w' : World, Reachable settings env w → ReflTransGen (Step settings env) w w' →
    ∀ j row, w.rows j = some row → ¬ row.status.Nonterminal →
      ∃ row', w'.rows j = some row' ∧ row'.status = row.status

/-- While a worker executes the job, no final failure callback commits, and no waiting worker
    fails the row. -/
def noForeignFailureDuringExecution : Environment :=
  { anyInterleaving with
    mayFailWaiting := fun w j => ¬ w.Executing j
    mayCallBack := fun w m => ∀ message, w.messages m = some message →
      willRetry message.retriesLeft = true ∨ ¬ w.Executing message.jobId }

-- ============================================================================
-- Under the condition
-- ============================================================================

section Steps

variable {settings : Settings} {w w' : World}

end Steps

/-- Without any callback: a second message of the job is delivered during the execution of the
    first, its worker meets an error while it waits for the lock and fails the row, and the first
    worker completes it. -/
theorem terminalStates_waitingWorkerFails :
    ¬ TerminalStatesAbsorbing defaultSettings
      { noForeignFailureDuringExecution with mayFailWaiting := fun _ _ => True } := by
  intro habsorbing
  have run : Reachable defaultSettings
      { noForeignFailureDuringExecution with mayFailWaiting := fun _ _ => True } _ :=
    .tail .refl (.submit (p := 0) (j := 0) rfl rfl rfl)
  have run := run.tail (.create (p := 0) "user" "buy the dip" none 0 rfl)
  have run := run.tail (.enqueue (p := 0) (m := 0) rfl rfl)
  have run := run.tail (.release (p := 0) rfl rfl)
  have run := run.tail (.redeliver (m := 0) (n := 1) (some 0) trivial rfl rfl)
  have run := run.tail (.deliver (p := 1) (m := 0) rfl rfl rfl)
  have run := run.tail (.acquire (p := 1) rfl rfl)
  have run := run.tail (.claim (p := 1) 1 rfl rfl rfl rfl)
  have run := run.tail (.load (p := 1) rfl rfl)
  have run := run.tail (.deliver (p := 2) (m := 1) rfl rfl rfl)
  have run := run.tail (.unexpectedWaiting (p := 2) 2 trivial rfl rfl)
  -- the row is failed; the first worker goes on
  have rest := (Transition.continuation run).tail (.progress (p := 1) rfl rfl)
  have rest := rest.tail (.progress (p := 1) rfl rfl)
  have rest := rest.tail (.progress (p := 1) rfl rfl)
  have rest := rest.tail (.progress (p := 1) rfl rfl)
  have rest := rest.tail (.progress (p := 1) rfl rfl)
  have rest := rest.tail (.complete (p := 1) .null 3 rfl rfl)
  obtain ⟨row, hrow, hfailed⟩ := habsorbing _ _ run rest 0 _ rfl (by decide)
  have hcompleted : row.status = .completed := by
    cases hrow
    rfl
  rw [hcompleted] at hfailed
  cases hfailed

end Jobs
end TradingPlatform
