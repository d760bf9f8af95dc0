/-
  TradingPlatform.Services.PreviewReconciliation

  One pass of `reconcile_preview_jobs` run alone: the batch, the two looks at
  each candidate, the shared set of active previews, and what the pass leaves in
  the table and in RQ.

  `Jobs.System` has the same pass as one process among others; here nobody else
  acts, and the pass is a function.  The pass is compared with `reconcileRow`,
  which settles one row from that row alone.
-/

import Mathlib.Data.List.Sort
import Mathlib.Logic.Function.Basic
import TradingPlatform.Jobs.System
import TradingPlatform.Lib.Table

namespace TradingPlatform
namespace Services

open Jobs Queue

-- ============================================================================
-- The stores
-- ============================================================================

/-- `preview_jobs`, keyed by its primary key. -/
abbrev JobTable := Table PreviewJob.id

/-- The RQ queue of the previews and its three registries.  `jobs` holds each message and its
    `retries_left`; ids from `nextId` on are not in use. -/
structure RqStore where
  queue : List RqJobId
  started : List RqJobId
  deferred : List RqJobId
  scheduled : List RqJobId
  jobs : RqJobId → Option (RqJob × Option Nat)
  nextId : RqJobId
  fresh : ∀ id ∈ queue ++ started ++ deferred ++ scheduled, id < nextId

namespace RqStore

/-- The collections in the order in which they are read. -/
def ids (rq : RqStore) : List RqJobId := rq.queue ++ rq.started ++ rq.deferred ++ rq.scheduled

/-- `fetch_job` of a stored id. -/
def fetchJob (rq : RqStore) (id : RqJobId) : Option RqJob := (rq.jobs id).map Prod.fst

/-- `active_preview_job_ids` over a store at rest. -/
def activePreviewJobIds (rq : RqStore) (scanLimit : Nat) : Except PyError (List JobId) :=
  Queue.activePreviewJobIds scanLimit rq.queue rq.started rq.deferred rq.scheduled rq.fetchJob

/-- The previews that a scan without a limit finds. -/
def activeIds (rq : RqStore) : List JobId :=
  rq.ids.dedup.filterMap (scannedPreviewId rq.fetchJob)

/-- `queue.enqueue_call` of `process_preview_job` for a preview. -/
def enqueue (rq : RqStore) (jobId : JobId) (retries : Option Nat) : RqStore where
  queue := rq.queue ++ [rq.nextId]
  started := rq.started
  deferred := rq.deferred
  scheduled := rq.scheduled
  jobs := Function.update rq.jobs rq.nextId (some (⟨processPreviewJobName, some jobId⟩, retries))
  nextId := rq.nextId + 1
  fresh := by
    intro id hid
    have hold := rq.fresh id
    simp only [List.mem_append, List.mem_singleton] at hid hold
    have hcases : id = rq.nextId ∨ id < rq.nextId := by
      rcases hid with (((hid | hid) | hid) | hid) | hid
      · exact Or.inr (hold (Or.inl (Or.inl (Or.inl hid))))
      · exact Or.inl hid
      · exact Or.inr (hold (Or.inl (Or.inl (Or.inr hid))))
      · exact Or.inr (hold (Or.inl (Or.inr hid)))
      · exact Or.inr (hold (Or.inr hid))
    rcases hcases with rfl | hused
    · exact Nat.lt_succ_self _
    · exact Nat.lt_succ_of_lt hused

end RqStore

-- ============================================================================
-- reconcile_preview_jobs
-- ============================================================================

/-- `ReconciliationSummary` -/
structure ReconciliationSummary where
  scanned : Nat := 0
  active : Nat := 0
  recovered : Nat := 0
  failed : Nat := 0
  locked : Nat := 0
  notStale : Nat := 0
  stateChanged : Nat := 0
deriving DecidableEq, Repr

/-- The buckets together. -/
def ReconciliationSummary.total (summary : ReconciliationSummary) : Nat :=
  summary.active + summary.recovered + summary.failed + summary.locked + summary.notStale +
    summary.stateChanged

/-- What a pass is given: its settings, the reference time, and the collaborators that the
    caller may replace. -/
structure PassConfig where
  settings : Settings
  registryScanLimit : Nat
  now : Timestamp
  acquireLock : JobId → Bool
  /-- `datetime.now(UTC)` when the row of a job is transitioned -/
  clock : JobId → Timestamp

/-- The local variables of the loop and the two stores. -/
structure Pass where
  table : JobTable
  rq : RqStore
  activeIds : List JobId
  summary : ReconciliationSummary

/-- `status in ("queued", "running")`, ordered and bounded. -/
def listReconciliationCandidates (table : JobTable) (limit : Nat) : List PreviewJob :=
  ((table.rows.filter fun job => job.status.Nonterminal).mergeSort fun a b =>
    decide (a.createdAt < b.createdAt ∨ (a.createdAt = b.createdAt ∧ a.id ≤ b.id))).take limit

theorem transition_id (willRetry : Bool) (finalError : String) (now : Timestamp)
    (row : PreviewJob) :
    (transitionJobAfterOperationalFailure willRetry finalError now row).id = row.id := by
  unfold transitionJobAfterOperationalFailure
  split
  · split <;> rfl
  · rfl

namespace Pass

/-- The guarded `UPDATE` on the table. -/
def transition (pass : Pass) (config : PassConfig) (jobId : JobId) (willRetry : Bool)
    (finalError : String) : Pass :=
  { pass with
    table := pass.table.modify jobId
      (transitionJobAfterOperationalFailure willRetry finalError (config.clock jobId))
      (transition_id willRetry finalError (config.clock jobId)) }

/-- Whether the guarded `UPDATE` matches a row. -/
def changes (pass : Pass) (jobId : JobId) : Bool :=
  (pass.table.get? jobId).any fun row => row.status.Nonterminal

/-- `session.refresh(job)`; it raises when the row is gone. -/
def refresh (pass : Pass) (jobId : JobId) : Except PyError PreviewJob :=
  match pass.table.get? jobId with
  | some job => .ok job
  | none => .error (.runtimeError "Could not refresh instance")

/-- The enqueue at the end of the loop body. -/
def enqueue (pass : Pass) (config : PassConfig) (job : PreviewJob) : Pass :=
  { pass with
    rq := pass.rq.enqueue job.id (enqueueRetries config.settings.maxRetries
      (some (recoveryRetryCount config.settings job)))
    activeIds := job.id :: pass.activeIds
    summary := { pass.summary with recovered := pass.summary.recovered + 1 } }

/-- The candidate is represented in RQ. -/
def countActive (pass : Pass) : Pass :=
  { pass with summary := { pass.summary with active := pass.summary.active + 1 } }

/-- The candidate is running, and not for long enough. -/
def countNotStale (pass : Pass) : Pass :=
  { pass with summary := { pass.summary with notStale := pass.summary.notStale + 1 } }

/-- The candidate's lock is taken. -/
def countLocked (pass : Pass) : Pass :=
  { pass with summary := { pass.summary with locked := pass.summary.locked + 1 } }

/-- The candidate is no longer as it was listed. -/
def countStateChanged (pass : Pass) : Pass :=
  { pass with summary := { pass.summary with stateChanged := pass.summary.stateChanged + 1 } }

/-- The candidate was failed, if its row still was to be. -/
def countFailed (pass : Pass) (changed : Bool) : Pass :=
  if changed then
    { pass with summary := { pass.summary with failed := pass.summary.failed + 1 } }
  else
    pass

/-- The loop body from the second scan on, `job` as refreshed under the lock. -/
def settle (pass : Pass) (config : PassConfig) (job : PreviewJob) : Except PyError Pass :=
  match decideRecovery config.settings config.now job with
  | .fail =>
      .ok ((pass.transition config job.id false recoveryFailureMessage).countFailed
        (pass.changes job.id))
  | .wait => .ok pass.countNotStale
  | .requeue => do
      let pass := pass.transition config job.id true operationalFailureMessage
      let job ← pass.refresh job.id
      return pass.enqueue config job
  | .enqueue => .ok (pass.enqueue config job)

/-- The loop body under the lock. -/
def reconcileLocked (pass : Pass) (config : PassConfig) (jobId : JobId) : Except PyError Pass := do
  let job ← pass.refresh jobId
  if ¬ job.status.Nonterminal then
    return pass.countStateChanged
  let activeIds ← pass.rq.activePreviewJobIds config.registryScanLimit
  let pass := { pass with activeIds := activeIds }
  if job.id ∈ pass.activeIds then
    return pass.countActive
  pass.settle config job

/-- The loop body. -/
def reconcileCandidate (config : PassConfig) (pass : Pass) (job : PreviewJob) :
    Except PyError Pass :=
  if job.id ∈ pass.activeIds then
    .ok pass.countActive
  else if awaitsActiveState config.settings config.now job then
    .ok pass.countNotStale
  else if config.acquireLock job.id then
    pass.reconcileLocked config job.id
  else
    .ok pass.countLocked

end Pass

/-- `reconcile_preview_jobs`. -/
def reconcilePreviewJobs (config : PassConfig) (table : JobTable) (rq : RqStore) :
    Except PyError Pass := do
  let activeIds ← rq.activePreviewJobIds config.registryScanLimit
  let candidates := listReconciliationCandidates table config.settings.reconciliationBatchSize
  candidates.foldlM (Pass.reconcileCandidate config)
    ⟨table, rq, activeIds, { scanned := candidates.length }⟩

-- ============================================================================
-- One row from itself alone
-- ============================================================================

section Reference

variable (config : PassConfig) (active : Bool) (row : PreviewJob)

/-- Terminal, represented in RQ, or running with time, attempts and life left. -/
def leftAlone : Bool :=
  ¬ row.status.Nonterminal ∨ active = true ∨ awaitsActiveState config.settings config.now row

/-- Neither left alone nor given up. -/
def recovers : Bool :=
  leftAlone config active row = false ∧ exhausted config.settings row = false ∧
    expired config.now row = false

/-- What a pass makes of a row; `active` says whether RQ represents it. -/
def reconcileRow : PreviewJob :=
  if leftAlone config active row then row
  else if exhausted config.settings row ∨ expired config.now row then
    transitionJobAfterOperationalFailure false recoveryFailureMessage (config.clock row.id) row
  else if row.status = .running then
    transitionJobAfterOperationalFailure true operationalFailureMessage (config.clock row.id) row
  else row

/-- The message of a recovered row. -/
def enqueueRecovery (rq : RqStore) (row : PreviewJob) : RqStore :=
  rq.enqueue row.id (enqueueRetries config.settings.maxRetries
    (some (recoveryRetryCount config.settings row)))

/-- What a pass is for, row by row. -/
structure Reconciled (row' : PreviewJob) : Prop where
  untouched : ¬ row.status.Nonterminal ∨ active = true ∨
    awaitsActiveState config.settings config.now row = true → row' = row
  failed : leftAlone config active row = false →
    config.settings.maxRetries + 1 ≤ row.attemptCount ∨ row.expiresAt ≤ config.now →
      row'.status = .failed ∧ row'.errorMessage = some recoveryFailureMessage
  recovered : recovers config active row = true →
    row'.status = .queued ∧ row'.attemptCount = row.attemptCount

end Reference

section Rows

variable {config : PassConfig} {active : Bool} {row : PreviewJob}

theorem leftAlone_iff : leftAlone config active row = true ↔
    ¬ row.status.Nonterminal ∨ active = true ∨
      awaitsActiveState config.settings config.now row = true := by
  simp [leftAlone]

theorem recovers_iff : recovers config active row = true ↔
    leftAlone config active row = false ∧ exhausted config.settings row = false ∧
      expired config.now row = false := by
  simp [recovers]

theorem reconcileRow_leftAlone (h : leftAlone config active row = true) :
    reconcileRow config active row = row := if_pos h

theorem reconcileRow_id : (reconcileRow config active row).id = row.id := by
  unfold reconcileRow
  split
  · rfl
  · split
    · exact transition_id ..
    · split
      · exact transition_id ..
      · rfl

theorem nonterminal_of_not_leftAlone (h : leftAlone config active row = false) :
    row.status.Nonterminal := by
  by_contra hterminal
  rw [leftAlone_iff.mpr (Or.inl hterminal)] at h
  cases h

theorem reconcileRow_failed (h : leftAlone config active row = false)
    (hover : exhausted config.settings row = true ∨ expired config.now row = true) :
    reconcileRow config active row = transitionJobAfterOperationalFailure false
      recoveryFailureMessage (config.clock row.id) row := by
  rw [reconcileRow, if_neg (by simp [h]), if_pos hover]

theorem reconcileRow_recovers (h : recovers config active row = true) :
    (reconcileRow config active row).status = .queued ∧
      (reconcileRow config active row).attemptCount = row.attemptCount := by
  obtain ⟨hleft, hexhausted, hexpired⟩ := recovers_iff.mp h
  have hnonterminal := nonterminal_of_not_leftAlone hleft
  rw [reconcileRow, if_neg (by simp [hleft]), if_neg (by simp [hexhausted, hexpired])]
  split
  · exact ⟨transition_status_of_nonterminal _ _ _ _ hnonterminal, transition_attemptCount ..⟩
  · rename_i hrunning
    exact ⟨hnonterminal.resolve_right hrunning, rfl⟩

theorem reconcileRow_reconciled :
    Reconciled config active row (reconcileRow config active row) where
  untouched := fun h => reconcileRow_leftAlone (leftAlone_iff.mpr h)
  failed := by
    intro hleft hover
    have hnonterminal := nonterminal_of_not_leftAlone hleft
    rw [reconcileRow_failed hleft (by simpa [exhausted, expired] using hover)]
    refine ⟨transition_status_of_nonterminal _ _ _ _ hnonterminal, ?_⟩
    rw [transitionJobAfterOperationalFailure, if_pos hnonterminal]
    rfl
  recovered := reconcileRow_recovers

/-- A recovered row has an attempt left, and its message has the retries it has left. -/
theorem recovers_retries (h : recovers config active row = true) :
    0 ≤ recoveryRetryCount config.settings row ∧
      ((enqueueRetries config.settings.maxRetries
        (some (recoveryRetryCount config.settings row))).getD 0 : Int) =
          config.settings.maxRetries - row.attemptCount := by
  have hexhausted := (recovers_iff.mp h).2.1
  have hcount : 0 ≤ recoveryRetryCount config.settings row := by
    simp only [exhausted, ge_iff_le, decide_eq_false_iff_not] at hexhausted
    rw [recoveryRetryCount]
    omega
  exact ⟨hcount, enqueueRetries_getD config.settings.maxRetries _ hcount⟩

end Rows

-- ============================================================================
-- What RQ shows after an enqueue
-- ============================================================================

namespace RqStore

theorem activePreviewJobIds_eq {rq : RqStore} {scanLimit : Nat}
    (h : rq.ids.length ≤ scanLimit) : rq.activePreviewJobIds scanLimit = .ok rq.activeIds :=
  activePreviewJobIds_of_length_le rq.fetchJob h

theorem mem_activeIds {rq : RqStore} {j : JobId} :
    j ∈ rq.activeIds ↔ ∃ id ∈ rq.ids, scannedPreviewId rq.fetchJob id = some j := by
  simp [activeIds]

variable (rq : RqStore) (k : JobId) (retries : Option Nat)

theorem mem_ids_enqueue {id : RqJobId} :
    id ∈ (rq.enqueue k retries).ids ↔ id ∈ rq.ids ∨ id = rq.nextId := by
  simp only [ids, enqueue, List.mem_append, List.mem_singleton]
  tauto

theorem length_ids_enqueue : (rq.enqueue k retries).ids.length = rq.ids.length + 1 := by
  simp only [ids, enqueue, List.length_append, List.length_singleton]
  omega

theorem scannedPreviewId_enqueue (id : RqJobId) :
    scannedPreviewId (rq.enqueue k retries).fetchJob id =
      if id = rq.nextId then some k else scannedPreviewId rq.fetchJob id := by
  by_cases hid : id = rq.nextId
  · simp [scannedPreviewId, fetchJob, enqueue, hid]
  · simp [scannedPreviewId, fetchJob, enqueue, hid]

/-- After an enqueue the scan shows the enqueued preview, and what it showed before. -/
theorem mem_activeIds_enqueue {j : JobId} :
    j ∈ (rq.enqueue k retries).activeIds ↔ j ∈ rq.activeIds ∨ j = k := by
  rw [mem_activeIds, mem_activeIds]
  constructor
  · rintro ⟨id, hid, hscanned⟩
    rw [scannedPreviewId_enqueue] at hscanned
    split at hscanned
    · exact Or.inr (Option.some.inj hscanned).symm
    · rename_i hne
      exact Or.inl ⟨id, ((mem_ids_enqueue ..).mp hid).resolve_right hne, hscanned⟩
  · rintro (⟨id, hid, hscanned⟩ | rfl)
    · have hne : id ≠ rq.nextId := (rq.fresh id hid).ne
      refine ⟨id, (mem_ids_enqueue ..).mpr (Or.inl hid), ?_⟩
      rw [scannedPreviewId_enqueue, if_neg hne, hscanned]
    · refine ⟨rq.nextId, (mem_ids_enqueue ..).mpr (Or.inr rfl), ?_⟩
      rw [scannedPreviewId_enqueue, if_pos rfl]

end RqStore

-- ============================================================================
-- One candidate
-- ============================================================================

/-- `active` as the reference takes it. -/
def RqStore.represents (rq : RqStore) (jobId : JobId) : Bool := jobId ∈ rq.activeIds

/-- What an iteration does about its candidate: the row and the message of the reference, the
    active set in step with RQ, and one bucket counted. -/
structure Settled (config : PassConfig) (pass : Pass) (job : PreviewJob) (pass' : Pass) :
    Prop where
  table : pass'.table.rows = pass.table.rows.map fun row =>
    if row.id = job.id then reconcileRow config (pass.rq.represents job.id) row else row
  rq : pass'.rq = if recovers config (pass.rq.represents job.id) job then
    enqueueRecovery config pass.rq job else pass.rq
  activeIds : ∀ j, j ∈ pass'.activeIds ↔ j ∈ pass'.rq.activeIds
  scanned : pass'.summary.scanned = pass.summary.scanned
  total : pass'.summary.total = pass.summary.total + 1

section Candidate

variable {config : PassConfig} {pass : Pass} {job : PreviewJob}

theorem eq_of_get? (hrow : pass.table.get? job.id = some job) {row : PreviewJob}
    (hmem : row ∈ pass.table.rows) (hid : row.id = job.id) : row = job :=
  pass.table.eq_of_key_eq hmem (Table.get?_eq_some.mp hrow).1 hid

/-- The table stays, when the reference leaves the row of the candidate alone. -/
theorem rows_unchanged (hrow : pass.table.get? job.id = some job)
    (hsame : reconcileRow config (pass.rq.represents job.id) job = job) :
    pass.table.rows = pass.table.rows.map fun row =>
      if row.id = job.id then reconcileRow config (pass.rq.represents job.id) row else row := by
  have hkept : ∀ row ∈ pass.table.rows, row = if row.id = job.id then
      reconcileRow config (pass.rq.represents job.id) row else row := by
    intro row hmem
    split
    · rename_i hid
      obtain rfl := eq_of_get? hrow hmem hid
      exact hsame.symm
    · rfl
  exact (List.map_id' _).symm.trans (List.map_congr_left hkept)

/-- An iteration that only counts settles a row that is left alone. -/
theorem settled_leftAlone (hrow : pass.table.get? job.id = some job)
    (hleft : leftAlone config (pass.rq.represents job.id) job = true) {pass' : Pass}
    (htable : pass'.table = pass.table) (hrq : pass'.rq = pass.rq)
    (hactive : ∀ j, j ∈ pass'.activeIds ↔ j ∈ pass.rq.activeIds)
    (hscanned : pass'.summary.scanned = pass.summary.scanned)
    (htotal : pass'.summary.total = pass.summary.total + 1) : Settled config pass job pass' where
  table := by
    rw [htable]
    exact rows_unchanged hrow (reconcileRow_leftAlone hleft)
  rq := by
    rw [hrq, if_neg]
    simp [recovers, hleft]
  activeIds := by
    rw [hrq]
    exact hactive
  scanned := hscanned
  total := htotal

/-- The table after the guarded `UPDATE` of a candidate. -/
theorem transition_rows (hrow : pass.table.get? job.id = some job) {willRetry : Bool}
    {error : String} (h : reconcileRow config (pass.rq.represents job.id) job =
      transitionJobAfterOperationalFailure willRetry error (config.clock job.id) job) :
    (pass.transition config job.id willRetry error).table.rows =
      pass.table.rows.map fun row =>
        if row.id = job.id then reconcileRow config (pass.rq.represents job.id) row else row := by
  refine List.map_congr_left fun row hmem => ?_
  split
  · rename_i hid
    obtain rfl := eq_of_get? hrow hmem hid
    exact h.symm
  · rfl

/-- The enqueue settles a recovered row, once the table is as the reference has it. -/
theorem settled_enqueue (hactive : ∀ j, j ∈ pass.activeIds ↔ j ∈ pass.rq.activeIds)
    (hrecovers : recovers config (pass.rq.represents job.id) job = true) {table : JobTable}
    {refreshed : PreviewJob} (hid : refreshed.id = job.id)
    (hattempts : refreshed.attemptCount = job.attemptCount)
    (htable : table.rows = pass.table.rows.map fun row =>
      if row.id = job.id then reconcileRow config (pass.rq.represents job.id) row else row) :
    Settled config pass job (({ pass with table := table } : Pass).enqueue config refreshed) where
  table := htable
  rq := by
    rw [if_pos hrecovers]
    simp [Pass.enqueue, enqueueRecovery, hid, recoveryRetryCount, hattempts]
  activeIds := by
    intro j
    rw [Pass.enqueue, RqStore.mem_activeIds_enqueue, List.mem_cons, hactive j, or_comm]
  scanned := rfl
  total := by
    simp only [Pass.enqueue, ReconciliationSummary.total]
    omega

theorem decideRecovery_failed
    (h : exhausted config.settings job = true ∨ expired config.now job = true) :
    decideRecovery config.settings config.now job = .fail := if_pos h

theorem decideRecovery_recovers
    (h : recovers config (pass.rq.represents job.id) job = true) :
    decideRecovery config.settings config.now job =
      if job.status = .running then .requeue else .enqueue := by
  obtain ⟨hleft, hexhausted, hexpired⟩ := recovers_iff.mp h
  have hnotStale : ¬ (job.status = .running ∧
      isStale config.settings config.now job = false) := by
    rintro ⟨hrunning, hfresh⟩
    have hawaits : awaitsActiveState config.settings config.now job = true := by
      simp [awaitsActiveState, hrunning, hfresh, hexhausted, hexpired]
    rw [leftAlone_iff.mpr (Or.inr (Or.inr hawaits))] at hleft
    cases hleft
  rw [decideRecovery, if_neg (by simp [hexhausted, hexpired]), if_neg hnotStale]

/-- The rest of the loop body, from the second scan on. -/
theorem settle_spec (hrow : pass.table.get? job.id = some job)
    (hleft : leftAlone config (pass.rq.represents job.id) job = false)
    (hactive : ∀ j, j ∈ pass.activeIds ↔ j ∈ pass.rq.activeIds) :
    ∃ pass', pass.settle config job = .ok pass' ∧ Settled config pass job pass' := by
  have hnonterminal := nonterminal_of_not_leftAlone hleft
  by_cases hover : exhausted config.settings job = true ∨ expired config.now job = true
  · have hchanges : pass.changes job.id = true := by
      rw [Pass.changes, hrow]
      simpa using hnonterminal
    have hrecovers : recovers config (pass.rq.represents job.id) job = false := by
      rcases hover with h | h <;> simp [recovers, h]
    rw [Pass.settle, decideRecovery_failed hover, hchanges]
    refine ⟨_, rfl, ?_⟩
    exact {
      table := transition_rows hrow (reconcileRow_failed hleft hover)
      rq := by
        rw [hrecovers]
        rfl
      activeIds := hactive
      scanned := rfl
      total := by
        simp only [Pass.countFailed, Pass.transition, if_true, ReconciliationSummary.total]
        omega }
  · have hrecovers : recovers config (pass.rq.represents job.id) job = true := by
      rw [not_or, Bool.not_eq_true, Bool.not_eq_true] at hover
      exact recovers_iff.mpr ⟨hleft, hover⟩
    rw [Pass.settle, decideRecovery_recovers hrecovers]
    by_cases hrunning : job.status = .running
    · rw [if_pos hrunning]
      have hreference : reconcileRow config (pass.rq.represents job.id) job =
          transitionJobAfterOperationalFailure true operationalFailureMessage
            (config.clock job.id) job := by
        rw [reconcileRow, if_neg (by simp [hleft]), if_neg hover, if_pos hrunning]
      have hrefresh :
          (pass.transition config job.id true operationalFailureMessage).refresh job.id =
          .ok (transitionJobAfterOperationalFailure true operationalFailureMessage
            (config.clock job.id) job) := by
        rw [Pass.refresh, Pass.transition, Table.get?_modify_self hrow]
      refine ⟨_, by dsimp only; rw [hrefresh]; rfl, ?_⟩
      exact settled_enqueue hactive hrecovers (transition_id ..) (transition_attemptCount ..)
        (transition_rows hrow hreference)
    · rw [if_neg hrunning]
      have hsame : reconcileRow config (pass.rq.represents job.id) job = job := by
        rw [reconcileRow, if_neg (by simp [hleft]), if_neg hover, if_neg hrunning]
      exact ⟨_, rfl, settled_enqueue hactive hrecovers rfl rfl (rows_unchanged hrow hsame)⟩

theorem reconcileCandidate_spec (hlocks : ∀ j, config.acquireLock j = true)
    (hrow : pass.table.get? job.id = some job) (hnonterminal : job.status.Nonterminal)
    (hactive : ∀ j, j ∈ pass.activeIds ↔ j ∈ pass.rq.activeIds)
    (hfits : pass.rq.ids.length ≤ config.registryScanLimit) :
    ∃ pass', pass.reconcileCandidate config job = .ok pass' ∧ Settled config pass job pass' := by
  unfold Pass.reconcileCandidate
  by_cases hmem : job.id ∈ pass.activeIds
  · have hleft : leftAlone config (pass.rq.represents job.id) job = true :=
      leftAlone_iff.mpr (Or.inr (Or.inl (decide_eq_true ((hactive _).mp hmem))))
    rw [if_pos hmem]
    refine ⟨_, rfl, settled_leftAlone hrow hleft rfl rfl hactive rfl ?_⟩
    simp only [Pass.countActive, ReconciliationSummary.total]
    omega
  rw [if_neg hmem]
  by_cases hawaits : awaitsActiveState config.settings config.now job = true
  · have hleft : leftAlone config (pass.rq.represents job.id) job = true :=
      leftAlone_iff.mpr (Or.inr (Or.inr hawaits))
    rw [if_pos hawaits]
    refine ⟨_, rfl, settled_leftAlone hrow hleft rfl rfl hactive rfl ?_⟩
    simp only [Pass.countNotStale, ReconciliationSummary.total]
    omega
  have hinactive : job.id ∉ pass.rq.activeIds := fun h => hmem ((hactive _).mpr h)
  have hleft : leftAlone config (pass.rq.represents job.id) job = false := by
    rw [← Bool.not_eq_true, leftAlone_iff]
    rintro (h | h | h)
    · exact h hnonterminal
    · exact hinactive (of_decide_eq_true h)
    · exact hawaits h
  have hrefresh : pass.refresh job.id = .ok job := by
    rw [Pass.refresh, hrow]
  have hrescanned : ∃ pass',
      ({ pass with activeIds := pass.rq.activeIds } : Pass).settle config job = .ok pass' ∧
        Settled config { pass with activeIds := pass.rq.activeIds } job pass' :=
    settle_spec hrow hleft fun _ => Iff.rfl
  obtain ⟨pass', hsettle, hsettled⟩ := hrescanned
  refine ⟨pass', ?_, hsettled.table, hsettled.rq, hsettled.activeIds, hsettled.scanned,
    hsettled.total⟩
  rw [if_neg hawaits, if_pos (hlocks job.id), Pass.reconcileLocked, hrefresh, Python.ok_bind,
    if_neg (not_not_intro hnonterminal), RqStore.activePreviewJobIds_eq hfits]
  exact (if_neg hinactive).trans hsettle

/-- An iteration changes nothing about how RQ represents another job. -/
theorem Settled.represents {pass' : Pass} (h : Settled config pass job pass') {j : JobId}
    (hne : j ≠ job.id) : pass'.rq.represents j = pass.rq.represents j := by
  have hmem : j ∈ pass'.rq.activeIds ↔ j ∈ pass.rq.activeIds := by
    rw [h.rq]
    split
    · rw [enqueueRecovery, RqStore.mem_activeIds_enqueue]
      exact or_iff_left hne
    · rfl
  exact decide_eq_decide.mpr hmem

/-- An iteration leaves the rows of the other candidates. -/
theorem Settled.get? {pass' : Pass} (h : Settled config pass job pass') {other : PreviewJob}
    (hne : other.id ≠ job.id) (hother : pass.table.get? other.id = some other) :
    pass'.table.get? other.id = some other := by
  refine Table.get?_eq_some.mpr ⟨?_, rfl⟩
  rw [h.table]
  exact List.mem_map.mpr ⟨other, (Table.get?_eq_some.mp hother).1, if_neg hne⟩

end Candidate

-- ============================================================================
-- The pass
-- ============================================================================

/-- The candidates a pass recovers. -/
def recovered (config : PassConfig) (rq : RqStore) (rows : List PreviewJob) : List PreviewJob :=
  rows.filter fun row => recovers config (rq.represents row.id) row

theorem recovered_congr {config : PassConfig} {rq rq' : RqStore} {rows : List PreviewJob}
    (h : ∀ row ∈ rows, rq'.represents row.id = rq.represents row.id) :
    recovered config rq' rows = recovered config rq rows :=
  List.filter_congr fun row hrow => by rw [h row hrow]

theorem reconcileCandidates_spec {config : PassConfig}
    (hlocks : ∀ j, config.acquireLock j = true) (candidates : List PreviewJob) :
    ∀ pass : Pass,
      (∀ job ∈ candidates, pass.table.get? job.id = some job ∧ job.status.Nonterminal) →
      (candidates.map PreviewJob.id).Nodup →
      (∀ j, j ∈ pass.activeIds ↔ j ∈ pass.rq.activeIds) →
      pass.rq.ids.length + (recovered config pass.rq candidates).length ≤
        config.registryScanLimit →
      ∃ pass', candidates.foldlM (Pass.reconcileCandidate config) pass = .ok pass' ∧
        (pass'.table.rows = pass.table.rows.map fun row =>
          if row.id ∈ candidates.map PreviewJob.id then
            reconcileRow config (pass.rq.represents row.id) row else row) ∧
        pass'.rq = (recovered config pass.rq candidates).foldl (enqueueRecovery config) pass.rq ∧
        pass'.summary.scanned = pass.summary.scanned ∧
        pass'.summary.total = pass.summary.total + candidates.length := by
  induction candidates with
  | nil =>
      intro pass _ _ _ _
      exact ⟨pass, rfl, by simp, rfl, rfl, rfl⟩
  | cons job rest ih =>
      intro pass hcandidates hnodup hactive hfits
      obtain ⟨hrow, hnonterminal⟩ := hcandidates job List.mem_cons_self
      rw [List.map_cons, List.nodup_cons] at hnodup
      have hne : ∀ other ∈ rest, other.id ≠ job.id := fun other hother hid =>
        hnodup.1 (hid ▸ List.mem_map_of_mem hother)
      obtain ⟨next, hstep, hsettled⟩ :=
        reconcileCandidate_spec hlocks hrow hnonterminal hactive (by omega)
      have hrecovered : recovered config next.rq rest = recovered config pass.rq rest :=
        recovered_congr fun other hother => hsettled.represents (hne other hother)
      have hcons : recovered config pass.rq (job :: rest) =
          if recovers config (pass.rq.represents job.id) job then
            job :: recovered config pass.rq rest else recovered config pass.rq rest :=
        List.filter_cons
      have hlength : next.rq.ids.length + (recovered config next.rq rest).length =
          pass.rq.ids.length + (recovered config pass.rq (job :: rest)).length := by
        rw [hrecovered, hcons, hsettled.rq]
        split
        · rw [enqueueRecovery, RqStore.length_ids_enqueue, List.length_cons]
          omega
        · rfl
      obtain ⟨pass', hrest, htable, hrq, hscanned, htotal⟩ := ih next
        (fun other hother => ⟨hsettled.get? (hne other hother)
          (hcandidates other (List.mem_cons_of_mem _ hother)).1,
          (hcandidates other (List.mem_cons_of_mem _ hother)).2⟩)
        hnodup.2 hsettled.activeIds (by omega)
      refine ⟨pass', ?_, ?_, ?_, hscanned.trans hsettled.scanned, ?_⟩
      · rw [List.foldlM_cons, hstep]
        exact hrest
      · rw [htable, hsettled.table, List.map_map]
        refine List.map_congr_left fun row _ => ?_
        rw [Function.comp_apply]
        by_cases hid : row.id = job.id
        · -- the row of this candidate is not touched again
          rw [if_pos hid, reconcileRow_id, if_neg (by rw [hid]; exact hnodup.1), hid,
            if_pos (by simp)]
        · rw [if_neg hid, hsettled.represents hid, List.map_cons]
          simp only [List.mem_cons, hid, false_or]
      · rw [hrq, hrecovered, hcons, hsettled.rq]
        split <;> rfl
      · rw [htotal, hsettled.total, List.length_cons]
        omega

/-- The nonterminal rows of a table. -/
def nonterminalRows (table : JobTable) : List PreviewJob :=
  table.rows.filter fun job => job.status.Nonterminal

theorem listReconciliationCandidates_perm {table : JobTable} {limit : Nat}
    (h : (nonterminalRows table).length ≤ limit) :
    (listReconciliationCandidates table limit).Perm (nonterminalRows table) := by
  rw [listReconciliationCandidates, List.take_of_length_le (by rwa [List.length_mergeSort])]
  exact List.mergeSort_perm ..

theorem recovered_nonterminalRows (config : PassConfig) (rq : RqStore) (table : JobTable) :
    recovered config rq (nonterminalRows table) = recovered config rq table.rows := by
  rw [recovered, nonterminalRows, List.filter_filter, recovered]
  refine List.filter_congr fun row _ => ?_
  cases hrecovers : recovers config (rq.represents row.id) row with
  | false => rfl
  | true =>
      simpa using nonterminal_of_not_leftAlone (recovers_iff.mp hrecovers).1

/-- A pass settles every row by itself, enqueues one message for each recovered row, and counts
    every candidate in one bucket. -/
theorem reconcilePreviewJobs_spec {config : PassConfig} {table : JobTable} {rq : RqStore}
    (hbatch : (nonterminalRows table).length ≤ config.settings.reconciliationBatchSize)
    (hlocks : ∀ j, config.acquireLock j = true)
    (hscan : rq.ids.length + (recovered config rq table.rows).length ≤ config.registryScanLimit) :
    ∃ (pass : Pass) (order : List PreviewJob), reconcilePreviewJobs config table rq = .ok pass ∧
      pass.table.rows = table.rows.map (fun row =>
        reconcileRow config (rq.represents row.id) row) ∧
      order.Perm (recovered config rq table.rows) ∧
      pass.rq = order.foldl (enqueueRecovery config) rq ∧
      pass.summary.scanned = (nonterminalRows table).length ∧
      pass.summary.total = pass.summary.scanned := by
  have hperm := listReconciliationCandidates_perm hbatch
  have hmem : ∀ job, job ∈ listReconciliationCandidates table
      config.settings.reconciliationBatchSize ↔ job ∈ table.rows ∧ job.status.Nonterminal := by
    intro job
    rw [hperm.mem_iff, nonterminalRows, List.mem_filter, decide_eq_true_iff]
  have hnodup : ((listReconciliationCandidates table
      config.settings.reconciliationBatchSize).map PreviewJob.id).Nodup :=
    (hperm.map PreviewJob.id).nodup_iff.mpr (table.nodup.sublist (List.filter_sublist.map _))
  have hrecovered : (recovered config rq (listReconciliationCandidates table
      config.settings.reconciliationBatchSize)).Perm (recovered config rq table.rows) := by
    rw [← recovered_nonterminalRows]
    exact hperm.filter _
  obtain ⟨pass, hrun, htable, hrq, hscanned, htotal⟩ := reconcileCandidates_spec hlocks _
    (⟨table, rq, rq.activeIds, { scanned := (listReconciliationCandidates table
      config.settings.reconciliationBatchSize).length }⟩ : Pass)
    (fun job hjob => ⟨Table.get?_eq_some.mpr ⟨((hmem job).mp hjob).1, rfl⟩, ((hmem job).mp hjob).2⟩)
    hnodup (fun _ => Iff.rfl) (by rw [hrecovered.length_eq]; exact hscan)
  refine ⟨pass, _, ?_, ?_, hrecovered, hrq, ?_, ?_⟩
  · rw [reconcilePreviewJobs, RqStore.activePreviewJobIds_eq (by omega), Python.ok_bind]
    exact hrun
  · rw [htable]
    refine List.map_congr_left fun row hrow => ?_
    split
    · rfl
    · rename_i hnot
      refine (reconcileRow_leftAlone (leftAlone_iff.mpr (Or.inl fun hnonterminal => hnot ?_))).symm
      exact List.mem_map_of_mem ((hmem row).mpr ⟨hrow, hnonterminal⟩)
  · rw [hscanned]
    exact hperm.length_eq
  · rw [htotal, hscanned]
    simp [ReconciliationSummary.total]

-- ============================================================================
-- A second pass
-- ============================================================================

theorem mem_activeIds_foldl_enqueue (config : PassConfig) (rows : List PreviewJob) {j : JobId} :
    ∀ rq : RqStore, j ∈ (rows.foldl (enqueueRecovery config) rq).activeIds ↔
      j ∈ rq.activeIds ∨ j ∈ rows.map PreviewJob.id := by
  induction rows with
  | nil => simp
  | cons row rest ih =>
      intro rq
      rw [List.foldl_cons, ih, enqueueRecovery, RqStore.mem_activeIds_enqueue, List.map_cons,
        List.mem_cons, or_assoc]

theorem length_ids_foldl_enqueue (config : PassConfig) (rows : List PreviewJob) :
    ∀ rq : RqStore,
      (rows.foldl (enqueueRecovery config) rq).ids.length = rq.ids.length + rows.length := by
  induction rows with
  | nil => simp
  | cons row rest ih =>
      intro rq
      rw [List.foldl_cons, ih, enqueueRecovery, RqStore.length_ids_enqueue, List.length_cons]
      omega

/-- What a pass has settled, a later one leaves alone: the row was left alone, or is failed, or
    its message is in RQ. -/
theorem leftAlone_reconcileRow {config : PassConfig} {active active' : Bool} {row : PreviewJob}
    (hmono : active = true → active' = true)
    (hrecovered : recovers config active row = true → active' = true) :
    leftAlone config active' (reconcileRow config active row) = true := by
  by_cases hleft : leftAlone config active row = true
  · rw [reconcileRow_leftAlone hleft]
    rcases leftAlone_iff.mp hleft with h | h | h
    · exact leftAlone_iff.mpr (Or.inl h)
    · exact leftAlone_iff.mpr (Or.inr (Or.inl (hmono h)))
    · exact leftAlone_iff.mpr (Or.inr (Or.inr h))
  · rw [Bool.not_eq_true] at hleft
    by_cases hover : exhausted config.settings row = true ∨ expired config.now row = true
    · refine leftAlone_iff.mpr (Or.inl ?_)
      rw [reconcileRow_failed hleft hover]
      exact transition_terminal _ _ _
    · rw [not_or, Bool.not_eq_true, Bool.not_eq_true] at hover
      exact leftAlone_iff.mpr (Or.inr (Or.inl (hrecovered (recovers_iff.mpr ⟨hleft, hover⟩))))

/-- A second pass finds nothing to do. -/
theorem reconcilePreviewJobs_again {config : PassConfig} {table : JobTable} {rq : RqStore}
    (hbatch : (nonterminalRows table).length ≤ config.settings.reconciliationBatchSize)
    (hlocks : ∀ j, config.acquireLock j = true)
    (hscan : rq.ids.length ≤ config.registryScanLimit)
    (hsettled : ∀ row ∈ table.rows, leftAlone config (rq.represents row.id) row = true) :
    ∃ pass : Pass, reconcilePreviewJobs config table rq = .ok pass ∧ pass.table = table ∧
      pass.rq = rq := by
  have hnone : recovered config rq table.rows = [] := by
    refine List.filter_eq_nil_iff.mpr fun row hrow => ?_
    simp [recovers, hsettled row hrow]
  obtain ⟨pass, order, hrun, htable, horder, hrq, -⟩ :=
    reconcilePreviewJobs_spec hbatch hlocks (by rw [hnone]; exact hscan)
  rw [hnone] at horder
  refine ⟨pass, hrun, Table.ext ?_, ?_⟩
  · rw [htable]
    refine (List.map_congr_left fun row hrow => ?_).trans (List.map_id' _)
    exact reconcileRow_leftAlone (hsettled row hrow)
  · rw [hrq, horder.eq_nil]
    rfl

/-- A pass makes no row nonterminal. -/
theorem length_nonterminalRows_le {config : PassConfig} {table table' : JobTable}
    {active : PreviewJob → Bool}
    (h : table'.rows = table.rows.map fun row => reconcileRow config (active row) row) :
    (nonterminalRows table').length ≤ (nonterminalRows table).length := by
  rw [nonterminalRows, nonterminalRows, h, ← List.countP_eq_length_filter,
    ← List.countP_eq_length_filter, List.countP_map]
  refine List.countP_mono_left fun row _ hnonterminal => ?_
  by_contra hterminal
  rw [decide_eq_true_iff] at hterminal
  rw [Function.comp_apply,
    reconcileRow_leftAlone (leftAlone_iff.mpr (Or.inl hterminal))] at hnonterminal
  exact hterminal (of_decide_eq_true hnonterminal)

/-- With the whole table in one batch, all locks granted and RQ within the scan limit, a pass
    settles each row by itself: it leaves it alone, fails it, or leaves it queued with one new
    message that has the attempts the row has left.  Every candidate is counted in one bucket,
    and a second pass at the same time changes nothing. -/
theorem reconcilePreviewJobs_exact {config : PassConfig} {table : JobTable} {rq : RqStore}
    (hbatch : (nonterminalRows table).length ≤ config.settings.reconciliationBatchSize)
    (hlocks : ∀ j, config.acquireLock j = true)
    (hscan : rq.ids.length + (recovered config rq table.rows).length ≤ config.registryScanLimit) :
    ∃ (pass : Pass) (order : List PreviewJob), reconcilePreviewJobs config table rq = .ok pass ∧
      pass.table.rows = table.rows.map (fun row =>
        reconcileRow config (rq.represents row.id) row) ∧
      (∀ row ∈ table.rows, Reconciled config (rq.represents row.id) row
        (reconcileRow config (rq.represents row.id) row)) ∧
      order.Perm (recovered config rq table.rows) ∧
      pass.rq = order.foldl (enqueueRecovery config) rq ∧
      (∀ row ∈ order, 0 ≤ recoveryRetryCount config.settings row ∧
        ((enqueueRetries config.settings.maxRetries
          (some (recoveryRetryCount config.settings row))).getD 0 : Int) =
            config.settings.maxRetries - row.attemptCount) ∧
      pass.summary.scanned = (nonterminalRows table).length ∧
      pass.summary.total = pass.summary.scanned ∧
      ∀ clock : JobId → Timestamp, ∃ again : Pass,
        reconcilePreviewJobs { config with clock := clock } pass.table pass.rq = .ok again ∧
          again.table = pass.table ∧ again.rq = pass.rq := by
  obtain ⟨pass, order, hrun, htable, horder, hrq, hscanned, htotal⟩ :=
    reconcilePreviewJobs_spec hbatch hlocks hscan
  have hrecovers : ∀ row ∈ order, recovers config (rq.represents row.id) row = true :=
    fun row hrow => (List.mem_filter.mp (horder.mem_iff.mp hrow)).2
  refine ⟨pass, order, hrun, htable, fun row _ => reconcileRow_reconciled, horder, hrq,
    fun row hrow => recovers_retries (hrecovers row hrow), hscanned, htotal, fun clock => ?_⟩
  have hsettled : ∀ row' ∈ pass.table.rows,
      leftAlone config (pass.rq.represents row'.id) row' = true := by
    intro row' hrow'
    rw [htable] at hrow'
    obtain ⟨row, hrow, rfl⟩ := List.mem_map.mp hrow'
    rw [reconcileRow_id]
    refine leftAlone_reconcileRow (fun hactive => ?_) fun hrecovered => ?_
    · rw [RqStore.represents, decide_eq_true_iff] at hactive ⊢
      rw [hrq, mem_activeIds_foldl_enqueue]
      exact Or.inl hactive
    · rw [RqStore.represents, decide_eq_true_iff, hrq, mem_activeIds_foldl_enqueue]
      exact Or.inr (List.mem_map_of_mem
        (horder.mem_iff.mpr (List.mem_filter.mpr ⟨hrow, hrecovered⟩)))
  have hfits : pass.rq.ids.length ≤ config.registryScanLimit := by
    rw [hrq, length_ids_foldl_enqueue, horder.length_eq]
    exact hscan
  have hbatch' : (nonterminalRows pass.table).length ≤ config.settings.reconciliationBatchSize :=
    (length_nonterminalRows_le htable).trans hbatch
  exact reconcilePreviewJobs_again hbatch' hlocks hfits hsettled

/-- One row running for ten minutes, and one that is out of attempts. -/
def orphanedRows : JobTable where
  rows :=
    [{ createJob defaultSettings 0 "user" "buy the dip" none 0 with
        status := .running
        startedAt := some 0
        attemptCount := 1 },
      { createJob defaultSettings 1 "user" "buy the dip" none 0 with attemptCount := 3 }]
  nodup := by decide

/-- A pass ten minutes after the epoch, every lock free. -/
def tenMinutesLater : PassConfig :=
  ⟨defaultSettings, 1000, 600000000, fun _ => true, fun _ => 600000001⟩

/-- A store without jobs. -/
def emptyRq : RqStore := ⟨[], [], [], [], fun _ => none, 0, nofun⟩

/-- The first goes back to the queue with the one retry it has left, the second fails. -/
theorem reconcilePreviewJobs_exact_orphans :
    ∃ pass : Pass, reconcilePreviewJobs tenMinutesLater orphanedRows emptyRq = .ok pass ∧
      pass.table.rows.map PreviewJob.status = [.queued, .failed] ∧
      pass.rq.queue.map pass.rq.jobs = [some (⟨processPreviewJobName, some 0⟩, some 1)] := by
  have hlocks : ∀ j, tenMinutesLater.acquireLock j = true := fun _ => rfl
  have hbatch : (nonterminalRows orphanedRows).length ≤
      tenMinutesLater.settings.reconciliationBatchSize := by decide
  have hscan : emptyRq.ids.length + (recovered tenMinutesLater emptyRq orphanedRows.rows).length ≤
      tenMinutesLater.registryScanLimit := by decide
  obtain ⟨pass, order, hrun, htable, -, horder, hrq, -⟩ :=
    reconcilePreviewJobs_exact hbatch hlocks hscan
  refine ⟨pass, hrun, by rw [htable]; rfl, ?_⟩
  have hone : recovered tenMinutesLater emptyRq orphanedRows.rows = [orphanedRows.rows[0]] := rfl
  rw [hone, List.perm_singleton] at horder
  rw [hrq, horder]
  rfl

end Services
end TradingPlatform
