/-
  TradingPlatform.Queue.ActiveScan

  The active scan while RQ moves jobs under it.

  `active_preview_job_ids` reads the queue, then the started, the deferred and
  the scheduled registry: four atomic reads, with any moves between them.  Jobs
  go round the cycle queued, started, scheduled, queued.  The reads follow the
  cycle, so a job moving forward is met again; but a scheduled job that becomes
  due between the first and the last read has left the scheduled registry for
  the queue, which was read already.
-/

import TradingPlatform.Jobs.System
import TradingPlatform.Lib.Transition

namespace TradingPlatform
namespace Queue

open Jobs Relation

-- ============================================================================
-- Collections, moves and reads
-- ============================================================================

/-- The collections that a scan reads. -/
inductive Collection where
  | queue
  | started
  | deferred
  | scheduled
deriving DecidableEq, Repr

/-- How far one call has come, with what it has read. -/
inductive ScanPhase where
  | begun
  | queueRead (queue : List RqJobId)
  | startedRead (queue started : List RqJobId)
  | deferredRead (queue started deferred : List RqJobId)
  | done (queue started deferred scheduled : List RqJobId)
deriving Repr

/-- Every move is atomic, so that a job is in at most one collection. -/
structure Scan where
  located : RqJobId → Option Collection
  phase : ScanPhase

namespace Scan

/-- A job moves to a collection, or out of all of them. -/
def move (s : Scan) (id : RqJobId) (collection : Option Collection) : Scan :=
  { s with located := Function.update s.located id collection }

/-- What an atomic read of a collection returns. -/
def Reads (s : Scan) (collection : Collection) (ids : List RqJobId) : Prop :=
  ∀ id, id ∈ ids ↔ s.located id = some collection

@[simp, grind =] theorem move_located (s : Scan) (id k : RqJobId)
    (collection : Option Collection) :
    (s.move id collection).located k = if k = id then collection else s.located k :=
  Function.update_apply ..

@[simp, grind =] theorem move_phase (s : Scan) (id : RqJobId) (collection : Option Collection) :
    (s.move id collection).phase = s.phase := rfl

end Scan

/-- When a scheduled job may be moved to the queue. -/
abbrev Schedule := Scan → RqJobId → Prop

/-- A move of RQ, or the next read of the scan. -/
inductive ScanStep (mayBecomeDue : Schedule) : Scan → Scan → Prop where
  -- RQ
  | enqueue {s : Scan} {k : RqJobId} (hfresh : s.located k = none) :
      ScanStep mayBecomeDue s (s.move k (some .queue))
  | start {s : Scan} {k : RqJobId} (hqueued : s.located k = some .queue) :
      ScanStep mayBecomeDue s (s.move k (some .started))
  | retry {s : Scan} {k : RqJobId} (hstarted : s.located k = some .started) :
      ScanStep mayBecomeDue s (s.move k (some .scheduled))
  | becomeDue {s : Scan} {k : RqJobId} (hdue : mayBecomeDue s k)
      (hscheduled : s.located k = some .scheduled) :
      ScanStep mayBecomeDue s (s.move k (some .queue))
  | finish {s : Scan} {k : RqJobId} (hstarted : s.located k = some .started) :
      ScanStep mayBecomeDue s (s.move k none)
  -- active_preview_job_ids
  | readQueue {s : Scan} (queue : List RqJobId) (hphase : s.phase = .begun)
      (hread : s.Reads .queue queue) :
      ScanStep mayBecomeDue s { s with phase := .queueRead queue }
  | readStarted {s : Scan} {queue : List RqJobId} (started : List RqJobId)
      (hphase : s.phase = .queueRead queue) (hread : s.Reads .started started) :
      ScanStep mayBecomeDue s { s with phase := .startedRead queue started }
  | readDeferred {s : Scan} {queue started : List RqJobId} (deferred : List RqJobId)
      (hphase : s.phase = .startedRead queue started) (hread : s.Reads .deferred deferred) :
      ScanStep mayBecomeDue s { s with phase := .deferredRead queue started deferred }
  | readScheduled {s : Scan} {queue started deferred : List RqJobId} (scheduled : List RqJobId)
      (hphase : s.phase = .deferredRead queue started deferred)
      (hread : s.Reads .scheduled scheduled) :
      ScanStep mayBecomeDue s { s with phase := .done queue started deferred scheduled }

/-- The run of one call during which the job is in a collection in every state. -/
def LiveRun (mayBecomeDue : Schedule) (id : RqJobId) (start finish : Scan) : Prop :=
  start.phase = .begun ∧ start.located id ≠ none ∧
    ReflTransGen (fun s s' => ScanStep mayBecomeDue s s' ∧ s'.located id ≠ none) start finish

/-- Every preview whose RQ job is in a collection throughout a scan that does not raise is in
    the returned set, and a pass with that set does not enqueue it again: the first check skips
    it, and so does the check under the lock. -/
def ActiveScanComplete (mayBecomeDue : RqJobId → Schedule) : Prop :=
  ∀ (id : RqJobId) (start finish : Scan), LiveRun (mayBecomeDue id) id start finish →
    ∀ queue started deferred scheduled,
      finish.phase = .done queue started deferred scheduled →
    ∀ (scanLimit : Nat) (fetchJob : RqJobId → Option RqJob) (preview : JobId) (ids : List JobId),
      scannedPreviewId fetchJob id = some preview →
      activePreviewJobIds scanLimit queue started deferred scheduled fetchJob = .ok ids →
      preview ∈ ids ∧
      ∀ (settings : Settings) (now : Timestamp) (job : PreviewJob) (rest : List PreviewJob),
        job.id = preview → skipsCandidate settings now ids job = true ∧
          afterSecondScan ids preview job rest = .releasing preview rest

/-- Jobs become due at any time. -/
def anyMoment : RqJobId → Schedule := fun _ _ _ => True

/-- The scan is between its first read and its last. -/
def Scan.Unfinished (s : Scan) : Prop :=
  match s.phase with
  | .begun | .done _ _ _ _ => False
  | .queueRead _ | .startedRead _ _ | .deferredRead _ _ _ => True

/-- The job is not moved from the scheduled registry to the queue between the first read and
    the last. -/
def notDuringScan : RqJobId → Schedule := fun id s moved => moved = id → ¬ s.Unfinished

-- ============================================================================
-- Under the condition
-- ============================================================================

/-- The job has been read, or is still ahead of the scan. -/
def Scan.Ahead (id : RqJobId) (s : Scan) : Prop :=
  match s.phase with
  | .begun => True
  | .queueRead queue => id ∈ queue ∨ s.located id ≠ some .queue
  | .startedRead queue started =>
      id ∈ queue ++ started ∨
        (s.located id ≠ some .queue ∧ s.located id ≠ some .started)
  | .deferredRead queue started deferred =>
      id ∈ queue ++ started ++ deferred ∨ s.located id = some .scheduled
  | .done queue started deferred scheduled =>
      id ∈ queue ++ started ++ deferred ++ scheduled

/-- One step of a run in which the job stays in a collection. -/
theorem ahead_step {id : RqJobId} {s s' : Scan} (hstep : ScanStep (notDuringScan id) s s')
    (hwasLive : s.located id ≠ none) (hlive : s'.located id ≠ none) (h : s.Ahead id) :
    s'.Ahead id := by
  unfold Scan.Ahead at *
  cases hstep with
  | enqueue hfresh => cases hphase : s.phase <;> grind
  | start hqueued => cases hphase : s.phase <;> grind
  | retry hstarted => cases hphase : s.phase <;> grind
  | becomeDue hdue hscheduled =>
      -- due between the reads, it is another job
      cases hphase : s.phase <;> grind [notDuringScan, Scan.Unfinished]
  | finish hstarted => cases hphase : s.phase <;> grind
  | readQueue queue hphase hread =>
      rw [hphase] at h
      by_cases hqueued : s.located id = some .queue
      · exact Or.inl ((hread id).mpr hqueued)
      · exact Or.inr hqueued
  | readStarted started hphase hread =>
      rw [hphase] at h
      have hstarted := hread id
      grind
  | readDeferred deferred hphase hread =>
      rw [hphase] at h
      have hdeferred := hread id
      cases hlocated : s.located id with
      | none => exact absurd hlocated hwasLive
      | some collection => cases collection <;> grind
  | readScheduled scheduled hphase hread =>
      rw [hphase] at h
      have hscheduled := hread id
      grind

/-- A scan during which a live job does not become due does not miss it. -/
theorem activeScanComplete {id : RqJobId} {start finish : Scan}
    (hlive : LiveRun (notDuringScan id) id start finish)
    {queue started deferred scheduled : List RqJobId}
    (hdone : finish.phase = .done queue started deferred scheduled) {scanLimit : Nat}
    {fetchJob : RqJobId → Option RqJob} {preview : JobId} {ids : List JobId}
    (hpreview : scannedPreviewId fetchJob id = some preview)
    (hids : activePreviewJobIds scanLimit queue started deferred scheduled fetchJob = .ok ids) :
    preview ∈ ids ∧
    ∀ (settings : Settings) (now : Timestamp) (job : PreviewJob) (rest : List PreviewJob),
      job.id = preview → skipsCandidate settings now ids job = true ∧
        afterSecondScan ids preview job rest = .releasing preview rest := by
  obtain ⟨hbegun, hstartLive, hrun⟩ := hlive
  have hahead : finish.located id ≠ none ∧ finish.Ahead id := by
    refine Transition.invariant (P := fun s => s.located id ≠ none ∧ s.Ahead id)
      ⟨hstartLive, ?_⟩ ?_ hrun
    · rw [Scan.Ahead, hbegun]
      trivial
    · rintro s s' ⟨hstep, hlive⟩ ⟨hwasLive, hahead⟩
      exact ⟨hlive, ahead_step hstep hwasLive hlive hahead⟩
  have hread : id ∈ queue ++ started ++ deferred ++ scheduled := by
    have hread := hahead.2
    rwa [Scan.Ahead, hdone] at hread
  have hmem : preview ∈ ids := by
    rw [activePreviewJobIds_eq_ok hids]
    exact List.mem_filterMap.mpr ⟨id, List.mem_dedup.mpr hread, hpreview⟩
  refine ⟨hmem, fun settings now job rest hjob => ⟨?_, if_pos hmem⟩⟩
  exact decide_eq_true (Or.inl (by rw [hjob]; exact hmem))

theorem reads_nil {s : Scan} {collection : Collection}
    (h : ∀ id, s.located id ≠ some collection) : s.Reads collection [] :=
  fun id => ⟨fun hid => absurd hid List.not_mem_nil, fun hid => absurd hid (h id)⟩

/-- A job that a worker starts after the queue was read. -/
theorem activeScanComplete_started :
    ∃ ids, activePreviewJobIds 1000 [0] [0] [] []
        (fun _ => some ⟨processPreviewJobName, some 7⟩) = .ok ids ∧ 7 ∈ ids := by
  have run : ReflTransGen
      (fun s s' => ScanStep (notDuringScan 0) s s' ∧ s'.located 0 ≠ none)
      ⟨fun id => if id = 0 then some .queue else none, .begun⟩ _ :=
    .single ⟨.readQueue [0] rfl (by intro id; simp), by decide⟩
  have run := run.tail ⟨.start (k := 0) rfl, by decide⟩
  have run := run.tail ⟨.readStarted [0] rfl (by intro id; by_cases hid : id = 0 <;>
    simp [hid]), by decide⟩
  have run := run.tail ⟨.readDeferred [] rfl (reads_nil fun id => by by_cases hid : id = 0 <;>
    simp [hid]), by decide⟩
  have run := run.tail ⟨.readScheduled [] rfl (reads_nil fun id => by by_cases hid : id = 0 <;>
    simp [hid]), by decide⟩
  have hpreview : scannedPreviewId (fun _ => some ⟨processPreviewJobName, some 7⟩) 0 = some 7 :=
    rfl
  have hids : activePreviewJobIds 1000 [0] [0] [] []
      (fun _ => some ⟨processPreviewJobName, some 7⟩) = .ok _ := rfl
  exact ⟨_, hids, (activeScanComplete ⟨rfl, by decide, run⟩ rfl hpreview hids).1⟩

-- ============================================================================
-- A job that becomes due during the scan
-- ============================================================================

/-- One preview job, scheduled for a retry. -/
def oneScheduled : Scan where
  located := fun id => if id = 0 then some .scheduled else none
  phase := .begun

/-- The job is scheduled while the queue and the started registry are read, and queued while the
    scheduled registry is. -/
theorem activeScan_missesDueJob : ¬ ActiveScanComplete anyMoment := by
  intro hcomplete
  have run : ReflTransGen (fun s s' => ScanStep (anyMoment 0) s s' ∧ s'.located 0 ≠ none)
      oneScheduled _ :=
    .single ⟨.readQueue [] rfl (reads_nil fun id => by by_cases hid : id = 0 <;>
      simp [oneScheduled, hid]), by decide⟩
  have run := run.tail ⟨.readStarted [] rfl (reads_nil fun id => by by_cases hid : id = 0 <;>
    simp [oneScheduled, hid]), by decide⟩
  have run := run.tail ⟨.becomeDue (k := 0) trivial rfl, by decide⟩
  have run := run.tail ⟨.readDeferred [] rfl (reads_nil fun id => by by_cases hid : id = 0 <;>
    simp [oneScheduled, hid]), by decide⟩
  have run := run.tail ⟨.readScheduled [] rfl (reads_nil fun id => by by_cases hid : id = 0 <;>
    simp [oneScheduled, hid]), by decide⟩
  have hfound := hcomplete 0 _ _ ⟨rfl, by decide, run⟩ [] [] [] [] rfl 1000
    (fun _ => some ⟨processPreviewJobName, some 0⟩) 0 [] rfl rfl
  exact absurd hfound.1 List.not_mem_nil

end Queue
end TradingPlatform
